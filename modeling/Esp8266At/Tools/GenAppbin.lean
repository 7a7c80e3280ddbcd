import Esp8266At.Image

/-!
# `gen_appbin.py`

The tool that joins the sections of a linked firmware to the file that is flashed or downloaded. The
sections come as files cut from the ELF file, the addresses from its symbol table; the output file is
new, so that what is appended to it is all it holds.
-/

namespace Esp8266At.Tools

open ByteSpace

abbrev TEXT_ADDRESS : UInt32 := 0x40100000
abbrev BIN_MAGIC_FLASH : UInt8 := 0xE9
abbrev BIN_MAGIC_IROM : UInt8 := 0xEA

/-- The linked firmware: the contents of the section files, and the symbols `call_user_start`,
`_data_start` and `_rodata_start`. -/
structure Linked where
  irom0text : List UInt8
  text : List UInt8
  data : List UInt8
  rodata : List UInt8
  entryAddr : UInt32
  dataStartAddr : UInt32
  rodataStartAddr : UInt32

/-- The command line after the ELF file. -/
structure Args where
  bootMode : String
  flashMode : ℕ
  flashClkDiv : ℕ
  flashSizeMap : ℕ
  userBin : ℕ

/-- What has been appended to the output file, and `chk_sum`. -/
structure Written where
  file : List UInt8
  chkSum : UInt8

/-- `write_file`. -/
def Written.write (w : Written) (data : List UInt8) : Written := { w with file := w.file ++ data }

/-- `for loop in range(len(data_bin)): chk_sum ^= ord(data_bin[loop])`. -/
def Written.sum (w : Written) (data : List UInt8) : Written := { w with chkSum := xorSum w.chkSum data }

/-- `struct.pack` with `I`; `none` is the error for a number of more than 32 bits. -/
def pack32 (n : ℕ) : Option (List UInt8) := if n < 2 ^ 32 then some (bytes32 (UInt32.ofNat n)) else none

/-- `(n + k - 1) & (~(k - 1))`. -/
def alignUp (n k : ℕ) : ℕ := (n + (k - 1)) / k * k

/-- `combine_bin`: append a section with its header, padded with zeros; with `needChk`, add it to the
checksum. An empty section is left out. -/
def combineBin (content : List UInt8) (startOffsetAddr : UInt32) (needChk : Bool) (w : Written) :
    Option Written :=
  if content.length ≠ 0 then
    let tmpLen := if needChk then alignUp content.length 4 else alignUp content.length 16
    match pack32 tmpLen with
    | none => none
    | some len =>
      let w := (w.write (bytes32 startOffsetAddr ++ len)).write content
      let w := if needChk then w.sum content else w
      let tmpLen := tmpLen - content.length
      if tmpLen ≠ 0 then
        let w := w.write (List.replicate tmpLen 0)
        some (if needChk then w.sum (List.replicate tmpLen 0) else w)
      else some w
  else some w

/-- Eight steps of the CRC-32 register. -/
def crcStep (crc : UInt32) (b : UInt8) : UInt32 :=
  (fun c : UInt32 => (c >>> 1) ^^^ (if c &&& 1 = 1 then 0xEDB88320 else 0))^[8] (crc ^^^ b.toUInt32)

/-- `binascii.crc32` of a whole file: a signed number. -/
def getFileCRC (bs : List UInt8) : ℤ := (~~~(bs.foldl crcStep 0xFFFFFFFF)).toInt32.toInt

example : getFileCRC [0x31, 0x32, 0x33, 0x34, 0x35, 0x36, 0x37, 0x38, 0x39] = 0xCBF43926 - 2 ^ 32 := by
  decide +kernel

/-- The four bytes appended for `all_bin_crc`. -/
def crcBytes (allBinCrc : ℤ) : List UInt8 :=
  bytes32 (UInt32.ofNat (if allBinCrc < 0 then allBinCrc.natAbs - 1 else allBinCrc.natAbs + 1))

/-- `struct.pack('<BBBBI', ..)`. -/
def packHeader (magic count flags1 flags2 : UInt8) (entry : UInt32) : List UInt8 :=
  [magic, count, flags1, flags2] ++ bytes32 entry

/-- `gen_appbin`: the output file. -/
def genAppbin (elf : Linked) (args : Args) : Option (List UInt8) := do
  let byte2 := UInt8.ofNat args.flashMode
  let byte3 := UInt8.ofNat ((args.flashSizeMap <<< 4) ||| args.flashClkDiv)
  let app := UInt8.ofNat args.userBin
  let w : Written := ⟨[], CHECKSUM_INIT⟩
  let w ← if args.bootMode = "2" then
      combineBin elf.irom0text 0 false (w.write (packHeader BIN_MAGIC_IROM 4 0 app elf.entryAddr))
    else some w
  let w := if args.bootMode = "1" then w.write (packHeader BIN_MAGIC_FLASH 3 0 app elf.entryAddr)
    else w.write (packHeader BIN_MAGIC_FLASH 3 byte2 byte3 elf.entryAddr)
  let w ← combineBin elf.text TEXT_ADDRESS true w
  let w ← combineBin elf.data elf.dataStartAddr true w
  let w ← combineBin elf.rodata elf.rodataStartAddr true w
  -- never 0, as the size read is one more than the file's
  let sumSize := 16 - (0xF &&& (w.file.length + 1))
  let w := (w.write (List.replicate sumSize 0)).write [w.chkSum]
  let w := if args.bootMode = "1" then
      (w.write (List.replicate (0x10000 - w.file.length) 0xFF)).write elf.irom0text
    else w
  let w := if args.bootMode = "1" ∨ args.bootMode = "2" then w.write (crcBytes (getFileCRC w.file)) else w
  some w.file

/-! ### The layout of the file -/

/-- A section padded with zeros to a multiple of `k`. -/
def padTo (k : ℕ) (content : List UInt8) : List UInt8 :=
  content ++ List.replicate (alignUp content.length k - content.length) 0

/-- A section in the file: its header and its bytes. -/
def packSection (s : UInt32 × List UInt8) : List UInt8 :=
  bytes32 s.1 ++ bytes32 (UInt32.ofNat s.2.length) ++ s.2

/-- The three RAM sections of a firmware, padded. -/
def Linked.ramSections (elf : Linked) : List (UInt32 × List UInt8) :=
  [(TEXT_ADDRESS, padTo 4 elf.text), (elf.dataStartAddr, padTo 4 elf.data),
    (elf.rodataStartAddr, padTo 4 elf.rodata)]

/-- The padded sections do not overlap in RAM. -/
def Linked.Apart (elf : Linked) : Prop :=
  elf.ramSections.Pairwise fun s t => Disjoint (span s.1 s.2.length) (span t.1 t.2.length)

/-- Zeros up to the last byte of the row that ends behind `n` bytes. -/
def checkPadding (n : ℕ) : List UInt8 := List.replicate (16 - (0xF &&& (n + 1))) 0

theorem padTo_length (content : List UInt8) {k : ℕ} (hk : 0 < k) :
    (padTo k content).length = alignUp content.length k := by
  have hle : content.length ≤ alignUp content.length k := by
    have hdiv := Nat.div_add_mod (content.length + (k - 1)) k
    have hmod := Nat.mod_lt (content.length + (k - 1)) hk
    rw [Nat.mul_comm] at hdiv
    rw [alignUp]
    omega
  rw [padTo, List.length_append, List.length_replicate]
  omega

theorem alignUp_mod (n k : ℕ) : alignUp n k % k = 0 := Nat.mul_mod_left _ _

/-- A nonempty section is appended with its header. -/
theorem combineBin_some {content : List UInt8} {a : UInt32} {needChk : Bool} {w w' : Written} (hne : content ≠ [])
    (h : combineBin content a needChk w = some w') :
    (padTo (if needChk then 4 else 16) content).length < 2 ^ 32 ∧
      w'.file = w.file ++ packSection (a, padTo (if needChk then 4 else 16) content) ∧
      w'.chkSum = if needChk then xorSum w.chkSum (padTo 4 content) else w.chkSum := by
  have hlen : content.length ≠ 0 := mt List.eq_nil_of_length_eq_zero hne
  rw [combineBin, if_pos hlen] at h
  cases needChk with
  | false =>
    have hpad := padTo_length content (k := 16) (by decide)
    simp only [Bool.false_eq_true, if_false, pack32] at h ⊢
    rw [hpad]
    split_ifs at h with hlt hzero <;> simp only [Option.some.injEq] at h <;> subst h <;>
      refine ⟨hlt, ?_, rfl⟩ <;> simp only [Written.write, packSection, hpad, List.append_assoc] <;> rw [padTo]
    rw [not_not.mp hzero, List.replicate_zero, List.append_nil]
  | true =>
    have hpad := padTo_length content (k := 4) (by decide)
    simp only [if_true, pack32] at h ⊢
    rw [hpad]
    split_ifs at h with hlt hzero <;> simp only [Option.some.injEq] at h <;> subst h <;>
      refine ⟨hlt, ?_, ?_⟩ <;>
      simp only [Written.write, Written.sum, packSection, hpad, List.append_assoc, ← xorSum_append] <;> rw [padTo] <;>
      rw [not_not.mp hzero, List.replicate_zero, List.append_nil]

/-- The file of boot mode 2 up to the second header. -/
def Linked.front (elf : Linked) (args : Args) : List UInt8 :=
  packHeader BIN_MAGIC_IROM 4 0 (UInt8.ofNat args.userBin) elf.entryAddr ++ packSection (0, padTo 16 elf.irom0text)

/-- The second header. -/
def Linked.header2 (elf : Linked) (args : Args) : List UInt8 :=
  packHeader BIN_MAGIC_FLASH 3 (UInt8.ofNat args.flashMode)
    (UInt8.ofNat ((args.flashSizeMap <<< 4) ||| args.flashClkDiv)) elf.entryAddr

/-- The file of boot mode 2 up to the padding before the checksum byte. -/
def Linked.body (elf : Linked) (args : Args) : List UInt8 :=
  elf.front args ++ elf.header2 args ++ elf.ramSections.flatMap packSection

/-- The file of boot mode 2 up to the checksum byte. -/
def Linked.summed (elf : Linked) (args : Args) : List UInt8 :=
  elf.body args ++ checkPadding (elf.body args).length ++ [xorSum CHECKSUM_INIT (elf.ramSections.flatMap Prod.snd)]

/-- No section is empty. -/
def Linked.Whole (elf : Linked) : Prop :=
  elf.irom0text ≠ [] ∧ elf.text ≠ [] ∧ elf.data ≠ [] ∧ elf.rodata ≠ []

/-- The file written with boot mode 2. -/
theorem genAppbin_two {elf : Linked} {args : Args} {file : List UInt8} (hmode : args.bootMode = "2") (h : elf.Whole)
    (hfile : genAppbin elf args = some file) :
    (padTo 16 elf.irom0text).length < 2 ^ 32 ∧ (∀ s ∈ elf.ramSections, s.2.length < 2 ^ 32) ∧
      file = elf.summed args ++ crcBytes (getFileCRC (elf.summed args)) := by
  obtain ⟨hrom, htext, hdata, hrodata⟩ := h
  simp only [genAppbin, hmode, if_true, Option.bind_eq_bind, Option.bind_eq_some_iff,
    show ¬"2" = "1" by decide, if_false, or_true, Option.some.injEq] at hfile
  obtain ⟨w₁, h₁, w₂, h₂, w₃, h₃, w₄, h₄, rfl⟩ := hfile
  obtain ⟨hlen₁, hfile₁, hsum₁⟩ := combineBin_some hrom h₁
  obtain ⟨hlen₂, hfile₂, hsum₂⟩ := combineBin_some htext h₂
  obtain ⟨hlen₃, hfile₃, hsum₃⟩ := combineBin_some hdata h₃
  obtain ⟨hlen₄, hfile₄, hsum₄⟩ := combineBin_some hrodata h₄
  simp only [Bool.false_eq_true, if_false] at hlen₁ hfile₁ hsum₁
  simp only [if_true] at hlen₂ hfile₂ hsum₂ hlen₃ hfile₃ hsum₃ hlen₄ hfile₄ hsum₄
  have hbody : w₄.file = elf.body args := by
    rw [hfile₄, hfile₃, hfile₂]
    simp only [Written.write, hfile₁, Linked.body, Linked.front, Linked.header2, Linked.ramSections, List.flatMap_cons, List.flatMap_nil,
      List.nil_append, List.append_nil, List.append_assoc]
  have hsum : w₄.chkSum = xorSum CHECKSUM_INIT (elf.ramSections.flatMap Prod.snd) := by
    rw [hsum₄, hsum₃, hsum₂]
    simp only [Written.write, hsum₁, Linked.ramSections, List.flatMap_cons, List.flatMap_nil, List.append_nil,
      xorSum_append]
  refine ⟨hlen₁, ?_, ?_⟩
  · simpa [Linked.ramSections] using ⟨hlen₂, hlen₃, hlen₄⟩
  · simp only [Written.write, Linked.summed, checkPadding, hsum, hbody]

end Esp8266At.Tools
