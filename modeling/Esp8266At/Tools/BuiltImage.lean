import Esp8266At.Tools.GenAppbin
import Esp8266At.App.Accepted
import Esp8266At.Bootloader.RamImage

/-!
# The image checker accepts what the image builder writes

`gen_appbin.py`, `check_load_binary` and `check_firmware` each have their own formulas for the padding, the
place of the checksum byte and the length of an image. A file written with boot mode 2 is read back as the
image it was built from, whatever the lengths of its sections.
-/

namespace ByteSpace

variable {m : Space} {a : UInt32} {xs ys : List UInt8}

/-- `bs` stands at address `a`. -/
def StoredAt (m : Space) (a : UInt32) (bs : List UInt8) : Prop := slice m a bs.length = bs

theorem storedAt_append :
    StoredAt m a (xs ++ ys) ↔ StoredAt m a xs ∧ StoredAt m (a + UInt32.ofNat xs.length) ys := by
  rw [StoredAt, List.length_append, slice_add]
  constructor
  · exact fun h => List.append_inj h (slice_length _ _ _)
  · rintro ⟨hx, hy⟩
    rw [hx, hy]

theorem storedAt_iff : StoredAt m a xs ↔ ∀ (i : ℕ) (h : i < xs.length), m (a + UInt32.ofNat i) = xs[i] := by
  constructor
  · intro h i hi
    have hget := slice_getElem? m a xs.length i hi
    rw [h, List.getElem?_eq_getElem hi] at hget
    exact (Option.some.inj hget).symm
  · intro h
    refine List.ext_getElem (slice_length _ _ _) fun i _ hi => ?_
    rw [slice_getElem, h i hi]

theorem disjoint_span {a b : UInt32} {n k : ℕ} (ha : a.toNat + n ≤ 2 ^ 32) (hb : b.toNat + k ≤ 2 ^ 32)
    (h : a.toNat + n ≤ b.toNat ∨ b.toNat + k ≤ a.toNat) : Disjoint (span a n) (span b k) := by
  refine Set.disjoint_left.mpr fun x hx hy => ?_
  have hx := (mem_span_iff_of_le ha).mp hx
  have hy := (mem_span_iff_of_le hb).mp hy
  omega

end ByteSpace

namespace Esp8266At.Tools

open ByteSpace NorFlash

variable {f : Space} {a : UInt32}

/-! ### Reading back what was written -/

theorem headerAt_of_storedAt {magic count flags1 flags2 : UInt8} {entry : UInt32}
    (h : StoredAt f a (packHeader magic count flags1 flags2 entry)) :
    Image.headerAt f a = ⟨magic, count, flags1, flags2, entry⟩ := by
  have hslice : slice f a 8 = packHeader magic count flags1 flags2 entry := h
  rw [Image.headerAt, hslice]
  exact congrArg (Header.mk magic count flags1 flags2) (le32_bytes32 entry)

theorem sectionAt_of_storedAt {s : UInt32 × List UInt8} (h : StoredAt f a (packSection s)) :
    Image.sectionAt f a = ⟨s.1, UInt32.ofNat s.2.length⟩ ∧ StoredAt f (a + 8) s.2 := by
  obtain ⟨hhead, hbody⟩ := storedAt_append.mp h
  have hslice : slice f a 8 = bytes32 s.1 ++ bytes32 (UInt32.ofNat s.2.length) := hhead
  refine ⟨?_, hbody⟩
  rw [Image.sectionAt, hslice]
  exact congrArg₂ SectionHeader.mk (le32_bytes32_append _ _) (le32_bytes32 _)

/-- Section `t` of an image has the address and the bytes of section `s` of a file. -/
def SameSection (f : Space) (s : UInt32 × List UInt8) (t : Image.Section) : Prop :=
  t.address = s.1 ∧ t.length.toNat = s.2.length ∧ StoredAt f t.pos s.2

/-- Sections written one after another are found one after another. -/
theorem sections_of_storedAt {ss : List (UInt32 × List UInt8)} (hlen : ∀ s ∈ ss, s.2.length < 2 ^ 32)
    (h : StoredAt f a (ss.flatMap packSection)) (c : UInt8) :
    List.Forall₂ (SameSection f) ss (Image.sectionsFrom f ss.length a) ∧
      Image.sectionsEnd f ss.length a = a + UInt32.ofNat (ss.flatMap packSection).length ∧
      Image.sectionsXor f ss.length a c = xorSum c (ss.flatMap Prod.snd) := by
  induction ss generalizing a c with
  | nil => exact ⟨.nil, (UInt32.add_zero a).symm, rfl⟩
  | cons s ss ih =>
    rw [List.flatMap_cons] at h
    obtain ⟨hs, hss⟩ := storedAt_append.mp h
    obtain ⟨hsect, hcontent⟩ := sectionAt_of_storedAt hs
    have hlt := hlen s List.mem_cons_self
    have hnat : (UInt32.ofNat s.2.length).toNat = s.2.length := UInt32.toNat_ofNat_of_lt' hlt
    have hpack : (packSection s).length = 8 + s.2.length := by
      simp only [packSection, List.length_append, bytes32_length]
    have hnext : a + UInt32.ofNat (packSection s).length = a + 8 + UInt32.ofNat s.2.length := by
      rw [hpack]
      exact (add_ofNat_add a 8 _).symm
    rw [hnext] at hss
    obtain ⟨hsame, hend, hxor⟩ := ih (fun t ht => hlen t (List.mem_cons_of_mem s ht)) hss
      (xorSum c s.2)
    rw [List.length_cons, Image.sectionsFrom, Image.sectionsEnd, Image.sectionsXor, hsect]
    refine ⟨.cons ⟨rfl, hnat, hcontent⟩ hsame, ?_, ?_⟩
    · rw [hend, ← hnext, add_ofNat_add, List.flatMap_cons, List.length_append]
    · show Image.sectionsXor f ss.length _ (xorSum c (slice f (a + 8) (UInt32.ofNat s.2.length).toNat)) = _
      rw [hnat, hcontent, hxor, List.flatMap_cons, xorSum_append]

theorem exists_of_forall₂ {α β : Type} {R : α → β → Prop} {ss : List α} {ts : List β} (h : List.Forall₂ R ss ts)
    {s : α} (hs : s ∈ ss) : ∃ t ∈ ts, R s t := by
  induction h with
  | nil => exact absurd hs List.not_mem_nil
  | cons hst _ ih =>
    rcases List.mem_cons.mp hs with rfl | hs
    · exact ⟨_, List.mem_cons_self, hst⟩
    · obtain ⟨t, ht, hsame⟩ := ih hs
      exact ⟨t, List.mem_cons_of_mem _ ht, hsame⟩

/-- What holds of any two sections of the file holds of any two of the image. -/
theorem pairwise_of_forall₂ {ss : List (UInt32 × List UInt8)} {ts : List Image.Section}
    {P : UInt32 × List UInt8 → UInt32 × List UInt8 → Prop} {Q : Image.Section → Image.Section → Prop}
    (h : List.Forall₂ (SameSection f) ss ts) (hp : ss.Pairwise P)
    (hpq : ∀ s t s' t', SameSection f s s' → SameSection f t t' → P s t → Q s' t') : ts.Pairwise Q := by
  induction h with
  | nil => exact .nil
  | cons hst hrest ih =>
    obtain ⟨hhead, htail⟩ := List.pairwise_cons.mp hp
    refine List.pairwise_cons.mpr ⟨fun t' ht' => ?_, ih htail⟩
    obtain ⟨t, ht, hsame⟩ := exists_of_forall₂ hrest.flip ht'
    exact hpq _ _ _ _ hst hsame (hhead t ht)

/-! ### The checksum row -/

theorem or_fifteen (n : ℕ) : n ||| 15 = n / 16 * 16 + 15 := by
  have hsplit : n = 2 ^ 4 * (n / 16) + n % 16 := (Nat.div_add_mod n 16).symm
  have hlow : ∀ r < 16, r ||| 15 = 15 := by decide
  have hlt : n % 16 < 2 ^ 4 := Nat.mod_lt n (by decide)
  conv_lhs => rw [hsplit, Nat.two_pow_add_eq_or_of_lt hlt, Nat.or_assoc, hlow _ hlt,
    ← Nat.two_pow_add_eq_or_of_lt (by decide : 15 < 2 ^ 4)]
  omega

/-- Behind a multiple of four bytes the padding goes up to the last byte of the row. -/
theorem checkPadding_length {n : ℕ} (h : n % 4 = 0) : (checkPadding n).length = 15 - n % 16 := by
  have hand : 0xF &&& (n + 1) = (n + 1) % 16 := by
    rw [Nat.and_comm]
    exact Nat.and_two_pow_sub_one_eq_mod (n + 1) 4
  rw [checkPadding, List.length_replicate, hand]
  omega

theorem Linked.front_length (elf : Linked) (args : Args) :
    (elf.front args).length = 8 + 8 + (padTo 16 elf.irom0text).length := by
  simp only [front, packHeader, packSection, List.length_append, bytes32_length, List.length_cons, List.length_nil]
  omega

theorem Linked.body_length (elf : Linked) (args : Args) : (elf.body args).length % 4 = 0 := by
  have h := fun content : List UInt8 => padTo_length content (k := 4) (by decide)
  have hrom := padTo_length elf.irom0text (k := 16) (by decide)
  have h4 := fun content : List UInt8 => alignUp_mod content.length 4
  have h16 := alignUp_mod elf.irom0text.length 16
  have ht := h4 elf.text
  have hd := h4 elf.data
  have hr := h4 elf.rodata
  simp only [body, front_length, header2, ramSections, packHeader, packSection, List.flatMap_cons, List.flatMap_nil,
    List.length_append, List.length_cons, List.length_nil, bytes32_length, h, hrom]
  omega

/-- The checksum byte stands where the checker looks for it: at the end of the row the sections end in. -/
theorem checkAddr_of_tail {n k : ℕ} (ha : a.toNat % 16 = 0) (hn : n % 4 = 0) (hk : k = n + (15 - n % 16))
    (hfit : a.toNat + k < 2 ^ 32) : (a + UInt32.ofNat n ||| 0xF) - 3 = a + UInt32.ofNat (k - 3) := by
  have hend := add_ofNat_toNat a n (by omega)
  have hor : (a + UInt32.ofNat n ||| 0xF).toNat = a.toNat + k := by
    rw [UInt32.toNat_or, hend]
    show (a.toNat + n) ||| 15 = _
    rw [or_fifteen]
    omega
  apply UInt32.toNat_inj.mp
  rw [sub_toNat, hor, add_ofNat_toNat a (k - 3) (by omega)]
  show (2 ^ 32 - 3 + (a.toNat + k)) % 2 ^ 32 = _
  omega

/-! ### The stored file -/

/-- The image at `a` is the one `file` was written for. -/
structure Built (f : Space) (a : UInt32) (elf : Linked) (args : Args) (file : List UInt8) : Prop where
  headersOk : Image.HeadersOk f a
  sumOk : Image.SumOk f a
  bytes : Image.bytes f a = file
  length : Image.length f a = UInt32.ofNat file.length
  entry : Image.entry f a = elf.entryAddr
  flags1 : (Image.header2 f a).flags1 = UInt8.ofNat args.flashMode
  flags2 : (Image.header2 f a).flags2 = UInt8.ofNat ((args.flashSizeMap <<< 4) ||| args.flashClkDiv)
  sections : List.Forall₂ (SameSection f) elf.ramSections (Image.sections f a)

variable {elf : Linked} {args : Args} {file : List UInt8}

theorem built_of_storedAt (hmode : args.bootMode = "2") (hwhole : elf.Whole) (hfile : genAppbin elf args = some file)
    (ha : a.toNat % 16 = 0) (hfit : a.toNat + file.length ≤ 2 ^ 32) (hstored : StoredAt f a file) :
    Built f a elf args file := by
  obtain ⟨hrom, hram, rfl⟩ := genAppbin_two hmode hwhole hfile
  obtain ⟨hsummed, -⟩ := storedAt_append.mp hstored
  obtain ⟨hpadded, hchk⟩ := storedAt_append.mp hsummed
  obtain ⟨hbody, -⟩ := storedAt_append.mp hpadded
  obtain ⟨hupper, hsections⟩ := storedAt_append.mp hbody
  obtain ⟨hlower, hsecond⟩ := storedAt_append.mp hupper
  obtain ⟨hfirst, hsect⟩ := storedAt_append.mp hlower
  have hlen := elf.body_length args
  have hpad := checkPadding_length hlen
  set n := (elf.body args).length with hn
  -- the second header stands behind the ROM section
  have hsectionAt : Image.sectionAt f (a + 8) = ⟨0, UInt32.ofNat (padTo 16 elf.irom0text).length⟩ :=
    (sectionAt_of_storedAt hsect).1
  have haddr : Image.second f a = a + UInt32.ofNat (elf.front args).length := by
    rw [elf.front_length, Image.second, hsectionAt, ← add_ofNat_add, ← add_ofNat_add]
    rfl
  rw [← haddr] at hsecond
  have hheader1 := headerAt_of_storedAt hfirst
  have hheader2 : Image.header2 f a = _ := headerAt_of_storedAt hsecond
  have hcount : (Image.header2 f a).count.toNat = elf.ramSections.length := by
    rw [hheader2]
    rfl
  have hnext : Image.second f a + 8 = a + UInt32.ofNat (elf.front args ++ elf.header2 args).length := by
    rw [List.length_append, ← add_ofNat_add, ← haddr]
    rfl
  rw [← hnext] at hsections
  obtain ⟨hsame, hend, hxor⟩ := sections_of_storedAt hram hsections CHECKSUM_INIT
  rw [← hcount] at hsame hend hxor
  have htail : Image.tail f a = a + UInt32.ofNat n := by
    rw [Image.tail, hend, hnext, add_ofNat_add, hn, Linked.body,
      @List.length_append _ _ (elf.ramSections.flatMap _)]
  -- the checksum byte ends the row
  have hk : (elf.body args ++ checkPadding n).length = n + (15 - n % 16) := by
    rw [List.length_append, hpad]
  have hsize : (elf.summed args ++ crcBytes (getFileCRC (elf.summed args))).length = n + (15 - n % 16) + 5 := by
    rw [List.length_append, Linked.summed, List.length_append, ← hn, hk]
    rfl
  rw [hsize] at hfit
  have hcheck : Image.checkAddr f a = a + UInt32.ofNat (n + (15 - n % 16) - 3) := by
    rw [Image.checkAddr, htail]
    exact checkAddr_of_tail ha hlen rfl (by omega)
  have hlength : Image.length f a =
      UInt32.ofNat (elf.summed args ++ crcBytes (getFileCRC (elf.summed args))).length := by
    rw [Image.length, hcheck, hsize, show n + (15 - n % 16) + 5 = n + (15 - n % 16) - 3 + 8 by omega,
      UInt32.ofNat_add, UInt32.add_assoc, UInt32.add_comm a, UInt32.add_sub_cancel]
    rfl
  have hlt : n + (15 - n % 16) + 5 < 2 ^ 32 := by omega
  refine ⟨?_, ?_, ?_, hlength, ?_, ?_, ?_, hsame⟩
  · rw [Image.HeadersOk, hheader1, hheader2]
    exact ⟨⟨rfl, (by decide : (4 : UInt8) ≠ 0)⟩, rfl, (by decide : (3 : UInt8) ≠ 0)⟩
  · rw [hk] at hchk
    have hbyte := storedAt_iff.mp hchk 0 Nat.zero_lt_one
    rw [add_ofNat_add, Nat.add_zero, List.getElem_cons_zero] at hbyte
    rw [Image.SumOk, Image.sum, hxor, List.getD_eq_getElem?_getD, slice_getElem? _ _ _ _ (by decide), Option.getD_some,
      hcheck, add_ofNat_add, show n + (15 - n % 16) - 3 + 3 = n + (15 - n % 16) by omega]
    exact hbyte
  · rw [Image.bytes, hlength, UInt32.toNat_ofNat_of_lt' (by rw [hsize]; exact hlt)]
    exact hstored
  · rw [Image.entry, hheader2]
  · rw [hheader2]
  · rw [hheader2]

namespace Built

theorem mapMode (h : Built f a elf args file) (hflashMode : args.flashMode < 16) (hclk : args.flashClkDiv < 16)
    (hmap : args.flashSizeMap < 16) : Image.flashMap f a >>> 4 = UInt8.ofNat args.flashSizeMap ∧
      Image.mapMode f a = UInt8.ofNat ((args.flashSizeMap <<< 4) ||| args.flashMode) := by
  have hbits : ∀ i < 16, ∀ c < 16, UInt8.ofNat ((i <<< 4) ||| c) &&& (0xF0 : UInt8) = UInt8.ofNat (i <<< 4) := by
    decide +kernel
  have hshift : ∀ i < 16, UInt8.ofNat (i <<< 4) >>> 4 = UInt8.ofNat i := by decide
  have hjoin : ∀ i < 16, ∀ k < 16, UInt8.ofNat (i <<< 4) ||| (UInt8.ofNat k &&& (0x0F : UInt8)) =
      UInt8.ofNat ((i <<< 4) ||| k) := by decide +kernel
  rw [Image.mapMode, Image.flashMode, Image.flashMap, h.flags1, h.flags2, hbits _ hmap _ hclk]
  exact ⟨hshift _ hmap, hjoin _ hmap _ hflashMode⟩

/-- Sections that do not overlap in RAM are found there once they are copied. -/
theorem ram (h : Built f a elf args file) (hdisj : elf.Apart) (ram : Space) :
    ∀ s ∈ elf.ramSections, StoredAt (Image.load f a ram) s.1 s.2 := by
  have hdisjoint : Image.RamDisjoint f a := pairwise_of_forall₂ h.sections hdisj fun s t s' t' hs ht hst => by
    rw [Image.Section.ramSpan, Image.Section.ramSpan, hs.1, hs.2.1, ht.1, ht.2.1]
    exact hst
  intro s hs
  obtain ⟨t, ht, haddr, hlen, hstored⟩ := exists_of_forall₂ h.sections hs
  refine storedAt_iff.mpr fun i hi => ?_
  have hholds := Image.load_holds hdisjoint ram t ht i (by rw [hlen]; exact hi)
  rw [haddr] at hholds
  rw [hholds, storedAt_iff.mp hstored i hi]

end Built

theorem partAddr_mod (n : Part) : (partAddr n).toNat % 16 = 0 := by
  rw [partAddr_toNat]
  omega

variable {md5 : List UInt8 → Digest} {n : Part}

/-- The record of an image holds its length and digest. -/
theorem recorded_self (bi : BootInfo) (map : UInt8) (a : UInt32) (n : Part) (total : UInt32) (mapMode : UInt8)
    (digest : Digest) : (Bootloader.recorded bi map a n total mapMode digest).partLength n = total ∧
      (Bootloader.recorded bi map a n total mapMode digest).partMd5 n = digest :=
  ⟨Function.update_self n _ _, Function.update_self n _ _⟩

open Bootloader in
/-- A built image passes `check_load_binary`, which records it if its digest is not the recorded one. -/
theorem Built.checkLoadBinary {s : Boot} (h : Built s.spi.flash (partAddr n) elf args file) (hok : s.spi.AllOk)
    (hdisj : elf.Apart) (hmap : Image.MapOk s.spi.flash (partAddr n) s.bootFlashMap) {save : Bool}
    (hsave : save = true ∨ s.bootInfo.partMd5 n = md5 file) :
    ∃ s', Bootloader.checkLoadBinary md5 (partAddr n) n save s = (elf.entryAddr, s') ∧
      (∀ t ∈ elf.ramSections, StoredAt s'.ram t.1 t.2) ∧
      (s.bootInfo.partMd5 n = md5 file → s'.spi = s.spi ∧ s'.bootInfo = s.bootInfo) ∧
      (s.bootInfo.partMd5 n ≠ md5 file →
        (bootInfoAt s'.spi.flash).partLength n = UInt32.ofNat file.length ∧
          (bootInfoAt s'.spi.flash).partMd5 n = md5 file) := by
  have hcall := @checkLoadBinary_eq md5 _ hok (partAddr n) n save
  rw [if_neg (not_or.mpr ⟨not_not.mpr h.headersOk, not_not.mpr hmap⟩), if_neg (not_not.mpr h.sumOk), h.bytes,
    h.entry] at hcall
  have hram := h.ram hdisj s.ram
  by_cases hdigest : s.bootInfo.partMd5 n = md5 file
  · rw [if_pos hdigest.symm] at hcall
    exact ⟨_, hcall, hram, fun _ => ⟨rfl, rfl⟩, fun hne => absurd hdigest hne⟩
  · rw [if_neg (Ne.symm hdigest), if_pos (hsave.resolve_right hdigest)] at hcall
    refine ⟨_, hcall, hram, fun heq => absurd heq hdigest, fun _ => ?_⟩
    rw [Boot.record_flash, bootInfoAt_save]
    obtain ⟨hlength, hmd5⟩ := recorded_self (bootInfoAt s.spi.flash) s.map (partAddr n) n (Image.length s.spi.flash (partAddr n))
      (Image.mapMode s.spi.flash (partAddr n)) (md5 (Image.bytes s.spi.flash (partAddr n)))
    exact ⟨hlength.trans h.length, hmd5.trans (congrArg md5 h.bytes)⟩

open App in
/-- A built image passes `check_firmware`, which records it. -/
theorem Built.checkFirmware {s : App} (h : Built s.spi.flash (partAddr n) elf args file) (hok : s.spi.AllOk)
    (hheap : s.heap 0 = true) (haddr : s.upgradeFlashAddr = partAddr n)
    (hmap : s.upgradeFlashMap = Image.mapMode s.spi.flash (partAddr n))
    (hmd5 : CString.strlen s.updateMd5 = 32 → s.updateMd5.take 32 = digestText (md5 file)) :
    ∃ s', App.checkFirmware md5 (appN n) s = (elf.entryAddr, s') ∧
      (bootInfoAt s'.spi.flash).partLength n = UInt32.ofNat file.length ∧
        (bootInfoAt s'.spi.flash).partMd5 n = md5 file := by
  have hchecks : s.Checks md5 := by
    refine ⟨Or.inl ?_, ?_, ?_, hheap, ?_, hok.okFrom _ _⟩
    · rw [MapExpected, haddr, hmap]
    · rw [haddr]
      exact h.headersOk
    · rw [haddr]
      exact h.sumOk
    · rw [Md5Ok, haddr, h.bytes]
      exact fun hne => hne.2 (hmd5 hne.1)
  obtain ⟨s', hcall, hchecked⟩ := (checkFirmware_spec md5 s (appN n)).2 hchecks
  have hflash := hchecked.flash
  rw [if_pos (hok _), if_pos (hok _)] at hflash
  rw [if_pos ⟨hok _, hok _⟩, haddr, h.entry] at hcall
  refine ⟨s', hcall, ?_⟩
  rw [hflash, bootInfoAt_save, newRecord_part, haddr, h.bytes, h.length]
  exact ⟨Function.update_self n _ _, Function.update_self n _ _⟩

/-- `F` is the file written with boot mode 2 for flash map `flash_size_map`, and stored at `a`. -/
structure Stored (f : Space) (a : UInt32) (elf : Linked) (args : Args) (file : List UInt8) : Prop where
  bootMode : args.bootMode = "2"
  whole : elf.Whole
  apart : elf.Apart
  entry : elf.entryAddr ≠ 0
  flashMode : args.flashMode < 16
  flashClkDiv : args.flashClkDiv < 16
  flashSizeMap : args.flashSizeMap < 16
  written : genAppbin elf args = some file
  fits : a.toNat + file.length ≤ 2 ^ 32
  stored : StoredAt f a file

theorem Stored.built (h : Stored f (partAddr n) elf args file) : Built f (partAddr n) elf args file :=
  built_of_storedAt h.bootMode h.whole h.written (partAddr_mod n) h.fits h.stored

/-- **Both checkers accept what the builder writes**: the hashed bytes are the file, its padded sections reach
RAM, and its length and digest are recorded, by the bootloader unless the digest was recorded before. -/
theorem built_image_accepted (h : Stored f (partAddr n) elf args file) :
    Image.bytes f (partAddr n) = file ∧
    (∀ (s : Bootloader.Boot) (save : Bool), s.spi.AllOk → s.spi.flash = f →
      s.bootFlashMap = UInt8.ofNat args.flashSizeMap → save = true ∨ s.bootInfo.partMd5 n = md5 file →
      ∃ s', Bootloader.checkLoadBinary md5 (partAddr n) n save s = (elf.entryAddr, s') ∧
        (∀ t ∈ elf.ramSections, StoredAt s'.ram t.1 t.2) ∧
        (s.bootInfo.partMd5 n = md5 file → s'.spi = s.spi ∧ s'.bootInfo = s.bootInfo) ∧
        (s.bootInfo.partMd5 n ≠ md5 file →
          (bootInfoAt s'.spi.flash).partLength n = UInt32.ofNat file.length ∧
            (bootInfoAt s'.spi.flash).partMd5 n = md5 file)) ∧
    ∀ s : App, s.spi.AllOk → s.spi.flash = f → s.heap 0 = true → s.upgradeFlashAddr = partAddr n →
      s.upgradeFlashMap = UInt8.ofNat ((args.flashSizeMap <<< 4) ||| args.flashMode) →
      (CString.strlen s.updateMd5 = 32 → s.updateMd5.take 32 = App.digestText (md5 file)) →
      ∃ s', App.checkFirmware md5 (App.appN n) s = (elf.entryAddr, s') ∧
        (bootInfoAt s'.spi.flash).partLength n = UInt32.ofNat file.length ∧
          (bootInfoAt s'.spi.flash).partMd5 n = md5 file := by
  have hbuilt := h.built
  obtain ⟨hmap, hmode⟩ := hbuilt.mapMode h.flashMode h.flashClkDiv h.flashSizeMap
  refine ⟨hbuilt.bytes, ?_, ?_⟩
  · rintro s save hok rfl hboot hsave
    exact hbuilt.checkLoadBinary hok h.apart (Or.inr (Or.inl (hmap.trans hboot.symm))) hsave
  · rintro s hok rfl hheap haddr hexpected hmd5
    exact hbuilt.checkFirmware hok hheap haddr (hexpected.trans hmode.symm) hmd5

/-- A firmware with one byte in each section. -/
def smallFirmware : Linked where
  irom0text := [1]
  text := [2]
  data := [3]
  rodata := [4]
  entryAddr := 0x40100004
  dataStartAddr := 0x3FFE8000
  rodataStartAddr := 0x3FFE8010

def smallArgs : Args := ⟨"2", 0, 0, 2, 0⟩

/-- The file built from it. -/
def smallFile : List UInt8 := (genAppbin smallFirmware smallArgs).getD []

/-- Partition 0 holds the file, and the boot configuration its digest with a wrong length. -/
def smallFlash : Space := burn [(0, bootHeader 0 0x20), (partAddr 0, smallFile),
  (BOOT_PARAM_ADDR, BootInfo.bytes
    { bootPart := magicWord 0
      bootAddr := partAddr 0
      partLength := fun _ => 0
      partMd5 := fun _ => Md5.digest smallFile
      partType := fun _ => 0x20 })]

/-- The bootloader with that flash, after it has read the boot configuration. -/
def smallBoot : Bootloader.Boot :=
  { Bootloader.Boot.atReset smallFlash (fun _ => 0) with bootInfo := bootInfoAt smallFlash, bootFlashMap := 2 }

/-- The file that is written, and what the bootloader finds of it. -/
theorem smallFile_facts :
    (smallFirmware.ramSections.Pairwise fun s t =>
      (s.1.toNat + s.2.length ≤ 2 ^ 32 ∧ t.1.toNat + t.2.length ≤ 2 ^ 32) ∧
        (s.1.toNat + s.2.length ≤ t.1.toNat ∨ t.1.toNat + t.2.length ≤ s.1.toNat)) ∧
    genAppbin smallFirmware smallArgs = some smallFile ∧ (partAddr 0).toNat + smallFile.length ≤ 2 ^ 32 ∧
    slice smallFlash (partAddr 0) smallFile.length = smallFile ∧ 2 = Bootloader.bootMapAt smallBoot.spi.flash ∧
    (bootInfoAt (Bootloader.checkLoadBinary Md5.digest (partAddr 0) 0 true smallBoot).2.spi.flash).partLength 0 ≠
      UInt32.ofNat smallFile.length := by
  decide +kernel

theorem smallFirmware_apart : smallFirmware.Apart :=
  smallFile_facts.1.imp fun h => disjoint_span h.1.1 h.1.2 h.2

theorem smallFlash_stored : Stored smallFlash (partAddr 0) smallFirmware smallArgs smallFile where
  bootMode := rfl
  whole := ⟨by decide, by decide, by decide, by decide⟩
  apart := smallFirmware_apart
  entry := by decide
  flashMode := by decide
  flashClkDiv := by decide
  flashSizeMap := by decide
  written := smallFile_facts.2.1
  fits := smallFile_facts.2.2.1
  stored := smallFile_facts.2.2.2.1

theorem built_image_accepted_smallFirmware :
    Image.bytes smallFlash (partAddr 0) = smallFile ∧
    (∀ (s : Bootloader.Boot) (save : Bool), s.spi.AllOk → s.spi.flash = smallFlash →
      s.bootFlashMap = UInt8.ofNat smallArgs.flashSizeMap → save = true ∨ s.bootInfo.partMd5 0 = Md5.digest smallFile →
      ∃ s', Bootloader.checkLoadBinary Md5.digest (partAddr 0) 0 save s = (0x40100004, s') ∧
        (∀ t ∈ smallFirmware.ramSections, StoredAt s'.ram t.1 t.2) ∧
        (s.bootInfo.partMd5 0 = Md5.digest smallFile → s'.spi = s.spi ∧ s'.bootInfo = s.bootInfo) ∧
        (s.bootInfo.partMd5 0 ≠ Md5.digest smallFile →
          (bootInfoAt s'.spi.flash).partLength 0 = UInt32.ofNat smallFile.length ∧
            (bootInfoAt s'.spi.flash).partMd5 0 = Md5.digest smallFile)) ∧
    ∀ s : App, s.spi.AllOk → s.spi.flash = smallFlash → s.heap 0 = true → s.upgradeFlashAddr = partAddr 0 →
      s.upgradeFlashMap = UInt8.ofNat ((smallArgs.flashSizeMap <<< 4) ||| smallArgs.flashMode) →
      (CString.strlen s.updateMd5 = 32 → s.updateMd5.take 32 = App.digestText (Md5.digest smallFile)) →
      ∃ s', App.checkFirmware Md5.digest (App.appN 0) s = (0x40100004, s') ∧
        (bootInfoAt s'.spi.flash).partLength 0 = UInt32.ofNat smallFile.length ∧
          (bootInfoAt s'.spi.flash).partMd5 0 = Md5.digest smallFile :=
  built_image_accepted smallFlash_stored

/-- Where the digest is recorded already, saving records nothing, not even the right length. -/
theorem not_built_image_recorded : ¬∀ (elf : Linked) (args : Args) (file : List UInt8) (n : Part) (s : Bootloader.Boot),
    Stored s.spi.flash (partAddr n) elf args file → s.Ready → s.bootFlashMap = UInt8.ofNat args.flashSizeMap →
    (bootInfoAt (Bootloader.checkLoadBinary Md5.digest (partAddr n) n true s).2.spi.flash).partLength n =
      UInt32.ofNat file.length := by
  intro h
  have hready : smallBoot.Ready := ⟨fun _ => rfl, rfl, smallFile_facts.2.2.2.2.1⟩
  exact smallFile_facts.2.2.2.2.2 (h smallFirmware smallArgs smallFile 0 smallBoot smallFlash_stored hready rfl)

end Esp8266At.Tools
