import Esp8266At.BootInfo

/-!
# Firmware images

What stands in the flash from an address on, read as a firmware image: a header with magic `0xEA`,
the section mapped from the flash (skipped by its length), a second header with magic `0xE9` that
names the entry point and the number of RAM sections, these sections, and padding up to the
checksum byte at the last address of a 16-byte row. Four more bytes follow, and the MD5 digest
covers everything from the first header to them.

`check_load_binary` and `check_firmware` walk this structure each in its own way; the facts here
are about the flash alone. All of them depend only on the bytes in `Image.reads`.
-/

namespace Esp8266At

open ByteSpace NorFlash

/-- `binary_header`. -/
structure Header where
  magic : UInt8
  count : UInt8
  flags1 : UInt8
  flags2 : UInt8
  entry : UInt32
  deriving DecidableEq

/-- A `binary_header` read over eight bytes. -/
def Header.ofBytes (bs : List UInt8) : Header where
  magic := bs.getD 0 0
  count := bs.getD 1 0
  flags1 := bs.getD 2 0
  flags2 := bs.getD 3 0
  entry := le32 (bs.drop 4)

structure SectionHeader where
  address : UInt32
  length : UInt32
  deriving DecidableEq

/-- A `section_header` read over eight bytes. -/
def SectionHeader.ofBytes (bs : List UInt8) : SectionHeader where
  address := le32 bs
  length := le32 (bs.drop 4)

/-- The XOR of bytes into a running checksum. -/
def xorSum (checksum : UInt8) (bs : List UInt8) : UInt8 := bs.foldl (· ^^^ ·) checksum

theorem xorSum_replicate_two (c b : UInt8) (k : ℕ) : xorSum c (List.replicate (2 * k) b) = c := by
  induction k generalizing c with
  | zero => rfl
  | succ k ih =>
    rw [Nat.mul_succ, List.replicate_succ, List.replicate_succ]
    show xorSum (c ^^^ b ^^^ b) (List.replicate (2 * k) b) = c
    rw [UInt8.xor_assoc, UInt8.xor_self, UInt8.xor_zero, ih]

theorem xorSum_append (c : UInt8) (xs ys : List UInt8) : xorSum c (xs ++ ys) = xorSum (xorSum c xs) ys :=
  List.foldl_append

namespace Image

def headerAt (f : Space) (a : UInt32) : Header := Header.ofBytes (slice f a 8)

def sectionAt (f : Space) (a : UInt32) : SectionHeader := SectionHeader.ofBytes (slice f a 8)

/-! ### The RAM sections -/

/-- A RAM section: its bytes stand at `pos` in the flash and belong at `address` in RAM. -/
structure Section where
  address : UInt32
  pos : UInt32
  length : UInt32
  deriving DecidableEq

/-- The `n` sections whose headers and contents follow one another from `a` on. -/
def sectionsFrom (f : Space) : ℕ → UInt32 → List Section
  | 0, _ => []
  | n + 1, a => ⟨(sectionAt f a).address, a + 8, (sectionAt f a).length⟩ ::
      sectionsFrom f n (a + 8 + (sectionAt f a).length)

/-- The address after these sections. -/
def sectionsEnd (f : Space) : ℕ → UInt32 → UInt32
  | 0, a => a
  | n + 1, a => sectionsEnd f n (a + 8 + (sectionAt f a).length)

/-- The number of bytes they take, headers included. -/
def sectionsSize (f : Space) : ℕ → UInt32 → ℕ
  | 0, _ => 0
  | n + 1, a => 8 + (sectionAt f a).length.toNat + sectionsSize f n (a + 8 + (sectionAt f a).length)

/-- The checksum after their contents. -/
def sectionsXor (f : Space) : ℕ → UInt32 → UInt8 → UInt8
  | 0, _, c => c
  | n + 1, a, c => sectionsXor f n (a + 8 + (sectionAt f a).length)
      (xorSum c (slice f (a + 8) (sectionAt f a).length.toNat))

/-- RAM after copying a section to its place. -/
def Section.load (f : Space) (ram : Space) (s : Section) : Space :=
  store ram s.address (slice f s.pos s.length.toNat)

/-- RAM after copying sections to their places, in order. -/
def loadAll (f : Space) (ss : List Section) (ram : Space) : Space := ss.foldl (Section.load f) ram

/-- The RAM addresses of a section. -/
def Section.ramSpan (s : Section) : Set UInt32 := span s.address s.length.toNat

/-! ### The image at an address -/

section
variable (f : Space) (a : UInt32)

/-- Where the second header stands. -/
def second : UInt32 := a + 8 + 8 + (sectionAt f (a + 8)).length

/-- The second header. -/
def header2 : Header := headerAt f (second f a)

def sections : List Section := sectionsFrom f (header2 f a).count.toNat (second f a + 8)

/-- The address after the last section. -/
def tail : UInt32 := sectionsEnd f (header2 f a).count.toNat (second f a + 8)

/-- The last four bytes of the row the sections end in; the checksum is the last of them. -/
def checkAddr : UInt32 := (tail f a ||| 0xF) - 3

/-- The checksum of the sections. -/
def sum : UInt8 := sectionsXor f (header2 f a).count.toNat (second f a + 8) CHECKSUM_INIT

/-- The number of bytes the MD5 digest covers. -/
def length : UInt32 := checkAddr f a + 8 - a

/-- The bytes the MD5 digest covers. -/
def bytes : List UInt8 := slice f a (length f a).toNat

def entry : UInt32 := (header2 f a).entry

def flashMap : UInt8 := (header2 f a).flags2 &&& 0xF0

def flashMode : UInt8 := (header2 f a).flags1 &&& 0x0F

/-- `flash_map | flash_mode`, as recorded in `part_type`. -/
def mapMode : UInt8 := flashMap f a ||| flashMode f a

/-- Both headers have their magic number and at least one section. -/
def HeadersOk : Prop :=
  ((headerAt f a).magic = HEADER_MAGIC ∧ (headerAt f a).count ≠ 0) ∧
    ((header2 f a).magic = SECTION_MAGIC ∧ (header2 f a).count ≠ 0)

/-- The checksum byte is the checksum of the sections. -/
def SumOk : Prop := (slice f (checkAddr f a) 4).getD 3 0 = sum f a

/-- The image was built for flash map `bootMap`, `0xFF` standing for an unknown map. -/
def MapOk (bootMap : UInt8) : Prop :=
  bootMap = 0xFF ∨ flashMap f a >>> 4 = bootMap ∨ (flashMap f a >>> 4 = 2 ∧ bootMap = 0)

/-- The image passes the header, map and checksum checks. -/
def Sound (bootMap : UInt8) : Prop := HeadersOk f a ∧ MapOk f a bootMap ∧ SumOk f a

instance : Decidable (HeadersOk f a) := inferInstanceAs (Decidable (_ ∧ _))
instance : Decidable (SumOk f a) := inferInstanceAs (Decidable (_ = _))
instance (bootMap : UInt8) : Decidable (MapOk f a bootMap) := inferInstanceAs (Decidable (_ ∨ _))
instance (bootMap : UInt8) : Decidable (Sound f a bootMap) := inferInstanceAs (Decidable (_ ∧ _))

/-- RAM after copying every section to its place, in order. -/
def load (ram : Space) : Space := loadAll f (sections f a) ram

/-- The addresses at which the image is read. -/
def reads : Set UInt32 :=
  span a 16 ∪ span (second f a) (8 + sectionsSize f (header2 f a).count.toNat (second f a + 8)) ∪
    span (checkAddr f a) 4 ∪ span a (length f a).toNat

end

theorem not_mapOk_iff {f : Space} {a : UInt32} {bootMap : UInt8} : ¬MapOk f a bootMap ↔
    bootMap ≠ 0xFF ∧ flashMap f a >>> 4 ≠ bootMap ∧ ¬(flashMap f a >>> 4 = 2 ∧ bootMap = 0) := by
  rw [MapOk, not_or, not_or]

theorem header_ofBytes_slice (f : Space) (a : UInt32) : Header.ofBytes (slice f a 8) = headerAt f a := rfl

theorem section_ofBytes_slice (f : Space) (a : UInt32) :
    SectionHeader.ofBytes (slice f a 8) = sectionAt f a := rfl

theorem second_eq (f : Space) (a : UInt32) : a + 8 + 8 + (sectionAt f (a + 8)).length = second f a := rfl

theorem headerAt_second (f : Space) (a : UInt32) : headerAt f (second f a) = header2 f a := rfl

theorem checkAddr_eq (f : Space) (a : UInt32) : (tail f a ||| 0xF) - 3 = checkAddr f a := rfl

theorem length_eq (f : Space) (a : UInt32) : checkAddr f a + 8 - a = length f a := rfl

theorem sectionsEnd_eq (f : Space) (n : ℕ) (a : UInt32) :
    sectionsEnd f n a = a + UInt32.ofNat (sectionsSize f n a) := by
  induction n generalizing a with
  | zero => simp [sectionsEnd, sectionsSize]
  | succ n ih =>
    rw [sectionsEnd, ih, sectionsSize, UInt32.ofNat_add, UInt32.ofNat_add, UInt32.ofNat_toNat]
    simp only [UInt32.add_assoc]
    rfl

/-! ### Only the bytes read matter -/

section
variable {f g : Space} {a : UInt32}

theorem headerAt_congr (h : ∀ x ∈ span a 8, f x = g x) : headerAt f a = headerAt g a := by
  rw [headerAt, headerAt, slice_congr h]

theorem sectionAt_congr (h : ∀ x ∈ span a 8, f x = g x) : sectionAt f a = sectionAt g a := by
  rw [sectionAt, sectionAt, slice_congr h]

/-- The first section of a run and what follows it are inside the run. -/
theorem sections_split {n : ℕ} (h : ∀ x ∈ span a (sectionsSize f (n + 1) a), f x = g x) :
    (∀ x ∈ span a 8, f x = g x) ∧
      (∀ x ∈ span (a + 8) (sectionAt f a).length.toNat, f x = g x) ∧
      ∀ x ∈ span (a + 8 + (sectionAt f a).length)
        (sectionsSize f n (a + 8 + (sectionAt f a).length)), f x = g x := by
  have hsplit : span a (sectionsSize f (n + 1) a) =
      span a 8 ∪ span (a + 8) (sectionAt f a).length.toNat ∪
        span (a + 8 + (sectionAt f a).length)
          (sectionsSize f n (a + 8 + (sectionAt f a).length)) := by
    rw [sectionsSize, span_add, span_add, UInt32.ofNat_add, UInt32.ofNat_toNat, ← UInt32.add_assoc]
    rfl
  rw [hsplit] at h
  exact ⟨fun x hx => h x (Or.inl (Or.inl hx)), fun x hx => h x (Or.inl (Or.inr hx)),
    fun x hx => h x (Or.inr hx)⟩

theorem sectionsFrom_congr {n : ℕ} (h : ∀ x ∈ span a (sectionsSize f n a), f x = g x) :
    sectionsFrom f n a = sectionsFrom g n a ∧ sectionsSize f n a = sectionsSize g n a ∧
      ∀ c, sectionsXor f n a c = sectionsXor g n a c := by
  induction n generalizing a with
  | zero => exact ⟨rfl, rfl, fun _ => rfl⟩
  | succ n ih =>
    obtain ⟨hhead, hbody, hrest⟩ := sections_split h
    have hsec := sectionAt_congr hhead
    obtain ⟨ih1, ih2, ih3⟩ := ih hrest
    refine ⟨?_, ?_, fun c => ?_⟩
    · rw [sectionsFrom, sectionsFrom, ← hsec, ih1]
    · rw [sectionsSize, sectionsSize, ← hsec, ih2]
    · rw [sectionsXor, sectionsXor, ← hsec, slice_congr hbody, ih3]

/-- Every byte loaded to RAM is one of the bytes of the sections. -/
theorem sectionsFrom_span {n : ℕ} {s : Section} (hs : s ∈ sectionsFrom f n a) :
    span s.pos s.length.toNat ⊆ span a (sectionsSize f n a) := by
  induction n generalizing a with
  | zero => simp [sectionsFrom] at hs
  | succ n ih =>
    have hsplit : span a (sectionsSize f (n + 1) a) =
        span a 8 ∪ span (a + 8) (sectionAt f a).length.toNat ∪
          span (a + 8 + (sectionAt f a).length)
            (sectionsSize f n (a + 8 + (sectionAt f a).length)) := by
      rw [sectionsSize, span_add, span_add, UInt32.ofNat_add, UInt32.ofNat_toNat, ← UInt32.add_assoc]
      rfl
    rw [hsplit]
    rcases List.mem_cons.mp hs with rfl | hs
    · exact fun x hx => Or.inl (Or.inr hx)
    · exact fun x hx => Or.inr (ih hs hx)

/-- Two flash contents that agree on the bytes an image is read at hold the same image there. -/
structure Same (f g : Space) (a : UInt32) : Prop where
  header : headerAt f a = headerAt g a
  second : second f a = second g a
  header2 : header2 f a = header2 g a
  sections : sections f a = sections g a
  tail : tail f a = tail g a
  sum : sum f a = sum g a
  check : slice f (checkAddr f a) 4 = slice g (checkAddr g a) 4
  bytes : bytes f a = bytes g a
  reads : reads f a = reads g a
  loads : ∀ s ∈ Image.sections f a, slice f s.pos s.length.toNat = slice g s.pos s.length.toNat

theorem same_of_reads (h : ∀ x ∈ reads f a, f x = g x) : Same f g a := by
  have hfirst : ∀ x ∈ span a 16, f x = g x := fun x hx => h x (Or.inl (Or.inl (Or.inl hx)))
  have hbody : ∀ x ∈ span (second f a)
      (8 + sectionsSize f (header2 f a).count.toNat (second f a + 8)), f x = g x :=
    fun x hx => h x (Or.inl (Or.inl (Or.inr hx)))
  have hcheck : ∀ x ∈ span (checkAddr f a) 4, f x = g x := fun x hx => h x (Or.inl (Or.inr hx))
  have hhash : ∀ x ∈ span a (length f a).toNat, f x = g x := fun x hx => h x (Or.inr hx)
  rw [show (16 : ℕ) = 8 + 8 from rfl, span_add] at hfirst
  rw [span_add] at hbody
  have hrom : sectionAt f (a + 8) = sectionAt g (a + 8) :=
    sectionAt_congr fun x hx => hfirst x (Or.inr hx)
  have hsecond : second f a = second g a := by rw [second, second, hrom]
  have hheader2 : header2 f a = header2 g a := by
    rw [header2, header2, headerAt_congr fun x hx => hbody x (Or.inl hx), hsecond]
  obtain ⟨hs, hsize, hxor⟩ := sectionsFrom_congr fun x hx => hbody x (Or.inr hx)
  have htail : tail f a = tail g a := by
    rw [tail, tail, sectionsEnd_eq, sectionsEnd_eq, ← hheader2, ← hsecond]
    exact congrArg (fun n => second f a + 8 + UInt32.ofNat n) hsize
  have hcheckAddr : checkAddr f a = checkAddr g a := by rw [checkAddr, checkAddr, htail]
  have hlength : length f a = length g a := by rw [length, length, hcheckAddr]
  refine ⟨headerAt_congr fun x hx => hfirst x (Or.inl hx), hsecond, hheader2, ?_, htail, ?_, ?_, ?_,
    ?_, fun s hs => slice_congr fun x hx => hbody x (Or.inr (sectionsFrom_span hs hx))⟩
  · rw [sections, sections, ← hheader2, ← hsecond]
    exact hs
  · rw [sum, sum, ← hheader2, ← hsecond]
    exact hxor _
  · rw [← hcheckAddr, slice_congr hcheck]
  · rw [bytes, bytes, ← hlength, slice_congr hhash]
  · rw [reads, reads, ← hheader2, ← hsecond, ← hcheckAddr, ← hlength]
    rw [show sectionsSize f (header2 f a).count.toNat (second f a + 8) =
      sectionsSize g (header2 f a).count.toNat (second f a + 8) from hsize]

namespace Same

theorem entry (h : Same f g a) : entry f a = entry g a := congrArg Header.entry h.header2

theorem length (h : Same f g a) : length f a = length g a := by
  rw [Image.length, Image.length, checkAddr, checkAddr, h.tail]

theorem flashMap (h : Same f g a) : flashMap f a = flashMap g a := by
  rw [Image.flashMap, Image.flashMap, h.header2]

theorem mapMode (h : Same f g a) : mapMode f a = mapMode g a := by
  rw [Image.mapMode, Image.mapMode, Image.flashMode, Image.flashMode, h.flashMap, h.header2]

theorem headersOk (h : Same f g a) : HeadersOk f a ↔ HeadersOk g a := by
  rw [HeadersOk, HeadersOk, h.header, h.header2]

theorem mapOk (h : Same f g a) (bootMap : UInt8) : MapOk f a bootMap ↔ MapOk g a bootMap := by
  rw [MapOk, MapOk, h.flashMap]

theorem sumOk (h : Same f g a) : SumOk f a ↔ SumOk g a := by
  rw [SumOk, SumOk, h.check, h.sum]

theorem sound (h : Same f g a) (bootMap : UInt8) : Sound f a bootMap ↔ Sound g a bootMap := by
  rw [Sound, Sound, h.headersOk, h.mapOk, h.sumOk]

theorem load (h : Same f g a) (ram : Space) : load f a ram = load g a ram := by
  rw [Image.load, Image.load, ← h.sections, loadAll, loadAll]
  refine List.foldl_ext _ _ _ fun r s hs => ?_
  rw [Section.load, Section.load, h.loads s hs]

end Same

end

end Image

/-! ### Where an image lies -/

namespace Image

/-- Every byte the image at `a` is read at lies in the `size` bytes from `a` on. -/
def Inside (f : Space) (a : UInt32) (size : ℕ) : Prop := reads f a ⊆ span a size

/-- The addresses and lengths of an image, compared as numbers. -/
theorem inside_of_bounds {f : Space} {a : UInt32} {size : ℕ} (hfit : a.toNat + size ≤ 2 ^ 32)
    (hfirst : 16 ≤ size) (hsecond : a.toNat ≤ (second f a).toNat ∧ (second f a).toNat +
      (8 + sectionsSize f (header2 f a).count.toNat (second f a + 8)) ≤ a.toNat + size)
    (hcheck : a.toNat ≤ (checkAddr f a).toNat ∧ (checkAddr f a).toNat + 4 ≤ a.toNat + size)
    (hlength : (length f a).toNat ≤ size) : Inside f a size := by
  have hsub : ∀ {b : UInt32} {k : ℕ}, a.toNat ≤ b.toNat → b.toNat + k ≤ a.toNat + size →
      span b k ⊆ span a size := by
    intro b k hlow hhigh x hx
    have := (mem_span_iff_of_le (by omega)).mp hx
    exact (mem_span_iff_of_le hfit).mpr (by omega)
  rintro x (((hx | hx) | hx) | hx)
  · exact span_mono a hfirst hx
  · exact hsub hsecond.1 hsecond.2 hx
  · exact hsub hcheck.1 hcheck.2 hx
  · exact span_mono a hlength hx

end Image

/-! ### Small images -/

/-- An erased flash with `runs` written to it. -/
def burn (runs : List (UInt32 × List UInt8)) : Space :=
  runs.foldl (fun f run => store f run.1 run.2) fun _ => 0xFF

/-- The header the bootloader finds in sector 0, with flash map and mode bytes. -/
def bootHeader (flags1 flags2 : UInt8) : List UInt8 := [SECTION_MAGIC, 1, flags1, flags2, 0, 0, 0, 0]

/-- An image with an empty ROM section and one RAM section, the word at `0x40108000`, whose first
byte is `b`. -/
def tinyImage (entry : UInt32) (flags1 flags2 b : UInt8) : List UInt8 :=
  [HEADER_MAGIC, 4, flags1, flags2] ++ bytes32 entry ++ bytes32 0 ++ bytes32 0 ++
    [SECTION_MAGIC, 1, flags1, flags2] ++ bytes32 entry ++ bytes32 0x40108000 ++ bytes32 4 ++
    [b, 0, 0, 0] ++ List.replicate 11 0 ++ [CHECKSUM_INIT ^^^ b] ++ List.replicate 4 0

/-- A small image has every property asked of an image. -/
example : Image.Sound (burn [(partAddr 1, tinyImage 0x40100004 0 0x20 7)]) (partAddr 1) 2 := by
  decide +kernel

end Esp8266At
