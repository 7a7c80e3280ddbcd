import Esp8266At.Bootloader.TaskSpec
import Esp8266At.Lib.Md5

/-!
# The grammar of a firmware image

`Layout` and `Accepted` say what a firmware image is, in terms of bytes at numbered addresses and
without any of the bootloader's arithmetic: two headers, the sections one after another, the padding,
the checksum and the digest. `check_load_binary` with `save` off accepts exactly these images, and
what it does depends on nothing after them.
-/

namespace Esp8266At

open ByteSpace NorFlash

namespace Image

/-! ### The grammar -/

section
variable (f : Space)

/-- The byte at address `p`. -/
def byteAt (p : ℕ) : UInt8 := f (UInt32.ofNat p)

/-- The `n` bytes from address `p` on. -/
def bytesAt (p n : ℕ) : List UInt8 := (List.range n).map fun i => byteAt f (p + i)

/-- The number stored in the four bytes at address `p`. -/
def wordAt (p : ℕ) : ℕ := leNat (bytesAt f p 4)

/-- From address `p` to address `t` stand `count` sections with these contents: each an address and
a length of four bytes, and as many bytes as the length says. -/
inductive SectionsAt : (count p : ℕ) → (contents : List UInt8) → (t : ℕ) → Prop
  | nil (p : ℕ) : SectionsAt 0 p [] p
  | cons {count p : ℕ} {contents : List UInt8} {t : ℕ} :
      SectionsAt count (p + 8 + wordAt f (p + 4)) contents t →
      SectionsAt (count + 1) p (bytesAt f (p + 8) (wordAt f (p + 4)) ++ contents) t

/-- Where the header after the section mapped from the flash stands. -/
def upperAt (a : ℕ) : ℕ := a + 16 + wordAt f (a + 12)

/-- At address `a` stand the two headers of an image for flash map `bootMap` with this entry point,
and its sections, which end at address `t`. -/
structure Layout (a : ℕ) (bootMap : UInt8) (entry : UInt32) (contents : List UInt8) (t : ℕ) : Prop where
  magic : byteAt f a = 0xEA
  count : byteAt f (a + 1) ≠ 0
  upperMagic : byteAt f (upperAt f a) = 0xE9
  upperCount : byteAt f (upperAt f a + 1) ≠ 0
  entry : wordAt f (upperAt f a + 4) = entry.toNat
  map : bootMap = 0xFF ∨ byteAt f (upperAt f a + 3) >>> 4 = bootMap ∨
    (byteAt f (upperAt f a + 3) >>> 4 = 2 ∧ bootMap = 0)
  sections : SectionsAt f (byteAt f (upperAt f a + 1)).toNat (upperAt f a + 8) contents t

/-- The address after the last byte of an image whose sections end at `t`. -/
def endAt (t : ℕ) : ℕ := (t ||| 0xF) + 5

/-- At address `a` stands an image for flash map `bootMap`, with a right checksum and this digest. -/
structure Accepted (md5 : List UInt8 → Digest) (a : ℕ) (bootMap : UInt8) (digest : Digest)
    (entry : UInt32) (contents : List UInt8) (t : ℕ) : Prop extends Layout f a bootMap entry contents t where
  checksum : contents.foldl (· ^^^ ·) 0xEF = byteAt f (t ||| 0xF)
  digest : md5 (bytesAt f a (endAt t - a)) = digest

end

/-! ### The image as the bootloader finds it -/

section
variable {f : Space}

theorem bytesAt_eq (p n : ℕ) : bytesAt f p n = slice f (UInt32.ofNat p) n := by
  simp only [bytesAt, byteAt, slice, UInt32.ofNat_add]

theorem ofNat_toNat {p : ℕ} (h : p < 2 ^ 32) : (UInt32.ofNat p).toNat = p := UInt32.toNat_ofNat_of_lt' h

theorem wordAt_lt (p : ℕ) : wordAt f p < 2 ^ 32 := by
  have h := fun i => (byteAt f (p + i)).toNat_lt
  have h0 := h 0
  have h1 := h 1
  have h2 := h 2
  have h3 := h 3
  simp only [wordAt, bytesAt, List.range_succ, List.range_zero, List.nil_append, List.cons_append,
    List.map_cons, List.map_nil, leNat]
  omega

theorem le32_drop_slice (p : ℕ) :
    le32 ((slice f (UInt32.ofNat p) 8).drop 4) = UInt32.ofNat (wordAt f (p + 4)) := by
  have hdrop : (slice f (UInt32.ofNat p) 8).drop 4 = slice f (UInt32.ofNat (p + 4)) 4 := by
    rw [show (8 : ℕ) = 4 + 4 from rfl, slice_add, List.drop_left' (slice_length _ _ _),
      UInt32.ofNat_add p 4]
  rw [hdrop, le32, List.take_of_length_le (slice_length _ _ _).le, wordAt, bytesAt_eq]

theorem sectionAt_length (p : ℕ) : (sectionAt f (UInt32.ofNat p)).length = UInt32.ofNat (wordAt f (p + 4)) :=
  le32_drop_slice p

theorem sectionAt_length_toNat (p : ℕ) :
    (sectionAt f (UInt32.ofNat p)).length.toNat = wordAt f (p + 4) := by
  rw [sectionAt_length, ofNat_toNat (wordAt_lt _)]

theorem headerAt_getD (p i : ℕ) (hi : i < 8) : (slice f (UInt32.ofNat p) 8).getD i 0 = byteAt f (p + i) := by
  rw [List.getD_eq_getElem?_getD, slice_getElem? _ _ _ _ hi, byteAt, UInt32.ofNat_add]
  rfl

/-- The next section starts where the contents of this one end. -/
theorem next_eq (p : ℕ) : UInt32.ofNat p + 8 + (sectionAt f (UInt32.ofNat p)).length =
    UInt32.ofNat (p + 8 + wordAt f (p + 4)) := by
  rw [sectionAt_length, UInt32.ofNat_add, UInt32.ofNat_add]
  rfl

/-- The sections at an address: what the bootloader computes of them, and that no others stand there. -/
theorem sectionsAt_iff {count p t : ℕ} {contents : List UInt8} : SectionsAt f count p contents t ↔
    t = p + sectionsSize f count (UInt32.ofNat p) ∧
      contents = ((sectionsFrom f count (UInt32.ofNat p)).map fun s => slice f s.pos s.length.toNat).flatten := by
  induction count generalizing p contents with
  | zero =>
    constructor
    · intro h
      cases h
      exact ⟨rfl, rfl⟩
    · rintro ⟨rfl, rfl⟩
      exact .nil _
  | succ count ih =>
    have hcontents : slice f (UInt32.ofNat p + 8) (sectionAt f (UInt32.ofNat p)).length.toNat =
        bytesAt f (p + 8) (wordAt f (p + 4)) := by
      rw [bytesAt_eq, sectionAt_length_toNat, UInt32.ofNat_add]
      rfl
    rw [sectionsSize, sectionsFrom, List.map_cons, List.flatten_cons, next_eq, hcontents,
      sectionAt_length_toNat]
    constructor
    · intro h
      cases h with
      | cons hrest =>
        obtain ⟨rfl, rfl⟩ := ih.mp hrest
        exact ⟨by omega, rfl⟩
    · rintro ⟨rfl, rfl⟩
      exact .cons (ih.mpr ⟨by omega, rfl⟩)

theorem sectionsXor_eq (count : ℕ) (a : UInt32) (c : UInt8) : sectionsXor f count a c =
    xorSum c ((sectionsFrom f count a).map fun s => slice f s.pos s.length.toNat).flatten := by
  induction count generalizing a c with
  | zero => rfl
  | succ count ih =>
    rw [sectionsXor, ih, sectionsFrom, List.map_cons, List.flatten_cons, xorSum_append]

theorem upperAt_eq (a : ℕ) : second f (UInt32.ofNat a) = UInt32.ofNat (upperAt f a) := by
  have h := sectionAt_length (f := f) (a + 8)
  rw [UInt32.ofNat_add] at h
  rw [second, upperAt, show (8 : UInt32) = UInt32.ofNat 8 from rfl, h, UInt32.ofNat_add,
    UInt32.ofNat_add a 16, UInt32.add_assoc (UInt32.ofNat a)]
  rfl

theorem shiftRight_and (x : UInt8) : (x &&& 0xF0) >>> 4 = x >>> 4 := by
  apply UInt8.toNat_inj.mp
  have hx : x.toNat >>> 4 < 2 ^ 4 := by
    have := x.toNat_lt
    rw [Nat.shiftRight_eq_div_pow]
    omega
  have hmask : (0xF0 : UInt8).toNat >>> 4 = 2 ^ 4 - 1 := rfl
  rw [UInt8.toNat_shiftRight, UInt8.toNat_shiftRight, UInt8.toNat_and, show (4 : UInt8).toNat % 8 = 4 from rfl,
    Nat.shiftRight_and_distrib, hmask, Nat.and_two_pow_sub_one_of_lt_two_pow hx]

/-- The layout at an address, in the bootloader's terms. -/
theorem layout_iff {a t : ℕ} {bootMap : UInt8} {e : UInt32} {contents : List UInt8} :
    Layout f a bootMap e contents t ↔ HeadersOk f (UInt32.ofNat a) ∧ MapOk f (UInt32.ofNat a) bootMap ∧
      entry f (UInt32.ofNat a) = e ∧
      SectionsAt f (header2 f (UInt32.ofNat a)).count.toNat (upperAt f a + 8) contents t := by
  have hfirst := headerAt_getD (f := f) a
  have hupper := headerAt_getD (f := f) (upperAt f a)
  have hentry : entry f (UInt32.ofNat a) = UInt32.ofNat (wordAt f (upperAt f a + 4)) := by
    rw [entry, header2, upperAt_eq]
    exact le32_drop_slice _
  have hcount : (header2 f (UInt32.ofNat a)).count = byteAt f (upperAt f a + 1) := by
    rw [header2, upperAt_eq]
    exact hupper 1 (by omega)
  have hmap : flashMap f (UInt32.ofNat a) >>> 4 = byteAt f (upperAt f a + 3) >>> 4 := by
    rw [flashMap, header2, upperAt_eq, shiftRight_and]
    exact congrArg (fun b : UInt8 => b >>> 4) (hupper 3 (by omega))
  have hheaders : HeadersOk f (UInt32.ofNat a) ↔ (byteAt f a = 0xEA ∧ byteAt f (a + 1) ≠ 0) ∧
      (byteAt f (upperAt f a) = 0xE9 ∧ byteAt f (upperAt f a + 1) ≠ 0) := by
    rw [HeadersOk, hcount, header2, upperAt_eq]
    simp only [headerAt, Header.ofBytes, hfirst 0 (by omega), hfirst 1 (by omega), hupper 0 (by omega)]
    rfl
  have hword : wordAt f (upperAt f a + 4) = e.toNat ↔ entry f (UInt32.ofNat a) = e := by
    rw [hentry, ← UInt32.toNat_inj, ofNat_toNat (wordAt_lt _)]
  rw [hheaders, MapOk, hmap, hcount, ← hword]
  constructor
  · intro h
    exact ⟨⟨⟨h.magic, h.count⟩, h.upperMagic, h.upperCount⟩, h.map, h.entry, h.sections⟩
  · rintro ⟨⟨⟨h1, h2⟩, h3, h4⟩, h5, h6, h7⟩
    exact ⟨h1, h2, h3, h4, h6, h5, h7⟩

/-! ### Addresses below 2 ^ 32 -/

variable {a t : ℕ} {bootMap : UInt8} {e : UInt32} {contents : List UInt8}

namespace Layout

/-- The sections end where the bootloader's walk ends. -/
theorem tail_eq (h : Layout f a bootMap e contents t) :
    t = upperAt f a + 8 + sectionsSize f (header2 f (UInt32.ofNat a)).count.toNat
        (second f (UInt32.ofNat a) + 8) ∧
      tail f (UInt32.ofNat a) = UInt32.ofNat t := by
  have hupper : second f (UInt32.ofNat a) + 8 = UInt32.ofNat (upperAt f a + 8) := by
    rw [upperAt_eq, UInt32.ofNat_add]
    rfl
  obtain ⟨ht, -⟩ := sectionsAt_iff.mp (layout_iff.mp h).2.2.2
  rw [tail, hupper, sectionsEnd_eq, ← UInt32.ofNat_add]
  exact ⟨ht, congrArg UInt32.ofNat ht.symm⟩

theorem sum_eq (h : Layout f a bootMap e contents t) :
    sum f (UInt32.ofNat a) = contents.foldl (· ^^^ ·) 0xEF := by
  have hupper : second f (UInt32.ofNat a) + 8 = UInt32.ofNat (upperAt f a + 8) := by
    rw [upperAt_eq, UInt32.ofNat_add]
    rfl
  obtain ⟨-, hcontents⟩ := sectionsAt_iff.mp (layout_iff.mp h).2.2.2
  rw [sum, hupper, sectionsXor_eq, ← hcontents]
  rfl

/-- The row the sections end in, as the bootloader computes it. -/
theorem checkAddr_toNat (h : Layout f a bootMap e contents t) (hfit : endAt t < 2 ^ 32) :
    (checkAddr f (UInt32.ofNat a)).toNat = (t ||| 0xF) - 3 := by
  have hlow : 0xF ≤ t ||| 0xF := Nat.right_le_or
  have hrow : (UInt32.ofNat (t ||| 0xF)).toNat = t ||| 0xF :=
    ofNat_toNat (by unfold endAt at hfit; omega)
  rw [checkAddr, h.tail_eq.2, show (0xF : UInt32) = UInt32.ofNat 0xF from rfl, ← UInt32.ofNat_or, sub_toNat, hrow]
  have h3 : (3 : UInt32).toNat = 3 := rfl
  unfold endAt at hfit
  omega

theorem le_endAt (h : Layout f a bootMap e contents t) : a + 24 ≤ t ∧ t + 5 ≤ endAt t := by
  have ht := h.tail_eq.1
  have hrow : t ≤ t ||| 0xF := Nat.left_le_or
  unfold upperAt at ht
  unfold endAt
  omega

theorem length_toNat (h : Layout f a bootMap e contents t) (hfit : endAt t < 2 ^ 32) :
    (length f (UInt32.ofNat a)).toNat = endAt t - a := by
  have hcheck := h.checkAddr_toNat hfit
  have hle := h.le_endAt
  have ha : (UInt32.ofNat a).toNat = a := ofNat_toNat (by omega)
  have h8 : (8 : UInt32).toNat = 8 := rfl
  have hlow : 0xF ≤ t ||| 0xF := Nat.right_le_or
  rw [length, sub_toNat, UInt32.toNat_add, hcheck, ha, h8]
  unfold endAt at *
  omega

/-- The byte the bootloader compares the checksum with. -/
theorem check_eq (h : Layout f a bootMap e contents t) (hfit : endAt t < 2 ^ 32) :
    (slice f (checkAddr f (UInt32.ofNat a)) 4).getD 3 0 = byteAt f (t ||| 0xF) := by
  have hcheck := h.checkAddr_toNat hfit
  have hlow : 0xF ≤ t ||| 0xF := Nat.right_le_or
  have haddr : checkAddr f (UInt32.ofNat a) + UInt32.ofNat 3 = UInt32.ofNat (t ||| 0xF) := by
    rw [← UInt32.ofNat_toNat (x := checkAddr f _), hcheck, ← UInt32.ofNat_add, Nat.sub_add_cancel (by omega)]
  rw [List.getD_eq_getElem?_getD, slice_getElem? _ _ _ _ (by omega), haddr]
  rfl

/-- Everything the bootloader reads lies between the start and the end of the image. -/
theorem inside (h : Layout f a bootMap e contents t) (hfit : endAt t < 2 ^ 32) :
    Inside f (UInt32.ofNat a) (endAt t - a) := by
  have hcheck := h.checkAddr_toNat hfit
  have hle := h.le_endAt
  have ht := h.tail_eq.1
  have ha : (UInt32.ofNat a).toNat = a := ofNat_toNat (by omega)
  have hupper : (second f (UInt32.ofNat a)).toNat = upperAt f a := by
    rw [upperAt_eq, ofNat_toNat (by omega)]
  have hlow : a ≤ upperAt f a := by
    unfold upperAt
    omega
  refine inside_of_bounds ?_ ?_ ⟨?_, ?_⟩ ⟨?_, ?_⟩ (h.length_toNat hfit).le
  all_goals
    rw [endAt] at *
    omega

end Layout

/-- The conditions an accepted image meets, in the bootloader's terms. -/
theorem accepted_iff {md5 : List UInt8 → Digest} {d : Digest} (h : Layout f a bootMap e contents t)
    (hfit : endAt t < 2 ^ 32) : Accepted f md5 a bootMap d e contents t ↔
      SumOk f (UInt32.ofNat a) ∧ md5 (bytes f (UInt32.ofNat a)) = d := by
  have hbytes : bytes f (UInt32.ofNat a) = bytesAt f a (endAt t - a) := by
    rw [bytes, h.length_toNat hfit, bytesAt_eq]
  rw [SumOk, h.check_eq hfit, h.sum_eq, hbytes]
  constructor
  · intro hacc
    exact ⟨hacc.checksum.symm, hacc.digest⟩
  · rintro ⟨hsum, hdigest⟩
    exact ⟨h, hsum.symm, hdigest⟩

end

end Image

namespace Bootloader

open Image

/-! ### The check -/

variable {md5 : List UInt8 → Digest}

/-- Past the number of bytes to copy, a section is done whatever the fuel, also when reads fail. -/
theorem loadSection_fuel {fuel k : ℕ} {flash_addr load_addr remaining : UInt32} {checksum : UInt8} {s : Boot}
    (h : remaining.toNat ≤ fuel) : loadSection (fuel + k) flash_addr load_addr remaining checksum s =
      loadSection fuel flash_addr load_addr remaining checksum s := by
  induction fuel generalizing flash_addr load_addr remaining checksum s with
  | zero =>
    obtain rfl : remaining = 0 := UInt32.toNat_inj.mp (Nat.le_zero.mp h)
    cases k with
    | zero => rfl
    | succ k =>
      rw [Nat.zero_add, loadSection, loadSection]
      exact if_neg (lt_irrefl 0)
  | succ fuel ih =>
    rw [Nat.succ_add, loadSection, loadSection]
    by_cases hpos : remaining > 0
    · have hless : (remaining - piece 256 remaining).toNat ≤ fuel := by
        have h256 : (256 : UInt32).toNat = 256 := rfl
        have hgt := UInt32.lt_iff_toNat_lt.mp hpos
        rw [sub_piece_toNat]
        omega
      have hpiece : (if remaining < 256 then remaining else 256) = piece 256 remaining := rfl
      rw [if_pos hpos, if_pos hpos, hpiece]
      cases hread : s.spiRead flash_addr (piece 256 remaining).toNat with
      | mk r s' =>
        simp only [hread]
        cases r with
        | none => rfl
        | some buffer => exact ih hless
    · rw [if_neg hpos, if_neg hpos]

/-- Past the number of bytes to hash, the digest is done whatever the fuel, also when reads fail. -/
theorem hashArea_fuel {fuel k : ℕ} {flash_addr remaining : UInt32} {context : List UInt8} {total : UInt32}
    {s : Boot} (h : remaining.toNat ≤ fuel) : hashArea (fuel + k) flash_addr remaining context total s =
      hashArea fuel flash_addr remaining context total s := by
  induction fuel generalizing flash_addr remaining context total s with
  | zero =>
    obtain rfl : remaining = 0 := UInt32.toNat_inj.mp (Nat.le_zero.mp h)
    cases k with
    | zero => rfl
    | succ k =>
      rw [Nat.zero_add, hashArea, hashArea]
      exact if_neg (not_not.mpr rfl)
  | succ fuel ih =>
    rw [Nat.succ_add, hashArea, hashArea]
    by_cases hne : remaining ≠ 0
    · have hpiece : (if remaining ≥ 256 then 256 else remaining) = piece 256 remaining := by
        unfold piece
        by_cases hlt : remaining < 256
        · rw [if_pos hlt, if_neg (by simpa using hlt)]
        · rw [if_neg hlt, if_pos (by simpa using hlt)]
      have hless : (remaining - piece 256 remaining).toNat ≤ fuel := by
        have h256 : (256 : UInt32).toNat = 256 := rfl
        have hpos : remaining.toNat ≠ 0 := fun h0 => hne (UInt32.toNat_inj.mp h0)
        rw [sub_piece_toNat]
        omega
      rw [if_pos hne, if_pos hne, hpiece]
      cases hread : s.spiRead flash_addr (piece 256 remaining).toNat with
      | mk r s' =>
        simp only [hread]
        cases r with
        | none => rfl
        | some buffer => exact ih hless
    · rw [if_neg hne, if_neg hne]

variable (md5) in
/-- What a check that records nothing gives, for an image laid out as the grammar says. -/
theorem checkLoadBinary_layout {s : Boot} {a t : ℕ} {e : UInt32} {contents : List UInt8} (h : s.spi.AllOk)
    (n : Part) (hlayout : Layout s.spi.flash a s.bootFlashMap e contents t) (hfit : endAt t < 2 ^ 32) :
    (Accepted s.spi.flash md5 a s.bootFlashMap (s.bootInfo.partMd5 n) e contents t →
      (checkLoadBinary md5 (UInt32.ofNat a) n false s).1 = e) ∧
    (¬Accepted s.spi.flash md5 a s.bootFlashMap (s.bootInfo.partMd5 n) e contents t →
      (checkLoadBinary md5 (UInt32.ofNat a) n false s).1 = 0) ∧
    (checkLoadBinary md5 (UInt32.ofNat a) n false s).2 =
      { s with ram := Image.load s.spi.flash (UInt32.ofNat a) s.ram } := by
  obtain ⟨hheaders, hmap, hentry, -⟩ := layout_iff.mp hlayout
  rw [checkLoadBinary_eq h, if_neg (not_or.mpr ⟨not_not.mpr hheaders, not_not.mpr hmap⟩),
    accepted_iff hlayout hfit]
  by_cases hsum : SumOk s.spi.flash (UInt32.ofNat a)
  · rw [if_neg (not_not.mpr hsum)]
    by_cases hdigest : md5 (Image.bytes s.spi.flash (UInt32.ofNat a)) = s.bootInfo.partMd5 n
    · rw [if_pos hdigest]
      exact ⟨fun _ => hentry, fun hnot => absurd ⟨hsum, hdigest⟩ hnot, rfl⟩
    · rw [if_neg hdigest]
      exact ⟨fun hacc => absurd hacc.2 hdigest, fun _ => rfl, rfl⟩
  · rw [if_pos hsum]
    exact ⟨fun hacc => absurd hacc.1 hsum, fun _ => rfl, rfl⟩

variable (md5) in
/-- Without the layout the check gives 0. -/
theorem checkLoadBinary_of_not_layout {s : Boot} {a : ℕ} (h : s.spi.AllOk) (n : Part)
    (hlayout : ∀ e contents t, ¬Layout s.spi.flash a s.bootFlashMap e contents t) :
    checkLoadBinary md5 (UInt32.ofNat a) n false s = (0, s) := by
  rw [checkLoadBinary_eq h, if_pos]
  by_contra hnot
  rw [not_or, not_not, not_not] at hnot
  exact hlayout _ _ _ (layout_iff.mpr ⟨hnot.1, hnot.2, rfl, sectionsAt_iff.mpr ⟨rfl, rfl⟩⟩)

/-- With another chip that holds the same bytes from the start to the end of the image, the check
does the same. -/
theorem checkLoadBinary_congr {s : Boot} {a t : ℕ} {e : UInt32} {contents : List UInt8} {spi : Spi}
    (h : s.spi.AllOk) (h' : spi.AllOk) (n : Part) (hlayout : Layout s.spi.flash a s.bootFlashMap e contents t)
    (hfit : endAt t < 2 ^ 32) (hsame : ∀ p, a ≤ p → p < endAt t → byteAt spi.flash p = byteAt s.spi.flash p) :
    checkLoadBinary md5 (UInt32.ofNat a) n false { s with spi := spi } =
      ((checkLoadBinary md5 (UInt32.ofNat a) n false s).1,
        { (checkLoadBinary md5 (UInt32.ofNat a) n false s).2 with spi := spi }) := by
  have hle := hlayout.le_endAt
  have ha : (UInt32.ofNat a).toNat = a := ofNat_toNat (by omega)
  have hreads : ∀ x ∈ Image.reads s.spi.flash (UInt32.ofNat a), s.spi.flash x = spi.flash x := by
    intro x hx
    have hspan := (mem_span_iff_of_le (by omega)).mp (hlayout.inside hfit hx)
    have hbyte := hsame x.toNat (by omega) (by omega)
    rw [byteAt, byteAt, UInt32.ofNat_toNat] at hbyte
    exact hbyte.symm
  have himage := same_of_reads hreads
  rw [checkLoadBinary_eq h, checkLoadBinary_eq (s := { s with spi := spi }) h']
  simp only [himage.headersOk, himage.mapOk, himage.sumOk, himage.bytes, himage.entry, himage.load,
    if_neg Bool.false_ne_true]
  split_ifs <;> rfl

/-- `check_load_binary` with `save` off accepts exactly the images of the grammar; what it does
depends on nothing before or after such an image; and its loops end by themselves. -/
theorem checkLoadBinary_accepts (md5 : List UInt8 → Digest) (a : ℕ) (n : Part) (s : Boot) (h : s.spi.AllOk)
    (hbelow : ∀ e contents t, Layout s.spi.flash a s.bootFlashMap e contents t → endAt t < 2 ^ 32) :
    (∀ e, e ≠ 0 → ((checkLoadBinary md5 (UInt32.ofNat a) n false s).1 = e ↔
      ∃ contents t, Accepted s.spi.flash md5 a s.bootFlashMap (s.bootInfo.partMd5 n) e contents t)) ∧
    (∀ e contents t, Layout s.spi.flash a s.bootFlashMap e contents t → ∀ spi : Spi, spi.AllOk →
      (∀ p, a ≤ p → p < endAt t → byteAt spi.flash p = byteAt s.spi.flash p) →
      checkLoadBinary md5 (UInt32.ofNat a) n false { s with spi := spi } =
        ((checkLoadBinary md5 (UInt32.ofNat a) n false s).1,
          { (checkLoadBinary md5 (UInt32.ofNat a) n false s).2 with spi := spi })) ∧
    ∀ (remaining : UInt32) (k : ℕ) (u : Boot),
      (∀ flash_addr load_addr checksum,
        loadSection (remaining.toNat + k) flash_addr load_addr remaining checksum u =
          loadSection remaining.toNat flash_addr load_addr remaining checksum u) ∧
      ∀ flash_addr context total, hashArea (remaining.toNat + k) flash_addr remaining context total u =
        hashArea remaining.toNat flash_addr remaining context total u := by
  refine ⟨fun e he => ⟨fun hres => ?_, ?_⟩, ?_, fun remaining k u => ⟨?_, ?_⟩⟩
  · by_cases hlayout : ∃ e contents t, Layout s.spi.flash a s.bootFlashMap e contents t
    · obtain ⟨e', contents, t, hlayout⟩ := hlayout
      obtain ⟨hyes, hno, -⟩ := checkLoadBinary_layout md5 h n hlayout (hbelow _ _ _ hlayout)
      by_cases hacc : Accepted s.spi.flash md5 a s.bootFlashMap (s.bootInfo.partMd5 n) e' contents t
      · obtain rfl : e' = e := (hyes hacc).symm.trans hres
        exact ⟨contents, t, hacc⟩
      · exact absurd (hres.symm.trans (hno hacc)) he
    · have hnone := checkLoadBinary_of_not_layout md5 (s := s) (a := a) h n
        fun e contents t hl => hlayout ⟨e, contents, t, hl⟩
      rw [hnone] at hres
      exact absurd hres.symm he
  · rintro ⟨contents, t, hacc⟩
    exact (checkLoadBinary_layout md5 h n hacc.toLayout (hbelow _ _ _ hacc.toLayout)).1 hacc
  · intro e contents t hlayout spi h' hsame
    exact checkLoadBinary_congr h h' n hlayout (hbelow _ _ _ hlayout) hsame
  · intro flash_addr load_addr checksum
    exact loadSection_fuel le_rfl
  · intro flash_addr context total
    exact hashArea_fuel le_rfl

/-- A machine with one image, in partition 1, whose digest is recorded. -/
def recordedImage : Boot :=
  let s := Boot.atReset (burn [(partAddr 1, tinyImage 0x40100004 0 0x20 7)]) fun _ => 0
  { s with
    bootFlashMap := 2
    bootInfo := { s.bootInfo with partMd5 := fun _ => Md5.digest (tinyImage 0x40100004 0 0x20 7) } }

/-- The image there lies below 0x81100 and is accepted. -/
theorem recordedImage_facts :
    upperAt recordedImage.spi.flash 0x81000 + 8 + sectionsSize recordedImage.spi.flash
      (header2 recordedImage.spi.flash (UInt32.ofNat 0x81000)).count.toNat
      (second recordedImage.spi.flash (UInt32.ofNat 0x81000) + 8) = 0x81024 ∧
    (checkLoadBinary Md5.digest (UInt32.ofNat 0x81000) 1 false recordedImage).1 = 0x40100004 := by
  decide +kernel

theorem checkLoadBinary_accepts_recordedImage : ∃ contents t, Accepted recordedImage.spi.flash Md5.digest
    0x81000 recordedImage.bootFlashMap (recordedImage.bootInfo.partMd5 1) 0x40100004 contents t := by
  have hbelow : ∀ e contents t, Layout recordedImage.spi.flash 0x81000 recordedImage.bootFlashMap e contents t →
      endAt t < 2 ^ 32 := by
    intro e contents t h
    rw [h.tail_eq.1.trans recordedImage_facts.1]
    decide
  have hok : recordedImage.spi.AllOk := fun _ => rfl
  exact ((checkLoadBinary_accepts Md5.digest 0x81000 1 recordedImage hok hbelow).1 _ (by decide)).mp
    recordedImage_facts.2

end Bootloader

end Esp8266At
