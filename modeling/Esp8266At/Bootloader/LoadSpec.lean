import Esp8266At.Bootloader.Load

/-!
# What `check_load_binary` does when the flash works

`checkLoadBinary_eq`: with every SPI operation succeeding, a call is one of four outcomes, decided by
the image in the flash. Everything about the bootloader is proved from this equation; the loops are
not looked at again.
-/

namespace Esp8266At.Bootloader

open ByteSpace NorFlash

variable {md5 : List UInt8 → Digest}

theorem Boot.spiRead_ok {s : Boot} (h : s.spi.AllOk) (addr : UInt32) (len : ℕ) :
    s.spiRead addr len = (some (slice s.spi.flash addr len), s) := by
  rw [Boot.spiRead, h.read]

theorem Boot.spiEraseSector_ok {s : Boot} (h : s.spi.AllOk) (sector : UInt32) :
    s.spiEraseSector sector =
      (true, { s with spi := { s.spi with log := s.spi.log ++ [.erase sector.toNat] } }) := by
  rw [Boot.spiEraseSector, h.perform]

theorem Boot.spiWrite_ok {s : Boot} (h : s.spi.AllOk) (addr : UInt32) (data : List UInt8) :
    s.spiWrite addr data =
      (true, { s with spi := { s.spi with log := s.spi.log ++ [.program addr data] } }) := by
  rw [Boot.spiWrite, h.perform]

/-! ### The loops -/

/-- Copying the next piece and then the rest copies the run. -/
theorem memcpy_piece (s : Boot) (load_addr flash_addr remaining : UInt32) :
    (s.memcpy load_addr (slice s.spi.flash flash_addr (piece 256 remaining).toNat)).memcpy
        (load_addr + piece 256 remaining)
        (slice s.spi.flash (flash_addr + piece 256 remaining) (remaining - piece 256 remaining).toNat) =
      s.memcpy load_addr (slice s.spi.flash flash_addr remaining.toNat) := by
  have hslice := slice_piece s.spi.flash flash_addr 256 remaining
  have hlen := congrArg List.length hslice
  have hlt := remaining.toNat_lt
  simp only [slice_length, List.length_append] at hlen
  have happend := store_append s.ram load_addr
    (slice s.spi.flash flash_addr (piece 256 remaining).toNat)
    (slice s.spi.flash (flash_addr + piece 256 remaining) (remaining - piece 256 remaining).toNat)
    (by simp only [slice_length]; omega)
  rw [slice_length, UInt32.ofNat_toNat, ← hslice] at happend
  simp only [Boot.memcpy, happend]

/-- One section reaches RAM whole, and its bytes the checksum. -/
theorem loadSection_ok {s : Boot} (h : s.spi.AllOk) {fuel : ℕ} {flash_addr load_addr remaining : UInt32}
    {checksum : UInt8} (hfuel : remaining.toNat ≤ fuel) :
    loadSection fuel flash_addr load_addr remaining checksum s =
      (some (flash_addr + remaining,
        xorSum checksum (slice s.spi.flash flash_addr remaining.toNat)),
        s.memcpy load_addr (slice s.spi.flash flash_addr remaining.toNat)) := by
  induction fuel generalizing flash_addr load_addr remaining checksum s with
  | zero =>
    obtain rfl : remaining = 0 := UInt32.toNat_inj.mp (Nat.le_zero.mp hfuel)
    simp [loadSection, xorSum, Boot.memcpy]
  | succ fuel ih =>
    rw [loadSection]
    rcases Nat.eq_zero_or_pos remaining.toNat with hzero | hpos
    · obtain rfl : remaining = 0 := UInt32.toNat_inj.mp hzero
      simp [xorSum, Boot.memcpy]
    · have hgt : remaining > 0 := UInt32.lt_iff_toNat_lt.mpr hpos
      have hpiece : (if remaining < 256 then remaining else 256) = piece 256 remaining := rfl
      have hless := sub_piece_toNat 256 remaining
      have h256 : (256 : UInt32).toNat = 256 := rfl
      have hslice := slice_piece s.spi.flash flash_addr 256 remaining
      simp only [if_pos hgt, hpiece, Boot.spiRead_ok h]
      have haddr : flash_addr + piece 256 remaining + (remaining - piece 256 remaining) =
          flash_addr + remaining := by grind
      rw [ih (s := s.memcpy _ _) h (by omega), Boot.memcpy_spi, ← xorSum_append, ← hslice, haddr,
        memcpy_piece]

/-- All sections reach RAM in order, and their bytes the checksum. -/
theorem loadSections_ok {s : Boot} (h : s.spi.AllOk) {count : ℕ} {flash_addr : UInt32} {checksum : UInt8} :
    loadSections count flash_addr checksum s =
      (some (Image.sectionsEnd s.spi.flash count flash_addr,
        Image.sectionsXor s.spi.flash count flash_addr checksum),
        { s with ram := Image.loadAll s.spi.flash (Image.sectionsFrom s.spi.flash count flash_addr) s.ram }) := by
  induction count generalizing flash_addr checksum s with
  | zero => rfl
  | succ count ih =>
    have hheader : SectionHeader.ofBytes (slice s.spi.flash flash_addr 8) = Image.sectionAt s.spi.flash flash_addr := rfl
    simp only [loadSections, Boot.spiRead_ok h, loadSection_ok h le_rfl, hheader]
    rw [ih (s := s.memcpy _ _) h, Boot.memcpy_spi]
    simp only [Image.sectionsEnd, Image.sectionsXor, Image.sectionsFrom, Image.loadAll, List.foldl_cons,
      Image.Section.load, Boot.memcpy]

/-- The digest is computed over the whole area. -/
theorem hashArea_ok {s : Boot} (h : s.spi.AllOk) {fuel : ℕ} {flash_addr remaining : UInt32}
    {context : List UInt8} {total : UInt32} (hfuel : remaining.toNat ≤ fuel) :
    hashArea fuel flash_addr remaining context total s =
      (some (context ++ slice s.spi.flash flash_addr remaining.toNat, total + remaining), s) := by
  induction fuel generalizing flash_addr remaining context total with
  | zero =>
    obtain rfl : remaining = 0 := UInt32.toNat_inj.mp (Nat.le_zero.mp hfuel)
    simp [hashArea]
  | succ fuel ih =>
    rw [hashArea]
    by_cases hne : remaining ≠ 0
    · have hpiece : (if remaining ≥ 256 then 256 else remaining) = piece 256 remaining := by
        unfold piece
        by_cases hlt : remaining < 256
        · rw [if_pos hlt, if_neg (by simpa using hlt)]
        · rw [if_neg hlt, if_pos (by simpa using hlt)]
      have hless := sub_piece_toNat 256 remaining
      have h256 : (256 : UInt32).toNat = 256 := rfl
      have hpos : remaining.toNat ≠ 0 := fun h0 => hne (UInt32.toNat_inj.mp h0)
      simp only [if_pos hne, hpiece, Boot.spiRead_ok h]
      rw [ih (by omega), List.append_assoc, ← slice_piece]
      congr 3
      grind
    · obtain rfl : remaining = 0 := not_not.mp hne
      simp

/-! ### The check -/

/-- The state after the image at `a` has been recorded for partition `n`. -/
def Boot.record (md5 : List UInt8 → Digest) (a : UInt32) (n : Part) (s : Boot) : Boot :=
  let bi := recorded (bootInfoAt s.spi.flash) s.map a n (Image.length s.spi.flash a)
    (Image.mapMode s.spi.flash a) (md5 (Image.bytes s.spi.flash a))
  { s with
    bootInfo := bi
    map := if s.map = 0xFF then Image.mapMode s.spi.flash a else s.map
    spi := { s.spi with log := s.spi.log ++ saveOps bi } }

theorem checkDigest_ok {s : Boot} (h : s.spi.AllOk) (a : UInt32) (n : Part) (save : Bool) :
    checkDigest a n save (Image.header2 s.spi.flash a) (Image.length s.spi.flash a)
        (md5 (Image.bytes s.spi.flash a)) s =
      if md5 (Image.bytes s.spi.flash a) = s.bootInfo.partMd5 n then (Image.entry s.spi.flash a, s)
      else if save then (Image.entry s.spi.flash a, s.record md5 a n)
      else (0, s) := by
  rw [checkDigest]
  by_cases hmd5 : md5 (Image.bytes s.spi.flash a) = s.bootInfo.partMd5 n
  · rw [if_pos hmd5, if_neg (not_not.mpr hmd5)]
    rfl
  · rw [if_neg hmd5, if_pos hmd5]
    cases save with
    | false => rfl
    | true =>
      have hsector : (BOOT_PARAM_ADDR / UInt32.ofNat SECTOR_SIZE).toNat =
          BOOT_PARAM_ADDR.toNat / SECTOR_SIZE := rfl
      simp only [if_true, Boot.spiRead_ok h]
      rw [Boot.spiEraseSector_ok (by exact h)]
      simp only
      rw [Boot.spiWrite_ok (by exact h)]
      simp only [Boot.record, saveOps, hsector, List.append_assoc, List.cons_append, List.nil_append]
      rfl

/-- A call of `check_load_binary`, from what the image in the flash is. -/
theorem checkLoadBinary_eq {s : Boot} (h : s.spi.AllOk) (a : UInt32) (n : Part) (save : Bool) :
    checkLoadBinary md5 a n save s =
      if ¬Image.HeadersOk s.spi.flash a ∨ ¬Image.MapOk s.spi.flash a s.bootFlashMap then (0, s)
      else if ¬Image.SumOk s.spi.flash a then (0, { s with ram := Image.load s.spi.flash a s.ram })
      else if md5 (Image.bytes s.spi.flash a) = s.bootInfo.partMd5 n then
        (Image.entry s.spi.flash a, { s with ram := Image.load s.spi.flash a s.ram })
      else if save then
        (Image.entry s.spi.flash a, Boot.record md5 a n { s with ram := Image.load s.spi.flash a s.ram })
      else (0, { s with ram := Image.load s.spi.flash a s.ram }) := by
  have hload : loadSections (Image.header2 s.spi.flash a).count.toNat (Image.second s.spi.flash a + 8)
      CHECKSUM_INIT s = (some (Image.tail s.spi.flash a, Image.sum s.spi.flash a),
        { s with ram := Image.load s.spi.flash a s.ram }) := loadSections_ok h
  have hloaded : ({ s with ram := Image.load s.spi.flash a s.ram } : Boot).spi.AllOk := h
  simp only [checkLoadBinary, Boot.spiRead_ok h, Image.header_ofBytes_slice,
    Image.section_ofBytes_slice, Image.second_eq, Image.headerAt_second, hload,
    Image.checkAddr_eq, Image.length_eq, Boot.spiRead_ok hloaded, hashArea_ok hloaded le_rfl,
    List.nil_append, UInt32.zero_add]
  change (if _ then _ else if _ then _ else if s.bootFlashMap ≠ 0xFF ∧
    Image.flashMap s.spi.flash a >>> 4 ≠ s.bootFlashMap ∧
    ¬(Image.flashMap s.spi.flash a >>> 4 = 2 ∧ s.bootFlashMap = 0) then _ else _) = _
  by_cases h1 : (Image.headerAt s.spi.flash a).magic ≠ HEADER_MAGIC ∨
      (Image.headerAt s.spi.flash a).count = 0
  · rw [if_pos h1, if_pos]
    exact Or.inl fun hok => h1.elim (fun h => h hok.1.1) hok.1.2
  rw [if_neg h1]
  by_cases h2 : (Image.header2 s.spi.flash a).magic ≠ SECTION_MAGIC ∨
      (Image.header2 s.spi.flash a).count = 0
  · rw [if_pos h2, if_pos]
    exact Or.inl fun hok => h2.elim (fun h => h hok.2.1) hok.2.2
  have hheaders : Image.HeadersOk s.spi.flash a :=
    ⟨⟨not_not.mp (not_or.mp h1).1, (not_or.mp h1).2⟩, ⟨not_not.mp (not_or.mp h2).1, (not_or.mp h2).2⟩⟩
  rw [if_neg h2]
  by_cases h3 : Image.MapOk s.spi.flash a s.bootFlashMap
  · rw [if_neg (mt Image.not_mapOk_iff.mpr (not_not.mpr h3)),
      if_neg (not_or.mpr ⟨not_not.mpr hheaders, not_not.mpr h3⟩)]
    by_cases h4 : Image.SumOk s.spi.flash a
    · have h4' : ¬(slice s.spi.flash (Image.checkAddr s.spi.flash a) 4).getD 3 0 ≠ Image.sum s.spi.flash a :=
        not_not.mpr h4
      rw [if_neg h4', if_neg (not_not.mpr h4)]
      exact checkDigest_ok hloaded a n save
    · have h4' : (slice s.spi.flash (Image.checkAddr s.spi.flash a) 4).getD 3 0 ≠ Image.sum s.spi.flash a := h4
      rw [if_pos h4', if_pos h4]
  · rw [if_pos (Image.not_mapOk_iff.mp h3), if_pos (Or.inr h3)]

end Esp8266At.Bootloader
