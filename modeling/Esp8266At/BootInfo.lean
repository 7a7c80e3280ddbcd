import Esp8266At.Lib.NorFlash

/-!
# What the bootloader and the application share

The two programs are built separately and meet only in the SPI flash and in a few words of RTC
memory. Both define the constants below with the same values: the partition layout, the
boot-parameter sector with its `boot_info_t`, and the RTC words.
-/

namespace Esp8266At

open ByteSpace NorFlash

abbrev SECTOR_SIZE : ℕ := 0x1000
abbrev CHECKSUM_INIT : UInt8 := 0xEF
abbrev HEADER_MAGIC : UInt8 := 0xEA
abbrev SECTION_MAGIC : UInt8 := 0xE9
abbrev BOOT_FW_MAGIC : UInt32 := 0x5AA5C390
abbrev BOOT_FW_MAGIC_MASK : UInt32 := 0xFFFFFFF0
abbrev MAX_APP_PART : ℕ := 8
abbrev FW_PART_INC : UInt32 := 0x80000
abbrev FW_PART_OFFSET : UInt32 := 0x1000

/-- `BOOT_PARAM_ADDR` of the bootloader, `SYSTEM_PARTITION_BOOT_PARAMETER_ADDR` of the application. -/
abbrev BOOT_PARAM_ADDR : UInt32 := 0xFA000

/-- The SPI flash. -/
abbrev Spi := Device SECTOR_SIZE

/-- The 32-bit words of RTC memory from `RTC_USER_ADDR` on. -/
abbrev Rtc := ℕ → UInt32

abbrev Digest := Fin 16 → UInt8

/-! ### Partitions -/

/-- A partition number. -/
abbrev Part := Fin MAX_APP_PART

instance : NeZero MAX_APP_PART := ⟨by decide⟩

/-- `(n * FW_PART_INC) + FW_PART_OFFSET`: where the bootloader looks for partition `n`. -/
def partAddr (n : Part) : UInt32 := UInt32.ofNat n.val * FW_PART_INC + FW_PART_OFFSET

theorem partAddr_toNat (n : Part) : (partAddr n).toNat = n.val * 0x80000 + 0x1000 := by
  revert n
  decide

theorem partAddr_injective {n m : Part} (h : partAddr n = partAddr m) : n = m := by
  have := congrArg UInt32.toNat h
  rw [partAddr_toNat, partAddr_toNat] at this
  exact Fin.ext (by omega)

/-- `BOOT_FW_MAGIC | n`: the word that names partition `n` in the boot configuration and the RTC. -/
def magicWord (n : Part) : UInt32 := BOOT_FW_MAGIC ||| UInt32.ofNat n.val

/-- The partition number in the low bits of a word. -/
def wordPart (w : UInt32) : Part := ⟨(w &&& 0x07).toNat, by
  rw [UInt32.toNat_and]
  exact lt_of_le_of_lt Nat.and_le_right (by decide)⟩

theorem wordPart_magicWord (n : Part) : wordPart (magicWord n) = n := by
  revert n
  decide

theorem magicWord_injective {n m : Part} (h : magicWord n = magicWord m) : n = m := by
  rw [← wordPart_magicWord n, h, wordPart_magicWord]

/-- The range test on `boot_part`. -/
def ValidWord (w : UInt32) : Prop := ¬(w < BOOT_FW_MAGIC ∨ w ≥ BOOT_FW_MAGIC + UInt32.ofNat MAX_APP_PART)

instance (w : UInt32) : Decidable (ValidWord w) := inferInstanceAs (Decidable (¬_))

theorem validWord_magicWord (n : Part) : ValidWord (magicWord n) := by
  revert n
  decide

/-- The words that pass the range test are the eight words that name a partition. -/
theorem validWord_iff {w : UInt32} : ValidWord w ↔ w = magicWord (wordPart w) := by
  constructor
  · intro h
    have hlow : BOOT_FW_MAGIC.toNat ≤ w.toNat := by
      have := mt UInt32.lt_iff_toNat_lt.mpr (mt Or.inl h)
      omega
    have hhigh : w.toNat < (BOOT_FW_MAGIC + UInt32.ofNat MAX_APP_PART).toNat := by
      have := mt UInt32.le_iff_toNat_le.mpr (mt Or.inr h)
      omega
    have hsum : (BOOT_FW_MAGIC + UInt32.ofNat MAX_APP_PART).toNat = BOOT_FW_MAGIC.toNat + 8 := rfl
    obtain ⟨i, hi, hw⟩ : ∃ i < 8, w = UInt32.ofNat (BOOT_FW_MAGIC.toNat + i) :=
      ⟨w.toNat - BOOT_FW_MAGIC.toNat, by omega, by
        rw [show BOOT_FW_MAGIC.toNat + (w.toNat - BOOT_FW_MAGIC.toNat) = w.toNat by omega,
          UInt32.ofNat_toNat]⟩
    subst hw
    interval_cases i <;> decide
  · intro h
    rw [h]
    exact validWord_magicWord _

/-! ### The boot configuration -/

@[ext] structure BootInfo where
  bootPart : UInt32
  bootAddr : UInt32
  partLength : Part → UInt32
  partMd5 : Part → Digest
  partType : Part → UInt8

namespace BootInfo

/-- `sizeof(boot_info_t)`. -/
abbrev size : ℕ := 176

/-- The byte at offset `o` of the structure in memory. -/
def byte (b : BootInfo) (o : ℕ) : UInt8 :=
  if o < 4 then UInt8.ofNat (b.bootPart.toNat / 256 ^ o)
  else if o < 8 then UInt8.ofNat (b.bootAddr.toNat / 256 ^ (o - 4))
  else if h : o < 40 then
    UInt8.ofNat ((b.partLength ⟨(o - 8) / 4, by simp only [MAX_APP_PART]; omega⟩).toNat / 256 ^ ((o - 8) % 4))
  else if h : o < 168 then
    b.partMd5 ⟨(o - 40) / 16, by simp only [MAX_APP_PART]; omega⟩ ⟨(o - 40) % 16, by omega⟩
  else if h : o < 176 then b.partType ⟨o - 168, by simp only [MAX_APP_PART]; omega⟩
  else 0

/-- The structure as it is written to the flash. -/
def bytes (b : BootInfo) : List UInt8 := (List.range size).map b.byte

/-- The structure read over `bs`. -/
def ofBytes (bs : List UInt8) : BootInfo where
  bootPart := le32 bs
  bootAddr := le32 (bs.drop 4)
  partLength i := le32 (bs.drop (8 + 4 * i.val))
  partMd5 i j := bs.getD (40 + 16 * i.val + j.val) 0
  partType i := bs.getD (168 + i.val) 0

/-- `boot_info->part_type[i]` for any index: past the array it is what the structure holds there. -/
def partTypeAt (b : BootInfo) (i : UInt32) : UInt8 := b.byte (168 + i).toNat

@[simp] theorem bytes_length (b : BootInfo) : b.bytes.length = size := by simp [bytes]

theorem bytes_getElem? (b : BootInfo) {o : ℕ} (h : o < size) : b.bytes[o]? = some (b.byte o) := by
  simp [bytes, h]

theorem byte_partMd5 (b : BootInfo) (i : Part) (j : Fin 16) :
    b.byte (40 + 16 * i.val + j.val) = b.partMd5 i j := by
  have hi : i.val < 8 := i.isLt
  have hj := j.isLt
  have hidx : (40 + 16 * i.val + j.val - 40) / 16 = i.val := by omega
  have hpos : (40 + 16 * i.val + j.val - 40) % 16 = j.val := by omega
  rw [byte, if_neg (by omega), if_neg (by omega), dif_neg (by omega), dif_pos (by omega)]
  simp only [hidx, hpos]

theorem byte_partType (b : BootInfo) (i : Part) : b.byte (168 + i.val) = b.partType i := by
  have hi : i.val < 8 := i.isLt
  rw [byte, if_neg (by omega), if_neg (by omega), dif_neg (by omega), dif_neg (by omega),
    dif_pos (by omega)]
  simp only [Nat.add_sub_cancel_left]

/-- Writing the structure and reading it back changes nothing. -/
theorem ofBytes_bytes (b : BootInfo) : ofBytes b.bytes = b := by
  refine BootInfo.ext ?_ ?_ (funext fun i => ?_) (funext fun i => funext fun j => ?_)
    (funext fun i => ?_)
  · refine le32_eq_of_getElem? fun i hi => ?_
    rw [bytes_getElem? b (by simp only [size]; omega), byte, if_pos hi]
  · refine le32_eq_of_getElem? fun i hi => ?_
    rw [List.getElem?_drop, bytes_getElem? b (by simp only [size]; omega), byte,
      if_neg (by omega), if_pos (by omega), show 4 + i - 4 = i by omega]
  · refine le32_eq_of_getElem? fun j hj => ?_
    have hi : i.val < 8 := i.isLt
    rw [List.getElem?_drop, bytes_getElem? b (by simp only [size]; omega), byte,
      if_neg (by omega), if_neg (by omega), dif_pos (by omega)]
    have hidx : (8 + 4 * i.val + j - 8) / 4 = i.val := by omega
    have hpow : (8 + 4 * i.val + j - 8) % 4 = j := by omega
    simp only [hidx, hpow]
  · have hi : i.val < 8 := i.isLt
    have hj := j.isLt
    show b.bytes.getD (40 + 16 * i.val + j.val) 0 = b.partMd5 i j
    rw [List.getD_eq_getElem?_getD, bytes_getElem? b (by simp only [size]; omega),
      Option.getD_some, byte_partMd5]
  · have hi : i.val < 8 := i.isLt
    show b.bytes.getD (168 + i.val) 0 = b.partType i
    rw [List.getD_eq_getElem?_getD, bytes_getElem? b (by simp only [size]; omega),
      Option.getD_some, byte_partType]

/-- Reading the structure back gives the bytes it was read from. -/
theorem byte_ofBytes {bs : List UInt8} (hlen : bs.length = size) {o : ℕ} (ho : o < size) :
    (ofBytes bs).byte o = bs.getD o 0 := by
  simp only [size] at hlen ho
  have hword : ∀ i j, j < 4 → i + 4 ≤ 176 →
      UInt8.ofNat ((le32 (bs.drop i)).toNat / 256 ^ j) = bs.getD (i + j) 0 := by
    intro i j hj hi
    rw [byte_le32 (by rw [List.length_drop]; omega) hj, List.getD_eq_getElem?_getD, List.getD_eq_getElem?_getD,
      List.getElem?_drop]
  unfold byte
  split_ifs with h4 h8 h40 h168
  · have := hword 0 o h4 (by omega)
    rwa [List.drop_zero, Nat.zero_add] at this
  · have := hword 4 (o - 4) (by omega) (by omega)
    rwa [Nat.add_sub_cancel' (by omega)] at this
  · have := hword (8 + 4 * ((o - 8) / 4)) ((o - 8) % 4) (by omega) (by omega)
    rwa [show 8 + 4 * ((o - 8) / 4) + (o - 8) % 4 = o by omega] at this
  · show bs.getD (40 + 16 * ((o - 40) / 16) + (o - 40) % 16) 0 = _
    rw [show 40 + 16 * ((o - 40) / 16) + (o - 40) % 16 = o by omega]
  · show bs.getD (168 + (o - 168)) 0 = _
    rw [Nat.add_sub_cancel' (by omega)]

/-- `boot_info->part_length[i]` for any index. -/
def partLengthAt (b : BootInfo) (i : ℕ) : UInt32 := le32 (b.bytes.drop (8 + 4 * i))

theorem partLengthAt_of_lt (b : BootInfo) (n : Part) : b.partLengthAt n.val = b.partLength n :=
  congrFun (congrArg partLength (ofBytes_bytes b)) n

theorem partLengthAt_eq {b : BootInfo} {i : ℕ} {v : UInt32} (hi : 8 + 4 * i + 4 ≤ size)
    (h : ∀ j < 4, b.byte (8 + 4 * i + j) = UInt8.ofNat (v.toNat / 256 ^ j)) : b.partLengthAt i = v := by
  refine le32_eq_of_getElem? fun j hj => ?_
  rw [List.getElem?_drop, bytes_getElem? b (by omega), h j hj]

theorem byte_partLengthAt (b : BootInfo) {i j : ℕ} (hi : 8 + 4 * i + 4 ≤ size) (hj : j < 4) :
    b.byte (8 + 4 * i + j) = UInt8.ofNat ((b.partLengthAt i).toNat / 256 ^ j) := by
  have hlen : 4 ≤ (b.bytes.drop (8 + 4 * i)).length := by
    rw [List.length_drop, bytes_length]
    omega
  rw [partLengthAt, byte_le32 hlen hj, List.getD_eq_getElem?_getD, List.getElem?_drop, bytes_getElem? b (by omega)]
  rfl

end BootInfo

/-! ### The boot-parameter sector -/

/-- The addresses of the boot-parameter sector. -/
def bootSector : Set UInt32 := {x | x.toNat / SECTOR_SIZE = BOOT_PARAM_ADDR.toNat / SECTOR_SIZE}

/-- The boot configuration a flash content holds. -/
def bootInfoAt (f : Space) : BootInfo := BootInfo.ofBytes (slice f BOOT_PARAM_ADDR BootInfo.size)

/-- Erase the boot-parameter sector and write a boot configuration to it. -/
def saveOps (b : BootInfo) : List Op :=
  [.erase (BOOT_PARAM_ADDR.toNat / SECTOR_SIZE), .program BOOT_PARAM_ADDR b.bytes]

theorem mem_bootSector {x : UInt32} : x ∈ bootSector ↔ 0xFA000 ≤ x.toNat ∧ x.toNat < 0xFB000 := by
  show x.toNat / 0x1000 = 0xFA ↔ _
  omega

theorem bootInfo_span_subset : span BOOT_PARAM_ADDR BootInfo.size ⊆ bootSector := by
  intro x hx
  have := (mem_span_iff_of_le (by decide)).mp hx
  have haddr : BOOT_PARAM_ADDR.toNat = 0xFA000 := rfl
  exact mem_bootSector.mpr (by simp only [BootInfo.size] at this; omega)

theorem saveOps_touches (b : BootInfo) : ∀ op ∈ saveOps b, op.touches SECTOR_SIZE ⊆ bootSector := by
  intro op hop
  simp only [saveOps, List.mem_cons, List.not_mem_nil, or_false] at hop
  rcases hop with rfl | rfl
  · exact fun x hx => hx
  · simp only [Op.touches, BootInfo.bytes_length]
    exact bootInfo_span_subset

theorem save_of_not_mem (b : BootInfo) (f : Space) {x : UInt32} (hx : x ∉ bootSector) :
    applyAll SECTOR_SIZE (saveOps b) f x = f x :=
  applyAll_of_not_touches (fun op hop h => hx (saveOps_touches b op hop h)) f

/-- A saved boot configuration is the one the next reader finds. -/
@[simp] theorem bootInfoAt_save (b : BootInfo) (f : Space) :
    bootInfoAt (applyAll SECTOR_SIZE (saveOps b) f) = b := by
  have hslice : slice (applyAll SECTOR_SIZE (saveOps b) f) BOOT_PARAM_ADDR BootInfo.size = b.bytes := by
    refine List.ext_getElem (by simp) fun i hi _ => ?_
    have hlt : i < BootInfo.size := by simpa using hi
    have haddr : BOOT_PARAM_ADDR.toNat = 0xFA000 := rfl
    rw [slice_getElem]
    simp only [BootInfo.size] at hlt
    refine erase_program_add f _ _ _ i (by simpa using hlt) (by simp [BootInfo.size]) ?_
    rw [add_ofNat_toNat _ _ (by omega), haddr]
    simp only [SECTOR_SIZE]
    omega
  rw [bootInfoAt, hslice, BootInfo.ofBytes_bytes]

/-- The boot configuration is read from the boot-parameter sector only. -/
theorem bootInfoAt_congr {f g : Space} (h : ∀ x ∈ bootSector, f x = g x) : bootInfoAt f = bootInfoAt g := by
  rw [bootInfoAt, bootInfoAt, slice_congr fun x hx => h x (bootInfo_span_subset hx)]

end Esp8266At
