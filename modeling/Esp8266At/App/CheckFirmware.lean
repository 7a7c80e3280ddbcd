import Esp8266At.App.State

/-!
# `check_firmware`

The application's check of a downloaded image. It walks the image as `check_load_binary` does, but
compares the flash map with the one the update was requested for, compares the digest with a
downloaded one if there is one, and makes the image the default firmware.
-/

namespace Esp8266At

open ByteSpace NorFlash

namespace BootInfo

/-- The structure with `data` written at offset `o`; what lies behind the structure is not kept. -/
def poke (b : BootInfo) (o : ℕ) (data : List UInt8) : BootInfo :=
  ofBytes ((List.range size).map fun i =>
    if o ≤ i ∧ i < o + data.length then data.getD (i - o) 0 else b.byte i)

/-- `boot_info->part_length[i] = v`. An index past the array goes on into the structure. -/
def setPartLength (b : BootInfo) (i : UInt8) (v : UInt32) : BootInfo :=
  if h : i.toNat < MAX_APP_PART then { b with partLength := Function.update b.partLength ⟨i.toNat, h⟩ v }
  else b.poke (8 + 4 * i.toNat) (bytes32 v)

/-- `boot_info->part_type[i] = v`. -/
def setPartType (b : BootInfo) (i v : UInt8) : BootInfo :=
  if h : i.toNat < MAX_APP_PART then { b with partType := Function.update b.partType ⟨i.toNat, h⟩ v }
  else b.poke (168 + i.toNat) [v]

/-- `os_memcpy(boot_info->part_md5[i].md5, v, 16)`. -/
def setPartMd5 (b : BootInfo) (i : UInt8) (v : Digest) : BootInfo :=
  if h : i.toNat < MAX_APP_PART then { b with partMd5 := Function.update b.partMd5 ⟨i.toNat, h⟩ v }
  else b.poke (40 + 16 * i.toNat) (List.ofFn v)

theorem byte_poke (b : BootInfo) (p : ℕ) (data : List UInt8) {o : ℕ} (ho : o < size) :
    (b.poke p data).byte o = if p ≤ o ∧ o < p + data.length then data.getD (o - p) 0 else b.byte o := by
  rw [poke, byte_ofBytes (by simp) ho, List.getD_eq_getElem?_getD]
  simp [ho]

/-- The length that has been stored, also where the index is past the array. -/
theorem partLengthAt_setPartLength (b : BootInfo) {i : UInt8} (hi : i.toNat < 15) (v : UInt32) :
    (b.setPartLength i v).partLengthAt i.toNat = v := by
  unfold setPartLength
  by_cases h : i.toNat < MAX_APP_PART
  · rw [dif_pos h]
    have hat := partLengthAt_of_lt { b with partLength := Function.update b.partLength ⟨i.toNat, h⟩ v } ⟨i.toNat, h⟩
    rw [hat]
    exact Function.update_self (β := fun _ => UInt32) _ _ _
  · rw [dif_neg h]
    refine partLengthAt_eq (by simp only [size]; omega) fun j hj => ?_
    rw [byte_poke _ _ _ (by simp only [size]; omega), if_pos (by rw [bytes32_length]; omega), Nat.add_sub_cancel_left]
    simp [bytes32, hj]

theorem byte_setPartType (b : BootInfo) (i v : UInt8) {o : ℕ} (ho : o < 168) :
    (b.setPartType i v).byte o = b.byte o := by
  unfold setPartType
  by_cases h : i.toNat < MAX_APP_PART
  · rw [dif_pos h]
    unfold byte
    split_ifs <;> rfl
  · rw [dif_neg h, byte_poke _ _ _ (by simp only [size]; omega), if_neg (by omega)]

/-- Storing the type and the digest of a partition leaves its length alone. -/
theorem partLengthAt_setPartType_setPartMd5 (b : BootInfo) {i : UInt8} (hi : i.toNat < 15) (type : UInt8)
    (digest : Digest) :
    ((b.setPartType i type).setPartMd5 i digest).partLengthAt i.toNat = b.partLengthAt i.toNat := by
  refine partLengthAt_eq (by simp only [size]; omega) fun j hj => ?_
  rw [← byte_partLengthAt b (by simp only [size]; omega) hj, ← byte_setPartType b i type (by omega)]
  generalize b.setPartType i type = b'
  unfold setPartMd5
  by_cases h : i.toNat < MAX_APP_PART
  · rw [dif_pos h]
    simp only [MAX_APP_PART] at h
    unfold byte
    split_ifs
    · rfl
    · rfl
    · rfl
    · omega
    · rfl
    · rfl
  · rw [dif_neg h, byte_poke _ _ _ (by simp only [size]; omega), if_neg (by simp only [MAX_APP_PART] at h; omega)]

end BootInfo

namespace App

/-- The digest as `%02X` prints it. -/
def digestText (digest : Digest) : List UInt8 :=
  (List.ofFn digest).flatMap fun b => CString.ascii (CString.hex 2 b.toNat)

def spiError (flash_addr : UInt32) (s : App) : UInt32 × App :=
  (0, s.freeBootInfo.debug ("  SPI Flash error (" ++ CString.hex 6 flash_addr.toNat ++ ")\r\n"))

/-! ### The loops -/

/-- `while (remaining > 0)`: add one section to the checksum, 256 bytes at a time. An error carries the
address that could not be read. -/
def sumSection : ℕ → UInt32 → UInt32 → UInt8 → App → Except UInt32 (UInt32 × UInt8) × App
  | 0, flash_addr, _, checksum, s => (.ok (flash_addr, checksum), s)
  | fuel + 1, flash_addr, remaining, checksum, s =>
    if remaining > 0 then
      let readlen := if remaining < 256 then remaining else 256
      match s.spiFlashRead flash_addr readlen.toNat with
      | (none, s) => (.error flash_addr, s)
      | (some buffer, s) =>
        sumSection fuel (flash_addr + readlen) (remaining - readlen) (xorSum checksum buffer) s
    else (.ok (flash_addr, checksum), s)

/-- `for(i=0; i<header.count; i++)`: calculate the checksum of all sections. -/
def sumSections : ℕ → UInt32 → UInt8 → App → Except UInt32 (UInt32 × UInt8) × App
  | 0, flash_addr, checksum, s => (.ok (flash_addr, checksum), s)
  | count + 1, flash_addr, checksum, s =>
    let s := s.debug "."
    match s.spiFlashRead flash_addr 8 with
    | (none, s) => (.error flash_addr, s)
    | (some b, s) =>
      let sect := SectionHeader.ofBytes b
      match sumSection sect.length.toNat (flash_addr + 8) sect.length checksum s with
      | (.error flash_addr, s) => (.error flash_addr, s)
      | (.ok (flash_addr, checksum), s) => sumSections count flash_addr checksum s

/-- `while (remaining)`: hand the firmware area to `MD5Update`, 256 bytes at a time. -/
def hashFirmware : ℕ → UInt32 → UInt32 → List UInt8 → UInt32 → App →
    Except UInt32 (List UInt8 × UInt32) × App
  | 0, _, _, context, total, s => (.ok (context, total), s)
  | fuel + 1, flash_addr, remaining, context, total, s =>
    if remaining ≠ 0 then
      let readlen := if remaining ≥ 256 then 256 else remaining
      match s.spiFlashRead flash_addr readlen.toNat with
      | (none, s) => (.error flash_addr, s)
      | (some buffer, s) =>
        hashFirmware fuel (flash_addr + readlen) (remaining - readlen) (context ++ buffer)
          (total + readlen) s
    else (.ok (context, total), s)

/-! ### The check -/

/-- Save new firmware data. -/
def saveFirmware (flash_start : UInt32) (app_n : UInt8) (header : Header) (total : UInt32) (digest : Digest)
    (s : App) : UInt32 × App :=
  let mapMode := (header.flags2 &&& 0xF0) ||| (header.flags1 &&& 0x0F)
  match s.bootInfo with
  | none => (0, s)
  | some b =>
    let b := { b with bootAddr := flash_start, bootPart := BOOT_FW_MAGIC ||| app_n.toUInt32 }
    let b := ((b.setPartLength app_n total).setPartType app_n mapMode).setPartMd5 app_n digest
    let s := { s with bootInfo := some b, indices := s.indices ++ List.replicate 3 app_n.toUInt32 }
    match s.spiFlashEraseSector (BOOT_PARAM_ADDR / UInt32.ofNat SECTOR_SIZE) with
    | (false, s) => spiError BOOT_PARAM_ADDR s
    | (true, s) =>
      match s.spiFlashWrite BOOT_PARAM_ADDR b.bytes with
      | (false, s) => spiError BOOT_PARAM_ADDR s
      | (true, s) => (header.entry, s.freeBootInfo)

/-- `check_firmware`: the entry point of the image at `upgrade_flash_addr`, or 0. -/
def checkFirmware (md5 : List UInt8 → Digest) (app_n : UInt8) (s : App) : UInt32 × App :=
  let flash_start := s.upgradeFlashAddr
  match s.spiFlashRead flash_start 8 with
  | (none, s) => spiError flash_start s
  | (some b, s) =>
    let header := Header.ofBytes b
    if header.magic ≠ HEADER_MAGIC ∨ header.count = 0 then (0, s.debug "  Header error\r\n") else
    let s := s.debug "  Header ok.\r\n"
    -- ignore the section ROM0
    match s.spiFlashRead (flash_start + 8) 8 with
    | (none, s) => spiError (flash_start + 8) s
    | (some b, s) =>
      let flash_addr := flash_start + 8 + 8 + (SectionHeader.ofBytes b).length
      match s.spiFlashRead flash_addr 8 with
      | (none, s) => spiError flash_addr s
      | (some b, s) =>
        let header := Header.ofBytes b
        if header.magic ≠ SECTION_MAGIC ∨ header.count = 0 then (0, s.debug "  Section error\r\n") else
        -- the return belongs to the block of the debug message
        if (header.flags2 &&& 0xF0) ||| (header.flags1 &&& 0x0F) ≠ s.upgradeFlashMap ∧ s.upgradeDebug then
          (0, s.print "  Flash map not as expected.\r\n")
        else
        let s := s.debug "  Check all sections "
        match sumSections header.count.toNat (flash_addr + 8) CHECKSUM_INIT s with
        | (.error flash_addr, s) => spiError flash_addr s
        | (.ok (flash_addr, checksum), s) =>
          let s := s.debug "\r\n"
          let flash_addr := (flash_addr ||| 0xF) - 3
          match s.spiFlashRead flash_addr 4 with
          | (none, s) => spiError flash_addr s
          | (some buffer, s) =>
            if buffer.getD 3 0 ≠ checksum then (0, s.debug "  Checksum error\r\n") else
            let s := s.debug "  OK, calculate MD5\r\n"
            match s.readBootInfo with
            | (false, s) => (0, s.debug "  Error reading boot config sector\r\n")
            | (true, s) =>
              let flash_end := flash_addr + 8
              let remaining := flash_end - flash_start
              match hashFirmware remaining.toNat flash_start remaining [] 0 s with
              | (.error flash_addr, s) => spiError flash_addr s
              | (.ok (context, total), s) =>
                let digest := md5 context
                if CString.strlen s.updateMd5 = 32 ∧ s.updateMd5.take 32 ≠ digestText digest then
                  (0, s.freeBootInfo.debug "  MD5 checksum not matched\r\n")
                else saveFirmware flash_start app_n header total digest s

end App

end Esp8266At
