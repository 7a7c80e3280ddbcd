import Esp8266At.Image

/-!
# `check_load_binary`

The bootloader's image check. It copies the sections to RAM while it computes their checksum, so
RAM changes also when the image is then refused. The MD5 routines are in the ROM: `md5` stands for
what they compute of all the bytes handed to `MD5Update`.

The bootloader's own variables are not part of `ram`: the image sections are taken to be loaded
outside the bootloader's memory. Console output is left out.
-/

namespace Esp8266At.Bootloader

open ByteSpace NorFlash

/-- The machine the bootloader runs on, with the variables `bootloader_task` shares with
`check_load_binary`. -/
structure Boot where
  spi : Spi
  rtc : Rtc
  ram : Space
  bootInfo : BootInfo
  map : UInt8
  bootFlashMap : UInt8
  bootFlashMode : UInt8

namespace Boot

/-- `SPIRead`; `none` is a nonzero result. -/
def spiRead (s : Boot) (addr : UInt32) (len : ℕ) : Option (List UInt8) × Boot :=
  ((s.spi.read addr len).1, { s with spi := (s.spi.read addr len).2 })

/-- `SPIEraseSector`; `false` is a nonzero result. -/
def spiEraseSector (s : Boot) (sector : UInt32) : Bool × Boot :=
  ((s.spi.perform (.erase sector.toNat)).1, { s with spi := (s.spi.perform (.erase sector.toNat)).2 })

/-- `SPIWrite`; `false` is a nonzero result. -/
def spiWrite (s : Boot) (addr : UInt32) (data : List UInt8) : Bool × Boot :=
  ((s.spi.perform (.program addr data)).1, { s with spi := (s.spi.perform (.program addr data)).2 })

/-- `ets_memcpy` to a RAM address. -/
def memcpy (s : Boot) (addr : UInt32) (data : List UInt8) : Boot :=
  { s with ram := store s.ram addr data }

@[simp] theorem memcpy_spi (s : Boot) (addr : UInt32) (data : List UInt8) :
    (s.memcpy addr data).spi = s.spi := rfl

end Boot

/-! ### The loops -/

/-- `while (remaining > 0)`: copy one section to RAM, 256 bytes at a time, and add it to the
checksum. Gives the flash address and the checksum reached, `none` after an SPI error. -/
def loadSection : ℕ → UInt32 → UInt32 → UInt32 → UInt8 → Boot → Option (UInt32 × UInt8) × Boot
  | 0, flash_addr, _, _, checksum, s => (some (flash_addr, checksum), s)
  | fuel + 1, flash_addr, load_addr, remaining, checksum, s =>
    if remaining > 0 then
      let readlen := if remaining < 256 then remaining else 256
      match s.spiRead flash_addr readlen.toNat with
      | (none, s) => (none, s)
      | (some buffer, s) =>
        loadSection fuel (flash_addr + readlen) (load_addr + readlen) (remaining - readlen)
          (xorSum checksum buffer) (s.memcpy load_addr buffer)
    else (some (flash_addr, checksum), s)

/-- `for (i = 0; i < header.count; i++)`: load the sections one after another. -/
def loadSections : ℕ → UInt32 → UInt8 → Boot → Option (UInt32 × UInt8) × Boot
  | 0, flash_addr, checksum, s => (some (flash_addr, checksum), s)
  | count + 1, flash_addr, checksum, s =>
    match s.spiRead flash_addr 8 with
    | (none, s) => (none, s)
    | (some b, s) =>
      let sect := SectionHeader.ofBytes b
      match loadSection sect.length.toNat (flash_addr + 8) sect.address sect.length checksum s with
      | (none, s) => (none, s)
      | (some (flash_addr, checksum), s) => loadSections count flash_addr checksum s

/-- `while (remaining)`: hand the firmware area to `MD5Update`, 256 bytes at a time. Gives the bytes
handed over and their number. -/
def hashArea : ℕ → UInt32 → UInt32 → List UInt8 → UInt32 → Boot → Option (List UInt8 × UInt32) × Boot
  | 0, _, _, context, total, s => (some (context, total), s)
  | fuel + 1, flash_addr, remaining, context, total, s =>
    if remaining ≠ 0 then
      let readlen := if remaining ≥ 256 then 256 else remaining
      match s.spiRead flash_addr readlen.toNat with
      | (none, s) => (none, s)
      | (some buffer, s) =>
        hashArea fuel (flash_addr + readlen) (remaining - readlen) (context ++ buffer)
          (total + readlen) s
    else (some (context, total), s)

/-! ### The check -/

/-- The configuration `check_load_binary` writes for an image it records: what the sector holds,
with the image made the default if `*map` is `0xFF`, and its length, type and digest. -/
def recorded (bi : BootInfo) (map : UInt8) (flash_start : UInt32) (app_n : Part) (total : UInt32)
    (mapMode : UInt8) (digest : Digest) : BootInfo :=
  { bootAddr := if map = 0xFF then flash_start else bi.bootAddr
    bootPart := if map = 0xFF then magicWord app_n else bi.bootPart
    partLength := Function.update bi.partLength app_n total
    partType := Function.update bi.partType app_n mapMode
    partMd5 := Function.update bi.partMd5 app_n digest }

/-- The last part of `check_load_binary`: compare the digest with the recorded one and, when `save`
allows it, record the image. -/
def checkDigest (flash_start : UInt32) (app_n : Part) (save : Bool) (header : Header) (total : UInt32)
    (digest : Digest) (s : Boot) : UInt32 × Boot :=
  let mapMode := (header.flags2 &&& 0xF0) ||| (header.flags1 &&& 0x0F)
  if digest ≠ s.bootInfo.partMd5 app_n then
    -- MD5 does not match the boot config
    if save then
      match s.spiRead BOOT_PARAM_ADDR BootInfo.size with
      | (none, s) => (0, s)
      | (some b, s) =>
        let boot_info := recorded (BootInfo.ofBytes b) s.map flash_start app_n total mapMode digest
        let s := { s with bootInfo := boot_info, map := if s.map = 0xFF then mapMode else s.map }
        match s.spiEraseSector (BOOT_PARAM_ADDR / UInt32.ofNat SECTOR_SIZE) with
        | (false, s) => (0, s)
        | (true, s) =>
          match s.spiWrite BOOT_PARAM_ADDR boot_info.bytes with
          | (false, s) => (0, s)
          | (true, s) => (header.entry, s)
    else (0, s)
  else (header.entry, s)

/-- `check_load_binary`: the entry point of the image at `flash_addr`, or 0. -/
def checkLoadBinary (md5 : List UInt8 → Digest) (flash_addr : UInt32) (app_n : Part) (save : Bool)
    (s : Boot) : UInt32 × Boot :=
  let flash_start := flash_addr
  match s.spiRead flash_addr 8 with
  | (none, s) => (0, s)
  | (some b, s) =>
    let header := Header.ofBytes b
    if header.magic ≠ HEADER_MAGIC ∨ header.count = 0 then (0, s) else
    -- ignore the section ROM
    match s.spiRead (flash_addr + 8) 8 with
    | (none, s) => (0, s)
    | (some b, s) =>
      let flash_addr := flash_addr + 8 + 8 + (SectionHeader.ofBytes b).length
      match s.spiRead flash_addr 8 with
      | (none, s) => (0, s)
      | (some b, s) =>
        let header := Header.ofBytes b
        if header.magic ≠ SECTION_MAGIC ∨ header.count = 0 then (0, s) else
        let flash_map1 := (header.flags2 &&& 0xF0) >>> 4
        -- `FAIL_IF_NOT_SAME_MAP`
        if s.bootFlashMap ≠ 0xFF ∧ flash_map1 ≠ s.bootFlashMap ∧
            ¬(flash_map1 = 2 ∧ s.bootFlashMap = 0) then (0, s) else
        match loadSections header.count.toNat (flash_addr + 8) CHECKSUM_INIT s with
        | (none, s) => (0, s)
        | (some (flash_addr, checksum), s) =>
          let flash_addr := (flash_addr ||| 0xF) - 3
          match s.spiRead flash_addr 4 with
          | (none, s) => (0, s)
          | (some buffer, s) =>
            if buffer.getD 3 0 ≠ checksum then (0, s) else
            let flash_end := flash_addr + 8
            let remaining := flash_end - flash_start
            match hashArea remaining.toNat flash_start remaining [] 0 s with
            | (none, s) => (0, s)
            | (some (context, total), s) =>
              checkDigest flash_start app_n save header total (md5 context) s

end Esp8266At.Bootloader
