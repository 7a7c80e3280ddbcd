import Esp8266At.Bootloader.Load

/-!
# `bootloader_task`

One run of the bootloader, from reset to the jump into a firmware or to the blinking LED. The inputs
of a run are the flash, the RTC words, RAM and the state of the button; the hardware set-up (clocks,
watchdog, UART) and the console output have no part in what is started and are left out. This is the
build with OTA support.
-/

namespace Esp8266At.Bootloader

open ByteSpace NorFlash

abbrev BOOTLOADER_VERNUM : UInt32 := 0x00010200

/-- How a run ends: the firmware entry point is returned, or `blink_led` never returns. -/
inductive Outcome where
  | start (entry_point : UInt32)
  | blinkLed
  deriving DecidableEq

namespace Boot

/-- `*(rtc_ruserdata + (idx*4))`: a word index, so the words are 16 bytes apart. -/
def getRtcUserdata (s : Boot) (idx : ℕ) : UInt32 := s.rtc (idx * 4)

def setRtcUserdata (s : Boot) (idx : ℕ) (data : UInt32) : Boot :=
  { s with rtc := Function.update s.rtc (idx * 4) data }

/-- Save the boot counter. -/
def countBoot (s : Boot) : Boot :=
  if s.getRtcUserdata 3 &&& 0xFFFFFFF0 ≠ BOOT_FW_MAGIC then s.setRtcUserdata 3 (BOOT_FW_MAGIC ||| 1)
  else s.setRtcUserdata 3 (BOOT_FW_MAGIC ||| (((s.getRtcUserdata 3 &&& 0x0F) + 1) &&& 0x0F))

/-- Read the SPI flash map and mode from the header in sector 0. -/
def readFlashMap (s : Boot) : Boot :=
  match s.spiRead 0 8 with
  | (none, s) => s
  | (some b, s) =>
    let header := Header.ofBytes b
    if header.magic = SECTION_MAGIC then
      { s with bootFlashMap := header.flags2 >>> 4, bootFlashMode := header.flags1 &&& 0x0F }
    else s

end Boot

/-- The partitions `for (n = 0; n < MAX_APP_PART; n += i)` goes through before it breaks. -/
def scanOrder (boot_flash_map : UInt8) : List Part :=
  let i := if boot_flash_map > 4 then 2 else 1
  ((List.finRange MAX_APP_PART).filter fun n => n.val % i = 0).takeWhile fun n =>
    ¬(boot_flash_map = 2 ∧ n.val > 1) ∧ ¬((boot_flash_map = 3 ∨ boot_flash_map = 5) ∧ n.val > 3)

section
variable (md5 : List UInt8 → Digest)

/-- `exit_ok`: leave the started partition in the RTC words. -/
def exitOk (entry_point : UInt32) (app_n : Part) (app_addr : UInt32) (s : Boot) : Outcome × Boot :=
  (.start entry_point, (s.setRtcUserdata 1 (magicWord app_n)).setRtcUserdata 2 app_addr)

/-- The scan after `boot_1st`: every partition is checked, and recorded where its digest is not the
recorded one; the first that is loadable is selected. -/
def scanAll : List Part → Option (UInt32 × Part) → Boot → Option (UInt32 × Part) × Boot
  | [], selected, s => (selected, s)
  | n :: ns, selected, s =>
    match checkLoadBinary md5 (partAddr n) n true s with
    | (entry_point_temp, s) =>
      if entry_point_temp ≠ 0 then
        match selected with
        | none => scanAll ns (some (entry_point_temp, n)) { s with map := s.bootInfo.partType n }
        | some _ => scanAll ns selected s
      else scanAll ns selected s

/-- `boot_1st`: try to find the loadable binary. -/
def boot1st (s : Boot) : Outcome × Boot :=
  let s := { s with map := 0xFF }.setRtcUserdata 3 (BOOT_FW_MAGIC ||| 1)
  match scanAll md5 (scanOrder s.bootFlashMap) none s with
  | (some (entry_point, app_n), s) => exitOk entry_point app_n (partAddr app_n) s
  | (none, s) => (.blinkLed, s)

/-- Try to load other firmware than configured. -/
def tryOthers (app_n : Part) : List Part → Boot → Option (UInt32 × Part) × Boot
  | [], s => (none, s)
  | n :: ns, s =>
    if n ≠ app_n then
      match checkLoadBinary md5 (partAddr n) n false s with
      | (entry_point, s) =>
        if entry_point ≠ 0 then (some (entry_point, n), { s with map := s.bootInfo.partType n })
        else tryOthers app_n ns s
    else tryOthers app_n ns s

/-- Check the boot configuration to determine which firmware to start. -/
def configuredFirmware (button : Bool) (s : Boot) : Outcome × Boot :=
  if s.bootInfo.bootPart &&& BOOT_FW_MAGIC = BOOT_FW_MAGIC then
    let app_n := wordPart s.bootInfo.bootPart
    let s := { s with map := s.bootInfo.partType app_n }
    if button ∨ s.getRtcUserdata 3 &&& 0x0F ≥ 15 then
      -- button pressed or max number of resets reached
      match tryOthers md5 app_n (scanOrder s.bootFlashMap) s with
      | (some (entry_point, n), s) => exitOk entry_point n (partAddr n) s
      | (none, s) => (.blinkLed, s)
    else
      match checkLoadBinary md5 (partAddr app_n) app_n false s with
      | (entry_point, s) =>
        if entry_point ≠ 0 then exitOk entry_point app_n (partAddr app_n) s else
        -- failed, try once more
        match checkLoadBinary md5 (partAddr app_n) app_n false s with
        | (entry_point, s) =>
          if entry_point ≠ 0 then exitOk entry_point app_n (partAddr app_n) s else boot1st md5 s
  else boot1st md5 s

/-- Load the firmware selected from the application. `none` when there is no request or it fails. -/
def requestedFirmware (load_app : UInt32) (s : Boot) : Option Outcome × Boot :=
  if load_app &&& BOOT_FW_MAGIC_MASK = BOOT_FW_MAGIC then
    let app_n := wordPart load_app
    if ¬(s.bootFlashMap > 4 ∧ app_n.val % 2 ≠ 0) then
      let s := { s with map := s.bootInfo.partType app_n }.setRtcUserdata 0 0
      let app_addr := partAddr app_n
      match checkLoadBinary md5 app_addr app_n false s with
      | (entry_point, s) =>
        if entry_point ≠ 0 then
          -- make this partition permanent if requested
          let s := if load_app &&& 0x08 = 0x08 then
              let boot_info := { s.bootInfo with bootAddr := app_addr, bootPart := magicWord app_n }
              let s := { s with bootInfo := boot_info }
              let s := (s.spiEraseSector (BOOT_PARAM_ADDR / UInt32.ofNat SECTOR_SIZE)).2
              (s.spiWrite BOOT_PARAM_ADDR boot_info.bytes).2
            else s
          let (outcome, s) := exitOk entry_point app_n app_addr s
          (some outcome, s)
        else (none, s)
    else (none, s)
  else (none, s)

def bootloaderTask (button : Bool) (s : Boot) : Outcome × Boot :=
  let load_app := s.getRtcUserdata 0
  let s := { s with map := 0xFF, bootFlashMap := 0xFF, bootFlashMode := 0xFF }.countBoot
  let s := (s.setRtcUserdata 4 (0xA5000000 ||| BOOTLOADER_VERNUM)).readFlashMap
  match s.spiRead BOOT_PARAM_ADDR BootInfo.size with
  | (none, s) => (.blinkLed, s)
  | (some b, s) =>
    let s := { s with bootInfo := BootInfo.ofBytes b }
    if ¬ValidWord s.bootInfo.bootPart then boot1st md5 s else
    match requestedFirmware md5 load_app s with
    | (some outcome, s) => (outcome, s)
    | (none, s) => configuredFirmware md5 button s

end

end Esp8266At.Bootloader
