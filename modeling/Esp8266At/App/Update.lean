import Esp8266At.App.CheckFirmware

/-!
# Update targets and results

The rest of `at_upgrade.c` below the commands: the RTC words, `update_setparams`, which chooses where
the new firmware goes, and the three functions an update session ends in.
-/

namespace Esp8266At

open ByteSpace NorFlash

abbrev REMOTE_UPDATE_HOST : String := "loboris.eu"
abbrev ESP_AT_LOBO_VERSION : String := "ESP8266_AT_LoBo v1.3.1"
abbrev SYSTEM_PARTITION_RF_CAL_ADDR : UInt32 := 0xFB000
abbrev SYSTEM_PARTITION_SYSTEM_PARAMETER_ADDR : UInt32 := 0xFD000

/-- `SYSTEM_PARTITION_PARAM_START` of a build with OTA; the one for a flash of 512 KB has none. -/
def systemPartitionParamStart (spiFlashSizeMap : UInt8) : UInt32 :=
  if spiFlashSizeMap > 4 then 0xF5000 else 0x7B000

/-- `SYSTEM_PARTITION_AT_PARAMETER_ADDR` of a build. -/
def systemPartitionAtParameterAddr (spiFlashSizeMap : UInt8) : UInt32 :=
  systemPartitionParamStart spiFlashSizeMap + 0x2000

namespace App

/-! ### The RTC words -/

def setRtcNextboot (boot_part : UInt8) (s : App) : App :=
  if boot_part.toNat ≥ MAX_APP_PART then { s with rtc := Function.update s.rtc 0 0 }
  else { s with rtc := Function.update s.rtc 0 (BOOT_FW_MAGIC ||| (boot_part &&& 0x07).toUInt32) }

/-- `get_rtc_curr_fw`: as in the bootloader, the words are 16 bytes apart. -/
def getRtcCurrFw (s : App) : ℤ :=
  if s.rtc 4 ≥ BOOT_FW_MAGIC ∧ s.rtc 4 < BOOT_FW_MAGIC + UInt32.ofNat MAX_APP_PART then
    (s.rtc 4 &&& 0x0F).toNat
  else -1

def getRtcBootverAddr (s : App) : ℤ :=
  if s.rtc 16 &&& 0xFF000000 = 0xA5000000 then (s.rtc 16 &&& 0x00FFFFFF).toNat else -1

/-! ### The target -/

/-- The end of `update_setparams`. -/
def setTarget (fw_addr : UInt32) (flash_map flash_mode : UInt8) (s : App) : App :=
  let s := if s.upgradeRemoteHost.length = 0 then { s with upgradeRemoteHost := REMOTE_UPDATE_HOST } else s
  { s with upgradeFlashAddr := fw_addr, upgradeFlashMap := (flash_map <<< 4) ||| flash_mode }.freeBootInfo

def updateSetparams (s : App) : Bool × App :=
  -- Read the boot configuration
  match s.readBootInfo with
  | (false, s) => (false, s)
  | (true, s) =>
    match s.bootInfo with
    | none => (false, s.crash)
    | some b =>
      -- Get the current partition info
      let fw_n := UInt32.ofInt s.getRtcCurrFw
      let flash_map := b.partTypeAt fw_n >>> 4
      let flash_mode := b.partTypeAt fw_n &&& 0x0F
      let s : App := { s with indices := s.indices ++ [fw_n, fw_n] }
      match s.updateForcedFw with
      | some forced =>
        -- user requested update to the specified partition
        if UInt32.ofNat forced.val ≠ fw_n then
          let fw_n := UInt32.ofNat forced.val
          let s : App := { s with updateForcedFw := none }
          let fw_addr :=
            -- 512+512 firmwares can be located at half MB addresses
            if flash_map < 5 then (fw_n * FW_PART_INC) + FW_PART_OFFSET
            -- 1024+1024 firmwares can only be at 1MB addresses
            else (fw_n * FW_PART_INC * 2) + FW_PART_OFFSET
          (true, s.setTarget fw_addr flash_map flash_mode)
        else (false, s.freeBootInfo)
      | none =>
        -- Auto determine which partition to update
        let fw_n : UInt32 :=
          -- 512+512 firmware, alternate between 0 and 1
          if flash_map < 5 then (if fw_n = 0 then 1 else 0)
          -- 1024+1024 firmware, alternate between 0 and 2
          else (if fw_n = 0 then 2 else 0)
        (true, s.setTarget ((fw_n * FW_PART_INC) + FW_PART_OFFSET) flash_map flash_mode)

/-! ### The end of a session -/

section
variable (md5 : List UInt8 → Digest)

def checkBootloader (boot_buffer : List UInt8) (s : App) : Bool × App :=
  if CString.strlen s.updateMd5 = 32 then
    if s.updateMd5.take 32 = digestText (md5 (boot_buffer.take s.upgradeContentLen.toNat)) then (true, s)
    else (false, s.debug "  MD5 checksum not matched\r\n")
  else (false, s.debug "  MD5 checksum not downloaded\r\n")

/-- The firmware has been accepted. -/
def firmwareReady (s : App) : App :=
  let s := (s.print "+UPDATEFIRMWARE:1,ready for use\r\n").responseOk
  if s.updateReset = 1 then (s.print "+UPDATEFIRMWARE:1,RESTART NOW\r\n").systemRestart else s

/-- `fw_n` of `OtaUpdate_CallBack`. -/
def fwNumber (flash_addr : UInt32) : UInt32 := (flash_addr - FW_PART_OFFSET) / FW_PART_INC

def otaUpdateCallBack (result : Bool) (s : App) : App :=
  if result then
    let fw_n := fwNumber s.upgradeFlashAddr
    -- Check the firmware and save boot configuration
    let s := s.debug ("Checking firmware " ++ toString fw_n.toNat ++ " at 0x" ++
      CString.hex 6 s.upgradeFlashAddr.toNat ++ "\r\n")
    match checkFirmware md5 fw_n.toUInt8 s with
    | (fw_ok, s) =>
      let s := s.atLeaveSpecialState
      if fw_ok > 0 then s.firmwareReady
      else (s.print "+UPDATEFIRMWARE:0,new firmware check failed\r\n").responseError
  else (s.print "+UPDATEFIRMWARE:0,firmware upgrade failed\r\n").atLeaveSpecialState.responseError

/-- `spi_flash_erase_sector` where the result is not looked at. -/
def eraseAt (s : App) (addr : UInt32) : App := (s.spiFlashEraseSector (addr / UInt32.ofNat SECTOR_SIZE)).2

/-- The bootloader has been written. -/
def bootloaderUpdated (s : App) : App :=
  let s := (s.print "+UPDATEBOOT:1\r\n").atLeaveSpecialState.responseOk
  if s.updateReset = 1 then
    let atParameterAddr := systemPartitionAtParameterAddr s.spiFlashSizeMap
    -- erase bootloader configuration
    let s := s.eraseAt BOOT_PARAM_ADDR
    -- erase all configuration settings
    let s := [SYSTEM_PARTITION_RF_CAL_ADDR, SYSTEM_PARTITION_SYSTEM_PARAMETER_ADDR,
      SYSTEM_PARTITION_SYSTEM_PARAMETER_ADDR + 0x1000, SYSTEM_PARTITION_SYSTEM_PARAMETER_ADDR + 0x2000,
      atParameterAddr, atParameterAddr + 0x1000, atParameterAddr + 0x2000].foldl eraseAt s
    (s.print "+UPDATEBOOT:1,RESTART NOW\r\n").systemRestart
  else s

def otaUpdateBootCallBack (result : Bool) (s : App) : App :=
  let failed (s : App) : App := (s.print "+UPDATEBOOT:0\r\n").atLeaveSpecialState.responseError
  match result, s.upgradeCheckResponse with
  | true, some response =>
    let s := s.debug "Checking bootloader MD5 csum\r\n"
    match checkBootloader md5 response s with
    | (false, s) => failed s
    | (true, s) =>
      if response.length ≤ 3 then s.crash else
      -- The correct flash map and flash mode MUST be set
      let response := (response.set 2 (s.upgradeFlashMap &&& 0x0F)).set 3 (s.upgradeFlashMap &&& 0xF0)
      let s := { s with upgradeCheckResponse := some response }
      let writeFailed (s : App) : App := failed (s.print "+UPDATEBOOT:!!WRITE TO FLASH FAILED!!\r\n")
      match s.spiFlashEraseSector 0 with
      | (false, s) => writeFailed s
      | (true, s) =>
        match s.spiFlashWrite 0 (response.take s.upgradeContentLen.toNat) with
        | (false, s) => writeFailed s
        | (true, s) => s.bootloaderUpdated
  | _, _ => failed s

end

/-- The name of the running bootloader. -/
def bootloaderName (s : App) : String :=
  let boot_ver := s.getRtcBootverAddr
  "LoBo ESP8266 Bootloader v" ++ toString (boot_ver / 0x10000) ++ "." ++ toString (boot_ver / 0x100 % 0x100) ++
    "." ++ toString (boot_ver % 0x100)

/-- The two version checks of `OtaVerCheck_MD5_CallBack`: compare the first line of the response with
`old_ver` if it has the same length, and print the response if `echo`. -/
def checkVersion (name old_ver : String) (echo : Bool) (response : List UInt8) (s : App) : App :=
  let new_ver := (CString.text response).takeWhile (· ≠ 0x0D)
  if new_ver.length < CString.strlen response ∧ new_ver.length = old_ver.length then
    let matched := if new_ver = CString.ascii old_ver then 0 else 1
    let s := s.print ("+" ++ name ++ ":" ++ toString matched ++ ",\"" ++ CString.string new_ver ++ "\",\"" ++
      old_ver ++ "\"\r\n")
    let s := if echo then s.print (CString.string response) else s
    { s with upgradeCheckResponse := none }.atLeaveSpecialState.responseOk
  else
    let s := { s.print (CString.string response) with upgradeCheckResponse := none }
    (s.print ("+" ++ name ++ ":0,Error\r\n")).atLeaveSpecialState.responseError

/-- The checksum branch of `OtaVerCheck_MD5_CallBack`. -/
def checksumReceived (name : String) (response : List UInt8) (s : App) : App :=
  let s := { s with updateMd5 := response.take 32 ++ List.replicate 4 0 }
  (s.print ("+" ++ name ++ ":1,\"" ++ CString.string s.updateMd5 ++ "\"")).atLeaveSpecialState.responseOk

def otaVerCheckMd5CallBack (result : Bool) (s : App) : App :=
  match result, s.upgradeCheckResponse, s.upgradeType with
  | true, some response, .verCheck => s.checkVersion "UPDATECHECK" ESP_AT_LOBO_VERSION true response
  | true, some response, .verCheckBoot => s.checkVersion "UPDATECHECKBOOT" s.bootloaderName false response
  | true, some response, .md5Boot => s.checksumReceived "UPDATEGETCSUMBOOT" response
  | true, some response, _ => s.checksumReceived "UPDATEGETCSUM" response
  | _, _, .verCheck => (s.print "+UPDATECHECK:0,Error\r\n").atLeaveSpecialState.responseError
  | _, _, .verCheckBoot => (s.print "+UPDATECHECKBOOT:0,Error\r\n").atLeaveSpecialState.responseError
  | _, _, .md5Boot =>
    ({ s with updateMd5 := List.replicate 36 0 }.print "+UPDATEGETCSUMBOOT:0, Error").atLeaveSpecialState.responseError
  | _, _, _ =>
    ({ s with updateMd5 := List.replicate 36 0 }.print "+UPDATEGETCSUM:0, Error").atLeaveSpecialState.responseError

end App

end Esp8266At
