import Esp8266At.Image
import Esp8266At.Lib.CString

/-!
# The application

The variables of `at_upgrade.c` and `at-ota.c`, the flash, the RTC words and the heap they use, and
what they print. An update session is run by callbacks of the network layer; between two of them all
of its state is here.

Two of the fields are not part of the program. `indices` lists the indices used into the arrays of
`boot_info`. `crashed` is set where the program accesses memory through a null or dangling pointer or
past the end of the sector buffer; what it does from there on is not modelled.
-/

namespace Esp8266At

open ByteSpace NorFlash

/-- `upgrade_type`. -/
inductive OtaType where
  | upgrade
  | verCheck
  | verCheckBoot
  | md5
  | md5Boot
  | upgBoot
  deriving DecidableEq

inductive UpgradeFlag where
  | idle
  | start
  | finish
  deriving DecidableEq

inductive OtaStatus where
  | ok
  | fwToBig
  | noValidResponse
  | flashWriteError
  | espconnError
  | noRam
  | dnsFailed
  deriving DecidableEq

/-- The functions `at_ota_start` is called with. -/
inductive OtaCallback where
  | update
  | updateBoot
  | verCheckMd5
  deriving DecidableEq

/-- The functions `ota_timer` is set to. -/
inductive OtaTimer where
  | deinit
  | connectTimeout
  deriving DecidableEq

/-- `sector_buffer` up to `sector_idx`. -/
abbrev SectorBuffer := {bs : List UInt8 // bs.length ≤ SECTOR_SIZE}

/-- `upgrade_status`, the state of a session. `conn` identifies the connection control block, `none`
when the connection is gone. -/
structure UpgradeStatus where
  flashAddr : UInt32
  callback : OtaCallback
  totalLen : UInt32
  conn : Option ℕ
  buffer : SectorBuffer
  error : OtaStatus

/-- The pointer `upgrade`. It is not reset where `at_ota_start` gives up a session it has begun. -/
inductive UpgradePtr where
  | null
  | freed
  | live (u : UpgradeStatus)

/-- What the outside sees of the application. -/
inductive Output where
  | text (s : String)
  | ok
  | error
  | connect (ssl : Bool) (port : UInt16)
  | send (ssl : Bool) (request : String)
  | disconnect (ssl : Bool)
  | restart
  deriving DecidableEq

structure App where
  spi : Spi
  rtc : Rtc
  /-- Whether the coming calls of `os_zalloc` succeed. -/
  heap : ℕ → Bool
  /-- `system_get_flash_size_map()`. -/
  flashSizeMap : UInt8
  /-- The special state, in which no AT command is executed. -/
  busy : Bool
  out : List Output
  updateReset : UInt8
  /-- `update_forced_fw`, `none` being -1. -/
  updateForcedFw : Option Part
  updateMd5 : List UInt8
  bootInfo : Option BootInfo
  upgradeDebug : Bool
  upgradeFlashMap : UInt8
  upgradeType : OtaType
  upgradeUseSsl : UInt8
  upgradeFlashAddr : UInt32
  upgradeRemoteHost : String
  upgradeRemotePort : UInt16
  upgradeCheckResponse : Option (List UInt8)
  upgradeContentLen : UInt32
  upgrade : UpgradePtr
  upgradeFlag : UpgradeFlag
  otaTimer : Option OtaTimer
  /-- The next connection control block. -/
  nextConn : ℕ
  /-- `system_get_free_heap_size()`. -/
  freeHeapSize : ℕ
  /-- `SPI_FLASH_SIZE_MAP`, the flash map the program was built for. -/
  spiFlashSizeMap : UInt8
  indices : List UInt32
  crashed : Bool

namespace App

/-- The application after a reset, with every SPI operation and every allocation succeeding. -/
def atReset (f : Space) (rtc : Rtc) (flashSizeMap : UInt8) : App where
  spi := ⟨f, [], fun _ => true⟩
  rtc := rtc
  heap := fun _ => true
  flashSizeMap := flashSizeMap
  busy := false
  out := []
  updateReset := 0
  updateForcedFw := none
  updateMd5 := List.replicate 36 0
  bootInfo := none
  upgradeDebug := false
  upgradeFlashMap := 0
  upgradeType := .upgrade
  upgradeUseSsl := 0
  upgradeFlashAddr := 0xF000000
  upgradeRemoteHost := ""
  upgradeRemotePort := 0
  upgradeCheckResponse := none
  upgradeContentLen := 0
  upgrade := .null
  upgradeFlag := .idle
  otaTimer := none
  nextConn := 0
  freeHeapSize := 40000
  spiFlashSizeMap := flashSizeMap
  indices := []
  crashed := false

def print (s : App) (t : String) : App := { s with out := s.out ++ [.text t] }

def responseOk (s : App) : App := { s with out := s.out ++ [.ok] }

def responseError (s : App) : App := { s with out := s.out ++ [.error] }

/-- `system_restart`; the restart comes later. -/
def systemRestart (s : App) : App := { s with out := s.out ++ [.restart] }

def crash (s : App) : App := { s with crashed := true }

def atEnterSpecialState (s : App) : App := { s with busy := true }

def atLeaveSpecialState (s : App) : App := { s with busy := false }

def debug (s : App) (t : String) : App := if s.upgradeDebug then s.print t else s

/-- `os_zalloc`; `false` is a null pointer. -/
def zalloc (s : App) : Bool × App := (s.heap 0, { s with heap := fun k => s.heap (k + 1) })

/-- `spi_flash_read`; `none` is a nonzero result. -/
def spiFlashRead (s : App) (addr : UInt32) (len : ℕ) : Option (List UInt8) × App :=
  ((s.spi.read addr len).1, { s with spi := (s.spi.read addr len).2 })

/-- `spi_flash_erase_sector`, whose parameter has 16 bits; `false` is a nonzero result. -/
def spiFlashEraseSector (s : App) (sector : UInt32) : Bool × App :=
  ((s.spi.perform (.erase sector.toUInt16.toNat)).1,
    { s with spi := (s.spi.perform (.erase sector.toUInt16.toNat)).2 })

def spiFlashWrite (s : App) (addr : UInt32) (data : List UInt8) : Bool × App :=
  ((s.spi.perform (.program addr data)).1, { s with spi := (s.spi.perform (.program addr data)).2 })

def freeBootInfo (s : App) : App := { s with bootInfo := none }

def readBootInfo (s : App) : Bool × App :=
  match s.zalloc with
  | (false, s) => (false, { s with bootInfo := none })
  | (true, s) =>
    -- Read the current boot config
    match s.spiFlashRead BOOT_PARAM_ADDR BootInfo.size with
    | (none, s) => (false, { s with bootInfo := none })
    | (some b, s) => (true, { s with bootInfo := some (BootInfo.ofBytes b) })

end App

end Esp8266At
