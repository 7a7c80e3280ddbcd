import Esp8266At.App.Ota

/-!
# The update commands

The AT commands of `at_upgrade.c` that start a session or change its options, and `AT+BOOT`. Parameters
are parsed by two functions of `libat`, which is not part of the repository: they are a parameter here.
-/

namespace Esp8266At

open ByteSpace NorFlash

/-- What `at_get_next_int_dec` returns, stores and advances to. -/
structure NextInt where
  flag : Bool
  value : ℤ
  err : ℤ
  rest : List UInt8

/-- The parsers of `libat`. -/
structure LibAt where
  /-- `at_get_next_int_dec(&pPara, &value, &err)`, given the text and the old value. -/
  getNextIntDec : List UInt8 → ℤ → NextInt
  /-- `at_data_str_copy(buffer, &pPara, maxLen)`: the result, the copied text and the text after it. -/
  dataStrCopy : List UInt8 → ℕ → ℤ × List UInt8 × List UInt8

/-- Parsers for decimal numbers without a sign and for strings in quotes. -/
def plainAt : LibAt where
  getNextIntDec pPara value :=
    let digits := pPara.takeWhile CString.isDigit
    if digits = [] then ⟨false, value, 1, pPara⟩
    else ⟨true, CString.decimal digits, 0, pPara.drop digits.length⟩
  dataStrCopy pPara maxLen :=
    let str := pPara.tail.takeWhile (· ≠ 0x22)
    if pPara.head? ≠ some 0x22 ∨ str.length > maxLen then (-1, [], pPara)
    else (str.length, str, pPara.drop (str.length + 2))

/-- The character at `pPara`. -/
def charAt (pPara : List UInt8) : UInt8 := pPara.headD 0

abbrev CR : UInt8 := 0x0D
abbrev COMMA : UInt8 := 0x2C

/-! ### Parameters -/

/-- The parameters of `AT+UPDATEFIRMWARE="host"[,reset[,part[,port[,ssl]]]]`, -1 where there is none. -/
structure UpdateParams where
  host : List UInt8
  updRst : ℤ
  fwN : ℤ
  port : ℤ
  ssl : ℤ

/-- The parameters of `AT+BOOT=part_no[,rst[,permanent]]`. -/
structure BootParams where
  bootapp : UInt32
  rst : UInt32
  perm : UInt32

section
variable (lib : LibAt)

/-- One numeric parameter: its value, -1 on an error; and the text after the comma, if another one
follows. -/
def numericParam (pPara : List UInt8) : ℤ × NextInt × Option (List UInt8) :=
  let p := lib.getNextIntDec pPara (-1)
  let value := if p.err ≠ 0 then -1 else p.value
  (value, p, if p.flag = false then none else if charAt p.rest ≠ COMMA then none else some p.rest.tail)

/-- The parsing part of `at_setupCmdFWupdate`; `none` is `exit_err`. -/
def updateParams (pPara : List UInt8) : Option UpdateParams :=
  -- skip '=', get the IP address or domain name
  match lib.dataStrCopy pPara.tail 31 with
  | (flag, buffer, pPara) =>
    if flag < 3 then none else
    if charAt pPara = CR then some ⟨buffer, -1, -1, -1, -1⟩ else
    if charAt pPara ≠ COMMA then none else
    -- reset flag
    match numericParam lib pPara.tail with
    | (upd_rst, _, none) => some ⟨buffer, upd_rst, -1, -1, -1⟩
    | (upd_rst, _, some pPara) =>
      -- part num
      match numericParam lib pPara with
      | (fw_n, _, none) => some ⟨buffer, upd_rst, fw_n, -1, -1⟩
      | (fw_n, _, some pPara) =>
        -- port
        match numericParam lib pPara with
        | (port, _, none) => some ⟨buffer, upd_rst, fw_n, port, -1⟩
        | (port, _, some pPara) =>
          -- ssl
          match numericParam lib pPara with
          | (ssl, p, _) =>
            if p.flag = false then some ⟨buffer, upd_rst, fw_n, port, ssl⟩ else
            -- check if the last parameter
            if charAt p.rest ≠ CR then none else some ⟨buffer, upd_rst, fw_n, port, ssl⟩

/-- The parsing part of `at_setupCmdBoot`: the parameters and the text after them. -/
def bootParams (pPara : List UInt8) : BootParams × List UInt8 :=
  let p := lib.getNextIntDec pPara.tail 0
  if charAt p.rest = COMMA then
    let q := lib.getNextIntDec p.rest.tail 0
    if charAt q.rest = COMMA then
      let r := lib.getNextIntDec q.rest.tail 0
      (⟨UInt32.ofInt p.value, UInt32.ofInt q.value,
        if UInt32.ofInt r.value ≠ 0x08 then 0 else UInt32.ofInt r.value⟩, r.rest)
    else (⟨UInt32.ofInt p.value, UInt32.ofInt q.value, 0⟩, q.rest)
  else (⟨UInt32.ofInt p.value, 0, 0⟩, p.rest)

end

namespace App

/-! ### Options -/

/-- The checks `at_setupCmdFWupdate` makes on a forced partition; `false` is `exit_err`. -/
def forcedPartOk (fw_n : ℤ) (s : App) : Bool :=
  let flash_map := s.flashSizeMap
  -- cannot update the running firmware
  if fw_n = s.getRtcCurrFw then false else
  if flash_map = 2 then
    -- 1MB flash has only 2 partitions
    ¬fw_n > 1
  else if flash_map = 3 ∨ flash_map = 4 then
    -- 512+512 firmware, check if the requested partition is available
    ¬(fw_n > 2 ∧ flash_map = 2) ∧ ¬(fw_n > 7 ∧ flash_map = 4)
  else
    -- 1024+1024 firmware, check if the requested partition is available
    ¬flash_map % 2 ≠ 0 ∧ ¬(fw_n > 2 ∧ flash_map = 5) ∧ ¬(fw_n > 6 ∧ flash_map = 6)

def atSetupCmdFWupdate (lib : LibAt) (pPara : List UInt8) (s : App) : App :=
  match updateParams lib pPara with
  | none => s.responseError
  | some p =>
    let s : App := { s with upgradeRemoteHost := CString.string p.host }
    let s : App := if p.updRst ≥ 0 then { s with updateReset := if p.updRst = 1 then 1 else 0 } else s
    let s : App := if p.ssl ≥ 0 then { s with upgradeUseSsl := if p.ssl = 1 then 1 else 0 } else s
    let s : App :=
      if p.port ≥ 1 ∧ p.port < 65566 then { s with upgradeRemotePort := UInt16.ofInt p.port } else s
    if h : p.fwN ≥ 0 ∧ p.fwN < MAX_APP_PART then
      if s.forcedPartOk p.fwN then
        { s with updateForcedFw := some ⟨p.fwN.toNat, by omega⟩ }.responseOk
      else s.responseError
    else s.responseOk

def atSetupCmdFWDebug (lib : LibAt) (pPara : List UInt8) (s : App) : App :=
  let p := lib.getNextIntDec pPara.tail (-1)
  if charAt p.rest ≠ CR then s.responseError else
  if p.value < 0 then s.responseError else { s with upgradeDebug := p.value % 2 = 1 }.responseOk

def atSetupCmdFWGetMD5 (lib : LibAt) (pPara : List UInt8) (s : App) : App :=
  let p := lib.getNextIntDec pPara.tail (-1)
  if charAt p.rest ≠ CR then s.responseError else
  if p.value = 0 then { s with updateMd5 := List.replicate 36 0 }.responseOk else s.responseOk

def atSetupCmdBoot (lib : LibAt) (pPara : List UInt8) (s : App) : App :=
  match bootParams lib pPara with
  | (p, pPara) =>
    if charAt pPara ≠ CR then s.responseError else
    if p.bootapp ≥ UInt32.ofNat MAX_APP_PART then s.responseError else
    let s := s.setRtcNextboot (p.bootapp.toUInt8.toUInt32 ||| p.perm).toUInt8
    let s := if p.rst = 1 then (s.print "+BOOT:RESTART NOW\r\n").systemRestart else s
    s.responseOk

/-! ### Starting a session -/

section
variable (md5 : List UInt8 → Digest)

def startUpdate (type : OtaType) (dns : DnsResult) (s : App) : App :=
  match s.updateSetparams with
  | (false, s) => (s.debug "Error, cannot set update parameters\r\n").responseError
  | (true, s) =>
    let s := { s with upgradeType := type }.atEnterSpecialState
    -- start the upgrade process
    let callback := if type = .upgBoot then OtaCallback.updateBoot else OtaCallback.update
    match s.atOtaStart md5 callback dns with
    | (true, s) => s.print "Started, please wait...\r\n"
    | (false, s) =>
      let s := (s.debug "Error starting OTA process\r\n").atLeaveSpecialState.responseError
      s.print "Started, please wait...\r\n"

def atExeCmdFWupdate (dns : DnsResult) (s : App) : App :=
  { s with upgradeUseSsl := 0 }.startUpdate md5 .upgrade dns

def atExeCmdFWupdateBoot (dns : DnsResult) (s : App) : App :=
  { s with upgradeUseSsl := 0 }.startUpdate md5 .upgBoot dns

def updateVerCheckMD5 (type : OtaType) (dns : DnsResult) (s : App) : App :=
  let s := if s.upgradeRemoteHost.length = 0 then { s with upgradeRemoteHost := REMOTE_UPDATE_HOST } else s
  match s.updateSetparams with
  | (false, s) => (s.debug "Error, cannot set update parameters\r\n").responseError
  | (true, s) =>
    let s := { s with upgradeType := type }.atEnterSpecialState
    -- start the process
    match s.atOtaStart md5 .verCheckMd5 dns with
    | (true, s) => s
    | (false, s) => (s.debug "Error starting OTA process\r\n").atLeaveSpecialState.responseError

def atExeCmdFWVerCheck (dns : DnsResult) (s : App) : App :=
  { s with upgradeUseSsl := 0 }.updateVerCheckMD5 md5 .verCheck dns

def atExeCmdFWVerCheckBoot (dns : DnsResult) (s : App) : App :=
  { s with upgradeUseSsl := 0 }.updateVerCheckMD5 md5 .verCheckBoot dns

def atExeCmdFWGetMD5 (dns : DnsResult) (s : App) : App :=
  { s with updateMd5 := List.replicate 36 0, upgradeUseSsl := 0 }.updateVerCheckMD5 md5 .md5 dns

def atExeCmdFWGetMD5boot (dns : DnsResult) (s : App) : App :=
  { s with updateMd5 := List.replicate 36 0, upgradeUseSsl := 0 }.updateVerCheckMD5 md5 .md5Boot dns

end

end App

end Esp8266At
