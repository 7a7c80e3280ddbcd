import Esp8266At.App.Update

/-!
# The update session

`at-ota.c`: the callbacks of one session, from the name lookup to `at_ota_deinit`. A session is driven
by events of the network layer and of `ota_timer` (`App.step`), in whatever order they come. A received
chunk is what the network layer delivers: less than `2 ^ 16` bytes, with a zero byte behind them.
-/

namespace Esp8266At

open ByteSpace NorFlash

abbrev FW_MAXSIZE : UInt32 := 0xF0000
abbrev VER_MAXSIZE : UInt32 := 2048

abbrev HTTP_HEADER : String := "Connection: keep-alive\r\nCache-Control: no-cache\r\n" ++
  "User-Agent: ESP8266/Update client/1.2 \r\nAccept: */*\r\nAccept-Encoding: identity\r\n\r\n"

/-- `pusrdata` and `length` of a receive callback. -/
abbrev Chunk := {bs : List UInt8 // bs.length < 2 ^ 16}

/-- What `espconn_gethostbyname` returns. -/
inductive DnsResult where
  | ok
  | inProgress
  | failed
  deriving DecidableEq

/-- What a session waits for. -/
inductive NetEvent where
  /-- The name lookup has ended, with an address or without. -/
  | resolved (found : Bool)
  | connected
  /-- Data arrived; `reading` tells whether the connection is in the state `ESPCONN_READ`. -/
  | received (data : Chunk) (reading : Bool)
  /-- An error of the connection. -/
  | reconnect (errType : ℤ)
  | disconnected (conn : ℕ)
  | timer

/-! ### Received data -/

/-- The first reply: the value of `Content-Length` and the data after the header, if it is a valid
HTTP response. -/
def responseHeader (pusrdata : List UInt8) : Option (UInt32 × List UInt8) :=
  match CString.strstr pusrdata (CString.ascii "Content-Length: ") with
  | none => none
  | some ptrLen =>
    match CString.strstr (pusrdata.drop ptrLen) (CString.ascii "\r\n\r\n") with
    | none => none
    | some ptrData =>
      if (pusrdata.drop 9).take 3 = CString.ascii "200" then
        -- the number ends with its line
        let line := pusrdata.drop (ptrLen + 16)
        some (CString.atoi (line.take ((CString.strstr line (CString.ascii "\r\n")).getD 0)),
          pusrdata.drop (ptrLen + ptrData + 4))
      else none

theorem responseHeader_length {pusrdata content : List UInt8} {content_len : UInt32}
    (h : responseHeader pusrdata = some (content_len, content)) : content.length ≤ pusrdata.length := by
  unfold responseHeader at h
  split at h
  · cases h
  split at h
  · cases h
  split_ifs at h
  obtain ⟨-, rfl⟩ := Prod.mk.inj (Option.some.inj h)
  simp

namespace SectorBuffer

/-- `os_memcpy(sector_buffer + sector_idx, data, length)` where the data fit. -/
def append (b : SectorBuffer) (data : List UInt8) (h : data.length ≤ SECTOR_SIZE - b.val.length) :
    SectorBuffer :=
  ⟨b.val ++ data, by
    have := b.property
    rw [List.length_append]
    omega⟩

end SectorBuffer

theorem UpgradeStatus.fits (u : UpgradeStatus) {data : List UInt8}
    (h : ¬data.length ≥ SECTOR_SIZE - u.buffer.val.length) : data.length ≤ SECTOR_SIZE - u.buffer.val.length := by
  omega

/-- How `_write_data` ends. -/
inductive WriteResult where
  | ok
  | failed
  | overrun

namespace App

/-- `_write_data`: write received data to the sector buffer; when the sector buffer is full, write it
to the flash. -/
def writeData (data : List UInt8) (u : UpgradeStatus) (s : App) : WriteResult × UpgradeStatus × App :=
  if data.length = 0 then (.ok, u, s) else
  -- copy data to sector buffer
  if h : data.length ≥ SECTOR_SIZE - u.buffer.val.length then
    if s.upgradeType = .upgrade then
      -- sector buffer full, write to flash
      let in_buf := SECTOR_SIZE - u.buffer.val.length
      let full := u.buffer.val ++ data.take in_buf
      if u.flashAddr > s.upgradeFlashAddr + s.upgradeContentLen then
        (.failed, u, s.debug "Flash address exceeds firmware length\r\n")
      else
        match s.spiFlashEraseSector (u.flashAddr / UInt32.ofNat SECTOR_SIZE) with
        | (false, s) => (.failed, u, s.debug "Flash write error\r\n")
        | (true, s) =>
          match s.spiFlashWrite u.flashAddr full with
          | (false, s) => (.failed, u, s.debug "Flash write error\r\n")
          | (true, s) =>
            let u := { u with flashAddr := u.flashAddr + UInt32.ofNat SECTOR_SIZE }
            -- copy remaining bytes to sector buffer
            if hrem : (data.drop in_buf).length ≤ SECTOR_SIZE then
              (.ok, { u with buffer := ⟨data.drop in_buf, hrem⟩ }, s)
            else (.overrun, u, s)
    else (.ok, u, s)
  else (.ok, { u with buffer := u.buffer.append data (u.fits h) }, s)

/-- The size test on `Content-Length`. -/
def ContentLengthError (type : OtaType) (flashMap : UInt8) (content_len : UInt32) : Prop :=
  content_len ≥ FW_MAXSIZE ∨ (flashMap >>> 4 < 5 ∧ content_len ≥ FW_MAXSIZE) ∨
    ((type = .verCheck ∨ type = .verCheckBoot) ∧ content_len ≥ VER_MAXSIZE) ∨
    (type = .upgBoot ∧ content_len ≥ UInt32.ofNat SECTOR_SIZE) ∨
    ((type = .md5 ∨ type = .md5Boot) ∧ content_len ≠ 32)

instance (type : OtaType) (flashMap : UInt8) (content_len : UInt32) :
    Decidable (ContentLengthError type flashMap content_len) := inferInstanceAs (Decidable (_ ∨ _))

def storeStatus (u : UpgradeStatus) (s : App) : App := { s with upgrade := .live u }

/-- `UPGRADE_FLAG_FINISH`. -/
def downloadFinished (u : UpgradeStatus) (s : App) : Bool × App :=
  let s : App := { s with upgradeFlag := .finish }
  let s := s.debug ("Download finished, received: " ++ toString u.totalLen.toNat ++ " (heap=" ++
    toString s.freeHeapSize ++ ")\r\n")
  (true, s.storeStatus { u with error := .ok })

/-- Check if we are finished. -/
def receiveEnd (reading : Bool) (u : UpgradeStatus) (s : App) : Bool × App :=
  if u.totalLen = s.upgradeContentLen then
    if u.buffer.val.length > 0 ∧ s.upgradeType = .upgrade then
      -- write remaining data in sector buffer
      match s.spiFlashEraseSector (u.flashAddr / UInt32.ofNat SECTOR_SIZE) with
      | (false, s) => (true, s.storeStatus { u with error := .flashWriteError })
      | (true, s) =>
        match s.spiFlashWrite u.flashAddr u.buffer.val with
        | (false, s) => (true, s.storeStatus { u with error := .flashWriteError })
        | (true, s) => s.downloadFinished u
    else s.downloadFinished u
  else if reading = false ∨ u.totalLen > s.upgradeContentLen then
    -- fail, but how do we get here? premature end of stream?
    (true, (s.debug "Download failed\r\n").storeStatus { u with error := .espconnError })
  else
    -- timer for next receive
    (false, { s with otaTimer := some .deinit }.storeStatus u)

/-- The first reply (response header). -/
def receiveFirst (data : List UInt8) (reading : Bool) (u : UpgradeStatus) (s : App) : Bool × App :=
  match responseHeader data with
  | some (content_len, content) =>
    -- write content data to the sector buffer
    match writeData content { u with totalLen := u.totalLen + UInt32.ofNat content.length } s with
    | (.ok, u, s) =>
      let s := { s with upgradeContentLen := content_len }
      -- Check maximum allowed file size
      if ContentLengthError s.upgradeType s.upgradeFlashMap content_len then
        (true, (s.debug "Content length error\r\n").storeStatus { u with error := .fwToBig })
      else
        (s.debug ("Response header received, downloading " ++ toString content_len.toNat ++
          " byte(s)\r\n")).receiveEnd reading u
    | (.failed, u, s) => (true, s.storeStatus u)
    | (.overrun, u, s) => (false, (s.storeStatus u).crash)
  | none =>
    (true, (s.debug "Not a valid http header/non-200 response\r\n").storeStatus
      { u with error := .noValidResponse })

/-- Not the first chunk. -/
def receiveNext (data : List UInt8) (reading : Bool) (u : UpgradeStatus) (s : App) : Bool × App :=
  match writeData data { u with totalLen := u.totalLen + UInt32.ofNat data.length } s with
  | (.ok, u, s) => s.receiveEnd reading u
  | (.failed, u, s) => (true, s.storeStatus { u with error := .flashWriteError })
  | (.overrun, u, s) => (false, (s.storeStatus u).crash)

/-- `upgrade_recvcb` up to the call of `at_ota_deinit`; `true` if it is called. -/
def receive (data : Chunk) (reading : Bool) (s : App) : Bool × App :=
  match s.upgrade with
  | .live u =>
    if s.upgradeContentLen = 0 then { s with otaTimer := none }.receiveFirst data.val reading u
    else { s with otaTimer := none }.receiveNext data.val reading u
  | _ => (false, s.crash)

/-! ### The end of a session -/

/-- The response buffer for the callback, if it was a version check, a checksum or the bootloader. -/
def prepareResponse (u : UpgradeStatus) (s : App) : App :=
  let idx := u.buffer.val.length
  if ((s.upgradeType = .verCheck ∨ s.upgradeType = .verCheckBoot) ∧ idx < VER_MAXSIZE.toNat) ∨
      ((s.upgradeType = .md5 ∨ s.upgradeType = .md5Boot) ∧ idx = 32) ∨
      (s.upgradeType = .upgBoot ∧ idx = s.upgradeContentLen.toNat) then
    match s.zalloc with
    | (true, s) => { s with upgradeCheckResponse := some (u.buffer.val ++ [0, 0]) }
    | (false, s) => s.debug "Failed to create response buffer, no RAM\r\n"
  else s

/-- The first part of `at_ota_deinit`. -/
def dropResponse (u : UpgradeStatus) (s : App) : App :=
  let s : App := { s with otaTimer := none }.debug "OTA deinit\r\n"
  let s : App := { s with upgradeCheckResponse := none }
  if s.upgradeFlag = .finish ∧ u.buffer.val.length > 0 then s.prepareResponse u else s

/-- If connected, disconnect. -/
def disconnectConn (u : UpgradeStatus) (s : App) : App :=
  if u.conn.isSome then { s with out := s.out ++ [.disconnect (s.upgradeUseSsl > 0)] } else s

/-- Check for completion: what the user callback is called with. -/
def completion (s : App) : Bool × App :=
  if s.upgradeFlag = .finish then (true, s.debug "OTA finished\r\n")
  else (false, { s with upgradeFlag := .idle }.debug "OTA finished\r\n")

/-- `at_ota_deinit` up to the call of the user callback. -/
def cleanUp (u : UpgradeStatus) (s : App) : Bool × App :=
  ({ s.dropResponse u with upgrade := .null }.disconnectConn u).completion

section
variable (md5 : List UInt8 → Digest)

/-- `callback(result)`. -/
def callBack (callback : OtaCallback) (result : Bool) (s : App) : App :=
  match callback with
  | .update => s.otaUpdateCallBack md5 result
  | .updateBoot => s.otaUpdateBootCallBack md5 result
  | .verCheckMd5 => s.otaVerCheckMd5CallBack result

def atOtaDeinit (s : App) : App :=
  match s.upgrade with
  | .live u =>
    match s.cleanUp u with
    | (result, s) => s.callBack md5 u.callback result
  | _ => s.crash

def upgradeRecvcb (data : Chunk) (reading : Bool) (s : App) : App :=
  match s.receive data reading with
  | (true, s) => s.atOtaDeinit md5
  | (false, s) => s

def upgradeDisconcb (conn : Option ℕ) (s : App) : App :=
  let s := { s.debug "OTA: Disconnected\r\n" with otaTimer := none }
  match s.upgrade with
  | .null => s
  | .freed => s.crash
  | .live u =>
    if u.conn = conn then
      -- mark connection as gone and end the update process
      ((s.storeStatus { u with conn := none }).debug "OTA: Disconnected from remote\r\n").atOtaDeinit md5
    else s

/-- `if (upgrade) upgrade_disconcb(upgrade->conn)`. -/
def dropConnection (s : App) : App :=
  match s.upgrade with
  | .null => s
  | .freed => s.crash
  | .live u => s.upgradeDisconcb md5 u.conn

def connectTimeoutCb (s : App) : App := (s.debug "Connect timeout.\r\n").dropConnection md5

def upgradeReconCb (errType : ℤ) (s : App) : App :=
  (s.debug ("Connection error (" ++ toString errType ++ ")\r\n")).dropConnection md5

/-! ### Connecting -/

/-- The requested file and what is printed about it. -/
def requestedFile (s : App) : String × String :=
  let user_n := if s.upgradeFlashAddr / FW_PART_INC % 2 = 0 then "1" else "2"
  let esp_name :=
    if s.upgradeFlashMap >>> 4 = 2 ∧ s.upgradeFlashMap &&& 0x0F = 3 then "esp8285" else "esp8266"
  let firmware (ext : String) : String × String :=
    let name := esp_name ++ "_AT_" ++ user_n ++ "_" ++ toString (s.upgradeFlashMap >>> 4).toNat ++ "." ++ ext
    (name, "Connected, requesting '" ++ name ++ "' for addr " ++ CString.hex 6 s.upgradeFlashAddr.toNat ++ "\r\n")
  match s.upgradeType with
  | .verCheck => ("version.txt", "Connected, version check\r\n")
  | .verCheckBoot => ("bootloaderver.txt", "Connected, boot version check\r\n")
  | .md5Boot => ("bootloader.md5", "Connected, requesting bootloader MD5\r\n")
  | .upgBoot => ("bootloader.bin", "Connected, requesting bootloader\r\n")
  | .md5 => firmware "md5"
  | .upgrade => firmware "bin"

/-- Send the http request, with timeout for reply. -/
def sendRequest (s : App) : App :=
  let s := s.debug s.requestedFile.2
  let request := "GET /ESP8266/firmwares/" ++ s.requestedFile.1 ++ " HTTP/1.0\r\nHost: " ++
    s.upgradeRemoteHost ++ "\r\n" ++ HTTP_HEADER
  { s with otaTimer := some .deinit, out := s.out ++ [.send (s.upgradeUseSsl > 0) request] }

def upgradeConnectCb (s : App) : App :=
  match s.upgrade with
  | .live u =>
    match { s with otaTimer := none }.zalloc with
    | (false, s) =>
      ((s.debug "No RAM for request string!\r\n").storeStatus { u with error := .noRam }).atOtaDeinit md5
    | (true, s) => s.sendRequest
  | _ => s.crash

def printConnecting (s : App) : App :=
  let s := (s.debug "Connecting to: ").debug s.upgradeRemoteHost
  (if s.upgradeUseSsl > 0 then s.debug " (SSL)" else s).debug "\r\n"

def upgradeResolved (found : Bool) (s : App) : App :=
  match found, s.upgrade with
  | false, .live u =>
    let s := ((s.debug "DNS lookup failed for: ").debug s.upgradeRemoteHost).debug "\r\n"
    (s.storeStatus { u with error := .dnsFailed }).upgradeDisconcb md5 u.conn
  | true, .live u =>
    if u.conn.isNone then s.crash else
    let remote_port := if s.upgradeRemotePort > 0 then s.upgradeRemotePort
      else if s.upgradeUseSsl > 0 then 443 else 80
    let s := s.printConnecting
    -- try to connect, with a timeout
    { s with out := s.out ++ [.connect (s.upgradeUseSsl > 0) remote_port], otaTimer := some .connectTimeout }
  | _, _ => s.crash

/-- The end of `at_ota_start`: the DNS lookup. -/
def lookUp (dns : DnsResult) (s : App) : Bool × App :=
  match dns with
  | .ok => (true, s.upgradeResolved md5 true)
  | .inProgress => (true, s)
  | .failed => (false, { s.debug "DNS error!\r\n" with upgrade := .freed })

def atOtaStart (callback : OtaCallback) (dns : DnsResult) (s : App) : Bool × App :=
  -- check if not already updating
  if s.upgradeFlag = .start then (false, s.debug "Already started !\r\n") else
  match s.zalloc with
  | (false, s) => (false, { s with upgrade := .null }.debug "No ram for upgrade structure!\r\n")
  | (true, s) =>
    match { s with upgrade := .freed }.zalloc with
    | (false, s) => (false, s.debug "No ram for sector buffer!\r\n")
    | (true, s) =>
      match s.zalloc with
      | (false, s) => (false, s.debug "No ram for espconn structure!\r\n")
      | (true, s) =>
        match s.zalloc with
        | (false, s) => (false, s.debug "No ram protocol structure!\r\n")
        | (true, s) =>
          let u : UpgradeStatus :=
            { flashAddr := s.upgradeFlashAddr, callback := callback, totalLen := 0, conn := some s.nextConn,
              buffer := ⟨[], Nat.zero_le _⟩, error := .ok }
          { s with upgrade := .live u, nextConn := s.nextConn + 1, upgradeCheckResponse := none,
                   upgradeFlag := .start, upgradeContentLen := 0 }.lookUp md5 dns

/-! ### Events -/

/-- One event of the network layer or of `ota_timer`. -/
def step (e : NetEvent) (s : App) : App :=
  if s.crashed then s else
  match e with
  | .resolved found => s.upgradeResolved md5 found
  | .connected => s.upgradeConnectCb md5
  | .received data reading => s.upgradeRecvcb md5 data reading
  | .reconnect errType => s.upgradeReconCb md5 errType
  | .disconnected conn => s.upgradeDisconcb md5 (some conn)
  | .timer =>
    match s.otaTimer with
    | none => s
    | some .deinit => { s with otaTimer := none }.atOtaDeinit md5
    | some .connectTimeout => { s with otaTimer := none }.connectTimeoutCb md5

/-- A sequence of events. -/
def run (es : List NetEvent) (s : App) : App := es.foldl (fun s e => s.step md5 e) s

end

end App

end Esp8266At
