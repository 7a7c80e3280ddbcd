import Esp8266At.Lib.Md5
import Esp8266At.Lib.Printf
import Esp8266At.App.Tracked
import Esp8266At.Tcp.Network

/-!
# Formatted messages

Every `os_sprintf` of `at_extra_cmd.c`, `at_upgrade.c` and `at-ota.c`: the size of the object it writes to, what
it writes, and the values its fields can have in a state. In every state of every run the messages fit their
objects, apart from four of them (`sprintf_fits_iff`): `buffer` of `at_queryCmdSysCPUfreq` and `buf` of
`at_queryCmdFWDebug` are too small, `upgrade_remote_host` points to an empty string literal, and a client of
`at_queryCmdTCPServer` is printed without its number, so that a port is taken for the address of a string.
-/

namespace Esp8266At

open Printf Tcp

/-- The numbers of a `struct tm` that are printed: `sntp_localtime` gives years of four digits and other fields
of two. -/
structure Tm where
  year : Fin (10 ^ 4)
  mon : Fin (10 ^ 2)
  mday : Fin (10 ^ 2)
  hour : Fin (10 ^ 2)
  min : Fin (10 ^ 2)
  sec : Fin (10 ^ 2)

/-- The calls of `os_sprintf`, with the values of their fields. -/
inductive Message where
  -- at_extra_cmd.c
  | espName (esp8285 : Bool)
  | sysFlashMap (part_type : UInt8)
  | sysCpuFreq (freq : UInt8)
  | sntpTime (sntp_time : UInt32) (info : Tm)
  | recvError (length : UInt16)
  | recvAlert (tcp_n srv_n : UInt8) (length : UInt16)
  | closed (tcp_n : UInt8)
  | connected (tcp_n : UInt8)
  | ipAddr (ip : Ip)
  | clientConnect (srv_n tcp_n : UInt8) (ip : Ip) (port : UInt16)
  | clientReject (link_cnt : UInt8)
  | serverCount (n : UInt8)
  | server (srv_n : UInt8) (srv : TcpServer)
  /-- The fields are the pointer `ip_addr`, the string at address `remote_port` and whatever is in the place of
  the third argument. -/
  | client (ip_addr : UInt32) (remote_port : UInt16) (str : List UInt8) (third : Int32)
  | status (value : UInt8)
  | linkStatus (n : UInt8) (ip : Ip) (port remote_port : UInt16) (is_server : UInt8)
  | setupStatus (ip : Ip) (remote_port : UInt16) (is_server : UInt8)
  | getInput (msg : String) (idx : UInt16)
  | certName
  | loadCert (sector : UInt32) (clen : UInt16)
  | sslConfig (cfg : UInt8)
  -- at_upgrade.c
  /-- Byte `i` of a digest, written into an object of `size` bytes. -/
  | digestByte (size : ℕ) (i : Fin 16) (byte : UInt8)
  | flashError (flash_addr : UInt32)
  | remoteHost (host : String)
  | checking (fw_n : Int32) (flash_addr : UInt32)
  | updateCheck (matched : Bool) (new_ver : List UInt8)
  | oldVersion (boot_ver : Int32)
  | updateCheckBoot (matched : Bool) (new_ver : List UInt8) (boot_ver : Int32)
  | checksum (isBoot : Bool) (md5 : List UInt8)
  | checksumError (isBoot : Bool)
  | checksumQuery (md5 : List UInt8)
  | debug (flag : UInt8)
  | update (host : String) (reset : UInt8) (forced : Int8) (port : UInt16) (ssl : UInt8)
  | boot (curr_fw : Int32) (curr_fw_addr boot_part boot_addr : UInt32)
  | bootPart (n : Part) (part_type : UInt8) (part_length : UInt32) (part_md5 : Digest)
  -- at-ota.c
  | downloading (content_len : UInt32)
  | finished (total_len free_heap : UInt32)
  | ext (upgrade : Bool)
  | requesting (esp8285 upgrade : Bool) (user_n flash_map : UInt8) (flash_addr : UInt32)
  | request (type : OtaType) (esp8285 : Bool) (user_n flash_map : UInt8) (host : String)
  | connectionError (errType : Int8)

/-- `flashmap_desc`, of a build with OTA. -/
def flashmapDesc (map : UInt8) : String :=
  if map = 2 then "1MB 512+512" else if map = 3 then "2MB 512+512" else if map = 4 then "4MB 512+512"
  else if map = 5 then "2MB 1024+1024" else if map = 6 then "4MB 1024+1024" else "Unsupported"

def espName : Bool → String
  | true => "esp8285"
  | false => "esp8266"

/-- `ext`, for the two types of files it is used for. -/
def extName : Bool → String
  | true => "bin"
  | false => "md5"

/-- `IPSTR`. -/
def ipPieces (ip : Ip) : List Piece :=
  [.u8 ip.toUInt8, .text ".", .u8 (ip >>> 8).toUInt8, .text ".", .u8 (ip >>> 16).toUInt8, .text ".",
    .u8 (ip >>> 24).toUInt8]

/-- `old_ver`, the name of the running bootloader. -/
def oldVerPieces (boot_ver : Int32) : List Piece :=
  [.text "LoBo ESP8266 Bootloader v", .i32 (boot_ver >>> 16), .text ".", .u8 (boot_ver >>> 8).toInt8.toUInt8,
    .text ".", .u8 boot_ver.toInt8.toUInt8]

def checksumName : Bool → String
  | true => "CSUMBOOT"
  | false => "CSUM"

/-- The requested file. -/
def filePieces (type : OtaType) (esp8285 : Bool) (user_n flash_map : UInt8) : List Piece :=
  let firmware (ext : String) : List Piece :=
    [.text (espName esp8285), .text "_AT_", .u8 user_n, .text "_", .u8 flash_map, .text ".", .text ext]
  match type with
  | .verCheck => [.text "version.txt"]
  | .verCheckBoot => [.text "bootloaderver.txt"]
  | .md5Boot => [.text "bootloader.md5"]
  | .upgBoot => [.text "bootloader.bin"]
  | .md5 => firmware "md5"
  | .upgrade => firmware "bin"

namespace Message

/-- The size of the object that is written to. -/
def size : Message → ℕ
  | espName _ => 8
  | sysFlashMap _ => 64
  | sysCpuFreq _ => 8
  | sntpTime .. => 64
  | recvError _ => 32
  | recvAlert .. => 32
  | closed _ => 16
  | connected _ => 16
  | ipAddr _ => 16
  | clientConnect .. => 48
  | clientReject _ => 48
  | serverCount _ => 128
  | server .. => 128
  | client .. => 128
  | status _ => 80
  | linkStatus .. => 80
  | setupStatus .. => 40
  | getInput .. => 32
  | certName => SECTOR_SIZE
  | loadCert .. => 32
  | sslConfig _ => 32
  -- written to `buffer + (i * 2)`
  | digestByte size i _ => size - i.val * 2
  | flashError _ => 256
  -- `char *upgrade_remote_host = ""`
  | remoteHost _ => 1
  | checking .. => 80
  | updateCheck .. => 128
  | oldVersion _ => 64
  | updateCheckBoot .. => 128
  | checksum .. => 128
  | checksumError _ => 128
  | checksumQuery _ => 64
  | debug _ => 16
  | update .. => 64
  | boot .. => 64
  | bootPart .. => 64
  | downloading _ => 80
  | finished .. => 80
  | ext _ => 4
  | requesting .. => 512
  | request .. => 512
  | connectionError _ => 64

/-- What is written. A text that has been formatted before stands in its place. -/
def pieces : Message → List Piece
  | espName esp8285 => [.text (Esp8266At.espName esp8285)]
  | sysFlashMap part_type =>
    [.text "+SYSFLASHMAP:", .u8 (part_type >>> 4), .text ",", .u8 (part_type &&& 0x0F), .text ",\"",
      .text (Esp8266At.espName (part_type = 0x23)), .text " ", .text (flashmapDesc (part_type >>> 4)), .text "\"\r\n"]
  | sysCpuFreq freq => [.text "+SYSCPUFREQ:", .u8 freq, .text "\r\n"]
  | sntpTime sntp_time info =>
    [.text "+SNTPTIME:", .u32 sntp_time, .text ",", .padded 4 info.year, .text "-", .padded 2 info.mon, .text "-",
      .padded 2 info.mday, .text " ", .padded 2 info.hour, .text ":", .padded 2 info.min, .text ":",
      .padded 2 info.sec, .text "\r\n"]
  | recvError length => [.text "\r\nTCPClientERROR:recv,", .u16 length, .text ":"]
  | recvAlert tcp_n srv_n length =>
    [.text "\r\n+TCP,", .u8 tcp_n, .text ",", .u8 srv_n, .text ",", .u16 length, .text ":"]
  | closed tcp_n => [.u8 tcp_n, .text ",CLOSED\r\n"]
  | connected tcp_n => [.u8 tcp_n, .text ",CONNECT\r\n"]
  | ipAddr ip => ipPieces ip
  | clientConnect srv_n tcp_n ip port =>
    [.u8 srv_n, .text ",", .u8 tcp_n, .text ",TCPconnect:"] ++ ipPieces ip ++ [.text ",", .u16 port, .text "\r\n"]
  | clientReject link_cnt => [.text "\r\nTCPServerERROR:conn,", .u8 link_cnt, .text "\r\n"]
  | serverCount n => [.text "+TCPSERVER:", .u8 n, .text "\r\n"]
  | server srv_n srv =>
    [.text "+TCPSERVER:", .u8 srv_n, .text ",", .u8 srv.connected, .text ",", .u8 srv.maxconn, .text ",",
      .u16 srv.port, .text ",", .u8 srv.ssl, .text ",", .u16 srv.timeout, .text "\r\n"]
  | client ip_addr _ str third =>
    [.text "+TCPCLIENT:", .i32 ip_addr.toInt32, .text ",\"", .text (CString.string str), .text "\",", .i32 third,
      .text "\r\n"]
  | status value => [.text "STATUS:", .u8 value, .text "\r\n"]
  | linkStatus n ip port remote_port is_server =>
    [.text "+TCPSTATUS:", .u8 n, .text ",\"TCP\",\""] ++ ipPieces ip ++
      [.text "\",", .u16 port, .text ",", .u16 remote_port, .text ",", .u8 is_server, .text "\r\n"]
  | setupStatus ip remote_port is_server =>
    [.text "+TCPSTATUS:\""] ++ ipPieces ip ++ [.text "\",", .u16 remote_port, .text ",", .u8 is_server]
  | getInput msg idx => [.text "\r\n", .text msg, .text ":", .u16 idx, .text "\r\n"]
  | certName => [.text "TLS.ca_x509.cer"]
  | loadCert sector clen => [.text "+SSLLOADCERT:0,", .hex 4 sector, .text ",", .u16 clen, .text "\r\n"]
  | sslConfig cfg => [.text "+SSLCCONF:", .u8 cfg, .text "\r\n"]
  | digestByte _ _ byte => [.hexByte byte]
  | flashError flash_addr => [.text "  SPI Flash error (", .hex 6 flash_addr, .text ")\r\n"]
  | remoteHost host => [.text host]
  | checking fw_n flash_addr =>
    [.text "Checking firmware ", .i32 fw_n, .text " at 0x", .hex 6 flash_addr, .text "\r\n"]
  | updateCheck matched new_ver =>
    [.text "+UPDATECHECK:", .u8 matched.toUInt8, .text ",\"", .text (CString.string new_ver), .text "\",\"",
      .text ESP_AT_LOBO_VERSION, .text "\"\r\n"]
  | oldVersion boot_ver => oldVerPieces boot_ver
  | updateCheckBoot matched new_ver boot_ver =>
    [.text "+UPDATECHECKBOOT:", .u8 matched.toUInt8, .text ",\"", .text (CString.string new_ver), .text "\",\""] ++
      oldVerPieces boot_ver ++ [.text "\"\r\n"]
  | checksum isBoot md5 =>
    [.text "+UPDATEGET", .text (checksumName isBoot), .text ":1,\"", .text (CString.string md5), .text "\""]
  | checksumError isBoot => [.text "+UPDATEGET", .text (checksumName isBoot), .text ":0, Error"]
  | checksumQuery md5 => [.text "+UPDATEGETSCUM:\"", .text (CString.string md5), .text "\"\r\n"]
  | debug flag => [.text "+UPDATEDEBUG:", .u8 flag, .text "\r\n"]
  | update host reset forced port ssl =>
    [.text "+UPDATE:\"", .text host, .text "\",", .u8 reset, .text ",", .i8 forced, .text ",", .u16 port, .text ",",
      .u8 ssl, .text "\r\n"]
  | boot curr_fw curr_fw_addr boot_part boot_addr =>
    [.text "+BOOT:", .i32 curr_fw, .text ",", .hex 6 curr_fw_addr, .text ",", .i32 (boot_part &&& 0x07).toInt32,
      .text ",", .hex 6 boot_addr, .text "\r\n"]
  | bootPart n part_type part_length part_md5 =>
    [.text "+BOOT:", .u8 (UInt8.ofNat n.val), .text ",", .hex 6 (partAddr n), .text ",", .u8 (part_type >>> 4),
      .text ",", .u8 (part_type &&& 0x0F), .text ",", .i32 part_length.toInt32, .text ","] ++
      (List.finRange 16).map (fun i => .hexByte (part_md5 i)) ++ [.text "\r\n"]
  | downloading content_len =>
    [.text "Response header received, downloading ", .i32 content_len.toInt32, .text " byte(s)\r\n"]
  | finished total_len free_heap =>
    [.text "Download finished, received: ", .i32 total_len.toInt32, .text " (heap=", .i32 free_heap.toInt32,
      .text ")\r\n"]
  | ext upgrade => [.text (extName upgrade)]
  | requesting esp8285 upgrade user_n flash_map flash_addr =>
    [.text "Connected, requesting '"] ++ filePieces (if upgrade then .upgrade else .md5) esp8285 user_n flash_map ++
      [.text "' for addr ", .hex 6 flash_addr, .text "\r\n"]
  | request type esp8285 user_n flash_map host =>
    [.text "GET /ESP8266/firmwares/"] ++ filePieces type esp8285 user_n flash_map ++
      [.text " HTTP/1.0\r\nHost: ", .text host, .text "\r\n", .text HTTP_HEADER]
  | connectionError errType => [.text "Connection error (", .i8 errType, .text ")\r\n"]

/-- The message fits the object it is written to. -/
def Fits (m : Message) : Prop := written m.pieces ≤ m.size

instance (m : Message) : Decidable m.Fits := inferInstanceAs (Decidable (_ ≤ _))

/-- The values the fields of a message can have in a state. -/
def Possible (lib : LibAt) (app : App) (tcp : Tcp) : Message → Prop
  | server srv_n srv => ∃ i : ServerId, srv_n = UInt8.ofNat i.val ∧ tcp.tcpservers i = some srv
  | client _ remote_port _ _ => ∃ (i : LinkId) (t : TcpConn), tcp.tcpconns i = some t ∧ (serverOf t.parrent).isSome ∧
      remote_port = (tcp.espconn t.conn).remotePort
  | linkStatus n ip port remote_port _ => ∃ (i : LinkId) (t : TcpConn), n = UInt8.ofNat i.val ∧
      tcp.tcpconns i = some t ∧ ip = (tcp.espconn t.conn).remoteIp ∧ port = t.port ∧
      remote_port = (tcp.espconn t.conn).remotePort
  | setupStatus ip remote_port _ => ∃ (i : LinkId) (t : TcpConn), tcp.tcpconns i = some t ∧
      ip = (tcp.espconn t.conn).remoteIp ∧ remote_port = (tcp.espconn t.conn).remotePort
  | getInput msg _ => msg = "+TCPSEND" ∨ msg = "+SSLLOADCERT"
  -- `buffer[256]`, `md5_str[36]`, `md5[36]`
  | digestByte size _ _ => size = 256 ∨ size = 36
  | remoteHost host => (app.upgradeRemoteHost.length = 0 ∧ host = REMOTE_UPDATE_HOST) ∨
      ∃ pPara p, updateParams lib pPara = some p ∧ host = CString.string p.host
  -- the lines that are compared are of the same length
  | updateCheck _ new_ver => new_ver.length = ESP_AT_LOBO_VERSION.length
  | updateCheckBoot _ new_ver boot_ver => new_ver.length = (sprintf (oldVerPieces boot_ver)).length
  | checksum _ md5 => ∃ response : List UInt8, md5 = response.take 32 ++ List.replicate 4 0
  | checksumQuery md5 => md5 = app.updateMd5
  | debug flag => flag = app.upgradeDebug.toUInt8
  | update host reset forced port ssl =>
    host = (if app.upgradeRemoteHost.length = 0 then REMOTE_UPDATE_HOST else app.upgradeRemoteHost) ∧
      reset = app.updateReset ∧ forced = app.updateForcedFw.elim (-1) (fun p => Int8.ofNat p.val) ∧
      port = app.upgradeRemotePort ∧ ssl = app.upgradeUseSsl
  | bootPart _ _ part_length _ => part_length < 0xF0000
  | request _ _ _ _ host => host = app.upgradeRemoteHost
  | _ => True

/-- The messages that do not fit: two with too small a buffer, the update host, and a client where the string at
the address that is its port is too long. -/
def Overruns : Message → Prop
  | sysCpuFreq _ => True
  | debug _ => True
  | remoteHost host => host ≠ ""
  | client ip_addr _ str third =>
    110 < (CString.text str).length + (signed ip_addr.toInt32.toInt).length + (signed third.toInt).length
  | _ => False

/-! ### Lengths -/

theorem string_length (bs : List UInt8) : (CString.string bs).length = (CString.text bs).length := by
  rw [CString.string, String.length_ofList, List.length_map]

theorem fits_of_bound {m : Message} (h : (m.pieces.map Piece.bound).sum + 1 ≤ m.size) : m.Fits :=
  (written_le _).trans h

/-- The bound is that of a message with other values of the fields. -/
theorem fits_of_sample {m : Message} (m' : Message) (hpieces : m.pieces.map Piece.bound = m'.pieces.map Piece.bound)
    (hsize : m.size = m'.size) (h : (m'.pieces.map Piece.bound).sum + 1 ≤ m'.size) : m.Fits := by
  refine (written_le _).trans ?_
  rw [hpieces, hsize]
  exact h

theorem espName_length (esp8285 : Bool) : (Esp8266At.espName esp8285).length = 7 := by
  cases esp8285 <;> decide

theorem flashmapDesc_length (map : UInt8) : (flashmapDesc map).length ≤ 13 := by
  unfold flashmapDesc
  split_ifs <;> decide

theorem checksumName_length (isBoot : Bool) : (checksumName isBoot).length ≤ 8 := by
  cases isBoot <;> decide

theorem text_le {t : String} {n : ℕ} (h : t.length ≤ n) : (Piece.text t).chars.length ≤ n := by
  rw [Piece.chars, String.length_toList]
  exact h

theorem bound_le (p : Piece) : p.chars.length ≤ p.bound := p.chars_length_le

theorem fits_sysFlashMap (part_type : UInt8) : (sysFlashMap part_type).Fits := by
  have hname := text_le (le_of_eq (espName_length (part_type = 0x23)))
  have hdesc := text_le (flashmapDesc_length (part_type >>> 4))
  exact (written_cons_le (bound_le _) <| written_cons_le (bound_le _) <| written_cons_le (bound_le _) <|
    written_cons_le (bound_le _) <| written_cons_le (bound_le _) <| written_cons_le hname <|
    written_cons_le (bound_le _) <| written_cons_le hdesc <| written_le _).trans (Nat.le_of_ble_eq_true rfl)

theorem fits_bootPart (n : Part) (part_type : UInt8) {part_length : UInt32} (part_md5 : Digest)
    (h : part_length < 0xF0000) : (bootPart n part_type part_length part_md5).Fits := by
  have hn : (Piece.u8 (UInt8.ofNat n.val)).chars.length ≤ 1 := by
    refine digits_length_le (by omega) ?_
    have hlt : n.val < 8 := n.isLt
    rw [UInt8.toNat_ofNat']
    omega
  have haddr : (Piece.hex 6 (partAddr n)).chars.length ≤ 6 := by
    refine hexDigits_length_le (k := 6) (by omega) ?_
    have hlt : n.val < 8 := n.isLt
    rw [partAddr_toNat]
    omega
  have hmap : (Piece.u8 (part_type >>> 4)).chars.length ≤ 2 := by
    refine digits_length_le (by omega) ?_
    have := part_type.toNat_lt
    rw [UInt8.toNat_shiftRight]
    have h4 : (4 : UInt8).toNat % 8 = 4 := by decide
    rw [h4, Nat.shiftRight_eq_div_pow]
    omega
  have hmode : (Piece.u8 (part_type &&& 0x0F)).chars.length ≤ 2 := by
    refine digits_length_le (by omega) ?_
    rw [UInt8.toNat_and]
    exact lt_of_le_of_lt Nat.and_le_right (by decide)
  have hlength : (Piece.i32 part_length.toInt32).chars.length ≤ 6 := by
    have hlt : part_length.toNat < 0xF0000 := by simpa [UInt32.lt_iff_toNat_lt] using h
    have hint : part_length.toInt32.toInt = part_length.toNat := by
      rw [← UInt32.ofNat_toNat (x := part_length), UInt32.toInt32_ofNat', Int32.toInt_ofNat_of_lt (by omega),
        UInt32.ofNat_toNat]
    rw [Piece.chars, hint, signed, if_neg (by omega), Int.natAbs_natCast]
    exact digits_length_le (by omega) (by omega)
  have hdigest : written ((List.finRange 16).map (fun i => Piece.hexByte (part_md5 i)) ++ [.text "\r\n"]) ≤ 35 := by
    refine (written_le _).trans ?_
    have hend : "\r\n".length = 2 := by decide
    simp [Function.comp_def, Piece.bound, hend]
  exact (written_cons_le (bound_le _) <| written_cons_le hn <| written_cons_le (bound_le _) <|
    written_cons_le haddr <| written_cons_le (bound_le _) <| written_cons_le hmap <|
    written_cons_le (bound_le _) <| written_cons_le hmode <| written_cons_le (bound_le _) <|
    written_cons_le hlength <| written_cons_le (bound_le (.text ",")) hdigest).trans (Nat.le_of_ble_eq_true rfl)

theorem fits_request (type : OtaType) (esp8285 : Bool) (user_n flash_map : UInt8) {host : String}
    (h : host.length ≤ 31) : (request type esp8285 user_n flash_map host).Fits := by
  have hhost := text_le h
  have hheader : (Piece.text HTTP_HEADER).chars.length ≤ 160 := by
    refine text_le ?_
    rw [HTTP_HEADER, String.length_append]
    decide +kernel
  have htail := written_cons_le (bound_le (.text " HTTP/1.0\r\nHost: ")) <| written_cons_le hhost <|
    written_cons_le (bound_le (.text "\r\n")) <| written_cons_le hheader <| written_le []
  cases type with
  | verCheck | verCheckBoot | md5Boot | upgBoot =>
    exact (written_cons_le (bound_le _) <| written_cons_le (bound_le _) htail).trans (Nat.le_of_ble_eq_true rfl)
  | md5 | upgrade =>
    have hname := text_le (le_of_eq (espName_length esp8285))
    exact (written_cons_le (bound_le _) <| written_cons_le hname <| written_cons_le (bound_le _) <|
      written_cons_le (bound_le _) <| written_cons_le (bound_le _) <| written_cons_le (bound_le _) <|
      written_cons_le (bound_le _) <| written_cons_le (bound_le _) htail).trans (Nat.le_of_ble_eq_true rfl)

theorem fits_update {host : String} (h : host.length ≤ 31) (reset : UInt8) (forced : Int8) (port : UInt16)
    (ssl : UInt8) : (update host reset forced port ssl).Fits :=
  (written_cons_le (bound_le _) <| written_cons_le (text_le h) <| written_le _).trans (Nat.le_of_ble_eq_true rfl)

theorem fits_requesting (esp8285 upgrade : Bool) (user_n flash_map : UInt8) (flash_addr : UInt32) :
    (requesting esp8285 upgrade user_n flash_map flash_addr).Fits := by
  have hname := text_le (le_of_eq (espName_length esp8285))
  cases upgrade with
  | false | true =>
    exact (written_cons_le (bound_le _) <| written_cons_le hname <| written_le _).trans (Nat.le_of_ble_eq_true rfl)

/-- The digits of a digest are written behind one another. -/
theorem fits_digestByte {size : ℕ} (h : size = 256 ∨ size = 36) (i : Fin 16) (byte : UInt8) :
    (digestByte size i byte).Fits := by
  have hwritten : written [.hexByte byte] ≤ 3 := written_le _
  have hi := i.isLt
  refine hwritten.trans ?_
  rw [Message.size]
  omega

theorem fits_updateCheck (matched : Bool) {new_ver : List UInt8} (h : new_ver.length = ESP_AT_LOBO_VERSION.length) :
    (updateCheck matched new_ver).Fits := by
  have htext : (CString.string new_ver).length ≤ 22 := by
    have hver : ESP_AT_LOBO_VERSION.length = 22 := by decide
    have := CString.text_length_le new_ver
    rw [string_length]
    omega
  exact (written_cons_le (bound_le _) <| written_cons_le (bound_le _) <| written_cons_le (bound_le _) <|
    written_cons_le (text_le htext) <| written_le _).trans (Nat.le_of_ble_eq_true rfl)

theorem fits_updateCheckBoot (matched : Bool) {new_ver : List UInt8} {boot_ver : Int32}
    (h : new_ver.length = (sprintf (oldVerPieces boot_ver)).length) :
    (updateCheckBoot matched new_ver boot_ver).Fits := by
  have htext : (CString.string new_ver).length ≤ 44 := by
    have hold : written (oldVerPieces boot_ver) ≤ 45 := written_le _
    have := CString.text_length_le new_ver
    rw [written] at hold
    rw [string_length]
    omega
  exact (written_cons_le (bound_le _) <| written_cons_le (bound_le _) <| written_cons_le (bound_le _) <|
    written_cons_le (text_le htext) <| written_le _).trans (Nat.le_of_ble_eq_true rfl)

theorem fits_checksum (isBoot : Bool) {md5 : List UInt8} (h : (CString.text md5).length ≤ 32) :
    (checksum isBoot md5).Fits := by
  have htext : (CString.string md5).length ≤ 32 := by rwa [string_length]
  exact (written_cons_le (bound_le _) <| written_cons_le (text_le (checksumName_length isBoot)) <|
    written_cons_le (bound_le _) <| written_cons_le (text_le htext) <| written_le _).trans
      (Nat.le_of_ble_eq_true rfl)

theorem fits_checksumQuery {md5 : List UInt8} (h : (CString.text md5).length ≤ 32) : (checksumQuery md5).Fits := by
  have htext : (CString.string md5).length ≤ 32 := by rwa [string_length]
  exact (written_cons_le (bound_le _) <| written_cons_le (text_le htext) <| written_le _).trans
    (Nat.le_of_ble_eq_true rfl)

theorem not_fits_sysCpuFreq (freq : UInt8) : ¬(sysCpuFreq freq).Fits := by
  intro h
  have htext : (Piece.text "+SYSCPUFREQ:").chars.length = 12 := by decide
  rw [Fits, pieces, written_cons, htext, size] at h
  omega

theorem not_fits_debug (flag : UInt8) : ¬(debug flag).Fits := by
  intro h
  have htext : (Piece.text "+UPDATEDEBUG:").chars.length = 13 := by decide
  have hend : (Piece.text "\r\n").chars.length = 2 := by decide
  have hflag : 0 < (Piece.u8 flag).chars.length := digits_length_pos _
  rw [Fits, pieces, written_cons, written_cons, written_cons, written_nil, htext, hend, size] at h
  omega

theorem fits_remoteHost (host : String) : (remoteHost host).Fits ↔ host = "" := by
  rw [Fits, pieces, written_cons, written_nil, Piece.chars, String.length_toList, size]
  constructor
  · intro h
    exact String.length_eq_zero_iff.mp (by omega)
  · rintro rfl
    decide

theorem fits_client (ip_addr : UInt32) (remote_port : UInt16) (str : List UInt8) (third : Int32) :
    (client ip_addr remote_port str third).Fits ↔
      (CString.text str).length + (signed ip_addr.toInt32.toInt).length + (signed third.toInt).length ≤ 110 := by
  have h1 : (Piece.text "+TCPCLIENT:").chars.length = 11 := by decide
  have h2 : (Piece.text ",\"").chars.length = 2 := by decide
  have h3 : (Piece.text "\",").chars.length = 2 := by decide
  have h4 : (Piece.text "\r\n").chars.length = 2 := by decide
  have hstr : (Piece.text (CString.string str)).chars.length = (CString.text str).length := by
    rw [Piece.chars, String.length_toList, string_length]
  have hip : (Piece.i32 ip_addr.toInt32).chars = signed ip_addr.toInt32.toInt := by rw [Piece.chars]
  have hthird : (Piece.i32 third).chars = signed third.toInt := by rw [Piece.chars]
  rw [Fits, pieces, written_cons, written_cons, written_cons, written_cons, written_cons, written_cons,
    written_cons, written_nil, h1, h2, h3, h4, hstr, hip, hthird, size]
  omega

end Message

/-- `at_data_str_copy` copies no more characters than it is asked for. -/
def LibAt.CopiesAtMost (lib : LibAt) : Prop :=
  ∀ pPara maxLen, (lib.dataStrCopy pPara maxLen).2.1.length ≤ maxLen

/-! ### The fields in reachable states -/

namespace App

variable {lib : LibAt} {md5 : List UInt8 → Digest} {s t : App}

/-- What bounds the texts that are printed: the host is at most 31 characters long, the checksum 32. -/
def TextsBounded (s : App) : Prop := s.upgradeRemoteHost.length ≤ 31 ∧ (CString.text s.updateMd5).length ≤ 32

theorem text_cleared : (CString.text (List.replicate 36 0)).length ≤ 32 := by decide

/-- A checksum is stored with four zero bytes behind it. -/
theorem text_stored (response : List UInt8) :
    (CString.text (response.take 32 ++ List.replicate 4 0)).length ≤ 32 := by
  have hzero : List.replicate 4 (0 : UInt8) = 0 :: List.replicate 3 0 := rfl
  rw [hzero, CString.text_append_zero]
  exact (CString.text_length_le _).trans (List.length_take_le _ _)

theorem Reported.textsBounded (h : Reported s t) (hs : s.TextsBounded) : t.TextsBounded := by
  obtain ⟨d, heap, out, busy, bi, idx, response, crashed, rfl, -⟩ := h
  exact hs

theorem Cleaned.textsBounded (h : Cleaned s t) (hs : s.TextsBounded) : t.TextsBounded := by
  obtain ⟨d, heap, out, n, response, flag, crashed, rfl, -⟩ := h
  exact hs

theorem TextsBounded.verCheckMd5 (h : s.TextsBounded) (result : Bool) :
    (s.otaVerCheckMd5CallBack result).TextsBounded := by
  unfold otaVerCheckMd5CallBack
  split
  · exact ((Reported.self s).checkVersion _ _ _ _).textsBounded h
  · exact ((Reported.self s).checkVersion _ _ _ _).textsBounded h
  · exact ⟨h.1, text_stored _⟩
  · exact ⟨h.1, text_stored _⟩
  · exact h
  · exact h
  · exact ⟨h.1, text_cleared⟩
  · exact ⟨h.1, text_cleared⟩

theorem TextsBounded.callBack (h : s.TextsBounded) (callback : OtaCallback) (result : Bool) :
    (s.callBack md5 callback result).TextsBounded := by
  cases callback with
  | update => exact ((Reported.self s).otaUpdateCallBack md5 result).textsBounded h
  | updateBoot => exact ((Reported.self s).otaUpdateBootCallBack md5 result).textsBounded h
  | verCheckMd5 => exact h.verCheckMd5 result

theorem textsBounded_step (h : s.TextsBounded) (e : NetEvent) : (s.step md5 e).TextsBounded := by
  cases hend : s.ending e with
  | none =>
    by_cases hlive : ∃ u, s.upgrade = .live u
    · obtain ⟨u, hu⟩ := hlive
      obtain ⟨d, heap, out, v, n, timer, flag, crashed, hstep, -⟩ := step_within md5 hu hend
      rw [hstep]
      exact h
    · obtain ⟨out, timer, crashed, hstep⟩ := step_sessionless md5 (fun u hu => hlive ⟨u, hu⟩) e
      rw [hstep]
      exact h
  | some t =>
    obtain ⟨-, u, hu, -⟩ := ending_some hend
    obtain ⟨d, heap, out, v, n, timer, flag, crashed, rfl, hcall, -⟩ := ending_within hu hend
    have hcalls := calls_of_ending hend (u := v) rfl
    rw [hcall] at hcalls
    rw [step_calls hcalls]
    exact ((calls_cleaned hu hcalls).2.textsBounded h).callBack _ _

theorem updateParams_host {pPara : List UInt8} {p : UpdateParams} (h : updateParams lib pPara = some p) :
    p.host = (lib.dataStrCopy pPara.tail 31).2.1 := by
  unfold updateParams at h
  generalize lib.dataStrCopy pPara.tail 31 = r at h ⊢
  obtain ⟨flag, buffer, rest⟩ := r
  have hof : ∀ v w x y : ℤ, some (UpdateParams.mk buffer v w x y) = some p → p.host = buffer := by
    intro v w x y heq
    rw [← Option.some.inj heq]
  simp only at h
  split_ifs at h with hflag hend hcomma
  · exact hof _ _ _ _ h
  generalize numericParam lib rest.tail = q at h
  obtain ⟨upd_rst, p', rest⟩ := q
  cases rest with
  | none => exact hof _ _ _ _ h
  | some rest =>
    simp only at h
    generalize numericParam lib rest = q at h
    obtain ⟨fw_n, p', rest⟩ := q
    cases rest with
    | none => exact hof _ _ _ _ h
    | some rest =>
      simp only at h
      generalize numericParam lib rest = q at h
      obtain ⟨port, p', rest⟩ := q
      cases rest with
      | none => exact hof _ _ _ _ h
      | some rest =>
        simp only at h
        generalize numericParam lib rest = q at h
        obtain ⟨ssl, p', rest⟩ := q
        simp only at h
        split_ifs at h
        · exact hof _ _ _ _ h
        · exact hof _ _ _ _ h

theorem textsBounded_act (hcopy : lib.CopiesAtMost) (h : s.TextsBounded) (a : UpdateAction) :
    (s.act lib md5 a).TextsBounded := by
  cases a with
  | event e => exact textsBounded_step h e
  | command c =>
    unfold act
    simp only
    split_ifs with hrun
    · exact h
    have hbusy : s.busy = false := by simpa using (not_or.mp hrun).2
    cases hc : c.starts with
    | some r =>
      obtain ⟨type, dns⟩ := r
      have hprepared : (CString.text (s.preparing type).updateMd5).length ≤ 32 := by
        simp only [preparing]
        split_ifs
        · exact text_cleared
        · exact h.2
      have htarget : s.targetHost.length ≤ 31 := by
        unfold targetHost
        split_ifs
        · decide
        · exact h.1
      obtain ⟨heap, out, timer, heq⟩ | hrefused := execute_starts lib md5 hbusy hc
      · rw [heq]
        exact ⟨htarget, hprepared⟩
      · refine ⟨?_, by rw [hrefused.md5]; exact hprepared⟩
        rcases hrefused.host with hhost | hhost
        · rw [hhost]
          exact h.1
        · rw [hhost]
          exact htarget
    | none =>
      cases c with
      | update | updateBoot | check | checkBoot | getChecksum | getChecksumBoot => cases hc
      | setOptions pPara =>
        simp only [execute]
        cases hp : updateParams lib pPara with
        | none =>
          rw [atSetupCmdFWupdate_none hp]
          exact h
        | some p =>
          have hhost : (CString.string p.host).length ≤ 31 := by
            have := CString.text_length_le p.host
            have hle := hcopy pPara.tail 31
            rw [← updateParams_host hp] at hle
            rw [Message.string_length]
            omega
          rw [atSetupCmdFWupdate_some hp]
          split_ifs
          · exact ⟨hhost, h.2⟩
          · exact ⟨hhost, h.2⟩
          · exact ⟨hhost, h.2⟩
      | setDebug pPara =>
        simp only [execute, atSetupCmdFWDebug]
        split_ifs
        · exact h
        · exact h
        · exact h
      | setChecksum pPara =>
        simp only [execute, atSetupCmdFWGetMD5]
        split_ifs
        · exact h
        · exact ⟨h.1, text_cleared⟩
        · exact h
      | setBoot pPara =>
        obtain ⟨rtc, hrtc⟩ := s.setRtcNextboot_eq
          ((bootParams lib pPara).1.bootapp.toUInt8.toUInt32 ||| (bootParams lib pPara).1.perm).toUInt8
        simp only [execute, atSetupCmdBoot, hrtc]
        split_ifs
        · exact h
        · exact h
        · exact h
        · exact h

end App

/-! ### The messages of every run -/

namespace Message

variable {lib : LibAt} {app : App} {tcp : Tcp}

/-- In a state whose texts are bounded, the messages that are possible fit unless they overrun. -/
theorem fits_iff (h : app.TextsBounded) {m : Message} (hm : m.Possible lib app tcp) : m.Fits ↔ ¬m.Overruns := by
  cases m with
  | sysCpuFreq freq => exact iff_of_false (not_fits_sysCpuFreq freq) (not_not.mpr trivial)
  | debug flag => exact iff_of_false (not_fits_debug flag) (not_not.mpr trivial)
  | remoteHost host => rw [fits_remoteHost, Overruns, not_not]
  | client ip_addr remote_port str third => rw [fits_client, Overruns, not_lt]
  | espName esp8285 =>
    refine iff_of_true ?_ (fun h => h)
    cases esp8285 <;> exact fits_of_bound (Nat.le_of_ble_eq_true rfl)
  | ext upgrade =>
    refine iff_of_true ?_ (fun h => h)
    cases upgrade <;> exact fits_of_bound (Nat.le_of_ble_eq_true rfl)
  | checksumError isBoot =>
    refine iff_of_true ?_ (fun h => h)
    cases isBoot <;> exact fits_of_bound (Nat.le_of_ble_eq_true rfl)
  | getInput msg idx =>
    refine iff_of_true ?_ (fun h => h)
    rcases hm with rfl | rfl <;> exact fits_of_bound (Nat.le_of_ble_eq_true rfl)
  | sysFlashMap part_type => exact iff_of_true (fits_sysFlashMap part_type) (fun h => h)
  | digestByte size i byte => exact iff_of_true (fits_digestByte hm i byte) (fun h => h)
  | updateCheck matched new_ver => exact iff_of_true (fits_updateCheck matched hm) (fun h => h)
  | updateCheckBoot matched new_ver boot_ver => exact iff_of_true (fits_updateCheckBoot matched hm) (fun h => h)
  | checksum isBoot md5 =>
    obtain ⟨response, rfl⟩ := hm
    exact iff_of_true (fits_checksum isBoot (App.text_stored response)) (fun h => h)
  | checksumQuery md5 =>
    obtain rfl : md5 = app.updateMd5 := hm
    exact iff_of_true (fits_checksumQuery h.2) (fun h => h)
  | update host reset forced port ssl =>
    have hhost : host.length ≤ 31 := by
      rw [hm.1]
      split_ifs
      · decide
      · exact h.1
    exact iff_of_true (fits_update hhost reset forced port ssl) (fun h => h)
  | bootPart n part_type part_length part_md5 => exact iff_of_true (fits_bootPart n part_type part_md5 hm) (fun h => h)
  | requesting esp8285 upgrade user_n flash_map flash_addr =>
    exact iff_of_true (fits_requesting esp8285 upgrade user_n flash_map flash_addr) (fun h => h)
  | request type esp8285 user_n flash_map host =>
    obtain rfl : host = app.upgradeRemoteHost := hm
    exact iff_of_true (fits_request type esp8285 user_n flash_map h.1) (fun h => h)
  | certName => exact iff_of_true (by decide) (fun h => h)
  | sntpTime => exact iff_of_true (fits_of_sample (sntpTime 0 ⟨0, 0, 0, 0, 0, 0⟩) rfl rfl (by decide +kernel)) (fun h => h)
  | recvError => exact iff_of_true (fits_of_sample (recvError 0) rfl rfl (by decide +kernel)) (fun h => h)
  | recvAlert => exact iff_of_true (fits_of_sample (recvAlert 0 0 0) rfl rfl (by decide +kernel)) (fun h => h)
  | closed => exact iff_of_true (fits_of_sample (closed 0) rfl rfl (by decide +kernel)) (fun h => h)
  | connected => exact iff_of_true (fits_of_sample (connected 0) rfl rfl (by decide +kernel)) (fun h => h)
  | ipAddr => exact iff_of_true (fits_of_sample (ipAddr 0) rfl rfl (by decide +kernel)) (fun h => h)
  | clientConnect => exact iff_of_true (fits_of_sample (clientConnect 0 0 0 0) rfl rfl (by decide +kernel)) (fun h => h)
  | clientReject => exact iff_of_true (fits_of_sample (clientReject 0) rfl rfl (by decide +kernel)) (fun h => h)
  | serverCount => exact iff_of_true (fits_of_sample (serverCount 0) rfl rfl (by decide +kernel)) (fun h => h)
  | server => exact iff_of_true (fits_of_sample (server 0 ⟨0, 0, 0, 0, 0, 0⟩) rfl rfl (by decide +kernel)) (fun h => h)
  | status => exact iff_of_true (fits_of_sample (status 0) rfl rfl (by decide +kernel)) (fun h => h)
  | linkStatus => exact iff_of_true (fits_of_sample (linkStatus 0 0 0 0 0) rfl rfl (by decide +kernel)) (fun h => h)
  | setupStatus => exact iff_of_true (fits_of_sample (setupStatus 0 0 0) rfl rfl (by decide +kernel)) (fun h => h)
  | loadCert => exact iff_of_true (fits_of_sample (loadCert 0 0) rfl rfl (by decide +kernel)) (fun h => h)
  | sslConfig => exact iff_of_true (fits_of_sample (sslConfig 0) rfl rfl (by decide +kernel)) (fun h => h)
  | flashError => exact iff_of_true (fits_of_sample (flashError 0) rfl rfl (by decide +kernel)) (fun h => h)
  | checking => exact iff_of_true (fits_of_sample (checking 0 0) rfl rfl (by decide +kernel)) (fun h => h)
  | oldVersion => exact iff_of_true (fits_of_sample (oldVersion 0) rfl rfl (by decide +kernel)) (fun h => h)
  | boot => exact iff_of_true (fits_of_sample (boot 0 0 0 0) rfl rfl (by decide +kernel)) (fun h => h)
  | downloading => exact iff_of_true (fits_of_sample (downloading 0) rfl rfl (by decide +kernel)) (fun h => h)
  | finished => exact iff_of_true (fits_of_sample (finished 0 0) rfl rfl (by decide +kernel)) (fun h => h)
  | connectionError => exact iff_of_true (fits_of_sample (connectionError 0) rfl rfl (by decide +kernel)) (fun h => h)

/-- **The messages that fit, in every state of every run.** -/
theorem sprintf_fits_iff (hcopy : lib.CopiesAtMost) (md5 : List UInt8 → Digest) {s : App} {t : Tcp}
    (hhost : s.upgradeRemoteHost = "") (hmd5 : s.updateMd5 = List.replicate 36 0) (as : List UpdateAction)
    (bs : List Action) {m : Message}
    (hm : m.Possible lib (Machine.run (App.act lib md5) as s) (Machine.run (step lib) bs t)) :
    m.Fits ↔ ¬m.Overruns := by
  have hreset : s.TextsBounded := by
    rw [App.TextsBounded, hhost, hmd5]
    exact ⟨by decide, App.text_cleared⟩
  exact fits_iff (Machine.run_invariant (fun a s h => App.textsBounded_act hcopy h a) hreset) hm

theorem plainAt_copiesAtMost : plainAt.CopiesAtMost := by
  intro pPara maxLen
  simp only [plainAt]
  split_ifs with h
  · exact Nat.zero_le _
  · exact not_lt.mp (not_or.mp h).2

/-- The default host after a reset. -/
theorem sprintf_fits_iff_default : (remoteHost REMOTE_UPDATE_HOST).Fits ↔ ¬(remoteHost REMOTE_UPDATE_HOST).Overruns :=
  sprintf_fits_iff plainAt_copiesAtMost Md5.digest (s := App.atReset (fun _ => 0xFF) (fun _ => 0) 2)
    (t := Tcp.atReset (fun _ => true) 5) rfl rfl [] [] (Or.inl ⟨rfl, rfl⟩)

/-- Not every message fits: `AT+UPDATEDEBUG?` after a reset writes 17 bytes into 16. -/
theorem not_sprintf_fits : ¬∀ (as : List UpdateAction) (bs : List Action) (m : Message),
    m.Possible plainAt (Machine.run (App.act plainAt Md5.digest) as (App.atReset (fun _ => 0xFF) (fun _ => 0) 2))
      (Machine.run (step plainAt) bs (Tcp.atReset (fun _ => true) 5)) → m.Fits := by
  intro h
  exact not_fits_debug 0 (h [] [] (debug 0) rfl)

end Message

end Esp8266At
