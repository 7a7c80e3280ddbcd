import Esp8266At.App.Command
import Esp8266At.Tcp.Handlers

/-!
# The TCP commands

The AT commands of `at_extra_cmd.c` that open, serve, use and close links.
-/

namespace Esp8266At.Tcp

abbrev TCP_MAX_CERTS : ℤ := 1
abbrev TCP_CERT_HEAD_SIZE : ℕ := 32
abbrev TCP_CERT_LEN_SIZE : ℕ := 2

/-! ### Parameters -/

/-- The parameters of `AT+TCPSTART=id,"type","host",port[,keepalive[,local_port]]`. -/
structure StartParams where
  connNo : LinkId
  ssl : UInt8
  domain : List UInt8
  port : UInt16
  keepalive : UInt16
  localPort : UInt16

/-- The parameters of `AT+TCPSERVER=id,enable[,port[,ssl[,maxconn[,timeout]]]]`. -/
structure ServerParams where
  srvN : ServerId
  enable : ℤ
  port : UInt16
  ssl : UInt8
  maxconn : UInt8
  timeout : UInt16

section
variable (lib : LibAt)

/-- The link id a command starts with, and the text after it. -/
def linkParam (pPara : List UInt8) : Option (LinkId × List UInt8) :=
  -- skip '='
  let p := lib.getNextIntDec pPara.tail 0
  if p.err ≠ 0 then none else
  if h : 0 ≤ p.value ∧ p.value < TCPCONN_MAX_CONN then some (⟨p.value.toNat, by omega⟩, p.rest) else none

/-- The optional parameters of `AT+TCPSTART`: the keep alive time, the local port and the text after them. -/
def startOptions (port : ℤ) (pPara : List UInt8) : Option (ℤ × ℤ × List UInt8) :=
  let withLocalPort := fun (keepalive : ℤ) (pPara : List UInt8) =>
    if charAt pPara = COMMA then
      let p := lib.getNextIntDec pPara.tail 0
      if p.err ≠ 0 then none else
      if p.value < 0 ∨ p.value ≥ 65536 ∨ p.value = port then none else some (keepalive, p.value, p.rest)
    else some (keepalive, 0, pPara)
  if charAt pPara = COMMA then
    let p := lib.getNextIntDec pPara.tail 0
    if p.err ≠ 0 then withLocalPort 0 p.rest
    else if p.value < 0 ∨ p.value ≥ 7200 then none
    else withLocalPort p.value p.rest
  else withLocalPort 0 pPara

/-- The parsing part of `at_setupCmdTCPConnConnect`; an error is `exit_err`, with what is printed before. -/
def startParams (pPara : List UInt8) (tcpconns : Table TCPCONN_MAX_CONN TcpConn) :
    Except (Option String) StartParams :=
  match linkParam lib pPara with
  | none => .error none
  | some (conn_no, pPara) =>
    if (tcpconns conn_no).isSome then .error "\r\n+TCPSTART:linkUsed\r\n" else
    if charAt pPara ≠ COMMA then .error none else
    -- connection type, string
    match lib.dataStrCopy pPara.tail 3 with
    | (flag, type, pPara) =>
      if flag ≠ 3 then .error none else
      if CString.string type ≠ "TCP" ∧ CString.string type ≠ "SSL" then .error none else
      let ssl := if CString.string type = "TCP" then 0 else 1
      if charAt pPara ≠ COMMA then .error none else
      -- domain, string
      match lib.dataStrCopy pPara.tail 31 with
      | (flag, domain, pPara) =>
        if flag < 3 then .error none else
        if charAt pPara ≠ COMMA then .error none else
        let p := lib.getNextIntDec pPara.tail 0
        if p.err ≠ 0 then .error none else
        if p.value < 1 ∨ p.value > 65365 then .error none else
        match startOptions lib p.value p.rest with
        | none => .error none
        | some (keepalive, localport, pPara) =>
          -- check if the last parameter
          if charAt pPara ≠ CR then .error none else
          .ok ⟨conn_no, ssl, domain, UInt16.ofInt p.value, UInt16.ofInt keepalive, UInt16.ofInt localport⟩

/-- An optional parameter of `AT+TCPSERVER`: its value, `dflt` where it is missing or cannot be read; and the
text after it. -/
def serverOption (pPara : List UInt8) (dflt : ℤ) : ℤ × List UInt8 :=
  if charAt pPara = COMMA then
    let p := lib.getNextIntDec pPara.tail dflt
    (if p.err ≠ 0 then dflt else p.value, p.rest)
  else (dflt, pPara)

/-- The parsing part of `at_setupCmdTCPServer`; `none` is `exit_err`. -/
def serverParams (pPara : List UInt8) : Option ServerParams :=
  let p := lib.getNextIntDec pPara.tail 0
  if p.err ≠ 0 then none else
  if h : 0 ≤ p.value ∧ p.value < TCPCONN_MAX_SERV then
    if charAt p.rest ≠ COMMA then none else
    let enable := lib.getNextIntDec p.rest.tail (-1)
    if enable.err ≠ 0 then none else
    if enable.value < 0 ∨ enable.value > 1 then none else
    let (port, pPara) := serverOption lib enable.rest 333
    let port := if port < 0 ∨ port > 65535 then 333 else port
    let (ssl, pPara) := serverOption lib pPara 0
    let ssl := if ssl < 0 ∨ ssl > 1 then 0 else ssl
    let given := charAt pPara = COMMA
    let (maxconn, pPara) := serverOption lib pPara TCPCONN_MAX_CONN
    if given ∧ (maxconn < 1 ∨ maxconn > TCPCONN_MAX_CONN) then none else
    let given := charAt pPara = COMMA
    let (tmo, pPara) := serverOption lib pPara TCPSERV_CONN_TIMEOUT
    -- the upper bound is that of `maxconn`
    if given ∧ (tmo < 0 ∨ maxconn > 7200) then none else
    if charAt pPara ≠ CR then none else
    some ⟨⟨p.value.toNat, by omega⟩, enable.value, UInt16.ofInt port, UInt8.ofInt ssl, UInt8.ofInt maxconn,
      UInt16.ofInt tmo⟩
  else none

def closeParam (pPara : List UInt8) (tcpconns : Table TCPCONN_MAX_CONN TcpConn) : Option LinkId :=
  match linkParam lib pPara with
  | none => none
  | some (tcp_n, pPara) =>
    if (tcpconns tcp_n).isNone then none else
    if charAt pPara ≠ CR then none else some tcp_n

/-- The parsing part of `at_setupCmdTCPSend`: the link and the length, 0 if the data ends with `^`. -/
def sendParams (pPara : List UInt8) (tcpconns : Table TCPCONN_MAX_CONN TcpConn) : Option (LinkId × ℕ) :=
  match linkParam lib pPara with
  | none => none
  | some (tcp_n, pPara) =>
    if (tcpconns tcp_n).isNone then none else
    if charAt pPara = COMMA then
      let p := lib.getNextIntDec pPara.tail (-1)
      if p.err ≠ 0 then none else
      if p.value < 1 ∨ p.value > 2048 then none else
      if charAt p.rest ≠ CR then none else some (tcp_n, p.value.toNat)
    else if charAt pPara ≠ CR then none else some (tcp_n, 0)

/-- The parsing part of `at_setupCmdTCPLoadCert`: the length, -1 if the certificate ends with `^`. -/
def certParams (pPara : List UInt8) : Option ℤ :=
  let p := lib.getNextIntDec pPara.tail 0
  if p.err ≠ 0 then none else
  if p.value < 0 ∨ p.value ≥ TCP_MAX_CERTS then none else
  if charAt p.rest = COMMA then
    let q := lib.getNextIntDec p.rest.tail (-1)
    if q.err ≠ 0 then none else
    if q.value < 0 ∨ q.value > SECTOR_SIZE - TCP_CERT_HEAD_SIZE - TCP_CERT_LEN_SIZE then none else
    if charAt q.rest ≠ CR then none else some q.value
  else if charAt p.rest ≠ CR then none else some (-1)

end

/-! ### Opening a link -/

/-- What `espconn_gethostbyname` returns. -/
inductive LookupResult where
  /-- `ESPCONN_OK`: the host name is cached or an address. -/
  | ok (ip : Ip)
  | inprogress
  | failed
  deriving DecidableEq

section
variable (s : Tcp)

def StartParams.tcpconn (p : StartParams) (conn : ℕ) : TcpConn where
  parrent := TCPCONN_PARRENT_MASK ||| UInt8.ofNat (TCPCONN_MAX_SERV + p.connNo.val)
  ssl := p.ssl
  connected := 0
  keepalive := p.keepalive
  port := p.port
  localPort := p.localPort
  remoteIp := 0
  conn := conn
  ip := 0

def startLink (p : StartParams) (lookup : LookupResult) (port : UInt16) (result : Int8) : Tcp :=
  -- create connection
  let conn := s.nextBlock
  let tcpconn := p.tcpconn conn
  let s := (s.create { Espconn.zero with parrent := tcpconn.parrent }).setConn p.connNo (some tcpconn)
  let s := s.atEnterSpecialState
  -- DNS lookup
  match lookup with
  | .ok ip => (s.setConn p.connNo (some { tcpconn with ip := ip })).tcpconnResolved conn ip port result
  | .inprogress => { s with lookups := s.lookups ++ [conn] }
  | .failed =>
    (((s.tcpconnCleanup p.connNo).atLeaveSpecialState).print "\r\n+TCPSTART:resolveError\r\n").responseError

def atSetupCmdTCPConnConnect (lib : LibAt) (pPara : List UInt8) (lookup : LookupResult) (port : UInt16)
    (result : Int8) : Tcp :=
  match startParams lib pPara s.tcpconns with
  | .error none => s.responseError
  | .error (some t) => (s.print t).responseError
  | .ok p =>
    -- the `tcpconn` structure, the `espconn` and the `esp_tcp`
    match s.zallocs 3 with
    | (false, s) => (s.print "\r\n+TCPSTART:zallocError\r\n").responseError
    | (true, s) => s.startLink p lookup port result

/-! ### Servers -/

def startServer (p : ServerParams) (result : Int8) : Tcp :=
  let conn := s.nextBlock
  let s := s.create
    { Espconn.zero with
      tcp := true
      parrent := TCPCONN_PARRENT_MASK ||| UInt8.ofNat p.srvN.val
      localPort := p.port
      connectCallback := some .tcpserverClient }
  let s := s.setServer p.srvN (some ⟨p.ssl, 0, p.maxconn, p.port, p.timeout, conn⟩)
  -- Accept connections
  match s.espconnAccept conn result with
  | (res, s) =>
    -- the result of `espconn_secure_accept` is not looked at
    if p.ssl = 0 ∧ res ≠ 0 then (s.print "\r\nTCPServerAcceptERROR\r\n").responseError
    else s.responseOk

def tcpServerCreate (p : ServerParams) (result : Int8) : Tcp :=
  if (s.tcpservers p.srvN).isSome then s.responseError else
  -- the `tcpsrv` structure, the `espconn` and the `esp_tcp`
  match s.zallocs 3 with
  | (false, s) => s.responseError
  | (true, s) => s.startServer p result

/-- Close client `tcp_n` if it belongs to server `srv_n`. -/
def closeClient (srv_n : ServerId) (tcp_n : LinkId) : Tcp :=
  match s.tcpconns tcp_n with
  | none => s
  | some t => if serverOf t.parrent = some srv_n ∧ t.connected ≠ 0 then s.espconnDisconnect t.conn else s

def tcpServerDelete (srv_n : ServerId) : Tcp :=
  match s.tcpservers srv_n with
  | none => s.responseError
  | some srv =>
    -- Close all clients
    let s := (List.finRange TCPCONN_MAX_CONN).foldl (fun s tcp_n => s.closeClient srv_n tcp_n) s
    let s := (s.espconnDelete srv.conn).release srv.conn .tcpServerDelete
    (s.setServer srv_n none).responseOk

def atSetupCmdTCPServer (lib : LibAt) (pPara : List UInt8) (result : Int8) : Tcp :=
  match serverParams lib pPara with
  | none => s.responseError
  | some p => if p.enable = 1 then s.tcpServerCreate p result else s.tcpServerDelete p.srvN

/-! ### Using and closing a link -/

def atSetupCmdTCPClose (lib : LibAt) (pPara : List UInt8) : Tcp :=
  match closeParam lib pPara s.tcpconns with
  | none => s.responseError
  | some tcp_n =>
    match s.tcpconns tcp_n with
    | none => s.responseError
    | some t => (if t.connected ≠ 0 then s.espconnDisconnect t.conn else s).responseOk

abbrev TCPINPUT_TERMINATE_CHAR : UInt8 := 0x5E

/-- The loop of `_request_get_input`: what has been stored, and `tmo`. A call of `uart_rx_one_char` without a
character ends a round of the outer loop. `idx` has 16 bits. -/
def getInput (len : ℕ) : List (Option UInt8) → ℕ → List UInt8 → List UInt8 × ℕ
  | [], _, buf => (buf, 0)
  | none :: host, tmo, buf => if tmo = 0 then (buf, 0) else getInput len host (tmo - 1) buf
  | some ch :: host, tmo, buf =>
    if len = 0 ∧ ch = TCPINPUT_TERMINATE_CHAR then (buf, tmo) else
    if (buf ++ [ch]).length % 65536 = len then (buf ++ [ch], tmo) else getInput len host tmo (buf ++ [ch])

/-- `_request_get_input`: the data, none if it is not complete. -/
def requestGetInput (len : ℕ) (msg : String) (host : List (Option UInt8)) : List UInt8 × Tcp :=
  -- Send the data request prompt to the client
  let s := s.print "\r\n>"
  match getInput len host 499999 [] with
  | (buf, tmo) =>
    let idx := buf.length % 65536
    let s := s.print s!"\r\n{msg}:{idx}\r\n"
    if tmo = 0 ∨ idx = 0 ∨ (len > 0 ∧ idx ≠ len) then ([], s.print "\r\nFAIL\r\n") else (buf, s)

/-- The part of `at_setupCmdTCPSend` with the buffer, with what `espconn_send` returns for an established
connection. -/
def sendBuffer (conn : ℕ) (result : Int8) : Tcp :=
  match s.espconnSend conn result with
  | (res, s) => if res ≠ 0 then ((s.print "\r\nFAIL\r\n").espconnDisconnect conn).atLeaveSpecialState else s

def atSetupCmdTCPSend (lib : LibAt) (pPara : List UInt8) (host : List (Option UInt8)) (result : Int8) : Tcp :=
  match sendParams lib pPara s.tcpconns with
  | none => s.responseError
  | some (tcp_n, len) =>
    match s.zalloc with
    | (false, s) => s.responseError
    | (true, s) =>
      match s.atEnterSpecialState.requestGetInput len "+TCPSEND" host with
      | ([], s) => s.atLeaveSpecialState
      | (_ :: _, s) =>
        match s.tcpconns tcp_n with
        | none => s
        -- All expected characters are received, send the buffer
        | some t => s.sendBuffer t.conn result

end

end Esp8266At.Tcp
