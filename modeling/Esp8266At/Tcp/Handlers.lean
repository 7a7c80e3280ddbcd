import Esp8266At.Tcp.Espconn

/-!
# The callbacks of the TCP commands

The functions of `at_extra_cmd.c` that the network layer calls. They get the block of the connection, or of
the server that accepted it, and search the table for the link by the remote address and port.

Characters from the host are given as the results of the coming calls of `uart_rx_one_char`, `none` where
there is no character; after the end of the list the host says nothing more.
-/

namespace Esp8266At.Tcp

abbrev TCP_DATA_TIMEOUT_MS : ℕ := 50000

def ipText (ip : Ip) : String :=
  s!"{ip &&& 0xFF}.{(ip >>> 8) &&& 0xFF}.{(ip >>> 16) &&& 0xFF}.{ip >>> 24}"

/-- The server id in `parrent`, if it is one of a server. -/
def serverOf (parrent : UInt8) : Option ServerId :=
  if parrent &&& TCPCONN_PARRENT_MASK = TCPCONN_PARRENT_MASK then
    if h : (parrent &&& 0x07).toNat < TCPCONN_MAX_SERV then some ⟨(parrent &&& 0x07).toNat, h⟩ else none
  else none

section
variable (s : Tcp)

def getTcpn (key : Ip × UInt16) : Option LinkId := s.tcpconns.firstWhere fun t => t.key = key

def tcpconnCleanup (tcp_n : LinkId) : Tcp :=
  match s.tcpconns tcp_n with
  | none => s
  | some t => ((s.use t.conn).release t.conn .tcpconnCleanup).setConn tcp_n none

def tcpconnRegisterCb (conn : ℕ) : Tcp :=
  (s.espconnSetOpt conn 0x0F).setBlock conn
    { s.espconn conn with disconnectCallback := true, recvCallback := true, sentCallback := true }

def tcpconnSendcb : Tcp := s.responseOk.atLeaveSpecialState

/-- What the handlers of an ended connection print if no link has its key. -/
def printNoLink (conn : ℕ) (handler : String) : Tcp :=
  let s := s.print s!"\r\nTCPClientERROR:{handler}\r\n"
  if (s.espconn conn).state = .close then s.print "9,CLOSED\r\n" else s

/-- The part of `tcpconn_disconcb` about the counter of the server. -/
def leaveServer (parrent : UInt8) : Tcp :=
  match serverOf parrent with
  | none => s
  | some srv_n =>
    match s.tcpservers srv_n with
    | none => s.crash
    | some srv =>
      if srv.connected > 0 then s.setServer srv_n (some { srv with connected := srv.connected - 1 }) else s

def linkClosed (conn : ℕ) (tcp_n : Option LinkId) : Tcp :=
  match tcp_n with
  | some i => (s.tcpconnCleanup i).print s!"{i},CLOSED\r\n"
  | none => s.printNoLink conn "disconn"

def tcpconnDisconcb (conn : ℕ) : Tcp :=
  let s := s.use conn
  let tcp_n := s.getTcpn (s.espconn conn).key
  let s := s.leaveServer (s.espconn conn).parrent
  if s.crashed then s else s.linkClosed conn tcp_n

def tcpconnReconcb (conn : ℕ) : Tcp :=
  let s := s.use conn
  let tcp_n := s.getTcpn (s.espconn conn).key
  let s := s.atLeaveSpecialState
  match tcp_n with
  | some i =>
    match s.tcpconns i with
    | none => s
    | some t => (if t.connected = 0 then s.responseError else s.print s!"{i},CLOSED\r\n").tcpconnCleanup i
  | none => s.printNoLink conn "reconn"

/-- The part of `tcpconn_connect_cb` for link `i`, which is `t`. -/
def linkConnected (conn : ℕ) (i : LinkId) (t : TcpConn) : Tcp :=
  let s := s.tcpconnRegisterCb conn
  let s := if t.keepalive ≠ 0 then (s.use t.conn).espconnSetKeepalive t.conn t.keepaliveInt else s
  let s := (s.setConn i (some { t with connected := 1 })).print s!"{i},CONNECT\r\n"
  s.atLeaveSpecialState.responseOk

def tcpconnConnectcb (conn : ℕ) : Tcp :=
  let s := s.use conn
  match s.getTcpn (s.espconn conn).key with
  | some i =>
    match s.tcpconns i with
    | none => s
    | some t => s.linkConnected conn i t
  | none => (s.atLeaveSpecialState.print "\r\nTCPClientERROR:connect\r\n").responseError

/-- The part of `tcpconn_resolved` for link `i`, which is `t`, and its address. -/
def linkResolved (conn : ℕ) (i : LinkId) (t : TcpConn) (ip : Ip) (port : UInt16) (result : Int8) : Tcp :=
  -- set up the connection, register connect & reconnect connection callbacks
  let s := s.setBlock conn
    { s.espconn conn with
      tcp := true
      state := .none
      localPort := if t.localPort = 0 then port else t.localPort
      remotePort := t.port
      remoteIp := ip
      connectCallback := some .tcpconn
      reconnectCallback := true }
  let s := s.setConn i (some { t with remoteIp := ip, connected := 0 })
  -- the result is not looked at
  if t.ssl > 0 then (s.espconnSecureConnect conn result).2 else (s.espconnConnect conn result).2

/-- `tcpconn_resolved`, with the local port `espconn_port` gives and what the layer returns. -/
def tcpconnResolved (conn : ℕ) (ip : Option Ip) (port : UInt16) (result : Int8) : Tcp :=
  let s := s.use conn
  let tcp_n := s.tcpconns.firstWhere fun t => t.parrent = (s.espconn conn).parrent
  match tcp_n, ip with
  | some i, some ip =>
    match s.tcpconns i with
    | none => s
    | some t => s.linkResolved conn i t ip port result
  | tcp_n, ip =>
    -- Domain name not resolved or tcpconn not resolved, exit with error
    let s := match tcp_n with
      | some i => s.tcpconnCleanup i
      | none => s
    let s := s.atLeaveSpecialState
    (s.print (if ip ≠ none then "\r\n+TCPSTART:linkError\r\n" else "\r\n+TCPSTART:DNSError\r\n")).responseError

/-- The way out of `tcpserver_client_connect_cb` for a client that is not accepted. -/
def rejectClient (conn : ℕ) (srv_n : Option ServerId) : Tcp :=
  let reject := fun s : Tcp =>
    let s := s.espconnDisconnect conn
    s.print s!"\r\nTCPServerERROR:conn,{(s.espconn conn).linkCnt}\r\n"
  match srv_n with
  | none => reject s
  | some srv_n => if (s.tcpservers srv_n).isNone then s.crash else reject s

/-- The part of `tcpserver_client_connect_cb` for a client that is accepted. -/
def acceptClient (conn : ℕ) (srv_n : ServerId) (srv : TcpServer) (tcp_n : LinkId) : Tcp :=
  let c := s.espconn conn
  let tcpconn : TcpConn := ⟨c.parrent, srv.ssl, 1, 0, c.remotePort, 0, c.remoteIp, conn, c.remoteIp⟩
  let s := match s.espconnRegistTime conn srv.timeout.toUInt32 with
    | (true, s) => s
    | (false, s) => s.print "\r\nTCPClientRegTimeERROR\r\n"
  let s := (s.setConn tcp_n (some tcpconn)).tcpconnRegisterCb conn
  let s := s.setServer srv_n (some { srv with connected := srv.connected + 1 })
  s.print s!"{srv_n},{tcp_n},TCPconnect:{ipText c.remoteIp},{c.remotePort}\r\n"

def tcpserverClientConnectcb (conn : ℕ) : Tcp :=
  let s := s.use conn
  match serverOf (s.espconn conn).parrent with
  | none => s.rejectClient conn none
  | some srv_n =>
    -- Find free TCP connection to use for the connected client
    match s.tcpconns.firstEmpty with
    | none => s.rejectClient conn srv_n
    | some tcp_n =>
      match s.tcpservers srv_n with
      | none => s.crash
      | some srv =>
        -- max number of connections reached
        if srv.connected ≥ srv.maxconn then s.rejectClient conn srv_n else
        match s.zalloc with
        | (false, s) => s.rejectClient conn srv_n
        | (true, s) => s.acceptClient conn srv_n srv tcp_n

end

/-! ### Received data -/

/-- Wait for one of the characters `chars`, `none` if there is none in `tmo` calls; and what the host says
after it. -/
def awaitChar (chars : List Char) : ℕ → List (Option UInt8) → Option Char × List (Option UInt8)
  | 0, host => (none, host)
  | _ + 1, [] => (none, [])
  | tmo + 1, none :: host => awaitChar chars tmo host
  | tmo + 1, some ch :: host =>
    if Char.ofNat ch.toNat ∈ chars then (some (Char.ofNat ch.toNat), host) else awaitChar chars tmo host

/-- `resend:` announce and send the data until the host confirms (`true`) or the link is to be aborted. A round
that is repeated has taken characters, so that there are at most as many rounds as characters. -/
def recvRounds (tcp_n : LinkId) (srv_n : ℕ) (data : List UInt8) : ℕ → List (Option UInt8) → Tcp → Bool × Tcp
  | 0, _, s => (false, s)
  | rounds + 1, host, s =>
    -- send the alert message:  '+TCP,<link_id>,<server_id>,<length>
    let s := s.print s!"\r\n+TCP,{tcp_n},{srv_n},{data.length}:"
    match awaitChar ['r', 'a'] TCP_DATA_TIMEOUT_MS host with
    | (some 'r', host) =>
      let s := s.uart0TxBuffer data
      match awaitChar ['y', 'a', 'c'] 10000 host with
      | (some 'y', _) => (true, s)
      | (some 'c', host) => recvRounds tcp_n srv_n data rounds host (s.print "\r\n+TCPresend\r\n")
      | _ => (false, s)
    | _ => (false, s)

/-- The server id that is announced with the data of a link, 9 if the link is not a server's. -/
def announcedServer (s : Tcp) (tcp_n : LinkId) : ℕ :=
  match (s.tcpconns tcp_n).bind fun t => serverOf t.parrent with
  | some srv_n => srv_n.val
  | none => 9

def tcpconnRecvcb (s : Tcp) (conn : ℕ) (data : List UInt8) (host : List (Option UInt8)) : Tcp :=
  let s := s.use conn
  match s.getTcpn (s.espconn conn).key with
  | none => s.print s!"\r\nTCPClientERROR:recv,{data.length}:"
  | some tcp_n =>
    let srv_n := s.announcedServer tcp_n
    let s := s.atEnterSpecialState
    match recvRounds tcp_n srv_n data (host.length + 1) host s with
    | (true, s) => s.atLeaveSpecialState
    | (false, s) =>
      -- timeout receiving confirmation or abort requested
      let s := if (s.tcpconns tcp_n).any fun t => t.connected ≠ 0 then
          (s.print "\r\n+TCPabort\r\n").espconnDisconnect conn
        else s
      s.atLeaveSpecialState

end Esp8266At.Tcp
