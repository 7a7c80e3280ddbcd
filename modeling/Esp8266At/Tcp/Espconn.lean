import Esp8266At.Lib.Table
import Esp8266At.Lib.CString

/-!
# Links, servers and the `espconn` layer

The tables of `at_extra_cmd.c` and, of `espconn.c` and `espconn_tcp.c`, what the TCP commands use: control
blocks, the list `plink_active` of connections, and the requests the commands make. Blocks are numbered
in the order in which they are created. A block stands for a `struct espconn` and its `esp_tcp`.

Fields that are not part of the program: `released` lists the blocks that were released and who did it,
`misused` those that were accessed afterwards, and `crashed` is set where a server is accessed through a null
pointer.

Assumptions:

* Released memory is never used again: a new block has a new number, and a released one keeps its contents.
* What `espconn_secure_connect` puts into `plink_active` has no `pcb`, as its connection is behind a socket. All
  other requests and events of TLS connections are taken to be those of plain ones. Not modelled are the list
  `plink_server`, with one TLS listener at a time that `espconn_delete` does not remove, its single client, whose
  `pcb` is missing too, and that the node and the client's block go before the end of a TLS connection is reported.
  That `espconn_secure_sent` refuses data while other data is under way is one of the results the layer may return.
-/

namespace Esp8266At

namespace Tcp

abbrev TCPCONN_MAX_CONN : ℕ := 5
abbrev TCPCONN_MAX_SERV : ℕ := 3
abbrev TCPSERV_CONN_TIMEOUT : ℤ := 120
abbrev TCPCONN_PARRENT_MASK : UInt8 := 0xA0

abbrev LinkId := Fin TCPCONN_MAX_CONN

abbrev ServerId := Fin TCPCONN_MAX_SERV

abbrev Ip := UInt32

inductive EspconnState where
  | none
  | wait
  | listen
  | connect
  | write
  | read
  | close
  deriving DecidableEq

/-- The functions registered as connect callbacks. -/
inductive ConnectCallback where
  | tcpconn
  | tcpserverClient
  deriving DecidableEq

/-- `struct espconn` with its `esp_tcp`. For the other callbacks there is only one function each. -/
structure Espconn where
  /-- `type == ESPCONN_TCP`. -/
  tcp : Bool
  state : EspconnState
  parrent : UInt8
  linkCnt : UInt8
  localPort : UInt16
  remotePort : UInt16
  remoteIp : Ip
  connectCallback : Option ConnectCallback
  reconnectCallback : Bool
  disconnectCallback : Bool
  recvCallback : Bool
  sentCallback : Bool
  deriving DecidableEq

/-- A block cleared by `os_zalloc`. -/
def Espconn.zero : Espconn := ⟨false, .none, 0, 0, 0, 0, 0, none, false, false, false, false⟩

def Espconn.key (c : Espconn) : Ip × UInt16 := (c.remoteIp, c.remotePort)

/-- `espconn_msg` of a connection in `plink_active`. -/
structure Link where
  pespconn : ℕ
  /-- The block of the server that accepted the connection. -/
  preverse : Option ℕ
  /-- `pcommon.pcb` is not null. -/
  pcb : Bool
  /-- `espconn_opt`. -/
  opt : UInt8
  timeout : UInt32
  /-- `keep_idle` of the connection, in milliseconds. -/
  keepIdle : UInt32
  established : Bool
  /-- A close has been requested; the layer reports only its completion. -/
  closing : Bool
  /-- The buffers handed to the layer and not yet acknowledged. -/
  unacked : ℕ
  deriving DecidableEq

abbrev TCP_KEEPIDLE_DEFAULT : UInt32 := 120000

/-- A new entry of `plink_active`. -/
def Link.new (pespconn : ℕ) (preverse : Option ℕ) (pcb established : Bool) : Link :=
  ⟨pespconn, preverse, pcb, 0, 0, TCP_KEEPIDLE_DEFAULT, established, false, 0⟩

structure TcpConn where
  parrent : UInt8
  ssl : UInt8
  connected : UInt8
  keepalive : UInt16
  port : UInt16
  localPort : UInt16
  remoteIp : Ip
  conn : ℕ
  ip : Ip
  deriving DecidableEq

def TcpConn.key (t : TcpConn) : Ip × UInt16 := (t.remoteIp, t.port)

/-- `*(int*)&tcpconn->keepalive`: the structure has `port` behind `keepalive`. -/
def TcpConn.keepaliveInt (t : TcpConn) : UInt32 := t.keepalive.toUInt32 ||| (t.port.toUInt32 <<< 16)

structure TcpServer where
  ssl : UInt8
  connected : UInt8
  maxconn : UInt8
  port : UInt16
  timeout : UInt16
  conn : ℕ
  deriving DecidableEq

/-- The functions that release a block. -/
inductive Releaser where
  | tcpconnCleanup
  | espconnTcpMempFree
  | tcpServerDelete
  deriving DecidableEq

inductive Output where
  | text (s : String)
  | ok
  | error
  /-- `uart0_tx_buffer`. -/
  | data (bs : List UInt8)
  deriving DecidableEq

end Tcp

structure Tcp where
  tcpconns : Table Tcp.TCPCONN_MAX_CONN Tcp.TcpConn
  tcpservers : Table Tcp.TCPCONN_MAX_SERV Tcp.TcpServer
  espconn : ℕ → Tcp.Espconn
  /-- The next block. -/
  nextBlock : ℕ
  released : List (ℕ × Tcp.Releaser)
  misused : List ℕ
  plinkActive : List Tcp.Link
  /-- The blocks in `pserver_list`. -/
  pserverList : List ℕ
  /-- The blocks for which a name lookup is under way. -/
  lookups : List ℕ
  /-- `MEMP_NUM_TCP_PCB`, the connections a server's listener allows. -/
  numTcpPcb : ℕ
  /-- Whether the coming calls of `os_zalloc` succeed. -/
  heap : ℕ → Bool
  /-- The special state, in which no AT command is executed. -/
  busy : Bool
  out : List Tcp.Output
  crashed : Bool

namespace Tcp

/-- The tables after a reset. -/
def atReset (heap : ℕ → Bool) (numTcpPcb : ℕ) : Tcp where
  tcpconns := fun _ => none
  tcpservers := fun _ => none
  espconn := fun _ => .zero
  nextBlock := 0
  released := []
  misused := []
  plinkActive := []
  pserverList := []
  lookups := []
  numTcpPcb := numTcpPcb
  heap := heap
  busy := false
  out := []
  crashed := false

/-! ### Pieces of the state -/

section
variable (s : Tcp)

def print (t : String) : Tcp := { s with out := s.out ++ [.text t] }

def responseOk : Tcp := { s with out := s.out ++ [.ok] }

def responseError : Tcp := { s with out := s.out ++ [.error] }

def uart0TxBuffer (buf : List UInt8) : Tcp := { s with out := s.out ++ [.data buf] }

def atEnterSpecialState : Tcp := { s with busy := true }

def atLeaveSpecialState : Tcp := { s with busy := false }

def crash : Tcp := { s with crashed := true }

/-- `os_zalloc`; `false` is a null pointer. -/
def zalloc : Bool × Tcp := (s.heap 0, { s with heap := fun k => s.heap (k + 1) })

/-- `n` calls of `os_zalloc`, each of them only if those before succeeded. -/
def zallocs : ℕ → Bool × Tcp
  | 0 => (true, s)
  | n + 1 =>
    match zallocs n with
    | (true, s) => s.zalloc
    | r => r

/-- Block `c` is accessed. -/
def use (c : ℕ) : Tcp :=
  { s with misused := if c ∈ s.released.map Prod.fst then s.misused ++ [c] else s.misused }

/-- Block `c` is released. -/
def release (c : ℕ) (by_ : Releaser) : Tcp := { s with released := s.released ++ [(c, by_)] }

def setConn (i : LinkId) (o : Option TcpConn) : Tcp := { s with tcpconns := s.tcpconns.set i o }

def setServer (i : ServerId) (o : Option TcpServer) : Tcp := { s with tcpservers := s.tcpservers.set i o }

def setBlock (c : ℕ) (b : Espconn) : Tcp := { s with espconn := Function.update s.espconn c b }

def setState (c : ℕ) (st : EspconnState) : Tcp := s.setBlock c { s.espconn c with state := st }

def create (b : Espconn) : Tcp := { s.setBlock s.nextBlock b with nextBlock := s.nextBlock + 1 }

/-- The connections with block `c` changed. -/
def mapLink (c : ℕ) (f : Link → Link) : Tcp :=
  { s with plinkActive := s.plinkActive.map fun l => if l.pespconn = c then f l else l }

def addLink (l : Link) : Tcp := { s with plinkActive := s.plinkActive ++ [l] }

def dropLink (c : ℕ) : Tcp := { s with plinkActive := s.plinkActive.filter fun l => l.pespconn ≠ c }

/-- `espconn_find_connection`, for the block of a connection. -/
def findConnection (c : ℕ) : Option Link := s.plinkActive.find? fun l => l.pespconn = c

/-! ### Requests to the layer -/

/-- `espconn_copy_partial`: all fields that are modelled. -/
def copyPartial (dest source : ℕ) : Tcp := ((s.use dest).use source).setBlock dest (s.espconn source)

def espconnSetOpt (c : ℕ) (opt : UInt8) : Tcp := s.mapLink c fun l => { l with opt := l.opt ||| opt }

/-- `espconn_regist_time` for one connection. -/
def espconnRegistTime (c : ℕ) (interval : UInt32) : Bool × Tcp :=
  match s.findConnection c with
  | none => (false, s)
  | some _ => (true, s.mapLink c fun l => { l with timeout := interval })

/-- `espconn_set_keepalive` with `ESPCONN_KEEPIDLE`. -/
def espconnSetKeepalive (c : ℕ) (optarg : UInt32) : Tcp :=
  s.mapLink c fun l => if l.opt &&& 0x08 ≠ 0 ∧ l.pcb then { l with keepIdle := 1000 * optarg } else l

/-- `espconn_disconnect`: the completion is reported later. -/
def espconnDisconnect (c : ℕ) : Tcp :=
  let s := s.use c
  if (s.espconn c).tcp = false then s else
  match s.findConnection c with
  | none => s
  | some l =>
    -- protect for redisconnection
    if l.preverse = none ∧ (s.espconn c).state = .close then s
    else (s.mapLink c fun l => { l with closing := true }).setState c .close

/-- A connection is started, with what the layer returns. -/
def startConnection (c : ℕ) (pcb : Bool) (result : Int8) : Int8 × Tcp :=
  if result = 0 then (0, (s.setState c .wait).addLink (.new c none pcb false)) else (result, s)

def espconnConnect (c : ℕ) (result : Int8) : Int8 × Tcp := s.startConnection c true result

def espconnSecureConnect (c : ℕ) (result : Int8) : Int8 × Tcp := s.startConnection c false result

abbrev ESPCONN_ARG : Int8 := -12

/-- `espconn_send`, with what it returns if the connection can take the data. -/
def espconnSend (c : ℕ) (result : Int8) : Int8 × Tcp :=
  let s := s.use c
  match s.findConnection c with
  | none => (ESPCONN_ARG, s)
  | some l =>
    let s := s.setState c .write
    -- `write_flag` is set when the connection is established
    if l.established = false then (ESPCONN_ARG, s)
    else if result = 0 then (0, s.mapLink c fun l => { l with unacked := l.unacked + 1 })
    else (result, s)

/-- `espconn_accept`, with what it returns. -/
def espconnAccept (c : ℕ) (result : Int8) : Int8 × Tcp :=
  if result = 0 then (0, { s.setState c .listen with pserverList := s.pserverList ++ [c] }) else (result, s)

/-- The number of connections server block `c` has accepted. -/
def linkCnt (c : ℕ) : ℕ := s.plinkActive.countP fun l => l.preverse = some c

/-- `espconn_delete`: the listener goes only if no connection is left. -/
def espconnDelete (c : ℕ) : Tcp :=
  let s := (s.use c).setBlock c { s.espconn c with linkCnt := UInt8.ofNat (s.linkCnt c) }
  if s.linkCnt c ≠ 0 then s else { s with pserverList := s.pserverList.filter (· ≠ c) }

end

end Tcp

end Esp8266At
