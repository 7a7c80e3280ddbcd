import Esp8266At.Lib.Runs
import Esp8266At.Tcp.Command

/-!
# The network layer

What `espconn_tcp.c` does when the network reports something about a connection, and the runs of commands
and network events. For a connection that a server has accepted, the end of the connection is reported with
the block of the server, into which the block of the connection is copied before, and the layer releases the
block of the connection afterwards.
-/

namespace Esp8266At.Tcp

section
variable (s : Tcp)

/-! ### The layer -/

def espconnClientConnect (c : ℕ) : Tcp :=
  let s := (s.setState c .connect).mapLink c fun l => { l with established := true }
  match (s.espconn c).connectCallback with
  | some .tcpconn => s.tcpconnConnectcb c
  | some .tcpserverClient => s.tcpserverClientConnectcb c
  | none => s

/-- The part of `espconn_tcp_accept` about the new block. -/
def acceptLink (server : ℕ) (ip : Ip) (port : UInt16) : Tcp :=
  let c := s.nextBlock
  let s := (s.create .zero).addLink (.new c (some server) true true)
  let s := s.setBlock server { s.espconn server with remoteIp := ip, remotePort := port, state := .connect }
  s.copyPartial c server

/-- `espconn_tcp_accept` for server block `server` and a client at `ip` and `port`. -/
def espconnTcpAccept (server : ℕ) (ip : Ip) (port : UInt16) : Tcp :=
  let s := s.use server
  let s := s.setBlock server { s.espconn server with linkCnt := UInt8.ofNat (s.linkCnt server) }
  if s.linkCnt server = s.numTcpPcb then s else
  let c := s.nextBlock
  let s := s.acceptLink server ip port
  match (s.espconn c).connectCallback with
  | some .tcpconn => s.tcpconnConnectcb c
  | some .tcpserverClient => s.tcpserverClientConnectcb c
  | none => s

def espconnRecv (c : ℕ) (data : List UInt8) (host : List (Option UInt8)) : Tcp :=
  let s := s.use c
  if (s.espconn c).recvCallback = false then s else
  let s := (s.setState c .read).tcpconnRecvcb c data host
  -- switch the state of espconn for next packet copy
  match s.findConnection c with
  | none => s
  | some l => if l.closing then s else s.setState c .connect

/-- `espconn_tcp_finish` for one buffer. -/
def espconnTcpFinish (c : ℕ) : Tcp :=
  let s := s.use c
  let s := (s.mapLink c fun l => { l with unacked := l.unacked - 1 }).setState c .connect
  if (s.espconn c).sentCallback then s.tcpconnSendcb else s

/-- `espconn_tcp_memp_free`: in server mode the layer releases the block. -/
def espconnTcpMempFree (l : Link) : Tcp :=
  let s := s.dropLink l.pespconn
  if l.preverse = none then s else (s.use l.pespconn).release l.pespconn .espconnTcpMempFree

/-- The block with which the end of connection `l` is reported. -/
def reported (l : Link) : ℕ := l.preverse.getD l.pespconn

/-- The block of the server gets the contents of the connection's. -/
def copyToServer (l : Link) : Tcp :=
  match l.preverse with
  | none => s
  | some server => s.copyPartial server l.pespconn

/-- What comes before the report of the end of a connection. -/
def ended (l : Link) : Tcp := ((s.use l.pespconn).setState l.pespconn .close).copyToServer l

def espconnTcpReconnect (l : Link) : Tcp :=
  let s := s.ended l
  let s := if (s.espconn (reported l)).reconnectCallback then s.tcpconnReconcb (reported l) else s
  if s.crashed then s else s.espconnTcpMempFree l

def espconnTcpDisconnectSuccessful (l : Link) : Tcp :=
  let s := s.ended l
  let s := if (s.espconn (reported l)).disconnectCallback then s.tcpconnDisconcb (reported l) else s
  if s.crashed then s else s.espconnTcpMempFree l

end

/-! ### Runs -/

/-- An AT command, with what the layer returns to it and what the host sends while it runs. -/
inductive Command where
  | start (pPara : List UInt8) (lookup : LookupResult) (port : UInt16) (result : Int8)
  | server (pPara : List UInt8) (result : Int8)
  | close (pPara : List UInt8)
  | send (pPara : List UInt8) (host : List (Option UInt8)) (result : Int8)

/-- An event of the network layer. Connections are named by their blocks. -/
inductive Event where
  /-- A name lookup ends. -/
  | found (c : ℕ) (ip : Option Ip) (port : UInt16) (result : Int8)
  | connected (c : ℕ)
  | accepted (server : ℕ) (ip : Ip) (port : UInt16)
  | received (c : ℕ) (data : List UInt8) (host : List (Option UInt8))
  | sent (c : ℕ)
  /-- The connection ends with an error. -/
  | failed (c : ℕ)
  /-- The connection is closed, by either side. -/
  | closed (c : ℕ)

inductive Action where
  | command (c : Command)
  | event (e : Event)

section
variable (lib : LibAt) (s : Tcp)

def command : Command → Tcp
  | .start pPara lookup port result => s.atSetupCmdTCPConnConnect lib pPara lookup port result
  | .server pPara result => s.atSetupCmdTCPServer lib pPara result
  | .close pPara => s.atSetupCmdTCPClose lib pPara
  | .send pPara host result => s.atSetupCmdTCPSend lib pPara host result

/-- An event; nothing happens where the layer has nothing to report it for. -/
def event : Event → Tcp
  | .found c ip port result =>
    if c ∈ s.lookups then
      { s with lookups := s.lookups.filter (· ≠ c) }.tcpconnResolved c ip port result
    else s
  | .connected c =>
    match s.findConnection c with
    | some l => if l.preverse = none ∧ l.established = false ∧ l.closing = false then s.espconnClientConnect c else s
    | none => s
  | .accepted server ip port => if server ∈ s.pserverList then s.espconnTcpAccept server ip port else s
  | .received c data host =>
    match s.findConnection c with
    | some l => if l.established ∧ l.closing = false then s.espconnRecv c data host else s
    | none => s
  | .sent c =>
    match s.findConnection c with
    | some l => if l.established ∧ l.closing = false ∧ l.unacked > 0 then s.espconnTcpFinish c else s
    | none => s
  | .failed c =>
    match s.findConnection c with
    | some l => if l.closing = false then s.espconnTcpReconnect l else s
    | none => s
  | .closed c =>
    match s.findConnection c with
    | some l => if l.established ∨ l.closing then s.espconnTcpDisconnectSuccessful l else s
    | none => s

end

/-- One step. Commands are executed only outside the special state; nothing is after a crash. -/
def step (lib : LibAt) (a : Action) (s : Tcp) : Tcp :=
  if s.crashed then s else
  match a with
  | .command c => if s.busy then s else s.command lib c
  | .event e => s.event e

end Esp8266At.Tcp
