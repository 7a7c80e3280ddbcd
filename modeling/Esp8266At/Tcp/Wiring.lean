import Esp8266At.Tcp.Frame

/-!
# Who has which block

What the tables and the layer know of the control blocks (`Tcp.wiring`): the blocks of the links, the servers
and the connections, and what a block is found by. Sending, receiving and closing leave it alone; a link is
opened, resolved, accepted and ended by the operations on `Wiring`.
-/

namespace Esp8266At.Tcp

/-- What a connection is found by, and the callbacks it is created with. -/
structure Ident where
  parrent : UInt8
  key : Ip × UInt16
  connectCallback : Option ConnectCallback
  reconnectCallback : Bool

def Espconn.ident (c : Espconn) : Ident := ⟨c.parrent, c.key, c.connectCallback, c.reconnectCallback⟩

/-- What a link of the table is found by, and its block. -/
structure Slot where
  parrent : UInt8
  key : Ip × UInt16
  conn : ℕ

def TcpConn.slot (t : TcpConn) : Slot := ⟨t.parrent, t.key, t.conn⟩

structure Wiring where
  slots : Table TCPCONN_MAX_CONN Slot
  servers : Table TCPCONN_MAX_SERV ℕ
  ident : ℕ → Ident
  nextBlock : ℕ
  /-- The connections with the blocks of the servers that accepted them. -/
  links : List (ℕ × Option ℕ)
  listening : List ℕ
  lookups : List ℕ

namespace Wiring

variable (w : Wiring)

def setSlot (i : LinkId) (o : Option Slot) : Wiring := { w with slots := w.slots.set i o }

def setServer (k : ServerId) (o : Option ℕ) : Wiring := { w with servers := w.servers.set k o }

def setIdent (c : ℕ) (d : Ident) : Wiring := { w with ident := Function.update w.ident c d }

def create (d : Ident) : Wiring := { w.setIdent w.nextBlock d with nextBlock := w.nextBlock + 1 }

def addLink (c : ℕ) (preverse : Option ℕ) : Wiring := { w with links := w.links ++ [(c, preverse)] }

def dropLink (c : ℕ) : Wiring := { w with links := w.links.filter fun x => x.1 ≠ c }

def addLookup (c : ℕ) : Wiring := { w with lookups := w.lookups ++ [c] }

def dropLookup (c : ℕ) : Wiring := { w with lookups := w.lookups.filter (· ≠ c) }

def listen (c : ℕ) : Wiring := { w with listening := w.listening ++ [c] }

def unlisten (c : ℕ) : Wiring := { w with listening := w.listening.filter (· ≠ c) }

/-- The connection with block `c` is listed. -/
def Live (c : ℕ) : Prop := ∃ p, (c, p) ∈ w.links

/-- The link with a key is cleared. -/
def freeKey (key : Ip × UInt16) : Wiring :=
  match w.slots.firstWhere fun t => t.key = key with
  | some i => w.setSlot i none
  | none => w

/-- A name lookup for block `c` has ended; `connected` if `espconn_connect` then succeeds. -/
def resolve (c : ℕ) (ip : Option Ip) (connected : Bool) : Wiring :=
  match w.slots.firstWhere fun t => t.parrent = (w.ident c).parrent, ip with
  | some i, some ip =>
    match w.slots i with
    | none => w
    | some t =>
      let w := (w.setIdent c ⟨(w.ident c).parrent, (ip, t.key.2), some .tcpconn, true⟩).setSlot i
        (some { t with key := (ip, t.key.2) })
      if connected then w.addLink c none else w
  | some i, none => w.setSlot i none
  | none, _ => w

end Wiring

@[simp] theorem Wiring.setIdent_self (w : Wiring) (c : ℕ) : w.setIdent c (w.ident c) = w := by
  simp [Wiring.setIdent]

/-- A connection with the server that accepted it. -/
def Link.wire (l : Link) : ℕ × Option ℕ := (l.pespconn, l.preverse)

variable (s : Tcp)

def wiring : Wiring where
  slots := s.tcpconns.map TcpConn.slot
  servers := s.tcpservers.map TcpServer.conn
  ident c := (s.espconn c).ident
  nextBlock := s.nextBlock
  links := s.plinkActive.map Link.wire
  listening := s.pserverList
  lookups := s.lookups

/-! ### The pieces of the state -/

@[simp] theorem wiring_print (t : String) : (s.print t).wiring = s.wiring := rfl

@[simp] theorem wiring_responseOk : s.responseOk.wiring = s.wiring := rfl

@[simp] theorem wiring_responseError : s.responseError.wiring = s.wiring := rfl

@[simp] theorem wiring_uart0TxBuffer (buf : List UInt8) : (s.uart0TxBuffer buf).wiring = s.wiring := rfl

@[simp] theorem wiring_atEnterSpecialState : s.atEnterSpecialState.wiring = s.wiring := rfl

@[simp] theorem wiring_atLeaveSpecialState : s.atLeaveSpecialState.wiring = s.wiring := rfl

@[simp] theorem wiring_crash : s.crash.wiring = s.wiring := rfl

@[simp] theorem wiring_zalloc : s.zalloc.2.wiring = s.wiring := rfl

@[simp] theorem wiring_zallocs (n : ℕ) : (s.zallocs n).2.wiring = s.wiring := by
  induction n with
  | zero => rfl
  | succ n ih =>
    simp only [zallocs]
    split
    · rename_i u hu
      rw [hu] at ih
      exact ih
    · exact ih

@[simp] theorem wiring_use (c : ℕ) : (s.use c).wiring = s.wiring := rfl

@[simp] theorem wiring_release (c : ℕ) (r : Releaser) : (s.release c r).wiring = s.wiring := rfl

@[simp] theorem wiring_setConn (i : LinkId) (o : Option TcpConn) :
    (s.setConn i o).wiring = s.wiring.setSlot i (o.map TcpConn.slot) := by
  simp [wiring, setConn, Wiring.setSlot]

@[simp] theorem wiring_setServer (k : ServerId) (o : Option TcpServer) :
    (s.setServer k o).wiring = s.wiring.setServer k (o.map TcpServer.conn) := by
  simp [wiring, setServer, Wiring.setServer]

@[simp] theorem wiring_setBlock (c : ℕ) (b : Espconn) : (s.setBlock c b).wiring = s.wiring.setIdent c b.ident := by
  have h : (fun x => (Function.update s.espconn c b x).ident) =
      Function.update (fun x => (s.espconn x).ident) c b.ident := by
    funext x
    exact Function.apply_update (fun _ => Espconn.ident) s.espconn c b x
  simp [wiring, setBlock, Wiring.setIdent, h]

/-- A block changed where it is not found by. -/
theorem wiring_setBlock_same {c : ℕ} {b : Espconn} (h : b.ident = (s.espconn c).ident) :
    (s.setBlock c b).wiring = s.wiring := by
  rw [wiring_setBlock, h]
  exact s.wiring.setIdent_self c

@[simp] theorem wiring_setState (c : ℕ) (st : EspconnState) : (s.setState c st).wiring = s.wiring :=
  s.wiring_setBlock_same rfl

@[simp] theorem wiring_create (b : Espconn) : (s.create b).wiring = s.wiring.create b.ident := by
  have h := congrArg Wiring.ident (s.wiring_setBlock s.nextBlock b)
  simp only [wiring, create, Wiring.create, Wiring.setIdent] at h ⊢
  exact congrArg (fun f => Wiring.mk _ _ f _ _ _ _) h

theorem wiring_mapLink {c : ℕ} {f : Link → Link} (hf : ∀ l, (f l).wire = l.wire) :
    (s.mapLink c f).wiring = s.wiring := by
  have h : (fun l => (if l.pespconn = c then f l else l).wire) = Link.wire := by
    funext l
    split
    · exact hf l
    · rfl
  simp [wiring, mapLink, Function.comp_def, h]

@[simp] theorem wiring_addLink (l : Link) : (s.addLink l).wiring = s.wiring.addLink l.pespconn l.preverse := by
  simp [wiring, addLink, Wiring.addLink, Link.wire]

@[simp] theorem wiring_dropLink (c : ℕ) : (s.dropLink c).wiring = s.wiring.dropLink c := by
  have h := List.filter_map (f := Link.wire) (p := fun x => decide (x.1 ≠ c)) (l := s.plinkActive)
  simp only [wiring, dropLink, Wiring.dropLink, h]
  rfl

/-! ### Requests to the layer -/

@[simp] theorem wiring_copyPartial (dest source : ℕ) :
    (s.copyPartial dest source).wiring = s.wiring.setIdent dest (s.wiring.ident source) := by
  unfold copyPartial
  rw [wiring_setBlock]
  rfl

@[simp] theorem wiring_espconnSetOpt (c : ℕ) (opt : UInt8) : (s.espconnSetOpt c opt).wiring = s.wiring :=
  s.wiring_mapLink fun _ => rfl

@[simp] theorem wiring_espconnRegistTime (c : ℕ) (interval : UInt32) :
    (s.espconnRegistTime c interval).2.wiring = s.wiring := by
  unfold espconnRegistTime
  split
  · rfl
  · exact s.wiring_mapLink fun _ => rfl

@[simp] theorem wiring_espconnSetKeepalive (c : ℕ) (optarg : UInt32) :
    (s.espconnSetKeepalive c optarg).wiring = s.wiring := by
  apply wiring_mapLink
  intro l
  split <;> rfl

@[simp] theorem wiring_espconnDisconnect (c : ℕ) : (s.espconnDisconnect c).wiring = s.wiring := by
  simp only [espconnDisconnect]
  split
  · rfl
  · split
    · rfl
    · split
      · rfl
      · rw [wiring_setState]
        exact (s.use c).wiring_mapLink fun _ => rfl

@[simp] theorem wiring_startConnection (c : ℕ) (pcb : Bool) (result : Int8) :
    (s.startConnection c pcb result).2.wiring = if result = 0 then s.wiring.addLink c none else s.wiring := by
  unfold startConnection
  split
  · simp [Link.new]
  · rfl

@[simp] theorem wiring_espconnSend (c : ℕ) (result : Int8) : (s.espconnSend c result).2.wiring = s.wiring := by
  simp only [espconnSend]
  split
  · rfl
  · split
    · simp
    · split
      · have h := ((s.use c).setState c .write).wiring_mapLink (c := c)
          (f := fun l => { l with unacked := l.unacked + 1 }) fun _ => rfl
        exact h.trans (wiring_setState _ c .write)
      · simp

@[simp] theorem wiring_espconnAccept (c : ℕ) (result : Int8) :
    (s.espconnAccept c result).2.wiring = if result = 0 then s.wiring.listen c else s.wiring := by
  unfold espconnAccept
  split
  · exact congrArg (fun w => Wiring.listen w c) (s.wiring_setState c .listen)
  · rfl

theorem wiring_espconnDelete (c : ℕ) :
    (s.espconnDelete c).wiring = s.wiring ∨ (s.espconnDelete c).wiring = s.wiring.unlisten c := by
  simp only [espconnDelete]
  split
  · left
    exact (s.use c).wiring_setBlock_same rfl
  · right
    have h := (s.use c).wiring_setBlock_same (c := c)
      (b := { s.espconn c with linkCnt := UInt8.ofNat (s.linkCnt c) }) rfl
    exact congrArg (fun w => Wiring.unlisten w c) h

/-! ### The handlers -/

theorem getTcpn_eq (key : Ip × UInt16) : s.getTcpn key = s.wiring.slots.firstWhere fun t => t.key = key :=
  (Table.firstWhere_map (t := s.tcpconns) (f := TcpConn.slot) (q := fun t => t.key = key)).symm

theorem wiring_tcpconnCleanup {i : LinkId} (h : (s.tcpconns i).isSome) :
    (s.tcpconnCleanup i).wiring = s.wiring.setSlot i none := by
  obtain ⟨t, ht⟩ := Option.isSome_iff_exists.mp h
  simp [tcpconnCleanup, ht]

@[simp] theorem wiring_tcpconnRegisterCb (c : ℕ) : (s.tcpconnRegisterCb c).wiring = s.wiring := by
  have h := (s.espconnSetOpt c 0x0F).wiring_setBlock_same (c := c)
    (b := { s.espconn c with disconnectCallback := true, recvCallback := true, sentCallback := true }) rfl
  exact h.trans (s.wiring_espconnSetOpt c 0x0F)

@[simp] theorem wiring_tcpconnSendcb : s.tcpconnSendcb.wiring = s.wiring := rfl

@[simp] theorem wiring_printNoLink (c : ℕ) (handler : String) :
    (s.printNoLink c handler).wiring = s.wiring := by
  simp only [printNoLink]
  split <;> rfl

theorem wiring_setServer_same {k : ServerId} {srv srv' : TcpServer} (h : s.tcpservers k = some srv)
    (hconn : srv'.conn = srv.conn) : (s.setServer k (some srv')).wiring = s.wiring := by
  have hset : s.wiring.servers.set k (some srv'.conn) = s.wiring.servers := by
    apply Table.set_of_eq
    simp [wiring, h, hconn]
  rw [wiring_setServer]
  exact congrArg (fun f => { s.wiring with servers := f }) hset

theorem wiring_setConn_same {i : LinkId} {t u : TcpConn} (h : s.tcpconns i = some t) (hslot : u.slot = t.slot) :
    (s.setConn i (some u)).wiring = s.wiring := by
  have hset : s.wiring.slots.set i (some u.slot) = s.wiring.slots := by
    apply Table.set_of_eq
    simp [wiring, h, hslot]
  rw [wiring_setConn]
  exact congrArg (fun f => { s.wiring with slots := f }) hset

@[simp] theorem wiring_leaveServer (parrent : UInt8) : (s.leaveServer parrent).wiring = s.wiring := by
  unfold leaveServer
  cases serverOf parrent with
  | none => rfl
  | some k =>
    cases hk : s.tcpservers k with
    | none => simp [hk]
    | some srv =>
      simp only [hk]
      split
      · exact s.wiring_setServer_same hk rfl
      · rfl

/-- The end of a connection clears the link with its key. -/
theorem wiring_linkClosed (c : ℕ) (key : Ip × UInt16) :
    (s.linkClosed c (s.getTcpn key)).wiring = s.wiring.freeKey key := by
  cases h : s.getTcpn key with
  | none =>
    rw [getTcpn_eq] at h
    simp [linkClosed, Wiring.freeKey, h]
  | some i =>
    obtain ⟨t, ht, -⟩ := s.getTcpn_some h
    have hi := Option.isSome_of_eq_some ht
    rw [getTcpn_eq] at h
    simp [linkClosed, Wiring.freeKey, h, wiring_tcpconnCleanup s hi]

theorem wiring_tcpconnDisconcb (c : ℕ) (h : (s.tcpconnDisconcb c).crashed = false) :
    (s.tcpconnDisconcb c).wiring = s.wiring.freeKey (s.espconn c).key := by
  rw [tcpconnDisconcb_eq] at h ⊢
  cases hu : ((s.use c).leaveServer (s.espconn c).parrent).crashed with
  | true => simp [hu] at h
  | false =>
    simp only [hu, Bool.false_eq_true, if_false]
    have hfind : s.getTcpn (s.espconn c).key =
        ((s.use c).leaveServer (s.espconn c).parrent).getTcpn (s.espconn c).key := by
      unfold getTcpn
      rw [leaveServer_tcpconns]
      rfl
    rw [hfind, wiring_linkClosed, wiring_leaveServer, wiring_use]

theorem wiring_tcpconnDisconcb_crashed (c : ℕ) (h : (s.tcpconnDisconcb c).crashed = true) :
    (s.tcpconnDisconcb c).wiring = s.wiring := by
  rw [tcpconnDisconcb_eq] at h ⊢
  cases hu : ((s.use c).leaveServer (s.espconn c).parrent).crashed with
  | true => simp [hu]
  | false => simp [hu, linkClosed_crashed] at h

/-- The end of a connection with an error clears the link with its key. -/
theorem wiring_tcpconnReconcb (c : ℕ) : (s.tcpconnReconcb c).wiring = s.wiring.freeKey (s.espconn c).key := by
  have hkey : (s.use c).getTcpn ((s.use c).espconn c).key = s.getTcpn (s.espconn c).key := rfl
  simp only [tcpconnReconcb, hkey]
  cases h : s.getTcpn (s.espconn c).key with
  | none =>
    rw [getTcpn_eq] at h
    simp [Wiring.freeKey, h]
  | some i =>
    obtain ⟨t, ht, -⟩ := s.getTcpn_some h
    have hi : (s.use c).atLeaveSpecialState.tcpconns i = some t := ht
    rw [getTcpn_eq] at h
    simp only [hi, Wiring.freeKey, h]
    split
    · exact wiring_tcpconnCleanup _ (Option.isSome_of_eq_some hi)
    · exact wiring_tcpconnCleanup _ (Option.isSome_of_eq_some hi)

theorem wiring_linkConnected {c : ℕ} {i : LinkId} {t : TcpConn} (h : s.tcpconns i = some t) :
    (s.linkConnected c i t).wiring = s.wiring := by
  have hconn : ∀ u : Tcp, u.tcpconns i = some t → u.wiring = s.wiring →
      (u.setConn i (some { t with connected := 1 })).wiring = s.wiring := by
    intro u hu hw
    exact (u.wiring_setConn_same (u := { t with connected := 1 }) hu rfl).trans hw
  simp only [linkConnected, wiring_responseOk, wiring_atLeaveSpecialState, wiring_print]
  split
  · apply hconn
    · exact h
    · simp
  · apply hconn
    · exact h
    · simp

@[simp] theorem wiring_tcpconnConnectcb (c : ℕ) : (s.tcpconnConnectcb c).wiring = s.wiring := by
  simp only [tcpconnConnectcb]
  split
  · split
    · rfl
    · rename_i ht
      exact wiring_linkConnected _ ht
  · rfl

@[simp] theorem wiring_recvRounds (i : LinkId) (srv_n : ℕ) (data : List UInt8) (rounds : ℕ)
    (host : List (Option UInt8)) (s : Tcp) : (recvRounds i srv_n data rounds host s).2.wiring = s.wiring := by
  induction rounds generalizing host s with
  | zero => rfl
  | succ rounds ih =>
    simp only [recvRounds]
    split
    · split
      · simp
      · rw [ih]
        simp
      · simp
    · simp

@[simp] theorem wiring_tcpconnRecvcb (c : ℕ) (data : List UInt8) (host : List (Option UInt8)) :
    (s.tcpconnRecvcb c data host).wiring = s.wiring := by
  simp only [tcpconnRecvcb]
  split
  · rfl
  · split
    · rename_i h
      have hw := congrArg (fun x => x.2.wiring) h
      simpa using hw.symm
    · rename_i u h
      have hw : u.wiring = s.wiring := by
        have hw := congrArg (fun x => x.2.wiring) h
        simpa using hw.symm
      split <;> simpa using hw

@[simp] theorem wiring_rejectClient (c : ℕ) (k : Option ServerId) : (s.rejectClient c k).wiring = s.wiring := by
  simp only [rejectClient]
  split
  · simp
  · split <;> simp

theorem wiring_acceptClient {c : ℕ} {k : ServerId} {srv : TcpServer} {i : LinkId}
    (h : s.tcpservers k = some srv) :
    (s.acceptClient c k srv i).wiring =
      s.wiring.setSlot i (some ⟨(s.wiring.ident c).parrent, (s.wiring.ident c).key, c⟩) := by
  obtain ⟨out, hout⟩ := s.acceptClient_eq c k srv i
  have hserver : ∀ u : Tcp, u.tcpservers k = some srv →
      { u.setServer k (some { srv with connected := srv.connected + 1 }) with out := out }.wiring = u.wiring :=
    fun u hu => u.wiring_setServer_same hu rfl
  have hlink := s.wiring_mapLink (c := c)
    (f := fun l => { l with timeout := srv.timeout.toUInt32 }) fun _ => rfl
  rw [hout]
  refine (hserver _ ?_).trans ?_
  · exact h
  · rw [wiring_tcpconnRegisterCb, wiring_setConn, hlink]
    rfl

/-- A client that is not accepted leaves everything as it is; an accepted one gets a free link. -/
theorem wiring_tcpserverClientConnectcb (c : ℕ) :
    (s.tcpserverClientConnectcb c).wiring = s.wiring ∨
      ∃ i k, s.wiring.slots i = none ∧ serverOf (s.wiring.ident c).parrent = some k ∧
        (s.tcpserverClientConnectcb c).wiring =
          s.wiring.setSlot i (some ⟨(s.wiring.ident c).parrent, (s.wiring.ident c).key, c⟩) := by
  simp only [tcpserverClientConnectcb]
  cases hk : serverOf ((s.use c).espconn c).parrent with
  | none => simp
  | some k =>
    cases hi : (s.use c).tcpconns.firstEmpty with
    | none => simp
    | some i =>
      have hnone : s.tcpconns i = none := Table.firstEmpty_some hi
      cases hsrv : (s.use c).tcpservers k with
      | none => simp [hsrv]
      | some srv =>
        simp only [hsrv]
        split
        · simp
        · split
          · rename_i u hz
            have hu : u = (s.use c).zalloc.2 := by rw [hz]
            simp [hu]
          · rename_i u hz
            have hu : u = (s.use c).zalloc.2 := by rw [hz]
            subst hu
            refine .inr ⟨i, k, by simp [wiring, hnone], hk, ?_⟩
            exact wiring_acceptClient _ hsrv

@[simp] theorem wiring_linkResolved (c : ℕ) (i : LinkId) (t : TcpConn) (ip : Ip) (port : UInt16) (result : Int8) :
    (s.linkResolved c i t ip port result).wiring =
      let w := (s.wiring.setIdent c ⟨(s.wiring.ident c).parrent, (ip, t.port), some .tcpconn, true⟩).setSlot i
        (some ⟨t.parrent, (ip, t.port), t.conn⟩)
      if result = 0 then w.addLink c none else w := by
  simp only [linkResolved, connect_eq, wiring_startConnection, wiring_setConn, wiring_setBlock]
  rfl

theorem wiring_tcpconnResolved (c : ℕ) (ip : Option Ip) (port : UInt16) (result : Int8) :
    (s.tcpconnResolved c ip port result).wiring = s.wiring.resolve c ip (result = 0) := by
  have hfind : (s.tcpconns.firstWhere fun t => t.parrent = (s.espconn c).parrent) =
      s.wiring.slots.firstWhere fun t => t.parrent = (s.wiring.ident c).parrent :=
    (Table.firstWhere_map (t := s.tcpconns) (f := TcpConn.slot)
      (q := fun t => t.parrent = (s.espconn c).parrent)).symm
  have huse : ((s.use c).tcpconns.firstWhere fun t => t.parrent = ((s.use c).espconn c).parrent) =
      s.tcpconns.firstWhere fun t => t.parrent = (s.espconn c).parrent := rfl
  simp only [tcpconnResolved, Wiring.resolve, ← hfind, huse]
  cases h : s.tcpconns.firstWhere fun t => t.parrent = (s.espconn c).parrent with
  | none => simp
  | some i =>
    obtain ⟨t, ht, -⟩ := Table.firstWhere_some h
    have hslot : s.wiring.slots i = some t.slot := by simp [wiring, ht]
    have hi : (s.use c).tcpconns i = some t := ht
    cases ip with
    | none => 
      simp [wiring_tcpconnCleanup _ (Option.isSome_of_eq_some hi)]
    | some ip =>
      simp only [hi, hslot, wiring_linkResolved]
      simp [TcpConn.slot, TcpConn.key]

end Esp8266At.Tcp
