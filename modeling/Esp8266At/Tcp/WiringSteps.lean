import Esp8266At.Tcp.Wiring

/-!
# What commands and events do to the wiring

One equation or case distinction for each command and each event of the layer.
-/

namespace Esp8266At.Tcp

/-- The tag of a link opened by `AT+TCPSTART`. -/
def linkTag (i : LinkId) : UInt8 := TCPCONN_PARRENT_MASK ||| UInt8.ofNat (TCPCONN_MAX_SERV + i.val)

/-- The tag of a server and its clients. -/
def serverTag (k : ServerId) : UInt8 := TCPCONN_PARRENT_MASK ||| UInt8.ofNat k.val

theorem linkTag_injective : Function.Injective linkTag := by decide

@[simp] theorem serverOf_linkTag (i : LinkId) : serverOf (linkTag i) = none := by
  revert i
  decide

@[simp] theorem serverOf_serverTag (k : ServerId) : serverOf (serverTag k) = some k := by
  revert k
  decide

theorem linkTag_ne_serverTag (i : LinkId) (k : ServerId) : linkTag i ≠ serverTag k := by
  intro h
  have hserver := serverOf_serverTag k
  rw [← h, serverOf_linkTag] at hserver
  simp at hserver

namespace Wiring

variable (w : Wiring)

/-- Link `i` is opened, its name not yet looked up. -/
def openLink (i : LinkId) (port : UInt16) : Wiring :=
  (w.create ⟨linkTag i, (0, 0), none, false⟩).setSlot i (some ⟨linkTag i, (0, port), w.nextBlock⟩)

/-- Link `i` is opened and its name looked up; `connected` if `espconn_connect` then succeeds. -/
def start (i : LinkId) (port : UInt16) (lookup : LookupResult) (connected : Bool) : Wiring :=
  match lookup with
  | .ok ip => (w.openLink i port).resolve w.nextBlock (some ip) connected
  | .inprogress => (w.openLink i port).addLookup w.nextBlock
  | .failed => (w.openLink i port).setSlot i none

/-- Server `k` is created. -/
def openServer (k : ServerId) : Wiring :=
  (w.create ⟨serverTag k, (0, 0), some .tcpserverClient, false⟩).setServer k (some w.nextBlock)

/-- A client of server block `server` connects. -/
def accept (server : ℕ) (key : Ip × UInt16) : Wiring :=
  let d := { w.ident server with key := key }
  ((w.setIdent server d).create d).addLink w.nextBlock (some server)

/-- The end of a connection is copied into the block with which it is reported. -/
def report (c : ℕ) (preverse : Option ℕ) : Wiring :=
  match preverse with
  | none => w
  | some server => w.setIdent server (w.ident c)

/-- A connection ends; `handled` if a handler is called. -/
def endLink (c : ℕ) (preverse : Option ℕ) (handled : Bool) : Wiring :=
  let u := w.report c preverse
  (if handled then u.freeKey (w.ident c).key else u).dropLink c

end Wiring

variable (s : Tcp)

/-! ### Commands -/

@[simp] theorem wiring_lookup (c : ℕ) : { s with lookups := s.lookups ++ [c] }.wiring = s.wiring.addLookup c := rfl

theorem startParams_ok {lib : LibAt} {pPara : List UInt8} {tcpconns : Table TCPCONN_MAX_CONN TcpConn}
    {p : StartParams} (h : startParams lib pPara tcpconns = .ok p) : tcpconns p.connNo = none := by
  unfold startParams at h
  split at h
  · cases h
  · split at h
    · cases h
    · rename_i i rest _ hfree
      have hi : tcpconns i = none := by simpa using hfree
      have hno : p.connNo = i := by
        -- every other way out is an error
        simp only [ne_eq, ite_not] at h
        grind
      rw [hno, hi]

/-- The block and the entry of a link that is opened. -/
theorem wiring_openLink {p : StartParams} {t : TcpConn} (ht : t.slot = ⟨linkTag p.connNo, (0, p.port), s.nextBlock⟩) :
    ((s.create { Espconn.zero with parrent := (p.tcpconn s.nextBlock).parrent }).setConn p.connNo (some t)).wiring =
      s.wiring.openLink p.connNo p.port := by
  rw [wiring_setConn, wiring_create, Option.map_some, ht]
  rfl

theorem wiring_startLink {p : StartParams} (lookup : LookupResult) (port : UInt16) (result : Int8) :
    (s.startLink p lookup port result).wiring = s.wiring.start p.connNo p.port lookup (result = 0) := by
  unfold startLink Wiring.start
  cases lookup with
  | ok ip =>
    simp only [wiring_tcpconnResolved]
    rw [wiring_setConn_same _ (t := p.tcpconn s.nextBlock)]
    · rw [wiring_atEnterSpecialState, wiring_openLink s rfl]
      rfl
    · simp [atEnterSpecialState, setConn]
    · rfl
  | inprogress =>
    exact congrArg (fun w => Wiring.addLookup w s.nextBlock) (wiring_openLink s (t := p.tcpconn s.nextBlock) rfl)
  | failed =>
    simp only [wiring_responseError, wiring_print, wiring_atLeaveSpecialState]
    rw [wiring_tcpconnCleanup, wiring_atEnterSpecialState, wiring_openLink s rfl]
    simp [atEnterSpecialState, setConn]

/-- A link is opened and looked up, or there is an error. -/
theorem wiring_atSetupCmdTCPConnConnect (lib : LibAt) (pPara : List UInt8) (lookup : LookupResult) (port : UInt16)
    (result : Int8) :
    (s.atSetupCmdTCPConnConnect lib pPara lookup port result).wiring = s.wiring ∨
      ∃ p, startParams lib pPara s.tcpconns = .ok p ∧
        (s.atSetupCmdTCPConnConnect lib pPara lookup port result).wiring =
          s.wiring.start p.connNo p.port lookup (result = 0) := by
  unfold atSetupCmdTCPConnConnect
  cases hp : startParams lib pPara s.tcpconns with
  | error e => cases e <;> exact .inl rfl
  | ok p =>
    have hz := s.wiring_zallocs 3
    simp only
    split
    · rename_i u hu
      rw [hu] at hz
      exact .inl hz
    · rename_i u hu
      rw [hu] at hz
      refine .inr ⟨p, rfl, ?_⟩
      rw [wiring_startLink, hz]

theorem wiring_startServer (p : ServerParams) (result : Int8) :
    (s.startServer p result).wiring =
      if result = 0 then (s.wiring.openServer p.srvN).listen s.nextBlock else s.wiring.openServer p.srvN := by
  have hopen : ∀ (b : Espconn) (srv : TcpServer),
      b.ident = ⟨serverTag p.srvN, (0, 0), some .tcpserverClient, false⟩ → srv.conn = s.nextBlock →
      ((s.create b).setServer p.srvN (some srv)).wiring = s.wiring.openServer p.srvN := by
    intro b srv hb hsrv
    rw [wiring_setServer, wiring_create, Option.map_some, hb, hsrv]
    rfl
  simp only [startServer]
  split
  · rw [wiring_responseError, wiring_print, wiring_espconnAccept, hopen _ _ rfl rfl]
  · rw [wiring_responseOk, wiring_espconnAccept, hopen _ _ rfl rfl]

theorem wiring_tcpServerCreate (p : ServerParams) (result : Int8) :
    (s.tcpServerCreate p result).wiring = s.wiring ∨
      s.tcpservers p.srvN = none ∧
        ((s.tcpServerCreate p result).wiring = s.wiring.openServer p.srvN ∨
          (s.tcpServerCreate p result).wiring = (s.wiring.openServer p.srvN).listen s.nextBlock) := by
  unfold tcpServerCreate
  split
  · exact .inl rfl
  · rename_i hfree
    have hz := s.wiring_zallocs 3
    split
    · rename_i u hu
      rw [hu] at hz
      exact .inl hz
    · rename_i u hu
      rw [hu] at hz
      have hnext : u.nextBlock = s.nextBlock := congrArg Wiring.nextBlock hz
      refine .inr ⟨by simpa using hfree, ?_⟩
      rw [wiring_startServer, hz, hnext]
      split
      · exact .inr rfl
      · exact .inl rfl

@[simp] theorem wiring_closeClient (k : ServerId) (i : LinkId) : (s.closeClient k i).wiring = s.wiring := by
  unfold closeClient
  split
  · rfl
  · split
    · exact s.wiring_espconnDisconnect _
    · rfl

@[simp] theorem wiring_closeClients (k : ServerId) (is : List LinkId) :
    (is.foldl (fun s i => s.closeClient k i) s).wiring = s.wiring := by
  induction is generalizing s with
  | nil => rfl
  | cons i is ih => rw [List.foldl_cons, ih, wiring_closeClient]

theorem wiring_tcpServerDelete (k : ServerId) :
    (s.tcpServerDelete k).wiring = s.wiring ∨
      ∃ srv, s.tcpservers k = some srv ∧
        ((s.tcpServerDelete k).wiring = s.wiring.setServer k none ∨
          (s.tcpServerDelete k).wiring = (s.wiring.unlisten srv.conn).setServer k none) := by
  unfold tcpServerDelete
  cases hk : s.tcpservers k with
  | none => exact .inl rfl
  | some srv =>
    refine .inr ⟨srv, rfl, ?_⟩
    generalize hu : (List.finRange TCPCONN_MAX_CONN).foldl (fun s tcp_n => s.closeClient k tcp_n) s = u
    have hw : u.wiring = s.wiring := by rw [← hu, wiring_closeClients]
    simp only [wiring_responseOk, wiring_setServer, wiring_release, Option.map_none]
    rcases u.wiring_espconnDelete srv.conn with h | h
    · left
      rw [h, hw]
    · right
      rw [h, hw]

@[simp] theorem wiring_atSetupCmdTCPClose (lib : LibAt) (pPara : List UInt8) :
    (s.atSetupCmdTCPClose lib pPara).wiring = s.wiring := by
  unfold atSetupCmdTCPClose
  split
  · rfl
  · split
    · rfl
    · split <;> simp

@[simp] theorem wiring_requestGetInput (len : ℕ) (msg : String) (host : List (Option UInt8)) :
    (s.requestGetInput len msg host).2.wiring = s.wiring := by
  simp only [requestGetInput]
  split <;> rfl

@[simp] theorem wiring_sendBuffer (c : ℕ) (result : Int8) : (s.sendBuffer c result).wiring = s.wiring := by
  have hsend := s.wiring_espconnSend c result
  simp only [sendBuffer]
  split
  · rw [wiring_atLeaveSpecialState, wiring_espconnDisconnect, wiring_print, hsend]
  · exact hsend

@[simp] theorem wiring_atSetupCmdTCPSend (lib : LibAt) (pPara : List UInt8) (host : List (Option UInt8))
    (result : Int8) : (s.atSetupCmdTCPSend lib pPara host result).wiring = s.wiring := by
  unfold atSetupCmdTCPSend
  split
  · rfl
  · rename_i i len _
    split
    · rename_i u hu
      exact congrArg (fun x => x.2.wiring) hu.symm
    · rename_i u hu
      have hw : u.wiring = s.wiring := congrArg (fun x => x.2.wiring) hu.symm
      have hinput := u.atEnterSpecialState.wiring_requestGetInput len "+TCPSEND" host
      split
      · rename_i v hv
        rw [hv] at hinput
        exact hinput.trans hw
      · rename_i v hv
        rw [hv] at hinput
        have hv : v.wiring = s.wiring := hinput.trans hw
        split
        · exact hv
        · rw [wiring_sendBuffer, hv]

/-! ### Events -/

theorem wiring_espconnClientConnect (c : ℕ) (h : (s.espconn c).connectCallback ≠ some .tcpserverClient) :
    (s.espconnClientConnect c).wiring = s.wiring := by
  have hlink : ((s.setState c .connect).mapLink c fun l => { l with established := true }).wiring = s.wiring := by
    rw [wiring_mapLink, wiring_setState]
    exact fun _ => rfl
  have hcallback : (((s.setState c .connect).mapLink c fun l => { l with established := true }).espconn
      c).connectCallback = (s.espconn c).connectCallback := by
    simp [mapLink, setState, setBlock]
  simp only [espconnClientConnect, hcallback]
  split
  · rw [wiring_tcpconnConnectcb, hlink]
  · rename_i hc
    exact absurd hc h
  · exact hlink

theorem wiring_acceptLink {server : ℕ} (ip : Ip) (port : UInt16) (hserver : server ≠ s.nextBlock) :
    (s.acceptLink server ip port).wiring = s.wiring.accept server (ip, port) := by
  have hold : ((s.create .zero).addLink (.new s.nextBlock (some server) true true)).espconn server =
      s.espconn server := by
    simp [addLink, create, setBlock, hserver]
  have hident : ∀ d z : Ident, Function.update (Function.update (Function.update s.wiring.ident s.nextBlock z)
      server d) s.nextBlock d = Function.update (Function.update s.wiring.ident server d) s.nextBlock d := by
    intro d z
    rw [Function.update_comm hserver, Function.update_idem, Function.update_comm hserver]
  simp only [acceptLink, wiring_copyPartial, wiring_setBlock, wiring_addLink, wiring_create, hold]
  simp only [Wiring.accept, Wiring.setIdent, Wiring.create, Wiring.addLink, Function.update_self]
  exact congrArg (fun f => Wiring.mk s.wiring.slots s.wiring.servers f (s.nextBlock + 1)
    (s.wiring.links ++ [(s.nextBlock, some server)]) s.wiring.listening s.wiring.lookups)
    (hident { s.wiring.ident server with key := (ip, port) } Espconn.zero.ident)

theorem accept_ident (w : Wiring) (server : ℕ) (key : Ip × UInt16) :
    (w.accept server key).ident w.nextBlock = { w.ident server with key := key } := by
  simp [Wiring.accept, Wiring.addLink, Wiring.create, Wiring.setIdent]

/-- A client that connects is listed; if it is accepted it gets a free link. -/
theorem wiring_espconnTcpAccept {server : ℕ} (ip : Ip) (port : UInt16) (hserver : server ≠ s.nextBlock) :
    (s.espconnTcpAccept server ip port).wiring = s.wiring ∨
      (s.espconnTcpAccept server ip port).wiring = s.wiring.accept server (ip, port) ∨
      ∃ i k, s.wiring.slots i = none ∧ serverOf (s.wiring.ident server).parrent = some k ∧
        (s.espconnTcpAccept server ip port).wiring = (s.wiring.accept server (ip, port)).setSlot i
          (some ⟨(s.wiring.ident server).parrent, (ip, port), s.nextBlock⟩) := by
  simp only [espconnTcpAccept]
  generalize hu : (s.use server).setBlock server
    { (s.use server).espconn server with linkCnt := UInt8.ofNat ((s.use server).linkCnt server) } = u
  have hw : u.wiring = s.wiring := by
    rw [← hu]
    exact (s.use server).wiring_setBlock_same rfl
  have hnext : u.nextBlock = s.nextBlock := congrArg Wiring.nextBlock hw
  split
  · exact .inl hw
  · right
    have hlink : (u.acceptLink server ip port).wiring = s.wiring.accept server (ip, port) := by
      rw [wiring_acceptLink _ ip port (hnext ▸ hserver), hw]
    rw [hnext]
    split
    · rw [wiring_tcpconnConnectcb]
      exact .inl hlink
    · rcases (u.acceptLink server ip port).wiring_tcpserverClientConnectcb s.nextBlock with h | ⟨i, k, hi, hk, h⟩
      · exact .inl (h.trans hlink)
      · right
        rw [hlink] at hi hk h
        have hident := accept_ident s.wiring server (ip, port)
        refine ⟨i, k, hi, ?_, ?_⟩
        · rw [← hk]
          exact congrArg (fun d => serverOf d.parrent) hident.symm
        · rw [h]
          exact congrArg (fun d => (s.wiring.accept server (ip, port)).setSlot i
            (some ⟨d.parrent, d.key, s.nextBlock⟩)) hident
    · exact .inl hlink

@[simp] theorem wiring_espconnRecv (c : ℕ) (data : List UInt8) (host : List (Option UInt8)) :
    (s.espconnRecv c data host).wiring = s.wiring := by
  simp only [espconnRecv]
  split
  · rfl
  · split
    · simp
    · split <;> simp

@[simp] theorem wiring_espconnTcpFinish (c : ℕ) : (s.espconnTcpFinish c).wiring = s.wiring := by
  simp only [espconnTcpFinish]
  have hlink : ((s.use c).mapLink c fun l => { l with unacked := l.unacked - 1 }).wiring = s.wiring := by
    rw [wiring_mapLink, wiring_use]
    exact fun _ => rfl
  split
  · rw [wiring_tcpconnSendcb, wiring_setState, hlink]
  · rw [wiring_setState, hlink]

@[simp] theorem wiring_espconnTcpMempFree (l : Link) :
    (s.espconnTcpMempFree l).wiring = s.wiring.dropLink l.pespconn := by
  simp only [espconnTcpMempFree]
  split <;> simp

@[simp] theorem wiring_copyToServer (l : Link) :
    (s.copyToServer l).wiring = s.wiring.report l.pespconn l.preverse := by
  cases hpreverse : l.preverse with
  | none => simp only [copyToServer, Wiring.report, hpreverse]
  | some server => simp only [copyToServer, Wiring.report, hpreverse, wiring_copyPartial]

theorem wiring_ended (l : Link) : (s.ended l).wiring = s.wiring.report l.pespconn l.preverse := by
  rw [ended, wiring_copyToServer, wiring_setState, wiring_use]

theorem wiring_espconnTcpReconnect (l : Link) (h : (s.espconnTcpReconnect l).crashed = false) :
    (s.espconnTcpReconnect l).wiring =
      s.wiring.endLink l.pespconn l.preverse (s.espconn l.pespconn).reconnectCallback := by
  have hblock := s.espconn_reported l
  have hw := s.wiring_ended l
  simp only [espconnTcpReconnect] at h ⊢
  generalize s.ended l = u at h hblock hw ⊢
  simp only [hblock, Wiring.endLink] at h ⊢
  cases hr : (s.espconn l.pespconn).reconnectCallback with
  | false =>
    simp only [hr, Bool.false_eq_true, if_false] at h ⊢
    split
    · rename_i hc
      simp [hc] at h
    · rw [wiring_espconnTcpMempFree, hw]
  | true =>
    simp only [hr, if_true] at h ⊢
    split
    · rename_i hc
      simp [hc] at h
    · rw [wiring_espconnTcpMempFree, wiring_tcpconnReconcb, hw, hblock]
      rfl

theorem wiring_espconnTcpDisconnectSuccessful (l : Link) (h : (s.espconnTcpDisconnectSuccessful l).crashed = false) :
    (s.espconnTcpDisconnectSuccessful l).wiring =
      s.wiring.endLink l.pespconn l.preverse (s.espconn l.pespconn).disconnectCallback := by
  have hblock := s.espconn_reported l
  have hw := s.wiring_ended l
  simp only [espconnTcpDisconnectSuccessful] at h ⊢
  generalize s.ended l = u at h hblock hw ⊢
  simp only [hblock, Wiring.endLink] at h ⊢
  cases hr : (s.espconn l.pespconn).disconnectCallback with
  | false =>
    simp only [hr, Bool.false_eq_true, if_false] at h ⊢
    split
    · rename_i hc
      simp [hc] at h
    · rw [wiring_espconnTcpMempFree, hw]
  | true =>
    simp only [hr, if_true] at h ⊢
    split
    · rename_i hc
      simp [hc] at h
    · rename_i hc
      rw [wiring_espconnTcpMempFree, wiring_tcpconnDisconcb _ _ (by simpa using hc), hw, hblock]
      rfl

theorem wiring_espconnTcpDisconnectSuccessful_crashed (l : Link) (hs : s.crashed = false)
    (h : (s.espconnTcpDisconnectSuccessful l).crashed = true) :
    (s.espconnTcpDisconnectSuccessful l).wiring = s.wiring.report l.pespconn l.preverse := by
  have hended := s.ended_crashed l
  have hw := s.wiring_ended l
  simp only [espconnTcpDisconnectSuccessful] at h ⊢
  generalize s.ended l = u at h hended hw ⊢
  rw [hs] at hended
  rw [← hw]
  split
  · split
    · rename_i hr hc
      exact wiring_tcpconnDisconcb_crashed _ _ hc
    · rename_i hr hc
      simp [hr, hc, espconnTcpMempFree_crashed] at h
  · rename_i hr
    simp [hr, hended, espconnTcpMempFree_crashed] at h

end Esp8266At.Tcp
