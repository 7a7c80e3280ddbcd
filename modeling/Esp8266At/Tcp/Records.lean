import Esp8266At.Tcp.Blocks

/-!
# What the tables remember

What a command has stored of a link or a server stays as it is until the entry is cleared: handlers and events only
mark links as connected, give them their address and count the clients of servers (`Keeps`). New entries are those
of a link that is opened, a server that is created or a client that is accepted (`Step`).
-/

namespace Esp8266At.Tcp

/-- A link as it was opened. -/
def TcpConn.asOpened (t : TcpConn) : TcpConn := { t with connected := 0, remoteIp := 0, ip := 0 }

/-- A server as it was created. -/
def TcpServer.asCreated (srv : TcpServer) : TcpServer := { srv with connected := 0 }

/-- The entries of `s'` are entries of `s`. -/
structure Keeps (s s' : Tcp) : Prop where
  links : ∀ i u, s'.tcpconns i = some u → ∃ t, s.tcpconns i = some t ∧ u.asOpened = t.asOpened
  servers : ∀ k w, s'.tcpservers k = some w → ∃ v, s.tcpservers k = some v ∧ w.asCreated = v.asCreated
  blocks : s.nextBlock ≤ s'.nextBlock

variable {s s' s'' : Tcp}

namespace Keeps

theorem of_eq (hconns : s'.tcpconns = s.tcpconns) (hservers : s'.tcpservers = s.tcpservers)
    (hblocks : s.nextBlock ≤ s'.nextBlock) : Keeps s s' where
  links _ u hu := ⟨u, hconns ▸ hu, rfl⟩
  servers _ w hw := ⟨w, hservers ▸ hw, rfl⟩
  blocks := hblocks

theorem self (s : Tcp) : Keeps s s := of_eq rfl rfl le_rfl

theorem trans (h : Keeps s s') (h' : Keeps s' s'') : Keeps s s'' where
  links i u hu := by
    obtain ⟨t, ht, heq⟩ := h'.links i u hu
    obtain ⟨r, hr, heq'⟩ := h.links i t ht
    exact ⟨r, hr, heq.trans heq'⟩
  servers k w hw := by
    obtain ⟨v, hv, heq⟩ := h'.servers k w hw
    obtain ⟨r, hr, heq'⟩ := h.servers k v hv
    exact ⟨r, hr, heq.trans heq'⟩
  blocks := h.blocks.trans h'.blocks

/-- What comes before and leaves the tables alone. -/
theorem after (h : Keeps s' s'') (hconns : s'.tcpconns = s.tcpconns) (hservers : s'.tcpservers = s.tcpservers)
    (hblocks : s.nextBlock ≤ s'.nextBlock) : Keeps s s'' := (of_eq hconns hservers hblocks).trans h

/-- What comes afterwards and leaves the tables alone. -/
theorem before (h : Keeps s s') (hconns : s''.tcpconns = s'.tcpconns) (hservers : s''.tcpservers = s'.tcpservers)
    (hblocks : s'.nextBlock ≤ s''.nextBlock) : Keeps s s'' := h.trans (of_eq hconns hservers hblocks)

theorem setConn (i : LinkId) {o : Option TcpConn}
    (h : ∀ u, o = some u → ∃ t, s.tcpconns i = some t ∧ u.asOpened = t.asOpened) : Keeps s (s.setConn i o) where
  links j u hu := by
    by_cases hj : j = i
    · subst hj
      exact h u (Table.set_self.symm.trans hu)
    · exact ⟨u, (Table.set_ne hj).symm.trans hu, rfl⟩
  servers _ w hw := ⟨w, hw, rfl⟩
  blocks := le_rfl

theorem setServer (k : ServerId) {o : Option TcpServer}
    (h : ∀ w, o = some w → ∃ v, s.tcpservers k = some v ∧ w.asCreated = v.asCreated) : Keeps s (s.setServer k o) where
  links _ u hu := ⟨u, hu, rfl⟩
  servers j w hw := by
    by_cases hj : j = k
    · subst hj
      exact h w (Table.set_self.symm.trans hw)
    · exact ⟨w, (Table.set_ne hj).symm.trans hw, rfl⟩
  blocks := le_rfl

theorem clearConn (s : Tcp) (i : LinkId) : Keeps s (s.setConn i none) := setConn i (by rintro u ⟨⟩)

end Keeps

/-! ### Handlers -/

variable (s) in
theorem keeps_tcpconnCleanup (i : LinkId) : Keeps s (s.tcpconnCleanup i) := by
  unfold tcpconnCleanup
  cases s.tcpconns i with
  | none => exact .self s
  | some t => exact (Keeps.clearConn ((s.use t.conn).release t.conn .tcpconnCleanup) i).after rfl rfl le_rfl

variable (s) in
theorem keeps_printNoLink (c : ℕ) (handler : String) : Keeps s (s.printNoLink c handler) := by
  obtain ⟨out, h⟩ := s.printNoLink_eq c handler
  rw [h]
  exact .of_eq rfl rfl le_rfl

variable (s) in
theorem keeps_linkClosed (c : ℕ) (n : Option LinkId) : Keeps s (s.linkClosed c n) := by
  cases n with
  | none => exact keeps_printNoLink s c "disconn"
  | some i => exact (keeps_tcpconnCleanup s i).before rfl rfl le_rfl

variable (s) in
theorem keeps_tcpconnReconcb (c : ℕ) : Keeps s (s.tcpconnReconcb c) := by
  simp only [tcpconnReconcb]
  cases (s.use c).getTcpn ((s.use c).espconn c).key with
  | none => exact (keeps_printNoLink _ c "reconn").after rfl rfl le_rfl
  | some i =>
    cases ht : (s.use c).atLeaveSpecialState.tcpconns i with
    | none =>
      simp only [ht]
      exact .of_eq rfl rfl le_rfl
    | some t =>
      simp only [ht]
      split_ifs
      · exact (keeps_tcpconnCleanup (s.use c).atLeaveSpecialState.responseError i).after rfl rfl le_rfl
      · exact (keeps_tcpconnCleanup ((s.use c).atLeaveSpecialState.print s!"{i},CLOSED\r\n") i).after rfl rfl le_rfl

variable (s) in
theorem keeps_leaveServer (parrent : UInt8) : Keeps s (s.leaveServer parrent) := by
  obtain ⟨k, -, -, h⟩ | ⟨-, h⟩ | ⟨k, srv, -, hk, -, h⟩ := s.leaveServer_cases parrent
  · rw [h]
    exact .of_eq rfl rfl le_rfl
  · rw [h]
    exact .self s
  · rw [h]
    exact .setServer k fun w hw => ⟨srv, hk, by rw [← Option.some.inj hw]; rfl⟩

variable (s) in
theorem keeps_tcpconnDisconcb (c : ℕ) : Keeps s (s.tcpconnDisconcb c) := by
  have hleave : Keeps s ((s.use c).leaveServer (s.espconn c).parrent) :=
    (keeps_leaveServer (s.use c) (s.espconn c).parrent).after rfl rfl le_rfl
  rw [tcpconnDisconcb_eq]
  simp only
  split_ifs
  · exact hleave
  · exact hleave.trans (keeps_linkClosed _ c _)

/-- `linkConnected` and `linkResolved` set what they have found. -/
theorem Keeps.update {i : LinkId} {t u : TcpConn} (ht : s.tcpconns i = some t) (hu : u.asOpened = t.asOpened) :
    Keeps s (s.setConn i (some u)) :=
  .setConn i fun v hv => ⟨t, ht, by rw [← Option.some.inj hv]; exact hu⟩

variable (s) in
theorem keeps_linkConnected (c : ℕ) {i : LinkId} {t : TcpConn} (ht : s.tcpconns i = some t) :
    Keeps s (s.linkConnected c i t) := by
  simp only [linkConnected]
  split_ifs
  · have hset := Keeps.update (s := ((s.tcpconnRegisterCb c).use t.conn).espconnSetKeepalive t.conn t.keepaliveInt)
      (u := { t with connected := 1 }) ht rfl
    exact (hset.after (s := s) rfl rfl le_rfl).before rfl rfl le_rfl
  · have hset := Keeps.update (s := s.tcpconnRegisterCb c) (u := { t with connected := 1 }) ht rfl
    exact (hset.after (s := s) rfl rfl le_rfl).before rfl rfl le_rfl

variable (s) in
theorem keeps_tcpconnConnectcb (c : ℕ) : Keeps s (s.tcpconnConnectcb c) := by
  have huse : Keeps s (s.use c) := .of_eq rfl rfl le_rfl
  simp only [tcpconnConnectcb]
  cases (s.use c).getTcpn ((s.use c).espconn c).key with
  | none => exact huse.before rfl rfl le_rfl
  | some i =>
    cases ht : (s.use c).tcpconns i with
    | none =>
      simp only [ht]
      exact .of_eq rfl rfl le_rfl
    | some t =>
      simp only [ht]
      exact (keeps_linkConnected (s.use c) c ht).after rfl rfl le_rfl

variable (s) in
theorem keeps_startConnection (c : ℕ) (pcb : Bool) (result : Int8) : Keeps s (s.startConnection c pcb result).2 := by
  obtain ⟨espconn, plinkActive, h⟩ := s.startConnection_eq c pcb result
  rw [h]
  exact .of_eq rfl rfl le_rfl

variable (s) in
theorem keeps_tcpconnResolved (c : ℕ) (ip : Option Ip) (port : UInt16) (result : Int8) :
    Keeps s (s.tcpconnResolved c ip port result) := by
  have hfail : ∀ (u : Tcp) (m : String), Keeps s u → Keeps s ((u.atLeaveSpecialState.print m).responseError) :=
    fun u m h => h.before rfl rfl le_rfl
  have huse : Keeps s (s.use c) := .of_eq rfl rfl le_rfl
  simp only [tcpconnResolved]
  cases (s.use c).tcpconns.firstWhere fun t => t.parrent = ((s.use c).espconn c).parrent with
  | none => cases ip <;> exact hfail _ _ huse
  | some i =>
    cases ip with
    | none => exact hfail _ _ (huse.trans (keeps_tcpconnCleanup _ i))
    | some ip =>
      cases ht : (s.use c).tcpconns i with
      | none =>
        simp only [ht]
        exact huse
      | some t =>
        simp only [ht, linkResolved, connect_eq]
        refine Keeps.trans ?_ (keeps_startConnection _ c _ result)
        have hset := Keeps.update (s := s) (u := { t with remoteIp := ip, connected := 0 }) ht rfl
        exact hset.before rfl rfl le_rfl

/-! ### Commands and events that open nothing -/

variable (s) in
theorem keeps_ended (l : Link) : Keeps s (s.ended l) := by
  obtain ⟨misused, espconn, h⟩ := s.ended_eq l
  rw [h]
  exact .of_eq rfl rfl le_rfl

variable (s) in
theorem keeps_espconnTcpMempFree (l : Link) : Keeps s (s.espconnTcpMempFree l) := by
  obtain ⟨misused, released, h⟩ := s.espconnTcpMempFree_eq l
  rw [h]
  exact .of_eq rfl rfl le_rfl

variable (s) in
theorem keeps_espconnTcpReconnect (l : Link) : Keeps s (s.espconnTcpReconnect l) := by
  have hended := keeps_ended s l
  have hrecon := hended.trans (keeps_tcpconnReconcb _ (reported l))
  unfold espconnTcpReconnect
  simp only
  split_ifs
  · exact hrecon
  · exact hrecon.trans (keeps_espconnTcpMempFree _ l)
  · exact hended
  · exact hended.trans (keeps_espconnTcpMempFree _ l)

variable (s) in
theorem keeps_espconnTcpDisconnectSuccessful (l : Link) : Keeps s (s.espconnTcpDisconnectSuccessful l) := by
  have hended := keeps_ended s l
  have hclose := hended.trans (keeps_tcpconnDisconcb _ (reported l))
  unfold espconnTcpDisconnectSuccessful
  simp only
  split_ifs
  · exact hclose
  · exact hclose.trans (keeps_espconnTcpMempFree _ l)
  · exact hended
  · exact hended.trans (keeps_espconnTcpMempFree _ l)

variable (s) in
theorem keeps_espconnRecv (c : ℕ) (data : List UInt8) (host : List (Option UInt8)) :
    Keeps s (s.espconnRecv c data host) := by
  obtain ⟨misused, espconn, plinkActive, busy, out, h⟩ := s.espconnRecv_eq c data host
  rw [h]
  exact .of_eq rfl rfl le_rfl

variable (s) in
theorem keeps_espconnTcpFinish (c : ℕ) : Keeps s (s.espconnTcpFinish c) := by
  obtain ⟨misused, espconn, plinkActive, busy, out, h⟩ := s.espconnTcpFinish_eq c
  rw [h]
  exact .of_eq rfl rfl le_rfl

variable (s) in
theorem keeps_atSetupCmdTCPClose (lib : LibAt) (pPara : List UInt8) : Keeps s (s.atSetupCmdTCPClose lib pPara) := by
  obtain ⟨misused, espconn, plinkActive, out, h⟩ := s.atSetupCmdTCPClose_eq lib pPara
  rw [h]
  exact .of_eq rfl rfl le_rfl

variable (s) in
theorem keeps_atSetupCmdTCPSend (lib : LibAt) (pPara : List UInt8) (host : List (Option UInt8)) (result : Int8) :
    Keeps s (s.atSetupCmdTCPSend lib pPara host result) := by
  obtain ⟨misused, espconn, plinkActive, busy, out, heap, h⟩ := s.atSetupCmdTCPSend_eq lib pPara host result
  rw [h]
  exact .of_eq rfl rfl le_rfl

variable (s) in
theorem keeps_espconnDelete (c : ℕ) : Keeps s (s.espconnDelete c) := by
  simp only [espconnDelete]
  split_ifs <;> exact .of_eq rfl rfl le_rfl

variable (s) in
theorem keeps_tcpServerDelete (k : ServerId) : Keeps s (s.tcpServerDelete k) := by
  unfold tcpServerDelete
  cases s.tcpservers k with
  | none => exact .of_eq rfl rfl le_rfl
  | some srv =>
    obtain ⟨misused, espconn, plinkActive, h⟩ := s.closeClients_eq k (List.finRange TCPCONN_MAX_CONN)
    simp only [h]
    set u : Tcp := { s with misused := misused, espconn := espconn, plinkActive := plinkActive }
    have hdelete : Keeps s (u.espconnDelete srv.conn) := (keeps_espconnDelete u srv.conn).after rfl rfl le_rfl
    have hrelease : Keeps s ((u.espconnDelete srv.conn).release srv.conn .tcpServerDelete) := hdelete.before rfl rfl le_rfl
    exact (hrelease.trans (.setServer k (by rintro w ⟨⟩))).before rfl rfl le_rfl

/-! ### Steps -/

/-- What a step may do: keep the entries, or add one. -/
inductive Adds (s s' : Tcp) : Prop
  | nothing (h : Keeps s s')
  | link (i : LinkId) (t : TcpConn) (hfree : s.tcpconns i = none) (htag : serverOf t.parrent = none)
      (hconn : t.conn = s.nextBlock) (hblock : s.nextBlock < s'.nextBlock) (h : Keeps (s.setConn i (some t)) s')
  | server (k : ServerId) (srv : TcpServer) (hfree : s.tcpservers k = none) (hconn : srv.conn = s.nextBlock)
      (hblock : s.nextBlock < s'.nextBlock) (h : Keeps (s.setServer k (some srv)) s')
  | client (i : LinkId) (t : TcpConn) (k : ServerId) (srv : TcpServer) (hfree : s.tcpconns i = none)
      (hk : serverOf t.parrent = some k) (hsrv : s.tcpservers k = some srv) (hconn : t.conn = s.nextBlock)
      (hblock : s.nextBlock < s'.nextBlock)
      (htime : ∀ l, s'.findConnection t.conn = some l → l.timeout = srv.timeout.toUInt32)
      (hfind : (s'.findConnection t.conn).isSome) (h : Keeps (s.setConn i (some t)) s')

variable (s) in
theorem keeps_startLink (p : StartParams) (lookup : LookupResult) (port : UInt16) (result : Int8) :
    Keeps ((s.create { Espconn.zero with parrent := (p.tcpconn s.nextBlock).parrent }).setConn p.connNo
      (some (p.tcpconn s.nextBlock))) (s.startLink p lookup port result) := by
  unfold startLink
  simp only
  generalize hu : (s.create { Espconn.zero with parrent := (p.tcpconn s.nextBlock).parrent }).setConn p.connNo
    (some (p.tcpconn s.nextBlock)) = u
  have hentry : u.tcpconns p.connNo = some (p.tcpconn s.nextBlock) := by
    rw [← hu]
    exact Table.set_self
  cases lookup with
  | ok ip =>
    have hset : Keeps u (u.setConn p.connNo (some { p.tcpconn s.nextBlock with ip := ip })) :=
      Keeps.update hentry rfl
    have henter : Keeps u (u.atEnterSpecialState.setConn p.connNo (some { p.tcpconn s.nextBlock with ip := ip })) :=
      hset.before rfl rfl le_rfl
    exact henter.trans (keeps_tcpconnResolved _ s.nextBlock ip port result)
  | inprogress => exact .of_eq rfl rfl le_rfl
  | failed =>
    have hclean : Keeps u (u.atEnterSpecialState.tcpconnCleanup p.connNo) :=
      (keeps_tcpconnCleanup u.atEnterSpecialState p.connNo).after rfl rfl le_rfl
    exact hclean.before rfl rfl le_rfl

/-- `AT+TCPSTART`. -/
theorem adds_start (lib : LibAt) (pPara : List UInt8) (lookup : LookupResult) (port : UInt16) (result : Int8) :
    Adds s (s.atSetupCmdTCPConnConnect lib pPara lookup port result) := by
  unfold atSetupCmdTCPConnConnect
  cases hp : startParams lib pPara s.tcpconns with
  | error e => cases e <;> exact .nothing (.of_eq rfl rfl le_rfl)
  | ok p =>
    obtain ⟨heap, hheap⟩ := s.zallocs_eq 3
    simp only
    generalize s.zallocs 3 = r at hheap
    obtain ⟨ok, u⟩ := r
    simp only at hheap
    subst hheap
    cases ok with
    | false => exact .nothing (.of_eq rfl rfl le_rfl)
    | true =>
      have hkeeps := keeps_startLink { s with heap := heap } p lookup port result
      exact .link p.connNo (p.tcpconn s.nextBlock) (startParams_ok hp) (serverOf_linkTag p.connNo) rfl
        (Nat.lt_of_succ_le hkeeps.blocks) (hkeeps.after rfl rfl (Nat.le_succ _))

/-- The server `at_setupCmdTCPServer` creates. -/
def ServerParams.tcpserver (p : ServerParams) (conn : ℕ) : TcpServer := ⟨p.ssl, 0, p.maxconn, p.port, p.timeout, conn⟩

variable (s) in
theorem startServer_tables (p : ServerParams) (result : Int8) :
    (s.startServer p result).tcpconns = s.tcpconns ∧
      (s.startServer p result).tcpservers = s.tcpservers.set p.srvN (some (p.tcpserver s.nextBlock)) ∧
      (s.startServer p result).nextBlock = s.nextBlock + 1 := by
  simp only [startServer, espconnAccept]
  split_ifs <;> exact ⟨rfl, rfl, rfl⟩

/-- `AT+TCPSERVER`. -/
theorem adds_server (lib : LibAt) (pPara : List UInt8) (result : Int8) :
    Adds s (s.atSetupCmdTCPServer lib pPara result) := by
  unfold atSetupCmdTCPServer
  cases serverParams lib pPara with
  | none => exact .nothing (.of_eq rfl rfl le_rfl)
  | some p =>
    simp only
    split_ifs
    · unfold tcpServerCreate
      cases hk : s.tcpservers p.srvN with
      | some srv => exact .nothing (.of_eq rfl rfl le_rfl)
      | none =>
        obtain ⟨heap, hheap⟩ := s.zallocs_eq 3
        rw [if_neg (by simp)]
        generalize s.zallocs 3 = r at hheap
        obtain ⟨ok, u⟩ := r
        simp only at hheap
        subst hheap
        cases ok with
        | false => exact .nothing (.of_eq rfl rfl le_rfl)
        | true =>
          obtain ⟨hconns, hservers, hnext⟩ := startServer_tables { s with heap := heap } p result
          exact .server p.srvN (p.tcpserver s.nextBlock) hk rfl (by simp only [hnext]; omega)
            (.of_eq hconns hservers (by simp only [hnext]; exact Nat.le_succ _))
    · exact .nothing (keeps_tcpServerDelete s p.srvN)

theorem findConnection_mapLink (s : Tcp) (c : ℕ) {f : Link → Link} (hf : ∀ l, (f l).pespconn = l.pespconn) :
    (s.mapLink c f).findConnection c = (s.findConnection c).map f := by
  have hsame : (fun l => decide (l.pespconn = c)) ∘ (fun l => if l.pespconn = c then f l else l) =
      fun l => decide (l.pespconn = c) := by
    funext l
    by_cases hl : l.pespconn = c
    · simp [hl, hf]
    · simp [hl]
  unfold findConnection mapLink
  simp only [List.find?_map, hsame]
  cases hfind : s.plinkActive.find? fun l => l.pespconn = c with
  | none => rfl
  | some l =>
    have hl : l.pespconn = c := by simpa using List.find?_some hfind
    simp [hl]

/-- An accepted client. -/
theorem adds_acceptClient {c : ℕ} {k : ServerId} {srv : TcpServer} (i : LinkId)
    (hk : serverOf (s.espconn c).parrent = some k) (hsrv : s.tcpservers k = some srv) :
    ∃ t, t.conn = c ∧ serverOf t.parrent = some k ∧ Keeps (s.setConn i (some t)) (s.acceptClient c k srv i) ∧
      (s.acceptClient c k srv i).nextBlock = s.nextBlock ∧
      (s.acceptClient c k srv i).findConnection c =
        (s.findConnection c).map fun l => { l with timeout := srv.timeout.toUInt32, opt := l.opt ||| 0x0F } := by
  obtain ⟨out, h⟩ := s.acceptClient_eq c k srv i
  set t : TcpConn := ⟨(s.espconn c).parrent, srv.ssl, 1, 0, (s.espconn c).remotePort, 0, (s.espconn c).remoteIp, c,
    (s.espconn c).remoteIp⟩
  set u := ((s.mapLink c fun l => { l with timeout := srv.timeout.toUInt32 }).setConn i (some t)).tcpconnRegisterCb c
  rw [h]
  refine ⟨t, rfl, hk, ?_, rfl, ?_⟩
  · have hserver : Keeps u (u.setServer k (some { srv with connected := srv.connected + 1 })) :=
      .setServer k fun w hw => ⟨srv, hsrv, by rw [← Option.some.inj hw]; rfl⟩
    exact (hserver.after (s := s.setConn i (some t)) rfl rfl le_rfl).before rfl rfl le_rfl
  · have hmap := findConnection_mapLink (s.mapLink c fun l => { l with timeout := srv.timeout.toUInt32 }) c
      (f := fun l => { l with opt := l.opt ||| 0x0F }) (fun _ => rfl)
    rw [findConnection_mapLink s c (f := fun l => { l with timeout := srv.timeout.toUInt32 }) (fun _ => rfl),
      Option.map_map] at hmap
    exact hmap

variable (s) in
theorem keeps_espconnDisconnect (c : ℕ) : Keeps s (s.espconnDisconnect c) := by
  obtain ⟨misused, espconn, plinkActive, h⟩ := s.espconnDisconnect_eq c
  rw [h]
  exact .of_eq rfl rfl le_rfl

/-- The connect callback of servers, for a block that was the next one of `s`. -/
theorem adds_clientConnect {v : Tcp} (hkeep : Keeps s v) (hconns : v.tcpconns = s.tcpconns)
    (hservers : v.tcpservers = s.tcpservers) (hblock : s.nextBlock < v.nextBlock)
    (hfind : (v.findConnection s.nextBlock).isSome) : Adds s (v.tcpserverClientConnectcb s.nextBlock) := by
  cases hk : serverOf (v.espconn s.nextBlock).parrent with
  | none =>
    have hreject : v.tcpserverClientConnectcb s.nextBlock = (v.use s.nextBlock).rejectClient s.nextBlock none := by
      have huse : serverOf ((v.use s.nextBlock).espconn s.nextBlock).parrent = none := hk
      simp only [tcpserverClientConnectcb, huse]
    have huse : Keeps s (v.use s.nextBlock) := hkeep.before rfl rfl le_rfl
    rw [hreject]
    exact .nothing ((huse.trans (keeps_espconnDisconnect _ s.nextBlock)).before rfl rfl le_rfl)
  | some k =>
    obtain ⟨-, hcrash⟩ | ⟨srv, hsrv, ⟨heap, out, hreject⟩ | ⟨i, heap, hfree, -, haccept⟩⟩ :=
      v.tcpserverClientConnectcb_cases hk
    · rw [hcrash]
      exact .nothing (hkeep.before rfl rfl le_rfl)
    · rw [hreject]
      have huse : Keeps s { v.use s.nextBlock with heap := heap } := hkeep.before rfl rfl le_rfl
      exact .nothing ((huse.trans (keeps_espconnDisconnect _ s.nextBlock)).before rfl rfl le_rfl)
    · rw [haccept]
      obtain ⟨t, hconn, htag, hkeeps, hnext, htime⟩ :=
        adds_acceptClient (s := { v.use s.nextBlock with heap := heap }) (c := s.nextBlock) i hk hsrv
      obtain ⟨l, hl⟩ := Option.isSome_iff_exists.mp hfind
      have hfound : findConnection { v.use s.nextBlock with heap := heap } s.nextBlock = some l := hl
      rw [hfound, Option.map_some] at htime
      refine .client i t k srv (hconns ▸ hfree) htag (hservers ▸ hsrv) hconn (by rw [hnext]; exact hblock) ?_ ?_ ?_
      · rw [hconn, htime]
        rintro l' heq
        rw [← Option.some.inj heq]
      · rw [hconn, htime]
        rfl
      · refine hkeeps.after ?_ ?_ hblock.le
        · show v.tcpconns.set i _ = s.tcpconns.set i _
          rw [hconns]
        · exact hservers

/-- A client that connects to a server of the layer. -/
theorem adds_accept {role : ℕ → Role} (hb : s.wiring.Blocks role) {server : ℕ} (ip : Ip) (port : UInt16)
    (hserver : server ∈ s.pserverList) : Adds s (s.espconnTcpAccept server ip port) := by
  have hlt := (hb.listening server hserver).1
  simp only [espconnTcpAccept]
  generalize hu : (s.use server).setBlock server
    { (s.use server).espconn server with linkCnt := UInt8.ofNat ((s.use server).linkCnt server) } = u
  have htables : u.tcpconns = s.tcpconns ∧ u.tcpservers = s.tcpservers ∧ u.nextBlock = s.nextBlock := by
    rw [← hu]
    exact ⟨rfl, rfl, rfl⟩
  obtain ⟨hconns, hservers, hnext⟩ := htables
  have hkeep : Keeps s u := .of_eq hconns hservers hnext.ge
  split_ifs
  · exact .nothing hkeep
  · rw [hnext]
    obtain ⟨misused, espconn, haccept⟩ := u.acceptLink_eq server ip port
    have hblock : (u.acceptLink server ip port).nextBlock = s.nextBlock + 1 := by rw [haccept, hnext]
    have hlink : Keeps s (u.acceptLink server ip port) := by
      rw [haccept]
      exact hkeep.before rfl rfl (Nat.le_succ _)
    have hfind : ((u.acceptLink server ip port).findConnection s.nextBlock).isSome := by
      rw [haccept, findConnection, List.find?_isSome]
      exact ⟨_, List.mem_append_right _ (List.mem_singleton_self _), by simp [Link.new, hnext]⟩
    have hvconns : (u.acceptLink server ip port).tcpconns = s.tcpconns := by rw [haccept, ← hconns]
    have hvservers : (u.acceptLink server ip port).tcpservers = s.tcpservers := by rw [haccept, ← hservers]
    generalize u.acceptLink server ip port = v at hblock hlink hfind hvconns hvservers ⊢
    cases (v.espconn s.nextBlock).connectCallback with
    | none => exact .nothing hlink
    | some callback =>
      cases callback with
      | tcpconn => exact .nothing (hlink.trans (keeps_tcpconnConnectcb v s.nextBlock))
      | tcpserverClient => exact adds_clientConnect hlink hvconns hvservers (by omega) hfind

/-- One step keeps the entries, or adds one. -/
theorem adds_step (lib : LibAt) {role : ℕ → Role} (hb : s.wiring.Blocks role) (a : Action) : Adds s (s.step lib a) := by
  unfold step
  by_cases hcrash : s.crashed = true
  · rw [if_pos hcrash]
    exact .nothing (.self s)
  rw [if_neg hcrash]
  cases a with
  | command c =>
    simp only
    by_cases hbusy : s.busy = true
    · rw [if_pos hbusy]
      exact .nothing (.self s)
    rw [if_neg hbusy]
    cases c with
    | start pPara lookup port result => exact adds_start lib pPara lookup port result
    | server pPara result => exact adds_server lib pPara result
    | close pPara => exact .nothing (keeps_atSetupCmdTCPClose s lib pPara)
    | send pPara host result => exact .nothing (keeps_atSetupCmdTCPSend s lib pPara host result)
  | event e =>
    cases e with
    | found c ip port result =>
      simp only [event]
      split_ifs
      · exact .nothing ((keeps_tcpconnResolved { s with lookups := s.lookups.filter (· ≠ c) } c ip port result).after rfl
          rfl le_rfl)
      · exact .nothing (.self s)
    | connected c =>
      simp only [event]
      cases hl : s.findConnection c with
      | none => exact .nothing (.self s)
      | some l =>
        simp only
        split_ifs with hready
        · have hcall := connectCallback_of_outgoing hb hl hready.1
          have hcall' : (((s.setState c .connect).mapLink c fun l => { l with established := true }).espconn
              c).connectCallback = some .tcpconn := by
            rw [← hcall]
            simp [mapLink, setState, setBlock]
          simp only [espconnClientConnect, hcall']
          exact .nothing ((keeps_tcpconnConnectcb _ c).after rfl rfl le_rfl)
        · exact .nothing (.self s)
    | accepted server ip port =>
      simp only [event]
      split_ifs with hserver
      · exact adds_accept hb ip port hserver
      · exact .nothing (.self s)
    | received c data host =>
      simp only [event]
      cases s.findConnection c with
      | none => exact .nothing (.self s)
      | some l =>
        simp only
        split_ifs
        · exact .nothing (keeps_espconnRecv s c data host)
        · exact .nothing (.self s)
    | sent c =>
      simp only [event]
      cases s.findConnection c with
      | none => exact .nothing (.self s)
      | some l =>
        simp only
        split_ifs
        · exact .nothing (keeps_espconnTcpFinish s c)
        · exact .nothing (.self s)
    | failed c =>
      simp only [event]
      cases s.findConnection c with
      | none => exact .nothing (.self s)
      | some l =>
        simp only
        split_ifs
        · exact .nothing (keeps_espconnTcpReconnect s l)
        · exact .nothing (.self s)
    | closed c =>
      simp only [event]
      cases s.findConnection c with
      | none => exact .nothing (.self s)
      | some l =>
        simp only
        split_ifs
        · exact .nothing (keeps_espconnTcpDisconnectSuccessful s l)
        · exact .nothing (.self s)

theorem nextBlock_step (lib : LibAt) {role : ℕ → Role} (hb : s.wiring.Blocks role) (a : Action) :
    s.nextBlock ≤ (s.step lib a).nextBlock := by
  obtain hkeep | ⟨j, v, -, -, -, -, hkeep⟩ | ⟨k, srv, -, -, -, hkeep⟩ | ⟨j, v, -, -, -, -, -, -, -, -, -, hkeep⟩ :=
    adds_step lib hb a
  · exact hkeep.blocks
  · exact hkeep.blocks
  · exact hkeep.blocks
  · exact hkeep.blocks

/-- A link was there before, or its block is new. -/
theorem entry_step (lib : LibAt) {role : ℕ → Role} (hb : s.wiring.Blocks role) (a : Action) {i : LinkId} {t : TcpConn}
    (ht : (s.step lib a).tcpconns i = some t) :
    (∃ u, s.tcpconns i = some u ∧ t.asOpened = u.asOpened) ∨ t.conn = s.nextBlock := by
  have added : ∀ {j : LinkId} {v : TcpConn}, v.conn = s.nextBlock → Keeps (s.setConn j (some v)) (s.step lib a) →
      (∃ u, s.tcpconns i = some u ∧ t.asOpened = u.asOpened) ∨ t.conn = s.nextBlock := by
    intro j v hconn hkeep
    obtain ⟨u, hu, heq⟩ := hkeep.links i t ht
    have hset : s.tcpconns.set j (some v) i = some u := hu
    by_cases hi : i = j
    · subst hi
      obtain rfl : v = u := Option.some.inj (Table.set_self.symm.trans hset)
      have hblock := congrArg TcpConn.conn heq
      exact .inr (hblock.trans hconn)
    · exact .inl ⟨u, (Table.set_ne hi).symm.trans hset, heq⟩
  obtain hkeep | ⟨j, v, -, -, hconn, -, hkeep⟩ | ⟨k, srv, -, -, -, hkeep⟩ | ⟨j, v, -, -, -, -, -, hconn, -, -, -, hkeep⟩ :=
    adds_step lib hb a
  · exact .inl (hkeep.links i t ht)
  · exact added hconn hkeep
  · exact .inl (hkeep.links i t ht)
  · exact added hconn hkeep

end Esp8266At.Tcp
