import Esp8266At.Tcp.Records
import Esp8266At.Tcp.Tags

/-!
# The connections of the links

An entry of `plink_active` keeps its block, its server and whether it has a `pcb`; without one it also keeps its
keep-alive time (`KeepsNodes`). New entries are those of clients and of links whose address has become known, so that
in every state the connection of a link has a `pcb` unless the link is a TLS link (`linkNodes_run`).
-/

namespace Esp8266At.Tcp

/-- What nothing changes of a connection. -/
structure Link.Same (l m : Link) : Prop where
  pespconn : m.pespconn = l.pespconn
  preverse : m.preverse = l.preverse
  pcb : m.pcb = l.pcb
  keepIdle : l.pcb = false → m.keepIdle = l.keepIdle

theorem Link.Same.refl (l : Link) : l.Same l := ⟨rfl, rfl, rfl, fun _ => rfl⟩

theorem Link.Same.trans {l m n : Link} (h : l.Same m) (h' : m.Same n) : l.Same n where
  pespconn := h'.pespconn.trans h.pespconn
  preverse := h'.preverse.trans h.preverse
  pcb := h'.pcb.trans h.pcb
  keepIdle hpcb := (h'.keepIdle (h.pcb.trans hpcb)).trans (h.keepIdle hpcb)

/-- The connections of `u` are connections of `s`. -/
def KeepsNodes (s u : Tcp) : Prop := ∀ m ∈ u.plinkActive, ∃ l ∈ s.plinkActive, l.Same m

variable {s t u : Tcp}

namespace KeepsNodes

theorem of_eq (h : u.plinkActive = s.plinkActive) : KeepsNodes s u := fun m hm => ⟨m, h ▸ hm, .refl m⟩

theorem trans (h : KeepsNodes s t) (h' : KeepsNodes t u) : KeepsNodes s u := by
  intro n hn
  obtain ⟨m, hm, hmn⟩ := h' n hn
  obtain ⟨l, hl, hlm⟩ := h m hm
  exact ⟨l, hl, hlm.trans hmn⟩

theorem mapLink (s : Tcp) (c : ℕ) {f : Link → Link} (hf : ∀ l : Link, l.Same (f l)) :
    KeepsNodes s (s.mapLink c f) := by
  intro m hm
  obtain ⟨l, hl, rfl⟩ := List.mem_map.mp hm
  refine ⟨l, hl, ?_⟩
  split_ifs
  · exact hf l
  · exact .refl l

theorem dropLink (s : Tcp) (c : ℕ) : KeepsNodes s (s.dropLink c) :=
  fun m hm => ⟨m, List.mem_of_mem_filter hm, .refl m⟩

end KeepsNodes

variable (s)

/-! ### Requests and handlers -/

theorem nodes_espconnSetKeepalive (c : ℕ) (optarg : UInt32) : KeepsNodes s (s.espconnSetKeepalive c optarg) := by
  refine .mapLink s c (f := fun l => if l.opt &&& 0x08 ≠ 0 ∧ l.pcb then { l with keepIdle := 1000 * optarg } else l)
    fun l => ?_
  split_ifs with h
  · exact ⟨rfl, rfl, rfl, fun hpcb => absurd h.2 (by simp [hpcb])⟩
  · exact .refl l

theorem nodes_espconnDisconnect (c : ℕ) : KeepsNodes s (s.espconnDisconnect c) := by
  simp only [espconnDisconnect]
  split
  · exact .of_eq rfl
  · split
    · exact .of_eq rfl
    · split
      · exact .of_eq rfl
      · exact KeepsNodes.mapLink s c (f := fun l => { l with closing := true }) fun _ => ⟨rfl, rfl, rfl, fun _ => rfl⟩

theorem nodes_espconnSend (c : ℕ) (result : Int8) : KeepsNodes s (s.espconnSend c result).2 := by
  simp only [espconnSend]
  split
  · exact .of_eq rfl
  · split
    · exact .of_eq rfl
    · split
      · exact KeepsNodes.mapLink s c (f := fun l => { l with unacked := l.unacked + 1 }) fun _ =>
          ⟨rfl, rfl, rfl, fun _ => rfl⟩
      · exact .of_eq rfl

theorem nodes_tcpconnRegisterCb (c : ℕ) : KeepsNodes s (s.tcpconnRegisterCb c) :=
  KeepsNodes.mapLink s c (f := fun l => { l with opt := l.opt ||| 0x0F }) fun _ => ⟨rfl, rfl, rfl, fun _ => rfl⟩

theorem nodes_linkConnected (c : ℕ) (i : LinkId) (t : TcpConn) : KeepsNodes s (s.linkConnected c i t) := by
  have hregister := nodes_tcpconnRegisterCb s c
  simp only [linkConnected]
  split_ifs
  · have hset := nodes_espconnSetKeepalive ((s.tcpconnRegisterCb c).use t.conn) t.conn t.keepaliveInt
    exact hregister.trans hset
  · exact hregister

theorem nodes_tcpconnConnectcb (c : ℕ) : KeepsNodes s (s.tcpconnConnectcb c) := by
  simp only [tcpconnConnectcb]
  split
  · split
    · exact .of_eq rfl
    · exact nodes_linkConnected (s.use c) c _ _
  · exact .of_eq rfl

theorem nodes_acceptClient (c : ℕ) (k : ServerId) (srv : TcpServer) (i : LinkId) :
    KeepsNodes s (s.acceptClient c k srv i) := by
  obtain ⟨out, h⟩ := s.acceptClient_eq c k srv i
  have htime : KeepsNodes s (s.mapLink c fun l => { l with timeout := srv.timeout.toUInt32 }) :=
    .mapLink s c fun _ => ⟨rfl, rfl, rfl, fun _ => rfl⟩
  rw [h]
  exact htime.trans (nodes_tcpconnRegisterCb (s.mapLink c fun l => { l with timeout := srv.timeout.toUInt32 }) c)

theorem nodes_tcpserverClientConnectcb (c : ℕ) : KeepsNodes s (s.tcpserverClientConnectcb c) := by
  cases hk : serverOf (s.espconn c).parrent with
  | none =>
    have huse : serverOf ((s.use c).espconn c).parrent = none := hk
    simp only [tcpserverClientConnectcb, huse]
    exact nodes_espconnDisconnect (s.use c) c
  | some k =>
    obtain ⟨-, h⟩ | ⟨srv, -, ⟨heap, out, h⟩ | ⟨i, heap, -, -, h⟩⟩ := s.tcpserverClientConnectcb_cases hk
    · rw [h]
      exact .of_eq rfl
    · rw [h]
      exact nodes_espconnDisconnect { s.use c with heap := heap } c
    · rw [h]
      exact nodes_acceptClient { s.use c with heap := heap } c k srv i

theorem nodes_tcpconnRecvcb (c : ℕ) (data : List UInt8) (host : List (Option UInt8)) :
    KeepsNodes s (s.tcpconnRecvcb c data host) := by
  simp only [tcpconnRecvcb]
  split
  · exact .of_eq rfl
  · rename_i i _
    obtain ⟨out, hout, -⟩ := recvRounds_eq (s.use c).atEnterSpecialState i ((s.use c).announcedServer i) data
      (host.length + 1) host
    split
    · rename_i u hu
      rw [hu] at hout
      rw [show u = _ from hout]
      exact .of_eq rfl
    · rename_i u hu
      rw [hu] at hout
      rw [show u = _ from hout]
      split
      · exact nodes_espconnDisconnect _ c
      · exact .of_eq rfl

theorem nodes_tcpconnDisconcb (c : ℕ) : KeepsNodes s (s.tcpconnDisconcb c) := by
  have hleave : KeepsNodes s ((s.use c).leaveServer (s.espconn c).parrent) := by
    obtain ⟨k, -, -, h⟩ | ⟨-, h⟩ | ⟨k, srv, -, -, -, h⟩ := (s.use c).leaveServer_cases (s.espconn c).parrent
    · rw [h]
      exact .of_eq rfl
    · rw [h]
      exact .of_eq rfl
    · rw [h]
      exact .of_eq rfl
  rw [tcpconnDisconcb_eq]
  simp only
  split_ifs
  · exact hleave
  · obtain ⟨misused, released, tcpconns, out, h⟩ :=
      linkClosed_eq ((s.use c).leaveServer (s.espconn c).parrent) c (s.getTcpn (s.espconn c).key)
    rw [h]
    exact hleave

theorem nodes_tcpconnReconcb (c : ℕ) : KeepsNodes s (s.tcpconnReconcb c) := by
  obtain ⟨misused, released, tcpconns, busy, out, h⟩ := s.tcpconnReconcb_eq c
  rw [h]
  exact .of_eq rfl

/-! ### Commands and events -/

theorem nodes_closeClients (k : ServerId) (is : List LinkId) :
    KeepsNodes s (is.foldl (fun s i => s.closeClient k i) s) := by
  induction is generalizing s with
  | nil => exact .of_eq rfl
  | cons i is ih =>
    refine KeepsNodes.trans ?_ (ih (s.closeClient k i))
    unfold closeClient
    split
    · exact .of_eq rfl
    · split
      · exact nodes_espconnDisconnect s _
      · exact .of_eq rfl

theorem nodes_atSetupCmdTCPServer (lib : LibAt) (pPara : List UInt8) (result : Int8) :
    KeepsNodes s (s.atSetupCmdTCPServer lib pPara result) := by
  unfold atSetupCmdTCPServer
  split
  · exact .of_eq rfl
  · rename_i p _
    split
    · obtain ⟨espconn, nextBlock, tcpservers, pserverList, out, heap, h⟩ := s.tcpServerCreate_eq p result
      rw [h]
      exact .of_eq rfl
    · unfold tcpServerDelete
      split
      · exact .of_eq rfl
      · refine (nodes_closeClients s p.srvN (List.finRange TCPCONN_MAX_CONN)).trans (.of_eq ?_)
        simp only [espconnDelete]
        split <;> rfl

theorem nodes_atSetupCmdTCPClose (lib : LibAt) (pPara : List UInt8) :
    KeepsNodes s (s.atSetupCmdTCPClose lib pPara) := by
  unfold atSetupCmdTCPClose
  split
  · exact .of_eq rfl
  · split
    · exact .of_eq rfl
    · split
      · exact nodes_espconnDisconnect s _
      · exact .of_eq rfl

theorem nodes_sendBuffer (c : ℕ) (result : Int8) : KeepsNodes s (s.sendBuffer c result) := by
  have hsend := nodes_espconnSend s c result
  simp only [sendBuffer]
  split
  · exact hsend.trans (nodes_espconnDisconnect ((s.espconnSend c result).2.print "\r\nFAIL\r\n") c)
  · exact hsend

theorem nodes_atSetupCmdTCPSend (lib : LibAt) (pPara : List UInt8) (host : List (Option UInt8)) (result : Int8) :
    KeepsNodes s (s.atSetupCmdTCPSend lib pPara host result) := by
  unfold atSetupCmdTCPSend
  split
  · exact .of_eq rfl
  · rename_i i len _
    split
    · rename_i u hu
      obtain ⟨heap, rfl⟩ : ∃ heap, u = { s with heap := heap } := ⟨_, (congrArg Prod.snd hu).symm⟩
      exact .of_eq rfl
    · rename_i u hu
      obtain ⟨heap, rfl⟩ : ∃ heap, u = { s with heap := heap } := ⟨_, (congrArg Prod.snd hu).symm⟩
      obtain ⟨out, hout⟩ := requestGetInput_eq (atEnterSpecialState { s with heap := heap }) len "+TCPSEND" host
      split
      · rename_i v hv
        rw [hv] at hout
        rw [show v = _ from hout]
        exact .of_eq rfl
      · rename_i v hv
        rw [hv] at hout
        rw [show v = _ from hout]
        split
        · exact .of_eq rfl
        · exact nodes_sendBuffer _ _ result

theorem nodes_espconnRecv (c : ℕ) (data : List UInt8) (host : List (Option UInt8)) :
    KeepsNodes s (s.espconnRecv c data host) := by
  have hrecv := nodes_tcpconnRecvcb ((s.use c).setState c .read) c data host
  simp only [espconnRecv]
  split
  · exact .of_eq rfl
  · split
    · exact hrecv
    · split <;> exact hrecv

theorem nodes_espconnTcpFinish (c : ℕ) : KeepsNodes s (s.espconnTcpFinish c) := by
  have hfinish := KeepsNodes.mapLink s c (f := fun l => { l with unacked := l.unacked - 1 }) fun _ =>
    ⟨rfl, rfl, rfl, fun _ => rfl⟩
  simp only [espconnTcpFinish]
  split <;> exact hfinish

theorem nodes_espconnClientConnect (c : ℕ) : KeepsNodes s (s.espconnClientConnect c) := by
  have hconnect := KeepsNodes.mapLink s c (f := fun l => { l with established := true }) fun _ =>
    ⟨rfl, rfl, rfl, fun _ => rfl⟩
  simp only [espconnClientConnect]
  split
  · exact hconnect.trans (nodes_tcpconnConnectcb _ c)
  · exact hconnect.trans (nodes_tcpserverClientConnectcb _ c)
  · exact hconnect

theorem nodes_ended (l : Link) : KeepsNodes s (s.ended l) := by
  obtain ⟨misused, espconn, h⟩ := s.ended_eq l
  rw [h]
  exact .of_eq rfl

theorem nodes_espconnTcpMempFree (l : Link) : KeepsNodes s (s.espconnTcpMempFree l) := by
  obtain ⟨misused, released, h⟩ := s.espconnTcpMempFree_eq l
  rw [h]
  exact KeepsNodes.dropLink s l.pespconn

theorem nodes_espconnTcpReconnect (l : Link) : KeepsNodes s (s.espconnTcpReconnect l) := by
  have hended := nodes_ended s l
  have hrecon := hended.trans (nodes_tcpconnReconcb _ (reported l))
  unfold espconnTcpReconnect
  simp only
  split_ifs
  · exact hrecon
  · exact hrecon.trans (nodes_espconnTcpMempFree _ l)
  · exact hended
  · exact hended.trans (nodes_espconnTcpMempFree _ l)

theorem nodes_espconnTcpDisconnectSuccessful (l : Link) : KeepsNodes s (s.espconnTcpDisconnectSuccessful l) := by
  have hended := nodes_ended s l
  have hclose := hended.trans (nodes_tcpconnDisconcb _ (reported l))
  unfold espconnTcpDisconnectSuccessful
  simp only
  split_ifs
  · exact hclose
  · exact hclose.trans (nodes_espconnTcpMempFree _ l)
  · exact hended
  · exact hended.trans (nodes_espconnTcpMempFree _ l)

/-! ### New connections -/

/-- A connection has a `pcb` unless it is one of a TLS link. -/
def Link.OfSsl (ssl : UInt8) (l : Link) : Prop :=
  l.pcb = decide (ssl = 0) ∧ (l.pcb = false → l.keepIdle = TCP_KEEPIDLE_DEFAULT)

theorem Link.OfSsl.same {ssl : UInt8} {l m : Link} (h : l.OfSsl ssl) (hm : l.Same m) : m.OfSsl ssl := by
  obtain ⟨hpcb, hidle⟩ := h
  refine ⟨hm.pcb.trans hpcb, fun hfalse => ?_⟩
  have hl : l.pcb = false := hm.pcb.symm.trans hfalse
  exact (hm.keepIdle hl).trans (hidle hl)

/-- A connection of a link was there before, or it is what its link says. -/
def OpensNodes (s u : Tcp) : Prop :=
  ∀ m ∈ u.plinkActive, m.preverse = none → (∃ l ∈ s.plinkActive, l.Same m) ∨
    ∀ i t, u.tcpconns i = some t → t.conn = m.pespconn → m.OfSsl t.ssl

variable {s} in
theorem KeepsNodes.opens (h : KeepsNodes s u) : OpensNodes s u := fun m hm _ => .inl (h m hm)

theorem nodes_startConnection (c : ℕ) (pcb : Bool) (result : Int8) {m : Link}
    (hm : m ∈ (s.startConnection c pcb result).2.plinkActive) : m ∈ s.plinkActive ∨ m = .new c none pcb false := by
  unfold startConnection at hm
  split at hm
  · exact (List.mem_append.mp hm).imp_right List.mem_singleton.mp
  · exact .inl hm

theorem nodes_tcpconnResolved (c : ℕ) (ip : Option Ip) (port : UInt16) (result : Int8) {m : Link}
    (hm : m ∈ (s.tcpconnResolved c ip port result).plinkActive) : m ∈ s.plinkActive ∨
      ∃ i t, (s.tcpconns.firstWhere fun t => t.parrent = (s.espconn c).parrent) = some i ∧ s.tcpconns i = some t ∧
        m = .new c none (t.ssl = 0) false := by
  simp only [tcpconnResolved] at hm
  split at hm
  · rename_i i ip hi
    split at hm
    · exact .inl hm
    · rename_i t ht
      simp only [linkResolved, connect_eq] at hm
      exact (nodes_startConnection _ c (t.ssl = 0) result hm).imp_right fun h => ⟨i, t, hi, ht, h⟩
  · left
    split at hm
    · rename_i i _
      obtain ⟨misused, released, tcpconns, h⟩ := tcpconnCleanup_eq (s.use c) i
      rw [h] at hm
      exact hm
    · exact hm

/-- The address of a link becomes known: the entry that is found by its tag is the one with its block. -/
theorem opens_resolved {x : Traced} (h : x.Consistent) {c : ℕ} {j : LinkId} (hc : (x.tcp.espconn c).parrent = linkTag j)
    (ip : Option Ip) (port : UInt16) (result : Int8) : OpensNodes x.tcp (x.tcp.tcpconnResolved c ip port result) := by
  intro m hm _
  obtain hold | ⟨i, t, hi, ht, rfl⟩ := nodes_tcpconnResolved x.tcp c ip port result hm
  · exact .inl ⟨m, hold, .refl m⟩
  refine .inr fun k u hu hconn => ?_
  obtain ⟨v, hv, heq⟩ := (keeps_tcpconnResolved x.tcp c ip port result).links k u hu
  have hblock : v.conn = c := (congrArg TcpConn.conn heq).symm.trans hconn
  have hssl := congrArg TcpConn.ssl heq
  have htag : (x.origin v.conn).tag = linkTag j := by rw [← h.block_tag hv, hblock, hc]
  have horigin : x.origin v.conn = .outgoing k := by
    obtain hlink | ⟨k, b, hclient⟩ := (h.record_tag hv).2
    · exact hlink
    · rw [tag_injective_outgoing htag] at hclient
      cases hclient
  have hfind := h.firstWhere_parrent ⟨hv, horigin⟩
  rw [hblock, hi] at hfind
  obtain rfl : i = k := Option.some.inj hfind
  obtain rfl : t = v := Option.some.inj (ht.symm.trans hv)
  exact ⟨congrArg (fun ssl : UInt8 => decide (ssl = 0)) hssl.symm, fun _ => rfl⟩

/-- A client is accepted. -/
theorem opens_accept (server : ℕ) (ip : Ip) (port : UInt16) : OpensNodes s (s.espconnTcpAccept server ip port) := by
  simp only [espconnTcpAccept]
  generalize hu : (s.use server).setBlock server
    { (s.use server).espconn server with linkCnt := UInt8.ofNat ((s.use server).linkCnt server) } = u
  have hnodes : u.plinkActive = s.plinkActive := by
    rw [← hu]
    rfl
  split_ifs
  · exact (KeepsNodes.of_eq hnodes).opens
  · intro m hm hpre
    have hlink : (u.acceptLink server ip port).plinkActive =
        u.plinkActive ++ [.new u.nextBlock (some server) true true] := by
      obtain ⟨misused, espconn, haccept⟩ := u.acceptLink_eq server ip port
      rw [haccept]
    generalize u.acceptLink server ip port = v at hm hlink
    have hcall : ∃ l ∈ v.plinkActive, l.Same m := by
      split at hm
      · exact nodes_tcpconnConnectcb v _ m hm
      · exact nodes_tcpserverClientConnectcb v _ m hm
      · exact ⟨m, hm, .refl m⟩
    obtain ⟨l, hl, hsame⟩ := hcall
    rw [hlink, hnodes] at hl
    obtain hl | hl := List.mem_append.mp hl
    · exact .inl ⟨l, hl, hsame⟩
    · rw [List.mem_singleton.mp hl] at hsame
      cases hsame.preverse.symm.trans hpre

/-! ### Runs -/

variable (lib : LibAt)

theorem opens_startLink {x : Traced} (h : x.Consistent) (p : StartParams) (lookup : LookupResult) (port : UInt16)
    (result : Int8) : OpensNodes x.tcp (x.tcp.startLink p lookup port result) := by
  unfold startLink
  cases lookup with
  | ok ip =>
    obtain ⟨⟨role, hb⟩, htag⟩ := h
    simp only
    generalize hv : (((x.tcp.create { Espconn.zero with parrent := (p.tcpconn x.tcp.nextBlock).parrent }).setConn
      p.connNo (some (p.tcpconn x.tcp.nextBlock))).atEnterSpecialState.setConn p.connNo
        (some { p.tcpconn x.tcp.nextBlock with ip := ip })) = v
    have hw : v.wiring = x.tcp.wiring.openLink p.connNo p.port := by
      rw [← hv, wiring_setConn_same _ (t := p.tcpconn x.tcp.nextBlock)]
      · exact wiring_openLink x.tcp rfl
      · simp [atEnterSpecialState, setConn]
      · rfl
    have hopened : Traced.Consistent ⟨v, Function.update x.origin x.tcp.nextBlock (.outgoing p.connNo)⟩ := by
      refine ⟨⟨Function.update role x.tcp.nextBlock .link, ?_⟩, ?_⟩
      · rw [hw]
        exact hb.openLink p.connNo p.port
      · rw [hw]
        exact (htag.note hb (.outgoing p.connNo)).openLink (Function.update_self ..) p.port
    have hparrent : (v.espconn x.tcp.nextBlock).parrent = linkTag p.connNo := by
      rw [← hv]
      exact congrArg Espconn.parrent (Function.update_self x.tcp.nextBlock _ x.tcp.espconn)
    have hnodes : v.plinkActive = x.tcp.plinkActive := by
      rw [← hv]
      rfl
    intro m hm hpre
    have hresolved := opens_resolved hopened hparrent (some ip) port result m hm hpre
    rw [hnodes] at hresolved
    exact hresolved
  | inprogress => exact (KeepsNodes.of_eq rfl).opens
  | failed =>
    simp only
    obtain ⟨misused, released, tcpconns, hclean⟩ := tcpconnCleanup_eq _ p.connNo
    rw [hclean]
    exact (KeepsNodes.of_eq rfl).opens

theorem opens_start {x : Traced} (h : x.Consistent) (pPara : List UInt8) (lookup : LookupResult) (port : UInt16)
    (result : Int8) : OpensNodes x.tcp (x.tcp.atSetupCmdTCPConnConnect lib pPara lookup port result) := by
  unfold atSetupCmdTCPConnConnect
  cases startParams lib pPara x.tcp.tcpconns with
  | error e => cases e <;> exact (KeepsNodes.of_eq rfl).opens
  | ok p =>
    obtain ⟨heap, hheap⟩ := x.tcp.zallocs_eq 3
    simp only
    generalize x.tcp.zallocs 3 = r at hheap
    obtain ⟨ok, u⟩ := r
    simp only at hheap
    subst hheap
    cases ok with
    | false => exact (KeepsNodes.of_eq rfl).opens
    | true => exact opens_startLink (x := ⟨{ x.tcp with heap := heap }, x.origin⟩) h p lookup port result

theorem opens_event {x : Traced} (h : x.Consistent) (e : Event) : OpensNodes x.tcp (x.tcp.event e) := by
  have hsame : OpensNodes x.tcp x.tcp := (KeepsNodes.of_eq rfl).opens
  cases e with
  | found c ip port result =>
    simp only [event]
    split
    · rename_i hc
      obtain ⟨⟨role, hb⟩, htag⟩ := h
      obtain ⟨hlt, hrole⟩ := hb.lookup c hc
      obtain ⟨j, hj⟩ := hb.linkIdent c hlt hrole
      exact opens_resolved (x := ⟨{ x.tcp with lookups := x.tcp.lookups.filter (· ≠ c) }, x.origin⟩)
        ⟨⟨role, hb.dropLookup c⟩, htag.dropLookup c⟩ hj ip port result
    · exact hsame
  | connected c =>
    simp only [event]
    split
    · split
      · exact (nodes_espconnClientConnect x.tcp c).opens
      · exact hsame
    · exact hsame
  | accepted server ip port =>
    simp only [event]
    split
    · exact opens_accept x.tcp server ip port
    · exact hsame
  | received c data host =>
    simp only [event]
    split
    · split
      · exact (nodes_espconnRecv x.tcp c data host).opens
      · exact hsame
    · exact hsame
  | sent c =>
    simp only [event]
    split
    · split
      · exact (nodes_espconnTcpFinish x.tcp c).opens
      · exact hsame
    · exact hsame
  | failed c =>
    simp only [event]
    split
    · split
      · exact (nodes_espconnTcpReconnect x.tcp _).opens
      · exact hsame
    · exact hsame
  | closed c =>
    simp only [event]
    split
    · split
      · exact (nodes_espconnTcpDisconnectSuccessful x.tcp _).opens
      · exact hsame
    · exact hsame

theorem opens_step {x : Traced} (h : x.Consistent) (a : Action) : OpensNodes x.tcp (x.tcp.step lib a) := by
  have hsame : OpensNodes x.tcp x.tcp := (KeepsNodes.of_eq rfl).opens
  unfold step
  split
  · exact hsame
  · cases a with
    | command c =>
      simp only
      split
      · exact hsame
      · cases c with
        | start pPara lookup port result => exact opens_start lib h pPara lookup port result
        | server pPara result => exact (nodes_atSetupCmdTCPServer x.tcp lib pPara result).opens
        | close pPara => exact (nodes_atSetupCmdTCPClose x.tcp lib pPara).opens
        | send pPara host result => exact (nodes_atSetupCmdTCPSend x.tcp lib pPara host result).opens
    | event e => exact opens_event h e

/-- The connection of every link is what the link says. -/
def LinkNodes (s : Tcp) : Prop :=
  ∀ m ∈ s.plinkActive, m.preverse = none → ∀ i t, s.tcpconns i = some t → t.conn = m.pespconn → m.OfSsl t.ssl

theorem linkNodes_step {x : Traced} (hx : x.Consistent) (h : LinkNodes x.tcp) (a : Action) :
    LinkNodes (x.tcp.step lib a) := by
  intro m hm hpre i t ht hconn
  obtain ⟨l, hl, hsame⟩ | hnew := opens_step lib hx a m hm hpre
  · obtain ⟨⟨role, hb⟩, -⟩ := hx
    have hlt : l.pespconn < x.tcp.nextBlock := (hb.link l.pespconn l.preverse (List.mem_map_of_mem hl)).1
    obtain ⟨u, hu, heq⟩ | hnext := entry_step lib hb a ht
    · have hblock := congrArg TcpConn.conn heq
      have hssl := congrArg TcpConn.ssl heq
      have hold : l.OfSsl u.ssl :=
        h l hl (hsame.preverse.symm.trans hpre) i u hu (hblock.symm.trans (hconn.trans hsame.pespconn))
      exact (show t.ssl = u.ssl from hssl) ▸ hold.same hsame
    · -- a new entry has a new block
      exact absurd (hnext.symm.trans (hconn.trans hsame.pespconn)) hlt.ne'
  · exact hnew i t ht hconn

/-- In every state of every run the connection of a link has a `pcb` unless the link is a TLS link. -/
theorem linkNodes_run (as : List Action) (heap : ℕ → Bool) (numTcpPcb : ℕ) :
    LinkNodes (Machine.run (step lib) as (atReset heap numTcpPcb)) := by
  have hrun : (Machine.run (Traced.step lib) as (Traced.atReset heap numTcpPcb)).Consistent ∧
      LinkNodes (Machine.run (Traced.step lib) as (Traced.atReset heap numTcpPcb)).tcp := by
    refine Machine.run_invariant (I := fun x : Traced => x.Consistent ∧ LinkNodes x.tcp) ?_ ?_
    · rintro a x ⟨hx, h⟩
      exact ⟨consistent_step lib a hx, linkNodes_step lib hx h a⟩
    · exact ⟨consistent_run lib [] heap numTcpPcb, fun m hm => absurd hm List.not_mem_nil⟩
  have hlinks := hrun.2
  rw [Traced.run_tcp] at hlinks
  exact hlinks

end Esp8266At.Tcp
