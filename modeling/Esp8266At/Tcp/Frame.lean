import Esp8266At.Tcp.Network

/-!
# What functions do and leave alone

For each request, handler, command and event the fields of the state it may change, all others staying; and
the ways the handlers that look at a server can go.
-/

namespace Esp8266At.Tcp

variable (s : Tcp)

/-! ### Requests to the layer -/

theorem zallocs_eq (n : ℕ) : ∃ heap, (s.zallocs n).2 = { s with heap := heap } := by
  induction n with
  | zero => exact ⟨_, rfl⟩
  | succ n ih =>
    obtain ⟨heap, hheap⟩ := ih
    simp only [zallocs]
    split
    · rename_i u hu
      rw [hu] at hheap
      simp only at hheap
      subst hheap
      exact ⟨_, rfl⟩
    · exact ⟨heap, hheap⟩

theorem mapLink_of_none {c : ℕ} {f : Link → Link} (h : s.findConnection c = none) : s.mapLink c f = s := by
  have hmap : (s.plinkActive.map fun l => if l.pespconn = c then f l else l) = s.plinkActive := by
    conv_rhs => rw [← List.map_id s.plinkActive]
    apply List.map_congr_left
    intro l hl
    have hne := List.find?_eq_none.mp h l hl
    exact if_neg (by simpa using hne)
  exact congrArg (fun ls => { s with plinkActive := ls }) hmap

theorem espconnRegistTime_eq (c : ℕ) (interval : UInt32) :
    (s.espconnRegistTime c interval).2 = s.mapLink c fun l => { l with timeout := interval } := by
  unfold espconnRegistTime
  cases h : s.findConnection c with
  | none => rw [s.mapLink_of_none h]
  | some l => rfl

theorem espconnDisconnect_eq (c : ℕ) : ∃ misused espconn plinkActive,
    s.espconnDisconnect c = { s with misused := misused, espconn := espconn, plinkActive := plinkActive } := by
  simp only [espconnDisconnect]
  split
  · exact ⟨_, _, _, rfl⟩
  · split
    · exact ⟨_, _, _, rfl⟩
    · split
      · exact ⟨_, _, _, rfl⟩
      · exact ⟨_, _, _, rfl⟩

theorem espconnSend_eq (c : ℕ) (result : Int8) : ∃ misused espconn plinkActive,
    (s.espconnSend c result).2 =
      { s with misused := misused, espconn := espconn, plinkActive := plinkActive } := by
  simp only [espconnSend]
  split
  · exact ⟨_, _, _, rfl⟩
  · split
    · exact ⟨_, _, _, rfl⟩
    · split
      · exact ⟨_, _, _, rfl⟩
      · exact ⟨_, _, _, rfl⟩

theorem startConnection_eq (c : ℕ) (pcb : Bool) (result : Int8) : ∃ espconn plinkActive,
    (s.startConnection c pcb result).2 = { s with espconn := espconn, plinkActive := plinkActive } := by
  unfold startConnection
  split <;> exact ⟨_, _, rfl⟩

/-- A link has a `pcb` unless it is a TLS link. -/
theorem connect_eq (ssl : UInt8) (c : ℕ) (result : Int8) :
    (if ssl > 0 then (s.espconnSecureConnect c result).2 else (s.espconnConnect c result).2) =
      (s.startConnection c (ssl = 0) result).2 := by
  by_cases h : ssl = 0
  · rw [if_neg (by simp [h]), decide_eq_true h]
    rfl
  · rw [if_pos (UInt8.pos_iff_ne_zero.mpr h), decide_eq_false h]
    rfl

/-! ### Handlers -/

theorem getTcpn_some {key : Ip × UInt16} {i : LinkId} (h : s.getTcpn key = some i) :
    ∃ t, s.tcpconns i = some t ∧ t.key = key := by
  obtain ⟨t, ht, hkey⟩ := Table.firstWhere_some h
  exact ⟨t, ht, of_decide_eq_true hkey⟩

theorem printNoLink_eq (c : ℕ) (handler : String) : ∃ out, s.printNoLink c handler = { s with out := out } := by
  simp only [printNoLink]
  split <;> exact ⟨_, rfl⟩

theorem tcpconnCleanup_eq (i : LinkId) : ∃ misused released tcpconns,
    s.tcpconnCleanup i = { s with misused := misused, released := released, tcpconns := tcpconns } := by
  unfold tcpconnCleanup
  split <;> exact ⟨_, _, _, rfl⟩

theorem linkClosed_eq (c : ℕ) (n : Option LinkId) : ∃ misused released tcpconns out,
    s.linkClosed c n =
      { s with misused := misused, released := released, tcpconns := tcpconns, out := out } := by
  cases n with
  | none =>
    obtain ⟨out, hout⟩ := s.printNoLink_eq c "disconn"
    exact ⟨_, _, _, out, hout⟩
  | some i =>
    obtain ⟨misused, released, tcpconns, h⟩ := s.tcpconnCleanup_eq i
    simp only [linkClosed, h]
    exact ⟨misused, released, tcpconns, _, rfl⟩

theorem linkClosed_crashed (c : ℕ) (n : Option LinkId) : (s.linkClosed c n).crashed = s.crashed := by
  obtain ⟨_, _, _, _, h⟩ := s.linkClosed_eq c n
  rw [h]

theorem tcpconnReconcb_eq (c : ℕ) : ∃ misused released tcpconns busy out,
    s.tcpconnReconcb c =
      { s with misused := misused, released := released, tcpconns := tcpconns, busy := busy, out := out } := by
  simp only [tcpconnReconcb]
  split
  · split
    · exact ⟨_, _, _, _, _, rfl⟩
    · split
      · obtain ⟨misused, released, tcpconns, h⟩ := tcpconnCleanup_eq _ _
        rw [h]
        exact ⟨misused, released, tcpconns, _, _, rfl⟩
      · obtain ⟨misused, released, tcpconns, h⟩ := tcpconnCleanup_eq _ _
        rw [h]
        exact ⟨misused, released, tcpconns, _, _, rfl⟩
  · obtain ⟨out, hout⟩ := printNoLink_eq _ _ _
    rw [hout]
    exact ⟨_, _, _, _, out, rfl⟩

theorem tcpconnReconcb_crashed (c : ℕ) : (s.tcpconnReconcb c).crashed = s.crashed := by
  obtain ⟨_, _, _, _, _, h⟩ := s.tcpconnReconcb_eq c
  rw [h]

theorem linkConnected_eq (c : ℕ) (i : LinkId) (t : TcpConn) : ∃ misused tcpconns espconn plinkActive busy out,
    s.linkConnected c i t =
      { s with
        misused := misused, tcpconns := tcpconns, espconn := espconn, plinkActive := plinkActive
        busy := busy, out := out } := by
  simp only [linkConnected]
  split <;> exact ⟨_, _, _, _, _, _, rfl⟩

theorem tcpconnConnectcb_eq (c : ℕ) : ∃ misused tcpconns espconn plinkActive busy out,
    s.tcpconnConnectcb c =
      { s with
        misused := misused, tcpconns := tcpconns, espconn := espconn, plinkActive := plinkActive
        busy := busy, out := out } := by
  simp only [tcpconnConnectcb]
  split
  · split
    · exact ⟨_, _, _, _, _, _, rfl⟩
    · obtain ⟨misused, tcpconns, espconn, plinkActive, busy, out, h⟩ := linkConnected_eq _ _ _ _
      rw [h]
      exact ⟨misused, tcpconns, espconn, plinkActive, busy, out, rfl⟩
  · exact ⟨_, _, _, _, _, _, rfl⟩

theorem tcpconnResolved_eq (c : ℕ) (ip : Option Ip) (port : UInt16) (result : Int8) :
    ∃ misused released tcpconns espconn plinkActive busy out,
      s.tcpconnResolved c ip port result =
        { s with
          misused := misused, released := released, tcpconns := tcpconns, espconn := espconn
          plinkActive := plinkActive, busy := busy, out := out } := by
  simp only [tcpconnResolved]
  split
  · split
    · exact ⟨_, _, _, _, _, _, _, rfl⟩
    · simp only [linkResolved, connect_eq]
      obtain ⟨espconn, plinkActive, h⟩ := startConnection_eq _ _ _ _
      rw [h]
      exact ⟨_, _, _, espconn, plinkActive, _, _, rfl⟩
  · split
    · obtain ⟨misused, released, tcpconns, h⟩ := tcpconnCleanup_eq _ _
      rw [h]
      exact ⟨misused, released, tcpconns, _, _, _, _, rfl⟩
    · exact ⟨_, _, _, _, _, _, _, rfl⟩

/-- Handing over data prints, the link id and the length first, and does nothing else. -/
theorem recvRounds_eq (i : LinkId) (srv_n : ℕ) (data : List UInt8) (rounds : ℕ) (host : List (Option UInt8)) :
    ∃ out, (recvRounds i srv_n data rounds host s).2 = { s with out := s.out ++ out } ∧
      (0 < rounds → ∃ rest, out = .text s!"\r\n+TCP,{i},{srv_n},{data.length}:" :: rest) := by
  induction rounds generalizing host s with
  | zero => exact ⟨[], by simp [recvRounds], by simp⟩
  | succ rounds ih =>
    simp only [recvRounds]
    split
    · split
      · exact ⟨_, by simp only [uart0TxBuffer, print, List.append_assoc]; rfl, fun _ => ⟨_, rfl⟩⟩
      · rename_i host' _
        obtain ⟨out, hout, -⟩ := ih (((s.print s!"\r\n+TCP,{i},{srv_n},{data.length}:").uart0TxBuffer
          data).print "\r\n+TCPresend\r\n") host'
        exact ⟨_, by rw [hout]; simp only [uart0TxBuffer, print, List.append_assoc]; rfl, fun _ => ⟨_, rfl⟩⟩
      · exact ⟨_, by simp only [uart0TxBuffer, print, List.append_assoc]; rfl, fun _ => ⟨_, rfl⟩⟩
    · exact ⟨_, rfl, fun _ => ⟨_, rfl⟩⟩

theorem tcpconnRecvcb_eq (c : ℕ) (data : List UInt8) (host : List (Option UInt8)) :
    ∃ misused espconn plinkActive busy out,
      s.tcpconnRecvcb c data host =
        { s with
          misused := misused, espconn := espconn, plinkActive := plinkActive, busy := busy, out := out } := by
  simp only [tcpconnRecvcb]
  split
  · exact ⟨_, _, _, _, _, rfl⟩
  · rename_i i _
    obtain ⟨out, hout, -⟩ := recvRounds_eq (s.use c).atEnterSpecialState i ((s.use c).announcedServer i) data
      (host.length + 1) host
    generalize recvRounds i ((s.use c).announcedServer i) data (host.length + 1) host
      (s.use c).atEnterSpecialState = r at hout ⊢
    obtain ⟨ok, u⟩ := r
    simp only at hout
    subst hout
    cases ok with
    | true => exact ⟨_, _, _, _, _, rfl⟩
    | false =>
      simp only
      split
      · obtain ⟨misused, espconn, plinkActive, h⟩ := espconnDisconnect_eq _ _
        rw [h]
        exact ⟨misused, espconn, plinkActive, _, _, rfl⟩
      · exact ⟨_, _, _, _, _, rfl⟩

/-! ### Handlers and servers -/

@[simp] theorem leaveServer_tcpconns (parrent : UInt8) : (s.leaveServer parrent).tcpconns = s.tcpconns := by
  unfold leaveServer
  split
  · rfl
  · split
    · rfl
    · split <;> rfl

/-- A client leaves: without its server there is a crash, otherwise the counter goes down to 0. -/
theorem leaveServer_cases (parrent : UInt8) :
    (∃ k, serverOf parrent = some k ∧ s.tcpservers k = none ∧ s.leaveServer parrent = s.crash) ∨
      ((∀ k, serverOf parrent = some k → ∃ srv, s.tcpservers k = some srv ∧ srv.connected = 0) ∧
        s.leaveServer parrent = s) ∨
      ∃ k srv, serverOf parrent = some k ∧ s.tcpservers k = some srv ∧ srv.connected > 0 ∧
        s.leaveServer parrent = s.setServer k (some { srv with connected := srv.connected - 1 }) := by
  unfold leaveServer
  cases hk : serverOf parrent with
  | none => exact .inr (.inl ⟨nofun, rfl⟩)
  | some k =>
    cases hsrv : s.tcpservers k with
    | none => exact .inl ⟨k, rfl, hsrv, by simp [hsrv]⟩
    | some srv =>
      right
      by_cases hc : srv.connected > 0
      · exact .inr ⟨k, srv, rfl, hsrv, hc, by simp [hsrv, hc]⟩
      · refine .inl ⟨?_, by simp [hsrv, hc]⟩
        rintro _ ⟨⟩
        exact ⟨srv, hsrv, by simpa using hc⟩

theorem tcpconnDisconcb_eq (c : ℕ) :
    s.tcpconnDisconcb c =
      let u := (s.use c).leaveServer (s.espconn c).parrent
      if u.crashed then u else u.linkClosed c (s.getTcpn (s.espconn c).key) := rfl

/-- An accepted client, up to the text that is printed. -/
theorem acceptClient_eq (c : ℕ) (k : ServerId) (srv : TcpServer) (i : LinkId) :
    ∃ out, s.acceptClient c k srv i =
      { ((((s.mapLink c fun l => { l with timeout := srv.timeout.toUInt32 }).setConn i (some
            ⟨(s.espconn c).parrent, srv.ssl, 1, 0, (s.espconn c).remotePort, 0, (s.espconn c).remoteIp, c,
              (s.espconn c).remoteIp⟩)).tcpconnRegisterCb c).setServer k
            (some { srv with connected := srv.connected + 1 })) with out := out } := by
  have htime := s.espconnRegistTime_eq c srv.timeout.toUInt32
  simp only [acceptClient]
  split
  · rename_i u hu
    rw [hu] at htime
    subst htime
    exact ⟨_, rfl⟩
  · rename_i u hu
    rw [hu] at htime
    subst htime
    exact ⟨_, rfl⟩

theorem rejectClient_some (c : ℕ) {k : ServerId} {srv : TcpServer} (hk : s.tcpservers k = some srv) :
    ∃ out, s.rejectClient c (some k) = { s.espconnDisconnect c with out := out } := by
  simp only [rejectClient, hk, Option.isNone_some, Bool.false_eq_true, if_false]
  exact ⟨_, rfl⟩

/-- A client connects: without its server there is a crash, otherwise it is rejected or gets a free link. -/
theorem tcpserverClientConnectcb_cases {c : ℕ} {k : ServerId} (hk : serverOf (s.espconn c).parrent = some k) :
    (s.tcpservers k = none ∧ s.tcpserverClientConnectcb c = (s.use c).crash) ∨
      ∃ srv, s.tcpservers k = some srv ∧
        ((∃ heap out, s.tcpserverClientConnectcb c =
            { espconnDisconnect { s.use c with heap := heap } c with out := out }) ∨
          ∃ i heap, s.tcpconns i = none ∧ srv.connected < srv.maxconn ∧
            s.tcpserverClientConnectcb c = acceptClient { s.use c with heap := heap } c k srv i) := by
  have huse : serverOf ((s.use c).espconn c).parrent = some k := hk
  cases hsrv : s.tcpservers k with
  | none =>
    have hnone : (s.use c).tcpservers k = none := hsrv
    refine .inl ⟨rfl, ?_⟩
    simp only [tcpserverClientConnectcb, huse, hnone, rejectClient]
    split <;> rfl
  | some srv =>
    have hsome : (s.use c).tcpservers k = some srv := hsrv
    refine .inr ⟨srv, rfl, ?_⟩
    simp only [tcpserverClientConnectcb, huse, hsome]
    split
    · obtain ⟨out, hout⟩ := (s.use c).rejectClient_some c hsrv
      exact .inl ⟨_, out, hout⟩
    · rename_i i hi
      split
      · obtain ⟨out, hout⟩ := (s.use c).rejectClient_some c hsrv
        exact .inl ⟨_, out, hout⟩
      · rename_i hmax
        split
        · rename_i u hz
          obtain ⟨heap, rfl⟩ : ∃ heap, u = { s.use c with heap := heap } := ⟨_, (congrArg Prod.snd hz).symm⟩
          obtain ⟨out, hout⟩ := rejectClient_some { s.use c with heap := heap } c hsrv
          exact .inl ⟨heap, out, hout⟩
        · rename_i u hz
          obtain ⟨heap, rfl⟩ : ∃ heap, u = { s.use c with heap := heap } := ⟨_, (congrArg Prod.snd hz).symm⟩
          exact .inr ⟨i, heap, Table.firstEmpty_some hi, UInt8.not_le.mp hmax, rfl⟩

/-! ### Commands -/

theorem startLink_eq (p : StartParams) (lookup : LookupResult) (port : UInt16) (result : Int8) :
    ∃ misused released tcpconns espconn plinkActive lookups nextBlock busy out,
      s.startLink p lookup port result =
        { s with
          misused := misused, released := released, tcpconns := tcpconns, espconn := espconn
          plinkActive := plinkActive, lookups := lookups, nextBlock := nextBlock, busy := busy, out := out } := by
  unfold startLink
  cases lookup with
  | ok ip =>
    simp only
    obtain ⟨misused, released, tcpconns, espconn, plinkActive, busy, out, h⟩ := tcpconnResolved_eq _ _ _ _ _
    rw [h]
    exact ⟨misused, released, tcpconns, espconn, plinkActive, _, _, busy, out, rfl⟩
  | inprogress => exact ⟨_, _, _, _, _, _, _, _, _, rfl⟩
  | failed =>
    simp only
    obtain ⟨misused, released, tcpconns, h⟩ := tcpconnCleanup_eq _ _
    rw [h]
    exact ⟨misused, released, tcpconns, _, _, _, _, _, _, rfl⟩

theorem atSetupCmdTCPConnConnect_eq (lib : LibAt) (pPara : List UInt8) (lookup : LookupResult) (port : UInt16)
    (result : Int8) :
    ∃ misused released tcpconns espconn plinkActive lookups nextBlock busy out heap,
      s.atSetupCmdTCPConnConnect lib pPara lookup port result =
        { s with
          misused := misused, released := released, tcpconns := tcpconns, espconn := espconn
          plinkActive := plinkActive, lookups := lookups, nextBlock := nextBlock, busy := busy, out := out
          heap := heap } := by
  unfold atSetupCmdTCPConnConnect
  split
  · exact ⟨_, _, _, _, _, _, _, _, _, _, rfl⟩
  · exact ⟨_, _, _, _, _, _, _, _, _, _, rfl⟩
  · obtain ⟨heap, hheap⟩ := s.zallocs_eq 3
    split
    · rename_i u hu
      rw [hu] at hheap
      simp only at hheap
      subst hheap
      exact ⟨_, _, _, _, _, _, _, _, _, _, rfl⟩
    · rename_i p _ _ u hu
      rw [hu] at hheap
      simp only at hheap
      subst hheap
      obtain ⟨misused, released, tcpconns, espconn, plinkActive, lookups, nextBlock, busy, out, h⟩ :=
        startLink_eq { s with heap := heap } p lookup port result
      rw [h]
      exact ⟨misused, released, tcpconns, espconn, plinkActive, lookups, nextBlock, busy, out, heap, rfl⟩

theorem closeClient_eq (k : ServerId) (i : LinkId) : ∃ misused espconn plinkActive,
    s.closeClient k i = { s with misused := misused, espconn := espconn, plinkActive := plinkActive } := by
  unfold closeClient
  split
  · exact ⟨_, _, _, rfl⟩
  · split
    · exact s.espconnDisconnect_eq _
    · exact ⟨_, _, _, rfl⟩

theorem closeClients_eq (k : ServerId) (is : List LinkId) : ∃ misused espconn plinkActive,
    is.foldl (fun s i => s.closeClient k i) s =
      { s with misused := misused, espconn := espconn, plinkActive := plinkActive } := by
  induction is generalizing s with
  | nil => exact ⟨_, _, _, rfl⟩
  | cons i is ih =>
    obtain ⟨misused, espconn, plinkActive, h⟩ := ih (s.closeClient k i)
    obtain ⟨misused', espconn', plinkActive', h'⟩ := s.closeClient_eq k i
    rw [List.foldl_cons, h, h']
    exact ⟨misused, espconn, plinkActive, rfl⟩

theorem startServer_eq (p : ServerParams) (result : Int8) : ∃ espconn nextBlock tcpservers pserverList out,
    s.startServer p result =
      { s with
        espconn := espconn, nextBlock := nextBlock, tcpservers := tcpservers, pserverList := pserverList
        out := out } := by
  simp only [startServer, espconnAccept]
  split <;> split <;> exact ⟨_, _, _, _, _, rfl⟩

theorem tcpServerCreate_eq (p : ServerParams) (result : Int8) :
    ∃ espconn nextBlock tcpservers pserverList out heap,
      s.tcpServerCreate p result =
        { s with
          espconn := espconn, nextBlock := nextBlock, tcpservers := tcpservers, pserverList := pserverList
          out := out, heap := heap } := by
  unfold tcpServerCreate
  split
  · exact ⟨_, _, _, _, _, _, rfl⟩
  · obtain ⟨heap, hheap⟩ := s.zallocs_eq 3
    split
    · rename_i u hu
      rw [hu] at hheap
      simp only at hheap
      subst hheap
      exact ⟨_, _, _, _, _, _, rfl⟩
    · rename_i u hu
      rw [hu] at hheap
      simp only at hheap
      subst hheap
      obtain ⟨espconn, nextBlock, tcpservers, pserverList, out, h⟩ :=
        startServer_eq { s with heap := heap } p result
      rw [h]
      exact ⟨espconn, nextBlock, tcpservers, pserverList, out, heap, rfl⟩

theorem tcpServerDelete_eq (k : ServerId) : ∃ misused released espconn plinkActive tcpservers pserverList out,
    s.tcpServerDelete k =
      { s with
        misused := misused, released := released, espconn := espconn, plinkActive := plinkActive
        tcpservers := tcpservers, pserverList := pserverList, out := out } := by
  unfold tcpServerDelete
  split
  · exact ⟨_, _, _, _, _, _, _, rfl⟩
  · obtain ⟨misused, espconn, plinkActive, h⟩ := s.closeClients_eq k (List.finRange TCPCONN_MAX_CONN)
    simp only
    rw [h]
    simp only [espconnDelete]
    split <;> exact ⟨_, _, _, _, _, _, _, rfl⟩

theorem atSetupCmdTCPClose_eq (lib : LibAt) (pPara : List UInt8) : ∃ misused espconn plinkActive out,
    s.atSetupCmdTCPClose lib pPara =
      { s with misused := misused, espconn := espconn, plinkActive := plinkActive, out := out } := by
  unfold atSetupCmdTCPClose
  split
  · exact ⟨_, _, _, _, rfl⟩
  · split
    · exact ⟨_, _, _, _, rfl⟩
    · split
      · obtain ⟨misused, espconn, plinkActive, h⟩ := espconnDisconnect_eq _ _
        rw [h]
        exact ⟨misused, espconn, plinkActive, _, rfl⟩
      · exact ⟨_, _, _, _, rfl⟩

theorem requestGetInput_eq (len : ℕ) (msg : String) (host : List (Option UInt8)) :
    ∃ out, (s.requestGetInput len msg host).2 = { s with out := out } := by
  simp only [requestGetInput]
  split <;> exact ⟨_, rfl⟩

theorem sendBuffer_eq (c : ℕ) (result : Int8) : ∃ misused espconn plinkActive busy out,
    s.sendBuffer c result =
      { s with
        misused := misused, espconn := espconn, plinkActive := plinkActive, busy := busy, out := out } := by
  obtain ⟨misused, espconn, plinkActive, hsend⟩ := s.espconnSend_eq c result
  simp only [sendBuffer]
  rw [hsend]
  split
  · obtain ⟨misused, espconn, plinkActive, h⟩ := espconnDisconnect_eq _ _
    rw [h]
    exact ⟨misused, espconn, plinkActive, _, _, rfl⟩
  · exact ⟨misused, espconn, plinkActive, _, _, rfl⟩

theorem atSetupCmdTCPSend_eq (lib : LibAt) (pPara : List UInt8) (host : List (Option UInt8)) (result : Int8) :
    ∃ misused espconn plinkActive busy out heap,
      s.atSetupCmdTCPSend lib pPara host result =
        { s with
          misused := misused, espconn := espconn, plinkActive := plinkActive, busy := busy, out := out
          heap := heap } := by
  unfold atSetupCmdTCPSend
  split
  · exact ⟨_, _, _, _, _, _, rfl⟩
  · rename_i i len _
    split
    · rename_i u hu
      obtain ⟨heap, rfl⟩ : ∃ heap, u = { s with heap := heap } := ⟨_, (congrArg Prod.snd hu).symm⟩
      exact ⟨_, _, _, _, _, _, rfl⟩
    · rename_i u hu
      obtain ⟨heap, rfl⟩ : ∃ heap, u = { s with heap := heap } := ⟨_, (congrArg Prod.snd hu).symm⟩
      obtain ⟨out, hout⟩ := requestGetInput_eq (atEnterSpecialState { s with heap := heap }) len "+TCPSEND" host
      split
      · rename_i v hv
        rw [hv] at hout
        simp only at hout
        subst hout
        exact ⟨_, _, _, _, _, _, rfl⟩
      · rename_i v hv
        rw [hv] at hout
        simp only at hout
        subst hout
        split
        · exact ⟨_, _, _, _, _, _, rfl⟩
        · obtain ⟨misused, espconn, plinkActive, busy, out, h⟩ := sendBuffer_eq _ _ _
          rw [h]
          exact ⟨misused, espconn, plinkActive, busy, out, _, rfl⟩

/-! ### Events -/

theorem acceptLink_eq (server : ℕ) (ip : Ip) (port : UInt16) : ∃ misused espconn,
    s.acceptLink server ip port =
      { s with
        misused := misused
        espconn := espconn
        nextBlock := s.nextBlock + 1
        plinkActive := s.plinkActive ++ [.new s.nextBlock (some server) true true] } :=
  ⟨_, _, rfl⟩

theorem espconnClientConnect_eq {c : ℕ} (h : (s.espconn c).connectCallback = some .tcpconn) :
    ∃ misused tcpconns espconn plinkActive busy out,
      s.espconnClientConnect c =
        { s with
          misused := misused, tcpconns := tcpconns, espconn := espconn, plinkActive := plinkActive
          busy := busy, out := out } := by
  have hcall : (((s.setState c .connect).mapLink c fun l => { l with established := true }).espconn
      c).connectCallback = some .tcpconn := by
    rw [← h]
    simp [mapLink, setState, setBlock]
  simp only [espconnClientConnect, hcall]
  obtain ⟨misused, tcpconns, espconn, plinkActive, busy, out, h⟩ := tcpconnConnectcb_eq _ _
  rw [h]
  exact ⟨misused, tcpconns, espconn, plinkActive, busy, out, rfl⟩

theorem espconnRecv_eq (c : ℕ) (data : List UInt8) (host : List (Option UInt8)) :
    ∃ misused espconn plinkActive busy out,
      s.espconnRecv c data host =
        { s with
          misused := misused, espconn := espconn, plinkActive := plinkActive, busy := busy, out := out } := by
  obtain ⟨misused, espconn, plinkActive, busy, out, h⟩ :=
    ((s.use c).setState c .read).tcpconnRecvcb_eq c data host
  simp only [espconnRecv]
  split
  · exact ⟨_, _, _, _, _, rfl⟩
  · rw [h]
    split
    · exact ⟨misused, espconn, plinkActive, busy, out, rfl⟩
    · split <;> exact ⟨_, _, _, _, _, rfl⟩

theorem espconnTcpFinish_eq (c : ℕ) : ∃ misused espconn plinkActive busy out,
    s.espconnTcpFinish c =
      { s with
        misused := misused, espconn := espconn, plinkActive := plinkActive, busy := busy, out := out } := by
  simp only [espconnTcpFinish]
  split <;> exact ⟨_, _, _, _, _, rfl⟩

/-- The block with which the end of a connection is reported has the contents of the connection's. -/
theorem espconn_reported (l : Link) :
    (s.ended l).espconn (reported l) = { s.espconn l.pespconn with state := .close } := by
  unfold ended copyToServer reported
  cases l.preverse with
  | none => simp [setState, setBlock, use]
  | some server => simp [copyPartial, setState, setBlock, use]

/-- What the layer does before it reports the end of a connection. -/
theorem ended_eq (l : Link) : ∃ misused espconn,
    s.ended l = { s with misused := misused, espconn := espconn } := by
  unfold ended copyToServer
  split <;> exact ⟨_, _, rfl⟩

theorem espconnTcpMempFree_eq (l : Link) : ∃ misused released,
    s.espconnTcpMempFree l = { s.dropLink l.pespconn with misused := misused, released := released } := by
  simp only [espconnTcpMempFree]
  split <;> exact ⟨_, _, rfl⟩

theorem ended_crashed (l : Link) : (s.ended l).crashed = s.crashed := by
  obtain ⟨_, _, h⟩ := s.ended_eq l
  rw [h]

theorem espconnTcpMempFree_crashed (l : Link) : (s.espconnTcpMempFree l).crashed = s.crashed := by
  obtain ⟨_, _, h⟩ := s.espconnTcpMempFree_eq l
  rw [h]
  rfl

theorem espconnTcpReconnect_eq (l : Link) (hs : s.crashed = false) : ∃ misused released tcpconns espconn busy out,
    s.espconnTcpReconnect l =
      { s.dropLink l.pespconn with
        misused := misused, released := released, tcpconns := tcpconns, espconn := espconn, busy := busy
        out := out } := by
  obtain ⟨misused, espconn, hended⟩ := s.ended_eq l
  simp only [espconnTcpReconnect, hended]
  split
  · obtain ⟨misused, released, tcpconns, busy, out, hrecon⟩ := tcpconnReconcb_eq _ _
    rw [hrecon]
    obtain ⟨misused, released, h⟩ := espconnTcpMempFree_eq _ _
    rw [if_neg (by simp [hs]), h]
    exact ⟨misused, released, tcpconns, espconn, busy, out, rfl⟩
  · obtain ⟨misused, released, h⟩ := espconnTcpMempFree_eq _ _
    rw [if_neg (by simp [hs]), h]
    exact ⟨misused, released, _, espconn, _, _, rfl⟩

theorem espconnTcpReconnect_crashed (l : Link) (hs : s.crashed = false) :
    (s.espconnTcpReconnect l).crashed = false := by
  obtain ⟨_, _, _, _, _, _, h⟩ := s.espconnTcpReconnect_eq l hs
  rw [h]
  exact hs

/-- A connection is closed: no handler, a crash without its server, or the link and the server's counter. -/
theorem espconnTcpDisconnectSuccessful_cases (l : Link) (hs : s.crashed = false) :
    ((s.espconn l.pespconn).disconnectCallback = false ∧
        s.espconnTcpDisconnectSuccessful l = (s.ended l).espconnTcpMempFree l) ∨
      (s.espconn l.pespconn).disconnectCallback = true ∧
        ((∃ k, serverOf (s.espconn l.pespconn).parrent = some k ∧ s.tcpservers k = none ∧
            s.espconnTcpDisconnectSuccessful l = ((s.ended l).use (reported l)).crash) ∨
          ∃ u, s.espconnTcpDisconnectSuccessful l =
              (u.linkClosed (reported l) (s.getTcpn (s.espconn l.pespconn).key)).espconnTcpMempFree l ∧
            (((∀ k, serverOf (s.espconn l.pespconn).parrent = some k →
                ∃ srv, s.tcpservers k = some srv ∧ srv.connected = 0) ∧ u = (s.ended l).use (reported l)) ∨
              ∃ k srv, serverOf (s.espconn l.pespconn).parrent = some k ∧ s.tcpservers k = some srv ∧
                srv.connected > 0 ∧ u = ((s.ended l).use (reported l)).setServer k
                  (some { srv with connected := srv.connected - 1 }))) := by
  have hblock := s.espconn_reported l
  obtain ⟨misused, espconn, hended⟩ := s.ended_eq l
  have hcrash : (s.ended l).crashed = false := by rw [hended]; exact hs
  have hservers : (s.ended l).tcpservers = s.tcpservers := by rw [hended]
  have htable : ∀ key, (s.ended l).getTcpn key = s.getTcpn key := fun key => by rw [hended]; rfl
  simp only [espconnTcpDisconnectSuccessful, tcpconnDisconcb_eq, hblock, htable]
  generalize s.ended l = v at hcrash hservers ⊢
  have hfinish : ∀ (u : Tcp) (n : Option LinkId), u.crashed = false →
      (let w := if u.crashed then u else u.linkClosed (reported l) n
        if w.crashed then w else w.espconnTcpMempFree l) =
        (u.linkClosed (reported l) n).espconnTcpMempFree l := by
    intro u n hu
    obtain ⟨_, _, _, _, hlink⟩ := u.linkClosed_eq (reported l) n
    have hclosed : (u.linkClosed (reported l) n).crashed = false := by rw [hlink]; exact hu
    simp [hu, hclosed]
  cases (s.espconn l.pespconn).disconnectCallback with
  | false => exact .inl ⟨rfl, by simp [hcrash]⟩
  | true =>
    refine .inr ⟨rfl, ?_⟩
    simp only [if_true]
    rcases (v.use (reported l)).leaveServer_cases (s.espconn l.pespconn).parrent with
      ⟨k, hk, hnone, hleave⟩ | ⟨hzero, hleave⟩ | ⟨k, srv, hk, hsrv, hpos, hleave⟩
    · refine .inl ⟨k, hk, hservers ▸ hnone, ?_⟩
      simp [hleave, crash]
    · refine .inr ⟨v.use (reported l), ?_, .inl ⟨fun k hk => hservers ▸ hzero k hk, rfl⟩⟩
      rw [hleave]
      exact hfinish _ _ hcrash
    · refine .inr ⟨_, ?_, .inr ⟨k, srv, hk, hservers ▸ hsrv, hpos, rfl⟩⟩
      rw [hleave]
      exact hfinish _ _ hcrash

end Esp8266At.Tcp
