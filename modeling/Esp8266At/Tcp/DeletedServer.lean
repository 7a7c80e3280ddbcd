import Esp8266At.Tcp.Blocks
import Esp8266At.Tcp.Frame

/-!
# Deleted servers

`AT+TCPSERVER=s,0` clears the entry of a server at once while the ends of its clients are reported later. The
handlers access the entry through the tag of the client's block: the runs in which they never find it empty,
and never count a client of a deleted server on the server that took its place, are exactly those in which
every client ends, and every client connects, before its server is deleted (`servers_safe_iff`).
-/

namespace Esp8266At.Tcp

/-- The connection an event of the layer is about. -/
def Event.connection : Event → Option ℕ
  | .connected c | .received c _ _ | .sent c | .failed c | .closed c => some c
  | _ => none

/-- No handler accesses an empty entry of the servers, and no event of a client changes a server that is not
its own. -/
def ServersSafe (lib : LibAt) (a : Action) (s : Tcp) : Prop :=
  (s.step lib a).crashed = false ∧
    ∀ e c l b k srv, a = .event e → e.connection = some c → s.findConnection c = some l → l.preverse = some b →
      s.tcpservers k = some srv → srv.conn ≠ b → (s.step lib a).tcpservers k = some srv

/-- A client whose disconnect handler is registered is closed while its server, or one without clients, has the
entry of the tag; a client connects while the entry of the server's tag is not empty. -/
def ServersKept (a : Action) (s : Tcp) : Prop :=
  match a with
  | .event (.closed c) => ∀ l b k, s.findConnection c = some l → l.established = true ∨ l.closing = true →
    l.preverse = some b → (s.espconn c).disconnectCallback = true → serverOf (s.espconn c).parrent = some k →
    ∃ srv, s.tcpservers k = some srv ∧ (srv.conn = b ∨ srv.connected = 0)
  | .event (.accepted server _ _) => ∀ k, server ∈ s.pserverList → s.linkCnt server ≠ s.numTcpPcb →
    serverOf (s.espconn server).parrent = some k → (s.tcpservers k).isSome
  | _ => True

variable {lib : LibAt} {s : Tcp} {role : ℕ → Role}

/-! ### The handlers that access a server -/

theorem tcpserverClientConnectcb_crashed {c : ℕ} {k : ServerId} (hk : serverOf (s.espconn c).parrent = some k)
    (hs : s.crashed = false) : (s.tcpserverClientConnectcb c).crashed = (s.tcpservers k).isNone := by
  rcases s.tcpserverClientConnectcb_cases hk with ⟨hsrv, h⟩ | ⟨srv, hsrv, ⟨heap, out, h⟩ | ⟨i, heap, -, -, h⟩⟩
  · rw [h, hsrv]
    rfl
  · obtain ⟨misused, espconn, plinkActive, hdis⟩ := espconnDisconnect_eq { s.use c with heap := heap } c
    rw [h, hdis, hsrv]
    exact hs
  · obtain ⟨out, hout⟩ := acceptClient_eq { s.use c with heap := heap } c k srv i
    rw [h, hout, hsrv]
    exact hs

/-- A connection is closed: its handler is not registered, or there is a crash without the server of its tag, or
the counter of that server goes down to 0. -/
theorem servers_closed (l : Link) (hs : s.crashed = false) :
    let u := s.espconnTcpDisconnectSuccessful l
    ((s.espconn l.pespconn).disconnectCallback = false ∧ u.crashed = false ∧ u.tcpservers = s.tcpservers) ∨
      (s.espconn l.pespconn).disconnectCallback = true ∧
        ((∃ k, serverOf (s.espconn l.pespconn).parrent = some k ∧ s.tcpservers k = none ∧ u.crashed = true) ∨
          u.crashed = false ∧
            (((∀ k, serverOf (s.espconn l.pespconn).parrent = some k →
                ∃ srv, s.tcpservers k = some srv ∧ srv.connected = 0) ∧ u.tcpservers = s.tcpservers) ∨
              ∃ k srv, serverOf (s.espconn l.pespconn).parrent = some k ∧ s.tcpservers k = some srv ∧
                srv.connected > 0 ∧
                u.tcpservers = s.tcpservers.set k (some { srv with connected := srv.connected - 1 }))) := by
  obtain ⟨misused, espconn, hended⟩ := s.ended_eq l
  have hfree : ∀ v : Tcp, (v.espconnTcpMempFree l).crashed = v.crashed ∧
      (v.espconnTcpMempFree l).tcpservers = v.tcpservers := by
    intro v
    obtain ⟨_, _, h⟩ := v.espconnTcpMempFree_eq l
    rw [h]
    exact ⟨rfl, rfl⟩
  have hlink : ∀ (v : Tcp) (n : Option LinkId), (v.linkClosed (reported l) n).crashed = v.crashed ∧
      (v.linkClosed (reported l) n).tcpservers = v.tcpservers := by
    intro v n
    obtain ⟨_, _, _, _, h⟩ := v.linkClosed_eq (reported l) n
    rw [h]
    exact ⟨rfl, rfl⟩
  simp only
  rcases s.espconnTcpDisconnectSuccessful_cases l hs with ⟨hreg, h⟩ | ⟨hreg, ⟨k, hk, hnone, h⟩ | ⟨u, h, hu⟩⟩
  · left
    rw [h, (hfree _).1, (hfree _).2, hended]
    exact ⟨hreg, hs, rfl⟩
  · refine .inr ⟨hreg, .inl ⟨k, hk, hnone, ?_⟩⟩
    rw [h]
    rfl
  · right
    rw [h, (hfree _).1, (hfree _).2, (hlink _ _).1, (hlink _ _).2]
    rcases hu with ⟨hzero, rfl⟩ | ⟨k, srv, hk, hsrv, hpos, rfl⟩
    · rw [hended]
      exact ⟨hreg, .inr ⟨hs, .inl ⟨hzero, rfl⟩⟩⟩
    · rw [hended]
      exact ⟨hreg, .inr ⟨hs, .inr ⟨k, srv, hk, hsrv, hpos, rfl⟩⟩⟩

theorem acceptLink_block (s : Tcp) {server : ℕ} (ip : Ip) (port : UInt16) (hserver : server ≠ s.nextBlock) :
    (s.acceptLink server ip port).espconn s.nextBlock =
      { s.espconn server with remoteIp := ip, remotePort := port, state := .connect } := by
  simp [acceptLink, copyPartial, setBlock, addLink, create, use, hserver]

/-- A client connects: without the server of the tag there is a crash. -/
theorem accepted_crashed (hb : s.wiring.Blocks role) (hs : s.crashed = false) {server : ℕ} (ip : Ip) (port : UInt16)
    (hserver : server ∈ s.pserverList) :
    (s.espconnTcpAccept server ip port).crashed = false ↔
      ∀ k, s.linkCnt server ≠ s.numTcpPcb → serverOf (s.espconn server).parrent = some k →
        (s.tcpservers k).isSome := by
  obtain ⟨hlt, hrole⟩ := hb.listening server hserver
  obtain ⟨⟨k, hk⟩, hcall, -⟩ := hb.serverIdent server hlt (by simp [hrole])
  have hk : (s.espconn server).parrent = serverTag k := hk
  have hcall : (s.espconn server).connectCallback = some .tcpserverClient := hcall
  simp only [espconnTcpAccept]
  generalize hu : (s.use server).setBlock server
    { (s.use server).espconn server with linkCnt := UInt8.ofNat ((s.use server).linkCnt server) } = u
  have hcnt : u.linkCnt server = s.linkCnt server ∧ u.numTcpPcb = s.numTcpPcb ∧ u.crashed = false ∧
      u.tcpservers = s.tcpservers ∧ u.nextBlock = s.nextBlock := by
    rw [← hu]
    exact ⟨rfl, rfl, hs, rfl, rfl⟩
  obtain ⟨hcnt, hpcb, hcrash, hservers, hnext⟩ := hcnt
  have hold : (u.espconn server).connectCallback = some .tcpserverClient ∧ (u.espconn server).parrent = serverTag k := by
    rw [← hu, ← hcall, ← hk]
    simp [setBlock, use]
  rw [hcnt, hpcb]
  split
  · rename_i hfull
    simp [hcrash, hfull]
  · rename_i hfull
    have hblock := acceptLink_block u ip port (by rw [hnext]; exact hlt.ne)
    obtain ⟨_, _, hlink⟩ := u.acceptLink_eq server ip port
    have hlinked : (u.acceptLink server ip port).crashed = false ∧
        (u.acceptLink server ip port).tcpservers = s.tcpservers := by
      rw [hlink]
      exact ⟨hcrash, hservers⟩
    simp only [hblock, hold.1]
    rw [tcpserverClientConnectcb_crashed (k := k) (by rw [hblock]; simp [hold.2]) hlinked.1, hlinked.2]
    constructor
    · intro hsome j _ hj
      rw [hk, serverOf_serverTag] at hj
      cases hj
      simpa using hsome
    · intro hsome
      simpa using hsome k hfull (by rw [hk, serverOf_serverTag])

/-! ### Steps -/

theorem command_crashed (c : Command) (hs : s.crashed = false) : (s.command lib c).crashed = false := by
  cases c with
  | start pPara lookup port result =>
    obtain ⟨_, _, _, _, _, _, _, _, _, _, h⟩ := s.atSetupCmdTCPConnConnect_eq lib pPara lookup port result
    rw [command, h]
    exact hs
  | server pPara result =>
    simp only [command, atSetupCmdTCPServer]
    split
    · exact hs
    · split
      · obtain ⟨_, _, _, _, _, _, h⟩ := s.tcpServerCreate_eq _ result
        rw [h]
        exact hs
      · obtain ⟨_, _, _, _, _, _, _, h⟩ := s.tcpServerDelete_eq _
        rw [h]
        exact hs
  | close pPara =>
    obtain ⟨_, _, _, _, h⟩ := s.atSetupCmdTCPClose_eq lib pPara
    rw [command, h]
    exact hs
  | send pPara host result =>
    obtain ⟨_, _, _, _, _, _, h⟩ := s.atSetupCmdTCPSend_eq lib pPara host result
    rw [command, h]
    exact hs

/-- Events that are neither the end of a client nor a new client leave the servers alone. -/
theorem event_servers (e : Event) (hb : s.wiring.Blocks role) (hs : s.crashed = false)
    (haccepted : ∀ server ip port, e ≠ .accepted server ip port) (hclosed : ∀ c, e ≠ .closed c) :
    (s.event e).crashed = false ∧ (s.event e).tcpservers = s.tcpservers := by
  cases e with
  | found c ip port result =>
    simp only [event]
    split
    · obtain ⟨_, _, _, _, _, _, _, h⟩ :=
        tcpconnResolved_eq { s with lookups := s.lookups.filter (· ≠ c) } c ip port result
      rw [h]
      exact ⟨hs, rfl⟩
    · exact ⟨hs, rfl⟩
  | connected c =>
    simp only [event]
    split
    · rename_i l hl
      split
      · rename_i hcond
        obtain ⟨_, _, _, _, _, _, h⟩ := s.espconnClientConnect_eq (connectCallback_of_outgoing hb hl hcond.1)
        rw [h]
        exact ⟨hs, rfl⟩
      · exact ⟨hs, rfl⟩
    · exact ⟨hs, rfl⟩
  | accepted server ip port => exact absurd rfl (haccepted server ip port)
  | received c data host =>
    simp only [event]
    split
    · split
      · obtain ⟨_, _, _, _, _, h⟩ := s.espconnRecv_eq c data host
        rw [h]
        exact ⟨hs, rfl⟩
      · exact ⟨hs, rfl⟩
    · exact ⟨hs, rfl⟩
  | sent c =>
    simp only [event]
    split
    · split
      · obtain ⟨_, _, _, _, _, h⟩ := s.espconnTcpFinish_eq c
        rw [h]
        exact ⟨hs, rfl⟩
      · exact ⟨hs, rfl⟩
    · exact ⟨hs, rfl⟩
  | failed c =>
    simp only [event]
    split
    · rename_i l _
      split
      · obtain ⟨_, _, _, _, _, _, h⟩ := s.espconnTcpReconnect_eq l hs
        rw [h]
        exact ⟨hs, rfl⟩
      · exact ⟨hs, rfl⟩
    · exact ⟨hs, rfl⟩
  | closed c => exact absurd rfl (hclosed c)

/-- A client of server block `b` is closed. -/
theorem closed_safe_iff (hb : s.wiring.Blocks role) (hs : s.crashed = false) {c : ℕ} {l : Link}
    (hl : s.findConnection c = some l) :
    ((s.espconnTcpDisconnectSuccessful l).crashed = false ∧
        ∀ b k srv, l.preverse = some b → s.tcpservers k = some srv → srv.conn ≠ b →
          (s.espconnTcpDisconnectSuccessful l).tcpservers k = some srv) ↔
      ∀ b k, l.preverse = some b → (s.espconn c).disconnectCallback = true →
        serverOf (s.espconn c).parrent = some k →
        ∃ srv, s.tcpservers k = some srv ∧ (srv.conn = b ∨ srv.connected = 0) := by
  obtain ⟨rfl, -, hmem⟩ := mem_wiring_links hl
  have hservers := servers_closed l hs
  simp only at hservers
  generalize s.espconnTcpDisconnectSuccessful l = u at hservers ⊢
  obtain ⟨hlt, hrole⟩ := hb.link _ _ hmem
  constructor
  · rintro ⟨hcrash, hsame⟩ b k hp hreg hk
    rcases hservers with ⟨hno, -, -⟩ | ⟨-, ⟨j, -, -, hc⟩ | ⟨-, ⟨hzero, -⟩ | ⟨j, srv, hj, hsrv, hpos, hset⟩⟩⟩
    · simp [hreg] at hno
    · simp [hcrash] at hc
    · obtain ⟨srv, hsrv, h0⟩ := hzero k hk
      exact ⟨srv, hsrv, .inr h0⟩
    · rw [hk] at hj
      cases hj
      refine ⟨srv, hsrv, .inl ?_⟩
      by_contra hne
      have hkept := hsame b k srv hp hsrv hne
      rw [hset, Table.set_self, Option.some.injEq] at hkept
      have hdown := congrArg TcpServer.connected hkept
      simp only at hdown
      grind
  · intro hkept
    have hcases : u.crashed = false ∧ (u.tcpservers = s.tcpservers ∨ ∃ k srv,
        serverOf (s.espconn l.pespconn).parrent = some k ∧ s.tcpservers k = some srv ∧
        srv.connected > 0 ∧ (s.espconn l.pespconn).disconnectCallback = true ∧
        u.tcpservers = s.tcpservers.set k (some { srv with connected := srv.connected - 1 })) := by
      rcases hservers with ⟨-, hc, hsame⟩ | ⟨hreg, ⟨k, hk, hnone, -⟩ | ⟨hc, ⟨-, hsame⟩ | ⟨k, srv, hk, hsrv, hpos, hset⟩⟩⟩
      · exact ⟨hc, .inl hsame⟩
      · -- an outgoing link has no server's tag, and the server of a client is there
        cases hp : l.preverse with
        | none =>
          rw [hp] at hrole
          obtain ⟨i, hi⟩ := hb.linkIdent _ hlt hrole
          have hi : (s.espconn l.pespconn).parrent = linkTag i := hi
          rw [hi, serverOf_linkTag] at hk
          cases hk
        | some b =>
          obtain ⟨srv, hsrv, -⟩ := hkept b k hp hreg hk
          rw [hnone] at hsrv
          cases hsrv
      · exact ⟨hc, .inl hsame⟩
      · exact ⟨hc, .inr ⟨k, srv, hk, hsrv, hpos, hreg, hset⟩⟩
    refine ⟨hcases.1, fun b k srv hp hsrv hne => ?_⟩
    rcases hcases.2 with hsame | ⟨j, old, hj, hold, hpos, hreg, hset⟩
    · rw [hsame]
      exact hsrv
    · obtain ⟨own, hown, hor⟩ := hkept b j hp hreg hj
      rw [hold] at hown
      cases hown
      have hjk : k ≠ j := by
        rintro rfl
        rw [hold] at hsrv
        cases hsrv
        rcases hor with heq | h0
        · exact hne heq
        · rw [h0] at hpos
          simp at hpos
      rw [hset, Table.set_ne hjk]
      exact hsrv

theorem servers_safe_step (a : Action) (hb : s.wiring.Blocks role) (hs : s.crashed = false) :
    ServersSafe lib a s ↔ ServersKept a s := by
  cases a with
  | command c =>
    have hc : (s.step lib (.command c)).crashed = false := by
      simp only [step, hs, Bool.false_eq_true, if_false]
      split
      · exact hs
      · exact command_crashed c hs
    exact ⟨fun _ => trivial, fun _ => ⟨hc, fun e _ _ _ _ _ he => by cases he⟩⟩
  | event e =>
    have hstep : s.step lib (.event e) = s.event e := by simp [step, hs]
    unfold ServersSafe
    rw [hstep]
    by_cases hclosed : ∃ c, e = .closed c
    · obtain ⟨c, rfl⟩ := hclosed
      simp only [event, ServersKept]
      cases hl : s.findConnection c with
      | none =>
        refine ⟨?_, fun _ => ⟨hs, fun _ _ _ _ _ _ _ _ _ _ hsrv _ => hsrv⟩⟩
        rintro - _ _ _ ⟨⟩
      | some l =>
        simp only
        by_cases hend : l.established = true ∨ l.closing = true
        · rw [if_pos hend]
          have hiff := closed_safe_iff hb hs hl
          constructor
          · rintro ⟨hc, hsame⟩ _ b k ⟨⟩ - hp hreg hk
            exact hiff.mp ⟨hc, fun b k srv => hsame _ c l b k srv rfl rfl hl⟩ b k hp hreg hk
          · intro hkept
            obtain ⟨hc, hsame⟩ := hiff.mpr fun b k => hkept l b k rfl hend
            refine ⟨hc, ?_⟩
            rintro _ _ m b k srv ⟨⟩ ⟨⟩ hm
            rw [hl] at hm
            cases hm
            exact hsame b k srv
        · rw [if_neg hend]
          refine ⟨?_, fun _ => ⟨hs, fun _ _ _ _ _ _ _ _ _ _ hsrv _ => hsrv⟩⟩
          rintro - _ b k ⟨⟩ hor
          exact absurd hor hend
    · by_cases haccepted : ∃ server ip port, e = .accepted server ip port
      · obtain ⟨server, ip, port, rfl⟩ := haccepted
        simp only [event, ServersKept]
        by_cases hmem : server ∈ s.pserverList
        · rw [if_pos hmem]
          have hiff := accepted_crashed hb hs ip port hmem
          constructor
          · intro h k _ hcnt hk
            exact hiff.mp h.1 k hcnt hk
          · intro hkept
            refine ⟨hiff.mpr fun k hcnt hk => hkept k hmem hcnt hk, ?_⟩
            rintro _ _ _ _ _ _ ⟨⟩ ⟨⟩
        · rw [if_neg hmem]
          refine ⟨fun _ _ hin => absurd hin hmem, fun _ => ⟨hs, ?_⟩⟩
          rintro _ _ _ _ _ _ ⟨⟩ ⟨⟩
      · have hevent := event_servers e hb hs (fun server ip port h => haccepted ⟨server, ip, port, h⟩)
          (fun c h => hclosed ⟨c, h⟩)
        have hkept : ServersKept (.event e) s := by
          cases e with
          | closed c => exact absurd ⟨c, rfl⟩ hclosed
          | accepted server ip port => exact absurd ⟨server, ip, port, rfl⟩ haccepted
          | _ => trivial
        refine ⟨fun _ => hkept, fun _ => ⟨hevent.1, fun _ _ _ _ k srv _ _ _ _ hsrv _ => ?_⟩⟩
        rw [hevent.2]
        exact hsrv

/-- The blocks have their roles and there has been no crash. -/
def Intact (s : Tcp) : Prop := (∃ role, s.wiring.Blocks role) ∧ s.crashed = false

/-- A run is safe for the servers exactly if clients connect and are closed before their server is deleted. -/
theorem servers_safe_iff (heap : ℕ → Bool) (numTcpPcb : ℕ) (as : List Action) :
    Machine.Along (step lib) (ServersSafe lib) as (atReset heap numTcpPcb) ↔
      Machine.Along (step lib) ServersKept as (atReset heap numTcpPcb) := by
  have hstart : (atReset heap numTcpPcb).Intact := ⟨⟨fun _ => .link, blocks_atReset _ heap numTcpPcb⟩, rfl⟩
  have hiff : ∀ a s, Intact s → (ServersSafe lib a s ↔ ServersKept a s) := by
    rintro a s ⟨⟨role, hb⟩, hs⟩
    exact servers_safe_step a hb hs
  have hstep : ∀ a s, Intact s → ServersKept a s → Intact (step lib a s) :=
    fun a s h hkept => ⟨blocks_step a h.1, ((hiff a s h).mpr hkept).1⟩
  exact Machine.along_iff hstep hiff hstart

/-- Server 0 is created, or deleted. -/
def server0 (enable : String) : Action := .command (.server (CString.ascii s!"=0,{enable},333\r") 0)

/-- The server is deleted while a client is connected, and the client is closed: there is a crash. -/
theorem not_servers_safe :
    ¬ Machine.Along (step plainAt) (ServersSafe plainAt)
      [server0 "1", .event (.accepted 0 0x0200A8C0 50000), server0 "0", .event (.closed 1)]
      (atReset (fun _ => true) 5) := by
  rintro ⟨-, -, -, h, -⟩
  have hcrash : (Machine.run (step plainAt)
      [server0 "1", .event (.accepted 0 0x0200A8C0 50000), server0 "0", .event (.closed 1)]
      (atReset (fun _ => true) 5)).crashed = true := by decide +kernel
  exact absurd (hcrash.symm.trans h.1) (by simp)

end Esp8266At.Tcp
