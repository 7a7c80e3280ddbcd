import Esp8266At.Tcp.Owned
import Esp8266At.Tcp.Frame

/-!
# Events act on their link

An event of the connection of link `i` marks, reads or clears link `i`, reports `i` and leaves the other
links alone, in every run in which the remote addresses and ports of links and connections differ and a
connection ends while a handler for it is registered and its server exists (`events_act_on_their_link`).
Two links to the same host and port are enough for an event to act on the wrong one.
-/

namespace Esp8266At.Tcp

/-- The layer reports the event, and does so for connection `c`. -/
def Event.Reported (s : Tcp) (c : ℕ) : Event → Prop
  | .connected d => d = c ∧
    ∃ l, s.findConnection c = some l ∧ l.preverse = none ∧ l.established = false ∧ l.closing = false
  | .received d _ _ => d = c ∧ (s.espconn c).recvCallback = true ∧
    ∃ l, s.findConnection c = some l ∧ l.established = true ∧ l.closing = false
  | .failed d => d = c ∧ ∃ l, s.findConnection c = some l ∧ l.closing = false
  | .closed d => d = c ∧ ∃ l, s.findConnection c = some l ∧ (l.established = true ∨ l.closing = true)
  | _ => False

/-- What an event of the connection of link `i`, which is `t`, leads to. -/
def Event.ActsOn (i : LinkId) (t : TcpConn) (s s' : Tcp) : Event → Prop
  | .connected _ => s'.tcpconns = s.tcpconns.set i (some { t with connected := 1 }) ∧
    s'.out = s.out ++ [.text s!"{i},CONNECT\r\n", .ok]
  | .received _ data _ => s'.tcpconns = s.tcpconns ∧
    ∃ (srv_n : ℕ) (out : List Output), s'.out = s.out ++ .text s!"\r\n+TCP,{i},{srv_n},{data.length}:" :: out
  | .failed _ => s'.tcpconns = s.tcpconns.set i none ∧
    s'.out = s.out ++ [if t.connected = 0 then .error else .text s!"{i},CLOSED\r\n"]
  | .closed _ => s'.tcpconns = s.tcpconns.set i none ∧ s'.out = s.out ++ [.text s!"{i},CLOSED\r\n"]
  | _ => True

/-- An event acts on the link whose connection it is about. -/
def ActsOnItsLink (lib : LibAt) (a : Action) (s : Tcp) : Prop :=
  ∀ e c i t, a = .event e → s.crashed = false → e.Reported s c → s.tcpconns i = some t → t.conn = c →
    e.ActsOn i t s (s.step lib a)

/-- A connection that a link has ends with an error only if the link was opened here, and is closed only with
its handler registered and, if it is a client, with its server in the table. -/
def EndsHandled (a : Action) (s : Tcp) : Prop :=
  match a with
  | .event (.failed c) => ∀ i t l, s.tcpconns i = some t → t.conn = c → s.findConnection c = some l →
    l.preverse = none
  | .event (.closed c) => ∀ i t, s.tcpconns i = some t → t.conn = c → (s.espconn c).disconnectCallback = true ∧
    ∀ k, serverOf (s.espconn c).parrent = some k → (s.tcpservers k).isSome
  | _ => True

variable {lib : LibAt} {s : Tcp} {i : LinkId} {t : TcpConn} {c : ℕ}

/-! ### Handlers that find their link -/

theorem getTcpn_held (h : s.Linked) {l : Link} (ht : s.tcpconns i = some t) (hl : s.findConnection t.conn = some l) :
    s.getTcpn (s.espconn t.conn).key = some i := by
  rw [getTcpn_eq]
  have hslot : s.wiring.slots i = some t.slot := by simp [wiring, ht]
  have hlive : s.wiring.Live t.slot.conn := ⟨l.preverse, (mem_wiring_links hl).2.2⟩
  exact h.2.find_key hslot hlive

theorem tcpconnConnectcb_held (hi : s.getTcpn (s.espconn c).key = some i) (ht : s.tcpconns i = some t) :
    (s.tcpconnConnectcb c).tcpconns = s.tcpconns.set i (some { t with connected := 1 }) ∧
      (s.tcpconnConnectcb c).out = s.out ++ [.text s!"{i},CONNECT\r\n", .ok] := by
  have hfind : (s.use c).getTcpn ((s.use c).espconn c).key = some i := hi
  have hslot : (s.use c).tcpconns i = some t := ht
  simp only [tcpconnConnectcb, hfind, hslot, linkConnected]
  constructor
  · split <;> rfl
  · split <;> simp [responseOk, atLeaveSpecialState, print, setConn, espconnSetKeepalive, mapLink, use,
      tcpconnRegisterCb, setBlock, espconnSetOpt]

theorem tcpconnReconcb_held (hi : s.getTcpn (s.espconn c).key = some i) (ht : s.tcpconns i = some t) :
    (s.tcpconnReconcb c).tcpconns = s.tcpconns.set i none ∧
      (s.tcpconnReconcb c).out = s.out ++ [if t.connected = 0 then .error else .text s!"{i},CLOSED\r\n"] := by
  have hfind : (s.use c).getTcpn ((s.use c).espconn c).key = some i := hi
  have hslot : (s.use c).atLeaveSpecialState.tcpconns i = some t := ht
  simp only [tcpconnReconcb, hfind, hslot]
  by_cases hc : t.connected = 0
  · simp [hc, tcpconnCleanup, responseError, atLeaveSpecialState, use, ht, setConn, release]
  · simp [hc, tcpconnCleanup, print, atLeaveSpecialState, use, ht, setConn, release]

theorem leaveServer_out (s : Tcp) (parrent : UInt8) : (s.leaveServer parrent).out = s.out := by
  unfold leaveServer
  split
  · rfl
  · split
    · rfl
    · split <;> rfl

theorem leaveServer_crashed {parrent : UInt8} (h : ∀ k, serverOf parrent = some k → (s.tcpservers k).isSome) :
    (s.leaveServer parrent).crashed = s.crashed := by
  unfold leaveServer
  split
  · rfl
  · rename_i k hk
    obtain ⟨srv, hsrv⟩ := Option.isSome_iff_exists.mp (h k hk)
    simp only [hsrv]
    split <;> rfl

theorem tcpconnDisconcb_held (hi : s.getTcpn (s.espconn c).key = some i) (ht : s.tcpconns i = some t)
    (hsrv : ∀ k, serverOf (s.espconn c).parrent = some k → (s.tcpservers k).isSome) (hs : s.crashed = false) :
    (s.tcpconnDisconcb c).tcpconns = s.tcpconns.set i none ∧
      (s.tcpconnDisconcb c).out = s.out ++ [.text s!"{i},CLOSED\r\n"] ∧ (s.tcpconnDisconcb c).crashed = false := by
  have hout := leaveServer_out (s.use c) (s.espconn c).parrent
  have htable := (s.use c).leaveServer_tcpconns (s.espconn c).parrent
  have hcrash : ((s.use c).leaveServer (s.espconn c).parrent).crashed = false :=
    (leaveServer_crashed (s := s.use c) hsrv).trans hs
  rw [tcpconnDisconcb_eq]
  generalize (s.use c).leaveServer (s.espconn c).parrent = u at hout htable hcrash ⊢
  have hslot : u.tcpconns i = some t := by rw [htable]; exact ht
  simp only [hcrash, hi, linkClosed, tcpconnCleanup, hslot, Bool.false_eq_true, if_false]
  refine ⟨?_, ?_, hcrash⟩
  · exact congrArg (fun f => Table.set f i none) htable
  · exact congrArg (fun o => o ++ [Output.text s!"{i},CLOSED\r\n"]) hout

theorem tcpconnRecvcb_held (data : List UInt8) (host : List (Option UInt8))
    (hi : s.getTcpn (s.espconn c).key = some i) :
    (s.tcpconnRecvcb c data host).tcpconns = s.tcpconns ∧ ∃ (srv_n : ℕ) (out : List Output),
      (s.tcpconnRecvcb c data host).out = s.out ++ .text s!"\r\n+TCP,{i},{srv_n},{data.length}:" :: out := by
  have hfind : (s.use c).getTcpn ((s.use c).espconn c).key = some i := hi
  simp only [tcpconnRecvcb, hfind]
  generalize (s.use c).announcedServer i = srv_n
  obtain ⟨out, hout, hfirst⟩ := recvRounds_eq (s.use c).atEnterSpecialState i srv_n data
    (host.length + 1) host
  obtain ⟨rest, rfl⟩ := hfirst (Nat.succ_pos _)
  generalize recvRounds i srv_n data (host.length + 1) host (s.use c).atEnterSpecialState = r at hout ⊢
  obtain ⟨ok, u⟩ := r
  simp only at hout
  have htable : u.tcpconns = s.tcpconns := by rw [hout]; rfl
  have hprinted : u.out = s.out ++ .text s!"\r\n+TCP,{i},{srv_n},{data.length}:" :: rest := by rw [hout]; rfl
  cases ok with
  | true => exact ⟨htable, srv_n, rest, hprinted⟩
  | false =>
    simp only
    split
    · obtain ⟨misused, espconn, plinkActive, hdis⟩ := espconnDisconnect_eq (u.print "\r\n+TCPabort\r\n") c
      rw [hdis]
      exact ⟨htable, srv_n, rest ++ [.text "\r\n+TCPabort\r\n"], by simp [atLeaveSpecialState, print, hprinted]⟩
    · exact ⟨htable, srv_n, rest, hprinted⟩

/-! ### Events -/

theorem acts_connected (h : s.Linked) (ht : s.tcpconns i = some t) {l : Link}
    (hl : s.findConnection t.conn = some l) (hp : l.preverse = none) :
    (Event.connected t.conn).ActsOn i t s (s.espconnClientConnect t.conn) := by
  obtain ⟨⟨role, hb⟩, -⟩ := id h
  have hcall := connectCallback_of_outgoing hb hl hp
  have hi := getTcpn_held h ht hl
  simp only [espconnClientConnect]
  have hkey : (((s.setState t.conn .connect).mapLink t.conn fun l => { l with established := true }).espconn
      t.conn) = { s.espconn t.conn with state := .connect } := by
    simp [mapLink, setState, setBlock]
  generalize hu : (s.setState t.conn .connect).mapLink t.conn (fun l => { l with established := true }) = u
    at hkey ⊢
  have htable : u.tcpconns = s.tcpconns := by rw [← hu]; rfl
  have hout : u.out = s.out := by rw [← hu]; rfl
  have hfind : u.getTcpn (u.espconn t.conn).key = some i := by
    rw [← hi, hkey]
    exact congrArg (Table.firstWhere fun u => u.key = (s.espconn t.conn).key) htable
  obtain ⟨hset, hprint⟩ := tcpconnConnectcb_held hfind (by rw [htable]; exact ht)
  rw [hkey, hcall]
  exact ⟨by rw [hset, htable], by rw [hprint, hout]⟩

theorem acts_received (h : s.Linked) (ht : s.tcpconns i = some t) {l : Link}
    (hl : s.findConnection t.conn = some l) (hr : (s.espconn t.conn).recvCallback = true) (data : List UInt8)
    (host : List (Option UInt8)) :
    (Event.received t.conn data host).ActsOn i t s (s.espconnRecv t.conn data host) := by
  have hi := getTcpn_held h ht hl
  have hrecv : ((s.use t.conn).espconn t.conn).recvCallback = true := hr
  have hkey : ((s.use t.conn).setState t.conn .read).espconn t.conn = { s.espconn t.conn with state := .read } := by
    simp [setState, setBlock, use]
  simp only [espconnRecv, hrecv, Bool.true_eq_false, if_false]
  generalize hu : (s.use t.conn).setState t.conn .read = u at hkey ⊢
  have htable : u.tcpconns = s.tcpconns := by rw [← hu]; rfl
  have hout : u.out = s.out := by rw [← hu]; rfl
  have hfind : u.getTcpn (u.espconn t.conn).key = some i := by
    rw [← hi, hkey]
    exact congrArg (Table.firstWhere fun u => u.key = (s.espconn t.conn).key) htable
  obtain ⟨hset, srv_n, out, hprint⟩ := tcpconnRecvcb_held data host hfind
  rw [htable] at hset
  rw [hout] at hprint
  split
  · exact ⟨hset, srv_n, out, hprint⟩
  · split
    · exact ⟨hset, srv_n, out, hprint⟩
    · exact ⟨hset, srv_n, out, hprint⟩

theorem memp_free_table (l : Link) : (s.espconnTcpMempFree l).tcpconns = s.tcpconns ∧
    (s.espconnTcpMempFree l).out = s.out := by
  simp only [espconnTcpMempFree]
  split <;> exact ⟨rfl, rfl⟩

theorem ended_table (l : Link) :
    (s.ended l).tcpconns = s.tcpconns ∧ (s.ended l).tcpservers = s.tcpservers ∧ (s.ended l).out = s.out := by
  obtain ⟨_, _, h⟩ := s.ended_eq l
  rw [h]
  exact ⟨rfl, rfl, rfl⟩

theorem acts_failed (h : s.Linked) (hs : s.crashed = false) (ht : s.tcpconns i = some t) {l : Link}
    (hl : s.findConnection t.conn = some l) (hp : l.preverse = none) :
    (Event.failed t.conn).ActsOn i t s (s.espconnTcpReconnect l) := by
  obtain ⟨⟨role, hb⟩, -⟩ := id h
  obtain ⟨hc, -, hmem⟩ := mem_wiring_links hl
  rw [hp] at hmem
  have hreg : (s.espconn t.conn).reconnectCallback = true := (hb.outgoing _ hmem).2
  have hi := getTcpn_held h ht hl
  have hblock := s.espconn_reported l
  have hcrash := s.ended_crashed l
  obtain ⟨htable, -, hout⟩ := ended_table (s := s) l
  simp only [espconnTcpReconnect]
  generalize s.ended l = u at hblock htable hout hcrash ⊢
  rw [hc] at hblock
  have hfind : u.getTcpn (u.espconn (reported l)).key = some i := by
    rw [← hi, hblock]
    exact congrArg (Table.firstWhere fun u => u.key = (s.espconn t.conn).key) htable
  obtain ⟨hset, hprint⟩ := tcpconnReconcb_held hfind (by rw [htable]; exact ht)
  rw [htable] at hset
  rw [hout] at hprint
  have hfree := memp_free_table (s := u.tcpconnReconcb (reported l)) l
  simp only [hblock, hreg, if_true, tcpconnReconcb_crashed, hcrash, hs, Bool.false_eq_true, if_false]
  exact ⟨hfree.1.trans hset, hfree.2.trans hprint⟩

theorem acts_closed (h : s.Linked) (hs : s.crashed = false) (ht : s.tcpconns i = some t) {l : Link}
    (hl : s.findConnection t.conn = some l) (hreg : (s.espconn t.conn).disconnectCallback = true)
    (hsrv : ∀ k, serverOf (s.espconn t.conn).parrent = some k → (s.tcpservers k).isSome) :
    (Event.closed t.conn).ActsOn i t s (s.espconnTcpDisconnectSuccessful l) := by
  obtain ⟨hc, -, -⟩ := mem_wiring_links hl
  have hi := getTcpn_held h ht hl
  have hblock := s.espconn_reported l
  have hcrash := s.ended_crashed l
  obtain ⟨htable, hservers, hout⟩ := ended_table (s := s) l
  simp only [espconnTcpDisconnectSuccessful]
  generalize s.ended l = u
    at hblock htable hservers hout hcrash ⊢
  rw [hc] at hblock
  have hfind : u.getTcpn (u.espconn (reported l)).key = some i := by
    rw [← hi, hblock]
    exact congrArg (Table.firstWhere fun u => u.key = (s.espconn t.conn).key) htable
  obtain ⟨hset, hprint, hcrashed⟩ := tcpconnDisconcb_held hfind (by rw [htable]; exact ht)
    (by rw [hblock, hservers]; exact hsrv) (hcrash.trans hs)
  rw [htable] at hset
  rw [hout] at hprint
  have hfree := memp_free_table (s := u.tcpconnDisconcb (reported l)) l
  simp only [hblock, hreg, if_true, hcrashed, Bool.false_eq_true, if_false]
  exact ⟨hfree.1.trans hset, hfree.2.trans hprint⟩

theorem acts_step (a : Action) (h : s.Linked) (hends : EndsHandled a s) : ActsOnItsLink lib a s := by
  rintro e c i t rfl hs hr ht rfl
  have hstep : s.step lib (.event e) = s.event e := by simp [step, hs]
  rw [hstep]
  cases e with
  | found => exact hr.elim
  | accepted => exact hr.elim
  | sent => exact hr.elim
  | connected d =>
    obtain ⟨rfl, l, hl, hp, hest, hclosing⟩ := hr
    simp only [event, hl, hp, hest, hclosing, and_self, if_true]
    exact acts_connected h ht hl hp
  | received d data host =>
    obtain ⟨rfl, hreg, l, hl, hest, hclosing⟩ := hr
    simp only [event, hl, hest, hclosing, and_self, if_true]
    exact acts_received h ht hl hreg data host
  | failed d =>
    obtain ⟨rfl, l, hl, hclosing⟩ := hr
    simp only [event, hl, hclosing, if_true]
    exact acts_failed h hs ht hl (hends i t l ht rfl hl)
  | closed d =>
    obtain ⟨rfl, l, hl, hend⟩ := hr
    simp only [event, hl, hend, if_true]
    obtain ⟨hreg, hsrv⟩ := hends i t ht rfl
    exact acts_closed h hs ht hl hreg hsrv

/-- In a run in which remote addresses and ports differ and connections end while their handlers are
registered and their servers exist, events act on their links. -/
theorem events_act_on_their_link (heap : ℕ → Bool) (numTcpPcb : ℕ) (as : List Action)
    (h : Machine.Along (step lib) (fun a s => KeysDistinct lib a s ∧ EndsHandled a s) as (atReset heap numTcpPcb)) :
    Machine.Along (step lib) (ActsOnItsLink lib) as (atReset heap numTcpPcb) :=
  h.of_invariant (fun a _ hs hp => linked_step a hs hp.1) (fun a _ hs hp => acts_step a hs hp.2)
    (linked_atReset heap numTcpPcb)

/-- Link 0 is opened. -/
def startLink0 : Action :=
  .command (.start (CString.ascii "=0,\"TCP\",\"host\",80\r") (.ok 0x0100A8C0) 1024 0)

/-- Link 1 is opened, to the same host and port. -/
def startLink1 : Action :=
  .command (.start (CString.ascii "=1,\"TCP\",\"host\",80\r") (.ok 0x0100A8C0) 1025 0)

/-- Link 1 is opened, to another port. -/
def startOther : Action :=
  .command (.start (CString.ascii "=1,\"TCP\",\"host\",8080\r") (.ok 0x0100A8C0) 1025 0)

/-- A port that is not used. -/
theorem keyFree_of_port {port : UInt16} (hslots : ∀ i t, s.tcpconns i = some t → t.port ≠ port)
    (hlinks : ∀ l ∈ s.plinkActive, (s.espconn l.pespconn).remotePort ≠ port) (c : ℕ) (ip : Ip) :
    s.wiring.KeyFree c (ip, port) := by
  constructor
  · rintro i u hu - hkey
    obtain ⟨t, ht, rfl⟩ := Option.map_eq_some_iff.mp hu
    exact hslots i t ht (congrArg Prod.snd hkey)
  · rintro d hd - hkey
    obtain ⟨l, hl, rfl⟩ := live_wiring.mp hd
    exact hlinks l hl (congrArg Prod.snd hkey)

/-- Link 0 is connected. -/
def oneLink : Tcp := Machine.run (step plainAt) [startLink0, .event (.connected 0)] (atReset (fun _ => true) 5)

/-- Both links are connected. -/
def otherLink : Tcp := Machine.run (step plainAt) [startOther, .event (.connected 1)] oneLink

theorem oneLink_facts :
    (∀ i, (oneLink.tcpconns i).all fun t => t.port = 80) ∧
      (∀ l ∈ oneLink.plinkActive, (oneLink.espconn l.pespconn).remotePort = 80) ∧
      (startParams plainAt (CString.ascii "=1,\"TCP\",\"host\",8080\r") oneLink.tcpconns).toOption.all
        fun p => p.port = 8080 := by
  decide +kernel

theorem otherLink_facts : (otherLink.espconn 0).disconnectCallback = true ∧
    serverOf (otherLink.espconn 0).parrent = none ∧ (otherLink.tcpconns 1).isSome := by
  decide +kernel

/-- Of two links to different ports the first is closed by the remote side. -/
theorem events_act_on_their_link_closed :
    Machine.Along (step plainAt) (ActsOnItsLink plainAt)
      [startLink0, .event (.connected 0), startOther, .event (.connected 1), .event (.closed 0)]
      (atReset (fun _ => true) 5) := by
  apply events_act_on_their_link
  refine ⟨⟨?_, trivial⟩, ⟨trivial, trivial⟩, ⟨?_, trivial⟩, ⟨trivial, trivial⟩, ⟨trivial, ?_⟩, trivial⟩
  · intro _ p _
    refine ⟨fun ip _ => ⟨?_, ?_⟩, nofun⟩
    · rintro i t ⟨⟩
    · rintro d ⟨p, ⟨⟩⟩
  · obtain ⟨hslots, hlinks, hport⟩ := oneLink_facts
    rintro - p hp
    rw [show startParams plainAt _ oneLink.tcpconns = .ok p from hp] at hport
    have hport : p.port = 8080 := of_decide_eq_true hport
    refine ⟨fun ip _ => ?_, nofun⟩
    rw [hport]
    refine keyFree_of_port (s := oneLink) (fun i t ht => ?_) (fun l hl => ?_) _ ip
    · have hslot := hslots i
      rw [ht] at hslot
      have hused : t.port = 80 := by simpa using hslot
      rw [hused]
      decide
    · rw [hlinks l hl]
      decide
  · rintro i t - -
    obtain ⟨hreg, hserver, -⟩ := otherLink_facts
    exact ⟨hreg, fun k hk => absurd (hserver.symm.trans hk) nofun⟩

/-- Link 0 is connected, link 1 to the same host and port is being connected. -/
def twoLinks : Tcp :=
  Machine.run (step plainAt) [startLink0, .event (.connected 0), startLink1] (atReset (fun _ => true) 5)

/-- The second of two links to one host and port connects, and the first is marked. -/
theorem not_events_act_on_their_link :
    ¬ Machine.Along (step plainAt) (ActsOnItsLink plainAt)
      [startLink0, .event (.connected 0), startLink1, .event (.connected 1)] (atReset (fun _ => true) 5) := by
  rintro ⟨-, -, -, h, -⟩
  have hslot : (twoLinks.tcpconns 1).map (·.conn) = some 1 := by decide +kernel
  have hlink : (twoLinks.findConnection 1).map (fun l => (l.preverse, l.established, l.closing)) =
      some (none, false, false) := by decide +kernel
  have hmarked : ((twoLinks.step plainAt (.event (.connected 1))).tcpconns 1).map (·.connected) = some 0 := by
    decide +kernel
  obtain ⟨t, ht, hconn⟩ := Option.map_eq_some_iff.mp hslot
  obtain ⟨l, hl, hstate⟩ := Option.map_eq_some_iff.mp hlink
  simp only [Prod.mk.injEq] at hstate
  obtain ⟨hset, -⟩ := h (.connected 1) 1 1 t rfl (by decide +kernel) ⟨rfl, l, hl, hstate⟩ ht hconn
  have hset := congrArg (Option.map (·.connected)) (congrFun hset 1)
  rw [Table.set_self] at hset
  exact absurd (hset.symm.trans hmarked) (by simp)

end Esp8266At.Tcp
