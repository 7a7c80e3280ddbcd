import Esp8266At.Tcp.Nodes
import Mathlib.Data.Nat.Bitwise

/-!
# The keep-alive time of a link

`AT+TCPSTART` stores the keep-alive time in 16 bits, and `tcpconn_connect_cb` hands a pointer to it to a function that
reads 32 bits. The time of a plain connection is the one that was given exactly if the port next to it adds a multiple
of 2^32 milliseconds; that of a TLS connection is never set (`keepalive_reaches_iff`).
-/

namespace Esp8266At.Tcp

/-- The event `connected c` runs `tcpconn_connect_cb` for the link whose block is `c`. -/
structure ConnectsLink (c : ℕ) (s : Tcp) : Prop where
  running : s.crashed = false
  outgoing : ∃ l, s.findConnection c = some l ∧ l.preverse = none ∧ l.established = false ∧ l.closing = false
  link : ∃ i t, s.getTcpn (s.espconn c).key = some i ∧ s.tcpconns i = some t ∧ t.conn = c

/-- Block `c` is in use, and the link with this block was opened with `p`. -/
structure OpenedWith (c : ℕ) (p : StartParams) (s : Tcp) : Prop where
  blocks : ∃ role, s.wiring.Blocks role
  used : c < s.nextBlock
  link : ∀ i t, s.tcpconns i = some t → t.conn = c → t.asOpened = p.tcpconn c

variable {lib : LibAt} {s u : Tcp} {c : ℕ} {p : StartParams}

/-! ### Two numbers in one word -/

theorem keepaliveInt_toNat (t : TcpConn) : t.keepaliveInt.toNat = t.keepalive.toNat + 65536 * t.port.toNat := by
  have hlow := t.keepalive.toNat_lt
  have hhigh := t.port.toNat_lt
  have hshift : (t.port.toUInt32 <<< 16).toNat = t.port.toNat <<< 16 := by
    rw [UInt32.toNat_shiftLeft, UInt16.toNat_toUInt32]
    refine Nat.mod_eq_of_lt ?_
    rw [Nat.shiftLeft_eq]
    exact show t.port.toNat * 65536 < 4294967296 by omega
  have hor : t.port.toNat <<< 16 + t.keepalive.toNat = t.port.toNat <<< 16 ||| t.keepalive.toNat :=
    Nat.shiftLeft_add_eq_or_of_lt hlow t.port.toNat
  unfold TcpConn.keepaliveInt
  rw [UInt32.toNat_or, hshift, UInt16.toNat_toUInt32, Nat.lor_comm, ← hor, Nat.shiftLeft_eq]
  omega

/-- The product is the keep-alive time in milliseconds if what the port adds vanishes. -/
theorem keepalive_product_iff (t : TcpConn) :
    (1000 * t.keepaliveInt).toNat = 1000 * t.keepalive.toNat ↔ 8192 ∣ t.port.toNat := by
  have hlow := t.keepalive.toNat_lt
  have hhigh := t.port.toNat_lt
  have hproduct : (1000 * t.keepaliveInt).toNat = 1000 * (t.keepalive.toNat + 65536 * t.port.toNat) % 4294967296 := by
    rw [UInt32.toNat_mul, keepaliveInt_toNat]
    rfl
  rw [hproduct]
  omega

/-! ### The link -/

theorem openedWith_step (a : Action) (h : OpenedWith c p s) : OpenedWith c p (s.step lib a) := by
  obtain ⟨role, hb⟩ := h.blocks
  refine ⟨blocks_step a h.blocks, h.used.trans_le (nextBlock_step lib hb a), fun i t ht hconn => ?_⟩
  obtain ⟨u, hu, heq⟩ | hnew := entry_step lib hb a ht
  · have hblock := congrArg TcpConn.conn heq
    exact heq.trans (h.link i u hu (hblock.symm.trans hconn))
  · -- a new link has a new block
    exact absurd (hconn.symm.trans hnew) h.used.ne

/-- The link `AT+TCPSTART` opens. -/
theorem openedWith_start {pPara : List UInt8} (hb : ∃ role, s.wiring.Blocks role) (hcrashed : s.crashed = false)
    (hbusy : s.busy = false) (hp : startParams lib pPara s.tcpconns = .ok p) (hz : (s.zallocs 3).1 = true)
    (lookup : LookupResult) (port : UInt16) (result : Int8) :
    OpenedWith s.nextBlock p (s.step lib (.command (.start pPara lookup port result))) := by
  have hblocks : ∃ role, (s.step lib (.command (.start pPara lookup port result))).wiring.Blocks role :=
    blocks_step _ hb
  obtain ⟨role, hb⟩ := hb
  obtain ⟨heap, hheap⟩ := s.zallocs_eq 3
  have hcommand : s.atSetupCmdTCPConnConnect lib pPara lookup port result =
      { s with heap := heap }.startLink p lookup port result := by
    rw [← hheap]
    simp only [atSetupCmdTCPConnConnect, hp]
    generalize s.zallocs 3 = r at hz ⊢
    obtain ⟨ok, u⟩ := r
    cases ok with
    | false => cases hz
    | true => rfl
  have hstep : s.step lib (.command (.start pPara lookup port result)) =
      { s with heap := heap }.startLink p lookup port result := by
    simp only [step, command, hcrashed, hbusy, hcommand, Bool.false_eq_true, if_false]
  rw [hstep] at hblocks ⊢
  have hkeep := keeps_startLink { s with heap := heap } p lookup port result
  refine ⟨hblocks, Nat.lt_of_succ_le hkeep.blocks, fun i t ht hconn => ?_⟩
  obtain ⟨w, hw, heq⟩ := hkeep.links i t ht
  have hset : s.tcpconns.set p.connNo (some (p.tcpconn s.nextBlock)) i = some w := hw
  by_cases hi : i = p.connNo
  · subst hi
    obtain rfl : p.tcpconn s.nextBlock = w := Option.some.inj (Table.set_self.symm.trans hset)
    exact heq
  · -- the other links have blocks of their own
    have hblock := congrArg TcpConn.conn heq
    have hold : s.tcpconns i = some w := (Table.set_ne hi).symm.trans hset
    have hslot : s.wiring.slots i = some w.slot := by simp [wiring, hold]
    have hlt : w.conn < s.nextBlock := (hb.slot i w.slot hslot).1
    exact absurd (hblock.symm.trans hconn) (Nat.ne_of_lt hlt)

/-! ### The event -/

theorem findConnection_mapLink_some {l : Link} (f : Link → Link) (hf : ∀ l, (f l).pespconn = l.pespconn)
    (hl : s.findConnection c = some l) : (s.mapLink c f).findConnection c = some (f l) := by
  rw [findConnection_mapLink s c hf, hl]
  rfl

/-- The option that is tested has just been set. -/
theorem keepalive_enabled (opt : UInt8) : (opt ||| 0x0F) &&& 0x08 ≠ 0 := by
  intro h
  have hbit := congrArg (fun x => x.toBitVec.getLsbD 3) h
  simp at hbit

/-- Without a `pcb` the time stays as it is. -/
theorem linkConnected_keepIdle {l : Link} {i : LinkId} {t : TcpConn} (hl : s.findConnection c = some l) (ht : t.conn = c)
    (hk : t.keepalive ≠ 0) :
    ∃ m, (s.linkConnected c i t).findConnection c = some m ∧
      m.keepIdle = if l.pcb then 1000 * t.keepaliveInt else l.keepIdle := by
  have hregistered : (s.tcpconnRegisterCb c).findConnection c = some { l with opt := l.opt ||| 0x0F } :=
    findConnection_mapLink_some (fun l => { l with opt := l.opt ||| 0x0F }) (fun _ => rfl) hl
  have hset := findConnection_mapLink_some (s := (s.tcpconnRegisterCb c).use c)
    (fun l => if l.opt &&& 0x08 ≠ 0 ∧ l.pcb then { l with keepIdle := 1000 * t.keepaliveInt } else l)
    (fun l => by split_ifs <;> rfl) hregistered
  have hlink : (s.linkConnected c i t).findConnection c =
      (((s.tcpconnRegisterCb c).use c).espconnSetKeepalive c t.keepaliveInt).findConnection c := by
    simp only [linkConnected, ht, if_pos hk]
    rfl
  refine ⟨_, hlink.trans hset, ?_⟩
  cases hpcb : l.pcb with
  | false => simp
  | true => simp [keepalive_enabled l.opt]

variable (lib) in
/-- The connect callback of a link sets the time of the connection if it has a `pcb`. -/
theorem connected_keepIdle {l : Link} {i : LinkId} {t : TcpConn} (hb : ∃ role, s.wiring.Blocks role)
    (hcrashed : s.crashed = false) (hl : s.findConnection c = some l)
    (hready : l.preverse = none ∧ l.established = false ∧ l.closing = false)
    (hfind : s.getTcpn (s.espconn c).key = some i) (ht : s.tcpconns i = some t) (hconn : t.conn = c)
    (hk : t.keepalive ≠ 0) :
    ∃ m, (s.step lib (.event (.connected c))).findConnection c = some m ∧
      m.keepIdle = if l.pcb then 1000 * t.keepaliveInt else l.keepIdle := by
  obtain ⟨role, hb⟩ := hb
  have hcall := connectCallback_of_outgoing hb hl hready.1
  set v := (s.setState c .connect).mapLink c fun l => { l with established := true } with hv
  have hcall' : (v.espconn c).connectCallback = some .tcpconn := by
    rw [← hcall]
    simp [hv, mapLink, setState, setBlock]
  have hkey : (v.espconn c).key = (s.espconn c).key := by
    simp [hv, mapLink, setState, setBlock, Espconn.key]
  have hlink : v.findConnection c = some { l with established := true } :=
    findConnection_mapLink_some (s := s.setState c .connect) (fun l => { l with established := true }) (fun _ => rfl) hl
  have hstep : s.step lib (.event (.connected c)) = (v.use c).linkConnected c i t := by
    have hconnect : s.step lib (.event (.connected c)) = v.tcpconnConnectcb c := by
      simp only [step, event, hcrashed, hl, hready, espconnClientConnect, ← hv, hcall', Bool.false_eq_true, if_false,
        and_self, if_true]
    have hlookup : (v.use c).getTcpn ((v.use c).espconn c).key = some i := by
      rw [← hfind, ← hkey]
      rfl
    have hentry : (v.use c).tcpconns i = some t := ht
    rw [hconnect]
    simp only [tcpconnConnectcb, hlookup, hentry]
  rw [hstep]
  exact linkConnected_keepIdle (s := v.use c) (l := { l with established := true }) hlink hconn hk

/-- **The keep-alive time reaches the connection**, exactly if the port is a multiple of 8192; that of a TLS connection
is always the default. -/
theorem keepalive_reaches_iff {acts later : List Action} {heap : ℕ → Bool} {numTcpPcb : ℕ} {pPara : List UInt8}
    {lookup : LookupResult} {port : UInt16} {result : Int8}
    (hs : Machine.run (step lib) acts (atReset heap numTcpPcb) = s) (hcrashed : s.crashed = false)
    (hbusy : s.busy = false) (hp : startParams lib pPara s.tcpconns = .ok p) (hz : (s.zallocs 3).1 = true)
    (hk : p.keepalive ≠ 0)
    (hu : Machine.run (step lib) later (s.step lib (.command (.start pPara lookup port result))) = u)
    (hconnects : ConnectsLink s.nextBlock u) :
    (∃ l, (u.step lib (.event (.connected s.nextBlock))).findConnection s.nextBlock = some l ∧
      l.keepIdle.toNat = 1000 * p.keepalive.toNat) ↔
      p.ssl = 0 ∧ 8192 ∣ p.port.toNat ∨ p.ssl ≠ 0 ∧ p.keepalive = 120 := by
  have hblocks : ∃ role, s.wiring.Blocks role := by
    rw [← hs]
    exact blocks_run lib acts heap numTcpPcb
  have hopened : OpenedWith s.nextBlock p u := by
    rw [← hu]
    exact Machine.run_invariant (fun a _ h => openedWith_step a h)
      (openedWith_start hblocks hcrashed hbusy hp hz lookup port result)
  have hnodes : LinkNodes u := by
    have hrun := linkNodes_run lib (acts ++ .command (.start pPara lookup port result) :: later) heap numTcpPcb
    rw [Machine.run_append, hs, Machine.run_cons, hu] at hrun
    exact hrun
  obtain ⟨hrunning, ⟨l, hl, hready⟩, i, t, hfind, ht, hconn⟩ := hconnects
  have hasOpened := hopened.link i t ht hconn
  have hkeepalive : t.keepalive = p.keepalive := congrArg TcpConn.keepalive hasOpened
  obtain ⟨hblock, hmem, -⟩ := mem_wiring_links hl
  obtain ⟨hpcb, hdefault⟩ := hnodes l hmem hready.1 i t ht (hconn.trans hblock.symm)
  rw [show t.ssl = p.ssl from congrArg TcpConn.ssl hasOpened] at hpcb
  obtain ⟨m, hm, hidle⟩ := connected_keepIdle lib hopened.blocks hrunning hl hready hfind ht hconn
    (by rw [hkeepalive]; exact hk)
  have htime : (∃ m', some m = some m' ∧ m'.keepIdle.toNat = 1000 * p.keepalive.toNat) ↔
      m.keepIdle.toNat = 1000 * p.keepalive.toNat := by simp
  rw [hm, htime, hidle, hpcb]
  by_cases hssl : p.ssl = 0
  · have hproduct := keepalive_product_iff t
    rw [hkeepalive, show t.port = p.port from congrArg TcpConn.port hasOpened] at hproduct
    simpa [hssl] using hproduct
  · -- the connection has no `pcb`
    have hidle := hdefault (hpcb.trans (decide_eq_false hssl))
    have hmillis : (TCP_KEEPIDLE_DEFAULT.toNat = 1000 * p.keepalive.toNat) ↔ p.keepalive = 120 := by
      rw [← UInt16.toNat_inj]
      show 120000 = 1000 * p.keepalive.toNat ↔ p.keepalive.toNat = 120
      omega
    simpa [hssl, hidle] using hmillis

/-- A link with a keep-alive time of one minute. -/
def startKeepalive (type port : String) : Action :=
  .command (.start (CString.ascii s!"=0,\"{type}\",\"host\",{port},60\r") (.ok 0x0100A8C0) 1024 0)

/-- The state in which the link connects. -/
def connecting (type port : String) : Tcp := (atReset (fun _ => true) 5).step plainAt (startKeepalive type port)

theorem connecting_facts : ∀ x ∈ [("TCP", "8192", 60000), ("TCP", "80", 947972704), ("SSL", "8192", 120000)],
    ((connecting x.1 x.2.1).findConnection 0).map (fun l => (l.preverse, l.established, l.closing)) =
        some (none, false, false) ∧
      (connecting x.1 x.2.1).getTcpn ((connecting x.1 x.2.1).espconn 0).key = some 0 ∧
      ((connecting x.1 x.2.1).tcpconns 0).map (·.conn) = some 0 ∧
      (((connecting x.1 x.2.1).step plainAt (.event (.connected 0))).findConnection 0).map (·.keepIdle.toNat) =
        some x.2.2 := by
  decide +kernel

theorem connecting_connects {type port : String} {time : ℕ}
    (hx : (type, port, time) ∈ [("TCP", "8192", 60000), ("TCP", "80", 947972704), ("SSL", "8192", 120000)])
    (hrunning : (connecting type port).crashed = false) : ConnectsLink 0 (connecting type port) := by
  obtain ⟨hlink, hfind, hconn, -⟩ := connecting_facts _ hx
  obtain ⟨l, hl, hstate⟩ := Option.map_eq_some_iff.mp hlink
  simp only [Prod.mk.injEq] at hstate
  obtain ⟨t, ht, hblock⟩ := Option.map_eq_some_iff.mp hconn
  exact ⟨hrunning, ⟨l, hl, hstate⟩, 0, t, hfind, ht, hblock⟩

theorem keepalive_reaches_8192 :
    (∃ l, ((connecting "TCP" "8192").step plainAt (.event (.connected 0))).findConnection 0 = some l ∧
      l.keepIdle.toNat = 1000 * 60) ↔ (0 : UInt8) = 0 ∧ 8192 ∣ 8192 ∨ (0 : UInt8) ≠ 0 ∧ (60 : UInt16) = 120 := by
  have hreset : Machine.run (step plainAt) [] (atReset (fun _ => true) 5) = atReset (fun _ => true) 5 := rfl
  have hopened : Machine.run (step plainAt) [] (connecting "TCP" "8192") = connecting "TCP" "8192" := rfl
  exact keepalive_reaches_iff (p := ⟨0, 0, CString.ascii "host", 8192, 60, 0⟩) hreset rfl rfl rfl rfl (by decide) hopened
    (connecting_connects List.mem_cons_self rfl)

/-- A minute is not what the connection gets. -/
structure Missed (type port : String) (p : StartParams) : Prop where
  accepted : startParams plainAt (CString.ascii s!"=0,\"{type}\",\"host\",{port},60\r")
    (atReset (fun _ => true) 5).tcpconns = .ok p
  minute : p.keepalive = 60
  connects : ConnectsLink 0 (connecting type port)
  missed : ¬∃ l, ((connecting type port).step plainAt (.event (.connected 0))).findConnection 0 = some l ∧
    l.keepIdle.toNat = 1000 * 60

theorem missed_of_time {type port : String} (time : ℕ) {p : StartParams}
    (hx : (type, port, time) ∈ [("TCP", "8192", 60000), ("TCP", "80", 947972704), ("SSL", "8192", 120000)])
    (htime : time ≠ 60000) (hrunning : (connecting type port).crashed = false)
    (hp : startParams plainAt (CString.ascii s!"=0,\"{type}\",\"host\",{port},60\r")
      (atReset (fun _ => true) 5).tcpconns = .ok p) (hminute : p.keepalive = 60) : Missed type port p := by
  refine ⟨hp, hminute, connecting_connects hx hrunning, ?_⟩
  obtain ⟨-, -, -, hidle⟩ := connecting_facts _ hx
  rintro ⟨l, hl, hmillis⟩
  rw [hl] at hidle
  exact htime ((Option.some.inj hidle).symm.trans hmillis)

/-- The time of a link to port 80 is ten days, that of a TLS link two minutes. -/
theorem not_keepalive_reaches :
    Missed "TCP" "80" ⟨0, 0, CString.ascii "host", 80, 60, 0⟩ ∧
      Missed "SSL" "8192" ⟨0, 1, CString.ascii "host", 8192, 60, 0⟩ :=
  ⟨missed_of_time 947972704 (by simp) (by decide) rfl rfl rfl,
    missed_of_time 120000 (by simp) (by decide) rfl rfl rfl⟩

end Esp8266At.Tcp
