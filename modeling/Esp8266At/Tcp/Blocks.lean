import Esp8266At.Tcp.WiringSteps

/-!
# What a block is for

Every block is created for a link, for a server or for a client of a server, and stays what it is (`Blocks`):
the tables and lists name blocks of their kind only, a connection is listed once, and the blocks have the tags
and the callbacks of their kind. No command and no event changes that.
-/

namespace Esp8266At.Tcp

/-- What a block was created for. -/
inductive Role where
  | link
  | server
  | client
  deriving DecidableEq

/-- What the block of a server or a client of a server is found by. -/
def Ident.OfServer (d : Ident) : Prop :=
  (∃ k, d.parrent = serverTag k) ∧ d.connectCallback = some .tcpserverClient ∧ d.reconnectCallback = false

namespace Wiring

/-- The role of a connection's block. -/
def linkRole : Option ℕ → Role
  | none => .link
  | some _ => .client

structure Blocks (role : ℕ → Role) (w : Wiring) : Prop where
  slot : ∀ i t, w.slots i = some t → t.conn < w.nextBlock ∧ role t.conn ≠ .server
  server : ∀ k b, w.servers k = some b → b < w.nextBlock ∧ role b = .server
  listening : ∀ b ∈ w.listening, b < w.nextBlock ∧ role b = .server
  link : ∀ c p, (c, p) ∈ w.links → c < w.nextBlock ∧ role c = linkRole p
  preverse : ∀ c b, (c, some b) ∈ w.links → b < w.nextBlock ∧ role b = .server
  lookup : ∀ c ∈ w.lookups, c < w.nextBlock ∧ role c = .link
  once : (w.links.map Prod.fst).Nodup
  waiting : ∀ c ∈ w.lookups, ¬ w.Live c
  linkIdent : ∀ c < w.nextBlock, role c = .link → ∃ i, (w.ident c).parrent = linkTag i
  serverIdent : ∀ c < w.nextBlock, role c ≠ .link → (w.ident c).OfServer
  outgoing : ∀ c, (c, none) ∈ w.links →
    (w.ident c).connectCallback = some .tcpconn ∧ (w.ident c).reconnectCallback = true

namespace Blocks

variable {role : ℕ → Role} {w : Wiring} (h : w.Blocks role)
include h

/-! ### Single changes -/

theorem setSlot_none (i : LinkId) : (w.setSlot i none).Blocks role :=
  { h with
    slot := by
      intro j t ht
      by_cases hj : j = i
      · simp [setSlot, hj] at ht
      · exact h.slot j t (by rw [← ht]; exact (Table.set_ne hj).symm) }

theorem setSlot_some {i : LinkId} {t : Slot} (ht : t.conn < w.nextBlock) (hrole : role t.conn ≠ .server) :
    (w.setSlot i (some t)).Blocks role :=
  { h with
    slot := by
      intro j u hu
      by_cases hj : j = i
      · simp only [setSlot, hj, Table.set_self, Option.some.injEq] at hu
        rw [← hu]
        exact ⟨ht, hrole⟩
      · exact h.slot j u (by rw [← hu]; exact (Table.set_ne hj).symm) }

theorem setServer_none (k : ServerId) : (w.setServer k none).Blocks role :=
  { h with
    server := by
      intro j b hb
      by_cases hj : j = k
      · simp [setServer, hj] at hb
      · exact h.server j b (by rw [← hb]; exact (Table.set_ne hj).symm) }

theorem setServer_some {k : ServerId} {b : ℕ} (hb : b < w.nextBlock) (hrole : role b = .server) :
    (w.setServer k (some b)).Blocks role :=
  { h with
    server := by
      intro j c hc
      by_cases hj : j = k
      · simp only [setServer, hj, Table.set_self, Option.some.injEq] at hc
        rw [← hc]
        exact ⟨hb, hrole⟩
      · exact h.server j c (by rw [← hc]; exact (Table.set_ne hj).symm) }

theorem listen {b : ℕ} (hb : b < w.nextBlock) (hrole : role b = .server) : (w.listen b).Blocks role :=
  { h with
    listening := by
      intro c hc
      rcases List.mem_append.mp hc with hc | hc
      · exact h.listening c hc
      · rw [List.mem_singleton.mp hc]
        exact ⟨hb, hrole⟩ }

theorem unlisten (b : ℕ) : (w.unlisten b).Blocks role :=
  { h with listening := fun c hc => h.listening c (List.mem_of_mem_filter hc) }

theorem addLookup {c : ℕ} (hc : c < w.nextBlock) (hrole : role c = .link) (hlive : ¬ w.Live c) :
    (w.addLookup c).Blocks role :=
  { h with
    lookup := by
      intro d hd
      rcases List.mem_append.mp hd with hd | hd
      · exact h.lookup d hd
      · rw [List.mem_singleton.mp hd]
        exact ⟨hc, hrole⟩
    waiting := by
      intro d hd
      rcases List.mem_append.mp hd with hd | hd
      · exact h.waiting d hd
      · rw [List.mem_singleton.mp hd]
        exact hlive }

theorem dropLookup (c : ℕ) : (w.dropLookup c).Blocks role :=
  { h with
    lookup := fun d hd => h.lookup d (List.mem_of_mem_filter hd)
    waiting := fun d hd => h.waiting d (List.mem_of_mem_filter hd) }

theorem dropLink (c : ℕ) : (w.dropLink c).Blocks role :=
  { h with
    link := fun d p hd => h.link d p (List.mem_of_mem_filter hd)
    preverse := fun d b hd => h.preverse d b (List.mem_of_mem_filter hd)
    once := h.once.sublist (List.filter_sublist.map Prod.fst)
    waiting := fun d hd hlive => h.waiting d hd (hlive.imp fun _ hp => List.mem_of_mem_filter hp)
    outgoing := fun d hd => h.outgoing d (List.mem_of_mem_filter hd) }

theorem addLink {c : ℕ} {p : Option ℕ} (hc : c < w.nextBlock) (hrole : role c = linkRole p)
    (hp : ∀ b, p = some b → b < w.nextBlock ∧ role b = .server) (hlive : ¬ w.Live c) (hwait : c ∉ w.lookups)
    (hout : p = none → (w.ident c).connectCallback = some .tcpconn ∧ (w.ident c).reconnectCallback = true) :
    (w.addLink c p).Blocks role := by
  have hmem : ∀ x : ℕ × Option ℕ, x ∈ (w.addLink c p).links → x ∈ w.links ∨ x = (c, p) :=
    fun x hx => (List.mem_append.mp hx).imp_right List.mem_singleton.mp
  exact
    { h with
      link := by
        intro d q hd
        rcases hmem _ hd with hd | hd
        · exact h.link d q hd
        · cases hd
          exact ⟨hc, hrole⟩
      preverse := by
        intro d b hd
        rcases hmem _ hd with hd | hd
        · exact h.preverse d b hd
        · cases hd
          exact hp b rfl
      once := by
        have hnew : c ∉ w.links.map Prod.fst := by
          intro hin
          obtain ⟨x, hx, hxc⟩ := List.mem_map.mp hin
          exact hlive ⟨x.2, by rw [← hxc]; exact hx⟩
        simp only [Wiring.addLink, List.map_append, List.map_cons, List.map_nil]
        exact List.Nodup.append h.once (List.nodup_singleton c) (by simpa using hnew)
      waiting := by
        rintro d hd ⟨q, hq⟩
        rcases hmem _ hq with hq | hq
        · exact h.waiting d hd ⟨q, hq⟩
        · cases hq
          exact hwait hd
      outgoing := by
        intro d hd
        rcases hmem _ hd with hd | hd
        · exact h.outgoing d hd
        · cases hd
          exact hout rfl }

theorem setIdent {c : ℕ} {d : Ident} (hlink : role c = .link → ∃ i, d.parrent = linkTag i)
    (hserver : role c ≠ .link → d.OfServer)
    (hout : role c = .link → d.connectCallback = some .tcpconn ∧ d.reconnectCallback = true) :
    (w.setIdent c d).Blocks role :=
  { h with
    linkIdent := by
      intro b hb hrole
      by_cases hbc : b = c
      · subst hbc
        simpa [Wiring.setIdent] using hlink hrole
      · simpa [Wiring.setIdent, hbc] using h.linkIdent b hb hrole
    serverIdent := by
      intro b hb hrole
      by_cases hbc : b = c
      · subst hbc
        simpa [Wiring.setIdent] using hserver hrole
      · simpa [Wiring.setIdent, hbc] using h.serverIdent b hb hrole
    outgoing := by
      intro b hb
      by_cases hbc : b = c
      · subst hbc
        simpa [Wiring.setIdent] using hout (h.link b none hb).2
      · simpa [Wiring.setIdent, hbc] using h.outgoing b hb }

/-- A new block gets its role. -/
theorem create {d : Ident} {r : Role} (hlink : r = .link → ∃ i, d.parrent = linkTag i)
    (hserver : r ≠ .link → d.OfServer) : (w.create d).Blocks (Function.update role w.nextBlock r) := by
  have hold : ∀ c, c < w.nextBlock → Function.update role w.nextBlock r c = role c :=
    fun c hc => Function.update_of_ne hc.ne r role
  have hident : ∀ c, c < w.nextBlock → (w.create d).ident c = w.ident c :=
    fun c hc => Function.update_of_ne (β := fun _ => Ident) hc.ne d w.ident
  have hlt : ∀ {c}, c < w.nextBlock → c < w.nextBlock + 1 := fun hc => Nat.lt_succ_of_lt hc
  exact
    { slot := fun i t ht => by
        obtain ⟨hc, hr⟩ := h.slot i t ht
        exact ⟨hlt hc, by rwa [hold _ hc]⟩
      server := fun k b hb => by
        obtain ⟨hc, hr⟩ := h.server k b hb
        exact ⟨hlt hc, by rwa [hold _ hc]⟩
      listening := fun b hb => by
        obtain ⟨hc, hr⟩ := h.listening b hb
        exact ⟨hlt hc, by rwa [hold _ hc]⟩
      link := fun c p hp => by
        obtain ⟨hc, hr⟩ := h.link c p hp
        exact ⟨hlt hc, by rwa [hold _ hc]⟩
      preverse := fun c b hb => by
        obtain ⟨hc, hr⟩ := h.preverse c b hb
        exact ⟨hlt hc, by rwa [hold _ hc]⟩
      lookup := fun c hc => by
        obtain ⟨hc, hr⟩ := h.lookup c hc
        exact ⟨hlt hc, by rwa [hold _ hc]⟩
      once := h.once
      waiting := h.waiting
      linkIdent := by
        intro c hc hr
        rcases Nat.lt_succ_iff_lt_or_eq.mp hc with hc | rfl
        · rw [hold c hc] at hr
          rw [hident c hc]
          exact h.linkIdent c hc hr
        · rw [Function.update_self] at hr
          simpa [Wiring.create, Wiring.setIdent] using hlink hr
      serverIdent := by
        intro c hc hr
        rcases Nat.lt_succ_iff_lt_or_eq.mp hc with hc | rfl
        · rw [hold c hc] at hr
          rw [hident c hc]
          exact h.serverIdent c hc hr
        · rw [Function.update_self] at hr
          simpa [Wiring.create, Wiring.setIdent] using hserver hr
      outgoing := fun c hc => by
        rw [hident c (h.link c none hc).1]
        exact h.outgoing c hc }

/-! ### Commands and events -/

theorem freeKey (key : Ip × UInt16) : (w.freeKey key).Blocks role := by
  unfold Wiring.freeKey
  split
  · exact h.setSlot_none _
  · exact h

theorem openLink (i : LinkId) (port : UInt16) :
    (w.openLink i port).Blocks (Function.update role w.nextBlock .link) := by
  have hcreate := h.create (d := ⟨linkTag i, (0, 0), none, false⟩) (r := .link) (fun _ => ⟨i, rfl⟩) (by simp)
  exact hcreate.setSlot_some (Nat.lt_succ_self _) (by simp)

theorem openServer (k : ServerId) : (w.openServer k).Blocks (Function.update role w.nextBlock .server) := by
  have hcreate := h.create (d := ⟨serverTag k, (0, 0), some .tcpserverClient, false⟩) (r := .server) (by simp)
    (fun _ => ⟨⟨k, rfl⟩, rfl, rfl⟩)
  exact hcreate.setServer_some (Nat.lt_succ_self _) (by simp)

/-- A lookup that has ended connects its block, or clears a link. -/
theorem resolve {c : ℕ} (hc : c < w.nextBlock) (hrole : role c = .link) (hlive : ¬ w.Live c) (hwait : c ∉ w.lookups)
    (ip : Option Ip) (connected : Bool) : (w.resolve c ip connected).Blocks role := by
  unfold Wiring.resolve
  split
  · rename_i i ip _
    split
    · exact h
    · rename_i t ht
      have hident := h.setIdent (c := c) (d := ⟨(w.ident c).parrent, (ip, t.key.2), some .tcpconn, true⟩)
        (fun hr => h.linkIdent c hc hr) (fun hr => absurd hrole hr) (fun _ => ⟨rfl, rfl⟩)
      have hslot := hident.setSlot_some (i := i) (t := { t with key := (ip, t.key.2) }) (h.slot i t ht).1
        (h.slot i t ht).2
      cases connected with
      | false => exact hslot
      | true =>
        refine hslot.addLink hc hrole (by simp) hlive hwait fun _ => ?_
        simp [Wiring.setSlot, Wiring.setIdent]
  · exact h.setSlot_none _
  · exact h

theorem start (i : LinkId) (port : UInt16) (lookup : LookupResult) (connected : Bool) :
    (w.start i port lookup connected).Blocks (Function.update role w.nextBlock .link) := by
  have hopen := h.openLink i port
  have hlt : w.nextBlock < (w.openLink i port).nextBlock := Nat.lt_succ_self _
  have hrole : Function.update role w.nextBlock Role.link w.nextBlock = .link := Function.update_self ..
  have hlive : ¬ (w.openLink i port).Live w.nextBlock := by
    rintro ⟨p, hp⟩
    exact (h.link _ p hp).1.ne rfl
  have hwait : w.nextBlock ∉ (w.openLink i port).lookups := fun hin => (h.lookup _ hin).1.ne rfl
  unfold Wiring.start
  cases lookup with
  | ok ip => exact hopen.resolve hlt hrole hlive hwait (some ip) connected
  | inprogress => exact hopen.addLookup hlt hrole hlive
  | failed => exact hopen.setSlot_none i

theorem accept {server : ℕ} (hb : server < w.nextBlock) (hrole : role server = .server) (key : Ip × UInt16) :
    (w.accept server key).Blocks (Function.update role w.nextBlock .client) := by
  have hserver : (w.ident server).OfServer := h.serverIdent server hb (by simp [hrole])
  have hident := h.setIdent (c := server) (d := { w.ident server with key := key }) (by simp [hrole])
    (fun _ => hserver) (by simp [hrole])
  have hcreate := hident.create (d := { w.ident server with key := key }) (r := .client) (by simp) (fun _ => hserver)
  refine hcreate.addLink (Nat.lt_succ_self _) ?_ ?_ ?_ ?_ (by simp)
  · exact Function.update_self ..
  · rintro b ⟨⟩
    exact ⟨Nat.lt_succ_of_lt hb, by rw [← hrole]; exact Function.update_of_ne hb.ne _ _⟩
  · rintro ⟨p, hp⟩
    exact (h.link _ p hp).1.ne rfl
  · exact fun hin => (h.lookup _ hin).1.ne rfl

theorem report {c : ℕ} {p : Option ℕ} (hc : (c, p) ∈ w.links) : (w.report c p).Blocks role := by
  obtain ⟨hlt, hrole⟩ := h.link c p hc
  cases p with
  | none => exact h
  | some server =>
    have hserver := (h.preverse c server hc).2
    exact h.setIdent (by simp [hserver]) (fun _ => h.serverIdent c hlt (by simp [hrole, linkRole]))
      (by simp [hserver])

theorem endLink {c : ℕ} {p : Option ℕ} (hc : (c, p) ∈ w.links) (handled : Bool) :
    (w.endLink c p handled).Blocks role := by
  have hreport := h.report hc
  cases handled with
  | false => exact hreport.dropLink c
  | true => exact (hreport.freeKey (w.ident c).key).dropLink c

end Blocks

end Wiring

/-- No block has been created. -/
theorem blocks_atReset (role : ℕ → Role) (heap : ℕ → Bool) (numTcpPcb : ℕ) :
    (atReset heap numTcpPcb).wiring.Blocks role := by
  constructor <;> simp [atReset, wiring]

variable {lib : LibAt} {s : Tcp} {role : ℕ → Role}

/-! ### Steps -/

theorem mem_wiring_links {c : ℕ} {l : Link} (h : s.findConnection c = some l) :
    l.pespconn = c ∧ l ∈ s.plinkActive ∧ (c, l.preverse) ∈ s.wiring.links := by
  have hc : l.pespconn = c := by simpa using List.find?_some h
  have hmem := List.mem_of_find?_eq_some h
  refine ⟨hc, hmem, ?_⟩
  rw [← hc]
  exact List.mem_map_of_mem hmem

theorem blocks_command (c : Command) (h : s.wiring.Blocks role) : ∃ role', (s.command lib c).wiring.Blocks role' := by
  cases c with
  | start pPara lookup port result =>
    rcases s.wiring_atSetupCmdTCPConnConnect lib pPara lookup port result with hw | ⟨p, -, hw⟩
    · exact ⟨role, by rw [command, hw]; exact h⟩
    · exact ⟨_, by rw [command, hw]; exact h.start ..⟩
  | server pPara result =>
    simp only [command, atSetupCmdTCPServer]
    split
    · exact ⟨role, h⟩
    · rename_i p _
      split
      · rcases s.wiring_tcpServerCreate p result with hw | ⟨-, hw | hw⟩
        · exact ⟨role, by rw [hw]; exact h⟩
        · exact ⟨_, by rw [hw]; exact h.openServer p.srvN⟩
        · rw [hw]
          exact ⟨_, (h.openServer p.srvN).listen (Nat.lt_succ_self _) (Function.update_self ..)⟩
      · rcases s.wiring_tcpServerDelete p.srvN with hw | ⟨srv, -, hw | hw⟩
        · exact ⟨role, by rw [hw]; exact h⟩
        · exact ⟨role, by rw [hw]; exact h.setServer_none _⟩
        · exact ⟨role, by rw [hw]; exact (h.unlisten _).setServer_none _⟩
  | close pPara => exact ⟨role, by rw [command, wiring_atSetupCmdTCPClose]; exact h⟩
  | send pPara host result => exact ⟨role, by rw [command, wiring_atSetupCmdTCPSend]; exact h⟩

/-- The connect callback of a connection that is being opened. -/
theorem connectCallback_of_outgoing (h : s.wiring.Blocks role) {c : ℕ} {l : Link}
    (hl : s.findConnection c = some l) (hp : l.preverse = none) : (s.espconn c).connectCallback = some .tcpconn := by
  have hmem := (mem_wiring_links hl).2.2
  rw [hp] at hmem
  exact (h.outgoing c hmem).1

theorem blocks_event (e : Event) (h : s.wiring.Blocks role) (hs : s.crashed = false) :
    ∃ role', (s.event e).wiring.Blocks role' := by
  cases e with
  | found c ip port result =>
    refine ⟨role, ?_⟩
    simp only [event]
    split
    · rename_i hc
      obtain ⟨hlt, hrole⟩ := h.lookup c hc
      rw [wiring_tcpconnResolved]
      have hwait : c ∉ (s.wiring.dropLookup c).lookups := by simp [Wiring.dropLookup]
      exact (h.dropLookup c).resolve hlt hrole (h.waiting c hc) hwait ip _
    · exact h
  | connected c =>
    refine ⟨role, ?_⟩
    simp only [event]
    split
    · rename_i l hl
      split
      · rename_i hcond
        rw [wiring_espconnClientConnect _ _ (by simp [connectCallback_of_outgoing h hl hcond.1])]
        exact h
      · exact h
    · exact h
  | accepted server ip port =>
    simp only [event]
    split
    · rename_i hmem
      obtain ⟨hlt, hrole⟩ := h.listening server hmem
      rcases s.wiring_espconnTcpAccept ip port hlt.ne with hw | hw | ⟨i, k, -, -, hw⟩
      · exact ⟨role, by rw [hw]; exact h⟩
      · exact ⟨_, by rw [hw]; exact h.accept hlt hrole _⟩
      · rw [hw]
        refine ⟨_, (h.accept hlt hrole (ip, port)).setSlot_some (Nat.lt_succ_self _) ?_⟩
        rw [show s.nextBlock = s.wiring.nextBlock from rfl, Function.update_self]
        simp
    · exact ⟨role, h⟩
  | received c data host =>
    refine ⟨role, ?_⟩
    simp only [event]
    split
    · split
      · rw [wiring_espconnRecv]
        exact h
      · exact h
    · exact h
  | sent c =>
    refine ⟨role, ?_⟩
    simp only [event]
    split
    · split
      · rw [wiring_espconnTcpFinish]
        exact h
      · exact h
    · exact h
  | failed c =>
    refine ⟨role, ?_⟩
    simp only [event]
    split
    · rename_i l hl
      split
      · obtain ⟨hc, -, hmem⟩ := mem_wiring_links hl
        rw [wiring_espconnTcpReconnect _ _ (s.espconnTcpReconnect_crashed l hs), hc]
        exact h.endLink hmem _
      · exact h
    · exact h
  | closed c =>
    refine ⟨role, ?_⟩
    simp only [event]
    split
    · rename_i l hl
      split
      · obtain ⟨hc, -, hmem⟩ := mem_wiring_links hl
        cases hcrash : (s.espconnTcpDisconnectSuccessful l).crashed with
        | false =>
          rw [wiring_espconnTcpDisconnectSuccessful _ _ hcrash, hc]
          exact h.endLink hmem _
        | true =>
          rw [wiring_espconnTcpDisconnectSuccessful_crashed _ _ hs hcrash, hc]
          exact h.report hmem
      · exact h
    · exact h

theorem blocks_step (a : Action) (h : ∃ role, s.wiring.Blocks role) : ∃ role, (s.step lib a).wiring.Blocks role := by
  obtain ⟨role, h⟩ := h
  unfold step
  split
  · exact ⟨role, h⟩
  · rename_i hs
    cases a with
    | command c =>
      simp only
      split
      · exact ⟨role, h⟩
      · exact blocks_command c h
    | event e => exact blocks_event e h (by simpa using hs)

/-- The blocks of every state that is reached. -/
theorem blocks_run (lib : LibAt) (as : List Action) (heap : ℕ → Bool) (numTcpPcb : ℕ) :
    ∃ role, (Machine.run (step lib) as (atReset heap numTcpPcb)).wiring.Blocks role :=
  Machine.run_invariant (I := fun s : Tcp => ∃ role, s.wiring.Blocks role) (fun a _ h => blocks_step a h)
    ⟨fun _ => Role.link, blocks_atReset _ heap numTcpPcb⟩

end Esp8266At.Tcp
