import Esp8266At.Tcp.Blocks

/-!
# Tags

`parrent` has the tag of the link or the server a block was created for, and a client has that of the server
that accepted it. Runs are traced with what each block was created for, which no function of the program
looks at: the tags of records and blocks always agree with it, however often they are copied and however often
a link is used again (`tells_apart`).
-/

namespace Esp8266At.Tcp

/-- What a block was created for: link `i` by `AT+TCPSTART`, server `k` by `AT+TCPSERVER`, or a client that was
accepted with block `server`, created for server `k`. -/
inductive Origin where
  | outgoing (i : LinkId)
  | server (k : ServerId)
  | client (k : ServerId) (server : ℕ)
  deriving DecidableEq

def Origin.tag : Origin → UInt8
  | outgoing i => linkTag i
  | server k => serverTag k
  | client k _ => serverTag k

/-- The state with the origins of the blocks that have been created. -/
structure Traced where
  tcp : Tcp
  origin : ℕ → Origin

/-- What a block that the step creates is created for. -/
def Traced.created (lib : LibAt) (a : Action) (x : Traced) : Option Origin :=
  match a with
  | .command (.start pPara _ _ _) =>
    match startParams lib pPara x.tcp.tcpconns with
    | .ok p => some (.outgoing p.connNo)
    | .error _ => none
  | .command (.server pPara _) => (serverParams lib pPara).map fun p => .server p.srvN
  | .event (.accepted server _ _) =>
    match x.origin server with
    | .server k => some (.client k server)
    | _ => none
  | _ => none

def Traced.step (lib : LibAt) (a : Action) (x : Traced) : Traced where
  tcp := x.tcp.step lib a
  origin :=
    match x.created lib a with
    | some o => Function.update x.origin x.tcp.nextBlock o
    | none => x.origin

def Traced.atReset (heap : ℕ → Bool) (numTcpPcb : ℕ) : Traced where
  tcp := Tcp.atReset heap numTcpPcb
  origin _ := .outgoing (Fin.last 4)

@[simp] theorem Traced.step_tcp (lib : LibAt) (a : Action) (x : Traced) :
    (x.step lib a).tcp = x.tcp.step lib a := rfl

/-- The traced runs are those of the program. -/
theorem Traced.run_tcp (lib : LibAt) (as : List Action) (x : Traced) :
    (Machine.run (Traced.step lib) as x).tcp = Machine.run (Tcp.step lib) as x.tcp := by
  induction as generalizing x with
  | nil => rfl
  | cons a as ih => rw [Machine.run_cons, ih, Machine.run_cons, Traced.step_tcp]

/-! ### The tags -/

theorem tag_injective_outgoing {o : Origin} {i : LinkId} (h : o.tag = linkTag i) : o = .outgoing i := by
  cases o with
  | outgoing j => rw [linkTag_injective h]
  | server k => exact absurd h.symm (linkTag_ne_serverTag i k)
  | client k _ => exact absurd h.symm (linkTag_ne_serverTag i k)

theorem linkTag_class (i : LinkId) : ¬ (linkTag i &&& 7).toNat < TCPCONN_MAX_SERV := by
  revert i
  decide

theorem serverTag_class (k : ServerId) : (serverTag k &&& 7).toNat < TCPCONN_MAX_SERV := by
  revert k
  decide

namespace Wiring

/-- Records and blocks have the tags of what the blocks were created for. -/
structure Tagged (origin : ℕ → Origin) (w : Wiring) : Prop where
  slot : ∀ i t, w.slots i = some t →
    t.parrent = (origin t.conn).tag ∧ (origin t.conn = .outgoing i ∨ ∃ k b, origin t.conn = .client k b)
  ident : ∀ c < w.nextBlock, (w.ident c).parrent = (origin c).tag
  listening : ∀ b ∈ w.listening, ∃ k, origin b = .server k
  link : ∀ c b, (c, some b) ∈ w.links → ∃ k, origin b = .server k ∧ origin c = .client k b

namespace Tagged

variable {origin : ℕ → Origin} {role : ℕ → Role} {w : Wiring} (h : w.Tagged origin)
include h

/-! ### Single changes -/

/-- The origin of a block that does not exist yet. -/
theorem note (hb : w.Blocks role) (o : Origin) : w.Tagged (Function.update origin w.nextBlock o) := by
  have hold : ∀ c, c < w.nextBlock → Function.update origin w.nextBlock o c = origin c :=
    fun c hc => Function.update_of_ne hc.ne o origin
  exact
    { slot := fun i t ht => by
        rw [hold _ (hb.slot i t ht).1]
        exact h.slot i t ht
      ident := fun c hc => by
        rw [hold c hc]
        exact h.ident c hc
      listening := fun b hin => by
        rw [hold b (hb.listening b hin).1]
        exact h.listening b hin
      link := fun c b hcb => by
        rw [hold b (hb.preverse c b hcb).1, hold c (hb.link c _ hcb).1]
        exact h.link c b hcb }

theorem setSlot_none (i : LinkId) : (w.setSlot i none).Tagged origin :=
  { h with
    slot := by
      intro j t ht
      by_cases hj : j = i
      · simp [setSlot, hj] at ht
      · exact h.slot j t (by rw [← ht]; exact (Table.set_ne hj).symm) }

theorem setSlot_some {i : LinkId} {t : Slot} (htag : t.parrent = (origin t.conn).tag)
    (horigin : origin t.conn = .outgoing i ∨ ∃ k b, origin t.conn = .client k b) :
    (w.setSlot i (some t)).Tagged origin :=
  { h with
    slot := by
      intro j u hu
      by_cases hj : j = i
      · simp only [setSlot, hj, Table.set_self, Option.some.injEq] at hu
        rw [← hu, hj]
        exact ⟨htag, horigin⟩
      · exact h.slot j u (by rw [← hu]; exact (Table.set_ne hj).symm) }

theorem setIdent {c : ℕ} {d : Ident} (htag : d.parrent = (origin c).tag) : (w.setIdent c d).Tagged origin :=
  { h with
    ident := by
      intro b hb
      by_cases hbc : b = c
      · subst hbc
        simpa [Wiring.setIdent] using htag
      · simpa [Wiring.setIdent, hbc] using h.ident b hb }

theorem create {d : Ident} (htag : d.parrent = (origin w.nextBlock).tag) : (w.create d).Tagged origin :=
  { h with
    ident := by
      intro c hc
      rcases Nat.lt_succ_iff_lt_or_eq.mp hc with hc | rfl
      · simpa [Wiring.create, Wiring.setIdent, hc.ne] using h.ident c hc
      · simpa [Wiring.create, Wiring.setIdent] using htag }

theorem setServer (k : ServerId) (o : Option ℕ) : (w.setServer k o).Tagged origin := { h with }

theorem addLookup (c : ℕ) : (w.addLookup c).Tagged origin := { h with }

theorem dropLookup (c : ℕ) : (w.dropLookup c).Tagged origin := { h with }

theorem listen {b : ℕ} {k : ServerId} (hk : origin b = .server k) : (w.listen b).Tagged origin :=
  { h with
    listening := by
      intro c hc
      rcases List.mem_append.mp hc with hc | hc
      · exact h.listening c hc
      · rw [List.mem_singleton.mp hc]
        exact ⟨k, hk⟩ }

theorem unlisten (b : ℕ) : (w.unlisten b).Tagged origin :=
  { h with listening := fun c hc => h.listening c (List.mem_of_mem_filter hc) }

theorem addLink {c : ℕ} {p : Option ℕ}
    (hp : ∀ b, p = some b → ∃ k, origin b = .server k ∧ origin c = .client k b) : (w.addLink c p).Tagged origin :=
  { h with
    link := by
      intro d b hd
      rcases List.mem_append.mp hd with hd | hd
      · exact h.link d b hd
      · cases List.mem_singleton.mp hd
        exact hp b rfl }

theorem dropLink (c : ℕ) : (w.dropLink c).Tagged origin :=
  { h with link := fun d b hd => h.link d b (List.mem_of_mem_filter hd) }

/-! ### Commands and events -/

theorem freeKey (key : Ip × UInt16) : (w.freeKey key).Tagged origin := by
  unfold Wiring.freeKey
  split
  · exact h.setSlot_none _
  · exact h

theorem openLink {i : LinkId} (ho : origin w.nextBlock = .outgoing i) (port : UInt16) :
    (w.openLink i port).Tagged origin := by
  have hcreate := h.create (d := ⟨linkTag i, (0, 0), none, false⟩) (by rw [ho, Origin.tag])
  refine hcreate.setSlot_some ?_ ?_
  · rw [ho, Origin.tag]
  · exact .inl ho

theorem openServer {k : ServerId} (ho : origin w.nextBlock = .server k) : (w.openServer k).Tagged origin := by
  have hcreate := h.create (d := ⟨serverTag k, (0, 0), some .tcpserverClient, false⟩) (by rw [ho, Origin.tag])
  exact hcreate.setServer k _

theorem resolve {c : ℕ} (hc : c < w.nextBlock) (ip : Option Ip) (connected : Bool) :
    (w.resolve c ip connected).Tagged origin := by
  unfold Wiring.resolve
  split
  · rename_i i ip _
    split
    · exact h
    · rename_i t ht
      have hident := h.setIdent (d := ⟨(w.ident c).parrent, (ip, t.key.2), some .tcpconn, true⟩) (h.ident c hc)
      have hslot := hident.setSlot_some (i := i) (t := { t with key := (ip, t.key.2) }) (h.slot i t ht).1
        (h.slot i t ht).2
      cases connected with
      | false => exact hslot
      | true => exact hslot.addLink (by simp)
  · exact h.setSlot_none _
  · exact h

theorem start {i : LinkId} (ho : origin w.nextBlock = .outgoing i) (port : UInt16) (lookup : LookupResult)
    (connected : Bool) : (w.start i port lookup connected).Tagged origin := by
  have hopen := h.openLink ho port
  unfold Wiring.start
  cases lookup with
  | ok ip => exact hopen.resolve (Nat.lt_succ_self _) (some ip) connected
  | inprogress => exact hopen.addLookup _
  | failed => exact hopen.setSlot_none i

theorem accept {server : ℕ} {k : ServerId} (hserver : origin server = .server k)
    (ho : origin w.nextBlock = .client k server) (hlt : server < w.nextBlock) (key : Ip × UInt16) :
    (w.accept server key).Tagged origin := by
  have htag := h.ident server hlt
  have hident := h.setIdent (c := server) (d := { w.ident server with key := key }) htag
  have hcreate := hident.create (d := { w.ident server with key := key }) (by
    rw [hserver] at htag
    rw [show (w.setIdent server _).nextBlock = w.nextBlock from rfl, ho]
    exact htag)
  refine hcreate.addLink ?_
  rintro b ⟨⟩
  exact ⟨k, hserver, ho⟩

theorem report {c : ℕ} {p : Option ℕ} (hc : (c, p) ∈ w.links) (hlt : c < w.nextBlock) :
    (w.report c p).Tagged origin := by
  cases p with
  | none => exact h
  | some server =>
    obtain ⟨k, hserver, hclient⟩ := h.link c server hc
    refine h.setIdent ?_
    rw [h.ident c hlt, hserver, hclient, Origin.tag, Origin.tag]

theorem endLink {c : ℕ} {p : Option ℕ} (hc : (c, p) ∈ w.links) (hlt : c < w.nextBlock) (handled : Bool) :
    (w.endLink c p handled).Tagged origin := by
  have hreport := h.report hc hlt
  cases handled with
  | false => exact hreport.dropLink c
  | true => exact (hreport.freeKey (w.ident c).key).dropLink c

end Tagged

end Wiring

/-- No block has been created. -/
theorem tagged_atReset (origin : ℕ → Origin) (heap : ℕ → Bool) (numTcpPcb : ℕ) :
    (atReset heap numTcpPcb).wiring.Tagged origin := by
  constructor <;> simp [atReset, wiring]

variable (lib : LibAt) {role : ℕ → Role} {x : Traced}

/-! ### Steps -/

namespace Traced

variable {lib} in
theorem step_created {a : Action} {o : Origin} (h : x.created lib a = some o) :
    (x.step lib a).origin x.tcp.nextBlock = o := by
  simp [step, h]

theorem step_origin (a : Action) {c : ℕ} (hc : c < x.tcp.nextBlock) : (x.step lib a).origin c = x.origin c := by
  cases ha : x.created lib a with
  | none => simp [step, ha]
  | some o => simp [step, ha, hc.ne]

theorem tagged_step_origin (a : Action) (hb : x.tcp.wiring.Blocks role) (h : x.tcp.wiring.Tagged x.origin) :
    x.tcp.wiring.Tagged (x.step lib a).origin := by
  cases ha : x.created lib a with
  | none => simpa [step, ha] using h
  | some o =>
    have hnote : x.tcp.wiring.Tagged (Function.update x.origin x.tcp.nextBlock o) := h.note hb o
    simpa [step, ha] using hnote

end Traced

variable {lib} in
/-- A command, after the origin of the block it may create has been noted. -/
theorem tagged_command {origin : ℕ → Origin} (c : Command) (h : x.tcp.wiring.Tagged origin)
    (ho : ∀ o, x.created lib (.command c) = some o → origin x.tcp.nextBlock = o) :
    (x.tcp.command lib c).wiring.Tagged origin := by
  cases c with
  | start pPara lookup port result =>
    rcases x.tcp.wiring_atSetupCmdTCPConnConnect lib pPara lookup port result with hw | ⟨p, hp, hw⟩
    · rw [command, hw]
      exact h
    · rw [command, hw]
      have hnew := ho (.outgoing p.connNo) (by simp [Traced.created, hp])
      exact h.start hnew p.port lookup _
  | server pPara result =>
    simp only [command, atSetupCmdTCPServer]
    split
    · exact h
    · rename_i p hp
      have hnew := ho (.server p.srvN) (by simp [Traced.created, hp])
      split
      · rcases x.tcp.wiring_tcpServerCreate p result with hw | ⟨-, hw | hw⟩
        · rw [hw]
          exact h
        · rw [hw]
          exact h.openServer hnew
        · rw [hw]
          exact (h.openServer hnew).listen hnew
      · rcases x.tcp.wiring_tcpServerDelete p.srvN with hw | ⟨srv, -, hw | hw⟩
        · rw [hw]
          exact h
        · rw [hw]
          exact h.setServer ..
        · rw [hw]
          exact (h.unlisten _).setServer ..
  | close pPara =>
    rw [command, wiring_atSetupCmdTCPClose]
    exact h
  | send pPara host result =>
    rw [command, wiring_atSetupCmdTCPSend]
    exact h

/-- A client is accepted. -/
theorem tagged_accepted {server : ℕ} (ip : Ip) (port : UInt16) (hb : x.tcp.wiring.Blocks role)
    (h : x.tcp.wiring.Tagged x.origin) (hserver : server ∈ x.tcp.pserverList) :
    (x.tcp.espconnTcpAccept server ip port).wiring.Tagged (x.step lib (.event (.accepted server ip port))).origin := by
  have hnote := Traced.tagged_step_origin lib (.event (.accepted server ip port)) hb h
  have hlt := (hb.listening server hserver).1
  obtain ⟨k, hk⟩ := h.listening server hserver
  have hold := Traced.step_origin lib (.event (.accepted server ip port)) hlt
  have hcreated : x.created lib (.event (.accepted server ip port)) = some (.client k server) := by
    simp [Traced.created, hk]
  have hnew := Traced.step_created hcreated
  generalize (x.step lib (.event (.accepted server ip port))).origin = origin at hnote hold hnew ⊢
  rw [hk] at hold
  have haccept := hnote.accept hold hnew hlt (ip, port)
  rcases x.tcp.wiring_espconnTcpAccept ip port hlt.ne with hw | hw | ⟨i, _, -, -, hw⟩
  · rw [hw]
    exact hnote
  · rw [hw]
    exact haccept
  · rw [hw]
    refine haccept.setSlot_some ?_ (.inr ⟨k, server, hnew⟩)
    rw [hnote.ident server hlt, hold, hnew, Origin.tag, Origin.tag]

theorem tagged_event (e : Event) (hb : x.tcp.wiring.Blocks role) (h : x.tcp.wiring.Tagged x.origin)
    (hs : x.tcp.crashed = false) : (x.tcp.event e).wiring.Tagged (x.step lib (.event e)).origin := by
  have hnote := Traced.tagged_step_origin lib (.event e) hb h
  cases e with
  | found c ip port result =>
    simp only [event]
    split
    · rename_i hc
      rw [wiring_tcpconnResolved]
      exact (hnote.dropLookup c).resolve (hb.lookup c hc).1 ip _
    · exact hnote
  | connected c =>
    simp only [event]
    split
    · rename_i l hl
      split
      · rename_i hcond
        rw [wiring_espconnClientConnect _ _ (by simp [connectCallback_of_outgoing hb hl hcond.1])]
        exact hnote
      · exact hnote
    · exact hnote
  | accepted server ip port =>
    simp only [event]
    split
    · rename_i hserver
      exact tagged_accepted lib ip port hb h hserver
    · exact hnote
  | received c data host =>
    simp only [event]
    split
    · split
      · rw [wiring_espconnRecv]
        exact hnote
      · exact hnote
    · exact hnote
  | sent c =>
    simp only [event]
    split
    · split
      · rw [wiring_espconnTcpFinish]
        exact hnote
      · exact hnote
    · exact hnote
  | failed c =>
    simp only [event]
    split
    · rename_i l hl
      split
      · obtain ⟨hc, -, hmem⟩ := mem_wiring_links hl
        rw [wiring_espconnTcpReconnect _ _ (x.tcp.espconnTcpReconnect_crashed l hs), hc]
        exact hnote.endLink hmem (hb.link c _ hmem).1 _
      · exact hnote
    · exact hnote
  | closed c =>
    simp only [event]
    split
    · rename_i l hl
      split
      · obtain ⟨hc, -, hmem⟩ := mem_wiring_links hl
        have hlt := (hb.link c _ hmem).1
        cases hcrash : (x.tcp.espconnTcpDisconnectSuccessful l).crashed with
        | false =>
          rw [wiring_espconnTcpDisconnectSuccessful _ _ hcrash, hc]
          exact hnote.endLink hmem hlt _
        | true =>
          rw [wiring_espconnTcpDisconnectSuccessful_crashed _ _ hs hcrash, hc]
          exact hnote.report hmem hlt
      · exact hnote
    · exact hnote

/-- What a step preserves. -/
def Traced.Consistent (x : Traced) : Prop := (∃ role, x.tcp.wiring.Blocks role) ∧ x.tcp.wiring.Tagged x.origin

theorem consistent_step (a : Action) (h : x.Consistent) : (x.step lib a).Consistent := by
  obtain ⟨hrole, htag⟩ := h
  refine ⟨blocks_step a hrole, ?_⟩
  obtain ⟨role, hb⟩ := hrole
  have hnote := Traced.tagged_step_origin lib a hb htag
  rw [Traced.step_tcp]
  unfold Tcp.step
  split
  · exact hnote
  · rename_i hs
    cases a with
    | command c =>
      simp only
      split
      · exact hnote
      · exact tagged_command c hnote fun o ho => Traced.step_created ho
    | event e => exact tagged_event lib e hb htag (by simpa using hs)

theorem consistent_run (as : List Action) (heap : ℕ → Bool) (numTcpPcb : ℕ) :
    (Machine.run (Traced.step lib) as (Traced.atReset heap numTcpPcb)).Consistent :=
  Machine.run_invariant (fun a _ h => consistent_step lib a h)
    ⟨⟨fun _ => .link, blocks_atReset _ heap numTcpPcb⟩, tagged_atReset _ heap numTcpPcb⟩

/-! ### What tags tell -/

/-- Link `i` is occupied by `t`, and its block was created for `o`. -/
def Traced.Occupied (x : Traced) (i : LinkId) (t : TcpConn) (o : Origin) : Prop :=
  x.tcp.tcpconns i = some t ∧ x.origin t.conn = o

/-- The tags of the links in the table tell them apart. -/
structure Traced.TellsApart (x : Traced) : Prop where
  /-- A link that `AT+TCPSTART` opened is where it was opened, and has its tag in the record and the block. -/
  outgoing : ∀ i j t, x.Occupied i t (.outgoing j) → j = i ∧
    t.parrent = TCPCONN_PARRENT_MASK ||| UInt8.ofNat (TCPCONN_MAX_SERV + i.val) ∧
    (x.tcp.espconn t.conn).parrent = TCPCONN_PARRENT_MASK ||| UInt8.ofNat (TCPCONN_MAX_SERV + i.val)
  client : ∀ i k b t, x.Occupied i t (.client k b) →
    t.parrent = TCPCONN_PARRENT_MASK ||| UInt8.ofNat k.val ∧
    (x.tcp.espconn t.conn).parrent = TCPCONN_PARRENT_MASK ||| UInt8.ofNat k.val
  /-- There are no other links. -/
  either : ∀ i t, x.tcp.tcpconns i = some t → x.Occupied i t (.outgoing i) ∨ ∃ k b, x.Occupied i t (.client k b)
  classified : ∀ i t, x.tcp.tcpconns i = some t →
    ((t.parrent &&& 7).toNat < TCPCONN_MAX_SERV ↔ ∃ k b, x.Occupied i t (.client k b)) ∧
    (((x.tcp.espconn t.conn).parrent &&& 7).toNat < TCPCONN_MAX_SERV ↔ ∃ k b, x.Occupied i t (.client k b))
  distinct : ∀ i j t u, x.Occupied i t (.outgoing i) → x.Occupied j u (.outgoing j) →
    t.parrent = u.parrent → i = j
  /-- The result of a name lookup for the block is that of the link which the block is in. -/
  resolved : ∀ i t, x.Occupied i t (.outgoing i) → ∀ port result,
    (∀ ip, x.tcp.tcpconnResolved t.conn (some ip) port result =
      (x.tcp.use t.conn).linkResolved t.conn i t ip port result) ∧
    x.tcp.tcpconnResolved t.conn none port result =
      (((x.tcp.use t.conn).tcpconnCleanup i).atLeaveSpecialState.print
        "\r\n+TCPSTART:DNSError\r\n").responseError

namespace Traced.Consistent

variable (h : x.Consistent)
include h

theorem record_tag {i : LinkId} {t : TcpConn} (ht : x.tcp.tcpconns i = some t) :
    t.parrent = (x.origin t.conn).tag ∧ (x.origin t.conn = .outgoing i ∨ ∃ k b, x.origin t.conn = .client k b) := by
  obtain ⟨-, htag⟩ := h
  exact htag.slot i t.slot (by simp [wiring, ht])

theorem block_tag {i : LinkId} {t : TcpConn} (ht : x.tcp.tcpconns i = some t) :
    (x.tcp.espconn t.conn).parrent = (x.origin t.conn).tag := by
  obtain ⟨⟨role, hb⟩, htag⟩ := h
  have hlt := (hb.slot i t.slot (by simp [wiring, ht])).1
  exact htag.ident t.conn hlt

/-- The search by the tag of an outgoing link's block finds that link. -/
theorem firstWhere_parrent {i : LinkId} {t : TcpConn} (ht : x.Occupied i t (.outgoing i)) :
    (x.tcp.tcpconns.firstWhere fun u => u.parrent = (x.tcp.espconn t.conn).parrent) = some i := by
  obtain ⟨ht, ho⟩ := ht
  have hblock := h.block_tag ht
  have hrecord := (h.record_tag ht).1
  apply Table.firstWhere_of_unique ht
  · simp [hblock, hrecord]
  · intro j u hu hp
    have hp : u.parrent = (x.tcp.espconn t.conn).parrent := by simpa using hp
    obtain ⟨hrecord, hlink | ⟨k, b, hclient⟩⟩ := h.record_tag hu
    · rw [hp, hblock, ho, hlink] at hrecord
      exact (linkTag_injective hrecord).symm
    · rw [hp, hblock, ho, hclient] at hrecord
      exact absurd hrecord (linkTag_ne_serverTag i k)

theorem classified {i : LinkId} {t : TcpConn} (ht : x.tcp.tcpconns i = some t) :
    ((x.origin t.conn).tag &&& 7).toNat < TCPCONN_MAX_SERV ↔ ∃ k b, x.Occupied i t (.client k b) := by
  rcases (h.record_tag ht).2 with ho | ⟨k, b, ho⟩
  · rw [ho, Origin.tag]
    constructor
    · intro hlt
      exact absurd hlt (linkTag_class i)
    · rintro ⟨k, b, -, hk⟩
      simp [ho] at hk
  · rw [ho, Origin.tag]
    constructor
    · intro _
      exact ⟨k, b, ht, ho⟩
    · intro _
      exact serverTag_class k

theorem tellsApart : x.TellsApart where
  outgoing := by
    rintro i j t ⟨ht, ho⟩
    obtain ⟨hrecord, hlink | ⟨k, b, hclient⟩⟩ := h.record_tag ht
    · have hj : j = i := by simpa [ho] using hlink
      have hblock := h.block_tag ht
      rw [hlink] at hrecord hblock
      exact ⟨hj, hrecord, hblock⟩
    · simp [ho] at hclient
  client := by
    rintro i k b t ⟨ht, ho⟩
    have hrecord := (h.record_tag ht).1
    have hblock := h.block_tag ht
    rw [ho] at hrecord hblock
    exact ⟨hrecord, hblock⟩
  either := by
    intro i t ht
    rcases (h.record_tag ht).2 with ho | ⟨k, b, ho⟩
    · exact .inl ⟨ht, ho⟩
    · exact .inr ⟨k, b, ht, ho⟩
  classified := by
    intro i t ht
    rw [(h.record_tag ht).1, h.block_tag ht]
    exact ⟨h.classified ht, h.classified ht⟩
  distinct := by
    rintro i j t u ⟨ht, hi⟩ ⟨hu, hj⟩ htu
    rw [(h.record_tag ht).1, (h.record_tag hu).1, hi, hj] at htu
    exact linkTag_injective htu
  resolved := by
    intro i t ht port result
    have hfind : ((x.tcp.use t.conn).tcpconns.firstWhere fun u =>
        u.parrent = ((x.tcp.use t.conn).espconn t.conn).parrent) = some i := h.firstWhere_parrent ht
    have hi : (x.tcp.use t.conn).tcpconns i = some t := ht.1
    constructor
    · intro ip
      simp only [tcpconnResolved, hfind, hi]
    · simp [tcpconnResolved, hfind]

end Traced.Consistent

/-- In every state of every run the tags tell the links apart. -/
theorem tells_apart (lib : LibAt) (as : List Action) (heap : ℕ → Bool) (numTcpPcb : ℕ) :
    (Machine.run (Traced.step lib) as (Traced.atReset heap numTcpPcb)).TellsApart :=
  (consistent_run lib as heap numTcpPcb).tellsApart

end Esp8266At.Tcp
