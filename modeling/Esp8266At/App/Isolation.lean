import Esp8266At.App.SessionFlag

/-!
# Sessions and the events of other connections

The network layer reports on every connection that `espconn_connect` was called for until it has reported
it closed or failed, whether or not the session it was opened for still exists (`OtaNet.Deliverable`). The
disconnect callback compares its connection with the one of the session; the other callbacks do not look
at theirs. Sessions are isolated from each other in every run in which the latter are called for the
connection of the session in progress only (`sessions_isolated`).
-/

namespace Esp8266At

open Machine

/-- The application, and what the network layer still has to report. -/
structure OtaNet where
  app : App
  /-- The connections that have not been reported closed or failed. -/
  opened : List ℕ
  /-- The connections whose name lookup has not ended. -/
  lookups : List ℕ

/-- What happens next. -/
inductive OtaAction where
  | configure (p : UpdateSettings)
  | start (callback : OtaCallback) (dns : DnsResult)
  | resolved (conn : ℕ) (found : Bool)
  | connected (conn : ℕ)
  | received (conn : ℕ) (data : Chunk) (reading : Bool)
  | error (conn : ℕ) (errType : ℤ)
  | disconnected (conn : ℕ)
  | timer

namespace OtaAction

/-- What the update code is called for. -/
def toCall : OtaAction → OtaCall
  | .configure p => .configure p
  | .start callback dns => .start callback dns
  | .resolved _ found => .event (.resolved found)
  | .connected _ => .event .connected
  | .received _ data reading => .event (.received data reading)
  | .error _ errType => .event (.reconnect errType)
  | .disconnected conn => .event (.disconnected conn)
  | .timer => .event .timer

/-- The connection an action is about. -/
def conn : OtaAction → Option ℕ
  | .resolved conn _ => some conn
  | .connected conn => some conn
  | .received conn _ _ => some conn
  | .error conn _ => some conn
  | .disconnected conn => some conn
  | _ => none

end OtaAction

/-- `upgrade->conn`, if there is a session. -/
def App.sessionConn (s : App) : Option ℕ :=
  match s.upgrade with
  | .live u => u.conn
  | _ => none

/-- The connection control block that `upgrade_disconcb` frees. -/
def App.freedConn (a : OtaCall) (s : App) : Option ℕ :=
  match a with
  | .event (.disconnected conn) => some conn
  | .event (.reconnect _) => s.sessionConn
  | .event (.resolved false) => s.sessionConn
  | .event .timer => if s.otaTimer = some .connectTimeout then s.sessionConn else none
  | _ => none

namespace OtaNet

/-- The network layer reports on connections it knows, and the timer fires while it is armed. -/
def Deliverable (a : OtaAction) (n : OtaNet) : Prop :=
  match a with
  | .configure _ | .start _ _ => True
  | .resolved conn _ => conn ∈ n.lookups
  | .connected conn | .received conn _ _ | .error conn _ | .disconnected conn => conn ∈ n.opened
  | .timer => n.app.otaTimer ≠ none

instance (a : OtaAction) (n : OtaNet) : Decidable (Deliverable a n) :=
  match a with
  | .configure _ | .start _ _ => inferInstanceAs (Decidable True)
  | .resolved conn _ => inferInstanceAs (Decidable (conn ∈ n.lookups))
  | .connected conn | .received conn _ _ | .error conn _ | .disconnected conn =>
    inferInstanceAs (Decidable (conn ∈ n.opened))
  | .timer => inferInstanceAs (Decidable (n.app.otaTimer ≠ none))

section
variable (md5 : List UInt8 → Digest)

/-- `espconn_connect` is called where the name lookup has found an address. -/
def nextOpened (a : OtaAction) (n : OtaNet) : List ℕ :=
  match a with
  | .start callback .ok => if (n.app.atOtaStart md5 callback .ok).1 then n.app.nextConn :: n.opened else n.opened
  | .resolved _ true => n.app.sessionConn.toList ++ n.opened
  | .error conn _ | .disconnected conn => n.opened.erase conn
  | _ => n.opened

def nextLookups (a : OtaAction) (n : OtaNet) : List ℕ :=
  match a with
  | .start callback .inProgress =>
    if (n.app.atOtaStart md5 callback .inProgress).1 then n.app.nextConn :: n.lookups else n.lookups
  | .resolved conn _ => n.lookups.erase conn
  | _ => n.lookups

/-- One step. -/
def next (a : OtaAction) (n : OtaNet) : OtaNet :=
  if n.app.crashed then n else ⟨n.app.call md5 a.toCall, n.nextOpened md5 a, n.nextLookups md5 a⟩

/-- A handler dereferences `upgrade` while it is null. -/
def NullDeref (a : OtaAction) (n : OtaNet) : Prop :=
  n.app.crashed = false ∧ n.app.upgrade = .null ∧ (n.next md5 a).app.crashed = true

/-- An event of a connection of another session leaves the session in progress alone: nothing of it
changes, nothing is sent or disconnected and its connection is not freed. -/
def Unaffected (a : OtaAction) (n : OtaNet) : Prop :=
  ∀ c u, a.conn = some c → n.app.crashed = false → n.app.upgrade = .live u → u.conn ≠ some c →
    (n.next md5 a).app.upgrade = .live u ∧ (n.next md5 a).app.upgradeFlag = n.app.upgradeFlag ∧
    (n.next md5 a).app.upgradeContentLen = n.app.upgradeContentLen ∧
    (∃ ts : List String, (n.next md5 a).app.out = n.app.out ++ ts.map .text) ∧
    n.app.freedConn a.toCall ≠ u.conn

def Isolated (a : OtaAction) (n : OtaNet) : Prop := ¬n.NullDeref md5 a ∧ n.Unaffected md5 a

end

/-- The callbacks that do not look at their connection are called for the one of the session in progress;
the connect and receive callbacks are called during a session only. -/
def OwnEvent (a : OtaAction) (n : OtaNet) : Prop :=
  match a with
  | .connected conn | .received conn _ _ => n.app.upgrade ≠ .null ∧ ∀ u, n.app.upgrade = .live u → u.conn = some conn
  | .error conn _ => ∀ u, n.app.upgrade = .live u → u.conn = some conn
  | _ => True

/-- What holds between two steps: a session has its connection, the timer is armed for a session only, and
a name lookup belongs to the session in progress, which waits for nothing else. -/
structure Tracked (n : OtaNet) : Prop where
  session : ∀ u, n.app.upgrade = .live u →
    n.app.upgradeFlag = .start ∧ ∃ c, u.conn = some c ∧ c < n.app.nextConn
  timer : n.app.otaTimer ≠ none → ∃ u, n.app.upgrade = .live u
  opened : ∀ c ∈ n.opened, c < n.app.nextConn
  lookup : n.lookups = [] ∨ ∃ c u, n.lookups = [c] ∧ n.app.upgrade = .live u ∧ u.conn = some c ∧
    c ∉ n.opened ∧ n.app.otaTimer = none

variable {md5 : List UInt8 → Digest} {n : OtaNet}

/-! ### Steps that keep track -/

theorem Tracked.of_eq (h : n.Tracked) {s : App} (hup : s.upgrade = n.app.upgrade)
    (hflag : s.upgradeFlag = n.app.upgradeFlag) (htimer : s.otaTimer = n.app.otaTimer)
    (hnext : s.nextConn = n.app.nextConn) {opened : List ℕ} (hopened : ∀ c ∈ opened, c ∈ n.opened) :
    Tracked ⟨s, opened, n.lookups⟩ := by
  refine ⟨fun u hu => ?_, fun ht => ?_, fun c hc => ?_, ?_⟩
  · rw [hflag, hnext]
    exact h.session u (hup ▸ hu)
  · rw [hup]
    exact h.timer (htimer ▸ ht)
  · rw [hnext]
    exact h.opened c (hopened c hc)
  · rw [hup, htimer]
    rcases h.lookup with hl | ⟨c, u, hl, hu, hc, hnot, ht⟩
    · exact Or.inl hl
    · exact Or.inr ⟨c, u, hl, hu, hc, fun hmem => hnot (hopened c hmem), ht⟩

/-- A step that changes neither session nor timer. -/
theorem Tracked.of_frame (h : n.Tracked) {s : App} (hframe : s.frame = n.app.frame) {opened : List ℕ}
    (hopened : ∀ c ∈ opened, c ∈ n.opened) : Tracked ⟨s, opened, n.lookups⟩ :=
  h.of_eq (congrArg Frame.upgrade hframe) (congrArg Frame.flag hframe) (congrArg Frame.timer hframe)
    (congrArg Frame.nextConn hframe) hopened

/-- A step that disarms the timer. -/
theorem Tracked.of_disarmed (h : n.Tracked) {s : App} (hframe : s.frame = { n.app.frame with timer := none })
    {opened : List ℕ} (hopened : ∀ c ∈ opened, c ∈ n.opened) : Tracked ⟨s, opened, n.lookups⟩ := by
  have hdisarmed : Tracked ⟨{ n.app with otaTimer := none }, n.opened, n.lookups⟩ := by
    refine ⟨h.session, fun ht => absurd rfl ht, h.opened, ?_⟩
    rcases h.lookup with hl | ⟨c, u, hl, hu, hc, hnot, ht⟩
    · exact Or.inl hl
    · exact Or.inr ⟨c, u, hl, hu, hc, hnot, rfl⟩
  exact hdisarmed.of_frame hframe hopened

/-- An event of the session in progress, which waits for no name lookup any more. -/
theorem Tracked.of_goes (h : n.Tracked) {u : UpgradeStatus} (hlive : n.app.upgrade = .live u) {s : App}
    (hgoes : App.Goes n.app.frame u.conn s.frame) {opened : List ℕ} (hopened : ∀ c ∈ opened, c < n.app.nextConn) :
    Tracked ⟨s, opened, []⟩ := by
  obtain ⟨hflag, c, hc, hlt⟩ := h.session u hlive
  rcases hgoes with ⟨u', timer, hconn, hframe⟩ | ⟨flag, -, hframe⟩
  · have hup : s.upgrade = .live u' := congrArg Frame.upgrade hframe
    have hnext : s.nextConn = n.app.nextConn := congrArg Frame.nextConn hframe
    refine ⟨fun v hv => ?_, fun _ => ⟨u', hup⟩, fun c hc => hnext ▸ hopened c hc, Or.inl rfl⟩
    obtain rfl : u' = v := UpgradePtr.live.inj (hup.symm.trans hv)
    refine ⟨(congrArg Frame.flag hframe).trans hflag, c, hconn.trans hc, ?_⟩
    rw [hnext]
    exact hlt
  · have hup : s.upgrade = .null := congrArg Frame.upgrade hframe
    have hnext : s.nextConn = n.app.nextConn := congrArg Frame.nextConn hframe
    refine ⟨fun v hv => ?_, fun ht => absurd (congrArg Frame.timer hframe) ht, fun c hc => hnext ▸ hopened c hc, Or.inl rfl⟩
    rw [hup] at hv
    cases hv

/-- While a connection of the session is opened, no name lookup is in progress. -/
theorem Tracked.no_lookup (h : n.Tracked) {u : UpgradeStatus} (hlive : n.app.upgrade = .live u) {c : ℕ}
    (hc : u.conn = some c) (hopened : c ∈ n.opened) : n.lookups = [] := by
  rcases h.lookup with hl | ⟨c', u', -, hu, hc', hnot, -⟩
  · exact hl
  · obtain rfl : u' = u := UpgradePtr.live.inj (hu.symm.trans hlive)
    obtain rfl : c' = c := Option.some.inj (hc'.symm.trans hc)
    exact absurd hopened hnot

/-- A start: of a session that waits for a connection or for a name lookup, or of none. -/
theorem Tracked.start (h : n.Tracked) (callback : OtaCallback) (dns : DnsResult) :
    Tracked ⟨(n.app.atOtaStart md5 callback dns).2, n.nextOpened md5 (.start callback dns),
      n.nextLookups md5 (.start callback dns)⟩ := by
  have failed : ∀ s, n.app.atOtaStart md5 callback dns = (false, s) → Tracked ⟨s, n.opened, n.lookups⟩ →
      Tracked ⟨(n.app.atOtaStart md5 callback dns).2, n.nextOpened md5 (.start callback dns),
        n.nextLookups md5 (.start callback dns)⟩ := by
    intro s hs ht
    have hopened : n.nextOpened md5 (.start callback dns) = n.opened := by
      cases dns <;> simp [nextOpened, hs]
    have hlookups : n.nextLookups md5 (.start callback dns) = n.lookups := by
      cases dns <;> simp [nextLookups, hs]
    rw [hopened, hlookups, hs]
    exact ht
  -- without the flag there is no session
  have hidle : n.app.upgradeFlag ≠ .start → n.lookups = [] ∧ n.app.otaTimer = none := by
    intro hne
    have hnot : ∀ u, n.app.upgrade ≠ .live u := fun u hu => hne (h.session u hu).1
    refine ⟨h.lookup.resolve_right fun ⟨_, u, _, hu, _⟩ => hnot u hu, ?_⟩
    by_contra ht
    obtain ⟨u, hu⟩ := h.timer ht
    exact hnot u hu
  rcases n.app.atOtaStart_spec md5 callback dns with ⟨-, o, ho⟩ | ⟨hne, -, o, ho⟩ | ⟨hne, -, -, heap, o, ho⟩ |
    ⟨hne, -, -, heap, o, ho⟩ | ⟨hne, -, hdns, heap, o, ho⟩
  · exact failed _ ho (h.of_eq (s := n.app.printed o) rfl rfl rfl rfl fun _ hc => hc)
  · obtain ⟨hl, ht⟩ := hidle hne
    exact failed _ ho ⟨fun _ hu => (nomatch hu), fun hn => absurd ht hn, h.opened, Or.inl hl⟩
  · obtain ⟨hl, ht⟩ := hidle hne
    exact failed _ ho ⟨fun _ hu => (nomatch hu), fun hn => absurd ht hn, h.opened, Or.inl hl⟩
  · obtain ⟨hl, ht⟩ := hidle hne
    refine failed _ ho ⟨fun _ hu => (nomatch hu), fun hn => absurd ht hn, fun c hc => ?_, Or.inl hl⟩
    exact Nat.lt_succ_of_lt (h.opened c hc)
  · obtain ⟨hl, ht⟩ := hidle hne
    have hsession : ∀ u, UpgradePtr.live (n.app.openedStatus callback) = .live u →
        UpgradeFlag.start = .start ∧ ∃ c, u.conn = some c ∧ c < n.app.nextConn + 1 := by
      rintro _ ⟨⟩
      exact ⟨rfl, n.app.nextConn, rfl, Nat.lt_succ_self _⟩
    have hlt : ∀ c ∈ n.opened, c < n.app.nextConn + 1 := fun c hc => Nat.lt_succ_of_lt (h.opened c hc)
    rw [ho]
    cases dns with
    | ok =>
      rw [show n.nextOpened md5 (.start callback .ok) = n.app.nextConn :: n.opened by simp [nextOpened, ho]]
      refine ⟨hsession, fun _ => ⟨_, rfl⟩, fun c hc => ?_, Or.inl hl⟩
      rcases List.mem_cons.mp hc with rfl | hc
      · exact Nat.lt_succ_self _
      · exact hlt c hc
    | inProgress =>
      rw [show n.nextLookups md5 (.start callback .inProgress) = [n.app.nextConn] by simp [nextLookups, ho, hl]]
      refine ⟨hsession, fun hn => absurd ht hn, hlt, Or.inr ⟨n.app.nextConn, _, rfl, rfl, rfl, fun hc => ?_, ht⟩⟩
      exact absurd (h.opened _ hc) (lt_irrefl _)
    | failed => exact absurd rfl hdns

/-- A dangling session pointer: every callback that uses it crashes. -/
theorem step_freed {s : App} (hfreed : s.upgrade = .freed) (e : NetEvent) (he : e ≠ .timer) :
    (s.step md5 e).crashed = true := by
  have hdebug : ∀ m, (s.debug m).upgrade = .freed := fun m => (App.debug_upgrade s m).trans hfreed
  unfold App.step
  split_ifs with hcrash
  · exact hcrash
  cases e with
  | resolved found => cases found <;> simp only [App.upgradeResolved, hfreed, App.crash]
  | connected => simp only [App.upgradeConnectCb, hfreed, App.crash]
  | received data reading => simp only [App.upgradeRecvcb, App.receive, hfreed, App.crash]
  | reconnect errType => simp only [App.upgradeReconCb, App.dropConnection, hdebug, App.crash]
  | disconnected conn => simp only [App.upgradeDisconcb, hdebug, App.crash]
  | timer => exact absurd rfl he

variable (md5) in
/-- The disconnect callback for the connection of another session. -/
theorem step_disconnected_foreign {s : App} {u : UpgradeStatus} (hlive : s.upgrade = .live u) (hrun : s.crashed = false)
    {c : ℕ} (hne : u.conn ≠ some c) : ∃ ts : List String, s.step md5 (.disconnected c) =
      { s with out := s.out ++ ts.map .text, otaTimer := none } := by
  have hdebug : ∃ ts : List String, s.debug "OTA: Disconnected\r\n" = s.printed (s.out ++ ts.map .text) := by
    unfold App.debug
    split_ifs
    · exact ⟨["OTA: Disconnected\r\n"], rfl⟩
    · exact ⟨[], by rw [List.map_nil, List.append_nil]; rfl⟩
  obtain ⟨ts, hts⟩ := hdebug
  refine ⟨ts, ?_⟩
  have hprinted : (s.printed (s.out ++ ts.map .text)).upgrade = .live u := hlive
  have hcallback : s.upgradeDisconcb md5 (some c) = { s.printed (s.out ++ ts.map .text) with otaTimer := none } := by
    simp only [App.upgradeDisconcb, hts, hprinted, if_neg hne]
  have hnot : ¬s.crashed = true := by
    rw [hrun]
    decide
  exact (if_neg hnot).trans hcallback

/-- One step keeps track, or the program has crashed. -/
theorem Tracked.next (h : n.Tracked) (hrun : n.app.crashed = false) {a : OtaAction} (hdel : n.Deliverable a)
    (hown : n.OwnEvent a) : (n.next md5 a).app.crashed = true ∨ (n.next md5 a).Tracked := by
  have hnext : n.next md5 a = ⟨n.app.call md5 a.toCall, n.nextOpened md5 a, n.nextLookups md5 a⟩ := by
    unfold OtaNet.next
    rw [hrun]
    rfl
  rw [hnext]
  have herase : ∀ conn, ∀ c ∈ n.opened.erase conn, c ∈ n.opened := fun conn c hc => List.mem_of_mem_erase hc
  -- an event of the session in progress
  have own : ∀ (u : UpgradeStatus) (e : NetEvent) (opened : List ℕ), n.app.upgrade = .live u →
      (∀ c ∈ opened, c < n.app.nextConn) → Tracked ⟨n.app.step md5 e, opened, []⟩ :=
    fun u e opened hu ho => h.of_goes hu (App.step_frame md5 hu e) ho
  cases a with
  | configure p =>
    refine Or.inr (h.of_eq ?_ ?_ ?_ ?_ fun _ hc => hc) <;>
      simp only [OtaAction.toCall, App.call, hrun, App.configure] <;> rfl
  | start callback dns =>
    refine Or.inr ?_
    have hcall : n.app.call md5 (.start callback dns) = (n.app.atOtaStart md5 callback dns).2 := by
      show (if n.app.crashed then n.app else _) = _
      rw [hrun]
      rfl
    rw [OtaAction.toCall, hcall]
    exact h.start callback dns
  | resolved c found =>
    obtain ⟨c', u, hl, hu, hc, -, -⟩ := h.lookup.resolve_left (List.ne_nil_of_mem hdel)
    have hcc : c = c' := by
      have hmem : c ∈ n.lookups := hdel
      rw [hl] at hmem
      exact List.mem_singleton.mp hmem
    subst hcc
    obtain ⟨-, d, hd, hlt⟩ := h.session u hu
    obtain rfl : d = c := Option.some.inj (hd.symm.trans hc)
    have hlookups : n.nextLookups md5 (.resolved d found) = [] := by simp [nextLookups, hl]
    rw [hlookups]
    refine Or.inr (own u (.resolved found) _ hu fun x hx => ?_)
    cases found with
    | false => exact h.opened x hx
    | true =>
      have hsession : n.app.sessionConn = some d := by simp only [App.sessionConn, hu, hc]
      simp only [nextOpened, hsession] at hx
      rcases List.mem_cons.mp hx with rfl | hx
      · exact hlt
      · exact h.opened x hx
  | connected c =>
    cases hup : n.app.upgrade with
    | null => exact absurd hup hown.1
    | freed => exact Or.inl (step_freed hup .connected (by rintro ⟨⟩))
    | live u =>
      refine Or.inr ?_
      have hl := h.no_lookup hup (hown.2 u hup) hdel
      rw [show n.nextLookups md5 (.connected c) = [] from hl]
      exact own u .connected _ hup h.opened
  | received c data reading =>
    cases hup : n.app.upgrade with
    | null => exact absurd hup hown.1
    | freed => exact Or.inl (step_freed hup (.received data reading) (by rintro ⟨⟩))
    | live u =>
      refine Or.inr ?_
      have hl := h.no_lookup hup (hown.2 u hup) hdel
      rw [show n.nextLookups md5 (.received c data reading) = [] from hl]
      exact own u (.received data reading) _ hup h.opened
  | error c errType =>
    cases hup : n.app.upgrade with
    | null =>
      refine Or.inr ?_
      rcases App.step_null md5 hup (.reconnect errType) with hframe | hframe
      · exact h.of_frame hframe (herase c)
      · exact h.of_disarmed hframe (herase c)
    | freed => exact Or.inl (step_freed hup (.reconnect errType) (by rintro ⟨⟩))
    | live u =>
      refine Or.inr ?_
      have hl := h.no_lookup hup (hown u hup) hdel
      rw [show n.nextLookups md5 (.error c errType) = [] from hl]
      exact own u (.reconnect errType) _ hup fun x hx => h.opened x (herase c x hx)
  | disconnected c =>
    cases hup : n.app.upgrade with
    | null =>
      refine Or.inr ?_
      rcases App.step_null md5 hup (.disconnected c) with hframe | hframe
      · exact h.of_frame hframe (herase c)
      · exact h.of_disarmed hframe (herase c)
    | freed => exact Or.inl (step_freed hup (.disconnected c) (by rintro ⟨⟩))
    | live u =>
      refine Or.inr ?_
      by_cases hconn : u.conn = some c
      · have hl := h.no_lookup hup hconn hdel
        rw [show n.nextLookups md5 (.disconnected c) = [] from hl]
        exact own u (.disconnected c) _ hup fun x hx => h.opened x (herase c x hx)
      · obtain ⟨ts, hts⟩ := step_disconnected_foreign md5 hup hrun hconn
        refine h.of_disarmed ?_ (herase c)
        show (n.app.step md5 (.disconnected c)).frame = _
        rw [hts]
        rfl
  | timer =>
    obtain ⟨u, hu⟩ := h.timer hdel
    have hl : n.lookups = [] := by
      rcases h.lookup with hl | ⟨_, _, -, -, -, -, ht⟩
      · exact hl
      · exact absurd ht hdel
    rw [show n.nextLookups md5 .timer = [] from hl]
    exact Or.inr (own u .timer _ hu h.opened)

/-! ### Isolation -/

theorem next_app (hrun : n.app.crashed = false) (a : OtaAction) : (n.next md5 a).app = n.app.call md5 a.toCall := by
  unfold OtaNet.next
  rw [hrun]
  rfl

variable (md5) in
/-- Errors and disconnects without a session do not crash. -/
theorem step_null_running {s : App} (hnull : s.upgrade = .null) (hrun : s.crashed = false) {e : NetEvent}
    (he : (∃ errType, e = .reconnect errType) ∨ ∃ conn, e = .disconnected conn) : (s.step md5 e).crashed = false := by
  have hnot : ¬s.crashed = true := by
    rw [hrun]
    decide
  unfold App.step
  rw [if_neg hnot]
  rcases he with ⟨errType, rfl⟩ | ⟨conn, rfl⟩
  · obtain ⟨o, ho⟩ := s.debug_out ("Connection error (" ++ toString errType ++ ")\r\n")
    have hprinted : (s.printed o).upgrade = .null := hnull
    simp only [App.upgradeReconCb, ho, App.dropConnection, hprinted]
    exact hrun
  · obtain ⟨o, ho⟩ := s.debug_out "OTA: Disconnected\r\n"
    have hprinted : (s.printed o).upgrade = .null := hnull
    simp only [App.upgradeDisconcb, ho, hprinted]
    exact hrun

/-- `at_ota_start` does not crash. -/
theorem start_running (s : App) (callback : OtaCallback) (dns : DnsResult) :
    (s.atOtaStart md5 callback dns).2.crashed = s.crashed := by
  rcases s.atOtaStart_spec md5 callback dns with ⟨-, o, ho⟩ | ⟨-, -, o, ho⟩ | ⟨-, -, -, heap, o, ho⟩ |
    ⟨-, -, -, heap, o, ho⟩ | ⟨-, -, -, heap, o, ho⟩ <;> rw [ho] <;> rfl

theorem Tracked.not_nullDeref (h : n.Tracked) {a : OtaAction} (hdel : n.Deliverable a) (hown : n.OwnEvent a) :
    ¬n.NullDeref md5 a := by
  rintro ⟨hrun, hnull, hcrash⟩
  have hnot : ¬n.app.crashed = true := by
    rw [hrun]
    decide
  have hnone : ¬∃ u, n.app.upgrade = .live u := by
    rintro ⟨u, hu⟩
    rw [hnull] at hu
    cases hu
  rw [next_app hrun] at hcrash
  cases a with
  | configure p =>
    simp only [OtaAction.toCall, App.call, if_neg hnot, App.configure] at hcrash
    exact hnot hcrash
  | start callback dns =>
    simp only [OtaAction.toCall, App.call, if_neg hnot, start_running] at hcrash
    exact hnot hcrash
  | resolved c found =>
    obtain ⟨_, u, -, hu, -⟩ := h.lookup.resolve_left (List.ne_nil_of_mem hdel)
    exact hnone ⟨u, hu⟩
  | connected c => exact hown.1 hnull
  | received c data reading => exact hown.1 hnull
  | error c errType =>
    have := step_null_running md5 hnull hrun (Or.inl ⟨errType, rfl⟩)
    exact absurd (hcrash.symm.trans this) (by decide)
  | disconnected c =>
    have := step_null_running md5 hnull hrun (Or.inr ⟨c, rfl⟩)
    exact absurd (hcrash.symm.trans this) (by decide)
  | timer => exact hnone (h.timer hdel)

theorem Tracked.unaffected (h : n.Tracked) {a : OtaAction} (hdel : n.Deliverable a) (hown : n.OwnEvent a) :
    n.Unaffected md5 a := by
  intro c u hconn hrun hlive hne
  cases a with
  | configure p => cases hconn
  | start callback dns => cases hconn
  | timer => cases hconn
  | resolved d found =>
    obtain ⟨c', u', hl, hu', hc', -⟩ := h.lookup.resolve_left (List.ne_nil_of_mem hdel)
    have hmem : d ∈ n.lookups := hdel
    rw [hl, List.mem_singleton] at hmem
    obtain rfl : u' = u := UpgradePtr.live.inj (hu'.symm.trans hlive)
    obtain rfl : d = c := Option.some.inj hconn
    exact absurd (hmem ▸ hc') hne
  | connected d => exact absurd ((hown.2 u hlive).trans hconn) hne
  | received d data reading => exact absurd ((hown.2 u hlive).trans hconn) hne
  | error d errType => exact absurd ((hown u hlive).trans hconn) hne
  | disconnected d =>
    obtain rfl : d = c := Option.some.inj hconn
    obtain ⟨ts, hts⟩ := step_disconnected_foreign md5 hlive hrun hne
    have hstep : (n.next md5 (.disconnected d)).app = _ := (next_app hrun _).trans hts
    rw [hstep]
    exact ⟨hlive, rfl, rfl, ⟨ts, rfl⟩, fun h => hne h.symm⟩

variable (md5) in
/-- **Sessions are isolated from each other's connections**: along every run in which the callbacks that
do not look at their connection are called for the session in progress. -/
theorem sessions_isolated {s : App} (hnull : s.upgrade = .null) (htimer : s.otaTimer = none) {as : List OtaAction}
    (h : Along (OtaNet.next md5) (fun a n => Deliverable a n ∧ OwnEvent a n) as ⟨s, [], []⟩) :
    Along (OtaNet.next md5) (Isolated md5) as ⟨s, [], []⟩ := by
  refine h.of_invariant (I := fun n => n.app.crashed = true ∨ n.Tracked) ?_ ?_ (Or.inr ?_)
  · rintro a n hinv ⟨hdel, hown⟩
    by_cases hcrash : n.app.crashed = true
    · refine Or.inl ?_
      unfold OtaNet.next
      rwa [if_pos hcrash]
    · exact (hinv.resolve_left hcrash).next (Bool.eq_false_iff.mpr hcrash) hdel hown
  · rintro a n hinv ⟨hdel, hown⟩
    by_cases hcrash : n.app.crashed = true
    · have hrun : n.app.crashed ≠ false := by
        rw [hcrash]
        decide
      exact ⟨fun hd => hrun hd.1, fun _ _ _ hf => absurd hf hrun⟩
    · have htracked := hinv.resolve_left hcrash
      exact ⟨htracked.not_nullDeref hdel hown, htracked.unaffected hdel hown⟩
  · refine ⟨fun u hu => ?_, fun ht => absurd htimer ht, fun _ hc => (nomatch hc), Or.inl rfl⟩
    rw [hnull] at hu
    cases hu

/-- A session that is refused by the server and one that is not answered, whose connection is reported closed during
the next one. -/
theorem sessions_isolated_refused :
    Along (OtaNet.next Md5.digest) (Isolated Md5.digest)
      [.start .update .ok, .error 0 (-28), .start .update .ok, .timer, .start .update .ok, .disconnected 1]
      ⟨App.atReset (fun _ => 0xFF) (fun _ => 0) 2, [], []⟩ := by
  refine sessions_isolated Md5.digest rfl rfl ⟨⟨trivial, trivial⟩, ⟨?_, ?_⟩, ⟨trivial, trivial⟩, ⟨nofun, trivial⟩,
    ⟨trivial, trivial⟩, ⟨?_, trivial⟩, trivial⟩
  · exact List.mem_singleton.mpr rfl
  · rintro _ ⟨⟩
    rfl
  · decide +kernel

/-- A connection that is made after its session has ended by the timeout. -/
theorem not_sessions_isolated : ¬∀ (s : App) (as : List OtaAction), s.upgrade = .null → s.otaTimer = none →
    Along (OtaNet.next Md5.digest) Deliverable as ⟨s, [], []⟩ →
    Along (OtaNet.next Md5.digest) (Isolated Md5.digest) as ⟨s, [], []⟩ := by
  intro h
  have hrun := h (App.atReset (fun _ => 0xFF) (fun _ => 0) 2) [.start .update .ok, .timer, .connected 0]
    rfl rfl ⟨trivial, nofun, List.mem_singleton.mpr rfl, trivial⟩
  exact hrun.2.2.1.1 ⟨rfl, rfl, rfl⟩

end OtaNet

end Esp8266At
