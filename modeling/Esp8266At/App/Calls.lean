import Esp8266At.App.Actions

/-!
# How a session ends

An event that ends a session calls the function the session was opened with. `App.calls` gives this function,
the result it is called with and the state in which it is called; `step_calls` and `step_quiet` say what an event
does in terms of it. In both, received data apart, only the connection of the session and its error change.
-/

namespace Esp8266At

open NorFlash

/-- The event brings no data. -/
def NetEvent.Quiet (e : NetEvent) : Prop := ∀ data reading, e ≠ .received data reading

namespace App

/-- `upgrade_disconcb` for the connection of session `u`, up to the call of `at_ota_deinit`. -/
def dropped (u : UpgradeStatus) (s : App) : App :=
  (({ s.debug "OTA: Disconnected\r\n" with otaTimer := none } : App).storeStatus { u with conn := none }).debug
    "OTA: Disconnected from remote\r\n"

/-- The state in which an event calls `at_ota_deinit` for session `u`, if it does. -/
def endingOf (u : UpgradeStatus) (e : NetEvent) (s : App) : Option App :=
  match e with
  | .resolved true => none
  | .resolved false =>
    let s := ((s.debug "DNS lookup failed for: ").debug s.upgradeRemoteHost).debug "\r\n"
    some ((s.storeStatus { u with error := .dnsFailed }).dropped { u with error := .dnsFailed })
  | .connected =>
    if s.heap 0 then none
    else some (({ s with otaTimer := none, heap := s.heapTail }.debug "No RAM for request string!\r\n").storeStatus
      { u with error := .noRam })
  | .received data reading => if (s.receive data reading).1 then some (s.receive data reading).2 else none
  | .reconnect errType => some ((s.debug ("Connection error (" ++ toString errType ++ ")\r\n")).dropped u)
  | .disconnected conn => if u.conn = some conn then some (s.dropped u) else none
  | .timer =>
    match s.otaTimer with
    | none => none
    | some .deinit => some { s with otaTimer := none }
    | some .connectTimeout => some (({ s with otaTimer := none }.debug "Connect timeout.\r\n").dropped u)

/-- The state in which an event calls `at_ota_deinit` for a session, if it does. -/
def ending (e : NetEvent) (s : App) : Option App :=
  if s.crashed then none else
  match s.upgrade with
  | .live u => s.endingOf u e
  | _ => none

/-- The function an event calls for a session that has ended, the result it is called with and the state in
which it is called. -/
def calls (e : NetEvent) (s : App) : Option (OtaCallback × Bool × App) :=
  (s.ending e).bind fun t =>
    match t.upgrade with
    | .live u => some (u.callback, t.cleanUp u)
    | _ => none

variable {md5 : List UInt8 → Digest} {s t : App} {u : UpgradeStatus} {e : NetEvent}

/-- A session in which nothing but its connection and its error has changed. -/
def Idled (u : UpgradeStatus) (s t : App) : Prop :=
  ∃ heap out timer conn error,
    t = s.session s.spi heap out { u with conn := conn, error := error } s.upgradeContentLen timer

theorem Idled.debug (h : Idled u s t) (m : String) : Idled u s (t.debug m) := by
  obtain ⟨heap, out, timer, conn, error, rfl⟩ := h
  obtain ⟨o, ho⟩ := debug_out
    (s.session s.spi heap out { u with conn := conn, error := error } s.upgradeContentLen timer) m
  exact ⟨heap, o, timer, conn, error, ho⟩

theorem Idled.disarmed (h : Idled u s t) (timer : Option OtaTimer) : Idled u s { t with otaTimer := timer } := by
  obtain ⟨heap, out, _, conn, error, rfl⟩ := h
  exact ⟨heap, out, timer, conn, error, rfl⟩

theorem Idled.stored (h : Idled u s t) (conn : Option ℕ) (error : OtaStatus) :
    Idled u s (t.storeStatus { u with conn := conn, error := error }) := by
  obtain ⟨heap, out, timer, _, _, rfl⟩ := h
  exact ⟨heap, out, timer, conn, error, rfl⟩

theorem Idled.dropped (h : Idled u s t) (conn : Option ℕ) (error : OtaStatus) :
    Idled u s (t.dropped { u with conn := conn, error := error }) :=
  (((h.debug _).disarmed none).stored none error).debug _

theorem idled_self (hlive : s.upgrade = .live u) : Idled u s s :=
  ⟨s.heap, s.out, s.otaTimer, u.conn, u.error, (session_self hlive).symm⟩

theorem ending_live (hlive : s.upgrade = .live u) (hrun : s.crashed = false) : s.ending e = s.endingOf u e := by
  unfold ending
  rw [hrun, hlive]
  rfl

theorem ending_some (h : s.ending e = some t) :
    s.crashed = false ∧ ∃ u, s.upgrade = .live u ∧ s.endingOf u e = some t := by
  unfold ending at h
  by_cases hcrash : s.crashed = true
  · rw [if_pos hcrash] at h
    cases h
  rw [if_neg hcrash] at h
  refine ⟨by simpa using hcrash, ?_⟩
  cases hlive : s.upgrade with
  | null =>
    rw [hlive] at h
    cases h
  | freed =>
    rw [hlive] at h
    cases h
  | live u =>
    rw [hlive] at h
    exact ⟨u, rfl, h⟩

/-- Without data, the session that ends is the one there was. -/
theorem ending_idled (hlive : s.upgrade = .live u) (he : e.Quiet) (h : s.endingOf u e = some t) : Idled u s t := by
  have hself := idled_self hlive
  unfold endingOf at h
  cases e with
  | resolved found =>
    cases found with
    | true => cases h
    | false =>
      obtain rfl := Option.some.inj h
      exact Idled.dropped ((((hself.debug _).debug _).debug _).stored u.conn .dnsFailed) u.conn .dnsFailed
  | connected =>
    simp only at h
    split_ifs at h
    obtain rfl := Option.some.inj h
    refine Idled.stored (Idled.debug ?_ _) u.conn .noRam
    exact ⟨s.heapTail, s.out, none, u.conn, u.error, by rw [session, ← hlive]⟩
  | received data reading => exact absurd rfl (he data reading)
  | reconnect errType =>
    obtain rfl := Option.some.inj h
    exact (hself.debug _).dropped u.conn u.error
  | disconnected conn =>
    simp only at h
    split_ifs at h
    obtain rfl := Option.some.inj h
    exact hself.dropped u.conn u.error
  | timer =>
    simp only at h
    cases htimer : s.otaTimer with
    | none =>
      rw [htimer] at h
      cases h
    | some k =>
      rw [htimer] at h
      cases k with
      | deinit =>
        obtain rfl := Option.some.inj h
        exact hself.disarmed none
      | connectTimeout =>
        obtain rfl := Option.some.inj h
        exact ((hself.disarmed none).debug _).dropped u.conn u.error

theorem upgradeDisconcb_dropped (hlive : s.upgrade = .live u) :
    s.upgradeDisconcb md5 u.conn = (s.dropped u).atOtaDeinit md5 := by
  obtain ⟨o, ho⟩ := s.debug_out "OTA: Disconnected\r\n"
  unfold upgradeDisconcb dropped
  simp only [ho, printed, hlive, if_true]

theorem dropConnection_dropped (hlive : s.upgrade = .live u) :
    s.dropConnection md5 = (s.dropped u).atOtaDeinit md5 := by
  unfold dropConnection
  rw [hlive]
  exact upgradeDisconcb_dropped hlive

/-- An event that ends a session. -/
theorem step_ending (h : s.ending e = some t) : s.step md5 e = t.atOtaDeinit md5 := by
  obtain ⟨hrun, u, hlive, h⟩ := ending_some h
  unfold endingOf at h
  unfold step
  rw [if_neg (by rw [hrun]; exact Bool.false_ne_true)]
  cases e with
  | resolved found =>
    cases found with
    | true => cases h
    | false =>
      obtain rfl := Option.some.inj h
      simp only [upgradeResolved, hlive]
      exact upgradeDisconcb_dropped (u := { u with error := .dnsFailed }) rfl
  | connected =>
    simp only at h
    split_ifs at h with hheap
    obtain rfl := Option.some.inj h
    have hfalse : s.heap 0 = false := by simpa using hheap
    unfold upgradeConnectCb zalloc
    rw [hlive]
    dsimp only
    rw [hfalse]
    rfl
  | received data reading =>
    simp only at h
    split_ifs at h with hend
    obtain rfl := Option.some.inj h
    simp only [upgradeRecvcb]
    generalize s.receive data reading = r at hend
    obtain ⟨b, t⟩ := r
    cases b with
    | true => rfl
    | false => cases hend
  | reconnect errType =>
    obtain rfl := Option.some.inj h
    exact dropConnection_dropped ((debug_upgrade s _).trans hlive)
  | disconnected conn =>
    simp only at h
    split_ifs at h with hconn
    obtain rfl := Option.some.inj h
    simp only [← hconn]
    exact upgradeDisconcb_dropped hlive
  | timer =>
    simp only at h ⊢
    cases htimer : s.otaTimer with
    | none =>
      rw [htimer] at h
      cases h
    | some k =>
      rw [htimer] at h
      cases k with
      | deinit =>
        obtain rfl := Option.some.inj h
        rfl
      | connectTimeout =>
        obtain rfl := Option.some.inj h
        exact dropConnection_dropped ((debug_upgrade ({ s with otaTimer := none } : App) _).trans hlive)

variable (md5) in
/-- An event that brings no data and does not end the session. -/
theorem step_quiet (hlive : s.upgrade = .live u) (he : e.Quiet) (h : s.ending e = none) :
    ∃ t crashed, Idled u s t ∧ s.step md5 e = { t with crashed := crashed } := by
  have hself := idled_self hlive
  by_cases hcrash : s.crashed = true
  · refine ⟨s, s.crashed, hself, ?_⟩
    unfold step
    rw [if_pos hcrash]
  rw [ending_live hlive (by simpa using hcrash)] at h
  unfold endingOf at h
  unfold step
  rw [if_neg hcrash]
  cases e with
  | resolved found =>
    cases found with
    | false => cases h
    | true =>
      obtain ⟨o, ho⟩ := upgradeResolved_found md5 s s.spi s.heap s.out u s.otaTimer s.upgradeContentLen
      rw [session_self hlive] at ho
      simp only [ho]
      split_ifs
      · exact ⟨s, true, hself, rfl⟩
      · exact ⟨_, s.crashed, ⟨s.heap, o, some .connectTimeout, u.conn, u.error, rfl⟩, rfl⟩
  | connected =>
    simp only at h
    split_ifs at h with hheap
    obtain ⟨heap, o, ⟨-, ho⟩ | ⟨hfalse, -⟩⟩ :=
      upgradeConnectCb_session md5 s s.spi s.heap s.out u s.otaTimer s.upgradeContentLen
    · rw [session_self hlive] at ho
      simp only [ho]
      exact ⟨_, s.crashed, ⟨heap, o, some .deinit, u.conn, u.error, rfl⟩, rfl⟩
    · rw [hheap] at hfalse
      cases hfalse
  | received data reading => exact absurd rfl (he data reading)
  | reconnect errType => cases h
  | disconnected conn =>
    simp only at h
    split_ifs at h with hconn
    obtain ⟨o, ho⟩ := upgradeDisconcb_session md5 s s.spi s.heap s.out u s.otaTimer s.upgradeContentLen (some conn)
    rw [session_self hlive, if_neg hconn] at ho
    simp only [ho]
    exact ⟨_, s.crashed, ⟨s.heap, o, none, u.conn, u.error, rfl⟩, rfl⟩
  | timer =>
    simp only at h ⊢
    cases htimer : s.otaTimer with
    | none => exact ⟨s, s.crashed, hself, rfl⟩
    | some k =>
      rw [htimer] at h
      cases k with
      | deinit => cases h
      | connectTimeout => cases h

variable (md5) in
/-- An event while there is no session. -/
theorem step_sessionless (h : ∀ u, s.upgrade ≠ .live u) (e : NetEvent) :
    ∃ out timer crashed, s.step md5 e = { s with out := out, otaTimer := timer, crashed := crashed } := by
  have dropped : ∀ (o : List Output) (timer : Option OtaTimer), ∃ crashed,
      ({ s with out := o, otaTimer := timer } : App).dropConnection md5 =
        { s with out := o, otaTimer := timer, crashed := crashed } := by
    intro o timer
    unfold dropConnection
    cases hup : s.upgrade with
    | null => exact ⟨s.crashed, rfl⟩
    | freed => exact ⟨true, rfl⟩
    | live u => exact absurd hup (h u)
  unfold step
  split_ifs
  · exact ⟨s.out, s.otaTimer, s.crashed, rfl⟩
  cases e with
  | resolved found =>
    refine ⟨s.out, s.otaTimer, true, ?_⟩
    cases hup : s.upgrade with
    | live u => exact absurd hup (h u)
    | null => cases found <;> simp only [upgradeResolved, hup, crash]
    | freed => cases found <;> simp only [upgradeResolved, hup, crash]
  | connected =>
    refine ⟨s.out, s.otaTimer, true, ?_⟩
    cases hup : s.upgrade with
    | live u => exact absurd hup (h u)
    | null => simp only [upgradeConnectCb, hup, crash]
    | freed => simp only [upgradeConnectCb, hup, crash]
  | received data reading =>
    refine ⟨s.out, s.otaTimer, true, ?_⟩
    cases hup : s.upgrade with
    | live u => exact absurd hup (h u)
    | null => simp only [upgradeRecvcb, receive, hup, crash]
    | freed => simp only [upgradeRecvcb, receive, hup, crash]
  | reconnect errType =>
    obtain ⟨o, ho⟩ := s.debug_out ("Connection error (" ++ toString errType ++ ")\r\n")
    obtain ⟨crashed, hdrop⟩ := dropped o s.otaTimer
    simp only [upgradeReconCb, ho]
    exact ⟨o, s.otaTimer, crashed, hdrop⟩
  | disconnected conn =>
    obtain ⟨o, ho⟩ := s.debug_out "OTA: Disconnected\r\n"
    simp only [upgradeDisconcb, ho, printed]
    cases hup : s.upgrade with
    | live u => exact absurd hup (h u)
    | null => exact ⟨o, none, s.crashed, rfl⟩
    | freed => exact ⟨o, none, true, rfl⟩
  | timer =>
    cases htimer : s.otaTimer with
    | none => exact ⟨s.out, s.otaTimer, s.crashed, rfl⟩
    | some k =>
      cases k with
      | deinit =>
        refine ⟨s.out, none, true, ?_⟩
        cases hup : s.upgrade with
        | live u => exact absurd hup (h u)
        | null => rfl
        | freed => rfl
      | connectTimeout =>
        obtain ⟨o, ho⟩ := ({ s with otaTimer := none } : App).debug_out "Connect timeout.\r\n"
        obtain ⟨crashed, hdrop⟩ := dropped o none
        simp only [connectTimeoutCb, ho]
        exact ⟨o, none, crashed, hdrop⟩

/-- The function that is called for a session that has ended. -/
theorem calls_of_ending (h : s.ending e = some t) (hlive : t.upgrade = .live u) :
    s.calls e = some (u.callback, t.cleanUp u) := by
  unfold calls
  rw [h]
  simp only [Option.bind_some, hlive]

/-- An event that calls the function of a session: the session is cleaned up before. -/
theorem calls_cleanUp {callback : OtaCallback} {result : Bool} {c : App} (h : s.calls e = some (callback, result, c)) :
    ∃ t u, s.ending e = some t ∧ t.upgrade = .live u ∧ callback = u.callback ∧ t.cleanUp u = (result, c) := by
  unfold calls at h
  obtain ⟨t, hend, h⟩ := Option.bind_eq_some_iff.mp h
  cases hlive : t.upgrade with
  | null =>
    rw [hlive] at h
    cases h
  | freed =>
    rw [hlive] at h
    cases h
  | live u =>
    rw [hlive] at h
    obtain ⟨hcall, hclean⟩ := Prod.mk.inj (Option.some.inj h)
    exact ⟨t, u, hend, hlive, hcall.symm, hclean⟩

/-- An event that calls the function of a session. -/
theorem step_calls {callback : OtaCallback} {result : Bool} {c : App} (h : s.calls e = some (callback, result, c)) :
    s.step md5 e = c.callBack md5 callback result := by
  obtain ⟨t, u, hend, hlive, rfl, hclean⟩ := calls_cleanUp h
  rw [step_ending hend]
  unfold atOtaDeinit
  simp only [hlive, hclean]

end App

end Esp8266At
