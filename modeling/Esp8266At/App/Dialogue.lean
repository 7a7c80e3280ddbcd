import Esp8266At.App.Said
import Esp8266At.Lib.Md5

/-!
# The conversation of the update commands

`Talk` is the way the application may speak: a command is answered at once, or it opens a session, which asks for its
connection and sends its request, and gives its result at the end. Whatever the order of commands and events, the
application speaks like this (`conversation`), so each command that is executed gets one final result
(`answered_once`).
-/

namespace Esp8266At

/-- What a session asks for. -/
structure Plan where
  port : UInt16
  file : String
  host : String

namespace Plan

/-- The connection is never a secure one. -/
def connection (p : Plan) : Output := .connect false p.port

def request (p : Plan) : Output :=
  .send false ("GET /ESP8266/firmwares/" ++ p.file ++ " HTTP/1.0\r\nHost: " ++ p.host ++ "\r\n" ++ HTTP_HEADER)

end Plan

/-- What may have been said when `n` commands have been executed, and what the session in progress asks for. -/
inductive Talk : ℕ → Option Plan → List Output → Prop
  | silent : Talk 0 none []
  | answered {n : ℕ} {said answer : List Output} (h : Talk n none said)
      (ha : answer = [.ok] ∨ answer = [.error] ∨ answer = [.restart, .ok]) : Talk (n + 1) none (said ++ answer)
  | begun {n : ℕ} {said : List Output} (h : Talk n none said) (p : Plan) : Talk (n + 1) (some p) said
  | connects {n : ℕ} {p : Plan} {said : List Output} (h : Talk n (some p) said) :
      Talk n (some p) (said ++ [p.connection])
  | requests {n : ℕ} {p : Plan} {said : List Output} (h : Talk n (some p) said) :
      Talk n (some p) (said ++ [p.request])
  | ended {n : ℕ} {p : Plan} {said closing result : List Output} (h : Talk n (some p) said)
      (hc : closing = [] ∨ closing = [.disconnect false])
      (hr : result = [.ok] ∨ result = [.error] ∨ result = [.ok, .restart]) : Talk n none (said ++ closing ++ result)

def Output.isResult : Output → Bool
  | .ok | .error => true
  | _ => false

/-- The commands that have had their result, and the one whose session is in progress. -/
theorem Talk.results {n : ℕ} {plan : Option Plan} {said : List Output} (h : Talk n plan said) :
    said.countP Output.isResult + (if plan.isSome then 1 else 0) = n := by
  induction h with
  | silent => rfl
  | answered h ha ih =>
    rw [List.countP_append]
    rcases ha with rfl | rfl | rfl <;> exact congrArg (· + 1) ih
  | begun h p ih => exact congrArg (· + 1) ih
  | connects h ih =>
    rw [List.countP_append]
    exact ih
  | requests h ih =>
    rw [List.countP_append]
    exact ih
  | @ended n p said closing result h hc hr ih =>
    have hclosing : closing.countP Output.isResult = 0 := by rcases hc with rfl | rfl <;> rfl
    have hresult : result.countP Output.isResult = 1 := by rcases hr with rfl | rfl | rfl <;> rfl
    rw [List.countP_append, List.countP_append, hclosing, hresult]
    exact ih

namespace App

/-- What the session in progress asks for. -/
def plan (s : App) : Plan where
  port := if s.upgradeRemotePort > 0 then s.upgradeRemotePort else 80
  file := s.requestedFile.1
  host := s.upgradeRemoteHost

/-- Whether an action is a command that is executed. -/
def executes (a : UpdateAction) (s : App) : Bool :=
  match a with
  | .command _ => !s.crashed && !s.busy
  | .event _ => false

section
variable (lib : LibAt) (md5 : List UInt8 → Digest)

/-- How many commands of a run are executed. -/
def executed : List UpdateAction → App → ℕ
  | [], _ => 0
  | a :: as, s => (if s.executes a then 1 else 0) + executed as (s.act lib md5 a)

end

variable {lib : LibAt} {md5 : List UInt8 → Digest} {s t : App} {u : UpgradeStatus} {n : ℕ}

/-- No session is in progress, and commands are executed. -/
structure Idle (n : ℕ) (s : App) : Prop where
  busy : s.busy = false
  idle : ∀ u, s.upgrade ≠ .live u
  talk : Talk n none s.said

/-- A session is in progress, and no command is executed. -/
structure InSession (n : ℕ) (s : App) : Prop where
  busy : s.busy = true
  live : ∃ u, s.upgrade = .live u
  ssl : s.upgradeUseSsl = 0
  talk : Talk n (some s.plan) s.said

def Conversing (n : ℕ) (s : App) : Prop := s.crashed = true ∨ Idle n s ∨ InSession n s

/-! ### Steps -/

theorem connection_plain (hssl : s.upgradeUseSsl = 0) : s.connection = s.plan.connection := by
  unfold connection plan Plan.connection
  rw [hssl]
  rfl

theorem request_plain (hssl : s.upgradeUseSsl = 0) : s.request = s.plan.request := by
  unfold request plan Plan.request
  rw [hssl]
  rfl

theorem plan_of_params (h : t.params = s.params) : t.plan = s.plan := by
  have htype : t.upgradeType = s.upgradeType := congrArg Params.type h
  have haddr : t.upgradeFlashAddr = s.upgradeFlashAddr := congrArg Params.flashAddr h
  have hmap : t.upgradeFlashMap = s.upgradeFlashMap := congrArg Params.flashMap h
  have hhost : t.upgradeRemoteHost = s.upgradeRemoteHost := congrArg Params.remoteHost h
  have hport : t.upgradeRemotePort = s.upgradeRemotePort := congrArg Params.remotePort h
  unfold plan requestedFile
  rw [htype, haddr, hmap, hhost, hport]

variable (lib md5) in
/-- A command that is executed is answered at once, or it opens a session. -/
theorem Idle.execute (h : Idle n s) (c : UpdateCommand) : Conversing (n + 1) (s.execute lib md5 c) := by
  refine Or.inr ?_
  cases hc : c.starts with
  | none =>
    obtain ⟨hbusy, hkept, hsaid⟩ := execute_set_said lib md5 (s := s) hc
    refine Or.inl ⟨hbusy.trans h.busy, fun u hu => h.idle u (hkept.symm.trans hu), ?_⟩
    rcases hsaid with hsaid | hsaid | hsaid <;> rw [hsaid]
    · exact h.talk.answered (Or.inl rfl)
    · exact h.talk.answered (Or.inr (Or.inl rfl))
    · exact h.talk.answered (Or.inr (Or.inr rfl))
  | some r =>
    obtain ⟨type, dns⟩ := r
    obtain ⟨hbusy, hlive, hssl, hsaid⟩ | ⟨hbusy, hidle, hsaid⟩ := execute_starts_said lib md5 h.idle h.busy hc
    · refine Or.inr ⟨hbusy, hlive, hssl, ?_⟩
      rcases hsaid with hsaid | hsaid <;> rw [hsaid]
      · exact h.talk.begun _
      · rw [connection_plain hssl]
        exact (h.talk.begun _).connects
    · refine Or.inl ⟨hbusy, hidle, ?_⟩
      rw [hsaid]
      exact h.talk.answered (Or.inr (Or.inl rfl))

variable (md5) in
/-- Events without a session say nothing. -/
theorem Idle.step (h : Idle n s) (e : NetEvent) : Idle n (s.step md5 e) := by
  have hsaid := step_sessionless_said md5 h.idle e
  obtain ⟨out, timer, crashed, hstep⟩ := step_sessionless md5 h.idle e
  have hbusy : (s.step md5 e).busy = s.busy := by rw [hstep]
  have hkept : (s.step md5 e).upgrade = s.upgrade := by rw [hstep]
  exact ⟨hbusy.trans h.busy, fun u hu => h.idle u (hkept.symm.trans hu), by rw [hsaid]; exact h.talk⟩

/-- A session that goes on. -/
theorem InSession.goesOn (h : InSession n s) {t : App} (hlive : ∃ u, t.upgrade = .live u)
    (hparams : t.params = s.params)
    (hsaid : t.said = s.said ∨ t.said = s.said ++ [s.connection] ∨ t.said = s.said ++ [s.request]) :
    InSession n t := by
  refine ⟨(congrArg Params.busy hparams).trans h.busy, hlive, (congrArg Params.useSsl hparams).trans h.ssl, ?_⟩
  rw [plan_of_params hparams]
  rcases hsaid with hsaid | hsaid | hsaid <;> rw [hsaid]
  · exact h.talk
  · rw [connection_plain h.ssl]
    exact h.talk.connects
  · rw [request_plain h.ssl]
    exact h.talk.requests

/-- A session that ends: it may disconnect, and then its result is given. -/
theorem InSession.ended (h : InSession n s) (hquiet : Quietly s t) (hlive : t.upgrade = .live u) :
    Conversing n (t.atOtaDeinit md5) := by
  obtain ⟨hparams, hclosing⟩ := cleanUp_said u t
  have hframe := cleanUp_frame t u
  unfold atOtaDeinit
  simp only [hlive]
  rcases hclean : t.cleanUp u with ⟨result, c⟩
  rw [hclean] at hclosing hframe
  simp only
  have hssl : t.upgradeUseSsl = 0 := (congrArg Params.useSsl hquiet.params).trans h.ssl
  have htalk : ∀ r : List Output, (r = [.ok] ∨ r = [.error] ∨ r = [.ok, .restart]) → Talk n none (c.said ++ r) := by
    intro r hr
    rw [hclosing, hquiet.said, hssl]
    split_ifs
    · exact h.talk.ended (Or.inr rfl) hr
    · exact h.talk.ended (Or.inl rfl) hr
  rcases callBack_answered md5 u.callback result c with hcrash | ⟨hfree, hsaid⟩
  · exact Or.inl hcrash
  have hnull : (c.callBack md5 u.callback result).upgrade = .null := by
    have hkept : (c.callBack md5 u.callback result).frame = c.frame := c.frame_callBack u.callback result
    exact (congrArg Frame.upgrade hkept).trans (congrArg Frame.upgrade hframe)
  refine Or.inr (Or.inl ⟨hfree, fun v hv => ?_, ?_⟩)
  · rw [hnull] at hv
    cases hv
  · rcases hsaid with hsaid | hsaid | hsaid <;> rw [hsaid]
    · exact htalk _ (Or.inl rfl)
    · exact htalk _ (Or.inr (Or.inl rfl))
    · exact htalk _ (Or.inr (Or.inr rfl))

variable (md5) in
/-- Events of a session. -/
theorem InSession.step (h : InSession n s) (hrun : s.crashed = false) (e : NetEvent) :
    Conversing n (s.step md5 e) := by
  obtain ⟨u, hlive⟩ := h.live
  cases hend : s.ending e with
  | none =>
    obtain ⟨hparams, hkept, hsaid⟩ := step_goesOn md5 hlive hrun hend
    exact Or.inr (Or.inr (h.goesOn hkept hparams hsaid))
  | some t =>
    have hquiet := quietly_ending hend
    obtain ⟨d, heap, out, v, content_len, timer, flag, crashed, rfl, -, -⟩ := ending_within hlive hend
    rw [step_ending hend]
    exact h.ended hquiet (u := v) rfl

variable (lib md5) in
theorem Conversing.act (h : Conversing n s) (a : UpdateAction) :
    Conversing (n + if s.executes a then 1 else 0) (s.act lib md5 a) := by
  by_cases hcrash : s.crashed = true
  · refine Or.inl ?_
    cases a with
    | command c => exact (congrArg crashed (if_pos (Or.inl hcrash))).trans hcrash
    | event e => exact (congrArg crashed (if_pos hcrash)).trans hcrash
  have hrun : s.crashed = false := by simpa using hcrash
  rcases h.resolve_left hcrash with hidle | hsession
  · cases a with
    | command c =>
      have hexec : s.executes (.command c) = true := by simp [executes, hrun, hidle.busy]
      have hact : s.act lib md5 (.command c) = s.execute lib md5 c := if_neg (by simp [hrun, hidle.busy])
      rw [hexec, hact]
      exact hidle.execute lib md5 c
    | event e => exact Or.inr (Or.inl (hidle.step md5 e))
  · cases a with
    | command c =>
      have hexec : s.executes (.command c) = false := by simp [executes, hsession.busy]
      have hact : s.act lib md5 (.command c) = s := if_pos (Or.inr hsession.busy)
      rw [hexec, hact]
      exact Or.inr (Or.inr hsession)
    | event e => exact hsession.step md5 hrun e

/-! ### Runs -/

variable (lib md5) in
theorem Conversing.run (h : Conversing n s) (as : List UpdateAction) :
    Conversing (n + executed lib md5 as s) (Machine.run (App.act lib md5) as s) := by
  induction as generalizing n s with
  | nil => exact h
  | cons a as ih =>
    rw [executed, ← Nat.add_assoc]
    exact ih (h.act lib md5 a)

theorem idle_of_silent (hbusy : s.busy = false) (hidle : ∀ u, s.upgrade ≠ .live u) (hsaid : s.said = []) : Idle 0 s :=
  ⟨hbusy, hidle, by rw [hsaid]; exact .silent⟩

variable (lib md5) in
/-- Whatever commands are given and whatever events come, the application speaks as `Talk` says: it is idle or in a
session, in which it has asked for the connection and for the file of this session only. -/
theorem conversation (hbusy : s.busy = false) (hidle : ∀ u, s.upgrade ≠ .live u) (hsaid : s.said = [])
    (as : List UpdateAction) : (Machine.run (act lib md5) as s).crashed = true ∨
      Idle (executed lib md5 as s) (Machine.run (act lib md5) as s) ∨
      InSession (executed lib md5 as s) (Machine.run (act lib md5) as s) := by
  have h : Conversing 0 s := Or.inr (Or.inl (idle_of_silent hbusy hidle hsaid))
  have hrun := h.run lib md5 as
  rwa [Nat.zero_add] at hrun

/-- A device with an empty flash. -/
def blank : App := .atReset (fun _ => 0xFF) (fun _ => 0) 2

/-- A version check that is given up by its timer, with a command in between. -/
def givenUp : List UpdateAction :=
  [.command (.check .ok), .command (.setBoot []), .event .connected, .event .timer]

theorem conversation_givenUp : (Machine.run (act plainAt Md5.digest) givenUp blank).crashed = true ∨
    Idle (executed plainAt Md5.digest givenUp blank) (Machine.run (act plainAt Md5.digest) givenUp blank) ∨
    InSession (executed plainAt Md5.digest givenUp blank) (Machine.run (act plainAt Md5.digest) givenUp blank) :=
  conversation plainAt Md5.digest rfl (fun _ => UpgradePtr.noConfusion) rfl givenUp

theorem countP_said (s : App) : s.said.countP Output.isResult = s.out.countP Output.isResult := by
  rw [said, List.countP_filter]
  refine List.countP_congr fun x _ => ?_
  cases x <;> simp [Output.isResult, Output.isText]

variable (lib md5) in
/-- Every command that is executed gets one final result, `OK` or `ERROR`: while a session is in progress the one for
its command is still to come, and else all have come. -/
theorem answered_once (hbusy : s.busy = false) (hidle : ∀ u, s.upgrade ≠ .live u) (hsaid : s.said = [])
    (as : List UpdateAction) (hrun : (Machine.run (act lib md5) as s).crashed = false) :
    (Machine.run (act lib md5) as s).out.countP Output.isResult +
      (if (Machine.run (act lib md5) as s).busy then 1 else 0) = executed lib md5 as s := by
  have h : Conversing 0 s := Or.inr (Or.inl (idle_of_silent hbusy hidle hsaid))
  have hall := h.run lib md5 as
  rw [Nat.zero_add] at hall
  rw [← countP_said]
  rcases hall with hcrash | hend | hsession
  · rw [hrun] at hcrash
    cases hcrash
  · rw [hend.busy]
    exact hend.talk.results
  · rw [hsession.busy]
    exact hsession.talk.results

theorem answered_once_givenUp : (Machine.run (act plainAt Md5.digest) givenUp blank).out.countP Output.isResult +
    (if (Machine.run (act plainAt Md5.digest) givenUp blank).busy then 1 else 0) =
      executed plainAt Md5.digest givenUp blank :=
  answered_once plainAt Md5.digest rfl (fun _ => UpgradePtr.noConfusion) rfl givenUp (by decide +kernel)

end App

end Esp8266At
