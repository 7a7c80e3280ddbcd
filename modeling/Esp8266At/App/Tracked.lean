import Esp8266At.App.Options
import Esp8266At.App.Within

/-!
# Runs with their history

The machine of commands and events, with what has been received by the session in progress and the firmware
checksum that has been downloaded and not cleared since. Whenever a session is in progress, it is of the kind the
command was for and has kept its response (`Tracked.Sessions`), whatever the order of commands and events.
-/

namespace Esp8266At

open NorFlash

/-- The command clears a downloaded checksum. -/
def UpdateCommand.clears (lib : LibAt) : UpdateCommand → Bool
  | .setChecksum pPara =>
    charAt (lib.getNextIntDec pPara.tail (-1)).rest = CR ∧ (lib.getNextIntDec pPara.tail (-1)).value = 0
  | .getChecksum _ => true
  | .getChecksumBoot _ => true
  | _ => false

/-- The event is answered `+UPDATEGETCSUM:1`. -/
def App.checksumAnswered (e : NetEvent) (s : App) : Bool :=
  match s.calls e with
  | some (.verCheckMd5, true, c) => c.upgradeType = .md5 ∧ c.upgradeCheckResponse.isSome
  | _ => false

/-- The application, the chunks the session in progress has received, and the firmware checksum in force: what the
server sent for the last download that was answered `+UPDATEGETCSUM:1`, until it is cleared. -/
structure Tracked where
  app : App
  chunks : List (List UInt8)
  checksum : Option (List UInt8)

namespace Tracked

section
variable (lib : LibAt) (md5 : List UInt8 → Digest)

def next (a : UpdateAction) (x : Tracked) : Tracked :=
  if x.app.crashed then x else
  match a with
  | .command c =>
    if x.app.busy then x else
    ⟨x.app.execute lib md5 c, [], if c.clears lib then none else x.checksum⟩
  | .event e =>
    let chunks := x.chunks ++ received [e]
    ⟨x.app.step md5 e, chunks, if x.app.checksumAnswered e then some (responseBody chunks) else x.checksum⟩

end

/-- The state after a reset. -/
def atReset (s : App) : Tracked := ⟨s, [], none⟩

/-! ### Sessions -/

/-- A firmware update is in progress. -/
def Updating (x : Tracked) : Prop :=
  ∃ s₀, s₀.Opened ∧ s₀.busy = true ∧ 0x1000 ≤ s₀.upgradeFlashAddr.toNat ∧ App.Live s₀ x.chunks x.app

/-- A session `u` of another kind is in progress. -/
structure Collecting (x : Tracked) (u : UpgradeStatus) : Prop where
  type : x.app.upgradeType ≠ .upgrade
  busy : x.app.busy = true
  flag : x.app.upgradeFlag = .start
  callback : u.callback = x.app.upgradeType.callback
  responding : App.Responding x.chunks u x.app

/-- A session in progress is one of the two. -/
def Sessions (x : Tracked) : Prop :=
  x.app.crashed = true ∨ ∀ u, x.app.upgrade = .live u → x.Updating ∨ x.Collecting u

end Tracked

namespace App

variable {lib : LibAt} {md5 : List UInt8 → Digest} {s t : App} {type : OtaType}

theorem targetAddr_low (forced : Option Part) (fw_n : UInt32) (flash_map : UInt8) :
    0x1000 ≤ (targetAddr forced fw_n flash_map).toNat := by
  cases forced with
  | none =>
    unfold targetAddr
    split_ifs <;> decide
  | some p =>
    unfold targetAddr
    split_ifs <;> revert p <;> decide

/-- A session that has just been opened. -/
theorem session_opened (hrun : s.crashed = false) (checksum : Option (List UInt8)) (heap : ℕ → Bool)
    (out : List Output) (timer : Option OtaTimer) {u : UpgradeStatus}
    (hu : ((s.startingFor type).opening type.callback heap out timer).upgrade = .live u) :
    (Tracked.mk ((s.startingFor type).opening type.callback heap out timer) [] checksum).Updating ∨
      (Tracked.mk ((s.startingFor type).opening type.callback heap out timer) [] checksum).Collecting u := by
  by_cases htype : type = .upgrade
  · subst htype
    have hopened : ((s.startingFor .upgrade).opening .update heap out timer).Opened := by
      refine ⟨rfl, rfl, hrun, (targetAddr_bound _ _ _).1, (targetAddr_bound _ _ _).2, ?_, rfl⟩
      exact ⟨_, rfl, rfl, rfl, rfl, rfl⟩
    exact Or.inl ⟨_, hopened, rfl, targetAddr_low _ _ _, hopened.start⟩
  · obtain rfl := UpgradePtr.live.inj hu
    exact Or.inr ⟨htype, rfl, rfl, rfl, rfl, rfl, rfl, fun h => absurd rfl h⟩

theorem setRtcNextboot_eq (s : App) (boot_part : UInt8) : ∃ rtc, s.setRtcNextboot boot_part = { s with rtc := rtc } := by
  unfold setRtcNextboot
  split_ifs <;> exact ⟨_, rfl⟩

variable (lib md5) in
/-- A set command changes the options, the checksum, the debug flag and the RTC words only. -/
theorem execute_set {c : UpdateCommand} (hc : c.starts = none) : ∃ o rtc out debug,
    s.execute lib md5 c =
      { s.withOptions o with
        rtc := rtc, out := out, upgradeDebug := debug
        updateMd5 := if c.clears lib then List.replicate 36 0 else s.updateMd5 } := by
  cases c with
  | update | updateBoot | check | checkBoot | getChecksum | getChecksumBoot => cases hc
  | setOptions pPara =>
    have hclears : (UpdateCommand.setOptions pPara).clears lib = false := rfl
    rw [hclears, if_neg Bool.false_ne_true]
    simp only [execute]
    cases hp : updateParams lib pPara with
    | none =>
      rw [atSetupCmdFWupdate_none hp]
      exact ⟨s.options, s.rtc, _, s.upgradeDebug, rfl⟩
    | some p =>
      rw [atSetupCmdFWupdate_some hp]
      split_ifs
      · exact ⟨_, s.rtc, _, s.upgradeDebug, rfl⟩
      · exact ⟨_, s.rtc, _, s.upgradeDebug, rfl⟩
      · exact ⟨_, s.rtc, _, s.upgradeDebug, rfl⟩
  | setDebug pPara =>
    have hclears : (UpdateCommand.setDebug pPara).clears lib = false := rfl
    rw [hclears, if_neg Bool.false_ne_true]
    simp only [execute, atSetupCmdFWDebug]
    split_ifs
    · exact ⟨s.options, s.rtc, _, s.upgradeDebug, rfl⟩
    · exact ⟨s.options, s.rtc, _, s.upgradeDebug, rfl⟩
    · exact ⟨s.options, s.rtc, _, _, rfl⟩
  | setChecksum pPara =>
    simp only [execute, atSetupCmdFWGetMD5, UpdateCommand.clears, decide_eq_true_eq]
    by_cases hend : charAt (lib.getNextIntDec pPara.tail (-1)).rest = CR
    · rw [if_neg (not_not.mpr hend)]
      by_cases hzero : (lib.getNextIntDec pPara.tail (-1)).value = 0
      · rw [if_pos hzero, if_pos ⟨hend, hzero⟩]
        exact ⟨s.options, s.rtc, _, s.upgradeDebug, rfl⟩
      · rw [if_neg hzero, if_neg (fun h => hzero h.2)]
        exact ⟨s.options, s.rtc, _, s.upgradeDebug, rfl⟩
    · rw [if_pos hend, if_neg (fun h => hend h.1)]
      exact ⟨s.options, s.rtc, _, s.upgradeDebug, rfl⟩
  | setBoot pPara =>
    have hclears : (UpdateCommand.setBoot pPara).clears lib = false := rfl
    rw [hclears, if_neg Bool.false_ne_true]
    simp only [execute, atSetupCmdBoot]
    split_ifs
    · exact ⟨s.options, s.rtc, _, s.upgradeDebug, rfl⟩
    · exact ⟨s.options, s.rtc, _, s.upgradeDebug, rfl⟩
    · obtain ⟨rtc, hrtc⟩ := s.setRtcNextboot_eq
        ((bootParams lib pPara).1.bootapp.toUInt8.toUInt32 ||| (bootParams lib pPara).1.perm).toUInt8
      rw [hrtc]
      exact ⟨s.options, rtc, _, s.upgradeDebug, rfl⟩
    · obtain ⟨rtc, hrtc⟩ := s.setRtcNextboot_eq
        ((bootParams lib pPara).1.bootapp.toUInt8.toUInt32 ||| (bootParams lib pPara).1.perm).toUInt8
      rw [hrtc]
      exact ⟨s.options, rtc, _, s.upgradeDebug, rfl⟩

end App

namespace Tracked

variable {lib : LibAt} {md5 : List UInt8 → Digest} {x : Tracked} {u : UpgradeStatus}

open App

theorem Updating.frame (h : x.Updating) : x.app.busy = true ∧ x.app.upgradeType = .upgrade ∧
    x.app.upgradeFlag = .start ∧ ∀ u, x.app.upgrade = .live u → u.callback = .update := by
  obtain ⟨s₀, h0, hbusy, -, d, heap, out, u, n, timer, full, heq, hp, -⟩ := h
  rw [heq]
  refine ⟨hbusy, h0.type, h0.flag, fun v hv => ?_⟩
  obtain rfl := UpgradePtr.live.inj hv
  exact hp.callback

/-- While a session is in progress no command is executed. -/
theorem Sessions.idle (h : x.Sessions) (hrun : x.app.crashed = false) (hbusy : x.app.busy = false) :
    ∀ u, x.app.upgrade ≠ .live u := by
  intro u hu
  rcases h with hcrash | h
  · rw [hcrash] at hrun
    cases hrun
  · have hset : x.app.busy = true := (h u hu).elim (fun h => h.frame.1) fun h => h.busy
    rw [hset] at hbusy
    cases hbusy

theorem sessions_of_not_live (h : ∀ u, x.app.upgrade ≠ .live u) : x.Sessions :=
  Or.inr fun u hu => absurd hu (h u)

/-- A command leaves no session but the one it starts. -/
theorem sessions_command (h : x.Sessions) (hrun : x.app.crashed = false) (hbusy : x.app.busy = false)
    (c : UpdateCommand) (checksum : Option (List UInt8)) : Sessions ⟨x.app.execute lib md5 c, [], checksum⟩ := by
  have hidle := h.idle hrun hbusy
  cases hc : c.starts with
  | none =>
    obtain ⟨o, rtc, out, debug, heq⟩ := execute_set lib md5 (s := x.app) hc
    refine sessions_of_not_live fun u hu => hidle u ?_
    simp only [heq] at hu
    exact hu
  | some r =>
    obtain ⟨type, dns⟩ := r
    obtain ⟨heap, out, timer, heq⟩ | hrefused := execute_starts lib md5 hbusy hc
    · rw [heq]
      exact Or.inr fun u hu => session_opened hrun checksum heap out timer hu
    · refine sessions_of_not_live fun u hu => ?_
      obtain hup | hup | hup := hrefused.upgrade
      · exact hidle u (hup.symm.trans hu)
      · rw [hup] at hu
        cases hu
      · rw [hup] at hu
        cases hu

/-- An event during a firmware update. -/
theorem sessions_updating (h : x.Updating) (e : NetEvent) (checksum : Option (List UInt8)) :
    Sessions ⟨x.app.step md5 e, x.chunks ++ received [e], checksum⟩ := by
  obtain ⟨s₀, h0, hbusy, hlow, hlive⟩ := h
  rcases step_live md5 h0 hlive e with hgoes | ⟨hover, -⟩
  · exact Or.inr fun u _ => Or.inl ⟨s₀, h0, hbusy, hlow, hgoes⟩
  · rcases hover with hcrash | ⟨hnull, -⟩
    · exact Or.inl hcrash
    · refine sessions_of_not_live fun u hu => ?_
      have hnull' : (x.app.step md5 e).upgrade = .null := hnull
      rw [hnull'] at hu
      cases hu

theorem Collecting.idled (h : x.Collecting u) {t : App} (ht : Idled u x.app t) (checksum : Option (List UInt8))
    {v : UpgradeStatus} (hv : t.upgrade = .live v) : Collecting ⟨t, x.chunks, checksum⟩ v := by
  obtain ⟨heap, out, timer, conn, error, rfl⟩ := ht
  obtain rfl := UpgradePtr.live.inj hv
  exact ⟨h.type, h.busy, h.flag, h.callback, h.responding.total, h.responding.buffer, h.responding.length,
    h.responding.later⟩

theorem not_live_of_ending {s t : App} {e : NetEvent} {u v : UpgradeStatus} (h : s.ending e = some t)
    (hlive : t.upgrade = .live u) : (s.step md5 e).upgrade ≠ .live v := by
  intro hv
  rw [step_ending h] at hv
  have hnull : (t.atOtaDeinit md5).upgrade = .null := congrArg Frame.upgrade (atOtaDeinit_frame hlive)
  rw [hnull] at hv
  cases hv

/-- An event during a session of another kind. -/
theorem sessions_collecting (h : x.Collecting u) (hlive : x.app.upgrade = .live u) (hrun : x.app.crashed = false)
    (e : NetEvent) (checksum : Option (List UInt8)) :
    Sessions ⟨x.app.step md5 e, x.chunks ++ received [e], checksum⟩ := by
  rcases quiet_or_received e with he | ⟨data, reading, rfl⟩
  · have hnone : received [e] = [] := by
      cases e with
      | received data reading => exact absurd rfl (he data reading)
      | resolved | connected | reconnect | disconnected | timer => rfl
    rw [hnone, List.append_nil]
    cases hend : x.app.ending e with
    | none =>
      obtain ⟨t, crashed, ht, hstep⟩ := step_quiet md5 hlive he hend
      rw [hstep]
      refine Or.inr fun v hv => Or.inr ?_
      have := h.idled ht checksum hv
      exact ⟨this.type, this.busy, this.flag, this.callback, this.responding.total, this.responding.buffer,
        this.responding.length, this.responding.later⟩
    | some t =>
      have hidled := ending_idled hlive he ((ending_live hlive hrun).symm.trans hend)
      obtain ⟨heap, out, timer, conn, error, rfl⟩ := hidled
      exact sessions_of_not_live fun v => not_live_of_ending hend rfl
  · have hending := ending_live (e := .received data reading) hlive hrun
    simp only [endingOf] at hending
    obtain ⟨u', out, n, timer, hr, hcall, hresp⟩ | ⟨u', out, n, timer, hr, hcall⟩ | ⟨u', out, n, timer, hr, hcall, -⟩ :=
      receive_response hlive h.type h.responding data reading
    · have hstep : x.app.step md5 (.received data reading) = x.app.session x.app.spi x.app.heap out u' n timer := by
        unfold step
        rw [if_neg (by rw [hrun]; exact Bool.false_ne_true)]
        simp only [upgradeRecvcb, hr]
      rw [hr] at hresp
      rw [hstep]
      refine Or.inr fun v hv => Or.inr ?_
      obtain rfl := UpgradePtr.live.inj hv
      exact ⟨h.type, h.busy, h.flag, hcall.trans h.callback, hresp⟩
    · rw [hr] at hending
      exact sessions_of_not_live fun v => not_live_of_ending hending rfl
    · rw [hr] at hending
      exact sessions_of_not_live fun v => not_live_of_ending hending rfl

/-- What is short enough for a session of another kind fits in the sector buffer. -/
theorem short_of_accepted {type : OtaType} {flashMap : UInt8} {n : UInt32} (htype : type ≠ .upgrade)
    (h : ¬ContentLengthError type flashMap n) : n.toNat < SECTOR_SIZE := by
  unfold ContentLengthError at h
  simp only [not_or, not_and, ge_iff_le, not_not] at h
  obtain ⟨-, -, hver, hboot, hmd5⟩ := h
  have hver' : VER_MAXSIZE.toNat = 2048 := rfl
  have hsector : (UInt32.ofNat SECTOR_SIZE).toNat = SECTOR_SIZE := rfl
  cases type with
  | upgrade => exact absurd rfl htype
  | verCheck =>
    have := UInt32.lt_iff_toNat_lt.mp (UInt32.not_le.mp (hver (Or.inl rfl)))
    simp only [SECTOR_SIZE]
    omega
  | verCheckBoot =>
    have := UInt32.lt_iff_toNat_lt.mp (UInt32.not_le.mp (hver (Or.inr rfl)))
    simp only [SECTOR_SIZE]
    omega
  | md5 =>
    rw [hmd5 (Or.inl rfl)]
    decide
  | md5Boot =>
    rw [hmd5 (Or.inr rfl)]
    decide
  | upgBoot =>
    have := UInt32.lt_iff_toNat_lt.mp (UInt32.not_le.mp (hboot rfl))
    omega

/-- A response that is handed on is all of what has been received, as long as announced. -/
theorem Collecting.handed (h : x.Collecting u) (hlive : x.app.upgrade = .live u) {e : NetEvent}
    {callback : OtaCallback} {result : Bool} {c : App} (hcalls : x.app.calls e = some (callback, result, c))
    {response : List UInt8} (hresponse : c.upgradeCheckResponse = some response) :
    response = responseBody (x.chunks ++ received [e]) ++ [0, 0] ∧
      (responseBody (x.chunks ++ received [e])).length = c.upgradeContentLen.toNat ∧
      ¬ContentLengthError c.upgradeType c.upgradeFlashMap c.upgradeContentLen := by
  obtain ⟨t, v, hending, hv, -, hclean⟩ := calls_cleanUp hcalls
  obtain ⟨hflag, hbuf, hlen, htype, hmap⟩ := cleanUp_handed hclean hresponse
  obtain ⟨hrun, w, hw, hend⟩ := ending_some hending
  obtain rfl : u = w := UpgradePtr.live.inj (hlive.symm.trans hw)
  have unfinished : x.app.upgradeFlag ≠ .finish := by
    rw [h.flag]
    decide
  rcases quiet_or_received e with he | ⟨data, reading, rfl⟩
  · obtain ⟨heap, out, timer, conn, error, rfl⟩ := ending_idled hlive he hend
    exact absurd hflag unfinished
  · simp only [endingOf] at hend
    obtain ⟨u', out, n, timer, hr, -, -⟩ | ⟨u', out, n, timer, hr, -⟩ | ⟨u', out, n, timer, hr, -, hresp⟩ :=
      receive_response hlive h.type h.responding data reading
    · rw [hr] at hend
      cases hend
    · rw [hr] at hend
      obtain rfl := Option.some.inj hend
      exact absurd hflag unfinished
    · rw [hr] at hend hresp
      obtain rfl := Option.some.inj hend
      obtain rfl : u' = v := UpgradePtr.live.inj hv
      have hn : c.upgradeContentLen = announced (x.chunks ++ [data.val]) := hlen.trans hresp.length
      have hall := hresp.all
      have hshort := short_of_accepted h.type hresp.accepted
      refine ⟨?_, by rw [hn]; exact hall, ?_⟩
      · rw [hbuf, hresp.buffer, kept_eq_of_lt (by omega)]
        rfl
      · rw [htype, hmap, hn]
        exact hresp.accepted

variable (lib md5) in
/-- Sessions are as commands have started them, after every action. -/
theorem sessions_next (h : x.Sessions) (a : UpdateAction) : (x.next lib md5 a).Sessions := by
  unfold next
  by_cases hcrash : x.app.crashed = true
  · rw [if_pos hcrash]
    exact h
  rw [if_neg hcrash]
  have hrun : x.app.crashed = false := by simpa using hcrash
  cases a with
  | command c =>
    by_cases hbusy : x.app.busy = true
    · simp only [if_pos hbusy]
      exact h
    · simp only [if_neg hbusy]
      exact sessions_command h hrun (by simpa using hbusy) c _
  | event e =>
    by_cases hlive : ∃ u, x.app.upgrade = .live u
    · obtain ⟨u, hu⟩ := hlive
      rcases h.resolve_left hcrash u hu with hup | hcol
      · exact sessions_updating hup e _
      · exact sessions_collecting hcol hu hrun e _
    · have hnot : ∀ u, x.app.upgrade ≠ .live u := fun u hu => hlive ⟨u, hu⟩
      obtain ⟨out, timer, crashed, hstep⟩ := step_sessionless md5 hnot e
      refine sessions_of_not_live fun u hu => hnot u ?_
      simp only [hstep] at hu
      exact hu

theorem sessions_atReset {s : App} (h : ∀ u, s.upgrade ≠ .live u) : (atReset s).Sessions := sessions_of_not_live h

/-! ### One action -/

/-- What an action can do. -/
inductive Does (lib : LibAt) (md5 : List UInt8 → Digest) (x : Tracked) : UpdateAction → Tracked → Prop
  | ignored (a : UpdateAction) : Does lib md5 x a x
  | set (c : UpdateCommand) (hc : c.starts = none) (hrun : x.app.crashed = false) (hbusy : x.app.busy = false)
      (o : Options) (rtc : Rtc) (out : List Output) (debug : Bool) : Does lib md5 x (.command c)
        ⟨{ x.app.withOptions o with
            rtc := rtc, out := out, upgradeDebug := debug
            updateMd5 := if c.clears lib then List.replicate 36 0 else x.app.updateMd5 },
          [], if c.clears lib then none else x.checksum⟩
  | starts (c : UpdateCommand) (type : OtaType) (dns : DnsResult) (hc : c.starts = some (type, dns))
      (hrun : x.app.crashed = false) (hbusy : x.app.busy = false) (heap : ℕ → Bool) (out : List Output) (timer : Option OtaTimer) :
      Does lib md5 x (.command c) ⟨(x.app.startingFor type).opening type.callback heap out timer, [],
        if c.clears lib then none else x.checksum⟩
  | refused (c : UpdateCommand) (type : OtaType) (dns : DnsResult) (hc : c.starts = some (type, dns))
      (hrun : x.app.crashed = false) (hbusy : x.app.busy = false) (t : App) (ht : Refused type x.app t) :
      Does lib md5 x (.command c) ⟨t, [], if c.clears lib then none else x.checksum⟩
  | idles (e : NetEvent) (hnot : ∀ u, x.app.upgrade ≠ .live u) (out : List Output) (timer : Option OtaTimer)
      (crashed : Bool) : Does lib md5 x (.event e)
        ⟨{ x.app with out := out, otaTimer := timer, crashed := crashed }, x.chunks ++ received [e], x.checksum⟩
  | goesOn (e : NetEvent) (u : UpgradeStatus) (hlive : x.app.upgrade = .live u) (hend : x.app.ending e = none) (t : App)
      (ht : Within u.callback x.app t) : Does lib md5 x (.event e) ⟨t, x.chunks ++ received [e], x.checksum⟩
  | ends (e : NetEvent) (u : UpgradeStatus) (hlive : x.app.upgrade = .live u) (result : Bool) (c : App)
      (hcalls : x.app.calls e = some (u.callback, result, c)) (hc : Cleaned x.app c) : Does lib md5 x (.event e)
        ⟨c.callBack md5 u.callback result, x.chunks ++ received [e],
          if x.app.checksumAnswered e then some (responseBody (x.chunks ++ received [e])) else x.checksum⟩

/-- A checksum download clears the checksum. -/
theorem clears_of_starts {c : UpdateCommand} {type : OtaType} {dns : DnsResult} (hc : c.starts = some (type, dns)) :
    c.clears lib = true ↔ type = .md5 ∨ type = .md5Boot := by
  cases c with
  | setOptions | setDebug | setChecksum | setBoot => cases hc
  | update | updateBoot | check | checkBoot | getChecksum | getChecksumBoot =>
    obtain ⟨rfl, -⟩ := Prod.mk.inj (Option.some.inj hc)
    simp [UpdateCommand.clears]

theorem calls_none {s : App} {e : NetEvent} (h : s.ending e = none) : s.calls e = none := by
  unfold calls
  rw [h]
  rfl

theorem not_answered {s : App} {e : NetEvent} (h : s.calls e = none) : s.checksumAnswered e = false := by
  unfold checksumAnswered
  rw [h]

variable (lib md5) in
theorem does_next (x : Tracked) (a : UpdateAction) : Does lib md5 x a (x.next lib md5 a) := by
  unfold next
  by_cases hcrash : x.app.crashed = true
  · rw [if_pos hcrash]
    exact .ignored a
  rw [if_neg hcrash]
  have hrun : x.app.crashed = false := by simpa using hcrash
  cases a with
  | command c =>
    by_cases hbusy : x.app.busy = true
    · simp only [if_pos hbusy]
      exact .ignored _
    · simp only [if_neg hbusy]
      have hfree : x.app.busy = false := by simpa using hbusy
      cases hc : c.starts with
      | none =>
        obtain ⟨o, rtc, out, debug, heq⟩ := execute_set lib md5 (s := x.app) hc
        rw [heq]
        exact .set c hc hrun hfree o rtc out debug
      | some r =>
        obtain ⟨type, dns⟩ := r
        obtain ⟨heap, out, timer, heq⟩ | hrefused := execute_starts lib md5 hfree hc
        · rw [heq]
          exact .starts c type dns hc hrun hfree heap out timer
        · exact .refused c type dns hc hrun hfree _ hrefused
  | event e =>
    simp only
    cases hend : x.app.ending e with
    | none =>
      rw [not_answered (calls_none hend), if_neg Bool.false_ne_true]
      by_cases hlive : ∃ u, x.app.upgrade = .live u
      · obtain ⟨u, hu⟩ := hlive
        exact .goesOn e u hu hend _ (step_within md5 hu hend)
      · have hnot : ∀ u, x.app.upgrade ≠ .live u := fun u hu => hlive ⟨u, hu⟩
        obtain ⟨out, timer, crashed, hstep⟩ := step_sessionless md5 hnot e
        rw [hstep]
        exact .idles e hnot out timer crashed
    | some t =>
      obtain ⟨-, u, hu, -⟩ := ending_some hend
      obtain ⟨d, heap, out, v, n, timer, flag, crashed, rfl, hcall, -⟩ := ending_within hu hend
      have hcalls := calls_of_ending hend (u := v) rfl
      rw [hcall] at hcalls
      rw [step_calls hcalls]
      exact .ends e u hu _ _ hcalls (calls_cleaned hu hcalls).2

end Tracked

end Esp8266At
