import Esp8266At.App.SessionSpec

/-!
# Whole sessions

Every event either leaves a session going on or ends it (`step_live`); after its end no event changes the
flash any more (`step_over`). So in whatever order events come, the flash operations of a session are the
beginning of a rewriting of the target, followed by those of `check_firmware` if the download has been
finished (`run_session`).
-/

namespace Esp8266At

open ByteSpace NorFlash

/-- The chunks received by a sequence of events. -/
def received (es : List NetEvent) : List (List UInt8) :=
  es.filterMap fun
    | .received data _ => some data.val
    | _ => none

theorem received_append (es es' : List NetEvent) : received (es ++ es') = received es ++ received es' :=
  List.filterMap_append

namespace App

variable {md5 : List UInt8 → Digest} {s₀ : App} {cs : List (List UInt8)}

theorem run_snoc (es : List NetEvent) (e : NetEvent) (s : App) :
    s.run md5 (es ++ [e]) = (s.run md5 es).step md5 e := by
  simp [run]

/-! ### The end -/

/-- The flash operations of a session that is over: a beginning of the rewriting of the target, or all of
it and then those of `check_firmware`. -/
def Outcome (md5 : List UInt8 → Digest) (s₀ : App) (cs : List (List UInt8)) (t : App) : Prop :=
  (Written s₀ cs t.spi ∧ t.indices = s₀.indices) ∨
    ∃ c v w, Downloaded s₀ cs c.spi ∧ c.upgradeFlashAddr = s₀.upgradeFlashAddr ∧ c.indices = s₀.indices ∧
      checkFirmware md5 (fwNumber s₀.upgradeFlashAddr).toUInt8 c = (v, w) ∧ t.spi = w.spi ∧ t.indices = w.indices

/-- A session that is over: nothing is left that could write to the flash. -/
def Over (md5 : List UInt8 → Digest) (s₀ : App) (cs : List (List UInt8)) (t : App) : Prop :=
  (t.crashed = true ∨ t.upgrade = .null ∧ t.otaTimer = none) ∧ Outcome md5 s₀ cs t

/-- The application after `at_ota_deinit` has cleaned up. -/
def closed (flag : UpgradeFlag) (out : List Output) (t : App) : App :=
  { t with otaTimer := none, upgradeCheckResponse := none, upgrade := .null, upgradeFlag := flag, out := out }

/-- In an update no response is kept for the callback. -/
theorem dropResponse_upgrade {t : App} (htype : t.upgradeType = .upgrade) (u : UpgradeStatus) :
    ∃ o, t.dropResponse u = { t with otaTimer := none, upgradeCheckResponse := none, out := o } := by
  obtain ⟨o, ho⟩ := ({ t with otaTimer := none } : App).debug_out "OTA deinit\r\n"
  have hprepare : ∀ s : App, s.upgradeType = .upgrade → s.prepareResponse u = s := by
    intro s hs
    unfold prepareResponse
    rw [if_neg]
    simp [hs]
  refine ⟨o, ?_⟩
  simp only [dropResponse, ho]
  rw [hprepare, ite_self]
  · rfl
  · exact htype

theorem disconnectConn_out (s : App) (u : UpgradeStatus) : ∃ o, s.disconnectConn u = s.printed o := by
  unfold disconnectConn
  split_ifs
  · exact ⟨_, rfl⟩
  · exact ⟨s.out, rfl⟩

theorem cleanUp_upgrade {t : App} (htype : t.upgradeType = .upgrade) (u : UpgradeStatus) :
    ∃ o, t.cleanUp u = if t.upgradeFlag = .finish then (true, t.closed .finish o) else (false, t.closed .idle o) := by
  obtain ⟨o₁, ho₁⟩ := dropResponse_upgrade htype u
  obtain ⟨o₂, ho₂⟩ := disconnectConn_out (t.closed t.upgradeFlag o₁) u
  have hclean : t.cleanUp u = (t.closed t.upgradeFlag o₂).completion := by
    unfold cleanUp
    rw [ho₁]
    exact congrArg completion ho₂
  rw [hclean]
  unfold completion
  by_cases hflag : t.upgradeFlag = .finish
  · obtain ⟨o, ho⟩ := (t.closed .finish o₂).debug_out "OTA finished\r\n"
    refine ⟨o, ?_⟩
    rw [hflag, ho]
    rfl
  · obtain ⟨o, ho⟩ := (t.closed .idle o₂).debug_out "OTA finished\r\n"
    refine ⟨o, ?_⟩
    rw [if_neg hflag]
    exact (if_neg hflag).trans (congrArg (Prod.mk false) ho)

variable (md5) in
/-- A session that fails: only the error is reported. -/
theorem atOtaDeinit_failed {t : App} {u : UpgradeStatus} (hlive : t.upgrade = .live u) (hcall : u.callback = .update)
    (htype : t.upgradeType = .upgrade) (hflag : t.upgradeFlag ≠ .finish) : ∃ o,
    t.atOtaDeinit md5 = { t.closed .idle (o ++ [.error]) with busy := false } := by
  obtain ⟨o, ho⟩ := cleanUp_upgrade htype u
  rw [if_neg hflag] at ho
  refine ⟨o ++ [.text "+UPDATEFIRMWARE:0,firmware upgrade failed\r\n"], ?_⟩
  unfold atOtaDeinit
  simp only [hlive, ho, callBack, hcall]
  rfl

variable (md5) in
/-- A finished download: `check_firmware` decides. -/
theorem atOtaDeinit_finished {t : App} {u : UpgradeStatus} (hlive : t.upgrade = .live u)
    (hcall : u.callback = .update) (htype : t.upgradeType = .upgrade) (hflag : t.upgradeFlag = .finish) :
    ∃ o v w, checkFirmware md5 (fwNumber t.upgradeFlashAddr).toUInt8 (t.closed .finish o) = (v, w) ∧
      t.atOtaDeinit md5 = if v > 0 then w.atLeaveSpecialState.firmwareReady
        else (w.atLeaveSpecialState.print "+UPDATEFIRMWARE:0,new firmware check failed\r\n").responseError := by
  obtain ⟨o, ho⟩ := cleanUp_upgrade htype u
  rw [if_pos hflag] at ho
  obtain ⟨o', ho'⟩ := (t.closed .finish o).debug_out ("Checking firmware " ++
    toString (fwNumber t.upgradeFlashAddr).toNat ++ " at 0x" ++ CString.hex 6 t.upgradeFlashAddr.toNat ++ "\r\n")
  refine ⟨o', _, _, rfl, ?_⟩
  unfold atOtaDeinit
  simp only [hlive, ho, callBack, hcall, otaUpdateCallBack, if_true]
  rw [show (t.closed .finish o).upgradeFlashAddr = t.upgradeFlashAddr from rfl, ho']
  rfl

theorem Outcome.of_eq {t t' : App} (h : Outcome md5 s₀ cs t) (hspi : t'.spi = t.spi)
    (hidx : t'.indices = t.indices) : Outcome md5 s₀ cs t' := by
  rcases h with ⟨hw, hi⟩ | ⟨c, v, w, hd, haddr, hci, hcheck, hs, hi⟩
  · exact Or.inl ⟨by rwa [hspi], hidx.trans hi⟩
  · exact Or.inr ⟨c, v, w, hd, haddr, hci, hcheck, hspi.trans hs, hidx.trans hi⟩

theorem firmwareReady_spi (s : App) : s.firmwareReady.spi = s.spi ∧ s.firmwareReady.indices = s.indices ∧
    s.firmwareReady.upgrade = s.upgrade ∧ s.firmwareReady.otaTimer = s.otaTimer := by
  simp only [firmwareReady]
  split_ifs <;> exact ⟨rfl, rfl, rfl, rfl⟩

/-- The cleaned-up application has no session, nor has it one after `check_firmware`. -/
theorem Checked.sessionless {s t : App} {ops : List Op} {idx : List UInt32} (h : s.Checked ops idx t) :
    t.upgrade = s.upgrade ∧ t.otaTimer = s.otaTimer := by
  obtain ⟨d, heap, out, bi, rfl, -⟩ := h
  exact ⟨rfl, rfl⟩

variable (md5) in
theorem checkFirmware_checked (s : App) (n : UInt8) : ∃ ops idx, s.Checked ops idx (checkFirmware md5 n s).2 := by
  obtain ⟨hno, hyes⟩ := checkFirmware_spec md5 s n
  by_cases h : s.Checks md5
  · obtain ⟨t, ht, hc⟩ := hyes h
    exact ⟨_, _, by rw [ht]; exact hc⟩
  · obtain ⟨t, ht, hc⟩ := hno h
    exact ⟨_, _, by rw [ht]; exact hc⟩

/-- `at_ota_deinit` ends a session. -/
theorem over_of_ended (h0 : s₀.Opened) {finished : Bool} {t : App} (h : Ended s₀ cs finished false t) :
    Over md5 s₀ cs (t.atOtaDeinit md5) := by
  obtain ⟨d, heap, out, u, content_len, timer, rfl, hcall, hw, hfin⟩ := h
  set t : App := { s₀.session d heap out u content_len timer with
    upgradeFlag := if finished then .finish else .start, crashed := false } with ht
  cases finished with
  | false =>
    obtain ⟨o, ho⟩ := atOtaDeinit_failed md5 (t := t) rfl hcall h0.type (by simp [ht])
    rw [ho]
    exact ⟨Or.inr ⟨rfl, rfl⟩, Or.inl ⟨hw, rfl⟩⟩
  | true =>
    obtain ⟨o, v, w, hcheck, hend⟩ := atOtaDeinit_finished md5 (t := t) rfl hcall h0.type (by simp [ht])
    obtain ⟨ops, idx, hchecked⟩ := checkFirmware_checked md5 (t.closed .finish o)
      (fwNumber t.upgradeFlashAddr).toUInt8
    rw [hcheck] at hchecked
    obtain ⟨hup, htimer⟩ := hchecked.sessionless
    have hover : Over md5 s₀ cs w := ⟨Or.inr ⟨hup, htimer⟩,
      Or.inr ⟨t.closed .finish o, v, w, (hfin rfl).2.2, rfl, rfl, hcheck, rfl, rfl⟩⟩
    rw [hend]
    split_ifs
    · obtain ⟨hs, hi, hu, ht⟩ := firmwareReady_spi w.atLeaveSpecialState
      exact ⟨Or.inr ⟨hu.trans hup, ht.trans htimer⟩, hover.2.of_eq hs hi⟩
    · exact ⟨Or.inr ⟨hup, htimer⟩, hover.2.of_eq rfl rfl⟩

/-- A session that goes on, as one that is about to fail. -/
theorem Live.ended (h0 : s₀.Opened) {t : App} (h : Live s₀ cs t) : Ended s₀ cs false false t := by
  obtain ⟨d, heap, out, u, content_len, timer, full, rfl, hp, rfl, hlater⟩ := h
  have hfits : Fits cs full.length := (hp.fits hlater fun _ => rfl).mono (Nat.le_succ _)
  have := ended_of_written h0 heap out u (announced cs) timer false
    hp.callback (hp.written hfits)
  rwa [← session_running h0] at this

/-! ### Events -/

section
variable {d : Spi} {heap : ℕ → Bool} {out : List Output} {u : UpgradeStatus} {full : List (List UInt8)}
  {timer : Option OtaTimer}

/-- What is left of a session's state when only its connection or its error changes. -/
theorem Progress.adjust (hp : Progress s₀ cs u d full) (conn : Option ℕ) (error : OtaStatus) :
    Progress s₀ cs { u with conn := conn, error := error } d full :=
  ⟨hp.callback, hp.base, hp.log, hp.sectors, hp.addr, hp.body, hp.total⟩

variable (d heap out u timer)

variable (md5 s₀) in
/-- The disconnect callback ends the session if it is for the session's own connection. -/
theorem upgradeDisconcb_session (n : UInt32) (conn : Option ℕ) : ∃ o,
    (s₀.session d heap out u n timer).upgradeDisconcb md5 conn =
      if u.conn = conn then (s₀.session d heap o { u with conn := none } n none).atOtaDeinit md5
      else s₀.session d heap o u n none := by
  obtain ⟨o, ho⟩ := (s₀.session d heap out u n timer).debug_out "OTA: Disconnected\r\n"
  obtain ⟨o', ho'⟩ := (s₀.session d heap o { u with conn := none } n none).debug_out
    "OTA: Disconnected from remote\r\n"
  unfold upgradeDisconcb
  rw [ho]
  by_cases hconn : u.conn = conn
  · refine ⟨o', ?_⟩
    rw [if_pos hconn]
    exact (if_pos hconn).trans (congrArg (atOtaDeinit md5) ho')
  · refine ⟨o, ?_⟩
    rw [if_neg hconn]
    exact if_neg hconn

variable (md5 s₀) in
theorem dropConnection_session (n : UInt32) : ∃ o,
    (s₀.session d heap out u n timer).dropConnection md5 =
      (s₀.session d heap o { u with conn := none } n none).atOtaDeinit md5 := by
  obtain ⟨o, ho⟩ := upgradeDisconcb_session md5 s₀ d heap out u timer n u.conn
  rw [if_pos rfl] at ho
  exact ⟨o, ho⟩

end

theorem printed_debug (s : App) (o : List Output) (m : String) : ∃ o', (s.printed o).debug m = s.printed o' :=
  (s.printed o).debug_out m

section
variable (d : Spi) (heap : ℕ → Bool) (out : List Output) (u : UpgradeStatus) (timer : Option OtaTimer)

variable (md5 s₀) in
theorem upgradeResolved_failed (n : UInt32) : ∃ o, (s₀.session d heap out u n timer).upgradeResolved md5 false =
    (s₀.session d heap o { u with conn := none, error := .dnsFailed } n none).atOtaDeinit md5 := by
  set s := s₀.session d heap out u n timer
  obtain ⟨o₁, ho₁⟩ := s.debug_out "DNS lookup failed for: "
  obtain ⟨o₂, ho₂⟩ := s.printed_debug o₁ s.upgradeRemoteHost
  obtain ⟨o₃, ho₃⟩ := s.printed_debug o₂ "\r\n"
  obtain ⟨o, ho⟩ := upgradeDisconcb_session md5 s₀ d heap o₃ { u with error := .dnsFailed } timer n
    u.conn
  rw [if_pos rfl] at ho
  refine ⟨o, ?_⟩
  rw [← ho]
  show upgradeDisconcb md5 u.conn (storeStatus _ (((s.debug "DNS lookup failed for: ").debug
    s.upgradeRemoteHost).debug "\r\n")) = _
  rw [ho₁, ho₂, ho₃]
  rfl

theorem printConnecting_out (s : App) : ∃ o, s.printConnecting = s.printed o := by
  obtain ⟨o₁, ho₁⟩ := s.debug_out "Connecting to: "
  obtain ⟨o₂, ho₂⟩ := s.printed_debug o₁ s.upgradeRemoteHost
  obtain ⟨o₃, ho₃⟩ := s.printed_debug o₂ " (SSL)"
  unfold printConnecting
  rw [ho₁]
  show ∃ o, (if ((s.printed o₁).debug s.upgradeRemoteHost).upgradeUseSsl > 0 then
    ((s.printed o₁).debug s.upgradeRemoteHost).debug " (SSL)" else (s.printed o₁).debug s.upgradeRemoteHost).debug
      "\r\n" = _
  rw [ho₂, ho₃]
  split_ifs
  · exact s.printed_debug o₃ "\r\n"
  · exact s.printed_debug o₂ "\r\n"

variable (md5 s₀) in
theorem upgradeResolved_found (n : UInt32) : ∃ o, (s₀.session d heap out u n timer).upgradeResolved md5 true =
    if u.conn.isNone then (s₀.session d heap out u n timer).crash
    else s₀.session d heap o u n (some .connectTimeout) := by
  set s := s₀.session d heap out u n timer
  obtain ⟨o, ho⟩ := s.printConnecting_out
  refine ⟨o ++ [.connect (s.upgradeUseSsl > 0) (if s.upgradeRemotePort > 0 then s.upgradeRemotePort
    else if s.upgradeUseSsl > 0 then 443 else 80)], ?_⟩
  by_cases hconn : u.conn.isNone
  · rw [if_pos hconn]
    exact if_pos hconn
  · rw [if_neg hconn]
    refine (if_neg hconn).trans ?_
    rw [ho]
    rfl

variable (md5 s₀) in
/-- A connection that has been made: the request is sent, if there is memory for it. -/
theorem upgradeConnectCb_session (n : UInt32) : ∃ heap' o,
    (heap 0 = true ∧
      (s₀.session d heap out u n timer).upgradeConnectCb md5 = s₀.session d heap' o u n (some .deinit)) ∨
    (heap 0 = false ∧ (s₀.session d heap out u n timer).upgradeConnectCb md5 =
      (s₀.session d heap' o { u with error := .noRam } n none).atOtaDeinit md5) := by
  set s := s₀.session d (fun k => heap (k + 1)) out u n none with hs
  have hconnect : (s₀.session d heap out u n timer).upgradeConnectCb md5 = if heap 0 then s.sendRequest
      else ((s.debug "No RAM for request string!\r\n").storeStatus { u with error := .noRam }).atOtaDeinit md5 := by
    unfold upgradeConnectCb zalloc
    dsimp only [session]
    cases heap 0 <;> rfl
  refine ⟨fun k => heap (k + 1), ?_⟩
  rw [hconnect]
  cases heap 0 with
  | false =>
    obtain ⟨o, ho⟩ := s.debug_out "No RAM for request string!\r\n"
    refine ⟨o, Or.inr ⟨rfl, ?_⟩⟩
    simp only [ho]
    rfl
  | true =>
    obtain ⟨o, ho⟩ := s.debug_out s.requestedFile.2
    refine ⟨(s.printed o).out ++ [.send (s.upgradeUseSsl > 0) ("GET /ESP8266/firmwares/" ++
      (s.printed o).requestedFile.1 ++ " HTTP/1.0\r\nHost: " ++ s.upgradeRemoteHost ++ "\r\n" ++ HTTP_HEADER)],
      Or.inl ⟨rfl, ?_⟩⟩
    simp only [sendRequest, ho]
    rfl

end

/-- A session that goes on has written the sectors it has filled. -/
theorem Live.outcome {t : App} (h : Live s₀ cs t) : Outcome md5 s₀ cs t := by
  obtain ⟨d, heap, out, u, content_len, timer, full, rfl, hp, rfl, hlater⟩ := h
  exact Or.inl ⟨hp.written ((hp.fits hlater fun _ => rfl).mono (Nat.le_succ _)), rfl⟩

variable (md5) in
/-- One event: the session goes on, or it is over. -/
theorem step_live (h0 : s₀.Opened) {t : App} (h : Live s₀ cs t) (e : NetEvent) :
    Live s₀ (cs ++ received [e]) (t.step md5 e) ∨ Over md5 s₀ (cs ++ received [e]) (t.step md5 e) := by
  have hlive := h
  obtain ⟨d, heap, out, u, content_len, timer, full, rfl, hp, rfl, hlater⟩ := h
  have goesOn : ∀ heap out timer conn error,
      Live s₀ cs (s₀.session d heap out { u with conn := conn, error := error } (announced cs) timer) :=
    fun heap out timer conn error => ⟨d, heap, out, _, _, timer, full, rfl, hp.adjust conn error, rfl, hlater⟩
  have ends : ∀ heap out timer conn error, Over md5 s₀ cs
      ((s₀.session d heap out { u with conn := conn, error := error } (announced cs) timer).atOtaDeinit md5) :=
    fun heap out timer conn error => over_of_ended h0 ((goesOn heap out timer conn error).ended h0)
  have hrunning : (s₀.session d heap out u (announced cs) timer).crashed = false := h0.running
  unfold step
  rw [if_neg (by rw [hrunning]; exact Bool.false_ne_true)]
  cases e with
  | resolved found =>
    rw [show received [.resolved found] = [] from rfl, List.append_nil]
    cases found with
    | false =>
      obtain ⟨o, ho⟩ := upgradeResolved_failed md5 s₀ d heap out u timer (announced cs)
      simp only [ho]
      exact Or.inr (ends _ _ _ _ _)
    | true =>
      obtain ⟨o, ho⟩ := upgradeResolved_found md5 s₀ d heap out u timer (announced cs)
      simp only [ho]
      split_ifs
      · exact Or.inr ⟨Or.inl rfl, hlive.outcome.of_eq rfl rfl⟩
      · exact Or.inl (goesOn _ _ _ u.conn u.error)
  | connected =>
    rw [show received [.connected] = [] from rfl, List.append_nil]
    obtain ⟨heap', o, ⟨-, ho⟩ | ⟨-, ho⟩⟩ := upgradeConnectCb_session md5 s₀ d heap out u timer (announced cs)
    · simp only [ho]
      exact Or.inl (goesOn _ _ _ u.conn u.error)
    · simp only [ho]
      exact Or.inr (ends _ _ _ _ _)
  | received data reading =>
    have hafter := receive_live h0 hlive data reading
    show Live s₀ (cs ++ [data.val]) (upgradeRecvcb md5 data reading _) ∨
      Over md5 s₀ (cs ++ [data.val]) (upgradeRecvcb md5 data reading _)
    unfold upgradeRecvcb
    generalize receive data reading _ = r at hafter
    obtain ⟨b, t⟩ := r
    rcases hafter with ⟨rfl, hgoes⟩ | ⟨finished, overrun, rfl, hended⟩
    · exact Or.inl hgoes
    · cases overrun with
      | false => exact Or.inr (over_of_ended h0 hended)
      | true =>
        obtain ⟨d', heap', o, u', n, timer', rfl, -, hw, -⟩ := hended
        exact Or.inr ⟨Or.inl rfl, Or.inl ⟨hw, rfl⟩⟩
  | reconnect errType =>
    rw [show received [.reconnect errType] = [] from rfl, List.append_nil]
    obtain ⟨o, ho⟩ := (s₀.session d heap out u (announced cs) timer).debug_out
      ("Connection error (" ++ toString errType ++ ")\r\n")
    obtain ⟨o', ho'⟩ := dropConnection_session md5 s₀ d heap o u timer (announced cs)
    simp only [upgradeReconCb, ho]
    exact Or.inr (ho' ▸ ends _ _ _ _ _)
  | disconnected conn =>
    rw [show received [.disconnected conn] = [] from rfl, List.append_nil]
    obtain ⟨o, ho⟩ := upgradeDisconcb_session md5 s₀ d heap out u timer (announced cs) (some conn)
    simp only [ho]
    split_ifs
    · exact Or.inr (ends _ _ _ _ _)
    · exact Or.inl (goesOn _ _ _ u.conn u.error)
  | timer =>
    rw [show received [.timer] = [] from rfl, List.append_nil]
    cases timer with
    | none => exact Or.inl hlive
    | some k =>
      cases k with
      | deinit => exact Or.inr (ends heap out none u.conn u.error)
      | connectTimeout =>
        obtain ⟨o, ho⟩ := (s₀.session d heap out u (announced cs) none).debug_out "Connect timeout.\r\n"
        obtain ⟨o', ho'⟩ := dropConnection_session md5 s₀ d heap o u none (announced cs)
        show Live s₀ cs (dropConnection md5 (App.debug (s₀.session d heap out u (announced cs) none) _)) ∨
          Over md5 s₀ cs (dropConnection md5 (App.debug (s₀.session d heap out u (announced cs) none) _))
        rw [ho]
        exact Or.inr (ho' ▸ ends _ _ _ _ _)

/-- After the end of a session no event changes the flash. -/
theorem step_over {t : App} (h : Over md5 s₀ cs t) (e : NetEvent) : Over md5 s₀ cs (t.step md5 e) := by
  obtain ⟨hover, hout⟩ := h
  unfold step
  by_cases hcrash : t.crashed = true
  · rw [if_pos hcrash]
    exact ⟨hover, hout⟩
  rw [if_neg hcrash]
  obtain ⟨hup, htimer⟩ := hover.resolve_left hcrash
  have crashes : Over md5 s₀ cs t.crash := ⟨Or.inl rfl, hout.of_eq rfl rfl⟩
  have prints : ∀ o, Over md5 s₀ cs (t.printed o) := fun o => ⟨Or.inr ⟨hup, htimer⟩, hout.of_eq rfl rfl⟩
  cases e with
  | resolved found => cases found <;> simpa only [upgradeResolved, hup] using crashes
  | connected => simpa only [upgradeConnectCb, hup] using crashes
  | received data reading => simpa only [upgradeRecvcb, receive, hup] using crashes
  | reconnect errType =>
    obtain ⟨o, ho⟩ := t.debug_out ("Connection error (" ++ toString errType ++ ")\r\n")
    have hnull : (t.printed o).upgrade = .null := hup
    simp only [upgradeReconCb, ho, dropConnection, hnull]
    exact prints o
  | disconnected conn =>
    obtain ⟨o, ho⟩ := t.debug_out "OTA: Disconnected\r\n"
    have hnull : (t.printed o).upgrade = .null := hup
    simp only [upgradeDisconcb, ho, hnull]
    exact ⟨Or.inr ⟨rfl, rfl⟩, hout.of_eq rfl rfl⟩
  | timer =>
    simp only [htimer]
    exact ⟨hover, hout⟩

/-- A session that has just been opened. -/
theorem Opened.start (h0 : s₀.Opened) : Live s₀ [] s₀ := by
  obtain ⟨u, hu, hcall, haddr, hbuf, htotal⟩ := h0.live
  refine ⟨s₀.spi, s₀.heap, s₀.out, u, 0, s₀.otaTimer, [], ?_, ?_, rfl, fun h => absurd rfl h⟩
  · rw [session, ← hu, ← h0.length]
  · refine ⟨hcall, rfl, by simp [rewrite], by simp, by simpa using haddr, by simp [responseBody, hbuf], ?_⟩
    rw [htotal]
    rfl

variable (md5) in
/-- A session after any events: it goes on with all that has been received, or it is over, having used a
beginning of it. -/
theorem run_session (h0 : s₀.Opened) (es : List NetEvent) :
    Live s₀ (received es) (s₀.run md5 es) ∨ ∃ cs, cs <+: received es ∧ Over md5 s₀ cs (s₀.run md5 es) := by
  induction es using List.reverseRecOn with
  | nil => exact Or.inl h0.start
  | append_singleton es e ih =>
    rw [run_snoc, received_append]
    rcases ih with hlive | ⟨cs, hcs, hover⟩
    · rcases step_live md5 h0 hlive e with h | h
      · exact Or.inl h
      · exact Or.inr ⟨_, List.prefix_rfl, h⟩
    · exact Or.inr ⟨cs, hcs.trans (List.prefix_append _ _), step_over hover e⟩

/-- The operations of a session after any events, and what is known of them. -/
theorem run_outcome (h0 : s₀.Opened) (es : List NetEvent) :
    ∃ cs, cs <+: received es ∧ Outcome md5 s₀ cs (s₀.run md5 es) := by
  rcases run_session md5 h0 es with h | ⟨cs, hcs, h⟩
  · exact ⟨_, List.prefix_rfl, h.outcome⟩
  · exact ⟨cs, hcs, h.2⟩

end App

end Esp8266At
