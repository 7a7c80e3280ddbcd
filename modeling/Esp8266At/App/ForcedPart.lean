import Esp8266At.App.Provenance
import Esp8266At.Handover

/-!
# Forced partitions

The number of a forced partition is turned into an address by `update_setparams`, and back into a number when the
firmware has been downloaded. The bootloader has a formula of its own. The three agree, and stay within the arrays and
the flash, exactly if the running partition is known, its flash map is one of the 512+512 maps or the number is 0, and
the flash has the partition (`forced_agrees_iff`).
-/

namespace Esp8266At

open ByteSpace NorFlash Machine

/-! ### Flash maps -/

/-- The size of the flash, for the values of `enum flash_size_map`. -/
def flashSize (flash_map : UInt8) : ℕ :=
  match flash_map.toNat with
  | 0 => 0x80000
  | 1 => 0x40000
  | 2 => 0x100000
  | 3 | 5 => 0x200000
  | 4 | 6 | 7 => 0x400000
  | 8 => 0x800000
  | 9 => 0x1000000
  | _ => 0

/-- The number of partitions that begin inside the flash. -/
def partitions (flash_map : UInt8) : ℕ :=
  match flash_map.toNat with
  | 0 | 1 => 1
  | 2 => 2
  | 3 | 5 => 4
  | 4 | 6 | 7 | 8 | 9 => 8
  | _ => 0

theorem partAddr_lt_flashSize (flash_map : UInt8) (p : Part) :
    (partAddr p).toNat < flashSize flash_map ↔ p.val < partitions flash_map := by
  have hlt := p.isLt
  have hmax : MAX_APP_PART = 8 := rfl
  rw [partAddr_toNat]
  unfold flashSize partitions
  split <;> omega

namespace App

variable {lib : LibAt} {md5 : List UInt8 → Digest} {pPara : List UInt8} {s s₀ x : App} {p : Part}

/-! ### Numbers and addresses -/

theorem fwNumber_partAddr (p : Part) : fwNumber (partAddr p) = UInt32.ofNat p.val := by
  revert p
  decide

theorem toUInt8_part (p : Part) : (UInt32.ofNat p.val).toUInt8 = appN p := by
  revert p
  decide

/-- A forced partition is written at its address on the 512+512 maps, and if its number is 0. -/
theorem targetAddr_forced (p : Part) (fw_n : UInt32) (flash_map : UInt8) :
    targetAddr (some p) fw_n flash_map = partAddr p ↔ flash_map < 5 ∨ p.val = 0 := by
  unfold targetAddr
  by_cases hmap : flash_map < 5
  · simp only [hmap, true_or, iff_true]
    revert p
    decide
  · simp only [hmap, false_or]
    revert p
    decide

/-- The RTC word names the running partition, or is not valid. -/
theorem getRtcCurrFw_cases (x : App) : x.getRtcCurrFw = -1 ∨ ∃ r : Part, x.getRtcCurrFw = r.val := by
  unfold getRtcCurrFw
  by_cases hword : x.rtc 4 ≥ BOOT_FW_MAGIC ∧ x.rtc 4 < BOOT_FW_MAGIC + UInt32.ofNat MAX_APP_PART
  · rw [if_pos hword]
    have hvalid : ValidWord (x.rtc 4) := by
      rintro (h | h)
      · exact absurd h (UInt32.not_lt.mpr hword.1)
      · exact absurd hword.2 (UInt32.not_lt.mpr h)
    rw [validWord_iff.mp hvalid, magicWord_part]
    exact Or.inr ⟨_, rfl⟩
  · rw [if_neg hword]
    exact Or.inl rfl

/-- The number of the running partition is an index of the arrays exactly if the RTC word is valid. -/
theorem currFw_lt (x : App) : x.currFw.toNat < MAX_APP_PART ↔ 0 ≤ x.getRtcCurrFw := by
  unfold currFw
  rcases x.getRtcCurrFw_cases with h | ⟨r, h⟩
  · rw [h]
    decide
  · rw [h]
    clear h
    revert r
    decide

/-! ### The set command -/

/-- The command is answered `OK`. -/
def AnswersOk (t s : App) : Prop := t.out = s.out ++ [.ok]

instance (t s : App) : Decidable (AnswersOk t s) := inferInstanceAs (Decidable (_ = _))

/-- A partition that has been accepted is the one that is forced. -/
theorem forced_of_answersOk {q : UpdateParams} (hparams : updateParams lib pPara = some q) (hp : q.fwN = p.val)
    (hok : AnswersOk (s.atSetupCmdFWupdate lib pPara) s) :
    (s.atSetupCmdFWupdate lib pPara).updateForcedFw = some p := by
  have hlt := p.isLt
  have hin : InRange q.fwN := by
    rw [hp]
    exact ⟨Int.natCast_nonneg _, by exact_mod_cast hlt⟩
  have hcommand := atSetupCmdFWupdate_some (s := s) hparams
  rw [dif_pos hin] at hcommand
  by_cases hforced : s.forcedPartOk q.fwN = true
  · rw [if_pos hforced] at hcommand
    rw [hcommand]
    refine congrArg some (Fin.ext ?_)
    show q.fwN.toNat = p.val
    rw [hp]
    exact Int.toNat_natCast _
  · rw [if_neg hforced] at hcommand
    rw [hcommand] at hok
    exact absurd (List.append_cancel_left hok) (by decide)

end App

/-- An action that neither starts a session nor sets the options. -/
def UpdateAction.Waits : UpdateAction → Prop
  | .event _ => True
  | .command c => c.starts = none ∧ ∀ pPara, c ≠ .setOptions pPara

namespace App

variable {lib : LibAt} {md5 : List UInt8 → Digest} {pPara : List UInt8} {s s₀ x : App} {p : Part}

theorem execute_forced {c : UpdateCommand} (h : UpdateAction.Waits (.command c)) :
    (s.execute lib md5 c).updateForcedFw = s.updateForcedFw := by
  obtain ⟨hc, hne⟩ := h
  cases c with
  | update | updateBoot | check | checkBoot | getChecksum | getChecksumBoot => cases hc
  | setOptions pPara => exact absurd rfl (hne pPara)
  | setDebug pPara =>
    simp only [execute, atSetupCmdFWDebug]
    split_ifs <;> rfl
  | setChecksum pPara =>
    simp only [execute, atSetupCmdFWGetMD5]
    split_ifs <;> rfl
  | setBoot pPara =>
    simp only [execute, atSetupCmdBoot]
    obtain ⟨rtc, hrtc⟩ := s.setRtcNextboot_eq
      ((bootParams lib pPara).1.bootapp.toUInt8.toUInt32 ||| (bootParams lib pPara).1.perm).toUInt8
    rw [hrtc]
    split_ifs <;> rfl

/-! ### The session -/

/-- The firmware `body` has been written at partition `p`, and checking it has given `v`. -/
structure RecordedAs (md5 : List UInt8 → Digest) (p : Part) (body : List UInt8) (c : App) (v : UInt32) (t : App) :
    Prop where
  number : fwNumber c.upgradeFlashAddr = UInt32.ofNat p.val
  written : slice c.spi.flash (partAddr p) body.length = body
  indices : ∃ idx, t.indices = c.indices ++ idx ∧ ∀ i ∈ idx, i.toNat < MAX_APP_PART
  /-- An accepted firmware becomes the default, and only its own record changes. -/
  record : v > 0 → bootInfoAt t.spi.flash =
    { bootPart := magicWord p
      bootAddr := partAddr p
      partLength := Function.update (bootInfoAt c.spi.flash).partLength p (Image.length c.spi.flash (partAddr p))
      partMd5 := Function.update (bootInfoAt c.spi.flash).partMd5 p (md5 (Image.bytes c.spi.flash (partAddr p)))
      partType := Function.update (bootInfoAt c.spi.flash).partType p (Image.mapMode c.spi.flash (partAddr p)) }

/-- In the session `s₀` that has been started in `x`, application and bootloader agree about partition `p`. -/
structure Agrees (md5 : List UInt8 → Digest) (p : Part) (x s₀ : App) : Prop where
  target : s₀.upgradeFlashAddr = partAddr p
  inside : (partAddr p).toNat < flashSize x.flashSizeMap
  apart : ∀ r : Part, x.getRtcCurrFw = r.val → partAddr r ≠ partAddr p
  indices : ∃ idx, s₀.indices = x.indices ++ idx ∧ ∀ i ∈ idx, i.toNat < MAX_APP_PART
  recorded : ∀ es e c v t, (s₀.run md5 es).checking e = some c →
    checkFirmware md5 (fwNumber c.upgradeFlashAddr).toUInt8 c = (v, t) →
    RecordedAs md5 p (responseBody (received (es ++ [e]))) c v t

/-- The running partition is known, its flash map is a 512+512 map or the number is 0, and the flash has the
partition. -/
structure Forceable (p : Part) (x : App) : Prop where
  running : 0 ≤ x.getRtcCurrFw
  formula : x.currType >>> 4 < 5 ∨ p.val = 0
  partition : p.val < partitions x.flashSizeMap

variable {es : List NetEvent} {e : NetEvent} {c t : App} {v : UInt32}

/-- When `check_firmware` is called, the whole body of the response stands at the target of the session. -/
theorem Opened.checking (h0 : s₀.Opened) (hcheck : (s₀.run md5 es).checking e = some c) :
    Downloaded s₀ (received (es ++ [e])) c.spi ∧ c.upgradeFlashAddr = s₀.upgradeFlashAddr := by
  obtain ⟨c₀, o, hcalls, rfl⟩ := checking_calls hcheck
  obtain ⟨t, u, hend, -⟩ := calls_cleanUp hcalls
  obtain ⟨hrun, w, hw, -⟩ := ending_some hend
  rw [received_append]
  rcases run_session md5 h0 es with hlive | ⟨cs, -, hover, -⟩
  · have hfinished := hlive.finished h0 hcalls
    exact ⟨hfinished.1, hfinished.2.1⟩
  · exfalso
    rcases hover with hcrash | ⟨hnull, -⟩
    · rw [hcrash] at hrun
      cases hrun
    · rw [hnull] at hw
      cases hw

/-- A firmware that has been downloaded to the address of partition `p` is recorded as partition `p`. -/
theorem recordedAs_of_target (h0 : s₀.Opened) (htarget : s₀.upgradeFlashAddr = partAddr p)
    (hcheck : (s₀.run md5 es).checking e = some c)
    (hresult : checkFirmware md5 (fwNumber c.upgradeFlashAddr).toUInt8 c = (v, t)) :
    RecordedAs md5 p (responseBody (received (es ++ [e]))) c v t := by
  obtain ⟨hdown, haddr⟩ := h0.checking hcheck
  have hwritten := hdown.slice h0
  rw [htarget] at haddr hwritten
  rw [haddr, fwNumber_partAddr, toUInt8_part] at hresult
  refine ⟨by rw [haddr, fwNumber_partAddr], hwritten, ?_, fun hv => ?_⟩
  · obtain ⟨hno, hyes⟩ := checkFirmware_spec md5 c (appN p)
    by_cases hchecks : c.Checks md5
    · obtain ⟨t', ht, d, heap, out, bi, heq, -⟩ := hyes hchecks
      obtain ⟨-, rfl⟩ := Prod.mk.inj (hresult.symm.trans ht)
      refine ⟨_, congrArg indices heq, fun i hi => ?_⟩
      obtain rfl := List.eq_of_mem_replicate hi
      rw [UInt8.toNat_toUInt32, appN_toNat]
      exact p.isLt
    · obtain ⟨t', ht, d, heap, out, bi, heq, -⟩ := hno hchecks
      obtain ⟨-, rfl⟩ := Prod.mk.inj (hresult.symm.trans ht)
      refine ⟨_, congrArg indices heq, fun i hi => ?_⟩
      cases hi
  · have hne : v ≠ 0 := by
      rintro rfl
      exact absurd hv (by decide)
    obtain ⟨-, -, hflash⟩ := checkFirmware_accepted hresult hne
    rw [hflash, bootInfoAt_save, newRecord_part, haddr]

variable {u₀ : UpgradeStatus} {dns : DnsResult}

/-- A session is started only if `update_setparams` succeeds. -/
theorem canSetparams_of_live {type : OtaType} (hidle : ∀ u, x.upgrade ≠ .live u)
    (h : (x.startUpdate md5 type dns).upgrade = .live u₀) : x.CanSetparams := by
  rcases x.updateSetparams_spec with ⟨hcan, -⟩ | ⟨-, heap, d, idx, ht, -⟩
  · exact hcan
  · unfold startUpdate at h
    rw [ht] at h
    exact absurd ((debug_upgrade _ _).symm.trans h) (hidle u₀)

theorem ofInt_part (p : Part) : UInt32.ofInt p.val = UInt32.ofNat p.val := by
  revert p
  decide

variable (lib md5) in
/-- **A session with a forced partition agrees with the bootloader exactly if the partition is forceable.** -/
theorem agrees_iff (hrun : x.crashed = false) (hbusy : x.busy = false) (hidle : ∀ u, x.upgrade ≠ .live u)
    (hforced : x.updateForcedFw = some p) (hlive : (x.execute lib md5 (.update dns)).upgrade = .live u₀) :
    Agrees md5 p x (x.execute lib md5 (.update dns)) ↔ Forceable p x := by
  obtain ⟨h0, htarget⟩ := update_opened lib md5 hrun hbusy hidle hlive
  obtain ⟨heap, out, timer, hopening⟩ := update_opening lib md5 hbusy hidle hlive
  have hindices : (x.execute lib md5 (.update dns)).indices = x.indices ++ [x.currFw, x.currFw] := by
    rw [hopening]
    rfl
  rw [hforced] at htarget
  constructor
  · intro h
    refine ⟨?_, ?_, (partAddr_lt_flashSize _ p).mp h.inside⟩
    · obtain ⟨idx, hidx, hall⟩ := h.indices
      obtain rfl := List.append_cancel_left (hidx.symm.trans hindices)
      exact (currFw_lt x).mp (hall _ (List.mem_cons_self ..))
    · rw [← targetAddr_forced p x.currFw, ← htarget]
      exact h.target
  · intro h
    have haddr := htarget.trans ((targetAddr_forced p x.currFw _).mpr h.formula)
    refine ⟨haddr, (partAddr_lt_flashSize _ p).mpr h.partition, fun r hr hsame => ?_, ⟨_, hindices, ?_⟩, ?_⟩
    · obtain rfl := partAddr_injective hsame
      have hcan : ({ x with upgradeUseSsl := 0 } : App).CanSetparams := canSetparams_of_live hidle hlive
      refine hcan.2.2 r hforced ?_
      show UInt32.ofNat r.val = UInt32.ofInt x.getRtcCurrFw
      rw [hr, ofInt_part]
    · intro i hi
      have hcurr := (currFw_lt x).mpr h.running
      simp only [List.mem_cons, List.not_mem_nil, or_false, or_self] at hi
      rw [hi]
      exact hcurr
    · intro es e c v t hcheck hresult
      exact recordedAs_of_target h0 haddr hcheck hresult

end App

namespace Tracked

variable {lib : LibAt} {md5 : List UInt8 → Digest} {x z : Tracked} {p : Part} {a : UpdateAction}

open App

/-! ### From the command to the session -/

/-- Partition `p` is to be updated next. -/
structure Pending (p : Part) (x : Tracked) : Prop where
  idle : ∀ u, x.app.upgrade ≠ .live u
  forced : x.app.updateForcedFw = some p

theorem Pending.next (h : x.Pending p) (ha : a.Waits) : (x.next lib md5 a).Pending p := by
  unfold Tracked.next
  by_cases hcrash : x.app.crashed = true
  · rw [if_pos hcrash]
    exact h
  rw [if_neg hcrash]
  cases a with
  | command c =>
    by_cases hbusy : x.app.busy = true
    · simp only [if_pos hbusy]
      exact h
    · simp only [if_neg hbusy]
      refine ⟨?_, (execute_forced ha).trans h.forced⟩
      obtain ⟨o, rtc, out, debug, heq⟩ := execute_set lib md5 (s := x.app) ha.1
      rw [heq]
      exact h.idle
  | event e =>
    obtain ⟨out, timer, crashed, hstep⟩ := step_sessionless md5 h.idle e
    simp only [hstep]
    exact ⟨h.idle, h.forced⟩

theorem Pending.run (h : x.Pending p) {actions : List UpdateAction} (hwait : ∀ a ∈ actions, a.Waits) :
    (Machine.run (Tracked.next lib md5) actions x).Pending p := by
  induction actions generalizing x with
  | nil => exact h
  | cons a actions ih =>
    exact ih (h.next (hwait a (List.mem_cons_self ..))) fun b hb => hwait b (List.mem_cons_of_mem _ hb)

variable (lib md5) in
/-- **The update of a forced partition agrees with the bootloader exactly if the partition is forceable**, whatever
was done before the command that forces it, and between this command and the update. -/
theorem forced_agrees_iff {s : App} (hs : ∀ u, s.upgrade ≠ .live u) (actions : List UpdateAction)
    (hx : Machine.run (next lib md5) actions (atReset s) = x) (hrun : x.app.crashed = false)
    (hbusy : x.app.busy = false) {pPara : List UInt8} {q : UpdateParams} (hparams : updateParams lib pPara = some q)
    (hp : q.fwN = p.val) (hok : AnswersOk (x.app.execute lib md5 (.setOptions pPara)) x.app)
    (waiting : List UpdateAction) (hwait : ∀ a ∈ waiting, a.Waits)
    (hz : Machine.run (next lib md5) (.command (.setOptions pPara) :: waiting) x = z) (hzrun : z.app.crashed = false)
    (hzbusy : z.app.busy = false) (dns : DnsResult) {u : UpgradeStatus}
    (hopen : (z.app.execute lib md5 (.update dns)).upgrade = .live u) :
    Agrees md5 p z.app (z.app.execute lib md5 (.update dns)) ↔ Forceable p z.app := by
  have hsessions : x.Sessions :=
    hx ▸ run_invariant (fun a y hy => sessions_next lib md5 hy a) (sessions_atReset hs)
  have hset : (x.next lib md5 (.command (.setOptions pPara))).Pending p := by
    unfold next
    rw [if_neg (by rw [hrun]; exact Bool.false_ne_true)]
    simp only [if_neg (show ¬x.app.busy = true by rw [hbusy]; exact Bool.false_ne_true)]
    refine ⟨?_, forced_of_answersOk hparams hp hok⟩
    obtain ⟨o, rtc, out, debug, heq⟩ := execute_set lib md5 (s := x.app) (c := .setOptions pPara) rfl
    rw [heq]
    exact hsessions.idle hrun hbusy
  have hpending : z.Pending p := hz ▸ hset.run hwait
  exact agrees_iff lib md5 hzrun hzbusy hpending.idle hpending.forced hopen

/-- `AT+UPDATEFIRMWARE="loboris.eu",0,n`, with the digit of `n`. -/
def forcing (digit : UInt8) : List UInt8 := CString.ascii "=\"loboris.eu\",0," ++ [digit, CR]

/-- After this command has set partition 1 of a flash of 1 MB. -/
def forcedOne : Tracked := (atReset oneMegabyte).next plainAt Md5.digest (.command (.setOptions (forcing 0x31)))

theorem forcedOne_facts : (updateParams plainAt (forcing 0x31)).map UpdateParams.fwN = some 1 ∧
    AnswersOk (oneMegabyte.execute plainAt Md5.digest (.setOptions (forcing 0x31))) oneMegabyte ∧
    forcedOne.app.crashed = false ∧ forcedOne.app.busy = false ∧ forcedOne.app.getRtcCurrFw = 0 ∧
    forcedOne.app.currType >>> 4 = 2 ∧ forcedOne.app.flashSizeMap = 2 := by
  decide +kernel

/-- Partition 1 of a flash of 1 MB. -/
theorem forced_agrees_iff_forcedOne :
    Agrees Md5.digest 1 forcedOne.app (forcedOne.app.execute plainAt Md5.digest (.update .ok)) ↔
      Forceable 1 forcedOne.app := by
  obtain ⟨hparams, hok, hrun, hbusy, -⟩ := forcedOne_facts
  obtain ⟨q, hq, hone⟩ := Option.map_eq_some_iff.mp hparams
  exact forced_agrees_iff plainAt Md5.digest (s := oneMegabyte) (by rintro u ⟨⟩) [] rfl rfl rfl hq hone hok []
    (fun a ha => nomatch ha) rfl hrun hbusy .ok rfl

example : Forceable 1 forcedOne.app := by
  obtain ⟨-, -, -, -, hfw, htype, hmap⟩ := forcedOne_facts
  exact ⟨by rw [hfw], Or.inl (by rw [htype]; decide), by rw [hmap]; decide⟩

/-- A flash of 4 MB with a 1024+1024 map, whose partition 0 runs. -/
def fourMegabytes : App :=
  App.atReset (burn [(BOOT_PARAM_ADDR + 168, [0x60])]) (fun i => if i = 4 then BOOT_FW_MAGIC else 0) 6

/-- After the command has set partition 2 of it. -/
def forcedTwo : Tracked := (atReset fourMegabytes).next plainAt Md5.digest (.command (.setOptions (forcing 0x32)))

theorem forcedTwo_facts :
    AnswersOk (fourMegabytes.execute plainAt Md5.digest (.setOptions (forcing 0x32))) fourMegabytes ∧
      (forcedTwo.app.execute plainAt Md5.digest (.update .ok)).upgradeFlashAddr = 0x201000 := by
  decide +kernel

/-- On this map partition 2 is written at the address of partition 4. -/
theorem not_forced_agrees :
    AnswersOk (fourMegabytes.execute plainAt Md5.digest (.setOptions (forcing 0x32))) fourMegabytes ∧
      (∃ u, (forcedTwo.app.execute plainAt Md5.digest (.update .ok)).upgrade = .live u) ∧
      ¬Agrees Md5.digest 2 forcedTwo.app (forcedTwo.app.execute plainAt Md5.digest (.update .ok)) := by
  obtain ⟨hok, haddr⟩ := forcedTwo_facts
  refine ⟨hok, ⟨_, rfl⟩, fun h => ?_⟩
  have htarget := h.target
  rw [haddr] at htarget
  exact absurd htarget (by decide)

end Tracked

end Esp8266At
