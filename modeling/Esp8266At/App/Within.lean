import Esp8266At.App.Response

/-!
# What a session changes

An event of a session changes the flash, the heap, the output and the session itself (`Within`); the functions a
session ends with report, check and write (`Reported`), and only that for a checksum touches the downloaded one.
The options, the target and the type of a session are what they were when it was started, and flash operations are
only added (`Extends`).
-/

namespace Esp8266At

open ByteSpace NorFlash

namespace App

/-- `d'` is the device `d` after more operations. -/
def Extends (d d' : Spi) : Prop := d'.base = d.base ∧ d.log <+: d'.log

/-- `t` is a state of the session of `s`, which ends with `callback`. -/
def Within (callback : OtaCallback) (s t : App) : Prop :=
  ∃ d heap out u n timer flag crashed,
    t = { s.session d heap out u n timer with upgradeFlag := flag, crashed := crashed } ∧ u.callback = callback ∧
      Extends s.spi d

/-- `t` is `s` after its session has been cleaned up. -/
def Cleaned (s t : App) : Prop :=
  ∃ d heap out n response flag crashed,
    t = { s with spi := d, heap := heap, out := out, upgradeContentLen := n, otaTimer := none, upgrade := .null,
                 upgradeCheckResponse := response, upgradeFlag := flag, crashed := crashed } ∧ Extends s.spi d

/-- `t` is `s` after something has been checked, written and printed. -/
def Reported (s t : App) : Prop :=
  ∃ d heap out busy bi idx response crashed,
    t = { s with spi := d, heap := heap, out := out, busy := busy, bootInfo := bi, indices := idx
                 upgradeCheckResponse := response, crashed := crashed } ∧ Extends s.spi d

variable {md5 : List UInt8 → Digest} {callback : OtaCallback} {s t : App} {u : UpgradeStatus}

theorem Extends.self (d : Spi) : Extends d d := ⟨rfl, List.prefix_rfl⟩

theorem Extends.trans {d d' d'' : Spi} (h : Extends d d') (h' : Extends d' d'') : Extends d d'' :=
  ⟨h'.1.trans h.1, h.2.trans h'.2⟩

theorem extends_perform (d : Spi) (op : Op) : Extends d (d.perform op).2 := by
  unfold Device.perform
  split_ifs
  · exact ⟨rfl, List.prefix_append _ _⟩
  · exact ⟨rfl, List.prefix_rfl⟩

/-! ### Events -/

theorem within_self (hlive : s.upgrade = .live u) : Within u.callback s s :=
  ⟨s.spi, s.heap, s.out, u, s.upgradeContentLen, s.otaTimer, s.upgradeFlag, s.crashed, by
    rw [session, ← hlive], rfl, .self _⟩

namespace Within

theorem printed (h : Within callback s t) (o : List Output) : Within callback s (t.printed o) := by
  obtain ⟨d, heap, -, u, n, timer, flag, crashed, rfl, hcall, hd⟩ := h
  exact ⟨d, heap, o, u, n, timer, flag, crashed, rfl, hcall, hd⟩

theorem debug (h : Within callback s t) (m : String) : Within callback s (t.debug m) := by
  obtain ⟨o, ho⟩ := t.debug_out m
  rw [ho]
  exact h.printed o

theorem perform (h : Within callback s t) (op : Op) : Within callback s { t with spi := (t.spi.perform op).2 } := by
  obtain ⟨d, heap, out, u, n, timer, flag, crashed, rfl, hcall, hd⟩ := h
  exact ⟨_, heap, out, u, n, timer, flag, crashed, rfl, hcall, hd.trans (extends_perform d op)⟩

theorem stored (h : Within callback s t) {v : UpgradeStatus} (hv : v.callback = callback) :
    Within callback s (t.storeStatus v) := by
  obtain ⟨d, heap, out, u, n, timer, flag, crashed, rfl, -, hd⟩ := h
  exact ⟨d, heap, out, v, n, timer, flag, crashed, rfl, hv, hd⟩

theorem timed (h : Within callback s t) (timer : Option OtaTimer) : Within callback s { t with otaTimer := timer } := by
  obtain ⟨d, heap, out, u, n, -, flag, crashed, rfl, hcall, hd⟩ := h
  exact ⟨d, heap, out, u, n, timer, flag, crashed, rfl, hcall, hd⟩

theorem announced (h : Within callback s t) (n : UInt32) : Within callback s { t with upgradeContentLen := n } := by
  obtain ⟨d, heap, out, u, -, timer, flag, crashed, rfl, hcall, hd⟩ := h
  exact ⟨d, heap, out, u, n, timer, flag, crashed, rfl, hcall, hd⟩

theorem crash (h : Within callback s t) : Within callback s t.crash := by
  obtain ⟨d, heap, out, u, n, timer, flag, -, rfl, hcall, hd⟩ := h
  exact ⟨d, heap, out, u, n, timer, flag, true, rfl, hcall, hd⟩

theorem downloadFinished (h : Within callback s t) {v : UpgradeStatus} (hv : v.callback = callback) :
    Within callback s (t.downloadFinished v).2 := by
  obtain ⟨o, ho⟩ := t.downloadFinished_out v
  obtain ⟨d, heap, out, u, n, timer, flag, crashed, rfl, -, hd⟩ := h
  rw [ho]
  exact ⟨d, heap, o, { v with error := .ok }, n, timer, .finish, crashed, rfl, hv, hd⟩

theorem writeData (h : Within callback s t) {v : UpgradeStatus} (hv : v.callback = callback) (data : List UInt8) :
    (App.writeData data v t).2.1.callback = callback ∧ Within callback s (App.writeData data v t).2.2 := by
  unfold App.writeData
  split_ifs with hzero hfull htype hover
  · exact ⟨hv, h⟩
  · exact ⟨hv, h.debug _⟩
  · have herase : Within callback s (t.spiFlashEraseSector (v.flashAddr / UInt32.ofNat SECTOR_SIZE)).2 := h.perform _
    simp only
    generalize t.spiFlashEraseSector (v.flashAddr / UInt32.ofNat SECTOR_SIZE) = r at herase
    obtain ⟨ok, t₁⟩ := r
    cases ok with
    | false => exact ⟨hv, herase.debug _⟩
    | true =>
      set full := v.buffer.val ++ data.take (SECTOR_SIZE - v.buffer.val.length)
      have hwrite : Within callback s (t₁.spiFlashWrite v.flashAddr full).2 := herase.perform _
      simp only
      generalize t₁.spiFlashWrite v.flashAddr full = r at hwrite
      obtain ⟨ok, t₂⟩ := r
      cases ok with
      | false => exact ⟨hv, hwrite.debug _⟩
      | true =>
        simp only
        split_ifs <;> exact ⟨hv, hwrite⟩
  · exact ⟨hv, h⟩
  · exact ⟨hv, h⟩

theorem receiveEnd (h : Within callback s t) {v : UpgradeStatus} (hv : v.callback = callback) (reading : Bool) :
    Within callback s (t.receiveEnd reading v).2 := by
  unfold App.receiveEnd
  split_ifs
  · have herase : Within callback s (t.spiFlashEraseSector (v.flashAddr / UInt32.ofNat SECTOR_SIZE)).2 := h.perform _
    generalize t.spiFlashEraseSector (v.flashAddr / UInt32.ofNat SECTOR_SIZE) = r at herase
    obtain ⟨ok, t₁⟩ := r
    cases ok with
    | false => exact herase.stored (v := { v with error := .flashWriteError }) hv
    | true =>
      have hwrite : Within callback s (t₁.spiFlashWrite v.flashAddr v.buffer.val).2 := herase.perform _
      simp only
      generalize t₁.spiFlashWrite v.flashAddr v.buffer.val = r at hwrite
      obtain ⟨ok, t₂⟩ := r
      cases ok with
      | false => exact hwrite.stored (v := { v with error := .flashWriteError }) hv
      | true => exact hwrite.downloadFinished hv
  · exact h.downloadFinished hv
  · exact (h.debug _).stored (v := { v with error := .espconnError }) hv
  · exact (h.timed _).stored hv

theorem receiveFirst (h : Within callback s t) {v : UpgradeStatus} (hv : v.callback = callback) (data : List UInt8)
    (reading : Bool) : Within callback s (t.receiveFirst data reading v).2 := by
  unfold App.receiveFirst
  cases responseHeader data with
  | none => exact (h.debug _).stored (v := { v with error := .noValidResponse }) hv
  | some header =>
    obtain ⟨content_len, content⟩ := header
    obtain ⟨hcall, hwrite⟩ := h.writeData (v := { v with totalLen := v.totalLen + UInt32.ofNat content.length }) hv content
    simp only
    generalize App.writeData content { v with totalLen := v.totalLen + UInt32.ofNat content.length } t = r at hcall hwrite
    obtain ⟨result, v', t'⟩ := r
    cases result with
    | ok =>
      simp only
      split_ifs
      · exact ((hwrite.announced content_len).debug _).stored (v := { v' with error := .fwToBig }) hcall
      · exact ((hwrite.announced content_len).debug _).receiveEnd hcall reading
    | failed => exact hwrite.stored hcall
    | overrun => exact (hwrite.stored hcall).crash

theorem receiveNext (h : Within callback s t) {v : UpgradeStatus} (hv : v.callback = callback) (data : List UInt8)
    (reading : Bool) : Within callback s (t.receiveNext data reading v).2 := by
  obtain ⟨hcall, hwrite⟩ := h.writeData (v := { v with totalLen := v.totalLen + UInt32.ofNat data.length }) hv data
  unfold App.receiveNext
  generalize App.writeData data { v with totalLen := v.totalLen + UInt32.ofNat data.length } t = r at hcall hwrite
  obtain ⟨result, v', t'⟩ := r
  cases result with
  | ok => exact hwrite.receiveEnd hcall reading
  | failed => exact hwrite.stored (v := { v' with error := .flashWriteError }) hcall
  | overrun => exact (hwrite.stored hcall).crash

end Within

theorem receive_within (hlive : s.upgrade = .live u) (data : Chunk) (reading : Bool) :
    Within u.callback s (s.receive data reading).2 := by
  have hself := (within_self hlive).timed none
  rw [receive_live_eq hlive]
  have heq : s.session s.spi s.heap s.out u s.upgradeContentLen none = { s with otaTimer := none } := by
    rw [session, ← hlive]
  rw [heq]
  split_ifs
  · exact hself.receiveFirst rfl data.val reading
  · exact hself.receiveNext rfl data.val reading

theorem Idled.within (h : Idled u s t) : Within u.callback s t := by
  obtain ⟨heap, out, timer, conn, error, rfl⟩ := h
  exact ⟨s.spi, heap, out, { u with conn := conn, error := error }, s.upgradeContentLen, timer, s.upgradeFlag, s.crashed,
    rfl, rfl, .self _⟩

theorem quiet_or_received (e : NetEvent) : e.Quiet ∨ ∃ data reading, e = .received data reading := by
  by_contra hnot
  rw [not_or, not_exists] at hnot
  exact hnot.1 fun data reading heq => hnot.2 data ⟨reading, heq⟩

/-- The state in which `at_ota_deinit` is called. -/
theorem ending_within {e : NetEvent} (hlive : s.upgrade = .live u) (h : s.ending e = some t) :
    Within u.callback s t := by
  obtain ⟨-, v, hv, hend⟩ := ending_some h
  obtain rfl : u = v := UpgradePtr.live.inj (hlive.symm.trans hv)
  rcases quiet_or_received e with he | ⟨data, reading, rfl⟩
  · exact (ending_idled hlive he hend).within
  · simp only [endingOf] at hend
    split_ifs at hend
    obtain rfl := Option.some.inj hend
    exact receive_within hlive data reading

variable (md5) in
/-- An event that does not end the session. -/
theorem step_within {e : NetEvent} (hlive : s.upgrade = .live u) (h : s.ending e = none) :
    Within u.callback s (s.step md5 e) := by
  rcases quiet_or_received e with he | ⟨data, reading, rfl⟩
  · obtain ⟨t, crashed, ht, hstep⟩ := step_quiet md5 hlive he h
    obtain ⟨heap, out, timer, conn, error, rfl⟩ := ht
    rw [hstep]
    exact ⟨s.spi, heap, out, { u with conn := conn, error := error }, s.upgradeContentLen, timer, s.upgradeFlag, crashed,
      rfl, rfl, .self _⟩
  · unfold step
    split_ifs with hcrash
    · exact within_self hlive
    have hreceive := receive_within hlive data reading
    rw [ending_live hlive (by simpa using hcrash)] at h
    simp only [endingOf] at h
    simp only [upgradeRecvcb]
    generalize s.receive data reading = r at h hreceive
    obtain ⟨b, t⟩ := r
    cases b with
    | true => cases h
    | false => exact hreceive

/-- The state in which the function of a session is called. -/
theorem calls_cleaned {e : NetEvent} {result : Bool} {c : App} (hlive : s.upgrade = .live u)
    (h : s.calls e = some (callback, result, c)) : callback = u.callback ∧ Cleaned s c := by
  obtain ⟨t, v, hend, hv, rfl, hclean⟩ := calls_cleanUp h
  obtain ⟨d, heap, out, w, n, timer, flag, crashed, rfl, hcall, hd⟩ := ending_within hlive hend
  obtain rfl : w = v := UpgradePtr.live.inj hv
  obtain ⟨heap', out', heq⟩ :=
    cleanUp_eq w { s.session d heap out w n timer with upgradeFlag := flag, crashed := crashed }
  rw [heq] at hclean
  obtain ⟨-, rfl⟩ := Prod.mk.inj hclean
  exact ⟨hcall, d, heap', out', n, _, _, crashed, rfl, hd⟩

/-! ### The functions a session ends with -/

namespace Reported

theorem self (s : App) : Reported s s :=
  ⟨s.spi, s.heap, s.out, s.busy, s.bootInfo, s.indices, s.upgradeCheckResponse, s.crashed, rfl, .self _⟩

theorem printed (h : Reported s t) (o : List Output) : Reported s (t.printed o) := by
  obtain ⟨d, heap, -, busy, bi, idx, response, crashed, rfl, hd⟩ := h
  exact ⟨d, heap, o, busy, bi, idx, response, crashed, rfl, hd⟩

theorem debug (h : Reported s t) (m : String) : Reported s (t.debug m) := by
  obtain ⟨o, ho⟩ := t.debug_out m
  rw [ho]
  exact h.printed o

theorem print (h : Reported s t) (m : String) : Reported s (t.print m) := h.printed _

theorem ok (h : Reported s t) : Reported s t.responseOk := h.printed _

theorem error (h : Reported s t) : Reported s t.responseError := h.printed _

theorem restart (h : Reported s t) : Reported s t.systemRestart := h.printed _

theorem leave (h : Reported s t) : Reported s t.atLeaveSpecialState := by
  obtain ⟨d, heap, out, -, bi, idx, response, crashed, rfl, hd⟩ := h
  exact ⟨d, heap, out, false, bi, idx, response, crashed, rfl, hd⟩

theorem perform (h : Reported s t) (op : Op) : Reported s { t with spi := (t.spi.perform op).2 } := by
  obtain ⟨d, heap, out, busy, bi, idx, response, crashed, rfl, hd⟩ := h
  exact ⟨_, heap, out, busy, bi, idx, response, crashed, rfl, hd.trans (extends_perform d op)⟩

theorem answered (h : Reported s t) (response : Option (List UInt8)) :
    Reported s { t with upgradeCheckResponse := response } := by
  obtain ⟨d, heap, out, busy, bi, idx, -, crashed, rfl, hd⟩ := h
  exact ⟨d, heap, out, busy, bi, idx, response, crashed, rfl, hd⟩

theorem crash (h : Reported s t) : Reported s t.crash := by
  obtain ⟨d, heap, out, busy, bi, idx, response, -, rfl, hd⟩ := h
  exact ⟨d, heap, out, busy, bi, idx, response, true, rfl, hd⟩

variable (md5) in
theorem checkFirmware (h : Reported s t) (n : UInt8) : Reported s (App.checkFirmware md5 n t).2 := by
  obtain ⟨d, heap, out, busy, bi, idx, response, crashed, rfl, hd⟩ := h
  obtain ⟨ops, idx', d', heap', out', bi', heq, hbase, hlog⟩ := checkFirmware_checked md5 _ n
  rw [heq]
  exact ⟨d', heap', out', busy, bi', _, response, crashed, rfl, hd.trans ⟨hbase, hlog ▸ List.prefix_append _ _⟩⟩

theorem eraseAts (as : List UInt32) (h : Reported s t) : Reported s (as.foldl eraseAt t) := by
  induction as generalizing t with
  | nil => exact h
  | cons a as ih => exact ih (h.perform _)

theorem firmwareReady (h : Reported s t) : Reported s t.firmwareReady := by
  simp only [App.firmwareReady]
  split_ifs
  · exact ((h.print _).ok.print _).restart
  · exact (h.print _).ok

theorem bootloaderUpdated (h : Reported s t) : Reported s t.bootloaderUpdated := by
  have hok := (h.print "+UPDATEBOOT:1\r\n").leave.ok
  simp only [App.bootloaderUpdated]
  split_ifs
  · exact ((eraseAts _ (hok.perform _)).print _).restart
  · exact hok

variable (md5) in
theorem otaUpdateCallBack (h : Reported s t) (result : Bool) : Reported s (t.otaUpdateCallBack md5 result) := by
  unfold App.otaUpdateCallBack
  cases result with
  | false => exact (h.print _).leave.error
  | true =>
    have hcheck := (h.debug ("Checking firmware " ++ toString (fwNumber t.upgradeFlashAddr).toNat ++ " at 0x" ++
      CString.hex 6 t.upgradeFlashAddr.toNat ++ "\r\n")).checkFirmware md5 (fwNumber t.upgradeFlashAddr).toUInt8
    simp only [if_true]
    split_ifs
    · exact hcheck.leave.firmwareReady
    · exact (hcheck.leave.print _).error

theorem failedBoot (h : Reported s t) :
    Reported s (t.print "+UPDATEBOOT:0\r\n").atLeaveSpecialState.responseError :=
  (h.print _).leave.error

variable (md5) in
theorem checkBootloader (h : Reported s t) (response : List UInt8) :
    Reported s (App.checkBootloader md5 response t).2 := by
  unfold App.checkBootloader
  split_ifs
  · exact h
  · exact h.debug _
  · exact h.debug _

variable (md5) in
theorem otaUpdateBootCallBack (h : Reported s t) (result : Bool) : Reported s (t.otaUpdateBootCallBack md5 result) := by
  unfold App.otaUpdateBootCallBack
  cases result with
  | false => exact h.failedBoot
  | true =>
    cases t.upgradeCheckResponse with
    | none => exact h.failedBoot
    | some response =>
      have hcheck := (h.debug "Checking bootloader MD5 csum\r\n").checkBootloader md5 response
      simp only
      generalize App.checkBootloader md5 response (t.debug "Checking bootloader MD5 csum\r\n") = r at hcheck
      obtain ⟨ok, t₁⟩ := r
      cases ok with
      | false => exact hcheck.failedBoot
      | true =>
        simp only
        split_ifs
        · exact hcheck.crash
        set response' := (response.set 2 (t₁.upgradeFlashMap &&& 0x0F)).set 3 (t₁.upgradeFlashMap &&& 0xF0)
        have herase : Reported s (spiFlashEraseSector { t₁ with upgradeCheckResponse := some response' } 0).2 :=
          (hcheck.answered (some response')).perform _
        generalize spiFlashEraseSector { t₁ with upgradeCheckResponse := some response' } 0 = r at herase
        obtain ⟨ok, t₂⟩ := r
        cases ok with
        | false => exact (herase.print _).failedBoot
        | true =>
          have hwrite : Reported s (t₂.spiFlashWrite 0 (response'.take t₂.upgradeContentLen.toNat)).2 := herase.perform _
          simp only
          generalize t₂.spiFlashWrite 0 (response'.take t₂.upgradeContentLen.toNat) = r at hwrite
          obtain ⟨ok, t₃⟩ := r
          cases ok with
          | false => exact (hwrite.print _).failedBoot
          | true => exact hwrite.bootloaderUpdated

theorem checkVersion (h : Reported s t) (name old_ver : String) (echo : Bool) (response : List UInt8) :
    Reported s (t.checkVersion name old_ver echo response) := by
  simp only [App.checkVersion]
  by_cases hline : ((CString.text response).takeWhile (· ≠ 0x0D)).length < CString.strlen response ∧
      ((CString.text response).takeWhile (· ≠ 0x0D)).length = old_ver.length
  · rw [if_pos hline]
    cases echo with
    | true => exact (((h.print _).print _).answered none).leave.ok
    | false => exact ((h.print _).answered none).leave.ok
  · rw [if_neg hline]
    exact (((h.print _).answered none).print _).leave.error

end Reported

/-- `OtaVerCheck_MD5_CallBack` for a checksum that has been received. -/
theorem otaVerCheckMd5CallBack_received (htype : s.upgradeType = .md5 ∨ s.upgradeType = .md5Boot) {response : List UInt8}
    (hresponse : s.upgradeCheckResponse = some response) : ∃ o, s.otaVerCheckMd5CallBack true =
      { s with updateMd5 := response.take 32 ++ List.replicate 4 0, out := o, busy := false } := by
  have heq : ∃ name, s.otaVerCheckMd5CallBack true = s.checksumReceived name response := by
    unfold otaVerCheckMd5CallBack
    rw [hresponse]
    rcases htype with htype | htype
    · exact ⟨"UPDATEGETCSUM", by simp only [htype]⟩
    · exact ⟨"UPDATEGETCSUMBOOT", by simp only [htype]⟩
  obtain ⟨name, heq⟩ := heq
  exact ⟨_, heq⟩

/-- `OtaVerCheck_MD5_CallBack` for a version. -/
theorem otaVerCheckMd5CallBack_version (htype : s.upgradeType ≠ .md5 ∧ s.upgradeType ≠ .md5Boot) (result : Bool)
    (hsession : s.upgradeType ≠ .upgrade ∧ s.upgradeType ≠ .upgBoot) : Reported s (s.otaVerCheckMd5CallBack result) := by
  have hself := Reported.self s
  unfold otaVerCheckMd5CallBack
  cases htype' : s.upgradeType with
  | upgrade => exact absurd htype' hsession.1
  | upgBoot => exact absurd htype' hsession.2
  | md5 => exact absurd htype' htype.1
  | md5Boot => exact absurd htype' htype.2
  | verCheck =>
    cases result with
    | false => exact (hself.print _).leave.error
    | true => cases s.upgradeCheckResponse with
      | none => exact (hself.print _).leave.error
      | some response => exact hself.checkVersion _ _ _ response
  | verCheckBoot =>
    cases result with
    | false => exact (hself.print _).leave.error
    | true => cases s.upgradeCheckResponse with
      | none => exact (hself.print _).leave.error
      | some response => exact hself.checkVersion _ _ _ response

end App

end Esp8266At
