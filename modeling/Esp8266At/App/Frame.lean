import Esp8266At.App.StartSpec

/-!
# What the handlers keep

The part of the state by which the update code knows its session (`App.frame`), and what each function
does to it: the user callbacks leave it alone (`frame_callBack`), `at_ota_deinit` closes the session
(`atOtaDeinit_frame`), and every event leaves a session going on or closes it (`step_frame`).
-/

namespace Esp8266At

open ByteSpace NorFlash

/-- The session, its connections, and the parameters its callbacks read. -/
structure Frame where
  upgrade : UpgradePtr
  flag : UpgradeFlag
  timer : Option OtaTimer
  nextConn : ℕ
  type : OtaType
  flashAddr : UInt32
  flashMap : UInt8

/-- A session that has been closed: the flag stays only if the download is finished. -/
def Frame.closed (f : Frame) : Frame :=
  { f with upgrade := .null, flag := if f.flag = .finish then .finish else .idle, timer := none }

namespace App

variable {md5 : List UInt8 → Digest}

def frame (s : App) : Frame :=
  ⟨s.upgrade, s.upgradeFlag, s.otaTimer, s.nextConn, s.upgradeType, s.upgradeFlashAddr, s.upgradeFlashMap⟩

/-! ### The user callbacks -/

@[simp] theorem frame_print (s : App) (m : String) : (s.print m).frame = s.frame := rfl

@[simp] theorem frame_responseOk (s : App) : s.responseOk.frame = s.frame := rfl

@[simp] theorem frame_responseError (s : App) : s.responseError.frame = s.frame := rfl

@[simp] theorem frame_systemRestart (s : App) : s.systemRestart.frame = s.frame := rfl

@[simp] theorem frame_atLeaveSpecialState (s : App) : s.atLeaveSpecialState.frame = s.frame := rfl

@[simp] theorem frame_crash (s : App) : s.crash.frame = s.frame := rfl

@[simp] theorem frame_debug (s : App) (m : String) : (s.debug m).frame = s.frame := by
  obtain ⟨o, ho⟩ := s.debug_out m
  rw [ho]
  rfl

@[simp] theorem frame_eraseAt (s : App) (a : UInt32) : (s.eraseAt a).frame = s.frame := rfl

@[simp] theorem frame_spiFlashEraseSector (s : App) (sector : UInt32) :
    (s.spiFlashEraseSector sector).2.frame = s.frame := rfl

@[simp] theorem frame_spiFlashWrite (s : App) (a : UInt32) (data : List UInt8) :
    (s.spiFlashWrite a data).2.frame = s.frame := rfl

@[simp] theorem frame_zalloc (s : App) : s.zalloc.2.frame = s.frame := rfl

theorem Checked.frame {s t : App} {ops : List Op} {idx : List UInt32} (h : s.Checked ops idx t) :
    t.frame = s.frame := by
  obtain ⟨d, heap, out, bi, rfl, -⟩ := h
  rfl

@[simp] theorem frame_checkFirmware (s : App) (n : UInt8) : (checkFirmware md5 n s).2.frame = s.frame := by
  obtain ⟨ops, idx, h⟩ := checkFirmware_checked md5 s n
  exact h.frame

@[simp] theorem frame_firmwareReady (s : App) : s.firmwareReady.frame = s.frame := by
  simp only [firmwareReady]
  split_ifs <;> rfl

@[simp] theorem frame_bootloaderUpdated (s : App) : s.bootloaderUpdated.frame = s.frame := by
  simp only [bootloaderUpdated]
  split_ifs <;> simp

@[simp] theorem frame_otaUpdateCallBack (s : App) (result : Bool) :
    (s.otaUpdateCallBack md5 result).frame = s.frame := by
  unfold otaUpdateCallBack
  cases result with
  | false => rfl
  | true =>
    simp only [if_true]
    split_ifs <;> simp

variable (md5) in
@[simp] theorem frame_checkBootloader (s : App) (boot_buffer : List UInt8) :
    (checkBootloader md5 boot_buffer s).2.frame = s.frame := by
  unfold checkBootloader
  split_ifs <;> simp

@[simp] theorem frame_otaUpdateBootCallBack (s : App) (result : Bool) :
    (s.otaUpdateBootCallBack md5 result).frame = s.frame := by
  unfold otaUpdateBootCallBack
  cases result with
  | false => rfl
  | true =>
    cases s.upgradeCheckResponse with
    | none => rfl
    | some response =>
      have hcheck := frame_checkBootloader md5 (s.debug "Checking bootloader MD5 csum\r\n") response
      rw [frame_debug] at hcheck
      simp only
      generalize checkBootloader md5 response (s.debug "Checking bootloader MD5 csum\r\n") = r at hcheck
      obtain ⟨ok, t⟩ := r
      cases ok with
      | false => exact hcheck
      | true =>
        simp only
        split_ifs
        · exact hcheck
        set response' := (response.set 2 (t.upgradeFlashMap &&& 0x0F)).set 3 (t.upgradeFlashMap &&& 0xF0)
        have herase := frame_spiFlashEraseSector { t with upgradeCheckResponse := some response' } 0
        generalize spiFlashEraseSector { t with upgradeCheckResponse := some response' } 0 = r at herase
        obtain ⟨ok, v⟩ := r
        cases ok with
        | false => exact herase.trans hcheck
        | true =>
          have hwrite := v.frame_spiFlashWrite 0 (response'.take v.upgradeContentLen.toNat)
          simp only
          generalize v.spiFlashWrite 0 (response'.take v.upgradeContentLen.toNat) = r at hwrite
          obtain ⟨ok, w⟩ := r
          cases ok with
          | false => exact hwrite.trans (herase.trans hcheck)
          | true => exact (frame_bootloaderUpdated w).trans (hwrite.trans (herase.trans hcheck))

@[simp] theorem frame_checkVersion (s : App) (name old_ver : String) (echo : Bool) (response : List UInt8) :
    (s.checkVersion name old_ver echo response).frame = s.frame := by
  simp only [checkVersion]
  split_ifs <;> rfl

@[simp] theorem frame_checksumReceived (s : App) (name : String) (response : List UInt8) :
    (s.checksumReceived name response).frame = s.frame := rfl

@[simp] theorem frame_otaVerCheckMd5CallBack (s : App) (result : Bool) :
    (s.otaVerCheckMd5CallBack result).frame = s.frame := by
  unfold otaVerCheckMd5CallBack
  split <;> first | exact frame_checkVersion _ _ _ _ _ | rfl

@[simp] theorem frame_callBack (s : App) (callback : OtaCallback) (result : Bool) :
    (s.callBack md5 callback result).frame = s.frame := by
  cases callback
  · exact s.frame_otaUpdateCallBack result
  · exact s.frame_otaUpdateBootCallBack result
  · exact s.frame_otaVerCheckMd5CallBack result

/-! ### The end of a session -/

@[simp] theorem frame_prepareResponse (s : App) (u : UpgradeStatus) : (s.prepareResponse u).frame = s.frame := by
  simp only [prepareResponse]
  split_ifs
  · unfold zalloc
    cases s.heap 0 with
    | true => rfl
    | false => exact frame_debug _ _
  · rfl

theorem dropResponse_frame (s : App) (u : UpgradeStatus) :
    (s.dropResponse u).frame = { s.frame with timer := none } := by
  have hdebug : (({ s with otaTimer := none } : App).debug "OTA deinit\r\n").frame =
      { s.frame with timer := none } := frame_debug _ _
  unfold dropResponse
  simp only
  split_ifs
  · rw [frame_prepareResponse]
    exact hdebug
  · exact hdebug

theorem completion_frame (s : App) :
    s.completion.2.frame = { s.frame with flag := if s.upgradeFlag = .finish then .finish else .idle } := by
  unfold completion
  split_ifs with hflag
  · rw [frame_debug, ← hflag]
    rfl
  · exact frame_debug _ _

theorem cleanUp_frame (s : App) (u : UpgradeStatus) : (s.cleanUp u).2.frame = s.frame.closed := by
  have hdrop := s.dropResponse_frame u
  obtain ⟨o, ho⟩ := disconnectConn_out ({ s.dropResponse u with upgrade := .null } : App) u
  have hflag : (s.dropResponse u).upgradeFlag = s.upgradeFlag := congrArg Frame.flag hdrop
  unfold cleanUp
  rw [completion_frame, ho]
  show ({ (s.dropResponse u).frame with
          upgrade := .null, flag := if (s.dropResponse u).upgradeFlag = .finish then .finish else .idle } : Frame) = _
  rw [hdrop, hflag]
  rfl

/-- `at_ota_deinit` closes the session. -/
theorem atOtaDeinit_frame {s : App} {u : UpgradeStatus} (hlive : s.upgrade = .live u) :
    (s.atOtaDeinit md5).frame = s.frame.closed := by
  unfold atOtaDeinit
  rw [hlive]
  simp only [frame_callBack, cleanUp_frame]

/-! ### Received data -/

theorem writeData_frame (data : List UInt8) (u : UpgradeStatus) (s : App) :
    (writeData data u s).2.2.frame = s.frame ∧ (writeData data u s).2.1.conn = u.conn := by
  unfold writeData
  split_ifs with hzero hfull htype hover
  · exact ⟨rfl, rfl⟩
  · exact ⟨frame_debug _ _, rfl⟩
  · have herase := s.frame_spiFlashEraseSector (u.flashAddr / UInt32.ofNat SECTOR_SIZE)
    simp only
    generalize s.spiFlashEraseSector (u.flashAddr / UInt32.ofNat SECTOR_SIZE) = r at herase
    obtain ⟨ok, v⟩ := r
    cases ok with
    | false => exact ⟨(frame_debug _ _).trans herase, rfl⟩
    | true =>
      set full := u.buffer.val ++ data.take (SECTOR_SIZE - u.buffer.val.length)
      have hwrite := v.frame_spiFlashWrite u.flashAddr full
      simp only
      generalize v.spiFlashWrite u.flashAddr full = r at hwrite
      obtain ⟨ok, w⟩ := r
      cases ok with
      | false => exact ⟨(frame_debug _ _).trans (hwrite.trans herase), rfl⟩
      | true =>
        simp only
        split_ifs <;> exact ⟨hwrite.trans herase, rfl⟩
  · exact ⟨rfl, rfl⟩
  · exact ⟨rfl, rfl⟩

/-- What received data leaves of a session: it is there, on its connection, and its flag changes only
before `at_ota_deinit` is called. -/
def Received (f : Frame) (conn : Option ℕ) (r : Bool × App) : Prop :=
  ∃ u' flag timer, r.2.frame = { f with upgrade := .live u', flag := flag, timer := timer } ∧ u'.conn = conn ∧
    (r.1 = false → flag = f.flag)

/-- `s` differs from the frame `f` in the session and the timer at most. -/
def Near (f : Frame) (s : App) : Prop := ∃ upgrade timer, s.frame = { f with upgrade := upgrade, timer := timer }

variable {f : Frame} {conn : Option ℕ} {u u' : UpgradeStatus} {s : App}

theorem Near.debug (h : Near f s) (m : String) : Near f (s.debug m) := by
  obtain ⟨upgrade, timer, h⟩ := h
  exact ⟨upgrade, timer, (frame_debug s m).trans h⟩

theorem Near.of_eq {t : App} (h : Near f s) (ht : t.frame = s.frame) : Near f t := by
  obtain ⟨upgrade, timer, h⟩ := h
  exact ⟨upgrade, timer, ht.trans h⟩

theorem Near.stored (h : Near f s) (v : UpgradeStatus) (hconn : v.conn = conn) (b : Bool) :
    Received f conn (b, s.storeStatus v) := by
  obtain ⟨upgrade, timer, h⟩ := h
  refine ⟨v, f.flag, timer, ?_, hconn, fun _ => rfl⟩
  show ({ s.frame with upgrade := .live v } : Frame) = _
  rw [h]

theorem Near.downloadFinished (h : Near f s) (hconn : u'.conn = conn) : Received f conn (s.downloadFinished u') := by
  obtain ⟨upgrade, timer, h⟩ := h
  obtain ⟨o, ho⟩ := s.downloadFinished_out u'
  rw [ho]
  refine ⟨{ u' with error := .ok }, .finish, timer, ?_, hconn, (nomatch ·)⟩
  show ({ s.frame with flag := .finish, upgrade := .live { u' with error := .ok } } : Frame) = _
  rw [h]

theorem Near.receiveEnd (h : Near f s) (hconn : u'.conn = conn) (reading : Bool) :
    Received f conn (s.receiveEnd reading u') := by
  unfold App.receiveEnd
  split_ifs
  · have herase := s.frame_spiFlashEraseSector (u'.flashAddr / UInt32.ofNat SECTOR_SIZE)
    generalize s.spiFlashEraseSector (u'.flashAddr / UInt32.ofNat SECTOR_SIZE) = r at herase
    obtain ⟨ok, v⟩ := r
    cases ok with
    | false => exact (h.of_eq herase).stored { u' with error := .flashWriteError } hconn true
    | true =>
      have hwrite := v.frame_spiFlashWrite u'.flashAddr u'.buffer.val
      simp only
      generalize v.spiFlashWrite u'.flashAddr u'.buffer.val = r at hwrite
      obtain ⟨ok, w⟩ := r
      cases ok with
      | false => exact (h.of_eq (hwrite.trans herase)).stored { u' with error := .flashWriteError } hconn true
      | true => exact (h.of_eq (hwrite.trans herase)).downloadFinished hconn
  · exact h.downloadFinished hconn
  · exact (h.debug _).stored { u' with error := .espconnError } hconn true
  · obtain ⟨upgrade, timer, h⟩ := h
    refine Near.stored (s := { s with otaTimer := some .deinit }) ⟨upgrade, some .deinit, ?_⟩ _ hconn false
    show ({ s.frame with timer := some .deinit } : Frame) = _
    rw [h]

theorem Received.crash {t : App} (h : Received f conn (false, t)) : Received f conn (false, t.crash) := h

theorem Near.receiveNext (h : Near f s) (data : List UInt8) (reading : Bool) :
    Received f u.conn (s.receiveNext data reading u) := by
  obtain ⟨hframe, hconn⟩ := writeData_frame data { u with totalLen := u.totalLen + UInt32.ofNat data.length } s
  unfold App.receiveNext
  generalize writeData data { u with totalLen := u.totalLen + UInt32.ofNat data.length } s = r at hframe hconn
  obtain ⟨result, v, t⟩ := r
  have ht : Near f t := h.of_eq hframe
  cases result with
  | ok => exact ht.receiveEnd hconn reading
  | failed => exact ht.stored { v with error := .flashWriteError } hconn true
  | overrun => exact (ht.stored v hconn false).crash

theorem Near.receiveFirst (h : Near f s) (data : List UInt8) (reading : Bool) :
    Received f u.conn (s.receiveFirst data reading u) := by
  unfold App.receiveFirst
  cases responseHeader data with
  | none => exact (h.debug _).stored { u with error := .noValidResponse } rfl true
  | some header =>
    obtain ⟨content_len, content⟩ := header
    obtain ⟨hframe, hconn⟩ := writeData_frame content
      { u with totalLen := u.totalLen + UInt32.ofNat content.length } s
    simp only
    generalize writeData content { u with totalLen := u.totalLen + UInt32.ofNat content.length } s = r at hframe hconn
    obtain ⟨result, v, t⟩ := r
    have ht : Near f t := h.of_eq hframe
    cases result with
    | ok =>
      have hlen : Near f { t with upgradeContentLen := content_len } := ht
      simp only
      split_ifs
      · exact (hlen.debug _).stored { v with error := .fwToBig } hconn true
      · exact (hlen.debug _).receiveEnd hconn reading
    | failed => exact ht.stored v hconn true
    | overrun => exact (ht.stored v hconn false).crash

/-- A received chunk. -/
theorem receive_frame (hlive : s.upgrade = .live u) (data : Chunk) (reading : Bool) :
    Received s.frame u.conn (s.receive data reading) := by
  have hnear : Near s.frame { s with upgrade := .live u, otaTimer := none } := ⟨.live u, none, rfl⟩
  unfold receive
  rw [hlive]
  simp only
  split_ifs
  · exact hnear.receiveFirst data.val reading
  · exact hnear.receiveNext data.val reading

/-! ### Events -/

/-- The session of `f` goes on, or it has been closed. -/
inductive Goes (f : Frame) (conn : Option ℕ) (g : Frame) : Prop
  | on (u : UpgradeStatus) (timer : Option OtaTimer) (hconn : u.conn = conn)
      (h : g = { f with upgrade := .live u, timer := timer })
  | closed (flag : UpgradeFlag) (hflag : flag ≠ .start)
      (h : g = { f with upgrade := .null, flag := flag, timer := none })

theorem goes_atOtaDeinit {flag : UpgradeFlag} {timer : Option OtaTimer}
    (h : s.frame = { f with upgrade := .live u, flag := flag, timer := timer }) :
    Goes f conn (s.atOtaDeinit md5).frame := by
  rw [atOtaDeinit_frame (congrArg Frame.upgrade h), h]
  refine .closed (if flag = .finish then .finish else .idle) ?_ rfl
  split_ifs <;> decide

theorem goes_upgradeRecvcb (hlive : s.upgrade = .live u) (data : Chunk) (reading : Bool) :
    Goes s.frame u.conn (s.upgradeRecvcb md5 data reading).frame := by
  have hreceive := receive_frame hlive data reading
  unfold upgradeRecvcb
  generalize s.receive data reading = r at hreceive
  obtain ⟨b, t⟩ := r
  obtain ⟨u', flag, timer, hframe, hconn, hflag⟩ := hreceive
  cases b with
  | true => exact goes_atOtaDeinit hframe
  | false =>
    obtain rfl := hflag rfl
    exact .on u' timer hconn hframe

/-- The state of an application in which a session is in progress. -/
theorem session_self (hlive : s.upgrade = .live u) :
    s.session s.spi s.heap s.out u s.upgradeContentLen s.otaTimer = s := by
  rw [session, ← hlive]

theorem frame_session (d : Spi) (heap : ℕ → Bool) (out : List Output) (u : UpgradeStatus) (n : UInt32)
    (timer : Option OtaTimer) :
    (s.session d heap out u n timer).frame = { s.frame with upgrade := .live u, timer := timer } := rfl

variable (md5) in
/-- An event while a session is in progress. -/
theorem step_frame (hlive : s.upgrade = .live u) (e : NetEvent) : Goes s.frame u.conn (s.step md5 e).frame := by
  have stays : Goes s.frame u.conn s.frame := .on u s.otaTimer rfl (by rw [← hlive]; rfl)
  have ends : ∀ d heap out u' n timer,
      Goes s.frame u.conn ((s.session d heap out u' n timer).atOtaDeinit md5).frame :=
    fun d heap out u' n timer => goes_atOtaDeinit (frame_session d heap out u' n timer)
  have goesOn : ∀ d heap out n timer, Goes s.frame u.conn (s.session d heap out u n timer).frame :=
    fun d heap out n timer => .on u timer rfl (frame_session d heap out u n timer)
  unfold step
  split_ifs with hcrash
  · exact stays
  have hself := session_self hlive
  cases e with
  | resolved found =>
    cases found with
    | false =>
      obtain ⟨o, ho⟩ := upgradeResolved_failed md5 s s.spi s.heap s.out u s.otaTimer s.upgradeContentLen
      rw [hself] at ho
      simp only [ho]
      exact ends _ _ _ _ _ _
    | true =>
      obtain ⟨o, ho⟩ := upgradeResolved_found md5 s s.spi s.heap s.out u s.otaTimer s.upgradeContentLen
      rw [hself] at ho
      simp only [ho]
      split_ifs
      · exact stays
      · exact goesOn _ _ _ _ _
  | connected =>
    obtain ⟨heap, o, ⟨-, ho⟩ | ⟨-, ho⟩⟩ := upgradeConnectCb_session md5 s s.spi s.heap s.out u s.otaTimer s.upgradeContentLen
    · rw [hself] at ho
      simp only [ho]
      exact goesOn _ _ _ _ _
    · rw [hself] at ho
      simp only [ho]
      exact ends _ _ _ _ _ _
  | received data reading => exact goes_upgradeRecvcb hlive data reading
  | reconnect errType =>
    obtain ⟨o, ho⟩ := s.debug_out ("Connection error (" ++ toString errType ++ ")\r\n")
    obtain ⟨o', ho'⟩ := dropConnection_session md5 s s.spi s.heap o u s.otaTimer s.upgradeContentLen
    have hprinted : s.printed o = s.session s.spi s.heap o u s.upgradeContentLen s.otaTimer := by
      rw [session, ← hlive]
      rfl
    simp only [upgradeReconCb, ho, hprinted, ho']
    exact ends _ _ _ _ _ _
  | disconnected conn =>
    obtain ⟨o, ho⟩ := upgradeDisconcb_session md5 s s.spi s.heap s.out u s.otaTimer s.upgradeContentLen (some conn)
    rw [hself] at ho
    simp only [ho]
    split_ifs
    · exact ends _ _ _ _ _ _
    · exact goesOn _ _ _ _ _
  | timer =>
    cases htimer : s.otaTimer with
    | none => exact stays
    | some k =>
      have hdisarm : ({ s with otaTimer := none } : App) = s.session s.spi s.heap s.out u s.upgradeContentLen none := by
        rw [session, ← hlive]
      simp only [hdisarm]
      cases k with
      | deinit => exact ends _ _ _ _ _ _
      | connectTimeout =>
        obtain ⟨o, ho⟩ := (s.session s.spi s.heap s.out u s.upgradeContentLen none).debug_out "Connect timeout.\r\n"
        obtain ⟨o', ho'⟩ := dropConnection_session md5 s s.spi s.heap o u none s.upgradeContentLen
        have hprinted : (s.session s.spi s.heap s.out u s.upgradeContentLen none).printed o =
          s.session s.spi s.heap o u s.upgradeContentLen none := rfl
        simp only [connectTimeoutCb, ho, hprinted, ho']
        exact ends _ _ _ _ _ _

variable (md5) in
/-- An event while there is no session: at most the timer is disarmed, or the program crashes. -/
theorem step_null (hnull : s.upgrade = .null) (e : NetEvent) :
    (s.step md5 e).frame = s.frame ∨ (s.step md5 e).frame = { s.frame with timer := none } := by
  have dropped : ∀ t : App, t.upgrade = .null → t.dropConnection md5 = t := by
    intro t ht
    unfold dropConnection
    rw [ht]
  unfold step
  split_ifs with hcrash
  · exact Or.inl rfl
  cases e with
  | resolved found => cases found <;> exact Or.inl (by simp only [upgradeResolved, hnull, frame_crash])
  | connected => exact Or.inl (by simp only [upgradeConnectCb, hnull, frame_crash])
  | received data reading => exact Or.inl (by simp only [upgradeRecvcb, receive, hnull, frame_crash])
  | reconnect errType =>
    refine Or.inl ?_
    simp only [upgradeReconCb]
    rw [dropped _ ((debug_upgrade s _).trans hnull), frame_debug]
  | disconnected conn =>
    obtain ⟨o, ho⟩ := s.debug_out "OTA: Disconnected\r\n"
    have hprinted : (s.printed o).upgrade = .null := hnull
    refine Or.inr ?_
    simp only [upgradeDisconcb, ho, hprinted]
    simp only [frame, printed, hnull]
  | timer =>
    cases htimer : s.otaTimer with
    | none => exact Or.inl rfl
    | some k =>
      cases k with
      | deinit =>
        refine Or.inr ?_
        simp only [atOtaDeinit, hnull, frame_crash]
        simp only [frame, hnull]
      | connectTimeout =>
        refine Or.inr ?_
        have hdebug := debug_upgrade ({ s with otaTimer := none } : App) "Connect timeout.\r\n"
        simp only [connectTimeoutCb]
        rw [dropped _ (hdebug.trans hnull), frame_debug]
        rfl

end App

end Esp8266At
