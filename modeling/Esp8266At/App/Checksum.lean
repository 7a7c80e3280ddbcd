import Esp8266At.App.Tracked
import Esp8266At.Lib.Md5

/-!
# The downloaded checksum

`check_firmware` compares the digest of an image with a downloaded checksum if there is one, which it takes from
the length of a C string. A checksum binds, whatever commands and sessions come between its download and the
check, in every run in which no zero byte is downloaded for one (`checksum_binds`).
-/

namespace Esp8266At

open NorFlash Machine

/-- The state in which an event calls `check_firmware`. -/
def App.checking (e : NetEvent) (s : App) : Option App :=
  match s.calls e with
  | some (.update, true, c) =>
    some (c.debug ("Checking firmware " ++ toString (fwNumber c.upgradeFlashAddr).toNat ++ " at 0x" ++
      CString.hex 6 c.upgradeFlashAddr.toNat ++ "\r\n"))
  | _ => none

namespace Tracked

/-- If `check_firmware` writes, the image has the checksum in force. -/
def Binds (md5 : List UInt8 → Digest) (a : UpdateAction) (x : Tracked) : Prop :=
  ∀ e c w, a = .event e → x.app.checking e = some c → x.checksum = some w →
    (App.checkFirmware md5 (App.fwNumber c.upgradeFlashAddr).toUInt8 c).2.spi.log ≠ c.spi.log →
    App.digestText (md5 (Image.bytes c.spi.flash c.upgradeFlashAddr)) = w

/-- What is downloaded for a checksum has no zero byte. -/
def TextChecksum (a : UpdateAction) (x : Tracked) : Prop :=
  ∀ e, a = .event e → x.app.checksumAnswered e = true → 0 ∉ responseBody (x.chunks ++ received [e])

/-- The checksum in force is the one the application holds, and a download of another has cleared it. -/
structure Bound (x : Tracked) : Prop where
  sessions : x.Sessions
  held : ∀ w, x.checksum = some w → x.app.updateMd5 = w ++ List.replicate 4 0 ∧ w.length = 32 ∧ 0 ∉ w
  pending : ∀ u, x.app.upgrade = .live u → x.app.upgradeType = .md5 ∨ x.app.upgradeType = .md5Boot → x.checksum = none

variable {lib : LibAt} {md5 : List UInt8 → Digest} {x y : Tracked} {a : UpdateAction}

open App

theorem text_of_not_mem {w : List UInt8} (h : 0 ∉ w) (n : ℕ) : CString.text (w ++ List.replicate (n + 1) 0) = w := by
  unfold CString.text
  rw [List.takeWhile_append_of_pos]
  · simp [List.replicate_succ]
  · intro b hb
    have hne : b ≠ 0 := fun h0 => h (h0 ▸ hb)
    simpa using hne

theorem reported_upgrade {s : App} (callback : OtaCallback) (result : Bool) :
    (s.callBack md5 callback result).upgrade = s.upgrade := congrArg Frame.upgrade (frame_callBack s callback result)

/-- The session of a checksum or a version, when it ends. -/
theorem Sessions.collecting (h : x.Sessions) {u : UpgradeStatus} (hlive : x.app.upgrade = .live u)
    (hrun : x.app.crashed = false) (hcall : u.callback ≠ .update) : x.Collecting u := by
  rcases h with hcrash | h
  · rw [hcrash] at hrun
    cases hrun
  · refine (h u hlive).resolve_left fun hup => hcall ?_
    exact hup.frame.2.2.2 u hlive

theorem calls_running {s c : App} {e : NetEvent} {callback : OtaCallback} {result : Bool}
    (h : s.calls e = some (callback, result, c)) : s.crashed = false := by
  obtain ⟨t, u, hend, -⟩ := calls_cleanUp h
  exact (ending_some hend).1

/-- A download that is answered. -/
theorem answered {e : NetEvent} {u : UpgradeStatus} {result : Bool} {c : App}
    (hcalls : x.app.calls e = some (u.callback, result, c)) (h : x.app.checksumAnswered e = true) :
    u.callback = .verCheckMd5 ∧ result = true ∧ c.upgradeType = .md5 ∧ ∃ r, c.upgradeCheckResponse = some r := by
  unfold checksumAnswered at h
  rw [hcalls] at h
  cases hcall : u.callback with
  | update | updateBoot =>
    rw [hcall] at h
    cases h
  | verCheckMd5 =>
    cases result with
    | false =>
      rw [hcall] at h
      cases h
    | true =>
      rw [hcall] at h
      obtain ⟨htype, hsome⟩ := of_decide_eq_true h
      exact ⟨rfl, rfl, htype, Option.isSome_iff_exists.mp hsome⟩

/-- The end of a session: a checksum that is answered is the one the application holds from then on. -/
theorem bound_ends (h : x.Bound) {e : NetEvent} {u : UpgradeStatus} (hlive : x.app.upgrade = .live u) {result : Bool}
    {c : App} (hcalls : x.app.calls e = some (u.callback, result, c)) (hc : Cleaned x.app c)
    (htext : TextChecksum (.event e) x) {w : List UInt8}
    (hw : (if x.app.checksumAnswered e then some (responseBody (x.chunks ++ received [e])) else x.checksum) = some w) :
    (c.callBack md5 u.callback result).updateMd5 = w ++ List.replicate 4 0 ∧ w.length = 32 ∧ 0 ∉ w := by
  have hrun := calls_running hcalls
  have hmd5 : c.updateMd5 = x.app.updateMd5 ∧ c.upgradeType = x.app.upgradeType := by
    obtain ⟨d, heap, out, n, response, flag, crashed, rfl, -⟩ := hc
    exact ⟨rfl, rfl⟩
  by_cases hans : x.app.checksumAnswered e = true
  · rw [if_pos hans] at hw
    obtain rfl := Option.some.inj hw
    obtain ⟨hcall, rfl, htype, r, hr⟩ := answered hcalls hans
    have hcol := h.sessions.collecting hlive hrun (by rw [hcall]; decide)
    obtain ⟨hresp, hlen, hok⟩ := hcol.handed hlive hcalls hr
    have h32 : c.upgradeContentLen = 32 := by
      by_contra hne
      exact hok (Or.inr (Or.inr (Or.inr (Or.inr ⟨Or.inl htype, hne⟩))))
    have hbody : (responseBody (x.chunks ++ received [e])).length = 32 := by
      rw [hlen, h32]
      rfl
    obtain ⟨o, ho⟩ := otaVerCheckMd5CallBack_received (Or.inl htype) hr
    refine ⟨?_, hbody, htext e rfl hans⟩
    rw [hcall]
    simp only [callBack, ho]
    rw [hresp, List.take_append_of_le_length hbody.ge, ← hbody, List.take_length]
  · rw [if_neg hans] at hw
    have hheld := h.held w hw
    rw [← hmd5.1] at hheld
    refine ⟨?_, hheld.2⟩
    rw [← hheld.1]
    -- the session is not one for a checksum: its start would have cleared the one in force
    have hnot : ¬(x.app.upgradeType = .md5 ∨ x.app.upgradeType = .md5Boot) := by
      intro htype
      rw [h.pending u hlive htype] at hw
      cases hw
    rw [← hmd5.2, not_or] at hnot
    cases hcall : u.callback with
    | update =>
      obtain ⟨_, _, _, _, _, _, _, _, heq, -⟩ := (Reported.self c).otaUpdateCallBack md5 result
      simp only [callBack, heq]
    | updateBoot =>
      obtain ⟨_, _, _, _, _, _, _, _, heq, -⟩ := (Reported.self c).otaUpdateBootCallBack md5 result
      simp only [callBack, heq]
    | verCheckMd5 =>
      have hcol := h.sessions.collecting hlive hrun (by rw [hcall]; decide)
      have hboot : x.app.upgradeType ≠ .upgBoot := by
        intro htype
        have := hcol.callback
        rw [hcall, htype] at this
        cases this
      obtain ⟨_, _, _, _, _, _, _, _, heq, -⟩ :=
        otaVerCheckMd5CallBack_version hnot result (hmd5.2 ▸ ⟨hcol.type, hboot⟩)
      simp only [callBack, heq]

/-- A command that downloads no checksum leaves the one in force. -/
theorem held_preparing (h : x.Bound) {c : UpdateCommand} {type : OtaType} {dns : DnsResult}
    (hc : c.starts = some (type, dns)) {w : List UInt8} (hw : (if c.clears lib then none else x.checksum) = some w) :
    (x.app.preparing type).updateMd5 = w ++ List.replicate 4 0 ∧ w.length = 32 ∧ 0 ∉ w := by
  by_cases hclears : c.clears lib = true
  · rw [if_pos hclears] at hw
    cases hw
  · rw [if_neg hclears] at hw
    have hmd5 : (x.app.preparing type).updateMd5 = x.app.updateMd5 := if_neg (mt (clears_of_starts hc).mpr hclears)
    rw [hmd5]
    exact h.held w hw

/-- Every action keeps the checksum bound. -/
theorem bound_next (h : x.Bound) (a : UpdateAction) (htext : TextChecksum a x) : (x.next lib md5 a).Bound := by
  have hsessions := sessions_next lib md5 h.sessions a
  have hdoes := does_next lib md5 x a
  generalize x.next lib md5 a = y at hsessions hdoes
  refine ⟨hsessions, ?_, ?_⟩
  · intro w hw
    cases hdoes with
    | ignored => exact h.held w hw
    | set c hc hrun hbusy o rtc out debug =>
      by_cases hclears : c.clears lib = true
      · simp [hclears] at hw
      · simp only [hclears] at hw ⊢
        exact h.held w hw
    | starts c type dns hc hrun hbusy heap out timer => exact held_preparing h hc hw
    | refused c type dns hc hrun hbusy t ht =>
      show t.updateMd5 = _ ∧ _
      rw [ht.md5]
      exact held_preparing h hc hw
    | idles e hnot out timer crashed => exact h.held w hw
    | goesOn e u hlive hend t ht =>
      obtain ⟨d, heap, out, v, n, timer, flag, crashed, rfl, -, -⟩ := ht
      exact h.held w hw
    | ends e u hlive result c hcalls hc => exact bound_ends h hlive hcalls hc htext hw
  · intro v hv htype
    cases hdoes with
    | ignored => exact h.pending v hv htype
    | set c hc hrun hbusy o rtc out debug => exact absurd hv (h.sessions.idle hrun hbusy v)
    | starts c type dns hc hrun hbusy heap out timer => exact if_pos ((clears_of_starts hc).mpr htype)
    | refused c type dns hc hrun hbusy t ht =>
      have hup : t.upgrade = .live v := hv
      obtain h' | h' | h' := ht.upgrade
      · exact absurd (h'.symm.trans hup) (h.sessions.idle hrun hbusy v)
      · rw [h'] at hup
        cases hup
      · rw [h'] at hup
        cases hup
    | idles e hnot out timer crashed => exact absurd hv (hnot v)
    | goesOn e u hlive hend t ht =>
      obtain ⟨d, heap, out, v, n, timer, flag, crashed, rfl, -, -⟩ := ht
      exact h.pending u hlive htype
    | ends e u hlive result c hcalls hc =>
      obtain ⟨d, heap, out, n, response, flag, crashed, rfl, -⟩ := hc
      rw [reported_upgrade] at hv
      cases hv

/-- A checksum that is bound binds. -/
theorem binds_of_bound (h : x.Bound) (a : UpdateAction) : Binds md5 a x := by
  rintro e c w - hcheck hw hlog
  obtain ⟨hmd5, hlen, hzero⟩ := h.held w hw
  -- the state in which `check_firmware` is called holds the same checksum
  have hsame : c.updateMd5 = x.app.updateMd5 := by
    unfold checking at hcheck
    cases hcalls : x.app.calls e with
    | none =>
      rw [hcalls] at hcheck
      cases hcheck
    | some r =>
      obtain ⟨callback, result, c₀⟩ := r
      obtain ⟨t, u, hend, -⟩ := calls_cleanUp hcalls
      obtain ⟨-, v, hlive, -⟩ := ending_some hend
      obtain ⟨-, d, heap, out, n, response, flag, crashed, hc, -⟩ := calls_cleaned hlive hcalls
      rw [hcalls] at hcheck
      cases callback with
      | updateBoot | verCheckMd5 => cases hcheck
      | update =>
        cases result with
        | false => cases hcheck
        | true =>
          obtain rfl := Option.some.inj hcheck
          obtain ⟨o, ho⟩ := c₀.debug_out ("Checking firmware " ++ toString (fwNumber c₀.upgradeFlashAddr).toNat ++
            " at 0x" ++ CString.hex 6 c₀.upgradeFlashAddr.toNat ++ "\r\n")
          rw [ho, hc]
          rfl
  obtain ⟨hno, hyes⟩ := checkFirmware_spec md5 c (fwNumber c.upgradeFlashAddr).toUInt8
  by_cases hchecks : c.Checks md5
  · have hok := hchecks.2.2.2.2.1
    have htext : CString.strlen c.updateMd5 = 32 := by
      rw [hsame, hmd5, CString.strlen, text_of_not_mem hzero 3, hlen]
    have htake : c.updateMd5.take 32 = w := by
      rw [hsame, hmd5, List.take_append_of_le_length hlen.ge, ← hlen, List.take_length]
    by_contra hne
    exact hok ⟨htext, fun heq => hne (heq.symm.trans htake)⟩
  · obtain ⟨t, ht, hc⟩ := hno hchecks
    refine absurd ?_ hlog
    rw [ht, hc.log, List.append_nil]

variable (lib md5) in
/-- **A downloaded checksum binds**, in every run in which no checksum has a zero byte. -/
theorem checksum_binds {s : App} (hs : ∀ u, s.upgrade ≠ .live u) (actions : List UpdateAction)
    (h : Along (next lib md5) TextChecksum actions (atReset s)) :
    Along (next lib md5) (Binds md5) actions (atReset s) := by
  refine h.of_invariant (I := Bound) (fun a x hx ha => bound_next hx a ha) (fun a x hx _ => binds_of_bound hx a) ?_
  refine ⟨sessions_atReset hs, fun w hw => ?_, fun u _ _ => rfl⟩
  cases hw

theorem take_chunk (data : List UInt8) : (data.take 0xFFFF).length < 2 ^ 16 := by
  rw [List.length_take]
  omega

/-- A valid reply with this body, in one chunk. -/
def reply (length : String) (body : List UInt8) : NetEvent :=
  .received ⟨(CString.ascii ("HTTP/1.0 200 OK\r\nContent-Length: " ++ length ++ "\r\n\r\n") ++ body).take 0xFFFF,
    take_chunk _⟩ true

/-- A checksum download and an update. -/
def download (checksum : List UInt8) : List UpdateAction :=
  [.command (.getChecksum .ok), .event (reply "32" checksum), .command (.update .ok)]

/-- A flash of 1 MB, whose partition 0 runs. -/
def oneMegabyte : App :=
  App.atReset (burn [(BOOT_PARAM_ADDR + 168, [0x20])]) (fun i => if i = 4 then BOOT_FW_MAGIC else 0) 2

def updatingWith (checksum : List UInt8) : Tracked :=
  run (next plainAt Md5.digest) (download checksum) (atReset oneMegabyte)

/-- A new firmware. -/
def firmwareReply : NetEvent := reply "52" (tinyImage 0x40100004 0 0x20 7)

/-- What `check_firmware` does with the firmware after the download of this checksum: whether it writes, and whether
the checksum is that of the image. -/
def verdict (checksum : List UInt8) : Option (Bool × Bool) :=
  ((updatingWith checksum).app.checking firmwareReply).map fun c =>
    ((App.checkFirmware Md5.digest (App.fwNumber c.upgradeFlashAddr).toUInt8 c).2.spi.log ≠ c.spi.log,
      App.digestText (Md5.digest (Image.bytes c.spi.flash c.upgradeFlashAddr)) = checksum)

/-- A checksum that is not the one of the firmware. -/
def otherChecksum : List UInt8 := CString.ascii "0123456789ABCDEF0123456789ABCDEF"

theorem otherChecksum_facts :
    0 ∉ responseBody (((atReset oneMegabyte).next plainAt Md5.digest (.command (.getChecksum .ok))).chunks ++
      received [reply "32" otherChecksum]) ∧
    (updatingWith otherChecksum).app.checksumAnswered firmwareReply = false := by
  decide +kernel

theorem checksum_binds_otherChecksum : Along (next plainAt Md5.digest) (Binds Md5.digest)
    (download otherChecksum ++ [.event firmwareReply]) (atReset oneMegabyte) := by
  refine checksum_binds plainAt Md5.digest (by rintro u ⟨⟩) _ ⟨?_, ?_, ?_, ?_, trivial⟩
  · rintro e ⟨⟩
  · rintro e ⟨⟩ -
    exact otherChecksum_facts.1
  · rintro e ⟨⟩
  · rintro e ⟨⟩ hans
    exact absurd (otherChecksum_facts.2.symm.trans hans) Bool.false_ne_true

/-- A checksum that ends early. -/
def shortChecksum : List UInt8 := CString.ascii "0123456789ABCDEF0123456789ABCDE" ++ [0]

theorem shortChecksum_facts :
    (updatingWith shortChecksum).checksum = some shortChecksum ∧ verdict shortChecksum = some (true, false) := by
  decide +kernel

/-- With a zero byte in the checksum, any firmware becomes the default. -/
theorem not_checksum_binds : ¬∀ (s : App) (actions : List UpdateAction), (∀ u, s.upgrade ≠ .live u) →
    Along (next plainAt Md5.digest) (Binds Md5.digest) actions (atReset s) := by
  intro h
  obtain ⟨hheld, hverdict⟩ := shortChecksum_facts
  obtain ⟨c, hc, hpair⟩ := Option.map_eq_some_iff.mp hverdict
  obtain ⟨hwrites, hdiffers⟩ := Prod.mk.inj hpair
  have hrun := h oneMegabyte (download shortChecksum ++ [.event firmwareReply]) (by rintro u ⟨⟩)
  have hbinds := (along_append.mp hrun).2.1
  exact of_decide_eq_false hdiffers (hbinds firmwareReply c shortChecksum rfl hc hheld (of_decide_eq_true hwrites))

end Tracked

end Esp8266At
