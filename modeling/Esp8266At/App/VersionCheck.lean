import Esp8266At.App.Checksum

/-!
# The version checks

`AT+UPDATECHECK` and `AT+UPDATECHECKBOOT` download a text whose first line is a version and compare this version with
the one that runs. They do so only if both have the same length: a version check tells new from current exactly for the
versions of this length (`version_check_iff`).
-/

namespace Esp8266At

namespace App

variable {md5 : List UInt8 → Digest} {s c : App} {name current : String} {v rest : List UInt8}

/-- The check of version `v`, where `current` runs, reports both versions if they are equal and a new version if they
are not, and answers `OK`. -/
def TellsVersion (name current : String) (v : List UInt8) (s t : App) : Prop :=
  ∃ report texts, t.out = s.out ++ (.text report :: (texts ++ [.ok])) ∧
    if v = CString.ascii current then
      report = "+" ++ name ++ ":0,\"" ++ CString.string v ++ "\",\"" ++ current ++ "\"\r\n"
    else ∃ versions, report = "+" ++ name ++ ":1" ++ versions

/-- The name of a check and the version it looks for. -/
def checked (s : App) : OtaType → Option (String × String)
  | .verCheck => some ("UPDATECHECK", ESP_AT_LOBO_VERSION)
  | .verCheckBoot => some ("UPDATECHECKBOOT", s.bootloaderName)
  | _ => none

/-! ### The first line -/

theorem text_line (hv : ∀ b ∈ v, b ≠ 0 ∧ b ≠ 0x0D) : CString.text (v ++ 0x0D :: rest) = v ++ 0x0D :: CString.text rest := by
  unfold CString.text
  rw [List.takeWhile_append_of_pos (fun b hb => decide_eq_true (hv b hb).1), List.takeWhile_cons_of_pos (by decide)]

theorem line_text (hv : ∀ b ∈ v, b ≠ 0 ∧ b ≠ 0x0D) :
    (CString.text (v ++ 0x0D :: rest)).takeWhile (· ≠ 0x0D) = v := by
  rw [text_line hv, List.takeWhile_append_of_pos (fun b hb => decide_eq_true (hv b hb).2),
    List.takeWhile_cons_of_neg (by decide), List.append_nil]

/-! ### The comparison -/

variable (s name rest) in
/-- What is printed about a version of the right length. -/
theorem checkVersion_compares (echo : Bool) (hv : ∀ b ∈ v, b ≠ 0 ∧ b ≠ 0x0D) (hlength : v.length = current.length) :
    ∃ texts, (s.checkVersion name current echo (v ++ 0x0D :: rest)).out = s.out ++ (.text ("+" ++ name ++ ":" ++
      toString (if v = CString.ascii current then 0 else 1) ++ ",\"" ++ CString.string v ++ "\",\"" ++ current ++
      "\"\r\n") :: (texts ++ [.ok])) := by
  have hlong : v.length < CString.strlen (v ++ 0x0D :: rest) := by
    unfold CString.strlen
    rw [text_line hv]
    simp
  unfold checkVersion
  rw [line_text hv, if_pos ⟨hlong, hlength⟩]
  refine ⟨if echo then [.text (CString.string (v ++ 0x0D :: rest))] else [], ?_⟩
  dsimp only
  generalize "+" ++ name ++ ":" ++ toString (if v = CString.ascii current then 0 else 1) ++ ",\"" ++ CString.string v ++
    "\",\"" ++ current ++ "\"\r\n" = report
  cases echo with
  | false => simp [print, atLeaveSpecialState, responseOk]
  | true => simp [print, atLeaveSpecialState, responseOk]

variable (s name rest) in
/-- A version of another length is not compared. -/
theorem checkVersion_fails (echo : Bool) (hv : ∀ b ∈ v, b ≠ 0 ∧ b ≠ 0x0D) (hlength : v.length ≠ current.length) :
    ∃ texts, (s.checkVersion name current echo (v ++ 0x0D :: rest)).out = s.out ++ (texts ++ [.error]) := by
  unfold checkVersion
  rw [line_text hv, if_neg fun h => hlength h.2]
  exact ⟨[.text (CString.string (v ++ 0x0D :: rest)), .text ("+" ++ name ++ ":0,Error\r\n")], by
    simp [print, atLeaveSpecialState, responseError]⟩

theorem checkVersion_tells (echo : Bool) (hv : ∀ b ∈ v, b ≠ 0 ∧ b ≠ 0x0D) :
    TellsVersion name current v s (s.checkVersion name current echo (v ++ 0x0D :: rest)) ↔ v.length = current.length := by
  by_cases hlength : v.length = current.length
  · refine ⟨fun _ => hlength, fun _ => ?_⟩
    obtain ⟨texts, hout⟩ := checkVersion_compares s name rest echo hv hlength
    refine ⟨_, texts, hout, ?_⟩
    by_cases hequal : v = CString.ascii current
    · rw [if_pos hequal, if_pos hequal, show ":0,\"" = ":" ++ (toString 0 ++ ",\"") from rfl]
      simp only [String.append_assoc]
    · rw [if_neg hequal, if_neg hequal, show ":1" = ":" ++ toString 1 from rfl]
      refine ⟨",\"" ++ CString.string v ++ "\",\"" ++ current ++ "\"\r\n", ?_⟩
      simp only [String.append_assoc]
  · refine ⟨fun h => ?_, fun h => absurd h hlength⟩
    obtain ⟨report, texts, hok, -⟩ := h
    obtain ⟨texts', herror⟩ := checkVersion_fails s name rest echo hv hlength
    -- the last answer is an error
    have hlast := congrArg List.getLast? (List.append_cancel_left (hok.symm.trans herror))
    rw [← List.cons_append, List.getLast?_concat, List.getLast?_concat] at hlast
    cases hlast

/-- The end of a session that has downloaded a response. -/
theorem step_checkVersion {e : NetEvent} {response : List UInt8} (hcalls : s.calls e = some (.verCheckMd5, true, c))
    (hresponse : c.upgradeCheckResponse = some response) (hchecked : c.checked c.upgradeType = some (name, current)) :
    ∃ echo, s.step md5 e = c.checkVersion name current echo response := by
  rw [step_calls hcalls]
  simp only [callBack, otaVerCheckMd5CallBack, hresponse]
  cases htype : c.upgradeType with
  | verCheck =>
    rw [htype] at hchecked
    obtain ⟨rfl, rfl⟩ := Prod.mk.inj (Option.some.inj hchecked)
    exact ⟨true, rfl⟩
  | verCheckBoot =>
    rw [htype] at hchecked
    obtain ⟨rfl, rfl⟩ := Prod.mk.inj (Option.some.inj hchecked)
    exact ⟨false, rfl⟩
  | upgrade | upgBoot | md5 | md5Boot =>
    rw [htype] at hchecked
    cases hchecked

/-- **The version check tells new from current**, exactly for versions of the length of the current one. -/
theorem version_check_iff {e : NetEvent} (hcalls : s.calls e = some (.verCheckMd5, true, c))
    (hresponse : c.upgradeCheckResponse = some (v ++ 0x0D :: rest)) (hv : ∀ b ∈ v, b ≠ 0 ∧ b ≠ 0x0D)
    (hchecked : c.checked c.upgradeType = some (name, current)) :
    TellsVersion name current v c (s.step md5 e) ↔ v.length = current.length := by
  obtain ⟨echo, hstep⟩ := step_checkVersion hcalls hresponse hchecked
  rw [hstep]
  exact checkVersion_tells echo hv

/-- A check that has been started. -/
def versionAsked : App := Tracked.oneMegabyte.act plainAt Md5.digest (.command (.check .ok))

/-- The reply with this version. -/
def versionReply (length version : String) : NetEvent := Tracked.reply length (CString.ascii (version ++ "\r\n"))

/-- The function that is called, its result, and the response and the type of the session. -/
def versionCalled (e : NetEvent) : Option (OtaCallback × Bool × Option (List UInt8) × OtaType) :=
  (versionAsked.calls e).map fun x => (x.1, x.2.1, x.2.2.upgradeCheckResponse, x.2.2.upgradeType)

theorem versionReply_called : ∀ r ∈ [("24", "ESP8266_AT_LoBo v1.3.2"), ("25", "ESP8266_AT_LoBo v1.3.10")],
    versionCalled (versionReply r.1 r.2) =
      some (.verCheckMd5, true, some (CString.ascii r.2 ++ 0x0D :: [0x0A, 0, 0]), .verCheck) := by
  decide +kernel

theorem versionReply_text : ∀ r ∈ [("24", "ESP8266_AT_LoBo v1.3.2"), ("25", "ESP8266_AT_LoBo v1.3.10")],
    (∀ b ∈ CString.ascii r.2, b ≠ 0 ∧ b ≠ 0x0D) ∧
      ((CString.ascii r.2).length = ESP_AT_LOBO_VERSION.length ↔ r.1 = "24") := by
  decide +kernel

theorem called_of_facts {e : NetEvent} {response : List UInt8}
    (h : versionCalled e = some (.verCheckMd5, true, some response, .verCheck)) :
    ∃ c, versionAsked.calls e = some (.verCheckMd5, true, c) ∧ c.upgradeCheckResponse = some response ∧
      c.checked c.upgradeType = some ("UPDATECHECK", ESP_AT_LOBO_VERSION) := by
  obtain ⟨⟨callback, result, c⟩, hcalls, hfacts⟩ := Option.map_eq_some_iff.mp h
  simp only [Prod.mk.injEq] at hfacts
  obtain ⟨rfl, rfl, hresponse, htype⟩ := hfacts
  exact ⟨c, hcalls, hresponse, by rw [htype]; rfl⟩

/-- Version 1.3.2 is new. -/
theorem version_check_next : ∃ c, versionAsked.calls (versionReply "24" "ESP8266_AT_LoBo v1.3.2") = some (.verCheckMd5, true, c) ∧
    TellsVersion "UPDATECHECK" ESP_AT_LOBO_VERSION (CString.ascii "ESP8266_AT_LoBo v1.3.2") c
      (versionAsked.step Md5.digest (versionReply "24" "ESP8266_AT_LoBo v1.3.2")) := by
  obtain ⟨hv, hlength⟩ := versionReply_text ("24", "ESP8266_AT_LoBo v1.3.2") (by simp)
  obtain ⟨c, hcalls, hresponse, hchecked⟩ := called_of_facts (versionReply_called ("24", "ESP8266_AT_LoBo v1.3.2") (by simp))
  exact ⟨c, hcalls, (version_check_iff hcalls hresponse hv hchecked).mpr (hlength.mpr rfl)⟩

/-- Version 1.3.10 is an error. -/
theorem not_version_check : ∃ c,
    versionAsked.calls (versionReply "25" "ESP8266_AT_LoBo v1.3.10") = some (.verCheckMd5, true, c) ∧
      c.upgradeCheckResponse = some (CString.ascii "ESP8266_AT_LoBo v1.3.10" ++ 0x0D :: [0x0A, 0, 0]) ∧
      c.checked c.upgradeType = some ("UPDATECHECK", ESP_AT_LOBO_VERSION) ∧
      ¬TellsVersion "UPDATECHECK" ESP_AT_LOBO_VERSION (CString.ascii "ESP8266_AT_LoBo v1.3.10") c
        (versionAsked.step Md5.digest (versionReply "25" "ESP8266_AT_LoBo v1.3.10")) := by
  obtain ⟨hv, hlength⟩ := versionReply_text ("25", "ESP8266_AT_LoBo v1.3.10") (by simp)
  obtain ⟨c, hcalls, hresponse, hchecked⟩ := called_of_facts (versionReply_called ("25", "ESP8266_AT_LoBo v1.3.10") (by simp))
  refine ⟨c, hcalls, hresponse, hchecked, fun htells => ?_⟩
  obtain ⟨echo, hstep⟩ := step_checkVersion hcalls hresponse hchecked
  rw [hstep] at htells
  exact absurd (hlength.mp ((checkVersion_tells echo hv).mp htells)) (by simp)

end App

end Esp8266At
