import Esp8266At.App.Frame
import Esp8266At.Lib.Runs

/-!
# Commands and events

The update commands and the events of the network layer and of the timer as the actions of one machine, and
what a command that starts a session can do: it opens the session for the options in force
(`App.opening`), or it is refused (`Refused`). An event that ends a session calls the function the session was
opened with; `App.calls` gives this function, the result it is called with and the state in which it is called.
-/

namespace Esp8266At

open NorFlash

/-- The update commands, with the text behind the name of a set command and what the name lookup returns. The
queries only print. -/
inductive UpdateCommand where
  /-- `AT+UPDATEFIRMWARE=..`, `AT+UPDATEBOOT=..`. -/
  | setOptions (pPara : List UInt8)
  /-- `AT+UPDATEDEBUG=..`. -/
  | setDebug (pPara : List UInt8)
  /-- `AT+UPDATEGETCSUM=..`, `AT+UPDATEGETCSUMBOOT=..`. -/
  | setChecksum (pPara : List UInt8)
  /-- `AT+BOOT=..`. -/
  | setBoot (pPara : List UInt8)
  | update (dns : DnsResult)
  | updateBoot (dns : DnsResult)
  | check (dns : DnsResult)
  | checkBoot (dns : DnsResult)
  | getChecksum (dns : DnsResult)
  | getChecksumBoot (dns : DnsResult)

/-- The type of the session a command starts. -/
def UpdateCommand.starts : UpdateCommand → Option (OtaType × DnsResult)
  | .update dns => some (.upgrade, dns)
  | .updateBoot dns => some (.upgBoot, dns)
  | .check dns => some (.verCheck, dns)
  | .checkBoot dns => some (.verCheckBoot, dns)
  | .getChecksum dns => some (.md5, dns)
  | .getChecksumBoot dns => some (.md5Boot, dns)
  | _ => none

inductive UpdateAction where
  | command (c : UpdateCommand)
  | event (e : NetEvent)

/-- The function a session of this type ends with. -/
def OtaType.callback : OtaType → OtaCallback
  | .upgrade => .update
  | .upgBoot => .updateBoot
  | _ => .verCheckMd5

namespace App

section
variable (lib : LibAt) (md5 : List UInt8 → Digest)

def execute (c : UpdateCommand) (s : App) : App :=
  match c with
  | .setOptions pPara => s.atSetupCmdFWupdate lib pPara
  | .setDebug pPara => s.atSetupCmdFWDebug lib pPara
  | .setChecksum pPara => s.atSetupCmdFWGetMD5 lib pPara
  | .setBoot pPara => s.atSetupCmdBoot lib pPara
  | .update dns => s.atExeCmdFWupdate md5 dns
  | .updateBoot dns => s.atExeCmdFWupdateBoot md5 dns
  | .check dns => s.atExeCmdFWVerCheck md5 dns
  | .checkBoot dns => s.atExeCmdFWVerCheckBoot md5 dns
  | .getChecksum dns => s.atExeCmdFWGetMD5 md5 dns
  | .getChecksumBoot dns => s.atExeCmdFWGetMD5boot md5 dns

/-- One action. Commands are executed only outside the special state. -/
def act (a : UpdateAction) (s : App) : App :=
  match a with
  | .command c => if s.crashed ∨ s.busy then s else s.execute lib md5 c
  | .event e => s.step md5 e

end

/-! ### Starting a session -/

variable {lib : LibAt} {md5 : List UInt8 → Digest} {s : App} {type : OtaType} {dns : DnsResult}

/-- What a command does before it chooses the target of a session. -/
def preparing (type : OtaType) (s : App) : App :=
  { s with upgradeUseSsl := 0
           updateMd5 := if type = .md5 ∨ type = .md5Boot then List.replicate 36 0 else s.updateMd5 }

/-- The application that starts a session: `update_setparams` has succeeded. -/
def startingFor (type : OtaType) (s : App) : App :=
  { (s.preparing type).withTarget s.targetHost with upgradeType := type, busy := true }

/-- A command that starts no session: what it leaves alone. -/
structure Refused (type : OtaType) (s t : App) : Prop where
  log : t.spi.log = s.spi.log
  base : t.spi.base = s.spi.base
  busy : t.busy = false
  md5 : t.updateMd5 = (s.preparing type).updateMd5
  ssl : t.upgradeUseSsl = 0
  port : t.upgradeRemotePort = s.upgradeRemotePort
  host : t.upgradeRemoteHost = s.upgradeRemoteHost ∨ t.upgradeRemoteHost = s.targetHost
  forced : t.updateForcedFw = s.updateForcedFw ∨ t.updateForcedFw = none
  upgrade : t.upgrade = s.upgrade ∨ t.upgrade = .null ∨ t.upgrade = .freed
  timer : t.otaTimer = s.otaTimer
  running : t.crashed = s.crashed

theorem Refused.printed {t : App} (h : Refused type s t) (o : List Output) : Refused type s (t.printed o) := by
  obtain ⟨h1, h2, h3, h4, h5, h6, h7, h8, h9, h10, h11⟩ := h
  exact ⟨h1, h2, h3, h4, h5, h6, h7, h8, h9, h10, h11⟩

theorem Refused.debug {t : App} (h : Refused type s t) (m : String) : Refused type s (t.debug m) := by
  obtain ⟨o, ho⟩ := t.debug_out m
  rw [ho]
  exact h.printed o

/-- `update_setparams` has failed. -/
theorem refused_of_setparams {host : String} {d : Spi} (type : OtaType) (heap : ℕ → Bool) (idx : List UInt32)
    (hbusy : s.busy = false) (hhost : host = s.upgradeRemoteHost ∨ host = s.targetHost)
    (hlog : d.log = s.spi.log) (hbase : d.base = s.spi.base) :
    Refused type s { s.preparing type with
      spi := d, heap := heap, bootInfo := none, indices := s.indices ++ idx, upgradeRemoteHost := host } where
  log := hlog
  base := hbase
  busy := hbusy
  md5 := rfl
  ssl := rfl
  port := rfl
  host := hhost
  forced := Or.inl rfl
  upgrade := Or.inl rfl
  timer := rfl
  running := rfl

/-- `at_ota_start` has failed. -/
theorem refused_of_start {t : App} (h : ((s.startingFor type).atOtaStart md5 type.callback dns) = (false, t)) :
    Refused type s t.atLeaveSpecialState := by
  have hrefused : ∀ (heap : ℕ → Bool) (out : List Output) (p : UpgradePtr), p = s.upgrade ∨ p = .null ∨ p = .freed →
      Refused type s ((s.startingFor type).unopened heap out p).atLeaveSpecialState := by
    intro heap out p hp
    exact ⟨rfl, rfl, rfl, rfl, rfl, rfl, Or.inr rfl, Or.inr rfl, hp, rfl, rfl⟩
  obtain ⟨-, o, ho⟩ | ⟨-, -, o, ho⟩ | ⟨-, -, -, heap, o, ho⟩ | ⟨-, -, -, heap, o, ho⟩ | ⟨-, -, -, heap, o, ho⟩ :=
    (s.startingFor type).atOtaStart_spec md5 type.callback dns
  all_goals
    rw [ho] at h
    obtain ⟨hb, rfl⟩ := Prod.mk.inj h
  · exact hrefused (s.startingFor type).heap o s.upgrade (Or.inl rfl)
  · exact hrefused _ o .null (Or.inr (Or.inl rfl))
  · exact hrefused heap o .freed (Or.inr (Or.inr rfl))
  · exact ⟨rfl, rfl, rfl, rfl, rfl, rfl, Or.inr rfl, Or.inr rfl, Or.inr (Or.inr rfl), rfl, rfl⟩
  · cases hb

/-- A start that has succeeded has opened a session. -/
theorem opened_of_start {t : App} (h : ((s.startingFor type).atOtaStart md5 type.callback dns) = (true, t)) :
    ∃ heap out timer, t = (s.startingFor type).opening type.callback heap out timer := by
  obtain ⟨-, o, ho⟩ | ⟨-, -, o, ho⟩ | ⟨-, -, -, heap, o, ho⟩ | ⟨-, -, -, heap, o, ho⟩ | ⟨-, -, -, heap, o, ho⟩ :=
    (s.startingFor type).atOtaStart_spec md5 type.callback dns
  all_goals
    rw [ho] at h
    obtain ⟨hb, rfl⟩ := Prod.mk.inj h
  · cases hb
  · cases hb
  · cases hb
  · cases hb
  · exact ⟨heap, o, _, rfl⟩

/-- How a command that starts a session can end. -/
def StartsOr (type : OtaType) (s t : App) : Prop :=
  (∃ heap out timer, t = (s.startingFor type).opening type.callback heap out timer) ∨ Refused type s t

theorem StartsOr.printed {t : App} (h : StartsOr type s t) (o : List Output) : StartsOr type s (t.printed o) := by
  rcases h with ⟨heap, out, timer, rfl⟩ | h
  · exact Or.inl ⟨heap, o, timer, rfl⟩
  · exact Or.inr (h.printed o)

theorem startUpdate_cases (hbusy : s.busy = false) (htype : type = .upgrade ∨ type = .upgBoot) :
    StartsOr type s ((s.preparing type).startUpdate md5 type dns) := by
  have hcallback : (if type = .upgBoot then OtaCallback.updateBoot else OtaCallback.update) = type.callback := by
    rcases htype with rfl | rfl <;> rfl
  unfold startUpdate
  obtain ⟨-, ht⟩ | ⟨-, heap, d, idx, ht, hlog, hbase⟩ := (s.preparing type).updateSetparams_spec
  · have hstart : ({ (s.preparing type).withTarget (s.preparing type).targetHost with upgradeType := type } :
        App).atEnterSpecialState = s.startingFor type := rfl
    simp only [ht, hcallback, hstart]
    cases hr : (s.startingFor type).atOtaStart md5 type.callback dns with
    | mk b t =>
      cases b with
      | true =>
        obtain ⟨heap, out, timer, rfl⟩ := opened_of_start hr
        exact Or.inl ⟨heap, _, timer, rfl⟩
      | false =>
        obtain ⟨o, ho⟩ := t.debug_out "Error starting OTA process\r\n"
        simp only [ho]
        exact Or.inr ((refused_of_start hr).printed _)
  · obtain ⟨o, ho⟩ := debug_out { s.preparing type with
      spi := d, heap := heap, bootInfo := none, indices := s.indices ++ idx } "Error, cannot set update parameters\r\n"
    have hrefused := refused_of_setparams type heap idx hbusy (Or.inl rfl) hlog hbase
    rw [ht]
    exact Or.inr (Eq.mpr (congrArg (Refused type s) (congrArg responseError ho)) ((hrefused.printed o).printed (o ++ [Output.error])))

theorem updateVerCheckMD5_cases (hbusy : s.busy = false) (htype : type ≠ .upgrade ∧ type ≠ .upgBoot) :
    StartsOr type s ((s.preparing type).updateVerCheckMD5 md5 type dns) := by
  have hcallback : OtaCallback.verCheckMd5 = type.callback := by
    cases type with
    | upgrade => exact absurd rfl htype.1
    | upgBoot => exact absurd rfl htype.2
    | verCheck | verCheckBoot | md5 | md5Boot => rfl
  have hdefault : (if (s.preparing type).upgradeRemoteHost.length = 0 then
      { s.preparing type with upgradeRemoteHost := REMOTE_UPDATE_HOST } else s.preparing type) =
      ({ s.preparing type with upgradeRemoteHost := s.targetHost } : App) := by
    by_cases hlen : s.upgradeRemoteHost.length = 0
    · rw [targetHost, if_pos hlen]
      exact if_pos hlen
    · rw [targetHost, if_neg hlen]
      exact if_neg hlen
  have htwice : ({ s.preparing type with upgradeRemoteHost := s.targetHost } : App).targetHost = s.targetHost := by
    have hne : s.targetHost.length ≠ 0 := by
      unfold targetHost
      split_ifs with hlen
      · decide
      · exact hlen
    exact if_neg hne
  unfold updateVerCheckMD5
  simp only [hdefault]
  obtain ⟨-, ht⟩ | ⟨-, heap, d, idx, ht, hlog, hbase⟩ :=
    ({ s.preparing type with upgradeRemoteHost := s.targetHost } : App).updateSetparams_spec
  · have hstart : ({ ({ s.preparing type with upgradeRemoteHost := s.targetHost } : App).withTarget s.targetHost with
        upgradeType := type } : App).atEnterSpecialState = s.startingFor type := rfl
    rw [htwice] at ht
    simp only [ht, hcallback, hstart]
    cases hr : (s.startingFor type).atOtaStart md5 type.callback dns with
    | mk b t =>
      cases b with
      | true =>
        obtain ⟨heap, out, timer, rfl⟩ := opened_of_start hr
        exact Or.inl ⟨heap, _, timer, rfl⟩
      | false =>
        obtain ⟨o, ho⟩ := t.debug_out "Error starting OTA process\r\n"
        simp only [ho]
        exact Or.inr ((refused_of_start hr).printed _)
  · obtain ⟨o, ho⟩ := debug_out { s.preparing type with
      spi := d, heap := heap, bootInfo := none, indices := s.indices ++ idx, upgradeRemoteHost := s.targetHost }
      "Error, cannot set update parameters\r\n"
    have hrefused := refused_of_setparams type heap idx hbusy (Or.inr rfl) hlog hbase
    rw [ht]
    exact Or.inr (Eq.mpr (congrArg (Refused type s) (congrArg responseError ho)) ((hrefused.printed o).printed (o ++ [Output.error])))

variable (lib md5) in
/-- A command that starts a session. -/
theorem execute_starts {c : UpdateCommand} (hbusy : s.busy = false) (hc : c.starts = some (type, dns)) :
    StartsOr type s (s.execute lib md5 c) := by
  cases c with
  | setOptions | setDebug | setChecksum | setBoot => cases hc
  | update dns =>
    obtain ⟨rfl, rfl⟩ := Prod.mk.inj (Option.some.inj hc)
    exact startUpdate_cases hbusy (Or.inl rfl)
  | updateBoot dns =>
    obtain ⟨rfl, rfl⟩ := Prod.mk.inj (Option.some.inj hc)
    exact startUpdate_cases hbusy (Or.inr rfl)
  | check dns =>
    obtain ⟨rfl, rfl⟩ := Prod.mk.inj (Option.some.inj hc)
    exact updateVerCheckMD5_cases hbusy ⟨by decide, by decide⟩
  | checkBoot dns =>
    obtain ⟨rfl, rfl⟩ := Prod.mk.inj (Option.some.inj hc)
    exact updateVerCheckMD5_cases hbusy ⟨by decide, by decide⟩
  | getChecksum dns =>
    obtain ⟨rfl, rfl⟩ := Prod.mk.inj (Option.some.inj hc)
    exact updateVerCheckMD5_cases hbusy ⟨by decide, by decide⟩
  | getChecksumBoot dns =>
    obtain ⟨rfl, rfl⟩ := Prod.mk.inj (Option.some.inj hc)
    exact updateVerCheckMD5_cases hbusy ⟨by decide, by decide⟩

end App

end Esp8266At
