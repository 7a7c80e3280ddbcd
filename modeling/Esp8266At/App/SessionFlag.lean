import Esp8266At.App.Frame
import Esp8266At.Lib.Runs
import Esp8266At.Lib.Md5

/-!
# The session flag

`upgrade_flag` tells whether a session is in progress, and `at_ota_start` is to leave it and `upgrade`
alone where it fails. Along a run of commands, starts and events this holds exactly if no start fails
half-way: after its first allocation and before the name lookup has been accepted
(`honest_iff_startsWhole`).
-/

namespace Esp8266At

open Machine

/-- What the commands set before they call `at_ota_start`. -/
structure UpdateSettings where
  type : OtaType
  useSsl : UInt8
  flashAddr : UInt32
  flashMap : UInt8
  remoteHost : String
  remotePort : UInt16
  debug : Bool

/-- What the update code is called for. -/
inductive OtaCall where
  | configure (p : UpdateSettings)
  | start (callback : OtaCallback) (dns : DnsResult)
  | event (e : NetEvent)

namespace App

def configure (p : UpdateSettings) (s : App) : App :=
  { s with upgradeType := p.type, upgradeUseSsl := p.useSsl, upgradeFlashAddr := p.flashAddr,
           upgradeFlashMap := p.flashMap, upgradeRemoteHost := p.remoteHost, upgradeRemotePort := p.remotePort,
           upgradeDebug := p.debug }

section
variable (md5 : List UInt8 → Digest)

def call (a : OtaCall) (s : App) : App :=
  match a with
  | .configure p => if s.crashed then s else s.configure p
  | .start callback dns => if s.crashed then s else (s.atOtaStart md5 callback dns).2
  | .event e => s.step md5 e

/-- `upgrade_flag` is set exactly while `upgrade` points to a session. -/
def Truthful (s : App) : Prop := s.upgradeFlag = .start ↔ ∃ u, s.upgrade = .live u

/-- A call leaves the flag truthful and, if it is a start that fails, `upgrade` and the flag as they were. -/
def Honest (a : OtaCall) (s : App) : Prop :=
  (s.call md5 a).Truthful ∧ ∀ callback dns, a = .start callback dns → s.crashed = false →
    (s.atOtaStart md5 callback dns).1 = false →
    (s.call md5 a).upgrade = s.upgrade ∧ (s.call md5 a).upgradeFlag = s.upgradeFlag

end

/-- A start that is refused, fails at its first allocation or does not fail. -/
def StartsWhole (a : OtaCall) (s : App) : Prop :=
  ∀ callback dns, a = .start callback dns → s.crashed = false →
    s.upgradeFlag = .start ∨ s.heap 0 = false ∨ s.CanAllocate ∧ dns ≠ .failed

/-- A session is in progress and flagged, or there is none. -/
def Steady (s : App) : Prop :=
  s.upgradeFlag = .start ∧ (∃ u, s.upgrade = .live u) ∨ s.upgradeFlag ≠ .start ∧ s.upgrade = .null

variable {md5 : List UInt8 → Digest} {s : App}

theorem Steady.truthful (h : s.Steady) : s.Truthful := by
  rcases h with ⟨hflag, hlive⟩ | ⟨hflag, hnull⟩
  · exact ⟨fun _ => hlive, fun _ => hflag⟩
  · refine ⟨fun h => absurd h hflag, fun ⟨u, hu⟩ => ?_⟩
    rw [hnull] at hu
    cases hu

/-- A session that goes on or has been closed. -/
theorem steady_of_goes {t : App} {conn : Option ℕ} (hflag : s.upgradeFlag = .start)
    (h : Goes s.frame conn t.frame) : t.Steady := by
  rcases h with ⟨u, timer, -, hframe⟩ | ⟨flag, hne, hframe⟩
  · exact Or.inl ⟨(congrArg Frame.flag hframe).trans hflag, u, congrArg Frame.upgrade hframe⟩
  · refine Or.inr ⟨?_, congrArg Frame.upgrade hframe⟩
    rw [show t.upgradeFlag = flag from congrArg Frame.flag hframe]
    exact hne

theorem steady_step (h : s.Steady) (e : NetEvent) : (s.step md5 e).Steady := by
  rcases h with ⟨hflag, u, hlive⟩ | ⟨hflag, hnull⟩
  · exact steady_of_goes hflag (step_frame md5 hlive e)
  · have hkept : (s.step md5 e).upgradeFlag = s.upgradeFlag ∧ (s.step md5 e).upgrade = s.upgrade := by
      rcases step_null md5 hnull e with h | h
      · exact ⟨congrArg Frame.flag h, congrArg Frame.upgrade h⟩
      · exact ⟨congrArg Frame.flag h, congrArg Frame.upgrade h⟩
    exact Or.inr ⟨hkept.1 ▸ hflag, hkept.2.trans hnull⟩

variable (md5) in
/-- A start from a steady state: whether it is whole decides. -/
theorem start_honest (h : s.Steady) (hrun : s.crashed = false) (callback : OtaCallback) (dns : DnsResult) :
    (s.upgradeFlag = .start ∨ s.heap 0 = false ∨ s.CanAllocate ∧ dns ≠ .failed →
      (s.call md5 (.start callback dns)).Steady ∧ s.Honest md5 (.start callback dns)) ∧
    (¬(s.upgradeFlag = .start ∨ s.heap 0 = false ∨ s.CanAllocate ∧ dns ≠ .failed) →
      ¬s.Honest md5 (.start callback dns)) := by
  have hcall : s.call md5 (.start callback dns) = (s.atOtaStart md5 callback dns).2 := by
    show (if s.crashed then s else _) = _
    rw [hrun]
    rfl
  -- what is to be shown of a start, in terms of the state it leaves
  have honest : ∀ b t, s.atOtaStart md5 callback dns = (b, t) → t.Steady →
      (b = false → t.upgrade = s.upgrade ∧ t.upgradeFlag = s.upgradeFlag) →
      (s.call md5 (.start callback dns)).Steady ∧ s.Honest md5 (.start callback dns) := by
    intro b t ht hsteady hundone
    refine ⟨by rw [hcall, ht]; exact hsteady, by rw [hcall, ht]; exact hsteady.truthful, ?_⟩
    rintro _ _ ⟨⟩ - hb
    rw [ht] at hb
    rw [hcall, ht]
    exact hundone hb
  have hnull : s.upgradeFlag ≠ .start → s.upgrade = .null := fun hne => (h.resolve_left fun h => hne h.1).2
  have dishonest : ∀ t, s.upgradeFlag ≠ .start → s.atOtaStart md5 callback dns = (false, t) → t.upgrade = .freed →
      ¬s.Honest md5 (.start callback dns) := by
    intro t hne ht hfreed hh
    have := (hh.2 callback dns rfl hrun (by rw [ht])).1
    rw [hcall, ht, hnull hne] at this
    exact absurd (hfreed.symm.trans this) (nomatch ·)
  rcases s.atOtaStart_spec md5 callback dns with ⟨hflag, o, ho⟩ | ⟨hne, h0, o, ho⟩ | ⟨hne, h0, halloc, heap, o, ho⟩ |
    ⟨hne, halloc, hdns, heap, o, ho⟩ | ⟨hne, halloc, hdns, heap, o, ho⟩
  · exact ⟨fun _ => honest _ _ ho h fun _ => ⟨rfl, rfl⟩, fun hn => absurd (Or.inl hflag) hn⟩
  · refine ⟨fun _ => honest _ _ ho (Or.inr ⟨hne, rfl⟩) fun _ => ⟨(hnull hne).symm, rfl⟩, fun hn => ?_⟩
    exact absurd (Or.inr (Or.inl h0)) hn
  · refine ⟨fun hw => ?_, fun _ => dishonest _ hne ho rfl⟩
    rcases hw with hflag | h0' | ⟨halloc', -⟩
    · exact absurd hflag hne
    · rw [h0] at h0'
      cases h0'
    · exact absurd halloc' halloc
  · refine ⟨fun hw => ?_, fun _ => dishonest _ hne ho rfl⟩
    rcases hw with hflag | h0' | ⟨-, hdns'⟩
    · exact absurd hflag hne
    · rw [halloc.1] at h0'
      cases h0'
    · exact absurd hdns hdns'
  · refine ⟨fun _ => honest _ _ ho (Or.inl ⟨rfl, _, rfl⟩) (nomatch ·), fun hn => ?_⟩
    exact absurd (Or.inr (Or.inr ⟨halloc, hdns⟩)) hn

/-- One call from a steady state. -/
theorem call_honest (a : OtaCall) (h : s.Steady) :
    (s.StartsWhole a → (s.call md5 a).Steady) ∧ (s.Honest md5 a ↔ s.StartsWhole a) := by
  by_cases hcrash : s.crashed = true
  · -- nothing happens any more
    have hkept : (s.call md5 a).Steady := by
      cases a with
      | configure p => simpa [call, hcrash] using h
      | start callback dns => simpa [call, hcrash] using h
      | event e => exact steady_step h e
    have hrun : s.crashed ≠ false := by rw [hcrash]; decide
    exact ⟨fun _ => hkept, fun _ _ _ _ hf => absurd hf hrun, fun _ => ⟨hkept.truthful, fun _ _ _ hf => absurd hf hrun⟩⟩
  have hrun : s.crashed = false := Bool.eq_false_iff.mpr hcrash
  cases a with
  | configure p =>
    have hkept : (s.call md5 (.configure p)).Steady := by
      show (if s.crashed then s else s.configure p).Steady
      rw [hrun]
      exact h
    exact ⟨fun _ => hkept, fun _ _ _ ha => (nomatch ha), fun _ => ⟨hkept.truthful, fun _ _ ha => (nomatch ha)⟩⟩
  | start callback dns =>
    obtain ⟨hyes, hno⟩ := start_honest md5 h hrun callback dns
    refine ⟨fun hw => (hyes (hw callback dns rfl hrun)).1, fun hh => ?_, fun hw => (hyes (hw callback dns rfl hrun)).2⟩
    rintro _ _ ⟨⟩ -
    by_contra hn
    exact hno hn hh
  | event e =>
    have hkept : (s.call md5 (.event e)).Steady := steady_step h e
    exact ⟨fun _ => hkept, fun _ _ _ ha => (nomatch ha), fun _ => ⟨hkept.truthful, fun _ _ ha => (nomatch ha)⟩⟩

variable (md5) in
/-- **The flag tells the truth along a run exactly if no start of it fails half-way.** -/
theorem honest_iff_startsWhole (hflag : s.upgradeFlag ≠ .start) (hnull : s.upgrade = .null) (calls : List OtaCall) :
    Along (call md5) (Honest md5) calls s ↔
      Along (call md5) StartsWhole calls s :=
  along_iff (fun a _ h hw => (call_honest a h).1 hw) (fun a _ h => (call_honest a h).2) (Or.inr ⟨hflag, hnull⟩)

/-- A start that is answered, its lookup failing later. -/
theorem honest_iff_startsWhole_lookupFails :
    let s := App.atReset (fun _ => 0xFF) (fun _ => 0) 2
    Along (call Md5.digest) (Honest Md5.digest)
      [.start .update .inProgress, .event (.resolved false)] s := by
  refine (honest_iff_startsWhole Md5.digest (by decide) rfl _).mpr ⟨?_, ?_, trivial⟩
  · rintro _ _ ⟨⟩ -
    exact Or.inr (Or.inr ⟨⟨rfl, rfl, rfl, rfl⟩, by decide⟩)
  · rintro _ _ ⟨⟩

/-- A name lookup that cannot be started leaves the flag set, without a session. -/
theorem not_honest : ¬∀ (s : App) (calls : List OtaCall), s.upgradeFlag ≠ .start → s.upgrade = .null →
    Along (call Md5.digest) (Honest Md5.digest) calls s := by
  intro h
  have htruth := (h (App.atReset (fun _ => 0xFF) (fun _ => 0) 2) [.start .update .failed] (by decide) rfl).1.1
  obtain ⟨u, hu⟩ := htruth.mp rfl
  cases hu

end App

end Esp8266At
