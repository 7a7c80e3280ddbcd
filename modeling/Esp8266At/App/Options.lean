import Esp8266At.App.Command

/-!
# The update options

`at_setupCmdFWupdate` stores the host, the reset flag, the protocol and the port before it checks the forced
partition. A command that is answered `ERROR` leaves the options alone exactly if it does not get to that
check, passes it, or gives the values the options have already (`keepsOptions_iff`).
-/

namespace Esp8266At

/-- What `AT+UPDATEFIRMWARE=` sets. -/
structure Options where
  remoteHost : String
  reset : UInt8
  useSsl : UInt8
  remotePort : UInt16
  forcedFw : Option Part
  deriving DecidableEq

/-- The options with the parameters stored that are stored before the forced partition is checked. -/
def UpdateParams.store (p : UpdateParams) (o : Options) : Options where
  remoteHost := CString.string p.host
  reset := if p.updRst ≥ 0 then if p.updRst = 1 then 1 else 0 else o.reset
  useSsl := if p.ssl ≥ 0 then if p.ssl = 1 then 1 else 0 else o.useSsl
  remotePort := if p.port ≥ 1 ∧ p.port < 65566 then UInt16.ofInt p.port else o.remotePort
  forcedFw := o.forcedFw

namespace App

variable {lib : LibAt} {pPara : List UInt8} {s : App}

def options (s : App) : Options :=
  ⟨s.upgradeRemoteHost, s.updateReset, s.upgradeUseSsl, s.upgradeRemotePort, s.updateForcedFw⟩

/-- `s` with other options. -/
def withOptions (o : Options) (s : App) : App :=
  { s with upgradeRemoteHost := o.remoteHost, updateReset := o.reset, upgradeUseSsl := o.useSsl,
           upgradeRemotePort := o.remotePort, updateForcedFw := o.forcedFw }

/-- The command is answered `ERROR`. -/
def AnswersError (t s : App) : Prop := t.out = s.out ++ [.error]

instance (t s : App) : Decidable (AnswersError t s) := inferInstanceAs (Decidable (_ = _))

/-- If the set command is answered `ERROR`, the options are as they were. -/
def KeepsOptions (lib : LibAt) (pPara : List UInt8) (s : App) : Prop :=
  AnswersError (s.atSetupCmdFWupdate lib pPara) s → (s.atSetupCmdFWupdate lib pPara).options = s.options

/-- The number of a partition the command may force. -/
def InRange (fw_n : ℤ) : Prop := fw_n ≥ 0 ∧ fw_n < MAX_APP_PART

instance (fw_n : ℤ) : Decidable (InRange fw_n) := inferInstanceAs (Decidable (_ ∧ _))

theorem InRange.toNat_lt {fw_n : ℤ} (h : InRange fw_n) : fw_n.toNat < MAX_APP_PART := by
  have hmax : MAX_APP_PART = 8 := rfl
  unfold InRange at h
  omega

theorem atSetupCmdFWupdate_none (h : updateParams lib pPara = none) :
    s.atSetupCmdFWupdate lib pPara = s.responseError := by
  rw [atSetupCmdFWupdate, h]

/-- Storing the parameters one after another. -/
theorem withOptions_store (p : UpdateParams) (s : App) :
    s.withOptions (p.store s.options) =
      (let s : App := { s with upgradeRemoteHost := CString.string p.host }
       let s : App := if p.updRst ≥ 0 then { s with updateReset := if p.updRst = 1 then 1 else 0 } else s
       let s : App := if p.ssl ≥ 0 then { s with upgradeUseSsl := if p.ssl = 1 then 1 else 0 } else s
       if p.port ≥ 1 ∧ p.port < 65566 then { s with upgradeRemotePort := UInt16.ofInt p.port } else s) := by
  simp only [withOptions, UpdateParams.store, options]
  by_cases hrst : p.updRst ≥ 0 <;> by_cases hssl : p.ssl ≥ 0 <;> by_cases hport : p.port ≥ 1 ∧ p.port < 65566 <;>
    simp only [hrst, hssl, hport, and_self, if_true, if_false]

/-- The set command, when its parameters can be read: they are stored, then the forced partition decides. -/
theorem atSetupCmdFWupdate_some {p : UpdateParams} (h : updateParams lib pPara = some p) :
    s.atSetupCmdFWupdate lib pPara =
      if hin : InRange p.fwN then
        if s.forcedPartOk p.fwN then
          (s.withOptions { p.store s.options with
            forcedFw := some ⟨p.fwN.toNat, hin.toNat_lt⟩ }).responseOk
        else (s.withOptions (p.store s.options)).responseError
      else (s.withOptions (p.store s.options)).responseOk := by
  have hstore := withOptions_store p s
  unfold atSetupCmdFWupdate
  simp only [h]
  simp only at hstore
  rw [← hstore]
  rfl

theorem not_answersError_responseOk {t : App} (ho : t.out = s.out) : ¬AnswersError t.responseOk s := by
  intro h
  rw [AnswersError, responseOk, ho] at h
  exact absurd (List.append_cancel_left h) (by decide)

variable (lib pPara s) in
/-- **All or nothing exactly if the parameters cannot be read, name no partition, name one that passes the
check, or are what the options are already.** -/
theorem keepsOptions_iff : KeepsOptions lib pPara s ↔
    ∀ p, updateParams lib pPara = some p → InRange p.fwN → s.forcedPartOk p.fwN = true ∨
      p.store s.options = s.options := by
  cases hparams : updateParams lib pPara with
  | none =>
    refine iff_of_true (fun _ => ?_) (fun p hp => ?_)
    · rw [atSetupCmdFWupdate_none hparams]
      rfl
    · cases hp
  | some p =>
    have hcommand := atSetupCmdFWupdate_some (s := s) hparams
    by_cases hin : InRange p.fwN
    · rw [dif_pos hin] at hcommand
      by_cases hok : s.forcedPartOk p.fwN = true
      · refine iff_of_true (fun herror => ?_) ?_
        · rw [hcommand, if_pos hok] at herror
          exact absurd herror (not_answersError_responseOk rfl)
        · rintro q ⟨⟩ -
          exact Or.inl hok
      · rw [if_neg hok] at hcommand
        have hafter : (s.atSetupCmdFWupdate lib pPara).options = p.store s.options := by
          rw [hcommand]
          rfl
        rw [KeepsOptions, hafter]
        constructor
        · rintro h q ⟨⟩ -
          refine Or.inr (h ?_)
          rw [hcommand]
          rfl
        · intro h _
          exact (h p rfl hin).resolve_left hok
    · rw [dif_neg hin] at hcommand
      refine iff_of_true (fun herror => ?_) ?_
      · rw [hcommand] at herror
        exact absurd herror (not_answersError_responseOk rfl)
      · rintro q ⟨⟩ hq
        exact absurd hq hin

/-- A command that names partition 2, which a flash of 1 MB does not have, changes the host. -/
theorem not_keepsOptions :
    ¬∀ (lib : LibAt) (pPara : List UInt8) (s : App), KeepsOptions lib pPara s := by
  intro h
  have hhost := h plainAt (CString.ascii "=\"example.org\",0,2\r")
    (App.atReset (fun _ => 0xFF) (fun _ => 0) 2) (by decide +kernel)
  exact absurd (congrArg Options.remoteHost hhost) (by decide +kernel)

end App

end Esp8266At
