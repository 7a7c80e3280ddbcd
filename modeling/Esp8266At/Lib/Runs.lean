import Mathlib.Data.List.Basic

/-!
# Runs of a machine

A machine takes a step for each action it is given. `Along` says that a property holds of every action of
a run and of the state in which it happens; invariants are carried through such runs.
-/

namespace Esp8266At.Machine

variable {σ α : Type*} (step : α → σ → σ)

/-- The state after a list of actions. -/
def run (as : List α) (s : σ) : σ := as.foldl (fun s a => step a s) s

@[simp] theorem run_nil (s : σ) : run step [] s = s := rfl

@[simp] theorem run_cons (a : α) (as : List α) (s : σ) : run step (a :: as) s = run step as (step a s) := rfl

theorem run_append (as bs : List α) (s : σ) : run step (as ++ bs) s = run step bs (run step as s) := by
  simp [run]

/-- `P` holds of every action and the state in which it happens. -/
def Along (P : α → σ → Prop) : List α → σ → Prop
  | [], _ => True
  | a :: as, s => P a s ∧ Along P as (step a s)

instance decidableAlong {P : α → σ → Prop} [∀ a s, Decidable (P a s)] :
    (as : List α) → (s : σ) → Decidable (Along step P as s)
  | [], _ => inferInstanceAs (Decidable True)
  | a :: as, s =>
    have : Decidable (Along step P as (step a s)) := decidableAlong as (step a s)
    inferInstanceAs (Decidable (P a s ∧ Along step P as (step a s)))

variable {step} {P Q : α → σ → Prop} {I : σ → Prop} {as : List α} {s : σ}

theorem along_append {bs : List α} :
    Along step P (as ++ bs) s ↔ Along step P as s ∧ Along step P bs (run step as s) := by
  induction as generalizing s with
  | nil => simp [Along]
  | cons a as ih => rw [List.cons_append, Along, ih, Along, run_cons, and_assoc]

/-- What every allowed step preserves holds after a run of them. -/
theorem Along.invariant (hstep : ∀ a s, I s → P a s → I (step a s)) (h : Along step P as s) (hs : I s) :
    I (run step as s) := by
  induction as generalizing s with
  | nil => exact hs
  | cons a as ih => exact ih h.2 (hstep a s hs h.1)

/-- Where an invariant makes two properties of a step equivalent, runs have both or none. -/
theorem along_iff (hstep : ∀ a s, I s → Q a s → I (step a s)) (hiff : ∀ a s, I s → (P a s ↔ Q a s))
    (hs : I s) : Along step P as s ↔ Along step Q as s := by
  induction as generalizing s with
  | nil => exact Iff.rfl
  | cons a as ih =>
    constructor
    · rintro ⟨ha, h⟩
      have hq := (hiff a s hs).mp ha
      exact ⟨hq, (ih (hstep a s hs hq)).mp h⟩
    · rintro ⟨hq, h⟩
      exact ⟨(hiff a s hs).mpr hq, (ih (hstep a s hs hq)).mpr h⟩

/-- Steps that are allowed, with an invariant they preserve, have what follows from both. -/
theorem Along.of_invariant (hstep : ∀ a s, I s → P a s → I (step a s)) (himp : ∀ a s, I s → P a s → Q a s)
    (h : Along step P as s) (hs : I s) : Along step Q as s := by
  induction as generalizing s with
  | nil => trivial
  | cons a as ih => exact ⟨himp a s hs h.1, ih h.2 (hstep a s hs h.1)⟩

/-- What every step preserves holds after every run. -/
theorem run_invariant (hstep : ∀ a s, I s → I (step a s)) (hs : I s) : I (run step as s) := by
  induction as generalizing s with
  | nil => exact hs
  | cons a as ih => exact ih (hstep a s hs)

/-- What follows from an invariant holds along every run. -/
theorem along_of_invariant (hstep : ∀ a s, I s → I (step a s)) (himp : ∀ a s, I s → Q a s) (hs : I s) :
    Along step Q as s := by
  induction as generalizing s with
  | nil => trivial
  | cons a as ih => exact ⟨himp a s hs, ih (hstep a s hs)⟩

end Esp8266At.Machine
