import Mathlib.Algebra.BigOperators.Group.Finset.Basic
import Mathlib.Algebra.BigOperators.Fin
import Mathlib.Data.Fintype.Basic

/-!
# Tables of optional entries

An array of `n` pointers to entries, some of them null: searching it in the order of its indices, setting
and clearing entries, and counting those with a property.
-/

namespace Esp8266At

abbrev Table (n : ℕ) (α : Type*) := Fin n → Option α

namespace Table

variable {n : ℕ} {α : Type*}

/-- The table with entry `i` replaced. -/
def set (t : Table n α) (i : Fin n) (o : Option α) : Table n α := Function.update t i o

/-- The first entry with property `p`. -/
def firstWhere (p : α → Bool) (t : Table n α) : Option (Fin n) :=
  (List.finRange n).find? fun i => (t i).any p

/-- The first null entry. -/
def firstEmpty (t : Table n α) : Option (Fin n) := (List.finRange n).find? fun i => (t i).isNone

/-- The number of entries with property `p`. -/
def count (p : α → Bool) (t : Table n α) : ℕ := ∑ i, if (t i).any p then 1 else 0

/-- A function applied to the entries. -/
def map {β : Type*} (t : Table n α) (f : α → β) : Table n β := fun i => (t i).map f

variable {t : Table n α} {i j : Fin n} {a : α} {o : Option α} {p : α → Bool}

@[simp] theorem set_self : t.set i o i = o :=
  Function.update_self (β := fun _ => Option α) i o t

theorem set_ne (h : j ≠ i) : t.set i o j = t j :=
  Function.update_of_ne (β := fun _ => Option α) h o t

@[simp] theorem map_apply {β : Type*} {f : α → β} : t.map f i = (t i).map f := rfl

@[simp] theorem map_set {β : Type*} {f : α → β} : (t.set i o).map f = (t.map f).set i (o.map f) := by
  funext j
  exact Function.apply_update (fun _ => Option.map f) t i o j

/-- An entry is replaced by itself. -/
theorem set_of_eq (h : t i = o) : t.set i o = t := by
  subst h
  exact Function.update_eq_self i t

/-! ### Searching -/

theorem firstWhere_some (h : t.firstWhere p = some i) : ∃ a, t i = some a ∧ p a = true := by
  have hany := List.find?_some (p := fun i => (t i).any p) h
  exact (Option.any_eq_true p (t i)).mp hany

theorem firstWhere_none (h : t.firstWhere p = none) (hi : t i = some a) : p a = false := by
  have hnone := List.find?_eq_none.mp h i (List.mem_finRange i)
  rw [hi] at hnone
  simpa using hnone

/-- The search finds the only entry with the property. -/
theorem firstWhere_of_unique (hi : t i = some a) (ha : p a = true)
    (hunique : ∀ j b, t j = some b → p b = true → j = i) : t.firstWhere p = some i := by
  cases h : t.firstWhere p with
  | none => exact absurd ha (by rw [firstWhere_none h hi]; exact Bool.false_ne_true)
  | some j =>
    obtain ⟨b, hb, hpb⟩ := firstWhere_some h
    rw [hunique j b hb hpb]

theorem firstWhere_map {β : Type*} {f : α → β} {q : β → Bool} :
    (t.map f).firstWhere q = t.firstWhere (fun a => q (f a)) := by
  simp [firstWhere, Option.any_map]

theorem firstEmpty_some (h : t.firstEmpty = some i) : t i = none := by
  simpa using List.find?_some h

/-! ### Counting -/

theorem count_set (t : Table n α) (i : Fin n) (o : Option α) :
    (t.set i o).count p + (if (t i).any p then 1 else 0) = t.count p + (if o.any p then 1 else 0) := by
  have hrest : ∀ u : Table n α, u.count p =
      (if (u i).any p then 1 else 0) + ∑ j ∈ Finset.univ.erase i, if (u j).any p then 1 else 0 :=
    fun u => (Finset.add_sum_erase _ (fun j => if (u j).any p then 1 else 0) (Finset.mem_univ i)).symm
  have hsame : (∑ j ∈ Finset.univ.erase i, if (t.set i o j).any p then 1 else 0) =
      ∑ j ∈ Finset.univ.erase i, if (t j).any p then 1 else 0 :=
    Finset.sum_congr rfl fun j hj => by rw [set_ne (Finset.ne_of_mem_erase hj)]
  rw [hrest t, hrest (t.set i o), hsame, set_self]
  omega

theorem count_pos (hi : t i = some a) (ha : p a = true) : 0 < t.count p := by
  have h := count_set (p := p) t i none
  rw [hi] at h
  simp [ha] at h
  omega

end Table

end Esp8266At
