import Mathlib.Data.Finset.Image
import Mathlib.Data.Finset.Basic
import Mathlib.Data.List.Count
import Mathlib.Tactic.SplitIfs

/-!
# Blocks that are allocated and freed

A list of allocations and frees, performed one after the other on the set of the blocks that are allocated. It fails
if a block is freed that is not allocated, or allocated while it is. So what has been performed has freed each block
as often as it was allocated, but for those that are allocated at the end (`count_free`).
-/

namespace Esp8266At.Ledger

inductive Op (β : Type*) where
  | alloc (b : β)
  | free (b : β)
  deriving DecidableEq

variable {β : Type*} [DecidableEq β]

/-- The blocks after the operations. -/
def perform : List (Op β) → Finset β → Option (Finset β)
  | [], live => some live
  | .alloc b :: ops, live => if b ∈ live then none else perform ops (insert b live)
  | .free b :: ops, live => if b ∈ live then perform ops (live.erase b) else none

variable {ops ops' : List (Op β)} {live live' : Finset β} {b : β}

@[simp] theorem perform_nil : perform [] live = some live := rfl

theorem perform_alloc (h : b ∉ live) : perform (.alloc b :: ops) live = perform ops (insert b live) := if_neg h

theorem perform_free (h : b ∈ live) : perform (.free b :: ops) live = perform ops (live.erase b) := if_pos h

theorem perform_append : perform (ops ++ ops') live = (perform ops live).bind (perform ops') := by
  induction ops generalizing live with
  | nil => rfl
  | cons op ops ih =>
    cases op with
    | alloc b =>
      simp only [List.cons_append, perform]
      split_ifs
      · rfl
      · exact ih
    | free b =>
      simp only [List.cons_append, perform]
      split_ifs
      · exact ih
      · rfl

theorem perform_trans {middle : Finset β} (h : perform ops live = some middle)
    (h' : perform ops' middle = some live') : perform (ops ++ ops') live = some live' := by
  rw [perform_append, h]
  exact h'

/-- A block that is allocated, used by operations that leave it alone, and freed. -/
theorem perform_scope (h : b ∉ live) (hops : perform ops (insert b live) = some (insert b live)) :
    perform (.alloc b :: (ops ++ [.free b])) live = some live := by
  rw [perform_alloc h, perform_append, hops, Option.bind_some, perform_free (Finset.mem_insert_self b live),
    Finset.erase_insert h]
  rfl

/-- Blocks that are freed in the reverse order. -/
theorem perform_unwound {bs : List β} (hnodup : bs.Nodup) (hnew : ∀ b ∈ bs, b ∉ live) :
    perform (bs.map .alloc ++ bs.reverse.map .free) live = some live := by
  induction bs generalizing live with
  | nil => rfl
  | cons b bs ih =>
    obtain ⟨hb, hnodup⟩ := List.nodup_cons.mp hnodup
    have hinner : perform (bs.map .alloc ++ bs.reverse.map .free) (insert b live) = some (insert b live) :=
      ih hnodup fun c hc => by
        have hne : c ≠ b := fun h => hb (h ▸ hc)
        simp [hne, hnew c (List.mem_cons_of_mem b hc)]
    have hscope := perform_scope (hnew b List.mem_cons_self) hinner
    rw [List.map_cons, List.reverse_cons, List.map_append, List.cons_append, ← List.append_assoc]
    exact hscope

/-- How often a block has been freed. -/
theorem count_free (h : perform ops live = some live') (b : β) :
    ops.count (.free b) + (if b ∈ live' then 1 else 0) = ops.count (.alloc b) + if b ∈ live then 1 else 0 := by
  induction ops generalizing live with
  | nil =>
    obtain rfl := Option.some.inj h
    rfl
  | cons op ops ih =>
    cases op with
    | alloc c =>
      simp only [perform] at h
      split_ifs at h with hc
      have hrest := ih h
      by_cases hbc : b = c
      · subst hbc
        rw [if_neg hc]
        rw [if_pos (Finset.mem_insert_self b live)] at hrest
        simpa using hrest
      · have hmem : b ∈ insert c live ↔ b ∈ live := by simp [hbc]
        have hne : c ≠ b := fun h => hbc h.symm
        simp only [hmem] at hrest
        simpa [hne] using hrest
    | free c =>
      simp only [perform] at h
      split_ifs at h with hc
      have hrest := ih h
      by_cases hbc : b = c
      · subst hbc
        rw [if_pos hc]
        rw [if_neg (Finset.notMem_erase b live)] at hrest
        simp only [List.count_cons_self]
        have hother : (Op.free b :: ops).count (.alloc b) = ops.count (.alloc b) := by simp
        omega
      · have hmem : b ∈ live.erase c ↔ b ∈ live := by simp [hbc]
        have hne : c ≠ b := fun h => hbc h.symm
        simp only [hmem] at hrest
        simpa [hne] using hrest

end Esp8266At.Ledger
