import Mathlib.Data.List.Rotate
import Mathlib.Data.List.DropRight

/-!
# Rings

The cells of a ring are written round and round. Read from the next cell to be written on, they are in the order in
which they have been written, and writing drops the oldest cells and adds the new ones (`rotate_overwrite`, `slide`).
The newest of them make a queue of limited length, which gives up its oldest elements when it is full (`push`).
-/

namespace Ring

variable {α : Type*}

/-- The list moved on by `xs`: as many elements are dropped at the front. -/
def slide (w xs : List α) : List α := (w ++ xs).drop xs.length

@[simp] theorem slide_nil (w : List α) : slide w [] = w := by simp [slide]

@[simp] theorem slide_length (w xs : List α) : (slide w xs).length = w.length := by simp [slide]

theorem slide_slide (w xs ys : List α) : slide (slide w xs) ys = slide w (xs ++ ys) := by
  unfold slide
  rw [← List.drop_append_of_le_length (by simp), List.drop_drop, List.append_assoc, List.length_append]

/-- The cells from `i` on are replaced. -/
def overwrite (cells : List α) (i : ℕ) (xs : List α) : List α := cells.take i ++ xs ++ cells.drop (i + xs.length)

theorem overwrite_length (cells xs : List α) {i : ℕ} (h : i + xs.length ≤ cells.length) :
    (overwrite cells i xs).length = cells.length := by
  simp only [overwrite, List.length_append, List.length_take, List.length_drop]
  omega

/-- Writing without passing the end. -/
theorem rotate_overwrite (cells xs : List α) {i : ℕ} (h : i + xs.length ≤ cells.length) :
    (overwrite cells i xs).rotate (i + xs.length) = slide (cells.rotate i) xs := by
  have hlen : (cells.take i ++ xs).length = i + xs.length := by
    rw [List.length_append, List.length_take, min_eq_left (by omega)]
  rw [List.rotate_eq_drop_append_take (by rw [overwrite_length _ _ h]; exact h),
    List.rotate_eq_drop_append_take (by omega : i ≤ cells.length)]
  unfold overwrite slide
  rw [List.drop_append_of_le_length hlen.ge, List.take_append_of_le_length hlen.ge,
    List.drop_of_length_le hlen.le, List.take_of_length_le hlen.le, List.nil_append, List.append_assoc,
    List.drop_append_of_le_length (by rw [List.length_drop]; omega), List.drop_drop]

/-! ### Limited queues -/

/-- The queue after `xs` has been added, of which it keeps the last `n` elements. -/
def push (n : ℕ) (q xs : List α) : List α := (q ++ xs).rtake n

/-- Nothing is lost while there is room. -/
theorem push_of_le {n : ℕ} {q xs : List α} (h : q.length + xs.length ≤ n) : push n q xs = q ++ xs := by
  unfold push List.rtake
  rw [List.length_append, Nat.sub_eq_zero_of_le h, List.drop_zero]

variable {w q xs : List α} {k n : ℕ}

/-- Adding to the newest cells while there is room. -/
theorem drop_slide (hq : w.drop k = q) (hle : k ≤ w.length) (hroom : xs.length ≤ k) :
    (slide w xs).drop (k - xs.length) = q ++ xs := by
  unfold slide
  rw [List.drop_drop, show xs.length + (k - xs.length) = k by omega, List.drop_append_of_le_length hle, hq]

/-- Adding more than there is room for: all cells but one belong to the queue. -/
theorem drop_slide_full (hq : w.drop k = q) (hle : k ≤ w.length) (hw : w.length = n + 1) (hfull : k ≤ xs.length + 1) :
    (slide w xs).drop 1 = push n q xs := by
  have hlen : q.length = n + 1 - k := by rw [← hq, List.length_drop, hw]
  have hsplit : w ++ xs = w.take k ++ (q ++ xs) := by rw [← List.append_assoc, ← hq, List.take_append_drop]
  have htake : (w.take k).length = k := by rw [List.length_take, min_eq_left hle]
  unfold slide push List.rtake
  rw [List.drop_drop, hsplit, List.length_append, hlen]
  rw [show xs.length + 1 = (w.take k).length + (n + 1 - k + xs.length - n) by omega, List.drop_length_add_append]

end Ring
