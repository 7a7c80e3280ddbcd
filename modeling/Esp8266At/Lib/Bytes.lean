import Mathlib

/-!
# Bytes in a 32-bit address space

Contents of a byte-addressed space with 32-bit addresses, runs of bytes in it, and little-endian
words. Addresses wrap at `2 ^ 32`; a run longer than the space goes round it.
-/

namespace ByteSpace

/-- The contents of a byte-addressed space. -/
abbrev Space := UInt32 → UInt8

theorem add_ofNat_toNat (a : UInt32) (i : ℕ) (h : a.toNat + i < 2 ^ 32) :
    (a + UInt32.ofNat i).toNat = a.toNat + i := by
  simp only [UInt32.toNat_add, UInt32.toNat_ofNat']
  omega

theorem add_ofNat_add (a : UInt32) (i j : ℕ) :
    a + UInt32.ofNat i + UInt32.ofNat j = a + UInt32.ofNat (i + j) := by
  rw [UInt32.add_assoc, ← UInt32.ofNat_add]

theorem sub_toNat (x a : UInt32) : (x - a).toNat = (2 ^ 32 - a.toNat + x.toNat) % 2 ^ 32 :=
  UInt32.toNat_sub x a

theorem add_ofNat_sub_self (a : UInt32) (i : ℕ) : (a + UInt32.ofNat i - a).toNat = i % 2 ^ 32 := by
  rw [UInt32.add_comm, UInt32.add_sub_cancel, UInt32.toNat_ofNat']

theorem add_ofNat_sub_toNat (x a : UInt32) : a + UInt32.ofNat (x - a).toNat = x := by
  rw [UInt32.ofNat_toNat, UInt32.add_comm, UInt32.sub_add_cancel]

/-! ### Runs of addresses -/

/-- The `n` addresses from `a` on. -/
def span (a : UInt32) (n : ℕ) : Set UInt32 := {x | (x - a).toNat < n}

theorem mem_span {x a : UInt32} {n : ℕ} : x ∈ span a n ↔ ∃ i < n, x = a + UInt32.ofNat i := by
  constructor
  · intro h
    exact ⟨(x - a).toNat, h, (add_ofNat_sub_toNat x a).symm⟩
  · rintro ⟨i, hi, rfl⟩
    show (a + UInt32.ofNat i - a).toNat < n
    rw [add_ofNat_sub_self]
    exact lt_of_le_of_lt (Nat.mod_le i _) hi

theorem add_mem_span {a : UInt32} {i n : ℕ} (h : i < n) : a + UInt32.ofNat i ∈ span a n :=
  mem_span.mpr ⟨i, h, rfl⟩

theorem span_add (a : UInt32) (n k : ℕ) : span a (n + k) = span a n ∪ span (a + UInt32.ofNat n) k := by
  ext x
  simp only [Set.mem_union, mem_span]
  constructor
  · rintro ⟨i, hi, rfl⟩
    by_cases h : i < n
    · exact Or.inl ⟨i, h, rfl⟩
    · refine Or.inr ⟨i - n, by omega, ?_⟩
      rw [add_ofNat_add, show n + (i - n) = i by omega]
  · rintro (⟨i, hi, rfl⟩ | ⟨i, hi, rfl⟩)
    · exact ⟨i, by omega, rfl⟩
    · exact ⟨n + i, by omega, by rw [add_ofNat_add]⟩

theorem span_mono (a : UInt32) {n k : ℕ} (h : n ≤ k) : span a n ⊆ span a k :=
  fun _ hx => lt_of_lt_of_le hx h

/-- Without wrapping, a run is an interval of address values. -/
theorem mem_span_iff_of_le {x a : UInt32} {n : ℕ} (h : a.toNat + n ≤ 2 ^ 32) :
    x ∈ span a n ↔ a.toNat ≤ x.toNat ∧ x.toNat < a.toNat + n := by
  show (x - a).toNat < n ↔ _
  rw [sub_toNat]
  have := x.toNat_lt
  have := a.toNat_lt
  omega

/-! ### Reading and storing runs of bytes -/

/-- The `n` bytes from address `a` on. -/
def slice (m : Space) (a : UInt32) (n : ℕ) : List UInt8 :=
  (List.range n).map fun i => m (a + UInt32.ofNat i)

@[simp] theorem slice_length (m : Space) (a : UInt32) (n : ℕ) : (slice m a n).length = n := by
  simp [slice]

@[simp] theorem slice_zero (m : Space) (a : UInt32) : slice m a 0 = [] := rfl

theorem slice_add (m : Space) (a : UInt32) (n k : ℕ) :
    slice m a (n + k) = slice m a n ++ slice m (a + UInt32.ofNat n) k := by
  simp only [slice, List.range_add, List.map_append, List.map_map]
  congr 1
  exact List.map_congr_left fun _ _ => by simp only [Function.comp_apply, add_ofNat_add]

theorem slice_getElem? (m : Space) (a : UInt32) (n i : ℕ) (h : i < n) :
    (slice m a n)[i]? = some (m (a + UInt32.ofNat i)) := by
  simp [slice, h]

theorem slice_getElem (m : Space) (a : UInt32) (n i : ℕ) (h : i < (slice m a n).length) :
    (slice m a n)[i] = m (a + UInt32.ofNat i) := by
  simp [slice]

theorem slice_congr {m m' : Space} {a : UInt32} {n : ℕ} (h : ∀ x ∈ span a n, m x = m' x) :
    slice m a n = slice m' a n :=
  List.map_congr_left fun _ hi => h _ (add_mem_span (List.mem_range.mp hi))

theorem slice_eq_replicate {m : Space} {a : UInt32} {n : ℕ} {b : UInt8}
    (h : ∀ i < n, m (a + UInt32.ofNat i) = b) : slice m a n = List.replicate n b := by
  refine List.eq_replicate_iff.mpr ⟨slice_length m a n, fun x hx => ?_⟩
  obtain ⟨i, hi, rfl⟩ := List.mem_map.mp hx
  exact h i (List.mem_range.mp hi)

/-- `bs` copied to the addresses from `a` on. -/
def store (m : Space) (a : UInt32) (bs : List UInt8) : Space :=
  fun x => bs.getD (x - a).toNat (m x)

@[simp] theorem store_nil (m : Space) (a : UInt32) : store m a [] = m := by
  funext x
  simp [store]

theorem store_of_not_mem {m : Space} {a x : UInt32} {bs : List UInt8} (h : x ∉ span a bs.length) :
    store m a bs x = m x := by
  have hle : bs.length ≤ (x - a).toNat := Nat.le_of_not_lt h
  simp [store, List.getElem?_eq_none hle]

theorem store_add (m : Space) (a : UInt32) (bs : List UInt8) (i : ℕ) (hi : i < bs.length)
    (hlen : bs.length ≤ 2 ^ 32) : store m a bs (a + UInt32.ofNat i) = bs[i] := by
  rw [store, add_ofNat_sub_self, Nat.mod_eq_of_lt (lt_of_lt_of_le hi hlen),
    List.getD_eq_getElem _ _ hi]

theorem store_append (m : Space) (a : UInt32) (xs ys : List UInt8)
    (hlen : xs.length + ys.length ≤ 2 ^ 32) :
    store (store m a xs) (a + UInt32.ofNat xs.length) ys = store m a (xs ++ ys) := by
  funext x
  have hsub : x - (a + UInt32.ofNat xs.length) = x - a - UInt32.ofNat xs.length := by grind
  have hval := sub_toNat (x - a) (UInt32.ofNat xs.length)
  have hlt := (x - a).toNat_lt
  rw [UInt32.toNat_ofNat'] at hval
  simp only [store, hsub]
  by_cases h : (x - a).toNat < xs.length
  · have hout : ys.length ≤ (x - a - UInt32.ofNat xs.length).toNat := by omega
    rw [List.getD_eq_default _ _ hout, List.getD_append _ _ _ _ h]
  · by_cases hx : xs.length < 2 ^ 32
    · have hin : (x - a - UInt32.ofNat xs.length).toNat = (x - a).toNat - xs.length := by omega
      rw [hin, List.getD_append_right _ _ _ _ (Nat.le_of_not_lt h),
        List.getD_eq_default xs _ (Nat.le_of_not_lt h)]
    · omega

/-! ### Little-endian words -/

/-- The number a little-endian digit string denotes. -/
def leNat : List UInt8 → ℕ
  | [] => 0
  | b :: bs => b.toNat + 256 * leNat bs

/-- The 32-bit word stored in the first four bytes. -/
def le32 (bs : List UInt8) : UInt32 := UInt32.ofNat (leNat (bs.take 4))

/-- The four bytes a 32-bit word is stored as. -/
def bytes32 (w : UInt32) : List UInt8 :=
  (List.range 4).map fun i => UInt8.ofNat (w.toNat / 256 ^ i)

@[simp] theorem bytes32_length (w : UInt32) : (bytes32 w).length = 4 := rfl

theorem le32_bytes32_append (w : UInt32) (rest : List UInt8) : le32 (bytes32 w ++ rest) = w := by
  have htake : (bytes32 w ++ rest).take 4 = bytes32 w := by
    rw [List.take_append_of_le_length (by simp), List.take_of_length_le (by simp)]
  rw [le32, htake]
  apply UInt32.toNat_inj.mp
  have := w.toNat_lt
  simp [bytes32, List.range_succ, leNat]
  omega

theorem le32_bytes32 (w : UInt32) : le32 (bytes32 w) = w := by
  simpa using le32_bytes32_append w []

/-- The word stored at the head of `bs`, byte by byte. -/
theorem le32_eq_of_getElem? {bs : List UInt8} {w : UInt32}
    (h : ∀ i < 4, bs[i]? = some (UInt8.ofNat (w.toNat / 256 ^ i))) : le32 bs = w := by
  have htake : bs.take 4 = bytes32 w := by
    refine List.ext_getElem? fun i => ?_
    by_cases hi : i < 4
    · rw [List.getElem?_take_of_lt hi, h i hi]
      simp [bytes32, hi]
    · rw [List.getElem?_take_eq_none (by omega), List.getElem?_eq_none (by simpa using hi)]
  rw [le32, htake, ← List.take_of_length_le (bytes32_length w).le]
  exact le32_bytes32 w

/-- The bytes of the word stored at the head of `bs`. -/
theorem byte_le32 {bs : List UInt8} (hlen : 4 ≤ bs.length) {j : ℕ} (hj : j < 4) :
    UInt8.ofNat ((le32 bs).toNat / 256 ^ j) = bs.getD j 0 := by
  obtain ⟨a, b, c, d, rest, rfl⟩ : ∃ a b c d rest, bs = a :: b :: c :: d :: rest := by
    obtain ⟨a, bs, rfl⟩ := List.exists_cons_of_length_pos (show 0 < bs.length by omega)
    obtain ⟨b, bs, rfl⟩ := List.exists_cons_of_length_pos (show 0 < bs.length by simp at hlen; omega)
    obtain ⟨c, bs, rfl⟩ := List.exists_cons_of_length_pos (show 0 < bs.length by simp at hlen; omega)
    obtain ⟨d, bs, rfl⟩ := List.exists_cons_of_length_pos (show 0 < bs.length by simp at hlen; omega)
    exact ⟨a, b, c, d, bs, rfl⟩
  have ha := a.toNat_lt
  have hb := b.toNat_lt
  have hc := c.toNat_lt
  have hd := d.toNat_lt
  have hval : (le32 (a :: b :: c :: d :: rest)).toNat =
      a.toNat + 256 * (b.toNat + 256 * (c.toNat + 256 * d.toNat)) := by
    have htake : (a :: b :: c :: d :: rest).take 4 = [a, b, c, d] := rfl
    rw [le32, htake, UInt32.toNat_ofNat']
    simp only [leNat]
    omega
  rw [hval]
  apply UInt8.toNat_inj.mp
  rw [UInt8.toNat_ofNat']
  interval_cases j
  · show _ = a.toNat
    omega
  · show _ = b.toNat
    omega
  · show _ = c.toNat
    omega
  · show _ = d.toNat
    omega

/-! ### Buffers -/

/-- The buffer with `bs` stored from index `i` on. -/
def overwrite (buf : List UInt8) (i : ℕ) (bs : List UInt8) : List UInt8 :=
  buf.take i ++ bs ++ buf.drop (i + bs.length)

/-- Storing bytes replaces as many. -/
theorem overwrite_append {front old bs rest : List UInt8} (h : old.length = bs.length) :
    overwrite (front ++ (old ++ rest)) front.length bs = front ++ (bs ++ rest) := by
  have hdrop : (front ++ (old ++ rest)).drop (front.length + bs.length) = rest := by
    rw [← List.append_assoc, List.drop_left' (by rw [List.length_append, h])]
  rw [overwrite, List.take_left, hdrop, List.append_assoc]

/-! ### Going through a run in pieces -/

/-- The length of the next piece when at most `size` bytes are taken at a time. -/
def piece (size remaining : UInt32) : UInt32 := if remaining < size then remaining else size

theorem piece_toNat (size remaining : UInt32) :
    (piece size remaining).toNat = min remaining.toNat size.toNat := by
  unfold piece
  split_ifs with h
  · have := UInt32.lt_iff_toNat_lt.mp h
    omega
  · have := mt UInt32.lt_iff_toNat_lt.mpr h
    omega

theorem sub_piece_toNat (size remaining : UInt32) :
    (remaining - piece size remaining).toNat = remaining.toNat - size.toNat := by
  have h := piece_toNat size remaining
  have := remaining.toNat_lt
  rw [sub_toNat, h]
  omega

/-- The number of pieces of at most 256 bytes. -/
def pieces (n : ℕ) : ℕ := (n + 255) / 256

theorem pieces_zero : pieces 0 = 0 := rfl

theorem pieces_piece {remaining : UInt32} (h : 0 < remaining.toNat) :
    pieces remaining.toNat = 1 + pieces (remaining - piece 256 remaining).toNat := by
  have h256 : (256 : UInt32).toNat = 256 := rfl
  have hsub := sub_piece_toNat 256 remaining
  simp only [pieces]
  omega

/-- A run is its next piece and what remains after it. -/
theorem slice_piece (m : Space) (a size remaining : UInt32) :
    slice m a remaining.toNat = slice m a (piece size remaining).toNat ++
      slice m (a + piece size remaining) (remaining - piece size remaining).toNat := by
  have hsplit : remaining.toNat =
      (piece size remaining).toNat + (remaining - piece size remaining).toNat := by
    rw [sub_piece_toNat, piece_toNat]
    omega
  conv_lhs => rw [hsplit, slice_add]
  rw [UInt32.ofNat_toNat]

end ByteSpace
