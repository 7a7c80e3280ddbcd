import Mathlib

/-!
# Formatted texts

What `sprintf` writes, piece by piece, and bounds for its length. A number is printed from a value of its C
type, which bounds the number of its characters.
-/

namespace Printf

/-- A piece of a format: text, which is literal or comes from `%s`, or a conversion with its value. -/
inductive Piece where
  | text (s : String)
  | u8 (v : UInt8)
  | u16 (v : UInt16)
  | u32 (v : UInt32)
  | i8 (v : Int8)
  | i32 (v : Int32)
  /-- `%0<width>d` of a value of at most `width` digits. -/
  | padded (width : ℕ) (v : Fin (10 ^ width))
  /-- `%0<width>X`. -/
  | hex (width : ℕ) (v : UInt32)
  /-- `%02X`. -/
  | hexByte (v : UInt8)

def digits (n : ℕ) : List Char := Nat.toDigits 10 n

def signed (v : ℤ) : List Char := if v < 0 then '-' :: digits v.natAbs else digits v.natAbs

def hexDigits (width n : ℕ) : List Char := List.leftpad width '0' ((Nat.toDigits 16 n).map Char.toUpper)

namespace Piece

/-- The characters printed. -/
def chars : Piece → List Char
  | text s => s.toList
  | u8 v => digits v.toNat
  | u16 v => digits v.toNat
  | u32 v => digits v.toNat
  | i8 v => signed v.toInt
  | i32 v => signed v.toInt
  | padded width v => List.leftpad width '0' (digits v.val)
  | hex width v => hexDigits width v.toNat
  | hexByte v => hexDigits 2 v.toNat

/-- How many characters are printed at most. -/
def bound : Piece → ℕ
  | text s => s.length
  | u8 _ => 3
  | u16 _ => 5
  | u32 _ => 10
  | i8 _ => 4
  | i32 _ => 11
  | padded width _ => max width 1
  | hex width _ => max width 8
  | hexByte _ => 2

end Piece

/-- What `sprintf` writes, without the terminating zero. -/
def sprintf (ps : List Piece) : List Char := ps.flatMap Piece.chars

/-- The number of bytes `sprintf` writes, with the terminating zero. -/
def written (ps : List Piece) : ℕ := (sprintf ps).length + 1

example : sprintf [.text "v", .u8 7, .text ".", .hex 6 0x1000, .text ".", .i32 (-1)] = "v7.001000.-1".toList := by
  decide

/-! ### Lengths -/

theorem digits_length_le {n k : ℕ} (hk : 0 < k) (h : n < 10 ^ k) : (digits n).length ≤ k :=
  (Nat.length_toDigits_le_iff (by omega) hk).mpr h

theorem digits_length_pos (n : ℕ) : 0 < (digits n).length := Nat.length_toDigits_pos

theorem signed_length_le {v : ℤ} {k : ℕ} (hk : 0 < k) (h : v.natAbs < 10 ^ k) : (signed v).length ≤ k + 1 := by
  have hd := digits_length_le hk h
  unfold signed
  split_ifs
  · rw [List.length_cons]
    omega
  · omega

theorem hexDigits_length_le {width n k : ℕ} (hk : 0 < k) (h : n < 16 ^ k) :
    (hexDigits width n).length ≤ max width k := by
  have hd : (Nat.toDigits 16 n).length ≤ k := (Nat.length_toDigits_le_iff (by omega) hk).mpr h
  rw [hexDigits, List.length_leftpad, List.length_map]
  omega

theorem Piece.chars_length_le (p : Piece) : p.chars.length ≤ p.bound := by
  cases p with
  | text s => exact le_of_eq String.length_toList
  | u8 v =>
    have := v.toNat_lt
    exact digits_length_le (k := 3) (by omega) (by omega)
  | u16 v =>
    have := v.toNat_lt
    exact digits_length_le (k := 5) (by omega) (by omega)
  | u32 v =>
    have := v.toNat_lt
    exact digits_length_le (k := 10) (by omega) (by omega)
  | i8 v =>
    have hlo := v.le_toInt
    have hhi := v.toInt_lt
    exact signed_length_le (k := 3) (by omega) (by omega)
  | i32 v =>
    have hlo := v.le_toInt
    have hhi := v.toInt_lt
    exact signed_length_le (k := 10) (by omega) (by omega)
  | padded width v =>
    have hpad : (Piece.padded width v).chars.length = max width (digits v.val).length := List.length_leftpad
    have hv := v.isLt
    rw [hpad, bound]
    rcases Nat.eq_zero_or_pos width with rfl | hw
    · have hone := digits_length_le (n := v.val) (k := 1) (by omega) (by omega)
      omega
    · have := digits_length_le hw hv
      omega
  | hex width v =>
    have := v.toNat_lt
    exact hexDigits_length_le (k := 8) (by omega) (by omega)
  | hexByte v =>
    have := v.toNat_lt
    exact hexDigits_length_le (k := 2) (by omega) (by omega)

@[simp] theorem written_nil : written [] = 1 := rfl

theorem written_cons (p : Piece) (ps : List Piece) : written (p :: ps) = p.chars.length + written ps := by
  rw [written, written, sprintf, List.flatMap_cons, List.length_append, sprintf]
  omega

theorem written_cons_le {p : Piece} {ps : List Piece} {n m : ℕ} (hp : p.chars.length ≤ n)
    (hps : written ps ≤ m) : written (p :: ps) ≤ n + m := by
  rw [written_cons]
  omega

/-- What is written is bounded by the types of the fields. -/
theorem written_le (ps : List Piece) : written ps ≤ (ps.map Piece.bound).sum + 1 := by
  induction ps with
  | nil => simp
  | cons p ps ih =>
    have hp := p.chars_length_le
    rw [written_cons, List.map_cons, List.sum_cons]
    omega

end Printf
