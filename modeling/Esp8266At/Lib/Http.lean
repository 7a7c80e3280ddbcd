import Esp8266At.Lib.CString

/-!
# Heads of HTTP responses

The head of a response ends with the first blank line; its first line is the status line, the lines
behind it are the header fields. Everything here is about the bytes received, of which a header field is
told by its offset.
-/

namespace Http

open CString

def crlf : List UInt8 := [0x0D, 0x0A]

def blankLine : List UInt8 := crlf ++ crlf

/-- The line that begins at offset `o`. -/
def lineAt (bs : List UInt8) (o : ℕ) : List UInt8 :=
  (bs.drop o).take ((find crlf (bs.drop o)).getD (bs.drop o).length)

/-- The status code: the second word of the first line. -/
def statusCode (bs : List UInt8) : List UInt8 :=
  (((lineAt bs 0).dropWhile (· ≠ 0x20)).drop 1).takeWhile (· ≠ 0x20)

/-- A header field at offset `o`: a line behind the status line and before the blank line, with a colon. -/
def IsHeaderField (bs : List UInt8) (o : ℕ) : Prop :=
  o < (find blankLine bs).getD 0 ∧ crlf <:+ bs.take o ∧ 0x3A ∈ lineAt bs o

instance (bs : List UInt8) (o : ℕ) : Decidable (IsHeaderField bs o) := inferInstanceAs (Decidable (_ ∧ _))

def fieldName (bs : List UInt8) (o : ℕ) : List UInt8 := (lineAt bs o).takeWhile (· ≠ 0x3A)

def fieldValue (bs : List UInt8) (o : ℕ) : List UInt8 := ((lineAt bs o).dropWhile (· ≠ 0x3A)).drop 1

def lower (c : UInt8) : UInt8 := if 0x41 ≤ c ∧ c ≤ 0x5A then c + 0x20 else c

/-- A header field of that name; the case of its letters does not matter. -/
def IsFieldNamed (bs name : List UInt8) (o : ℕ) : Prop :=
  IsHeaderField bs o ∧ (fieldName bs o).map lower = name.map lower

instance (bs name : List UInt8) (o : ℕ) : Decidable (IsFieldNamed bs name o) :=
  inferInstanceAs (Decidable (_ ∧ _))

def isBlank (c : UInt8) : Bool := c = 0x20 ∨ c = 0x09

/-- A value without the blanks around it. -/
def trim (v : List UInt8) : List UInt8 := (v.dropWhile isBlank).rdropWhile isBlank

/-- The number that a value of decimal digits denotes. -/
def decimalValue (v : List UInt8) : Option ℕ :=
  if trim v ≠ [] ∧ ∀ c ∈ trim v, isDigit c = true then some (decimal (trim v)) else none

example : IsFieldNamed (ascii "HTTP/1.1 200 OK\r\ncontent-length:  12 \r\n\r\n") (ascii "Content-Length") 17 ∧
    decimalValue (ascii "  12 ") = some 12 ∧ decimalValue (ascii "12 kB") = none := by decide +kernel

/-! ### Values -/

theorem isSpace_of_isBlank {c : UInt8} (h : isBlank c = true) : isSpace c = true := by
  simp only [isBlank, Bool.decide_or, Bool.or_eq_true, decide_eq_true_eq] at h
  obtain rfl | rfl := h <;> decide

theorem ne_zero_of_isBlank {c : UInt8} (h : isBlank c = true) : c ≠ 0 := by
  rintro rfl
  exact absurd h (by decide)

theorem not_isDigit_of_isBlank {c : UInt8} (h : isBlank c = true) : isDigit c = false := by
  simp only [isBlank, Bool.decide_or, Bool.or_eq_true, decide_eq_true_eq] at h
  obtain rfl | rfl := h <;> decide

theorem not_isSpace_of_isDigit {c : UInt8} (h : isDigit c = true) : isSpace c = false := by
  simp only [isDigit, Bool.decide_and, Bool.and_eq_true, decide_eq_true_eq, UInt8.le_iff_toNat_le] at h
  have h30 : c.toNat ≥ 0x30 := h.1
  simp only [isSpace, Bool.decide_or, Bool.decide_and, Bool.or_eq_false_iff, decide_eq_false_iff_not,
    Bool.and_eq_false_iff, UInt8.le_iff_toNat_le, ← UInt8.toNat_inj]
  have h20 : (0x20 : UInt8).toNat = 0x20 := by decide
  have h0d : (0x0D : UInt8).toNat = 0x0D := by decide
  omega

theorem trim_split (v : List UInt8) : ∃ before behind : List UInt8, v = before ++ trim v ++ behind ∧
    (∀ c ∈ before, isBlank c = true) ∧ ∀ c ∈ behind, isBlank c = true := by
  have hfront : v.takeWhile isBlank ++ v.dropWhile isBlank = v := List.takeWhile_append_dropWhile
  have hback := List.takeWhile_append_dropWhile (p := isBlank) (l := (v.dropWhile isBlank).reverse)
  refine ⟨v.takeWhile isBlank, ((v.dropWhile isBlank).reverse.takeWhile isBlank).reverse, ?_, ?_, ?_⟩
  · rw [List.append_assoc, trim, List.rdropWhile, ← List.reverse_append, hback, List.reverse_reverse, hfront]
  · exact fun c hc => List.mem_takeWhile_imp hc
  · intro c hc
    rw [List.mem_reverse] at hc
    exact List.mem_takeWhile_imp hc

/-- `atoi` reads the number of a value, up to the largest `int`. -/
theorem atoi_of_decimalValue {v : List UInt8} {n : ℕ} (h : decimalValue v = some n) :
    atoi v = UInt32.ofNat (min n (2 ^ 31 - 1)) := by
  rw [decimalValue] at h
  split_ifs at h with hd
  obtain rfl := Option.some.inj h
  obtain ⟨before, behind, hv, hbefore, hbehind⟩ := trim_split v
  obtain ⟨hne, hdigits⟩ := hd
  generalize trim v = t at *
  have htext : text v = v := by
    rw [text, List.takeWhile_eq_self_iff]
    intro c hc
    rw [hv, List.mem_append, List.mem_append] at hc
    have hc0 : c ≠ 0 := by
      obtain (hc | hc) | hc := hc
      · exact ne_zero_of_isBlank (hbefore c hc)
      · rintro rfl
        exact absurd (hdigits 0 hc) (by decide)
      · exact ne_zero_of_isBlank (hbehind c hc)
    simpa using hc0
  cases t with
  | nil => exact absurd rfl hne
  | cons c t =>
    have hc := hdigits c (by simp)
    have hdrop : v.dropWhile isSpace = c :: t ++ behind := by
      rw [hv, List.append_assoc, List.dropWhile_append_of_pos
        (fun b hb => isSpace_of_isBlank (hbefore b hb)), List.cons_append, List.dropWhile_cons_of_neg]
      simp [not_isSpace_of_isDigit hc]
    have htake : (c :: t ++ behind).takeWhile isDigit = c :: t := by
      rw [List.takeWhile_append_of_pos hdigits]
      cases behind with
      | nil => simp
      | cons b behind => simp [not_isDigit_of_isBlank (hbehind b (by simp))]
    have hdec : decimal (c :: t ++ behind) = decimal (c :: t) := by
      have hself : (c :: t).takeWhile isDigit = c :: t := List.takeWhile_eq_self_iff.mpr hdigits
      rw [decimal, decimal, htake, hself]
    have hminus : c ≠ 0x2D := by
      rintro rfl
      exact absurd hc (by decide)
    have hplus : c ≠ 0x2B := by
      rintro rfl
      exact absurd hc (by decide)
    rw [atoi, htext, hdrop, List.cons_append, ← List.cons_append]
    simp only [List.cons_append, hminus, hplus, if_false]
    rw [← List.cons_append, hdec]

theorem decimalValue_cons_blank {c : UInt8} (hc : isBlank c = true) (v : List UInt8) :
    decimalValue (c :: v) = decimalValue v := by
  have htrim : trim (c :: v) = trim v := by rw [trim, trim, List.dropWhile_cons_of_pos hc]
  rw [decimalValue, decimalValue, htrim]

/-! ### Lines -/

theorem crlf_not_prefix {c : UInt8} {bs : List UInt8} (h : c ≠ 0x0D) : ¬crlf <+: c :: bs := by
  intro hpre
  rw [crlf, List.cons_prefix_cons] at hpre
  exact h hpre.1.symm

/-- A line that begins with `pre`, where no line ends in `pre`. -/
theorem lineAt_of_prefix {bs pre : List UInt8} {o e : ℕ} (hpre : pre <+: bs.drop o)
    (hno : ∀ c ∈ pre, c ≠ 0x0D) (he : find crlf (bs.drop (o + pre.length)) = some e) :
    lineAt bs o = pre ++ (bs.drop (o + pre.length)).take e := by
  obtain ⟨rest, hrest⟩ := hpre
  have hdrop : bs.drop (o + pre.length) = rest := by
    rw [← List.drop_drop, ← hrest, List.drop_left]
  rw [hdrop] at he ⊢
  have hfind : find crlf (pre ++ rest) = some (pre.length + e) := by
    rw [find_eq_some_iff] at he ⊢
    refine ⟨by simpa [← List.drop_drop] using he.1, fun j hj => ?_⟩
    by_cases hin : j < pre.length
    · have hget : (pre ++ rest).drop j = pre[j] :: (pre ++ rest).drop (j + 1) := by
        rw [List.drop_eq_getElem_cons (by rw [List.length_append]; omega), List.getElem_append_left hin]
      rw [hget]
      exact crlf_not_prefix (hno _ (List.getElem_mem hin))
    · have := he.2 (j - pre.length) (by omega)
      rwa [List.drop_append, List.drop_eq_nil_of_le (by omega), List.nil_append]
  rw [lineAt, ← hrest, hfind, Option.getD_some, List.take_append, List.take_of_length_le (by omega),
    Nat.add_sub_cancel_left]

end Http
