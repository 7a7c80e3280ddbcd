import Mathlib

/-!
# C strings

Strings of C in memory: the bytes up to the first zero byte. A list stands for the memory from the
pointer on; where it ends without a zero byte, the string ends with it.
-/

namespace CString

/-- The characters of a text literal as bytes. -/
def ascii (s : String) : List UInt8 := s.toList.map fun c => UInt8.ofNat c.toNat

/-- The string at the head of `bs`. -/
def text (bs : List UInt8) : List UInt8 := bs.takeWhile (· ≠ 0)

def strlen (bs : List UInt8) : ℕ := (text bs).length

/-- The string at the head of `bs` as `%s` prints it. -/
def string (bs : List UInt8) : String := String.ofList ((text bs).map fun b => Char.ofNat b.toNat)

/-- The offset of the first occurrence of `needle` in a text. -/
def find (needle : List UInt8) : List UInt8 → Option ℕ
  | [] => if needle = [] then some 0 else none
  | c :: cs => if needle.isPrefixOf (c :: cs) then some 0 else (find needle cs).map (· + 1)

/-- `strstr`: the offset of the first occurrence of `needle` in the string at the head of `bs`. -/
def strstr (bs needle : List UInt8) : Option ℕ := find needle (text bs)

theorem find_le {needle cs : List UInt8} {k : ℕ} (h : find needle cs = some k) :
    k + needle.length ≤ cs.length := by
  induction cs generalizing k with
  | nil =>
    rw [find] at h
    split_ifs at h with hn
    · simp at h
      simp [← h, hn]
  | cons c cs ih =>
    rw [find] at h
    split_ifs at h with hp
    · obtain rfl := Option.some.inj h
      simpa using (List.isPrefixOf_iff_prefix.mp hp).length_le
    · obtain ⟨j, hj, rfl⟩ := Option.map_eq_some_iff.mp h
      have := ih hj
      simp only [List.length_cons]
      omega

/-- `find` gives the first of the offsets at which `needle` stands. -/
theorem find_eq_some_iff {needle cs : List UInt8} {k : ℕ} :
    find needle cs = some k ↔ needle <+: cs.drop k ∧ ∀ j < k, ¬needle <+: cs.drop j := by
  induction cs generalizing k with
  | nil =>
    rw [find]
    by_cases hn : needle = []
    · subst hn
      refine ⟨fun h => ?_, fun h => ?_⟩
      · obtain rfl : 0 = k := by simpa using h
        simp
      · have : k = 0 := by
          by_contra hk
          exact h.2 0 (by omega) List.nil_prefix
        simp [this]
    · simp [hn]
  | cons c cs ih =>
    rw [find]
    by_cases hp : needle.isPrefixOf (c :: cs)
    · rw [if_pos hp]
      rw [List.isPrefixOf_iff_prefix] at hp
      refine ⟨fun h => ?_, fun h => ?_⟩
      · obtain rfl := Option.some.inj h
        exact ⟨hp, by simp⟩
      · have : k = 0 := by
          by_contra hk
          exact h.2 0 (by omega) hp
        rw [this]
    · rw [if_neg hp, Option.map_eq_some_iff]
      rw [List.isPrefixOf_iff_prefix] at hp
      refine ⟨?_, fun h => ?_⟩
      · rintro ⟨i, hi, rfl⟩
        obtain ⟨h1, h2⟩ := ih.mp hi
        refine ⟨by simpa using h1, fun j hj => ?_⟩
        cases j with
        | zero => simpa using hp
        | succ j => simpa using h2 j (by omega)
      · cases k with
        | zero => exact absurd (by simpa using h.1) hp
        | succ k =>
          refine ⟨k, ih.mpr ⟨by simpa using h.1, fun j hj => ?_⟩, rfl⟩
          simpa using h.2 (j + 1) (by omega)

theorem exists_find {needle cs : List UInt8} {j : ℕ} (h : needle <+: cs.drop j) :
    ∃ k ≤ j, find needle cs = some k := by
  classical
  have hex : ∃ k, needle <+: cs.drop k := ⟨j, h⟩
  refine ⟨Nat.find hex, Nat.find_min' hex h, ?_⟩
  rw [find_eq_some_iff]
  exact ⟨Nat.find_spec hex, fun i hi => Nat.find_min hex hi⟩

/-- What stands in a text stands there in a longer one. -/
theorem find_append {needle cs : List UInt8} {k : ℕ} (h : find needle cs = some k) (ds : List UInt8) :
    find needle (cs ++ ds) = some k := by
  have hle := find_le h
  rw [find_eq_some_iff] at h ⊢
  refine ⟨?_, fun j hj hpre => h.2 j hj ?_⟩
  · rw [List.drop_append_of_le_length (by omega)]
    exact h.1.trans (List.prefix_append _ _)
  · rw [List.drop_append_of_le_length (by omega)] at hpre
    refine List.prefix_of_prefix_length_le hpre (List.prefix_append _ _) ?_
    rw [List.length_drop]
    omega

theorem find_drop {needle cs : List UInt8} {j k : ℕ} (h : find needle cs = some k) (hj : j ≤ k) :
    find needle (cs.drop j) = some (k - j) := by
  rw [find_eq_some_iff] at h ⊢
  simp only [List.drop_drop]
  refine ⟨?_, fun i hi => h.2 (j + i) (by omega)⟩
  rw [Nat.add_sub_cancel' hj]
  exact h.1

theorem text_prefix (bs : List UInt8) : text bs <+: bs := List.takeWhile_prefix _

/-- What `strstr` finds in a string stands there in the memory. -/
theorem find_of_strstr {bs needle : List UInt8} {k : ℕ} (h : strstr bs needle = some k) :
    find needle bs = some k := by
  obtain ⟨ds, hds⟩ := text_prefix bs
  rw [← hds]
  exact find_append h ds

/-- What `strstr` finds in a string is found there whatever follows the string. -/
theorem strstr_append {bs needle : List UInt8} {k : ℕ} (h : strstr bs needle = some k) (ds : List UInt8) :
    strstr (bs ++ ds) needle = some k := by
  have hpre : text bs <+: text (bs ++ ds) := by
    unfold text
    rw [List.takeWhile_append]
    split_ifs with hall
    · rw [(List.takeWhile_prefix _).eq_of_length hall]
      exact List.prefix_append _ _
    · exact List.prefix_rfl
  obtain ⟨rest, hrest⟩ := hpre
  rw [strstr, ← hrest]
  exact find_append h rest

theorem text_drop {bs : List UInt8} {k : ℕ} (h : k ≤ (text bs).length) :
    text (bs.drop k) = (text bs).drop k := by
  induction k generalizing bs with
  | zero => simp
  | succ k ih =>
    cases bs with
    | nil => simp [text]
    | cons b bs =>
      by_cases hb : b = 0
      · simp [text, hb] at h
      · have hcons : text (b :: bs) = b :: text bs := by simp [text, hb]
        rw [hcons] at h ⊢
        exact ih (by simpa using h)

/-- What lies behind a zero byte does not matter. -/
theorem text_append_zero (bs ds : List UInt8) : text (bs ++ 0 :: ds) = text bs := by
  induction bs with
  | nil => simp [text]
  | cons b bs ih =>
    by_cases hb : b = 0
    · simp [text, hb]
    · have hcons (cs : List UInt8) : text (b :: cs) = b :: text cs := by simp [text, hb]
      rw [List.cons_append, hcons, hcons, ih]

theorem text_length_le (bs : List UInt8) : (text bs).length ≤ bs.length :=
  (List.takeWhile_prefix _).length_le

/-- What `strstr` finds lies inside the memory it is looked for in. -/
theorem strstr_le {bs needle : List UInt8} {k : ℕ} (h : strstr bs needle = some k) :
    k + needle.length ≤ bs.length :=
  (find_le h).trans (text_length_le bs)

/-! ### Numbers -/

def isSpace (c : UInt8) : Bool := c = 0x20 ∨ (0x09 ≤ c ∧ c ≤ 0x0D)

def isDigit (c : UInt8) : Bool := 0x30 ≤ c ∧ c ≤ 0x39

/-- The number the decimal digits at the head of `bs` denote. -/
def decimal (bs : List UInt8) : ℕ :=
  (bs.takeWhile isDigit).foldl (fun n c => 10 * n + (c.toNat - 0x30)) 0

/-- `atoi`, as `strtol` with base 10: values out of range are the nearest one in range. The result is
the 32-bit pattern of the `int`. -/
def atoi (bs : List UInt8) : UInt32 :=
  match (text bs).dropWhile isSpace with
  | [] => 0
  | c :: cs =>
    if c = 0x2D then 0 - UInt32.ofNat (min (decimal cs) (2 ^ 31))
    else if c = 0x2B then UInt32.ofNat (min (decimal cs) (2 ^ 31 - 1))
    else UInt32.ofNat (min (decimal (c :: cs)) (2 ^ 31 - 1))

example : atoi (ascii " 1460\r\nServer") = 1460 ∧ atoi (ascii "99999999999") = 0x7FFFFFFF := by decide

/-- `%0<width>X`. -/
def hex (width n : ℕ) : String :=
  String.ofList (List.leftpad width '0' ((Nat.toDigits 16 n).map Char.toUpper))

example : hex 6 0x81000 = "081000" ∧ hex 2 0xFE = "FE" := by decide

end CString
