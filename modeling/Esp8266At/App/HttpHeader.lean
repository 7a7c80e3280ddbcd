import Esp8266At.Lib.Http
import Esp8266At.App.StartSpec

/-!
# The header of the first reply

`upgrade_recvcb` finds the length and the body of a response by substring search. It reads the header as
HTTP does exactly where the first `Content-Length: ` of the reply is a header field of its own
(`readsHttp_iff`); in a reply that has the name inside another field or in its body, the number behind it
is taken for the length.
-/

namespace Esp8266At

open CString Http

abbrev lengthName : List UInt8 := ascii "Content-Length"

/-- What `upgrade_recvcb` searches for. -/
abbrev lengthField : List UInt8 := ascii "Content-Length: "

namespace App

/-- The length and the body that are read from a reply are those of the HTTP response. -/
structure Understood (reply : List UInt8) (content_len : UInt32) (content : List UInt8) : Prop where
  length : ∃ o, IsFieldNamed reply lengthName o ∧ decimalValue (fieldValue reply o) = some content_len.toNat
  body : ∃ k, find blankLine reply = some k ∧ k + 4 ≤ reply.length ∧ content = reply.drop (k + 4)
  status : (reply.drop 9).take 3 = statusCode reply

/-- A reply that is refused leaves the flash and the sector buffer as they are. -/
def Refuses (data : Chunk) : Prop :=
  ∀ (s : App) (u : UpgradeStatus) (reading : Bool), s.upgrade = .live u → s.upgradeContentLen = 0 →
    (s.receive data reading).1 = true ∧ (s.receive data reading).2.spi = s.spi ∧
      (s.receive data reading).2.upgrade = .live { u with error := .noValidResponse }

/-- The header of a first chunk is read as HTTP. -/
def ReadsHttp (data : Chunk) : Prop :=
  (∀ content_len content, responseHeader data.val = some (content_len, content) →
    Understood data.val content_len content) ∧
  ((¬∃ o, IsFieldNamed data.val lengthName o) → Refuses data)

/-- The test `valid http response?`, for the name at offset `p`. -/
def ValidResponse (reply : List UInt8) (p : ℕ) : Prop :=
  strstr reply lengthField = some p ∧ (strstr (reply.drop p) blankLine).isSome = true ∧
    (reply.drop 9).take 3 = ascii "200"

/-- The number behind the name at offset `p`. -/
def numberAt (reply : List UInt8) (p : ℕ) : UInt32 := atoi ((lineAt reply p).drop 16)

/-- The name at offset `p` is a header field of its own, with a number that an `int` holds; or else another
field of that name gives the same number. -/
def OwnField (reply : List UInt8) (p : ℕ) : Prop :=
  (crlf <:+ reply.take p ∧ ∃ n < 2 ^ 31, decimalValue (fieldValue reply p) = some n) ∨
    ∃ o ≠ p, IsFieldNamed reply lengthName o ∧
      decimalValue (fieldValue reply o) = some (numberAt reply p).toNat

/-- Replies that are read as HTTP: the name first stands before the first blank line, as a field of its
own, and the second word of the status line is the code 200. -/
structure Plain (reply : List UInt8) (p : ℕ) : Prop where
  beforeBlank : p < (find blankLine reply).getD 0
  status : statusCode reply = ascii "200"
  number : OwnField reply p

/-! ### What is found -/

section
variable {reply content : List UInt8} {content_len : UInt32} {p d : ℕ}

theorem lengthField_eq : lengthField = lengthName ++ [0x3A, 0x20] := by decide

theorem blank_not_in_name (hp : lengthField <+: reply) (hd : blankLine <+: reply.drop d) : 16 ≤ d := by
  by_contra hlt
  obtain ⟨rest, rfl⟩ := hp
  have hlen : lengthField.length = 16 := by decide
  have hne : ∀ c ∈ lengthField, c ≠ 0x0D := by decide +kernel
  have hd16 : d < lengthField.length := by omega
  rw [List.drop_eq_getElem_cons (by rw [List.length_append]; omega), List.getElem_append_left hd16] at hd
  refine crlf_not_prefix (hne _ (List.getElem_mem hd16)) ((List.prefix_append crlf crlf).trans hd)

/-- The line of the name that is found. -/
theorem lineAt_found (hp : strstr reply lengthField = some p)
    (hd : strstr (reply.drop p) blankLine = some d) :
    ∃ e, strstr (reply.drop (p + 16)) crlf = some e ∧
      lineAt reply p = lengthField ++ (reply.drop (p + 16)).take e := by
  have hlen : lengthField.length = 16 := by decide
  have hraw := (find_eq_some_iff.mp (find_of_strstr hp)).1
  have htext := (find_eq_some_iff.mp hp).1
  have hle := find_le hp
  have hblank := (find_eq_some_iff.mp hd).1
  rw [text_drop (by omega)] at hblank
  have hd16 : 16 ≤ d := blank_not_in_name htext hblank
  have hline : crlf <+: ((text reply).drop (p + 16)).drop (d - 16) := by
    have hadd : (text reply).drop (p + 16 + (d - 16)) = ((text reply).drop p).drop d := by
      rw [List.drop_drop]
      congr 1
      omega
    rw [List.drop_drop, hadd]
    exact (List.prefix_append crlf crlf).trans hblank
  obtain ⟨e, -, he⟩ := exists_find hline
  rw [← text_drop (by omega)] at he
  refine ⟨e, he, ?_⟩
  have hall : ∀ c ∈ lengthField, c ≠ 0x0D := by decide +kernel
  have := lineAt_of_prefix hraw hall (e := e) (by rw [hlen]; exact find_of_strstr he)
  rwa [hlen] at this

theorem responseHeader_iff : responseHeader reply = some (content_len, content) ↔
    ∃ p d, strstr reply lengthField = some p ∧ strstr (reply.drop p) blankLine = some d ∧
      (reply.drop 9).take 3 = ascii "200" ∧ content_len = numberAt reply p ∧
      content = reply.drop (p + d + 4) := by
  have hblank : ascii "\r\n\r\n" = blankLine := by decide
  have hcrlf : ascii "\r\n" = crlf := by decide
  rw [responseHeader, hblank, hcrlf]
  cases hp : strstr reply lengthField with
  | none => simp
  | some p =>
    cases hd : strstr (reply.drop p) blankLine with
    | none => simp [hd]
    | some d =>
      obtain ⟨e, he, hline⟩ := lineAt_found hp hd
      have hlen : lengthField.length = 16 := by decide
      have hnumber : numberAt reply p = atoi ((reply.drop (p + 16)).take e) := by
        rw [numberAt, hline, ← hlen, List.drop_left]
      simp only [hd, he, Option.getD_some, ← hnumber, Option.some.injEq]
      by_cases h200 : (reply.drop 9).take 3 = ascii "200"
      · rw [if_pos h200]
        refine ⟨fun h => ?_, ?_⟩
        · obtain ⟨rfl, rfl⟩ := Prod.mk.inj (Option.some.inj h)
          exact ⟨p, d, rfl, hd, h200, rfl, rfl⟩
        · rintro ⟨p', d', rfl, hd', -, rfl, rfl⟩
          obtain rfl : d = d' := by rw [hd] at hd'; exact Option.some.inj hd'
          rfl
      · simp [h200]

theorem fieldName_found (hp : strstr reply lengthField = some p)
    (hd : strstr (reply.drop p) blankLine = some d) : fieldName reply p = lengthName := by
  obtain ⟨e, -, hline⟩ := lineAt_found hp hd
  have hall : ∀ c ∈ lengthName, decide (c ≠ 0x3A) = true := by decide +kernel
  rw [fieldName, hline, lengthField_eq, List.append_assoc, List.takeWhile_append_of_pos hall,
    List.cons_append, List.takeWhile_cons_of_neg (by decide), List.append_nil]

theorem fieldValue_found (hp : strstr reply lengthField = some p)
    (hd : strstr (reply.drop p) blankLine = some d) :
    fieldValue reply p = 0x20 :: (lineAt reply p).drop 16 := by
  obtain ⟨e, -, hline⟩ := lineAt_found hp hd
  have hall : ∀ c ∈ lengthName, decide (c ≠ 0x3A) = true := by decide +kernel
  have hlen : lengthField.length = 16 := by decide
  rw [fieldValue, hline, ← hlen, List.drop_left, lengthField_eq, List.append_assoc,
    List.dropWhile_append_of_pos hall, List.cons_append, List.dropWhile_cons_of_neg (by decide)]
  simp

/-- A number behind the name that an `int` holds is read. -/
theorem numberAt_of_decimalValue (hp : strstr reply lengthField = some p)
    (hd : strstr (reply.drop p) blankLine = some d) {n : ℕ}
    (hn : decimalValue (fieldValue reply p) = some n) : (numberAt reply p).toNat = min n (2 ^ 31 - 1) := by
  rw [fieldValue_found hp hd, decimalValue_cons_blank (by decide)] at hn
  rw [numberAt, atoi_of_decimalValue hn, UInt32.toNat_ofNat']
  omega

theorem isFieldNamed_found (hp : strstr reply lengthField = some p)
    (hd : strstr (reply.drop p) blankLine = some d) : IsFieldNamed reply lengthName p ↔
      p < (find blankLine reply).getD 0 ∧ crlf <:+ reply.take p := by
  obtain ⟨e, -, hline⟩ := lineAt_found hp hd
  have hcolon : 0x3A ∈ lineAt reply p := by
    rw [hline, List.mem_append]
    exact Or.inl (by decide)
  rw [IsFieldNamed, IsHeaderField, fieldName_found hp hd]
  exact ⟨fun h => ⟨h.1.1, h.1.2.1⟩, fun h => ⟨⟨h.1, h.2, hcolon⟩, rfl⟩⟩

/-- Where the blank line behind the name is the first one. -/
theorem blank_first (hp : strstr reply lengthField = some p)
    (hd : strstr (reply.drop p) blankLine = some d) :
    ∃ k, find blankLine reply = some k ∧ k ≤ p + d ∧ (k = p + d ↔ p < k) := by
  have hblank := (find_eq_some_iff.mp (find_of_strstr hd)).1
  rw [List.drop_drop] at hblank
  obtain ⟨k, hk, hfind⟩ := exists_find hblank
  refine ⟨k, hfind, hk, fun h => ?_, fun h => ?_⟩
  · have hname := (find_eq_some_iff.mp (find_of_strstr hp)).1
    have := blank_not_in_name hname (d := d) (by rw [List.drop_drop]; exact hblank)
    omega
  · have hdrop := find_drop hfind (j := p) (by omega)
    have := find_of_strstr hd
    rw [hdrop] at this
    have := Option.some.inj this
    omega

theorem validResponse_iff {q : ℕ} : ValidResponse reply q ↔
    ∃ d, strstr reply lengthField = some q ∧ strstr (reply.drop q) blankLine = some d ∧
      (reply.drop 9).take 3 = ascii "200" := by
  rw [ValidResponse, Option.isSome_iff_exists]
  exact ⟨fun h => h.2.1.elim fun d hd => ⟨d, h.1, hd, h.2.2⟩,
    fun h => h.elim fun d hd => ⟨hd.1, ⟨d, hd.2.1⟩, hd.2.2⟩⟩

/-- A reply that passes the test is understood exactly where it is plain. -/
theorem understood_iff (hp : strstr reply lengthField = some p)
    (hd : strstr (reply.drop p) blankLine = some d) (h200 : (reply.drop 9).take 3 = ascii "200") :
    Understood reply (numberAt reply p) (reply.drop (p + d + 4)) ↔ Plain reply p := by
  obtain ⟨k, hk, hle, hfirst⟩ := blank_first hp hd
  have hwithin := strstr_le hd
  have hfour : blankLine.length = 4 := by decide
  rw [hfour, List.length_drop] at hwithin
  have hname := strstr_le hp
  refine ⟨fun h => ⟨?_, ?_, ?_⟩, fun h => ⟨?_, ?_, ?_⟩⟩
  · -- the body begins behind the first blank line
    obtain ⟨k', hk', hin, hbody⟩ := h.body
    obtain rfl : k = k' := Option.some.inj (hk.symm.trans hk')
    have hlen := congrArg List.length hbody
    rw [List.length_drop, List.length_drop] at hlen
    rw [hk, Option.getD_some, ← hfirst]
    omega
  · rw [← h.status, h200]
  · obtain ⟨o, ho, hvalue⟩ := h.length
    by_cases hop : o = p
    · subst hop
      have hmin := numberAt_of_decimalValue hp hd hvalue
      exact Or.inl ⟨ho.1.2.1, _, by omega, hvalue⟩
    · exact Or.inr ⟨o, hop, ho, hvalue⟩
  · obtain ⟨hline, n, hn, hvalue⟩ | ⟨o, -, ho, hvalue⟩ := h.number
    · have hmin := numberAt_of_decimalValue hp hd hvalue
      refine ⟨p, (isFieldNamed_found hp hd).mpr ⟨h.beforeBlank, hline⟩, ?_⟩
      rw [hvalue, hmin, Nat.min_eq_left (by omega)]
    · exact ⟨o, ho, hvalue⟩
  · have hbefore := h.beforeBlank
    rw [hk, Option.getD_some, ← hfirst] at hbefore
    exact ⟨k, hk, by omega, by rw [hbefore]⟩
  · rw [h.status, h200]

end

/-- A reply that fails the test is refused. -/
theorem refuses_of_none {data : Chunk} (h : responseHeader data.val = none) : Refuses data := by
  intro s u reading hlive hlen
  have hreceive : s.receive data reading =
      (true, (({ s with otaTimer := none } : App).debug "Not a valid http header/non-200 response\r\n").storeStatus
        { u with error := .noValidResponse }) := by
    rw [receive, hlive]
    simp only [hlen, if_true]
    rw [receiveFirst, h]
  obtain ⟨o, ho⟩ := ({ s with otaTimer := none } : App).debug_out "Not a valid http header/non-200 response\r\n"
  rw [hreceive, ho]
  exact ⟨rfl, rfl, rfl⟩

/-- **The header is read as HTTP** exactly in the replies that fail the test and in the plain ones. -/
theorem readsHttp_iff (data : Chunk) :
    ReadsHttp data ↔ ∀ p, ValidResponse data.val p → Plain data.val p := by
  refine ⟨fun h p hvalid => ?_, fun h => ⟨fun content_len content hread => ?_, fun hno => ?_⟩⟩
  · obtain ⟨d, hp, hd, h200⟩ := validResponse_iff.mp hvalid
    rw [← understood_iff hp hd h200]
    exact h.1 _ _ (responseHeader_iff.mpr ⟨p, d, hp, hd, h200, rfl, rfl⟩)
  · obtain ⟨p, d, hp, hd, h200, rfl, rfl⟩ := responseHeader_iff.mp hread
    rw [understood_iff hp hd h200]
    exact h p (validResponse_iff.mpr ⟨d, hp, hd, h200⟩)
  · apply refuses_of_none
    cases hread : responseHeader data.val with
    | none => rfl
    | some r =>
      obtain ⟨p, d, hp, hd, h200, -, -⟩ := responseHeader_iff.mp (hread.trans (congrArg some (Prod.mk.eta (p := r)).symm))
      have hplain := (understood_iff hp hd h200).mpr (h p (validResponse_iff.mpr ⟨d, hp, hd, h200⟩))
      obtain ⟨o, ho, -⟩ := hplain.length
      exact absurd ⟨o, ho⟩ hno

/-- A reply whose only length is that of another field. -/
def originalLength : Chunk :=
  ⟨ascii "HTTP/1.1 200 OK\r\nX-Original-Content-Length: 4\r\n\r\nbody", by decide +kernel⟩

theorem originalLength_read : responseHeader originalLength.val = some (4, ascii "body") ∧
    ∀ o < 47, ¬IsFieldNamed originalLength.val lengthName o := by decide +kernel

/-- A reply without the field is taken for one of its length. -/
theorem originalLength_not_readsHttp : ¬∀ data : Chunk, ReadsHttp data := by
  intro h
  obtain ⟨hread, hno⟩ := originalLength_read
  obtain ⟨o, ho, -⟩ := ((h originalLength).1 _ _ hread).length
  have hend : (find blankLine originalLength.val).getD 0 ≤ 47 := by decide +kernel
  exact hno o (by have := ho.1.1; omega) ho

end App

end Esp8266At
