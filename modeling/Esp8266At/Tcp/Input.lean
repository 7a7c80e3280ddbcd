import Esp8266At.Tcp.Command

/-!
# Input from the host

`_request_get_input` reads characters until it has as many as were announced, or up to a `^` if no length was
given, and counts down while there are none. What it has stored is a function of the characters that arrive in
time (`getInput_known`, `getInput_terminated`); a text without a length is not kept inside the buffer, and one that
is complete only when the countdown reaches 0 is refused (`input_taken_iff`).
-/

namespace Esp8266At.Tcp

/-- The characters that arrive before `uart_rx_one_char` has found none for the `rounds`-th time. -/
def arrived : ℕ → List (Option UInt8) → List UInt8
  | 0, _ => []
  | _ + 1, [] => []
  | rounds + 1, none :: host => arrived rounds host
  | rounds + 1, some ch :: host => ch :: arrived (rounds + 1) host

/-- The rounds `_request_get_input` waits for. -/
abbrev INPUT_ROUNDS : ℕ := 500000

/-- `data` are the characters that are required of a text: the first `len`, or those in front of a `^`. -/
def Required (len : ℕ) (text data : List UInt8) : Prop :=
  if len = 0 then TCPINPUT_TERMINATE_CHAR ∉ data ∧ data ++ [TCPINPUT_TERMINATE_CHAR] <+: text
  else data.length = len ∧ data <+: text

variable {len tmo : ℕ} {host : List (Option UInt8)} {buf text data : List UInt8}

@[simp] theorem arrived_zero (host : List (Option UInt8)) : arrived 0 host = [] := by
  cases host <;> rfl

@[simp] theorem arrived_nil (rounds : ℕ) : arrived rounds [] = [] := by
  cases rounds <;> rfl

@[simp] theorem arrived_none (rounds : ℕ) : arrived (rounds + 1) (none :: host) = arrived rounds host := rfl

@[simp] theorem arrived_some (rounds : ℕ) (ch : UInt8) :
    arrived (rounds + 1) (some ch :: host) = ch :: arrived (rounds + 1) host := rfl

/-- What arrives in fewer rounds arrives first. -/
theorem arrived_initial (rounds : ℕ) (host : List (Option UInt8)) : arrived rounds host <+: arrived (rounds + 1) host := by
  induction host generalizing rounds with
  | nil => simp
  | cons ch host ih =>
    cases rounds with
    | zero => exact List.nil_prefix
    | succ rounds =>
      cases ch with
      | none => exact ih rounds
      | some ch => exact (List.prefix_cons_inj ch).mpr (ih (rounds + 1))

/-! ### The loop -/

variable (host tmo buf) in
/-- With a length: what is stored, and whether the countdown is over. -/
theorem getInput_known (hlen : len < 65536) (hbuf : buf.length < len) :
    (getInput len host tmo buf).1 = (buf ++ arrived (tmo + 1) host).take len ∧
      ((getInput len host tmo buf).2 ≠ 0 ↔ len ≤ (buf ++ arrived tmo host).length) := by
  induction host generalizing tmo buf with
  | nil =>
    simp only [getInput, arrived_nil, List.append_nil]
    rw [List.take_of_length_le hbuf.le]
    exact ⟨rfl, fun h => absurd rfl h, fun h => absurd h (by omega)⟩
  | cons ch host ih =>
    cases ch with
    | none =>
      unfold getInput
      cases tmo with
      | zero =>
        simp only [arrived_none, arrived_zero, List.append_nil, if_true]
        rw [List.take_of_length_le hbuf.le]
        exact ⟨rfl, fun h => absurd rfl h, fun h => absurd h (by omega)⟩
      | succ tmo =>
        rw [if_neg (Nat.succ_ne_zero tmo)]
        exact ih tmo buf hbuf
    | some ch =>
      have hsnoc : (buf ++ [ch]).length = buf.length + 1 := by simp
      have hmod : (buf ++ [ch]).length % 65536 = (buf ++ [ch]).length := Nat.mod_eq_of_lt (by omega)
      have happend : ∀ rounds, buf ++ arrived (rounds + 1) (some ch :: host) =
          (buf ++ [ch]) ++ arrived (rounds + 1) host := by simp
      unfold getInput
      rw [if_neg (by omega), hmod]
      by_cases hdone : (buf ++ [ch]).length = len
      · rw [if_pos hdone, happend, ← hdone, List.take_left]
        refine ⟨rfl, ?_⟩
        cases tmo with
        | zero => simp
        | succ tmo => simp
      · rw [if_neg hdone, happend]
        obtain ⟨hstored, hleft⟩ := ih tmo (buf ++ [ch]) (by omega)
        refine ⟨hstored, hleft.trans ?_⟩
        cases tmo with
        | zero =>
          simp only [arrived_zero, List.append_nil]
          omega
        | succ tmo => rw [happend]

theorem takeWhile_snoc (h : TCPINPUT_TERMINATE_CHAR ∉ buf) (text : List UInt8) :
    (buf ++ text).takeWhile (· ≠ TCPINPUT_TERMINATE_CHAR) = buf ++ text.takeWhile (· ≠ TCPINPUT_TERMINATE_CHAR) := by
  refine List.takeWhile_append_of_pos fun b hb => ?_
  have hne : b ≠ TCPINPUT_TERMINATE_CHAR := fun heq => h (heq ▸ hb)
  simpa using hne

/-- Without a length: what is stored. `idx` comes back to 0 after 65536 characters. -/
theorem getInput_terminated (hbuf : buf.length < 65536) (hterm : TCPINPUT_TERMINATE_CHAR ∉ buf) :
    (getInput 0 host tmo buf).1 =
      ((buf ++ arrived (tmo + 1) host).takeWhile (· ≠ TCPINPUT_TERMINATE_CHAR)).take 65536 := by
  induction host generalizing tmo buf with
  | nil =>
    simp only [getInput, arrived_nil]
    rw [takeWhile_snoc hterm, List.takeWhile_nil, List.append_nil, List.take_of_length_le hbuf.le]
  | cons ch host ih =>
    cases ch with
    | none =>
      unfold getInput
      cases tmo with
      | zero =>
        simp only [arrived_none, arrived_zero, if_true]
        rw [takeWhile_snoc hterm, List.takeWhile_nil, List.append_nil, List.take_of_length_le hbuf.le]
      | succ tmo =>
        rw [if_neg (Nat.succ_ne_zero tmo)]
        exact ih hbuf hterm
    | some ch =>
      have hsnoc : (buf ++ [ch]).length = buf.length + 1 := by simp
      have happend : buf ++ arrived (tmo + 1) (some ch :: host) = (buf ++ [ch]) ++ arrived (tmo + 1) host := by simp
      unfold getInput
      by_cases hch : ch = TCPINPUT_TERMINATE_CHAR
      · rw [if_pos ⟨rfl, hch⟩, takeWhile_snoc hterm, arrived_some, hch, List.takeWhile_cons_of_neg (by simp),
          List.append_nil, List.take_of_length_le hbuf.le]
      · have hterm' : TCPINPUT_TERMINATE_CHAR ∉ buf ++ [ch] := by simp [hterm, Ne.symm hch]
        rw [if_neg (fun h => hch h.2), happend]
        by_cases hwrap : (buf ++ [ch]).length % 65536 = 0
        · rw [if_pos hwrap, takeWhile_snoc hterm', List.take_left' (by omega)]
        · rw [if_neg hwrap]
          exact ih (by omega) hterm'

variable (host tmo) in
/-- Without a length: whether the countdown is over. -/
theorem getInput_terminated_left (hterm : TCPINPUT_TERMINATE_CHAR ∉ buf)
    (hfits : ((buf ++ arrived (tmo + 1) host).takeWhile (· ≠ TCPINPUT_TERMINATE_CHAR)).length < 65536) :
    (getInput 0 host tmo buf).2 ≠ 0 ↔ TCPINPUT_TERMINATE_CHAR ∈ arrived tmo host := by
  induction host generalizing tmo buf with
  | nil => simp [getInput]
  | cons ch host ih =>
    cases ch with
    | none =>
      unfold getInput
      cases tmo with
      | zero => simp
      | succ tmo =>
        rw [if_neg (Nat.succ_ne_zero tmo)]
        exact ih tmo hterm hfits
    | some ch =>
      have hsnoc : (buf ++ [ch]).length = buf.length + 1 := by simp
      have happend : buf ++ arrived (tmo + 1) (some ch :: host) = (buf ++ [ch]) ++ arrived (tmo + 1) host := by simp
      unfold getInput
      by_cases hch : ch = TCPINPUT_TERMINATE_CHAR
      · rw [if_pos ⟨rfl, hch⟩]
        cases tmo with
        | zero => simp
        | succ tmo => simp [hch]
      · have hterm' : TCPINPUT_TERMINATE_CHAR ∉ buf ++ [ch] := by simp [hterm, Ne.symm hch]
        rw [happend] at hfits
        have hlen : (buf ++ [ch]).length < 65536 := by
          rw [takeWhile_snoc hterm', List.length_append] at hfits
          omega
        rw [if_neg (fun h => hch h.2), if_neg (by omega), ih tmo hterm' hfits]
        cases tmo with
        | zero => simp
        | succ tmo => simp [Ne.symm hch]

/-! ### The characters that are required -/

theorem required_known (hlen : len ≠ 0) : Required len text data ↔ len ≤ text.length ∧ text.take len = data := by
  rw [Required, if_neg hlen]
  constructor
  · rintro ⟨rfl, hinitial⟩
    exact ⟨hinitial.length_le, (List.prefix_iff_eq_take.mp hinitial).symm⟩
  · rintro ⟨hle, rfl⟩
    exact ⟨by rw [List.length_take]; omega, List.take_prefix _ _⟩

theorem required_terminated : Required 0 text data ↔
    TCPINPUT_TERMINATE_CHAR ∈ text ∧ text.takeWhile (· ≠ TCPINPUT_TERMINATE_CHAR) = data := by
  rw [Required, if_pos rfl]
  have hends : ∀ front rest, TCPINPUT_TERMINATE_CHAR ∉ front →
      (front ++ TCPINPUT_TERMINATE_CHAR :: rest).takeWhile (· ≠ TCPINPUT_TERMINATE_CHAR) = front := by
    intro front rest hnot
    rw [takeWhile_snoc hnot, List.takeWhile_cons_of_neg (by simp), List.append_nil]
  constructor
  · rintro ⟨hnot, rest, rfl⟩
    refine ⟨by simp, ?_⟩
    rw [List.append_assoc]
    exact hends data rest hnot
  · rintro ⟨hmem, rfl⟩
    obtain ⟨front, rest, rfl, hnot⟩ := List.eq_append_cons_of_mem hmem
    rw [hends front rest hnot]
    exact ⟨hnot, rest, by simp⟩

/-- Characters that come later are not among them. -/
theorem Required.mono {text' : List UInt8} (h : Required len text data) (hinitial : text <+: text') :
    Required len text' data := by
  unfold Required at h ⊢
  split_ifs at h ⊢
  · exact ⟨h.1, h.2.trans hinitial⟩
  · exact ⟨h.1, h.2.trans hinitial⟩

/-! ### The commands -/

/-- A command that asks the host for input. -/
inductive InputCommand where
  | send (pPara : List UInt8)
  | loadCert (pPara : List UInt8)

/-- What an accepted command asks for: the length, 0 if the input ends with `^`, and the size of the buffer from the
address it is stored at. -/
def InputCommand.request (lib : LibAt) (s : Tcp) : InputCommand → Option (ℕ × ℕ)
  | .send pPara => (sendParams lib pPara s.tcpconns).map fun p => (p.2, p.2 + 16)
  | .loadCert pPara =>
    match certParams lib pPara with
    | none => none
    | some len => if len = 0 then none else some (len.toNat, SECTOR_SIZE - TCP_CERT_HEAD_SIZE - TCP_CERT_LEN_SIZE)

/-- The input stays inside the buffer, the `i`-th character being stored at index `i`, and `_request_get_input`
returns the required characters exactly if they have arrived. -/
structure InputTaken (s : Tcp) (len capacity : ℕ) (msg : String) (host : List (Option UInt8)) : Prop where
  inside : (getInput len host (INPUT_ROUNDS - 1) []).1.length ≤ capacity
  taken : ∀ data, data ≠ [] →
    ((s.requestGetInput len msg host).1 = data ↔ Required len (arrived INPUT_ROUNDS host) data)

/-- A text without a length is short enough, and the required characters arrive before the last round. -/
structure InTime (len capacity : ℕ) (host : List (Option UInt8)) : Prop where
  fits : len = 0 → ((arrived INPUT_ROUNDS host).takeWhile (· ≠ TCPINPUT_TERMINATE_CHAR)).length ≤ capacity
  early : ∀ data, data ≠ [] → Required len (arrived INPUT_ROUNDS host) data →
    Required len (arrived (INPUT_ROUNDS - 1) host) data

variable {s : Tcp} {capacity : ℕ} {msg : String}

/-- The answer, in terms of the loop. -/
theorem requestGetInput_eq_iff (hfits : (getInput len host (INPUT_ROUNDS - 1) []).1.length < 65536) (hdata : data ≠ []) :
    (s.requestGetInput len msg host).1 = data ↔ (getInput len host (INPUT_ROUNDS - 1) []).2 ≠ 0 ∧
      (getInput len host (INPUT_ROUNDS - 1) []).1 = data ∧ (len ≠ 0 → data.length = len) := by
  have hlen : 0 < data.length := List.length_pos_iff.mpr hdata
  unfold requestGetInput
  generalize getInput len host (INPUT_ROUNDS - 1) [] = r at hfits ⊢
  obtain ⟨stored, left⟩ := r
  simp only at hfits ⊢
  rw [Nat.mod_eq_of_lt hfits]
  split_ifs with hfail
  · constructor
    · intro h
      exact absurd h.symm hdata
    · rintro ⟨hleft, rfl, hcount⟩
      omega
  · simp only
    constructor
    · rintro rfl
      exact ⟨by omega, rfl, by omega⟩
    · rintro ⟨-, h, -⟩
      exact h

variable (s msg) in
/-- What is answered are the characters required of those that arrive before the last round. -/
theorem requestGetInput_required (hlen : len < 65536)
    (hfits : len = 0 → ((arrived INPUT_ROUNDS host).takeWhile (· ≠ TCPINPUT_TERMINATE_CHAR)).length < 65536)
    (hdata : data ≠ []) : (s.requestGetInput len msg host).1 = data ↔
      Required len (arrived (INPUT_ROUNDS - 1) host) data := by
  have hinitial : arrived (INPUT_ROUNDS - 1) host <+: arrived INPUT_ROUNDS host := arrived_initial (INPUT_ROUNDS - 1) host
  by_cases hzero : len = 0
  · subst hzero
    have hstored : (getInput 0 host (INPUT_ROUNDS - 1) []).1 =
        (arrived INPUT_ROUNDS host).takeWhile (· ≠ TCPINPUT_TERMINATE_CHAR) := by
      rw [getInput_terminated (by simp) (by simp), List.nil_append]
      exact List.take_of_length_le (hfits rfl).le
    have hleft := getInput_terminated_left (INPUT_ROUNDS - 1) host (List.not_mem_nil) (hfits rfl)
    rw [requestGetInput_eq_iff (by rw [hstored]; exact hfits rfl) hdata, required_terminated, hleft, hstored]
    have hsame : TCPINPUT_TERMINATE_CHAR ∈ arrived (INPUT_ROUNDS - 1) host →
        (arrived INPUT_ROUNDS host).takeWhile (· ≠ TCPINPUT_TERMINATE_CHAR) =
          (arrived (INPUT_ROUNDS - 1) host).takeWhile (· ≠ TCPINPUT_TERMINATE_CHAR) :=
      fun hmem => (required_terminated.mp ((required_terminated.mpr ⟨hmem, rfl⟩).mono hinitial)).2
    constructor
    · rintro ⟨hmem, hdata, -⟩
      exact ⟨hmem, (hsame hmem).symm.trans hdata⟩
    · rintro ⟨hmem, hdata⟩
      exact ⟨hmem, (hsame hmem).trans hdata, fun h => absurd rfl h⟩
  · obtain ⟨hstored, hleft⟩ := getInput_known (INPUT_ROUNDS - 1) host [] hlen (by simp; omega)
    have hstored' : (getInput len host (INPUT_ROUNDS - 1) []).1 = (arrived INPUT_ROUNDS host).take len := hstored
    rw [requestGetInput_eq_iff (by rw [hstored', List.length_take]; omega) hdata, required_known hzero, hleft, hstored',
      List.nil_append]
    have htake : len ≤ (arrived (INPUT_ROUNDS - 1) host).length →
        (arrived INPUT_ROUNDS host).take len = (arrived (INPUT_ROUNDS - 1) host).take len := by
      intro hle
      obtain ⟨rest, hrest⟩ := hinitial
      rw [← hrest, List.take_append_of_le_length hle]
    constructor
    · rintro ⟨hle, hdata, -⟩
      exact ⟨hle, (htake hle).symm.trans hdata⟩
    · rintro ⟨hle, hdata⟩
      exact ⟨hle, (htake hle).trans hdata, fun _ => by rw [← hdata, List.length_take]; omega⟩

variable (host) in
/-- What is stored fits exactly if a text without a length is short enough. -/
theorem getInput_fits (hlen : len ≤ capacity) (hcap : capacity < 65536) :
    (getInput len host (INPUT_ROUNDS - 1) []).1.length ≤ capacity ↔
      (len = 0 → ((arrived INPUT_ROUNDS host).takeWhile (· ≠ TCPINPUT_TERMINATE_CHAR)).length ≤ capacity) := by
  by_cases hzero : len = 0
  · subst hzero
    have hstored : (getInput 0 host (INPUT_ROUNDS - 1) []).1 =
        ((arrived INPUT_ROUNDS host).takeWhile (· ≠ TCPINPUT_TERMINATE_CHAR)).take 65536 :=
      getInput_terminated (Nat.zero_lt_succ _) List.not_mem_nil
    rw [hstored, List.length_take]
    omega
  · have hstored := (getInput_known (INPUT_ROUNDS - 1) host [] (show len < 65536 by omega) (by simp; omega)).1
    rw [hstored, List.length_take]
    omega

theorem sendParams_le {lib : LibAt} {pPara : List UInt8} {tcpconns : Table TCPCONN_MAX_CONN TcpConn} {p : LinkId × ℕ}
    (h : sendParams lib pPara tcpconns = some p) : p.2 ≤ 2048 := by
  unfold sendParams at h
  cases hlink : linkParam lib pPara with
  | none =>
    rw [hlink] at h
    cases h
  | some r =>
    rw [hlink] at h
    simp only at h
    split_ifs at h
    all_goals
      obtain rfl := Option.some.inj h
      simp only
      omega

theorem certParams_le {lib : LibAt} {pPara : List UInt8} {len : ℤ} (h : certParams lib pPara = some len) :
    -1 ≤ len ∧ len ≤ 4062 := by
  unfold certParams at h
  simp only at h
  split_ifs at h with h₁ h₂ h₃ h₄ h₅
  · obtain rfl := Option.some.inj h
    simp only [SECTOR_SIZE, TCP_CERT_HEAD_SIZE, TCP_CERT_LEN_SIZE] at h₅
    omega
  · obtain rfl := Option.some.inj h
    decide

theorem request_bounds {lib : LibAt} {c : InputCommand} (h : c.request lib s = some (len, capacity)) :
    len ≤ capacity ∧ capacity < 65536 := by
  cases c with
  | send pPara =>
    obtain ⟨p, hp, heq⟩ := Option.map_eq_some_iff.mp h
    obtain ⟨rfl, rfl⟩ := Prod.mk.inj heq
    have := sendParams_le hp
    omega
  | loadCert pPara =>
    simp only [InputCommand.request] at h
    cases hcert : certParams lib pPara with
    | none =>
      rw [hcert] at h
      cases h
    | some len' =>
      rw [hcert] at h
      simp only at h
      split_ifs at h
      obtain ⟨rfl, rfl⟩ := Prod.mk.inj (Option.some.inj h)
      have := certParams_le hcert
      simp only [SECTOR_SIZE, TCP_CERT_HEAD_SIZE, TCP_CERT_LEN_SIZE]
      omega

/-- **Input from the host** is kept inside its buffer and taken if it has arrived, exactly if a text without a length
is short enough and nothing is completed in the last round only. -/
theorem input_taken_iff (lib : LibAt) (s : Tcp) (c : InputCommand) {len capacity : ℕ}
    (h : c.request lib s = some (len, capacity)) (msg : String) (host : List (Option UInt8)) :
    InputTaken s len capacity msg host ↔ InTime len capacity host := by
  obtain ⟨hlen, hcap⟩ := request_bounds h
  have hfits := getInput_fits host hlen hcap
  constructor
  · rintro ⟨hinside, htaken⟩
    refine ⟨hfits.mp hinside, fun data hdata hreq => ?_⟩
    have hshort := hfits.mp hinside
    rw [← requestGetInput_required s msg (by omega) (fun h => (hshort h).trans_lt hcap) hdata]
    exact (htaken data hdata).mpr hreq
  · rintro ⟨hshort, hearly⟩
    refine ⟨hfits.mpr hshort, fun data hdata => ?_⟩
    rw [requestGetInput_required s msg (by omega) (fun h => (hshort h).trans_lt hcap) hdata]
    exact ⟨fun hreq => hreq.mono (arrived_initial (INPUT_ROUNDS - 1) host), hearly data hdata⟩

/-- A link to send to. -/
def sendLink : Tcp :=
  { atReset (fun _ => true) 5 with tcpconns := fun i => if i = 0 then some ⟨0xA3, 0, 1, 0, 80, 0, 0, 0, 0⟩ else none }

/-- Data of 17 characters and `^`. -/
def longData : List (Option UInt8) := List.replicate 17 (some 0x41) ++ [some TCPINPUT_TERMINATE_CHAR]

theorem longData_facts : (InputCommand.send (CString.ascii "=0\r")).request plainAt sendLink = some (0, 16) ∧
    (getInput 0 longData (INPUT_ROUNDS - 1) []).1.length = 17 := by
  decide +kernel

theorem input_taken_iff_longData :
    InputTaken sendLink 0 16 "+TCPSEND" longData ↔ InTime 0 16 longData :=
  input_taken_iff plainAt sendLink (.send (CString.ascii "=0\r")) longData_facts.1 "+TCPSEND" longData

/-- Data of unknown length runs over the end of a buffer of 16 bytes. -/
theorem not_input_taken : ¬∀ (s : Tcp) (c : InputCommand) (len capacity : ℕ),
    c.request plainAt s = some (len, capacity) → ∀ host, InputTaken s len capacity "+TCPSEND" host := by
  intro h
  have hinside := (h sendLink _ 0 16 longData_facts.1 longData).inside
  rw [longData_facts.2] at hinside
  omega

end Esp8266At.Tcp
