import Esp8266At.Lib.Bytes

/-!
# NOR flash

A flash chip is erased sector by sector (every bit becomes 1) and programmed byte by byte (bits
only go from 1 to 0). What a program does to the chip is the list of its operations in order: a
power cut leaves the chip as a prefix of that list leaves it, so a fact about every list of
operations inside a region is also a fact about every cut.

A `Device` is a chip with the operations performed on it so far and the results its coming
operations will report. An operation that reports a failure is not performed.
-/

namespace NorFlash

open ByteSpace

/-- An operation that changes the chip. -/
inductive Op where
  | erase (sector : ℕ)
  | program (addr : UInt32) (data : List UInt8)
  deriving DecidableEq

/-- The addresses an operation may change, for sectors of `S` bytes. -/
def Op.touches (S : ℕ) : Op → Set UInt32
  | .erase sector => {x | x.toNat / S = sector}
  | .program addr data => span addr data.length

def Op.apply (S : ℕ) : Op → Space → Space
  | .erase sector, f => fun x => if x.toNat / S = sector then 0xFF else f x
  | .program addr data, f => fun x =>
    match data[(x - addr).toNat]? with
    | some b => f x &&& b
    | none => f x

def applyAll (S : ℕ) (ops : List Op) (f : Space) : Space := ops.foldl (fun f op => op.apply S f) f

variable {S : ℕ}

@[simp] theorem applyAll_nil (f : Space) : applyAll S [] f = f := rfl

theorem applyAll_append (xs ys : List Op) (f : Space) :
    applyAll S (xs ++ ys) f = applyAll S ys (applyAll S xs f) := List.foldl_append

theorem apply_of_not_touches {op : Op} {f : Space} {x : UInt32} (h : x ∉ op.touches S) :
    op.apply S f x = f x := by
  cases op with
  | erase sector => exact if_neg h
  | program addr data =>
    have hout : data.length ≤ (x - addr).toNat := Nat.le_of_not_lt h
    simp [Op.apply, List.getElem?_eq_none hout]

/-- Operations leave alone every address that none of them touches. -/
theorem applyAll_of_not_touches {ops : List Op} {x : UInt32} (h : ∀ op ∈ ops, x ∉ op.touches S)
    (f : Space) : applyAll S ops f x = f x := by
  induction ops generalizing f with
  | nil => rfl
  | cons op ops ih =>
    show applyAll S ops (op.apply S f) x = f x
    rw [ih (fun o ho => h o (by simp [ho])), apply_of_not_touches (h op (by simp))]

/-! ### Rewriting sectors -/

/-- Every operation stays in the region. -/
def Confined (S : ℕ) (region : Set UInt32) (ops : List Op) : Prop := ∀ op ∈ ops, op.touches S ⊆ region

theorem confined_nil (region : Set UInt32) : Confined S region [] := by
  intro op hop
  cases hop

theorem confined_append {region : Set UInt32} {xs ys : List Op} :
    Confined S region (xs ++ ys) ↔ Confined S region xs ∧ Confined S region ys := by
  simp only [Confined, List.mem_append, or_imp, forall_and]

theorem Confined.initial {region : Set UInt32} {xs ys : List Op} (h : Confined S region ys) (hp : xs <+: ys) :
    Confined S region xs := by
  obtain ⟨zs, rfl⟩ := hp
  exact (confined_append.mp h).1

/-- Outside the region nothing changes. -/
theorem Confined.applyAll {region : Set UInt32} {ops : List Op} (h : Confined S region ops) (f : Space) {x : UInt32}
    (hx : x ∉ region) : applyAll S ops f x = f x :=
  applyAll_of_not_touches (fun op hop htouch => hx (h op hop htouch)) f

/-- The power is lost in the middle of `ops`: the first ones are made, and what the next one touches is left in any
state. -/
def Torn (S : ℕ) (ops : List Op) (f g : Space) : Prop :=
  ∃ made rest, ops = made ++ rest ∧ ∀ x, (∀ op ∈ rest.head?, x ∉ op.touches S) → g x = applyAll S made f x

/-- A power loss changes nothing outside the region either. -/
theorem Confined.torn {region : Set UInt32} {ops : List Op} (h : Confined S region ops) {f g : Space}
    (htorn : Torn S ops f g) {x : UInt32} (hx : x ∉ region) : g x = f x := by
  obtain ⟨made, rest, rfl, hg⟩ := htorn
  obtain ⟨hmade, hrest⟩ := confined_append.mp h
  rw [hg x fun op hop htouch => hx (hrest op (List.mem_of_mem_head? hop) htouch)]
  exact hmade.applyAll f hx

theorem ones_and (b : UInt8) : 0xFF &&& b = b := by
  apply UInt8.eq_of_toBitVec_eq
  exact BitVec.allOnes_and

/-- Erasing a sector and programming bytes inside it stores exactly these bytes. -/
theorem erase_program_add (f : Space) (sector : ℕ) (a : UInt32) (bs : List UInt8) (i : ℕ)
    (hi : i < bs.length) (hlen : bs.length ≤ 2 ^ 32)
    (hin : (a + UInt32.ofNat i).toNat / S = sector) :
    applyAll S [.erase sector, .program a bs] f (a + UInt32.ofNat i) = bs[i] := by
  show Op.apply S (.program a bs) (Op.apply S (.erase sector) f) (a + UInt32.ofNat i) = bs[i]
  simp only [Op.apply, if_pos hin, add_ofNat_sub_self, Nat.mod_eq_of_lt (lt_of_lt_of_le hi hlen),
    List.getElem?_eq_getElem hi, ones_and]

/-- Erasing a sector and programming bytes from its start changes nothing exactly if it holds these bytes
already, with erased bytes behind them. -/
theorem erase_program_eq_iff {f : Space} {a : UInt32} {bs : List UInt8} (hS : 0 < S) (ha : a.toNat % S = 0)
    (hfit : a.toNat + S ≤ 2 ^ 32) (hlen : bs.length ≤ S) :
    applyAll S [.erase (a.toNat / S), .program a bs] f = f ↔
      ∀ i < S, f (a + UInt32.ofNat i) = (bs[i]?).getD 0xFF := by
  have hcell : ∀ i < S, applyAll S [.erase (a.toNat / S), .program a bs] f (a + UInt32.ofNat i) =
      (bs[i]?).getD 0xFF := by
    intro i hi
    have hnat : (a + UInt32.ofNat i).toNat = a.toNat + i := add_ofNat_toNat a i (by omega)
    have hsector : (a + UInt32.ofNat i).toNat / S = a.toNat / S := by
      obtain ⟨q, hq⟩ := Nat.dvd_of_mod_eq_zero ha
      rw [hnat, hq, Nat.mul_add_div hS, Nat.div_eq_of_lt hi, Nat.mul_div_cancel_left q hS]
      rfl
    show Op.apply S (.program a bs) (Op.apply S (.erase (a.toNat / S)) f) (a + UInt32.ofNat i) = _
    simp only [Op.apply, if_pos hsector, add_ofNat_sub_self, Nat.mod_eq_of_lt (show i < 2 ^ 32 by omega)]
    cases bs[i]? with
    | none => rfl
    | some b => exact ones_and b
  constructor
  · intro h i hi
    rw [← hcell i hi, h]
  · intro h
    funext x
    by_cases hin : a.toNat ≤ x.toNat ∧ x.toNat < a.toNat + S
    · obtain ⟨i, hi⟩ : ∃ i, i = x.toNat - a.toNat := ⟨_, rfl⟩
      have hx : x = a + UInt32.ofNat i := by
        apply UInt32.toNat_inj.mp
        rw [add_ofNat_toNat a i (by omega)]
        omega
      rw [hx, hcell i (by omega), h i (by omega)]
    · refine applyAll_of_not_touches (fun op hop htouch => hin ?_) f
      simp only [List.mem_cons, List.not_mem_nil, or_false] at hop
      rcases hop with rfl | rfl
      · have hx : x.toNat / S = a.toNat / S := htouch
        have h1 := Nat.div_add_mod x.toNat S
        have h2 := Nat.div_add_mod a.toNat S
        have h3 := Nat.mod_lt x.toNat hS
        rw [hx] at h1
        omega
      · have := (mem_span_iff_of_le (by omega)).mp htouch
        omega

/-- The operations that write `pieces` to consecutive sectors from address `a` on. -/
def rewrite (S : ℕ) (a : UInt32) : List (List UInt8) → List Op
  | [] => []
  | p :: ps => .erase (a.toNat / S) :: .program a p :: rewrite S (a + UInt32.ofNat S) ps

theorem rewrite_append (a : UInt32) (ps qs : List (List UInt8)) :
    rewrite S a (ps ++ qs) = rewrite S a ps ++ rewrite S (a + UInt32.ofNat (S * ps.length)) qs := by
  induction ps generalizing a with
  | nil => simp [rewrite]
  | cons p ps ih =>
    simp only [List.cons_append, rewrite, ih, List.length_cons, add_ofNat_add]
    rw [show S + S * ps.length = S * (ps.length + 1) by ring]

/-- A region of whole sectors holds everything `rewrite` touches. -/
theorem rewrite_touches {a : UInt32} {ps : List (List UInt8)} (hS : 0 < S) (ha : a.toNat % S = 0)
    (hps : ∀ p ∈ ps, p.length ≤ S) (hfit : a.toNat + S * ps.length ≤ 2 ^ 32) :
    ∀ op ∈ rewrite S a ps, ∀ x ∈ op.touches S,
      a.toNat ≤ x.toNat ∧ x.toNat < a.toNat + S * ps.length := by
  induction ps generalizing a with
  | nil => simp [rewrite]
  | cons p ps ih =>
    have hlen : S * (p :: ps).length = S + S * ps.length := by
      rw [List.length_cons]
      ring
    rw [hlen] at hfit ⊢
    intro op hop x hx
    simp only [rewrite, List.mem_cons] at hop
    rcases hop with rfl | rfl | hop
    · have hx' : x.toNat / S = a.toNat / S := hx
      have h1 := Nat.div_add_mod x.toNat S
      have h2 := Nat.div_add_mod a.toNat S
      have h3 := Nat.mod_lt x.toNat hS
      rw [hx'] at h1
      omega
    · have hp : p.length ≤ S := hps p (by simp)
      have hx' := (mem_span_iff_of_le (by omega)).mp hx
      omega
    · cases hps' : ps with
      | nil => simp [hps', rewrite] at hop
      | cons q qs =>
        have hpos : S ≤ S * ps.length := by
          rw [hps', List.length_cons]
          exact Nat.le_mul_of_pos_right S (by omega)
        have hnext : (a + UInt32.ofNat S).toNat = a.toNat + S :=
          add_ofNat_toNat a S (by omega)
        have := ih (by rw [hnext, Nat.add_mod_right, ha]) (fun p hp => hps p (by simp [hp]))
          (by omega) op hop x hx
        rw [← hps']
        omega

/-- What `rewrite` wrote reads back, whatever the chip held before: all pieces but the last fill
their sector. -/
theorem slice_applyAll_rewrite {a : UInt32} {ps : List (List UInt8)} {last : List UInt8}
    (hS : 0 < S) (ha : a.toNat % S = 0) (hps : ∀ p ∈ ps, p.length = S) (hlast : last.length ≤ S)
    (hfit : a.toNat + S * (ps.length + 1) ≤ 2 ^ 32) (f : Space) :
    slice (applyAll S (rewrite S a (ps ++ [last])) f) a (ps.flatten ++ last).length =
      ps.flatten ++ last := by
  induction ps generalizing a f with
  | nil =>
    refine List.ext_getElem (by simp) fun i h _ => ?_
    have hi : i < last.length := by simpa using h
    have hnat : (a + UInt32.ofNat i).toNat = a.toNat + i :=
      add_ofNat_toNat a i (by simp only [List.length_nil] at hfit; omega)
    have hsec : (a + UInt32.ofNat i).toNat / S = a.toNat / S := by
      rw [hnat]
      obtain ⟨q, hq⟩ := Nat.dvd_of_mod_eq_zero ha
      rw [hq, Nat.mul_add_div hS, Nat.div_eq_of_lt (by omega), Nat.mul_div_cancel_left q hS]
      rfl
    rw [slice_getElem]
    exact erase_program_add f _ a last i hi (by simp only [List.length_nil] at hfit; omega) hsec
  | cons p ps ih =>
    have hp : p.length = S := hps p (by simp)
    have hlen : S * ((p :: ps).length + 1) = S + S * (ps.length + 1) := by
      rw [List.length_cons]
      ring
    rw [hlen] at hfit
    have hpos : S ≤ S * (ps.length + 1) := Nat.le_mul_of_pos_right S (by omega)
    have hnext : (a + UInt32.ofNat S).toNat = a.toNat + S := add_ofNat_toNat a S (by omega)
    have hnextAligned : (a + UInt32.ofNat S).toNat % S = 0 := by
      rw [hnext, Nat.add_mod_right, ha]
    have hfitNext : (a + UInt32.ofNat S).toNat + S * (ps.length + 1) ≤ 2 ^ 32 := by omega
    have hpsLe : ∀ q ∈ ps ++ [last], q.length ≤ S := by
      intro q hq
      rcases List.mem_append.mp hq with hq | hq
      · exact (hps q (by simp [hq])).le
      · rw [List.mem_singleton] at hq
        rwa [hq]
    have hsplit : applyAll S (rewrite S a (p :: ps ++ [last])) f =
        applyAll S (rewrite S (a + UInt32.ofNat S) (ps ++ [last]))
          (applyAll S [.erase (a.toNat / S), .program a p] f) := rfl
    rw [hsplit, List.flatten_cons, List.append_assoc, List.length_append, slice_add, hp]
    congr 1
    · -- the first sector is not touched again
      refine List.ext_getElem (by simp [hp]) fun i h _ => ?_
      have hi : i < S := by simpa using h
      have hnat : (a + UInt32.ofNat i).toNat = a.toNat + i := add_ofNat_toNat a i (by omega)
      rw [slice_getElem, applyAll_of_not_touches]
      · refine erase_program_add f _ a p i (by omega) (by omega) ?_
        rw [hnat]
        obtain ⟨q, hq⟩ := Nat.dvd_of_mod_eq_zero ha
        rw [hq, Nat.mul_add_div hS, Nat.div_eq_of_lt hi, Nat.mul_div_cancel_left q hS]
        rfl
      · intro op hop hx
        have := rewrite_touches hS hnextAligned hpsLe (by simpa using hfitNext) op hop _ hx
        omega
    · exact ih hnextAligned (fun q hq => hps q (by simp [hq])) hfitNext _

/-- The pieces of a run of bytes written sector by sector: all but the last fill their sector. -/
structure Pieces (S : ℕ) (ps : List (List UInt8)) : Prop where
  le : ∀ p ∈ ps, p.length ≤ S
  full : ∀ p ∈ ps.dropLast, p.length = S

theorem Pieces.of_full {ps : List (List UInt8)} (h : ∀ p ∈ ps, p.length = S) : Pieces S ps :=
  ⟨fun p hp => (h p hp).le, fun p hp => h p (List.mem_of_mem_dropLast hp)⟩

theorem Pieces.snoc {ps : List (List UInt8)} {last : List UInt8} (h : ∀ p ∈ ps, p.length = S)
    (hlast : last.length ≤ S) : Pieces S (ps ++ [last]) := by
  refine ⟨fun p hp => ?_, fun p hp => h p (by simpa using hp)⟩
  rcases List.mem_append.mp hp with hp | hp
  · exact (h p hp).le
  · rwa [List.mem_singleton.mp hp]

/-- What was written in pieces reads back. -/
theorem Pieces.slice_rewrite {a : UInt32} {ps : List (List UInt8)} (h : Pieces S ps) (hS : 0 < S)
    (ha : a.toNat % S = 0) (hfit : a.toNat + S * ps.length ≤ 2 ^ 32) (f : Space) :
    slice (applyAll S (rewrite S a ps) f) a ps.flatten.length = ps.flatten := by
  rcases List.eq_nil_or_concat ps with rfl | ⟨qs, last, rfl⟩
  · rfl
  · have hfull : ∀ q ∈ qs, q.length = S := fun q hq => h.full q (by simpa using hq)
    have := slice_applyAll_rewrite hS ha hfull (h.le last (by simp)) (by simpa using hfit) f
    simpa using this

/-! ### Devices -/

/-- A chip in use: its contents at the start, the operations performed since, and whether the
coming operations succeed. -/
structure Device (S : ℕ) where
  base : Space
  log : List Op
  results : ℕ → Bool

namespace Device

/-- What the chip holds now. -/
def flash (d : Device S) : Space := applyAll S d.log d.base

/-- Every coming operation succeeds. -/
def AllOk (d : Device S) : Prop := ∀ k, d.results k = true

/-- The device after `n` more results have been reported. -/
def skip (d : Device S) (n : ℕ) : Device S := { d with results := fun k => d.results (k + n) }

/-- Read `n` bytes; `none` is a reported failure. -/
def read (d : Device S) (a : UInt32) (n : ℕ) : Option (List UInt8) × Device S :=
  (if d.results 0 then some (slice d.flash a n) else none, d.skip 1)

/-- Perform an operation if it succeeds. -/
def perform (d : Device S) (op : Op) : Bool × Device S :=
  if d.results 0 then (true, { d.skip 1 with log := d.log ++ [op] }) else (false, d.skip 1)

@[simp] theorem skip_base (d : Device S) (n : ℕ) : (d.skip n).base = d.base := rfl
@[simp] theorem skip_log (d : Device S) (n : ℕ) : (d.skip n).log = d.log := rfl
@[simp] theorem skip_flash (d : Device S) (n : ℕ) : (d.skip n).flash = d.flash := rfl
@[simp] theorem skip_results (d : Device S) (n k : ℕ) :
    (d.skip n).results k = d.results (k + n) := rfl
@[simp] theorem skip_zero (d : Device S) : d.skip 0 = d := rfl

theorem skip_skip (d : Device S) (m n : ℕ) : (d.skip m).skip n = d.skip (m + n) := by
  simp only [skip]
  congr 1
  funext k
  congr 1
  omega

theorem AllOk.skip_eq {d : Device S} (h : d.AllOk) (n : ℕ) : d.skip n = d := by
  have hr : d.results = fun _ => true := funext h
  obtain ⟨base, log, results⟩ := d
  simp only at hr
  subst hr
  rfl

theorem AllOk.read {d : Device S} (h : d.AllOk) (a : UInt32) (n : ℕ) :
    d.read a n = (some (slice d.flash a n), d) := by
  rw [Device.read, h 0, if_pos rfl, h.skip_eq]

theorem AllOk.perform {d : Device S} (h : d.AllOk) (op : Op) :
    d.perform op = (true, { d with log := d.log ++ [op] }) := by
  rw [Device.perform, h 0, if_pos rfl, h.skip_eq]

/-- The `n` operations from the `k`-th on succeed. -/
def OkFrom (d : Device S) (k n : ℕ) : Prop := ∀ j < n, d.results (k + j) = true

instance (d : Device S) (k n : ℕ) : Decidable (d.OkFrom k n) := Nat.decidableBallLT n _

theorem okFrom_add (d : Device S) (k m n : ℕ) :
    d.OkFrom k (m + n) ↔ d.OkFrom k m ∧ d.OkFrom (k + m) n := by
  constructor
  · intro h
    exact ⟨fun j hj => h j (by omega), fun j hj => by rw [Nat.add_assoc]; exact h (m + j) (by omega)⟩
  · rintro ⟨h1, h2⟩ j hj
    by_cases hjm : j < m
    · exact h1 j hjm
    · have := h2 (j - m) (by omega)
      rwa [show k + m + (j - m) = k + j by omega] at this

theorem okFrom_one (d : Device S) (k : ℕ) : d.OkFrom k 1 ↔ d.results k = true := by
  constructor
  · intro h
    exact h 0 (by omega)
  · intro h j hj
    rwa [show k + j = k by omega]

theorem AllOk.okFrom {d : Device S} (h : d.AllOk) (k n : ℕ) : d.OkFrom k n := fun _ _ => h _

theorem flash_append (d : Device S) (ops : List Op) :
    ({ d with log := d.log ++ ops } : Device S).flash = applyAll S ops d.flash :=
  applyAll_append d.log ops d.base

end Device

end NorFlash
