import Esp8266At.App.Ota
import Esp8266At.App.CheckSpec

/-!
# What a session writes

An update session keeps the received body in two parts: full sectors, already written to consecutive
sectors from the target on, and the sector buffer (`Progress`). One received chunk keeps this or ends the
session (`receive_live`), and so does every event (`step_live`), so that it holds in whatever order the
events come (`run_session`).
-/

namespace Esp8266At

open ByteSpace NorFlash

/-! ### The response -/

/-- The body of a response received in chunks: the first one starts with the header. -/
def responseBody : List (List UInt8) → List UInt8
  | [] => []
  | c :: cs => ((responseHeader c).map Prod.snd).getD [] ++ cs.flatten

/-- The announced length. -/
def announced : List (List UInt8) → UInt32
  | [] => 0
  | c :: _ => ((responseHeader c).map Prod.fst).getD 0

theorem responseBody_snoc {cs : List (List UInt8)} (h : cs ≠ []) (c : List UInt8) :
    responseBody (cs ++ [c]) = responseBody cs ++ c := by
  obtain ⟨x, xs, rfl⟩ := List.exists_cons_of_ne_nil h
  simp [responseBody]

theorem announced_snoc {cs : List (List UInt8)} (h : cs ≠ []) (c : List UInt8) :
    announced (cs ++ [c]) = announced cs := by
  obtain ⟨x, xs, rfl⟩ := List.exists_cons_of_ne_nil h
  rfl

theorem responseBody_singleton {c content : List UInt8} {n : UInt32} (h : responseHeader c = some (n, content)) :
    responseBody [c] = content := by
  simp [responseBody, h]

theorem announced_singleton {c content : List UInt8} {n : UInt32} (h : responseHeader c = some (n, content)) :
    announced [c] = n := by
  simp [announced, h]

namespace App

/-- `s` with another output. -/
def printed (o : List Output) (s : App) : App := { s with out := o }

/-- Printing changes the output only. -/
theorem debug_out (s : App) (t : String) : ∃ o, s.debug t = s.printed o := by
  unfold debug
  split_ifs
  · exact ⟨_, rfl⟩
  · exact ⟨s.out, rfl⟩

/-! ### One sector -/

/-- The sector number that is passed on has 16 bits. -/
theorem sector_toNat {a : UInt32} (h : a.toNat < 2 ^ 28) :
    (a / UInt32.ofNat SECTOR_SIZE).toUInt16.toNat = a.toNat / SECTOR_SIZE := by
  have hsize : (UInt32.ofNat SECTOR_SIZE).toNat = SECTOR_SIZE := rfl
  rw [UInt32.toNat_toUInt16, UInt32.toNat_div, hsize]
  simp only [SECTOR_SIZE]
  omega

/-- Erasing and writing a sector: what is done is a prefix of the two operations, all of it if both
succeed. -/
theorem writeSector (s : App) {a : UInt32} (h : a.toNat < 2 ^ 28) (p : List UInt8) :
    ∃ d d' : Spi, d.base = s.spi.base ∧ d'.base = s.spi.base ∧
      (s.spiFlashEraseSector (a / UInt32.ofNat SECTOR_SIZE) = (false, { s with spi := d }) ∧ d.log = s.spi.log ∨
      s.spiFlashEraseSector (a / UInt32.ofNat SECTOR_SIZE) = (true, { s with spi := d }) ∧
        (({ s with spi := d } : App).spiFlashWrite a p = (false, { s with spi := d' }) ∧
          d'.log = s.spi.log ++ [.erase (a.toNat / SECTOR_SIZE)] ∨
        ({ s with spi := d } : App).spiFlashWrite a p = (true, { s with spi := d' }) ∧
          d'.log = s.spi.log ++ rewrite SECTOR_SIZE a [p])) := by
  rw [spiFlashEraseSector, sector_toNat h]
  simp only [Device.perform]
  by_cases herase : s.spi.results 0 = true
  · simp only [herase, if_true, spiFlashWrite, Device.perform]
    set d : Spi := { s.spi.skip 1 with log := s.spi.log ++ [.erase (a.toNat / SECTOR_SIZE)] } with hd
    by_cases hwrite : d.results 0 = true
    · refine ⟨d, { d.skip 1 with log := d.log ++ [.program a p] }, rfl, rfl, Or.inr ⟨rfl, Or.inr ⟨?_, ?_⟩⟩⟩
      · rw [if_pos hwrite]
      · simp [hd, rewrite]
    · refine ⟨d, d.skip 1, rfl, rfl, Or.inr ⟨rfl, Or.inl ⟨?_, rfl⟩⟩⟩
      rw [if_neg hwrite]
  · rw [if_neg herase]
    exact ⟨s.spi.skip 1, s.spi.skip 1, rfl, rfl, Or.inl ⟨rfl, rfl⟩⟩

/-- What `_write_data` does in an update: it appends to the sector buffer and writes at most one full
sector, or it fails at this sector. -/
theorem writeData_spec {s : App} {u : UpgradeStatus} (htype : s.upgradeType = .upgrade)
    (haddr : u.flashAddr.toNat < 2 ^ 28) (data : List UInt8) :
    ∃ r a b d o, writeData data u s = (r, { u with flashAddr := a, buffer := b }, { s with spi := d, out := o }) ∧
      d.base = s.spi.base ∧
      (r = .ok → ∃ full, full.length ≤ 1 ∧ (∀ p ∈ full, p.length = SECTOR_SIZE) ∧
        d.log = s.spi.log ++ rewrite SECTOR_SIZE u.flashAddr full ∧
        a = u.flashAddr + UInt32.ofNat (SECTOR_SIZE * full.length) ∧
        full.flatten ++ b.val = u.buffer.val ++ data) ∧
      (r ≠ .ok → ∃ p ops, p.length = SECTOR_SIZE ∧ d.log = s.spi.log ++ ops ∧
        ops <+: rewrite SECTOR_SIZE u.flashAddr [p]) := by
  unfold writeData
  split_ifs with hzero hfull hover
  · refine ⟨.ok, u.flashAddr, u.buffer, s.spi, s.out, rfl, rfl, fun _ => ⟨[], ?_⟩, fun h => absurd rfl h⟩
    simp [rewrite, List.length_eq_zero_iff.mp hzero]
  · obtain ⟨o, ho⟩ := s.debug_out "Flash address exceeds firmware length\r\n"
    refine ⟨.failed, u.flashAddr, u.buffer, s.spi, o, by rw [ho, printed], rfl, (by rintro ⟨⟩), fun _ => ?_⟩
    exact ⟨List.replicate SECTOR_SIZE 0, [], by simp, by simp, List.nil_prefix⟩
  · obtain ⟨p, hp⟩ : ∃ p, p = u.buffer.val ++ data.take (SECTOR_SIZE - u.buffer.val.length) := ⟨_, rfl⟩
    have hbuf := u.buffer.property
    have hlen : p.length = SECTOR_SIZE := by
      rw [hp, List.length_append, List.length_take, min_eq_left hfull]
      omega
    obtain ⟨d, d', hd, hd', ⟨heq, hlog⟩ | ⟨heq, ⟨heq', hlog⟩ | ⟨heq', hlog⟩⟩⟩ := s.writeSector haddr p
    · obtain ⟨o, ho⟩ := ({ s with spi := d } : App).debug_out "Flash write error\r\n"
      refine ⟨.failed, u.flashAddr, u.buffer, d, o, by simp only [heq, ho, printed], hd, (by rintro ⟨⟩), fun _ => ?_⟩
      exact ⟨p, [], hlen, by rw [hlog, List.append_nil], List.nil_prefix⟩
    · obtain ⟨o, ho⟩ := ({ s with spi := d' } : App).debug_out "Flash write error\r\n"
      refine ⟨.failed, u.flashAddr, u.buffer, d', o, ?_, hd', (by rintro ⟨⟩), fun _ => ?_⟩
      · simp only [heq, ← hp, heq', ho, printed]
      exact ⟨p, _, hlen, hlog, ⟨[.program u.flashAddr p], rfl⟩⟩
    · simp only [heq, ← hp, heq']
      split_ifs with hrem
      · refine ⟨.ok, _, _, d', s.out, rfl, hd', fun _ => ⟨[p], le_rfl, by simpa using hlen, hlog, ?_, ?_⟩,
          fun h => absurd rfl h⟩
        · simp
        · simp [hp, List.append_assoc]
      · refine ⟨.overrun, _, u.buffer, d', s.out, rfl, hd', (by rintro ⟨⟩), fun _ => ⟨p, _, hlen, hlog, ?_⟩⟩
        exact List.prefix_rfl
  · refine ⟨.ok, u.flashAddr, u.buffer.append data (u.fits hfull), s.spi, s.out, rfl, rfl, fun _ => ⟨[], ?_⟩,
      fun h => absurd rfl h⟩
    simp [rewrite, SectorBuffer.append]

/-! ### One received chunk -/

/-- The state in which `at_ota_start` leaves a session it has opened. -/
structure Opened (s₀ : App) : Prop where
  type : s₀.upgradeType = .upgrade
  flag : s₀.upgradeFlag = .start
  running : s₀.crashed = false
  aligned : s₀.upgradeFlashAddr.toNat % SECTOR_SIZE = 0
  bound : s₀.upgradeFlashAddr.toNat ≤ 0x701000
  live : ∃ u, s₀.upgrade = .live u ∧ u.callback = .update ∧ u.flashAddr = s₀.upgradeFlashAddr ∧
    u.buffer.val = [] ∧ u.totalLen = 0
  length : s₀.upgradeContentLen = 0

/-- `s₀` with what changes while a session goes on. -/
def session (d : Spi) (heap : ℕ → Bool) (out : List Output) (u : UpgradeStatus) (content_len : UInt32)
    (timer : Option OtaTimer) (s₀ : App) : App :=
  { s₀ with spi := d, heap := heap, out := out, upgrade := .live u, upgradeContentLen := content_len,
            otaTimer := timer }

/-- The part of the body that is in the flash, and the part that is in the sector buffer. -/
structure Progress (s₀ : App) (cs : List (List UInt8)) (u : UpgradeStatus) (d : Spi)
    (full : List (List UInt8)) : Prop where
  callback : u.callback = .update
  base : d.base = s₀.spi.base
  log : d.log = s₀.spi.log ++ rewrite SECTOR_SIZE s₀.upgradeFlashAddr full
  sectors : ∀ p ∈ full, p.length = SECTOR_SIZE
  addr : u.flashAddr = s₀.upgradeFlashAddr + UInt32.ofNat (SECTOR_SIZE * full.length)
  body : responseBody cs = full.flatten ++ u.buffer.val
  total : u.totalLen = UInt32.ofNat (responseBody cs).length

/-- A session that has received `cs` and goes on. -/
def Live (s₀ : App) (cs : List (List UInt8)) (t : App) : Prop :=
  ∃ d heap out u content_len timer full, t = s₀.session d heap out u content_len timer ∧
    Progress s₀ cs u d full ∧ content_len = announced cs ∧
    (cs ≠ [] → (responseBody cs).length < (announced cs).toNat ∧ announced cs < FW_MAXSIZE)

/-- `k` sectors are one, or no more than the announced length takes. -/
def Fits (cs : List (List UInt8)) (k : ℕ) : Prop :=
  k ≤ 1 ∨ (announced cs < FW_MAXSIZE ∧ SECTOR_SIZE * (k - 1) < (announced cs).toNat)

/-- What has been done to the flash is the beginning of a rewriting of consecutive sectors. -/
def Written (s₀ : App) (cs : List (List UInt8)) (d : Spi) : Prop :=
  d.base = s₀.spi.base ∧ ∃ pieces ops, d.log = s₀.spi.log ++ ops ∧
    ops <+: rewrite SECTOR_SIZE s₀.upgradeFlashAddr pieces ∧ Pieces SECTOR_SIZE pieces ∧ Fits cs pieces.length

/-- The whole body is in the flash. -/
def Downloaded (s₀ : App) (cs : List (List UInt8)) (d : Spi) : Prop :=
  d.base = s₀.spi.base ∧ ∃ pieces, d.log = s₀.spi.log ++ rewrite SECTOR_SIZE s₀.upgradeFlashAddr pieces ∧
    pieces.flatten = responseBody cs ∧ Pieces SECTOR_SIZE pieces ∧ Fits cs pieces.length ∧
    (responseBody cs).length = (announced cs).toNat ∧ announced cs < FW_MAXSIZE

/-- A session that has received `cs` and comes to its end: the download is finished, or it has failed;
the sector buffer has been overrun or not. -/
def Ended (s₀ : App) (cs : List (List UInt8)) (finished overrun : Bool) (t : App) : Prop :=
  ∃ d heap out u content_len timer,
    t = { s₀.session d heap out u content_len timer with
          upgradeFlag := if finished then .finish else .start, crashed := overrun } ∧
    u.callback = .update ∧ Written s₀ cs d ∧
    (finished = true → overrun = false ∧ content_len = announced cs ∧ Downloaded s₀ cs d)

/-- How a chunk can leave a session: it goes on, or it comes to its end. -/
def After (s₀ : App) (cs : List (List UInt8)) (r : Bool × App) : Prop :=
  r.1 = false ∧ Live s₀ cs r.2 ∨ ∃ finished overrun, r.1 = !overrun ∧ Ended s₀ cs finished overrun r.2

variable {s₀ : App} {cs : List (List UInt8)}

theorem flatten_full {ps : List (List UInt8)} (h : ∀ p ∈ ps, p.length = SECTOR_SIZE) :
    ps.flatten.length = SECTOR_SIZE * ps.length := by
  rw [List.length_flatten, List.map_congr_left (g := fun _ => SECTOR_SIZE) h, List.map_const', List.sum_replicate,
    smul_eq_mul, mul_comm]

theorem Progress.count {u : UpgradeStatus} {d : Spi} {full : List (List UInt8)} (h : Progress s₀ cs u d full) :
    (responseBody cs).length = SECTOR_SIZE * full.length + u.buffer.val.length := by
  rw [h.body, List.length_append, flatten_full h.sectors]

theorem Progress.written {u : UpgradeStatus} {d : Spi} {full cs' : List (List UInt8)}
    (h : Progress s₀ cs u d full) (hfits : Fits cs' full.length) : Written s₀ cs' d :=
  ⟨h.base, full, _, h.log, List.prefix_rfl, Pieces.of_full h.sectors, hfits⟩

/-- The address of the next sector, as a number. -/
theorem Progress.addr_toNat {u : UpgradeStatus} {d : Spi} {full : List (List UInt8)}
    (h : Progress s₀ cs u d full) (h0 : s₀.Opened) (hle : (responseBody cs).length < 2 ^ 24) :
    u.flashAddr.toNat = s₀.upgradeFlashAddr.toNat + SECTOR_SIZE * full.length := by
  have hbound := h0.bound
  have hcount := h.count
  rw [h.addr, add_ofNat_toNat _ _ (by omega)]

theorem downloadFinished_out (s : App) (u : UpgradeStatus) : ∃ o, s.downloadFinished u =
    (true, { s with upgradeFlag := .finish, out := o, upgrade := .live { u with error := .ok } }) := by
  unfold downloadFinished
  obtain ⟨o, ho⟩ := ({ s with upgradeFlag := .finish } : App).debug_out
    ("Download finished, received: " ++ toString u.totalLen.toNat ++ " (heap=" ++
      toString s.freeHeapSize ++ ")\r\n")
  exact ⟨o, by simp only [ho, storeStatus, printed]⟩

/-- The end of `upgrade_recvcb`, after the chunk has been taken over. -/
theorem receiveEnd_spec (h0 : s₀.Opened) {u : UpgradeStatus} {d : Spi} {full : List (List UInt8)}
    (heap : ℕ → Bool) (out : List Output) (u₁ : UpgradeStatus) (timer : Option OtaTimer) (reading : Bool)
    (hp : Progress s₀ cs u d full) (hfits : Fits cs full.length) (hmax : announced cs < FW_MAXSIZE)
    (hle : (responseBody cs).length < 2 ^ 24) :
    After s₀ cs ((s₀.session d heap out u₁ (announced cs) timer).receiveEnd reading u) := by
  set s := s₀.session d heap out u₁ (announced cs) timer with hs
  have haddr := hp.addr_toNat h0 hle
  have hcount := hp.count
  have hbound := h0.bound
  have htotal : u.totalLen.toNat = (responseBody cs).length := by
    rw [hp.total, UInt32.toNat_ofNat']
    omega
  have hlen : s.upgradeContentLen = announced cs := rfl
  have hflag : s₀.upgradeFlag = .start := h0.flag
  -- a failed end
  have failed : ∀ (d : Spi) (o : List Output) (e : OtaStatus), Written s₀ cs d →
      Ended s₀ cs false false (({ s with spi := d, out := o } : App).storeStatus { u with error := e }) := by
    intro d o e hw
    refine ⟨d, heap, o, { u with error := e }, announced cs, timer, ?_, hp.callback, hw, (nomatch ·)⟩
    simp only [hs, storeStatus, session, Bool.false_eq_true, if_false]
    rw [← hflag, ← h0.running]
  -- a finished download
  have finished : ∀ d : Spi, Downloaded s₀ cs d → Written s₀ cs d →
      After s₀ cs (({ s with spi := d } : App).downloadFinished u) := by
    intro d hd hw
    obtain ⟨o, ho⟩ := ({ s with spi := d } : App).downloadFinished_out u
    rw [ho]
    refine Or.inr ⟨true, false, rfl, d, heap, o, { u with error := .ok }, announced cs, timer, ?_, hp.callback, hw,
      fun _ => ⟨rfl, rfl, hd⟩⟩
    simp only [hs, session, if_true]
    rw [← h0.running]
  unfold receiveEnd
  by_cases heq : u.totalLen = s.upgradeContentLen
  · rw [if_pos heq]
    have hall : (responseBody cs).length = (announced cs).toNat := by rw [← htotal, heq, hlen]
    by_cases hbuf : u.buffer.val.length > 0 ∧ s.upgradeType = .upgrade
    · rw [if_pos hbuf]
      -- one more sector
      have hpieces : Pieces SECTOR_SIZE (full ++ [u.buffer.val]) := Pieces.snoc hp.sectors u.buffer.property
      have hfits' : Fits cs (full ++ [u.buffer.val]).length := by
        refine Or.inr ⟨hmax, ?_⟩
        rw [List.length_append, List.length_singleton, Nat.add_sub_cancel]
        omega
      have hrewrite : rewrite SECTOR_SIZE s₀.upgradeFlashAddr (full ++ [u.buffer.val]) =
          rewrite SECTOR_SIZE s₀.upgradeFlashAddr full ++ rewrite SECTOR_SIZE u.flashAddr [u.buffer.val] := by
        rw [rewrite_append, ← hp.addr]
      have hwritten : ∀ d' : Spi, d'.base = s.spi.base → ∀ ops, d'.log = s.spi.log ++ ops →
          ops <+: rewrite SECTOR_SIZE u.flashAddr [u.buffer.val] → Written s₀ cs d' := by
        intro d' hbase ops hlog hops
        refine ⟨hbase.trans hp.base, full ++ [u.buffer.val], rewrite SECTOR_SIZE s₀.upgradeFlashAddr full ++ ops, ?_, ?_,
          hpieces, hfits'⟩
        · rw [hlog, show s.spi.log = d.log from rfl, hp.log, List.append_assoc]
        · rw [hrewrite]
          exact (List.prefix_append_right_inj _).mpr hops
      obtain ⟨d₁, d₂, hd₁, hd₂, ⟨he, hlog⟩ | ⟨he, ⟨hw, hlog⟩ | ⟨hw, hlog⟩⟩⟩ :=
        s.writeSector (a := u.flashAddr) (by omega) u.buffer.val
      · rw [he]
        exact Or.inr ⟨false, false, rfl,
          failed d₁ s.out _ (hwritten d₁ hd₁ [] (by simpa using hlog) List.nil_prefix)⟩
      · rw [he]
        simp only [hw]
        exact Or.inr ⟨false, false, rfl,
          failed d₂ s.out _ (hwritten d₂ hd₂ _ hlog ⟨[.program u.flashAddr u.buffer.val], rfl⟩)⟩
      · rw [he]
        simp only [hw]
        have hw' := hwritten d₂ hd₂ _ hlog List.prefix_rfl
        exact finished d₂ ⟨hd₂.trans hp.base, full ++ [u.buffer.val], by
          rw [hlog, show s.spi.log = d.log from rfl, hp.log, hrewrite, List.append_assoc],
          by simp [hp.body], hpieces, hfits', hall, hmax⟩ hw'
    · rw [if_neg hbuf]
      have hempty : u.buffer.val = [] := by
        refine List.length_eq_zero_iff.mp (Nat.eq_zero_of_not_pos fun hpos => hbuf ⟨hpos, h0.type⟩)
      exact finished d ⟨hp.base, full, hp.log, by rw [hp.body, hempty, List.append_nil],
        Pieces.of_full hp.sectors, hfits, hall, hmax⟩ (hp.written hfits)
  · rw [if_neg heq]
    split_ifs with hover
    · obtain ⟨o, ho⟩ := s.debug_out "Download failed\r\n"
      rw [ho]
      exact Or.inr ⟨false, false, rfl, failed d o _ (hp.written hfits)⟩
    · refine Or.inl ⟨rfl, d, heap, out, u, announced cs, some .deinit, full, rfl, hp, rfl, fun _ => ⟨?_, hmax⟩⟩
      have hne' : u.totalLen.toNat ≠ (announced cs).toNat := fun h => heq (UInt32.toNat_inj.mp h)
      have hle' : ¬(announced cs).toNat < u.totalLen.toNat := fun h =>
        hover (Or.inr (UInt32.lt_iff_toNat_lt.mpr h))
      omega

theorem Fits.mono {k k' : ℕ} (h : Fits cs k') (hk : k ≤ k') : Fits cs k := by
  rcases h with h | ⟨hmax, h⟩
  · exact Or.inl (by omega)
  · exact Or.inr ⟨hmax, lt_of_le_of_lt (Nat.mul_le_mul_left _ (by omega)) h⟩

section
variable {u : UpgradeStatus} {d : Spi} {full : List (List UInt8)} {cs' : List (List UInt8)}

/-- The sector that is filled next belongs to the announced length. -/
theorem Progress.fits (hp : Progress s₀ cs u d full)
    (hlater : cs ≠ [] → (responseBody cs).length < (announced cs).toNat ∧ announced cs < FW_MAXSIZE)
    (hann : cs ≠ [] → announced cs' = announced cs) : Fits cs' (full.length + 1) := by
  have hcount := hp.count
  by_cases hcs : cs = []
  · have hbody : (responseBody cs).length = 0 := by rw [hcs]; rfl
    exact Or.inl (by simp only [SECTOR_SIZE] at hcount; omega)
  · obtain ⟨hlt, hmax⟩ := hlater hcs
    rw [← hann hcs] at hlt hmax
    exact Or.inr ⟨hmax, by rw [Nat.add_sub_cancel]; omega⟩

/-- Taking over a piece of the body. -/
theorem Progress.write (hp : Progress s₀ cs u d full) {content : List UInt8}
    (hbody : responseBody cs' = responseBody cs ++ content) {a : UInt32} {b : SectorBuffer} {d' : Spi}
    {more : List (List UInt8)} (hbase : d'.base = d.base) (hmore : ∀ p ∈ more, p.length = SECTOR_SIZE)
    (hlog : d'.log = d.log ++ rewrite SECTOR_SIZE u.flashAddr more)
    (ha : a = u.flashAddr + UInt32.ofNat (SECTOR_SIZE * more.length))
    (hflat : more.flatten ++ b.val = u.buffer.val ++ content) :
    Progress s₀ cs' { u with totalLen := u.totalLen + UInt32.ofNat content.length, flashAddr := a, buffer := b }
      d' (full ++ more) where
  callback := hp.callback
  base := hbase.trans hp.base
  log := by rw [hlog, hp.log, rewrite_append, ← hp.addr, List.append_assoc]
  sectors p h := (List.mem_append.mp h).elim (hp.sectors p) (hmore p)
  addr := by
    show a = _
    rw [ha, hp.addr, add_ofNat_add, List.length_append, Nat.mul_add]
  body := by
    show _ = _ ++ b.val
    rw [hbody, hp.body, List.flatten_append, List.append_assoc, List.append_assoc, hflat]
  total := by
    show u.totalLen + _ = _
    rw [hp.total, hbody, List.length_append, UInt32.ofNat_add]

/-- Failing at the next sector. -/
theorem Progress.stop (hp : Progress s₀ cs u d full) (hfits : Fits cs' (full.length + 1)) {p : List UInt8}
    {ops : List Op} {d' : Spi} (hlen : p.length = SECTOR_SIZE) (hbase : d'.base = d.base)
    (hlog : d'.log = d.log ++ ops) (hops : ops <+: rewrite SECTOR_SIZE u.flashAddr [p]) : Written s₀ cs' d' := by
  refine ⟨hbase.trans hp.base, full ++ [p], rewrite SECTOR_SIZE s₀.upgradeFlashAddr full ++ ops, ?_, ?_,
    Pieces.snoc hp.sectors hlen.le, by simpa using hfits⟩
  · rw [hlog, hp.log, List.append_assoc]
  · rw [rewrite_append, ← hp.addr]
    exact (List.prefix_append_right_inj _).mpr hops

end

/-- The end of a session that has not succeeded. -/
theorem ended_of_written (h0 : s₀.Opened) {d : Spi} (heap : ℕ → Bool) (out : List Output) (u : UpgradeStatus)
    (content_len : UInt32) (timer : Option OtaTimer) (overrun : Bool) (hcall : u.callback = .update)
    (hw : Written s₀ cs d) :
    Ended s₀ cs false overrun { s₀.session d heap out u content_len timer with crashed := overrun } := by
  refine ⟨d, heap, out, u, content_len, timer, ?_, hcall, hw, (nomatch ·)⟩
  simp only [session, Bool.false_eq_true, if_false]
  rw [← h0.flag]

theorem session_running (h0 : s₀.Opened) {d : Spi} {heap : ℕ → Bool} {out : List Output} {u : UpgradeStatus}
    {content_len : UInt32} {timer : Option OtaTimer} : s₀.session d heap out u content_len timer =
      { s₀.session d heap out u content_len timer with crashed := false } := by
  simp only [session]
  rw [← h0.running]

section
variable {u : UpgradeStatus} {d : Spi} {full : List (List UInt8)} {heap : ℕ → Bool} {out : List Output}
  {timer : Option OtaTimer} {data : List UInt8} {reading : Bool}

theorem receiveFirst_spec (h0 : s₀.Opened) (hp : Progress s₀ [] u d full) (hdata : data.length < 2 ^ 16) :
    After s₀ [data] ((s₀.session d heap out u 0 timer).receiveFirst data reading u) := by
  set s := s₀.session d heap out u 0 timer with hs
  have hfits : Fits [data] (full.length + 1) := hp.fits (absurd rfl) (absurd rfl)
  have hbound := h0.bound
  have hempty : (responseBody []).length = 0 := rfl
  unfold receiveFirst
  cases hheader : responseHeader data with
  | none =>
    obtain ⟨o, ho⟩ := s.debug_out "Not a valid http header/non-200 response\r\n"
    refine Or.inr ⟨false, false, rfl, ?_⟩
    have hend := ended_of_written h0 heap o { u with error := .noValidResponse } 0 timer false hp.callback (hp.written (hfits.mono (Nat.le_succ _)))
    simp only [ho]
    rwa [← session_running h0] at hend
  | some r =>
    obtain ⟨n, content⟩ := r
    have hbody : responseBody [data] = responseBody [] ++ content := responseBody_singleton hheader
    have hcontent := responseHeader_length hheader
    have hann : announced [data] = n := announced_singleton hheader
    have haddr := hp.addr_toNat h0 (by omega)
    have hcount := hp.count
    obtain ⟨r, a, b, d', o, heq, hbase, hok, hbad⟩ := writeData_spec (s := s)
      (u := { u with totalLen := u.totalLen + UInt32.ofNat content.length }) h0.type
      (by show u.flashAddr.toNat < _; omega) content
    simp only [heq]
    cases r with
    | ok =>
      obtain ⟨more, hone, hmore, hlog, ha, hflat⟩ := hok rfl
      have hp' := hp.write hbody hbase hmore hlog ha hflat
      have hfits' : Fits [data] (full ++ more).length := hfits.mono (by rw [List.length_append]; omega)
      set u' : UpgradeStatus :=
        { u with totalLen := u.totalLen + UInt32.ofNat content.length, flashAddr := a, buffer := b }
      show After s₀ [data] (if ContentLengthError s₀.upgradeType s₀.upgradeFlashMap n then
          (true, ((s₀.session d' heap o u n timer).debug "Content length error\r\n").storeStatus
            { u' with error := .fwToBig })
        else ((s₀.session d' heap o u n timer).debug ("Response header received, downloading " ++
          toString n.toNat ++ " byte(s)\r\n")).receiveEnd reading u')
      by_cases herror : ContentLengthError s₀.upgradeType s₀.upgradeFlashMap n
      · rw [if_pos herror]
        obtain ⟨o', ho'⟩ := (s₀.session d' heap o u n timer).debug_out "Content length error\r\n"
        have hend := ended_of_written h0 heap o' { u' with error := .fwToBig } n timer false hp.callback (hp'.written hfits')
        rw [← session_running h0] at hend
        rw [ho']
        exact Or.inr ⟨false, false, rfl, hend⟩
      · rw [if_neg herror]
        obtain ⟨o', ho'⟩ := (s₀.session d' heap o u n timer).debug_out
          ("Response header received, downloading " ++ toString n.toNat ++ " byte(s)\r\n")
        have hmax : n < FW_MAXSIZE := by
          have := mt Or.inl herror
          simpa using this
        have hend := receiveEnd_spec h0 heap o' u timer reading hp' hfits' (by rwa [hann]) (by rw [hbody, List.length_append]; omega)
        rw [hann] at hend
        rw [ho']
        exact hend
    | failed =>
      obtain ⟨p, ops, hlen, hlog, hops⟩ := hbad (by simp)
      have hend := ended_of_written h0 heap o
        { u with totalLen := u.totalLen + UInt32.ofNat content.length, flashAddr := a, buffer := b } 0 timer false
        hp.callback (hp.stop hfits hlen hbase hlog hops)
      rw [← session_running h0] at hend
      exact Or.inr ⟨false, false, rfl, hend⟩
    | overrun =>
      obtain ⟨p, ops, hlen, hlog, hops⟩ := hbad (by simp)
      exact Or.inr ⟨false, true, rfl, ended_of_written h0 heap o
        { u with totalLen := u.totalLen + UInt32.ofNat content.length, flashAddr := a, buffer := b } 0 timer true
        hp.callback (hp.stop hfits hlen hbase hlog hops)⟩

theorem receiveNext_spec (h0 : s₀.Opened) (hp : Progress s₀ cs u d full) (hcs : cs ≠ [])
    (hlater : (responseBody cs).length < (announced cs).toNat ∧ announced cs < FW_MAXSIZE)
    (hdata : data.length < 2 ^ 16) :
    After s₀ (cs ++ [data]) ((s₀.session d heap out u (announced cs) timer).receiveNext data reading u) := by
  set s := s₀.session d heap out u (announced cs) timer with hs
  have hann := announced_snoc hcs data
  have hbody := responseBody_snoc hcs data
  have hfits : Fits (cs ++ [data]) (full.length + 1) := hp.fits (fun _ => hlater) fun _ => hann
  have hbound := h0.bound
  have hmax : (announced cs).toNat < 0xF0000 := UInt32.lt_iff_toNat_lt.mp hlater.2
  have haddr := hp.addr_toNat h0 (by omega)
  have hcount := hp.count
  unfold receiveNext
  obtain ⟨r, a, b, d', o, heq, hbase, hok, hbad⟩ := writeData_spec (s := s)
    (u := { u with totalLen := u.totalLen + UInt32.ofNat data.length }) h0.type
    (by show u.flashAddr.toNat < _; omega) data
  simp only [heq]
  cases r with
  | ok =>
    obtain ⟨more, hone, hmore, hlog, ha, hflat⟩ := hok rfl
    have hp' := hp.write hbody hbase hmore hlog ha hflat
    have hfits' : Fits (cs ++ [data]) (full ++ more).length := hfits.mono (by rw [List.length_append]; omega)
    have hend := receiveEnd_spec h0 heap o u timer reading hp' hfits' (by rw [hann]; exact hlater.2) (by rw [hbody, List.length_append]; omega)
    rw [hann] at hend
    exact hend
  | failed =>
    obtain ⟨p, ops, hlen, hlog, hops⟩ := hbad (by simp)
    have hend := ended_of_written h0 heap o
      { u with totalLen := u.totalLen + UInt32.ofNat data.length, flashAddr := a, buffer := b,
               error := .flashWriteError } (announced cs) timer false hp.callback (hp.stop hfits hlen hbase hlog hops)
    rw [← session_running h0] at hend
    exact Or.inr ⟨false, false, rfl, hend⟩
  | overrun =>
    obtain ⟨p, ops, hlen, hlog, hops⟩ := hbad (by simp)
    exact Or.inr ⟨false, true, rfl,
      ended_of_written h0 heap o
        { u with totalLen := u.totalLen + UInt32.ofNat data.length, flashAddr := a, buffer := b }
        (announced cs) timer true hp.callback (hp.stop hfits hlen hbase hlog hops)⟩

end

/-- One received chunk: the session goes on with it, or comes to its end. -/
theorem receive_live (h0 : s₀.Opened) {t : App} (h : Live s₀ cs t) (data : Chunk) (reading : Bool) :
    After s₀ (cs ++ [data.val]) (t.receive data reading) := by
  obtain ⟨d, heap, out, u, content_len, timer, full, rfl, hp, rfl, hlater⟩ := h
  show After s₀ (cs ++ [data.val]) (if announced cs = 0 then
      (s₀.session d heap out u (announced cs) none).receiveFirst data.val reading u
    else (s₀.session d heap out u (announced cs) none).receiveNext data.val reading u)
  by_cases hcs : cs = []
  · subst hcs
    rw [if_pos (show announced [] = 0 from rfl)]
    exact receiveFirst_spec h0 hp data.property
  · have hpos : announced cs ≠ 0 := by
      intro hzero
      have := (hlater hcs).1
      rw [hzero] at this
      exact absurd this (Nat.not_lt_zero _)
    rw [if_neg hpos]
    exact receiveNext_spec h0 hp hcs (hlater hcs) data.property

end App

end Esp8266At
