import Esp8266At.App.CheckFirmware

/-!
# What `check_firmware` does

Reads, allocations, the erase and the write may all fail. Whether a call accepts the image is decided
by the image, the settings and the results of the `checkReads` operations before the erase
(`App.Checks`). A call that does not accept it leaves the flash alone.
-/

namespace Esp8266At

open ByteSpace NorFlash

namespace App

variable {md5 : List UInt8 → Digest} {n : UInt8}

/-- The application after `k` results of SPI operations that changed nothing, having printed up to
`o`. -/
def after (k : ℕ) (o : List Output) (s : App) : App := { s with spi := s.spi.skip k, out := o }

variable (s : App)

theorem after_zero : s.after 0 s.out = s := rfl

theorem after_debug (k : ℕ) (o : List Output) (t : String) : ∃ o', (s.after k o).debug t = s.after k o' := by
  unfold debug
  split_ifs
  · exact ⟨o ++ [.text t], rfl⟩
  · exact ⟨o, rfl⟩

theorem after_read (k : ℕ) (o : List Output) (addr : UInt32) (len : ℕ) :
    (s.after k o).spiFlashRead addr len =
      (if s.spi.results k then some (slice s.spi.flash addr len) else none, s.after (k + 1) o) := by
  rw [spiFlashRead, Device.read]
  simp only [after, Device.skip_results, Device.skip_flash, Nat.zero_add, Device.skip_skip]

/-- `s` with another heap and another `boot_info`. -/
def withBoot (heap : ℕ → Bool) (bi : Option BootInfo) (s : App) : App := { s with heap := heap, bootInfo := bi }

/-- The heap after one allocation. -/
def heapTail (s : App) : ℕ → Bool := fun j => s.heap (j + 1)

theorem readBootInfo_after (k : ℕ) (o : List Output) : (s.after k o).readBootInfo =
    if s.heap 0 = true then
      if s.spi.results k then
        (true, (s.withBoot s.heapTail (some (bootInfoAt s.spi.flash))).after (k + 1) o)
      else (false, (s.withBoot s.heapTail none).after (k + 1) o)
    else (false, (s.withBoot s.heapTail none).after k o) := by
  have hread := after_read { s with heap := s.heapTail } k o BOOT_PARAM_ADDR BootInfo.size
  rw [readBootInfo, zalloc, show (s.after k o).heap 0 = s.heap 0 from rfl]
  cases hheap : s.heap 0 with
  | false => rfl
  | true =>
    simp only [if_true]
    rw [show { s.after k o with heap := fun j => (s.after k o).heap (j + 1) } =
      after k o { s with heap := s.heapTail } from rfl, hread]
    cases hres : s.spi.results k <;> rfl

/-! ### The loops -/

variable {s}

theorem sumSection_after {fuel : ℕ} (flash_addr remaining : UInt32) (checksum : UInt8) (k : ℕ)
    (o : List Output) (hfuel : remaining.toNat ≤ fuel) :
    (s.spi.OkFrom k (pieces remaining.toNat) →
      sumSection fuel flash_addr remaining checksum (s.after k o) =
        (.ok (flash_addr + remaining, xorSum checksum (slice s.spi.flash flash_addr remaining.toNat)),
          s.after (k + pieces remaining.toNat) o)) ∧
    (¬s.spi.OkFrom k (pieces remaining.toNat) → ∃ a k',
      sumSection fuel flash_addr remaining checksum (s.after k o) = (.error a, s.after k' o)) := by
  induction fuel generalizing flash_addr remaining checksum k with
  | zero =>
    obtain rfl : remaining = 0 := UInt32.toNat_inj.mp (Nat.le_zero.mp hfuel)
    refine ⟨fun _ => by simp [sumSection, xorSum, pieces_zero], fun h => absurd ?_ h⟩
    exact fun j hj => absurd hj (by simp [pieces_zero])
  | succ fuel ih =>
    rw [sumSection]
    rcases Nat.eq_zero_or_pos remaining.toNat with hzero | hpos
    · obtain rfl : remaining = 0 := UInt32.toNat_inj.mp hzero
      refine ⟨fun _ => by simp [xorSum, pieces_zero], fun h => absurd ?_ h⟩
      exact fun j hj => absurd hj (by simp [pieces_zero])
    · have hgt : remaining > 0 := UInt32.lt_iff_toNat_lt.mpr hpos
      have hpiece : (if remaining < 256 then remaining else 256) = piece 256 remaining := rfl
      have hless := sub_piece_toNat 256 remaining
      have h256 : (256 : UInt32).toNat = 256 := rfl
      have hslice := slice_piece s.spi.flash flash_addr 256 remaining
      have haddr : flash_addr + piece 256 remaining + (remaining - piece 256 remaining) =
          flash_addr + remaining := by grind
      simp only [if_pos hgt, hpiece, after_read]
      rw [pieces_piece hpos, Device.okFrom_add, Device.okFrom_one]
      by_cases hres : s.spi.results k = true
      · simp only [hres, if_true, true_and]
        have ih' := ih (flash_addr + piece 256 remaining) (remaining - piece 256 remaining)
          (xorSum checksum (slice s.spi.flash flash_addr (piece 256 remaining).toNat)) (k + 1) (by omega)
        rw [← xorSum_append, ← hslice, haddr, Nat.add_assoc] at ih'
        exact ih'
      · rw [if_neg hres]
        exact ⟨fun h => absurd h.1 hres, fun _ => ⟨_, _, rfl⟩⟩

theorem hashFirmware_after {fuel : ℕ} (flash_addr remaining total : UInt32) (context : List UInt8) (k : ℕ)
    (o : List Output) (hfuel : remaining.toNat ≤ fuel) :
    (s.spi.OkFrom k (pieces remaining.toNat) →
      hashFirmware fuel flash_addr remaining context total (s.after k o) =
        (.ok (context ++ slice s.spi.flash flash_addr remaining.toNat, total + remaining),
          s.after (k + pieces remaining.toNat) o)) ∧
    (¬s.spi.OkFrom k (pieces remaining.toNat) → ∃ a k',
      hashFirmware fuel flash_addr remaining context total (s.after k o) = (.error a, s.after k' o)) := by
  induction fuel generalizing flash_addr remaining total context k with
  | zero =>
    obtain rfl : remaining = 0 := UInt32.toNat_inj.mp (Nat.le_zero.mp hfuel)
    refine ⟨fun _ => by simp [hashFirmware, pieces_zero], fun h => absurd ?_ h⟩
    exact fun j hj => absurd hj (by simp [pieces_zero])
  | succ fuel ih =>
    rw [hashFirmware]
    rcases Nat.eq_zero_or_pos remaining.toNat with hzero | hpos
    · obtain rfl : remaining = 0 := UInt32.toNat_inj.mp hzero
      refine ⟨fun _ => by simp [pieces_zero], fun h => absurd ?_ h⟩
      exact fun j hj => absurd hj (by simp [pieces_zero])
    · have hne : remaining ≠ 0 := fun h0 => by simp [h0] at hpos
      have hpiece : (if remaining ≥ 256 then 256 else remaining) = piece 256 remaining := by
        unfold piece
        by_cases hlt : remaining < 256
        · rw [if_pos hlt, if_neg (by simpa using hlt)]
        · rw [if_neg hlt, if_pos (by simpa using hlt)]
      have hless := sub_piece_toNat 256 remaining
      have h256 : (256 : UInt32).toNat = 256 := rfl
      have hslice := slice_piece s.spi.flash flash_addr 256 remaining
      have htotal : total + piece 256 remaining + (remaining - piece 256 remaining) =
          total + remaining := by grind
      simp only [if_pos hne, hpiece, after_read]
      rw [pieces_piece hpos, Device.okFrom_add, Device.okFrom_one]
      by_cases hres : s.spi.results k = true
      · simp only [hres, if_true, true_and]
        have ih' := ih (flash_addr + piece 256 remaining) (remaining - piece 256 remaining)
          (total + piece 256 remaining)
          (context ++ slice s.spi.flash flash_addr (piece 256 remaining).toNat) (k + 1) (by omega)
        rw [List.append_assoc, ← hslice, htotal, Nat.add_assoc] at ih'
        exact ih'
      · rw [if_neg hres]
        exact ⟨fun h => absurd h.1 hres, fun _ => ⟨_, _, rfl⟩⟩

/-- The number of reads that `n` sections take. -/
def sectionReads (f : Space) : ℕ → UInt32 → ℕ
  | 0, _ => 0
  | n + 1, a => 1 + (pieces (Image.sectionAt f a).length.toNat +
      sectionReads f n (a + 8 + (Image.sectionAt f a).length))

theorem sumSections_after (count : ℕ) (flash_addr : UInt32) (checksum : UInt8) (k : ℕ) (o : List Output) :
    (s.spi.OkFrom k (sectionReads s.spi.flash count flash_addr) → ∃ o',
      sumSections count flash_addr checksum (s.after k o) =
        (.ok (Image.sectionsEnd s.spi.flash count flash_addr,
          Image.sectionsXor s.spi.flash count flash_addr checksum),
          s.after (k + sectionReads s.spi.flash count flash_addr) o')) ∧
    (¬s.spi.OkFrom k (sectionReads s.spi.flash count flash_addr) → ∃ a k' o',
      sumSections count flash_addr checksum (s.after k o) = (.error a, s.after k' o')) := by
  induction count generalizing flash_addr checksum k o with
  | zero => exact ⟨fun _ => ⟨o, rfl⟩, fun h => absurd (fun j hj => absurd hj (Nat.not_lt_zero j)) h⟩
  | succ count ih =>
    obtain ⟨o', ho'⟩ := s.after_debug k o "."
    rw [sumSections]
    simp only [ho', after_read, sectionReads, Device.okFrom_add, Device.okFrom_one]
    by_cases hres : s.spi.results k = true
    · simp only [hres, if_true, true_and, Image.section_ofBytes_slice]
      obtain ⟨hgood, hbad⟩ := sumSection_after (s := s) (flash_addr + 8)
        (Image.sectionAt s.spi.flash flash_addr).length checksum (k + 1) o' le_rfl
      by_cases hsec : s.spi.OkFrom (k + 1) (pieces (Image.sectionAt s.spi.flash flash_addr).length.toNat)
      · simp only [hgood hsec, hsec, true_and]
        have ih' := ih (flash_addr + 8 + (Image.sectionAt s.spi.flash flash_addr).length)
          (xorSum checksum (slice s.spi.flash (flash_addr + 8)
            (Image.sectionAt s.spi.flash flash_addr).length.toNat))
          (k + 1 + pieces (Image.sectionAt s.spi.flash flash_addr).length.toNat) o'
        simp only [Nat.add_assoc] at ih' ⊢
        exact ih'
      · obtain ⟨a, k', heq⟩ := hbad hsec
        simp only [heq]
        exact ⟨fun h => absurd h.1 hsec, fun _ => ⟨a, k', o', rfl⟩⟩
    · rw [if_neg hres]
      exact ⟨fun h => absurd h.1 hres, fun _ => ⟨_, _, _, rfl⟩⟩

/-! ### The check -/

/-- The number of reads before the boot-parameter sector is erased, for the image at `a`. -/
def checkReads (f : Space) (a : UInt32) : ℕ :=
  3 + sectionReads f (Image.header2 f a).count.toNat (Image.second f a + 8) + 2 +
    pieces (Image.length f a).toNat

/-- A downloaded digest, if there is one, is that of the image. -/
def Md5Ok (md5 : List UInt8 → Digest) (s : App) : Prop :=
  ¬(CString.strlen s.updateMd5 = 32 ∧
    s.updateMd5.take 32 ≠ digestText (md5 (Image.bytes s.spi.flash s.upgradeFlashAddr)))

/-- The image has the flash map and mode the update was requested for. -/
def MapExpected (s : App) : Prop := Image.mapMode s.spi.flash s.upgradeFlashAddr = s.upgradeFlashMap

/-- The check gets to the erase, given that a wrong flash map does not end it. -/
def ReachesSave (md5 : List UInt8 → Digest) (s : App) : Prop :=
  Image.HeadersOk s.spi.flash s.upgradeFlashAddr ∧ Image.SumOk s.spi.flash s.upgradeFlashAddr ∧
    s.heap 0 = true ∧ s.Md5Ok md5 ∧ s.spi.OkFrom 0 (checkReads s.spi.flash s.upgradeFlashAddr)

/-- The check gets to the erase. -/
def Checks (md5 : List UInt8 → Digest) (s : App) : Prop :=
  (s.MapExpected ∨ s.upgradeDebug = false) ∧ s.ReachesSave md5

/-- The boot configuration `check_firmware` writes. -/
def newRecord (md5 : List UInt8 → Digest) (n : UInt8) (s : App) : BootInfo :=
  ((({ bootInfoAt s.spi.flash with
    bootAddr := s.upgradeFlashAddr, bootPart := BOOT_FW_MAGIC ||| n.toUInt32 }.setPartLength n
      (Image.length s.spi.flash s.upgradeFlashAddr)).setPartType n
      (Image.mapMode s.spi.flash s.upgradeFlashAddr))).setPartMd5 n
      (md5 (Image.bytes s.spi.flash s.upgradeFlashAddr))

/-- The application after the flash operations `ops` of a check that used the indices `idx`: only
the output, the heap and `boot_info` are otherwise different. -/
def Checked (s : App) (ops : List Op) (idx : List UInt32) (t : App) : Prop :=
  ∃ d heap out bi, t = { s with spi := d, heap := heap, out := out, bootInfo := bi,
                                indices := s.indices ++ idx } ∧
    d.base = s.spi.base ∧ d.log = s.spi.log ++ ops

theorem Checked.flash {ops : List Op} {idx : List UInt32} {t : App} (h : s.Checked ops idx t) :
    t.spi.flash = applyAll SECTOR_SIZE ops s.spi.flash := by
  obtain ⟨d, heap, out, bi, rfl, hbase, hlog⟩ := h
  show applyAll SECTOR_SIZE d.log d.base = _
  rw [hbase, hlog, applyAll_append]
  rfl

theorem Checked.log {ops : List Op} {idx : List UInt32} {t : App} (h : s.Checked ops idx t) :
    t.spi.log = s.spi.log ++ ops := by
  obtain ⟨d, heap, out, bi, rfl, -, hlog⟩ := h
  exact hlog

theorem checked_of_after (k : ℕ) (o : List Output) : s.Checked [] [] (s.after k o) :=
  ⟨s.spi.skip k, s.heap, o, s.bootInfo, by simp [after], rfl, (List.append_nil _).symm⟩

theorem Checked.of_withBoot {heap : ℕ → Bool} {bi : Option BootInfo} {ops : List Op} {idx : List UInt32}
    {t : App} (h : (s.withBoot heap bi).Checked ops idx t) : s.Checked ops idx t := h

theorem Checked.print {ops : List Op} {idx : List UInt32} {t : App} (h : s.Checked ops idx t)
    (m : String) : s.Checked ops idx (t.print m) := by
  obtain ⟨d, heap, out, bi, rfl, hd⟩ := h
  exact ⟨d, heap, _, bi, rfl, hd⟩

theorem Checked.debug {ops : List Op} {idx : List UInt32} {t : App} (h : s.Checked ops idx t)
    (m : String) : s.Checked ops idx (t.debug m) := by
  unfold App.debug
  split_ifs
  · exact h.print m
  · exact h

theorem Checked.freeBootInfo {ops : List Op} {idx : List UInt32} {t : App} (h : s.Checked ops idx t) :
    s.Checked ops idx t.freeBootInfo := by
  obtain ⟨d, heap, out, bi, rfl, hd⟩ := h
  exact ⟨d, heap, out, none, rfl, hd⟩

theorem Checked.spiError {ops : List Op} {idx : List UInt32} {t : App} (h : s.Checked ops idx t)
    (a : UInt32) : ∃ u, App.spiError a t = (0, u) ∧ s.Checked ops idx u :=
  ⟨_, rfl, h.freeBootInfo.debug _⟩

/-- The last part of `check_firmware`: the results of the erase and of the write decide. -/
theorem saveFirmware_after (k : ℕ) (o : List Output) (heap : ℕ → Bool) (b : BootInfo) (header : Header)
    (total : UInt32) (digest : Digest) (r : BootInfo)
    (hrec : r = (({ b with
      bootAddr := s.upgradeFlashAddr, bootPart := BOOT_FW_MAGIC ||| n.toUInt32 }.setPartLength n
        total).setPartType n ((header.flags2 &&& 0xF0) ||| (header.flags1 &&& 0x0F))).setPartMd5 n digest) :
    ∃ t, saveFirmware s.upgradeFlashAddr n header total digest
        { s.after k o with heap := heap, bootInfo := some b } =
          (if s.spi.results k ∧ s.spi.results (k + 1) then header.entry else 0, t) ∧
      s.Checked (if s.spi.results k then (if s.spi.results (k + 1) then saveOps r
        else [.erase (BOOT_PARAM_ADDR.toNat / SECTOR_SIZE)]) else [])
        (List.replicate 3 n.toUInt32) t := by
  have hsector : (BOOT_PARAM_ADDR / UInt32.ofNat SECTOR_SIZE).toUInt16.toNat =
      BOOT_PARAM_ADDR.toNat / SECTOR_SIZE := rfl
  simp only [saveFirmware, ← hrec, spiFlashEraseSector, hsector, Device.perform, after,
    Device.skip_results, Nat.zero_add]
  by_cases herase : s.spi.results k = true
  · simp only [herase, if_true, true_and, spiFlashWrite, Device.perform, Device.skip_results,
      Nat.add_comm 1 k]
    by_cases hwrite : s.spi.results (k + 1) = true
    · simp only [hwrite, if_true]
      exact ⟨_, rfl, _, heap, o, none, rfl, rfl, by simp [saveOps]⟩
    · simp only [hwrite, Bool.false_eq_true, if_false]
      refine Checked.spiError ?_ _
      exact ⟨_, heap, o, some r, rfl, rfl, rfl⟩
  · simp only [herase, Bool.false_eq_true, if_false, false_and]
    refine Checked.spiError ?_ _
    exact ⟨_, heap, o, some r, rfl, rfl, (List.append_nil _).symm⟩

variable (md5) in
/-- A call of `check_firmware`, whatever fails: the image is refused without a change of the flash, or
the boot-parameter sector is erased and written as far as that succeeds. -/
theorem checkFirmware_spec (s : App) (n : UInt8) :
    (¬s.Checks md5 → ∃ t, checkFirmware md5 n s = (0, t) ∧ s.Checked [] [] t) ∧
    (s.Checks md5 → ∃ t, checkFirmware md5 n s =
        (if s.spi.results (checkReads s.spi.flash s.upgradeFlashAddr) ∧
            s.spi.results (checkReads s.spi.flash s.upgradeFlashAddr + 1) then
          Image.entry s.spi.flash s.upgradeFlashAddr else 0, t) ∧
      s.Checked (if s.spi.results (checkReads s.spi.flash s.upgradeFlashAddr) then
          (if s.spi.results (checkReads s.spi.flash s.upgradeFlashAddr + 1) then saveOps (s.newRecord md5 n)
          else [.erase (BOOT_PARAM_ADDR.toNat / SECTOR_SIZE)])
        else []) (List.replicate 3 n.toUInt32) t) := by
  set f := s.spi.flash with hf
  set a := s.upgradeFlashAddr with ha
  have hreads : checkReads f a = 1 + (1 + (1 + (sectionReads f (Image.header2 f a).count.toNat
      (Image.second f a + 8) + (1 + (1 + pieces (Image.length f a).toNat))))) := by
    rw [checkReads]
    omega
  have hok : s.spi.OkFrom 0 (checkReads f a) ↔ s.spi.results 0 = true ∧ s.spi.results 1 = true ∧
      s.spi.results 2 = true ∧
      s.spi.OkFrom 3 (sectionReads f (Image.header2 f a).count.toNat (Image.second f a + 8)) ∧
      s.spi.results (3 + sectionReads f (Image.header2 f a).count.toNat (Image.second f a + 8)) = true ∧
      s.spi.results (3 + sectionReads f (Image.header2 f a).count.toNat (Image.second f a + 8) + 1) = true ∧
      s.spi.OkFrom (3 + sectionReads f (Image.header2 f a).count.toNat (Image.second f a + 8) + 1 + 1)
        (pieces (Image.length f a).toNat) := by
    rw [hreads]
    simp only [Device.okFrom_add, Device.okFrom_one, Nat.zero_add]
  generalize hr : checkFirmware md5 n s = r
  -- every early exit is a rejection
  have reject : ∀ {P : Prop}, ¬s.Checks md5 → (∃ t, r = (0, t) ∧ s.Checked [] [] t) →
      (¬s.Checks md5 → ∃ t, r = (0, t) ∧ s.Checked [] [] t) ∧ (s.Checks md5 → P) :=
    fun hno h => ⟨fun _ => h, fun hyes => absurd hyes hno⟩
  have hfirst := s.after_read 0 s.out a 8
  rw [after_zero, Nat.zero_add, ← hf] at hfirst
  rw [checkFirmware, ← ha] at hr
  simp only [hfirst] at hr
  by_cases h0 : s.spi.results 0 = true
  swap
  · simp only [h0, Bool.false_eq_true, if_false] at hr
    subst hr
    exact reject (fun hc => h0 (hok.mp hc.2.2.2.2.2).1) ((checked_of_after 1 s.out).spiError a)
  simp only [h0, if_true, Image.header_ofBytes_slice] at hr
  by_cases hhead : (Image.headerAt f a).magic ≠ HEADER_MAGIC ∨ (Image.headerAt f a).count = 0
  · simp only [hhead, if_true] at hr
    subst hr
    exact reject (fun hc => hhead.elim (fun h => h hc.2.1.1.1) hc.2.1.1.2)
      ⟨_, rfl, (checked_of_after 1 s.out).debug _⟩
  obtain ⟨o1, ho1⟩ := s.after_debug 1 s.out "  Header ok.\r\n"
  simp only [hhead, if_false, ho1, after_read, ← hf, Nat.reduceAdd] at hr
  by_cases h1 : s.spi.results 1 = true
  swap
  · simp only [h1, Bool.false_eq_true, if_false] at hr
    subst hr
    exact reject (fun hc => h1 (hok.mp hc.2.2.2.2.2).2.1) ((checked_of_after 2 o1).spiError _)
  simp only [h1, if_true, Image.section_ofBytes_slice, Image.second_eq, after_read, ← hf,
    Nat.reduceAdd] at hr
  by_cases h2 : s.spi.results 2 = true
  swap
  · simp only [h2, Bool.false_eq_true, if_false] at hr
    subst hr
    exact reject (fun hc => h2 (hok.mp hc.2.2.2.2.2).2.2.1) ((checked_of_after 3 o1).spiError _)
  simp only [h2, if_true, Image.header_ofBytes_slice, Image.headerAt_second] at hr
  by_cases hhead2 : (Image.header2 f a).magic ≠ SECTION_MAGIC ∨ (Image.header2 f a).count = 0
  · simp only [hhead2, if_true] at hr
    subst hr
    exact reject (fun hc => hhead2.elim (fun h => h hc.2.1.2.1) hc.2.1.2.2)
      ⟨_, rfl, (checked_of_after 3 o1).debug _⟩
  have hheaders : Image.HeadersOk f a :=
    ⟨⟨not_not.mp (not_or.mp hhead).1, (not_or.mp hhead).2⟩,
      ⟨not_not.mp (not_or.mp hhead2).1, (not_or.mp hhead2).2⟩⟩
  simp only [hhead2, if_false] at hr
  by_cases hmap : (Image.header2 f a).flags2 &&& 0xF0 ||| (Image.header2 f a).flags1 &&& 0x0F ≠ s.upgradeFlashMap ∧
      s.upgradeDebug = true
  · have hmap' : (Image.header2 f a).flags2 &&& 0xF0 ||| (Image.header2 f a).flags1 &&& 0x0F ≠
        (s.after 3 o1).upgradeFlashMap ∧ (s.after 3 o1).upgradeDebug = true := hmap
    simp only [hmap'.1, hmap'.2, ne_eq, not_false_eq_true, and_self, if_true] at hr
    subst hr
    refine reject (fun hc => hc.1.elim (fun h => hmap.1 h) fun h => ?_) ?_
    · rw [hmap.2] at h
      cases h
    · exact ⟨_, rfl, (checked_of_after 3 o1).print _⟩
  have hmap' : ¬((Image.header2 f a).flags2 &&& 0xF0 ||| (Image.header2 f a).flags1 &&& 0x0F ≠
      (s.after 3 o1).upgradeFlashMap ∧ (s.after 3 o1).upgradeDebug = true) := hmap
  have hexpected : s.MapExpected ∨ s.upgradeDebug = false := by
    rcases not_and_or.mp hmap with h | h
    · exact Or.inl (not_not.mp h)
    · exact Or.inr (by simpa using h)
  obtain ⟨o2, ho2⟩ := s.after_debug 3 o1 "  Check all sections "
  obtain ⟨hgood, hbad⟩ := sumSections_after (s := s) (Image.header2 f a).count.toNat
    (Image.second f a + 8) CHECKSUM_INIT 3 o2
  simp only [hmap', if_false, ho2] at hr
  rw [← hf] at hgood hbad
  by_cases h3 : s.spi.OkFrom 3 (sectionReads f (Image.header2 f a).count.toNat (Image.second f a + 8))
  swap
  · obtain ⟨b, k', o', heq⟩ := hbad h3
    simp only [heq] at hr
    subst hr
    exact reject (fun hc => h3 (hok.mp hc.2.2.2.2.2).2.2.2.1) ((checked_of_after k' o').spiError _)
  obtain ⟨o3, heq⟩ := hgood h3
  set k := 3 + sectionReads f (Image.header2 f a).count.toNat (Image.second f a + 8)
  obtain ⟨o4, ho4⟩ := s.after_debug k o3 "\r\n"
  have htail : Image.sectionsEnd f (Image.header2 f a).count.toNat (Image.second f a + 8) = Image.tail f a := rfl
  simp only [heq, ho4, htail, Image.checkAddr_eq, after_read, ← hf] at hr
  by_cases h4 : s.spi.results k = true
  swap
  · simp only [h4, Bool.false_eq_true, if_false] at hr
    subst hr
    exact reject (fun hc => h4 (hok.mp hc.2.2.2.2.2).2.2.2.2.1) ((checked_of_after (k + 1) o4).spiError _)
  simp only [h4, if_true] at hr
  by_cases hsum : (slice f (Image.checkAddr f a) 4).getD 3 0 ≠
      Image.sectionsXor f (Image.header2 f a).count.toNat (Image.second f a + 8) CHECKSUM_INIT
  · simp only [hsum, ne_eq, not_false_eq_true, if_true] at hr
    subst hr
    exact reject (fun hc => hsum hc.2.2.1) ⟨_, rfl, (checked_of_after (k + 1) o4).debug _⟩
  obtain ⟨o5, ho5⟩ := s.after_debug (k + 1) o4 "  OK, calculate MD5\r\n"
  rw [not_not] at hsum
  simp only [hsum, ne_eq, not_true_eq_false, if_false, ho5] at hr
  -- `boot_info` and the heap change from here on
  have hread := s.readBootInfo_after (k + 1) o5
  rw [← hf] at hread
  generalize s.heapTail = heap at hread
  by_cases h5 : s.heap 0 = true
  swap
  · simp only [hread, h5] at hr
    subst hr
    exact reject (fun hc => h5 hc.2.2.2.1) ⟨_, rfl, ((checked_of_after _ _).of_withBoot).debug _⟩
  by_cases h6 : s.spi.results (k + 1) = true
  swap
  · simp only [hread, h5, h6, if_true, Bool.false_eq_true, if_false] at hr
    subst hr
    exact reject (fun hc => h6 (hok.mp hc.2.2.2.2.2).2.2.2.2.2.1)
      ⟨_, rfl, ((checked_of_after _ _).of_withBoot).debug _⟩
  obtain ⟨hgood', hbad'⟩ := hashFirmware_after (s := s.withBoot heap (some (bootInfoAt f))) a
    (Image.length f a) 0 [] (k + 1 + 1) o5 le_rfl
  simp only [hread, h5, h6, if_true, Image.length_eq] at hr
  by_cases h7 : s.spi.OkFrom (k + 1 + 1) (pieces (Image.length f a).toNat)
  swap
  · obtain ⟨b, k', heq'⟩ := hbad' h7
    simp only [heq'] at hr
    subst hr
    exact reject (fun hc => h7 (hok.mp hc.2.2.2.2.2).2.2.2.2.2.2)
      (((checked_of_after _ _).of_withBoot).spiError _)
  have heq' := hgood' h7
  rw [List.nil_append, UInt32.zero_add] at heq'
  simp only [heq'] at hr
  have hcount : k + 1 + 1 + pieces (Image.length f a).toNat = checkReads f a := by
    rw [hreads]
    omega
  rw [hcount] at hr
  by_cases hmd5 : s.Md5Ok md5
  swap
  · have hmd5' := not_not.mp hmd5
    exact reject (fun hc => hmd5 hc.2.2.2.2.1)
      ⟨_, hr.symm.trans (if_pos hmd5'), ((checked_of_after _ _).of_withBoot).freeBootInfo.debug _⟩
  have hchecks : s.Checks md5 := ⟨hexpected, hheaders, hsum, h5, hmd5, hok.mpr ⟨h0, h1, h2, h3, h4, h6, h7⟩⟩
  obtain ⟨t, hsave, ht⟩ := saveFirmware_after (s := s) (n := n) (checkReads f a) o5 heap
    (bootInfoAt f) (Image.header2 f a) (Image.length f a) (md5 (slice f a (Image.length f a).toNat))
    (s.newRecord md5 n) rfl
  exact ⟨fun hno => absurd hchecks hno, fun _ => ⟨t, (hr.symm.trans (if_neg hmd5)).trans hsave, ht⟩⟩

end App

end Esp8266At
