import Esp8266At.Bootloader.LoadSpec
import Esp8266At.Bootloader.Task

/-!
# The loops over the partitions

`check_load_binary` on partition `n`, in terms of what the flash holds there, and the two loops of
`bootloader_task` that call it: the search for another firmware, which only loads RAM, and the scan
after `boot_1st`, which also records images and goes on after one is selected.

A scan changes nothing in the flash but the boot-parameter sector. What it finds in a partition is
therefore what stood there before, provided that nothing it looks at there lies in that sector
(`Undisturbed`). Of a partition that holds no firmware it looks at the two headers at most.
-/

namespace Esp8266At.Bootloader

open ByteSpace NorFlash

/-- The flash map in the header of sector 0; `0xFF` without a header there. -/
def bootMapAt (f : Space) : UInt8 :=
  if (Image.headerAt f 0).magic = SECTION_MAGIC then (Image.headerAt f 0).flags2 >>> 4 else 0xFF

/-- The image in partition `n` passes the header, map and checksum checks. -/
def SoundAt (f : Space) (n : Part) : Prop := Image.Sound f (partAddr n) (bootMapAt f)

/-- The image in partition `n` gets as far as being copied to RAM. -/
def CopiedAt (f : Space) (n : Part) : Prop :=
  Image.HeadersOk f (partAddr n) ∧ Image.MapOk f (partAddr n) (bootMapAt f)

/-- The digest of the image in partition `n` is the recorded one. -/
def DigestAt (md5 : List UInt8 → Digest) (f : Space) (n : Part) : Prop :=
  md5 (Image.bytes f (partAddr n)) = (bootInfoAt f).partMd5 n

/-- Partition `n` holds an image that passes every check and has an entry point. -/
def Bootable (md5 : List UInt8 → Digest) (f : Space) (n : Part) : Prop :=
  SoundAt f n ∧ DigestAt md5 f n ∧ Image.entry f (partAddr n) ≠ 0

/-- The image in partition `n` does not reach into the boot-parameter sector. -/
def ClearOf (f : Space) (n : Part) : Prop := ∀ x ∈ Image.reads f (partAddr n), x ∉ bootSector

instance (f : Space) (n : Part) : Decidable (SoundAt f n) := inferInstanceAs (Decidable (Image.Sound ..))
instance (f : Space) (n : Part) : Decidable (CopiedAt f n) := inferInstanceAs (Decidable (_ ∧ _))
instance (md5 : List UInt8 → Digest) (f : Space) (n : Part) : Decidable (DigestAt md5 f n) :=
  inferInstanceAs (Decidable (_ = _))
instance (md5 : List UInt8 → Digest) (f : Space) (n : Part) : Decidable (Bootable md5 f n) :=
  inferInstanceAs (Decidable (_ ∧ _))

/-- Two flash contents that differ in the boot-parameter sector only. -/
def AgreeOff (f g : Space) : Prop := ∀ x ∉ bootSector, f x = g x

variable {md5 : List UInt8 → Digest} {f g : Space} {n m : Part}

theorem AgreeOff.refl (f : Space) : AgreeOff f f := fun _ _ => rfl

theorem AgreeOff.trans {f g h : Space} (h1 : AgreeOff f g) (h2 : AgreeOff g h) : AgreeOff f h :=
  fun x hx => (h1 x hx).trans (h2 x hx)

theorem agreeOff_save (b : BootInfo) (f : Space) : AgreeOff f (applyAll SECTOR_SIZE (saveOps b) f) :=
  fun _ hx => (save_of_not_mem b f hx).symm

theorem bootMapAt_congr (h : ∀ x ∈ span 0 8, f x = g x) : bootMapAt f = bootMapAt g := by
  rw [bootMapAt, bootMapAt, Image.headerAt_congr h]

theorem AgreeOff.bootMapAt (h : AgreeOff f g) : bootMapAt f = bootMapAt g := by
  refine bootMapAt_congr fun x hx => h x fun hboot => ?_
  have hlow := (mem_span_iff_of_le (by decide)).mp hx
  have hhigh := mem_bootSector.mp hboot
  have h0 : (0 : UInt32).toNat = 0 := rfl
  omega

theorem AgreeOff.same (h : AgreeOff f g) (hc : ClearOf f n) : Image.Same f g (partAddr n) :=
  Image.same_of_reads fun x hx => h x (hc x hx)

theorem AgreeOff.soundAt (h : AgreeOff f g) (hc : ClearOf f n) : SoundAt f n ↔ SoundAt g n := by
  rw [SoundAt, SoundAt, ← h.bootMapAt]
  exact (h.same hc).sound _

theorem AgreeOff.clearOf (h : AgreeOff f g) (hc : ClearOf f n) : ClearOf g n := by
  intro x hx
  rw [← (h.same hc).reads] at hx
  exact hc x hx

/-! ### What the bootloader looks at -/

/-- What decides about the image in partition `n` stands outside the boot-parameter sector. -/
structure Undisturbed (f : Space) (n : Part) : Prop where
  header : (Image.headerAt f (partAddr n)).magic = HEADER_MAGIC ∧ (Image.headerAt f (partAddr n)).count ≠ 0 →
    ∀ x ∈ span (Image.second f (partAddr n)) 8, x ∉ bootSector
  image : CopiedAt f n → ClearOf f n

/-- The addresses at which the bootloader looks at partition `n`: it goes on to the second header if it
accepts the first one, and to the sections if it accepts both and the flash map. -/
def looked (f : Space) (n : Part) : Set UInt32 :=
  span (partAddr n) 16 ∪
    {x | ((Image.headerAt f (partAddr n)).magic = HEADER_MAGIC ∧ (Image.headerAt f (partAddr n)).count ≠ 0) ∧
      x ∈ span (Image.second f (partAddr n)) 8} ∪
    {x | CopiedAt f n ∧ x ∈ Image.reads f (partAddr n)}

/-- Two flash contents in which the bootloader finds the same in partition `n`. -/
structure SameLook (f g : Space) (n : Part) : Prop where
  map : bootMapAt f = bootMapAt g
  image : ∀ x ∈ looked f n, f x = g x

theorem SoundAt.copied (h : SoundAt f n) : CopiedAt f n := ⟨h.1, h.2.1⟩

namespace SameLook

theorem refl (f : Space) (n : Part) : SameLook f f n := ⟨rfl, fun _ _ => rfl⟩

/-- The two headers in front are the same. -/
theorem first (h : SameLook f g n) : Image.headerAt f (partAddr n) = Image.headerAt g (partAddr n) ∧
    Image.second f (partAddr n) = Image.second g (partAddr n) := by
  have hfirst : ∀ x ∈ span (partAddr n) (8 + 8), f x = g x := fun x hx => h.image x (Or.inl (Or.inl hx))
  rw [span_add] at hfirst
  refine ⟨Image.headerAt_congr fun x hx => hfirst x (Or.inl hx), ?_⟩
  have hrom : Image.sectionAt f (partAddr n + 8) = Image.sectionAt g (partAddr n + 8) :=
    Image.sectionAt_congr fun x hx => hfirst x (Or.inr hx)
  rw [Image.second, Image.second, hrom]

/-- The image is copied to RAM from both contents or from none. -/
theorem copied (h : SameLook f g n) : CopiedAt f n ↔ CopiedAt g n := by
  obtain ⟨hheader, hsecond⟩ := h.first
  by_cases hok : (Image.headerAt f (partAddr n)).magic = HEADER_MAGIC ∧ (Image.headerAt f (partAddr n)).count ≠ 0
  · have hheader2 : Image.header2 f (partAddr n) = Image.header2 g (partAddr n) := by
      rw [Image.header2, Image.header2,
        Image.headerAt_congr fun x hx => h.image x (Or.inl (Or.inr ⟨hok, hx⟩)), hsecond]
    rw [CopiedAt, CopiedAt, Image.HeadersOk, Image.HeadersOk, Image.MapOk, Image.MapOk, Image.flashMap,
      Image.flashMap, hheader, hheader2, h.map]
  · refine ⟨fun hc => absurd hc.1.1 hok, fun hc => absurd ?_ hok⟩
    rw [hheader]
    exact hc.1.1

theorem same (h : SameLook f g n) (hc : CopiedAt f n) : Image.Same f g (partAddr n) :=
  Image.same_of_reads fun x hx => h.image x (Or.inr ⟨hc, hx⟩)

theorem looked (h : SameLook f g n) : looked f n = looked g n := by
  obtain ⟨hheader, hsecond⟩ := h.first
  unfold Bootloader.looked
  rw [hheader, hsecond]
  refine congrArg₂ _ rfl (Set.ext fun x => ?_)
  show CopiedAt f n ∧ x ∈ Image.reads f (partAddr n) ↔ CopiedAt g n ∧ x ∈ Image.reads g (partAddr n)
  rw [← h.copied]
  exact and_congr_right fun hc => by rw [(h.same hc).reads]

theorem trans {k : Space} (h1 : SameLook f g n) (h2 : SameLook g k n) : SameLook f k n :=
  ⟨h1.map.trans h2.map, fun x hx => (h1.image x hx).trans (h2.image x (h1.looked ▸ hx))⟩

theorem sound (h : SameLook f g n) : SoundAt f n ↔ SoundAt g n := by
  constructor
  · intro hs
    rw [SoundAt, ← h.map]
    exact ((h.same hs.copied).sound _).mp hs
  · intro hs
    rw [SoundAt, h.map]
    exact ((h.same (h.copied.mpr hs.copied)).sound _).mpr hs

end SameLook

theorem partAddr_span_not_boot {x : UInt32} (hx : x ∈ span (partAddr n) 16) : x ∉ bootSector := by
  intro hboot
  have hn : n.val < 8 := n.isLt
  have haddr := partAddr_toNat n
  have hin := (mem_span_iff_of_le (by omega)).mp hx
  have := mem_bootSector.mp hboot
  omega

theorem undisturbed_iff : Undisturbed f n ↔ ∀ x ∈ looked f n, x ∉ bootSector := by
  constructor
  · rintro hu x ((hx | ⟨hok, hx⟩) | ⟨hc, hx⟩)
    · exact partAddr_span_not_boot hx
    · exact hu.header hok x hx
    · exact hu.image hc x hx
  · exact fun h => ⟨fun hok x hx => h x (Or.inl (Or.inr ⟨hok, hx⟩)), fun hc x hx => h x (Or.inr ⟨hc, hx⟩)⟩

theorem clearOf_of_inside (size : ℕ) (h : Image.Inside f (partAddr n) size)
    (hfit : (partAddr n).toNat + size ≤ 0xFA000 ∨
      0xFB000 ≤ (partAddr n).toNat ∧ (partAddr n).toNat + size ≤ 2 ^ 32) : ClearOf f n := by
  intro x hx hboot
  have hin := (mem_span_iff_of_le (by omega)).mp (h hx)
  have := mem_bootSector.mp hboot
  omega

theorem ClearOf.undisturbed (h : ClearOf f n) : Undisturbed f n :=
  ⟨fun _ x hx => h x (Or.inl (Or.inl (Or.inr (span_mono _ (Nat.le_add_right 8 _) hx)))), fun _ => h⟩

/-- A partition without a first header, an erased one say, is undisturbed. -/
theorem undisturbed_of_magic (h : (Image.headerAt f (partAddr n)).magic ≠ HEADER_MAGIC) : Undisturbed f n :=
  ⟨fun hok => absurd hok.1 h, fun hc => absurd hc.1.1.1 h⟩

theorem AgreeOff.look (h : AgreeOff f g) (hu : Undisturbed f n) : SameLook f g n :=
  ⟨h.bootMapAt, fun x hx => h x (undisturbed_iff.mp hu x hx)⟩

theorem AgreeOff.undisturbed (h : AgreeOff f g) (hu : Undisturbed f n) : Undisturbed g n := by
  rw [undisturbed_iff, ← (h.look hu).looked]
  exact undisturbed_iff.mp hu

/-! ### The partitions gone through -/

theorem mem_scanOrder {boot_flash_map : UInt8} {n : Part} : n ∈ scanOrder boot_flash_map ↔
    (boot_flash_map = 2 → n.val < 2) ∧ (boot_flash_map = 3 ∨ boot_flash_map = 5 → n.val < 4) ∧
      (boot_flash_map > 4 → n.val % 2 = 0) := by
  -- the loop depends on the map only through these three tests
  by_cases h4 : boot_flash_map > 4 <;> by_cases h2 : boot_flash_map = 2 <;>
    by_cases h35 : boot_flash_map = 3 ∨ boot_flash_map = 5 <;>
    simp only [scanOrder, h4, h2, h35, if_true, if_false, true_and, false_and, true_imp_iff,
      false_imp_iff, not_false_eq_true, true_and, and_true] <;> revert n <;> decide

theorem scanOrder_sorted (boot_flash_map : UInt8) : (scanOrder boot_flash_map).Pairwise (· < ·) :=
  ((List.pairwise_lt_finRange _).sublist List.filter_sublist).sublist (List.takeWhile_sublist _)

/-! ### A call on a partition -/

namespace Boot

/-- The variables of the bootloader are what the flash says. -/
structure Ready (s : Boot) : Prop where
  ok : s.spi.AllOk
  info : s.bootInfo = bootInfoAt s.spi.flash
  map : s.bootFlashMap = bootMapAt s.spi.flash

/-- After the image in partition `n` has been checked without saving. -/
def checked (n : Part) (s : Boot) : Boot :=
  if CopiedAt s.spi.flash n then { s with ram := Image.load s.spi.flash (partAddr n) s.ram } else s

/-- After the image in partition `n` has been checked with saving. -/
def scanned (md5 : List UInt8 → Digest) (n : Part) (s : Boot) : Boot :=
  if SoundAt s.spi.flash n ∧ ¬DigestAt md5 s.spi.flash n then
    (s.checked n).record md5 (partAddr n) n
  else s.checked n

variable (s : Boot)

@[simp] theorem checked_spi : (s.checked n).spi = s.spi := by
  unfold checked
  split_ifs <;> rfl

@[simp] theorem checked_rtc : (s.checked n).rtc = s.rtc := by
  unfold checked
  split_ifs <;> rfl

@[simp] theorem checked_bootInfo : (s.checked n).bootInfo = s.bootInfo := by
  unfold checked
  split_ifs <;> rfl

@[simp] theorem checked_bootFlashMap : (s.checked n).bootFlashMap = s.bootFlashMap := by
  unfold checked
  split_ifs <;> rfl

theorem checked_ram : (s.checked n).ram =
    if CopiedAt s.spi.flash n then Image.load s.spi.flash (partAddr n) s.ram else s.ram := by
  unfold checked
  split_ifs <;> rfl

theorem Ready.of_eq {s s' : Boot} (h : s.Ready) (hspi : s'.spi = s.spi) (hinfo : s'.bootInfo = s.bootInfo)
    (hmap : s'.bootFlashMap = s.bootFlashMap) : s'.Ready :=
  ⟨hspi ▸ h.ok, by rw [hinfo, hspi, h.info], by rw [hmap, hspi, h.map]⟩

theorem Ready.checked {s : Boot} (h : s.Ready) : (s.checked n).Ready :=
  h.of_eq (by simp) (by simp) (by simp)

variable (a : UInt32)

theorem record_flash : (s.record md5 a n).spi.flash =
    applyAll SECTOR_SIZE (saveOps (s.record md5 a n).bootInfo) s.spi.flash :=
  Device.flash_append s.spi _

variable (md5) in
theorem record_agree : AgreeOff s.spi.flash (s.record md5 a n).spi.flash := by
  rw [record_flash]
  exact agreeOff_save _ _

theorem Ready.record {s : Boot} (h : s.Ready) : (s.record md5 a n).Ready where
  ok := h.ok
  info := by rw [record_flash, bootInfoAt_save]
  map := (show s.bootFlashMap = _ from h.map).trans (s.record_agree _ a).bootMapAt

@[simp] theorem record_rtc : (s.record md5 a n).rtc = s.rtc := rfl

@[simp] theorem record_ram : (s.record md5 a n).ram = s.ram := rfl

theorem record_partMd5 : (s.record md5 a n).bootInfo.partMd5 =
    Function.update (bootInfoAt s.spi.flash).partMd5 n (md5 (Image.bytes s.spi.flash a)) := rfl

@[simp] theorem scanned_rtc : (s.scanned md5 n).rtc = s.rtc := by
  unfold scanned
  split_ifs <;> simp

theorem Ready.scanned {s : Boot} (h : s.Ready) : (s.scanned md5 n).Ready := by
  unfold Boot.scanned
  split_ifs
  · exact h.checked.record _
  · exact h.checked

variable (md5) in
theorem scanned_agree : AgreeOff s.spi.flash (s.scanned md5 n).spi.flash := by
  unfold scanned
  split_ifs
  · simpa using (s.checked n).record_agree md5 (n := n) (partAddr n)
  · rw [checked_spi]
    exact AgreeOff.refl _

/-- A scan step leaves the digests of the other partitions alone. -/
theorem scanned_partMd5_ne {s : Boot} (h : s.Ready) (hne : m ≠ n) :
    (s.scanned md5 n).bootInfo.partMd5 m = s.bootInfo.partMd5 m := by
  unfold scanned
  split_ifs
  · rw [record_partMd5, Function.update_of_ne hne, checked_spi, h.info]
  · rw [checked_bootInfo]

/-- A scan step leaves a sound image with its own digest recorded. -/
theorem scanned_partMd5_self {s : Boot} (h : s.Ready) (hs : SoundAt s.spi.flash n) :
    (s.scanned md5 n).bootInfo.partMd5 n = md5 (Image.bytes s.spi.flash (partAddr n)) := by
  unfold scanned
  by_cases hd : DigestAt md5 s.spi.flash n
  · rw [if_neg fun hboth => hboth.2 hd, checked_bootInfo, h.info]
    exact hd.symm
  · rw [if_pos ⟨hs, hd⟩, record_partMd5, Function.update_self, checked_spi]

/-- A scan step records nothing unless the image is sound and its digest is another. -/
theorem scanned_eq_checked (h : ¬SoundAt s.spi.flash n ∨ DigestAt md5 s.spi.flash n) :
    s.scanned md5 n = s.checked n := by
  rw [scanned, if_neg]
  exact fun hboth => h.elim (fun hs => hs hboth.1) hboth.2

end Boot

variable {s : Boot}

/-- `check_load_binary` on partition `n`, in the terms of this module. -/
theorem checkLoadBinary_part (h : s.Ready) (save : Bool) :
    checkLoadBinary md5 (partAddr n) n save s =
      if ¬SoundAt s.spi.flash n then (0, s.checked n)
      else if DigestAt md5 s.spi.flash n then (Image.entry s.spi.flash (partAddr n), s.checked n)
      else if save then
        (Image.entry s.spi.flash (partAddr n), (s.checked n).record md5 (partAddr n) n)
      else (0, s.checked n) := by
  have hmap : Image.MapOk s.spi.flash (partAddr n) s.bootFlashMap ↔
      Image.MapOk s.spi.flash (partAddr n) (bootMapAt s.spi.flash) := by rw [h.map]
  have hdigest : md5 (Image.bytes s.spi.flash (partAddr n)) = s.bootInfo.partMd5 n ↔
      DigestAt md5 s.spi.flash n := by rw [h.info, DigestAt]
  rw [checkLoadBinary_eq h.ok]
  simp only [hmap, hdigest]
  by_cases h1 : CopiedAt s.spi.flash n
  · rw [if_neg (not_or.mpr ⟨not_not.mpr h1.1, not_not.mpr h1.2⟩), Boot.checked, if_pos h1]
    by_cases h2 : Image.SumOk s.spi.flash (partAddr n)
    · have hs : SoundAt s.spi.flash n := ⟨h1.1, h1.2, h2⟩
      rw [if_neg (not_not.mpr h2), if_neg (not_not.mpr hs)]
    · rw [if_pos h2, if_pos fun hs => h2 hs.2.2]
  · rw [if_pos (not_and_or.mp h1), if_pos fun hs => h1 ⟨hs.1, hs.2.1⟩, Boot.checked, if_neg h1]

variable (md5) in
/-- `check_load_binary` without saving. -/
theorem checkLoadBinary_check (h : s.Ready) : checkLoadBinary md5 (partAddr n) n false s =
    (if SoundAt s.spi.flash n ∧ DigestAt md5 s.spi.flash n then Image.entry s.spi.flash (partAddr n) else 0,
      s.checked n) := by
  rw [checkLoadBinary_part h]
  by_cases hs : SoundAt s.spi.flash n <;> by_cases hd : DigestAt md5 s.spi.flash n <;> simp [hs, hd]

/-- `check_load_binary` with saving. -/
theorem checkLoadBinary_save (h : s.Ready) : checkLoadBinary md5 (partAddr n) n true s =
    (if SoundAt s.spi.flash n then Image.entry s.spi.flash (partAddr n) else 0, s.scanned md5 n) := by
  rw [checkLoadBinary_part h, Boot.scanned]
  by_cases hs : SoundAt s.spi.flash n <;> by_cases hd : DigestAt md5 s.spi.flash n <;> simp [hs, hd]

/-! ### The search for another firmware -/

/-- Two states of a run that differ in RAM and `map` only. -/
structure Boot.OnlyRam (s s' : Boot) : Prop where
  spi : s'.spi = s.spi
  rtc : s'.rtc = s.rtc
  bootInfo : s'.bootInfo = s.bootInfo
  bootFlashMap : s'.bootFlashMap = s.bootFlashMap

theorem Boot.OnlyRam.refl (s : Boot) : s.OnlyRam s := ⟨rfl, rfl, rfl, rfl⟩

theorem Boot.OnlyRam.trans {s t u : Boot} (h1 : s.OnlyRam t) (h2 : t.OnlyRam u) : s.OnlyRam u :=
  ⟨h2.spi.trans h1.spi, h2.rtc.trans h1.rtc, h2.bootInfo.trans h1.bootInfo,
    h2.bootFlashMap.trans h1.bootFlashMap⟩

theorem Boot.checked_onlyRam (s : Boot) (n : Part) : s.OnlyRam (s.checked n) :=
  ⟨s.checked_spi, s.checked_rtc, s.checked_bootInfo, s.checked_bootFlashMap⟩

/-- `map = boot_info.part_type[app_n]`, once `n` is selected. -/
def Boot.select (n : Part) (s : Boot) : Boot := { s with map := s.bootInfo.partType n }

@[simp] theorem Boot.select_bootInfo (s : Boot) : (s.select n).bootInfo = s.bootInfo := rfl

theorem Boot.Ready.select (h : s.Ready) : (s.select n).Ready := h.of_eq rfl rfl rfl

variable (md5) in
/-- The search stops at the first other partition that is bootable; its image is then in RAM. -/
theorem tryOthers_cases (h : s.Ready) (app_n : Part) (ns : List Part) :
    (∃ n ∈ ns, n ≠ app_n ∧ Bootable md5 s.spi.flash n ∧ ∃ s',
      tryOthers md5 app_n ns s = (some (Image.entry s.spi.flash (partAddr n), n), s') ∧ s.OnlyRam s' ∧
        ∃ r, s'.ram = Image.load s.spi.flash (partAddr n) r) ∨
    ((∀ n ∈ ns, n ≠ app_n → ¬Bootable md5 s.spi.flash n) ∧ ∃ s',
      tryOthers md5 app_n ns s = (none, s') ∧ s.OnlyRam s') := by
  induction ns generalizing s with
  | nil => exact Or.inr ⟨by simp, s, rfl, .refl s⟩
  | cons n ns ih =>
    by_cases hne : n ≠ app_n
    · have hcheck := checkLoadBinary_check md5 (n := n) h
      by_cases hboot : Bootable md5 s.spi.flash n
      · left
        rw [if_pos ⟨hboot.1, hboot.2.1⟩] at hcheck
        refine ⟨n, by simp, hne, hboot, (s.checked n).select n, ?_, ?_, s.ram, ?_⟩
        · simp only [tryOthers, if_pos hne, hcheck, if_pos hboot.2.2]
          rfl
        · exact (s.checked_onlyRam n).trans ⟨rfl, rfl, rfl, rfl⟩
        · show (s.checked n).ram = _
          rw [Boot.checked_ram, if_pos ⟨hboot.1.1, hboot.1.2.1⟩]
      · have hzero : (if SoundAt s.spi.flash n ∧ DigestAt md5 s.spi.flash n then
            Image.entry s.spi.flash (partAddr n) else 0) = 0 := by
          split_ifs with hpass
          · exact not_not.mp fun hentry => hboot ⟨hpass.1, hpass.2, hentry⟩
          · rfl
        have hstep : tryOthers md5 app_n (n :: ns) s = tryOthers md5 app_n ns (s.checked n) := by
          rw [hzero] at hcheck
          simp only [tryOthers, if_pos hne, hcheck]
          simp
        have ih' := ih (h.checked (n := n))
        rw [hstep]
        simp only [Boot.checked_spi] at ih'
        rcases ih' with ⟨k, hk, hkn, hkb, s', heq, honly, hram⟩ | ⟨hnone, s', heq, honly⟩
        · exact Or.inl ⟨k, by simp [hk], hkn, hkb, s', heq, (s.checked_onlyRam n).trans honly, hram⟩
        · refine Or.inr ⟨fun k hk hkn => ?_, s', heq, (s.checked_onlyRam n).trans honly⟩
          rcases List.mem_cons.mp hk with rfl | hk
          · exact hboot
          · exact hnone k hk hkn
    · have hstep : tryOthers md5 app_n (n :: ns) s = tryOthers md5 app_n ns s := by
        simp only [tryOthers, if_neg hne]
      rw [hstep]
      rcases ih h with ⟨k, hk, hkn, hkb, s', heq, honly, hram⟩ | ⟨hnone, s', heq, honly⟩
      · exact Or.inl ⟨k, by simp [hk], hkn, hkb, s', heq, honly, hram⟩
      · refine Or.inr ⟨fun k hk hkn => ?_, s', heq, honly⟩
        rcases List.mem_cons.mp hk with rfl | hk
        · exact absurd hkn hne
        · exact hnone k hk hkn

/-! ### The scan -/

/-- The scan selects partition `n` when nothing is selected yet. -/
def Startable (f : Space) (n : Part) : Prop := SoundAt f n ∧ Image.entry f (partAddr n) ≠ 0

instance (f : Space) (n : Part) : Decidable (Startable f n) := inferInstanceAs (Decidable (_ ∧ _))

theorem Bootable.startable (h : Bootable md5 f n) : Startable f n := ⟨h.1, h.2.2⟩

theorem AgreeOff.startable (h : AgreeOff f g) (hc : ClearOf f n) : Startable f n ↔ Startable g n := by
  rw [Startable, Startable, h.soundAt hc, (h.same hc).entry]

theorem SameLook.startable (h : SameLook f g n) : Startable f n ↔ Startable g n := by
  constructor
  · exact fun hs => ⟨h.sound.mp hs.1, (h.same hs.1.copied).entry ▸ hs.2⟩
  · intro hs
    have hsound := h.sound.mpr hs.1
    exact ⟨hsound, (h.same hsound.copied).entry ▸ hs.2⟩

theorem scanAll_selected_cons (h : s.Ready) (n : Part) (ns : List Part) (x : UInt32 × Part) :
    scanAll md5 (n :: ns) (some x) s = scanAll md5 ns (some x) (s.scanned md5 n) := by
  simp only [scanAll, checkLoadBinary_save h]
  split_ifs <;> rfl

theorem scanAll_none_cons (h : s.Ready) (n : Part) (ns : List Part) :
    scanAll md5 (n :: ns) none s =
      if Startable s.spi.flash n then
        scanAll md5 ns (some (Image.entry s.spi.flash (partAddr n), n))
          ((s.scanned md5 n).select n)
      else scanAll md5 ns none (s.scanned md5 n) := by
  simp only [scanAll, checkLoadBinary_save h]
  by_cases hs : SoundAt s.spi.flash n <;>
    by_cases he : Image.entry s.spi.flash (partAddr n) ≠ 0 <;>
    simp [Startable, Boot.select, hs, he]

/-- What every scan step keeps, and no change of `map` breaks, holds after the scan. -/
theorem scanAll_preserves {P : Boot → Prop} {ns : List Part} (hready : ∀ s, P s → s.Ready)
    (hstep : ∀ n ∈ ns, ∀ s, P s → P (s.scanned md5 n)) (hmap : ∀ s map, P s → P { s with map := map })
    (selected : Option (UInt32 × Part)) (hs : P s) : P (scanAll md5 ns selected s).2 := by
  induction ns generalizing selected s with
  | nil => exact hs
  | cons n ns ih =>
    have hnext := hstep n (by simp) s hs
    have hrest := fun k hk => hstep k (List.mem_cons_of_mem n hk)
    cases selected with
    | some x =>
      rw [scanAll_selected_cons (hready s hs)]
      exact ih hrest _ hnext
    | none =>
      rw [scanAll_none_cons (hready s hs)]
      split_ifs
      · exact ih hrest _ (hmap _ _ hnext)
      · exact ih hrest _ hnext

variable (md5) in
theorem scanAll_append (h : s.Ready) (ns ks : List Part) (selected : Option (UInt32 × Part)) :
    scanAll md5 (ns ++ ks) selected s =
      scanAll md5 ks (scanAll md5 ns selected s).1 (scanAll md5 ns selected s).2 := by
  induction ns generalizing selected s with
  | nil => rfl
  | cons n ns ih =>
    rw [List.cons_append]
    cases selected with
    | some x =>
      rw [scanAll_selected_cons h, scanAll_selected_cons h, ih h.scanned]
    | none =>
      rw [scanAll_none_cons h, scanAll_none_cons h]
      split_ifs
      · exact ih h.scanned.select _
      · exact ih h.scanned _

/-- A selection stays. -/
theorem scanAll_selected (h : s.Ready) (ns : List Part) (x : UInt32 × Part) :
    (scanAll md5 ns (some x) s).1 = some x := by
  induction ns generalizing s with
  | nil => rfl
  | cons n ns ih => rw [scanAll_selected_cons h, ih h.scanned]

variable (md5) in
/-- A scan changes the boot-parameter sector only, and no RTC word. -/
theorem scanAll_frame (h : s.Ready) (ns : List Part) (selected : Option (UInt32 × Part)) :
    (scanAll md5 ns selected s).2.Ready ∧
      AgreeOff s.spi.flash (scanAll md5 ns selected s).2.spi.flash ∧
      (scanAll md5 ns selected s).2.rtc = s.rtc :=
  scanAll_preserves
    (P := fun t => t.Ready ∧ AgreeOff s.spi.flash t.spi.flash ∧ t.rtc = s.rtc)
    (fun _ ht => ht.1)
    (fun n _ t ht => ⟨ht.1.scanned, ht.2.1.trans (t.scanned_agree _ (n := n)), by simp [ht.2.2]⟩)
    (fun _ _ ht => ⟨ht.1.of_eq rfl rfl rfl, ht.2.1, ht.2.2⟩)
    selected ⟨h, .refl _, rfl⟩

variable (md5) in
/-- What the scan selects is an image that passes the checks at the time it is looked at. -/
theorem scanAll_some (h : s.Ready) {ns : List Part} {e : UInt32} {p : Part}
    (hsel : (scanAll md5 ns none s).1 = some (e, p)) :
    p ∈ ns ∧ ∃ g, AgreeOff s.spi.flash g ∧ Startable g p ∧ e = Image.entry g (partAddr p) := by
  induction ns generalizing s with
  | nil => simp [scanAll] at hsel
  | cons n ns ih =>
    rw [scanAll_none_cons h] at hsel
    split_ifs at hsel with hstart
    · rw [scanAll_selected h.scanned.select] at hsel
      obtain ⟨rfl, rfl⟩ := Prod.mk.inj (Option.some.inj hsel)
      exact ⟨by simp, s.spi.flash, .refl _, hstart, rfl⟩
    · obtain ⟨hp, g, hg, hgs, he⟩ := ih h.scanned hsel
      exact ⟨by simp [hp], g, (s.scanned_agree md5).trans hg, hgs, he⟩

variable (md5) in
/-- A scan that comes by a startable image selects one. -/
theorem scanAll_isSome (h : s.Ready) {ns : List Part} (hn : n ∈ ns) (hc : ClearOf s.spi.flash n)
    (hstart : Startable s.spi.flash n) : ∃ e p, (scanAll md5 ns none s).1 = some (e, p) := by
  induction ns generalizing s with
  | nil => simp at hn
  | cons k ns ih =>
    rw [scanAll_none_cons h]
    split_ifs with hk
    · exact ⟨_, _, scanAll_selected h.scanned.select _ _⟩
    · have hne : n ≠ k := fun heq => hk (heq ▸ hstart)
      have hagree := s.scanned_agree md5 (n := k)
      exact ih h.scanned ((List.mem_cons.mp hn).resolve_left hne) (hagree.clearOf hc)
        ((hagree.startable hc).mp hstart)

variable (md5) in
/-- The digest of a partition that is not scanned, or whose image is not sound, stays. -/
theorem scanAll_partMd5_keep (h : s.Ready) (ns : List Part)
    (hm : m ∉ ns ∨ Undisturbed s.spi.flash m ∧ ¬SoundAt s.spi.flash m)
    (selected : Option (UInt32 × Part)) :
    (scanAll md5 ns selected s).2.bootInfo.partMd5 m = s.bootInfo.partMd5 m := by
  refine (scanAll_preserves (P := fun t => t.Ready ∧ AgreeOff s.spi.flash t.spi.flash ∧
    t.bootInfo.partMd5 m = s.bootInfo.partMd5 m) (fun _ ht => ht.1) (fun n hn t ht => ?_)
    (fun _ _ ht => ⟨ht.1.of_eq rfl rfl rfl, ht.2.1, ht.2.2⟩) selected ⟨h, .refl _, rfl⟩).2.2
  refine ⟨ht.1.scanned, ht.2.1.trans (t.scanned_agree _), ?_⟩
  by_cases hmn : m = n
  · subst hmn
    obtain ⟨hu, hs⟩ := hm.resolve_left (not_not.mpr hn)
    rw [t.scanned_eq_checked (Or.inl (mt (ht.2.1.look hu).sound.mpr hs)), Boot.checked_bootInfo,
      ht.2.2]
  · rw [Boot.scanned_partMd5_ne ht.1 hmn, ht.2.2]

end Esp8266At.Bootloader
