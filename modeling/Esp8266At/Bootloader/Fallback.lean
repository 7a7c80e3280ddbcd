import Esp8266At.Bootloader.TaskSpec
import Esp8266At.Lib.Md5

/-!
# Falling back to another firmware

Which partitions a run may start, when it starts none, and what runs after one another make of a
configured firmware whose image no longer matches its recorded digest.

With the button pressed or at the maximum number of resets only partitions other than the configured
one are tried; that is the only way for a device with a bootable partition to stop at the blinking
LED. The scan, on the other hand, records the digest of every sound image it finds, so a corrupted
firmware is kept out only if the scan does not come by it or finds it unsound.
-/

namespace Esp8266At.Bootloader

open ByteSpace NorFlash

variable {md5 : List UInt8 → Digest} {f : Space} {s : Boot} {n : Part} {button : Bool}

/-- The run returns an entry point for partition `p`. -/
def Picks (md5 : List UInt8 → Digest) (button : Bool) (s : Boot) (p : Part) : Prop :=
  ∃ e s', bootloaderTask md5 button s = (.start e, s') ∧ s'.getRtcUserdata 1 = magicWord p

/-- The run starts partition `p`, whose image passed the checks when it was looked at. -/
def Starts (md5 : List UInt8 → Digest) (button : Bool) (s : Boot) (p : Part) : Prop :=
  ∃ e s', bootloaderTask md5 button s = (.start e, s') ∧ s'.getRtcUserdata 1 = magicWord p ∧
    ∃ g, AgreeOff s.spi.flash g ∧ Startable g p ∧ e = Image.entry g (partAddr p)

/-- Only the configured partition could be started, and it is not to be. -/
def Stuck (md5 : List UInt8 → Digest) (button : Bool) (s : Boot) : Prop :=
  Configured s.spi.flash ∧ ¬Served md5 s.spi.flash (s.getRtcUserdata 0) ∧ s.Forced button ∧
    ∀ k ∈ scanOrder (bootMapAt s.spi.flash), k ≠ configuredPart s.spi.flash → ¬Bootable md5 s.spi.flash k

theorem Starts.of_started {s' : Boot} (hb : Bootable md5 s.spi.flash n)
    (hrun : bootloaderTask md5 button s = (.start (Image.entry s.spi.flash (partAddr n)), s'))
    (hs : s'.Started s.spi.flash n) : Starts md5 button s n :=
  ⟨_, s', hrun, hs.running, s.spi.flash, .refl _, hb.startable, rfl⟩

/-- A scan that comes by a startable image starts a partition. -/
theorem starts_of_scan (h : s.spi.AllOk) (hscan : s.Scans md5 button)
    (hn : n ∈ scanOrder (bootMapAt s.spi.flash)) (hstart : Startable s.spi.flash n)
    (hclear : ClearOf s.spi.flash n) :
    ∃ p ∈ scanOrder (bootMapAt s.spi.flash), Starts md5 button s p := by
  obtain ⟨t, hready, hspi, -, htask⟩ := bootloaderTask_scan h hscan
  obtain ⟨e, p, hsel⟩ := scanAll_isSome md5 hready hn (hspi ▸ hclear) (hspi ▸ hstart)
  obtain ⟨hp, g, hg, hgs, he⟩ := scanAll_some md5 hready hsel
  rw [hspi] at hg
  rcases hres : scanAll md5 (scanOrder (bootMapAt s.spi.flash)) none t with ⟨sel, u⟩
  obtain rfl : sel = some (e, p) := by rw [← hsel, hres]
  rw [hres] at htask
  exact ⟨p, hp, e, _, htask, rfl, g, hg, hgs, he⟩

/-- A device with a bootable partition starts one, unless only the configured partition is bootable
and the button or the number of resets rules it out. -/
theorem starts_iff_not_stuck (h : s.spi.AllOk) (hn : n ∈ scanOrder (bootMapAt s.spi.flash))
    (hb : Bootable md5 s.spi.flash n) (hclear : s.Scans md5 button → ClearOf s.spi.flash n) :
    (∃ p, Starts md5 button s p) ↔ ¬Stuck md5 button s := by
  constructor
  · rintro ⟨p, e, s', hrun, -⟩ ⟨hc, hserved, hforced, hnone⟩
    rcases bootloaderTask_forced h hc hserved hforced with ⟨k, hk, hne, hkb, -⟩ | ⟨-, u, htask, -⟩
    · exact hnone k hk hne hkb
    · cases (Prod.mk.inj (hrun.symm.trans htask)).1
  · intro hstuck
    by_cases hscan : s.Scans md5 button
    · obtain ⟨p, -, hp⟩ := starts_of_scan h hscan hn hb.startable (hclear hscan)
      exact ⟨p, hp⟩
    obtain ⟨hc, hpath⟩ := not_or.mp hscan
    rw [not_not] at hc
    by_cases hserved : Served md5 s.spi.flash (s.getRtcUserdata 0)
    · obtain ⟨u, htask, hstarted, -⟩ := bootloaderTask_served button h hc hserved rfl
      exact ⟨_, .of_started hserved.2 htask hstarted⟩
    by_cases hforced : s.Forced button
    · rcases bootloaderTask_forced h hc hserved hforced with
        ⟨k, -, -, hkb, u, htask, hstarted, -⟩ | ⟨hnone, -⟩
      · exact ⟨k, .of_started hkb htask hstarted⟩
      · exact absurd ⟨hc, hserved, hforced, hnone⟩ hstuck
    · have hboot : Bootable md5 s.spi.flash (configuredPart s.spi.flash) :=
        not_not.mp fun hboot => hpath ⟨hserved, hforced, hboot⟩
      obtain ⟨u, htask, hstarted, -⟩ := bootloaderTask_configured h hc hserved hforced rfl hboot
      exact ⟨_, .of_started hboot htask hstarted⟩

/-- Partition 0 is the default and holds the only firmware. -/
def onlyDefault : Space := burn [(0, bootHeader 0 0x20), (partAddr 0, tinyImage 0x40100004 0 0x20 1),
  (BOOT_PARAM_ADDR, BootInfo.bytes
    { bootPart := magicWord 0
      bootAddr := partAddr 0
      partLength := fun _ => 52
      partMd5 := fun _ => Md5.digest (tinyImage 0x40100004 0 0x20 1)
      partType := fun _ => 0x20 })]

/-- Partition 2 as a header, and a ROM section so long that the second header is the one at
`0xFA200`, behind the boot configuration; the RAM section goes from there into the partition. -/
def wrappedHead : List UInt8 := [HEADER_MAGIC, 1, 0, 0x40] ++ bytes32 0x40100004 ++ bytes32 0 ++ bytes32 0xFFFF91F0

/-- The bytes the digest of that image covers. -/
def wrappedBytes : List UInt8 :=
  wrappedHead ++ List.replicate 31 0xFF ++ [xorSum CHECKSUM_INIT wrappedHead] ++ List.replicate 4 0xFF

/-- A flash with that image and, in partition 0, an image without an entry point. -/
def wrappedFlash : Space := burn [(0, bootHeader 0 0x40), (partAddr 0, tinyImage 0 0 0x40 1),
  (BOOT_PARAM_ADDR, BootInfo.bytes
    { bootPart := 0
      bootAddr := 0
      partLength := fun _ => 52
      partMd5 := fun _ => Md5.digest wrappedBytes
      partType := fun _ => 0x40 }),
  (0xFA200, [SECTION_MAGIC, 1, 0, 0x40] ++ bytes32 0x40100004 ++ bytes32 0x40108000 ++ bytes32 0x6E14),
  (partAddr 2, wrappedBytes)]

/-- Between the second header and the partition the flash is erased. -/
theorem wrappedFlash_erased (i : ℕ) (hi : i < 2 * 0x36F8) : wrappedFlash (0xFA210 + UInt32.ofNat i) = 0xFF := by
  have hbase : (0xFA210 : UInt32).toNat = 0xFA210 := rfl
  have hnat : (0xFA210 + UInt32.ofNat i).toNat = 0xFA210 + i := by
    rw [add_ofNat_toNat _ _ (by omega), hbase]
  have hout : ∀ (a : UInt32) (bs : List UInt8), a.toNat + bs.length ≤ 0xFA210 ∨ 0x101000 ≤ a.toNat →
      a.toNat + bs.length ≤ 2 ^ 32 → 0xFA210 + UInt32.ofNat i ∉ span a bs.length := by
    intro a bs hapart hfit hmem
    have := (mem_span_iff_of_le hfit).mp hmem
    omega
  simp only [wrappedFlash, burn, List.foldl_cons, List.foldl_nil]
  rw [store_of_not_mem (hout _ _ (by decide) (by decide)),
    store_of_not_mem (hout _ _ (by decide) (by decide)),
    store_of_not_mem (hout _ _ (by simp; decide) (by simp; decide)),
    store_of_not_mem (hout _ _ (by decide) (by decide)),
    store_of_not_mem (hout _ _ (by decide) (by decide))]

theorem wrappedFlash_sound : SoundAt wrappedFlash 2 := by
  refine ⟨by decide +kernel, by decide +kernel, ?_⟩
  have hcount : (Image.header2 wrappedFlash (partAddr 2)).count.toNat = 1 := by decide +kernel
  have hsecond : Image.second wrappedFlash (partAddr 2) + 8 = 0xFA208 := by decide +kernel
  have hlength : (Image.sectionAt wrappedFlash 0xFA208).length.toNat = 2 * 0x36F8 + 36 := by
    decide +kernel
  have hhead : slice wrappedFlash (0xFA208 + 8) (2 * 0x36F8) = List.replicate (2 * 0x36F8) 0xFF :=
    slice_eq_replicate wrappedFlash_erased
  rw [Image.SumOk, Image.sum, hcount, hsecond, Image.sectionsXor, Image.sectionsXor, hlength, slice_add,
    hhead, xorSum_append, xorSum_replicate_two]
  decide +kernel

/-- With the button pressed the bootable default is not started. -/
theorem onlyDefault_boot :
    (bootloaderTask Md5.digest true (.atReset onlyDefault fun _ => 0)).1 = .blinkLed ∧
      ((0 : Part) ∈ scanOrder (bootMapAt onlyDefault) ∧ Bootable Md5.digest onlyDefault 0) ∧
      ClearOf onlyDefault 0 := by
  refine ⟨by decide +kernel, by decide +kernel, ?_⟩
  refine clearOf_of_inside 52 (Image.inside_of_bounds ?_ ?_ ?_ ?_ ?_) ?_ <;> decide +kernel

/-- The bootable partition is not started. -/
theorem wrappedFlash_boot :
    (bootloaderTask Md5.digest false (.atReset wrappedFlash fun _ => 0)).1 = .blinkLed ∧
      ((2 : Part) ∈ scanOrder (bootMapAt wrappedFlash) ∧ ¬(Boot.atReset wrappedFlash fun _ => 0).Forced false) ∧
      Bootable Md5.digest wrappedFlash 2 :=
  ⟨by decide +kernel, by decide +kernel, wrappedFlash_sound, by decide +kernel, by decide +kernel⟩

theorem not_starts_of_blinks (h : (bootloaderTask md5 button s).1 = .blinkLed) :
    ¬∃ p, Starts md5 button s p := by
  rintro ⟨p, e, s', hrun, -⟩
  rw [hrun] at h
  cases h

theorem starts_iff_not_stuck_onlyDefault :
    (∃ p, Starts Md5.digest false (.atReset onlyDefault fun _ => 0) p) ↔
      ¬Stuck Md5.digest false (.atReset onlyDefault fun _ => 0) :=
  starts_iff_not_stuck (n := 0) (Boot.atReset_ok _ _) onlyDefault_boot.2.1.1 onlyDefault_boot.2.1.2
    fun _ => onlyDefault_boot.2.2

/-- A bootable partition alone is not enough: a device whose only bootable partition is the default
stops when the button is pressed, and the scan may record an image that has no entry point and
thereby destroy one that reaches into the boot-parameter sector. -/
theorem not_starts_of_bootable :
    ¬(∀ (s : Boot) (button : Bool) (n : Part), s.spi.AllOk → n ∈ scanOrder (bootMapAt s.spi.flash) →
      ClearOf s.spi.flash n → Bootable Md5.digest s.spi.flash n → ∃ p, Starts Md5.digest button s p) ∧
    ¬(∀ (s : Boot) (button : Bool) (n : Part), s.spi.AllOk → n ∈ scanOrder (bootMapAt s.spi.flash) →
      ¬s.Forced button → Bootable Md5.digest s.spi.flash n → ∃ p, Starts Md5.digest button s p) := by
  constructor
  · intro h
    obtain ⟨hblinks, ⟨hmem, hboot⟩, hclear⟩ := onlyDefault_boot
    exact not_starts_of_blinks hblinks (h _ true 0 (Boot.atReset_ok _ _) hmem hclear hboot)
  · intro h
    obtain ⟨hblinks, ⟨hmem, hforced⟩, hboot⟩ := wrappedFlash_boot
    exact not_starts_of_blinks hblinks (h _ false 2 (Boot.atReset_ok _ _) hmem hforced hboot)

/-! ### A corrupted default firmware -/

/-- What a boot finds of the default firmware `d` of flash content `f`: the same image and flash
map, and the digest that is recorded for it in `f`. -/
structure SameDefault (f : Space) (d : Part) (g : Space) : Prop where
  look : SameLook f g d
  digest : (bootInfoAt g).partMd5 d = (bootInfoAt f).partMd5 d

/-- A run of boots from flash content `f` on, without button and without boot request. Between two
boots the flash may change, but not at the addresses `kept`. -/
def BootRun (md5 : List UInt8 → Digest) (kept : Set UInt32) : Space → List Boot → Prop
  | _, [] => True
  | f, s :: ss => s.spi.AllOk ∧ s.getRtcUserdata 0 &&& BOOT_FW_MAGIC_MASK ≠ BOOT_FW_MAGIC ∧
      (∀ x ∈ kept, f x = s.spi.flash x) ∧ BootRun md5 kept (bootloaderTask md5 false s).2.spi.flash ss

variable {d : Part} {g : Space}

namespace SameDefault

theorem of_eq {g' : Space} (h : SameDefault f d g)
    (heq : ∀ x ∈ looked f d ∪ bootSector ∪ span 0 8, g x = g' x) : SameDefault f d g' where
  look := h.look.trans ⟨bootMapAt_congr fun x hx => heq x (Or.inr hx),
    fun x hx => heq x (Or.inl (Or.inl (h.look.looked ▸ hx)))⟩
  digest := by rw [← bootInfoAt_congr fun x hx => heq x (Or.inl (Or.inr hx)), h.digest]

theorem of_agree {g' : Space} (h : SameDefault f d g) (hu : Undisturbed g d) (hagree : AgreeOff g g')
    (hdigest : (bootInfoAt g').partMd5 d = (bootInfoAt g).partMd5 d) : SameDefault f d g' where
  look := h.look.trans (hagree.look hu)
  digest := hdigest.trans h.digest

theorem undisturbed (h : SameDefault f d g) (hu : Undisturbed f d) : Undisturbed g d := by
  rw [undisturbed_iff, ← h.look.looked]
  exact undisturbed_iff.mp hu

theorem digestAt (h : SameDefault f d g) (hs : SoundAt f d) : DigestAt md5 f d ↔ DigestAt md5 g d := by
  rw [DigestAt, DigestAt, h.digest, (h.look.same hs.copied).bytes]

theorem not_bootable (h : SameDefault f d g) (hd : SoundAt f d → ¬DigestAt md5 f d) : ¬Bootable md5 g d := by
  intro hb
  have hs := h.look.sound.mpr hb.1
  exact hd hs ((h.digestAt hs).mpr hb.2.1)

end SameDefault

variable (button) in
/-- One boot does not start a default firmware that no longer matches its digest, and leaves its
digest alone, if the scan does not come by it or finds it unsound. -/
theorem boot_keeps_default (h : SameDefault f d s.spi.flash) (hu : Undisturbed f d)
    (hd : SoundAt f d → ¬DigestAt md5 f d) (hout : d ∉ scanOrder (bootMapAt f) ∨ ¬SoundAt f d) (hok : s.spi.AllOk)
    (hreq : s.getRtcUserdata 0 &&& BOOT_FW_MAGIC_MASK ≠ BOOT_FW_MAGIC) :
    ¬Picks md5 button s d ∧ SameDefault f d (bootloaderTask md5 button s).2.spi.flash := by
  have hnot := h.not_bootable hd
  have hserved : ¬Served md5 s.spi.flash (s.getRtcUserdata 0) := fun hs => hreq hs.1.1
  -- a boot that starts another partition from an unchanged flash
  have hother : ∀ {k : Part} {e : UInt32} {u : Boot}, Bootable md5 s.spi.flash k →
      bootloaderTask md5 button s = (.start e, u) → u.Started s.spi.flash k → u.spi = s.spi →
      ¬Picks md5 button s d ∧ SameDefault f d (bootloaderTask md5 button s).2.spi.flash := by
    intro k e u hk htask hstarted hspi
    refine ⟨?_, by rw [htask, hspi]; exact h⟩
    rintro ⟨e', u', htask', hrun⟩
    obtain ⟨-, rfl⟩ := Prod.mk.inj (htask'.symm.trans htask)
    obtain rfl : d = k := magicWord_injective (hrun.symm.trans hstarted.running)
    exact hnot hk
  by_cases hscan : s.Scans md5 button
  · obtain ⟨t, hready, hspi, -, htask⟩ := bootloaderTask_scan hok hscan
    rw [h.look.map] at hout
    have hut : Undisturbed t.spi.flash d := hspi ▸ h.undisturbed hu
    have hkeep := scanAll_partMd5_keep md5 (m := d) hready (scanOrder (bootMapAt s.spi.flash))
      (hout.imp_right fun hs => ⟨hut, by rw [hspi, ← h.look.sound]; exact hs⟩) none
    obtain ⟨huready, hagree, -⟩ :=
      scanAll_frame md5 hready (scanOrder (bootMapAt s.spi.flash)) none
    rcases hres : scanAll md5 (scanOrder (bootMapAt s.spi.flash)) none t with ⟨sel, u⟩
    rw [hres] at hkeep huready hagree htask
    have hflash : (bootloaderTask md5 button s).2.spi.flash = u.spi.flash := by
      rw [htask]
      cases sel <;> rfl
    refine ⟨?_, ?_⟩
    · rintro ⟨e, u', htask', hrun⟩
      rw [htask'] at htask
      rcases sel with _ | ⟨e', p⟩
      · cases (Prod.mk.inj htask).1
      obtain ⟨-, rfl⟩ := Prod.mk.inj htask
      obtain rfl : p = d := magicWord_injective hrun
      obtain ⟨hp, g, hg, hgs, -⟩ := scanAll_some md5 hready (congrArg Prod.fst hres)
      have hsound := (hg.look hut).sound.mpr hgs.1
      rw [hspi, ← h.look.sound] at hsound
      exact hout.elim (fun hno => hno hp) fun hno => hno hsound
    · rw [hflash]
      refine h.of_agree (hspi ▸ hut) (hspi ▸ hagree) ?_
      rw [← huready.info, hkeep, hready.info, hspi]
  · obtain ⟨hc, hpath⟩ := not_or.mp hscan
    rw [not_not] at hc
    by_cases hforced : s.Forced button
    · rcases bootloaderTask_forced hok hc hserved hforced with
        ⟨k, -, -, hkb, u, htask, hstarted, hspi⟩ | ⟨-, u, htask, hspi⟩
      · exact hother hkb htask hstarted hspi
      · refine ⟨?_, by rw [htask, hspi]; exact h⟩
        rintro ⟨e', u', htask', -⟩
        cases (Prod.mk.inj (htask'.symm.trans htask)).1
    · have hboot : Bootable md5 s.spi.flash (configuredPart s.spi.flash) :=
        not_not.mp fun hboot => hpath ⟨hserved, hforced, hboot⟩
      obtain ⟨u, htask, hstarted, hspi⟩ := bootloaderTask_configured hok hc hserved hforced rfl hboot
      exact hother hboot htask hstarted hspi

/-- In a run of boots a default firmware that no longer matches its digest stays out, if the scan
does not come by it or finds it unsound. Only what is looked at of it, the boot-parameter sector and the
header in sector 0 need stay as they are. -/
theorem corrupted_default_stays_out (ss : List Boot) (hu : Undisturbed f d)
    (hd : SoundAt f d → ¬DigestAt md5 f d) (hout : d ∉ scanOrder (bootMapAt f) ∨ ¬SoundAt f d)
    (hrun : BootRun md5 (looked f d ∪ bootSector ∪ span 0 8) f ss) :
    ∀ s ∈ ss, ¬Picks md5 false s d ∧
      (bootInfoAt (bootloaderTask md5 false s).2.spi.flash).partMd5 d = (bootInfoAt f).partMd5 d := by
  have hgen : ∀ g, SameDefault f d g → BootRun md5 (looked f d ∪ bootSector ∪ span 0 8) g ss →
      ∀ s ∈ ss, ¬Picks md5 false s d ∧
      (bootInfoAt (bootloaderTask md5 false s).2.spi.flash).partMd5 d = (bootInfoAt f).partMd5 d := by
    clear hrun
    induction ss with
    | nil => simp
    | cons s ss ih =>
      intro g hg ⟨hok, hreq, heq, hrest⟩ t ht
      obtain ⟨hstart, hsame⟩ := boot_keeps_default false (hg.of_eq heq) hu hd hout hok hreq
      rcases List.mem_cons.mp ht with rfl | ht
      · exact ⟨hstart, hsame.digest⟩
      · exact ih _ hsame hrest t ht
  exact hgen f ⟨.refl f d, rfl⟩ hrun

/-- The digest recorded for partition 1 stands for both partitions, and partition 0, which holds `image`, is
the default. -/
def corruptedDefault (image : List UInt8) : Space := burn [(0, bootHeader 0 0x20),
  (partAddr 0, image), (partAddr 1, tinyImage 0x40100004 0 0x20 2),
  (BOOT_PARAM_ADDR, BootInfo.bytes
    { bootPart := magicWord 0
      bootAddr := partAddr 0
      partLength := fun _ => 52
      partMd5 := fun _ => Md5.digest (tinyImage 0x40100004 0 0x20 2)
      partType := fun _ => 0x20 })]

/-- A default with a sound image that does not match its digest; partition 1 is bootable. -/
def resurrectedDefault : Space := corruptedDefault (tinyImage 0x40100004 0 0x20 1)

/-- The first boot records the digest of a sound default. -/
theorem resurrectedDefault_boot :
    (Configured resurrectedDefault ∧ configuredPart resurrectedDefault = 0 ∧
      (bootInfoAt resurrectedDefault).partLength 0 < 0xF0000 ∧ ¬DigestAt Md5.digest resurrectedDefault 0 ∧
      (1 : Part) ∈ scanOrder (bootMapAt resurrectedDefault) ∧ Bootable Md5.digest resurrectedDefault 1) ∧
    (bootInfoAt (bootloaderTask Md5.digest false (.atReset resurrectedDefault fun _ => 0)).2.spi.flash).partMd5 0 =
      Md5.digest (Image.bytes resurrectedDefault (partAddr 0)) :=
  ⟨by decide +kernel, by decide +kernel⟩

/-- An erased default. -/
theorem erasedDefault_magic : (Image.headerAt (corruptedDefault []) (partAddr 0)).magic ≠ HEADER_MAGIC := by
  decide +kernel

/-- The first boot with an erased default. -/
def erasedBoot : Boot := .atReset (corruptedDefault []) fun _ => 0

/-- The second one. -/
def erasedBoot2 : Boot := .atReset (bootloaderTask Md5.digest false erasedBoot).2.spi.flash fun _ => 0

theorem atReset_no_request (f : Space) :
    (Boot.atReset f fun _ => 0).getRtcUserdata 0 &&& BOOT_FW_MAGIC_MASK ≠ BOOT_FW_MAGIC :=
  show (0 : UInt32) &&& BOOT_FW_MAGIC_MASK ≠ BOOT_FW_MAGIC by decide

/-- Nothing is changed between the two boots. -/
theorem erasedBoot_run (kept : Set UInt32) :
    BootRun Md5.digest kept (corruptedDefault []) [erasedBoot, erasedBoot2] :=
  ⟨Boot.atReset_ok _ _, atReset_no_request _, fun _ _ => rfl, Boot.atReset_ok _ _, atReset_no_request _,
    fun x _ => (congrFun (Boot.atReset_flash _ _) x).symm, trivial⟩

theorem corrupted_default_stays_out_erased :
    (¬Picks Md5.digest false erasedBoot 0 ∧
      (bootInfoAt (bootloaderTask Md5.digest false erasedBoot).2.spi.flash).partMd5 0 =
        (bootInfoAt (corruptedDefault [])).partMd5 0) ∧
    (¬Picks Md5.digest false erasedBoot2 0 ∧
      (bootInfoAt (bootloaderTask Md5.digest false erasedBoot2).2.spi.flash).partMd5 0 =
        (bootInfoAt (corruptedDefault [])).partMd5 0) := by
  have h := corrupted_default_stays_out [erasedBoot, erasedBoot2] (undisturbed_of_magic erasedDefault_magic)
    (fun hs => absurd hs.1.1.1 erasedDefault_magic) (Or.inr fun hs => erasedDefault_magic hs.1.1.1)
    (erasedBoot_run _)
  exact ⟨h erasedBoot List.mem_cons_self, h erasedBoot2 (by simp)⟩

/-- A sound image that does not match its digest is resurrected: the first boot records its digest
and starts it. -/
theorem corrupted_default_resurrected : ¬∀ (f : Space) (d k : Part) (ss : List Boot),
    Configured f → configuredPart f = d → (bootInfoAt f).partLength d < 0xF0000 →
    ¬DigestAt Md5.digest f d → k ∈ scanOrder (bootMapAt f) → k ≠ d → Bootable Md5.digest f k →
    BootRun Md5.digest Set.univ f ss →
    ∀ s ∈ ss, ¬Picks Md5.digest false s d ∧
      (bootInfoAt (bootloaderTask Md5.digest false s).2.spi.flash).partMd5 d ≠
        Md5.digest (Image.bytes f (partAddr d)) := by
  intro h
  obtain ⟨⟨hconf, hpart, hlength, hdigest, hmem, hboot⟩, hrecorded⟩ := resurrectedDefault_boot
  have hfirst := h resurrectedDefault 0 1 [.atReset resurrectedDefault fun _ => 0] hconf hpart hlength hdigest
    hmem (by decide) hboot ⟨Boot.atReset_ok _ _, atReset_no_request _, fun _ _ => rfl, trivial⟩ _
    (List.mem_singleton.mpr rfl)
  exact hfirst.2 hrecorded

end Esp8266At.Bootloader
