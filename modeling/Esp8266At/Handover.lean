import Esp8266At.App.Update
import Esp8266At.Bootloader.Follows
import Esp8266At.Bootloader.Stability

/-!
# What the application is told

The bootloader leaves the started partition, its address and its own version in the RTC words, and the application reads
them at its own offsets. What it reads is what has been started; that the flash map allows this partition is checked on
every path but that of the configured firmware (`application_told_iff`).
-/

namespace Esp8266At

open ByteSpace NorFlash Bootloader

/-! ### The application -/

def App.getRtcCurrFwAddr (s : App) : UInt32 := if s.getRtcCurrFw < 0 then 0 else s.rtc 8

/-- `boot_mmap_1` and `boot_mmap_2`. -/
structure BootMmap where
  bootMmap1 : UInt8
  bootMmap2 : UInt8

/-- `Cache_Read_Enable_New`: what `Cache_Read_Enable` is called with. -/
def cacheReadEnableNew (rtc : Rtc) (m : BootMmap) : BootMmap :=
  if m.bootMmap1 = 0xFF then
    -- first use
    let val := rtc 8 / 0x100000
    { bootMmap1 := (val % 2).toUInt8, bootMmap2 := (val / 2).toUInt8 }
  else m

/-- The 1 MB segment that is mapped. -/
def BootMmap.segment (m : BootMmap) : ℕ := 2 * m.bootMmap2.toNat + m.bootMmap1.toNat

/-- What an application with these RTC words is told, and maps from its first use on: that of partition `n`. -/
structure Told (rtc : Rtc) (n : Part) : Prop where
  fw : ∀ a : App, a.rtc = rtc → a.getRtcCurrFw = n.val
  addr : ∀ a : App, a.rtc = rtc → a.getRtcCurrFwAddr = partAddr n
  version : ∀ a : App, a.rtc = rtc → a.getRtcBootverAddr = BOOTLOADER_VERNUM.toNat
  mapped : (partAddr n).toNat / 0x100000 = (cacheReadEnableNew rtc ⟨0xFF, 0xFF⟩).segment
  stays : ∀ rtc', cacheReadEnableNew rtc' (cacheReadEnableNew rtc ⟨0xFF, 0xFF⟩) = cacheReadEnableNew rtc ⟨0xFF, 0xFF⟩

theorem magicWord_ge (n : Part) : magicWord n ≥ BOOT_FW_MAGIC ∧ magicWord n < BOOT_FW_MAGIC + UInt32.ofNat MAX_APP_PART := by
  revert n
  decide

theorem magicWord_part (n : Part) : (magicWord n &&& 0x0F).toNat = n.val := by
  revert n
  decide

theorem magicWord_inj {n k : Part} (h : magicWord n = magicWord k) : n = k := by
  have hn := magicWord_part n
  rw [h, magicWord_part] at hn
  exact (Fin.ext hn).symm

/-- The segment of partition `n`. -/
def partMmap (n : Part) : BootMmap where
  bootMmap1 := (partAddr n / 0x100000 % 2).toUInt8
  bootMmap2 := (partAddr n / 0x100000 / 2).toUInt8

theorem partMmap_segment (n : Part) : (partAddr n).toNat / 0x100000 = (partMmap n).segment := by
  revert n
  decide

theorem partMmap_used (n : Part) : (partMmap n).bootMmap1 ≠ 0xFF := by
  revert n
  decide

/-- The offsets of both programs fit. -/
theorem told_of_words {rtc : Rtc} {n : Part} (hfw : rtc 4 = magicWord n) (haddr : rtc 8 = partAddr n)
    (hversion : rtc 16 = 0xA5000000 ||| BOOTLOADER_VERNUM) : Told rtc n := by
  have hcurr : ∀ a : App, a.rtc = rtc → a.getRtcCurrFw = n.val := by
    rintro a rfl
    unfold App.getRtcCurrFw
    rw [hfw, if_pos (magicWord_ge n), magicWord_part]
  have hmap : cacheReadEnableNew rtc ⟨0xFF, 0xFF⟩ = partMmap n := by
    unfold cacheReadEnableNew
    rw [if_pos rfl, haddr]
    rfl
  refine ⟨hcurr, ?_, ?_, ?_, ?_⟩
  · rintro a rfl
    unfold App.getRtcCurrFwAddr
    rw [hcurr a rfl, if_neg (by omega), haddr]
  · rintro a rfl
    unfold App.getRtcBootverAddr
    rw [hversion]
    rfl
  · rw [hmap]
    exact partMmap_segment n
  · intro rtc'
    rw [hmap]
    exact if_neg (partMmap_used n)

/-! ### The runs -/

/-- From `s` to `s'`, partition `n` is started at `e`: it is allowed, its image has passed the checks with this entry
point when it was looked at, and the application is told. -/
structure HandsOver (s s' : Boot) (e : UInt32) (n : Part) : Prop where
  running : s'.getRtcUserdata 1 = BOOT_FW_MAGIC ||| UInt32.ofNat n.val
  addr : s'.getRtcUserdata 2 = UInt32.ofNat n.val * FW_PART_INC + FW_PART_OFFSET
  allowed : bootMapAt s.spi.flash > 4 → n.val % 2 = 0
  checked : ∃ d : Spi, d.base = s.spi.base ∧ s.spi.log <+: d.log ∧ d.log <+: s'.spi.log ∧ SoundAt d.flash n ∧
    Image.entry d.flash (partAddr n) = e
  told : Told s'.rtc n

/-- The configured partition is started, and its number is odd on a map above 4. -/
def StartsOdd (md5 : List UInt8 → Digest) (button : Bool) (s : Boot) : Prop :=
  (bootMapAt s.spi.flash > 4 ∧ (configuredPart s.spi.flash).val % 2 ≠ 0) ∧ Configured s.spi.flash ∧
    ¬Served md5 s.spi.flash (s.getRtcUserdata 0) ∧ ¬s.Forced button ∧
    Bootable md5 s.spi.flash (configuredPart s.spi.flash)

variable {md5 : List UInt8 → Digest} {s s' : Boot} {button : Bool} {e : UInt32} {n : Part}

theorem handsOver_of_started (h : s.spi.AllOk) (hstart : bootloaderTask md5 button s = (.start e, s'))
    (hrunning : s'.getRtcUserdata 1 = magicWord n) (haddr : s'.getRtcUserdata 2 = partAddr n)
    (hallowed : bootMapAt s.spi.flash > 4 → n.val % 2 = 0)
    (hchecked : ∃ d : Spi, d.base = s.spi.base ∧ s.spi.log <+: d.log ∧ d.log <+: s'.spi.log ∧ SoundAt d.flash n ∧
      Image.entry d.flash (partAddr n) = e) : HandsOver s s' e n := by
  refine ⟨hrunning, haddr, hallowed, hchecked, told_of_words hrunning haddr ?_⟩
  have hfollows : s.prepared.Follows (bootloaderTask md5 button s).2 := bootloaderTask_follows h
  rw [hstart] at hfollows
  exact hfollows.version.trans (prepared_version h)

/-- An image that is started from the flash as it was. -/
theorem handsOver_of_bootable (h : s.spi.AllOk) (hstart : bootloaderTask md5 button s = (.start e, s'))
    (hstarted : s'.Started s.spi.flash n) (hallowed : bootMapAt s.spi.flash > 4 → n.val % 2 = 0)
    (hboot : Bootable md5 s.spi.flash n) (he : e = Image.entry s.spi.flash (partAddr n)) : HandsOver s s' e n := by
  have hfollows : s.prepared.Follows (bootloaderTask md5 button s).2 := bootloaderTask_follows h
  rw [hstart] at hfollows
  have hlog : s.spi.log <+: s'.spi.log := by
    rw [← Boot.prepared_spi h]
    exact hfollows.log
  exact handsOver_of_started h hstart hstarted.running hstarted.addr hallowed
    ⟨s.spi, rfl, List.prefix_rfl, hlog, hboot.1, he.symm⟩

/-- A scan looks at the partition it selects at some moment. -/
theorem scanAll_moment {t : Boot} (h : t.Ready) {ns : List Part} (hsel : (scanAll md5 ns none t).1 = some (e, n)) :
    n ∈ ns ∧ ∃ u : Boot, t.Follows u ∧ u.Follows (scanAll md5 ns none t).2 ∧ Startable u.spi.flash n ∧
      e = Image.entry u.spi.flash (partAddr n) := by
  induction ns generalizing t with
  | nil => simp [scanAll] at hsel
  | cons k ns ih =>
    rw [scanAll_none_cons h] at hsel ⊢
    split_ifs at hsel ⊢ with hstart
    · have hready : ((t.scanned md5 k).select k).Ready := h.scanned.select
      rw [scanAll_selected hready] at hsel
      obtain ⟨rfl, rfl⟩ := Prod.mk.inj (Option.some.inj hsel)
      refine ⟨by simp, t, .refl t, ?_, hstart, rfl⟩
      have hscanned : t.Follows ((t.scanned md5 k).select k) := (follows_scanned t).trans (.of_eq rfl rfl)
      exact hscanned.trans (follows_scanAll md5 hready ns _)
    · obtain ⟨hn, u, htu, hu, hstart, he⟩ := ih h.scanned hsel
      exact ⟨by simp [hn], u, (follows_scanned t).trans htu, hu, hstart, he⟩

/-- Every run that starts a firmware hands it over, or starts an odd partition that is configured. -/
theorem hands_over (h : s.spi.AllOk) (hodd : ¬StartsOdd md5 button s)
    (hstart : bootloaderTask md5 button s = (.start e, s')) : ∃ n, HandsOver s s' e n := by
  by_cases hscan : s.Scans md5 button
  · obtain ⟨t, hready, hspi, -, htask⟩ := bootloaderTask_scan h hscan
    rw [hstart] at htask
    cases hsel : (scanAll md5 (scanOrder (bootMapAt s.spi.flash)) none t).1 with
    | none =>
      rw [show scanAll md5 (scanOrder (bootMapAt s.spi.flash)) none t = (none, _) from Prod.ext hsel rfl] at htask
      cases (Prod.mk.inj htask).1
    | some x =>
      obtain ⟨e', n⟩ := x
      rw [show scanAll md5 (scanOrder (bootMapAt s.spi.flash)) none t = (some (e', n), _) from Prod.ext hsel rfl] at htask
      obtain ⟨hn, u, htu, hu, hstartable, he⟩ := scanAll_moment hready hsel
      obtain ⟨he', rfl⟩ := Prod.mk.inj htask
      obtain rfl : e = e' := by simpa [exitOk] using he'
      refine ⟨n, handsOver_of_started h hstart rfl rfl (mem_scanOrder.mp hn).2.2 ⟨u.spi, ?_, ?_, ?_, hstartable.1, he.symm⟩⟩
      · rw [htu.base, hspi]
      · rw [← hspi]
        exact htu.log
      · exact hu.log
  · have hc : Configured s.spi.flash := by_contra fun hnot => hscan (Or.inl hnot)
    by_cases hserved : Served md5 s.spi.flash (s.getRtcUserdata 0)
    · obtain ⟨t, htask, hstarted, -⟩ := bootloaderTask_served button h hc hserved rfl
      obtain ⟨hentry, rfl⟩ := Prod.mk.inj (hstart.symm.trans htask)
      have he := Outcome.start.inj hentry
      obtain ⟨⟨-, hmap⟩, hboot⟩ := hserved
      generalize wordPart (s.getRtcUserdata 0) = n at hstarted hmap hboot he
      have hallowed : bootMapAt s.spi.flash > 4 → n.val % 2 = 0 := by
        intro habove
        by_contra hne
        exact hmap ⟨habove, hne⟩
      exact ⟨n, handsOver_of_bootable h hstart hstarted hallowed hboot he⟩
    · by_cases hforced : s.Forced button
      · obtain ⟨n, hn, -, hboot, t, htask, hstarted, -⟩ | ⟨-, t, htask, -⟩ := bootloaderTask_forced h hc hserved hforced
        · obtain ⟨hentry, rfl⟩ := Prod.mk.inj (hstart.symm.trans htask)
          exact ⟨n, handsOver_of_bootable h hstart hstarted (mem_scanOrder.mp hn).2.2 hboot (Outcome.start.inj hentry)⟩
        · cases (Prod.mk.inj (hstart.symm.trans htask)).1
      · have hboot : Bootable md5 s.spi.flash (configuredPart s.spi.flash) :=
          by_contra fun hnot => hscan (Or.inr ⟨hserved, hforced, hnot⟩)
        obtain ⟨t, htask, hstarted, -⟩ := bootloaderTask_configured h hc hserved hforced rfl hboot
        obtain ⟨hentry, rfl⟩ := Prod.mk.inj (hstart.symm.trans htask)
        have hallowed : bootMapAt s.spi.flash > 4 → (configuredPart s.spi.flash).val % 2 = 0 := by
          intro hmap
          by_contra hne
          exact hodd ⟨⟨hmap, hne⟩, hc, hserved, hforced, hboot⟩
        exact ⟨_, handsOver_of_bootable h hstart hstarted hallowed hboot (Outcome.start.inj hentry)⟩

/-- A configured partition with an odd number is started, and not allowed. -/
theorem startsOdd_not_handed (h : s.spi.AllOk) (hodd : StartsOdd md5 button s) : ∃ e s',
    bootloaderTask md5 button s = (.start e, s') ∧ ¬∃ n, HandsOver s s' e n := by
  obtain ⟨⟨hmap, hne⟩, hc, hserved, hforced, hboot⟩ := hodd
  obtain ⟨s', htask, hstarted, -⟩ := bootloaderTask_configured h hc hserved hforced rfl hboot
  refine ⟨_, s', htask, ?_⟩
  rintro ⟨n, hands⟩
  obtain rfl : configuredPart s.spi.flash = n := magicWord_inj (hstarted.running.symm.trans hands.running)
  exact hne (hands.allowed hmap)

/-- **The application is told what the bootloader started**, exactly if this is not a configured firmware in an odd
partition on a map above 4. -/
theorem application_told_iff (h : s.spi.AllOk) :
    (∀ e s', bootloaderTask md5 button s = (.start e, s') → ∃ n, HandsOver s s' e n) ↔ ¬StartsOdd md5 button s := by
  constructor
  · intro hall hodd
    obtain ⟨e, s', htask, hnot⟩ := startsOdd_not_handed h hodd
    exact hnot (hall e s' htask)
  · exact fun hodd e s' hstart => hands_over h hodd hstart

theorem started_of_fst {r : Outcome × Boot} (h : r.1 = .start e) : r = (.start e, r.2) := by
  rw [← h]

/-- The first boot of `staleDefault`, on a map of 1 MB. -/
theorem application_told_staleDefault :
    ∃ n, HandsOver (.atReset staleDefault fun _ => 0) staleRun.2 0x40100004 n := by
  obtain ⟨-, ⟨hmap, -⟩, hstart, -⟩ := staleDefault_boot
  have htask := started_of_fst hstart
  unfold staleRun at htask ⊢
  refine (application_told_iff (Boot.atReset_ok staleDefault fun _ => 0)).mpr (fun hodd => ?_) _ _ htask
  have habove := hodd.1.1
  rw [Boot.atReset_flash, hmap] at habove
  exact absurd habove (by decide)

/-- Partition 1 is configured on a map of 2 MB + 2 MB. -/
def oddConfigured : Space := burn [(0, bootHeader 0 0x50), (partAddr 1, tinyImage 0x40100004 0 0x50 1),
  (BOOT_PARAM_ADDR, BootInfo.bytes
    { bootPart := magicWord 1
      bootAddr := partAddr 1
      partLength := fun _ => 52
      partMd5 := fun _ => Md5.digest (tinyImage 0x40100004 0 0x50 1)
      partType := fun _ => 0x50 })]

theorem oddConfigured_starts : StartsOdd Md5.digest false (.atReset oddConfigured fun _ => 0) := by
  have hfacts : (bootMapAt oddConfigured > 4 ∧ (configuredPart oddConfigured).val % 2 ≠ 0) ∧ Configured oddConfigured ∧
      Bootable Md5.digest oddConfigured (configuredPart oddConfigured) := by
    decide +kernel
  have hplain := Boot.atReset_plain oddConfigured
  exact ⟨hfacts.1, hfacts.2.1, hplain.not_served, hplain.count, hfacts.2.2⟩

/-- It is started, although the same partition is refused when the application requests it. -/
theorem not_application_told : ¬∀ (s : Boot) (button : Bool), s.spi.AllOk → ∀ e s',
    bootloaderTask Md5.digest button s = (.start e, s') → ∃ n, HandsOver s s' e n := by
  intro h
  obtain ⟨e, s', htask, hnot⟩ := startsOdd_not_handed (Boot.atReset_ok oddConfigured fun _ => 0) oddConfigured_starts
  exact hnot (h _ false (Boot.atReset_ok _ _) e s' htask)

end Esp8266At