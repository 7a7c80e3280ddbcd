import Esp8266At.Bootloader.Scan

/-!
# What a run of the bootloader does when the flash works

A run ends in one of five ways, decided by the flash, the request word, the boot counter and the
button: a served request, the configured firmware, another firmware because the button is pressed or
the maximum number of resets is reached, or none in that case, or the scan. The theorems
`bootloaderTask_served` to `bootloaderTask_scan` say what each of them does.
-/

namespace Esp8266At.Bootloader

open ByteSpace NorFlash

/-- The boot configuration names a partition. -/
def Configured (f : Space) : Prop := ValidWord (bootInfoAt f).bootPart

/-- The partition the boot configuration names. -/
def configuredPart (f : Space) : Part := wordPart (bootInfoAt f).bootPart

/-- The word `w` requests a partition whose address the flash map allows. -/
def Requested (f : Space) (w : UInt32) : Prop :=
  w &&& BOOT_FW_MAGIC_MASK = BOOT_FW_MAGIC ∧ ¬(bootMapAt f > 4 ∧ (wordPart w).val % 2 ≠ 0)

/-- The word `w` requests a partition that can be booted. -/
def Served (md5 : List UInt8 → Digest) (f : Space) (w : UInt32) : Prop :=
  Requested f w ∧ Bootable md5 f (wordPart w)

instance (f : Space) : Decidable (Configured f) := inferInstanceAs (Decidable (ValidWord _))
instance (f : Space) (w : UInt32) : Decidable (Requested f w) := inferInstanceAs (Decidable (_ ∧ _))
instance (md5 : List UInt8 → Digest) (f : Space) (w : UInt32) : Decidable (Served md5 f w) :=
  inferInstanceAs (Decidable (_ ∧ _))

namespace Boot

/-- The boot counter nibble of this boot. -/
def bootCount (s : Boot) : UInt32 := s.countBoot.getRtcUserdata 3 &&& 0x0F

/-- The button is pressed or the maximum number of resets is reached. -/
def Forced (button : Bool) (s : Boot) : Prop := button = true ∨ s.bootCount ≥ 15

instance (button : Bool) (s : Boot) : Decidable (s.Forced button) := inferInstanceAs (Decidable (_ ∨ _))

/-- The run gets to the scan after `boot_1st`. -/
def Scans (md5 : List UInt8 → Digest) (button : Bool) (s : Boot) : Prop :=
  ¬Configured s.spi.flash ∨
    (¬Served md5 s.spi.flash (s.getRtcUserdata 0) ∧ ¬s.Forced button ∧
      ¬Bootable md5 s.spi.flash (configuredPart s.spi.flash))

/-- The image of partition `n` in `f` has been loaded last and `n` is recorded as running. -/
structure Started (f : Space) (n : Part) (s' : Boot) : Prop where
  running : s'.getRtcUserdata 1 = magicWord n
  addr : s'.getRtcUserdata 2 = partAddr n
  ram : ∃ r, s'.ram = Image.load f (partAddr n) r

/-- The machine when the flash map is about to be read. -/
def begun (s : Boot) : Boot :=
  { s with map := 0xFF, bootFlashMap := 0xFF, bootFlashMode := 0xFF }.countBoot.setRtcUserdata 4
    (0xA5000000 ||| BOOTLOADER_VERNUM)

/-- The machine when the boot configuration has been read. -/
def prepared (s : Boot) : Boot := { s.begun.readFlashMap with bootInfo := bootInfoAt s.spi.flash }

/-- The machine at reset, with every SPI operation succeeding. -/
def atReset (f : Space) (rtc : Rtc) : Boot where
  spi := ⟨f, [], fun _ => true⟩
  rtc := rtc
  ram := fun _ => 0
  bootInfo := BootInfo.ofBytes []
  map := 0
  bootFlashMap := 0
  bootFlashMode := 0

theorem atReset_ok (f : Space) (rtc : Rtc) : (atReset f rtc).spi.AllOk := fun _ => rfl

theorem atReset_flash (f : Space) (rtc : Rtc) : (atReset f rtc).spi.flash = f := rfl

variable (s : Boot)

theorem countBoot_eq : s.countBoot = { s with rtc := s.countBoot.rtc } := by
  unfold countBoot
  split_ifs <;> rfl

/-- The counter nibble goes up by one and wraps at 16. -/
theorem countBoot_rtc : s.countBoot.rtc = Function.update s.rtc 12
    (if s.rtc 12 &&& 0xFFFFFFF0 ≠ BOOT_FW_MAGIC then BOOT_FW_MAGIC ||| 1
    else BOOT_FW_MAGIC ||| (((s.rtc 12 &&& 0x0F) + 1) &&& 0x0F)) := by
  by_cases h : s.rtc 12 &&& 0xFFFFFFF0 ≠ BOOT_FW_MAGIC
  · rw [if_pos h]
    exact congrArg Boot.rtc (if_pos h)
  · rw [if_neg h]
    exact congrArg Boot.rtc (if_neg h)

@[simp] theorem begun_spi : s.begun.spi = s.spi := by
  rw [begun, countBoot_eq]
  rfl

@[simp] theorem begun_bootFlashMap : s.begun.bootFlashMap = 0xFF := by
  rw [begun, countBoot_eq]
  rfl

theorem begun_count : s.begun.getRtcUserdata 3 &&& 0x0F = s.bootCount := by
  rw [bootCount, getRtcUserdata, getRtcUserdata, begun, setRtcUserdata]
  simp only [Function.update_of_ne (show 3 * 4 ≠ 4 * 4 by decide), countBoot_rtc]

variable {s}

theorem readFlashMap_ok (h : s.spi.AllOk) : s.readFlashMap =
    if (Image.headerAt s.spi.flash 0).magic = SECTION_MAGIC then
      { s with bootFlashMap := (Image.headerAt s.spi.flash 0).flags2 >>> 4
               bootFlashMode := (Image.headerAt s.spi.flash 0).flags1 &&& 0x0F }
    else s := by
  rw [readFlashMap, spiRead_ok h]
  rfl

theorem readFlashMap_spi (h : s.spi.AllOk) : s.readFlashMap.spi = s.spi := by
  rw [readFlashMap_ok h]
  split_ifs <;> rfl

theorem readFlashMap_rtc (h : s.spi.AllOk) : s.readFlashMap.rtc = s.rtc := by
  rw [readFlashMap_ok h]
  split_ifs <;> rfl

theorem readFlashMap_bootFlashMap (h : s.spi.AllOk) (hmap : s.bootFlashMap = 0xFF) :
    s.readFlashMap.bootFlashMap = bootMapAt s.spi.flash := by
  rw [readFlashMap_ok h, bootMapAt]
  split_ifs
  · rfl
  · exact hmap

theorem begun_ok (h : s.spi.AllOk) : s.begun.spi.AllOk := by
  rw [begun_spi]
  exact h

theorem prepared_spi (h : s.spi.AllOk) : s.prepared.spi = s.spi :=
  (readFlashMap_spi (begun_ok h)).trans s.begun_spi

theorem prepared_ready (h : s.spi.AllOk) : s.prepared.Ready := by
  have hmap := readFlashMap_bootFlashMap (begun_ok h) s.begun_bootFlashMap
  rw [begun_spi] at hmap
  constructor
  · rw [prepared_spi h]
    exact h
  · rw [prepared_spi h]
    rfl
  · rw [prepared_spi h]
    exact hmap

theorem prepared_count (h : s.spi.AllOk) : s.prepared.getRtcUserdata 3 &&& 0x0F = s.bootCount := by
  rw [← begun_count]
  exact congrArg (fun rtc : Rtc => rtc (3 * 4) &&& 0x0F) (readFlashMap_rtc (begun_ok h))

end Boot

variable {md5 : List UInt8 → Digest} {s : Boot} {button : Bool} {n : Part}

theorem eq_of_outcome {r : Outcome × Boot} {o : Outcome} (h : r.1 = o) : r = (o, r.2) := by
  rw [← h]

theorem bootloaderTask_eq (h : s.spi.AllOk) : bootloaderTask md5 button s =
    if ¬Configured s.spi.flash then boot1st md5 s.prepared
    else match requestedFirmware md5 (s.getRtcUserdata 0) s.prepared with
      | (some outcome, s) => (outcome, s)
      | (none, s) => configuredFirmware md5 button s := by
  have hspi := (Boot.readFlashMap_spi (Boot.begun_ok h)).trans s.begun_spi
  have hread := Boot.spiRead_ok (s := s.begun.readFlashMap) (by rw [hspi]; exact h)
    BOOT_PARAM_ADDR BootInfo.size
  rw [hspi] at hread
  rw [bootloaderTask]
  simp only [← Boot.begun.eq_1, hread]
  rfl

/-! ### A request -/

theorem spiErase_write {s : Boot} (h : s.spi.AllOk) (b : BootInfo) :
    (((s.spiEraseSector (BOOT_PARAM_ADDR / UInt32.ofNat SECTOR_SIZE)).2).spiWrite BOOT_PARAM_ADDR b.bytes).2 =
      { s with spi := { s.spi with log := s.spi.log ++ saveOps b } } := by
  rw [Boot.spiEraseSector_ok h, Boot.spiWrite_ok (by exact h)]
  simp only [saveOps, List.append_assoc, List.cons_append, List.nil_append]
  rfl

theorem exitOk_started {f : Space} {u : Boot} (e : UInt32) (r : Space)
    (hu : u.ram = Image.load f (partAddr n) r) :
    (exitOk e n (partAddr n) u).2.Started f n := ⟨rfl, rfl, r, hu⟩

variable (button) in
/-- A pending request for a bootable partition is served, whatever the button and the counter say:
the request word is cleared, and the flash changes only when the request is permanent. -/
theorem bootloaderTask_served (h : s.spi.AllOk) (hc : Configured s.spi.flash)
    (hserved : Served md5 s.spi.flash (s.getRtcUserdata 0))
    (hn : n = wordPart (s.getRtcUserdata 0)) : ∃ s',
    bootloaderTask md5 button s = (.start (Image.entry s.spi.flash (partAddr n)), s') ∧
      s'.Started s.spi.flash n ∧ s'.getRtcUserdata 0 = 0 ∧
      s'.spi.flash = if s.getRtcUserdata 0 &&& 0x08 = 0x08 then
          applyAll SECTOR_SIZE (saveOps { bootInfoAt s.spi.flash with
            bootAddr := partAddr n, bootPart := magicWord n }) s.spi.flash
        else s.spi.flash := by
  obtain ⟨⟨hword, hallowed⟩, hboot⟩ := hserved
  rw [← hn] at hallowed hboot
  rw [bootloaderTask_eq h, if_neg (not_not.mpr hc)]
  set w := s.getRtcUserdata 0
  -- the machine `check_load_binary` is called on
  set t : Boot := { s.prepared with map := s.prepared.bootInfo.partType n }.setRtcUserdata 0 0 with ht
  have hready : t.Ready := (Boot.prepared_ready h).of_eq rfl rfl rfl
  have hspi : t.spi = s.spi := Boot.prepared_spi h
  have hcheck := checkLoadBinary_check md5 (n := n) hready
  rw [hspi, if_pos ⟨hboot.1, hboot.2.1⟩] at hcheck
  have hmap : s.prepared.bootFlashMap = bootMapAt s.spi.flash := by
    rw [(Boot.prepared_ready h).map, Boot.prepared_spi h]
  have hallowed' : ¬(s.prepared.bootFlashMap > 4 ∧ n.val % 2 ≠ 0) := by rwa [hmap]
  have hram : (t.checked n).ram = Image.load s.spi.flash (partAddr n) t.ram := by
    rw [Boot.checked_ram, hspi, if_pos ⟨hboot.1.1, hboot.1.2.1⟩]
  have hinfo : (t.checked n).bootInfo = bootInfoAt s.spi.flash := by
    rw [Boot.checked_bootInfo, hready.info, hspi]
  have hok : (t.checked n).spi.AllOk := by rw [Boot.checked_spi]; exact hready.ok
  have hflash : (t.checked n).spi.flash = s.spi.flash := by rw [Boot.checked_spi, hspi]
  simp only [requestedFirmware, if_pos hword, ← hn, if_pos hallowed', ← ht, hcheck, if_pos hboot.2.2]
  have hrtc : (t.checked n).rtc 0 = 0 := congrFun t.checked_rtc 0
  by_cases hperm : w &&& 0x08 = 0x08
  · simp only [if_pos hperm]
    rw [spiErase_write (by exact hok)]
    refine ⟨_, rfl, exitOk_started _ t.ram hram, hrtc, ?_⟩
    refine (Device.flash_append (t.checked n).spi _).trans ?_
    rw [hflash, hinfo]
  · simp only [if_neg hperm]
    exact ⟨_, rfl, exitOk_started _ t.ram hram, hrtc, hflash⟩

variable (button) in
/-- Without such a request the configuration decides, in an unchanged flash. -/
theorem bootloaderTask_unserved (h : s.spi.AllOk) (hc : Configured s.spi.flash)
    (hserved : ¬Served md5 s.spi.flash (s.getRtcUserdata 0)) : ∃ t : Boot, t.Ready ∧
      t.spi = s.spi ∧ t.getRtcUserdata 3 &&& 0x0F = s.bootCount ∧
      bootloaderTask md5 button s = configuredFirmware md5 button t := by
  have hready := Boot.prepared_ready h
  have hspi := Boot.prepared_spi h
  have hcount := Boot.prepared_count h
  rw [bootloaderTask_eq h, if_neg (not_not.mpr hc)]
  set w := s.getRtcUserdata 0
  by_cases hword : w &&& BOOT_FW_MAGIC_MASK = BOOT_FW_MAGIC
  · obtain ⟨n, hn⟩ : ∃ n, n = wordPart w := ⟨_, rfl⟩
    by_cases hallowed : ¬(s.prepared.bootFlashMap > 4 ∧ n.val % 2 ≠ 0)
    · set t : Boot := { s.prepared with map := s.prepared.bootInfo.partType n }.setRtcUserdata 0 0 with ht
      have htready : t.Ready := hready.of_eq rfl rfl rfl
      have htspi : t.spi = s.spi := hspi
      have hcheck := checkLoadBinary_check md5 (n := n) htready
      have hzero : (if SoundAt t.spi.flash n ∧ DigestAt md5 t.spi.flash n then
          Image.entry t.spi.flash (partAddr n) else 0) = 0 := by
        rw [htspi]
        split_ifs with hpass
        · rw [hready.map, hspi, hn] at hallowed
          rw [hn] at hpass ⊢
          exact not_not.mp fun hentry => hserved ⟨⟨hword, hallowed⟩, hpass.1, hpass.2, hentry⟩
        · rfl
      rw [hzero] at hcheck
      refine ⟨t.checked n, htready.checked, by rw [Boot.checked_spi, htspi], ?_, ?_⟩
      · rw [Boot.getRtcUserdata, Boot.checked_rtc]
        exact hcount
      · simp only [requestedFirmware, if_pos hword, ← hn, if_pos hallowed, ← ht, hcheck]
        rfl
    · exact ⟨s.prepared, hready, hspi, hcount, by
        simp only [requestedFirmware, if_pos hword, ← hn, if_neg hallowed]⟩
  · exact ⟨s.prepared, hready, hspi, hcount, by simp only [requestedFirmware, if_neg hword]⟩

/-! ### The boot configuration -/

theorem configured_and {f : Space} (hc : Configured f) :
    (bootInfoAt f).bootPart &&& BOOT_FW_MAGIC = BOOT_FW_MAGIC := by
  rw [validWord_iff.mp hc]
  generalize wordPart (bootInfoAt f).bootPart = n
  revert n
  decide

theorem configuredFirmware_eq {t : Boot} (hc : t.bootInfo.bootPart &&& BOOT_FW_MAGIC = BOOT_FW_MAGIC)
    (hn : wordPart t.bootInfo.bootPart = n) : configuredFirmware md5 button t =
      if button ∨ (t.select n).getRtcUserdata 3 &&& 0x0F ≥ 15 then
        match tryOthers md5 n (scanOrder (t.select n).bootFlashMap) (t.select n) with
        | (some (entry_point, k), s) => exitOk entry_point k (partAddr k) s
        | (none, s) => (.blinkLed, s)
      else
        match checkLoadBinary md5 (partAddr n) n false (t.select n) with
        | (entry_point, s) =>
          if entry_point ≠ 0 then exitOk entry_point n (partAddr n) s else
          match checkLoadBinary md5 (partAddr n) n false s with
          | (entry_point, s) =>
            if entry_point ≠ 0 then exitOk entry_point n (partAddr n) s else boot1st md5 s := by
  subst hn
  rw [configuredFirmware, if_pos hc]
  rfl

variable (button) in
/-- The machine on which the configured partition `n` is looked at. -/
theorem bootloaderTask_configuration (h : s.spi.AllOk) (hc : Configured s.spi.flash)
    (hserved : ¬Served md5 s.spi.flash (s.getRtcUserdata 0)) (hn : configuredPart s.spi.flash = n) :
    ∃ t : Boot, t.Ready ∧ t.spi = s.spi ∧ (button = true ∨ t.getRtcUserdata 3 &&& 0x0F ≥ 15 ↔ s.Forced button) ∧
      bootloaderTask md5 button s =
        if button ∨ t.getRtcUserdata 3 &&& 0x0F ≥ 15 then
          match tryOthers md5 n (scanOrder t.bootFlashMap) t with
          | (some (entry_point, k), s) => exitOk entry_point k (partAddr k) s
          | (none, s) => (.blinkLed, s)
        else
          match checkLoadBinary md5 (partAddr n) n false t with
          | (entry_point, s) =>
            if entry_point ≠ 0 then exitOk entry_point n (partAddr n) s else
            match checkLoadBinary md5 (partAddr n) n false s with
            | (entry_point, s) =>
              if entry_point ≠ 0 then exitOk entry_point n (partAddr n) s else boot1st md5 s := by
  obtain ⟨t, hready, hspi, hcount, htask⟩ := bootloaderTask_unserved button h hc hserved
  have hinfo : t.bootInfo = bootInfoAt s.spi.flash := by rw [hready.info, hspi]
  refine ⟨t.select n, hready.select, hspi, ?_, ?_⟩
  · rw [Boot.Forced, ← hcount]
    rfl
  · rw [htask]
    exact configuredFirmware_eq (by rw [hinfo]; exact configured_and hc) (by rw [hinfo]; exact hn)

/-- With the button pressed, or at the maximum number of resets, the run starts the first other
partition that is bootable, or nothing. -/
theorem bootloaderTask_forced (h : s.spi.AllOk) (hc : Configured s.spi.flash)
    (hserved : ¬Served md5 s.spi.flash (s.getRtcUserdata 0)) (hforced : s.Forced button) :
    (∃ n ∈ scanOrder (bootMapAt s.spi.flash), n ≠ configuredPart s.spi.flash ∧
      Bootable md5 s.spi.flash n ∧ ∃ s',
        bootloaderTask md5 button s = (.start (Image.entry s.spi.flash (partAddr n)), s') ∧
          s'.Started s.spi.flash n ∧ s'.spi = s.spi) ∨
    ((∀ n ∈ scanOrder (bootMapAt s.spi.flash), n ≠ configuredPart s.spi.flash →
      ¬Bootable md5 s.spi.flash n) ∧ ∃ s',
        bootloaderTask md5 button s = (.blinkLed, s') ∧ s'.spi = s.spi) := by
  obtain ⟨t, hready, hspi, hbranch, htask⟩ :=
    bootloaderTask_configuration button h hc hserved rfl
  rw [if_pos (hbranch.mpr hforced)] at htask
  have hcases := tryOthers_cases md5 hready (configuredPart s.spi.flash) (scanOrder t.bootFlashMap)
  rw [hready.map, hspi] at hcases
  rw [hready.map, hspi] at htask
  rcases hcases with ⟨n, hn, hne, hboot, s', htry, honly, r, hram⟩ | ⟨hnone, s', htry, honly⟩
  · rw [htry] at htask
    exact Or.inl ⟨n, hn, hne, hboot, _, htask, exitOk_started (Image.entry s.spi.flash (partAddr n)) r hram, honly.spi.trans hspi⟩
  · rw [htry] at htask
    exact Or.inr ⟨hnone, s', htask, honly.spi.trans hspi⟩

/-- Otherwise the configured partition is started when it is bootable. -/
theorem bootloaderTask_configured (h : s.spi.AllOk) (hc : Configured s.spi.flash)
    (hserved : ¬Served md5 s.spi.flash (s.getRtcUserdata 0)) (hforced : ¬s.Forced button)
    (hn : configuredPart s.spi.flash = n) (hboot : Bootable md5 s.spi.flash n) : ∃ s',
    bootloaderTask md5 button s = (.start (Image.entry s.spi.flash (partAddr n)), s') ∧
      s'.Started s.spi.flash n ∧ s'.spi = s.spi := by
  obtain ⟨t, hready, hspi, hbranch, htask⟩ :=
    bootloaderTask_configuration button h hc hserved hn
  have hcheck := checkLoadBinary_check md5 (n := n) hready
  rw [hspi, if_pos ⟨hboot.1, hboot.2.1⟩] at hcheck
  rw [if_neg (mt hbranch.mp hforced), hcheck] at htask
  simp only [if_pos hboot.2.2] at htask
  refine ⟨_, htask, exitOk_started (Image.entry s.spi.flash (partAddr n)) t.ram ?_, ?_⟩
  · rw [Boot.checked_ram, hspi, if_pos ⟨hboot.1.1, hboot.1.2.1⟩]
  · exact t.checked_spi.trans hspi

/-! ### The scan -/

variable (md5) in
theorem boot1st_eq {t : Boot} (h : t.Ready) : ∃ u : Boot, u.Ready ∧ u.spi = t.spi ∧ u.map = 0xFF ∧
    boot1st md5 t = match scanAll md5 (scanOrder (bootMapAt t.spi.flash)) none u with
      | (some (entry_point, n), s) => exitOk entry_point n (partAddr n) s
      | (none, s) => (.blinkLed, s) := by
  refine ⟨{ t with map := 0xFF }.setRtcUserdata 3 (BOOT_FW_MAGIC ||| 1), h.of_eq rfl rfl rfl, rfl, rfl, ?_⟩
  rw [← h.map]
  rfl

/-- Otherwise, and without a configuration, all partitions are scanned. -/
theorem bootloaderTask_scan (h : s.spi.AllOk) (hscan : s.Scans md5 button) : ∃ t : Boot, t.Ready ∧
    t.spi = s.spi ∧ t.map = 0xFF ∧ bootloaderTask md5 button s =
      match scanAll md5 (scanOrder (bootMapAt s.spi.flash)) none t with
      | (some (entry_point, n), s) => exitOk entry_point n (partAddr n) s
      | (none, s) => (.blinkLed, s) := by
  by_cases hc : Configured s.spi.flash
  · obtain ⟨hserved, hforced, hboot⟩ := hscan.resolve_left (not_not.mpr hc)
    obtain ⟨n, hn⟩ : ∃ n, configuredPart s.spi.flash = n := ⟨_, rfl⟩
    obtain ⟨t, hready, hspi, hbranch, htask⟩ :=
      bootloaderTask_configuration button h hc hserved hn
    -- both attempts fail for the same reason
    have hzero : (if SoundAt s.spi.flash n ∧ DigestAt md5 s.spi.flash n then
        Image.entry s.spi.flash (partAddr n) else 0) = 0 := by
      split_ifs with hpass
      · exact not_not.mp fun hentry => hboot (hn ▸ ⟨hpass.1, hpass.2, hentry⟩)
      · rfl
    have hfirst := checkLoadBinary_check md5 (n := n) hready
    have hsecond := checkLoadBinary_check md5 (n := n) (hready.checked (n := n))
    rw [hspi, hzero] at hfirst
    rw [Boot.checked_spi, hspi, hzero] at hsecond
    rw [if_neg (mt hbranch.mp hforced), hfirst] at htask
    simp only [hsecond, ne_eq, not_true_eq_false, if_false] at htask
    obtain ⟨u, huready, huspi, humap, hu⟩ := boot1st_eq md5 (hready.checked (n := n)).checked
    simp only [Boot.checked_spi, hspi] at huspi hu
    exact ⟨u, huready, huspi, humap, htask.trans hu⟩
  · obtain ⟨u, huready, huspi, humap, hu⟩ := boot1st_eq md5 (Boot.prepared_ready h)
    rw [Boot.prepared_spi h] at huspi hu
    exact ⟨u, huready, huspi, humap, by rw [bootloaderTask_eq h, if_pos hc, hu]⟩

end Esp8266At.Bootloader
