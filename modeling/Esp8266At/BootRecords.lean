import Esp8266At.App.Accepted
import Esp8266At.Bootloader.Stability

/-!
# The records of the firmwares

Both programs record a firmware by writing the whole boot-parameter sector from a copy they have read before. A record
that is written leaves those of the other partitions alone, and so does a whole scan of the bootloader
(`recording_is_local`).
-/

namespace Esp8266At

open ByteSpace NorFlash Bootloader

/-- Both configurations hold the same about partition `m`. -/
structure SameRecord (b c : BootInfo) (m : Part) : Prop where
  length : c.partLength m = b.partLength m
  type : c.partType m = b.partType m
  md5 : c.partMd5 m = b.partMd5 m

/-- From `f` to `g`, no sector changes but that of the boot parameters, and in it the record of no partition but `n`. -/
structure RecordsOnly (n : Part) (f g : Space) : Prop where
  sectors : AgreeOff f g
  others : ∀ m ≠ n, SameRecord (bootInfoAt f) (bootInfoAt g) m

/-- `boot_part` and `boot_addr` are those of partition `n`. -/
def IsDefault (n : Part) (g : Space) : Prop :=
  (bootInfoAt g).bootPart = magicWord n ∧ (bootInfoAt g).bootAddr = partAddr n

/-- A call of `check_firmware` for partition `n`: it writes exactly if the image passes the checks; then `n` becomes the
default, with the address the image has been looked for at and its digest. -/
structure FirmwareRecorded (md5 : List UInt8 → Digest) (n : Part) (s t : App) : Prop where
  only : RecordsOnly n s.spi.flash t.spi.flash
  writes : t.spi.log ≠ s.spi.log ↔ s.Checks md5
  part : s.Checks md5 → (bootInfoAt t.spi.flash).bootPart = magicWord n
  addr : s.Checks md5 → (bootInfoAt t.spi.flash).bootAddr = s.upgradeFlashAddr
  default : s.Checks md5 → s.upgradeFlashAddr = partAddr n → IsDefault n t.spi.flash
  digest : s.Checks md5 → (bootInfoAt t.spi.flash).partMd5 n = md5 (Image.bytes s.spi.flash s.upgradeFlashAddr)

/-- `check_load_binary` records partition `n`: the image passes the checks, and its digest is not the recorded one. -/
def Bootloader.Boot.Records (md5 : List UInt8 → Digest) (n : Part) (s : Boot) : Prop :=
  Image.Sound s.spi.flash (partAddr n) s.bootFlashMap ∧
    md5 (Image.bytes s.spi.flash (partAddr n)) ≠ s.bootInfo.partMd5 n

instance (md5 : List UInt8 → Digest) (n : Part) (s : Boot) : Decidable (s.Records md5 n) :=
  inferInstanceAs (Decidable (_ ∧ _))

/-- A call of `check_load_binary` for partition `n`: if it writes while `*map` is `0xFF`, `n` becomes the default, and
otherwise the default stays. -/
structure BinaryRecorded (md5 : List UInt8 → Digest) (n : Part) (s t : Boot) : Prop where
  only : RecordsOnly n s.spi.flash t.spi.flash
  writes : t.spi.log ≠ s.spi.log ↔ s.Records md5 n
  default : t.spi.log ≠ s.spi.log ∧ s.map = 0xFF → IsDefault n t.spi.flash
  keeps : ¬(t.spi.log ≠ s.spi.log ∧ s.map = 0xFF) →
    (bootInfoAt t.spi.flash).bootPart = (bootInfoAt s.spi.flash).bootPart ∧
      (bootInfoAt t.spi.flash).bootAddr = (bootInfoAt s.spi.flash).bootAddr
  digest : s.Records md5 n → (bootInfoAt t.spi.flash).partMd5 n = md5 (Image.bytes s.spi.flash (partAddr n))

/-- A scan of `ns`: the digests of the images that pass are recorded, and no other record changes. -/
structure ScanRecorded (md5 : List UInt8 → Digest) (ns : List Part) (f g : Space) : Prop where
  sectors : AgreeOff f g
  passed : ∀ m ∈ ns, SoundAt f m → (bootInfoAt g).partMd5 m = md5 (Image.bytes f (partAddr m))
  others : ∀ m, ¬(m ∈ ns ∧ SoundAt f m) → SameRecord (bootInfoAt f) (bootInfoAt g) m

variable {md5 : List UInt8 → Digest} {b c d : BootInfo} {m n : Part} {f : Space}

theorem SameRecord.refl (b : BootInfo) (m : Part) : SameRecord b b m := ⟨rfl, rfl, rfl⟩

theorem SameRecord.trans (h : SameRecord b c m) (h' : SameRecord c d m) : SameRecord b d m :=
  ⟨h'.length.trans h.length, h'.type.trans h.type, h'.md5.trans h.md5⟩

theorem RecordsOnly.refl (n : Part) (f : Space) : RecordsOnly n f f := ⟨.refl f, fun m _ => .refl _ m⟩

/-- What is written has the record of `n` replaced. -/
theorem recordsOnly_save (h : ∀ m ≠ n, SameRecord (bootInfoAt f) b m) :
    RecordsOnly n f (applyAll SECTOR_SIZE (saveOps b) f) where
  sectors := agreeOff_save b f
  others := by
    rw [bootInfoAt_save]
    exact h

/-! ### The application -/

theorem sameRecord_newRecord (s : App) (hne : m ≠ n) :
    SameRecord (bootInfoAt s.spi.flash) (s.newRecord md5 (App.appN n)) m := by
  rw [App.newRecord_part]
  exact ⟨Function.update_of_ne hne _ _, Function.update_of_ne hne _ _, Function.update_of_ne hne _ _⟩

theorem log_save_ne (log : List Op) (b : BootInfo) : log ++ saveOps b ≠ log := by
  intro heq
  have hlength := congrArg List.length heq
  simp [saveOps] at hlength

theorem firmwareRecorded {s : App} (h : s.spi.AllOk) :
    FirmwareRecorded md5 n s (App.checkFirmware md5 (App.appN n) s).2 := by
  obtain ⟨hrefused, hsaved⟩ := App.checkFirmware_spec md5 s (App.appN n)
  by_cases hchecks : s.Checks md5
  · obtain ⟨t, hcheck, ht⟩ := hsaved hchecks
    rw [if_pos (h _), if_pos (h _)] at ht
    rw [hcheck]
    have hflash := ht.flash
    have hinfo := congrArg bootInfoAt hflash
    rw [bootInfoAt_save, App.newRecord_part] at hinfo
    have hpart : (bootInfoAt t.spi.flash).bootPart = magicWord n := by rw [hinfo]
    have haddr : (bootInfoAt t.spi.flash).bootAddr = s.upgradeFlashAddr := by rw [hinfo]
    refine ⟨?_, iff_of_true ?_ hchecks, fun _ => hpart, fun _ => haddr, fun _ hn => ⟨hpart, haddr.trans hn⟩,
      fun _ => ?_⟩
    · rw [hflash]
      exact recordsOnly_save fun m hne => sameRecord_newRecord s hne
    · rw [ht.log]
      exact log_save_ne _ _
    · rw [hinfo]
      exact Function.update_self (β := fun _ => Digest) n _ _
  · obtain ⟨t, hcheck, ht⟩ := hrefused hchecks
    rw [hcheck]
    have hflash : t.spi.flash = s.spi.flash := ht.flash
    have hlog : t.spi.log = s.spi.log := by rw [ht.log, List.append_nil]
    refine ⟨?_, iff_of_false (not_not.mpr hlog) hchecks, fun hc => absurd hc hchecks, fun hc => absurd hc hchecks,
      fun hc => absurd hc hchecks, fun hc => absurd hc hchecks⟩
    rw [hflash]
    exact .refl n _

/-! ### The bootloader -/

theorem sameRecord_recorded (b : BootInfo) (map : UInt8) (a total : UInt32) (mapMode : UInt8) (digest : Digest) (hne : m ≠ n) :
    SameRecord b (recorded b map a n total mapMode digest) m :=
  ⟨Function.update_of_ne hne _ _, Function.update_of_ne hne _ _, Function.update_of_ne hne _ _⟩

theorem binaryRecorded_record (s : Boot) (h : s.Records md5 n) :
    BinaryRecorded md5 n s (s.record md5 (partAddr n) n) := by
  have hlog : (s.record md5 (partAddr n) n).spi.log ≠ s.spi.log := log_save_ne _ _
  have hflash : (s.record md5 (partAddr n) n).spi.flash =
      applyAll SECTOR_SIZE (saveOps (s.record md5 (partAddr n) n).bootInfo) s.spi.flash := s.record_flash _
  refine ⟨?_, iff_of_true hlog h, fun hrecords => ?_, fun hnot => ?_, fun _ => ?_⟩
  · rw [hflash]
    exact recordsOnly_save fun m hne => sameRecord_recorded _ _ _ _ _ _ hne
  · rw [IsDefault, hflash, bootInfoAt_save]
    exact ⟨if_pos hrecords.2, if_pos hrecords.2⟩
  · have hmap : s.map ≠ 0xFF := fun hff => hnot ⟨hlog, hff⟩
    rw [hflash, bootInfoAt_save]
    exact ⟨if_neg hmap, if_neg hmap⟩
  · rw [hflash, bootInfoAt_save, Boot.record_partMd5, Function.update_self]

theorem binaryRecorded_refl {s t : Boot} (h : t.spi = s.spi) (hnot : ¬s.Records md5 n) :
    BinaryRecorded md5 n s t := by
  refine ⟨?_, iff_of_false (not_not.mpr (by rw [h])) hnot, fun hlog => absurd (by rw [h]) hlog.1,
    fun _ => by rw [h]; exact ⟨rfl, rfl⟩, fun hrecords => absurd hrecords hnot⟩
  rw [h]
  exact .refl n _

theorem binaryRecorded {s : Boot} (h : s.spi.AllOk) :
    BinaryRecorded md5 n s (checkLoadBinary md5 (partAddr n) n true s).2 := by
  rw [checkLoadBinary_eq h]
  split_ifs with hrefused hsum hdigest hsave
  · exact binaryRecorded_refl rfl fun hr => hrefused.elim (fun hno => hno hr.1.1) fun hno => hno hr.1.2.1
  · exact binaryRecorded_refl rfl fun hr => hr.2 hdigest
  · obtain ⟨hheaders, hmap⟩ := not_or.mp hrefused
    have hrecords : s.Records md5 n := ⟨⟨not_not.mp hheaders, not_not.mp hmap, hsum⟩, hdigest⟩
    have hrecord : BinaryRecorded md5 n { s with ram := Image.load s.spi.flash (partAddr n) s.ram }
        ({ s with ram := Image.load s.spi.flash (partAddr n) s.ram }.record md5 (partAddr n) n) :=
      binaryRecorded_record _ hrecords
    exact ⟨hrecord.only, hrecord.writes, hrecord.default, hrecord.keeps, hrecord.digest⟩
  · exact absurd rfl hsave
  · exact binaryRecorded_refl rfl fun hr => hsum hr.1.2.2

/-! ### The scan -/

variable {ns : List Part} {s t : Boot}

/-- What the next step of a scan records. -/
theorem sameRecord_scanned (h : Ahead f (n :: ns) s) (hm : m ≠ n ∨ ¬SoundAt f n) :
    SameRecord s.bootInfo (s.scanned md5 n).bootInfo m := by
  by_cases hstale : Stale md5 f n
  · rw [(h.scanned_stale hstale).1]
    exact sameRecord_recorded _ _ _ _ _ _ (hm.resolve_right (not_not.mpr hstale.1))
  · rw [(h.scanned_fresh hstale).2.1]
    exact .refl _ m

variable (md5) in
/-- The scan of the partitions `ns` that are still to come, wherever it has selected one. -/
theorem scanAll_records (h : Ahead f ns s) (selected : Option (UInt32 × Part)) :
    (scanAll md5 ns selected s).2.Ready ∧ AgreeOff f (scanAll md5 ns selected s).2.spi.flash ∧
      (∀ m ∈ ns, SoundAt f m → (scanAll md5 ns selected s).2.bootInfo.partMd5 m = md5 (Image.bytes f (partAddr m))) ∧
      (∀ m, ¬(m ∈ ns ∧ SoundAt f m) → SameRecord s.bootInfo (scanAll md5 ns selected s).2.bootInfo m) := by
  induction ns generalizing selected s with
  | nil => exact ⟨h.ready, h.agree, fun m hm => absurd hm List.not_mem_nil, fun m _ => .refl _ m⟩
  | cons n ns ih =>
    -- the step changes what is selected, and `map`
    obtain ⟨selected', map, hstep⟩ : ∃ selected' map, scanAll md5 (n :: ns) selected s =
        scanAll md5 ns selected' { s.scanned md5 n with map := map } := by
      cases selected with
      | some x => exact ⟨some x, (s.scanned md5 n).map, scanAll_selected_cons h.ready n ns x⟩
      | none =>
        rw [scanAll_none_cons h.ready]
        split_ifs
        · exact ⟨_, _, rfl⟩
        · exact ⟨none, (s.scanned md5 n).map, rfl⟩
    have hahead : Ahead f ns { s.scanned md5 n with map := map } := (h.tail md5).withMap map
    obtain ⟨hready, hagree, hpassed, hothers⟩ := ih hahead selected'
    rw [hstep]
    refine ⟨hready, hagree, fun m hm hs => ?_, fun m hm => ?_⟩
    · by_cases hmem : m ∈ ns
      · exact hpassed m hmem hs
      · obtain rfl : m = n := (List.mem_cons.mp hm).resolve_right hmem
        have hsame := (hothers m fun hboth => hmem hboth.1).md5
        obtain ⟨himage, hsound, -⟩ := h.head md5
        rw [hsame, (himage hs.copied).bytes]
        exact Boot.scanned_partMd5_self h.ready (hsound.mp hs)
    · have hfirst : SameRecord s.bootInfo (s.scanned md5 n).bootInfo m := by
        refine sameRecord_scanned h ?_
        by_cases hmn : m = n
        · subst hmn
          exact Or.inr fun hs => hm ⟨List.mem_cons_self, hs⟩
        · exact Or.inl hmn
      exact hfirst.trans (hothers m fun hboth => hm ⟨List.mem_cons_of_mem _ hboth.1, hboth.2⟩)

/-- The scan of a run of the bootloader. -/
theorem scanRecorded {button : Bool} (h : s.spi.AllOk) (hscan : s.Scans md5 button)
    (hclear : ∀ n ∈ scanOrder (bootMapAt s.spi.flash), Undisturbed s.spi.flash n) :
    ScanRecorded md5 (scanOrder (bootMapAt s.spi.flash)) s.spi.flash (bootloaderTask md5 button s).2.spi.flash := by
  obtain ⟨t, hready, hspi, -, htask⟩ := bootloaderTask_scan h hscan
  have hinfo : t.bootInfo = bootInfoAt s.spi.flash := by rw [hready.info, hspi]
  have hahead : Ahead s.spi.flash (scanOrder (bootMapAt s.spi.flash)) t :=
    ⟨hready, by rw [hspi]; exact .refl _, hclear, (scanOrder_sorted _).imp (fun hlt => Fin.ne_of_lt hlt),
      fun n _ => by rw [hinfo], fun n _ => by rw [hinfo]⟩
  obtain ⟨hready', hagree, hpassed, hothers⟩ := scanAll_records md5 hahead none
  generalize scanAll md5 (scanOrder (bootMapAt s.spi.flash)) none t = r at htask hready' hagree hpassed hothers
  obtain ⟨selected, u⟩ := r
  have hflash : (bootloaderTask md5 button s).2.spi = u.spi := by
    rw [htask]
    cases selected <;> rfl
  rw [hready'.info] at hpassed hothers
  rw [hinfo] at hothers
  rw [hflash]
  exact ⟨hagree, hpassed, hothers⟩

/-- **Recording one firmware leaves the others' records alone**: a call of either check, and a whole scan. -/
theorem recording_is_local (md5 : List UInt8 → Digest) (n : Part) :
    (∀ s : App, s.spi.AllOk → FirmwareRecorded md5 n s (App.checkFirmware md5 (App.appN n) s).2) ∧
    (∀ s : Boot, s.spi.AllOk → BinaryRecorded md5 n s (checkLoadBinary md5 (partAddr n) n true s).2) ∧
    (∀ (s : Boot) (button : Bool), s.spi.AllOk → s.Scans md5 button →
      (∀ n ∈ scanOrder (bootMapAt s.spi.flash), Undisturbed s.spi.flash n) →
      ScanRecorded md5 (scanOrder (bootMapAt s.spi.flash)) s.spi.flash (bootloaderTask md5 button s).2.spi.flash) :=
  ⟨fun _ h => firmwareRecorded h, fun _ h => binaryRecorded h, fun _ _ h hscan hclear =>
    scanRecorded h hscan hclear⟩

theorem staleDefault_scans : (Boot.atReset staleDefault fun _ => 0).Scans Md5.digest false := by
  have hplain := Boot.atReset_plain staleDefault
  have hnot : ¬Bootable Md5.digest staleDefault (configuredPart staleDefault) := by decide +kernel
  exact Or.inr ⟨hplain.not_served, hplain.count, hnot⟩

/-- The bootloader at the start of this scan. -/
def staleScan : Boot := { (Boot.atReset staleDefault fun _ => 0).prepared with map := 0xFF }

theorem staleScan_records : staleScan.Records Md5.digest 1 ∧ staleScan.map = 0xFF := by decide +kernel

theorem newFirmware_checks : newFirmware.Checks Md5.digest := by
  obtain ⟨-, -, hcheck, -⟩ := newFirmware_boot
  exact (App.checkFirmware_accepted (Prod.ext hcheck rfl) (by decide)).1

/-- `check_firmware` makes a new firmware in partition 2 the default, `check_load_binary` one in partition 1, and the
first boot of `staleDefault` scans its two firmwares. -/
theorem recording_is_local_staleDefault :
    IsDefault 2 (App.checkFirmware Md5.digest (App.appN 2) newFirmware).2.spi.flash ∧
      IsDefault 1 (checkLoadBinary Md5.digest (partAddr 1) 1 true staleScan).2.spi.flash ∧
      ScanRecorded Md5.digest (scanOrder (bootMapAt staleDefault)) staleDefault staleRun.2.spi.flash := by
  obtain ⟨hfirmware, -⟩ := recording_is_local Md5.digest 2
  obtain ⟨-, hbinary, hscans⟩ := recording_is_local Md5.digest 1
  obtain ⟨hrecords, hmap⟩ := staleScan_records
  refine ⟨(hfirmware newFirmware fun _ => rfl).default newFirmware_checks rfl, ?_, ?_⟩
  · have hrecorded := hbinary staleScan fun _ => rfl
    exact hrecorded.default ⟨hrecorded.writes.mpr hrecords, hmap⟩
  · obtain ⟨-, ⟨hmap, -⟩, -⟩ := staleDefault_boot
    have hundisturbed : ∀ n ∈ scanOrder (bootMapAt staleDefault), Undisturbed staleDefault n :=
      fun n hn => staleDefault_undisturbed n ((mem_scanOrder.mp hn).1 hmap)
    have hscan := hscans (.atReset staleDefault fun _ => 0) false (Boot.atReset_ok _ _) staleDefault_scans
    rw [Boot.atReset_flash] at hscan
    have hrecorded := hscan hundisturbed
    unfold staleRun
    exact hrecorded

end Esp8266At
