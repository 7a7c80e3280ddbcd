import Esp8266At.App.CheckSpec
import Esp8266At.Bootloader.Fallback

/-!
# What the updater accepts, the bootloader starts

`check_firmware` and `check_load_binary` are two copies of one parser. An image that `check_firmware`
has recorded is found again by the bootloader, provided that recording it has not changed the image: all
of it, not only the bytes the digest covers, has to lie outside the boot-parameter sector.
-/

namespace Esp8266At

open ByteSpace NorFlash

namespace App

variable {md5 : List UInt8 → Digest} {n : Part} {s : App}

/-- `uint8_t app_n`. -/
def appN (n : Part) : UInt8 := UInt8.ofNat n.val

theorem appN_toNat (n : Part) : (appN n).toNat = n.val := by
  revert n
  decide

theorem magic_appN (n : Part) : BOOT_FW_MAGIC ||| (appN n).toUInt32 = magicWord n := by
  revert n
  decide

/-- The record of an accepted image: it becomes the default firmware, and nothing is changed about the
other partitions. -/
theorem newRecord_part (md5 : List UInt8 → Digest) (s : App) (n : Part) : s.newRecord md5 (appN n) =
    { bootPart := magicWord n
      bootAddr := s.upgradeFlashAddr
      partLength := Function.update (bootInfoAt s.spi.flash).partLength n (Image.length s.spi.flash s.upgradeFlashAddr)
      partMd5 := Function.update (bootInfoAt s.spi.flash).partMd5 n
        (md5 (Image.bytes s.spi.flash s.upgradeFlashAddr))
      partType := Function.update (bootInfoAt s.spi.flash).partType n
        (Image.mapMode s.spi.flash s.upgradeFlashAddr) } := by
  have hlt : (appN n).toNat < MAX_APP_PART := by
    rw [appN_toNat]
    exact n.isLt
  have hidx : (⟨(appN n).toNat, hlt⟩ : Part) = n := Fin.ext (appN_toNat n)
  rw [newRecord, magic_appN, BootInfo.setPartMd5, dif_pos hlt, BootInfo.setPartType, dif_pos hlt,
    BootInfo.setPartLength, dif_pos hlt, hidx]

/-- An accepted image has passed the checks and has been recorded. -/
theorem checkFirmware_accepted {e : UInt32} {t : App} {k : UInt8} (hcheck : checkFirmware md5 k s = (e, t))
    (he : e ≠ 0) : s.Checks md5 ∧ e = Image.entry s.spi.flash s.upgradeFlashAddr ∧
      t.spi.flash = applyAll SECTOR_SIZE (saveOps (s.newRecord md5 k)) s.spi.flash := by
  obtain ⟨hno, hyes⟩ := checkFirmware_spec md5 s k
  by_cases h : s.Checks md5
  swap
  · obtain ⟨t', ht, -⟩ := hno h
    exact absurd (congrArg Prod.fst (hcheck.symm.trans ht)) he
  obtain ⟨t', ht, hc⟩ := hyes h
  obtain ⟨hval, rfl⟩ := Prod.mk.inj (hcheck.symm.trans ht)
  split_ifs at hval with hsaves
  · refine ⟨h, hval, ?_⟩
    rw [hc.flash, if_pos hsaves.1, if_pos hsaves.2]
  · exact absurd hval he

end App

namespace Bootloader

open App

variable {md5 : List UInt8 → Digest} {n : Part} {s t : App} {e : UInt32}

/-- After its record has been saved, an image that lies outside the boot-parameter sector is bootable and
the default. -/
theorem bootable_of_accepted (haddr : s.upgradeFlashAddr = partAddr n) (hclear : ClearOf s.spi.flash n)
    (hmap : Image.flashMap s.spi.flash (partAddr n) >>> 4 = (Image.headerAt s.spi.flash 0).flags2 >>> 4)
    (hcheck : checkFirmware md5 (appN n) s = (e, t)) (he : e ≠ 0) :
    Bootable md5 t.spi.flash n ∧ Configured t.spi.flash ∧ configuredPart t.spi.flash = n ∧
      Image.entry t.spi.flash (partAddr n) = e := by
  obtain ⟨⟨-, hheaders, hsum, -⟩, hentry, hflash⟩ := checkFirmware_accepted hcheck he
  rw [haddr] at hheaders hsum hentry
  have hagree : AgreeOff s.spi.flash t.spi.flash := by
    rw [hflash]
    exact agreeOff_save _ _
  have hsame := hagree.same hclear
  have hinfo : bootInfoAt t.spi.flash = s.newRecord md5 (appN n) := by rw [hflash, bootInfoAt_save]
  rw [newRecord_part, haddr] at hinfo
  have hentry' : Image.entry t.spi.flash (partAddr n) = e := hsame.entry.symm.trans hentry.symm
  have hword : (bootInfoAt t.spi.flash).bootPart = magicWord n := by rw [hinfo]
  have hmapOk : Image.MapOk s.spi.flash (partAddr n) (bootMapAt s.spi.flash) := by
    rw [bootMapAt]
    split_ifs
    · exact Or.inr (Or.inl hmap)
    · exact Or.inl rfl
  refine ⟨⟨(hagree.soundAt hclear).mp ⟨hheaders, hmapOk, hsum⟩, ?_, by rwa [hentry']⟩, ?_, ?_, hentry'⟩
  · rw [DigestAt, hinfo, ← hsame.bytes]
    exact (Function.update_self (β := fun _ => Digest) n _ _).symm
  · rw [Configured, hword]
    exact validWord_magicWord n
  · rw [configuredPart, hword]
    exact wordPart_magicWord n

/-- What the updater accepts, the bootloader starts at its next run, from the configuration and without
touching the flash. -/
theorem accepted_is_started (haddr : s.upgradeFlashAddr = partAddr n) (hclear : ClearOf s.spi.flash n)
    (hmap : Image.flashMap s.spi.flash (partAddr n) >>> 4 = (Image.headerAt s.spi.flash 0).flags2 >>> 4)
    (hcheck : checkFirmware md5 (appN n) s = (e, t)) (he : e ≠ 0) {b : Boot} (hok : b.spi.AllOk)
    (hflash : b.spi.flash = t.spi.flash) (hreq : b.getRtcUserdata 0 &&& BOOT_FW_MAGIC_MASK ≠ BOOT_FW_MAGIC)
    (hcount : b.bootCount ≠ 15) :
    ¬b.Scans md5 false ∧ configuredPart b.spi.flash = n ∧
      (∀ c : Boot, c.Ready → c.spi.flash = t.spi.flash → (checkLoadBinary md5 (partAddr n) n false c).1 = e) ∧
      ∃ b', bootloaderTask md5 false b = (.start e, b') ∧ b'.getRtcUserdata 1 = magicWord n ∧
        b'.spi.flash = b.spi.flash := by
  obtain ⟨hboot, hconf, hpart, hentry⟩ := bootable_of_accepted haddr hclear hmap hcheck he
  have hforced : ¬b.Forced false := by
    rintro (h | h)
    · cases h
    · refine hcount (UInt32.toNat_inj.mp ?_)
      have hle : b.bootCount.toNat ≤ 15 := by
        rw [Boot.bootCount, UInt32.toNat_and]
        exact Nat.and_le_right
      have hge : 15 ≤ b.bootCount.toNat := UInt32.le_iff_toNat_le.mp h
      exact le_antisymm hle hge
  have hserved : ¬Served md5 b.spi.flash (b.getRtcUserdata 0) := fun h => hreq h.1.1
  rw [← hflash] at hboot hconf hpart hentry
  obtain ⟨b', htask, hstarted, hspi⟩ := bootloaderTask_configured hok hconf hserved hforced hpart hboot
  rw [hentry] at htask
  refine ⟨?_, hpart, fun c hc hcf => ?_, b', htask, hstarted.running, by rw [hspi]⟩
  · rintro (h | h)
    · exact h hconf
    · exact h.2.2 (hpart ▸ hboot)
  · rw [checkLoadBinary_check md5 hc, hcf, ← hflash, if_pos ⟨hboot.1, hboot.2.1⟩, hentry]

/-- The application with a downloaded image in partition `n` of flash `f`. -/
def downloaded (f : Space) (n : Part) : App :=
  { App.atReset f (fun _ => 0) 4 with
    upgradeFlashAddr := partAddr n, upgradeFlashMap := Image.mapMode f (partAddr n) }

/-- A new firmware in partition 2 of an otherwise empty flash. -/
def newFirmware : App :=
  downloaded (burn [(0, bootHeader 0 0x40), (partAddr 2, tinyImage 0x40100004 0 0x40 7)]) 2

/-- The machine at the reset after `check_firmware`. -/
def nextBoot (s : App) (n : Part) : Boot := .atReset (checkFirmware Md5.digest (appN n) s).2.spi.flash fun _ => 0

/-- The new firmware is accepted, and becomes the default. -/
theorem newFirmware_boot :
    ClearOf newFirmware.spi.flash 2 ∧
      Image.flashMap newFirmware.spi.flash (partAddr 2) >>> 4 =
        (Image.headerAt newFirmware.spi.flash 0).flags2 >>> 4 ∧
      (checkFirmware Md5.digest (appN 2) newFirmware).1 = 0x40100004 ∧
      (nextBoot newFirmware 2).getRtcUserdata 0 &&& BOOT_FW_MAGIC_MASK ≠ BOOT_FW_MAGIC ∧
      (nextBoot newFirmware 2).bootCount ≠ 15 := by
  refine ⟨?_, by decide +kernel⟩
  refine clearOf_of_inside 52 (Image.inside_of_bounds ?_ ?_ ?_ ?_ ?_) ?_ <;> decide +kernel

theorem accepted_is_started_newFirmware :
    ¬(nextBoot newFirmware 2).Scans Md5.digest false ∧ configuredPart (nextBoot newFirmware 2).spi.flash = 2 ∧
      (∀ c : Boot, c.Ready → c.spi.flash = (nextBoot newFirmware 2).spi.flash →
        (checkLoadBinary Md5.digest (partAddr 2) 2 false c).1 = 0x40100004) ∧
      ∃ b', bootloaderTask Md5.digest false (nextBoot newFirmware 2) = (.start 0x40100004, b') ∧
        b'.getRtcUserdata 1 = magicWord 2 ∧ b'.spi.flash = (nextBoot newFirmware 2).spi.flash :=
  have ⟨hclear, hmap, hcheck, hreq, hcount⟩ := newFirmware_boot
  accepted_is_started (s := newFirmware) (t := (checkFirmware Md5.digest (appN 2) newFirmware).2) rfl hclear hmap
    (Prod.ext hcheck rfl) (by decide) (Boot.atReset_ok _ _) rfl hreq hcount

/-- The image in partition 2 of `wrappedFlash` passes the checks of `check_firmware`. -/
theorem wrapped_checks : (downloaded wrappedFlash 2).Checks Md5.digest :=
  ⟨Or.inl rfl, wrappedFlash_sound.1, wrappedFlash_sound.2.2, rfl, fun h => absurd h.1 (by decide), fun _ _ => rfl⟩

/-- The flash after `check_firmware` has recorded it. -/
def wrappedSaved : Space :=
  applyAll SECTOR_SIZE (saveOps ((downloaded wrappedFlash 2).newRecord Md5.digest (appN 2))) wrappedFlash

/-- After the record has been saved, the image is not started. -/
theorem wrappedSaved_boot :
    Image.entry wrappedFlash (partAddr 2) = 0x40100004 ∧ (Image.length wrappedFlash (partAddr 2)).toNat = 52 ∧
      Image.flashMap wrappedFlash (partAddr 2) >>> 4 = (Image.headerAt wrappedFlash 0).flags2 >>> 4 ∧
      (bootloaderTask Md5.digest false (.atReset wrappedSaved fun _ => 0)).1 = .blinkLed := by
  decide +kernel

/-- Saving the record of an image may destroy the part of it that the digest does not cover. -/
theorem not_accepted_is_started : ¬∀ (s t : App) (n : Part) (e : UInt32) (b : Boot),
    s.upgradeFlashAddr = partAddr n →
    (∀ x ∈ span (partAddr n) (Image.length s.spi.flash (partAddr n)).toNat, x ∉ bootSector) →
    Image.flashMap s.spi.flash (partAddr n) >>> 4 = (Image.headerAt s.spi.flash 0).flags2 >>> 4 →
    checkFirmware Md5.digest (appN n) s = (e, t) → e ≠ 0 → b.spi.AllOk → b.spi.flash = t.spi.flash →
    b.getRtcUserdata 0 &&& BOOT_FW_MAGIC_MASK ≠ BOOT_FW_MAGIC → b.bootCount ≠ 15 →
    ∃ b', bootloaderTask Md5.digest false b = (.start e, b') := by
  intro h
  obtain ⟨t, ht, hc⟩ := (checkFirmware_spec Md5.digest (downloaded wrappedFlash 2) (appN 2)).2 wrapped_checks
  obtain ⟨hentry, hlength, hmap, hblink⟩ := wrappedSaved_boot
  have hflash : (downloaded wrappedFlash 2).spi.flash = wrappedFlash := rfl
  obtain ⟨b', hb'⟩ := h (downloaded wrappedFlash 2) t 2 0x40100004 (.atReset wrappedSaved fun _ => 0) rfl
    (fun x hx hboot => by
      have hpart : (partAddr 2).toNat = 0x101000 := by decide
      have hin := (mem_span_iff_of_le (by rw [hpart, hflash, hlength]; decide)).mp hx
      have := mem_bootSector.mp hboot
      omega)
    hmap (ht.trans (congrArg (·, t) hentry)) (by decide) (Boot.atReset_ok _ _) hc.flash.symm
    (by decide) (by decide)
  rw [hb'] at hblink
  cases hblink

end Bootloader

end Esp8266At
