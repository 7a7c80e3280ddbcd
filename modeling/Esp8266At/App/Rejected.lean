import Esp8266At.App.DebugPrint

/-!
# Refused firmwares

`check_firmware` returns the entry point of the image, and 0 stands for a refused one. An image without an
entry point that passes the checks is recorded and then reported as refused; any other refusal leaves the
flash alone (`rejected_keeps_flash_iff`).
-/

namespace Esp8266At

open ByteSpace NorFlash

/-- The boot-parameter sector holds this configuration and nothing else. -/
def SectorHolds (f : Space) (b : BootInfo) : Prop :=
  ∀ i < SECTOR_SIZE, f (BOOT_PARAM_ADDR + UInt32.ofNat i) = (b.bytes[i]?).getD 0xFF

theorem applyAll_saveOps_eq_iff {f : Space} {b : BootInfo} :
    applyAll SECTOR_SIZE (saveOps b) f = f ↔ SectorHolds f b :=
  erase_program_eq_iff (by decide) (by decide) (by decide) (by rw [BootInfo.bytes_length]; decide)

namespace App

variable {md5 : List UInt8 → Digest} {n : UInt8} {s : App}

/-- A call that returns 0 leaves the flash as it was. -/
def RejectedKeepsFlash (md5 : List UInt8 → Digest) (n : UInt8) (s : App) : Prop :=
  (checkFirmware md5 n s).1 = 0 → (checkFirmware md5 n s).2.spi.flash = s.spi.flash

theorem saveAttempt_of_saves (h : s.Saves) : s.saveAttempt md5 n = saveOps (s.newRecord md5 n) := by
  rw [saveAttempt, if_pos h.1, if_pos h.2]

/-- **A refusal leaves the flash alone exactly if the image fails a check, has an entry point, or is recorded
already**, provided that the boot-parameter sector can be erased and written. -/
theorem rejected_keeps_flash_iff (hsaves : s.Checks md5 → s.Saves) : RejectedKeepsFlash md5 n s ↔
    ¬s.Checks md5 ∨ Image.entry s.spi.flash s.upgradeFlashAddr ≠ 0 ∨
      SectorHolds s.spi.flash (s.newRecord md5 n) := by
  obtain ⟨hno, hyes⟩ := checkFirmware_result md5 n s
  by_cases hchecks : s.Checks md5
  · obtain ⟨hvalue, hflash⟩ := hyes hchecks
    have hsave := hsaves hchecks
    rw [RejectedKeepsFlash, hflash, hvalue, saveAttempt_of_saves hsave, applyAll_saveOps_eq_iff]
    constructor
    · intro h
      by_cases hentry : Image.entry s.spi.flash s.upgradeFlashAddr = 0
      · exact Or.inr (Or.inr (h fun _ => hentry))
      · exact Or.inr (Or.inl hentry)
    · rintro (h | h | h) hzero
      · exact absurd hchecks h
      · exact absurd (hzero hsave) h
      · exact h
  · exact iff_of_true (fun _ => (hno hchecks).2) (Or.inl hchecks)

/-- A firmware without an entry point in partition 1. -/
def noEntry : App :=
  { App.atReset (burn [(partAddr 1, tinyImage 0 0 0x20 7)]) (fun _ => 0) 2 with
    upgradeFlashAddr := partAddr 1, upgradeFlashMap := 0x20 }

theorem rejected_keeps_flash_iff_noEntry : RejectedKeepsFlash Md5.digest 1 noEntry ↔
    ¬noEntry.Checks Md5.digest ∨ Image.entry noEntry.spi.flash noEntry.upgradeFlashAddr ≠ 0 ∨
      SectorHolds noEntry.spi.flash (noEntry.newRecord Md5.digest 1) :=
  rejected_keeps_flash_iff fun _ => ⟨rfl, rfl⟩

/-- A firmware without an entry point is reported as refused and made the default. -/
theorem not_rejected_keeps_flash :
    ¬∀ (s : App) (n : UInt8), (s.Checks Md5.digest → s.Saves) → RejectedKeepsFlash Md5.digest n s := by
  intro h
  have hrun : (checkFirmware Md5.digest 1 noEntry).1 = 0 ∧
      (checkFirmware Md5.digest 1 noEntry).2.spi.flash BOOT_PARAM_ADDR ≠ noEntry.spi.flash BOOT_PARAM_ADDR := by
    decide +kernel
  have hkept := h noEntry 1 (fun _ => ⟨rfl, rfl⟩) hrun.1
  exact hrun.2 (congrFun hkept BOOT_PARAM_ADDR)

end App

end Esp8266At
