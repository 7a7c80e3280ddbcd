import Esp8266At.App.CheckSpec
import Esp8266At.Lib.Md5

/-!
# `check_firmware` with and without debug messages

The `return 0` for a wrong flash map stands in the block of its debug message. Without debug messages
the image is checked further, and saved when it passes the other checks; with them it is refused.
-/

namespace Esp8266At

open ByteSpace NorFlash

namespace App

variable {md5 : List UInt8 → Digest} {n : UInt8}

/-- `s` with debug messages on or off. -/
def withDebug (b : Bool) (s : App) : App := { s with upgradeDebug := b }

/-- A call with debug messages and one without agree on the image, and both refuse a wrong flash map. -/
def SameVerdict (md5 : List UInt8 → Digest) (n : UInt8) (s : App) : Prop :=
  (checkFirmware md5 n (s.withDebug true)).1 = (checkFirmware md5 n (s.withDebug false)).1 ∧
    (checkFirmware md5 n (s.withDebug true)).2.spi.flash = (checkFirmware md5 n (s.withDebug false)).2.spi.flash ∧
    (¬s.MapExpected → (checkFirmware md5 n (s.withDebug true)).1 = 0 ∧
      (checkFirmware md5 n (s.withDebug false)).1 = 0)

/-- The erase and the write of the boot-parameter sector both succeed. -/
def Saves (s : App) : Prop :=
  s.spi.results (checkReads s.spi.flash s.upgradeFlashAddr) = true ∧
    s.spi.results (checkReads s.spi.flash s.upgradeFlashAddr + 1) = true

/-- The operations of a save, as far as they succeed. -/
def saveAttempt (md5 : List UInt8 → Digest) (n : UInt8) (s : App) : List Op :=
  if s.spi.results (checkReads s.spi.flash s.upgradeFlashAddr) then
    (if s.spi.results (checkReads s.spi.flash s.upgradeFlashAddr + 1) then saveOps (s.newRecord md5 n)
    else [.erase (BOOT_PARAM_ADDR.toNat / SECTOR_SIZE)])
  else []

/-- Saving the image has no effect: the save fails or there is no entry point, and the boot-parameter
sector already holds what the save leaves there. -/
def SaveIdle (md5 : List UInt8 → Digest) (n : UInt8) (s : App) : Prop :=
  (s.Saves → Image.entry s.spi.flash s.upgradeFlashAddr = 0) ∧
    applyAll SECTOR_SIZE (s.saveAttempt md5 n) s.spi.flash = s.spi.flash

variable (md5 n) in
/-- The result and the flash of a call. -/
theorem checkFirmware_result (s : App) :
    (¬s.Checks md5 → (checkFirmware md5 n s).1 = 0 ∧ (checkFirmware md5 n s).2.spi.flash = s.spi.flash) ∧
    (s.Checks md5 → ((checkFirmware md5 n s).1 = 0 ↔ s.Saves → Image.entry s.spi.flash s.upgradeFlashAddr = 0) ∧
      (checkFirmware md5 n s).2.spi.flash = applyAll SECTOR_SIZE (s.saveAttempt md5 n) s.spi.flash) := by
  obtain ⟨hno, hyes⟩ := checkFirmware_spec md5 s n
  constructor
  · intro h
    obtain ⟨t, ht, hc⟩ := hno h
    rw [ht]
    exact ⟨rfl, hc.flash⟩
  · intro h
    obtain ⟨t, ht, hc⟩ := hyes h
    rw [ht]
    refine ⟨?_, hc.flash⟩
    show (if _ then _ else _) = (0 : UInt32) ↔ _
    split_ifs with hsaves
    · exact ⟨fun h _ => h, fun h => h hsaves⟩
    · exact ⟨fun _ h => absurd h hsaves, fun _ => rfl⟩

theorem checks_debug (s : App) : (s.withDebug true).Checks md5 ↔ s.MapExpected ∧ s.ReachesSave md5 := by
  refine and_congr_left' ?_
  exact ⟨fun h => h.resolve_right Bool.noConfusion, Or.inl⟩

theorem checks_silent (s : App) : (s.withDebug false).Checks md5 ↔ s.ReachesSave md5 :=
  ⟨fun h => h.2, fun h => ⟨Or.inr rfl, h⟩⟩

/-- Debug messages make no difference exactly if the flash map is the expected one, or the image is
refused anyway, or saving it has no effect. -/
theorem sameVerdict_iff (s : App) :
    SameVerdict md5 n s ↔ s.MapExpected ∨ ¬s.ReachesSave md5 ∨ s.SaveIdle md5 n := by
  obtain ⟨hno, hyes⟩ := checkFirmware_result md5 n (s.withDebug true)
  obtain ⟨hno', hyes'⟩ := checkFirmware_result md5 n (s.withDebug false)
  rw [checks_debug] at hno hyes
  rw [checks_silent] at hno' hyes'
  by_cases hsave : s.ReachesSave md5
  swap
  · -- both calls refuse the image
    obtain ⟨h1, hf1⟩ := hno fun h => hsave h.2
    obtain ⟨h2, hf2⟩ := hno' hsave
    exact ⟨fun _ => Or.inr (Or.inl hsave), fun _ => ⟨h1.trans h2.symm, hf1.trans hf2.symm, fun _ => ⟨h1, h2⟩⟩⟩
  obtain ⟨h2, hf2⟩ := hyes' hsave
  by_cases hmap : s.MapExpected
  · -- both calls do the same
    refine ⟨fun _ => Or.inl hmap, fun _ => ⟨?_, ?_, fun h => absurd hmap h⟩⟩
    · obtain ⟨-, hs⟩ := checkFirmware_spec md5 (s.withDebug true) n
      obtain ⟨-, hs'⟩ := checkFirmware_spec md5 (s.withDebug false) n
      obtain ⟨t, ht, -⟩ := hs ((checks_debug s).mpr ⟨hmap, hsave⟩)
      obtain ⟨t', ht', -⟩ := hs' ((checks_silent s).mpr hsave)
      rw [ht, ht']
      rfl
    · exact (hyes ⟨hmap, hsave⟩).2.trans hf2.symm
  · -- with debug messages the image is refused
    obtain ⟨h1, hf1⟩ := hno fun h => hmap h.1
    constructor
    · intro h
      exact Or.inr (Or.inr ⟨h2.mp (h.1.symm.trans h1), hf2.symm.trans (h.2.1.symm.trans hf1)⟩)
    · intro h
      obtain ⟨hentry, hkeep⟩ := (h.resolve_left hmap).resolve_left (not_not.mpr hsave)
      have hzero := h2.mpr hentry
      exact ⟨h1.trans hzero.symm, hf1.trans (hf2.trans hkeep).symm, fun _ => ⟨h1, hzero⟩⟩


/-- A firmware for flash map 2 in partition 1, where one for flash map 4 was requested. -/
def wrongMap : App :=
  { App.atReset (burn [(partAddr 1, tinyImage 0x40100004 0 0x20 7)]) (fun _ => 0) 2 with
    upgradeFlashAddr := partAddr 1, upgradeFlashMap := 0x40 }

/-- Without debug messages a firmware for another flash map is accepted. -/
theorem not_sameVerdict : ¬∀ (s : App) (n : UInt8), SameVerdict Md5.digest n s := by
  intro h
  have hvalue := (h wrongMap 1).1
  have hdebug : (checkFirmware Md5.digest 1 (wrongMap.withDebug true)).1 = 0 := by decide +kernel
  have hsilent : (checkFirmware Md5.digest 1 (wrongMap.withDebug false)).1 = 0x40100004 := by decide +kernel
  rw [hdebug, hsilent] at hvalue
  exact absurd hvalue (by decide)

end App

end Esp8266At
