import Esp8266At.Bootloader.TaskSpec

/-!
# What every run keeps

A run of the bootloader leaves its version in RTC word 4 before it looks for a firmware. Nothing it does afterwards
changes this word, and flash operations are only added (`Boot.Follows`, `bootloaderTask_follows`).
-/

namespace Esp8266At.Bootloader

open ByteSpace NorFlash

/-- `t` is the machine `s` later in a run. -/
structure Boot.Follows (s t : Boot) : Prop where
  version : t.rtc 16 = s.rtc 16
  base : t.spi.base = s.spi.base
  log : s.spi.log <+: t.spi.log

variable {md5 : List UInt8 → Digest} {s t u : Boot} {button : Bool} {n : Part}

namespace Boot.Follows

theorem of_eq (hrtc : t.rtc = s.rtc) (hspi : t.spi = s.spi) : s.Follows t where
  version := by rw [hrtc]
  base := by rw [hspi]
  log := by rw [hspi]

theorem refl (s : Boot) : s.Follows s := of_eq rfl rfl

theorem trans (h : s.Follows t) (h' : t.Follows u) : s.Follows u where
  version := h'.version.trans h.version
  base := h'.base.trans h.base
  log := h.log.trans h'.log

theorem setRtcUserdata (s : Boot) {idx : ℕ} (hidx : idx ≠ 4) (data : UInt32) : s.Follows (s.setRtcUserdata idx data) where
  version := Function.update_of_ne (by omega) _ _
  base := rfl
  log := List.prefix_rfl

theorem exitOk (s : Boot) (entry_point app_addr : UInt32) : s.Follows (exitOk entry_point n app_addr s).2 :=
  (setRtcUserdata s (by decide) (magicWord n)).trans (setRtcUserdata _ (by decide) app_addr)

theorem perform (s : Boot) (op : Op) : s.Follows { s with spi := (s.spi.perform op).2 } := by
  unfold Device.perform
  split_ifs
  · exact ⟨rfl, rfl, List.prefix_append _ _⟩
  · exact ⟨rfl, rfl, List.prefix_rfl⟩

end Boot.Follows

/-! ### The boot paths -/

theorem follows_checked (s : Boot) : s.Follows (s.checked n) := .of_eq s.checked_rtc s.checked_spi

theorem follows_scanned (s : Boot) : s.Follows (s.scanned md5 n) := by
  unfold Boot.scanned
  split_ifs
  · have hrecord : (s.checked n).Follows ((s.checked n).record md5 (partAddr n) n) := ⟨rfl, rfl, List.prefix_append _ _⟩
    exact (follows_checked s).trans hrecord
  · exact follows_checked s

variable (md5) in
theorem follows_scanAll (h : s.Ready) (ns : List Part) (selected : Option (UInt32 × Part)) :
    s.Follows (scanAll md5 ns selected s).2 := by
  have hkeep : (scanAll md5 ns selected s).2.Ready ∧ s.Follows (scanAll md5 ns selected s).2 :=
    scanAll_preserves (P := fun t => t.Ready ∧ s.Follows t) (fun _ ht => ht.1)
      (fun n _ t ht => ⟨ht.1.scanned, ht.2.trans (follows_scanned t)⟩)
      (fun t map ht => ⟨ht.1.of_eq rfl rfl rfl, ht.2.trans (.of_eq rfl rfl)⟩) selected ⟨h, .refl s⟩
  exact hkeep.2

theorem follows_boot1st (h : t.Ready) : t.Follows (boot1st md5 t).2 := by
  have hmap : t.Follows { t with map := 0xFF } := .of_eq rfl rfl
  have hstart := hmap.trans (.setRtcUserdata { t with map := 0xFF } (by decide : 3 ≠ 4) (BOOT_FW_MAGIC ||| 1))
  have hready : ({ t with map := 0xFF }.setRtcUserdata 3 (BOOT_FW_MAGIC ||| 1)).Ready := h.of_eq rfl rfl rfl
  unfold boot1st
  simp only
  generalize { t with map := 0xFF }.setRtcUserdata 3 (BOOT_FW_MAGIC ||| 1) = u at hstart hready ⊢
  have hscan := hstart.trans (follows_scanAll md5 hready (scanOrder u.bootFlashMap) none)
  generalize scanAll md5 (scanOrder u.bootFlashMap) none u = r at hscan ⊢
  obtain ⟨selected, v⟩ := r
  cases selected with
  | none => exact hscan
  | some x => exact hscan.trans (.exitOk v x.1 (partAddr x.2))

theorem follows_configuredFirmware (h : t.Ready) : t.Follows (configuredFirmware md5 button t).2 := by
  by_cases hc : t.bootInfo.bootPart &&& BOOT_FW_MAGIC = BOOT_FW_MAGIC
  · rw [configuredFirmware_eq hc rfl]
    generalize wordPart t.bootInfo.bootPart = n
    have hselect : t.Follows (t.select n) := .of_eq rfl rfl
    refine hselect.trans ?_
    have hready : (t.select n).Ready := h.select
    generalize t.select n = u at hready
    by_cases hforced : button = true ∨ u.getRtcUserdata 3 &&& 0x0F ≥ 15
    · rw [if_pos hforced]
      obtain ⟨k, -, -, -, v, htry, honly, -⟩ | ⟨-, v, htry, honly⟩ :=
        tryOthers_cases md5 hready n (scanOrder u.bootFlashMap)
      · rw [htry]
        exact (Boot.Follows.of_eq honly.rtc honly.spi).trans (.exitOk v _ _)
      · rw [htry]
        exact .of_eq honly.rtc honly.spi
    · obtain ⟨e₁, hfirst⟩ : ∃ e, checkLoadBinary md5 (partAddr n) n false u = (e, u.checked n) :=
        ⟨_, checkLoadBinary_check md5 hready⟩
      obtain ⟨e₂, hagain⟩ : ∃ e, checkLoadBinary md5 (partAddr n) n false (u.checked n) =
          (e, (u.checked n).checked n) := ⟨_, checkLoadBinary_check md5 hready.checked⟩
      have hchecked : u.Follows (u.checked n) := follows_checked u
      have htwice : u.Follows ((u.checked n).checked n) := hchecked.trans (follows_checked _)
      rw [if_neg hforced, hfirst]
      simp only [hagain]
      split_ifs
      · exact hchecked.trans (.exitOk _ _ _)
      · exact htwice.trans (.exitOk _ _ _)
      · exact htwice.trans (follows_boot1st hready.checked.checked)
  · have hboot : configuredFirmware md5 button t = boot1st md5 t := if_neg hc
    rw [hboot]
    exact follows_boot1st h

variable (md5) in
theorem follows_requestedFirmware (w : UInt32) (h : t.Ready) :
    t.Follows (requestedFirmware md5 w t).2 ∧
      ((requestedFirmware md5 w t).1 = none → (requestedFirmware md5 w t).2.Ready) := by
  unfold requestedFirmware
  by_cases hword : w &&& BOOT_FW_MAGIC_MASK = BOOT_FW_MAGIC
  · rw [if_pos hword]
    generalize wordPart w = n
    by_cases hallowed : t.bootFlashMap > 4 ∧ n.val % 2 ≠ 0
    · rw [if_neg (not_not.mpr hallowed)]
      exact ⟨.refl t, fun _ => h⟩
    · rw [if_pos hallowed]
      have hmap : t.Follows { t with map := t.bootInfo.partType n } := .of_eq rfl rfl
      have hcleared := hmap.trans (.setRtcUserdata { t with map := t.bootInfo.partType n } (by decide : 0 ≠ 4) 0)
      have hready : ({ t with map := t.bootInfo.partType n }.setRtcUserdata 0 0).Ready := h.of_eq rfl rfl rfl
      simp only
      generalize { t with map := t.bootInfo.partType n }.setRtcUserdata 0 0 = u at hcleared hready
      obtain ⟨e, hcheck⟩ : ∃ e, checkLoadBinary md5 (partAddr n) n false u = (e, u.checked n) :=
        ⟨_, checkLoadBinary_check md5 hready⟩
      have hchecked := hcleared.trans (follows_checked (n := n) u)
      simp only [hcheck]
      by_cases hentry : e ≠ 0
      · rw [if_pos hentry]
        refine ⟨hchecked.trans ?_, fun hnone => by cases hnone⟩
        split_ifs
        · -- the selection is made permanent
          generalize hinfo : ({ (u.checked n).bootInfo with bootAddr := partAddr n, bootPart := magicWord n } : BootInfo) = bi
          have hselected : (u.checked n).Follows { u.checked n with bootInfo := bi } := .of_eq rfl rfl
          have herased := hselected.trans (.perform _ (.erase (BOOT_PARAM_ADDR / UInt32.ofNat SECTOR_SIZE).toNat))
          exact (herased.trans (.perform _ (.program BOOT_PARAM_ADDR bi.bytes))).trans (.exitOk _ e (partAddr n))
        · exact .exitOk _ e (partAddr n)
      · rw [if_neg hentry]
        exact ⟨hchecked, fun _ => hready.checked⟩
  · rw [if_neg hword]
    exact ⟨.refl t, fun _ => h⟩

theorem prepared_version (h : s.spi.AllOk) : s.prepared.rtc 16 = 0xA5000000 ||| BOOTLOADER_VERNUM := by
  have hbegun : s.begun.rtc 16 = 0xA5000000 ||| BOOTLOADER_VERNUM := by
    simp only [Boot.begun, Boot.setRtcUserdata]
    exact Function.update_self _ _ _
  have hrtc : s.prepared.rtc = s.begun.rtc := Boot.readFlashMap_rtc (Boot.begun_ok h)
  rw [hrtc]
  exact hbegun

/-- What is left of the machine that has been prepared. -/
theorem bootloaderTask_follows (h : s.spi.AllOk) : s.prepared.Follows (bootloaderTask md5 button s).2 := by
  have hready := Boot.prepared_ready h
  rw [bootloaderTask_eq h]
  by_cases hc : Configured s.spi.flash
  · rw [if_neg (not_not.mpr hc)]
    obtain ⟨hfollows, hr⟩ := follows_requestedFirmware md5 (s.getRtcUserdata 0) hready
    generalize requestedFirmware md5 (s.getRtcUserdata 0) s.prepared = r at hfollows hr
    obtain ⟨outcome, t⟩ := r
    cases outcome with
    | some o => exact hfollows
    | none => exact hfollows.trans (follows_configuredFirmware (hr rfl))
  · rw [if_pos hc]
    exact follows_boot1st hready

end Esp8266At.Bootloader
