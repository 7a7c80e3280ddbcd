import Esp8266At.NextBoot
import Mathlib.Data.List.Chain

/-!
# Firmware that keeps resetting

The boot counter in RTC word 3 survives a reset, and nothing but the scan and the counting itself changes it. In a row
of resets with a bootable configured firmware every sixteenth boot, the one that counts 15, and every boot with the
button pressed takes another firmware, and all others take the configured one (`reset_loop`).
-/

namespace Esp8266At.Bootloader

open ByteSpace NorFlash

variable {md5 : List UInt8 → Digest} {s t : Boot} {button : Bool} {n : Part}

/-! ### The counter -/

/-- What a boot makes of the counter word. -/
def countWord (w : UInt32) : UInt32 :=
  if w &&& 0xFFFFFFF0 ≠ BOOT_FW_MAGIC then BOOT_FW_MAGIC ||| 1
  else BOOT_FW_MAGIC ||| (((w &&& 0x0F) + 1) &&& 0x0F)

theorem countBoot_word (s : Boot) : s.countBoot.rtc 12 = countWord (s.rtc 12) := by
  rw [s.countBoot_rtc, Function.update_self]
  rfl

theorem bootCount_word (s : Boot) : s.bootCount = countWord (s.rtc 12) &&& 0x0F :=
  congrArg (· &&& 0x0F) (countBoot_word s)

/-- A counter word holds the magic number and a nibble. -/
theorem countWord_nibble (w : UInt32) : ∃ k : Fin 16, countWord w = BOOT_FW_MAGIC ||| UInt32.ofNat k := by
  have hnibble : ∀ v : UInt32, ∃ k : Fin 16, v &&& 0x0F = UInt32.ofNat k := by
    intro v
    have hval : (v &&& 0x0F).toNat = v.toNat % 16 := by
      rw [UInt32.toNat_and]
      exact Nat.and_two_pow_sub_one_eq_mod v.toNat 4
    refine ⟨⟨v.toNat % 16, Nat.mod_lt _ (by decide)⟩, UInt32.toNat_inj.mp ?_⟩
    rw [hval, UInt32.toNat_ofNat_of_lt' (by show v.toNat % 16 < 4294967296; omega)]
  unfold countWord
  split_ifs
  · exact ⟨1, rfl⟩
  · obtain ⟨k, hk⟩ := hnibble ((w &&& 0x0F) + 1)
    exact ⟨k, congrArg _ hk⟩

theorem nibble_next : ∀ k : Fin 16, ((BOOT_FW_MAGIC ||| UInt32.ofNat k) &&& 0x0F).toNat = k.val ∧
    (countWord (BOOT_FW_MAGIC ||| UInt32.ofNat k) &&& 0x0F).toNat = (k.val + 1) % 16 := by
  decide +kernel

theorem bootCount_lt (s : Boot) : s.bootCount.toNat < 16 := by
  obtain ⟨k, hk⟩ := countWord_nibble (s.rtc 12)
  rw [bootCount_word, hk, (nibble_next k).1]
  exact k.isLt

/-- A boot that finds the counter of the boot before it counts one more. -/
theorem bootCount_next (h : t.rtc 12 = s.countBoot.rtc 12) : t.bootCount.toNat = (s.bootCount.toNat + 1) % 16 := by
  obtain ⟨k, hk⟩ := countWord_nibble (s.rtc 12)
  rw [bootCount_word, bootCount_word, h, countBoot_word, hk, (nibble_next k).1, (nibble_next k).2]

/-! ### One boot -/

variable (md5) in
/-- A boot with a bootable configured firmware and no request that can be served. -/
structure Usual (s : Boot) : Prop where
  ok : s.spi.AllOk
  configured : Configured s.spi.flash
  bootable : Bootable md5 s.spi.flash (configuredPart s.spi.flash)
  unserved : ¬Served md5 s.spi.flash (s.getRtcUserdata 0)

variable (md5) in
/-- The first firmware that is bootable and not the configured one. -/
def otherFirmware (f : Space) : Option Part :=
  (scanOrder (bootMapAt f)).find? fun n => n ≠ configuredPart f ∧ Bootable md5 f n

variable (md5) in
/-- How a boot ends: the image of a partition is started, or none is. -/
def Ends (button : Bool) (s : Boot) (o : Option Part) : Prop :=
  match o with
  | some n => ∃ s', bootloaderTask md5 button s = (.start (Image.entry s.spi.flash (partAddr n)), s') ∧
      s'.Started s.spi.flash n
  | none => (bootloaderTask md5 button s).1 = .blinkLed

variable (md5) in
/-- The search for another firmware ends at the first one. -/
theorem tryOthers_first (h : s.Ready) (app_n : Part) (ns : List Part) : ∃ s',
    tryOthers md5 app_n ns s = ((ns.find? fun n => n ≠ app_n ∧ Bootable md5 s.spi.flash n).map fun n =>
      (Image.entry s.spi.flash (partAddr n), n), s') ∧ s.OnlyRam s' ∧
    ∀ n, ns.find? (fun n => n ≠ app_n ∧ Bootable md5 s.spi.flash n) = some n →
      ∃ r, s'.ram = Image.load s.spi.flash (partAddr n) r := by
  induction ns generalizing s with
  | nil => exact ⟨s, rfl, .refl s, nofun⟩
  | cons n ns ih =>
    have hcheck := checkLoadBinary_check md5 (n := n) h
    by_cases hne : n ≠ app_n
    · by_cases hboot : Bootable md5 s.spi.flash n
      · rw [if_pos ⟨hboot.1, hboot.2.1⟩] at hcheck
        rw [List.find?_cons_of_pos (by simpa using ⟨hne, hboot⟩)]
        refine ⟨(s.checked n).select n, ?_, (s.checked_onlyRam n).trans ⟨rfl, rfl, rfl, rfl⟩, fun k hk => ?_⟩
        · simp only [tryOthers, if_pos hne, hcheck, if_pos hboot.2.2]
          rfl
        · obtain rfl := Option.some.inj hk
          refine ⟨s.ram, ?_⟩
          show (s.checked n).ram = _
          rw [Boot.checked_ram, if_pos ⟨hboot.1.1, hboot.1.2.1⟩]
      · have hzero : (if SoundAt s.spi.flash n ∧ DigestAt md5 s.spi.flash n then
            Image.entry s.spi.flash (partAddr n) else 0) = 0 := by
          split_ifs with hpass
          · exact not_not.mp fun hentry => hboot ⟨hpass.1, hpass.2, hentry⟩
          · rfl
        have hstep : tryOthers md5 app_n (n :: ns) s = tryOthers md5 app_n ns (s.checked n) := by
          rw [hzero] at hcheck
          simp only [tryOthers, if_pos hne, hcheck]
          simp
        obtain ⟨s', htry, honly, hram⟩ := ih (h.checked (n := n))
        rw [Boot.checked_spi] at htry hram
        rw [List.find?_cons_of_neg (by simpa using fun _ => hboot), hstep]
        exact ⟨s', htry, (s.checked_onlyRam n).trans honly, hram⟩
    · have hstep : tryOthers md5 app_n (n :: ns) s = tryOthers md5 app_n ns s := by
        simp only [tryOthers, if_neg hne]
      rw [List.find?_cons_of_neg (by simpa using fun h => absurd h hne), hstep]
      exact ih h

/-- A request that cannot be served is given up, and the counter stays. -/
theorem requestedFirmware_unserved (h : s.Ready) {w : UInt32} (hserved : ¬Served md5 s.spi.flash w) : ∃ t,
    requestedFirmware md5 w s = (none, t) ∧ t.Ready ∧ t.spi = s.spi ∧ t.rtc 12 = s.rtc 12 := by
  unfold requestedFirmware
  by_cases hword : w &&& BOOT_FW_MAGIC_MASK = BOOT_FW_MAGIC
  · simp only [if_pos hword]
    by_cases hallowed : ¬(s.bootFlashMap > 4 ∧ (wordPart w).val % 2 ≠ 0)
    · obtain ⟨t, ht⟩ : ∃ t : Boot, t = { s with map := s.bootInfo.partType (wordPart w) }.setRtcUserdata 0 0 :=
        ⟨_, rfl⟩
      have hready : t.Ready := ht ▸ h.of_eq rfl rfl rfl
      have hspi : t.spi = s.spi := ht ▸ rfl
      have hrtc : t.rtc 12 = s.rtc 12 := by
        rw [ht]
        show Function.update s.rtc (0 * 4) 0 12 = s.rtc 12
        rw [Function.update_of_ne (by decide)]
      have hzero : (if SoundAt t.spi.flash (wordPart w) ∧ DigestAt md5 t.spi.flash (wordPart w) then
          Image.entry t.spi.flash (partAddr (wordPart w)) else 0) = 0 := by
        rw [hspi]
        rw [h.map] at hallowed
        split_ifs with hpass
        · exact not_not.mp fun hentry => hserved ⟨⟨hword, hallowed⟩, hpass.1, hpass.2, hentry⟩
        · rfl
      have hcheck := checkLoadBinary_check md5 (n := wordPart w) hready
      rw [hzero] at hcheck
      rw [if_pos hallowed, ← ht, hcheck]
      refine ⟨t.checked (wordPart w), rfl, hready.checked, by rw [Boot.checked_spi, hspi], ?_⟩
      rw [Boot.checked_rtc, hrtc]
    · rw [if_neg hallowed]
      exact ⟨s, rfl, h, rfl, rfl⟩
  · simp only [if_neg hword]
    exact ⟨s, rfl, h, rfl, rfl⟩

theorem prepared_counter (h : s.spi.AllOk) : s.prepared.rtc 12 = s.countBoot.rtc 12 := by
  have hrtc := Boot.readFlashMap_rtc (Boot.begun_ok h)
  show s.begun.readFlashMap.rtc 12 = _
  rw [hrtc]
  refine (Function.update_of_ne (show 12 ≠ 4 * 4 by decide) (0xA5000000 ||| BOOTLOADER_VERNUM)
    ({ s with map := 0xFF, bootFlashMap := 0xFF, bootFlashMode := 0xFF } : Boot).countBoot.rtc).trans ?_
  rw [countBoot_word, countBoot_word]

variable (button) in
/-- One boot: the counter and the button decide between the configured firmware and another one. -/
theorem usual_boot (h : Usual md5 s) : (bootloaderTask md5 button s).2.spi = s.spi ∧
    (bootloaderTask md5 button s).2.rtc 12 = s.countBoot.rtc 12 ∧
    Ends md5 button s
      (if s.Forced button then otherFirmware md5 s.spi.flash else some (configuredPart s.spi.flash)) := by
  have hready := Boot.prepared_ready h.ok
  have hserved := h.unserved
  rw [← Boot.prepared_spi h.ok] at hserved
  obtain ⟨t, hrequest, htready, htspi, htrtc⟩ := requestedFirmware_unserved hready hserved
  rw [Boot.prepared_spi h.ok] at htspi
  rw [prepared_counter h.ok] at htrtc
  have htask : bootloaderTask md5 button s = configuredFirmware md5 button t := by
    rw [bootloaderTask_eq h.ok, if_neg (not_not.mpr h.configured), hrequest]
  have hinfo : t.bootInfo = bootInfoAt s.spi.flash := by rw [htready.info, htspi]
  obtain ⟨d, hd⟩ : ∃ d, configuredPart s.spi.flash = d := ⟨_, rfl⟩
  have hpart : wordPart t.bootInfo.bootPart = d := by rw [hinfo, ← hd, configuredPart]
  rw [configuredFirmware_eq (by rw [hinfo]; exact configured_and h.configured) hpart] at htask
  obtain ⟨u, hu⟩ : ∃ u, u = t.select d := ⟨_, rfl⟩
  have huready : u.Ready := hu ▸ htready.select
  have huspi : u.spi = s.spi := hu ▸ htspi
  have hurtc : u.rtc 12 = s.countBoot.rtc 12 := hu ▸ htrtc
  have hmap : u.bootFlashMap = bootMapAt s.spi.flash := by rw [huready.map, huspi]
  have hbranch : (button = true ∨ u.getRtcUserdata 3 &&& 0x0F ≥ 15) ↔ s.Forced button := by
    have hcount : u.getRtcUserdata 3 = s.countBoot.getRtcUserdata 3 := hurtc
    rw [hcount]
    rfl
  rw [← hu] at htask
  by_cases hforced : s.Forced button
  · rw [if_pos (hbranch.mpr hforced)] at htask
    obtain ⟨s', htry, honly, hram⟩ := tryOthers_first md5 huready d (scanOrder u.bootFlashMap)
    rw [hmap, huspi, ← hd] at htry hram
    have hother : (scanOrder (bootMapAt s.spi.flash)).find? (fun n => n ≠ configuredPart s.spi.flash ∧
        Bootable md5 s.spi.flash n) = otherFirmware md5 s.spi.flash := rfl
    rw [hother] at htry hram
    rw [hmap, ← hd, htry] at htask
    rw [if_pos hforced]
    cases ho : otherFirmware md5 s.spi.flash with
    | none =>
      rw [ho] at htask
      rw [htask]
      exact ⟨honly.spi.trans huspi, (congrFun honly.rtc 12).trans hurtc, congrArg Prod.fst htask⟩
    | some n =>
      rw [ho] at htask
      obtain ⟨r, hload⟩ := hram n ho
      refine ⟨?_, ?_, _, htask, exitOk_started (Image.entry s.spi.flash (partAddr n)) r hload⟩
      · rw [htask]
        exact honly.spi.trans huspi
      · rw [htask]
        exact (congrFun honly.rtc 12).trans hurtc
  · rw [if_neg (mt hbranch.mp hforced)] at htask
    have hboot := h.bootable
    rw [hd] at hboot
    have hcheck := checkLoadBinary_check md5 (n := d) huready
    rw [huspi, if_pos ⟨hboot.1, hboot.2.1⟩] at hcheck
    rw [hcheck] at htask
    simp only [if_pos hboot.2.2] at htask
    have hload : (u.checked d).ram = Image.load s.spi.flash (partAddr d) u.ram := by
      rw [Boot.checked_ram, huspi, if_pos ⟨hboot.1.1, hboot.1.2.1⟩]
    rw [if_neg hforced, hd]
    refine ⟨?_, ?_, _, htask, exitOk_started (Image.entry s.spi.flash (partAddr d)) u.ram hload⟩
    · rw [htask]
      exact u.checked_spi.trans huspi
    · rw [htask]
      exact (congrFun u.checked_rtc 12).trans hurtc

/-! ### A row of resets -/

variable (md5) in
/-- The second boot finds the counter the first has left. -/
def KeepsCounter (x y : Bool × Boot) : Prop := y.2.rtc 12 = (bootloaderTask md5 x.1 x.2).2.rtc 12

/-- Along a row of resets the counter counts. -/
theorem bootCount_row {ss : List (Bool × Boot)} (husual : ∀ x ∈ ss, Usual md5 x.2)
    (hrow : ss.IsChain (KeepsCounter md5)) (hpos : 0 < ss.length) {i : ℕ} (hi : i < ss.length) :
    ss[i].2.bootCount.toNat = (ss[0].2.bootCount.toNat + i) % 16 := by
  induction i with
  | zero => exact (Nat.mod_eq_of_lt (bootCount_lt _)).symm
  | succ i ih =>
    have hkeeps : KeepsCounter md5 ss[i] ss[i + 1] := List.isChain_iff_getElem.mp hrow i hi
    have hboot := usual_boot ss[i].1 (husual ss[i] (List.getElem_mem _))
    rw [bootCount_next (hkeeps.trans hboot.2.1), ih (by omega)]
    omega

/-- **A firmware that keeps resetting is left every sixteenth boot**: the boot that counts 15 takes the first other
firmware that is bootable, and so does one with the button pressed; every other boot takes the configured firmware.
None of them changes the flash. -/
theorem reset_loop (ss : List (Bool × Boot)) (husual : ∀ x ∈ ss, Usual md5 x.2)
    (hrow : ss.IsChain (KeepsCounter md5)) (hpos : 0 < ss.length) (i : ℕ) (hi : i < ss.length) :
    (bootloaderTask md5 ss[i].1 ss[i].2).2.spi = ss[i].2.spi ∧
    Ends md5 ss[i].1 ss[i].2
      (if ss[i].1 = true ∨ (ss[0].2.bootCount.toNat + i) % 16 = 15 then otherFirmware md5 ss[i].2.spi.flash
      else some (configuredPart ss[i].2.spi.flash)) := by
  obtain ⟨hspi, -, hends⟩ := usual_boot ss[i].1 (husual ss[i] (List.getElem_mem _))
  have hcount := bootCount_row husual hrow hpos hi
  have hforced : ss[i].2.Forced ss[i].1 ↔ ss[i].1 = true ∨ (ss[0].2.bootCount.toNat + i) % 16 = 15 := by
    rw [Boot.Forced, ge_iff_le, UInt32.le_iff_toNat_le, hcount]
    have hlow : (15 : UInt32).toNat = 15 := rfl
    rw [hlow]
    refine or_congr Iff.rfl ?_
    omega
  rw [if_congr hforced rfl rfl] at hends
  exact ⟨hspi, hends⟩

/-- A boot of the flash with two firmwares that finds the counter word `w`. -/
def bootCounting (w : UInt32) : Boot := .atReset App.bothFirmwares fun i => if i = 12 then w else 0

/-- A boot that counts 14, and the one after it. -/
def lastTwo : List (Bool × Boot) := [(false, bootCounting (BOOT_FW_MAGIC ||| 13)),
  (false, bootCounting ((bootloaderTask Md5.digest false (bootCounting (BOOT_FW_MAGIC ||| 13))).2.rtc 12))]

theorem bootCounting_counter (w : UInt32) : (bootCounting w).rtc 12 = w := by
  show (if 12 = 12 then w else 0) = w
  exact if_pos rfl

theorem bootCounting_keeps (w : UInt32) : KeepsCounter Md5.digest (false, bootCounting w)
    (false, bootCounting ((bootloaderTask Md5.digest false (bootCounting w)).2.rtc 12)) :=
  bootCounting_counter _

theorem bootCounting_usual (w : UInt32) : Usual Md5.digest (bootCounting w) := by
  have hboot : Bootable Md5.digest App.bothFirmwares (configuredPart App.bothFirmwares) := by decide +kernel
  have hrequest : (bootCounting w).getRtcUserdata 0 = 0 := by
    show (if 0 * 4 = 12 then w else 0) = 0
    exact if_neg (by decide)
  refine ⟨Boot.atReset_ok _ _, App.bothFirmwares_boot.1, hboot, fun h => ?_⟩
  have hword := h.1.1
  rw [hrequest] at hword
  exact absurd hword (by decide)

theorem reset_loop_lastTwo : (bootloaderTask Md5.digest lastTwo[1].1 lastTwo[1].2).2.spi = lastTwo[1].2.spi ∧
    Ends Md5.digest lastTwo[1].1 lastTwo[1].2
      (if lastTwo[1].1 = true ∨ (lastTwo[0].2.bootCount.toNat + 1) % 16 = 15 then
        otherFirmware Md5.digest lastTwo[1].2.spi.flash
      else some (configuredPart lastTwo[1].2.spi.flash)) := by
  refine reset_loop lastTwo ?_ (.cons_cons (bootCounting_keeps _) (.singleton _)) (by decide) 1 (by decide)
  rintro x (_ | ⟨_, _ | ⟨_, hx⟩⟩)
  · exact bootCounting_usual _
  · exact bootCounting_usual _
  · cases hx

end Esp8266At.Bootloader
