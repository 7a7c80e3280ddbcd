import Esp8266At.App.Command
import Esp8266At.Lib.Md5
import Esp8266At.Bootloader.Follows

/-!
# Requested boots

`AT+BOOT` leaves a request in an RTC word, and the next run of the bootloader takes it from there. The application
checks the range of the number together with the flag for a permanent choice, which is outside this range: it clears
the word where the flag is given. A command is honoured exactly if the flag is not given, or if the partition is the
default already and nothing forces another one (`request_honoured_iff`).
-/

namespace Esp8266At

open ByteSpace NorFlash Bootloader

/-! ### What is asked for -/

/-- The boot configuration names partition `n`. -/
def BootInfo.Names (n : Part) (b : BootInfo) : Prop := b.bootPart = magicWord n ∧ b.bootAddr = partAddr n

/-- What the boot configuration has to be afterwards. -/
def BootInfo.requested (permanent : Prop) [Decidable permanent] (n : Part) (b : BootInfo) : BootInfo :=
  if permanent then { b with bootAddr := partAddr n, bootPart := magicWord n } else b

/-- The run of the bootloader that begins in `b` honours a request for partition `n`. -/
def Honoured (md5 : List UInt8 → Digest) (button : Bool) (permanent : Prop) [Decidable permanent] (n : Part)
    (b : Boot) : Prop :=
  ∃ b', bootloaderTask md5 button b = (.start (Image.entry b.spi.flash (partAddr n)), b') ∧
    b'.Started b.spi.flash n ∧ b'.getRtcUserdata 0 = 0 ∧
    bootInfoAt b'.spi.flash = (bootInfoAt b.spi.flash).requested permanent n

theorem BootInfo.requested_eq_self {permanent : Prop} [Decidable permanent] {n : Part} {b : BootInfo}
    (hperm : permanent) : b.requested permanent n = b ↔ b.Names n := by
  unfold BootInfo.requested BootInfo.Names
  rw [if_pos hperm]
  constructor
  · intro h
    exact ⟨(congrArg BootInfo.bootPart h).symm, (congrArg BootInfo.bootAddr h).symm⟩
  · rintro ⟨hpart, haddr⟩
    rw [← hpart, ← haddr]

theorem BootInfo.requested_partMd5 {permanent : Prop} [Decidable permanent] {n : Part} (b : BootInfo) :
    (b.requested permanent n).partMd5 = b.partMd5 := by
  unfold BootInfo.requested
  split_ifs <;> rfl

namespace Bootloader

variable {md5 : List UInt8 → Digest} {s b b' : Boot} {button : Bool} {n : Part}

/-! ### Runs without a request -/

/-- A scan that leaves the digests as they were has recorded nothing. -/
theorem scanAll_bootInfo (h : s.Ready) {ns : List Part} (hns : ns.Nodup) (selected : Option (UInt32 × Part))
    (hsame : (scanAll md5 ns selected s).2.bootInfo.partMd5 = s.bootInfo.partMd5) :
    (scanAll md5 ns selected s).2.bootInfo = s.bootInfo := by
  induction ns generalizing s selected with
  | nil => rfl
  | cons k ns ih =>
    obtain ⟨hk, hns⟩ := List.nodup_cons.mp hns
    obtain ⟨t, x, hready, hinfo, hrest⟩ : ∃ t x, t.Ready ∧ t.bootInfo = (s.scanned md5 k).bootInfo ∧
        scanAll md5 (k :: ns) selected s = scanAll md5 ns x t := by
      cases selected with
      | some x => exact ⟨s.scanned md5 k, some x, h.scanned, rfl, scanAll_selected_cons h k ns x⟩
      | none =>
        rw [scanAll_none_cons h]
        split_ifs
        · exact ⟨_, _, h.scanned.select, rfl, rfl⟩
        · exact ⟨_, _, h.scanned, rfl, rfl⟩
    rw [hrest] at hsame ⊢
    have hkeep : (scanAll md5 ns x t).2.bootInfo.partMd5 k = t.bootInfo.partMd5 k :=
      scanAll_partMd5_keep md5 hready ns (Or.inl hk) x
    have hnone : ¬SoundAt s.spi.flash k ∨ DigestAt md5 s.spi.flash k := by
      by_contra hboth
      obtain ⟨hsound, hdigest⟩ := not_or.mp hboth
      refine hdigest ?_
      rw [DigestAt, ← h.info, ← hsame, hkeep, hinfo, Boot.scanned_partMd5_self h (not_not.mp hsound)]
    have hself : t.bootInfo = s.bootInfo := by
      rw [hinfo, s.scanned_eq_checked hnone, s.checked_bootInfo]
    rw [← hself] at hsame ⊢
    exact ih hready hns x hsame

/-- Without a request a run leaves the configuration as it was if it leaves the digests as they were. -/
theorem bootInfo_of_partMd5 (h : b.spi.AllOk) (hserved : ¬Served md5 b.spi.flash (b.getRtcUserdata 0))
    (hsame : (bootInfoAt (bootloaderTask md5 button b).2.spi.flash).partMd5 = (bootInfoAt b.spi.flash).partMd5) :
    bootInfoAt (bootloaderTask md5 button b).2.spi.flash = bootInfoAt b.spi.flash := by
  by_cases hscan : b.Scans md5 button
  · obtain ⟨t, hready, hspi, -, htask⟩ := bootloaderTask_scan h hscan
    have hend : (bootloaderTask md5 button b).2.spi =
        (scanAll md5 (scanOrder (bootMapAt b.spi.flash)) none t).2.spi := by
      rw [htask]
      rcases scanAll md5 (scanOrder (bootMapAt b.spi.flash)) none t with ⟨_ | ⟨e, k⟩, u⟩ <;> rfl
    have hinfo := (scanAll_frame md5 hready (scanOrder (bootMapAt b.spi.flash)) none).1.info
    have hstart := hready.info
    rw [hspi] at hstart
    rw [hend, ← hinfo, ← hstart] at hsame ⊢
    exact scanAll_bootInfo hready (scanOrder_sorted _).nodup none hsame
  · have hc : Configured b.spi.flash := by_contra fun hnot => hscan (Or.inl hnot)
    by_cases hforced : b.Forced button
    · obtain ⟨k, -, -, -, u, htask, -, hspi⟩ | ⟨-, u, htask, hspi⟩ := bootloaderTask_forced h hc hserved hforced
      · rw [htask, hspi]
      · rw [htask, hspi]
    · have hboot : Bootable md5 b.spi.flash (configuredPart b.spi.flash) :=
        by_contra fun hnot => hscan (Or.inr ⟨hserved, hforced, hnot⟩)
      obtain ⟨u, htask, -, hspi⟩ := bootloaderTask_configured h hc hserved hforced rfl hboot
      rw [htask, hspi]

/-- The request word stays as it is if there is no request and the configured firmware is started. -/
theorem requestWord_of_configured (h : b.spi.AllOk) (hc : Configured b.spi.flash)
    (hword : b.getRtcUserdata 0 &&& BOOT_FW_MAGIC_MASK ≠ BOOT_FW_MAGIC) (hforced : ¬b.Forced button)
    (hn : configuredPart b.spi.flash = n) (hboot : Bootable md5 b.spi.flash n) :
    (bootloaderTask md5 button b).2.getRtcUserdata 0 = b.getRtcUserdata 0 := by
  have hready := Boot.prepared_ready h
  have hspi := Boot.prepared_spi h
  have hinfo : b.prepared.bootInfo = bootInfoAt b.spi.flash := by rw [hready.info, hspi]
  have hnone : requestedFirmware md5 (b.getRtcUserdata 0) b.prepared = (none, b.prepared) := if_neg hword
  have hcount : ¬(button = true ∨ (b.prepared.select n).getRtcUserdata 3 &&& 0x0F ≥ 15) := by
    have hprepared := Boot.prepared_count h
    show ¬(button = true ∨ b.prepared.getRtcUserdata 3 &&& 0x0F ≥ 15)
    rw [hprepared]
    exact hforced
  have hcheck := checkLoadBinary_check md5 (n := n) (hready.select (n := n))
  have hflash : (b.prepared.select n).spi.flash = b.spi.flash := by
    show b.prepared.spi.flash = b.spi.flash
    rw [hspi]
  rw [hflash, if_pos ⟨hboot.1, hboot.2.1⟩] at hcheck
  have hzero : b.prepared.rtc 0 = b.rtc 0 := by
    show b.begun.readFlashMap.rtc 0 = b.rtc 0
    rw [Boot.readFlashMap_rtc (Boot.begun_ok h)]
    simp only [Boot.begun, Boot.setRtcUserdata, Function.update_of_ne (show 0 ≠ 4 * 4 by decide), Boot.countBoot_rtc,
      Function.update_of_ne (show 0 ≠ 12 by decide)]
  rw [bootloaderTask_eq h, if_neg (not_not.mpr hc), hnone]
  simp only
  rw [configuredFirmware_eq (n := n) (by rw [hinfo]; exact configured_and hc) (by rw [hinfo]; exact hn)]
  rw [if_neg hcount, hcheck]
  simp only [if_pos hboot.2.2]
  show ((b.prepared.select n).checked n).rtc 0 = b.rtc 0
  rw [Boot.checked_rtc]
  exact hzero

/-! ### The request word -/

/-- A request without the flag is honoured. -/
theorem honoured_of_request {permanent : Prop} [Decidable permanent] (hperm : ¬permanent) (h : b.spi.AllOk)
    (hword : b.rtc 0 = magicWord n) (hc : Configured b.spi.flash)
    (hallowed : ¬(bootMapAt b.spi.flash > 4 ∧ n.val % 2 ≠ 0)) (hboot : Bootable md5 b.spi.flash n) :
    Honoured md5 button permanent n b := by
  have hrequest : b.getRtcUserdata 0 = magicWord n := hword
  have hpart : wordPart (b.getRtcUserdata 0) = n := by rw [hrequest, wordPart_magicWord]
  have hmagic : magicWord n &&& BOOT_FW_MAGIC_MASK = BOOT_FW_MAGIC ∧ magicWord n &&& 0x08 ≠ 0x08 := by
    clear hpart hrequest hword hallowed hboot
    revert n
    decide
  have hserved : Served md5 b.spi.flash (b.getRtcUserdata 0) := by
    refine ⟨⟨by rw [hrequest]; exact hmagic.1, ?_⟩, ?_⟩
    · rw [hpart]
      exact hallowed
    · rw [hpart]
      exact hboot
  obtain ⟨b', htask, hstarted, hcleared, hflash⟩ := bootloaderTask_served button h hc hserved hpart.symm
  rw [hrequest, if_neg hmagic.2] at hflash
  refine ⟨b', htask, hstarted, hcleared, ?_⟩
  rw [hflash, BootInfo.requested, if_neg hperm]

/-- Where the word has been cleared instead, the partition has to be the default already. -/
theorem honoured_iff_of_cleared {permanent : Prop} [Decidable permanent] (hperm : permanent) (h : b.spi.AllOk)
    (hword : b.rtc 0 = 0) (hc : Configured b.spi.flash) (hboot : Bootable md5 b.spi.flash n) :
    Honoured md5 button permanent n b ↔ ¬b.Forced button ∧ (bootInfoAt b.spi.flash).Names n := by
  have hnone : b.getRtcUserdata 0 &&& BOOT_FW_MAGIC_MASK ≠ BOOT_FW_MAGIC := by
    show b.rtc 0 &&& BOOT_FW_MAGIC_MASK ≠ BOOT_FW_MAGIC
    rw [hword]
    decide
  have hserved : ¬Served md5 b.spi.flash (b.getRtcUserdata 0) := fun hs => hnone hs.1.1
  constructor
  · rintro ⟨b', htask, hstarted, -, hinfo⟩
    have hsame : bootInfoAt (bootloaderTask md5 button b).2.spi.flash = bootInfoAt b.spi.flash := by
      refine bootInfo_of_partMd5 h hserved ?_
      rw [htask]
      show (bootInfoAt b'.spi.flash).partMd5 = _
      rw [hinfo, BootInfo.requested_partMd5]
    rw [htask] at hsame
    have hnames := (BootInfo.requested_eq_self hperm).mp (hinfo.symm.trans hsame)
    have hpart : configuredPart b.spi.flash = n := by rw [configuredPart, hnames.1, wordPart_magicWord]
    refine ⟨fun hforced => ?_, hnames⟩
    -- the button or the counter ask for another partition
    obtain ⟨k, -, hne, -, u, hu, hk, -⟩ | ⟨-, u, hu, -⟩ := bootloaderTask_forced h hc hserved hforced
    · obtain ⟨-, rfl⟩ := Prod.mk.inj (htask.symm.trans hu)
      exact hne ((magicWord_injective (hk.running.symm.trans hstarted.running)).trans hpart.symm)
    · cases (Prod.mk.inj (htask.symm.trans hu)).1
  · rintro ⟨hforced, hnames⟩
    have hpart : configuredPart b.spi.flash = n := by rw [configuredPart, hnames.1, wordPart_magicWord]
    obtain ⟨b', htask, hstarted, hspi⟩ := bootloaderTask_configured h hc hserved hforced hpart hboot
    have hkept := requestWord_of_configured h hc hnone hforced hpart hboot
    rw [htask] at hkept
    refine ⟨b', htask, hstarted, hkept.trans hword, ?_⟩
    rw [hspi, (BootInfo.requested_eq_self hperm).mpr hnames]

end Bootloader

namespace App

variable {lib : LibAt} {md5 : List UInt8 → Digest} {pPara : List UInt8} {s : App} {n : Part}

/-- The last answer is `OK`. -/
def EndsOk (t s : App) : Prop := ∃ o, t.out = s.out ++ o ++ [.ok]

/-- The word `set_rtc_nextboot` stores for a number and the flag of the third parameter. -/
theorem setRtcNextboot_word {perm : UInt32} (hperm : perm = 0 ∨ perm = 8) :
    (s.setRtcNextboot ((UInt32.ofNat n.val).toUInt8.toUInt32 ||| perm).toUInt8).rtc 0 =
      if perm = 8 then 0 else magicWord n := by
  unfold setRtcNextboot
  rcases hperm with rfl | rfl
  · have hsmall : ¬((UInt32.ofNat n.val).toUInt8.toUInt32 ||| 0).toUInt8.toNat ≥ MAX_APP_PART := by
      revert n
      decide
    rw [if_neg hsmall, if_neg (by decide)]
    show BOOT_FW_MAGIC ||| (((UInt32.ofNat n.val).toUInt8.toUInt32 ||| 0).toUInt8 &&& 0x07).toUInt32 = magicWord n
    revert n
    decide
  · have hlarge : ((UInt32.ofNat n.val).toUInt8.toUInt32 ||| 8).toUInt8.toNat ≥ MAX_APP_PART := by
      revert n
      decide
    rw [if_pos hlarge, if_pos rfl]
    rfl

theorem bootParams_perm (lib : LibAt) (pPara : List UInt8) :
    (bootParams lib pPara).1.perm = 0 ∨ (bootParams lib pPara).1.perm = 8 := by
  unfold bootParams
  simp only
  split_ifs with hfirst hsecond hperm
  · exact Or.inl rfl
  · exact Or.inr (not_not.mp hperm)
  · exact Or.inl rfl
  · exact Or.inl rfl

/-- A command that is answered `OK` stores the word. -/
theorem requestWord_of_ok {q : BootParams} {rest : List UInt8} (hparams : bootParams lib pPara = (q, rest))
    (hn : q.bootapp = UInt32.ofNat n.val) (hok : EndsOk (s.atSetupCmdBoot lib pPara) s) :
    (s.atSetupCmdBoot lib pPara).rtc 0 = if q.perm = 8 then 0 else magicWord n := by
  have hperm : q.perm = 0 ∨ q.perm = 8 := by
    have := bootParams_perm lib pPara
    rw [hparams] at this
    exact this
  have herror : ¬EndsOk s.responseError s := by
    rintro ⟨o, ho⟩
    exact absurd (List.append_inj' ho rfl).2 (by decide)
  unfold atSetupCmdBoot at hok ⊢
  rw [hparams] at hok ⊢
  simp only at hok ⊢
  by_cases hend : charAt rest ≠ CR
  · rw [if_pos hend] at hok
    exact absurd hok herror
  rw [if_neg hend] at hok ⊢
  by_cases hrange : q.bootapp ≥ UInt32.ofNat MAX_APP_PART
  · rw [if_pos hrange] at hok
    exact absurd hok herror
  rw [if_neg hrange, ← setRtcNextboot_word (s := s) (n := n) hperm, hn]
  split_ifs <;> rfl

variable (md5) in
/-- **A request is honoured exactly if it is not permanent, or if the partition is the default already** and neither
the button nor the counter ask for another one. -/
theorem request_honoured_iff {q : BootParams} {rest : List UInt8} (hparams : bootParams lib pPara = (q, rest))
    (hn : q.bootapp = UInt32.ofNat n.val) (hok : EndsOk (s.atSetupCmdBoot lib pPara) s) {b : Boot}
    (hspi : b.spi.AllOk) (hrtc : b.rtc = (s.atSetupCmdBoot lib pPara).rtc) (hc : Configured b.spi.flash)
    (hallowed : ¬(bootMapAt b.spi.flash > 4 ∧ n.val % 2 ≠ 0)) (hboot : Bootable md5 b.spi.flash n) (button : Bool) :
    Honoured md5 button (q.perm = 8) n b ↔
      q.perm ≠ 8 ∨ (¬b.Forced button ∧ (bootInfoAt b.spi.flash).Names n) := by
  have hword := requestWord_of_ok hparams hn hok
  rw [← hrtc] at hword
  by_cases hperm : q.perm = 8
  · rw [if_pos hperm] at hword
    rw [honoured_iff_of_cleared hperm hspi hword hc hboot]
    exact (or_iff_right (not_not.mpr hperm)).symm
  · rw [if_neg hperm] at hword
    exact iff_of_true (honoured_of_request hperm hspi hword hc hallowed hboot) (Or.inl hperm)

/-- Two firmwares in a flash of 1 MB, the first of which is the default. -/
def bothFirmwares : Space := burn [(0, bootHeader 0 0x20), (partAddr 0, tinyImage 0x40100004 0 0x20 1),
  (partAddr 1, tinyImage 0x40100008 0 0x20 1),
  (BOOT_PARAM_ADDR, BootInfo.bytes
    { bootPart := magicWord 0
      bootAddr := partAddr 0
      partLength := fun _ => 52
      partMd5 := fun n => Md5.digest (tinyImage (if n.val = 0 then 0x40100004 else 0x40100008) 0 0x20 1)
      partType := fun _ => 0x20 })]

/-- The application that runs there. -/
def firstRunning : App := App.atReset bothFirmwares (fun i => if i = 4 then BOOT_FW_MAGIC else 0) 2

/-- `AT+BOOT=1,0,8`. -/
def permanentOne : List UInt8 := CString.ascii "=1,0,8\r"

/-- `AT+BOOT=1`. -/
def onceOne : List UInt8 := CString.ascii "=1\r"

/-- The machine at the reset after a command. -/
def bootAfter (pPara : List UInt8) : Boot := .atReset bothFirmwares (firstRunning.atSetupCmdBoot plainAt pPara).rtc

theorem bothFirmwares_boot : Configured bothFirmwares ∧ ¬(bootMapAt bothFirmwares > 4 ∧ (1 : Part).val % 2 ≠ 0) ∧
    Bootable Md5.digest bothFirmwares 1 ∧ (bootInfoAt bothFirmwares).bootPart ≠ magicWord 1 := by
  decide +kernel

theorem requests_facts :
    ((bootParams plainAt permanentOne).1.bootapp = UInt32.ofNat (1 : Part).val ∧
      (bootParams plainAt permanentOne).1.perm = 8 ∧
      (firstRunning.atSetupCmdBoot plainAt permanentOne).out = firstRunning.out ++ [] ++ [.ok]) ∧
    (bootParams plainAt onceOne).1.bootapp = UInt32.ofNat (1 : Part).val ∧
      (firstRunning.atSetupCmdBoot plainAt onceOne).out = firstRunning.out ++ [] ++ [.ok] := by
  decide +kernel

/-- Without the flag partition 1 is started. -/
theorem request_honoured_iff_onceOne :
    Honoured Md5.digest false ((bootParams plainAt onceOne).1.perm = 8) 1 (bootAfter onceOne) ↔
      (bootParams plainAt onceOne).1.perm ≠ 8 ∨
        (¬(bootAfter onceOne).Forced false ∧ (bootInfoAt (bootAfter onceOne).spi.flash).Names 1) := by
  obtain ⟨hc, hallowed, hboot, -⟩ := bothFirmwares_boot
  obtain ⟨-, hn, hok⟩ := requests_facts
  exact request_honoured_iff Md5.digest Prod.mk.eta.symm hn ⟨[], hok⟩ (Boot.atReset_ok _ _) rfl hc hallowed hboot
    false

/-- With the flag the request is lost, and partition 0 stays the default. -/
theorem not_request_honoured : EndsOk (firstRunning.atSetupCmdBoot plainAt permanentOne) firstRunning ∧
    (bootParams plainAt permanentOne).1.bootapp = UInt32.ofNat (1 : Part).val ∧
    (bootParams plainAt permanentOne).1.perm = 8 ∧ Configured (bootAfter permanentOne).spi.flash ∧
    ¬(bootMapAt (bootAfter permanentOne).spi.flash > 4 ∧ (1 : Part).val % 2 ≠ 0) ∧
    Bootable Md5.digest (bootAfter permanentOne).spi.flash 1 ∧
    ¬Honoured Md5.digest false ((bootParams plainAt permanentOne).1.perm = 8) 1 (bootAfter permanentOne) := by
  obtain ⟨hc, hallowed, hboot, hother⟩ := bothFirmwares_boot
  obtain ⟨⟨hn, hperm, hok⟩, -⟩ := requests_facts
  refine ⟨⟨[], hok⟩, hn, hperm, hc, hallowed, hboot, fun h => ?_⟩
  have hparams : bootParams plainAt permanentOne = (_, _) := Prod.mk.eta.symm
  have hword := requestWord_of_ok hparams hn ⟨[], hok⟩
  rw [if_pos hperm] at hword
  exact hother ((honoured_iff_of_cleared hperm (Boot.atReset_ok _ _) hword hc hboot).mp h).2.1

end App

end Esp8266At
