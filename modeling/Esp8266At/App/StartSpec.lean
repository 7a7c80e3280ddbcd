import Esp8266At.App.SessionRun
import Esp8266At.App.Command

/-!
# How a session starts

`update_setparams` chooses the target from the forced partition, or from the running one
(`targetAddr`), and `at_ota_start` opens a session for it (`startUpdate_opened`), unless an allocation,
the name lookup or an update that is still going on prevents it.
-/

namespace Esp8266At

open ByteSpace NorFlash

namespace App

variable {md5 : List UInt8 → Digest}

/-- The target `update_setparams` chooses: `fw_n` is the running partition and `flash_map` the map
recorded for it. -/
def targetAddr (forced : Option Part) (fw_n : UInt32) (flash_map : UInt8) : UInt32 :=
  match forced with
  | some p =>
    if flash_map < 5 then (UInt32.ofNat p.val * FW_PART_INC) + FW_PART_OFFSET
    else (UInt32.ofNat p.val * FW_PART_INC * 2) + FW_PART_OFFSET
  | none =>
    (if flash_map < 5 then (if fw_n = 0 then 1 else 0) else (if fw_n = 0 then 2 else 0)) * FW_PART_INC + FW_PART_OFFSET

/-- Targets start at a sector, and are low. -/
theorem targetAddr_bound (forced : Option Part) (fw_n : UInt32) (flash_map : UInt8) :
    (targetAddr forced fw_n flash_map).toNat % SECTOR_SIZE = 0 ∧
      (targetAddr forced fw_n flash_map).toNat ≤ 0x701000 := by
  cases forced with
  | none =>
    unfold targetAddr
    split_ifs <;> decide
  | some p =>
    unfold targetAddr
    split_ifs <;> revert p <;> decide

/-- The number of the running partition as `update_setparams` uses it. -/
def currFw (s : App) : UInt32 := UInt32.ofInt s.getRtcCurrFw

/-- The type recorded for the running partition. -/
def currType (s : App) : UInt8 := (bootInfoAt s.spi.flash).partTypeAt s.currFw

theorem map_or_mode (b : UInt8) : ((b >>> 4) <<< 4) ||| (b &&& 0x0F) = b := by
  revert b
  decide +kernel

/-- What `update_setparams` leaves when it succeeds. -/
def withTarget (host : String) (s : App) : App :=
  { s with spi := s.spi.skip 1, heap := s.heapTail, bootInfo := none, upgradeRemoteHost := host, updateForcedFw := none,
           upgradeFlashAddr := targetAddr s.updateForcedFw s.currFw (s.currType >>> 4),
           upgradeFlashMap := s.currType, indices := s.indices ++ [s.currFw, s.currFw] }

/-- The host an update is loaded from: the one that was set, or the default. -/
def targetHost (s : App) : String :=
  if s.upgradeRemoteHost.length = 0 then REMOTE_UPDATE_HOST else s.upgradeRemoteHost

theorem setTarget_eq (s : App) (fw_addr : UInt32) (type : UInt8) :
    s.setTarget fw_addr (type >>> 4) (type &&& 0x0F) =
      { s with bootInfo := none, upgradeRemoteHost := s.targetHost, upgradeFlashAddr := fw_addr,
               upgradeFlashMap := type } := by
  unfold setTarget targetHost
  rw [map_or_mode]
  split_ifs <;> rfl

/-- There is memory for the boot configuration, it can be read, and the running partition is not to
be updated. -/
def CanSetparams (s : App) : Prop :=
  s.heap 0 = true ∧ s.spi.results 0 = true ∧ ∀ p, s.updateForcedFw = some p → UInt32.ofNat p.val ≠ s.currFw

/-- `update_setparams` succeeds, or leaves the flash and the session alone. -/
theorem updateSetparams_spec (s : App) :
    (s.CanSetparams ∧ s.updateSetparams = (true, s.withTarget s.targetHost)) ∨
      (¬s.CanSetparams ∧ ∃ heap d idx, s.updateSetparams =
        (false, { s with spi := d, heap := heap, bootInfo := none, indices := s.indices ++ idx }) ∧
        d.log = s.spi.log ∧ d.base = s.spi.base) := by
  have hread := s.readBootInfo_after 0 s.out
  rw [after_zero] at hread
  unfold updateSetparams
  by_cases hheap : s.heap 0 = true
  swap
  · rw [if_neg hheap] at hread
    rw [hread]
    refine Or.inr ⟨fun h => hheap h.1, s.heapTail, s.spi, [], ?_, rfl, rfl⟩
    rw [List.append_nil]
    rfl
  rw [if_pos hheap] at hread
  by_cases hres : s.spi.results 0 = true
  swap
  · rw [if_neg hres] at hread
    rw [hread]
    refine Or.inr ⟨fun h => hres h.2.1, s.heapTail, s.spi.skip 1, [], ?_, rfl, rfl⟩
    rw [List.append_nil]
    rfl
  rw [if_pos hres] at hread
  rw [hread]
  -- the boot configuration has been read
  set r := (s.withBoot s.heapTail (some (bootInfoAt s.spi.flash))).after (0 + 1) s.out with hr
  have hboot : r.bootInfo = some (bootInfoAt s.spi.flash) := rfl
  have hforced : r.updateForcedFw = s.updateForcedFw := rfl
  simp only [hboot, show UInt32.ofInt r.getRtcCurrFw = s.currFw from rfl, hforced,
    show (bootInfoAt s.spi.flash).partTypeAt s.currFw = s.currType from rfl]
  cases hf : s.updateForcedFw with
  | none =>
    have hnone : r = { r with updateForcedFw := none } := by rw [← hf]; rfl
    have ht := setTarget_eq { r with indices := s.indices ++ [s.currFw, s.currFw], updateForcedFw := none }
      (targetAddr none s.currFw (s.currType >>> 4)) s.currType
    refine Or.inl ⟨⟨hheap, hres, by rw [hf]; exact fun _ h => nomatch h⟩, ?_⟩
    rw [withTarget, hf]
    rw [hnone]
    exact congrArg (Prod.mk true) ht
  | some p =>
    by_cases hsame : UInt32.ofNat p.val ≠ s.currFw
    · have ht := setTarget_eq { r with indices := s.indices ++ [s.currFw, s.currFw], updateForcedFw := none }
        (targetAddr (some p) s.currFw (s.currType >>> 4)) s.currType
      refine Or.inl ⟨⟨hheap, hres, by rw [hf]; rintro _ ⟨⟩; exact hsame⟩, ?_⟩
      rw [withTarget, hf]
      simp only [if_pos hsame]
      exact congrArg (Prod.mk true) ht
    · simp only [if_neg hsame]
      exact Or.inr ⟨fun h => hsame (h.2.2 p hf), s.heapTail, s.spi.skip 1, [s.currFw, s.currFw], rfl, rfl, rfl⟩

/-! ### Opening a session -/

/-- The session `at_ota_start` opens. -/
def openedStatus (callback : OtaCallback) (s : App) : UpgradeStatus where
  flashAddr := s.upgradeFlashAddr
  callback := callback
  totalLen := 0
  conn := some s.nextConn
  buffer := ⟨[], Nat.zero_le _⟩
  error := .ok

/-- The application in which `at_ota_start` has opened a session. -/
def opening (callback : OtaCallback) (heap : ℕ → Bool) (out : List Output) (timer : Option OtaTimer) (s : App) : App :=
  { s with heap := heap, out := out, otaTimer := timer, upgrade := .live (s.openedStatus callback),
           nextConn := s.nextConn + 1, upgradeCheckResponse := none, upgradeFlag := .start, upgradeContentLen := 0 }

theorem debug_upgrade (s : App) (m : String) : (s.debug m).upgrade = s.upgrade := by
  obtain ⟨o, ho⟩ := s.debug_out m
  rw [ho]
  rfl

/-- A start that has failed: the session structure is gone or was never made. -/
def unopened (heap : ℕ → Bool) (out : List Output) (upgrade : UpgradePtr) (s : App) : App :=
  { s with heap := heap, out := out, upgrade := upgrade }

/-- There is memory for the four structures of a session. -/
def CanAllocate (s : App) : Prop := s.heap 0 = true ∧ s.heap 1 = true ∧ s.heap 2 = true ∧ s.heap 3 = true

variable (md5) in
/-- `at_ota_start` opens a session, or fails: because a session has been started already, or for lack of
memory, or because of the name lookup. -/
theorem atOtaStart_spec (s : App) (callback : OtaCallback) (dns : DnsResult) :
    (s.upgradeFlag = .start ∧ ∃ out, s.atOtaStart md5 callback dns = (false, s.printed out)) ∨
    (s.upgradeFlag ≠ .start ∧ s.heap 0 = false ∧
      ∃ out, s.atOtaStart md5 callback dns = (false, s.unopened s.heapTail out .null)) ∨
    (s.upgradeFlag ≠ .start ∧ s.heap 0 = true ∧ ¬s.CanAllocate ∧
      ∃ heap out, s.atOtaStart md5 callback dns = (false, s.unopened heap out .freed)) ∨
    (s.upgradeFlag ≠ .start ∧ s.CanAllocate ∧ dns = .failed ∧
      ∃ heap out, s.atOtaStart md5 callback dns =
        (false, (s.opening callback heap out s.otaTimer).unopened heap out .freed)) ∨
    (s.upgradeFlag ≠ .start ∧ s.CanAllocate ∧ dns ≠ .failed ∧
      ∃ heap out, s.atOtaStart md5 callback dns =
        (true, s.opening callback heap out (if dns = .ok then some .connectTimeout else s.otaTimer))) := by
  unfold atOtaStart
  by_cases hflag : s.upgradeFlag = .start
  · obtain ⟨o, ho⟩ := s.debug_out "Already started !\r\n"
    rw [if_pos hflag, ho]
    exact Or.inl ⟨hflag, o, rfl⟩
  rw [if_neg hflag]
  refine Or.inr ?_
  cases h0 : s.heap 0 with
  | false =>
    obtain ⟨o, ho⟩ := ({ s with heap := s.heapTail, upgrade := .null } : App).debug_out
      "No ram for upgrade structure!\r\n"
    exact Or.inl ⟨hflag, rfl, o, by
      simp only [zalloc, h0]
      exact congrArg (Prod.mk false) ho⟩
  | true =>
  refine Or.inr ?_
  -- the structure exists from here on
  have unopenedFor : ∀ (k : ℕ) (m : String), ∃ heap out,
      ({ s with heap := fun j => s.heap (j + k), upgrade := .freed } : App).debug m = s.unopened heap out .freed := by
    intro k m
    obtain ⟨o, ho⟩ := ({ s with heap := fun j => s.heap (j + k), upgrade := .freed } : App).debug_out m
    exact ⟨_, o, ho⟩
  cases h1 : s.heap 1 with
  | false =>
    obtain ⟨heap, o, ho⟩ := unopenedFor 2 "No ram for sector buffer!\r\n"
    refine Or.inl ⟨hflag, rfl, fun h => Bool.false_ne_true (h1.symm.trans h.2.1), heap, o, ?_⟩
    simp only [zalloc, h0, h1]
    exact congrArg (Prod.mk false) ho
  | true =>
  cases h2 : s.heap 2 with
  | false =>
    obtain ⟨heap, o, ho⟩ := unopenedFor 3 "No ram for espconn structure!\r\n"
    refine Or.inl ⟨hflag, rfl, fun h => Bool.false_ne_true (h2.symm.trans h.2.2.1), heap, o, ?_⟩
    simp only [zalloc, h0, h1, h2, Nat.reduceAdd]
    exact congrArg (Prod.mk false) ho
  | true =>
  cases h3 : s.heap 3 with
  | false =>
    obtain ⟨heap, o, ho⟩ := unopenedFor 4 "No ram protocol structure!\r\n"
    refine Or.inl ⟨hflag, rfl, fun h => Bool.false_ne_true (h3.symm.trans h.2.2.2), heap, o, ?_⟩
    simp only [zalloc, h0, h1, h2, h3, Nat.reduceAdd]
    exact congrArg (Prod.mk false) ho
  | true =>
    have halloc : s.CanAllocate := ⟨h0, h1, h2, h3⟩
    refine Or.inr ?_
    simp only [zalloc, h0, h1, h2, h3, Nat.reduceAdd]
    cases dns with
    | ok =>
      obtain ⟨o, ho⟩ := upgradeResolved_found md5
        (s.opening callback (fun k => s.heap (k + 4)) s.out s.otaTimer) s.spi
        (fun k => s.heap (k + 4)) s.out (s.openedStatus callback) s.otaTimer 0
      exact Or.inr ⟨hflag, halloc, by decide, fun k => s.heap (k + 4), o, congrArg (Prod.mk true) ho⟩
    | inProgress => exact Or.inr ⟨hflag, halloc, by decide, fun k => s.heap (k + 4), s.out, rfl⟩
    | failed =>
      obtain ⟨o, ho⟩ := (s.opening callback (fun k => s.heap (k + 4)) s.out s.otaTimer).debug_out "DNS error!\r\n"
      refine Or.inl ⟨hflag, halloc, rfl, fun k => s.heap (k + 4), o, ?_⟩
      exact congrArg (fun t : App => (false, { t with upgrade := .freed })) ho

end App

end Esp8266At
