import Esp8266At.NextBoot
import Esp8266At.App.Containment
import Esp8266At.Bootloader.Stability

/-!
# Power losses

An update writes the target partition sector by sector, and then the boot-parameter sector. Wherever the power is
lost, and however often it is lost again while the bootloader runs, the running firmware is still there: some
firmware is started in the end (`starts_after_power_loss`). As long as the boot-parameter sector has not been
erased, it is the one that was running.
-/

namespace Esp8266At

open ByteSpace NorFlash Machine

namespace Bootloader

variable {md5 : List UInt8 → Digest} {f g : Space} {s t u : Boot} {button : Bool} {n : Part}

/-! ### What a run writes -/

/-- From `s` to `t`, the bootloader writes to the boot-parameter sector only. -/
structure Boot.Saves (s t : Boot) : Prop where
  base : t.spi.base = s.spi.base
  log : ∃ ops, t.spi.log = s.spi.log ++ ops ∧ Confined SECTOR_SIZE bootSector ops

namespace Boot.Saves

theorem of_spi (h : t.spi = s.spi) : s.Saves t where
  base := by rw [h]
  log := ⟨[], by rw [h, List.append_nil], confined_nil _⟩

theorem trans (h : s.Saves t) (h' : t.Saves u) : s.Saves u := by
  obtain ⟨hbase, xs, hlog, hxs⟩ := h
  obtain ⟨hbase', ys, hlog', hys⟩ := h'
  refine ⟨hbase'.trans hbase, xs ++ ys, ?_, confined_append.mpr ⟨hxs, hys⟩⟩
  rw [hlog', hlog, List.append_assoc]

theorem of_saveOps {b : BootInfo} (hbase : t.spi.base = s.spi.base) (hlog : t.spi.log = s.spi.log ++ saveOps b) :
    s.Saves t := ⟨hbase, _, hlog, saveOps_touches b⟩

/-- What a power loss in the run leaves. -/
theorem torn (h : s.Saves t) {ops : List Op} (hlog : t.spi.log = s.spi.log ++ ops)
    (htorn : Torn SECTOR_SIZE ops s.spi.flash g) : AgreeOff s.spi.flash g := by
  obtain ⟨-, ops', hlog', hops⟩ := h
  obtain rfl := List.append_cancel_left (hlog.symm.trans hlog')
  exact fun x hx => (hops.torn htorn hx).symm

end Boot.Saves

theorem saves_scanned (s : Boot) : s.Saves (s.scanned md5 n) := by
  unfold Boot.scanned
  split_ifs
  · have hchecked : s.Saves (s.checked n) := .of_spi s.checked_spi
    exact hchecked.trans (.of_saveOps rfl rfl)
  · exact .of_spi s.checked_spi

theorem saves_scanAll (h : s.Ready) (ns : List Part) (selected : Option (UInt32 × Part)) :
    s.Saves (scanAll md5 ns selected s).2 := by
  have hkeep : (scanAll md5 ns selected s).2.Ready ∧ s.Saves (scanAll md5 ns selected s).2 :=
    scanAll_preserves (P := fun t => t.Ready ∧ s.Saves t) (fun _ ht => ht.1)
      (fun n _ t ht => ⟨ht.1.scanned, ht.2.trans (saves_scanned t)⟩)
      (fun t map ht => ⟨ht.1.of_eq rfl rfl rfl, ht.2.trans (.of_spi rfl)⟩) selected ⟨h, .of_spi rfl⟩
  exact hkeep.2

/-- A request that is served writes at most the new default. -/
theorem saves_served (h : s.spi.AllOk) (hc : Configured s.spi.flash)
    (hserved : Served md5 s.spi.flash (s.getRtcUserdata 0)) : s.Saves (bootloaderTask md5 button s).2 := by
  obtain ⟨⟨hword, hallowed⟩, hboot⟩ := hserved
  rw [bootloaderTask_eq h, if_neg (not_not.mpr hc)]
  generalize s.getRtcUserdata 0 = w at hword hallowed hboot ⊢
  generalize hn : wordPart w = n at hallowed hboot
  set t : Boot := { s.prepared with map := s.prepared.bootInfo.partType n }.setRtcUserdata 0 0 with ht
  have hready : t.Ready := (Boot.prepared_ready h).of_eq rfl rfl rfl
  have hspi : t.spi = s.spi := Boot.prepared_spi h
  have hcheck := checkLoadBinary_check md5 (n := n) hready
  rw [hspi, if_pos ⟨hboot.1, hboot.2.1⟩] at hcheck
  have hmap : s.prepared.bootFlashMap = bootMapAt s.spi.flash := by
    rw [(Boot.prepared_ready h).map, Boot.prepared_spi h]
  have hallowed' : ¬(s.prepared.bootFlashMap > 4 ∧ n.val % 2 ≠ 0) := by rwa [hmap]
  have hchecked : (t.checked n).spi = s.spi := by rw [Boot.checked_spi, hspi]
  have hok : (t.checked n).spi.AllOk := by rw [hchecked]; exact h
  simp only [requestedFirmware, if_pos hword, hn, if_pos hallowed', ← ht, hcheck, if_pos hboot.2.2]
  by_cases hperm : w &&& 0x08 = 0x08
  · simp only [if_pos hperm]
    rw [spiErase_write (by exact hok)]
    have hsame : s.Saves (t.checked n) := .of_spi hchecked
    exact hsame.trans (.of_saveOps rfl rfl)
  · simp only [if_neg hperm]
    exact .of_spi hchecked

/-- A run of the bootloader writes to the boot-parameter sector only. -/
theorem bootloaderTask_saves (h : s.spi.AllOk) : s.Saves (bootloaderTask md5 button s).2 := by
  by_cases hscan : s.Scans md5 button
  · obtain ⟨t, hready, hspi, -, htask⟩ := bootloaderTask_scan h hscan
    have hend : (bootloaderTask md5 button s).2.spi =
        (scanAll md5 (scanOrder (bootMapAt s.spi.flash)) none t).2.spi := by
      rw [htask]
      rcases scanAll md5 (scanOrder (bootMapAt s.spi.flash)) none t with ⟨_ | ⟨e, k⟩, u⟩ <;> rfl
    have hscanned : s.Saves (scanAll md5 (scanOrder (bootMapAt s.spi.flash)) none t).2 :=
      (Boot.Saves.of_spi hspi).trans (saves_scanAll hready _ none)
    exact hscanned.trans (.of_spi hend)
  · have hc : Configured s.spi.flash := by_contra fun hnot => hscan (Or.inl hnot)
    by_cases hserved : Served md5 s.spi.flash (s.getRtcUserdata 0)
    · exact saves_served h hc hserved
    · by_cases hforced : s.Forced button
      · obtain ⟨k, -, -, -, u, htask, -, hspi⟩ | ⟨-, u, htask, hspi⟩ := bootloaderTask_forced h hc hserved hforced
        · rw [htask]
          exact .of_spi hspi
        · rw [htask]
          exact .of_spi hspi
      · have hboot : Bootable md5 s.spi.flash (configuredPart s.spi.flash) :=
          by_contra fun hnot => hscan (Or.inr ⟨hserved, hforced, hnot⟩)
        obtain ⟨u, htask, -, hspi⟩ := bootloaderTask_configured h hc hserved hforced rfl hboot
        rw [htask]
        exact .of_spi hspi

/-- The power is lost in a run of the bootloader from `f`, at the end of it at the latest. -/
def Interrupted (md5 : List UInt8 → Digest) (f g : Space) : Prop :=
  ∃ (button : Bool) (s : Boot) (ops : List Op), s.spi.AllOk ∧ s.spi.flash = f ∧
    (bootloaderTask md5 button s).2.spi.log = s.spi.log ++ ops ∧ Torn SECTOR_SIZE ops f g

theorem Interrupted.agreeOff (h : Interrupted md5 f g) : AgreeOff f g := by
  obtain ⟨button, s, ops, hok, rfl, hlog, htorn⟩ := h
  exact (bootloaderTask_saves hok).torn hlog htorn

/-- However often the power is lost. -/
theorem agreeOff_of_interrupted (h : Relation.ReflTransGen (Interrupted md5) f g) : AgreeOff f g := by
  induction h with
  | refl => exact .refl f
  | tail _ hstep ih => exact ih.trans hstep.agreeOff

/-- With a startable image that is clear of the boot-parameter sector, a plain run starts some image. -/
theorem starts_of_startable (hplain : s.Plain) (hn : n ∈ scanOrder (bootMapAt s.spi.flash))
    (hstart : Startable s.spi.flash n) (hclear : ClearOf s.spi.flash n) : ∃ p, Starts md5 false s p := by
  have hserved : ¬Served md5 s.spi.flash (s.getRtcUserdata 0) := hplain.not_served
  by_cases hscan : s.Scans md5 false
  · obtain ⟨p, -, hp⟩ := starts_of_scan hplain.ok hscan hn hstart hclear
    exact ⟨p, hp⟩
  · obtain ⟨hc, hpath⟩ := not_or.mp hscan
    have hboot : Bootable md5 s.spi.flash (configuredPart s.spi.flash) :=
      not_not.mp fun hboot => hpath ⟨hserved, hplain.count, hboot⟩
    obtain ⟨u, htask, hstarted, -⟩ :=
      bootloaderTask_configured hplain.ok (not_not.mp hc) hserved hplain.count rfl hboot
    exact ⟨_, .of_started hboot htask hstarted⟩

end Bootloader

open Bootloader

namespace App

variable {md5 : List UInt8 → Digest} {x s₀ t : App} {cs : List (List UInt8)} {r : Part} {f : Space}

/-! ### What an update writes -/

/-- What an update and the bootloader may write. -/
def mayChange (flash_map : UInt8) (addr : UInt32) (running : ℤ) : Set UInt32 :=
  {a | MayWrite flash_map addr running a ∨ a ∈ bootSector}

theorem Downloaded.kept {d : Spi} (h : Downloaded s₀ cs d) : Written s₀ cs d := by
  obtain ⟨hbase, ps, hlog, -, hpieces, hfits, -⟩ := h
  exact ⟨hbase, ps, _, hlog, List.prefix_rfl, hpieces, hfits⟩

variable (md5) in
/-- `check_firmware` writes to the boot-parameter sector only. -/
theorem checkFirmware_saves (s : App) (n : UInt8) : ∃ ops, (checkFirmware md5 n s).2.spi.log = s.spi.log ++ ops ∧
    Confined SECTOR_SIZE bootSector ops := by
  obtain ⟨hno, hyes⟩ := checkFirmware_spec md5 s n
  by_cases h : s.Checks md5
  · obtain ⟨t, ht, hc⟩ := hyes h
    have hsave := saveOps_touches (s.newRecord md5 n)
    rw [ht]
    refine ⟨_, hc.log, ?_⟩
    split_ifs
    · exact hsave
    · exact Confined.initial hsave ⟨_, rfl⟩
    · exact confined_nil _
  · obtain ⟨t, ht, hc⟩ := hno h
    rw [ht]
    exact ⟨_, hc.log, confined_nil _⟩

/-- What a session has done to the flash at any time. -/
theorem Outcome.confined (h0 : s₀.Opened) (h : Outcome md5 s₀ cs t) {flash_map : UInt8} {running : ℤ}
    (htarget : s₀.upgradeFlashAddr = targetAddr none (UInt32.ofInt running) flash_map)
    (hmoderate : Moderate flash_map running cs) : ∃ ops, t.spi.log = s₀.spi.log ++ ops ∧
      Confined SECTOR_SIZE (mayChange flash_map s₀.upgradeFlashAddr running) ops := by
  rcases h with ⟨hw, -⟩ | ⟨c, v, w, hd, -, -, hcheck, hspi, -⟩
  · obtain ⟨ops, hlog, hops⟩ := hw.contained h0 htarget hmoderate
    exact ⟨ops, hlog, fun op hop a ha => Or.inl (hops op hop a ha)⟩
  · obtain ⟨ops, hlog, hops⟩ := hd.kept.contained h0 htarget hmoderate
    obtain ⟨saves, hlog', hsaves⟩ := checkFirmware_saves md5 c (fwNumber s₀.upgradeFlashAddr).toUInt8
    rw [hcheck, hlog, List.append_assoc] at hlog'
    refine ⟨ops ++ saves, by rw [hspi, hlog'], confined_append.mpr ⟨?_, ?_⟩⟩
    · exact fun op hop a ha => Or.inl (hops op hop a ha)
    · exact fun op hop a ha => Or.inr (hsaves op hop ha)

theorem moderate_of_shorter {flash_map : UInt8} {running : ℤ} {cs' : List (List UInt8)}
    (h : Moderate flash_map running cs') (hp : cs <+: cs') : Moderate flash_map running cs := by
  rcases cs with _ | ⟨c, cs⟩
  · exact Or.inl (Nat.zero_le _)
  · obtain ⟨ds, rfl⟩ := hp
    exact h

/-! ### The running firmware -/

/-- Firmware `r` runs, its image can be started, and lies inside of its partition. -/
structure Runs (r : Part) (x : App) : Prop where
  running : x.getRtcCurrFw = r.val
  map : x.currType >>> 4 = bootMapAt x.spi.flash
  scanned : r ∈ scanOrder (bootMapAt x.spi.flash)
  startable : Startable x.spi.flash r
  inside : ∀ a ∈ Image.reads x.spi.flash (partAddr r), InPartition (bootMapAt x.spi.flash) (partAddr r) a

namespace Runs

theorem notIn (h : x.Runs r) {a : UInt32} (ha : InPartition (bootMapAt x.spi.flash) (partAddr r) a) :
    a ∉ bootSector := by
  intro hboot
  have hin := mem_bootSector.mp hboot
  have haddr := partAddr_toNat r
  have heven := (mem_scanOrder.mp h.scanned).2.2
  unfold InPartition otaSize at ha
  split_ifs at ha with hbig
  · have := heven hbig
    omega
  · omega

theorem clearOf (h : x.Runs r) : ClearOf x.spi.flash r := fun _ ha => h.notIn (h.inside _ ha)

variable {addr : UInt32}

/-- The image of the running firmware is not written to. -/
theorem image (h : x.Runs r) {a : UInt32} (ha : a ∈ Image.reads x.spi.flash (partAddr r)) :
    a ∉ mayChange (x.currType >>> 4) addr x.getRtcCurrFw := by
  have hin := h.inside a ha
  rintro (hwrite | hboot)
  · refine hwrite.others r h.running ?_
    rw [h.map]
    exact hin
  · exact h.notIn hin hboot

/-- What an update with an automatic target leaves of the running firmware. -/
theorem kept (h : x.Runs r) (hsame : ∀ a,
      a ∉ mayChange (x.currType >>> 4) (targetAddr none (UInt32.ofInt x.getRtcCurrFw) (x.currType >>> 4))
        x.getRtcCurrFw → f a = x.spi.flash a) :
    bootMapAt f = bootMapAt x.spi.flash ∧ Image.Same x.spi.flash f (partAddr r) := by
  have htarget := automatic_target (UInt32.ofInt x.getRtcCurrFw) (x.currType >>> 4)
  constructor
  · refine bootMapAt_congr fun a ha => hsame a ?_
    have hlow := (mem_span_iff_of_le (by decide)).mp ha
    have h0 : (0 : UInt32).toNat = 0 := rfl
    rintro (hwrite | hboot)
    · have := hwrite.target.1
      split_ifs at htarget <;> omega
    · have := mem_bootSector.mp hboot
      omega
  · exact Image.same_of_reads fun a ha => (hsame a (h.image ha)).symm

end Runs

/-! ### The power loss -/

variable {lib : LibAt} {dns : DnsResult} {es : List NetEvent} {ops : List Op} {s : App} {y : Tracked}

/-- An update with an automatic target that has room for the announced length, and what it has done to the flash. -/
structure Updates (lib : LibAt) (md5 : List UInt8 → Digest) (dns : DnsResult) (es : List NetEvent) (ops : List Op)
    (x : App) : Prop where
  running : x.crashed = false
  free : x.busy = false
  automatic : x.updateForcedFw = none
  opens : ∃ u, (x.execute lib md5 (.update dns)).upgrade = .live u
  moderate : Moderate (x.currType >>> 4) x.getRtcCurrFw (received es)
  log : ((x.execute lib md5 (.update dns)).run md5 es).spi.log = x.spi.log ++ ops

theorem Updates.confined (h : x.Updates lib md5 dns es ops) (hidle : ∀ u, x.upgrade ≠ .live u) :
    Confined SECTOR_SIZE (mayChange (x.currType >>> 4)
      (targetAddr none (UInt32.ofInt x.getRtcCurrFw) (x.currType >>> 4)) x.getRtcCurrFw) ops := by
  obtain ⟨u, hopen⟩ := h.opens
  obtain ⟨h0, htarget⟩ := update_opened lib md5 h.running h.free hidle hopen
  obtain ⟨heap, out, timer, heq⟩ := update_opening lib md5 h.free hidle hopen
  have hlog₀ : (x.execute lib md5 (.update dns)).spi.log = x.spi.log := by
    rw [heq]
    rfl
  rw [h.automatic] at htarget
  obtain ⟨cs, hcs, hout⟩ : ∃ cs, cs <+: received es ∧ Outcome md5 _ cs _ := run_outcome h0 es
  obtain ⟨ops', hlog, hops⟩ := hout.confined h0 htarget (moderate_of_shorter h.moderate hcs)
  rw [h.log, hlog₀] at hlog
  obtain rfl := List.append_cancel_left hlog
  rw [htarget] at hops
  exact hops

variable (lib md5) in
/-- **A power loss during an update leaves a device that starts**: wherever it happens, and however often the power
is lost again while the bootloader runs, some firmware is started in the end. -/
theorem starts_after_power_loss (hs : ∀ u, s.upgrade ≠ .live u) (actions : List UpdateAction)
    (hy : Machine.run (Tracked.next lib md5) actions (Tracked.atReset s) = y) (hr : y.app.Runs r)
    (h : y.app.Updates lib md5 dns es ops) (hf : Torn SECTOR_SIZE ops y.app.spi.flash f) {b : Boot}
    (hboots : Relation.ReflTransGen (Interrupted md5) f b.spi.flash) (hb : b.Plain) : ∃ p, Starts md5 false b p := by
  have hsessions : y.Sessions :=
    hy ▸ run_invariant (fun a z hz => Tracked.sessions_next lib md5 hz a) (Tracked.sessions_atReset hs)
  have hconfined := h.confined (hsessions.idle h.running h.free)
  obtain ⟨hmap, hsame⟩ := hr.kept fun a ha => hconfined.torn hf ha
  have hclear : ClearOf f r := by
    intro a ha
    rw [← hsame.reads] at ha
    exact hr.clearOf a ha
  have hstart : Startable f r := by
    refine ⟨?_, ?_⟩
    · rw [SoundAt, hmap]
      exact (hsame.sound _).mp hr.startable.1
    · rw [← hsame.entry]
      exact hr.startable.2
  have hagree := agreeOff_of_interrupted hboots
  refine starts_of_startable hb ?_ ((hagree.startable hclear).mp hstart) (hagree.clearOf hclear)
  rw [← hagree.bootMapAt, hmap]
  exact hr.scanned

/-- An update that is started in partition 0 and has received all of a new firmware. -/
def firmwareUpdate : App :=
  (firstRunning.execute plainAt Md5.digest (.update .ok)).run Md5.digest [Tracked.firmwareReply]

theorem firstRunning_runs : firstRunning.Runs 0 := by
  refine ⟨by decide +kernel, by decide +kernel, by decide +kernel, by decide +kernel, fun a ha => ?_⟩
  have hinside : Image.Inside bothFirmwares (partAddr 0) 52 := by
    refine Image.inside_of_bounds ?_ ?_ ?_ ?_ ?_ <;> decide +kernel
  have hin := (mem_span_iff_of_le (by decide)).mp (hinside ha)
  have hle : 52 ≤ otaSize (bootMapAt firstRunning.spi.flash) := by
    unfold otaSize
    split_ifs <;> omega
  exact ⟨hin.1, by omega⟩

theorem firmwareUpdate_facts :
    (announced (received [Tracked.firmwareReply])).toNat ≤
      room (firstRunning.currType >>> 4) firstRunning.getRtcCurrFw ∧
    firmwareUpdate.spi.log.take 1 = [.erase 0x81] ∧ DefaultBoots Md5.digest bothFirmwares ∧
      configuredPart bothFirmwares = 0 := by
  refine ⟨?_, ?_, ⟨?_, ?_⟩, ?_⟩ <;> decide +kernel

theorem firmwareUpdate_updates :
    firstRunning.Updates plainAt Md5.digest .ok [Tracked.firmwareReply] firmwareUpdate.spi.log := by
  have hlog : firstRunning.spi.log = [] := rfl
  refine ⟨rfl, rfl, rfl, ⟨_, rfl⟩, Or.inl firmwareUpdate_facts.1, ?_⟩
  rw [hlog, List.nil_append, firmwareUpdate]

theorem torn_after (n : ℕ) (ops : List Op) (g : Space) :
    Torn SECTOR_SIZE ops g (applyAll SECTOR_SIZE (ops.take n) g) :=
  ⟨ops.take n, ops.drop n, (List.take_append_drop n ops).symm, fun _ _ => rfl⟩

/-- The power is lost after the first operation. -/
theorem starts_after_power_loss_firmwareUpdate : ∃ p, Starts Md5.digest false
    (.atReset (applyAll SECTOR_SIZE (firmwareUpdate.spi.log.take 1) bothFirmwares) fun _ => 0) p := by
  have htorn := torn_after 1 firmwareUpdate.spi.log bothFirmwares
  generalize applyAll SECTOR_SIZE (firmwareUpdate.spi.log.take 1) bothFirmwares = f at htorn ⊢
  refine starts_after_power_loss Md5.digest plainAt (s := firstRunning) (by rintro u ⟨⟩) [] rfl firstRunning_runs
    firmwareUpdate_updates htorn ?_ (Boot.atReset_plain _)
  rw [Boot.atReset_flash]

variable (lib md5) in
/-- **Until the new firmware is saved the old one stays the default**: a power loss before the boot-parameter sector
is erased is not noticed. -/
theorem default_until_saved (hs : ∀ u, s.upgrade ≠ .live u) (actions : List UpdateAction)
    (hy : Machine.run (Tracked.next lib md5) actions (Tracked.atReset s) = y) (hr : y.app.Runs r)
    (h : y.app.Updates lib md5 dns es ops) (hdefault : DefaultBoots md5 y.app.spi.flash)
    (hpart : configuredPart y.app.spi.flash = r) {made : List Op} (hmade : made <+: ops)
    (hbefore : ∀ op ∈ made, ∀ a ∈ op.touches SECTOR_SIZE, a ∉ bootSector) {b : Boot}
    (hf : Torn SECTOR_SIZE made y.app.spi.flash b.spi.flash) (hb : b.Plain) : Starts md5 false b r := by
  have hsessions : y.Sessions :=
    hy ▸ run_invariant (fun a z hz => Tracked.sessions_next lib md5 hz a) (Tracked.sessions_atReset hs)
  have hconfined := (h.confined (hsessions.idle h.running h.free)).initial hmade
  obtain ⟨hmap, hsame⟩ := hr.kept fun a ha => hconfined.torn hf ha
  have hout : Confined SECTOR_SIZE {a | a ∉ bootSector} made := hbefore
  have hinfo : bootInfoAt b.spi.flash = bootInfoAt y.app.spi.flash :=
    bootInfoAt_congr fun a ha => hout.torn hf (not_not.mpr ha)
  obtain ⟨hc, hboot⟩ := hdefault
  rw [hpart] at hboot
  have hboot' : Bootable md5 b.spi.flash r := by
    refine ⟨?_, ?_, ?_⟩
    · rw [SoundAt, hmap]
      exact (hsame.sound _).mp hboot.1
    · rw [DigestAt, hinfo, ← hsame.bytes]
      exact hboot.2.1
    · rw [← hsame.entry]
      exact hboot.2.2
  have hc' : Configured b.spi.flash := by
    rw [Configured, hinfo]
    exact hc
  have hpart' : configuredPart b.spi.flash = r := by
    rw [configuredPart, hinfo]
    exact hpart
  obtain ⟨u, htask, hstarted, -⟩ := bootloaderTask_configured hb.ok hc' hb.not_served hb.count hpart' hboot'
  exact .of_started hboot' htask hstarted

/-- After the first operation. -/
theorem default_until_saved_firmwareUpdate : Starts Md5.digest false
    (.atReset (applyAll SECTOR_SIZE (firmwareUpdate.spi.log.take 1) bothFirmwares) fun _ => 0) 0 := by
  obtain ⟨-, hfirst, hboots, hpart⟩ := firmwareUpdate_facts
  have htorn := torn_after 1 (firmwareUpdate.spi.log.take 1) bothFirmwares
  rw [List.take_take, min_self] at htorn
  generalize applyAll SECTOR_SIZE (firmwareUpdate.spi.log.take 1) bothFirmwares = f at htorn ⊢
  refine default_until_saved Md5.digest plainAt (s := firstRunning) (by rintro u ⟨⟩) [] rfl firstRunning_runs
    firmwareUpdate_updates hboots hpart (List.take_prefix 1 _) ?_ ?_ (Boot.atReset_plain _)
  · rw [hfirst]
    intro op hop a ha hboot
    obtain rfl := List.mem_singleton.mp hop
    have hsector : a.toNat / SECTOR_SIZE = 0x81 := ha
    have hboot' : a.toNat / SECTOR_SIZE = 0xFA := hboot
    omega
  · rw [Boot.atReset_flash]
    exact htorn

end App

end Esp8266At
