import Esp8266At.Bootloader.Fallback

/-!
# Booting twice

The scan after `boot_1st` records every sound image whose digest is not the recorded one, and it makes
such a partition the default only while `*map` is `0xFF`. The next boot starts the default if it can. It
agrees with the scan exactly if no recorded partition other than the selected one ends up as a default
that can be booted (`settles_iff`).
-/

namespace Esp8266At.Bootloader

open ByteSpace NorFlash

variable {md5 : List UInt8 → Digest} {f g : Space} {n m p : Part} {s t : Boot}

/-- A sound image whose digest is not the recorded one. -/
def Stale (md5 : List UInt8 → Digest) (f : Space) (n : Part) : Prop := SoundAt f n ∧ ¬DigestAt md5 f n

instance (md5 : List UInt8 → Digest) (f : Space) (n : Part) : Decidable (Stale md5 f n) :=
  inferInstanceAs (Decidable (_ ∧ _))

/-! ### A part of the scan in which nothing is selected -/

/-- The states after a scan of `ns` in which no partition gets selected. -/
def scannedAll (md5 : List UInt8 → Digest) (ns : List Part) (s : Boot) : Boot :=
  ns.foldl (fun s n => s.scanned md5 n) s

theorem scanAll_selected_eq (h : s.Ready) (ns : List Part) (x : UInt32 × Part) :
    scanAll md5 ns (some x) s = (some x, scannedAll md5 ns s) := by
  induction ns generalizing s with
  | nil => rfl
  | cons n ns ih =>
    rw [scanAll_selected_cons h, ih h.scanned]
    rfl

/-- What a scan that has come to `s` still finds in the partitions `ns` of the flash `f`. -/
structure Ahead (f : Space) (ns : List Part) (s : Boot) : Prop where
  ready : s.Ready
  agree : AgreeOff f s.spi.flash
  undisturbed : ∀ n ∈ ns, Undisturbed f n
  nodup : ns.Nodup
  digest : ∀ n ∈ ns, s.bootInfo.partMd5 n = (bootInfoAt f).partMd5 n
  type : ∀ n ∈ ns, s.bootInfo.partType n = (bootInfoAt f).partType n

variable {ns : List Part}

variable (md5) in
/-- What the scan finds in the next partition. -/
theorem Ahead.head (h : Ahead f (n :: ns) s) :
    (CopiedAt f n → Image.Same f s.spi.flash (partAddr n)) ∧ (SoundAt f n ↔ SoundAt s.spi.flash n) ∧
      (Stale md5 f n ↔ SoundAt s.spi.flash n ∧ ¬DigestAt md5 s.spi.flash n) := by
  have hlook := h.agree.look (h.undisturbed n List.mem_cons_self)
  have hsame := hlook.same
  have hsound := hlook.sound
  refine ⟨hsame, hsound, ?_⟩
  rw [Stale, ← hsound]
  refine and_congr_right fun hs => ?_
  rw [DigestAt, DigestAt, ← h.ready.info, h.digest n List.mem_cons_self, (hsame hs.copied).bytes]

/-- The next partition, when its image is recorded. -/
theorem Ahead.scanned_stale (h : Ahead f (n :: ns) s) (hn : Stale md5 f n) :
    (s.scanned md5 n).bootInfo = recorded s.bootInfo s.map (partAddr n) n (Image.length f (partAddr n))
        (Image.mapMode f (partAddr n)) (md5 (Image.bytes f (partAddr n))) ∧
      (s.scanned md5 n).map = if s.map = 0xFF then Image.mapMode f (partAddr n) else s.map := by
  obtain ⟨hsame, -, hstale⟩ := h.head md5
  have hsame := hsame hn.1.copied
  have hmap : (s.checked n).map = s.map := by
    unfold Boot.checked
    split_ifs <;> rfl
  rw [Boot.scanned, if_pos (hstale.mp hn), Boot.record]
  simp only [Boot.checked_spi, hmap, ← h.ready.info, ← hsame.length, ← hsame.mapMode, ← hsame.bytes,
    and_self]

/-- The next partition, when its image is not recorded. -/
theorem Ahead.scanned_fresh (h : Ahead f (n :: ns) s) (hn : ¬Stale md5 f n) :
    (s.scanned md5 n).spi = s.spi ∧ (s.scanned md5 n).bootInfo = s.bootInfo ∧ (s.scanned md5 n).map = s.map := by
  obtain ⟨-, -, hstale⟩ := h.head md5
  rw [Boot.scanned, if_neg (mt hstale.mpr hn)]
  refine ⟨s.checked_spi, s.checked_bootInfo, ?_⟩
  unfold Boot.checked
  split_ifs <;> rfl

variable (md5) in
theorem Ahead.tail (h : Ahead f (n :: ns) s) : Ahead f ns (s.scanned md5 n) := by
  have hne : ∀ m ∈ ns, m ≠ n := fun m hm heq => (List.nodup_cons.mp h.nodup).1 (heq ▸ hm)
  refine ⟨h.ready.scanned, h.agree.trans (s.scanned_agree md5), fun m hm => h.undisturbed m (List.mem_cons_of_mem _ hm),
    (List.nodup_cons.mp h.nodup).2, fun m hm => ?_, fun m hm => ?_⟩
  · rw [Boot.scanned_partMd5_ne h.ready (hne m hm)]
    exact h.digest m (List.mem_cons_of_mem _ hm)
  · rw [← h.type m (List.mem_cons_of_mem _ hm)]
    by_cases hn : Stale md5 f n
    · rw [(h.scanned_stale hn).1]
      exact Function.update_of_ne (hne m hm) _ _
    · rw [(h.scanned_fresh hn).2.1]

/-- A change of `map` does not matter for what is ahead. -/
theorem Ahead.withMap (h : Ahead f ns s) (map : UInt8) : Ahead f ns { s with map := map } :=
  ⟨h.ready.of_eq rfl rfl rfl, h.agree, h.undisturbed, h.nodup, h.digest, h.type⟩

/-- The partition that becomes the default in a scan of the given partitions with `*map = 0xFF`. -/
def heir (md5 : List UInt8 → Digest) (f : Space) : List Part → Option Part
  | [] => none
  | n :: ns =>
    if Stale md5 f n then
      if Image.mapMode f (partAddr n) = 0xFF then some ((heir md5 f ns).getD n) else some n
    else heir md5 f ns

theorem heir_stale {q : Part} (h : heir md5 f ns = some q) : q ∈ ns ∧ Stale md5 f q := by
  induction ns with
  | nil => cases h
  | cons n ns ih =>
    rw [heir] at h
    split_ifs at h with hstale hmode
    · cases hrest : heir md5 f ns with
      | none =>
        rw [hrest] at h
        obtain rfl : n = q := Option.some.inj h
        exact ⟨List.mem_cons_self, hstale⟩
      | some r =>
        rw [hrest] at h
        obtain rfl : r = q := Option.some.inj h
        exact ⟨List.mem_cons_of_mem _ (ih hrest).1, (ih hrest).2⟩
    · obtain rfl : n = q := Option.some.inj h
      exact ⟨List.mem_cons_self, hstale⟩
    · exact ⟨List.mem_cons_of_mem _ (ih h).1, (ih h).2⟩

theorem heir_eq_none : heir md5 f ns = none ↔ ∀ n ∈ ns, ¬Stale md5 f n := by
  induction ns with
  | nil => simp [heir]
  | cons n ns ih =>
    rw [heir]
    split_ifs with hstale hmode
    · simp [hstale]
    · simp [hstale]
    · rw [ih]
      simp [hstale]

/-- What such a part of the scan leaves. -/
structure ScannedAll (md5 : List UInt8 → Digest) (f : Space) (ns : List Part) (s t : Boot) : Prop where
  ready : t.Ready
  agree : AgreeOff f t.spi.flash
  part : t.bootInfo.bootPart =
    if s.map = 0xFF then (heir md5 f ns).elim s.bootInfo.bootPart magicWord else s.bootInfo.bootPart
  digest : ∀ m, t.bootInfo.partMd5 m =
    if m ∈ ns ∧ SoundAt f m then md5 (Image.bytes f (partAddr m)) else s.bootInfo.partMd5 m
  type : ∀ m ∉ ns, t.bootInfo.partType m = s.bootInfo.partType m
  same : (∀ n ∈ ns, ¬Stale md5 f n) → t.spi = s.spi ∧ t.bootInfo = s.bootInfo ∧ t.map = s.map

variable (md5) in
theorem scannedAll_spec (h : Ahead f ns s) : ScannedAll md5 f ns s (scannedAll md5 ns s) := by
  induction ns generalizing s with
  | nil =>
    refine ⟨h.ready, h.agree, ?_, fun m => by simp [scannedAll], fun m _ => rfl, fun _ => ⟨rfl, rfl, rfl⟩⟩
    rw [heir, Option.elim_none, ite_self]
    rfl
  | cons n ns ih =>
    have hrest := ih (h.tail md5)
    have hnot : n ∉ ns := (List.nodup_cons.mp h.nodup).1
    obtain ⟨hsame, hsound, -⟩ := h.head md5
    refine ⟨hrest.ready, hrest.agree, hrest.part.trans ?_, fun m => (hrest.digest m).trans ?_, fun m hm => ?_,
      fun hnone => ?_⟩
    · -- the default
      rw [heir]
      by_cases hn : Stale md5 f n
      · obtain ⟨hinfo, hmap⟩ := h.scanned_stale hn
        rw [hinfo, hmap, if_pos hn]
        simp only [recorded]
        by_cases hff : s.map = 0xFF
        · simp only [if_pos hff]
          by_cases hmode : Image.mapMode f (partAddr n) = 0xFF
          · rw [if_pos hmode, if_pos hmode, Option.elim_some]
            cases heir md5 f ns <;> rfl
          · rw [if_neg hmode, if_neg hmode, Option.elim_some]
        · simp only [if_neg hff]
      · obtain ⟨-, hinfo, hmap⟩ := h.scanned_fresh hn
        rw [hinfo, hmap, if_neg hn]
    · -- the digests
      by_cases hmn : m = n
      · subst hmn
        rw [if_neg fun hm => hnot hm.1]
        by_cases hs : SoundAt f m
        · rw [if_pos ⟨List.mem_cons_self, hs⟩, Boot.scanned_partMd5_self h.ready (hsound.mp hs),
            (hsame hs.copied).bytes]
        · rw [if_neg fun hm => hs hm.2, (h.scanned_fresh fun hstale => hs hstale.1).2.1]
      · rw [Boot.scanned_partMd5_ne h.ready hmn]
        simp only [List.mem_cons, hmn, false_or]
    · refine (hrest.type m fun hmem => hm (List.mem_cons_of_mem _ hmem)).trans ?_
      have hmn : m ≠ n := fun heq => hm (heq ▸ List.mem_cons_self)
      by_cases hn : Stale md5 f n
      · rw [(h.scanned_stale hn).1]
        exact Function.update_of_ne hmn _ _
      · rw [(h.scanned_fresh hn).2.1]
    · obtain ⟨hspi, hinfo, hmap⟩ := h.scanned_fresh (hnone n List.mem_cons_self)
      obtain ⟨hspi', hinfo', hmap'⟩ := hrest.same fun k hk => hnone k (List.mem_cons_of_mem _ hk)
      exact ⟨hspi'.trans hspi, hinfo'.trans hinfo, hmap'.trans hmap⟩

variable (md5) in
theorem Ahead.after_prefix {ks : List Part} (h : Ahead f (ns ++ ks) s) : Ahead f ks (scannedAll md5 ns s) := by
  induction ns generalizing s with
  | nil => exact h
  | cons n ns ih => exact ih (h.tail md5)

theorem Ahead.of_append {ks : List Part} (h : Ahead f (ns ++ ks) s) : Ahead f ns s where
  ready := h.ready
  agree := h.agree
  undisturbed n hn := h.undisturbed n (List.mem_append_left _ hn)
  nodup := h.nodup.of_append_left
  digest n hn := h.digest n (List.mem_append_left _ hn)
  type n hn := h.type n (List.mem_append_left _ hn)

/-! ### The whole scan -/

/-- While no image has an entry point, nothing is selected. -/
theorem scanAll_none_eq (h : Ahead f ns s) (hns : ∀ n ∈ ns, ¬Startable f n) :
    scanAll md5 ns none s = (none, scannedAll md5 ns s) := by
  induction ns generalizing s with
  | nil => rfl
  | cons n ns ih =>
    have hnot : ¬Startable s.spi.flash n := fun hs =>
      hns n List.mem_cons_self ((h.agree.look (h.undisturbed n List.mem_cons_self)).startable.mpr hs)
    rw [scanAll_none_cons h.ready, if_neg hnot, ih (h.tail md5) fun k hk => hns k (List.mem_cons_of_mem _ hk)]
    rfl

/-- What `part_type` holds for a partition after the scan. -/
def leftType (md5 : List UInt8 → Digest) (f : Space) (p : Part) : UInt8 :=
  if Stale md5 f p then Image.mapMode f (partAddr p) else (bootInfoAt f).partType p

/-- The default the scan leaves when it selects `p`, having come by `pre`, and goes on with `post`. -/
def leftDefault (md5 : List UInt8 → Digest) (f : Space) (pre : List Part) (p : Part) (post : List Part) : UInt32 :=
  let before := (heir md5 f (pre ++ [p])).elim (bootInfoAt f).bootPart magicWord
  if leftType md5 f p = 0xFF then (heir md5 f post).elim before magicWord else before

/-- What the scan of `ns` leaves when it selects a partition. -/
structure ScanLeaves (md5 : List UInt8 → Digest) (f : Space) (ns : List Part) (word : UInt32) (s t : Boot) : Prop where
  ready : t.Ready
  agree : AgreeOff f t.spi.flash
  part : t.bootInfo.bootPart = word
  digest : ∀ m, t.bootInfo.partMd5 m =
    if m ∈ ns ∧ SoundAt f m then md5 (Image.bytes f (partAddr m)) else (bootInfoAt f).partMd5 m
  same : (∀ n ∈ ns, ¬Stale md5 f n) → t.spi = s.spi

variable (md5) in
theorem scan_selects {pre post : List Part} (h : Ahead f (pre ++ p :: post) s) (hinfo : s.bootInfo = bootInfoAt f)
    (hmap : s.map = 0xFF) (hpre : ∀ n ∈ pre, ¬Startable f n) (hp : Startable f p) :
    ∃ t, scanAll md5 (pre ++ p :: post) none s = (some (Image.entry f (partAddr p), p), t) ∧
      ScanLeaves md5 f (pre ++ p :: post) (leftDefault md5 f pre p post) s t := by
  have hsplit : pre ++ p :: post = (pre ++ [p]) ++ post := by simp
  have hv : Ahead f (p :: post) (scannedAll md5 pre s) := h.after_prefix md5
  set v := scannedAll md5 pre s with hvdef
  have hw : v.scanned md5 p = scannedAll md5 (pre ++ [p]) s := by
    rw [hvdef, scannedAll, scannedAll, List.foldl_append]
    rfl
  set w := v.scanned md5 p with hwdef
  obtain ⟨hsame, -, -⟩ := hv.head md5
  have hspec := scannedAll_spec md5 ((hsplit ▸ h).of_append)
  rw [← hw] at hspec
  have hahead : Ahead f post (w.select p) := (hv.tail md5).withMap _
  have hspec' := scannedAll_spec md5 hahead
  -- `*map` after the selection
  have htype : w.bootInfo.partType p = leftType md5 f p := by
    unfold leftType
    by_cases hstale : Stale md5 f p
    · rw [if_pos hstale, (hv.scanned_stale hstale).1]
      exact Function.update_self _ _ _
    · rw [if_neg hstale, (hv.scanned_fresh hstale).2.1]
      exact hv.type p List.mem_cons_self
  refine ⟨scannedAll md5 post (w.select p), ?_, hspec'.ready, hspec'.agree, ?_, fun m => ?_, fun hnone => ?_⟩
  · rw [scanAll_append md5 h.ready, scanAll_none_eq h.of_append hpre]
    show scanAll md5 (p :: post) none v = _
    rw [scanAll_none_cons hv.ready, if_pos ((hv.agree.look (hv.undisturbed p List.mem_cons_self)).startable.mp hp),
      scanAll_selected_eq hv.ready.scanned.select, (hsame hp.1.copied).entry]
  · rw [hspec'.part, leftDefault]
    simp only [Boot.select_bootInfo, show (w.select p).map = w.bootInfo.partType p from rfl, htype, hspec.part, hmap,
      hinfo, if_true]
  · rw [hspec'.digest m]
    have hpost : m ∈ pre ++ p :: post ↔ m ∈ post ∨ m ∈ pre ++ [p] := by
      rw [hsplit, List.mem_append]
      exact or_comm
    by_cases hm : m ∈ post ∧ SoundAt f m
    · rw [if_pos hm, if_pos ⟨hpost.mpr (Or.inl hm.1), hm.2⟩]
    · rw [if_neg hm, Boot.select_bootInfo, hspec.digest m, hinfo]
      refine if_congr ?_ rfl rfl
      rw [hpost]
      exact ⟨fun h => ⟨Or.inr h.1, h.2⟩, fun h => ⟨h.1.resolve_left fun hin => hm ⟨hin, h.2⟩, h.2⟩⟩
  · obtain ⟨hspi, -, -⟩ := hspec.same fun n hn => hnone n (by rw [hsplit]; exact List.mem_append_left _ hn)
    obtain ⟨hspi', -, -⟩ := hspec'.same fun n hn => hnone n (by rw [hsplit]; exact List.mem_append_right _ hn)
    exact hspi'.trans hspi

/-! ### Two boots -/

/-- A boot with working flash, without button, without request and below the maximum number of resets. -/
structure Boot.Plain (s : Boot) : Prop where
  ok : s.spi.AllOk
  request : s.getRtcUserdata 0 &&& BOOT_FW_MAGIC_MASK ≠ BOOT_FW_MAGIC
  count : ¬s.Forced false

/-- What a run starts, the next run from the flash it leaves starts again, and changes nothing. -/
def Settles (md5 : List UInt8 → Digest) (s : Boot) : Prop :=
  ∀ e p s', bootloaderTask md5 false s = (.start e, s') → s'.getRtcUserdata 1 = magicWord p →
    ∀ t : Boot, t.Plain → t.spi.flash = s'.spi.flash → ∃ t', bootloaderTask md5 false t = (.start e, t') ∧
      t'.getRtcUserdata 1 = magicWord p ∧ t'.spi.flash = t.spi.flash

/-- The boot configuration names a partition that can be booted. -/
def DefaultBoots (md5 : List UInt8 → Digest) (f : Space) : Prop :=
  Configured f ∧ Bootable md5 f (configuredPart f)

/-- No partition takes the default from the one the scan selects, `p`: if `p` has left `*map` at `0xFF`,
none behind it is recorded that has an entry point and becomes the default; otherwise, if the scan has
recorded nothing up to `p`, the old default behind it is not recorded with an entry point. -/
def Undisputed (md5 : List UInt8 → Digest) (f : Space) : Prop :=
  ∀ pre p post, scanOrder (bootMapAt f) = pre ++ p :: post → (∀ n ∈ pre, ¬Startable f n) → Startable f p →
    (leftType md5 f p = 0xFF → ∀ r, heir md5 f post = some r → Image.entry f (partAddr r) = 0) ∧
    (leftType md5 f p ≠ 0xFF → (∀ n ∈ pre ++ [p], ¬Stale md5 f n) → Configured f → configuredPart f ∈ post →
      Stale md5 f (configuredPart f) → Image.entry f (partAddr (configuredPart f)) = 0)

theorem Boot.Plain.not_served (h : s.Plain) : ¬Served md5 s.spi.flash (s.getRtcUserdata 0) :=
  fun hs => h.request hs.1.1

/-- A boot that scans, with a partition to select. -/
theorem bootloaderTask_selects (h : s.Plain) (hnot : ¬DefaultBoots md5 s.spi.flash) {pre post : List Part}
    (hns : scanOrder (bootMapAt s.spi.flash) = pre ++ p :: post)
    (hu : ∀ n ∈ scanOrder (bootMapAt s.spi.flash), Undisturbed s.spi.flash n)
    (hpre : ∀ n ∈ pre, ¬Startable s.spi.flash n) (hp : Startable s.spi.flash p) :
    ∃ t, bootloaderTask md5 false s = (.start (Image.entry s.spi.flash (partAddr p)), t) ∧
      t.getRtcUserdata 1 = magicWord p ∧
      ScanLeaves md5 s.spi.flash (pre ++ p :: post) (leftDefault md5 s.spi.flash pre p post) s t := by
  have hscan : s.Scans md5 false := by
    by_cases hc : Configured s.spi.flash
    · exact Or.inr ⟨h.not_served, h.count, fun hb => hnot ⟨hc, hb⟩⟩
    · exact Or.inl hc
  obtain ⟨u, hready, hspi, hmap, htask⟩ := bootloaderTask_scan h.ok hscan
  rw [hns] at htask
  have hahead : Ahead s.spi.flash (pre ++ p :: post) u := by
    refine ⟨hready, by rw [hspi]; exact .refl _, fun n hn => hu n (hns ▸ hn), ?_, fun n _ => ?_, fun n _ => ?_⟩
    · rw [← hns]
      exact (scanOrder_sorted _).imp fun hlt => ne_of_lt hlt
    · rw [hready.info, hspi]
    · rw [hready.info, hspi]
  obtain ⟨v, hsel, hleaves⟩ := scan_selects md5 hahead (by rw [hready.info, hspi]) hmap hpre hp
  rw [hsel] at htask
  exact ⟨_, htask, rfl, hleaves.ready.of_eq rfl rfl rfl, hleaves.agree, hleaves.part, hleaves.digest,
    fun hnone => (hleaves.same hnone).trans hspi⟩

variable {w : UInt32}

/-- Which partitions can be booted after the scan. -/
theorem ScanLeaves.bootable_iff (h : ScanLeaves md5 f ns w s t) {q : Part} (hu : Undisturbed f q) :
    Bootable md5 t.spi.flash q ↔ if q ∈ ns then Startable f q else Bootable md5 f q := by
  have hsound := (h.agree.look hu).sound
  by_cases hs : SoundAt f q
  · have hsame := (h.agree.look hu).same hs.copied
    have hdigest : DigestAt md5 t.spi.flash q ↔ q ∈ ns ∨ DigestAt md5 f q := by
      rw [DigestAt, ← hsame.bytes, ← h.ready.info, h.digest q, DigestAt]
      by_cases hq : q ∈ ns
      · simp [hq, hs]
      · simp [hq]
    rw [Bootable, ← hsound, hdigest, ← hsame.entry]
    by_cases hq : q ∈ ns
    · simp [hq, Startable]
    · simp [hq, Bootable]
  · have hno : ¬Bootable md5 t.spi.flash q := fun hb => hs (hsound.mpr hb.1)
    split_ifs
    · exact ⟨fun hb => absurd hb hno, fun hb => absurd hb.1 hs⟩
    · exact ⟨fun hb => absurd hb hno, fun hb => absurd hb.1 hs⟩

/-- The partition the scan selects is the only one that may be a default that can be booted afterwards. -/
theorem leftDefault_iff {pre post : List Part} (hnodup : (pre ++ p :: post).Nodup) (hnot : ¬DefaultBoots md5 f)
    (hpre : ∀ n ∈ pre, ¬Startable f n) :
    (∀ q, leftDefault md5 f pre p post = magicWord q →
      (if q ∈ pre ++ p :: post then Startable f q else Bootable md5 f q) → q = p) ↔
    (leftType md5 f p = 0xFF → ∀ r, heir md5 f post = some r → Image.entry f (partAddr r) = 0) ∧
    (leftType md5 f p ≠ 0xFF → (∀ n ∈ pre ++ [p], ¬Stale md5 f n) → Configured f → configuredPart f ∈ post →
      Stale md5 f (configuredPart f) → Image.entry f (partAddr (configuredPart f)) = 0) := by
  have hbehind : ∀ q ∈ post, q ∈ pre ++ p :: post := fun q hq => List.mem_append_right _ (List.mem_cons_of_mem _ hq)
  have hne : ∀ q ∈ post, q ≠ p := by
    rintro q hq rfl
    exact (List.nodup_cons.mp hnodup.of_append_right).1 hq
  constructor
  · refine fun h => ⟨fun hff r hr => ?_, fun hff hnone hc hd hstale => ?_⟩
    · by_contra hentry
      obtain ⟨hmem, hstale⟩ := heir_stale hr
      have hword : leftDefault md5 f pre p post = magicWord r := by
        simp only [leftDefault, if_pos hff, hr, Option.elim_some]
      exact hne r hmem (h r hword (by rw [if_pos (hbehind r hmem)]; exact ⟨hstale.1, hentry⟩))
    · by_contra hentry
      have hword : leftDefault md5 f pre p post = magicWord (configuredPart f) := by
        simp only [leftDefault, if_neg hff, heir_eq_none.mpr hnone, Option.elim_none]
        exact validWord_iff.mp hc
      exact hne _ hd (h _ hword (by rw [if_pos (hbehind _ hd)]; exact ⟨hstale.1, hentry⟩))
  · rintro ⟨h1, h2⟩ q hword hq
    by_cases hover : leftType md5 f p = 0xFF ∧ ∃ r, heir md5 f post = some r
    · -- a later partition is the default, without an entry point
      obtain ⟨hff, r, hr⟩ := hover
      simp only [leftDefault, if_pos hff, hr, Option.elim_some] at hword
      obtain rfl : r = q := magicWord_injective hword
      rw [if_pos (hbehind r (heir_stale hr).1)] at hq
      exact absurd (h1 hff r hr) hq.2
    have hbefore : leftDefault md5 f pre p post =
        (heir md5 f (pre ++ [p])).elim (bootInfoAt f).bootPart magicWord := by
      rw [leftDefault]
      split_ifs with hff
      · have hnone : heir md5 f post = none :=
          Option.eq_none_iff_forall_ne_some.mpr fun r hr => hover ⟨hff, r, hr⟩
        rw [hnone, Option.elim_none]
      · rfl
    rw [hbefore] at hword
    cases hheir : heir md5 f (pre ++ [p]) with
    | some r =>
      rw [hheir] at hword
      obtain rfl : r = q := magicWord_injective hword
      rcases List.mem_append.mp (heir_stale hheir).1 with hr | hr
      · rw [if_pos (List.mem_append_left _ hr)] at hq
        exact absurd hq (hpre r hr)
      · exact List.mem_singleton.mp hr
    | none =>
      -- the old default
      rw [hheir, Option.elim_none] at hword
      have hc : Configured f := by
        rw [Configured, hword]
        exact validWord_magicWord q
      have hd : configuredPart f = q := by rw [configuredPart, hword, wordPart_magicWord]
      have hnb : ¬Bootable md5 f q := fun hb => hnot ⟨hc, hd ▸ hb⟩
      split_ifs at hq with hmem
      · have hstale : Stale md5 f q := ⟨hq.1, fun hdig => hnb ⟨hq.1, hdig, hq.2⟩⟩
        rcases List.mem_append.mp hmem with hr | hr
        · exact absurd hq (hpre q hr)
        · rcases List.mem_cons.mp hr with rfl | hr
          · rfl
          · exfalso
            by_cases hff : leftType md5 f p = 0xFF
            · have hnone : heir md5 f post = none :=
                Option.eq_none_iff_forall_ne_some.mpr fun r hr => hover ⟨hff, r, hr⟩
              exact heir_eq_none.mp hnone q hr hstale
            · subst hd
              exact hq.2 (h2 hff (heir_eq_none.mp hheir) hc hr hstale)
      · exact absurd hq hnb

theorem exists_first {P : Part → Prop} [DecidablePred P] {ns : List Part} (h : ∃ n ∈ ns, P n) :
    ∃ pre p post, ns = pre ++ p :: post ∧ (∀ n ∈ pre, ¬P n) ∧ P p := by
  induction ns with
  | nil =>
    obtain ⟨n, hn, -⟩ := h
    cases hn
  | cons n ns ih =>
    by_cases hn : P n
    · exact ⟨[], n, ns, rfl, fun _ hm => (nomatch hm), hn⟩
    · obtain ⟨m, hm, hP⟩ := h
      have hm' : m ∈ ns := (List.mem_cons.mp hm).resolve_left fun heq => hn (heq ▸ hP)
      obtain ⟨pre, p, post, rfl, hpre, hp⟩ := ih ⟨m, hm', hP⟩
      refine ⟨n :: pre, p, post, rfl, fun k hk => ?_, hp⟩
      rcases List.mem_cons.mp hk with rfl | hk
      · exact hn
      · exact hpre k hk

theorem leftDefault_known {pre post : List Part} {q : Part} (h : leftDefault md5 f pre p post = magicWord q) :
    q ∈ pre ++ p :: post ∨ Configured f ∧ q = configuredPart f := by
  have hbefore : (heir md5 f (pre ++ [p])).elim (bootInfoAt f).bootPart magicWord = magicWord q →
      q ∈ pre ++ p :: post ∨ Configured f ∧ q = configuredPart f := by
    intro h
    cases hheir : heir md5 f (pre ++ [p]) with
    | some r =>
      rw [hheir] at h
      obtain rfl : r = q := magicWord_injective h
      have hmem := (heir_stale hheir).1
      rw [List.mem_append, List.mem_singleton] at hmem
      rcases hmem with hmem | rfl
      · exact Or.inl (List.mem_append_left _ hmem)
      · exact Or.inl (List.mem_append_right _ List.mem_cons_self)
    | none =>
      rw [hheir, Option.elim_none] at h
      refine Or.inr ⟨?_, by rw [configuredPart, h, wordPart_magicWord]⟩
      rw [Configured, h]
      exact validWord_magicWord q
  simp only [leftDefault] at h
  split_ifs at h
  · cases hheir : heir md5 f post with
    | some r =>
      rw [hheir] at h
      obtain rfl : r = q := magicWord_injective h
      exact Or.inl (List.mem_append_right _ (List.mem_cons_of_mem _ (heir_stale hheir).1))
    | none =>
      rw [hheir, Option.elim_none] at h
      exact hbefore h
  · exact hbefore h

theorem ScanLeaves.not_stale (h : ScanLeaves md5 f ns w s t) (hu : Undisturbed f n) (hn : n ∈ ns) :
    ¬Stale md5 t.spi.flash n := by
  rintro ⟨hs, hd⟩
  have hsf := (h.agree.look hu).sound.mpr hs
  refine hd ?_
  rw [DigestAt, ← ((h.agree.look hu).same hsf.copied).bytes, ← h.ready.info, h.digest n, if_pos ⟨hn, hsf⟩]

/-- The boot counter of a boot depends on the RTC words only. -/
theorem Boot.bootCount_congr (h : t.rtc = s.rtc) : t.bootCount = s.bootCount := by
  rw [bootCount, bootCount, getRtcUserdata, getRtcUserdata, countBoot_rtc, countBoot_rtc, h]

/-- Where a scan has selected `p`, the next boot starts `p` exactly if no other default can be booted. -/
theorem settles_scan (h : s.Plain) (hnot : ¬DefaultBoots md5 s.spi.flash) {pre post : List Part}
    (hns : scanOrder (bootMapAt s.spi.flash) = pre ++ p :: post)
    (hu : ∀ n, n ∈ scanOrder (bootMapAt s.spi.flash) ∨
      Configured s.spi.flash ∧ n = configuredPart s.spi.flash → Undisturbed s.spi.flash n)
    (hpre : ∀ n ∈ pre, ¬Startable s.spi.flash n) (hp : Startable s.spi.flash p) :
    Settles md5 s ↔ ∀ q, leftDefault md5 s.spi.flash pre p post = magicWord q →
      (if q ∈ pre ++ p :: post then Startable s.spi.flash q else Bootable md5 s.spi.flash q) → q = p := by
  obtain ⟨u, hrun, hrtc, hleaves⟩ := bootloaderTask_selects h hnot hns (fun n hn => hu n (Or.inl hn)) hpre hp
  have hknown : ∀ q, leftDefault md5 s.spi.flash pre p post = magicWord q → Undisturbed s.spi.flash q :=
    fun q hq => hu q (hns ▸ leftDefault_known hq)
  have hinfo : (bootInfoAt u.spi.flash).bootPart = leftDefault md5 s.spi.flash pre p post := by
    rw [← hleaves.ready.info, hleaves.part]
  have hpmem : p ∈ scanOrder (bootMapAt s.spi.flash) := by
    rw [hns]
    exact List.mem_append_right _ List.mem_cons_self
  have hup := hu p (Or.inl hpmem)
  constructor
  · intro hsettles q hword hq
    have hboot := (hleaves.bootable_iff (hknown q hword)).mpr hq
    -- the next boot starts the default
    set t : Boot := { s with spi := ⟨u.spi.flash, [], fun _ => true⟩ } with ht
    have hplain : t.Plain := ⟨fun _ => rfl, h.request, by
      rw [Boot.Forced, Boot.bootCount_congr (t := t) (s := s) rfl]
      exact h.count⟩
    have hc : Configured t.spi.flash := by
      show ValidWord (bootInfoAt u.spi.flash).bootPart
      rw [hinfo, hword]
      exact validWord_magicWord q
    have hd : configuredPart t.spi.flash = q := by
      show wordPart (bootInfoAt u.spi.flash).bootPart = q
      rw [hinfo, hword, wordPart_magicWord]
    obtain ⟨t₁, hrun₁, hstarted, -⟩ := bootloaderTask_configured hplain.ok hc hplain.not_served hplain.count hd hboot
    obtain ⟨t₂, hrun₂, hrtc₂, -⟩ := hsettles _ p u hrun hrtc t hplain rfl
    obtain ⟨-, rfl⟩ := Prod.mk.inj (hrun₁.symm.trans hrun₂)
    exact magicWord_injective (hstarted.running.symm.trans hrtc₂)
  · intro hall e p' s' hrun' hrtc' t ht hflash
    obtain ⟨he, rfl⟩ := Prod.mk.inj (hrun.symm.trans hrun')
    obtain rfl := Outcome.start.inj he
    obtain rfl : p = p' := magicWord_injective (hrtc.symm.trans hrtc')
    have hagree : AgreeOff s.spi.flash t.spi.flash := hflash ▸ hleaves.agree
    have hentry := ((hagree.look hup).same hp.1.copied).entry
    by_cases hdb : DefaultBoots md5 t.spi.flash
    · obtain ⟨hc, hboot⟩ := hdb
      have hword : leftDefault md5 s.spi.flash pre p post = magicWord (configuredPart t.spi.flash) := by
        rw [← hinfo, ← hflash]
        exact validWord_iff.mp hc
      have hq : configuredPart t.spi.flash = p := by
        refine hall _ hword ?_
        rw [← hleaves.bootable_iff (hknown _ hword), ← hflash]
        exact hboot
      rw [hq] at hboot
      obtain ⟨t', hrun₁, hstarted, hspi⟩ := bootloaderTask_configured ht.ok hc ht.not_served ht.count hq hboot
      exact ⟨t', by rw [hentry]; exact hrun₁, hstarted.running, by rw [hspi]⟩
    · have hmap : bootMapAt t.spi.flash = bootMapAt s.spi.flash := hagree.bootMapAt.symm
      have hun : ∀ n ∈ pre ++ p :: post, Undisturbed s.spi.flash n := fun n hn => hu n (Or.inl (hns ▸ hn))
      have hunt : ∀ n ∈ scanOrder (bootMapAt t.spi.flash), Undisturbed t.spi.flash n := by
        rw [hmap, hns]
        exact fun n hn => hagree.undisturbed (hun n hn)
      obtain ⟨t', hrun₁, hrtc₁, hleaves₁⟩ := bootloaderTask_selects ht hdb (by rw [hmap, hns]) hunt
        (fun n hn hs => hpre n hn ((hagree.look (hun n (List.mem_append_left _ hn))).startable.mpr hs))
        ((hagree.look hup).startable.mp hp)
      have hsame := hleaves₁.same fun n hn => by
        rw [hflash]
        exact hleaves.not_stale (hun n hn) hn
      exact ⟨t', by rw [hentry]; exact hrun₁, hrtc₁, by rw [hsame]⟩

/-- **Two boots agree exactly if the default can be booted, or no partition takes the default from the one
the scan selects.** -/
theorem settles_iff (h : s.Plain) (hu : ¬DefaultBoots md5 s.spi.flash →
      ∀ n, n ∈ scanOrder (bootMapAt s.spi.flash) ∨
        Configured s.spi.flash ∧ n = configuredPart s.spi.flash → Undisturbed s.spi.flash n) :
    Settles md5 s ↔ DefaultBoots md5 s.spi.flash ∨ Undisputed md5 s.spi.flash := by
  have hnodup : (scanOrder (bootMapAt s.spi.flash)).Nodup := (scanOrder_sorted _).imp fun hlt => ne_of_lt hlt
  by_cases hdb : DefaultBoots md5 s.spi.flash
  · -- the same run twice
    refine iff_of_true ?_ (Or.inl hdb)
    intro e p s' hrun hrtc t ht hflash
    obtain ⟨u, hrun₁, hstarted, hspi⟩ := bootloaderTask_configured h.ok hdb.1 h.not_served h.count rfl hdb.2
    obtain ⟨he, rfl⟩ := Prod.mk.inj (hrun₁.symm.trans hrun)
    obtain rfl := Outcome.start.inj he
    rw [hspi] at hflash
    have hp : configuredPart s.spi.flash = p := magicWord_injective (hstarted.running.symm.trans hrtc)
    have hboot : Bootable md5 t.spi.flash (configuredPart t.spi.flash) := hflash ▸ hdb.2
    obtain ⟨v, hrun₂, hstarted₂, hspi₂⟩ :=
      bootloaderTask_configured ht.ok (hflash ▸ hdb.1) ht.not_served ht.count rfl hboot
    rw [hflash] at hrun₂ hstarted₂
    exact ⟨v, hrun₂, hp ▸ hstarted₂.running, by rw [hspi₂]⟩
  rw [or_iff_right hdb]
  have hu := hu hdb
  constructor
  · intro hsettles pre p post hns hpre hp
    have hall := (settles_scan h hdb hns hu hpre hp).mp hsettles
    exact (leftDefault_iff (hns ▸ hnodup) hdb hpre).mp hall
  · intro hundisputed
    by_cases hex : ∃ n ∈ scanOrder (bootMapAt s.spi.flash), Startable s.spi.flash n
    · obtain ⟨pre, p, post, hns, hpre, hp⟩ := exists_first hex
      exact (settles_scan h hdb hns hu hpre hp).mpr
        ((leftDefault_iff (hns ▸ hnodup) hdb hpre).mpr (hundisputed pre p post hns hpre hp))
    · -- nothing is started
      intro e p s' hrun
      have hscan : s.Scans md5 false := by
        by_cases hc : Configured s.spi.flash
        · exact Or.inr ⟨h.not_served, h.count, fun hb => hdb ⟨hc, hb⟩⟩
        · exact Or.inl hc
      obtain ⟨u, hready, hspi, -, htask⟩ := bootloaderTask_scan h.ok hscan
      have hahead : Ahead s.spi.flash (scanOrder (bootMapAt s.spi.flash)) u :=
        ⟨hready, by rw [hspi]; exact .refl _, fun n hn => hu n (Or.inl hn), hnodup,
          fun n _ => by rw [hready.info, hspi], fun n _ => by rw [hready.info, hspi]⟩
      rw [scanAll_none_eq hahead fun n hn hs => hex ⟨n, hn, hs⟩] at htask
      cases (Prod.mk.inj (hrun.symm.trans htask)).1

/-- The digest recorded for both partitions is that of partition 0; partition 1 is the default. -/
def staleDefault : Space := burn [(0, bootHeader 0 0x20), (partAddr 0, tinyImage 0x40100004 0 0x20 1),
  (partAddr 1, tinyImage 0x40100004 0 0x20 2),
  (BOOT_PARAM_ADDR, BootInfo.bytes
    { bootPart := magicWord 1
      bootAddr := partAddr 1
      partLength := fun _ => 52
      partMd5 := fun _ => Md5.digest (tinyImage 0x40100004 0 0x20 1)
      partType := fun _ => 0x20 })]

/-- The first boot with it. -/
def staleRun : Outcome × Boot := bootloaderTask Md5.digest false (.atReset staleDefault fun _ => 0)

theorem Boot.atReset_plain (f : Space) : (Boot.atReset f fun _ => 0).Plain := by
  refine ⟨atReset_ok _ _, atReset_no_request f, ?_⟩
  rw [Forced, bootCount_congr (t := atReset f fun _ => 0) (s := atReset (fun _ => 0xFF) fun _ => 0) rfl]
  decide

/-- The first boot starts partition 0, the second one partition 1. -/
theorem staleDefault_boot :
    (ClearOf staleDefault 0 ∧ ClearOf staleDefault 1) ∧
      (bootMapAt staleDefault = 2 ∧ (configuredPart staleDefault).val < 2) ∧
      staleRun.1 = .start 0x40100004 ∧ staleRun.2.getRtcUserdata 1 = magicWord 0 ∧
      (bootloaderTask Md5.digest false (.atReset staleRun.2.spi.flash fun _ => 0)).2.getRtcUserdata 1 =
        magicWord 1 := by
  refine ⟨?_, by decide +kernel, by decide +kernel⟩
  constructor <;> refine clearOf_of_inside 52 (Image.inside_of_bounds ?_ ?_ ?_ ?_ ?_) ?_ <;> decide +kernel

theorem staleDefault_undisturbed (n : Part) (hn : n.val < 2) : Undisturbed staleDefault n := by
  obtain ⟨hclear, -⟩ := staleDefault_boot
  obtain h | h : n.val = 0 ∨ n.val = 1 := by omega
  · obtain rfl : n = 0 := Fin.ext h
    exact hclear.1.undisturbed
  · obtain rfl : n = 1 := Fin.ext h
    exact hclear.2.undisturbed

theorem settles_iff_staleDefault :
    Settles Md5.digest (.atReset staleDefault fun _ => 0) ↔
      DefaultBoots Md5.digest staleDefault ∨ Undisputed Md5.digest staleDefault := by
  refine settles_iff (Boot.atReset_plain _) fun _ n hn => staleDefault_undisturbed n ?_
  obtain ⟨-, ⟨hmap, hpart⟩, -⟩ := staleDefault_boot
  rcases hn with hn | ⟨-, rfl⟩
  · exact (mem_scanOrder.mp hn).1 hmap
  · exact hpart

/-- A default whose image does not match its digest is passed over by the first boot, which records it,
and started by the second. -/
theorem not_settles : ¬∀ s : Boot, s.Plain → Settles Md5.digest s := by
  intro h
  obtain ⟨-, -, hfirst, hrunning, hsecond⟩ := staleDefault_boot
  obtain ⟨t', hrun, hrtc, -⟩ := h (.atReset staleDefault fun _ => 0) (Boot.atReset_plain _) _ 0 staleRun.2
    (eq_of_outcome hfirst) hrunning (.atReset staleRun.2.spi.flash fun _ => 0) (Boot.atReset_plain _)
    (Boot.atReset_flash _ _)
  rw [hrun, hrtc] at hsecond
  exact absurd hsecond (by decide)

end Esp8266At.Bootloader
