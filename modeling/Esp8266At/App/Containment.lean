import Esp8266At.App.Splits

/-!
# Where an update writes

The automatic target of an update is a partition of the flash map (`automatic_target`), apart from the parameter
sectors, and from the running partition except that on 1024+1024 maps partition 1 begins in the middle of partition 0.
What has been announced bounds the number of sectors that are written, so that an update stays in its partition as
long as no more is announced than there is room for (`stays_in_target`). The test on 512+512 maps has the limit of the
1024+1024 maps, which lets longer firmwares through (`not_stays_in_target`).
-/

namespace Esp8266At

open ByteSpace NorFlash Machine

/-! ### Partitions -/

/-- `SYSTEM_PARTITION_OTA_SIZE` of a flash map. -/
def otaSize (flash_map : UInt8) : ℕ := if flash_map > 4 then 0xF0000 else 0x79000

/-- The address belongs to the partition at `addr`. -/
def InPartition (flash_map : UInt8) (addr a : UInt32) : Prop :=
  addr.toNat ≤ a.toNat ∧ a.toNat < addr.toNat + otaSize flash_map

/-- The address belongs to a parameter sector: the certificates and the AT parameters, or the boot configuration, the
RF calibration and the system parameters. -/
def IsParameter (flash_map : UInt8) (a : UInt32) : Prop :=
  ((systemPartitionParamStart flash_map).toNat ≤ a.toNat ∧
      a.toNat < (systemPartitionParamStart flash_map).toNat + 0x5000) ∨
    (BOOT_PARAM_ADDR.toNat ≤ a.toNat ∧ a.toNat < 0x100000)

/-- The bytes from the automatic target on that an update may write: its partition, but on 1024+1024 maps no more than
lies before partition 1 if that is the one that runs. -/
def room (flash_map : UInt8) (running : ℤ) : ℕ :=
  if flash_map > 4 then (if running = 1 then 0x80000 else 0xF0000) else 0x79000

/-- What an update may write: its partition, without the parameter sectors and the running partition. -/
structure MayWrite (flash_map : UInt8) (addr : UInt32) (running : ℤ) (a : UInt32) : Prop where
  target : InPartition flash_map addr a
  parameters : ¬IsParameter flash_map a
  others : ∀ p : Part, running = p.val → ¬InPartition flash_map (partAddr p) a

namespace App

variable {s : App}

/-- The four automatic targets. -/
theorem automatic_target (fw_n : UInt32) (flash_map : UInt8) :
    (targetAddr none fw_n flash_map).toNat =
      if fw_n = 0 then (if flash_map > 4 then 0x101000 else 0x81000) else 0x1000 := by
  unfold targetAddr
  by_cases hmap : flash_map > 4
  · have hnot : ¬flash_map < 5 := by
      rw [gt_iff_lt, UInt8.lt_iff_toNat_lt] at hmap
      rw [UInt8.lt_iff_toNat_lt]
      have h4 : (4 : UInt8).toNat = 4 := rfl
      have h5 : (5 : UInt8).toNat = 5 := rfl
      omega
    rw [if_neg hnot, if_pos hmap]
    split_ifs <;> rfl
  · have hlt : flash_map < 5 := by
      rw [gt_iff_lt, UInt8.lt_iff_toNat_lt] at hmap
      rw [UInt8.lt_iff_toNat_lt]
      have h4 : (4 : UInt8).toNat = 4 := rfl
      have h5 : (5 : UInt8).toNat = 5 := rfl
      omega
    rw [if_pos hlt, if_neg hmap]
    split_ifs <;> rfl

theorem systemPartitionParamStart_toNat (flash_map : UInt8) :
    (systemPartitionParamStart flash_map).toNat = if flash_map > 4 then 0xF5000 else 0x7B000 := by
  unfold systemPartitionParamStart
  split_ifs <;> rfl

theorem ofInt_part_eq_zero (p : Part) : UInt32.ofInt p.val = 0 ↔ p.val = 0 := by
  revert p
  decide

theorem room_le_otaSize (flash_map : UInt8) (running : ℤ) : room flash_map running ≤ otaSize flash_map := by
  unfold room otaSize
  split_ifs <;> omega

/-- As far as there is room, the automatic target is apart from the parameter sectors and the running partition. -/
theorem mayWrite_of_lt_room {flash_map : UInt8} {running : ℤ} {a : UInt32}
    (hlow : (targetAddr none (UInt32.ofInt running) flash_map).toNat ≤ a.toNat)
    (hhigh : a.toNat < (targetAddr none (UInt32.ofInt running) flash_map).toNat + room flash_map running) :
    MayWrite flash_map (targetAddr none (UInt32.ofInt running) flash_map) running a := by
  have hsize := room_le_otaSize flash_map running
  have htarget := automatic_target (UInt32.ofInt running) flash_map
  have hstart := systemPartitionParamStart_toNat flash_map
  have hboot : BOOT_PARAM_ADDR.toNat = 0xFA000 := rfl
  refine ⟨⟨hlow, by omega⟩, fun hparameter => ?_, fun p hp hother => ?_⟩
  · unfold otaSize at hsize
    unfold IsParameter at hparameter
    split_ifs at hsize htarget hstart <;> omega
  · have hpaddr := partAddr_toNat p
    have hzero : UInt32.ofInt running = 0 ↔ p.val = 0 := by
      rw [hp]
      exact ofInt_part_eq_zero p
    simp only [hzero] at htarget
    unfold room at hhigh
    unfold InPartition otaSize at hother
    by_cases hbig : flash_map > 4
    · simp only [if_pos hbig] at htarget hhigh hother
      by_cases h0 : p.val = 0
      · rw [if_pos h0] at htarget
        split_ifs at hhigh <;> omega
      · rw [if_neg h0] at htarget
        -- partition 1 begins where there is no more room
        split_ifs at hhigh <;> omega
    · simp only [if_neg hbig] at htarget hhigh hother
      split_ifs at htarget <;> omega

/-! ### Sessions with an automatic target -/

/-- There is room for the announced length, or it is refused. -/
def Moderate (flash_map : UInt8) (running : ℤ) (cs : List (List UInt8)) : Prop :=
  (announced cs).toNat ≤ room flash_map running ∨ FW_MAXSIZE ≤ announced cs

/-- What has been done to the flash since `s` stays where an update may write. -/
def Contained (flash_map : UInt8) (running : ℤ) (s t : App) : Prop :=
  ∃ ops, t.spi.log = s.spi.log ++ ops ∧
    ∀ op ∈ ops, ∀ a ∈ op.touches SECTOR_SIZE, MayWrite flash_map s.upgradeFlashAddr running a

/-- There is room for the sectors of a moderate length. -/
theorem Fits.le_room {flash_map : UInt8} {running : ℤ} {cs : List (List UInt8)} {k : ℕ} (h : Fits cs k)
    (hmoderate : Moderate flash_map running cs) : SECTOR_SIZE * k ≤ room flash_map running := by
  have hmax : FW_MAXSIZE.toNat = 0xF0000 := rfl
  unfold Fits at h
  unfold Moderate room at hmoderate
  unfold room
  simp only [SECTOR_SIZE] at h ⊢
  rcases h with hone | ⟨hlt, hk⟩
  · split_ifs <;> omega
  · have hlt' := UInt32.lt_iff_toNat_lt.mp hlt
    rcases hmoderate with hle | hge
    · split_ifs at hle ⊢ <;> omega
    · have := UInt32.le_iff_toNat_le.mp hge
      omega

variable {s₀ : App} {cs : List (List UInt8)}

theorem Live.written {t : App} (h : Live s₀ cs t) : Written s₀ cs t.spi := by
  obtain ⟨d, heap, out, u, content_len, timer, full, rfl, hp, rfl, hlater⟩ := h
  exact hp.written ((hp.fits hlater fun _ => rfl).mono (Nat.le_succ _))

theorem After.written {r : Bool × App} (h : After s₀ cs r) : Written s₀ cs r.2.spi := by
  rcases h with ⟨-, hlive⟩ | ⟨finished, overrun, -, d, heap, out, u, n, timer, heq, -, hw, -⟩
  · exact hlive.written
  · rw [heq]
    exact hw

/-- What a session has written stays in its partition while the length is moderate. -/
theorem Written.contained (h0 : s₀.Opened) {flash_map : UInt8} {running : ℤ} {t : App} (h : Written s₀ cs t.spi)
    (htarget : s₀.upgradeFlashAddr = targetAddr none (UInt32.ofInt running) flash_map)
    (hmoderate : Moderate flash_map running cs) : Contained flash_map running s₀ t := by
  obtain ⟨-, ps, ops, hlog, hops, hpieces, hfits⟩ := h
  have hsize := hfits.le_room hmoderate
  have hbound := h0.bound
  have hmost : room flash_map running ≤ 0xF0000 := by
    unfold room
    split_ifs <;> omega
  refine ⟨ops, hlog, fun op hop a ha => ?_⟩
  have hin := rewrite_touches (by decide) h0.aligned hpieces.le (by omega) op (hops.subset hop) a ha
  rw [htarget] at hin ⊢
  exact mayWrite_of_lt_room hin.1 (by omega)

variable {lib : LibAt} {md5 : List UInt8 → Digest}

variable (lib md5) in
/-- How `AT+UPDATEFIRMWARE` opens a session. -/
theorem update_opening (hbusy : s.busy = false) (hidle : ∀ u, s.upgrade ≠ .live u) {dns : DnsResult}
    {u : UpgradeStatus} (hlive : (s.execute lib md5 (.update dns)).upgrade = .live u) : ∃ heap out timer,
    s.execute lib md5 (.update dns) = (s.startingFor .upgrade).opening .update heap out timer := by
  obtain hopening | hrefused := execute_starts lib md5 hbusy (c := .update dns) rfl
  · exact hopening
  · exfalso
    obtain hup | hup | hup := hrefused.upgrade
    · exact hidle u (hup.symm.trans hlive)
    · rw [hup] at hlive
      cases hlive
    · rw [hup] at hlive
      cases hlive

variable (lib md5) in
/-- A session that `AT+UPDATEFIRMWARE` has opened. -/
theorem update_opened (hrun : s.crashed = false) (hbusy : s.busy = false) (hidle : ∀ u, s.upgrade ≠ .live u)
    {dns : DnsResult} {u : UpgradeStatus} (hlive : (s.execute lib md5 (.update dns)).upgrade = .live u) :
    (s.execute lib md5 (.update dns)).Opened ∧ (s.execute lib md5 (.update dns)).upgradeFlashAddr =
      targetAddr s.updateForcedFw s.currFw (s.currType >>> 4) := by
  obtain ⟨heap, out, timer, heq⟩ := update_opening lib md5 hbusy hidle hlive
  rw [heq]
  refine ⟨⟨rfl, rfl, hrun, (targetAddr_bound _ _ _).1, (targetAddr_bound _ _ _).2, ?_, rfl⟩, rfl⟩
  exact ⟨_, rfl, rfl, rfl, rfl, rfl⟩

variable (lib md5) in
/-- **An update with an automatic target stays in its partition**, in whatever state it is started and whatever is
received, as long as there is room for the announced length or it is refused. -/
theorem stays_in_target (hs : ∀ u, s.upgrade ≠ .live u) (actions : List UpdateAction) {x : Tracked}
    (hx : Machine.run (Tracked.next lib md5) actions (Tracked.atReset s) = x) (hrun : x.app.crashed = false)
    (hbusy : x.app.busy = false) (hauto : x.app.updateForcedFw = none) (dns : DnsResult) {u₀ u : UpgradeStatus}
    (hstart : x.app.execute lib md5 (.update dns) = s₀) (hopen : s₀.upgrade = .live u₀) (es : List NetEvent)
    (hgoes : (s₀.run md5 es).upgrade = .live u) (hruns : (s₀.run md5 es).crashed = false) (data : Chunk)
    (reading : Bool)
    (hmoderate : Moderate (x.app.currType >>> 4) x.app.getRtcCurrFw (received (es ++ [.received data reading]))) :
    Contained (x.app.currType >>> 4) x.app.getRtcCurrFw s₀ ((s₀.run md5 es).receive data reading).2 := by
  have hsessions : x.Sessions :=
    hx ▸ run_invariant (fun a y hy => Tracked.sessions_next lib md5 hy a) (Tracked.sessions_atReset hs)
  have hopened := update_opened lib md5 hrun hbusy (hsessions.idle hrun hbusy) (hstart ▸ hopen)
  rw [hstart, hauto] at hopened
  obtain ⟨h0, htarget⟩ := hopened
  have hlive : Live s₀ (received es) (s₀.run md5 es) := by
    rcases run_session md5 h0 es with hlive | ⟨cs, -, hover, -⟩
    · exact hlive
    · rcases hover with hcrash | ⟨hnull, -⟩
      · exact absurd (hruns.symm.trans hcrash) Bool.false_ne_true
      · rw [hnull] at hgoes
        cases hgoes
  rw [received_append] at hmoderate
  exact (receive_live h0 hlive data reading).written.contained h0 htarget hmoderate

theorem started_facts : Tracked.oneMegabyte.currType >>> 4 = 2 ∧ Tracked.oneMegabyte.getRtcCurrFw = 0 ∧
    Tracked.started.app.upgradeFlashAddr = 0x81000 ∧
    ∀ c ∈ Tracked.threeBytes.head?, (announced [c.val]).toNat = 3 := by
  decide +kernel

/-- The first part of a short firmware. -/
theorem stays_in_target_threeBytes : ∃ c ∈ Tracked.threeBytes.head?,
    Contained (Tracked.oneMegabyte.currType >>> 4) Tracked.oneMegabyte.getRtcCurrFw Tracked.started.app
      (Tracked.started.app.receive c true).2 := by
  obtain ⟨u, hlive, -⟩ := Tracked.started_live
  refine ⟨_, rfl, stays_in_target plainAt Md5.digest (s := Tracked.oneMegabyte) (by rintro u ⟨⟩) [] rfl rfl rfl rfl
    .ok rfl hlive [] hlive rfl _ true (Or.inl ?_)⟩
  show (announced [_]).toNat ≤ room (Tracked.oneMegabyte.currType >>> 4) Tracked.oneMegabyte.getRtcCurrFw
  rw [started_facts.2.2.2 _ rfl, started_facts.1]
  decide

/-! ### Long firmwares -/

/-- The sector behind so many bytes of a firmware is erased. -/
theorem Taken.erases {u₀ : UpgradeStatus} {n : UInt32} {body : List UInt8} {t : App} (h : Taken s u₀ n body t)
    (htype : s.upgradeType = .upgrade) {i : ℕ} (hi : SECTOR_SIZE * i < body.length) : ∃ ops,
      t.spi.log = s.spi.log ++ ops ∧
        .erase ((s.upgradeFlashAddr + UInt32.ofNat (SECTOR_SIZE * i)).toNat / SECTOR_SIZE) ∈ ops := by
  obtain ⟨ps, u, out, timer, rfl, -, hup, -⟩ := h
  obtain ⟨hflat, hpieces, -⟩ := hup htype
  refine ⟨rewrite SECTOR_SIZE s.upgradeFlashAddr ps, rfl, ?_⟩
  have hlen : body.length ≤ SECTOR_SIZE * ps.length := by
    rw [← hflat, List.length_flatten, mul_comm]
    exact List.sum_le_card_nsmul _ _ (by simpa using hpieces.le) |>.trans_eq (by simp)
  have hlt : i < ps.length := by
    by_contra hge
    have := Nat.mul_le_mul_left SECTOR_SIZE (Nat.le_of_not_lt hge)
    omega
  rw [← List.take_append_drop i ps, rewrite_append, List.length_take, min_eq_left hlt.le,
    List.drop_eq_getElem_cons hlt]
  simp [rewrite]

/-- A header that announces 500000 bytes. -/
def longHead : Chunk :=
  ⟨(CString.ascii "HTTP/1.0 200 OK\r\nContent-Length: 500000\r\n\r\n").take 0xFFFF, Tracked.take_chunk _⟩

/-- One byte of a firmware. -/
def zeroByte : Chunk := ⟨[0], by decide⟩

theorem longHead_header : responseHeader longHead.val = some (500000, []) ∧ longHead.val.length ≤ SECTOR_SIZE ∧
    ¬ContentLengthError Tracked.started.app.upgradeType Tracked.started.app.upgradeFlashMap 500000 := by
  decide +kernel

theorem zeroBytes_length (k : ℕ) : ([] ++ ((List.replicate k zeroByte).map Subtype.val).flatten).length = k := by
  simp [zeroByte]

theorem zeroBytes_mem {k : ℕ} : ∀ c ∈ List.replicate k zeroByte, c.val ≠ [] ∧ c.val.length ≤ SECTOR_SIZE := by
  intro c hc
  obtain rfl := List.eq_of_mem_replicate hc
  decide

theorem received_arrivals (chunks : List Chunk) (data : Chunk) (reading : Bool) :
    received (arrivals chunks ++ [.received data reading]) = (chunks ++ [data]).map Subtype.val := by
  rw [received_append, List.map_append]
  congr 1
  induction chunks with
  | nil => rfl
  | cons c chunks ih => exact congrArg (c.val :: ·) ih

/-- With partition 0 of a flash of 1 MB running, a firmware of 500000 bytes reaches the boot configuration. -/
theorem not_stays_in_target : ∃ es data, (∀ c ∈ received (es ++ [.received data true]), c.length ≤ SECTOR_SIZE) ∧
    (∃ u, (Tracked.started.app.run Md5.digest es).upgrade = .live u) ∧
    (Tracked.started.app.run Md5.digest es).crashed = false ∧
    ¬Contained (Tracked.oneMegabyte.currType >>> 4) Tracked.oneMegabyte.getRtcCurrFw Tracked.started.app
      ((Tracked.started.app.run Md5.digest es).receive data true).2 := by
  obtain ⟨hhead, hfirst, haccepted⟩ := longHead_header
  obtain ⟨hmap, hfw, haddr, -⟩ := started_facts
  obtain ⟨u, hlive, -⟩ := Tracked.started_live
  have hsessions : Tracked.started.Sessions := by
    refine Tracked.sessions_next plainAt Md5.digest (Tracked.sessions_atReset ?_) _
    rintro u ⟨⟩
  have hfresh : Tracked.started.app.Fresh u := hsessions.fresh rfl hlive rfl
  have hok : Tracked.started.app.spi.AllOk := fun _ => rfl
  have hlater : List.replicate 500000 zeroByte = List.replicate 499999 zeroByte ++ [zeroByte] := List.replicate_succ'
  have htaking := hfresh.taking Md5.digest hok hhead haccepted (List.append_nil _).symm (Nat.zero_le _) zeroBytes_mem
    (zeroBytes_length 500000).symm hlater (List.cons_ne_nil _ _)
  have hlen := zeroBytes_length 499999
  set got := [] ++ ((List.replicate 499999 zeroByte).map Subtype.val).flatten
  have hall : (got ++ zeroByte.val).length = 500000 := by
    rw [List.length_append, hlen]
    rfl
  have htaken := (htaking.receive hok hfresh.placed (by decide) haccepted (by decide) hall.le).2 hall
  obtain ⟨ops, hlog, hmem⟩ := htaken.2.erases rfl (i := 0x79) (by rw [hall]; decide)
  obtain ⟨full, v, out, timer, -, hsession⟩ := htaking
  refine ⟨arrivals (longHead :: List.replicate 499999 zeroByte), zeroByte, fun c hc => ?_, ⟨v, by rw [hsession]; rfl⟩,
    by rw [hsession]; rfl, fun hcontained => ?_⟩
  · rw [received_arrivals] at hc
    obtain ⟨d, hd, rfl⟩ := List.mem_map.mp hc
    rcases List.mem_append.mp hd with hd | hd
    · rcases List.mem_cons.mp hd with rfl | hd
      · exact hfirst
      · exact (zeroBytes_mem d hd).2
    · obtain rfl := List.mem_singleton.mp hd
      decide
  · obtain ⟨ops', hlog', hall'⟩ := hcontained
    obtain rfl := List.append_cancel_left (hlog.symm.trans hlog')
    rw [haddr] at hmem hall'
    have hin := (hall' _ hmem 0xFA000 (show (0xFA000 : UInt32).toNat / SECTOR_SIZE = _ by decide)).target
    rw [hmap] at hin
    exact absurd hin.2 (by decide)

end App

end Esp8266At
