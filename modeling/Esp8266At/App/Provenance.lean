import Esp8266At.App.Accepted
import Esp8266At.App.Containment

/-!
# What an accepted firmware is made of

When `check_firmware` is called, the whole body of the response stands at the target (`checking_downloaded`), and
behind it whatever the flash held before. A body that has all the bytes its headers describe is accepted or refused
by itself, and an image that is recorded has been received (`only_downloaded`). The length of the image is never
compared with the length of the body, so that an older image is accepted for a short one (`not_only_downloaded`).
-/

namespace Esp8266At

open ByteSpace NorFlash Machine

/-! ### Images inside a body -/

/-- Read as an image in a flash that is otherwise empty, the body has all the bytes at which it is read. -/
def Complete (addr : UInt32) (body : List UInt8) : Prop :=
  Image.Inside (store (fun _ => 0xFF) addr body) addr body.length

/-- A complete body is read in the same way whatever the rest of the flash holds. -/
theorem inside_of_complete {f : Space} {addr : UInt32} {body : List UInt8} (h : Complete addr body)
    (hf : slice f addr body.length = body) (hlen : body.length < 2 ^ 32) : Image.Inside f addr body.length := by
  have hsame : Image.Same (store (fun _ => 0xFF) addr body) f addr := by
    refine Image.same_of_reads fun x hx => ?_
    obtain ⟨i, hi, rfl⟩ := mem_span.mp (h hx)
    rw [store_add _ _ _ _ hi hlen.le]
    have hget := slice_getElem f addr body.length i (by rw [slice_length]; exact hi)
    rw [← hget]
    simp only [hf]
  unfold Image.Inside
  rw [← hsame.reads]
  exact h

theorem length_le_of_inside {f : Space} {addr : UInt32} {n : ℕ} (h : Image.Inside f addr n) (hn : n < 2 ^ 32) :
    (Image.length f addr).toNat ≤ n := by
  by_contra hlt
  have hin : addr + UInt32.ofNat n ∈ span addr n := h (Or.inr (add_mem_span (Nat.lt_of_not_le hlt)))
  have hself : (addr + UInt32.ofNat n - addr).toNat < n := hin
  rw [add_ofNat_sub_self, Nat.mod_eq_of_lt hn] at hself
  exact Nat.lt_irrefl n hself

theorem slice_take (f : Space) (addr : UInt32) {k n : ℕ} (h : k ≤ n) : (slice f addr n).take k = slice f addr k := by
  obtain ⟨j, rfl⟩ := Nat.exists_eq_add_of_le h
  rw [slice_add, List.take_append_of_le_length (slice_length f addr k).ge,
    List.take_of_length_le (slice_length f addr k).le]

/-! ### The end of a download -/

namespace App

variable {md5 : List UInt8 → Digest} {s₀ c : App} {cs : List (List UInt8)}

/-- The sectors of a download end below the end of the flash. -/
theorem Fits.bound (h0 : s₀.Opened) {k : ℕ} (h : Fits cs k) :
    s₀.upgradeFlashAddr.toNat + SECTOR_SIZE * k ≤ 2 ^ 32 := by
  have hbound := h0.bound
  have hmax : FW_MAXSIZE.toNat = 0xF0000 := rfl
  unfold Fits at h
  simp only [SECTOR_SIZE] at h ⊢
  rcases h with hone | ⟨hlt, hk⟩
  · omega
  · have := UInt32.lt_iff_toNat_lt.mp hlt
    omega

/-- The whole body stands at the target. -/
theorem Downloaded.slice (h0 : s₀.Opened) {d : Spi} (h : Downloaded s₀ cs d) :
    slice d.flash s₀.upgradeFlashAddr (responseBody cs).length = responseBody cs := by
  obtain ⟨hbase, ps, hlog, hflat, hpieces, hfits, -⟩ := h
  show ByteSpace.slice (applyAll SECTOR_SIZE d.log d.base) _ _ = _
  rw [hlog, applyAll_append, ← hflat]
  exact hpieces.slice_rewrite (by decide) h0.aligned (hfits.bound h0) _

/-- A session that ends with success has downloaded all of the body. -/
theorem Live.finished (h0 : s₀.Opened) {t : App} (h : Live s₀ cs t) {e : NetEvent} {callback : OtaCallback}
    (hcalls : t.calls e = some (callback, true, c)) : Downloaded s₀ (cs ++ received [e]) c.spi ∧
      c.upgradeFlashAddr = s₀.upgradeFlashAddr ∧ c.upgradeContentLen = announced (cs ++ received [e]) := by
  obtain ⟨r, u, hend, hlive, -, hclean⟩ := calls_cleanUp hcalls
  obtain ⟨hrun, v, hv, hending⟩ := ending_some hend
  have hframe : t.upgradeType = .upgrade ∧ t.upgradeFlag = .start := by
    obtain ⟨d, heap, out, w, n, timer, full, rfl, -⟩ := h
    exact ⟨h0.type, h0.flag⟩
  -- without success the session has not finished
  have hflag : r.upgradeFlag = .finish := by
    obtain ⟨heap, out, heq⟩ := cleanUp_eq u r
    rw [heq] at hclean
    exact of_decide_eq_true (Prod.mk.inj hclean).1
  rcases quiet_or_received e with he | ⟨data, reading, rfl⟩
  · obtain ⟨heap, out, timer, conn, error, rfl⟩ := ending_idled hv he hending
    have hstart : t.upgradeFlag = .finish := hflag
    rw [hframe.2] at hstart
    cases hstart
  · simp only [endingOf] at hending
    split_ifs at hending with hends
    obtain rfl := Option.some.inj hending
    rcases receive_live h0 h data reading with ⟨hgoes, -⟩ | ⟨finished, overrun, -, hended⟩
    · rw [hgoes] at hends
      cases hends
    · obtain ⟨d, heap, out, w, n, timer, heq, -, -, hfin⟩ := hended
      rw [heq] at hflag hlive hclean
      have hfinished : finished = true := by
        cases finished with
        | true => rfl
        | false => cases hflag
      obtain ⟨-, hn, hdown⟩ := hfin hfinished
      obtain ⟨heap', out', hcleaned⟩ := cleanUp_eq u { s₀.session d heap out w n timer with
        upgradeFlag := if finished = true then .finish else .start, crashed := overrun }
      rw [hcleaned] at hclean
      obtain rfl := (Prod.mk.inj hclean).2
      exact ⟨hdown, rfl, hn⟩

theorem checking_calls {x : App} {e : NetEvent} (h : x.checking e = some c) :
    ∃ c₀ o, x.calls e = some (.update, true, c₀) ∧ c = c₀.printed o := by
  unfold checking at h
  cases hcalls : x.calls e with
  | none =>
    rw [hcalls] at h
    cases h
  | some r =>
    obtain ⟨callback, result, c₀⟩ := r
    rw [hcalls] at h
    cases callback with
    | updateBoot | verCheckMd5 => cases h
    | update =>
      cases result with
      | false => cases h
      | true =>
        obtain rfl := Option.some.inj h
        obtain ⟨o, ho⟩ := c₀.debug_out ("Checking firmware " ++ toString (fwNumber c₀.upgradeFlashAddr).toNat ++
          " at 0x" ++ CString.hex 6 c₀.upgradeFlashAddr.toNat ++ "\r\n")
        exact ⟨c₀, o, rfl, ho⟩

end App

namespace Tracked

variable {lib : LibAt} {md5 : List UInt8 → Digest} {x : Tracked} {e : NetEvent} {c : App}

open App

/-- When `check_firmware` is called, a firmware update has downloaded the whole body. -/
theorem checking_downloaded (h : x.Sessions) (hcheck : x.app.checking e = some c) : ∃ s₀, s₀.Opened ∧
    0x1000 ≤ s₀.upgradeFlashAddr.toNat ∧ Downloaded s₀ (x.chunks ++ received [e]) c.spi ∧
    c.upgradeFlashAddr = s₀.upgradeFlashAddr ∧ c.upgradeContentLen = announced (x.chunks ++ received [e]) := by
  obtain ⟨c₀, o, hcalls, rfl⟩ := checking_calls hcheck
  obtain ⟨t, u, hend, -⟩ := calls_cleanUp hcalls
  obtain ⟨hrun, v, hlive, -⟩ := ending_some hend
  obtain ⟨hcall, -⟩ := calls_cleaned hlive hcalls
  rcases h.resolve_left (by rw [hrun]; exact Bool.false_ne_true) v hlive with hup | hcol
  · obtain ⟨s₀, h0, -, hlow, hsession⟩ := hup
    have hfinished := hsession.finished h0 hcalls
    exact ⟨s₀, h0, hlow, hfinished⟩
  · have hother := hcol.callback
    rw [← hcall] at hother
    have htype := hcol.type
    cases hkind : x.app.upgradeType with
    | upgrade => exact absurd hkind htype
    | verCheck | verCheckBoot | md5 | md5Boot | upgBoot =>
      rw [hkind] at hother
      cases hother

/-! ### Accepted firmwares -/

/-- What `part_length[n]` of the boot configuration in flash is, for the partition number of a target. -/
def recordedLength (f : Space) (flash_addr : UInt32) : UInt32 :=
  (bootInfoAt f).partLengthAt (fwNumber flash_addr).toUInt8.toNat

/-- The image that has been recorded in `t` for the target of `c` has been received. -/
structure Received (body : List UInt8) (c t : App) : Prop where
  /-- Every byte that is read of the image is one of the body. -/
  validated : Image.reads c.spi.flash c.upgradeFlashAddr ⊆ span c.upgradeFlashAddr body.length
  length : recordedLength t.spi.flash c.upgradeFlashAddr ≤ c.upgradeContentLen
  bytes : slice c.spi.flash c.upgradeFlashAddr (recordedLength t.spi.flash c.upgradeFlashAddr).toNat =
    body.take (recordedLength t.spi.flash c.upgradeFlashAddr).toNat

/-- If `+UPDATEFIRMWARE:1` is answered, the image that has been recorded has been received. -/
def OnlyDownloaded (md5 : List UInt8 → Digest) (a : UpdateAction) (x : Tracked) : Prop :=
  ∀ e c v t, a = .event e → x.app.checking e = some c →
    checkFirmware md5 (fwNumber c.upgradeFlashAddr).toUInt8 c = (v, t) → v > 0 →
    Received (responseBody (x.chunks ++ received [e])) c t

/-- The body of a firmware that has been downloaded is complete. -/
def CompleteBody (a : UpdateAction) (x : Tracked) : Prop :=
  ∀ e c, a = .event e → x.app.checking e = some c →
    Complete c.upgradeFlashAddr (responseBody (x.chunks ++ received [e]))

/-- The length that is recorded is that of the image. -/
theorem recordedLength_accepted {v : UInt32} {t : App} (hbound : c.upgradeFlashAddr.toNat ≤ 0x701000)
    (hlow : 0x1000 ≤ c.upgradeFlashAddr.toNat)
    (hcheck : checkFirmware md5 (fwNumber c.upgradeFlashAddr).toUInt8 c = (v, t)) (hv : v > 0) :
    recordedLength t.spi.flash c.upgradeFlashAddr = Image.length c.spi.flash c.upgradeFlashAddr := by
  have hne : v ≠ 0 := by
    rintro rfl
    exact absurd hv (by decide)
  obtain ⟨-, -, hflash⟩ := checkFirmware_accepted hcheck hne
  have hindex : (fwNumber c.upgradeFlashAddr).toUInt8.toNat < 15 := by
    have hoffset : FW_PART_OFFSET.toNat = 0x1000 := rfl
    have hinc : FW_PART_INC.toNat = 0x80000 := rfl
    have hle : FW_PART_OFFSET ≤ c.upgradeFlashAddr := by
      rw [UInt32.le_iff_toNat_le, hoffset]
      exact hlow
    rw [fwNumber, UInt32.toNat_toUInt8, UInt32.toNat_div, hinc, UInt32.toNat_sub_of_le _ _ hle,
      hoffset]
    omega
  rw [recordedLength, hflash, bootInfoAt_save, newRecord, BootInfo.partLengthAt_setPartType_setPartMd5 _ hindex,
    BootInfo.partLengthAt_setPartLength _ hindex]

/-- A complete body is recorded as it has been received. -/
theorem received_of_complete (h : x.Sessions) (a : UpdateAction) (hcomplete : CompleteBody a x) :
    OnlyDownloaded md5 a x := by
  rintro e c v t rfl hcheck haccept hv
  obtain ⟨s₀, h0, hlow, hdown, haddr, hlen⟩ := checking_downloaded h hcheck
  have hbody := hdown.slice h0
  obtain ⟨-, -, -, -, -, -, hall, hmax⟩ := hdown
  have hmax' := UInt32.lt_iff_toNat_lt.mp hmax
  have hfw : FW_MAXSIZE.toNat = 0xF0000 := rfl
  have hshort : (responseBody (x.chunks ++ received [e])).length < 2 ^ 32 := by omega
  have hinside := inside_of_complete (hcomplete e c rfl hcheck) (haddr ▸ hbody) hshort
  have hle := length_le_of_inside hinside hshort
  have hrecord := recordedLength_accepted (haddr ▸ h0.bound) (haddr ▸ hlow) haccept hv
  refine ⟨hinside, ?_, ?_⟩
  · rw [hrecord, hlen, UInt32.le_iff_toNat_le, ← hall]
    exact hle
  · rw [hrecord, ← slice_take c.spi.flash c.upgradeFlashAddr hle, haddr, hbody]

variable (lib md5) in
/-- **Only downloaded bytes are accepted**, in every run in which the firmwares that are downloaded are complete. -/
theorem only_downloaded {s : App} (hs : ∀ u, s.upgrade ≠ .live u) (actions : List UpdateAction)
    (h : Along (next lib md5) CompleteBody actions (atReset s)) :
    Along (next lib md5) (OnlyDownloaded md5) actions (atReset s) :=
  h.of_invariant (fun a _ hx _ => sessions_next lib md5 hx a) (fun a _ hx ha => received_of_complete hx a ha)
    (sessions_atReset hs)

theorem firmwareReply_facts :
    (started.app.checking firmwareReply).map App.upgradeFlashAddr = some (partAddr 1) ∧
      responseBody (started.chunks ++ received [firmwareReply]) = tinyImage 0x40100004 0 0x20 7 := by
  decide +kernel

theorem tinyImage_complete : Complete (partAddr 1) (tinyImage 0x40100004 0 0x20 7) := by
  refine Image.inside_of_bounds ?_ ?_ ?_ ?_ ?_ <;> decide +kernel

/-- A small firmware. -/
theorem only_downloaded_firmwareReply : Along (next plainAt Md5.digest) (OnlyDownloaded Md5.digest)
    [.command (.update .ok), .event firmwareReply] (atReset oneMegabyte) := by
  refine only_downloaded plainAt Md5.digest (by rintro u ⟨⟩) _ ⟨?_, ?_, trivial⟩
  · rintro e c ⟨⟩
  · rintro e c ⟨⟩ hcheck
    obtain ⟨haddr, hbody⟩ := firmwareReply_facts
    have haddr' : c.upgradeFlashAddr = partAddr 1 :=
      Option.some.inj ((congrArg (Option.map App.upgradeFlashAddr) hcheck).symm.trans haddr)
    show Complete c.upgradeFlashAddr (responseBody (started.chunks ++ received [firmwareReply]))
    rw [haddr', hbody]
    exact tinyImage_complete

/-- A flash of 1 MB with an older firmware in partition 1. -/
def olderFirmware : App :=
  App.atReset (burn [(BOOT_PARAM_ADDR + 168, [0x20]), (partAddr 1, tinyImage 0x40100004 0 0x20 7)])
    (fun i => if i = 4 then BOOT_FW_MAGIC else 0) 2

def overOlder : Tracked := (atReset olderFirmware).next plainAt Md5.digest (.command (.update .ok))

/-- What `check_firmware` returns after this reply, the announced length and the length that is recorded. -/
def accepted (e : NetEvent) : Option (UInt32 × UInt32 × UInt32) :=
  (overOlder.app.checking e).map fun c =>
    ((checkFirmware Md5.digest (fwNumber c.upgradeFlashAddr).toUInt8 c).1, c.upgradeContentLen,
      recordedLength (checkFirmware Md5.digest (fwNumber c.upgradeFlashAddr).toUInt8 c).2.spi.flash
        c.upgradeFlashAddr)

theorem emptyReply_accepted : accepted (reply "0" []) = some (0x40100004, 0, 52) := by
  decide +kernel

/-- For an empty body the older firmware is accepted. -/
theorem not_only_downloaded : ¬∀ (s : App) (actions : List UpdateAction), (∀ u, s.upgrade ≠ .live u) →
    Along (next plainAt Md5.digest) (OnlyDownloaded Md5.digest) actions (atReset s) := by
  intro h
  obtain ⟨c, hc, hfacts⟩ := Option.map_eq_some_iff.mp emptyReply_accepted
  obtain ⟨hentry, hpair⟩ := Prod.mk.inj hfacts
  obtain ⟨hlen, hrecord⟩ := Prod.mk.inj hpair
  have hrun := h olderFirmware [.command (.update .ok), .event (reply "0" [])] (by rintro u ⟨⟩)
  have hle := (hrun.2.1 _ c _ _ rfl hc Prod.mk.eta.symm (by rw [hentry]; decide)).length
  rw [hrecord, hlen] at hle
  exact absurd hle (by decide)

end Tracked

end Esp8266At
