import Esp8266At.App.Checksum

/-!
# The bootloader sector

Firmware updates, the record of a checked firmware and the reset of the configuration all stay above sector 0
(`Spares`). What is left is `OtaUpdateBoot_CallBack`, which writes a response only after comparing its digest with
a downloaded one: in every run, sector 0 is replaced by a verified bootloader or not at all (`boot_sector_verified`).
-/

namespace Esp8266At

open ByteSpace NorFlash Machine

/-- The operations leave sector 0 alone. -/
def Spares (ops : List Op) : Prop := ∀ op ∈ ops, ∀ x ∈ op.touches SECTOR_SIZE, SECTOR_SIZE ≤ x.toNat

theorem spares_nil : Spares [] := by
  intro op hop
  cases hop

theorem spares_append {xs ys : List Op} : Spares (xs ++ ys) ↔ Spares xs ∧ Spares ys := by
  simp only [Spares, List.mem_append, or_imp, forall_and]

theorem Spares.initial {xs ys : List Op} (h : Spares ys) (hp : xs <+: ys) : Spares xs := by
  obtain ⟨zs, rfl⟩ := hp
  exact (spares_append.mp h).1

theorem spares_erase {sector : ℕ} (h : sector ≠ 0) : Spares [.erase sector] := by
  intro op hop x hx
  obtain rfl := List.mem_singleton.mp hop
  have hsector : x.toNat / SECTOR_SIZE = sector := hx
  simp only [SECTOR_SIZE] at hsector ⊢
  omega

theorem spares_saveOps (b : BootInfo) : Spares (saveOps b) := by
  intro op hop x hx
  have := mem_bootSector.mp (saveOps_touches b op hop hx)
  simp only [SECTOR_SIZE]
  omega

theorem spares_rewrite {a : UInt32} {ps : List (List UInt8)} (ha : a.toNat % SECTOR_SIZE = 0)
    (hlow : SECTOR_SIZE ≤ a.toNat) (hps : ∀ p ∈ ps, p.length ≤ SECTOR_SIZE)
    (hfit : a.toNat + SECTOR_SIZE * ps.length ≤ 2 ^ 32) : Spares (rewrite SECTOR_SIZE a ps) := by
  intro op hop x hx
  have := rewrite_touches (by decide) ha hps hfit op hop x hx
  omega

namespace App

variable {md5 : List UInt8 → Digest} {s t c : App}

variable (md5) in
/-- The operations of `check_firmware` are those of saving a record. -/
theorem checkFirmware_spares (s : App) (n : UInt8) : ∃ ops, Spares ops ∧
    (checkFirmware md5 n s).2.spi.log = s.spi.log ++ ops := by
  obtain ⟨hno, hyes⟩ := checkFirmware_spec md5 s n
  by_cases h : s.Checks md5
  · obtain ⟨t, ht, hc⟩ := hyes h
    refine ⟨_, ?_, by rw [ht]; exact hc.log⟩
    have hsave := spares_saveOps (s.newRecord md5 n)
    split_ifs
    · exact hsave
    · exact hsave.initial ⟨_, rfl⟩
    · exact spares_nil
  · obtain ⟨t, ht, hc⟩ := hno h
    exact ⟨[], spares_nil, by rw [ht]; exact hc.log⟩

@[simp] theorem spi_print (s : App) (m : String) : (s.print m).spi = s.spi := rfl

@[simp] theorem spi_responseOk (s : App) : s.responseOk.spi = s.spi := rfl

@[simp] theorem spi_responseError (s : App) : s.responseError.spi = s.spi := rfl

@[simp] theorem spi_systemRestart (s : App) : s.systemRestart.spi = s.spi := rfl

@[simp] theorem spi_atLeaveSpecialState (s : App) : s.atLeaveSpecialState.spi = s.spi := rfl

@[simp] theorem spi_debug (s : App) (m : String) : (s.debug m).spi = s.spi := by
  obtain ⟨o, ho⟩ := s.debug_out m
  rw [ho]
  rfl

/-! ### A firmware update -/

/-- All that a firmware update writes. -/
theorem outcome_spares {s₀ : App} {cs : List (List UInt8)} (h0 : s₀.Opened) (hlow : 0x1000 ≤ s₀.upgradeFlashAddr.toNat)
    (h : Outcome md5 s₀ cs t) : ∃ ops, Spares ops ∧ t.spi.log = s₀.spi.log ++ ops := by
  have hbound := h0.bound
  -- the sectors that are rewritten fit behind the target
  have rewritten : ∀ pieces, Pieces SECTOR_SIZE pieces → Fits cs pieces.length →
      Spares (rewrite SECTOR_SIZE s₀.upgradeFlashAddr pieces) := by
    intro pieces hp hfits
    refine spares_rewrite h0.aligned hlow hp.le ?_
    rcases hfits with hone | ⟨hmax, hlt⟩
    · simp only [SECTOR_SIZE]
      omega
    · have := UInt32.lt_iff_toNat_lt.mp hmax
      have hfw : FW_MAXSIZE.toNat = 0xF0000 := rfl
      simp only [SECTOR_SIZE] at hlt ⊢
      omega
  rcases h with ⟨⟨-, pieces, ops, hlog, hinitial, hp, hfits⟩, -⟩ |
    ⟨c, v, w, ⟨-, pieces, hlog, -, hp, hfits, -⟩, -, -, hcheck, hspi, -⟩
  · exact ⟨ops, (rewritten pieces hp hfits).initial hinitial, hlog⟩
  · obtain ⟨ops, hops, hw⟩ := checkFirmware_spares md5 c (fwNumber s₀.upgradeFlashAddr).toUInt8
    rw [hcheck] at hw
    refine ⟨_, spares_append.mpr ⟨rewritten pieces hp hfits, hops⟩, ?_⟩
    rw [hspi, hw, hlog, List.append_assoc]

/-! ### The bootloader -/

theorem eraseAts_spares (as : List UInt32) (h : ∀ a ∈ as, (a / UInt32.ofNat SECTOR_SIZE).toUInt16.toNat ≠ 0) (s : App) :
    ∃ ops, Spares ops ∧ (as.foldl eraseAt s).spi.log = s.spi.log ++ ops := by
  induction as generalizing s with
  | nil => exact ⟨[], spares_nil, (List.append_nil _).symm⟩
  | cons a as ih =>
    obtain ⟨ops, hops, hlog⟩ := ih (fun b hb => h b (by simp [hb])) (s.eraseAt a)
    have herase : (s.eraseAt a).spi =
        (s.spi.perform (.erase (a / UInt32.ofNat SECTOR_SIZE).toUInt16.toNat)).2 := rfl
    rw [List.foldl_cons, hlog, herase]
    unfold Device.perform
    split_ifs
    · exact ⟨_, spares_append.mpr ⟨spares_erase (h a (by simp)), hops⟩, List.append_assoc _ _ _⟩
    · exact ⟨ops, hops, rfl⟩

/-- Once the bootloader has been written, only sectors of the configuration are erased. -/
theorem bootloaderUpdated_spares (s : App) : ∃ ops, Spares ops ∧ s.bootloaderUpdated.spi.log = s.spi.log ++ ops := by
  have hconfig : ∀ a ∈ [BOOT_PARAM_ADDR, SYSTEM_PARTITION_RF_CAL_ADDR, SYSTEM_PARTITION_SYSTEM_PARAMETER_ADDR,
      SYSTEM_PARTITION_SYSTEM_PARAMETER_ADDR + 0x1000, SYSTEM_PARTITION_SYSTEM_PARAMETER_ADDR + 0x2000,
      systemPartitionAtParameterAddr s.spiFlashSizeMap, systemPartitionAtParameterAddr s.spiFlashSizeMap + 0x1000,
      systemPartitionAtParameterAddr s.spiFlashSizeMap + 0x2000],
      (a / UInt32.ofNat SECTOR_SIZE).toUInt16.toNat ≠ 0 := by
    obtain ⟨b, hb, heq⟩ : ∃ b, b ∈ ([0xF7000, 0x7D000] : List UInt32) ∧
        systemPartitionAtParameterAddr s.spiFlashSizeMap = b := by
      unfold systemPartitionAtParameterAddr systemPartitionParamStart
      split_ifs
      · exact ⟨0xF7000, by decide, rfl⟩
      · exact ⟨0x7D000, by decide, rfl⟩
    rw [heq]
    simp only [List.mem_cons, List.not_mem_nil, or_false] at hb
    simp only [List.forall_mem_cons, List.not_mem_nil, false_implies, implies_true, and_true]
    rcases hb with rfl | rfl
    · refine ⟨by decide, by decide, by decide, by decide, by decide, by decide, by decide, by decide⟩
    · refine ⟨by decide, by decide, by decide, by decide, by decide, by decide, by decide, by decide⟩
  obtain ⟨ops, hops, hlog⟩ := eraseAts_spares _ hconfig ((s.print "+UPDATEBOOT:1\r\n").atLeaveSpecialState.responseOk)
  rw [spi_responseOk, spi_atLeaveSpecialState, spi_print] at hlog
  unfold bootloaderUpdated
  simp only
  split_ifs
  · rw [spi_systemRestart, spi_print]
    exact ⟨ops, hops, hlog⟩
  · rw [spi_responseOk, spi_atLeaveSpecialState, spi_print]
    exact ⟨[], spares_nil, (List.append_nil _).symm⟩

/-- What is written of a response for the bootloader sector. -/
def withFlashMap (flashMap : UInt8) (body : List UInt8) : List UInt8 :=
  (body.set 2 (flashMap &&& 0x0F)).set 3 (flashMap &&& 0xF0)

/-- The digest of the response is the downloaded one. -/
def Verified (md5 : List UInt8 → Digest) (body : List UInt8) (c : App) : Prop :=
  CString.strlen c.updateMd5 = 32 ∧ c.updateMd5.take 32 = digestText (md5 body)

/-- `ops` replace sector 0 by `body`, as far as they succeed. -/
def Replaces (body : List UInt8) (ops : List Op) : Prop :=
  ops = [.erase 0] ∨ ∃ rest, Spares rest ∧ ops = [.erase 0, .program 0 body] ++ rest

/-- The flash operations a callback for the bootloader may add. -/
def BootOps (md5 : List UInt8 → Digest) (result : Bool) (c t : App) : Prop :=
  ∃ ops, t.spi.log = c.spi.log ++ ops ∧ (ops = [] ∨
    ∃ response, result = true ∧ c.upgradeCheckResponse = some response ∧
      Verified md5 (response.take c.upgradeContentLen.toNat) c ∧
      Replaces ((withFlashMap c.upgradeFlashMap response).take c.upgradeContentLen.toNat) ops)

theorem bootOps_of_eq {result : Bool} (h : t.spi.log = c.spi.log) : BootOps md5 result c t :=
  ⟨[], by rw [h, List.append_nil], Or.inl rfl⟩

/-- An operation fails without effect, or is performed. -/
theorem perform_cases (d : Spi) (op : Op) : ∃ ok d', d.perform op = (ok, d') ∧
    d'.log = d.log ++ if ok then [op] else [] := by
  unfold Device.perform
  split_ifs
  · exact ⟨true, _, rfl, rfl⟩
  · exact ⟨false, _, rfl, (List.append_nil _).symm⟩

theorem erase_cases (s : App) : ∃ ok d, s.spiFlashEraseSector 0 = (ok, { s with spi := d }) ∧
    d.log = s.spi.log ++ if ok then [.erase 0] else [] := by
  obtain ⟨ok, d, h, hlog⟩ := perform_cases s.spi (.erase (0 : UInt32).toUInt16.toNat)
  refine ⟨ok, d, ?_, hlog⟩
  unfold spiFlashEraseSector
  rw [h]

theorem write_cases (s : App) (data : List UInt8) : ∃ ok d, s.spiFlashWrite 0 data = (ok, { s with spi := d }) ∧
    d.log = s.spi.log ++ if ok then [.program 0 data] else [] := by
  obtain ⟨ok, d, h, hlog⟩ := perform_cases s.spi (.program 0 data)
  refine ⟨ok, d, ?_, hlog⟩
  unfold spiFlashWrite
  rw [h]

variable (md5) in
theorem checkBootloader_spec (s : App) (response : List UInt8) :
    ∃ ok t, checkBootloader md5 response s = (ok, t) ∧ (∃ o, t = s.printed o) ∧
      (ok = true → Verified md5 (response.take s.upgradeContentLen.toNat) s) := by
  unfold checkBootloader
  split_ifs with hlen hsame
  · exact ⟨true, s, rfl, ⟨s.out, rfl⟩, fun _ => ⟨hlen, hsame⟩⟩
  · exact ⟨false, _, rfl, s.debug_out _, fun h => Bool.noConfusion h⟩
  · exact ⟨false, _, rfl, s.debug_out _, fun h => Bool.noConfusion h⟩

variable (md5 c) in
/-- `OtaUpdateBoot_CallBack` leaves the flash alone, or writes a verified response. -/
theorem otaUpdateBootCallBack_ops (result : Bool) : BootOps md5 result c (c.otaUpdateBootCallBack md5 result) := by
  unfold otaUpdateBootCallBack
  cases result with
  | false => exact bootOps_of_eq rfl
  | true =>
    cases hresponse : c.upgradeCheckResponse with
    | none => exact bootOps_of_eq rfl
    | some response =>
      obtain ⟨o₁, ho₁⟩ := c.debug_out "Checking bootloader MD5 csum\r\n"
      obtain ⟨ok, t, hcheck, ⟨o₂, rfl⟩, hverified⟩ := checkBootloader_spec md5 (c.printed o₁) response
      simp only [ho₁, hcheck]
      cases ok with
      | false => exact bootOps_of_eq rfl
      | true =>
        have hver : Verified md5 (response.take c.upgradeContentLen.toNat) c := hverified rfl
        simp only
        split_ifs
        · exact bootOps_of_eq rfl
        set c₂ : App := (c.printed o₁).printed o₂ with hc₂
        set c₁ : App := { c₂ with
          upgradeCheckResponse := some ((response.set 2 (c₂.upgradeFlashMap &&& 0x0F)).set 3 (c₂.upgradeFlashMap &&& 0xF0)) }
        obtain ⟨erased, d, herase, hlog⟩ := erase_cases c₁
        set body := (withFlashMap c.upgradeFlashMap response).take c.upgradeContentLen.toNat
        have replaced : ∀ ops (t : App), t.spi.log = c.spi.log ++ ops → Replaces body ops → BootOps md5 true c t :=
          fun ops t hlog hops => ⟨ops, hlog, Or.inr ⟨response, rfl, hresponse, hver, hops⟩⟩
        rw [herase]
        cases erased with
        | false => exact bootOps_of_eq (hlog.trans (List.append_nil _))
        | true =>
          obtain ⟨written, d', hwrite, hlog'⟩ := write_cases { c₁ with spi := d }
            (List.take c₁.upgradeContentLen.toNat
              ((response.set 2 (c₂.upgradeFlashMap &&& 0x0F)).set 3 (c₂.upgradeFlashMap &&& 0xF0)))
          simp only [hwrite]
          cases written with
          | false => exact replaced [.erase 0] _ (hlog'.trans (by rw [hlog]; exact List.append_nil _)) (Or.inl rfl)
          | true =>
            obtain ⟨rest, hrest, hlog''⟩ := bootloaderUpdated_spares { c₁ with spi := d' }
            refine replaced ([.erase 0, .program 0 body] ++ rest) _ ?_ (Or.inr ⟨rest, hrest, rfl⟩)
            rw [hlog'', hlog', hlog]
            simp only [if_true, List.append_assoc]
            rfl

theorem checkVersion_spi (s : App) (name old_ver : String) (echo : Bool) (response : List UInt8) :
    (s.checkVersion name old_ver echo response).spi = s.spi := by
  simp only [checkVersion]
  by_cases hline : ((CString.text response).takeWhile (· ≠ 0x0D)).length < CString.strlen response ∧
      ((CString.text response).takeWhile (· ≠ 0x0D)).length = old_ver.length
  · rw [if_pos hline]
    cases echo <;> rfl
  · rw [if_neg hline]
    rfl

/-- A version check and a checksum write nothing. -/
theorem otaVerCheckMd5CallBack_spi (s : App) (result : Bool) : (s.otaVerCheckMd5CallBack result).spi = s.spi := by
  unfold otaVerCheckMd5CallBack
  cases result with
  | false => cases s.upgradeType <;> rfl
  | true =>
    cases s.upgradeCheckResponse with
    | none => cases s.upgradeType <;> rfl
    | some response =>
      cases s.upgradeType with
      | verCheck => exact s.checkVersion_spi _ _ _ response
      | verCheckBoot => exact s.checkVersion_spi _ _ _ response
      | upgrade | upgBoot | md5 | md5Boot => rfl

theorem callBack_extends (c : App) (callback : OtaCallback) (result : Bool) :
    Extends c.spi (c.callBack md5 callback result).spi := by
  cases callback with
  | update =>
    obtain ⟨_, _, _, _, _, _, _, _, heq, hd⟩ := (Reported.self c).otaUpdateCallBack md5 result
    rw [callBack, heq]
    exact hd
  | updateBoot =>
    obtain ⟨_, _, _, _, _, _, _, _, heq, hd⟩ := (Reported.self c).otaUpdateBootCallBack md5 result
    rw [callBack, heq]
    exact hd
  | verCheckMd5 =>
    rw [callBack, otaVerCheckMd5CallBack_spi]
    exact .self _

end App

namespace Tracked

variable {lib : LibAt} {md5 : List UInt8 → Digest} {x : Tracked} {u : UpgradeStatus}

open App

/-! ### One action -/

/-- Sector 0 is left alone, or `OtaUpdateBoot_CallBack` replaces it by the body of the response, whose digest is
the downloaded one. -/
def BootVerified (lib : LibAt) (md5 : List UInt8 → Digest) (a : UpdateAction) (x : Tracked) : Prop :=
  ∃ ops, (x.next lib md5 a).app.spi.log = x.app.spi.log ++ ops ∧
    (Spares ops ∨ ∃ e c, a = .event e ∧ x.app.calls e = some (.updateBoot, true, c) ∧ c.spi = x.app.spi ∧
      (responseBody (x.chunks ++ received [e])).length = c.upgradeContentLen.toNat ∧
      Verified md5 (responseBody (x.chunks ++ received [e])) c ∧
      Replaces (withFlashMap c.upgradeFlashMap (responseBody (x.chunks ++ received [e]))) ops)

variable (lib md5) in
/-- Nothing that has been done to the flash is undone. -/
theorem next_extends (x : Tracked) (a : UpdateAction) : x.app.spi.log <+: (x.next lib md5 a).app.spi.log := by
  have hdoes := does_next lib md5 x a
  generalize x.next lib md5 a = y at hdoes ⊢
  obtain _ | _ | _ | ⟨c, type, dns, hc, hrun, hbusy, t, ht⟩ | _ | ⟨e, u, hlive, hend, t, ht⟩ |
    ⟨e, u, hlive, result, c, hcalls, hc⟩ := hdoes
  · exact List.prefix_rfl
  · exact List.prefix_rfl
  · exact List.prefix_rfl
  · rw [ht.log]
  · exact List.prefix_rfl
  · obtain ⟨d, _, _, _, _, _, _, _, rfl, -, hd⟩ := ht
    exact hd.2
  · obtain ⟨d, _, _, _, _, _, _, rfl, hd⟩ := hc
    exact (hd.trans (callBack_extends _ u.callback result)).2

theorem next_event (e : NetEvent) : (x.next lib md5 (.event e)).app = x.app.step md5 e := by
  unfold next step
  split_ifs <;> rfl

variable (lib) in
/-- What a firmware update adds spares sector 0. -/
theorem updating_spares (h : x.Updating) (e : NetEvent) : ∃ ops, Spares ops ∧
    (x.next lib md5 (.event e)).app.spi.log = x.app.spi.log ++ ops := by
  obtain ⟨ops, hops⟩ := next_extends lib md5 x (.event e)
  rw [← hops]
  obtain ⟨s₀, h0, -, hlow, hlive⟩ := h
  have houtcome : Outcome md5 s₀ x.chunks x.app := hlive.outcome
  obtain ⟨before, -, hbefore⟩ := outcome_spares h0 hlow houtcome
  have hafter : Outcome md5 s₀ (x.chunks ++ received [e]) (x.app.step md5 e) :=
    (step_live md5 h0 hlive e).elim (fun hgoes => hgoes.outcome) fun hover => hover.2
  obtain ⟨after, hspares, hlog⟩ := outcome_spares h0 hlow hafter
  rw [next_event, hlog, hbefore, List.append_assoc] at hops
  obtain rfl := List.append_cancel_left hops
  exact ⟨ops, (spares_append.mp hspares).2, rfl⟩

/-- Before it ends, a session of another kind does nothing to the flash. -/
theorem Collecting.step_spi (h : x.Collecting u) (hlive : x.app.upgrade = .live u) {e : NetEvent}
    (hend : x.app.ending e = none) : (x.app.step md5 e).spi = x.app.spi := by
  rcases quiet_or_received e with he | ⟨data, reading, rfl⟩
  · obtain ⟨t, crashed, ⟨heap, out, timer, conn, error, rfl⟩, hstep⟩ := step_quiet md5 hlive he hend
    rw [hstep]
    rfl
  · unfold step
    split_ifs with hcrash
    · rfl
    rw [ending_live hlive (by simpa using hcrash)] at hend
    simp only [endingOf] at hend
    simp only [upgradeRecvcb]
    obtain ⟨u', out, n, timer, hr, -, -⟩ | ⟨u', out, n, timer, hr, -⟩ | ⟨u', out, n, timer, hr, -, -⟩ :=
      receive_response hlive h.type h.responding data reading
    · rw [hr]
      rfl
    · rw [hr] at hend
      cases hend
    · rw [hr] at hend
      cases hend

/-- Nor does its end, up to the function it ends with. -/
theorem Collecting.calls_spi (h : x.Collecting u) (hlive : x.app.upgrade = .live u) {e : NetEvent}
    {callback : OtaCallback} {result : Bool} {c : App} (hcalls : x.app.calls e = some (callback, result, c)) :
    c.spi = x.app.spi := by
  obtain ⟨t, v, hending, hv, -, hclean⟩ := calls_cleanUp hcalls
  obtain ⟨-, w, hw, hend⟩ := ending_some hending
  obtain rfl : u = w := UpgradePtr.live.inj (hlive.symm.trans hw)
  have hspi : t.spi = x.app.spi := by
    rcases quiet_or_received e with he | ⟨data, reading, rfl⟩
    · obtain ⟨heap, out, timer, conn, error, rfl⟩ := ending_idled hlive he hend
      rfl
    · simp only [endingOf] at hend
      split_ifs at hend
      obtain rfl := Option.some.inj hend
      obtain ⟨u', out, n, timer, hr, -, -⟩ | ⟨u', out, n, timer, hr, -⟩ | ⟨u', out, n, timer, hr, -, -⟩ :=
        receive_response hlive h.type h.responding data reading
      all_goals rw [hr]; rfl
  obtain ⟨heap, out, hclean'⟩ := cleanUp_eq v t
  rw [hclean'] at hclean
  obtain ⟨-, rfl⟩ := Prod.mk.inj hclean
  exact hspi

/-- What is written of a response is what is written of its body. -/
theorem withFlashMap_take (flashMap : UInt8) {body : List UInt8} {n : ℕ} (h : body.length = n) :
    (withFlashMap flashMap (body ++ [0, 0])).take n = withFlashMap flashMap body := by
  unfold withFlashMap
  rw [List.take_set, List.take_set, List.take_append_of_le_length h.ge, ← h, List.take_length]

/-- Commands do nothing to the flash. -/
theorem command_log (c : UpdateCommand) : (x.next lib md5 (.command c)).app.spi.log = x.app.spi.log := by
  have hdoes := does_next lib md5 x (.command c)
  generalize x.next lib md5 (.command c) = y at hdoes ⊢
  obtain _ | _ | _ | ⟨_, type, dns, hc, hrun, hbusy, t, ht⟩ := hdoes
  · rfl
  · rfl
  · rfl
  · exact ht.log

/-- The end of a session of another kind. -/
theorem Collecting.ends_verified (h : x.Collecting u) (hlive : x.app.upgrade = .live u) {e : NetEvent} {result : Bool}
    {c : App} (hcalls : x.app.calls e = some (u.callback, result, c))
    (hnext : (x.next lib md5 (.event e)).app = c.callBack md5 u.callback result) :
    BootVerified lib md5 (.event e) x := by
  have hspi := h.calls_spi hlive hcalls
  unfold BootVerified
  rw [hnext, ← hspi]
  cases hcall : u.callback with
  | update =>
    have hcallback := h.callback
    rw [hcall] at hcallback
    cases htype : x.app.upgradeType with
    | upgrade => exact absurd htype h.type
    | upgBoot | verCheck | verCheckBoot | md5 | md5Boot =>
      rw [htype] at hcallback
      cases hcallback
  | verCheckMd5 => exact ⟨[], by rw [callBack, otaVerCheckMd5CallBack_spi, List.append_nil], Or.inl spares_nil⟩
  | updateBoot =>
    rw [hcall] at hcalls
    obtain ⟨ops, hlog, hnone | ⟨response, rfl, hresponse, hver, hreplaces⟩⟩ := c.otaUpdateBootCallBack_ops md5 result
    · exact ⟨ops, hlog, Or.inl (hnone ▸ spares_nil)⟩
    · obtain ⟨hbody, hlen, -⟩ := h.handed hlive hcalls hresponse
      refine ⟨ops, hlog, Or.inr ⟨e, c, rfl, hcalls, rfl, hlen, ?_, ?_⟩⟩
      · rwa [hbody, List.take_append_of_le_length hlen.ge, ← hlen, List.take_length] at hver
      · rwa [hbody, withFlashMap_take _ hlen] at hreplaces

variable (lib md5) in
/-- An action while sessions are as commands have started them. -/
theorem bootVerified_of_sessions (h : x.Sessions) (a : UpdateAction) : BootVerified lib md5 a x := by
  cases a with
  | command c => exact ⟨[], by rw [command_log, List.append_nil], Or.inl spares_nil⟩
  | event e =>
    have untouched : (x.next lib md5 (.event e)).app.spi = x.app.spi → BootVerified lib md5 (.event e) x :=
      fun heq => ⟨[], by rw [heq, List.append_nil], Or.inl spares_nil⟩
    rcases h with hcrash | hsessions
    · refine untouched ?_
      unfold next
      rw [if_pos hcrash]
    have hnext : (x.next lib md5 (.event e)).app = x.app.step md5 e := next_event e
    have hdoes := does_next lib md5 x (.event e)
    generalize hy : x.next lib md5 (.event e) = y at hdoes hnext untouched
    obtain _ | _ | _ | _ | ⟨_, hnot, out, timer, crashed⟩ | ⟨_, u, hlive, hend, t, ht⟩ |
      ⟨_, u, hlive, result, c, hcalls, hc⟩ := hdoes
    · exact untouched rfl
    · exact untouched rfl
    · rcases hsessions u hlive with hup | hcol
      · obtain ⟨ops, hspares, hlog⟩ := updating_spares lib hup e
        exact ⟨ops, hlog, Or.inl hspares⟩
      · refine untouched ?_
        rw [hnext]
        exact hcol.step_spi hlive hend
    · rcases hsessions u hlive with hup | hcol
      · obtain ⟨ops, hspares, hlog⟩ := updating_spares lib hup e
        exact ⟨ops, hlog, Or.inl hspares⟩
      · exact hcol.ends_verified hlive hcalls (by rw [hy])

variable (lib md5) in
/-- **The bootloader sector is only ever replaced by a verified bootloader.** -/
theorem boot_sector_verified {s : App} (hs : ∀ u, s.upgrade ≠ .live u) (actions : List UpdateAction) :
    Along (next lib md5) (BootVerified lib md5) actions (atReset s) :=
  along_of_invariant (fun a _ hx => sessions_next lib md5 hx a) (fun a _ hx => bootVerified_of_sessions lib md5 hx a)
    (sessions_atReset hs)

/-- A new bootloader. -/
def newBootloader : List UInt8 := [0xEA, 1, 0, 0]

/-- The download of its checksum, then the update. -/
def bootUpdate : List UpdateAction :=
  [.command (.getChecksumBoot .ok), .event (reply "32" (App.digestText (Md5.digest newBootloader))),
    .command (.updateBoot .ok), .event (reply "4" newBootloader)]

theorem bootUpdate_log : (run (next plainAt Md5.digest) bootUpdate (atReset oneMegabyte)).app.spi.log =
    [.erase 0, .program 0 [0xEA, 1, 0, 0x20]] := by
  decide +kernel

/-- The bootloader is replaced. -/
theorem boot_sector_verified_update :
    Along (next plainAt Md5.digest) (BootVerified plainAt Md5.digest) bootUpdate (atReset oneMegabyte) ∧
      (run (next plainAt Md5.digest) bootUpdate (atReset oneMegabyte)).app.spi.log =
        [.erase 0, .program 0 [0xEA, 1, 0, 0x20]] :=
  ⟨boot_sector_verified plainAt Md5.digest (by rintro u ⟨⟩) bootUpdate, bootUpdate_log⟩

end Tracked

end Esp8266At
