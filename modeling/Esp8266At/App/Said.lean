import Esp8266At.App.Tracked

/-!
# What the application does besides printing messages

`App.said` is the output without its messages: final results, connections, requests and restarts. The lemmas say what
each function adds to it. Most add nothing; the functions a session ends with add one final result, and set the
interface free (`callBack_answered`).
-/

namespace Esp8266At

open NorFlash

def Output.isText : Output → Bool
  | .text _ => true
  | _ => false

namespace App

variable {lib : LibAt} {md5 : List UInt8 → Digest} {s t : App} {u : UpgradeStatus}

/-- The output without the messages. -/
def said (s : App) : List Output := s.out.filter fun x => !x.isText

theorem said_add (s : App) (x : Output) (hx : x.isText = false) :
    ({ s with out := s.out ++ [x] } : App).said = s.said ++ [x] := by
  rw [said, List.filter_append, List.filter_singleton, hx]
  rfl

@[simp] theorem said_print (s : App) (m : String) : (s.print m).said = s.said := by
  show (s.out ++ [Output.text m]).filter _ = _
  rw [List.filter_append]
  exact List.append_nil _

@[simp] theorem said_debug (s : App) (m : String) : (s.debug m).said = s.said := by
  unfold debug
  split_ifs
  · exact s.said_print m
  · rfl

@[simp] theorem said_responseOk (s : App) : s.responseOk.said = s.said ++ [.ok] := s.said_add _ rfl

@[simp] theorem said_responseError (s : App) : s.responseError.said = s.said ++ [.error] := s.said_add _ rfl

@[simp] theorem said_systemRestart (s : App) : s.systemRestart.said = s.said ++ [.restart] := s.said_add _ rfl

@[simp] theorem said_crash (s : App) : s.crash.said = s.said := rfl

@[simp] theorem said_atLeaveSpecialState (s : App) : s.atLeaveSpecialState.said = s.said := rfl

@[simp] theorem said_zalloc (s : App) : s.zalloc.2.said = s.said := rfl

@[simp] theorem said_spiFlashRead (s : App) (a : UInt32) (len : ℕ) : (s.spiFlashRead a len).2.said = s.said := rfl

@[simp] theorem said_spiFlashEraseSector (s : App) (sector : UInt32) :
    (s.spiFlashEraseSector sector).2.said = s.said := rfl

@[simp] theorem said_spiFlashWrite (s : App) (a : UInt32) (data : List UInt8) :
    (s.spiFlashWrite a data).2.said = s.said := rfl

@[simp] theorem said_eraseAt (s : App) (a : UInt32) : (s.eraseAt a).said = s.said := rfl

/-- The state a function returns, by the name it has been given. -/
theorem said_of_eq {α : Type} {r : α × App} {a : α} (h : r = (a, t)) (hr : r.2.said = s.said) : t.said = s.said := by
  rw [h] at hr
  exact hr

@[simp] theorem said_readBootInfo (s : App) : s.readBootInfo.2.said = s.said := by
  unfold readBootInfo
  rcases halloc : s.zalloc with ⟨_ | _, t⟩
  · have ht := said_of_eq halloc s.said_zalloc
    exact ht
  · have ht := said_of_eq halloc s.said_zalloc
    simp only
    rcases hread : t.spiFlashRead BOOT_PARAM_ADDR BootInfo.size with ⟨_ | b, u⟩
    · have hu := said_of_eq hread (t.said_spiFlashRead _ _)
      exact hu.trans ht
    · have hu := said_of_eq hread (t.said_spiFlashRead _ _)
      exact hu.trans ht

/-! ### The firmware check -/

@[simp] theorem said_spiError (s : App) (a : UInt32) : (spiError a s).2.said = s.said := s.freeBootInfo.said_debug _

theorem said_sumSection (fuel : ℕ) (a remaining : UInt32) (checksum : UInt8) (s : App) :
    (sumSection fuel a remaining checksum s).2.said = s.said := by
  induction fuel generalizing a remaining checksum s with
  | zero => rfl
  | succ fuel ih =>
    unfold sumSection
    by_cases hpos : remaining > 0
    · simp only [if_pos hpos]
      rcases hread : s.spiFlashRead a (if remaining < 256 then remaining else 256).toNat with ⟨_ | b, t⟩
      · exact said_of_eq hread (s.said_spiFlashRead _ _)
      · exact (ih _ _ _ t).trans (said_of_eq hread (s.said_spiFlashRead _ _))
    · rw [if_neg hpos]

theorem said_sumSections (count : ℕ) (a : UInt32) (checksum : UInt8) (s : App) :
    (sumSections count a checksum s).2.said = s.said := by
  induction count generalizing a checksum s with
  | zero => rfl
  | succ count ih =>
    unfold sumSections
    simp only
    rcases hread : (s.debug ".").spiFlashRead a 8 with ⟨_ | b, t⟩
    · have ht := said_of_eq hread ((s.debug ".").said_spiFlashRead _ _)
      exact ht.trans (s.said_debug _)
    · have ht := (said_of_eq hread ((s.debug ".").said_spiFlashRead _ _)).trans (s.said_debug _)
      simp only
      rcases hsum : sumSection (SectionHeader.ofBytes b).length.toNat (a + 8) (SectionHeader.ofBytes b).length
          checksum t with ⟨_ | ⟨a', checksum'⟩, u⟩
      · have hu := said_of_eq hsum (said_sumSection _ _ _ _ t)
        exact hu.trans ht
      · have hu := said_of_eq hsum (said_sumSection _ _ _ _ t)
        exact (ih _ _ u).trans (hu.trans ht)

theorem said_hashFirmware (fuel : ℕ) (a remaining : UInt32) (context : List UInt8) (total : UInt32) (s : App) :
    (hashFirmware fuel a remaining context total s).2.said = s.said := by
  induction fuel generalizing a remaining context total s with
  | zero => rfl
  | succ fuel ih =>
    unfold hashFirmware
    by_cases hpos : remaining ≠ 0
    · simp only [if_pos hpos]
      rcases hread : s.spiFlashRead a (if remaining ≥ 256 then 256 else remaining).toNat with ⟨_ | b, t⟩
      · exact said_of_eq hread (s.said_spiFlashRead _ _)
      · exact (ih _ _ _ _ t).trans (said_of_eq hread (s.said_spiFlashRead _ _))
    · rw [if_neg hpos]

theorem said_saveFirmware (a : UInt32) (n : UInt8) (header : Header) (total : UInt32) (digest : Digest) (s : App) :
    (saveFirmware a n header total digest s).2.said = s.said := by
  unfold saveFirmware
  cases s.bootInfo with
  | none => rfl
  | some b =>
    simp only
    generalize ((({ b with bootAddr := a, bootPart := BOOT_FW_MAGIC ||| n.toUInt32 } : BootInfo).setPartLength n
      total).setPartType n _).setPartMd5 n digest = r
    generalize hs : ({ s with bootInfo := some r, indices := s.indices ++ List.replicate 3 n.toUInt32 } : App) = t
    have ht : t.said = s.said := hs ▸ rfl
    rcases herase : t.spiFlashEraseSector (BOOT_PARAM_ADDR / UInt32.ofNat SECTOR_SIZE) with ⟨_ | _, u⟩
    · have hu := said_of_eq herase (t.said_spiFlashEraseSector _)
      exact (u.said_spiError _).trans (hu.trans ht)
    · have hu := said_of_eq herase (t.said_spiFlashEraseSector _)
      simp only
      rcases hwrite : u.spiFlashWrite BOOT_PARAM_ADDR r.bytes with ⟨_ | _, v⟩
      · have hv := said_of_eq hwrite (u.said_spiFlashWrite _ _)
        exact (v.said_spiError _).trans (hv.trans (hu.trans ht))
      · have hv := said_of_eq hwrite (u.said_spiFlashWrite _ _)
        exact hv.trans (hu.trans ht)

@[simp] theorem said_checkFirmware (s : App) (n : UInt8) : (checkFirmware md5 n s).2.said = s.said := by
  unfold checkFirmware
  simp only
  generalize s.upgradeFlashAddr = a
  rcases hread : s.spiFlashRead a 8 with ⟨_ | b, t⟩
  all_goals have ht := said_of_eq hread (s.said_spiFlashRead _ _)
  · exact (t.said_spiError _).trans ht
  simp only
  split_ifs
  · exact (t.said_debug _).trans ht
  replace ht := (t.said_debug "  Header ok.\r\n").trans ht
  generalize t.debug "  Header ok.\r\n" = t at ht
  rcases hread : t.spiFlashRead (a + 8) 8 with ⟨_ | b, u⟩
  all_goals have hu := (said_of_eq hread (t.said_spiFlashRead _ _)).trans ht
  · exact (u.said_spiError _).trans hu
  simp only
  generalize a + 8 + 8 + (SectionHeader.ofBytes b).length = c
  rcases hread : u.spiFlashRead c 8 with ⟨_ | b, v⟩
  all_goals have hv := (said_of_eq hread (u.said_spiFlashRead _ _)).trans hu
  · exact (v.said_spiError _).trans hv
  simp only
  split_ifs
  · exact (v.said_debug _).trans hv
  · exact (v.said_print _).trans hv
  replace hv := (v.said_debug "  Check all sections ").trans hv
  generalize v.debug "  Check all sections " = v at hv
  rcases hsum : sumSections (Header.ofBytes b).count.toNat (c + 8) CHECKSUM_INIT v with ⟨_ | ⟨c', checksum⟩, w⟩
  all_goals have hw := (said_of_eq hsum (said_sumSections _ _ _ v)).trans hv
  · exact (w.said_spiError _).trans hw
  replace hw := (w.said_debug "\r\n").trans hw
  simp only
  generalize w.debug "\r\n" = w at hw
  rcases hread : w.spiFlashRead ((c' ||| 0xF) - 3) 4 with ⟨_ | buffer, x⟩
  all_goals have hx := (said_of_eq hread (w.said_spiFlashRead _ _)).trans hw
  · exact (x.said_spiError _).trans hx
  simp only
  split_ifs
  · exact (x.said_debug _).trans hx
  replace hx := (x.said_debug "  OK, calculate MD5\r\n").trans hx
  generalize x.debug "  OK, calculate MD5\r\n" = x at hx
  rcases hboot : x.readBootInfo with ⟨_ | _, y⟩
  all_goals have hy := (said_of_eq hboot x.said_readBootInfo).trans hx
  · exact (y.said_debug _).trans hy
  simp only
  generalize (c' ||| 0xF) - 3 + 8 - a = remaining
  rcases hhash : hashFirmware remaining.toNat a remaining [] 0 y with ⟨_ | ⟨context, total⟩, z⟩
  all_goals have hz := (said_of_eq hhash (said_hashFirmware _ _ _ _ _ y)).trans hy
  · exact (z.said_spiError _).trans hz
  simp only
  split_ifs
  · exact (z.freeBootInfo.said_debug _).trans hz
  · exact (said_saveFirmware _ _ _ _ _ z).trans hz

/-! ### The end of a session -/

/-- The interface is free again, and there has been one final result; a restart comes only after `OK`. -/
structure Answered (s t : App) : Prop where
  free : t.busy = false
  said : t.said = s.said ++ [.ok] ∨ t.said = s.said ++ [.error] ∨ t.said = s.said ++ [.ok, .restart]

theorem Answered.ok (hbusy : t.busy = false) (hsaid : t.said = s.said) : Answered s t.responseOk :=
  ⟨hbusy, Or.inl (by rw [said_responseOk, hsaid])⟩

theorem Answered.error (hbusy : t.busy = false) (hsaid : t.said = s.said) : Answered s t.responseError :=
  ⟨hbusy, Or.inr (Or.inl (by rw [said_responseError, hsaid]))⟩

theorem Answered.restart (hbusy : t.busy = false) (hsaid : t.said = s.said ++ [.ok]) (m : String) :
    Answered s (t.print m).systemRestart := by
  refine ⟨hbusy, Or.inr (Or.inr ?_)⟩
  rw [said_systemRestart, said_print, hsaid, List.append_assoc]
  rfl

theorem firmwareReady_answered (hbusy : t.busy = false) (hsaid : t.said = s.said) : Answered s t.firmwareReady := by
  have hready : (t.print "+UPDATEFIRMWARE:1,ready for use\r\n").responseOk.said = s.said ++ [.ok] := by
    rw [said_responseOk, said_print, hsaid]
  unfold firmwareReady
  simp only
  split_ifs
  · exact .restart (t := (t.print "+UPDATEFIRMWARE:1,ready for use\r\n").responseOk) hbusy hready _
  · exact ⟨hbusy, Or.inl hready⟩

@[simp] theorem said_checkBootloader (s : App) (response : List UInt8) :
    (checkBootloader md5 response s).2.said = s.said := by
  unfold checkBootloader
  split_ifs
  · rfl
  · exact s.said_debug _
  · exact s.said_debug _

theorem said_foldl_eraseAt (addrs : List UInt32) (s : App) :
    (addrs.foldl eraseAt s).said = s.said ∧ (addrs.foldl eraseAt s).busy = s.busy := by
  induction addrs generalizing s with
  | nil => exact ⟨rfl, rfl⟩
  | cons a addrs ih => exact ih (s.eraseAt a)

theorem bootloaderUpdated_answered (hsaid : t.said = s.said) : Answered s t.bootloaderUpdated := by
  unfold bootloaderUpdated
  simp only
  generalize hu : ((t.print "+UPDATEBOOT:1\r\n").atLeaveSpecialState).responseOk = u
  have hbusy : u.busy = false := hu ▸ rfl
  have hu' : u.said = s.said ++ [.ok] := by
    rw [← hu, said_responseOk, said_atLeaveSpecialState, said_print, hsaid]
  split_ifs
  · generalize hv : u.eraseAt BOOT_PARAM_ADDR = v
    have hv' : v.said = s.said ++ [.ok] := by rw [← hv, said_eraseAt, hu']
    have hfree : v.busy = false := hv ▸ hbusy
    exact .restart ((said_foldl_eraseAt _ v).2.trans hfree) ((said_foldl_eraseAt _ v).1.trans hv') _
  · exact ⟨hbusy, Or.inl hu'⟩

theorem otaUpdateCallBack_answered (s : App) (result : Bool) : Answered s (s.otaUpdateCallBack md5 result) := by
  unfold otaUpdateCallBack
  cases result with
  | false => exact .error rfl (s.said_print _)
  | true =>
    simp only [if_true]
    generalize ht : s.debug _ = t
    have hsaid : t.said = s.said := ht ▸ s.said_debug _
    rcases hcheck : checkFirmware md5 (fwNumber s.upgradeFlashAddr).toUInt8 t with ⟨ok, u⟩
    have hu := (said_of_eq hcheck (t.said_checkFirmware _)).trans hsaid
    simp only
    split_ifs
    · exact firmwareReady_answered rfl hu
    · exact .error rfl ((u.atLeaveSpecialState.said_print _).trans hu)

/-- A bootloader that has been checked is installed, or the callback crashes. -/
theorem otaUpdateBootCallBack_answered (result : Bool) (s : App) :
    (s.otaUpdateBootCallBack md5 result).crashed = true ∨ Answered s (s.otaUpdateBootCallBack md5 result) := by
  have failed : ∀ t : App, t.said = s.said →
      Answered s (t.print "+UPDATEBOOT:0\r\n").atLeaveSpecialState.responseError := by
    intro t ht
    exact .error rfl ((t.said_print _).trans ht)
  unfold otaUpdateBootCallBack
  simp only
  cases result with
  | false => exact Or.inr (failed s rfl)
  | true =>
    cases s.upgradeCheckResponse with
    | none => exact Or.inr (failed s rfl)
    | some response =>
      simp only
      generalize ht : s.debug "Checking bootloader MD5 csum\r\n" = t
      have hsaid : t.said = s.said := ht ▸ s.said_debug _
      rcases hcheck : checkBootloader md5 response t with ⟨_ | _, u⟩
      all_goals have hu := (said_of_eq hcheck (t.said_checkBootloader response)).trans hsaid
      · exact Or.inr (failed u hu)
      simp only
      split_ifs with hlength
      · exact Or.inl rfl
      refine Or.inr ?_
      generalize (response.set 2 (u.upgradeFlashMap &&& 0x0F)).set 3 (u.upgradeFlashMap &&& 0xF0) = r
      generalize hv : ({ u with upgradeCheckResponse := some r } : App) = v
      have hsaid' : v.said = s.said := hv ▸ hu
      rcases herase : v.spiFlashEraseSector 0 with ⟨_ | _, w⟩
      all_goals have hw := (said_of_eq herase (v.said_spiFlashEraseSector _)).trans hsaid'
      · exact failed _ ((w.said_print _).trans hw)
      simp only
      rcases hwrite : w.spiFlashWrite 0 (r.take w.upgradeContentLen.toNat) with ⟨_ | _, x⟩
      all_goals have hx := (said_of_eq hwrite (w.said_spiFlashWrite _ _)).trans hw
      · exact failed _ ((x.said_print _).trans hx)
      · exact bootloaderUpdated_answered hx

theorem checkVersion_answered (s : App) (name old_ver : String) (echo : Bool) (response : List UInt8) :
    Answered s (s.checkVersion name old_ver echo response) := by
  have ready : ∀ t : App, t.said = s.said →
      Answered s ({ t with upgradeCheckResponse := none } : App).atLeaveSpecialState.responseOk :=
    fun t ht => .ok rfl ht
  unfold checkVersion
  simp only
  split_ifs
  · exact ready _ ((said_print _ _).trans (s.said_print _))
  · exact ready _ ((said_print _ _).trans (s.said_print _))
  · exact ready _ (s.said_print _)
  · exact ready _ (s.said_print _)
  · exact .error rfl ((said_print _ _).trans (s.said_print _))

theorem otaVerCheckMd5CallBack_answered (s : App) (result : Bool) : Answered s (s.otaVerCheckMd5CallBack result) := by
  have failed : ∀ (t : App) (m : String), t.said = s.said →
      Answered s (t.print m).atLeaveSpecialState.responseError := by
    intro t m ht
    exact .error rfl ((t.said_print m).trans ht)
  unfold otaVerCheckMd5CallBack
  cases result with
  | false => cases s.upgradeType <;> exact failed _ _ rfl
  | true =>
    cases s.upgradeCheckResponse with
    | none => cases s.upgradeType <;> exact failed _ _ rfl
    | some response =>
      cases s.upgradeType with
      | verCheck => exact s.checkVersion_answered _ _ _ _
      | verCheckBoot => exact s.checkVersion_answered _ _ _ _
      | upgrade | upgBoot | md5 | md5Boot => exact .ok rfl (said_print _ _)

variable (md5) in
theorem callBack_answered (callback : OtaCallback) (result : Bool) (s : App) :
    (s.callBack md5 callback result).crashed = true ∨ Answered s (s.callBack md5 callback result) := by
  cases callback with
  | update => exact Or.inr (s.otaUpdateCallBack_answered result)
  | updateBoot => exact otaUpdateBootCallBack_answered result s
  | verCheckMd5 => exact Or.inr (s.otaVerCheckMd5CallBack_answered result)

/-! ### A session that goes on -/

/-- What a session works with. -/
structure Params where
  busy : Bool
  type : OtaType
  useSsl : UInt8
  flashAddr : UInt32
  flashMap : UInt8
  remoteHost : String
  remotePort : UInt16

def params (s : App) : Params :=
  ⟨s.busy, s.upgradeType, s.upgradeUseSsl, s.upgradeFlashAddr, s.upgradeFlashMap, s.upgradeRemoteHost,
    s.upgradeRemotePort⟩

/-- Nothing has been said, and the session works with the same parameters. -/
structure Quietly (s t : App) : Prop where
  said : t.said = s.said
  params : t.params = s.params

theorem Quietly.refl (s : App) : Quietly s s := ⟨rfl, rfl⟩

theorem Quietly.trans {u : App} (h : Quietly s t) (h' : Quietly t u) : Quietly s u :=
  ⟨h'.said.trans h.said, h'.params.trans h.params⟩

theorem Quietly.debug (h : Quietly s t) (m : String) : Quietly s (t.debug m) := by
  refine ⟨(t.said_debug m).trans h.said, ?_⟩
  obtain ⟨o, ho⟩ := t.debug_out m
  rw [ho]
  exact h.params

theorem Quietly.of_eq {u : App} (h : Quietly s t) (hout : u.out = t.out) (hparams : u.params = t.params) :
    Quietly s u := by
  refine ⟨?_, hparams.trans h.params⟩
  show u.out.filter _ = s.said
  rw [hout]
  exact h.said

/-- The state a function returns, by the name it has been given. -/
theorem Quietly.named {α : Type} {r : α × App} {a : α} (hr : Quietly s r.2) (h : r = (a, t)) : Quietly s t := by
  rw [h] at hr
  exact hr

theorem quietly_spiFlashEraseSector (s : App) (sector : UInt32) : Quietly s (s.spiFlashEraseSector sector).2 :=
  ⟨rfl, rfl⟩

theorem quietly_spiFlashWrite (s : App) (a : UInt32) (data : List UInt8) : Quietly s (s.spiFlashWrite a data).2 :=
  ⟨rfl, rfl⟩

theorem quietly_writeData (data : List UInt8) (u : UpgradeStatus) (s : App) : Quietly s (s.writeData data u).2.2 := by
  unfold writeData
  split_ifs with hempty hfull htype haddr
  · exact .refl s
  · exact (Quietly.refl s).debug _
  · rcases herase : s.spiFlashEraseSector (u.flashAddr / UInt32.ofNat SECTOR_SIZE) with ⟨_ | _, t⟩
    all_goals have ht := (s.quietly_spiFlashEraseSector _).named herase
    · exact ht.debug _
    simp only
    rcases hwrite : t.spiFlashWrite u.flashAddr (u.buffer.val ++ data.take (SECTOR_SIZE - u.buffer.val.length))
      with ⟨_ | _, v⟩
    all_goals have hv := ht.trans ((t.quietly_spiFlashWrite _ _).named hwrite)
    · exact hv.debug _
    simp only
    split_ifs
    · exact hv
    · exact hv
  · exact .refl s
  · exact .refl s

theorem quietly_downloadFinished (u : UpgradeStatus) (s : App) : Quietly s (s.downloadFinished u).2 := by
  have hflag : Quietly s { s with upgradeFlag := .finish } := ⟨rfl, rfl⟩
  exact (hflag.debug _).of_eq rfl rfl

theorem quietly_receiveEnd (reading : Bool) (u : UpgradeStatus) (s : App) : Quietly s (s.receiveEnd reading u).2 := by
  unfold receiveEnd
  split_ifs
  · rcases herase : s.spiFlashEraseSector (u.flashAddr / UInt32.ofNat SECTOR_SIZE) with ⟨_ | _, t⟩
    all_goals have ht := (s.quietly_spiFlashEraseSector _).named herase
    · exact ht.of_eq rfl rfl
    simp only
    rcases hwrite : t.spiFlashWrite u.flashAddr u.buffer.val with ⟨_ | _, v⟩
    all_goals have hv := ht.trans ((t.quietly_spiFlashWrite _ _).named hwrite)
    · exact hv.of_eq rfl rfl
    · exact hv.trans (quietly_downloadFinished u v)
  · exact quietly_downloadFinished u s
  · exact ((Quietly.refl s).debug _).of_eq rfl rfl
  · exact ⟨rfl, rfl⟩

theorem quietly_receiveNext (data : List UInt8) (reading : Bool) (u : UpgradeStatus) (s : App) :
    Quietly s (s.receiveNext data reading u).2 := by
  unfold receiveNext
  rcases hwrite : writeData data { u with totalLen := u.totalLen + UInt32.ofNat data.length } s with ⟨_ | _ | _, v, t⟩
  all_goals
    have ht : Quietly s t := by
      have := quietly_writeData data { u with totalLen := u.totalLen + UInt32.ofNat data.length } s
      rwa [hwrite] at this
  · exact ht.trans (quietly_receiveEnd reading v t)
  · exact ht.of_eq rfl rfl
  · exact ht.of_eq rfl rfl

theorem quietly_receiveFirst (data : List UInt8) (reading : Bool) (u : UpgradeStatus) (s : App) :
    Quietly s (s.receiveFirst data reading u).2 := by
  unfold receiveFirst
  rcases responseHeader data with _ | ⟨content_len, content⟩
  · exact ((Quietly.refl s).debug _).of_eq rfl rfl
  simp only
  rcases hwrite : writeData content { u with totalLen := u.totalLen + UInt32.ofNat content.length } s
    with ⟨_ | _ | _, v, t⟩
  all_goals
    have ht : Quietly s t := by
      have := quietly_writeData content { u with totalLen := u.totalLen + UInt32.ofNat content.length } s
      rwa [hwrite] at this
  · have ht' : Quietly s { t with upgradeContentLen := content_len } := ht.of_eq rfl rfl
    simp only
    split_ifs
    · exact (ht'.debug _).of_eq rfl rfl
    · exact (ht'.debug _).trans (quietly_receiveEnd reading v _)
  · exact ht.of_eq rfl rfl
  · exact ht.of_eq rfl rfl

theorem quietly_receive (data : Chunk) (reading : Bool) (s : App) : Quietly s (s.receive data reading).2 := by
  unfold receive
  generalize ht : ({ s with otaTimer := none } : App) = t
  have hdisarm : Quietly s t := ht ▸ ⟨rfl, rfl⟩
  cases s.upgrade with
  | null => exact ⟨rfl, rfl⟩
  | freed => exact ⟨rfl, rfl⟩
  | live u =>
    simp only
    split_ifs
    · exact hdisarm.trans (quietly_receiveFirst data.val reading u t)
    · exact hdisarm.trans (quietly_receiveNext data.val reading u t)

theorem quietly_dropped {u : UpgradeStatus} (h : Quietly s t) : Quietly s (t.dropped u) := by
  have hdisarm : Quietly s { t.debug "OTA: Disconnected\r\n" with otaTimer := none } := (h.debug _).of_eq rfl rfl
  have hstored : Quietly s (({ t.debug "OTA: Disconnected\r\n" with otaTimer := none } : App).storeStatus
    { u with conn := none }) := hdisarm.of_eq rfl rfl
  exact hstored.debug _

/-- An event that ends a session says nothing before the session is cleaned up. -/
theorem quietly_ending {e : NetEvent} (h : s.ending e = some t) : Quietly s t := by
  have hself := Quietly.refl s
  unfold ending at h
  split_ifs at h
  cases hlive : s.upgrade with
  | null => rw [hlive] at h; cases h
  | freed => rw [hlive] at h; cases h
  | live u =>
    rw [hlive] at h
    unfold endingOf at h
    cases e with
    | resolved found =>
      cases found with
      | true => cases h
      | false =>
        obtain rfl := Option.some.inj h
        exact quietly_dropped ((((hself.debug _).debug _).debug _).of_eq rfl rfl)
    | connected =>
      simp only at h
      split_ifs at h
      obtain rfl := Option.some.inj h
      have hheap : Quietly s { s with otaTimer := none, heap := s.heapTail } := ⟨rfl, rfl⟩
      exact (hheap.debug _).of_eq rfl rfl
    | received data reading =>
      simp only at h
      split_ifs at h
      obtain rfl := Option.some.inj h
      exact quietly_receive data reading s
    | reconnect errType =>
      obtain rfl := Option.some.inj h
      exact quietly_dropped (hself.debug _)
    | disconnected conn =>
      simp only at h
      split_ifs at h
      obtain rfl := Option.some.inj h
      exact quietly_dropped hself
    | timer =>
      cases htimer : s.otaTimer with
      | none => rw [htimer] at h; cases h
      | some k =>
        rw [htimer] at h
        have hdisarm : Quietly s { s with otaTimer := none } := ⟨rfl, rfl⟩
        cases k with
        | deinit =>
          obtain rfl := Option.some.inj h
          exact hdisarm
        | connectTimeout =>
          obtain rfl := Option.some.inj h
          exact quietly_dropped (hdisarm.debug _)

theorem quietly_prepareResponse (u : UpgradeStatus) (h : Quietly s t) : Quietly s (t.prepareResponse u) := by
  unfold prepareResponse
  simp only
  split_ifs
  · rcases halloc : t.zalloc with ⟨_ | _, v⟩
    all_goals
      have hv : Quietly t v := Quietly.named (r := t.zalloc) ⟨rfl, rfl⟩ halloc
    · exact (h.trans hv).debug _
    · exact (h.trans hv).of_eq rfl rfl
  · exact h

/-- Cleaning up a session disconnects it, if it is connected. -/
theorem cleanUp_said (u : UpgradeStatus) (s : App) : (s.cleanUp u).2.params = s.params ∧
    (s.cleanUp u).2.said = s.said ++ if u.conn.isSome then [.disconnect (s.upgradeUseSsl > 0)] else [] := by
  have hdisarm : Quietly s { s with otaTimer := none } := ⟨rfl, rfl⟩
  have hdrop : Quietly s { s.dropResponse u with upgrade := .null } := by
    refine Quietly.of_eq (t := s.dropResponse u) ?_ rfl rfl
    have hcleared : Quietly s { ({ s with otaTimer := none } : App).debug "OTA deinit\r\n" with
      upgradeCheckResponse := none } := (hdisarm.debug _).of_eq rfl rfl
    unfold dropResponse
    simp only
    split_ifs
    · exact quietly_prepareResponse u hcleared
    · exact hcleared
  unfold cleanUp
  generalize ({ s.dropResponse u with upgrade := .null } : App) = t at hdrop
  have hcomplete : ∀ v : App, Quietly v v.completion.2 := by
    intro v
    unfold completion
    split_ifs
    · exact (Quietly.refl v).debug _
    · have hidle : Quietly v { v with upgradeFlag := .idle } := ⟨rfl, rfl⟩
      exact hidle.debug _
  have hend := hcomplete (t.disconnectConn u)
  have hssl : t.upgradeUseSsl = s.upgradeUseSsl := congrArg Params.useSsl hdrop.params
  rw [hend.said, hend.params]
  unfold disconnectConn
  split_ifs
  · exact ⟨hdrop.params, by rw [said_add _ _ rfl, hdrop.said, hssl]⟩
  · exact ⟨hdrop.params, by rw [hdrop.said, List.append_nil]⟩

/-! ### Connections and requests -/

/-- The connection a session asks for. -/
def connection (s : App) : Output :=
  .connect (s.upgradeUseSsl > 0)
    (if s.upgradeRemotePort > 0 then s.upgradeRemotePort else if s.upgradeUseSsl > 0 then 443 else 80)

/-- The request a session sends. -/
def request (s : App) : Output :=
  .send (s.upgradeUseSsl > 0) ("GET /ESP8266/firmwares/" ++ s.requestedFile.1 ++ " HTTP/1.0\r\nHost: " ++
    s.upgradeRemoteHost ++ "\r\n" ++ HTTP_HEADER)

theorem Quietly.connection (h : Quietly s t) : t.connection = s.connection := by
  have hssl : t.upgradeUseSsl = s.upgradeUseSsl := congrArg Params.useSsl h.params
  have hport : t.upgradeRemotePort = s.upgradeRemotePort := congrArg Params.remotePort h.params
  rw [App.connection, App.connection, hssl, hport]

theorem Quietly.request (h : Quietly s t) : t.request = s.request := by
  have hssl : t.upgradeUseSsl = s.upgradeUseSsl := congrArg Params.useSsl h.params
  have hhost : t.upgradeRemoteHost = s.upgradeRemoteHost := congrArg Params.remoteHost h.params
  have hfile : t.requestedFile = s.requestedFile := by
    have htype : t.upgradeType = s.upgradeType := congrArg Params.type h.params
    have haddr : t.upgradeFlashAddr = s.upgradeFlashAddr := congrArg Params.flashAddr h.params
    have hmap : t.upgradeFlashMap = s.upgradeFlashMap := congrArg Params.flashMap h.params
    unfold requestedFile
    rw [htype, haddr, hmap]
  rw [App.request, App.request, hssl, hhost, hfile]

theorem quietly_printConnecting (s : App) : Quietly s s.printConnecting := by
  have hhost := ((Quietly.refl s).debug "Connecting to: ").debug s.upgradeRemoteHost
  unfold printConnecting
  simp only
  split_ifs
  · exact (hhost.debug _).debug _
  · exact hhost.debug _

variable (md5) in
/-- A name that has been found: the session asks for its connection. -/
theorem upgradeResolved_said (hlive : s.upgrade = .live u) : (s.upgradeResolved md5 true).params = s.params ∧
    (s.upgradeResolved md5 true).upgrade = .live u ∧
    ((s.upgradeResolved md5 true).said = s.said ∨ (s.upgradeResolved md5 true).said = s.said ++ [s.connection]) := by
  unfold upgradeResolved
  rw [hlive]
  simp only
  by_cases hconn : u.conn.isNone
  · rw [if_pos hconn]
    exact ⟨rfl, hlive, Or.inl rfl⟩
  · rw [if_neg hconn]
    obtain ⟨o, ho⟩ := s.printConnecting_out
    obtain ⟨hsaid, hparams⟩ := s.quietly_printConnecting
    have hkept : s.printConnecting.upgrade = s.upgrade := by rw [ho]; rfl
    have hssl : s.printConnecting.upgradeUseSsl = s.upgradeUseSsl := congrArg Params.useSsl hparams
    refine ⟨hparams, hkept.trans hlive, Or.inr ?_⟩
    rw [← hsaid]
    refine Eq.trans (s.printConnecting.said_add _ rfl) ?_
    rw [hssl]
    rfl

theorem sendRequest_said (s : App) : s.sendRequest.params = s.params ∧ s.sendRequest.upgrade = s.upgrade ∧
    s.sendRequest.said = s.said ++ [s.request] := by
  unfold sendRequest
  obtain ⟨hsaid, hparams⟩ := (Quietly.refl s).debug s.requestedFile.2
  have hrequest := ((Quietly.refl s).debug s.requestedFile.2).request
  obtain ⟨o, ho⟩ := s.debug_out s.requestedFile.2
  have hkept : (s.debug s.requestedFile.2).upgrade = s.upgrade := by rw [ho]; rfl
  refine ⟨hparams, hkept, ?_⟩
  rw [← hrequest, ← hsaid]
  exact (s.debug s.requestedFile.2).said_add _ rfl

variable (md5) in
/-- An event that does not end the session: it may ask for its connection or send its request. -/
theorem step_goesOn {e : NetEvent} (hlive : s.upgrade = .live u) (hrun : s.crashed = false) (h : s.ending e = none) :
    (s.step md5 e).params = s.params ∧ (∃ u', (s.step md5 e).upgrade = .live u') ∧
      ((s.step md5 e).said = s.said ∨ (s.step md5 e).said = s.said ++ [s.connection] ∨
        (s.step md5 e).said = s.said ++ [s.request]) := by
  rw [ending_live hlive hrun] at h
  unfold endingOf at h
  unfold step
  rw [if_neg (by rw [hrun]; exact Bool.false_ne_true)]
  cases e with
  | resolved found =>
    cases found with
    | false => cases h
    | true =>
      obtain ⟨hparams, hkept, hsaid⟩ := upgradeResolved_said md5 hlive
      exact ⟨hparams, ⟨u, hkept⟩, hsaid.imp_right Or.inl⟩
  | connected =>
    simp only at h
    split_ifs at h with hheap
    have hquiet : Quietly s { s with otaTimer := none, heap := s.heapTail } := ⟨rfl, rfl⟩
    have hzalloc : ({ s with otaTimer := none } : App).zalloc =
        (true, { s with otaTimer := none, heap := s.heapTail }) := Prod.ext hheap rfl
    obtain ⟨hparams, hkept, hsaid⟩ := sendRequest_said { s with otaTimer := none, heap := s.heapTail }
    have hgo : s.upgradeConnectCb md5 = ({ s with otaTimer := none, heap := s.heapTail } : App).sendRequest := by
      unfold upgradeConnectCb
      simp only [hzalloc]
      generalize ({ s with otaTimer := none, heap := s.heapTail } : App).sendRequest = t
      rw [hlive]
    simp only [hgo]
    exact ⟨hparams, ⟨u, hkept.trans hlive⟩, Or.inr (Or.inr (by rw [hsaid, hquiet.request, hquiet.said]))⟩
  | received data reading =>
    simp only at h
    split_ifs at h with hend
    have hquiet := quietly_receive data reading s
    obtain ⟨u', flag, timer, hframe, -, -⟩ := receive_frame hlive data reading
    simp only [upgradeRecvcb]
    generalize s.receive data reading = r at hend hquiet hframe
    obtain ⟨b, t⟩ := r
    cases b with
    | true => exact absurd rfl hend
    | false => exact ⟨hquiet.params, ⟨u', congrArg Frame.upgrade hframe⟩, Or.inl hquiet.said⟩
  | reconnect errType => cases h
  | disconnected conn =>
    simp only at h
    split_ifs at h with hconn
    have hquiet : Quietly s { s.debug "OTA: Disconnected\r\n" with otaTimer := none } :=
      ((Quietly.refl s).debug _).of_eq rfl rfl
    have hkept : (s.debug "OTA: Disconnected\r\n").upgrade = .live u := (s.debug_upgrade _).trans hlive
    simp only [upgradeDisconcb, hkept, if_neg hconn]
    exact ⟨hquiet.params, ⟨u, rfl⟩, Or.inl hquiet.said⟩
  | timer =>
    simp only at h ⊢
    cases htimer : s.otaTimer with
    | none => exact ⟨rfl, ⟨u, hlive⟩, Or.inl rfl⟩
    | some k =>
      rw [htimer] at h
      cases k <;> cases h

variable (md5) in
/-- Without a session an event says nothing. -/
theorem step_sessionless_said (h : ∀ u, s.upgrade ≠ .live u) (e : NetEvent) : (s.step md5 e).said = s.said := by
  have dropped : ∀ t : App, t.upgrade = s.upgrade → (t.dropConnection md5).said = t.said := by
    intro t ht
    unfold dropConnection
    cases hup : t.upgrade with
    | null => rfl
    | freed => rfl
    | live u => exact absurd (ht.symm.trans hup) (h u)
  unfold step
  split_ifs
  · rfl
  cases e with
  | resolved found =>
    cases hup : s.upgrade with
    | live u => exact absurd hup (h u)
    | null | freed => cases found <;> simp only [upgradeResolved, hup, said_crash]
  | connected =>
    cases hup : s.upgrade with
    | live u => exact absurd hup (h u)
    | null | freed => simp only [upgradeConnectCb, hup, said_crash]
  | received data reading =>
    cases hup : s.upgrade with
    | live u => exact absurd hup (h u)
    | null | freed => simp only [upgradeRecvcb, receive, hup, said_crash]
  | reconnect errType =>
    simp only [upgradeReconCb]
    exact (dropped _ (s.debug_upgrade _)).trans (s.said_debug _)
  | disconnected conn =>
    simp only [upgradeDisconcb]
    cases hup : (s.debug "OTA: Disconnected\r\n").upgrade with
    | live u => exact absurd ((s.debug_upgrade _).symm.trans hup) (h u)
    | null | freed => exact s.said_debug _
  | timer =>
    cases htimer : s.otaTimer with
    | none => rfl
    | some k =>
      cases k with
      | deinit =>
        cases hup : s.upgrade with
        | live u => exact absurd hup (h u)
        | null | freed =>
          simp only [atOtaDeinit]
          rfl
      | connectTimeout =>
        simp only [connectTimeoutCb]
        have hkept := debug_upgrade { s with otaTimer := none } "Connect timeout.\r\n"
        exact (dropped _ hkept).trans (said_debug _ _)

/-! ### Commands -/

/-- A session has been opened; it may have asked for its connection. -/
structure Begun (s t : App) : Prop where
  params : t.params = s.params
  live : ∃ u, t.upgrade = .live u
  said : t.said = s.said ∨ t.said = s.said ++ [s.connection]

/-- No session has been opened. -/
structure Declined (s t : App) : Prop where
  busy : t.busy = false
  idle : ∀ u, t.upgrade ≠ .live u
  said : t.said = s.said ++ [.error]

variable (md5) in
theorem lookUp_said (dns : DnsResult) (hlive : s.upgrade = .live u) :
    ((s.lookUp md5 dns).1 = true ∧ Begun s (s.lookUp md5 dns).2) ∨
      ((s.lookUp md5 dns).1 = false ∧ (s.lookUp md5 dns).2.upgrade = .freed ∧ Quietly s (s.lookUp md5 dns).2) := by
  cases dns with
  | ok =>
    obtain ⟨hparams, hkept, hsaid⟩ := upgradeResolved_said md5 hlive
    exact Or.inl ⟨rfl, hparams, ⟨u, hkept⟩, hsaid⟩
  | inProgress => exact Or.inl ⟨rfl, rfl, ⟨u, hlive⟩, Or.inl rfl⟩
  | failed => exact Or.inr ⟨rfl, rfl, ((Quietly.refl s).debug _).of_eq rfl rfl⟩

theorem Begun.of_quietly {s' : App} (hq : Quietly s s') (h : Begun s' t) : Begun s t := by
  refine ⟨h.params.trans hq.params, h.live, ?_⟩
  rw [← hq.said, ← hq.connection]
  exact h.said

variable (md5) in
/-- `at_ota_start` opens a session, or says nothing. -/
theorem atOtaStart_said (hidle : ∀ u, s.upgrade ≠ .live u) (callback : OtaCallback) (dns : DnsResult) :
    ((s.atOtaStart md5 callback dns).1 = true ∧ Begun s (s.atOtaStart md5 callback dns).2) ∨
      ((s.atOtaStart md5 callback dns).1 = false ∧ (∀ u, (s.atOtaStart md5 callback dns).2.upgrade ≠ .live u) ∧
        Quietly s (s.atOtaStart md5 callback dns).2) := by
  have hself := Quietly.refl s
  have failed : ∀ (t : App) (m : String), Quietly s t → (∀ u, t.upgrade ≠ .live u) →
      (∀ u, (t.debug m).upgrade ≠ .live u) ∧ Quietly s (t.debug m) := by
    intro t m hq ht
    exact ⟨fun u => (t.debug_upgrade m) ▸ ht u, hq.debug m⟩
  unfold atOtaStart
  by_cases hflag : s.upgradeFlag = .start
  · rw [if_pos hflag]
    exact Or.inr ⟨rfl, failed s _ hself hidle⟩
  rw [if_neg hflag]
  cases h0 : s.heap 0 with
  | false =>
    simp only [zalloc, h0]
    exact Or.inr ⟨trivial, failed _ _ (hself.of_eq rfl rfl) fun u => UpgradePtr.noConfusion⟩
  | true =>
  cases h1 : s.heap 1 with
  | false =>
    simp only [zalloc, h0, h1]
    exact Or.inr ⟨trivial, failed _ _ (hself.of_eq rfl rfl) fun u => UpgradePtr.noConfusion⟩
  | true =>
  cases h2 : s.heap 2 with
  | false =>
    simp only [zalloc, h0, h1, h2, Nat.reduceAdd]
    exact Or.inr ⟨trivial, failed _ _ (hself.of_eq rfl rfl) fun u => UpgradePtr.noConfusion⟩
  | true =>
  cases h3 : s.heap 3 with
  | false =>
    simp only [zalloc, h0, h1, h2, h3, Nat.reduceAdd]
    exact Or.inr ⟨trivial, failed _ _ (hself.of_eq rfl rfl) fun u => UpgradePtr.noConfusion⟩
  | true =>
    simp only [zalloc, h0, h1, h2, h3, Nat.reduceAdd]
    have hopened : ∀ t : App, t.out = s.out → t.params = s.params → (∃ u, t.upgrade = .live u) →
        ((t.lookUp md5 dns).1 = true ∧ Begun s (t.lookUp md5 dns).2) ∨ ((t.lookUp md5 dns).1 = false ∧
          (∀ u, (t.lookUp md5 dns).2.upgrade ≠ .live u) ∧ Quietly s (t.lookUp md5 dns).2) := by
      rintro t hout hparams ⟨u, hlive⟩
      have hq := hself.of_eq hout hparams
      obtain ⟨hb, hbegun⟩ | ⟨hb, hfreed, hquiet⟩ := lookUp_said md5 dns hlive
      · exact Or.inl ⟨hb, hbegun.of_quietly hq⟩
      · exact Or.inr ⟨hb, fun u => hfreed ▸ UpgradePtr.noConfusion, hq.trans hquiet⟩
    exact hopened _ rfl rfl ⟨_, rfl⟩

theorem updateSetparams_said (s : App) : s.updateSetparams.2.said = s.said ∧ s.updateSetparams.2.busy = s.busy ∧
    s.updateSetparams.2.upgrade = s.upgrade ∧ s.updateSetparams.2.upgradeUseSsl = s.upgradeUseSsl := by
  obtain ⟨-, ht⟩ | ⟨-, heap, d, idx, ht, -, -⟩ := s.updateSetparams_spec
  · rw [ht]
    exact ⟨rfl, rfl, rfl, rfl⟩
  · rw [ht]
    exact ⟨rfl, rfl, rfl, rfl⟩

/-- How a command that starts a session ends. -/
def BegunOr (s t : App) : Prop :=
  (t.busy = true ∧ (∃ u, t.upgrade = .live u) ∧ t.upgradeUseSsl = 0 ∧
    (t.said = s.said ∨ t.said = s.said ++ [t.connection])) ∨ Declined s t

theorem BegunOr.print (h : BegunOr s t) (m : String) : BegunOr s (t.print m) := by
  obtain ⟨hbusy, hlive, hssl, hsaid⟩ | ⟨hbusy, hidle, hsaid⟩ := h
  · exact Or.inl ⟨hbusy, hlive, hssl, by rw [said_print]; exact hsaid⟩
  · exact Or.inr ⟨hbusy, hidle, (t.said_print m).trans hsaid⟩

theorem BegunOr.of_said {r : App} (h : BegunOr s t) (hsaid : s.said = r.said) : BegunOr r t := by
  obtain ⟨hbusy, hlive, hssl, hsession⟩ | ⟨hbusy, hidle, hanswer⟩ := h
  · exact Or.inl ⟨hbusy, hlive, hssl, by rw [← hsaid]; exact hsession⟩
  · exact Or.inr ⟨hbusy, hidle, by rw [← hsaid]; exact hanswer⟩

/-- A session that `at_ota_start` has opened in the special state. -/
theorem begunOr_of_start {callback : OtaCallback} {dns : DnsResult} (hidle : ∀ u, s.upgrade ≠ .live u)
    (hbusy : s.busy = true) (hssl : s.upgradeUseSsl = 0) (h : s.atOtaStart md5 callback dns = (true, t)) :
    BegunOr s t := by
  have hstart := atOtaStart_said md5 hidle callback dns
  rw [h] at hstart
  obtain ⟨-, hparams, hlive, hsaid⟩ | ⟨hb, -⟩ := hstart
  · have hconn : t.connection = s.connection :=
      Quietly.connection (s := s) (t := { t with out := s.out }) ⟨rfl, hparams⟩
    refine Or.inl ⟨(congrArg Params.busy hparams).trans hbusy, hlive, (congrArg Params.useSsl hparams).trans hssl, ?_⟩
    rw [hconn]
    exact hsaid
  · cases hb

/-- A start that has failed leaves the special state again. -/
theorem declined_of_start {callback : OtaCallback} {dns : DnsResult} (hidle : ∀ u, s.upgrade ≠ .live u)
    (h : s.atOtaStart md5 callback dns = (false, t)) (m : String) :
    Declined s (t.debug m).atLeaveSpecialState.responseError := by
  have hstart := atOtaStart_said md5 hidle callback dns
  rw [h] at hstart
  obtain ⟨hb, -⟩ | ⟨-, hnot, hquiet⟩ := hstart
  · cases hb
  · refine ⟨rfl, fun u hu => hnot u ((t.debug_upgrade m).symm.trans hu), ?_⟩
    rw [said_responseError, said_atLeaveSpecialState, said_debug, hquiet.said]

/-- `update_setparams` has failed. -/
theorem declined_of_setparams (hidle : ∀ u, s.upgrade ≠ .live u) (hbusy : s.busy = false)
    (h : s.updateSetparams = (false, t)) :
    Declined s (t.debug "Error, cannot set update parameters\r\n").responseError := by
  obtain ⟨hsaid, hfree, hkept, -⟩ := s.updateSetparams_said
  rw [h] at hsaid hfree hkept
  have hup := t.debug_upgrade "Error, cannot set update parameters\r\n"
  obtain ⟨o, ho⟩ := t.debug_out "Error, cannot set update parameters\r\n"
  refine ⟨?_, fun u hu => hidle u (hkept.symm.trans (hup.symm.trans hu)), ?_⟩
  · rw [ho]
    exact hfree.trans hbusy
  · rw [said_responseError, said_debug, hsaid]

/-- The application `at_ota_start` is called in. -/
theorem starting_of_setparams (hidle : ∀ u, s.upgrade ≠ .live u) (hssl : s.upgradeUseSsl = 0)
    (h : s.updateSetparams = (true, t)) (type : OtaType) : ∃ v : App,
    ({ t with upgradeType := type } : App).atEnterSpecialState = v ∧ (∀ u, v.upgrade ≠ .live u) ∧ v.busy = true ∧
      v.upgradeUseSsl = 0 ∧ v.said = s.said := by
  obtain ⟨hsaid, -, hkept, husessl⟩ := s.updateSetparams_said
  rw [h] at hsaid hkept husessl
  exact ⟨_, rfl, fun u hu => hidle u (hkept.symm.trans hu), rfl, husessl.trans hssl, hsaid⟩

variable (md5) in
theorem startUpdate_said (hidle : ∀ u, s.upgrade ≠ .live u) (hbusy : s.busy = false) (hssl : s.upgradeUseSsl = 0)
    (type : OtaType) (dns : DnsResult) : BegunOr s (s.startUpdate md5 type dns) := by
  unfold startUpdate
  rcases hset : s.updateSetparams with ⟨_ | _, t⟩
  · exact Or.inr (declined_of_setparams hidle hbusy hset)
  obtain ⟨v, hv, hnot, hset', hplain, hsaid⟩ := starting_of_setparams hidle hssl hset type
  simp only [hv]
  rcases hstart : v.atOtaStart md5 (if type = .upgBoot then OtaCallback.updateBoot else OtaCallback.update) dns
    with ⟨_ | _, w⟩
  · have hdeclined := declined_of_start hnot hstart "Error starting OTA process\r\n"
    exact (BegunOr.of_said (Or.inr hdeclined) hsaid).print _
  · exact ((begunOr_of_start hnot hset' hplain hstart).of_said hsaid).print _

variable (md5) in
theorem updateVerCheckMD5_said (hidle : ∀ u, s.upgrade ≠ .live u) (hbusy : s.busy = false)
    (hssl : s.upgradeUseSsl = 0) (type : OtaType) (dns : DnsResult) : BegunOr s (s.updateVerCheckMD5 md5 type dns) := by
  unfold updateVerCheckMD5
  generalize hr :
    (if s.upgradeRemoteHost.length = 0 then { s with upgradeRemoteHost := REMOTE_UPDATE_HOST } else s) = r
  have hhost : (∀ u, r.upgrade ≠ .live u) ∧ r.busy = false ∧ r.upgradeUseSsl = 0 ∧ r.said = s.said := by
    subst hr
    split_ifs
    · exact ⟨hidle, hbusy, hssl, rfl⟩
    · exact ⟨hidle, hbusy, hssl, rfl⟩
  obtain ⟨hidle', hbusy', hssl', hsame⟩ := hhost
  refine BegunOr.of_said ?_ hsame
  simp only
  rcases hset : r.updateSetparams with ⟨_ | _, t⟩
  · exact Or.inr (declined_of_setparams hidle' hbusy' hset)
  obtain ⟨v, hv, hnot, hset', hplain, hsaid⟩ := starting_of_setparams hidle' hssl' hset type
  refine BegunOr.of_said ?_ hsaid
  simp only [hv]
  rcases hstart : v.atOtaStart md5 .verCheckMd5 dns with ⟨_ | _, w⟩
  · exact Or.inr (declined_of_start hnot hstart _)
  · exact begunOr_of_start hnot hset' hplain hstart

variable (lib md5) in
/-- A command that starts a session asks for a plain connection, or is answered with `ERROR`. -/
theorem execute_starts_said {c : UpdateCommand} {type : OtaType} {dns : DnsResult} (hidle : ∀ u, s.upgrade ≠ .live u)
    (hbusy : s.busy = false) (hc : c.starts = some (type, dns)) : BegunOr s (s.execute lib md5 c) := by
  have hplain : BegunOr s (({ s with upgradeUseSsl := 0 } : App).startUpdate md5 type dns) ∧
      BegunOr s (({ s with upgradeUseSsl := 0 } : App).updateVerCheckMD5 md5 type dns) :=
    ⟨(startUpdate_said md5 (s := { s with upgradeUseSsl := 0 }) hidle hbusy rfl type dns).of_said rfl,
      (updateVerCheckMD5_said md5 (s := { s with upgradeUseSsl := 0 }) hidle hbusy rfl type dns).of_said rfl⟩
  have hcleared : BegunOr s (({ s with updateMd5 := List.replicate 36 0, upgradeUseSsl := 0 } : App).updateVerCheckMD5
      md5 type dns) :=
    (updateVerCheckMD5_said md5 (s := { s with updateMd5 := List.replicate 36 0, upgradeUseSsl := 0 }) hidle hbusy rfl
      type dns).of_said rfl
  cases c with
  | setOptions | setDebug | setChecksum | setBoot => cases hc
  | update | updateBoot =>
    obtain ⟨rfl, rfl⟩ := Prod.mk.inj (Option.some.inj hc)
    exact hplain.1
  | check | checkBoot =>
    obtain ⟨rfl, rfl⟩ := Prod.mk.inj (Option.some.inj hc)
    exact hplain.2
  | getChecksum | getChecksumBoot =>
    obtain ⟨rfl, rfl⟩ := Prod.mk.inj (Option.some.inj hc)
    exact hcleared

variable (lib md5) in
/-- A set command is answered at once. -/
theorem execute_set_said {c : UpdateCommand} (hc : c.starts = none) : (s.execute lib md5 c).busy = s.busy ∧
    (s.execute lib md5 c).upgrade = s.upgrade ∧ ((s.execute lib md5 c).said = s.said ++ [.ok] ∨
      (s.execute lib md5 c).said = s.said ++ [.error] ∨ (s.execute lib md5 c).said = s.said ++ [.restart, .ok]) := by
  obtain ⟨o, rtc, out, debug, heq⟩ := execute_set lib md5 (s := s) hc
  refine ⟨by rw [heq]; rfl, by rw [heq]; rfl, ?_⟩
  cases c with
  | update | updateBoot | check | checkBoot | getChecksum | getChecksumBoot => cases hc
  | setOptions pPara =>
    simp only [execute]
    cases hp : updateParams lib pPara with
    | none =>
      rw [atSetupCmdFWupdate_none hp]
      exact Or.inr (Or.inl s.said_responseError)
    | some p =>
      rw [atSetupCmdFWupdate_some hp]
      split_ifs
      · exact Or.inl (said_responseOk _)
      · exact Or.inr (Or.inl (said_responseError _))
      · exact Or.inl (said_responseOk _)
  | setDebug pPara =>
    simp only [execute, atSetupCmdFWDebug]
    split_ifs
    · exact Or.inr (Or.inl s.said_responseError)
    · exact Or.inr (Or.inl s.said_responseError)
    · exact Or.inl (said_responseOk _)
  | setChecksum pPara =>
    simp only [execute, atSetupCmdFWGetMD5]
    split_ifs
    · exact Or.inr (Or.inl s.said_responseError)
    · exact Or.inl (said_responseOk _)
    · exact Or.inl (said_responseOk _)
  | setBoot pPara =>
    have hboot : ∀ b : UInt8, (s.setRtcNextboot b).said = s.said := by
      intro b
      obtain ⟨rtc, hrtc⟩ := s.setRtcNextboot_eq b
      rw [hrtc]
      rfl
    simp only [execute, atSetupCmdBoot]
    split_ifs
    · exact Or.inr (Or.inl s.said_responseError)
    · exact Or.inr (Or.inl s.said_responseError)
    · refine Or.inr (Or.inr ?_)
      rw [said_responseOk, said_systemRestart, said_print, hboot, List.append_assoc]
      rfl
    · exact Or.inl (by rw [said_responseOk, hboot])

end App

end Esp8266At
