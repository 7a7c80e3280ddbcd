import Esp8266At.App.Isolation
import Esp8266At.App.Within
import Esp8266At.Lib.Ledger

/-!
# The memory of the sessions

The calls of `os_zalloc` and `os_free` in `at-ota.c` and in the callbacks of `at_upgrade.c`, in their order, as
operations on the set of allocated blocks. `OtaHeap.blocks` tells which blocks are allocated in a state: those of the
session, of the connections that have not been reported closed, the response, and the responses that have been lost.
The record of `boot_info` is left out: it stays allocated from `read_boot_info` to `free_boot_info`.
-/

namespace Esp8266At

open NorFlash Machine Ledger

/-- A block of the heap. The `espconn` and `esp_tcp` of a connection are named by it, and a response by the number of
connections that have been created before. -/
inductive OtaBlock where
  | upgradeStatus
  | sectorBuffer
  | espconn (conn : ℕ)
  | espTcp (conn : ℕ)
  | request
  | response (n : ℕ)
  deriving DecidableEq

abbrev HeapOp := Ledger.Op OtaBlock

namespace App

open OtaBlock Ledger.Op

variable (s : App)

instance : Decidable s.CanAllocate := inferInstanceAs (Decidable (_ ∧ _))

/-- The block of `upgrade_check_response`. -/
def responseBlock : OtaBlock := .response s.nextConn

/-- `at_ota_start`. -/
def atOtaStartOps (dns : DnsResult) : List HeapOp :=
  let conn := s.nextConn
  if s.upgradeFlag = .start then [] else
  if s.heap 0 = false then [] else
  if s.heap 1 = false then [alloc upgradeStatus, free upgradeStatus] else
  if s.heap 2 = false then [alloc upgradeStatus, alloc sectorBuffer, free sectorBuffer, free upgradeStatus] else
  if s.heap 3 = false then
    [alloc upgradeStatus, alloc sectorBuffer, alloc (espconn conn), free (espconn conn), free sectorBuffer,
      free upgradeStatus]
  else
    [alloc upgradeStatus, alloc sectorBuffer, alloc (espconn conn), alloc (espTcp conn)] ++
      if dns = .failed then [free (espTcp conn), free (espconn conn), free sectorBuffer, free upgradeStatus] else []

/-- The user callbacks: only the version check frees the response. -/
def callBackOps (callback : OtaCallback) (result : Bool) : List HeapOp :=
  if callback = .verCheckMd5 ∧ result = true ∧ s.upgradeCheckResponse.isSome ∧
      (s.upgradeType = .verCheck ∨ s.upgradeType = .verCheckBoot) then [free s.responseBlock] else []

/-- `at_ota_deinit` and the callback it calls. -/
def atOtaDeinitOps : List HeapOp :=
  match s.upgrade with
  | .live u =>
    (if s.upgradeCheckResponse.isSome then [free s.responseBlock] else []) ++
      (if (s.dropResponse u).upgradeCheckResponse.isSome then [alloc s.responseBlock] else []) ++
      [free sectorBuffer, free upgradeStatus] ++ (s.cleanUp u).2.callBackOps u.callback (s.cleanUp u).1
  | _ => []

/-- The part of `upgrade_disconcb` about the connection. -/
def freeConnOps (conn : Option ℕ) : List HeapOp :=
  match conn with
  | none => []
  | some c => [free (espTcp c), free (espconn c)]

/-- The request of `upgrade_connect_cb`. -/
def requestOps (e : NetEvent) : List HeapOp :=
  match e with
  | .connected => if s.heap 0 then [alloc request, free request] else []
  | _ => []

/-- An event: `upgrade_disconcb` frees its connection before it calls `at_ota_deinit`. -/
def stepOps (e : NetEvent) : List HeapOp :=
  freeConnOps (s.freedConn (.event e)) ++ s.requestOps e ++
    match s.ending e with
    | some t => t.atOtaDeinitOps
    | none => []

def callOps (a : OtaCall) : List HeapOp :=
  if s.crashed then [] else
  match a with
  | .configure _ => []
  | .start _ dns => s.atOtaStartOps dns
  | .event e => s.stepOps e

/-- The number of the response that `upgrade_check_response` points to. -/
def pending : Finset ℕ := if s.upgradeCheckResponse.isSome then {s.nextConn} else ∅

def inProgress : Bool :=
  match s.upgrade with
  | .live _ => true
  | _ => false

end App

/-- The application and the network layer, with what the heap depends on. -/
structure OtaHeap where
  net : OtaNet
  /-- The connections whose disconnect callback has been registered, by `upgrade_connect_cb`. -/
  registered : Finset ℕ
  /-- The responses `at_ota_start` has forgotten. -/
  lost : Finset ℕ

namespace OtaHeap

def nextRegistered (a : OtaAction) (h : OtaHeap) : Finset ℕ :=
  match a with
  | .connected conn => insert conn h.registered
  | .error conn _ | .disconnected conn => h.registered.erase conn
  | _ => h.registered

/-- `upgrade_check_response = NULL` in `at_ota_start`. -/
def nextLost (a : OtaAction) (h : OtaHeap) : Finset ℕ :=
  let s := h.net.app
  match a with
  | .start _ _ =>
    if s.upgradeFlag ≠ .start ∧ s.CanAllocate ∧ s.upgradeCheckResponse.isSome then insert s.nextConn h.lost
    else h.lost
  | _ => h.lost

section
variable (md5 : List UInt8 → Digest)

def next (a : OtaAction) (h : OtaHeap) : OtaHeap :=
  if h.net.app.crashed then h else ⟨h.net.next md5 a, h.nextRegistered a, h.nextLost a⟩

/-- The heap operations of a run. -/
def heapOps : List OtaAction → OtaHeap → List HeapOp
  | [], _ => []
  | a :: as, h => h.net.app.callOps a.toCall ++ heapOps as (h.next md5 a)

end

/-- The network layer reports on a connection whose session is over only that it is closed, and only if its
disconnect callback has been registered. -/
def Orderly (a : OtaAction) (h : OtaHeap) : Prop :=
  h.net.Deliverable a ∧
    match a with
    | .connected conn | .error conn _ => h.net.app.sessionConn = some conn
    | .received conn _ _ => h.net.app.sessionConn = some conn ∧ conn ∈ h.registered
    | .disconnected conn => conn ∈ h.registered
    | _ => True

instance (a : OtaAction) (h : OtaHeap) : Decidable (Orderly a h) :=
  match a with
  | .configure _ | .start _ _ | .resolved _ _ | .timer => inferInstanceAs (Decidable (_ ∧ True))
  | .connected conn | .error conn _ => inferInstanceAs (Decidable (_ ∧ h.net.app.sessionConn = some conn))
  | .received conn _ _ =>
    inferInstanceAs (Decidable (_ ∧ h.net.app.sessionConn = some conn ∧ conn ∈ h.registered))
  | .disconnected conn => inferInstanceAs (Decidable (_ ∧ conn ∈ h.registered))

/-- The blocks of a session that is in progress, of connections and of responses. -/
def held (session : Bool) (conns responses : Finset ℕ) : Finset OtaBlock :=
  (if session then {.upgradeStatus, .sectorBuffer} else ∅) ∪ conns.image .espconn ∪ conns.image .espTcp ∪
    responses.image .response

/-- The connections whose blocks are allocated. -/
def conns (h : OtaHeap) : Finset ℕ := h.registered ∪ h.net.app.sessionConn.toFinset

def responses (h : OtaHeap) : Finset ℕ := h.lost ∪ h.net.app.pending

/-- The blocks that are allocated. -/
def blocks (h : OtaHeap) : Finset OtaBlock := held h.net.app.inProgress h.conns h.responses

/-! ### Operations -/

variable {b : Bool} {C R : Finset ℕ} {c n : ℕ}

theorem mem_held (x : OtaBlock) : x ∈ held b C R ↔
    match x with
    | .upgradeStatus | .sectorBuffer => b = true
    | .espconn c | .espTcp c => c ∈ C
    | .request => False
    | .response n => n ∈ R := by
  cases x <;> cases b <;> simp [held]

/-- One that is added and taken away again. -/
theorem erase_own (C : Finset ℕ) (c : ℕ) : (C ∪ {c}).erase c = C.erase c := by
  ext x
  by_cases hx : x = c <;> simp [hx]

theorem union_own {o : Option ℕ} (ho : o = some c) (hc : c ∈ C) : C ∪ o.toFinset = C := by
  rw [ho, Option.toFinset_some, Finset.union_eq_left, Finset.singleton_subset_iff]
  exact hc

/-- A session and its connection, block after block. -/
theorem perform_started (hc : c ∉ C) :
    perform [.alloc .upgradeStatus, .alloc .sectorBuffer, .alloc (.espconn c), .alloc (.espTcp c)] (held false C R) =
      some (held true (insert c C) R) := by
  rw [perform_alloc (by simp [mem_held]), perform_alloc (by simp [mem_held]), perform_alloc (by simp [mem_held, hc]),
    perform_alloc (by simp [mem_held, hc]), perform_nil]
  congr 1
  ext x
  cases x <;> simp [mem_held]

theorem perform_closed : perform [.free .sectorBuffer, .free .upgradeStatus] (held true C R) =
    some (held false C R) := by
  rw [perform_free (by simp [mem_held]), perform_free (by simp [mem_held]), perform_nil]
  congr 1
  ext x
  cases x <;> simp [mem_held]

theorem perform_freeConn (hc : c ∈ C) :
    perform (App.freeConnOps (some c)) (held b C R) = some (held b (C.erase c) R) := by
  unfold App.freeConnOps
  rw [perform_free (by simp [mem_held, hc]), perform_free (by simp [mem_held, hc]), perform_nil]
  congr 1
  ext x
  cases x <;> simp [mem_held]

theorem perform_responded (hn : n ∉ R) :
    perform [.alloc (.response n)] (held b C R) = some (held b C (insert n R)) := by
  rw [perform_alloc (by simp [mem_held, hn]), perform_nil]
  congr 1
  ext x
  cases x <;> simp [mem_held]

theorem perform_answered (hn : n ∈ R) :
    perform [.free (.response n)] (held b C R) = some (held b C (R.erase n)) := by
  rw [perform_free (by simp [mem_held, hn]), perform_nil]
  congr 1
  ext x
  cases x <;> simp [mem_held]

theorem perform_request : perform [.alloc .request, .free .request] (held b C R) = some (held b C R) := by
  have hinner : perform [] (insert .request (held b C R)) = some (insert .request (held b C R)) := rfl
  exact perform_scope (by simp [mem_held]) hinner

/-- Blocks that are given back in the reverse order, as where `at_ota_start` fails. -/
theorem perform_unstarted {s : App} (dns : DnsResult) (hC : s.nextConn ∉ C)
    (h : s.upgradeFlag = .start ∨ ¬s.CanAllocate ∨ dns = .failed) :
    perform (s.atOtaStartOps dns) (held false C R) = some (held false C R) := by
  have hunwound : ∀ bs : List OtaBlock,
      bs <+: [.upgradeStatus, .sectorBuffer, .espconn s.nextConn, .espTcp s.nextConn] →
      perform (bs.map .alloc ++ bs.reverse.map .free) (held false C R) = some (held false C R) := by
    intro bs hbs
    refine perform_unwound (hbs.sublist.nodup (by simp)) fun x hx => ?_
    have hmem := hbs.subset hx
    simp only [List.mem_cons, List.not_mem_nil, or_false] at hmem
    rcases hmem with rfl | rfl | rfl | rfl <;> simp [mem_held, hC]
  unfold App.atOtaStartOps
  simp only
  split_ifs with hflag h0 h1 h2 h3 hdns
  · rfl
  · rfl
  · exact hunwound [.upgradeStatus] (by simp)
  · exact hunwound [.upgradeStatus, .sectorBuffer] (by simp)
  · exact hunwound [.upgradeStatus, .sectorBuffer, .espconn s.nextConn] (by simp)
  · exact hunwound [.upgradeStatus, .sectorBuffer, .espconn s.nextConn, .espTcp s.nextConn] List.prefix_rfl
  · have halloc : s.CanAllocate := ⟨by simpa using h0, by simpa using h1, by simpa using h2, by simpa using h3⟩
    rcases h with h | h | h
    · exact absurd h hflag
    · exact absurd halloc h
    · exact absurd h hdns

end OtaHeap

/-! ### The response -/

namespace App

variable {md5 : List UInt8 → Digest} {s t : App} {u : UpgradeStatus}

theorem pending_eq (hresponse : t.upgradeCheckResponse.isSome = s.upgradeCheckResponse.isSome)
    (hnext : t.nextConn = s.nextConn) : t.pending = s.pending := by
  unfold pending
  rw [hresponse, hnext]

@[simp] theorem print_response (s : App) (m : String) :
    (s.print m).upgradeCheckResponse = s.upgradeCheckResponse := rfl

@[simp] theorem responseOk_response (s : App) : s.responseOk.upgradeCheckResponse = s.upgradeCheckResponse := rfl

@[simp] theorem responseError_response (s : App) :
    s.responseError.upgradeCheckResponse = s.upgradeCheckResponse := rfl

@[simp] theorem systemRestart_response (s : App) :
    s.systemRestart.upgradeCheckResponse = s.upgradeCheckResponse := rfl

@[simp] theorem atLeaveSpecialState_response (s : App) :
    s.atLeaveSpecialState.upgradeCheckResponse = s.upgradeCheckResponse := rfl

@[simp] theorem checksumReceived_response (s : App) (name : String) (response : List UInt8) :
    (s.checksumReceived name response).upgradeCheckResponse = s.upgradeCheckResponse := rfl

theorem firmwareReady_response (s : App) : s.firmwareReady.upgradeCheckResponse = s.upgradeCheckResponse := by
  unfold firmwareReady
  simp only
  split_ifs <;> simp

variable (md5) in
theorem checkFirmware_response (s : App) (n : UInt8) :
    (checkFirmware md5 n s).2.upgradeCheckResponse = s.upgradeCheckResponse := by
  obtain ⟨ops, idx, d, heap, out, bi, hcheck, -⟩ := checkFirmware_checked md5 s n
  rw [hcheck]

theorem debug_response (s : App) (m : String) : (s.debug m).upgradeCheckResponse = s.upgradeCheckResponse := by
  obtain ⟨o, ho⟩ := s.debug_out m
  rw [ho]
  rfl

theorem otaUpdateCallBack_response (s : App) (result : Bool) :
    (s.otaUpdateCallBack md5 result).upgradeCheckResponse = s.upgradeCheckResponse := by
  unfold otaUpdateCallBack
  cases result with
  | false => simp
  | true =>
    simp only [if_true]
    generalize ht : s.debug _ = t
    have hkept : t.upgradeCheckResponse = s.upgradeCheckResponse := ht ▸ s.debug_response _
    have hcheck := checkFirmware_response md5 t (fwNumber s.upgradeFlashAddr).toUInt8
    generalize checkFirmware md5 (fwNumber s.upgradeFlashAddr).toUInt8 t = r at hcheck
    obtain ⟨ok, w⟩ := r
    simp only
    split_ifs
    · exact (firmwareReady_response _).trans (hcheck.trans hkept)
    · exact hcheck.trans hkept

theorem foldl_eraseAt_response (addrs : List UInt32) (s : App) :
    (addrs.foldl eraseAt s).upgradeCheckResponse = s.upgradeCheckResponse := by
  induction addrs generalizing s with
  | nil => rfl
  | cons a addrs ih => exact ih (s.eraseAt a)

theorem bootloaderUpdated_response (s : App) : s.bootloaderUpdated.upgradeCheckResponse = s.upgradeCheckResponse := by
  unfold bootloaderUpdated
  simp only
  split_ifs
  · rw [systemRestart_response, print_response, foldl_eraseAt_response]
    rfl
  · simp

variable (md5) in
theorem checkBootloader_response (s : App) (response : List UInt8) :
    (checkBootloader md5 response s).2.upgradeCheckResponse = s.upgradeCheckResponse := by
  unfold checkBootloader
  split_ifs
  · rfl
  · exact s.debug_response _
  · exact s.debug_response _

theorem otaUpdateBootCallBack_response (s : App) (result : Bool) :
    (s.otaUpdateBootCallBack md5 result).upgradeCheckResponse.isSome = s.upgradeCheckResponse.isSome := by
  unfold otaUpdateBootCallBack
  simp only
  cases result with
  | false => simp
  | true =>
    cases hresponse : s.upgradeCheckResponse with
    | none => simp [hresponse]
    | some response =>
      simp only
      have hdebug := s.debug_response "Checking bootloader MD5 csum\r\n"
      generalize s.debug "Checking bootloader MD5 csum\r\n" = t at hdebug
      have hcheck := (checkBootloader_response md5 t response).trans (hdebug.trans hresponse)
      generalize checkBootloader md5 response t = r at hcheck
      obtain ⟨_ | _, v⟩ := r
      · exact congrArg Option.isSome hcheck
      simp only
      split_ifs
      · exact congrArg Option.isSome hcheck
      generalize (response.set 2 (v.upgradeFlashMap &&& 0x0F)).set 3 (v.upgradeFlashMap &&& 0xF0) = response'
      generalize hw : ({ v with upgradeCheckResponse := some response' } : App) = w
      have hset : w.upgradeCheckResponse.isSome = true := hw ▸ rfl
      rcases herase : w.spiFlashEraseSector 0 with ⟨_ | _, x⟩
      all_goals
        have hx : x.upgradeCheckResponse = w.upgradeCheckResponse := by
          rw [show x = (w.spiFlashEraseSector 0).2 by rw [herase]]
          rfl
      · exact (congrArg Option.isSome hx).trans hset
      simp only
      rcases hwrite : x.spiFlashWrite 0 (response'.take x.upgradeContentLen.toNat) with ⟨_ | _, y⟩
      all_goals
        have hy : y.upgradeCheckResponse = x.upgradeCheckResponse := by
          rw [show y = (x.spiFlashWrite 0 (response'.take x.upgradeContentLen.toNat)).2 by rw [hwrite]]
          rfl
      · exact (congrArg Option.isSome (hy.trans hx)).trans hset
      · exact (congrArg Option.isSome ((bootloaderUpdated_response y).trans (hy.trans hx))).trans hset

theorem checkVersion_response (s : App) (name old_ver : String) (echo : Bool) (response : List UInt8) :
    (s.checkVersion name old_ver echo response).upgradeCheckResponse = none := by
  unfold checkVersion
  simp only
  split_ifs <;> rfl

/-- The check callback frees the response of a version check. -/
theorem otaVerCheckMd5CallBack_response (s : App) (result : Bool) :
    (s.otaVerCheckMd5CallBack result).upgradeCheckResponse.isSome = (s.upgradeCheckResponse.isSome &&
      !decide (result = true ∧ s.upgradeCheckResponse.isSome ∧
        (s.upgradeType = .verCheck ∨ s.upgradeType = .verCheckBoot))) := by
  unfold otaVerCheckMd5CallBack
  cases result with
  | false => cases htype : s.upgradeType <;> simp
  | true =>
    cases hresponse : s.upgradeCheckResponse with
    | none => cases htype : s.upgradeType <;> simp [hresponse]
    | some response =>
      cases htype : s.upgradeType <;> simp [checkVersion_response, hresponse]

theorem cleanUp_response (s : App) (u : UpgradeStatus) :
    (s.cleanUp u).2.upgradeCheckResponse = (s.dropResponse u).upgradeCheckResponse := by
  obtain ⟨o, ho⟩ := disconnectConn_out ({ s.dropResponse u with upgrade := .null } : App) u
  unfold cleanUp completion
  rw [ho]
  split_ifs
  · exact debug_response _ _
  · exact debug_response _ _

/-! ### The end of a session -/

open OtaHeap

variable {b : Bool} {C L : Finset ℕ}

variable (md5) in
/-- What a user callback does with the response. -/
theorem perform_callBack (callback : OtaCallback) (result : Bool) (hnew : s.nextConn ∉ L) :
    perform (s.callBackOps callback result) (held b C (L ∪ s.pending)) =
      some (held b C (L ∪ (s.callBack md5 callback result).pending)) := by
  have hnext : (s.callBack md5 callback result).nextConn = s.nextConn :=
    congrArg Frame.nextConn (s.frame_callBack callback result)
  have kept : (s.callBack md5 callback result).upgradeCheckResponse.isSome = s.upgradeCheckResponse.isSome →
      some (held b C (L ∪ s.pending)) = some (held b C (L ∪ (s.callBack md5 callback result).pending)) := by
    intro h
    rw [pending_eq h hnext]
  unfold callBackOps
  split_ifs with hfree
  · obtain ⟨rfl, hresult, hsome, htype⟩ := hfree
    have hnone : (s.callBack md5 .verCheckMd5 result).upgradeCheckResponse.isSome = false := by
      rw [callBack, otaVerCheckMd5CallBack_response, decide_eq_true ⟨hresult, hsome, htype⟩, Bool.not_true,
        Bool.and_false]
    have hpending : s.pending = {s.nextConn} := if_pos hsome
    have hafter : (s.callBack md5 .verCheckMd5 result).pending = ∅ := by
      unfold pending
      rw [hnone]
      rfl
    rw [responseBlock, perform_answered (by simp [hpending]), hafter, hpending, erase_own,
      Finset.erase_eq_of_notMem hnew, Finset.union_empty]
  · refine kept ?_
    cases callback with
    | update => exact congrArg Option.isSome (s.otaUpdateCallBack_response result)
    | updateBoot => exact s.otaUpdateBootCallBack_response result
    | verCheckMd5 =>
      have hnot : ¬(result = true ∧ s.upgradeCheckResponse.isSome = true ∧
          (s.upgradeType = .verCheck ∨ s.upgradeType = .verCheckBoot)) := fun h => hfree ⟨rfl, h⟩
      rw [callBack, otaVerCheckMd5CallBack_response, decide_eq_false hnot, Bool.not_false, Bool.and_true]

variable (md5) in
/-- `at_ota_deinit` frees the session, and exchanges the response. -/
theorem perform_atOtaDeinit (hlive : s.upgrade = .live u) (hnew : s.nextConn ∉ L) :
    perform s.atOtaDeinitOps (held true C (L ∪ s.pending)) =
      some (held false C (L ∪ (s.atOtaDeinit md5).pending)) := by
  have hframe := s.cleanUp_frame u
  have hnext : (s.cleanUp u).2.nextConn = s.nextConn := congrArg Frame.nextConn hframe
  have hresponse := s.cleanUp_response u
  have hdeinit : s.atOtaDeinit md5 = (s.cleanUp u).2.callBack md5 u.callback (s.cleanUp u).1 := by
    unfold atOtaDeinit
    simp only [hlive]
  have hforgotten : perform (if s.upgradeCheckResponse.isSome then [.free s.responseBlock] else [])
      (held true C (L ∪ s.pending)) = some (held true C L) := by
    split_ifs with hsome
    · have hpending : s.pending = {s.nextConn} := if_pos hsome
      rw [responseBlock, perform_answered (by simp [hpending]), hpending, erase_own, Finset.erase_eq_of_notMem hnew]
    · have hpending : s.pending = ∅ := if_neg hsome
      rw [hpending, Finset.union_empty]
      rfl
  have hstored : perform (if (s.dropResponse u).upgradeCheckResponse.isSome then [.alloc s.responseBlock] else [])
      (held true C L) = some (held true C (L ∪ (s.cleanUp u).2.pending)) := by
    split_ifs with hsome
    · have hpending : (s.cleanUp u).2.pending = {s.nextConn} := by
        unfold pending
        rw [hresponse, hnext, if_pos hsome]
      rw [responseBlock, perform_responded hnew, hpending, Finset.insert_eq, Finset.union_comm]
    · have hpending : (s.cleanUp u).2.pending = ∅ := by
        unfold pending
        rw [hresponse, if_neg hsome]
      rw [hpending, Finset.union_empty]
      rfl
  have hcallback := perform_callBack md5 (b := false) (C := C) u.callback (s.cleanUp u).1
    (s := (s.cleanUp u).2) (L := L) (by rw [hnext]; exact hnew)
  rw [← hdeinit] at hcallback
  unfold atOtaDeinitOps
  simp only [hlive]
  exact perform_trans (perform_trans (perform_trans hforgotten hstored) perform_closed) hcallback

/-! ### Events of a session -/

/-- The connection of a session, and its parameters for the heap. -/
theorem ending_pending {e : NetEvent} (hlive : s.upgrade = .live u) (h : s.ending e = some t) :
    t.pending = s.pending ∧ t.nextConn = s.nextConn ∧ ∃ v, t.upgrade = .live v := by
  obtain ⟨d, heap, out, v, n, timer, flag, crashed, rfl, -, -⟩ := ending_within hlive h
  exact ⟨rfl, rfl, v, rfl⟩

variable (md5) in
/-- An event that ends a session, after what it frees itself. -/
theorem perform_ending {e : NetEvent} {C' : Finset ℕ} (hlive : s.upgrade = .live u) (hrun : s.crashed = false)
    (hnew : s.nextConn ∉ L) (hend : s.ending e = some t)
    (hops : perform (freeConnOps (s.freedConn (.event e)) ++ s.requestOps e) (held true C (L ∪ s.pending)) =
      some (held true C' (L ∪ s.pending))) :
    perform (s.callOps (.event e)) (held true C (L ∪ s.pending)) =
      some (held false C' (L ∪ (s.step md5 e).pending)) := by
  obtain ⟨hpending, hnext, v, hv⟩ := ending_pending hlive hend
  have hdeinit := perform_atOtaDeinit md5 (C := C') hv (hnext ▸ hnew)
  rw [hpending] at hdeinit
  unfold callOps stepOps
  rw [hrun, if_neg Bool.false_ne_true, step_ending hend]
  simp only [hend]
  exact perform_trans hops hdeinit

variable (md5) in
/-- A session that goes on keeps its connection. -/
theorem step_kept {e : NetEvent} (hlive : s.upgrade = .live u) (hend : s.ending e = none) :
    (∃ u', (s.step md5 e).upgrade = .live u' ∧ u'.conn = u.conn) ∧ (s.step md5 e).pending = s.pending ∧
      (s.step md5 e).nextConn = s.nextConn := by
  obtain ⟨d, heap, out, u', n, timer, flag, crashed, hstep, -, -⟩ := step_within md5 hlive hend
  have hup : (s.step md5 e).upgrade = .live u' := by rw [hstep]; rfl
  refine ⟨⟨u', hup, ?_⟩, by rw [hstep]; rfl, by rw [hstep]; rfl⟩
  rcases step_frame md5 hlive e with ⟨v, _, hconn, hframe⟩ | ⟨_, -, hframe⟩
  · have hv : (s.step md5 e).upgrade = .live v := congrArg Frame.upgrade hframe
    obtain rfl : v = u' := UpgradePtr.live.inj (hv.symm.trans hup)
    exact hconn
  · have hnull : (s.step md5 e).upgrade = .null := congrArg Frame.upgrade hframe
    rw [hup] at hnull
    cases hnull

/-! ### The timer of received data -/

theorem debug_timer (s : App) (m : String) : (s.debug m).otaTimer = s.otaTimer :=
  congrArg Frame.timer (s.frame_debug m)

theorem downloadFinished_timer (u : UpgradeStatus) (s : App) : (s.downloadFinished u).2.otaTimer = s.otaTimer :=
  debug_timer { s with upgradeFlag := .finish } _

/-- The timer is not set for a connection that is to be made. -/
def NotConnecting (s : App) : Prop := s.otaTimer ≠ some .connectTimeout

theorem NotConnecting.of_eq (h : s.NotConnecting) (ht : t.otaTimer = s.otaTimer) : t.NotConnecting := by
  rw [NotConnecting, ht]
  exact h

theorem NotConnecting.receiveEnd (h : s.NotConnecting) (reading : Bool) (u : UpgradeStatus) :
    (s.receiveEnd reading u).2.NotConnecting := by
  unfold App.receiveEnd
  split_ifs
  · rcases herase : s.spiFlashEraseSector (u.flashAddr / UInt32.ofNat SECTOR_SIZE) with ⟨_ | _, t⟩
    all_goals
      have ht : t.otaTimer = s.otaTimer := congrArg (fun r : Bool × App => r.2.otaTimer) herase.symm
    · exact h.of_eq ht
    simp only
    rcases hwrite : t.spiFlashWrite u.flashAddr u.buffer.val with ⟨_ | _, v⟩
    all_goals
      have hv : v.otaTimer = t.otaTimer := congrArg (fun r : Bool × App => r.2.otaTimer) hwrite.symm
    · exact h.of_eq (hv.trans ht)
    · exact h.of_eq ((downloadFinished_timer u v).trans (hv.trans ht))
  · exact h.of_eq (downloadFinished_timer u s)
  · exact h.of_eq (s.debug_timer _)
  · exact nofun

theorem NotConnecting.writeData (h : s.NotConnecting) (data : List UInt8) (u : UpgradeStatus) {r : WriteResult}
    {v : UpgradeStatus} (hr : writeData data u s = (r, v, t)) : t.NotConnecting := by
  have hframe := (writeData_frame data u s).1
  rw [hr] at hframe
  exact h.of_eq (congrArg Frame.timer hframe)

theorem NotConnecting.receiveFirst (h : s.NotConnecting) (data : List UInt8) (reading : Bool) (u : UpgradeStatus) :
    (s.receiveFirst data reading u).2.NotConnecting := by
  unfold App.receiveFirst
  rcases responseHeader data with _ | ⟨content_len, content⟩
  · exact h.of_eq (s.debug_timer _)
  simp only
  rcases hwrite : App.writeData content { u with totalLen := u.totalLen + UInt32.ofNat content.length } s
    with ⟨_ | _ | _, v, t⟩
  all_goals have ht := h.writeData _ _ hwrite
  · simp only
    split_ifs
    · exact ht.of_eq (debug_timer _ _)
    · exact NotConnecting.receiveEnd (ht.of_eq (debug_timer { t with upgradeContentLen := content_len } _)) reading v
  · exact ht
  · exact ht

theorem NotConnecting.receiveNext (h : s.NotConnecting) (data : List UInt8) (reading : Bool) (u : UpgradeStatus) :
    (s.receiveNext data reading u).2.NotConnecting := by
  unfold App.receiveNext
  rcases hwrite : App.writeData data { u with totalLen := u.totalLen + UInt32.ofNat data.length } s with
    ⟨_ | _ | _, v, t⟩
  all_goals have ht := h.writeData _ _ hwrite
  · exact ht.receiveEnd reading v
  · exact ht
  · exact ht

theorem receive_notConnecting (hlive : s.upgrade = .live u) (data : Chunk) (reading : Bool) :
    (s.receive data reading).2.NotConnecting := by
  unfold receive
  generalize ht : ({ s with otaTimer := none } : App) = t
  have hdisarm : t.NotConnecting := ht ▸ nofun
  rw [hlive]
  simp only
  split_ifs
  · exact hdisarm.receiveFirst data.val reading u
  · exact hdisarm.receiveNext data.val reading u

theorem callOps_goesOn {e : NetEvent} (hrun : s.crashed = false) (hend : s.ending e = none) :
    s.callOps (.event e) = freeConnOps (s.freedConn (.event e)) ++ s.requestOps e := by
  unfold callOps stepOps
  rw [hrun, if_neg Bool.false_ne_true]
  simp only [hend, List.append_nil]

/-! ### Calls -/

variable (md5) in
theorem call_start (hrun : s.crashed = false) (callback : OtaCallback) (dns : DnsResult) :
    s.call md5 (OtaAction.start callback dns).toCall = (s.atOtaStart md5 callback dns).2 := by
  show (if s.crashed then s else _) = _
  rw [hrun]
  rfl

variable (md5) in
theorem call_configure (hrun : s.crashed = false) (p : UpdateSettings) :
    s.call md5 (OtaAction.configure p).toCall = s.configure p := by
  show (if s.crashed then s else _) = _
  rw [hrun]
  rfl

variable (md5) in
/-- Only `at_ota_start` makes connections. -/
theorem step_nextConn (s : App) (e : NetEvent) : (s.step md5 e).nextConn = s.nextConn := by
  by_cases hlive : ∃ u, s.upgrade = .live u
  · obtain ⟨u, hu⟩ := hlive
    cases step_frame md5 hu e with
    | on v timer hconn h => exact congrArg Frame.nextConn h
    | closed flag hflag h => exact congrArg Frame.nextConn h
  · obtain ⟨out, timer, crashed, hstep⟩ := step_sessionless md5 (fun u hu => hlive ⟨u, hu⟩) e
    rw [hstep]

variable (md5) in
theorem nextConn_le_call (hrun : s.crashed = false) (a : OtaAction) :
    s.nextConn ≤ (s.call md5 a.toCall).nextConn := by
  have event : ∀ e, a.toCall = .event e → s.nextConn ≤ (s.call md5 a.toCall).nextConn := by
    intro e he
    have hcall : s.call md5 (.event e) = s.step md5 e := rfl
    rw [he, hcall, step_nextConn]
  cases a with
  | configure p =>
    rw [call_configure md5 hrun]
    exact Nat.le_refl _
  | start callback dns =>
    rw [call_start md5 hrun]
    rcases s.atOtaStart_spec md5 callback dns with ⟨-, o, ho⟩ | ⟨-, -, o, ho⟩ | ⟨-, -, -, heap, o, ho⟩ |
      ⟨-, -, -, heap, o, ho⟩ | ⟨-, -, -, heap, o, ho⟩ <;> rw [ho]
    · exact Nat.le_refl _
    · exact Nat.le_refl _
    · exact Nat.le_refl _
    · exact Nat.le_succ _
    · exact Nat.le_succ _
  | resolved | connected | received | error | disconnected | timer => exact event _ rfl

end App

namespace OtaHeap

variable {md5 : List UInt8 → Digest} {h : OtaHeap} {a : OtaAction} {e : NetEvent} {u : UpgradeStatus}

/-- The heap operations of an action take the blocks of a state to those of the next. -/
def Performs (md5 : List UInt8 → Digest) (a : OtaAction) (h : OtaHeap) : Prop :=
  perform (h.net.app.callOps a.toCall) h.blocks = some (h.next md5 a).blocks

/-- What holds between two steps, as far as the heap depends on it. -/
structure Accounted (h : OtaHeap) : Prop where
  tracked : h.net.Tracked
  opened : ∀ c ∈ h.registered, c ∈ h.net.opened
  lost : ∀ n ∈ h.lost, n < h.net.app.nextConn
  deinit : h.net.app.otaTimer = some .deinit → ∀ c, h.net.app.sessionConn = some c → c ∈ h.registered
  connecting : h.net.app.otaTimer = some .connectTimeout → ∀ c, h.net.app.sessionConn = some c → c ∉ h.registered

theorem sessionConn_live {s : App} (hlive : s.upgrade = .live u) : s.sessionConn = u.conn := by
  unfold App.sessionConn
  rw [hlive]

theorem sessionConn_idle {s : App} (hidle : ∀ u, s.upgrade ≠ .live u) :
    s.sessionConn = none ∧ s.inProgress = false := by
  unfold App.sessionConn App.inProgress
  cases hup : s.upgrade with
  | live u => exact absurd hup (hidle u)
  | null | freed => exact ⟨rfl, rfl⟩

theorem next_eq (hrun : h.net.app.crashed = false) :
    h.next md5 a = ⟨h.net.next md5 a, h.nextRegistered a, h.nextLost a⟩ := by
  unfold next
  rw [hrun]
  rfl

theorem next_sets (hrun : h.net.app.crashed = false) :
    (h.next md5 a).registered = h.nextRegistered a ∧ (h.next md5 a).lost = h.nextLost a := by
  rw [next_eq hrun]
  exact ⟨rfl, rfl⟩

theorem next_app (hrun : h.net.app.crashed = false) : (h.next md5 a).net.app = h.net.app.call md5 a.toCall := by
  rw [next_eq hrun]
  exact OtaNet.next_app hrun a

theorem Accounted.new (hacc : h.Accounted) : h.net.app.nextConn ∉ h.lost :=
  fun hn => absurd (hacc.lost _ hn) (lt_irrefl _)

/-- The next connection is a new one. -/
theorem Accounted.unregistered (hacc : h.Accounted) : h.net.app.nextConn ∉ h.registered := fun hmem =>
  absurd (hacc.tracked.opened _ (hacc.opened _ hmem)) (lt_irrefl _)

theorem Accounted.idle (hacc : h.Accounted) (hne : h.net.app.upgradeFlag ≠ .start) :
    ∀ u, h.net.app.upgrade ≠ .live u := fun u hu => hne (hacc.tracked.session u hu).1

theorem blocks_live (hlive : h.net.app.upgrade = .live u) :
    h.blocks = held true (h.registered ∪ u.conn.toFinset) (h.lost ∪ h.net.app.pending) := by
  unfold blocks conns responses App.inProgress
  rw [hlive, sessionConn_live hlive]

theorem blocks_idle (hidle : ∀ u, h.net.app.upgrade ≠ .live u) :
    h.blocks = held false h.registered (h.lost ∪ h.net.app.pending) := by
  obtain ⟨hconn, hidle⟩ := sessionConn_idle hidle
  unfold blocks conns responses
  rw [hconn, hidle, Option.toFinset_none, Finset.union_empty]

/-- An event that ends the session. -/
theorem Accounted.ends (hacc : h.Accounted) (hrun : h.net.app.crashed = false) (hcall : a.toCall = .event e)
    (hlost : h.nextLost a = h.lost) (hlive : h.net.app.upgrade = .live u) {t : App}
    (hend : h.net.app.ending e = some t)
    (hops : ∀ R, perform (App.freeConnOps (h.net.app.freedConn (.event e)) ++ h.net.app.requestOps e)
      (held true (h.registered ∪ u.conn.toFinset) R) = some (held true (h.nextRegistered a) R)) :
    h.Performs md5 a := by
  have happ : (h.next md5 a).net.app = h.net.app.step md5 e := by rw [next_app hrun, hcall]; rfl
  obtain ⟨-, -, v, hv⟩ := App.ending_pending hlive hend
  have hnull : (h.net.app.step md5 e).upgrade = .null := by
    rw [App.step_ending hend]
    exact congrArg Frame.upgrade (App.atOtaDeinit_frame hv)
  have hidle : ∀ w, (h.next md5 a).net.app.upgrade ≠ .live w := by
    intro w hw
    rw [happ, hnull] at hw
    cases hw
  unfold Performs
  rw [hcall, blocks_live hlive, blocks_idle hidle, happ, (next_sets hrun).1, (next_sets hrun).2, hlost]
  exact App.perform_ending md5 hlive hrun hacc.new hend (hops _)

/-- An event with which the session goes on. -/
theorem performs_goesOn (hrun : h.net.app.crashed = false) (hcall : a.toCall = .event e)
    (hlost : h.nextLost a = h.lost) (hlive : h.net.app.upgrade = .live u) (hend : h.net.app.ending e = none)
    (hops : ∀ R, perform (App.freeConnOps (h.net.app.freedConn (.event e)) ++ h.net.app.requestOps e)
      (held true (h.registered ∪ u.conn.toFinset) R) = some (held true (h.nextRegistered a ∪ u.conn.toFinset) R)) :
    h.Performs md5 a := by
  have happ : (h.next md5 a).net.app = h.net.app.step md5 e := by rw [next_app hrun, hcall]; rfl
  obtain ⟨⟨u', hup, hconn⟩, hpending, -⟩ := App.step_kept md5 hlive hend
  have hlive' : (h.next md5 a).net.app.upgrade = .live u' := by rw [happ, hup]
  unfold Performs
  rw [hcall, App.callOps_goesOn hrun hend, blocks_live hlive, blocks_live hlive', happ, hpending, hconn,
    (next_sets hrun).1, (next_sets hrun).2, hlost]
  exact hops _

/-- The connection of the session in progress. -/
theorem Accounted.conn (hacc : h.Accounted) (hlive : h.net.app.upgrade = .live u) :
    ∃ c, u.conn = some c ∧ h.net.app.sessionConn = some c := by
  obtain ⟨-, c, hc, -⟩ := hacc.tracked.session u hlive
  exact ⟨c, hc, (sessionConn_live hlive).trans hc⟩

/-- The blocks of a connection that is freed. -/
theorem perform_freed {C R : Finset ℕ} {b : Bool} {c : ℕ} {s : App} (hfreed : s.freedConn (.event e) = some c)
    (hrequest : s.requestOps e = []) (hc : c ∈ C) :
    perform (App.freeConnOps (s.freedConn (.event e)) ++ s.requestOps e) (held b C R) =
      some (held b (C.erase c) R) := by
  rw [hfreed, hrequest, List.append_nil]
  exact perform_freeConn hc

variable (md5) in
/-- Name lookups. -/
theorem Accounted.performs_resolved (hacc : h.Accounted) (hrun : h.net.app.crashed = false) {c : ℕ} {found : Bool}
    (hdel : c ∈ h.net.lookups) : h.Performs md5 (.resolved c found) := by
  obtain ⟨c', u, -, hlive, hc', hnot, -⟩ := hacc.tracked.lookup.resolve_left (List.ne_nil_of_mem hdel)
  have hfreed : h.net.app.freedConn (.event (.resolved false)) = some c' := (sessionConn_live hlive).trans hc'
  have hfresh : c' ∉ h.registered := fun hmem => hnot (hacc.opened c' hmem)
  cases found with
  | true =>
    have hend : h.net.app.ending (.resolved true) = none := App.ending_live hlive hrun
    exact performs_goesOn hrun rfl rfl hlive hend fun R => rfl
  | false =>
    refine hacc.ends hrun rfl rfl hlive (App.ending_live hlive hrun) fun R => ?_
    rw [perform_freed hfreed rfl (by simp [hc']), hc', Option.toFinset_some, erase_own,
      Finset.erase_eq_of_notMem hfresh]
    rfl

variable (md5) in
/-- The connect callback. -/
theorem Accounted.performs_connected (hacc : h.Accounted) (hrun : h.net.app.crashed = false) {c : ℕ}
    (hlive : h.net.app.upgrade = .live u) (hc : u.conn = some c) : h.Performs md5 (.connected c) := by
  have hconns : h.registered ∪ u.conn.toFinset = insert c h.registered := by
    rw [hc, Option.toFinset_some, Finset.union_comm, Finset.insert_eq]
  by_cases hheap : h.net.app.heap 0 = true
  · have hend : h.net.app.ending .connected = none := (App.ending_live hlive hrun).trans (if_pos hheap)
    have hops : h.net.app.requestOps .connected = [.alloc .request, .free .request] := if_pos hheap
    refine performs_goesOn hrun rfl rfl hlive hend fun R => ?_
    have hsame : h.nextRegistered (.connected c) ∪ u.conn.toFinset = insert c h.registered := by
      rw [nextRegistered, ← hconns]
      ext x
      simp
    rw [hops, hconns, hsame]
    exact perform_request
  · have hend : ∃ t, h.net.app.ending .connected = some t := ⟨_, (App.ending_live hlive hrun).trans (if_neg hheap)⟩
    obtain ⟨t, hend⟩ := hend
    have hops : h.net.app.requestOps .connected = [] := if_neg hheap
    refine hacc.ends hrun rfl rfl hlive hend fun R => ?_
    rw [hops, hconns]
    rfl

variable (md5) in
/-- Received data. -/
theorem Accounted.performs_received (hacc : h.Accounted) (hrun : h.net.app.crashed = false) {c : ℕ} (data : Chunk)
    (reading : Bool) (hlive : h.net.app.upgrade = .live u) (hc : u.conn = some c) (hmem : c ∈ h.registered) :
    h.Performs md5 (.received c data reading) := by
  have hconns : h.registered ∪ u.conn.toFinset = h.registered := union_own hc hmem
  cases hend : h.net.app.ending (.received data reading) with
  | none =>
    have hsame : h.nextRegistered (.received c data reading) ∪ u.conn.toFinset = h.registered := hconns
    refine performs_goesOn hrun rfl rfl hlive hend fun R => ?_
    rw [hconns, hsame]
    rfl
  | some t =>
    refine hacc.ends hrun rfl rfl hlive hend fun R => ?_
    rw [hconns]
    rfl

variable (md5) in
/-- An error of the connection of the session. -/
theorem Accounted.performs_error (hacc : h.Accounted) (hrun : h.net.app.crashed = false) {c : ℕ} (errType : ℤ)
    (hlive : h.net.app.upgrade = .live u) (hc : u.conn = some c) : h.Performs md5 (.error c errType) := by
  have hfreed : h.net.app.freedConn (.event (.reconnect errType)) = some c := (sessionConn_live hlive).trans hc
  refine hacc.ends hrun rfl rfl hlive (App.ending_live hlive hrun) fun R => ?_
  rw [perform_freed hfreed rfl (by simp [hc]), hc, Option.toFinset_some, erase_own]
  rfl

variable (md5) in
/-- The disconnect callback: of the session in progress, of one that is over, or without a session. -/
theorem Accounted.performs_disconnected (hacc : h.Accounted) (hrun : h.net.app.crashed = false) {c : ℕ}
    (hmem : c ∈ h.registered) : h.Performs md5 (.disconnected c) := by
  by_cases hlive : ∃ u, h.net.app.upgrade = .live u
  · obtain ⟨u, hlive⟩ := hlive
    obtain ⟨d, hd, hsession⟩ := hacc.conn hlive
    by_cases hown : u.conn = some c
    · refine hacc.ends hrun rfl rfl hlive ((App.ending_live hlive hrun).trans (if_pos hown)) fun R => ?_
      rw [perform_freed (c := c) rfl rfl (by simp [hmem]), hown, Option.toFinset_some, erase_own]
      rfl
    · refine performs_goesOn hrun rfl rfl hlive ((App.ending_live hlive hrun).trans (if_neg hown)) fun R => ?_
      have hne : d ≠ c := fun h => hown (h ▸ hd)
      rw [perform_freed (c := c) rfl rfl (by simp [hmem]), hd, Option.toFinset_some]
      congr 2
      ext x
      by_cases hx : x = c
      · simp [hx, hne.symm, nextRegistered]
      · simp [hx, nextRegistered]
  · have hidle : ∀ u, h.net.app.upgrade ≠ .live u := fun u hu => hlive ⟨u, hu⟩
    have happ : (h.next md5 (.disconnected c)).net.app = h.net.app.step md5 (.disconnected c) := next_app hrun
    obtain ⟨out, timer, crashed, hstep⟩ := App.step_sessionless md5 hidle (.disconnected c)
    have hend : h.net.app.ending (.disconnected c) = none := by
      unfold App.ending
      rw [hrun, if_neg Bool.false_ne_true]
      cases hup : h.net.app.upgrade with
      | live u => exact absurd hup (hidle u)
      | null | freed => rfl
    have hidle' : ∀ u, (h.next md5 (.disconnected c)).net.app.upgrade ≠ .live u := by
      rw [happ, hstep]
      exact hidle
    unfold Performs
    rw [blocks_idle hidle, blocks_idle hidle', (next_sets hrun).1, (next_sets hrun).2, happ, hstep,
      OtaAction.toCall, App.callOps_goesOn hrun hend]
    exact perform_freed rfl rfl hmem

variable (md5) in
/-- The timer: of a connection that has not been made, or of a reply. -/
theorem Accounted.performs_timer (hacc : h.Accounted) (hrun : h.net.app.crashed = false)
    (hdel : h.net.app.otaTimer ≠ none) : h.Performs md5 .timer := by
  obtain ⟨u, hlive⟩ := hacc.tracked.timer hdel
  obtain ⟨c, hc, hsession⟩ := hacc.conn hlive
  have hcall : OtaAction.timer.toCall = .event .timer := rfl
  cases htimer : h.net.app.otaTimer with
  | none => exact absurd htimer hdel
  | some k =>
    have hend : ∃ t, h.net.app.ending .timer = some t := by
      rw [App.ending_live hlive hrun]
      unfold App.endingOf
      rw [htimer]
      cases k <;> exact ⟨_, rfl⟩
    obtain ⟨t, hend⟩ := hend
    refine hacc.ends hrun hcall rfl hlive hend fun R => ?_
    cases k with
    | deinit =>
      have hmem := hacc.deinit htimer c hsession
      have hfreed : h.net.app.freedConn (.event .timer) = none := if_neg (by rw [htimer]; decide)
      have hconns : h.registered ∪ u.conn.toFinset = h.registered := union_own hc hmem
      rw [hfreed, hconns]
      rfl
    | connectTimeout =>
      have hfresh := hacc.connecting htimer c hsession
      have hfreed : h.net.app.freedConn (.event .timer) = some c := (if_pos htimer).trans hsession
      rw [perform_freed hfreed rfl (by simp [hc]), hc, Option.toFinset_some, erase_own,
        Finset.erase_eq_of_notMem hfresh]
      rfl

/-- `at_ota_start` forgets a response that is kept. -/
theorem nextLost_forgets (callback : OtaCallback) (dns : DnsResult) (hne : h.net.app.upgradeFlag ≠ .start)
    (halloc : h.net.app.CanAllocate) : h.nextLost (.start callback dns) = h.lost ∪ h.net.app.pending := by
  unfold nextLost App.pending
  by_cases hsome : h.net.app.upgradeCheckResponse.isSome = true
  · simp only [if_pos hsome]
    rw [if_pos ⟨hne, halloc, hsome⟩, Finset.union_comm, Finset.insert_eq]
  · simp only [if_neg hsome]
    rw [if_neg (fun h => hsome h.2.2), Finset.union_empty]

variable (md5) in
/-- `at_ota_start`: a session with its connection, or nothing; the response is forgotten. -/
theorem Accounted.performs_start (hacc : h.Accounted) (hrun : h.net.app.crashed = false) (callback : OtaCallback)
    (dns : DnsResult) : h.Performs md5 (.start callback dns) := by
  have happ : (h.next md5 (.start callback dns)).net.app = (h.net.app.atOtaStart md5 callback dns).2 := by
    rw [next_app hrun, App.call_start md5 hrun]
  have hnext : (h.next md5 (.start callback dns)).registered = h.registered ∧
      (h.next md5 (.start callback dns)).lost = h.nextLost (.start callback dns) := next_sets hrun
  have hops : h.net.app.callOps (OtaAction.start callback dns).toCall = h.net.app.atOtaStartOps dns := by
    show (if h.net.app.crashed then [] else _) = _
    rw [hrun]
    rfl
  have hidle := hacc.idle
  -- a start that leaves the session and the response alone
  have refused : ∀ s' : App, (h.net.app.atOtaStart md5 callback dns).2 = s' → (∀ u, h.net.app.upgrade ≠ .live u) →
      (∀ u, s'.upgrade ≠ .live u) → h.nextLost (.start callback dns) ∪ s'.pending = h.lost ∪ h.net.app.pending →
      (h.net.app.upgradeFlag = .start ∨ ¬h.net.app.CanAllocate ∨ dns = .failed) →
      h.Performs md5 (.start callback dns) := by
    intro s' hs hidle hidle' hsame hwhy
    have hidle'' : ∀ u, (h.next md5 (.start callback dns)).net.app.upgrade ≠ .live u := by
      rw [happ, hs]
      exact hidle'
    unfold Performs
    rw [hops, blocks_idle hidle, blocks_idle hidle'', hnext.1, hnext.2, happ, hs, hsame]
    exact perform_unstarted dns hacc.unregistered hwhy
  rcases h.net.app.atOtaStart_spec md5 callback dns with ⟨hflag, o, ho⟩ | ⟨hne, h0, o, ho⟩ |
    ⟨hne, h0, hcannot, heap, o, ho⟩ | ⟨hne, halloc, hdns, heap, o, ho⟩ | ⟨hne, halloc, hdns, heap, o, ho⟩
  · have hlost : h.nextLost (.start callback dns) = h.lost := if_neg (fun h => h.1 hflag)
    have hnone : h.net.app.atOtaStartOps dns = [] := if_pos hflag
    have hs : (h.next md5 (.start callback dns)).net.app = h.net.app.printed o := by rw [happ, ho]
    unfold Performs blocks conns responses
    rw [hops, hnone, hnext.1, hnext.2, hlost, hs]
    rfl
  · have hcannot : ¬h.net.app.CanAllocate := fun h => Bool.false_ne_true (h0.symm.trans h.1)
    have hlost : h.nextLost (.start callback dns) = h.lost := if_neg (fun h => hcannot h.2.1)
    exact refused _ (by rw [ho]) (hidle hne) (fun u => UpgradePtr.noConfusion) (by rw [hlost]; rfl)
      (Or.inr (Or.inl hcannot))
  · have hlost : h.nextLost (.start callback dns) = h.lost := if_neg (fun h => hcannot h.2.1)
    exact refused _ (by rw [ho]) (hidle hne) (fun u => UpgradePtr.noConfusion) (by rw [hlost]; rfl)
      (Or.inr (Or.inl hcannot))
  · refine refused _ (by rw [ho]) (hidle hne) (fun u => UpgradePtr.noConfusion) ?_ (Or.inr (Or.inr hdns))
    rw [nextLost_forgets callback dns hne halloc]
    exact Finset.union_empty _
  · have hlive : (h.next md5 (.start callback dns)).net.app.upgrade = .live (h.net.app.openedStatus callback) := by
      rw [happ, ho]
      rfl
    have hpending : (h.next md5 (.start callback dns)).net.app.pending = ∅ := by
      rw [happ, ho]
      rfl
    have hwhole : h.net.app.atOtaStartOps dns = [.alloc .upgradeStatus, .alloc .sectorBuffer,
        .alloc (.espconn h.net.app.nextConn), .alloc (.espTcp h.net.app.nextConn)] := by
      obtain ⟨h0, h1, h2, h3⟩ := halloc
      simp [App.atOtaStartOps, hne, h0, h1, h2, h3, hdns]
    have hconns : h.registered ∪ (h.net.app.openedStatus callback).conn.toFinset =
        insert h.net.app.nextConn h.registered := by
      show h.registered ∪ {h.net.app.nextConn} = _
      rw [Finset.union_comm, Finset.insert_eq]
    unfold Performs
    rw [hops, hwhole, blocks_idle (hidle hne), blocks_live hlive, hpending, hnext.1, hnext.2,
      nextLost_forgets callback dns hne halloc, hconns, Finset.union_empty]
    exact perform_started hacc.unregistered

variable (md5) in
theorem performs_configure (hrun : h.net.app.crashed = false) (p : UpdateSettings) :
    h.Performs md5 (.configure p) := by
  have happ : (h.next md5 (.configure p)).net.app = h.net.app.configure p := by
    rw [next_app hrun, App.call_configure md5 hrun]
  have hnext : (h.next md5 (.configure p)).registered = h.registered ∧ (h.next md5 (.configure p)).lost = h.lost :=
    next_sets hrun
  have hops : h.net.app.callOps (OtaAction.configure p).toCall = [] := by
    show (if h.net.app.crashed then [] else _) = _
    rw [hrun]
    rfl
  unfold Performs blocks conns responses
  rw [hops, hnext.1, hnext.2, happ]
  rfl

/-! ### Steps -/

theorem Orderly.own (hord : Orderly a h) : h.net.OwnEvent a := by
  obtain ⟨-, hord⟩ := hord
  have own : ∀ c, h.net.app.sessionConn = some c →
      h.net.app.upgrade ≠ .null ∧ ∀ u, h.net.app.upgrade = .live u → u.conn = some c := by
    intro c hc
    refine ⟨fun hnull => ?_, fun u hu => (sessionConn_live hu).symm.trans hc⟩
    rw [App.sessionConn, hnull] at hc
    cases hc
  cases a with
  | configure | start | resolved | disconnected | timer => trivial
  | connected c => exact own c hord
  | received c => exact own c hord.1
  | error c => exact (own c hord).2

/-- The session an event is for. -/
theorem live_of_sessionConn {s : App} {c : ℕ} (hc : s.sessionConn = some c) :
    ∃ u, s.upgrade = .live u ∧ u.conn = some c := by
  unfold App.sessionConn at hc
  cases hup : s.upgrade with
  | live u =>
    rw [hup] at hc
    exact ⟨u, rfl, hc⟩
  | null | freed =>
    rw [hup] at hc
    cases hc

variable (md5) in
/-- Every action performs the heap operations of the code without a fault. -/
theorem Accounted.performs (hacc : h.Accounted) (hrun : h.net.app.crashed = false) (hord : Orderly a h) :
    h.Performs md5 a := by
  cases a with
  | configure p => exact performs_configure md5 hrun p
  | start callback dns => exact hacc.performs_start md5 hrun callback dns
  | resolved c found => exact hacc.performs_resolved md5 hrun hord.1
  | connected c =>
    obtain ⟨u, hlive, hc⟩ := live_of_sessionConn hord.2
    exact hacc.performs_connected md5 hrun hlive hc
  | received c data reading =>
    obtain ⟨u, hlive, hc⟩ := live_of_sessionConn hord.2.1
    exact hacc.performs_received md5 hrun data reading hlive hc hord.2.2
  | error c errType =>
    obtain ⟨u, hlive, hc⟩ := live_of_sessionConn hord.2
    exact hacc.performs_error md5 hrun errType hlive hc
  | disconnected c => exact hacc.performs_disconnected md5 hrun hord.2
  | timer => exact hacc.performs_timer md5 hrun hord.1

/-- What the timer tells of the connection of the session. -/
structure Timed (s : App) (registered : Finset ℕ) : Prop where
  deinit : s.otaTimer = some .deinit → ∀ c, s.sessionConn = some c → c ∈ registered
  connecting : s.otaTimer = some .connectTimeout → ∀ c, s.sessionConn = some c → c ∉ registered

theorem timed_idle {s : App} (hidle : ∀ u, s.upgrade ≠ .live u) (R : Finset ℕ) : Timed s R := by
  have hnone := (sessionConn_idle hidle).1
  constructor
  · intro _ c hc
    rw [hnone] at hc
    cases hc
  · intro _ c hc
    rw [hnone] at hc
    cases hc

theorem timed_disarmed {s : App} (htimer : s.otaTimer = none) (R : Finset ℕ) : Timed s R := by
  constructor <;> intro hn <;> rw [htimer] at hn <;> cases hn

variable (md5) in
/-- After an event of a session. -/
theorem timed_step {s : App} (hlive : s.upgrade = .live u) {c : ℕ} (hc : u.conn = some c) {R : Finset ℕ}
    (hgoesOn : s.ending e = none → (s.step md5 e).crashed = false →
      ((s.step md5 e).otaTimer = some .deinit → c ∈ R) ∧ ((s.step md5 e).otaTimer = some .connectTimeout → c ∉ R))
    (hrun : (s.step md5 e).crashed = false) : Timed (s.step md5 e) R := by
  cases hend : s.ending e with
  | none =>
    obtain ⟨⟨u', hup, hconn⟩, -, -⟩ := App.step_kept md5 hlive hend
    have hsession : (s.step md5 e).sessionConn = some c := (sessionConn_live hup).trans (hconn.trans hc)
    obtain ⟨hdeinit, hconnecting⟩ := hgoesOn hend hrun
    constructor
    · intro ht d hd
      obtain rfl := Option.some.inj (hsession.symm.trans hd)
      exact hdeinit ht
    · intro ht d hd
      obtain rfl := Option.some.inj (hsession.symm.trans hd)
      exact hconnecting ht
  | some t =>
    obtain ⟨-, -, v, hv⟩ := App.ending_pending hlive hend
    refine timed_idle (fun w hw => ?_) R
    have hnull : (s.step md5 e).upgrade = .null := by
      rw [App.step_ending hend]
      exact congrArg Frame.upgrade (App.atOtaDeinit_frame hv)
    rw [hnull] at hw
    cases hw

variable (md5) in
/-- `at_ota_start` arms the timer for a connection that has not been used. -/
theorem Accounted.timed_start (hacc : h.Accounted) (callback : OtaCallback) (dns : DnsResult) :
    Timed (h.net.app.atOtaStart md5 callback dns).2 h.registered := by
  rcases h.net.app.atOtaStart_spec md5 callback dns with ⟨-, o, ho⟩ | ⟨-, -, o, ho⟩ | ⟨-, -, -, heap, o, ho⟩ |
    ⟨-, -, -, heap, o, ho⟩ | ⟨hne, -, -, heap, o, ho⟩ <;> rw [ho]
  · exact ⟨hacc.deinit, hacc.connecting⟩
  · exact timed_idle (fun u => UpgradePtr.noConfusion) _
  · exact timed_idle (fun u => UpgradePtr.noConfusion) _
  · exact timed_idle (fun u => UpgradePtr.noConfusion) _
  · have hnone : h.net.app.otaTimer = none := by
      by_contra ht
      obtain ⟨u, hu⟩ := hacc.tracked.timer ht
      exact hne (hacc.tracked.session u hu).1
    rw [hnone]
    constructor
    · intro ht
      have htimer : (if dns = .ok then some OtaTimer.connectTimeout else none) = some .deinit := ht
      split_ifs at htimer
      cases htimer
    · intro _ c hc
      obtain rfl : h.net.app.nextConn = c := Option.some.inj hc
      exact hacc.unregistered

variable (md5) in
theorem Accounted.timed_resolved (hacc : h.Accounted) (hrun : h.net.app.crashed = false) {c : ℕ} {found : Bool}
    (hdel : c ∈ h.net.lookups) (hnext : (h.net.app.step md5 (.resolved found)).crashed = false) :
    Timed (h.net.app.step md5 (.resolved found)) h.registered := by
  obtain ⟨c', u, -, hlive, hc', hnot, -⟩ := hacc.tracked.lookup.resolve_left (List.ne_nil_of_mem hdel)
  have hfresh : c' ∉ h.registered := fun hmem => hnot (hacc.opened c' hmem)
  refine timed_step md5 hlive hc' (fun hend hsame => ⟨fun ht => ?_, fun _ => hfresh⟩) hnext
  cases found with
  | false =>
    rw [App.ending_live hlive hrun] at hend
    cases hend
  | true =>
    obtain ⟨o, ho⟩ := App.upgradeResolved_found md5 h.net.app h.net.app.spi h.net.app.heap h.net.app.out u
      h.net.app.otaTimer h.net.app.upgradeContentLen
    rw [App.session_self hlive, if_neg (by simp [hc'])] at ho
    have hstep : h.net.app.step md5 (.resolved true) = _ := (if_neg (by rw [hrun]; decide)).trans ho
    rw [hstep] at ht
    cases ht

variable (md5) in
theorem timed_connected (hrun : h.net.app.crashed = false) {c : ℕ} (hlive : h.net.app.upgrade = .live u)
    (hc : u.conn = some c) (hnext : (h.net.app.step md5 .connected).crashed = false) :
    Timed (h.net.app.step md5 .connected) (insert c h.registered) := by
  refine timed_step md5 hlive hc (fun hend _ => ⟨fun _ => Finset.mem_insert_self c _, fun ht => ?_⟩) hnext
  obtain ⟨heap, o, ⟨-, ho⟩ | ⟨hfalse, -⟩⟩ := App.upgradeConnectCb_session md5 h.net.app h.net.app.spi h.net.app.heap
    h.net.app.out u h.net.app.otaTimer h.net.app.upgradeContentLen
  · rw [App.session_self hlive] at ho
    have hstep : h.net.app.step md5 .connected = _ := (if_neg (by rw [hrun]; decide)).trans ho
    rw [hstep] at ht
    cases ht
  · have hsome := (App.ending_live hlive hrun).symm.trans hend
    unfold App.endingOf at hsome
    simp only [hfalse] at hsome
    cases hsome

variable (md5) in
theorem timed_received (hrun : h.net.app.crashed = false) {c : ℕ} (data : Chunk) (reading : Bool)
    (hlive : h.net.app.upgrade = .live u) (hc : u.conn = some c) (hmem : c ∈ h.registered)
    (hnext : (h.net.app.step md5 (.received data reading)).crashed = false) :
    Timed (h.net.app.step md5 (.received data reading)) h.registered := by
  refine timed_step md5 hlive hc (fun hend _ => ⟨fun _ => hmem, fun ht => ?_⟩) hnext
  have hquiet := App.receive_notConnecting hlive data reading
  have hsome := (App.ending_live hlive hrun).symm.trans hend
  have hstep : h.net.app.step md5 (.received data reading) = h.net.app.upgradeRecvcb md5 data reading :=
    if_neg (by rw [hrun]; decide)
  unfold App.endingOf at hsome
  simp only at hsome
  split_ifs at hsome with hover
  rw [hstep] at ht
  unfold App.upgradeRecvcb at ht
  generalize h.net.app.receive data reading = r at hquiet hover ht
  obtain ⟨b, t⟩ := r
  cases b with
  | true => exact absurd rfl hover
  | false => exact absurd ht hquiet

variable (md5) in
theorem timed_error (hrun : h.net.app.crashed = false) {c : ℕ} (errType : ℤ) (hlive : h.net.app.upgrade = .live u)
    (hc : u.conn = some c) (hnext : (h.net.app.step md5 (.reconnect errType)).crashed = false) (R : Finset ℕ) :
    Timed (h.net.app.step md5 (.reconnect errType)) R := by
  refine timed_step md5 hlive hc (fun hend _ => ?_) hnext
  rw [App.ending_live hlive hrun] at hend
  cases hend

variable (md5) in
/-- The disconnect callback disarms the timer. -/
theorem timed_disconnected (hrun : h.net.app.crashed = false) {c : ℕ}
    (hnext : (h.net.app.step md5 (.disconnected c)).crashed = false) (R : Finset ℕ) :
    Timed (h.net.app.step md5 (.disconnected c)) R := by
  by_cases hlive : ∃ u, h.net.app.upgrade = .live u
  · obtain ⟨u, hlive⟩ := hlive
    by_cases hown : u.conn = some c
    · refine timed_step md5 hlive hown (fun hend _ => ?_) hnext
      have hsome := (App.ending_live hlive hrun).symm.trans hend
      unfold App.endingOf at hsome
      simp only [if_pos hown] at hsome
      cases hsome
    · obtain ⟨ts, hts⟩ := OtaNet.step_disconnected_foreign md5 hlive hrun hown
      exact timed_disarmed (congrArg App.otaTimer hts) R
  · have hidle : ∀ u, h.net.app.upgrade ≠ .live u := fun u hu => hlive ⟨u, hu⟩
    obtain ⟨out, timer, crashed, hstep⟩ := App.step_sessionless md5 hidle (.disconnected c)
    rw [hstep]
    refine timed_idle ?_ R
    exact hidle

variable (md5) in
theorem Accounted.timed_timer (hacc : h.Accounted) (hrun : h.net.app.crashed = false)
    (hdel : h.net.app.otaTimer ≠ none) (hnext : (h.net.app.step md5 .timer).crashed = false) (R : Finset ℕ) :
    Timed (h.net.app.step md5 .timer) R := by
  obtain ⟨u, hlive⟩ := hacc.tracked.timer hdel
  obtain ⟨c, hc, -⟩ := hacc.conn hlive
  refine timed_step md5 hlive hc (fun hend _ => ?_) hnext
  rw [App.ending_live hlive hrun] at hend
  unfold App.endingOf at hend
  cases htimer : h.net.app.otaTimer with
  | none => exact absurd htimer hdel
  | some k =>
    rw [htimer] at hend
    cases k <;> cases hend

variable (md5) in
theorem Accounted.timed_next (hacc : h.Accounted) (hrun : h.net.app.crashed = false) (hord : Orderly a h)
    (hnext : (h.net.app.call md5 a.toCall).crashed = false) :
    Timed (h.net.app.call md5 a.toCall) (h.nextRegistered a) := by
  cases a with
  | configure p =>
    rw [App.call_configure md5 hrun]
    exact ⟨hacc.deinit, hacc.connecting⟩
  | start callback dns =>
    rw [App.call_start md5 hrun]
    exact hacc.timed_start md5 callback dns
  | resolved c found => exact hacc.timed_resolved md5 hrun hord.1 hnext
  | connected c =>
    obtain ⟨u, hlive, hc⟩ := live_of_sessionConn hord.2
    exact timed_connected md5 hrun hlive hc hnext
  | received c data reading =>
    obtain ⟨u, hlive, hc⟩ := live_of_sessionConn hord.2.1
    exact timed_received md5 hrun data reading hlive hc hord.2.2 hnext
  | error c errType =>
    obtain ⟨u, hlive, hc⟩ := live_of_sessionConn hord.2
    exact timed_error md5 hrun errType hlive hc hnext _
  | disconnected c => exact timed_disconnected md5 hrun hnext _
  | timer => exact hacc.timed_timer md5 hrun hord.1 hnext _

variable (md5) in
theorem Accounted.opened_next (hacc : h.Accounted) (hord : Orderly a h) :
    ∀ c ∈ h.nextRegistered a, c ∈ h.net.nextOpened md5 a := by
  intro c hc
  cases a with
  | configure | received | timer => exact hacc.opened c hc
  | start callback dns =>
    cases dns with
    | ok =>
      unfold OtaNet.nextOpened
      simp only
      split_ifs
      · exact List.mem_cons_of_mem _ (hacc.opened c hc)
      · exact hacc.opened c hc
    | inProgress | failed => exact hacc.opened c hc
  | resolved d found =>
    cases found with
    | true => exact List.mem_append_right _ (hacc.opened c hc)
    | false => exact hacc.opened c hc
  | connected d =>
    rcases Finset.mem_insert.mp hc with rfl | hc
    · exact hord.1
    · exact hacc.opened c hc
  | error d errType =>
    obtain ⟨hne, hc⟩ := Finset.mem_erase.mp hc
    exact (List.mem_erase_of_ne hne).mpr (hacc.opened c hc)
  | disconnected d =>
    obtain ⟨hne, hc⟩ := Finset.mem_erase.mp hc
    exact (List.mem_erase_of_ne hne).mpr (hacc.opened c hc)

variable (md5) in
theorem Accounted.lost_next (hacc : h.Accounted) (hrun : h.net.app.crashed = false) :
    ∀ n ∈ h.nextLost a, n < (h.net.app.call md5 a.toCall).nextConn := by
  have old : ∀ n ∈ h.lost, n < (h.net.app.call md5 a.toCall).nextConn := fun n hn =>
    (hacc.lost n hn).trans_le (App.nextConn_le_call md5 hrun a)
  cases a with
  | configure | resolved | connected | received | error | disconnected | timer => exact old
  | start callback dns =>
    intro n hn
    unfold nextLost at hn
    simp only at hn
    split_ifs at hn with hforgets
    · rcases Finset.mem_insert.mp hn with rfl | hn
      · obtain ⟨hne, halloc, -⟩ := hforgets
        rw [App.call_start md5 hrun]
        rcases h.net.app.atOtaStart_spec md5 callback dns with ⟨hflag, -⟩ | ⟨-, h0, -⟩ | ⟨-, -, hcannot, -⟩ |
          ⟨-, -, -, heap, o, ho⟩ | ⟨-, -, -, heap, o, ho⟩
        · exact absurd hflag hne
        · exact absurd (h0.symm.trans halloc.1) Bool.false_ne_true
        · exact absurd halloc hcannot
        · rw [ho]
          exact Nat.lt_succ_self _
        · rw [ho]
          exact Nat.lt_succ_self _
      · exact old n hn
    · exact old n hn

variable (md5) in
/-- What is accounted for stays so until the application crashes. -/
theorem Accounted.next (hacc : h.Accounted) (hrun : h.net.app.crashed = false) (hord : Orderly a h) :
    (h.next md5 a).net.app.crashed = true ∨ (h.next md5 a).Accounted := by
  rw [next_eq hrun]
  have happ : (h.net.next md5 a).app = h.net.app.call md5 a.toCall := OtaNet.next_app hrun a
  have hopened : (h.net.next md5 a).opened = h.net.nextOpened md5 a := by
    unfold OtaNet.next
    rw [hrun]
    rfl
  rcases hacc.tracked.next hrun hord.1 hord.own with hcrash | htracked
  · exact Or.inl hcrash
  cases hcrash : (h.net.next md5 a).app.crashed with
  | true => exact Or.inl rfl
  | false =>
    have htimed := hacc.timed_next md5 hrun hord (happ ▸ hcrash)
    have hlost := hacc.lost_next (a := a) md5 hrun
    rw [← happ] at htimed hlost
    refine Or.inr ⟨htracked, fun c hc => ?_, hlost, htimed.deinit, htimed.connecting⟩
    show c ∈ (h.net.next md5 a).opened
    rw [hopened]
    exact hacc.opened_next md5 hord c hc

/-! ### Runs -/

/-- The application has crashed or is accounted for. -/
def Settled (h : OtaHeap) : Prop := h.net.app.crashed = true ∨ h.Accounted

theorem next_crashed (hcrash : h.net.app.crashed = true) : h.next md5 a = h := by
  unfold OtaHeap.next
  rw [if_pos hcrash]

variable (md5) in
theorem Settled.next (hs : h.Settled) (hord : Orderly a h) : (h.next md5 a).Settled := by
  cases hcrash : h.net.app.crashed with
  | true =>
    rw [next_crashed hcrash]
    exact hs
  | false => exact (hs.resolve_left (by simp [hcrash])).next md5 hcrash hord

variable (md5) in
theorem Settled.performs (hs : h.Settled) (hord : Orderly a h) : h.Performs md5 a := by
  cases hcrash : h.net.app.crashed with
  | true =>
    have hnone : h.net.app.callOps a.toCall = [] := if_pos hcrash
    unfold Performs
    rw [hnone, next_crashed hcrash]
    rfl
  | false => exact (hs.resolve_left (by simp [hcrash])).performs md5 hcrash hord

variable (md5) in
theorem Settled.performs_run (hs : h.Settled) {as : List OtaAction} (hord : Along (OtaHeap.next md5) Orderly as h) :
    perform (heapOps md5 as h) h.blocks = some (run (OtaHeap.next md5) as h).blocks := by
  induction as generalizing h with
  | nil => rfl
  | cons a as ih => exact perform_trans (hs.performs md5 hord.1) (ih (hs.next md5 hord.1) hord.2)

/-- An application that has not started a session, without connections. -/
def atRest (s : App) : OtaHeap := ⟨⟨s, [], []⟩, ∅, ∅⟩

variable (md5) in
/-- **The memory is accounted for**: whatever is updated and whatever the network does, no block is freed twice or
before it is allocated, and the blocks that have not been given back are those of the session, of the connections that
are not reported closed, the response, and the responses that a new session has forgotten. -/
theorem memory_accounted {s : App} (hnull : s.upgrade = .null) (htimer : s.otaTimer = none)
    (hnone : s.upgradeCheckResponse = none) {as : List OtaAction}
    (hord : Along (OtaHeap.next md5) Orderly as (atRest s)) :
    perform (heapOps md5 as (atRest s)) ∅ = some (run (OtaHeap.next md5) as (atRest s)).blocks ∧
      ∀ b, (heapOps md5 as (atRest s)).count (.free b) +
          (if b ∈ (run (OtaHeap.next md5) as (atRest s)).blocks then 1 else 0) =
        (heapOps md5 as (atRest s)).count (.alloc b) := by
  have hidle : ∀ u, (atRest s).net.app.upgrade ≠ .live u := by
    intro u hu
    rw [show (atRest s).net.app.upgrade = .null from hnull] at hu
    cases hu
  have hpending : (atRest s).net.app.pending = ∅ := by
    show (if s.upgradeCheckResponse.isSome then _ else _) = _
    rw [hnone]
    rfl
  have hempty : (atRest s).blocks = ∅ := by
    rw [blocks_idle hidle, hpending]
    rfl
  have hsettled : (atRest s).Settled := by
    refine Or.inr ⟨⟨fun u hu => absurd hu (hidle u), fun ht => absurd htimer ht, nofun, Or.inl rfl⟩, ?_, ?_, ?_, ?_⟩
    · exact fun c hc => absurd hc (Finset.notMem_empty c)
    · exact fun n hn => absurd hn (Finset.notMem_empty n)
    · exact fun ht => absurd (ht.symm.trans htimer) (Option.some_ne_none _)
    · exact fun ht => absurd (ht.symm.trans htimer) (Option.some_ne_none _)
  have hrun := hsettled.performs_run md5 hord
  rw [hempty] at hrun
  refine ⟨hrun, fun b => ?_⟩
  rw [count_free hrun b, if_neg (Finset.notMem_empty b), Nat.add_zero]

/-- The server's answer with a checksum. -/
def checksumAnswer : List UInt8 :=
  CString.ascii "HTTP/1.0 200 OK\r\nContent-Length: 32\r\n\r\n0123456789ABCDEF0123456789ABCDEF"

theorem checksumAnswer_length : checksumAnswer.length < 2 ^ 16 := by decide +kernel

/-- A checksum that is kept, the session that forgets it and ends with an error, and in between the report that the
connection of the first is closed. -/
def checksumTwice : List OtaAction :=
  [.configure ⟨.md5, 0, 0, 0, "host", 80, false⟩, .start .verCheckMd5 .ok, .connected 0,
    .received 0 ⟨checksumAnswer, checksumAnswer_length⟩ true, .start .verCheckMd5 .ok, .disconnected 0,
    .error 1 (-28)]

/-- A reset application. -/
def resetHeap : OtaHeap := atRest (.atReset (fun _ => 0xFF) (fun _ => 0) 2)

theorem checksumTwice_facts :
    Along (OtaHeap.next Md5.digest) Orderly checksumTwice resetHeap ∧
      (run (OtaHeap.next Md5.digest) checksumTwice resetHeap).blocks = {.response 1} := by
  decide +kernel

theorem memory_accounted_checksumTwice :
    perform (heapOps Md5.digest checksumTwice resetHeap) ∅ =
        some (run (OtaHeap.next Md5.digest) checksumTwice resetHeap).blocks ∧
      ∀ b, (heapOps Md5.digest checksumTwice resetHeap).count (.free b) +
          (if b ∈ (run (OtaHeap.next Md5.digest) checksumTwice resetHeap).blocks then 1 else 0) =
        (heapOps Md5.digest checksumTwice resetHeap).count (.alloc b) :=
  memory_accounted Md5.digest rfl rfl rfl checksumTwice_facts.1

end OtaHeap

end Esp8266At
