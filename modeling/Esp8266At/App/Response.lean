import Esp8266At.App.Calls

/-!
# Sessions that keep the response

All sessions but a firmware update only collect the response: a chunk goes to the sector buffer if it fits, and
is left out if it does not (`kept`). A session that ends with its download finished has left out nothing of a
response that is handed on, since the buffer is then as long as the response (`kept_cases`).
-/

namespace Esp8266At

open NorFlash

/-! ### The sector buffer -/

/-- The sector buffer after `_write_data`, outside a firmware update. -/
def SectorBuffer.keep (b : SectorBuffer) (data : List UInt8) : SectorBuffer :=
  if h : data.length ≤ SECTOR_SIZE - b.val.length ∧ data.length ≠ SECTOR_SIZE - b.val.length then b.append data h.1
  else b

def SectorBuffer.empty : SectorBuffer := ⟨[], Nat.zero_le _⟩

/-- The sector buffer after these chunks. -/
def kept : List (List UInt8) → SectorBuffer
  | [] => .empty
  | c :: cs => cs.foldl SectorBuffer.keep (SectorBuffer.empty.keep (((responseHeader c).map Prod.snd).getD []))

theorem kept_snoc {cs : List (List UInt8)} (h : cs ≠ []) (c : List UInt8) : kept (cs ++ [c]) = (kept cs).keep c := by
  obtain ⟨x, xs, rfl⟩ := List.exists_cons_of_ne_nil h
  simp [kept]

theorem kept_singleton {c content : List UInt8} {n : UInt32} (h : responseHeader c = some (n, content)) :
    kept [c] = SectorBuffer.empty.keep content := by
  simp [kept, h]

/-- Nothing is left out of a response that has not got longer than the buffer. -/
theorem SectorBuffer.keep_cases (b : SectorBuffer) (data : List UInt8) :
    (b.keep data).val = b.val ++ data ∨ (b.keep data).val = b.val ∧ SECTOR_SIZE ≤ b.val.length + data.length := by
  have hb := b.property
  unfold keep
  split_ifs with h
  · exact Or.inl rfl
  · exact Or.inr ⟨rfl, by omega⟩

/-- What is in the buffer: all of the response, or less than all of it, and then the response does not fit. -/
theorem kept_cases (cs : List (List UInt8)) : (kept cs).val = responseBody cs ∨
    (kept cs).val.length < (responseBody cs).length ∧ SECTOR_SIZE ≤ (responseBody cs).length := by
  induction cs using List.reverseRecOn with
  | nil => exact Or.inl rfl
  | append_singleton cs c ih =>
    by_cases hcs : cs = []
    · subst hcs
      have hsplit := SectorBuffer.empty.keep_cases (((responseHeader c).map Prod.snd).getD [])
      have hbody : responseBody [c] = ((responseHeader c).map Prod.snd).getD [] := by simp [responseBody]
      rw [List.nil_append, hbody]
      rcases hsplit with h | ⟨h, hlen⟩
      · exact Or.inl h
      · refine Or.inr ⟨?_, by simpa [SectorBuffer.empty] using hlen⟩
        have hpos : (kept [c]).val = [] := h
        rw [hpos]
        simp only [SectorBuffer.empty, List.length_nil, SECTOR_SIZE] at hlen ⊢
        omega
    · rw [kept_snoc hcs, responseBody_snoc hcs, List.length_append]
      rcases (kept cs).keep_cases c with h | ⟨h, hlen⟩
      · rw [h]
        rcases ih with ih | ⟨hlt, hfull⟩
        · exact Or.inl (by rw [ih])
        · refine Or.inr ⟨?_, by omega⟩
          rw [List.length_append]
          omega
      · rw [h]
        have hle : (kept cs).val.length ≤ (responseBody cs).length := by
          rcases ih with ih | ⟨hlt, -⟩
          · rw [ih]
          · omega
        by_cases hempty : c = []
        · subst hempty
          rw [List.append_nil, List.length_nil, Nat.add_zero]
          exact ih
        · have hpos := List.length_pos_of_ne_nil hempty
          exact Or.inr ⟨by omega, by omega⟩

theorem kept_eq_of_lt {cs : List (List UInt8)} (h : (responseBody cs).length < SECTOR_SIZE) :
    (kept cs).val = responseBody cs := by
  rcases kept_cases cs with hall | ⟨-, hfull⟩
  · exact hall
  · omega

namespace App

variable {s : App} {u : UpgradeStatus} {cs : List (List UInt8)}

/-! ### Received data -/

theorem writeData_response (htype : s.upgradeType ≠ .upgrade) (data : List UInt8) (u : UpgradeStatus) :
    writeData data u s = (.ok, { u with buffer := u.buffer.keep data }, s) := by
  have hb := u.buffer.property
  unfold writeData SectorBuffer.keep
  by_cases hzero : data.length = 0
  · rw [if_pos hzero]
    split_ifs with hfit
    · have hsame : u.buffer.append data hfit.1 = u.buffer := by
        apply Subtype.ext
        show u.buffer.val ++ data = u.buffer.val
        rw [List.length_eq_zero_iff.mp hzero, List.append_nil]
      rw [hsame]
    · rfl
  · rw [if_neg hzero]
    by_cases hfull : data.length ≥ SECTOR_SIZE - u.buffer.val.length
    · rw [dif_pos hfull, if_neg htype, dif_neg (by omega)]
    · rw [dif_neg hfull, dif_pos (by omega)]

/-- How the end of `upgrade_recvcb` leaves a session. -/
inductive EndsWith (s : App) (u : UpgradeStatus) (reading : Bool) (r : Bool × App) : Prop
  | finished (o : List Output) (h : u.totalLen = s.upgradeContentLen)
      (hr : r = (true, { s with upgradeFlag := .finish, out := o, upgrade := .live { u with error := .ok } }))
  | failed (o : List Output) (e : OtaStatus) (h : u.totalLen ≠ s.upgradeContentLen)
      (hr : r = (true, { s with out := o, upgrade := .live { u with error := e } }))
  | goesOn (h : u.totalLen ≠ s.upgradeContentLen) (hle : u.totalLen ≤ s.upgradeContentLen) (hreading : reading = true)
      (hr : r = (false, { s with otaTimer := some .deinit, upgrade := .live u }))

theorem receiveEnd_response (htype : s.upgradeType ≠ .upgrade) (reading : Bool) (u : UpgradeStatus) :
    EndsWith s u reading (s.receiveEnd reading u) := by
  unfold receiveEnd
  by_cases heq : u.totalLen = s.upgradeContentLen
  · rw [if_pos heq, if_neg (fun h => htype h.2)]
    obtain ⟨o, ho⟩ := s.downloadFinished_out u
    exact .finished o heq ho
  · rw [if_neg heq]
    split_ifs with hover
    · obtain ⟨o, ho⟩ := s.debug_out "Download failed\r\n"
      exact .failed o .espconnError heq (by rw [ho]; rfl)
    · rw [not_or, Bool.not_eq_false] at hover
      exact .goesOn heq (UInt32.not_lt.mp hover.2) hover.1 rfl

theorem lt_of_accepted {type : OtaType} {flashMap : UInt8} {n : UInt32} (h : ¬ContentLengthError type flashMap n) :
    n < FW_MAXSIZE := by
  have := mt Or.inl h
  simpa using this

/-- A session that has received `cs` and goes on. -/
structure Responding (cs : List (List UInt8)) (u : UpgradeStatus) (s : App) : Prop where
  total : u.totalLen = UInt32.ofNat (responseBody cs).length
  buffer : u.buffer = kept cs
  length : s.upgradeContentLen = announced cs
  later : cs ≠ [] → (responseBody cs).length < (announced cs).toNat ∧
    ¬ContentLengthError s.upgradeType s.upgradeFlashMap (announced cs)

/-- A session that has received `cs` and finished its download. -/
structure Responded (cs : List (List UInt8)) (u : UpgradeStatus) (s : App) : Prop where
  buffer : u.buffer = kept cs
  length : s.upgradeContentLen = announced cs
  all : (responseBody cs).length = (announced cs).toNat
  accepted : ¬ContentLengthError s.upgradeType s.upgradeFlashMap (announced cs)

/-- What is received of a session: it goes on, it has failed, or its download is finished. -/
inductive Takes (cs : List (List UInt8)) (s : App) (u : UpgradeStatus) (r : Bool × App) : Prop
  | goesOn (u' : UpgradeStatus) (out : List Output) (n : UInt32) (timer : Option OtaTimer)
      (hr : r = (false, s.session s.spi s.heap out u' n timer)) (hcall : u'.callback = u.callback)
      (h : Responding cs u' r.2)
  | failed (u' : UpgradeStatus) (out : List Output) (n : UInt32) (timer : Option OtaTimer)
      (hr : r = (true, s.session s.spi s.heap out u' n timer)) (hcall : u'.callback = u.callback)
  | finished (u' : UpgradeStatus) (out : List Output) (n : UInt32) (timer : Option OtaTimer)
      (hr : r = (true, { s.session s.spi s.heap out u' n timer with upgradeFlag := .finish }))
      (hcall : u'.callback = u.callback) (h : Responded cs u' r.2)

/-- The end of `upgrade_recvcb`, after the chunk has been taken over. -/
theorem takes_of_receiveEnd {out : List Output} {u₁ u' : UpgradeStatus} {timer : Option OtaTimer} (reading : Bool)
    (htype : s.upgradeType ≠ .upgrade) (hcall : u'.callback = u.callback)
    (htotal : u'.totalLen = UInt32.ofNat (responseBody cs).length) (hbuffer : u'.buffer = kept cs)
    (hlen : (responseBody cs).length < 2 ^ 32)
    (haccepted : ¬ContentLengthError s.upgradeType s.upgradeFlashMap (announced cs)) :
    Takes cs s u ((s.session s.spi s.heap out u₁ (announced cs) timer).receiveEnd reading u') := by
  have hval : u'.totalLen.toNat = (responseBody cs).length := by
    rw [htotal, UInt32.toNat_ofNat_of_lt' hlen]
  obtain ⟨o, h, hr⟩ | ⟨o, e, h, hr⟩ | ⟨h, hle, -, hr⟩ :=
    receiveEnd_response (s := s.session s.spi s.heap out u₁ (announced cs) timer) htype reading u'
  · refine .finished { u' with error := .ok } o (announced cs) timer hr hcall ?_
    rw [hr]
    exact ⟨hbuffer, rfl, by rw [← hval, h]; rfl, haccepted⟩
  · exact .failed { u' with error := e } o (announced cs) timer hr hcall
  · refine .goesOn u' out (announced cs) (some .deinit) hr hcall ?_
    rw [hr]
    refine ⟨htotal, hbuffer, rfl, fun _ => ⟨?_, haccepted⟩⟩
    have hne : u'.totalLen.toNat ≠ (announced cs).toNat := fun heq => h (UInt32.toNat_inj.mp heq)
    have hle' : u'.totalLen.toNat ≤ (announced cs).toNat := UInt32.le_iff_toNat_le.mp hle
    omega

theorem receive_live_eq (hlive : s.upgrade = .live u) (data : Chunk) (reading : Bool) :
    s.receive data reading = if s.upgradeContentLen = 0 then
        (s.session s.spi s.heap s.out u s.upgradeContentLen none).receiveFirst data.val reading u
      else (s.session s.spi s.heap s.out u s.upgradeContentLen none).receiveNext data.val reading u := by
  unfold receive
  rw [hlive]
  rfl

/-- The first chunk. -/
theorem receiveFirst_response (htype : s.upgradeType ≠ .upgrade) (h : Responding [] u s) (data : Chunk)
    (timer : Option OtaTimer) (reading : Bool) :
    Takes [data.val] s u ((s.session s.spi s.heap s.out u s.upgradeContentLen timer).receiveFirst data.val reading u) := by
  have hdata := data.property
  unfold receiveFirst
  cases hheader : responseHeader data.val with
  | none =>
    obtain ⟨o, ho⟩ := (s.session s.spi s.heap s.out u s.upgradeContentLen timer).debug_out
      "Not a valid http header/non-200 response\r\n"
    refine .failed { u with error := .noValidResponse } o s.upgradeContentLen timer ?_ rfl
    simp only [ho]
    rfl
  | some r =>
    obtain ⟨n, content⟩ := r
    have hbody : responseBody [data.val] = content := responseBody_singleton hheader
    have hann : announced [data.val] = n := announced_singleton hheader
    have hkept : kept [data.val] = SectorBuffer.empty.keep content := kept_singleton hheader
    have hcontent := responseHeader_length hheader
    have hempty : u.buffer = .empty := h.buffer
    have htotal : u.totalLen + UInt32.ofNat content.length = UInt32.ofNat (responseBody [data.val]).length := by
      rw [h.total, hbody]
      exact UInt32.zero_add _
    simp only [writeData_response (s := s.session s.spi s.heap s.out u s.upgradeContentLen timer) htype]
    set u' : UpgradeStatus :=
      { u with totalLen := u.totalLen + UInt32.ofNat content.length, buffer := u.buffer.keep content }
    show Takes [data.val] s u (if ContentLengthError s.upgradeType s.upgradeFlashMap n then
        (true, ((s.session s.spi s.heap s.out u n timer).debug "Content length error\r\n").storeStatus
          { u' with error := .fwToBig })
      else ((s.session s.spi s.heap s.out u n timer).debug ("Response header received, downloading " ++
        toString n.toNat ++ " byte(s)\r\n")).receiveEnd reading u')
    by_cases herror : ContentLengthError s.upgradeType s.upgradeFlashMap n
    · obtain ⟨o, ho⟩ := (s.session s.spi s.heap s.out u n timer).debug_out "Content length error\r\n"
      rw [if_pos herror, ho]
      exact .failed { u' with error := .fwToBig } o n timer rfl rfl
    · obtain ⟨o, ho⟩ := (s.session s.spi s.heap s.out u n timer).debug_out
        ("Response header received, downloading " ++ toString n.toNat ++ " byte(s)\r\n")
      rw [if_neg herror, ho, ← hann]
      refine takes_of_receiveEnd reading htype rfl htotal ?_ (by rw [hbody]; omega) (by rwa [hann])
      rw [hkept, ← hempty]

/-- A later chunk. -/
theorem receiveNext_response (htype : s.upgradeType ≠ .upgrade) (h : Responding cs u s) (hcs : cs ≠ []) (data : Chunk)
    (timer : Option OtaTimer) (reading : Bool) :
    Takes (cs ++ [data.val]) s u
      ((s.session s.spi s.heap s.out u s.upgradeContentLen timer).receiveNext data.val reading u) := by
  have hdata := data.property
  have hbody := responseBody_snoc hcs data.val
  have hann := announced_snoc hcs data.val
  obtain ⟨hless, haccepted⟩ := h.later hcs
  have hmax := UInt32.lt_iff_toNat_lt.mp (lt_of_accepted haccepted)
  have hfw : FW_MAXSIZE.toNat = 0xF0000 := rfl
  unfold receiveNext
  simp only [writeData_response (s := s.session s.spi s.heap s.out u s.upgradeContentLen timer) htype]
  rw [h.length, ← hann]
  refine takes_of_receiveEnd reading htype rfl ?_ ?_ (by rw [hbody, List.length_append]; omega) (by rwa [hann])
  · show u.totalLen + _ = _
    rw [h.total, hbody, List.length_append, UInt32.ofNat_add]
  · show u.buffer.keep data.val = _
    rw [kept_snoc hcs, h.buffer]

/-- One received chunk. -/
theorem receive_response (hlive : s.upgrade = .live u) (htype : s.upgradeType ≠ .upgrade) (h : Responding cs u s)
    (data : Chunk) (reading : Bool) : Takes (cs ++ [data.val]) s u (s.receive data reading) := by
  rw [receive_live_eq hlive]
  by_cases hcs : cs = []
  · subst hcs
    have hzero : s.upgradeContentLen = 0 := h.length
    rw [if_pos hzero]
    exact receiveFirst_response htype h data none reading
  · have hpos : s.upgradeContentLen ≠ 0 := by
      intro hzero
      have hless := (h.later hcs).1
      rw [← h.length, hzero] at hless
      exact absurd hless (Nat.not_lt_zero _)
    rw [if_neg hpos]
    exact receiveNext_response htype h hcs data none reading

/-! ### The end of a session -/

/-- The response in the sector buffer is handed on to the callback, if it is what the session is for. -/
def Handed (u : UpgradeStatus) (s : App) : Prop :=
  ((s.upgradeType = .verCheck ∨ s.upgradeType = .verCheckBoot) ∧ u.buffer.val.length < VER_MAXSIZE.toNat) ∨
    ((s.upgradeType = .md5 ∨ s.upgradeType = .md5Boot) ∧ u.buffer.val.length = 32) ∨
    (s.upgradeType = .upgBoot ∧ u.buffer.val.length = s.upgradeContentLen.toNat)

instance (u : UpgradeStatus) (s : App) : Decidable (Handed u s) := inferInstanceAs (Decidable (_ ∨ _))

/-- The application after `at_ota_deinit` has cleaned up, with the response handed on. -/
def cleaned (heap : ℕ → Bool) (out : List Output) (response : Option (List UInt8)) (s : App) : App :=
  { s with heap := heap, out := out, otaTimer := none, upgrade := .null, upgradeCheckResponse := response,
           upgradeFlag := if s.upgradeFlag = .finish then .finish else .idle }

/-- The response `at_ota_deinit` hands on. -/
def handedOn (u : UpgradeStatus) (s : App) : Option (List UInt8) :=
  if s.upgradeFlag = .finish ∧ u.buffer.val.length > 0 ∧ Handed u s ∧ s.heap 0 = true then some (u.buffer.val ++ [0, 0])
  else none

theorem prepareResponse_eq (u : UpgradeStatus) (s : App) : ∃ heap out, s.prepareResponse u =
    { s with heap := heap, out := out
             upgradeCheckResponse := if Handed u s ∧ s.heap 0 = true then some (u.buffer.val ++ [0, 0])
               else s.upgradeCheckResponse } := by
  have hfull : s.heap 0 = true → s.prepareResponse u = if Handed u s then
      { s with heap := s.heapTail, upgradeCheckResponse := some (u.buffer.val ++ [0, 0]) } else s := by
    intro hheap
    unfold prepareResponse zalloc
    rw [hheap]
    rfl
  have hempty : s.heap 0 = false → s.prepareResponse u = if Handed u s then
      ({ s with heap := s.heapTail } : App).debug "Failed to create response buffer, no RAM\r\n" else s := by
    intro hheap
    unfold prepareResponse zalloc
    rw [hheap]
    rfl
  by_cases hhanded : Handed u s
  · cases hheap : s.heap 0 with
    | true => exact ⟨s.heapTail, s.out, by rw [hfull hheap, if_pos hhanded, if_pos ⟨hhanded, rfl⟩]⟩
    | false =>
      obtain ⟨o, ho⟩ := ({ s with heap := s.heapTail } : App).debug_out "Failed to create response buffer, no RAM\r\n"
      refine ⟨s.heapTail, o, ?_⟩
      rw [hempty hheap, if_pos hhanded, if_neg (fun h => Bool.false_ne_true h.2)]
      exact ho
  · have hnot : s.prepareResponse u = s := by
      cases hheap : s.heap 0 with
      | true => rw [hfull hheap, if_neg hhanded]
      | false => rw [hempty hheap, if_neg hhanded]
    exact ⟨s.heap, s.out, by rw [hnot, if_neg (fun h => hhanded h.1)]⟩

theorem cleanUp_eq (u : UpgradeStatus) (s : App) : ∃ heap out,
    s.cleanUp u = (decide (s.upgradeFlag = .finish), s.cleaned heap out (s.handedOn u)) := by
  obtain ⟨o₁, ho₁⟩ := ({ s with otaTimer := none } : App).debug_out "OTA deinit\r\n"
  have hdrop : ∃ heap out, s.dropResponse u =
      { s with heap := heap, out := out, otaTimer := none, upgradeCheckResponse := s.handedOn u } := by
    unfold dropResponse
    simp only [ho₁]
    by_cases hfin : s.upgradeFlag = .finish ∧ u.buffer.val.length > 0
    · obtain ⟨heap, o, hprep⟩ := prepareResponse_eq u
        { ({ s with otaTimer := none } : App).printed o₁ with upgradeCheckResponse := none }
      refine ⟨heap, o, ?_⟩
      rw [show handedOn u s = if Handed u s ∧ s.heap 0 = true then some (u.buffer.val ++ [0, 0]) else none by
        simp only [handedOn, hfin, true_and]]
      exact (if_pos hfin).trans hprep
    · refine ⟨s.heap, o₁, ?_⟩
      rw [show handedOn u s = none from if_neg fun h => hfin ⟨h.1, h.2.1⟩]
      exact if_neg hfin
  obtain ⟨heap, o₂, ho₂⟩ := hdrop
  set t : App := { s with
    heap := heap, out := o₂, otaTimer := none, upgradeCheckResponse := s.handedOn u, upgrade := .null }
  obtain ⟨o₃, ho₃⟩ := disconnectConn_out t u
  have hclean : s.cleanUp u = (t.printed o₃).completion := by
    unfold cleanUp
    rw [ho₂]
    exact congrArg completion ho₃
  have hflag : (t.printed o₃).upgradeFlag = s.upgradeFlag := rfl
  rw [hclean]
  unfold completion
  by_cases hfin : s.upgradeFlag = .finish
  · obtain ⟨o, ho⟩ := (t.printed o₃).debug_out "OTA finished\r\n"
    refine ⟨heap, o, ?_⟩
    rw [if_pos (hflag.trans hfin), ho, decide_eq_true hfin, cleaned, if_pos hfin, ← hfin]
    rfl
  · obtain ⟨o, ho⟩ := ({ t.printed o₃ with upgradeFlag := .idle } : App).debug_out "OTA finished\r\n"
    refine ⟨heap, o, ?_⟩
    rw [if_neg (by rw [hflag]; exact hfin), ho, decide_eq_false hfin, cleaned, if_neg hfin]
    rfl

/-- The state in which the function of a session is called, if a response is handed on. -/
theorem cleanUp_handed {t c : App} {result : Bool} {response : List UInt8} (h : t.cleanUp u = (result, c))
    (hresponse : c.upgradeCheckResponse = some response) :
    t.upgradeFlag = .finish ∧ response = u.buffer.val ++ [0, 0] ∧ c.upgradeContentLen = t.upgradeContentLen ∧
      c.upgradeType = t.upgradeType ∧ c.upgradeFlashMap = t.upgradeFlashMap := by
  obtain ⟨heap, out, hclean⟩ := cleanUp_eq u t
  rw [hclean] at h
  obtain ⟨-, rfl⟩ := Prod.mk.inj h
  have hon : t.handedOn u = some response := hresponse
  unfold handedOn at hon
  split_ifs at hon with hfin
  exact ⟨hfin.1, (Option.some.inj hon).symm, rfl, rfl, rfl⟩

end App

end Esp8266At
