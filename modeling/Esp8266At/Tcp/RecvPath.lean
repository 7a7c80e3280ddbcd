import Esp8266At.Tcp.Ringbuf
import Mathlib.Algebra.Group.Nat.Defs

/-!
# Receiving

What `espconn_tcp.c` and `espconn.c` do with the data of a connection. With a receive callback it is passed on at
once; without one it goes to a ring and waits for `espconn_recv`, and the window stays closed by as much. The ring has
the size of the window, so that nothing is lost or reordered (`received_once`), as long as the window is not opened
for bytes that are still in the ring.
-/

namespace Esp8266At

open Machine Ring

/-- The receive side of a connection: fields of `espconn_msg` and of `struct espconn`, and the window of the pcb.

Four of the fields are not part of the program. `toRing` and `toCallback` are the bytes that arrived while there was
no callback, or one; `read` and `passed` are those the application has got from `espconn_recv` and in the callback.
`crashed` is set where a null pointer or released memory is accessed. -/
structure RecvSide where
  rcvWnd : ℕ
  established : Bool
  readbuf : Option Ringbuf
  recvHoldFlag : Bool
  recvHoldedBufLen : ℕ
  recvCallback : Bool
  toRing : List UInt8
  toCallback : List UInt8
  read : List UInt8
  passed : List UInt8
  crashed : Bool

namespace RecvSide

variable (TCP_WND : ℕ)

/-! ### The functions -/

def tcpRecved (len : ℕ) (s : RecvSide) : RecvSide :=
  let rcv_wnd := (s.rcvWnd + len) % 2 ^ 16
  { s with rcvWnd := if rcv_wnd > TCP_WND then TCP_WND else rcv_wnd }

/-- `espconn_recv_hold`, for the node of a connection. -/
def espconnRecvHold (s : RecvSide) : RecvSide :=
  if s.recvHoldFlag then s else { s with recvHoldFlag := true, recvHoldedBufLen := 0 }

def espconnRecvUnhold (s : RecvSide) : RecvSide :=
  if s.recvHoldFlag then
    { s.tcpRecved TCP_WND s.recvHoldedBufLen with recvHoldedBufLen := 0, recvHoldFlag := false }
  else s

/-- `espconn_lock_recv`, with the results of the allocations of `ringbuf_new`. -/
def espconnLockRecv (first second : Bool) (s : RecvSide) : RecvSide :=
  if s.recvCallback then s
  else
    match s.readbuf with
    | some _ => s.espconnRecvHold
    | none =>
      match Ringbuf.ringbufNew first second TCP_WND with
      | some rb => ({ s with readbuf := some rb } : RecvSide).espconnRecvHold
      | none => s

/-- The pbufs of a chain go to the ring one by one. The first `pbuf_free` releases the whole chain, so that the loop
goes on in released memory if there are more. -/
def intoRing (p : List (List UInt8)) (s : RecvSide) : RecvSide :=
  match s.readbuf, p with
  | some rb, [payload] =>
    match rb.memcpyInto payload with
    | some rb' => { s with readbuf := some rb' }
    | none => { s with crashed := true }
  | _, [] => s
  | _, _ => { s with crashed := true }

/-- The window is opened again, unless it is held. -/
def openWindow (tot_len : ℕ) (s : RecvSide) : RecvSide :=
  if s.recvHoldFlag then { s with recvHoldedBufLen := (s.recvHoldedBufLen + tot_len) % 2 ^ 16 }
  else s.tcpRecved TCP_WND tot_len

/-- The data goes to the callback, if there is memory for a copy, or to the ring. `pbuf_copy_partial` copies nothing
to a null pointer. -/
def deliver (buffer : Bool) (p : List (List UInt8)) (s : RecvSide) : RecvSide :=
  if s.recvCallback then
    if buffer then { s with passed := s.passed ++ p.flatten } else s
  else s.intoRing p

/-- `espconn_client_recv` and `espconn_server_recv` for data without an error, with the results of the
allocations. -/
def espconnRecvData (first second buffer : Bool) (p : List (List UInt8)) (s : RecvSide) : RecvSide :=
  ((s.espconnLockRecv TCP_WND first second).openWindow TCP_WND p.flatten.length).deliver buffer p

def espconnRecv (len : ℕ) (s : RecvSide) : RecvSide :=
  match s.readbuf with
  | none => s
  | some rb =>
    if rb.bytesUsed = 0 then s
    else
      let len := if len > rb.bytesUsed then rb.bytesUsed else len
      match rb.memcpyFrom len with
      | some (bytes, rb') =>
        let s := { s with readbuf := some rb', read := s.read ++ bytes.getD [] }
        if s.established then s.tcpRecved TCP_WND len else s
      | none => { s with crashed := true }

/-! ### Runs -/

/-- What happens to the receive side of a connection. -/
inductive Event where
  | segment (first second buffer : Bool) (p : List (List UInt8))
  | recv (len : ℕ)
  | hold
  | unhold
  | registRecvcb (callback : Bool)
  | leaves

/-- Data in sequence takes its part of the window before it is passed up. -/
def arrives (p : List (List UInt8)) (s : RecvSide) : RecvSide :=
  { s with rcvWnd := s.rcvWnd - p.flatten.length
           toRing := if s.recvCallback then s.toRing else s.toRing ++ p.flatten
           toCallback := if s.recvCallback then s.toCallback ++ p.flatten else s.toCallback }

def next (e : Event) (s : RecvSide) : RecvSide :=
  match e with
  | .segment first second buffer p => (s.arrives p).espconnRecvData TCP_WND first second buffer p
  | .recv len => s.espconnRecv TCP_WND len
  | .hold => s.espconnRecvHold
  | .unhold => s.espconnRecvUnhold TCP_WND
  | .registRecvcb callback => { s with recvCallback := callback }
  | .leaves => { s with established := false }

/-- A connection that has just been made. -/
def opened (recvCallback : Bool) : RecvSide where
  rcvWnd := TCP_WND
  established := true
  readbuf := none
  recvHoldFlag := false
  recvHoldedBufLen := 0
  recvCallback := recvCallback
  toRing := []
  toCallback := []
  read := []
  passed := []
  crashed := false

/-- The bytes that wait in the ring. -/
def unread (s : RecvSide) : ℕ := (s.readbuf.map Ringbuf.bytesUsed).getD 0

/-- What arrives fits the window, is one pbuf where it goes to the ring, and finds memory. The window is not opened by
`espconn_recv_unhold` while bytes wait in the ring. -/
def Allowed (e : Event) (s : RecvSide) : Prop :=
  match e with
  | .segment first second buffer p => p.flatten.length ≤ s.rcvWnd ∧
      if s.recvCallback then buffer = true
      else p.length ≤ 1 ∧ (s.readbuf = none → first = true ∧ second = true)
  | .unhold => s.recvHoldFlag = true → s.unread = 0
  | _ => True

/-! ### The invariant -/

/-- The ring, if there is one, holds `q`. -/
def Waits (s : RecvSide) (q : List UInt8) : Prop :=
  s.readbuf = none ∧ q = [] ∨ ∃ rb, s.readbuf = some rb ∧ rb.Holds TCP_WND q

/-- The window and the ring together are no more than `TCP_WND`, and nothing is lost. -/
structure Kept (s : RecvSide) : Prop where
  running : s.crashed = false
  passed : s.passed = s.toCallback
  ring : ∃ q, Waits TCP_WND s q ∧ s.read ++ q = s.toRing ∧ s.rcvWnd + q.length ≤ TCP_WND

variable {TCP_WND} {s : RecvSide} {q : List UInt8}

theorem Waits.unread (h : Waits TCP_WND s q) : s.unread = q.length := by
  rcases h with ⟨hnone, rfl⟩ | ⟨rb, hrb, hholds⟩
  · rw [RecvSide.unread, hnone]
    rfl
  · rw [RecvSide.unread, hrb, Option.map_some, Option.getD_some, hholds.used]

variable (TCP_WND) in
/-- `tcp_recved` opens the window by as much at most, and not beyond `TCP_WND`. -/
theorem tcpRecved_eq (len : ℕ) (s : RecvSide) : ∃ w, s.tcpRecved TCP_WND len = { s with rcvWnd := w } ∧
    w ≤ s.rcvWnd + len ∧ w ≤ TCP_WND := by
  have hmod := Nat.mod_le (s.rcvWnd + len) (2 ^ 16)
  refine ⟨_, rfl, ?_⟩
  split_ifs <;> omega

theorem Kept.mk' (hrun : s.crashed = false) (hpassed : s.passed = s.toCallback) (hw : Waits TCP_WND s q)
    (hread : s.read ++ q = s.toRing) (hwnd : s.rcvWnd + q.length ≤ TCP_WND) : s.Kept TCP_WND :=
  ⟨hrun, hpassed, q, hw, hread, hwnd⟩

theorem espconnRecvHold_eq (s : RecvSide) : ∃ len,
    s.espconnRecvHold = { s with recvHoldFlag := true, recvHoldedBufLen := len } := by
  unfold espconnRecvHold
  split_ifs with hflag
  · exact ⟨s.recvHoldedBufLen, by rw [← hflag]⟩
  · exact ⟨0, rfl⟩

/-- Without a callback there is a ring after `espconn_lock_recv`, and the window is held. -/
theorem lock_spec (hw : Waits TCP_WND s q) (hcallback : s.recvCallback = false) {first second : Bool}
    (hmem : s.readbuf = none → first = true ∧ second = true) : ∃ rb len, rb.Holds TCP_WND q ∧
      s.espconnLockRecv TCP_WND first second =
        { s with readbuf := some rb, recvHoldFlag := true, recvHoldedBufLen := len } := by
  have hnot : ¬s.recvCallback = true := by
    rw [hcallback]
    exact Bool.false_ne_true
  unfold espconnLockRecv
  rw [if_neg hnot]
  rcases hw with ⟨hnone, rfl⟩ | ⟨rb, hrb, hholds⟩
  · obtain ⟨rfl, rfl⟩ := hmem hnone
    obtain ⟨rb, hnew⟩ : ∃ rb, Ringbuf.ringbufNew true true TCP_WND = some rb := ⟨_, rfl⟩
    obtain ⟨len, hlen⟩ := espconnRecvHold_eq { s with readbuf := some rb }
    rw [hnone, hnew]
    exact ⟨rb, len, Ringbuf.holds_new hnew, hlen⟩
  · obtain ⟨len, hlen⟩ := s.espconnRecvHold_eq
    rw [hrb] at hlen ⊢
    exact ⟨rb, len, hholds, hlen⟩

variable (TCP_WND) in
theorem openWindow_eq (n : ℕ) (s : RecvSide) : ∃ w len,
    s.openWindow TCP_WND n = { s with rcvWnd := w, recvHoldedBufLen := len } ∧ w ≤ s.rcvWnd + n ∧
      (s.recvHoldFlag = true → w = s.rcvWnd) := by
  unfold openWindow
  split_ifs with hflag
  · exact ⟨s.rcvWnd, _, rfl, Nat.le_add_right _ _, fun _ => rfl⟩
  · obtain ⟨w, hrecved, hle, -⟩ := tcpRecved_eq TCP_WND n s
    exact ⟨w, _, hrecved, hle, fun h => absurd h hflag⟩

/-- Data that arrives. -/
theorem Kept.segment (h : s.Kept TCP_WND) {first second buffer : Bool} {p : List (List UInt8)}
    (hallowed : Allowed (.segment first second buffer p) s) :
    (next TCP_WND (.segment first second buffer p) s).Kept TCP_WND := by
  obtain ⟨hrun, hpassed, q, hw, hread, hwnd⟩ := h
  obtain ⟨hfit, hmem⟩ := hallowed
  show ((s.arrives p).espconnRecvData TCP_WND first second buffer p).Kept TCP_WND
  unfold espconnRecvData
  have harrives : s.arrives p = { s with
      rcvWnd := s.rcvWnd - p.flatten.length
      toRing := if s.recvCallback then s.toRing else s.toRing ++ p.flatten
      toCallback := if s.recvCallback then s.toCallback ++ p.flatten else s.toCallback } := rfl
  by_cases hcallback : s.recvCallback = true
  · rw [if_pos hcallback] at hmem
    have hlock : (s.arrives p).espconnLockRecv TCP_WND first second = s.arrives p := if_pos hcallback
    obtain ⟨w, len, hopen, hle, -⟩ := openWindow_eq TCP_WND p.flatten.length (s.arrives p)
    rw [hlock, hopen, harrives, if_pos hcallback, if_pos hcallback]
    unfold deliver
    rw [if_pos hcallback, if_pos hmem]
    refine .mk' hrun (congrArg (· ++ p.flatten) hpassed) hw hread ?_
    have hle' : w ≤ s.rcvWnd - p.flatten.length + p.flatten.length := hle
    show w + q.length ≤ TCP_WND
    omega
  · rw [if_neg hcallback] at hmem
    obtain ⟨hone, hmem⟩ := hmem
    obtain ⟨rb, len, hholds, hlock⟩ :=
      lock_spec (s := s.arrives p) (q := q) hw (Bool.eq_false_iff.mpr hcallback) hmem
    obtain ⟨w, len', hopen, -, hheld⟩ := openWindow_eq TCP_WND p.flatten.length
      { s.arrives p with readbuf := some rb, recvHoldFlag := true, recvHoldedBufLen := len }
    obtain rfl := hheld rfl
    rw [hlock, hopen, harrives, if_neg hcallback, if_neg hcallback]
    unfold deliver
    rw [if_neg hcallback]
    rcases p with _ | ⟨payload, _ | ⟨second, more⟩⟩
    · exact .mk' hrun hpassed (Or.inr ⟨rb, rfl, hholds⟩) (hread.trans (List.append_nil _).symm) hwnd
    · have hflat : [payload].flatten = payload := List.append_nil _
      rw [hflat] at hfit ⊢
      obtain ⟨rb', hinto, hholds'⟩ := hholds.memcpyInto payload
      rw [push_of_le (by omega)] at hholds'
      simp only [intoRing, hinto]
      refine .mk' hrun hpassed (Or.inr ⟨rb', rfl, hholds'⟩) ?_ ?_
      · show s.read ++ (q ++ payload) = s.toRing ++ payload
        rw [← List.append_assoc, hread]
      · show s.rcvWnd - payload.length + (q ++ payload).length ≤ TCP_WND
        rw [List.length_append]
        omega
    · simp at hone

/-- `espconn_recv` opens the window by what it has read. -/
theorem Kept.recv (h : s.Kept TCP_WND) (len : ℕ) : (s.espconnRecv TCP_WND len).Kept TCP_WND := by
  obtain ⟨hrun, hpassed, q, hw, hread, hwnd⟩ := h
  unfold espconnRecv
  rcases hw with ⟨hnone, rfl⟩ | ⟨rb, hrb, hholds⟩
  · rw [hnone]
    exact .mk' hrun hpassed (Or.inl ⟨hnone, rfl⟩) hread hwnd
  · have hused := hholds.used
    rw [hrb]
    by_cases hempty : rb.bytesUsed = 0
    · simp only [if_pos hempty]
      exact .mk' hrun hpassed (Or.inr ⟨rb, hrb, hholds⟩) hread hwnd
    · simp only [if_neg hempty]
      obtain ⟨n, hn⟩ : ∃ n, n = if len > rb.bytesUsed then rb.bytesUsed else len := ⟨_, rfl⟩
      have hle : n ≤ q.length := by
        rw [hn]
        split_ifs <;> omega
      rw [← hn]
      obtain ⟨rb', hfrom, hholds'⟩ := hholds.memcpyFrom n
      rw [if_pos hle] at hfrom hholds'
      have hread' : s.read ++ q.take n ++ q.drop n = s.toRing := by
        rw [List.append_assoc, List.take_append_drop, hread]
      simp only [hfrom]
      by_cases hest : s.established = true
      · obtain ⟨w, hrecved, hw, -⟩ := tcpRecved_eq TCP_WND n
          { s with readbuf := some rb', read := s.read ++ q.take n }
        have hw' : w ≤ s.rcvWnd + n := hw
        simp only [Option.getD_some, if_pos hest]
        rw [hrecved]
        refine .mk' hrun hpassed (Or.inr ⟨rb', rfl, hholds'⟩) hread' ?_
        show w + (q.drop n).length ≤ TCP_WND
        rw [List.length_drop]
        omega
      · simp only [Option.getD_some, if_neg hest]
        refine .mk' hrun hpassed (Or.inr ⟨rb', rfl, hholds'⟩) hread' ?_
        show s.rcvWnd + (q.drop n).length ≤ TCP_WND
        rw [List.length_drop]
        omega

/-- Every event that is allowed keeps the invariant. -/
theorem Kept.next (h : s.Kept TCP_WND) {e : Event} (hallowed : Allowed e s) : (next TCP_WND e s).Kept TCP_WND := by
  cases e with
  | segment first second buffer p => exact h.segment hallowed
  | recv len => exact h.recv len
  | hold =>
    obtain ⟨len, hlen⟩ := s.espconnRecvHold_eq
    show s.espconnRecvHold.Kept TCP_WND
    rw [hlen]
    exact ⟨h.running, h.passed, h.ring⟩
  | unhold =>
    show (s.espconnRecvUnhold TCP_WND).Kept TCP_WND
    unfold espconnRecvUnhold
    split_ifs with hflag
    · obtain ⟨hrun, hpassed, q, hw, hread, hwnd⟩ := h
      obtain ⟨w, hrecved, -, hle⟩ := tcpRecved_eq TCP_WND s.recvHoldedBufLen s
      have hnone : q.length = 0 := (Waits.unread hw).symm.trans (hallowed hflag)
      rw [hrecved]
      refine .mk' hrun hpassed hw hread ?_
      show w + q.length ≤ TCP_WND
      omega
    · exact h
  | registRecvcb callback => exact ⟨h.running, h.passed, h.ring⟩
  | leaves => exact ⟨h.running, h.passed, h.ring⟩

/-- **What arrives is received once and in order**: whatever the order of events, the application gets what arrives
while there is a callback, and from `espconn_recv`, with what is still in the ring, what arrives while there is none.
The ring never has to give up a byte. -/
theorem received_once (callback : Bool) (es : List Event)
    (hes : Along (next TCP_WND) Allowed es (opened TCP_WND callback)) :
    (run (next TCP_WND) es (opened TCP_WND callback)).Kept TCP_WND := by
  refine hes.invariant (fun e s hs hallowed => hs.next hallowed) ?_
  exact .mk' rfl rfl (Or.inl ⟨rfl, rfl⟩) rfl (Nat.le_refl _)

/-- Three bytes, of which two are read. -/
theorem received_once_threeBytes :
    (run (next 5840) [.segment true true true [[1, 2, 3]], .recv 2] (opened 5840 false)).Kept 5840 :=
  received_once false _ ⟨⟨by decide, by decide, fun _ => ⟨rfl, rfl⟩⟩, trivial, trivial⟩

end RecvSide

end Esp8266At
