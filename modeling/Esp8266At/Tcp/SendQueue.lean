import Esp8266At.Lib.Runs
import Mathlib.Data.List.Infix
import Mathlib.Tactic.Ring

/-!
# Sending

What `espconn_sent` has accepted waits in a list of buffers; a tail pointer tells from where on it has not been passed
to `tcp_write` yet. Acknowledged buffers are taken off the list, and the application is told. In whatever order
packets are sent and acknowledged, and whatever `tcp_write` refuses for want of memory, the bytes are passed on once
and in order (`sent_in_order`), and there is one report for every packet that has been acknowledged (`reported_once`).
With working memory something is always under way until all is sent (`never_stalls`).
-/

namespace Esp8266At

open Machine

abbrev TCP_MSS : ℕ := 1460
abbrev TCP_SND_BUF : ℕ := 2 * TCP_MSS
abbrev TCP_SND_QUEUELEN : ℕ := (4 * TCP_SND_BUF + (TCP_MSS - 1)) / TCP_MSS

/-- `espconn_buf`; `id` stands for its address, and `punsent` is an offset into `payload`. -/
structure EspconnBuf where
  id : ℕ
  payload : List UInt8
  punsent : ℕ
  unsent : ℕ
  len : ℕ
  totLen : ℕ

/-- What `tcp_write` and the `tcp_output` after it come to, if the data fits: the new `snd_queuelen` and the result of
`tcp_output`, or the error. -/
inductive TcpWrite where
  | ok (queuelen : ℕ) (output : Bool)
  | mem
  | failed

/-- The errors returned by `espconn_sent`. -/
inductive SentError where
  | ok
  | mem
  | maxnum
  | arg
  | lower
  deriving DecidableEq

/-- The send side of a connection: fields of `comon_pkt` and of the pcb, and the outcomes of the coming calls of
`tcp_write`. `copy` is the option `ESPCONN_COPY`.

Five of the fields are not part of the program. `accepted` are the packets that have been put into the list, `written`
is what `tcp_write` has taken, `acked` how much of it has been acknowledged, and `reports` the `sent_length`
at each call of the sent callback. `crashed` is set where a null pointer or released memory is accessed, or a loop
does not end. -/
structure SendSide where
  pbuf : List EspconnBuf
  ptail : Option ℕ
  pbufNum : ℕ
  writeFlag : Bool
  copy : Bool
  sentLength : ℕ
  sndBuf : ℕ
  sndQueuelen : ℕ
  mss : ℕ
  nagleDisabled : Bool
  lwip : ℕ → TcpWrite
  nextBuf : ℕ
  accepted : List (List UInt8)
  written : List UInt8
  acked : ℕ
  reports : List ℕ
  crashed : Bool

namespace SendSide

/-! ### The functions -/

def tcpWrite (data : List UInt8) (s : SendSide) : TcpWrite × SendSide :=
  let s' := { s with lwip := fun k => s.lwip (k + 1) }
  if data.length > s.sndBuf ∨ s.sndQueuelen ≥ TCP_SND_QUEUELEN then (.mem, s')
  else
    match s.lwip 0 with
    | .ok queuelen output =>
      (.ok queuelen output, { s' with sndBuf := s.sndBuf - data.length, sndQueuelen := queuelen,
                                      written := s.written ++ data })
    | r => (r, s')

/-- The next length to try. -/
def lessLen (len : ℕ) : ℕ := if len < 3 then len - 1 else len / 2

theorem lessLen_lt {len : ℕ} (h : 0 < lessLen len) : lessLen len < len := by
  unfold lessLen at h ⊢
  split_ifs at h ⊢ <;> omega

/-- The loop of `espconn_tcp_sent`, with less and less data while there is no memory for it. -/
def writeLoop (data : List UInt8) (len : ℕ) (s : SendSide) : TcpWrite × ℕ × SendSide :=
  match s.tcpWrite (data.take len) with
  | (.mem, s') => if 0 < lessLen len then writeLoop data (lessLen len) s' else (.mem, lessLen len, s')
  | (r, s') => (r, len, s')
termination_by len
decreasing_by exact lessLen_lt ‹_›

/-- Write to the buffer with this id. -/
def setBuf (b : EspconnBuf) (pbuf : List EspconnBuf) : List EspconnBuf :=
  pbuf.map fun x => if x.id = b.id then b else x

/-- `espconn_tcp_sent`, for the buffer `ptail` points to. -/
def espconnTcpSent (b : EspconnBuf) (s : SendSide) : SentError × SendSide :=
  let len := if s.sndBuf < b.unsent then s.sndBuf else b.unsent
  let len := if len > 2 * s.mss then 2 * s.mss else len
  match s.writeLoop (b.payload.drop b.punsent) len with
  | (.ok _ output, len, s) =>
    let b := { b with punsent := b.punsent + len, unsent := b.unsent - len }
    let s := { s with pbuf := setBuf b s.pbuf }
    let s := if s.copy ∧ b.unsent = 0 then { s with writeFlag := true } else s
    (if output then .ok else .lower, s)
  | (.mem, _, s) => (.mem, s)
  | (.failed, _, s) => (.lower, s)

/-- `pnext` of the buffer with this id. -/
def pnext (i : ℕ) : List EspconnBuf → Option ℕ
  | [] => none
  | b :: bs => if b.id = i then bs.head?.map EspconnBuf.id else pnext i bs

/-- The loop of `espconn_tcp_write`, of at most `fuel` rounds. -/
def writeBufs : ℕ → SendSide → SentError × SendSide
  | 0, s => (.ok, { s with crashed := true })
  | fuel + 1, s =>
    if s.sndBuf = 0 then (.ok, s)
    else
      match s.ptail with
      | none => (.ok, s)
      | some i =>
        match s.pbuf.find? (·.id = i) with
        | none => (.ok, { s with crashed := true })
        | some b =>
          if b.unsent = 0 then writeBufs fuel { s with ptail := pnext i s.pbuf }
          else
            match s.espconnTcpSent b with
            | (.ok, s) => writeBufs fuel s
            | (e, s) => (e, s)

def espconnTcpWrite (s : SendSide) : SentError × SendSide :=
  if s.nagleDisabled ∧ s.sndQueuelen ≥ TCP_SND_QUEUELEN then (.mem, s)
  else s.writeBufs (s.sndBuf + s.pbuf.length + 1)

def espconnTcpGetBufCount (pbuf : List EspconnBuf) : ℕ := pbuf.length % 2 ^ 8

/-- `espconn_sent` for the node of a TCP connection, with the result of the allocation. -/
def espconnSent (alloc : Bool) (psent : List UInt8) (s : SendSide) : SentError × SendSide :=
  if psent.length = 0 then (.arg, s)
  else if ¬s.writeFlag then (.arg, s)
  else if ¬s.copy ∧ espconnTcpGetBufCount s.pbuf ≥ s.pbufNum then (.maxnum, s)
  else if s.copy ∧ s.sndQueuelen ≥ TCP_SND_QUEUELEN then (.maxnum, s)
  else if ¬alloc then (.mem, s)
  else
    let b : EspconnBuf :=
      { id := s.nextBuf, payload := psent, punsent := 0, unsent := psent.length, len := psent.length, totLen := 0 }
    let s := { s with pbuf := s.pbuf ++ [b], nextBuf := s.nextBuf + 1, accepted := s.accepted ++ [psent]
                      ptail := if s.ptail = none then some b.id else s.ptail
                      writeFlag := if s.copy then false else s.writeFlag }
    s.espconnTcpWrite

/-- What a sent callback sends. -/
abbrev Replies := List (Bool × List UInt8)

def sendAll (rs : Replies) (s : SendSide) : SendSide := rs.foldl (fun s r => (s.espconnSent r.1 r.2).2) s

def espconnPbufDelete (i : ℕ) (pbuf : List EspconnBuf) : List EspconnBuf := pbuf.eraseP (·.id = i)

/-- The loop of `espconn_tcp_finish`, of at most `fuel` rounds; `len` is what has been acknowledged beyond the buffer
before. `replies` are what the calls of the sent callback send. -/
def finishLoop : ℕ → List Replies → ℕ → SendSide → SendSide
  | 0, _, _, s => { s with crashed := true }
  | fuel + 1, replies, len, s =>
    match s.pbuf with
    | [] => s
    | b :: bs =>
      let b := { b with totLen := (b.totLen + len) % 2 ^ 16 }
      if b.totLen ≥ b.len then
        let len := b.totLen - b.len
        let s := { s with pbuf := espconnPbufDelete b.id (b :: bs), sentLength := b.len
                          reports := s.reports ++ [b.len] }
        let s := s.sendAll (replies.headD [])
        finishLoop fuel replies.tail len { s with sentLength := len }
      else { s with pbuf := b :: bs }

def espconnTcpFinish (replies : List Replies) (s : SendSide) : SendSide :=
  let s := s.espconnTcpWrite.2
  s.finishLoop (2 ^ 16 + 1) replies 0

/-- `espconn_client_sent` and `espconn_server_sent`. -/
def espconnSentCb (replies : List Replies) (len : ℕ) (s : SendSide) : SendSide :=
  match s.pbuf with
  | [] => { s with crashed := true }
  | b :: bs =>
    ({ s with pbuf := { b with totLen := (b.totLen + len) % 2 ^ 16 } :: bs, sentLength := len } :
      SendSide).espconnTcpFinish replies

/-- `espconn_set_opt`, with the bits `ESPCONN_NODELAY` and `ESPCONN_COPY` of `opt`. -/
def espconnSetOpt (nodelay copy : Bool) (s : SendSide) : SendSide :=
  { s with copy := s.copy || copy, nagleDisabled := s.nagleDisabled || nodelay }

/-- `espconn_clear_opt`, with the same bits. -/
def espconnClearOpt (nodelay copy : Bool) (s : SendSide) : SendSide :=
  { s with copy := s.copy && !copy, nagleDisabled := s.nagleDisabled && !nodelay }

def espconnTcpSetBufCount (num : ℕ) (s : SendSide) : SendSide :=
  if num > TCP_SND_QUEUELEN then s else { s with pbufNum := num }

/-! ### Events -/

/-- What happens on a connection. `acked` is the acknowledgement of `n` bytes, after which lwIP counts `queuelen`
buffers in its own queue and calls back. -/
inductive SendEvent where
  | sent (alloc : Bool) (psent : List UInt8)
  | acked (n queuelen : ℕ) (replies : List Replies)
  | setOpt (nodelay copy : Bool)
  | clearOpt (nodelay copy : Bool)
  | setBufCount (num : ℕ)

def next (e : SendEvent) (s : SendSide) : SendSide :=
  match e with
  | .sent alloc psent => (s.espconnSent alloc psent).2
  | .acked n queuelen replies =>
    let s := { s with sndBuf := s.sndBuf + n, sndQueuelen := queuelen, acked := s.acked + n }
    s.espconnSentCb replies n
  | .setOpt nodelay copy => s.espconnSetOpt nodelay copy
  | .clearOpt nodelay copy => s.espconnClearOpt nodelay copy
  | .setBufCount num => s.espconnTcpSetBufCount num

/-- A packet is short enough for its acknowledged length to fit 16 bits. -/
def Short (psent : List UInt8) : Prop := psent.length + TCP_SND_BUF < 2 ^ 16

/-- lwIP acknowledges what is under way, and its queue is empty when all of it has been acknowledged. -/
def Allowed (e : SendEvent) (s : SendSide) : Prop :=
  match e with
  | .sent _ psent => Short psent
  | .acked n queuelen replies => 0 < n ∧ s.acked + n ≤ s.written.length ∧
      (s.acked + n = s.written.length → queuelen = 0) ∧ ∀ rs ∈ replies, ∀ r ∈ rs, Short r.2
  | _ => True

/-- A new connection. -/
def opened (mss : ℕ) (lwip : ℕ → TcpWrite) : SendSide where
  pbuf := []
  ptail := none
  pbufNum := TCP_SND_QUEUELEN
  writeFlag := true
  copy := false
  sentLength := 0
  sndBuf := TCP_SND_BUF
  sndQueuelen := 0
  mss := mss
  nagleDisabled := false
  lwip := lwip
  nextBuf := 0
  accepted := []
  written := []
  acked := 0
  reports := []
  crashed := false

/-! ### The calls of `tcp_write` -/

variable {s : SendSide} {data : List UInt8}

/-- Every coming call of `tcp_write` and of `tcp_output` succeeds if the data fits. -/
def AllOk (s : SendSide) : Prop := ∀ k, ∃ queuelen, s.lwip k = .ok queuelen true

/-- Later in the same run: nothing but the outcomes used up. -/
def Used (s t : SendSide) : Prop := ∃ n, t = { s with lwip := fun k => s.lwip (k + n) }

/-- A piece of the data has been written. -/
def Wrote (data : List UInt8) (n queuelen : ℕ) (s t : SendSide) : Prop :=
  ∃ k, t = { s with lwip := fun j => s.lwip (j + k), sndBuf := s.sndBuf - n, sndQueuelen := queuelen
                    written := s.written ++ data.take n }

/-- `tcp_write` takes all of the data or nothing. -/
theorem tcpWrite_spec (data : List UInt8) (s : SendSide) (hfit : data.length ≤ s.sndBuf) :
    (∃ queuelen output t, s.tcpWrite data = (.ok queuelen output, t) ∧ Wrote data data.length queuelen s t ∧
      (s.AllOk → output = true)) ∨
    ∃ r t, (r = .mem ∨ r = .failed) ∧ s.tcpWrite data = (r, t) ∧ Used s t ∧
      (s.AllOk → r = .mem ∧ s.sndQueuelen ≠ 0) := by
  unfold tcpWrite
  by_cases hfull : s.sndQueuelen ≥ TCP_SND_QUEUELEN
  · rw [if_pos (Or.inr hfull)]
    have hpos : 0 < TCP_SND_QUEUELEN := by decide
    exact Or.inr ⟨.mem, _, Or.inl rfl, rfl, ⟨1, rfl⟩, fun _ => ⟨rfl, by omega⟩⟩
  · rw [if_neg (by omega)]
    cases hout : s.lwip 0 with
    | ok queuelen output =>
      refine Or.inl ⟨queuelen, output, _, rfl, ⟨1, by rw [List.take_length]⟩, fun hok => ?_⟩
      obtain ⟨q, hq⟩ := hok 0
      rw [hout] at hq
      exact (TcpWrite.ok.inj hq).2
    | mem =>
      refine Or.inr ⟨.mem, _, Or.inl rfl, rfl, ⟨1, rfl⟩, fun hok => ?_⟩
      obtain ⟨q, hq⟩ := hok 0
      rw [hout] at hq
      cases hq
    | failed =>
      refine Or.inr ⟨.failed, _, Or.inr rfl, rfl, ⟨1, rfl⟩, fun hok => ?_⟩
      obtain ⟨q, hq⟩ := hok 0
      rw [hout] at hq
      cases hq

theorem Used.allOk {t : SendSide} (h : Used s t) (hok : s.AllOk) : t.AllOk := by
  obtain ⟨n, rfl⟩ := h
  exact fun k => hok (k + n)

theorem Used.trans {t u : SendSide} (h : Used s t) (h' : Used t u) : Used s u := by
  obtain ⟨n, rfl⟩ := h
  obtain ⟨m, rfl⟩ := h'
  exact ⟨m + n, by simp only [Nat.add_assoc]⟩

theorem Used.wrote {t u : SendSide} {n queuelen : ℕ} (h : Used s t) (h' : Wrote data n queuelen t u) :
    Wrote data n queuelen s u := by
  obtain ⟨m, rfl⟩ := h
  obtain ⟨k, rfl⟩ := h'
  exact ⟨k + m, by simp only [Nat.add_assoc]⟩

/-- `espconn_tcp_sent` writes a piece of the data, or nothing. -/
theorem writeLoop_spec (data : List UInt8) (len : ℕ) (s : SendSide) (hlen : 0 < len) (hdata : len ≤ data.length)
    (hfit : len ≤ s.sndBuf) :
    (∃ queuelen output n t, s.writeLoop data len = (.ok queuelen output, n, t) ∧ 0 < n ∧ n ≤ len ∧
      Wrote data n queuelen s t ∧ (s.AllOk → output = true)) ∨
    ∃ r n t, (r = .mem ∨ r = .failed) ∧ s.writeLoop data len = (r, n, t) ∧ Used s t ∧
      (s.AllOk → r = .mem ∧ s.sndQueuelen ≠ 0) := by
  induction len using Nat.strong_induction_on generalizing s with
  | _ len ih =>
    have htake : (data.take len).length = len := by
      rw [List.length_take, min_eq_left hdata]
    rw [writeLoop]
    obtain ⟨queuelen, output, t, hwrite, hwrote, hok⟩ | ⟨r, t, hr, hwrite, hused, hok⟩ :=
      tcpWrite_spec (data.take len) s (by omega)
    · rw [hwrite]
      refine Or.inl ⟨queuelen, output, len, t, rfl, hlen, le_rfl, ?_, hok⟩
      rw [htake] at hwrote
      obtain ⟨k, rfl⟩ := hwrote
      exact ⟨k, by rw [List.take_take, min_self]⟩
    · rw [hwrite]
      obtain rfl | rfl := hr
      · by_cases hless : 0 < lessLen len
        · have hlt := lessLen_lt hless
          have hsame : t.sndBuf = s.sndBuf ∧ t.sndQueuelen = s.sndQueuelen := by
            obtain ⟨m, rfl⟩ := hused
            exact ⟨rfl, rfl⟩
          simp only [if_pos hless]
          obtain ⟨queuelen, output, n, u, hloop, hpos, hn, hwrote, hok'⟩ | ⟨r, n, u, hr, hloop, hused', hok'⟩ :=
            ih (lessLen len) hlt t hless (by omega) (by omega)
          · exact Or.inl ⟨queuelen, output, n, u, hloop, hpos, by omega, hused.wrote hwrote,
              fun h => hok' (hused.allOk h)⟩
          · exact Or.inr ⟨r, n, u, hr, hloop, hused.trans hused', fun h => ⟨(hok' (hused.allOk h)).1, (hok h).2⟩⟩
        · simp only [if_neg hless]
          exact Or.inr ⟨_, _, t, Or.inl rfl, rfl, hused, hok⟩
      · exact Or.inr ⟨_, _, t, Or.inr rfl, rfl, hused, hok⟩

/-! ### The list of buffers -/

variable {done tl : List EspconnBuf} {b : EspconnBuf}

/-- The ids grow along the list. -/
def Sorted (pbuf : List EspconnBuf) : Prop := pbuf.Pairwise fun b c => b.id < c.id

theorem Sorted.before (h : Sorted (done ++ b :: tl)) : ∀ x ∈ done, x.id ≠ b.id := by
  intro x hx
  have := (List.pairwise_append.mp h).2.2 x hx b (List.mem_cons_self ..)
  omega

theorem Sorted.after (h : Sorted (done ++ b :: tl)) : ∀ x ∈ tl, x.id ≠ b.id := by
  intro x hx
  have := List.rel_of_pairwise_cons (List.pairwise_append.mp h).2.1 hx
  omega

theorem Sorted.find (h : Sorted (done ++ b :: tl)) : (done ++ b :: tl).find? (·.id = b.id) = some b := by
  have hdone : done.find? (·.id = b.id) = none := List.find?_eq_none.mpr fun x hx => by simpa using h.before x hx
  rw [List.find?_append, hdone, Option.none_or, List.find?_cons_of_pos (by simp)]

theorem Sorted.pnext (h : Sorted (done ++ b :: tl)) :
    pnext b.id (done ++ b :: tl) = tl.head?.map EspconnBuf.id := by
  have hdone := h.before
  clear h
  induction done with
  | nil => exact if_pos rfl
  | cons x xs ih =>
    rw [List.cons_append, SendSide.pnext, if_neg (hdone x (List.mem_cons_self ..))]
    exact ih fun y hy => hdone y (List.mem_cons_of_mem x hy)

theorem Sorted.unique {pbuf : List EspconnBuf} (h : Sorted pbuf) {x y : EspconnBuf} (hx : x ∈ pbuf) (hy : y ∈ pbuf)
    (hid : x.id = y.id) : x = y := by
  induction pbuf with
  | nil => cases hx
  | cons z zs ih =>
    have hz : ∀ w ∈ zs, z.id < w.id := fun w hw => List.rel_of_pairwise_cons h hw
    rcases List.mem_cons.mp hx with hxz | hxs <;> rcases List.mem_cons.mp hy with hyz | hys
    · rw [hxz, hyz]
    · exact absurd hid (hxz ▸ (hz y hys).ne)
    · exact absurd hid.symm (hyz ▸ (hz x hxs).ne)
    · exact ih h.of_cons hxs hys

theorem Sorted.setBuf (h : Sorted (done ++ b :: tl)) {b' : EspconnBuf} (hid : b'.id = b.id) :
    setBuf b' (done ++ b :: tl) = done ++ b' :: tl := by
  have hsame : ∀ xs : List EspconnBuf, (∀ x ∈ xs, x.id ≠ b.id) →
      xs.map (fun x => if x.id = b'.id then b' else x) = xs := by
    intro xs hxs
    conv_rhs => rw [← List.map_id xs]
    refine List.map_congr_left fun x hx => if_neg ?_
    rw [hid]
    exact hxs x hx
  rw [SendSide.setBuf, List.map_append, List.map_cons, hsame done h.before, hsame tl h.after, if_pos hid.symm]

theorem Sorted.replace (h : Sorted (done ++ b :: tl)) {b' : EspconnBuf} (hid : b'.id = b.id) :
    Sorted (done ++ b' :: tl) := by
  have hkey : ∀ xs : List EspconnBuf, Sorted xs ↔ (xs.map EspconnBuf.id).Pairwise (· < ·) := by
    intro xs
    exact List.pairwise_map.symm
  rw [hkey] at h ⊢
  rwa [List.map_append, List.map_cons, hid, ← List.map_cons, ← List.map_append]

end SendSide

/-! ### The invariant -/

/-- The fields of a buffer fit together, and the acknowledged length cannot overflow. -/
structure EspconnBuf.Sound (b : EspconnBuf) : Prop where
  len : b.len = b.payload.length
  pos : 0 < b.len
  split : b.punsent + b.unsent = b.len
  room : SendSide.Short b.payload

/-- What has been passed to `tcp_write`. -/
def EspconnBuf.sent (b : EspconnBuf) : List UInt8 := b.payload.take b.punsent

theorem EspconnBuf.Sound.all {b : EspconnBuf} (h : b.Sound) (hunsent : b.unsent = 0) : b.sent = b.payload := by
  have hsplit := h.split
  have hlen := h.len
  exact List.take_of_length_le (by omega)

namespace SendSide

/-- The buffers up to `ptail` are sent, and those behind it have not been begun. -/
def Begun (s : SendSide) : Prop := ∃ done rest, s.pbuf = done ++ rest ∧ (∀ b ∈ done, b.unsent = 0) ∧
  (∀ b ∈ rest.tail, b.punsent = 0) ∧ s.ptail = rest.head?.map EspconnBuf.id

/-- What holds of a connection whose packets `fin` have been taken off the list, when `carry` more bytes have been
acknowledged than have been counted yet. -/
structure Sending (fin : List (List UInt8)) (carry : ℕ) (s : SendSide) : Prop where
  running : s.crashed = false
  mss : 0 < s.mss
  sound : ∀ b ∈ s.pbuf, b.Sound
  ids : Sorted s.pbuf
  fresh : ∀ b ∈ s.pbuf, b.id < s.nextBuf
  begun : s.Begun
  accepted : s.accepted = fin ++ s.pbuf.map EspconnBuf.payload
  written : s.written = fin.flatten ++ (s.pbuf.map EspconnBuf.sent).flatten
  reports : s.reports = fin.map List.length
  window : s.sndBuf + s.written.length = TCP_SND_BUF + s.acked
  le : s.acked ≤ s.written.length
  acks : s.acked = fin.flatten.length + (s.pbuf.head?.map EspconnBuf.totLen).getD 0 + carry
  others : ∀ b ∈ s.pbuf.tail, b.totLen = 0
  queue : s.acked = s.written.length → s.sndQueuelen = 0

/-- If the buffer at `ptail` is sent, something is under way. -/
def Settled (s : SendSide) : Prop :=
  ∀ b ∈ s.pbuf, s.ptail = some b.id → b.unsent = 0 → s.acked < s.written.length

/-- If there is something to be sent, something is under way. -/
def Going (s : SendSide) : Prop := s.ptail ≠ none → s.acked < s.written.length

/-- The first packet on the list has not been acknowledged as a whole. -/
def Current (fin : List (List UInt8)) (s : SendSide) : Prop :=
  ∀ p, s.accepted[fin.length]? = some p → s.acked < fin.flatten.length + p.length

variable {s : SendSide} {done tl : List EspconnBuf} {b : EspconnBuf} {fin : List (List UInt8)} {carry : ℕ}

/-- Outcomes that are used up change nothing else. -/
theorem Sending.used {t : SendSide} (h : Sending fin carry s) (hused : Used s t) : Sending fin carry t := by
  obtain ⟨n, rfl⟩ := hused
  exact ⟨h.running, h.mss, h.sound, h.ids, h.fresh, h.begun, h.accepted, h.written, h.reports, h.window, h.le, h.acks,
    h.others, h.queue⟩

theorem flatten_of_unsent (h : ∀ b ∈ tl, b.punsent = 0) : (tl.map EspconnBuf.sent).flatten = [] := by
  rw [List.flatten_eq_nil_iff]
  intro xs hxs
  obtain ⟨b, hb, rfl⟩ := List.mem_map.mp hxs
  rw [EspconnBuf.sent, h b hb, List.take_zero]

/-- The buffer at `ptail` after `n` more bytes of it have been written. -/
def more (n : ℕ) (b : EspconnBuf) : EspconnBuf := { b with punsent := b.punsent + n, unsent := b.unsent - n }

theorem more_sent (n : ℕ) (b : EspconnBuf) : (more n b).sent = b.sent ++ (b.payload.drop b.punsent).take n :=
  List.take_add

/-- A piece of the buffer at `ptail` is written. -/
theorem Sending.wrote (h : Sending fin carry s) (hpbuf : s.pbuf = done ++ b :: tl) (hdone : ∀ x ∈ done, x.unsent = 0)
    (htl : ∀ x ∈ tl, x.punsent = 0) (hptail : s.ptail = some b.id) {n queuelen : ℕ} {t : SendSide} (hpos : 0 < n)
    (hn : n ≤ b.unsent) (hfit : n ≤ s.sndBuf) (hwrote : Wrote (b.payload.drop b.punsent) n queuelen s t)
    (flag : Bool) :
    Sending fin carry { t with pbuf := done ++ more n b :: tl, writeFlag := flag } ∧ t.acked < t.written.length := by
  obtain ⟨k, rfl⟩ := hwrote
  have hmem : b ∈ s.pbuf := hpbuf ▸ List.mem_append_right _ (List.mem_cons_self ..)
  have hb := h.sound b hmem
  have hids : Sorted (done ++ b :: tl) := hpbuf ▸ h.ids
  have hlen : ((b.payload.drop b.punsent).take n).length = n := by
    have := hb.len
    have := hb.split
    rw [List.length_take, List.length_drop]
    omega
  have hwindow := h.window
  have hle := h.le
  have hmore : s.acked < (s.written ++ (b.payload.drop b.punsent).take n).length := by
    rw [List.length_append, hlen]
    omega
  -- the other buffers stay as they are
  have hother : ∀ x ∈ done ++ more n b :: tl, x = more n b ∨ x ∈ s.pbuf := by
    intro x hx
    rcases List.mem_append.mp hx with hx | hx
    · exact Or.inr (hpbuf ▸ List.mem_append_left _ hx)
    · rcases List.mem_cons.mp hx with rfl | hx
      · exact Or.inl rfl
      · exact Or.inr (hpbuf ▸ List.mem_append_right _ (List.mem_cons_of_mem _ hx))
  refine ⟨⟨h.running, h.mss, fun x hx => ?_, hids.replace rfl, fun x hx => ?_,
    ⟨done, _ :: tl, rfl, hdone, htl, hptail⟩, ?_, ?_, h.reports, ?_, hmore.le, ?_, fun x hx => ?_,
    fun heq => absurd heq hmore.ne⟩, hmore⟩
  · rcases hother x hx with rfl | hx
    · refine ⟨hb.len, hb.pos, ?_, hb.room⟩
      have := hb.split
      show b.punsent + n + (b.unsent - n) = b.len
      omega
    · exact h.sound x hx
  · rcases hother x hx with rfl | hx
    · exact h.fresh b hmem
    · exact h.fresh x hx
  · have haccepted := h.accepted
    rw [hpbuf, List.map_append, List.map_cons] at haccepted
    rw [List.map_append, List.map_cons]
    exact haccepted
  · have hwritten := h.written
    rw [hpbuf] at hwritten
    have hnone := flatten_of_unsent htl
    show s.written ++ _ = _
    rw [hwritten]
    simp only [List.map_append, List.map_cons, List.flatten_append, List.flatten_cons, hnone, List.append_nil,
      more_sent, List.append_assoc]
  · show s.sndBuf - n + (s.written ++ _).length = TCP_SND_BUF + s.acked
    rw [List.length_append, hlen]
    omega
  · have hacks := h.acks
    rw [hpbuf] at hacks
    cases done with
    | nil => exact hacks
    | cons x xs => exact hacks
  · have hothers := h.others
    rw [hpbuf] at hothers
    cases done with
    | nil => exact hothers x hx
    | cons y ys =>
      rcases List.mem_append.mp hx with hx | hx
      · exact hothers x (List.mem_append_left _ hx)
      · rcases List.mem_cons.mp hx with rfl | hx
        · exact hothers b (List.mem_append_right _ (List.mem_cons_self ..))
        · exact hothers x (List.mem_append_right _ (List.mem_cons_of_mem _ hx))

/-- `ptail` moves on from a buffer that is sent. -/
theorem Sending.movesOn (h : Sending fin carry s) (hpbuf : s.pbuf = done ++ b :: tl)
    (hdone : ∀ x ∈ done, x.unsent = 0) (htl : ∀ x ∈ tl, x.punsent = 0) (hsent : b.unsent = 0) :
    Sending fin carry { s with ptail := tl.head?.map EspconnBuf.id } := by
  refine ⟨h.running, h.mss, h.sound, h.ids, h.fresh, ⟨done ++ [b], tl, ?_, ?_, fun x hx => ?_, rfl⟩, h.accepted,
    h.written, h.reports, h.window, h.le, h.acks, h.others, h.queue⟩
  · rw [List.append_assoc]
    exact hpbuf
  · intro x hx
    rcases List.mem_append.mp hx with hx | hx
    · exact hdone x hx
    · rwa [List.mem_singleton.mp hx]
  · exact htl x (List.mem_of_mem_tail hx)

/-- What a call of `espconn_tcp_sent` comes to: outcomes are used up, or a piece of the buffer has been written. -/
theorem espconnTcpSent_spec (h : Sending fin carry s) (hpbuf : s.pbuf = done ++ b :: tl) (hroom : s.sndBuf ≠ 0)
    (hunsent : b.unsent ≠ 0) :
    (∃ e t, s.espconnTcpSent b = (e, t) ∧ e ≠ .ok ∧ Used s t ∧ (s.AllOk → s.sndQueuelen ≠ 0)) ∨
    ∃ e t n flag, s.espconnTcpSent b = (e, { t with pbuf := done ++ more n b :: tl, writeFlag := flag }) ∧ 0 < n ∧
      n ≤ b.unsent ∧ n ≤ s.sndBuf ∧ (∃ queuelen, Wrote (b.payload.drop b.punsent) n queuelen s t) ∧
      (s.AllOk → e = .ok) := by
  have hmem : b ∈ s.pbuf := hpbuf ▸ List.mem_append_right _ (List.mem_cons_self ..)
  have hb := h.sound b hmem
  have hids : Sorted (done ++ b :: tl) := hpbuf ▸ h.ids
  have hmss := h.mss
  obtain ⟨len, hlen⟩ : ∃ len, len = if (if s.sndBuf < b.unsent then s.sndBuf else b.unsent) > 2 * s.mss then 2 * s.mss
    else if s.sndBuf < b.unsent then s.sndBuf else b.unsent := ⟨_, rfl⟩
  have hpos : 0 < len := by
    rw [hlen]
    split_ifs <;> omega
  have hle : len ≤ b.unsent ∧ len ≤ s.sndBuf := by
    rw [hlen]
    split_ifs <;> omega
  have hdata : len ≤ (b.payload.drop b.punsent).length := by
    have := hb.len
    have := hb.split
    rw [List.length_drop]
    omega
  unfold espconnTcpSent
  simp only [← hlen]
  obtain ⟨queuelen, output, n, t, hloop, hn, hnle, hwrote, hok⟩ | ⟨r, n, t, hr, hloop, hused, hok⟩ :=
    writeLoop_spec _ len s hpos hdata hle.2
  · have hset : setBuf (more n b) t.pbuf = done ++ more n b :: tl := by
      have hsame : t.pbuf = done ++ b :: tl := by
        obtain ⟨k, rfl⟩ := hwrote
        exact hpbuf
      rw [hsame]
      exact hids.setBuf rfl
    rw [hloop]
    refine Or.inr ⟨if output then .ok else .lower, t, n,
      if t.copy ∧ (more n b).unsent = 0 then true else t.writeFlag, ?_, hn, by omega, by omega, ⟨queuelen, hwrote⟩,
      fun h => by rw [hok h, if_pos rfl]⟩
    rw [← hset]
    show (_, if t.copy ∧ (more n b).unsent = 0 then _ else _) = _
    split_ifs <;> rfl
  · rw [hloop]
    obtain rfl | rfl := hr
    · exact Or.inl ⟨.mem, t, rfl, nofun, hused, fun h => (hok h).2⟩
    · exact Or.inl ⟨.lower, t, rfl, nofun, hused, fun h => (hok h).2⟩

/-- What `espconn_tcp_write` keeps, and what it has reached in the end. -/
structure Sends (fin : List (List UInt8)) (carry : ℕ) (s t : SendSide) : Prop where
  sending : Sending fin carry t
  settled : t.Settled
  acked : t.acked = s.acked
  accepted : t.accepted = s.accepted
  going : s.AllOk → t.AllOk ∧ t.Going

theorem Used.fields {t : SendSide} (h : Used s t) : t.pbuf = s.pbuf ∧ t.ptail = s.ptail ∧ t.acked = s.acked ∧
    t.accepted = s.accepted ∧ t.written = s.written := by
  obtain ⟨n, rfl⟩ := h
  exact ⟨rfl, rfl, rfl, rfl, rfl⟩

/-- The loop of `espconn_tcp_write`. -/
theorem writeBufs_spec (fuel : ℕ) (h : Sending fin carry s) {done rest : List EspconnBuf}
    (hpbuf : s.pbuf = done ++ rest) (hdone : ∀ b ∈ done, b.unsent = 0) (hrest : ∀ b ∈ rest.tail, b.punsent = 0)
    (hptail : s.ptail = rest.head?.map EspconnBuf.id) (hfuel : s.sndBuf + rest.length < fuel) :
    Sends fin carry s (s.writeBufs fuel).2 := by
  induction fuel generalizing s done rest with
  | zero => omega
  | succ fuel ih =>
    have hwindow := h.window
    have hle := h.le
    have hpos : 0 < TCP_SND_BUF := by decide
    rw [writeBufs]
    by_cases hroom : s.sndBuf = 0
    · -- all of the send buffer is under way
      have hgoing : s.acked < s.written.length := by omega
      rw [if_pos hroom]
      exact ⟨h, fun _ _ _ _ => hgoing, rfl, rfl, fun hok => ⟨hok, fun _ => hgoing⟩⟩
    · rw [if_neg hroom]
      cases rest with
      | nil =>
        have hnone : s.ptail = none := hptail
        have hsettled : s.Settled := fun b _ hb => by rw [hnone] at hb; cases hb
        rw [hnone]
        exact ⟨h, hsettled, rfl, rfl, fun hok => ⟨hok, fun hne => absurd hnone hne⟩⟩
      | cons b tl =>
        have hsome : s.ptail = some b.id := hptail
        have hids : Sorted (done ++ b :: tl) := hpbuf ▸ h.ids
        have hfind : s.pbuf.find? (·.id = b.id) = some b := hpbuf ▸ hids.find
        rw [hsome]
        simp only [hfind]
        by_cases hunsent : b.unsent = 0
        · rw [if_pos hunsent]
          have hnext : pnext b.id s.pbuf = tl.head?.map EspconnBuf.id := hpbuf ▸ hids.pnext
          rw [hnext]
          have hsplit : s.pbuf = (done ++ [b]) ++ tl := by
            rw [hpbuf, List.append_assoc]
            rfl
          have hdone' : ∀ x ∈ done ++ [b], x.unsent = 0 := by
            intro x hx
            rcases List.mem_append.mp hx with hx | hx
            · exact hdone x hx
            · rwa [List.mem_singleton.mp hx]
          have hless : s.sndBuf + tl.length < fuel := by
            rw [List.length_cons] at hfuel
            omega
          obtain ⟨h1, h2, h3, h4, h5⟩ := ih (h.movesOn hpbuf hdone hrest hunsent) hsplit hdone'
            (fun x hx => hrest x (List.mem_of_mem_tail hx)) rfl hless
          exact ⟨h1, h2, h3, h4, h5⟩
        · rw [if_neg hunsent]
          obtain ⟨e, t, hsent, he, hused, hok⟩ | ⟨e, t, n, flag, hsent, hn, hnle, hfit, ⟨queuelen, hwrote⟩, hok⟩ :=
            espconnTcpSent_spec h hpbuf hroom hunsent
          · -- nothing has been written, and `ptail` points to a buffer that is not sent
            obtain ⟨hp, ht, ha, hacc, hw⟩ := hused.fields
            have hsettled : t.Settled := by
              intro x hx hxtail hxsent
              rw [ht, hsome] at hxtail
              rw [hp] at hx
              have hxb : x = b := h.ids.unique hx (hpbuf ▸ List.mem_append_right _ (List.mem_cons_self ..))
                (Option.some.inj hxtail).symm
              exact absurd (hxb ▸ hxsent) hunsent
            have hgoing : s.AllOk → t.AllOk ∧ t.Going := by
              intro hall
              refine ⟨hused.allOk hall, fun _ => ?_⟩
              have hqueue := h.queue
              have hne := hok hall
              rw [ha, hw]
              omega
            rw [hsent]
            cases e with
            | ok => exact absurd rfl he
            | mem => exact ⟨h.used hused, hsettled, ha, hacc, hgoing⟩
            | maxnum => exact ⟨h.used hused, hsettled, ha, hacc, hgoing⟩
            | arg => exact ⟨h.used hused, hsettled, ha, hacc, hgoing⟩
            | lower => exact ⟨h.used hused, hsettled, ha, hacc, hgoing⟩
          · obtain ⟨hsending, hmore⟩ := h.wrote hpbuf hdone hrest hsome hn hnle hfit hwrote flag
            obtain ⟨hbuf, ha, hacc, htail, hall⟩ : t.sndBuf = s.sndBuf - n ∧ t.acked = s.acked ∧
                t.accepted = s.accepted ∧ t.ptail = s.ptail ∧ (s.AllOk → t.AllOk) := by
              obtain ⟨k, rfl⟩ := hwrote
              exact ⟨rfl, rfl, rfl, rfl, fun hall j => hall (j + k)⟩
            have hstop : Sends fin carry s { t with pbuf := done ++ more n b :: tl, writeFlag := flag } :=
              ⟨hsending, fun _ _ _ _ => hmore, ha, hacc, fun h => ⟨hall h, fun _ => hmore⟩⟩
            rw [hsent]
            cases e with
            | ok =>
              have hless : t.sndBuf + (more n b :: tl).length < fuel := by
                rw [List.length_cons] at hfuel ⊢
                omega
              obtain ⟨h1, h2, h3, h4, h5⟩ := ih hsending rfl hdone hrest (htail.trans hsome) hless
              exact ⟨h1, h2, h3.trans ha, h4.trans hacc, fun h => h5 (hall h)⟩
            | mem => exact hstop
            | maxnum => exact hstop
            | arg => exact hstop
            | lower => exact hstop

/-- `espconn_tcp_write` keeps the invariant, and leaves nothing waiting while nothing is under way. -/
theorem espconnTcpWrite_spec (h : Sending fin carry s) : Sends fin carry s s.espconnTcpWrite.2 := by
  rw [espconnTcpWrite]
  by_cases hfull : s.nagleDisabled ∧ s.sndQueuelen ≥ TCP_SND_QUEUELEN
  · have hgoing : s.acked < s.written.length := by
      have hpos : 0 < TCP_SND_QUEUELEN := by decide
      have hqueue := h.queue
      have hle := h.le
      omega
    rw [if_pos hfull]
    exact ⟨h, fun _ _ _ _ => hgoing, rfl, rfl, fun hok => ⟨hok, fun _ => hgoing⟩⟩
  · rw [if_neg hfull]
    obtain ⟨done, rest, hpbuf, hdone, hrest, hptail⟩ := h.begun
    refine writeBufs_spec _ h hpbuf hdone hrest hptail ?_
    rw [hpbuf, List.length_append]
    omega

/-! ### `espconn_sent` -/

/-- What `espconn_sent` keeps, whether it accepts the packet or not. -/
structure Keeps (fin : List (List UInt8)) (carry : ℕ) (s t : SendSide) : Prop where
  sending : Sending fin carry t
  settled : t.Settled
  acked : t.acked = s.acked
  going : s.AllOk → s.Going → t.AllOk ∧ t.Going

theorem Keeps.refl (h : Sending fin carry s) (hs : s.Settled) : Keeps fin carry s s :=
  ⟨h, hs, rfl, fun hok hgoing => ⟨hok, hgoing⟩⟩

theorem Keeps.trans {t u : SendSide} {fin' : List (List UInt8)} {carry' : ℕ} (h : Keeps fin carry s t)
    (h' : Keeps fin' carry' t u) : Keeps fin' carry' s u := by
  refine ⟨h'.sending, h'.settled, h'.acked.trans h.acked, fun hok hgoing => ?_⟩
  obtain ⟨hok', hgoing'⟩ := h.going hok hgoing
  exact h'.going hok' hgoing'

/-- The buffer of a new packet. -/
def newBuf (psent : List UInt8) (s : SendSide) : EspconnBuf :=
  { id := s.nextBuf, payload := psent, punsent := 0, unsent := psent.length, len := psent.length, totLen := 0 }

/-- The packet is put into the list. -/
def put (psent : List UInt8) (s : SendSide) : SendSide :=
  { s with pbuf := s.pbuf ++ [newBuf psent s], nextBuf := s.nextBuf + 1, accepted := s.accepted ++ [psent]
           ptail := if s.ptail = none then some (newBuf psent s).id else s.ptail
           writeFlag := if s.copy then false else s.writeFlag }

theorem Sending.put (h : Sending fin carry s) {psent : List UInt8} (hpos : 0 < psent.length) (hshort : Short psent) :
    Sending fin carry (put psent s) := by
  obtain ⟨done, rest, hpbuf, hdone, hrest, hptail⟩ := h.begun
  have hmem : ∀ x ∈ (SendSide.put psent s).pbuf, x ∈ s.pbuf ∨ x = newBuf psent s := by
    intro x hx
    rcases List.mem_append.mp hx with hx | hx
    · exact Or.inl hx
    · exact Or.inr (List.mem_singleton.mp hx)
  have hbegun : (SendSide.put psent s).Begun := by
    refine ⟨done, rest ++ [newBuf psent s], ?_, hdone, ?_, ?_⟩
    · rw [← List.append_assoc, ← hpbuf]
      rfl
    · intro x hx
      cases rest with
      | nil => cases hx
      | cons y ys =>
        rcases List.mem_append.mp hx with hx | hx
        · exact hrest x hx
        · rw [List.mem_singleton.mp hx]
          rfl
    · cases rest with
      | nil => exact if_pos hptail
      | cons y ys =>
        refine (if_neg ?_).trans hptail
        rw [hptail]
        nofun
  refine ⟨h.running, h.mss, fun x hx => ?_, ?_, fun x hx => ?_, hbegun, ?_, ?_, h.reports, h.window, h.le, ?_,
    fun x hx => ?_, h.queue⟩
  · rcases hmem x hx with hx | rfl
    · exact h.sound x hx
    · exact ⟨rfl, hpos, Nat.zero_add _, hshort⟩
  · refine List.pairwise_append.mpr ⟨h.ids, List.pairwise_singleton .., fun x hx y hy => ?_⟩
    rw [List.mem_singleton.mp hy]
    exact h.fresh x hx
  · rcases hmem x hx with hx | rfl
    · exact Nat.lt_succ_of_lt (h.fresh x hx)
    · exact Nat.lt_succ_self _
  · show s.accepted ++ [psent] = fin ++ (s.pbuf ++ [newBuf psent s]).map EspconnBuf.payload
    rw [h.accepted, List.append_assoc, List.map_append]
    rfl
  · show s.written = fin.flatten ++ ((s.pbuf ++ [newBuf psent s]).map EspconnBuf.sent).flatten
    rw [h.written, List.map_append, List.flatten_append]
    exact congrArg (fin.flatten ++ ·) (List.append_nil _).symm
  · have hacks := h.acks
    show s.acked = _ + ((s.pbuf ++ [newBuf psent s]).head?.map EspconnBuf.totLen).getD 0 + carry
    cases hp : s.pbuf with
    | nil =>
      rw [hp] at hacks
      exact hacks
    | cons y ys =>
      rw [hp] at hacks
      exact hacks
  · have hothers := h.others
    have hx' : x ∈ (s.pbuf ++ [newBuf psent s]).tail := hx
    cases hp : s.pbuf with
    | nil =>
      rw [hp] at hx'
      cases hx'
    | cons y ys =>
      rw [hp] at hx' hothers
      rcases List.mem_append.mp hx' with hx | hx
      · exact hothers x hx
      · rw [List.mem_singleton.mp hx]
        rfl

/-- `espconn_sent` changes nothing, or puts the packet into the list and writes what it can. -/
theorem espconnSent_eq (alloc : Bool) (psent : List UInt8) (s : SendSide) :
    (s.espconnSent alloc psent).2 = s ∨
      0 < psent.length ∧ (s.espconnSent alloc psent).2 = (put psent s).espconnTcpWrite.2 := by
  unfold espconnSent
  by_cases hlen : psent.length = 0
  · exact Or.inl (congrArg Prod.snd (if_pos hlen))
  · rw [if_neg hlen]
    by_cases hbusy : ¬s.writeFlag = true
    · exact Or.inl (congrArg Prod.snd (if_pos hbusy))
    · rw [if_neg hbusy]
      by_cases hmany : ¬s.copy = true ∧ espconnTcpGetBufCount s.pbuf ≥ s.pbufNum
      · exact Or.inl (congrArg Prod.snd (if_pos hmany))
      · rw [if_neg hmany]
        by_cases hqueue : s.copy = true ∧ s.sndQueuelen ≥ TCP_SND_QUEUELEN
        · exact Or.inl (congrArg Prod.snd (if_pos hqueue))
        · rw [if_neg hqueue]
          cases alloc with
          | false => exact Or.inl rfl
          | true => exact Or.inr ⟨Nat.pos_of_ne_zero hlen, rfl⟩

theorem espconnSent_spec (h : Sending fin carry s) (hs : s.Settled) (alloc : Bool) {psent : List UInt8}
    (hshort : Short psent) : Keeps fin carry s (s.espconnSent alloc psent).2 := by
  obtain heq | ⟨hpos, heq⟩ := s.espconnSent_eq alloc psent
  · rw [heq]
    exact .refl h hs
  · rw [heq]
    obtain ⟨hsending, hsettled, hacked, -, hgoing⟩ := espconnTcpWrite_spec (h.put hpos hshort)
    exact ⟨hsending, hsettled, hacked, fun hok _ => hgoing hok⟩

/-- A callback that sends. -/
theorem sendAll_spec (h : Sending fin carry s) (hs : s.Settled) {rs : Replies} (hshort : ∀ r ∈ rs, Short r.2) :
    Keeps fin carry s (s.sendAll rs) := by
  induction rs generalizing s with
  | nil => exact .refl h hs
  | cons r rs ih =>
    have hone := espconnSent_spec h hs r.1 (hshort r (List.mem_cons_self ..))
    exact hone.trans (ih hone.sending hone.settled fun x hx => hshort x (List.mem_cons_of_mem r hx))

/-! ### `espconn_tcp_finish` -/

/-- A buffer that has been acknowledged as a whole has been sent, and `ptail` does not point to it. -/
theorem Sending.acked_all (h : Sending fin carry s) (hs : s.Settled) (hpbuf : s.pbuf = b :: tl)
    (hacked : b.len ≤ b.totLen + carry) : b.unsent = 0 ∧ ∃ done rest, tl = done ++ rest ∧ (∀ x ∈ done, x.unsent = 0) ∧
      (∀ x ∈ rest.tail, x.punsent = 0) ∧ s.ptail = rest.head?.map EspconnBuf.id := by
  have hmem : b ∈ s.pbuf := hpbuf ▸ List.mem_cons_self ..
  obtain ⟨hblen, hbpos, hbsplit, -⟩ := h.sound b hmem
  have hacks : s.acked = fin.flatten.length + b.totLen + carry := by
    have hacks := h.acks
    rw [hpbuf] at hacks
    exact hacks
  obtain ⟨done, rest, hsplit, hdone, hrest, hptail⟩ := h.begun
  rw [hpbuf] at hsplit
  cases done with
  | cons x done =>
    obtain ⟨rfl, rfl⟩ := List.cons.inj hsplit
    exact ⟨hdone b (List.mem_cons_self ..), done, rest, rfl, fun y hy => hdone y (List.mem_cons_of_mem _ hy), hrest,
      hptail⟩
  | nil =>
    -- nothing behind the buffer has been begun, so all that is acknowledged is part of it
    exfalso
    have hrest' : rest = b :: tl := hsplit.symm
    rw [hrest'] at hrest hptail
    have hnone := flatten_of_unsent hrest
    have hwritten : s.written.length = fin.flatten.length + b.punsent := by
      have hsent : b.sent.length = b.punsent := by
        rw [EspconnBuf.sent, List.length_take]
        omega
      rw [h.written, hpbuf, List.map_cons, List.flatten_cons]
      rw [List.tail_cons] at hnone
      rw [hnone, List.append_nil, List.length_append, hsent]
    have hle := h.le
    have hmore := hs b hmem hptail (by omega)
    omega

/-- The list without its first buffer, which has been acknowledged as a whole. -/
theorem Sending.finished (h : Sending fin carry s) (hs : s.Settled) (hpbuf : s.pbuf = b :: tl)
    (hacked : b.len ≤ b.totLen + carry) (n : ℕ) :
    Sending (fin ++ [b.payload]) (b.totLen + carry - b.len)
      { s with pbuf := tl, sentLength := n, reports := s.reports ++ [b.len] } := by
  have hmem : b ∈ s.pbuf := hpbuf ▸ List.mem_cons_self ..
  have hb := h.sound b hmem
  obtain ⟨hunsent, hbegun⟩ := h.acked_all hs hpbuf hacked
  have hflat : (fin ++ [b.payload]).flatten = fin.flatten ++ b.payload := by
    rw [List.flatten_append, List.flatten_singleton]
  have hsub : ∀ x ∈ tl, x ∈ s.pbuf := fun x hx => hpbuf ▸ List.mem_cons_of_mem b hx
  have hids : Sorted (b :: tl) := hpbuf ▸ h.ids
  have hothers : ∀ x ∈ tl, x.totLen = 0 := by
    have hothers := h.others
    rwa [hpbuf] at hothers
  refine ⟨h.running, h.mss, fun x hx => h.sound x (hsub x hx), hids.of_cons, fun x hx => h.fresh x (hsub x hx),
    hbegun, ?_, ?_, ?_, h.window, h.le, ?_, fun x hx => hothers x (List.mem_of_mem_tail hx), h.queue⟩
  · show s.accepted = fin ++ [b.payload] ++ tl.map EspconnBuf.payload
    rw [h.accepted, hpbuf, List.map_cons, List.append_assoc, List.singleton_append]
  · show s.written = (fin ++ [b.payload]).flatten ++ (tl.map EspconnBuf.sent).flatten
    rw [h.written, hpbuf, List.map_cons, List.flatten_cons, hb.all hunsent, hflat, List.append_assoc]
  · show s.reports ++ [b.len] = (fin ++ [b.payload]).map List.length
    rw [h.reports, hb.len, List.map_append, List.map_singleton]
  · have hacks := h.acks
    rw [hpbuf] at hacks
    have hhead : (tl.head?.map EspconnBuf.totLen).getD 0 = 0 := by
      cases tl with
      | nil => rfl
      | cons x xs => exact hothers x (List.mem_cons_self ..)
    have hacks' : s.acked = fin.flatten.length + b.totLen + carry := hacks
    show s.acked = (fin ++ [b.payload]).flatten.length + (tl.head?.map EspconnBuf.totLen).getD 0 + _
    have hlen := hb.len
    rw [hhead, hflat, List.length_append]
    omega

/-- `sent_length` has no part in the invariant. -/
theorem Keeps.sentLength {t : SendSide} (h : Keeps fin carry s t) (n : ℕ) :
    Keeps fin carry s { t with sentLength := n } := by
  have ht := h.sending
  exact ⟨⟨ht.running, ht.mss, ht.sound, ht.ids, ht.fresh, ht.begun, ht.accepted, ht.written, ht.reports, ht.window,
    ht.le, ht.acks, ht.others, ht.queue⟩, h.settled, h.acked, h.going⟩

/-- What has been acknowledged is counted at the first buffer. -/
theorem Sending.counted (h : Sending fin carry s) (hpbuf : s.pbuf = b :: tl) {b' : EspconnBuf}
    (hb' : b' = { b with totLen := b.totLen + carry }) (n : ℕ) :
    Sending fin 0 { s with pbuf := b' :: tl, sentLength := n } := by
  subst hb'
  have hmem : b ∈ s.pbuf := hpbuf ▸ List.mem_cons_self ..
  have hb := h.sound b hmem
  have hids : Sorted ([] ++ b :: tl) := hpbuf ▸ h.ids
  have hsub : ∀ x ∈ tl, x ∈ s.pbuf := fun x hx => hpbuf ▸ List.mem_cons_of_mem b hx
  have haccepted := h.accepted
  have hwritten := h.written
  have hacks := h.acks
  have hothers := h.others
  rw [hpbuf] at haccepted hwritten hacks hothers
  obtain ⟨done, rest, hsplit, hdone, hrest, hptail⟩ := h.begun
  refine ⟨h.running, h.mss, fun x hx => ?_, hids.replace rfl, fun x hx => ?_, ?_, haccepted, hwritten, h.reports,
    h.window, h.le, ?_, hothers, h.queue⟩
  · rcases List.mem_cons.mp hx with rfl | hx
    · exact ⟨hb.len, hb.pos, hb.split, hb.room⟩
    · exact h.sound x (hsub x hx)
  · rcases List.mem_cons.mp hx with rfl | hx
    · exact h.fresh b hmem
    · exact h.fresh x (hsub x hx)
  · rw [hpbuf] at hsplit
    cases done with
    | nil =>
      obtain rfl : rest = b :: tl := hsplit.symm
      exact ⟨[], _ :: tl, rfl, nofun, hrest, hptail⟩
    | cons x done =>
      obtain ⟨rfl, rfl⟩ := List.cons.inj hsplit
      refine ⟨_ :: done, rest, rfl, fun y hy => ?_, hrest, hptail⟩
      rcases List.mem_cons.mp hy with rfl | hy
      · exact hdone b (List.mem_cons_self ..)
      · exact hdone y (List.mem_cons_of_mem _ hy)
  · have hacks' : s.acked = fin.flatten.length + b.totLen + carry := hacks
    show s.acked = fin.flatten.length + (b.totLen + carry) + 0
    omega

/-- The loop of `espconn_tcp_finish`: what has been acknowledged as a whole is taken off the list. -/
theorem finishLoop_spec (fuel : ℕ) (replies : List Replies) (h : Sending fin carry s) (hs : s.Settled)
    (hfit : s.acked < fin.flatten.length + 2 ^ 16) (hshort : ∀ rs ∈ replies, ∀ r ∈ rs, Short r.2)
    (hfuel : s.acked < fin.flatten.length + fuel) :
    ∃ fin', Keeps fin' 0 s (s.finishLoop fuel replies carry) ∧ (s.finishLoop fuel replies carry).Current fin' := by
  induction fuel generalizing s fin carry replies with
  | zero =>
    have := h.acks
    omega
  | succ fuel ih =>
    unfold finishLoop
    cases hpbuf : s.pbuf with
    | nil =>
      have hwritten := h.written
      have haccepted := h.accepted
      have hacks := h.acks
      have hle := h.le
      rw [hpbuf] at hwritten haccepted hacks
      have hnone : carry = 0 := by
        rw [hwritten, List.map_nil, List.flatten_nil, List.append_nil] at hle
        have hacks' : s.acked = fin.flatten.length + 0 + carry := hacks
        omega
      rw [hnone] at h
      refine ⟨fin, .refl h hs, fun p hp => ?_⟩
      rw [haccepted, List.map_nil, List.append_nil, List.getElem?_eq_none le_rfl] at hp
      cases hp
    | cons b bs =>
      have hacks : s.acked = fin.flatten.length + b.totLen + carry := by
        have hacks := h.acks
        rw [hpbuf] at hacks
        exact hacks
      have hmod : (b.totLen + carry) % 2 ^ 16 = b.totLen + carry := Nat.mod_eq_of_lt (by omega)
      simp only [hmod]
      by_cases hacked : b.totLen + carry ≥ b.len
      · have hdel : espconnPbufDelete b.id ({ b with totLen := b.totLen + carry } :: bs) = bs :=
          List.eraseP_cons_of_pos (by simp)
        have hpos := (h.sound b (hpbuf ▸ List.mem_cons_self ..)).pos
        have hlen := (h.sound b (hpbuf ▸ List.mem_cons_self ..)).len
        have hflat : (fin ++ [b.payload]).flatten.length = fin.flatten.length + b.len := by
          rw [List.flatten_append, List.flatten_singleton, List.length_append, hlen]
        have hsettled : ({ s with pbuf := bs, sentLength := b.len, reports := s.reports ++ [b.len] } :
            SendSide).Settled := fun x hx => hs x (hpbuf ▸ List.mem_cons_of_mem b hx)
        have hhead : ∀ r ∈ replies.headD [], Short r.2 := by
          cases replies with
          | nil => nofun
          | cons rs _ => exact hshort rs (List.mem_cons_self ..)
        have hkeeps := (sendAll_spec (h.finished hs hpbuf hacked b.len) hsettled hhead).sentLength
          (b.totLen + carry - b.len)
        rw [if_pos hacked, hdel]
        have hacked' := hkeeps.acked.trans hacks
        obtain ⟨fin', hkeeps', hcurrent⟩ := ih replies.tail hkeeps.sending hkeeps.settled (by omega)
          (fun rs hrs => hshort rs (List.mem_of_mem_tail hrs)) (by omega)
        obtain ⟨hsending, hsettled', hsame, hgoing⟩ := hkeeps.trans hkeeps'
        exact ⟨fin', ⟨hsending, hsettled', hsame, hgoing⟩, hcurrent⟩
      · rw [if_neg hacked]
        have hsettled : ({ s with pbuf := { b with totLen := b.totLen + carry } :: bs } : SendSide).Settled := by
          intro x hx
          rcases List.mem_cons.mp hx with rfl | hx
          · exact hs b (hpbuf ▸ List.mem_cons_self ..)
          · exact hs x (hpbuf ▸ List.mem_cons_of_mem b hx)
        refine ⟨fin, ⟨h.counted hpbuf rfl s.sentLength, hsettled, rfl, fun hok hgoing => ⟨hok, hgoing⟩⟩,
          fun p hp => ?_⟩
        have hp' : s.accepted[fin.length]? = some p := hp
        have hlen := (h.sound b (hpbuf ▸ List.mem_cons_self ..)).len
        rw [h.accepted, hpbuf, List.getElem?_append_right le_rfl, Nat.sub_self] at hp'
        obtain rfl : b.payload = p := Option.some.inj hp'
        show s.acked < fin.flatten.length + b.payload.length
        omega

/-! ### Runs -/

/-- What holds between events. -/
def Kept (s : SendSide) : Prop := ∃ fin, Sending fin 0 s ∧ s.Settled ∧ s.Current fin

theorem Kept.sent (h : s.Kept) (alloc : Bool) {psent : List UInt8} (hshort : Short psent) :
    (s.espconnSent alloc psent).2.Kept := by
  obtain ⟨fin, hsending, hsettled, hcurrent⟩ := h
  obtain heq | ⟨hpos, heq⟩ := s.espconnSent_eq alloc psent
  · rw [heq]
    exact ⟨fin, hsending, hsettled, hcurrent⟩
  · rw [heq]
    obtain ⟨hsending', hsettled', hacked, haccepted, -⟩ := espconnTcpWrite_spec (hsending.put hpos hshort)
    refine ⟨fin, hsending', hsettled', fun p hp => ?_⟩
    have hall : ((put psent s).espconnTcpWrite.2).accepted = s.accepted ++ [psent] := haccepted
    rw [hall] at hp
    have hsame : ((put psent s).espconnTcpWrite.2).acked = s.acked := hacked
    rw [hsame]
    cases hpbuf : s.pbuf with
    | nil =>
      have hacks := hsending.acks
      have haccepted := hsending.accepted
      rw [hpbuf] at hacks haccepted
      have hacks' : s.acked = fin.flatten.length := hacks
      rw [haccepted, List.map_nil, List.append_nil, List.getElem?_append_right le_rfl, Nat.sub_self] at hp
      obtain rfl : psent = p := Option.some.inj hp
      omega
    | cons b bs =>
      have hless : fin.length < s.accepted.length := by
        rw [hsending.accepted, hpbuf, List.length_append, List.length_map, List.length_cons]
        omega
      rw [List.getElem?_append_left hless] at hp
      exact hcurrent p hp

/-- An acknowledgement. -/
theorem acked_spec (h : s.Kept) {n queuelen : ℕ} {replies : List Replies}
    (hallowed : Allowed (.acked n queuelen replies) s) :
    (next (.acked n queuelen replies) s).Kept ∧
      (s.AllOk → (next (.acked n queuelen replies) s).AllOk ∧ (next (.acked n queuelen replies) s).Going) := by
  obtain ⟨fin, hsending, -, hcurrent⟩ := h
  obtain ⟨hpos, hle, hempty, hshort⟩ := hallowed
  have hwindow := hsending.window
  have hacks := hsending.acks
  have hin : Sending fin n { s with sndBuf := s.sndBuf + n, sndQueuelen := queuelen, acked := s.acked + n } := by
    refine ⟨hsending.running, hsending.mss, hsending.sound, hsending.ids, hsending.fresh, hsending.begun,
      hsending.accepted, hsending.written, hsending.reports, ?_, hle, ?_, hsending.others, hempty⟩
    · show s.sndBuf + n + s.written.length = TCP_SND_BUF + (s.acked + n)
      omega
    · show s.acked + n = _ + (s.pbuf.head?.map EspconnBuf.totLen).getD 0 + n
      omega
  show (espconnSentCb replies n _).Kept ∧
    (s.AllOk → (espconnSentCb replies n _).AllOk ∧ (espconnSentCb replies n _).Going)
  unfold espconnSentCb
  cases hpbuf : s.pbuf with
  | nil =>
    -- nothing is under way
    exfalso
    have hwritten := hsending.written
    rw [hpbuf] at hwritten hacks
    have hacks' : s.acked = fin.flatten.length := hacks
    rw [hwritten, List.map_nil, List.flatten_nil, List.append_nil] at hle
    omega
  | cons b bs =>
    rw [hpbuf] at hacks
    have hacks' : s.acked = fin.flatten.length + b.totLen := hacks
    have hb := hsending.sound b (hpbuf ▸ List.mem_cons_self ..)
    have hless : b.totLen < b.payload.length := by
      have hfirst : s.accepted[fin.length]? = some b.payload := by
        rw [hsending.accepted, hpbuf, List.getElem?_append_right le_rfl, Nat.sub_self]
        rfl
      have hlt := hcurrent _ hfirst
      omega
    have hroom : b.payload.length + TCP_SND_BUF < 2 ^ 16 := hb.room
    have hmod : (b.totLen + n) % 2 ^ 16 = b.totLen + n := Nat.mod_eq_of_lt (by omega)
    simp only [hmod]
    obtain ⟨hsending', hsettled, hacked, -, hgoing⟩ := espconnTcpWrite_spec (hin.counted hpbuf rfl n)
    have hacked' : _ = s.acked + n := hacked
    obtain ⟨fin', hkeeps, hcurrent'⟩ := finishLoop_spec (2 ^ 16 + 1) replies hsending' hsettled (by omega) hshort
      (by omega)
    refine ⟨⟨fin', hkeeps.sending, hkeeps.settled, hcurrent'⟩, fun hok => ?_⟩
    obtain ⟨hok', hgoing'⟩ := hgoing hok
    exact hkeeps.going hok' hgoing'

/-- The settings have no part in the invariant. -/
theorem Kept.settings (h : s.Kept) (copy nagleDisabled : Bool) (pbufNum : ℕ) :
    ({ s with copy := copy, nagleDisabled := nagleDisabled, pbufNum := pbufNum } : SendSide).Kept := by
  obtain ⟨fin, h, hsettled, hcurrent⟩ := h
  exact ⟨fin, ⟨h.running, h.mss, h.sound, h.ids, h.fresh, h.begun, h.accepted, h.written, h.reports, h.window, h.le,
    h.acks, h.others, h.queue⟩, hsettled, hcurrent⟩

/-- Every event that is allowed keeps the invariant. -/
theorem Kept.next (h : s.Kept) {e : SendEvent} (hallowed : Allowed e s) : (next e s).Kept := by
  cases e with
  | sent alloc psent => exact h.sent alloc hallowed
  | acked n queuelen replies => exact (acked_spec h hallowed).1
  | setOpt nodelay copy => exact h.settings _ _ s.pbufNum
  | clearOpt nodelay copy => exact h.settings _ _ s.pbufNum
  | setBufCount num =>
    show (s.espconnTcpSetBufCount num).Kept
    unfold espconnTcpSetBufCount
    split_ifs
    · exact h
    · exact h.settings s.copy s.nagleDisabled num

/-- With working memory, an event that is allowed leaves something under way if there is something to be sent. -/
theorem next_going (h : s.Kept) {e : SendEvent} (hallowed : Allowed e s) (hok : s.AllOk) (hgoing : s.Going) :
    (SendSide.next e s).AllOk ∧ (SendSide.next e s).Going := by
  cases e with
  | sent alloc psent =>
    obtain ⟨fin, hsending, hsettled, -⟩ := h
    exact (espconnSent_spec hsending hsettled alloc hallowed).going hok hgoing
  | acked n queuelen replies => exact (acked_spec h hallowed).2 hok
  | setOpt nodelay copy => exact ⟨hok, hgoing⟩
  | clearOpt nodelay copy => exact ⟨hok, hgoing⟩
  | setBufCount num =>
    show (s.espconnTcpSetBufCount num).AllOk ∧ (s.espconnTcpSetBufCount num).Going
    unfold espconnTcpSetBufCount
    split_ifs
    · exact ⟨hok, hgoing⟩
    · exact ⟨hok, hgoing⟩

variable {mss : ℕ} {lwip : ℕ → TcpWrite}

theorem kept_opened (hmss : 0 < mss) : (opened mss lwip).Kept := by
  refine ⟨[], ⟨rfl, hmss, nofun, .nil, nofun, ⟨[], [], rfl, nofun, nofun, rfl⟩, rfl, rfl, rfl, rfl, le_rfl, rfl,
    nofun, fun _ => rfl⟩, nofun, nofun⟩

variable (mss lwip) in
/-- The state after a run of events. -/
def after (es : List SendEvent) : SendSide := run SendSide.next es (opened mss lwip)

theorem kept_run {es : List SendEvent} (hmss : 0 < mss) (hes : Along next Allowed es (opened mss lwip)) :
    (after mss lwip es).Kept :=
  hes.invariant (fun _ _ hs hallowed => hs.next hallowed) (kept_opened hmss)

theorem sent_of_done (hsound : ∀ b ∈ done, b.Sound) (hdone : ∀ b ∈ done, b.unsent = 0) :
    done.map EspconnBuf.sent = done.map EspconnBuf.payload :=
  List.map_congr_left fun b hb => (hsound b hb).all (hdone b hb)

/-- What has been passed on is the beginning of what has been accepted. -/
theorem sent_payload {pbuf : List EspconnBuf} {done rest : List EspconnBuf} (hsplit : pbuf = done ++ rest)
    (hsound : ∀ b ∈ pbuf, b.Sound) (hdone : ∀ b ∈ done, b.unsent = 0) (hrest : ∀ b ∈ rest.tail, b.punsent = 0) :
    (pbuf.map EspconnBuf.sent).flatten <+: (pbuf.map EspconnBuf.payload).flatten := by
  have hsound' : ∀ b ∈ done, b.Sound := fun b hb => hsound b (hsplit ▸ List.mem_append_left _ hb)
  rw [hsplit, List.map_append, List.map_append, List.flatten_append, List.flatten_append, sent_of_done hsound' hdone,
    List.prefix_append_right_inj]
  cases rest with
  | nil => exact List.nil_prefix
  | cons b tl =>
    have hnone : (tl.map EspconnBuf.sent).flatten = [] := flatten_of_unsent hrest
    rw [List.map_cons, List.map_cons, List.flatten_cons, List.flatten_cons, hnone, List.append_nil]
    exact (List.take_prefix _ _).trans (List.prefix_append ..)

theorem flatten_take_le (xs : List (List UInt8)) {i j : ℕ} (h : i ≤ j) :
    (xs.take i).flatten.length ≤ (xs.take j).flatten.length :=
  (List.take_isPrefix_take.mpr (Or.inl h)).flatten.length_le

/-- What `Going` comes to for the packets that have been accepted. -/
theorem Kept.underWay (h : s.Kept) (hgoing : s.Going) (hmore : s.acked < s.accepted.flatten.length) :
    s.acked < s.written.length := by
  obtain ⟨fin, h, -⟩ := h
  obtain ⟨done, rest, hsplit, hdone, -, hptail⟩ := h.begun
  by_cases hnone : s.ptail = none
  · have hrest : rest = [] := by
      rw [hnone] at hptail
      cases rest with
      | nil => rfl
      | cons b tl => cases hptail
    rw [hrest, List.append_nil] at hsplit
    have hsound : ∀ b ∈ done, b.Sound := hsplit ▸ h.sound
    rw [h.accepted, hsplit, ← sent_of_done hsound hdone, ← hsplit, List.flatten_append, ← h.written] at hmore
    exact hmore
  · exact hgoing hnone

/-! ### A packet of three bytes -/

/-- A connection with working memory on which three bytes have been sent. -/
def threeBytes : SendSide := after TCP_MSS (fun _ => .ok 1 true) [.sent true [1, 2, 3]]

theorem threeBytes_allowed :
    Along next Allowed [.sent true [1, 2, 3]] (opened TCP_MSS fun _ => .ok 1 true) := by
  refine ⟨?_, trivial⟩
  show 3 + TCP_SND_BUF < 2 ^ 16
  decide

theorem threeBytes_spec :
    threeBytes.acked = 0 ∧ threeBytes.accepted = [[1, 2, 3]] ∧ 0 < threeBytes.written.length := by
  have hkept : threeBytes.Kept := kept_run (by decide) threeBytes_allowed
  obtain ⟨s, hs⟩ : ∃ s, s = opened TCP_MSS fun _ => .ok 1 true := ⟨_, rfl⟩
  have hput : threeBytes = (put [1, 2, 3] s).espconnTcpWrite.2 := by
    rw [hs]
    rfl
  have hnone : s.acked = 0 ∧ s.accepted = [] := hs ▸ ⟨rfl, rfl⟩
  have hok : (put [1, 2, 3] s).AllOk := hs ▸ fun _ => ⟨1, rfl⟩
  obtain ⟨fin, h, -⟩ : s.Kept := hs ▸ kept_opened (by decide)
  obtain ⟨-, -, hacked, haccepted, hgoing⟩ := espconnTcpWrite_spec (h.put (by decide) threeBytes_allowed.1)
  obtain ⟨-, hgoing⟩ := hgoing hok
  rw [← hput] at hacked haccepted hgoing
  have hacked' : threeBytes.acked = 0 := hacked.trans hnone.1
  have haccepted' : threeBytes.accepted = [[1, 2, 3]] := haccepted.trans (congrArg (· ++ [[1, 2, 3]]) hnone.2)
  have hunder := hkept.underWay hgoing (by rw [hacked', haccepted']; decide)
  exact ⟨hacked', haccepted', by omega⟩

/-- One of the three bytes is acknowledged. -/
def oneAcked : SendSide := after TCP_MSS (fun _ => .ok 1 true) [.sent true [1, 2, 3], .acked 1 0 []]

theorem oneAcked_allowed :
    Along next Allowed [.sent true [1, 2, 3], .acked 1 0 []] (opened TCP_MSS fun _ => .ok 1 true) := by
  obtain ⟨hacked, -, hwritten⟩ := threeBytes_spec
  refine ⟨threeBytes_allowed.1, ?_, trivial⟩
  show Allowed (.acked 1 0 []) threeBytes
  exact ⟨by decide, by omega, fun _ => rfl, nofun⟩

/-! ### The results -/

/-- **What is accepted is sent once and in order**: whatever the order of packets and acknowledgements, and whatever
fails below, `tcp_write` gets the bytes of the accepted packets one after the other. -/
theorem sent_in_order (es : List SendEvent) (hmss : 0 < mss) (hes : Along next Allowed es (opened mss lwip)) :
    (after mss lwip es).crashed = false ∧
      (after mss lwip es).written <+: (after mss lwip es).accepted.flatten := by
  obtain ⟨fin, h, -⟩ := kept_run hmss hes
  obtain ⟨done, rest, hsplit, hdone, hrest, -⟩ := h.begun
  refine ⟨h.running, ?_⟩
  rw [h.written, h.accepted, List.flatten_append, List.prefix_append_right_inj]
  exact sent_payload hsplit h.sound hdone hrest

theorem sent_in_order_oneAcked : oneAcked.crashed = false ∧ oneAcked.written <+: oneAcked.accepted.flatten :=
  sent_in_order _ (by decide) oneAcked_allowed

/-- **Every packet is reported once**: the callback has been told the lengths of the first packets, one by one, and
these are the packets that have been acknowledged as a whole. -/
theorem reported_once (es : List SendEvent) (hmss : 0 < mss) (hes : Along next Allowed es (opened mss lwip)) :
    ∃ k, (after mss lwip es).reports = ((after mss lwip es).accepted.take k).map List.length ∧
      ∀ j < (after mss lwip es).accepted.length,
        j < k ↔ ((after mss lwip es).accepted.take (j + 1)).flatten.length ≤ (after mss lwip es).acked := by
  obtain ⟨fin, h, -, hcurrent⟩ := kept_run hmss hes
  have hfin : (after mss lwip es).accepted.take fin.length = fin := by
    rw [h.accepted, List.take_left]
  have hacked : fin.flatten.length ≤ (after mss lwip es).acked := by
    have := h.acks
    omega
  refine ⟨fin.length, ?_, fun j hj => ?_⟩
  · rw [hfin, h.reports]
  · constructor
    · intro hless
      have hle := flatten_take_le (after mss lwip es).accepted (show j + 1 ≤ fin.length from hless)
      rw [hfin] at hle
      omega
    · intro hle
      by_contra hmany
      have hj' : fin.length < (after mss lwip es).accepted.length := by omega
      have hless := hcurrent _ (List.getElem?_eq_getElem hj')
      have hmono := flatten_take_le (after mss lwip es).accepted (show fin.length + 1 ≤ j + 1 by omega)
      rw [List.take_succ_eq_append_getElem hj', hfin, List.flatten_append, List.flatten_singleton,
        List.length_append] at hmono
      omega

theorem reported_once_oneAcked : ∃ k, oneAcked.reports = (oneAcked.accepted.take k).map List.length ∧
    ∀ j < oneAcked.accepted.length, j < k ↔ (oneAcked.accepted.take (j + 1)).flatten.length ≤ oneAcked.acked :=
  reported_once _ (by decide) oneAcked_allowed

/-- **It never stalls**: with working memory there is something under way until everything that has been accepted is
acknowledged. -/
theorem never_stalls (es : List SendEvent) (hmss : 0 < mss) (hes : Along next Allowed es (opened mss lwip))
    (hok : ∀ k, ∃ queuelen, lwip k = .ok queuelen true)
    (hmore : (after mss lwip es).acked < (after mss lwip es).accepted.flatten.length) :
    (after mss lwip es).acked < (after mss lwip es).written.length := by
  obtain ⟨hkept, -, hgoing⟩ : (after mss lwip es).Kept ∧ (after mss lwip es).AllOk ∧ (after mss lwip es).Going :=
    hes.invariant (I := fun s => s.Kept ∧ s.AllOk ∧ s.Going)
      (fun _ _ hs hallowed => ⟨hs.1.next hallowed, next_going hs.1 hallowed hs.2.1 hs.2.2⟩)
      ⟨kept_opened hmss, hok, fun hne => absurd rfl hne⟩
  exact hkept.underWay hgoing hmore

theorem never_stalls_threeBytes : threeBytes.acked < threeBytes.written.length := by
  obtain ⟨hacked, haccepted, -⟩ := threeBytes_spec
  refine never_stalls _ (by decide) threeBytes_allowed (fun _ => ⟨1, rfl⟩) ?_
  show threeBytes.acked < threeBytes.accepted.flatten.length
  rw [hacked, haccepted]
  decide

end SendSide

end Esp8266At
