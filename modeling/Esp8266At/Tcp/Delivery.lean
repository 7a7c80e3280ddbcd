import Esp8266At.Tcp.LinkEvents

/-!
# The delivery of received data

The host and `tcpconn_recvcb` as two parties: the host says characters at any calls of `uart_rx_one_char`, the
handler announces the data, sends it, and sends it again as often as the host asks. `Conversation` lists what
they can say to each other; the handler's loop is shown to hold such a conversation whatever the host says.
-/

namespace Esp8266At.Tcp

/-! ### The conversation -/

/-- Within `tmo` calls the host says `c`, the first it says of `chars`. -/
def Answers (chars : List Char) (tmo : ℕ) (polls : List (Option UInt8)) (c : Char) : Prop :=
  polls.length ≤ tmo ∧ c ∈ chars ∧ ∃ before ch, polls = before ++ [some ch] ∧ Char.ofNat ch.toNat = c ∧
    ∀ b, some b ∈ before → Char.ofNat b.toNat ∉ chars

/-- In `tmo` calls the host says none of `chars`. -/
def Silent (chars : List Char) (tmo : ℕ) (host : List (Option UInt8)) : Prop :=
  ∀ b, some b ∈ host.take tmo → Char.ofNat b.toNat ∉ chars

/-- What the host says, whether the data is confirmed, and what is sent to the host in between. -/
inductive Conversation (announcement : Output) (data : List UInt8) : List (Option UInt8) → Bool → List Output → Prop
  | confirmed {p q rest : List (Option UInt8)} :
      Answers ['r', 'a'] TCP_DATA_TIMEOUT_MS p 'r' → Answers ['y', 'a', 'c'] 10000 q 'y' →
      Conversation announcement data (p ++ (q ++ rest)) true [announcement, .data data]
  | again {p q rest : List (Option UInt8)} {confirmed : Bool} {out : List Output} :
      Answers ['r', 'a'] TCP_DATA_TIMEOUT_MS p 'r' → Answers ['y', 'a', 'c'] 10000 q 'c' →
      Conversation announcement data rest confirmed out →
      Conversation announcement data (p ++ (q ++ rest)) confirmed
        (announcement :: .data data :: .text "\r\n+TCPresend\r\n" :: out)
  | refused {p rest : List (Option UInt8)} :
      Answers ['r', 'a'] TCP_DATA_TIMEOUT_MS p 'a' →
      Conversation announcement data (p ++ rest) false [announcement]
  | unanswered {host : List (Option UInt8)} :
      Silent ['r', 'a'] TCP_DATA_TIMEOUT_MS host → Conversation announcement data host false [announcement]
  | aborted {p q rest : List (Option UInt8)} :
      Answers ['r', 'a'] TCP_DATA_TIMEOUT_MS p 'r' → Answers ['y', 'a', 'c'] 10000 q 'a' →
      Conversation announcement data (p ++ (q ++ rest)) false [announcement, .data data]
  | unconfirmed {p rest : List (Option UInt8)} :
      Answers ['r', 'a'] TCP_DATA_TIMEOUT_MS p 'r' → Silent ['y', 'a', 'c'] 10000 rest →
      Conversation announcement data (p ++ rest) false [announcement, .data data]

/-- Every round but the last announces and sends the whole data; so does the last if it is confirmed. -/
theorem Conversation.rounds {announcement : Output} {data : List UInt8} {host : List (Option UInt8)}
    {confirmed : Bool} {out : List Output} (h : Conversation announcement data host confirmed out) :
    ∃ n last, out = (List.replicate n [announcement, .data data, .text "\r\n+TCPresend\r\n"]).flatten ++ last ∧
      (last = [announcement, .data data] ∨ (confirmed = false ∧ last = [announcement])) := by
  induction h with
  | confirmed | aborted | unconfirmed => exact ⟨0, _, rfl, Or.inl rfl⟩
  | refused | unanswered => exact ⟨0, _, rfl, Or.inr ⟨rfl, rfl⟩⟩
  | again _ _ _ ih =>
    obtain ⟨n, last, rfl, hlast⟩ := ih
    exact ⟨n + 1, last, rfl, hlast⟩

/-! ### Waiting for the host -/

theorem answers_cons_none {chars : List Char} {tmo : ℕ} {polls : List (Option UInt8)} {c : Char}
    (h : Answers chars tmo polls c) : Answers chars (tmo + 1) (none :: polls) c := by
  obtain ⟨hlen, hc, before, ch, rfl, hch, hbefore⟩ := h
  refine ⟨Nat.succ_le_succ hlen, hc, none :: before, ch, rfl, hch, fun b hb => hbefore b ?_⟩
  simpa using hb

theorem answers_cons_some {chars : List Char} {tmo : ℕ} {polls : List (Option UInt8)} {c : Char} {b : UInt8}
    (hb : Char.ofNat b.toNat ∉ chars) (h : Answers chars tmo polls c) :
    Answers chars (tmo + 1) (some b :: polls) c := by
  obtain ⟨hlen, hc, before, ch, rfl, hch, hbefore⟩ := h
  refine ⟨Nat.succ_le_succ hlen, hc, some b :: before, ch, rfl, hch, fun b' hb' => ?_⟩
  rcases List.mem_cons.mp hb' with heq | hb'
  · rwa [Option.some.inj heq]
  · exact hbefore b' hb'

/-- The host answers, or is silent for all the calls. -/
theorem awaitChar_cases (chars : List Char) (tmo : ℕ) (host : List (Option UInt8)) :
    (∃ c polls rest, awaitChar chars tmo host = (some c, rest) ∧ host = polls ++ rest ∧
      Answers chars tmo polls c) ∨
    ∃ rest, awaitChar chars tmo host = (none, rest) ∧ Silent chars tmo host := by
  induction tmo generalizing host with
  | zero => exact Or.inr ⟨host, rfl, fun b hb => by simp at hb⟩
  | succ tmo ih =>
    cases host with
    | nil => exact Or.inr ⟨[], rfl, fun b hb => by simp at hb⟩
    | cons poll host =>
      cases poll with
      | none =>
        rw [awaitChar]
        refine (ih host).imp ?_ ?_
        · rintro ⟨c, polls, rest, hwait, rfl, hans⟩
          exact ⟨c, none :: polls, rest, hwait, rfl, answers_cons_none hans⟩
        · rintro ⟨rest, hwait, hsilent⟩
          exact ⟨rest, hwait, fun b hb => hsilent b (by simpa using hb)⟩
      | some b =>
        rw [awaitChar]
        by_cases hb : Char.ofNat b.toNat ∈ chars
        · rw [if_pos hb]
          exact Or.inl ⟨_, [some b], host, rfl, rfl, Nat.succ_le_succ (Nat.zero_le _), hb, [], b, rfl, rfl,
            fun b' hb' => by simp at hb'⟩
        · rw [if_neg hb]
          refine (ih host).imp ?_ ?_
          · rintro ⟨c, polls, rest, hwait, rfl, hans⟩
            exact ⟨c, some b :: polls, rest, hwait, rfl, answers_cons_some hb hans⟩
          · rintro ⟨rest, hwait, hsilent⟩
            refine ⟨rest, hwait, fun b' hb' => ?_⟩
            rcases List.mem_cons.mp hb' with heq | hb'
            · rwa [Option.some.inj heq]
            · exact hsilent b' hb'

theorem Answers.length_pos {chars : List Char} {tmo : ℕ} {polls : List (Option UInt8)} {c : Char}
    (h : Answers chars tmo polls c) : 0 < polls.length := by
  obtain ⟨-, -, before, ch, rfl, -⟩ := h
  simp

/-! ### The handler -/

variable {lib : LibAt} {s : Tcp} {i : LinkId} {t : TcpConn} {c srv_n : ℕ} {data : List UInt8}

/-- The announcement of `length` bytes received on link `i` of server `srv_n`. -/
def announced (i : LinkId) (srv_n length : ℕ) : Output := .text s!"\r\n+TCP,{i},{srv_n},{length}:"

variable (i srv_n data) in
/-- The loop holds a conversation; it does not end before the conversation does. -/
theorem recvRounds_conversation {rounds : ℕ} {host : List (Option UInt8)} (hrounds : host.length < rounds) :
    ∃ confirmed out, Conversation (announced i srv_n data.length) data host confirmed out ∧
      recvRounds i srv_n data rounds host s = (confirmed, { s with out := s.out ++ out }) := by
  induction rounds generalizing host s with
  | zero => omega
  | succ rounds ih =>
    simp only [recvRounds]
    obtain ⟨ch, p, host', hwait, rfl, hp⟩ | ⟨host', hwait, hsilent⟩ :=
      awaitChar_cases ['r', 'a'] TCP_DATA_TIMEOUT_MS host
    · rw [hwait]
      have hch : ch = 'r' ∨ ch = 'a' := by simpa using hp.2.1
      obtain rfl | rfl := hch
      · simp only
        obtain ⟨ch, q, rest, hwait', rfl, hq⟩ | ⟨rest, hwait', hsilent⟩ :=
          awaitChar_cases ['y', 'a', 'c'] 10000 host'
        · rw [hwait']
          have hch : ch = 'y' ∨ ch = 'a' ∨ ch = 'c' := by simpa using hq.2.1
          obtain rfl | rfl | rfl := hch
          · exact ⟨true, _, .confirmed hp hq, by simp [print, uart0TxBuffer, announced]⟩
          · exact ⟨false, _, .aborted hp hq, by simp [print, uart0TxBuffer, announced]⟩
          · have hless : rest.length < rounds := by
              have := hp.length_pos
              simp only [List.length_append] at hrounds
              omega
            obtain ⟨confirmed, out, hconv, heq⟩ := ih (s := ((s.print
              s!"\r\n+TCP,{i},{srv_n},{data.length}:").uart0TxBuffer data).print "\r\n+TCPresend\r\n") hless
            refine ⟨confirmed, _, .again hp hq hconv, heq.trans ?_⟩
            simp [print, uart0TxBuffer, announced]
        · rw [hwait']
          exact ⟨false, _, .unconfirmed hp hsilent, by simp [print, uart0TxBuffer, announced]⟩
      · exact ⟨false, _, .refused hp, by simp [print, announced]⟩
    · rw [hwait]
      exact ⟨false, _, .unanswered hsilent, by simp [print, announced]⟩

/-- The data received on link `i` is confirmed and nothing else done, or the host is told that the link is
aborted and a disconnect of connection `c` requested. The special state is left in both cases. -/
def DeliversOrAborts (s : Tcp) (i : LinkId) (c : ℕ) (data : List UInt8) (host : List (Option UInt8)) (s' : Tcp) : Prop :=
  (∃ out, Conversation (announced i (s.announcedServer i) data.length) data host true out ∧
    s' = { s.use c with out := s.out ++ out, busy := false }) ∨
  ∃ out, Conversation (announced i (s.announcedServer i) data.length) data host false out ∧
    s' = (({ s.use c with out := s.out ++ out, busy := true }.print "\r\n+TCPabort\r\n").espconnDisconnect
      c).atLeaveSpecialState

/-- The handler for the link it finds. -/
theorem tcpconnRecvcb_found (hi : s.getTcpn (s.espconn c).key = some i) (ht : s.tcpconns i = some t)
    (hup : t.connected ≠ 0) (data : List UInt8) (host : List (Option UInt8)) :
    DeliversOrAborts s i c data host (s.tcpconnRecvcb c data host) := by
  have hfind : (s.use c).getTcpn ((s.use c).espconn c).key = some i := hi
  have hserver : (s.use c).announcedServer i = s.announcedServer i := rfl
  obtain ⟨confirmed, out, hconv, hrounds⟩ := recvRounds_conversation i (s.announcedServer i) data
    (s := (s.use c).atEnterSpecialState) (Nat.lt_succ_self host.length)
  simp only [tcpconnRecvcb, hfind, hserver, hrounds]
  cases confirmed with
  | true => exact Or.inl ⟨out, hconv, rfl⟩
  | false =>
    have hany : (s.tcpconns i).any (fun t => t.connected ≠ 0) = true := by simpa [ht] using hup
    refine Or.inr ⟨out, hconv, ?_⟩
    have hslot : ((s.use c).atEnterSpecialState).tcpconns = s.tcpconns := rfl
    simp only [hslot, hany, if_true]
    rfl

/-! ### Which link is announced -/

theorem toList_linkId (i : LinkId) : (toString i).toList = [Char.ofNat (48 + i.val)] := by
  decide +revert

theorem announced_inj {i j : LinkId} {k k' n n' : ℕ} (h : announced i k n = announced j k' n') : i = j := by
  have hlist := congrArg String.toList (Output.text.inj h)
  simp only [String.toList_append, toList_linkId, List.append_assoc] at hlist
  have hdigit := (List.cons.inj (List.append_cancel_left hlist)).1
  clear hlist h
  decide +revert

theorem announced_ne (i : LinkId) (k n m : ℕ) : announced i k n ≠ .text s!"\r\nTCPClientERROR:recv,{m}:" := by
  intro h
  have hlist := congrArg String.toList (Output.text.inj h)
  simp only [String.toList_append, List.append_assoc] at hlist
  have hthird := congrArg (fun l => l[2]?) hlist
  simp [toString] at hthird

theorem Conversation.head {announcement : Output} {host : List (Option UInt8)} {confirmed : Bool}
    {out : List Output} (h : Conversation announcement data host confirmed out) :
    ∃ rest, out = announcement :: rest := by
  cases h with
  | confirmed | aborted | unconfirmed | refused | unanswered | again => exact ⟨_, rfl⟩

theorem DeliversOrAborts.head {host : List (Option UInt8)} {s' : Tcp} (h : DeliversOrAborts s i c data host s') :
    ∃ rest, s'.out = s.out ++ announced i (s.announcedServer i) data.length :: rest := by
  obtain ⟨out, hconv, rfl⟩ | ⟨out, hconv, rfl⟩ := h
  · obtain ⟨rest, rfl⟩ := hconv.head
    exact ⟨rest, rfl⟩
  · obtain ⟨rest, rfl⟩ := hconv.head
    obtain ⟨misused, espconn, plinkActive, hdis⟩ := espconnDisconnect_eq
      ({ s.use c with out := s.out ++ announced i (s.announcedServer i) data.length :: rest, busy := true }.print
        "\r\n+TCPabort\r\n") c
    rw [hdis]
    exact ⟨rest ++ [.text "\r\n+TCPabort\r\n"], by simp [atLeaveSpecialState, print]⟩

/-- A block of data received on connected link `i` is delivered and confirmed or the link is aborted, if and
only if the link is the first with its remote address and port. -/
theorem delivers_or_aborts_iff (s : Tcp) (i : LinkId) (t : TcpConn) (ht : s.tcpconns i = some t)
    (hup : t.connected ≠ 0) (data : List UInt8) (host : List (Option UInt8)) :
    DeliversOrAborts s i t.conn data host (s.tcpconnRecvcb t.conn data host) ↔
      s.getTcpn (s.espconn t.conn).key = some i := by
  refine ⟨fun h => ?_, fun hi => tcpconnRecvcb_found hi ht hup data host⟩
  obtain ⟨rest, hout⟩ := h.head
  cases hfound : s.getTcpn (s.espconn t.conn).key with
  | none =>
    have hnone : (s.use t.conn).getTcpn ((s.use t.conn).espconn t.conn).key = none := hfound
    simp only [tcpconnRecvcb, hnone] at hout
    have hhead := List.append_cancel_left hout
    exact absurd (List.cons.inj hhead).1.symm (announced_ne _ _ _ _)
  | some j =>
    obtain ⟨-, srv_n, out, hprinted⟩ := tcpconnRecvcb_held data host hfound
    have hhead := List.append_cancel_left (hprinted.symm.trans hout)
    rw [announced_inj (List.cons.inj hhead).1]

/-- Link 1 is opened and connected, then link 0 opened to the same host and port. -/
def laterFirst : Tcp :=
  Machine.run (step plainAt) [startLink1, .event (.connected 0), startLink0] (atReset (fun _ => true) 5)

/-- Link 1 is connected, and the search by its address and port gives link 0. -/
theorem laterFirst_facts : (laterFirst.tcpconns 1).map (fun t => (t.conn, t.connected)) = some (0, 1) ∧
    (laterFirst.findConnection 0).map (fun l => (l.established, l.closing)) = some (true, false) ∧
    laterFirst.getTcpn (laterFirst.espconn 0).key = some 0 := by
  decide +kernel

theorem delivers_or_aborts_iff_oneLink :
    ∃ t, oneLink.tcpconns 0 = some t ∧ ∀ data host, (DeliversOrAborts oneLink 0 t.conn data host
      (oneLink.tcpconnRecvcb t.conn data host) ↔ oneLink.getTcpn (oneLink.espconn t.conn).key = some 0) := by
  have hslot : (oneLink.tcpconns 0).map (·.connected) = some 1 := by decide +kernel
  obtain ⟨t, ht, hup⟩ := Option.map_eq_some_iff.mp hslot
  have hne : t.connected ≠ 0 := by
    rw [hup]
    decide
  exact ⟨t, ht, fun data host => delivers_or_aborts_iff oneLink 0 t ht hne data host⟩

/-- Data received on a connected link can be announced as another link's: any data, with any answers. -/
theorem not_delivers_or_aborts : ¬∀ (as : List Action) (i : LinkId) (t : TcpConn) (l : Link)
    (data : List UInt8) (host : List (Option UInt8)), ∀ s, s = Machine.run (step plainAt) as (atReset (fun _ => true) 5) →
    s.tcpconns i = some t → t.connected ≠ 0 → s.findConnection t.conn = some l →
    l.established = true → l.closing = false →
    DeliversOrAborts s i t.conn data host (s.tcpconnRecvcb t.conn data host) := by
  intro h
  obtain ⟨hslot, hlink, hfound⟩ := laterFirst_facts
  obtain ⟨t, ht, hstate⟩ := Option.map_eq_some_iff.mp hslot
  obtain ⟨l, hl, hopen⟩ := Option.map_eq_some_iff.mp hlink
  simp only [Prod.mk.injEq] at hstate hopen
  obtain ⟨hconn, hup⟩ := hstate
  have hne : t.connected ≠ 0 := by
    rw [hup]
    decide
  have hdel := h _ 1 t l [] [] laterFirst rfl ht hne (by rw [hconn]; exact hl) hopen.1 hopen.2
  have hfirst := (delivers_or_aborts_iff laterFirst 1 t ht hne [] []).mp hdel
  rw [hconn, hfound] at hfirst
  exact absurd hfirst (by decide)

end Esp8266At.Tcp
