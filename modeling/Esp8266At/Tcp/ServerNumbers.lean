import Esp8266At.Tcp.DeletedServer
import Esp8266At.Tcp.Records
import Esp8266At.Tcp.Undo

/-!
# The numbers of a server

`AT+TCPSERVER` parses 32-bit numbers and stores them in fields of 8 and 16 bits. A server has the numbers that were
given, and its clients get its timeout for as long as it exists, exactly if the timeout is in range: the test for it
looks at the number of connections (`server_keeps_numbers_iff`).
-/

namespace Esp8266At.Tcp

/-- The numbers of a server. -/
structure ServerNumbers where
  port : ℤ
  ssl : ℤ
  maxconn : ℤ
  timeout : ℤ

/-- The numbers an `AT+TCPSERVER` gives; the default where one is missing, or where it is replaced by the default. -/
def serverNumbers (lib : LibAt) (pPara : List UInt8) : ServerNumbers :=
  let p := lib.getNextIntDec pPara.tail 0
  let enable := lib.getNextIntDec p.rest.tail (-1)
  let port := serverOption lib enable.rest 333
  let ssl := serverOption lib port.2 0
  let maxconn := serverOption lib ssl.2 TCPCONN_MAX_CONN
  let tmo := serverOption lib maxconn.2 TCPSERV_CONN_TIMEOUT
  { port := if port.1 < 0 ∨ port.1 > 65535 then 333 else port.1
    ssl := if ssl.1 < 0 ∨ ssl.1 > 1 then 0 else ssl.1
    maxconn := maxconn.1
    timeout := tmo.1 }

/-- The server has these numbers, which are in range. -/
structure TcpServer.Has (srv : TcpServer) (n : ServerNumbers) : Prop where
  port : (srv.port.toNat : ℤ) = n.port
  ssl : (srv.ssl.toNat : ℤ) = n.ssl
  maxconn : (srv.maxconn.toNat : ℤ) = n.maxconn
  timeout : (srv.timeout.toNat : ℤ) = n.timeout
  maxconnRange : 1 ≤ srv.maxconn.toNat ∧ srv.maxconn.toNat ≤ 5
  timeoutRange : srv.timeout.toNat ≤ 7200

/-- If the action accepts a client of server `k`, which has block `b`, it calls `espconn_regist_time` with `timeout`. -/
def RegistersTime (lib : LibAt) (k : ServerId) (b : ℕ) (timeout : ℤ) (a : Action) (s : Tcp) : Prop :=
  ∀ srv, s.tcpservers k = some srv → srv.conn = b → ∀ i t, s.tcpconns i = none →
    (s.step lib a).tcpconns i = some t → serverOf t.parrent = some k →
    ∃ l, (s.step lib a).findConnection t.conn = some l ∧ (l.timeout.toNat : ℤ) = timeout

/-- The server that is created has its numbers, and registers its timeout for every client in every run. -/
def KeepsNumbers (lib : LibAt) (k : ServerId) (n : ServerNumbers) (t : Tcp) : Prop :=
  ∃ srv, t.tcpservers k = some srv ∧ srv.Has n ∧
    ∀ as, Machine.Along (step lib) (RegistersTime lib k srv.conn n.timeout) as t

variable {lib : LibAt} {s t : Tcp} {k : ServerId} {b : ℕ} {timeout : UInt16}

/-! ### Clients -/

/-- Block `b` is in use, and server `k` has this timeout as long as it is the one with block `b`. -/
structure HasTimeout (k : ServerId) (b : ℕ) (timeout : UInt16) (s : Tcp) : Prop where
  blocks : ∃ role, s.wiring.Blocks role
  used : b < s.nextBlock
  timeout : ∀ srv, s.tcpservers k = some srv → srv.conn = b → srv.timeout = timeout

theorem hasTimeout_of_keeps {u : Tcp} (hblocks : ∃ role, t.wiring.Blocks role) (h : HasTimeout k b timeout s)
    (hu : ∀ srv, u.tcpservers k = some srv → srv.conn = b → s.tcpservers k = some srv) (hnext : u.nextBlock = s.nextBlock)
    (hkeep : Keeps u t) : HasTimeout k b timeout t where
  blocks := hblocks
  used := by
    have := h.used
    have := hkeep.blocks
    omega
  timeout srv hsrv hconn := by
    obtain ⟨v, hv, heq⟩ := hkeep.servers k srv hsrv
    have hconn' := congrArg TcpServer.conn heq
    have htimeout := congrArg TcpServer.timeout heq
    exact htimeout.trans (h.timeout v (hu v hv (hconn'.symm.trans hconn)) (hconn'.symm.trans hconn))

theorem hasTimeout_step (a : Action) (h : HasTimeout k b timeout s) : HasTimeout k b timeout (s.step lib a) := by
  obtain ⟨role, hb⟩ := h.blocks
  have hblocks : ∃ role, (s.step lib a).wiring.Blocks role := blocks_step a h.blocks
  obtain hkeep | ⟨i, t, -, -, -, -, hkeep⟩ | ⟨j, srv, -, hconn, -, hkeep⟩ | ⟨i, t, -, -, -, -, -, -, -, -, -, hkeep⟩ :=
    adds_step lib hb a
  · exact hasTimeout_of_keeps hblocks h (fun _ hv _ => hv) rfl hkeep
  · exact hasTimeout_of_keeps (u := s.setConn i (some t)) hblocks h (fun _ hv _ => hv) rfl hkeep
  · refine hasTimeout_of_keeps (u := s.setServer j (some srv)) hblocks h (fun v hv hvb => ?_) rfl hkeep
    have hset : s.tcpservers.set j (some srv) k = some v := hv
    by_cases hj : k = j
    · -- a new server has a new block
      subst hj
      obtain rfl : srv = v := Option.some.inj (Table.set_self.symm.trans hset)
      have := h.used
      omega
    · exact (Table.set_ne hj).symm.trans hset
  · exact hasTimeout_of_keeps (u := s.setConn i (some t)) hblocks h (fun _ hv _ => hv) rfl hkeep

/-- A client of the server is new only where it is accepted. -/
theorem registersTime_of_hasTimeout (a : Action) (h : HasTimeout k b timeout s) :
    RegistersTime lib k b timeout.toNat a s := by
  intro srv hsrv hconn i t hfree ht hk
  obtain ⟨role, hb⟩ := h.blocks
  -- an entry that was free before is the one that has been added
  have added : ∀ {j : LinkId} {u : TcpConn}, Keeps (s.setConn j (some u)) (s.step lib a) →
      t.parrent = u.parrent ∧ t.conn = u.conn := by
    intro j u hkeep
    obtain ⟨v, hv, heq⟩ := hkeep.links i t ht
    have hset : s.tcpconns.set j (some u) i = some v := hv
    have hparrent := congrArg TcpConn.parrent heq
    have hconn := congrArg TcpConn.conn heq
    by_cases hij : i = j
    · subst hij
      obtain rfl : u = v := Option.some.inj (Table.set_self.symm.trans hset)
      exact ⟨hparrent, hconn⟩
    · rw [Table.set_ne hij, hfree] at hset
      cases hset
  obtain hkeep | ⟨j, u, -, htag, -, -, hkeep⟩ | ⟨j, w, -, -, -, hkeep⟩ |
    ⟨j, u, k', srv', -, htag, hsrv', -, -, htime, hfind, hkeep⟩ := adds_step lib hb a
  · obtain ⟨v, hv, -⟩ := hkeep.links i t ht
    rw [hfree] at hv
    cases hv
  · rw [(added hkeep).1, htag] at hk
    cases hk
  · obtain ⟨v, hv, -⟩ := hkeep.links i t ht
    have hnone : s.tcpconns i = some v := hv
    rw [hfree] at hnone
    cases hnone
  · obtain ⟨hparrent, hsame⟩ := added hkeep
    rw [hparrent, htag] at hk
    obtain rfl := Option.some.inj hk
    rw [hsrv] at hsrv'
    obtain rfl := Option.some.inj hsrv'
    obtain ⟨l, hl⟩ := Option.isSome_iff_exists.mp hfind
    refine ⟨l, by rw [hsame]; exact hl, ?_⟩
    rw [htime l hl, h.timeout srv hsrv hconn, UInt16.toNat_toUInt32]

/-! ### The command -/

theorem timeout_le_of_keeps {n : ServerNumbers} (h : KeepsNumbers lib k n t) : n.timeout ≤ 7200 := by
  obtain ⟨srv, -, hhas, -⟩ := h
  have := hhas.timeout
  have := hhas.timeoutRange
  omega

/-- The numbers of the command are those given, and the tests of the command but for that of the timeout hold. -/
theorem serverParams_numbers {pPara : List UInt8} {p : ServerParams} (h : serverParams lib pPara = some p) :
    let n := serverNumbers lib pPara
    (p.port = UInt16.ofInt n.port ∧ p.ssl = UInt8.ofInt n.ssl ∧ p.maxconn = UInt8.ofInt n.maxconn ∧
      p.timeout = UInt16.ofInt n.timeout) ∧
    (0 ≤ n.port ∧ n.port ≤ 65535) ∧ (0 ≤ n.ssl ∧ n.ssl ≤ 1) ∧ (1 ≤ n.maxconn ∧ n.maxconn ≤ 5) ∧ 0 ≤ n.timeout := by
  have missing : ∀ (rest : List UInt8) (dflt : ℤ), charAt rest ≠ COMMA → (serverOption lib rest dflt).1 = dflt := by
    intro rest dflt hrest
    unfold serverOption
    rw [if_neg hrest]
  simp only [serverParams] at h
  simp only [serverNumbers]
  generalize serverOption lib _ 333 = port at h ⊢
  generalize serverOption lib port.2 0 = ssl at h ⊢
  have hmaxconn := missing ssl.2 TCPCONN_MAX_CONN
  generalize serverOption lib ssl.2 TCPCONN_MAX_CONN = maxconn at h hmaxconn ⊢
  have htimeout := missing maxconn.2 TCPSERV_CONN_TIMEOUT
  generalize serverOption lib maxconn.2 TCPSERV_CONN_TIMEOUT = tmo at h htimeout ⊢
  generalize hport : (if port.1 < 0 ∨ port.1 > 65535 then 333 else port.1) = givenPort at h ⊢
  generalize hssl : (if ssl.1 < 0 ∨ ssl.1 > 1 then 0 else ssl.1) = givenSsl at h ⊢
  split_ifs at h with h₁ h₂ h₃ h₄ h₅ hmaxconn' htimeout' h₈
  obtain rfl := Option.some.inj h
  refine ⟨⟨rfl, rfl, rfl, rfl⟩, ?_, ?_, ?_, ?_⟩
  · split_ifs at hport <;> omega
  · split_ifs at hssl <;> omega
  · by_cases hgiven : charAt ssl.2 = COMMA
    · have hrange : ¬(maxconn.1 < 1 ∨ maxconn.1 > 5) := fun hout => hmaxconn' ⟨hgiven, hout⟩
      omega
    · have hdefault : maxconn.1 = 5 := hmaxconn hgiven
      omega
  · by_cases hgiven : charAt maxconn.2 = COMMA
    · have hrange : ¬(tmo.1 < 0 ∨ maxconn.1 > 7200) := fun hout => htimeout' ⟨hgiven, hout⟩
      omega
    · have hdefault : tmo.1 = 120 := htimeout hgiven
      omega

theorem toNat_ofInt16 (z : ℤ) : ((UInt16.ofInt z).toNat : ℤ) = z % 65536 := by
  simp only [UInt16.ofInt, UInt16.toNat_ofNat']
  omega

theorem toNat_ofInt8 (z : ℤ) : ((UInt8.ofInt z).toNat : ℤ) = z % 256 := by
  simp only [UInt8.ofInt, UInt8.toNat_ofNat']
  omega

/-- A server that is answered `OK` is in the table. -/
theorem created_of_answers {pPara : List UInt8} {result : Int8} {p : ServerParams} (hp : serverParams lib pPara = some p)
    (henable : p.enable = 1) (hok : Answered .ok s (s.step lib (.command (.server pPara result)))) :
    (s.step lib (.command (.server pPara result))).tcpservers p.srvN = some (p.tcpserver s.nextBlock) ∧
      s.nextBlock < (s.step lib (.command (.server pPara result))).nextBlock := by
  have hstep : s.step lib (.command (.server pPara result)) =
      if s.crashed then s else if s.busy then s else s.tcpServerCreate p result := by
    simp only [step, command, atSetupCmdTCPServer, hp]
    rw [if_pos henable]
  rw [hstep] at hok ⊢
  split_ifs at hok ⊢ with hcrashed hbusy
  · exact absurd hok Answered.self
  · exact absurd hok Answered.self
  · have refused : ∀ u : Tcp, u.out = s.out → ¬Answered .ok s u.responseError := by
      intro u hu h
      have hout : u.responseError.out = s.out ++ ([] ++ [.error]) := by simp [responseError, hu]
      cases Answered.eq h hout
    cases hk : s.tcpservers p.srvN with
    | some srv =>
      have hused : s.tcpServerCreate p result = s.responseError := if_pos (by rw [hk]; rfl)
      rw [hused] at hok
      exact absurd hok (refused s rfl)
    | none =>
      obtain ⟨heap, hheap⟩ := s.zallocs_eq 3
      rw [tcpServerCreate_free hk, hheap] at hok ⊢
      by_cases hz : (s.zallocs 3).1 = true
      · rw [if_pos hz]
        obtain ⟨-, hservers, hnext⟩ := startServer_tables { s with heap := heap } p result
        rw [hservers, hnext]
        exact ⟨Table.set_self, Nat.lt_succ_self _⟩
      · rw [if_neg hz] at hok
        exact absurd hok (refused _ rfl)

/-- **`AT+TCPSERVER` keeps the numbers it accepts**, exactly if the timeout is in range. -/
theorem server_keeps_numbers_iff {as : List Action} {heap : ℕ → Bool} {numTcpPcb : ℕ} {pPara : List UInt8}
    {result : Int8} {p : ServerParams} (hs : Machine.run (step lib) as (atReset heap numTcpPcb) = s)
    (hp : serverParams lib pPara = some p) (henable : p.enable = 1)
    (hok : Answered .ok s (s.step lib (.command (.server pPara result)))) :
    KeepsNumbers lib p.srvN (serverNumbers lib pPara) (s.step lib (.command (.server pPara result))) ↔
      (serverNumbers lib pPara).timeout ≤ 7200 := by
  obtain ⟨⟨hport, hssl, hmaxconn, htimeout⟩, hportRange, hsslRange, hmaxconnRange, htimeoutRange⟩ :=
    serverParams_numbers hp
  generalize serverNumbers lib pPara = n at *
  obtain ⟨hcreated, hnext⟩ := created_of_answers hp henable hok
  have hblocks : ∃ role, s.wiring.Blocks role := by
    rw [← hs]
    exact blocks_run lib as heap numTcpPcb
  have hblocks' : ∃ role, (s.step lib (.command (.server pPara result))).wiring.Blocks role := blocks_step _ hblocks
  generalize s.step lib (.command (.server pPara result)) = t at *
  constructor
  · exact timeout_le_of_keeps
  · intro hle
    have htime : (p.timeout.toNat : ℤ) = n.timeout := by
      rw [htimeout, toNat_ofInt16]
      omega
    have hports : (p.port.toNat : ℤ) = n.port := by
      rw [hport, toNat_ofInt16]
      omega
    have hssls : (p.ssl.toNat : ℤ) = n.ssl := by
      rw [hssl, toNat_ofInt8]
      omega
    have hconns : (p.maxconn.toNat : ℤ) = n.maxconn := by
      rw [hmaxconn, toNat_ofInt8]
      omega
    refine ⟨p.tcpserver s.nextBlock, hcreated, ⟨hports, hssls, hconns, htime, ?_, ?_⟩, fun as => ?_⟩
    · show 1 ≤ p.maxconn.toNat ∧ p.maxconn.toNat ≤ 5
      omega
    · show p.timeout.toNat ≤ 7200
      omega
    · have hstart : HasTimeout p.srvN s.nextBlock p.timeout t := by
        refine ⟨hblocks', hnext, fun srv hsrv _ => ?_⟩
        rw [hcreated] at hsrv
        obtain rfl := Option.some.inj hsrv
        rfl
      rw [← htime]
      exact Machine.along_of_invariant (fun a _ h => hasTimeout_step a h)
        (fun a _ h => registersTime_of_hasTimeout a h) hstart

/-- A server with a timeout of 5 seconds, or of 70000. -/
def serverWithTimeout (timeout : String) : List UInt8 := CString.ascii s!"=0,1,333,0,5,{timeout}\r"

theorem serverWithTimeout_facts :
    serverParams plainAt (serverWithTimeout "5") = some ⟨0, 1, 333, 0, 5, 5⟩ ∧
      (serverNumbers plainAt (serverWithTimeout "5")).timeout = 5 ∧
      serverParams plainAt (serverWithTimeout "70000") = some ⟨0, 1, 333, 0, 5, 4464⟩ ∧
      (serverNumbers plainAt (serverWithTimeout "70000")).timeout = 70000 :=
  ⟨rfl, rfl, rfl, rfl⟩

theorem server_keeps_numbers_five :
    KeepsNumbers plainAt 0 (serverNumbers plainAt (serverWithTimeout "5"))
      ((atReset (fun _ => true) 5).step plainAt (.command (.server (serverWithTimeout "5") 0))) := by
  obtain ⟨hp, htimeout, -⟩ := serverWithTimeout_facts
  have hok : Answered .ok (atReset (fun _ => true) 5)
      ((atReset (fun _ => true) 5).step plainAt (.command (.server (serverWithTimeout "5") 0))) := by
    refine ⟨[], ?_⟩
    simp only [step, command, atSetupCmdTCPServer, hp]
    rfl
  have hreset : Machine.run (step plainAt) [] (atReset (fun _ => true) 5) = atReset (fun _ => true) 5 := rfl
  refine (server_keeps_numbers_iff hreset hp rfl hok).mpr ?_
  rw [htimeout]
  decide

/-- A timeout that was given is accepted, and another is stored. -/
theorem stored_timeout :
    ∃ p, serverParams plainAt (serverWithTimeout "70000") = some p ∧ p.enable = 1 ∧
      Answered .ok (atReset (fun _ => true) 5)
        ((atReset (fun _ => true) 5).step plainAt (.command (.server (serverWithTimeout "70000") 0))) ∧
      (serverNumbers plainAt (serverWithTimeout "70000")).timeout = 70000 ∧ p.timeout = 4464 ∧
      ¬KeepsNumbers plainAt p.srvN (serverNumbers plainAt (serverWithTimeout "70000"))
        ((atReset (fun _ => true) 5).step plainAt (.command (.server (serverWithTimeout "70000") 0))) := by
  obtain ⟨-, -, hp, htimeout⟩ := serverWithTimeout_facts
  refine ⟨_, hp, rfl, ⟨[], ?_⟩, htimeout, rfl, fun hkeeps => ?_⟩
  · simp only [step, command, atSetupCmdTCPServer, hp]
    rfl
  · have hle := timeout_le_of_keeps hkeeps
    rw [htimeout] at hle
    exact absurd hle (by decide)

end Esp8266At.Tcp
