import Esp8266At.Tcp.Network
import Esp8266At.Tcp.WiringSteps

/-!
# Failed commands

`AT+TCPSTART` and `AT+TCPSERVER` allocate three blocks and enter them in a table before the operation that can still
fail. What a failed command has done is undone on every way out but one, that of a server whose `espconn_accept`
fails (`failed_leaves_no_trace_iff`).
-/

namespace Esp8266At.Tcp

/-! ### Blocks -/

/-- The blocks of a link or a server: its structure, its `espconn` and its `esp_tcp`. -/
inductive Piece where
  | record
  | espconn
  | espTcp
  deriving DecidableEq

/-- A call of `os_zalloc` that succeeds, or of `os_free`. -/
inductive HeapOp where
  | alloc (p : Piece)
  | free (p : Piece)
  deriving DecidableEq

/-- The blocks that are allocated and not freed. -/
def held (ops : List HeapOp) : List Piece :=
  ops.foldl (fun ps op => match op with | .alloc p => p :: ps | .free p => ps.erase p) []

section
variable (s : Tcp)

/-- The allocations of both commands, with what is freed where one fails. -/
def allocations : List HeapOp :=
  if s.heap 0 = false then []
  else if s.heap 1 = false then [.alloc .record, .free .record]
  else if s.heap 2 = false then [.alloc .record, .alloc .espconn, .free .espconn, .free .record]
  else [.alloc .record, .alloc .espconn, .alloc .espTcp]

/-- `tcpconn_cleanup`. -/
def cleanupFrees : List HeapOp := [.free .espTcp, .free .espconn, .free .record]

/-- A command that opens a link or creates a server. -/
inductive OpenCommand where
  | start (pPara : List UInt8) (lookup : LookupResult) (port : UInt16) (result : Int8)
  | server (pPara : List UInt8) (result : Int8)

def OpenCommand.command : OpenCommand → Command
  | .start pPara lookup port result => .start pPara lookup port result
  | .server pPara result => .server pPara result

/-- What a command does with its blocks until it returns. -/
def heapOps (lib : LibAt) : OpenCommand → List HeapOp
  | .start pPara lookup _ _ =>
    match startParams lib pPara s.tcpconns with
    | .error _ => []
    | .ok _ => s.allocations ++ if (s.zallocs 3).1 = true ∧ lookup = .failed then cleanupFrees else []
  | .server pPara _ =>
    match serverParams lib pPara with
    | none => []
    | some p => if p.enable = 1 ∧ s.tcpservers p.srvN = none then s.allocations else []

end

/-! ### What a failed command leaves -/

/-- The command itself has answered `a`. -/
def Answered (a : Output) (s t : Tcp) : Prop := ∃ texts, t.out = s.out ++ (texts ++ [a])

/-- The tables and the busy state are as before, and every block has been freed. -/
structure LeavesNoTrace (ops : List HeapOp) (s t : Tcp) : Prop where
  conns : t.tcpconns = s.tcpconns
  servers : t.tcpservers = s.tcpservers
  busy : t.busy = s.busy
  freed : held ops = []

/-- A server is created whose `espconn_accept` fails. -/
def AcceptFails (lib : LibAt) (s : Tcp) : OpenCommand → Prop
  | .start _ _ _ _ => False
  | .server pPara result => ∃ p, serverParams lib pPara = some p ∧ p.enable = 1 ∧ s.tcpservers p.srvN = none ∧
      (s.zallocs 3).1 = true ∧ p.ssl = 0 ∧ result ≠ 0

variable {lib : LibAt} {s t : Tcp} {a b : Output}

theorem Answered.self : ¬Answered a s s := by
  rintro ⟨texts, h⟩
  have := congrArg List.length h
  simp at this

theorem Answered.eq (h : Answered a s t) {texts : List Output} (ht : t.out = s.out ++ (texts ++ [b])) : a = b := by
  obtain ⟨texts', h⟩ := h
  have hall := List.append_cancel_left (h.symm.trans ht)
  have hlast := congrArg List.getLast? hall
  simpa using hlast

/-- Three allocations, one by one. -/
theorem zallocs_three (s : Tcp) : (s.zallocs 3).1 = (s.heap 0 && s.heap 1 && s.heap 2) := by
  simp only [zallocs, zalloc]
  cases s.heap 0 with
  | false => rfl
  | true =>
    simp only
    cases s.heap (0 + 1) with
    | false => rfl
    | true => rfl

theorem held_allocations (h : (s.zallocs 3).1 = false) : held s.allocations = [] := by
  rw [zallocs_three] at h
  unfold allocations
  split_ifs with h0 h1 h2
  · rfl
  · rfl
  · rfl
  · simp_all

theorem allocations_all (h : (s.zallocs 3).1 = true) :
    s.allocations = [.alloc .record, .alloc .espconn, .alloc .espTcp] := by
  rw [zallocs_three] at h
  unfold allocations
  split_ifs with h0 h1 h2
  · simp_all
  · simp_all
  · simp_all
  · rfl

/-! ### `AT+TCPSTART` -/

/-- A name that is found for the block of a link is not answered. -/
theorem tcpconnResolved_out {c : ℕ} {i : LinkId} {t : TcpConn} (ht : s.tcpconns i = some t)
    (hparrent : t.parrent = (s.espconn c).parrent) (ip : Ip) (port : UInt16) (result : Int8) :
    (s.tcpconnResolved c (some ip) port result).out = s.out := by
  unfold tcpconnResolved
  cases hi : (s.use c).tcpconns.firstWhere fun t => t.parrent = ((s.use c).espconn c).parrent with
  | none =>
    have hnone := Table.firstWhere_none hi (show (s.use c).tcpconns i = some t from ht)
    exact absurd hparrent (of_decide_eq_false hnone)
  | some j =>
    obtain ⟨u, hu, -⟩ := Table.firstWhere_some hi
    simp only [hi, hu, linkResolved, connect_eq]
    obtain ⟨espconn, plinkActive, hconnect⟩ := startConnection_eq _ _ _ _
    rw [hconnect]
    rfl

theorem tcpconnCleanup_some {i : LinkId} {t : TcpConn} (ht : s.tcpconns i = some t) :
    s.tcpconnCleanup i = ((s.use t.conn).release t.conn .tcpconnCleanup).setConn i none := by
  unfold tcpconnCleanup
  rw [ht]

/-- The part after the allocations answers an error itself only if the lookup fails. -/
theorem startLink_leaves {p : StartParams} (hfree : s.tcpconns p.connNo = none) (hbusy : s.busy = false)
    {lookup : LookupResult} {port : UInt16} {result : Int8} (h : Answered .error s (s.startLink p lookup port result)) :
    lookup = .failed ∧ (s.startLink p lookup port result).tcpconns = s.tcpconns ∧
      (s.startLink p lookup port result).tcpservers = s.tcpservers ∧
      (s.startLink p lookup port result).busy = s.busy := by
  cases lookup with
  | ok ip =>
    exfalso
    simp only [startLink] at h
    have hout := tcpconnResolved_out (s := (((s.create { Espconn.zero with
      parrent := (p.tcpconn s.nextBlock).parrent }).setConn p.connNo (some (p.tcpconn s.nextBlock))).atEnterSpecialState.setConn
        p.connNo (some { p.tcpconn s.nextBlock with ip := ip }))) (c := s.nextBlock) (i := p.connNo)
        (Table.set_self) (by simp [create, setBlock, setConn, atEnterSpecialState]) ip port result
    refine Answered.self (s := s) (a := .error) ?_
    obtain ⟨texts, htexts⟩ := h
    exact ⟨texts, hout.symm.trans htexts⟩
  | inprogress => exact absurd h Answered.self
  | failed =>
    set u := ((s.create { Espconn.zero with parrent := (p.tcpconn s.nextBlock).parrent }).setConn p.connNo
      (some (p.tcpconn s.nextBlock))).atEnterSpecialState
    have hu : u.tcpconns p.connNo = some (p.tcpconn s.nextBlock) := Table.set_self
    have hstart : s.startLink p .failed port result =
        (((u.tcpconnCleanup p.connNo).atLeaveSpecialState).print "\r\n+TCPSTART:resolveError\r\n").responseError := rfl
    have hundone : u.tcpconns.set p.connNo none = s.tcpconns := by
      show (s.tcpconns.set p.connNo _).set p.connNo none = s.tcpconns
      rw [Table.set, Table.set, Function.update_idem, ← hfree, Function.update_eq_self]
    rw [hstart, tcpconnCleanup_some hu]
    exact ⟨rfl, hundone, rfl, hbusy.symm⟩

theorem start_leaves (hbusy : s.busy = false) (pPara : List UInt8) (lookup : LookupResult) (port : UInt16) (result : Int8)
    (h : Answered .error s (s.atSetupCmdTCPConnConnect lib pPara lookup port result)) :
    LeavesNoTrace (s.heapOps lib (.start pPara lookup port result)) s
      (s.atSetupCmdTCPConnConnect lib pPara lookup port result) := by
  cases hp : startParams lib pPara s.tcpconns with
  | error e =>
    have hops : s.heapOps lib (.start pPara lookup port result) = [] := by simp only [heapOps, hp]
    rw [hops]
    cases e with
    | none => exact ⟨by simp only [atSetupCmdTCPConnConnect, hp]; rfl, by simp only [atSetupCmdTCPConnConnect, hp]; rfl,
        by simp only [atSetupCmdTCPConnConnect, hp]; rfl, rfl⟩
    | some m => exact ⟨by simp only [atSetupCmdTCPConnConnect, hp]; rfl, by simp only [atSetupCmdTCPConnConnect, hp]; rfl,
        by simp only [atSetupCmdTCPConnConnect, hp]; rfl, rfl⟩
  | ok p =>
    obtain ⟨heap, hheap⟩ := s.zallocs_eq 3
    have hops : s.heapOps lib (.start pPara lookup port result) =
        s.allocations ++ if (s.zallocs 3).1 = true ∧ lookup = .failed then cleanupFrees else [] := by
      simp only [heapOps, hp]
    have hcommand : s.atSetupCmdTCPConnConnect lib pPara lookup port result = if (s.zallocs 3).1 = true then
        (s.zallocs 3).2.startLink p lookup port result
      else ((s.zallocs 3).2.print "\r\n+TCPSTART:zallocError\r\n").responseError := by
      simp only [atSetupCmdTCPConnConnect, hp]
      generalize s.zallocs 3 = r
      obtain ⟨ok, u⟩ := r
      cases ok <;> rfl
    rw [hops]
    rw [hcommand, hheap] at h ⊢
    by_cases hz : (s.zallocs 3).1 = true
    · rw [if_pos hz] at h ⊢
      obtain ⟨rfl, hconns, hservers, hbusy'⟩ :=
        startLink_leaves (s := { s with heap := heap }) (startParams_ok hp) hbusy h
      rw [if_pos ⟨hz, rfl⟩, allocations_all hz]
      exact ⟨hconns, hservers, hbusy', rfl⟩
    · rw [if_neg hz, if_neg (fun hboth => hz hboth.1), List.append_nil]
      exact ⟨rfl, rfl, rfl, held_allocations (by simpa using hz)⟩

/-! ### `AT+TCPSERVER` -/

/-- A server that is created answers `OK` unless `espconn_accept` fails. -/
theorem startServer_answers (p : ServerParams) (result : Int8) : ∃ texts,
    (s.startServer p result).out = s.out ++ (texts ++ [if p.ssl = 0 ∧ result ≠ 0 then .error else .ok]) := by
  simp only [startServer, espconnAccept]
  by_cases hresult : result = 0
  · rw [if_pos hresult, if_neg (fun h => h.2 rfl), if_neg (fun h => h.2 hresult)]
    exact ⟨[], rfl⟩
  · rw [if_neg hresult]
    by_cases hssl : p.ssl = 0
    · rw [if_pos ⟨hssl, hresult⟩, if_pos ⟨hssl, hresult⟩]
      exact ⟨[_], by simp [responseError, print]; rfl⟩
    · rw [if_neg (fun h => hssl h.1), if_neg (fun h => hssl h.1)]
      exact ⟨[], rfl⟩

theorem tcpServerDelete_out {k : ServerId} {srv : TcpServer} (hk : s.tcpservers k = some srv) :
    (s.tcpServerDelete k).out = s.out ++ ([] ++ [.ok]) := by
  obtain ⟨misused, espconn, plinkActive, hclose⟩ := s.closeClients_eq k (List.finRange TCPCONN_MAX_CONN)
  unfold tcpServerDelete
  simp only [hk, hclose, espconnDelete]
  split_ifs <;> rfl

/-- A new server, up to its `espconn_accept`. -/
theorem tcpServerCreate_free {p : ServerParams} (hfree : s.tcpservers p.srvN = none) (result : Int8) :
    s.tcpServerCreate p result = if (s.zallocs 3).1 = true then (s.zallocs 3).2.startServer p result
      else (s.zallocs 3).2.responseError := by
  unfold tcpServerCreate
  rw [hfree, if_neg (by simp)]
  generalize s.zallocs 3 = r
  obtain ⟨ok, u⟩ := r
  cases ok <;> rfl

theorem server_leaves (pPara : List UInt8) (result : Int8) (hnot : ¬AcceptFails lib s (.server pPara result))
    (h : Answered .error s (s.atSetupCmdTCPServer lib pPara result)) :
    LeavesNoTrace (s.heapOps lib (.server pPara result)) s (s.atSetupCmdTCPServer lib pPara result) := by
  cases hp : serverParams lib pPara with
  | none =>
    simp only [atSetupCmdTCPServer, heapOps, hp]
    exact ⟨rfl, rfl, rfl, rfl⟩
  | some p =>
    simp only [atSetupCmdTCPServer, heapOps, hp] at h ⊢
    by_cases henable : p.enable = 1
    · rw [if_pos henable] at h ⊢
      cases hk : s.tcpservers p.srvN with
      | some srv =>
        rw [if_neg (by simp)]
        have hused : s.tcpServerCreate p result = s.responseError := if_pos (by rw [hk]; rfl)
        rw [hused]
        exact ⟨rfl, rfl, rfl, rfl⟩
      | none =>
        obtain ⟨heap, hheap⟩ := s.zallocs_eq 3
        rw [if_pos ⟨henable, rfl⟩]
        rw [tcpServerCreate_free hk, hheap] at h ⊢
        by_cases hz : (s.zallocs 3).1 = true
        · rw [if_pos hz] at h
          obtain ⟨texts, hout⟩ := startServer_answers (s := { s with heap := heap }) p result
          have hfails := Answered.eq h hout
          split_ifs at hfails with haccept
          exact absurd ⟨p, hp, henable, hk, hz, haccept⟩ hnot
        · rw [if_neg hz]
          exact ⟨rfl, rfl, rfl, held_allocations (by simpa using hz)⟩
    · rw [if_neg henable] at h ⊢
      rw [if_neg (fun hboth => henable hboth.1)]
      cases hk : s.tcpservers p.srvN with
      | some srv => exact absurd (Answered.eq h (tcpServerDelete_out hk)) (by decide)
      | none =>
        have hmissing : s.tcpServerDelete p.srvN = s.responseError := by
          unfold tcpServerDelete
          rw [hk]
        rw [hmissing]
        exact ⟨rfl, rfl, rfl, rfl⟩

/-- A server whose `espconn_accept` fails is left behind. -/
theorem acceptFails_leaves {pPara : List UInt8} {result : Int8} (h : AcceptFails lib s (.server pPara result)) :
    Answered .error s (s.atSetupCmdTCPServer lib pPara result) ∧ held (s.heapOps lib (.server pPara result)) ≠ [] := by
  obtain ⟨p, hp, henable, hk, hz, haccept⟩ := h
  obtain ⟨heap, hheap⟩ := s.zallocs_eq 3
  constructor
  · simp only [atSetupCmdTCPServer, hp]
    rw [if_pos henable, tcpServerCreate_free hk, hheap, if_pos hz]
    obtain ⟨texts, hout⟩ := startServer_answers (s := { s with heap := heap }) p result
    rw [if_pos haccept] at hout
    exact ⟨texts, hout⟩
  · simp only [heapOps, hp]
    rw [if_pos ⟨henable, hk⟩, allocations_all hz]
    decide

/-- **A failed command leaves no trace**, exactly if it does not create a server whose `espconn_accept` fails. -/
theorem failed_leaves_no_trace_iff (lib : LibAt) (s : Tcp) (hbusy : s.busy = false) (c : OpenCommand) :
    (Answered .error s (s.command lib c.command) → LeavesNoTrace (s.heapOps lib c) s (s.command lib c.command)) ↔
      ¬AcceptFails lib s c := by
  cases c with
  | start pPara lookup port result =>
    constructor
    · exact fun _ h => h
    · exact fun _ h => start_leaves hbusy pPara lookup port result h
  | server pPara result =>
    constructor
    · intro h hfails
      obtain ⟨hanswer, hheld⟩ := acceptFails_leaves hfails
      exact hheld (h hanswer).freed
    · exact fun hnot h => server_leaves pPara result hnot h

/-- `ESPCONN_ISCONN`. -/
def refusedServer : OpenCommand := .server (CString.ascii "=0,1,80\r") (-15)

theorem refusedServer_facts : AcceptFails plainAt (atReset (fun _ => true) 5) refusedServer :=
  ⟨⟨0, 1, 80, 0, 5, 120⟩, rfl, rfl, rfl, rfl, rfl, by decide⟩

theorem failed_leaves_no_trace_refusedServer :
    (Answered .error (atReset (fun _ => true) 5) ((atReset (fun _ => true) 5).command plainAt refusedServer.command) →
      LeavesNoTrace ((atReset (fun _ => true) 5).heapOps plainAt refusedServer) (atReset (fun _ => true) 5)
        ((atReset (fun _ => true) 5).command plainAt refusedServer.command)) ↔
      ¬AcceptFails plainAt (atReset (fun _ => true) 5) refusedServer :=
  failed_leaves_no_trace_iff plainAt _ rfl refusedServer

/-- The server stays in its table, and its blocks stay allocated. -/
theorem not_failed_leaves_no_trace : ¬∀ (s : Tcp) (c : OpenCommand), s.busy = false →
    Answered .error s (s.command plainAt c.command) → LeavesNoTrace (s.heapOps plainAt c) s (s.command plainAt c.command) := by
  intro h
  obtain ⟨hanswer, hheld⟩ := acceptFails_leaves refusedServer_facts
  exact hheld (h _ refusedServer rfl hanswer).freed

end Esp8266At.Tcp
