import Esp8266At.Messages
import Esp8266At.Tcp.Tags

/-!
# The reports of the tables

`AT+TCPSERVER?` and `AT+TCPSTATUS`, against the lines that show the tables (`ShowsTables`). The line of a client
is formatted without its first argument, the link id, so that the address of `ip_addr` is printed in its place:
the reports show the tables exactly while no link has the tag of an open server (`shows_tables_iff`).
-/

namespace Esp8266At.Tcp

open Printf

/-- What `os_sprintf` takes for the fields of a client: the address of `ip_addr`, which is on the stack in the
data RAM, the string at an address, and the word in the place of the third argument. -/
structure ClientFields where
  ipAddr : UInt32
  inDataRam : 0x3FFE8000 ≤ ipAddr ∧ ipAddr < 0x40000000
  stringAt : UInt16 → List UInt8
  third : Int32

theorem stack_inDataRam : (0x3FFE8000 : UInt32) ≤ 0x3FFFFD00 ∧ (0x3FFFFD00 : UInt32) < 0x40000000 := by decide

instance : Inhabited ClientFields := ⟨⟨0x3FFFFD00, stack_inDataRam, fun _ => [], 0⟩⟩

section
variable (s : Tcp)

/-- `os_sprintf` and `at_port_print`. -/
def printMessage (m : Message) : Tcp := s.print (String.ofList (sprintf m.pieces))

/-- The loop body for the clients of server `srv_n`. The text of the address, in `ip_addr`, is not printed. -/
def reportClient (fields : ClientFields) (srv_n : ServerId) (tcp_n : LinkId) : Tcp :=
  match s.tcpconns tcp_n with
  | none => s
  | some t =>
    if serverOf t.parrent = some srv_n then
      let s := s.use t.conn
      let remote_port := (s.espconn t.conn).remotePort
      s.printMessage (.client fields.ipAddr remote_port (fields.stringAt remote_port) fields.third)
    else s

/-- The loop body for the servers. -/
def reportServer (fields : ClientFields) (srv_n : ServerId) : Tcp :=
  match s.tcpservers srv_n with
  | none => s
  | some srv =>
    (List.finRange TCPCONN_MAX_CONN).foldl (fun s tcp_n => s.reportClient fields srv_n tcp_n)
      (s.printMessage (.server (UInt8.ofNat srv_n.val) srv))

def atQueryCmdTCPServer (fields : ClientFields) : Tcp :=
  let n : UInt8 := (List.finRange TCPCONN_MAX_SERV).foldl
    (fun n srv_n => if (s.tcpservers srv_n).isSome then n + 1 else n) 0
  let s := s.printMessage (.serverCount n)
  let s := if n > 0 then
      (List.finRange TCPCONN_MAX_SERV).foldl (fun s srv_n => s.reportServer fields srv_n) s
    else s
  s.responseOk

/-- The loop body for the links. -/
def reportLink (n : LinkId) : Tcp :=
  match s.tcpconns n with
  | none => s
  | some t =>
    let is_server : UInt8 := if (serverOf t.parrent).isSome then 1 else 0
    let s := s.use t.conn
    s.printMessage (.linkStatus (UInt8.ofNat n.val) (s.espconn t.conn).remoteIp t.port
      (s.espconn t.conn).remotePort is_server)

/-- `at_queryCmdTCPStatus`, with what `wifi_get_opmode` returns. -/
def atQueryCmdTCPStatus (opmode : UInt8) : Tcp :=
  let wifi_mode := opmode &&& 1
  let found := (s.tcpconns.firstWhere fun t => t.connected ≠ 0).isSome
  let status : UInt8 := if wifi_mode = 0 then 5 else if found then 3 else 2
  let s := s.printMessage (.status status)
  let s := if status = 3 then (List.finRange TCPCONN_MAX_CONN).foldl (fun s n => s.reportLink n) s else s
  s.responseOk

end

/-! ### The lines that show the tables -/

def line (pieces : List Piece) : String := String.ofList (sprintf pieces)

/-- The lines about the links: those that `row` gives. -/
def linkLines (tcpconns : Table TCPCONN_MAX_CONN TcpConn) (row : LinkId → TcpConn → Option (List Piece)) :
    List String :=
  (List.finRange TCPCONN_MAX_CONN).filterMap fun i => ((tcpconns i).bind (row i)).map line

/-- A line for each server, with those of its clients after it. -/
def serverLines (s : Tcp) (clientRow : ServerId → TcpServer → LinkId → TcpConn → Option (List Piece)) :
    List String :=
  (List.finRange TCPCONN_MAX_SERV).flatMap fun k => (s.tcpservers k).elim [] fun srv =>
    line (Message.server (UInt8.ofNat k.val) srv).pieces :: linkLines s.tcpconns (clientRow k srv)

/-- `+TCPCLIENT:link_id,"IP_addr",port`. -/
def clientPieces (i : LinkId) (c : Espconn) : List Piece :=
  [.text "+TCPCLIENT:", .u8 (UInt8.ofNat i.val), .text ",\""] ++ ipPieces c.remoteIp ++
    [.text "\",", .u16 c.remotePort, .text "\r\n"]

namespace Traced

variable (x : Traced)

/-- The line of a link that was accepted by server `k`, which is `srv`. -/
def clientRow (k : ServerId) (srv : TcpServer) (i : LinkId) (t : TcpConn) : Option (List Piece) :=
  if x.origin t.conn = .client k srv.conn then some (clientPieces i (x.tcp.espconn t.conn)) else none

/-- The number of servers, and a line for each of them and for each of its clients. -/
def serverReport : List String :=
  line (Message.serverCount (UInt8.ofNat (x.tcp.tcpservers.count fun _ => true))).pieces ::
    serverLines x.tcp x.clientRow

/-- Whether a link belongs to a server. -/
def isServer (t : TcpConn) : UInt8 :=
  match x.origin t.conn with
  | .client _ _ => 1
  | _ => 0

def linkRow (i : LinkId) (t : TcpConn) : Option (List Piece) :=
  let c := x.tcp.espconn t.conn
  some (Message.linkStatus (UInt8.ofNat i.val) c.remoteIp t.port c.remotePort (x.isServer t)).pieces

/-- Some link is connected, in station mode. -/
def StationConnected (opmode : UInt8) : Prop :=
  opmode &&& 1 = 1 ∧ ∃ i t, x.tcp.tcpconns i = some t ∧ t.connected ≠ 0

/-- Both reports are the lines that show the tables, and `OK`. -/
structure ShowsTables (fields : ClientFields) (opmode : UInt8) : Prop where
  servers : (x.tcp.atQueryCmdTCPServer fields).out = x.tcp.out ++ x.serverReport.map .text ++ [.ok]
  /-- `STATUS:3` and the links, or another status. -/
  status : ∃ status : UInt8, (status = 3 ↔ x.StationConnected opmode) ∧
    (x.tcp.atQueryCmdTCPStatus opmode).out = x.tcp.out ++
      (line (Message.status status).pieces ::
        if status = 3 then linkLines x.tcp.tcpconns x.linkRow else []).map .text ++ [.ok]

/-- No link in the table has the tag of an open server. -/
def NoClients : Prop :=
  ∀ i t k, x.tcp.tcpconns i = some t → serverOf t.parrent = some k → x.tcp.tcpservers k = none

end Traced

/-! ### What is printed -/

/-- `rows` have been printed, and nothing has changed in the tables and the blocks. -/
structure Printed (rows : List String) (s t : Tcp) : Prop where
  out : t.out = s.out ++ rows.map .text
  tcpconns : t.tcpconns = s.tcpconns
  tcpservers : t.tcpservers = s.tcpservers
  espconn : t.espconn = s.espconn

namespace Printed

variable {s t u : Tcp} {rows rows' : List String}

theorem refl (s : Tcp) : Printed [] s s := ⟨by simp, rfl, rfl, rfl⟩

theorem trans (h : Printed rows s t) (h' : Printed rows' t u) : Printed (rows ++ rows') s u where
  out := by rw [h'.out, h.out, List.map_append, List.append_assoc]
  tcpconns := h'.tcpconns.trans h.tcpconns
  tcpservers := h'.tcpservers.trans h.tcpservers
  espconn := h'.espconn.trans h.espconn

theorem message (s : Tcp) (m : Message) : Printed [line m.pieces] s (s.printMessage m) := ⟨rfl, rfl, rfl, rfl⟩

theorem use_message (s : Tcp) (c : ℕ) (m : Message) : Printed [line m.pieces] s ((s.use c).printMessage m) :=
  ⟨rfl, rfl, rfl, rfl⟩

/-- A loop prints what its rounds print, where that depends on the tables and the blocks only. -/
theorem foldl {α : Type} {f : Tcp → α → Tcp} {rows : α → List String} (xs : List α)
    (hf : ∀ (a : α) (u : Tcp) (r : List String), Printed r s u → Printed (rows a) u (f u a)) {r : List String}
    (h : Printed r s t) : Printed (xs.flatMap rows) t (xs.foldl f t) := by
  induction xs generalizing t r with
  | nil => exact refl t
  | cons a xs ih =>
    have ha := hf a t r h
    exact ha.trans (ih (h.trans ha))

theorem responseOk (h : Printed rows s t) : t.responseOk.out = s.out ++ rows.map .text ++ [.ok] := by
  rw [Tcp.responseOk, h.out]

end Printed

/-- The lines of the links are those of the rounds of a loop over them. -/
theorem linkLines_eq (tcpconns : Table TCPCONN_MAX_CONN TcpConn) (row : LinkId → TcpConn → Option (List Piece)) :
    linkLines tcpconns row =
      (List.finRange TCPCONN_MAX_CONN).flatMap fun i => (((tcpconns i).bind (row i)).map line).toList := by
  rw [linkLines, List.filterMap_eq_flatMap_toList]

/-- The line that is printed for a link that has the tag of a server. -/
def taggedRow (fields : ClientFields) (s : Tcp) (k : ServerId) (_ : TcpServer) (_ : LinkId) (t : TcpConn) :
    Option (List Piece) :=
  let remote_port := (s.espconn t.conn).remotePort
  if serverOf t.parrent = some k then
    some (Message.client fields.ipAddr remote_port (fields.stringAt remote_port) fields.third).pieces
  else none

variable {s u : Tcp} {rows : List String}

theorem printed_reportClient (fields : ClientFields) (k : ServerId) (srv : TcpServer) (i : LinkId)
    (h : Printed rows s u) :
    Printed (((s.tcpconns i).bind (taggedRow fields s k srv i)).map line).toList u
      (u.reportClient fields k i) := by
  rw [reportClient, h.tcpconns]
  cases s.tcpconns i with
  | none => exact .refl u
  | some t =>
    simp only [Option.bind_some, taggedRow]
    split
    · have huse : ((u.use t.conn).espconn t.conn).remotePort = (s.espconn t.conn).remotePort := by
        rw [← h.espconn]
        rfl
      rw [huse]
      exact .use_message u _ _
    · exact .refl u

theorem printed_reportServer (fields : ClientFields) (k : ServerId) (h : Printed rows s u) :
    Printed ((s.tcpservers k).elim [] fun srv =>
        line (Message.server (UInt8.ofNat k.val) srv).pieces :: linkLines s.tcpconns (taggedRow fields s k srv))
      u (u.reportServer fields k) := by
  rw [reportServer, h.tcpservers]
  cases s.tcpservers k with
  | none => exact .refl u
  | some srv =>
    have hserver := Printed.message u (.server (UInt8.ofNat k.val) srv)
    have hclients := Printed.foldl (List.finRange TCPCONN_MAX_CONN)
      (fun i v r hv => printed_reportClient fields k srv i hv) (h.trans hserver)
    rw [← linkLines_eq] at hclients
    exact hserver.trans hclients

/-- The number of servers is counted in eight bits. -/
theorem count_eq (tcpservers : Table TCPCONN_MAX_SERV TcpServer) :
    (List.finRange TCPCONN_MAX_SERV).foldl
      (fun (n : UInt8) srv_n => if (tcpservers srv_n).isSome then n + 1 else n) 0 =
        UInt8.ofNat (tcpservers.count fun _ => true) := by
  have hcount : ∀ (ks : List ServerId) (m : ℕ),
      ks.foldl (fun (n : UInt8) k => if (tcpservers k).isSome then n + 1 else n) (UInt8.ofNat m) =
        UInt8.ofNat (m + (ks.map fun k => if (tcpservers k).any fun _ => true then 1 else 0).sum) := by
    intro ks
    induction ks with
    | nil => simp
    | cons k ks ih =>
      intro m
      rw [List.foldl_cons, List.map_cons, List.sum_cons]
      cases tcpservers k with
      | none => simpa using ih m
      | some srv =>
        have hm := ih (m + 1)
        rw [UInt8.ofNat_add] at hm
        simpa [Nat.add_assoc] using hm
  have h := hcount (List.finRange TCPCONN_MAX_SERV) 0
  rw [Nat.zero_add, ← Fin.sum_univ_def] at h
  exact h

theorem printed_tcpServer (fields : ClientFields) (s : Tcp) :
    (s.atQueryCmdTCPServer fields).out = s.out ++
      (line (Message.serverCount (UInt8.ofNat (s.tcpservers.count fun _ => true))).pieces ::
        serverLines s (taggedRow fields s)).map .text ++ [.ok] := by
  simp only [atQueryCmdTCPServer, count_eq]
  have hcount := Printed.message s (.serverCount (UInt8.ofNat (s.tcpservers.count fun _ => true)))
  apply Printed.responseOk
  have hservers := Printed.foldl (List.finRange TCPCONN_MAX_SERV)
    (fun k v r hv => printed_reportServer fields k hv) hcount
  split
  · exact hcount.trans hservers
  · rename_i hzero
    have hle : (s.tcpservers.count fun _ => true) ≤ 3 := by
      rw [Table.count, Fin.sum_univ_three]
      split_ifs <;> omega
    have hempty : serverLines s (taggedRow fields s) = [] := by
      rw [serverLines, List.flatMap_eq_nil_iff]
      intro k _
      cases hk : s.tcpservers k with
      | none => rfl
      | some srv =>
        have hpos := Table.count_pos (p := fun _ => true) hk rfl
        refine absurd ?_ hzero
        rw [gt_iff_lt, UInt8.lt_iff_toNat_lt, UInt8.toNat_ofNat']
        show 0 < _ % 256
        omega
    rw [hempty]
    exact hcount

theorem printed_reportLink (x : Traced) (i : LinkId) (hx : x.Consistent) (h : Printed rows x.tcp u) :
    Printed (((x.tcp.tcpconns i).bind (x.linkRow i)).map line).toList u (u.reportLink i) := by
  rw [reportLink, h.tcpconns]
  cases ht : x.tcp.tcpconns i with
  | none => exact .refl u
  | some t =>
    have huse : (u.use t.conn).espconn t.conn = x.tcp.espconn t.conn := by
      rw [← h.espconn]
      rfl
    have hserver : (if (serverOf t.parrent).isSome then 1 else 0) = x.isServer t := by
      obtain ⟨htag, ho | ⟨k, b, ho⟩⟩ := hx.record_tag ht
      · rw [htag, ho, Origin.tag, serverOf_linkTag, Traced.isServer, ho]
        rfl
      · rw [htag, ho, Origin.tag, serverOf_serverTag, Traced.isServer, ho]
        rfl
    simp only [Option.bind_some, Traced.linkRow, huse, hserver]
    exact .use_message u _ _

/-- The station bit of an operating mode. -/
theorem stationBit (opmode : UInt8) : opmode &&& 1 = 0 ∨ opmode &&& 1 = 1 := by
  have hbit : (opmode &&& 1).toNat = opmode.toNat % 2 := by
    rw [UInt8.toNat_and]
    exact Nat.and_one_is_mod _
  rcases Nat.mod_two_eq_zero_or_one opmode.toNat with h | h
  · left
    exact UInt8.toNat_inj.mp (hbit.trans h)
  · right
    exact UInt8.toNat_inj.mp (hbit.trans h)

theorem found_iff (tcpconns : Table TCPCONN_MAX_CONN TcpConn) :
    (tcpconns.firstWhere fun t => t.connected ≠ 0).isSome ↔ ∃ i t, tcpconns i = some t ∧ t.connected ≠ 0 := by
  constructor
  · intro h
    obtain ⟨i, hi⟩ := Option.isSome_iff_exists.mp h
    obtain ⟨t, ht, hconnected⟩ := Table.firstWhere_some hi
    exact ⟨i, t, ht, by simpa using hconnected⟩
  · rintro ⟨i, t, ht, hconnected⟩
    cases h : tcpconns.firstWhere fun t => t.connected ≠ 0 with
    | some j => rfl
    | none =>
      have hnone := Table.firstWhere_none h ht
      simp [hconnected] at hnone

/-- The links of the status report are those of the table, whatever the status. -/
theorem printed_tcpStatus (x : Traced) (hx : x.Consistent) (opmode : UInt8) :
    ∃ status : UInt8, (status = 3 ↔ x.StationConnected opmode) ∧
      (x.tcp.atQueryCmdTCPStatus opmode).out = x.tcp.out ++
        (line (Message.status status).pieces ::
          if status = 3 then linkLines x.tcp.tcpconns x.linkRow else []).map .text ++ [.ok] := by
  have hlinks : ∀ status : UInt8, Printed
      (line (Message.status status).pieces :: if status = 3 then linkLines x.tcp.tcpconns x.linkRow else []) x.tcp
      (if status = 3 then
        (List.finRange TCPCONN_MAX_CONN).foldl (fun s n => s.reportLink n) (x.tcp.printMessage (.status status))
      else x.tcp.printMessage (.status status)) := by
    intro status
    have hstatus := Printed.message x.tcp (.status status)
    split_ifs
    · have hloop := Printed.foldl (List.finRange TCPCONN_MAX_CONN)
        (fun i v r hv => printed_reportLink x i hx hv) hstatus
      rw [← linkLines_eq] at hloop
      exact hstatus.trans hloop
    · exact hstatus
  refine ⟨_, ?_, (hlinks _).responseOk⟩
  rw [Traced.StationConnected, ← found_iff]
  rcases stationBit opmode with h | h
  · simp [h]
  · rw [h]
    cases (x.tcp.tcpconns.firstWhere fun t => t.connected ≠ 0).isSome <;> simp

/-! ### The line of a client -/

/-- The text up to the first comma. -/
theorem takeWhile_comma {a : List Char} (ha : ',' ∉ a) (r : List Char) :
    (a ++ ',' :: r).takeWhile (fun c => c ≠ ',') = a := by
  rw [List.takeWhile_append_of_pos, List.takeWhile_cons_of_neg, List.append_nil]
  · simp
  · intro c hc
    have hne : c ≠ ',' := fun h => ha (h ▸ hc)
    simpa using hne

theorem comma_not_mem_digits (n : ℕ) : ',' ∉ digits n := by
  intro h
  have hdigit := Nat.isDigit_of_mem_toDigits (by omega) (by omega) h
  exact absurd hdigit (by decide)

/-- The address is printed as a positive number. -/
theorem address_chars (fields : ClientFields) :
    (Piece.i32 fields.ipAddr.toInt32).chars = digits fields.ipAddr.toNat := by
  have hhi : fields.ipAddr.toNat < 0x40000000 := by simpa [UInt32.lt_iff_toNat_lt] using fields.inDataRam.2
  have hint : fields.ipAddr.toInt32.toInt = fields.ipAddr.toNat := by
    rw [← UInt32.ofNat_toNat (x := fields.ipAddr), UInt32.toInt32_ofNat', Int32.toInt_ofNat_of_lt (by omega),
      UInt32.ofNat_toNat]
  rw [Piece.chars, hint, signed, if_neg (by omega), Int.natAbs_natCast]

/-- An address in the data RAM has more digits than a link id. -/
theorem address_ne_id (fields : ClientFields) (i : LinkId) :
    digits fields.ipAddr.toNat ≠ digits (UInt8.ofNat i.val).toNat := by
  have hlo : 0x3FFE8000 ≤ fields.ipAddr.toNat := by simpa [UInt32.le_iff_toNat_le] using fields.inDataRam.1
  have hid : (digits (UInt8.ofNat i.val).toNat).length ≤ 1 := by
    refine digits_length_le (by omega) ?_
    have hi : i.val < 5 := i.isLt
    rw [UInt8.toNat_ofNat']
    omega
  intro h
  rw [← h, digits, Nat.length_toDigits_le_iff (by omega) (by omega)] at hid
  omega

/-- The line that is printed for a client is that of no link. -/
theorem client_ne_clientPieces (fields : ClientFields) (remote_port : UInt16) (str : List UInt8) (i : LinkId)
    (c : Espconn) :
    line (Message.client fields.ipAddr remote_port str fields.third).pieces ≠ line (clientPieces i c) := by
  intro h
  have hchars := String.ofList_injective h
  simp only [sprintf, Message.pieces, clientPieces, List.cons_append, List.flatMap_cons, List.nil_append] at hchars
  have hid : (Piece.u8 (UInt8.ofNat i.val)).chars = digits (UInt8.ofNat i.val).toNat := rfl
  have hcomma : (Piece.text ",\"").chars = ',' :: ['"'] := rfl
  have hfirst := congrArg (List.takeWhile fun c => c ≠ ',') (List.append_cancel_left hchars)
  rw [address_chars, hid, hcomma] at hfirst
  simp only [List.cons_append] at hfirst
  rw [takeWhile_comma (comma_not_mem_digits _), takeWhile_comma (comma_not_mem_digits _)] at hfirst
  exact address_ne_id fields i hfirst

/-- The lines of clients and those about servers differ in their fifth character. -/
theorem client_ne_server {t : String} (ht : t.toList[4]? = some 'S') (ps qs : List Piece) :
    line (.text "+TCPCLIENT:" :: ps) ≠ line (.text t :: qs) := by
  intro h
  have hchars := String.ofList_injective h
  have hfifth := congrArg (fun cs : List Char => cs[4]?) hchars
  have hclient : "+TCPCLIENT:".toList[4]? = some 'C' := by decide
  have hlt : ∀ {u : String} {c : Char}, u.toList[4]? = some c → 4 < u.toList.length :=
    fun hu => (List.getElem?_eq_some_iff.mp hu).1
  simp only [sprintf, List.flatMap_cons, Piece.chars] at hfifth
  rw [List.getElem?_append_left (hlt hclient), List.getElem?_append_left (hlt ht), hclient, ht] at hfifth
  exact absurd hfifth (by decide)

/-- The line that is printed for a client is none of those that show the tables. -/
theorem client_not_mem_serverReport (x : Traced) (fields : ClientFields) (remote_port : UInt16)
    (str : List UInt8) : line (Message.client fields.ipAddr remote_port str fields.third).pieces ∉ x.serverReport := by
  intro h
  rcases List.mem_cons.mp h with h | h
  · exact client_ne_server (by decide) _ _ h
  obtain ⟨k, -, h⟩ := List.mem_flatMap.mp h
  cases hk : x.tcp.tcpservers k with
  | none => simp [hk] at h
  | some srv =>
    rw [hk, Option.elim_some] at h
    rcases List.mem_cons.mp h with h | h
    · exact client_ne_server (by decide) _ _ h
    obtain ⟨i, -, h⟩ := List.mem_filterMap.mp h
    obtain ⟨pieces, hpieces, h⟩ := Option.map_eq_some_iff.mp h
    obtain ⟨t, -, hrow⟩ := Option.bind_eq_some_iff.mp hpieces
    rw [Traced.clientRow, Option.ite_none_right_eq_some] at hrow
    rw [← Option.some.inj hrow.2] at h
    exact client_ne_clientPieces fields remote_port str i _ h.symm

/-! ### The reports of reachable states -/

/-- A link with the tag of an open server is printed. -/
theorem client_mem_serverLines (fields : ClientFields) {i : LinkId} {t : TcpConn} {k : ServerId} {srv : TcpServer}
    (ht : s.tcpconns i = some t) (hk : serverOf t.parrent = some k) (hsrv : s.tcpservers k = some srv) :
    line (Message.client fields.ipAddr (s.espconn t.conn).remotePort
      (fields.stringAt (s.espconn t.conn).remotePort) fields.third).pieces ∈
        serverLines s (taggedRow fields s) := by
  refine List.mem_flatMap.mpr ⟨k, List.mem_finRange k, ?_⟩
  rw [hsrv, Option.elim_some]
  refine List.mem_cons_of_mem _ (List.mem_filterMap.mpr ⟨i, List.mem_finRange i, ?_⟩)
  simp only [ht, Option.bind_some, taggedRow, if_pos hk, Option.map_some]

/-- Without links of open servers there is a line for each server only. -/
theorem serverLines_congr {row row' : ServerId → TcpServer → LinkId → TcpConn → Option (List Piece)}
    (h : ∀ k srv i t, s.tcpservers k = some srv → s.tcpconns i = some t → row k srv i t = row' k srv i t) :
    serverLines s row = serverLines s row' := by
  apply List.flatMap_congr
  intro k _
  cases hk : s.tcpservers k with
  | none => rfl
  | some srv =>
    rw [Option.elim_some, Option.elim_some]
    congr 1
    apply List.filterMap_congr
    intro i _
    cases ht : s.tcpconns i with
    | none => rfl
    | some t => rw [Option.bind_some, Option.bind_some, h k srv i t hk ht]

theorem Traced.Consistent.shows_iff {x : Traced} (hx : x.Consistent) (fields : ClientFields) (opmode : UInt8) :
    x.ShowsTables fields opmode ↔ x.NoClients := by
  have hprinted := printed_tcpServer fields x.tcp
  constructor
  · intro h i t k ht hk
    by_contra hsrv
    obtain ⟨srv, hsrv⟩ := Option.ne_none_iff_exists'.mp hsrv
    have hlines := hprinted.symm.trans h.servers
    rw [List.append_left_inj, List.append_right_inj] at hlines
    have hreport := List.map_injective_iff.mpr (fun _ _ h => Output.text.inj h) hlines
    have hmem := List.mem_cons_of_mem
      (line (Message.serverCount (UInt8.ofNat (x.tcp.tcpservers.count fun _ => true))).pieces)
      (client_mem_serverLines fields ht hk hsrv)
    rw [hreport] at hmem
    exact client_not_mem_serverReport x fields _ _ hmem
  · intro h
    refine ⟨?_, printed_tcpStatus x hx opmode⟩
    have hrows : serverLines x.tcp (taggedRow fields x.tcp) = serverLines x.tcp x.clientRow := by
      apply serverLines_congr
      intro k srv i t hsrv ht
      have htagged : serverOf t.parrent ≠ some k := by
        intro hk
        rw [h i t k ht hk] at hsrv
        cases hsrv
      have horigin : x.origin t.conn ≠ .client k srv.conn := by
        intro ho
        rw [(hx.record_tag ht).1, ho, Origin.tag, serverOf_serverTag] at htagged
        exact htagged rfl
      rw [Traced.clientRow, if_neg horigin]
      simp only [taggedRow, if_neg htagged]
    rw [hprinted, hrows, Traced.serverReport]

/-- **The reports show the tables** exactly while no link has the tag of an open server, in every state of every
run. -/
theorem shows_tables_iff (lib : LibAt) (as : List Action) (heap : ℕ → Bool) (numTcpPcb : ℕ)
    (fields : ClientFields) (opmode : UInt8) :
    (Machine.run (Traced.step lib) as (Traced.atReset heap numTcpPcb)).ShowsTables fields opmode ↔
      (Machine.run (Traced.step lib) as (Traced.atReset heap numTcpPcb)).NoClients :=
  (consistent_run lib as heap numTcpPcb).shows_iff fields opmode

/-- Server 0 is created and a client connects to it. -/
def serverWithClient : List Action :=
  [.command (.server (CString.ascii "=0,1,333\r") 0), .event (.accepted 0 0x0200A8C0 50000)]

/-- The line of the client is not that of its link. -/
theorem not_shows_tables :
    ¬(Machine.run (Traced.step plainAt) serverWithClient (Traced.atReset (fun _ => true) 5)).ShowsTables default
      1 := by
  intro hshows
  have htables : ((Machine.run (Tcp.step plainAt) serverWithClient (atReset (fun _ => true) 5)).tcpconns 0).map
      (fun t => serverOf t.parrent) = some (some 0) ∧
      ((Machine.run (Tcp.step plainAt) serverWithClient (atReset (fun _ => true) 5)).tcpservers 0).isNone =
        false := by
    decide +kernel
  have hrun : (Machine.run (Traced.step plainAt) serverWithClient (Traced.atReset (fun _ => true) 5)).tcp =
      Machine.run (Tcp.step plainAt) serverWithClient (atReset (fun _ => true) 5) := Traced.run_tcp ..
  have hnone := ((consistent_run plainAt serverWithClient (fun _ => true) 5).shows_iff default 1).mp hshows
  rw [Traced.NoClients, hrun] at hnone
  obtain ⟨t, ht, hk⟩ := Option.map_eq_some_iff.mp htables.1
  have hopen := htables.2
  rw [hnone 0 t 0 ht hk] at hopen
  cases hopen

end Esp8266At.Tcp
