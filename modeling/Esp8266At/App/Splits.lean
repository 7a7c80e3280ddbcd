import Esp8266At.App.Checksum
import Esp8266At.App.HttpHeader

/-!
# Responses in any number of chunks

However a response is split into chunks, the first of which has the header, its session takes over all of it:
as whole sectors and the sector buffer (`Took`), which `_write_data` keeps for chunks of at most a sector. The
session ends with the chunk that completes the announced length, and not before (`whole_response`).
-/

namespace Esp8266At

open ByteSpace NorFlash CString Http Machine

/-! ### Splits of a response -/

/-- The chunks that bring a response: the first one has the whole header, and none has more than a sector of the
body. -/
inductive Split (head body : List UInt8) : List Chunk → Prop
  | mk (first : Chunk) (later : List Chunk) (content : List UInt8) (hfirst : first.val = head ++ content)
      (hcontent : content.length ≤ SECTOR_SIZE)
      (hlater : ∀ c ∈ later, c.val ≠ [] ∧ c.val.length ≤ SECTOR_SIZE)
      (hbody : content ++ (later.map Subtype.val).flatten = body) : Split head body (first :: later)

/-- A header is read in the same way whatever follows it. -/
theorem responseHeader_append {head rest : List UInt8} {n : UInt32} (h : responseHeader head = some (n, rest))
    (content : List UInt8) : responseHeader (head ++ content) = some (n, rest ++ content) := by
  obtain ⟨p, d, hp, hd, hstatus, hn, hend⟩ := App.responseHeader_iff.mp h
  obtain ⟨e, he, hline⟩ := App.lineAt_found hp hd
  have hple := strstr_le hp
  have hdle := strstr_le hd
  have hele := strstr_le he
  rw [List.length_drop] at hdle hele
  have hfour : blankLine.length = 4 := rfl
  have hsixteen : lengthField.length = 16 := by decide
  have htwelve : 12 ≤ head.length := by
    have hlen := congrArg List.length hstatus
    have hthree : (ascii "200").length = 3 := by decide
    rw [List.length_take, List.length_drop, hthree] at hlen
    omega
  have hp' := strstr_append hp content
  have hd' : strstr ((head ++ content).drop p) blankLine = some d := by
    rw [List.drop_append_of_le_length (by omega)]
    exact strstr_append hd content
  obtain ⟨e', he', hline'⟩ := App.lineAt_found hp' hd'
  rw [List.drop_append_of_le_length (by omega)] at he' hline'
  obtain rfl : e = e' := Option.some.inj ((strstr_append he content).symm.trans he')
  refine App.responseHeader_iff.mpr ⟨p, d, hp', hd', ?_, ?_, ?_⟩
  · rw [List.drop_append_of_le_length (by omega), List.take_append_of_le_length (by rw [List.length_drop]; omega)]
    exact hstatus
  · have hfit : e ≤ (head.drop (p + 16)).length := by
      rw [List.length_drop]
      omega
    rw [hn, App.numberAt, App.numberAt, hline', hline, List.take_append_of_le_length hfit]
  · rw [List.drop_append_of_le_length (by omega), hend]

namespace App

variable {s : App} {u : UpgradeStatus}

/-! ### Taking over the body -/

/-- The device after whole sectors have been written from the target on. -/
def rewritten (pieces : List (List UInt8)) (s : App) : Spi :=
  { s.spi with log := s.spi.log ++ rewrite SECTOR_SIZE s.upgradeFlashAddr pieces }

/-- What the session of `s`, `u₀`, has taken over of the body: whole sectors, for a firmware update, and what is in
the sector buffer. -/
structure Took (s : App) (u₀ : UpgradeStatus) (got : List UInt8) (full : List (List UInt8)) (u : UpgradeStatus) :
    Prop where
  callback : u.callback = u₀.callback
  body : full.flatten ++ u.buffer.val = got
  sectors : ∀ p ∈ full, p.length = SECTOR_SIZE
  kind : s.upgradeType ≠ .upgrade → full = []
  addr : s.upgradeType = .upgrade →
    u.flashAddr = s.upgradeFlashAddr + UInt32.ofNat (SECTOR_SIZE * full.length)
  total : u.totalLen = UInt32.ofNat got.length

/-- `_write_data` has taken over all of `data`: it has filled the sectors `more`, and `b` is the sector buffer now. -/
structure Wrote (s : App) (u : UpgradeStatus) (data : List UInt8) (more : List (List UInt8)) (b : SectorBuffer) :
    Prop where
  eq : writeData data u s =
    (.ok, { u with flashAddr := u.flashAddr + UInt32.ofNat (SECTOR_SIZE * more.length), buffer := b },
      { s with spi := { s.spi with log := s.spi.log ++ rewrite SECTOR_SIZE u.flashAddr more } })
  data : more.flatten ++ b.val = u.buffer.val ++ data
  sectors : ∀ p ∈ more, p.length = SECTOR_SIZE
  kind : s.upgradeType ≠ .upgrade → more = []

/-- A sector is written if flash operations succeed. -/
theorem writeSector_ok (hok : s.spi.AllOk) {a : UInt32} (h : a.toNat < 2 ^ 28) (p : List UInt8) :
    s.spiFlashEraseSector (a / UInt32.ofNat SECTOR_SIZE) =
        (true, { s with spi := { s.spi with log := s.spi.log ++ [.erase (a.toNat / SECTOR_SIZE)] } }) ∧
      spiFlashWrite { s with spi := { s.spi with log := s.spi.log ++ [.erase (a.toNat / SECTOR_SIZE)] } } a p =
        (true, { s with spi := { s.spi with log := s.spi.log ++ rewrite SECTOR_SIZE a [p] } }) := by
  have hok' : (⟨s.spi.base, s.spi.log ++ [.erase (a.toNat / SECTOR_SIZE)], s.spi.results⟩ : Spi).AllOk := hok
  constructor
  · rw [spiFlashEraseSector, sector_toNat h, hok.perform]
  · rw [spiFlashWrite, hok'.perform]
    simp [rewrite]

/-- `_write_data` for at most a sector of data, with room for them: one more sector is filled, or none. -/
theorem writeData_whole (hok : s.spi.AllOk) {data : List UInt8} (hdata : data.length ≤ SECTOR_SIZE)
    (haddr : s.upgradeType = .upgrade →
      u.flashAddr.toNat < 2 ^ 28 ∧ u.flashAddr ≤ s.upgradeFlashAddr + s.upgradeContentLen)
    (hroom : s.upgradeType ≠ .upgrade → u.buffer.val.length + data.length < SECTOR_SIZE) :
    ∃ more b, Wrote s u data more b := by
  have hbuf := u.buffer.property
  by_cases hzero : data.length = 0
  · refine ⟨[], u.buffer, ?_, ?_, by simp, fun _ => rfl⟩
    · unfold writeData
      rw [if_pos hzero]
      simp [rewrite]
    · simp [List.length_eq_zero_iff.mp hzero]
  by_cases hfull : data.length ≥ SECTOR_SIZE - u.buffer.val.length
  · have htype : s.upgradeType = .upgrade := by
      by_contra htype
      have := hroom htype
      omega
    obtain ⟨hlow, hle⟩ := haddr htype
    set p := u.buffer.val ++ data.take (SECTOR_SIZE - u.buffer.val.length) with hp
    obtain ⟨herase, hwrite⟩ := writeSector_ok hok hlow p
    have hrem : (data.drop (SECTOR_SIZE - u.buffer.val.length)).length ≤ SECTOR_SIZE := by
      rw [List.length_drop]
      omega
    refine ⟨[p], ⟨data.drop (SECTOR_SIZE - u.buffer.val.length), hrem⟩, ?_, ?_, ?_, fun h => absurd htype h⟩
    · unfold writeData
      rw [if_neg hzero, dif_pos hfull, if_pos htype, if_neg (UInt32.not_lt.mpr hle)]
      simp only [herase, ← hp, hwrite]
      rw [dif_pos hrem]
      simp
    · simp [hp]
    · intro q hq
      rw [List.mem_singleton.mp hq, hp, List.length_append, List.length_take, min_eq_left hfull]
      omega
  · refine ⟨[], u.buffer.append data (u.fits hfull), ?_, rfl, by simp, fun _ => rfl⟩
    unfold writeData
    rw [if_neg hzero, dif_neg hfull]
    simp [rewrite]

section
variable {u₀ : UpgradeStatus} {got : List UInt8} {full : List (List UInt8)}

theorem Took.count (h : Took s u₀ got full u) : got.length = SECTOR_SIZE * full.length + u.buffer.val.length := by
  rw [← h.body, List.length_append, flatten_full h.sectors]

theorem Took.addr_toNat (h : Took s u₀ got full u) (htype : s.upgradeType = .upgrade)
    (hfit : s.upgradeFlashAddr.toNat + got.length < 2 ^ 32) :
    u.flashAddr.toNat = s.upgradeFlashAddr.toNat + SECTOR_SIZE * full.length := by
  have hcount := h.count
  rw [h.addr htype, add_ofNat_toNat _ _ (by omega)]

theorem Took.write (h : Took s u₀ got full u) {t : App} {data : List UInt8} {more : List (List UInt8)}
    {b : SectorBuffer} (htype : t.upgradeType = s.upgradeType)
    (hw : Wrote t { u with totalLen := u.totalLen + UInt32.ofNat data.length } data more b) :
    Took s u₀ (got ++ data) (full ++ more)
      { u with totalLen := u.totalLen + UInt32.ofNat data.length, buffer := b
               flashAddr := u.flashAddr + UInt32.ofNat (SECTOR_SIZE * more.length) } where
  callback := h.callback
  body := by
    have hdata : more.flatten ++ b.val = u.buffer.val ++ data := hw.data
    rw [List.flatten_append, List.append_assoc, hdata, ← List.append_assoc, h.body]
  sectors p hp := (List.mem_append.mp hp).elim (h.sectors p) (hw.sectors p)
  kind hother := by rw [h.kind hother, hw.kind (htype ▸ hother), List.append_nil]
  addr hup := by
    show u.flashAddr + _ = _
    rw [h.addr hup, add_ofNat_add, List.length_append, Nat.mul_add]
  total := by
    show u.totalLen + _ = _
    rw [h.total, List.length_append, UInt32.ofNat_add]

theorem Took.rewritten (h : Took s u₀ got full u) {more : List (List UInt8)}
    (hmore : s.upgradeType ≠ .upgrade → more = []) :
    ({ s.rewritten full with log := (s.rewritten full).log ++ rewrite SECTOR_SIZE u.flashAddr more } : Spi) =
      s.rewritten (full ++ more) := by
  unfold App.rewritten
  rw [rewrite_append]
  by_cases htype : s.upgradeType = .upgrade
  · rw [h.addr htype, List.append_assoc]
  · rw [hmore htype]
    simp [rewrite]

/-! ### Received chunks -/

/-- Where a session may write. -/
structure Placed (s : App) : Prop where
  aligned : s.upgradeFlashAddr.toNat % SECTOR_SIZE = 0
  bound : s.upgradeFlashAddr.toNat ≤ 0x701000

/-- A session that has taken over `got` and waits for the rest of the `n` bytes of the body. -/
def Taking (s : App) (u₀ : UpgradeStatus) (n : UInt32) (got : List UInt8) (t : App) : Prop :=
  ∃ full u out timer, Took s u₀ got full u ∧ t = s.session (s.rewritten full) s.heap out u n timer

/-- A session that has taken over the whole body. -/
def Taken (s : App) (u₀ : UpgradeStatus) (n : UInt32) (body : List UInt8) (t : App) : Prop :=
  ∃ ps u out timer, t = { s.session (s.rewritten ps) s.heap out u n timer with upgradeFlag := .finish } ∧
    u.callback = u₀.callback ∧ (s.upgradeType = .upgrade → ps.flatten = body ∧ Pieces SECTOR_SIZE ps ∧ [] ∉ ps) ∧
    (s.upgradeType ≠ .upgrade → u.buffer.val = body)

/-- How a session has received all of the body so far. -/
def Receives (s : App) (u₀ : UpgradeStatus) (n : UInt32) (got : List UInt8) (r : Bool × App) : Prop :=
  (got.length < n.toNat → r.1 = false ∧ Taking s u₀ n got r.2) ∧
    (got.length = n.toNat → r.1 = true ∧ Taken s u₀ n got r.2)

/-- The end of `upgrade_recvcb`, after the chunk has been taken over. -/
theorem Took.receiveEnd (h : Took s u₀ got full u) (hok : s.spi.AllOk) (hplaced : s.upgradeType = .upgrade → s.Placed)
    {n : UInt32} (hmax : n < FW_MAXSIZE) (hle : got.length ≤ n.toNat) (out : List Output) (u₁ : UpgradeStatus)
    (timer : Option OtaTimer) :
    Receives s u₀ n got ((s.session (s.rewritten full) s.heap out u₁ n timer).receiveEnd true u) := by
  have hmax' : n.toNat < 0xF0000 := UInt32.lt_iff_toNat_lt.mp hmax
  have htotal : u.totalLen.toNat = got.length := by
    rw [h.total, UInt32.toNat_ofNat']
    omega
  have hfull : [] ∉ full := fun hempty => absurd (h.sectors [] hempty) (by decide)
  have hlen : (s.session (s.rewritten full) s.heap out u₁ n timer).upgradeContentLen = n := rfl
  have hkind : (s.session (s.rewritten full) s.heap out u₁ n timer).upgradeType = s.upgradeType := rfl
  unfold App.receiveEnd
  rw [hlen, hkind]
  constructor
  · intro hlt
    have hne : u.totalLen ≠ n := by
      rintro rfl
      omega
    have hnot : ¬(true = false ∨ u.totalLen > n) := by
      rintro (hfalse | hgt)
      · cases hfalse
      · have := UInt32.lt_iff_toNat_lt.mp hgt
        omega
    rw [if_neg hne, if_neg hnot]
    exact ⟨rfl, full, u, out, some .deinit, h, rfl⟩
  · intro hall
    rw [if_pos (UInt32.toNat_inj.mp (by rw [htotal, hall]))]
    by_cases hlast : u.buffer.val.length > 0 ∧ s.upgradeType = .upgrade
    · -- the rest of the body is one more sector
      obtain ⟨hpos, htype⟩ := hlast
      have hbound := (hplaced htype).bound
      have haddr := h.addr_toNat htype (by omega)
      have hcount := h.count
      obtain ⟨herase, hwrite⟩ := writeSector_ok (s := s.session (s.rewritten full) s.heap out u₁ n timer) hok
        (a := u.flashAddr) (by omega) u.buffer.val
      obtain ⟨o, ho⟩ := downloadFinished_out
        (s.session (s.rewritten (full ++ [u.buffer.val])) s.heap out u₁ n timer) u
      rw [if_pos ⟨hpos, htype⟩]
      simp only [herase, hwrite]
      rw [← h.rewritten (fun hother => absurd htype hother)] at ho
      refine ⟨congrArg Prod.fst ho, full ++ [u.buffer.val], { u with error := .ok }, o, timer, ?_, h.callback,
        fun _ => ⟨?_, Pieces.snoc h.sectors u.buffer.property, ?_⟩, fun hother => absurd htype hother⟩
      · rw [← h.rewritten (fun hother => absurd htype hother)]
        exact congrArg Prod.snd ho
      · rw [List.flatten_append, List.flatten_singleton, h.body]
      · rw [List.mem_append, List.mem_singleton]
        rintro (hempty | hempty)
        · exact hfull hempty
        · rw [← hempty] at hpos
          exact absurd hpos (Nat.lt_irrefl 0)
    · obtain ⟨o, ho⟩ := downloadFinished_out (s.session (s.rewritten full) s.heap out u₁ n timer) u
      rw [if_neg hlast]
      refine ⟨congrArg Prod.fst ho, full, { u with error := .ok }, o, timer, congrArg Prod.snd ho, h.callback,
        fun htype => ⟨?_, Pieces.of_full h.sectors, hfull⟩, fun hother => ?_⟩
      · have hempty : u.buffer.val = [] :=
          List.length_eq_zero_iff.mp (Nat.eq_zero_of_not_pos fun hpos => hlast ⟨hpos, htype⟩)
        rw [← h.body, hempty, List.append_nil]
      · have hbody := h.body
        rw [h.kind hother] at hbody
        exact hbody

/-- A chunk is taken over while the body is no longer than announced, and fits in the buffer outside an update. -/
theorem Took.wrote (h : Took s u₀ got full u) (hok : s.spi.AllOk) (hplaced : s.upgradeType = .upgrade → s.Placed)
    {n : UInt32} (hmax : n < FW_MAXSIZE) (hle : got.length ≤ n.toNat) {data : List UInt8}
    (hdata : data.length ≤ SECTOR_SIZE) (hroom : s.upgradeType ≠ .upgrade → (got ++ data).length < SECTOR_SIZE)
    (out : List Output) (u₁ : UpgradeStatus) (timer : Option OtaTimer) :
    ∃ more b, Wrote (s.session (s.rewritten full) s.heap out u₁ n timer)
      { u with totalLen := u.totalLen + UInt32.ofNat data.length } data more b := by
  have hmax' : n.toNat < 0xF0000 := UInt32.lt_iff_toNat_lt.mp hmax
  have hcount := h.count
  refine writeData_whole (s := s.session (s.rewritten full) s.heap out u₁ n timer) hok hdata (fun htype => ?_)
    (fun hother => ?_)
  · have hbound := (hplaced htype).bound
    have haddr := h.addr_toNat htype (by omega)
    refine ⟨?_, UInt32.le_iff_toNat_le.mpr ?_⟩
    · show u.flashAddr.toNat < 2 ^ 28
      omega
    · show u.flashAddr.toNat ≤ (s.upgradeFlashAddr + n).toNat
      rw [UInt32.toNat_add, Nat.mod_eq_of_lt (by omega)]
      omega
  · have hfit := hroom hother
    rw [List.length_append] at hfit
    show u.buffer.val.length + data.length < SECTOR_SIZE
    omega

/-- A session that has received nothing. -/
structure Fresh (s : App) (u₀ : UpgradeStatus) : Prop where
  live : s.upgrade = .live u₀
  running : s.crashed = false
  took : Took s u₀ [] [] u₀
  length : s.upgradeContentLen = 0
  placed : s.upgradeType = .upgrade → s.Placed

theorem room_of_accepted {n : UInt32} (haccepted : ¬ContentLengthError s.upgradeType s.upgradeFlashMap n)
    (hle : got.length ≤ n.toNat) : s.upgradeType ≠ .upgrade → got.length < SECTOR_SIZE := by
  intro hother
  have := Tracked.short_of_accepted hother haccepted
  omega

/-- The first chunk. -/
theorem Fresh.receive (h : s.Fresh u₀) (hok : s.spi.AllOk) {n : UInt32} {head content : List UInt8}
    (hhead : responseHeader head = some (n, []))
    (haccepted : ¬ContentLengthError s.upgradeType s.upgradeFlashMap n) (hcontent : content.length ≤ SECTOR_SIZE)
    (hle : content.length ≤ n.toNat) {data : Chunk} (hdata : data.val = head ++ content) :
    Receives s u₀ n content (s.receive data true) := by
  have hself : s.rewritten [] = s.spi := by simp [App.rewritten, rewrite]
  obtain ⟨more, b, hw⟩ := h.took.wrote hok h.placed (n := 0) (by decide) (Nat.zero_le _) hcontent
    (room_of_accepted haccepted hle) s.out u₀ none
  have htook := h.took.write (t := s.session (s.rewritten []) s.heap s.out u₀ 0 none) rfl hw
  have hspi := h.took.rewritten hw.kind
  have heq := hw.eq
  obtain ⟨o, ho⟩ := (s.session (s.rewritten ([] ++ more)) s.heap s.out u₀ n none).debug_out
    ("Response header received, downloading " ++ toString n.toNat ++ " byte(s)\r\n")
  have hend := htook.receiveEnd hok h.placed (lt_of_accepted haccepted) hle o u₀ none
  rw [receive_live_eq h.live, if_pos h.length, h.length]
  unfold receiveFirst
  rw [hdata, responseHeader_append hhead content]
  rw [← hself]
  simp only [List.nil_append, heq]
  show Receives s u₀ n content (if ContentLengthError s.upgradeType s.upgradeFlashMap n then _ else
    ((s.session { s.rewritten [] with log := (s.rewritten []).log ++ rewrite SECTOR_SIZE u₀.flashAddr more } s.heap
      s.out u₀ n none).debug _).receiveEnd true _)
  rw [if_neg haccepted, hspi, ho]
  exact hend

/-- A later chunk. -/
theorem Taking.receive {n : UInt32} {t : App} (h : s.Taking u₀ n got t) (hok : s.spi.AllOk)
    (hplaced : s.upgradeType = .upgrade → s.Placed) (hpos : 0 < n.toNat)
    (haccepted : ¬ContentLengthError s.upgradeType s.upgradeFlashMap n) {data : Chunk}
    (hdata : data.val.length ≤ SECTOR_SIZE) (hle : (got ++ data.val).length ≤ n.toNat) :
    Receives s u₀ n (got ++ data.val) (t.receive data true) := by
  obtain ⟨full, u, out, timer, htook, rfl⟩ := h
  have hmax := lt_of_accepted haccepted
  obtain ⟨more, b, hw⟩ := htook.wrote hok hplaced hmax (by rw [List.length_append] at hle; omega) hdata
    (room_of_accepted haccepted hle) out u none
  have htook' := htook.write (t := s.session (s.rewritten full) s.heap out u n none) rfl hw
  have hne : n ≠ 0 := by
    rintro rfl
    exact absurd hpos (Nat.lt_irrefl 0)
  have hend := htook'.receiveEnd hok hplaced hmax hle out u none
  have hlen : (s.session (s.rewritten full) s.heap out u n timer).upgradeContentLen = n := rfl
  have heq := hw.eq
  rw [receive_live_eq rfl, hlen, if_neg hne]
  show Receives s u₀ n (got ++ data.val)
    ((s.session (s.rewritten full) s.heap out u n none).receiveNext data.val true u)
  unfold receiveNext
  simp only [heq]
  rw [← htook.rewritten hw.kind] at hend
  exact hend

end

/-! ### Whole responses -/

/-- The callbacks that bring these chunks, with the connection in the state `ESPCONN_READ`. -/
def arrivals (chunks : List Chunk) : List NetEvent := chunks.map fun c => .received c true

variable {u₀ : UpgradeStatus} {n : UInt32} {head content got : List UInt8} {first : Chunk} {later : List Chunk}
variable (md5 : List UInt8 → Digest)

theorem run_arrivals_snoc (chunks : List Chunk) (c : Chunk) :
    s.run md5 (arrivals (chunks ++ [c])) = (s.run md5 (arrivals chunks)).step md5 (.received c true) := by
  rw [arrivals, List.map_append]
  exact run_snoc _ _ s

/-- A chunk after which the session goes on. -/
theorem Receives.step {t : App} {c : Chunk} (h : Receives s u₀ n got (t.receive c true)) (hrun : t.crashed = false)
    (hlt : got.length < n.toNat) : s.Taking u₀ n got (t.step md5 (.received c true)) := by
  obtain ⟨hgoes, htaking⟩ := h.1 hlt
  have hstep : t.step md5 (.received c true) = (t.receive c true).2 := by
    unfold App.step
    rw [if_neg (by rw [hrun]; exact Bool.false_ne_true)]
    simp only [upgradeRecvcb]
    generalize t.receive c true = r at hgoes
    obtain ⟨b, t'⟩ := r
    obtain rfl : b = false := hgoes
    rfl
  rw [hstep]
  exact htaking

theorem length_lt_of_rest {rest : List Chunk} (hrest : rest ≠ []) (hdata : ∀ c ∈ rest, c.val ≠ [])
    (got : List UInt8) : got.length < (got ++ (rest.map Subtype.val).flatten).length := by
  obtain ⟨c, cs, rfl⟩ := List.exists_cons_of_ne_nil hrest
  have := List.length_pos_of_ne_nil (hdata c (List.mem_cons_self ..))
  rw [List.length_append, List.map_cons, List.flatten_cons, List.length_append]
  omega

/-- While chunks are missing, the session has taken over all that has come. -/
theorem Fresh.taking (h : s.Fresh u₀) (hok : s.spi.AllOk) (hhead : responseHeader head = some (n, []))
    (haccepted : ¬ContentLengthError s.upgradeType s.upgradeFlashMap n) (hfirst : first.val = head ++ content)
    (hcontent : content.length ≤ SECTOR_SIZE) (hlater : ∀ c ∈ later, c.val ≠ [] ∧ c.val.length ≤ SECTOR_SIZE)
    (hlen : n.toNat = (content ++ (later.map Subtype.val).flatten).length) {pre rest : List Chunk}
    (hsplit : later = pre ++ rest) (hrest : rest ≠ []) :
    s.Taking u₀ n (content ++ (pre.map Subtype.val).flatten) (s.run md5 (arrivals (first :: pre))) := by
  induction pre using List.reverseRecOn generalizing rest with
  | nil =>
    have hne : later ≠ [] := by
      rw [hsplit]
      exact hrest
    have hlt := length_lt_of_rest hne (fun c hc => (hlater c hc).1) content
    have hreceive := h.receive hok hhead haccepted hcontent (by omega) hfirst
    rw [List.map_nil, List.flatten_nil, List.append_nil]
    exact hreceive.step md5 h.running (by omega)
  | append_singleton pre c ih =>
    have hsplit' : later = pre ++ c :: rest := by
      rw [hsplit, List.append_assoc]
      rfl
    have htaking := ih hsplit' (List.cons_ne_nil _ _)
    have hc := hlater c (by rw [hsplit]; simp)
    have hlt := length_lt_of_rest hrest (fun c hc => (hlater c (by rw [hsplit]; exact List.mem_append_right _ hc)).1)
      (content ++ (pre.map Subtype.val).flatten ++ c.val)
    have hall : n.toNat = (content ++ (pre.map Subtype.val).flatten ++ c.val ++
        (rest.map Subtype.val).flatten).length := by
      rw [hlen, hsplit]
      simp [List.append_assoc]
    have hrun : (s.run md5 (arrivals (first :: pre))).crashed = false := by
      obtain ⟨full, u, out, timer, -, heq⟩ := htaking
      rw [heq]
      exact h.running
    have hreceive := htaking.receive hok h.placed (by omega) haccepted hc.2 (by omega)
    rw [← List.cons_append, run_arrivals_snoc]
    have := hreceive.step md5 hrun (by omega)
    simpa [List.append_assoc] using this

/-- The number of bytes in the sectors that `n` bytes take. -/
def roundUp (n : ℕ) : ℕ := SECTOR_SIZE * ((n + SECTOR_SIZE - 1) / SECTOR_SIZE)

/-- What a finished download leaves: a firmware is in the flash, and nothing but its sectors has changed; the body of
another response is in the response buffer, with the two zero bytes behind it. -/
structure Delivered (s : App) (body : List UInt8) (c : App) : Prop where
  firmware : s.upgradeType = .upgrade → slice c.spi.flash s.upgradeFlashAddr body.length = body
  others : s.upgradeType = .upgrade → ∀ a : UInt32, a.toNat < s.upgradeFlashAddr.toNat ∨
    s.upgradeFlashAddr.toNat + roundUp body.length ≤ a.toNat → c.spi.flash a = s.spi.flash a
  response : s.upgradeType ≠ .upgrade → c.upgradeCheckResponse = some (body ++ [0, 0])

/-- Sectors that are not empty are no more than their bytes take. -/
theorem sectors_le_roundUp {ps : List (List UInt8)} (h : Pieces SECTOR_SIZE ps) (hne : [] ∉ ps) :
    SECTOR_SIZE * ps.length ≤ roundUp ps.flatten.length := by
  rcases List.eq_nil_or_concat ps with rfl | ⟨qs, last, rfl⟩
  · exact Nat.zero_le _
  · rw [List.concat_eq_append] at h hne ⊢
    have hcount := flatten_full fun q hq => h.full q (by rw [List.dropLast_concat]; exact hq)
    have hlast : 0 < last.length := by
      refine List.length_pos_of_ne_nil fun hempty => hne ?_
      rw [hempty]
      simp
    rw [List.length_append, List.length_singleton, List.flatten_append, List.length_append, List.flatten_singleton,
      hcount]
    simp only [roundUp, SECTOR_SIZE]
    omega

/-- The whole body of a response that is not a firmware is handed on. -/
theorem handed_of_accepted {u : UpgradeStatus} {t : App} (htype : t.upgradeType ≠ .upgrade)
    (haccepted : ¬ContentLengthError t.upgradeType t.upgradeFlashMap t.upgradeContentLen)
    (hlen : u.buffer.val.length = t.upgradeContentLen.toNat) : Handed u t := by
  unfold ContentLengthError at haccepted
  simp only [not_or, not_and, ge_iff_le, not_not] at haccepted
  obtain ⟨-, -, hver, -, hmd5⟩ := haccepted
  unfold Handed
  cases hkind : t.upgradeType with
  | upgrade => exact absurd hkind htype
  | verCheck =>
    have := UInt32.lt_iff_toNat_lt.mp (UInt32.not_le.mp (hver (Or.inl hkind)))
    exact Or.inl ⟨Or.inl rfl, by omega⟩
  | verCheckBoot =>
    have := UInt32.lt_iff_toNat_lt.mp (UInt32.not_le.mp (hver (Or.inr hkind)))
    exact Or.inl ⟨Or.inr rfl, by omega⟩
  | md5 => exact Or.inr (Or.inl ⟨Or.inl rfl, by rw [hlen, hmd5 (Or.inl hkind)]; rfl⟩)
  | md5Boot => exact Or.inr (Or.inl ⟨Or.inr rfl, by rw [hlen, hmd5 (Or.inr hkind)]; rfl⟩)
  | upgBoot => exact Or.inr (Or.inr ⟨rfl, hlen⟩)

/-- What `at_ota_deinit` hands to the callback after the whole body has been taken over. -/
theorem Taken.delivered {body : List UInt8} {t : App} (h : Taken s u₀ n body t)
    (hplaced : s.upgradeType = .upgrade → s.Placed)
    (haccepted : ¬ContentLengthError s.upgradeType s.upgradeFlashMap n) (hlen : n.toNat = body.length)
    (hpos : body ≠ []) (hheap : s.heap 0 = true) : ∃ u c, t.upgrade = .live u ∧ u.callback = u₀.callback ∧
      t.cleanUp u = (true, c) ∧ s.Delivered body c := by
  obtain ⟨ps, u, out, timer, rfl, hcall, hup, hother⟩ := h
  obtain ⟨heap, o, hclean⟩ :=
    cleanUp_eq u { s.session (s.rewritten ps) s.heap out u n timer with upgradeFlag := .finish }
  have hmax := UInt32.lt_iff_toNat_lt.mp (lt_of_accepted haccepted)
  have hfw : FW_MAXSIZE.toNat = 0xF0000 := rfl
  -- the sectors of a firmware
  have sectors : s.upgradeType = .upgrade → ps.flatten = body ∧ Pieces SECTOR_SIZE ps ∧
      SECTOR_SIZE * ps.length ≤ roundUp body.length ∧
      s.upgradeFlashAddr.toNat + SECTOR_SIZE * ps.length ≤ 2 ^ 32 := by
    intro htype
    obtain ⟨hflat, hpieces, hne⟩ := hup htype
    have hfit := sectors_le_roundUp hpieces hne
    rw [hflat] at hfit
    have hbound := (hplaced htype).bound
    have hround : roundUp body.length < body.length + SECTOR_SIZE := by
      simp only [roundUp, SECTOR_SIZE]
      omega
    have hsize : SECTOR_SIZE = 4096 := rfl
    exact ⟨hflat, hpieces, hfit, by omega⟩
  refine ⟨u, _, rfl, hcall, hclean, fun htype => ?_, fun htype a ha => ?_, fun htype => ?_⟩
  · obtain ⟨hflat, hpieces, -, hfit⟩ := sectors htype
    show slice (applyAll SECTOR_SIZE (s.spi.log ++ rewrite SECTOR_SIZE s.upgradeFlashAddr ps) s.spi.base) _ _ = body
    rw [applyAll_append, ← hflat]
    exact hpieces.slice_rewrite (by decide) (hplaced htype).aligned hfit _
  · obtain ⟨-, hpieces, hround, hfit⟩ := sectors htype
    show applyAll SECTOR_SIZE (s.spi.log ++ rewrite SECTOR_SIZE s.upgradeFlashAddr ps) s.spi.base a = _
    rw [applyAll_append]
    refine applyAll_of_not_touches (fun op hop htouch => ?_) _
    have := rewrite_touches (by decide) (hplaced htype).aligned hpieces.le hfit op hop a htouch
    omega
  · have hbuf := hother htype
    have hhanded : Handed u { s.session (s.rewritten ps) s.heap out u n timer with upgradeFlag := .finish } :=
      handed_of_accepted htype haccepted (by rw [hbuf]; exact hlen.symm)
    show handedOn u _ = _
    unfold handedOn
    rw [if_pos ⟨rfl, by rw [hbuf]; exact List.length_pos_of_ne_nil hpos, hhanded, hheap⟩, hbuf]

section
variable {md5} {t : App} {v : UpgradeStatus} {c : Chunk}

/-- A chunk that does not complete the body does not end the session. -/
theorem Receives.goesOn (h : Receives s u₀ n got (t.receive c true)) (hlive : t.upgrade = .live v)
    (hrun : t.crashed = false) (hlt : got.length < n.toNat) : t.calls (.received c true) = none := by
  refine Tracked.calls_none ?_
  rw [ending_live hlive hrun]
  exact if_neg (by rw [(h.1 hlt).1]; exact Bool.false_ne_true)

/-- The chunk that completes the body ends the session. -/
theorem Receives.ends (h : Receives s u₀ n got (t.receive c true)) (hlive : t.upgrade = .live v)
    (hrun : t.crashed = false) (hplaced : s.upgradeType = .upgrade → s.Placed)
    (haccepted : ¬ContentLengthError s.upgradeType s.upgradeFlashMap n) (hlen : n.toNat = got.length)
    (hpos : got ≠ []) (hheap : s.heap 0 = true) :
    ∃ e, t.calls (.received c true) = some (u₀.callback, true, e) ∧ s.Delivered got e := by
  obtain ⟨hends, htaken⟩ := h.2 hlen.symm
  obtain ⟨w, e, hw, hcall, hclean, hdelivered⟩ := htaken.delivered hplaced haccepted hlen hpos hheap
  have hending : t.ending (.received c true) = some (t.receive c true).2 := by
    rw [ending_live hlive hrun]
    exact if_pos hends
  refine ⟨e, ?_, hdelivered⟩
  rw [calls_of_ending hending hw, hcall, hclean]

end

end App

namespace Tracked

open App

variable {lib : LibAt} {md5 : List UInt8 → Digest} {x : Tracked} {u : UpgradeStatus}

/-- A session in progress that has received nothing. -/
theorem Sessions.fresh (h : x.Sessions) (hrun : x.app.crashed = false) (hlive : x.app.upgrade = .live u)
    (hnew : x.chunks = []) : x.app.Fresh u := by
  rcases h.resolve_left (by rw [hrun]; exact Bool.false_ne_true) u hlive with hup | hcol
  · obtain ⟨s₀, h0, -, -, hsession⟩ := hup
    rw [hnew] at hsession
    obtain ⟨d, heap, out, v, n, timer, full, heq, hp, rfl, -⟩ := hsession
    rw [heq] at hlive
    obtain rfl := UpgradePtr.live.inj hlive
    have hcount := hp.count
    have hempty : (responseBody []).length = 0 := rfl
    have hfull : full = [] := List.length_eq_zero_iff.mp (by simp only [SECTOR_SIZE] at hcount; omega)
    subst hfull
    have htype : x.app.upgradeType = .upgrade := by
      rw [heq]
      exact h0.type
    have hlength : x.app.upgradeContentLen = 0 := by
      rw [heq]
      rfl
    have hlive' : x.app.upgrade = .live v := by
      rw [heq]
      rfl
    refine ⟨hlive', hrun, ⟨rfl, hp.body.symm, by simp, fun _ => rfl, fun _ => ?_, hp.total⟩, hlength, fun _ => ?_⟩
    · rw [heq]
      exact hp.addr
    · rw [heq]
      exact ⟨h0.aligned, h0.bound⟩
  · obtain ⟨htotal, hbuffer, hlength, -⟩ := hcol.responding
    rw [hnew] at htotal hbuffer hlength
    refine ⟨hlive, hrun, ⟨rfl, ?_, by simp, fun _ => rfl, fun htype => absurd htype hcol.type, htotal⟩, hlength,
      fun htype => absurd htype hcol.type⟩
    rw [hbuffer]
    rfl

variable (lib md5) in
/-- **The download does not depend on how the response is split.** A session that is in progress after any actions
and has received nothing ends with the last chunk of the response, and not before. -/
theorem whole_response {s : App} (hs : ∀ u, s.upgrade ≠ .live u) (actions : List UpdateAction)
    (hx : run (next lib md5) actions (atReset s) = x) (hrun : x.app.crashed = false) (hlive : x.app.upgrade = .live u)
    (hnew : x.chunks = []) (hok : x.app.spi.AllOk) (hheap : x.app.heap 0 = true) {n : UInt32} {head body : List UInt8}
    (hhead : responseHeader head = some (n, [])) (hlen : n.toNat = body.length) (hpos : body ≠ [])
    (haccepted : ¬ContentLengthError x.app.upgradeType x.app.upgradeFlashMap n) {chunks : List Chunk}
    (hsplit : Split head body chunks) {before after : List Chunk} {c : Chunk}
    (hchunks : chunks = before ++ c :: after) :
    (∃ v, (x.app.run md5 (arrivals before)).upgrade = .live v) ∧
      (after ≠ [] → (x.app.run md5 (arrivals before)).calls (.received c true) = none) ∧
      (after = [] → ∃ e, (x.app.run md5 (arrivals before)).calls (.received c true) = some (u.callback, true, e) ∧
        x.app.Delivered body e) := by
  have hsessions : x.Sessions := hx ▸ run_invariant (fun a y hy => sessions_next lib md5 hy a) (sessions_atReset hs)
  have hfresh := hsessions.fresh hrun hlive hnew
  obtain ⟨first, later, content, hfirst, hcontent, hlater, rfl⟩ := hsplit
  cases before with
  | nil =>
    obtain ⟨rfl, rfl⟩ := List.cons.inj hchunks
    have hle : content.length ≤ n.toNat := by
      rw [hlen, List.length_append]
      omega
    have hreceive := hfresh.receive hok hhead haccepted hcontent hle hfirst
    refine ⟨⟨u, hlive⟩, fun hafter => ?_, fun hafter => ?_⟩
    · have hlt := length_lt_of_rest hafter (fun c hc => (hlater c hc).1) content
      exact hreceive.goesOn hlive hrun (by omega)
    · subst hafter
      rw [List.map_nil, List.flatten_nil, List.append_nil] at hlen hpos ⊢
      exact hreceive.ends hlive hrun hfresh.placed haccepted hlen hpos hheap
  | cons _ before =>
    obtain ⟨rfl, hlater'⟩ := List.cons.inj hchunks
    have hall : content ++ (later.map Subtype.val).flatten =
        content ++ (before.map Subtype.val).flatten ++ c.val ++ (after.map Subtype.val).flatten := by
      rw [hlater']
      simp [List.append_assoc]
    have htaking := hfresh.taking md5 hok hhead haccepted hfirst hcontent hlater hlen hlater' (List.cons_ne_nil _ _)
    have hc := hlater c (by rw [hlater']; simp)
    rw [hall] at hlen hpos ⊢
    have hle : (content ++ (before.map Subtype.val).flatten ++ c.val).length ≤ n.toNat := by
      rw [hlen]
      exact (List.prefix_append _ _).length_le
    have hsome : 0 < n.toNat := by
      rw [hlen]
      exact List.length_pos_of_ne_nil hpos
    have hreceive := htaking.receive hok hfresh.placed hsome haccepted hc.2 hle
    obtain ⟨full, v, out, timer, -, heq⟩ := htaking
    rw [heq] at hreceive ⊢
    refine ⟨⟨v, rfl⟩, fun hafter => ?_, fun hafter => ?_⟩
    · have hlt := length_lt_of_rest hafter
        (fun c hc => (hlater c (by rw [hlater']; simp [hc])).1) (content ++ (before.map Subtype.val).flatten ++ c.val)
      exact hreceive.goesOn rfl hrun (by omega)
    · subst hafter
      rw [List.map_nil, List.flatten_nil, List.append_nil] at hlen hpos ⊢
      exact hreceive.ends rfl hrun hfresh.placed haccepted hlen hpos hheap

/-- An update that has been started. -/
def started : Tracked := (atReset oneMegabyte).next plainAt Md5.digest (.command (.update .ok))

def threeHead : List UInt8 := ascii "HTTP/1.0 200 OK\r\nContent-Length: 3\r\n\r\n"

/-- A response of three bytes in two chunks. -/
def threeBytes : List Chunk := [⟨(threeHead ++ [1, 2]).take 0xFFFF, take_chunk _⟩, ⟨[3], by decide⟩]

theorem started_live : ∃ u, started.app.upgrade = .live u ∧ u.callback = .update := ⟨_, rfl, rfl⟩

theorem threeBytes_split : responseHeader threeHead = some (3, []) ∧
    threeBytes.map Subtype.val = [threeHead ++ [1, 2], [3]] ∧
    ¬ContentLengthError started.app.upgradeType started.app.upgradeFlashMap 3 := by
  decide +kernel

/-- The two chunks put the three bytes into the flash. -/
theorem whole_response_threeBytes : ∃ c ∈ threeBytes.getLast?, ∃ e,
    (started.app.run Md5.digest (arrivals threeBytes.dropLast)).calls (.received c true) = some (.update, true, e) ∧
      started.app.Delivered [1, 2, 3] e := by
  obtain ⟨u, hlive, hcall⟩ := started_live
  obtain ⟨hhead, hchunks, haccepted⟩ := threeBytes_split
  have hsplit : Split threeHead [1, 2, 3] threeBytes := by
    refine ⟨_, _, [1, 2], (List.cons.inj hchunks).1, by decide, ?_, rfl⟩
    intro c hc
    obtain rfl := List.mem_singleton.mp hc
    decide
  have hlast : threeBytes = threeBytes.dropLast ++ ⟨[3], by decide⟩ :: [] := rfl
  have hend := whole_response plainAt Md5.digest (s := oneMegabyte) (by rintro u ⟨⟩) [.command (.update .ok)]
    (x := started) rfl rfl hlive rfl (fun _ => rfl) rfl hhead (by decide) (by decide) haccepted hsplit hlast
  rw [← hcall]
  exact ⟨_, rfl, hend.2.2 rfl⟩

end Tracked

end Esp8266At
