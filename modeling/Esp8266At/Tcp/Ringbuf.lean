import Esp8266At.Lib.Ring
import Esp8266At.Lib.Runs

/-!
# The receive ring

`espconn_buf.c`: a ring of bytes, of which one cell always stays free. Bytes that do not fit displace the oldest ones.
From `ringbuf_new` on, through any calls of the other functions, the ring answers like a queue of limited length, and
none of its assertions fails (`ringbuf_refines`).
-/

namespace Esp8266At

open Ring

/-- `struct ringbuf_t`; `head` and `tail` are offsets into `buf`. -/
structure Ringbuf where
  buf : List UInt8
  head : ℕ
  tail : ℕ

namespace Ringbuf

/-! ### The functions

An assertion that fails leaves `none`. -/

/-- `ringbuf_new`, with the results of its two allocations. -/
def ringbufNew (first second : Bool) (capacity : ℕ) : Option Ringbuf :=
  if first then
    if second then some { buf := List.replicate (capacity + 1) 0, head := 0, tail := 0 } else none
  else none

def bufferSize (rb : Ringbuf) : ℕ := rb.buf.length

def reset (rb : Ringbuf) : Ringbuf := { rb with head := 0, tail := 0 }

def capacity (rb : Ringbuf) : ℕ := rb.bufferSize - 1

def bytesFree (rb : Ringbuf) : ℕ :=
  if rb.head ≥ rb.tail then rb.capacity - (rb.head - rb.tail) else rb.tail - rb.head - 1

def bytesUsed (rb : Ringbuf) : ℕ := rb.capacity - rb.bytesFree

def isFull (rb : Ringbuf) : Bool := rb.bytesFree = 0

def isEmpty (rb : Ringbuf) : Bool := rb.bytesFree = rb.capacity

def nextp (rb : Ringbuf) (p : ℕ) : Option ℕ := if p < rb.bufferSize then some ((p + 1) % rb.bufferSize) else none

/-- A pointer `n` cells further on, at the start of the buffer when it has reached the end. -/
def advance (size p n : ℕ) : ℕ := if p + n = size then 0 else p + n

/-- The loop of `ringbuf_memcpy_into` and of `ringbuf_memset`: the bytes go to `head`, up to the end of the buffer at
most, and then to its start. -/
def intoLoop (buf : List UInt8) (head : ℕ) (src : List UInt8) : Option (List UInt8 × ℕ) :=
  if src = [] then some (buf, head)
  else if buf.length ≤ head then none
  else
    let n := min (buf.length - head) src.length
    intoLoop (overwrite buf head (src.take n)) (advance buf.length head n) (src.drop n)
termination_by src.length
decreasing_by
  have := List.length_pos_iff.mpr ‹_›
  rw [List.length_drop]
  omega

/-- What follows the loop: without enough room `tail` is moved behind `head`. -/
def overflowed (overflow : Bool) (rb : Ringbuf) : Option Ringbuf :=
  if overflow then
    match rb.nextp rb.head with
    | some tail => if { rb with tail }.isFull then some { rb with tail } else none
    | none => none
  else some rb

/-- `ringbuf_memcpy_into`. -/
def memcpyInto (dst : Ringbuf) (src : List UInt8) : Option Ringbuf :=
  match intoLoop dst.buf dst.head src with
  | some (buf, head) => overflowed (src.length > dst.bytesFree) { dst with buf, head }
  | none => none

/-- `ringbuf_memset`, which returns how many bytes it has written. -/
def memset (dst : Ringbuf) (c : UInt8) (len : ℕ) : Option (ℕ × Ringbuf) :=
  let count := min len dst.bufferSize
  match intoLoop dst.buf dst.head (List.replicate count c) with
  | some (buf, head) => (overflowed (count > dst.bytesFree) { dst with buf, head }).map fun rb => (count, rb)
  | none => none

/-- The loop of `ringbuf_memcpy_from`: the bytes copied, and `tail` after it. -/
def fromLoop (buf : List UInt8) (tail count : ℕ) : Option (List UInt8 × ℕ) :=
  if count = 0 then some ([], tail)
  else if buf.length ≤ tail then none
  else
    let n := min (buf.length - tail) count
    (fromLoop buf (advance buf.length tail n) (count - n)).map fun (bytes, tail') =>
      ((buf.drop tail).take n ++ bytes, tail')
termination_by count

/-- `ringbuf_memcpy_from`: the bytes it has copied, if there are as many. -/
def memcpyFrom (src : Ringbuf) (count : ℕ) : Option (Option (List UInt8) × Ringbuf) :=
  if count > src.bytesUsed then some (none, src)
  else
    match fromLoop src.buf src.tail count with
    | some (bytes, tail) =>
      if count + { src with tail }.bytesUsed = src.bytesUsed then some (some bytes, { src with tail }) else none
    | none => none

/-- `ringbuf_findchr`. -/
def findchr (rb : Ringbuf) (c : UInt8) (offset : ℕ) : Option ℕ :=
  if offset ≥ rb.bytesUsed then some rb.bytesUsed
  else
    let start := (rb.tail + offset) % rb.bufferSize
    if rb.bufferSize ≤ start then none
    else
      let n := min (rb.bufferSize - start) (rb.bytesUsed - offset)
      match ((rb.buf.drop start).take n).findIdx? (· == c) with
      | some found => some (offset + found)
      | none => findchr rb c (offset + n)
termination_by rb.bytesUsed - offset

/-! ### What the ring holds -/

/-- The ring has room for `cap` bytes and holds `q`. -/
structure Holds (cap : ℕ) (q : List UInt8) (rb : Ringbuf) : Prop where
  size : rb.buf.length = cap + 1
  head_lt : rb.head < cap + 1
  tail_lt : rb.tail < cap + 1
  cells : (rb.buf.rotate rb.head).drop (cap + 1 - rb.bytesUsed) = q

variable {cap : ℕ} {q : List UInt8} {rb : Ringbuf}

variable (rb) in
theorem bytesUsed_eq (hsize : rb.buf.length = cap + 1) (htail : rb.tail < cap + 1) (hhead : rb.head < cap + 1) :
    rb.bytesUsed = if rb.tail ≤ rb.head then rb.head - rb.tail else rb.head + (cap + 1) - rb.tail := by
  simp only [bytesUsed, bytesFree, capacity, bufferSize, hsize, ge_iff_le]
  split_ifs <;> omega

variable (rb) in
theorem bytesFree_add_bytesUsed (hsize : rb.buf.length = cap + 1) (htail : rb.tail < cap + 1)
    (hhead : rb.head < cap + 1) : rb.bytesFree + rb.bytesUsed = cap := by
  simp only [bytesUsed, bytesFree, capacity, bufferSize, hsize, ge_iff_le]
  split_ifs <;> omega

namespace Holds

theorem free (h : Holds cap q rb) : rb.bytesFree + rb.bytesUsed = cap :=
  bytesFree_add_bytesUsed rb h.size h.tail_lt h.head_lt

theorem used (h : Holds cap q rb) : rb.bytesUsed = q.length := by
  have hfree := h.free
  rw [← h.cells, List.length_drop, List.length_rotate, h.size]
  omega

/-- From `tail` on, the bytes come in their order. -/
theorem rotate_tail (h : Holds cap q rb) :
    rb.buf.rotate rb.tail = q ++ (rb.buf.rotate rb.head).take (cap + 1 - rb.bytesUsed) := by
  have hfree := h.free
  have hle : cap + 1 - rb.bytesUsed ≤ (rb.buf.rotate rb.head).length := by
    rw [List.length_rotate, h.size]
    omega
  have hused := bytesUsed_eq rb h.size h.tail_lt h.head_lt
  have htail := h.tail_lt
  rw [← h.cells, ← List.rotate_eq_drop_append_take hle, List.rotate_rotate]
  split_ifs at hused with hle'
  · rw [show rb.head + (cap + 1 - rb.bytesUsed) = rb.tail + rb.buf.length by rw [h.size]; omega,
      ← List.rotate_mod rb.buf (rb.tail + _), Nat.add_mod_right, List.rotate_mod]
  · rw [show rb.head + (cap + 1 - rb.bytesUsed) = rb.tail by omega]

end Holds

theorem holds_new {first second : Bool} (h : ringbufNew first second cap = some rb) : Holds cap [] rb := by
  unfold ringbufNew at h
  split_ifs at h
  obtain rfl := Option.some.inj h
  have hlen : (List.replicate (cap + 1) (0 : UInt8)).length = cap + 1 := List.length_replicate ..
  refine ⟨hlen, Nat.succ_pos _, Nat.succ_pos _, List.drop_eq_nil_of_le ?_⟩
  rw [bytesUsed_eq _ hlen (Nat.succ_pos _) (Nat.succ_pos _), List.length_rotate, hlen]
  simp

theorem Holds.reset (h : Holds cap q rb) : Holds cap [] rb.reset := by
  refine ⟨h.size, Nat.succ_pos _, Nat.succ_pos _, List.drop_eq_nil_of_le ?_⟩
  rw [bytesUsed_eq rb.reset h.size (Nat.succ_pos _) (Nat.succ_pos _), List.length_rotate]
  exact h.size.le

/-! ### Writing -/

theorem advance_eq {size p n : ℕ} (hn : p + n ≤ size) : advance size p n = (p + n) % size := by
  unfold advance
  split_ifs with hlast
  · rw [hlast, Nat.mod_self]
  · exact (Nat.mod_eq_of_lt (by omega)).symm

theorem advance_lt {size p n : ℕ} (hsize : 0 < size) (hn : p + n ≤ size) : advance size p n < size := by
  rw [advance_eq hn]
  exact Nat.mod_lt _ hsize

/-- The loop writes every byte, in pieces that do not pass the end of the buffer. -/
theorem intoLoop_spec (buf : List UInt8) (head : ℕ) (src : List UInt8) (hhead : head < buf.length) : ∃ buf',
    intoLoop buf head src = some (buf', (head + src.length) % buf.length) ∧ buf'.length = buf.length ∧
      buf'.rotate (head + src.length) = slide (buf.rotate head) src := by
  fun_induction intoLoop buf head src with
  | case1 buf head => exact ⟨buf, by rw [List.length_nil, Nat.add_zero, Nat.mod_eq_of_lt hhead], rfl, by simp⟩
  | case2 buf head src hsrc hend => omega
  | case3 buf head src hsrc hend n ih =>
    have hn : (src.take n).length = n := by
      rw [List.length_take]
      omega
    have hle : n ≤ src.length := by omega
    have hlen := overwrite_length buf (src.take n) (i := head) (by omega)
    have hnext := advance_eq (show head + n ≤ buf.length by omega)
    have hsum : head + n + (src.drop n).length = head + src.length := by
      rw [List.length_drop]
      omega
    obtain ⟨buf', hloop, hlen', hrotate⟩ := ih (by rw [hlen, hnext]; exact Nat.mod_lt _ (by omega))
    rw [hlen] at hloop hlen'
    refine ⟨buf', ?_, hlen', ?_⟩
    · rw [hloop, hnext, Nat.mod_add_mod, hsum]
    · have hpiece := rotate_overwrite buf (src.take n) (i := head) (by omega)
      rw [hn] at hpiece
      rw [hnext, ← hlen, List.rotate_mod, hpiece, slide_slide, List.take_append_drop, ← List.rotate_mod, hlen',
        hlen, Nat.mod_add_mod, hsum, ← hlen', List.rotate_mod] at hrotate
      exact hrotate

/-- `head` behind the bytes that have been written, and `tail` behind `head` if they were too many. -/
theorem overflowed_spec (h : Holds cap q rb) {buf : List UInt8} {src : List UInt8} (hlen : buf.length = cap + 1)
    (hrotate : buf.rotate (rb.head + src.length) = slide (rb.buf.rotate rb.head) src) : ∃ rb',
    overflowed (src.length > rb.bytesFree) { rb with buf, head := (rb.head + src.length) % (cap + 1) } = some rb' ∧
      Holds cap (push cap q src) rb' := by
  have hfree := h.free
  have hused := h.used
  have htail := h.tail_lt
  set head := (rb.head + src.length) % (cap + 1) with hhead
  have hhead_lt : head < cap + 1 := Nat.mod_lt _ (Nat.succ_pos _)
  have hcells : buf.rotate head = slide (rb.buf.rotate rb.head) src := by
    rw [hhead, ← hlen, List.rotate_mod, hrotate]
  have hlen₀ : (rb.buf.rotate rb.head).length = cap + 1 := by rw [List.length_rotate, h.size]
  unfold overflowed
  by_cases hover : src.length > rb.bytesFree
  · -- the ring is full, and all cells but one belong to it
    have hnext : ({ rb with buf, head } : Ringbuf).nextp head = some ((head + 1) % (cap + 1)) := by
      unfold nextp bufferSize
      simp only [hlen, if_pos hhead_lt]
    have hnext_lt : (head + 1) % (cap + 1) < cap + 1 := Nat.mod_lt _ (Nat.succ_pos _)
    have hall : ({ buf, head, tail := (head + 1) % (cap + 1) } : Ringbuf).bytesUsed = cap := by
      rw [bytesUsed_eq _ hlen hnext_lt hhead_lt]
      show (if (head + 1) % (cap + 1) ≤ head then head - (head + 1) % (cap + 1)
        else head + (cap + 1) - (head + 1) % (cap + 1)) = cap
      by_cases hlast : head = cap
      · simp [hlast]
      · rw [Nat.mod_eq_of_lt (by omega), if_neg (by omega)]
        omega
    have hfull : ({ buf, head, tail := (head + 1) % (cap + 1) } : Ringbuf).isFull = true := by
      have := bytesFree_add_bytesUsed ⟨buf, head, (head + 1) % (cap + 1)⟩ hlen hnext_lt hhead_lt
      simp only [isFull, decide_eq_true_eq]
      omega
    simp only [decide_eq_true hover, if_true, hnext, hfull]
    refine ⟨_, rfl, hlen, hhead_lt, hnext_lt, ?_⟩
    rw [hall, hcells, Nat.add_sub_cancel_left]
    exact drop_slide_full h.cells (by omega) hlen₀ (by omega)
  · simp only [decide_eq_false hover, Bool.false_eq_true, if_false]
    have hmore : ({ rb with buf, head } : Ringbuf).bytesUsed = rb.bytesUsed + src.length := by
      have hold := bytesUsed_eq rb h.size h.tail_lt h.head_lt
      have hbefore := h.head_lt
      rw [bytesUsed_eq { rb with buf, head } hlen htail hhead_lt]
      show (if rb.tail ≤ head then head - rb.tail else head + (cap + 1) - rb.tail) = _
      by_cases hwrap : rb.head + src.length < cap + 1
      · rw [Nat.mod_eq_of_lt hwrap] at hhead
        split_ifs at hold ⊢ <;> omega
      · rw [Nat.mod_eq_sub_mod (by omega), Nat.mod_eq_of_lt (by omega)] at hhead
        split_ifs at hold ⊢ <;> omega
    refine ⟨_, rfl, hlen, hhead_lt, htail, ?_⟩
    rw [hmore, hcells, push_of_le (by omega), ← Nat.sub_sub]
    exact drop_slide h.cells (by omega) (by omega)

/-- `ringbuf_memcpy_into` adds to the queue. -/
theorem Holds.memcpyInto (h : Holds cap q rb) (src : List UInt8) : ∃ rb', rb.memcpyInto src = some rb' ∧
    Holds cap (push cap q src) rb' := by
  obtain ⟨buf, hloop, hlen, hrotate⟩ := intoLoop_spec rb.buf rb.head src (by rw [h.size]; exact h.head_lt)
  rw [h.size] at hloop hlen
  unfold Ringbuf.memcpyInto
  simp only [hloop]
  exact overflowed_spec h hlen hrotate

/-- `ringbuf_memset` adds as many bytes as the buffer has cells at most. -/
theorem Holds.memset (h : Holds cap q rb) (c : UInt8) (len : ℕ) : ∃ rb',
    rb.memset c len = some (min len (cap + 1), rb') ∧
      Holds cap (push cap q (List.replicate (min len (cap + 1)) c)) rb' := by
  have hsize : rb.bufferSize = cap + 1 := h.size
  obtain ⟨buf, hloop, hlen, hrotate⟩ := intoLoop_spec rb.buf rb.head (List.replicate (min len (cap + 1)) c)
    (by rw [h.size]; exact h.head_lt)
  rw [h.size] at hloop hlen
  obtain ⟨rb', hend, hholds⟩ := overflowed_spec h hlen hrotate
  rw [List.length_replicate] at hloop hend
  unfold Ringbuf.memset
  simp only [hsize, hloop, hend, Option.map_some]
  exact ⟨rb', rfl, hholds⟩

/-! ### Reading -/

/-- A piece that does not pass the end of the buffer. -/
theorem rotate_take {buf : List UInt8} {p n : ℕ} (h : p + n ≤ buf.length) :
    (buf.rotate p).take n = (buf.drop p).take n := by
  rw [List.rotate_eq_drop_append_take (by omega), List.take_append_of_le_length (by rw [List.length_drop]; omega)]

/-- The loop reads every byte, in pieces that do not pass the end of the buffer. -/
theorem fromLoop_spec (buf : List UInt8) (tail count : ℕ) (htail : tail < buf.length) (hcount : count ≤ buf.length) :
    fromLoop buf tail count = some ((buf.rotate tail).take count, (tail + count) % buf.length) := by
  fun_induction fromLoop buf tail count with
  | case1 tail => rw [List.take_zero, Nat.add_zero, Nat.mod_eq_of_lt htail]
  | case2 tail count hzero hend => omega
  | case3 tail count hzero hend n ih =>
    have hpiece : tail + n ≤ buf.length := by omega
    have hnext := advance_eq hpiece
    rw [ih (advance_lt (by omega) hpiece) (by omega), hnext, List.rotate_mod, ← List.rotate_rotate, Nat.mod_add_mod,
      show tail + n + (count - n) = tail + count by omega, Option.map_some]
    refine congrArg (fun bytes => some (bytes, _)) ?_
    have hlen : ((buf.rotate tail).take n).length = n := by
      rw [List.length_take, List.length_rotate]
      omega
    have hsplit := List.take_append_drop n (buf.rotate tail)
    rw [← rotate_take hpiece,
      List.rotate_eq_drop_append_take (l := buf.rotate tail) (by rw [List.length_rotate]; omega),
      List.take_append_of_le_length (by rw [List.length_drop, List.length_rotate]; omega)]
    conv_rhs => rw [← hsplit, List.take_append, hlen, List.take_of_length_le (by omega)]

/-- `ringbuf_memcpy_from` takes from the front of the queue, all or nothing. -/
theorem Holds.memcpyFrom (h : Holds cap q rb) (count : ℕ) : ∃ rb',
    rb.memcpyFrom count = some (if count ≤ q.length then some (q.take count) else none, rb') ∧
      Holds cap (if count ≤ q.length then q.drop count else q) rb' := by
  have hused := h.used
  have hfree := h.free
  have hhead := h.head_lt
  unfold Ringbuf.memcpyFrom
  by_cases hmany : count ≤ q.length
  · rw [if_neg (by omega), if_pos hmany, if_pos hmany]
    have hloop := fromLoop_spec rb.buf rb.tail count (by rw [h.size]; exact h.tail_lt) (by rw [h.size]; omega)
    rw [h.rotate_tail, List.take_append_of_le_length hmany, h.size] at hloop
    simp only [hloop]
    have htail_lt : (rb.tail + count) % (cap + 1) < cap + 1 := Nat.mod_lt _ (Nat.succ_pos _)
    have hrest : ({ rb with tail := (rb.tail + count) % (cap + 1) } : Ringbuf).bytesUsed = rb.bytesUsed - count := by
      have hold := bytesUsed_eq rb h.size h.tail_lt h.head_lt
      have htail := h.tail_lt
      rw [bytesUsed_eq { rb with tail := (rb.tail + count) % (cap + 1) } h.size htail_lt hhead]
      show (if (rb.tail + count) % (cap + 1) ≤ rb.head then rb.head - (rb.tail + count) % (cap + 1)
        else rb.head + (cap + 1) - (rb.tail + count) % (cap + 1)) = _
      by_cases hwrap : rb.tail + count < cap + 1
      · rw [Nat.mod_eq_of_lt hwrap]
        split_ifs at hold ⊢ <;> omega
      · rw [Nat.mod_eq_sub_mod (by omega), Nat.mod_eq_of_lt (by omega)]
        split_ifs at hold ⊢ <;> omega
    rw [if_pos (by omega)]
    refine ⟨_, rfl, h.size, hhead, htail_lt, ?_⟩
    rw [hrest, ← h.cells, List.drop_drop]
    congr 1
    omega
  · rw [if_pos (by omega), if_neg hmany, if_neg hmany]
    exact ⟨rb, rfl, h⟩

/-- The bytes `ringbuf_findchr` looks at in one piece. -/
theorem Holds.piece (h : Holds cap q rb) {offset n : ℕ} (hq : offset + n ≤ q.length)
    (hend : (rb.tail + offset) % rb.bufferSize + n ≤ rb.bufferSize) :
    (rb.buf.drop ((rb.tail + offset) % rb.bufferSize)).take n = (q.drop offset).take n := by
  have hused := h.used
  have hfree := h.free
  have hlen : (rb.buf.rotate rb.tail).length = cap + 1 := by rw [List.length_rotate, h.size]
  rw [← rotate_take hend, bufferSize, List.rotate_mod, ← List.rotate_rotate,
    List.rotate_eq_drop_append_take (by omega), List.take_append_of_le_length (by rw [List.length_drop]; omega),
    h.rotate_tail, List.drop_append_of_le_length (by omega),
    List.take_append_of_le_length (by rw [List.length_drop]; omega)]

/-- `ringbuf_findchr` finds the first such byte from the offset on; without one it returns the number of bytes. -/
theorem Holds.findchr (h : Holds cap q rb) (c : UInt8) (offset : ℕ) :
    rb.findchr c offset =
      some (if offset ≥ q.length then q.length else offset + (q.drop offset).findIdx (· == c)) := by
  have hused := h.used
  have hsize : rb.bufferSize = cap + 1 := h.size
  fun_induction Ringbuf.findchr rb c offset with
  | case1 offset hoffset => rw [if_pos (by omega), hused]
  | case2 offset hoffset start hend =>
    have : start < rb.bufferSize := Nat.mod_lt _ (by omega)
    omega
  | case3 offset hoffset start hend n found hfound =>
    rw [h.piece (by omega) (show start + n ≤ rb.bufferSize by omega)] at hfound
    obtain ⟨hlt, hfirst⟩ := List.findIdx?_eq_some_iff_findIdx_eq.mp hfound
    rw [if_neg (by omega), ← List.take_append_drop n (q.drop offset), List.findIdx_append,
      if_pos (by omega), hfirst]
  | case4 offset hoffset start hend n hnot ih =>
    have hstart : start < rb.bufferSize := Nat.mod_lt _ (by omega)
    rw [h.piece (by omega) (show start + n ≤ rb.bufferSize by omega)] at hnot
    have hnone := List.findIdx?_eq_none_iff_findIdx_eq.mp hnot
    have hlen : ((q.drop offset).take n).length = n := by
      rw [List.length_take, List.length_drop]
      omega
    have hmiss : ¬((q.drop offset).take n).findIdx (· == c) < ((q.drop offset).take n).length := by omega
    rw [ih, if_neg (show ¬offset ≥ q.length by omega), ← List.take_append_drop n (q.drop offset), List.findIdx_append,
      if_neg hmiss, List.drop_drop, hlen]
    refine congrArg some ?_
    split_ifs with hlast
    · rw [List.drop_of_length_le hlast, List.findIdx_nil]
      omega
    · omega

/-! ### Calls -/

/-- The calls of a program that has a ring. -/
inductive Call where
  | reset
  | capacity
  | bytesFree
  | bytesUsed
  | isFull
  | isEmpty
  | findchr (c : UInt8) (offset : ℕ)
  | memset (c : UInt8) (len : ℕ)
  | memcpyInto (src : List UInt8)
  | memcpyFrom (count : ℕ)

/-- What they return. -/
inductive Answer where
  | done
  | size (n : ℕ)
  | truth (b : Bool)
  | bytes (bs : Option (List UInt8))

def call (rb : Ringbuf) : Call → Option (Answer × Ringbuf)
  | .reset => some (.done, rb.reset)
  | .capacity => some (.size rb.capacity, rb)
  | .bytesFree => some (.size rb.bytesFree, rb)
  | .bytesUsed => some (.size rb.bytesUsed, rb)
  | .isFull => some (.truth rb.isFull, rb)
  | .isEmpty => some (.truth rb.isEmpty, rb)
  | .findchr c offset => (rb.findchr c offset).map fun n => (.size n, rb)
  | .memset c len => (rb.memset c len).map fun r => (.size r.1, r.2)
  | .memcpyInto src => (rb.memcpyInto src).map fun rb' => (.done, rb')
  | .memcpyFrom count => (rb.memcpyFrom count).map fun r => (.bytes r.1, r.2)

def calls : List Call → Ringbuf → Option (List Answer × Ringbuf)
  | [], rb => some ([], rb)
  | c :: cs, rb =>
    match rb.call c with
    | some (a, rb') => (calls cs rb').map fun r => (a :: r.1, r.2)
    | none => none

/-- The same call to a queue for `cap` bytes. -/
def onQueue (cap : ℕ) (q : List UInt8) : Call → Answer × List UInt8
  | .reset => (.done, [])
  | .capacity => (.size cap, q)
  | .bytesFree => (.size (cap - q.length), q)
  | .bytesUsed => (.size q.length, q)
  | .isFull => (.truth (q.length = cap), q)
  | .isEmpty => (.truth (q = []), q)
  | .findchr c offset =>
    (.size (if offset ≥ q.length then q.length else offset + (q.drop offset).findIdx (· == c)), q)
  | .memset c len => (.size (min len (cap + 1)), push cap q (List.replicate (min len (cap + 1)) c))
  | .memcpyInto src => (.done, push cap q src)
  | .memcpyFrom count => if count ≤ q.length then (.bytes (some (q.take count)), q.drop count) else (.bytes none, q)

def onQueues (cap : ℕ) : List Call → List UInt8 → List Answer × List UInt8
  | [], q => ([], q)
  | c :: cs, q =>
    let (a, q') := onQueue cap q c
    let (as, q'') := onQueues cap cs q'
    (a :: as, q'')

/-- A call answers like the queue. -/
theorem Holds.call (h : Holds cap q rb) (c : Call) : ∃ rb', rb.call c = some ((onQueue cap q c).1, rb') ∧
    Holds cap (onQueue cap q c).2 rb' := by
  have hused := h.used
  have hfree := h.free
  have hcap : rb.capacity = cap := by
    rw [capacity, bufferSize, h.size, Nat.add_sub_cancel]
  cases c with
  | reset => exact ⟨_, rfl, h.reset⟩
  | capacity => exact ⟨rb, by rw [Ringbuf.call, hcap, onQueue], h⟩
  | bytesFree =>
    have : rb.bytesFree = cap - q.length := by omega
    exact ⟨rb, by rw [Ringbuf.call, this, onQueue], h⟩
  | bytesUsed => exact ⟨rb, by rw [Ringbuf.call, hused, onQueue], h⟩
  | isFull =>
    have : rb.isFull = decide (q.length = cap) := decide_eq_decide.mpr (by omega)
    exact ⟨rb, by rw [Ringbuf.call, this, onQueue], h⟩
  | isEmpty =>
    have : rb.isEmpty = decide (q = []) :=
      decide_eq_decide.mpr (by rw [hcap, ← List.length_eq_zero_iff]; omega)
    exact ⟨rb, by rw [Ringbuf.call, this, onQueue], h⟩
  | findchr c offset => exact ⟨rb, by rw [Ringbuf.call, h.findchr, Option.map_some, onQueue], h⟩
  | memset c len =>
    obtain ⟨rb', hset, hholds⟩ := h.memset c len
    exact ⟨rb', by rw [Ringbuf.call, hset, Option.map_some, onQueue], hholds⟩
  | memcpyInto src =>
    obtain ⟨rb', hinto, hholds⟩ := h.memcpyInto src
    exact ⟨rb', by rw [Ringbuf.call, hinto, Option.map_some, onQueue], hholds⟩
  | memcpyFrom count =>
    obtain ⟨rb', hfrom, hholds⟩ := h.memcpyFrom count
    rw [Ringbuf.call, hfrom, Option.map_some, onQueue]
    split_ifs at hholds ⊢
    · exact ⟨rb', rfl, hholds⟩
    · exact ⟨rb', rfl, hholds⟩

theorem Holds.calls (h : Holds cap q rb) (cs : List Call) : ∃ rb', rb.calls cs = some ((onQueues cap cs q).1, rb') ∧
    Holds cap (onQueues cap cs q).2 rb' := by
  induction cs generalizing q rb with
  | nil => exact ⟨rb, rfl, h⟩
  | cons c cs ih =>
    obtain ⟨rb₁, hcall, hholds⟩ := h.call c
    obtain ⟨rb₂, hcalls, hholds₂⟩ := ih hholds
    refine ⟨rb₂, ?_, hholds₂⟩
    simp only [Ringbuf.calls, hcall, hcalls, Option.map_some, onQueues]

/-- **A ring is a queue**: from `ringbuf_new` on, through any calls, every call returns what it would for a queue of
the capacity that gives up its oldest bytes when it is full, and no assertion fails. -/
theorem ringbuf_refines (capacity : ℕ) (cs : List Call) : ∃ rb rb', ringbufNew true true capacity = some rb ∧
    rb.calls cs = some ((onQueues capacity cs []).1, rb') ∧ Holds capacity (onQueues capacity cs []).2 rb' := by
  obtain ⟨rb', hcalls, hholds⟩ := (holds_new (rfl : ringbufNew true true capacity = some _)).calls cs
  exact ⟨_, rb', rfl, hcalls, hholds⟩

end Ringbuf

end Esp8266At
