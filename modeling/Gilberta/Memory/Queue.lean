import Gilberta.Effects.Primitives
import Gilberta.Foundations.Machines
import Gilberta.Foundations.RingBuffer

/-!
# Queues in bytes

`queue.c` as it works on memory. The elements of a `glbqueue` are ranges of bytes in one flat pool,
and they are found by 32-bit arithmetic that wraps: an index modulo the capacity, times the size of
an element. An access that leaves the pool, or the memory an argument points to, has no result. The
queue itself is never `NULL`.

The rest of the development takes a queue for the bounded list of its elements. `answersAlike` is
why it may: within 2 ^ 31 elements and 2 ^ 32 bytes, a call on a queue in memory is answered like
the same call on a `Glbqueue` of byte strings. The proof goes through the rings of
`Foundations/RingBuffer.lean`, in which nothing wraps: `Holds` says that a queue in memory is such a
ring, and `toNat_index` that the arithmetic of the source does not wrap either.
-/

namespace Gilberta

/-- The memory of a `glbqueue`. -/
structure Glbqueuebuf where
  /-- The block the queue and its pool live in. -/
  block : Block
  /-- Element storage buffer. -/
  pool : List UInt8
  /-- Index of the first element. -/
  head : UInt32
  /-- Current number of elements in the queue. -/
  length : UInt32
  /-- Maximum capacity, in elements. -/
  capacity : UInt32
  /-- Size of a single element in bytes. -/
  elementSize : UInt32
  deriving DecidableEq, Repr

/-- A call on a queue. Arguments that are `NULL` are `none` or `false`. -/
inductive QueueOp
  | push (element : Option (List UInt8))
  | pop (outElement : Bool)
  | peek (outElement : Bool)

namespace Glbqueuebuf

/-- `glbqueue_init`. The allocator leaves any bytes in the pool. -/
def init (a : Allocator) (ok : Bool) (garbage : ℕ → UInt8) (elementSize capacity : UInt32) :
    Allocator × Option Glbqueuebuf :=
  if elementSize = 0 ∨ capacity = 0 then (a, none) else
  match a.malloc ok with
  | (a, none) => (a, none)
  | (a, some b) => (a, some
    { block := b
      pool := (List.range (capacity.toNat * elementSize.toNat)).map garbage
      head := 0
      length := 0
      capacity := capacity
      elementSize := elementSize })

variable (q : Glbqueuebuf)

/-- The bytes a push stores: `memcpy` reads them from the element, `memset` makes zeros when there
is none. -/
def pushed : Option (List UInt8) → Option (List UInt8)
  | some element => readAt element 0 q.elementSize.toNat
  | none => some (List.replicate q.elementSize.toNat 0)

/-- `glbqueue_push`. -/
def push (element : Option (List UInt8)) : Option (GLBErrorCode × Glbqueuebuf) :=
  if q.length ≥ q.capacity then some (.queueFull, q) else
  let tailIndex := (q.head + q.length) % q.capacity * q.elementSize
  (q.pushed element).bind fun bytes ↦ (writeAt q.pool tailIndex.toNat bytes).map fun pool ↦
    (.success, { q with pool := pool, length := q.length + 1 })

/-- `glbqueue_pop`, with the bytes it copies out. -/
def pop (outElement : Bool) : Option (GLBErrorCode × Option (List UInt8) × Glbqueuebuf) :=
  if q.length = 0 then some (.queueEmpty, none, q) else
  let src := q.head * q.elementSize
  let q' := { q with head := (q.head + 1) % q.capacity, length := q.length - 1 }
  if outElement then
    (readAt q.pool src.toNat q.elementSize.toNat).map fun bytes ↦ (.success, some bytes, q')
  else some (.success, none, q')

/-- `glbqueue_peek`, with the place in the pool it points to. -/
def peek (outElement : Bool) : GLBErrorCode × Option UInt32 :=
  if !outElement then (.invalidArgument, none) else
  if q.length = 0 then (.queueEmpty, none) else
  (.success, some (q.head * q.elementSize))

/-- A call, with its code and the element it gives: the bytes a pop copied out, or the bytes behind
the pointer of a peek. -/
def perform : QueueOp → Option ((GLBErrorCode × Option (List UInt8)) × Glbqueuebuf)
  | .push element => (q.push element).map fun r ↦ ((r.1, none), r.2)
  | .pop outElement => (q.pop outElement).map fun r ↦ ((r.1, r.2.1), r.2.2)
  | .peek outElement =>
    match q.peek outElement with
    | (code, none) => some ((code, none), q)
    | (code, some src) =>
      (readAt q.pool src.toNat q.elementSize.toNat).map fun bytes ↦ ((code, some bytes), q)

/-- The bytes of slot `k` of the pool. -/
def slotBytes (k : ℕ) : List UInt8 :=
  (q.pool.drop (k * q.elementSize.toNat)).take q.elementSize.toNat

/-- The slot of stored element `i`, counted from the oldest. -/
def slotOf (i : ℕ) : ℕ := (q.head.toNat + i) % q.capacity.toNat

/-- The stored elements, oldest first. -/
def elements : List (List UInt8) :=
  (List.range q.length.toNat).map fun i ↦ q.slotBytes (q.slotOf i)

end Glbqueuebuf

/-- The argument of a push is as long as an element. -/
def QueueOp.Fits (size : ℕ) : QueueOp → Prop
  | .push (some element) => size ≤ element.length
  | _ => True

/-- The element a push stores: the first bytes behind the pointer, or zeros. -/
def elementOf (size : ℕ) : Option (List UInt8) → List UInt8
  | some element => element.take size
  | none => List.replicate size 0

/-- The same call on a queue of byte strings. -/
def Glbqueue.perform (size : ℕ) (f : Glbqueue (List UInt8)) :
    QueueOp → Option ((GLBErrorCode × Option (List UInt8)) × Glbqueue (List UInt8))
  | .push element => some (((f.push (elementOf size element)).1, none),
      (f.push (elementOf size element)).2)
  | .pop outElement => some ((f.pop.1, if outElement then f.pop.2.1 else none), f.pop.2.2)
  | .peek outElement => some (if outElement then f.peek else (.invalidArgument, none), f)

/-! ### The queue of byte strings -/

namespace Glbqueue

variable {α : Type} {f : Glbqueue α} {x : α} {xs : List α}

theorem pop_of_nil (h : f.elems = []) : f.pop = (.queueEmpty, none, f) := by
  rw [pop, BoundedQueue.pop?_eq_none_iff.2 h]

theorem pop_of_cons (h : f.elems = x :: xs) : ∃ f' : Glbqueue α,
    f.pop = (.success, some x, f') ∧ f'.elems = xs ∧ f'.capacity = f.capacity := by
  rcases hpop : f.pop? with - | ⟨y, g⟩
  · rw [BoundedQueue.pop?_eq_none_iff.1 hpop] at h
    cases h
  · obtain ⟨helems, -, hcapacity⟩ := BoundedQueue.pop?_eq_some hpop
    obtain ⟨rfl, hxs⟩ := List.cons.inj (helems.symm.trans h)
    exact ⟨{ g with block := f.block }, by rw [pop, hpop], hxs, hcapacity⟩

theorem push_of_room (h : f.elems.length < f.capacity) : (f.push x).1 = .success ∧
    (f.push x).2.elems = f.elems ++ [x] ∧ (f.push x).2.capacity = f.capacity := by
  have hfull : f.isFull = false := decide_eq_false (Nat.not_le.2 h)
  refine ⟨?_, ?_, ?_⟩
  · rw [push_fst, hfull]
    rfl
  · rw [toBoundedQueue_push, BoundedQueue.elems_offer, hfull]
    rfl
  · rw [toBoundedQueue_push, BoundedQueue.capacity_offer]

theorem push_of_full (h : f.capacity ≤ f.elems.length) : f.push x = (.queueFull, f) := by
  rw [push, BoundedQueue.push?_of_isFull (decide_eq_true h)]

end Glbqueue

theorem length_elementOf {size : ℕ} {element : Option (List UInt8)}
    (h : (QueueOp.push element).Fits size) : (elementOf size element).length = size := by
  cases element with
  | none => exact List.length_replicate
  | some element => exact List.length_take_of_le h

namespace Glbqueuebuf

/-! ### A queue in memory is a ring -/

/-- The memory of a queue is a ring of `capacity` elements of `size` bytes. -/
structure Holds {capacity size : ℕ} (q : Glbqueuebuf) (r : RingBuffer UInt8 capacity size) :
    Prop where
  /-- The bytes are the same. -/
  pool : q.pool = r.pool
  /-- The head is the same. -/
  head : q.head.toNat = r.head
  /-- The number of elements is the same. -/
  length : q.length.toNat = r.length
  /-- The capacity is the one of the ring. -/
  capacity : q.capacity.toNat = capacity
  /-- The size is the one of the ring. -/
  elementSize : q.elementSize.toNat = size

section Arithmetic

variable {capacity size : ℕ} {q : Glbqueuebuf} {r : RingBuffer UInt8 capacity size}

theorem Holds.slotBytes (h : q.Holds r) (k : ℕ) : q.slotBytes k = r.cells k := by
  rw [Glbqueuebuf.slotBytes, h.pool, h.elementSize, RingBuffer.cells]

theorem Holds.slotOf (h : q.Holds r) (i : ℕ) : q.slotOf i = r.slot i := by
  rw [Glbqueuebuf.slotOf, h.head, h.capacity, RingBuffer.slot]

theorem Holds.elements (h : q.Holds r) : q.elements = r.elems := by
  simp only [Glbqueuebuf.elements, RingBuffer.elems, h.slotBytes, h.slotOf, h.length]

/-- Adding to the head does not wrap before the modulus is taken. -/
theorem toNat_index (h : q.Holds r) (hcap : capacity ≤ 2 ^ 31) {i : UInt32}
    (hi : i.toNat ≤ capacity) : ((q.head + i) % q.capacity).toNat = r.slot i.toNat := by
  have hhead : r.head < capacity := r.head_lt
  have hsum : r.head + i.toNat < 2 ^ 32 := by omega
  rw [UInt32.toNat_mod, UInt32.toNat_add, h.head, h.capacity, Nat.mod_eq_of_lt hsum,
    RingBuffer.slot]

/-- The offset of a slot does not wrap. -/
theorem toNat_offset (h : q.Holds r) (hpool : capacity * size ≤ 2 ^ 32) (hsize : 0 < size)
    {k : UInt32} (hk : k.toNat < capacity) : (k * q.elementSize).toNat = k.toNat * size := by
  have hend : k.toNat * size + size ≤ capacity * size := RingBuffer.mul_add_le hk
  have hlt : k.toNat * size < 2 ^ 32 := by omega
  rw [UInt32.toNat_mul, h.elementSize, Nat.mod_eq_of_lt hlt]

end Arithmetic

/-! ### The operations -/

section Operations

variable {capacity size : ℕ} {q : Glbqueuebuf} {r : RingBuffer UInt8 capacity size}

theorem push_of_full (h : q.Holds r) (hfull : capacity ≤ r.length)
    (element : Option (List UInt8)) : q.push element = some (.queueFull, q) := by
  have hge : q.length ≥ q.capacity := by
    rw [ge_iff_le, UInt32.le_iff_toNat_le, h.length, h.capacity]
    exact hfull
  rw [push, if_pos hge]

theorem length_ne_zero (h : q.Holds r) (hpos : 0 < r.length) : q.length ≠ 0 := by
  intro hzero
  have hnat := h.length
  rw [hzero] at hnat
  exact Nat.ne_of_lt hpos hnat

/-- A pop from an empty queue. -/
theorem pop_of_zero (h : q.Holds r) (hzero : r.length = 0) (outElement : Bool) :
    q.pop outElement = some (.queueEmpty, none, q) := by
  have hlength : q.length = 0 := UInt32.toNat_inj.1 (h.length.trans hzero)
  rw [pop, if_pos hlength]

theorem peek_of_zero (h : q.Holds r) (hzero : r.length = 0) :
    q.peek true = (.queueEmpty, none) := by
  have hlength : q.length = 0 := UInt32.toNat_inj.1 (h.length.trans hzero)
  rw [peek, if_neg (by decide), if_pos hlength]

theorem peek_of_pos (h : q.Holds r) (hpos : 0 < r.length) :
    q.peek true = (.success, some (q.head * q.elementSize)) := by
  rw [peek, if_neg (by decide), if_neg (length_ne_zero h hpos)]

variable (hcap : capacity ≤ 2 ^ 31) (hpool : capacity * size ≤ 2 ^ 32) (hsize : 0 < size)
include hcap hpool hsize

/-- A push to a queue that is not full writes one slot of the ring. -/
theorem push_of_room (h : q.Holds r) (hroom : r.length < capacity)
    {element : Option (List UInt8)} (hfit : (QueueOp.push element).Fits size) :
    ∃ q', q.push element = some (.success, q') ∧
      q'.Holds (r.push hroom (length_elementOf hfit)) := by
  have hlt : ¬ q.length ≥ q.capacity := by
    rw [ge_iff_le, UInt32.le_iff_toNat_le, h.length, h.capacity]
    exact Nat.not_le.2 hroom
  have hbytes : q.pushed element = some (elementOf size element) := by
    cases element with
    | none => rw [pushed, h.elementSize, elementOf]
    | some element =>
      rw [pushed, h.elementSize]
      exact if_pos ((Nat.zero_add size).symm ▸ hfit)
  -- neither the sum under the modulus nor the product wraps
  have hindex := toNat_index h hcap (i := q.length) (h.length ▸ Nat.le_of_lt hroom)
  have hoffset : ((q.head + q.length) % q.capacity * q.elementSize).toNat =
      r.slot r.length * size := by
    have hslot : ((q.head + q.length) % q.capacity).toNat < capacity := by
      rw [hindex]
      exact r.slot_lt _
    rw [toNat_offset h hpool hsize hslot, hindex, h.length]
  have hlength : (q.length + 1).toNat = r.length + 1 := by
    have hone : (1 : UInt32).toNat = 1 := rfl
    rw [UInt32.toNat_add, h.length, hone]
    exact Nat.mod_eq_of_lt (by omega)
  refine ⟨{ q with pool := (r.push hroom (length_elementOf hfit)).pool, length := q.length + 1 },
    ?_, rfl, h.head, hlength, h.capacity, h.elementSize⟩
  rw [push, if_neg hlt]
  simp only [hbytes, Option.bind_some, hoffset, h.pool,
    r.writeAt_slot hroom (length_elementOf hfit), Option.map_some]

omit hcap in
/-- The bytes at the head are read inside the pool. -/
theorem readAt_head (h : q.Holds r) :
    readAt q.pool (q.head * q.elementSize).toNat q.elementSize.toNat = some (r.cells r.head) := by
  have hhead : q.head.toNat < capacity := h.head ▸ r.head_lt
  rw [toNat_offset h hpool hsize hhead, h.head, h.pool, h.elementSize, r.readAt_slot r.head_lt]

/-- A pop from a queue that is not empty reads the slot at the head and gives it up. -/
theorem pop_of_pos (h : q.Holds r) (hpos : 0 < r.length) (outElement : Bool) :
    ∃ q', q.pop outElement = some (.success, if outElement then some (r.cells r.head) else none,
      q') ∧ q'.Holds r.pop := by
  have hlength : (q.length - 1).toNat = r.length - 1 := by
    have hle : 1 ≤ q.length := by
      rw [UInt32.le_iff_toNat_le, h.length]
      exact hpos
    rw [UInt32.toNat_sub_of_le _ _ hle, h.length]
    rfl
  have hone : (1 : UInt32).toNat ≤ capacity := Nat.le_trans hpos r.length_le
  refine ⟨{ q with head := (q.head + 1) % q.capacity, length := q.length - 1 }, ?_, h.pool,
    toNat_index h hcap hone, hlength, h.capacity, h.elementSize⟩
  rw [pop, if_neg (length_ne_zero h hpos)]
  cases outElement with
  | false => rfl
  | true => simp only [if_true, readAt_head hpool hsize h, Option.map_some]

end Operations

/-! ### The refinement -/

/-- The memory of a queue holds the elements of a queue of byte strings. -/
def Simulates (capacity size : ℕ) (q : Glbqueuebuf) (f : Glbqueue (List UInt8)) : Prop :=
  ∃ r : RingBuffer UInt8 capacity size, q.Holds r ∧ f.elems = r.elems ∧ f.capacity = capacity

/-- Both sides answer a call, alike, and stay in step. -/
def AnswersAlike (capacity size : ℕ) (q : Glbqueuebuf) (f : Glbqueue (List UInt8)) (op : QueueOp) :
    Prop :=
  ∃ b q' f', q.perform op = some (b, q') ∧ f.perform size op = some (b, f') ∧
    Simulates capacity size q' f'

section Refinement

variable {capacity size : ℕ} {q : Glbqueuebuf} {f : Glbqueue (List UInt8)}

theorem length_of_simulates {r : RingBuffer UInt8 capacity size} (h : f.elems = r.elems) :
    f.elems.length = r.length := by
  rw [h, r.length_elems]

theorem elems_of_length_zero {r : RingBuffer UInt8 capacity size} (h : f.elems = r.elems)
    (hzero : r.length = 0) : f.elems = [] := by
  rw [← List.length_eq_zero_iff, length_of_simulates h, hzero]

variable (hcap : capacity ≤ 2 ^ 31) (hpool : capacity * size ≤ 2 ^ 32) (hsize : 0 < size)
include hcap hpool hsize

theorem answersAlike_push (h : Simulates capacity size q f) {element : Option (List UInt8)}
    (hfit : (QueueOp.push element).Fits size) : AnswersAlike capacity size q f (.push element) := by
  obtain ⟨r, hq, helems, hcapacity⟩ := h
  have hlength : f.elems.length = r.length := length_of_simulates helems
  rcases Nat.lt_or_ge r.length capacity with hroom | hfull
  · obtain ⟨q', hpush, hq'⟩ := push_of_room hcap hpool hsize hq hroom hfit
    obtain ⟨hcode, helems', hcapacity'⟩ := Glbqueue.push_of_room (x := elementOf size element)
      (hlength.trans_lt (hroom.trans_eq hcapacity.symm))
    refine ⟨(.success, none), q', _, ?_, ?_, r.push hroom (length_elementOf hfit), hq', ?_,
      hcapacity'.trans hcapacity⟩
    · rw [perform, hpush, Option.map_some]
    · rw [Glbqueue.perform, hcode]
    · rw [helems', helems, r.elems_push]
  · have hpush := push_of_full hq hfull element
    have hspec := Glbqueue.push_of_full (x := elementOf size element)
      (hcapacity.trans_le (hfull.trans_eq hlength.symm))
    refine ⟨(.queueFull, none), q, f, ?_, ?_, r, hq, helems, hcapacity⟩
    · rw [perform, hpush, Option.map_some]
    · rw [Glbqueue.perform, hspec]

theorem answersAlike_pop (h : Simulates capacity size q f) (outElement : Bool) :
    AnswersAlike capacity size q f (.pop outElement) := by
  obtain ⟨r, hq, helems, hcapacity⟩ := h
  rcases Nat.eq_zero_or_pos r.length with hzero | hpos
  · have hspec := Glbqueue.pop_of_nil (elems_of_length_zero helems hzero)
    refine ⟨(.queueEmpty, none), q, f, ?_, ?_, r, hq, helems, hcapacity⟩
    · rw [perform, pop_of_zero hq hzero, Option.map_some]
    · rw [Glbqueue.perform, hspec, ite_self]
  · obtain ⟨q', hpop, hq'⟩ := pop_of_pos hcap hpool hsize hq hpos outElement
    obtain ⟨f', hspec, helems', hcapacity'⟩ :=
      Glbqueue.pop_of_cons (helems.trans (r.elems_eq_cons hpos))
    refine ⟨(.success, if outElement then some (r.cells r.head) else none), q', f', ?_, ?_, r.pop,
      hq', helems', hcapacity'.trans hcapacity⟩
    · rw [perform, hpop, Option.map_some]
    · rw [Glbqueue.perform, hspec]

omit hcap in
theorem answersAlike_peek (h : Simulates capacity size q f) (outElement : Bool) :
    AnswersAlike capacity size q f (.peek outElement) := by
  obtain ⟨r, hq, helems, hcapacity⟩ := h
  cases outElement with
  | false => exact ⟨(.invalidArgument, none), q, f, rfl, rfl, r, hq, helems, hcapacity⟩
  | true =>
    rcases Nat.eq_zero_or_pos r.length with hzero | hpos
    · have hspec : f.peek = (.queueEmpty, none) := by
        rw [Glbqueue.peek, elems_of_length_zero helems hzero]
      refine ⟨(.queueEmpty, none), q, f, ?_, ?_, r, hq, helems, hcapacity⟩
      · rw [perform, peek_of_zero hq hzero]
      · rw [Glbqueue.perform, hspec, if_pos rfl]
    · have hspec : f.peek = (.success, some (r.cells r.head)) := by
        rw [Glbqueue.peek, helems, r.elems_eq_cons hpos]
      refine ⟨(.success, some (r.cells r.head)), q, f, ?_, ?_, r, hq, helems, hcapacity⟩
      · rw [perform, peek_of_pos hq hpos]
        simp only [readAt_head hpool hsize hq, Option.map_some]
      · rw [Glbqueue.perform, hspec, if_pos rfl]

/-- **Every call is answered alike**, and neither side gets stuck. -/
theorem answersAlike (op : QueueOp) (h : Simulates capacity size q f) (hfit : op.Fits size) :
    AnswersAlike capacity size q f op := by
  cases op with
  | push element => exact answersAlike_push hcap hpool hsize h hfit
  | pop outElement => exact answersAlike_pop hcap hpool hsize h outElement
  | peek outElement => exact answersAlike_peek hpool hsize h outElement

end Refinement

/-- The queue `glbqueue_init` makes is a ring that stores nothing. -/
theorem simulates_init {a a' : Allocator} {ok : Bool} {garbage : ℕ → UInt8}
    {elementSize capacity : UInt32} {q : Glbqueuebuf}
    (h : init a ok garbage elementSize capacity = (a', some q)) :
    Simulates capacity.toNat elementSize.toNat q
      { BoundedQueue.empty capacity.toNat with block := q.block } ∧ 0 < elementSize.toNat := by
  by_cases hargs : elementSize = 0 ∨ capacity = 0
  · rw [init, if_pos hargs] at h
    cases h
  · rw [init, if_neg hargs] at h
    rcases hmalloc : a.malloc ok with ⟨a₁, - | b⟩ <;> rw [hmalloc] at h <;> cases h
    obtain ⟨hsize, hcapacity⟩ := not_or.1 hargs
    have hpos : ∀ n : UInt32, n ≠ 0 → 0 < n.toNat := fun n hn ↦
      Nat.pos_of_ne_zero fun hzero ↦ hn (UInt32.toNat_inj.1 hzero)
    refine ⟨⟨.empty _ ?_ (hpos _ hcapacity), ⟨rfl, rfl, rfl, rfl, rfl⟩, rfl, rfl⟩, hpos _ hsize⟩
    rw [List.length_map, List.length_range]

/-- What holds between two calls. -/
structure IsFifo (size : ℕ) (q : Glbqueuebuf) (f : Glbqueue (List UInt8)) : Prop where
  /-- The head is the index of a slot. -/
  head_lt : q.head < q.capacity
  /-- The queue is never overfull. -/
  length_le : q.length ≤ q.capacity
  /-- The pool holds the elements of the queue of byte strings, in order. -/
  elements : q.elements = f.elems
  /-- A push to a full queue changes nothing. -/
  push_full : q.length = q.capacity → ∀ element, q.push element = some (.queueFull, q)
  /-- A pop from an empty queue changes nothing. -/
  pop_empty : q.length = 0 → ∀ outElement, q.pop outElement = some (.queueEmpty, none, q)
  /-- A peek at an empty queue, which never changes anything, finds nothing. -/
  peek_empty : q.length = 0 → q.peek true = (.queueEmpty, none)
  /-- A push leaves the bytes of every stored element alone. -/
  push_frame : ∀ element q', (QueueOp.push element).Fits size →
      q.push element = some (.success, q') →
    ∀ i < q.length.toNat, q'.slotBytes (q.slotOf i) = q.slotBytes (q.slotOf i)

theorem Simulates.isFifo {capacity size : ℕ} {q : Glbqueuebuf} {f : Glbqueue (List UInt8)}
    (hcap : capacity ≤ 2 ^ 31) (hpool : capacity * size ≤ 2 ^ 32) (hsize : 0 < size)
    (h : Simulates capacity size q f) : IsFifo size q f := by
  obtain ⟨r, hq, helems, -⟩ := h
  have hzero : q.length = 0 → r.length = 0 := fun h ↦ by rw [← hq.length, h]; rfl
  refine ⟨?_, ?_, hq.elements.trans helems.symm, fun hfull ↦ push_of_full hq ?_,
    fun hempty ↦ pop_of_zero hq (hzero hempty), fun hempty ↦ peek_of_zero hq (hzero hempty),
    fun element q' hfit hpush i hi ↦ ?_⟩
  · rw [UInt32.lt_iff_toNat_lt, hq.head, hq.capacity]
    exact r.head_lt
  · rw [UInt32.le_iff_toNat_le, hq.length, hq.capacity]
    exact r.length_le
  · rw [← hq.length, hfull, hq.capacity]
  · -- a successful push writes the slot behind the last element, which is none of theirs
    rw [hq.length] at hi
    rcases Nat.lt_or_ge r.length capacity with hroom | hfull
    · obtain ⟨q₁, hpush', hq'⟩ := push_of_room hcap hpool hsize hq hroom hfit
      obtain ⟨-, rfl⟩ := Prod.mk.inj (Option.some_inj.1 (hpush.symm.trans hpush'))
      rw [hq'.slotBytes, hq.slotBytes, hq.slotOf, r.cells_push_of_lt hroom _ hi]
    · rw [push_of_full hq hfull] at hpush
      cases hpush

/-- **A queue in memory is a bounded first-in first-out queue.** From `glbqueue_init` on, within
2 ^ 31 elements and 2 ^ 32 bytes, every list of calls is answered, code and bytes, like the same
calls on the queue of byte strings, without an access outside the pool, and `IsFifo` holds after
it. -/
theorem refines_fifo {a a' : Allocator} {ok : Bool} {garbage : ℕ → UInt8}
    {elementSize capacity : UInt32} {q₀ : Glbqueuebuf}
    (hinit : init a ok garbage elementSize capacity = (a', some q₀))
    (hcap : capacity.toNat ≤ 2 ^ 31) (hpool : capacity.toNat * elementSize.toNat ≤ 2 ^ 32)
    {ops : List QueueOp} (hfit : ∀ op ∈ ops, op.Fits elementSize.toNat) :
    ∃ results q f, answers perform q₀ ops = some (results, q) ∧
      answers (Glbqueue.perform elementSize.toNat)
        { BoundedQueue.empty capacity.toNat with block := q₀.block } ops = some (results, f) ∧
      f.capacity = capacity.toNat ∧ IsFifo elementSize.toNat q f := by
  obtain ⟨hstart, hsize⟩ := simulates_init hinit
  obtain ⟨results, q, f, hmemory, hspec, hend⟩ := answers_refines
    (fun _ _ op h hop ↦ answersAlike hcap hpool hsize op h hop) hstart hfit
  obtain ⟨-, -, -, hcapacity⟩ := id hend
  exact ⟨results, q, f, hmemory, hspec, hcapacity, hend.isFifo hcap hpool hsize⟩

/-- A queue of two elements of two bytes goes once around its pool. -/
theorem refines_fifo_sample : ∃ a' q₀ q f,
    init Allocator.empty true (fun _ ↦ 0xEE) 2 2 = (a', some q₀) ∧
    answers perform q₀ [.push (some [1, 2]), .push none, .push (some [3, 4]), .pop true,
        .push (some [3, 4, 5]), .peek true, .pop false, .pop true, .pop true] =
      some ([(.success, none), (.success, none), (.queueFull, none), (.success, some [1, 2]),
        (.success, none), (.success, some [0, 0]), (.success, none), (.success, some [3, 4]),
        (.queueEmpty, none)], q) ∧ IsFifo 2 q f := by
  let ops : List QueueOp := [.push (some [1, 2]), .push none, .push (some [3, 4]), .pop true,
    .push (some [3, 4, 5]), .peek true, .pop false, .pop true, .pop true]
  let q₀ : Glbqueuebuf := ⟨0, [0xEE, 0xEE, 0xEE, 0xEE], 0, 0, 2, 2⟩
  have hinit : init Allocator.empty true (fun _ ↦ 0xEE) 2 2 =
      ((Allocator.empty.malloc true).1, some q₀) := rfl
  have hfit : ∀ op ∈ ops, op.Fits 2 := by simp [ops, QueueOp.Fits]
  obtain ⟨results, q, f, hrun, -, -, hfifo⟩ := refines_fifo hinit (by decide) (by decide) hfit
  have hresults : (answers perform q₀ ops).map Prod.fst = some [(.success, none),
      (.success, none), (.queueFull, none), (.success, some [1, 2]), (.success, none),
      (.success, some [0, 0]), (.success, none), (.success, some [3, 4]),
      (.queueEmpty, none)] := by decide
  rw [hrun] at hresults
  obtain rfl := Option.some_inj.1 hresults
  exact ⟨_, q₀, q, f, hinit, hrun, hfifo⟩

end Glbqueuebuf

end Gilberta
