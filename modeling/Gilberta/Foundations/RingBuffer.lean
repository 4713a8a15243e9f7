import Mathlib.Algebra.Order.Ring.Nat
import Mathlib.Data.List.Basic
import Mathlib.Data.Nat.ModEq

/-!
# Ring buffers in a flat pool

Elements of one size, stored one after the other in a pool of cells, oldest first from a head slot
on and around the end of the pool. The cells are of any type; what the pool holds outside the
stored elements is arbitrary.

A pool is read and written through `readAt` and `writeAt`, which have no result where an access
would leave it. `RingBuffer` carries its bounds as fields, so its accesses have results
(`readAt_slot`, `writeAt_slot`). The abstract content is `elems`; `elems_push` and `elems_eq_cons`
say that it is a queue. They rest on the slots in use being distinct (`slot_inj`) and a write to
one slot leaving the others alone (`cells_overwrite_of_ne`).
-/

/-! ### Flat pools -/

section Pool

variable {α : Type*}

/-- The `n` cells of a pool from `offset` on; nothing when they are not all in the pool. -/
def readAt (pool : List α) (offset n : ℕ) : Option (List α) :=
  if offset + n ≤ pool.length then some ((pool.drop offset).take n) else none

/-- A pool with the cells from `offset` on replaced. -/
def overwrite (pool : List α) (offset : ℕ) (xs : List α) : List α :=
  pool.take offset ++ xs ++ pool.drop (offset + xs.length)

/-- Replace the cells of a pool from `offset` on; nothing when they are not all in the pool. -/
def writeAt (pool : List α) (offset : ℕ) (xs : List α) : Option (List α) :=
  if offset + xs.length ≤ pool.length then some (overwrite pool offset xs) else none

variable {pool xs : List α} {offset offset' n : ℕ}

theorem length_overwrite (h : offset + xs.length ≤ pool.length) :
    (overwrite pool offset xs).length = pool.length := by
  simp only [overwrite, List.length_append, List.length_take, List.length_drop]
  omega

/-- What was written is there. -/
theorem take_drop_overwrite_self (h : offset + xs.length ≤ pool.length) :
    ((overwrite pool offset xs).drop offset).take xs.length = xs := by
  have hlen : (pool.take offset).length = offset := by
    rw [List.length_take]
    omega
  rw [overwrite, List.append_assoc, List.drop_append_of_le_length hlen.ge,
    List.drop_eq_nil_of_le hlen.le, List.nil_append, List.take_left]

/-- Cells before or behind the written ones are as they were. -/
theorem take_drop_overwrite_of_disjoint (h : offset + xs.length ≤ pool.length)
    (hd : offset' + n ≤ offset ∨ offset + xs.length ≤ offset') :
    ((overwrite pool offset xs).drop offset').take n = (pool.drop offset').take n := by
  refine List.ext_getElem? fun i ↦ ?_
  have hlen : (pool.take offset).length = offset := by
    rw [List.length_take]
    omega
  rw [List.getElem?_take, List.getElem?_take]
  split
  · next hi =>
    rw [List.getElem?_drop, List.getElem?_drop, overwrite, List.append_assoc]
    rcases hd with hd | hd
    · rw [List.getElem?_append_left (by omega), List.getElem?_take_of_lt (by omega)]
    · rw [List.getElem?_append_right (by omega), hlen,
        List.getElem?_append_right (by omega), List.getElem?_drop]
      congr 1
      omega
  · rfl

end Pool

/-! ### Rings -/

/-- A ring of at most `capacity` elements of `size` cells each. -/
structure RingBuffer (α : Type*) (capacity size : ℕ) where
  /-- The cells. -/
  pool : List α
  /-- The slot of the oldest element. -/
  head : ℕ
  /-- How many elements are stored. -/
  length : ℕ
  /-- The pool has room for every slot. -/
  length_pool : pool.length = capacity * size
  /-- The head is a slot. -/
  head_lt : head < capacity
  /-- The ring is never overfull. -/
  length_le : length ≤ capacity

namespace RingBuffer

variable {α : Type*} {capacity size : ℕ}

/-- The ring that stores nothing, over a pool with any contents. -/
def empty (pool : List α) (h : pool.length = capacity * size) (hpos : 0 < capacity) :
    RingBuffer α capacity size where
  pool := pool
  head := 0
  length := 0
  length_pool := h
  head_lt := hpos
  length_le := Nat.zero_le _

variable (r : RingBuffer α capacity size)

/-- The slot of element `i`, counted from the oldest. -/
def slot (i : ℕ) : ℕ := (r.head + i) % capacity

/-- The cells of slot `k`. -/
def cells (k : ℕ) : List α := (r.pool.drop (k * size)).take size

/-- The stored elements, oldest first. -/
def elems : List (List α) := (List.range r.length).map fun i ↦ r.cells (r.slot i)

@[simp] theorem length_elems : r.elems.length = r.length := by
  rw [elems, List.length_map, List.length_range]

theorem slot_lt (i : ℕ) : r.slot i < capacity :=
  Nat.mod_lt _ (Nat.lt_of_le_of_lt (Nat.zero_le _) r.head_lt)

theorem slot_zero : r.slot 0 = r.head := Nat.mod_eq_of_lt r.head_lt

/-- The slots of less than a whole turn are distinct. -/
theorem slot_inj {i j : ℕ} (hi : i < capacity) (hj : j < capacity) :
    r.slot i = r.slot j ↔ i = j := by
  refine ⟨fun h ↦ ?_, fun h ↦ by rw [h]⟩
  have hcong : i ≡ j [MOD capacity] := Nat.ModEq.add_left_cancel' r.head h
  rwa [Nat.ModEq, Nat.mod_eq_of_lt hi, Nat.mod_eq_of_lt hj] at hcong

/-- A slot ends before a later one begins. -/
theorem mul_add_le {j k : ℕ} (h : j < k) : j * size + size ≤ k * size := by
  rw [← Nat.succ_mul]
  exact Nat.mul_le_mul_right size h

/-- Every slot lies in the pool. -/
theorem slot_in_pool {k : ℕ} (h : k < capacity) : k * size + size ≤ r.pool.length := by
  rw [r.length_pool]
  exact mul_add_le h

theorem readAt_slot {k : ℕ} (h : k < capacity) :
    readAt r.pool (k * size) size = some (r.cells k) := if_pos (r.slot_in_pool h)

/-! ### Pushing -/

variable {x : List α}

/-- A ring that is not full with an element more. -/
def push (h : r.length < capacity) (hx : x.length = size) : RingBuffer α capacity size where
  pool := overwrite r.pool (r.slot r.length * size) x
  head := r.head
  length := r.length + 1
  length_pool := by
    have hin := r.slot_in_pool (r.slot_lt r.length)
    rw [length_overwrite (hx.symm ▸ hin), r.length_pool]
  head_lt := r.head_lt
  length_le := h

theorem writeAt_slot (h : r.length < capacity) (hx : x.length = size) :
    writeAt r.pool (r.slot r.length * size) x = some (r.push h hx).pool :=
  if_pos (hx.symm ▸ r.slot_in_pool (r.slot_lt r.length))

/-- The new element is in the slot behind the last one. -/
theorem cells_push_self (h : r.length < capacity) (hx : x.length = size) :
    (r.push h hx).cells (r.slot r.length) = x := by
  have hin := r.slot_in_pool (r.slot_lt r.length)
  subst hx
  exact take_drop_overwrite_self hin

/-- **A push leaves the cells of every other slot alone.** -/
theorem cells_push_of_ne (h : r.length < capacity) (hx : x.length = size) {k : ℕ}
    (hk : k ≠ r.slot r.length) : (r.push h hx).cells k = r.cells k := by
  have hin := r.slot_in_pool (r.slot_lt r.length)
  refine take_drop_overwrite_of_disjoint (hx.symm ▸ hin) ?_
  rw [hx]
  rcases Nat.lt_or_gt_of_ne hk with hlt | hgt
  · exact Or.inl (mul_add_le hlt)
  · exact Or.inr (mul_add_le hgt)

/-- **A push leaves the cells of every stored element alone.** -/
theorem cells_push_of_lt (h : r.length < capacity) (hx : x.length = size) {i : ℕ}
    (hi : i < r.length) : (r.push h hx).cells (r.slot i) = r.cells (r.slot i) := by
  refine r.cells_push_of_ne h hx fun heq ↦ ?_
  have hsame := (r.slot_inj (Nat.lt_of_lt_of_le hi r.length_le) h).1 heq
  exact absurd hsame (Nat.ne_of_lt hi)

/-- **A push appends.** -/
theorem elems_push (h : r.length < capacity) (hx : x.length = size) :
    (r.push h hx).elems = r.elems ++ [x] := by
  have hold : (List.range r.length).map (fun i ↦ (r.push h hx).cells (r.slot i)) = r.elems :=
    List.map_congr_left fun i hi ↦ r.cells_push_of_lt h hx (List.mem_range.1 hi)
  show (List.range (r.length + 1)).map (fun i ↦ (r.push h hx).cells (r.slot i)) = _
  rw [List.range_succ, List.map_append, hold, List.map_singleton, cells_push_self]

/-! ### Popping -/

/-- A ring that is not empty without its oldest element, whose cells stay as they are. -/
def pop : RingBuffer α capacity size where
  pool := r.pool
  head := (r.head + 1) % capacity
  length := r.length - 1
  length_pool := r.length_pool
  head_lt := Nat.mod_lt _ (Nat.lt_of_le_of_lt (Nat.zero_le _) r.head_lt)
  length_le := (Nat.sub_le _ _).trans r.length_le

/-- Without the oldest element every other one is a place further to the front. -/
theorem slot_pop (i : ℕ) : r.pop.slot i = r.slot (i + 1) := by
  show ((r.head + 1) % capacity + i) % capacity = (r.head + (i + 1)) % capacity
  rw [Nat.mod_add_mod, Nat.add_assoc, Nat.add_comm 1 i]

/-- **The oldest element is at the head, and a pop removes it.** -/
theorem elems_eq_cons (h : 0 < r.length) : r.elems = r.cells r.head :: r.pop.elems := by
  obtain ⟨n, hn⟩ := Nat.exists_eq_succ_of_ne_zero (Nat.ne_of_gt h)
  have hpop : r.pop.length = n := by
    show r.length - 1 = n
    omega
  have hslots : (fun i ↦ r.cells (r.slot (i + 1))) = fun i ↦ r.pop.cells (r.pop.slot i) := by
    funext i
    rw [slot_pop]
    rfl
  -- element `i + 1` of the ring is element `i` without the oldest
  rw [elems, hn, List.range_succ_eq_map, List.map_cons, List.map_map, slot_zero, elems, hpop]
  exact congrArg (fun f ↦ r.cells r.head :: (List.range n).map f) hslots

end RingBuffer
