import Mathlib.Data.List.Basic

/-!
# Bounded first-in first-out queues

A queue of bounded length over an arbitrary element type. The bound is a field, so an
overfull queue cannot be built: a push to a full queue has no result (`push?`) or, where the
caller ignores the failure, leaves the queue alone (`offer`).

Besides its elements a queue carries a **history variable** `taken`, the elements popped so
far. No operation reads it. `history` is what the queue has ever stored, in order; a push
extends it at the end or does nothing, and a pop leaves it unchanged, so a statement about what
*was* stored needs no bookkeeping outside the queue.
-/

/-- A first-in first-out queue of at most `capacity` elements, oldest first, with the elements
it has already given up. -/
structure BoundedQueue (α : Type*) where
  /-- How many elements fit. -/
  capacity : ℕ
  /-- The stored elements, oldest first. -/
  elems : List α
  /-- History variable: the elements popped so far, oldest first. -/
  taken : List α
  /-- The queue is never overfull. -/
  length_le : elems.length ≤ capacity

namespace BoundedQueue

variable {α : Type*} (q : BoundedQueue α) (x : α)

/-- The empty queue of a given capacity. -/
def empty (capacity : ℕ) : BoundedQueue α where
  capacity := capacity
  elems := []
  taken := []
  length_le := Nat.zero_le _

instance : Inhabited (BoundedQueue α) := ⟨empty 0⟩

/-- Whether another element would be refused. -/
def isFull : Bool := decide (q.capacity ≤ q.elems.length)

/-- Append an element; nothing when the queue is full. -/
def push? : Option (BoundedQueue α) :=
  if h : q.elems.length < q.capacity then
    some { q with
      elems := q.elems ++ [x]
      length_le := by simpa using Nat.succ_le_of_lt h }
  else none

/-- Append an element, ignoring a failure. -/
def offer : BoundedQueue α := (q.push? x).getD q

/-- Remove the oldest element; nothing when the queue is empty. -/
def pop? : Option (α × BoundedQueue α) :=
  match h : q.elems with
  | [] => none
  | y :: ys =>
    some (y, { q with
      elems := ys
      taken := q.taken ++ [y]
      length_le := by have := q.length_le; rw [h] at this; simp at this; omega })

/-- Remove the oldest element, ignoring a failure. -/
def drop : BoundedQueue α := (q.pop?.map Prod.snd).getD q

/-- Overwrite the oldest element in place. -/
def modifyHead (f : α → α) : BoundedQueue α where
  capacity := q.capacity
  elems := q.elems.modifyHead f
  taken := q.taken
  length_le := by simpa using q.length_le

/-- Everything the queue has ever stored, oldest first. -/
def history : List α := q.taken ++ q.elems

@[simp] theorem elems_empty (n : ℕ) : (empty n : BoundedQueue α).elems = [] := rfl

@[simp] theorem history_empty (n : ℕ) : (empty n : BoundedQueue α).history = [] := rfl

@[simp] theorem capacity_empty (n : ℕ) : (empty n : BoundedQueue α).capacity = n := rfl

/-! ### Pushing -/

variable {q x}

theorem push?_of_room (h : q.elems.length < q.capacity) :
    ∃ q', q.push? x = some q' ∧ q'.elems = q.elems ++ [x] ∧ q'.taken = q.taken ∧
      q'.capacity = q.capacity :=
  ⟨_, dif_pos h, rfl, rfl, rfl⟩

theorem push?_of_isFull (h : q.isFull = true) : q.push? x = none :=
  dif_neg (by simpa [isFull] using h)

/-- Offering to a full queue loses the element. -/
theorem offer_of_isFull (h : q.isFull = true) : q.offer x = q := by
  rw [offer, push?_of_isFull h]; rfl

theorem elems_offer : (q.offer x).elems = if q.isFull then q.elems else q.elems ++ [x] := by
  unfold offer push? isFull
  by_cases h : q.elems.length < q.capacity
  · simp [h, Nat.not_le.2 h]
  · simp [h, Nat.not_lt.1 h]

@[simp] theorem taken_offer : (q.offer x).taken = q.taken := by
  unfold offer push?
  split <;> rfl

@[simp] theorem capacity_offer : (q.offer x).capacity = q.capacity := by
  unfold offer push?
  split <;> rfl

theorem history_offer :
    (q.offer x).history = if q.isFull then q.history else q.history ++ [x] := by
  rw [history, taken_offer, elems_offer, history]
  split
  · rfl
  · rw [List.append_assoc]

/-- What a list of offers adds to what was ever stored is part of the list. -/
theorem exists_history_foldl_offer (xs : List α) (q : BoundedQueue α) :
    ∃ ys, ys.Sublist xs ∧ (xs.foldl offer q).history = q.history ++ ys := by
  induction xs generalizing q with
  | nil => exact ⟨[], List.Sublist.slnil, (List.append_nil _).symm⟩
  | cons x xs ih =>
    obtain ⟨ys, hsub, hhistory⟩ := ih (q.offer x)
    rw [List.foldl_cons, hhistory, history_offer]
    split
    · exact ⟨ys, hsub.cons x, rfl⟩
    · exact ⟨x :: ys, hsub.cons_cons x, by rw [List.append_assoc, List.singleton_append]⟩

theorem mem_offer {y : α} (h : y ∈ (q.offer x).elems) : y ∈ q.elems ∨ y = x := by
  rw [elems_offer] at h
  split at h
  · exact Or.inl h
  · simpa using h

theorem mem_foldl_offer {xs : List α} {y : α} (q : BoundedQueue α)
    (h : y ∈ (xs.foldl offer q).elems) : y ∈ q.elems ∨ y ∈ xs := by
  induction xs generalizing q with
  | nil => exact Or.inl h
  | cons x xs ih =>
    rcases ih _ h with h | h
    · rcases mem_offer h with h | rfl
      · exact Or.inl h
      · exact Or.inr List.mem_cons_self
    · exact Or.inr (List.mem_cons_of_mem _ h)

theorem count_offer [DecidableEq α] (q : BoundedQueue α) (x y : α) : (q.offer x).elems.count y =
    q.elems.count y + if x = y ∧ q.isFull = false then 1 else 0 := by
  rw [elems_offer]
  cases hfull : q.isFull with
  | true => simp
  | false =>
    simp only [Bool.false_eq_true, if_false, List.count_append, List.count_singleton, and_true,
      beq_iff_eq]

/-- Offering other elements changes no count. -/
theorem count_foldl_offer [DecidableEq α] {xs : List α} {y : α} (q : BoundedQueue α)
    (h : ∀ x ∈ xs, x ≠ y) : (xs.foldl offer q).elems.count y = q.elems.count y := by
  induction xs generalizing q with
  | nil => rfl
  | cons x xs ih =>
    have hx : x ≠ y := h x List.mem_cons_self
    rw [List.foldl_cons, ih _ fun z hz ↦ h z (List.mem_cons_of_mem _ hz), count_offer]
    simp [hx]

/-- Offering an element makes the queue longer by one, unless it is full. -/
theorem length_offer : (q.offer x).elems.length =
    q.elems.length + if q.isFull = false then 1 else 0 := by
  rw [elems_offer]
  cases hfull : q.isFull with
  | true => rfl
  | false => exact List.length_append

/-- Nothing is lost as long as there is room for everything. -/
theorem elems_foldl_offer {xs : List α} (q : BoundedQueue α)
    (h : q.elems.length + xs.length ≤ q.capacity) : (xs.foldl offer q).elems = q.elems ++ xs := by
  induction xs generalizing q with
  | nil => exact (List.append_nil _).symm
  | cons x xs ih =>
    rw [List.length_cons] at h
    have hroom : q.isFull = false := decide_eq_false (by omega)
    have helems : (q.offer x).elems = q.elems ++ [x] := by
      rw [elems_offer, hroom]
      rfl
    rw [List.foldl_cons, ih (q.offer x), helems, List.append_assoc, List.singleton_append]
    rw [helems, capacity_offer, List.length_append, List.length_singleton]
    omega

/-- After some offers a queue is full if it would be with all of them in it. -/
theorem isFull_foldl_offer {xs : List α} (q : BoundedQueue α) :
    (xs.foldl offer q).isFull = true ↔ q.capacity ≤ q.elems.length + xs.length := by
  induction xs generalizing q with
  | nil => exact decide_eq_true_iff
  | cons x xs ih =>
    rw [List.foldl_cons, ih, capacity_offer, length_offer, List.length_cons]
    cases hfull : q.isFull with
    | true =>
      have hle : q.capacity ≤ q.elems.length := of_decide_eq_true hfull
      exact ⟨fun _ ↦ by omega, fun _ ↦ by simp; omega⟩
    | false => rw [if_pos rfl, Nat.add_assoc, Nat.add_comm 1]

theorem capacity_foldl_offer {xs : List α} (q : BoundedQueue α) :
    (xs.foldl offer q).capacity = q.capacity := by
  induction xs generalizing q with
  | nil => rfl
  | cons x xs ih => rw [List.foldl_cons, ih, capacity_offer]

/-! ### Popping -/

theorem pop?_eq_none_iff : q.pop? = none ↔ q.elems = [] := by
  unfold pop?
  split <;> simp_all

theorem pop?_eq_some {q' : BoundedQueue α} (h : q.pop? = some (x, q')) :
    q.elems = x :: q'.elems ∧ q'.taken = q.taken ++ [x] ∧ q'.capacity = q.capacity := by
  unfold pop? at h
  split at h
  · cases h
  · next heq => cases h; exact ⟨heq, rfl, rfl⟩

@[simp] theorem elems_drop : q.drop.elems = q.elems.tail := by
  unfold drop
  rcases h : q.pop? with - | ⟨y, q'⟩
  · simp [pop?_eq_none_iff.1 h]
  · simp [(pop?_eq_some h).1]

@[simp] theorem capacity_drop : q.drop.capacity = q.capacity := by
  unfold drop
  rcases h : q.pop? with - | ⟨y, q'⟩
  · rfl
  · exact (pop?_eq_some h).2.2

/-- Removing an element does not change what the queue has ever stored. -/
@[simp] theorem history_drop : q.drop.history = q.history := by
  unfold drop
  rcases h : q.pop? with - | ⟨y, q'⟩
  · rfl
  · obtain ⟨he, ht, -⟩ := pop?_eq_some h
    simp [history, he, ht]

/-! ### Overwriting the head -/

@[simp] theorem elems_modifyHead (f : α → α) : (q.modifyHead f).elems = q.elems.modifyHead f :=
  rfl

@[simp] theorem capacity_modifyHead (f : α → α) : (q.modifyHead f).capacity = q.capacity := rfl

end BoundedQueue
