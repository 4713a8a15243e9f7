import Mathlib.Data.Finset.Basic
import Mathlib.Data.List.Nodup
import Mathlib.Tactic.Tauto

/-!
# A block allocator

The state of an allocator as its clients see it: the blocks that are live, and the record of
every block handed back. A block is named by the request that created it, so two requests never
return the same name even where a real allocator would reuse the address.

Whether a request succeeds is the caller's input: an allocator that may fail at any request is
one quantified over the answers.

The second half is the bookkeeping of a client: `Acquires` composes requests, and `Restores` is what
handing all their blocks back comes to.
-/

/-- The name of an allocated block. -/
abbrev Block := ℕ

/-- An allocator: which blocks are live, and which have been handed back. -/
structure Allocator where
  /-- The name the next successful request returns. -/
  next : Block
  /-- The blocks that are live. -/
  live : Finset Block
  /-- History variable: the blocks handed back, oldest first, one entry for each call. -/
  freed : List Block
  /-- Every live block was allocated. -/
  lt_next : ∀ b ∈ live, b < next

namespace Allocator

variable (a : Allocator)

/-- The allocator before the first request. -/
def empty : Allocator where
  next := 0
  live := ∅
  freed := []
  lt_next := by simp

/-- Request a block. The flag is the answer: whether the request succeeds. -/
def malloc (ok : Bool) : Allocator × Option Block :=
  if ok then
    ({ a with
        next := a.next + 1
        live := insert a.next a.live
        lt_next := by
          intro b hb
          rcases Finset.mem_insert.1 hb with rfl | hb
          · exact Nat.lt_succ_self _
          · exact Nat.lt_succ_of_lt (a.lt_next b hb) }, some a.next)
  else (a, none)

/-- A request returns a block exactly if it is answered. -/
theorem isSome_malloc (ok : Bool) : (a.malloc ok).2.isSome = ok := by cases ok <;> rfl

/-- A request that fails changes nothing. -/
theorem malloc_eq_none {a a' : Allocator} {ok : Bool} (h : a.malloc ok = (a', none)) : a' = a := by
  cases ok with
  | false => exact (Prod.mk.inj h).1.symm
  | true => cases h

/-- Hand a block back. -/
def free (b : Block) : Allocator where
  next := a.next
  live := a.live.erase b
  freed := a.freed ++ [b]
  lt_next := fun c hc ↦ a.lt_next c (Finset.mem_of_mem_erase hc)

/-- Hand a list of blocks back, in order. -/
def freeAll (bs : List Block) : Allocator := bs.foldl free a

@[simp] theorem malloc_true : a.malloc true =
    ({ a with
        next := a.next + 1
        live := insert a.next a.live
        lt_next := by
          intro b hb
          rcases Finset.mem_insert.1 hb with rfl | hb
          · exact Nat.lt_succ_self _
          · exact Nat.lt_succ_of_lt (a.lt_next b hb) }, some a.next) := rfl

@[simp] theorem malloc_false : a.malloc false = (a, none) := rfl

@[simp] theorem next_free (b : Block) : (a.free b).next = a.next := rfl

@[simp] theorem freed_free (b : Block) : (a.free b).freed = a.freed ++ [b] := rfl

theorem mem_live_free {b c : Block} : c ∈ (a.free b).live ↔ c ≠ b ∧ c ∈ a.live :=
  Finset.mem_erase

@[simp] theorem freeAll_nil : a.freeAll [] = a := rfl

@[simp] theorem freeAll_cons (b : Block) (bs : List Block) :
    a.freeAll (b :: bs) = (a.free b).freeAll bs := rfl

@[simp] theorem freeAll_append (bs cs : List Block) :
    a.freeAll (bs ++ cs) = (a.freeAll bs).freeAll cs := List.foldl_append

@[simp] theorem next_freeAll (bs : List Block) : (a.freeAll bs).next = a.next := by
  induction bs generalizing a with
  | nil => rfl
  | cons b bs ih => rw [freeAll_cons, ih, next_free]

@[simp] theorem freed_freeAll (bs : List Block) : (a.freeAll bs).freed = a.freed ++ bs := by
  induction bs generalizing a with
  | nil => simp
  | cons b bs ih => rw [freeAll_cons, ih, freed_free, List.append_assoc, List.singleton_append]

theorem mem_live_freeAll {bs : List Block} {c : Block} :
    c ∈ (a.freeAll bs).live ↔ c ∉ bs ∧ c ∈ a.live := by
  induction bs generalizing a with
  | nil => simp
  | cons b bs ih =>
    rw [freeAll_cons, ih, mem_live_free, List.mem_cons]
    tauto

/-! ### Acquiring -/

/-- `a'` is `a` after successful requests for the blocks `bs`. -/
structure Acquires (a a' : Allocator) (bs : List Block) : Prop where
  /-- The requests returned different blocks. -/
  nodup : bs.Nodup
  /-- None of them existed before. -/
  fresh : ∀ b ∈ bs, a.next ≤ b
  /-- They are the new live blocks. -/
  live : ∀ b, b ∈ a'.live ↔ b ∈ bs ∨ b ∈ a.live
  /-- They are the new allocated blocks. -/
  next : ∀ b, b < a'.next ↔ b ∈ bs ∨ b < a.next
  /-- Nothing is handed back. -/
  freed : a'.freed = a.freed

variable {a} {a' a'' : Allocator} {bs cs : List Block}

theorem Acquires.refl (a : Allocator) : Acquires a a [] where
  nodup := List.nodup_nil
  fresh := by simp
  live := by simp
  next := by simp
  freed := rfl

theorem Acquires.of_malloc {ok : Bool} {b : Block} (h : a.malloc ok = (a', some b)) :
    Acquires a a' [b] := by
  cases ok with
  | false => cases h
  | true =>
    cases h
    refine ⟨List.nodup_singleton _, by simp, by simp, fun b ↦ ?_, rfl⟩
    rw [List.mem_singleton]
    show b < a.next + 1 ↔ _
    rw [Nat.lt_succ_iff_lt_or_eq, or_comm]

theorem Acquires.of_malloc_true (a : Allocator) : Acquires a (a.malloc true).1 [a.next] :=
  .of_malloc (malloc_true a)

theorem Acquires.trans (h : Acquires a a' bs) (h' : Acquires a' a'' cs) :
    Acquires a a'' (bs ++ cs) where
  nodup := by
    refine List.nodup_append'.2 ⟨h.nodup, h'.nodup, fun b hb hc ↦ ?_⟩
    exact absurd ((h.next b).2 (Or.inl hb)) (Nat.not_lt.2 (h'.fresh b hc))
  fresh := by
    intro b hb
    rcases List.mem_append.1 hb with hb | hb
    · exact h.fresh b hb
    · have hle : a'.next ≤ b := h'.fresh b hb
      by_contra hlt
      exact absurd ((h.next b).2 (Or.inr (Nat.not_le.1 hlt))) (Nat.not_lt.2 hle)
  live := by
    intro b
    rw [h'.live, h.live, List.mem_append]
    tauto
  next := by
    intro b
    rw [h'.next, h.next, List.mem_append]
    tauto
  freed := h'.freed.trans h.freed

theorem Acquires.perm (h : Acquires a a' bs) (hp : bs.Perm cs) : Acquires a a' cs where
  nodup := hp.nodup_iff.1 h.nodup
  fresh := fun b hb ↦ h.fresh b (hp.mem_iff.2 hb)
  live := fun b ↦ by rw [h.live, hp.mem_iff]
  next := fun b ↦ by rw [h.next, hp.mem_iff]
  freed := h.freed

/-! ### Giving back -/

/-- Hand a block back; nothing when it is not live, as when it was handed back before. -/
def free? (a : Allocator) (b : Block) : Option Allocator :=
  if b ∈ a.live then some (a.free b) else none

/-- `a'` has the live blocks of `a` again: what was handed back in between was requested in
between, and handed back once. -/
structure Restores (a a' : Allocator) : Prop where
  /-- The live blocks are the same. -/
  live : a'.live = a.live
  /-- No block that existed before was handed back, and none twice. -/
  freed : ∃ bs, a'.freed = a.freed ++ bs ∧ bs.Nodup ∧ ∀ b ∈ bs, a.next ≤ b

theorem Restores.refl (a : Allocator) : Restores a a :=
  ⟨rfl, [], (List.append_nil _).symm, List.nodup_nil, by simp⟩

/-- Handing different live blocks back one after the other does not go wrong. -/
theorem foldlM_free? (hnd : bs.Nodup) (hlive : ∀ b ∈ bs, b ∈ a.live) :
    bs.foldlM free? a = some (a.freeAll bs) := by
  induction bs generalizing a with
  | nil => rfl
  | cons b bs ih =>
    obtain ⟨hb, hnd⟩ := List.nodup_cons.1 hnd
    have hfree : a.free? b = some (a.free b) := if_pos (hlive b List.mem_cons_self)
    have hrest : ∀ c ∈ bs, c ∈ (a.free b).live := by
      intro c hc
      have hne : c ≠ b := by
        rintro rfl
        exact hb hc
      exact (a.mem_live_free).2 ⟨hne, hlive c (List.mem_cons_of_mem b hc)⟩
    rw [List.foldlM_cons, hfree, freeAll_cons]
    exact ih hnd hrest

/-- What was acquired can be handed back, in any order. -/
theorem Acquires.foldlM_free? (h : Acquires a a' bs) (hp : bs.Perm cs) :
    cs.foldlM free? a' = some (a'.freeAll cs) :=
  Allocator.foldlM_free? (h.perm hp).nodup fun b hb ↦ ((h.perm hp).live b).2 (Or.inl hb)

/-- **Handing everything back that was acquired restores the live blocks.** -/
theorem Acquires.restores (h : Acquires a a' bs) (hp : bs.Perm cs) :
    Restores a (a'.freeAll cs) := by
  have hcs : Acquires a a' cs := h.perm hp
  refine ⟨?_, cs, ?_, hcs.nodup, hcs.fresh⟩
  · ext b
    rw [mem_live_freeAll, hcs.live]
    have hold : b ∈ a.live → b ∉ cs := fun hb hc ↦
      absurd (a.lt_next b hb) (Nat.not_lt.2 (hcs.fresh b hc))
    tauto
  · rw [freed_freeAll, hcs.freed]

/-- Where requests came before what was restored, they can still be handed back after it. -/
theorem Restores.giveBack (h : Acquires a a' bs) (h' : Restores a' a'') :
    bs.foldlM free? a'' = some (a''.freeAll bs) ∧ Restores a (a''.freeAll bs) := by
  obtain ⟨hlive, cs, hfreed, hnd, hfresh⟩ := h'
  -- the blocks are still live, and what was handed back in between was requested after them
  have hheld : ∀ b ∈ bs, b ∈ a''.live := fun b hb ↦ hlive ▸ (h.live b).2 (Or.inl hb)
  have hrestores := h.restores (List.Perm.refl bs)
  have hapart : ∀ b ∈ cs, b ∉ bs := fun b hc hb ↦
    absurd ((h.next b).2 (Or.inl hb)) (Nat.not_lt.2 (hfresh b hc))
  have hnew : ∀ b ∈ cs, a.next ≤ b := by
    intro b hb
    by_contra hlt
    exact absurd ((h.next b).2 (Or.inr (Nat.not_le.1 hlt))) (Nat.not_lt.2 (hfresh b hb))
  refine ⟨Allocator.foldlM_free? h.nodup hheld, ?_, cs ++ bs, ?_, ?_, fun b hb ↦ ?_⟩
  · rw [← hrestores.live]
    ext b
    rw [mem_live_freeAll, mem_live_freeAll, hlive]
  · rw [freed_freeAll, hfreed, h.freed, List.append_assoc]
  · exact List.nodup_append'.2 ⟨hnd, h.nodup, hapart⟩
  · rcases List.mem_append.1 hb with hb | hb
    · exact hnew b hb
    · exact h.fresh b hb

end Allocator
