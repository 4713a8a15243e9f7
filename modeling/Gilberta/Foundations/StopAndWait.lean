import Mathlib.Data.List.Basic
import Mathlib.Data.Set.Insert
import Mathlib.Logic.Relation

/-!
# Stop and wait

The protocol that moves a sequence of messages from one party to another over a network that may
lose, duplicate, delay and reorder what it carries, but neither forges nor alters it. Messages are
numbered by their position; the sender offers one message at a time until it sees an acknowledgment
for it, and the receiver takes messages in order and may acknowledge what it has taken at any time.

This is the protocol without its number format: positions are natural numbers, and what is in flight
is a set that only grows, since whatever was sent once may arrive any number of times at any later
moment. `Inv` is what holds in every reachable state; exactly-once in-order delivery is its field
`delivered`, and it also bounds how far the two parties can be apart.
-/

/-- A stop-and-wait transfer in progress. -/
structure StopAndWait (α : Type*) where
  /-- The messages accepted for sending, oldest first. -/
  accepted : List α
  /-- How many messages the sender is done with. -/
  base : ℕ
  /-- The messages the receiver has taken, oldest first. -/
  delivered : List α
  /-- The messages ever sent, with their positions. -/
  wire : Set (ℕ × α)
  /-- The positions ever acknowledged. -/
  acks : Set ℕ

namespace StopAndWait

variable {α : Type*}

/-- Nothing happened yet. -/
def start : StopAndWait α := ⟨[], 0, [], ∅, ∅⟩

/-- One step of the protocol. -/
inductive Step (S : StopAndWait α) : StopAndWait α → Prop
  /-- The sender accepts a message. -/
  | accept (x : α) : Step S { S with accepted := S.accepted ++ [x] }
  /-- The sender sends the message it is at. -/
  | transmit {x : α} (h : S.accepted[S.base]? = some x) :
      Step S { S with wire := insert (S.base, x) S.wire }
  /-- The receiver takes the message it waits for. -/
  | deliver {x : α} (h : (S.delivered.length, x) ∈ S.wire) :
      Step S { S with delivered := S.delivered ++ [x] }
  /-- The receiver acknowledges a message it has taken. -/
  | ack {i : ℕ} (h : i < S.delivered.length) : Step S { S with acks := insert i S.acks }
  /-- The sender sees the acknowledgment it waits for. -/
  | advance (h : S.base ∈ S.acks) : Step S { S with base := S.base + 1 }

/-- What holds in every state a transfer can reach. -/
structure Inv (S : StopAndWait α) : Prop where
  /-- What is in flight was accepted, and lies no further than the message the sender is at. -/
  wire : ∀ i x, (i, x) ∈ S.wire → i ≤ S.base ∧ S.accepted[i]? = some x
  /-- What is acknowledged was taken. -/
  acks : ∀ i ∈ S.acks, i < S.delivered.length
  /-- What was taken is what was accepted, in order, without gaps and without repetitions. -/
  delivered : S.delivered <+: S.accepted
  /-- The sender is not ahead of the receiver. -/
  base_le : S.base ≤ S.delivered.length
  /-- The receiver is at most one message ahead of the sender. -/
  le_base : S.delivered.length ≤ S.base + 1

theorem Inv.start : Inv (start : StopAndWait α) where
  wire := by intro i x h; cases h
  acks := by intro i h; cases h
  delivered := List.nil_prefix
  base_le := Nat.le_refl _
  le_base := Nat.zero_le _

variable {S S' : StopAndWait α}

/-- Every step keeps the invariant. -/
theorem Inv.step (hI : Inv S) (h : Step S S') : Inv S' := by
  cases h with
  | accept x =>
    refine { hI with wire := fun i y hw ↦ ?_, delivered := ?_ }
    · obtain ⟨hle, hget⟩ := hI.wire i y hw
      have hlt : i < S.accepted.length := (List.getElem?_eq_some_iff.1 hget).1
      exact ⟨hle, by rw [List.getElem?_append_left hlt, hget]⟩
    · exact hI.delivered.trans (List.prefix_append _ _)
  | @transmit x hget =>
    refine { hI with wire := fun i y hw ↦ ?_ }
    rcases hw with heq | hw
    · obtain ⟨rfl, rfl⟩ := Prod.mk.inj heq
      exact ⟨Nat.le_refl _, hget⟩
    · exact hI.wire i y hw
  | @deliver x hw =>
    obtain ⟨hle, hget⟩ := hI.wire _ _ hw
    refine ⟨hI.wire, fun i hi ↦ ?_, ?_, ?_, ?_⟩
    · rw [List.length_append]
      exact Nat.lt_add_right _ (hI.acks i hi)
    · -- the message on the wire is the first of those still to be taken
      obtain ⟨rest, hrest⟩ := hI.delivered
      rw [← hrest, List.getElem?_append_right (Nat.le_refl _), Nat.sub_self] at hget
      obtain ⟨rest', rfl⟩ : ∃ rest', rest = x :: rest' := by
        cases rest with
        | nil => cases hget
        | cons y ys => exact ⟨ys, by rw [Option.some.inj hget]⟩
      exact ⟨rest', by rw [← hrest, List.append_assoc]; rfl⟩
    · rw [List.length_append]
      exact Nat.le_add_right_of_le hI.base_le
    · rw [List.length_append]
      exact Nat.succ_le_succ hle
  | @ack i hi =>
    refine { hI with acks := fun j hj ↦ ?_ }
    rcases hj with rfl | hj
    · exact hi
    · exact hI.acks j hj
  | advance hack =>
    refine { hI with wire := fun i x hw ↦ ?_, base_le := ?_, le_base := ?_ }
    · obtain ⟨hle, hget⟩ := hI.wire i x hw
      exact ⟨Nat.le_succ_of_le hle, hget⟩
    · exact hI.acks _ hack
    · exact Nat.le_succ_of_le hI.le_base

/-- A state a transfer can reach. -/
def Reachable (S : StopAndWait α) : Prop := Relation.ReflTransGen Step start S

/-- **The invariant holds in every reachable state.** -/
theorem Reachable.inv (h : Reachable S) : Inv S := by
  induction h with
  | refl => exact .start
  | tail _ hstep ih => exact ih.step hstep

theorem Reachable.tail (h : Reachable S) (hstep : Step S S') : Reachable S' :=
  Relation.ReflTransGen.tail h hstep

/-- What was taken are the first messages accepted. -/
theorem Inv.delivered_eq (hI : Inv S) : S.delivered = S.accepted.take S.delivered.length :=
  List.prefix_iff_eq_take.1 hI.delivered

/-- Every message accepted was taken or is still with the sender, up to the one the sender is at,
which may be both. -/
theorem Inv.accepted_eq (hI : Inv S) :
    ∃ k ≤ 1, S.accepted = S.delivered ++ (S.accepted.drop S.base).drop k := by
  have hbase := hI.base_le
  have hahead := hI.le_base
  have hsplit := List.take_append_drop S.delivered.length S.accepted
  rw [← hI.delivered_eq] at hsplit
  refine ⟨S.delivered.length - S.base, by omega, ?_⟩
  rw [List.drop_drop, Nat.add_sub_cancel' hbase]
  exact hsplit.symm

end StopAndWait
