import Mathlib.Algebra.Order.Ring.Nat
import Mathlib.Data.List.Basic
import Mathlib.Data.Nat.ModEq

/-!
# 32-bit sequence numbers

Numbers that count up modulo `2 ^ 32`. `CountsUpTo l a` says that a list of numbers counts up, each
one more than the one before, and that `a` would be next; as long as there are fewer than `2 ^ 32`
of them, `a` is new (`CountsUpTo.not_mem`), for the numbers of so many consecutive items are
distinct (`numbered_inj`). Beyond that, numbers tell places apart modulo `2 ^ 32` only
(`numbered_eq_iff`).
-/

/-- The number of item `k` when item zero has number `s`. -/
def numbered (s : UInt32) (k : ℕ) : UInt32 := s + UInt32.ofNat k

@[simp] theorem numbered_zero (s : UInt32) : numbered s 0 = s := UInt32.add_zero s

theorem toNat_numbered (s : UInt32) (k : ℕ) : (numbered s k).toNat = (s.toNat + k) % 2 ^ 32 := by
  rw [numbered, UInt32.toNat_add, UInt32.toNat_ofNat', Nat.add_mod_mod]

theorem numbered_succ (s : UInt32) (k : ℕ) : numbered s (k + 1) = numbered s k + 1 := by
  apply UInt32.toNat_inj.1
  rw [UInt32.toNat_add, toNat_numbered, toNat_numbered]
  show _ = (_ + 1) % 2 ^ 32
  omega

/-- Two items have the same number exactly when their places agree modulo `2 ^ 32`. -/
theorem numbered_eq_iff {s : UInt32} {j k : ℕ} :
    numbered s j = numbered s k ↔ j ≡ k [MOD 2 ^ 32] := by
  have hs := s.toNat_lt
  rw [← UInt32.toNat_inj, toNat_numbered, toNat_numbered, Nat.ModEq]
  omega

/-- Fewer than `2 ^ 32` consecutive items have distinct numbers. -/
theorem numbered_inj {s : UInt32} {j k : ℕ} (hj : j < 2 ^ 32) (hk : k < 2 ^ 32) :
    numbered s j = numbered s k ↔ j = k := by
  rw [numbered_eq_iff, Nat.ModEq, Nat.mod_eq_of_lt hj, Nat.mod_eq_of_lt hk]

/-- An item is where the number counted up from it says. -/
theorem numbered_cancel {s t : UInt32} {j k : ℕ} (h : numbered t k = numbered s (j + k)) :
    t = numbered s j := by
  have hnat := congrArg UInt32.toNat h
  have ht := t.toNat_lt
  rw [toNat_numbered, toNat_numbered] at hnat
  refine UInt32.toNat_inj.1 ?_
  rw [toNat_numbered]
  omega

/-- A list of numbers that counts up, with `a` the number to come next. -/
inductive CountsUpTo : List UInt32 → UInt32 → Prop
  | nil (a : UInt32) : CountsUpTo [] a
  | snoc {l : List UInt32} {a : UInt32} (h : CountsUpTo l a) : CountsUpTo (l ++ [a]) (a + 1)

namespace CountsUpTo

variable {l : List UInt32} {a s : UInt32}

/-- The members are the numbers at most as far behind the next one as the list is long. -/
theorem mem_iff_exists (h : CountsUpTo l a) :
    s ∈ l ↔ ∃ k, k < l.length ∧ numbered s (k + 1) = a := by
  induction h with
  | nil a => simp
  | @snoc l a _ ih =>
    rw [List.mem_append, List.mem_singleton, ih, List.length_append]
    constructor
    · rintro (⟨k, hk, rfl⟩ | rfl)
      · exact ⟨k + 1, Nat.succ_lt_succ hk, numbered_succ s (k + 1)⟩
      · exact ⟨0, Nat.succ_pos _, by rw [numbered_succ, numbered_zero]⟩
    · rintro ⟨k, hk, hnum⟩
      rw [numbered_succ] at hnum
      have hprev : numbered s k = a := by
        have hnat := congrArg UInt32.toNat hnum
        simp only [UInt32.toNat_add] at hnat
        have h₁ := (numbered s k).toNat_lt
        have h₂ := a.toNat_lt
        refine UInt32.toNat_inj.1 ?_
        change (_ + 1) % 2 ^ 32 = (_ + 1) % 2 ^ 32 at hnat
        omega
      cases k with
      | zero => exact Or.inr (by rwa [numbered_zero] at hprev)
      | succ k => exact Or.inl ⟨k, Nat.lt_of_succ_lt_succ hk, hprev⟩

/-- Fewer than `2 ^ 32` numbers do not come round to the one that is next. -/
theorem not_mem (h : CountsUpTo l a) (hfew : l.length < 2 ^ 32) : a ∉ l := by
  intro hmem
  obtain ⟨k, hk, hnum⟩ := h.mem_iff_exists.1 hmem
  have hzero : numbered a (k + 1) = numbered a 0 := by rw [hnum, numbered_zero]
  rw [numbered_inj (by omega) (by omega)] at hzero
  omega

/-- The next number, counted from the oldest one. -/
theorem next_eq {n : UInt32} (h : CountsUpTo (n :: l) a) : a = numbered n (l.length + 1) := by
  generalize hl : n :: l = l' at h
  induction h generalizing l with
  | nil a => cases hl
  | @snoc l₁ a h ih =>
    rcases l₁ with - | ⟨m, l₁⟩
    · obtain ⟨rfl, rfl⟩ := List.cons.inj hl
      rw [List.length_nil, numbered_succ, numbered_zero]
    · obtain ⟨rfl, rfl⟩ := List.cons.inj hl
      show a + 1 = numbered n ((l₁ ++ [a]).length + 1)
      rw [List.length_append, List.length_singleton, numbered_succ, ← ih rfl]

/-- Without the oldest number the others still count up. -/
theorem tail {n : UInt32} (h : CountsUpTo (n :: l) a) : CountsUpTo l a := by
  generalize hl : n :: l = l' at h
  induction h generalizing l with
  | nil a => cases hl
  | @snoc l₁ a h ih =>
    rcases l₁ with - | ⟨m, l₁⟩
    · obtain ⟨-, rfl⟩ := List.cons.inj hl
      exact .nil _
    · obtain ⟨rfl, rfl⟩ := List.cons.inj hl
      exact .snoc (ih rfl)

end CountsUpTo
