import Mathlib.Algebra.Group.Hom.Defs
import Mathlib.Algebra.Group.Hom.Basic
import Mathlib.Logic.Function.Iterate

/-!
# Linear shift registers

A register whose states can be added and that is fed one bit at a time: a bit is added at the input
position and the register makes a linear step. Checksums by polynomial division are of this kind.

Because everything is linear, two inputs lead to the same state if and only if the pattern of their
differences leads from zero to zero (`run_eq_iff`). If the step is injective, differences that lie
close together cannot cancel (`run_ne_zero_of_burst`); and a linear quantity that the step keeps and
an input bit flips counts the differences (`apply_run`).
-/

/-- A linear register: one step, and the state in which only the input position is set. -/
structure ShiftRegister (V : Type*) [AddCommGroup V] where
  /-- One step. -/
  step : V →+ V
  /-- The input position. -/
  input : V

namespace ShiftRegister

variable {V : Type*} [AddCommGroup V] (R : ShiftRegister V)

/-- An input bit at the input position. -/
def bit (b : Bool) : V := if b then R.input else 0

/-- Feed one bit. -/
def feed (s : V) (b : Bool) : V := R.step (s + R.bit b)

/-- Feed some bits. -/
def run (s : V) (bs : List Bool) : V := bs.foldl R.feed s

@[simp] theorem run_nil (s : V) : R.run s [] = s := rfl

@[simp] theorem run_cons (s : V) (b : Bool) (bs : List Bool) :
    R.run s (b :: bs) = R.run (R.feed s b) bs := rfl

theorem run_append (s : V) (bs cs : List Bool) : R.run s (bs ++ cs) = R.run (R.run s bs) cs :=
  List.foldl_append

/-! ### Linearity -/

theorem iterate_add (n : ℕ) (s t : V) : R.step^[n] (s + t) = R.step^[n] s + R.step^[n] t := by
  induction n generalizing s t with
  | zero => rfl
  | succ n ih => rw [Function.iterate_succ_apply, map_add, ih]; rfl

theorem iterate_zero (n : ℕ) : R.step^[n] 0 = 0 := by
  induction n with
  | zero => rfl
  | succ n ih => rw [Function.iterate_succ_apply, map_zero, ih]

theorem bit_xor (htwo : ∀ v : V, v + v = 0) (b c : Bool) :
    R.bit (b ^^ c) = R.bit b + R.bit c := by
  cases b <;> cases c <;> simp [bit, htwo]

/-- Adding the states and the inputs adds the outcomes. -/
theorem run_add (htwo : ∀ v : V, v + v = 0) {bs cs : List Bool} (h : bs.length = cs.length)
    (s t : V) : R.run (s + t) (List.zipWith (· ^^ ·) bs cs) = R.run s bs + R.run t cs := by
  induction bs generalizing cs s t with
  | nil =>
    rcases cs with - | ⟨c, cs⟩
    · rfl
    · cases h
  | cons b bs ih =>
    rcases cs with - | ⟨c, cs⟩
    · cases h
    · have hfeed : R.feed (s + t) (b ^^ c) = R.feed s b + R.feed t c := by
        rw [feed, bit_xor R htwo, feed, feed, ← map_add, add_add_add_comm]
      rw [List.zipWith_cons_cons, run_cons, hfeed, ih (Nat.succ.inj h), run_cons, run_cons]

/-- **Two inputs lead to the same state iff their difference leads from zero to zero.** -/
theorem run_eq_iff (htwo : ∀ v : V, v + v = 0) {bs cs : List Bool} (h : bs.length = cs.length)
    (s : V) : R.run s bs = R.run s cs ↔ R.run 0 (List.zipWith (· ^^ ·) bs cs) = 0 := by
  have hsum := R.run_add htwo h s s
  rw [htwo] at hsum
  have hneg : ∀ v : V, -v = v := fun v ↦ neg_eq_of_add_eq_zero_left (htwo v)
  rw [hsum, add_eq_zero_iff_eq_neg, hneg]

/-! ### Words -/

/-- The bits of a word, each at its own position. -/
def word (load : ℕ → V) : List Bool → V
  | [] => 0
  | b :: bs => (if b then load 0 else 0) + word (fun j ↦ load (j + 1)) bs

theorem step_word {load : ℕ → V} {bs : List Bool}
    (hload : ∀ j < bs.length, R.step (load (j + 1)) = load j) :
    R.step (word (fun j ↦ load (j + 1)) bs) = word load bs := by
  induction bs generalizing load with
  | nil => exact map_zero _
  | cons b bs ih =>
    have htail := @ih (fun j ↦ load (j + 1)) fun j hj ↦ hload (j + 1) (Nat.succ_lt_succ hj)
    have hhead : R.step (load 1) = load 0 := hload 0 (Nat.succ_pos _)
    rw [word, word, map_add, htail, apply_ite R.step, hhead, map_zero]

/-- Feeding the bits of a word one after the other is adding the word and making as many steps,
where a position is what one step takes to the position before it. -/
theorem run_eq_word {load : ℕ → V} {bs : List Bool} (hzero : load 0 = R.input)
    (hload : ∀ j, j + 1 < bs.length → R.step (load (j + 1)) = load j) (s : V) :
    R.run s bs = R.step^[bs.length] (s + word load bs) := by
  induction bs generalizing s with
  | nil => exact (add_zero s).symm
  | cons b bs ih =>
    have hbit : R.bit b = if b then load 0 else 0 := by rw [bit, hzero]
    have hstep : R.step (word (fun j ↦ load (j + 1)) bs) = word load bs :=
      R.step_word fun j hj ↦ hload j (Nat.succ_lt_succ hj)
    have htail := ih fun j hj ↦ hload j (Nat.lt_succ_of_lt hj)
    rw [run_cons, htail, List.length_cons, Function.iterate_succ_apply, word, ← add_assoc, map_add,
      hstep, feed, hbit]

/-! ### Bursts -/

theorem run_of_forall_false {bs : List Bool} (h : ∀ b ∈ bs, b = false) (s : V) :
    R.run s bs = R.step^[bs.length] s := by
  induction bs generalizing s with
  | nil => rfl
  | cons b bs ih =>
    have hb : b = false := h b List.mem_cons_self
    have hfeed : R.feed s b = R.step s := by
      rw [feed, hb]
      exact congrArg R.step (add_zero s)
    rw [run_cons, hfeed, ih fun c hc ↦ h c (List.mem_cons_of_mem _ hc), List.length_cons,
      Function.iterate_succ_apply]

/-- **A burst does not cancel.** If a part of the input does not lead from zero to zero, then it
does not do so between zeros. -/
theorem run_ne_zero_of_burst (hinj : Function.Injective R.step) {before w after : List Bool}
    (hbefore : ∀ b ∈ before, b = false) (hafter : ∀ b ∈ after, b = false)
    (hw : R.run 0 w ≠ 0) : R.run 0 (before ++ w ++ after) ≠ 0 := by
  rw [run_append, run_append, R.run_of_forall_false hbefore, iterate_zero,
    R.run_of_forall_false hafter]
  intro hzero
  refine hw (hinj.iterate after.length ?_)
  rw [hzero, iterate_zero]

/-- A pattern whose set bits lie within `n` consecutive positions is a burst: if no burst of at most
`n` bits leads from zero to zero, the pattern does not either. -/
theorem run_ne_zero_of_window (hinj : Function.Injective R.step) {n k : ℕ} {bs : List Bool}
    (hshort : ∀ w : List Bool, w.length ≤ n → true ∈ w → R.run 0 w ≠ 0) (hset : true ∈ bs)
    (hwindow : ∀ p : ℕ, bs[p]? = some true → k ≤ p ∧ p < k + n) : R.run 0 bs ≠ 0 := by
  have hsplit : bs = bs.take k ++ (bs.drop k).take n ++ (bs.drop k).drop n := by
    rw [List.append_assoc, List.take_append_drop, List.take_append_drop]
  have hbefore : ∀ b ∈ bs.take k, b = false := by
    intro b hb
    obtain ⟨p, hget⟩ := List.mem_iff_getElem?.1 hb
    have hlt : p < k := by
      have hp := (List.getElem?_eq_some_iff.1 hget).1
      rw [List.length_take] at hp
      omega
    rw [List.getElem?_take_of_lt hlt] at hget
    refine Bool.eq_false_iff.2 fun htrue ↦ ?_
    rw [htrue] at hget
    exact absurd (hwindow p hget).1 (by omega)
  have hafter : ∀ b ∈ (bs.drop k).drop n, b = false := by
    intro b hb
    obtain ⟨p, hget⟩ := List.mem_iff_getElem?.1 hb
    rw [List.getElem?_drop, List.getElem?_drop] at hget
    refine Bool.eq_false_iff.2 fun htrue ↦ ?_
    rw [htrue] at hget
    exact absurd (hwindow _ hget).2 (by omega)
  have hwithin : true ∈ (bs.drop k).take n := by
    rw [hsplit, List.mem_append, List.mem_append] at hset
    rcases hset with (h | h) | h
    · exact absurd (hbefore true h) (by decide)
    · exact h
    · exact absurd (hafter true h) (by decide)
  rw [hsplit]
  exact R.run_ne_zero_of_burst hinj hbefore hafter (hshort _ (List.length_take_le _ _) hwithin)

/-! ### Counting -/

/-- **Counting the set bits.** A linear quantity that a step keeps and the input position changes by
`δ` has changed by `δ` for every bit that was set. -/
theorem apply_run {W : Type*} [AddCommGroup W] (φ : V →+ W) (hstep : ∀ v, φ (R.step v) = φ v)
    (s : V) (bs : List Bool) : φ (R.run s bs) = φ s + bs.count true • φ R.input := by
  induction bs generalizing s with
  | nil => rw [run_nil, List.count_nil, zero_nsmul, add_zero]
  | cons b bs ih =>
    have hbit : φ (R.bit b) = (if b == true then 1 else 0) • φ R.input := by
      rcases b with - | -
      · exact (map_zero φ).trans (zero_nsmul _).symm
      · exact (one_nsmul _).symm
    rw [run_cons, ih, feed, hstep, map_add, hbit, List.count_cons, add_nsmul, add_assoc,
      add_comm (_ • _)]

end ShiftRegister
