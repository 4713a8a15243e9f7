import Mathlib.Algebra.BigOperators.Group.Finset.Basic
import Mathlib.Algebra.Order.Ring.Nat
import Mathlib.Data.List.Basic

/-!
# Retry timers

A timer that runs out is started again with another interval, up to a limit. How long it has been
running can then be read off its two fields: a timer that stands at deadline `d` after `n` retries
was started at least the first `n + 1` intervals before `d` (`Backoff.elapsed`), however late each
of its deadlines was noticed. If each deadline is noticed within a given time, it was not started
much earlier than that either (`PromptBackoff.deadline_le`).

`lastOf`, `Punctual` and `CountSince` are the other half of such statements, about the history
instead of the fields: when the timer was last started, how often it has been looked at, and what
has happened, and how much of it, since then. -/

open scoped BigOperators

/-- A timer that was started at `start` and has been retried. The indices are the number of retries
and the deadline: the first is `interval 0` after the start, and the deadline of retry `n` is
`interval n` after a clock reading at which the one before had passed. -/
inductive Backoff (interval : ℕ → ℕ) (start : ℕ) : ℕ → ℕ → Prop
  | start : Backoff interval start 0 (start + interval 0)
  | retry {n deadline now later : ℕ} (h : Backoff interval start n deadline)
      (hexpired : deadline ≤ now) (hlater : now ≤ later) :
      Backoff interval start (n + 1) (later + interval (n + 1))

/-- **All intervals up to the present one lie between the start and the deadline.** -/
theorem Backoff.elapsed {interval : ℕ → ℕ} {start n deadline : ℕ}
    (h : Backoff interval start n deadline) :
    start + ∑ k ∈ Finset.range (n + 1), interval k ≤ deadline := by
  induction h with
  | start => simp
  | @retry n deadline now later _ hexpired hlater ih =>
    rw [Finset.sum_range_succ, ← add_assoc]
    exact Nat.add_le_add_right (ih.trans (hexpired.trans hlater)) _

/-- A timer as in `Backoff` whose deadlines are all noticed in time: the clock reading a new
deadline is counted from lies at most `delay` after the deadline before it. -/
inductive PromptBackoff (interval : ℕ → ℕ) (delay start : ℕ) : ℕ → ℕ → Prop
  | start : PromptBackoff interval delay start 0 (start + interval 0)
  | retry {n deadline later : ℕ} (h : PromptBackoff interval delay start n deadline)
      (hprompt : later ≤ deadline + delay) :
      PromptBackoff interval delay start (n + 1) (later + interval (n + 1))

/-- **The deadline lies no further from the start than all intervals and delays together.** -/
theorem PromptBackoff.deadline_le {interval : ℕ → ℕ} {delay start n deadline : ℕ}
    (h : PromptBackoff interval delay start n deadline) :
    deadline ≤ start + ∑ k ∈ Finset.range (n + 1), interval k + n * delay := by
  induction h with
  | start => simp
  | @retry n deadline later _ hprompt ih =>
    rw [Finset.sum_range_succ, Nat.succ_mul]
    omega

/-! ### The last value in a history -/

/-- The value of the last entry of a list that has one under `f`. -/
def lastOf {β γ : Type*} (f : β → Option γ) (l : List β) : Option γ := (l.filterMap f).getLast?

theorem lastOf_append_singleton {β γ : Type*} (f : β → Option γ) (l : List β) (x : β) :
    lastOf f (l ++ [x]) = (f x).or (lastOf f l) := by
  unfold lastOf
  rw [List.filterMap_append]
  cases hx : f x with
  | none => simp [hx]
  | some v => simp [hx]

/-- Passes come often enough: each one, at the time `pass` says, comes at most `delay` after the
last time there was before it under `mark`. -/
def Punctual {β : Type*} (mark pass : β → Option ℕ) (delay : ℕ) (l : List β) : Prop :=
  ∀ n < l.length, ∀ m ∈ lastOf mark (l.take n), ∀ t ∈ l[n]?.bind pass, t ≤ m + delay

section Punctual

variable {β : Type*} {mark pass : β → Option ℕ} {delay : ℕ} {l : List β} {x : β}

instance : Decidable (Punctual mark pass delay l) := by
  unfold Punctual
  infer_instance

theorem Punctual.init (h : Punctual mark pass delay (l ++ [x])) : Punctual mark pass delay l := by
  intro n hn
  have hall := h n (by rw [List.length_append]; omega)
  rwa [List.take_append_of_le_length hn.le, List.getElem?_append_left hn] at hall

theorem Punctual.last (h : Punctual mark pass delay (l ++ [x])) {m t : ℕ}
    (hm : lastOf mark l = some m) (ht : pass x = some t) : t ≤ m + delay := by
  refine h l.length (by simp) m ?_ t ?_
  · rwa [List.take_left]
  · simpa using ht

end Punctual

/-! ### Counting since the last start -/

/-- The last entry of a list with a value under `start` has the value `v` there, and the entries
after it weigh `n`. -/
def CountSince {β γ : Type*} (start : β → Option γ) (weight : β → ℕ) (v : γ) (n : ℕ)
    (l : List β) : Prop :=
  ∃ l₁ x l₂, l = l₁ ++ x :: l₂ ∧ start x = some v ∧ (∀ y ∈ l₂, start y = none) ∧
    (l₂.map weight).sum = n

section CountSince

variable {β γ : Type*} {start : β → Option γ} {weight : β → ℕ} {v : γ} {n : ℕ} {l : List β} {x : β}

theorem countSince_start (h : start x = some v) : CountSince start weight v 0 (l ++ [x]) :=
  ⟨l, x, [], rfl, h, by simp, rfl⟩

theorem CountSince.append (h : CountSince start weight v n l) (hx : start x = none) :
    CountSince start weight v (n + weight x) (l ++ [x]) := by
  obtain ⟨l₁, y, l₂, rfl, hy, hl₂, rfl⟩ := h
  refine ⟨l₁, y, l₂ ++ [x], by simp, hy, fun z hz ↦ ?_, by simp⟩
  rcases List.mem_append.1 hz with hz | hz
  · exact hl₂ z hz
  · rwa [List.mem_singleton.1 hz]

end CountSince
