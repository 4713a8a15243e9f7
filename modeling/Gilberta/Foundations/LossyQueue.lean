import Gilberta.Foundations.Execution

/-!
# Queues that may lose things

A queue that somebody feeds at its end and somebody else empties at its head, one thing at a time,
and that may lose things on the way: what it is fed with, or its head. `QueueStep` is what one step
makes of it, and `Execution.queue` adds the steps of an execution up: what came out, followed by
what still waits, is part of what waited at the start and what went in since, in the same order; and
all of it, if no step lost anything.

The queue may be any part of the state of any transition system, and what goes in and comes out may
be anything its transitions determine.
-/

/-- What one step makes of a queue that holds `before`: `input` goes in, `output` comes out and
`after` is left. Only a step that is not `lossless` loses anything. -/
inductive QueueStep {α : Type*} (lossless : Prop) (input output before after : List α) : Prop
  /-- What goes in waits behind the others. -/
  | stored (houtput : output = []) (hafter : after = before ++ input)
  /-- The head comes out. -/
  | taken {x : α} (hinput : input = []) (houtput : output = [x]) (hbefore : before = x :: after)
  /-- The head is lost. -/
  | dropped {x : α} (hlost : ¬ lossless) (hinput : input = []) (houtput : output = [])
      (hbefore : before = x :: after)
  /-- What goes in is lost. -/
  | refused (hlost : ¬ lossless) (houtput : output = []) (hafter : after = before)

namespace QueueStep

variable {α : Type*} {lossless : Prop} {input output before after : List α}

/-- The queue is left alone. -/
theorem same (hinput : input = []) (houtput : output = []) (hafter : after = before) :
    QueueStep lossless input output before after :=
  .stored houtput (by rw [hafter, hinput, List.append_nil])

theorem sublist (h : QueueStep lossless input output before after) :
    (output ++ after).Sublist (before ++ input) := by
  cases h with
  | stored houtput hafter => rw [houtput, hafter, List.nil_append]
  | taken hinput houtput hbefore =>
    rw [hinput, houtput, hbefore, List.append_nil, List.singleton_append]
  | dropped _ hinput houtput hbefore =>
    rw [hinput, houtput, hbefore, List.append_nil, List.nil_append]
    exact List.sublist_cons_self _ _
  | refused _ houtput hafter =>
    rw [houtput, hafter, List.nil_append]
    exact List.sublist_append_left _ _

theorem append_eq (h : QueueStep lossless input output before after) (hlossless : lossless) :
    output ++ after = before ++ input := by
  cases h with
  | stored houtput hafter => rw [houtput, hafter, List.nil_append]
  | taken hinput houtput hbefore =>
    rw [hinput, houtput, hbefore, List.append_nil, List.singleton_append]
  | dropped hlost | refused hlost => exact absurd hlossless hlost

end QueueStep

namespace Execution

variable {σ α β : Type*} {Step : σ → α → σ → Prop} {s u : σ} {ts : List (σ × α × σ)}

/-- **The rule for queues.** Where every step makes a `QueueStep` of the contents, what came out of
the queue during an execution, followed by what still waits, is part of what waited at the start and
what went in; all of it, if every step is lossless. -/
theorem queue {Holds : σ → List β → Prop} {lossless : σ × α × σ → Prop}
    {input output : σ × α × σ → List β} {C : σ × α × σ → Prop} {q₀ : List β}
    (hstep : ∀ t a u q, Holds t q → Step t a u → C (t, a, u) → ∃ q', Holds u q' ∧
      QueueStep (lossless (t, a, u)) (input (t, a, u)) (output (t, a, u)) q q')
    (h : Execution Step s ts u) (h0 : Holds s q₀) (hC : ∀ x ∈ ts, C x) :
    ∃ q, Holds u q ∧ (ts.flatMap output ++ q).Sublist (q₀ ++ ts.flatMap input) ∧
      ((∀ x ∈ ts, lossless x) → ts.flatMap output ++ q = q₀ ++ ts.flatMap input) := by
  refine invariant (I := fun ts u ↦ ∃ q, Holds u q ∧
    (ts.flatMap output ++ q).Sublist (q₀ ++ ts.flatMap input) ∧
    ((∀ x ∈ ts, lossless x) → ts.flatMap output ++ q = q₀ ++ ts.flatMap input)) ?_ h
    ⟨q₀, h0, by simp, by simp⟩ hC
  rintro ts t a u ⟨q, hq, hsub, heq⟩ htu hx
  obtain ⟨q', hq', hqueue⟩ := hstep t a u q hq htu hx
  simp only [List.flatMap_append, List.flatMap_singleton]
  refine ⟨q', hq', ?_, fun hlossless ↦ ?_⟩
  · have hlast : (ts.flatMap output ++ output (t, a, u) ++ q').Sublist
        (ts.flatMap output ++ q ++ input (t, a, u)) := by
      rw [List.append_assoc, List.append_assoc]
      exact hqueue.sublist.append_left _
    rw [← List.append_assoc q₀]
    exact hlast.trans (hsub.append_right _)
  · have hlast := hqueue.append_eq (hlossless (t, a, u) (by simp))
    have hbefore := heq fun x hx ↦ hlossless x (List.mem_append_left _ hx)
    rw [List.append_assoc, hlast, ← List.append_assoc, hbefore, List.append_assoc]

end Execution
