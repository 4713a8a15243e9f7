import Gilberta.Foundations.Execution
import Mathlib.Logic.Function.Basic

/-!
# Networks of machines

Any number of machines, each with states, labels and steps of its own, that communicate through what
they send. A network forges nothing, and that is all it does: what was sent may be taken late,
again and again, by anybody, or never.

`Network.invariant` is the rule by which one reasons about such a network machine by machine. What a
machine keeps and what it sends may rest on what has happened anywhere before, a list of notes that
only grows; if every step of every machine keeps to this as long as the messages it takes do, then
the whole network does.
-/

/-- One step of a network: one of the machines makes a step, with messages that were sent before.
The condition `Carried` says what a label takes, as the requirement that all of it satisfies a
predicate. -/
inductive Network.Step {ι μ : Type*} [DecidableEq ι] {σ α : ι → Type*}
    (Moves : ∀ k, σ k → α k → σ k → Prop) (sent : ∀ k, σ k → List μ)
    (Carried : ∀ k, α k → (μ → Prop) → Prop) (s : ∀ k, σ k) :
    (Σ k, α k) → (∀ k, σ k) → Prop
  | step {k : ι} {a : α k} {t : σ k} (hstep : Moves k (s k) a t)
      (hnet : Carried k a fun m ↦ ∃ l, m ∈ sent l (s l)) :
      Step Moves sent Carried s ⟨k, a⟩ (Function.update s k t)

namespace Network

variable {ι μ γ : Type*} [DecidableEq ι] {σ α : ι → Type*} {Moves : ∀ k, σ k → α k → σ k → Prop}
  {sent : ∀ k, σ k → List μ} {Carried : ∀ k, α k → (μ → Prop) → Prop}

theorem Step.exists_moves {s s' : ∀ k, σ k} {k : ι} {a : α k}
    (h : Step Moves sent Carried s ⟨k, a⟩ s') : Moves k (s k) a (s' k) ∧
      (Carried k a fun m ↦ ∃ l, m ∈ sent l (s l)) ∧ ∀ l, l ≠ k → s' l = s l := by
  generalize hlab : (⟨k, a⟩ : Σ k, α k) = lab at h
  cases h with
  | step hstep hnet =>
    cases hlab
    refine ⟨?_, hnet, fun l hl ↦ Function.update_of_ne hl _ _⟩
    rwa [Function.update_self]

/-- The notes on the transitions of a network, each a note on the machine that made the step. -/
def history (note : ∀ k, σ k → α k → σ k → List γ)
    (ts : List ((∀ k, σ k) × (Σ k, α k) × ∀ k, σ k)) : List γ :=
  ts.flatMap fun x ↦ note x.2.1.1 (x.1 x.2.1.1) x.2.1.2 (x.2.2 x.2.1.1)

section Invariant

variable {note : ∀ k, σ k → α k → σ k → List γ} {I : ∀ k, List γ → σ k → Prop}
  {M : List γ → μ → Prop} {s₀ s : ∀ k, σ k} {ts : List ((∀ k, σ k) × (Σ k, α k) × ∀ k, σ k)}

/-- What an invariant of the machines and a property of the messages have to satisfy: they rest on
the notes in a way that survives further ones, and a step that takes messages with the property
keeps the invariant and sends only messages with the property. -/
structure Inductive (Moves : ∀ k, σ k → α k → σ k → Prop) (sent : ∀ k, σ k → List μ)
    (Carried : ∀ k, α k → (μ → Prop) → Prop) (note : ∀ k, σ k → α k → σ k → List γ)
    (I : ∀ k, List γ → σ k → Prop) (M : List γ → μ → Prop) : Prop where
  /-- The invariant survives further notes. -/
  state_mono : ∀ k h g t, I k h t → I k (h ++ g) t
  /-- So does the property of messages. -/
  message_mono : ∀ h g m, M h m → M (h ++ g) m
  /-- What a label takes satisfies whatever follows from what it satisfies. -/
  carried_mono : ∀ k a (P Q : μ → Prop), (∀ m, P m → Q m) → Carried k a P → Carried k a Q
  /-- A step keeps the invariant. -/
  state_step : ∀ k h t a u, I k h t → Moves k t a u → Carried k a (M h) → I k (h ++ note k t a u) u
  /-- A step sends only messages with the property. -/
  message_step : ∀ k h t a u, I k h t → Moves k t a u → Carried k a (M h) →
    ∀ m ∈ sent k u, m ∈ sent k t ∨ M (h ++ note k t a u) m

/-- **The rule for networks.** -/
theorem invariant (hI : Inductive Moves sent Carried note I M)
    (hrun : Execution (Step Moves sent Carried) s₀ ts s)
    (h₀ : ∀ k, I k [] (s₀ k) ∧ ∀ m ∈ sent k (s₀ k), M [] m) :
    ∀ k, I k (history note ts) (s k) ∧ ∀ m ∈ sent k (s k), M (history note ts) m := by
  induction hrun with
  | nil => exact h₀
  | @snoc t u lab ts _ hstep ih =>
    obtain @⟨k, a, u, hstep, hnet⟩ := hstep
    have hcarried : Carried k a (M (history note ts)) := by
      refine hI.carried_mono k a _ _ ?_ hnet
      rintro m ⟨l, hm⟩
      exact (ih l).2 m hm
    have hnotes : history note (ts ++ [(t, ⟨k, a⟩, Function.update t k u)]) =
        history note ts ++ note k (t k) a u := by
      rw [history, List.flatMap_append, List.flatMap_singleton]
      dsimp only
      rw [Function.update_self]
      rfl
    rw [hnotes]
    intro l
    by_cases hl : l = k
    · subst hl
      rw [Function.update_self]
      refine ⟨hI.state_step l _ _ _ _ (ih l).1 hstep hcarried, fun m hm ↦ ?_⟩
      rcases hI.message_step l _ _ _ _ (ih l).1 hstep hcarried m hm with hm | hm
      · exact hI.message_mono _ _ m ((ih l).2 m hm)
      · exact hm
    · rw [Function.update_of_ne hl]
      exact ⟨hI.state_mono l _ _ _ (ih l).1, fun m hm ↦ hI.message_mono _ _ m ((ih l).2 m hm)⟩

/-- What holds around a step in the middle of an execution: the machine keeps the invariant, and
what it takes has the property, both resting on the notes so far. -/
theorem around (hI : Inductive Moves sent Carried note I M) {k : ι} {a : α k}
    {t u : ∀ k, σ k} {us : List ((∀ k, σ k) × (Σ k, α k) × ∀ k, σ k)}
    (hrun : Execution (Step Moves sent Carried) s₀ (ts ++ (t, ⟨k, a⟩, u) :: us) s)
    (h₀ : ∀ k, I k [] (s₀ k) ∧ ∀ m ∈ sent k (s₀ k), M [] m) :
    I k (history note ts) (t k) ∧ Moves k (t k) a (u k) ∧ Carried k a (M (history note ts)) := by
  obtain ⟨hbefore, hstep, -⟩ := hrun.exists_cons
  have hall := invariant hI hbefore h₀
  obtain ⟨hstep, hnet, -⟩ := Step.exists_moves hstep
  refine ⟨(hall k).1, hstep, hI.carried_mono k a _ _ ?_ hnet⟩
  rintro m ⟨l, hm⟩
  exact (hall l).2 m hm

end Invariant

end Network
