import Mathlib.Data.List.Basic

/-!
# Machines that answer

A machine takes a state and a call to an answer and the next state, or to nothing where the call
has no defined meaning. `answers` performs a list of calls, and `answers_refines` is the rule for
refinement: where every call of a kind keeps two machines in relation and is answered alike by
both, so are all lists of such calls, and neither machine gets stuck on them.
-/

section Machines

variable {σ τ α β : Type*} (step : σ → α → Option (β × σ))

/-- Perform the calls in order, and collect the answers. -/
def answers : σ → List α → Option (List β × σ)
  | s, [] => some ([], s)
  | s, a :: as =>
    (step s a).bind fun r ↦ (answers r.2 as).map fun rs ↦ (r.1 :: rs.1, rs.2)

variable {step}

theorem answers_cons_of_eq {s s' u : σ} {a : α} {as : List α} {b : β} {bs : List β}
    (h : step s a = some (b, s')) (hrest : answers step s' as = some (bs, u)) :
    answers step s (a :: as) = some (b :: bs, u) := by
  rw [answers, h, Option.bind_some, hrest, Option.map_some]

/-- **The rule for refinement.** -/
theorem answers_refines {spec : τ → α → Option (β × τ)} {R : σ → τ → Prop} {C : α → Prop}
    (hstep : ∀ s t a, R s t → C a → ∃ b s' t', step s a = some (b, s') ∧
      spec t a = some (b, t') ∧ R s' t') {s : σ} {t : τ} (h : R s t) {as : List α}
    (hC : ∀ a ∈ as, C a) : ∃ bs s' t', answers step s as = some (bs, s') ∧
      answers spec t as = some (bs, t') ∧ R s' t' := by
  induction as generalizing s t with
  | nil => exact ⟨[], s, t, rfl, rfl, h⟩
  | cons a as ih =>
    obtain ⟨b, s₁, t₁, hs, ht, h₁⟩ := hstep s t a h (hC a List.mem_cons_self)
    obtain ⟨bs, s', t', hs', ht', h'⟩ := ih h₁ fun c hc ↦ hC c (List.mem_cons_of_mem a hc)
    exact ⟨b :: bs, s', t', answers_cons_of_eq hs hs', answers_cons_of_eq ht ht', h'⟩

end Machines
