import Mathlib.Algebra.Order.Ring.Nat
import Mathlib.Data.List.Basic
import Mathlib.Data.List.Infix

/-!
# Labelled executions

A finite execution of a labelled transition relation, carried together with the list of the
transitions it takes. Keeping the transitions, and not only the last state, is what lets a
property of a run be a property of *each of its steps*: a condition on a run is a condition on
every entry of the list, perhaps with the entries before it (`AtEach`), and so is a conclusion.

The relation is arbitrary, over arbitrary states and labels, and an invariant may look at the
transitions taken so far (`invariant`) or only at the state (`invariant_of_state`). These rules are
the only inductions the development performs over runs; everything else is a step lemma.

`iff_of_step` is the rule for **exact conditions**: a property of the states of a run that a step
can only break by violating `C`, and does break by violating `C`, holds all along a run exactly
when every step meets `C`.

`amortized` adds up over an execution what its transitions may cost. `balance` is the exact form:
what the transitions put in is still there at the end, but for what each of them may lose.

`map`, `filterMap` and `refine` carry executions over to another relation, whose steps are seen
through functions, are some of the steps, or are smaller. `exists_foldlM_filter` compares two
executions: leaving out the operations that do not matter to an observer does not change what it
observes. -/

/-- Some entry of a list satisfies `P`, and none after it satisfies `Q`. -/
def Since {β : Type*} (P Q : β → Prop) (l : List β) : Prop :=
  ∃ l₁ x l₂, l = l₁ ++ x :: l₂ ∧ P x ∧ ∀ y ∈ l₂, ¬ Q y

theorem not_since_nil {β : Type*} (P Q : β → Prop) : ¬ Since P Q [] := by
  rintro ⟨l₁, x, l₂, hl, -⟩
  simp at hl

theorem since_append_singleton {β : Type*} {P Q : β → Prop} {l : List β} {x : β} :
    Since P Q (l ++ [x]) ↔ P x ∨ (Since P Q l ∧ ¬ Q x) := by
  constructor
  · rintro ⟨l₁, y, l₂, hl, hy, hl₂⟩
    rcases List.eq_nil_or_concat l₂ with rfl | ⟨l₃, z, rfl⟩
    · obtain ⟨-, hx⟩ := List.append_inj' hl rfl
      obtain rfl : x = y := List.singleton_inj.1 hx
      exact Or.inl hy
    · have hsplit : l ++ [x] = (l₁ ++ y :: l₃) ++ [z] := by simpa using hl
      obtain ⟨rfl, hx⟩ := List.append_inj' hsplit rfl
      obtain rfl : x = z := List.singleton_inj.1 hx
      exact Or.inr ⟨⟨l₁, y, l₃, rfl, hy, fun w hw ↦ hl₂ w (by simp [hw])⟩, hl₂ x (by simp)⟩
  · rintro (hx | ⟨⟨l₁, y, l₂, rfl, hy, hl₂⟩, hx⟩)
    · exact ⟨l, x, [], rfl, hx, by simp⟩
    · refine ⟨l₁, y, l₂ ++ [x], by simp, hy, fun w hw ↦ ?_⟩
      rcases List.mem_append.1 hw with hw | hw
      · exact hl₂ w hw
      · rwa [List.mem_singleton.1 hw]

/-- Some entry of a list satisfies `P`, together with the entries after it. -/
def Eventually {β : Type*} (P : β → List β → Prop) : List β → Prop
  | [] => False
  | x :: l => P x l ∨ Eventually P l

instance decidableEventually {β : Type*} {P : β → List β → Prop} [∀ x l, Decidable (P x l)] :
    (l : List β) → Decidable (Eventually P l)
  | [] => inferInstanceAs (Decidable False)
  | x :: l =>
    have := decidableEventually (P := P) l
    inferInstanceAs (Decidable (P x l ∨ Eventually P l))

theorem Eventually.exists_split {β : Type*} {P : β → List β → Prop} {l : List β}
    (h : Eventually P l) : ∃ l₁ x l₂, l = l₁ ++ x :: l₂ ∧ P x l₂ := by
  induction l with
  | nil => exact h.elim
  | cons x l ih =>
    rcases h with hx | hl
    · exact ⟨[], x, l, rfl, hx⟩
    · obtain ⟨l₁, y, l₂, rfl, hy⟩ := ih hl
      exact ⟨x :: l₁, y, l₂, rfl, hy⟩

/-- Every entry of a list satisfies `P`, together with the entries before it. -/
def AtEach {β : Type*} (P : List β → β → Prop) (l : List β) : Prop :=
  ∀ l₁ x l₂, l = l₁ ++ x :: l₂ → P l₁ x

namespace AtEach

variable {β : Type*} {P Q : List β → β → Prop} {l : List β} {x : β}

instance [∀ l x, Decidable (P l x)] : Decidable (AtEach P l) :=
  decidable_of_iff (∀ k : Fin l.length, P (l.take k) (l.get k))
    ⟨by
      rintro h l₁ x l₂ rfl
      simpa using h ⟨l₁.length, by simp⟩,
    fun h k ↦ h _ _ (l.drop (k + 1)) (by simp)⟩

theorem nil : AtEach P [] := by
  intro l₁ x l₂ h
  simp at h

theorem append_singleton_iff : AtEach P (l ++ [x]) ↔ AtEach P l ∧ P l x := by
  refine ⟨fun h ↦ ⟨fun l₁ y l₂ hl ↦ h l₁ y (l₂ ++ [x]) (by simp [hl]), h l x [] rfl⟩, ?_⟩
  rintro ⟨h, hx⟩ l₁ y l₂ hl
  rcases List.eq_nil_or_concat l₂ with rfl | ⟨l₃, z, rfl⟩
  · obtain ⟨rfl, hy⟩ := List.append_inj' hl rfl
    rwa [← List.singleton_inj.1 hy]
  · have hsplit : l ++ [x] = (l₁ ++ y :: l₃) ++ [z] := by simpa using hl
    obtain ⟨rfl, -⟩ := List.append_inj' hsplit rfl
    exact h l₁ y l₃ rfl

end AtEach

/-- A finite execution of `Step`: the state it starts in, the transitions it takes, oldest
first, and the state it ends in. It grows at the end, so that an induction meets the latest
transition first. -/
inductive Execution {σ α : Type*} (Step : σ → α → σ → Prop) (s : σ) :
    List (σ × α × σ) → σ → Prop
  | nil : Execution Step s [] s
  | snoc {t u : σ} {a : α} {ts : List (σ × α × σ)} (h : Execution Step s ts t)
      (hstep : Step t a u) : Execution Step s (ts ++ [(t, a, u)]) u

namespace Execution

variable {σ α : Type*} {Step : σ → α → σ → Prop} {s t u : σ} {ts : List (σ × α × σ)}

/-- **The run rule.** A property of the transitions so far and the state they lead to that holds
at the start and survives every transition meeting the side condition `C` holds at the end of every
execution all of whose transitions meet `C`. -/
theorem invariant {I : List (σ × α × σ) → σ → Prop} {C : σ × α × σ → Prop}
    (hstep : ∀ ts t a u, I ts t → Step t a u → C (t, a, u) → I (ts ++ [(t, a, u)]) u)
    (h : Execution Step s ts u) (h0 : I [] s) (hC : ∀ x ∈ ts, C x) : I ts u := by
  induction h with
  | nil => exact h0
  | @snoc t u a ts _ htu ih =>
    have hI : I ts t := ih fun x hx ↦ hC x (List.mem_append_left _ hx)
    exact hstep ts t a u hI htu (hC _ (by simp))

/-- The run rule for a property of states, which then holds on both sides of every transition. -/
theorem invariant_of_state {I : σ → Prop} {C : σ × α × σ → Prop}
    (hstep : ∀ t a u, I t → Step t a u → C (t, a, u) → I u) (h : Execution Step s ts u)
    (h0 : I s) (hC : ∀ x ∈ ts, C x) :
    I u ∧ ∀ x ∈ ts, I x.1 ∧ Step x.1 x.2.1 x.2.2 ∧ I x.2.2 := by
  refine invariant (I := fun ts u ↦ I u ∧ ∀ x ∈ ts, I x.1 ∧ Step x.1 x.2.1 x.2.2 ∧ I x.2.2)
    (fun ts t a u hI htu hx ↦ ?_) h ⟨h0, by simp⟩ hC
  have hu : I u := hstep t a u hI.1 htu hx
  refine ⟨hu, fun x hx ↦ ?_⟩
  rcases List.mem_append.1 hx with hx | hx
  · exact hI.2 x hx
  · rcases List.mem_singleton.1 hx with rfl
    exact ⟨hI.1, htu, hu⟩

/-- The run rule for a side condition that may look at the transitions taken so far. -/
theorem invariant_of_history {I : List (σ × α × σ) → σ → Prop}
    {C : List (σ × α × σ) → σ × α × σ → Prop}
    (hstep : ∀ ts t a u, I ts t → Step t a u → C ts (t, a, u) → I (ts ++ [(t, a, u)]) u)
    (h : Execution Step s ts u) (h0 : I [] s) (hC : AtEach C ts) :
    I ts u ∧ AtEach (fun ts x ↦ I ts x.1 ∧ Step x.1 x.2.1 x.2.2) ts := by
  induction h with
  | nil => exact ⟨h0, .nil⟩
  | @snoc t u a ts _ htu ih =>
    obtain ⟨hbefore, hlast⟩ := AtEach.append_singleton_iff.1 hC
    obtain ⟨hI, hall⟩ := ih hbefore
    exact ⟨hstep ts t a u hI htu hlast, AtEach.append_singleton_iff.2 ⟨hall, hI, htu⟩⟩

/-- **The rule for exact conditions.** Among transitions that meet `A`, `I` is preserved by those
that meet `C`, it gives `Q`, and a transition out of `I` into `Q` meets `C`. Then `Q` holds all
along an execution if and only if all its transitions meet `C`. -/
theorem iff_of_step {I Q : List (σ × α × σ) → σ → Prop} {A C : σ × α × σ → Prop}
    (hstep : ∀ ts t a u, I ts t → Step t a u → A (t, a, u) → C (t, a, u) →
      I (ts ++ [(t, a, u)]) u)
    (hexact : ∀ ts t a u, I ts t → Step t a u → A (t, a, u) → Q (ts ++ [(t, a, u)]) u →
      C (t, a, u))
    (hQ : ∀ ts t, I ts t → Q ts t) (h : Execution Step s ts u) (h0 : I [] s)
    (hA : ∀ x ∈ ts, A x) :
    (∀ ts₁ u₁, ts₁ <+: ts → Execution Step s ts₁ u₁ → Q ts₁ u₁) ↔ ∀ x ∈ ts, C x := by
  have hrun : ∀ ts₁ u₁, Execution Step s ts₁ u₁ → (∀ x ∈ ts₁, A x) → (∀ x ∈ ts₁, C x) →
      I ts₁ u₁ := fun ts₁ u₁ h₁ hA₁ hC₁ ↦
    invariant (C := fun x ↦ A x ∧ C x)
      (fun ts t a u hI htu hx ↦ hstep ts t a u hI htu hx.1 hx.2) h₁ h0
      fun x hx ↦ ⟨hA₁ x hx, hC₁ x hx⟩
  refine ⟨fun hall ↦ ?_, fun hC ts₁ u₁ hpre h₁ ↦ ?_⟩
  · induction h with
    | nil => simp
    | @snoc t u a ts hts htu ih =>
      have hA' : ∀ x ∈ ts, A x := fun x hx ↦ hA x (List.mem_append_left _ hx)
      have hC : ∀ x ∈ ts, C x := ih hA' fun ts₁ u₁ hpre h₁ ↦
        hall ts₁ u₁ (hpre.trans (List.prefix_append _ _)) h₁
      intro x hx
      rcases List.mem_append.1 hx with hx | hx
      · exact hC x hx
      · rcases List.mem_singleton.1 hx with rfl
        exact hexact ts t a u (hrun ts t hts hA' hC) htu (hA _ (by simp))
          (hall _ u (List.prefix_refl _) (hts.snoc htu))
  · exact hQ ts₁ u₁ (hrun ts₁ u₁ h₁ (fun x hx ↦ hA x (hpre.subset hx))
      fun x hx ↦ hC x (hpre.subset hx))

/-- **Amortization.** If a transition raises the measure `f` by no more than its charge `c`, an
execution raises it by no more than its charges together. What a state may still spend is part of
`f`. -/
theorem amortized {I : σ → Prop} {f : σ → ℕ} {c : α → ℕ}
    (hstep : ∀ t a u, I t → Step t a u → f u ≤ f t + c a) (h : Execution Step s ts u)
    (hI : ∀ x ∈ ts, I x.1) : f u ≤ f s + (ts.map fun x ↦ c x.2.1).sum := by
  induction h with
  | nil => simp
  | @snoc t u a ts _ htu ih =>
    have hlast := hstep t a u (hI (t, a, u) (by simp)) htu
    have hbefore := ih fun x hx ↦ hI x (List.mem_append_left _ hx)
    rw [List.map_append, List.sum_append]
    simp only [List.map_cons, List.map_nil, List.sum_cons, List.sum_nil]
    omega

/-- **The rule for balances.** If a transition puts `c` into the measure `f` and loses at most `d`
of it, an execution puts in all the `c` together and loses at most all the `d` together. -/
theorem balance {I : σ → Prop} {f : σ → ℕ} {c d : σ × α × σ → ℕ}
    (hstep : ∀ t a u, I t → Step t a u → ∃ lost ≤ d (t, a, u), f u + lost = f t + c (t, a, u))
    (h : Execution Step s ts u) (hI : ∀ x ∈ ts, I x.1) :
    ∃ lost ≤ (ts.map d).sum, f u + lost = f s + (ts.map c).sum := by
  induction h with
  | nil => exact ⟨0, Nat.zero_le _, rfl⟩
  | @snoc t u a ts _ htu ih =>
    obtain ⟨before, hbefore, heq⟩ := ih fun x hx ↦ hI x (List.mem_append_left _ hx)
    obtain ⟨last, hlast, hlast'⟩ := hstep t a u (hI (t, a, u) (by simp)) htu
    refine ⟨before + last, ?_, ?_⟩ <;>
      simp only [List.map_append, List.sum_append, List.map_cons, List.map_nil, List.sum_cons,
        List.sum_nil] <;> omega

/-- An execution of a relation is one of any relation that contains it. -/
theorem mono {Step' : σ → α → σ → Prop} (h : Execution Step s ts t)
    (hsub : ∀ t a u, Step t a u → Step' t a u) : Execution Step' s ts t := by
  induction h with
  | nil => exact nil
  | snoc _ hstep ih => exact ih.snoc (hsub _ _ _ hstep)

/-- A one-step execution. -/
theorem single {a : α} (hstep : Step s a t) : Execution Step s [(s, a, t)] t :=
  Execution.nil.snoc hstep

/-- One execution after another. -/
theorem append {us : List (σ × α × σ)} (h : Execution Step s ts t) (h' : Execution Step t us u) :
    Execution Step s (ts ++ us) u := by
  induction h' with
  | nil => rwa [List.append_nil]
  | snoc _ hstep ih =>
    rw [← List.append_assoc]
    exact ih.snoc hstep

/-- An execution can be cut anywhere. -/
theorem exists_append {us : List (σ × α × σ)} (h : Execution Step s (ts ++ us) u) :
    ∃ t, Execution Step s ts t ∧ Execution Step t us u := by
  induction us using List.reverseRecOn generalizing u with
  | nil => exact ⟨u, by rwa [List.append_nil] at h, nil⟩
  | append_singleton us x ih =>
    rw [← List.append_assoc] at h
    generalize hvs : (ts ++ us) ++ [x] = vs at h
    cases h with
    | nil => simp at hvs
    | snoc h hstep =>
      obtain ⟨rfl, hx⟩ := List.append_inj' hvs rfl
      obtain rfl := List.singleton_inj.1 hx
      obtain ⟨t, hts, hus⟩ := ih h
      exact ⟨t, hts, hus.snoc hstep⟩

/-- What an execution consists of around one of its transitions. -/
theorem exists_cons {x : σ × α × σ} {us : List (σ × α × σ)}
    (h : Execution Step s (ts ++ x :: us) u) :
    Execution Step s ts x.1 ∧ Step x.1 x.2.1 x.2.2 ∧ Execution Step x.2.2 us u := by
  rw [List.append_cons] at h
  obtain ⟨t, hts, hus⟩ := exists_append h
  generalize hvs : ts ++ [x] = vs at hts
  cases hts with
  | nil => simp at hvs
  | snoc hts hstep =>
    obtain ⟨rfl, hx⟩ := List.append_inj' hvs rfl
    obtain rfl := List.singleton_inj.1 hx
    exact ⟨hts, hstep, hus⟩

/-! ### Executions of another relation -/

section Other

variable {τ β : Type*} {Step' : τ → β → τ → Prop}

/-- **Projection.** An execution of steps that another relation can imitate one by one, seen
through functions of states and labels, is an execution of that relation. -/
theorem map {f : σ → τ} {g : α → β} (hstep : ∀ t a u, Step t a u → Step' (f t) (g a) (f u))
    (h : Execution Step s ts u) :
    Execution Step' (f s) (ts.map fun x ↦ (f x.1, g x.2.1, f x.2.2)) (f u) := by
  induction h with
  | nil => exact nil
  | @snoc t u a ts _ htu ih =>
    rw [List.map_append]
    exact ih.snoc (hstep t a u htu)

/-- **Leaving out what changes nothing.** The steps of an execution that are steps of another
relation, under labels of that relation, are an execution of it if the other steps change nothing.
-/
theorem filterMap {Step' : σ → β → σ → Prop} {g : α → Option β}
    (hsome : ∀ x ∈ ts, ∀ b, g x.2.1 = some b → Step' x.1 b x.2.2)
    (hnone : ∀ t a u, Step t a u → g a = none → u = t) (h : Execution Step s ts u) :
    Execution Step' s (ts.filterMap fun x ↦ (g x.2.1).map fun b ↦ (x.1, b, x.2.2)) u := by
  induction h with
  | nil => exact nil
  | @snoc t u a ts _ htu ih =>
    have hlast := hsome (t, a, u) (by simp)
    have ih := ih fun x hx ↦ hsome x (List.mem_append_left _ hx)
    rw [List.filterMap_append]
    rcases hg : g a with - | b
    · obtain rfl := hnone t a u htu hg
      simpa [hg] using ih
    · simpa [hg] using ih.snoc (hlast b hg)

/-- **Taking steps apart.** If each step that meets `D` is an execution of another relation on the
same states, all of whose steps meet `C`, then so is an execution of such steps. -/
theorem refine {Step' : σ → β → σ → Prop} {C : σ × β × σ → Prop} {D : σ × α × σ → Prop}
    (hstep : ∀ t a u, Step t a u → D (t, a, u) → ∃ us, Execution Step' t us u ∧ ∀ y ∈ us, C y)
    (h : Execution Step s ts u) (hD : ∀ x ∈ ts, D x) :
    ∃ us, Execution Step' s us u ∧ ∀ y ∈ us, C y := by
  induction h with
  | nil => exact ⟨[], nil, by simp⟩
  | @snoc t u a ts _ htu ih =>
    obtain ⟨us, hus, hC⟩ := ih fun x hx ↦ hD x (List.mem_append_left _ hx)
    obtain ⟨us', hus', hC'⟩ := hstep t a u htu (hD _ (by simp))
    refine ⟨us ++ us', hus.append hus', fun y hy ↦ ?_⟩
    exact (List.mem_append.1 hy).elim (hC y) (hC' y)

end Other

/-! ### Executions of a step function -/

/-- Perform a list of operations, as long as they succeed: the transitions taken and the state
reached. -/
def perform (step : σ → α → Option σ) : List α → σ → Option (List (σ × α × σ) × σ)
  | [], s => some ([], s)
  | a :: as, s => (step s a).bind fun t ↦
      (perform step as t).map fun r ↦ ((s, a, t) :: r.1, r.2)

/-- Performing a list of operations is an execution. -/
theorem append_perform {step : σ → α → Option σ} {as : List α} {r : List (σ × α × σ) × σ}
    (hrun : Execution (fun s a t ↦ step s a = some t) s ts t)
    (h : perform step as t = some r) :
    Execution (fun s a t ↦ step s a = some t) s (ts ++ r.1) r.2 := by
  induction as generalizing ts t r with
  | nil =>
    cases h
    rwa [List.append_nil]
  | cons a as ih =>
    obtain ⟨t₁, h₁, h₂⟩ := Option.bind_eq_some_iff.1 h
    obtain ⟨r', h₃, rfl⟩ := Option.map_eq_some_iff.1 h₂
    have hrun' := ih (hrun.snoc h₁) h₃
    rwa [List.append_assoc] at hrun'

/-- The labels of the transitions are the operations performed. -/
theorem mem_of_perform {step : σ → α → Option σ} {as : List α} {r : List (σ × α × σ) × σ}
    (h : perform step as s = some r) : ∀ x ∈ r.1, x.2.1 ∈ as := by
  induction as generalizing s r with
  | nil =>
    cases h
    simp
  | cons a as ih =>
    obtain ⟨t, -, h⟩ := Option.bind_eq_some_iff.1 h
    obtain ⟨r', h', rfl⟩ := Option.map_eq_some_iff.1 h
    intro x hx
    rcases List.mem_cons.1 hx with rfl | hx
    · exact List.mem_cons_self
    · exact List.mem_cons_of_mem _ (ih h' x hx)

/-! ### Operations that do not matter -/

/-- **Unwinding.** Two states are related; a relevant operation keeps them related when it is
performed on both, and is possible on the second if it is on the first; any other operation keeps
them related when it is performed on the first only. Then performing a list of operations on the
first and only its relevant members on the second keeps the states related. -/
theorem exists_foldlM_filter {step : σ → α → Option σ} {R : σ → σ → Prop} {relevant : α → Bool}
    {as : List α} (hrelevant : ∀ a ∈ as, relevant a = true → ∀ s t s', R s t → step s a = some s' →
      ∃ t', step t a = some t' ∧ R s' t')
    (hother : ∀ a ∈ as, relevant a = false → ∀ s t s', R s t → step s a = some s' → R s' t)
    {s' : σ} (hst : R s t) (h : as.foldlM step s = some s') :
    ∃ t', (as.filter relevant).foldlM step t = some t' ∧ R s' t' := by
  induction as generalizing s t with
  | nil =>
    cases h
    exact ⟨t, rfl, hst⟩
  | cons a as ih =>
    rw [List.foldlM_cons] at h
    obtain ⟨s₁, h₁, h₂⟩ := Option.bind_eq_some_iff.1 h
    have ih := fun t₁ hst₁ ↦ ih (t := t₁) (fun b hb ↦ hrelevant b (List.mem_cons_of_mem _ hb))
      (fun b hb ↦ hother b (List.mem_cons_of_mem _ hb)) hst₁ h₂
    rcases hrel : relevant a with - | -
    · rw [List.filter_cons_of_neg (by rw [hrel]; decide)]
      exact ih t (hother a List.mem_cons_self hrel s t s₁ hst h₁)
    · obtain ⟨t₁, ht₁, hst₁⟩ := hrelevant a List.mem_cons_self hrel s t s₁ hst h₁
      obtain ⟨t', ht', hst'⟩ := ih t₁ hst₁
      rw [List.filter_cons_of_pos hrel, List.foldlM_cons, ht₁]
      exact ⟨t', ht', hst'⟩

end Execution
