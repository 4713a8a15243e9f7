import Mathlib.Data.Fintype.EquivFin
import Mathlib.Data.List.FinRange
import Mathlib.Data.List.Nodup

/-!
# Tables of slots

A fixed number of entries, each empty or with a value. A value is put into the first entry that is
empty, and removed from the first entry that has it; where there is none, nothing happens. Used with
care, that is if no value is put in that is in already, such a table is a set of values, and it has
room for all of them as soon as it has an entry for each.
-/

/-- A table of `n` entries. -/
abbrev SlotTable (n : ℕ) (α : Type*) := Fin n → Option α

namespace SlotTable

variable {n : ℕ} {α : Type*}

/-- The empty table. -/
def empty : SlotTable n α := fun _ ↦ none

/-- The values of a table, in the order of its entries. -/
def values (t : SlotTable n α) : List α := (List.finRange n).filterMap t

/-- No value has two entries. -/
def Distinct (t : SlotTable n α) : Prop :=
  ∀ k l x, t k = some x → t l = some x → k = l

/-- Put a value into the first empty entry. -/
def insert (t : SlotTable n α) (x : α) : SlotTable n α :=
  match (List.finRange n).find? fun k ↦ (t k).isNone with
  | none => t
  | some k => Function.update t k (some x)

/-- Empty the first entry that has a value. -/
def remove [DecidableEq α] (t : SlotTable n α) (x : α) : SlotTable n α :=
  match (List.finRange n).find? fun k ↦ t k = some x with
  | none => t
  | some k => Function.update t k none

variable {t : SlotTable n α} {x y : α}

theorem mem_values : x ∈ t.values ↔ ∃ k, t k = some x := by
  simp [values]

/-- A table without repetitions lists every value once. -/
theorem Distinct.nodup_values (h : t.Distinct) : t.values.Nodup :=
  (List.nodup_finRange n).filterMap fun _ _ x hk hl ↦ h _ _ x hk hl

theorem distinct_empty : (empty : SlotTable n α).Distinct := fun _ _ _ hk ↦ nomatch hk

theorem values_empty : (empty : SlotTable n α).values = [] := by
  simp [values, empty]

/-! ### Putting in -/

theorem insert_eq (h : ∃ k, t k = none) :
    ∃ k, t k = none ∧ t.insert x = Function.update t k (some x) := by
  obtain ⟨l, hl⟩ := h
  rw [insert]
  split
  · next hnone =>
    have hall := List.find?_eq_none.1 hnone l (List.mem_finRange l)
    rw [hl] at hall
    exact absurd rfl hall
  · next k hk =>
    have hk := List.find?_some (p := fun k ↦ (t k).isNone) hk
    exact ⟨k, Option.isNone_iff_eq_none.1 hk, rfl⟩

/-- What is in a table after a value was put in. -/
theorem mem_values_insert (h : ∃ k, t k = none) :
    y ∈ (t.insert x).values ↔ y = x ∨ y ∈ t.values := by
  obtain ⟨k, hk, heq⟩ := insert_eq (x := x) h
  rw [heq, mem_values, mem_values]
  constructor
  · rintro ⟨l, hl⟩
    by_cases hlk : l = k
    · subst hlk
      rw [Function.update_self] at hl
      exact Or.inl (Option.some_inj.1 hl).symm
    · rw [Function.update_of_ne hlk] at hl
      exact Or.inr ⟨l, hl⟩
  · rintro (rfl | ⟨l, hl⟩)
    · exact ⟨k, Function.update_self ..⟩
    · have hlk : l ≠ k := by rintro rfl; rw [hk] at hl; cases hl
      exact ⟨l, by rwa [Function.update_of_ne hlk]⟩

theorem Distinct.insert (h : t.Distinct) (hx : x ∉ t.values) : (t.insert x).Distinct := by
  rw [SlotTable.insert]
  split
  · exact h
  next j _ =>
  have hnot : ∀ k, t k ≠ some x := fun k hk ↦ hx (mem_values.2 ⟨k, hk⟩)
  intro k l y hk hl
  rw [Function.update_apply] at hk hl
  split at hk <;> split at hl
  · next hkj hlj => exact hkj.trans hlj.symm
  · cases hk; exact absurd hl (hnot l)
  · cases hl; exact absurd hk (hnot k)
  · exact h k l y hk hl

/-- A table with an entry for each value has room for a value that is not in it. -/
theorem Distinct.exists_empty [Fintype α] (h : t.Distinct) (hcard : Fintype.card α ≤ n)
    (hx : x ∉ t.values) : ∃ k, t k = none := by
  by_contra hfull
  have hsome : ∀ k, (t k).isSome := fun k ↦
    Option.isSome_iff_ne_none.2 fun hk ↦ hfull ⟨k, hk⟩
  -- without an empty entry the table hits every value
  have hinj : Function.Injective fun k ↦ (t k).get (hsome k) := by
    intro k l hkl
    have hkl : (t k).get (hsome k) = (t l).get (hsome l) := hkl
    exact h k l _ (Option.some_get (hsome k)).symm (by rw [hkl, Option.some_get])
  have hcard' : Fintype.card (Fin n) = Fintype.card α :=
    le_antisymm (Fintype.card_le_of_injective _ hinj) ((Fintype.card_fin n).symm ▸ hcard)
  have hbij := (Fintype.bijective_iff_injective_and_card (fun k ↦ (t k).get (hsome k))).2
    ⟨hinj, hcard'⟩
  obtain ⟨k, hk⟩ := hbij.2 x
  exact hx (mem_values.2 ⟨k, by rw [← hk, Option.some_get]⟩)

/-! ### Taking out -/

variable [DecidableEq α]

theorem Distinct.remove (h : t.Distinct) (x : α) : (t.remove x).Distinct := by
  rw [SlotTable.remove]
  split
  · exact h
  intro k l y hk hl
  rw [Function.update_apply] at hk hl
  split at hk
  · cases hk
  split at hl
  · cases hl
  exact h k l y hk hl

/-- What is in a table after a value was taken out. -/
theorem Distinct.mem_values_remove (h : t.Distinct) :
    y ∈ (t.remove x).values ↔ y ≠ x ∧ y ∈ t.values := by
  rw [SlotTable.remove]
  split
  · next hnone =>
    rw [mem_values]
    refine ⟨fun ⟨k, hk⟩ ↦ ⟨?_, k, hk⟩, And.right⟩
    rintro rfl
    exact List.find?_eq_none.1 hnone k (List.mem_finRange k) (decide_eq_true hk)
  · next j hj =>
    have hj := of_decide_eq_true (List.find?_some (p := fun k ↦ decide (t k = some x)) hj)
    rw [mem_values, mem_values]
    constructor
    · rintro ⟨k, hk⟩
      rw [Function.update_apply] at hk
      split at hk
      · cases hk
      next hkj =>
      refine ⟨?_, k, hk⟩
      rintro rfl
      exact hkj (h k j y hk hj)
    · rintro ⟨hyx, k, hk⟩
      have hkj : k ≠ j := by rintro rfl; exact hyx (Option.some_inj.1 (hk.symm.trans hj))
      exact ⟨k, by rwa [Function.update_of_ne hkj]⟩

end SlotTable
