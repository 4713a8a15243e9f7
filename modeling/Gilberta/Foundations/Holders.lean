import Gilberta.Foundations.Allocator

/-!
# Holding and owning blocks

What clients know of an allocator they share. `HeldBy` says that a block somebody holds is live and
held once, and that what was handed back was live until then: no holder has a dangling pointer, and
no block is handed back twice, whatever became of the blocks nobody holds any more. A holder that
holds something may acquire other blocks, or forget what it holds: this is what a pointer that is
overwritten comes to.

`OwnedBy` adds that nothing leaks: every live block is held. An owner that gives all its blocks back
and one that holds nothing and acquires some both keep it, and when every owner has let go
everything has been freed exactly once. -/

namespace Allocator

/-- Every block that is held is live and held once, and every block handed back was handed back
once, and is not live. -/
structure HeldBy {ι : Type*} (a : Allocator) (held : ι → List Block) : Prop where
  /-- No holder holds a block twice. -/
  nodup : ∀ i, (held i).Nodup
  /-- No two holders hold the same block. -/
  disjoint : ∀ i j, i ≠ j → (held i).Disjoint (held j)
  /-- What is held is live. -/
  live : ∀ i, ∀ b ∈ held i, b ∈ a.live
  /-- No block was handed back twice. -/
  freed_nodup : a.freed.Nodup
  /-- The blocks handed back are the allocated ones that are not live. -/
  freed : ∀ b, b ∈ a.freed ↔ b < a.next ∧ b ∉ a.live

/-- Acquiring keeps the record of what was handed back. -/
theorem Acquires.freed_iff {a a' : Allocator} {bs : List Block} (ha : Acquires a a' bs)
    (h : ∀ b, b ∈ a.freed ↔ b < a.next ∧ b ∉ a.live) (b : Block) :
    b ∈ a'.freed ↔ b < a'.next ∧ b ∉ a'.live := by
  rw [ha.freed, h, ha.next, ha.live]
  constructor
  · rintro ⟨hlt, hb⟩
    refine ⟨Or.inr hlt, ?_⟩
    rintro (hc | hc)
    · exact absurd hlt (Nat.not_lt.2 (ha.fresh b hc))
    · exact hb hc
  · rintro ⟨hlt | hlt, hb⟩
    · exact absurd (Or.inl hlt) hb
    · exact ⟨hlt, fun hc ↦ hb (Or.inr hc)⟩

namespace HeldBy

variable {ι : Type*} {a a' : Allocator} {held held' : ι → List Block} {i : ι} {bs : List Block}

/-- Holders that hold less. -/
theorem mono (h : a.HeldBy held) (hsub : ∀ j, (held' j).Sublist (held j)) : a.HeldBy held' where
  nodup := fun j ↦ (h.nodup j).sublist (hsub j)
  disjoint := fun j k hjk _ hb hc ↦
    h.disjoint j k hjk ((hsub j).subset hb) ((hsub k).subset hc)
  live := fun j b hb ↦ h.live j b ((hsub j).subset hb)
  freed_nodup := h.freed_nodup
  freed := h.freed

/-- A holder forgets what it holds. -/
theorem forget (h : a.HeldBy held) (hi : held' i = []) (hne : ∀ j, j ≠ i → held' j = held j) :
    a.HeldBy held' := by
  refine h.mono fun j ↦ ?_
  by_cases hj : j = i
  · rw [hj, hi]
    exact List.nil_sublist _
  · rw [hne j hj]

/-- Handing back blocks that are live, each once, and that nobody holds any more. -/
theorem freeAll (h : a.HeldBy held) (hnd : bs.Nodup) (hlive : ∀ b ∈ bs, b ∈ a.live)
    (hapart : ∀ j, (held j).Disjoint bs) : (a.freeAll bs).HeldBy held where
  nodup := h.nodup
  disjoint := h.disjoint
  live := fun j b hb ↦ a.mem_live_freeAll.2 ⟨fun hc ↦ hapart j hb hc, h.live j b hb⟩
  freed_nodup := by
    rw [freed_freeAll]
    exact List.nodup_append'.2 ⟨h.freed_nodup, hnd, fun b hb hc ↦
      ((h.freed b).1 hb).2 (hlive b hc)⟩
  freed := by
    intro b
    rw [freed_freeAll, List.mem_append, h.freed, next_freeAll, mem_live_freeAll]
    constructor
    · rintro (⟨hlt, hb⟩ | hb)
      · exact ⟨hlt, fun hc ↦ hb hc.2⟩
      · exact ⟨a.lt_next b (hlive b hb), fun hc ↦ hc.1 hb⟩
    · rintro ⟨hlt, hb⟩
      by_cases hbs : b ∈ bs
      · exact Or.inr hbs
      · exact Or.inl ⟨hlt, fun hc ↦ hb ⟨hbs, hc⟩⟩

/-- A holder hands back all it holds. -/
theorem release (h : a.HeldBy held) (hi : held' i = []) (hne : ∀ j, j ≠ i → held' j = held j) :
    (a.freeAll (held i)).HeldBy held' := by
  refine (h.forget hi hne).freeAll (h.nodup i) (h.live i) fun j ↦ ?_
  by_cases hj : j = i
  · rw [hj, hi]
    exact List.disjoint_nil_left _
  · rw [hne j hj]
    exact h.disjoint j i hj

/-- A holder acquires blocks, and forgets what it held. -/
theorem acquire (h : a.HeldBy held) (ha : Acquires a a' bs) (hi : held' i = bs)
    (hne : ∀ j, j ≠ i → held' j = held j) : a'.HeldBy held' where
  nodup := by
    intro j
    by_cases hj : j = i
    · rw [hj, hi]
      exact ha.nodup
    · rw [hne j hj]
      exact h.nodup j
  disjoint := by
    -- what was held before was allocated before
    have hapart : ∀ j, (held j).Disjoint bs := fun j b hb hc ↦
      absurd (a.lt_next b (h.live j b hb)) (Nat.not_lt.2 (ha.fresh b hc))
    intro j k hjk
    by_cases hj : j = i
    · have hk : k ≠ i := fun hk ↦ hjk (hj.trans hk.symm)
      rw [hj, hi, hne k hk]
      exact (hapart k).symm
    · by_cases hk : k = i
      · rw [hk, hi, hne j hj]
        exact hapart j
      · rw [hne j hj, hne k hk]
        exact h.disjoint j k hjk
  live := by
    intro j b hb
    rw [ha.live]
    by_cases hj : j = i
    · rw [hj, hi] at hb
      exact Or.inl hb
    · rw [hne j hj] at hb
      exact Or.inr (h.live j b hb)
  freed_nodup := ha.freed ▸ h.freed_nodup
  freed := ha.freed_iff h.freed

/-- Some of the holders. -/
theorem comap {κ : Type*} (h : a.HeldBy held) {f : κ → ι} (hf : Function.Injective f) :
    a.HeldBy (held ∘ f) where
  nodup := fun k ↦ h.nodup (f k)
  disjoint := fun _ _ hne ↦ h.disjoint _ _ (hf.ne hne)
  live := fun k ↦ h.live (f k)
  freed_nodup := h.freed_nodup
  freed := h.freed

/-- **New holders join**, and share blocks that were acquired for them. -/
theorem join {κ : Type*} {new : κ → List Block} (h : a.HeldBy held) (ha : Acquires a a' bs)
    (hnd : ∀ k, (new k).Nodup) (hdisjoint : ∀ k l, k ≠ l → (new k).Disjoint (new l))
    (hsub : ∀ k, new k ⊆ bs) : a'.HeldBy (Sum.elim new held) where
  nodup := by
    rintro (k | i)
    · exact hnd k
    · exact h.nodup i
  disjoint := by
    have hapart : ∀ k i, (new k).Disjoint (held i) := fun k i b hb hc ↦
      absurd (a.lt_next b (h.live i b hc)) (Nat.not_lt.2 (ha.fresh b (hsub k hb)))
    rintro (k | i) (l | j) hne
    · exact hdisjoint k l fun heq ↦ hne (congrArg Sum.inl heq)
    · exact hapart k j
    · exact (hapart l i).symm
    · exact h.disjoint i j fun heq ↦ hne (congrArg Sum.inr heq)
  live := by
    rintro (k | i) b hb
    · exact (ha.live b).2 (Or.inl (hsub k hb))
    · exact (ha.live b).2 (Or.inr (h.live i b hb))
  freed_nodup := ha.freed ▸ h.freed_nodup
  freed := ha.freed_iff h.freed

theorem nodup_flatMap (h : a.HeldBy held) {is : List ι} (his : is.Nodup) :
    (is.flatMap held).Nodup :=
  List.nodup_flatMap.2 ⟨fun i _ ↦ h.nodup i, his.imp fun hij ↦ h.disjoint _ _ hij⟩

theorem live_of_mem_flatMap (h : a.HeldBy held) {is : List ι} :
    ∀ b ∈ is.flatMap held, b ∈ a.live := by
  intro b hb
  obtain ⟨i, -, hb⟩ := List.mem_flatMap.1 hb
  exact h.live i b hb

/-- **Holders leave**, and hand back all they held. -/
theorem leave {κ : Type*} {old : κ → List Block} (h : a.HeldBy (Sum.elim old held)) {ks : List κ}
    (hks : ks.Nodup) : (a.freeAll (ks.flatMap old)).HeldBy held := by
  have hold : a.HeldBy old := h.comap Sum.inl_injective
  have hheld : a.HeldBy held := h.comap Sum.inr_injective
  refine hheld.freeAll (hold.nodup_flatMap hks) hold.live_of_mem_flatMap fun i b hb hc ↦ ?_
  obtain ⟨k, -, hc⟩ := List.mem_flatMap.1 hc
  exact h.disjoint (.inr i) (.inl k) Sum.inr_ne_inl hb hc

end HeldBy

/-- The owners hold the live blocks, each block once, and every other block ever allocated has
been handed back exactly once. -/
structure OwnedBy {ι : Type*} (a : Allocator) (own : ι → List Block) : Prop
    extends a.HeldBy own where
  /-- Every live block is held. -/
  exists_held : ∀ b ∈ a.live, ∃ i, b ∈ own i

namespace OwnedBy

variable {ι : Type*} {a a' : Allocator} {own own' : ι → List Block} {i : ι} {bs : List Block}

/-- Before the first request nobody holds anything. -/
theorem of_empty (h : ∀ j, own j = []) : Allocator.empty.OwnedBy own where
  nodup := fun j ↦ by rw [h j]; exact List.nodup_nil
  disjoint := fun j k _ ↦ by rw [h j]; exact List.disjoint_nil_left _
  live := fun j ↦ by simp [h j]
  freed_nodup := List.nodup_nil
  freed := fun b ↦ by simp [Allocator.empty]
  exists_held := fun b hb ↦ by simp [Allocator.empty] at hb

/-- An owner hands back all it holds. -/
theorem release (h : a.OwnedBy own) (hi : own' i = []) (hne : ∀ j, j ≠ i → own' j = own j) :
    (a.freeAll (own i)).OwnedBy own' where
  toHeldBy := h.toHeldBy.release hi hne
  exists_held := by
    intro b hb
    obtain ⟨hb, hlive⟩ := a.mem_live_freeAll.1 hb
    obtain ⟨j, hj⟩ := h.exists_held b hlive
    have hji : j ≠ i := by
      rintro rfl
      exact hb hj
    exact ⟨j, by rwa [hne j hji]⟩

/-- An owner that holds nothing acquires blocks. -/
theorem acquire (h : a.OwnedBy own) (ha : Acquires a a' bs) (hempty : own i = [])
    (hi : own' i = bs) (hne : ∀ j, j ≠ i → own' j = own j) : a'.OwnedBy own' where
  toHeldBy := h.toHeldBy.acquire ha hi hne
  exists_held := by
    intro b hb
    rcases (ha.live b).1 hb with hb | hb
    · exact ⟨i, by rwa [hi]⟩
    · obtain ⟨j, hj⟩ := h.exists_held b hb
      have hji : j ≠ i := by
        rintro rfl
        rw [hempty] at hj
        cases hj
      exact ⟨j, by rwa [hne j hji]⟩

/-- **When every owner lets go, every block ever allocated has been freed exactly once.** -/
theorem freeAll_owners (h : a.OwnedBy own) {is : List ι} (hall : ∀ i, i ∈ is) (hnd : is.Nodup) :
    (a.freeAll (is.flatMap own)).live = ∅ ∧ (a.freeAll (is.flatMap own)).freed.Nodup ∧
      ∀ b, b ∈ (a.freeAll (is.flatMap own)).freed ↔ b < a.next := by
  have hnobody : a.HeldBy (own ∘ Empty.elim) :=
    h.toHeldBy.comap (Function.injective_of_subsingleton _)
  have hfreed : (a.freeAll (is.flatMap own)).HeldBy (own ∘ Empty.elim) :=
    hnobody.freeAll (h.nodup_flatMap hnd) h.live_of_mem_flatMap fun e ↦ e.elim
  have hlive : (a.freeAll (is.flatMap own)).live = ∅ := by
    refine Finset.eq_empty_of_forall_notMem fun b hb ↦ ?_
    obtain ⟨hb, hlive⟩ := a.mem_live_freeAll.1 hb
    obtain ⟨i, hi⟩ := h.exists_held b hlive
    exact hb (List.mem_flatMap.2 ⟨i, hall i, hi⟩)
  refine ⟨hlive, hfreed.freed_nodup, fun b ↦ ?_⟩
  rw [hfreed.freed, hlive, next_freeAll]
  exact and_iff_left (Finset.notMem_empty b)

end OwnedBy

end Allocator
