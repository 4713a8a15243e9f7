import Gilberta.Foundations.Holders
import Gilberta.Lifecycle.Arrays
import Gilberta.Memory.Channels

/-!
# Who owns the memory

The context, its event queue and the slots are the owners of the blocks of the allocator: a slot
owns its channel array and the queues in it. `glbctx_createconchannels` overwrites `con->channels`
and `glbctx_findemptyconn` clears it, both without looking, so nothing is lost only as long as a
slot that is closed, connecting or half open has no array.

`nothing_leaked_iff` says when that is so: as long as no SYN, SYN|ACK or RST is handled for a
closing slot, and no SYN|ACK is handled whose ACK cannot be sent.
-/

namespace Gilberta

variable {cfg : Glbcfg}

/-- The states in which a slot is to have no channels. -/
def IsIdle (s : GLBConnState) : Prop := s = .closed ∨ s = .synSent ∨ s = .synRcvd

/-- The owners of memory blocks. -/
inductive Owner (n : ℕ)
  | eventqueue
  | slot (i : Fin n)
  | context
  deriving DecidableEq

namespace Owner

/-- Every owner, in the order in which `glb_destroy` lets them go. -/
def all (n : ℕ) : List (Owner n) :=
  .eventqueue :: ((List.finRange n).map .slot ++ [.context])

theorem mem_all {n : ℕ} (o : Owner n) : o ∈ all n := by
  cases o <;> simp [all]

theorem nodup_all (n : ℕ) : (all n).Nodup := by
  have hslots : ((List.finRange n).map (Owner.slot (n := n))).Nodup :=
    (List.nodup_finRange n).map fun i j h ↦ by cases h; rfl
  simpa [all, List.nodup_append'] using hslots

end Owner

namespace Glbctx

/-- The blocks an owner holds. -/
def owned (ctx : Glbctx cfg) : Owner cfg.connectionCount → List Block
  | .eventqueue => [ctx.eventqueue.block]
  | .slot i => ctx.channelBlocks i
  | .context => [ctx.block]

/-- No slot that is closed, connecting or half open has channels. -/
def NoIdleArrays (ctx : Glbctx cfg) : Prop :=
  ∀ i, IsIdle (ctx.connections i).state → (ctx.connections i).channels = none

/-- `glb_destroy` frees every block that was ever allocated, each exactly once. -/
def FreesAllOnce (ctx : Glbctx cfg) : Prop :=
  ctx.glbDestroy.live = ∅ ∧ ctx.glbDestroy.freed.Nodup ∧
    ∀ b, b ∈ ctx.glbDestroy.freed ↔ b < ctx.allocator.next

/-- A transition overwrites the channels of slot `i`: it builds an array for the slot, or takes
the slot over for a new address. -/
def Overwrites (i : Fin cfg.connectionCount) (x : Transition cfg) : Prop :=
  Builds i x ∨
    ((x.1.connections i).state = .closed ∧ (x.2.2.connections i).state = .synRcvd ∧
      ∃ pkg from_ env, x.2.1 = .packet pkg from_ env ∧ x.1.findConnByAddr from_ = none)

/-- Nothing has leaked: no array is held by a slot that does not use it, nothing was overwritten
that was still held, and destroying the context now would free everything exactly once. -/
structure NothingLeaked (ts : List (Transition cfg)) (ctx : Glbctx cfg) : Prop where
  /-- No idle slot has channels. -/
  idle : ctx.NoIdleArrays
  /-- No array was overwritten. -/
  overwritten : ∀ x ∈ ts, ∀ i, Overwrites i x → (x.1.connections i).channels = none
  /-- `glb_destroy` frees everything exactly once. -/
  destroyed : ctx.FreesAllOnce

end Glbctx

/-- A packet that leaves the memory tidy: a SYN|ACK finds slot 0 established, or not closing and
with a socket that takes the ACK; a SYN does not find a closing slot by its address; an RST does
not find a closing slot by its id. -/
def Glbctx.Tidies (ctx : Glbctx cfg) (pkg : Glbpkg) (from_ : Glbaddr) (env : Env) : Prop :=
  (pkg.header.ctrlFlags = ctrlFlagSynAck → ∀ i : Fin cfg.connectionCount, i.val = 0 →
    (ctx.connections i).state = .established ∨
      ((ctx.connections i).state ≠ .finSent ∧ env.sendOk 0 = true)) ∧
  (pkg.IsSyn → ∀ i, ctx.findConnByAddr from_ = some i → (ctx.connections i).state ≠ .finSent) ∧
  (pkg.header.ctrlFlags = ctrlFlagRst → ∀ i, pkg.Finds ctx i →
    (ctx.connections i).state ≠ .finSent)

/-- An operation that leaves the memory tidy. -/
def Op.Tidy (ctx : Glbctx cfg) : Op cfg → Prop
  | .packet pkg from_ env => ctx.Tidies pkg from_ env
  | _ => True

instance (ctx : Glbctx cfg) (pkg : Glbpkg) (from_ : Glbaddr) (env : Env) :
    Decidable (ctx.Tidies pkg from_ env) := by
  unfold Glbctx.Tidies
  infer_instance

instance (ctx : Glbctx cfg) : (op : Op cfg) → Decidable (op.Tidy ctx)
  | .packet pkg from_ env => inferInstanceAs (Decidable (ctx.Tidies pkg from_ env))
  | .connect _ | .close _ _ | .send _ _ | .pollevent | .popdata _ | .readError | .timers _ _ =>
    inferInstanceAs (Decidable True)

namespace Glbctx

variable {ctx ctx' : Glbctx cfg} {op : Op cfg} {i : Fin cfg.connectionCount}

/-! ### Destroying a context -/

theorem channelBlocks_freeConChannels {j : Fin cfg.connectionCount} (hj : j ≠ i) :
    (ctx.freeConChannels i).2.channelBlocks j = ctx.channelBlocks j := by
  rw [freeConChannels_snd]
  simp only [channelBlocks, connections_setCon_of_ne _ _ hj]

/-- The freeing loop of `glb_destroy` over a list of different slots. -/
theorem allocator_foldl_freeConChannels (ctx : Glbctx cfg) {is : List (Fin cfg.connectionCount)}
    (his : is.Nodup) :
    (is.foldl (fun ctx i ↦ (ctx.freeConChannels i).2) ctx).allocator =
      ctx.allocator.freeAll (is.flatMap ctx.channelBlocks) ∧
    (is.foldl (fun ctx i ↦ (ctx.freeConChannels i).2) ctx).block = ctx.block := by
  induction is generalizing ctx with
  | nil => exact ⟨rfl, rfl⟩
  | cons i is ih =>
    obtain ⟨hi, his⟩ := List.nodup_cons.1 his
    obtain ⟨hall, hblock⟩ := ih (ctx.freeConChannels i).2 his
    have hrest : is.flatMap (ctx.freeConChannels i).2.channelBlocks =
        is.flatMap ctx.channelBlocks := by
      refine List.flatMap_congr fun j hj ↦ channelBlocks_freeConChannels ?_
      rintro rfl
      exact hi hj
    rw [List.foldl_cons, hall, hblock, hrest, List.flatMap_cons, Allocator.freeAll_append,
      freeConChannels_snd]
    exact ⟨rfl, rfl⟩

/-- `glb_destroy` makes every owner let go, one after the other. -/
theorem glbDestroy_eq (ctx : Glbctx cfg) :
    ctx.glbDestroy = ctx.allocator.freeAll ((Owner.all cfg.connectionCount).flatMap ctx.owned) := by
  obtain ⟨hall, hblock⟩ := allocator_foldl_freeConChannels
    { ctx with allocator := ctx.allocator.free ctx.eventqueue.block }
    (List.nodup_finRange cfg.connectionCount)
  have hslots : ((List.finRange cfg.connectionCount).map Owner.slot).flatMap ctx.owned =
      (List.finRange cfg.connectionCount).flatMap ctx.channelBlocks := by
    rw [List.flatMap_map]
    rfl
  rw [glbDestroy, hall, hblock, Owner.all, List.flatMap_cons, List.flatMap_append, hslots,
    Allocator.freeAll_append, Allocator.freeAll_append]
  rfl

/-! ### The invariant -/

/-- Idle slots have no channels, and the owners hold the live blocks, each block once. -/
structure Owning (ctx : Glbctx cfg) : Prop where
  /-- No idle slot has channels. -/
  idle : ctx.NoIdleArrays
  /-- The owners hold the live blocks. -/
  owned : ctx.allocator.OwnedBy ctx.owned

theorem freesAllOnce_of_owning (h : Owning ctx) : FreesAllOnce ctx := by
  rw [FreesAllOnce, glbDestroy_eq]
  exact h.owned.freeAll_owners Owner.mem_all (Owner.nodup_all _)

theorem owning_init : Owning (init cfg) where
  idle := fun _ _ ↦ rfl
  owned := by
    -- the context acquires its block, then the event queue its own
    have hcontext : (Allocator.empty.malloc true).1.OwnedBy
        (fun o : Owner cfg.connectionCount ↦ if o = .context then [0] else []) :=
      (Allocator.OwnedBy.of_empty fun _ ↦ rfl).acquire (i := .context) (.of_malloc_true _) rfl
        (if_pos rfl) fun _ ho ↦ if_neg ho
    refine hcontext.acquire (i := .eventqueue) (.of_malloc_true _) rfl rfl fun o ho ↦ ?_
    cases o with
    | eventqueue => exact absurd rfl ho
    | slot i => rfl
    | context => rfl

/-- The owners other than the slots never change what they hold. -/
theorem owned_of_becomes {con' : Glbconn cfg} {a' : Allocator}
    {evs : List (Glbevent cfg.connectionCount)} (hb : ctx.Becomes ctx' i con' a' evs)
    {o : Owner cfg.connectionCount} (ho : o ≠ .slot i) : ctx'.owned o = ctx.owned o := by
  cases o with
  | eventqueue => exact congrArg (fun b ↦ [b]) hb.queueBlock
  | slot j =>
    have hj : j ≠ i := fun hj ↦ ho (hj ▸ rfl)
    show ctx'.channelBlocks j = ctx.channelBlocks j
    rw [channelBlocks, hb.of_ne j hj]
    rfl
  | context => exact congrArg (fun b ↦ [b]) hb.block

theorem channelBlocks_of_none (h : (ctx.connections i).channels = none) :
    ctx.channelBlocks i = [] := by
  rw [channelBlocks, h]
  rfl

/-- A change that leaves the array of its slot where it is. -/
theorem owned_of_same {con' : Glbconn cfg} {evs : List (Glbevent cfg.connectionCount)}
    (hI : ctx.allocator.OwnedBy ctx.owned) (hb : ctx.Becomes ctx' i con' ctx.allocator evs)
    (hchannels : con'.channels = (ctx.connections i).channels) :
    ctx'.allocator.OwnedBy ctx'.owned := by
  have howned : ctx'.owned = ctx.owned := by
    funext o
    by_cases ho : o = .slot i
    · subst ho
      show ctx'.channelBlocks i = ctx.channelBlocks i
      rw [channelBlocks, hb.self, hchannels]
      rfl
    · exact owned_of_becomes hb ho
  rw [hb.allocator, howned]
  exact hI

/-- A change that builds an array for a slot without one. -/
theorem owned_of_new {con' : Glbconn cfg} {a' : Allocator} {chs : Glbchannels cfg.channelCount}
    {evs : List (Glbevent cfg.connectionCount)} (hI : ctx.allocator.OwnedBy ctx.owned)
    (hb : ctx.Becomes ctx' i con' a' evs) (hnew : IsNewArray ctx.allocator a' chs)
    (hnone : (ctx.connections i).channels = none)
    (hchannels : con'.channels.map Glbchannels.blocks = some chs.blocks) :
    ctx'.allocator.OwnedBy ctx'.owned := by
  rw [hb.allocator]
  refine hI.acquire (i := .slot i) hnew.acquires (channelBlocks_of_none hnone) ?_
    fun o ho ↦ owned_of_becomes hb ho
  show ctx'.channelBlocks i = chs.blocks
  rw [channelBlocks, hb.self]
  obtain ⟨chs', hchs', hblocks⟩ := Option.map_eq_some_iff.1 hchannels
  rw [hchs', Option.elim_some, hblocks]

/-- A change that frees the array of its slot. -/
theorem owned_of_freed {con' : Glbconn cfg} {evs : List (Glbevent cfg.connectionCount)}
    (hI : ctx.allocator.OwnedBy ctx.owned)
    (hb : ctx.Becomes ctx' i con' (ctx.allocator.freeAll (ctx.channelBlocks i)) evs)
    (hchannels : con'.channels = none) : ctx'.allocator.OwnedBy ctx'.owned := by
  rw [hb.allocator]
  refine hI.release (i := .slot i) ?_ fun o ho ↦ owned_of_becomes hb ho
  exact channelBlocks_of_none (by rw [hb.self, hchannels])

theorem owning_of_quiet {op : Op cfg} (hI : Owning ctx) (hq : ctx.Quiet op ctx') :
    Owning ctx' where
  idle := by
    intro i hidle
    rw [(hq.life i).state] at hidle
    have hsome := (hq.life i).channels_isSome
    rw [hI.idle i hidle] at hsome
    exact Option.not_isSome_iff_eq_none.1 (by rw [hsome]; exact Bool.false_ne_true)
  owned := by
    have howned : ctx'.owned = ctx.owned := by
      funext o
      cases o with
      | eventqueue => exact congrArg (fun b ↦ [b]) hq.queueBlock
      | slot j =>
        have := congrArg (fun o ↦ o.elim [] id) (hq.life j).blocks
        simpa [owned, channelBlocks, Option.elim_map] using this
      | context => exact congrArg (fun b ↦ [b]) hq.block
    rw [hq.allocator, howned]
    exact hI.owned

theorem isIdle_of_ne {s : GLBConnState} (hest : s ≠ .established) (hfin : s ≠ .finSent) :
    IsIdle s := by
  cases s with
  | closed => exact Or.inl rfl
  | established => exact absurd rfl hest
  | synSent => exact Or.inr (Or.inl rfl)
  | synRcvd => exact Or.inr (Or.inr rfl)
  | finSent => exact absurd rfl hfin

theorem not_isIdle_established : ¬ IsIdle .established := by
  rintro (h | h | h) <;> cases h

/-- A change of one slot keeps the others idle. -/
theorem noIdleArrays_of_becomes {con' : Glbconn cfg} {a' : Allocator}
    {evs : List (Glbevent cfg.connectionCount)} (hI : ctx.NoIdleArrays)
    (hb : ctx.Becomes ctx' i con' a' evs) (h : IsIdle con'.state → con'.channels = none) :
    ctx'.NoIdleArrays := by
  intro j hj
  by_cases hji : j = i
  · subst hji
    rw [hb.self] at hj ⊢
    exact h hj
  · rw [hb.of_ne j hji] at hj ⊢
    exact hI j hj

theorem owning_of_same {con' : Glbconn cfg} {evs : List (Glbevent cfg.connectionCount)}
    (hI : Owning ctx) (hb : ctx.Becomes ctx' i con' ctx.allocator evs)
    (hchannels : con'.channels = (ctx.connections i).channels)
    (h : IsIdle con'.state → (ctx.connections i).channels = none) : Owning ctx' where
  idle := noIdleArrays_of_becomes hI.idle hb fun hidle ↦ hchannels.trans (h hidle)
  owned := owned_of_same hI.owned hb hchannels

/-- One case for each kind of change. -/
theorem owning_of_change {con' : Glbconn cfg} {a' : Allocator}
    {evs : List (Glbevent cfg.connectionCount)} (hI : Owning ctx) (hallowed : op.Allowed ctx)
    (htidy : op.Tidy ctx) (hb : ctx.Becomes ctx' i con' a' evs)
    (hchange : Change ctx i op con' a' evs) : Owning ctx' := by
  cases hchange with
  | connected hi => exact owning_of_same hI hb rfl fun _ ↦ hI.idle i (Or.inl (hallowed i hi))
  | finSent hstate => exact owning_of_same hI hb rfl fun h ↦ by rcases h with h | h | h <;> cases h
  | reopened hsyn hfind hstate =>
    exact owning_of_same hI hb rfl fun _ ↦
      hI.idle i (isIdle_of_ne hstate (htidy.2.1 hsyn i hfind))
  | opened hsyn hfind hstate hstate' hchannels =>
    have hnone := hI.idle i (Or.inl hstate)
    exact owning_of_same hI hb (hchannels.trans hnone.symm) fun _ ↦ hnone
  | accepted hflags hfind hstate hnew =>
    have hnone := hI.idle i (Or.inr (Or.inr hstate))
    exact ⟨noIdleArrays_of_becomes hI.idle hb fun h ↦ absurd h not_isIdle_established,
      owned_of_new hI.owned hb hnew hnone rfl⟩
  | synAcked hflags hi hstate hnew =>
    obtain ⟨hfin, hok⟩ := (htidy.1 hflags i hi).resolve_left hstate
    have hnone := hI.idle i (isIdle_of_ne hstate hfin)
    refine ⟨noIdleArrays_of_becomes hI.idle hb fun h ↦ ?_, owned_of_new hI.owned hb hnew hnone rfl⟩
    rw [hok] at h
    exact absurd h not_isIdle_established
  | closed hcause hstate hstate' hchannels =>
    exact ⟨noIdleArrays_of_becomes hI.idle hb fun _ ↦ hchannels,
      owned_of_freed hI.owned hb hchannels⟩
  | reset hflags hfind hstate =>
    exact owning_of_same hI hb rfl fun _ ↦
      hI.idle i (isIdle_of_ne hstate (htidy.2.2 hflags i hfind))
  | gaveUp hstate =>
    exact owning_of_same hI hb rfl fun _ ↦ hI.idle i (Or.inr (Or.inl hstate))
  | dropped hstate =>
    exact owning_of_same hI hb rfl fun _ ↦ hI.idle i (Or.inr (Or.inr hstate))

theorem owning_step (hI : Owning ctx) (hallowed : op.Allowed ctx) (htidy : op.Tidy ctx)
    (h : Step ctx op ctx') : Owning ctx' := by
  cases step_effect h with
  | quiet hq => exact owning_of_quiet hI hq
  | change hb hchange => exact owning_of_change hI hallowed htidy hb hchange

/-- What is overwritten in a tidy step was empty. -/
theorem overwrites_idle (hI : Owning ctx) (htidy : op.Tidy ctx) (h : Step ctx op ctx')
    (hover : Overwrites i (ctx, op, ctx')) : (ctx.connections i).channels = none := by
  rcases hover with ⟨hne, hest | ⟨hflags, hi⟩⟩ | ⟨hclosed, -⟩
  · -- the slot becomes established: it was half open, or waiting for a SYN|ACK
    obtain ⟨pkg, from_, env, rfl, ⟨-, -, hstate⟩ | ⟨hflags, hi, -⟩, -⟩ :=
      established_cases h hne hest
    · exact hI.idle i (Or.inr (Or.inr hstate))
    · obtain ⟨hfin, -⟩ := (htidy.1 hflags i hi).resolve_left hne
      exact hI.idle i (isIdle_of_ne hne hfin)
  · cases op with
    | packet pkg from_ env =>
      obtain ⟨hfin, -⟩ := (htidy.1 hflags i hi).resolve_left hne
      exact hI.idle i (isIdle_of_ne hne hfin)
    | _ => exact absurd hflags id
  · exact hI.idle i (Or.inl hclosed)

/-! ### Untidy steps leak -/

/-- A SYN|ACK that overwrites the array of a closing slot leaves a block nobody frees. -/
theorem not_freesAllOnce_of_overwritten {con' : Glbconn cfg} {a' : Allocator}
    {evs : List (Glbevent cfg.connectionCount)} {chs chs' : Glbchannels cfg.channelCount}
    (hI : Owning ctx) (hb : ctx.Becomes ctx' i con' a' evs)
    (hnew : IsNewArray ctx.allocator a' chs') (hchs : (ctx.connections i).channels = some chs)
    (hblocks : con'.channels.map Glbchannels.blocks = some chs'.blocks) :
    ¬ FreesAllOnce ctx' := by
  rintro ⟨-, -, hfreed⟩
  have hmem : chs.block ∈ ctx.owned (.slot i) := by
    show chs.block ∈ ctx.channelBlocks i
    rw [channelBlocks, hchs]
    exact List.mem_append_right _ (List.mem_singleton_self _)
  have hlive : chs.block ∈ ctx.allocator.live := hI.owned.live _ _ hmem
  have hlt : chs.block < ctx.allocator.next := ctx.allocator.lt_next _ hlive
  have hall := (hfreed chs.block).2 (by
    rw [hb.allocator]; exact (hnew.acquires.next _).2 (Or.inr hlt))
  rw [glbDestroy_eq, Allocator.freed_freeAll, List.mem_append, List.mem_flatMap] at hall
  rcases hall with hall | ⟨o, -, ho⟩
  · -- it was not freed before
    rw [hb.allocator, hnew.acquires.freed] at hall
    exact ((hI.owned.freed _).1 hall).2 hlive
  · -- and nobody holds it any more
    by_cases hoi : o = .slot i
    · subst hoi
      have hown : ctx'.owned (.slot i) = chs'.blocks := by
        show ctx'.channelBlocks i = _
        obtain ⟨chs'', hchs'', hblocks⟩ := Option.map_eq_some_iff.1 hblocks
        rw [channelBlocks, hb.self, hchs'', Option.elim_some, hblocks]
      rw [hown] at ho
      exact absurd hlt (Nat.not_lt.2 (hnew.acquires.fresh _ ho))
    · rw [owned_of_becomes hb hoi] at ho
      exact hI.owned.disjoint _ _ hoi ho hmem

theorem tidy_of_nothingLeaked {ts : List (Transition cfg)} (hI : Owning ctx)
    (hheld : ArraysHeld ctx) (h : Step ctx op ctx') (hleak : NothingLeaked ts ctx') :
    op.Tidy ctx := by
  cases op with
  | packet pkg from_ env =>
    have hnone : ∀ i, (ctx.connections i).state = .finSent →
        (ctx.connections i).channels ≠ none := fun i hfin hnone ↦ by
      have := hheld i (Or.inr hfin)
      rw [hnone] at this
      cases this
    refine ⟨fun hflags i hi ↦ ?_, fun hsyn i hfind hfin ↦ ?_, fun hflags i hfind hfin ↦ ?_⟩
    · by_contra hbad
      obtain ⟨hest, hbad⟩ := not_or.1 hbad
      obtain ⟨chs', a', hnew, hb⟩ := becomes_of_synAck h hflags hi hest
      by_cases hfin : (ctx.connections i).state = .finSent
      · obtain ⟨chs, hchs⟩ := Option.ne_none_iff_exists'.1 (hnone _ hfin)
        exact not_freesAllOnce_of_overwritten hI hb hnew hchs rfl hleak.destroyed
      · have hok : env.sendOk 0 = false := by
          cases hok : env.sendOk 0 with
          | false => rfl
          | true => exact absurd ⟨hfin, hok⟩ hbad
        have hidle := hleak.idle i
        rw [hb.self, hok] at hidle
        cases hidle (isIdle_of_ne hest hfin)
    · have hstep := onSyn_eq_of_handled h hsyn
      rw [onSyn_of_found hfind (by rw [hfin]; decide)] at hstep
      subst hstep
      have hidle := hleak.idle i
      rw [connections_setCon_self] at hidle
      exact hnone i hfin (hidle (Or.inr (Or.inr rfl)))
    · have hstep := onRst_eq_of_handled h hflags
      have hb := becomes_onRst_of_ne hfind (by rw [hfin]; decide)
      rw [hstep] at hb
      have hidle := hleak.idle i
      rw [hb.self] at hidle
      exact hnone i hfin (hidle (Or.inl rfl))
  | _ => trivial

/-! ### Whole runs -/

/-- **Nothing leaks, exactly.** In a run in which `glb_connect` is called only while slot 0 is
closed, nothing has leaked in any state if and only if every step was tidy. -/
theorem nothing_leaked_iff {ts : List (Transition cfg)} (hrun : Run ts ctx)
    (hallowed : ∀ x ∈ ts, x.2.1.Allowed x.1) :
    (∀ ts₁ ctx₁, ts₁ <+: ts → Run ts₁ ctx₁ → NothingLeaked ts₁ ctx₁) ↔
      ∀ x ∈ ts, x.2.1.Tidy x.1 := by
  refine Execution.iff_of_step (A := fun x ↦ x.2.1.Allowed x.1) (C := fun x ↦ x.2.1.Tidy x.1)
    (I := fun ts ctx ↦ Owning ctx ∧ ArraysHeld ctx ∧
      ∀ x ∈ ts, ∀ i, Overwrites i x → (x.1.connections i).channels = none)
    ?_ ?_ ?_ hrun ?_ hallowed
  · rintro ts t a u ⟨hI, hheld, hover⟩ hstep hallowed htidy
    refine ⟨owning_step hI hallowed htidy hstep, arraysHeld_step hheld hstep, fun x hx i hxi ↦ ?_⟩
    rcases List.mem_append.1 hx with hx | hx
    · exact hover x hx i hxi
    · rcases List.mem_singleton.1 hx with rfl
      exact overwrites_idle hI htidy hstep hxi
  · rintro ts t a u ⟨hI, hheld, -⟩ hstep - hleak
    exact tidy_of_nothingLeaked hI hheld hstep hleak
  · rintro ts t ⟨hI, -, hover⟩
    exact ⟨hI.idle, hover, freesAllOnce_of_owning hI⟩
  · exact ⟨owning_init, arraysHeld_init, by simp⟩

theorem owning_of_run {ts : List (Transition cfg)} (hrun : Run ts ctx)
    (hallowed : ∀ x ∈ ts, x.2.1.Allowed x.1) (htidy : ∀ x ∈ ts, x.2.1.Tidy x.1) : Owning ctx :=
  (hrun.invariant_of_state (C := fun x ↦ x.2.1.Allowed x.1 ∧ x.2.1.Tidy x.1)
    (fun _ _ _ hI hstep hx ↦ owning_step hI hx.1 hx.2 hstep) owning_init
    fun x hx ↦ ⟨hallowed x hx, htidy x hx⟩).1

/-- **While nothing leaks, freeing the channels of a slot goes right in memory**: every block of the
array is live, and none is freed twice. -/
theorem freeConChannels_memory_of_run {ts : List (Transition cfg)} (hrun : Run ts ctx)
    (hallowed : ∀ x ∈ ts, x.2.1.Allowed x.1) (htidy : ∀ x ∈ ts, x.2.1.Tidy x.1)
    (i : Fin cfg.connectionCount) :
    freeconchannels cfg.channelCount ctx.allocator
        ((ctx.connections i).channels.map Glbchannels.buf) =
      some ((ctx.freeConChannels i).1, (ctx.freeConChannels i).2.allocator, none) := by
  have hI := owning_of_run hrun hallowed htidy
  exact ctx.freeConChannels_memory i (hI.owned.nodup (.slot i)) fun b hb ↦
    hI.owned.live (.slot i) b hb

/-! ### An RST for a closing connection -/

/-- A client connects, is answered, closes, and gets an RST before its FIN is answered. -/
def rstWhileClosing : List (Op Glbcfg.sampleClient) :=
  [.connect 1,
    .packet (glbpkgInit ⟨1, 0⟩ ctrlFlagSynAck 0) ⟨0x0100007F, 0x5C11⟩ (Env.at 2),
    .close ⟨0, by decide⟩ 3,
    .packet (glbpkgInit ⟨1, 0⟩ ctrlFlagRst 0) ⟨0x0100007F, 0x5C11⟩ (Env.at 4)]

/-- Something can leak: after `rstWhileClosing` the slot is closed and has its channels still. -/
theorem not_nothing_leaks : ¬ ∀ (cfg : Glbcfg) (ts : List (Transition cfg)) (ctx : Glbctx cfg),
    Run ts ctx → (∀ x ∈ ts, x.2.1.Allowed x.1) → NothingLeaked ts ctx := by
  intro h
  have hleak : (Execution.perform step rstWhileClosing (init _)).map (fun r ↦
      ((r.2.connections ⟨0, by decide⟩).state,
        (r.2.connections ⟨0, by decide⟩).channels.isSome)) = some (.closed, true) := by decide
  obtain ⟨r, hr, hleak⟩ := Option.map_eq_some_iff.1 hleak
  have hallowed : ∀ r ∈ Execution.perform step rstWhileClosing (init _), ∀ x ∈ r.1,
      x.2.1.Allowed x.1 := by decide
  have hidle := (h _ _ _ (run_of_perform hr) (hallowed r hr)).idle ⟨0, by decide⟩
    (Or.inl (Prod.mk.inj hleak).1)
  have hsome := (Prod.mk.inj hleak).2
  rw [hidle] at hsome
  cases hsome

/-- Up to the RST nothing has leaked. -/
theorem nothing_leaked_before_rst : ∃ ts ctx, @Run Glbcfg.sampleClient ts ctx ∧ ts.length = 3 ∧
    NothingLeaked ts ctx := by
  have hlen : (Execution.perform step (rstWhileClosing.take 3) (init _)).map (fun r ↦
      r.1.length) = some 3 := by decide
  obtain ⟨r, hr, hlen⟩ := Option.map_eq_some_iff.1 hlen
  have hallowed : ∀ r ∈ Execution.perform step (rstWhileClosing.take 3) (init _), ∀ x ∈ r.1,
      x.2.1.Allowed x.1 := by decide
  have htidy : ∀ r ∈ Execution.perform step (rstWhileClosing.take 3) (init _), ∀ x ∈ r.1,
      x.2.1.Tidy x.1 := by decide
  exact ⟨r.1, r.2, run_of_perform hr, hlen,
    (nothing_leaked_iff (run_of_perform hr) (hallowed r hr)).2 (htidy r hr) _ _
      (List.prefix_refl _) (run_of_perform hr)⟩

end Glbctx

end Gilberta
