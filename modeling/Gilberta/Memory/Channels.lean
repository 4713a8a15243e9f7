import Gilberta.Effects.Primitives

/-!
# Channel arrays in memory

`glbctx_createconchannels` and `glbctx_freeconchannels` as they work on memory. An array comes from
the allocator with its queue pointers unwritten, and the building loop writes them entry by entry;
the cleanup loop runs from inside it, over an array that is written only in part. Both loops follow
pointers here, so the two things that could go wrong have no result: freeing through a pointer that
was never written, and freeing a block that is not live.

`createconchannels_all_or_nothing` is what the functions come to under any pattern of allocation
failures. The invariant of the building loop is in the statement of `createLoop_eq`: the entries so
far are complete, the others unwritten, and the blocks of the complete ones are what was acquired.
The same lemma connects the loop with the one of `Model/Context.lean`, which the rest of the
development uses and whose entries are complete by their type (`createConChannels_memory`).
-/

namespace Gilberta

variable {cfg : Glbcfg}

/-- The value of a queue pointer. -/
inductive QueuePtr
  /-- Never written. -/
  | unwritten
  /-- `NULL`. -/
  | null
  /-- A queue. -/
  | queue (q : Glbqueue Glbpkg)

/-- The memory of a `glbchannel_t`, without the counters, which `glbctx_writeack` fills in. -/
structure Glbchannelbuf where
  /-- Send queue. -/
  sQueue : QueuePtr
  /-- Receive queue. -/
  rQueue : QueuePtr
  /-- Combination of `GLB_CHANNEL_FLAG_*`. -/
  flags : UInt8
  /-- Channel priority. -/
  priority : UInt8

/-- The memory of a channel array. -/
structure Glbchannelsbuf where
  /-- The block the array lives in. -/
  block : Block
  /-- The entries. -/
  entries : List Glbchannelbuf

/-! ### The functions -/

/-- What `glbqueue_init` returns, as a pointer. -/
def QueuePtr.ofInit : Option (Glbqueue Glbpkg) → QueuePtr
  | none => .null
  | some q => .queue q

/-- `glbqueue_free`. -/
def QueuePtr.free (a : Allocator) : QueuePtr → Option Allocator
  | .unwritten => none
  | .null => some a
  | .queue q => a.free? q.block

/-- An entry of a new array: nothing has been written to it. -/
def Glbchannelbuf.fresh : Glbchannelbuf := ⟨.unwritten, .unwritten, 0, 0⟩

/-- Both queues of an entry are freed. -/
def Glbchannelbuf.free (a : Allocator) (e : Glbchannelbuf) : Option Allocator :=
  (e.sQueue.free a).bind fun a ↦ e.rQueue.free a

/-- The loop that frees the queues of the first `n` entries. -/
def freeEntries (entries : List Glbchannelbuf) (n : ℕ) (a : Allocator) : Option Allocator :=
  (List.range n).foldlM (fun a j ↦ entries[j]?.bind fun e ↦ e.free a) a

/-- The building loop of `glbctx_createconchannels`, from entry `i` on, with the cleanup loop for
the first failure. Request number zero was the one for the array. -/
def createLoop (ok : ℕ → Bool) :
    List Glbchan → ℕ → List Glbchannelbuf → Allocator →
      Option (Allocator × Option (List Glbchannelbuf))
  | [], _, entries, a => some (a, some entries)
  | config :: configs, i, entries, a =>
    let (a, s) := glbqueueInit a (ok (2 * i + 1)) channelQueueSize
    let (a, r) := glbqueueInit a (ok (2 * i + 2)) channelQueueSize
    let entries := entries.set i ⟨.ofInit s, .ofInit r, config.flags, config.priority⟩
    if s.isNone || r.isNone then (freeEntries entries (i + 1) a).map fun a ↦ (a, none)
    else createLoop ok configs (i + 1) entries a

/-- `glbctx_createconchannels`, with the value of `con->channels` afterwards. -/
def createconchannels (ok : ℕ → Bool) (configs : List Glbchan) (a : Allocator) :
    Option (GLBErrorCode × Allocator × Option Glbchannelsbuf) :=
  match a.malloc (ok 0) with
  | (a, none) => some (.outOfMemory, a, none)
  | (a, some b) =>
    match createLoop ok configs 0 (List.replicate configs.length .fresh) a with
    | none => none
    | some (a, some entries) => some (.success, a, some ⟨b, entries⟩)
    | some (a, none) => (a.free? b).map fun a ↦ (.outOfMemory, a, none)

/-- `glbctx_freeconchannels`, with the value of `con->channels` afterwards. -/
def freeconchannels (channelCount : ℕ) (a : Allocator) :
    Option Glbchannelsbuf → Option (GLBErrorCode × Allocator × Option Glbchannelsbuf)
  | none => some (.invalidArgument, a, none)
  | some chs => (freeEntries chs.entries channelCount a).bind fun a ↦
    (a.free? chs.block).map fun a ↦ (.success, a, none)

/-! ### What the blocks are -/

/-- The block behind a pointer. -/
def QueuePtr.blocks : QueuePtr → List Block
  | .queue q => [q.block]
  | _ => []

/-- The blocks of an entry. -/
def Glbchannelbuf.blocks (e : Glbchannelbuf) : List Block := e.sQueue.blocks ++ e.rQueue.blocks

/-- Every block of an array, in the order they are freed. -/
def Glbchannelsbuf.blocks (chs : Glbchannelsbuf) : List Block :=
  chs.entries.flatMap Glbchannelbuf.blocks ++ [chs.block]

/-- Both pointers of an entry were written. -/
def Glbchannelbuf.Written (e : Glbchannelbuf) : Prop :=
  e.sQueue ≠ .unwritten ∧ e.rQueue ≠ .unwritten

/-- An entry as `glbctx_createconchannels` builds it from its configuration. -/
structure Glbchannelbuf.IsNew (config : Glbchan) (e : Glbchannelbuf) : Prop where
  /-- The send queue exists and is empty. -/
  sQueue : ∃ q, e.sQueue = .queue q ∧ q.IsNew
  /-- The receive queue exists and is empty. -/
  rQueue : ∃ q, e.rQueue = .queue q ∧ q.IsNew
  /-- The flags are the configured ones. -/
  flags : e.flags = config.flags
  /-- The priority is the configured one. -/
  priority : e.priority = config.priority

/-- A complete channel in memory. -/
def Glbchannel.buf (chan : Glbchannel) : Glbchannelbuf :=
  ⟨.queue chan.sQueue, .queue chan.rQueue, chan.flags, chan.priority⟩

/-- A complete array in memory. -/
def Glbchannels.buf {m : ℕ} (chs : Glbchannels m) : Glbchannelsbuf :=
  ⟨chs.block, (List.finRange m).map fun c ↦ (chs.chan c).buf⟩

@[simp] theorem Glbchannel.blocks_buf (chan : Glbchannel) : chan.buf.blocks = chan.blocks := rfl

theorem Glbchannel.written_buf (chan : Glbchannel) : chan.buf.Written :=
  ⟨fun h ↦ (by cases h), fun h ↦ (by cases h)⟩

theorem flatMap_blocks_buf (chans : List Glbchannel) :
    (chans.map Glbchannel.buf).flatMap Glbchannelbuf.blocks = chans.flatMap Glbchannel.blocks := by
  rw [List.flatMap_map]
  rfl

theorem Glbchannel.IsNew.buf {config : Glbchan} {chan : Glbchannel} (h : chan.IsNew config) :
    chan.buf.IsNew config :=
  ⟨⟨_, rfl, h.sQueue⟩, ⟨_, rfl, h.rQueue⟩, h.flags, h.priority⟩

theorem QueuePtr.blocks_ofInit (q : Option (Glbqueue Glbpkg)) :
    (QueuePtr.ofInit q).blocks = (q.map Glbqueue.block).toList := by
  cases q <;> rfl

/-! ### Freeing -/

theorem QueuePtr.free_eq {p : QueuePtr} (h : p ≠ .unwritten) (a : Allocator) :
    p.free a = p.blocks.foldlM Allocator.free? a := by
  cases p with
  | unwritten => exact absurd rfl h
  | null => rfl
  | queue q => exact (Option.bind_fun_some (a.free? q.block)).symm

theorem Glbchannelbuf.free_eq {e : Glbchannelbuf} (h : e.Written) (a : Allocator) :
    e.free a = e.blocks.foldlM Allocator.free? a := by
  rw [free, blocks, List.foldlM_append, QueuePtr.free_eq h.1]
  exact congrArg (Option.bind _) (funext fun a ↦ QueuePtr.free_eq h.2 a)

/-- Over entries that were written the loop frees their blocks, in order. -/
theorem freeEntries_eq {entries : List Glbchannelbuf} {n : ℕ} (a : Allocator)
    (hn : n ≤ entries.length) (hwritten : ∀ e ∈ entries.take n, e.Written) :
    freeEntries entries n a =
      ((entries.take n).flatMap Glbchannelbuf.blocks).foldlM Allocator.free? a := by
  induction n with
  | zero => rfl
  | succ n ih =>
    have hget : entries[n]? = some (entries.get ⟨n, hn⟩) := List.getElem?_eq_getElem hn
    have htake : entries.take (n + 1) = entries.take n ++ [entries.get ⟨n, hn⟩] :=
      (List.take_append_getElem hn).symm
    rw [htake] at hwritten
    have hlast := hwritten _ (List.mem_append_right _ (List.mem_singleton_self _))
    have hprev := ih (Nat.le_of_succ_le hn) fun e he ↦ hwritten e (List.mem_append_left _ he)
    rw [freeEntries] at hprev
    rw [freeEntries, List.range_succ, List.foldlM_append, hprev, htake, List.flatMap_append,
      List.foldlM_append]
    refine congrArg (Option.bind _) (funext fun a ↦ ?_)
    rw [List.foldlM_cons, hget, Option.bind_some, Glbchannelbuf.free_eq hlast,
      List.flatMap_singleton]
    exact Option.bind_fun_some _

/-! ### Building -/

theorem glbqueueInit_acquires {α : Type} {a a' : Allocator} {ok : Bool} {n : ℕ}
    {q : Option (Glbqueue α)} (h : glbqueueInit a ok n = (a', q)) :
    a.Acquires a' (q.map Glbqueue.block).toList := by
  cases q with
  | some q => exact (glbqueueInit_eq_some h).1
  | none =>
    have hsame : a' = a := by
      rw [glbqueueInit] at h
      split at h
      · exact (Prod.mk.inj h).1.symm
      · rcases hm : a.malloc ok with ⟨a₁, - | b⟩ <;> rw [hm] at h <;> cases h
        exact Allocator.malloc_eq_none hm
    rw [hsame]
    exact .refl a

theorem glbqueueFree_eq (a : Allocator) (b : Option Block) :
    glbqueueFree a b = a.freeAll b.toList := by
  cases b <;> rfl

theorem freeQueues_eq (a : Allocator) (built : List Glbchannel) :
    freeQueues a built = a.freeAll (built.flatMap Glbchannel.blocks) := by
  induction built generalizing a with
  | nil => rfl
  | cons chan built ih =>
    rw [List.flatMap_cons, Allocator.freeAll_append]
    exact ih _

/-- The blocks of the complete entries and of the one at which the loop gives up, in the order they
are freed. -/
def givenUp (built : List Glbchannel) (s r : Option (Glbqueue Glbpkg)) : List Block :=
  built.flatMap Glbchannel.blocks ++
      ((s.map Glbqueue.block).toList ++ (r.map Glbqueue.block).toList)

section Loop

variable {ok : ℕ → Bool} {config : Glbchan} {configs : List Glbchan} {k : ℕ}
  {built : List Glbchannel} {a₀ a a₁ a₂ : Allocator} {s r : Option (Glbqueue Glbpkg)}

/-- A request that fails makes the loop give up. -/
theorem buildChannels_of_fail (hs : glbqueueInit a (ok k) channelQueueSize = (a₁, s))
    (hr : glbqueueInit a₁ (ok (k + 1)) channelQueueSize = (a₂, r))
    (hfail : (s.isNone || r.isNone) = true) : buildChannels ok (config :: configs) k built a =
      (a₂.freeAll (givenUp built s r), none) := by
  have hfree : glbqueueFree (glbqueueFree (freeQueues a₂ built) (s.map Glbqueue.block))
      (r.map Glbqueue.block) = a₂.freeAll (givenUp built s r) := by
    rw [glbqueueFree_eq, glbqueueFree_eq, freeQueues_eq, givenUp, Allocator.freeAll_append,
      Allocator.freeAll_append]
  rw [← hfree]
  cases s with
  | none => simp only [buildChannels, hs, hr]
  | some s =>
    cases r with
    | none => simp only [buildChannels, hs, hr]
    | some r => cases hfail

/-- A request that fails, or two queues. -/
theorem fails_or_exists (s r : Option (Glbqueue Glbpkg)) :
    (s.isNone || r.isNone) = true ∨ ∃ s' r', s = some s' ∧ r = some r' := by
  cases s with
  | none => exact Or.inl rfl
  | some s =>
    cases r with
    | none => exact Or.inl rfl
    | some r => exact Or.inr ⟨s, r, rfl, rfl⟩

/-- With two queues the loop has an entry more. -/
theorem buildChannels_of_both {s r : Glbqueue Glbpkg}
    (hs : glbqueueInit a (ok k) channelQueueSize = (a₁, some s))
    (hr : glbqueueInit a₁ (ok (k + 1)) channelQueueSize = (a₂, some r)) :
    buildChannels ok (config :: configs) k built a = buildChannels ok configs (k + 2)
      (built ++ [⟨s, r, 0, 0, config.flags, config.priority⟩]) a₂ := by
  simp only [buildChannels, hs, hr]

/-- The blocks the loop has acquired when it gives up. -/
theorem acquires_givenUp (hacq : a₀.Acquires a (built.flatMap Glbchannel.blocks))
    (hs : glbqueueInit a (ok k) channelQueueSize = (a₁, s))
    (hr : glbqueueInit a₁ (ok (k + 1)) channelQueueSize = (a₂, r)) :
    a₀.Acquires a₂ (givenUp built s r) :=
  hacq.trans ((glbqueueInit_acquires hs).trans (glbqueueInit_acquires hr))

/-- **A building loop that gives up leaves the live blocks as they were.** -/
theorem restores_of_buildChannels {a' : Allocator}
    (hacq : a₀.Acquires a (built.flatMap Glbchannel.blocks))
    (h : buildChannels ok configs k built a = (a', none)) : a₀.Restores a' := by
  induction configs generalizing k built a with
  | nil => cases h
  | cons config configs ih =>
    rcases hs : glbqueueInit (α := Glbpkg) a (ok k) channelQueueSize with ⟨a₁, s⟩
    rcases hr : glbqueueInit (α := Glbpkg) a₁ (ok (k + 1)) channelQueueSize with ⟨a₂, r⟩
    have hblocks := acquires_givenUp hacq hs hr
    rcases fails_or_exists s r with hfail | ⟨s, r, rfl, rfl⟩
    · rw [buildChannels_of_fail hs hr hfail] at h
      obtain ⟨rfl, -⟩ := Prod.mk.inj h
      exact hblocks.restores (List.Perm.refl _)
    · rw [buildChannels_of_both hs hr] at h
      refine ih ?_ h
      rw [List.flatMap_append]
      exact hblocks

/-- The first entry that was never written is written. -/
theorem set_entry {entries : List Glbchannel} {n : ℕ} {e : Glbchannelbuf} :
    (entries.map Glbchannel.buf ++
        List.replicate (n + 1) Glbchannelbuf.fresh).set entries.length e =
      entries.map Glbchannel.buf ++ e :: List.replicate n Glbchannelbuf.fresh := by
  have hlen : (entries.map Glbchannel.buf).length ≤ entries.length := by rw [List.length_map]
  rw [List.set_append_right _ _ hlen, List.length_map, Nat.sub_self, List.replicate_succ,
    List.set_cons_zero]

/-- The cleanup loop frees the blocks that were acquired. -/
theorem freeEntries_givenUp {rest : List Glbchannelbuf} {flags priority : UInt8}
    (hacq : a₀.Acquires a (givenUp built s r)) :
    freeEntries (built.map Glbchannel.buf ++ ⟨.ofInit s, .ofInit r, flags, priority⟩ :: rest)
      (built.length + 1) a = some (a.freeAll (givenUp built s r)) := by
  let e : Glbchannelbuf := ⟨.ofInit s, .ofInit r, flags, priority⟩
  have htake : (built.map Glbchannel.buf ++ e :: rest).take (built.length + 1) =
      built.map Glbchannel.buf ++ [e] := by
    rw [List.append_cons]
    exact List.take_left' (by rw [List.length_append, List.length_map, List.length_singleton])
  have hwritten : ∀ e' ∈ built.map Glbchannel.buf ++ [e], e'.Written := by
    intro e' he'
    rcases List.mem_append.1 he' with he' | he'
    · obtain ⟨chan, -, rfl⟩ := List.mem_map.1 he'
      exact chan.written_buf
    · obtain rfl := List.mem_singleton.1 he'
      exact ⟨by cases s <;> simp [e, QueuePtr.ofInit], by cases r <;> simp [e, QueuePtr.ofInit]⟩
  have hblocks : (built.map Glbchannel.buf ++ [e]).flatMap Glbchannelbuf.blocks =
      givenUp built s r := by
    rw [List.flatMap_append, flatMap_blocks_buf, List.flatMap_singleton, givenUp,
      ← QueuePtr.blocks_ofInit, ← QueuePtr.blocks_ofInit]
    rfl
  have hlen : built.length + 1 ≤ (built.map Glbchannel.buf ++ e :: rest).length := by
    rw [List.length_append, List.length_map, List.length_cons]
    omega
  rw [freeEntries_eq a hlen (htake ▸ hwritten), htake, hblocks]
  exact hacq.foldlM_free? (List.Perm.refl _)

/-- **The loop over memory is the loop over complete entries.** The first `built.length` entries are
complete, the others were never written, and what was acquired are the blocks of the complete
ones; so every free in the cleanup loop is of a live block through a pointer that was written. -/
theorem createLoop_eq (hacq : a₀.Acquires a (built.flatMap Glbchannel.blocks)) :
    createLoop ok configs built.length
      (built.map Glbchannel.buf ++ List.replicate configs.length .fresh) a =
    some ((buildChannels ok configs (2 * built.length + 1) built a).1,
      (buildChannels ok configs (2 * built.length + 1) built a).2.map
        (List.map Glbchannel.buf)) := by
  induction configs generalizing built a with
  | nil => simp [createLoop, buildChannels]
  | cons config configs ih =>
    rcases hs : glbqueueInit (α := Glbpkg) a (ok (2 * built.length + 1)) channelQueueSize with
      ⟨a₁, s⟩
    rcases hr : glbqueueInit (α := Glbpkg) a₁ (ok (2 * built.length + 2)) channelQueueSize with
      ⟨a₂, r⟩
    have hblocks := acquires_givenUp hacq hs hr
    rw [createLoop, hs]
    simp only [hr, List.length_cons, set_entry]
    rcases fails_or_exists s r with hfail | ⟨s, r, rfl, rfl⟩
    · -- the cleanup loop starts from an array of which only the first entries are written
      rw [if_pos hfail, freeEntries_givenUp hblocks, buildChannels_of_fail hs hr hfail]
      rfl
    · have hnofail : ¬ ((some s).isNone || (some r).isNone) = true := Bool.false_ne_true
      have hnext := @ih (built ++ [⟨s, r, 0, 0, config.flags, config.priority⟩]) a₂ (by
        rw [List.flatMap_append]
        exact hblocks)
      rw [List.map_append, List.append_assoc, List.length_append, List.length_singleton] at hnext
      rw [if_neg hnofail, buildChannels_of_both hs hr]
      exact hnext

end Loop

/-! ### When a request fails -/

theorem isSome_glbqueueInit {α : Type} (a : Allocator) (ok : Bool) {n : ℕ} (hn : n ≠ 0) :
    (glbqueueInit (α := α) a ok n).2.isSome = ok := by
  rw [glbqueueInit, if_neg hn]
  cases ok <;> rfl

/-- The requests for one channel and those for the channels behind it. -/
theorem forall_lt_two_mul_succ {P : ℕ → Prop} {n : ℕ} :
    (∀ j < 2 * (n + 1), P j) ↔ (P 0 ∧ P 1) ∧ ∀ j < 2 * n, P (j + 2) := by
  constructor
  · intro h
    exact ⟨⟨h 0 (by omega), h 1 (by omega)⟩, fun j hj ↦ h (j + 2) (by omega)⟩
  · rintro ⟨⟨h0, h1⟩, h⟩ j hj
    rcases j with - | - | j
    · exact h0
    · exact h1
    · exact h j (by omega)

/-- The building loop is done exactly if none of its requests fails. -/
theorem isSome_buildChannels_iff {ok : ℕ → Bool} {configs : List Glbchan} {k : ℕ}
    {built : List Glbchannel} {a : Allocator} :
    (buildChannels ok configs k built a).2.isSome = true ↔
      ∀ j < 2 * configs.length, ok (k + j) = true := by
  induction configs generalizing k built a with
  | nil => simp [buildChannels]
  | cons config configs ih =>
    -- both requests of a channel are made, even where the first one fails
    have hsize : channelQueueSize ≠ 0 := by decide
    rcases hs : glbqueueInit (α := Glbpkg) a (ok k) channelQueueSize with ⟨a₁, s⟩
    rcases hr : glbqueueInit (α := Glbpkg) a₁ (ok (k + 1)) channelQueueSize with ⟨a₂, r⟩
    have hsok : s.isSome = ok k := by
      rw [← isSome_glbqueueInit (α := Glbpkg) a (ok k) hsize, hs]
    have hrok : r.isSome = ok (k + 1) := by
      rw [← isSome_glbqueueInit (α := Glbpkg) a₁ (ok (k + 1)) hsize, hr]
    rw [List.length_cons, forall_lt_two_mul_succ, Nat.add_zero, ← hsok, ← hrok]
    rcases fails_or_exists s r with hfail | ⟨s, r, rfl, rfl⟩
    · have hsome : ¬ (s.isSome = true ∧ r.isSome = true) := by
        cases s <;> cases r <;> simp at hfail ⊢
      rw [buildChannels_of_fail hs hr hfail]
      exact iff_of_false Bool.false_ne_true fun h ↦ hsome h.1
    · rw [buildChannels_of_both hs hr, ih]
      simp only [Option.isSome_some, true_and, and_self, Nat.add_assoc, Nat.add_comm 2]

/-- All requests are answered if the first one is and the loop is done. -/
theorem forall_ok_iff {ok : ℕ → Bool} {configs : List Glbchan} {a a₁ : Allocator} {b : Block}
    (hb : a.malloc (ok 0) = (a₁, some b)) : (∀ k < 2 * configs.length + 1, ok k = true) ↔
      (buildChannels ok configs 1 [] a₁).2.isSome = true := by
  have hzero : ok 0 = true := by rw [← a.isSome_malloc (ok 0), hb, Option.isSome_some]
  rw [isSome_buildChannels_iff]
  constructor
  · intro h j hj
    rw [Nat.add_comm]
    exact h (j + 1) (Nat.succ_lt_succ hj)
  · intro h k hk
    cases k with
    | zero => exact hzero
    | succ k =>
      rw [Nat.add_comm]
      exact h k (Nat.lt_of_succ_lt_succ hk)

/-- Some request fails if the first one does, or the loop gives up. -/
theorem exists_fail_of_none {ok : ℕ → Bool} {configs : List Glbchan} {a a₁ : Allocator}
    {b : Block} (hb : a.malloc (ok 0) = (a₁, some b))
    (hbuilt : (buildChannels ok configs 1 [] a₁).2 = none) :
    ∃ k < 2 * configs.length + 1, ok k = false := by
  by_contra hall
  have hsome := (forall_ok_iff hb).1 fun k hk ↦
    Bool.eq_true_of_not_eq_false fun hno ↦ hall ⟨k, hk, hno⟩
  rw [hbuilt] at hsome
  cases hsome

/-! ### All or nothing -/

theorem Glbchannelbuf.IsNew.length_blocks {config : Glbchan} {e : Glbchannelbuf}
    (h : e.IsNew config) : e.blocks.length = 2 := by
  obtain ⟨⟨s, hs, -⟩, ⟨r, hr, -⟩, -, -⟩ := h
  rw [blocks, hs, hr]
  rfl

/-- A new array owns its own block and two for every channel. -/
theorem length_blocks_of_isNew {configs : List Glbchan} {entries : List Glbchannelbuf}
    (h : List.Forall₂ Glbchannelbuf.IsNew configs entries) (b : Block) :
    (Glbchannelsbuf.mk b entries).blocks.length = 2 * configs.length + 1 := by
  rw [Glbchannelsbuf.blocks, List.length_append, List.length_singleton]
  refine congrArg (· + 1) ?_
  induction h with
  | nil => rfl
  | cons hnew _ ih =>
    rw [List.flatMap_cons, List.length_append, hnew.length_blocks, ih, List.length_cons]
    omega

/-- Freeing a written array is freeing its blocks. -/
theorem freeconchannels_of_foldlM {a a' : Allocator} {chs : Glbchannelsbuf}
    (hwritten : ∀ e ∈ chs.entries, e.Written)
    (hfree : chs.blocks.foldlM Allocator.free? a = some a') :
    freeconchannels chs.entries.length a (some chs) = some (.success, a', none) := by
  rw [Glbchannelsbuf.blocks, List.foldlM_append] at hfree
  obtain ⟨a₁, hqueues, harray⟩ := Option.bind_eq_some_iff.1 hfree
  have hblock : a₁.free? chs.block = some a' := by
    rw [List.foldlM_cons] at harray
    exact (Option.bind_fun_some _).symm.trans harray
  rw [freeconchannels, freeEntries_eq a (Nat.le_refl _) (by rwa [List.take_length]),
    List.take_length, hqueues, Option.bind_some, hblock, Option.map_some]

section Create

variable {ok : ℕ → Bool} {configs : List Glbchan} {a a₁ a₂ : Allocator} {b : Block}

theorem createconchannels_of_none (hb : a.malloc (ok 0) = (a₁, none)) :
    createconchannels ok configs a = some (.outOfMemory, a, none) := by
  rw [createconchannels, hb, Allocator.malloc_eq_none hb]

theorem createLoop_start : createLoop ok configs 0 (List.replicate configs.length .fresh) a =
    some ((buildChannels ok configs 1 [] a).1,
      (buildChannels ok configs 1 [] a).2.map (List.map Glbchannel.buf)) :=
  @createLoop_eq ok configs [] a a (.refl a)

theorem createconchannels_of_built {built : List Glbchannel}
    (hb : a.malloc (ok 0) = (a₁, some b))
    (hbuilt : buildChannels ok configs 1 [] a₁ = (a₂, some built)) :
    createconchannels ok configs a =
      some (.success, a₂, some ⟨b, built.map Glbchannel.buf⟩) := by
  simp only [createconchannels, hb, createLoop_start, hbuilt, Option.map_some]

theorem createconchannels_of_givenUp (hb : a.malloc (ok 0) = (a₁, some b))
    (hbuilt : buildChannels ok configs 1 [] a₁ = (a₂, none)) :
    createconchannels ok configs a = some (.outOfMemory, a₂.free b, none) ∧
      a.Restores (a₂.free b) := by
  have harray : a.Acquires a₁ [b] := .of_malloc hb
  obtain ⟨hfree, hrestores⟩ :=
    Allocator.Restores.giveBack harray (restores_of_buildChannels (.refl a₁) hbuilt)
  have hblock : a₂.free? b = some (a₂.free b) := (Option.bind_fun_some _).symm.trans hfree
  refine ⟨?_, hrestores⟩
  simp only [createconchannels, hb, createLoop_start, hbuilt, Option.map_none, hblock,
    Option.map_some]

end Create

/-- **`glbctx_createconchannels` is all or nothing**, under every pattern of allocation failures and
from every set of live blocks. If none of its `2 * n + 1` requests fails it makes a complete array
of new queues in as many new blocks, which `glbctx_freeconchannels` gives back; if one fails it
leaves `NULL` and the live blocks as they were. Neither frees a block that is not live, or through a
pointer that was never written. -/
theorem createconchannels_all_or_nothing (ok : ℕ → Bool) (configs : List Glbchan) (a : Allocator) :
    ((∀ k < 2 * configs.length + 1, ok k = true) ∧
      ∃ a' chs, createconchannels ok configs a = some (.success, a', some chs) ∧
        List.Forall₂ Glbchannelbuf.IsNew configs chs.entries ∧
        chs.blocks.length = 2 * configs.length + 1 ∧ a.Acquires a' chs.blocks ∧
        ∃ a'', freeconchannels configs.length a' (some chs) = some (.success, a'', none) ∧
          a.Restores a'') ∨
    (∃ k < 2 * configs.length + 1, ok k = false) ∧
      ∃ a', createconchannels ok configs a = some (.outOfMemory, a', none) ∧ a.Restores a' := by
  rcases hb : a.malloc (ok 0) with ⟨a₁, - | b⟩
  · have hzero : ok 0 = false := by rw [← a.isSome_malloc (ok 0), hb, Option.isSome_none]
    exact Or.inr ⟨⟨0, Nat.succ_pos _, hzero⟩, a, createconchannels_of_none hb, .refl a⟩
  rcases hbuilt : buildChannels ok configs 1 [] a₁ with ⟨a₂, - | built⟩
  · exact Or.inr ⟨exists_fail_of_none hb (congrArg Prod.snd hbuilt), a₂.free b,
      createconchannels_of_givenUp hb hbuilt⟩
  · have hall : ∀ k < 2 * configs.length + 1, ok k = true :=
      (forall_ok_iff hb).2 (by rw [hbuilt, Option.isSome_some])
    obtain ⟨_, rfl, hnew, hqueues⟩ := buildChannels_eq_some hbuilt
    have hentries : List.Forall₂ Glbchannelbuf.IsNew configs (built.map Glbchannel.buf) :=
      List.forall₂_map_right_iff.2 (hnew.imp fun _ _ h ↦ h.buf)
    have hacq : a.Acquires a₂ (Glbchannelsbuf.mk b (built.map Glbchannel.buf)).blocks := by
      rw [Glbchannelsbuf.blocks, flatMap_blocks_buf]
      exact ((Allocator.Acquires.of_malloc hb).trans hqueues).perm List.perm_append_comm
    have hwritten : ∀ e ∈ built.map Glbchannel.buf, e.Written := by
      intro e he
      obtain ⟨chan, -, rfl⟩ := List.mem_map.1 he
      exact chan.written_buf
    have hfree := freeconchannels_of_foldlM hwritten (hacq.foldlM_free? (List.Perm.refl _))
    rw [← hentries.length_eq] at hfree
    exact Or.inl ⟨hall, a₂, ⟨b, built.map Glbchannel.buf⟩, createconchannels_of_built hb hbuilt,
      hentries, length_blocks_of_isNew hentries b, hacq, _, hfree,
      hacq.restores (List.Perm.refl _)⟩

/-! ### The arrays of a context -/

theorem Glbchannels.blocks_buf {m : ℕ} (chs : Glbchannels m) : chs.buf.blocks = chs.blocks := by
  rw [Glbchannelsbuf.blocks, Glbchannels.buf, List.flatMap_map]
  rfl

namespace Glbctx

variable (ctx : Glbctx cfg) (i : Fin cfg.connectionCount) (env : Env)

/-- **The function of the model is the one on memory.** -/
theorem createConChannels_memory : createconchannels env.mallocOk cfg.channels ctx.allocator =
    some ((ctx.createConChannels i env).1, (ctx.createConChannels i env).2.allocator,
      ((ctx.createConChannels i env).2.connections i).channels.map Glbchannels.buf) := by
  rcases hb : ctx.allocator.malloc (env.mallocOk 0) with ⟨a₁, - | b⟩
  · rw [createconchannels_of_none hb]
    obtain rfl := Allocator.malloc_eq_none hb
    simp [createConChannels, hb]
  rcases hbuilt : buildChannels env.mallocOk cfg.channels 1 [] a₁ with ⟨a₂, - | built⟩
  · rw [(createconchannels_of_givenUp hb hbuilt).1]
    simp [createConChannels, hb, hbuilt]
  · obtain ⟨_, rfl, hnew, -⟩ := buildChannels_eq_some hbuilt
    have hlen : built.length = cfg.channelCount := hnew.length_eq.symm
    have hentries : (List.finRange cfg.channelCount).map
        (fun c : Fin cfg.channelCount ↦ (built.getD c default).buf) =
        built.map Glbchannel.buf := by
      conv_rhs => rw [← map_getD_finRange hlen default, List.map_map]
      rfl
    rw [createconchannels_of_built hb hbuilt, ← hentries]
    simp [createConChannels, hb, hbuilt, Glbchannels.buf]

/-- Freeing an array of live blocks, each its own, does not go wrong in memory. -/
theorem freeConChannels_memory (hnd : (ctx.channelBlocks i).Nodup)
    (hlive : ∀ b ∈ ctx.channelBlocks i, b ∈ ctx.allocator.live) :
    freeconchannels cfg.channelCount ctx.allocator
        ((ctx.connections i).channels.map Glbchannels.buf) =
      some ((ctx.freeConChannels i).1, (ctx.freeConChannels i).2.allocator, none) := by
  rcases h : (ctx.connections i).channels with - | chs
  · simp [freeConChannels, h, freeconchannels]
  · have hblocks : ctx.channelBlocks i = chs.buf.blocks := by
      rw [channelBlocks, h, chs.blocks_buf]
      rfl
    rw [hblocks] at hnd hlive
    have hfree := Allocator.foldlM_free? hnd hlive
    have hentries : chs.buf.entries.length = cfg.channelCount := by simp [Glbchannels.buf]
    have hwritten : ∀ e ∈ chs.buf.entries, e.Written := by
      intro e he
      obtain ⟨c, -, rfl⟩ := List.mem_map.1 he
      exact (chs.chan c).written_buf
    have hmemory := freeconchannels_of_foldlM hwritten hfree
    rw [hentries] at hmemory
    rw [Option.map_some, hmemory]
    simp [freeConChannels, h, chs.blocks_buf]

/-- `glbctx_createconchannels` succeeds exactly if none of its `2 * n + 1` requests fails. -/
theorem createConChannels_success_iff : (ctx.createConChannels i env).1 = .success ↔
    ∀ k < 2 * cfg.channelCount + 1, env.mallocOk k = true := by
  rcases hb : ctx.allocator.malloc (env.mallocOk 0) with ⟨a₁, - | b⟩
  · have hzero := ctx.allocator.isSome_malloc (env.mallocOk 0)
    rw [hb, Option.isSome_none] at hzero
    refine iff_of_false (fun h ↦ ?_) fun h ↦ ?_
    · rw [createConChannels, hb] at h
      cases h
    · exact Bool.false_ne_true (hzero.trans (h 0 (Nat.succ_pos _)))
  · refine Iff.trans ?_ (forall_ok_iff hb).symm
    rcases hbuilt : buildChannels env.mallocOk cfg.channels 1 [] a₁ with ⟨a₂, - | built⟩ <;>
      simp [createConChannels, hb, hbuilt]

end Glbctx

end Gilberta
