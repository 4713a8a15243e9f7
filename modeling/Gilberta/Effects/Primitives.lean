import Gilberta.Model.Api

/-!
# What the primitives leave alone

One lemma for each primitive and each part of the context, for the simplifier. The handlers are
compositions of these primitives, so their own effects are computed by `simp` from here on and
nothing unfolds a primitive again.

`createConChannels_spec` is the exception with content: a successful call hangs an array of empty
channels, in fresh blocks, on the slot and touches nothing else.
-/

namespace Gilberta

variable {cfg : Glbcfg}

namespace Glbctx

variable (ctx : Glbctx cfg) (i j : Fin cfg.connectionCount) (con : Glbconn cfg)

/-! ### `setCon` -/

@[simp] theorem connections_setCon_self : (ctx.setCon i con).connections i = con := if_pos rfl

theorem connections_setCon_of_ne {i j : Fin cfg.connectionCount} (h : j ≠ i) :
    (ctx.setCon i con).connections j = ctx.connections j := if_neg h

@[simp] theorem setCon_setCon (con' : Glbconn cfg) :
    (ctx.setCon i con).setCon i con' = ctx.setCon i con' := by
  have h : ∀ j, ((ctx.setCon i con).setCon i con').connections j =
      (ctx.setCon i con').connections j := by
    intro j
    by_cases hj : j = i
    · subst hj; simp
    · simp only [connections_setCon_of_ne _ _ hj]
  simpa [setCon] using funext h

@[simp] theorem setCon_self : ctx.setCon i (ctx.connections i) = ctx := by
  have h : (ctx.setCon i (ctx.connections i)).connections = ctx.connections := by
    funext j
    by_cases hj : j = i
    · subst hj; simp
    · rw [connections_setCon_of_ne _ _ hj]
  show ({ ctx with connections := (ctx.setCon i (ctx.connections i)).connections } : Glbctx cfg) =
    ctx
  rw [h]

@[simp] theorem block_setCon : (ctx.setCon i con).block = ctx.block := rfl

@[simp] theorem allocator_setCon : (ctx.setCon i con).allocator = ctx.allocator := rfl

@[simp] theorem sock_setCon : (ctx.setCon i con).sock = ctx.sock := rfl

@[simp] theorem eventqueue_setCon : (ctx.setCon i con).eventqueue = ctx.eventqueue := rfl

@[simp] theorem offered_setCon : (ctx.setCon i con).offered = ctx.offered := rfl

@[simp] theorem clientId_setCon : (ctx.setCon i con).clientId = ctx.clientId := rfl

@[simp] theorem clientGen_setCon : (ctx.setCon i con).clientGen = ctx.clientGen := rfl

/-! ### `pushEvent` -/

variable (ev : Glbevent cfg.connectionCount)

@[simp] theorem connections_pushEvent : (ctx.pushEvent ev).connections = ctx.connections := rfl

@[simp] theorem block_pushEvent : (ctx.pushEvent ev).block = ctx.block := rfl

@[simp] theorem allocator_pushEvent : (ctx.pushEvent ev).allocator = ctx.allocator := rfl

@[simp] theorem sock_pushEvent : (ctx.pushEvent ev).sock = ctx.sock := rfl

@[simp] theorem offered_pushEvent : (ctx.pushEvent ev).offered = ctx.offered ++ [ev] := rfl

@[simp] theorem clientId_pushEvent : (ctx.pushEvent ev).clientId = ctx.clientId := rfl

@[simp] theorem clientGen_pushEvent : (ctx.pushEvent ev).clientGen = ctx.clientGen := rfl

end Glbctx

/-! ### Queues -/

namespace Glbqueue

variable {α : Type} (q : Glbqueue α) (x : α)

@[simp] theorem block_push : (q.push x).2.block = q.block := by
  rcases h : q.push? x with - | q' <;> simp [push, h]

/-- With its result ignored, `glbqueue_push` is `offer`. -/
@[simp] theorem toBoundedQueue_push : (q.push x).2.toBoundedQueue = q.offer x := by
  rcases h : q.push? x with - | q' <;> simp [push, h, BoundedQueue.offer]

theorem push_fst : (q.push x).1 = if q.isFull then .queueFull else .success := by
  by_cases h : q.isFull = true
  · rw [push, BoundedQueue.push?_of_isFull h, if_pos h]
  · have hroom : q.elems.length < q.capacity := by
      simpa [BoundedQueue.isFull] using h
    obtain ⟨q', hq, -⟩ := BoundedQueue.push?_of_room hroom
    rw [push, hq, if_neg h]

@[simp] theorem block_pop : q.pop.2.2.block = q.block := by
  rcases h : q.pop? with - | ⟨y, q'⟩ <;> simp [pop, h]

/-- With its result ignored, `glbqueue_pop` is `drop`. -/
@[simp] theorem toBoundedQueue_pop : q.pop.2.2.toBoundedQueue = q.drop := by
  rcases h : q.pop? with - | ⟨y, q'⟩ <;> simp [pop, h, BoundedQueue.drop]

@[simp] theorem block_writeHead (f : α → α) : (q.writeHead f).block = q.block := rfl

@[simp] theorem toBoundedQueue_writeHead (f : α → α) :
    (q.writeHead f).toBoundedQueue = q.modifyHead f := rfl

theorem peek_eq_some {q : Glbqueue α} {e : GLBErrorCode} {x : α} (h : q.peek = (e, some x)) :
    e = .success ∧ ∃ xs, q.elems = x :: xs := by
  rcases hq : q.elems with - | ⟨y, ys⟩
  · simp [peek, hq] at h
  · obtain ⟨rfl, rfl⟩ : e = .success ∧ y = x := by simpa [peek, hq, eq_comm] using h
    exact ⟨rfl, ys, rfl⟩

end Glbqueue

namespace Glbctx

variable (ctx : Glbctx cfg) (i j : Fin cfg.connectionCount) (con : Glbconn cfg)
variable (ev : Glbevent cfg.connectionCount)

@[simp] theorem block_eventqueue_pushEvent :
    (ctx.pushEvent ev).eventqueue.block = ctx.eventqueue.block := by
  simp [pushEvent]

/-- The event queue after an event was offered to it. -/
@[simp] theorem toBoundedQueue_eventqueue_pushEvent :
    (ctx.pushEvent ev).eventqueue.toBoundedQueue = ctx.eventqueue.offer ev := by
  simp [pushEvent]

/-! ### `glbio_send` -/

variable (pkg : Glbpkg) (dest : Glbaddr) (ok : Bool)

theorem glbioSend_of_ok :
    ctx.glbioSend pkg dest true = (.success, { ctx with sock := ctx.sock ++ [⟨pkg.seal, dest⟩] }) :=
  rfl

theorem glbioSend_of_fail :
    ctx.glbioSend pkg dest false = (.sendFailed, { ctx with error := .sendFailed }) := rfl

@[simp] theorem connections_glbioSend :
    (ctx.glbioSend pkg dest ok).2.connections = ctx.connections := by cases ok <;> rfl

@[simp] theorem block_glbioSend : (ctx.glbioSend pkg dest ok).2.block = ctx.block := by
  cases ok <;> rfl

@[simp] theorem allocator_glbioSend :
    (ctx.glbioSend pkg dest ok).2.allocator = ctx.allocator := by cases ok <;> rfl

@[simp] theorem sock_glbioSend : (ctx.glbioSend pkg dest ok).2.sock =
    ctx.sock ++ if ok then [⟨pkg.seal, dest⟩] else [] := by
  cases ok
  · exact (List.append_nil _).symm
  · rfl

@[simp] theorem eventqueue_glbioSend :
    (ctx.glbioSend pkg dest ok).2.eventqueue = ctx.eventqueue := by cases ok <;> rfl

@[simp] theorem offered_glbioSend : (ctx.glbioSend pkg dest ok).2.offered = ctx.offered := by
  cases ok <;> rfl

@[simp] theorem clientId_glbioSend : (ctx.glbioSend pkg dest ok).2.clientId = ctx.clientId := by
  cases ok <;> rfl

@[simp] theorem clientGen_glbioSend :
    (ctx.glbioSend pkg dest ok).2.clientGen = ctx.clientGen := by cases ok <;> rfl

/-! ### Lookups -/

/-- The slot found by an address has this address. -/
theorem peerAddr_of_findConnByAddr {ctx : Glbctx cfg} {i : Fin cfg.connectionCount}
    {addr : Glbaddr} (h : ctx.findConnByAddr addr = some i) :
    (ctx.connections i).peerAddr = addr := by
  have hsame := List.find?_some h
  simp only [decide_eq_true_eq] at hsame
  obtain ⟨hip, hport⟩ := hsame
  show (⟨(ctx.connections i).peerAddr.sinAddr, (ctx.connections i).peerAddr.sinPort⟩ : Glbaddr) = _
  rw [hip, hport]

/-! ### Channel arrays -/

/-- The blocks the channels of a slot own. -/
def channelBlocks : List Block := (ctx.connections i).channels.elim [] Glbchannels.blocks

/-- Freeing the channels of a slot, whether or not it has any. -/
theorem freeConChannels_snd : (ctx.freeConChannels i).2 =
    { ctx.setCon i { ctx.connections i with channels := none } with
      allocator := ctx.allocator.freeAll (ctx.channelBlocks i) } := by
  rcases h : (ctx.connections i).channels with - | chs
  · have hcon : ({ ctx.connections i with channels := none } : Glbconn cfg) =
        ctx.connections i := by rw [← h]
    simp only [freeConChannels, channelBlocks, h, hcon, setCon_self, Option.elim_none,
      Allocator.freeAll_nil]
  · simp only [freeConChannels, channelBlocks, h, Option.elim_some]

end Glbctx

/-- The blocks of a channel's queues, in the order they are freed. -/
def Glbchannel.blocks (chan : Glbchannel) : List Block := [chan.sQueue.block, chan.rQueue.block]

/-- An empty queue of the size of a channel queue, never used before. -/
structure Glbqueue.IsNew {α : Type} (q : Glbqueue α) : Prop where
  /-- The size is the one of every channel queue. -/
  capacity : q.capacity = channelQueueSize
  /-- Nothing is stored. -/
  elems : q.elems = []
  /-- Nothing was ever stored. -/
  taken : q.taken = []

/-- A channel as `glbctx_createconchannels` builds it from its configuration. -/
structure Glbchannel.IsNew (config : Glbchan) (chan : Glbchannel) : Prop where
  /-- The send queue is new. -/
  sQueue : chan.sQueue.IsNew
  /-- The receive queue is new. -/
  rQueue : chan.rQueue.IsNew
  /-- The flags are the configured ones. -/
  flags : chan.flags = config.flags
  /-- The priority is the configured one. -/
  priority : chan.priority = config.priority

theorem glbqueueInit_eq_some {α : Type} {a a' : Allocator} {ok : Bool} {n : ℕ} {q : Glbqueue α}
    (h : glbqueueInit a ok n = (a', some q)) :
    a.Acquires a' [q.block] ∧ q.toBoundedQueue = BoundedQueue.empty n := by
  by_cases hn : n = 0
  · rw [glbqueueInit, if_pos hn] at h; cases h
  rw [glbqueueInit, if_neg hn] at h
  rcases hm : a.malloc ok with ⟨a₁, - | b⟩ <;> rw [hm] at h <;> cases h
  exact ⟨.of_malloc hm, rfl⟩

theorem Glbqueue.isNew_of_init {α : Type} {a a' : Allocator} {ok : Bool} {q : Glbqueue α}
    (h : glbqueueInit a ok channelQueueSize = (a', some q)) : q.IsNew := by
  obtain ⟨-, hq⟩ := glbqueueInit_eq_some h
  exact ⟨by rw [hq]; rfl, by rw [hq]; rfl, by rw [hq]; rfl⟩

/-- What the building loop adds to the entries it starts from. -/
theorem buildChannels_eq_some {ok : ℕ → Bool} {configs : List Glbchan} :
    ∀ {k : ℕ} {built built' : List Glbchannel} {a a' : Allocator},
      buildChannels ok configs k built a = (a', some built') →
      ∃ added, built' = built ++ added ∧ List.Forall₂ Glbchannel.IsNew configs added ∧
        a.Acquires a' (added.flatMap Glbchannel.blocks) := by
  induction configs with
  | nil =>
    intro k built built' a a' h
    cases h
    exact ⟨[], (List.append_nil _).symm, .nil, .refl _⟩
  | cons config configs ih =>
    intro k built built' a a' h
    rw [buildChannels] at h
    rcases hs : glbqueueInit (α := Glbpkg) a (ok k) channelQueueSize with ⟨a₁, - | s⟩ <;>
      rcases hr : glbqueueInit (α := Glbpkg) a₁ (ok (k + 1)) channelQueueSize with ⟨a₂, - | r⟩ <;>
      simp only [hs, hr] at h
    · cases h
    · cases h
    · cases h
    · obtain ⟨added, rfl, hnew, hacq⟩ := ih h
      refine ⟨_, List.append_assoc _ _ _, .cons ?_ hnew, ?_⟩
      · exact ⟨Glbqueue.isNew_of_init hs, Glbqueue.isNew_of_init hr, rfl, rfl⟩
      · exact ((glbqueueInit_eq_some hs).1.trans (glbqueueInit_eq_some hr).1).trans hacq

/-- Reading a list through all its indices gives the list. -/
theorem map_getD_finRange {α : Type} {m : ℕ} {l : List α} (hl : l.length = m) (d : α) :
    (List.finRange m).map (fun c : Fin m ↦ l.getD c d) = l := by
  subst hl
  refine List.ext_getElem (by simp) fun k hk hk' ↦ ?_
  simp

namespace Glbctx

variable {ctx : Glbctx cfg} {i : Fin cfg.connectionCount} {env : Env}

/-- A channel array of new channels in blocks that are not in use. -/
structure IsNewArray (a a' : Allocator) (chs : Glbchannels cfg.channelCount) : Prop where
  /-- The channels are new and configured. -/
  chan : ∀ c : Fin cfg.channelCount, (chs.chan c).IsNew (cfg.channels.get c)
  /-- The array and its queues have blocks of their own. -/
  acquires : a.Acquires a' chs.blocks

/-- `glbctx_createconchannels` either runs out of memory and leaves the slot without channels, or
hangs a new array on it. -/
theorem createConChannels_spec (ctx : Glbctx cfg) (i : Fin cfg.connectionCount) (env : Env) :
    ((ctx.createConChannels i env).1 = .outOfMemory ∧
      ((ctx.createConChannels i env).2.connections i).channels = none) ∨
    ∃ chs a', IsNewArray ctx.allocator a' chs ∧ ctx.createConChannels i env =
      (.success, { ctx.setCon i { ctx.connections i with channels := some chs } with
        allocator := a' }) := by
  rcases hb : ctx.allocator.malloc (env.mallocOk 0) with ⟨a, - | b⟩
  · simp [createConChannels, hb]
  rcases hbuilt : buildChannels env.mallocOk cfg.channels 1 [] a with ⟨a', - | built⟩
  · simp [createConChannels, hb, hbuilt]
  refine Or.inr ⟨⟨b, fun c ↦ built.getD c default⟩, a', ?_, ?_⟩
  · obtain ⟨_, rfl, hnew, hacq⟩ := buildChannels_eq_some hbuilt
    have hlen : built.length = cfg.channelCount := hnew.length_eq.symm
    refine ⟨fun c ↦ ?_, ?_⟩
    · have hc : c.val < built.length := by rw [hlen]; exact c.isLt
      have hget : built.getD c default = built.get ⟨c, hc⟩ := by simp [hc]
      show Glbchannel.IsNew _ (built.getD c default)
      rw [hget]
      exact hnew.get c.isLt hc
    · refine ((Allocator.Acquires.of_malloc hb).trans hacq).perm ?_
      have hblocks : Glbchannels.blocks (m := cfg.channelCount)
          ⟨b, fun c ↦ built.getD c default⟩ = built.flatMap Glbchannel.blocks ++ [b] := by
        conv_rhs => rw [← map_getD_finRange hlen default, List.flatMap_map]
        rfl
      rw [hblocks]
      exact List.perm_append_comm
  · simp only [createConChannels, hb, hbuilt]

end Glbctx

end Gilberta
