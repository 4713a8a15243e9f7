import Gilberta.Foundations.Holders
import Gilberta.Lifecycle.Ownership
import Mathlib.Data.Finset.Card

/-!
# A context in its process

`glbctx_create` and `glbctx_destroy` among everything else the process has: other blocks of its
allocator, other sockets. Every answer of the allocator and of the operating system is an input.

`create_all_or_nothing` is what the error paths of `glbctx_create` come to. Either there is a
context, with a block of its own, a block for its event queue and a socket, or everything requested
was handed back, but for one thing: a socket that was made and cannot be made non-blocking is not
closed.

`lifetime_safe` follows a context to its end. A run may leak (`nothing_leaked_iff` says when), but
that is the worst it can do to memory: the pointers of a context lead to live blocks, no two of them
to the same one and none to a block of somebody else, so that nothing is freed twice and
`glbctx_destroy` finds everything it frees.
-/

namespace Gilberta

variable {cfg : Glbcfg}

/-- What a process holds: the blocks of its allocator, and its open sockets, which are handed out
and given back in the same way. -/
structure Process where
  /-- The allocator. -/
  memory : Allocator
  /-- The open sockets. -/
  sockets : Allocator

/-- What `glbctx_create` is answered. -/
structure CreateEnv where
  /-- There is memory for the context. -/
  contextOk : Bool
  /-- `socket` returns a socket. -/
  socketOk : Bool
  /-- `fcntl` returns the flags of the socket. -/
  getFlagsOk : Bool
  /-- `fcntl` makes the socket non-blocking. -/
  setFlagsOk : Bool
  /-- `bind` succeeds. -/
  bindOk : Bool
  /-- There is memory for the event queue. -/
  queueOk : Bool
  deriving DecidableEq, Repr

/-- A context as `glbctx_create` fills it in. -/
def Glbctx.filled (cfg : Glbcfg) (b : Block) (a : Allocator)
    (q : Glbqueue (Glbevent cfg.connectionCount)) : Glbctx cfg where
  block := b
  allocator := a
  sock := []
  eventqueue := q
  offered := []
  connections := fun _ ↦ zeroCon cfg
  error := .success
  clientGen := 0
  clientId := 1

namespace Process

variable (p : Process)

/-- The allocator takes a block back. -/
def free (b : Block) : Option Process :=
  (p.memory.free? b).map fun memory ↦ { p with memory := memory }

/-- `GLB_CreateSocket`, with the value of `ctx->sock` afterwards. -/
def glbCreateSocket (env : CreateEnv) : GLBErrorCode × Process × Option Block :=
  match p.sockets.malloc env.socketOk with
  | (sockets, none) => (.socketCreation, { p with sockets := sockets }, none)
  | (sockets, some sock) =>
    let p := { p with sockets := sockets }
    if !env.getFlagsOk || !env.setFlagsOk then (.socketCreation, p, some sock)
    else (.success, p, some sock)

/-- `GLB_CloseSocket`. -/
def glbCloseSocket : Option Block → Option Process
  | none => some p
  | some sock => (p.sockets.free? sock).map fun sockets ↦ { p with sockets := sockets }

/-- `GLB_BindSocket`. -/
def glbBindSocket (env : CreateEnv) : GLBErrorCode :=
  if env.bindOk then .success else .socketBinding

/-- `glbctx_create`, with the value of `ctx->sock`. -/
def glbctxCreate (cfg : Glbcfg) (env : CreateEnv) :
    Option (Process × Option (Glbctx cfg × Option Block)) :=
  match p.memory.malloc env.contextOk with
  | (memory, none) => some ({ p with memory := memory }, none)
  | (memory, some b) =>
    match glbCreateSocket { p with memory := memory } env with
    | (.success, p, sock) =>
      if cfg.isServer && glbBindSocket env != .success then
        ((p.glbCloseSocket sock).bind fun p ↦ p.free b).map fun p ↦ (p, none)
      else match glbqueueInit p.memory env.queueOk cfg.eventCapacity with
        | (memory, none) =>
          let p := { p with memory := memory }
          ((p.glbCloseSocket sock).bind fun p ↦ p.free b).map fun p ↦ (p, none)
        | (memory, some q) =>
          some ({ p with memory := memory }, some (.filled cfg b memory q, sock))
    | (_, p, _) => (p.free b).map fun p ↦ (p, none)

/-- The loop of `glbctx_destroy` over the slots. -/
def freeSlots (ctx : Glbctx cfg) (is : List (Fin cfg.connectionCount)) (a : Allocator) :
    Option Allocator :=
  is.foldlM (fun a i ↦ (freeconchannels cfg.channelCount a
    ((ctx.connections i).channels.map Glbchannels.buf)).map fun r ↦ r.2.1) a

/-- `glbctx_destroy`. -/
def glbctxDestroy (ctx : Glbctx cfg) (sock : Option Block) : Option Process :=
  (p.free ctx.eventqueue.block).bind fun p ↦
    (freeSlots ctx (List.finRange _) p.memory).bind fun memory ↦
      (glbCloseSocket { p with memory := memory } sock).bind fun p ↦ p.free ctx.block

end Process

/-- Every request of `glbctx_create` is answered. -/
def CreateEnv.Succeeds (cfg : Glbcfg) (env : CreateEnv) : Prop :=
  env.contextOk = true ∧ env.socketOk = true ∧ env.getFlagsOk = true ∧ env.setFlagsOk = true ∧
    (cfg.isServer = true → env.bindOk = true) ∧ env.queueOk = true

/-- There is a socket, and it cannot be made non-blocking. -/
def CreateEnv.LosesSocket (env : CreateEnv) : Prop :=
  env.contextOk = true ∧ env.socketOk = true ∧ (env.getFlagsOk && env.setFlagsOk) = false

namespace Process

variable {p p' : Process} {env : CreateEnv}

/-! ### Creation -/

/-- A context is there after `glbctx_create`. -/
structure Created (p p' : Process) (ctx : Glbctx cfg) (sock : Option Block) : Prop where
  /-- It has a block of its own, and so has its event queue. -/
  memory : p.memory.Acquires p'.memory [ctx.block, ctx.eventqueue.block]
  /-- It has a socket. -/
  socket : ∃ s, sock = some s ∧ p.sockets.Acquires p'.sockets [s]
  /-- It uses the allocator of the process. -/
  allocator : ctx.allocator = p'.memory
  /-- All its slots are closed. -/
  connections : ctx.connections = fun _ ↦ zeroCon cfg
  /-- Nothing has happened yet. -/
  fresh : ctx.offered = [] ∧ ctx.eventqueue.elems = [] ∧ ctx.error = .success ∧
    ctx.clientGen = 0 ∧ ctx.clientId = 1

/-- Nothing is left of an attempt to create a context, or only a socket. -/
structure GivenUp (p p' : Process) (env : CreateEnv) : Prop where
  /-- The blocks were handed back. -/
  memory : p.memory.Restores p'.memory
  /-- So was the socket. -/
  sockets : ¬ env.LosesSocket → p.sockets.Restores p'.sockets
  /-- A socket that cannot be made non-blocking stays open. -/
  lost : env.LosesSocket → ∃ s, p.sockets.Acquires p'.sockets [s]

theorem free_of_acquires {a : Allocator} {b : Block} (h : a.Acquires p.memory [b]) :
    p.free b = some { p with memory := p.memory.free b } := by
  have hlive : b ∈ p.memory.live := (h.live b).2 (Or.inl (List.mem_singleton_self b))
  rw [free, Allocator.free?, if_pos hlive]
  rfl

theorem glbCloseSocket_of_acquires {memory a sockets : Allocator} {s : Block}
    (h : a.Acquires sockets [s]) :
    glbCloseSocket ⟨memory, sockets⟩ (some s) = some ⟨memory, sockets.free s⟩ := by
  have hlive : s ∈ sockets.live := (h.live s).2 (Or.inl (List.mem_singleton_self s))
  rw [glbCloseSocket, Allocator.free?, if_pos hlive]
  rfl

theorem GivenUp.of_unchanged (hlost : ¬ env.LosesSocket) : GivenUp p p env :=
  ⟨.refl _, fun _ ↦ .refl _, fun h ↦ absurd h hlost⟩

/-- The block of the context is handed back. -/
theorem exists_free {q : Process} {b : Block} (hmem : p.memory.Acquires q.memory [b]) :
    ∃ p', q.free b = some p' ∧ p.memory.Restores p'.memory ∧ p'.sockets = q.sockets :=
  ⟨_, free_of_acquires hmem, hmem.restores (.refl _), rfl⟩

/-- The socket is closed, and the block of the context is handed back. -/
theorem exists_close_free {q : Process} {b s : Block} (hmem : p.memory.Acquires q.memory [b])
    (hsock : p.sockets.Acquires q.sockets [s]) (hlost : ¬ env.LosesSocket) :
    ∃ p', ((q.glbCloseSocket (some s)).bind fun p ↦ p.free b) = some p' ∧ GivenUp p p' env := by
  obtain ⟨memory, sockets⟩ := q
  rw [glbCloseSocket_of_acquires hsock, Option.bind_some]
  have hmem' : p.memory.Acquires (Process.mk memory (sockets.free s)).memory [b] := hmem
  obtain ⟨p', hfree, hrestores, hsockets⟩ := exists_free hmem'
  refine ⟨p', hfree, hrestores, fun _ ↦ ?_, fun h ↦ absurd h hlost⟩
  rw [hsockets]
  exact hsock.restores (.refl _)

theorem ok_of_malloc_none {a a' : Allocator} {ok : Bool} (h : a.malloc ok = (a', none)) :
    ok = false := by
  rw [← a.isSome_malloc ok, h]
  rfl

theorem ok_of_malloc_some {a a' : Allocator} {ok : Bool} {b : Block}
    (h : a.malloc ok = (a', some b)) : ok = true := by
  rw [← a.isSome_malloc ok, h]
  rfl

/-- **A context, or nothing.** Whatever the allocator and the operating system answer, and whatever
else the process holds, `glbctx_create` frees no block and closes no socket that is not its own. It
returns a context if and only if every answer is good, and else it hands back what it requested,
with the exception of a socket that cannot be made non-blocking. -/
theorem create_all_or_nothing (cfg : Glbcfg) (env : CreateEnv) (p : Process) :
    ∃ p' result, p.glbctxCreate cfg env = some (p', result) ∧
      (result.isSome = true ↔ env.Succeeds cfg) ∧
      (∀ ctx sock, result = some (ctx, sock) → Created p p' ctx sock) ∧
      (result = none → GivenUp p p' env) := by
  -- an attempt that is given up
  have hgiven : ∀ p', p.glbctxCreate cfg env = some (p', none) → ¬ env.Succeeds cfg →
      GivenUp p p' env → ∃ p' result, p.glbctxCreate cfg env = some (p', result) ∧
        (result.isSome = true ↔ env.Succeeds cfg) ∧
        (∀ ctx sock, result = some (ctx, sock) → Created p p' ctx sock) ∧
        (result = none → GivenUp p p' env) := by
    intro p' hcreate hfails hgiven
    refine ⟨p', none, hcreate, ⟨fun h ↦ ?_, fun h ↦ absurd h hfails⟩, fun _ _ h ↦ ?_,
      fun _ ↦ hgiven⟩
    · cases h
    · cases h
  rcases hcontext : p.memory.malloc env.contextOk with ⟨memory, - | b⟩
  · obtain rfl := Allocator.malloc_eq_none hcontext
    have hno := ok_of_malloc_none hcontext
    refine hgiven p ?_ (fun h ↦ ?_) (.of_unchanged fun h ↦ ?_)
    · rw [glbctxCreate, hcontext]
    · exact Bool.false_ne_true (hno.symm.trans h.1)
    · exact Bool.false_ne_true (hno.symm.trans h.1)
  have hcontextOk := ok_of_malloc_some hcontext
  have hmem : p.memory.Acquires memory [b] := .of_malloc hcontext
  rcases hsocket : p.sockets.malloc env.socketOk with ⟨sockets, - | s⟩
  · obtain rfl := Allocator.malloc_eq_none hsocket
    have hno := ok_of_malloc_none hsocket
    have hmem' : p.memory.Acquires { p with memory := memory }.memory [b] := hmem
    obtain ⟨p', hfree, hrestores, hsockets⟩ := exists_free hmem'
    refine hgiven p' ?_ (fun h ↦ ?_) ⟨hrestores, fun _ ↦ ?_, fun h ↦ ?_⟩
    · simp only [glbctxCreate, hcontext, glbCreateSocket, hsocket]
      rw [hfree]
      rfl
    · exact Bool.false_ne_true (hno.symm.trans h.2.1)
    · rw [hsockets]
      exact .refl _
    · exact absurd (hno.symm.trans h.2.1) Bool.false_ne_true
  have hsocketOk := ok_of_malloc_some hsocket
  have hsock : p.sockets.Acquires sockets [s] := .of_malloc hsocket
  cases hflags : env.getFlagsOk && env.setFlagsOk with
  | false =>
    -- the socket stays open
    have hlost : env.LosesSocket := ⟨hcontextOk, hsocketOk, hflags⟩
    have hbad : (!env.getFlagsOk || !env.setFlagsOk) = true := by
      rw [← Bool.not_and, hflags]
      rfl
    have hmem' : p.memory.Acquires (Process.mk memory sockets).memory [b] := hmem
    obtain ⟨p', hfree, hrestores, hsockets⟩ := exists_free hmem'
    refine hgiven p' ?_ (fun h ↦ ?_) ⟨hrestores, fun h ↦ absurd hlost h, fun _ ↦ ⟨s, ?_⟩⟩
    · simp only [glbctxCreate, hcontext, glbCreateSocket, hsocket, hbad, if_true]
      rw [hfree]
      rfl
    · rw [h.2.2.1, h.2.2.2.1] at hflags
      cases hflags
    · rw [hsockets]
      exact hsock
  | true =>
    obtain ⟨hget, hset⟩ := (Bool.and_eq_true _ _).mp hflags
    have hgood : (!env.getFlagsOk || !env.setFlagsOk) = false := by
      rw [← Bool.not_and, hflags]
      rfl
    have hlost : ¬ env.LosesSocket := fun h ↦ Bool.false_ne_true (h.2.2.symm.trans hflags)
    have hmem' : p.memory.Acquires (Process.mk memory sockets).memory [b] := hmem
    have hsock' : p.sockets.Acquires (Process.mk memory sockets).sockets [s] := hsock
    cases hbind : cfg.isServer && glbBindSocket env != .success with
    | true =>
      obtain ⟨p', hclose, hgivenUp⟩ := exists_close_free hmem' hsock' hlost
      refine hgiven p' ?_ (fun h ↦ ?_) hgivenUp
      · simp only [glbctxCreate, hcontext, glbCreateSocket, hsocket, hgood, hbind, if_true,
          Bool.false_eq_true, if_false]
        rw [hclose]
        rfl
      · obtain ⟨hserver, hne⟩ := (Bool.and_eq_true _ _).mp hbind
        rw [glbBindSocket, h.2.2.2.2.1 hserver, if_pos rfl] at hne
        cases hne
    | false =>
      have hqueueOk := isSome_glbqueueInit (α := Glbevent cfg.connectionCount) memory env.queueOk
        cfg.eventCapacity_ne_zero
      rcases hqueue : @glbqueueInit (Glbevent cfg.connectionCount) memory env.queueOk
        cfg.eventCapacity with ⟨memory', - | q⟩ <;> rw [hqueue] at hqueueOk
      · have hmem'' : p.memory.Acquires (Process.mk memory' sockets).memory [b] :=
          hmem.trans (glbqueueInit_acquires hqueue)
        obtain ⟨p', hclose, hgivenUp⟩ := exists_close_free hmem'' hsock' hlost
        refine hgiven p' ?_ (fun h ↦ ?_) hgivenUp
        · simp only [glbctxCreate, hcontext, glbCreateSocket, hsocket, hgood, hbind, hqueue,
            Bool.false_eq_true, if_false]
          rw [hclose]
          rfl
        · exact Bool.false_ne_true (hqueueOk.trans h.2.2.2.2.2)
      · obtain ⟨hacq, hempty⟩ := glbqueueInit_eq_some hqueue
        refine ⟨⟨memory', sockets⟩, some (.filled cfg b memory' q, some s), ?_,
          ⟨fun _ ↦ ?_, fun _ ↦ rfl⟩, ?_, ?_⟩
        · simp only [glbctxCreate, hcontext, glbCreateSocket, hsocket, hgood, hbind, hqueue,
            Bool.false_eq_true, if_false]
        · refine ⟨hcontextOk, hsocketOk, hget, hset, fun hserver ↦ ?_, hqueueOk.symm⟩
          rw [hserver, Bool.true_and, glbBindSocket] at hbind
          cases hok : env.bindOk with
          | true => rfl
          | false => rw [hok] at hbind; cases hbind
        · intro ctx sock hresult
          cases hresult
          exact ⟨hmem.trans hacq, ⟨s, rfl, hsock⟩, rfl, rfl,
            rfl, congrArg BoundedQueue.elems hempty, rfl, rfl, rfl⟩
        · intro hresult
          cases hresult

/-- The context `glbctx_create` returns was filled in. -/
theorem filled_of_create {ctx : Glbctx cfg} {sock : Option Block}
    (h : p.glbctxCreate cfg env = some (p', some (ctx, sock))) :
    ∃ b memory q, p.memory.malloc env.contextOk = (memory, some b) ∧
      glbqueueInit memory env.queueOk cfg.eventCapacity = (p'.memory, some q) ∧
      ctx = .filled cfg b p'.memory q := by
  rw [glbctxCreate] at h
  rcases hcontext : p.memory.malloc env.contextOk with ⟨memory, - | b⟩ <;> rw [hcontext] at h
  · cases h
  rcases hsocket : p.sockets.malloc env.socketOk with ⟨sockets, - | s⟩ <;>
    simp only [glbCreateSocket, hsocket] at h
  · obtain ⟨_, -, heq⟩ := Option.map_eq_some_iff.1 h
    cases heq
  cases hflags : !env.getFlagsOk || !env.setFlagsOk <;>
    simp only [hflags, if_true, if_false, Bool.false_eq_true] at h
  · cases hbind : cfg.isServer && glbBindSocket env != .success <;>
      simp only [hbind, if_true, if_false, Bool.false_eq_true] at h
    · rcases hqueue : @glbqueueInit (Glbevent cfg.connectionCount) memory env.queueOk
        cfg.eventCapacity with ⟨memory', - | q⟩ <;> simp only [hqueue] at h
      · obtain ⟨_, -, heq⟩ := Option.map_eq_some_iff.1 h
        cases heq
      · cases h
        exact ⟨b, memory, q, rfl, hqueue, rfl⟩
    · obtain ⟨_, -, heq⟩ := Option.map_eq_some_iff.1 h
      cases heq
  · obtain ⟨_, -, heq⟩ := Option.map_eq_some_iff.1 h
    cases heq

/-- In a process that has allocated nothing this is the context runs start from. -/
theorem eq_init_of_create {sockets : Allocator} {ctx : Glbctx cfg} {sock : Option Block}
    (h : Process.glbctxCreate ⟨.empty, sockets⟩ cfg env = some (p', some (ctx, sock))) :
    ctx = Glbctx.init cfg := by
  obtain ⟨b, memory, q, hcontext, hqueue, rfl⟩ := filled_of_create h
  rw [ok_of_malloc_some hcontext] at hcontext
  cases hcontext
  have hok : env.queueOk = true := by
    rw [← isSome_glbqueueInit (α := Glbevent cfg.connectionCount) _ env.queueOk
      cfg.eventCapacity_ne_zero, hqueue]
    rfl
  rw [hok, glbqueueInit, if_neg cfg.eventCapacity_ne_zero] at hqueue
  obtain ⟨hmemory, hq⟩ := Prod.mk.inj hqueue
  rw [← hmemory, ← Option.some_inj.1 hq]
  rfl

/-- **Runs start from what `glbctx_create` returns** when every answer is good. -/
theorem exists_create_init (sockets : Allocator) (h : env.Succeeds cfg) : ∃ p' sock,
    Process.glbctxCreate ⟨.empty, sockets⟩ cfg env = some (p', some (Glbctx.init cfg, sock)) := by
  obtain ⟨p', result, hcreate, hsome, -⟩ := create_all_or_nothing cfg env ⟨.empty, sockets⟩
  obtain ⟨⟨ctx, sock⟩, rfl⟩ := Option.isSome_iff_exists.1 (hsome.2 h)
  obtain rfl := eq_init_of_create hcreate
  exact ⟨p', sock, hcreate⟩

end Process

namespace Glbctx

variable {ctx ctx' : Glbctx cfg} {op : Op cfg} {i : Fin cfg.connectionCount} {κ : Type*}
  {other : κ → List Block}

/-! ### Runs -/

/-- The blocks the context holds through its pointers, and those of others in the process. -/
def holds (ctx : Glbctx cfg) (other : κ → List Block) :
    Owner cfg.connectionCount ⊕ κ → List Block :=
  Sum.elim ctx.owned other

theorem holds_of_becomes {con' : Glbconn cfg} {a' : Allocator}
    {evs : List (Glbevent cfg.connectionCount)} (hb : ctx.Becomes ctx' i con' a' evs)
    (o : Owner cfg.connectionCount ⊕ κ) (ho : o ≠ .inl (.slot i)) :
    ctx'.holds other o = ctx.holds other o := by
  cases o with
  | inl o => exact owned_of_becomes hb fun h ↦ ho (congrArg Sum.inl h)
  | inr k => rfl

/-- A change that leaves the array of its slot where it is, or loses it. -/
theorem heldBy_of_becomes {con' : Glbconn cfg} {evs : List (Glbevent cfg.connectionCount)}
    (hI : ctx.allocator.HeldBy (ctx.holds other)) (hb : ctx.Becomes ctx' i con' ctx.allocator evs)
    (hchannels : con'.channels = (ctx.connections i).channels ∨ con'.channels = none) :
    ctx'.allocator.HeldBy (ctx'.holds other) := by
  rw [hb.allocator]
  refine hI.mono fun o ↦ ?_
  by_cases ho : o = .inl (.slot i)
  · subst ho
    show (ctx'.channelBlocks i).Sublist (ctx.channelBlocks i)
    rw [channelBlocks, hb.self]
    rcases hchannels with h | h <;> rw [h]
    · exact .refl _
    · exact List.nil_sublist _
  · rw [holds_of_becomes hb o ho]

/-- A change that builds an array, for a slot with or without one. -/
theorem heldBy_of_new {con' : Glbconn cfg} {a' : Allocator} {chs : Glbchannels cfg.channelCount}
    {evs : List (Glbevent cfg.connectionCount)} (hI : ctx.allocator.HeldBy (ctx.holds other))
    (hb : ctx.Becomes ctx' i con' a' evs) (hnew : IsNewArray ctx.allocator a' chs)
    (hchannels : con'.channels.map Glbchannels.blocks = some chs.blocks) :
    ctx'.allocator.HeldBy (ctx'.holds other) := by
  rw [hb.allocator]
  refine hI.acquire (i := .inl (.slot i)) hnew.acquires ?_ fun o ho ↦ holds_of_becomes hb o ho
  show ctx'.channelBlocks i = chs.blocks
  obtain ⟨chs', hchs', hblocks⟩ := Option.map_eq_some_iff.1 hchannels
  rw [channelBlocks, hb.self, hchs', Option.elim_some, hblocks]

/-- A change that frees the array of its slot. -/
theorem heldBy_of_freed {con' : Glbconn cfg} {evs : List (Glbevent cfg.connectionCount)}
    (hI : ctx.allocator.HeldBy (ctx.holds other))
    (hb : ctx.Becomes ctx' i con' (ctx.allocator.freeAll (ctx.channelBlocks i)) evs)
    (hchannels : con'.channels = none) : ctx'.allocator.HeldBy (ctx'.holds other) := by
  rw [hb.allocator]
  refine hI.release (i := .inl (.slot i)) ?_ fun o ho ↦ holds_of_becomes hb o ho
  exact channelBlocks_of_none (by rw [hb.self, hchannels])

theorem heldBy_of_quiet (hI : ctx.allocator.HeldBy (ctx.holds other)) (hq : ctx.Quiet op ctx') :
    ctx'.allocator.HeldBy (ctx'.holds other) := by
  have howned : ctx'.owned = ctx.owned := by
    funext o
    cases o with
    | eventqueue => exact congrArg (fun b ↦ [b]) hq.queueBlock
    | slot j =>
      have hblocks := congrArg (fun o ↦ o.elim [] id) (hq.life j).blocks
      simpa [owned, channelBlocks, Option.elim_map] using hblocks
    | context => exact congrArg (fun b ↦ [b]) hq.block
  rw [holds, howned, hq.allocator]
  exact hI

/-- **A step keeps every pointer of the context on a live block of its own**, and hands back only
blocks the context held. -/
theorem heldBy_step (hI : ctx.allocator.HeldBy (ctx.holds other)) (h : Step ctx op ctx') :
    ctx'.allocator.HeldBy (ctx'.holds other) := by
  cases step_effect h with
  | quiet hq => exact heldBy_of_quiet hI hq
  | change hb hchange =>
    cases hchange with
    | connected | finSent | reopened | reset | gaveUp | dropped =>
      exact heldBy_of_becomes hI hb (Or.inl rfl)
    | opened _ _ _ _ hchannels => exact heldBy_of_becomes hI hb (Or.inr hchannels)
    | accepted _ _ _ hnew | synAcked _ _ _ hnew => exact heldBy_of_new hI hb hnew rfl
    | closed _ _ _ hchannels => exact heldBy_of_freed hI hb hchannels

/-- The blocks of a new context are its own. -/
theorem heldBy_of_created {p p' : Process} {sock : Option Block} (hp : p.memory.HeldBy other)
    (h : Process.Created p p' ctx sock) : ctx.allocator.HeldBy (ctx.holds other) := by
  have hslots : ∀ i, ctx.owned (.slot i) = [] := fun i ↦
    channelBlocks_of_none (by rw [h.connections]; rfl)
  have hne : ctx.block ≠ ctx.eventqueue.block := by simpa using h.memory.nodup
  rw [h.allocator]
  refine hp.join h.memory (fun o ↦ ?_) (fun o o' ho ↦ ?_) fun o ↦ ?_
  · cases o with
    | eventqueue | context => exact List.nodup_singleton _
    | slot i => rw [hslots]; exact List.nodup_nil
  · cases o with
    | slot i => rw [hslots]; exact List.disjoint_nil_left _
    | eventqueue =>
      cases o' with
      | slot i => rw [hslots]; exact List.disjoint_nil_right _
      | eventqueue => exact absurd rfl ho
      | context => simpa [owned] using hne
    | context =>
      cases o' with
      | slot i => rw [hslots]; exact List.disjoint_nil_right _
      | eventqueue => simpa [owned] using hne.symm
      | context => exact absurd rfl ho
  · cases o with
    | eventqueue | context => simp [owned]
    | slot i => rw [hslots]; exact List.nil_subset _

/-! ### Destruction -/

/-- Freeing the channels of a slot goes through live pointers. -/
theorem freeconchannels_eq {a : Allocator} (hnd : (ctx.channelBlocks i).Nodup)
    (hlive : ∀ b ∈ ctx.channelBlocks i, b ∈ a.live) :
    (freeconchannels cfg.channelCount a ((ctx.connections i).channels.map Glbchannels.buf)).map
      (fun r ↦ r.2.1) = some (a.freeAll (ctx.channelBlocks i)) := by
  have hmemory : freeconchannels cfg.channelCount a
      ((ctx.connections i).channels.map Glbchannels.buf) =
      some (({ ctx with allocator := a }.freeConChannels i).1,
        ({ ctx with allocator := a }.freeConChannels i).2.allocator, none) :=
    freeConChannels_memory { ctx with allocator := a } i hnd hlive
  rw [hmemory, freeConChannels_snd]
  rfl

/-- The loop of `glbctx_destroy` goes through live pointers. -/
theorem freeSlots_eq {a : Allocator} {is : List (Fin cfg.connectionCount)}
    (hnd : (is.flatMap ctx.channelBlocks).Nodup)
    (hlive : ∀ b ∈ is.flatMap ctx.channelBlocks, b ∈ a.live) :
    Process.freeSlots ctx is a = some (a.freeAll (is.flatMap ctx.channelBlocks)) := by
  induction is generalizing a with
  | nil => rfl
  | cons i is ih =>
    rw [List.flatMap_cons] at hnd hlive ⊢
    obtain ⟨hfirst, hrest, hapart⟩ := List.nodup_append'.1 hnd
    have hslot := freeconchannels_eq hfirst fun b hb ↦ hlive b (List.mem_append_left _ hb)
    have hloop : Process.freeSlots ctx is (a.freeAll (ctx.channelBlocks i)) =
        some ((a.freeAll (ctx.channelBlocks i)).freeAll (is.flatMap ctx.channelBlocks)) :=
      ih hrest fun b hb ↦ a.mem_live_freeAll.2
        ⟨fun hc ↦ hapart hc hb, hlive b (List.mem_append_right _ hb)⟩
    rw [Process.freeSlots, List.foldlM_cons, hslot, Allocator.freeAll_append]
    exact hloop

/-- **`glbctx_destroy` finds everything it frees**, and leaves what others hold. -/
theorem exists_glbctxDestroy {sockets₀ sockets : Allocator} {s : Block}
    (hI : ctx.allocator.HeldBy (ctx.holds other)) (hsock : sockets₀.Acquires sockets [s]) :
    ∃ p', Process.glbctxDestroy ⟨ctx.allocator, sockets⟩ ctx (some s) = some p' ∧
      p'.memory = ctx.glbDestroy ∧ p'.memory.HeldBy other ∧ sockets₀.Restores p'.sockets := by
  have hown : ctx.allocator.HeldBy ctx.owned := hI.comap Sum.inl_injective
  have hnd := hown.nodup_flatMap (Owner.nodup_all cfg.connectionCount)
  have hlive : ∀ b ∈ (Owner.all cfg.connectionCount).flatMap ctx.owned, b ∈ ctx.allocator.live :=
    hown.live_of_mem_flatMap
  have hslots : ((List.finRange cfg.connectionCount).map Owner.slot).flatMap ctx.owned =
      (List.finRange cfg.connectionCount).flatMap ctx.channelBlocks := by
    rw [List.flatMap_map]
    rfl
  have hall : (Owner.all cfg.connectionCount).flatMap ctx.owned = ctx.eventqueue.block ::
      ((List.finRange cfg.connectionCount).flatMap ctx.channelBlocks ++ [ctx.block]) := by
    rw [Owner.all, List.flatMap_cons, List.flatMap_append, hslots]
    rfl
  rw [hall] at hnd hlive
  obtain ⟨hqueue, hrest⟩ := List.nodup_cons.1 hnd
  obtain ⟨hbs, -, hcontext⟩ := List.nodup_append'.1 hrest
  -- the event queue, the slots, the socket, the context
  have hfree : Process.free ⟨ctx.allocator, sockets⟩ ctx.eventqueue.block =
      some ⟨ctx.allocator.free ctx.eventqueue.block, sockets⟩ := by
    rw [Process.free, Allocator.free?, if_pos (hlive _ List.mem_cons_self)]
    rfl
  have hloop := freeSlots_eq (a := ctx.allocator.free ctx.eventqueue.block) hbs fun b hb ↦
    ctx.allocator.mem_live_free.2 ⟨fun heq ↦ hqueue (heq ▸ List.mem_append_left _ hb),
      hlive b (List.mem_cons_of_mem _ (List.mem_append_left _ hb))⟩
  have hblock : ctx.block ∈ ((ctx.allocator.free ctx.eventqueue.block).freeAll
      ((List.finRange cfg.connectionCount).flatMap ctx.channelBlocks)).live := by
    refine (Allocator.mem_live_freeAll _).2 ⟨fun hb ↦ hcontext hb (List.mem_singleton_self _),
      ctx.allocator.mem_live_free.2 ⟨?_, ?_⟩⟩
    · exact fun heq ↦ hqueue (heq ▸ List.mem_append_right _ (List.mem_singleton_self _))
    · exact hlive _ (List.mem_cons_of_mem _ (List.mem_append_right _ (List.mem_singleton_self _)))
  have hdestroy : ctx.glbDestroy = ((ctx.allocator.free ctx.eventqueue.block).freeAll
      ((List.finRange cfg.connectionCount).flatMap ctx.channelBlocks)).free ctx.block := by
    rw [glbDestroy_eq, hall, Allocator.freeAll_cons, Allocator.freeAll_append]
    rfl
  refine ⟨⟨ctx.glbDestroy, sockets.free s⟩, ?_, rfl, ?_, hsock.restores (.refl _)⟩
  · rw [Process.glbctxDestroy, hfree, Option.bind_some, hloop, Option.bind_some,
      Process.glbCloseSocket_of_acquires hsock, Option.bind_some, Process.free, Allocator.free?,
      if_pos hblock, hdestroy]
    rfl
  · show ctx.glbDestroy.HeldBy other
    rw [glbDestroy_eq]
    exact hI.leave (Owner.nodup_all _)

/-! ### From creation to destruction -/

/-- **A context is safe in its process from creation to destruction.** Whatever others hold, and
whatever the allocator and the operating system answer, `glbctx_create` returns a context if and
only if every answer is good, and else hands back what it requested, but for a socket that cannot be
made non-blocking. In every run of the context, whatever the application calls, whatever packets
arrive and whatever fails, its pointers lead to live blocks, no two to the same one and none to a
block of somebody else, and no block was handed back twice. At any time `glbctx_destroy` finds
everything it frees, closes the socket, and leaves the others what they hold. -/
theorem lifetime_safe (cfg : Glbcfg) (env : CreateEnv) {p : Process}
    (hp : p.memory.HeldBy other) : ∃ p₀ result, p.glbctxCreate cfg env = some (p₀, result) ∧
      (result.isSome = true ↔ env.Succeeds cfg) ∧
      (result = none → Process.GivenUp p p₀ env) ∧
      ∀ ctx₀ sock, result = some (ctx₀, sock) →
        ∀ (ts : List (Transition cfg)) (ctx : Glbctx cfg), Execution Step ctx₀ ts ctx →
          ctx.allocator.HeldBy (ctx.holds other) ∧
          ∃ p', Process.glbctxDestroy ⟨ctx.allocator, p₀.sockets⟩ ctx sock = some p' ∧
            p'.memory = ctx.glbDestroy ∧ p'.memory.HeldBy other ∧
            p.sockets.Restores p'.sockets := by
  obtain ⟨p₀, result, hcreate, hiff, hcreated, hgivenUp⟩ := Process.create_all_or_nothing cfg env p
  refine ⟨p₀, result, hcreate, hiff, hgivenUp, fun ctx₀ sock hresult ts ctx hrun ↦ ?_⟩
  have hnew := hcreated ctx₀ sock hresult
  have hheld := (hrun.invariant_of_state (C := fun _ ↦ True)
    (I := fun ctx : Glbctx cfg ↦ ctx.allocator.HeldBy (ctx.holds other))
    (fun _ _ _ hI hstep _ ↦ heldBy_step hI hstep) (heldBy_of_created hp hnew)
    fun _ _ ↦ trivial).1
  obtain ⟨s, rfl, hsock⟩ := hnew.socket
  exact ⟨hheld, exists_glbctxDestroy hheld hsock⟩

/-- A process in which somebody holds block 0, and in which no socket is open. -/
def sampleProcess : Process := ⟨(Allocator.empty.malloc true).1, .empty⟩

theorem heldBy_sampleProcess : sampleProcess.memory.HeldBy fun _ : Unit ↦ [0] where
  nodup := fun _ ↦ List.nodup_singleton _
  disjoint := fun _ _ h ↦ absurd rfl h
  live := fun _ b hb ↦ by rw [List.mem_singleton.1 hb]; decide
  freed_nodup := List.nodup_nil
  freed := fun b ↦ by
    have hlive : b ∈ sampleProcess.memory.live ↔ b = 0 := by
      show b ∈ insert 0 ∅ ↔ _
      simp
    have hnext : b < sampleProcess.memory.next ↔ b = 0 := Nat.lt_one_iff
    rw [hlive, hnext]
    show b ∈ [] ↔ _
    simp

/-- A client connects, the server closes, and the client connects again before the close is over:
the channels of the first connection are overwritten. -/
def overwritten : List (Op Glbcfg.sampleServer) :=
  [.packet (glbpkgInit ⟨0xFFFF, 0⟩ ctrlFlagSyn 0) .samplePeer (Env.at 1),
    .packet (glbpkgInit ⟨1, 0⟩ ctrlFlagAck 0) .samplePeer (Env.at 2),
    .close ⟨0, Nat.two_pos⟩ 3,
    .packet (glbpkgInit ⟨0xFFFF, 0⟩ ctrlFlagSyn 0) .samplePeer (Env.at 4),
    .packet (glbpkgInit ⟨1, 0⟩ ctrlFlagAck 0) .samplePeer (Env.at 5)]

/-- The run leaks, and yet `glbctx_destroy` goes through, and block 0 is live. -/
theorem lifetime_safe_sample : ∃ p₀ ctx₀ sock ts ctx p',
    sampleProcess.glbctxCreate Glbcfg.sampleServer ⟨true, true, true, true, true, true⟩ =
      some (p₀, some (ctx₀, sock)) ∧
    Execution Step ctx₀ ts ctx ∧
    Process.glbctxDestroy ⟨ctx.allocator, p₀.sockets⟩ ctx sock = some p' ∧
    0 ∈ p'.memory.live ∧ p'.sockets.live = ∅ ∧ 1 < p'.memory.live.card := by
  have hend : (sampleProcess.glbctxCreate Glbcfg.sampleServer
      ⟨true, true, true, true, true, true⟩).bind (fun r ↦ r.2.bind fun x ↦
        (Execution.perform step overwritten x.1).map fun e ↦ e.2.glbDestroy.live.card) =
      some 4 := by decide +kernel
  obtain ⟨⟨p₀, result⟩, hcreate, hend⟩ := Option.bind_eq_some_iff.1 hend
  obtain ⟨⟨ctx₀, sock⟩, hresult, hend⟩ := Option.bind_eq_some_iff.1 hend
  obtain ⟨r, hr, hcard⟩ := Option.map_eq_some_iff.1 hend
  obtain rfl : result = some (ctx₀, sock) := hresult
  obtain ⟨p₁, result₁, hcreate₁, -, -, hlife⟩ := lifetime_safe Glbcfg.sampleServer
    ⟨true, true, true, true, true, true⟩ heldBy_sampleProcess
  obtain ⟨rfl, rfl⟩ := Prod.mk.inj (Option.some_inj.1 (hcreate.symm.trans hcreate₁))
  have hrun : Execution Step ctx₀ r.1 r.2 := Execution.nil.append_perform hr
  obtain ⟨-, p', hdestroy, hmemory, hothers, hsockets⟩ := hlife ctx₀ sock rfl r.1 r.2 hrun
  refine ⟨p₀, ctx₀, sock, r.1, r.2, p', hcreate, hrun, hdestroy, ?_, ?_, ?_⟩
  · exact hothers.live () 0 (List.mem_singleton_self _)
  · exact hsockets.live
  · rw [hmemory, hcard]
    decide

end Glbctx

end Gilberta
