import Gilberta.Effects.Step
import Gilberta.Memory.Channels

/-!
# Out of memory while a connection is established

The handlers of ACK and SYN|ACK ignore what `glbctx_createconchannels` returns. When it fails
`con->channels` is `NULL`, and `glbctx_writeack`, which both call next, follows it: a channel count
is never zero, so the loop writes to at least one entry (`handlePacket_of_arrayFails`). By then the
ACK handler has marked the slot established, and the SYN|ACK handler has offered the CONNECT event.

So exhaustion is handled exactly when there is nothing to handle, and `exhaustionHandled_iff` says
when that is: the handler comes to build an array and one of the `2 * n + 1` requests for it fails.
-/

namespace Gilberta

variable {cfg : Glbcfg}

/-- A packet for which `glb_tick` builds the channel array of slot `i`: the ACK the slot waits for,
or a SYN|ACK while slot 0 is not established. -/
def Glbpkg.NeedsArray (p : Glbpkg) (ctx : Glbctx cfg) (i : Fin cfg.connectionCount) : Prop :=
  (p.header.ctrlFlags = ctrlFlagAck ∧ p.Finds ctx i ∧ (ctx.connections i).state = .synRcvd) ∨
    (p.header.ctrlFlags = ctrlFlagSynAck ∧ i.val = 0 ∧ (ctx.connections i).state ≠ .established)

namespace Glbctx

/-- The context in which the handler calls `glbctx_createconchannels`: the ACK handler has marked
the slot established, the SYN|ACK handler has given it its id. -/
def atArray (ctx : Glbctx cfg) (i : Fin cfg.connectionCount) (pkg : Glbpkg) : Glbctx cfg :=
  if pkg.header.ctrlFlags = ctrlFlagAck then
    ctx.setCon i { ctx.connections i with state := .established }
  else ctx.adoptConId i pkg

/-- `glbctx_createconchannels` fails while the packet is handled. -/
def ArrayFails (ctx : Glbctx cfg) (pkg : Glbpkg) (env : Env) (i : Fin cfg.connectionCount) :
    Prop :=
  pkg.NeedsArray ctx i ∧ ((ctx.atArray i pkg).createConChannels i env).1 ≠ .success

/-- What should happen then: the handling goes on, the slot does not become established, and no
CONNECT event is offered for it. -/
def ExhaustionHandled (ctx : Glbctx cfg) (pkg : Glbpkg) (from_ : Glbaddr) (env : Env) : Prop :=
  ∀ i, ctx.ArrayFails pkg env i → ∃ ctx' evs, ctx.handlePacket pkg from_ env = some ctx' ∧
    (ctx'.connections i).state ≠ .established ∧ ctx'.offered = ctx.offered ++ evs ∧
    .connect i ∉ evs

/-- No request for the array fails, if the packet needs one. -/
def ArrayAllocated (ctx : Glbctx cfg) (pkg : Glbpkg) (env : Env) : Prop :=
  ∀ i, pkg.NeedsArray ctx i → ∀ k < 2 * cfg.channelCount + 1, env.mallocOk k = true

variable {ctx : Glbctx cfg} {i : Fin cfg.connectionCount} {pkg : Glbpkg} {from_ : Glbaddr}
  {env : Env}

/-- **When the array cannot be built the handler goes through `NULL`.** -/
theorem handlePacket_of_arrayFails (h : ctx.ArrayFails pkg env i) :
    ctx.handlePacket pkg from_ env = none := by
  obtain ⟨hneeds, hfails⟩ := h
  have hnone : (((ctx.atArray i pkg).createConChannels i env).2.connections i).channels = none := by
    rcases createConChannels_spec (ctx.atArray i pkg) i env with ⟨-, hnone⟩ | ⟨chs, a', -, heq⟩
    · exact hnone
    · rw [heq] at hfails
      exact absurd rfl hfails
  rcases hneeds with ⟨hflags, hfind, hstate⟩ | ⟨hflags, hi, hstate⟩
  · have hfind : ctx.findConn pkg.header.clientGen pkg.header.clientId = some i := hfind
    rw [atArray, if_pos hflags] at hnone
    -- `glbctx_writeack` comes next, whatever was returned
    rw [handlePacket_of_ack hflags, onAck, hfind]
    simp only [hstate, ne_eq, not_true_eq_false, if_false, writeAck_of_none _ hnone]
  · have hpos : 0 < cfg.connectionCount := hi ▸ i.isLt
    obtain rfl : i = ⟨0, hpos⟩ := Fin.ext hi
    have hnotAck : pkg.header.ctrlFlags ≠ ctrlFlagAck := by
      rw [hflags]
      decide
    rw [atArray, if_neg hnotAck] at hnone
    have hadopt : ((ctx.adoptConId ⟨0, hpos⟩ pkg).connections ⟨0, hpos⟩).state ≠ .established := by
      rw [(becomes_adoptConId ctx ⟨0, hpos⟩ pkg).self]
      exact hstate
    -- the event and the timer that come before `glbctx_writeack` leave the pointer alone
    have haccept : (ctx.adoptConId ⟨0, hpos⟩ pkg).acceptSynAck ⟨0, hpos⟩ pkg env = none := by
      rw [acceptSynAck, if_neg hadopt]
      exact writeAck_of_none _ (by simpa using hnone)
    rw [handlePacket_of_synAck hflags, onSynAck, dif_pos hpos]
    simp only [haccept, Option.bind_none]

/-- The array fails exactly if one of the requests for it does. -/
theorem arrayFails_iff (hneeds : pkg.NeedsArray ctx i) : ctx.ArrayFails pkg env i ↔
    ¬ ∀ k < 2 * cfg.channelCount + 1, env.mallocOk k = true := by
  rw [ArrayFails, Ne, createConChannels_success_iff]
  exact and_iff_right hneeds

/-- **Exhaustion is handled exactly if there is none.** -/
theorem exhaustionHandled_iff (ctx : Glbctx cfg) (pkg : Glbpkg) (from_ : Glbaddr) (env : Env) :
    ctx.ExhaustionHandled pkg from_ env ↔ ctx.ArrayAllocated pkg env := by
  constructor
  · intro h i hneeds
    by_contra hok
    have hfails := (arrayFails_iff hneeds).2 hok
    obtain ⟨ctx', evs, hsome, -⟩ := h i hfails
    rw [handlePacket_of_arrayFails hfails] at hsome
    cases hsome
  · intro h i hfails
    exact absurd (h i hfails.1) ((arrayFails_iff hfails.1).1 hfails)

/-- **Exhaustion in a run.** A run goes on only while every array it needs is allocated, and in
every state it reaches exhaustion is handled for the next packet exactly if no request for an array
fails. -/
theorem exhaustion_handled_iff {ts : List (Transition cfg)} (hrun : Run ts ctx) :
    (∀ x ∈ ts, ∀ pkg from_ env, x.2.1 = .packet pkg from_ env → x.1.ArrayAllocated pkg env) ∧
    ∀ pkg from_ env, ctx.ExhaustionHandled pkg from_ env ↔ ctx.ArrayAllocated pkg env := by
  refine ⟨fun x hx pkg from_ env hop ↦ ?_, ctx.exhaustionHandled_iff⟩
  have hsteps := (Execution.invariant_of_state (I := fun _ ↦ True) (C := fun _ ↦ True)
    (fun _ _ _ _ _ _ ↦ trivial) hrun trivial fun _ _ ↦ trivial).2
  have hstep : x.1.handlePacket pkg from_ env = some x.2.2 := by
    have hstep : x.1.step x.2.1 = some x.2.2 := (hsteps x hx).2.1
    rwa [hop] at hstep
  intro i hneeds
  by_contra hok
  rw [handlePacket_of_arrayFails ((arrayFails_iff hneeds).2 hok)] at hstep
  cases hstep

/-- A server that has a SYN waits for the ACK of slot 0. -/
theorem exists_run_waiting : ∃ ts ctx, @Run Glbcfg.sampleServer ts ctx ∧
    (glbpkgInit ⟨1, 0⟩ ctrlFlagAck 0).NeedsArray ctx ⟨0, Nat.two_pos⟩ := by
  let ops : List (Op Glbcfg.sampleServer) :=
    [.packet (glbpkgInit ⟨0xFFFF, 0⟩ ctrlFlagSyn 0) .samplePeer (Env.at 1)]
  have hwaits : (Execution.perform step ops (init _)).map (fun r ↦ (r.2.findConn 0 1,
      (r.2.connections ⟨0, Nat.two_pos⟩).state)) = some (some ⟨0, Nat.two_pos⟩, .synRcvd) := by
    decide
  obtain ⟨r, hr, hwaits⟩ := Option.map_eq_some_iff.1 hwaits
  obtain ⟨hfind, hstate⟩ := Prod.mk.inj hwaits
  exact ⟨r.1, r.2, run_of_perform hr, Or.inl ⟨rfl, hfind, hstate⟩⟩

/-- When every request is answered exhaustion is handled, and when the second one, for a send
queue, fails it is not. -/
theorem exhaustion_handled_iff_sample : ∃ ts ctx, @Run Glbcfg.sampleServer ts ctx ∧
    ctx.ExhaustionHandled (glbpkgInit ⟨1, 0⟩ ctrlFlagAck 0) .samplePeer (Env.at 2) ∧
    ¬ ctx.ExhaustionHandled (glbpkgInit ⟨1, 0⟩ ctrlFlagAck 0) .samplePeer
      { Env.at 2 with mallocOk := fun k ↦ k != 1 } := by
  obtain ⟨ts, ctx, hrun, hneeds⟩ := exists_run_waiting
  refine ⟨ts, ctx, hrun, ((exhaustion_handled_iff hrun).2 _ _ _).2 fun _ _ _ _ ↦ rfl,
    fun hhandled ↦ ?_⟩
  have hok := ((exhaustion_handled_iff hrun).2 _ _ _).1 hhandled _ hneeds 1 (by decide)
  cases hok

/-- No memory for the channels of an accepted connection, and the server goes through `NULL`. -/
theorem not_always_survives : ¬ ∀ (cfg : Glbcfg) (ts : List (Transition cfg)) (ctx : Glbctx cfg)
    (pkg : Glbpkg) (from_ : Glbaddr) (env : Env), Run ts ctx →
    pkg.header.ctrlFlags = ctrlFlagAck ∨ pkg.header.ctrlFlags = ctrlFlagSynAck →
    ctx.ExhaustionHandled pkg from_ env := by
  intro h
  obtain ⟨ts, ctx, hrun, hneeds⟩ := exists_run_waiting
  have hhandled := h _ ts ctx (glbpkgInit ⟨1, 0⟩ ctrlFlagAck 0) .samplePeer
    { Env.at 2 with mallocOk := fun _ ↦ false } hrun (Or.inl rfl)
  have hok := (exhaustionHandled_iff _ _ _ _).1 hhandled _ hneeds 0 (by decide)
  cases hok

end Glbctx

end Gilberta
