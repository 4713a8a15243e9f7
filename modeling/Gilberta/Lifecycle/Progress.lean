import Gilberta.Lifecycle.Arrays
import Gilberta.Memory.Channels

/-!
# Which steps are defined

The undefined behaviour of the model is a dereference of a `NULL` channel array, or of slot 0 of a
context without slots. Of a context with slots whose established and closing connections have their
channels, which is true in every run, the public functions and the tick are all defined
(`exists_step`, `exists_glbTick`), provided that the allocator satisfies what handling a packet
requests and `glb_popdata` is called on an established or closing connection only.
-/

namespace Gilberta

variable {cfg : Glbcfg}

/-- The allocator never fails in these surroundings. -/
def Env.MallocOk (env : Env) : Prop := ∀ k, env.mallocOk k = true

/-- The allocator does not fail during an operation. -/
def Op.Provided : Op cfg → Prop
  | .packet _ _ env => env.MallocOk
  | _ => True

/-- `glb_popdata` is called on established and closing connections only. -/
def Op.PopsOpen (ctx : Glbctx cfg) : Op cfg → Prop
  | .popdata info => ∀ i, info.con = some i →
    (ctx.connections i).state = .established ∨ (ctx.connections i).state = .finSent
  | _ => True

namespace Glbctx

variable {ctx ctx' : Glbctx cfg} {i : Fin cfg.connectionCount} {pkg : Glbpkg} {from_ : Glbaddr}
  {env : Env}

/-- Where the allocator does not fail, a new channel array is hung on the slot. -/
theorem exists_createConChannels (ctx : Glbctx cfg) (i : Fin cfg.connectionCount)
    (hok : env.MallocOk) :
    ∃ chs, ((ctx.createConChannels i env).2.connections i).channels = some chs := by
  have hsuccess := (ctx.createConChannels_success_iff i env).2 fun k _ ↦ hok k
  rcases createConChannels_spec ctx i env with ⟨hfail, -⟩ | ⟨chs, a', -, heq⟩
  · rw [hfail] at hsuccess
    cases hsuccess
  · refine ⟨chs, ?_⟩
    rw [heq]
    exact congrArg Glbconn.channels (connections_setCon_self _ _ _)

theorem exists_writeAck {ack : UInt32} {chs : Glbchannels cfg.channelCount}
    (h : (ctx.connections i).channels = some chs) : ∃ ctx', ctx.writeAck i ack = some ctx' :=
  ⟨_, writeAck_of_some chs ack h⟩

/-! ### The branches -/

theorem exists_onAck (hok : env.MallocOk) : ∃ ctx', ctx.onAck pkg env = some ctx' := by
  rw [onAck]
  split
  · exact ⟨ctx, rfl⟩
  next i _ =>
  split
  · exact ⟨ctx, rfl⟩
  obtain ⟨chs, hchs⟩ := exists_createConChannels
    (ctx.setCon i { ctx.connections i with state := .established }) i hok
  obtain ⟨ctx₁, h₁⟩ := @exists_writeAck _ _ _ pkg.header.seq _ hchs
  dsimp only
  rw [h₁]
  exact ⟨_, rfl⟩

theorem exists_onSynAck (hcount : 0 < cfg.connectionCount) (hheld : ArraysHeld ctx)
    (hok : env.MallocOk) : ∃ ctx', ctx.onSynAck pkg env = some ctx' := by
  have hadopt := becomes_adoptConId ctx ⟨0, hcount⟩ pkg
  obtain ⟨ctx₁, chs, h₁, hchs⟩ : ∃ ctx₁ chs,
      (ctx.adoptConId ⟨0, hcount⟩ pkg).acceptSynAck ⟨0, hcount⟩ pkg env = some ctx₁ ∧
        (ctx₁.connections ⟨0, hcount⟩).channels = some chs := by
    rw [acceptSynAck]
    split
    · next hest =>
      have hest₀ : (ctx.connections ⟨0, hcount⟩).state = .established := by
        rw [hadopt.self] at hest
        exact hest
      obtain ⟨chs, hchs⟩ := Option.isSome_iff_exists.1 (hheld _ (Or.inl hest₀))
      exact ⟨_, chs, rfl, by rw [hadopt.self]; exact hchs⟩
    · obtain ⟨chs, hchs⟩ :=
        exists_createConChannels (ctx.adoptConId ⟨0, hcount⟩ pkg) ⟨0, hcount⟩ hok
      rw [writeAck_of_some chs pkg.header.seq (by simpa using hchs)]
      exact ⟨_, _, rfl, by rw [connections_setCon_self]⟩
  rw [onSynAck, dif_pos hcount]
  dsimp only
  rw [h₁, Option.bind_some, replySynAck, hchs]
  exact ⟨_, rfl⟩

/-- The head of the data branches finds the channels of an established slot. -/
theorem exists_withChannel (hheld : ArraysHeld ctx)
    (k : Fin cfg.connectionCount → Fin cfg.channelCount → Glbchannel → Glbctx cfg) :
    ∃ ctx', ctx.withChannel pkg k = some ctx' := by
  rw [withChannel]
  split
  · exact ⟨ctx, rfl⟩
  next i _ =>
  split
  · exact ⟨ctx, rfl⟩
  next hest =>
  split
  · obtain ⟨chs, hchs⟩ := Option.isSome_iff_exists.1 (hheld i (Or.inl (not_not.1 hest)))
    rw [hchs]
    exact ⟨_, rfl⟩
  · exact ⟨ctx, rfl⟩

theorem exists_handlePacket (hcount : 0 < cfg.connectionCount) (hheld : ArraysHeld ctx)
    (hok : env.MallocOk) : ∃ ctx', ctx.handlePacket pkg from_ env = some ctx' := by
  by_cases hsyn : pkg.IsSyn
  · exact ⟨_, handlePacket_of_syn hsyn⟩
  by_cases hflags : pkg.header.ctrlFlags ∈ handledFlags
  case neg => exact ⟨_, handlePacket_of_ignored hsyn hflags⟩
  simp only [handledFlags, List.mem_cons, List.not_mem_nil, or_false] at hflags
  rcases hflags with hflags | hflags | hflags | hflags | hflags | hflags | hflags | hflags | hflags
  · rw [handlePacket_of_ack hflags]
    exact exists_onAck hok
  · rw [handlePacket_of_synAck hflags]
    exact exists_onSynAck hcount hheld hok
  · exact ⟨_, handlePacket_of_fin hflags⟩
  · exact ⟨_, handlePacket_of_finAck hflags⟩
  · rw [handlePacket_of_data hflags]
    exact exists_withChannel hheld _
  · rw [handlePacket_of_dataAck hflags]
    exact exists_withChannel hheld _
  · exact ⟨_, handlePacket_of_ping hflags⟩
  · exact ⟨_, handlePacket_of_pong hflags⟩
  · exact ⟨_, handlePacket_of_rst hflags⟩

theorem exists_handleTimers (hheld : ArraysHeld ctx) :
    ∃ ctx', ctx.handleTimers i env = some ctx' := by
  rw [handleTimers]
  dsimp only
  split
  · exact ⟨_, rfl⟩
  · split
    · split <;> exact ⟨_, rfl⟩
    · exact ⟨_, rfl⟩
  · split
    · split <;> exact ⟨_, rfl⟩
    · exact ⟨_, rfl⟩
  · split
    · split <;> exact ⟨_, rfl⟩
    · exact ⟨_, rfl⟩
  · next hest =>
    obtain ⟨chs, hchs⟩ := Option.isSome_iff_exists.1 (hheld i (Or.inl hest))
    rw [hchs]
    exact ⟨_, rfl⟩

/-! ### All steps -/

/-- `glb_send` follows the channel array of an established slot only. -/
theorem exists_glbSend (hheld : ArraysHeld ctx) (info : Glbsendinfo cfg.connectionCount)
    (now : ℕ) : ∃ r, ctx.glbSend info now = some r := by
  rw [glbSend]
  split
  · next i data _ _ =>
    split
    · exact ⟨_, rfl⟩
    split
    · split
      · exact ⟨_, rfl⟩
      split
      · exact ⟨_, rfl⟩
      -- only now is the array followed, and the slot is established
      next hest =>
      obtain ⟨chs, hchs⟩ := Option.isSome_iff_exists.1 (hheld i (Or.inl (not_not.1 hest)))
      rw [hchs]
      exact ⟨_, rfl⟩
    · exact ⟨_, rfl⟩
  · exact ⟨_, rfl⟩

/-- `glb_popdata` follows the channel array whatever the state of the slot. -/
theorem exists_glbPopdata (hheld : ArraysHeld ctx) {info : Glbrecvinfo cfg.connectionCount}
    (hopen : ∀ i, info.con = some i →
      (ctx.connections i).state = .established ∨ (ctx.connections i).state = .finSent) :
    ∃ r, ctx.glbPopdata info = some r := by
  rw [glbPopdata]
  split
  · exact ⟨_, rfl⟩
  next i hcon =>
  split
  · exact ⟨_, rfl⟩
  split
  · obtain ⟨chs, hchs⟩ := Option.isSome_iff_exists.1 (hheld i (hopen i hcon))
    rw [hchs]
    exact ⟨_, rfl⟩
  · exact ⟨_, rfl⟩

/-- **The public functions and the parts of the tick are defined.** -/
theorem exists_step (hcount : 0 < cfg.connectionCount) (hheld : ArraysHeld ctx) {op : Op cfg}
    (hok : op.Provided) (hpop : op.PopsOpen ctx) : ∃ ctx', Step ctx op ctx' := by
  rcases op with now | ⟨i, now⟩ | ⟨info, now⟩ | _ | info | _ | ⟨pkg, from_, env⟩ | ⟨i, env⟩
  · show ∃ ctx', (ctx.glbConnect now).map Prod.snd = some ctx'
    rw [glbConnect, dif_pos hcount]
    dsimp only
    split <;> exact ⟨_, rfl⟩
  · exact ⟨_, rfl⟩
  · obtain ⟨r, hsend⟩ := exists_glbSend hheld info now
    exact ⟨r.2, congrArg (Option.map Prod.snd) hsend⟩
  · exact ⟨_, rfl⟩
  · obtain ⟨r, hpopped⟩ := exists_glbPopdata hheld hpop
    exact ⟨r.2.2, congrArg (Option.map (Prod.snd ∘ Prod.snd)) hpopped⟩
  · exact ⟨_, rfl⟩
  · exact exists_handlePacket hcount hheld hok
  · exact exists_handleTimers hheld

/-- The receive loop is defined, and established and closing connections keep their channels. -/
theorem exists_recvLoop (hcount : 0 < cfg.connectionCount) (rs : List (ReadResult × Env))
    (hok : ∀ r ∈ rs, r.2.MallocOk) (count : ℕ) (hheld : ArraysHeld ctx) :
    ∃ ctx', recvLoop rs count ctx = some ctx' ∧ ArraysHeld ctx' := by
  induction rs generalizing count ctx with
  | nil => exact ⟨ctx, rfl, hheld⟩
  | cons r rs ih =>
    obtain ⟨r, env⟩ := r
    have hrest : ∀ r ∈ rs, r.2.MallocOk := fun q hq ↦ hok q (List.mem_cons_of_mem _ hq)
    by_cases hlimit : count ≥ glbRecvLimitPerTick
    · refine ⟨ctx, ?_, hheld⟩
      simp only [recvLoop, hlimit, if_true]
    simp only [recvLoop, hlimit, if_false]
    rcases r with _ | _ | _ | ⟨pkg, from_⟩
    · exact ⟨ctx, rfl, hheld⟩
    · exact ih hrest count hheld
    · exact ih hrest count hheld
    · have henv : env.MallocOk := hok _ List.mem_cons_self
      obtain ⟨ctx₁, h₁⟩ : ∃ ctx₁, ctx.handlePacket pkg from_ env = some ctx₁ :=
        exists_handlePacket hcount hheld henv
      have hstep : Step ctx (.packet pkg from_ env) ctx₁ := h₁
      dsimp only
      rw [h₁]
      exact ih hrest (count + 1) (arraysHeld_step hheld hstep)

/-- **A whole `glb_tick` is defined.** -/
theorem exists_glbTick (hcount : 0 < cfg.connectionCount) (hheld : ArraysHeld ctx)
    (reads : List (ReadResult × Env)) (hok : ∀ r ∈ reads, r.2.MallocOk)
    (envs : Fin cfg.connectionCount → Env) : ∃ ctx', ctx.glbTick reads envs = some ctx' := by
  obtain ⟨ctx₁, h₁, hheld₁⟩ := exists_recvLoop hcount reads hok 0 hheld
  rw [glbTick, h₁, Option.bind_some]
  clear h₁
  induction List.finRange cfg.connectionCount generalizing ctx₁ with
  | nil => exact ⟨ctx₁, rfl⟩
  | cons i is ih =>
    obtain ⟨ctx₂, h₂⟩ : ∃ ctx₂, ctx₁.handleTimers i (envs i) = some ctx₂ :=
      exists_handleTimers hheld₁
    have hstep : Step ctx₁ (.timers i (envs i)) ctx₂ := h₂
    obtain ⟨ctx', h'⟩ := ih ctx₂ (arraysHeld_step hheld₁ hstep)
    refine ⟨ctx', ?_⟩
    rw [List.foldlM_cons, h₂]
    exact h'

end Glbctx

end Gilberta
