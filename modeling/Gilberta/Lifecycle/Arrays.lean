import Gilberta.Effects.Step

/-!
# When a slot has channels

`glb_popdata` follows `con->channels` without a test, so whether a call is safe is whether the slot
has a channel array. A run decides this by its transitions: an array is built when the slot becomes
established, or when a SYN|ACK is handled before that, and it goes when a closing packet or timer
closes the slot, or when a SYN from a new address takes a closed slot over (`hasArray_iff_since`).

A slot that is established or closing always has its array (`hasArray_of_open`). The converse is
false on both sides of the interval: see `Lifecycle.Ownership`.
-/

namespace Gilberta

variable {cfg : Glbcfg}

namespace Glbctx

/-- A transition builds a channel array for slot `i`: the slot becomes established, or a SYN|ACK
is handled while it is slot 0 and not established. -/
def Builds (i : Fin cfg.connectionCount) (x : Transition cfg) : Prop :=
  (x.1.connections i).state ≠ .established ∧
    ((x.2.2.connections i).state = .established ∨ x.2.1.Handles ctrlFlagSynAck ∧ i.val = 0)

/-- A transition takes the channel array of slot `i` away: a closing packet or timer closes the
slot, or a SYN from an address that no slot has opens it while it is closed. -/
def Frees (i : Fin cfg.connectionCount) (x : Transition cfg) : Prop :=
  ((x.1.connections i).state ≠ .closed ∧ (x.2.2.connections i).state = .closed ∧
    ∃ reason, Closes x.1 i x.2.1 reason) ∨
  ((x.1.connections i).state = .closed ∧ (x.2.2.connections i).state = .synRcvd ∧
    ∃ pkg from_ env, x.2.1 = .packet pkg from_ env ∧ x.1.findConnByAddr from_ = none)

variable {ctx ctx' : Glbctx cfg} {op : Op cfg} {i : Fin cfg.connectionCount}

/-! ### One step -/

/-- A SYN|ACK builds an array whenever slot 0 is not established. -/
theorem hasArray_of_synAck (h : Step ctx op ctx') (hflags : op.Handles ctrlFlagSynAck)
    (hi : i.val = 0) (hstate : (ctx.connections i).state ≠ .established) :
    (ctx'.connections i).channels.isSome := by
  cases op with
  | packet pkg from_ env =>
    obtain ⟨chs, a', -, hb⟩ := becomes_of_synAck h hflags hi hstate
    rw [hb.self]
    rfl
  | _ => exact absurd hflags id

theorem not_frees_of_state (hstate : (ctx'.connections i).state = (ctx.connections i).state) :
    ¬ Frees i (ctx, op, ctx') := by
  rintro (⟨hne, heq, -⟩ | ⟨heq, heq', -⟩)
  · exact hne (hstate ▸ heq)
  · dsimp only at heq heq'
    rw [hstate, heq] at heq'
    cases heq'

theorem not_builds_of_state (hstate : (ctx'.connections i).state = (ctx.connections i).state)
    (hsynAck : ¬ (op.Handles ctrlFlagSynAck ∧ i.val = 0 ∧
      (ctx.connections i).state ≠ .established)) : ¬ Builds i (ctx, op, ctx') := by
  rintro ⟨hne, heq | ⟨hflags, hi⟩⟩
  · exact hne (hstate ▸ heq)
  · exact hsynAck ⟨hflags, hi, hne⟩

/-- Apart from the SYN|ACK, only a step that ends in ESTABLISHED builds an array. -/
theorem not_builds_of_ne (hstate : (ctx'.connections i).state ≠ .established)
    (hsynAck : ¬ (op.Handles ctrlFlagSynAck ∧ i.val = 0 ∧
      (ctx.connections i).state ≠ .established)) : ¬ Builds i (ctx, op, ctx') := by
  rintro ⟨hne, hest | ⟨hflags, hi⟩⟩
  · exact hstate hest
  · exact hsynAck ⟨hflags, hi, hne⟩

/-- Only a step that ends in CLOSED or SYN_RCVD takes an array away. -/
theorem not_frees_of_ne (hclosed : (ctx'.connections i).state ≠ .closed)
    (hrcvd : (ctx'.connections i).state ≠ .synRcvd) : ¬ Frees i (ctx, op, ctx') := by
  rintro (⟨-, heq, -⟩ | ⟨-, heq, -⟩)
  · exact hclosed heq
  · exact hrcvd heq

/-- Nor does one that closes the slot for another cause. -/
theorem not_frees_of_cause (hcause : ∀ reason, ¬ Closes ctx i op reason)
    (hrcvd : (ctx'.connections i).state ≠ .synRcvd) : ¬ Frees i (ctx, op, ctx') := by
  rintro (⟨-, -, reason, hcloses⟩ | ⟨-, heq, -⟩)
  · exact hcause reason hcloses
  · exact hrcvd heq

/-- The timers of SYN_SENT and SYN_RCVD close without a cause. -/
theorem not_closes_of_timers {env : Env} (hest : (ctx.connections i).state ≠ .established)
    (hfin : (ctx.connections i).state ≠ .finSent) (reason : GlbDisconnectReason) :
    ¬ Closes ctx i (.timers i env) reason := by
  rintro ⟨⟩
  next hstate => exact hstate.elim hest hfin

/-- Neither does an RST for a slot that is not established. -/
theorem not_closes_of_rst {pkg : Glbpkg} {from_ : Glbaddr} {env : Env}
    (hflags : pkg.header.ctrlFlags = ctrlFlagRst)
    (hstate : (ctx.connections i).state ≠ .established) (reason : GlbDisconnectReason) :
    ¬ Closes ctx i (.packet pkg from_ env) reason := by
  intro hcause
  cases hcause with
  | fin hflags' => exact absurd (hflags.symm.trans hflags') (by decide)
  | finAck hflags' => exact absurd (hflags.symm.trans hflags') (by decide)
  | rst _ _ hest => exact hstate hest

/-- A step that neither builds nor frees keeps what there was. -/
theorem hasArray_of_kept (hbuilds : ¬ Builds i (ctx, op, ctx'))
    (hfrees : ¬ Frees i (ctx, op, ctx'))
    (hsome : (ctx'.connections i).channels.isSome = (ctx.connections i).channels.isSome) :
    (ctx'.connections i).channels.isSome ↔ Builds i (ctx, op, ctx') ∨
      ((ctx.connections i).channels.isSome ∧ ¬ Frees i (ctx, op, ctx')) := by
  rw [hsome]
  tauto

/-- A step that frees and does not build leaves nothing. -/
theorem hasArray_of_freed (hbuilds : ¬ Builds i (ctx, op, ctx'))
    (hfrees : Frees i (ctx, op, ctx')) (hnone : (ctx'.connections i).channels = none) :
    (ctx'.connections i).channels.isSome ↔ Builds i (ctx, op, ctx') ∨
      ((ctx.connections i).channels.isSome ∧ ¬ Frees i (ctx, op, ctx')) := by
  rw [hnone]
  exact iff_of_false (by simp) (by tauto)

/-- Nor does one into SYN_SENT or FIN_SENT. -/
theorem hasArray_of_sent (hstate : (ctx'.connections i).state = .synSent ∨
      (ctx'.connections i).state = .finSent)
    (hsynAck : ¬ (op.Handles ctrlFlagSynAck ∧ i.val = 0 ∧ (ctx.connections i).state ≠ .established))
    (hsome : (ctx'.connections i).channels.isSome = (ctx.connections i).channels.isSome) :
    (ctx'.connections i).channels.isSome ↔ Builds i (ctx, op, ctx') ∨
      ((ctx.connections i).channels.isSome ∧ ¬ Frees i (ctx, op, ctx')) := by
  have hne : (ctx'.connections i).state ≠ .established ∧ (ctx'.connections i).state ≠ .closed ∧
      (ctx'.connections i).state ≠ .synRcvd := by
    rcases hstate with h | h <;> rw [h] <;> decide
  exact hasArray_of_kept (not_builds_of_ne hne.1 hsynAck) (not_frees_of_ne hne.2.1 hne.2.2) hsome

/-- Nor does one into CLOSED that is not for one of the causes. -/
theorem hasArray_of_uncaused (hstate : (ctx'.connections i).state = .closed)
    (hcause : ∀ reason, ¬ Closes ctx i op reason)
    (hsynAck : ¬ (op.Handles ctrlFlagSynAck ∧ i.val = 0 ∧ (ctx.connections i).state ≠ .established))
    (hsome : (ctx'.connections i).channels.isSome = (ctx.connections i).channels.isSome) :
    (ctx'.connections i).channels.isSome ↔ Builds i (ctx, op, ctx') ∨
      ((ctx.connections i).channels.isSome ∧ ¬ Frees i (ctx, op, ctx')) := by
  have hne : (ctx'.connections i).state ≠ .established ∧
      (ctx'.connections i).state ≠ .synRcvd := by
    rw [hstate]
    decide
  exact hasArray_of_kept (not_builds_of_ne hne.1 hsynAck) (not_frees_of_cause hcause hne.2) hsome

/-- What a step does to the channel array of a slot. -/
theorem hasArray_step (h : Step ctx op ctx') (i : Fin cfg.connectionCount) :
    (ctx'.connections i).channels.isSome ↔
      Builds i (ctx, op, ctx') ∨
        ((ctx.connections i).channels.isSome ∧ ¬ Frees i (ctx, op, ctx')) := by
  by_cases hsynAck : op.Handles ctrlFlagSynAck ∧ i.val = 0 ∧
      (ctx.connections i).state ≠ .established
  · obtain ⟨hflags, hi, hstate⟩ := hsynAck
    exact iff_of_true (hasArray_of_synAck h hflags hi hstate)
      (Or.inl ⟨hstate, Or.inr ⟨hflags, hi⟩⟩)
  have hsame : (ctx'.connections i).state = (ctx.connections i).state →
      (ctx'.connections i).channels.isSome = (ctx.connections i).channels.isSome →
      ((ctx'.connections i).channels.isSome ↔ Builds i (ctx, op, ctx') ∨
        ((ctx.connections i).channels.isSome ∧ ¬ Frees i (ctx, op, ctx'))) := fun hstate ↦
    hasArray_of_kept (not_builds_of_state hstate hsynAck) (not_frees_of_state hstate)
  rcases slot_effect h i with hlife | ⟨a', evs, hchange⟩
  · exact hsame hlife.state hlife.channels_isSome
  obtain ⟨con', hself⟩ : ∃ con', ctx'.connections i = con' := ⟨_, rfl⟩
  rw [hself] at hchange
  cases hchange with
  | connected hi =>
    rcases haddr : cfg.inetAddr.isSome with - | -
    · -- the address cannot be parsed: the state stays
      exact hsame (by rw [hself, haddr]; rfl) (by rw [hself])
    · exact hasArray_of_sent (Or.inl (by rw [hself, haddr]; rfl)) hsynAck (by rw [hself])
  | finSent => exact hasArray_of_sent (Or.inr (by rw [hself])) hsynAck (by rw [hself])
  | reopened hsyn hfind hstate =>
    refine hasArray_of_kept (not_builds_of_ne (by simp [hself]) hsynAck) ?_ (by rw [hself])
    rintro (⟨-, hclosed, -⟩ | ⟨-, -, pkg', from_', env', hop, hnone⟩)
    · rw [hself] at hclosed
      cases hclosed
    · cases hop
      rw [hnone] at hfind
      cases hfind
  | @opened pkg from_ env _ hsyn hfind hstate hstate' hchannels =>
    have hfrees : Frees i (ctx, Op.packet pkg from_ env, ctx') :=
      Or.inr ⟨hstate, by rw [hself, hstate'], pkg, from_, env, rfl, hfind⟩
    exact hasArray_of_freed (not_builds_of_ne (by simp [hself, hstate']) hsynAck) hfrees
      (by rw [hself, hchannels])
  | @accepted pkg from_ env _ _ _ hflags hfind hstate hnew =>
    have hbuilds : Builds i (ctx, Op.packet pkg from_ env, ctx') :=
      ⟨by rw [hstate]; decide, Or.inl (by rw [hself])⟩
    rw [hself]
    exact iff_of_true rfl (Or.inl hbuilds)
  | synAcked hflags hi hstate hnew => exact absurd ⟨hflags, hi, hstate⟩ hsynAck
  | @closed _ reason _ _ hcause hstate hstate' hchannels =>
    have hfrees : Frees i (ctx, op, ctx') :=
      Or.inl ⟨hstate, by rw [hself, hstate'], reason, hcause⟩
    exact hasArray_of_freed (not_builds_of_ne (by simp [hself, hstate']) hsynAck) hfrees
      (by rw [hself, hchannels])
  | reset hflags hfind hstate =>
    -- the RST of a slot that is not established closes it and leaves the array
    exact hasArray_of_uncaused (by rw [hself]) (not_closes_of_rst hflags hstate) hsynAck
      (by rw [hself])
  | gaveUp hstate =>
    exact hasArray_of_uncaused (by rw [hself])
      (not_closes_of_timers (by simp [hstate]) (by simp [hstate])) hsynAck (by rw [hself])
  | dropped hstate =>
    exact hasArray_of_uncaused (by rw [hself])
      (not_closes_of_timers (by simp [hstate]) (by simp [hstate])) hsynAck (by rw [hself])

/-! ### Whole runs -/

/-- **When a slot has channels**: an array was built for it and none of the steps since took it
away. -/
theorem hasArray_iff_since {ts : List (Transition cfg)} (hrun : Run ts ctx)
    (i : Fin cfg.connectionCount) :
    (ctx.connections i).channels.isSome ↔ Since (Builds i) (Frees i) ts := by
  refine hrun.invariant (I := fun ts ctx ↦
    (ctx.connections i).channels.isSome ↔ Since (Builds i) (Frees i) ts) (C := fun _ ↦ True)
    (fun ts t a u hI hstep _ ↦ ?_) ?_ (by simp)
  · rw [hasArray_step hstep i, hI, since_append_singleton]
  · exact iff_of_false (by simp [init, zeroCon]) (not_since_nil _ _)

/-- A slot that is established or closing has its channels. -/
def ArraysHeld (ctx : Glbctx cfg) : Prop :=
  ∀ i, (ctx.connections i).state = .established ∨ (ctx.connections i).state = .finSent →
    (ctx.connections i).channels.isSome

theorem arraysHeld_init : ArraysHeld (init cfg) := by
  intro i hopen
  rcases hopen with h | h <;> cases h

theorem arraysHeld_step (hI : ArraysHeld ctx) (h : Step ctx op ctx') : ArraysHeld ctx' := by
  intro i hopen
  rcases slot_effect h i with hsame | ⟨a', evs, hchange⟩
  · rw [hsame.channels_isSome]
    rw [hsame.state] at hopen
    exact hI i hopen
  generalize ctx'.connections i = con' at hopen hchange ⊢
  cases hchange with
  | connected hi =>
    -- the array stays, and where the address can be parsed the slot is in SYN_SENT
    cases haddr : cfg.inetAddr.isSome <;> simp only [haddr] at hopen
    · exact hI i hopen
    · rcases hopen with h | h <;> cases h
  | finSent hstate => exact hI i (Or.inl hstate)
  | accepted => rfl
  | synAcked => rfl
  | opened _ _ _ hstate' => rw [hstate'] at hopen; rcases hopen with h | h <;> cases h
  | closed _ _ hstate' => rw [hstate'] at hopen; rcases hopen with h | h <;> cases h
  | _ => rcases hopen with h | h <;> cases h

theorem arraysHeld_of_run {ts : List (Transition cfg)} (hrun : Run ts ctx) : ArraysHeld ctx :=
  (hrun.invariant_of_state (C := fun _ ↦ True) (fun _ _ _ hI hstep _ ↦ arraysHeld_step hI hstep)
    arraysHeld_init (by simp)).1

/-! ### `glb_popdata` -/

/-- A call that passes the checks of `glb_popdata` has a result exactly when the slot has
channels. -/
theorem glbPopdata_isSome_iff {info : Glbrecvinfo cfg.connectionCount}
    (hcon : info.con = some i) (hbuffer : info.hasBuffer = true) (hbuflen : info.buflen ≠ 0)
    (hchannel : info.channelId.toNat < cfg.channelCount) :
    (ctx.glbPopdata info).isSome ↔ (ctx.connections i).channels.isSome := by
  simp only [glbPopdata, hcon, hbuffer, hbuflen, hchannel, Bool.not_true, decide_false,
    Bool.or_self, Bool.false_eq_true, if_false, dif_pos, Option.isSome_map]

/-- **Polling data is safe exactly while the slot keeps an array**: a `glb_popdata` call that
passes its own checks has a result if and only if some step of the run built an array for the slot
and none of the steps since took it away. -/
theorem popdata_safe_iff {ts : List (Transition cfg)} (hrun : Run ts ctx)
    {info : Glbrecvinfo cfg.connectionCount} (hcon : info.con = some i)
    (hbuffer : info.hasBuffer = true) (hbuflen : info.buflen ≠ 0)
    (hchannel : info.channelId.toNat < cfg.channelCount) :
    (ctx.glbPopdata info).isSome ↔ Since (Builds i) (Frees i) ts := by
  rw [glbPopdata_isSome_iff hcon hbuffer hbuflen hchannel]
  exact hasArray_iff_since hrun i

/-- In particular it is safe on every connection that is established or closing. -/
theorem popdata_safe_of_open {ts : List (Transition cfg)} (hrun : Run ts ctx)
    {info : Glbrecvinfo cfg.connectionCount} (hcon : info.con = some i)
    (hbuffer : info.hasBuffer = true) (hbuflen : info.buflen ≠ 0)
    (hchannel : info.channelId.toNat < cfg.channelCount)
    (hopen : (ctx.connections i).state = .established ∨ (ctx.connections i).state = .finSent) :
    (ctx.glbPopdata info).isSome :=
  (glbPopdata_isSome_iff hcon hbuffer hbuflen hchannel).2 (arraysHeld_of_run hrun i hopen)

/-! ### Data, then a FIN, in one tick -/

/-- A server accepts a connection; then one tick handles a message and a FIN; then the application
polls the CONNECT event. The RECEIVE event is next. -/
def dataThenFin : List (Op Glbcfg.sampleServer) :=
  [.packet (glbpkgInit ⟨0xFFFF, 0⟩ ctrlFlagSyn 0) ⟨0x0100007F, 0x1234⟩ (Env.at 1),
    .packet (glbpkgInit ⟨1, 0⟩ ctrlFlagAck 0) ⟨0x0100007F, 0x1234⟩ (Env.at 2),
    .packet (glbpkgInit ⟨1, 0⟩ ctrlFlagData 0) ⟨0x0100007F, 0x1234⟩ (Env.at 3),
    .packet (glbpkgInit ⟨1, 0⟩ ctrlFlagFin 0) ⟨0x0100007F, 0x1234⟩ (Env.at 3),
    .pollevent]

/-- What the application asks for when it polls the RECEIVE event of `dataThenFin`. -/
def recvinfoAfterFin : Glbrecvinfo Glbcfg.sampleServer.connectionCount where
  hasBuffer := true
  con := some ⟨0, by decide⟩
  buflen := 1024
  channelId := 0

/-- Polling received data is not always safe: in `dataThenFin` the event at the head of the queue
is a RECEIVE, and the call it asks for follows a `NULL` channel array. -/
theorem not_always_popdata_safe : ¬ ∀ (cfg : Glbcfg) (ts : List (Transition cfg))
    (ctx : Glbctx cfg), Run ts ctx → ∀ (info : Glbrecvinfo cfg.connectionCount)
    (i : Fin cfg.connectionCount), info.con = some i → info.hasBuffer = true →
    info.buflen ≠ 0 → info.channelId.toNat < cfg.channelCount →
    (ctx.glbPopdata info).isSome := by
  intro h
  have hpop : (Execution.perform step dataThenFin (init _)).map (fun r ↦
      (r.2.glbPollevent.2.1, (r.2.glbPopdata recvinfoAfterFin).isSome)) =
      some (some (.receive ⟨0, by decide⟩ 0), false) := by decide
  obtain ⟨r, hr, hmap⟩ := Option.map_eq_some_iff.1 hpop
  have hsafe := h _ _ _ (run_of_perform hr) recvinfoAfterFin ⟨0, by decide⟩ rfl rfl (by decide)
    (by decide)
  rw [(Prod.mk.inj hmap).2] at hsafe
  cases hsafe

/-- Before the FIN the call is safe: the ACK built an array and nothing took it away. -/
theorem popdata_safe_before_fin : ∃ ts ctx, @Run Glbcfg.sampleServer ts ctx ∧
    ts.length = 3 ∧ (ctx.glbPopdata recvinfoAfterFin).isSome ∧
    Since (Builds ⟨0, by decide⟩) (Frees ⟨0, by decide⟩) ts := by
  have hsafe : (Execution.perform step (dataThenFin.take 3) (init _)).map (fun r ↦
      (r.1.length, (r.2.glbPopdata recvinfoAfterFin).isSome)) = some (3, true) := by decide
  obtain ⟨r, hr, hsafe⟩ := Option.map_eq_some_iff.1 hsafe
  obtain ⟨hlen, hsafe⟩ := Prod.mk.inj hsafe
  exact ⟨r.1, r.2, run_of_perform hr, hlen, hsafe,
    (popdata_safe_iff (run_of_perform hr) rfl rfl (by decide) (by decide)).1 hsafe⟩

end Glbctx

end Gilberta
