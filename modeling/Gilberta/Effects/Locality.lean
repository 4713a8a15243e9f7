import Gilberta.Effects.Traffic

/-!
# Which slot a step touches

An operation is about at most one slot, `Op.IsAbout`, and every other slot keeps its whole record
(`step_local`). The id generator moves only when a SYN from an unknown address is given a slot
(`generator_step`). What is about one connection only, its routing and its isolation from the
others, is derived from these two facts.
-/

namespace Gilberta

variable {cfg : Glbcfg}

namespace Glbctx

/-- The slot a SYN from this address is about: the one with this address, or else the first closed
one. -/
def synSlot (ctx : Glbctx cfg) (from_ : Glbaddr) : Option (Fin cfg.connectionCount) :=
  match ctx.findConnByAddr from_ with
  | some i => some i
  | none => ctx.findEmptyConn.map Prod.fst

end Glbctx

/-- A packet is about a slot. -/
def Glbpkg.IsAbout (p : Glbpkg) (ctx : Glbctx cfg) (from_ : Glbaddr)
    (i : Fin cfg.connectionCount) : Prop :=
  if p.IsSyn then ctx.synSlot from_ = some i
  else if p.header.ctrlFlags = ctrlFlagSynAck then i.val = 0
  else p.Finds ctx i

theorem Glbpkg.isAbout_of_syn {p : Glbpkg} {ctx : Glbctx cfg} {from_ : Glbaddr}
    {i : Fin cfg.connectionCount} (hsyn : p.IsSyn) :
    p.IsAbout ctx from_ i ↔ ctx.synSlot from_ = some i := by
  rw [IsAbout, if_pos hsyn]

theorem Glbpkg.isAbout_of_synAck {p : Glbpkg} {ctx : Glbctx cfg} {from_ : Glbaddr}
    {i : Fin cfg.connectionCount} (hflags : p.header.ctrlFlags = ctrlFlagSynAck) :
    p.IsAbout ctx from_ i ↔ i.val = 0 := by
  have hsyn : ¬ p.IsSyn := fun hsyn ↦ absurd (hflags.symm.trans hsyn.1) (by decide)
  rw [IsAbout, if_neg hsyn, if_pos hflags]

theorem Glbpkg.isAbout_iff_finds {p : Glbpkg} {ctx : Glbctx cfg} {from_ : Glbaddr}
    {i : Fin cfg.connectionCount} (hsyn : ¬ p.IsSyn)
    (hflags : p.header.ctrlFlags ≠ ctrlFlagSynAck) :
    p.IsAbout ctx from_ i ↔ p.Finds ctx i := by
  rw [IsAbout, if_neg hsyn, if_neg hflags]

/-- An operation is about a slot. -/
def Op.IsAbout (ctx : Glbctx cfg) (i : Fin cfg.connectionCount) : Op cfg → Prop
  | .connect _ => i.val = 0
  | .close j _ | .timers j _ => i = j
  | .send info _ => info.con = some i
  | .popdata info => info.con = some i
  | .pollevent | .readError => False
  | .packet pkg from_ _ => pkg.IsAbout ctx from_ i

/-- Whether an operation calls `glbctx_generateclientid`: it handles a SYN from an unknown address
while there is a closed slot. -/
def Op.generates (ctx : Glbctx cfg) : Op cfg → Bool
  | .packet pkg from_ _ =>
    decide pkg.IsSyn && (ctx.findConnByAddr from_).isNone && ctx.findEmptyConn.isSome
  | .connect _ | .close _ _ | .send _ _ | .pollevent | .popdata _ | .readError | .timers _ _ =>
    false

namespace Glbctx

/-- A slot that was never used. -/
def Unused (con : Glbconn cfg) : Prop := con.peerAddr = ⟨0, 0⟩ ∧ con.state = .closed

/-- Only slots in `P` may have changed, and the id generator has not. -/
structure Within (P : Fin cfg.connectionCount → Prop) (ctx ctx' : Glbctx cfg) : Prop where
  /-- The other slots are as they were. -/
  of_not : ∀ j, ¬ P j → ctx'.connections j = ctx.connections j
  /-- The next id is the same. -/
  clientId : ctx'.clientId = ctx.clientId
  /-- The generation is the same. -/
  clientGen : ctx'.clientGen = ctx.clientGen

variable {ctx ctx' ctx'' : Glbctx cfg} {P : Fin cfg.connectionCount → Prop}
  {i : Fin cfg.connectionCount} {pkg : Glbpkg} {from_ : Glbaddr} {env : Env}

/-! ### The primitives -/

theorem Within.refl (ctx : Glbctx cfg) : Within P ctx ctx := ⟨fun _ _ ↦ rfl, rfl, rfl⟩

theorem Within.trans (h : Within P ctx ctx') (h' : Within P ctx' ctx'') : Within P ctx ctx'' :=
  ⟨fun j hj ↦ (h'.of_not j hj).trans (h.of_not j hj), h'.clientId.trans h.clientId,
    h'.clientGen.trans h.clientGen⟩

theorem within_setCon (hi : P i) (con : Glbconn cfg) : Within P ctx (ctx.setCon i con) := by
  refine ⟨fun j hj ↦ connections_setCon_of_ne _ _ ?_, rfl, rfl⟩
  rintro rfl
  exact hj hi

theorem within_pushEvent (ev : Glbevent cfg.connectionCount) : Within P ctx (ctx.pushEvent ev) :=
  ⟨fun _ _ ↦ rfl, rfl, rfl⟩

theorem within_glbioSend (pkg : Glbpkg) (dest : Glbaddr) (ok : Bool) :
    Within P ctx (ctx.glbioSend pkg dest ok).2 :=
  ⟨fun _ _ ↦ by rw [connections_glbioSend], clientId_glbioSend _ _ _ _, clientGen_glbioSend _ _ _ _⟩

theorem within_setChan (hi : P i) (c : Fin cfg.channelCount) (chan : Glbchannel) :
    Within P ctx (ctx.setChan i c chan) := within_setCon hi _

theorem within_freeConChannels (hi : P i) : Within P ctx (ctx.freeConChannels i).2 := by
  rw [freeConChannels_snd]
  exact ⟨(within_setCon hi _).of_not, rfl, rfl⟩

theorem within_createConChannels (hi : P i) : Within P ctx (ctx.createConChannels i env).2 := by
  rw [createConChannels]
  dsimp only
  split
  · exact ⟨(within_setCon hi _).of_not, rfl, rfl⟩
  · split <;> exact ⟨(within_setCon hi _).of_not, rfl, rfl⟩

theorem within_writeAck (hi : P i) {ack : UInt32} (h : ctx.writeAck i ack = some ctx') :
    Within P ctx ctx' := by
  obtain ⟨chs, -, rfl⟩ := Option.map_eq_some_iff.1 h
  exact within_setCon hi _

theorem within_closeCon (hi : P i) (reason : GlbDisconnectReason) :
    Within P ctx (ctx.closeCon i reason) := by
  rw [closeCon_eq]
  exact ⟨(within_setCon hi _).of_not, rfl, rfl⟩

/-! ### The branches of the receive loop -/

theorem within_openSyn (hi : P i) : Within P ctx (ctx.openSyn i from_ env) := by
  rw [openSyn]
  split
  · exact .refl _
  · exact within_setCon hi _

theorem within_onAck (hP : ∀ i, pkg.Finds ctx i → P i) (h : ctx.onAck pkg env = some ctx') :
    Within P ctx ctx' := by
  rcases hfind : ctx.findConn pkg.header.clientGen pkg.header.clientId with - | i <;>
    simp only [onAck, hfind] at h
  · cases h; exact .refl _
  have hi : P i := hP i hfind
  split at h
  · cases h; exact .refl _
  split at h
  · cases h
  · next ctx₁ hwrite =>
    cases h
    exact (within_setCon hi _).trans <| (within_createConChannels hi).trans <|
      (within_writeAck hi hwrite).trans <| (within_pushEvent _).trans (within_setCon hi _)

theorem within_onSynAck (hP : ∀ i : Fin cfg.connectionCount, i.val = 0 → P i)
    (h : ctx.onSynAck pkg env = some ctx') : Within P ctx ctx' := by
  by_cases hpos : 0 < cfg.connectionCount
  case neg => rw [onSynAck, dif_neg hpos] at h; cases h
  have hi : P ⟨0, hpos⟩ := hP _ rfl
  rw [onSynAck, dif_pos hpos] at h
  obtain ⟨ctx₁, haccept, hreply⟩ := Option.bind_eq_some_iff.1 h
  have h₁ : Within P ctx (ctx.adoptConId ⟨0, hpos⟩ pkg) := by
    rw [adoptConId]
    split
    · exact within_setCon hi _
    · exact .refl _
  have h₂ : Within P (ctx.adoptConId ⟨0, hpos⟩ pkg) ctx₁ := by
    rw [acceptSynAck] at haccept
    split at haccept
    · cases haccept; exact .refl _
    · exact (within_createConChannels hi).trans <| (within_pushEvent _).trans <|
        (within_setCon hi _).trans (within_writeAck hi haccept)
  have h₃ : Within P ctx₁ ctx' := by
    obtain ⟨chs, -, hreply⟩ := Option.map_eq_some_iff.1 hreply
    cases hok : env.sendOk 0 <;> rw [hok] at hreply <;> cases hreply
    · exact ⟨fun _ _ ↦ rfl, rfl, rfl⟩
    · exact ⟨(within_setCon hi _).of_not, rfl, rfl⟩
  exact h₁.trans (h₂.trans h₃)

theorem within_onFin (hP : ∀ i, pkg.Finds ctx i → P i) : Within P ctx (ctx.onFin pkg env) := by
  rcases hfind : ctx.findConn pkg.header.clientGen pkg.header.clientId with - | i <;>
    simp only [onFin, hfind]
  · exact .refl _
  have hi : P i := hP i hfind
  cases env.sendOk 0 with
  | false => exact ⟨fun _ _ ↦ rfl, rfl, rfl⟩
  | true =>
    have hsend : Within P ctx (ctx.glbioSend (glbpkgInit (ctx.connections i).connId
        ctrlFlagFinAck 0) (ctx.connections i).peerAddr true).2 := within_glbioSend _ _ _
    rw [glbioSend_of_ok] at hsend ⊢
    dsimp only at hsend ⊢
    split
    · exact hsend.trans (within_closeCon hi _)
    · exact hsend

theorem within_onFinAck (hP : ∀ i, pkg.Finds ctx i → P i) : Within P ctx (ctx.onFinAck pkg) := by
  rw [onFinAck]
  split
  · exact .refl _
  · next i hfind =>
    split
    · exact within_closeCon (hP i hfind) _
    · exact .refl _

theorem within_onRst (hP : ∀ i, pkg.Finds ctx i → P i) : Within P ctx (ctx.onRst pkg) := by
  rw [onRst]
  split
  · exact .refl _
  · next i hfind =>
    have hi : P i := hP i hfind
    refine Within.trans ?_ ((within_setCon hi _).trans (within_pushEvent _))
    split
    · exact within_freeConChannels hi
    · exact .refl _

theorem within_receiveData (hi : P i) (c : Fin cfg.channelCount) (chan : Glbchannel) :
    Within P ctx (ctx.receiveData i c chan pkg env) := by
  rw [receiveData]
  dsimp only
  split
  · exact within_glbioSend _ _ _
  split
  · exact within_setCon hi _
  · have hset : Within P ctx (ctx.setChan i c
        { chan with rQueue := (chan.rQueue.push pkg).2, ack := chan.ack + 1 }) :=
      within_setChan hi _ _
    refine Within.trans ?_ (within_pushEvent _)
    split
    · exact hset.trans (within_glbioSend _ _ _)
    · exact hset

theorem within_onData (hP : ∀ i, pkg.Finds ctx i → P i) (h : ctx.onData pkg from_ env = some ctx') :
    Within P ctx ctx' := by
  rcases withChannel_eq_some h with rfl | ⟨i, c, chs, hfind, -, -, -, rfl⟩
  · exact .refl _
  have hi : P i := hP i hfind
  rw [checkAddrData]
  split
  · split
    · exact (within_setCon hi _).trans ((within_pushEvent _).trans (within_receiveData hi _ _))
    · exact .refl _
  · exact within_receiveData hi _ _

theorem within_onDataAck (hP : ∀ i, pkg.Finds ctx i → P i) (h : ctx.onDataAck pkg = some ctx') :
    Within P ctx ctx' := by
  rcases withChannel_eq_some h with rfl | ⟨i, c, chs, hfind, -, -, -, rfl⟩
  · exact .refl _
  split
  · split
    · exact within_setChan (hP i hfind) _ _
    · exact .refl _
  · exact .refl _

theorem within_onPong (hP : ∀ i, pkg.Finds ctx i → P i) : Within P ctx (ctx.onPong pkg env) := by
  rw [onPong]
  split
  · exact .refl _
  · next i hfind => exact within_setCon (hP i hfind) _

/-- A packet that is no SYN changes only the slot it is about. -/
theorem within_handlePacket (hsyn : ¬ pkg.IsSyn)
    (h : ctx.handlePacket pkg from_ env = some ctx') :
    Within (pkg.IsAbout ctx from_) ctx ctx' := by
  have hfind : pkg.header.ctrlFlags ≠ ctrlFlagSynAck →
      ∀ i, pkg.Finds ctx i → pkg.IsAbout ctx from_ i :=
    fun hflags i hi ↦ (Glbpkg.isAbout_iff_finds hsyn hflags).2 hi
  cases handlePacket_cases h with
  | syn hsyn' => exact absurd hsyn' hsyn
  | ack hflags h => exact within_onAck (hfind (by rw [hflags]; decide)) h
  | synAck hflags h =>
    exact within_onSynAck (fun i hi ↦ (Glbpkg.isAbout_of_synAck hflags).2 hi) h
  | fin hflags => exact within_onFin (hfind (by rw [hflags]; decide))
  | finAck hflags => exact within_onFinAck (hfind (by rw [hflags]; decide))
  | data hflags h => exact within_onData (hfind (by rw [hflags]; decide)) h
  | dataAck hflags h => exact within_onDataAck (hfind (by rw [hflags]; decide)) h
  | ping => exact within_glbioSend _ _ _
  | pong hflags => exact within_onPong (hfind (by rw [hflags]; decide))
  | rst hflags => exact within_onRst (hfind (by rw [hflags]; decide))
  | ignored => exact .refl _

/-! ### The timers -/

theorem within_retrySend (hi : P i) : Within P ctx (ctx.retrySend i pkg env) :=
  (within_glbioSend _ _ _).trans (within_setCon hi _)

theorem within_countTransmission (hi : P i) (c : Fin cfg.channelCount) (chan : Glbchannel)
    (now : ℕ) : Within P ctx (ctx.countTransmission i c chan pkg now) := by
  rw [countTransmission]
  dsimp only
  split
  · exact (within_setChan hi _ _).trans ((within_setCon hi _).trans (within_pushEvent _))
  · exact within_setChan hi _ _

theorem within_transmit (hi : P i) (c : Fin cfg.channelCount) :
    Within P ctx (ctx.transmit i env c) := by
  rw [transmit]
  split
  · exact .refl _
  · dsimp only
    split
    · split
      · split
        · exact (within_glbioSend _ _ _).trans (within_setChan hi _ _)
        · exact (within_glbioSend _ _ _).trans (within_countTransmission hi _ _ _)
      · exact .refl _
    · exact .refl _

theorem within_foldl_transmit (hi : P i) (ctx : Glbctx cfg) (cs : List (Fin cfg.channelCount)) :
    Within P ctx (cs.foldl (fun ctx c ↦ ctx.transmit i env c) ctx) := by
  induction cs generalizing ctx with
  | nil => exact .refl _
  | cons c cs ih => exact (within_transmit hi c).trans (ih _)

theorem within_keepaliveTimer (hi : P i) : Within P ctx (ctx.keepaliveTimer i env) := by
  rw [keepaliveTimer]
  dsimp only
  split
  · split
    · exact within_closeCon hi _
    · exact (within_glbioSend _ _ _).trans (within_setCon hi _)
  · exact .refl _

theorem within_handleTimers (hi : P i) (h : ctx.handleTimers i env = some ctx') :
    Within P ctx ctx' := by
  cases handleTimers_cases h with
  | idle => exact .refl _
  | syn | synAck | fin => exact within_retrySend hi
  | gaveUp => exact (within_setCon hi _).trans (within_pushEvent _)
  | dropped => exact within_setCon hi _
  | closed => exact within_closeCon hi _
  | established => exact (within_foldl_transmit hi ctx _).trans (within_keepaliveTimer hi)

/-! ### The whole step -/

/-- A SYN that finds no slot with its address and no closed one, or a slot that is known already,
moves no generator. -/
theorem onSyn_of_not_generates
    (hfind : ctx.findConnByAddr from_ = none → ctx.findEmptyConn = none) :
    Within (fun i ↦ ctx.synSlot from_ = some i) ctx (ctx.onSyn pkg from_ env) := by
  rcases haddr : ctx.findConnByAddr from_ with - | i
  · rcases hempty : ctx.findEmptyConn with - | r
    · simp only [onSyn, haddr, hempty]
      exact within_glbioSend _ _ _
    · rw [hfind haddr] at hempty
      cases hempty
  · simp only [onSyn, haddr]
    refine within_openSyn ?_
    rw [synSlot, haddr]

/-- A SYN that takes a closed slot: nothing but this slot and the generator changes. -/
theorem onSyn_of_generates {ctx₁ : Glbctx cfg} (haddr : ctx.findConnByAddr from_ = none)
    (hempty : ctx.findEmptyConn = some (i, ctx₁)) :
    (∀ j, j ≠ i → (ctx.onSyn pkg from_ env).connections j = ctx.connections j) ∧
    ((ctx.onSyn pkg from_ env).connections i).connId = ctx.nextConId ∧
    ((ctx.onSyn pkg from_ env).connections i).state = .synRcvd ∧
    (ctx.onSyn pkg from_ env).clientGen = ctx.clientGen ∧
    (ctx.onSyn pkg from_ env).clientId =
      if ctx.clientId + 1 = 0xFFFF then 0 else ctx.clientId + 1 := by
  obtain ⟨hclosed, rfl⟩ := findEmptyConn_eq_some hempty
  simp only [onSyn, haddr, hempty]
  rw [openSyn_of_ne (by simp [generateSeq, generateClientId_eq, hclosed])]
  simp only [generateSeq, generateClientId_eq]
  refine ⟨fun j hj ↦ ?_, ?_, ?_, rfl, rfl⟩
  · simp [connections_setCon_of_ne, hj]
  · simp only [connections_setCon_self]
    rfl
  · simp only [connections_setCon_self]

theorem generates_packet_iff : (Op.packet pkg from_ env : Op cfg).generates ctx = true ↔
    pkg.IsSyn ∧ ctx.findConnByAddr from_ = none ∧ ctx.findEmptyConn.isSome = true := by
  simp [Op.generates, and_assoc]

/-- Every operation but a SYN that takes a closed slot leaves the generator alone and changes only
the slot it is about. -/
theorem step_within {op : Op cfg} (hgen : op.generates ctx = false) (h : Step ctx op ctx') :
    Within (fun i ↦ op.IsAbout ctx i) ctx ctx' := by
  cases op with
  | connect now =>
    obtain ⟨⟨code, ctx₁⟩, hconnect, rfl⟩ := Option.map_eq_some_iff.1 h
    rw [glbConnect] at hconnect
    split at hconnect
    · next hpos =>
      have hi : (Op.connect now : Op cfg).IsAbout ctx ⟨0, hpos⟩ := rfl
      rcases haddr : cfg.inetAddr with - | addr <;> simp only [haddr] at hconnect <;>
        cases hconnect
      · exact Within.trans (within_setCon hi _) (within_setCon hi _)
      · exact Within.trans (within_setCon hi _) (within_setCon hi _)
    · cases hconnect
  | close i now =>
    cases h
    rw [glbClose]
    split
    · exact .refl _
    · exact within_setCon (P := fun j ↦ (Op.close i now : Op cfg).IsAbout ctx j) rfl _
  | send info now =>
    obtain ⟨⟨code, ctx₁⟩, hsend, rfl⟩ := Option.map_eq_some_iff.1 h
    cases glbSend_effect hsend with
    | refused => exact ⟨fun _ _ ↦ rfl, rfl, rfl⟩
    | queued hcon =>
      exact within_setChan (P := fun j ↦ (Op.send info now : Op cfg).IsAbout ctx j) hcon _ _
  | pollevent =>
    cases h
    rw [glbPollevent]
    split
    · exact ⟨fun _ _ ↦ rfl, rfl, rfl⟩
    · exact .refl _
  | popdata info =>
    obtain ⟨⟨code, data, ctx₁⟩, hpop, rfl⟩ := Option.map_eq_some_iff.1 h
    cases glbPopdata_effect hpop with
    | failed => exact .refl _
    | popped hcon =>
      exact within_setChan (P := fun j ↦ (Op.popdata info : Op cfg).IsAbout ctx j) hcon _ _
  | readError => cases h; exact ⟨fun _ _ ↦ rfl, rfl, rfl⟩
  | packet pkg from_ env =>
    by_cases hsyn : pkg.IsSyn
    · -- a SYN is about the slot it is answered for, which it need not name
      obtain rfl := onSyn_eq_of_handled h hsyn
      have habout : (fun i ↦ (Op.packet pkg from_ env : Op cfg).IsAbout ctx i) =
          fun i ↦ ctx.synSlot from_ = some i := by
        funext i
        exact propext (Glbpkg.isAbout_of_syn hsyn)
      rw [habout]
      refine onSyn_of_not_generates ?_
      simpa [Op.generates, hsyn] using hgen
    · exact within_handlePacket hsyn h
  | timers i env =>
    exact within_handleTimers (P := fun j ↦ (Op.timers i env : Op cfg).IsAbout ctx j) rfl h

/-- **A step changes only the slot it is about.** -/
theorem step_local {op : Op cfg} (h : Step ctx op ctx') (hnot : ¬ op.IsAbout ctx i) :
    ctx'.connections i = ctx.connections i := by
  cases hgen : op.generates ctx with
  | false => exact (step_within hgen h).of_not i hnot
  | true =>
    cases op with
    | packet pkg from_ env =>
      obtain ⟨hsyn, haddr, hsome⟩ := generates_packet_iff.1 hgen
      obtain ⟨⟨j, ctx₁⟩, hempty⟩ := Option.isSome_iff_exists.1 hsome
      obtain rfl := onSyn_eq_of_handled h hsyn
      refine (onSyn_of_generates haddr hempty).1 i ?_
      rintro rfl
      refine hnot ((Glbpkg.isAbout_of_syn hsyn).2 ?_)
      rw [synSlot, haddr, hempty]
      rfl
    | _ => cases hgen

/-- **The id generator moves only when a SYN takes a closed slot.** -/
theorem generator_step {op : Op cfg} (h : Step ctx op ctx') :
    ctx'.clientGen = ctx.clientGen ∧ ctx'.clientId =
      if op.generates ctx then (if ctx.clientId + 1 = 0xFFFF then 0 else ctx.clientId + 1)
      else ctx.clientId := by
  cases hgen : op.generates ctx with
  | false => exact ⟨(step_within hgen h).clientGen, (step_within hgen h).clientId⟩
  | true =>
    cases op with
    | packet pkg from_ env =>
      obtain ⟨hsyn, haddr, hsome⟩ := generates_packet_iff.1 hgen
      obtain ⟨⟨j, ctx₁⟩, hempty⟩ := Option.isSome_iff_exists.1 hsome
      obtain rfl := onSyn_eq_of_handled h hsyn
      exact (onSyn_of_generates haddr hempty).2.2.2
    | _ => cases hgen

end Glbctx

end Gilberta
