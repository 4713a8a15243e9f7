import Gilberta.Effects.Life

/-!
# Every step has one of the listed effects

One lemma for each public function and each branch of the tick, in the order of the source, and
`step_effect`, which puts them together. Which branch a packet takes and which part of the timer
loop a slot is served by is said once, by `Handling` and `TimerPass`; later case analyses start from
`handlePacket_cases` and `handleTimers_cases`.
-/

namespace Gilberta

variable {cfg : Glbcfg}

namespace Glbctx

variable {ctx ctx' : Glbctx cfg} {i : Fin cfg.connectionCount} {pkg : Glbpkg} {from_ : Glbaddr}
  {env : Env}

/-! ### Composing changes of one slot -/

theorem Becomes.trans {ctx'' : Glbctx cfg} {con' con'' : Glbconn cfg} {a' a'' : Allocator}
    {evs evs' : List (Glbevent cfg.connectionCount)} (h : ctx.Becomes ctx' i con' a' evs)
    (h' : ctx'.Becomes ctx'' i con'' a'' evs') : ctx.Becomes ctx'' i con'' a'' (evs ++ evs') where
  self := h'.self
  of_ne := fun j hj ↦ (h'.of_ne j hj).trans (h.of_ne j hj)
  allocator := h'.allocator
  block := h'.block.trans h.block
  queueBlock := h'.queueBlock.trans h.queueBlock
  offered := by rw [h'.offered, h.offered, List.append_assoc]
  queue := by rw [h'.queue, h.queue, List.foldl_append]

theorem becomes_setCon (ctx : Glbctx cfg) (i : Fin cfg.connectionCount) (con' : Glbconn cfg) :
    ctx.Becomes (ctx.setCon i con') i con' ctx.allocator [] where
  self := connections_setCon_self _ _ _
  of_ne := fun _ hj ↦ connections_setCon_of_ne _ _ hj
  allocator := rfl
  block := rfl
  queueBlock := rfl
  offered := (List.append_nil _).symm
  queue := rfl

theorem becomes_pushEvent (ctx : Glbctx cfg) (i : Fin cfg.connectionCount)
    (ev : Glbevent cfg.connectionCount) :
    ctx.Becomes (ctx.pushEvent ev) i (ctx.connections i) ctx.allocator [ev] where
  self := rfl
  of_ne := fun _ _ ↦ rfl
  allocator := rfl
  block := rfl
  queueBlock := block_eventqueue_pushEvent _ _
  offered := rfl
  queue := toBoundedQueue_eventqueue_pushEvent _ _

theorem becomes_glbioSend (ctx : Glbctx cfg) (i : Fin cfg.connectionCount) (pkg : Glbpkg)
    (dest : Glbaddr) (ok : Bool) :
    ctx.Becomes (ctx.glbioSend pkg dest ok).2 i (ctx.connections i) ctx.allocator [] where
  self := by rw [connections_glbioSend]
  of_ne := fun _ _ ↦ by rw [connections_glbioSend]
  allocator := allocator_glbioSend _ _ _ _
  block := block_glbioSend _ _ _ _
  queueBlock := by rw [eventqueue_glbioSend]
  offered := by rw [offered_glbioSend, List.append_nil]
  queue := by rw [eventqueue_glbioSend]; rfl

/-- What is quiet before a change of a slot is part of the change. -/
theorem Becomes.of_quiet {ctx'' : Glbctx cfg} {con'' : Glbconn cfg} {a'' : Allocator}
    {evs : List (Glbevent cfg.connectionCount)} {con' : Glbconn cfg}
    (h : ctx.Becomes ctx' i con' ctx.allocator evs)
    (h' : ctx'.Becomes ctx'' i con'' a'' []) : ctx.Becomes ctx'' i con'' a'' evs := by
  simpa using h.trans h'

variable {op : Op cfg}

/-- A change of one slot that is only traffic. -/
def QuietAt (i : Fin cfg.connectionCount) (op : Op cfg) (ctx ctx' : Glbctx cfg) : Prop :=
  ∃ con' evs, ctx.Becomes ctx' i con' ctx.allocator evs ∧ (ctx.connections i).CarriesOn op i con' ∧
    ∀ ev ∈ evs, ev.connection = i ∧ op.MayAnnounce ctx ev

theorem Becomes.refl (ctx : Glbctx cfg) (i : Fin cfg.connectionCount) :
    ctx.Becomes ctx i (ctx.connections i) ctx.allocator [] :=
  ⟨rfl, fun _ _ ↦ rfl, rfl, rfl, rfl, (List.append_nil _).symm, rfl⟩

theorem QuietAt.refl (ctx : Glbctx cfg) : QuietAt i op ctx ctx :=
  ⟨_, [], .refl ctx i, .refl _, by simp⟩

theorem QuietAt.state {ctx' : Glbctx cfg} (h : QuietAt i op ctx ctx') :
    (ctx'.connections i).state = (ctx.connections i).state := by
  obtain ⟨con', evs, hb, hlife, -⟩ := h
  rw [hb.self, hlife.state]

theorem QuietAt.trans {ctx'' : Glbctx cfg} (h : QuietAt i op ctx ctx')
    (h' : QuietAt i op ctx' ctx'') : QuietAt i op ctx ctx'' := by
  have hstate := h.state
  obtain ⟨con', evs, hb, hlife, hevs⟩ := h
  obtain ⟨con'', evs', hb', hlife', hevs'⟩ := h'
  rw [hb.allocator] at hb'
  rw [hb.self] at hlife'
  refine ⟨con'', evs ++ evs', hb.trans hb', hlife.trans hlife', fun ev hev ↦ ?_⟩
  rcases List.mem_append.1 hev with hev | hev
  · exact hevs ev hev
  · obtain ⟨rfl, htraffic, hest, hrecv⟩ := hevs' ev hev
    exact ⟨rfl, htraffic, hstate ▸ hest, hrecv⟩

theorem QuietAt.quiet (h : QuietAt i op ctx ctx') : ctx.Quiet op ctx' := by
  obtain ⟨con', evs, hb, hlife, hevs⟩ := h
  refine ⟨fun j ↦ ?_, hb.allocator, hb.block, hb.queueBlock, evs, fun ev hev ↦ (hevs ev hev).2,
    hb.offered, fun _ ↦ hb.queue⟩
  by_cases hj : j = i
  · rw [hj, hb.self]; exact hlife
  · rw [hb.of_ne j hj]; exact .refl _

theorem quietAt_setCon {con' : Glbconn cfg} (h : (ctx.connections i).CarriesOn op i con') :
    QuietAt i op ctx (ctx.setCon i con') :=
  ⟨con', [], becomes_setCon ctx i con', h, by simp⟩

theorem quietAt_pushEvent (ev : Glbevent cfg.connectionCount) (htraffic : ev.isTraffic = true)
    (hi : ev.connection = i) (hest : (ctx.connections i).state = .established)
    (hrecv : ev.isReceive = true → op.Receives i) : QuietAt i op ctx (ctx.pushEvent ev) :=
  ⟨_, [ev], becomes_pushEvent ctx i ev, .refl _, by
    subst hi; simpa [Op.MayAnnounce] using ⟨htraffic, hest, hrecv⟩⟩

theorem quietAt_glbioSend (pkg : Glbpkg) (dest : Glbaddr) (ok : Bool) :
    QuietAt i op ctx (ctx.glbioSend pkg dest ok).2 :=
  ⟨_, [], becomes_glbioSend ctx i pkg dest ok, .refl _, by simp⟩

/-- Overwriting a channel, in the blocks it has, is quiet if the operation may touch the halves that
change. -/
theorem quietAt_setChan {c : Fin cfg.channelCount} {chan : Glbchannel}
    {chs : Glbchannels cfg.channelCount} (hchs : (ctx.connections i).channels = some chs)
    (h : chan.blocks = (chs.chan c).blocks)
    (hrecv : op.Receives i ∨ chan.recvSide = (chs.chan c).recvSide)
    (hsend : op.Sends i ∨ chan.sendSide = (chs.chan c).sendSide) :
    QuietAt i op ctx (ctx.setChan i c chan) := by
  refine quietAt_setCon ⟨⟨rfl, rfl, rfl, rfl, ?_⟩, fun hr ↦ ?_, fun hs ↦ ?_, Or.inl rfl⟩
  · simp [hchs, Glbchannels.blocks_set h]
  · have hside := Glbchannels.recvSide_set (hrecv.resolve_left hr)
    simp [Glbconn.recvSides, hchs, hside]
  · have hside := Glbchannels.sendSide_set (hsend.resolve_left hs)
    simp [Glbconn.sendSides, hchs, hside]

/-! ### The public functions -/

theorem glbConnect_effect {now : ℕ} (h : ctx.step (.connect now) = some ctx') :
    ctx.Effect (.connect now) ctx' := by
  rw [step, Option.map_eq_some_iff] at h
  obtain ⟨⟨code, ctx''⟩, h, rfl⟩ := h
  by_cases hpos : 0 < cfg.connectionCount
  · have hconnected := fun t retry peerAddr ↦
      @Change.connected cfg ctx ⟨0, hpos⟩ now t peerAddr retry rfl
    rcases haddr : cfg.inetAddr with - | addr <;>
      simp only [glbConnect, hpos, haddr, dif_pos, Option.some.injEq, Prod.mk.injEq, generateSeq,
        setCon_setCon, connections_setCon_self] at h <;>
      obtain ⟨-, rfl⟩ := h
    · refine .change (becomes_setCon _ _ _) ?_
      simpa only [haddr, Option.isSome_none, Bool.false_eq_true, if_false] using
        hconnected (ctx.connections ⟨0, hpos⟩).time (ctx.connections ⟨0, hpos⟩).retry _
    · refine .change (becomes_setCon _ _ _) ?_
      simpa only [haddr, Option.isSome_some, if_true] using hconnected (glbtimeStart now 0) 0 _
  · simp only [glbConnect, hpos, dif_neg, not_false_eq_true] at h
    cases h

theorem glbClose_effect {now : ℕ} : ctx.Effect (.close i now) (ctx.glbClose i now).2 := by
  by_cases hstate : (ctx.connections i).state = .established
  · simp only [glbClose, hstate, ne_eq, not_true_eq_false, if_false]
    exact .change (becomes_setCon _ _ _) (.finSent hstate)
  · simp only [glbClose, hstate, ne_eq, not_false_eq_true, if_true]
    exact .quiet (.refl _)

theorem glbSend_quiet {info : Glbsendinfo cfg.connectionCount} {now : ℕ} {code : GLBErrorCode}
    (h : ctx.glbSend info now = some (code, ctx')) : ctx.Quiet (.send info now) ctx' := by
  rw [glbSend] at h
  split at h
  · next i data hcon hdata =>
    split at h
    · cases h; exact .refl _
    split at h
    · next hc =>
      split at h
      · cases h; exact .of_eq rfl rfl rfl rfl rfl
      split at h
      · cases h; exact .refl _
      obtain ⟨chs, hchs, h⟩ := Option.map_eq_some_iff.1 h
      dsimp only at h
      split at h
      · cases h; exact .refl _
      · next q _ hpush =>
        cases h
        refine QuietAt.quiet (quietAt_setChan hchs ?_ (Or.inr rfl) (Or.inl hcon))
        have hq := congrArg (fun r ↦ r.2.block) hpush
        simp only [Glbqueue.block_push] at hq
        simp [Glbchannel.blocks, ← hq]
    · cases h; exact .refl _
  · cases h; exact .refl _

theorem glbPopdata_quiet {info : Glbrecvinfo cfg.connectionCount}
    {code : GLBErrorCode} {data : List UInt8}
    (h : ctx.glbPopdata info = some (code, data, ctx')) : ctx.Quiet (.popdata info) ctx' := by
  rw [glbPopdata] at h
  split at h
  · cases h; exact .refl _
  next hcon =>
  split at h
  · cases h; exact .refl _
  split at h
  · next hc =>
    obtain ⟨chs, hchs, h⟩ := Option.map_eq_some_iff.1 h
    dsimp only at h
    split at h
    · split at h
      · cases h; exact .refl _
      · cases h
        exact QuietAt.quiet (quietAt_setChan hchs (by simp [Glbchannel.blocks]) (Or.inl hcon)
          (Or.inr rfl))
    · cases h; exact .refl _
  · cases h; exact .refl _

theorem glbPollevent_quiet : ctx.Quiet .pollevent ctx.glbPollevent.2.2 := by
  rw [glbPollevent]
  split
  · exact ⟨fun _ ↦ .refl _, rfl, rfl, Glbqueue.block_pop _, [], by simp,
      (List.append_nil _).symm, fun h ↦ absurd rfl h⟩
  · exact .refl _

/-! ### The handshake branches -/

theorem openSyn_of_ne (h : (ctx.connections i).state ≠ .established) :
    ctx.openSyn i from_ env = ctx.setCon i { ctx.connections i with
      state := .synRcvd
      retry := 0
      rtt := 0
      lossCount := 0
      peerAddr := from_
      time := glbtimeStart (env.clock 0) 0 } := if_neg h

theorem findEmptyConn_eq_some (h : ctx.findEmptyConn = some (i, ctx')) :
    (ctx.connections i).state = .closed ∧ ctx' = ctx.setCon i { ctx.connections i with
      connId := ⟨0, 0⟩, retry := 0, channels := none, time := 0 } := by
  obtain ⟨j, hj, heq⟩ := Option.map_eq_some_iff.1 h
  obtain ⟨rfl, rfl⟩ := Prod.mk.inj heq
  have hclosed := List.find?_some hj
  exact ⟨of_decide_eq_true hclosed, rfl⟩

/-- The id the generator hands out next. -/
def nextConId (ctx : Glbctx cfg) : Glbconid where
  id := ctx.clientId
  generation := if ctx.clientId + 1 = 0xFFFF then ctx.clientGen + 1 else ctx.clientGen

theorem generateClientId_eq (ctx : Glbctx cfg) (i : Fin cfg.connectionCount) :
    ctx.generateClientId i =
      { ctx.setCon i { ctx.connections i with connId := ctx.nextConId } with
        clientId := if ctx.clientId + 1 = 0xFFFF then 0 else ctx.clientId + 1 } := by
  by_cases hid : ctx.clientId + 1 = 0xFFFF
  · simp only [generateClientId, nextConId, hid, if_true]
  · simp only [generateClientId, nextConId, hid, if_false]

/-- A SYN from the address of a slot that is not established reopens the slot. -/
theorem onSyn_of_found (hfind : ctx.findConnByAddr from_ = some i)
    (hstate : (ctx.connections i).state ≠ .established) :
    ctx.onSyn pkg from_ env = ctx.setCon i { ctx.connections i with
      state := .synRcvd
      retry := 0
      rtt := 0
      lossCount := 0
      peerAddr := from_
      time := glbtimeStart (env.clock 0) 0 } := by
  rw [onSyn, hfind]
  exact openSyn_of_ne hstate

/-- A SYN from an unknown address opens the first closed slot. -/
theorem becomes_onSyn_of_unknown {ctx₁ : Glbctx cfg} (haddr : ctx.findConnByAddr from_ = none)
    (hempty : ctx.findEmptyConn = some (i, ctx₁)) : ∃ con',
      ctx.Becomes (ctx.onSyn pkg from_ env) i con' ctx.allocator [] ∧ con'.state = .synRcvd ∧
      con'.channels = none ∧ con'.seq = initialSeq cfg ∧ con'.ack = pkg.header.seq ∧
      con'.connId.id = ctx.clientId ∧ con'.peerAddr = from_ := by
  obtain ⟨hclosed, rfl⟩ := findEmptyConn_eq_some hempty
  simp only [onSyn, haddr, hempty]
  rw [openSyn_of_ne (by simp [generateSeq, generateClientId_eq, hclosed])]
  refine ⟨_, ⟨connections_setCon_self _ _ _, fun j hj ↦ ?_, ?_, ?_, ?_, ?_, ?_⟩, rfl, ?_, ?_, ?_,
    ?_, rfl⟩ <;>
  simp [generateSeq, generateClientId_eq, nextConId, connections_setCon_of_ne, *]

theorem onSyn_effect (hsyn : pkg.IsSyn) :
    ctx.Effect (.packet pkg from_ env) (ctx.onSyn pkg from_ env) := by
  rcases haddr : ctx.findConnByAddr from_ with - | i
  · rcases hempty : ctx.findEmptyConn with - | ⟨i, ctx₁⟩
    · simp only [onSyn, haddr, hempty]
      exact .quiet (quiet_glbioSend _ _ _)
    · have hclosed := (findEmptyConn_eq_some hempty).1
      obtain ⟨con', hb, hstate', hchannels, hseq, hack, hid, hpeer⟩ :=
        becomes_onSyn_of_unknown haddr hempty
      exact .change hb (.opened hsyn haddr hclosed hstate' hchannels hseq hack hid hpeer)
  · by_cases hstate : (ctx.connections i).state = .established
    · simp only [onSyn, haddr, openSyn, hstate, if_true]
      exact .quiet (.refl _)
    · rw [onSyn_of_found haddr hstate]
      exact .change (becomes_setCon _ _ _) (.reopened hsyn haddr hstate)

theorem writeAck_of_some (chs : Glbchannels cfg.channelCount) (ack : UInt32)
    (h : (ctx.connections i).channels = some chs) :
    ctx.writeAck i ack = some (ctx.setCon i { ctx.connections i with
      channels := some (chs.withCounters (ctx.connections i).seq ack) }) := by
  rw [writeAck, h]
  rfl

theorem writeAck_of_none (ack : UInt32) (h : (ctx.connections i).channels = none) :
    ctx.writeAck i ack = none := by
  rw [writeAck, h]
  rfl

/-- The ACK of a slot that waits for it establishes the slot, with new channels. -/
theorem onAck_of_synRcvd (hfind : pkg.Finds ctx i) (hstate : (ctx.connections i).state = .synRcvd)
    (h : ctx.onAck pkg env = some ctx') :
    ∃ chs a', IsNewArray ctx.allocator a' chs ∧ ctx.Becomes ctx' i
      { ctx.connections i with
        state := .established
        channels := some (chs.withCounters (ctx.connections i).seq pkg.header.seq)
        keepaliveRetry := 0
        keepalive := glbtimeStart (env.clock 0) glbKeepaliveTime } a' [.connect i] := by
  have hfind : ctx.findConn pkg.header.clientGen pkg.header.clientId = some i := hfind
  simp only [onAck, hfind] at h
  rw [if_neg (not_not.2 hstate)] at h
  rcases createConChannels_spec (ctx.setCon i { ctx.connections i with state := .established })
    i env with ⟨-, hnone⟩ | ⟨chs, a', hnew, heq⟩
  · rw [writeAck_of_none _ hnone] at h
    cases h
  · rw [heq, writeAck_of_some chs _ (by simp)] at h
    cases h
    refine ⟨chs, a', hnew, ?_, fun j hj ↦ ?_, rfl, rfl, ?_, ?_, ?_⟩
    · simp
    · simp [connections_setCon_of_ne, hj]
    · simp
    · simp
    · simp

theorem onAck_effect (hflags : pkg.header.ctrlFlags = ctrlFlagAck)
    (h : ctx.onAck pkg env = some ctx') : ctx.Effect (.packet pkg from_ env) ctx' := by
  rcases hfind : ctx.findConn pkg.header.clientGen pkg.header.clientId with - | i
  · simp only [onAck, hfind] at h
    cases h; exact .quiet (.refl _)
  by_cases hstate : (ctx.connections i).state = .synRcvd
  · obtain ⟨chs, a', hnew, hb⟩ := onAck_of_synRcvd hfind hstate h
    exact .change hb (.accepted hflags hfind hstate hnew)
  · simp only [onAck, hfind] at h
    rw [if_pos hstate] at h
    cases h; exact .quiet (.refl _)

theorem becomes_adoptConId (ctx : Glbctx cfg) (i : Fin cfg.connectionCount) (pkg : Glbpkg) :
    ctx.Becomes (ctx.adoptConId i pkg) i
    { ctx.connections i with
      connId := if (ctx.connections i).state = .synSent then pkg.conId
        else (ctx.connections i).connId } ctx.allocator [] := by
  by_cases hstate : (ctx.connections i).state = .synSent
  · rw [adoptConId, if_pos hstate, if_pos hstate]
    exact becomes_setCon _ _ _
  · rw [adoptConId, if_neg hstate, if_neg hstate]
    simpa using becomes_setCon ctx i (ctx.connections i)

theorem acceptSynAck_eq_some (hstate : (ctx.connections i).state ≠ .established)
    (h : ctx.acceptSynAck i pkg env = some ctx') :
    ∃ chs a', IsNewArray ctx.allocator a' chs ∧ ctx.Becomes ctx' i
      { ctx.connections i with
        channels := some (chs.withCounters (ctx.connections i).seq pkg.header.seq)
        keepaliveRetry := 0
        keepalive := glbtimeStart (env.clock 0) glbKeepaliveTime
        ack := pkg.header.seq } a' [.connect i] := by
  rw [acceptSynAck, if_neg hstate] at h
  rcases createConChannels_spec ctx i env with ⟨-, hnone⟩ | ⟨chs, a', hnew, heq⟩
  · rw [writeAck_of_none _ (by simpa using hnone)] at h
    cases h
  · rw [heq, writeAck_of_some chs _ (by simp)] at h
    cases h
    refine ⟨chs, a', hnew, ?_, fun j hj ↦ ?_, rfl, rfl, ?_, ?_, ?_⟩
    · simp
    · simp [connections_setCon_of_ne, hj]
    · simp
    · simp
    · simp

theorem becomes_replySynAck (h : ctx.replySynAck i env = some ctx') :
    (ctx.connections i).channels ≠ none ∧ ctx.Becomes ctx' i
      { ctx.connections i with
        state := if env.sendOk 0 then .established else (ctx.connections i).state }
      ctx.allocator [] := by
  obtain ⟨chs, hchs, h⟩ := Option.map_eq_some_iff.1 h
  refine ⟨by rw [hchs]; exact Option.some_ne_none _, ?_⟩
  cases hok : env.sendOk 0 with
  | false =>
    rw [hok] at h
    cases h
    exact ⟨rfl, fun _ _ ↦ rfl, rfl, rfl, rfl, (List.append_nil _).symm, rfl⟩
  | true =>
    rw [hok] at h
    cases h
    show ctx.Becomes ((ctx.glbioSend _ _ true).2.setCon i _) i _ _ _
    exact (becomes_glbioSend ctx i _ _ true).of_quiet (becomes_setCon _ _ _)

/-- A SYN|ACK for an established slot 0 changes no slot: the ACK is only sent again. -/
theorem onSynAck_of_established {hpos : 0 < cfg.connectionCount}
    (hest : (ctx.connections ⟨0, hpos⟩).state = .established)
    (h : ctx.onSynAck pkg env = some ctx') :
    ctx.Becomes ctx' ⟨0, hpos⟩ (ctx.connections ⟨0, hpos⟩) ctx.allocator [] := by
  have hadopt : ctx.adoptConId ⟨0, hpos⟩ pkg = ctx := if_neg (by rw [hest]; decide)
  have haccept : ctx.acceptSynAck ⟨0, hpos⟩ pkg env = some ctx := if_pos hest
  simp only [onSynAck, dif_pos hpos, hadopt, haccept, Option.bind_some] at h
  have hcon : ({ ctx.connections ⟨0, hpos⟩ with
      state := if env.sendOk 0 then .established else (ctx.connections ⟨0, hpos⟩).state } :
      Glbconn cfg) = ctx.connections ⟨0, hpos⟩ := by
    rw [hest, ite_self, ← hest]
  simpa only [hcon] using (becomes_replySynAck h).2

/-- A SYN|ACK while slot 0 is not established, whatever else its state. -/
theorem onSynAck_of_ne {hpos : 0 < cfg.connectionCount}
    (hstate : (ctx.connections ⟨0, hpos⟩).state ≠ .established)
    (h : ctx.onSynAck pkg env = some ctx') :
    ∃ chs a', IsNewArray ctx.allocator a' chs ∧ ctx.Becomes ctx' ⟨0, hpos⟩
      { ctx.connections ⟨0, hpos⟩ with
        connId := if (ctx.connections ⟨0, hpos⟩).state = .synSent then pkg.conId
          else (ctx.connections ⟨0, hpos⟩).connId
        channels := some (chs.withCounters (ctx.connections ⟨0, hpos⟩).seq pkg.header.seq)
        keepaliveRetry := 0
        keepalive := glbtimeStart (env.clock 0) glbKeepaliveTime
        ack := pkg.header.seq
        state := if env.sendOk 0 then .established else (ctx.connections ⟨0, hpos⟩).state }
      a' [.connect ⟨0, hpos⟩] := by
  rw [onSynAck, dif_pos hpos] at h
  obtain ⟨ctx₁, h₁, h₂⟩ := Option.bind_eq_some_iff.1 h
  obtain ⟨-, hreply⟩ := becomes_replySynAck h₂
  have hadopt := becomes_adoptConId ctx ⟨0, hpos⟩ pkg
  obtain ⟨chs, a', hnew, hb⟩ := acceptSynAck_eq_some (by rw [hadopt.self]; exact hstate) h₁
  rw [hb.self, hb.allocator] at hreply
  have hall := (hadopt.trans hb).trans hreply
  rw [hadopt.self] at hall
  rw [hadopt.allocator] at hnew
  exact ⟨chs, a', hnew, hall⟩

theorem onSynAck_effect (hflags : pkg.header.ctrlFlags = ctrlFlagSynAck)
    (h : ctx.onSynAck pkg env = some ctx') : ctx.Effect (.packet pkg from_ env) ctx' := by
  by_cases hpos : 0 < cfg.connectionCount
  case neg => rw [onSynAck, dif_neg hpos] at h; cases h
  by_cases hstate : (ctx.connections ⟨0, hpos⟩).state = .established
  · exact .quiet (QuietAt.quiet ⟨_, [], onSynAck_of_established hstate h, .refl _, by simp⟩)
  · obtain ⟨chs, a', hnew, hb⟩ := onSynAck_of_ne hstate h
    exact .change hb (.synAcked hflags rfl hstate hnew)

/-! ### The closing branches -/

theorem closeCon_eq (reason : GlbDisconnectReason) : ctx.closeCon i reason =
    pushEvent { ctx.setCon i { ctx.connections i with state := .closed, channels := none } with
      allocator := ctx.allocator.freeAll (ctx.channelBlocks i) } (.disconnect i reason) := by
  rw [closeCon, freeConChannels_snd]
  simp [channelBlocks]

theorem becomes_closeCon (ctx : Glbctx cfg) (i : Fin cfg.connectionCount)
    (reason : GlbDisconnectReason) : ctx.Becomes (ctx.closeCon i reason) i
    { ctx.connections i with state := .closed, channels := none }
    (ctx.allocator.freeAll (ctx.channelBlocks i)) [.disconnect i reason] := by
  rw [closeCon_eq]
  refine ⟨connections_setCon_self _ _ _, fun j hj ↦ ?_, rfl, rfl, ?_, rfl, ?_⟩
  · exact connections_setCon_of_ne _ _ hj
  · exact block_eventqueue_pushEvent _ _
  · exact toBoundedQueue_eventqueue_pushEvent _ _

theorem change_closeCon {op : Op cfg} {reason : GlbDisconnectReason}
    (hcause : Closes ctx i op reason) (hstate : (ctx.connections i).state ≠ .closed) :
    Change ctx i op { ctx.connections i with state := .closed, channels := none }
      (ctx.allocator.freeAll (ctx.channelBlocks i)) [.disconnect i reason] :=
  @Change.closed cfg ctx i op reason _ [] hcause hstate rfl rfl rfl rfl rfl (by simp) rfl

theorem becomes_onFin (hfind : pkg.Finds ctx i) (hok : env.sendOk 0 = true)
    (hstate : (ctx.connections i).state ≠ .closed) : ctx.Becomes (ctx.onFin pkg env) i
    { ctx.connections i with state := .closed, channels := none }
    (ctx.allocator.freeAll (ctx.channelBlocks i)) [.disconnect i .byPeer] := by
  have hfind : ctx.findConn pkg.header.clientGen pkg.header.clientId = some i := hfind
  simp only [onFin, hfind, hok, hstate, glbioSend_of_ok, ne_eq, not_false_eq_true, if_true]
  have hsend := becomes_glbioSend ctx i (glbpkgInit (ctx.connections i).connId ctrlFlagFinAck 0)
    (ctx.connections i).peerAddr true
  exact hsend.trans (becomes_closeCon _ _ .byPeer)

theorem becomes_onFinAck (hfind : pkg.Finds ctx i)
    (hstate : (ctx.connections i).state ≠ .closed) : ctx.Becomes (ctx.onFinAck pkg) i
    { ctx.connections i with state := .closed, channels := none }
    (ctx.allocator.freeAll (ctx.channelBlocks i)) [.disconnect i .byPeer] := by
  have hfind : ctx.findConn pkg.header.clientGen pkg.header.clientId = some i := hfind
  simp only [onFinAck, hfind, hstate, ne_eq, not_false_eq_true, if_true]
  exact becomes_closeCon _ _ .byPeer

theorem onFin_effect (hflags : pkg.header.ctrlFlags = ctrlFlagFin) :
    ctx.Effect (.packet pkg from_ env) (ctx.onFin pkg env) := by
  rcases hfind : ctx.findConn pkg.header.clientGen pkg.header.clientId with - | i
  · simp only [onFin, hfind]
    exact .quiet (.refl _)
  cases hok : env.sendOk 0 with
  | false =>
    simp only [onFin, hfind, hok]
    exact .quiet (.of_eq rfl rfl rfl rfl rfl)
  | true =>
    by_cases hstate : (ctx.connections i).state = .closed
    · simp only [onFin, hfind, hok, hstate, glbioSend_of_ok, ne_eq, not_true_eq_false, if_false]
      exact .quiet (.of_eq rfl rfl rfl rfl rfl)
    · exact .change (becomes_onFin hfind hok hstate)
        (change_closeCon (.fin hflags hfind hok) hstate)

theorem onFinAck_effect (hflags : pkg.header.ctrlFlags = ctrlFlagFinAck) :
    ctx.Effect (.packet pkg from_ env) (ctx.onFinAck pkg) := by
  rcases hfind : ctx.findConn pkg.header.clientGen pkg.header.clientId with - | i
  · simp only [onFinAck, hfind]
    exact .quiet (.refl _)
  by_cases hstate : (ctx.connections i).state = .closed
  · simp only [onFinAck, hfind, hstate, ne_eq, not_true_eq_false, if_false]
    exact .quiet (.refl _)
  · exact .change (becomes_onFinAck hfind hstate) (change_closeCon (.finAck hflags hfind) hstate)

/-- An RST closes an established slot like any other ending does. -/
theorem onRst_of_established (hfind : pkg.Finds ctx i)
    (hstate : (ctx.connections i).state = .established) :
    ctx.onRst pkg = ctx.closeCon i .reset := by
  have hfind : ctx.findConn pkg.header.clientGen pkg.header.clientId = some i := hfind
  rw [closeCon_eq, onRst, hfind]
  simp only [hstate, if_true, freeConChannels_snd, connections_setCon_self]
  exact congrArg (fun c : Glbctx cfg ↦
    pushEvent { c with allocator := ctx.allocator.freeAll (ctx.channelBlocks i) } _)
    (setCon_setCon ctx i _ _)

/-- An RST for a slot that is not established leaves the channels where they are. -/
theorem becomes_onRst_of_ne (hfind : pkg.Finds ctx i)
    (hstate : (ctx.connections i).state ≠ .established) :
    ctx.Becomes (ctx.onRst pkg) i { ctx.connections i with state := .closed } ctx.allocator
      [.disconnect i .reset] := by
  have hfind : ctx.findConn pkg.header.clientGen pkg.header.clientId = some i := hfind
  rw [onRst, hfind]
  simp only [hstate, if_false]
  have hset := becomes_setCon ctx i { ctx.connections i with state := .closed }
  have hpush := becomes_pushEvent (ctx.setCon i { ctx.connections i with state := .closed }) i
    (.disconnect i .reset)
  rw [hset.self, hset.allocator] at hpush
  exact hset.trans hpush

theorem onRst_effect (hflags : pkg.header.ctrlFlags = ctrlFlagRst) :
    ctx.Effect (.packet pkg from_ env) (ctx.onRst pkg) := by
  rcases hfind : ctx.findConn pkg.header.clientGen pkg.header.clientId with - | i
  · rw [onRst, hfind]
    exact .quiet (.refl _)
  by_cases hstate : (ctx.connections i).state = .established
  · rw [onRst_of_established hfind hstate]
    refine .change (becomes_closeCon _ _ .reset) (change_closeCon (.rst hflags hfind hstate) ?_)
    rw [hstate]; decide
  · exact .change (becomes_onRst_of_ne hfind hstate) (.reset hflags hfind hstate)

/-! ### The record of the slot a packet finds -/

theorem connections_onFin (hfind : pkg.Finds ctx i) : (ctx.onFin pkg env).connections i =
    if env.sendOk 0 = true ∧ (ctx.connections i).state ≠ .closed then
      { ctx.connections i with state := .closed, channels := none }
    else ctx.connections i := by
  split
  · next h => exact (becomes_onFin hfind h.1 h.2).self
  · next h =>
    have hfind : ctx.findConn pkg.header.clientGen pkg.header.clientId = some i := hfind
    cases hok : env.sendOk 0 with
    | false => simp only [onFin, hfind, hok, glbioSend_of_fail]
    | true =>
      have hclosed : (ctx.connections i).state = .closed := by_contra fun hne ↦ h ⟨hok, hne⟩
      simp only [onFin, hfind, hok, hclosed, glbioSend_of_ok, ne_eq, not_true_eq_false, if_false]

theorem connections_onFinAck (hfind : pkg.Finds ctx i) : (ctx.onFinAck pkg).connections i =
    if (ctx.connections i).state ≠ .closed then
      { ctx.connections i with state := .closed, channels := none }
    else ctx.connections i := by
  split
  · next h => exact (becomes_onFinAck hfind h).self
  · next h =>
    have hfind : ctx.findConn pkg.header.clientGen pkg.header.clientId = some i := hfind
    simp only [onFinAck, hfind]
    rw [if_neg h]

theorem connections_onRst (hfind : pkg.Finds ctx i) : (ctx.onRst pkg).connections i =
    if (ctx.connections i).state = .established then
      { ctx.connections i with state := .closed, channels := none }
    else { ctx.connections i with state := .closed } := by
  split
  · next h =>
    rw [onRst_of_established hfind h]
    exact (becomes_closeCon ctx i .reset).self
  · next h => exact (becomes_onRst_of_ne hfind h).self

theorem connections_onPong (hfind : pkg.Finds ctx i) : (ctx.onPong pkg env).connections i =
    { ctx.connections i with
      keepaliveRetry := 0
      rtt := ((ctx.connections i).rtt + (UInt64.ofNat (glbtimeStart (env.clock 0) 0) -
        ((pkg.header.seq.toUInt64 <<< 32) ||| pkg.header.ack.toUInt64)).toUInt32) / 2
      keepalive := glbtimeStart (env.clock 1) glbKeepaliveTime } := by
  have hfind : ctx.findConn pkg.header.clientGen pkg.header.clientId = some i := hfind
  simp only [onPong, hfind, connections_setCon_self]

/-! ### The data and keepalive branches -/

/-- What a data branch does, it does to an established slot that has channels. -/
theorem withChannel_eq_some
    {k : Fin cfg.connectionCount → Fin cfg.channelCount → Glbchannel → Glbctx cfg}
    (h : ctx.withChannel pkg k = some ctx') :
    ctx' = ctx ∨ ∃ i c chs, pkg.Finds ctx i ∧ (ctx.connections i).state = .established ∧
      (ctx.connections i).channels = some chs ∧ pkg.header.channelId.toNat = c.val ∧
      ctx' = k i c (chs.chan c) := by
  rcases hfind : ctx.findConn pkg.header.clientGen pkg.header.clientId with - | i <;>
    simp only [withChannel, hfind] at h
  · cases h; exact Or.inl rfl
  split at h
  · cases h; exact Or.inl rfl
  · next hstate =>
    split at h
    · next hc =>
      obtain ⟨chs, hchs, rfl⟩ := Option.map_eq_some_iff.1 h
      exact Or.inr ⟨i, ⟨_, hc⟩, chs, hfind, not_not.1 hstate, hchs, rfl, rfl⟩
    · cases h; exact Or.inl rfl

variable {c : Fin cfg.channelCount} {chs : Glbchannels cfg.channelCount}

theorem receiveData_quietAt (hop : op.Receives i) (hest : (ctx.connections i).state = .established)
    (hchs : (ctx.connections i).channels = some chs) :
    QuietAt i op ctx (ctx.receiveData i c (chs.chan c) pkg env) := by
  rw [receiveData]
  dsimp only
  split
  · exact quietAt_glbioSend _ _ _
  split
  · exact quietAt_setCon (.of_eq rfl rfl rfl rfl rfl (Or.inl rfl))
  · have hset : QuietAt i op ctx (ctx.setChan i c { chs.chan c with
        rQueue := ((chs.chan c).rQueue.push pkg).2, ack := (chs.chan c).ack + 1 }) :=
      quietAt_setChan hchs (by simp [Glbchannel.blocks]) (Or.inl hop) (Or.inr rfl)
    refine (hset.trans ?_).trans (quietAt_pushEvent _ rfl rfl ?_ fun _ ↦ hop)
    · split
      · exact quietAt_glbioSend _ _ _
      · exact .refl _
    · split <;> simpa [setChan] using hest

theorem checkAddrData_quietAt (hop : op.Receives i) (hfrom : op.ComesFrom from_)
    (hest : (ctx.connections i).state = .established)
    (hchs : (ctx.connections i).channels = some chs) :
    QuietAt i op ctx (ctx.checkAddrData i c (chs.chan c) pkg from_ env) := by
  rw [checkAddrData]
  split
  · split
    · have hmove : QuietAt i op ctx (ctx.setCon i { ctx.connections i with peerAddr := from_ }) :=
        quietAt_setCon (.of_eq rfl rfl rfl rfl rfl (Or.inr ⟨hest, hfrom⟩))
      have hest' : ((ctx.setCon i { ctx.connections i with peerAddr := from_ }).connections
          i).state = .established := by simpa using hest
      have hpush : QuietAt i op (ctx.setCon i { ctx.connections i with peerAddr := from_ }) _ :=
        quietAt_pushEvent (.migration i) rfl rfl hest' (by simp [Glbevent.isReceive])
      exact (hmove.trans hpush).trans
        (receiveData_quietAt hop (by simpa using hest) (by simpa using hchs))
    · exact .refl _
  · exact receiveData_quietAt hop hest hchs

theorem onData_quiet (hflags : pkg.header.ctrlFlags = ctrlFlagData)
    (h : ctx.onData pkg from_ env = some ctx') : ctx.Quiet (.packet pkg from_ env) ctx' := by
  rcases withChannel_eq_some h with rfl | ⟨i, c, chs, -, hest, hchs, -, rfl⟩
  · exact .refl _
  · have hop : (Op.packet pkg from_ env : Op cfg).Receives i := hflags
    exact (checkAddrData_quietAt hop rfl hest hchs).quiet

theorem onDataAck_quiet (hflags : pkg.header.ctrlFlags = ctrlFlagDataAck)
    (h : ctx.onDataAck pkg = some ctx') : ctx.Quiet (.packet pkg from_ env) ctx' := by
  rcases withChannel_eq_some h with rfl | ⟨i, c, chs, -, -, hchs, -, rfl⟩
  · exact .refl _
  split
  · split
    · exact QuietAt.quiet (quietAt_setChan hchs (by simp [Glbchannel.blocks]) (Or.inr rfl)
        (Or.inl hflags))
    · exact .refl _
  · exact .refl _

theorem onPong_quiet : ctx.Quiet op (ctx.onPong pkg env) := by
  rcases hfind : ctx.findConn pkg.header.clientGen pkg.header.clientId with - | i <;>
    simp only [onPong, hfind]
  · exact .refl _
  · exact QuietAt.quiet (quietAt_setCon (.of_eq rfl rfl rfl rfl rfl (Or.inl rfl)))

/-! ### The timers -/

theorem retrySend_quietAt : QuietAt i op ctx (ctx.retrySend i pkg env) := by
  refine (quietAt_glbioSend pkg (ctx.connections i).peerAddr (env.sendOk 0)).trans ?_
  exact quietAt_setCon (.of_eq rfl rfl rfl rfl rfl (Or.inl rfl))

theorem countTransmission_quietAt {head : Glbpkg} {now : ℕ} (hop : op.Sends i)
    (hest : (ctx.connections i).state = .established)
    (hchs : (ctx.connections i).channels = some chs) :
    QuietAt i op ctx (ctx.countTransmission i c (chs.chan c) head now) := by
  have hset : QuietAt i op ctx (ctx.setChan i c
      { chs.chan c with sQueue := (chs.chan c).sQueue.writeHead (retransmitted · now) }) :=
    quietAt_setChan hchs (by simp [Glbchannel.blocks]) (Or.inr rfl) (Or.inl hop)
  rw [countTransmission]
  dsimp only
  split
  · refine (hset.trans (quietAt_setCon ?_)).trans (quietAt_pushEvent _ rfl rfl ?_ ?_)
    · exact .of_eq rfl rfl rfl rfl rfl (Or.inl rfl)
    · simpa [setChan] using hest
    · simp [Glbevent.isReceive]
  · exact hset

theorem transmit_quietAt (hop : op.Sends i) (hest : (ctx.connections i).state = .established) :
    QuietAt i op ctx (ctx.transmit i env c) := by
  rcases hchs : (ctx.connections i).channels with - | chs <;> simp only [transmit, hchs]
  · exact .refl _
  split
  · next head hpeek =>
    split
    · refine (quietAt_glbioSend head (ctx.connections i).peerAddr
        (env.sendOk (c + 1))).trans ?_
      split
      · exact quietAt_setChan (by simpa using hchs) (by simp [Glbchannel.blocks]) (Or.inr rfl)
          (Or.inl hop)
      · exact countTransmission_quietAt hop (by simpa using hest) (by simpa using hchs)
    · exact .refl _
  · exact .refl _

/-- Transmitting on a list of channels, one after the other. -/
theorem foldl_transmit_quietAt (hop : op.Sends i) (ctx : Glbctx cfg) (env : Env)
    (cs : List (Fin cfg.channelCount)) (hest : (ctx.connections i).state = .established) :
    QuietAt i op ctx (cs.foldl (fun ctx c ↦ ctx.transmit i env c) ctx) := by
  induction cs generalizing ctx with
  | nil => exact .refl _
  | cons c cs ih =>
    have hc : QuietAt i op ctx (ctx.transmit i env c) := transmit_quietAt hop hest
    exact hc.trans (ih _ (by rw [hc.state, hest]))

/-- The keepalive closes the slot when it is due and has no retries left, and is quiet otherwise. -/
theorem keepaliveTimer_cases (ctx : Glbctx cfg) (i : Fin cfg.connectionCount) (env : Env) :
    ((glbtimeIsexpired (ctx.connections i).keepalive (env.clock (2 * cfg.channelCount + 2)) = true ∧
        (ctx.connections i).keepaliveRetry.toNat > glbKeepaliveRetry) ∧
      ctx.keepaliveTimer i env = ctx.closeCon i .timeout) ∨
    ∀ {op : Op cfg}, QuietAt i op ctx (ctx.keepaliveTimer i env) := by
  rw [keepaliveTimer]
  dsimp only
  split
  · next hdue =>
    split
    · next hlimit => exact Or.inl ⟨⟨hdue, hlimit⟩, rfl⟩
    · refine Or.inr fun {op} ↦ QuietAt.trans (quietAt_glbioSend _ _ _) (quietAt_setCon ?_)
      rw [connections_glbioSend]
      exact .of_eq rfl rfl rfl rfl rfl (Or.inl rfl)
  · exact Or.inr fun {op} ↦ .refl _

/-- The part of the timer loop that is for the state of the slot, and with which outcome. -/
inductive TimerPass (ctx : Glbctx cfg) (i : Fin cfg.connectionCount) (env : Env) :
    Glbctx cfg → Prop
  /-- No timer runs, or it is not due. -/
  | idle (hstate : (ctx.connections i).state ≠ .established) : TimerPass ctx i env ctx
  /-- The SYN is sent again. -/
  | syn (hstate : (ctx.connections i).state = .synSent) :
      TimerPass ctx i env (ctx.retrySend i ((glbpkgInit (ctx.connections i).connId
        ctrlFlagSyn 0).withSeqAck (ctx.connections i).seq (ctx.connections i).ack) env)
  /-- The SYN|ACK is sent again. -/
  | synAck (hstate : (ctx.connections i).state = .synRcvd) :
      TimerPass ctx i env (ctx.retrySend i ((glbpkgInit (ctx.connections i).connId
        ctrlFlagSynAck 0).withSeqAck (ctx.connections i).seq (ctx.connections i).ack) env)
  /-- The FIN is sent again. -/
  | fin (hstate : (ctx.connections i).state = .finSent) :
      TimerPass ctx i env
        (ctx.retrySend i (glbpkgInit (ctx.connections i).connId ctrlFlagFin 0) env)
  /-- The SYN was sent often enough. -/
  | gaveUp (hstate : (ctx.connections i).state = .synSent) :
      TimerPass ctx i env ((ctx.setCon i { ctx.connections i with state := .closed }).pushEvent
        (.disconnect i .timeout))
  /-- The SYN|ACK was sent often enough. -/
  | dropped (hstate : (ctx.connections i).state = .synRcvd) :
      TimerPass ctx i env (ctx.setCon i { ctx.connections i with state := .closed })
  /-- The FIN was sent often enough. -/
  | closed (hstate : (ctx.connections i).state = .finSent) :
      TimerPass ctx i env (ctx.closeCon i .timeout)
  /-- An established slot transmits and looks at its keepalive timer. -/
  | established {chs : Glbchannels cfg.channelCount}
      (hstate : (ctx.connections i).state = .established)
      (hchs : (ctx.connections i).channels = some chs) :
      TimerPass ctx i env (((List.finRange cfg.channelCount).foldl
        (fun ctx c ↦ ctx.transmit i env c) ctx).keepaliveTimer i env)

theorem handleTimers_cases (h : ctx.handleTimers i env = some ctx') : TimerPass ctx i env ctx' := by
  rw [handleTimers] at h
  dsimp only at h
  split at h
  · next hstate => cases h; exact .idle (by rw [hstate]; decide)
  · next hstate =>
    split at h
    · split at h
      · cases h; exact .gaveUp hstate
      · cases h; exact .syn hstate
    · cases h; exact .idle (by rw [hstate]; decide)
  · next hstate =>
    split at h
    · split at h
      · cases h; exact .dropped hstate
      · cases h; exact .synAck hstate
    · cases h; exact .idle (by rw [hstate]; decide)
  · next hstate =>
    split at h
    · split at h
      · cases h; exact .closed hstate
      · cases h; exact .fin hstate
    · cases h; exact .idle (by rw [hstate]; decide)
  · next hstate =>
    split at h
    · cases h
    next hsome =>
    cases h
    rcases hchs : (ctx.connections i).channels with - | chs
    · simp [hchs] at hsome
    · exact .established hstate hchs

theorem handleTimers_effect (h : ctx.handleTimers i env = some ctx') :
    ctx.Effect (.timers i env) ctx' := by
  cases handleTimers_cases h with
  | idle => exact .quiet (.refl _)
  | syn | synAck | fin => exact .quiet retrySend_quietAt.quiet
  | gaveUp hstate =>
    have hset := becomes_setCon ctx i { ctx.connections i with state := .closed }
    have hpush := becomes_pushEvent
      (ctx.setCon i { ctx.connections i with state := .closed }) i (.disconnect i .timeout)
    rw [hset.self, hset.allocator] at hpush
    exact .change (hset.trans hpush) (.gaveUp hstate)
  | dropped hstate => exact .change (becomes_setCon _ _ _) (.dropped hstate)
  | closed hstate =>
    refine .change (becomes_closeCon _ _ .timeout)
      (change_closeCon (.timeout (Or.inr hstate)) ?_)
    rw [hstate]; decide
  | established hstate hchs =>
    -- what is transmitted is quiet, and then the keepalive timer may close the slot
    have hop : (Op.timers i env).Sends i := rfl
    have htransmit := foldl_transmit_quietAt hop ctx env (List.finRange cfg.channelCount) hstate
    rcases keepaliveTimer_cases ((List.finRange cfg.channelCount).foldl
      (fun ctx c ↦ ctx.transmit i env c) ctx) i env with ⟨-, heq⟩ | hquiet
    · obtain ⟨con', evs, hb, hlife, hevs⟩ := htransmit
      rw [heq]
      have hclose := hb.trans (becomes_closeCon _ _ .timeout)
      have hblocks : channelBlocks ((List.finRange cfg.channelCount).foldl
          (fun ctx c ↦ ctx.transmit i env c) ctx) i = ctx.channelBlocks i := by
        rw [channelBlocks, channelBlocks, hb.self]
        have := congrArg (fun o ↦ o.elim [] id) hlife.blocks
        simpa [Option.elim_map] using this
      rw [hblocks, hb.allocator, hb.self] at hclose
      refine .change hclose (.closed (.timeout (Or.inl hstate)) (by rw [hstate]; decide) rfl rfl
        hlife.connId hlife.seq hlife.ack (fun ev hev ↦ ?_) (hlife.peer.resolve_right And.right))
      obtain ⟨hi, htraffic, -, hrecv⟩ := hevs ev hev
      exact ⟨htraffic, hi, by simpa [Op.Receives] using hrecv⟩
    · exact .quiet (htransmit.trans hquiet).quiet

/-! ### Which branch a packet takes -/

theorem handlePacket_of_syn (h : pkg.IsSyn) :
    ctx.handlePacket pkg from_ env = some (ctx.onSyn pkg from_ env) := if_pos h

theorem handlePacket_of_ack (h : pkg.header.ctrlFlags = ctrlFlagAck) :
    ctx.handlePacket pkg from_ env = ctx.onAck pkg env := by
  rw [handlePacket, h]
  rfl

theorem handlePacket_of_synAck (h : pkg.header.ctrlFlags = ctrlFlagSynAck) :
    ctx.handlePacket pkg from_ env = ctx.onSynAck pkg env := by
  rw [handlePacket, h]
  rfl

theorem handlePacket_of_fin (h : pkg.header.ctrlFlags = ctrlFlagFin) :
    ctx.handlePacket pkg from_ env = some (ctx.onFin pkg env) := by
  rw [handlePacket, h]
  rfl

theorem handlePacket_of_finAck (h : pkg.header.ctrlFlags = ctrlFlagFinAck) :
    ctx.handlePacket pkg from_ env = some (ctx.onFinAck pkg) := by
  rw [handlePacket, h]
  rfl

theorem handlePacket_of_data (h : pkg.header.ctrlFlags = ctrlFlagData) :
    ctx.handlePacket pkg from_ env = ctx.onData pkg from_ env := by
  rw [handlePacket, h]
  rfl

theorem handlePacket_of_dataAck (h : pkg.header.ctrlFlags = ctrlFlagDataAck) :
    ctx.handlePacket pkg from_ env = ctx.onDataAck pkg := by
  rw [handlePacket, h]
  rfl

theorem handlePacket_of_ping (h : pkg.header.ctrlFlags = ctrlFlagPing) :
    ctx.handlePacket pkg from_ env = some (ctx.onPing pkg from_ env) := by
  rw [handlePacket, h]
  rfl

theorem handlePacket_of_pong (h : pkg.header.ctrlFlags = ctrlFlagPong) :
    ctx.handlePacket pkg from_ env = some (ctx.onPong pkg env) := by
  rw [handlePacket, h]
  rfl

theorem handlePacket_of_rst (h : pkg.header.ctrlFlags = ctrlFlagRst) :
    ctx.handlePacket pkg from_ env = some (ctx.onRst pkg) := by
  rw [handlePacket, h]
  rfl

section Handled

variable (h : ctx.handlePacket pkg from_ env = some ctx')
include h

theorem onSyn_eq_of_handled (hsyn : pkg.IsSyn) : ctx.onSyn pkg from_ env = ctx' :=
  Option.some_inj.1 ((handlePacket_of_syn hsyn).symm.trans h)

theorem onFin_eq_of_handled (hflags : pkg.header.ctrlFlags = ctrlFlagFin) :
    ctx.onFin pkg env = ctx' := Option.some_inj.1 ((handlePacket_of_fin hflags).symm.trans h)

theorem onFinAck_eq_of_handled (hflags : pkg.header.ctrlFlags = ctrlFlagFinAck) :
    ctx.onFinAck pkg = ctx' := Option.some_inj.1 ((handlePacket_of_finAck hflags).symm.trans h)

theorem onRst_eq_of_handled (hflags : pkg.header.ctrlFlags = ctrlFlagRst) :
    ctx.onRst pkg = ctx' := Option.some_inj.1 ((handlePacket_of_rst hflags).symm.trans h)

/-- A SYN|ACK gives slot 0, unless it is established, channels and a CONNECT event. -/
theorem becomes_of_synAck (hflags : pkg.header.ctrlFlags = ctrlFlagSynAck)
    {i : Fin cfg.connectionCount} (hi : i.val = 0)
    (hstate : (ctx.connections i).state ≠ .established) :
    ∃ chs a', IsNewArray ctx.allocator a' chs ∧ ctx.Becomes ctx' i
      { ctx.connections i with
        connId := if (ctx.connections i).state = .synSent then pkg.conId
          else (ctx.connections i).connId
        channels := some (chs.withCounters (ctx.connections i).seq pkg.header.seq)
        keepaliveRetry := 0
        keepalive := glbtimeStart (env.clock 0) glbKeepaliveTime
        ack := pkg.header.seq
        state := if env.sendOk 0 then .established else (ctx.connections i).state }
      a' [.connect i] := by
  obtain ⟨k, hk⟩ := i
  obtain rfl : k = 0 := hi
  exact onSynAck_of_ne hstate ((handlePacket_of_synAck hflags).symm.trans h)

end Handled

/-- The control flags that have a branch of their own, whatever else the packet holds. -/
def handledFlags : List UInt8 :=
  [ctrlFlagAck, ctrlFlagSynAck, ctrlFlagFin, ctrlFlagFinAck, ctrlFlagData, ctrlFlagDataAck,
    ctrlFlagPing, ctrlFlagPong, ctrlFlagRst]

theorem handlePacket_of_ignored (hsyn : ¬ pkg.IsSyn)
    (hflags : pkg.header.ctrlFlags ∉ handledFlags) :
    ctx.handlePacket pkg from_ env = some ctx := by
  simp only [handledFlags, List.mem_cons, List.not_mem_nil, or_false, not_or] at hflags
  obtain ⟨hack, hsynAck, hfin, hfinAck, hdata, hdataAck, hping, hpong, hrst⟩ := hflags
  rw [Glbpkg.IsSyn] at hsyn
  rw [handlePacket, if_neg hsyn, if_neg hack, if_neg hsynAck, if_neg hfin, if_neg hfinAck,
    if_neg hdata, if_neg hdataAck, if_neg hping, if_neg hpong, if_neg hrst]

/-- The branch that handled a packet, and with which outcome. -/
inductive Handling (ctx : Glbctx cfg) (pkg : Glbpkg) (from_ : Glbaddr) (env : Env) :
    Glbctx cfg → Prop
  | syn (hsyn : pkg.IsSyn) : Handling ctx pkg from_ env (ctx.onSyn pkg from_ env)
  | ack {ctx' : Glbctx cfg} (hflags : pkg.header.ctrlFlags = ctrlFlagAck)
      (h : ctx.onAck pkg env = some ctx') : Handling ctx pkg from_ env ctx'
  | synAck {ctx' : Glbctx cfg} (hflags : pkg.header.ctrlFlags = ctrlFlagSynAck)
      (h : ctx.onSynAck pkg env = some ctx') : Handling ctx pkg from_ env ctx'
  | fin (hflags : pkg.header.ctrlFlags = ctrlFlagFin) :
      Handling ctx pkg from_ env (ctx.onFin pkg env)
  | finAck (hflags : pkg.header.ctrlFlags = ctrlFlagFinAck) :
      Handling ctx pkg from_ env (ctx.onFinAck pkg)
  | data {ctx' : Glbctx cfg} (hflags : pkg.header.ctrlFlags = ctrlFlagData)
      (h : ctx.onData pkg from_ env = some ctx') : Handling ctx pkg from_ env ctx'
  | dataAck {ctx' : Glbctx cfg} (hflags : pkg.header.ctrlFlags = ctrlFlagDataAck)
      (h : ctx.onDataAck pkg = some ctx') : Handling ctx pkg from_ env ctx'
  | ping (hflags : pkg.header.ctrlFlags = ctrlFlagPing) :
      Handling ctx pkg from_ env (ctx.onPing pkg from_ env)
  | pong (hflags : pkg.header.ctrlFlags = ctrlFlagPong) :
      Handling ctx pkg from_ env (ctx.onPong pkg env)
  | rst (hflags : pkg.header.ctrlFlags = ctrlFlagRst) :
      Handling ctx pkg from_ env (ctx.onRst pkg)
  /-- No branch is for these flags, or it is a SYN that names a client. -/
  | ignored (hsyn : ¬ pkg.IsSyn) (hflags : pkg.header.ctrlFlags ∉ handledFlags) :
      Handling ctx pkg from_ env ctx

theorem handlePacket_cases (h : ctx.handlePacket pkg from_ env = some ctx') :
    Handling ctx pkg from_ env ctx' := by
  by_cases hsyn : pkg.IsSyn
  · obtain rfl := onSyn_eq_of_handled h hsyn
    exact .syn hsyn
  by_cases hflags : pkg.header.ctrlFlags ∈ handledFlags
  case neg =>
    obtain rfl := Option.some_inj.1 ((handlePacket_of_ignored hsyn hflags).symm.trans h)
    exact .ignored hsyn hflags
  simp only [handledFlags, List.mem_cons, List.not_mem_nil, or_false] at hflags
  rcases hflags with hflags | hflags | hflags | hflags | hflags | hflags | hflags | hflags | hflags
  · exact .ack hflags ((handlePacket_of_ack hflags).symm.trans h)
  · exact .synAck hflags ((handlePacket_of_synAck hflags).symm.trans h)
  · obtain rfl := onFin_eq_of_handled h hflags
    exact .fin hflags
  · obtain rfl := onFinAck_eq_of_handled h hflags
    exact .finAck hflags
  · exact .data hflags ((handlePacket_of_data hflags).symm.trans h)
  · exact .dataAck hflags ((handlePacket_of_dataAck hflags).symm.trans h)
  · obtain rfl := Option.some_inj.1 ((handlePacket_of_ping hflags).symm.trans h)
    exact .ping hflags
  · obtain rfl := Option.some_inj.1 ((handlePacket_of_pong hflags).symm.trans h)
    exact .pong hflags
  · obtain rfl := onRst_eq_of_handled h hflags
    exact .rst hflags

/-! ### The whole step -/

theorem handlePacket_effect (h : ctx.handlePacket pkg from_ env = some ctx') :
    ctx.Effect (.packet pkg from_ env) ctx' := by
  cases handlePacket_cases h with
  | syn hsyn => exact onSyn_effect hsyn
  | ack hflags h => exact onAck_effect hflags h
  | synAck hflags h => exact onSynAck_effect hflags h
  | fin hflags => exact onFin_effect hflags
  | finAck hflags => exact onFinAck_effect hflags
  | data hflags h => exact .quiet (onData_quiet hflags h)
  | dataAck hflags h => exact .quiet (onDataAck_quiet hflags h)
  | ping => exact .quiet (quiet_glbioSend _ _ _)
  | pong => exact .quiet onPong_quiet
  | rst hflags => exact onRst_effect hflags
  | ignored => exact .quiet (.refl _)

/-- **What one step can do.** Every invariant about the life of the slots is derived from this. -/
theorem step_effect {op : Op cfg} (h : Step ctx op ctx') : ctx.Effect op ctx' := by
  cases op with
  | connect now => exact glbConnect_effect h
  | close i now => cases h; exact glbClose_effect
  | send info now =>
    obtain ⟨⟨code, ctx₁⟩, hsend, rfl⟩ := Option.map_eq_some_iff.1 h
    exact .quiet (glbSend_quiet hsend)
  | pollevent => cases h; exact .quiet glbPollevent_quiet
  | popdata info =>
    obtain ⟨⟨code, data, ctx₁⟩, hpop, rfl⟩ := Option.map_eq_some_iff.1 h
    exact .quiet (glbPopdata_quiet hpop)
  | readError => cases h; exact .quiet (.of_eq rfl rfl rfl rfl rfl)
  | packet pkg from_ env => exact handlePacket_effect h
  | timers i env => exact handleTimers_effect h

/-- What one step can do to one slot. -/
theorem slot_effect {op : Op cfg} (h : Step ctx op ctx') (i : Fin cfg.connectionCount) :
    (ctx.connections i).CarriesOn op i (ctx'.connections i) ∨
      ∃ a' evs, Change ctx i op (ctx'.connections i) a' evs := by
  cases step_effect h with
  | quiet hq => exact Or.inl (hq.life i)
  | @change j con' a' evs hb hchange =>
    by_cases hij : i = j
    · subst hij
      exact Or.inr ⟨a', evs, by rw [hb.self]; exact hchange⟩
    · rw [hb.of_ne i hij]
      exact Or.inl (.refl _)

/-- A slot becomes established by the ACK it waits for or by a SYN|ACK, with new channels. -/
theorem established_cases {op : Op cfg} {i : Fin cfg.connectionCount} (h : Step ctx op ctx')
    (hne : (ctx.connections i).state ≠ .established)
    (hest : (ctx'.connections i).state = .established) :
    ∃ pkg from_ env, op = .packet pkg from_ env ∧
      ((pkg.header.ctrlFlags = ctrlFlagAck ∧ pkg.Finds ctx i ∧
          (ctx.connections i).state = .synRcvd) ∨
        (pkg.header.ctrlFlags = ctrlFlagSynAck ∧ i.val = 0 ∧ env.sendOk 0 = true)) ∧
      ∃ chs a' seq ack, IsNewArray ctx.allocator a' chs ∧
        (ctx'.connections i).channels = some (chs.withCounters seq ack) := by
  rcases slot_effect h i with hsame | ⟨a', evs, hchange⟩
  · exact absurd (hsame.state ▸ hest) hne
  -- every other change leads to another state
  generalize ctx'.connections i = con' at hest hchange ⊢
  cases hchange with
  | @accepted pkg from_ env _ _ _ hflags hfind hstate hnew =>
    exact ⟨pkg, from_, env, rfl, Or.inl ⟨hflags, hfind, hstate⟩, _, _, _, _, hnew, rfl⟩
  | @synAcked pkg from_ env _ _ _ hflags hi _ hnew =>
    refine ⟨pkg, from_, env, rfl, Or.inr ⟨hflags, hi, ?_⟩, _, _, _, _, hnew, rfl⟩
    by_contra hok
    exact hne (by simpa [hok] using hest)
  | connected =>
    dsimp only at hest
    split at hest
    · cases hest
    · exact absurd hest hne
  | opened _ _ _ hstate' => rw [hstate'] at hest; cases hest
  | closed _ _ hstate' => rw [hstate'] at hest; cases hest
  | finSent | reopened | reset | gaveUp | dropped => cases hest

end Glbctx

end Gilberta
