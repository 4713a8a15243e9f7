import Gilberta.Effects.Channels
import Gilberta.Foundations.SequenceNumbers
import Gilberta.Lifecycle.Progress

/-!
# Well-formed channels

What a peer is sent comes out of the send queues, so what the send queues hold is what the protocol
promises about the numbers on the wire. In every run, whatever packets arrive and whatever `sendto`
does, a channel has two queues of at most 32 packets, and its send queue holds messages of this
channel whose numbers count up, without a gap, to the number the next message gets (`Sound`).

Two things are true of established and closing connections only: that they have channels at all,
and that the queued messages carry the id the connection has *now* (`Owned`). A SYN|ACK changes the
id of a slot, but it throws the old channels away in the same step.
-/

namespace Gilberta

variable {cfg : Glbcfg}

/-- A packet as `glb_send` puts it on channel `c`. -/
structure Glbpkg.IsMessage (c : ℕ) (pkg : Glbpkg) : Prop where
  /-- It is a DATA packet. -/
  ctrlFlags : pkg.header.ctrlFlags = ctrlFlagData
  /-- It names its channel. -/
  channelId : pkg.header.channelId.toNat = c
  /-- The payload is not empty. -/
  one_le : 1 ≤ pkg.header.payloadLen.toNat
  /-- The payload fits. -/
  le_mtu : pkg.header.payloadLen.toNat ≤ gilbertaMtu

/-- Channel `c` of a connection with id `connId` as it should be. -/
structure Glbchannel.WellFormed (c : ℕ) (connId : Glbconid) (chan : Glbchannel) : Prop where
  /-- The send queue is not overfull. -/
  sLength : chan.sQueue.elems.length ≤ 32
  /-- The receive queue is not overfull. -/
  rLength : chan.rQueue.elems.length ≤ 32
  /-- The numbers count up to the one the next message gets. -/
  counts : CountsUpTo (chan.sQueue.elems.map fun p ↦ p.header.seq) chan.seq
  /-- The send queue holds messages of this channel. -/
  messages : ∀ p ∈ chan.sQueue.elems, p.IsMessage c
  /-- They carry the id of the connection. -/
  conId : ∀ p ∈ chan.sQueue.elems, p.conId = connId

namespace Glbctx

/-- What the sending half of channel `c` keeps, whatever the state of its slot. -/
structure SoundSend (c : ℕ) (side : Glbqueue Glbpkg × UInt32 × UInt8) : Prop where
  /-- The size of the queue is the one it was made with. -/
  capacity : side.1.capacity = channelQueueSize
  /-- The numbers count up to the one the next message gets. -/
  counts : CountsUpTo (side.1.elems.map fun p ↦ p.header.seq) side.2.1
  /-- The queue holds messages of this channel. -/
  messages : ∀ p ∈ side.1.elems, p.IsMessage c

variable {ctx ctx' : Glbctx cfg} {op : Op cfg} {i : Fin cfg.connectionCount}
  {c : Fin cfg.channelCount} {chan chan' : Glbchannel}

/-! ### The receiving half -/

/-- Nothing changes the size of a receive queue. -/
theorem RecvChange.capacity {side : Glbqueue Glbpkg × UInt32 × UInt8}
    (h : RecvChange ctx i c chan op side) : side.1.capacity = chan.rQueue.capacity := by
  rcases h with - | - | -
  · rfl
  · rw [Glbqueue.toBoundedQueue_pop, BoundedQueue.capacity_drop]
  · rw [Glbqueue.toBoundedQueue_push, BoundedQueue.capacity_offer]

/-! ### The sending half -/

theorem soundSend_of_isOpened {config : Glbchan} {seq ack : UInt32}
    (h : chan.IsOpened config seq ack) : SoundSend c chan.sendSide where
  capacity := h.sQueue.capacity
  counts := by
    show CountsUpTo (chan.sQueue.elems.map _) _
    rw [h.sQueue.elems]
    exact .nil _
  messages := by
    show ∀ p ∈ chan.sQueue.elems, _
    rw [h.sQueue.elems]
    simp

/-- A call of `glb_send` that succeeds has a message of an admissible length. -/
theorem length_of_success {info : Glbsendinfo cfg.connectionCount} {now : ℕ} {data : List UInt8}
    (h : ctx.glbSend info now = some (.success, ctx')) (hdata : info.data = some data) :
    1 ≤ data.length ∧ data.length ≤ gilbertaMtu := by
  rw [glbSend] at h
  split at h
  · next i data' hcon hdata' =>
    obtain rfl := Option.some_inj.1 (hdata'.symm.trans hdata)
    split at h
    · cases h
    next hlen =>
    split at h
    · split at h
      · cases h
      next hmtu => exact ⟨Nat.one_le_iff_ne_zero.2 hlen, not_lt.1 hmtu⟩
    · cases h
  · cases h

/-- **A call of `glb_send` that fails changes no connection.** -/
theorem connections_of_failure {info : Glbsendinfo cfg.connectionCount} {now : ℕ}
    {code : GLBErrorCode} (h : ctx.glbSend info now = some (code, ctx')) (hcode : code ≠ .success) :
    ctx'.connections = ctx.connections := by
  rcases glbSend_effect h with ⟨error, -⟩ | -
  · rfl
  · exact absurd rfl hcode

theorem isMessage_sendPkg {connId : Glbconid} {channelId : UInt8} {data : List UInt8} {now : ℕ}
    (hc : channelId.toNat = c.val) (hlen : 1 ≤ data.length ∧ data.length ≤ gilbertaMtu) :
    (sendPkg connId chan channelId data now).IsMessage c := by
  have hpayload : (sendPkg connId chan channelId data now).header.payloadLen.toNat =
      data.length := by
    have hmtu : gilbertaMtu < 2 ^ 16 := by decide
    exact UInt16.toNat_ofNat_of_lt' (lt_of_le_of_lt hlen.2 hmtu)
  exact ⟨rfl, hc, hpayload ▸ hlen.1, hpayload ▸ hlen.2⟩

/-- Queuing the next message. -/
theorem SoundSend.queued (h : SoundSend c chan.sendSide) {pkg : Glbpkg} (hmsg : pkg.IsMessage c)
    (hseq : pkg.header.seq = chan.seq) (hroom : chan.sQueue.isFull = false) :
    SoundSend c (queuedChan chan pkg).sendSide where
  capacity := by
    show (chan.sQueue.push pkg).2.capacity = _
    rw [Glbqueue.toBoundedQueue_push, BoundedQueue.capacity_offer]
    exact h.capacity
  counts := by
    show CountsUpTo ((queuedChan chan pkg).sQueue.elems.map _) (chan.seq + 1)
    rw [elems_queuedChan hroom, List.map_append, List.map_singleton, hseq]
    exact .snoc h.counts
  messages := by
    show ∀ p ∈ (queuedChan chan pkg).sQueue.elems, _
    rw [elems_queuedChan hroom]
    intro p hp
    rcases List.mem_append.1 hp with hp | hp
    · exact h.messages p hp
    · rwa [List.mem_singleton.1 hp]

/-- Dropping the oldest message. -/
theorem SoundSend.popped (h : SoundSend c chan.sendSide) :
    SoundSend c (chan.sQueue.pop.2.2, chan.seq, chan.flags) where
  capacity := by
    rw [Glbqueue.toBoundedQueue_pop, BoundedQueue.capacity_drop]
    exact h.capacity
  counts := by
    have hcounts : CountsUpTo (chan.sQueue.elems.map _) _ := h.counts
    rw [Glbqueue.toBoundedQueue_pop, BoundedQueue.elems_drop]
    rcases helems : chan.sQueue.elems with - | ⟨p, ps⟩
    · exact .nil _
    · rw [helems, List.map_cons] at hcounts
      exact hcounts.tail
  messages := by
    rw [Glbqueue.toBoundedQueue_pop, BoundedQueue.elems_drop]
    exact fun p hp ↦ h.messages p (List.mem_of_mem_tail hp)

/-- Sending the oldest message changes its checksum, its deadline and its count only. -/
theorem SoundSend.kept (h : SoundSend c chan.sendSide) (now : ℕ) :
    SoundSend c (chan.sQueue.writeHead (retransmitted · now), chan.seq, chan.flags) where
  capacity := h.capacity
  counts := by
    have hcounts : CountsUpTo (chan.sQueue.elems.map fun p ↦ p.header.seq) _ := h.counts
    show CountsUpTo ((chan.sQueue.elems.modifyHead (retransmitted · now)).map _) _
    rcases helems : chan.sQueue.elems with - | ⟨p, ps⟩ <;> rw [helems] at hcounts <;> exact hcounts
  messages := by
    show ∀ p ∈ chan.sQueue.elems.modifyHead (retransmitted · now), _
    have hmessages : ∀ p ∈ chan.sQueue.elems, _ := h.messages
    rcases helems : chan.sQueue.elems with - | ⟨q, qs⟩
    · simp
    · rw [helems] at hmessages
      intro p hp
      rcases List.mem_cons.1 hp with rfl | hp
      · obtain ⟨hflags, hc, hone, hmtu⟩ := hmessages q List.mem_cons_self
        exact ⟨hflags, hc, hone, hmtu⟩
      · exact hmessages p (List.mem_cons_of_mem _ hp)

/-- A step keeps the sending half sound. -/
theorem soundSend_step (hI : SoundSend c chan.sendSide) (h : Step ctx op ctx')
    (hchan : ctx.HasChannel i c chan) (h' : ctx'.HasChannel i c chan')
    (hsend : SendChange ctx i c chan op chan'.sendSide) : SoundSend c chan'.sendSide := by
  generalize hside : chan'.sendSide = side at hsend
  rcases hsend with - | ⟨hcon, hdata, hc, hroom⟩ | - | ⟨htrans⟩
  · exact hI
  · rename_i info now data
    obtain ⟨⟨code, ctx₁⟩, hsent, rfl⟩ := Option.map_eq_some_iff.1 h
    by_cases hcode : code = .success
    · subst hcode
      exact hI.queued (isMessage_sendPkg hc (length_of_success hsent hdata)) rfl hroom
    · -- a refused message is not queued
      have hsame : ctx.HasChannel i c chan' := by
        rwa [HasChannel, connections_of_failure hsent hcode] at h'
      obtain rfl := hsame.unique hchan
      rwa [hside] at hI
  · exact hI.popped
  · rcases htrans with - | ⟨now, -⟩ | -
    · exact hI
    · exact hI.kept now
    · exact hI.popped

/-! ### All channels -/

/-- Every channel of every slot has queues of the size they were made with and a sound sending
half. -/
def Sound (ctx : Glbctx cfg) : Prop :=
  ∀ i c chan, ctx.HasChannel i c chan →
    chan.rQueue.capacity = channelQueueSize ∧ SoundSend c chan.sendSide

theorem sound_init : Sound (init cfg) := by
  rintro i c chan ⟨chs, hchs, -⟩
  cases hchs

theorem sound_step (hI : Sound ctx) (h : Step ctx op ctx') : Sound ctx' := by
  intro i c chan' hchan'
  rcases step_channel h hchan' with ⟨ack, -, hopened⟩ | ⟨chan, hchan, hrecv, hsend⟩
  · exact ⟨hopened.rQueue.capacity, soundSend_of_isOpened hopened⟩
  · obtain ⟨hcapacity, hsound⟩ := hI i c chan hchan
    exact ⟨hrecv.capacity.trans hcapacity, soundSend_step hsound h hchan hchan' hsend⟩

/-! ### The id of the connection -/

/-- A slot is established or closing. -/
def IsOpen (ctx : Glbctx cfg) (i : Fin cfg.connectionCount) : Prop :=
  (ctx.connections i).state = .established ∨ (ctx.connections i).state = .finSent

/-- The messages of an established or closing connection carry its id. -/
def Owned (ctx : Glbctx cfg) : Prop :=
  ∀ i c chan, ctx.IsOpen i → ctx.HasChannel i c chan →
    ∀ p ∈ chan.sQueue.elems, p.conId = (ctx.connections i).connId

theorem owned_init : Owned (init cfg) := by
  rintro i c chan - ⟨chs, hchs, -⟩
  cases hchs

/-- A slot that is established or closing after a step was so before, with the same id unless it was
connected in between, or the step gave it new channels. -/
theorem isOpen_step (h : Step ctx op ctx') (hopen : ctx'.IsOpen i) :
    ctx.IsOpen i ∧ (op.Allowed ctx → (ctx'.connections i).connId = (ctx.connections i).connId) ∨
      ∀ c chan', ctx'.HasChannel i c chan' → ∃ config seq ack, chan'.IsOpened config seq ack := by
  have hfresh : ∀ {chs : Glbchannels cfg.channelCount} {a' : Allocator} {seq ack : UInt32},
      IsNewArray ctx.allocator a' chs →
      (ctx'.connections i).channels = some (chs.withCounters seq ack) →
      ∀ c chan', ctx'.HasChannel i c chan' → ∃ config seq ack, chan'.IsOpened config seq ack := by
    rintro chs a' seq ack hnew hchs c chan' ⟨chs', hchs', rfl⟩
    obtain rfl := Option.some_inj.1 (hchs'.symm.trans hchs)
    obtain ⟨hs, hr, hflags, hprio⟩ := hnew.chan c
    exact ⟨_, seq, ack, ⟨hs, hr, hflags, hprio⟩, rfl, rfl⟩
  rcases slot_effect h i with hsame | ⟨a', evs, hchange⟩
  · refine Or.inl ⟨?_, fun _ ↦ hsame.connId⟩
    rwa [IsOpen, hsame.state] at hopen
  rw [IsOpen] at hopen
  generalize hself : ctx'.connections i = con' at hopen hchange hfresh ⊢
  cases hchange with
  | connected hi =>
    dsimp only at hopen
    split at hopen
    · simp at hopen
    · refine Or.inl ⟨hopen, fun hallowed ↦ ?_⟩
      -- the caller connects slot 0 only while it is closed
      have hclosed : (ctx.connections i).state = .closed := hallowed i hi
      rw [hclosed] at hopen
      simp at hopen
  | finSent hstate => exact Or.inl ⟨Or.inl hstate, fun _ ↦ rfl⟩
  | accepted _ _ _ hnew => exact Or.inr (hfresh hnew rfl)
  | synAcked _ _ _ hnew => exact Or.inr (hfresh hnew rfl)
  | opened _ _ _ hstate' => rw [hstate'] at hopen; simp at hopen
  | closed _ _ hstate' => rw [hstate'] at hopen; simp at hopen
  | reopened | reset | gaveUp | dropped => simp at hopen

theorem owned_step (hI : Owned ctx) (h : Step ctx op ctx') (hallowed : op.Allowed ctx) :
    Owned ctx' := by
  intro i c chan' hopen' hchan' p hp
  rcases isOpen_step h hopen' with ⟨hopen, hid⟩ | hnew
  swap
  · obtain ⟨config, seq, ack, hopened⟩ := hnew c chan' hchan'
    rw [hopened.sQueue.elems] at hp
    simp at hp
  rw [hid hallowed]
  rcases step_channel h hchan' with ⟨ack, -, hopened⟩ | ⟨chan, hchan, -, hsend⟩
  · rw [hopened.sQueue.elems] at hp
    simp at hp
  generalize hside : chan'.sendSide = side at hsend
  obtain ⟨hq, -⟩ := Glbchannel.sendSide_eq_iff.1 hside
  rw [hq] at hp
  rcases hsend with - | ⟨-, -, -, hroom⟩ | - | ⟨htrans⟩
  · exact hI i c chan hopen hchan p hp
  · have hp : p ∈ (queuedChan chan _).sQueue.elems := hp
    rw [elems_queuedChan hroom] at hp
    rcases List.mem_append.1 hp with hp | hp
    · exact hI i c chan hopen hchan p hp
    · rw [List.mem_singleton.1 hp]
      rfl
  · rw [Glbqueue.toBoundedQueue_pop, BoundedQueue.elems_drop] at hp
    exact hI i c chan hopen hchan p (List.mem_of_mem_tail hp)
  · obtain ⟨q, hmem, rfl | ⟨now, rfl⟩⟩ := mem_of_transmitted htrans hp
    · exact hI i c chan hopen hchan _ hmem
    · exact hI i c chan hopen hchan q hmem

/-! ### Whole runs -/

theorem Sound.wellFormed (hI : Sound ctx) (howned : Owned ctx) (hopen : ctx.IsOpen i)
    (hchan : ctx.HasChannel i c chan) : chan.WellFormed c (ctx.connections i).connId := by
  obtain ⟨hcapacity, hsound⟩ := hI i c chan hchan
  have hs : chan.sQueue.capacity = channelQueueSize := hsound.capacity
  have hsLength := chan.sQueue.length_le
  have hrLength := chan.rQueue.length_le
  rw [hs] at hsLength
  rw [hcapacity] at hrLength
  exact ⟨hsLength, hrLength, hsound.counts, hsound.messages, howned i c chan hopen hchan⟩

/-- **Channels are well formed in every reachable state.** Of a context with slots, after a run in
which `glb_connect` was only called while slot 0 was closed: every established or closing connection
has a channel array, and all its channels are well formed; every public function, every part of a
tick and a whole tick are defined as long as the allocator does not fail, provided that
`glb_popdata` is called on established and closing connections only; and a call of `glb_send` that
fails leaves every connection, and with it every sequence number, as it was. -/
theorem wellFormed_of_run {ts : List (Transition cfg)} (hcount : 0 < cfg.connectionCount)
    (hrun : Run ts ctx) (hallowed : ∀ x ∈ ts, x.2.1.Allowed x.1) :
    (∀ i, ctx.IsOpen i → ∃ chs, (ctx.connections i).channels = some chs ∧
      ∀ c, (chs.chan c).WellFormed c (ctx.connections i).connId) ∧
    (∀ op : Op cfg, op.Provided → op.PopsOpen ctx → ∃ ctx', Step ctx op ctx') ∧
    (∀ (reads : List (ReadResult × Env)) (envs : Fin cfg.connectionCount → Env),
      (∀ r ∈ reads, r.2.MallocOk) → ∃ ctx', ctx.glbTick reads envs = some ctx') ∧
    ∀ (info : Glbsendinfo cfg.connectionCount) (now : ℕ),
      ∃ code ctx', ctx.glbSend info now = some (code, ctx') ∧
        (code ≠ .success → ctx'.connections = ctx.connections) := by
  have hheld := arraysHeld_of_run hrun
  have hsound := (hrun.invariant_of_state (C := fun _ ↦ True)
    (fun _ _ _ hI hstep _ ↦ sound_step hI hstep) sound_init fun _ _ ↦ trivial).1
  have howned := (hrun.invariant_of_state (I := Owned)
    (fun _ _ _ hI hstep hx ↦ owned_step hI hstep hx) owned_init hallowed).1
  refine ⟨fun i hopen ↦ ?_, fun op hok hpop ↦ exists_step hcount hheld hok hpop,
    fun reads envs hok ↦ exists_glbTick hcount hheld reads hok envs, fun info now ↦ ?_⟩
  · obtain ⟨chs, hchs⟩ := Option.isSome_iff_exists.1 (hheld i hopen)
    exact ⟨chs, hchs, fun c ↦ hsound.wellFormed howned hopen ⟨chs, hchs, rfl⟩⟩
  · obtain ⟨⟨code, ctx'⟩, hsent⟩ := exists_glbSend hheld info now
    exact ⟨code, ctx', hsent, connections_of_failure hsent⟩

/-- A server accepts a connection and queues two messages: the channel is well formed, with both of
them in its send queue. -/
theorem wellFormed_of_run_sample : ∃ ts ctx, @Run Glbcfg.sampleServer ts ctx ∧ ∃ chs,
    (ctx.connections ⟨0, by decide⟩).channels = some chs ∧
      (chs.chan ⟨0, by decide⟩).sQueue.elems.length = 2 ∧
      (chs.chan ⟨0, by decide⟩).WellFormed 0 ⟨1, 0⟩ := by
  let info : Glbsendinfo Glbcfg.sampleServer.connectionCount := ⟨some [7], some ⟨0, by decide⟩, 0⟩
  let ops : List (Op Glbcfg.sampleServer) :=
    [.packet (glbpkgInit ⟨0xFFFF, 0⟩ ctrlFlagSyn 0) .samplePeer (Env.at 1),
      .packet (glbpkgInit ⟨1, 0⟩ ctrlFlagAck 0) .samplePeer (Env.at 2),
      .send info 3, .send info 3]
  have hend : (Execution.perform step ops (init _)).map (fun r ↦
      ((r.2.connections ⟨0, by decide⟩).state, (r.2.connections ⟨0, by decide⟩).connId,
        (r.2.connections ⟨0, by decide⟩).channels.map fun chs ↦
          (chs.chan ⟨0, by decide⟩).sQueue.elems.length)) =
      some (.established, ⟨1, 0⟩, some 2) := by decide
  have hops : ∀ r ∈ Execution.perform step ops (init _), ∀ x ∈ r.1, x.2.1.Allowed x.1 := by decide
  obtain ⟨r, hr, hend⟩ := Option.map_eq_some_iff.1 hend
  obtain ⟨hest, hend⟩ := Prod.mk.inj hend
  obtain ⟨hid, hlen⟩ := Prod.mk.inj hend
  obtain ⟨chs, hchs, hwell⟩ := (wellFormed_of_run (by decide) (run_of_perform hr) (hops r hr)).1
    ⟨0, by decide⟩ (Or.inl hest)
  have hchan := hwell ⟨0, by decide⟩
  rw [hchs, Option.map_some, Option.some_inj] at hlen
  rw [hid] at hchan
  exact ⟨r.1, r.2, run_of_perform hr, chs, hchs, hlen, hchan⟩

end Glbctx

end Gilberta
