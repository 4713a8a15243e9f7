import Gilberta.Effects.Channels

/-!
# RECEIVE events and the messages they announce

An application that follows the examples polls one event after the other and pops one message for
each RECEIVE event, and never calls `glb_popdata` otherwise. That works as long as the RECEIVE
events of a channel in the event queue are as many as the messages in its receive queue.

`events_match_iff` says exactly when this stays true for every established connection: when every
message that is taken finds room in both queues or in neither, and a slot becomes established only
after the application polled the RECEIVE events of the connection it had before. The two queues have
independent bounds, and one event queue serves all channels, so neither is guaranteed.
-/

namespace Gilberta

variable {cfg : Glbcfg}

/-! ### The application -/

/-- What happens in a run of an application that follows the examples: an operation of the library,
or one turn of the polling loop, with the buffer size it uses. -/
inductive AppOp (cfg : Glbcfg)
  | lib (op : Op cfg)
  | serve (buflen : ℕ)

namespace Glbctx

/-- One turn of the polling loop: poll an event, and if it announces a message pop that message. -/
def serve (ctx : Glbctx cfg) (buflen : ℕ) : Option (Glbctx cfg) :=
  match ctx.glbPollevent with
  | (.success, some (.receive i channel), ctx) =>
    (ctx.glbPopdata ⟨true, some i, buflen, channel⟩).map fun r ↦ r.2.2
  | (_, _, ctx) => some ctx

/-- The effect of one step of an application. -/
def appStep (ctx : Glbctx cfg) : AppOp cfg → Option (Glbctx cfg)
  | .lib op => ctx.step op
  | .serve buflen => ctx.serve buflen

/-- A run of an application from the creation of its context on. -/
abbrev AppRun (ts : List (Glbctx cfg × AppOp cfg × Glbctx cfg)) (ctx : Glbctx cfg) : Prop :=
  Execution (fun ctx aop ctx' ↦ ctx.appStep aop = some ctx') (init cfg) ts ctx

end Glbctx

/-- The application polls and pops in its loop only, and its buffer is large enough for whatever
is waiting. -/
def AppOp.Disciplined (ctx : Glbctx cfg) : AppOp cfg → Prop
  | .lib .pollevent => False
  | .lib (.popdata _) => False
  | .lib _ => True
  | .serve buflen => buflen ≠ 0 ∧ ∀ i c chan, ctx.HasChannel i c chan →
      ∀ pkg ∈ chan.rQueue.elems, pkg.header.payloadLen.toNat ≤ buflen

instance (ctx : Glbctx cfg) : (aop : AppOp cfg) → Decidable (aop.Disciplined ctx)
  | .serve buflen =>
    decidable_of_iff (buflen ≠ 0 ∧ ∀ i, ∀ chs ∈ (ctx.connections i).channels, ∀ c,
      ∀ pkg ∈ (chs.chan c).rQueue.elems, pkg.header.payloadLen.toNat ≤ buflen)
      ⟨fun h ↦ ⟨h.1, fun i c _ ⟨chs, hchs, hc⟩ ↦ hc ▸ h.2 i chs hchs c⟩,
        fun h ↦ ⟨h.1, fun i chs hchs c ↦ h.2 i c _ ⟨chs, hchs, rfl⟩⟩⟩
  | .lib .pollevent | .lib (.popdata _) => inferInstanceAs (Decidable False)
  | .lib (.connect _) | .lib (.close _ _) | .lib (.send _ _) | .lib .readError
  | .lib (.packet _ _ _) | .lib (.timers _ _) => inferInstanceAs (Decidable True)

/-! ### The property and its condition -/

/-- The number of a channel as events and packets carry it. -/
def Glbcfg.channelId (cfg : Glbcfg) (c : Fin cfg.channelCount) : UInt8 := UInt8.ofNat c.val

theorem Glbcfg.toNat_channelId (cfg : Glbcfg) (c : Fin cfg.channelCount) :
    (cfg.channelId c).toNat = c.val := by
  have hlt : c.val < 256 := Nat.lt_trans c.isLt cfg.channels_lt
  rw [channelId, UInt8.toNat_ofNat']
  exact Nat.mod_eq_of_lt hlt

theorem Glbcfg.eq_channelId {c : Fin cfg.channelCount} {channel : UInt8}
    (h : channel.toNat = c.val) : channel = cfg.channelId c :=
  UInt8.toNat_inj.1 (h.trans (cfg.toNat_channelId c).symm)

namespace Glbctx

/-- The RECEIVE events of a channel in the event queue. -/
def queuedReceives (ctx : Glbctx cfg) (i : Fin cfg.connectionCount) (c : Fin cfg.channelCount) :
    ℕ := ctx.eventqueue.elems.count (.receive i (cfg.channelId c))

/-- Every established connection has as many RECEIVE events in the event queue as it has messages
to be received, channel by channel. -/
def EventsMatch (ctx : Glbctx cfg) : Prop :=
  ∀ i c chan, (ctx.connections i).state = .established → ctx.HasChannel i c chan →
    ctx.queuedReceives i c = chan.rQueue.elems.length

/-- No RECEIVE event of slot `i` is waiting to be polled. -/
def NoneWaiting (ctx : Glbctx cfg) (i : Fin cfg.connectionCount) : Prop :=
  ∀ ev ∈ ctx.eventqueue.elems, ev.connection = i → ev.isReceive = false

/-- The event queue when the RECEIVE event of a packet from `from_` for slot `i` is pushed. -/
def queueAtReceive (ctx : Glbctx cfg) (i : Fin cfg.connectionCount) (from_ : Glbaddr) :
    BoundedQueue (Glbevent cfg.connectionCount) :=
  if (ctx.connections i).peerAddr = from_ then ctx.eventqueue.toBoundedQueue
  else ctx.eventqueue.offer (.migration i)

/-- The packet will be taken into the receive queue of channel `c` of slot `i`. -/
structure Takes (ctx : Glbctx cfg) (pkg : Glbpkg) (from_ : Glbaddr)
    (i : Fin cfg.connectionCount) (c : Fin cfg.channelCount)
    (chs : Glbchannels cfg.channelCount) : Prop extends pkg.Reaches ctx i c chs where
  /-- On a reliable channel it is the next one. -/
  next : (chs.chan c).reliable = true → pkg.header.seq = (chs.chan c).ack
  /-- On an unreliable channel it comes from the address of the slot. -/
  addr : (chs.chan c).reliable = false → (ctx.connections i).peerAddr = from_

end Glbctx

/-- An operation that keeps events and messages together: a DATA packet that is taken finds room in
both queues or in neither, and no RECEIVE event of a slot is waiting when an ACK or a SYN|ACK makes
it established. -/
def AppOp.Matched (ctx : Glbctx cfg) : AppOp cfg → Prop
  | .lib (.packet pkg from_ env) =>
    (pkg.header.ctrlFlags = ctrlFlagData → ∀ i c chs, ctx.Takes pkg from_ i c chs →
      (ctx.queueAtReceive i from_).isFull = (chs.chan c).rQueue.isFull) ∧
    (pkg.header.ctrlFlags = ctrlFlagAck → ∀ i, pkg.Finds ctx i →
      (ctx.connections i).state = .synRcvd → ctx.NoneWaiting i) ∧
    (pkg.header.ctrlFlags = ctrlFlagSynAck → ∀ i : Fin cfg.connectionCount, i.val = 0 →
      (ctx.connections i).state ≠ .established → env.sendOk 0 = true → ctx.NoneWaiting i)
  | _ => True

namespace Glbctx

instance (ctx : Glbctx cfg) (i : Fin cfg.connectionCount) : Decidable (ctx.NoneWaiting i) := by
  unfold NoneWaiting
  infer_instance

instance (ctx : Glbctx cfg) : (aop : AppOp cfg) → Decidable (aop.Matched ctx)
  | .lib (.packet pkg from_ _) =>
    have : Decidable (pkg.header.ctrlFlags = ctrlFlagData → ∀ i c chs,
        ctx.Takes pkg from_ i c chs →
          (ctx.queueAtReceive i from_).isFull = (chs.chan c).rQueue.isFull) :=
      decidable_of_iff (pkg.header.ctrlFlags = ctrlFlagData → ∀ i, pkg.Finds ctx i →
        (ctx.connections i).state = .established → ∀ c : Fin cfg.channelCount,
        pkg.header.channelId.toNat = c.val → ∀ chs ∈ (ctx.connections i).channels,
        ((chs.chan c).reliable = true → pkg.header.seq = (chs.chan c).ack) →
        ((chs.chan c).reliable = false → (ctx.connections i).peerAddr = from_) →
          (ctx.queueAtReceive i from_).isFull = (chs.chan c).rQueue.isFull)
        ⟨fun h hf i c chs ht ↦ h hf i ht.finds ht.established c ht.channel chs ht.channels ht.next
            ht.addr,
          fun h hf i hi hest c hc chs hchs hn ha ↦ h hf i c chs ⟨⟨hi, hest, hchs, hc⟩, hn, ha⟩⟩
    inferInstanceAs (Decidable (_ ∧ _ ∧ _))
  | .serve _ | .lib (.connect _) | .lib (.close _ _) | .lib (.send _ _) | .lib .pollevent
  | .lib (.popdata _) | .lib .readError | .lib (.timers _ _) => inferInstanceAs (Decidable True)

/-- The invariant: events and messages match, and every RECEIVE event names a channel. -/
structure Matching (ctx : Glbctx cfg) : Prop where
  /-- Events and messages match. -/
  events : ctx.EventsMatch
  /-- RECEIVE events are about channels that exist. -/
  channel : ∀ i channel, .receive i channel ∈ ctx.eventqueue.elems →
    channel.toNat < cfg.channelCount

variable {ctx ctx' : Glbctx cfg} {op : Op cfg}

theorem matching_init : Matching (init cfg) where
  events := by
    intro i c chan hest
    cases hest
  channel := by
    intro i channel hmem
    cases hmem

/-- A RECEIVE event is about the channel it names. -/
theorem receive_eq_iff {i j : Fin cfg.connectionCount} {channel : UInt8}
    {c d : Fin cfg.channelCount} (hc : channel.toNat = c.val) :
    Glbevent.receive i channel = .receive j (cfg.channelId d) ↔ j = i ∧ d = c := by
  rw [Glbevent.receive.injEq, cfg.eq_channelId hc]
  refine ⟨fun ⟨hj, hd⟩ ↦ ⟨hj.symm, Fin.ext ?_⟩, fun ⟨hj, hd⟩ ↦ ⟨hj.symm, by rw [hd]⟩⟩
  rw [← cfg.toNat_channelId d, ← cfg.toNat_channelId c, hd]

/-! ### Steps that announce no message -/

/-- An operation that neither polls nor receives offers no RECEIVE event and takes no event away. -/
theorem queue_of_silent (h : Step ctx op ctx') (hpoll : op ≠ .pollevent)
    (hrecv : ∀ i, ¬ op.Receives i) : ∃ evs : List (Glbevent cfg.connectionCount),
      (∀ ev ∈ evs, ev.isReceive = false) ∧ ctx'.eventqueue.toBoundedQueue =
        evs.foldl BoundedQueue.offer ctx.eventqueue.toBoundedQueue := by
  cases step_effect h with
  | quiet hq =>
    obtain ⟨evs, hevs, -, hqueue⟩ := hq.offered
    refine ⟨evs, fun ev hev ↦ ?_, hqueue hpoll⟩
    obtain ⟨-, -, hreceive⟩ := hevs ev hev
    simpa using mt hreceive (hrecv ev.connection)
  | @change i con' a' evs hb hchange =>
    refine ⟨evs, fun ev hev ↦ ?_, hb.queue⟩
    cases hchange with
    | connected | finSent | reopened | opened | dropped => cases hev
    | accepted | synAcked | reset | gaveUp => rw [List.mem_singleton.1 hev]; rfl
    | closed _ _ _ _ _ _ _ hevs =>
      rcases List.mem_append.1 hev with hev | hev
      · exact (hevs ev hev).2.2
      · rw [List.mem_singleton.1 hev]; rfl

/-- Offering events that announce no message changes no count of RECEIVE events. -/
theorem queuedReceives_of_foldl {evs : List (Glbevent cfg.connectionCount)}
    (hevs : ∀ ev ∈ evs, ev.isReceive = false) (hqueue : ctx'.eventqueue.toBoundedQueue =
      evs.foldl BoundedQueue.offer ctx.eventqueue.toBoundedQueue) (i : Fin cfg.connectionCount)
    (c : Fin cfg.channelCount) : ctx'.queuedReceives i c = ctx.queuedReceives i c := by
  rw [queuedReceives, hqueue]
  refine BoundedQueue.count_foldl_offer _ fun ev hev ↦ ?_
  rintro rfl
  cases hevs _ hev

theorem channel_of_foldl {evs : List (Glbevent cfg.connectionCount)}
    (hI : ctx.Matching) (hevs : ∀ ev ∈ evs, ev.isReceive = false)
    (hqueue : ctx'.eventqueue.toBoundedQueue =
      evs.foldl BoundedQueue.offer ctx.eventqueue.toBoundedQueue) :
    ∀ i channel, .receive i channel ∈ ctx'.eventqueue.elems →
      channel.toNat < cfg.channelCount := by
  intro i channel hmem
  rw [hqueue] at hmem
  rcases BoundedQueue.mem_foldl_offer _ hmem with hmem | hmem
  · exact hI.channel i channel hmem
  · exact absurd (hevs _ hmem) (by simp [Glbevent.isReceive])

/-- A waiting RECEIVE event is a counted one. -/
theorem noneWaiting_iff (hI : ctx.Matching) (i : Fin cfg.connectionCount) :
    ctx.NoneWaiting i ↔ ∀ c, ctx.queuedReceives i c = 0 := by
  constructor
  · intro hnone c
    refine List.count_eq_zero.2 fun hmem ↦ ?_
    cases hnone _ hmem rfl
  · intro hzero ev hmem hev
    cases ev with
    | receive j channel =>
      obtain rfl : j = i := hev
      have hchannel := hI.channel j channel hmem
      rw [cfg.eq_channelId (c := ⟨_, hchannel⟩) rfl] at hmem
      exact absurd hmem (List.count_eq_zero.1 (hzero ⟨_, hchannel⟩))
    | _ => rfl

/-- A step that establishes a slot handles its ACK or a SYN|ACK, and opens empty channels. -/
theorem opened_of_established {i : Fin cfg.connectionCount} (h : Step ctx op ctx')
    (hne : (ctx.connections i).state ≠ .established)
    (hest : (ctx'.connections i).state = .established) :
    ∃ pkg from_ env, op = .packet pkg from_ env ∧
      ((pkg.header.ctrlFlags = ctrlFlagAck ∧ pkg.Finds ctx i ∧
          (ctx.connections i).state = .synRcvd) ∨
        (pkg.header.ctrlFlags = ctrlFlagSynAck ∧ i.val = 0 ∧ env.sendOk 0 = true)) ∧
      ∀ c chan, ctx'.HasChannel i c chan → chan.rQueue.elems = [] := by
  obtain ⟨pkg, from_, env, hop, hcase, chs, a', seq, ack, hnew, hchs⟩ :=
    established_cases h hne hest
  refine ⟨pkg, from_, env, hop, hcase, fun c chan hchan ↦ ?_⟩
  obtain ⟨chs', hchs', rfl⟩ := hchan
  obtain rfl := Option.some_inj.1 (hchs'.symm.trans hchs)
  exact (hnew.chan c).rQueue.elems

/-- A step without traffic to receive keeps events and messages together if it is matched. -/
theorem matching_of_silent (hI : ctx.Matching) (h : Step ctx op ctx') (hpoll : op ≠ .pollevent)
    (hrecv : ∀ i, ¬ op.Receives i) (hmatched : AppOp.Matched ctx (.lib op)) : ctx'.Matching := by
  obtain ⟨evs, hevs, hqueue⟩ := queue_of_silent h hpoll hrecv
  refine ⟨fun i c chan' hest' hchan' ↦ ?_, channel_of_foldl hI hevs hqueue⟩
  rw [queuedReceives_of_foldl hevs hqueue]
  by_cases hest : (ctx.connections i).state = .established
  · -- the connection goes on, and its receive queues with it
    rcases step_channel h hchan' with ⟨ack, hopens, -⟩ | ⟨chan, hchan, hr, -⟩
    · exact absurd hest hopens.state_ne
    generalize hside : chan'.recvSide = side at hr
    cases hr with
    | same =>
      obtain ⟨hq, -⟩ := Glbchannel.recvSide_eq_iff.1 hside
      rw [hq]
      exact hI.events i c chan hest hchan
    | popped hcon => exact absurd hcon (hrecv i)
    | accepted hflags => exact absurd hflags (hrecv i)
  · -- the connection begins, with empty receive queues
    obtain ⟨pkg, from_, env, rfl, hcase, hempty⟩ := opened_of_established h hest hest'
    rw [hempty c chan' hchan', List.length_nil]
    obtain ⟨-, hack, hsynAck⟩ := hmatched
    rcases hcase with ⟨hflags, hfind, hstate⟩ | ⟨hflags, hi, hok⟩
    · exact (noneWaiting_iff hI i).1 (hack hflags i hfind hstate) c
    · exact (noneWaiting_iff hI i).1 (hsynAck hflags i hi hest hok) c

/-! ### DATA -/

/-- A step that changes neither the event queue nor what is waiting in the receive queues. -/
theorem matching_of_same (hI : ctx.Matching) (hqueue : ctx'.eventqueue = ctx.eventqueue)
    (hstate : ∀ i, (ctx'.connections i).state = (ctx.connections i).state)
    (hchannels : ∀ i, (ctx'.connections i).channels = (ctx.connections i).channels) :
    ctx'.Matching where
  events := by
    rintro i c chan hest ⟨chs, hchs, rfl⟩
    rw [queuedReceives, hqueue]
    exact hI.events i c _ (hstate i ▸ hest) ⟨chs, hchannels i ▸ hchs, rfl⟩
  channel := by
    rw [hqueue]
    exact hI.channel

/-- A MIGRATION event in front changes no count. -/
theorem count_queueAtReceive (i : Fin cfg.connectionCount) (from_ : Glbaddr)
    (j : Fin cfg.connectionCount) (d : Fin cfg.channelCount) :
    (ctx.queueAtReceive i from_).elems.count (.receive j (cfg.channelId d)) =
      ctx.queuedReceives j d := by
  rw [queueAtReceive, queuedReceives]
  split
  · rfl
  · rw [BoundedQueue.count_offer]
    simp

theorem mem_of_queueAtReceive {i j : Fin cfg.connectionCount} {from_ : Glbaddr} {channel : UInt8}
    (h : .receive j channel ∈ (ctx.queueAtReceive i from_).elems) :
    .receive j channel ∈ ctx.eventqueue.elems := by
  rw [queueAtReceive] at h
  split at h
  · exact h
  · rcases BoundedQueue.mem_offer h with hmem | heq
    · exact hmem
    · cases heq

/-- The event queue after a packet was taken. -/
theorem queue_of_takes {pkg : Glbpkg} {from_ : Glbaddr} {env : Env}
    {i : Fin cfg.connectionCount} {c : Fin cfg.channelCount} {chs : Glbchannels cfg.channelCount}
    (htakes : ctx.Takes pkg from_ i c chs) (h : DataEffect ctx pkg from_ env ctx') :
    ctx'.eventqueue.toBoundedQueue =
      (ctx.queueAtReceive i from_).offer (.receive i pkg.header.channelId) := by
  obtain ⟨hb, -⟩ := h.of_accepted htakes.toReaches htakes.next htakes.addr
  rw [hb.queue, queueAtReceive]
  split <;> rfl

/-- Taking a packet announces it if there is room in the event queue. -/
theorem queuedReceives_of_takes {pkg : Glbpkg} {from_ : Glbaddr} {env : Env}
    {i : Fin cfg.connectionCount} {c : Fin cfg.channelCount} {chs : Glbchannels cfg.channelCount}
    (htakes : ctx.Takes pkg from_ i c chs) (h : DataEffect ctx pkg from_ env ctx')
    (j : Fin cfg.connectionCount) (d : Fin cfg.channelCount) :
    ctx'.queuedReceives j d = ctx.queuedReceives j d +
      if (j = i ∧ d = c) ∧ (ctx.queueAtReceive i from_).isFull = false then 1 else 0 := by
  rw [queuedReceives, queue_of_takes htakes h, BoundedQueue.count_offer, count_queueAtReceive]
  simp only [receive_eq_iff htakes.channel]

/-- It stores the packet if there is room in the receive queue. -/
theorem length_acceptedChan (chan : Glbchannel) (pkg : Glbpkg) :
    (acceptedChan chan pkg).rQueue.elems.length =
      chan.rQueue.elems.length + if chan.rQueue.isFull = false then 1 else 0 := by
  rw [acceptedChan, Glbqueue.toBoundedQueue_push, BoundedQueue.length_offer]

/-- Taking a packet keeps events and messages together exactly when both queues treat it alike. -/
theorem eventsMatch_of_takes {pkg : Glbpkg} {from_ : Glbaddr} {env : Env}
    {i : Fin cfg.connectionCount} {c : Fin cfg.channelCount} {chs : Glbchannels cfg.channelCount}
    (hI : ctx.Matching) (htakes : ctx.Takes pkg from_ i c chs)
    (h : DataEffect ctx pkg from_ env ctx') :
    (ctx'.EventsMatch ↔ (ctx.queueAtReceive i from_).isFull = (chs.chan c).rQueue.isFull) ∧
    ∀ j channel, .receive j channel ∈ ctx'.eventqueue.elems →
      channel.toNat < cfg.channelCount := by
  obtain ⟨hb, -⟩ := h.of_accepted htakes.toReaches htakes.next htakes.addr
  have hself : ctx'.HasChannel i c (acceptedChan (chs.chan c) pkg) :=
    ⟨_, by rw [hb.self], if_pos rfl⟩
  have hest' : (ctx'.connections i).state = .established := by
    rw [hb.self]; exact htakes.established
  have hbefore := hI.events i c _ htakes.established ⟨chs, htakes.channels, rfl⟩
  refine ⟨⟨fun hmatch ↦ ?_, fun hfull j d chan' hestj hchan' ↦ ?_⟩, fun j channel hmem ↦ ?_⟩
  · have hafter := hmatch i c _ hest' hself
    rw [queuedReceives_of_takes htakes h, length_acceptedChan, hbefore] at hafter
    cases hq : (ctx.queueAtReceive i from_).isFull <;>
      cases hr : (chs.chan c).rQueue.isFull <;> simp [hq, hr] at hafter ⊢
  · rw [queuedReceives_of_takes htakes h]
    rcases hasChannel_of_set htakes.channels (by rw [hb.self])
      (fun k hk ↦ by rw [hb.of_ne k hk]) hchan' with ⟨rfl, rfl, rfl⟩ | ⟨hne, hchan⟩
    · rw [length_acceptedChan, hbefore, hfull]
      simp
    · rw [if_neg fun h ↦ hne h.1]
      refine hI.events j d chan' ?_ hchan
      by_cases hj : j = i
      · rw [hj]; exact htakes.established
      · rwa [hb.of_ne j hj] at hestj
  · rw [queue_of_takes htakes h] at hmem
    rcases BoundedQueue.mem_offer hmem with hmem | heq
    · exact hI.channel j channel (mem_of_queueAtReceive hmem)
    · obtain ⟨-, rfl⟩ := Glbevent.receive.inj heq
      rw [htakes.channel]
      exact c.isLt

/-- A matched DATA packet keeps events and messages together. -/
theorem matching_of_data {pkg : Glbpkg} {from_ : Glbaddr} {env : Env} (hI : ctx.Matching)
    (hdata : pkg.header.ctrlFlags = ctrlFlagData) (h : Step ctx (.packet pkg from_ env) ctx')
    (hmatched : AppOp.Matched ctx (.lib (.packet pkg from_ env))) : ctx'.Matching := by
  have heffect := onData_effect ((handlePacket_of_data hdata).symm.trans h)
  cases id heffect with
  | ignored heq => rw [heq]; exact hI
  | old _ _ _ _ heq =>
    subst heq
    exact matching_of_same hI (by simp) (by simp) (by simp)
  | @future i _ _ _ _ _ _ heq =>
    subst heq
    refine matching_of_same hI (by simp) (fun j ↦ ?_) (fun j ↦ ?_) <;>
    · by_cases hj : j = i
      · rw [hj]; simp
      · rw [connections_setCon_of_ne _ _ hj]
  | accepted hreach hseq haddr =>
    have htakes : ctx.Takes pkg from_ _ _ _ := ⟨hreach, hseq, haddr⟩
    obtain ⟨hiff, hchannel⟩ := eventsMatch_of_takes hI htakes heffect
    exact ⟨hiff.2 (hmatched.1 hdata _ _ _ htakes), hchannel⟩

/-! ### The polling loop -/

theorem glbPollevent_cases (ctx : Glbctx cfg) :
    (ctx.eventqueue.elems = [] ∧ ctx.glbPollevent = (.queueEmpty, none, ctx)) ∨
    ∃ ev q, ctx.eventqueue.elems = ev :: q.elems ∧
      ctx.glbPollevent = (.success, some ev, { ctx with eventqueue := q }) := by
  rw [glbPollevent]
  rcases hpop : ctx.eventqueue.pop? with - | ⟨ev, q⟩
  · have hnil := BoundedQueue.pop?_eq_none_iff.1 hpop
    exact Or.inl ⟨hnil, by simp [hnil]⟩
  · obtain ⟨helems, -, -⟩ := BoundedQueue.pop?_eq_some hpop
    refine Or.inr ⟨ev, { q with block := ctx.eventqueue.block }, helems, ?_⟩
    rw [if_pos (by simp [helems]), Glbqueue.pop, hpop]

/-- Polling an event that announces no message. -/
theorem matching_of_polled {ev : Glbevent cfg.connectionCount}
    {q : Glbqueue (Glbevent cfg.connectionCount)} (hI : ctx.Matching)
    (helems : ctx.eventqueue.elems = ev :: q.elems) (hev : ev.isReceive = false) :
    Matching { ctx with eventqueue := q } where
  events := by
    intro i c chan hest hchan
    have hne : ev ≠ .receive i (cfg.channelId c) := by rintro rfl; cases hev
    have hbefore := hI.events i c chan hest hchan
    rwa [queuedReceives, helems, List.count_cons_of_ne hne] at hbefore
  channel := by
    intro i channel hmem
    exact hI.channel i channel (by rw [helems]; exact List.mem_cons_of_mem _ hmem)

/-- Polling a RECEIVE event leaves one less for its channel. -/
theorem queuedReceives_of_polled {i : Fin cfg.connectionCount} {channel : UInt8}
    {c : Fin cfg.channelCount} {q : Glbqueue (Glbevent cfg.connectionCount)}
    (helems : ctx.eventqueue.elems = .receive i channel :: q.elems) (hc : channel.toNat = c.val)
    (j : Fin cfg.connectionCount) (d : Fin cfg.channelCount) : ctx.queuedReceives j d =
      q.elems.count (.receive j (cfg.channelId d)) + if j = i ∧ d = c then 1 else 0 := by
  rw [queuedReceives, helems, List.count_cons]
  simp only [beq_iff_eq, receive_eq_iff hc]

/-- A turn of the polling loop keeps events and messages together. -/
theorem matching_of_serve {buflen : ℕ} (hI : ctx.Matching)
    (hbuf : AppOp.Disciplined ctx (.serve buflen)) (h : ctx.serve buflen = some ctx') :
    ctx'.Matching := by
  rw [serve] at h
  rcases glbPollevent_cases ctx with ⟨-, hpoll⟩ | ⟨ev, q, helems, hpoll⟩
  · rw [hpoll] at h
    cases h
    exact hI
  rw [hpoll] at h
  cases ev with
  | connect | disconnect | migration | stalled =>
    cases h
    exact matching_of_polled hI helems rfl
  | receive i channel =>
    obtain ⟨⟨code, data, ctx₁⟩, hpop, rfl⟩ := Option.map_eq_some_iff.1 h
    have hmem : .receive i channel ∈ ctx.eventqueue.elems := by
      rw [helems]; exact List.mem_cons_self
    obtain ⟨c, hc⟩ : ∃ c : Fin cfg.channelCount, channel.toNat = c.val :=
      ⟨⟨_, hI.channel i channel hmem⟩, rfl⟩
    have hcount := queuedReceives_of_polled helems hc
    have hchannel : ∀ j channel, .receive j channel ∈ q.elems → channel.toNat < cfg.channelCount :=
      fun j channel hmem ↦ hI.channel j channel (by rw [helems]; exact List.mem_cons_of_mem _ hmem)
    cases glbPopdata_effect hpop with
    | failed _ hnot =>
      refine ⟨fun j d chan hest hchan ↦ ?_, hchannel⟩
      have hbefore := hI.events j d chan hest hchan
      rw [hcount] at hbefore
      by_cases heq : j = i ∧ d = c
      · -- a message is waiting, and it would have been popped
        obtain ⟨rfl, rfl⟩ := heq
        rw [if_pos ⟨rfl, rfl⟩] at hbefore
        have hpos : 0 < chan.rQueue.elems.length := by omega
        obtain ⟨pkg, rest, hhead⟩ := List.exists_cons_of_length_pos hpos
        obtain ⟨chs, hchs, rfl⟩ := hchan
        have hfits := hbuf.2 j d _ ⟨chs, hchs, rfl⟩ pkg (by rw [hhead]; exact List.mem_cons_self)
        have hsmall := hnot j d chs pkg rest rfl hc hchs hhead rfl hbuf.1
        exact absurd hfits (Nat.not_le.2 hsmall)
      · rwa [if_neg heq] at hbefore
    | @popped i' c' chs pkg rest hcon hc' hchs hhead =>
      obtain rfl : i = i' := Option.some_inj.1 hcon
      obtain rfl : c = c' := Fin.ext (hc.symm.trans hc')
      refine ⟨fun j d chan' hest hchan' ↦ ?_, hchannel⟩
      rcases hasChannel_setChan hchs hchan' with ⟨rfl, rfl, rfl⟩ | ⟨hne, hchan⟩
      · -- one event and one message of this channel are gone
        have hest' : (ctx.connections j).state = .established := by simpa [setChan] using hest
        have hbefore := hI.events j d _ hest' ⟨chs, hchs, rfl⟩
        rw [hcount, if_pos ⟨rfl, rfl⟩, hhead, List.length_cons] at hbefore
        show q.elems.count _ = _
        rw [Glbqueue.toBoundedQueue_pop, BoundedQueue.elems_drop, hhead, List.tail_cons]
        exact Nat.succ.inj hbefore
      · have hest' : (ctx.connections j).state = .established := by
          by_cases hj : j = i
          · subst hj; simpa [setChan] using hest
          · rwa [setChan, connections_setCon_of_ne _ _ hj] at hest
        have hbefore := hI.events j d chan' hest' hchan
        rwa [hcount, if_neg hne] at hbefore

/-! ### The condition is exact -/

/-- A matched step keeps events and messages together. -/
theorem matching_step {aop : AppOp cfg} (hI : ctx.Matching) (hdisc : aop.Disciplined ctx)
    (hmatched : aop.Matched ctx) (h : ctx.appStep aop = some ctx') : ctx'.Matching := by
  cases aop with
  | serve buflen => exact matching_of_serve hI hdisc h
  | lib op =>
    have h : Step ctx op ctx' := h
    by_cases hdata : op.Handles ctrlFlagData
    · cases op with
      | packet pkg from_ env => exact matching_of_data hI hdata h hmatched
      | _ => exact absurd hdata id
    · refine matching_of_silent hI h ?_ ?_ hmatched
      · rintro rfl
        exact hdisc
      · intro i hrecv
        cases op with
        | popdata => exact hdisc
        | packet => exact hdata hrecv
        | _ => exact hrecv

/-- A packet that opens a connection is handled after the RECEIVE events of the slot were polled, if
events and messages match afterwards. -/
theorem noneWaiting_of_eventsMatch {pkg : Glbpkg} {from_ : Glbaddr} {env : Env}
    {i : Fin cfg.connectionCount} (hI : ctx.Matching) (h : Step ctx (.packet pkg from_ env) ctx')
    (hdata : pkg.header.ctrlFlags ≠ ctrlFlagData)
    (hne : (ctx.connections i).state ≠ .established)
    (hest : (ctx'.connections i).state = .established)
    (hsome : (ctx'.connections i).channels ≠ none) (hmatch : ctx'.EventsMatch) :
    ctx.NoneWaiting i := by
  obtain ⟨chs, hchs⟩ := Option.ne_none_iff_exists'.1 hsome
  obtain ⟨-, -, -, -, -, hempty⟩ := opened_of_established h hne hest
  obtain ⟨evs, hevs, hqueue⟩ := queue_of_silent h (fun h ↦ by cases h) fun _ ↦ hdata
  refine (noneWaiting_iff hI i).2 fun c ↦ ?_
  have hcount := hmatch i c _ hest ⟨chs, hchs, rfl⟩
  rwa [queuedReceives_of_foldl hevs hqueue, hempty c _ ⟨chs, hchs, rfl⟩] at hcount

/-- A step that keeps events and messages together is matched. -/
theorem matched_of_eventsMatch {aop : AppOp cfg} (hI : ctx.Matching)
    (h : ctx.appStep aop = some ctx') (hmatch : ctx'.EventsMatch) : aop.Matched ctx := by
  cases aop with
  | serve => trivial
  | lib op =>
    cases op with
    | packet pkg from_ env =>
      have h : Step ctx (.packet pkg from_ env) ctx' := h
      refine ⟨fun hdata i c chs htakes ↦ ?_, fun hflags i hfind hstate ↦ ?_,
        fun hflags i hi hstate hok ↦ ?_⟩
      · have heffect := onData_effect ((handlePacket_of_data hdata).symm.trans h)
        exact (eventsMatch_of_takes hI htakes heffect).1.1 hmatch
      · obtain ⟨chs, a', -, hb⟩ :=
          onAck_of_synRcvd hfind hstate ((handlePacket_of_ack hflags).symm.trans h)
        refine noneWaiting_of_eventsMatch hI h ?_ ?_ ?_ ?_ hmatch
        · rw [hflags]; decide
        · rw [hstate]; decide
        · rw [hb.self]
        · rw [hb.self]; exact Option.some_ne_none _
      · obtain ⟨chs, a', -, hb⟩ := becomes_of_synAck h hflags hi hstate
        refine noneWaiting_of_eventsMatch hI h ?_ hstate ?_ ?_ hmatch
        · rw [hflags]; decide
        · rw [hb.self]; exact if_pos hok
        · rw [hb.self]; exact Option.some_ne_none _
    | _ => trivial

/-- **When events and messages match.** In a run of an application that follows the examples, the
RECEIVE events in the event queue are as many as the messages waiting, for every established
connection and every channel at every point of the run, if and only if all steps are matched. -/
theorem events_match_iff {ts : List (Glbctx cfg × AppOp cfg × Glbctx cfg)} (hrun : AppRun ts ctx)
    (hdisc : ∀ x ∈ ts, x.2.1.Disciplined x.1) :
    (∀ ts₁ ctx₁, ts₁ <+: ts → AppRun ts₁ ctx₁ → ctx₁.EventsMatch) ↔
      ∀ x ∈ ts, x.2.1.Matched x.1 :=
  Execution.iff_of_step (I := fun _ ctx ↦ Matching ctx) (Q := fun _ ctx ↦ EventsMatch ctx)
    (A := fun x ↦ x.2.1.Disciplined x.1) (C := fun x ↦ x.2.1.Matched x.1)
    (fun _ _ _ _ hI h hdisc hmatched ↦ matching_step hI hdisc hmatched h)
    (fun _ _ _ _ hI h _ hmatch ↦ matched_of_eventsMatch hI h hmatch)
    (fun _ _ hI ↦ hI.events) hrun matching_init hdisc

/-! ### An event queue of length one -/

/-- A server whose event queue has room for one event. -/
def tightServer : Glbcfg := { Glbcfg.sampleServer with eventqueueLength := 1 }

/-- A peer connects and sends a message before the application polls anything. -/
def unpolled : List (AppOp tightServer) :=
  [.lib (.packet (glbpkgInit ⟨0xFFFF, 0⟩ ctrlFlagSyn 0) .samplePeer (Env.at 1)),
    .lib (.packet (glbpkgInit ⟨1, 0⟩ ctrlFlagAck 0) .samplePeer (Env.at 2)),
    .lib (.packet (.sampleData ⟨1, 0⟩ 0) .samplePeer (Env.at 3))]

/-- Events and messages do not always match: in `unpolled` the message is taken, and its event is
lost to the CONNECT event. -/
theorem not_always_match : ¬ ∀ (cfg : Glbcfg)
    (ts : List (Glbctx cfg × AppOp cfg × Glbctx cfg)) (ctx : Glbctx cfg), AppRun ts ctx →
    (∀ x ∈ ts, x.2.1.Disciplined x.1) → ctx.EventsMatch := by
  intro h
  have hrun : (Execution.perform appStep unpolled (init _)).map (fun r ↦
      (decide ((∀ x ∈ r.1, x.2.1.Disciplined x.1) ∧
          (r.2.connections ⟨0, by decide⟩).state = .established),
        r.2.queuedReceives ⟨0, by decide⟩ ⟨0, by decide⟩,
        (r.2.connections ⟨0, by decide⟩).channels.map fun chs ↦
          (chs.chan ⟨0, by decide⟩).rQueue.elems.length)) = some (true, 0, some 1) := by
    decide +kernel
  obtain ⟨r, hr, heq⟩ := Option.map_eq_some_iff.1 hrun
  obtain ⟨hstate, heq⟩ := Prod.mk.inj heq
  obtain ⟨hcount, hlen⟩ := Prod.mk.inj heq
  obtain ⟨hdisc, hest⟩ := of_decide_eq_true hstate
  obtain ⟨chs, hchs, hlen⟩ := Option.map_eq_some_iff.1 hlen
  have hchan : r.2.HasChannel ⟨0, by decide⟩ ⟨0, by decide⟩ (chs.chan ⟨0, by decide⟩) :=
    ⟨chs, hchs, rfl⟩
  have hmatch := h _ _ _ (Execution.nil.append_perform hr) hdisc _ _ _ hest hchan
  rw [hcount, hlen] at hmatch
  cases hmatch

/-- A server that is connected to, polls that, gets a message and serves it: events and messages
match at every point. -/
theorem events_match_served : ∃ ts ctx, @AppRun Glbcfg.sampleServer ts ctx ∧ ts.length = 5 ∧
    ∀ ts₁ ctx₁, ts₁ <+: ts → AppRun ts₁ ctx₁ → ctx₁.EventsMatch := by
  have hrun : (Execution.perform appStep
      [.lib (.packet (glbpkgInit ⟨0xFFFF, 0⟩ ctrlFlagSyn 0) .samplePeer (Env.at 1)),
        .lib (.packet (glbpkgInit ⟨1, 0⟩ ctrlFlagAck 0) .samplePeer (Env.at 2)),
        .serve 1024,
        .lib (.packet (.sampleData ⟨1, 0⟩ 0) .samplePeer (Env.at 3)),
        .serve 1024]
      (init Glbcfg.sampleServer)).map (fun r ↦ (r.1.length,
        decide (∀ x ∈ r.1, x.2.1.Disciplined x.1), decide (∀ x ∈ r.1, x.2.1.Matched x.1))) =
      some (5, true, true) := by decide +kernel
  obtain ⟨r, hr, heq⟩ := Option.map_eq_some_iff.1 hrun
  obtain ⟨hlen, heq⟩ := Prod.mk.inj heq
  obtain ⟨hdisc, hmatched⟩ := Prod.mk.inj heq
  have hrun := Execution.nil.append_perform hr
  exact ⟨r.1, r.2, hrun, hlen,
    (events_match_iff hrun (of_decide_eq_true hdisc)).2 (of_decide_eq_true hmatched)⟩

end Glbctx

end Gilberta
