import Gilberta.Foundations.LossyQueue
import Gilberta.Link.Simulation
import Gilberta.Traffic.Transmission

/-!
# Unreliable channels

Without `GLB_CHANNEL_FLAG_RELIABLE` a message is sent once: the pass of the timers that hands it to
the socket takes it from the send queue. The receiver takes what arrives from the address it knows,
whatever its number, and nothing is acknowledged. So whatever else the two contexts do, the sender
sends at most what it accepted, once each and in order, and the application of the receiver pops at
most what arrived, once each and in order (`unreliable_in_order`). The order of the messages is then
the one the network keeps, and on a network that keeps it and loses nothing all of them arrive.

The two sides need not be followed together: nothing the receiver does matters to the sender.
-/

namespace Gilberta

namespace Glbctx

variable {cfg : Glbcfg}

/-- The payload of the DATA packet an operation handles on channel `c` of slot `i`. -/
def arrivedAt (ctx : Glbctx cfg) (i : Fin cfg.connectionCount) (c : Fin cfg.channelCount) :
    Op cfg → List (List UInt8)
  | .packet pkg _ _ =>
    if pkg.header.ctrlFlags = ctrlFlagData ∧ pkg.Finds ctx i ∧ pkg.header.channelId.toNat = c.val
    then [pkg.data] else []
  | _ => []

/-- A step of the sender loses nothing that waits on channel `c` of slot `i`: `sendto` takes what
the timers transmit, and no DATA|ACK is handled. -/
def LosesNothing (ctx : Glbctx cfg) (i : Fin cfg.connectionCount) (c : Fin cfg.channelCount) :
    Op cfg → Prop
  | .timers j env => j = i → env.sendOk (c + 1) = true
  | .packet pkg _ _ => pkg.header.ctrlFlags = ctrlFlagDataAck → pkg.Finds ctx i →
      pkg.header.channelId.toNat ≠ c.val
  | _ => True

/-- A step of the receiver loses nothing that arrives on channel `c` of slot `i`: it comes from the
address the slot knows, and the receive queue has room. -/
def TakesAll (ctx : Glbctx cfg) (i : Fin cfg.connectionCount) (c : Fin cfg.channelCount) :
    Op cfg → Prop
  | .packet pkg from_ _ => pkg.header.ctrlFlags = ctrlFlagData → pkg.Finds ctx i →
      pkg.header.channelId.toNat = c.val → (ctx.connections i).peerAddr = from_ ∧
        ∀ chs ∈ (ctx.connections i).channels, (chs.chan c).rQueue.isFull = false
  | _ => True

/-- Slot `i` is established, and its channel `c` is unreliable. -/
structure Unreliable (i : Fin cfg.connectionCount) (c : Fin cfg.channelCount) (ctx : Glbctx cfg)
    (chan : Glbchannel) : Prop where
  /-- The slot is established. -/
  established : (ctx.connections i).state = .established
  /-- It has the channel. -/
  has : ctx.HasChannel i c chan
  /-- The channel is unreliable. -/
  unreliable : chan.reliable = false

variable {ctx ctx' : Glbctx cfg} {op : Op cfg} {i : Fin cfg.connectionCount}
  {c : Fin cfg.channelCount} {chan : Glbchannel} {env : Env}

/-! ### What a pass transmits on a channel -/

/-- Of what several keys contribute to a list, a predicate that tells the keys apart keeps what the
one it is true of does. -/
theorem filter_flatMap_of_nodup {α β : Type*} {ks : List α} {k : α} {f : α → List β} {p : β → Bool}
    (hks : ks.Nodup) (hk : k ∈ ks) (hself : ∀ x ∈ f k, p x = true)
    (hne : ∀ l ∈ ks, l ≠ k → ∀ x ∈ f l, p x = false) : (ks.flatMap f).filter p = f k := by
  obtain ⟨ks₁, ks₂, rfl⟩ := List.append_of_mem hk
  obtain ⟨-, hnodup₂, hdisjoint⟩ := List.nodup_append.1 hks
  have hnil : ∀ ls : List α, (∀ l ∈ ls, l ∈ ks₁ ++ k :: ks₂ ∧ l ≠ k) →
      (ls.flatMap f).filter p = [] := by
    intro ls hls
    refine List.filter_eq_nil_iff.2 fun x hx ↦ ?_
    obtain ⟨l, hl, hx⟩ := List.mem_flatMap.1 hx
    simp [hne l (hls l hl).1 (hls l hl).2 x hx]
  have h₁ := hnil ks₁ fun l hl ↦
    ⟨List.mem_append_left _ hl, fun h ↦ hdisjoint l hl k List.mem_cons_self h⟩
  have h₂ := hnil ks₂ fun l hl ↦ ⟨List.mem_append_right _ (List.mem_cons_of_mem _ hl),
    fun h ↦ (List.nodup_cons.1 hnodup₂).1 (h ▸ hl)⟩
  rw [List.flatMap_append, List.flatMap_cons, List.filter_append, List.filter_append, h₁, h₂,
    List.filter_eq_self.2 hself, List.nil_append, List.append_nil]

theorem ctrlFlags_of_sent (hchan : ctx.HasChannel i c chan) (htag : ctx.Tagged) {p : Glbpkg}
    (hp : p ∈ chan.sent env c) :
    p.header.ctrlFlags = ctrlFlagData ∧ p.header.channelId.toNat = c.val := by
  rw [Glbchannel.sent] at hp
  split at hp
  · obtain ⟨head, hhead, rfl⟩ := List.mem_map.1 hp
    obtain ⟨rest, helems⟩ := Glbchannel.due_eq_some (Option.mem_toList.1 hhead)
    exact htag i c chan hchan head (by rw [helems]; exact List.mem_cons_self)
  · cases hp

/-- **What a pass transmits on a channel** is what that channel has due, whatever the others do. -/
theorem transmittedOn_eq_sent (htag : ctx.Tagged)
    (hest : (ctx.connections i).state = .established) (hchan : ctx.HasChannel i c chan)
    (h : Step ctx (.timers i env) ctx') :
    transmittedOn i c (ctx, .timers i env, ctx') = chan.sent env c := by
  obtain ⟨chs, ctx₁, hchs, hpass, rfl⟩ := handleTimers_passes hest h
  obtain rfl : chs.chan c = chan := HasChannel.unique ⟨chs, hchs, rfl⟩ hchan
  obtain ⟨-, pings, hping, hpings⟩ := keepaliveTimer_effect ctx₁ i env
  have hdrop : ((ctx₁.keepaliveTimer i env).sock.drop ctx.sock.length).map Datagram.pkg =
      ((List.finRange cfg.channelCount).flatMap fun d ↦ (chs.chan d).sent env d) ++
        pings.map Datagram.pkg := by
    rw [hping, hpass.sock, List.append_assoc, List.drop_left, List.map_append, List.map_map]
    exact congrArg (· ++ _) (List.map_id _)
  rw [transmittedOn]
  dsimp only
  rw [if_pos rfl, sentWith, hdrop, List.filter_filter, List.filter_append]
  -- the keepalive is no DATA
  have hnone : (pings.map Datagram.pkg).filter (fun p ↦ decide (p.header.channelId.toNat = c.val) &&
      decide (p.header.ctrlFlags = ctrlFlagData)) = [] := by
    refine List.filter_eq_nil_iff.2 fun p hp ↦ ?_
    obtain ⟨d, hd, rfl⟩ := List.mem_map.1 hp
    obtain ⟨seq, ack, rfl⟩ := hpings d hd
    have hflags : ((glbpkgInit (ctx₁.connections i).connId ctrlFlagPing 0).withSeqAck seq
        ack).seal.header.ctrlFlags = ctrlFlagPing := rfl
    rw [hflags]
    simp [ctrlFlagPing, ctrlFlagData]
  rw [hnone, List.append_nil]
  refine filter_flatMap_of_nodup (List.nodup_finRange _) (List.mem_finRange c) (fun p hp ↦ ?_)
    fun d _ hd p hp ↦ ?_
  · obtain ⟨hflags, hchannel⟩ := ctrlFlags_of_sent ⟨chs, hchs, rfl⟩ htag hp
    simp [hflags, hchannel]
  · obtain ⟨-, hchannel⟩ := ctrlFlags_of_sent (c := d) ⟨chs, hchs, rfl⟩ htag hp
    simp [hchannel, Fin.val_inj, hd]

/-! ### The sender -/

/-- What a step of the sender makes of what waits on the channel: `glb_send` feeds it, and the
timers empty it. -/
abbrev SendStep (i : Fin cfg.connectionCount) (c : Fin cfg.channelCount) (x : Transition cfg)
    (before after : List Glbpkg) : Prop :=
  QueueStep (LosesNothing x.1 i c x.2.1) (x.1.acceptedBy i c x.2.1)
    ((transmittedOn i c x).map Glbpkg.data) (before.map Glbpkg.data) (after.map Glbpkg.data)

theorem reliable_of_sides {chan' : Glbchannel} (hsend : SendChange ctx i c chan op chan'.sendSide) :
    chan'.reliable = chan.reliable := by
  have hflags : chan'.flags = chan.flags := by
    generalize hside : chan'.sendSide = side at hsend
    cases hsend with
    | transmitted htrans =>
      obtain ⟨-, -, hflags⟩ := Glbchannel.sendSide_eq_iff.1 hside
      rw [hflags]
      cases htrans <;> rfl
    | same | queued | acked => exact (Glbchannel.sendSide_eq_iff.1 hside).2.2
  rw [Glbchannel.reliable, Glbchannel.reliable, hflags]

/-- The send queue after a message was refused or accepted, for this channel or another one. -/
theorem sendStep_of_send {info : Glbsendinfo cfg.connectionCount} {now : ℕ} {chan' : Glbchannel}
    (hchan : ctx.HasChannel i c chan) (hchan' : ctx'.HasChannel i c chan')
    (h : Step ctx (.send info now) ctx') : SendStep i c (ctx, .send info now, ctx')
      chan.sQueue.elems chan'.sQueue.elems := by
  obtain ⟨⟨code, ctx₁⟩, hsend, rfl⟩ := Option.map_eq_some_iff.1 h
  cases id (glbSend_effect hsend) with
  | refused error hcode =>
    have hacc : ctx.acceptedBy i c (.send info now) = [] := by
      rw [acceptedBy, hsend]
      cases code with
      | success => exact absurd rfl hcode
      | _ => rfl
    have hsame : ctx.HasChannel i c chan' := hchan'
    rw [hsame.unique hchan]
    exact .same hacc rfl rfl
  | @queued j d chs data hcon hdata hd _ hchs hroom =>
    rcases hasChannel_setChan hchs hchan' with ⟨rfl, rfl, rfl⟩ | ⟨hne, hsame⟩
    · have hacc : ctx.acceptedBy i c (.send info now) = [data] := by
        rw [acceptedBy, hsend]
        exact (if_pos ⟨hcon, hd⟩).trans (by rw [hdata]; rfl)
      obtain rfl := hchan.unique ⟨chs, hchs, rfl⟩
      refine .stored rfl ?_
      rw [elems_queuedChan hroom, List.map_append, hacc]
      rfl
    · have hacc : ctx.acceptedBy i c (.send info now) = [] := by
        rw [acceptedBy, hsend]
        refine if_neg fun h ↦ hne ⟨?_, ?_⟩
        · exact Option.some_inj.1 (h.1.symm.trans hcon)
        · exact Fin.ext (h.2.symm.trans hd)
      rw [hsame.unique hchan]
      exact .same hacc rfl rfl

/-- The send queue after a pass of the timers of the slot. -/
theorem sendStep_of_timers {chan' : Glbchannel} (hU : Unreliable i c ctx chan) (htag : ctx.Tagged)
    (hest' : (ctx'.connections i).state = .established) (hchan' : ctx'.HasChannel i c chan')
    (h : Step ctx (.timers i env) ctx') : SendStep i c (ctx, .timers i env, ctx')
      chan.sQueue.elems chan'.sQueue.elems := by
  have hsent := transmittedOn_eq_sent htag hU.established hU.has h
  obtain ⟨chs, ctx₁, hchs, hpass, rfl⟩ := handleTimers_passes hU.established h
  obtain rfl : chs.chan c = chan := HasChannel.unique ⟨chs, hchs, rfl⟩ hU.has
  obtain rfl : (chs.chan c).passed env c = chan' := by
    rcases connections_keepaliveTimer ctx₁ i env with ⟨t, n, hcon, -⟩ | ⟨hcon, -⟩
    · refine HasChannel.unique ⟨chs.passed env (List.finRange _), ?_, ?_⟩ hchan'
      · rw [hcon, hpass.con]
      · exact if_pos (List.mem_finRange c)
    · rw [hcon] at hest'
      cases hest'
  rcases hdue : (chs.chan c).due env c with - | head
  · have hnone : (chs.chan c).sent env c = [] := by simp [Glbchannel.sent, hdue]
    have hsame : (chs.chan c).passed env c = chs.chan c := by simp [Glbchannel.passed, hdue]
    rw [hsame]
    exact .same rfl (congrArg (List.map Glbpkg.data) (hsent.trans hnone)) rfl
  obtain ⟨rest, helems⟩ := Glbchannel.due_eq_some hdue
  have hpop : ((chs.chan c).passed env c).sQueue.elems = rest := by
    simp [Glbchannel.passed, hdue, hU.unreliable, helems]
  have hbefore : (chs.chan c).sQueue.elems.map Glbpkg.data =
      head.data :: ((chs.chan c).passed env c).sQueue.elems.map Glbpkg.data := by
    rw [hpop, helems, List.map_cons]
  cases hok : env.sendOk (c + 1) with
  | true =>
    have hone : (chs.chan c).sent env c = [head.seal] := by simp [Glbchannel.sent, hdue, hok]
    exact .taken rfl (congrArg (List.map Glbpkg.data) (hsent.trans hone)) hbefore
  | false =>
    have hnone : (chs.chan c).sent env c = [] := by simp [Glbchannel.sent, hok]
    refine .dropped (fun hloses ↦ ?_) rfl
      (congrArg (List.map Glbpkg.data) (hsent.trans hnone)) hbefore
    exact absurd (hok.symm.trans (hloses rfl)) (by decide)

/-- **What a step of the sender makes of an unreliable channel.** -/
theorem Unreliable.sendStep (hU : Unreliable i c ctx chan) (htag : ctx.Tagged)
    (h : Step ctx op ctx') (hest' : (ctx'.connections i).state = .established) :
    ∃ chan', Unreliable i c ctx' chan' ∧
      SendStep i c (ctx, op, ctx') chan.sQueue.elems chan'.sQueue.elems := by
  obtain ⟨chan', hchan', -, hsend⟩ := channel_of_established h hU.established hest' hU.has
  refine ⟨chan', ⟨hest', hchan', (reliable_of_sides hsend).trans hU.unreliable⟩, ?_⟩
  have hsame : chan'.sQueue = chan.sQueue → ctx.acceptedBy i c op = [] →
      transmittedOn i c (ctx, op, ctx') = [] →
      SendStep i c (ctx, op, ctx') chan.sQueue.elems chan'.sQueue.elems := fun hq hacc hsent ↦
    .same hacc (congrArg (List.map Glbpkg.data) hsent) (by rw [hq])
  cases op with
  | send info now => exact sendStep_of_send hU.has hchan' h
  | timers j env =>
    by_cases hj : j = i
    · subst hj
      exact sendStep_of_timers hU htag hest' hchan' h
    · generalize hside : chan'.sendSide = side at hsend
      cases hsend with
      | same => exact hsame (Glbchannel.sendSide_eq_iff.1 hside).1 rfl (if_neg hj)
      | transmitted => exact absurd rfl hj
  | packet pkg from_ env =>
    generalize hside : chan'.sendSide = side at hsend
    cases hsend with
    | same => exact hsame (Glbchannel.sendSide_eq_iff.1 hside).1 rfl rfl
    | @acked _ _ _ _ head _ hflags hreach _ hhead _ =>
      obtain ⟨hq, -⟩ := Glbchannel.sendSide_eq_iff.1 hside
      refine .dropped (fun hloses ↦ hloses hflags hreach.finds hreach.channel) rfl rfl
        (?_ : _ = head.data :: _)
      rw [hq, Glbqueue.toBoundedQueue_pop, BoundedQueue.elems_drop, hhead, List.map_cons,
        List.tail_cons]
  | connect | close | pollevent | popdata | readError =>
    generalize hside : chan'.sendSide = side at hsend
    cases hsend with
    | same => exact hsame (Glbchannel.sendSide_eq_iff.1 hside).1 rfl rfl

/-! ### The receiver -/

/-- What a step of the receiver makes of what waits on the channel: DATA packets feed it, and
`glb_popdata` empties it. -/
abbrev RecvStep (ctx : Glbctx cfg) (i : Fin cfg.connectionCount) (c : Fin cfg.channelCount)
    (op : Op cfg) (before after : List Glbpkg) : Prop :=
  QueueStep (TakesAll ctx i c op) (ctx.arrivedAt i c op) (ctx.poppedBy i c op)
    (before.map Glbpkg.data) (after.map Glbpkg.data)

theorem arrivedAt_of_reaches {pkg : Glbpkg} {chs : Glbchannels cfg.channelCount} (from_ : Glbaddr)
    (hflags : pkg.header.ctrlFlags = ctrlFlagData) (hreach : pkg.Reaches ctx i c chs) :
    ctx.arrivedAt i c (.packet pkg from_ env) = [pkg.data] :=
  if_pos ⟨hflags, hreach.finds, hreach.channel⟩

/-- The receive queue after a DATA packet for the channel was handled. -/
theorem recvStep_of_reaches {pkg : Glbpkg} {from_ : Glbaddr} {chan' : Glbchannel}
    {chs : Glbchannels cfg.channelCount} (hU : Unreliable i c ctx chan)
    (hchan' : ctx'.HasChannel i c chan') (hflags : pkg.header.ctrlFlags = ctrlFlagData)
    (hreach : pkg.Reaches ctx i c chs) (h : ctx.onData pkg from_ env = some ctx') :
    RecvStep ctx i c (.packet pkg from_ env) chan.rQueue.elems chan'.rQueue.elems := by
  obtain rfl : chs.chan c = chan := HasChannel.unique ⟨chs, hreach.channels, rfl⟩ hU.has
  have hrel : ¬ (chs.chan c).reliable = true := by simp [hU.unreliable]
  cases onData_effect h with
  | ignored heq hnot =>
    subst heq
    rw [hchan'.unique hU.has]
    refine .refused (fun htakes ↦ ?_) rfl rfl
    exact (hnot i c chs hreach).1 (htakes hflags hreach.finds hreach.channel).1
  | old hreach' hrel' | future hreach' hrel' =>
    obtain ⟨rfl, rfl, rfl⟩ := hreach.unique hreach'
    exact absurd hrel' hrel
  | accepted hreach' _ _ hb =>
    obtain ⟨rfl, rfl, rfl⟩ := hreach.unique hreach'
    obtain rfl : acceptedChan (chs.chan c) pkg = chan' :=
      HasChannel.unique ⟨_, by rw [hb.self], if_pos rfl⟩ hchan'
    cases hfull : (chs.chan c).rQueue.isFull with
    | true =>
      refine .refused (fun htakes ↦ ?_) rfl ?_
      · have hroom := (htakes hflags hreach.finds hreach.channel).2 chs hreach.channels
        exact absurd (hfull.symm.trans hroom) (by decide)
      · rw [acceptedChan, Glbqueue.toBoundedQueue_push, BoundedQueue.offer_of_isFull hfull]
    | false =>
      refine .stored rfl ?_
      rw [elems_acceptedChan pkg hfull, List.map_append, arrivedAt_of_reaches from_ hflags hreach]
      rfl

/-- The receive queue after the application popped, this channel or another one. -/
theorem recvStep_of_popdata {info : Glbrecvinfo cfg.connectionCount} {chan' : Glbchannel}
    (hchan : ctx.HasChannel i c chan) (hchan' : ctx'.HasChannel i c chan')
    (h : Step ctx (.popdata info) ctx') : RecvStep ctx i c (.popdata info)
      chan.rQueue.elems chan'.rQueue.elems := by
  obtain ⟨⟨code, data, ctx₁⟩, hpop, rfl⟩ := Option.map_eq_some_iff.1 h
  cases id (glbPopdata_effect hpop) with
  | failed hcode =>
    have hnone : ctx.poppedBy i c (.popdata info) = [] := by
      rw [poppedBy, hpop]
      cases code with
      | success => exact absurd rfl hcode
      | _ => rfl
    have hsame : ctx.HasChannel i c chan' := hchan'
    rw [hsame.unique hchan]
    exact .same rfl hnone rfl
  | @popped j d chs pkg rest hcon hd hchs hhead =>
    rcases hasChannel_setChan hchs hchan' with ⟨rfl, rfl, rfl⟩ | ⟨hne, hsame⟩
    · have hpopped : ctx.poppedBy i c (.popdata info) = [pkg.data] := by
        rw [poppedBy, hpop]
        exact if_pos ⟨hcon, hd⟩
      obtain rfl := hchan.unique ⟨chs, hchs, rfl⟩
      refine .taken rfl hpopped ?_
      rw [Glbqueue.toBoundedQueue_pop, BoundedQueue.elems_drop, hhead, List.map_cons,
        List.tail_cons]
    · have hnone : ctx.poppedBy i c (.popdata info) = [] := by
        rw [poppedBy, hpop]
        refine if_neg fun h ↦ hne ⟨?_, ?_⟩
        · exact Option.some_inj.1 (h.1.symm.trans hcon)
        · exact Fin.ext (h.2.symm.trans hd)
      rw [hsame.unique hchan]
      exact .same rfl hnone rfl

/-- **What a step of the receiver makes of an unreliable channel.** -/
theorem Unreliable.recvStep (hU : Unreliable i c ctx chan) (h : Step ctx op ctx')
    (hest' : (ctx'.connections i).state = .established) :
    ∃ chan', Unreliable i c ctx' chan' ∧
      RecvStep ctx i c op chan.rQueue.elems chan'.rQueue.elems := by
  obtain ⟨chan', hchan', hrecv, hsend⟩ := channel_of_established h hU.established hest' hU.has
  refine ⟨chan', ⟨hest', hchan', (reliable_of_sides hsend).trans hU.unreliable⟩, ?_⟩
  have hsame : chan'.rQueue = chan.rQueue → ctx.arrivedAt i c op = [] → ctx.poppedBy i c op = [] →
      RecvStep ctx i c op chan.rQueue.elems chan'.rQueue.elems := fun hq harrived hpopped ↦
    .same harrived hpopped (by rw [hq])
  cases op with
  | popdata info => exact recvStep_of_popdata hU.has hchan' h
  | packet pkg from_ env =>
    by_cases hdata : pkg.header.ctrlFlags = ctrlFlagData ∧ ∃ chs, pkg.Reaches ctx i c chs
    · obtain ⟨hflags, chs, hreach⟩ := hdata
      exact recvStep_of_reaches hU hchan' hflags hreach ((handlePacket_of_data hflags).symm.trans h)
    · have harrived : ctx.arrivedAt i c (.packet pkg from_ env) = [] := by
        obtain ⟨chs, hchs, -⟩ := hU.has
        exact if_neg fun h ↦ hdata ⟨h.1, chs, h.2.1, hU.established, hchs, h.2.2⟩
      generalize hside : chan'.recvSide = side at hrecv
      cases hrecv with
      | same => exact hsame (Glbchannel.recvSide_eq_iff.1 hside).1 harrived rfl
      | accepted hflags hreach => exact absurd ⟨hflags, _, hreach⟩ hdata
  | connect | close | send | pollevent | readError | timers =>
    generalize hside : chan'.recvSide = side at hrecv
    cases hrecv with
    | same => exact hsame (Glbchannel.recvSide_eq_iff.1 hside).1 rfl rfl

/-! ### Runs -/

/-- The payloads given to `glb_send` and accepted during a run. -/
def acceptedIn (i : Fin cfg.connectionCount) (c : Fin cfg.channelCount)
    (ts : List (Transition cfg)) : List (List UInt8) :=
  ts.flatMap fun x ↦ x.1.acceptedBy i c x.2.1

/-- The payloads transmitted during a run. -/
def transmittedIn (i : Fin cfg.connectionCount) (c : Fin cfg.channelCount)
    (ts : List (Transition cfg)) : List (List UInt8) :=
  ts.flatMap fun x ↦ (transmittedOn i c x).map Glbpkg.data

/-- The payloads that arrived during a run. -/
def arrivedIn (i : Fin cfg.connectionCount) (c : Fin cfg.channelCount)
    (ts : List (Transition cfg)) : List (List UInt8) :=
  ts.flatMap fun x ↦ x.1.arrivedAt i c x.2.1

/-- The payloads `glb_popdata` returned during a run. -/
def poppedIn (i : Fin cfg.connectionCount) (c : Fin cfg.channelCount)
    (ts : List (Transition cfg)) : List (List UInt8) :=
  ts.flatMap fun x ↦ x.1.poppedBy i c x.2.1

variable {ctx₀ : Glbctx cfg} {chan₀ : Glbchannel} {ts : List (Transition cfg)}

/-- The payloads `q` wait to be sent on channel `c` of slot `i`, which is unreliable. -/
def SendQueue (i : Fin cfg.connectionCount) (c : Fin cfg.channelCount) (ctx : Glbctx cfg)
    (q : List (List UInt8)) : Prop :=
  ctx.Tagged ∧ ∃ chan, Unreliable i c ctx chan ∧ q = chan.sQueue.elems.map Glbpkg.data

/-- The payloads `q` wait to be popped on channel `c` of slot `i`, which is unreliable. -/
def RecvQueue (i : Fin cfg.connectionCount) (c : Fin cfg.channelCount) (ctx : Glbctx cfg)
    (q : List (List UInt8)) : Prop :=
  ∃ chan, Unreliable i c ctx chan ∧ q = chan.rQueue.elems.map Glbpkg.data

/-- **What the sender transmits**, followed by what still waits, is part of what waited at the start
and what was accepted since, in the same order; all of it, if no step loses anything. -/
theorem SendQueue.of_run {q₀ : List (List UInt8)} (h : SendQueue i c ctx₀ q₀)
    (hrun : Execution Step ctx₀ ts ctx)
    (hstay : ∀ x ∈ ts, (x.2.2.connections i).state = .established) :
    ∃ q, SendQueue i c ctx q ∧ (transmittedIn i c ts ++ q).Sublist (q₀ ++ acceptedIn i c ts) ∧
      ((∀ x ∈ ts, LosesNothing x.1 i c x.2.1) →
        transmittedIn i c ts ++ q = q₀ ++ acceptedIn i c ts) := by
  refine Execution.queue (fun t op u q hq hstep hest' ↦ ?_) hrun h hstay
  obtain ⟨htag, chan, hU, rfl⟩ := hq
  obtain ⟨chan', hU', hqueue⟩ := hU.sendStep htag hstep hest'
  exact ⟨_, ⟨tagged_step htag hstep, chan', hU', rfl⟩, hqueue⟩

/-- **What the application pops**, followed by what still waits, is part of what waited at the start
and what arrived since, in the same order; all of it, if no step loses anything. -/
theorem RecvQueue.of_run {q₀ : List (List UInt8)} (h : RecvQueue i c ctx₀ q₀)
    (hrun : Execution Step ctx₀ ts ctx)
    (hstay : ∀ x ∈ ts, (x.2.2.connections i).state = .established) :
    ∃ q, RecvQueue i c ctx q ∧ (poppedIn i c ts ++ q).Sublist (q₀ ++ arrivedIn i c ts) ∧
      ((∀ x ∈ ts, TakesAll x.1 i c x.2.1) → poppedIn i c ts ++ q = q₀ ++ arrivedIn i c ts) := by
  refine Execution.queue (fun t op u q hq hstep hest' ↦ ?_) hrun h hstay
  obtain ⟨chan, hU, rfl⟩ := hq
  obtain ⟨chan', hU', hqueue⟩ := hU.recvStep hstep hest'
  exact ⟨_, ⟨chan', hU', rfl⟩, hqueue⟩

/-- **An unreliable channel delivers at most once and in order.** Take a direction of an unreliable
channel between two established slots, and let both contexts do what they like as long as the slots
stay established. If the network keeps the order and duplicates nothing, then what the application
of the receiver popped, followed by what waits at the receiver and at the sender, is part of what
waited at the start and what `glb_send` accepted since, in the same order. It is all of it if the
network loses nothing either, `sendto` takes what is transmitted, no DATA|ACK is handled and what
arrives finds room. -/
theorem unreliable_in_order {cfgA cfgB : Glbcfg} {dir : Direction cfgA cfgB} {a₀ a : Glbctx cfgA}
    {b₀ b : Glbctx cfgB} {ts₀ ts : List (Transition cfgA)} {us : List (Transition cfgB)}
    {chanA chanB : Glbchannel} (hreach : Run ts₀ a₀) (ha : Unreliable dir.i dir.c a₀ chanA)
    (hb : Unreliable dir.j dir.d b₀ chanB) (hrunA : Execution Step a₀ ts a)
    (hrunB : Execution Step b₀ us b)
    (hstayA : ∀ x ∈ ts, (x.2.2.connections dir.i).state = .established)
    (hstayB : ∀ x ∈ us, (x.2.2.connections dir.j).state = .established)
    (hnet : (arrivedIn dir.j dir.d us).Sublist (transmittedIn dir.i dir.c ts)) :
    ∃ chanA' chanB', Unreliable dir.i dir.c a chanA' ∧ Unreliable dir.j dir.d b chanB' ∧
      (poppedIn dir.j dir.d us ++ chanB'.rQueue.elems.map Glbpkg.data ++
        chanA'.sQueue.elems.map Glbpkg.data).Sublist
        (chanB.rQueue.elems.map Glbpkg.data ++ chanA.sQueue.elems.map Glbpkg.data ++
          acceptedIn dir.i dir.c ts) ∧
      ((∀ x ∈ ts, LosesNothing x.1 dir.i dir.c x.2.1) →
        (∀ x ∈ us, TakesAll x.1 dir.j dir.d x.2.1) →
        arrivedIn dir.j dir.d us = transmittedIn dir.i dir.c ts →
        poppedIn dir.j dir.d us ++ chanB'.rQueue.elems.map Glbpkg.data ++
            chanA'.sQueue.elems.map Glbpkg.data =
          chanB.rQueue.elems.map Glbpkg.data ++ chanA.sQueue.elems.map Glbpkg.data ++
            acceptedIn dir.i dir.c ts) := by
  obtain ⟨-, ⟨-, chanA', hA', rfl⟩, hsubA, heqA⟩ :=
    SendQueue.of_run ⟨tagged_of_run hreach, chanA, ha, rfl⟩ hrunA hstayA
  obtain ⟨-, ⟨chanB', hB', rfl⟩, hsubB, heqB⟩ := RecvQueue.of_run ⟨chanB, hb, rfl⟩ hrunB hstayB
  refine ⟨chanA', chanB', hA', hB', ?_, fun hloses htakes hall ↦ ?_⟩
  · have hwire := (hsubB.trans (hnet.append_left _)).append_right
      (chanA'.sQueue.elems.map Glbpkg.data)
    rw [List.append_assoc (chanB.rQueue.elems.map Glbpkg.data)] at hwire ⊢
    exact hwire.trans (hsubA.append_left _)
  · rw [heqB htakes, hall, List.append_assoc, heqA hloses, ← List.append_assoc]

/-! ### The first of two messages is lost -/

/-- A client whose only channel is unreliable. -/
def unreliableClient : Glbcfg :=
  { Glbcfg.sampleClient with
    channels := [⟨0, 0⟩]
    channels_pos := Nat.one_pos
    channels_lt := Nat.succ_lt_succ (Nat.succ_pos 254) }

/-- A server whose only channel is unreliable. -/
def unreliableServer : Glbcfg :=
  { Glbcfg.sampleServer with
    channels := [⟨0, 0⟩]
    channels_pos := Nat.one_pos
    channels_lt := Nat.succ_lt_succ (Nat.succ_pos 254) }

/-- From the client to the first slot of the server. -/
def unreliableDirection : Direction unreliableClient unreliableServer where
  i := ⟨0, Nat.one_pos⟩
  c := ⟨0, Nat.one_pos⟩
  j := ⟨0, Nat.two_pos⟩
  d := ⟨0, Nat.one_pos⟩
  same := rfl

/-- Whether a slot is established and its channel is unreliable. -/
def isUnreliable (ctx : Glbctx cfg) (i : Fin cfg.connectionCount) (c : Fin cfg.channelCount) :
    Bool :=
  decide ((ctx.connections i).state = .established) &&
    (ctx.connections i).channels.any fun chs ↦ !(chs.chan c).reliable

theorem exists_unreliable (h : ctx.isUnreliable i c = true) : ∃ chan, Unreliable i c ctx chan := by
  obtain ⟨hest, hchan⟩ := (Bool.and_eq_true _ _).mp h
  obtain ⟨chs, hchs, hrel⟩ := (Option.any_eq_true _ _).1 hchan
  exact ⟨_, of_decide_eq_true hest, ⟨chs, hchs, rfl⟩, by simpa using hrel⟩

/-- The client sends two messages, and both are transmitted. -/
def twoMessages : List (Op unreliableClient) :=
  [.send ⟨some [1], some ⟨0, Nat.one_pos⟩, 0⟩ 4, .send ⟨some [0], some ⟨0, Nat.one_pos⟩, 0⟩ 5,
    .timers ⟨0, Nat.one_pos⟩ (Env.at 6), .timers ⟨0, Nat.one_pos⟩ (Env.at 7)]

/-- The server gets the second one, and the application pops it. -/
def secondMessage : List (Op unreliableServer) :=
  [.packet (Glbpkg.sampleData ⟨1, 0⟩ 0xA5A5A5A6) .samplePeer (Env.at 8),
    .popdata ⟨true, some ⟨0, Nat.two_pos⟩, 1024, 0⟩]

/-- What is popped is part of what was sent. -/
theorem unreliable_in_order_sample : ∃ (a : Glbctx unreliableClient) (b : Glbctx unreliableServer)
    (ts : List (Transition unreliableClient)) (us : List (Transition unreliableServer)),
    acceptedIn unreliableDirection.i unreliableDirection.c ts = [[1], [0]] ∧
    poppedIn unreliableDirection.j unreliableDirection.d us = [[0]] ∧
    ∃ (chanA chanB chanA' chanB' : Glbchannel),
      Unreliable unreliableDirection.i unreliableDirection.c a chanA' ∧
      Unreliable unreliableDirection.j unreliableDirection.d b chanB' ∧
      (poppedIn unreliableDirection.j unreliableDirection.d us ++
        chanB'.rQueue.elems.map Glbpkg.data ++ chanA'.sQueue.elems.map Glbpkg.data).Sublist
        (chanB.rQueue.elems.map Glbpkg.data ++ chanA.sQueue.elems.map Glbpkg.data ++
          acceptedIn unreliableDirection.i unreliableDirection.c ts) := by
  have hclient : ((Execution.perform step
      [.connect 0, .packet ((glbpkgInit ⟨1, 0⟩ ctrlFlagSynAck 0).withSeqAck 0 0) ⟨0, 0⟩
        (Env.at 2)] (init unreliableClient)).bind fun r₀ ↦
      (Execution.perform step twoMessages r₀.2).map fun r ↦ (r₀, r)).map (fun r ↦
        (r.1.2.isUnreliable unreliableDirection.i unreliableDirection.c,
          decide (∀ x ∈ r.2.1, (x.2.2.connections unreliableDirection.i).state = .established),
          acceptedIn unreliableDirection.i unreliableDirection.c r.2.1,
          transmittedIn unreliableDirection.i unreliableDirection.c r.2.1)) =
      some (true, true, [[1], [0]], [[1], [0]]) := by decide +kernel
  have hserver : ((Execution.perform step
      [.packet (glbpkgInit ⟨0xFFFF, 0⟩ ctrlFlagSyn 0) .samplePeer (Env.at 1),
        .packet (glbpkgInit ⟨1, 0⟩ ctrlFlagAck 0) .samplePeer (Env.at 3)]
      (init unreliableServer)).bind fun r₀ ↦
      (Execution.perform step secondMessage r₀.2).map fun r ↦ (r₀, r)).map (fun r ↦
        (r.1.2.isUnreliable unreliableDirection.j unreliableDirection.d,
          decide (∀ x ∈ r.2.1, (x.2.2.connections unreliableDirection.j).state = .established),
          poppedIn unreliableDirection.j unreliableDirection.d r.2.1,
          arrivedIn unreliableDirection.j unreliableDirection.d r.2.1)) =
      some (true, true, [[0]], [[0]]) := by decide +kernel
  obtain ⟨⟨a₀, a⟩, ha, heqA⟩ := Option.map_eq_some_iff.1 hclient
  obtain ⟨_, ha₀, ha⟩ := Option.bind_eq_some_iff.1 ha
  obtain ⟨_, ha, hpair⟩ := Option.map_eq_some_iff.1 ha
  cases hpair
  obtain ⟨⟨b₀, b⟩, hb, heqB⟩ := Option.map_eq_some_iff.1 hserver
  obtain ⟨_, hb₀, hb⟩ := Option.bind_eq_some_iff.1 hb
  obtain ⟨_, hb, hpair⟩ := Option.map_eq_some_iff.1 hb
  cases hpair
  simp only [Prod.mk.injEq] at heqA heqB
  obtain ⟨hchanA, hstayA, haccepted, htransmitted⟩ := heqA
  obtain ⟨hchanB, hstayB, hpopped, harrived⟩ := heqB
  obtain ⟨chanA, hchanA⟩ := exists_unreliable hchanA
  obtain ⟨chanB, hchanB⟩ := exists_unreliable hchanB
  have hrunA : Execution Step a₀.2 a.1 a.2 := Execution.nil.append_perform ha
  have hrunB : Execution Step b₀.2 b.1 b.2 := Execution.nil.append_perform hb
  obtain ⟨chanA', chanB', hA', hB', hsub, -⟩ := unreliable_in_order (run_of_perform ha₀) hchanA
    hchanB hrunA hrunB (of_decide_eq_true hstayA) (of_decide_eq_true hstayB)
    (by rw [harrived, htransmitted]; decide)
  exact ⟨a.2, b.2, a.1, b.1, haccepted, hpopped, chanA, chanB, chanA', chanB', hA', hB', hsub⟩

end Glbctx

end Gilberta
