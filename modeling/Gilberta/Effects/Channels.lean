import Gilberta.Effects.Traffic

/-!
# What a step can do to one channel

`step_channel` follows a single channel of a single slot through a step: the channel is new, or it
was there before and its receiving half was left alone, popped or given a packet, and its sending
half was left alone, given a message, popped by an acknowledgment or transmitted. Invariants about
the contents of channels are proved against these seven cases.
-/

namespace Gilberta

variable {cfg : Glbcfg}

/-- A new channel after `glbctx_writeack` filled its counters in. -/
structure Glbchannel.IsOpened (config : Glbchan) (chan : Glbchannel) (seq ack : UInt32) :
    Prop extends chan.IsNew config where
  /-- The number the first message sent gets. -/
  seq_eq : chan.seq = seq
  /-- The number the first message received must have. -/
  ack_eq : chan.ack = ack

namespace Glbctx

/-- Slot `i` has the channel `chan` at `c`. -/
def HasChannel (ctx : Glbctx cfg) (i : Fin cfg.connectionCount) (c : Fin cfg.channelCount)
    (chan : Glbchannel) : Prop :=
  ∃ chs, (ctx.connections i).channels = some chs ∧ chs.chan c = chan

/-- The operations that give slot `i` a new channel array, and the number its channels then wait
for: the ACK of a half open slot, and a SYN|ACK while slot 0 is not established. -/
inductive Opens (ctx : Glbctx cfg) (i : Fin cfg.connectionCount) : Op cfg → UInt32 → Prop
  | ack {pkg : Glbpkg} {from_ : Glbaddr} {env : Env} (hflags : pkg.header.ctrlFlags = ctrlFlagAck)
      (hfind : pkg.Finds ctx i) (hstate : (ctx.connections i).state = .synRcvd) :
      Opens ctx i (.packet pkg from_ env) pkg.header.seq
  | synAck {pkg : Glbpkg} {from_ : Glbaddr} {env : Env}
      (hflags : pkg.header.ctrlFlags = ctrlFlagSynAck) (hi : i.val = 0)
      (hstate : (ctx.connections i).state ≠ .established) :
      Opens ctx i (.packet pkg from_ env) pkg.header.seq

theorem Opens.state_ne {ctx : Glbctx cfg} {i : Fin cfg.connectionCount} {op : Op cfg} {ack : UInt32}
    (h : Opens ctx i op ack) : (ctx.connections i).state ≠ .established := by
  rcases h with ⟨-, -, hstate⟩ | ⟨-, -, hstate⟩
  · rw [hstate]; decide
  · exact hstate

/-- What an operation can make of the receiving half of a channel. -/
inductive RecvChange (ctx : Glbctx cfg) (i : Fin cfg.connectionCount) (c : Fin cfg.channelCount)
    (chan : Glbchannel) : Op cfg → Glbqueue Glbpkg × UInt32 × UInt8 → Prop
  /-- It is left alone. -/
  | same {op : Op cfg} : RecvChange ctx i c chan op chan.recvSide
  /-- `glb_popdata` took the oldest message. -/
  | popped {info : Glbrecvinfo cfg.connectionCount} {pkg : Glbpkg} {rest : List Glbpkg}
      (hcon : info.con = some i) (hc : info.channelId.toNat = c.val)
      (hhead : chan.rQueue.elems = pkg :: rest) :
      RecvChange ctx i c chan (.popdata info) (chan.rQueue.pop.2.2, chan.ack, chan.flags)
  /-- The DATA branch took a packet. -/
  | accepted {pkg : Glbpkg} {from_ : Glbaddr} {env : Env} {chs : Glbchannels cfg.channelCount}
      (hflags : pkg.header.ctrlFlags = ctrlFlagData) (hreach : pkg.Reaches ctx i c chs)
      (hchan : chs.chan c = chan)
      (hseq : chan.reliable = true → pkg.header.seq = chan.ack)
      (haddr : chan.reliable = false → (ctx.connections i).peerAddr = from_) :
      RecvChange ctx i c chan (.packet pkg from_ env)
        ((chan.rQueue.push pkg).2, chan.ack + 1, chan.flags)

/-- What an operation can make of the sending half of a channel. -/
inductive SendChange (ctx : Glbctx cfg) (i : Fin cfg.connectionCount) (c : Fin cfg.channelCount)
    (chan : Glbchannel) : Op cfg → Glbqueue Glbpkg × UInt32 × UInt8 → Prop
  /-- It is left alone. -/
  | same {op : Op cfg} : SendChange ctx i c chan op chan.sendSide
  /-- `glb_send` queued a message. -/
  | queued {info : Glbsendinfo cfg.connectionCount} {now : ℕ} {data : List UInt8}
      (hcon : info.con = some i) (hdata : info.data = some data)
      (hc : info.channelId.toNat = c.val) (hroom : chan.sQueue.isFull = false) :
      SendChange ctx i c chan (.send info now)
        (queuedChan chan (sendPkg (ctx.connections i).connId chan info.channelId data now)).sendSide
  /-- A DATA|ACK for the head dropped it. -/
  | acked {pkg : Glbpkg} {from_ : Glbaddr} {env : Env} {chs : Glbchannels cfg.channelCount}
      {head : Glbpkg} {rest : List Glbpkg} (hflags : pkg.header.ctrlFlags = ctrlFlagDataAck)
      (hreach : pkg.Reaches ctx i c chs) (hchan : chs.chan c = chan)
      (hhead : chan.sQueue.elems = head :: rest) (hseq : head.header.seq = pkg.header.ack) :
      SendChange ctx i c chan (.packet pkg from_ env) (chan.sQueue.pop.2.2, chan.seq, chan.flags)
  /-- The head may have been sent. -/
  | transmitted {env : Env} {chan' : Glbchannel} (h : Transmitted chan chan') :
      SendChange ctx i c chan (.timers i env) chan'.sendSide

variable {ctx ctx' : Glbctx cfg} {op : Op cfg} {i : Fin cfg.connectionCount}
  {c : Fin cfg.channelCount} {chan' : Glbchannel}

theorem HasChannel.unique {chan : Glbchannel} (h : ctx.HasChannel i c chan)
    (h' : ctx.HasChannel i c chan') : chan = chan' := by
  obtain ⟨chs, hchs, rfl⟩ := h
  obtain ⟨chs', hchs', rfl⟩ := h'
  rw [Option.some_inj.1 (hchs.symm.trans hchs')]

/-- Overwriting channel `d` of slot `j` changes no other channel. -/
theorem hasChannel_of_set {j : Fin cfg.connectionCount} {d : Fin cfg.channelCount}
    {chs : Glbchannels cfg.channelCount} {chan₀ : Glbchannel}
    (hj : (ctx.connections j).channels = some chs)
    (hj' : (ctx'.connections j).channels = some (chs.set d chan₀))
    (hne : ∀ k, k ≠ j → (ctx'.connections k).channels = (ctx.connections k).channels)
    (h : ctx'.HasChannel i c chan') :
    (i = j ∧ c = d ∧ chan' = chan₀) ∨ (¬ (i = j ∧ c = d) ∧ ctx.HasChannel i c chan') := by
  obtain ⟨chs', hchs', rfl⟩ := h
  by_cases hij : i = j
  · subst hij
    obtain rfl := Option.some_inj.1 (hj'.symm.trans hchs')
    by_cases hcd : c = d
    · subst hcd
      exact Or.inl ⟨rfl, rfl, if_pos rfl⟩
    · exact Or.inr ⟨fun h ↦ hcd h.2, chs, hj, (if_neg hcd).symm⟩
  · exact Or.inr ⟨fun h ↦ hij h.1, chs', (hne i hij).symm.trans hchs', rfl⟩

theorem hasChannel_setChan {j : Fin cfg.connectionCount} {d : Fin cfg.channelCount}
    {chs : Glbchannels cfg.channelCount} {chan₀ : Glbchannel}
    (hj : (ctx.connections j).channels = some chs)
    (h : (ctx.setChan j d chan₀).HasChannel i c chan') :
    (i = j ∧ c = d ∧ chan' = chan₀) ∨ (¬ (i = j ∧ c = d) ∧ ctx.HasChannel i c chan') := by
  refine hasChannel_of_set hj ?_ (fun k hk ↦ ?_) h
  · simp [setChan, hj]
  · rw [setChan, connections_setCon_of_ne _ _ hk]

theorem hasChannel_setChan_self {chs : Glbchannels cfg.channelCount} {chan₀ : Glbchannel}
    (h : (ctx.connections i).channels = some chs) : (ctx.setChan i c chan₀).HasChannel i c chan₀ :=
  ⟨chs.set c chan₀, by simp [setChan, h], if_pos rfl⟩

/-- What a change of a slot makes of its channel array: it stays, it goes, or a slot that is not
established gets a new one. -/
theorem channels_of_change {con' : Glbconn cfg} {a' : Allocator}
    {evs : List (Glbevent cfg.connectionCount)} (h : Change ctx i op con' a' evs) :
    con'.channels = (ctx.connections i).channels ∨ con'.channels = none ∨
      ∃ chs ack, Opens ctx i op ack ∧ IsNewArray ctx.allocator a' chs ∧
        con'.channels = some (chs.withCounters (ctx.connections i).seq ack) := by
  cases h with
  | connected | finSent | reopened | reset | gaveUp | dropped => exact Or.inl rfl
  | opened _ _ _ _ hchannels => exact Or.inr (Or.inl hchannels)
  | closed _ _ _ hchannels => exact Or.inr (Or.inl hchannels)
  | accepted hflags hfind hstate hnew =>
    exact Or.inr (Or.inr ⟨_, _, .ack hflags hfind hstate, hnew, rfl⟩)
  | synAcked hflags hi hstate hnew =>
    exact Or.inr (Or.inr ⟨_, _, .synAck hflags hi hstate, hnew, rfl⟩)

/-- A step that opens the channels of a slot leaves it none of those it had. -/
theorem isOpened_of_opens {ack : UInt32} (h : Step ctx op ctx') (hopens : Opens ctx i op ack)
    (h' : ctx'.HasChannel i c chan') :
    chan'.IsOpened (cfg.channels.get c) (ctx.connections i).seq ack := by
  have hnew : ∃ chs a', IsNewArray ctx.allocator a' chs ∧
      (ctx'.connections i).channels = some (chs.withCounters (ctx.connections i).seq ack) := by
    cases hopens with
    | ack hflags hfind hstate =>
      obtain ⟨chs, a', hnew, hb⟩ :=
        onAck_of_synRcvd hfind hstate ((handlePacket_of_ack hflags).symm.trans h)
      exact ⟨chs, a', hnew, by rw [hb.self]⟩
    | synAck hflags hi hstate =>
      obtain ⟨chs, a', hnew, hb⟩ := becomes_of_synAck h hflags hi hstate
      exact ⟨chs, a', hnew, by rw [hb.self]⟩
  obtain ⟨chs, a', hnew, hchs⟩ := hnew
  obtain ⟨chs', hchs', rfl⟩ := h'
  cases hchs'.symm.trans hchs
  obtain ⟨hs, hr, hflags, hprio⟩ := hnew.chan c
  exact ⟨⟨hs, hr, hflags, hprio⟩, rfl, rfl⟩

/-- A quiet step keeps every channel, and the halves its operation is not about. -/
theorem Quiet.hasChannel (hq : ctx.Quiet op ctx') (h : ctx'.HasChannel i c chan') :
    ∃ chan, ctx.HasChannel i c chan ∧ (¬ op.Receives i → chan'.recvSide = chan.recvSide) ∧
      (¬ op.Sends i → chan'.sendSide = chan.sendSide) := by
  obtain ⟨chs', hchs', rfl⟩ := h
  have hsome := (hq.life i).channels_isSome
  rw [hchs', Option.isSome_some] at hsome
  obtain ⟨chs, hchs⟩ := Option.isSome_iff_exists.1 hsome.symm
  refine ⟨_, ⟨chs, hchs, rfl⟩, fun hr ↦ ?_, fun hs ↦ ?_⟩
  · have hside := (hq.life i).recv hr
    simp only [Glbconn.recvSides, hchs, hchs', Option.map_some, Option.some.injEq] at hside
    exact congrFun hside c
  · have hside := (hq.life i).send hs
    simp only [Glbconn.sendSides, hchs, hchs', Option.map_some, Option.some.injEq] at hside
    exact congrFun hside c

variable {chan : Glbchannel}

/-! ### Receiving -/

theorem recvChange_of_popdata {info : Glbrecvinfo cfg.connectionCount} {code : GLBErrorCode}
    {data : List UInt8} (h : ctx.glbPopdata info = some (code, data, ctx'))
    (hchan : ctx.HasChannel i c chan) (h' : ctx'.HasChannel i c chan') :
    RecvChange ctx i c chan (.popdata info) chan'.recvSide := by
  cases glbPopdata_effect h with
  | failed => rw [h'.unique hchan]; exact .same
  | popped hcon hc hchs hhead =>
    rcases hasChannel_setChan hchs h' with ⟨rfl, rfl, rfl⟩ | ⟨-, h'⟩
    · obtain rfl := hchan.unique ⟨_, hchs, rfl⟩
      exact .popped hcon hc hhead
    · rw [h'.unique hchan]; exact .same

theorem recvChange_of_data {pkg : Glbpkg} {from_ : Glbaddr} {env : Env}
    (hflags : pkg.header.ctrlFlags = ctrlFlagData) (h : ctx.onData pkg from_ env = some ctx')
    (hchan : ctx.HasChannel i c chan) (h' : ctx'.HasChannel i c chan') :
    RecvChange ctx i c chan (.packet pkg from_ env) chan'.recvSide := by
  have hsame : ctx'.HasChannel i c chan → RecvChange ctx i c chan (.packet pkg from_ env)
      chan'.recvSide := fun heq ↦ by rw [h'.unique heq]; exact .same
  cases onData_effect h with
  | ignored heq => exact hsame (heq ▸ hchan)
  | old _ _ _ _ heq =>
    refine hsame ?_
    rwa [heq, HasChannel, connections_glbioSend]
  | @future j _ _ _ _ _ _ heq =>
    refine hsame ?_
    rw [heq]
    obtain ⟨chs, hchs, rfl⟩ := hchan
    by_cases hij : i = j
    · exact ⟨chs, by subst hij; simpa using hchs, rfl⟩
    · exact ⟨chs, by rwa [connections_setCon_of_ne _ _ hij], rfl⟩
  | accepted hreach hseq haddr hb =>
    have hset := hasChannel_of_set hreach.channels (by rw [hb.self])
      (fun k hk ↦ by rw [hb.of_ne k hk]) h'
    rcases hset with ⟨rfl, rfl, rfl⟩ | ⟨-, h'⟩
    · obtain rfl := hchan.unique ⟨_, hreach.channels, rfl⟩
      exact .accepted hflags hreach rfl hseq haddr
    · rw [h'.unique hchan]; exact .same

/-! ### Sending -/

theorem sendChange_of_send {info : Glbsendinfo cfg.connectionCount} {now : ℕ}
    {code : GLBErrorCode} (h : ctx.glbSend info now = some (code, ctx'))
    (hchan : ctx.HasChannel i c chan) (h' : ctx'.HasChannel i c chan') :
    SendChange ctx i c chan (.send info now) chan'.sendSide := by
  cases glbSend_effect h with
  | refused =>
    have heq : ctx.HasChannel i c chan' := h'
    rw [heq.unique hchan]
    exact .same
  | queued hcon hdata hc _ hchs hroom =>
    rcases hasChannel_setChan hchs h' with ⟨rfl, rfl, rfl⟩ | ⟨-, h'⟩
    · obtain rfl := hchan.unique ⟨_, hchs, rfl⟩
      exact .queued hcon hdata hc hroom
    · rw [h'.unique hchan]; exact .same

theorem sendChange_of_dataAck {pkg : Glbpkg} {from_ : Glbaddr} {env : Env}
    (hflags : pkg.header.ctrlFlags = ctrlFlagDataAck) (h : ctx.onDataAck pkg = some ctx')
    (hchan : ctx.HasChannel i c chan) (h' : ctx'.HasChannel i c chan') :
    SendChange ctx i c chan (.packet pkg from_ env) chan'.sendSide := by
  cases onDataAck_effect h with
  | ignored heq => subst heq; rw [h'.unique hchan]; exact .same
  | popped hreach hhead hseq heq =>
    subst heq
    rcases hasChannel_setChan hreach.channels h' with ⟨rfl, rfl, rfl⟩ | ⟨-, h'⟩
    · obtain rfl := hchan.unique ⟨_, hreach.channels, rfl⟩
      exact .acked hflags hreach rfl hhead hseq
    · rw [h'.unique hchan]; exact .same

/-- The timers of a slot that is not established leave its channels alone, or free them. -/
theorem handleTimers_of_ne {env : Env} (hstate : (ctx.connections i).state ≠ .established)
    (h : ctx.handleTimers i env = some ctx') :
    (ctx'.connections i).channels = (ctx.connections i).channels ∨
      (ctx'.connections i).channels = none := by
  cases handleTimers_cases h with
  | idle => exact Or.inl rfl
  | syn | synAck | fin => exact Or.inl (by simp [retrySend])
  | gaveUp | dropped => exact Or.inl (by simp)
  | closed => exact Or.inr (by rw [(becomes_closeCon ctx i .timeout).self])
  | established hest => exact absurd hest hstate

theorem sendChange_of_timers {env : Env} (h : ctx.handleTimers i env = some ctx')
    (hq : ctx.Quiet (.timers i env) ctx') (hchan : ctx.HasChannel i c chan)
    (h' : ctx'.HasChannel i c chan') :
    SendChange ctx i c chan (.timers i env) chan'.sendSide := by
  obtain ⟨chs, hchs, rfl⟩ := hchan
  obtain ⟨chs', hchs', rfl⟩ := h'
  by_cases hest : (ctx.connections i).state = .established
  · obtain ⟨chs₁, hchs₁, htrans, -⟩ := handleTimers_of_established hest h
    obtain ⟨chs₂, hchs₂, htrans⟩ := htrans ((hq.life i).state.trans hest)
    obtain rfl := Option.some_inj.1 (hchs₁.symm.trans hchs)
    obtain rfl := Option.some_inj.1 (hchs₂.symm.trans hchs')
    exact .transmitted (htrans c)
  · rcases handleTimers_of_ne hest h with heq | hnone
    · rw [heq, hchs] at hchs'
      cases hchs'
      exact .same
    · rw [hnone] at hchs'
      cases hchs'

/-! ### All steps -/

/-- What a quiet step makes of a channel. -/
theorem channel_of_quiet (h : Step ctx op ctx') (hq : ctx.Quiet op ctx')
    (h' : ctx'.HasChannel i c chan') : ∃ chan, ctx.HasChannel i c chan ∧
      RecvChange ctx i c chan op chan'.recvSide ∧ SendChange ctx i c chan op chan'.sendSide := by
  obtain ⟨chan, hchan, hrecv, hsend⟩ := hq.hasChannel h'
  refine ⟨chan, hchan, ?_, ?_⟩
  · by_cases hr : op.Receives i
    · cases op with
      | popdata info =>
        obtain ⟨⟨code, data, ctx₁⟩, hpop, rfl⟩ := Option.map_eq_some_iff.1 h
        exact recvChange_of_popdata hpop hchan h'
      | packet pkg from_ env =>
        exact recvChange_of_data hr ((handlePacket_of_data hr).symm.trans h) hchan h'
      | _ => exact absurd hr id
    · rw [hrecv hr]; exact .same
  · by_cases hs : op.Sends i
    · cases op with
      | send info now =>
        obtain ⟨⟨code, ctx₁⟩, hsnd, rfl⟩ := Option.map_eq_some_iff.1 h
        exact sendChange_of_send hsnd hchan h'
      | packet pkg from_ env =>
        exact sendChange_of_dataAck hs ((handlePacket_of_dataAck hs).symm.trans h) hchan h'
      | timers j env =>
        obtain rfl : j = i := hs
        exact sendChange_of_timers h hq hchan h'
      | _ => exact absurd hs id
    · rw [hsend hs]; exact .same

/-- **What a step can do to one channel.** -/
theorem step_channel (h : Step ctx op ctx') (h' : ctx'.HasChannel i c chan') :
    (∃ ack, Opens ctx i op ack ∧
      chan'.IsOpened (cfg.channels.get c) (ctx.connections i).seq ack) ∨
    ∃ chan, ctx.HasChannel i c chan ∧ RecvChange ctx i c chan op chan'.recvSide ∧
      SendChange ctx i c chan op chan'.sendSide := by
  cases step_effect h with
  | quiet hq => exact Or.inr (channel_of_quiet h hq h')
  | @change j con' a' evs hb hchange =>
    have hsame : (ctx'.connections i).channels = (ctx.connections i).channels →
        ∃ chan, ctx.HasChannel i c chan ∧ RecvChange ctx i c chan op chan'.recvSide ∧
          SendChange ctx i c chan op chan'.sendSide := by
      intro heq
      obtain ⟨chs, hchs, rfl⟩ := h'
      exact ⟨_, ⟨chs, heq.symm.trans hchs, rfl⟩, .same, .same⟩
    by_cases hij : i = j
    · subst hij
      rw [hb.self] at hsame
      rcases channels_of_change hchange with heq | hnone | ⟨chs, ack, hopens, -⟩
      · exact Or.inr (hsame heq)
      · obtain ⟨chs, hchs, -⟩ := h'
        rw [hb.self, hnone] at hchs
        cases hchs
      · exact Or.inl ⟨ack, hopens, isOpened_of_opens h hopens h'⟩
    · exact Or.inr (hsame (by rw [hb.of_ne i hij]))

/-- A slot that is established after a step still has the channels it had. -/
theorem hasChannel_of_established (h : Step ctx op ctx')
    (hest' : (ctx'.connections i).state = .established) (hchan : ctx.HasChannel i c chan) :
    ∃ chan', ctx'.HasChannel i c chan' := by
  obtain ⟨chs, hchs, rfl⟩ := hchan
  rcases slot_effect h i with hsame | ⟨a', evs, hchange⟩
  · have hsome := hsame.channels_isSome
    rw [hchs, Option.isSome_some] at hsome
    obtain ⟨chs', hchs'⟩ := Option.isSome_iff_exists.1 hsome
    exact ⟨_, chs', hchs', rfl⟩
  generalize hself : ctx'.connections i = con' at hest' hchange
  cases hchange with
  | opened _ _ _ hstate' => rw [hstate'] at hest'; cases hest'
  | closed _ _ hstate' => rw [hstate'] at hest'; cases hest'
  | accepted | synAcked => exact ⟨_, _, by rw [hself], rfl⟩
  | connected | finSent | reopened | reset | gaveUp | dropped =>
    exact ⟨_, chs, by rw [hself]; exact hchs, rfl⟩

/-- **What a step can do to one channel of a slot that stays established.** -/
theorem channel_of_established {chan : Glbchannel} (h : Step ctx op ctx')
    (hest : (ctx.connections i).state = .established)
    (hest' : (ctx'.connections i).state = .established) (hchan : ctx.HasChannel i c chan) :
    ∃ chan', ctx'.HasChannel i c chan' ∧ RecvChange ctx i c chan op chan'.recvSide ∧
      SendChange ctx i c chan op chan'.sendSide := by
  obtain ⟨chan', hchan'⟩ := hasChannel_of_established h hest' hchan
  rcases step_channel h hchan' with ⟨ack, hopens, -⟩ | ⟨chan₁, hchan₁, hrecv, hsend⟩
  · exact absurd hest hopens.state_ne
  · obtain rfl := hchan₁.unique hchan
    exact ⟨chan', hchan', hrecv, hsend⟩

/-! ### What send queues hold -/

/-- Send queues hold DATA packets for their own channel. -/
def Tagged (ctx : Glbctx cfg) : Prop :=
  ∀ i c chan, ctx.HasChannel i c chan → ∀ p ∈ chan.sQueue.elems,
    p.header.ctrlFlags = ctrlFlagData ∧ p.header.channelId.toNat = c.val

theorem tagged_init : Tagged (init cfg) := by
  rintro i c chan ⟨chs, hchs, -⟩
  cases hchs

theorem history_push {q : Glbqueue Glbpkg} (pkg : Glbpkg) (h : q.isFull = false) :
    (q.push pkg).2.history = q.history ++ [pkg] := by
  rw [Glbqueue.toBoundedQueue_push, BoundedQueue.history_offer, if_neg (by rw [h]; decide)]

theorem elems_queuedChan {chan : Glbchannel} {pkg : Glbpkg} (h : chan.sQueue.isFull = false) :
    (queuedChan chan pkg).sQueue.elems = chan.sQueue.elems ++ [pkg] := by
  rw [queuedChan, Glbqueue.toBoundedQueue_push, BoundedQueue.elems_offer, h]
  rfl

theorem elems_acceptedChan {chan : Glbchannel} (pkg : Glbpkg) (h : chan.rQueue.isFull = false) :
    (acceptedChan chan pkg).rQueue.elems = chan.rQueue.elems ++ [pkg] := by
  rw [acceptedChan, Glbqueue.toBoundedQueue_push, BoundedQueue.elems_offer, h]
  rfl

/-- What a transmission leaves in the send queue was there before, up to the checksum, the deadline
and the count of the head. -/
theorem mem_of_transmitted (h : Transmitted chan chan') {p : Glbpkg}
    (hp : p ∈ chan'.sQueue.elems) :
    ∃ q ∈ chan.sQueue.elems, p = q ∨ ∃ now, p = retransmitted q now := by
  cases h with
  | idle => exact ⟨p, hp, Or.inl rfl⟩
  | kept now =>
    have hp : p ∈ chan.sQueue.elems.modifyHead (retransmitted · now) := hp
    rcases helems : chan.sQueue.elems with - | ⟨q, qs⟩ <;> rw [helems] at hp
    · cases hp
    · rcases List.mem_cons.1 hp with rfl | hp
      · exact ⟨q, List.mem_cons_self, Or.inr ⟨now, rfl⟩⟩
      · exact ⟨p, List.mem_cons_of_mem _ hp, Or.inl rfl⟩
  | dropped =>
    rw [Glbqueue.toBoundedQueue_pop, BoundedQueue.elems_drop] at hp
    exact ⟨p, List.mem_of_mem_tail hp, Or.inl rfl⟩

theorem tagged_step (hI : Tagged ctx) (h : Step ctx op ctx') : Tagged ctx' := by
  intro i c chan' hchan' p hp
  rcases step_channel h hchan' with ⟨ack, -, hopened⟩ | ⟨chan, hchan, -, hsend⟩
  · rw [hopened.sQueue.elems] at hp
    cases hp
  generalize hside : chan'.sendSide = side at hsend
  cases hsend with
  | same =>
    obtain ⟨hq, -⟩ := Glbchannel.sendSide_eq_iff.1 hside
    exact hI i c chan hchan p (hq ▸ hp)
  | queued _ _ hc hroom =>
    obtain ⟨hq, -⟩ := Glbchannel.sendSide_eq_iff.1 hside
    rw [hq, elems_queuedChan hroom] at hp
    rcases List.mem_append.1 hp with hp | hp
    · exact hI i c chan hchan p hp
    · rw [List.mem_singleton.1 hp]
      exact ⟨rfl, hc⟩
  | acked =>
    obtain ⟨hq, -⟩ := Glbchannel.sendSide_eq_iff.1 hside
    rw [hq, Glbqueue.toBoundedQueue_pop, BoundedQueue.elems_drop] at hp
    exact hI i c chan hchan p (List.mem_of_mem_tail hp)
  | @transmitted env chan₁ htrans =>
    obtain ⟨hq, -⟩ := Glbchannel.sendSide_eq_iff.1 hside
    rw [hq] at hp
    obtain ⟨q, hmem, rfl | ⟨now, rfl⟩⟩ := mem_of_transmitted htrans hp
    · exact hI i c chan hchan _ hmem
    · exact hI i c chan hchan q hmem

/-- **Send queues hold DATA packets for their own channel**, in every run. -/
theorem tagged_of_run {ts : List (Transition cfg)} (hrun : Run ts ctx) : Tagged ctx :=
  (Execution.invariant_of_state (I := Tagged) (C := fun _ ↦ True)
    (fun _ _ _ hI hstep _ ↦ tagged_step hI hstep) hrun tagged_init fun _ _ ↦ trivial).1

end Glbctx

end Gilberta
