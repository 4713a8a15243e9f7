import Gilberta.Effects.Locality
import Gilberta.Traffic.SendQueues

/-!
# Packets that act on a slot

What a DATA, DATA|ACK, FIN, FIN|ACK or RST packet has to be like to change the state, the channels
or the queues of a slot (`unchanged_iff`). The id is compared first, by `glbctx_findconn`, and then
each branch has a guard of its own (`Glbpkg.Acts`). Nothing else changes what was ever put into a
receive queue (`storedCount_step`).
-/

namespace Gilberta

variable {cfg : Glbcfg}

/-- A packet of an open connection, as opposed to its handshake and its keepalive. -/
def Glbpkg.IsTraffic (p : Glbpkg) : Prop :=
  p.header.ctrlFlags ∈ [ctrlFlagData, ctrlFlagDataAck, ctrlFlagFin, ctrlFlagFinAck, ctrlFlagRst]

instance (p : Glbpkg) : Decidable p.IsTraffic := by
  unfold Glbpkg.IsTraffic
  infer_instance

/-- The channel of an established slot that a packet is for. -/
def Glbconn.channelFor (con : Glbconn cfg) (p : Glbpkg) : Option Glbchannel :=
  if con.state = .established then
    if h : p.header.channelId.toNat < cfg.channelCount then
      con.channels.map fun chs ↦ chs.chan ⟨_, h⟩
    else none
  else none

/-- The branch for a packet acts on a slot: a FIN that can be answered, a FIN|ACK and an RST unless
the slot is closed, DATA that is next in line or comes unreliably from the address of the slot, and
a DATA|ACK for the head of the send queue. -/
def Glbpkg.Acts (p : Glbpkg) (con : Glbconn cfg) (from_ : Glbaddr) (env : Env) : Prop :=
  let flags := p.header.ctrlFlags
  if flags = ctrlFlagFin then con.state ≠ .closed ∧ env.sendOk 0 = true
  else if flags = ctrlFlagFinAck then con.state ≠ .closed
  else if flags = ctrlFlagRst then con.state ≠ .closed
  else if flags = ctrlFlagData then ∃ chan ∈ con.channelFor p,
    if chan.reliable then p.header.seq = chan.ack else con.peerAddr = from_
  else if flags = ctrlFlagDataAck then ∃ chan ∈ con.channelFor p,
    ∃ head ∈ chan.sQueue.elems.head?, head.header.seq = p.header.ack
  else False

instance (p : Glbpkg) (con : Glbconn cfg) (from_ : Glbaddr) (env : Env) :
    Decidable (p.Acts con from_ env) := by
  unfold Glbpkg.Acts
  infer_instance

/-- A packet finds a slot and its branch acts on it. -/
def Glbpkg.Hits (p : Glbpkg) (ctx : Glbctx cfg) (from_ : Glbaddr) (env : Env)
    (i : Fin cfg.connectionCount) : Prop :=
  p.Finds ctx i ∧ p.Acts (ctx.connections i) from_ env

instance (p : Glbpkg) (ctx : Glbctx cfg) (from_ : Glbaddr) (env : Env)
    (i : Fin cfg.connectionCount) : Decidable (p.Hits ctx from_ env i) := by
  unfold Glbpkg.Hits
  infer_instance

namespace Glbctx

/-- How many messages were ever put into a receive queue. -/
def storedCount (ctx : Glbctx cfg) (i : Fin cfg.connectionCount) (c : Fin cfg.channelCount) : ℕ :=
  match (ctx.connections i).channels with
  | none => 0
  | some chs => (chs.chan c).rQueue.history.length

variable {ctx ctx' : Glbctx cfg} {i : Fin cfg.connectionCount} {pkg : Glbpkg} {from_ : Glbaddr}
  {env : Env} {con : Glbconn cfg}

/-! ### Which packets change a slot -/

theorem isTraffic_of_acts (h : pkg.Acts con from_ env) : pkg.IsTraffic := by
  unfold Glbpkg.Acts at h
  unfold Glbpkg.IsTraffic
  dsimp only at h
  split at h
  · next hflags => rw [hflags]; decide
  split at h
  · next hflags => rw [hflags]; decide
  split at h
  · next hflags => rw [hflags]; decide
  split at h
  · next hflags => rw [hflags]; decide
  split at h
  · next hflags => rw [hflags]; decide
  · exact h.elim

/-- The channel a packet is for is the one it reaches. -/
theorem mem_channelFor (hfind : pkg.Finds ctx i) {chan : Glbchannel} :
    chan ∈ (ctx.connections i).channelFor pkg ↔
      ∃ c chs, pkg.Reaches ctx i c chs ∧ chs.chan c = chan := by
  unfold Glbconn.channelFor
  constructor
  · intro h
    split at h
    · next hest =>
      split at h
      · next hlt =>
        obtain ⟨chs, hchs, rfl⟩ := Option.map_eq_some_iff.1 h
        exact ⟨⟨_, hlt⟩, chs, ⟨hfind, hest, hchs, rfl⟩, rfl⟩
      · cases h
    · cases h
  · rintro ⟨c, chs, hreach, rfl⟩
    have hlt : pkg.header.channelId.toNat < cfg.channelCount := hreach.channel ▸ c.isLt
    obtain rfl : c = ⟨_, hlt⟩ := Fin.ext hreach.channel.symm
    rw [if_pos hreach.established, dif_pos hlt, hreach.channels]
    rfl

theorem set_ne {m : ℕ} {chs : Glbchannels m} {c : Fin m} {chan : Glbchannel}
    (h : chan ≠ chs.chan c) : chs.set c chan ≠ chs := by
  intro heq
  have hc : (chs.set c chan).chan c = chs.chan c := by rw [heq]
  exact h ((if_pos rfl).symm.trans hc)

/-- The state, the channels and the queues of a slot are as they were. -/
def Unchanged (i : Fin cfg.connectionCount) (ctx ctx' : Glbctx cfg) : Prop :=
  (ctx'.connections i).state = (ctx.connections i).state ∧
    (ctx'.connections i).channels = (ctx.connections i).channels

theorem unchanged_onFin_iff (hfind : pkg.Finds ctx i)
    (hflags : pkg.header.ctrlFlags = ctrlFlagFin) :
    Unchanged i ctx (ctx.onFin pkg env) ↔ ¬ pkg.Acts (ctx.connections i) from_ env := by
  have hacts : pkg.Acts (ctx.connections i) from_ env ↔
      (ctx.connections i).state ≠ .closed ∧ env.sendOk 0 = true := by
    rw [Glbpkg.Acts, hflags]
    rfl
  rw [Unchanged, connections_onFin hfind, hacts]
  split
  · next h => exact ⟨fun hsame ↦ absurd hsame.1.symm h.2, fun hnot ↦ absurd h.symm hnot⟩
  · next h => exact ⟨fun _ hacts ↦ h hacts.symm, fun _ ↦ ⟨rfl, rfl⟩⟩

theorem unchanged_onFinAck_iff (hfind : pkg.Finds ctx i)
    (hflags : pkg.header.ctrlFlags = ctrlFlagFinAck) :
    Unchanged i ctx (ctx.onFinAck pkg) ↔ ¬ pkg.Acts (ctx.connections i) from_ env := by
  have hacts : pkg.Acts (ctx.connections i) from_ env ↔ (ctx.connections i).state ≠ .closed := by
    rw [Glbpkg.Acts, hflags]
    rfl
  rw [Unchanged, connections_onFinAck hfind, hacts]
  split
  · next h => exact ⟨fun hsame ↦ absurd hsame.1.symm h, fun hnot ↦ absurd h hnot⟩
  · next h => exact ⟨fun _ ↦ h, fun _ ↦ ⟨rfl, rfl⟩⟩

theorem unchanged_onRst_iff (hfind : pkg.Finds ctx i)
    (hflags : pkg.header.ctrlFlags = ctrlFlagRst) :
    Unchanged i ctx (ctx.onRst pkg) ↔ ¬ pkg.Acts (ctx.connections i) from_ env := by
  have hacts : pkg.Acts (ctx.connections i) from_ env ↔ (ctx.connections i).state ≠ .closed := by
    rw [Glbpkg.Acts, hflags]
    rfl
  have hstate : ((ctx.onRst pkg).connections i).state = .closed := by
    rw [connections_onRst hfind]
    split <;> rfl
  rw [hacts, not_not]
  refine ⟨fun hsame ↦ hsame.1.symm.trans hstate, fun hclosed ↦ ⟨hstate.trans hclosed.symm, ?_⟩⟩
  rw [connections_onRst hfind, if_neg (by rw [hclosed]; decide)]

/-- DATA acts on the channel it reaches. -/
theorem acts_data_iff (hfind : pkg.Finds ctx i) (hflags : pkg.header.ctrlFlags = ctrlFlagData) :
    pkg.Acts (ctx.connections i) from_ env ↔ ∃ c chs, pkg.Reaches ctx i c chs ∧
      if (chs.chan c).reliable then pkg.header.seq = (chs.chan c).ack
      else (ctx.connections i).peerAddr = from_ := by
  rw [Glbpkg.Acts, hflags]
  show (∃ chan ∈ (ctx.connections i).channelFor pkg, _) ↔ _
  simp only [mem_channelFor hfind]
  constructor
  · rintro ⟨_, ⟨c, chs, hreach, rfl⟩, hnext⟩
    exact ⟨c, chs, hreach, hnext⟩
  · rintro ⟨c, chs, hreach, hnext⟩
    exact ⟨_, ⟨c, chs, hreach, rfl⟩, hnext⟩

/-- A number that is not the next one. -/
theorem not_acts_data (hfind : pkg.Finds ctx i) (hflags : pkg.header.ctrlFlags = ctrlFlagData)
    {c : Fin cfg.channelCount} {chs : Glbchannels cfg.channelCount}
    (hreach : pkg.Reaches ctx i c chs) (hrel : (chs.chan c).reliable = true)
    (hne : pkg.header.seq ≠ (chs.chan c).ack) :
    ¬ pkg.Acts (ctx.connections i) from_ env := by
  rw [acts_data_iff hfind hflags]
  rintro ⟨d, chs', hreach', hnext⟩
  obtain ⟨-, rfl, rfl⟩ := hreach.unique hreach'
  rw [if_pos hrel] at hnext
  exact hne hnext

theorem unchanged_onData_iff (hfind : pkg.Finds ctx i)
    (hflags : pkg.header.ctrlFlags = ctrlFlagData) (h : ctx.onData pkg from_ env = some ctx') :
    Unchanged i ctx ctx' ↔ ¬ pkg.Acts (ctx.connections i) from_ env := by
  rcases onData_effect h with ⟨rfl, hnot⟩ | @⟨j, c, chs, hreach, hrel, hlt, haddr, rfl⟩ |
    @⟨j, c, chs, hreach, hrel, hlt, haddr, rfl⟩ | @⟨j, c, chs, hreach, hseq, haddr, hb, -⟩
  · refine ⟨fun _ hacts ↦ ?_, fun _ ↦ ⟨rfl, rfl⟩⟩
    obtain ⟨c, chs, hreach, hnext⟩ := (acts_data_iff hfind hflags).1 hacts
    obtain ⟨hpeer, hseq⟩ := hnot i c chs hreach
    split at hnext
    · next hrel => exact hseq ⟨hrel, hnext⟩
    · exact hpeer hnext
  · obtain rfl : j = i := Option.some_inj.1 (hreach.finds.symm.trans hfind)
    refine ⟨fun _ ↦ not_acts_data hfind hflags hreach hrel (UInt32.ne_of_lt hlt), fun _ ↦ ?_⟩
    rw [Unchanged, connections_glbioSend]
    exact ⟨rfl, rfl⟩
  · obtain rfl : j = i := Option.some_inj.1 (hreach.finds.symm.trans hfind)
    refine ⟨fun _ ↦ not_acts_data hfind hflags hreach hrel (UInt32.ne_of_lt hlt).symm, fun _ ↦ ?_⟩
    rw [Unchanged, connections_setCon_self]
    exact ⟨rfl, rfl⟩
  · obtain rfl : j = i := Option.some_inj.1 (hreach.finds.symm.trans hfind)
    have hacts : pkg.Acts (ctx.connections j) from_ env := by
      refine (acts_data_iff hfind hflags).2 ⟨c, chs, hreach, ?_⟩
      split
      · next hrel => exact hseq hrel
      · next hrel => exact haddr (by simpa using hrel)
    refine ⟨fun hsame ↦ ?_, fun hnot ↦ absurd hacts hnot⟩
    -- the number the channel waits for has moved on
    have hne : acceptedChan (chs.chan c) pkg ≠ chs.chan c := by
      intro heq
      have hack : (chs.chan c).ack + 1 = (chs.chan c).ack := congrArg Glbchannel.ack heq
      simp at hack
    have hchs := hsame.2
    rw [hb.self, hreach.channels] at hchs
    exact absurd (Option.some_inj.1 hchs) (set_ne hne)

/-- A DATA|ACK acts on the send queue it reaches. -/
theorem acts_dataAck_iff (hfind : pkg.Finds ctx i)
    (hflags : pkg.header.ctrlFlags = ctrlFlagDataAck) :
    pkg.Acts (ctx.connections i) from_ env ↔ ∃ c chs, pkg.Reaches ctx i c chs ∧
      ∃ head ∈ (chs.chan c).sQueue.elems.head?, head.header.seq = pkg.header.ack := by
  rw [Glbpkg.Acts, hflags]
  show (∃ chan ∈ (ctx.connections i).channelFor pkg, _) ↔ _
  simp only [mem_channelFor hfind]
  constructor
  · rintro ⟨_, ⟨c, chs, hreach, rfl⟩, hhead⟩
    exact ⟨c, chs, hreach, hhead⟩
  · rintro ⟨c, chs, hreach, hhead⟩
    exact ⟨_, ⟨c, chs, hreach, rfl⟩, hhead⟩

theorem unchanged_onDataAck_iff (hfind : pkg.Finds ctx i)
    (hflags : pkg.header.ctrlFlags = ctrlFlagDataAck) (h : ctx.onDataAck pkg = some ctx') :
    Unchanged i ctx ctx' ↔ ¬ pkg.Acts (ctx.connections i) from_ env := by
  rw [acts_dataAck_iff hfind hflags]
  rcases onDataAck_effect h with ⟨rfl, hnot⟩ | @⟨j, c, chs, head, rest, hreach, hhead, hseq, rfl⟩
  · refine ⟨?_, fun _ ↦ ⟨rfl, rfl⟩⟩
    rintro - ⟨c, chs, hreach, head, hhead, hseq⟩
    obtain ⟨rest, hrest⟩ := List.head?_eq_some_iff.1 hhead
    exact hnot i c chs head rest hreach hrest hseq
  · obtain rfl : j = i := Option.some_inj.1 (hreach.finds.symm.trans hfind)
    refine ⟨fun hsame ↦ ?_, fun hnot ↦ ?_⟩
    · -- the send queue is one packet shorter
      have hne : { chs.chan c with sQueue := (chs.chan c).sQueue.pop.2.2 } ≠ chs.chan c := by
        intro heq
        have helems := congrArg (fun chan : Glbchannel ↦ chan.sQueue.elems.length) heq
        dsimp only at helems
        rw [Glbqueue.toBoundedQueue_pop, BoundedQueue.elems_drop, hhead] at helems
        simp at helems
      have hchs := hsame.2
      rw [setChan, connections_setCon_self] at hchs
      dsimp only at hchs
      rw [hreach.channels] at hchs
      exact absurd (Option.some_inj.1 hchs) (set_ne hne)
    · exact absurd ⟨c, chs, hreach, head, by rw [hhead]; rfl, hseq⟩ hnot

/-- **A packet of an open connection leaves a slot alone exactly if it does not hit it.** -/
theorem unchanged_iff (htraffic : pkg.IsTraffic) (h : ctx.handlePacket pkg from_ env = some ctx')
    (i : Fin cfg.connectionCount) : Unchanged i ctx ctx' ↔ ¬ pkg.Hits ctx from_ env i := by
  simp only [Glbpkg.IsTraffic, List.mem_cons, List.not_mem_nil, or_false] at htraffic
  by_cases hfind : pkg.Finds ctx i
  case neg =>
    have hne : pkg.header.ctrlFlags ≠ ctrlFlagSyn ∧ pkg.header.ctrlFlags ≠ ctrlFlagSynAck := by
      rcases htraffic with hflags | hflags | hflags | hflags | hflags <;> rw [hflags] <;> decide
    have hstep : Step ctx (.packet pkg from_ env) ctx' := h
    have hnot : ¬ (Op.packet pkg from_ env : Op cfg).IsAbout ctx i :=
      fun habout ↦ hfind ((Glbpkg.isAbout_iff_finds (fun h ↦ hne.1 h.1) hne.2).1 habout)
    rw [Unchanged, step_local hstep hnot]
    exact ⟨fun _ hhits ↦ hfind hhits.1, fun _ ↦ ⟨rfl, rfl⟩⟩
  rw [Glbpkg.Hits, and_iff_right hfind]
  rcases htraffic with hflags | hflags | hflags | hflags | hflags
  · exact unchanged_onData_iff hfind hflags ((handlePacket_of_data hflags).symm.trans h)
  · exact unchanged_onDataAck_iff hfind hflags ((handlePacket_of_dataAck hflags).symm.trans h)
  · obtain rfl := onFin_eq_of_handled h hflags
    exact unchanged_onFin_iff hfind hflags
  · obtain rfl := onFinAck_eq_of_handled h hflags
    exact unchanged_onFinAck_iff hfind hflags
  · obtain rfl := onRst_eq_of_handled h hflags
    exact unchanged_onRst_iff hfind hflags

/-! ### Which steps put a message into a receive queue -/

theorem storedCount_of_hasChannel {c : Fin cfg.channelCount} {chan : Glbchannel}
    (h : ctx.HasChannel i c chan) : ctx.storedCount i c = chan.rQueue.history.length := by
  obtain ⟨chs, hchs, rfl⟩ := h
  simp only [storedCount, hchs]

theorem exists_hasChannel {c : Fin cfg.channelCount} (h : ctx.storedCount i c ≠ 0) :
    ∃ chan, ctx.HasChannel i c chan := by
  rcases hchs : (ctx.connections i).channels with - | chs
  · exact absurd (by simp only [storedCount, hchs]) h
  · exact ⟨chs.chan c, chs, hchs, rfl⟩

/-- New queues are empty. -/
theorem storedCount_of_isOpened {c : Fin cfg.channelCount} {chan : Glbchannel} {config : Glbchan}
    {seq ack : UInt32} (h : ctx.HasChannel i c chan) (hopened : chan.IsOpened config seq ack) :
    ctx.storedCount i c = 0 := by
  rw [storedCount_of_hasChannel h, BoundedQueue.history, hopened.rQueue.taken, hopened.rQueue.elems]
  rfl

theorem length_history_push (q : Glbqueue Glbpkg) (pkg : Glbpkg) :
    (q.push pkg).2.history.length = q.history.length ∨
      (q.push pkg).2.history.length = q.history.length + 1 := by
  rw [Glbqueue.toBoundedQueue_push, BoundedQueue.history, BoundedQueue.taken_offer,
    BoundedQueue.elems_offer]
  split
  · exact Or.inl rfl
  · refine Or.inr ?_
    rw [← List.append_assoc, List.length_append]
    rfl

/-- **The number of messages put into a receive queue grows only when the packet handled hits the
slot**, and then by one; otherwise it stays, or the queue is new or gone. -/
theorem storedCount_step {op : Op cfg} (h : Step ctx op ctx') (i : Fin cfg.connectionCount)
    (c : Fin cfg.channelCount) :
    ctx'.storedCount i c = 0 ∨ ctx'.storedCount i c = ctx.storedCount i c ∨
      (ctx'.storedCount i c = ctx.storedCount i c + 1 ∧
        ∃ pkg from_ env, op = .packet pkg from_ env ∧ pkg.Hits ctx from_ env i) := by
  by_cases hzero : ctx'.storedCount i c = 0
  · exact Or.inl hzero
  obtain ⟨chan', hchan'⟩ := exists_hasChannel hzero
  rcases step_channel h hchan' with ⟨ack, -, hopened⟩ | ⟨chan, hchan, hrecv, -⟩
  · exact absurd (storedCount_of_isOpened hchan' hopened) hzero
  refine Or.inr ?_
  rw [storedCount_of_hasChannel hchan', storedCount_of_hasChannel hchan]
  generalize hside : chan'.recvSide = side at hrecv
  have hq : chan'.rQueue = side.1 := congrArg Prod.fst hside
  rw [hq]
  rcases hrecv with - | - | @⟨pkg, from_, env, chs, hflags, hreach, rfl, hseq, haddr⟩
  · exact Or.inl rfl
  · refine Or.inl ?_
    rw [Glbqueue.toBoundedQueue_pop, BoundedQueue.history_drop]
  · have hacts : pkg.Acts (ctx.connections i) from_ env := by
      refine (acts_data_iff hreach.finds hflags).2 ⟨c, chs, hreach, ?_⟩
      split
      · next hrel => exact hseq hrel
      · next hrel => exact haddr (by simpa using hrel)
    rcases length_history_push (chs.chan c).rQueue pkg with heq | heq
    · exact Or.inl heq
    · exact Or.inr ⟨heq, pkg, from_, env, rfl, hreach.finds, hacts⟩

end Glbctx

end Gilberta
