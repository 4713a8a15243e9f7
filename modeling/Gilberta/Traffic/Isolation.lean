import Gilberta.Effects.Locality
import Gilberta.Lifecycle.Progress
import Gilberta.Traffic.Migration

/-!
# Connections do not influence each other

Handling a packet reads and writes the slot its id leads to, and no other. This is a statement about
two runs: handle a list of packets, and handle only those of them that carry the id of one slot; the
slot ends with the same contents (`isolated`). The two runs do not have the same memory, since the
allocations of the other slots are missing in one of them, so the *contents* of a slot is its record
without the addresses of the blocks.

The proof is an unwinding (`Execution.exists_foldlM_filter`). A packet with another id leaves the
record alone, which is `step_local`. A packet with the id of the slot is handled by a branch that
computes the new contents from the old ones, the packet and its surroundings.
-/

namespace Gilberta

variable {cfg : Glbcfg}

/-! ### Contents -/

/-- A queue without the address of its block. -/
def Glbqueue.contents {α : Type} (q : Glbqueue α) : Glbqueue α := { q with block := 0 }

/-- A channel without the addresses of its blocks. -/
def Glbchannel.contents (chan : Glbchannel) : Glbchannel :=
  { chan with sQueue := chan.sQueue.contents, rQueue := chan.rQueue.contents }

/-- A channel array without the addresses of its blocks. -/
def Glbchannels.contents {m : ℕ} (chs : Glbchannels m) : Glbchannels m where
  block := 0
  chan c := (chs.chan c).contents

/-- A slot without the addresses of its blocks: everything else its record has. -/
def Glbconn.contents (con : Glbconn cfg) : Glbconn cfg :=
  { con with channels := con.channels.map Glbchannels.contents }

theorem Glbqueue.contents_eq_of_toBoundedQueue {α : Type} {q q' : Glbqueue α}
    (h : q.toBoundedQueue = q'.toBoundedQueue) : q.contents = q'.contents := by
  rw [contents, contents, h]

theorem Glbqueue.toBoundedQueue_eq_of_contents {α : Type} {q q' : Glbqueue α}
    (h : q.contents = q'.contents) : q.toBoundedQueue = q'.toBoundedQueue :=
  (congrArg Glbqueue.toBoundedQueue h :)

/-- New queues have the same contents. -/
theorem Glbqueue.IsNew.contents_eq {α : Type} {q q' : Glbqueue α} (h : q.IsNew) (h' : q'.IsNew) :
    q.contents = q'.contents := by
  refine contents_eq_of_toBoundedQueue ?_
  have hc := h.capacity.trans h'.capacity.symm
  have he := h.elems.trans h'.elems.symm
  have ht := h.taken.trans h'.taken.symm
  clear h h'
  obtain ⟨⟨c, e, t, hle⟩, b⟩ := q
  obtain ⟨⟨c', e', t', hle'⟩, b'⟩ := q'
  obtain rfl : c = c' := hc
  obtain rfl : e = e' := he
  obtain rfl : t = t' := ht
  rfl

/-- New channels of one configuration have the same contents. -/
theorem Glbchannel.IsNew.contents_eq {config : Glbchan} {chan chan' : Glbchannel}
    (h : chan.IsNew config) (h' : chan'.IsNew config) (seq ack : UInt32) :
    ({ chan with seq := seq, ack := ack } : Glbchannel).contents =
      ({ chan' with seq := seq, ack := ack } : Glbchannel).contents := by
  simp only [contents, h.sQueue.contents_eq h'.sQueue, h.rQueue.contents_eq h'.rQueue,
    h.flags.trans h'.flags.symm, h.priority.trans h'.priority.symm]

/-- Overwriting channels with the same contents. -/
theorem Glbchannels.contents_set {m : ℕ} {chs chs' : Glbchannels m} {chan chan' : Glbchannel}
    (h : chs.contents = chs'.contents) (hchan : chan.contents = chan'.contents) (c : Fin m) :
    (chs.set c chan).contents = (chs'.set c chan').contents := by
  refine congrArg (Glbchannels.mk 0) (funext fun d ↦ ?_)
  show (if d = c then chan else chs.chan d : Glbchannel).contents =
    (if d = c then chan' else chs'.chan d : Glbchannel).contents
  split
  · exact hchan
  · exact congrFun (congrArg Glbchannels.chan h) d

namespace Glbctx

variable {ctx ctx' ctx₁ ctx₂ ctx₁' : Glbctx cfg} {i : Fin cfg.connectionCount} {pkg : Glbpkg}
  {from_ : Glbaddr} {env : Env}

/-- Slot `i` has the same contents in two contexts. -/
def Agree (i : Fin cfg.connectionCount) (ctx₁ ctx₂ : Glbctx cfg) : Prop :=
  (ctx₁.connections i).contents = (ctx₂.connections i).contents

/-- Slot `i` is the only one with the id `connId`. -/
structure SoleHolder (i : Fin cfg.connectionCount) (connId : Glbconid) (ctx : Glbctx cfg) :
    Prop where
  /-- The slot has the id. -/
  self : (ctx.connections i).connId = connId
  /-- The other slots do not. -/
  of_ne : ∀ j, j ≠ i → (ctx.connections j).connId ≠ connId

/-! ### Whose packet it is -/

theorem conId_of_finds (h : pkg.Finds ctx i) : (ctx.connections i).connId = pkg.conId := by
  have hsame := List.find?_some h
  simp only [decide_eq_true_eq] at hsame
  obtain ⟨hgen, hid⟩ := hsame
  show (⟨(ctx.connections i).connId.id, (ctx.connections i).connId.generation⟩ : Glbconid) = _
  rw [hgen, hid]
  rfl

/-- The packets that lead to the only holder of an id are those that carry it. -/
theorem SoleHolder.finds_iff {connId : Glbconid} (h : SoleHolder i connId ctx) :
    pkg.Finds ctx i ↔ pkg.conId = connId := by
  refine ⟨fun hfind ↦ (conId_of_finds hfind).symm.trans h.self, fun hid ↦ ?_⟩
  have hself := h.self
  rw [← hid] at hself
  rcases hfind : ctx.findConn pkg.header.clientGen pkg.header.clientId with - | j
  · -- the lookup meets slot `i` at the latest
    have hnone := List.find?_eq_none.1 hfind i (List.mem_finRange i)
    simp only [decide_eq_true_eq, hself] at hnone
    exact absurd ⟨rfl, rfl⟩ hnone
  · have hj : (ctx.connections j).connId = connId := (conId_of_finds hfind).trans hid
    obtain rfl : j = i := by_contra fun hne ↦ h.of_ne j hne hj
    exact hfind

/-- A packet that is neither SYN nor SYN|ACK changes no id. -/
theorem connId_of_packet (hsyn : pkg.header.ctrlFlags ≠ ctrlFlagSyn)
    (hsynAck : pkg.header.ctrlFlags ≠ ctrlFlagSynAck)
    (h : ctx.handlePacket pkg from_ env = some ctx') (j : Fin cfg.connectionCount) :
    (ctx'.connections j).connId = (ctx.connections j).connId := by
  have hstep : Step ctx (.packet pkg from_ env) ctx' := h
  rcases slot_effect hstep j with hsame | ⟨a', evs, hchange⟩
  · exact hsame.connId
  generalize ctx'.connections j = con' at hchange ⊢
  cases hchange with
  | reopened hsyn' => exact absurd hsyn'.1 hsyn
  | opened hsyn' => exact absurd hsyn'.1 hsyn
  | accepted => rfl
  | synAcked hflags => exact absurd hflags hsynAck
  | closed _ _ _ _ hid => exact hid
  | reset => rfl

theorem SoleHolder.packet {connId : Glbconid} (hI : SoleHolder i connId ctx)
    (hsyn : pkg.header.ctrlFlags ≠ ctrlFlagSyn) (hsynAck : pkg.header.ctrlFlags ≠ ctrlFlagSynAck)
    (h : ctx.handlePacket pkg from_ env = some ctx') : SoleHolder i connId ctx' where
  self := (connId_of_packet hsyn hsynAck h i).trans hI.self
  of_ne j hj := by
    rw [connId_of_packet hsyn hsynAck h j]
    exact hI.of_ne j hj

/-! ### What agreeing slots have in common -/

theorem Agree.state (h : Agree i ctx₁ ctx₂) :
    (ctx₁.connections i).state = (ctx₂.connections i).state := (congrArg Glbconn.state h :)

theorem Agree.peerAddr (h : Agree i ctx₁ ctx₂) :
    (ctx₁.connections i).peerAddr = (ctx₂.connections i).peerAddr := (congrArg Glbconn.peerAddr h :)

theorem Agree.seq (h : Agree i ctx₁ ctx₂) :
    (ctx₁.connections i).seq = (ctx₂.connections i).seq := (congrArg Glbconn.seq h :)

/-- If one of them has channels, so has the other, with the same contents. -/
theorem Agree.channels (h : Agree i ctx₁ ctx₂) {chs₁ : Glbchannels cfg.channelCount}
    (hchs₁ : (ctx₁.connections i).channels = some chs₁) :
    ∃ chs₂, (ctx₂.connections i).channels = some chs₂ ∧ chs₁.contents = chs₂.contents := by
  have hmap : (ctx₁.connections i).channels.map Glbchannels.contents =
      (ctx₂.connections i).channels.map Glbchannels.contents := (congrArg Glbconn.channels h :)
  rw [hchs₁, Option.map_some] at hmap
  obtain ⟨chs₂, hchs₂, heq⟩ := Option.map_eq_some_iff.1 hmap.symm
  exact ⟨chs₂, hchs₂, heq.symm⟩

/-- The channel a packet leads to in one of them it leads to in the other. -/
theorem Agree.reaches (h : Agree i ctx₁ ctx₂) (hfind₂ : pkg.Finds ctx₂ i)
    {c : Fin cfg.channelCount} {chs₁ : Glbchannels cfg.channelCount}
    (hreach : pkg.Reaches ctx₁ i c chs₁) :
    ∃ chs₂, pkg.Reaches ctx₂ i c chs₂ ∧ chs₁.contents = chs₂.contents := by
  obtain ⟨chs₂, hchs₂, heq⟩ := h.channels hreach.channels
  exact ⟨chs₂, ⟨hfind₂, h.state ▸ hreach.established, hchs₂, hreach.channel⟩, heq⟩

theorem Agree.symm (h : Agree i ctx₁ ctx₂) : Agree i ctx₂ ctx₁ := Eq.symm h

theorem ack_of_contents {chan₁ chan₂ : Glbchannel} (h : chan₁.contents = chan₂.contents) :
    chan₁.ack = chan₂.ack := (congrArg Glbchannel.ack h :)

theorem reliable_of_contents {chan₁ chan₂ : Glbchannel} (h : chan₁.contents = chan₂.contents) :
    chan₁.reliable = chan₂.reliable := (congrArg Glbchannel.reliable h :)

theorem contents_chan {chs₁ chs₂ : Glbchannels cfg.channelCount} (h : chs₁.contents = chs₂.contents)
    (c : Fin cfg.channelCount) : (chs₁.chan c).contents = (chs₂.chan c).contents :=
  congrFun (congrArg Glbchannels.chan h) c

/-! ### The branches -/

/-- The ACK branch. -/
theorem agree_onAck (hsame : Agree i ctx₁ ctx₂) (hfind₁ : pkg.Finds ctx₁ i)
    (hfind₂ : pkg.Finds ctx₂ i) (hok : env.MallocOk) (h₁ : ctx₁.onAck pkg env = some ctx₁') :
    ∃ ctx₂', ctx₂.onAck pkg env = some ctx₂' ∧ Agree i ctx₁' ctx₂' := by
  obtain ⟨ctx₂', h₂⟩ : ∃ ctx₂', ctx₂.onAck pkg env = some ctx₂' := exists_onAck hok
  refine ⟨ctx₂', h₂, ?_⟩
  by_cases hstate : (ctx₁.connections i).state = .synRcvd
  · obtain ⟨chs₁, a₁, hnew₁, hb₁⟩ := onAck_of_synRcvd hfind₁ hstate h₁
    obtain ⟨chs₂, a₂, hnew₂, hb₂⟩ := onAck_of_synRcvd hfind₂ (hsame.state ▸ hstate) h₂
    have hchs : (chs₁.withCounters (ctx₁.connections i).seq pkg.header.seq).contents =
        (chs₂.withCounters (ctx₂.connections i).seq pkg.header.seq).contents := by
      rw [hsame.seq]
      exact congrArg (Glbchannels.mk 0) (funext fun c ↦
        (hnew₁.chan c).contents_eq (hnew₂.chan c) _ _)
    rw [Agree, hb₁.self, hb₂.self]
    exact (congrArg₂ (fun (con : Glbconn cfg) chs ↦ ({ con with
      state := .established
      channels := some chs
      keepaliveRetry := 0
      keepalive := glbtimeStart (env.clock 0) glbKeepaliveTime } : Glbconn cfg)) hsame hchs :)
  · have hidle : ∀ {ctx ctx' : Glbctx cfg}, pkg.Finds ctx i →
        (ctx.connections i).state ≠ .synRcvd → ctx.onAck pkg env = some ctx' → ctx' = ctx := by
      intro ctx ctx' hfind hne h
      have hfind : ctx.findConn pkg.header.clientGen pkg.header.clientId = some i := hfind
      simp only [onAck, hfind] at h
      rw [if_pos hne] at h
      exact (Option.some_inj.1 h).symm
    rw [hidle hfind₁ hstate h₁, hidle hfind₂ (hsame.state ▸ hstate) h₂]
    exact hsame

/-- Closing agreeing slots. -/
theorem Agree.closed (h : Agree i ctx₁ ctx₂) :
    ({ ctx₁.connections i with state := .closed, channels := none } : Glbconn cfg).contents =
      ({ ctx₂.connections i with state := .closed, channels := none } : Glbconn cfg).contents :=
  (congrArg (fun con : Glbconn cfg ↦
    ({ con with state := .closed, channels := none } : Glbconn cfg)) h :)

theorem agree_onFin (hsame : Agree i ctx₁ ctx₂) (hfind₁ : pkg.Finds ctx₁ i)
    (hfind₂ : pkg.Finds ctx₂ i) : Agree i (ctx₁.onFin pkg env) (ctx₂.onFin pkg env) := by
  rw [Agree, connections_onFin hfind₁, connections_onFin hfind₂, hsame.state]
  split
  · exact hsame.closed
  · exact hsame

theorem agree_onFinAck (hsame : Agree i ctx₁ ctx₂) (hfind₁ : pkg.Finds ctx₁ i)
    (hfind₂ : pkg.Finds ctx₂ i) : Agree i (ctx₁.onFinAck pkg) (ctx₂.onFinAck pkg) := by
  rw [Agree, connections_onFinAck hfind₁, connections_onFinAck hfind₂, hsame.state]
  split
  · exact hsame.closed
  · exact hsame

theorem agree_onRst (hsame : Agree i ctx₁ ctx₂) (hfind₁ : pkg.Finds ctx₁ i)
    (hfind₂ : pkg.Finds ctx₂ i) : Agree i (ctx₁.onRst pkg) (ctx₂.onRst pkg) := by
  rw [Agree, connections_onRst hfind₁, connections_onRst hfind₂, hsame.state]
  split
  · exact hsame.closed
  · exact (congrArg (fun con : Glbconn cfg ↦
      ({ con with state := .closed } : Glbconn cfg)) hsame :)

theorem agree_onPong (hsame : Agree i ctx₁ ctx₂) (hfind₁ : pkg.Finds ctx₁ i)
    (hfind₂ : pkg.Finds ctx₂ i) : Agree i (ctx₁.onPong pkg env) (ctx₂.onPong pkg env) := by
  rw [Agree, connections_onPong hfind₁, connections_onPong hfind₂]
  exact (congrArg (fun con : Glbconn cfg ↦ ({ con with
    keepaliveRetry := 0
    rtt := (con.rtt + (UInt64.ofNat (glbtimeStart (env.clock 0) 0) -
      ((pkg.header.seq.toUInt64 <<< 32) ||| pkg.header.ack.toUInt64)).toUInt32) / 2
    keepalive := glbtimeStart (env.clock 1) glbKeepaliveTime } : Glbconn cfg)) hsame :)

/-- A data branch that is defined on one context is defined on the other. -/
theorem Agree.exists_withChannel (hsame : Agree i ctx₁ ctx₂) (hfind₁ : pkg.Finds ctx₁ i)
    (hfind₂ : pkg.Finds ctx₂ i)
    {k₁ k₂ : Fin cfg.connectionCount → Fin cfg.channelCount → Glbchannel → Glbctx cfg}
    (h₁ : ctx₁.withChannel pkg k₁ = some ctx₁') :
    ∃ ctx₂', ctx₂.withChannel pkg k₂ = some ctx₂' := by
  have hfind₁ : ctx₁.findConn pkg.header.clientGen pkg.header.clientId = some i := hfind₁
  have hfind₂ : ctx₂.findConn pkg.header.clientGen pkg.header.clientId = some i := hfind₂
  simp only [withChannel, hfind₁, hsame.state] at h₁
  simp only [withChannel, hfind₂]
  split at h₁
  · next hne => exact ⟨ctx₂, if_pos hne⟩
  next hest =>
  rw [if_neg hest]
  split at h₁
  · next hlt =>
    obtain ⟨chs₁, hchs₁, -⟩ := Option.map_eq_some_iff.1 h₁
    obtain ⟨chs₂, hchs₂, -⟩ := hsame.channels hchs₁
    rw [dif_pos hlt, hchs₂]
    exact ⟨_, rfl⟩
  · next hge => exact ⟨ctx₂, dif_neg hge⟩

/-- Taking a packet into channels with the same contents. -/
theorem contents_acceptedChan {chan₁ chan₂ : Glbchannel} (h : chan₁.contents = chan₂.contents)
    (pkg : Glbpkg) : (acceptedChan chan₁ pkg).contents = (acceptedChan chan₂ pkg).contents := by
  have hq : chan₁.rQueue.toBoundedQueue = chan₂.rQueue.toBoundedQueue :=
    Glbqueue.toBoundedQueue_eq_of_contents (congrArg Glbchannel.rQueue h :)
  have hpush : (chan₁.rQueue.push pkg).2.contents = (chan₂.rQueue.push pkg).2.contents :=
    Glbqueue.contents_eq_of_toBoundedQueue (by
      rw [Glbqueue.toBoundedQueue_push, Glbqueue.toBoundedQueue_push, hq])
  exact (congrArg₂ (fun (chan : Glbchannel) q ↦
    ({ chan with rQueue := q, ack := chan.ack + 1 } : Glbchannel)) h hpush :)

/-- The DATA branch. -/
theorem agree_onData (hsame : Agree i ctx₁ ctx₂) (hfind₁ : pkg.Finds ctx₁ i)
    (hfind₂ : pkg.Finds ctx₂ i) (h₁ : ctx₁.onData pkg from_ env = some ctx₁') :
    ∃ ctx₂', ctx₂.onData pkg from_ env = some ctx₂' ∧ Agree i ctx₁' ctx₂' := by
  obtain ⟨ctx₂', h₂⟩ : ∃ ctx₂', ctx₂.onData pkg from_ env = some ctx₂' :=
    hsame.exists_withChannel hfind₁ hfind₂ h₁
  refine ⟨ctx₂', h₂, ?_⟩
  have heffect₂ := onData_effect h₂
  -- both contexts find slot `i`, so the branch is about it on both sides
  have hslot : ∀ {ctx : Glbctx cfg} {j c chs}, pkg.Finds ctx i → pkg.Reaches ctx j c chs → j = i :=
    fun hfind hreach ↦ Option.some_inj.1 (hreach.finds.symm.trans hfind)
  rcases onData_effect h₁ with ⟨rfl, hnot⟩ | @⟨j, c, chs₁, hreach, hrel, hlt, haddr, rfl⟩ |
    @⟨j, c, chs₁, hreach, hrel, hlt, haddr, rfl⟩ | @⟨j, c, chs₁, hreach, hseq, haddr, hb, -⟩
  · have hnot₁ : ∀ {c chs}, pkg.Reaches ctx₂ i c chs → (ctx₂.connections i).peerAddr ≠ from_ ∧
        ¬ ((chs.chan c).reliable = true ∧ pkg.header.seq = (chs.chan c).ack) := by
      intro c chs hreach
      obtain ⟨chs₁, hreach₁, heq⟩ := hsame.symm.reaches hfind₁ hreach
      have hchan := contents_chan heq c
      rw [← hsame.peerAddr, reliable_of_contents hchan, ack_of_contents hchan]
      exact hnot i c chs₁ hreach₁
    rcases heffect₂ with ⟨rfl, -⟩ | ⟨hreach, -, -, haddr, -⟩ | ⟨hreach, -, -, haddr, -⟩ |
      @⟨j, c, chs, hreach, hseq, haddr, -, -⟩
    · exact hsame
    · obtain rfl := hslot hfind₂ hreach
      exact absurd haddr (hnot₁ hreach).1
    · obtain rfl := hslot hfind₂ hreach
      exact absurd haddr (hnot₁ hreach).1
    · obtain rfl := hslot hfind₂ hreach
      obtain ⟨hne, hnext⟩ := hnot₁ hreach
      rcases hrel : (chs.chan c).reliable with - | -
      · exact absurd (haddr hrel) hne
      · exact absurd ⟨hrel, hseq hrel⟩ hnext
  all_goals
    obtain rfl := hslot hfind₁ hreach
    obtain ⟨chs₂, hreach₂, heq⟩ := hsame.reaches hfind₂ hreach
    have hchan := contents_chan heq c
    have hack := ack_of_contents hchan
    have hreliable := reliable_of_contents hchan
  · rw [Agree, heffect₂.of_old hreach₂ (hreliable ▸ hrel) (hack ▸ hlt) (hsame.peerAddr ▸ haddr),
      connections_glbioSend, connections_glbioSend]
    exact hsame
  · rw [Agree, heffect₂.of_future hreach₂ (hreliable ▸ hrel) (hack ▸ hlt) (hsame.peerAddr ▸ haddr),
      connections_setCon_self, connections_setCon_self]
    exact (congrArg (fun con : Glbconn cfg ↦
      ({ con with desyncCount := con.desyncCount + 1 } : Glbconn cfg)) hsame :)
  · rw [hack, hreliable] at hseq
    rw [hreliable, hsame.peerAddr] at haddr
    rw [Agree, hb.self, (heffect₂.of_accepted hreach₂ hseq haddr).1.self]
    have hset := Glbchannels.contents_set heq (contents_acceptedChan hchan pkg) c
    exact (congrArg₂ (fun (con : Glbconn cfg) chs ↦
      ({ con with peerAddr := from_, channels := some chs } : Glbconn cfg)) hsame hset :)

/-- The DATA|ACK branch. -/
theorem agree_onDataAck (hsame : Agree i ctx₁ ctx₂) (hfind₁ : pkg.Finds ctx₁ i)
    (hfind₂ : pkg.Finds ctx₂ i) (h₁ : ctx₁.onDataAck pkg = some ctx₁') :
    ∃ ctx₂', ctx₂.onDataAck pkg = some ctx₂' ∧ Agree i ctx₁' ctx₂' := by
  obtain ⟨ctx₂', h₂⟩ : ∃ ctx₂', ctx₂.onDataAck pkg = some ctx₂' :=
    hsame.exists_withChannel hfind₁ hfind₂ h₁
  refine ⟨ctx₂', h₂, ?_⟩
  -- channels with the same contents have the same send queue
  have hqueue : ∀ {chan₁ chan₂ : Glbchannel}, chan₁.contents = chan₂.contents →
      chan₁.sQueue.toBoundedQueue = chan₂.sQueue.toBoundedQueue :=
    fun h ↦ Glbqueue.toBoundedQueue_eq_of_contents (congrArg Glbchannel.sQueue h :)
  rcases onDataAck_effect h₁ with ⟨rfl, hnot₁⟩ |
    @⟨j, c, chs₁, head, rest, hreach₁, hhead, hseq, rfl⟩
  · rcases onDataAck_effect h₂ with ⟨rfl, -⟩ | @⟨j, c, chs₂, head, rest, hreach₂, hhead, hseq, -⟩
    · exact hsame
    · obtain rfl : j = i := Option.some_inj.1 (hreach₂.finds.symm.trans hfind₂)
      obtain ⟨chs₁, hreach₁, heq⟩ := hsame.symm.reaches hfind₁ hreach₂
      rw [hqueue (contents_chan heq c)] at hhead
      exact absurd hseq (hnot₁ j c chs₁ head rest hreach₁ hhead)
  · obtain rfl : j = i := Option.some_inj.1 (hreach₁.finds.symm.trans hfind₁)
    obtain ⟨chs₂, hreach₂, heq⟩ := hsame.reaches hfind₂ hreach₁
    have hchan := contents_chan heq c
    have hpop : (chs₁.chan c).sQueue.pop.2.2.contents = (chs₂.chan c).sQueue.pop.2.2.contents :=
      Glbqueue.contents_eq_of_toBoundedQueue (by
        rw [Glbqueue.toBoundedQueue_pop, Glbqueue.toBoundedQueue_pop, hqueue hchan])
    have hpopped : ({ chs₁.chan c with sQueue := (chs₁.chan c).sQueue.pop.2.2 } :
        Glbchannel).contents =
        ({ chs₂.chan c with sQueue := (chs₂.chan c).sQueue.pop.2.2 } : Glbchannel).contents :=
      (congrArg₂ (fun (chan : Glbchannel) q ↦ ({ chan with sQueue := q } : Glbchannel)) hchan
        hpop :)
    rcases onDataAck_effect h₂ with ⟨rfl, hnot₂⟩ | ⟨hreach, -, -, rfl⟩
    · rw [hqueue hchan] at hhead
      exact absurd hseq (hnot₂ j c chs₂ head rest hreach₂ hhead)
    · obtain ⟨rfl, rfl, rfl⟩ := hreach₂.unique hreach
      rw [Agree, setChan, setChan, connections_setCon_self, connections_setCon_self,
        hreach₁.channels, hreach₂.channels]
      have hset := Glbchannels.contents_set heq hpopped c
      exact (congrArg₂ (fun (con : Glbconn cfg) chs ↦
        ({ con with channels := some chs } : Glbconn cfg)) hsame hset :)

/-! ### All packets -/

/-- A packet with the id of a slot does the same to the contents of the slot wherever it is
handled. -/
theorem agree_handlePacket (hsyn : pkg.header.ctrlFlags ≠ ctrlFlagSyn)
    (hsynAck : pkg.header.ctrlFlags ≠ ctrlFlagSynAck) (hok : env.MallocOk)
    (hsame : Agree i ctx₁ ctx₂) (hfind₁ : pkg.Finds ctx₁ i) (hfind₂ : pkg.Finds ctx₂ i)
    (h₁ : ctx₁.handlePacket pkg from_ env = some ctx₁') :
    ∃ ctx₂', ctx₂.handlePacket pkg from_ env = some ctx₂' ∧ Agree i ctx₁' ctx₂' := by
  cases handlePacket_cases h₁ with
  | syn hsyn' => exact absurd hsyn'.1 hsyn
  | ack hflags h =>
    rw [handlePacket_of_ack hflags]
    exact agree_onAck hsame hfind₁ hfind₂ hok h
  | synAck hflags => exact absurd hflags hsynAck
  | fin hflags => exact ⟨_, handlePacket_of_fin hflags, agree_onFin hsame hfind₁ hfind₂⟩
  | finAck hflags => exact ⟨_, handlePacket_of_finAck hflags, agree_onFinAck hsame hfind₁ hfind₂⟩
  | data hflags h =>
    rw [handlePacket_of_data hflags]
    exact agree_onData hsame hfind₁ hfind₂ h
  | dataAck hflags h =>
    rw [handlePacket_of_dataAck hflags]
    exact agree_onDataAck hsame hfind₁ hfind₂ h
  | ping hflags =>
    -- a PING is answered without a look at any slot
    refine ⟨_, handlePacket_of_ping hflags, ?_⟩
    rw [Agree, onPing, onPing, connections_glbioSend, connections_glbioSend]
    exact hsame
  | pong hflags => exact ⟨_, handlePacket_of_pong hflags, agree_onPong hsame hfind₁ hfind₂⟩
  | rst hflags => exact ⟨_, handlePacket_of_rst hflags, agree_onRst hsame hfind₁ hfind₂⟩
  | ignored hnot hflags => exact ⟨ctx₂, handlePacket_of_ignored hnot hflags, hsame⟩

/-- A packet with another id leaves the record of a slot alone. -/
theorem connections_of_other {connId : Glbconid} (hsole : SoleHolder i connId ctx)
    (hsyn : pkg.header.ctrlFlags ≠ ctrlFlagSyn) (hsynAck : pkg.header.ctrlFlags ≠ ctrlFlagSynAck)
    (hid : pkg.conId ≠ connId) (h : ctx.handlePacket pkg from_ env = some ctx') :
    ctx'.connections i = ctx.connections i := by
  have hnot : ¬ pkg.IsAbout ctx from_ i := by
    rw [Glbpkg.isAbout_iff_finds (fun h ↦ hsyn h.1) hsynAck, hsole.finds_iff]
    exact hid
  have hstep : Step ctx (.packet pkg from_ env) ctx' := h
  exact step_local hstep hnot

/-- A list of packets can be handled as long as the allocator does not fail: established and closing
connections keep their channels. -/
theorem exists_handleAll (hcount : 0 < cfg.connectionCount) (hheld : ArraysHeld ctx)
    (rs : List (Glbpkg × Glbaddr × Env)) (hok : ∀ r ∈ rs, r.2.2.MallocOk) :
    ∃ ctx', ctx.handleAll rs = some ctx' := by
  induction rs generalizing ctx with
  | nil => exact ⟨ctx, rfl⟩
  | cons r rs ih =>
    obtain ⟨ctx₁, h₁⟩ : ∃ ctx₁, ctx.handlePacket r.1 r.2.1 r.2.2 = some ctx₁ :=
      exists_handlePacket hcount hheld (hok r List.mem_cons_self)
    have hstep : Step ctx (.packet r.1 r.2.1 r.2.2) ctx₁ := h₁
    obtain ⟨ctx', h'⟩ := ih (arraysHeld_step hheld hstep)
      fun q hq ↦ hok q (List.mem_cons_of_mem r hq)
    refine ⟨ctx', ?_⟩
    rw [handleAll, List.foldlM_cons, h₁]
    exact h'

/-- **Connections are isolated from each other.** Of a context in which no other slot has the id of
slot `i`, handle a list of packets that are neither SYN nor SYN|ACK, each from wherever it comes and
whatever the surroundings answer, except that the allocator does not fail. Handling only those of
them that carry the id of slot `i`, in the same order, is then possible as well, and leaves slot `i`
with the same contents: the same state, id, peer address, counters, round-trip time, timers and
channels, and in the channels the same packets.

The list can be handled whenever the established and closing slots have channels, as they do in
every context a run reaches; where one has none the code follows a null pointer. -/
theorem isolated (hunique : ∀ j, j ≠ i → (ctx.connections j).connId ≠ (ctx.connections i).connId)
    (rs : List (Glbpkg × Glbaddr × Env))
    (hflags : ∀ r ∈ rs, r.1.header.ctrlFlags ≠ ctrlFlagSyn ∧
      r.1.header.ctrlFlags ≠ ctrlFlagSynAck)
    (hok : ∀ r ∈ rs, r.2.2.MallocOk) :
    (ArraysHeld ctx → ∃ ctx', ctx.handleAll rs = some ctx') ∧
    ∀ ctx', ctx.handleAll rs = some ctx' →
      ∃ ctx'', ctx.handleAll (rs.filter fun r ↦ r.1.conId = (ctx.connections i).connId) =
        some ctx'' ∧ (ctx'.connections i).contents = (ctx''.connections i).contents := by
  refine ⟨fun hheld ↦ exists_handleAll (Nat.lt_of_le_of_lt (Nat.zero_le _) i.isLt) hheld rs hok,
    fun ctx' h ↦ ?_⟩
  -- both runs keep the id to slot `i`, which has the same contents in both
  let R : Glbctx cfg → Glbctx cfg → Prop := fun ctx₁ ctx₂ ↦
    SoleHolder i (ctx.connections i).connId ctx₁ ∧ SoleHolder i (ctx.connections i).connId ctx₂ ∧
      Agree i ctx₁ ctx₂
  have hmine : ∀ r ∈ rs, decide (r.1.conId = (ctx.connections i).connId) = true →
      ∀ ctx₁ ctx₂ ctx₁' : Glbctx cfg, R ctx₁ ctx₂ →
      ctx₁.handlePacket r.1 r.2.1 r.2.2 = some ctx₁' →
      ∃ ctx₂', ctx₂.handlePacket r.1 r.2.1 r.2.2 = some ctx₂' ∧ R ctx₁' ctx₂' := by
    rintro r hr hid ctx₁ ctx₂ ctx₁' ⟨hsole₁, hsole₂, hsame⟩ h₁
    obtain ⟨hsyn, hsynAck⟩ := hflags r hr
    have hid := of_decide_eq_true hid
    obtain ⟨ctx₂', h₂, hsame'⟩ := agree_handlePacket hsyn hsynAck (hok r hr) hsame
      (hsole₁.finds_iff.2 hid) (hsole₂.finds_iff.2 hid) h₁
    exact ⟨ctx₂', h₂, hsole₁.packet hsyn hsynAck h₁, hsole₂.packet hsyn hsynAck h₂, hsame'⟩
  have hother : ∀ r ∈ rs, decide (r.1.conId = (ctx.connections i).connId) = false →
      ∀ ctx₁ ctx₂ ctx₁' : Glbctx cfg, R ctx₁ ctx₂ →
      ctx₁.handlePacket r.1 r.2.1 r.2.2 = some ctx₁' → R ctx₁' ctx₂ := by
    rintro r hr hid ctx₁ ctx₂ ctx₁' ⟨hsole₁, hsole₂, hsame⟩ h₁
    obtain ⟨hsyn, hsynAck⟩ := hflags r hr
    have hsame' := connections_of_other hsole₁ hsyn hsynAck (of_decide_eq_false hid) h₁
    refine ⟨hsole₁.packet hsyn hsynAck h₁, hsole₂, ?_⟩
    rw [Agree, hsame']
    exact hsame
  have hstart : R ctx ctx := ⟨⟨rfl, hunique⟩, ⟨rfl, hunique⟩, rfl⟩
  obtain ⟨ctx'', h'', -, -, hsame⟩ := Execution.exists_foldlM_filter hmine hother hstart h
  exact ⟨ctx'', h'', hsame⟩

/-! ### Two connections -/

/-- A server has accepted two connections. A message for the second does not influence what a
message does to the first. -/
theorem isolated_sample : ∃ (ctx ctx' ctx'' : Glbctx Glbcfg.sampleServer) (ts : List _),
    Run ts ctx ∧ (ctx.connections ⟨0, by decide⟩).connId = ⟨1, 0⟩ ∧
    ctx.handleAll [(.sampleData ⟨2, 0⟩ 0, ⟨9, 9⟩, Env.at 5),
      (.sampleData ⟨1, 0⟩ 0, .samplePeer, Env.at 5)] = some ctx' ∧
    ctx.handleAll [(.sampleData ⟨1, 0⟩ 0, .samplePeer, Env.at 5)] = some ctx'' ∧
    (ctx'.connections ⟨0, by decide⟩).contents = (ctx''.connections ⟨0, by decide⟩).contents := by
  let ops : List (Op Glbcfg.sampleServer) :=
    [.packet (glbpkgInit ⟨0xFFFF, 0⟩ ctrlFlagSyn 0) .samplePeer (Env.at 1),
      .packet (glbpkgInit ⟨0xFFFF, 0⟩ ctrlFlagSyn 0) ⟨9, 9⟩ (Env.at 2),
      .packet (glbpkgInit ⟨1, 0⟩ ctrlFlagAck 0) .samplePeer (Env.at 3),
      .packet (glbpkgInit ⟨2, 0⟩ ctrlFlagAck 0) ⟨9, 9⟩ (Env.at 4)]
  have hids : (Execution.perform step ops (init _)).map (fun r ↦
      ((r.2.connections ⟨0, by decide⟩).connId, (r.2.connections ⟨1, by decide⟩).connId)) =
      some (⟨1, 0⟩, ⟨2, 0⟩) := by decide
  obtain ⟨r, hr, hids⟩ := Option.map_eq_some_iff.1 hids
  obtain ⟨hfst, hsnd⟩ := Prod.mk.inj hids
  have hunique : ∀ j, j ≠ ⟨0, by decide⟩ →
      (r.2.connections j).connId ≠ (r.2.connections ⟨0, by decide⟩).connId := by
    intro j hj
    have hj1 : j = ⟨1, by decide⟩ := by
      have hlt : j.val < 2 := j.isLt
      have hne : j.val ≠ 0 := fun h0 ↦ hj (Fin.ext h0)
      exact Fin.ext (by show j.val = 1; omega)
    rw [hj1, hfst, hsnd]
    decide
  obtain ⟨hdefined, hisolated⟩ := isolated hunique
    [(.sampleData ⟨2, 0⟩ 0, ⟨9, 9⟩, Env.at 5), (.sampleData ⟨1, 0⟩ 0, .samplePeer, Env.at 5)]
    (by decide) (by rintro q hq k; revert q; simp [Env.at])
  obtain ⟨ctx', h⟩ := hdefined (arraysHeld_of_run (run_of_perform hr))
  obtain ⟨ctx'', h'', hsame⟩ := hisolated ctx' h
  rw [hfst] at h''
  exact ⟨r.2, ctx', ctx'', r.1, run_of_perform hr, hfst, h, h'', hsame⟩

end Glbctx

end Gilberta
