import Gilberta.Traffic.Migration

/-!
# What an acknowledgment means

A sender forgets a message when it is acknowledged, so a DATA|ACK ought to mean that the message is
stored. The DATA branch stores the packet, advances the counter, answers and announces without
looking at the result of the first of these, and it answers every packet with a number below the
counter on the assumption that it is a repetition of one that was stored.

`acknowledged_stored_iff` says exactly when both assumptions are right: when the packet that is next
in sequence finds room in the receive queue, and a packet that counts as old repeats, number and
payload, one that the channel took in this connection. The invariant is that the receive queue of a
reliable channel has held precisely the packets the channel took.
-/

namespace Gilberta

variable {cfg : Glbcfg}

namespace Glbctx

/-- The datagrams a transition handed to the socket. -/
def newDatagrams (x : Transition cfg) : List Datagram := x.2.2.sock.drop x.1.sock.length

/-- A transition sends a DATA|ACK for sequence number `s`. -/
def Acknowledges (x : Transition cfg) (s : UInt32) : Prop :=
  ∃ d ∈ newDatagrams x, d.pkg.header.ctrlFlags = ctrlFlagDataAck ∧ d.pkg.header.ack = s

instance (x : Transition cfg) (s : UInt32) : Decidable (Acknowledges x s) := by
  unfold Acknowledges
  infer_instance

/-- An acknowledgment means stored: when a DATA packet for a reliable channel makes the transition
acknowledge `s`, then a packet with number `s` and the payload of the DATA packet is in the receive
queue or was popped from it, and if the handled packet is the one whose turn it is, then it is that
packet. -/
def AckMeansStored (x : Transition cfg) : Prop :=
  ∀ pkg from_ env, x.2.1 = .packet pkg from_ env → pkg.header.ctrlFlags = ctrlFlagData →
    ∀ i c chs, pkg.Reaches x.1 i c chs → (chs.chan c).reliable = true → ∀ s, Acknowledges x s →
      ∃ chan', x.2.2.HasChannel i c chan' ∧
        (∃ p ∈ chan'.rQueue.history, p.header.seq = s ∧ p.data = pkg.data) ∧
        (pkg.header.seq = (chs.chan c).ack →
          chan'.rQueue.history = (chs.chan c).rQueue.history ++ [pkg])

end Glbctx

/-- A packet repeats one of a list: same number, same payload. -/
def Glbpkg.Repeats (pkg : Glbpkg) (l : List Glbpkg) : Prop :=
  ∃ p ∈ l, p.header.seq = pkg.header.seq ∧ p.data = pkg.data

instance (pkg : Glbpkg) (l : List Glbpkg) : Decidable (pkg.Repeats l) :=
  inferInstanceAs (Decidable (∃ p ∈ l, p.header.seq = pkg.header.seq ∧ p.data = pkg.data))

/-- After the transitions `earlier`, an operation does not acknowledge what it cannot vouch for: a
DATA packet that is next on a reliable channel finds room in the receive queue, and one that is old
repeats a packet that the channel took in this connection. -/
def Op.Vouched (earlier : List (Glbctx.Transition cfg)) (ctx : Glbctx cfg) : Op cfg → Prop
  | .packet pkg from_ _ => pkg.header.ctrlFlags = ctrlFlagData → ∀ i c chs,
      pkg.Reaches ctx i c chs → (chs.chan c).reliable = true →
        (pkg.header.seq = (chs.chan c).ack → (chs.chan c).rQueue.isFull = false) ∧
        (pkg.header.seq < (chs.chan c).ack → (ctx.connections i).peerAddr = from_ →
          pkg.Repeats (Glbctx.receivedSince i c earlier))
  | _ => True

instance (earlier : List (Glbctx.Transition cfg)) (ctx : Glbctx cfg) :
    (op : Op cfg) → Decidable (op.Vouched earlier ctx)
  | .packet pkg from_ _ =>
    decidable_of_iff (pkg.header.ctrlFlags = ctrlFlagData → ∀ i, pkg.Finds ctx i →
      (ctx.connections i).state = .established → ∀ c : Fin cfg.channelCount,
      pkg.header.channelId.toNat = c.val → ∀ chs ∈ (ctx.connections i).channels,
      (chs.chan c).reliable = true →
        (pkg.header.seq = (chs.chan c).ack → (chs.chan c).rQueue.isFull = false) ∧
        (pkg.header.seq < (chs.chan c).ack → (ctx.connections i).peerAddr = from_ →
          pkg.Repeats (Glbctx.receivedSince i c earlier)))
      ⟨fun h hf i c chs hr ↦ h hf i hr.finds hr.established c hr.channel chs hr.channels,
        fun h hf i hi hest c hc chs hchs ↦ h hf i c chs ⟨hi, hest, hchs, hc⟩⟩
  | .connect _ | .close _ _ | .send _ _ | .pollevent | .popdata _ | .readError | .timers _ _ =>
    inferInstanceAs (Decidable True)

/-- The socket takes the answer to a packet. -/
def Op.Answered : Op cfg → Prop
  | .packet _ _ env => env.sendOk 0 = true
  | _ => True

namespace Glbctx

variable {ctx ctx' : Glbctx cfg} {op : Op cfg} {ts : List (Transition cfg)}

/-- Every step of a run is vouched for by the steps before it. -/
def Vouched (ts : List (Transition cfg)) : Prop :=
  AtEach (fun earlier x ↦ x.2.1.Vouched earlier x.1) ts

instance : Decidable (Vouched ts) := by
  unfold Vouched
  infer_instance

/-- The receive queue of a reliable channel has held what the channel took, and nothing else. -/
def StoredInTurn (ts : List (Transition cfg)) (ctx : Glbctx cfg) : Prop :=
  ∀ i c chan, ctx.HasChannel i c chan → chan.reliable = true →
    chan.rQueue.history = receivedSince i c ts

theorem storedInTurn_init : StoredInTurn [] (init cfg) := by
  rintro i c chan ⟨chs, hchs, -⟩
  cases hchs

/-- A vouched step stores what a reliable channel takes. -/
theorem storedInTurn_step (hI : StoredInTurn ts ctx) (hvouched : op.Vouched ts ctx)
    (h : Step ctx op ctx') : StoredInTurn (ts ++ [(ctx, op, ctx')]) ctx' := by
  intro i c chan' hchan' hrel'
  rw [receivedSince_append_singleton]
  split
  · next hbuilds =>
    obtain ⟨ack, hopens⟩ := opens_of_builds h hbuilds
    have hopened := isOpened_of_opens h hopens hchan'
    rw [BoundedQueue.history, hopened.rQueue.elems, hopened.rQueue.taken]
    rfl
  next hbuilds =>
  obtain ⟨chan, hchan, hrel, hcase⟩ := received_step h hchan' hbuilds
  have hrel : chan.reliable = true := hrel.symm.trans hrel'
  have hI := hI i c chan hchan hrel
  rcases hcase with ⟨hnone, -, hhist⟩ | ⟨p, hone, -, hpush⟩
  · rw [hnone, List.append_nil, hhist, hI]
  · -- the packet is the one whose turn it is, so there is room for it
    have hmem : p ∈ receivedBy i c ctx op := hone ▸ List.mem_singleton_self p
    have hseq := seq_of_receivedBy hmem hchan hrel
    obtain ⟨from_, env, chs, rfl, hflags, hreach, -⟩ := mem_receivedBy.1 hmem
    obtain rfl := hchan.unique ⟨chs, hreach.channels, rfl⟩
    have hroom := (hvouched hflags i c chs hreach hrel).1 hseq
    rw [hone, hpush, history_push p hroom, hI]

theorem newDatagrams_of_sock {ds : List Datagram} (h : ctx'.sock = ctx.sock ++ ds) :
    newDatagrams (ctx, op, ctx') = ds := by
  show ctx'.sock.drop ctx.sock.length = ds
  rw [h, List.drop_left]

theorem acknowledges_of_sock {d : Datagram} (h : ctx'.sock = ctx.sock ++ [d])
    (hflags : d.pkg.header.ctrlFlags = ctrlFlagDataAck) :
    Acknowledges (ctx, op, ctx') d.pkg.header.ack := by
  rw [Acknowledges, newDatagrams_of_sock h]
  exact ⟨d, List.mem_singleton_self d, hflags, rfl⟩

section Data

variable {pkg : Glbpkg} {from_ : Glbaddr} {env : Env} {i : Fin cfg.connectionCount}
  {c : Fin cfg.channelCount} {chs : Glbchannels cfg.channelCount}
  (heffect : ctx.DataEffect pkg from_ env ctx') (hreach : pkg.Reaches ctx i c chs)
  (hrel : (chs.chan c).reliable = true)
include heffect hreach hrel

/-- An old packet leaves its channel as it was. -/
theorem hasChannel_of_old (hlt : pkg.header.seq < (chs.chan c).ack)
    (haddr : (ctx.connections i).peerAddr = from_) : ctx'.HasChannel i c (chs.chan c) := by
  rw [heffect.of_old hreach hrel hlt haddr, HasChannel, connections_glbioSend]
  exact ⟨chs, hreach.channels, rfl⟩

/-- The next packet is offered to its channel. -/
theorem hasChannel_of_next (heq : pkg.header.seq = (chs.chan c).ack) :
    ctx'.HasChannel i c (acceptedChan (chs.chan c) pkg) := by
  obtain ⟨hb, -⟩ := heffect.of_next hreach hrel heq
  exact ⟨_, by rw [hb.self], if_pos rfl⟩

end Data

/-- Only a DATA packet that is old or next on a reliable channel is acknowledged, and what is
acknowledged is its number. -/
theorem acknowledges_of_data {pkg : Glbpkg} {from_ : Glbaddr} {env : Env} {s : UInt32}
    {i : Fin cfg.connectionCount} {c : Fin cfg.channelCount} {chs : Glbchannels cfg.channelCount}
    (hdata : pkg.header.ctrlFlags = ctrlFlagData) (hreach : pkg.Reaches ctx i c chs)
    (h : Step ctx (.packet pkg from_ env) ctx')
    (hack : Acknowledges (ctx, .packet pkg from_ env, ctx') s) : pkg.header.seq = s ∧
      (pkg.header.seq < (chs.chan c).ack ∧ (ctx.connections i).peerAddr = from_ ∨
        pkg.header.seq = (chs.chan c).ack) := by
  obtain ⟨d, hd, -, hs⟩ := hack
  cases (step_emits h).of_mem_drop hd with
  | rst hsyn => exact absurd (hdata.symm.trans hsyn.1) (by decide)
  | ackAgain hflags | ack hflags | finAck hflags | pong hflags =>
    exact absurd (hdata.symm.trans hflags) (by decide)
  | dataAck _ hreach' _ hseq =>
    obtain ⟨rfl, rfl, rfl⟩ := hreach.unique hreach'
    exact ⟨hs, hseq⟩

/-- A vouched step acknowledges only what is stored. -/
theorem ackMeansStored_of_vouched (hI : StoredInTurn ts ctx) (hvouched : op.Vouched ts ctx)
    (h : Step ctx op ctx') : AckMeansStored (ctx, op, ctx') := by
  rintro pkg from_ env rfl hdata i c chs hreach hrel s hack
  obtain ⟨rfl, hcase⟩ := acknowledges_of_data hdata hreach h hack
  have heffect := onData_effect ((handlePacket_of_data hdata).symm.trans h)
  obtain ⟨hnext, hold⟩ := hvouched hdata i c chs hreach hrel
  rcases hcase with ⟨hlt, haddr⟩ | heq
  · -- an old packet: nothing is stored, and it is among those that were
    have hmem := hold hlt haddr
    rw [← hI i c _ ⟨chs, hreach.channels, rfl⟩ hrel] at hmem
    exact ⟨_, hasChannel_of_old heffect hreach hrel hlt haddr, hmem,
      fun heq ↦ absurd heq (UInt32.ne_of_lt hlt)⟩
  · -- the next packet: there is room for it
    have hhist := history_push pkg (hnext heq)
    refine ⟨_, hasChannel_of_next heffect hreach hrel heq, ⟨pkg, ?_, rfl, rfl⟩, fun _ ↦ hhist⟩
    rw [acceptedChan, hhist]
    exact List.mem_append_right _ (List.mem_singleton_self _)

/-- A step that acknowledges only what is stored, and whose answer the socket takes, is vouched. -/
theorem vouched_of_ackMeansStored (hI : StoredInTurn ts ctx) (hok : op.Answered)
    (h : Step ctx op ctx') (hstored : AckMeansStored (ctx, op, ctx')) : op.Vouched ts ctx := by
  cases op with
  | packet pkg from_ env =>
    intro hdata i c chs hreach hrel
    have hok : env.sendOk 0 = true := hok
    have heffect := onData_effect ((handlePacket_of_data hdata).symm.trans h)
    refine ⟨fun heq ↦ ?_, fun hlt haddr ↦ ?_⟩
    · -- the next packet is acknowledged, so it was stored, so there was room for it
      have hack : Acknowledges (ctx, .packet pkg from_ env, ctx') pkg.header.seq := by
        obtain ⟨-, hsock⟩ := heffect.of_next hreach hrel heq
        rw [if_pos hok] at hsock
        exact acknowledges_of_sock hsock rfl
      obtain ⟨chan', hchan', -, hhist⟩ := hstored pkg from_ env rfl hdata i c chs hreach hrel _ hack
      obtain rfl := hchan'.unique (hasChannel_of_next heffect hreach hrel heq)
      by_contra hfull
      have hlen := congrArg List.length (hhist heq)
      rw [List.length_append, acceptedChan, Glbqueue.toBoundedQueue_push,
        BoundedQueue.offer_of_isFull (by simpa using hfull)] at hlen
      exact absurd hlen (Nat.ne_of_lt (Nat.lt_succ_self _))
    · -- an old packet is acknowledged, so it is among the stored ones
      have hack : Acknowledges (ctx, .packet pkg from_ env, ctx') pkg.header.seq := by
        have hsock := congrArg sock (heffect.of_old hreach hrel hlt haddr)
        rw [sock_glbioSend, if_pos hok] at hsock
        exact acknowledges_of_sock hsock rfl
      obtain ⟨chan', hchan', hmem, -⟩ := hstored pkg from_ env rfl hdata i c chs hreach hrel _ hack
      obtain rfl := hchan'.unique (hasChannel_of_old heffect hreach hrel hlt haddr)
      rwa [hI i c _ ⟨chs, hreach.channels, rfl⟩ hrel] at hmem
  | _ => trivial

/-- **What an acknowledgment means.** In every run whose DATA packets are vouched for, what is
acknowledged is stored; and where the socket takes every answer, a run in which what is acknowledged
is stored has no other packets. -/
theorem acknowledged_stored_iff {ctx : Glbctx cfg} (hrun : Run ts ctx) :
    (Vouched ts → ∀ x ∈ ts, AckMeansStored x) ∧
    ((∀ x ∈ ts, x.2.1.Answered) → ((∀ x ∈ ts, AckMeansStored x) ↔ Vouched ts)) := by
  have henough : Vouched ts → ∀ x ∈ ts, AckMeansStored x := by
    intro hvouched x hx
    obtain ⟨-, hall⟩ := hrun.invariant_of_history (I := StoredInTurn)
      (fun ts t a u hI hstep hv ↦ storedInTurn_step hI hv hstep) storedInTurn_init hvouched
    obtain ⟨ts₁, ts₂, hsplit⟩ := List.append_of_mem hx
    obtain ⟨hI, hstep⟩ := hall ts₁ x ts₂ hsplit
    exact ackMeansStored_of_vouched hI (hvouched ts₁ x ts₂ hsplit) hstep
  refine ⟨henough, fun hok ↦ ⟨fun hstored ts₁ x ts₂ hsplit ↦ ?_, henough⟩⟩
  obtain ⟨-, hall⟩ := hrun.invariant_of_history (I := StoredInTurn)
    (C := fun _ x ↦ x.2.1.Answered ∧ AckMeansStored x)
    (fun ts t a u hI hstep hx ↦
      storedInTurn_step hI (vouched_of_ackMeansStored hI hx.1 hstep hx.2) hstep)
    storedInTurn_init fun ts₁ x ts₂ hsplit ↦
      ⟨hok x (by simp [hsplit]), hstored x (by simp [hsplit])⟩
  obtain ⟨hI, hstep⟩ := hall ts₁ x ts₂ hsplit
  exact vouched_of_ackMeansStored hI (hok x (by simp [hsplit])) hstep (hstored x (by simp [hsplit]))

/-! ### A peer that is not listened to -/

/-- Message `k` of a peer whose connection has the first id. -/
def sampleMessage (k : ℕ) : Op Glbcfg.sampleServer :=
  .packet (.sampleData ⟨1, 0⟩ (UInt32.ofNat k)) .samplePeer (Env.at 3)

/-- A peer connects to a server and sends `n` messages, and the application pops none of them. -/
def unpopped (n : ℕ) : List (Op Glbcfg.sampleServer) :=
  [.packet (glbpkgInit ⟨0xFFFF, 0⟩ ctrlFlagSyn 0) .samplePeer (Env.at 1),
    .packet (glbpkgInit ⟨1, 0⟩ ctrlFlagAck 0) .samplePeer (Env.at 2)] ++
  (List.range n).map sampleMessage

/-- Channel 0 of slot 0. -/
def sampleChan (ctx : Glbctx Glbcfg.sampleServer) : Option Glbchannel :=
  (ctx.connections ⟨0, Nat.two_pos⟩).channels.map fun chs ↦ chs.chan ⟨0, Nat.one_pos⟩

/-- An acknowledgment does not always mean stored: the 33rd message is acknowledged, and is not
among the 32 that were stored. -/
theorem not_always_stored : ¬ ∀ (cfg : Glbcfg) (ts : List (Transition cfg)) (ctx : Glbctx cfg),
    Run ts ctx → ∀ x ∈ ts, AckMeansStored x := by
  intro h
  have hrun : ((Execution.perform step (unpopped 32) (init _)).bind fun r ↦
      (r.2.step (sampleMessage 32)).map fun ctx' ↦
        (decide (r.2.findConn 0 1 = some ⟨0, by decide⟩ ∧
            (r.2.connections ⟨0, by decide⟩).state = .established ∧
            Acknowledges (r.2, sampleMessage 32, ctx') 32),
          (sampleChan r.2).map fun chan ↦
            (chan.reliable, chan.ack, chan.rQueue.history.length),
          (sampleChan ctx').map fun chan ↦ chan.rQueue.history.length)) =
      some (true, some (true, 32, 32), some 32) := by
    decide +kernel
  obtain ⟨r, hr, hlast⟩ := Option.bind_eq_some_iff.1 hrun
  obtain ⟨ctx', hstep, heq⟩ := Option.map_eq_some_iff.1 hlast
  simp only [Prod.mk.injEq] at heq
  obtain ⟨hanswer, hbefore, hafter⟩ := heq
  obtain ⟨hfind, hest, hack⟩ := of_decide_eq_true hanswer
  obtain ⟨chan, hchan, heq⟩ := Option.map_eq_some_iff.1 hbefore
  simp only [Prod.mk.injEq] at heq
  obtain ⟨hrel, hnext, hlen⟩ := heq
  obtain ⟨chs, hchs, rfl⟩ := Option.map_eq_some_iff.1 hchan
  have hstored := h _ _ _ ((run_of_perform hr).snoc hstep) (r.2, sampleMessage 32, ctx') (by simp)
  obtain ⟨chan', ⟨chs', hchs', rfl⟩, -, hhist⟩ := hstored _ _ _ rfl rfl ⟨0, by decide⟩
    ⟨0, by decide⟩ chs ⟨hfind, hest, hchs, rfl⟩ hrel 32 hack
  rw [sampleChan, hchs', Option.map_some, Option.map_some, Option.some.injEq] at hafter
  rw [hhist hnext.symm, List.length_append, hlen] at hafter
  exact absurd hafter (by decide)

-- an old number with another payload, as a packet of an earlier connection has it, is acknowledged
-- too, and nobody can vouch for it
example : (Execution.perform step (unpopped 1 ++
      [.packet { Glbpkg.sampleData ⟨1, 0⟩ 0 with data := [8] } .samplePeer (Env.at 3)])
      (init _)).map (fun r ↦ (r.1.map fun x ↦ decide (Acknowledges x 0), decide (Vouched r.1))) =
    some ([false, false, true, true], false) := by decide +kernel

/-- Two messages of which the first arrives twice: three acknowledgments, all of them for what is
stored. -/
theorem acknowledged_stored_duplicate : ∃ ts ctx, @Run Glbcfg.sampleServer ts ctx ∧
    (ts.map fun x ↦ decide (Acknowledges x 0 ∨ Acknowledges x 1)) =
      [false, false, true, true, true] ∧
    ∀ x ∈ ts, AckMeansStored x := by
  have hrun : (Execution.perform step (unpopped 2 ++ [sampleMessage 0]) (init _)).map (fun r ↦
      (r.1.map fun x ↦ decide (Acknowledges x 0 ∨ Acknowledges x 1),
        decide (Vouched r.1))) =
      some ([false, false, true, true, true], true) := by decide +kernel
  obtain ⟨r, hr, h⟩ := Option.map_eq_some_iff.1 hrun
  obtain ⟨hacks, hvouched⟩ := Prod.mk.inj h
  exact ⟨r.1, r.2, run_of_perform hr, hacks,
    (acknowledged_stored_iff (run_of_perform hr)).1 (of_decide_eq_true hvouched)⟩

end Glbctx

end Gilberta
