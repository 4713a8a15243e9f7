import Gilberta.Link.Recovery

/-!
# When the sender's address changes

After a change of address the sender's packets come from an address the receiver does not know, and
of a reliable channel it transmits the head of the queue only. The receiver moves the connection for
the packet the channel waits for, and ignores every other packet from a new address *before* it
looks whether the packet is an old one. So the connection moves exactly if the receiver still waits
for the head (`follows_iff`), that is, if it has taken no message that the sender still queues
(`head_follows_iff`). If the head was taken and its acknowledgment was lost, its transmissions from
the new address leave the receiver as it is: it answers none of them, and so the sender never gets
to the next message, which would move the connection.
-/

namespace Gilberta

variable {cfgA cfgB : Glbcfg}

namespace Link

open Glbctx (HasChannel)

variable {dir : Direction cfgA cfgB} {s₀ : UInt32} {l₀ l : Link cfgA cfgB}
  {ts : List (Link cfgA cfgB × (Op cfgA ⊕ Op cfgB) × Link cfgA cfgB)} {head : Glbpkg}
  {rest : List Glbpkg}

/-- A transmission of the head of the send queue from a new address moves the connection there and
is answered there with the number of the head, and this answer makes the sender drop the head. -/
def Follows (dir : Direction cfgA cfgB) (l : Link cfgA cfgB) (head : Glbpkg)
    (rest : List Glbpkg) : Prop :=
  ∀ pkg from_ env, pkg.SameOnWire head.seal → pkg.Finds l.receiver dir.j →
    from_ ≠ (l.receiver.connections dir.j).peerAddr → env.sendOk 0 = true →
    ∃ ctx d, l.receiver.handlePacket pkg from_ env = some ctx ∧
      (ctx.connections dir.j).peerAddr = from_ ∧
      ctx.sock = l.receiver.sock ++ [d] ∧ d.dest = from_ ∧
      d.pkg.header.ctrlFlags = ctrlFlagDataAck ∧ d.pkg.header.ack = head.header.seq ∧
      ∀ pkg' from' env', pkg'.SameOnWire d.pkg → pkg'.Finds l.sender dir.i →
        ∃ ctx' chan', l.sender.handlePacket pkg' from' env' = some ctx' ∧
          ctx'.HasChannel dir.i dir.c chan' ∧ chan'.sQueue.elems = rest

/-- A transmission of the head of the send queue from a new address does nothing at all. -/
def Ignores (dir : Direction cfgA cfgB) (l : Link cfgA cfgB) (head : Glbpkg) : Prop :=
  ∀ pkg from_ env, pkg.SameOnWire head.seal → pkg.Finds l.receiver dir.j →
    from_ ≠ (l.receiver.connections dir.j).peerAddr →
    l.receiver.handlePacket pkg from_ env = some l.receiver

/-- The send queue of the channel has a head, and its transmissions lead to the receiving slot. -/
structure HeadQueued (dir : Direction cfgA cfgB) (l : Link cfgA cfgB) (head : Glbpkg)
    (rest : List Glbpkg) : Prop where
  /-- It is the head. -/
  sender : ∃ chan, l.sender.HasChannel dir.i dir.c chan ∧ chan.sQueue.elems = head :: rest
  /-- Its id is the one of the receiving slot. -/
  finds : head.Finds l.receiver dir.j

/-- The payloads the receiver has taken in a run, oldest first. -/
def takenIn (dir : Direction cfgA cfgB)
    (ts : List (Link cfgA cfgB × (Op cfgA ⊕ Op cfgB) × Link cfgA cfgB)) : List (List UInt8) :=
  ts.flatMap fun x ↦ takenBy dir x.1 x.2.1

/-! ### One transmission from a new address -/

/-- What a transmission of the head has in common with the head. -/
theorem reaches_of_transmission {schan : Glbchannel} {pkg : Glbpkg} (h : Joined dir l)
    (hsend : l.sender.HasChannel dir.i dir.c schan) (hhead : schan.sQueue.elems = head :: rest)
    {chs : Glbchannels cfgB.channelCount}
    (hchs : (l.receiver.connections dir.j).channels = some chs) (hsame : pkg.SameOnWire head.seal)
    (hfind : pkg.Finds l.receiver dir.j) :
    pkg.header.ctrlFlags = ctrlFlagData ∧ pkg.header.channelId.toNat = dir.c.val ∧
      pkg.header.seq = head.header.seq ∧ pkg.Reaches l.receiver dir.j dir.d chs := by
  obtain ⟨hflags, hc⟩ := h.tagged _ _ _ hsend head (by rw [hhead]; exact List.mem_cons_self)
  obtain ⟨hheader, -⟩ := hsame
  have hpc : pkg.header.channelId.toNat = dir.c.val := by rw [hheader]; exact hc
  exact ⟨by rw [hheader]; exact hflags, hpc, by rw [hheader]; rfl,
    hfind, h.receiver, hchs, hpc.trans dir.same⟩

/-- A transmission of a message the receiver does not wait for is ignored. -/
theorem ignores_of_ne {schan chan : Glbchannel} (h : Joined dir l)
    (hsend : l.sender.HasChannel dir.i dir.c schan) (hhead : schan.sQueue.elems = head :: rest)
    (hchan : l.receiver.HasChannel dir.j dir.d chan) (hne : chan.ack ≠ head.header.seq) :
    Ignores dir l head := by
  intro pkg from_ env hsame hfind hnew
  obtain ⟨rchan, hrchan, hrel⟩ := h.reliable
  obtain rfl := hchan.unique hrchan
  obtain ⟨chs, hchs, rfl⟩ := hchan
  obtain ⟨hflags, -, hseq, hreach⟩ := reaches_of_transmission h hsend hhead hchs hsame hfind
  obtain ⟨ctx, hctx⟩ : ∃ ctx, l.receiver.onData pkg from_ env = some ctx :=
    ⟨_, Glbctx.withChannel_of_reaches hreach⟩
  rw [Glbctx.handlePacket_of_data hflags, hctx]
  rcases Glbctx.onData_effect hctx with ⟨rfl, -⟩ | ⟨hreach', -, -, haddr, -⟩ |
    ⟨hreach', -, -, haddr, -⟩ | ⟨hreach', hwait, -, -, -⟩
  · rfl
  · obtain ⟨rfl, -, -⟩ := hreach.unique hreach'
    exact absurd haddr.symm hnew
  · obtain ⟨rfl, -, -⟩ := hreach.unique hreach'
    exact absurd haddr.symm hnew
  · obtain ⟨rfl, rfl, rfl⟩ := hreach.unique hreach'
    exact absurd ((hwait hrel).symm.trans hseq) hne

/-- A transmission of the message the receiver waits for moves the connection. -/
theorem follows_of_eq {schan chan : Glbchannel} (h : Joined dir l)
    (hsend : l.sender.HasChannel dir.i dir.c schan) (hhead : schan.sQueue.elems = head :: rest)
    (hchan : l.receiver.HasChannel dir.j dir.d chan) (heq : chan.ack = head.header.seq) :
    Follows dir l head rest := by
  intro pkg from_ env hsame hfind hnew hok
  obtain ⟨rchan, hrchan, hrel⟩ := h.reliable
  obtain rfl := hchan.unique hrchan
  obtain ⟨chs, hchs, rfl⟩ := hchan
  obtain ⟨hflags, hc, hseq, hreach⟩ := reaches_of_transmission h hsend hhead hchs hsame hfind
  obtain ⟨ctx, hctx⟩ : ∃ ctx, l.receiver.onData pkg from_ env = some ctx :=
    ⟨_, Glbctx.withChannel_of_reaches hreach⟩
  obtain ⟨hb, hsock⟩ := (Glbctx.onData_effect hctx).of_next hreach hrel (hseq.trans heq.symm)
  rw [if_pos hok] at hsock
  refine ⟨ctx, _, by rw [Glbctx.handlePacket_of_data hflags, hctx], by rw [hb.self], hsock, rfl,
    rfl, hseq, fun pkg' from' env' hsame' hfind' ↦ ?_⟩
  obtain ⟨hheader', -⟩ := hsame'
  refine drops_head h hsend hhead ?_ hfind' ?_ ?_
  · rw [hheader']; rfl
  · rw [hheader']; exact hc
  · rw [hheader']; exact hseq

/-- There is always another address. -/
theorem exists_addr_ne (addr : Glbaddr) : ∃ from_, from_ ≠ addr := by
  rcases eq_or_ne addr ⟨0, 0⟩ with rfl | hne
  · exact ⟨⟨1, 0⟩, by decide⟩
  · exact ⟨⟨0, 0⟩, hne.symm⟩

/-- **When a connection follows its peer.** A transmission of the head from a new address moves the
connection, and the sender drops the head for its answer, if and only if the receiver waits for the
head. -/
theorem follows_iff {schan chan : Glbchannel} (h : Joined dir l)
    (hsend : l.sender.HasChannel dir.i dir.c schan) (hhead : schan.sQueue.elems = head :: rest)
    (hfind : head.Finds l.receiver dir.j) (hchan : l.receiver.HasChannel dir.j dir.d chan) :
    Follows dir l head rest ↔ chan.ack = head.header.seq := by
  refine ⟨fun hfollows ↦ ?_, fun heq ↦ follows_of_eq h hsend hhead hchan heq⟩
  by_contra hne
  obtain ⟨from_, hnew⟩ := exists_addr_ne (l.receiver.connections dir.j).peerAddr
  -- the packet as it was sent is ignored, so the connection did not move
  obtain ⟨ctx, d, hctx, hpeer, -⟩ := hfollows head.seal from_ (Env.at 0) (.refl _) hfind hnew rfl
  have hidle :=
    ignores_of_ne h hsend hhead hchan hne head.seal from_ (Env.at 0) (.refl _) hfind hnew
  obtain rfl := Option.some_inj.1 (hidle.symm.trans hctx)
  exact hnew hpeer.symm

/-! ### What was taken -/

/-- Along a run the messages the receiver took are those of the transfer. -/
theorem exists_takenIn (h₀ : Start dir s₀ l₀) (hrun : Execution (Step dir) l₀ ts l)
    (hfew : l.accepted.length < 2 ^ 32) :
    ∃ S, Tracks dir s₀ l S ∧ S.delivered = takenIn dir ts := by
  induction hrun with
  | nil => exact ⟨_, tracks_start h₀, rfl⟩
  | @snoc l l' lab ts hrun hstep ih =>
    have hbound := Nat.lt_of_le_of_lt hstep.accepted_prefix.length_le hfew
    obtain ⟨S, hS, htaken⟩ := ih hbound
    obtain ⟨S', hdel, hS', -⟩ := tracks_step hS (h₀.up_run hrun) hbound hstep
    refine ⟨S', hS', ?_⟩
    rw [hdel, htaken, takenIn, takenIn, List.flatMap_append, List.flatMap_singleton]

/-- **When a channel survives a change of address.** At the end of every run of a link, for the head
of the send queue: its transmissions from a new address move the connection there, and the answer
makes the sender drop the head, if and only if the receiver waits for the head; otherwise they do
nothing. As long as fewer than `2 ^ 32` messages are accepted, the receiver waits for the head if
and only if it has not taken it: what it took and what is queued are then, together, what was
accepted. -/
theorem head_follows_iff {chan : Glbchannel} (h₀ : Start dir s₀ l₀)
    (hrun : Execution (Step dir) l₀ ts l) (hhead : HeadQueued dir l head rest)
    (hchan : l.receiver.HasChannel dir.j dir.d chan) :
    (Follows dir l head rest ↔ chan.ack = head.header.seq) ∧
      (chan.ack ≠ head.header.seq → Ignores dir l head) ∧
      (l.accepted.length < 2 ^ 32 → (Follows dir l head rest ↔
        (takenIn dir ts).length + (head :: rest).length = l.accepted.length)) := by
  have hj := h₀.joined_run hrun
  obtain ⟨schan, hsend, helems⟩ := hhead.sender
  have hiff := follows_iff hj hsend helems hhead.finds hchan
  refine ⟨hiff, ignores_of_ne hj hsend helems hchan, fun hfew ↦ hiff.trans ?_⟩
  obtain ⟨S, hS, htaken⟩ := exists_takenIn h₀ hrun hfew
  have hI : S.Inv := hS.reachable.inv
  obtain ⟨chan', hrecv⟩ := hS.recvSide hj.receiver
  obtain ⟨schan', hside⟩ := hS.sendSide hj.sender
  obtain rfl := hchan.unique hrecv.has
  obtain rfl := hsend.unique hside.has
  obtain ⟨hget, hnum⟩ := hside.head helems
  have hbase : S.base < S.accepted.length := (List.getElem?_eq_some_iff.1 hget).1
  have hqueued := congrArg List.length hside.payloads
  rw [helems, List.length_map, List.length_drop] at hqueued
  have hdel := hI.delivered.length_le
  rw [hrecv.ack, hnum, hqueued, ← htaken]
  rw [hS.accepted] at hbase hdel ⊢
  rw [numbered_inj (by omega) (by omega)]
  omega

/-! ### A lost acknowledgment, then a new address -/

/-- From the client to the first slot of the server, on channel 0. -/
def plainDirection : Direction Glbcfg.sampleClient Glbcfg.sampleServer where
  i := ⟨0, Nat.one_pos⟩
  c := ⟨0, Nat.one_pos⟩
  j := ⟨0, Nat.two_pos⟩
  d := ⟨0, Nat.one_pos⟩
  same := rfl

/-- The first sequence number of the client. -/
def clientSeq : UInt32 := Glbctx.initialSeq Glbcfg.sampleClient

/-- The client calls `glb_connect` and gets the SYN|ACK; the server gets the SYN and the ACK. -/
def plainLink : Option (Link Glbcfg.sampleClient Glbcfg.sampleServer) :=
  linkAfter
    [.connect 0,
      .packet ((glbpkgInit ⟨1, 0⟩ ctrlFlagSynAck 0).withSeqAck serverSeq clientSeq) ⟨0, 0⟩
        (Env.at 2)]
    [.packet ((glbpkgInit ⟨0xFFFF, 0⟩ ctrlFlagSyn 0).withSeqAck clientSeq 0) .samplePeer (Env.at 1),
      .packet ((glbpkgInit ⟨1, 0⟩ ctrlFlagAck 0).withSeqAck clientSeq serverSeq) .samplePeer
        (Env.at 3)]

theorem exists_start_plainLink :
    ∃ l, plainLink = some l ∧ Start plainDirection clientSeq l :=
  exists_start (by decide +kernel)

/-- The client sends one message. -/
def sampleSent : List (Op Glbcfg.sampleClient ⊕ Op Glbcfg.sampleServer) :=
  [.inl (.send ⟨some [1], some ⟨0, Nat.one_pos⟩, 0⟩ 4), .inl (.timers ⟨0, Nat.one_pos⟩ (Env.at 5))]

/-- The server takes it, and the acknowledgment is lost. -/
def sampleTaken : List (Op Glbcfg.sampleClient ⊕ Op Glbcfg.sampleServer) :=
  sampleSent ++ [.inr (.packet (sampleData 1 clientSeq) .samplePeer (Env.at 6))]

/-- A channel does not always survive a change of address: after `sampleTaken` the server ignores
the message, from wherever else it comes. The numbers are far from the largest one. -/
theorem not_always_follows : ¬ ∀ (cfgA cfgB : Glbcfg) (dir : Direction cfgA cfgB) (s₀ : UInt32)
    (l₀ l : Link cfgA cfgB) (ts : List _) (head : Glbpkg) (rest : List Glbpkg),
    Start dir s₀ l₀ → Execution (Step dir) l₀ ts l → HeadQueued dir l head rest →
    s₀.toNat + l.accepted.length < 2 ^ 32 → Follows dir l head rest := by
  intro h
  obtain ⟨l₀, hl₀, h₀⟩ := exists_start_plainLink
  have hsteps : (plainLink.bind fun l₀ ↦
      Execution.perform (next plainDirection) sampleTaken l₀).bind (fun r ↦
        (queueHead plainDirection r.2).map fun q ↦
          (decide (q.1.Finds r.2.receiver plainDirection.j ∧ q.1.header.seq = clientSeq),
            decide (clientSeq.toNat + r.2.accepted.length < 2 ^ 32),
            (r.2.receiver.connections plainDirection.j).channels.map fun chs ↦
              (chs.chan plainDirection.d).ack)) = some (true, true, some (clientSeq + 1)) := by
    decide +kernel
  rw [hl₀, Option.bind_some] at hsteps
  obtain ⟨r, hr, hsteps⟩ := Option.bind_eq_some_iff.1 hsteps
  obtain ⟨⟨head, rest⟩, hhead, heq⟩ := Option.map_eq_some_iff.1 hsteps
  simp only [Prod.mk.injEq] at heq
  obtain ⟨hcond, hwrap, hwait⟩ := heq
  obtain ⟨hfind, hseq⟩ := of_decide_eq_true hcond
  obtain ⟨chs, hchs, hack⟩ := Option.map_eq_some_iff.1 hwait
  obtain ⟨schan, hsend, helems⟩ := of_queueHead hhead
  have hrun : Execution (Step plainDirection) l₀ r.1 r.2 :=
    (Execution.nil.append_perform hr).mono fun _ _ _ ↦ step_of_next
  have hfollows := h _ _ _ _ _ _ _ _ _ h₀ hrun ⟨⟨schan, hsend, helems⟩, hfind⟩
    (of_decide_eq_true hwrap)
  have hwaits := (follows_iff (h₀.joined_run hrun) hsend helems hfind ⟨chs, hchs, rfl⟩).1 hfollows
  have hne : clientSeq + 1 ≠ clientSeq := by decide
  exact hne (hack.symm.trans (hwaits.trans hseq))

/-- After `sampleSent` the message was not taken yet, and moves the connection. -/
theorem head_follows_sample : ∃ (l₀ l : Link Glbcfg.sampleClient Glbcfg.sampleServer) (ts : List _)
    (head : Glbpkg) (rest : List Glbpkg), Start plainDirection clientSeq l₀ ∧
    Execution (Step plainDirection) l₀ ts l ∧ HeadQueued plainDirection l head rest ∧
    head.header.seq = clientSeq ∧ Follows plainDirection l head rest := by
  obtain ⟨l₀, hl₀, h₀⟩ := exists_start_plainLink
  have hsteps : (plainLink.bind fun l₀ ↦
      Execution.perform (next plainDirection) sampleSent l₀).bind (fun r ↦
        (queueHead plainDirection r.2).map fun q ↦
          (decide (q.1.Finds r.2.receiver plainDirection.j ∧ q.1.header.seq = clientSeq),
            (takenIn plainDirection r.1, (q.1 :: q.2).length, r.2.accepted.length),
            (r.2.receiver.connections plainDirection.j).channels.isSome)) =
      some (true, ([], 1, 1), true) := by
    decide +kernel
  rw [hl₀, Option.bind_some] at hsteps
  obtain ⟨r, hr, hsteps⟩ := Option.bind_eq_some_iff.1 hsteps
  obtain ⟨⟨head, rest⟩, hhead, heq⟩ := Option.map_eq_some_iff.1 hsteps
  simp only [Prod.mk.injEq] at heq
  obtain ⟨hcond, ⟨htaken, hqueued, haccepted⟩, hsome⟩ := heq
  obtain ⟨hfind, hseq⟩ := of_decide_eq_true hcond
  obtain ⟨chs, hchs⟩ := Option.isSome_iff_exists.1 hsome
  have hrun : Execution (Step plainDirection) l₀ r.1 r.2 :=
    (Execution.nil.append_perform hr).mono fun _ _ _ ↦ step_of_next
  have hqueue : HeadQueued plainDirection r.2 head rest := ⟨of_queueHead hhead, hfind⟩
  have hiff := (head_follows_iff h₀ hrun hqueue ⟨chs, hchs, rfl⟩).2.2
    (by rw [haccepted]; decide)
  refine ⟨l₀, r.2, r.1, head, rest, h₀, hrun, hqueue, hseq, hiff.2 ?_⟩
  rw [htaken, hqueued, haccepted]
  rfl

end Link

end Gilberta
