import Gilberta.Link.Delivery

/-!
# When a lost acknowledgment is made up for

A message the receiver has taken stays at the head of the sender's queue until a DATA|ACK with its
number arrives. If that is lost, the transfer depends on the receiver answering the retransmission.
The receiver decides whether a packet is old by comparing numbers as plain integers, so it answers
exactly if the number it waits for is not below the one of the packet (`recovers_iff`). For a
message it has taken, the number it waits for is the next one, and the next one is smaller in one
case only: after the largest number (`head_recovers_iff`).
-/

namespace Gilberta

variable {cfgA cfgB : Glbcfg}

namespace Link

open Glbctx (HasChannel)

variable {dir : Direction cfgA cfgB} {s₀ : UInt32} {l₀ l l' : Link cfgA cfgB}
  {ts : List (Link cfgA cfgB × (Op cfgA ⊕ Op cfgB) × Link cfgA cfgB)} {head : Glbpkg}
  {rest : List Glbpkg}

/-- A transmission of the head of the send queue, from the address the receiver knows, is answered
with the number of the head, and this answer makes the sender drop the head. -/
def Recovers (dir : Direction cfgA cfgB) (l : Link cfgA cfgB) (head : Glbpkg)
    (rest : List Glbpkg) : Prop :=
  ∀ pkg env, pkg.SameOnWire head.seal → pkg.Finds l.receiver dir.j → env.sendOk 0 = true →
    ∃ ctx d, l.receiver.handlePacket pkg (l.receiver.connections dir.j).peerAddr env = some ctx ∧
      ctx.sock = l.receiver.sock ++ [d] ∧
      d.dest = (l.receiver.connections dir.j).peerAddr ∧
      d.pkg.header.ctrlFlags = ctrlFlagDataAck ∧ d.pkg.header.ack = head.header.seq ∧
      ∀ pkg' from_ env', pkg'.SameOnWire d.pkg → pkg'.Finds l.sender dir.i →
        ∃ ctx' chan', l.sender.handlePacket pkg' from_ env' = some ctx' ∧
          ctx'.HasChannel dir.i dir.c chan' ∧ chan'.sQueue.elems = rest

/-- The receiver takes a transmission of a packet: it handles it on the channel when its number is
the one it waits for. -/
def Takes (dir : Direction cfgA cfgB)
    (x : Link cfgA cfgB × (Op cfgA ⊕ Op cfgB) × Link cfgA cfgB) (head : Glbpkg) : Prop :=
  match x.2.1 with
  | .inr (.packet pkg _ _) => pkg.SameOnWire head.seal ∧ pkg.Finds x.1.receiver dir.j ∧
      ∃ chs ∈ (x.1.receiver.connections dir.j).channels, pkg.header.seq = (chs.chan dir.d).ack
  | _ => False

/-- At the end of a run the head of the send queue is a message the receiver has taken, and its
transmissions lead to the receiving slot. -/
structure HeadTaken (dir : Direction cfgA cfgB)
    (ts : List (Link cfgA cfgB × (Op cfgA ⊕ Op cfgB) × Link cfgA cfgB)) (l : Link cfgA cfgB)
    (head : Glbpkg) (rest : List Glbpkg) : Prop where
  /-- It is the head. -/
  sender : ∃ chan, l.sender.HasChannel dir.i dir.c chan ∧ chan.sQueue.elems = head :: rest
  /-- Its id is the one of the receiving slot. -/
  finds : head.Finds l.receiver dir.j
  /-- It was taken. -/
  taken : ∃ x ∈ ts, Takes dir x head

/-! ### What a run of any length keeps -/

/-- What does not depend on how many messages were sent. -/
structure Joined (dir : Direction cfgA cfgB) (l : Link cfgA cfgB) : Prop extends Up dir l where
  /-- The sender's send queues hold DATA packets for their own channel. -/
  tagged : l.sender.Tagged
  /-- The receiver's channel is reliable. -/
  reliable : ∃ chan, l.receiver.HasChannel dir.j dir.d chan ∧ chan.reliable = true

theorem Start.joined (h : Start dir s₀ l) : Joined dir l where
  toUp := h.up
  tagged := (tracks_start h).tagged
  reliable := by
    obtain ⟨chan, hchan, hrel, -⟩ := h.recvChan
    exact ⟨chan, hchan, hrel⟩

theorem Joined.step {lab : Op cfgA ⊕ Op cfgB} (h : Joined dir l) (hstep : Step dir l lab l') :
    Joined dir l' := by
  have hup := hstep.up h.toUp
  rcases hstep with ⟨hstep, -, -⟩ | ⟨hstep, hest, -⟩
  · exact ⟨hup, Glbctx.tagged_step h.tagged hstep, h.reliable⟩
  · refine ⟨hup, h.tagged, ?_⟩
    obtain ⟨chan, hchan, hrel⟩ := h.reliable
    obtain ⟨chan', hchan', hrecv, -⟩ := Glbctx.channel_of_established hstep h.receiver hest hchan
    have hflags : chan'.flags = chan.flags := by
      generalize hside : chan'.recvSide = side at hrecv
      rcases hrecv with _ | _ | _ <;> exact (Glbchannel.recvSide_eq_iff.1 hside).2.2
    exact ⟨chan', hchan', by rw [Glbchannel.reliable, hflags]; exact hrel⟩

theorem Start.joined_run (h₀ : Start dir s₀ l₀) (hrun : Execution (Step dir) l₀ ts l) :
    Joined dir l := by
  induction hrun with
  | nil => exact h₀.joined
  | snoc _ hstep ih => exact ih.step hstep

/-! ### One retransmission -/

/-- The acknowledgment of its number makes the sender drop the head. -/
theorem drops_head {chan : Glbchannel} {pkg : Glbpkg} {from_ : Glbaddr} {env : Env}
    (h : Joined dir l) (hchan : l.sender.HasChannel dir.i dir.c chan)
    (hhead : chan.sQueue.elems = head :: rest) (hflags : pkg.header.ctrlFlags = ctrlFlagDataAck)
    (hfind : pkg.Finds l.sender dir.i) (hc : pkg.header.channelId.toNat = dir.c.val)
    (hack : pkg.header.ack = head.header.seq) :
    ∃ ctx chan', l.sender.handlePacket pkg from_ env = some ctx ∧
      ctx.HasChannel dir.i dir.c chan' ∧ chan'.sQueue.elems = rest := by
  obtain ⟨chs, hchs, rfl⟩ := hchan
  have hreach : pkg.Reaches l.sender dir.i dir.c chs := ⟨hfind, h.sender, hchs, hc⟩
  obtain ⟨ctx, hctx⟩ : ∃ ctx, l.sender.onDataAck pkg = some ctx :=
    ⟨_, Glbctx.withChannel_of_reaches hreach⟩
  have hhandle : l.sender.handlePacket pkg from_ env = some ctx := by
    rw [Glbctx.handlePacket_of_dataAck hflags, hctx]
  rcases Glbctx.onDataAck_effect hctx with ⟨-, hnot⟩ | ⟨hreach', hhead', -, rfl⟩
  · exact absurd hack.symm (hnot _ _ _ _ _ hreach hhead)
  · obtain ⟨rfl, rfl, rfl⟩ := hreach.unique hreach'
    refine ⟨_, _, hhandle, Glbctx.hasChannel_setChan_self hchs, ?_⟩
    show (chs.chan dir.c).sQueue.pop.2.2.elems = rest
    rw [Glbqueue.toBoundedQueue_pop, BoundedQueue.elems_drop, hhead]
    rfl

/-- A DATA packet of a reliable channel whose number is not above the one it waits for is answered
with its number. -/
theorem answers_data {chan : Glbchannel} {pkg : Glbpkg} {env : Env} (h : Joined dir l)
    (hchan : l.receiver.HasChannel dir.j dir.d chan) (hflags : pkg.header.ctrlFlags = ctrlFlagData)
    (hfind : pkg.Finds l.receiver dir.j) (hd : pkg.header.channelId.toNat = dir.d.val)
    (hok : env.sendOk 0 = true) (hseq : ¬ chan.ack < pkg.header.seq) :
    ∃ ctx, l.receiver.handlePacket pkg (l.receiver.connections dir.j).peerAddr env = some ctx ∧
      ctx.sock = l.receiver.sock ++ [⟨(l.receiver.dataAckPkg dir.j chan pkg.header.channelId
        pkg.header.seq).seal, (l.receiver.connections dir.j).peerAddr⟩] := by
  obtain ⟨chan', hchan', hrel⟩ := h.reliable
  obtain rfl := hchan.unique hchan'
  obtain ⟨chs, hchs, rfl⟩ := hchan
  have hreach : pkg.Reaches l.receiver dir.j dir.d chs := ⟨hfind, h.receiver, hchs, hd⟩
  obtain ⟨ctx, hctx⟩ : ∃ ctx, l.receiver.onData pkg (l.receiver.connections dir.j).peerAddr env =
      some ctx := ⟨_, Glbctx.withChannel_of_reaches hreach⟩
  refine ⟨ctx, by rw [Glbctx.handlePacket_of_data hflags, hctx], ?_⟩
  have heffect := Glbctx.onData_effect hctx
  -- what is not above the number waited for is below it or the same
  rcases UInt32.lt_or_eq_of_le (UInt32.not_lt.1 hseq) with hlt | heq
  · rw [heffect.of_old hreach hrel hlt rfl, Glbctx.sock_glbioSend, if_pos hok]
  · rw [(heffect.of_next hreach hrel heq).2, if_pos hok]

/-- One whose number is above it is not answered. -/
theorem silent_of_future {chan : Glbchannel} {pkg : Glbpkg} {env : Env} {ctx : Glbctx cfgB}
    (h : Joined dir l) (hchan : l.receiver.HasChannel dir.j dir.d chan)
    (hflags : pkg.header.ctrlFlags = ctrlFlagData)
    (hfind : pkg.Finds l.receiver dir.j) (hd : pkg.header.channelId.toNat = dir.d.val)
    (hlt : chan.ack < pkg.header.seq)
    (hctx : l.receiver.handlePacket pkg (l.receiver.connections dir.j).peerAddr env = some ctx) :
    ctx.sock = l.receiver.sock := by
  obtain ⟨chan', hchan', hrel⟩ := h.reliable
  obtain rfl := hchan.unique hchan'
  obtain ⟨chs, hchs, rfl⟩ := hchan
  have hreach : pkg.Reaches l.receiver dir.j dir.d chs := ⟨hfind, h.receiver, hchs, hd⟩
  have heffect := Glbctx.onData_effect ((Glbctx.handlePacket_of_data hflags).symm.trans hctx)
  rw [heffect.of_future hreach hrel hlt rfl]
  rfl

/-- **When a retransmission is answered.** The receiver answers a transmission of the head, and the
sender drops the head for it, if and only if the number the receiver waits for is not below the one
of the head. -/
theorem recovers_iff {schan chan : Glbchannel} (h : Joined dir l)
    (hsend : l.sender.HasChannel dir.i dir.c schan) (hhead : schan.sQueue.elems = head :: rest)
    (hfind : head.Finds l.receiver dir.j) (hchan : l.receiver.HasChannel dir.j dir.d chan) :
    Recovers dir l head rest ↔ ¬ chan.ack < head.header.seq := by
  obtain ⟨hflags, hc⟩ := h.tagged _ _ _ hsend head (by rw [hhead]; exact List.mem_cons_self)
  have hd : head.header.channelId.toNat = dir.d.val := hc.trans dir.same
  constructor
  · intro hrec hlt
    -- the packet as it was sent is not answered
    obtain ⟨ctx, d, hctx, hsock, -⟩ := hrec head.seal (Env.at 0) (.refl _) hfind rfl
    have hsilent : ctx.sock = l.receiver.sock := by
      refine silent_of_future h hchan ?_ ?_ ?_ ?_ hctx
      · exact hflags
      · exact hfind
      · exact hd
      · exact hlt
    rw [hsilent] at hsock
    exact absurd (congrArg List.length hsock) (by simp)
  · intro hseq pkg env hsame hfind' hok
    obtain ⟨hheader, -⟩ := hsame
    have hpseq : pkg.header.seq = head.header.seq := by rw [hheader]; rfl
    have hpflags : pkg.header.ctrlFlags = ctrlFlagData := by rw [hheader]; exact hflags
    have hpc : pkg.header.channelId.toNat = dir.c.val := by rw [hheader]; exact hc
    obtain ⟨ctx, hctx, hsock⟩ := answers_data h hchan hpflags hfind' (hpc.trans dir.same) hok
      (by rw [hpseq]; exact hseq)
    refine ⟨ctx, _, hctx, hsock, rfl, rfl, hpseq, fun pkg' from_ env' hsame' hfind'' ↦ ?_⟩
    obtain ⟨hheader', -⟩ := hsame'
    refine drops_head h hsend hhead ?_ hfind'' ?_ ?_
    · rw [hheader']; rfl
    · rw [hheader']; exact hpc
    · rw [hheader']; exact hpseq

/-! ### What was taken -/

/-- What the receiver takes of a DATA packet of the channel is its payload, under the number the
channel waits for. -/
theorem takenBy_of_takes {x : Link cfgA cfgB × (Op cfgA ⊕ Op cfgB) × Link cfgA cfgB}
    {chan : Glbchannel} (htakes : Takes dir x head) (hflags : head.header.ctrlFlags = ctrlFlagData)
    (hd : head.header.channelId.toNat = dir.d.val)
    (hchan : x.1.receiver.HasChannel dir.j dir.d chan) :
    takenBy dir x.1 x.2.1 = [head.data] ∧ head.header.seq = chan.ack := by
  obtain ⟨l, lab, l'⟩ := x
  obtain ⟨chs, hchs, rfl⟩ := hchan
  rcases lab with _ | _ | _ | _ | _ | _ | _ | ⟨pkg, from_, env⟩ | _
  case inr.packet =>
    obtain ⟨⟨hheader, hdata⟩, hfind, chs', hchs', hseq⟩ := htakes
    obtain rfl := Option.some_inj.1 (hchs.symm.trans hchs')
    have htaken : takenBy dir l (.inr (.packet pkg from_ env)) = [pkg.data] := by
      refine if_pos ⟨?_, hfind, ?_, chs, hchs', hseq⟩
      · rw [hheader]; exact hflags
      · rw [hheader]; exact hd
    rw [hheader] at hseq
    exact ⟨by rw [htaken, hdata]; rfl, hseq⟩
  all_goals exact htakes.elim

/-- Along a run what the receiver took is counted. -/
theorem exists_taken (h₀ : Start dir s₀ l₀) (hrun : Execution (Step dir) l₀ ts l)
    (hfew : l.accepted.length < 2 ^ 32) : ∃ S, Tracks dir s₀ l S ∧
      ∀ x ∈ ts, ∀ head : Glbpkg, head.header.ctrlFlags = ctrlFlagData →
        head.header.channelId.toNat = dir.d.val → Takes dir x head →
        ∃ k < S.delivered.length, head.header.seq = numbered s₀ k := by
  induction hrun with
  | nil => exact ⟨_, tracks_start h₀, fun x hx ↦ by cases hx⟩
  | @snoc l l' lab ts hrun hstep ih =>
    have hup := h₀.up_run hrun
    have hbound := Nat.lt_of_le_of_lt hstep.accepted_prefix.length_le hfew
    obtain ⟨S, hS, htaken⟩ := ih hbound
    obtain ⟨S', hdel, hS', -⟩ := tracks_step hS hup hbound hstep
    refine ⟨S', hS', fun x hx head hflags hd htakes ↦ ?_⟩
    rw [hdel, List.length_append]
    rcases List.mem_append.1 hx with hx | hx
    · obtain ⟨k, hk, hseq⟩ := htaken x hx head hflags hd htakes
      exact ⟨k, Nat.lt_add_right _ hk, hseq⟩
    · obtain rfl := List.mem_singleton.1 hx
      obtain ⟨chan, hchan⟩ := hS.recvSide hup.receiver
      obtain ⟨hnew, hseq⟩ := takenBy_of_takes htakes hflags hd hchan.has
      rw [hnew]
      exact ⟨S.delivered.length, Nat.lt_succ_self _, hseq.trans hchan.ack⟩

/-- **When lost acknowledgments are made up for.** At the end of every run of a link, for a head of
the send queue that the receiver has taken: its retransmission is answered and the answer makes the
sender drop it if and only if the number the receiver waits for is not below the one of the head.
As long as fewer than `2 ^ 32` messages are accepted, this is so if and only if the head does not
have the largest number. -/
theorem head_recovers_iff {chan : Glbchannel} (h₀ : Start dir s₀ l₀)
    (hrun : Execution (Step dir) l₀ ts l) (hhead : HeadTaken dir ts l head rest)
    (hchan : l.receiver.HasChannel dir.j dir.d chan) :
    (Recovers dir l head rest ↔ ¬ chan.ack < head.header.seq) ∧
      (l.accepted.length < 2 ^ 32 →
        (Recovers dir l head rest ↔ head.header.seq ≠ 0xFFFFFFFF)) := by
  have hj := h₀.joined_run hrun
  obtain ⟨schan, hsend, helems⟩ := hhead.sender
  have hiff := recovers_iff hj hsend helems hhead.finds hchan
  refine ⟨hiff, fun hfew ↦ hiff.trans ?_⟩
  obtain ⟨S, hS, htaken⟩ := exists_taken h₀ hrun hfew
  have hI : S.Inv := hS.reachable.inv
  obtain ⟨chan', hrecv⟩ := hS.recvSide hj.receiver
  obtain ⟨schan', hside⟩ := hS.sendSide hj.sender
  obtain rfl := hchan.unique hrecv.has
  obtain rfl := hsend.unique hside.has
  obtain ⟨hflags, hc⟩ := hj.tagged _ _ _ hsend head (by rw [helems]; exact List.mem_cons_self)
  obtain ⟨hget, hnum⟩ := hside.head helems
  have hbase : S.base < S.accepted.length := (List.getElem?_eq_some_iff.1 hget).1
  rw [hS.accepted] at hbase
  -- the head was taken, so the receiver is one message ahead
  have hahead : S.delivered.length = S.base + 1 := by
    obtain ⟨x, hx, htakes⟩ := hhead.taken
    obtain ⟨k, hk, hseq⟩ := htaken x hx head hflags (hc.trans dir.same) htakes
    have hle := hI.le_base
    have hkb : S.base = k := (numbered_inj (by omega) (by omega)).1 (hnum.symm.trans hseq)
    omega
  have hack : chan.ack = head.header.seq + 1 := by
    rw [hrecv.ack, hahead, numbered_succ, hnum]
  rw [hack, UInt32.lt_iff_toNat_lt, UInt32.toNat_add, ne_eq, ← UInt32.toNat_inj]
  have hlt := head.header.seq.toNat_lt
  show ¬ (head.header.seq.toNat + 1) % 2 ^ 32 < head.header.seq.toNat ↔
    ¬ head.header.seq.toNat = 4294967295
  omega

/-! ### The largest sequence number -/

instance (dir : Direction cfgA cfgB) (head : Glbpkg) :
    (x : Link cfgA cfgB × (Op cfgA ⊕ Op cfgB) × Link cfgA cfgB) → Decidable (Takes dir x head)
  | (l, .inr (.packet pkg _ _), _) => inferInstanceAs (Decidable (pkg.SameOnWire head.seal ∧
      pkg.Finds l.receiver dir.j ∧
      ∃ chs ∈ (l.receiver.connections dir.j).channels, pkg.header.seq = (chs.chan dir.d).ack))
  | (_, .inl _, _) | (_, .inr (.connect _), _) | (_, .inr (.close _ _), _)
  | (_, .inr (.send _ _), _) | (_, .inr .pollevent, _) | (_, .inr (.popdata _), _)
  | (_, .inr .readError, _) | (_, .inr (.timers _ _), _) => inferInstanceAs (Decidable False)

/-- The head of the send queue and what is behind it. -/
def queueHead (dir : Direction cfgA cfgB) (l : Link cfgA cfgB) : Option (Glbpkg × List Glbpkg) :=
  (l.sender.connections dir.i).channels.bind fun chs ↦
    match (chs.chan dir.c).sQueue.elems with
    | [] => none
    | head :: rest => some (head, rest)

theorem of_queueHead (h : queueHead dir l = some (head, rest)) :
    ∃ chan, l.sender.HasChannel dir.i dir.c chan ∧ chan.sQueue.elems = head :: rest := by
  obtain ⟨chs, hchs, h⟩ := Option.bind_eq_some_iff.1 h
  refine ⟨chs.chan dir.c, ⟨chs, hchs, rfl⟩, ?_⟩
  split at h
  · cases h
  · next heq =>
    cases h
    exact heq

/-- The client sends one message, whose number is the largest, and the server takes it. -/
def sampleLoss : List (Op edgeClient ⊕ Op Glbcfg.sampleServer) :=
  [.inl (sampleSend 1 4), .inl (.timers ⟨0, Nat.one_pos⟩ (Env.at 5)),
    .inr (.packet (sampleData 1 0xFFFFFFFF) .samplePeer (Env.at 6))]

/-- Lost acknowledgments are not always made up for: after `sampleLoss` the server waits for number
0, and a retransmission of the message with the largest number is from the future. -/
theorem not_always_recovers : ¬ ∀ (cfgA cfgB : Glbcfg) (dir : Direction cfgA cfgB) (s₀ : UInt32)
    (l₀ l : Link cfgA cfgB) (ts : List _) (head : Glbpkg) (rest : List Glbpkg),
    Start dir s₀ l₀ → Execution (Step dir) l₀ ts l → HeadTaken dir ts l head rest →
    Recovers dir l head rest := by
  intro h
  obtain ⟨l₀, hl₀, h₀⟩ := exists_start_sampleLink
  have hsteps : (sampleLink.bind fun l₀ ↦
      Execution.perform (next sampleDirection) sampleLoss l₀).bind (fun r ↦
        (queueHead sampleDirection r.2).map fun q ↦
          (decide (q.1.Finds r.2.receiver sampleDirection.j ∧
              (∃ x ∈ r.1, Takes sampleDirection x q.1) ∧ q.1.header.seq = 0xFFFFFFFF),
            (r.2.receiver.connections sampleDirection.j).channels.map fun chs ↦
              (chs.chan sampleDirection.d).ack)) = some (true, some 0) := by
    decide +kernel
  rw [hl₀, Option.bind_some] at hsteps
  obtain ⟨r, hr, hsteps⟩ := Option.bind_eq_some_iff.1 hsteps
  obtain ⟨⟨head, rest⟩, hhead, heq⟩ := Option.map_eq_some_iff.1 hsteps
  obtain ⟨hcond, hwait⟩ := Prod.mk.inj heq
  obtain ⟨hfind, htaken, hseq⟩ := of_decide_eq_true hcond
  obtain ⟨chs, hchs, hack⟩ := Option.map_eq_some_iff.1 hwait
  obtain ⟨schan, hsend, helems⟩ := of_queueHead hhead
  have hrun : Execution (Step sampleDirection) l₀ r.1 r.2 :=
    (Execution.nil.append_perform hr).mono fun _ _ _ ↦ step_of_next
  have hrec := h _ _ _ _ _ _ _ _ _ h₀ hrun ⟨⟨schan, hsend, helems⟩, hfind, htaken⟩
  refine (recovers_iff (h₀.joined_run hrun) hsend helems hfind ⟨chs, hchs, rfl⟩).1 hrec ?_
  show (chs.chan sampleDirection.d).ack < head.header.seq
  rw [hack, hseq]
  decide

/-- At the end of `sampleTransfer` the second message, which has number 0, is not acknowledged yet,
and its retransmission is answered. -/
theorem head_recovers_sample : ∃ (l₀ l : Link edgeClient Glbcfg.sampleServer) (ts : List _)
    (head : Glbpkg) (rest : List Glbpkg), Start sampleDirection 0xFFFFFFFF l₀ ∧
    Execution (Step sampleDirection) l₀ ts l ∧ HeadTaken sampleDirection ts l head rest ∧
    head.header.seq = 0 ∧ Recovers sampleDirection l head rest := by
  obtain ⟨l₀, hl₀, h₀⟩ := exists_start_sampleLink
  have hsteps : (sampleLink.bind fun l₀ ↦
      Execution.perform (next sampleDirection) sampleTransfer l₀).bind (fun r ↦
        (queueHead sampleDirection r.2).map fun q ↦
          (decide (q.1.Finds r.2.receiver sampleDirection.j ∧
              (∃ x ∈ r.1, Takes sampleDirection x q.1) ∧ q.1.header.seq = 0),
            decide (r.2.accepted.length < 2 ^ 32),
            (r.2.receiver.connections sampleDirection.j).channels.isSome)) =
      some (true, true, true) := by
    decide +kernel
  rw [hl₀, Option.bind_some] at hsteps
  obtain ⟨r, hr, hsteps⟩ := Option.bind_eq_some_iff.1 hsteps
  obtain ⟨⟨head, rest⟩, hhead, heq⟩ := Option.map_eq_some_iff.1 hsteps
  simp only [Prod.mk.injEq] at heq
  obtain ⟨hcond, hfew, hsome⟩ := heq
  obtain ⟨hfind, htaken, hseq⟩ := of_decide_eq_true hcond
  obtain ⟨chs, hchs⟩ := Option.isSome_iff_exists.1 hsome
  have hrun : Execution (Step sampleDirection) l₀ r.1 r.2 :=
    (Execution.nil.append_perform hr).mono fun _ _ _ ↦ step_of_next
  have hlost : HeadTaken sampleDirection r.1 r.2 head rest := ⟨of_queueHead hhead, hfind, htaken⟩
  have hiff := (head_recovers_iff h₀ hrun hlost ⟨chs, hchs, rfl⟩).2 (of_decide_eq_true hfew)
  refine ⟨l₀, r.2, r.1, head, rest, h₀, hrun, hlost, hseq, hiff.2 ?_⟩
  rw [hseq]
  decide

end Link

end Gilberta
