import Gilberta.Effects.Channels
import Gilberta.Effects.Emission
import Gilberta.Foundations.SequenceNumbers
import Gilberta.Foundations.StopAndWait

/-!
# One direction of one channel between two contexts

Two contexts take steps in any order; one slot of each stays established. For one direction of one
channel between these slots the link records what the application gave to `glb_send` and got from
`glb_popdata`, and what either side put on the wire: the DATA packets the sender transmitted on the
channel and the DATA|ACKs the receiver answered with. The network may deliver any of these at any
time, any number of times or never; what it delivers to this channel must be one of them. Everything
else the two contexts do is unrestricted: other slots, other channels, the opposite direction and
any other packet.

`Tracks` relates the link to the protocol it implements, and `tracks_step` is the simulation: each
step of the link is a few steps of `StopAndWait`. It needs only that fewer than `2 ^ 32` messages
were accepted, so that numbers tell messages apart.
-/

namespace Gilberta

/-- One direction of one channel: slot `i` sends on it as channel `c`, slot `j` receives on it as
channel `d`. -/
structure Direction (cfgA cfgB : Glbcfg) where
  /-- The sending slot. -/
  i : Fin cfgA.connectionCount
  /-- The channel, as the sender counts. -/
  c : Fin cfgA.channelCount
  /-- The receiving slot. -/
  j : Fin cfgB.connectionCount
  /-- The channel, as the receiver counts. -/
  d : Fin cfgB.channelCount
  /-- It is the same channel. -/
  same : c.val = d.val

/-- The two contexts, and what happened on one direction of one channel so far. -/
structure Link (cfgA cfgB : Glbcfg) where
  /-- The sending context. -/
  sender : Glbctx cfgA
  /-- The receiving context. -/
  receiver : Glbctx cfgB
  /-- The payloads `glb_send` accepted, oldest first. -/
  accepted : List (List UInt8)
  /-- The payloads `glb_popdata` returned, oldest first. -/
  popped : List (List UInt8)
  /-- The DATA packets transmitted. -/
  data : List Glbpkg
  /-- The DATA|ACKs sent. -/
  acks : List Glbpkg

namespace Glbctx

variable {cfg : Glbcfg}

/-- The payload an operation gives to `glb_send` for channel `c` of slot `i`, if it is accepted. -/
def acceptedBy (ctx : Glbctx cfg) (i : Fin cfg.connectionCount) (c : Fin cfg.channelCount) :
    Op cfg → List (List UInt8)
  | .send info now =>
    match ctx.glbSend info now with
    | some (.success, _) =>
      if info.con = some i ∧ info.channelId.toNat = c.val then info.data.toList else []
    | _ => []
  | _ => []

/-- The payload an operation gets from `glb_popdata` on channel `c` of slot `i`. -/
def poppedBy (ctx : Glbctx cfg) (i : Fin cfg.connectionCount) (c : Fin cfg.channelCount) :
    Op cfg → List (List UInt8)
  | .popdata info =>
    match ctx.glbPopdata info with
    | some (.success, data, _) =>
      if info.con = some i ∧ info.channelId.toNat = c.val then [data] else []
    | _ => []
  | _ => []

/-- The payload of the DATA packet an operation takes on reliable channel `c` of slot `i`: it leads
there and is the one the channel waits for. -/
def takenBy (ctx : Glbctx cfg) (i : Fin cfg.connectionCount) (c : Fin cfg.channelCount) :
    Op cfg → List (List UInt8)
  | .packet pkg _ _ =>
    if pkg.header.ctrlFlags = ctrlFlagData ∧ pkg.Finds ctx i ∧ pkg.header.channelId.toNat = c.val ∧
        ∃ chs ∈ (ctx.connections i).channels, pkg.header.seq = (chs.chan c).ack then [pkg.data]
    else []
  | _ => []

/-- The packets a transition handed to the socket, with the given control flags. -/
def sentWith (flags : UInt8) (x : Transition cfg) : List Glbpkg :=
  ((x.2.2.sock.drop x.1.sock.length).map Datagram.pkg).filter
    fun p ↦ p.header.ctrlFlags = flags

/-- The DATA packets the timers of slot `i` transmit on channel `c`. -/
def transmittedOn (i : Fin cfg.connectionCount) (c : Fin cfg.channelCount)
    (x : Transition cfg) : List Glbpkg :=
  match x.2.1 with
  | .timers j _ =>
    if j = i then (sentWith ctrlFlagData x).filter fun p ↦ p.header.channelId.toNat = c.val else []
  | _ => []

/-- The DATA|ACKs a DATA packet for channel `c` of slot `i` is answered with. -/
def answeredOn (i : Fin cfg.connectionCount) (c : Fin cfg.channelCount) (x : Transition cfg) :
    List Glbpkg :=
  match x.2.1 with
  | .packet pkg _ _ =>
    if pkg.header.ctrlFlags = ctrlFlagData ∧ pkg.Finds x.1 i ∧
        pkg.header.channelId.toNat = c.val then sentWith ctrlFlagDataAck x else []
  | _ => []

end Glbctx

namespace Link

open Glbctx (HasChannel Run)

variable {cfgA cfgB : Glbcfg}

/-- A packet that an operation handles on channel `c` of slot `i` was sent by the other side: what
the network may deliver to the channel. -/
def Genuine {cfg : Glbcfg} (ctx : Glbctx cfg) (i : Fin cfg.connectionCount)
    (c : Fin cfg.channelCount) (flags : UInt8) (sent : List Glbpkg) : Op cfg → Prop
  | .packet pkg _ _ => pkg.header.ctrlFlags = flags → pkg.Finds ctx i →
      pkg.header.channelId.toNat = c.val → ∃ q ∈ sent, pkg.SameOnWire q
  | _ => True

instance {cfg : Glbcfg} (ctx : Glbctx cfg) (i : Fin cfg.connectionCount)
    (c : Fin cfg.channelCount) (flags : UInt8) (sent : List Glbpkg) :
    (op : Op cfg) → Decidable (Genuine ctx i c flags sent op)
  | .packet pkg _ _ => inferInstanceAs (Decidable (pkg.header.ctrlFlags = flags →
      pkg.Finds ctx i → pkg.header.channelId.toNat = c.val → ∃ q ∈ sent, pkg.SameOnWire q))
  | .connect _ | .close _ _ | .send _ _ | .pollevent | .popdata _ | .readError | .timers _ _ =>
    inferInstanceAs (Decidable True)

/-- One step of the link: either context takes a step that leaves its slot established, handling on
the channel only what the other side sent. -/
inductive Step (dir : Direction cfgA cfgB) (l : Link cfgA cfgB) :
    Op cfgA ⊕ Op cfgB → Link cfgA cfgB → Prop
  | sender {op : Op cfgA} {ctx : Glbctx cfgA} (hstep : Glbctx.Step l.sender op ctx)
      (hest : (ctx.connections dir.i).state = .established)
      (hnet : Genuine l.sender dir.i dir.c ctrlFlagDataAck l.acks op) :
      Step dir l (.inl op) { l with
        sender := ctx
        accepted := l.accepted ++ l.sender.acceptedBy dir.i dir.c op
        data := l.data ++ Glbctx.transmittedOn dir.i dir.c (l.sender, op, ctx) }
  | receiver {op : Op cfgB} {ctx : Glbctx cfgB} (hstep : Glbctx.Step l.receiver op ctx)
      (hest : (ctx.connections dir.j).state = .established)
      (hnet : Genuine l.receiver dir.j dir.d ctrlFlagData l.data op) :
      Step dir l (.inr op) { l with
        receiver := ctx
        popped := l.popped ++ l.receiver.poppedBy dir.j dir.d op
        acks := l.acks ++ Glbctx.answeredOn dir.j dir.d (l.receiver, op, ctx) }

/-- The step as a function. -/
def next (dir : Direction cfgA cfgB) (l : Link cfgA cfgB) :
    Op cfgA ⊕ Op cfgB → Option (Link cfgA cfgB)
  | .inl op => (l.sender.step op).bind fun ctx ↦
    if (ctx.connections dir.i).state = .established ∧
        Genuine l.sender dir.i dir.c ctrlFlagDataAck l.acks op then
      some { l with
        sender := ctx
        accepted := l.accepted ++ l.sender.acceptedBy dir.i dir.c op
        data := l.data ++ Glbctx.transmittedOn dir.i dir.c (l.sender, op, ctx) }
    else none
  | .inr op => (l.receiver.step op).bind fun ctx ↦
    if (ctx.connections dir.j).state = .established ∧
        Genuine l.receiver dir.j dir.d ctrlFlagData l.data op then
      some { l with
        receiver := ctx
        popped := l.popped ++ l.receiver.poppedBy dir.j dir.d op
        acks := l.acks ++ Glbctx.answeredOn dir.j dir.d (l.receiver, op, ctx) }
    else none

theorem step_of_next {dir : Direction cfgA cfgB} {l l' : Link cfgA cfgB} {lab : Op cfgA ⊕ Op cfgB}
    (h : l.next dir lab = some l') : Step dir l lab l' := by
  rcases lab with op | op
  all_goals
    obtain ⟨ctx, hstep, h⟩ := Option.bind_eq_some_iff.1 h
    split at h
    · next hcond =>
      cases h
      first
        | exact .sender hstep hcond.1 hcond.2
        | exact .receiver hstep hcond.1 hcond.2
    · cases h

/-- Where a link starts: two contexts with an established slot each, a reliable channel with empty
queues between them, and equal counters. -/
structure Start (dir : Direction cfgA cfgB) (s₀ : UInt32) (l : Link cfgA cfgB) : Prop where
  /-- The sending context is one a program can have. -/
  senderRun : ∃ ts, Run ts l.sender
  /-- So is the receiving one. -/
  receiverRun : ∃ ts, Run ts l.receiver
  /-- The sending slot is established. -/
  senderEst : (l.sender.connections dir.i).state = .established
  /-- The receiving slot is established. -/
  receiverEst : (l.receiver.connections dir.j).state = .established
  /-- The sender's channel is reliable and has nothing to send. -/
  sendChan : ∃ chan, l.sender.HasChannel dir.i dir.c chan ∧ chan.reliable = true ∧
    chan.sQueue.elems = [] ∧ chan.seq = s₀
  /-- The receiver's channel is reliable and has nothing to receive. -/
  recvChan : ∃ chan, l.receiver.HasChannel dir.j dir.d chan ∧ chan.reliable = true ∧
    chan.rQueue.elems = [] ∧ chan.ack = s₀
  /-- Nothing was accepted yet. -/
  accepted : l.accepted = []
  /-- Nothing was popped yet. -/
  popped : l.popped = []
  /-- No DATA is in flight. -/
  data : l.data = []
  /-- No DATA|ACK is in flight. -/
  acks : l.acks = []

/-- Both slots are established. -/
structure Up (dir : Direction cfgA cfgB) (l : Link cfgA cfgB) : Prop where
  /-- The sending slot is. -/
  sender : (l.sender.connections dir.i).state = .established
  /-- The receiving slot is. -/
  receiver : (l.receiver.connections dir.j).state = .established

theorem Start.up {dir : Direction cfgA cfgB} {s₀ : UInt32} {l : Link cfgA cfgB}
    (h : Start dir s₀ l) : Up dir l :=
  ⟨h.senderEst, h.receiverEst⟩

theorem Step.up {dir : Direction cfgA cfgB} {l l' : Link cfgA cfgB} {lab : Op cfgA ⊕ Op cfgB}
    (h : Step dir l lab l') (hup : Up dir l) : Up dir l' := by
  rcases h with ⟨-, hest, -⟩ | ⟨-, hest, -⟩
  · exact ⟨hest, hup.receiver⟩
  · exact ⟨hup.sender, hest⟩

/-- The sender's channel does its part of the protocol. -/
structure SendSide (dir : Direction cfgA cfgB) (s₀ : UInt32) (l : Link cfgA cfgB)
    (S : StopAndWait (List UInt8)) (chan : Glbchannel) : Prop where
  /-- It is the channel of the link. -/
  has : l.sender.HasChannel dir.i dir.c chan
  /-- It is reliable. -/
  reliable : chan.reliable = true
  /-- The counter is the number of the next message. -/
  seq : chan.seq = numbered s₀ S.accepted.length
  /-- The send queue holds the messages that are not done with. -/
  payloads : chan.sQueue.elems.map Glbpkg.data = S.accepted.drop S.base
  /-- They are numbered by their positions. -/
  numbers : ∀ k p, chan.sQueue.elems[k]? = some p → p.header.seq = numbered s₀ (S.base + k)

/-- The receiver's channel does its part of the protocol. -/
structure RecvSide (dir : Direction cfgA cfgB) (s₀ : UInt32) (l : Link cfgA cfgB)
    (S : StopAndWait (List UInt8)) (chan : Glbchannel) : Prop where
  /-- It is the channel of the link. -/
  has : l.receiver.HasChannel dir.j dir.d chan
  /-- It is reliable. -/
  reliable : chan.reliable = true
  /-- The counter is the number of the message it waits for. -/
  ack : chan.ack = numbered s₀ S.delivered.length

/-- The link implements a transfer that stands at `S`: a side whose slot is established does its
part, and what is in flight belongs to the transfer. -/
structure Tracks (dir : Direction cfgA cfgB) (s₀ : UInt32) (l : Link cfgA cfgB)
    (S : StopAndWait (List UInt8)) : Prop where
  /-- The transfer can stand there. -/
  reachable : S.Reachable
  /-- The same messages were accepted. -/
  accepted : S.accepted = l.accepted
  /-- The sender's send queues hold DATA packets for their own channel. -/
  tagged : l.sender.Tagged
  /-- The sender does its part. -/
  sendSide : (l.sender.connections dir.i).state = .established → ∃ chan, SendSide dir s₀ l S chan
  /-- The receiver does its part. -/
  recvSide : (l.receiver.connections dir.j).state = .established → ∃ chan, RecvSide dir s₀ l S chan
  /-- The DATA packets in flight carry messages that were sent, under their numbers. -/
  data : ∀ p ∈ l.data, ∃ k, (k, p.data) ∈ S.wire ∧ p.header.seq = numbered s₀ k
  /-- The DATA|ACKs in flight carry the numbers of acknowledged messages. -/
  acks : ∀ p ∈ l.acks, ∃ k ∈ S.acks, p.header.ack = numbered s₀ k

theorem tracks_start {dir : Direction cfgA cfgB} {s₀ : UInt32} {l : Link cfgA cfgB}
    (h : Start dir s₀ l) : Tracks dir s₀ l .start where
  reachable := .refl
  accepted := h.accepted.symm
  tagged := by
    obtain ⟨ts, hrun⟩ := h.senderRun
    exact Glbctx.tagged_of_run hrun
  sendSide := by
    intro _
    obtain ⟨chan, hchan, hrel, helems, hseq⟩ := h.sendChan
    refine ⟨chan, hchan, hrel, by rw [hseq]; exact (numbered_zero s₀).symm, ?_, ?_⟩
    · rw [helems]; rfl
    · intro k p hp
      rw [helems] at hp
      cases hp
  recvSide := by
    intro _
    obtain ⟨chan, hchan, hrel, -, hack⟩ := h.recvChan
    exact ⟨chan, hchan, hrel, by rw [hack]; exact (numbered_zero s₀).symm⟩
  data := by
    rw [h.data]
    intro p hp
    cases hp
  acks := by
    rw [h.acks]
    intro p hp
    cases hp

end Link

end Gilberta
