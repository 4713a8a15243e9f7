import Gilberta.Session.Parties
import Gilberta.Traffic.Isolation
import Gilberta.Traffic.SendQueues

/-!
# Where messages come from

Among contexts that run this library and a network that forges nothing, no message comes out of thin
air (`message_has_origin`): what `glb_popdata` hands out on an open connection was accepted by
`glb_send` before, with the same bytes, on the same channel number, and on a connection with the
same id. This holds for reliable and for unreliable channels, for any number of clients and servers,
and although a slot serves one connection after the other: a packet of an old connection that is
still under way shows up in the connection that has the slot now only if both have the same id. -/

namespace Gilberta

/-- A message, as the application that sends it sees it. -/
structure Message where
  /-- The id of the connection. -/
  connId : Glbconid
  /-- The number of the channel. -/
  channelId : UInt8
  /-- The bytes. -/
  data : List UInt8
  deriving DecidableEq, Repr

/-- The message a packet carries. -/
def Glbpkg.message (p : Glbpkg) : Message := ⟨p.conId, p.header.channelId, p.data⟩

theorem Glbpkg.SameOnWire.message {p q : Glbpkg} (h : p.SameOnWire q) : p.message = q.message := by
  rw [Glbpkg.message, Glbpkg.message, Glbpkg.conId, Glbpkg.conId, h.1, h.2]

variable {cfg : Glbcfg}

/-- The message an operation accepts from its application. -/
def Op.sends (ctx : Glbctx cfg) : Op cfg → List Message
  | .send info now =>
    match ctx.glbSend info now, info.con, info.data with
    | some (.success, _), some i, some data =>
      [⟨(ctx.connections i).connId, info.channelId, data⟩]
    | _, _, _ => []
  | .connect _ | .close _ _ | .packet _ _ _ | .pollevent | .popdata _ | .readError
  | .timers _ _ => []

/-- A DATA datagram carries a message that was accepted. -/
def Datagram.Genuine (h : List Message) (d : Datagram) : Prop :=
  d.pkg.header.ctrlFlags = ctrlFlagData → d.pkg.message ∈ h

namespace Glbctx

/-- Every queue holds only messages that were accepted. -/
structure HoldsGenuine (h : List Message) (ctx : Glbctx cfg) : Prop where
  /-- Send queues do. -/
  sQueue : ∀ i c chan, ctx.HasChannel i c chan → ∀ p ∈ chan.sQueue.elems, p.message ∈ h
  /-- Receive queues do, and these messages are for their channel. -/
  rQueue : ∀ i c chan, ctx.HasChannel i c chan → ∀ p ∈ chan.rQueue.elems,
    p.message ∈ h ∧ p.header.channelId.toNat = c.val
  /-- What waits on an open slot is for the connection the slot has. -/
  connId : ∀ i c chan, ctx.HasChannel i c chan → ctx.IsOpen i → ∀ p ∈ chan.rQueue.elems,
    p.conId = (ctx.connections i).connId

variable {ctx ctx' : Glbctx cfg} {op : Op cfg} {i : Fin cfg.connectionCount}
  {c : Fin cfg.channelCount} {chan chan' : Glbchannel} {h : List Message}

@[simp] theorem message_retransmitted (p : Glbpkg) (now : ℕ) :
    (retransmitted p now).message = p.message := rfl

@[simp] theorem message_sendPkg (connId : Glbconid) (chan : Glbchannel) (channelId : UInt8)
    (data : List UInt8) (now : ℕ) :
    (sendPkg connId chan channelId data now).message = ⟨connId, channelId, data⟩ := rfl

theorem holdsGenuine_init : HoldsGenuine h (init cfg) where
  sQueue := by rintro i c chan ⟨chs, hchs, -⟩; cases hchs
  rQueue := by rintro i c chan ⟨chs, hchs, -⟩; cases hchs
  connId := by rintro i c chan ⟨chs, hchs, -⟩; cases hchs

theorem HoldsGenuine.mono {h' : List Message} (hI : HoldsGenuine h ctx) (hsub : h ⊆ h') :
    HoldsGenuine h' ctx where
  sQueue i c chan hchan p hp := hsub (hI.sQueue i c chan hchan p hp)
  rQueue i c chan hchan p hp := (hI.rQueue i c chan hchan p hp).imp_left (hsub ·)
  connId := hI.connId

/-- What a step adds to a send queue is a message it accepts. -/
theorem mem_sends_of_queued {info : Glbsendinfo cfg.connectionCount} {now : ℕ} {data : List UInt8}
    (hsent : ctx.glbSend info now = some (.success, ctx')) (hcon : info.con = some i)
    (hdata : info.data = some data) :
    ⟨(ctx.connections i).connId, info.channelId, data⟩ ∈ (Op.send info now).sends ctx := by
  rw [Op.sends, hsent, hcon, hdata]
  exact List.mem_singleton_self _

theorem message_of_sendChange (hI : HoldsGenuine h ctx) (hstep : Step ctx op ctx')
    (hchan : ctx.HasChannel i c chan) (hchan' : ctx'.HasChannel i c chan')
    (hsend : SendChange ctx i c chan op chan'.sendSide) :
    ∀ p ∈ chan'.sQueue.elems, p.message ∈ h ++ op.sends ctx := by
  intro p hp
  have hold := fun {chan} hchan {q} hq ↦
    List.mem_append_left (op.sends ctx) (hI.sQueue i c chan hchan q hq)
  generalize hside : chan'.sendSide = side at hsend
  cases hsend with
  | same =>
    obtain ⟨hq, -⟩ := Glbchannel.sendSide_eq_iff.1 hside
    exact hold hchan (hq ▸ hp)
  | @queued info now data hcon hdata _ hroom =>
    obtain ⟨hq, -⟩ := Glbchannel.sendSide_eq_iff.1 hside
    obtain ⟨⟨code, ctx₁⟩, hsent, rfl⟩ := Option.map_eq_some_iff.1 hstep
    by_cases hcode : code = .success
    · subst hcode
      rw [hq, elems_queuedChan hroom] at hp
      rcases List.mem_append.1 hp with hp | hp
      · exact hold hchan hp
      · rw [List.mem_singleton.1 hp, message_sendPkg]
        exact List.mem_append_right _ (mem_sends_of_queued hsent hcon hdata)
    · -- a refused message is not queued
      have hsame : ctx.HasChannel i c chan' := by
        rwa [HasChannel, connections_of_failure hsent hcode] at hchan'
      exact hold hsame hp
  | acked =>
    obtain ⟨hq, -⟩ := Glbchannel.sendSide_eq_iff.1 hside
    rw [hq, Glbqueue.toBoundedQueue_pop, BoundedQueue.elems_drop] at hp
    exact hold hchan (List.mem_of_mem_tail hp)
  | transmitted htrans =>
    obtain ⟨hq, -⟩ := Glbchannel.sendSide_eq_iff.1 hside
    rw [hq] at hp
    obtain ⟨q, hmem, rfl | ⟨now, rfl⟩⟩ := mem_of_transmitted htrans hp
    · exact hold hchan hmem
    · rw [message_retransmitted]
      exact hold hchan hmem

/-- A packet that waits after a step waited before, or the step has taken it from the network for
this channel of this connection. -/
theorem message_of_recvChange (hrecv : RecvChange ctx i c chan op chan'.recvSide)
    (htakes : op.Takes (Datagram.Genuine h)) :
    ∀ p ∈ chan'.rQueue.elems, p ∈ chan.rQueue.elems ∨ p.message ∈ h ∧
      p.header.channelId.toNat = c.val ∧ p.conId = (ctx.connections i).connId := by
  intro p hp
  generalize hside : chan'.recvSide = side at hrecv
  cases hrecv with
  | same =>
    obtain ⟨hq, -⟩ := Glbchannel.recvSide_eq_iff.1 hside
    exact Or.inl (hq ▸ hp)
  | popped =>
    obtain ⟨hq, -⟩ := Glbchannel.recvSide_eq_iff.1 hside
    rw [hq, Glbqueue.toBoundedQueue_pop, BoundedQueue.elems_drop] at hp
    exact Or.inl (List.mem_of_mem_tail hp)
  | @accepted pkg from_ env chs hflags hreach =>
    obtain ⟨hq, -⟩ := Glbchannel.recvSide_eq_iff.1 hside
    obtain ⟨d, hd, hsame⟩ := htakes
    rw [hq, Glbqueue.toBoundedQueue_push, BoundedQueue.elems_offer] at hp
    split at hp
    · exact Or.inl hp
    rcases List.mem_append.1 hp with hp | hp
    · exact Or.inl hp
    · rw [List.mem_singleton.1 hp]
      refine Or.inr ⟨?_, hreach.channel, (conId_of_finds hreach.finds).symm⟩
      rw [hsame.message]
      exact hd (hsame.1 ▸ hflags)

/-- A step that takes genuine datagrams leaves only genuine messages in the queues. -/
theorem HoldsGenuine.step (hI : HoldsGenuine h ctx) (hstep : Step ctx op ctx')
    (hallowed : op.Allowed ctx) (htakes : op.Takes (Datagram.Genuine h)) :
    HoldsGenuine (h ++ op.sends ctx) ctx' := by
  refine ⟨fun i c chan' hchan' p hp ↦ ?_, fun i c chan' hchan' p hp ↦ ?_,
    fun i c chan' hchan' hopen p hp ↦ ?_⟩
  · rcases step_channel hstep hchan' with ⟨ack, -, hopened⟩ | ⟨chan, hchan, -, hsend⟩
    · rw [hopened.sQueue.elems] at hp
      cases hp
    · exact message_of_sendChange hI hstep hchan hchan' hsend p hp
  · rcases step_channel hstep hchan' with ⟨ack, -, hopened⟩ | ⟨chan, hchan, hrecv, -⟩
    · rw [hopened.rQueue.elems] at hp
      cases hp
    · rcases message_of_recvChange hrecv htakes p hp with hold | ⟨hmem, hc, -⟩
      · exact (hI.rQueue i c chan hchan p hold).imp_left (List.mem_append_left _ ·)
      · exact ⟨List.mem_append_left _ hmem, hc⟩
  · rcases isOpen_step hstep hopen with ⟨hopen, hid⟩ | hnew
    swap
    · obtain ⟨config, seq, ack, hopened⟩ := hnew c chan' hchan'
      rw [hopened.rQueue.elems] at hp
      cases hp
    rw [hid hallowed]
    rcases step_channel hstep hchan' with ⟨ack, -, hopened⟩ | ⟨chan, hchan, hrecv, -⟩
    · rw [hopened.rQueue.elems] at hp
      cases hp
    · rcases message_of_recvChange hrecv htakes p hp with hold | ⟨-, -, hid⟩
      · exact hI.connId i c chan hchan hopen p hold
      · exact hid

/-- DATA packets carry messages from the send queues. -/
theorem HoldsGenuine.emits (hI : HoldsGenuine h ctx) (hstep : Step ctx op ctx') :
    Emits (Datagram.Genuine h) ctx ctx' := by
  refine (step_emits hstep).mono fun d hd hflags ↦ ?_
  obtain ⟨i, env, c, -, -, chs, head, rest, hchs, hhead, rfl⟩ := emitted_data hd hflags
  exact hI.sQueue i c _ ⟨chs, hchs, rfl⟩ head (by rw [hhead]; exact List.mem_cons_self)

/-- What `glb_popdata` hands out on an open slot was accepted on a connection with this id. -/
theorem HoldsGenuine.popdata {info : Glbrecvinfo cfg.connectionCount} {data : List UInt8}
    (hI : HoldsGenuine h ctx) (hpop : ctx.glbPopdata info = some (.success, data, ctx'))
    (hcon : info.con = some i) (hopen : ctx.IsOpen i) :
    ⟨(ctx.connections i).connId, info.channelId, data⟩ ∈ h := by
  generalize hcode : GLBErrorCode.success = code at hpop
  cases glbPopdata_effect hpop with
  | failed hne => exact absurd hcode.symm hne
  | @popped j c chs pkg rest hj hc hchs hhead =>
    obtain rfl : i = j := Option.some_inj.1 (hcon.symm.trans hj)
    have hmem : pkg ∈ (chs.chan c).rQueue.elems := by rw [hhead]; exact List.mem_cons_self
    obtain ⟨hmessage, hchannel⟩ := hI.rQueue i c _ ⟨chs, hchs, rfl⟩ pkg hmem
    rw [Glbpkg.message, hI.connId i c _ ⟨chs, hchs, rfl⟩ hopen pkg hmem,
      UInt8.toNat_inj.1 (hchannel.trans hc.symm)] at hmessage
    exact hmessage

end Glbctx

namespace Parties

variable {ι : Type*} [DecidableEq ι] {cfg : ι → Glbcfg} {ts us : List (Transition cfg)}
  {s : Parties cfg}

/-- All messages that were accepted in a run, by any context. -/
def messages (ts : List (Transition cfg)) : List Message :=
  Network.history (fun _ ctx op _ ↦ op.sends ctx) ts

omit [DecidableEq ι] in
theorem messages_inductive : Network.Inductive
    (fun k (ctx : Glbctx (cfg k)) op ctx' ↦ Glbctx.Step ctx op ctx' ∧ op.Allowed ctx)
    (fun _ ctx ↦ ctx.sock) (fun _ op P ↦ op.Takes P) (fun _ ctx op _ ↦ op.sends ctx)
    (fun _ h ctx ↦ Glbctx.HoldsGenuine h ctx) Datagram.Genuine where
  state_mono _ _ _ _ hI := hI.mono (List.subset_append_left _ _)
  message_mono _ _ _ hd hflags := List.mem_append_left _ (hd hflags)
  carried_mono _ _ _ _ hPQ htakes := htakes.mono hPQ
  state_step _ _ _ _ _ hI hstep htakes := hI.step hstep.1 hstep.2 htakes
  message_step _ _ _ _ _ hI hstep _ d hd := by
    obtain ⟨ds, hsock, hds⟩ := hI.emits hstep.1
    rw [hsock] at hd
    exact (List.mem_append.1 hd).imp_right fun hmem hflags ↦
      List.mem_append_left _ (hds d hmem hflags)

/-- **No message comes out of thin air.** In every run of any number of contexts over a network that
forges nothing, whatever is lost, duplicated, delayed or misdirected: a message that `glb_popdata`
hands out on an open slot was accepted by `glb_send` of some context before, for a connection with
the id the slot has and for the same channel, with exactly these bytes. -/
theorem message_has_origin (hrun : Execution Step (init cfg) ts s) {k : ι}
    {info : Glbrecvinfo (cfg k).connectionCount} {i : Fin (cfg k).connectionCount}
    {data : List UInt8} {ctx' : Glbctx (cfg k)}
    (hpop : (s k).glbPopdata info = some (.success, data, ctx')) (hcon : info.con = some i)
    (hopen : (s k).IsOpen i) :
    ⟨((s k).connections i).connId, info.channelId, data⟩ ∈ messages ts :=
  (Network.invariant messages_inductive hrun fun _ ↦
    ⟨Glbctx.holdsGenuine_init, fun d hd ↦ by cases hd⟩ : ∀ k, _) k |>.1.popdata hpop hcon hopen

/-- The client sends a message of one byte, which the server takes from the network. -/
def connectAndDeliver : List (Σ k, Op (clientAndServer k)) :=
  opening ++ [⟨false, .send ⟨some [7], some ⟨0, Nat.one_pos⟩, 0⟩ 7⟩,
    ⟨false, .timers ⟨0, Nat.one_pos⟩ (Env.at 8)⟩,
    ⟨true, .packet { (Glbpkg.sampleData ⟨1, 0⟩ 0).withSeqAck 0xA5A5A5A5 0xA5A5A5A5 with
      data := [7] }.seal .samplePeer (Env.at 9)⟩]

/-- The application of the server asks for a message. -/
def askServer : Glbrecvinfo Glbcfg.sampleServer.connectionCount :=
  ⟨true, some ⟨0, Nat.two_pos⟩, 8, 0⟩

/-- It gets the message of the client. -/
theorem message_has_origin_delivered :
    ∃ (ts : List (Transition clientAndServer)) (s : _) (ctx' : _),
    Execution Step (init clientAndServer) ts s ∧
    (s true).glbPopdata askServer = some (.success, [7], ctx') ∧
    ⟨((s true).connections ⟨0, Nat.two_pos⟩).connId, 0, [7]⟩ ∈ messages ts := by
  have hend : (Execution.perform next connectAndDeliver (init _)).bind (fun r ↦
      ((r.2 true).glbPopdata askServer).map fun x ↦
        (x.1, x.2.1, ((r.2 true).connections ⟨0, Nat.two_pos⟩).state)) =
      some (.success, [7], .established) := by decide +kernel
  obtain ⟨r, hr, hend⟩ := Option.bind_eq_some_iff.1 hend
  obtain ⟨⟨code, data, ctx'⟩, hpop, hend⟩ := Option.map_eq_some_iff.1 hend
  obtain ⟨rfl, rfl, hest⟩ : code = .success ∧ data = [7] ∧ _ := by simpa using hend
  have hrun : Execution Step (init clientAndServer) r.1 r.2 :=
    (Execution.nil.append_perform hr).mono fun _ _ _ ↦ step_of_next
  exact ⟨r.1, r.2, ctx', hrun, hpop, message_has_origin hrun hpop rfl (Or.inl hest)⟩

end Parties

end Gilberta
