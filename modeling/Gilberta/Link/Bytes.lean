import Gilberta.Link.Delivery
import Gilberta.Wire.Outgoing

/-!
# A link over a network that damages payloads

The links so far handle packets. Here they handle datagrams: the network delivers bytes, the receive
loop reads them with `glbio_read` into memory that holds whatever it held before, and only what
passes the checks is handled. Of what it delivers to the channel the network may alter the payload,
by a short burst or in an odd number of bits, besides losing, duplicating, delaying and reordering.
The checksum does not cover the header, so headers are taken to arrive as they were sent.

`link_of_bytes` is the refinement: the operations performed in a run over bytes are a run of the
link, in which the datagrams that are rejected are lost. So messages are delivered exactly once, in
order and unaltered (`unaltered_in_order`). -/

namespace Gilberta

variable {cfg cfgA cfgB : Glbcfg}

/-- What a side does when packets arrive as bytes: any operation but handling a packet, or reading a
datagram. -/
inductive ByteOp (cfg : Glbcfg)
  | call (op : Op cfg)
  | datagram (b : Glbpkgbuf) (d : List UInt8) (from_ : Glbaddr) (now : ℕ) (env : Env)

/-- The operation a side performs; none when the datagram is rejected. -/
def ByteOp.op : ByteOp cfg → Option (Op cfg)
  | .call op => some op
  | .datagram b d from_ now env =>
    match b.readResult (.datagram d from_) now with
    | .packet pkg from_ => some (.packet pkg from_ env)
    | .empty | .error | .invalid => none

/-- An operation that handles no packet. -/
def Op.IsCall : Op cfg → Prop
  | .packet _ _ _ => False
  | _ => True

instance : (op : Op cfg) → Decidable op.IsCall
  | .packet _ _ _ => inferInstanceAs (Decidable False)
  | .connect _ | .close _ _ | .send _ _ | .pollevent | .popdata _ | .readError | .timers _ _ =>
    inferInstanceAs (Decidable True)

/-- The packet a datagram looks like. -/
def packetOf (d : List UInt8) : Glbpkg := ⟨Glbpkgheader.ofBytes d, datagramPayload d, 0, 0⟩

/-- What the network delivers to channel `c` of slot `i` with some control flags is one of the
packets `sent`, possibly with a damaged payload. -/
def ByteOp.Carried (ctx : Glbctx cfg) (i : Fin cfg.connectionCount) (c : Fin cfg.channelCount)
    (flags : UInt8) (sent : List Glbpkg) : ByteOp cfg → Prop
  | .call op => op.IsCall
  | .datagram _ d _ _ _ => (packetOf d).header.ctrlFlags = flags → (packetOf d).Finds ctx i →
      (packetOf d).header.channelId.toNat = c.val → ∃ p ∈ sent, p.ArrivesAs d

/-- A datagram that is accepted is handled with its own header, from where it came. -/
theorem packet_of_readResult {b : Glbpkgbuf} {d : List UInt8} {from_ from' : Glbaddr} {now : ℕ}
    {q : Glbpkg} (h : b.readResult (.datagram d from_) now = .packet q from') :
    q.header = (packetOf d).header := by
  rw [Glbpkgbuf.readResult] at h
  split at h
  · cases h
  · split at h
    · cases h
    · next hok =>
      obtain ⟨rfl, rfl⟩ := ReadResult.packet.inj h
      have hvalid := Glbpkgbuf.glbioRead_success_iff_valid.1 (not_not.1 hok)
      rw [Glbpkgbuf.glbioRead_of_success (not_not.1 hok)]
      exact Glbpkgbuf.header_overwrite b hvalid.header

/-- What passes the checks is a packet that was sent. -/
theorem ByteOp.genuine {ctx : Glbctx cfg} {i : Fin cfg.connectionCount} {c : Fin cfg.channelCount}
    {flags : UInt8} {sent : List Glbpkg} {bop : ByteOp cfg} {op : Op cfg}
    (hsent : ∀ p ∈ sent, p.Sent) (hnet : bop.Carried ctx i c flags sent) (hop : bop.op = some op) :
    Link.Genuine ctx i c flags sent op := by
  cases bop with
  | call op' =>
    obtain rfl := Option.some_inj.1 hop
    cases op' with
    | packet => exact hnet.elim
    | _ => trivial
  | datagram b d from_ now env =>
    rw [ByteOp.op] at hop
    split at hop
    · next q from' hread =>
      cases hop
      have hheader := packet_of_readResult hread
      intro hflags hfind hc
      rw [Glbpkg.Finds, hheader] at hfind
      rw [hheader] at hflags hc
      obtain ⟨p, hp, harrives⟩ := hnet hflags hfind hc
      obtain ⟨p', hproper, rfl⟩ := hsent p hp
      refine ⟨_, hp, ?_⟩
      rcases Glbpkg.readResult_of_arrivesAs hproper harrives b from_ now with
        hinvalid | ⟨q', h', hsame⟩
      · rw [hinvalid] at hread
        cases hread
      · rw [h'] at hread
        cases hread
        exact hsame
    · cases hop
    · cases hop
    · cases hop

namespace Link

variable {dir : Direction cfgA cfgB} {s₀ : UInt32} {l₀ l l' : Link cfgA cfgB}

/-- One step of a link over bytes. -/
inductive ByteStep (dir : Direction cfgA cfgB) (l : Link cfgA cfgB) :
    ByteOp cfgA ⊕ ByteOp cfgB → Link cfgA cfgB → Prop
  | sender {bop : ByteOp cfgA} {op : Op cfgA} {ctx : Glbctx cfgA} (hop : bop.op = some op)
      (hstep : Glbctx.Step l.sender op ctx) (hest : (ctx.connections dir.i).state = .established)
      (hnet : bop.Carried l.sender dir.i dir.c ctrlFlagDataAck l.acks) :
      ByteStep dir l (.inl bop) { l with
        sender := ctx
        accepted := l.accepted ++ l.sender.acceptedBy dir.i dir.c op
        data := l.data ++ Glbctx.transmittedOn dir.i dir.c (l.sender, op, ctx) }
  | receiver {bop : ByteOp cfgB} {op : Op cfgB} {ctx : Glbctx cfgB} (hop : bop.op = some op)
      (hstep : Glbctx.Step l.receiver op ctx) (hest : (ctx.connections dir.j).state = .established)
      (hnet : bop.Carried l.receiver dir.j dir.d ctrlFlagData l.data) :
      ByteStep dir l (.inr bop) { l with
        receiver := ctx
        popped := l.popped ++ l.receiver.poppedBy dir.j dir.d op
        acks := l.acks ++ Glbctx.answeredOn dir.j dir.d (l.receiver, op, ctx) }
  /-- The sender rejects a datagram. -/
  | senderRejects {bop : ByteOp cfgA} (hop : bop.op = none) : ByteStep dir l (.inl bop) l
  /-- The receiver rejects a datagram. -/
  | receiverRejects {bop : ByteOp cfgB} (hop : bop.op = none) : ByteStep dir l (.inr bop) l

/-- A message that is next on the channel finds room in the receive queue. -/
def ByteRoom (dir : Direction cfgA cfgB) (l : Link cfgA cfgB) :
    ByteOp cfgA ⊕ ByteOp cfgB → Prop
  | .inl _ => True
  | .inr bop => ∀ op, bop.op = some op → RoomFor dir l (.inr op)

/-- The contexts queue packets of the protocol, and what is in flight was sent by it. -/
structure Clean (l : Link cfgA cfgB) : Prop where
  /-- The sender's queues. -/
  sender : l.sender.QueuesProper
  /-- The receiver's queues. -/
  receiver : l.receiver.QueuesProper
  /-- The DATA packets in flight. -/
  data : ∀ p ∈ l.data, p.Sent
  /-- The DATA|ACKs in flight. -/
  acks : ∀ p ∈ l.acks, p.Sent

theorem Start.clean (h : Start dir s₀ l) : Clean l where
  sender := by
    obtain ⟨ts, hrun⟩ := h.senderRun
    exact Glbctx.queuesProper_of_run hrun
  receiver := by
    obtain ⟨ts, hrun⟩ := h.receiverRun
    exact Glbctx.queuesProper_of_run hrun
  data := by
    rw [h.data]
    intro p hp
    cases hp
  acks := by
    rw [h.acks]
    intro p hp
    cases hp

/-- What a side transmits on the channel was sent by the protocol. -/
theorem sent_of_transmittedOn {ctx ctx' : Glbctx cfg} {op : Op cfg} (hI : ctx.QueuesProper)
    (h : Glbctx.Step ctx op ctx') {i : Fin cfg.connectionCount} {c : Fin cfg.channelCount} :
    ∀ p ∈ Glbctx.transmittedOn i c (ctx, op, ctx'), p.Sent := by
  intro p hp
  cases op with
  | timers j env =>
    rw [Glbctx.transmittedOn] at hp
    dsimp only at hp
    split at hp
    · obtain ⟨-, d, hd, rfl⟩ := Glbctx.mem_sentWith h (List.mem_of_mem_filter hp)
      exact Glbctx.sent_of_emitted hI hd
    · cases hp
  | _ => cases hp

/-- So was what it answers with. -/
theorem sent_of_answeredOn {ctx ctx' : Glbctx cfg} {op : Op cfg} (hI : ctx.QueuesProper)
    (h : Glbctx.Step ctx op ctx') {i : Fin cfg.connectionCount} {c : Fin cfg.channelCount} :
    ∀ p ∈ Glbctx.answeredOn i c (ctx, op, ctx'), p.Sent := by
  intro p hp
  cases op with
  | packet pkg from_ env =>
    rw [Glbctx.answeredOn] at hp
    dsimp only at hp
    split at hp
    · obtain ⟨-, d, hd, rfl⟩ := Glbctx.mem_sentWith h hp
      exact Glbctx.sent_of_emitted hI hd
    · cases hp
  | _ => cases hp

theorem Clean.step {lab : Op cfgA ⊕ Op cfgB} (h : Clean l) (hstep : Step dir l lab l') :
    Clean l' := by
  rcases hstep with ⟨hstep, -, -⟩ | ⟨hstep, -, -⟩
  · refine ⟨Glbctx.queuesProper_step h.sender hstep, h.receiver, fun p hp ↦ ?_, h.acks⟩
    exact (List.mem_append.1 hp).elim (h.data p) (sent_of_transmittedOn h.sender hstep p)
  · refine ⟨h.sender, Glbctx.queuesProper_step h.receiver hstep, h.data, fun p hp ↦ ?_⟩
    exact (List.mem_append.1 hp).elim (h.acks p) (sent_of_answeredOn h.receiver hstep p)

/-! ### The refinement -/

variable {ts : List (Link cfgA cfgB × (ByteOp cfgA ⊕ ByteOp cfgB) × Link cfgA cfgB)}
  {lab : ByteOp cfgA ⊕ ByteOp cfgB}

/-- What a side performs, as a label of the link; nothing when it rejects a datagram. -/
def performed (lab : ByteOp cfgA ⊕ ByteOp cfgB) : Option (Op cfgA ⊕ Op cfgB) :=
  lab.elim (fun bop ↦ bop.op.map .inl) fun bop ↦ bop.op.map .inr

/-- The transitions of a run over bytes in which something is performed, as transitions of the
link. -/
def performedSteps (ts : List (Link cfgA cfgB × (ByteOp cfgA ⊕ ByteOp cfgB) × Link cfgA cfgB)) :
    List (Link cfgA cfgB × (Op cfgA ⊕ Op cfgB) × Link cfgA cfgB) :=
  ts.filterMap fun x ↦ (performed x.2.1).map fun lab ↦ (x.1, lab, x.2.2)

/-- A step over bytes that performs something is a step of the link. -/
theorem ByteStep.step (h : ByteStep dir l lab l') (hclean : Clean l) {lab' : Op cfgA ⊕ Op cfgB}
    (hlab : performed lab = some lab') : Step dir l lab' l' := by
  cases h with
  | sender hop hstep hest hnet =>
    obtain rfl : Sum.inl _ = lab' := by simpa [performed, hop] using hlab
    exact .sender hstep hest (ByteOp.genuine hclean.acks hnet hop)
  | receiver hop hstep hest hnet =>
    obtain rfl : Sum.inr _ = lab' := by simpa [performed, hop] using hlab
    exact .receiver hstep hest (ByteOp.genuine hclean.data hnet hop)
  | senderRejects hop => simp [performed, hop] at hlab
  | receiverRejects hop => simp [performed, hop] at hlab

/-- A step over bytes that performs nothing changes nothing. -/
theorem ByteStep.eq_of_rejected (h : ByteStep dir l lab l') (hlab : performed lab = none) :
    l' = l := by
  cases h with
  | sender hop => simp [performed, hop] at hlab
  | receiver hop => simp [performed, hop] at hlab
  | senderRejects | receiverRejects => rfl

theorem ByteStep.clean (h : ByteStep dir l lab l') (hclean : Clean l) : Clean l' := by
  rcases hlab : performed lab with - | lab'
  · rwa [h.eq_of_rejected hlab]
  · exact hclean.step (h.step hclean hlab)

/-- **A link over bytes refines the link over packets.** What is performed in a run over bytes is a
run of the link: what is damaged is lost. -/
theorem link_of_bytes (h₀ : Start dir s₀ l₀) (hrun : Execution (ByteStep dir) l₀ ts l) :
    Execution (Step dir) l₀ (performedSteps ts) l := by
  have hclean := (hrun.invariant_of_state (I := Clean) (C := fun _ ↦ True)
    (fun _ _ _ hI hstep _ ↦ hstep.clean hI) h₀.clean fun _ _ ↦ trivial).2
  exact hrun.filterMap (fun x hx _ hlab ↦ (hclean x hx).2.1.step (hclean x hx).1 hlab)
    fun _ _ _ hstep hlab ↦ hstep.eq_of_rejected hlab

/-- The link has the room the run over bytes has. -/
theorem roomFor_of_bytes (hroom : ∀ x ∈ ts, ByteRoom dir x.1 x.2.1) :
    ∀ y ∈ performedSteps ts, RoomFor dir y.1 y.2.1 := by
  intro y hy
  obtain ⟨⟨l, lab, l'⟩, hx, hy⟩ := List.mem_filterMap.1 hy
  obtain ⟨lab', hlab, rfl⟩ := Option.map_eq_some_iff.1 hy
  have hx := hroom _ hx
  cases lab with
  | inl bop =>
    obtain ⟨op, -, rfl⟩ := Option.map_eq_some_iff.1 hlab
    trivial
  | inr bop =>
    obtain ⟨op, hop, rfl⟩ := Option.map_eq_some_iff.1 hlab
    exact hx op hop

/-- **Exactly once, in order and unaltered, over a network that damages payloads.** What is
performed in a run of a link over bytes is a run of the link over packets, in which the datagrams
that are rejected are lost. If fewer than `2 ^ 32` messages are accepted and a message that is next
finds room, what was popped followed by what waits in the receive queue are the first `n` accepted
payloads, byte for byte, and the send queue holds the accepted payloads from the `k`-th on, with `k
≤ n ≤ k + 1`. -/
theorem unaltered_in_order (h₀ : Start dir s₀ l₀) (hrun : Execution (ByteStep dir) l₀ ts l)
    (hfew : l.accepted.length < 2 ^ 32) (hroom : ∀ x ∈ ts, ByteRoom dir x.1 x.2.1) :
    Execution (Step dir) l₀ (performedSteps ts) l ∧
    ∃ schan rchan n k, l.sender.HasChannel dir.i dir.c schan ∧
      l.receiver.HasChannel dir.j dir.d rchan ∧
      l.popped ++ rchan.rQueue.elems.map Glbpkg.data = l.accepted.take n ∧
      schan.sQueue.elems.map Glbpkg.data = l.accepted.drop k ∧
      k ≤ n ∧ n ≤ k + 1 ∧ n ≤ l.accepted.length := by
  have hlink := link_of_bytes h₀ hrun
  obtain ⟨S, hS, hstored⟩ := exists_stored h₀ hlink hfew (roomFor_of_bytes hroom)
  have hup := h₀.up_run hlink
  obtain ⟨schan, hsend⟩ := hS.sendSide hup.sender
  obtain ⟨rchan, hrecv⟩ := hS.recvSide hup.receiver
  have hI : S.Inv := hS.reachable.inv
  refine ⟨hlink, schan, rchan, S.delivered.length, S.base, hsend.has, hrecv.has, ?_, ?_, hI.base_le,
    hI.le_base, ?_⟩
  · rw [hstored rchan hrecv.has, ← hS.accepted]
    exact hI.delivered_eq
  · rw [hsend.payloads, hS.accepted]
  · rw [← hS.accepted]
    exact hI.delivered.length_le

/-! ### One damaged datagram -/

/-- The bytes of the first message of the sample. -/
def sampleBytes : List UInt8 := (sampleData 1 0xFFFFFFFF).bytes

/-- They arrive with two bits of the payload flipped, and are read into memory that holds another
packet. -/
def sampleDamaged : ByteOp Glbcfg.sampleServer :=
  .datagram Glbpkgbuf.sample (sampleBytes.take 24 ++ [2]) .samplePeer 6 (Env.at 6)

/-- They arrive as they were sent. -/
def sampleIntact : ByteOp Glbcfg.sampleServer :=
  .datagram Glbpkgbuf.sample sampleBytes .samplePeer 7 (Env.at 7)

/-- A call is the same over bytes. -/
theorem byteStep_of_step {op : Op cfgA} (h : Step dir l (.inl op) l') (hop : op.IsCall) :
    ByteStep dir l (.inl (.call op)) l' := by
  cases h with
  | sender hstep hest => exact .sender rfl hstep hest hop

/-- The damaged datagram is rejected and the message is taken from the next one. -/
theorem unaltered_in_order_sample : ∃ (l₀ l : Link edgeClient Glbcfg.sampleServer) (ts : List _),
    Start sampleDirection 0xFFFFFFFF l₀ ∧ Execution (ByteStep sampleDirection) l₀ ts l ∧
    (∃ x ∈ ts, x.2.1 = .inr sampleDamaged) ∧ l.accepted = [[1]] ∧
    ∃ rchan n, l.receiver.HasChannel sampleDirection.j sampleDirection.d rchan ∧
      l.popped ++ rchan.rQueue.elems.map Glbpkg.data = l.accepted.take n := by
  obtain ⟨l₀, hl₀, h₀⟩ := exists_start_sampleLink
  have hsteps : (sampleLink.bind fun l₀ ↦ (l₀.next sampleDirection (.inl (sampleSend 1 4))).bind
      fun l₁ ↦ (l₁.next sampleDirection (.inl (.timers ⟨0, Nat.one_pos⟩ (Env.at 5)))).bind fun l₂ ↦
      sampleIntact.op.bind fun op ↦ (l₂.receiver.step op).map fun ctx ↦
        (l₂.accepted, decide ((ctx.connections sampleDirection.j).state = .established ∧
          (∃ p ∈ l₂.data, p.bytes = sampleBytes) ∧ RoomFor sampleDirection l₂ (.inr op)))) =
      some ([[1]], true) := by decide +kernel
  rw [hl₀, Option.bind_some] at hsteps
  obtain ⟨l₁, hsend, hsteps⟩ := Option.bind_eq_some_iff.1 hsteps
  obtain ⟨l₂, htimers, hsteps⟩ := Option.bind_eq_some_iff.1 hsteps
  obtain ⟨op, hop, hsteps⟩ := Option.bind_eq_some_iff.1 hsteps
  obtain ⟨ctx, hstep, hend⟩ := Option.map_eq_some_iff.1 hsteps
  obtain ⟨haccepted, hend⟩ := Prod.mk.inj hend
  obtain ⟨hest, ⟨p, hp, hbytes⟩, hroom⟩ := of_decide_eq_true hend
  have hrejected : sampleDamaged.op = none := by decide +kernel
  have hreads := @ByteStep.receiver _ _ sampleDirection l₂ sampleIntact op ctx hop hstep hest
    fun _ _ _ ↦ ⟨p, hp, hbytes ▸ .intact⟩
  have hrun := (((Execution.nil.snoc (byteStep_of_step (step_of_next hsend) trivial)).snoc
    (byteStep_of_step (step_of_next htimers) trivial)).snoc
      (.receiverRejects hrejected)).snoc hreads
  obtain ⟨-, -, rchan, n, -, -, hrecv, hpopped, -⟩ := unaltered_in_order h₀ hrun
    (Nat.lt_of_le_of_lt (Nat.le_of_eq (congrArg List.length haccepted)) (by decide)) (by
      simp only [List.nil_append, List.cons_append, List.forall_mem_cons]
      refine ⟨trivial, trivial, fun op' h ↦ ?_, fun op' h ↦ ?_, by simp⟩
      · rw [hrejected] at h
        cases h
      · rwa [← Option.some_inj.1 (hop.symm.trans h)])
  exact ⟨l₀, _, _, h₀, hrun, ⟨(l₂, .inr sampleDamaged, l₂), by simp, rfl⟩, haccepted, rchan, n,
    hrecv, hpopped⟩

end Link

end Gilberta
