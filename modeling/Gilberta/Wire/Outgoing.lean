import Gilberta.Traffic.SendQueues
import Gilberta.Wire.Checksum

/-!
# What a context puts on the wire

The rest of the model hands packets to the socket; the source hands over the bytes of their memory.
`Glbpkg.bytes` are these bytes, and `sent_valid` says what becomes of them: in every run, every
datagram a context sends is one that `glbio_read` accepts, on any host and into any memory, and what
it then hands to the receive loop is the packet that was sent. So nothing a context sends is lost to
the checks of its peer.

`readResult_of_arrivesAs` extends this to a network that damages payloads: a datagram that arrives
with a burst of up to 16 altered bits, or with an odd number of them, is rejected and never taken
for another packet. -/

namespace Gilberta

variable {cfg : Glbcfg}

/-! ### Packets of the protocol -/

namespace Glbpkg

/-- A packet as the library makes them. -/
structure Proper (p : Glbpkg) : Prop where
  /-- The magic number is right. -/
  magic : p.header.magic = gilbertaProtoMagic
  /-- The version is right. -/
  version : p.header.version = gilbertaProtoVersion
  /-- The header says how long the payload is. -/
  payloadLen : p.header.payloadLen.toNat = p.data.length
  /-- The payload fits. -/
  mtu : p.data.length ≤ gilbertaMtu

/-- A packet as `glbio_send` hands it over. -/
def Sent (q : Glbpkg) : Prop := ∃ p : Glbpkg, p.Proper ∧ q = p.seal

/-- The bytes of a packet: its header and its payload. -/
def bytes (p : Glbpkg) : List UInt8 := p.header.bytes ++ p.data

/-- A packet in memory, with zeros behind its payload. -/
def buf (p : Glbpkg) (h : p.Proper) : Glbpkgbuf where
  header := p.header
  data := p.data ++ List.replicate (gilbertaMtu - p.data.length) 0
  timestamp := 0
  retransmitCount := 0
  length_data := by
    rw [List.length_append, List.length_replicate]
    exact Nat.add_sub_cancel' h.mtu

variable {p q : Glbpkg}

theorem payload_buf (h : p.Proper) : (p.buf h).payload = p.data := by
  show (p.data ++ _).take p.header.payloadLen.toNat = _
  rw [h.payloadLen, List.take_left']
  rfl

theorem payloadLen_buf_le (h : p.Proper) : (p.buf h).header.payloadLen.toNat ≤ gilbertaMtu := by
  show p.header.payloadLen.toNat ≤ _
  rw [h.payloadLen]
  exact h.mtu

theorem seal_buf (h : p.Proper) : (p.buf h).pkg.seal.header = p.seal.header := by
  show { p.header with checksum := crc16ModbusFast (p.buf h).payload } = _
  rw [payload_buf]
  rfl

/-- What is handed to `sendto` are the bytes of the sealed packet. -/
theorem snd_glbioSend_buf (h : p.Proper) : (p.buf h).glbioSend.2 = p.seal.bytes := by
  rw [Glbpkgbuf.snd_glbioSend (payloadLen_buf_le h), seal_buf, payload_buf]
  rfl

/-- The bytes of a sealed packet are a valid datagram with its header and its payload. -/
theorem validDatagram_bytes (h : p.Proper) : ValidDatagram p.seal.bytes ∧
    Glbpkgheader.ofBytes p.seal.bytes = p.seal.header ∧ datagramPayload p.seal.bytes = p.data := by
  obtain ⟨hvalid, hheader, hdata, -⟩ :=
    Glbpkgbuf.validDatagram_glbioSend h.magic h.version (payloadLen_buf_le h)
  rw [snd_glbioSend_buf] at hvalid hheader hdata
  rw [seal_buf] at hheader
  refine ⟨hvalid, hheader, ?_⟩
  rw [datagramPayload, hheader]
  exact hdata.trans (payload_buf h)

/-- A sealed packet arrives as it was sent. -/
theorem readResult_bytes (h : p.Proper) (b : Glbpkgbuf) (from_ : Glbaddr) (now : ℕ) :
    ∃ q, b.readResult (.datagram p.seal.bytes from_) now = .packet q from_ ∧
      q.SameOnWire p.seal := by
  obtain ⟨q, hread, hheader, hdata⟩ :=
    Glbpkgbuf.readResult_of_seal b from_ now h.magic h.version (payloadLen_buf_le h)
  rw [snd_glbioSend_buf] at hread
  exact ⟨q, hread, hheader.trans (seal_buf h), hdata.trans (payload_buf h)⟩

/-! ### Damage -/

/-- The ways in which the network delivers a packet: as it was sent, or with an error in its payload
that is short or odd. -/
inductive ArrivesAs (p : Glbpkg) : List UInt8 → Prop
  | intact : ArrivesAs p p.bytes
  | damaged {d e : List UInt8} (haltered : AlteredBy p.bytes d e) (hset : true ∈ bits e)
      (hdetected : Detected e) : ArrivesAs p d

/-- A damaged datagram is not valid: its checksum is the one of another payload. -/
theorem not_validDatagram_of_altered {d d' e : List UInt8} (h : ValidDatagram d)
    (haltered : AlteredBy d d' e) (hset : true ∈ bits e) (hdetected : Detected e) :
    ¬ ValidDatagram d' := by
  intro h'
  have hheader : Glbpkgheader.ofBytes d' = Glbpkgheader.ofBytes d := by
    rw [← Glbpkgheader.ofBytes_take (n := sizeofGlbpkgheader) (Nat.le_refl _), haltered.header,
      Glbpkgheader.ofBytes_take (Nat.le_refl _)]
  have hsum : crc16ModbusFast (datagramPayload d') = crc16ModbusFast (datagramPayload d) :=
    h'.checksum.symm.trans ((congrArg _ hheader).trans h.checksum)
  rw [haltered.payload, crc16ModbusFast_eq_iff haltered.pattern] at hsum
  exact run_ne_zero_of_detected hset hdetected hsum

/-- **What arrives is what was sent, or it is rejected.** -/
theorem readResult_of_arrivesAs {d : List UInt8} (h : p.Proper) (harrives : p.seal.ArrivesAs d)
    (b : Glbpkgbuf) (from_ : Glbaddr) (now : ℕ) :
    b.readResult (.datagram d from_) now = .invalid ∨
      ∃ q, b.readResult (.datagram d from_) now = .packet q from_ ∧ q.SameOnWire p.seal := by
  obtain ⟨hvalid, -⟩ := validDatagram_bytes h
  cases harrives with
  | intact => exact Or.inr (readResult_bytes h b from_ now)
  | damaged haltered hset hdetected =>
    have hinvalid := not_validDatagram_of_altered hvalid haltered hset hdetected
    have hfail := (b.fst_glbioRead d from_ now).resolve_left fun hok ↦
      hinvalid (Glbpkgbuf.glbioRead_success_iff_valid.1 hok)
    refine Or.inl ?_
    rw [Glbpkgbuf.readResult, hfail]
    rfl

end Glbpkg

namespace Glbctx

variable {ctx ctx' : Glbctx cfg} {op : Op cfg}

/-! ### What send queues hold -/

/-- The send queues hold packets of the protocol. -/
def QueuesProper (ctx : Glbctx cfg) : Prop :=
  ∀ i c chan, ctx.HasChannel i c chan → ∀ p ∈ chan.sQueue.elems, p.Proper

theorem queuesProper_init : QueuesProper (init cfg) := by
  rintro i c chan ⟨chs, hchs, -⟩
  cases hchs

theorem proper_sendPkg {connId : Glbconid} {chan : Glbchannel} {channelId : UInt8}
    {data : List UInt8} {now : ℕ} (hmtu : data.length ≤ gilbertaMtu) :
    (sendPkg connId chan channelId data now).Proper where
  magic := rfl
  version := rfl
  payloadLen := by
    have hlt : gilbertaMtu < 2 ^ 16 := by decide
    exact UInt16.toNat_ofNat_of_lt' (lt_of_le_of_lt hmtu hlt)
  mtu := hmtu

theorem proper_retransmitted {p : Glbpkg} (h : p.Proper) (now : ℕ) : (retransmitted p now).Proper :=
  ⟨h.magic, h.version, h.payloadLen, h.mtu⟩

theorem queuesProper_step (hI : QueuesProper ctx) (h : Step ctx op ctx') : QueuesProper ctx' := by
  intro i c chan' hchan' p hp
  rcases step_channel h hchan' with ⟨ack, -, hopened⟩ | ⟨chan, hchan, -, hsend⟩
  · rw [hopened.sQueue.elems] at hp
    cases hp
  generalize hside : chan'.sendSide = side at hsend
  rcases hsend with - | ⟨hcon, hdata, hc, hroom⟩ | - | ⟨htrans⟩
  · obtain ⟨hq, -⟩ := Glbchannel.sendSide_eq_iff.1 hside
    exact hI i c chan hchan p (hq ▸ hp)
  · rename_i info now data
    obtain ⟨hq, -⟩ := Glbchannel.sendSide_eq_iff.1 hside
    obtain ⟨⟨code, ctx₁⟩, hsent, rfl⟩ := Option.map_eq_some_iff.1 h
    by_cases hcode : code = .success
    · subst hcode
      rw [hq, elems_queuedChan hroom] at hp
      rcases List.mem_append.1 hp with hp | hp
      · exact hI i c chan hchan p hp
      · rw [List.mem_singleton.1 hp]
        exact proper_sendPkg (length_of_success hsent hdata).2
    · -- a refused message is not queued
      have hsame : ctx.HasChannel i c chan' := by
        rwa [HasChannel, connections_of_failure hsent hcode] at hchan'
      exact hI i c chan' hsame p hp
  · obtain ⟨hq, -⟩ := Glbchannel.sendSide_eq_iff.1 hside
    rw [hq, Glbqueue.toBoundedQueue_pop, BoundedQueue.elems_drop] at hp
    exact hI i c chan hchan p (List.mem_of_mem_tail hp)
  · obtain ⟨hq, -⟩ := Glbchannel.sendSide_eq_iff.1 hside
    rw [hq] at hp
    obtain ⟨q, hmem, rfl | ⟨now, rfl⟩⟩ := mem_of_transmitted htrans hp
    · exact hI i c chan hchan _ hmem
    · exact proper_retransmitted (hI i c chan hchan q hmem) now

theorem queuesProper_of_run {ts : List (Transition cfg)} (hrun : Run ts ctx) : QueuesProper ctx :=
  (Execution.invariant_of_state (I := QueuesProper) (C := fun _ ↦ True)
    (fun _ _ _ hI hstep _ ↦ queuesProper_step hI hstep) hrun queuesProper_init fun _ _ ↦ trivial).1

/-! ### What is sent -/

/-- A packet without payload, as most handlers build it. -/
theorem sent_glbpkgInit (connId : Glbconid) (flags channel : UInt8) :
    (glbpkgInit connId flags channel).seal.Sent :=
  ⟨_, ⟨rfl, rfl, rfl, Nat.zero_le _⟩, rfl⟩

theorem sent_withSeqAck (connId : Glbconid) (flags channel : UInt8) (seq ack : UInt32) :
    ((glbpkgInit connId flags channel).withSeqAck seq ack).seal.Sent :=
  ⟨_, ⟨rfl, rfl, rfl, Nat.zero_le _⟩, rfl⟩

/-- Whatever an operation sends is a packet of the protocol. -/
theorem sent_of_emitted {d : Datagram} (hI : QueuesProper ctx) (h : Emitted ctx op d) :
    d.pkg.Sent := by
  cases h with
  | @data i env d c _ hhead =>
    obtain ⟨chs, head, rest, hchs, hhead, rfl⟩ := hhead
    have hmem : head ∈ (chs.chan c).sQueue.elems := by rw [hhead]; exact List.mem_cons_self
    exact ⟨head, hI _ _ _ ⟨chs, hchs, rfl⟩ head hmem, rfl⟩
  | ping _ hping =>
    obtain ⟨seq, ack, rfl⟩ := hping
    exact sent_withSeqAck _ _ _ _ _
  | syn | synAck | ackAgain | ack | dataAck | pong => exact sent_withSeqAck _ _ _ _ _
  | fin | rst | finAck => exact sent_glbpkgInit _ _ _

/-- What is in the socket was sent by the protocol. -/
theorem sent_of_run {ts : List (Transition cfg)} (hrun : Run ts ctx) :
    ∀ d ∈ ctx.sock, d.pkg.Sent := by
  induction hrun with
  | nil => intro d hd; cases hd
  | @snoc ctx ctx' op ts hrun hstep ih =>
    intro d hd
    rcases (step_emits hstep).mem_sock hd with hd | hemit
    · exact ih d hd
    · exact sent_of_emitted (queuesProper_of_run hrun) hemit

/-- **Nothing a context sends is rejected.** In every run, whatever packets arrive and whatever
`sendto` does, for every datagram the context has sent: its bytes are what `glbio_send` hands over
for some memory, they pass the checks of `glbio_read` whatever memory it reads into, and the packet
it then hands on has the header and the payload of the one that was sent. -/
theorem sent_valid {ts : List (Transition cfg)} (hrun : Run ts ctx) : ∀ d ∈ ctx.sock,
    (∃ b : Glbpkgbuf, b.glbioSend.2 = d.pkg.bytes) ∧ ValidDatagram d.pkg.bytes ∧
    ∀ (b : Glbpkgbuf) (from_ : Glbaddr) (now : ℕ), ∃ q,
      b.readResult (.datagram d.pkg.bytes from_) now = .packet q from_ ∧ q.SameOnWire d.pkg := by
  intro d hd
  obtain ⟨p, hproper, heq⟩ := sent_of_run hrun d hd
  rw [heq]
  exact ⟨⟨p.buf hproper, Glbpkg.snd_glbioSend_buf hproper⟩, (Glbpkg.validDatagram_bytes hproper).1,
    Glbpkg.readResult_bytes hproper⟩

/-- A client connects and sends a message of one byte. -/
def connectAndSend : List (Op Glbcfg.sampleClient) :=
  [.connect 1, .timers ⟨0, Nat.one_pos⟩ (Env.at 2),
    .packet (glbpkgInit ⟨1, 0⟩ ctrlFlagSynAck 0) ⟨0, 0⟩ (Env.at 3),
    .send ⟨some [7], some ⟨0, Nat.one_pos⟩, 0⟩ 4, .timers ⟨0, Nat.one_pos⟩ (Env.at 5)]

/-- It has sent a SYN, an ACK and the message. -/
theorem sent_valid_connected : ∃ ts ctx, @Run Glbcfg.sampleClient ts ctx ∧
    (ctx.sock.map fun d ↦ d.pkg.header.ctrlFlags) = [ctrlFlagSyn, ctrlFlagAck, ctrlFlagData] ∧
    ∀ d ∈ ctx.sock, ValidDatagram d.pkg.bytes := by
  have hend : (Execution.perform step connectAndSend (init _)).map (fun r ↦
      r.2.sock.map fun d ↦ d.pkg.header.ctrlFlags) =
        some [ctrlFlagSyn, ctrlFlagAck, ctrlFlagData] := by
    decide +kernel
  obtain ⟨r, hr, hsock⟩ := Option.map_eq_some_iff.1 hend
  exact ⟨r.1, r.2, run_of_perform hr, hsock, fun d hd ↦ (sent_valid (run_of_perform hr) d hd).2.1⟩

end Glbctx

end Gilberta
