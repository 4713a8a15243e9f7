import Gilberta.Link.Simulation

/-!
# Exactly once, in order

What the receiving application gets from a reliable channel. The link implements stop and wait at
every point of a run, and while DATA packets that are next find room in the receive queue, what was
popped and what waits to be popped is what the transfer has taken (`exists_stored`).
`payloads_delivered` is then a fact about stop and wait, read in the terms of the code.

The run at the end starts one message before the sequence numbers wrap.
-/

namespace Gilberta

variable {cfgA cfgB : Glbcfg}

namespace Link

variable {dir : Direction cfgA cfgB} {s₀ : UInt32} {l₀ l l' : Link cfgA cfgB}
  {ts : List (Link cfgA cfgB × (Op cfgA ⊕ Op cfgB) × Link cfgA cfgB)}

theorem Step.accepted_prefix {lab : Op cfgA ⊕ Op cfgB} (h : Step dir l lab l') :
    l.accepted <+: l'.accepted := by
  rcases h with _ | _
  · exact List.prefix_append _ _
  · exact List.prefix_refl _

theorem Start.up_run (h₀ : Start dir s₀ l₀) (hrun : Execution (Step dir) l₀ ts l) : Up dir l := by
  induction hrun with
  | nil => exact h₀.up
  | snoc _ hstep ih => exact hstep.up ih

theorem Start.stored (h : Start dir s₀ l) : Stored dir l .start := by
  intro chan hchan
  obtain ⟨chan', hchan', -, helems, -⟩ := h.recvChan
  rw [hchan.unique hchan', helems, h.popped]
  rfl

/-- All along a run the link implements stop and wait, and while there is room it keeps what the
transfer takes. -/
theorem exists_stored (h₀ : Start dir s₀ l₀) (hrun : Execution (Step dir) l₀ ts l)
    (hfew : l.accepted.length < 2 ^ 32) (hroom : ∀ x ∈ ts, RoomFor dir x.1 x.2.1) :
    ∃ S, Tracks dir s₀ l S ∧ Stored dir l S := by
  induction hrun with
  | nil => exact ⟨_, tracks_start h₀, h₀.stored⟩
  | @snoc l l' lab ts hrun hstep ih =>
    have hbound := Nat.lt_of_le_of_lt hstep.accepted_prefix.length_le hfew
    obtain ⟨S, hS, hstored⟩ := ih hbound fun x hx ↦ hroom x (List.mem_append_left _ hx)
    obtain ⟨S', -, hS', hkeep⟩ := tracks_step hS (h₀.up_run hrun) hbound hstep
    have hlast : RoomFor dir l lab := hroom (l, lab, l') (by simp)
    exact ⟨S', hS', hkeep hstored hlast⟩

/-- **Exactly once, in order, nothing lost.** In every run of a link in which fewer than `2 ^ 32`
messages are accepted and a DATA packet that is next always finds room, what was popped followed by
what waits in the receive queue are the first `n` accepted payloads, and the send queue holds the
accepted payloads from the `k`-th on, with `k ≤ n ≤ k + 1`. -/
theorem payloads_delivered (h₀ : Start dir s₀ l₀) (hrun : Execution (Step dir) l₀ ts l)
    (hfew : l.accepted.length < 2 ^ 32) (hroom : ∀ x ∈ ts, RoomFor dir x.1 x.2.1) :
    ∃ schan rchan n k, l.sender.HasChannel dir.i dir.c schan ∧
      l.receiver.HasChannel dir.j dir.d rchan ∧
      l.popped ++ rchan.rQueue.elems.map Glbpkg.data = l.accepted.take n ∧
      schan.sQueue.elems.map Glbpkg.data = l.accepted.drop k ∧
      k ≤ n ∧ n ≤ k + 1 ∧ n ≤ l.accepted.length := by
  obtain ⟨S, hS, hstored⟩ := exists_stored h₀ hrun hfew hroom
  have hup := h₀.up_run hrun
  obtain ⟨schan, hsend⟩ := hS.sendSide hup.sender
  obtain ⟨rchan, hrecv⟩ := hS.recvSide hup.receiver
  have hI : S.Inv := hS.reachable.inv
  refine ⟨schan, rchan, S.delivered.length, S.base, hsend.has, hrecv.has, ?_, ?_, hI.base_le,
    hI.le_base, ?_⟩
  · rw [hstored rchan hrecv.has, ← hS.accepted]
    exact hI.delivered_eq
  · rw [hsend.payloads, hS.accepted]
  · rw [← hS.accepted]
    exact hI.delivered.length_le

/-! ### Links between given contexts -/

/-- The link between two contexts that performed some operations of their own. -/
def linkAfter (opsA : List (Op cfgA)) (opsB : List (Op cfgB)) : Option (Link cfgA cfgB) :=
  (Execution.perform Glbctx.step opsA (Glbctx.init _)).bind fun a ↦
  (Execution.perform Glbctx.step opsB (Glbctx.init _)).map fun b ↦ ⟨a.2, b.2, [], [], [], []⟩

/-- Whether a link can start is decided by its two slots. -/
theorem exists_start {opsA : List (Op cfgA)} {opsB : List (Op cfgB)}
    (h : (linkAfter opsA opsB).map (fun l ↦
      (decide ((l.sender.connections dir.i).state = .established ∧
        (l.receiver.connections dir.j).state = .established),
      (l.sender.connections dir.i).channels.map fun chs ↦
        decide ((chs.chan dir.c).reliable = true ∧ (chs.chan dir.c).sQueue.elems = [] ∧
          (chs.chan dir.c).seq = s₀),
      (l.receiver.connections dir.j).channels.map fun chs ↦
        decide ((chs.chan dir.d).reliable = true ∧ (chs.chan dir.d).rQueue.elems = [] ∧
          (chs.chan dir.d).ack = s₀))) = some (true, some true, some true)) :
    ∃ l, linkAfter opsA opsB = some l ∧ Start dir s₀ l := by
  obtain ⟨l, hl, heq⟩ := Option.map_eq_some_iff.1 h
  simp only [Prod.mk.injEq] at heq
  obtain ⟨hest, hsend, hrecv⟩ := heq
  obtain ⟨hestA, hestB⟩ := of_decide_eq_true hest
  obtain ⟨chsA, hchsA, hchanA⟩ := Option.map_eq_some_iff.1 hsend
  obtain ⟨chsB, hchsB, hchanB⟩ := Option.map_eq_some_iff.1 hrecv
  obtain ⟨a, ha, hafter⟩ := Option.bind_eq_some_iff.1 hl
  obtain ⟨b, hb, rfl⟩ := Option.map_eq_some_iff.1 hafter
  exact ⟨_, hl,
    { senderRun := ⟨a.1, Glbctx.run_of_perform ha⟩
      receiverRun := ⟨b.1, Glbctx.run_of_perform hb⟩
      senderEst := hestA
      receiverEst := hestB
      sendChan := ⟨_, ⟨chsA, hchsA, rfl⟩, of_decide_eq_true hchanA⟩
      recvChan := ⟨_, ⟨chsB, hchsB, rfl⟩, of_decide_eq_true hchanB⟩
      accepted := rfl
      popped := rfl
      data := rfl
      acks := rfl }⟩

/-! ### Across the largest sequence number -/

/-- A client whose first sequence number is the largest. -/
def edgeClient : Glbcfg := { Glbcfg.sampleClient with self := 0x5A5A5A5A }

/-- From the client to the first slot of the server, on channel 0. -/
def sampleDirection : Direction edgeClient Glbcfg.sampleServer where
  i := ⟨0, Nat.one_pos⟩
  c := ⟨0, Nat.one_pos⟩
  j := ⟨0, Nat.two_pos⟩
  d := ⟨0, Nat.one_pos⟩
  same := rfl

/-- The first sequence number of the server. -/
def serverSeq : UInt32 := Glbctx.initialSeq Glbcfg.sampleServer

/-- The client calls `glb_connect` and gets the SYN|ACK; the server gets the SYN and the ACK. -/
def sampleLink : Option (Link edgeClient Glbcfg.sampleServer) :=
  (Execution.perform Glbctx.step
    [.connect 0,
      .packet ((glbpkgInit ⟨1, 0⟩ ctrlFlagSynAck 0).withSeqAck serverSeq 0xFFFFFFFF) ⟨0, 0⟩
        (Env.at 2)] (Glbctx.init _)).bind fun a ↦
  (Execution.perform Glbctx.step
    [.packet ((glbpkgInit ⟨0xFFFF, 0⟩ ctrlFlagSyn 0).withSeqAck 0xFFFFFFFF 0) .samplePeer
        (Env.at 1),
      .packet ((glbpkgInit ⟨1, 0⟩ ctrlFlagAck 0).withSeqAck 0xFFFFFFFF serverSeq) .samplePeer
        (Env.at 3)] (Glbctx.init _)).map fun b ↦
  ⟨a.2, b.2, [], [], [], []⟩

/-- The link of the samples can start. -/
theorem exists_start_sampleLink :
    ∃ l, sampleLink = some l ∧ Start sampleDirection 0xFFFFFFFF l :=
  exists_start (by decide +kernel)

/-- The client's application sends one byte. -/
def sampleSend (byte : UInt8) (now : ℕ) : Op edgeClient :=
  .send ⟨some [byte], some ⟨0, Nat.one_pos⟩, 0⟩ now

/-- What the client transmits for a byte, under a number. -/
def sampleData (byte : UInt8) (seq : UInt32) : Glbpkg :=
  { (Glbpkg.sampleData ⟨1, 0⟩ 0).withSeqAck seq serverSeq with data := [byte] }.seal

/-- What the server answers a number with. -/
def sampleDataAck (seq : UInt32) : Glbpkg :=
  ((glbpkgInit ⟨1, 0⟩ ctrlFlagDataAck 0).withSeqAck serverSeq seq).seal

/-- Two messages. The acknowledgment of the first one arrives twice, the second time when the second
message is on its way. -/
def sampleTransfer : List (Op edgeClient ⊕ Op Glbcfg.sampleServer) :=
  [.inl (sampleSend 1 4), .inl (sampleSend 2 5),
    .inl (.timers ⟨0, Nat.one_pos⟩ (Env.at 6)),
    .inr (.packet (sampleData 1 0xFFFFFFFF) .samplePeer (Env.at 7)),
    .inl (.packet (sampleDataAck 0xFFFFFFFF) ⟨0, 0⟩ (Env.at 8)),
    .inl (.timers ⟨0, Nat.one_pos⟩ (Env.at 9)),
    .inr (.packet (sampleData 2 0) .samplePeer (Env.at 10)),
    .inr (.popdata ⟨true, some ⟨0, Nat.two_pos⟩, 1024, 0⟩),
    .inl (.packet (sampleDataAck 0xFFFFFFFF) ⟨0, 0⟩ (Env.at 12))]

/-- After `sampleTransfer` one message was popped, one waits, and the client still holds the
second. -/
theorem payloads_delivered_sample : ∃ (l₀ l : Link edgeClient Glbcfg.sampleServer) (ts : List _),
    Start sampleDirection 0xFFFFFFFF l₀ ∧ Execution (Step sampleDirection) l₀ ts l ∧
    l.accepted = [[1], [2]] ∧ l.popped = [[1]] ∧
    ∃ schan rchan n k, l.sender.HasChannel sampleDirection.i sampleDirection.c schan ∧
      l.receiver.HasChannel sampleDirection.j sampleDirection.d rchan ∧
      l.popped ++ rchan.rQueue.elems.map Glbpkg.data = l.accepted.take n ∧
      schan.sQueue.elems.map Glbpkg.data = l.accepted.drop k ∧
      k ≤ n ∧ n ≤ k + 1 ∧ n ≤ l.accepted.length := by
  obtain ⟨l₀, hl₀, h₀⟩ := exists_start_sampleLink
  have hsteps : (sampleLink.bind fun l₀ ↦
      Execution.perform (next sampleDirection) sampleTransfer l₀).map (fun r ↦
        (r.2.accepted, r.2.popped, decide (∀ x ∈ r.1, RoomFor sampleDirection x.1 x.2.1))) =
      some ([[1], [2]], [[1]], true) := by decide +kernel
  rw [hl₀, Option.bind_some] at hsteps
  obtain ⟨r, hr, heq⟩ := Option.map_eq_some_iff.1 hsteps
  simp only [Prod.mk.injEq] at heq
  obtain ⟨haccepted, hpopped, hroom⟩ := heq
  have hrun : Execution (Step sampleDirection) l₀ r.1 r.2 :=
    (Execution.nil.append_perform hr).mono fun _ _ _ ↦ step_of_next
  refine ⟨l₀, r.2, r.1, h₀, hrun, haccepted, hpopped, ?_⟩
  refine payloads_delivered h₀ hrun ?_ (of_decide_eq_true hroom)
  rw [haccepted]
  decide

end Link

end Gilberta
