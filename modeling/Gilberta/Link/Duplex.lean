import Gilberta.Link.Delivery

/-!
# Both directions of one channel

A reliable channel carries messages both ways, and each side keeps both ends in one `glbchannel_t`:
what it sends on one direction and what it waits for on the other. `Duplex` follows the two
directions at once. A step of either side is a step of two links, of the one on which it sends and
of the one on which it receives (`Step.forward`, `Step.backward`), so every run projects to a run of
each link and what is known about links holds for both directions at the same time, whatever the
other direction does meanwhile.
-/

namespace Gilberta

/-- The other direction of the channel. -/
def Direction.reverse {cfgA cfgB : Glbcfg} (dir : Direction cfgA cfgB) : Direction cfgB cfgA where
  i := dir.j
  c := dir.d
  j := dir.i
  d := dir.c
  same := dir.same.symm

/-- What happened on one direction of a channel. -/
structure Flow where
  /-- The payloads `glb_send` accepted, oldest first. -/
  accepted : List (List UInt8)
  /-- The payloads `glb_popdata` returned, oldest first. -/
  popped : List (List UInt8)
  /-- The DATA packets transmitted. -/
  data : List Glbpkg
  /-- The DATA|ACKs sent. -/
  acks : List Glbpkg

namespace Flow

variable {cfg : Glbcfg}

/-- What a step of the sending side adds. -/
def sent (f : Flow) (i : Fin cfg.connectionCount) (c : Fin cfg.channelCount)
    (x : Glbctx.Transition cfg) : Flow :=
  { f with
    accepted := f.accepted ++ x.1.acceptedBy i c x.2.1
    data := f.data ++ Glbctx.transmittedOn i c x }

/-- What a step of the receiving side adds. -/
def received (f : Flow) (j : Fin cfg.connectionCount) (d : Fin cfg.channelCount)
    (x : Glbctx.Transition cfg) : Flow :=
  { f with
    popped := f.popped ++ x.1.poppedBy j d x.2.1
    acks := f.acks ++ Glbctx.answeredOn j d x }

end Flow

/-- Two contexts, and what happened on the two directions of one channel between them. -/
structure Duplex (cfgA cfgB : Glbcfg) where
  /-- The client. -/
  client : Glbctx cfgA
  /-- The server. -/
  server : Glbctx cfgB
  /-- From the client to the server. -/
  there : Flow
  /-- From the server to the client. -/
  back : Flow

namespace Link

variable {cfgA cfgB : Glbcfg} {dir : Direction cfgA cfgB} {s₀ : UInt32} {l : Link cfgA cfgB}
  {S : StopAndWait (List UInt8)}

/-- **Where the messages are.** What was accepted was popped, waits in the receive queue, or waits
in the send queue, whose head may have arrived already. -/
theorem Tracks.exists_accounting (hS : Tracks dir s₀ l S) (hstored : Stored dir l S)
    (hup : Up dir l) : ∃ schan rchan k, l.sender.HasChannel dir.i dir.c schan ∧
      l.receiver.HasChannel dir.j dir.d rchan ∧ k ≤ 1 ∧
      l.accepted = l.popped ++ rchan.rQueue.elems.map Glbpkg.data ++
        (schan.sQueue.elems.map Glbpkg.data).drop k := by
  obtain ⟨schan, hsend⟩ := hS.sendSide hup.sender
  obtain ⟨rchan, hrecv⟩ := hS.recvSide hup.receiver
  obtain ⟨k, hk, heq⟩ := hS.reachable.inv.accepted_eq
  refine ⟨schan, rchan, k, hsend.has, hrecv.has, hk, ?_⟩
  rw [hstored rchan hrecv.has, hsend.payloads, ← hS.accepted]
  exact heq

end Link

namespace Duplex

open Link (Genuine)

variable {cfgA cfgB : Glbcfg}

/-- The link from the client to the server. -/
def forward (s : Duplex cfgA cfgB) : Link cfgA cfgB where
  sender := s.client
  receiver := s.server
  accepted := s.there.accepted
  popped := s.there.popped
  data := s.there.data
  acks := s.there.acks

/-- The link from the server to the client. -/
def backward (s : Duplex cfgA cfgB) : Link cfgB cfgA where
  sender := s.server
  receiver := s.client
  accepted := s.back.accepted
  popped := s.back.popped
  data := s.back.data
  acks := s.back.acks

/-- The client has performed an operation. -/
def afterClient (dir : Direction cfgA cfgB) (s : Duplex cfgA cfgB) (op : Op cfgA)
    (ctx : Glbctx cfgA) : Duplex cfgA cfgB :=
  { s with
    client := ctx
    there := s.there.sent dir.i dir.c (s.client, op, ctx)
    back := s.back.received dir.i dir.c (s.client, op, ctx) }

/-- The server has performed an operation. -/
def afterServer (dir : Direction cfgA cfgB) (s : Duplex cfgA cfgB) (op : Op cfgB)
    (ctx : Glbctx cfgB) : Duplex cfgA cfgB :=
  { s with
    server := ctx
    there := s.there.received dir.j dir.d (s.server, op, ctx)
    back := s.back.sent dir.j dir.d (s.server, op, ctx) }

/-- What the client handles on the channel was sent by the server: acknowledgments of the one
direction and messages of the other. -/
def ClientHears (dir : Direction cfgA cfgB) (s : Duplex cfgA cfgB) (op : Op cfgA) : Prop :=
  Genuine s.client dir.i dir.c ctrlFlagDataAck s.there.acks op ∧
    Genuine s.client dir.i dir.c ctrlFlagData s.back.data op

/-- What the server handles on the channel was sent by the client. -/
def ServerHears (dir : Direction cfgA cfgB) (s : Duplex cfgA cfgB) (op : Op cfgB) : Prop :=
  Genuine s.server dir.j dir.d ctrlFlagDataAck s.back.acks op ∧
    Genuine s.server dir.j dir.d ctrlFlagData s.there.data op

instance (dir : Direction cfgA cfgB) (s : Duplex cfgA cfgB) (op : Op cfgA) :
    Decidable (ClientHears dir s op) := by
  unfold ClientHears
  infer_instance

instance (dir : Direction cfgA cfgB) (s : Duplex cfgA cfgB) (op : Op cfgB) :
    Decidable (ServerHears dir s op) := by
  unfold ServerHears
  infer_instance

/-- One step of either side that leaves its slot established. -/
inductive Step (dir : Direction cfgA cfgB) (s : Duplex cfgA cfgB) :
    Op cfgA ⊕ Op cfgB → Duplex cfgA cfgB → Prop
  | client {op : Op cfgA} {ctx : Glbctx cfgA} (hstep : Glbctx.Step s.client op ctx)
      (hest : (ctx.connections dir.i).state = .established) (hnet : ClientHears dir s op) :
      Step dir s (.inl op) (s.afterClient dir op ctx)
  | server {op : Op cfgB} {ctx : Glbctx cfgB} (hstep : Glbctx.Step s.server op ctx)
      (hest : (ctx.connections dir.j).state = .established) (hnet : ServerHears dir s op) :
      Step dir s (.inr op) (s.afterServer dir op ctx)

/-- The step as a function. -/
def next (dir : Direction cfgA cfgB) (s : Duplex cfgA cfgB) :
    Op cfgA ⊕ Op cfgB → Option (Duplex cfgA cfgB)
  | .inl op => (s.client.step op).bind fun ctx ↦
    if (ctx.connections dir.i).state = .established ∧ ClientHears dir s op then
      some (s.afterClient dir op ctx)
    else none
  | .inr op => (s.server.step op).bind fun ctx ↦
    if (ctx.connections dir.j).state = .established ∧ ServerHears dir s op then
      some (s.afterServer dir op ctx)
    else none

theorem step_of_next {dir : Direction cfgA cfgB} {s s' : Duplex cfgA cfgB}
    {lab : Op cfgA ⊕ Op cfgB} (h : s.next dir lab = some s') : Step dir s lab s' := by
  rcases lab with op | op
  all_goals
    obtain ⟨ctx, hstep, h⟩ := Option.bind_eq_some_iff.1 h
    split at h
    · next hcond =>
      cases h
      first
        | exact .client hstep hcond.1 hcond.2
        | exact .server hstep hcond.1 hcond.2
    · cases h

/-- Where a conversation starts: both directions do. -/
structure Start (dir : Direction cfgA cfgB) (s₀ s₁ : UInt32) (s : Duplex cfgA cfgB) : Prop where
  /-- The direction from the client, numbered from `s₀`. -/
  forward : Link.Start dir s₀ s.forward
  /-- The direction from the server, numbered from `s₁`. -/
  backward : Link.Start dir.reverse s₁ s.backward

/-- A DATA packet that is next on the channel finds room in the receive queue, on either side. -/
def RoomFor (dir : Direction cfgA cfgB) (s : Duplex cfgA cfgB) (lab : Op cfgA ⊕ Op cfgB) : Prop :=
  Link.RoomFor dir s.forward lab ∧ Link.RoomFor dir.reverse s.backward lab.swap

instance (dir : Direction cfgA cfgB) (s : Duplex cfgA cfgB) (lab : Op cfgA ⊕ Op cfgB) :
    Decidable (RoomFor dir s lab) := by
  unfold RoomFor
  infer_instance

/-! ### The two links -/

section Links

variable {dir : Direction cfgA cfgB} {s₀ s₁ : UInt32} {s s' t : Duplex cfgA cfgB}
  {lab : Op cfgA ⊕ Op cfgB} {ts : List (Duplex cfgA cfgB × (Op cfgA ⊕ Op cfgB) × Duplex cfgA cfgB)}

/-- A step is a step of the link from the client. -/
theorem Step.forward (h : Step dir s lab s') : Link.Step dir s.forward lab s'.forward := by
  rcases h with ⟨hstep, hest, hnet⟩ | ⟨hstep, hest, hnet⟩
  · exact .sender (l := s.forward) hstep hest hnet.1
  · exact .receiver (l := s.forward) hstep hest hnet.2

/-- And one of the link to the client. -/
theorem Step.backward (h : Step dir s lab s') :
    Link.Step dir.reverse s.backward lab.swap s'.backward := by
  rcases h with ⟨hstep, hest, hnet⟩ | ⟨hstep, hest, hnet⟩
  · exact .receiver (l := s.backward) hstep hest hnet.2
  · exact .sender (l := s.backward) hstep hest hnet.1

/-- All along a run with room for what the server receives, the direction from the client implements
stop and wait and the server keeps what it takes. -/
theorem exists_stored_forward (h₀ : Start dir s₀ s₁ s) (hrun : Execution (Step dir) s ts t)
    (hfew : t.there.accepted.length < 2 ^ 32) (hroom : ∀ x ∈ ts, RoomFor dir x.1 x.2.1) :
    ∃ S, Link.Tracks dir s₀ t.forward S ∧ Link.Stored dir t.forward S := by
  have hforward := hrun.map (f := forward) (g := id) fun _ _ _ ↦ Step.forward
  refine Link.exists_stored h₀.forward hforward hfew fun y hy ↦ ?_
  obtain ⟨x, hx, rfl⟩ := List.mem_map.1 hy
  exact (hroom x hx).1

/-- So does the other direction. -/
theorem exists_stored_backward (h₀ : Start dir s₀ s₁ s) (hrun : Execution (Step dir) s ts t)
    (hfew : t.back.accepted.length < 2 ^ 32) (hroom : ∀ x ∈ ts, RoomFor dir x.1 x.2.1) :
    ∃ S, Link.Tracks dir.reverse s₁ t.backward S ∧ Link.Stored dir.reverse t.backward S := by
  have hbackward := hrun.map (f := backward) (g := Sum.swap) fun _ _ _ ↦ Step.backward
  refine Link.exists_stored h₀.backward hbackward hfew fun y hy ↦ ?_
  obtain ⟨x, hx, rfl⟩ := List.mem_map.1 hy
  exact (hroom x hx).2

theorem Start.up_run (h₀ : Start dir s₀ s₁ s) (hrun : Execution (Step dir) s ts t) :
    Link.Up dir t.forward := by
  have hforward := hrun.map (f := Duplex.forward) (g := id) fun _ _ _ ↦ Step.forward
  exact h₀.forward.up_run hforward

/-- What a step lets `glb_send` accept is added at the end. -/
theorem Step.accepted_prefix (h : Step dir s lab s') :
    s.there.accepted <+: s'.there.accepted ∧ s.back.accepted <+: s'.back.accepted :=
  ⟨h.forward.accepted_prefix, h.backward.accepted_prefix⟩

end Links

end Duplex

end Gilberta
