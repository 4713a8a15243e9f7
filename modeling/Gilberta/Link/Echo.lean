import Gilberta.Link.Duplex
import Gilberta.Traffic.ReceiveEvents
import Gilberta.Traffic.SendQueues

/-!
# The echo server

`LaunchServer` of `echo.c` sends every message back on the channel it came from: its polling loop
pops the message of a RECEIVE event and hands it to `glb_send`, whose result it ignores. Here it
runs against a client that does what it likes, over a network that loses, duplicates, delays and
reorders.

What the client gets back on a reliable channel is then a sublist of what it sent, in the order in
which it sent it, nothing twice (`echo_in_order`). If the server's send queue has room whenever a
message is echoed, nothing is missing either: every message the client sent is with the client
again, or in one of the four queues on its way.
-/

namespace Gilberta

variable {cfg cfgA cfgB : Glbcfg}

/-! ### The program -/

namespace Glbctx

/-- The calls of one round of the polling loop of `LaunchServer`: poll; on a RECEIVE event pop the
message into the buffer of 1024 bytes, and if that succeeds send it back. -/
def echoOps (ctx : Glbctx cfg) (now : ℕ) : List (Op cfg) :=
  match ctx.glbPollevent with
  | (.success, some (.receive i channel), ctx) =>
    let recvInfo : Glbrecvinfo cfg.connectionCount := ⟨true, some i, 1024, channel⟩
    match ctx.glbPopdata recvInfo with
    | some (.success, data, _) =>
      [.pollevent, .popdata recvInfo, .send ⟨some data, some i, channel⟩ now]
    | _ => [.pollevent, .popdata recvInfo]
  | _ => [.pollevent]

/-- What a round of the polling loop is. -/
inductive EchoRound (ctx : Glbctx cfg) (now : ℕ) : List (Op cfg) → Prop
  /-- There is no message to echo. -/
  | idle : EchoRound ctx now [.pollevent]
  /-- The message cannot be popped. -/
  | failed {recvInfo : Glbrecvinfo cfg.connectionCount}
      (hpop : ∀ data ctx', ctx.glbPollevent.2.2.glbPopdata recvInfo ≠ some (.success, data, ctx')) :
      EchoRound ctx now [.pollevent, .popdata recvInfo]
  /-- The message is popped and handed to `glb_send`. -/
  | echoed {i : Fin cfg.connectionCount} {channel : UInt8} {data : List UInt8} {ctx' : Glbctx cfg}
      (hpop : ctx.glbPollevent.2.2.glbPopdata ⟨true, some i, 1024, channel⟩ =
        some (.success, data, ctx')) :
      EchoRound ctx now [.pollevent, .popdata ⟨true, some i, 1024, channel⟩,
        .send ⟨some data, some i, channel⟩ now]

theorem echoRound (ctx : Glbctx cfg) (now : ℕ) : EchoRound ctx now (ctx.echoOps now) := by
  unfold echoOps
  split
  · next i channel ctx₁ hpoll =>
    obtain rfl : ctx.glbPollevent.2.2 = ctx₁ := by rw [hpoll]
    dsimp only
    split
    · next data ctx' hpop => exact .echoed hpop
    · next hpop => exact .failed fun data ctx' h ↦ hpop data ctx' h
  · exact .idle

end Glbctx

/-- What a server that only echoes does besides: its ticks. -/
def Op.InTick : Op cfg → Prop
  | .packet _ _ _ | .readError | .timers _ _ => True
  | .connect _ | .close _ _ | .send _ _ | .pollevent | .popdata _ => False

instance : (op : Op cfg) → Decidable op.InTick
  | .packet _ _ _ | .readError | .timers _ _ => inferInstanceAs (Decidable True)
  | .connect _ | .close _ _ | .send _ _ | .pollevent | .popdata _ =>
    inferInstanceAs (Decidable False)

/-- A move of the conversation: the client does something, the server ticks, or the server goes
once through its polling loop. -/
inductive EchoMove (cfgA cfgB : Glbcfg)
  | client (op : Op cfgA)
  | tick (op : Op cfgB)
  | poll (now : ℕ)

namespace Duplex

variable {dir : Direction cfgA cfgB} {s₀ s₁ : UInt32} {s s' t : Duplex cfgA cfgB}

/-- One move of the conversation with the echo server. -/
inductive EchoStep (dir : Direction cfgA cfgB) (s : Duplex cfgA cfgB) :
    EchoMove cfgA cfgB → Duplex cfgA cfgB → Prop
  | client {op : Op cfgA} {s' : Duplex cfgA cfgB} (h : Step dir s (.inl op) s') :
      EchoStep dir s (.client op) s'
  | tick {op : Op cfgB} {s' : Duplex cfgA cfgB} (hop : op.InTick) (h : Step dir s (.inr op) s') :
      EchoStep dir s (.tick op) s'
  | poll {now : ℕ} {r : List (Duplex cfgA cfgB × (Op cfgA ⊕ Op cfgB) × Duplex cfgA cfgB) ×
        Duplex cfgA cfgB}
      (h : Execution.perform (next dir) ((s.server.echoOps now).map .inr) s = some r) :
      EchoStep dir s (.poll now) r.2

/-- The move as a function. -/
def echoNext (dir : Direction cfgA cfgB) (s : Duplex cfgA cfgB) :
    EchoMove cfgA cfgB → Option (Duplex cfgA cfgB)
  | .client op => s.next dir (.inl op)
  | .tick op => if op.InTick then s.next dir (.inr op) else none
  | .poll now =>
    (Execution.perform (next dir) ((s.server.echoOps now).map .inr) s).map Prod.snd

theorem step_of_echoNext {move : EchoMove cfgA cfgB} (h : s.echoNext dir move = some s') :
    EchoStep dir s move s' := by
  cases move with
  | client op => exact .client (step_of_next h)
  | tick op =>
    rw [echoNext] at h
    split at h
    · next hop => exact .tick hop (step_of_next h)
    · cases h
  | poll now =>
    obtain ⟨r, hr, rfl⟩ := Option.map_eq_some_iff.1 h
    exact .poll hr

/-- A message that is next on the channel finds room in the receive queue. -/
def EchoRoom (dir : Direction cfgA cfgB) (s : Duplex cfgA cfgB) : EchoMove cfgA cfgB → Prop
  | .client op => RoomFor dir s (.inl op)
  | .tick op => RoomFor dir s (.inr op)
  | .poll _ => True

instance (dir : Direction cfgA cfgB) (s : Duplex cfgA cfgB) :
    (move : EchoMove cfgA cfgB) → Decidable (EchoRoom dir s move)
  | .client op => inferInstanceAs (Decidable (RoomFor dir s (.inl op)))
  | .tick op => inferInstanceAs (Decidable (RoomFor dir s (.inr op)))
  | .poll _ => inferInstanceAs (Decidable True)

/-- The server's send queue has room when it may have to echo a message. -/
def KeepsUp (dir : Direction cfgA cfgB) (s : Duplex cfgA cfgB) : EchoMove cfgA cfgB → Prop
  | .poll _ => ∀ chan, s.server.HasChannel dir.j dir.d chan → chan.sQueue.isFull = false
  | .client _ | .tick _ => True

instance (dir : Direction cfgA cfgB) (s : Duplex cfgA cfgB) :
    (move : EchoMove cfgA cfgB) → Decidable (KeepsUp dir s move)
  | .poll _ => decidable_of_iff (∀ chs ∈ (s.server.connections dir.j).channels,
      (chs.chan dir.d).sQueue.isFull = false)
      ⟨fun h _ hchan ↦ by obtain ⟨chs, hchs, rfl⟩ := hchan; exact h chs hchs,
      fun h chs hchs ↦ h _ ⟨chs, hchs, rfl⟩⟩
  | .client _ | .tick _ => inferInstanceAs (Decidable True)

/-! ### One round -/

end Duplex

namespace Glbctx

variable {ctx ctx' : Glbctx cfg} {i j : Fin cfg.connectionCount} {c : Fin cfg.channelCount}
  {chan : Glbchannel} {data : List UInt8} {channel : UInt8} {now : ℕ}

theorem connections_glbPollevent (ctx : Glbctx cfg) :
    ctx.glbPollevent.2.2.connections = ctx.connections := by
  rcases glbPollevent_cases ctx with ⟨-, hpoll⟩ | ⟨ev, q, -, hpoll⟩ <;> rw [hpoll]

/-- A message of an admissible length that finds room in the queue of an established slot is
accepted. -/
theorem exists_glbSend_success (hest : (ctx.connections i).state = .established)
    (hchan : ctx.HasChannel i c chan) (hc : channel.toNat = c.val)
    (hlen : 1 ≤ data.length ∧ data.length ≤ gilbertaMtu) (hroom : chan.sQueue.isFull = false) :
    ∃ ctx', ctx.glbSend ⟨some data, some i, channel⟩ now = some (.success, ctx') := by
  obtain ⟨chs, hchs, rfl⟩ := hchan
  have hlt : channel.toNat < cfg.channelCount := hc ▸ c.isLt
  obtain rfl : c = ⟨_, hlt⟩ := Fin.ext hc.symm
  have hpush : (chs.chan ⟨_, hlt⟩).sQueue.push
      (sendPkg (ctx.connections i).connId (chs.chan ⟨_, hlt⟩) channel data now) =
      (.success, ((chs.chan ⟨_, hlt⟩).sQueue.push
        (sendPkg (ctx.connections i).connId (chs.chan ⟨_, hlt⟩) channel data now)).2) :=
    Prod.ext (by rw [Glbqueue.push_fst, hroom]; rfl) rfl
  have hsend : ctx.glbSend ⟨some data, some i, channel⟩ now = some (.success, ctx.setChan i ⟨_, hlt⟩
      (queuedChan (chs.chan ⟨_, hlt⟩) (sendPkg (ctx.connections i).connId (chs.chan ⟨_, hlt⟩)
        channel data now))) := by
    rw [glbSend]
    dsimp only
    rw [if_neg (by omega), dif_pos hlt, if_neg (by omega), if_neg (not_not.2 hest), hchs,
      Option.map_some]
    rw [hpush]
    rfl
  exact ⟨_, hsend⟩

/-- A call of `glb_popdata` on a channel that succeeds takes the oldest message off its queue. -/
theorem exists_of_glbPopdata_success {buflen : ℕ} (hc : channel.toNat = c.val)
    (h : ctx.glbPopdata ⟨true, some i, buflen, channel⟩ = some (.success, data, ctx')) :
    ∃ chan pkg rest, ctx.HasChannel i c chan ∧ chan.rQueue.elems = pkg :: rest ∧ data = pkg.data ∧
      ctx' = ctx.setChan i c { chan with rQueue := chan.rQueue.pop.2.2 } := by
  cases glbPopdata_effect h with
  | failed hcode => exact absurd rfl hcode
  | @popped i' c' chs pkg rest hcon hc' hchs hhead =>
    obtain rfl := Option.some_inj.1 hcon
    obtain rfl : c = c' := Fin.ext (hc.symm.trans hc')
    exact ⟨_, pkg, rest, ⟨chs, hchs, rfl⟩, hhead, rfl, rfl⟩

theorem poppedBy_of_inTick {op : Op cfg} (hop : op.InTick) : ctx.poppedBy i c op = [] := by
  cases op with
  | popdata => cases hop
  | _ => rfl

theorem acceptedBy_of_inTick {op : Op cfg} (hop : op.InTick) : ctx.acceptedBy i c op = [] := by
  cases op with
  | send => cases hop
  | _ => rfl

/-- What `glb_send` accepts has an admissible length. -/
theorem length_of_mem_acceptedBy {op : Op cfg} (h : data ∈ ctx.acceptedBy i c op) :
    1 ≤ data.length ∧ data.length ≤ gilbertaMtu := by
  cases op with
  | send info now =>
    rw [acceptedBy] at h
    split at h
    · next ctx' hsend =>
      split at h
      · exact length_of_success hsend (Option.mem_toList.1 h)
      · cases h
    · cases h
  | _ => cases h

/-- A message that is popped and sent back on its channel is accepted at most once. -/
theorem acceptedBy_sublist
    (hpop : ctx.glbPopdata ⟨true, some i, 1024, channel⟩ = some (.success, data, ctx')) :
    (ctx'.acceptedBy j c (.send ⟨some data, some i, channel⟩ now)).Sublist
      (ctx.poppedBy j c (.popdata ⟨true, some i, 1024, channel⟩)) := by
  rw [acceptedBy, poppedBy, hpop]
  split
  · exact .refl _
  · exact List.nil_sublist _

/-- It is accepted if its slot is established, messages have admissible lengths and the send queue
has room. -/
theorem acceptedBy_of_popped
    (hpop : ctx.glbPopdata ⟨true, some i, 1024, channel⟩ = some (.success, data, ctx'))
    (hest : (ctx.connections j).state = .established)
    (hlen : ∀ chan, ctx.HasChannel j c chan → ∀ p ∈ chan.rQueue.elems,
      1 ≤ p.data.length ∧ p.data.length ≤ gilbertaMtu)
    (hroom : ∀ chan, ctx.HasChannel j c chan → chan.sQueue.isFull = false) :
    ctx'.acceptedBy j c (.send ⟨some data, some i, channel⟩ now) =
      ctx.poppedBy j c (.popdata ⟨true, some i, 1024, channel⟩) := by
  rw [acceptedBy, poppedBy, hpop]
  dsimp only
  by_cases hsame : some i = some j ∧ channel.toNat = c.val
  · obtain ⟨hi, hc⟩ := hsame
    obtain rfl := Option.some_inj.1 hi
    obtain ⟨chan, pkg, rest, hchan, hhead, rfl, rfl⟩ := exists_of_glbPopdata_success hc hpop
    have hpkg : pkg ∈ chan.rQueue.elems := by rw [hhead]; exact List.mem_cons_self
    -- popping leaves the sending half and the state of the slot alone
    have hest' : ((ctx.setChan i c { chan with
        rQueue := chan.rQueue.pop.2.2 }).connections i).state = .established := by
      rw [setChan, connections_setCon_self]
      exact hest
    obtain ⟨chs, hchs, hchs'⟩ := hchan
    obtain ⟨ctx'', hsend⟩ := @exists_glbSend_success _ _ _ _ _ pkg.data channel now hest'
      (hasChannel_setChan_self hchs) hc (hlen chan ⟨chs, hchs, hchs'⟩ pkg hpkg)
      (hroom chan ⟨chs, hchs, hchs'⟩)
    rw [hsend]
    rfl
  · rw [if_neg hsame, if_neg hsame]
    split
    · rfl
    · rfl

end Glbctx

namespace Duplex

variable {dir : Direction cfgA cfgB} {s₀ s₁ : UInt32} {s s' t : Duplex cfgA cfgB}

/-- Calls of the server, performed one after the other. -/
theorem exists_of_perform_cons {op : Op cfgB} {ops : List (Op cfgB)}
    {r : List (Duplex cfgA cfgB × (Op cfgA ⊕ Op cfgB) × Duplex cfgA cfgB) × Duplex cfgA cfgB}
    (h : Execution.perform (next dir) ((op :: ops).map .inr) s = some r) :
    ∃ ctx r', s.server.step op = some ctx ∧ r.2 = r'.2 ∧
      Execution.perform (next dir) (ops.map .inr) (s.afterServer dir op ctx) = some r' := by
  obtain ⟨s₁, hnext, h⟩ := Option.bind_eq_some_iff.1 h
  obtain ⟨r', hr', rfl⟩ := Option.map_eq_some_iff.1 h
  obtain ⟨ctx, hstep, hnext⟩ := Option.bind_eq_some_iff.1 hnext
  split at hnext
  · cases hnext
    exact ⟨ctx, r', hstep, rfl, hr'⟩
  · cases hnext

theorem eq_of_perform_nil
    {r : List (Duplex cfgA cfgB × (Op cfgA ⊕ Op cfgB) × Duplex cfgA cfgB) × Duplex cfgA cfgB}
    (h : Execution.perform (next dir) (([] : List (Op cfgB)).map .inr) s = some r) : r.2 = s := by
  cases h
  rfl

/-- The server's half of the channel can take part in an echo: its slot is established, the messages
that wait in its receive queue have admissible lengths, and its send queue has room. -/
structure CanEcho (dir : Direction cfgA cfgB) (s : Duplex cfgA cfgB) : Prop where
  /-- The slot is established. -/
  established : (s.server.connections dir.j).state = .established
  /-- The waiting messages have admissible lengths. -/
  sized : ∀ chan, s.server.HasChannel dir.j dir.d chan → ∀ p ∈ chan.rQueue.elems,
    1 ≤ p.data.length ∧ p.data.length ≤ gilbertaMtu
  /-- There is room in the send queue. -/
  room : ∀ chan, s.server.HasChannel dir.j dir.d chan → chan.sQueue.isFull = false

/-- What a round adds to the two directions: what it sends back is among what it pops, and is all of
it if that is possible. -/
theorem exists_of_poll {now : ℕ}
    {r : List (Duplex cfgA cfgB × (Op cfgA ⊕ Op cfgB) × Duplex cfgA cfgB) × Duplex cfgA cfgB}
    (h : Execution.perform (next dir) ((s.server.echoOps now).map .inr) s = some r) :
    ∃ got given, r.2.there.popped = s.there.popped ++ got ∧
      r.2.back.accepted = s.back.accepted ++ given ∧ r.2.there.accepted = s.there.accepted ∧
      given.Sublist got ∧ (CanEcho dir s → given = got) := by
  have hround := s.server.echoRound now
  generalize s.server.echoOps now = ops at h hround
  cases hround with
  | idle =>
    obtain ⟨ctx, r₁, -, hr, h⟩ := exists_of_perform_cons h
    rw [hr, eq_of_perform_nil h]
    exact ⟨[], [], rfl, rfl, rfl, .refl _, fun _ ↦ rfl⟩
  | @failed recvInfo hpop =>
    obtain ⟨ctx, r₁, hctx, hr, h⟩ := exists_of_perform_cons h
    obtain rfl : s.server.glbPollevent.2.2 = ctx := Option.some_inj.1 hctx
    obtain ⟨ctx₂, r₂, -, hr₁, h⟩ := exists_of_perform_cons h
    rw [hr, hr₁, eq_of_perform_nil h]
    -- a call that fails hands nothing out
    have hnone : s.server.glbPollevent.2.2.poppedBy dir.j dir.d (.popdata recvInfo) = [] := by
      rw [Glbctx.poppedBy]
      split
      · next data ctx' h => exact absurd h (hpop data ctx')
      · rfl
    refine ⟨[], [], ?_, ?_, rfl, .refl _, fun _ ↦ rfl⟩
    · show s.there.popped ++ [] ++ s.server.glbPollevent.2.2.poppedBy dir.j dir.d
        (.popdata recvInfo) = _
      rw [hnone, List.append_nil]
    · show s.back.accepted ++ [] ++ [] = _
      rw [List.append_nil, List.append_nil]
  | @echoed i channel data ctx' hpop =>
    obtain ⟨ctx, r₁, hctx, hr, h⟩ := exists_of_perform_cons h
    obtain rfl : s.server.glbPollevent.2.2 = ctx := Option.some_inj.1 hctx
    obtain ⟨ctx₂, r₂, hctx₂, hr₁, h⟩ := exists_of_perform_cons h
    obtain rfl : ctx' = ctx₂ := by
      have hstep : (s.server.glbPollevent.2.2.glbPopdata ⟨true, some i, 1024, channel⟩).map
        (fun r ↦ r.2.2) = some ctx₂ := hctx₂
      rw [hpop] at hstep
      exact Option.some_inj.1 hstep
    obtain ⟨ctx₃, r₃, hctx₃, hr₂, h⟩ := exists_of_perform_cons h
    rw [hr, hr₁, hr₂, eq_of_perform_nil h]
    refine ⟨s.server.glbPollevent.2.2.poppedBy dir.j dir.d (.popdata ⟨true, some i, 1024, channel⟩),
      ctx'.acceptedBy dir.j dir.d (.send ⟨some data, some i, channel⟩ now), ?_, ?_, rfl,
      Glbctx.acceptedBy_sublist hpop, fun hcan ↦ ?_⟩
    · show s.there.popped ++ [] ++ s.server.glbPollevent.2.2.poppedBy dir.j dir.d _ ++ [] = _
      rw [List.append_nil, List.append_nil]
    · show s.back.accepted ++ [] ++ [] ++ ctx'.acceptedBy dir.j dir.d _ = _
      rw [List.append_nil, List.append_nil]
    · refine Glbctx.acceptedBy_of_popped hpop ?_ ?_ ?_
      · rw [Glbctx.connections_glbPollevent]
        exact hcan.established
      · rintro chan ⟨chs, hchs, rfl⟩
        rw [Glbctx.connections_glbPollevent] at hchs
        exact hcan.sized _ ⟨chs, hchs, rfl⟩
      · rintro chan ⟨chs, hchs, rfl⟩
        rw [Glbctx.connections_glbPollevent] at hchs
        exact hcan.room _ ⟨chs, hchs, rfl⟩

/-! ### The conversation -/

variable {ts : List (Duplex cfgA cfgB × EchoMove cfgA cfgB × Duplex cfgA cfgB)}
  {us : List (Duplex cfgA cfgB × (Op cfgA ⊕ Op cfgB) × Duplex cfgA cfgB)}
  {move : EchoMove cfgA cfgB}

/-- A move is a few steps of the two contexts. -/
theorem exists_steps (h : EchoStep dir s move s') (hroom : EchoRoom dir s move) :
    ∃ us, Execution (Step dir) s us s' ∧ ∀ x ∈ us, RoomFor dir x.1 x.2.1 := by
  cases h with
  | client h =>
    refine ⟨_, .single h, fun x hx ↦ ?_⟩
    obtain rfl := List.mem_singleton.1 hx
    exact hroom
  | tick _ h =>
    refine ⟨_, .single h, fun x hx ↦ ?_⟩
    obtain rfl := List.mem_singleton.1 hx
    exact hroom
  | @poll now r h =>
    have hrun : Execution (Step dir) s r.1 r.2 :=
      (Execution.nil.append_perform h).mono fun _ _ _ ↦ step_of_next
    refine ⟨r.1, hrun, fun x hx ↦ ?_⟩
    -- none of the calls handles a packet
    obtain ⟨op, hop, hlab⟩ := List.mem_map.1 (Execution.mem_of_perform h x hx)
    have hround := s.server.echoRound now
    generalize s.server.echoOps now = ops at hop hround
    have hcalls : ∀ pkg from_ env, op ≠ .packet pkg from_ env := by
      rintro pkg from_ env rfl
      cases hround <;> simp at hop
    rw [← hlab]
    cases op with
    | packet pkg from_ env => exact absurd rfl (hcalls pkg from_ env)
    | _ => exact ⟨trivial, trivial⟩

/-- A conversation is a run of the two contexts. -/
theorem exists_run (hrun : Execution (EchoStep dir) s ts t)
    (hroom : ∀ x ∈ ts, EchoRoom dir x.1 x.2.1) :
    ∃ us, Execution (Step dir) s us t ∧ ∀ x ∈ us, RoomFor dir x.1 x.2.1 :=
  hrun.refine (D := fun x ↦ EchoRoom dir x.1 x.2.1) (fun _ _ _ ↦ exists_steps) hroom

/-- Messages that were accepted have admissible lengths. -/
theorem length_of_accepted (h₀ : Start dir s₀ s₁ s) (hrun : Execution (Step dir) s us t) :
    ∀ data ∈ t.there.accepted, 1 ≤ data.length ∧ data.length ≤ gilbertaMtu := by
  induction hrun with
  | nil =>
    rw [show s.there.accepted = [] from h₀.forward.accepted]
    simp
  | @snoc t u lab us _ hstep ih =>
    intro data hdata
    cases hstep with
    | server => exact ih data hdata
    | @client op ctx =>
      rcases List.mem_append.1 hdata with hdata | hdata
      · exact ih data hdata
      · exact Glbctx.length_of_mem_acceptedBy hdata

/-- What a move adds to what the server popped and to what it sent back. -/
theorem exists_of_echoStep (h : EchoStep dir s move s') :
    ∃ got given, s'.there.popped = s.there.popped ++ got ∧
      s'.back.accepted = s.back.accepted ++ given ∧ s.there.accepted <+: s'.there.accepted ∧
      given.Sublist got ∧
      (KeepsUp dir s move → (∀ chan, s.server.HasChannel dir.j dir.d chan →
        ∀ p ∈ chan.rQueue.elems, 1 ≤ p.data.length ∧ p.data.length ≤ gilbertaMtu) →
        (s.server.connections dir.j).state = .established → given = got) := by
  cases h with
  | client h =>
    cases h
    refine ⟨[], [], ?_, ?_, List.prefix_append _ _, .refl _, fun _ _ _ ↦ rfl⟩
    · exact (List.append_nil _).symm
    · exact (List.append_nil _).symm
  | tick hop h =>
    obtain ⟨hthere, -⟩ := h.accepted_prefix
    cases h with
    | @server op ctx =>
      refine ⟨[], [], ?_, ?_, hthere, .refl _, fun _ _ _ ↦ rfl⟩
      · exact congrArg (s.there.popped ++ ·) (Glbctx.poppedBy_of_inTick hop)
      · exact congrArg (s.back.accepted ++ ·) (Glbctx.acceptedBy_of_inTick hop)
  | poll h =>
    obtain ⟨got, given, hgot, hgiven, hthere, hsub, hall⟩ := exists_of_poll h
    refine ⟨got, given, hgot, hgiven, by rw [hthere], hsub, fun hkeeps hsized hest ↦ ?_⟩
    exact hall ⟨hest, hsized, hkeeps⟩

/-- The messages that wait at the server have admissible lengths: they were accepted. -/
theorem length_of_waiting (h₀ : Start dir s₀ s₁ s) (hrun : Execution (EchoStep dir) s ts t)
    (hfew : t.there.accepted.length < 2 ^ 32) (hroom : ∀ x ∈ ts, EchoRoom dir x.1 x.2.1) :
    (t.server.connections dir.j).state = .established ∧
      ∀ chan, t.server.HasChannel dir.j dir.d chan → ∀ p ∈ chan.rQueue.elems,
        1 ≤ p.data.length ∧ p.data.length ≤ gilbertaMtu := by
  obtain ⟨us, hus, hroom⟩ := exists_run hrun hroom
  refine ⟨(h₀.up_run hus).receiver, fun chan hchan p hp ↦ ?_⟩
  obtain ⟨S, hS, hstored⟩ := exists_stored_forward h₀ hus hfew hroom
  have hwaits : p.data ∈ S.delivered := by
    rw [← hstored chan hchan]
    exact List.mem_append_right _ (List.mem_map_of_mem hp)
  have haccepted : p.data ∈ t.there.accepted := by
    have hmem := hS.reachable.inv.delivered.subset hwaits
    rwa [hS.accepted] at hmem
  exact length_of_accepted h₀ hus p.data haccepted

/-- What the server sent back is among what it popped, and is all of it if it keeps up. -/
theorem sublist_popped (h₀ : Start dir s₀ s₁ s) (hrun : Execution (EchoStep dir) s ts t)
    (hfew : t.there.accepted.length < 2 ^ 32) (hroom : ∀ x ∈ ts, EchoRoom dir x.1 x.2.1) :
    t.back.accepted.Sublist t.there.popped ∧
      ((∀ x ∈ ts, KeepsUp dir x.1 x.2.1) → t.back.accepted = t.there.popped) := by
  induction hrun with
  | nil =>
    have hback : s.back.accepted = [] := h₀.backward.accepted
    have hthere : s.there.popped = [] := h₀.forward.popped
    rw [hback, hthere]
    exact ⟨.refl _, fun _ ↦ rfl⟩
  | @snoc t u move ts hrun hstep ih =>
    obtain ⟨got, given, hgot, hgiven, hprefix, hsub, hall⟩ := exists_of_echoStep hstep
    have hfew' := Nat.lt_of_le_of_lt hprefix.length_le hfew
    have hroom' : ∀ x ∈ ts, EchoRoom dir x.1 x.2.1 :=
      fun x hx ↦ hroom x (List.mem_append_left _ hx)
    obtain ⟨hest, hsized⟩ := length_of_waiting h₀ hrun hfew' hroom'
    obtain ⟨hsub', hall'⟩ := ih hfew' hroom'
    rw [hgot, hgiven]
    refine ⟨hsub'.append hsub, fun hkeeps ↦ ?_⟩
    have hlast : KeepsUp dir t move := hkeeps (t, move, u) (by simp)
    rw [hall' fun x hx ↦ hkeeps x (List.mem_append_left _ hx), hall hlast hsized hest]

/-- **The echo comes back in order.** In every run of a client against the echo server in which
fewer than `2 ^ 32` messages are sent and messages that are next find room in the receive queues:

* what the client popped, and then what waits at the client, is a sublist of what it sent: every
  message comes back at most once, and in the order in which the messages were sent;
* if the server's send queue has room whenever its polling loop runs, the messages the client sent
  are, in this order, those it popped, those that wait at the client, those in the server's send
  queue, those that wait at the server and those in the client's send queue, where the head of
  either send queue may have arrived already. -/
theorem echo_in_order (h₀ : Start dir s₀ s₁ s) (hrun : Execution (EchoStep dir) s ts t)
    (hfew : t.there.accepted.length < 2 ^ 32) (hroom : ∀ x ∈ ts, EchoRoom dir x.1 x.2.1) :
    ∃ cchan schan, t.client.HasChannel dir.i dir.c cchan ∧
      t.server.HasChannel dir.j dir.d schan ∧
      (t.back.popped ++ cchan.rQueue.elems.map Glbpkg.data).Sublist t.there.accepted ∧
      ((∀ x ∈ ts, KeepsUp dir x.1 x.2.1) → ∃ k k', k ≤ 1 ∧ k' ≤ 1 ∧
        t.there.accepted = t.back.popped ++ cchan.rQueue.elems.map Glbpkg.data ++
          (schan.sQueue.elems.map Glbpkg.data).drop k' ++
          schan.rQueue.elems.map Glbpkg.data ++
          (cchan.sQueue.elems.map Glbpkg.data).drop k) := by
  obtain ⟨hsub, hall⟩ := sublist_popped h₀ hrun hfew hroom
  obtain ⟨us, hus, hroom⟩ := exists_run hrun hroom
  have hup := h₀.up_run hus
  obtain ⟨S, hS, hstored⟩ := exists_stored_forward h₀ hus hfew hroom
  obtain ⟨cchan, schan, k, hclient, hserver, hk, hthere⟩ := hS.exists_accounting hstored hup
  have hpopped : t.there.popped.Sublist t.there.accepted := by
    rw [show t.there.accepted = _ from hthere, List.append_assoc]
    exact List.sublist_append_left _ _
  -- no more came back than was sent, so the other direction is short as well
  have hshort : t.back.accepted.length < 2 ^ 32 :=
    Nat.lt_of_le_of_lt (hsub.trans hpopped).length_le hfew
  obtain ⟨S', hS', hstored'⟩ := exists_stored_backward h₀ hus hshort hroom
  obtain ⟨schan', cchan', k', hserver', hclient', hk', hback⟩ :=
    hS'.exists_accounting hstored' ⟨hup.receiver, hup.sender⟩
  obtain rfl := hclient.unique hclient'
  obtain rfl := hserver.unique hserver'
  refine ⟨cchan, schan, hclient, hserver, ?_, fun hkeeps ↦ ⟨k, k', hk, hk', ?_⟩⟩
  · have hfirst : (t.back.popped ++ cchan.rQueue.elems.map Glbpkg.data).Sublist
        t.back.accepted := by
      rw [show t.back.accepted = _ from hback]
      exact List.sublist_append_left _ _
    exact hfirst.trans (hsub.trans hpopped)
  · calc t.there.accepted
        = t.there.popped ++ schan.rQueue.elems.map Glbpkg.data ++
            (cchan.sQueue.elems.map Glbpkg.data).drop k := hthere
      _ = t.back.accepted ++ schan.rQueue.elems.map Glbpkg.data ++
            (cchan.sQueue.elems.map Glbpkg.data).drop k := by rw [hall hkeeps]
      _ = _ := by rw [show t.back.accepted = _ from hback]; rfl

/-! ### One message there and back -/

/-- The calls that connect the client of the samples. -/
def sampleClientOps : List (Op Link.edgeClient) :=
  [.connect 0,
    .packet ((glbpkgInit ⟨1, 0⟩ ctrlFlagSynAck 0).withSeqAck Link.serverSeq 0xFFFFFFFF) ⟨0, 0⟩
      (Env.at 2)]

/-- The ticks in which the server accepts it. -/
def sampleServerOps : List (Op Glbcfg.sampleServer) :=
  [.packet ((glbpkgInit ⟨0xFFFF, 0⟩ ctrlFlagSyn 0).withSeqAck 0xFFFFFFFF 0) .samplePeer
      (Env.at 1),
    .packet ((glbpkgInit ⟨1, 0⟩ ctrlFlagAck 0).withSeqAck 0xFFFFFFFF Link.serverSeq) .samplePeer
      (Env.at 3)]

/-- What the server transmits for a byte it echoes. -/
def sampleEcho (byte : UInt8) : Glbpkg :=
  { (Glbpkg.sampleData ⟨1, 0⟩ 0).withSeqAck Link.serverSeq 0 with data := [byte] }.seal

/-- The client sends one byte; the server polls the CONNECT and the RECEIVE event and echoes it; the
client pops it. -/
def sampleConversation : List (EchoMove Link.edgeClient Glbcfg.sampleServer) :=
  [.client (Link.sampleSend 1 4), .client (.timers ⟨0, Nat.one_pos⟩ (Env.at 5)),
    .tick (.packet (Link.sampleData 1 0xFFFFFFFF) .samplePeer (Env.at 6)), .poll 7, .poll 8,
    .tick (.timers ⟨0, Nat.two_pos⟩ (Env.at 9)),
    .client (.packet (sampleEcho 1) ⟨0, 0⟩ (Env.at 10)),
    .client (.popdata ⟨true, some ⟨0, Nat.one_pos⟩, 1024, 0⟩)]

/-- The two contexts of the samples, connected. -/
def sampleDuplex : Option (Duplex Link.edgeClient Glbcfg.sampleServer) :=
  (Execution.perform Glbctx.step sampleClientOps (Glbctx.init _)).bind fun a ↦
  (Execution.perform Glbctx.step sampleServerOps (Glbctx.init _)).map fun b ↦
    ⟨a.2, b.2, ⟨[], [], [], []⟩, ⟨[], [], [], []⟩⟩

/-- The conversation of the samples can start. -/
theorem exists_start_sampleDuplex : ∃ s, sampleDuplex = some s ∧
    Start Link.sampleDirection 0xFFFFFFFF Link.serverSeq s := by
  obtain ⟨l, hl, hforward⟩ := @Link.exists_start _ _ Link.sampleDirection 0xFFFFFFFF
    sampleClientOps sampleServerOps (by decide +kernel)
  obtain ⟨l', hl', hbackward⟩ := @Link.exists_start _ _ Link.sampleDirection.reverse
    Link.serverSeq sampleServerOps sampleClientOps (by decide +kernel)
  obtain ⟨a, ha, hl⟩ := Option.bind_eq_some_iff.1 hl
  obtain ⟨b, hb, rfl⟩ := Option.map_eq_some_iff.1 hl
  rw [Link.linkAfter, hb, Option.bind_some, ha] at hl'
  cases hl'
  refine ⟨⟨a.2, b.2, ⟨[], [], [], []⟩, ⟨[], [], [], []⟩⟩, ?_, hforward, hbackward⟩
  rw [sampleDuplex, ha, Option.bind_some, hb]
  rfl

/-- The byte comes back. -/
theorem echo_in_order_sample :
    ∃ (s t : Duplex Link.edgeClient Glbcfg.sampleServer) (ts : List _),
      Start Link.sampleDirection 0xFFFFFFFF Link.serverSeq s ∧
      Execution (EchoStep Link.sampleDirection) s ts t ∧ t.there.accepted = [[1]] ∧
      t.back.popped = [[1]] ∧
      ∃ cchan, t.client.HasChannel Link.sampleDirection.i Link.sampleDirection.c cchan ∧
        (t.back.popped ++ cchan.rQueue.elems.map Glbpkg.data).Sublist t.there.accepted := by
  obtain ⟨s, hs, h₀⟩ := exists_start_sampleDuplex
  have hsteps : (sampleDuplex.bind fun s ↦
      Execution.perform (echoNext Link.sampleDirection) sampleConversation s).map (fun r ↦
        (r.2.there.accepted, r.2.back.popped,
          decide (∀ x ∈ r.1, EchoRoom Link.sampleDirection x.1 x.2.1))) =
      some ([[1]], [[1]], true) := by decide +kernel
  rw [hs, Option.bind_some] at hsteps
  obtain ⟨r, hr, heq⟩ := Option.map_eq_some_iff.1 hsteps
  simp only [Prod.mk.injEq] at heq
  obtain ⟨haccepted, hpopped, hroom⟩ := heq
  have hrun : Execution (EchoStep Link.sampleDirection) s r.1 r.2 :=
    (Execution.nil.append_perform hr).mono fun _ _ _ ↦ step_of_echoNext
  obtain ⟨cchan, -, hclient, -, hsub, -⟩ := echo_in_order h₀ hrun (by rw [haccepted]; decide)
    (of_decide_eq_true hroom)
  exact ⟨s, r.2, r.1, h₀, hrun, haccepted, hpopped, cchan, hclient, hsub⟩

end Duplex

end Gilberta
