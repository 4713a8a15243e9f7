import Gilberta.Link.Simulation
import Gilberta.Session.Handshake

/-!
# From the handshake to the transfer

A session seen as a link: the messages accepted are those the client enqueued since its CONNECT, and
what is in flight is everything that was ever sent on the channel. If the client connects once, and
one slot of the server becomes established once, by an ACK that carries the number of the SYN, then
the session implements stop and wait from the first message on (`exists_transfer`): the number the
server waits for is the number of the first message. Hence a DATA packet that is acknowledged as old
was delivered before (`delivers_of_old`).
-/

namespace Gilberta

variable {cfgA cfgB : Glbcfg}

/-- Whether a channel is configured reliable. -/
def Glbchan.reliable (config : Glbchan) : Bool := config.flags &&& channelFlagReliable != 0

theorem Glbchannel.IsNew.reliable_eq {config : Glbchan} {chan : Glbchannel}
    (h : chan.IsNew config) : chan.reliable = config.reliable := by
  rw [Glbchannel.reliable, h.flags]
  rfl

/-- The packets on channel `c` among what was sent, with the given control flags. -/
def sentOn (flags : UInt8) {m : ℕ} (c : Fin m) (sock : List Datagram) : List Glbpkg :=
  (sock.map Datagram.pkg).filter fun p ↦
    p.header.ctrlFlags = flags ∧ p.header.channelId.toNat = c.val

namespace Glbctx

variable {cfg : Glbcfg} {ctx ctx' : Glbctx cfg} {op : Op cfg} {i : Fin cfg.connectionCount}
  {c : Fin cfg.channelCount}

/-- What was sent on a channel after a step was sent before, or in the step. -/
theorem mem_sentOn {flags : UInt8} {p : Glbpkg} (h : Step ctx op ctx')
    (hp : p ∈ sentOn flags c ctx'.sock) : p ∈ sentOn flags c ctx.sock ∨
      p.header.channelId.toNat = c.val ∧ p ∈ sentWith flags (ctx, op, ctx') ∧
        ∃ d, Emitted ctx op d ∧ d.pkg = p ∧ p.header.ctrlFlags = flags := by
  obtain ⟨ds, hsock, hemit⟩ := step_emits h
  obtain ⟨hmem, hcond⟩ := List.mem_filter.1 hp
  obtain ⟨hflags, hc⟩ := of_decide_eq_true hcond
  obtain ⟨d, hd, rfl⟩ := List.mem_map.1 hmem
  rw [hsock] at hd
  rcases List.mem_append.1 hd with hd | hd
  · exact Or.inl (List.mem_filter.2 ⟨List.mem_map_of_mem hd, hcond⟩)
  · have hdrop : ctx'.sock.drop ctx.sock.length = ds := by rw [hsock, List.drop_left]
    refine Or.inr ⟨hc, ?_, d, hemit d hd, rfl, hflags⟩
    refine List.mem_filter.2 ⟨List.mem_map_of_mem ?_, decide_eq_true hflags⟩
    show d ∈ ctx'.sock.drop ctx.sock.length
    rwa [hdrop]

/-- What the only slot sends on a channel. -/
theorem sentOn_data (hmode : cfg.isServer = false) (h : Step ctx op ctx') :
    sentOn ctrlFlagData c ctx'.sock ⊆
      sentOn ctrlFlagData c ctx.sock ++ transmittedOn i c (ctx, op, ctx') := by
  intro p hp
  rcases mem_sentOn h hp with hold | ⟨hc, hsent, d, hd, rfl, hflags⟩
  · exact List.mem_append_left _ hold
  · obtain ⟨k, env, -, rfl, -⟩ := emitted_data hd hflags
    obtain rfl : k = i := by
      apply Fin.ext
      rw [Glbcfg.val_eq_zero hmode k, Glbcfg.val_eq_zero hmode i]
    refine List.mem_append_right _ ?_
    rw [transmittedOn]
    dsimp only
    rw [if_pos rfl]
    exact List.mem_filter.2 ⟨hsent, decide_eq_true hc⟩

/-- What the only established slot answers on a channel. -/
theorem sentOn_dataAck (htag : ctx.Tagged)
    (honly : ∀ j, (ctx.connections j).state = .established → j = i) (h : Step ctx op ctx') :
    sentOn ctrlFlagDataAck c ctx'.sock ⊆
      sentOn ctrlFlagDataAck c ctx.sock ++ answeredOn i c (ctx, op, ctx') := by
  intro p hp
  rcases mem_sentOn h hp with hold | ⟨hc, hsent, d, hd, rfl, hflags⟩
  · exact List.mem_append_left _ hold
  · obtain ⟨pkg, from_, env, j, d', chs, rfl, hdata, hreach, hpkg⟩ := emitted_dataAck htag hd hflags
    obtain rfl := honly j hreach.established
    have hchannel : pkg.header.channelId.toNat = c.val := by
      rw [hpkg] at hc
      exact hc
    refine List.mem_append_right _ ?_
    rw [answeredOn]
    dsimp only
    rw [if_pos ⟨hdata, hreach.finds, hchannel⟩]
    exact hsent

/-- Without an established slot no message is sent. -/
theorem sentOn_data_of_down (hdown : ∀ j, (ctx.connections j).state ≠ .established)
    (h : Step ctx op ctx') :
    sentOn ctrlFlagData c ctx'.sock ⊆ sentOn ctrlFlagData c ctx.sock ++ [] := by
  rw [List.append_nil]
  intro p hp
  rcases mem_sentOn h hp with hold | ⟨-, -, d, hd, rfl, hflags⟩
  · exact hold
  · obtain ⟨j, -, -, -, hest, -⟩ := emitted_data hd hflags
    exact absurd hest (hdown j)

/-- Nor is one answered. -/
theorem sentOn_dataAck_of_down (htag : ctx.Tagged)
    (hdown : ∀ j, (ctx.connections j).state ≠ .established) (h : Step ctx op ctx') :
    sentOn ctrlFlagDataAck c ctx'.sock ⊆ sentOn ctrlFlagDataAck c ctx.sock ++ [] := by
  rw [List.append_nil]
  intro p hp
  rcases mem_sentOn h hp with hold | ⟨-, -, d, hd, rfl, hflags⟩
  · exact hold
  · obtain ⟨pkg, from_, env, j, d', chs, -, -, hreach, -⟩ := emitted_dataAck htag hd hflags
    exact absurd hreach.established (hdown j)

/-- The payloads of what is enqueued on a channel of the only slot are the payloads accepted. -/
theorem map_enqueuedBy (hmode : cfg.isServer = false) (h : Step ctx op ctx') :
    (ctx.enqueuedBy c op).map Glbpkg.data = ctx.acceptedBy i c op := by
  cases op with
  | send info now =>
    obtain ⟨⟨code, ctx₁⟩, hsend, rfl⟩ := Option.map_eq_some_iff.1 h
    cases id (glbSend_effect hsend) with
    | refused error hcode =>
      have hnot : code ≠ .success := hcode
      rw [enqueuedBy, acceptedBy, hsend]
      cases code with
      | success => exact absurd rfl hnot
      | _ => rfl
    | @queued j d chs data hcon hdata hd _ hchs hroom =>
      obtain rfl : j = i := by
        apply Fin.ext
        rw [Glbcfg.val_eq_zero hmode j, Glbcfg.val_eq_zero hmode i]
      rw [enqueuedBy, acceptedBy, hsend, hcon, hdata]
      dsimp only
      rw [hchs]
      by_cases hc : info.channelId.toNat = c.val
      · rw [if_pos hc, if_pos ⟨rfl, hc⟩]
        rfl
      · rw [if_neg hc, if_neg fun h ↦ hc h.2]
        rfl
  | connect | close | pollevent | popdata | readError | packet | timers => rfl

/-- A packet taken on a reliable channel that has room for it is put into the receive queue. -/
theorem stored_of_takenBy {chan : Glbchannel} {data : List UInt8} (h : Step ctx op ctx')
    (hest : (ctx.connections i).state = .established) (hchan : ctx.HasChannel i c chan)
    (hrel : chan.reliable = true) (htaken : ctx.takenBy i c op = [data])
    (hroom : chan.rQueue.isFull = false) : ∃ pkg from_ env chan', op = .packet pkg from_ env ∧
      pkg.header.seq = chan.ack ∧ pkg.data = data ∧ ctx'.HasChannel i c chan' ∧
      chan'.rQueue.elems = chan.rQueue.elems ++ [pkg] := by
  obtain ⟨-, pkg, from_, env, chs, rfl, hflags, hreach, hseq, hpayload⟩ := takenBy_cases hest htaken
  obtain rfl := hchan.unique ⟨chs, hreach.channels, rfl⟩
  have hdata := (handlePacket_of_data hflags).symm.trans h
  cases onData_effect hdata with
  | ignored _ hnot => exact absurd ⟨hrel, hseq⟩ (hnot _ _ _ hreach).2
  | old hreach' _ hlt =>
    obtain ⟨rfl, rfl, rfl⟩ := hreach.unique hreach'
    exact absurd hseq (UInt32.ne_of_lt hlt)
  | future hreach' _ hlt =>
    obtain ⟨rfl, rfl, rfl⟩ := hreach.unique hreach'
    exact absurd hseq (UInt32.ne_of_lt hlt).symm
  | accepted hreach' _ _ hb =>
    obtain ⟨rfl, rfl, rfl⟩ := hreach.unique hreach'
    exact ⟨pkg, from_, env, acceptedChan (chs.chan c) pkg, rfl, hseq, hpayload,
      ⟨_, by rw [hb.self], if_pos rfl⟩, elems_acceptedChan pkg hroom⟩

end Glbctx

namespace Session

open Glbctx (HasChannel initialSeq)
open Link (Genuine SendSide RecvSide Tracks RoomFor)

variable {addr : Glbaddr} {s s' s₀ : Session cfgA cfgB} {dir : Direction cfgA cfgB}
  {ts : List (Transition cfgA cfgB)} {S : StopAndWait (List UInt8)}

/-- The session as a link for one direction from the client to the server. -/
def link (dir : Direction cfgA cfgB) (s : Session cfgA cfgB) : Link cfgA cfgB where
  sender := s.client
  receiver := s.server
  accepted := (s.enqueued dir.c).map Glbpkg.data
  popped := []
  data := sentOn ctrlFlagData dir.c s.client.sock
  acks := sentOn ctrlFlagDataAck dir.d s.server.sock

theorem length_accepted_link :
    (link dir s).accepted.length = (s.enqueued dir.c).length := List.length_map _

/-- What the network of a session delivers to a channel was sent on the channel. -/
theorem genuine_of_carried {cfg : Glbcfg} {m : ℕ} {op : Op cfg} {ctx : Glbctx cfg}
    {sock : List Datagram} {flags : UInt8} {i : Fin cfg.connectionCount}
    {c : Fin cfg.channelCount} {d : Fin m} (h : op.Carried sock) (hcd : c.val = d.val) :
    Genuine ctx i c flags (sentOn flags d sock) op := by
  cases op with
  | packet pkg from_ env =>
    intro hflags _ hc
    obtain ⟨q, hq, hheader, hdata⟩ := h
    refine ⟨q.pkg, List.mem_filter.2 ⟨List.mem_map_of_mem hq, decide_eq_true ?_⟩, hheader, hdata⟩
    rw [← hheader]
    exact ⟨hflags, hc.trans hcd⟩
  | connect | close | send | pollevent | popdata | readError | timers => trivial

/-! ### Steps of the client -/

/-- If nothing was accepted, nothing was done. -/
theorem fresh_of_accepted (hS : S.Reachable) (h : S.accepted = []) :
    S.base = 0 ∧ S.delivered = [] := by
  have hI : S.Inv := hS.inv
  have hdel : S.delivered = [] := by
    have hpre := hI.delivered
    rw [h] at hpre
    exact List.prefix_nil.1 hpre
  have hle := hI.base_le
  rw [hdel] at hle
  exact ⟨Nat.le_zero.1 hle, hdel⟩

/-- A step of an established client is at most one step of the protocol. -/
theorem tracks_of_client_up {op : Op cfgA} {ctx : Glbctx cfgA} (h₀ : Start addr s₀)
    (hfew : (s.enqueued dir.c).length < 2 ^ 32) (h : Tracks dir (initialSeq cfgA) (link dir s) S)
    (hest : (s.client.connections dir.i).state = .established)
    (hstep : Glbctx.Step s.client op ctx) (hnet : op.Carried s.server.sock)
    (hnot : ¬ s.client.Connects op) :
    ∃ S', Tracks dir (initialSeq cfgA)
      (link dir { s with client := ctx, enqueued := s.enqueuedAfter op }) S' ∧
      S'.delivered = S.delivered := by
  have hdata := Glbctx.sentOn_data (i := dir.i) (c := dir.c) h₀.mode hstep
  obtain ⟨S', hS', hdel⟩ := Link.tracks_of_sender h hest (length_accepted_link.trans_lt hfew) hstep
    (genuine_of_carried hnet dir.same)
  refine ⟨S', hS'.of_subset rfl rfl ?_ hdata fun _ hp ↦ hp, hdel⟩
  show (s.enqueuedAfter op dir.c).map Glbpkg.data = _
  rw [enqueuedAfter, if_neg hnot, List.map_append, Glbctx.map_enqueuedBy h₀.mode hstep]
  rfl

/-- A client that connects has nothing enqueued: the transfer starts. -/
theorem tracks_of_connects {op : Op cfgA} {ctx : Glbctx cfgA} (h₀ : Start addr s₀)
    (hrun : Execution (Step addr) s₀ ts s) (hrel : (cfgA.channels.get dir.c).reliable = true)
    (h : Tracks dir (initialSeq cfgA) (link dir s) S)
    (hconnecting : ∀ i, (s.client.connections i).state = .synSent)
    (hstep : Glbctx.Step s.client op ctx) (hc : s.client.Connects op) :
    Tracks dir (initialSeq cfgA)
      (link dir { s with client := ctx, enqueued := s.enqueuedAfter op }) S := by
  have hdown : ∀ i, (s.client.connections i).state ≠ .established := fun i ↦ by
    rw [hconnecting i]
    decide
  obtain ⟨henq, -⟩ := untouched_of_synSent h₀ hrun hconnecting
  have hnone : S.accepted = [] := by
    rw [h.accepted]
    show (s.enqueued dir.c).map Glbpkg.data = []
    rw [henq]
    rfl
  obtain ⟨hbase, -⟩ := fresh_of_accepted h.reachable hnone
  refine (h.of_sender hstep h.reachable (List.append_nil _).symm rfl rfl (fun _ hw ↦ hw)
    (fun hest' ↦ ?_) fun _ hp ↦ by cases hp).of_subset rfl rfl ?_
    (Glbctx.sentOn_data_of_down hdown hstep) fun _ hp ↦ hp
  · obtain ⟨pkg, from_, env, chs, rfl, hnew, hchs⟩ := Glbctx.opened_of_connects h₀.mode hstep hc
    have hq := (hnew dir.c).sQueue.elems
    refine ⟨_, ⟨_, hchs dir.i, rfl⟩, (hnew dir.c).reliable_eq.trans hrel, ?_, ?_, fun k p hp ↦ ?_⟩
    · rw [hnone]
      exact ((h₀.consistent_run hrun).client.seq dir.i).trans (numbered_zero _).symm
    · rw [hnone, hbase]
      exact congrArg (List.map Glbpkg.data) hq
    · change (chs.chan dir.c).sQueue.elems[k]? = some p at hp
      rw [hq] at hp
      cases hp
  · show (s.enqueuedAfter op dir.c).map Glbpkg.data = (s.enqueued dir.c).map Glbpkg.data ++ []
    rw [enqueuedAfter, if_pos hc, henq]
    rfl

/-- A client that is not established and does not connect does nothing to the transfer. -/
theorem tracks_of_client_down {op : Op cfgA} {ctx : Glbctx cfgA} (h₀ : Start addr s₀)
    (hrun : Execution (Step addr) s₀ ts s) (h : Tracks dir (initialSeq cfgA) (link dir s) S)
    (hdown : ∀ i, (s.client.connections i).state ≠ .established)
    (hstep : Glbctx.Step s.client op ctx) (hnet : op.Carried s.server.sock)
    (hnot : ¬ s.client.Connects op) :
    Tracks dir (initialSeq cfgA)
      (link dir { s with client := ctx, enqueued := s.enqueuedAfter op }) S := by
  have hstay : (ctx.connections dir.i).state ≠ .established := by
    rcases client_change (h₀.consistent_run hrun).server hstep hnet dir.i with
      hon | ⟨hyes, -⟩ | ⟨-, -, -, hend | hend⟩
    · rw [hon.state]; exact hdown dir.i
    · exact absurd hyes hnot
    · rw [hend]; decide
    · rw [hend]; decide
  refine (h.of_sender_down hstep hstay).of_subset rfl rfl ?_
    (Glbctx.sentOn_data_of_down hdown hstep) fun _ hp ↦ hp
  show (s.enqueuedAfter op dir.c).map Glbpkg.data = (s.enqueued dir.c).map Glbpkg.data ++ []
  rw [enqueuedAfter, if_neg hnot, Glbctx.enqueuedBy_eq_nil hstep hdown, List.map_append]
  rfl

/-- A step of the client is at most one step of the protocol, unless it connects anew. -/
theorem tracks_of_client {op : Op cfgA} {ctx : Glbctx cfgA} (h₀ : Start addr s₀)
    (hrun : Execution (Step addr) s₀ ts s) (hrel : (cfgA.channels.get dir.c).reliable = true)
    (hfew : (s.enqueued dir.c).length < 2 ^ 32) (h : Tracks dir (initialSeq cfgA) (link dir s) S)
    (hstep : Glbctx.Step s.client op ctx) (hnet : op.Carried s.server.sock)
    (hconn : s.client.Connects op → ∀ i, (s.client.connections i).state = .synSent) :
    ∃ S', Tracks dir (initialSeq cfgA)
      (link dir { s with client := ctx, enqueued := s.enqueuedAfter op }) S' ∧
      S'.delivered = S.delivered := by
  by_cases hc : s.client.Connects op
  · exact ⟨S, tracks_of_connects h₀ hrun hrel h (hconn hc) hstep hc, rfl⟩
  by_cases hest : (s.client.connections dir.i).state = .established
  · exact tracks_of_client_up h₀ hfew h hest hstep hnet hc
  have hdown : ∀ i, (s.client.connections i).state ≠ .established := by
    intro i
    obtain rfl : i = dir.i := by
      apply Fin.ext
      rw [Glbcfg.val_eq_zero h₀.mode i, Glbcfg.val_eq_zero h₀.mode dir.i]
    exact hest
  exact ⟨S, tracks_of_client_down h₀ hrun h hdown hstep hnet hc, rfl⟩

/-! ### Steps of the server -/

/-- The server puts a packet with the given number and payload into the receive queue of the
channel. -/
def Delivers (dir : Direction cfgA cfgB) (x : Transition cfgA cfgB) (seq : UInt32)
    (data : List UInt8) : Prop :=
  ∃ pkg from_ env chan chan', x.2.1 = .inr (.packet pkg from_ env) ∧ pkg.header.seq = seq ∧
    pkg.data = data ∧ x.1.server.HasChannel dir.j dir.d chan ∧
    x.2.2.server.HasChannel dir.j dir.d chan' ∧
    chan'.rQueue.elems = chan.rQueue.elems ++ [pkg]

/-- If slot `j` becomes established by a packet, the packet passes the comparison that the code
makes and only logs: it carries the number the slot was opened with. -/
def Confirms (j : Fin cfgB.connectionCount) : Transition cfgA cfgB → Prop
  | (s, .inr (.packet pkg from_ env), s') => Establishes j (s, .inr (.packet pkg from_ env), s') →
      pkg.header.seq = (s.server.connections j).ack
  | _ => True

/-- What a session has to keep to so that a direction works: the client connects only while it is
connecting, only the slot of the direction becomes established, by an ACK with the number the slot
was opened with, and there is room for every message that is next. -/
structure Orderly (dir : Direction cfgA cfgB) (x : Transition cfgA cfgB) : Prop where
  /-- A SYN|ACK finds the client connecting, or established. -/
  connects : ConnectsAt x → ∀ i, (x.1.client.connections i).state = .synSent
  /-- Only the slot of the direction becomes established. -/
  only : ∀ j, Establishes j x → j = dir.j
  /-- The ACK carries the number of the SYN. -/
  confirms : Confirms dir.j x
  /-- A message that is next finds room. -/
  room : RoomFor dir (link dir x.1) x.2.1

/-- A step of an established server is at most two steps of the protocol. -/
theorem tracks_of_server_up {op : Op cfgB} {ctx : Glbctx cfgB}
    (hfew : (s.enqueued dir.c).length < 2 ^ 32) (h : Tracks dir (initialSeq cfgA) (link dir s) S)
    (hest : (s.server.connections dir.j).state = .established)
    (hstep : Glbctx.Step s.server op ctx) (hnet : op.Carried s.client.sock)
    (hroom : RoomFor dir (link dir s) (.inr op))
    (hacks : sentOn ctrlFlagDataAck dir.d ctx.sock ⊆
      (link dir s).acks ++ Glbctx.answeredOn dir.j dir.d (s.server, op, ctx)) :
    ∃ S', Tracks dir (initialSeq cfgA) (link dir { s with server := ctx }) S' ∧
      (S'.delivered = S.delivered ∨ ∃ data, S'.delivered = S.delivered ++ [data] ∧
        Delivers dir (s, .inr op, { s with server := ctx })
          (numbered (initialSeq cfgA) S.delivered.length) data) := by
  obtain ⟨S', htaken, hS', -⟩ := Link.tracks_of_receiver h hest
    (length_accepted_link.trans_lt hfew) hstep (genuine_of_carried hnet dir.same.symm)
  refine ⟨S', hS'.of_subset rfl rfl rfl (fun _ hp ↦ hp) hacks, ?_⟩
  rw [show (link dir s).receiver = s.server from rfl] at htaken
  rcases hlist : s.server.takenBy dir.j dir.d op with - | ⟨data, rest⟩
  · rw [hlist, List.append_nil] at htaken
    exact Or.inl htaken
  · -- at most one packet is taken, and the channel has room for it
    obtain ⟨rfl, pkg, from_, env, chs, rfl, hflags, hreach, hseq, -⟩ :=
      Glbctx.takenBy_cases hest hlist
    obtain ⟨chan, hchan⟩ := h.recvSide hest
    obtain rfl := hchan.has.unique ⟨chs, hreach.channels, rfl⟩
    obtain ⟨pkg, from_, env, chan', ⟨rfl, rfl, rfl⟩, hseq, hdata, hchan', helems⟩ :=
      Glbctx.stored_of_takenBy hstep hest hchan.has hchan.reliable hlist
        (hroom hflags chs hreach hseq)
    rw [hlist] at htaken
    exact Or.inr ⟨data, htaken, pkg, from_, env, _, chan', rfl, hseq.trans hchan.ack, hdata,
      hchan.has, hchan', helems⟩

/-- The slot becomes established: its channel waits for the first message. -/
theorem tracks_of_establishes {op : Op cfgB} {ctx : Glbctx cfgB} (h₀ : Start addr s₀)
    (hrun : Execution (Step addr) s₀ ts s) (hrel : (cfgB.channels.get dir.d).reliable = true)
    (h : Tracks dir (initialSeq cfgA) (link dir s) S)
    (hstep : Step addr s (.inr op) { s with server := ctx })
    (hconfirms : Confirms dir.j (s, .inr op, { s with server := ctx }))
    (hestablishes : Establishes dir.j (s, .inr op, { s with server := ctx }))
    (hfresh : S.delivered = [])
    (hacks : sentOn ctrlFlagDataAck dir.d ctx.sock ⊆ (link dir s).acks ++ []) :
    Tracks dir (initialSeq cfgA) (link dir { s with server := ctx }) S := by
  have hcons := h₀.consistent_run hrun
  obtain ⟨pkg, from_, env, chs, heq, hstate, hchs, hopened⟩ :=
    ack_of_establishes hcons hstep hestablishes
  obtain rfl : op = .packet pkg from_ env := Sum.inr.inj heq
  have hseq := hconfirms hestablishes
  obtain ⟨-, hack⟩ := hcons.server.of_open (j := dir.j) (by rw [hstate]; decide)
  have hnew := hopened dir.d
  have htracks : Tracks dir (initialSeq cfgA) { link dir s with
      receiver := ctx
      popped := (link dir s).popped ++ []
      acks := (link dir s).acks ++ [] } S := by
    refine h.of_receiver h.reachable rfl rfl rfl (fun _ hk ↦ hk) (fun _ ↦ ?_)
      fun _ hp ↦ by cases hp
    refine ⟨chs.chan dir.d, ⟨chs, hchs, rfl⟩, hnew.reliable_eq.trans hrel, ?_⟩
    rw [hfresh]
    exact hnew.ack_eq.trans (hseq.trans (hack.trans (numbered_zero _).symm))
  exact htracks.of_subset rfl rfl rfl (fun _ hp ↦ hp) hacks

/-- A step of the server is at most two steps of the protocol, unless its slot becomes
established. -/
theorem tracks_of_server {op : Op cfgB} (h₀ : Start addr s₀)
    (hrun : Execution (Step addr) s₀ ts s) (hrel : (cfgB.channels.get dir.d).reliable = true)
    (hfew : (s.enqueued dir.c).length < 2 ^ 32) (h : Tracks dir (initialSeq cfgA) (link dir s) S)
    (hstep : Step addr s (.inr op) s') (hord : Orderly dir (s, .inr op, s'))
    (honly : ∀ j, (s.server.connections j).state = .established → j = dir.j)
    (hfresh : Establishes dir.j (s, .inr op, s') → S.delivered = []) :
    ∃ S', Tracks dir (initialSeq cfgA) (link dir s') S' ∧ (S'.delivered = S.delivered ∨
      (s.server.connections dir.j).state = .established ∧
        ∃ data, S'.delivered = S.delivered ++ [data] ∧
          Delivers dir (s, .inr op, s') (numbered (initialSeq cfgA) S.delivered.length) data) := by
  have htag := (h₀.consistent_run hrun).server.tagged
  have hwhole := hstep
  rcases hstep with - | @⟨_, ctx, hstep, hnet, -⟩
  by_cases hest : (s.server.connections dir.j).state = .established
  · obtain ⟨S', hS', hdel⟩ := tracks_of_server_up hfew h hest hstep hnet hord.room
      (Glbctx.sentOn_dataAck htag honly hstep)
    exact ⟨S', hS', hdel.imp_right fun hdata ↦ ⟨hest, hdata⟩⟩
  -- a server without an established slot answers no message
  have hacks : sentOn ctrlFlagDataAck dir.d ctx.sock ⊆ (link dir s).acks ++ [] :=
    Glbctx.sentOn_dataAck_of_down htag (fun j hj ↦ hest (honly j hj ▸ hj)) hstep
  by_cases hnow : (ctx.connections dir.j).state = .established
  · exact ⟨S, tracks_of_establishes h₀ hrun hrel h hwhole hord.confirms ⟨hest, hnow⟩
      (hfresh ⟨hest, hnow⟩) hacks, Or.inl rfl⟩
  · exact ⟨S, (h.of_receiver_down hnow).of_subset rfl rfl rfl (fun _ hp ↦ hp) hacks, Or.inl rfl⟩

/-! ### Whole sessions -/

/-- The condition under which a direction loses nothing: both ends are configured reliable, every
step is orderly, the slot becomes established once, and fewer than `2 ^ 32` messages are enqueued.
-/
structure OrderlyRun (dir : Direction cfgA cfgB) (ts : List (Transition cfgA cfgB))
    (s : Session cfgA cfgB) : Prop where
  /-- The client's channel is reliable. -/
  client : (cfgA.channels.get dir.c).reliable = true
  /-- So is the server's. -/
  server : (cfgB.channels.get dir.d).reliable = true
  /-- Every step is orderly. -/
  step : ∀ x ∈ ts, Orderly dir x
  /-- The slot becomes established at most once. -/
  once : ts.Pairwise fun x y ↦ Establishes dir.j x → ¬ Establishes dir.j y
  /-- Numbers tell messages apart. -/
  few : (s.enqueued dir.c).length < 2 ^ 32

theorem tracks_of_start (h₀ : Start addr s) :
    Tracks dir (initialSeq cfgA) (link dir s) .start where
  reachable := .refl
  accepted := by
    show [] = (s.enqueued dir.c).map Glbpkg.data
    rw [h₀.enqueued]
    rfl
  tagged := h₀.consistent.client.tagged
  sendSide := by
    intro hest
    obtain ⟨-, hslot⟩ := h₀.client_eq
    rw [show (link dir s).sender = s.client from rfl, (hslot dir.i).1] at hest
    cases hest
  recvSide := by
    intro hest
    rw [show (link dir s).receiver = s.server from rfl, h₀.server] at hest
    cases hest
  data := by
    obtain ⟨hsock, -⟩ := h₀.client_eq
    show ∀ p ∈ sentOn _ _ s.client.sock, _
    rw [hsock]
    intro p hp
    cases hp
  acks := by
    show ∀ p ∈ sentOn _ _ s.server.sock, _
    rw [h₀.server]
    intro p hp
    cases hp

/-- In an orderly session the client's application enqueues more and more. -/
theorem length_enqueued_le {lab : Op cfgA ⊕ Op cfgB} (h₀ : Start addr s₀)
    (hrun : Execution (Step addr) s₀ ts s) (hstep : Step addr s lab s')
    (hord : Orderly dir (s, lab, s')) :
    (s.enqueued dir.c).length ≤ (s'.enqueued dir.c).length := by
  rcases hstep with @⟨op, ctx, -, -⟩ | -
  · show _ ≤ (s.enqueuedAfter op dir.c).length
    rw [enqueuedAfter]
    split
    · next hconn =>
      obtain ⟨henq, -⟩ := untouched_of_synSent h₀ hrun (hord.connects hconn)
      rw [henq]
    · exact (List.prefix_append _ _).length_le
  · exact Nat.le_refl _

/-- **An orderly session implements stop and wait**, from the number of the client's context on.
What the transfer has delivered the server has put into its receive queue. -/
theorem exists_transfer (h₀ : Start addr s₀) (hrun : Execution (Step addr) s₀ ts s)
    (hord : OrderlyRun dir ts s) : ∃ S, Tracks dir (initialSeq cfgA) (link dir s) S ∧
      ((∀ x ∈ ts, ¬ Establishes dir.j x) → S.delivered = []) ∧
      ∀ (k : ℕ) (data : List UInt8), S.delivered[k]? = some data →
        ∃ x ∈ ts, Delivers dir x (numbered (initialSeq cfgA) k) data := by
  obtain ⟨hA, hB, hsteps, honce, hfew⟩ := hord
  induction hrun with
  | nil => exact ⟨.start, tracks_of_start h₀, fun _ ↦ rfl, fun k data h ↦ by cases h⟩
  | @snoc s s' lab ts hrun hstep ih =>
    have hlast : Orderly dir (s, lab, s') := hsteps _ (by simp)
    have hbefore : ∀ x ∈ ts, Orderly dir x := fun x hx ↦ hsteps x (List.mem_append_left _ hx)
    obtain ⟨honce, -, hapart⟩ := List.pairwise_append.1 honce
    have hbound := Nat.lt_of_le_of_lt (length_enqueued_le h₀ hrun hstep hlast) hfew
    obtain ⟨S, hS, hfresh, hdelivers⟩ := ih hbefore honce hbound
    have hkeep : ∀ (k : ℕ) (data : List UInt8), S.delivered[k]? = some data →
        ∃ x ∈ ts ++ [(s, lab, s')], Delivers dir x (numbered (initialSeq cfgA) k) data := by
      intro k data hk
      obtain ⟨x, hx, hdel⟩ := hdelivers k data hk
      exact ⟨x, List.mem_append_left _ hx, hdel⟩
    rcases lab with op | op
    · -- a step of the client delivers nothing
      obtain ⟨S', hS', hdel⟩ : ∃ S', Tracks dir (initialSeq cfgA) (link dir s') S' ∧
          S'.delivered = S.delivered := by
        rcases hstep with ⟨hstep, hnet⟩
        exact tracks_of_client h₀ hrun hA hbound hS hstep hnet hlast.connects
      rw [← hdel] at hkeep
      exact ⟨S', hS', fun hnone ↦ hdel.trans
        (hfresh fun x hx ↦ hnone x (List.mem_append_left _ hx)), hkeep⟩
    · -- one of the server delivers one message at most, to the slot that was established
      have honly : ∀ j, (s.server.connections j).state = .established → j = dir.j := by
        intro j hest
        obtain ⟨x, hx, hestablishes⟩ := establishes_of_run h₀ hrun hest
        exact (hbefore x hx).only j hestablishes
      obtain ⟨S', hS', hdel⟩ := tracks_of_server h₀ hrun hB hbound hS hstep hlast honly
        fun hnow ↦ hfresh fun x hx hold ↦ hapart x hx _ List.mem_cons_self hold hnow
      refine ⟨S', hS', ?_⟩
      rcases hdel with hdel | ⟨hest, data, hdel, hnew⟩
      · rw [hdel]
        exact ⟨fun hnone ↦ hfresh fun x hx ↦ hnone x (List.mem_append_left _ hx), hkeep⟩
      · refine ⟨fun hnone ↦ ?_, fun k data' hk ↦ ?_⟩
        · obtain ⟨x, hx, hestablishes⟩ := establishes_of_run h₀ hrun hest
          exact absurd hestablishes (hnone x (List.mem_append_left _ hx))
        · rw [hdel] at hk
          rcases Nat.lt_or_ge k S.delivered.length with hlt | hge
          · rw [List.getElem?_append_left hlt] at hk
            exact hkeep k data' hk
          · -- the message delivered in this step
            obtain ⟨hlen, -⟩ := List.getElem?_eq_some_iff.1 hk
            rw [List.length_append, List.length_singleton] at hlen
            obtain rfl : k = S.delivered.length := by omega
            rw [List.getElem?_append_right hge, Nat.sub_self] at hk
            obtain rfl : data = data' := Option.some.inj hk
            exact ⟨_, by simp, hnew⟩

/-- The server classifies a packet as old: a DATA packet for the channel with a smaller number than
the one the channel waits for. -/
def IsOld (dir : Direction cfgA cfgB) (s : Session cfgA cfgB) (pkg : Glbpkg) : Prop :=
  pkg.header.ctrlFlags = ctrlFlagData ∧ ∃ chs, pkg.Reaches s.server dir.j dir.d chs ∧
    pkg.header.seq < (chs.chan dir.d).ack

/-- In an orderly session what is acknowledged as old was delivered. -/
theorem delivers_of_old {pkg : Glbpkg} {from_ : Glbaddr} {env : Env} (h₀ : Start addr s₀)
    (hrun : Execution (Step addr) s₀ ts s) (hord : OrderlyRun dir ts s)
    (hstep : Step addr s (.inr (.packet pkg from_ env)) s') (hold : IsOld dir s pkg) :
    ∃ x ∈ ts, Delivers dir x pkg.header.seq pkg.data := by
  obtain ⟨hflags, chs, hreach, hlt⟩ := hold
  obtain ⟨S, hS, -, hdelivers⟩ := exists_transfer h₀ hrun hord
  have hI : S.Inv := hS.reachable.inv
  have hnet : (Op.packet pkg from_ env : Op cfgB).Carried s.client.sock := by
    rcases hstep with - | ⟨-, hnet, -⟩
    exact hnet
  obtain ⟨k, hk, hseq⟩ := hS.genuine hflags hreach (genuine_of_carried hnet dir.same.symm)
  obtain ⟨hle, hget⟩ := hI.wire k _ hk
  -- the number is not the one the channel waits for, so the message lies before it
  obtain ⟨chan, hchan⟩ := hS.recvSide hreach.established
  obtain rfl := hchan.has.unique ⟨chs, hreach.channels, rfl⟩
  have hne : k ≠ S.delivered.length := by
    intro heq
    rw [hseq, hchan.ack, heq] at hlt
    exact absurd hlt (UInt32.lt_irrefl _)
  have hbase := hI.base_le
  have hlt : k < S.delivered.length := by omega
  obtain ⟨rest, hrest⟩ := hI.delivered
  rw [← hrest, List.getElem?_append_left hlt] at hget
  rw [hseq]
  exact hdelivers k _ hget

/-- **Handshake agreement, and what it is for.** In every run of a session: a slot of the server
becomes established only by an ACK, and the two sides then agree on a channel if and only if the ACK
carries the number the slot was opened with and the client still waits for the number of the
SYN|ACK, which it does when this is the first time. And when the run is orderly, a DATA packet that
the server acknowledges as old has been delivered. -/
theorem handshake_agrees_iff {lab : Op cfgA ⊕ Op cfgB} (h₀ : Start addr s₀)
    (hrun : Execution (Step addr) s₀ ts s) (hstep : Step addr s lab s') :
    (∀ j, Establishes j (s, lab, s') → ∃ pkg from_ env, lab = .inr (.packet pkg from_ env) ∧
      ∀ i c d chan schan, c.val = d.val → s'.client.HasChannel i c chan →
        s'.server.HasChannel j d schan →
        (s'.Agrees c chan schan ↔ pkg.header.seq = (s.server.connections j).ack ∧
          chan.ack = (s.client.connections i).ack) ∧
        ((∀ x ∈ ts, ∀ k, ¬ Establishes k x) → chan.ack = (s.client.connections i).ack)) ∧
    ∀ dir pkg from_ env, lab = .inr (.packet pkg from_ env) → OrderlyRun dir ts s →
      IsOld dir s pkg → ∃ x ∈ ts, Delivers dir x pkg.header.seq pkg.data := by
  have hcons := h₀.consistent_run hrun
  constructor
  · intro j hest
    obtain ⟨pkg, from_, env, -, rfl, -⟩ := ack_of_establishes hcons hstep hest
    refine ⟨pkg, from_, env, rfl, fun i c d chan schan _ hchan hschan ↦ ⟨?_, fun hfirst ↦ ?_⟩⟩
    · exact agrees_iff hcons hstep hest hchan hschan
    · obtain ⟨-, -, hack⟩ := unestablished h₀ hrun hfirst
      have hclient : s'.client = s.client := by
        rcases hstep with - | -
        rfl
      rw [hclient] at hchan
      have hsome : (s.client.connections i).channels.isSome := by
        obtain ⟨chs, hchs, -⟩ := hchan
        rw [hchs]
        rfl
      rw [hack i c chan hchan, hcons.client.ack i hsome]
  · rintro dir pkg from_ env rfl hord hold
    exact delivers_of_old h₀ hrun hord hstep hold

/-! ### Two handshakes -/

instance {j : Fin cfgB.connectionCount} {x : Transition cfgA cfgB} : Decidable (Establishes j x) :=
  inferInstanceAs (Decidable (_ ∧ _))

instance : (x : Transition cfgA cfgB) → Decidable (ConnectsAt x)
  | (s, .inl op, _) => inferInstanceAs (Decidable (s.client.Connects op))
  | (_, .inr _, _) => inferInstanceAs (Decidable False)

instance {j : Fin cfgB.connectionCount} : (x : Transition cfgA cfgB) → Decidable (Confirms j x)
  | (s, .inr (.packet pkg from_ env), s') => inferInstanceAs (Decidable
      (Establishes j (s, .inr (.packet pkg from_ env), s') →
        pkg.header.seq = (s.server.connections j).ack))
  | (_, .inl _, _) | (_, .inr (.connect _), _) | (_, .inr (.close _ _), _)
  | (_, .inr (.send _ _), _) | (_, .inr .pollevent, _) | (_, .inr (.popdata _), _)
  | (_, .inr .readError, _) | (_, .inr (.timers _ _), _) => inferInstanceAs (Decidable True)

instance {x : Transition cfgA cfgB} : Decidable (Orderly dir x) :=
  decidable_of_iff ((ConnectsAt x → ∀ i, (x.1.client.connections i).state = .synSent) ∧
      (∀ j, Establishes j x → j = dir.j) ∧ Confirms dir.j x ∧ RoomFor dir (link dir x.1) x.2.1)
    ⟨fun ⟨h₁, h₂, h₃, h₄⟩ ↦ ⟨h₁, h₂, h₃, h₄⟩, fun ⟨h₁, h₂, h₃, h₄⟩ ↦ ⟨h₁, h₂, h₃, h₄⟩⟩

instance : Decidable (OrderlyRun dir ts s) :=
  decidable_of_iff ((cfgA.channels.get dir.c).reliable = true ∧
      (cfgB.channels.get dir.d).reliable = true ∧ (∀ x ∈ ts, Orderly dir x) ∧
      (ts.Pairwise fun x y ↦ Establishes dir.j x → ¬ Establishes dir.j y) ∧
      (s.enqueued dir.c).length < 2 ^ 32)
    ⟨fun ⟨h₁, h₂, h₃, h₄, h₅⟩ ↦ ⟨h₁, h₂, h₃, h₄, h₅⟩,
      fun ⟨h₁, h₂, h₃, h₄, h₅⟩ ↦ ⟨h₁, h₂, h₃, h₄, h₅⟩⟩

instance {c : Fin cfgA.channelCount} {chan schan : Glbchannel} :
    Decidable (s.Agrees c chan schan) :=
  inferInstanceAs (Decidable (_ ∧ _))

/-- From the client to the first slot of the server, on channel 0. -/
def sampleDirection : Direction Glbcfg.sampleClient Glbcfg.sampleServer where
  i := ⟨0, Nat.one_pos⟩
  c := Glbcfg.sampleClient.channel0
  j := ⟨0, Nat.two_pos⟩
  d := Glbcfg.sampleServer.channel0
  same := rfl

/-- The first number of either side. -/
def sampleSeq : UInt32 := initialSeq Glbcfg.sampleClient

/-- The client has called `glb_connect`. -/
def sampleStart : Option (Session Glbcfg.sampleClient Glbcfg.sampleServer) :=
  ((Glbctx.init _).glbConnect 1).map fun r ↦ ⟨r.2, Glbctx.init _, fun _ ↦ []⟩

/-- The ACK of the client, with a number. -/
def sampleAck (seq : UInt32) : Glbpkg :=
  ((glbpkgInit ⟨1, 0⟩ ctrlFlagAck 0).withSeqAck seq sampleSeq).seal

/-- The SYN|ACK of the server. -/
def sampleSynAck : Glbpkg :=
  ((glbpkgInit ⟨1, 0⟩ ctrlFlagSynAck 0).withSeqAck sampleSeq sampleSeq).seal

/-- The message of the client. -/
def sampleData : Glbpkg :=
  { (Glbpkg.sampleData ⟨1, 0⟩ 0).withSeqAck sampleSeq sampleSeq with data := [7] }.seal

/-- The client gets the SYN|ACK and enqueues a message. -/
def sampleConnect : List (Op Glbcfg.sampleClient ⊕ Op Glbcfg.sampleServer) :=
  [.inl (.timers ⟨0, Nat.one_pos⟩ (Env.at 1000)),
    .inr (.packet ((glbpkgInit ⟨0xFFFF, 0⟩ ctrlFlagSyn 0).withSeqAck sampleSeq 0).seal .samplePeer
      (Env.at 1001)),
    .inr (.timers ⟨0, Nat.two_pos⟩ (Env.at 2002)),
    .inl (.packet sampleSynAck ⟨0, 0⟩ (Env.at 2003)),
    .inl (.send ⟨some [7], some ⟨0, Nat.one_pos⟩, 0⟩ 2004)]

theorem exists_start_sampleStart : ∃ s, sampleStart = some s ∧ Start .samplePeer s := by
  have hconnect : ((Glbctx.init Glbcfg.sampleClient).glbConnect 1).map Prod.fst =
      some .success := by decide +kernel
  obtain ⟨⟨code, client⟩, hr, rfl⟩ := Option.map_eq_some_iff.1 hconnect
  refine ⟨⟨client, Glbctx.init _, fun _ ↦ []⟩, ?_, rfl, ⟨1, hr⟩, rfl, fun _ ↦ rfl, by decide⟩
  rw [sampleStart, hr]
  rfl

theorem execution_of_perform {ops : List (Op cfgA ⊕ Op cfgB)}
    {r : List (Transition cfgA cfgB) × Session cfgA cfgB}
    (h : Execution.perform (next addr) ops s = some r) : Execution (Step addr) s r.1 r.2 :=
  (Execution.nil.append_perform h).mono fun _ _ _ ↦ step_of_next

/-- The first ACK is lost, and the SYN|ACK arrives again after the client enqueued a message. -/
def sampleLost : List (Op Glbcfg.sampleClient ⊕ Op Glbcfg.sampleServer) :=
  sampleConnect ++ [.inl (.packet sampleSynAck ⟨0, 0⟩ (Env.at 2005))]

/-- The server gets the second ACK, and the client sends its message. -/
def sampleMiss : List (Op Glbcfg.sampleClient ⊕ Op Glbcfg.sampleServer) :=
  sampleLost ++ [.inr (.packet (sampleAck (sampleSeq + 1)) .samplePeer (Env.at 2006)),
    .inl (.timers ⟨0, Nat.one_pos⟩ (Env.at 4000))]

/-- After `sampleLost` the server expects the number after the one of the message, and after
`sampleMiss` it acknowledges the message as old, which it never got. -/
theorem not_always_agrees :
    ¬ (∀ (cfgA cfgB : Glbcfg) (addr : Glbaddr) (s₀ s s' : Session cfgA cfgB) (ts : List _)
      (lab : Op cfgA ⊕ Op cfgB) (dir : Direction cfgA cfgB) (chan schan : Glbchannel),
      Start addr s₀ → Execution (Step addr) s₀ ts s → Step addr s lab s' →
      Establishes dir.j (s, lab, s') → s'.client.HasChannel dir.i dir.c chan →
      s'.server.HasChannel dir.j dir.d schan → s'.Agrees dir.c chan schan) ∧
    ¬ (∀ (cfgA cfgB : Glbcfg) (addr : Glbaddr) (s₀ s s' : Session cfgA cfgB) (ts : List _)
      (dir : Direction cfgA cfgB) (pkg : Glbpkg) (from_ : Glbaddr) (env : Env),
      Start addr s₀ → Execution (Step addr) s₀ ts s →
      Step addr s (.inr (.packet pkg from_ env)) s' → IsOld dir s pkg →
      ∃ x ∈ ts, Delivers dir x pkg.header.seq pkg.data) := by
  obtain ⟨s₀, hs₀, h₀⟩ := exists_start_sampleStart
  constructor
  · intro h
    have hsteps : (sampleStart.bind fun s₀ ↦
        Execution.perform (next .samplePeer) sampleLost s₀).bind (fun r ↦
          (r.2.next .samplePeer
              (.inr (.packet (sampleAck (sampleSeq + 1)) .samplePeer (Env.at 2006)))).bind fun s' ↦
            (s'.client.connections sampleDirection.i).channels.bind fun chs ↦
              (s'.server.connections sampleDirection.j).channels.map fun schs ↦
                (decide (Establishes sampleDirection.j
                    (r.2, .inr (.packet (sampleAck (sampleSeq + 1)) .samplePeer (Env.at 2006)),
                      s')),
                  decide (s'.Agrees sampleDirection.c (chs.chan sampleDirection.c)
                    (schs.chan sampleDirection.d)))) = some (true, false) := by
      decide +kernel
    rw [hs₀, Option.bind_some] at hsteps
    obtain ⟨r, hr, hsteps⟩ := Option.bind_eq_some_iff.1 hsteps
    obtain ⟨s', hs', hsteps⟩ := Option.bind_eq_some_iff.1 hsteps
    obtain ⟨chs, hchs, hsteps⟩ := Option.bind_eq_some_iff.1 hsteps
    obtain ⟨schs, hschs, heq⟩ := Option.map_eq_some_iff.1 hsteps
    obtain ⟨hest, hnot⟩ := Prod.mk.inj heq
    exact of_decide_eq_false hnot (h _ _ _ _ _ _ _ _ sampleDirection _ _ h₀
      (execution_of_perform hr) (step_of_next hs') (of_decide_eq_true hest) ⟨chs, hchs, rfl⟩
      ⟨schs, hschs, rfl⟩)
  · intro h
    have hsteps : (sampleStart.bind fun s₀ ↦
        Execution.perform (next .samplePeer) sampleMiss s₀).bind (fun r ↦
          (r.2.next .samplePeer (.inr (.packet sampleData .samplePeer (Env.at 4001)))).bind fun s' ↦
            (r.2.server.connections sampleDirection.j).channels.map fun chs ↦
              (decide (sampleData.header.ctrlFlags = ctrlFlagData ∧
                sampleData.Finds r.2.server sampleDirection.j ∧
                (r.2.server.connections sampleDirection.j).state = .established ∧
                sampleData.header.channelId.toNat = sampleDirection.d.val ∧
                sampleData.header.seq < (chs.chan sampleDirection.d).ack),
              decide (∀ x ∈ r.1, ∀ chs ∈ (x.2.2.server.connections sampleDirection.j).channels,
                (chs.chan sampleDirection.d).rQueue.elems = []))) = some (true, true) := by
      decide +kernel
    rw [hs₀, Option.bind_some] at hsteps
    obtain ⟨r, hr, hsteps⟩ := Option.bind_eq_some_iff.1 hsteps
    obtain ⟨s', hs', hsteps⟩ := Option.bind_eq_some_iff.1 hsteps
    obtain ⟨chs, hchs, heq⟩ := Option.map_eq_some_iff.1 hsteps
    obtain ⟨hcond, hempty⟩ := Prod.mk.inj heq
    obtain ⟨hflags, hfind, hest, hc, hlt⟩ := of_decide_eq_true hcond
    obtain ⟨x, hx, hdel⟩ := h _ _ _ _ _ _ _ sampleDirection _ _ _ h₀ (execution_of_perform hr)
      (step_of_next hs') ⟨hflags, chs, ⟨hfind, hest, hchs, hc⟩, hlt⟩
    -- the receive queue is empty all along
    obtain ⟨pkg, from_, env, chan, chan', -, -, -, -, ⟨chs', hchs', rfl⟩, helems⟩ := hdel
    rw [of_decide_eq_true hempty x hx chs' hchs'] at helems
    exact absurd helems (List.append_ne_nil_of_right_ne_nil _ (List.cons_ne_nil _ _)).symm

/-- The message arrives twice after a handshake whose first ACK was not lost. -/
def sampleTwice : List (Op Glbcfg.sampleClient ⊕ Op Glbcfg.sampleServer) :=
  sampleConnect ++ [.inr (.packet (sampleAck sampleSeq) .samplePeer (Env.at 2006)),
    .inl (.timers ⟨0, Nat.one_pos⟩ (Env.at 4000)),
    .inr (.packet sampleData .samplePeer (Env.at 4001))]

/-- After `sampleConnect` the first ACK makes the two sides agree, and after `sampleTwice` the
message is old, and was delivered. -/
theorem handshake_agrees_sample :
    (∃ (s₀ s s' : Session Glbcfg.sampleClient Glbcfg.sampleServer) (ts : List _)
      (chan schan : Glbchannel), Start .samplePeer s₀ ∧ Execution (Step .samplePeer) s₀ ts s ∧
      Step .samplePeer s (.inr (.packet (sampleAck sampleSeq) .samplePeer (Env.at 2006))) s' ∧
      s'.client.HasChannel sampleDirection.i sampleDirection.c chan ∧
      s'.server.HasChannel sampleDirection.j sampleDirection.d schan ∧
      s'.Agrees sampleDirection.c chan schan) ∧
    ∃ (s₀ s : Session Glbcfg.sampleClient Glbcfg.sampleServer) (ts : List _),
      Start .samplePeer s₀ ∧ Execution (Step .samplePeer) s₀ ts s ∧
      IsOld sampleDirection s sampleData ∧
      ∃ x ∈ ts, Delivers sampleDirection x sampleData.header.seq sampleData.data := by
  obtain ⟨s₀, hs₀, h₀⟩ := exists_start_sampleStart
  constructor
  · have hsteps : (sampleStart.bind fun s₀ ↦
        Execution.perform (next .samplePeer) sampleConnect s₀).bind (fun r ↦
          (r.2.next .samplePeer
              (.inr (.packet (sampleAck sampleSeq) .samplePeer (Env.at 2006)))).bind fun s' ↦
            (s'.client.connections sampleDirection.i).channels.bind fun chs ↦
              (s'.server.connections sampleDirection.j).channels.map fun schs ↦
                (decide (Establishes sampleDirection.j
                    (r.2, .inr (.packet (sampleAck sampleSeq) .samplePeer (Env.at 2006)), s') ∧
                  (sampleAck sampleSeq).header.seq =
                    (r.2.server.connections sampleDirection.j).ack),
                  decide ((chs.chan sampleDirection.c).ack =
                    (r.2.client.connections sampleDirection.i).ack))) = some (true, true) := by
      decide +kernel
    rw [hs₀, Option.bind_some] at hsteps
    obtain ⟨r, hr, hsteps⟩ := Option.bind_eq_some_iff.1 hsteps
    obtain ⟨s', hs', hsteps⟩ := Option.bind_eq_some_iff.1 hsteps
    obtain ⟨chs, hchs, hsteps⟩ := Option.bind_eq_some_iff.1 hsteps
    obtain ⟨schs, hschs, heq⟩ := Option.map_eq_some_iff.1 hsteps
    obtain ⟨hcond, hack⟩ := Prod.mk.inj heq
    obtain ⟨hest, hseq⟩ := of_decide_eq_true hcond
    have hrun := execution_of_perform hr
    obtain ⟨pkg, from_, env, hpkg, hiff⟩ :=
      (handshake_agrees_iff h₀ hrun (step_of_next hs')).1 _ hest
    cases hpkg
    obtain ⟨hagrees, -⟩ := hiff sampleDirection.i sampleDirection.c sampleDirection.d _ _ rfl
      ⟨chs, hchs, rfl⟩ ⟨schs, hschs, rfl⟩
    exact ⟨s₀, r.2, s', r.1, _, _, h₀, hrun, step_of_next hs', ⟨chs, hchs, rfl⟩,
      ⟨schs, hschs, rfl⟩, hagrees.2 ⟨hseq, of_decide_eq_true hack⟩⟩
  · have hsteps : (sampleStart.bind fun s₀ ↦
        Execution.perform (next .samplePeer) sampleTwice s₀).bind (fun r ↦
          (r.2.next .samplePeer (.inr (.packet sampleData .samplePeer (Env.at 4002)))).bind fun s' ↦
            (r.2.server.connections sampleDirection.j).channels.map fun chs ↦
              (decide (sampleData.header.ctrlFlags = ctrlFlagData ∧
                sampleData.Finds r.2.server sampleDirection.j ∧
                (r.2.server.connections sampleDirection.j).state = .established ∧
                sampleData.header.channelId.toNat = sampleDirection.d.val ∧
                sampleData.header.seq < (chs.chan sampleDirection.d).ack),
              decide (OrderlyRun sampleDirection r.1 r.2))) = some (true, true) := by
      decide +kernel
    rw [hs₀, Option.bind_some] at hsteps
    obtain ⟨r, hr, hsteps⟩ := Option.bind_eq_some_iff.1 hsteps
    obtain ⟨s', hs', hsteps⟩ := Option.bind_eq_some_iff.1 hsteps
    obtain ⟨chs, hchs, heq⟩ := Option.map_eq_some_iff.1 hsteps
    obtain ⟨hcond, hord⟩ := Prod.mk.inj heq
    obtain ⟨hflags, hfind, hest, hc, hlt⟩ := of_decide_eq_true hcond
    have hrun := execution_of_perform hr
    have hold : IsOld sampleDirection r.2 sampleData := ⟨hflags, chs, ⟨hfind, hest, hchs, hc⟩, hlt⟩
    exact ⟨s₀, r.2, r.1, h₀, hrun, hold,
      (handshake_agrees_iff h₀ hrun (step_of_next hs')).2 _ _ _ _ rfl (of_decide_eq_true hord) hold⟩

end Session

end Gilberta
