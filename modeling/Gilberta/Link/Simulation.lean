import Gilberta.Link.Direction

/-!
# The link implements stop and wait

One lemma for each thing a side can do on the channel, and `tracks_step`, which puts them together:
a step of the link is no step, one step or two steps of the protocol.
-/

namespace Gilberta

variable {cfgA cfgB : Glbcfg}

namespace Glbctx

variable {cfg : Glbcfg} {ctx ctx' : Glbctx cfg} {i : Fin cfg.connectionCount}
  {c : Fin cfg.channelCount}

theorem mem_sentWith {op : Op cfg} {flags : UInt8} {p : Glbpkg} (h : Step ctx op ctx')
    (hp : p ∈ sentWith flags (ctx, op, ctx')) :
    p.header.ctrlFlags = flags ∧ ∃ d, Emitted ctx op d ∧ d.pkg = p := by
  obtain ⟨hmem, hflags⟩ := List.mem_filter.1 hp
  obtain ⟨d, hd, rfl⟩ := List.mem_map.1 hmem
  exact ⟨of_decide_eq_true hflags, d, (step_emits h).of_mem_drop hd, rfl⟩

/-- What the timers of a slot transmit on a channel is the head of its send queue. -/
theorem mem_transmittedOn {env : Env} {p : Glbpkg} (htag : ctx.Tagged)
    (h : Step ctx (.timers i env) ctx')
    (hp : p ∈ transmittedOn i c (ctx, .timers i env, ctx')) :
    ∃ chan head rest, ctx.HasChannel i c chan ∧ chan.sQueue.elems = head :: rest ∧
      p = head.seal := by
  rw [transmittedOn] at hp
  dsimp only at hp
  rw [if_pos rfl] at hp
  obtain ⟨hp, hchannel⟩ := List.mem_filter.1 hp
  obtain ⟨hflags, d, hd, rfl⟩ := mem_sentWith h hp
  obtain ⟨j, env', c', hop, -, hhead⟩ := emitted_data hd hflags
  obtain ⟨rfl, -⟩ := Op.timers.inj hop
  obtain ⟨chs, head, rest, hchs, hhead, rfl⟩ := hhead
  obtain ⟨-, htagc⟩ := htag i c' _ ⟨chs, hchs, rfl⟩ head (by rw [hhead]; exact List.mem_cons_self)
  obtain rfl : c' = c := Fin.ext (htagc.symm.trans (of_decide_eq_true hchannel))
  exact ⟨_, head, rest, ⟨chs, hchs, rfl⟩, hhead, rfl⟩

/-- What is taken of a DATA packet that leads to the channel: its payload, if it is next. -/
theorem takenBy_of_reaches {pkg : Glbpkg} {chs : Glbchannels cfg.channelCount} (from_ : Glbaddr)
    (env : Env) (hflags : pkg.header.ctrlFlags = ctrlFlagData) (hreach : pkg.Reaches ctx i c chs) :
    ctx.takenBy i c (.packet pkg from_ env) =
      if pkg.header.seq = (chs.chan c).ack then [pkg.data] else [] := by
  have hcond : (pkg.header.ctrlFlags = ctrlFlagData ∧ pkg.Finds ctx i ∧
      pkg.header.channelId.toNat = c.val ∧
      ∃ chs ∈ (ctx.connections i).channels, pkg.header.seq = (chs.chan c).ack) ↔
        pkg.header.seq = (chs.chan c).ack := by
    refine ⟨?_, fun hseq ↦ ⟨hflags, hreach.finds, hreach.channel, chs, hreach.channels, hseq⟩⟩
    rintro ⟨-, -, -, chs', hchs', hseq⟩
    rwa [Option.some_inj.1 (hreach.channels.symm.trans hchs')]
  rw [takenBy]
  exact if_congr hcond rfl rfl

/-- Something is taken of a DATA packet that leads to the channel only, and it is all of it. -/
theorem takenBy_cases {op : Op cfg} {data : List UInt8} {rest : List (List UInt8)}
    (hest : (ctx.connections i).state = .established) (h : ctx.takenBy i c op = data :: rest) :
    rest = [] ∧ ∃ pkg from_ env chs, op = .packet pkg from_ env ∧
      pkg.header.ctrlFlags = ctrlFlagData ∧ pkg.Reaches ctx i c chs ∧
      pkg.header.seq = (chs.chan c).ack ∧ pkg.data = data := by
  rcases op with _ | _ | _ | _ | _ | _ | ⟨pkg, from_, env⟩ | _
  case packet =>
    rw [takenBy] at h
    split at h
    · next hcond =>
      obtain ⟨hflags, hfind, hc, chs, hchs, hseq⟩ := hcond
      obtain ⟨hdata, hrest⟩ := List.cons.inj h
      exact ⟨hrest.symm, pkg, from_, env, chs, rfl, hflags, ⟨hfind, hest, hchs, hc⟩, hseq, hdata⟩
    · cases h
  all_goals cases h

theorem takenBy_eq_nil {op : Op cfg} (hest : (ctx.connections i).state = .established)
    (h : ∀ pkg from_ env, op = .packet pkg from_ env → pkg.header.ctrlFlags = ctrlFlagData →
      ∀ chs, ¬ pkg.Reaches ctx i c chs) : ctx.takenBy i c op = [] := by
  rcases htaken : ctx.takenBy i c op with - | ⟨data, rest⟩
  · rfl
  · obtain ⟨-, pkg, from_, env, chs, hop, hflags, hreach, -⟩ := takenBy_cases hest htaken
    exact absurd hreach (h pkg from_ env hop hflags chs)

/-- Only a packet that leads to a channel is answered on it. -/
theorem answeredOn_eq_nil {op : Op cfg} (hest : (ctx.connections i).state = .established)
    {chan : Glbchannel} (hchan : ctx.HasChannel i c chan)
    (h : ∀ pkg from_ env, op = .packet pkg from_ env → pkg.header.ctrlFlags = ctrlFlagData →
      ∀ chs, ¬ pkg.Reaches ctx i c chs) : answeredOn i c (ctx, op, ctx') = [] := by
  obtain ⟨chs, hchs, -⟩ := hchan
  rw [answeredOn]
  split
  · next pkg from_ env heq =>
    refine if_neg fun ⟨hflags, hfind, hc⟩ ↦ ?_
    exact h pkg from_ env heq hflags chs ⟨hfind, hest, hchs, hc⟩
  · rfl

theorem answeredOn_of_sock {op : Op cfg} (h : ctx'.sock = ctx.sock) :
    answeredOn i c (ctx, op, ctx') = [] := by
  have hnone : sentWith ctrlFlagDataAck (ctx, op, ctx') = [] := by
    rw [sentWith]
    dsimp only
    rw [h, List.drop_length]
    rfl
  rw [answeredOn]
  split
  · split
    · exact hnone
    · rfl
  · rfl

/-- What a DATA packet is answered with carries its number. -/
theorem mem_answeredOn {pkg : Glbpkg} {from_ : Glbaddr} {env : Env} {p : Glbpkg}
    (h : Step ctx (.packet pkg from_ env) ctx')
    (hp : p ∈ answeredOn i c (ctx, .packet pkg from_ env, ctx')) :
    p.header.ack = pkg.header.seq := by
  rw [answeredOn] at hp
  dsimp only at hp
  split at hp
  · next hcond =>
    obtain ⟨hflags, d, hd, rfl⟩ := mem_sentWith h hp
    obtain ⟨hdata, -, -⟩ := hcond
    cases hd with
    | rst hsyn => exact absurd (hdata.symm.trans hsyn.1) (by decide)
    | ackAgain hf | ack hf | finAck hf | pong hf =>
      exact absurd (hdata.symm.trans hf) (by decide)
    | dataAck => rfl
  · cases hp

end Glbctx

namespace Link

open Glbctx (HasChannel Transmitted SendChange RecvChange retransmitted)

variable {dir : Direction cfgA cfgB} {s₀ : UInt32} {l : Link cfgA cfgB}
  {S S' : StopAndWait (List UInt8)}

theorem SendSide.of_eq {l' : Link cfgA cfgB} {chan chan' : Glbchannel}
    (h : SendSide dir s₀ l S chan) (hhas : l'.sender.HasChannel dir.i dir.c chan')
    (hside : chan'.sendSide = chan.sendSide) : SendSide dir s₀ l' S chan' := by
  obtain ⟨hq, hseq, hflags⟩ := Glbchannel.sendSide_eq_iff.1 hside
  exact ⟨hhas, by rw [Glbchannel.reliable, hflags]; exact h.reliable, by rw [hseq, h.seq],
    by rw [hq, h.payloads], by rw [hq]; exact h.numbers⟩

/-- What is in flight does not matter to the sender's channel. -/
theorem SendSide.of_wire {chan : Glbchannel} {wire : Set (ℕ × List UInt8)}
    (h : SendSide dir s₀ l S chan) : SendSide dir s₀ l { S with wire := wire } chan :=
  ⟨h.has, h.reliable, h.seq, h.payloads, h.numbers⟩

/-- A retransmission changes neither payloads nor numbers. -/
theorem SendSide.of_transmitted {l' : Link cfgA cfgB} {chan chan' chan₁ : Glbchannel}
    (h : SendSide dir s₀ l S chan) (htrans : Transmitted chan chan₁)
    (hhas : l'.sender.HasChannel dir.i dir.c chan') (hside : chan'.sendSide = chan₁.sendSide) :
    SendSide dir s₀ l' S chan' := by
  cases htrans with
  | idle => exact h.of_eq hhas hside
  | dropped hrel => rw [h.reliable] at hrel; cases hrel
  | kept now =>
    obtain ⟨hq, hseq, hflags⟩ := Glbchannel.sendSide_eq_iff.1 hside
    have helems : chan'.sQueue.elems = chan.sQueue.elems.modifyHead (retransmitted · now) := by
      rw [hq]; rfl
    refine ⟨hhas, by rw [Glbchannel.reliable, hflags]; exact h.reliable, by rw [hseq, h.seq], ?_,
      ?_⟩
    · rw [← h.payloads, helems]
      cases chan.sQueue.elems <;> rfl
    · intro k p hp
      rw [helems] at hp
      rcases hold : chan.sQueue.elems with - | ⟨head, rest⟩ <;> rw [hold] at hp
      · cases hp
      · cases k with
        | zero =>
          obtain rfl : retransmitted head now = p := Option.some.inj hp
          exact h.numbers 0 head (by rw [hold]; rfl)
        | succ k => exact h.numbers (k + 1) p (by rw [hold]; exact hp)

/-- What is not done with is what was accepted, from the position of the sender on. -/
theorem SendSide.length_elems {chan : Glbchannel} (h : SendSide dir s₀ l S chan) (hS : S.Inv) :
    S.base + chan.sQueue.elems.length = S.accepted.length := by
  have hlen := congrArg List.length h.payloads
  rw [List.length_map, List.length_drop] at hlen
  have h₁ := hS.base_le
  have h₂ := hS.delivered.length_le
  omega

theorem SendSide.of_queued {l' : Link cfgA cfgB} {chan chan' : Glbchannel} {pkg : Glbpkg}
    {x : List UInt8} (h : SendSide dir s₀ l S chan) (hS : S.Inv)
    (hroom : chan.sQueue.isFull = false) (hdata : pkg.data = x)
    (hseq : pkg.header.seq = chan.seq) (hhas : l'.sender.HasChannel dir.i dir.c chan')
    (hside : chan'.sendSide = (Glbctx.queuedChan chan pkg).sendSide) :
    SendSide dir s₀ l' { S with accepted := S.accepted ++ [x] } chan' := by
  subst hdata
  obtain ⟨hq, hseq', hflags⟩ := Glbchannel.sendSide_eq_iff.1 hside
  have hlen := h.length_elems hS
  have helems : chan'.sQueue.elems = chan.sQueue.elems ++ [pkg] := by
    rw [hq, Glbctx.elems_queuedChan hroom]
  refine ⟨hhas, by rw [Glbchannel.reliable, hflags]; exact h.reliable, ?_, ?_, fun k p hp ↦ ?_⟩
  · rw [hseq', List.length_append, List.length_singleton, numbered_succ, ← h.seq]
    rfl
  · have hbase : S.base ≤ S.accepted.length := by omega
    rw [helems, List.map_append, h.payloads, List.drop_append_of_le_length hbase]
    rfl
  · rw [helems] at hp
    rcases Nat.lt_or_ge k chan.sQueue.elems.length with hk | hk
    · rw [List.getElem?_append_left hk] at hp
      exact h.numbers k p hp
    · rw [List.getElem?_append_right hk] at hp
      obtain ⟨hk', rfl⟩ : k - chan.sQueue.elems.length = 0 ∧ pkg = p := by
        rcases hsub : k - chan.sQueue.elems.length with - | m <;> rw [hsub] at hp
        · exact ⟨rfl, Option.some.inj hp⟩
        · cases hp
      obtain rfl : k = chan.sQueue.elems.length := by omega
      rw [hseq, h.seq]
      show _ = numbered s₀ (S.base + chan.sQueue.elems.length)
      rw [hlen]

theorem SendSide.of_acked {l' : Link cfgA cfgB} {chan chan' : Glbchannel} {head : Glbpkg}
    {rest : List Glbpkg} (h : SendSide dir s₀ l S chan)
    (hhead : chan.sQueue.elems = head :: rest) (hhas : l'.sender.HasChannel dir.i dir.c chan')
    (hside : chan'.sendSide = (chan.sQueue.pop.2.2, chan.seq, chan.flags)) :
    SendSide dir s₀ l' { S with base := S.base + 1 } chan' := by
  obtain ⟨hq, hseq, hflags⟩ := Glbchannel.sendSide_eq_iff.1 hside
  have helems : chan'.sQueue.elems = rest := by
    rw [hq, Glbqueue.toBoundedQueue_pop, BoundedQueue.elems_drop, hhead, List.tail_cons]
  refine ⟨hhas, by rw [Glbchannel.reliable, hflags]; exact h.reliable, by rw [hseq, h.seq], ?_, ?_⟩
  · have hpay := h.payloads
    rw [hhead, List.map_cons] at hpay
    show chan'.sQueue.elems.map Glbpkg.data = S.accepted.drop (S.base + 1)
    rw [helems, ← List.tail_drop, ← hpay, List.tail_cons]
  · intro k p hp
    rw [helems] at hp
    have hnum := h.numbers (k + 1) p (by rw [hhead]; exact hp)
    show _ = numbered s₀ (S.base + 1 + k)
    rw [hnum, Nat.add_assoc, Nat.add_comm 1 k]

/-- The head of the send queue is the message the sender is at. -/
theorem SendSide.head {chan : Glbchannel} {head : Glbpkg} {rest : List Glbpkg}
    (h : SendSide dir s₀ l S chan) (hhead : chan.sQueue.elems = head :: rest) :
    S.accepted[S.base]? = some head.data ∧ head.header.seq = numbered s₀ S.base := by
  have hpay := h.payloads
  rw [hhead, List.map_cons] at hpay
  refine ⟨?_, by simpa using h.numbers 0 head (by rw [hhead]; rfl)⟩
  rw [← List.head?_drop, ← hpay, List.head?_cons]

theorem RecvSide.of_eq {l' : Link cfgA cfgB} {chan chan' : Glbchannel}
    (h : RecvSide dir s₀ l S chan) (hdel : S'.delivered = S.delivered)
    (hhas : l'.receiver.HasChannel dir.j dir.d chan') (hack : chan'.ack = chan.ack)
    (hflags : chan'.flags = chan.flags) : RecvSide dir s₀ l' S' chan' :=
  ⟨hhas, by rw [Glbchannel.reliable, hflags]; exact h.reliable, by rw [hack, h.ack, hdel]⟩

/-- Only the two contexts, what was accepted and what is in flight matter. -/
theorem Tracks.of_subset {l' : Link cfgA cfgB} (h : Tracks dir s₀ l S)
    (hsender : l'.sender = l.sender) (hreceiver : l'.receiver = l.receiver)
    (haccepted : l'.accepted = l.accepted) (hdata : l'.data ⊆ l.data) (hacks : l'.acks ⊆ l.acks) :
    Tracks dir s₀ l' S where
  reachable := h.reachable
  accepted := by rw [haccepted, h.accepted]
  tagged := by rw [hsender]; exact h.tagged
  sendSide := by
    intro hest
    rw [hsender] at hest
    obtain ⟨chan, hchan⟩ := h.sendSide hest
    exact ⟨chan, hchan.of_eq (by rw [hsender]; exact hchan.has) rfl⟩
  recvSide := by
    intro hest
    rw [hreceiver] at hest
    obtain ⟨chan, hchan⟩ := h.recvSide hest
    exact ⟨chan, hchan.of_eq rfl (by rw [hreceiver]; exact hchan.has) rfl rfl⟩
  data p hp := h.data p (hdata hp)
  acks p hp := h.acks p (hacks hp)

/-! ### Steps of the sender -/

section Sender

variable {op : Op cfgA} {ctx : Glbctx cfgA} {acc : List (List UInt8)} {sent : List Glbpkg}

/-- What a step of the sender has to show. -/
theorem Tracks.of_sender (h : Tracks dir s₀ l S) (hstep : Glbctx.Step l.sender op ctx)
    (hreach : S'.Reachable)
    (hacc : S'.accepted = S.accepted ++ acc) (hdel : S'.delivered = S.delivered)
    (hacks : S'.acks = S.acks) (hwire : S.wire ⊆ S'.wire)
    (hside : (ctx.connections dir.i).state = .established → ∃ chan, SendSide dir s₀ { l with
      sender := ctx, accepted := l.accepted ++ acc, data := l.data ++ sent } S' chan)
    (hsent : ∀ p ∈ sent, ∃ k, (k, p.data) ∈ S'.wire ∧ p.header.seq = numbered s₀ k) :
    Tracks dir s₀
      { l with sender := ctx, accepted := l.accepted ++ acc, data := l.data ++ sent } S' where
  reachable := hreach
  accepted := by rw [hacc, h.accepted]
  tagged := Glbctx.tagged_step h.tagged hstep
  sendSide := hside
  recvSide := by
    intro hest
    obtain ⟨chan, hchan⟩ := h.recvSide hest
    exact ⟨chan, hchan.of_eq hdel hchan.has rfl rfl⟩
  data := by
    intro p hp
    rcases List.mem_append.1 hp with hp | hp
    · obtain ⟨k, hk, hseq⟩ := h.data p hp
      exact ⟨k, hwire hk, hseq⟩
    · exact hsent p hp
  acks := by
    intro p hp
    obtain ⟨k, hk, hack⟩ := h.acks p hp
    exact ⟨k, hacks ▸ hk, hack⟩

/-- The sending slot keeps its channel. -/
theorem Tracks.sendChange (h : Tracks dir s₀ l S)
    (hest₀ : (l.sender.connections dir.i).state = .established)
    (hstep : Glbctx.Step l.sender op ctx)
    (hest : (ctx.connections dir.i).state = .established) :
    ∃ chan chan', SendSide dir s₀ l S chan ∧ ctx.HasChannel dir.i dir.c chan' ∧
      SendChange l.sender dir.i dir.c chan op chan'.sendSide := by
  obtain ⟨chan, hchan⟩ := h.sendSide hest₀
  obtain ⟨chan', hchan', -, hsend⟩ := Glbctx.channel_of_established hstep hest₀ hest hchan.has
  exact ⟨chan, chan', hchan, hchan', hsend⟩

/-- A step of the sender that neither queues nor transmits on the channel. -/
theorem Tracks.of_sender_same (h : Tracks dir s₀ l S) (hstep : Glbctx.Step l.sender op ctx)
    {chan chan' : Glbchannel}
    (hchan : SendSide dir s₀ l S chan) (hchan' : ctx.HasChannel dir.i dir.c chan')
    (hside : chan'.sendSide = chan.sendSide) :
    Tracks dir s₀ { l with sender := ctx, accepted := l.accepted ++ [], data := l.data ++ [] } S :=
  h.of_sender hstep h.reachable (List.append_nil _).symm rfl rfl (fun _ hw ↦ hw)
    (fun _ ↦ ⟨chan', hchan.of_eq hchan' hside⟩) fun _ hp ↦ by cases hp

/-- One that neither queues nor transmits on the channel and leaves the slot not established. -/
theorem Tracks.of_sender_down (h : Tracks dir s₀ l S) (hstep : Glbctx.Step l.sender op ctx)
    (hdown : (ctx.connections dir.i).state ≠ .established) :
    Tracks dir s₀ { l with sender := ctx, accepted := l.accepted ++ [], data := l.data ++ [] } S :=
  h.of_sender hstep h.reachable (List.append_nil _).symm rfl rfl (fun _ hw ↦ hw)
    (fun hest ↦ absurd hest hdown) fun _ hp ↦ by cases hp

/-- `glb_send` on the channel of the link is `accept`. -/
theorem tracks_of_send {info : Glbsendinfo cfgA.connectionCount} {now : ℕ}
    (h : Tracks dir s₀ l S) (hest₀ : (l.sender.connections dir.i).state = .established)
    (hstep : Glbctx.Step l.sender (.send info now) ctx) :
    ∃ S', Tracks dir s₀ { l with
      sender := ctx
      accepted := l.accepted ++ l.sender.acceptedBy dir.i dir.c (.send info now)
      data := l.data ++ Glbctx.transmittedOn dir.i dir.c (l.sender, .send info now, ctx) } S' ∧
      S'.delivered = S.delivered := by
  obtain ⟨chan, hchan⟩ := h.sendSide hest₀
  obtain ⟨⟨code, ctx₁⟩, hsend, rfl⟩ := Option.map_eq_some_iff.1 hstep
  have hest : (ctx₁.connections dir.i).state = .established :=
    ((Glbctx.glbSend_quiet hsend).life dir.i).state.trans hest₀
  cases id (Glbctx.glbSend_effect hsend) with
  | refused error hcode =>
    have hacc : l.sender.acceptedBy dir.i dir.c (.send info now) = [] := by
      rw [Glbctx.acceptedBy, hsend]
      split
      · next heq => cases heq; exact absurd rfl hcode
      · rfl
    rw [hacc]
    exact ⟨S, h.of_sender_same hstep hchan hchan.has rfl, rfl⟩
  | @queued i c chs data hcon hdata hc _ hchs hroom =>
    obtain ⟨chan', hchan'⟩ :=
      Glbctx.hasChannel_of_established hstep hest hchan.has
    rcases Glbctx.hasChannel_setChan hchs hchan' with ⟨rfl, rfl, rfl⟩ | ⟨hne, hsame⟩
    · have hacc : l.sender.acceptedBy dir.i dir.c (.send info now) = [data] := by
        rw [Glbctx.acceptedBy, hsend]
        exact (if_pos ⟨hcon, hc⟩).trans (by rw [hdata]; rfl)
      obtain rfl := hchan.has.unique ⟨chs, hchs, rfl⟩
      rw [hacc]
      refine ⟨{ S with accepted := S.accepted ++ [data] }, ?_, rfl⟩
      refine h.of_sender hstep (h.reachable.tail (.accept data)) rfl rfl rfl (fun _ hw ↦ hw)
        (fun _ ↦ ⟨_, hchan.of_queued h.reachable.inv hroom rfl rfl hchan' rfl⟩)
        fun _ hp ↦ by cases hp
    · have hacc : l.sender.acceptedBy dir.i dir.c (.send info now) = [] := by
        rw [Glbctx.acceptedBy, hsend]
        refine if_neg fun ⟨hi, hcc⟩ ↦ hne ⟨?_, ?_⟩
        · exact Option.some_inj.1 (hi.symm.trans hcon)
        · exact Fin.ext (hcc.symm.trans hc)
      rw [hacc]
      obtain rfl := hsame.unique hchan.has
      exact ⟨S, h.of_sender_same hstep hchan hchan' rfl, rfl⟩

/-- The timers of the sending slot are `transmit`. -/
theorem tracks_of_timers {i : Fin cfgA.connectionCount} {env : Env}
    (h : Tracks dir s₀ l S) (hest₀ : (l.sender.connections dir.i).state = .established)
    (hstep : Glbctx.Step l.sender (.timers i env) ctx) :
    ∃ S', Tracks dir s₀ { l with
      sender := ctx
      accepted := l.accepted ++ l.sender.acceptedBy dir.i dir.c (.timers i env)
      data := l.data ++ Glbctx.transmittedOn dir.i dir.c (l.sender, .timers i env, ctx) } S' ∧
      S'.delivered = S.delivered := by
  obtain ⟨chan, hchan⟩ := h.sendSide hest₀
  have hacc : l.sender.acceptedBy dir.i dir.c (.timers i env) = [] := rfl
  rw [hacc]
  by_cases hi : i = dir.i
  · subst hi
    -- what is sent is the message the sender is at, also when the slot is closed afterwards
    have hsent : ∀ p ∈ Glbctx.transmittedOn dir.i dir.c (l.sender, .timers dir.i env, ctx),
        S.accepted[S.base]? = some p.data ∧ p.header.seq = numbered s₀ S.base := by
      intro p hp
      obtain ⟨chan₁, head, rest, hchan₁, hhead, rfl⟩ := Glbctx.mem_transmittedOn h.tagged hstep hp
      obtain rfl := hchan₁.unique hchan.has
      obtain ⟨hget, hseq⟩ := hchan.head hhead
      exact ⟨hget, hseq⟩
    have hside : (ctx.connections dir.i).state = .established → ∃ chan', SendSide dir s₀ { l with
        sender := ctx
        accepted := l.accepted ++ []
        data := l.data ++ Glbctx.transmittedOn dir.i dir.c (l.sender, .timers dir.i env, ctx) }
        S chan' := by
      intro hest
      obtain ⟨chan, chan', hchan, hchan', hsend⟩ := h.sendChange hest₀ hstep hest
      generalize hside : chan'.sendSide = side at hsend
      cases hsend with
      | same => exact ⟨chan', hchan.of_eq hchan' hside⟩
      | transmitted htrans => exact ⟨chan', hchan.of_transmitted htrans hchan' hside⟩
    rcases hlist : Glbctx.transmittedOn dir.i dir.c (l.sender, .timers dir.i env, ctx) with
      - | ⟨p₀, ps⟩ <;> rw [hlist] at hsent hside
    · exact ⟨S, h.of_sender hstep h.reachable (List.append_nil _).symm rfl rfl
        (fun _ hw ↦ hw) hside (fun _ hp ↦ by cases hp), rfl⟩
    · obtain ⟨hget₀, -⟩ := hsent p₀ List.mem_cons_self
      refine ⟨{ S with wire := insert (S.base, p₀.data) S.wire }, ?_, rfl⟩
      refine h.of_sender hstep (h.reachable.tail (.transmit hget₀)) (List.append_nil _).symm
        rfl rfl (Set.subset_insert _ _) (fun hest ↦ ?_) fun p hp ↦ ?_
      · obtain ⟨chan', hside⟩ := hside hest
        exact ⟨chan', hside.of_wire⟩
      · obtain ⟨hget, hseq⟩ := hsent p hp
        obtain heq : p₀.data = p.data := Option.some.inj (hget₀.symm.trans hget)
        exact ⟨S.base, Or.inl (by rw [heq]), hseq⟩
  · have hsent : Glbctx.transmittedOn dir.i dir.c (l.sender, .timers i env, ctx) = [] := if_neg hi
    rw [hsent]
    by_cases hest : (ctx.connections dir.i).state = .established
    · obtain ⟨chan, chan', hchan, hchan', hsend⟩ := h.sendChange hest₀ hstep hest
      generalize hside : chan'.sendSide = side at hsend
      cases hsend with
      | same => exact ⟨S, h.of_sender_same hstep hchan hchan' hside, rfl⟩
      | transmitted => exact absurd rfl hi
    · exact ⟨S, h.of_sender_down hstep hest, rfl⟩

/-- A DATA|ACK for the head of the send queue is `advance`. -/
theorem tracks_of_packet {pkg : Glbpkg} {from_ : Glbaddr} {env : Env} (h : Tracks dir s₀ l S)
    (hest₀ : (l.sender.connections dir.i).state = .established)
    (hbound : l.accepted.length < 2 ^ 32) (hstep : Glbctx.Step l.sender (.packet pkg from_ env) ctx)
    (hnet : Genuine l.sender dir.i dir.c ctrlFlagDataAck l.acks (.packet pkg from_ env)) :
    ∃ S', Tracks dir s₀ { l with
      sender := ctx
      accepted := l.accepted ++ l.sender.acceptedBy dir.i dir.c (.packet pkg from_ env)
      data := l.data ++ Glbctx.transmittedOn dir.i dir.c (l.sender, .packet pkg from_ env, ctx) }
      S' ∧ S'.delivered = S.delivered := by
  have hacc : l.sender.acceptedBy dir.i dir.c (.packet pkg from_ env) = [] := rfl
  have hsent : Glbctx.transmittedOn dir.i dir.c (l.sender, .packet pkg from_ env, ctx) = [] := rfl
  rw [hacc, hsent]
  by_cases hest : (ctx.connections dir.i).state = .established
  case neg => exact ⟨S, h.of_sender_down hstep hest, rfl⟩
  obtain ⟨chan, chan', hchan, hchan', hsend⟩ := h.sendChange hest₀ hstep hest
  generalize hside : chan'.sendSide = side at hsend
  cases hsend with
  | same => exact ⟨S, h.of_sender_same hstep hchan hchan' hside, rfl⟩
  | acked hflags hreach _ hhead hseq =>
    have hS := h.reachable.inv
    -- the number on the acknowledgment is the one of a message the receiver has taken
    obtain ⟨q, hq, hwire, -⟩ := hnet hflags hreach.finds hreach.channel
    obtain ⟨k, hk, hack⟩ := h.acks q hq
    obtain ⟨hget, hhead'⟩ := hchan.head hhead
    have hbase : S.base < S.accepted.length := (List.getElem?_eq_some_iff.1 hget).1
    have hlt := hS.acks k hk
    have hle := hS.delivered.length_le
    rw [h.accepted] at hbase hle
    have hnum : numbered s₀ S.base = numbered s₀ k := by rw [← hhead', hseq, hwire, hack]
    obtain rfl : S.base = k := (numbered_inj (by omega) (by omega)).1 hnum
    refine ⟨{ S with base := S.base + 1 }, ?_, rfl⟩
    exact h.of_sender hstep (h.reachable.tail (.advance hk)) (List.append_nil _).symm rfl rfl
      (fun _ hw ↦ hw) (fun _ ↦ ⟨chan', hchan.of_acked hhead hchan' hside⟩) fun _ hp ↦ by cases hp

/-- A step of the established sender is at most one step of the protocol, and the receiver does not
move. -/
theorem tracks_of_sender (h : Tracks dir s₀ l S)
    (hest₀ : (l.sender.connections dir.i).state = .established)
    (hbound : l.accepted.length < 2 ^ 32) (hstep : Glbctx.Step l.sender op ctx)
    (hnet : Genuine l.sender dir.i dir.c ctrlFlagDataAck l.acks op) :
    ∃ S', Tracks dir s₀ { l with
      sender := ctx
      accepted := l.accepted ++ l.sender.acceptedBy dir.i dir.c op
      data := l.data ++ Glbctx.transmittedOn dir.i dir.c (l.sender, op, ctx) } S' ∧
      S'.delivered = S.delivered := by
  have hother : l.sender.acceptedBy dir.i dir.c op = [] →
      Glbctx.transmittedOn dir.i dir.c (l.sender, op, ctx) = [] → ¬ op.Sends dir.i →
      ∃ S', Tracks dir s₀ { l with
        sender := ctx
        accepted := l.accepted ++ l.sender.acceptedBy dir.i dir.c op
        data := l.data ++ Glbctx.transmittedOn dir.i dir.c (l.sender, op, ctx) } S' ∧
        S'.delivered = S.delivered := by
    intro hacc hsent hsends
    rw [hacc, hsent]
    by_cases hest : (ctx.connections dir.i).state = .established
    case neg => exact ⟨S, h.of_sender_down hstep hest, rfl⟩
    obtain ⟨chan, chan', hchan, hchan', hsend⟩ := h.sendChange hest₀ hstep hest
    generalize hside : chan'.sendSide = side at hsend
    cases hsend with
    | same => exact ⟨S, h.of_sender_same hstep hchan hchan' hside, rfl⟩
    | queued hcon => exact absurd hcon hsends
    | acked hflags => exact absurd hflags hsends
    | transmitted => exact absurd rfl hsends
  cases op with
  | send info now => exact tracks_of_send h hest₀ hstep
  | timers i env => exact tracks_of_timers h hest₀ hstep
  | packet pkg from_ env => exact tracks_of_packet h hest₀ hbound hstep hnet
  | connect | close | pollevent | popdata | readError => exact hother rfl rfl id

end Sender

/-! ### Steps of the receiver -/

section Receiver

variable {op : Op cfgB} {ctx : Glbctx cfgB} {got : List (List UInt8)} {sent : List Glbpkg}

/-- What the receiver has taken is what the application popped and what is waiting to be popped. -/
def Stored (dir : Direction cfgA cfgB) (l : Link cfgA cfgB) (S : StopAndWait (List UInt8)) : Prop :=
  ∀ chan, l.receiver.HasChannel dir.j dir.d chan →
    l.popped ++ chan.rQueue.elems.map Glbpkg.data = S.delivered

/-- A DATA packet that is next on the channel finds room in the receive queue. -/
def RoomFor (dir : Direction cfgA cfgB) (l : Link cfgA cfgB) : Op cfgA ⊕ Op cfgB → Prop
  | .inr (.packet pkg _ _) => pkg.header.ctrlFlags = ctrlFlagData → ∀ chs,
      pkg.Reaches l.receiver dir.j dir.d chs → pkg.header.seq = (chs.chan dir.d).ack →
        (chs.chan dir.d).rQueue.isFull = false
  | _ => True

/-- Only the receiver's handling of a DATA packet needs room. -/
instance (dir : Direction cfgA cfgB) (l : Link cfgA cfgB) :
    (lab : Op cfgA ⊕ Op cfgB) → Decidable (RoomFor dir l lab)
  | .inr (.packet pkg _ _) =>
    decidable_of_iff (∀ chs ∈ (l.receiver.connections dir.j).channels,
      pkg.header.ctrlFlags = ctrlFlagData ∧ pkg.Finds l.receiver dir.j ∧
        (l.receiver.connections dir.j).state = .established ∧
        pkg.header.channelId.toNat = dir.d.val ∧ pkg.header.seq = (chs.chan dir.d).ack →
      (chs.chan dir.d).rQueue.isFull = false)
      ⟨fun h hflags chs hr hseq ↦
        h chs hr.channels ⟨hflags, hr.finds, hr.established, hr.channel, hseq⟩,
      fun h chs hchs ⟨hflags, hfind, hest, hc, hseq⟩ ↦ h hflags chs ⟨hfind, hest, hchs, hc⟩ hseq⟩
  | .inr (.connect _) | .inr (.close _ _) | .inr (.send _ _) | .inr .pollevent
  | .inr (.popdata _) | .inr .readError | .inr (.timers _ _) | .inl _ =>
    inferInstanceAs (Decidable True)

/-- What a step of the receiver has to show. -/
theorem Tracks.of_receiver (h : Tracks dir s₀ l S) (hreach : S'.Reachable)
    (hacc : S'.accepted = S.accepted) (hbase : S'.base = S.base) (hwire : S'.wire = S.wire)
    (hacks : S.acks ⊆ S'.acks)
    (hside : (ctx.connections dir.j).state = .established → ∃ chan, RecvSide dir s₀ { l with
      receiver := ctx, popped := l.popped ++ got, acks := l.acks ++ sent } S' chan)
    (hsent : ∀ p ∈ sent, ∃ k ∈ S'.acks, p.header.ack = numbered s₀ k) :
    Tracks dir s₀
      { l with receiver := ctx, popped := l.popped ++ got, acks := l.acks ++ sent } S' where
  reachable := hreach
  accepted := hacc.trans h.accepted
  tagged := h.tagged
  sendSide := by
    intro hest
    obtain ⟨chan, hchan⟩ := h.sendSide hest
    exact ⟨chan, hchan.has, hchan.reliable, by rw [hacc]; exact hchan.seq,
      by rw [hacc, hbase]; exact hchan.payloads, by rw [hbase]; exact hchan.numbers⟩
  recvSide := hside
  data := by
    intro p hp
    obtain ⟨k, hk, hseq⟩ := h.data p hp
    exact ⟨k, hwire ▸ hk, hseq⟩
  acks := by
    intro p hp
    rcases List.mem_append.1 hp with hp | hp
    · obtain ⟨k, hk, hack⟩ := h.acks p hp
      exact ⟨k, hacks hk, hack⟩
    · exact hsent p hp

/-- A step of the receiver that neither takes a message nor answers one, nor pops one. -/
theorem tracks_of_receiver_same (h : Tracks dir s₀ l S) {chan chan' : Glbchannel}
    (hchan : RecvSide dir s₀ l S chan) (hchan' : ctx.HasChannel dir.j dir.d chan')
    (hside : chan'.recvSide = chan.recvSide) :
    Tracks dir s₀ { l with receiver := ctx, popped := l.popped ++ [], acks := l.acks ++ [] } S ∧
      (Stored dir l S → Stored dir
        { l with receiver := ctx, popped := l.popped ++ [], acks := l.acks ++ [] } S) := by
  obtain ⟨hq, hack, hflags⟩ := Glbchannel.recvSide_eq_iff.1 hside
  refine ⟨h.of_receiver h.reachable rfl rfl rfl (fun _ hk ↦ hk)
    (fun _ ↦ ⟨chan', hchan.of_eq rfl hchan' hack hflags⟩) (fun _ hp ↦ by cases hp), ?_⟩
  intro hstored chan₁ hchan₁
  obtain rfl := hchan'.unique hchan₁
  show (l.popped ++ []) ++ chan'.rQueue.elems.map Glbpkg.data = S.delivered
  rw [List.append_nil, hq]
  exact hstored chan hchan.has

/-- One that leaves the slot not established. -/
theorem Tracks.of_receiver_down (h : Tracks dir s₀ l S)
    (hdown : (ctx.connections dir.j).state ≠ .established) :
    Tracks dir s₀ { l with receiver := ctx, popped := l.popped ++ [], acks := l.acks ++ [] } S :=
  h.of_receiver h.reachable rfl rfl rfl (fun _ hk ↦ hk) (fun hest ↦ absurd hest hdown)
    fun _ hp ↦ by cases hp

/-- The receiving slot keeps its channel. -/
theorem Tracks.recvChange (h : Tracks dir s₀ l S)
    (hest₀ : (l.receiver.connections dir.j).state = .established)
    (hstep : Glbctx.Step l.receiver op ctx)
    (hest : (ctx.connections dir.j).state = .established) :
    ∃ chan chan', RecvSide dir s₀ l S chan ∧ ctx.HasChannel dir.j dir.d chan' ∧
      RecvChange l.receiver dir.j dir.d chan op chan'.recvSide := by
  obtain ⟨chan, hchan⟩ := h.recvSide hest₀
  obtain ⟨chan', hchan', hrecv, -⟩ := Glbctx.channel_of_established hstep hest₀ hest hchan.has
  exact ⟨chan, chan', hchan, hchan', hrecv⟩

/-- What the channel handles carries a message that was sent, under its number. -/
theorem Tracks.genuine {pkg : Glbpkg} {from_ : Glbaddr} {env : Env}
    {chs : Glbchannels cfgB.channelCount} (h : Tracks dir s₀ l S)
    (hflags : pkg.header.ctrlFlags = ctrlFlagData) (hreach : pkg.Reaches l.receiver dir.j dir.d chs)
    (hnet : Genuine l.receiver dir.j dir.d ctrlFlagData l.data (.packet pkg from_ env)) :
    ∃ k, (k, pkg.data) ∈ S.wire ∧ pkg.header.seq = numbered s₀ k := by
  obtain ⟨q, hq, hheader, hdata⟩ := hnet hflags hreach.finds hreach.channel
  obtain ⟨k, hk, hseq⟩ := h.data q hq
  exact ⟨k, hdata ▸ hk, by rw [hheader, hseq]⟩

/-- A message has the number the channel waits for exactly if it is the one the transfer waits
for. -/
theorem Tracks.seq_eq_iff {chan : Glbchannel} {k : ℕ} {data : List UInt8} (h : Tracks dir s₀ l S)
    (hbound : l.accepted.length < 2 ^ 32) (hchan : RecvSide dir s₀ l S chan)
    (hk : (k, data) ∈ S.wire) : numbered s₀ k = chan.ack ↔ k = S.delivered.length := by
  have hS := h.reachable.inv
  have hklt : k < S.accepted.length := (List.getElem?_eq_some_iff.1 (hS.wire k _ hk).2).1
  have hnle := hS.delivered.length_le
  rw [h.accepted] at hklt hnle
  rw [hchan.ack]
  exact numbered_inj (by omega) (by omega)

/-- A message that was taken before is acknowledged again: `ack`. -/
theorem tracks_of_old {chan : Glbchannel} {k : ℕ} (h : Tracks dir s₀ l S)
    (hchan : RecvSide dir s₀ l S chan) (hchan' : ctx.HasChannel dir.j dir.d chan)
    (hk : k < S.delivered.length) (hsent : ∀ p ∈ sent, p.header.ack = numbered s₀ k) :
    Tracks dir s₀ { l with receiver := ctx, popped := l.popped ++ [], acks := l.acks ++ sent }
      { S with acks := insert k S.acks } ∧
    (Stored dir l S → Stored dir
      { l with receiver := ctx, popped := l.popped ++ [], acks := l.acks ++ sent }
      { S with acks := insert k S.acks }) := by
  refine ⟨h.of_receiver (h.reachable.tail (.ack hk)) rfl rfl rfl (Set.subset_insert _ _)
    (fun _ ↦ ⟨_, hchan.of_eq rfl hchan' rfl rfl⟩) fun p hp ↦ ⟨k, Or.inl rfl, hsent p hp⟩, ?_⟩
  intro hstored chan₁ hchan₁
  obtain rfl := hchan'.unique hchan₁
  show (l.popped ++ []) ++ _ = S.delivered
  rw [List.append_nil]
  exact hstored _ hchan.has

/-- The next message is taken and acknowledged: `deliver` and `ack`. -/
theorem tracks_of_next {chan : Glbchannel} {pkg : Glbpkg} (h : Tracks dir s₀ l S)
    (hchan : RecvSide dir s₀ l S chan)
    (hchan' : ctx.HasChannel dir.j dir.d (Glbctx.acceptedChan chan pkg))
    (hk : (S.delivered.length, pkg.data) ∈ S.wire)
    (hsent : ∀ p ∈ sent, p.header.ack = numbered s₀ S.delivered.length) :
    Tracks dir s₀ { l with receiver := ctx, popped := l.popped ++ [], acks := l.acks ++ sent }
      { S with
        delivered := S.delivered ++ [pkg.data]
        acks := insert S.delivered.length S.acks } ∧
    (Stored dir l S → chan.rQueue.isFull = false → Stored dir
      { l with receiver := ctx, popped := l.popped ++ [], acks := l.acks ++ sent }
      { S with
        delivered := S.delivered ++ [pkg.data]
        acks := insert S.delivered.length S.acks }) := by
  refine ⟨h.of_receiver ((h.reachable.tail (.deliver hk)).tail (.ack ?_)) rfl rfl rfl
    (Set.subset_insert _ _) (fun _ ↦ ⟨_, hchan', hchan.reliable, ?_⟩)
    fun p hp ↦ ⟨_, Or.inl rfl, hsent p hp⟩, fun hstored hroom chan₁ hchan₁ ↦ ?_⟩
  · rw [List.length_append]
    exact Nat.lt_succ_self _
  · rw [List.length_append, List.length_singleton, numbered_succ, ← hchan.ack]
    rfl
  · obtain rfl := hchan'.unique hchan₁
    show (l.popped ++ []) ++ _ = S.delivered ++ [pkg.data]
    rw [List.append_nil, Glbctx.elems_acceptedChan _ hroom, List.map_append, ← List.append_assoc,
      hstored _ hchan.has]
    rfl

/-- A DATA packet for the channel is `deliver` and `ack`, or `ack`, or nothing. -/
theorem tracks_of_data {pkg : Glbpkg} {from_ : Glbaddr} {env : Env}
    {chs : Glbchannels cfgB.channelCount} (h : Tracks dir s₀ l S)
    (hbound : l.accepted.length < 2 ^ 32)
    (hstep : Glbctx.Step l.receiver (.packet pkg from_ env) ctx)
    (hnet : Genuine l.receiver dir.j dir.d ctrlFlagData l.data (.packet pkg from_ env))
    (hflags : pkg.header.ctrlFlags = ctrlFlagData)
    (hreach : pkg.Reaches l.receiver dir.j dir.d chs) :
    ∃ S', S'.delivered =
        S.delivered ++ l.receiver.takenBy dir.j dir.d (.packet pkg from_ env) ∧
      Tracks dir s₀ { l with
      receiver := ctx
      popped := l.popped ++ []
      acks := l.acks ++ Glbctx.answeredOn dir.j dir.d (l.receiver, .packet pkg from_ env, ctx) }
      S' ∧ (Stored dir l S → RoomFor dir l (.inr (.packet pkg from_ env)) → Stored dir { l with
        receiver := ctx
        popped := l.popped ++ []
        acks := l.acks ++ Glbctx.answeredOn dir.j dir.d (l.receiver, .packet pkg from_ env, ctx) }
        S') := by
  obtain ⟨k, hk, hseq⟩ := h.genuine hflags hreach hnet
  obtain ⟨chan, hchan⟩ := h.recvSide hreach.established
  obtain rfl := hchan.has.unique ⟨chs, hreach.channels, rfl⟩
  have hnext := h.seq_eq_iff hbound hchan hk
  rw [← hseq] at hnext
  rw [Glbctx.takenBy_of_reaches from_ env hflags hreach]
  have hanswer : ∀ p ∈ Glbctx.answeredOn dir.j dir.d (l.receiver, .packet pkg from_ env, ctx),
      p.header.ack = numbered s₀ k := fun p hp ↦ (Glbctx.mem_answeredOn hstep hp).trans hseq
  have hdata := (Glbctx.handlePacket_of_data hflags).symm.trans hstep
  cases id (Glbctx.onData_effect hdata) with
  | ignored heq hnot =>
    have hturn : pkg.header.seq ≠ (chs.chan dir.d).ack := fun hturn ↦
      (hnot _ _ _ hreach).2 ⟨hchan.reliable, hturn⟩
    rw [Glbctx.answeredOn_of_sock (by rw [heq]), if_neg hturn]
    have hchan' : ctx.HasChannel dir.j dir.d (chs.chan dir.d) := by rw [heq]; exact hchan.has
    obtain ⟨htracks, hstored⟩ := tracks_of_receiver_same h hchan hchan' rfl
    exact ⟨S, (List.append_nil _).symm, htracks, fun hs _ ↦ hstored hs⟩
  | old hreach' _ hlt _ heq =>
    -- the packet is acknowledged again: it is one before the message that is due
    obtain ⟨rfl, rfl, rfl⟩ := hreach.unique hreach'
    have hne : k ≠ S.delivered.length := fun hkn ↦ UInt32.ne_of_lt hlt (hnext.2 hkn)
    have hkbase := (h.reachable.inv.wire k _ hk).1
    have hle := h.reachable.inv.base_le
    have hchan' : ctx.HasChannel dir.j dir.d (chs.chan dir.d) := by
      rw [heq, HasChannel, Glbctx.connections_glbioSend]
      exact hchan.has
    rw [if_neg (UInt32.ne_of_lt hlt)]
    obtain ⟨htracks, hstored⟩ := tracks_of_old h hchan hchan' (by omega) hanswer
    exact ⟨{ S with acks := insert k S.acks }, (List.append_nil _).symm, htracks,
      fun hs _ ↦ hstored hs⟩
  | future hreach' _ hlt _ heq =>
    obtain ⟨rfl, rfl, rfl⟩ := hreach.unique hreach'
    have hchan' : ctx.HasChannel dir.j dir.d (chs.chan dir.d) :=
      ⟨chs, by rw [heq]; simpa using hreach.channels, rfl⟩
    rw [Glbctx.answeredOn_of_sock (by rw [heq]; rfl), if_neg (UInt32.ne_of_lt hlt).symm]
    obtain ⟨htracks, hstored⟩ := tracks_of_receiver_same h hchan hchan' rfl
    exact ⟨S, (List.append_nil _).symm, htracks, fun hs _ ↦ hstored hs⟩
  | accepted hreach' hseq' _ hb =>
    -- the message that is due: by its number it can be no other
    obtain ⟨rfl, rfl, rfl⟩ := hreach.unique hreach'
    have hturn := hseq' hchan.reliable
    obtain rfl := hnext.1 hturn
    have hchan' : ctx.HasChannel dir.j dir.d (Glbctx.acceptedChan (chs.chan dir.d) pkg) :=
      ⟨_, by rw [hb.self], if_pos rfl⟩
    rw [if_pos hturn]
    obtain ⟨htracks, hstored⟩ := tracks_of_next h hchan hchan' hk hanswer
    exact ⟨_, rfl, htracks, fun hs hroom ↦ hstored hs (hroom hflags chs hreach hturn)⟩

/-- `glb_popdata` moves messages from what is waiting to what was popped. -/
theorem tracks_of_popdata {info : Glbrecvinfo cfgB.connectionCount} (h : Tracks dir s₀ l S)
    (hest₀ : (l.receiver.connections dir.j).state = .established)
    (hstep : Glbctx.Step l.receiver (.popdata info) ctx) :
    Tracks dir s₀ { l with
      receiver := ctx
      popped := l.popped ++ l.receiver.poppedBy dir.j dir.d (.popdata info)
      acks := l.acks ++ [] } S ∧ (Stored dir l S → Stored dir { l with
        receiver := ctx
        popped := l.popped ++ l.receiver.poppedBy dir.j dir.d (.popdata info)
        acks := l.acks ++ [] } S) := by
  obtain ⟨chan, hchan⟩ := h.recvSide hest₀
  obtain ⟨⟨code, data, ctx₁⟩, hpop, rfl⟩ := Option.map_eq_some_iff.1 hstep
  have hest : (ctx₁.connections dir.j).state = .established :=
    ((Glbctx.glbPopdata_quiet hpop).life dir.j).state.trans hest₀
  cases id (Glbctx.glbPopdata_effect hpop) with
  | failed hcode =>
    have hgot : l.receiver.poppedBy dir.j dir.d (.popdata info) = [] := by
      rw [Glbctx.poppedBy, hpop]
      split
      · next heq => cases heq; exact absurd rfl hcode
      · rfl
    rw [hgot]
    exact tracks_of_receiver_same h hchan hchan.has rfl
  | @popped i c chs pkg rest hcon hc hchs hhead =>
    obtain ⟨chan', hchan'⟩ := Glbctx.hasChannel_of_established hstep hest hchan.has
    rcases Glbctx.hasChannel_setChan hchs hchan' with ⟨rfl, rfl, rfl⟩ | ⟨hne, hsame⟩
    · have hgot : l.receiver.poppedBy dir.j dir.d (.popdata info) = [pkg.data] := by
        rw [Glbctx.poppedBy, hpop]
        exact if_pos ⟨hcon, hc⟩
      obtain rfl := hchan.has.unique ⟨chs, hchs, rfl⟩
      rw [hgot]
      refine ⟨h.of_receiver h.reachable rfl rfl rfl (fun _ hk ↦ hk)
        (fun _ ↦ ⟨_, hchan.of_eq rfl hchan' rfl rfl⟩) (fun _ hp ↦ by cases hp),
        fun hstored chan₁ hchan₁ ↦ ?_⟩
      obtain rfl := hchan'.unique hchan₁
      have hbefore := hstored _ hchan.has
      rw [hhead, List.map_cons] at hbefore
      show (l.popped ++ [pkg.data]) ++ _ = S.delivered
      rw [← hbefore, List.append_assoc, Glbqueue.toBoundedQueue_pop, BoundedQueue.elems_drop, hhead]
      rfl
    · -- a message of another channel, or of another connection
      have hgot : l.receiver.poppedBy dir.j dir.d (.popdata info) = [] := by
        rw [Glbctx.poppedBy, hpop]
        refine if_neg fun ⟨hi, hcc⟩ ↦ hne ⟨?_, ?_⟩
        · exact Option.some_inj.1 (hi.symm.trans hcon)
        · exact Fin.ext (hcc.symm.trans hc)
      rw [hgot]
      obtain rfl := hsame.unique hchan.has
      exact tracks_of_receiver_same h hchan hchan' rfl

/-- A step of the receiver that is neither a call of `glb_popdata` nor DATA for the channel does
nothing. -/
theorem tracks_of_receiver_other (h : Tracks dir s₀ l S)
    (hest₀ : (l.receiver.connections dir.j).state = .established)
    (hstep : Glbctx.Step l.receiver op ctx) (hgot : l.receiver.poppedBy dir.j dir.d op = [])
    (hpop : ∀ info, op ≠ .popdata info)
    (hdata : ∀ pkg from_ env, op = .packet pkg from_ env → pkg.header.ctrlFlags = ctrlFlagData →
      ∀ chs, ¬ pkg.Reaches l.receiver dir.j dir.d chs) :
    ∃ S', S'.delivered = S.delivered ++ l.receiver.takenBy dir.j dir.d op ∧ Tracks dir s₀ { l with
      receiver := ctx
      popped := l.popped ++ l.receiver.poppedBy dir.j dir.d op
      acks := l.acks ++ Glbctx.answeredOn dir.j dir.d (l.receiver, op, ctx) } S' ∧
      ((ctx.connections dir.j).state = .established → Stored dir l S → RoomFor dir l (.inr op) →
        Stored dir { l with
          receiver := ctx
          popped := l.popped ++ l.receiver.poppedBy dir.j dir.d op
          acks := l.acks ++ Glbctx.answeredOn dir.j dir.d (l.receiver, op, ctx) } S') := by
  obtain ⟨chan, hchan⟩ := h.recvSide hest₀
  rw [hgot, Glbctx.takenBy_eq_nil hest₀ hdata, Glbctx.answeredOn_eq_nil hest₀ hchan.has hdata]
  refine ⟨S, (List.append_nil _).symm, ?_⟩
  by_cases hest : (ctx.connections dir.j).state = .established
  case neg => exact ⟨h.of_receiver_down hest, fun hest' ↦ absurd hest' hest⟩
  obtain ⟨chan, chan', hchan, hchan', hrecv⟩ := h.recvChange hest₀ hstep hest
  generalize hside : chan'.recvSide = side at hrecv
  cases hrecv with
  | same =>
    obtain ⟨htracks, hstored⟩ := tracks_of_receiver_same h hchan hchan' hside
    exact ⟨htracks, fun _ hs _ ↦ hstored hs⟩
  | popped => exact absurd rfl (hpop _)
  | accepted hflags hreach => exact absurd hreach (hdata _ _ _ rfl hflags _)

/-- A step of the established receiver is at most two steps of the protocol. What it takes is added
to what was delivered, and is stored as long as there is room. -/
theorem tracks_of_receiver (h : Tracks dir s₀ l S)
    (hest₀ : (l.receiver.connections dir.j).state = .established)
    (hbound : l.accepted.length < 2 ^ 32) (hstep : Glbctx.Step l.receiver op ctx)
    (hnet : Genuine l.receiver dir.j dir.d ctrlFlagData l.data op) :
    ∃ S', S'.delivered = S.delivered ++ l.receiver.takenBy dir.j dir.d op ∧ Tracks dir s₀ { l with
      receiver := ctx
      popped := l.popped ++ l.receiver.poppedBy dir.j dir.d op
      acks := l.acks ++ Glbctx.answeredOn dir.j dir.d (l.receiver, op, ctx) } S' ∧
      ((ctx.connections dir.j).state = .established → Stored dir l S → RoomFor dir l (.inr op) →
        Stored dir { l with
          receiver := ctx
          popped := l.popped ++ l.receiver.poppedBy dir.j dir.d op
          acks := l.acks ++ Glbctx.answeredOn dir.j dir.d (l.receiver, op, ctx) } S') := by
  cases op with
  | popdata info =>
    obtain ⟨htracks, hstored⟩ := tracks_of_popdata h hest₀ hstep
    exact ⟨S, (List.append_nil _).symm, htracks, fun _ hs _ ↦ hstored hs⟩
  | packet pkg from_ env =>
    by_cases hreach : pkg.header.ctrlFlags = ctrlFlagData ∧
        ∃ chs, pkg.Reaches l.receiver dir.j dir.d chs
    · obtain ⟨hflags, chs, hreach⟩ := hreach
      obtain ⟨S', htaken, htracks, hstored⟩ := tracks_of_data h hbound hstep hnet hflags hreach
      exact ⟨S', htaken, htracks, fun _ ↦ hstored⟩
    · refine tracks_of_receiver_other h hest₀ hstep rfl (fun _ h ↦ by cases h) ?_
      rintro _ _ _ ⟨rfl, rfl, rfl⟩ hflags chs hr
      exact hreach ⟨hflags, chs, hr⟩
  | connect | close | send | pollevent | readError | timers =>
    exact tracks_of_receiver_other h hest₀ hstep rfl (fun _ h ↦ by cases h)
      fun _ _ _ h ↦ by cases h

end Receiver

/-- The payload the receiver takes in a step. -/
def takenBy (dir : Direction cfgA cfgB) (l : Link cfgA cfgB) :
    Op cfgA ⊕ Op cfgB → List (List UInt8)
  | .inl _ => []
  | .inr op => l.receiver.takenBy dir.j dir.d op

/-- **The link implements stop and wait.** A step of the link is a few steps of the protocol. What
the receiver takes is added to what was delivered, and is stored as long as there is room for it. -/
theorem tracks_step {l' : Link cfgA cfgB} {lab : Op cfgA ⊕ Op cfgB} (h : Tracks dir s₀ l S)
    (hup : Up dir l) (hbound : l.accepted.length < 2 ^ 32) (hstep : Step dir l lab l') :
    ∃ S', S'.delivered = S.delivered ++ takenBy dir l lab ∧ Tracks dir s₀ l' S' ∧
      (Stored dir l S → RoomFor dir l lab → Stored dir l' S') := by
  cases hstep with
  | sender hstep hest hnet =>
    obtain ⟨S', htracks, hdel⟩ := tracks_of_sender h hup.sender hbound hstep hnet
    refine ⟨S', hdel.trans (List.append_nil _).symm, htracks, fun hstored _ chan hchan ↦ ?_⟩
    rw [hdel]
    exact hstored chan hchan
  | receiver hstep hest hnet =>
    obtain ⟨S', htaken, htracks, hstored⟩ := tracks_of_receiver h hup.receiver hbound hstep hnet
    exact ⟨S', htaken, htracks, hstored hest⟩

end Link

end Gilberta
