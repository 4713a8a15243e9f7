import Gilberta.Link.Rebind

/-!
# Whatever is lost, each round trip counts

`payloads_delivered` says that nothing is delivered twice or out of order; it does not say that
anything is delivered at all. For that the network has to let something through. A round trip is a
pass of the sender's timers that transmits the head of the send queue, the receiver's handling of
what was transmitted, and the sender's handling of the answer, in this order and with anything in
between: other packets, losses, other round trips, calls of either application.

Each round trip makes the sender done with one more message (`Tracks.of_roundTrip`), so after as
many of them as there were messages in the send queue all these have arrived
(`delivered_of_round_trips`). The sequence numbers must not have come to their end: the last of them
is the one after which a lost acknowledgment is not made up for. -/

namespace Gilberta

variable {cfgA cfgB : Glbcfg}

namespace Glbctx

variable {cfg : Glbcfg} {ctx ctx' : Glbctx cfg} {i : Fin cfg.connectionCount}
  {c : Fin cfg.channelCount} {chan : Glbchannel} {head : Glbpkg} {rest : List Glbpkg} {env : Env}

/-! ### What is due is transmitted -/

/-- The transmission on a channel sends its head if that is due. -/
theorem sock_transmit (hchan : ctx.HasChannel i c chan) (hhead : chan.sQueue.elems = head :: rest)
    (hdue : glbtimeIsexpired head.timestamp (env.clock (2 * c + 2)) = true)
    (hok : env.sendOk (c + 1) = true) :
    (ctx.transmit i env c).sock =
      ctx.sock ++ [⟨head.seal, (ctx.connections i).peerAddr⟩] := by
  obtain ⟨chs, hchs, rfl⟩ := hchan
  have hpeek : (chs.chan c).sQueue.peek = (.success, some head) := by
    rw [Glbqueue.peek, hhead]
  simp only [transmit, hchs, hpeek, hdue, if_true]
  have hsend : (ctx.glbioSend head (ctx.connections i).peerAddr (env.sendOk (c + 1))).2.sock =
      ctx.sock ++ [⟨head.seal, (ctx.connections i).peerAddr⟩] := by
    rw [sock_glbioSend, if_pos hok]
  split
  · exact hsend
  · rw [countTransmission]
    dsimp only
    split
    · exact hsend
    · exact hsend

/-- So does the transmission on all channels: those before this one leave the head where it is. -/
theorem mem_foldl_transmit (hchan : ctx.HasChannel i c chan)
    (hhead : chan.sQueue.elems = head :: rest)
    (hdue : glbtimeIsexpired head.timestamp (env.clock (2 * c + 2)) = true)
    (hok : env.sendOk (c + 1) = true) : ∃ ds,
    ((List.finRange cfg.channelCount).foldl (fun ctx c ↦ ctx.transmit i env c) ctx).sock =
      ctx.sock ++ ds ∧ ⟨head.seal, (ctx.connections i).peerAddr⟩ ∈ ds := by
  obtain ⟨chs, hchs, rfl⟩ := hchan
  obtain ⟨cs₁, cs₂, hcs⟩ := List.append_of_mem (List.mem_finRange c)
  have hnodup := List.nodup_finRange cfg.channelCount
  rw [hcs] at hnodup ⊢
  obtain ⟨hnodup₁, hnodup₂, hdisjoint⟩ := List.nodup_append.1 hnodup
  have hc : c ∉ cs₁ := fun hmem ↦ hdisjoint c hmem c List.mem_cons_self rfl
  rw [List.foldl_append, List.foldl_cons]
  obtain ⟨chs₁, -, hsame, hchs₁, hpeer₁, ds₁, hsock₁, -⟩ :=
    foldl_transmit_effect env cs₁ hnodup₁ hchs
  generalize cs₁.foldl (fun ctx c ↦ ctx.transmit i env c) ctx = ctx₁ at hchs₁ hpeer₁ hsock₁
  have hhead₁ : (chs₁.chan c).sQueue.elems = head :: rest := by rw [hsame c hc, hhead]
  have hsock := sock_transmit ⟨chs₁, hchs₁, rfl⟩ hhead₁ hdue hok
  obtain ⟨_, -, hchs₂, -⟩ := transmit_effect env c hchs₁
  obtain ⟨_, -, -, -, -, ds₂, hsock₂, -⟩ :=
    foldl_transmit_effect env cs₂ (List.nodup_cons.1 hnodup₂).2 hchs₂
  refine ⟨ds₁ ++ [⟨head.seal, (ctx.connections i).peerAddr⟩] ++ ds₂, ?_, by simp⟩
  rw [hsock₂, hsock, hsock₁, hpeer₁]
  simp only [List.append_assoc]

/-- **What is due is transmitted.** A pass of the timers of an established slot puts the head of a
channel's send queue on the wire if it is due and `sendto` takes it. -/
theorem mem_transmittedOn_of_due (htag : ctx.Tagged)
    (hest : (ctx.connections i).state = .established) (h : Step ctx (.timers i env) ctx')
    (hchan : ctx.HasChannel i c chan) (hhead : chan.sQueue.elems = head :: rest)
    (hdue : glbtimeIsexpired head.timestamp (env.clock (2 * c + 2)) = true)
    (hok : env.sendOk (c + 1) = true) :
    head.seal ∈ transmittedOn i c (ctx, .timers i env, ctx') := by
  obtain ⟨hflags, hchannel⟩ := htag i c chan hchan head (by rw [hhead]; exact List.mem_cons_self)
  obtain ⟨ds, hsock, hmem⟩ := mem_foldl_transmit hchan hhead hdue hok
  obtain ⟨-, -, rfl⟩ := handleTimers_established_eq hest h
  obtain ⟨-, ds', hsock', -⟩ := keepaliveTimer_effect
    ((List.finRange cfg.channelCount).foldl (fun ctx c ↦ ctx.transmit i env c) ctx) i env
  rw [transmittedOn]
  dsimp only
  rw [if_pos rfl, List.mem_filter, sentWith, List.mem_filter]
  dsimp only
  refine ⟨⟨List.mem_map.2 ⟨⟨head.seal, (ctx.connections i).peerAddr⟩, ?_, rfl⟩,
    decide_eq_true hflags⟩, decide_eq_true hchannel⟩
  rw [hsock', hsock, List.append_assoc, List.drop_left]
  exact List.mem_append_left _ hmem

end Glbctx

namespace Link

open Glbctx (HasChannel)

/-- One transition of a link. -/
abbrev Transition (cfgA cfgB : Glbcfg) :=
  Link cfgA cfgB × (Op cfgA ⊕ Op cfgB) × Link cfgA cfgB

variable {dir : Direction cfgA cfgB} {s₀ : UInt32} {l₀ l l' : Link cfgA cfgB}
  {x : Transition cfgA cfgB} {ts us : List (Transition cfgA cfgB)}
  {uss : List (List (Transition cfgA cfgB))} {b : ℕ}

/-! ### Round trips -/

/-- The DATA packets a transition transmits on the channel. -/
def dataOf (x : Transition cfgA cfgB) : List Glbpkg := x.2.2.data.drop x.1.data.length

/-- The DATA|ACKs a transition answers with on the channel. -/
def acksOf (x : Transition cfgA cfgB) : List Glbpkg := x.2.2.acks.drop x.1.acks.length

/-- A pass of the sender's timers that transmits on the channel: a head of the send queue is due,
and `sendto` takes it. -/
def Transmits (dir : Direction cfgA cfgB) (x : Transition cfgA cfgB) : Prop :=
  match x.2.1 with
  | .inl (.timers i env) => i = dir.i ∧ env.sendOk (dir.c + 1) = true ∧
      ∀ chs ∈ (x.1.sender.connections dir.i).channels,
        ∀ head ∈ (chs.chan dir.c).sQueue.elems.head?,
          glbtimeIsexpired head.timestamp (env.clock (2 * dir.c + 2)) = true
  | _ => False

/-- The receiver handles the DATA packet `p`, which comes from the address it knows, and `sendto`
takes what it answers. -/
def HearsData (dir : Direction cfgA cfgB) (p : Glbpkg) (x : Transition cfgA cfgB) : Prop :=
  match x.2.1 with
  | .inr (.packet pkg from_ env) => pkg.SameOnWire p ∧ pkg.Finds x.1.receiver dir.j ∧
      from_ = (x.1.receiver.connections dir.j).peerAddr ∧ env.sendOk 0 = true
  | _ => False

/-- The sender handles the DATA|ACK `q`. -/
def HearsAck (dir : Direction cfgA cfgB) (q : Glbpkg) (x : Transition cfgA cfgB) : Prop :=
  match x.2.1 with
  | .inl (.packet pkg _ _) => pkg.SameOnWire q ∧ pkg.Finds x.1.sender dir.i
  | _ => False

/-- Some pass of the sender's timers transmits, the receiver handles what was transmitted after it,
and the sender handles what that was answered with after that. -/
def RoundTrip (dir : Direction cfgA cfgB) (us : List (Transition cfgA cfgB)) : Prop :=
  Eventually (fun x us ↦ Transmits dir x ∧ ∀ p ∈ dataOf x,
    Eventually (fun y us ↦ HearsData dir p y ∧ ∀ q ∈ acksOf y,
      Eventually (fun z _ ↦ HearsAck dir q z) us) us) us

instance (dir : Direction cfgA cfgB) : (x : Transition cfgA cfgB) → Decidable (Transmits dir x)
  | (l, .inl (.timers i env), _) => inferInstanceAs (Decidable (i = dir.i ∧
      env.sendOk (dir.c + 1) = true ∧ ∀ chs ∈ (l.sender.connections dir.i).channels,
        ∀ head ∈ (chs.chan dir.c).sQueue.elems.head?,
          glbtimeIsexpired head.timestamp (env.clock (2 * dir.c + 2)) = true))
  | (_, .inr _, _) | (_, .inl (.connect _), _) | (_, .inl (.close _ _), _)
  | (_, .inl (.send _ _), _) | (_, .inl .pollevent, _) | (_, .inl (.popdata _), _)
  | (_, .inl .readError, _) | (_, .inl (.packet _ _ _), _) => inferInstanceAs (Decidable False)

instance (dir : Direction cfgA cfgB) (p : Glbpkg) :
    (x : Transition cfgA cfgB) → Decidable (HearsData dir p x)
  | (l, .inr (.packet pkg from_ env), _) => inferInstanceAs (Decidable (pkg.SameOnWire p ∧
      pkg.Finds l.receiver dir.j ∧ from_ = (l.receiver.connections dir.j).peerAddr ∧
      env.sendOk 0 = true))
  | (_, .inl _, _) | (_, .inr (.connect _), _) | (_, .inr (.close _ _), _)
  | (_, .inr (.send _ _), _) | (_, .inr .pollevent, _) | (_, .inr (.popdata _), _)
  | (_, .inr .readError, _) | (_, .inr (.timers _ _), _) => inferInstanceAs (Decidable False)

instance (dir : Direction cfgA cfgB) (q : Glbpkg) :
    (x : Transition cfgA cfgB) → Decidable (HearsAck dir q x)
  | (l, .inl (.packet pkg _ _), _) =>
    inferInstanceAs (Decidable (pkg.SameOnWire q ∧ pkg.Finds l.sender dir.i))
  | (_, .inr _, _) | (_, .inl (.connect _), _) | (_, .inl (.close _ _), _)
  | (_, .inl (.send _ _), _) | (_, .inl .pollevent, _) | (_, .inl (.popdata _), _)
  | (_, .inl .readError, _) | (_, .inl (.timers _ _), _) => inferInstanceAs (Decidable False)

instance (dir : Direction cfgA cfgB) (us : List (Transition cfgA cfgB)) :
    Decidable (RoundTrip dir us) := by
  unfold RoundTrip
  infer_instance

/-! ### What the sender is done with -/

theorem accepted_prefix_of_run (hrun : Execution (Step dir) l us l') :
    l.accepted <+: l'.accepted := by
  induction hrun with
  | nil => exact List.prefix_refl _
  | snoc _ hstep ih => exact ih.trans hstep.accepted_prefix

/-- The sender is not thrown back. -/
theorem base_mono {S S' : StopAndWait (List UInt8)} {lab : Op cfgA ⊕ Op cfgB} (hup : Up dir l)
    (hS : Tracks dir s₀ l S) (hS' : Tracks dir s₀ l' S') (hstep : Step dir l lab l') :
    S.base ≤ S'.base := by
  have hup' := hstep.up hup
  have haccepted := hstep.accepted_prefix.length_le
  obtain ⟨chan, hchan⟩ := hS.sendSide hup.sender
  obtain ⟨chan', hchan'⟩ := hS'.sendSide hup'.sender
  have hlen := hchan.length_elems hS.reachable.inv
  have hlen' := hchan'.length_elems hS'.reachable.inv
  rw [hS.accepted] at hlen
  rw [hS'.accepted] at hlen'
  rcases hstep with ⟨hstep, hest, -⟩ | -
  · obtain ⟨chan₁, hchan₁, -, hsend⟩ :=
      Glbctx.channel_of_established hstep hup.sender hest hchan.has
    obtain rfl := hchan₁.unique hchan'.has
    generalize hside : chan₁.sendSide = side at hsend
    cases hsend with
    | same =>
      obtain ⟨hq, -, -⟩ := Glbchannel.sendSide_eq_iff.1 hside
      rw [hq] at hlen'
      omega
    | queued _ _ _ hroom =>
      obtain ⟨hq, hseq, -⟩ := Glbchannel.sendSide_eq_iff.1 hside
      rw [hq, Glbctx.elems_queuedChan hroom, List.length_append, List.length_singleton] at hlen'
      -- the counter has moved, so a message was accepted
      have hne : S'.accepted.length ≠ S.accepted.length := by
        intro heq
        have hsame : chan₁.seq = chan.seq := by rw [hchan'.seq, hchan.seq, heq]
        exact absurd (hseq.symm.trans hsame) (by simp [Glbctx.queuedChan])
      rw [hS.accepted, hS'.accepted] at hne
      omega
    | acked =>
      obtain ⟨hq, -, -⟩ := Glbchannel.sendSide_eq_iff.1 hside
      rw [hq, Glbqueue.toBoundedQueue_pop, BoundedQueue.elems_drop, List.length_tail] at hlen'
      omega
    | transmitted htrans =>
      obtain ⟨hq, -, -⟩ := Glbchannel.sendSide_eq_iff.1 hside
      rw [hq] at hlen'
      cases htrans with
      | idle => omega
      | kept now =>
        have hsame : (chan.sQueue.writeHead (Glbctx.retransmitted · now)).elems.length =
            chan.sQueue.elems.length := List.length_modifyHead
        change S'.base + (chan.sQueue.writeHead _).elems.length = _ at hlen'
        omega
      | dropped hrel => rw [hchan.reliable] at hrel; cases hrel
  · obtain rfl : chan = chan' := hchan.has.unique hchan'.has
    omega

/-- The transfer between two established slots has come to message `b` or further. -/
structure Past (dir : Direction cfgA cfgB) (s₀ : UInt32) (l : Link cfgA cfgB) (b : ℕ) : Prop where
  /-- The slots are established, and the receiver's channel is reliable. -/
  joined : Joined dir l
  /-- The sender is done with what was accepted before. -/
  done : ∃ S, Tracks dir s₀ l S ∧ b ≤ S.base

theorem Past.le {b' : ℕ} (h : Past dir s₀ l b) (hle : b' ≤ b) : Past dir s₀ l b' := by
  obtain ⟨S, hS, hb⟩ := h.done
  exact ⟨h.joined, S, hS, hle.trans hb⟩

theorem Past.step {lab : Op cfgA ⊕ Op cfgB} (h : Past dir s₀ l b) (hstep : Step dir l lab l')
    (hfew : l.accepted.length < 2 ^ 32) : Past dir s₀ l' b := by
  obtain ⟨S, hS, hb⟩ := h.done
  obtain ⟨S', -, hS', -⟩ := tracks_step hS h.joined.toUp hfew hstep
  exact ⟨h.joined.step hstep, S', hS', hb.trans (base_mono h.joined.toUp hS hS' hstep)⟩

theorem Past.run (h : Past dir s₀ l b) (hrun : Execution (Step dir) l us l')
    (hfew : l'.accepted.length < 2 ^ 32) : Past dir s₀ l' b := by
  induction hrun with
  | nil => exact h
  | snoc _ hstep ih =>
    have hbound := Nat.lt_of_le_of_lt hstep.accepted_prefix.length_le hfew
    exact (ih hbound).step hstep hbound

/-! ### The three parts of a round trip -/

/-- A sender that is not done has a head. -/
theorem SendSide.exists_head {S : StopAndWait (List UInt8)} {chan : Glbchannel}
    (h : SendSide dir s₀ l S chan) (hI : S.Inv) (hmore : S.base < S.accepted.length) :
    ∃ head rest, chan.sQueue.elems = head :: rest := by
  have hlen := h.length_elems hI
  rcases helems : chan.sQueue.elems with - | ⟨head, rest⟩
  · rw [helems, List.length_nil] at hlen
    omega
  · exact ⟨head, rest, rfl⟩

/-- The head is put on the wire. -/
theorem mem_dataOf {S : StopAndWait (List UInt8)} {lab : Op cfgA ⊕ Op cfgB} (h : Joined dir l)
    (hS : Tracks dir s₀ l S) (hstep : Step dir l lab l') (htransmits : Transmits dir (l, lab, l'))
    (hmore : S.base < S.accepted.length) :
    ∃ p ∈ dataOf (l, lab, l'), p.header.ctrlFlags = ctrlFlagData ∧
      p.header.channelId.toNat = dir.c.val ∧ p.header.seq = numbered s₀ S.base := by
  obtain ⟨chan, hchan⟩ := hS.sendSide h.sender
  obtain ⟨head, rest, hhead⟩ := hchan.exists_head hS.reachable.inv hmore
  obtain ⟨hflags, hc⟩ := hS.tagged _ _ _ hchan.has head (by rw [hhead]; exact List.mem_cons_self)
  refine ⟨head.seal, ?_, hflags, hc, (hchan.head hhead).2⟩
  unfold Transmits at htransmits
  split at htransmits
  case h_2 => exact htransmits.elim
  next i env heq =>
    obtain rfl : lab = .inl (.timers i env) := heq
    obtain ⟨rfl, hok, hdue⟩ := htransmits
    obtain ⟨chs, hchs, hchan'⟩ := hchan.has
    have hexpired := hdue chs hchs head (by rw [hchan', hhead]; rfl)
    rcases hstep with ⟨hstep, -, -⟩
    show head.seal ∈ (l.data ++ _).drop l.data.length
    rw [List.drop_left]
    exact Glbctx.mem_transmittedOn_of_due hS.tagged h.sender hstep hchan.has hhead hexpired hok

/-- What is heard is answered with its number. -/
theorem mem_acksOf {S : StopAndWait (List UInt8)} {lab : Op cfgA ⊕ Op cfgB} {p : Glbpkg}
    (h : Joined dir l)
    (hS : Tracks dir s₀ l S) (hstep : Step dir l lab l') (hears : HearsData dir p (l, lab, l'))
    (hflags : p.header.ctrlFlags = ctrlFlagData) (hc : p.header.channelId.toNat = dir.c.val)
    (hseq : p.header.seq = numbered s₀ S.base) (hwrap : s₀.toNat + S.base + 1 < 2 ^ 32) :
    ∃ q ∈ acksOf (l, lab, l'), q.header.ctrlFlags = ctrlFlagDataAck ∧
      q.header.channelId.toNat = dir.c.val ∧ q.header.ack = numbered s₀ S.base := by
  obtain ⟨chan, hchan⟩ := hS.recvSide h.receiver
  unfold HearsData at hears
  split at hears
  case h_2 => exact hears.elim
  next pkg from_ env heq =>
    obtain rfl : lab = .inr (.packet pkg from_ env) := heq
    obtain ⟨⟨hheader, -⟩, hfind, hfrom, hok⟩ := hears
    change from_ = (l.receiver.connections dir.j).peerAddr at hfrom
    subst hfrom
    have hI : S.Inv := hS.reachable.inv
    have hpflags : pkg.header.ctrlFlags = ctrlFlagData := by rw [hheader, hflags]
    have hpc : pkg.header.channelId.toNat = dir.d.val := by rw [hheader, hc, dir.same]
    -- the receiver waits for this message or the next one
    have hpast : ¬ chan.ack < pkg.header.seq := by
      have h₁ := hI.base_le
      have h₂ := hI.le_base
      rw [hheader, hseq, hchan.ack, UInt32.lt_iff_toNat_lt, toNat_numbered, toNat_numbered,
        Nat.mod_eq_of_lt (by omega), Nat.mod_eq_of_lt (by omega)]
      omega
    obtain ⟨ctx, hctx, hsock⟩ := answers_data h hchan.has hpflags hfind hpc hok hpast
    rcases hstep with - | ⟨hstep, -, -⟩
    obtain rfl := Option.some_inj.1 (hctx.symm.trans hstep)
    refine ⟨(l.receiver.dataAckPkg dir.j chan pkg.header.channelId pkg.header.seq).seal, ?_, rfl,
      hpc.trans dir.same.symm, (congrArg Glbpkgheader.seq hheader).trans hseq⟩
    show _ ∈ (l.acks ++ _).drop l.acks.length
    rw [List.drop_left, Glbctx.answeredOn]
    dsimp only
    rw [if_pos ⟨hpflags, hfind, hpc⟩, Glbctx.sentWith, List.mem_filter]
    dsimp only
    rw [hsock, List.drop_left]
    exact ⟨List.mem_cons_self, decide_eq_true rfl⟩

/-- What acknowledges the head makes the sender done with it. -/
theorem Past.of_hearsAck {S : StopAndWait (List UInt8)} {lab : Op cfgA ⊕ Op cfgB} {q : Glbpkg}
    (h : Joined dir l)
    (hS : Tracks dir s₀ l S) (hstep : Step dir l lab l') (hears : HearsAck dir q (l, lab, l'))
    (hflags : q.header.ctrlFlags = ctrlFlagDataAck) (hc : q.header.channelId.toNat = dir.c.val)
    (hack : q.header.ack = numbered s₀ S.base) (hmore : S.base < S.accepted.length)
    (hfew : l.accepted.length < 2 ^ 32) : Past dir s₀ l' (S.base + 1) := by
  obtain ⟨chan, hchan⟩ := hS.sendSide h.sender
  obtain ⟨head, rest, hhead⟩ := hchan.exists_head hS.reachable.inv hmore
  unfold HearsAck at hears
  split at hears
  case h_2 => exact hears.elim
  next pkg from_ env heq =>
    obtain rfl : lab = .inl (.packet pkg from_ env) := heq
    obtain ⟨⟨hheader, -⟩, hfind⟩ := hears
    obtain ⟨ctx, chan', (hctx : l.sender.handlePacket pkg from_ env = some ctx), hchan', helems⟩ :=
      drops_head h hchan.has hhead (by rw [hheader, hflags]) hfind (by rw [hheader, hc])
        (by rw [hheader, hack, (hchan.head hhead).2])
    have hjoined := h.step hstep
    obtain ⟨S', -, hS', -⟩ := tracks_step hS h.toUp hfew hstep
    refine ⟨hjoined, S', hS', ?_⟩
    obtain ⟨chan'', hside⟩ := hS'.sendSide hjoined.sender
    have hlen := hchan.length_elems hS.reachable.inv
    have hlen' := hside.length_elems hS'.reachable.inv
    rcases hstep with ⟨hstep, -, -⟩
    obtain rfl := Option.some_inj.1 (hctx.symm.trans hstep)
    obtain rfl := hchan'.unique hside.has
    have haccepted : S'.accepted = S.accepted := by
      rw [hS.accepted, hS'.accepted]
      exact List.append_nil _
    rw [hhead, List.length_cons] at hlen
    rw [helems, haccepted] at hlen'
    omega

/-! ### Round trips count -/

theorem Past.cases (h : Past dir s₀ l b) :
    Past dir s₀ l (b + 1) ∨ ∃ S, Tracks dir s₀ l S ∧ S.base = b := by
  obtain ⟨S, hS, hb⟩ := h.done
  rcases Nat.lt_or_eq_of_le hb with hlt | heq
  · exact .inl ⟨h.joined, S, hS, hlt⟩
  · exact .inr ⟨S, hS, heq.symm⟩

/-- The sender is done with the message it is at when it hears the acknowledgment. -/
theorem Past.of_ack {q : Glbpkg} (h : Past dir s₀ l b) (hrun : Execution (Step dir) l us l')
    (hfew : l'.accepted.length < 2 ^ 32) (hmore : b < l.accepted.length)
    (hflags : q.header.ctrlFlags = ctrlFlagDataAck) (hc : q.header.channelId.toNat = dir.c.val)
    (hack : q.header.ack = numbered s₀ b) (hears : Eventually (fun z _ ↦ HearsAck dir q z) us) :
    Past dir s₀ l' (b + 1) := by
  obtain ⟨us₀, ⟨lz, lab, lz'⟩, us₁, rfl, hz⟩ := hears.exists_split
  obtain ⟨hrun₀, hstep, hrun₁⟩ := hrun.exists_cons
  have hlen₀ := (accepted_prefix_of_run hrun₀).length_le
  have hlen := hstep.accepted_prefix.length_le
  have hlen₁ := (accepted_prefix_of_run hrun₁).length_le
  dsimp only at hrun₀ hstep hrun₁ hlen₀ hlen hlen₁
  have hfewz : lz.accepted.length < 2 ^ 32 := by omega
  refine Past.run ?_ hrun₁ hfew
  rcases (h.run hrun₀ hfewz).cases with hpast | ⟨S, hS, rfl⟩
  · exact hpast.step hstep hfewz
  · refine Past.of_hearsAck (h.run hrun₀ hfewz).joined hS hstep hz hflags hc hack ?_ hfewz
    rw [hS.accepted]
    omega

/-- It is done with the message when the receiver hears it and the acknowledgment comes back. -/
theorem Past.of_data {p : Glbpkg} (h : Past dir s₀ l b) (hrun : Execution (Step dir) l us l')
    (hwrap : s₀.toNat + l'.accepted.length < 2 ^ 32) (hmore : b < l.accepted.length)
    (hflags : p.header.ctrlFlags = ctrlFlagData) (hc : p.header.channelId.toNat = dir.c.val)
    (hseq : p.header.seq = numbered s₀ b) (hears : Eventually (fun y us ↦ HearsData dir p y ∧
      ∀ q ∈ acksOf y, Eventually (fun z _ ↦ HearsAck dir q z) us) us) :
    Past dir s₀ l' (b + 1) := by
  obtain ⟨us₀, ⟨ly, lab, ly'⟩, us₁, rfl, hy, hback⟩ := hears.exists_split
  obtain ⟨hrun₀, hstep, hrun₁⟩ := hrun.exists_cons
  have hlen₀ := (accepted_prefix_of_run hrun₀).length_le
  have hlen := hstep.accepted_prefix.length_le
  have hlen₁ := (accepted_prefix_of_run hrun₁).length_le
  dsimp only at hrun₀ hstep hrun₁ hlen₀ hlen hlen₁
  have hfewy : ly.accepted.length < 2 ^ 32 := by omega
  have hpast := h.run hrun₀ hfewy
  rcases hpast.cases with hdone | ⟨S, hS, rfl⟩
  · exact (hdone.step hstep hfewy).run hrun₁ (by omega)
  · obtain ⟨q, hq, hqflags, hqc, hqack⟩ :=
      mem_acksOf hpast.joined hS hstep hy hflags hc hseq (by omega)
    exact (hpast.step hstep hfewy).of_ack hrun₁ (by omega) (by omega) hqflags hqc hqack
      (hback q hq)

/-- **A round trip counts.** After it the sender is done with one more message, if it had one. -/
theorem Past.of_roundTrip (h : Past dir s₀ l b) (hrun : Execution (Step dir) l us l')
    (hwrap : s₀.toNat + l'.accepted.length < 2 ^ 32) (htrip : RoundTrip dir us) :
    Past dir s₀ l' (min (b + 1) l.accepted.length) := by
  rcases Nat.lt_or_ge b l.accepted.length with hmore | hdone
  case inr => exact (h.run hrun (by omega)).le (by omega)
  refine Past.le ?_ (Nat.min_le_left _ _)
  obtain ⟨us₀, ⟨lx, lab, lx'⟩, us₁, rfl, hx, hthere⟩ := htrip.exists_split
  obtain ⟨hrun₀, hstep, hrun₁⟩ := hrun.exists_cons
  have hlen₀ := (accepted_prefix_of_run hrun₀).length_le
  have hlen := hstep.accepted_prefix.length_le
  have hlen₁ := (accepted_prefix_of_run hrun₁).length_le
  dsimp only at hrun₀ hstep hrun₁ hlen₀ hlen hlen₁
  have hfewx : lx.accepted.length < 2 ^ 32 := by omega
  have hpast := h.run hrun₀ hfewx
  rcases hpast.cases with hdone | ⟨S, hS, rfl⟩
  · exact (hdone.step hstep hfewx).run hrun₁ (by omega)
  · obtain ⟨p, hp, hflags, hc, hseq⟩ :=
      mem_dataOf hpast.joined hS hstep hx (by rw [hS.accepted]; omega)
    exact (hpast.step hstep hfewx).of_data hrun₁ hwrap (by omega) hflags hc hseq (hthere p hp)

/-- Several round trips one after another. -/
theorem Past.of_roundTrips (h : Past dir s₀ l b) (hrun : Execution (Step dir) l uss.flatten l')
    (hwrap : s₀.toNat + l'.accepted.length < 2 ^ 32) (htrips : ∀ us ∈ uss, RoundTrip dir us) :
    Past dir s₀ l' (min (b + uss.length) l.accepted.length) := by
  induction uss generalizing l b with
  | nil => exact (h.run hrun (by omega)).le (Nat.min_le_left _ _)
  | cons us uss ih =>
    rw [List.flatten_cons] at hrun
    obtain ⟨l₁, hrun₀, hrun₁⟩ := hrun.exists_append
    have hlen := (accepted_prefix_of_run hrun₀).length_le
    have hlen' := (accepted_prefix_of_run hrun₁).length_le
    have hpast := h.of_roundTrip hrun₀ (by omega) (htrips us List.mem_cons_self)
    refine (ih hpast hrun₁ fun us hus ↦ htrips us (List.mem_cons_of_mem _ hus)).le ?_
    rw [List.length_cons]
    omega

/-- **Everything arrives if enough round trips do.** Take a run of a link, and after it as many
round trips of the channel as there are messages in the send queue, with anything in between. If the
sequence numbers do not come to their end and a DATA packet that is next always finds room, then all
messages accepted before these round trips were delivered: they are what was popped and what waits
in the receive queue, or the beginning of it, and the send queue holds later ones only. -/
theorem delivered_of_round_trips {schan : Glbchannel} (h₀ : Start dir s₀ l₀)
    (hrun : Execution (Step dir) l₀ ts l) (hrun' : Execution (Step dir) l uss.flatten l')
    (hwrap : s₀.toNat + l'.accepted.length < 2 ^ 32)
    (hroom : ∀ x ∈ ts ++ uss.flatten, RoomFor dir x.1 x.2.1)
    (hchan : l.sender.HasChannel dir.i dir.c schan) (htrips : ∀ us ∈ uss, RoundTrip dir us)
    (hmany : schan.sQueue.elems.length ≤ uss.length) :
    ∃ schan' rchan' k, l'.sender.HasChannel dir.i dir.c schan' ∧
      l'.receiver.HasChannel dir.j dir.d rchan' ∧
      l.accepted <+: l'.popped ++ rchan'.rQueue.elems.map Glbpkg.data ∧
      l.accepted.length ≤ k ∧ schan'.sQueue.elems.map Glbpkg.data = l'.accepted.drop k := by
  have hmore := accepted_prefix_of_run hrun'
  have hlen := hmore.length_le
  have hup := h₀.up_run hrun
  obtain ⟨S, hS, -⟩ := exists_stored h₀ hrun (by omega) fun x hx ↦
    hroom x (List.mem_append_left _ hx)
  obtain ⟨chan, hside⟩ := hS.sendSide hup.sender
  obtain rfl := hside.has.unique hchan
  have hqueue := hside.length_elems hS.reachable.inv
  rw [hS.accepted] at hqueue
  -- all round trips together bring the sender past what was accepted before them
  have hpast : Past dir s₀ l S.base := ⟨h₀.joined_run hrun, S, hS, le_refl _⟩
  have hend : Past dir s₀ l' l.accepted.length :=
    (hpast.of_roundTrips hrun' hwrap htrips).le (by omega)
  obtain ⟨S₁, hS₁, hbase⟩ := hend.done
  obtain ⟨S', hS', hstored⟩ := exists_stored h₀ (hrun.append hrun') (by omega) hroom
  obtain ⟨schan₁, hside₁⟩ := hS₁.sendSide hend.joined.sender
  obtain ⟨schan', hside'⟩ := hS'.sendSide hend.joined.sender
  obtain ⟨rchan', hrecv⟩ := hS'.recvSide hend.joined.receiver
  obtain rfl := hside₁.has.unique hside'.has
  have hlen₁ := hside₁.length_elems hS₁.reachable.inv
  have hlen' := hside'.length_elems hS'.reachable.inv
  rw [hS₁.accepted] at hlen₁
  rw [hS'.accepted] at hlen'
  have hI : S'.Inv := hS'.reachable.inv
  refine ⟨schan₁, rchan', S'.base, hside'.has, hrecv.has, ?_, by omega, ?_⟩
  · rw [hstored rchan' hrecv.has]
    refine List.prefix_of_prefix_length_le hmore ?_ ?_
    · rw [← hS'.accepted]
      exact hI.delivered
    · have hle := hI.base_le
      omega
  · rw [hside'.payloads, hS'.accepted]

/-! ### A lossy network -/

/-- The client's application sends two messages. -/
def lossySends : List (Op Glbcfg.sampleClient ⊕ Op Glbcfg.sampleServer) :=
  [.inl (.send ⟨some [1], some ⟨0, Nat.one_pos⟩, 0⟩ 4),
    .inl (.send ⟨some [2], some ⟨0, Nat.one_pos⟩, 0⟩ 5)]

/-- The first transmission is lost, and so is the answer to the third one. -/
def lossyTrips : List (Op Glbcfg.sampleClient ⊕ Op Glbcfg.sampleServer) :=
  [.inl (.timers ⟨0, Nat.one_pos⟩ (Env.at 6)), .inl (.timers ⟨0, Nat.one_pos⟩ (Env.at 106)),
    .inr (.packet (sampleData 1 clientSeq) .samplePeer (Env.at 107)),
    .inl (.packet (sampleDataAck clientSeq) ⟨0, 0⟩ (Env.at 108)),
    .inl (.timers ⟨0, Nat.one_pos⟩ (Env.at 109)),
    .inr (.packet (sampleData 2 (clientSeq + 1)) .samplePeer (Env.at 110)),
    .inr (.popdata ⟨true, some ⟨0, Nat.two_pos⟩, 1024, 0⟩),
    .inl (.timers ⟨0, Nat.one_pos⟩ (Env.at 209)),
    .inr (.packet (sampleData 2 (clientSeq + 1)) .samplePeer (Env.at 210)),
    .inl (.packet (sampleDataAck (clientSeq + 1)) ⟨0, 0⟩ (Env.at 211))]

/-- Two round trips bring both messages to the server. -/
theorem delivered_of_round_trips_lossy :
    ∃ (l₀ l l' : Link Glbcfg.sampleClient Glbcfg.sampleServer) (ts us : List _),
      Start plainDirection clientSeq l₀ ∧ Execution (Step plainDirection) l₀ ts l ∧
      Execution (Step plainDirection) l us l' ∧ l.accepted = [[1], [2]] ∧
      l'.accepted = [[1], [2]] ∧
      ∃ schan' rchan' k, l'.sender.HasChannel plainDirection.i plainDirection.c schan' ∧
        l'.receiver.HasChannel plainDirection.j plainDirection.d rchan' ∧
        l.accepted <+: l'.popped ++ rchan'.rQueue.elems.map Glbpkg.data ∧
        l.accepted.length ≤ k ∧ schan'.sQueue.elems.map Glbpkg.data = l'.accepted.drop k := by
  obtain ⟨l₀, hl₀, h₀⟩ := exists_start_plainLink
  have hsteps : (plainLink.bind fun l₀ ↦
      (Execution.perform (next plainDirection) lossySends l₀).bind fun r ↦
        (Execution.perform (next plainDirection) lossyTrips r.2).map fun r' ↦
          ((r.2.accepted, r'.2.accepted,
            (r.2.sender.connections plainDirection.i).channels.map fun chs ↦
              (chs.chan plainDirection.c).sQueue.elems.length),
          decide (∀ x ∈ r.1 ++ r'.1, RoomFor plainDirection x.1 x.2.1),
          decide (RoundTrip plainDirection (r'.1.take 4)),
          decide (RoundTrip plainDirection (r'.1.drop 4)))) =
      some (([[1], [2]], [[1], [2]], some 2), true, true, true) := by
    decide +kernel
  rw [hl₀, Option.bind_some] at hsteps
  obtain ⟨r, hr, hsteps⟩ := Option.bind_eq_some_iff.1 hsteps
  obtain ⟨r', hr', heq⟩ := Option.map_eq_some_iff.1 hsteps
  simp only [Prod.mk.injEq] at heq
  obtain ⟨⟨haccepted, haccepted', hqueue⟩, hroom, htrip₁, htrip₂⟩ := heq
  obtain ⟨chs, hchs, hlen⟩ := Option.map_eq_some_iff.1 hqueue
  have hrun : Execution (Step plainDirection) l₀ r.1 r.2 :=
    (Execution.nil.append_perform hr).mono fun _ _ _ ↦ step_of_next
  have hrun' : Execution (Step plainDirection) r.2 r'.1 r'.2 :=
    (Execution.nil.append_perform hr').mono fun _ _ _ ↦ step_of_next
  refine ⟨l₀, r.2, r'.2, r.1, r'.1, h₀, hrun, hrun', haccepted, haccepted', ?_⟩
  have hflat : r'.1 = [r'.1.take 4, r'.1.drop 4].flatten := by
    simp only [List.flatten_cons, List.flatten_nil, List.append_nil, List.take_append_drop]
  rw [hflat] at hrun'
  refine delivered_of_round_trips h₀ hrun hrun' ?_ ?_ ⟨chs, hchs, rfl⟩ ?_ ?_
  · rw [haccepted']
    decide
  · rw [← hflat]
    exact of_decide_eq_true hroom
  · intro us hus
    rcases List.mem_cons.1 hus with rfl | hus
    · exact of_decide_eq_true htrip₁
    · rw [List.mem_singleton.1 hus]
      exact of_decide_eq_true htrip₂
  · rw [hlen]
    exact le_refl 2

end Link

end Gilberta
