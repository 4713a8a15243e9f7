import Gilberta.Effects.Channels
import Gilberta.Effects.Emission
import Gilberta.Effects.Locality
import Gilberta.Foundations.SequenceNumbers
import Gilberta.Lifecycle.Progress

/-!
# What moves a connection to another address

The DATA branch moves an established connection to the address a packet came from, and no other
branch does (`peerAddr_of_packet`). It moves it only for the packet a reliable channel waits for,
and this packet advances the counter of the channel. A packet that was taken before is therefore
never waited for again, as long as the counter has not gone round: the numbers of the packets a
reliable channel took count up to the one it waits for (`inOrder_of_run`), and so a recorded packet
that is sent again from a foreign address does nothing (`no_redirect`).
-/

namespace Gilberta

variable {cfg : Glbcfg}

namespace Glbctx

/-- The DATA packet an operation gives to channel `c` of slot `i`, if the channel takes it. -/
def receivedBy (i : Fin cfg.connectionCount) (c : Fin cfg.channelCount) (ctx : Glbctx cfg) :
    Op cfg → List Glbpkg
  | .packet pkg from_ _ =>
    match (ctx.connections i).channels with
    | some chs =>
      if pkg.header.ctrlFlags = ctrlFlagData ∧ pkg.Finds ctx i ∧
          (ctx.connections i).state = .established ∧ pkg.header.channelId.toNat = c.val ∧
          ((chs.chan c).reliable = true → pkg.header.seq = (chs.chan c).ack) ∧
          ((chs.chan c).reliable = false → (ctx.connections i).peerAddr = from_) then [pkg]
      else []
    | none => []
  | .connect _ | .close _ _ | .send _ _ | .pollevent | .popdata _ | .readError | .timers _ _ => []

end Glbctx

instance (flags : UInt8) : (op : Op cfg) → Decidable (op.Handles flags)
  | .packet pkg _ _ => inferInstanceAs (Decidable (pkg.header.ctrlFlags = flags))
  | .connect _ | .close _ _ | .send _ _ | .pollevent | .popdata _ | .readError | .timers _ _ =>
    inferInstanceAs (Decidable False)

namespace Glbctx

instance (i : Fin cfg.connectionCount) (x : Transition cfg) : Decidable (Builds i x) := by
  unfold Builds
  infer_instance

/-- The packets that channel `c` of slot `i` took in the current connection, that is since the slot
last got its channels. -/
def receivedSince (i : Fin cfg.connectionCount) (c : Fin cfg.channelCount)
    (ts : List (Transition cfg)) : List Glbpkg :=
  ts.foldl (fun taken x ↦ if Builds i x then [] else taken ++ receivedBy i c x.1 x.2.1) []

variable {ctx ctx' : Glbctx cfg} {op : Op cfg} {i : Fin cfg.connectionCount}
  {c : Fin cfg.channelCount} {pkg : Glbpkg} {from_ : Glbaddr} {env : Env}

theorem receivedSince_append_singleton (ts : List (Transition cfg)) (x : Transition cfg) :
    receivedSince i c (ts ++ [x]) =
      if Builds i x then [] else receivedSince i c ts ++ receivedBy i c x.1 x.2.1 := by
  rw [receivedSince, List.foldl_append]
  rfl

theorem mem_receivedBy {p : Glbpkg} : p ∈ receivedBy i c ctx op ↔ ∃ from_ env chs,
    op = .packet p from_ env ∧ p.header.ctrlFlags = ctrlFlagData ∧ p.Reaches ctx i c chs ∧
      ((chs.chan c).reliable = true → p.header.seq = (chs.chan c).ack) ∧
      ((chs.chan c).reliable = false → (ctx.connections i).peerAddr = from_) := by
  constructor
  · intro hp
    rcases op with _ | _ | _ | _ | _ | _ | ⟨pkg, from_, env⟩ | _
    case packet =>
      rw [receivedBy] at hp
      split at hp
      · next chs hchs =>
        split at hp
        · next h =>
          obtain ⟨hflags, hfind, hest, hc, hseq, haddr⟩ := h
          obtain rfl := List.mem_singleton.1 hp
          exact ⟨from_, env, chs, rfl, hflags, ⟨hfind, hest, hchs, hc⟩, hseq, haddr⟩
        · exact absurd hp List.not_mem_nil
      · exact absurd hp List.not_mem_nil
    all_goals exact absurd hp List.not_mem_nil
  · rintro ⟨from_, env, chs, rfl, hflags, hreach, hseq, haddr⟩
    rw [receivedBy]
    split
    · next chs' hchs' =>
      obtain rfl := Option.some_inj.1 (hreach.channels.symm.trans hchs')
      rw [if_pos ⟨hflags, hreach.finds, hreach.established, hreach.channel, hseq, haddr⟩]
      exact List.mem_singleton_self p
    · next hnone =>
      rw [hreach.channels] at hnone
      exact absurd hnone (Option.some_ne_none _)

/-! ### Only the DATA branch moves a connection -/

/-- What is not DATA leaves an established connection where it is. -/
theorem peerAddr_of_not_data (hest : (ctx.connections i).state = .established)
    (hdata : pkg.header.ctrlFlags ≠ ctrlFlagData)
    (h : ctx.handlePacket pkg from_ env = some ctx') :
    (ctx'.connections i).peerAddr = (ctx.connections i).peerAddr := by
  have hstep : Step ctx (.packet pkg from_ env) ctx' := h
  by_cases habout : pkg.IsAbout ctx from_ i
  case neg => rw [step_local hstep habout]
  have hopen : (ctx.connections i).state ≠ .closed := by rw [hest]; decide
  have hfind : pkg.header.ctrlFlags ∉ [ctrlFlagSyn, ctrlFlagSynAck] → pkg.Finds ctx i := by
    intro hne
    simp only [List.mem_cons, List.not_mem_nil, or_false, not_or] at hne
    exact (Glbpkg.isAbout_iff_finds (fun hsyn ↦ hne.1 hsyn.1) hne.2).1 habout
  cases handlePacket_cases h with
  | syn hsyn =>
    -- the slot is found by its address, for it is not closed
    rw [Glbpkg.isAbout_of_syn hsyn, synSlot] at habout
    split at habout
    · next j hfound =>
      obtain rfl := Option.some_inj.1 habout
      rw [onSyn, hfound]
      dsimp only
      rw [openSyn, if_pos hest]
    · obtain ⟨⟨j, ctx₁⟩, hempty, rfl⟩ := Option.map_eq_some_iff.1 habout
      exact absurd (findEmptyConn_eq_some hempty).1 hopen
  | ack hflags h =>
    have hfound : ctx.findConn pkg.header.clientGen pkg.header.clientId = some i :=
      hfind (by rw [hflags]; decide)
    simp only [onAck, hfound] at h
    rw [if_pos (by rw [hest]; decide)] at h
    rw [← Option.some_inj.1 h]
  | synAck hflags h =>
    rw [Glbpkg.isAbout_of_synAck hflags] at habout
    have hpos : 0 < cfg.connectionCount := Nat.lt_of_le_of_lt (Nat.zero_le _) i.isLt
    obtain rfl : i = ⟨0, hpos⟩ := Fin.ext habout
    rw [(onSynAck_of_established hest h).self]
  | fin hflags =>
    rw [connections_onFin (hfind (by rw [hflags]; decide))]
    split <;> rfl
  | finAck hflags =>
    rw [connections_onFinAck (hfind (by rw [hflags]; decide))]
    split <;> rfl
  | data hflags => exact absurd hflags hdata
  | dataAck hflags h =>
    rcases onDataAck_effect h with ⟨rfl, -⟩ | @⟨j, c, chs, -, -, hreach, -, -, rfl⟩
    · rfl
    · have hfound : pkg.Finds ctx i := hfind (by rw [hflags]; decide)
      obtain rfl : j = i := Option.some_inj.1 (hreach.finds.symm.trans hfound)
      rw [setChan, connections_setCon_self]
  | ping => rw [onPing, connections_glbioSend]
  | pong hflags =>
    have hfound : ctx.findConn pkg.header.clientGen pkg.header.clientId = some i :=
      hfind (by rw [hflags]; decide)
    simp only [onPong, hfound, connections_setCon_self]
  | rst hflags =>
    rw [connections_onRst (hfind (by rw [hflags]; decide))]
    split <;> rfl
  | ignored => rfl

/-- **What moves a connection.** A packet that moves an established connection is a DATA packet a
reliable channel of it waits for; the migration is announced and the channel waits for the next
one. -/
theorem peerAddr_of_packet (hest : (ctx.connections i).state = .established)
    (h : ctx.handlePacket pkg from_ env = some ctx')
    (hmoved : (ctx'.connections i).peerAddr ≠ (ctx.connections i).peerAddr) :
    pkg.header.ctrlFlags = ctrlFlagData ∧ pkg.conId = (ctx.connections i).connId ∧
      (ctx'.connections i).peerAddr = from_ ∧ ∃ c chan chan',
        pkg.header.channelId.toNat = (Fin.val c : ℕ) ∧ ctx.HasChannel i c chan ∧
        chan.reliable = true ∧ pkg.header.seq = chan.ack ∧
        ctx'.offered = ctx.offered ++ [.migration i, .receive i pkg.header.channelId] ∧
        ctx'.HasChannel i c chan' ∧ chan'.ack = chan.ack + 1 := by
  by_cases hdata : pkg.header.ctrlFlags = ctrlFlagData
  case neg => exact absurd (peerAddr_of_not_data hest hdata h) hmoved
  rw [handlePacket_of_data hdata] at h
  rcases onData_effect h with ⟨rfl, -⟩ | ⟨-, -, -, -, rfl⟩ | @⟨j, c, chs, -, -, -, -, rfl⟩ |
    @⟨j, c, chs, hreach, hseq, haddr, hb, -⟩
  · exact absurd rfl hmoved
  · rw [connections_glbioSend] at hmoved
    exact absurd rfl hmoved
  · by_cases hij : i = j
    · subst hij
      rw [connections_setCon_self] at hmoved
      exact absurd rfl hmoved
    · rw [connections_setCon_of_ne _ _ hij] at hmoved
      exact absurd rfl hmoved
  -- only a packet that is taken is left, and an unreliable channel takes it from the peer alone
  obtain rfl : i = j := by
    by_contra hij
    rw [hb.of_ne i hij] at hmoved
    exact hmoved rfl
  have hmoved : from_ ≠ (ctx.connections i).peerAddr := by
    rw [hb.self] at hmoved
    exact hmoved
  have hrel : (chs.chan c).reliable = true := by
    by_contra hrel
    exact hmoved (haddr (Bool.eq_false_iff.2 hrel)).symm
  have hid : pkg.conId = (ctx.connections i).connId := by
    have hfound := List.find?_some hreach.finds
    obtain ⟨hgen, hid⟩ := of_decide_eq_true hfound
    show (⟨pkg.header.clientId, pkg.header.clientGen⟩ : Glbconid) = _
    rw [← hgen, ← hid]
  have hoffered := hb.offered
  rw [if_neg (Ne.symm hmoved)] at hoffered
  refine ⟨hdata, hid, by rw [hb.self], c, _, acceptedChan (chs.chan c) pkg, hreach.channel,
    ⟨chs, hreach.channels, rfl⟩, hrel, hseq hrel, hoffered, ?_, rfl⟩
  exact ⟨_, by rw [hb.self], if_pos rfl⟩

/-! ### What a channel took -/

/-- A step that opens the channels of a slot is one that builds them. -/
theorem builds_of_opens {ack : UInt32} (h : Step ctx op ctx') (hopens : Opens ctx i op ack) :
    Builds i (ctx, op, ctx') := by
  refine ⟨hopens.state_ne, ?_⟩
  rcases hopens with ⟨hflags, hfind, hstate⟩ | ⟨hflags, hi, -⟩
  · obtain ⟨chs, a', -, hb⟩ :=
      onAck_of_synRcvd hfind hstate ((handlePacket_of_ack hflags).symm.trans h)
    refine Or.inl ?_
    rw [hb.self]
  · exact Or.inr ⟨hflags, hi⟩

/-- A step that builds the channels of a slot is one that opens them. -/
theorem opens_of_builds (h : Step ctx op ctx') (hbuilds : Builds i (ctx, op, ctx')) :
    ∃ ack, Opens ctx i op ack := by
  obtain ⟨hne, hest | ⟨hflags, hi⟩⟩ := hbuilds
  · obtain ⟨pkg, from_, env, rfl, hcase, -⟩ := established_cases h hne hest
    rcases hcase with ⟨hflags, hfind, hstate⟩ | ⟨hflags, hi, -⟩
    · exact ⟨_, .ack hflags hfind hstate⟩
    · exact ⟨_, .synAck hflags hi hne⟩
  · cases op with
    | packet pkg from_ env => exact ⟨_, .synAck hflags hi hne⟩
    | _ => exact absurd hflags id

/-- What a step that builds no channels does to the receiving half of one: it takes nothing, and
counter and history stay, or it takes one packet, which is pushed and counted. -/
theorem received_step {chan' : Glbchannel} (h : Step ctx op ctx')
    (hchan' : ctx'.HasChannel i c chan') (hbuilds : ¬ Builds i (ctx, op, ctx')) :
    ∃ chan, ctx.HasChannel i c chan ∧ chan'.reliable = chan.reliable ∧
      ((receivedBy i c ctx op = [] ∧ chan'.ack = chan.ack ∧
          chan'.rQueue.history = chan.rQueue.history) ∨
        ∃ p, receivedBy i c ctx op = [p] ∧ chan'.ack = chan.ack + 1 ∧
          chan'.rQueue = (chan.rQueue.push p).2) := by
  rcases step_channel h hchan' with ⟨ack, hopens, -⟩ | ⟨chan, hchan, hrecv, -⟩
  · exact absurd (builds_of_opens h hopens) hbuilds
  refine ⟨chan, hchan, ?_⟩
  rcases htaken : receivedBy i c ctx op with _ | ⟨p, ps⟩
  · -- nothing is taken, so the queue is left alone or popped
    generalize hside : chan'.recvSide = side at hrecv
    cases hrecv with
    | same =>
      obtain ⟨hq, hack, hflags⟩ := Glbchannel.recvSide_eq_iff.1 hside
      exact ⟨by rw [Glbchannel.reliable, hflags]; rfl, Or.inl ⟨rfl, hack, by rw [hq]⟩⟩
    | popped =>
      obtain ⟨hq, hack, hflags⟩ := Glbchannel.recvSide_eq_iff.1 hside
      refine ⟨by rw [Glbchannel.reliable, hflags]; rfl, Or.inl ⟨rfl, hack, ?_⟩⟩
      rw [hq, Glbqueue.toBoundedQueue_pop, BoundedQueue.history_drop]
    | @accepted p from_ env chs hflags hreach hchan₁ hseq haddr =>
      subst hchan₁
      have hmem := mem_receivedBy.2 ⟨from_, env, chs, rfl, hflags, hreach, hseq, haddr⟩
      rw [htaken] at hmem
      exact absurd hmem List.not_mem_nil
  · -- one packet is taken, and no other
    obtain ⟨from_, env, chs, rfl, hflags, hreach, hseq, haddr⟩ :=
      mem_receivedBy.1 (htaken ▸ List.mem_cons_self : p ∈ receivedBy i c ctx op)
    have hsingle : receivedBy i c ctx (.packet p from_ env) = [p] := by
      rw [receivedBy, hreach.channels]
      exact if_pos ⟨hflags, hreach.finds, hreach.established, hreach.channel, hseq, haddr⟩
    obtain ⟨hb, -⟩ := (onData_effect ((handlePacket_of_data hflags).symm.trans h)).of_accepted
      hreach hseq haddr
    have hnew : ctx'.HasChannel i c (acceptedChan (chs.chan c) p) :=
      ⟨_, by rw [hb.self], if_pos rfl⟩
    obtain rfl := hchan'.unique hnew
    obtain rfl := hchan.unique ⟨chs, hreach.channels, rfl⟩
    exact ⟨rfl, Or.inr ⟨p, htaken.symm.trans hsingle, rfl, rfl⟩⟩

/-- A reliable channel takes the packet it waits for. -/
theorem seq_of_receivedBy {chan : Glbchannel} {p : Glbpkg} (hp : p ∈ receivedBy i c ctx op)
    (hchan : ctx.HasChannel i c chan) (hrel : chan.reliable = true) :
    p.header.seq = chan.ack := by
  obtain ⟨-, -, chs, -, -, hreach, hseq, -⟩ := mem_receivedBy.1 hp
  obtain rfl := hchan.unique ⟨chs, hreach.channels, rfl⟩
  exact hseq hrel

/-- The numbers of the packets that each reliable channel took in the current connection count up to
the one it waits for. -/
def InOrder (ts : List (Transition cfg)) (ctx : Glbctx cfg) : Prop :=
  ∀ i c chan, ctx.HasChannel i c chan → chan.reliable = true →
    CountsUpTo ((receivedSince i c ts).map fun p ↦ p.header.seq) chan.ack

theorem inOrder_step {ts : List (Transition cfg)} (hI : InOrder ts ctx) (h : Step ctx op ctx') :
    InOrder (ts ++ [(ctx, op, ctx')]) ctx' := by
  intro i c chan' hchan' hrel'
  rw [receivedSince_append_singleton]
  split
  · exact .nil _
  next hbuilds =>
  obtain ⟨chan, hchan, hrel, hcase⟩ := received_step h hchan' hbuilds
  have hI := hI i c chan hchan (hrel.symm.trans hrel')
  rcases hcase with ⟨hnone, hack, -⟩ | ⟨p, hone, hack, -⟩
  · rwa [hnone, List.append_nil, hack]
  · have hseq := seq_of_receivedBy (hone ▸ List.mem_singleton_self p) hchan (hrel.symm.trans hrel')
    rw [hone, hack, List.map_append, List.map_singleton, hseq]
    exact .snoc hI

/-- **What a reliable channel took, it took in order**, in every run. -/
theorem inOrder_of_run {ts : List (Transition cfg)} (hrun : Run ts ctx) : InOrder ts ctx := by
  refine Execution.invariant (I := InOrder) (C := fun _ ↦ True)
    (fun ts ctx op ctx' hI hstep _ ↦ inOrder_step hI hstep) hrun ?_ fun _ _ ↦ trivial
  rintro i c chan ⟨chs, hchs, -⟩
  cases hchs

/-! ### Replays -/

/-- A packet from a foreign address that no reliable channel waits for leaves the slot alone. -/
theorem connections_of_foreign (hdata : pkg.header.ctrlFlags = ctrlFlagData)
    (hforeign : from_ ≠ (ctx.connections i).peerAddr)
    (hseq : ∀ c chan, ctx.HasChannel i c chan → pkg.header.channelId.toNat = c.val →
      chan.reliable = true → pkg.header.seq ≠ chan.ack)
    (h : ctx.handlePacket pkg from_ env = some ctx') :
    ctx'.connections i = ctx.connections i := by
  rw [handlePacket_of_data hdata] at h
  rcases onData_effect h with ⟨rfl, -⟩ | ⟨-, -, -, -, rfl⟩ | @⟨j, c, chs, -, -, -, haddr, rfl⟩ |
    @⟨j, c, chs, hreach, hnext, haddr, hb, -⟩
  · rfl
  · rw [connections_glbioSend]
  · refine connections_setCon_of_ne _ _ ?_
    rintro rfl
    exact hforeign haddr.symm
  · refine hb.of_ne i ?_
    rintro rfl
    rcases hrel : (chs.chan c).reliable with _ | _
    · exact hforeign (haddr hrel).symm
    · exact hseq c _ ⟨chs, hreach.channels, rfl⟩ hreach.channel hrel (hnext hrel)

/-- What a channel took are DATA packets for this channel. -/
theorem data_of_receivedSince {ts : List (Transition cfg)} {p : Glbpkg}
    (hp : p ∈ receivedSince i c ts) :
    p.header.ctrlFlags = ctrlFlagData ∧ p.header.channelId.toNat = c.val := by
  induction ts using List.reverseRecOn with
  | nil => exact absurd hp List.not_mem_nil
  | append_singleton ts x ih =>
    rw [receivedSince_append_singleton] at hp
    split at hp
    · exact absurd hp List.not_mem_nil
    · rcases List.mem_append.1 hp with hp | hp
      · exact ih hp
      · obtain ⟨-, -, chs, -, hflags, hreach, -⟩ := mem_receivedBy.1 hp
        exact ⟨hflags, hreach.channel⟩

/-- A received packet is one that a channel of slot `i` took in the current connection, sent again
from an address that is not the peer's. -/
def IsReplay (i : Fin cfg.connectionCount) (ts : List (Transition cfg)) (ctx : Glbctx cfg)
    (r : Glbpkg × Glbaddr × Env) : Prop :=
  r.2.1 ≠ (ctx.connections i).peerAddr ∧ ∃ c, ∃ p ∈ receivedSince i c ts, r.1.SameOnWire p

/-- Handling some packets, one after the other. -/
def handleAll (ctx : Glbctx cfg) (rs : List (Glbpkg × Glbaddr × Env)) : Option (Glbctx cfg) :=
  rs.foldlM (fun ctx r ↦ ctx.handlePacket r.1 r.2.1 r.2.2) ctx

/-- A replay leaves a slot alone whose record is the one the run has reached. -/
theorem connections_of_replay {ts : List (Transition cfg)} {ctx₀ : Glbctx cfg}
    {r : Glbpkg × Glbaddr × Env} (hrun : Run ts ctx₀)
    (hfew : ∀ c, (receivedSince i c ts).length < 2 ^ 32) (hreplay : IsReplay i ts ctx₀ r)
    (hheld : ArraysHeld ctx) (hsame : ctx.connections i = ctx₀.connections i) :
    ∃ ctx', ctx.handlePacket r.1 r.2.1 r.2.2 = some ctx' ∧ ArraysHeld ctx' ∧
      ctx'.connections i = ctx₀.connections i := by
  obtain ⟨pkg, from_, env⟩ := r
  obtain ⟨hforeign, c, p, hp, hheader, -⟩ := hreplay
  obtain ⟨hflags, hc⟩ := data_of_receivedSince hp
  have hheader : pkg.header = p.header := hheader
  rw [← hheader] at hflags hc
  obtain ⟨ctx', h⟩ : ∃ ctx', ctx.onData pkg from_ env = some ctx' := exists_withChannel hheld _
  rw [← handlePacket_of_data hflags] at h
  have hstep : Step ctx (.packet pkg from_ env) ctx' := h
  refine ⟨ctx', h, arraysHeld_step hheld hstep, ?_⟩
  rw [← hsame] at hforeign ⊢
  refine connections_of_foreign hflags hforeign (fun d chan hchan hd hrel hseq ↦ ?_) h
  obtain rfl : c = d := Fin.ext (hc.symm.trans hd)
  have hchan₀ : ctx₀.HasChannel i c chan := by
    rwa [HasChannel, hsame] at hchan
  refine (inOrder_of_run hrun i c chan hchan₀ hrel).not_mem ?_ ?_
  · rw [List.length_map]
    exact hfew c
  · rw [← hseq, hheader]
    exact List.mem_map_of_mem hp

/-- **Replays cannot redirect a connection.** In every state of every run, a packet moves an
established connection only if it is the DATA packet a reliable channel waits for, which announces
the migration and advances the counter; and packets that were taken in the current connection, sent
again from foreign addresses, as often and in whatever order, leave the slot as it is, as long as
each channel took fewer than `2 ^ 32`. -/
theorem no_redirect {ts : List (Transition cfg)} (hrun : Run ts ctx)
    (i : Fin cfg.connectionCount) :
    (∀ pkg from_ env ctx', (ctx.connections i).state = .established →
      ctx.handlePacket pkg from_ env = some ctx' →
      (ctx'.connections i).peerAddr ≠ (ctx.connections i).peerAddr →
      pkg.header.ctrlFlags = ctrlFlagData ∧ pkg.conId = (ctx.connections i).connId ∧
        (ctx'.connections i).peerAddr = from_ ∧ ∃ c chan chan',
          pkg.header.channelId.toNat = (Fin.val c : ℕ) ∧ ctx.HasChannel i c chan ∧
          chan.reliable = true ∧ pkg.header.seq = chan.ack ∧
          ctx'.offered = ctx.offered ++ [.migration i, .receive i pkg.header.channelId] ∧
          ctx'.HasChannel i c chan' ∧ chan'.ack = chan.ack + 1) ∧
    ((∀ c, (receivedSince i c ts).length < 2 ^ 32) →
      ∀ replays : List (Glbpkg × Glbaddr × Env), (∀ r ∈ replays, IsReplay i ts ctx r) →
        ∃ ctx', ctx.handleAll replays = some ctx' ∧
          ctx'.connections i = ctx.connections i) := by
  refine ⟨fun pkg from_ env ctx' hest h hmoved ↦ peerAddr_of_packet hest h hmoved,
    fun hfew replays ↦ ?_⟩
  -- an induction over the replays, in which the slot keeps the record it has now
  have hall : ∀ ctx₁ : Glbctx cfg, ArraysHeld ctx₁ →
      ctx₁.connections i = ctx.connections i → (∀ r ∈ replays, IsReplay i ts ctx r) →
      ∃ ctx', ctx₁.handleAll replays = some ctx' ∧ ctx'.connections i = ctx.connections i := by
    induction replays with
    | nil => exact fun ctx₁ _ hsame _ ↦ ⟨ctx₁, rfl, hsame⟩
    | cons r rs ih =>
      intro ctx₁ hheld hsame hreplay
      obtain ⟨ctx₂, h₂, hheld₂, hsame₂⟩ := connections_of_replay hrun hfew
        (hreplay r List.mem_cons_self) hheld hsame
      obtain ⟨ctx', h', hsame'⟩ := ih ctx₂ hheld₂ hsame₂ fun q hq ↦
        hreplay q (List.mem_cons_of_mem r hq)
      refine ⟨ctx', ?_, hsame'⟩
      rw [handleAll, List.foldlM_cons, h₂]
      exact h'
  exact hall ctx (arraysHeld_of_run hrun) rfl

/-! ### A recorded packet -/

/-- A server accepts a connection and takes one message; sent again from elsewhere, it does nothing.
-/
theorem no_redirect_sample : ∃ ts ctx ctx', @Run Glbcfg.sampleServer ts ctx ∧
    (receivedSince ⟨0, by decide⟩ ⟨0, by decide⟩ ts).length = 1 ∧
    ctx.handleAll [(.sampleData ⟨1, 0⟩ 0, ⟨9, 9⟩, Env.at 4)] = some ctx' ∧
    ctx'.connections ⟨0, by decide⟩ = ctx.connections ⟨0, by decide⟩ := by
  let ops : List (Op Glbcfg.sampleServer) :=
    [.packet (glbpkgInit ⟨0xFFFF, 0⟩ ctrlFlagSyn 0) .samplePeer (Env.at 1),
      .packet (glbpkgInit ⟨1, 0⟩ ctrlFlagAck 0) .samplePeer (Env.at 2),
      .packet (.sampleData ⟨1, 0⟩ 0) .samplePeer (Env.at 3)]
  have htaken : (Execution.perform step ops (init _)).map (fun r ↦
      (receivedSince ⟨0, by decide⟩ ⟨0, by decide⟩ r.1,
        (r.2.connections ⟨0, by decide⟩).peerAddr)) =
      some ([.sampleData ⟨1, 0⟩ 0], .samplePeer) := by decide
  obtain ⟨r, hr, htaken⟩ := Option.map_eq_some_iff.1 htaken
  obtain ⟨htaken, hpeer⟩ := Prod.mk.inj htaken
  have hfew : ∀ c, (receivedSince ⟨0, by decide⟩ c r.1).length < 2 ^ 32 := by
    intro c
    have hc : c = ⟨0, by decide⟩ := Fin.ext (Nat.lt_one_iff.1 c.isLt)
    rw [hc, htaken]
    decide
  obtain ⟨ctx', h, hsame⟩ := (no_redirect (run_of_perform hr) ⟨0, by decide⟩).2 hfew
    [(.sampleData ⟨1, 0⟩ 0, ⟨9, 9⟩, Env.at 4)] (by
      intro q hq
      obtain rfl := List.mem_singleton.1 hq
      refine ⟨by rw [hpeer]; decide, ⟨0, by decide⟩, _, ?_, .refl _⟩
      rw [htaken]
      exact List.mem_singleton_self _)
  exact ⟨r.1, r.2, ctx', run_of_perform hr, by rw [htaken]; rfl, h, hsame⟩

end Glbctx

end Gilberta
