import Gilberta.Effects.Locality
import Gilberta.Session.Network

/-!
# The numbers of a handshake

What every run of a session keeps about the numbers that the two sides exchange before they are
connected. Both sides start every connection with the same number, because the code makes it from
the address of the context alone: `Consistent` says where the client's number and the server's
number are to be found, on either side and in what is in flight.
-/

namespace Gilberta

namespace Glbctx

variable {cfg : Glbcfg} {ctx ctx' : Glbctx cfg} {op : Op cfg} {i : Fin cfg.connectionCount}
  {c : Fin cfg.channelCount}

/-- Only `glb_send` consumes a sequence number. -/
theorem SendChange.seq_eq {chan : Glbchannel} {side : Glbqueue Glbpkg × UInt32 × UInt8}
    (h : SendChange ctx i c chan op side) (hop : ∀ info now, op ≠ .send info now) :
    side.2.1 = chan.seq := by
  rcases h with _ | _ | _ | ⟨_ | _ | _⟩
  · rfl
  · exact absurd rfl (hop _ _)
  all_goals rfl

/-- What is enqueued on a channel of the only slot carries the number of the channel. -/
theorem enqueuedBy_cases {chan chan' : Glbchannel} (hmode : cfg.isServer = false)
    (h : Step ctx op ctx') (hchan : ctx.HasChannel i c chan) (hchan' : ctx'.HasChannel i c chan')
    (hsend : SendChange ctx i c chan op chan'.sendSide) :
    ctx.enqueuedBy c op = [] ∧ chan'.seq = chan.seq ∨
      ∃ p, ctx.enqueuedBy c op = [p] ∧ p.header.seq = chan.seq := by
  cases op with
  | send info now =>
    obtain ⟨⟨code, ctx₁⟩, hsend', rfl⟩ := Option.map_eq_some_iff.1 h
    cases id (glbSend_effect hsend') with
    | refused error hcode =>
      have hsame : ctx.HasChannel i c chan' := hchan'
      obtain rfl := hchan.unique hsame
      refine Or.inl ⟨?_, rfl⟩
      rw [enqueuedBy, hsend']
      split
      · next heq _ _ => cases heq; exact absurd rfl hcode
      · rfl
    | @queued j d chs data hcon hdata hd _ hchs hroom =>
      obtain rfl : j = i := by
        apply Fin.ext
        rw [Glbcfg.val_eq_zero hmode j, Glbcfg.val_eq_zero hmode i]
      have henq : ctx.enqueuedBy c (.send info now) = if info.channelId.toNat = c.val then
          [sendPkg (ctx.connections j).connId (chs.chan c) info.channelId data now] else [] := by
        rw [enqueuedBy, hsend', hcon, hdata]
        dsimp only
        rw [hchs]
        rfl
      rcases hasChannel_setChan hchs hchan' with ⟨-, rfl, rfl⟩ | ⟨hne, hsame⟩
      · obtain rfl := hchan.unique ⟨chs, hchs, rfl⟩
        exact Or.inr ⟨_, by rw [henq, if_pos hd], rfl⟩
      · obtain rfl := hchan.unique hsame
        refine Or.inl ⟨?_, rfl⟩
        rw [henq, if_neg fun hc ↦ hne ⟨rfl, Fin.ext (hc.symm.trans hd)⟩]
  | connect | close | pollevent | popdata | readError | packet | timers =>
    exact Or.inl ⟨rfl, hsend.seq_eq fun _ _ h ↦ by cases h⟩

/-- Nothing is enqueued while no slot is established. -/
theorem enqueuedBy_eq_nil (h : Step ctx op ctx')
    (hstate : ∀ i, (ctx.connections i).state ≠ .established) : ctx.enqueuedBy c op = [] := by
  cases op with
  | send info now =>
    obtain ⟨⟨code, ctx₁⟩, hsend, rfl⟩ := Option.map_eq_some_iff.1 h
    cases id (glbSend_effect hsend) with
    | refused error hcode =>
      rw [enqueuedBy, hsend]
      split
      · next heq _ _ => cases heq; exact absurd rfl hcode
      · rfl
    | queued _ _ _ hest => exact absurd hest (hstate _)
  | connect | close | pollevent | popdata | readError | packet | timers => rfl

/-- A CONNECT of the client gives its slot new channels, with the numbers of the handshake. -/
theorem opened_of_connects (hmode : cfg.isServer = false) (h : Step ctx op ctx')
    (hconn : ctx.Connects op) : ∃ pkg from_ env chs, op = .packet pkg from_ env ∧
      (∀ c, (Glbchannels.chan chs c).IsNew (cfg.channels.get c)) ∧
      ∀ i, (ctx'.connections i).channels =
        some (chs.withCounters (ctx.connections i).seq pkg.header.seq) := by
  rcases op with _ | _ | _ | _ | _ | _ | ⟨pkg, from_, env⟩ | _
  case packet =>
    obtain ⟨hflags, j, hj, hstate⟩ := hconn
    obtain ⟨chs, a', hnew, hb⟩ := becomes_of_synAck h hflags hj hstate
    refine ⟨pkg, from_, env, chs, rfl, hnew.chan, fun i ↦ ?_⟩
    obtain rfl : i = j := Fin.ext ((Glbcfg.val_eq_zero hmode i).trans hj.symm)
    exact congrArg Glbconn.channels hb.self
  all_goals exact hconn.elim

/-- A slot of a server that was ever used knows both numbers of the handshake. -/
def KnowsNumbers (seq ack : UInt32) (con : Glbconn cfg) : Prop :=
  Unused con ∨ con.seq = seq ∧ con.ack = ack

/-- A server that handles only SYNs with the number `ack`, and no SYN|ACKs, from a real address,
goes on knowing the numbers, and is never connecting. -/
theorem knowsNumbers_step {addr : Glbaddr} {ack : UInt32} (haddr : addr ≠ ⟨0, 0⟩)
    (h : Step ctx op ctx') (hconnect : ∀ now, op ≠ .connect now) (hfrom : op.From addr)
    (hop : ∀ pkg from_ env, op = .packet pkg from_ env →
      pkg.header.ctrlFlags ≠ ctrlFlagSynAck ∧
        (pkg.header.ctrlFlags = ctrlFlagSyn → pkg.header.seq = ack))
    (i : Fin cfg.connectionCount) (hslot : KnowsNumbers (initialSeq cfg) ack (ctx.connections i))
    (hstate₀ : (ctx.connections i).state ≠ .synSent) :
    KnowsNumbers (initialSeq cfg) ack (ctx'.connections i) ∧
      (ctx'.connections i).state ≠ .synSent := by
  rcases slot_effect h i with hsame | ⟨a', evs, hchange⟩
  · refine ⟨?_, by rw [hsame.state]; exact hstate₀⟩
    rcases hslot with ⟨hpeer, hclosed⟩ | ⟨hseq, hack⟩
    · rcases hsame.peer with heq | ⟨hest, -⟩
      · exact Or.inl ⟨heq.trans hpeer, hsame.state.trans hclosed⟩
      · rw [hclosed] at hest
        cases hest
    · exact Or.inr ⟨hsame.seq.trans hseq, hsame.ack.trans hack⟩
  have hopen : (ctx.connections i).state ≠ .closed → (ctx.connections i).seq = initialSeq cfg ∧
      (ctx.connections i).ack = ack := fun hne ↦ hslot.resolve_left fun hunused ↦ hne hunused.2
  generalize ctx'.connections i = con' at hchange
  cases hchange with
  | connected => exact absurd rfl (hconnect _)
  | finSent hstate => exact ⟨Or.inr (hopen (by rw [hstate]; decide)), by simp⟩
  | reopened _ hfind =>
    refine ⟨Or.inr (hslot.resolve_left fun hunused ↦ haddr ?_), by simp⟩
    -- the slot has the address of the peer, which is a real one
    rw [← hunused.1, peerAddr_of_findConnByAddr hfind]
    exact hfrom.symm
  | opened hsyn _ _ hstate' _ hseq hack =>
    exact ⟨Or.inr ⟨hseq, hack.trans ((hop _ _ _ rfl).2 hsyn.1)⟩, by rw [hstate']; decide⟩
  | accepted _ _ hstate => exact ⟨Or.inr (hopen (by rw [hstate]; decide)), by simp⟩
  | synAcked hflags => exact absurd hflags (hop _ _ _ rfl).1
  | closed _ hstate hstate' _ _ hseq hack =>
    obtain ⟨hseq₀, hack₀⟩ := hopen hstate
    exact ⟨Or.inr ⟨hseq.trans hseq₀, hack.trans hack₀⟩, by rw [hstate']; decide⟩
  | reset => exact ⟨hslot.imp (fun hunused ↦ ⟨hunused.1, rfl⟩) id, by simp⟩
  | gaveUp hstate => exact absurd hstate hstate₀
  | dropped hstate => exact ⟨Or.inr (hopen (by rw [hstate]; decide)), by simp⟩

end Glbctx

namespace Session

open Glbctx (Opens Connects Unused Emitted initialSeq)

variable {cfgA cfgB : Glbcfg} {addr : Glbaddr} {s s' s₀ : Session cfgA cfgB}

/-- The number of the first message the client enqueued on a channel since its CONNECT, or the
number the next one will get if there is none. -/
def firstNumber (s : Session cfgA cfgB) (c : Fin cfgA.channelCount) (chan : Glbchannel) : UInt32 :=
  ((s.enqueued c).head?.map fun p ↦ p.header.seq).getD chan.seq

/-- What a client whose peer is a server keeps about its numbers. -/
structure ClientConsistent (s : Session cfgA cfgB) : Prop where
  /-- A connection starts with the number of the context. -/
  seq : ∀ i, (s.client.connections i).seq = initialSeq cfgA
  /-- The client is never half open. -/
  state : ∀ i, (s.client.connections i).state ≠ .synRcvd
  /-- The slot knows the number of the server. -/
  ack : ∀ i, (s.client.connections i).channels.isSome →
    (s.client.connections i).ack = initialSeq cfgB
  /-- The first message on a channel has the number of the context. -/
  first : ∀ i c chan, s.client.HasChannel i c chan → s.firstNumber c chan = initialSeq cfgA
  /-- Send queues hold DATA packets. -/
  tagged : s.client.Tagged
  /-- A SYN carries the number of the context; there are no SYN|ACKs. -/
  sock : ∀ d ∈ s.client.sock, d.pkg.header.ctrlFlags ≠ ctrlFlagSynAck ∧
    (d.pkg.header.ctrlFlags = ctrlFlagSyn → d.pkg.header.seq = initialSeq cfgA)

/-- What a server whose peer is a client keeps about its numbers. -/
structure ServerConsistent (s : Session cfgA cfgB) : Prop where
  /-- A slot that was ever used knows both numbers. -/
  slot : ∀ j, Glbctx.KnowsNumbers (initialSeq cfgB) (initialSeq cfgA) (s.server.connections j)
  /-- The server is never connecting. -/
  state : ∀ j, (s.server.connections j).state ≠ .synSent
  /-- Send queues hold DATA packets. -/
  tagged : s.server.Tagged
  /-- A SYN|ACK carries the number of the context; there are no SYNs and no ACKs. -/
  sock : ∀ d ∈ s.server.sock, d.pkg.header.ctrlFlags ≠ ctrlFlagSyn ∧
    d.pkg.header.ctrlFlags ≠ ctrlFlagAck ∧
    (d.pkg.header.ctrlFlags = ctrlFlagSynAck → d.pkg.header.seq = initialSeq cfgB)

/-- What a session keeps about its numbers. -/
structure Consistent (s : Session cfgA cfgB) : Prop where
  /-- The client's side. -/
  client : ClientConsistent s
  /-- The server's side. -/
  server : ServerConsistent s

/-! ### Steps of the client -/

section Client

variable {op : Op cfgA} {ctx : Glbctx cfgA}

/-- The client handles neither a SYN nor an ACK, and a SYN|ACK carries the number of the server. -/
theorem ServerConsistent.carried {pkg : Glbpkg} {from_ : Glbaddr} {env : Env}
    (h : ServerConsistent s) (hnet : (Op.packet pkg from_ env : Op cfgA).Carried s.server.sock) :
    pkg.header.ctrlFlags ≠ ctrlFlagSyn ∧ pkg.header.ctrlFlags ≠ ctrlFlagAck ∧
      (pkg.header.ctrlFlags = ctrlFlagSynAck → pkg.header.seq = initialSeq cfgB) := by
  obtain ⟨d, hd, hheader, -⟩ := hnet
  rw [hheader]
  exact h.sock d hd

/-- What a step of the client can make of its slot: it is left alone, it is connected anew, or it
ends. -/
inductive ClientChange (s : Session cfgA cfgB) (i : Fin cfgA.connectionCount) (op : Op cfgA)
    (con' : Glbconn cfgA) : Prop
  | carriesOn (h : (s.client.connections i).CarriesOn op i con')
  | connected (hconn : s.client.Connects op)
      (hseq : con'.seq = (s.client.connections i).seq) (hack : con'.ack = initialSeq cfgB)
      (hstate : con'.state = .established ∨ con'.state = (s.client.connections i).state)
  | ended (hseq : con'.seq = (s.client.connections i).seq)
      (hack : con'.ack = (s.client.connections i).ack)
      (hchannels : con'.channels = (s.client.connections i).channels ∨ con'.channels = none)
      (hstate : con'.state = .closed ∨ con'.state = .finSent)

theorem client_change (hB : ServerConsistent s) (hstep : Glbctx.Step s.client op ctx)
    (hnet : op.Carried s.server.sock) (i : Fin cfgA.connectionCount) :
    ClientChange s i op (ctx.connections i) := by
  rcases Glbctx.slot_effect hstep i with hsame | ⟨a', evs, hchange⟩
  · exact .carriesOn hsame
  generalize ctx.connections i = con' at hchange
  cases hchange with
  | connected => exact hnet.elim
  | finSent => exact .ended rfl rfl (Or.inl rfl) (Or.inr rfl)
  | reopened hsyn | opened hsyn => exact absurd hsyn.1 (hB.carried hnet).1
  | accepted hflags => exact absurd hflags (hB.carried hnet).2.1
  | @synAcked pkg _ env _ _ _ hflags hi hstate =>
    refine .connected ⟨hflags, i, hi, hstate⟩ rfl ((hB.carried hnet).2.2 hflags) ?_
    cases env.sendOk 0
    · exact Or.inr rfl
    · exact Or.inl rfl
  | closed _ _ hstate' hchannels _ hseq hack =>
    exact .ended hseq hack (Or.inr hchannels) (Or.inl hstate')
  | reset | gaveUp | dropped => exact .ended rfl rfl (Or.inl rfl) (Or.inl rfl)

/-- A channel the client keeps, or a new one with the number of the context. -/
theorem channel_of_client (hmode : cfgA.isServer = false) (hB : ServerConsistent s)
    (hstep : Glbctx.Step s.client op ctx) (hnet : op.Carried s.server.sock)
    {i : Fin cfgA.connectionCount} {c : Fin cfgA.channelCount} {chan' : Glbchannel}
    (hchan' : ctx.HasChannel i c chan') :
    (s.client.Connects op ∧ chan'.IsOpened (cfgA.channels.get c) (s.client.connections i).seq
        (initialSeq cfgB)) ∨
      (¬ s.client.Connects op ∧ ∃ chan, s.client.HasChannel i c chan ∧
        Glbctx.RecvChange s.client i c chan op chan'.recvSide ∧
        Glbctx.SendChange s.client i c chan op chan'.sendSide) := by
  by_cases hconn : s.client.Connects op
  · obtain ⟨pkg, from_, env, chs, rfl, hnew, hchs⟩ := Glbctx.opened_of_connects hmode hstep hconn
    obtain ⟨chs', hchs', rfl⟩ := hchan'
    obtain rfl := Option.some_inj.1 ((hchs i).symm.trans hchs')
    obtain ⟨hs, hr, hflags, hprio⟩ := hnew c
    exact Or.inl ⟨hconn, ⟨hs, hr, hflags, hprio⟩, rfl, (hB.carried hnet).2.2 hconn.1⟩
  · refine Or.inr ⟨hconn, ?_⟩
    rcases Glbctx.step_channel hstep hchan' with ⟨ack, hopens, -⟩ | hkept
    · rcases hopens with ⟨hflags, -, -⟩ | ⟨hflags, hi, hstate⟩
      · exact absurd hflags (hB.carried hnet).2.1
      · exact absurd ⟨hflags, i, hi, hstate⟩ hconn
    · exact hkept

/-- **A step of the client keeps its numbers.** -/
theorem ClientConsistent.step (hmode : cfgA.isServer = false) (hA : ClientConsistent s)
    (hB : ServerConsistent s) (hstep : Glbctx.Step s.client op ctx)
    (hnet : op.Carried s.server.sock) :
    ClientConsistent { s with client := ctx, enqueued := s.enqueuedAfter op } where
  seq := by
    intro i
    rcases client_change hB hstep hnet i with h | ⟨-, hseq, -, -⟩ | ⟨hseq, -, -, -⟩
    · exact h.seq.trans (hA.seq i)
    · exact hseq.trans (hA.seq i)
    · exact hseq.trans (hA.seq i)
  state := by
    intro i
    rcases client_change hB hstep hnet i with h | ⟨-, -, -, hstate⟩ | ⟨-, -, -, hstate⟩
    · show (ctx.connections i).state ≠ _
      rw [h.state]; exact hA.state i
    · rcases hstate with hstate | hstate
      · show (ctx.connections i).state ≠ _
        rw [hstate]; decide
      · show (ctx.connections i).state ≠ _
        rw [hstate]; exact hA.state i
    · rcases hstate with hstate | hstate <;>
      · show (ctx.connections i).state ≠ _
        rw [hstate]; decide
  ack := by
    intro i hsome
    rcases client_change hB hstep hnet i with h | ⟨-, -, hack, -⟩ | ⟨-, hack, hchannels, -⟩
    · exact h.ack.trans (hA.ack i (by rw [← h.channels_isSome]; exact hsome))
    · exact hack
    · rcases hchannels with heq | hnone
      · exact hack.trans (hA.ack i (by rw [← heq]; exact hsome))
      · rw [hnone] at hsome
        cases hsome
  first := by
    intro i c chan' hchan'
    rcases channel_of_client hmode hB hstep hnet hchan' with
      ⟨hconn, hopened⟩ | ⟨hconn, chan, hchan, -, hsend⟩
    · show ((s.enqueuedAfter op c).head?.map _).getD chan'.seq = _
      rw [enqueuedAfter, if_pos hconn]
      exact hopened.seq_eq.trans (hA.seq i)
    · have hfirst := hA.first i c chan hchan
      rw [firstNumber] at hfirst
      show ((s.enqueuedAfter op c).head?.map _).getD chan'.seq = _
      rw [enqueuedAfter, if_neg hconn]
      -- what is enqueued first has the number the channel had then
      rcases henq : s.enqueued c with - | ⟨p, ps⟩
      · rw [henq] at hfirst
        rcases Glbctx.enqueuedBy_cases hmode hstep hchan hchan' hsend with
          ⟨hnone, hseq⟩ | ⟨p, hone, hseq⟩
        · rw [hnone]
          exact hseq.trans hfirst
        · rw [hone]
          exact hseq.trans hfirst
      · rw [henq] at hfirst
        exact hfirst
  tagged := Glbctx.tagged_step hA.tagged hstep
  sock := by
    intro d hd
    rcases (Glbctx.step_emits hstep).mem_sock hd with hd | hemit
    · exact hA.sock d hd
    rcases Glbctx.emitted_cases hA.tagged hemit with
      ⟨hsyn, hsynAck, -⟩ | ⟨i, -, hflags, hseq⟩ | ⟨i, hstate, -⟩ | ⟨-, hflags⟩
    · exact ⟨hsynAck, fun h ↦ absurd h hsyn⟩
    · exact ⟨by rw [hflags]; decide, fun _ ↦ hseq.trans (hA.seq i)⟩
    · exact absurd hstate (hA.state i)
    · exact ⟨by rw [hflags]; decide, fun h ↦ absurd (hflags.symm.trans h) (by decide)⟩

end Client

/-! ### Steps of the server -/

section Server

variable {op : Op cfgB} {ctx : Glbctx cfgB}

/-- The server handles no SYN|ACK, and a SYN carries the number of the client. -/
theorem ClientConsistent.carried {pkg : Glbpkg} {from_ : Glbaddr} {env : Env}
    (h : ClientConsistent s) (hnet : (Op.packet pkg from_ env : Op cfgB).Carried s.client.sock) :
    pkg.header.ctrlFlags ≠ ctrlFlagSynAck ∧
      (pkg.header.ctrlFlags = ctrlFlagSyn → pkg.header.seq = initialSeq cfgA) := by
  obtain ⟨d, hd, hheader, -⟩ := hnet
  rw [hheader]
  exact h.sock d hd

/-- A slot that is not closed was used. -/
theorem ServerConsistent.of_open (h : ServerConsistent s) {j : Fin cfgB.connectionCount}
    (hstate : (s.server.connections j).state ≠ .closed) :
    (s.server.connections j).seq = initialSeq cfgB ∧
      (s.server.connections j).ack = initialSeq cfgA :=
  (h.slot j).resolve_left fun hunused ↦ hstate hunused.2

theorem ServerConsistent.slot_step (haddr : addr ≠ ⟨0, 0⟩) (hA : ClientConsistent s)
    (hB : ServerConsistent s) (hstep : Glbctx.Step s.server op ctx)
    (hnet : op.Carried s.client.sock) (hfrom : op.From addr) (j : Fin cfgB.connectionCount) :
    Glbctx.KnowsNumbers (initialSeq cfgB) (initialSeq cfgA) (ctx.connections j) ∧
      (ctx.connections j).state ≠ .synSent := by
  refine Glbctx.knowsNumbers_step haddr hstep (fun now hop ↦ ?_) hfrom ?_ j (hB.slot j) (hB.state j)
  · rw [hop] at hnet
    exact hnet
  · rintro pkg from_ env rfl
    exact hA.carried hnet

/-- **A step of the server keeps its numbers.** -/
theorem ServerConsistent.step (haddr : addr ≠ ⟨0, 0⟩) (hA : ClientConsistent s)
    (hB : ServerConsistent s) (hstep : Glbctx.Step s.server op ctx)
    (hnet : op.Carried s.client.sock) (hfrom : op.From addr) :
    ServerConsistent { s with server := ctx } where
  slot j := (hB.slot_step haddr hA hstep hnet hfrom j).1
  state j := (hB.slot_step haddr hA hstep hnet hfrom j).2
  tagged := Glbctx.tagged_step hB.tagged hstep
  sock := by
    intro d hd
    rcases (Glbctx.step_emits hstep).mem_sock hd with hd | hemit
    · exact hB.sock d hd
    rcases Glbctx.emitted_cases hB.tagged hemit with
      ⟨hsyn, hsynAck, hack⟩ | ⟨j, hstate, -⟩ | ⟨j, hstate, hflags, hseq⟩ | ⟨hhandles, -⟩
    · exact ⟨hsyn, hack, fun h ↦ absurd h hsynAck⟩
    · exact absurd hstate (hB.state j)
    · have hnumbers := hB.of_open (j := j) (by rw [hstate]; decide)
      exact ⟨by rw [hflags]; decide, by rw [hflags]; decide, fun _ ↦ hseq.trans hnumbers.1⟩
    · rcases op with _ | _ | _ | _ | _ | _ | ⟨pkg, from_, env⟩ | _
      case packet => exact absurd hhandles (hA.carried hnet).1
      all_goals exact hhandles.elim

end Server

/-! ### Sessions -/

/-- Where a session starts the client has sent nothing and knows its own number. -/
theorem Start.client_eq (h : Start addr s) : s.client.sock = [] ∧
    ∀ i, (s.client.connections i).state = .synSent ∧ (s.client.connections i).channels = none ∧
      (s.client.connections i).seq = initialSeq cfgA := by
  obtain ⟨now, hconnect⟩ := h.client
  generalize s.client = client at hconnect
  rw [Glbctx.glbConnect] at hconnect
  split at hconnect
  · next hpos =>
    dsimp only at hconnect
    split at hconnect
    · cases hconnect
    · cases hconnect
      refine ⟨rfl, fun i ↦ ?_⟩
      obtain rfl : i = ⟨0, hpos⟩ := Fin.ext (Glbcfg.val_eq_zero h.mode i)
      simp [Glbctx.generateSeq, Glbctx.init, zeroCon]
  · cases hconnect

theorem Start.consistent (h : Start addr s) : Consistent s := by
  obtain ⟨hsock, hslot⟩ := h.client_eq
  constructor
  · refine ⟨fun i ↦ (hslot i).2.2, fun i ↦ ?_, fun i hsome ↦ ?_, fun i c chan hchan ↦ ?_, ?_, ?_⟩
    · rw [(hslot i).1]; decide
    · rw [(hslot i).2.1] at hsome
      cases hsome
    · obtain ⟨chs, hchs, -⟩ := hchan
      rw [(hslot i).2.1] at hchs
      cases hchs
    · rintro i c chan ⟨chs, hchs, -⟩
      rw [(hslot i).2.1] at hchs
      cases hchs
    · rw [hsock]
      intro d hd
      cases hd
  · refine ⟨fun j ↦ ?_, fun j ↦ ?_, ?_, ?_⟩ <;> rw [h.server]
    · exact Or.inl ⟨rfl, rfl⟩
    · simp [Glbctx.init, zeroCon]
    · exact Glbctx.tagged_init
    · intro d hd
      cases hd

theorem Consistent.step {lab : Op cfgA ⊕ Op cfgB} (hmode : cfgA.isServer = false)
    (haddr : addr ≠ ⟨0, 0⟩) (h : Consistent s) (hstep : Step addr s lab s') : Consistent s' := by
  rcases hstep with ⟨hstep, hnet⟩ | ⟨hstep, hnet, hfrom⟩
  · obtain ⟨hA, hB⟩ := h
    exact ⟨hA.step hmode hB hstep hnet, hB.slot, hB.state, hB.tagged, hB.sock⟩
  · obtain ⟨hA, hB⟩ := h
    exact ⟨⟨hA.seq, hA.state, hA.ack, hA.first, hA.tagged, hA.sock⟩,
      hB.step haddr hA hstep hnet hfrom⟩

/-- **The numbers of a handshake, in every run of a session.** -/
theorem Start.consistent_run
    {ts : List (Session cfgA cfgB × (Op cfgA ⊕ Op cfgB) × Session cfgA cfgB)}
    (h₀ : Start addr s₀) (hrun : Execution (Step addr) s₀ ts s) : Consistent s := by
  induction hrun with
  | nil => exact h₀.consistent
  | snoc _ hstep ih => exact ih.step h₀.mode h₀.addr hstep

end Session

end Gilberta
