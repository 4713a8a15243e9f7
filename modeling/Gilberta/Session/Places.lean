import Gilberta.Session.Numbers
import Gilberta.Session.Returning

/-!
# Numbers and places

What the numbers on the wire say about places. Both sides start every connection with the number of
their context, so in every connection the message at place `k` has the same number (`Mark.Fits`),
and the counters of a channel are the numbers of the places it has come to (`Party.Placed`). This
holds in every run of a client that connects any number of times (`Sessions.placed_of_run`), because
a client opens channels only after it called `glb_connect`, and a server only for a slot that a SYN
opened; that much about their roles is carried along.
-/

namespace Gilberta

variable {cfg cfgA cfgB : Glbcfg}

/-- The number of a packet is the one of its place, where its sender counts from `s₀` and the other
side from `s₁`. -/
structure Mark.Fits (s₀ s₁ : UInt32) (m : Mark) (pkg : Glbpkg) : Prop where
  /-- The sequence number of DATA and of the second and third packet of a handshake. -/
  seq : pkg.header.ctrlFlags ∈ [ctrlFlagData, ctrlFlagAck, ctrlFlagSynAck] →
    pkg.header.seq = numbered s₀ m.place
  /-- The number a DATA|ACK acknowledges. -/
  ack : pkg.header.ctrlFlags = ctrlFlagDataAck → pkg.header.ack = numbered s₁ m.place

theorem Mark.Fits.of_sameOnWire {s₀ s₁ : UInt32} {m : Mark} {pkg pkg' : Glbpkg}
    (h : m.Fits s₀ s₁ pkg') (hsame : pkg.SameOnWire pkg') : m.Fits s₀ s₁ pkg := by
  obtain ⟨hseq, hack⟩ := h
  rw [← hsame.1] at hseq hack
  exact ⟨hseq, hack⟩

/-- Other packets carry no number that matters. -/
theorem Mark.fits_of_not_mem {s₀ s₁ : UInt32} {m : Mark} {pkg : Glbpkg}
    (h : pkg.header.ctrlFlags ∉ [ctrlFlagDataAck, ctrlFlagData, ctrlFlagAck, ctrlFlagSynAck]) :
    m.Fits s₀ s₁ pkg where
  seq hmem := absurd (List.mem_cons_of_mem _ hmem) h
  ack heq := absurd (heq ▸ List.mem_cons_self) h

namespace Glbctx

variable {ctx ctx' : Glbctx cfg} {op : Op cfg} {i : Fin cfg.connectionCount}
  {c : Fin cfg.channelCount} {chan : Glbchannel} {s₀ : UInt32}

/-- The counter of the sending half moves on exactly when a message is queued. -/
theorem SendChange.count {side : Glbqueue Glbpkg × UInt32 × UInt8}
    (h : SendChange ctx i c chan op side)
    (hseq : chan.seq = numbered s₀ chan.sQueue.history.length) :
    side.2.1 = numbered s₀ side.1.history.length := by
  cases h with
  | same => exact hseq
  | queued _ _ _ hroom =>
    show chan.seq + 1 = numbered s₀ (chan.sQueue.push _).2.history.length
    rw [history_push _ hroom, List.length_append, List.length_singleton, numbered_succ, hseq]
  | acked =>
    show chan.seq = numbered s₀ chan.sQueue.pop.2.2.history.length
    rw [Glbqueue.toBoundedQueue_pop, BoundedQueue.history_drop, hseq]
  | transmitted htrans =>
    cases htrans with
    | idle => exact hseq
    | kept now =>
      show chan.seq = numbered s₀ (chan.sQueue.taken ++ chan.sQueue.elems.modifyHead _).length
      rw [List.length_append, List.length_modifyHead, ← List.length_append]
      exact hseq
    | dropped =>
      show chan.seq = numbered s₀ chan.sQueue.pop.2.2.history.length
      rw [Glbqueue.toBoundedQueue_pop, BoundedQueue.history_drop, hseq]

/-- The head of a send queue has the number of its place. -/
theorem seq_head {side : Glbqueue Glbpkg × UInt32 × UInt8} {head : Glbpkg} {rest : List Glbpkg}
    (hsound : SoundSend c side) (hseq : side.2.1 = numbered s₀ side.1.history.length)
    (helems : side.1.elems = head :: rest) : head.header.seq = numbered s₀ side.1.taken.length := by
  have hcounts := hsound.counts
  rw [helems, List.map_cons] at hcounts
  have hnext := hcounts.next_eq
  rw [hseq, BoundedQueue.history, helems, List.length_append, List.length_cons,
    List.length_map] at hnext
  exact numbered_cancel hnext.symm

theorem slotOf_of_synAck {pkg : Glbpkg} {from_ : Glbaddr}
    (hflags : pkg.header.ctrlFlags = ctrlFlagSynAck) (hi : i.val = 0) :
    ctx.slotOf pkg from_ = some i := by
  have habout : pkg.IsAbout ctx from_ i := (Glbpkg.isAbout_of_synAck hflags).2 hi
  rcases hfound : ctx.slotOf pkg from_ with - | j
  · exact absurd habout (by simpa using List.find?_eq_none.1 hfound i (List.mem_finRange i))
  · have hj := (Glbpkg.isAbout_of_synAck hflags).1 (by simpa using List.find?_some hfound)
    rw [Fin.ext (hj.trans hi.symm)]

end Glbctx

/-! ### One side -/

open Glbctx (initialSeq KnowsNumbers)

namespace Party

/-- The counters of the channels, and the numbers sent, are those of the places they stand for. -/
structure Placed (s₀ s₁ : UInt32) (p : Party cfg) : Prop where
  /-- The next message to be sent. -/
  seq : ∀ i c chan, p.ctx.HasChannel i c chan →
    chan.seq = numbered s₀ chan.sQueue.history.length
  /-- The next message to be received. -/
  ack : ∀ i c chan, p.ctx.HasChannel i c chan → chan.ack = numbered s₁ (p.waits i c)
  /-- Send queues hold messages whose numbers count up. -/
  sound : p.ctx.Sound
  /-- Send queues hold DATA packets. -/
  tagged : p.ctx.Tagged
  /-- The datagrams sent. -/
  sent : ∀ x ∈ p.sent, x.1.Fits s₀ s₁ x.2.pkg

variable {p p' : Party cfg} {begins : Fin cfg.connectionCount → ℕ} {m : Mark} {op : Op cfg}
  {s₀ s₁ : UInt32}

theorem placed_start : (Party.start cfg).Placed s₀ s₁ where
  seq := by
    rintro i c chan ⟨chs, hchs, -⟩
    cases hchs
  ack := by
    rintro i c chan ⟨chs, hchs, -⟩
    cases hchs
  sound := Glbctx.sound_init
  tagged := Glbctx.tagged_init
  sent := fun x hx ↦ absurd hx List.not_mem_nil

/-- The head of a send queue has the number of its place. -/
theorem Placed.seq_head (h : p.Placed s₀ s₁) {i : Fin cfg.connectionCount}
    {c : Fin cfg.channelCount} {chan : Glbchannel} (hchan : p.ctx.HasChannel i c chan)
    {head : Glbpkg} {rest : List Glbpkg} (helems : chan.sQueue.elems = head :: rest) :
    head.header.seq = numbered s₀ chan.sQueue.taken.length :=
  Glbctx.seq_head (h.sound i c chan hchan).2 (h.seq i c chan hchan) helems

/-- What a step sends has the numbers of the places it is marked with. -/
theorem Placed.fits_of_emitted (h : p.Placed s₀ s₁)
    (hfits : ∀ pkg from_ env, op = .packet pkg from_ env → m.Fits s₁ s₀ pkg)
    (hrcvd : ∀ i, (p.ctx.connections i).state = .synRcvd → (p.ctx.connections i).seq = s₀)
    (hopens : ∀ i ack, Glbctx.Opens p.ctx i op ack → (p.ctx.connections i).seq = s₀)
    {conn' : Fin cfg.connectionCount → ℕ} {d : Datagram} (hd : Glbctx.Emitted p.ctx op d) :
    (p.markOf m conn' d op).Fits s₀ s₁ d.pkg := by
  cases hd with
  | @data i env d c hest hhead =>
    obtain ⟨chs, head, rest, hchs, helems, rfl⟩ := hhead
    have hchan : p.ctx.HasChannel i c (chs.chan c) := ⟨chs, hchs, rfl⟩
    obtain ⟨hflags, hc⟩ := h.tagged i c _ hchan head (by rw [helems]; exact List.mem_cons_self)
    have hplace : p.headPlace i head.seal = (chs.chan c).sQueue.taken.length := by
      have hlt : head.seal.header.channelId.toNat < cfg.channelCount := hc ▸ c.isLt
      obtain rfl : c = ⟨_, hlt⟩ := Fin.ext hc.symm
      rw [headPlace, Glbconn.channelFor, if_pos hest, dif_pos hlt, hchs]
      rfl
    refine ⟨fun _ ↦ ?_, fun hack ↦ absurd (hflags.symm.trans hack) (by decide)⟩
    show head.header.seq = numbered s₀ (p.headPlace i head.seal)
    rw [hplace, h.seq_head hchan helems]
  | ping _ hping =>
    obtain ⟨seq, ack, rfl⟩ := hping
    exact Mark.fits_of_not_mem (show ctrlFlagPing ∉ _ by decide)
  | syn => exact Mark.fits_of_not_mem (show ctrlFlagSyn ∉ _ by decide)
  | @synAck i env hstate =>
    refine ⟨fun _ ↦ ?_, fun hack ↦ absurd hack (show ctrlFlagSynAck ≠ ctrlFlagDataAck by decide)⟩
    show (p.ctx.connections i).seq = numbered s₀ (p.headPlace i _)
    rw [headPlace, Glbconn.channelFor, if_neg (by rw [hstate]; decide), hrcvd i hstate]
    exact (numbered_zero s₀).symm
  | fin => exact Mark.fits_of_not_mem (show ctrlFlagFin ∉ _ by decide)
  | rst => exact Mark.fits_of_not_mem (show ctrlFlagRst ∉ _ by decide)
  | @ackAgain pkg from_ env i chs hflags hi hest hchs =>
    refine ⟨fun _ ↦ ?_, fun hack ↦ absurd hack (show ctrlFlagAck ≠ ctrlFlagDataAck by decide)⟩
    show (chs.chan cfg.channel0).seq = numbered s₀ (if pkg.header.ctrlFlags = ctrlFlagSynAck then
      ((p.ctx.slotOf pkg from_).map p.nextPlace).getD 0 else m.place)
    rw [if_pos hflags, Glbctx.slotOf_of_synAck hflags hi, Option.map_some, Option.getD_some,
      nextPlace, if_pos hest, hchs]
    exact h.seq i _ _ ⟨chs, hchs, rfl⟩
  | @ack pkg from_ env i hflags hi hstate =>
    refine ⟨fun _ ↦ ?_, fun hack ↦ absurd hack (show ctrlFlagAck ≠ ctrlFlagDataAck by decide)⟩
    show (p.ctx.connections i).seq = numbered s₀ (if pkg.header.ctrlFlags = ctrlFlagSynAck then
      ((p.ctx.slotOf pkg from_).map p.nextPlace).getD 0 else m.place)
    rw [if_pos hflags, Glbctx.slotOf_of_synAck hflags hi, Option.map_some, Option.getD_some,
      nextPlace, if_neg hstate, hopens i _ (.synAck hflags hi hstate), numbered_zero]
  | finAck => exact Mark.fits_of_not_mem (show ctrlFlagFinAck ∉ _ by decide)
  | @dataAck pkg from_ env i c chs hflags hreach =>
    refine ⟨fun hmem ↦ absurd hmem (show ctrlFlagDataAck ∉ _ by decide), fun _ ↦ ?_⟩
    show pkg.header.seq = numbered s₁ (if pkg.header.ctrlFlags = ctrlFlagSynAck then
      ((p.ctx.slotOf pkg from_).map p.nextPlace).getD 0 else m.place)
    rw [if_neg (by rw [hflags]; decide)]
    exact (hfits pkg from_ env rfl).seq (by rw [hflags]; decide)
  | pong => exact Mark.fits_of_not_mem (show ctrlFlagPong ∉ _ by decide)

/-- The counters of a channel after a step are those of the places it has come to. -/
theorem Placed.channel_next {ctx' : Glbctx cfg} (h : p.Placed s₀ s₁)
    (hstep : Glbctx.Step p.ctx op ctx')
    (hfits : ∀ pkg from_ env, op = .packet pkg from_ env → m.Fits s₁ s₀ pkg)
    (hopens : ∀ i ack, Glbctx.Opens p.ctx i op ack → (p.ctx.connections i).seq = s₀)
    {i : Fin cfg.connectionCount} {c : Fin cfg.channelCount} {chan' : Glbchannel}
    (hchan' : ctx'.HasChannel i c chan') :
    chan'.seq = numbered s₀ chan'.sQueue.history.length ∧
      chan'.ack = numbered s₁ (p.waitsAfter m op ctx' i c) := by
  by_cases hbuilds : Glbctx.Builds i (p.ctx, op, ctx')
  · -- a new channel: nothing was sent, and it waits for what the handshake announced
    obtain ⟨ack, hop⟩ := Glbctx.opens_of_builds hstep hbuilds
    have hopened := Glbctx.isOpened_of_opens hstep hop hchan'
    constructor
    · rw [hopened.seq_eq, hopens i ack hop, BoundedQueue.history, hopened.sQueue.elems,
        hopened.sQueue.taken]
      exact (numbered_zero s₀).symm
    · rw [hopened.ack_eq, waitsAfter, if_pos hbuilds]
      cases hop with
      | ack hflags => exact (hfits _ _ _ rfl).seq (by rw [hflags]; decide)
      | synAck hflags => exact (hfits _ _ _ rfl).seq (by rw [hflags]; decide)
  · rcases Glbctx.step_channel hstep hchan' with ⟨ack, hop, -⟩ | ⟨chan, hchan, -, hsend⟩
    · exact absurd (Glbctx.builds_of_opens hstep hop) hbuilds
    refine ⟨hsend.count (h.seq i c chan hchan), ?_⟩
    obtain ⟨chan₁, hchan₁, -, hcase⟩ := Glbctx.received_step hstep hchan' hbuilds
    have hack := h.ack i c chan₁ hchan₁
    rw [waitsAfter, if_neg hbuilds]
    rcases hcase with ⟨hnone, heq, -⟩ | ⟨pkg, hone, heq, -⟩
    · rw [hnone, heq, hack]
      rfl
    · rw [hone, heq, hack, List.length_singleton, numbered_succ]

/-- **A step keeps numbers and places together**, if the packet it handles has the numbers of its
place and a slot that it gives channels, or whose SYN|ACK it sends, starts with the number of the
context. -/
theorem Placed.next (h : p.Placed s₀ s₁) (hnext : p.next begins m op = some p')
    (hfits : ∀ pkg from_ env, op = .packet pkg from_ env → m.Fits s₁ s₀ pkg)
    (hrcvd : ∀ i, (p.ctx.connections i).state = .synRcvd → (p.ctx.connections i).seq = s₀)
    (hopens : ∀ i ack, Glbctx.Opens p.ctx i op ack → (p.ctx.connections i).seq = s₀) :
    p'.Placed s₀ s₁ := by
  obtain ⟨ctx', hstep, rfl⟩ := Option.map_eq_some_iff.1 hnext
  exact {
    seq := fun i c chan hchan ↦ (h.channel_next hstep hfits hopens hchan).1
    ack := fun i c chan hchan ↦ (h.channel_next hstep hfits hopens hchan).2
    sound := Glbctx.sound_step h.sound hstep
    tagged := Glbctx.tagged_step h.tagged hstep
    sent := by
      intro x hx
      rcases List.mem_append.1 hx with hx | hx
      · exact h.sent x hx
      obtain ⟨d, hd, rfl⟩ := List.mem_map.1 hx
      exact h.fits_of_emitted hfits hrcvd hopens ((Glbctx.step_emits hstep).of_mem_drop hd) }

end Party

/-! ### The roles of the two sides -/

/-- What a client keeps that is never sent a SYN or an ACK: only slot 0 connects, with the number of
the context, and it goes on having this number once a SYN was sent. -/
structure ClientRole (p : Party cfg) : Prop where
  /-- A slot that connects has the number of the context. -/
  connecting : ∀ i, (p.ctx.connections i).state = .synSent →
    i.val = 0 ∧ (p.ctx.connections i).seq = initialSeq cfg
  /-- No slot is half open. -/
  state : ∀ i, (p.ctx.connections i).state ≠ .synRcvd
  /-- There are no SYN|ACKs, and a SYN carries the number of the context. -/
  sent : ∀ x ∈ p.sent, x.2.pkg.header.ctrlFlags ≠ ctrlFlagSynAck ∧
    (x.2.pkg.header.ctrlFlags = ctrlFlagSyn → x.2.pkg.header.seq = initialSeq cfg)
  /-- Once a SYN was sent slot 0 has the number of the context. -/
  connected : ∀ x ∈ p.sent, x.2.pkg.header.ctrlFlags = ctrlFlagSyn → ∀ i : Fin cfg.connectionCount,
    i.val = 0 → (p.ctx.connections i).seq = initialSeq cfg

/-- What a server keeps that is sent SYNs by one peer, whose first number is `ack`, and that never
connects: it knows both numbers, and answers only when it was asked. -/
structure ServerRole (asked : Prop) (ack : UInt32) (p : Party cfg) : Prop where
  /-- A slot that was ever used knows both numbers. -/
  slot : ∀ j, KnowsNumbers (initialSeq cfg) ack (p.ctx.connections j)
  /-- No slot connects. -/
  state : ∀ j, (p.ctx.connections j).state ≠ .synSent
  /-- A half open slot was asked for. -/
  halfOpen : ∀ j, (p.ctx.connections j).state = .synRcvd → asked
  /-- There are no SYNs and no ACKs, and a SYN|ACK was asked for. -/
  sent : ∀ x ∈ p.sent, x.2.pkg.header.ctrlFlags ≠ ctrlFlagSyn ∧
    x.2.pkg.header.ctrlFlags ≠ ctrlFlagAck ∧
    (x.2.pkg.header.ctrlFlags = ctrlFlagSynAck → asked)

section Roles

variable {p p' : Party cfg} {begins : Fin cfg.connectionCount → ℕ} {m : Mark} {op : Op cfg}
  {ctx' : Glbctx cfg}

theorem ClientRole.start : ClientRole (Party.start cfg) where
  connecting i h := absurd h (by simp [Party.start, Glbctx.init, zeroCon])
  state i := by simp [Party.start, Glbctx.init, zeroCon]
  sent x hx := absurd hx List.not_mem_nil
  connected x hx := absurd hx List.not_mem_nil

theorem ServerRole.start {asked : Prop} {ack : UInt32} :
    ServerRole asked ack (Party.start cfg) where
  slot _ := Or.inl ⟨rfl, rfl⟩
  state j := by simp [Party.start, Glbctx.init, zeroCon]
  halfOpen j h := absurd h (by simp [Party.start, Glbctx.init, zeroCon])
  sent x hx := absurd hx List.not_mem_nil

theorem ServerRole.mono {asked asked' : Prop} {ack : UInt32} (h : ServerRole asked ack p)
    (hasked : asked → asked') : ServerRole asked' ack p where
  slot := h.slot
  state := h.state
  halfOpen j hstate := hasked (h.halfOpen j hstate)
  sent x hx := ⟨(h.sent x hx).1, (h.sent x hx).2.1, fun hflags ↦ hasked ((h.sent x hx).2.2 hflags)⟩

/-- What a step of a client makes of the number and the state of a slot. -/
theorem client_slot (hstep : Glbctx.Step p.ctx op ctx')
    (hop : ∀ pkg from_ env, op = .packet pkg from_ env →
      pkg.header.ctrlFlags ≠ ctrlFlagSyn ∧ pkg.header.ctrlFlags ≠ ctrlFlagAck)
    (i : Fin cfg.connectionCount) :
    (i.val = 0 ∧ (ctx'.connections i).seq = initialSeq cfg ∨
      (ctx'.connections i).seq = (p.ctx.connections i).seq ∧
        ((ctx'.connections i).state = .synSent → (p.ctx.connections i).state = .synSent)) ∧
    ((ctx'.connections i).state = .synRcvd → (p.ctx.connections i).state = .synRcvd) := by
  rcases Glbctx.slot_effect hstep i with hsame | ⟨a', evs, hchange⟩
  · rw [hsame.state]
    exact ⟨Or.inr ⟨hsame.seq, id⟩, id⟩
  generalize ctx'.connections i = con' at hchange
  cases hchange with
  | connected hi =>
    refine ⟨Or.inl ⟨hi, rfl⟩, fun h ↦ ?_⟩
    dsimp only at h
    split at h
    · cases h
    · exact h
  | finSent => exact ⟨Or.inr ⟨rfl, nofun⟩, nofun⟩
  | reopened hsyn | opened hsyn => exact absurd hsyn.1 (hop _ _ _ rfl).1
  | accepted hflags => exact absurd hflags (hop _ _ _ rfl).2
  | @synAcked _ _ env =>
    have hstate : ∀ s, s ≠ GLBConnState.established →
        (if env.sendOk 0 = true then GLBConnState.established else (p.ctx.connections i).state) =
          s → (p.ctx.connections i).state = s := by
      intro s hs h
      split at h
      · exact absurd h.symm hs
      · exact h
    exact ⟨Or.inr ⟨rfl, hstate _ (by decide)⟩, hstate _ (by decide)⟩
  | closed _ _ hstate' _ _ hseq =>
    rw [hstate']
    exact ⟨Or.inr ⟨hseq, nofun⟩, nofun⟩
  | reset | gaveUp | dropped => exact ⟨Or.inr ⟨rfl, nofun⟩, nofun⟩

/-- A step keeps the client in its role. -/
theorem ClientRole.next (h : ClientRole p) (htagged : p.ctx.Tagged)
    (hnext : p.next begins m op = some p')
    (hop : ∀ pkg from_ env, op = .packet pkg from_ env →
      pkg.header.ctrlFlags ≠ ctrlFlagSyn ∧ pkg.header.ctrlFlags ≠ ctrlFlagAck) :
    ClientRole p' := by
  obtain ⟨ctx', hstep, rfl⟩ := Option.map_eq_some_iff.1 hnext
  have hslot := client_slot hstep hop
  have hnew : ∀ {d : Datagram}, d ∈ ctx'.sock.drop p.ctx.sock.length →
      d.pkg.header.ctrlFlags ≠ ctrlFlagSynAck ∧ (d.pkg.header.ctrlFlags = ctrlFlagSyn → ∃ i,
        (p.ctx.connections i).state = .synSent ∧ d.pkg.header.seq = (p.ctx.connections i).seq) := by
    intro d hd
    rcases Glbctx.emitted_cases htagged ((Glbctx.step_emits hstep).of_mem_drop hd) with
      ⟨hsyn, hsynAck, -⟩ | ⟨i, hstate, hflags, hseq⟩ | ⟨i, hstate, -⟩ | ⟨-, hflags⟩
    · exact ⟨hsynAck, fun hflags ↦ absurd hflags hsyn⟩
    · exact ⟨by rw [hflags]; decide, fun _ ↦ ⟨i, hstate, hseq⟩⟩
    · exact absurd hstate (h.state i)
    · exact ⟨by rw [hflags]; decide, fun hsyn ↦ absurd (hflags.symm.trans hsyn) (by decide)⟩
  -- the number of slot 0 stays once it is the one of the context
  have hkept : ∀ i : Fin cfg.connectionCount, (p.ctx.connections i).seq = initialSeq cfg →
      (ctx'.connections i).seq = initialSeq cfg := by
    intro i hseq
    rcases (hslot i).1 with ⟨-, heq⟩ | ⟨heq, -⟩
    · exact heq
    · exact heq.trans hseq
  constructor
  · intro i hstate
    rcases (hslot i).1 with hnew | ⟨heq, hbefore⟩
    · exact hnew
    · obtain ⟨hi, hseq⟩ := h.connecting i (hbefore hstate)
      exact ⟨hi, heq.trans hseq⟩
  · exact fun i hstate ↦ h.state i ((hslot i).2 hstate)
  · intro x hx
    rcases List.mem_append.1 hx with hx | hx
    · exact h.sent x hx
    obtain ⟨d, hd, rfl⟩ := List.mem_map.1 hx
    refine ⟨(hnew hd).1, fun hflags ↦ ?_⟩
    obtain ⟨i, hstate, hseq⟩ := (hnew hd).2 hflags
    exact hseq.trans (h.connecting i hstate).2
  · intro x hx hflags i hi
    refine hkept i ?_
    rcases List.mem_append.1 hx with hx | hx
    · exact h.connected x hx hflags i hi
    obtain ⟨d, hd, rfl⟩ := List.mem_map.1 hx
    obtain ⟨j, hstate, -⟩ := (hnew hd).2 hflags
    obtain ⟨hj, hseq⟩ := h.connecting j hstate
    rwa [Fin.ext (hi.trans hj.symm)]

/-- A slot becomes half open by a SYN. -/
theorem halfOpen_cases {i : Fin cfg.connectionCount} (hstep : Glbctx.Step p.ctx op ctx')
    (hstate : (ctx'.connections i).state = .synRcvd) :
    (p.ctx.connections i).state = .synRcvd ∨
      ∃ pkg from_ env, op = .packet pkg from_ env ∧ pkg.header.ctrlFlags = ctrlFlagSyn := by
  rcases Glbctx.slot_effect hstep i with hsame | ⟨a', evs, hchange⟩
  · exact Or.inl (hsame.state ▸ hstate)
  generalize ctx'.connections i = con' at hchange hstate
  cases hchange with
  | connected =>
    dsimp only at hstate
    split at hstate
    · cases hstate
    · exact Or.inl hstate
  | reopened hsyn | opened hsyn => exact Or.inr ⟨_, _, _, rfl, hsyn.1⟩
  | synAcked =>
    dsimp only at hstate
    split at hstate
    · cases hstate
    · exact Or.inl hstate
  | closed _ _ hstate' => rw [hstate'] at hstate; cases hstate
  | finSent | accepted | reset | gaveUp | dropped => cases hstate

/-- A step keeps the server in its role. -/
theorem ServerRole.next {asked : Prop} {addr : Glbaddr} {ack : UInt32} (h : ServerRole asked ack p)
    (htagged : p.ctx.Tagged) (haddr : addr ≠ ⟨0, 0⟩) (hnext : p.next begins m op = some p')
    (hconnect : op.isConnect = false) (hfrom : op.From addr)
    (hop : ∀ pkg from_ env, op = .packet pkg from_ env →
      pkg.header.ctrlFlags ≠ ctrlFlagSynAck ∧
        (pkg.header.ctrlFlags = ctrlFlagSyn → pkg.header.seq = ack ∧ asked)) :
    ServerRole asked ack p' := by
  obtain ⟨ctx', hstep, rfl⟩ := Option.map_eq_some_iff.1 hnext
  have hslot := fun j ↦ Glbctx.knowsNumbers_step haddr hstep
    (by rintro now rfl; cases hconnect) hfrom
    (fun pkg from_ env heq ↦ ⟨(hop pkg from_ env heq).1,
      fun hflags ↦ ((hop pkg from_ env heq).2 hflags).1⟩) j (h.slot j) (h.state j)
  constructor
  · exact fun j ↦ (hslot j).1
  · exact fun j ↦ (hslot j).2
  · intro j hstate
    rcases halfOpen_cases hstep hstate with hbefore | ⟨pkg, from_, env, rfl, hflags⟩
    · exact h.halfOpen j hbefore
    · exact ((hop pkg from_ env rfl).2 hflags).2
  · intro x hx
    rcases List.mem_append.1 hx with hx | hx
    · exact h.sent x hx
    obtain ⟨d, hd, rfl⟩ := List.mem_map.1 hx
    rcases Glbctx.emitted_cases htagged ((Glbctx.step_emits hstep).of_mem_drop hd) with
      ⟨hsyn, hsynAck, hack⟩ | ⟨j, hstate, -⟩ | ⟨j, hstate, hflags, -⟩ | ⟨hhandles, -⟩
    · exact ⟨hsyn, hack, fun hflags ↦ absurd hflags hsynAck⟩
    · exact absurd hstate (h.state j)
    · have hd : d.pkg.header.ctrlFlags = ctrlFlagSynAck := hflags
      exact ⟨by rw [hd]; decide, by rw [hd]; decide, fun _ ↦ h.halfOpen j hstate⟩
    · rcases op with _ | _ | _ | _ | _ | _ | ⟨pkg, from_, env⟩ | _
      case packet => exact absurd hhandles (hop pkg from_ env rfl).1
      all_goals exact hhandles.elim

end Roles

/-! ### Whole runs -/

namespace Sessions

variable {addr : Glbaddr} {s s' : Sessions cfgA cfgB}
  {lab : (Mark × Op cfgA) ⊕ (Mark × Op cfgB)} {ts : List (Transition cfgA cfgB)}

/-- The client has sent a SYN. -/
def Asked (s : Sessions cfgA cfgB) : Prop :=
  ∃ x ∈ s.client.sent, x.2.pkg.header.ctrlFlags = ctrlFlagSyn

/-- What every run keeps about numbers and places. -/
structure Placed (s : Sessions cfgA cfgB) : Prop where
  /-- On the client's side. -/
  client : s.client.Placed (initialSeq cfgA) (initialSeq cfgB)
  /-- On the server's side. -/
  server : s.server.Placed (initialSeq cfgB) (initialSeq cfgA)
  /-- The client is a client. -/
  clientRole : ClientRole s.client
  /-- The server is a server. -/
  serverRole : ServerRole s.Asked (initialSeq cfgA) s.server

theorem placed_start : (start cfgA cfgB).Placed :=
  ⟨Party.placed_start, Party.placed_start, .start, .start⟩

/-- What arrives has the numbers of the place it is marked with. -/
theorem fits_of_arrives {p : Party cfgA} {m : Mark} {op : Op cfgB} {s₀ s₁ : UInt32}
    (h : p.Placed s₀ s₁) (harrives : op.Arrives p.sent m) (pkg : Glbpkg) (from_ : Glbaddr)
    (env : Env) (hop : op = .packet pkg from_ env) : m.Fits s₀ s₁ pkg := by
  subst hop
  obtain ⟨x, hx, rfl, hsame⟩ := harrives
  exact (h.sent x hx).of_sameOnWire hsame

theorem Placed.step (haddr : addr ≠ ⟨0, 0⟩) (h : s.Placed) (hstep : Step addr s lab s') :
    s'.Placed := by
  rcases step_cases hstep with ⟨m, op, begins, -, harrives, hnext, hother⟩ |
    ⟨m, op, begins, -, harrives, hfrom, hconnect, hnext, hother⟩
  · have hop : ∀ pkg from_ env, op = .packet pkg from_ env →
        pkg.header.ctrlFlags ≠ ctrlFlagSyn ∧ pkg.header.ctrlFlags ≠ ctrlFlagAck ∧
          (pkg.header.ctrlFlags = ctrlFlagSynAck → s.Asked) := by
      rintro pkg from_ env rfl
      obtain ⟨x, hx, -, hsame⟩ := harrives
      rw [hsame.1]
      exact h.serverRole.sent x hx
    have hrole := h.clientRole.next h.client.tagged hnext fun pkg from_ env heq ↦
      ⟨(hop pkg from_ env heq).1, (hop pkg from_ env heq).2.1⟩
    have hasked : s.Asked → s'.Asked := by
      rintro ⟨x, hx, hflags⟩
      obtain ⟨ctx', -, heq⟩ := Option.map_eq_some_iff.1 hnext
      exact ⟨x, by rw [← heq]; exact List.mem_append_left _ hx, hflags⟩
    refine ⟨h.client.next hnext (fits_of_arrives h.server harrives)
      (fun i hstate ↦ absurd hstate (h.clientRole.state i)) ?_, by rw [hother]; exact h.server,
      hrole, by rw [hother]; exact h.serverRole.mono hasked⟩
    -- a client opens channels when it is sent a SYN|ACK, so it has sent a SYN
    intro i ack hopens
    cases hopens with
    | ack hflags => exact absurd hflags (hop _ _ _ rfl).2.1
    | synAck hflags hi =>
      obtain ⟨x, hx, hsyn⟩ := (hop _ _ _ rfl).2.2 hflags
      exact h.clientRole.connected x hx hsyn i hi
  · have hop : ∀ pkg from_ env, op = .packet pkg from_ env →
        pkg.header.ctrlFlags ≠ ctrlFlagSynAck ∧ (pkg.header.ctrlFlags = ctrlFlagSyn →
          pkg.header.seq = initialSeq cfgA ∧ s.Asked) := by
      rintro pkg from_ env rfl
      obtain ⟨x, hx, -, hsame⟩ := harrives
      rw [hsame.1]
      exact ⟨(h.clientRole.sent x hx).1,
        fun hflags ↦ ⟨(h.clientRole.sent x hx).2 hflags, x, hx, hflags⟩⟩
    have hseq : ∀ j, (s.server.ctx.connections j).state = .synRcvd →
        (s.server.ctx.connections j).seq = initialSeq cfgB := by
      intro j hstate
      rcases h.serverRole.slot j with ⟨-, hclosed⟩ | ⟨hseq, -⟩
      · rw [hstate] at hclosed
        cases hclosed
      · exact hseq
    have hrole := h.serverRole.next h.server.tagged haddr hnext hconnect hfrom hop
    have hasked : s'.Asked = s.Asked := by rw [Asked, hother, Asked]
    refine ⟨by rw [hother]; exact h.client, h.server.next hnext (fits_of_arrives h.client harrives)
      hseq ?_, by rw [hother]; exact h.clientRole, by rw [hasked]; exact hrole⟩
    intro j ack hopens
    cases hopens with
    | ack _ _ hstate => exact hseq j hstate
    | synAck hflags => exact absurd hflags (hop _ _ _ rfl).1

/-- **Numbers and places in every run**, of a server whose peer has a real address. -/
theorem placed_of_run (haddr : addr ≠ ⟨0, 0⟩)
    (hrun : Execution (Step addr) (start cfgA cfgB) ts s) :
    s.Placed ∧ ∀ x ∈ ts, x.1.Placed ∧ Step addr x.1 x.2.1 x.2.2 := by
  obtain ⟨hlast, hall⟩ := hrun.invariant_of_state (C := fun _ ↦ True)
    (fun s lab s' hI hstep _ ↦ hI.step haddr hstep) placed_start fun _ _ ↦ trivial
  exact ⟨hlast, fun x hx ↦ ⟨(hall x hx).1, (hall x hx).2.1⟩⟩

end Sessions

end Gilberta
