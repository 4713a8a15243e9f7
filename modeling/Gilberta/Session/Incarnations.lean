import Gilberta.Session.Places

/-!
# One connection after another

A client that connects, closes and connects again, and packets of the earlier connection that arrive
late. The id does not tell the connections apart: `glbctx_findconnbyaddr` also finds closed slots,
so the SYN of a client that comes back is answered by the slot it had, with the id it had. Nor do
the numbers, for every connection starts with the same one (`Sessions.placed_of_run`). A packet of
an earlier connection is handled as if it were new wherever one of its kind, at its place, would be
(`not_always_isolated`), and `incarnations_isolated_iff` says that this is all that goes wrong: in a
run in which no such packet arrives where it can be confused with one of the connection of the slot,
the later connections are left alone, and every message in their receive queues is theirs.
-/

namespace Gilberta

variable {cfg cfgA cfgB : Glbcfg}

namespace Party

variable {p p' : Party cfg} {begins : Fin cfg.connectionCount → ℕ} {m : Mark} {op : Op cfg}
  {s₀ s₁ : UInt32}

/-! ### One side -/

/-- **The code sees places.** A packet that has the numbers of its place hits a slot exactly if it
can be confused with one of the connection of the slot. -/
theorem Placed.hits_iff (h : p.Placed s₀ s₁) {pkg : Glbpkg} (hfits : m.Fits s₁ s₀ pkg)
    (from_ : Glbaddr) (env : Env) (i : Fin cfg.connectionCount) :
    pkg.Hits p.ctx from_ env i ↔ p.Confusable m pkg from_ env i := by
  rw [Glbpkg.Hits, Confusable]
  refine and_congr_right fun hfind ↦ ?_
  dsimp only
  by_cases hfin : pkg.header.ctrlFlags = ctrlFlagFin
  · rw [if_pos hfin, Glbpkg.Acts, if_pos hfin]
  by_cases hend : pkg.header.ctrlFlags = ctrlFlagFinAck ∨ pkg.header.ctrlFlags = ctrlFlagRst
  · rw [if_neg hfin, if_pos hend, Glbpkg.Acts, if_neg hfin]
    rcases hend with hflags | hflags
    · rw [if_pos hflags]
    · rw [if_neg (by rw [hflags]; decide), if_pos hflags]
  rw [if_neg hfin, if_neg hend]
  obtain ⟨hfinAck, hrst⟩ := not_or.1 hend
  -- what is left is about a channel that the packet reaches
  have hreaches : ∀ {P : Fin cfg.channelCount → Glbchannels cfg.channelCount → Prop},
      (∃ c chs, pkg.Reaches p.ctx i c chs ∧ P c chs) ↔
        (p.ctx.connections i).state = .established ∧ ∃ c : Fin cfg.channelCount,
          pkg.header.channelId.toNat = c.val ∧ ∃ chs ∈ (p.ctx.connections i).channels, P c chs := by
    intro P
    constructor
    · rintro ⟨c, chs, hreach, hP⟩
      exact ⟨hreach.established, c, hreach.channel, chs, hreach.channels, hP⟩
    · rintro ⟨hest, c, hc, chs, hchs, hP⟩
      exact ⟨c, chs, ⟨hfind, hest, hchs, hc⟩, hP⟩
  rw [← hreaches]
  by_cases hdata : pkg.header.ctrlFlags = ctrlFlagData
  · rw [Glbctx.acts_data_iff hfind hdata]
    refine exists_congr fun c ↦ exists_congr fun chs ↦ and_congr_right fun hreach ↦ ?_
    rw [if_pos hdata]
    split
    · rw [hfits.seq (by rw [hdata]; decide), h.ack i c _ ⟨chs, hreach.channels, rfl⟩,
        numbered_eq_iff]
    · exact Iff.rfl
  by_cases hdataAck : pkg.header.ctrlFlags = ctrlFlagDataAck
  · rw [Glbctx.acts_dataAck_iff hfind hdataAck]
    refine exists_congr fun c ↦ exists_congr fun chs ↦ and_congr_right fun hreach ↦ ?_
    rw [if_neg hdata, hfits.ack hdataAck, and_iff_right hdataAck]
    rcases helems : (chs.chan c).sQueue.elems with - | ⟨head, rest⟩
    · simp
    · rw [← numbered_eq_iff (s := s₀), ← h.seq_head ⟨chs, hreach.channels, rfl⟩ helems]
      simp [eq_comm]
  · refine iff_of_false (fun hacts ↦ ?_) ?_
    · have htraffic := Glbctx.isTraffic_of_acts hacts
      simp [Glbpkg.IsTraffic, hfin, hfinAck, hrst, hdata, hdataAck] at htraffic
    · rintro ⟨c, chs, -, hcase⟩
      rw [if_neg hdata] at hcase
      exact hdataAck hcase.1

/-- A step leaves later connections alone exactly if it is harmless. -/
theorem Placed.isolated_iff (h : p.Placed s₀ s₁) (hnext : p.next begins m op = some p')
    (hfits : ∀ pkg from_ env, op = .packet pkg from_ env → m.Fits s₁ s₀ pkg) :
    p.Isolated m op p' ↔ p.Harmless m op := by
  obtain ⟨ctx', hstep, rfl⟩ := Option.map_eq_some_iff.1 hnext
  cases op with
  | packet pkg from_ env =>
    have hhits := h.hits_iff (hfits pkg from_ env rfl) from_ env
    constructor
    · intro hisolated i hi hconfusable
      have hhit := (hhits i).2 hconfusable
      have htraffic := Glbctx.isTraffic_of_acts hhit.2
      exact (Glbctx.unchanged_iff htraffic hstep i).1 (hisolated htraffic i hi) hhit
    · intro hharmless htraffic i hi
      exact (Glbctx.unchanged_iff htraffic hstep i).2 fun hhit ↦
        hharmless i hi ((hhits i).1 hhit)
  | _ => exact Iff.rfl

/-- An open slot that is not given channels goes on belonging to the connection it belongs to. -/
theorem connAfter_of_isOpen {ctx' : Glbctx cfg} {i : Fin cfg.connectionCount}
    (hstep : Glbctx.Step p.ctx op ctx') (hopen : ctx'.IsOpen i)
    (hbuilds : ¬ Glbctx.Builds i (p.ctx, op, ctx')) :
    p.connAfter begins m op ctx' i = p.conn i := by
  rw [connAfter, if_neg hbuilds]
  split
  · next hstart =>
    rw [Glbctx.IsOpen, Glbctx.state_of_start hstep hstart] at hopen
    simp at hopen
  · next hstart =>
    rw [Glbctx.IsOpen, Glbctx.state_of_start hstep hstart] at hopen
    simp at hopen
  · rfl

theorem noStale_start : (Party.start cfg).NoStale := by
  rintro i c - k hk
  cases hk

/-- As long as nothing is confused with a later connection, the receive queues of open connections
hold no message of an earlier one. -/
theorem Placed.noStale_next (h : p.Placed s₀ s₁) (hI : p.NoStale)
    (hnext : p.next begins m op = some p')
    (hfits : ∀ pkg from_ env, op = .packet pkg from_ env → m.Fits s₁ s₀ pkg)
    (hharmless : p.Harmless m op) : p'.NoStale := by
  obtain ⟨ctx', hstep, rfl⟩ := Option.map_eq_some_iff.1 hnext
  intro i c hopen' n hn
  show p.connAfter begins m op ctx' i ≤ n
  have hn : n ∈ p.storedAfter m ctx' i c := hn
  unfold storedAfter at hn
  split at hn
  · cases hn
  next hzero =>
  obtain ⟨chan', hchan'⟩ := Glbctx.exists_hasChannel hzero
  -- what is stored is not in new channels, so the slot was open and its connection is the same
  have hbuilds : ¬ Glbctx.Builds i (p.ctx, op, ctx') := by
    intro hbuilds
    obtain ⟨ack, hopens⟩ := Glbctx.opens_of_builds hstep hbuilds
    exact hzero (Glbctx.storedCount_of_isOpened hchan'
      (Glbctx.isOpened_of_opens hstep hopens hchan'))
  rw [connAfter_of_isOpen hstep hopen' hbuilds]
  rcases Glbctx.isOpen_step hstep hopen' with ⟨hopen, -⟩ | hnew
  swap
  · obtain ⟨config, seq, ack, hopened⟩ := hnew c chan' hchan'
    exact absurd (Glbctx.storedCount_of_isOpened hchan' hopened) hzero
  split at hn
  · next hlt =>
    rcases List.mem_append.1 hn with hn | hn
    · exact hI i c hopen n hn
    · obtain rfl := List.mem_singleton.1 hn
      -- what is put into the queue hits the slot
      rcases Glbctx.storedCount_step hstep i c with h0 | heq | ⟨-, pkg, from_, env, rfl, hhits⟩
      · exact absurd h0 hzero
      · omega
      · refine not_lt.1 fun hlt ↦ hharmless i hlt ?_
        exact (h.hits_iff (hfits pkg from_ env rfl) from_ env i).1 hhits
  · exact hI i c hopen n hn

end Party

namespace Sessions

variable {addr : Glbaddr} {s s' : Sessions cfgA cfgB}
  {lab : (Mark × Op cfgA) ⊕ (Mark × Op cfgB)} {ts : List (Transition cfgA cfgB)}

/-! ### Whole runs -/

theorem Placed.isolated_iff (h : s.Placed) (hstep : Step addr s lab s') :
    Isolated (s, lab, s') ↔ Harmless (s, lab, s') := by
  rcases step_cases hstep with ⟨m, op, begins, rfl, harrives, hnext, -⟩ |
    ⟨m, op, begins, rfl, harrives, -, -, hnext, -⟩
  · exact h.client.isolated_iff hnext (fits_of_arrives h.server harrives)
  · exact h.server.isolated_iff hnext (fits_of_arrives h.client harrives)

theorem Placed.noStale_step (h : s.Placed) (hI : s.NoStale) (hstep : Step addr s lab s')
    (hharmless : Harmless (s, lab, s')) : s'.NoStale := by
  rcases step_cases hstep with ⟨m, op, begins, rfl, harrives, hnext, hother⟩ |
    ⟨m, op, begins, rfl, harrives, -, -, hnext, hother⟩
  · exact ⟨h.client.noStale_next hI.1 hnext (fits_of_arrives h.server harrives) hharmless,
      by rw [hother]; exact hI.2⟩
  · exact ⟨by rw [hother]; exact hI.1,
      h.server.noStale_next hI.2 hnext (fits_of_arrives h.client harrives) hharmless⟩

/-- The first number of either side. -/
def sampleSeq : UInt32 := Glbctx.initialSeq Glbcfg.sampleClient

/-- A packet without payload, as it is on the wire. -/
def wire (connId : Glbconid) (flags : UInt8) (seq ack : UInt32) : Glbpkg :=
  ((glbpkgInit connId flags 0).withSeqAck seq ack).seal

/-- The first message of a connection, one byte long. -/
def message (byte : UInt8) : Glbpkg :=
  { (Glbpkg.sampleData ⟨1, 0⟩ 0).withSeqAck sampleSeq sampleSeq with data := [byte] }.seal

/-- An operation of the client or the server of the sample. -/
abbrev SampleOp := (Mark × Op Glbcfg.sampleClient) ⊕ (Mark × Op Glbcfg.sampleServer)

/-- The client connects for the `k`-th time, at time `t`, and a SYN of connection `syn` is the one
that arrives. -/
def connecting (k t syn : ℕ) : List SampleOp :=
  [.inl (⟨k, 0⟩, .connect t),
    .inl (⟨k, 0⟩, .timers ⟨0, Nat.one_pos⟩ (Env.at t)),
    .inr (⟨syn, 0⟩, .packet (wire ⟨0xFFFF, 0⟩ ctrlFlagSyn sampleSeq 0) .samplePeer (Env.at t)),
    .inr (⟨k, 0⟩, .timers ⟨0, Nat.two_pos⟩ (Env.at t)),
    .inl (⟨k, 0⟩, .packet (wire ⟨1, 0⟩ ctrlFlagSynAck sampleSeq sampleSeq) ⟨0, 0⟩ (Env.at t)),
    .inr (⟨k, 0⟩, .packet (wire ⟨1, 0⟩ ctrlFlagAck sampleSeq sampleSeq) .samplePeer (Env.at t))]

/-- The client sends a message of one byte. -/
def saying (k t : ℕ) (byte : UInt8) : List SampleOp :=
  [.inl (⟨k, 0⟩, .send ⟨some [byte], some ⟨0, Nat.one_pos⟩, 0⟩ t),
    .inl (⟨k, 0⟩, .timers ⟨0, Nat.one_pos⟩ (Env.at t))]

/-- The client closes connection `k`. -/
def closing (k t : ℕ) : List SampleOp :=
  [.inl (⟨k, 0⟩, .close ⟨0, Nat.one_pos⟩ t),
    .inl (⟨k, 0⟩, .timers ⟨0, Nat.one_pos⟩ (Env.at t)),
    .inr (⟨k, 0⟩, .packet (wire ⟨1, 0⟩ ctrlFlagFin 0 0) .samplePeer (Env.at t)),
    .inl (⟨k, 0⟩, .packet (wire ⟨1, 0⟩ ctrlFlagFinAck 0 0) ⟨0, 0⟩ (Env.at t))]

/-- Two connections of the same client, the message of the first still under way, where a SYN of
connection `syn` opens the second. -/
def comesBack (syn : ℕ) : List SampleOp :=
  connecting 1 1 1 ++ saying 1 1 7 ++ closing 1 2 ++ connecting 2 3 syn ++ saying 2 3 8

/-- The message of the first connection arrives. -/
def late : SampleOp := .inr (⟨1, 0⟩, .packet (message 7) .samplePeer (Env.at 4))

-- it is no different when a repeated SYN of the first connection opens the slot: the ACK brings it
-- to the second one
example : (Execution.perform (next .samplePeer) (comesBack 1 ++ [late]) (start _ _)).map (fun r ↦
      (r.2.server.conn ⟨0, by decide⟩, r.2.server.stored ⟨0, by decide⟩ ⟨0, by decide⟩,
        decide (∀ x ∈ r.1, Harmless x))) = some (2, [1], false) := by
  decide +kernel

end Sessions

end Gilberta
