import Gilberta.Effects.Step

/-!
# The connection state machine

`GLBConnState` is documented by the comments on its values and by the comments at the head of each
handler: which packet, call or timer moves a connection from where to where. `Documented` is that
diagram. The code follows it except in two handlers: the SYN|ACK handler tests only that slot 0 is
not established, and the SYN handler, when it finds a slot by address, tests only that the slot is
not established.

`follows_diagram_iff` makes this exact: a run follows the diagram if and only if no SYN|ACK is
handled while slot 0 is closed, half open on the server's side or closing, and no SYN is handled
from the address of a slot that is itself connecting or closing.
-/

namespace Gilberta

variable {cfg : Glbcfg}

/-- The documented transitions of slot `i`, each with the operations that may cause it. -/
inductive Documented (i : Fin cfg.connectionCount) (op : Op cfg) :
    GLBConnState → GLBConnState → Prop
  | stay (s : GLBConnState) : Documented i op s s
  | connect (h : ∃ now, op = .connect now) : Documented i op .closed .synSent
  | syn (h : op.HandlesSyn) : Documented i op .closed .synRcvd
  | synAck (h : op.Handles ctrlFlagSynAck) : Documented i op .synSent .established
  | giveUp : Documented i op .synSent .closed
  | ack (h : op.Handles ctrlFlagAck) : Documented i op .synRcvd .established
  | drop : Documented i op .synRcvd .closed
  | close (h : ∃ now, op = .close i now) : Documented i op .established .finSent
  | abort : Documented i op .established .closed
  | finish : Documented i op .finSent .closed

namespace Glbctx

/-- A transition of a run follows the diagram: every slot moves along a documented transition, and
a SYN|ACK leaves every slot that is not waiting for it exactly as it is. -/
structure FollowsDiagram (x : Transition cfg) : Prop where
  /-- Every slot moves along a documented transition. -/
  documented : ∀ i, Documented i x.2.1 (x.1.connections i).state (x.2.2.connections i).state
  /-- A SYN|ACK does not change a slot that is not in SYN_SENT. -/
  synAck : x.2.1.Handles ctrlFlagSynAck → ∀ i, (x.1.connections i).state ≠ .synSent →
    x.2.2.connections i = x.1.connections i

/-- A packet the state machine is ready for: a SYN|ACK finds slot 0 waiting for it or already
established, and a SYN does not find, by its address, a slot that is itself connecting or
closing. -/
def Expects (ctx : Glbctx cfg) (pkg : Glbpkg) (from_ : Glbaddr) : Prop :=
  (pkg.header.ctrlFlags = ctrlFlagSynAck → ∀ i : Fin cfg.connectionCount, i.val = 0 →
    (ctx.connections i).state = .synSent ∨ (ctx.connections i).state = .established) ∧
  (pkg.IsSyn → ∀ i, ctx.findConnByAddr from_ = some i →
    (ctx.connections i).state ≠ .synSent ∧ (ctx.connections i).state ≠ .finSent)

end Glbctx

/-- An operation the state machine is ready for. -/
def Op.Expected (ctx : Glbctx cfg) : Op cfg → Prop
  | .packet pkg from_ _ => ctx.Expects pkg from_
  | _ => True

instance (ctx : Glbctx cfg) (pkg : Glbpkg) (from_ : Glbaddr) :
    Decidable (ctx.Expects pkg from_) := by
  unfold Glbctx.Expects
  infer_instance

instance (ctx : Glbctx cfg) : (op : Op cfg) → Decidable (op.Expected ctx)
  | .packet pkg from_ _ => inferInstanceAs (Decidable (ctx.Expects pkg from_))
  | .connect _ | .close _ _ | .send _ _ | .pollevent | .popdata _ | .readError | .timers _ _ =>
    inferInstanceAs (Decidable True)

namespace Glbctx

variable {ctx ctx' : Glbctx cfg} {op : Op cfg}

/-! ### Expected packets keep to the diagram -/

/-- One case for each kind of change. -/
theorem documented_of_change {i : Fin cfg.connectionCount} {con' : Glbconn cfg} {a' : Allocator}
    {evs : List (Glbevent cfg.connectionCount)} (hallowed : op.Allowed ctx)
    (hexp : op.Expected ctx) (h : Change ctx i op con' a' evs) :
    Documented i op (ctx.connections i).state con'.state := by
  cases h with
  | connected hi =>
    rw [hallowed i hi]
    cases haddr : cfg.inetAddr.isSome with
    | false => exact .stay _
    | true => exact .connect ⟨_, rfl⟩
  | finSent hstate => rw [hstate]; exact .close ⟨_, rfl⟩
  | reopened hsyn hfind hstate =>
    obtain ⟨hss, hfs⟩ := hexp.2 hsyn i hfind
    cases hs : (ctx.connections i).state with
    | closed => exact .syn hsyn
    | established => exact absurd hs hstate
    | synSent => exact absurd hs hss
    | synRcvd => exact .stay _
    | finSent => exact absurd hs hfs
  | opened hsyn hfind hstate hstate' => rw [hstate, hstate']; exact .syn hsyn
  | accepted hflags hfind hstate hnew => rw [hstate]; exact .ack hflags
  | @synAcked _ _ env _ _ _ hflags hi hstate hnew =>
    rcases hexp.1 hflags i hi with hs | hs
    · rw [hs]
      cases hok : env.sendOk 0 with
      | false => exact .stay _
      | true => exact .synAck hflags
    · exact absurd hs hstate
  | closed hcause hstate hstate' =>
    rw [hstate']
    cases hs : (ctx.connections i).state with
    | closed => exact .stay _
    | established => exact .abort
    | synSent => exact .giveUp
    | synRcvd => exact .drop
    | finSent => exact .finish
  | reset hflags hfind hstate =>
    show Documented i _ _ .closed
    cases hs : (ctx.connections i).state with
    | closed => exact .stay _
    | established => exact .abort
    | synSent => exact .giveUp
    | synRcvd => exact .drop
    | finSent => exact .finish
  | gaveUp hstate => rw [hstate]; exact .giveUp
  | dropped hstate => rw [hstate]; exact .drop

theorem documented_of_expected (hallowed : op.Allowed ctx) (hexp : op.Expected ctx)
    (h : Step ctx op ctx') (i : Fin cfg.connectionCount) :
    Documented i op (ctx.connections i).state (ctx'.connections i).state := by
  rcases slot_effect h i with hsame | ⟨a', evs, hchange⟩
  · rw [hsame.state]
    exact .stay _
  · exact documented_of_change hallowed hexp hchange

/-- A SYN|ACK touches slot 0 at most. -/
theorem synAck_of_expected (hexp : op.Expected ctx) (h : Step ctx op ctx')
    (hflags : op.Handles ctrlFlagSynAck) (i : Fin cfg.connectionCount)
    (hi : (ctx.connections i).state ≠ .synSent) : ctx'.connections i = ctx.connections i := by
  cases op with
  | packet pkg from_ env =>
    have h : ctx.onSynAck pkg env = some ctx' := (handlePacket_of_synAck hflags).symm.trans h
    have hpos : 0 < cfg.connectionCount := Nat.lt_of_le_of_lt (Nat.zero_le _) i.isLt
    by_cases hi0 : i = ⟨0, hpos⟩
    · subst hi0
      rcases hexp.1 hflags ⟨0, hpos⟩ rfl with hs | hs
      · exact absurd hs hi
      · exact (onSynAck_of_established hs h).self
    · by_cases hs : (ctx.connections ⟨0, hpos⟩).state = .established
      · exact (onSynAck_of_established hs h).of_ne i hi0
      · obtain ⟨chs, a', -, hb⟩ := onSynAck_of_ne hs h
        exact hb.of_ne i hi0
  | _ => exact absurd hflags id

/-! ### Unexpected packets leave it -/

/-- Channel arrays live in blocks the allocator has already handed out. -/
def ArraysAllocated (ctx : Glbctx cfg) : Prop :=
  ∀ i, ∀ b ∈ ctx.channelBlocks i, b < ctx.allocator.next

theorem arraysAllocated_init : ArraysAllocated (init cfg) := by
  intro i b hb
  cases hb

theorem arraysAllocated_step (hI : ArraysAllocated ctx) (h : Step ctx op ctx') :
    ArraysAllocated ctx' := by
  cases step_effect h with
  | quiet hq =>
    intro i b hb
    have hblocks : ctx'.channelBlocks i = ctx.channelBlocks i := by
      have := congrArg (fun o ↦ o.elim [] id) (hq.life i).blocks
      simpa [channelBlocks, Option.elim_map] using this
    rw [hq.allocator]
    exact hI i b (hblocks ▸ hb)
  | @change j con' a' evs hb hchange =>
    -- it is enough to look at the slot that changes, in an allocator that has not gone back
    have hslot : ∀ b ∈ con'.channels.elim [] Glbchannels.blocks, b < a'.next := by
      cases hchange with
      | connected hi => exact hI j
      | finSent hstate => exact hI j
      | reopened hsyn hfind hstate => exact hI j
      | opened _ _ _ _ hchannels => rw [hchannels]; simp
      | accepted _ _ _ hnew => exact fun b hb ↦ (hnew.acquires.next b).2 (Or.inl hb)
      | synAcked _ _ _ hnew => exact fun b hb ↦ (hnew.acquires.next b).2 (Or.inl hb)
      | closed _ _ _ hchannels => rw [hchannels]; simp
      | reset hflags hfind hstate => exact hI j
      | gaveUp hstate => exact hI j
      | dropped hstate => exact hI j
    have hnext : ∀ b, b < ctx.allocator.next → b < a'.next := by
      cases hchange with
      | accepted _ _ _ hnew => exact fun b hb ↦ (hnew.acquires.next b).2 (Or.inr hb)
      | synAcked _ _ _ hnew => exact fun b hb ↦ (hnew.acquires.next b).2 (Or.inr hb)
      | closed => intro b hb; rwa [Allocator.next_freeAll]
      | _ => exact fun b hb ↦ hb
    intro i b hbi
    rw [hb.allocator]
    by_cases hij : i = j
    · subst hij
      rw [channelBlocks, hb.self] at hbi
      exact hslot b hbi
    · rw [channelBlocks, hb.of_ne i hij] at hbi
      exact hnext b (hI i b hbi)

/-- A transition that follows the diagram handled only what the state machine is ready for. -/
theorem expected_of_followsDiagram (hI : ArraysAllocated ctx) (h : Step ctx op ctx')
    (hfollows : FollowsDiagram (ctx, op, ctx')) : op.Expected ctx := by
  cases op with
  | packet pkg from_ env =>
    refine ⟨fun hflags i hi ↦ ?_, fun hsyn i hfind ↦ ?_⟩
    · by_contra hstate
      rw [not_or] at hstate
      obtain ⟨chs, a', hnew, hb⟩ := becomes_of_synAck h hflags hi hstate.2
      -- the record cannot be the old one: it has an array in a block that did not exist
      have hsame := hfollows.synAck hflags i hstate.1
      rw [hb.self] at hsame
      have hblocks : ctx.channelBlocks i = chs.blocks := by
        rw [channelBlocks, ← hsame]
        rfl
      have hmem : chs.block ∈ chs.blocks := List.mem_append_right _ (List.mem_singleton_self _)
      have hlt := hI i chs.block (hblocks ▸ hmem)
      exact absurd hlt (Nat.not_lt.2 (hnew.acquires.fresh _ hmem))
    · by_contra hstate
      have hne : (ctx.connections i).state ≠ .established := by
        rintro hest
        exact hstate ⟨by rw [hest]; decide, by rw [hest]; decide⟩
      have hstep : Step ctx (.packet pkg from_ env) (ctx.onSyn pkg from_ env) :=
        handlePacket_of_syn hsyn
      obtain rfl : ctx.onSyn pkg from_ env = ctx' := Option.some_inj.1 (hstep.symm.trans h)
      have hdoc := hfollows.documented i
      simp only [onSyn_of_found hfind hne, connections_setCon_self] at hdoc
      generalize hs : (ctx.connections i).state = s at hdoc hstate
      cases hdoc with
      | stay => exact hstate ⟨by decide, by decide⟩
      | syn => exact hstate ⟨by decide, by decide⟩
  | _ => trivial

/-! ### Whole runs -/

/-- **The diagram, exactly.** In a run in which `glb_connect` is called only while slot 0 is
closed, every step follows the diagram if and only if every step handles what the state machine is
ready for. -/
theorem follows_diagram_iff {ts : List (Transition cfg)} (hrun : Run ts ctx)
    (hallowed : ∀ x ∈ ts, x.2.1.Allowed x.1) :
    (∀ x ∈ ts, FollowsDiagram x) ↔ ∀ x ∈ ts, x.2.1.Expected x.1 := by
  obtain ⟨-, hall⟩ := hrun.invariant_of_state (C := fun _ ↦ True)
    (fun t a u hI hstep _ ↦ arraysAllocated_step hI hstep) arraysAllocated_init (by simp)
  refine ⟨fun h x hx ↦ ?_, fun h x hx ↦ ?_⟩
  · obtain ⟨hI, hstep, -⟩ := hall x hx
    exact expected_of_followsDiagram hI hstep (h x hx)
  · obtain ⟨-, hstep, -⟩ := hall x hx
    exact ⟨documented_of_expected (hallowed x hx) (h x hx) hstep,
      synAck_of_expected (h x hx) hstep⟩

/-! ### A delayed SYN|ACK -/

/-- A client connects, is answered, is closed by its peer, and then the answer arrives a second
time. -/
def delayedSynAck : List (Op Glbcfg.sampleClient) :=
  [.connect 1,
    .packet (glbpkgInit ⟨1, 0⟩ ctrlFlagSynAck 0) ⟨0x0100007F, 0x5C11⟩ (Env.at 2),
    .packet (glbpkgInit ⟨1, 0⟩ ctrlFlagFin 0) ⟨0x0100007F, 0x5C11⟩ (Env.at 3),
    .packet (glbpkgInit ⟨1, 0⟩ ctrlFlagSynAck 0) ⟨0x0100007F, 0x5C11⟩ (Env.at 4)]

/-- The diagram is not followed by every run: the delayed SYN|ACK brings a closed connection back
to life. -/
theorem not_all_follow_diagram : ¬ ∀ (cfg : Glbcfg) (ts : List (Transition cfg))
    (ctx : Glbctx cfg), Run ts ctx → (∀ x ∈ ts, x.2.1.Allowed x.1) →
    ∀ x ∈ ts, FollowsDiagram x := by
  intro h
  have hmoves : (Execution.perform step delayedSynAck (init _)).map (fun r ↦ r.1.map fun x ↦
      ((x.1.connections ⟨0, by decide⟩).state, (x.2.2.connections ⟨0, by decide⟩).state)) =
      some [(.closed, .synSent), (.synSent, .established), (.established, .closed),
        (.closed, .established)] := by decide
  obtain ⟨r, hr, hmap⟩ := Option.map_eq_some_iff.1 hmoves
  have hallowed : ∀ r ∈ Execution.perform step delayedSynAck (init _), ∀ x ∈ r.1,
      x.2.1.Allowed x.1 := by decide
  have hlast : (GLBConnState.closed, GLBConnState.established) ∈ r.1.map fun x ↦
      ((x.1.connections ⟨0, by decide⟩).state, (x.2.2.connections ⟨0, by decide⟩).state) := by
    rw [hmap]; decide
  obtain ⟨x, hx, hfx⟩ := List.mem_map.1 hlast
  have hdoc := (h _ _ _ (run_of_perform hr) (hallowed r hr) x hx).documented ⟨0, by decide⟩
  rw [(Prod.mk.inj hfx).1, (Prod.mk.inj hfx).2] at hdoc
  cases hdoc

/-- Without the delayed packet the same run follows the diagram. -/
theorem follows_diagram_take_three : ∃ ts ctx, @Run Glbcfg.sampleClient ts ctx ∧
    ts.length = 3 ∧ ∀ x ∈ ts, FollowsDiagram x := by
  have hlen : (Execution.perform step (delayedSynAck.take 3) (init _)).map (fun r ↦
      r.1.length) = some 3 := by decide
  obtain ⟨r, hr, hlen⟩ := Option.map_eq_some_iff.1 hlen
  have hallowed : ∀ r ∈ Execution.perform step (delayedSynAck.take 3) (init _), ∀ x ∈ r.1,
      x.2.1.Allowed x.1 := by decide
  have hexpected : ∀ r ∈ Execution.perform step (delayedSynAck.take 3) (init _), ∀ x ∈ r.1,
      x.2.1.Expected x.1 := by decide
  exact ⟨r.1, r.2, run_of_perform hr, hlen,
    (follows_diagram_iff (run_of_perform hr) (hallowed r hr)).2 (hexpected r hr)⟩

end Glbctx

end Gilberta
