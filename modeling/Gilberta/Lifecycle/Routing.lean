import Gilberta.Effects.Locality

/-!
# Packets are routed to the right connection

`glbctx_findconn` looks through all slots, whatever their state, and closed slots keep the id they
had. That it finds the right one all the same rests on the generator: `Numbered` ties the ids in the
slots to the number of ids generated so far. Every id in a slot is one of these and belongs to this
slot alone, and a slot that never got one either has not been used or is slot 0, which a stray
SYN|ACK can bring to life and which the search comes to first.
-/

namespace Gilberta

variable {cfg : Glbcfg}

/-- A packet comes from a real address. -/
def Op.FromReal : Op cfg → Prop
  | .packet _ from_ _ => from_ ≠ ⟨0, 0⟩
  | _ => True

/-- `glb_connect`. -/
def Op.IsConnect : Op cfg → Prop
  | .connect _ => True
  | _ => False

instance : (op : Op cfg) → Decidable op.FromReal
  | .packet _ from_ _ => inferInstanceAs (Decidable (from_ ≠ ⟨0, 0⟩))
  | .connect _ | .close _ _ | .send _ _ | .pollevent | .popdata _ | .readError | .timers _ _ =>
    inferInstanceAs (Decidable True)

instance : (op : Op cfg) → Decidable op.IsConnect
  | .connect _ => inferInstanceAs (Decidable True)
  | .packet _ _ _ | .close _ _ | .send _ _ | .pollevent | .popdata _ | .readError | .timers _ _ =>
    inferInstanceAs (Decidable False)

namespace Glbctx

/-- How often a run calls `glbctx_generateclientid`. -/
def idsGenerated (ts : List (Transition cfg)) : ℕ := ts.countP fun x ↦ x.2.1.generates x.1

/-- The largest number of ids before the generator starts again, 65534. -/
def maxIds : ℕ := 0xFFFE

/-- The ids in the slots, after `n` were generated. -/
structure Numbered (n : ℕ) (ctx : Glbctx cfg) : Prop where
  /-- The generator counts. -/
  counter : n < maxIds → ctx.clientId.toNat = n + 1
  /-- Every id was generated. -/
  le : ∀ i, (ctx.connections i).connId.id.toNat ≤ n
  /-- No id is in two slots. -/
  distinct : ∀ i j, i ≠ j → (ctx.connections i).connId.id = (ctx.connections j).connId.id →
    (ctx.connections i).connId.id = 0
  /-- A slot without an id is slot 0, or was never used. -/
  unnamed : ∀ i, (ctx.connections i).connId.id = 0 → i.val = 0 ∨ Unused (ctx.connections i)
  /-- No slot is connecting. -/
  not_synSent : ∀ i, (ctx.connections i).state ≠ .synSent

theorem numbered_init : Numbered 0 (init cfg) where
  counter := fun _ ↦ rfl
  le := fun _ ↦ Nat.le_refl 0
  distinct := fun _ _ _ _ ↦ rfl
  unnamed := fun _ _ ↦ Or.inr ⟨rfl, rfl⟩
  not_synSent := fun _ ↦ by simp [init, zeroCon]

variable {ctx ctx' : Glbctx cfg} {op : Op cfg} {i : Fin cfg.connectionCount} {n : ℕ}

/-- What a step that generates no id does to the id and the use of a slot. -/
theorem named_of_not_generates (hsyn : (ctx.connections i).state ≠ .synSent)
    (hgen : op.generates ctx = false) (hconnect : ¬ op.IsConnect) (hreal : op.FromReal)
    (h : Step ctx op ctx') :
    (ctx'.connections i).connId = (ctx.connections i).connId ∧
      (i.val = 0 ∨ (Unused (ctx.connections i) → Unused (ctx'.connections i))) ∧
      (ctx'.connections i).state ≠ .synSent := by
  rcases slot_effect h i with hlife | ⟨a', evs, hchange⟩
  · refine ⟨hlife.connId, Or.inr fun hunused ↦ ⟨?_, ?_⟩, hlife.state ▸ hsyn⟩
    · rcases hlife.peer with heq | ⟨hest, -⟩
      · exact heq.trans hunused.1
      · rw [hunused.2] at hest
        cases hest
    · exact hlife.state.trans hunused.2
  generalize ctx'.connections i = con' at hchange
  cases hchange with
  | connected => exact absurd trivial hconnect
  | finSent hstate =>
    refine ⟨rfl, Or.inr fun hunused ↦ ?_, by simp⟩
    rw [hunused.2] at hstate
    cases hstate
  | reopened _ hfind =>
    -- an unused slot has the address zero, from which no packet comes
    refine ⟨rfl, Or.inr fun hunused ↦ absurd ?_ hreal, by simp⟩
    rw [← peerAddr_of_findConnByAddr hfind, hunused.1]
  | opened hsyn hfind hclosed =>
    have hempty : ctx.findEmptyConn.isSome = true := by
      rw [findEmptyConn, Option.isSome_map, List.find?_isSome]
      exact ⟨i, List.mem_finRange i, decide_eq_true hclosed⟩
    rw [generates_packet_iff.2 ⟨hsyn, hfind, hempty⟩] at hgen
    cases hgen
  | accepted _ _ hstate =>
    refine ⟨rfl, Or.inr fun hunused ↦ ?_, by simp⟩
    rw [hunused.2] at hstate
    cases hstate
  | synAcked _ hi =>
    -- only a slot that is connecting takes the id of the packet
    refine ⟨if_neg hsyn, Or.inl hi, ?_⟩
    show (if _ then _ else _ : GLBConnState) ≠ _
    split
    · decide
    · exact hsyn
  | closed _ hstate hstate' _ hid =>
    exact ⟨hid, Or.inr fun hunused ↦ absurd hunused.2 hstate, by rw [hstate']; decide⟩
  | reset | gaveUp | dropped => exact ⟨rfl, Or.inr fun hunused ↦ ⟨hunused.1, rfl⟩, by simp⟩

/-- The invariant survives a step that generates no id. -/
theorem Numbered.step (hI : Numbered n ctx) (hgen : op.generates ctx = false)
    (hconnect : ¬ op.IsConnect) (hreal : op.FromReal) (h : Step ctx op ctx') :
    Numbered n ctx' := by
  have hcases := fun i ↦
    named_of_not_generates (i := i) (hI.not_synSent i) hgen hconnect hreal h
  refine ⟨fun hn ↦ ?_, fun i ↦ ?_, fun i j hij ↦ ?_, fun i hid ↦ ?_, fun i ↦ (hcases i).2.2⟩
  · have hid := (generator_step h).2
    rw [if_neg (by rw [hgen]; decide)] at hid
    rw [hid]
    exact hI.counter hn
  · rw [(hcases i).1]
    exact hI.le i
  · rw [(hcases i).1, (hcases j).1]
    exact hI.distinct i j hij
  · rw [(hcases i).1] at hid
    rcases hI.unnamed i hid with hzero | hunused
    · exact Or.inl hzero
    · exact (hcases i).2.1.imp_right fun h ↦ h hunused

/-- Short of the last id, the generator counts on without starting again. -/
theorem toNat_counter_succ {c : UInt16} (hc : c.toNat = n + 1) (hn : n + 1 < maxIds) :
    (if c + 1 = 0xFFFF then 0 else c + 1 : UInt16).toNat = n + 1 + 1 := by
  have hmax : maxIds = 0xFFFE := rfl
  have hadd : (c + 1).toNat = n + 1 + 1 := by
    rw [UInt16.toNat_add, hc]
    exact Nat.mod_eq_of_lt (show n + 1 + 1 < 65536 by omega)
  have hlast : c + 1 ≠ 0xFFFF := by
    intro hlast
    rw [hlast] at hadd
    have hval : (0xFFFF : UInt16).toNat = 65535 := rfl
    omega
  rw [if_neg hlast]
  exact hadd

/-- The invariant survives a step that generates an id, as long as the generator does not start
again. -/
theorem Numbered.generate (hI : Numbered n ctx) (hn : n < maxIds)
    (hgen : op.generates ctx = true) (h : Step ctx op ctx') : Numbered (n + 1) ctx' := by
  rcases op with _ | _ | _ | _ | _ | _ | ⟨pkg, from_, env⟩ | _
  case packet =>
    obtain ⟨hsyn, haddr, hsome⟩ := generates_packet_iff.1 hgen
    obtain ⟨⟨k, ctx₁⟩, hempty⟩ := Option.isSome_iff_exists.1 hsome
    obtain rfl := onSyn_eq_of_handled h hsyn
    obtain ⟨hne, hid, hstate, -, hnext⟩ :=
      @onSyn_of_generates _ _ _ pkg from_ env _ haddr hempty
    -- the new id is the first that was never generated
    have hcounter : ctx.clientId.toNat = n + 1 := hI.counter hn
    have hnew : ((ctx.onSyn pkg from_ env).connections k).connId.id.toNat = n + 1 := by
      rw [hid]
      exact hcounter
    have hold : ∀ j, j ≠ k → ((ctx.onSyn pkg from_ env).connections j).connId.id.toNat ≤ n := by
      intro j hj
      rw [hne j hj]
      exact hI.le j
    have hfresh : ∀ j, j ≠ k → ((ctx.onSyn pkg from_ env).connections j).connId.id ≠
        ((ctx.onSyn pkg from_ env).connections k).connId.id := by
      intro j hj heq
      have hle := hold j hj
      rw [heq, hnew] at hle
      omega
    refine ⟨fun hn' ↦ ?_, fun i ↦ ?_, fun i j hij heq ↦ ?_, fun i hzero ↦ ?_, fun i ↦ ?_⟩
    · rw [hnext]
      exact toNat_counter_succ hcounter hn'
    · by_cases hi : i = k
      · subst hi
        omega
      · exact Nat.le_succ_of_le (hold i hi)
    · by_cases hi : i = k
      · subst hi
        exact absurd heq.symm (hfresh j (Ne.symm hij))
      · by_cases hj : j = k
        · subst hj
          exact absurd heq (hfresh i hi)
        · rw [hne i hi, hne j hj] at heq
          rw [hne i hi]
          exact hI.distinct i j hij heq
    · by_cases hi : i = k
      · subst hi
        rw [hzero] at hnew
        cases hnew
      · rw [hne i hi] at hzero ⊢
        exact hI.unnamed i hzero
    · by_cases hi : i = k
      · rw [hi, hstate]
        decide
      · rw [hne i hi]
        exact hI.not_synSent i
  all_goals cases hgen

/-- **The ids in the slots of a run**, as long as the generator does not start again. -/
theorem numbered_of_run {ts : List (Transition cfg)} (hrun : Run ts ctx)
    (hconnect : ∀ x ∈ ts, ¬ x.2.1.IsConnect) (hreal : ∀ x ∈ ts, x.2.1.FromReal)
    (hids : idsGenerated ts ≤ maxIds) : Numbered (idsGenerated ts) ctx := by
  have hinv := Execution.invariant
    (I := fun ts ctx ↦ idsGenerated ts ≤ maxIds → Numbered (idsGenerated ts) ctx)
    (C := fun x : Transition cfg ↦ ¬ x.2.1.IsConnect ∧ x.2.1.FromReal)
    (fun ts ctx op ctx' hI hstep hx hle ↦ ?_) hrun (fun _ ↦ numbered_init)
    fun x hx ↦ ⟨hconnect x hx, hreal x hx⟩
  · exact hinv hids
  · have hcount : idsGenerated (ts ++ [(ctx, op, ctx')]) =
        idsGenerated ts + if op.generates ctx then 1 else 0 := by
      rw [idsGenerated, List.countP_append, List.countP_singleton]
      rfl
    rw [hcount] at hle ⊢
    cases hgen : op.generates ctx with
    | false => exact (hI (by omega)).step hgen hx.1 hx.2 hstep
    | true =>
      rw [hgen, if_pos rfl] at hle
      exact (hI (by omega)).generate hle hgen hstep

/-- The search by id comes to a slot that is live before any other with its id. -/
theorem Numbered.findConn_eq (hI : Numbered n ctx) (hlive : (ctx.connections i).state ≠ .closed) :
    ctx.findConn (ctx.connections i).connId.generation (ctx.connections i).connId.id = some i := by
  have hself : ((List.finRange cfg.connectionCount).find? fun j ↦
      decide ((ctx.connections j).connId.generation = (ctx.connections i).connId.generation ∧
        (ctx.connections j).connId.id = (ctx.connections i).connId.id)).isSome = true := by
    rw [List.find?_isSome]
    exact ⟨i, List.mem_finRange i, by simp⟩
  obtain ⟨j, hj⟩ := Option.isSome_iff_exists.1 hself
  have hid : (ctx.connections j).connId.id = (ctx.connections i).connId.id := by
    have hfound := List.find?_some hj
    exact (of_decide_eq_true hfound).2
  rw [findConn, hj]
  refine congrArg some ?_
  by_contra hne
  -- another slot with the same id: neither has one, so the live one is slot 0 and comes first
  have hzero := hI.distinct i j (Ne.symm hne) hid.symm
  have hi : i.val = 0 := (hI.unnamed i hzero).resolve_right fun hunused ↦ hlive hunused.2
  obtain ⟨-, k, hk, hget, hbefore⟩ := List.find?_eq_some_iff_getElem.1 hj
  have hjk : j.val = k := by
    rw [← hget, List.getElem_finRange]
    rfl
  have hpos : 0 < k := by
    rw [← hjk]
    refine Nat.pos_of_ne_zero fun hj0 ↦ hne (Fin.ext ?_)
    rw [hj0, hi]
  have hlen : 0 < (List.finRange cfg.connectionCount).length := by omega
  have hfirst : (List.finRange cfg.connectionCount)[0] = i := by
    rw [List.getElem_finRange]
    exact Fin.ext hi.symm
  have hmiss := hbefore 0 hpos
  rw [hfirst] at hmiss
  simp at hmiss

/-- **Packets are routed to the right connection.** -/
theorem routed {ts : List (Transition cfg)} (hrun : Run ts ctx)
    (hconnect : ∀ x ∈ ts, ¬ x.2.1.IsConnect) (hreal : ∀ x ∈ ts, x.2.1.FromReal)
    (hids : idsGenerated ts ≤ maxIds) :
    (∀ i, (ctx.connections i).state ≠ .closed → ctx.findConn (ctx.connections i).connId.generation
      (ctx.connections i).connId.id = some i) ∧
    ∀ i j, i ≠ j → (ctx.connections i).state ≠ .closed → (ctx.connections j).state ≠ .closed →
      (ctx.connections i).connId ≠ (ctx.connections j).connId := by
  have hI := numbered_of_run hrun hconnect hreal hids
  refine ⟨fun i hlive ↦ hI.findConn_eq hlive, fun i j hij hi hj heq ↦ hij ?_⟩
  have hfound := hI.findConn_eq hi
  rw [heq, hI.findConn_eq hj] at hfound
  exact (Option.some_inj.1 hfound).symm

/-- SYNs from two addresses open both slots of a server, and either is found by its id. -/
theorem routed_sample : ∃ ts ctx, @Run Glbcfg.sampleServer ts ctx ∧ idsGenerated ts = 2 ∧
    ctx.findConn 0 1 = some ⟨0, by decide⟩ ∧ ctx.findConn 0 2 = some ⟨1, by decide⟩ := by
  let ops : List (Op Glbcfg.sampleServer) :=
    [.packet (glbpkgInit ⟨0xFFFF, 0⟩ ctrlFlagSyn 0) .samplePeer (Env.at 1),
      .packet (glbpkgInit ⟨0xFFFF, 0⟩ ctrlFlagSyn 0) ⟨0x0200007F, 0x1234⟩ (Env.at 2)]
  have hids : (Execution.perform step ops (init _)).map (fun r ↦ (idsGenerated r.1,
      (r.2.connections ⟨0, by decide⟩).connId, (r.2.connections ⟨1, by decide⟩).connId)) =
      some (2, ⟨1, 0⟩, ⟨2, 0⟩) := by decide
  have hlive : ∀ r ∈ Execution.perform step ops (init _), ∀ i,
      (r.2.connections i).state ≠ .closed := by decide
  have hops : ∀ r ∈ Execution.perform step ops (init _), ∀ x ∈ r.1,
      ¬ x.2.1.IsConnect ∧ x.2.1.FromReal := by decide
  obtain ⟨r, hr, hids⟩ := Option.map_eq_some_iff.1 hids
  obtain ⟨hcount, hids⟩ := Prod.mk.inj hids
  obtain ⟨hfst, hsnd⟩ := Prod.mk.inj hids
  have hrouted := (routed (run_of_perform hr) (fun x hx ↦ (hops r hr x hx).1)
    (fun x hx ↦ (hops r hr x hx).2) (by rw [hcount]; decide)).1
  have h₀ := hrouted ⟨0, by decide⟩ (hlive r hr _)
  have h₁ := hrouted ⟨1, by decide⟩ (hlive r hr _)
  rw [hfst] at h₀
  rw [hsnd] at h₁
  exact ⟨r.1, r.2, run_of_perform hr, hcount, h₀, h₁⟩

end Glbctx

end Gilberta
