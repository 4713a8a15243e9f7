import Gilberta.Traffic.Timeouts
import Mathlib.Algebra.Order.BigOperators.Group.Finset

/-!
# A silent peer is noticed in time

`no_premature_timeout` says that no connection is given up early; here is the other half, that none
is kept for too long. If `glb_tick` comes round often enough, so that a pass of the timers of a slot
comes at most `delay` milliseconds after the one before it, then a slot whose timer was started at
`t` and was not started again since is closed by the first pass later than

* `t + 1500 + 5 * delay` in SYN_SENT, SYN_RCVD and FIN_SENT,
* `t + 9200 + 9 * delay` in ESTABLISHED,

whatever packets arrive and whatever becomes of those that are sent (`timeout_on_time`). A timer
that starts at the clock reading zero is the exception: a deadline of zero stands for one that was
never started. -/

namespace Gilberta

variable {cfg : Glbcfg}

/-- The clock reading an operation takes of slot `i`: when it starts a timer there, or serves it. -/
def Op.mark (ctx : Glbctx cfg) (i : Fin cfg.connectionCount) : Op cfg → Option ℕ
  | .timers j env => if j = i then some ((ctx.connections i).timing.now cfg env) else none
  | op => (op.start ctx i).map Prod.snd

namespace Glbctx

variable {ctx ctx' : Glbctx cfg} {op : Op cfg} {i : Fin cfg.connectionCount} {env : Env}
  {rule : TimerRule} {ts : List (Transition cfg)} {delay : ℕ}

/-- When a timer of slot `i` was last started, and for which state. -/
def lastStart (i : Fin cfg.connectionCount) (ts : List (Transition cfg)) :
    Option (GLBConnState × ℕ) :=
  lastOf (fun x : Transition cfg ↦ x.2.1.start x.1 i) ts

/-- When a timer of slot `i` was last started or served. -/
def lastMark (i : Fin cfg.connectionCount) (ts : List (Transition cfg)) : Option ℕ :=
  lastOf (fun x : Transition cfg ↦ x.2.1.mark x.1 i) ts

/-- The last clock reading of a pass over the timers of slot `i`. -/
def passEnd (i : Fin cfg.connectionCount) : Transition cfg → Option ℕ
  | (ctx, .timers j env, _) =>
    if j = i then some ((ctx.connections i).timing.later cfg env) else none
  | _ => none

/-- The timers of slot `i` are served often enough: each pass takes its last clock reading at most
`delay` milliseconds after a timer of the slot was last started or served. -/
def Served (i : Fin cfg.connectionCount) (delay : ℕ) (ts : List (Transition cfg)) : Prop :=
  Punctual (fun x : Transition cfg ↦ x.2.1.mark x.1 i) (passEnd i) delay ts

instance : Decidable (Served i delay ts) := by
  unfold Served
  infer_instance

theorem Served.last (h : Served i delay (ts ++ [(ctx, .timers i env, ctx')])) {m : ℕ}
    (hm : lastMark i ts = some m) : (ctx.connections i).timing.later cfg env ≤ m + delay :=
  Punctual.last h hm (if_pos rfl)

/-- The last interval of a timer is a real one. -/
theorem sum_interval_lt {s : GLBConnState} (hrule : s.timerRule = some rule) {n : ℕ}
    (hn : n < rule.limit) :
    ∑ k ∈ Finset.range (n + 1), rule.interval k <
      ∑ k ∈ Finset.range (rule.limit + 1), rule.interval k := by
  have hlast : 0 < rule.interval rule.limit := by cases s <;> cases hrule <;> decide
  have hle : ∑ k ∈ Finset.range (n + 1), rule.interval k ≤
      ∑ k ∈ Finset.range rule.limit, rule.interval k :=
    Finset.sum_le_sum_of_subset (Finset.range_mono hn)
  rw [Finset.sum_range_succ _ rule.limit]
  omega

/-- The 100, 200, ... 500 milliseconds of SYN, SYN|ACK and FIN. -/
theorem retry_total {s : GLBConnState} (hest : s ≠ .established) (hrule : s.timerRule = some rule) :
    ∑ k ∈ Finset.range (rule.limit + 1), rule.interval k = 1500 := by
  cases s <;> cases hrule
  · exact absurd rfl hest
  all_goals decide

/-! ### The invariant -/

/-- The timer that runs under the timing `tm` of slot `i` was started last, has noticed all its
deadlines in time, and has not been served since the present one. -/
def Prompt (i : Fin cfg.connectionCount) (delay : ℕ) (ts : List (Transition cfg)) (tm : Timing) :
    Prop :=
  ∀ rule, tm.state.timerRule = some rule → ∃ t m, lastStart i ts = some (tm.state, t) ∧
    lastMark i ts = some m ∧ PromptBackoff rule.interval delay t tm.count.toNat tm.deadline ∧
    t ≤ tm.deadline ∧ (tm.deadline ≠ 0 → m ≤ tm.deadline)

theorem lastStart_append (x : Transition cfg) :
    lastStart i (ts ++ [x]) = (x.2.1.start x.1 i).or (lastStart i ts) :=
  lastOf_append_singleton _ _ _

theorem lastMark_append (x : Transition cfg) :
    lastMark i (ts ++ [x]) = (x.2.1.mark x.1 i).or (lastMark i ts) :=
  lastOf_append_singleton _ _ _

theorem mark_of_start {s : GLBConnState} {t : ℕ} (hstart : op.start ctx i = some (s, t)) :
    op.mark ctx i = some t := by
  cases op with
  | timers => cases hstart
  | _ => exact congrArg (Option.map Prod.snd) hstart

theorem mark_eq_none (hstart : op.start ctx i = none) (hop : ∀ env, op ≠ .timers i env) :
    op.mark ctx i = none := by
  cases op with
  | timers j env => exact if_neg fun (hj : j = i) ↦ hop env (by rw [hj])
  | _ => exact congrArg (Option.map Prod.snd) hstart

theorem mark_timers :
    (Op.timers i env).mark ctx i = some ((ctx.connections i).timing.now cfg env) :=
  if_pos rfl

/-- A timer starts. -/
theorem prompt_enter {s : GLBConnState} {t : ℕ} (tm : Timing)
    (hstart : op.start ctx i = some (s, t)) :
    Prompt i delay (ts ++ [(ctx, op, ctx')]) (tm.enter s t) := by
  intro rule hrule
  rw [Timing.state_enter] at hrule
  rw [Timing.state_enter, Timing.count_enter, Timing.deadline_enter hrule]
  refine ⟨t, t, ?_, ?_, .start, Nat.le_add_right _ _, fun _ ↦ Nat.le_add_right _ _⟩
  · rw [lastStart_append, hstart]
    rfl
  · rw [lastMark_append, mark_of_start hstart]
    rfl

/-- Nothing happens to the timer that runs. -/
theorem Prompt.kept {tm tm' : Timing} (hI : Prompt i delay ts tm) (hstart : op.start ctx i = none)
    (hop : ∀ env, op ≠ .timers i env) (hstate : tm'.state = tm.state)
    (hcount : tm'.count = tm.count) (hdeadline : tm'.deadline = tm.deadline) :
    Prompt i delay (ts ++ [(ctx, op, ctx')]) tm' := by
  intro rule hrule
  rw [hstate] at hrule
  obtain ⟨t, m, hlast, hmark, hbackoff, hle, hm⟩ := hI rule hrule
  rw [hstate, hcount, hdeadline]
  refine ⟨t, m, ?_, ?_, hbackoff, hle, hm⟩
  · rwa [lastStart_append, hstart]
  · rwa [lastMark_append, mark_eq_none hstart hop]

/-- The timer that runs is served before its deadline. -/
theorem Prompt.idle (hI : Prompt i delay ts (ctx.connections i).timing)
    (hidle : ∀ rule, (ctx.connections i).state.timerRule = some rule →
      glbtimeIsexpired (ctx.connections i).timing.deadline
        ((ctx.connections i).timing.now cfg env) = false) :
    Prompt i delay (ts ++ [(ctx, .timers i env, ctx')]) (ctx.connections i).timing := by
  intro rule hrule
  obtain ⟨t, m, hlast, -, hbackoff, hle, -⟩ := hI rule hrule
  refine ⟨t, (ctx.connections i).timing.now cfg env, ?_, ?_, hbackoff, hle, fun hpos ↦ ?_⟩
  · rwa [lastStart_append]
  · rw [lastMark_append, mark_timers]
    rfl
  · -- a deadline that is set and has not expired lies ahead
    have hnot := hidle rule hrule
    simp only [glbtimeIsexpired, Bool.and_eq_false_iff, bne_eq_false_iff_eq,
      decide_eq_false_iff_not, Nat.not_le] at hnot
    exact (hnot.resolve_left hpos).le

/-- The timer that runs is retried. -/
theorem Prompt.again (hI : Prompt i delay ts (ctx.connections i).timing)
    (hserved : Served i delay (ts ++ [(ctx, .timers i env, ctx')]))
    (hclock : Monotone env.clock) (hrule : (ctx.connections i).state.timerRule = some rule)
    (hexpired : glbtimeIsexpired (ctx.connections i).timing.deadline
      ((ctx.connections i).timing.now cfg env) = true)
    (hlimit : (ctx.connections i).timing.count.toNat < rule.limit) :
    Prompt i delay (ts ++ [(ctx, .timers i env, ctx')]) ((ctx.connections i).timing.again
      ((ctx.connections i).timing.later cfg env +
        rule.interval ((ctx.connections i).timing.count.toNat + 1))) := by
  intro rule' hrule'
  rw [Timing.state_again] at hrule'
  obtain rfl : rule = rule' := Option.some_inj.1 (hrule.symm.trans hrule')
  obtain ⟨t, m, hlast, hmark, hbackoff, hle, hm⟩ := hI rule hrule
  have hdue := le_of_isexpired hexpired
  have hlater : (ctx.connections i).timing.now cfg env ≤ (ctx.connections i).timing.later cfg env :=
    now_le_later _ hclock
  have hset : (ctx.connections i).timing.deadline ≠ 0 := by
    simp only [glbtimeIsexpired, Bool.and_eq_true, bne_iff_ne] at hexpired
    exact hexpired.1
  have hprompt := (hserved.last hmark).trans (Nat.add_le_add_right (hm hset) delay)
  rw [Timing.state_again, Timing.count_again hrule hlimit, Timing.deadline_again]
  refine ⟨t, (ctx.connections i).timing.now cfg env, ?_, ?_, .retry hbackoff hprompt, ?_,
    fun _ ↦ ?_⟩
  · rwa [lastStart_append]
  · rw [lastMark_append, mark_timers]
    rfl
  · omega
  · omega

theorem not_prompt_close (tm : Timing) : Prompt i delay ts tm.close := by
  intro rule hrule
  cases hrule

/-- What one step makes of the timer that runs. -/
theorem prompt_step {tm : Timing} (hI : Prompt i delay ts (ctx.connections i).timing)
    (hserved : Served i delay (ts ++ [(ctx, op, ctx')])) (hclock : op.Chronological)
    (hstep : TimingStep ctx i op tm) : Prompt i delay (ts ++ [(ctx, op, ctx')]) tm := by
  rcases hstep with hstart | ⟨hstart, hop, hstate, hretry, htime, hkeepalive⟩ | - | hidle |
    ⟨hrule, hexpired, hlimit⟩ | -
  · exact prompt_enter _ hstart
  · -- which of the two timers runs is told by the state, and the one that runs is left alone
    by_cases hest : (ctx.connections i).state = .established
    · have hkept := hkeepalive.resolve_right fun hreset ↦ hreset.2 hest
      refine hI.kept hstart hop hstate ?_ ?_
      · exact (if_pos (hstate.trans hest)).trans (hkept.1.trans (if_pos hest).symm)
      · exact (if_pos (hstate.trans hest)).trans (hkept.2.trans (if_pos hest).symm)
    · refine hI.kept hstart hop hstate ?_ ?_
      · exact (if_neg (hstate.symm ▸ hest)).trans (hretry.trans (if_neg hest).symm)
      · exact (if_neg (hstate.symm ▸ hest)).trans (htime.trans (if_neg hest).symm)
  · exact not_prompt_close _
  · exact hI.idle hidle
  · exact hI.again hserved hclock hrule hexpired hlimit
  · exact not_prompt_close _

theorem prompt_of_run (hrun : Run ts ctx) (hclock : ∀ x ∈ ts, x.2.1.Chronological)
    (hserved : Served i delay ts) : Prompt i delay ts (ctx.connections i).timing := by
  refine hrun.invariant (I := fun ts ctx ↦ Served i delay ts →
    Prompt i delay ts (ctx.connections i).timing) (fun ts t a u hI h hx hserved ↦ ?_)
    (fun _ ↦ ?_) hclock hserved
  · exact prompt_step (hI (Punctual.init hserved)) hserved hx (timing_step h i)
  · exact not_prompt_close ⟨.closed, 0, 0, 0, 0⟩

/-! ### Giving up -/

/-- A timer that is served when all its intervals and delays have passed is due, and has no retries
left. -/
theorem Prompt.spent (hI : Prompt i delay ts (ctx.connections i).timing)
    (hserved : Served i delay (ts ++ [(ctx, .timers i env, ctx')]))
    (hbounded : (ctx.connections i).timing.Bounded) (hclock : Monotone env.clock)
    (hrule : (ctx.connections i).state.timerRule = some rule) {s : GLBConnState} {t : ℕ}
    (hstart : lastStart i ts = some (s, t)) (ht : 0 < t)
    (hlate : t + ∑ k ∈ Finset.range (rule.limit + 1), rule.interval k + rule.limit * delay ≤
      (ctx.connections i).timing.now cfg env) :
    rule.limit ≤ (ctx.connections i).timing.count.toNat ∧
      glbtimeIsexpired (ctx.connections i).timing.deadline
        ((ctx.connections i).timing.now cfg env) = true := by
  obtain ⟨t', m, hlast, hmark, hbackoff, hle, hm⟩ := hI rule hrule
  obtain rfl : t' = t := congrArg Prod.snd (Option.some_inj.1 (hlast.symm.trans hstart))
  have hset : (ctx.connections i).timing.deadline ≠ 0 := by omega
  have hcount := hbounded.count_le hrule
  have hdeadline := hbackoff.deadline_le
  have hfull : rule.limit ≤ (ctx.connections i).timing.count.toNat := by
    by_contra hretry
    -- the deadline before this pass was noticed in time, so the pass comes too early
    have hnow : (ctx.connections i).timing.now cfg env ≤
        (ctx.connections i).timing.later cfg env := now_le_later _ hclock
    have hpass := hserved.last hmark
    have hmark := hm hset
    have hsum := sum_interval_lt hrule (Nat.lt_of_not_le hretry)
    have hdelay := Nat.mul_le_mul_right delay (Nat.lt_of_not_le hretry)
    rw [Nat.succ_mul] at hdelay
    omega
  rw [le_antisymm hcount hfull] at hdeadline
  refine ⟨hfull, ?_⟩
  simp only [glbtimeIsexpired, Bool.and_eq_true, bne_iff_ne, decide_eq_true_eq]
  exact ⟨hset, hdeadline.trans hlate⟩

/-- A pass over the timers of a slot without a timer leaves it closed. -/
theorem closed_of_timers (h : Step ctx (.timers i env) ctx')
    (hspent : ∀ rule, (ctx.connections i).state.timerRule = some rule →
      rule.limit ≤ (ctx.connections i).timing.count.toNat ∧
        glbtimeIsexpired (ctx.connections i).timing.deadline
          ((ctx.connections i).timing.now cfg env) = true) :
    (ctx'.connections i).state = .closed := by
  have hstep := timing_step h i
  show (ctx'.connections i).timing.state = .closed
  generalize (ctx'.connections i).timing = tm at hstep
  rcases hstep with hstart | ⟨-, hop⟩ | - | hidle | ⟨hrule, -, hlimit⟩ | -
  · cases hstart
  · exact absurd rfl (hop env)
  · show (ctx.connections i).state = .closed
    cases hs : (ctx.connections i).state with
    | closed => rfl
    | _ =>
      have hrule : (ctx.connections i).state.timerRule = some _ := congrArg _ hs
      exact absurd ((hspent _ hrule).2.symm.trans (hidle _ hrule)) (by decide)
  · exact absurd (hspent _ hrule).1 (Nat.not_le.2 hlimit)
  · rfl

/-- **A silent peer is noticed in time.** Consider a run in which the clock does not go back and the
timers of slot `i` are served often enough, and the pass of the timers that follows it. If a timer
of the slot was started last for state `s`, at `t` milliseconds, the slot is closed after the pass

* if `s` is SYN_SENT, SYN_RCVD or FIN_SENT, and the pass comes `1500 + 5 * delay` milliseconds after
  `t` or later,
* if `s` is ESTABLISHED, and the pass comes `9200 + 9 * delay` milliseconds after `t` or later. -/
theorem timeout_on_time (hrun : Run ts ctx) (hclock : ∀ x ∈ ts, x.2.1.Chronological)
    (h : Step ctx (.timers i env) ctx') (henv : Monotone env.clock)
    (hserved : Served i delay (ts ++ [(ctx, .timers i env, ctx')])) {s : GLBConnState} {t : ℕ}
    (hstart : lastStart i ts = some (s, t)) (ht : 0 < t) :
    (s ≠ .established → t + 1500 + 5 * delay ≤ env.clock 0 →
      (ctx'.connections i).state = .closed) ∧
    (s = .established → t + 9200 + 9 * delay ≤ env.clock (2 * cfg.channelCount + 2) →
      (ctx'.connections i).state = .closed) := by
  have hprompt := prompt_of_run hrun hclock (Punctual.init hserved)
  have hbounded := (timed_of_run hrun hclock i).bounded
  have hstate : ∀ rule, (ctx.connections i).state.timerRule = some rule →
      (ctx.connections i).state = s := by
    intro rule hrule
    obtain ⟨t', -, hlast, -⟩ := hprompt rule hrule
    exact congrArg Prod.fst (Option.some_inj.1 (hlast.symm.trans hstart))
  refine ⟨fun hest hlate ↦ closed_of_timers h fun rule hrule ↦ ?_,
    fun hest hlate ↦ closed_of_timers h fun rule hrule ↦ ?_⟩
  · refine hprompt.spent hserved hbounded henv hrule hstart ht ?_
    have hne : (ctx.connections i).state ≠ .established := hstate rule hrule ▸ hest
    have hsum := retry_total hne hrule
    rw [now_of_ne hne, Timing.limit_of_ne hne hrule]
    rw [Timing.limit_of_ne hne hrule] at hsum
    rw [hsum]
    exact hlate
  · refine hprompt.spent hserved hbounded henv hrule hstart ht ?_
    have hs : (ctx.connections i).state = .established := (hstate rule hrule).trans hest
    rw [now_of_established hs]
    rw [hs] at hrule
    cases hrule
    exact hlate

/-- A client whose server does not answer, and whose timers are always served as late as a delay of
500 milliseconds allows: just before a deadline, so that it is not noticed, and 500 milliseconds
later. -/
def unansweredLate : List (Op Glbcfg.sampleClient) :=
  [.connect 1] ++ [501, 600, 1100, 1299, 1799, 2098, 2598, 2997, 3497, 3996].map fun now ↦
    .timers ⟨0, Nat.one_pos⟩ (Env.at now)

/-- At 3996 milliseconds it still waits, at 4001 it gives up. -/
theorem timeout_on_time_late : ∃ ts ctx ctx', @Run Glbcfg.sampleClient ts ctx ∧
    (ctx.connections ⟨0, by decide⟩).state = .synSent ∧
    Step ctx (.timers ⟨0, by decide⟩ (Env.at (1 + 1500 + 5 * 500))) ctx' ∧
    (ctx'.connections ⟨0, by decide⟩).state = .closed := by
  have hend : (Execution.perform step unansweredLate (init _)).bind (fun r ↦
      (r.2.step (.timers ⟨0, by decide⟩ (Env.at 4001))).map fun ctx' ↦
        ((r.2.connections ⟨0, by decide⟩).state, lastStart ⟨0, by decide⟩ r.1,
          decide (Served ⟨0, by decide⟩ 500
            (r.1 ++ [(r.2, .timers ⟨0, by decide⟩ (Env.at 4001), ctx')])))) =
      some (.synSent, some (.synSent, 1), true) := by decide +kernel
  obtain ⟨r, hr, hend⟩ := Option.bind_eq_some_iff.1 hend
  obtain ⟨ctx', hstep, hend⟩ := Option.map_eq_some_iff.1 hend
  obtain ⟨hs, hend⟩ := Prod.mk.inj hend
  obtain ⟨hstart, hserved⟩ := Prod.mk.inj hend
  have hclock : ∀ x ∈ r.1, x.2.1.Chronological := by
    intro x hx
    have hmem := Execution.mem_of_perform hr x hx
    rcases List.mem_cons.1 hmem with hop | hmem
    · rw [hop]; trivial
    · obtain ⟨now, -, hop⟩ := List.mem_map.1 hmem
      rw [← hop]
      exact monotone_const
  obtain ⟨hclosed, -⟩ := timeout_on_time (run_of_perform hr) hclock hstep monotone_const
    (of_decide_eq_true hserved) hstart Nat.one_pos
  exact ⟨r.1, r.2, ctx', run_of_perform hr, hs, hstep, hclosed (by decide) (le_refl _)⟩

end Glbctx

end Gilberta
