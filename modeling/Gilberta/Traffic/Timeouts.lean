import Gilberta.Foundations.Backoff
import Gilberta.Traffic.Attempts

/-!
# No connection is given up early

A timer closes a slot only when all its retries are used up, and since each retry waits longer than
the one before, this takes a while: 1500 milliseconds for SYN, SYN|ACK and FIN, 9200 for the
keepalive. `no_premature_timeout` says so for every run, counting the packets that were tried since
the timer was last started, whether or not `sendto` took them.

The invariant `Timed` ties the three things together that the handlers set independently of each
other: the retry counter, the deadline and the history. The time comes out of `Backoff.elapsed`.
That the clock does not go back is needed within one operation only, between the reading that finds
a timer due and the one its next deadline is counted from.
-/

namespace Gilberta

variable {cfg : Glbcfg}

/-- The clock does not go back while the operation is performed. -/
def Op.Chronological : Op cfg → Prop
  | .packet _ _ env | .timers _ env => Monotone env.clock
  | .connect _ | .close _ _ | .send _ _ | .pollevent | .popdata _ | .readError => True

namespace Glbctx

/-- Slot `i` last entered state `s`, or was refreshed in it, at some time `t` of the run `ts`. Since
then its timers have tried to send `n` packets with `flags`, and at `now` at least `elapsed`
milliseconds have passed. -/
def Waited (ts : List (Transition cfg)) (i : Fin cfg.connectionCount) (s : GLBConnState)
    (flags : UInt8) (n elapsed now : ℕ) : Prop :=
  ∃ t, CountSince (fun x : Transition cfg ↦ x.2.1.start x.1 i)
    (fun x ↦ x.2.1.attempts x.1 i flags) (s, t) n ts ∧ t + elapsed ≤ now

variable {ctx ctx' : Glbctx cfg} {op : Op cfg} {i : Fin cfg.connectionCount} {env : Env}
  {rule : TimerRule} {ts : List (Transition cfg)}

theorem le_of_isexpired {deadline now : ℕ} (h : glbtimeIsexpired deadline now = true) :
    deadline ≤ now := by
  simp only [glbtimeIsexpired, Bool.and_eq_true, decide_eq_true_eq] at h
  exact h.2

/-! ### The invariant -/

/-- The timer that runs under the timing `tm` of slot `i` was started at some time of the run, since
when it has tried to send as often as its counter says and its deadline has moved accordingly. -/
def Running (i : Fin cfg.connectionCount) (ts : List (Transition cfg)) (tm : Timing) : Prop :=
  ∀ rule, tm.state.timerRule = some rule → ∃ t,
    CountSince (fun x : Transition cfg ↦ x.2.1.start x.1 i)
      (fun x ↦ x.2.1.attempts x.1 i rule.flags) (tm.state, t) tm.count.toNat ts ∧
    Backoff rule.interval t tm.count.toNat tm.deadline

/-- A timer starts. -/
theorem running_enter {s : GLBConnState} {t : ℕ} (tm : Timing)
    (hstart : op.start ctx i = some (s, t)) :
    Running i (ts ++ [(ctx, op, ctx')]) (tm.enter s t) := by
  intro rule hrule
  rw [Timing.state_enter] at hrule
  rw [Timing.state_enter, Timing.count_enter, Timing.deadline_enter hrule]
  exact ⟨t, countSince_start hstart, .start⟩

/-- Nothing happens to the timer that runs. -/
theorem Running.kept {tm tm' : Timing} (hI : Running i ts tm) (hstart : op.start ctx i = none)
    (hattempts : ∀ rule, tm.state.timerRule = some rule → op.attempts ctx i rule.flags = 0)
    (hstate : tm'.state = tm.state) (hcount : tm'.count = tm.count)
    (hdeadline : tm'.deadline = tm.deadline) : Running i (ts ++ [(ctx, op, ctx')]) tm' := by
  intro rule hrule
  rw [hstate] at hrule
  obtain ⟨t, hsince, hbackoff⟩ := hI rule hrule
  have happend := CountSince.append (x := (ctx, op, ctx')) hsince hstart
  rw [hattempts rule hrule, add_zero] at happend
  rw [hstate, hcount, hdeadline]
  exact ⟨t, happend, hbackoff⟩

/-- The timer that runs is retried. -/
theorem Running.again {tm : Timing} (hI : Running i ts tm) (hstart : op.start ctx i = none)
    (hrule : tm.state.timerRule = some rule) (hattempts : op.attempts ctx i rule.flags = 1)
    (hlimit : tm.count.toNat < rule.limit) {now later : ℕ} (hexpired : tm.deadline ≤ now)
    (hlater : now ≤ later) : Running i (ts ++ [(ctx, op, ctx')])
      (tm.again (later + rule.interval (tm.count.toNat + 1))) := by
  intro rule' hrule'
  rw [Timing.state_again] at hrule'
  obtain rfl : rule = rule' := Option.some_inj.1 (hrule.symm.trans hrule')
  obtain ⟨t, hsince, hbackoff⟩ := hI rule hrule
  have happend := CountSince.append (x := (ctx, op, ctx')) hsince hstart
  rw [hattempts] at happend
  rw [Timing.state_again, Timing.count_again hrule hlimit, Timing.deadline_again]
  exact ⟨t, happend, .retry hbackoff hexpired hlater⟩

theorem not_running_close (tm : Timing) : Running i ts tm.close := nofun

/-- The clock reading a timer is compared with comes before the one its next deadline is counted
from. -/
theorem now_le_later (tm : Timing) (hclock : Monotone env.clock) :
    tm.now cfg env ≤ tm.later cfg env := by
  refine hclock ?_
  split <;> omega

/-- What one step makes of the timer that runs. -/
theorem running_step {tm : Timing} (hI : Running i ts (ctx.connections i).timing)
    (hsound : Sound ctx) (h : Step ctx op ctx') (hclock : op.Chronological)
    (hstep : TimingStep ctx i op tm) : Running i (ts ++ [(ctx, op, ctx')]) tm := by
  rcases hstep with hstart | ⟨hstart, hop, hstate, hretry, htime, hkeepalive⟩ | - | hidle |
    ⟨hrule, hexpired, hlimit⟩ | -
  · exact running_enter _ hstart
  · have hkept : (ctx.connections i).state = .established →
        tm.keepaliveRetry = (ctx.connections i).keepaliveRetry ∧
          tm.keepalive = (ctx.connections i).keepalive :=
      fun hest ↦ hkeepalive.resolve_right fun h ↦ h.2 hest
    refine hI.kept hstart (fun rule _ ↦ attempts_eq_zero hop _) hstate ?_ ?_
    · by_cases hest : (ctx.connections i).state = .established
      · exact (if_pos (hstate.trans hest)).trans ((hkept hest).1.trans (if_pos hest).symm)
      · exact (if_neg (hstate.symm ▸ hest)).trans (hretry.trans (if_neg hest).symm)
    · by_cases hest : (ctx.connections i).state = .established
      · exact (if_pos (hstate.trans hest)).trans ((hkept hest).2.trans (if_pos hest).symm)
      · exact (if_neg (hstate.symm ▸ hest)).trans (htime.trans (if_neg hest).symm)
  · exact not_running_close _
  · refine hI.kept rfl (fun rule hrule ↦ ?_) rfl rfl rfl
    rw [attempts_timers hsound h hrule, if_neg fun hdue ↦ ?_]
    exact absurd (hdue.1.symm.trans (hidle rule hrule)) (by decide)
  · refine hI.again rfl hrule ?_ hlimit (le_of_isexpired hexpired) (now_le_later _ hclock)
    rw [attempts_timers hsound h hrule, if_pos ⟨hexpired, hlimit⟩]
  · exact not_running_close _

/-- What is true of slot `i` after a run. -/
structure Timed (i : Fin cfg.connectionCount) (ts : List (Transition cfg)) (ctx : Glbctx cfg) :
    Prop where
  /-- The send queues hold messages. -/
  sound : Sound ctx
  /-- The counters are within their limits. -/
  bounded : (ctx.connections i).timing.Bounded
  /-- The timer that runs. -/
  running : Running i ts (ctx.connections i).timing

theorem timed_init : Timed i [] (init cfg) where
  sound := sound_init
  bounded := ⟨Nat.zero_le _, Nat.zero_le _⟩
  running := nofun

theorem timed_step (hI : Timed i ts ctx) (h : Step ctx op ctx') (hclock : op.Chronological) :
    Timed i (ts ++ [(ctx, op, ctx')]) ctx' where
  sound := sound_step hI.sound h
  bounded := (timing_step h i).bounded hI.bounded
  running := running_step hI.running hI.sound h hclock (timing_step h i)

theorem timed_of_run (hrun : Run ts ctx) (hclock : ∀ x ∈ ts, x.2.1.Chronological)
    (i : Fin cfg.connectionCount) : Timed i ts ctx :=
  hrun.invariant (fun _ _ _ _ hI h hx ↦ timed_step hI h hx) timed_init hclock

/-! ### Giving up -/

/-- A timer that closes a slot is due and has no retries left. -/
theorem gaveUp_of_closed (h : Step ctx (.timers i env) ctx')
    (hclosed : (ctx'.connections i).state = .closed)
    (hrule : (ctx.connections i).state.timerRule = some rule) :
    (ctx.connections i).timing.deadline ≤ (ctx.connections i).timing.now cfg env ∧
      rule.limit ≤ (ctx.connections i).timing.count.toNat := by
  have hstep := timing_step h i
  have hstate : (ctx'.connections i).timing.state = .closed := hclosed
  generalize (ctx'.connections i).timing = tm at hstep hstate
  have hrunning : (ctx.connections i).state ≠ .closed := by
    intro hs
    rw [hs] at hrule
    cases hrule
  -- of all that can happen to the timing of a slot only the last closes it in a pass of its timers
  rcases hstep with hstart | ⟨-, hop⟩ | - | hidle | ⟨hrule', -⟩ | ⟨hrule', hexpired, hlimit⟩
  · cases hstart
  · exact absurd rfl (hop env)
  · exact absurd hstate hrunning
  · rw [Timing.state_again] at hstate
    exact absurd hstate hrunning
  · obtain rfl := Option.some_inj.1 (hrule'.symm.trans hrule)
    exact ⟨le_of_isexpired hexpired, hlimit⟩

/-- The timer of a slot closes it only after it has run through all its intervals. -/
theorem Timed.waited (hI : Timed i ts ctx) (h : Step ctx (.timers i env) ctx')
    (hclosed : (ctx'.connections i).state = .closed)
    (hrule : (ctx.connections i).state.timerRule = some rule) :
    Waited ts i (ctx.connections i).state rule.flags rule.limit
      (∑ k ∈ Finset.range (rule.limit + 1), rule.interval k)
      ((ctx.connections i).timing.now cfg env) := by
  obtain ⟨hdue, hlimit⟩ := gaveUp_of_closed h hclosed hrule
  have hcount : (ctx.connections i).timing.count.toNat = rule.limit :=
    le_antisymm (hI.bounded.count_le hrule) hlimit
  obtain ⟨t, hsince, hbackoff⟩ := hI.running rule hrule
  rw [hcount] at hsince hbackoff
  exact ⟨t, hsince, hbackoff.elapsed.trans hdue⟩

/-- The 100, 200, ... 500 milliseconds of SYN, SYN|ACK and FIN. -/
theorem Timed.waited_of_retry {s : GLBConnState} {flags : UInt8} (hI : Timed i ts ctx)
    (h : Step ctx (.timers i env) ctx') (hclosed : (ctx'.connections i).state = .closed)
    (hs : (ctx.connections i).state = s) (hrule : s.timerRule = some (.retry flags))
    (hest : s ≠ .established) : Waited ts i s flags 5 1500 (env.clock 0) := by
  subst hs
  have hsum : ∑ k ∈ Finset.range (5 + 1), glbRetryTimeout * k = 1500 := by decide
  have hwaited := hI.waited h hclosed hrule
  rw [now_of_ne hest] at hwaited
  rw [← hsum]
  exact hwaited

/-- **No premature timeout.** In every run in which the clock does not go back, for every slot:

* the retry counters are at most 5 and 9, so they never wrap;
* in SYN_SENT, SYN_RCVD and FIN_SENT the timer closes the slot only after exactly 5 SYN, SYN|ACK or
  FIN were tried since the last `glb_connect`, SYN or `glb_close` that put the slot into that state
  or refreshed it, and at least 1500 milliseconds after it;
* in ESTABLISHED the timer closes the slot only after exactly 9 PINGs were tried since it was
  established or the last PONG was handled, whichever is later, and at least 9200 milliseconds after
  that. -/
theorem no_premature_timeout (hrun : Run ts ctx) (hclock : ∀ x ∈ ts, x.2.1.Chronological)
    (i : Fin cfg.connectionCount) :
    ((ctx.connections i).retry.toNat ≤ 5 ∧ (ctx.connections i).keepaliveRetry.toNat ≤ 9) ∧
    ∀ env ctx', Step ctx (.timers i env) ctx' → (ctx'.connections i).state = .closed →
      ((ctx.connections i).state = .synSent →
        Waited ts i .synSent ctrlFlagSyn 5 1500 (env.clock 0)) ∧
      ((ctx.connections i).state = .synRcvd →
        Waited ts i .synRcvd ctrlFlagSynAck 5 1500 (env.clock 0)) ∧
      ((ctx.connections i).state = .finSent →
        Waited ts i .finSent ctrlFlagFin 5 1500 (env.clock 0)) ∧
      ((ctx.connections i).state = .established →
        Waited ts i .established ctrlFlagPing 9 9200 (env.clock (2 * cfg.channelCount + 2))) := by
  have hI := timed_of_run hrun hclock i
  refine ⟨hI.bounded, fun env ctx' h hclosed ↦ ⟨fun hs ↦ ?_, fun hs ↦ ?_, fun hs ↦ ?_, fun hs ↦ ?_⟩⟩
  · exact hI.waited_of_retry h hclosed hs rfl (by decide)
  · exact hI.waited_of_retry h hclosed hs rfl (by decide)
  · exact hI.waited_of_retry h hclosed hs rfl (by decide)
  · have hrule : (ctx.connections i).state.timerRule = some .keepalive := by rw [hs]; rfl
    have hsum : ∑ k ∈ Finset.range (9 + 1), glbKeepaliveTime * max 1 k = 9200 := by decide
    have hwaited := hI.waited h hclosed hrule
    rw [hs, now_of_established hs] at hwaited
    rw [← hsum]
    exact hwaited

/-- A client whose server does not answer: five SYNs, at 1, 101, 301, 601 and 1001 milliseconds. -/
def unanswered : List (Op Glbcfg.sampleClient) :=
  [.connect 1] ++ [1, 101, 301, 601, 1001].map fun now ↦ .timers ⟨0, Nat.one_pos⟩ (Env.at now)

/-- It gives up at 1501 milliseconds. -/
theorem no_premature_timeout_unanswered : ∃ ts ctx, @Run Glbcfg.sampleClient ts ctx ∧
    (ctx.sock.map fun d ↦ d.pkg.header.ctrlFlags) = List.replicate 5 ctrlFlagSyn ∧
    ∃ ctx', Step ctx (.timers ⟨0, by decide⟩ (Env.at 1501)) ctx' ∧
      (ctx'.connections ⟨0, by decide⟩).state = .closed ∧
      Waited ts ⟨0, by decide⟩ .synSent ctrlFlagSyn 5 1500 1501 := by
  have hend : (Execution.perform step unanswered (init _)).bind (fun r ↦
      (r.2.step (.timers ⟨0, by decide⟩ (Env.at 1501))).map fun ctx' ↦
        (r.2.sock.map fun d ↦ d.pkg.header.ctrlFlags, (r.2.connections ⟨0, by decide⟩).state,
          (ctx'.connections ⟨0, by decide⟩).state)) =
      some (List.replicate 5 ctrlFlagSyn, .synSent, .closed) := by decide +kernel
  obtain ⟨r, hr, hend⟩ := Option.bind_eq_some_iff.1 hend
  obtain ⟨ctx', hstep, hend⟩ := Option.map_eq_some_iff.1 hend
  obtain ⟨hsock, hend⟩ := Prod.mk.inj hend
  obtain ⟨hs, hclosed⟩ := Prod.mk.inj hend
  have hclock : ∀ x ∈ r.1, x.2.1.Chronological := by
    intro x hx
    have hmem := Execution.mem_of_perform hr x hx
    rcases List.mem_cons.1 hmem with hop | hmem
    · rw [hop]; trivial
    · obtain ⟨now, -, hop⟩ := List.mem_map.1 hmem
      rw [← hop]
      exact monotone_const
  obtain ⟨-, htimeout⟩ := no_premature_timeout (run_of_perform hr) hclock ⟨0, by decide⟩
  exact ⟨r.1, r.2, run_of_perform hr, hsock, ctx', hstep, hclosed,
    (htimeout _ ctx' hstep hclosed).1 hs⟩

end Glbctx

end Gilberta
