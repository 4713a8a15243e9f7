import Gilberta.Effects.Locality

/-!
# The timers of a slot

In every state but CLOSED a slot has one timer that matters: it sends SYN, SYN|ACK, FIN or PING
again and again, waits longer each time, and closes the slot when its retries are used up
(`GLBConnState.timerRule`). The handshake and close timers share a counter and a deadline, the
keepalive has its own, and the handlers set them when a slot enters a state or hears from its peer
(`Op.start`).

`timing_step` lists what one step can do to these fields. It is the only place where the handlers
are opened for their sake.
-/

namespace Gilberta

variable {cfg : Glbcfg}

/-- The fields of a slot its timers work with. -/
structure Timing where
  /-- Connection state. -/
  state : GLBConnState
  /-- Retry count of the handshake and close timers. -/
  retry : UInt8
  /-- Deadline of the handshake and close timers. -/
  time : ℕ
  /-- Retry count of the keepalive. -/
  keepaliveRetry : UInt8
  /-- Deadline of the keepalive. -/
  keepalive : ℕ

/-- The timing of a slot. -/
def Glbconn.timing (con : Glbconn cfg) : Timing :=
  ⟨con.state, con.retry, con.time, con.keepaliveRetry, con.keepalive⟩

/-- How the timer of a state works. -/
structure TimerRule where
  /-- What it sends. -/
  flags : UInt8
  /-- How often it sends before it closes the slot. -/
  limit : ℕ
  /-- How long it waits after the start, the first retry, the second one and so on. -/
  interval : ℕ → ℕ

/-- A timer of a handshake or of closing: the first deadline is the start itself. -/
def TimerRule.retry (flags : UInt8) : TimerRule where
  flags := flags
  limit := glbMaxRetry
  interval n := glbRetryTimeout * n

/-- The keepalive: the source compares its count with `>`, so it sends once more than
`GLB_KEEPALIVE_RETRY` says. -/
def TimerRule.keepalive : TimerRule where
  flags := ctrlFlagPing
  limit := glbKeepaliveRetry + 1
  interval n := glbKeepaliveTime * max 1 n

/-- The timer that runs in a state; none does in CLOSED. -/
def GLBConnState.timerRule : GLBConnState → Option TimerRule
  | .closed => none
  | .synSent => some (.retry ctrlFlagSyn)
  | .synRcvd => some (.retry ctrlFlagSynAck)
  | .finSent => some (.retry ctrlFlagFin)
  | .established => some .keepalive

namespace Timing

variable (tm : Timing)

/-- How often the timer that runs has sent. -/
def count : UInt8 := if tm.state = .established then tm.keepaliveRetry else tm.retry

/-- When the timer that runs is due. -/
def deadline : ℕ := if tm.state = .established then tm.keepalive else tm.time

/-- The clock reading the timer that runs is compared with. -/
def now (cfg : Glbcfg) (env : Env) : ℕ :=
  env.clock (if tm.state = .established then 2 * cfg.channelCount + 2 else 0)

/-- The clock reading its next deadline is counted from. -/
def later (cfg : Glbcfg) (env : Env) : ℕ :=
  env.clock (if tm.state = .established then 2 * cfg.channelCount + 4 else 1)

/-- The slot enters `s` at `t`, and its timer starts. -/
def enter (s : GLBConnState) (t : ℕ) : Timing :=
  if s = .established then
    { tm with state := s, keepaliveRetry := 0, keepalive := glbtimeStart t glbKeepaliveTime }
  else { tm with state := s, retry := 0, time := glbtimeStart t 0 }

/-- The timer that runs has sent, and waits until `t`. -/
def again (t : ℕ) : Timing :=
  if tm.state = .established then
    { tm with keepaliveRetry := tm.keepaliveRetry + 1, keepalive := t }
  else { tm with retry := tm.retry + 1, time := t }

/-- The slot is closed. -/
def close : Timing := { tm with state := .closed }

/-- The counters are within the limits of the timers. -/
def Bounded : Prop :=
  tm.retry.toNat ≤ glbMaxRetry ∧ tm.keepaliveRetry.toNat ≤ glbKeepaliveRetry + 1

end Timing

namespace Timing

variable {tm : Timing} {rule : TimerRule} {s : GLBConnState} {t : ℕ}

/-! ### Starting and retrying -/

@[simp] theorem state_enter : (tm.enter s t).state = s := by
  unfold enter
  split <;> rfl

@[simp] theorem state_again : (tm.again t).state = tm.state := by
  unfold again
  split <;> rfl

theorem count_enter : (tm.enter s t).count = 0 := by
  unfold count
  rw [state_enter, enter]
  split <;> rfl

/-- The first deadline is the first interval of the rule. -/
theorem deadline_enter (hrule : s.timerRule = some rule) :
    (tm.enter s t).deadline = t + rule.interval 0 := by
  unfold deadline
  rw [state_enter, enter]
  cases s <;> cases hrule <;> rfl

theorem deadline_again : (tm.again t).deadline = t := by
  unfold deadline
  rw [state_again, again]
  split <;> rfl

theorem limit_le (hrule : s.timerRule = some rule) : rule.limit ≤ 9 := by
  cases s <;> cases hrule <;> decide

theorem limit_of_ne (hest : s ≠ .established) (hrule : s.timerRule = some rule) :
    rule.limit = glbMaxRetry := by
  cases s <;> cases hrule
  · exact absurd rfl hest
  all_goals rfl

theorem toNat_add_one {a : UInt8} {n : ℕ} (h : a.toNat < n) (hn : n ≤ 9) :
    (a + 1).toNat = a.toNat + 1 := by
  rw [UInt8.toNat_add]
  exact Nat.mod_eq_of_lt (by have : (1 : UInt8).toNat = 1 := rfl; omega)

theorem count_again (hrule : s.timerRule = some rule) (hlimit : tm.count.toNat < rule.limit) :
    (tm.again t).count.toNat = tm.count.toNat + 1 := by
  have hcount : (tm.again t).count = tm.count + 1 := by
    unfold count
    rw [state_again, again]
    split <;> rfl
  rw [hcount, toNat_add_one hlimit (limit_le hrule)]

/-- The timer that runs has sent no more than its rule allows. -/
theorem Bounded.count_le (h : tm.Bounded) (hrule : tm.state.timerRule = some rule) :
    tm.count.toNat ≤ rule.limit := by
  unfold count
  split
  · next hest =>
    rw [hest] at hrule
    cases hrule
    exact h.2
  · next hest =>
    rw [limit_of_ne hest hrule]
    exact h.1

theorem bounded_enter (h : tm.Bounded) (s : GLBConnState) (t : ℕ) : (tm.enter s t).Bounded := by
  unfold enter
  split
  · exact ⟨h.1, Nat.zero_le _⟩
  · exact ⟨Nat.zero_le _, h.2⟩

theorem bounded_again (h : tm.Bounded) (hrule : tm.state.timerRule = some rule)
    (hlimit : tm.count.toNat < rule.limit) (t : ℕ) : (tm.again t).Bounded := by
  have hle : (tm.again t).count.toNat ≤ rule.limit := by
    rw [count_again hrule hlimit]
    exact hlimit
  unfold count at hle
  rw [state_again, again] at hle
  rw [again]
  split
  · next hest =>
    rw [hest] at hrule
    cases hrule
    exact ⟨h.1, by simpa [hest, TimerRule.keepalive] using hle⟩
  · next hest =>
    rw [limit_of_ne hest hrule] at hle
    exact ⟨by simpa [hest] using hle, h.2⟩

end Timing

/-! ### When a timer starts -/

instance (p : Glbpkg) (ctx : Glbctx cfg) (from_ : Glbaddr) (i : Fin cfg.connectionCount) :
    Decidable (p.IsAbout ctx from_ i) := by
  unfold Glbpkg.IsAbout
  infer_instance

/-- What a packet starts on the slot it is about: the state it enters, or stays in, and when. A SYN
starts the timer of a slot that is not established, the ACK and the answered SYN|ACK establish it,
and a PONG starts the keepalive again. -/
def Glbpkg.start (p : Glbpkg) (state : GLBConnState) (env : Env) : Option (GLBConnState × ℕ) :=
  if p.IsSyn then
    if state = .established then none else some (.synRcvd, env.clock 0)
  else if p.header.ctrlFlags = ctrlFlagAck ∧ state = .synRcvd then
    some (.established, env.clock 0)
  else if p.header.ctrlFlags = ctrlFlagSynAck ∧ state ≠ .established ∧ env.sendOk 0 = true then
    some (.established, env.clock 0)
  else if p.header.ctrlFlags = ctrlFlagPong ∧ state = .established then
    some (.established, env.clock 1)
  else none

/-- What an operation starts on slot `i`: the state it enters, or stays in, and when. -/
def Op.start (ctx : Glbctx cfg) (i : Fin cfg.connectionCount) : Op cfg → Option (GLBConnState × ℕ)
  | .connect now => if i.val = 0 ∧ cfg.inetAddr.isSome then some (.synSent, now) else none
  | .close j now =>
    if i = j ∧ (ctx.connections i).state = .established then some (.finSent, now) else none
  | .packet pkg from_ env =>
    if pkg.IsAbout ctx from_ i then pkg.start (ctx.connections i).state env else none
  | .send _ _ | .pollevent | .popdata _ | .readError | .timers _ _ => none

namespace Glbctx

variable {ctx ctx' : Glbctx cfg} {i : Fin cfg.connectionCount} {pkg : Glbpkg} {from_ : Glbaddr}
  {env : Env}

/-- What an operation makes of the timing of slot `i`. -/
inductive TimingStep (ctx : Glbctx cfg) (i : Fin cfg.connectionCount) : Op cfg → Timing → Prop
  /-- The timer of a state starts. -/
  | started {op : Op cfg} {s : GLBConnState} {t : ℕ} (hstart : op.start ctx i = some (s, t)) :
      TimingStep ctx i op ((ctx.connections i).timing.enter s t)
  /-- The timer that runs, if any, is left alone. -/
  | kept {op : Op cfg} {tm : Timing} (hstart : op.start ctx i = none)
      (hop : ∀ env, op ≠ .timers i env) (hstate : tm.state = (ctx.connections i).state)
      (hretry : tm.retry = (ctx.connections i).retry) (htime : tm.time = (ctx.connections i).time)
      (hkeepalive : tm.keepaliveRetry = (ctx.connections i).keepaliveRetry ∧
          tm.keepalive = (ctx.connections i).keepalive ∨
        tm.keepaliveRetry = 0 ∧ (ctx.connections i).state ≠ .established) :
      TimingStep ctx i op tm
  /-- A packet closes the slot. -/
  | closed {pkg : Glbpkg} {from_ : Glbaddr} {env : Env}
      (hstart : (Op.packet pkg from_ env : Op cfg).start ctx i = none) :
      TimingStep ctx i (.packet pkg from_ env) (ctx.connections i).timing.close
  /-- No timer runs, or it is not due. -/
  | idle {env : Env} (hidle : ∀ rule, (ctx.connections i).state.timerRule = some rule →
        glbtimeIsexpired (ctx.connections i).timing.deadline
          ((ctx.connections i).timing.now cfg env) = false) :
      TimingStep ctx i (.timers i env) (ctx.connections i).timing
  /-- The timer is due and has retries left. -/
  | again {env : Env} {rule : TimerRule}
      (hrule : (ctx.connections i).state.timerRule = some rule)
      (hexpired : glbtimeIsexpired (ctx.connections i).timing.deadline
        ((ctx.connections i).timing.now cfg env) = true)
      (hlimit : (ctx.connections i).timing.count.toNat < rule.limit) :
      TimingStep ctx i (.timers i env) ((ctx.connections i).timing.again
        ((ctx.connections i).timing.later cfg env +
          rule.interval ((ctx.connections i).timing.count.toNat + 1)))
  /-- The timer is due and its retries are used up. -/
  | gaveUp {env : Env} {rule : TimerRule}
      (hrule : (ctx.connections i).state.timerRule = some rule)
      (hexpired : glbtimeIsexpired (ctx.connections i).timing.deadline
        ((ctx.connections i).timing.now cfg env) = true)
      (hlimit : rule.limit ≤ (ctx.connections i).timing.count.toNat) :
      TimingStep ctx i (.timers i env) (ctx.connections i).timing.close

/-- The timing of the slot is as it was. -/
theorem TimingStep.same {op : Op cfg} {tm : Timing} (hstart : op.start ctx i = none)
    (hop : ∀ env, op ≠ .timers i env) (h : tm = (ctx.connections i).timing) :
    TimingStep ctx i op tm := by
  subst h
  exact .kept hstart hop rfl rfl rfl (Or.inl ⟨rfl, rfl⟩)

/-- An operation that is not about a slot starts nothing there. -/
theorem start_of_not_isAbout {op : Op cfg} (h : ¬ op.IsAbout ctx i) : op.start ctx i = none := by
  cases op with
  | connect now => exact if_neg fun hi ↦ h hi.1
  | close j now => exact if_neg fun hi ↦ h hi.1
  | packet pkg from_ env => exact if_neg h
  | _ => rfl

theorem start_of_isAbout (h : pkg.IsAbout ctx from_ i) :
    (Op.packet pkg from_ env : Op cfg).start ctx i = pkg.start (ctx.connections i).state env :=
  if_pos h

/-! ### Which fields belong to the timer that runs -/

theorem count_of_established (hest : (ctx.connections i).state = .established) :
    (ctx.connections i).timing.count = (ctx.connections i).keepaliveRetry := if_pos hest

theorem deadline_of_established (hest : (ctx.connections i).state = .established) :
    (ctx.connections i).timing.deadline = (ctx.connections i).keepalive := if_pos hest

theorem now_of_established (hest : (ctx.connections i).state = .established) :
    (ctx.connections i).timing.now cfg env = env.clock (2 * cfg.channelCount + 2) :=
  congrArg env.clock (if_pos hest)

theorem count_of_ne (hest : (ctx.connections i).state ≠ .established) :
    (ctx.connections i).timing.count = (ctx.connections i).retry := if_neg hest

theorem deadline_of_ne (hest : (ctx.connections i).state ≠ .established) :
    (ctx.connections i).timing.deadline = (ctx.connections i).time := if_neg hest

theorem now_of_ne (hest : (ctx.connections i).state ≠ .established) :
    (ctx.connections i).timing.now cfg env = env.clock 0 := congrArg env.clock (if_neg hest)

/-! ### The calls -/

theorem timing_setChan (c : Fin cfg.channelCount) (chan : Glbchannel)
    (j : Fin cfg.connectionCount) :
    ((ctx.setChan i c chan).connections j).timing = (ctx.connections j).timing := by
  by_cases hj : j = i
  · subst hj
    rw [setChan, connections_setCon_self]
    rfl
  · rw [setChan, connections_setCon_of_ne _ _ hj]

theorem timing_glbConnect {now : ℕ} {code : GLBErrorCode} (hi : i.val = 0)
    (h : ctx.glbConnect now = some (code, ctx')) :
    TimingStep ctx i (.connect now) (ctx'.connections i).timing := by
  rw [glbConnect] at h
  split at h
  case isFalse => cases h
  next hpos =>
  obtain rfl : i = ⟨0, hpos⟩ := Fin.ext hi
  rcases haddr : cfg.inetAddr with - | addr <;> simp only [haddr] at h <;> cases h
  · -- the address cannot be parsed: the state stays, and nothing starts
    refine .same ?_ (fun _ h ↦ by cases h) ?_
    · simp [Op.start, haddr]
    · simp [generateSeq, Glbconn.timing]
  · have hstart : (Op.connect now : Op cfg).start ctx ⟨0, hpos⟩ = some (.synSent, now) := by
      simp [Op.start, haddr]
    convert TimingStep.started hstart using 1
    simp [generateSeq, Glbconn.timing, Timing.enter]

theorem timing_glbClose (now : ℕ) :
    TimingStep ctx i (.close i now) (((ctx.glbClose i now).2.connections i).timing) := by
  by_cases hest : (ctx.connections i).state = .established
  · have hstart : (Op.close i now : Op cfg).start ctx i = some (.finSent, now) :=
      if_pos ⟨rfl, hest⟩
    convert TimingStep.started hstart using 1
    simp [glbClose, hest, Glbconn.timing, Timing.enter]
  · refine .same (if_neg fun h ↦ hest h.2) (fun _ h ↦ by cases h) ?_
    rw [glbClose, if_pos hest]

/-! ### The branches of the receive loop -/

/-- Only SYN, ACK, SYN|ACK and PONG start a timer. -/
theorem start_eq_none {state : GLBConnState} (hsyn : ¬ pkg.IsSyn)
    (hack : pkg.header.ctrlFlags ≠ ctrlFlagAck) (hsynAck : pkg.header.ctrlFlags ≠ ctrlFlagSynAck)
    (hpong : pkg.header.ctrlFlags ≠ ctrlFlagPong) : pkg.start state env = none := by
  rw [Glbpkg.start, if_neg hsyn, if_neg fun h ↦ hack h.1, if_neg fun h ↦ hsynAck h.1,
    if_neg fun h ↦ hpong h.1]

theorem timing_openSyn (habout : pkg.IsAbout ctx from_ i) (hsyn : pkg.IsSyn)
    (hstate : (ctx.connections i).state ≠ .established) :
    TimingStep ctx i (.packet pkg from_ env)
      ((ctx.connections i).timing.enter .synRcvd (env.clock 0)) := by
  refine .started ?_
  rw [start_of_isAbout habout, Glbpkg.start, if_pos hsyn, if_neg hstate]

theorem timing_onSyn (habout : pkg.IsAbout ctx from_ i) (hsyn : pkg.IsSyn) :
    TimingStep ctx i (.packet pkg from_ env)
      ((ctx.onSyn pkg from_ env).connections i).timing := by
  have hslot : ctx.synSlot from_ = some i := (Glbpkg.isAbout_of_syn hsyn).1 habout
  rcases haddr : ctx.findConnByAddr from_ with - | j <;> simp only [synSlot, haddr] at hslot
  · rcases hempty : ctx.findEmptyConn with - | ⟨k, ctx₁⟩ <;> rw [hempty] at hslot <;> cases hslot
    obtain ⟨hclosed, rfl⟩ := findEmptyConn_eq_some hempty
    have hne : (ctx.connections k).state ≠ .established := by rw [hclosed]; decide
    convert timing_openSyn habout hsyn hne using 1
    simp only [onSyn, haddr, hempty]
    rw [openSyn_of_ne (by simp [generateSeq, generateClientId_eq, hclosed])]
    simp [generateSeq, generateClientId_eq, Glbconn.timing, Timing.enter]
  · obtain rfl : j = i := Option.some_inj.1 hslot
    simp only [onSyn, haddr]
    by_cases hest : (ctx.connections j).state = .established
    · refine .same ?_ (fun _ h ↦ by cases h) ?_
      · rw [start_of_isAbout habout, Glbpkg.start, if_pos hsyn, if_pos hest]
      · rw [openSyn, if_pos hest]
    · convert timing_openSyn habout hsyn hest using 1
      rw [openSyn_of_ne hest]
      simp [Glbconn.timing, Timing.enter]

theorem timing_onAck (habout : pkg.IsAbout ctx from_ i) (hfind : pkg.Finds ctx i)
    (hflags : pkg.header.ctrlFlags = ctrlFlagAck) (h : ctx.onAck pkg env = some ctx') :
    TimingStep ctx i (.packet pkg from_ env) (ctx'.connections i).timing := by
  have hsyn : ¬ pkg.IsSyn := fun hsyn ↦ absurd (hflags.symm.trans hsyn.1) (by decide)
  by_cases hstate : (ctx.connections i).state = .synRcvd
  · have hstart : (Op.packet pkg from_ env : Op cfg).start ctx i =
        some (.established, env.clock 0) := by
      rw [start_of_isAbout habout, Glbpkg.start, if_neg hsyn, if_pos ⟨hflags, hstate⟩]
    obtain ⟨chs, a', -, hb⟩ := onAck_of_synRcvd hfind hstate h
    convert TimingStep.started hstart using 1
    rw [hb.self]
    rfl
  · have hfind : ctx.findConn pkg.header.clientGen pkg.header.clientId = some i := hfind
    simp only [onAck, hfind] at h
    rw [if_pos hstate] at h
    cases h
    refine .same ?_ (fun _ h ↦ by cases h) rfl
    rw [start_of_isAbout habout, Glbpkg.start, if_neg hsyn, if_neg fun h ↦ hstate h.2,
      if_neg (fun h ↦ absurd (hflags.symm.trans h.1) (by decide)),
      if_neg (fun h ↦ absurd (hflags.symm.trans h.1) (by decide))]

theorem timing_onSynAck (habout : pkg.IsAbout ctx from_ i)
    (hflags : pkg.header.ctrlFlags = ctrlFlagSynAck) (h : ctx.onSynAck pkg env = some ctx') :
    TimingStep ctx i (.packet pkg from_ env) (ctx'.connections i).timing := by
  have hsyn : ¬ pkg.IsSyn := fun hsyn ↦ absurd (hflags.symm.trans hsyn.1) (by decide)
  have hi : i.val = 0 := (Glbpkg.isAbout_of_synAck hflags).1 habout
  have hpos : 0 < cfg.connectionCount := hi ▸ i.isLt
  obtain rfl : i = ⟨0, hpos⟩ := Fin.ext hi
  have hstart : (Op.packet pkg from_ env : Op cfg).start ctx ⟨0, hpos⟩ =
      if (ctx.connections ⟨0, hpos⟩).state ≠ .established ∧ env.sendOk 0 = true then
        some (.established, env.clock 0) else none := by
    rw [start_of_isAbout habout, Glbpkg.start, if_neg hsyn,
      if_neg (fun h ↦ absurd (hflags.symm.trans h.1) (by decide))]
    simp only [hflags, true_and]
    split
    · rfl
    · exact if_neg fun h ↦ absurd h.1 (by decide)
  by_cases hest : (ctx.connections ⟨0, hpos⟩).state = .established
  · refine .same ?_ (fun _ h ↦ by cases h) ?_
    · rw [hstart, if_neg fun h ↦ h.1 hest]
    · rw [(onSynAck_of_established hest h).self]
  obtain ⟨chs, a', -, hb⟩ := onSynAck_of_ne hest h
  cases hok : env.sendOk 0 with
  | true =>
    convert TimingStep.started (hstart.trans (if_pos ⟨hest, hok⟩)) using 1
    rw [hb.self]
    simp [hok, Glbconn.timing, Timing.enter]
  | false =>
    -- the answer did not leave: the keepalive is set although the slot is not established
    refine .kept (hstart.trans (if_neg fun h ↦ absurd (hok.symm.trans h.2) (by decide)))
      (fun _ h ↦ by cases h) ?_ ?_ ?_ (Or.inr ⟨?_, hest⟩) <;>
      rw [hb.self] <;> simp [Glbconn.timing, hok]

theorem timing_onPong (habout : pkg.IsAbout ctx from_ i) (hfind : pkg.Finds ctx i)
    (hflags : pkg.header.ctrlFlags = ctrlFlagPong) :
    TimingStep ctx i (.packet pkg from_ env) ((ctx.onPong pkg env).connections i).timing := by
  have hsyn : ¬ pkg.IsSyn := fun hsyn ↦ absurd (hflags.symm.trans hsyn.1) (by decide)
  have hstart : (Op.packet pkg from_ env : Op cfg).start ctx i =
      if (ctx.connections i).state = .established then some (.established, env.clock 1)
      else none := by
    rw [start_of_isAbout habout, Glbpkg.start, if_neg hsyn,
      if_neg (fun h ↦ absurd (hflags.symm.trans h.1) (by decide)),
      if_neg (fun h ↦ absurd (hflags.symm.trans h.1) (by decide))]
    simp only [hflags, true_and]
  rw [connections_onPong hfind]
  by_cases hest : (ctx.connections i).state = .established
  · convert TimingStep.started (hstart.trans (if_pos hest)) using 1
    simp [Glbconn.timing, Timing.enter, hest]
  · exact .kept (hstart.trans (if_neg hest)) (fun _ h ↦ by cases h) rfl rfl rfl (Or.inr ⟨rfl, hest⟩)

/-- The DATA branch leaves the timing of every slot alone. -/
theorem timing_onData (h : ctx.onData pkg from_ env = some ctx') (j : Fin cfg.connectionCount) :
    (ctx'.connections j).timing = (ctx.connections j).timing := by
  rcases onData_effect h with ⟨rfl, _⟩ | ⟨_, _, _, _, rfl⟩ | @⟨k, _, _, _, _, _, _, rfl⟩ |
    @⟨k, _, _, _, _, _, hb, _⟩
  · rfl
  · rw [connections_glbioSend]
  · by_cases hj : j = k
    · subst hj
      rw [connections_setCon_self]
      rfl
    · rw [connections_setCon_of_ne _ _ hj]
  · by_cases hj : j = k
    · subst hj
      rw [hb.self]
      rfl
    · rw [hb.of_ne j hj]

/-- The DATA|ACK branch leaves the timing of every slot alone. -/
theorem timing_onDataAck (h : ctx.onDataAck pkg = some ctx') (j : Fin cfg.connectionCount) :
    (ctx'.connections j).timing = (ctx.connections j).timing := by
  rcases onDataAck_effect h with ⟨rfl, _⟩ | ⟨_, _, _, rfl⟩
  · rfl
  · exact timing_setChan _ _ _

/-- What a packet makes of the timing of the slot it is about. -/
theorem timing_handlePacket (habout : pkg.IsAbout ctx from_ i)
    (h : ctx.handlePacket pkg from_ env = some ctx') :
    TimingStep ctx i (.packet pkg from_ env) (ctx'.connections i).timing := by
  -- apart from SYN, ACK and SYN|ACK the slot is found by its id, and only PONG starts a timer
  have hfind : pkg.header.ctrlFlags ∉ [ctrlFlagSyn, ctrlFlagSynAck] → pkg.Finds ctx i := by
    intro hne
    simp only [List.mem_cons, List.not_mem_nil, or_false, not_or] at hne
    exact (Glbpkg.isAbout_iff_finds (fun hsyn ↦ hne.1 hsyn.1) hne.2).1 habout
  have hnone : pkg.header.ctrlFlags ∉ [ctrlFlagSyn, ctrlFlagAck, ctrlFlagSynAck, ctrlFlagPong] →
      (Op.packet pkg from_ env : Op cfg).start ctx i = none := by
    intro hne
    simp only [List.mem_cons, List.not_mem_nil, or_false, not_or] at hne
    obtain ⟨hsyn, hack, hsynAck, hpong⟩ := hne
    exact (start_of_isAbout habout).trans
      (start_eq_none (fun h ↦ hsyn h.1) hack hsynAck hpong)
  cases handlePacket_cases h with
  | syn hsyn => exact timing_onSyn habout hsyn
  | ack hflags h => exact timing_onAck habout (hfind (by rw [hflags]; decide)) hflags h
  | synAck hflags h => exact timing_onSynAck habout hflags h
  | fin hflags =>
    rw [connections_onFin (hfind (by rw [hflags]; decide))]
    split
    · exact .closed (hnone (by rw [hflags]; decide))
    · exact .same (hnone (by rw [hflags]; decide)) (fun _ h ↦ by cases h) rfl
  | finAck hflags =>
    rw [connections_onFinAck (hfind (by rw [hflags]; decide))]
    split
    · exact .closed (hnone (by rw [hflags]; decide))
    · exact .same (hnone (by rw [hflags]; decide)) (fun _ h ↦ by cases h) rfl
  | data hflags h =>
    exact .same (hnone (by rw [hflags]; decide)) (fun _ h ↦ by cases h) (timing_onData h i)
  | dataAck hflags h =>
    exact .same (hnone (by rw [hflags]; decide)) (fun _ h ↦ by cases h) (timing_onDataAck h i)
  | ping hflags =>
    refine .same (hnone (by rw [hflags]; decide)) (fun _ h ↦ by cases h) ?_
    rw [onPing, connections_glbioSend]
  | pong hflags => exact timing_onPong habout (hfind (by rw [hflags]; decide)) hflags
  | rst hflags =>
    rw [connections_onRst (hfind (by rw [hflags]; decide))]
    split <;> exact .closed (hnone (by rw [hflags]; decide))
  | ignored hsyn hflags =>
    simp only [handledFlags, List.mem_cons, List.not_mem_nil, or_false, not_or] at hflags
    obtain ⟨hack, hsynAck, -, -, -, -, -, hpong, -⟩ := hflags
    exact .same ((start_of_isAbout habout).trans (start_eq_none hsyn hack hsynAck hpong))
      (fun _ h ↦ by cases h) rfl

/-! ### The timers -/

theorem timing_retrySend (hest : (ctx.connections i).state ≠ .established) (flags : UInt8) :
    ((ctx.retrySend i pkg env).connections i).timing =
      (ctx.connections i).timing.again ((ctx.connections i).timing.later cfg env +
        (TimerRule.retry flags).interval ((ctx.connections i).timing.count.toNat + 1)) := by
  simp [retrySend, Glbconn.timing, Timing.again, Timing.later, Timing.count, TimerRule.retry,
    glbtimeStart, hest]

/-- The timers of a slot that waits for an answer to SYN, SYN|ACK or FIN. -/
theorem timing_of_retry {flags : UInt8} {closed : Glbctx cfg}
    (hrule : (ctx.connections i).state.timerRule = some (.retry flags))
    (hest : (ctx.connections i).state ≠ .established)
    (hclosed : (closed.connections i).timing = (ctx.connections i).timing.close)
    (h : (if glbtimeIsexpired (ctx.connections i).time (env.clock 0) then
        if (ctx.connections i).retry.toNat ≥ glbMaxRetry then some closed
        else some (ctx.retrySend i pkg env)
      else some ctx) = some ctx') :
    TimingStep ctx i (.timers i env) (ctx'.connections i).timing := by
  have hcount := count_of_ne hest
  split at h
  · next hexp =>
    rw [← deadline_of_ne hest, ← now_of_ne hest] at hexp
    split at h
    · next hlimit =>
      cases h
      rw [hclosed]
      exact .gaveUp hrule hexp (hcount ▸ hlimit)
    · next hlimit =>
      cases h
      rw [timing_retrySend hest flags]
      exact .again hrule hexp (hcount ▸ not_le.1 hlimit)
  · next hexp =>
    cases h
    refine .idle fun _ _ ↦ ?_
    rw [deadline_of_ne hest, now_of_ne hest]
    exact Bool.not_eq_true _ ▸ hexp

theorem timing_countTransmission (c : Fin cfg.channelCount) (chan : Glbchannel) (now : ℕ)
    (j : Fin cfg.connectionCount) :
    ((ctx.countTransmission i c chan pkg now).connections j).timing =
      (ctx.connections j).timing := by
  simp only [countTransmission]
  split
  · by_cases hj : j = i
    · subst hj
      simp [setChan, Glbconn.timing]
    · simp [setChan, connections_setCon_of_ne, hj]
  · exact timing_setChan _ _ _

theorem timing_transmit (c : Fin cfg.channelCount) (j : Fin cfg.connectionCount) :
    ((ctx.transmit i env c).connections j).timing = (ctx.connections j).timing := by
  rw [transmit]
  split
  · rfl
  dsimp only
  split
  · split
    · split
      · rw [timing_setChan, connections_glbioSend]
      · rw [timing_countTransmission, connections_glbioSend]
    · rfl
  · rfl

/-- The transmission loop leaves the timing of every slot alone. -/
theorem timing_foldl_transmit (cs : List (Fin cfg.channelCount)) (ctx : Glbctx cfg)
    (j : Fin cfg.connectionCount) :
    ((cs.foldl (fun ctx c ↦ ctx.transmit i env c) ctx).connections j).timing =
      (ctx.connections j).timing := by
  induction cs generalizing ctx with
  | nil => rfl
  | cons c cs ih => exact (ih _).trans (timing_transmit c j)

/-- The keepalive of an established slot. -/
theorem timing_keepaliveTimer {ctx₁ : Glbctx cfg} (hest : (ctx.connections i).state = .established)
    (hsame : (ctx₁.connections i).timing = (ctx.connections i).timing) :
    TimingStep ctx i (.timers i env) ((ctx₁.keepaliveTimer i env).connections i).timing := by
  have hrule : (ctx.connections i).state.timerRule = some .keepalive := by rw [hest]; rfl
  have hcount : (ctx.connections i).timing.count = (ctx₁.connections i).keepaliveRetry :=
    (count_of_established hest).trans (congrArg Timing.keepaliveRetry hsame).symm
  have hdeadline : (ctx.connections i).timing.deadline = (ctx₁.connections i).keepalive :=
    (deadline_of_established hest).trans (congrArg Timing.keepalive hsame).symm
  have hnow : (ctx.connections i).timing.now cfg env = env.clock (2 * cfg.channelCount + 2) :=
    now_of_established hest
  have hlater : (ctx.connections i).timing.later cfg env = env.clock (2 * cfg.channelCount + 4) :=
    congrArg env.clock (if_pos hest)
  rw [keepaliveTimer]
  dsimp only
  split
  · next hexp =>
    rw [← hdeadline, ← hnow] at hexp
    split
    · next hlimit =>
      rw [(becomes_closeCon ctx₁ i .timeout).self]
      have hclose : ({ ctx₁.connections i with state := .closed, channels := none } :
          Glbconn cfg).timing = (ctx.connections i).timing.close := (congrArg Timing.close hsame :)
      rw [hclose]
      exact .gaveUp hrule hexp (hcount ▸ hlimit)
    · next hlimit =>
      have hlt := Nat.lt_succ_of_le (not_lt.1 hlimit)
      convert TimingStep.again hrule hexp (hcount ▸ hlt) using 1
      rw [connections_setCon_self, hlater, hcount, ← hsame]
      have hest₁ : (ctx₁.connections i).state = .established :=
        (congrArg Timing.state hsame).trans hest
      simp [Glbconn.timing, Timing.again, TimerRule.keepalive, glbtimeStart, hest₁]
  · next hexp =>
    rw [hsame]
    refine .idle fun _ _ ↦ ?_
    rw [hdeadline, hnow]
    exact Bool.not_eq_true _ ▸ hexp

/-- What the timers of a slot make of its timing. -/
theorem timing_handleTimers (h : ctx.handleTimers i env = some ctx') :
    TimingStep ctx i (.timers i env) (ctx'.connections i).timing := by
  rcases hstate : (ctx.connections i).state with - | - | - | - | - <;>
    simp only [handleTimers, hstate] at h
  · cases h
    exact .idle fun rule hrule ↦ by rw [hstate] at hrule; cases hrule
  · split at h
    · cases h
    · cases h
      exact timing_keepaliveTimer hstate (timing_foldl_transmit _ _ _)
  · refine timing_of_retry (by rw [hstate]; rfl) (by rw [hstate]; decide) ?_ h
    simp [Glbconn.timing, Timing.close]
  · refine timing_of_retry (by rw [hstate]; rfl) (by rw [hstate]; decide) ?_ h
    simp [Glbconn.timing, Timing.close]
  · refine timing_of_retry (by rw [hstate]; rfl) (by rw [hstate]; decide) ?_ h
    rw [(becomes_closeCon ctx i .timeout).self]
    rfl

/-- **What a step makes of the timing of a slot.** -/
theorem timing_step {op : Op cfg} (h : Step ctx op ctx') (i : Fin cfg.connectionCount) :
    TimingStep ctx i op (ctx'.connections i).timing := by
  by_cases habout : op.IsAbout ctx i
  case neg =>
    refine .same (start_of_not_isAbout habout) (fun env ↦ ?_) (by rw [step_local h habout])
    rintro rfl
    exact habout rfl
  cases op with
  | connect now =>
    obtain ⟨⟨code, ctx₁⟩, hconnect, rfl⟩ := Option.map_eq_some_iff.1 h
    exact timing_glbConnect habout hconnect
  | close j now =>
    obtain rfl : i = j := habout
    cases h
    exact timing_glbClose now
  | send info now =>
    obtain ⟨⟨code, ctx₁⟩, hsend, rfl⟩ := Option.map_eq_some_iff.1 h
    refine .same rfl (fun _ h ↦ by cases h) ?_
    rcases glbSend_effect hsend with - | -
    · rfl
    · exact timing_setChan _ _ _
  | pollevent => exact habout.elim
  | popdata info =>
    obtain ⟨⟨code, data, ctx₁⟩, hpop, rfl⟩ := Option.map_eq_some_iff.1 h
    refine .same rfl (fun _ h ↦ by cases h) ?_
    rcases glbPopdata_effect hpop with - | -
    · rfl
    · exact timing_setChan _ _ _
  | readError => exact habout.elim
  | packet pkg from_ env => exact timing_handlePacket habout h
  | timers j env =>
    obtain rfl : i = j := habout
    exact timing_handleTimers h

/-- What starts a timer leads to its state. -/
theorem state_of_start {op : Op cfg} {s : GLBConnState} {t : ℕ} (h : Step ctx op ctx')
    (hstart : op.start ctx i = some (s, t)) : (ctx'.connections i).state = s := by
  have hstep := timing_step h i
  have hstate : (ctx'.connections i).timing.state = (ctx'.connections i).state := rfl
  rw [← hstate]
  generalize (ctx'.connections i).timing = tm at hstep
  rcases hstep with hstart' | ⟨hnone, -⟩ | hnone | - | - | -
  · rw [hstart] at hstart'
    cases hstart'
    exact Timing.state_enter
  · exact absurd (hstart.symm.trans hnone) nofun
  · exact absurd (hstart.symm.trans hnone) nofun
  all_goals cases hstart

/-- The counters stay within their limits, so that they never wrap. -/
theorem TimingStep.bounded {op : Op cfg} {tm : Timing} (hI : (ctx.connections i).timing.Bounded)
    (h : TimingStep ctx i op tm) : tm.Bounded := by
  obtain ⟨hretry, hkeepalive⟩ := hI
  rcases h with - | ⟨-, -, -, hr, -, hk⟩ | - | - | ⟨hrule, -, hlimit⟩ | -
  · exact Timing.bounded_enter ⟨hretry, hkeepalive⟩ _ _
  · refine ⟨hr ▸ hretry, ?_⟩
    rcases hk with ⟨hk, -⟩ | ⟨hk, -⟩
    · exact hk ▸ hkeepalive
    · rw [hk]; decide
  · exact ⟨hretry, hkeepalive⟩
  · exact ⟨hretry, hkeepalive⟩
  · exact Timing.bounded_again ⟨hretry, hkeepalive⟩ hrule hlimit _
  · exact ⟨hretry, hkeepalive⟩

end Glbctx

end Gilberta
