import Gilberta.Effects.Emission
import Gilberta.Traffic.ReceiveEvents

/-!
# No event is lost

The event queue is bounded and a full queue swallows events, so whether an application learns
everything depends on how it polls. All example programs poll until the queue is empty before they
tick again. For such an application there is a length from which on the queue is long enough
(`polled_all`): a tick handles at most 16 packets, each of which announces at most two events, and
serves the timers of each slot once, which announce at most one event for each channel and one for
the slot.
-/

namespace Gilberta

variable {cfg : Glbcfg}

namespace Glbctx

/-! ### How much can be announced -/

/-- At most `n` events are announced between two states, and they are put into the event queue as
far as it has room. -/
def AnnouncesUpTo (n : ℕ) (ctx ctx' : Glbctx cfg) : Prop :=
  ∃ evs, evs.length ≤ n ∧ ctx'.offered = ctx.offered ++ evs ∧
    ctx'.eventqueue.toBoundedQueue = evs.foldl BoundedQueue.offer ctx.eventqueue.toBoundedQueue

variable {ctx ctx' ctx'' : Glbctx cfg} {i : Fin cfg.connectionCount} {pkg : Glbpkg}
  {from_ : Glbaddr} {env : Env} {n m : ℕ}

theorem AnnouncesUpTo.of_eq (hoffered : ctx'.offered = ctx.offered)
    (hqueue : ctx'.eventqueue = ctx.eventqueue) : AnnouncesUpTo n ctx ctx' :=
  ⟨[], Nat.zero_le _, by rw [hoffered, List.append_nil], by rw [hqueue]; rfl⟩

theorem AnnouncesUpTo.refl (ctx : Glbctx cfg) : AnnouncesUpTo n ctx ctx := .of_eq rfl rfl

theorem AnnouncesUpTo.trans (h : AnnouncesUpTo n ctx ctx') (h' : AnnouncesUpTo m ctx' ctx'') :
    AnnouncesUpTo (n + m) ctx ctx'' := by
  obtain ⟨evs, hlen, hoffered, hqueue⟩ := h
  obtain ⟨evs', hlen', hoffered', hqueue'⟩ := h'
  refine ⟨evs ++ evs', ?_, ?_, ?_⟩
  · rw [List.length_append]
    exact Nat.add_le_add hlen hlen'
  · rw [hoffered', hoffered, List.append_assoc]
  · rw [hqueue', hqueue, List.foldl_append]

theorem AnnouncesUpTo.mono (h : AnnouncesUpTo n ctx ctx') (hnm : n ≤ m) :
    AnnouncesUpTo m ctx ctx' := by
  obtain ⟨evs, hlen, hrest⟩ := h
  exact ⟨evs, hlen.trans hnm, hrest⟩

theorem Becomes.announces {con' : Glbconn cfg} {a' : Allocator}
    {evs : List (Glbevent cfg.connectionCount)} (h : ctx.Becomes ctx' i con' a' evs)
    (hlen : evs.length ≤ n) : AnnouncesUpTo n ctx ctx' :=
  ⟨evs, hlen, h.offered, h.queue⟩

theorem announces_pushEvent (ctx : Glbctx cfg) (ev : Glbevent cfg.connectionCount) :
    AnnouncesUpTo 1 ctx (ctx.pushEvent ev) :=
  (becomes_pushEvent ctx ev.connection ev).announces (Nat.le_refl _)

theorem announces_closeCon (ctx : Glbctx cfg) (i : Fin cfg.connectionCount)
    (reason : GlbDisconnectReason) : AnnouncesUpTo 1 ctx (ctx.closeCon i reason) :=
  (becomes_closeCon ctx i reason).announces (Nat.le_refl _)

theorem announces_openSyn : AnnouncesUpTo n ctx (ctx.openSyn i from_ env) := by
  rw [openSyn]
  split
  · exact .refl _
  · exact .of_eq rfl rfl

theorem announces_onSyn : AnnouncesUpTo n ctx (ctx.onSyn pkg from_ env) := by
  rcases haddr : ctx.findConnByAddr from_ with - | i
  · rcases hempty : ctx.findEmptyConn with - | ⟨i, ctx₁⟩ <;> simp only [onSyn, haddr, hempty]
    · exact .of_eq (offered_glbioSend ..) (eventqueue_glbioSend ..)
    · obtain ⟨-, rfl⟩ := findEmptyConn_eq_some hempty
      refine (AnnouncesUpTo.trans (n := 0) (.of_eq ?_ ?_) (announces_openSyn (n := n))).mono
        (Nat.zero_add n).le <;> simp [generateSeq, generateClientId_eq]
  · simp only [onSyn, haddr]
    exact announces_openSyn

theorem announces_onAck (h : ctx.onAck pkg env = some ctx') : AnnouncesUpTo 1 ctx ctx' := by
  rcases hfind : ctx.findConn pkg.header.clientGen pkg.header.clientId with - | i
  · simp only [onAck, hfind] at h
    cases h
    exact .refl _
  by_cases hstate : (ctx.connections i).state = .synRcvd
  · obtain ⟨chs, a', -, hb⟩ := onAck_of_synRcvd hfind hstate h
    exact hb.announces (Nat.le_refl _)
  · simp only [onAck, hfind, ne_eq, hstate, not_false_eq_true, if_true] at h
    cases h
    exact .refl _

theorem announces_onSynAck (h : ctx.onSynAck pkg env = some ctx') : AnnouncesUpTo 1 ctx ctx' := by
  by_cases hpos : 0 < cfg.connectionCount
  case neg => rw [onSynAck, dif_neg hpos] at h; cases h
  rw [onSynAck, dif_pos hpos] at h
  obtain ⟨ctx₁, h₁, h₂⟩ := Option.bind_eq_some_iff.1 h
  have hreply := (becomes_replySynAck h₂).2.announces (Nat.zero_le 0)
  have hadopt := becomes_adoptConId ctx ⟨0, hpos⟩ pkg
  by_cases hstate : (ctx.connections ⟨0, hpos⟩).state = .established
  · rw [acceptSynAck, if_pos (by rw [hadopt.self]; exact hstate)] at h₁
    cases h₁
    exact ((hadopt.announces (Nat.zero_le 1)).trans hreply).mono (Nat.le_refl _)
  · obtain ⟨chs, a', -, hb⟩ := acceptSynAck_eq_some (by rw [hadopt.self]; exact hstate) h₁
    exact (((hadopt.announces (Nat.zero_le 0)).trans (hb.announces (Nat.le_refl 1))).trans
      hreply).mono (Nat.le_refl _)

theorem announces_onFin : AnnouncesUpTo 1 ctx (ctx.onFin pkg env) := by
  rcases hfind : ctx.findConn pkg.header.clientGen pkg.header.clientId with - | i <;>
    simp only [onFin, hfind]
  · exact .refl _
  cases hok : env.sendOk 0 with
  | false => exact .of_eq rfl rfl
  | true =>
    rw [glbioSend_of_ok]
    dsimp only
    split
    · exact (AnnouncesUpTo.trans (n := 0) (.of_eq rfl rfl) (announces_closeCon _ _ _)).mono
        (Nat.zero_add 1).le
    · exact .of_eq rfl rfl

theorem announces_onFinAck : AnnouncesUpTo 1 ctx (ctx.onFinAck pkg) := by
  rw [onFinAck]
  split
  · exact .refl _
  · split
    · exact announces_closeCon _ _ _
    · exact .refl _

theorem announces_onRst : AnnouncesUpTo 1 ctx (ctx.onRst pkg) := by
  rw [onRst]
  split
  · exact .refl _
  refine (AnnouncesUpTo.trans (n := 0) (.of_eq ?_ ?_) (announces_pushEvent _ _)).mono
    (Nat.zero_add 1).le <;> split <;> simp [freeConChannels_snd]

theorem announces_onData (h : ctx.onData pkg from_ env = some ctx') : AnnouncesUpTo 2 ctx ctx' := by
  cases onData_effect h with
  | ignored heq => rw [heq]; exact .refl _
  | old _ _ _ _ heq => rw [heq]; exact .of_eq (offered_glbioSend ..) (eventqueue_glbioSend ..)
  | future _ _ _ _ heq => rw [heq]; exact .of_eq rfl rfl
  | accepted _ _ _ hb =>
    refine hb.announces ?_
    split <;> simp

/-- A packet announces at most two events: MIGRATION and RECEIVE. -/
theorem announces_handlePacket (h : ctx.handlePacket pkg from_ env = some ctx') :
    AnnouncesUpTo 2 ctx ctx' := by
  have hone : 1 ≤ 2 := Nat.le_succ 1
  cases handlePacket_cases h with
  | syn => exact announces_onSyn
  | ack _ h => exact (announces_onAck h).mono hone
  | synAck _ h => exact (announces_onSynAck h).mono hone
  | fin => exact announces_onFin.mono hone
  | finAck => exact announces_onFinAck.mono hone
  | data _ h => exact announces_onData h
  | dataAck _ h =>
    cases onDataAck_effect h with
    | ignored heq => rw [heq]; exact .refl _
    | popped _ _ _ heq => rw [heq]; exact .of_eq rfl rfl
  | ping => exact .of_eq (offered_glbioSend ..) (eventqueue_glbioSend ..)
  | pong =>
    rw [onPong]
    split
    · exact .refl _
    · exact .of_eq rfl rfl
  | rst => exact announces_onRst.mono hone
  | ignored => exact .refl _

/-! ### The timers -/

theorem announces_transmit (ctx : Glbctx cfg) (i : Fin cfg.connectionCount) (env : Env)
    (c : Fin cfg.channelCount) : AnnouncesUpTo 1 ctx (ctx.transmit i env c) := by
  rcases hchs : (ctx.connections i).channels with - | chs <;> simp only [transmit, hchs]
  · exact .refl _
  split
  · split
    · split
      · exact .of_eq (by simp [setChan]) (by simp [setChan])
      · rw [countTransmission]
        dsimp only
        split
        · exact (AnnouncesUpTo.trans (n := 0) (.of_eq (by simp [setChan]) (by simp [setChan]))
            (announces_pushEvent _ _)).mono (Nat.zero_add 1).le
        · exact .of_eq (by simp [setChan]) (by simp [setChan])
    · exact .refl _
  · exact .refl _

theorem announces_foldl_transmit (ctx : Glbctx cfg) (i : Fin cfg.connectionCount) (env : Env)
    (cs : List (Fin cfg.channelCount)) :
    AnnouncesUpTo cs.length ctx (cs.foldl (fun ctx c ↦ ctx.transmit i env c) ctx) := by
  induction cs generalizing ctx with
  | nil => exact .refl _
  | cons c cs ih =>
    exact ((announces_transmit ctx i env c).trans (ih _)).mono (Nat.add_comm _ _).le

theorem announces_keepaliveTimer (ctx : Glbctx cfg) (i : Fin cfg.connectionCount) (env : Env) :
    AnnouncesUpTo 1 ctx (ctx.keepaliveTimer i env) := by
  rw [keepaliveTimer]
  dsimp only
  split
  · split
    · exact announces_closeCon _ _ _
    · exact .of_eq (offered_glbioSend ..) (eventqueue_glbioSend ..)
  · exact .refl _

/-- The timers of a slot announce at most one event for each channel and one for the slot. -/
theorem announces_handleTimers (h : ctx.handleTimers i env = some ctx') :
    AnnouncesUpTo (cfg.channelCount + 1) ctx ctx' := by
  have hone : 1 ≤ cfg.channelCount + 1 := Nat.le_add_left 1 _
  cases handleTimers_cases h with
  | idle => exact .refl _
  | syn | synAck | fin =>
    exact .of_eq (by simp [retrySend]) (by simp [retrySend])
  | gaveUp =>
    exact (AnnouncesUpTo.trans (n := 0) (.of_eq rfl rfl) (announces_pushEvent _ _)).mono (by omega)
  | dropped => exact .of_eq rfl rfl
  | closed => exact (announces_closeCon _ _ _).mono hone
  | established =>
    refine ((announces_foldl_transmit ctx i env (List.finRange cfg.channelCount)).trans
      (announces_keepaliveTimer _ i env)).mono ?_
    rw [List.length_finRange]

/-! ### A tick -/

/-- What every part of a tick keeps, the tick keeps. -/
theorem glbTick_induction {I : Glbctx cfg → Prop} {reads : List (ReadResult × Env)}
    {envs : Fin cfg.connectionCount → Env}
    (herror : ∀ ctx, I ctx → I { ctx with error := .recvFailed })
    (hpacket : ∀ pkg from_ env ctx ctx', (.packet pkg from_, env) ∈ reads → I ctx →
      ctx.handlePacket pkg from_ env = some ctx' → I ctx')
    (htimers : ∀ i env ctx ctx', I ctx → ctx.handleTimers i env = some ctx' → I ctx')
    (h : ctx.glbTick reads envs = some ctx') (hI : I ctx) : I ctx' := by
  have hrecv : ∀ (rs : List (ReadResult × Env)) (count : ℕ) (ctx ctx' : Glbctx cfg), rs ⊆ reads →
      I ctx → recvLoop rs count ctx = some ctx' → I ctx' := by
    intro rs
    induction rs with
    | nil => intro count ctx ctx' _ hI h; cases h; exact hI
    | cons r rs ih =>
      intro count ctx ctx' hsub hI h
      obtain ⟨r, env⟩ := r
      obtain ⟨hr, hrs⟩ := List.cons_subset.1 hsub
      by_cases hlimit : count ≥ glbRecvLimitPerTick
      · simp only [recvLoop, hlimit, if_true] at h
        cases h
        exact hI
      simp only [recvLoop, hlimit, if_false] at h
      cases r with
      | empty => cases h; exact hI
      | error => exact ih _ _ _ hrs (herror ctx hI) h
      | invalid => exact ih _ _ _ hrs hI h
      | packet pkg from_ =>
        obtain ⟨ctx₁, h₁, h₂⟩ := Option.bind_eq_some_iff.1 h
        exact ih _ _ _ hrs (hpacket pkg from_ env ctx ctx₁ hr hI h₁) h₂
  have hloop : ∀ (is : List (Fin cfg.connectionCount)) (ctx ctx' : Glbctx cfg), I ctx →
      is.foldlM (fun ctx i ↦ ctx.handleTimers i (envs i)) ctx = some ctx' → I ctx' := by
    intro is
    induction is with
    | nil => intro ctx ctx' hI h; cases h; exact hI
    | cons i is ih =>
      intro ctx ctx' hI h
      rw [List.foldlM_cons] at h
      obtain ⟨ctx₁, h₁, h₂⟩ := Option.bind_eq_some_iff.1 h
      exact ih _ _ (htimers i _ ctx ctx₁ hI h₁) h₂
  obtain ⟨ctx₁, h₁, h₂⟩ := Option.bind_eq_some_iff.1 h
  exact hloop _ _ _ (hrecv reads 0 ctx ctx₁ (List.Subset.refl _) hI h₁) h₂

/-- The receive loop handles at most 16 packets. -/
theorem announces_recvLoop (rs : List (ReadResult × Env)) {count : ℕ}
    (hcount : count ≤ glbRecvLimitPerTick) (h : recvLoop rs count ctx = some ctx') :
    AnnouncesUpTo (2 * (glbRecvLimitPerTick - count)) ctx ctx' := by
  induction rs generalizing count ctx with
  | nil => cases h; exact .refl _
  | cons r rs ih =>
    obtain ⟨r, env⟩ := r
    by_cases hlimit : count ≥ glbRecvLimitPerTick
    · simp only [recvLoop, hlimit, if_true] at h
      cases h
      exact .refl _
    simp only [recvLoop, hlimit, if_false] at h
    cases r with
    | empty => cases h; exact .refl _
    | error =>
      have herror : AnnouncesUpTo 0 ctx { ctx with error := .recvFailed } := .of_eq rfl rfl
      exact (herror.trans (ih hcount h)).mono (Nat.zero_add _).le
    | invalid => exact ih hcount h
    | packet pkg from_ =>
      obtain ⟨ctx₁, h₁, h₂⟩ := Option.bind_eq_some_iff.1 h
      exact ((announces_handlePacket h₁).trans (ih (by omega) h₂)).mono (by omega)

theorem announces_timersLoop (envs : Fin cfg.connectionCount → Env)
    (is : List (Fin cfg.connectionCount))
    (h : is.foldlM (fun ctx i ↦ ctx.handleTimers i (envs i)) ctx = some ctx') :
    AnnouncesUpTo (is.length * (cfg.channelCount + 1)) ctx ctx' := by
  induction is generalizing ctx with
  | nil => cases h; exact .refl _
  | cons i is ih =>
    rw [List.foldlM_cons] at h
    obtain ⟨ctx₁, h₁, h₂⟩ := Option.bind_eq_some_iff.1 h
    refine ((announces_handleTimers h₁).trans (ih h₂)).mono ?_
    rw [List.length_cons, Nat.add_mul, Nat.one_mul, Nat.add_comm]

end Glbctx

/-- How many events a tick can announce. -/
def Glbcfg.eventsPerTick (cfg : Glbcfg) : ℕ :=
  2 * glbRecvLimitPerTick + cfg.connectionCount * (cfg.channelCount + 1)

namespace Glbctx

variable {ctx ctx' : Glbctx cfg}

theorem announces_glbTick {reads : List (ReadResult × Env)}
    {envs : Fin cfg.connectionCount → Env} (h : ctx.glbTick reads envs = some ctx') :
    AnnouncesUpTo cfg.eventsPerTick ctx ctx' := by
  obtain ⟨ctx₁, h₁, h₂⟩ := Option.bind_eq_some_iff.1 h
  have htimers := announces_timersLoop envs _ h₂
  rw [List.length_finRange] at htimers
  exact ((announces_recvLoop reads (Nat.zero_le _) h₁).trans htimers).mono (Nat.le_refl _)

end Glbctx

/-! ### The application -/

/-- A call of a public function. -/
inductive Call (cfg : Glbcfg)
  | connect (now : ℕ)
  | close (i : Fin cfg.connectionCount) (now : ℕ)
  | send (info : Glbsendinfo cfg.connectionCount) (now : ℕ)
  | tick (reads : List (ReadResult × Env)) (envs : Fin cfg.connectionCount → Env)
  | pollevent
  | popdata (info : Glbrecvinfo cfg.connectionCount)

/-- The application ticks only after it has polled all events. -/
def Call.Polite (ctx : Glbctx cfg) : Call cfg → Prop
  | .tick _ _ => ctx.eventqueue.elems = []
  | .connect _ | .close _ _ | .send _ _ | .pollevent | .popdata _ => True

instance (ctx : Glbctx cfg) : (call : Call cfg) → Decidable (call.Polite ctx)
  | .tick _ _ => inferInstanceAs (Decidable (_ = _))
  | .connect _ | .close _ _ | .send _ _ | .pollevent | .popdata _ =>
    inferInstanceAs (Decidable True)

namespace Glbctx

variable {ctx ctx' : Glbctx cfg}

/-- The effect of a call. -/
def call (ctx : Glbctx cfg) : Call cfg → Option (Glbctx cfg)
  | .connect now => ctx.step (.connect now)
  | .close i now => ctx.step (.close i now)
  | .send info now => ctx.step (.send info now)
  | .tick reads envs => ctx.glbTick reads envs
  | .pollevent => ctx.step .pollevent
  | .popdata info => ctx.step (.popdata info)

/-- One transition of a run of calls. -/
abbrev Calling (cfg : Glbcfg) := Glbctx cfg × Call cfg × Glbctx cfg

/-- A run of calls, from the creation of the context on. -/
abbrev CallRun (ts : List (Calling cfg)) (ctx : Glbctx cfg) : Prop :=
  Execution (fun ctx call ctx' ↦ ctx.call call = some ctx') (init cfg) ts ctx

/-- The events the application has got from `glb_pollevent`, oldest first. -/
def polled (ts : List (Calling cfg)) : List (Glbevent cfg.connectionCount) :=
  ts.flatMap fun x ↦ match x.2.1 with
    | .pollevent => x.1.glbPollevent.2.1.toList
    | .connect _ | .close _ _ | .send _ _ | .tick _ _ | .popdata _ => []

/-- What the library has announced is what was polled and what waits to be. -/
structure NothingLost (ts : List (Calling cfg)) (ctx : Glbctx cfg) : Prop where
  /-- The event queue is as long as it was made. -/
  capacity : ctx.eventqueue.capacity = cfg.eventCapacity
  /-- No event is missing, and none comes twice. -/
  offered : ctx.offered = polled ts ++ ctx.eventqueue.elems

theorem polled_append (ts us : List (Calling cfg)) : polled (ts ++ us) = polled ts ++ polled us :=
  List.flatMap_append

/-- Of the calls, only ticks announce anything. -/
theorem announces_call {c : Call cfg} (h : ctx.call c = some ctx')
    (htick : ∀ reads envs, c ≠ .tick reads envs) (hpoll : c ≠ .pollevent) :
    AnnouncesUpTo 0 ctx ctx' := by
  cases c with
  | tick reads envs => exact absurd rfl (htick reads envs)
  | pollevent => exact absurd rfl hpoll
  | connect now =>
    obtain ⟨⟨code, ctx₁⟩, hconnect, rfl⟩ := Option.map_eq_some_iff.1 h
    rw [glbConnect] at hconnect
    split at hconnect
    · rcases haddr : cfg.inetAddr with - | addr <;> simp only [haddr] at hconnect <;>
        cases hconnect <;> exact .of_eq rfl rfl
    · cases hconnect
  | close i now =>
    cases h
    rw [glbClose]
    split <;> exact .of_eq rfl rfl
  | send info now =>
    obtain ⟨⟨code, ctx₁⟩, hsend, rfl⟩ := Option.map_eq_some_iff.1 h
    cases glbSend_effect hsend with
    | refused | queued => exact .of_eq rfl rfl
  | popdata info =>
    obtain ⟨⟨code, data, ctx₁⟩, hpop, rfl⟩ := Option.map_eq_some_iff.1 h
    cases glbPopdata_effect hpop with
    | failed | popped => exact .of_eq rfl rfl

theorem polled_of_ne {c : Call cfg} (hpoll : c ≠ .pollevent) : polled [(ctx, c, ctx')] = [] := by
  cases c with
  | pollevent => exact absurd rfl hpoll
  | connect | close | send | tick | popdata => rfl

theorem polled_pollevent : polled [(ctx, Call.pollevent, ctx')] = ctx.glbPollevent.2.1.toList :=
  List.append_nil _

/-- Calls other than polls leave what was polled alone. -/
theorem NothingLost.of_announces {ts : List (Calling cfg)} {c : Call cfg} {n : ℕ}
    (hI : NothingLost ts ctx) (hpoll : c ≠ .pollevent) (h : AnnouncesUpTo n ctx ctx')
    (hroom : ctx.eventqueue.elems.length + n ≤ cfg.eventCapacity) :
    NothingLost (ts ++ [(ctx, c, ctx')]) ctx' := by
  obtain ⟨evs, hlen, hoffered, hqueue⟩ := h
  have hcapacity : ctx'.eventqueue.capacity = ctx.eventqueue.capacity := by
    rw [hqueue, BoundedQueue.capacity_foldl_offer]
  refine ⟨hcapacity.trans hI.capacity, ?_⟩
  rw [polled_append, polled_of_ne hpoll, List.append_nil, hoffered, hI.offered, hqueue,
    BoundedQueue.elems_foldl_offer _ (by rw [hI.capacity]; omega), List.append_assoc]

theorem capacity_glbPollevent (ctx : Glbctx cfg) :
    ctx.glbPollevent.2.2.eventqueue.capacity = ctx.eventqueue.capacity := by
  rw [glbPollevent]
  split
  · show ctx.eventqueue.pop.2.2.capacity = _
    rw [Glbqueue.toBoundedQueue_pop, BoundedQueue.capacity_drop]
  · rfl

/-- A call of a polite application loses no event. -/
theorem NothingLost.call {ts : List (Calling cfg)} {c : Call cfg} (hI : NothingLost ts ctx)
    (hcapacity : cfg.eventsPerTick ≤ cfg.eventCapacity) (h : ctx.call c = some ctx')
    (hpolite : c.Polite ctx) : NothingLost (ts ++ [(ctx, c, ctx')]) ctx' := by
  by_cases hpoll : c = .pollevent
  · subst hpoll
    obtain rfl : ctx.glbPollevent.2.2 = ctx' := Option.some_inj.1 h
    refine ⟨(capacity_glbPollevent ctx).trans hI.capacity, ?_⟩
    rw [polled_append, polled_pollevent]
    rcases glbPollevent_cases ctx with ⟨-, heq⟩ | ⟨ev, q, helems, heq⟩ <;> rw [heq]
    · rw [Option.toList_none, List.append_nil]
      exact hI.offered
    · show ctx.offered = _
      rw [hI.offered, helems, Option.toList_some, List.append_assoc, List.singleton_append]
  by_cases htick : ∃ reads envs, c = .tick reads envs
  · obtain ⟨reads, envs, rfl⟩ := htick
    have hempty : ctx.eventqueue.elems = [] := hpolite
    refine hI.of_announces hpoll (announces_glbTick h) ?_
    rw [hempty, List.length_nil, Nat.zero_add]
    exact hcapacity
  · refine hI.of_announces hpoll
      (announces_call h (fun reads envs heq ↦ htick ⟨reads, envs, heq⟩) hpoll) ?_
    rw [Nat.add_zero, ← hI.capacity]
    exact ctx.eventqueue.length_le

/-- **No event is lost.** In every run of calls in which the application ticks only when the event
queue is empty, whatever packets the ticks handle: if the event queue is as long as what one tick
can announce, then everything the library has announced so far is what `glb_pollevent` has handed
out, in this order, followed by what still waits in the queue. -/
theorem polled_all {ts : List (Calling cfg)} (hcapacity : cfg.eventsPerTick ≤ cfg.eventCapacity)
    (hrun : CallRun ts ctx) (hpolite : ∀ x ∈ ts, x.2.1.Polite x.1) :
    ctx.offered = polled ts ++ ctx.eventqueue.elems :=
  (Execution.invariant (I := NothingLost) (C := fun x ↦ x.2.1.Polite x.1)
    (fun _ _ _ _ hI hcall hx ↦ hI.call hcapacity hcall hx) hrun ⟨rfl, rfl⟩ hpolite).offered

/-- A server accepts a connection and a message within one tick, and the application polls twice. -/
def tickAndPoll : List (Call Glbcfg.sampleServer) :=
  [.tick [(.packet (glbpkgInit ⟨0xFFFF, 0⟩ ctrlFlagSyn 0) .samplePeer, Env.at 1),
      (.packet (glbpkgInit ⟨1, 0⟩ ctrlFlagAck 0) .samplePeer, Env.at 1),
      (.packet (Glbpkg.sampleData ⟨1, 0⟩ 0) .samplePeer, Env.at 1)] (fun _ ↦ Env.at 2),
    .pollevent, .pollevent]

/-- It gets both events. -/
theorem polled_all_sample : ∃ ts ctx, @CallRun Glbcfg.sampleServer ts ctx ∧
    polled ts = [.connect ⟨0, Nat.two_pos⟩, .receive ⟨0, Nat.two_pos⟩ 0] ∧
    ctx.offered = polled ts ++ ctx.eventqueue.elems := by
  have hend : (Execution.perform Glbctx.call tickAndPoll (init _)).map (fun r ↦
      (polled r.1, decide (∀ x ∈ r.1, x.2.1.Polite x.1))) =
      some ([.connect ⟨0, Nat.two_pos⟩, .receive ⟨0, Nat.two_pos⟩ 0], true) := by decide +kernel
  obtain ⟨r, hr, hend⟩ := Option.map_eq_some_iff.1 hend
  obtain ⟨hpolled, hpolite⟩ := Prod.mk.inj hend
  have hrun : CallRun r.1 r.2 := Execution.nil.append_perform hr
  exact ⟨r.1, r.2, hrun, hpolled, polled_all (by decide) hrun (of_decide_eq_true hpolite)⟩

end Glbctx

end Gilberta
