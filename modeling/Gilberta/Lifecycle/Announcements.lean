import Gilberta.Lifecycle.Arrays
import Gilberta.Traffic.Transmission

/-!
# The CONNECT and DISCONNECT events of a slot

What an application learns about a slot are the CONNECT and DISCONNECT events pushed for it; a
client sees them next to its own calls of `glb_connect`. `Phase` is the automaton of the sequences
that make sense, and it depends on the role. On a server a connection begins with its CONNECT and
ends with its DISCONNECT. On a client a call is pending until its CONNECT or its DISCONNECT, and
nothing is announced that was not called for.

`announced_iff` says exactly when the library keeps to it, with the announcements matching the
states of the slots: when nothing is handled in a state or a role its branch does not test for, and
when the event queue has room for what has to be reported, and is full where nothing may be.

What counts is what the event queue takes (`pushedEvents`). An event that is offered to a full queue
is lost, and the library does not notice.
-/

namespace Gilberta

variable {cfg : Glbcfg}

/-- What is noted of a slot: a `glb_connect` that started, or an event about its life. -/
inductive Notice
  | call
  | connect
  | disconnect
  deriving DecidableEq

/-- Where the announcements of a slot stand. -/
inductive Phase
  /-- Nothing is going on. -/
  | idle
  /-- A client called `glb_connect` and nothing was announced since. -/
  | pending
  /-- A connection is announced. -/
  | up
  deriving DecidableEq

namespace Phase

/-- The notices that make sense in a phase, on a server or on a client. -/
def next (server : Bool) : Phase → Notice → Option Phase
  | idle, .call => some pending
  | idle, .connect => if server then some up else none
  | pending, .connect => some up
  | pending, .disconnect => some idle
  | up, .disconnect => some idle
  | _, _ => none

/-- Where a sequence of notices leads, if it makes sense. -/
def run (server : Bool) (p : Phase) : List Notice → Option Phase := List.foldlM (next server) p

variable {server : Bool} (p : Phase)

@[simp] theorem run_nil : p.run server [] = some p := rfl

@[simp] theorem run_singleton (n : Notice) : p.run server [n] = p.next server n := by
  cases h : p.next server n <;> simp [run, List.foldlM_cons, h]

theorem run_append (ns ns' : List Notice) :
    p.run server (ns ++ ns') = (p.run server ns).bind fun q ↦ q.run server ns' :=
  List.foldlM_append

/-- The end of a connection may be announced where there is something that ends. -/
theorem next_disconnect_iff : p.next server .disconnect = some .idle ↔ p ≠ .idle := by
  cases p <;> simp [next]

end Phase

/-- The phase that fits a state. Half open connections are not announced yet, and on a server
nothing is pending. -/
def GLBConnState.phase (server : Bool) : GLBConnState → Phase
  | closed => .idle
  | established => .up
  | synSent => if server then .idle else .pending
  | synRcvd => .idle
  | finSent => .up

/-- What an event says about the life of slot `i`. -/
def Glbevent.notice {n : ℕ} (i : Fin n) : Glbevent n → Option Notice
  | connect j => if j = i then some .connect else none
  | disconnect j _ => if j = i then some .disconnect else none
  | _ => none

namespace Glbctx

/-- The events a transition offered to the event queue. -/
def newEvents (x : Transition cfg) : List (Glbevent cfg.connectionCount) :=
  x.2.2.offered.drop x.1.offered.length

/-- The events a transition put into the event queue. -/
def pushedEvents (x : Transition cfg) : List (Glbevent cfg.connectionCount) :=
  x.2.2.eventqueue.history.drop x.1.eventqueue.history.length

/-- A transition is a `glb_connect` of a client that starts to connect slot `i`. -/
def Calls (i : Fin cfg.connectionCount) (x : Transition cfg) : Prop :=
  (cfg.isServer = false ∧ cfg.inetAddr.isSome = true ∧ i.val = 0) ∧ ∃ now, x.2.1 = .connect now

instance (i : Fin cfg.connectionCount) (x : Transition cfg) : Decidable (Calls i x) :=
  match x with
  | (_, .connect now, _) => decidable_of_iff
      (cfg.isServer = false ∧ cfg.inetAddr.isSome = true ∧ i.val = 0)
      ⟨fun h ↦ ⟨h, now, rfl⟩, fun h ↦ h.1⟩
  | (_, .close _ _, _) | (_, .send _ _, _) | (_, .pollevent, _) | (_, .popdata _, _)
  | (_, .readError, _) | (_, .packet _ _ _, _) | (_, .timers _ _, _) =>
    isFalse fun h ↦ by obtain ⟨-, _, h⟩ := h; cases h

/-- What a transition notes of slot `i`. -/
def notices (i : Fin cfg.connectionCount) (x : Transition cfg) : List Notice :=
  (if Calls i x then [.call] else []) ++ (pushedEvents x).filterMap (Glbevent.notice i)

/-- The story of slot `i` in a run. -/
def story (i : Fin cfg.connectionCount) (ts : List (Transition cfg)) : List Notice :=
  ts.flatMap (notices i)

/-- The phase slot `i` should be in. -/
def phase (ctx : Glbctx cfg) (i : Fin cfg.connectionCount) : Phase :=
  (ctx.connections i).state.phase cfg.isServer

/-- The announcements of every slot make sense for the role of the context and fit the state of the
slot, and no event was pushed for a slot that was closed at the time. -/
structure Announced (ts : List (Transition cfg)) (ctx : Glbctx cfg) : Prop where
  /-- The story of a slot makes sense, and it fits its state. -/
  story : ∀ i, Phase.idle.run cfg.isServer (story i ts) = some (ctx.phase i)
  /-- Nothing was announced for a closed slot. -/
  closed : ∀ x ∈ ts, ∀ ev ∈ pushedEvents x, (x.1.connections ev.connection).state ≠ .closed

/-! ### The condition -/

/-- The event queue has room for an event after `n` others. -/
def HasRoom (ctx : Glbctx cfg) (n : ℕ) : Prop :=
  ctx.eventqueue.elems.length + n < ctx.eventqueue.capacity

instance (ctx : Glbctx cfg) (n : ℕ) : Decidable (ctx.HasRoom n) :=
  inferInstanceAs (Decidable (_ < _))

/-- After `n` other events there is room for a DISCONNECT of slot `i` exactly if there is something
that ends. -/
def EndsWell (ctx : Glbctx cfg) (i : Fin cfg.connectionCount) (n : ℕ) : Prop :=
  ctx.HasRoom n ↔ ctx.phase i ≠ .idle

instance (ctx : Glbctx cfg) (i : Fin cfg.connectionCount) (n : ℕ) : Decidable (ctx.EndsWell i n) :=
  inferInstanceAs (Decidable (_ ↔ _))

/-- A SYN|ACK is handled where it announces the truth: slot 0 is established; or it waits for the
SYN|ACK, or is half open on a server, and both the event queue takes the CONNECT and `sendto` takes
the ACK; or the queue is full, and the state stays what it is or does not ask for a CONNECT. -/
def AcceptsSynAck (ctx : Glbctx cfg) (i : Fin cfg.connectionCount) (env : Env) : Prop :=
  (ctx.connections i).state = .established ∨
    if ctx.HasRoom 0 then
      env.sendOk 0 = true ∧ ((ctx.connections i).state = .synSent ∨
        cfg.isServer = true ∧ (ctx.connections i).state = .synRcvd)
    else env.sendOk 0 = false ∨ (ctx.connections i).state = .finSent

instance (ctx : Glbctx cfg) (i : Fin cfg.connectionCount) (env : Env) :
    Decidable (ctx.AcceptsSynAck i env) := by
  unfold AcceptsSynAck
  infer_instance

/-- A packet whose branch announces the truth about the slot it is for. A SYN|ACK is for slot 0, a
SYN for the first slot with its source address, the others for the first slot with their id. -/
def Announces (ctx : Glbctx cfg) (pkg : Glbpkg) (from_ : Glbaddr) (env : Env) : Prop :=
  (pkg.IsSyn → ∀ i, ctx.findConnByAddr from_ = some i →
    (ctx.connections i).state = .established ∨ ctx.phase i = .idle) ∧
  (pkg.header.ctrlFlags = ctrlFlagAck → ∀ i, pkg.Finds ctx i →
    (ctx.connections i).state = .synRcvd → cfg.isServer = true ∧ ctx.HasRoom 0) ∧
  (pkg.header.ctrlFlags = ctrlFlagSynAck → ∀ i : Fin cfg.connectionCount, i.val = 0 →
    ctx.AcceptsSynAck i env) ∧
  (pkg.header.ctrlFlags = ctrlFlagFin → ∀ i, pkg.Finds ctx i → env.sendOk 0 = true →
    (ctx.connections i).state ≠ .closed → ctx.EndsWell i 0) ∧
  (pkg.header.ctrlFlags = ctrlFlagFinAck → ∀ i, pkg.Finds ctx i →
    (ctx.connections i).state ≠ .closed → ctx.EndsWell i 0) ∧
  (pkg.header.ctrlFlags = ctrlFlagRst → ∀ i, pkg.Finds ctx i → ctx.EndsWell i 0)

set_option synthInstance.maxSize 400 in
instance (ctx : Glbctx cfg) (pkg : Glbpkg) (from_ : Glbaddr) (env : Env) :
    Decidable (ctx.Announces pkg from_ env) := by
  unfold Announces
  infer_instance

/-- The timers of slot `i` give it up and report that: the timer that runs is due and has no retries
left. A half open slot is given up without a report. -/
def GivesUp (ctx : Glbctx cfg) (i : Fin cfg.connectionCount) (env : Env) : Prop :=
  match (ctx.connections i).state with
  | .synSent | .finSent =>
    glbtimeIsexpired (ctx.connections i).time (env.clock 0) = true ∧
      (ctx.connections i).retry.toNat ≥ glbMaxRetry
  | .established =>
    glbtimeIsexpired (ctx.connections i).keepalive (env.clock (2 * cfg.channelCount + 2)) = true ∧
      (ctx.connections i).keepaliveRetry.toNat > glbKeepaliveRetry
  | .closed | .synRcvd => False

/-- How many packets the timers of slot `i` report as stalled before they look at the keepalive. -/
def stalledFirst (ctx : Glbctx cfg) (i : Fin cfg.connectionCount) (env : Env) : ℕ :=
  if (ctx.connections i).state = .established then
    (ctx.connections i).channels.elim 0 fun chs ↦ (chs.stalls env (List.finRange _)).length
  else 0

instance (ctx : Glbctx cfg) (i : Fin cfg.connectionCount) (env : Env) :
    Decidable (ctx.GivesUp i env) := by
  unfold GivesUp
  cases (ctx.connections i).state <;> infer_instance

end Glbctx

/-- An operation that announces the truth. -/
def Op.Truthful (ctx : Glbctx cfg) : Op cfg → Prop
  | .connect _ => cfg.inetAddr.isSome = true → ∀ i : Fin cfg.connectionCount, i.val = 0 →
      ctx.phase i = .idle
  | .packet pkg from_ env => ctx.Announces pkg from_ env
  | .timers i env => ctx.GivesUp i env → ctx.EndsWell i (ctx.stalledFirst i env)
  | .close _ _ | .send _ _ | .pollevent | .popdata _ | .readError => True

instance (ctx : Glbctx cfg) : (op : Op cfg) → Decidable (op.Truthful ctx)
  | .connect _ => inferInstanceAs (Decidable (cfg.inetAddr.isSome = true →
      ∀ i : Fin cfg.connectionCount, i.val = 0 → ctx.phase i = .idle))
  | .packet pkg from_ env => inferInstanceAs (Decidable (ctx.Announces pkg from_ env))
  | .timers i env =>
    inferInstanceAs (Decidable (ctx.GivesUp i env → ctx.EndsWell i (ctx.stalledFirst i env)))
  | .close _ _ | .send _ _ | .pollevent | .popdata _ | .readError =>
    inferInstanceAs (Decidable True)

namespace Glbctx

variable {ctx ctx' : Glbctx cfg} {op : Op cfg} {i j : Fin cfg.connectionCount} {pkg : Glbpkg}
  {from_ : Glbaddr} {env : Env} {con' : Glbconn cfg} {a' : Allocator}
  {evs : List (Glbevent cfg.connectionCount)} {ev : Glbevent cfg.connectionCount}

/-! ### What a transition pushes -/

theorem newEvents_of_offered (h : ctx'.offered = ctx.offered ++ evs) :
    newEvents (ctx, op, ctx') = evs := by
  rw [newEvents, h, List.drop_left]

theorem isFull_foldl_offer_iff :
    (evs.foldl BoundedQueue.offer ctx.eventqueue.toBoundedQueue).isFull = true ↔
      ¬ ctx.HasRoom evs.length :=
  (BoundedQueue.isFull_foldl_offer _).trans Nat.not_lt.symm

/-- What is pushed was offered. -/
theorem sublist_pushedEvents
    (h : ctx'.eventqueue.toBoundedQueue =
      evs.foldl BoundedQueue.offer ctx.eventqueue.toBoundedQueue) :
    (pushedEvents (ctx, op, ctx')).Sublist evs := by
  obtain ⟨sub, hsub, hhistory⟩ :=
    BoundedQueue.exists_history_foldl_offer evs ctx.eventqueue.toBoundedQueue
  rw [pushedEvents, h, hhistory, List.drop_left]
  exact hsub

/-- The last event offered is pushed if there is room for it. -/
theorem exists_pushedEvents (op : Op cfg)
    (h : ctx'.eventqueue.toBoundedQueue =
      (evs ++ [ev]).foldl BoundedQueue.offer ctx.eventqueue.toBoundedQueue) :
    ∃ sub, sub.Sublist evs ∧ pushedEvents (ctx, op, ctx') =
      sub ++ if ctx.HasRoom evs.length then [ev] else [] := by
  obtain ⟨sub, hsub, hhistory⟩ :=
    BoundedQueue.exists_history_foldl_offer evs ctx.eventqueue.toBoundedQueue
  refine ⟨sub, hsub, ?_⟩
  rw [pushedEvents, h, List.foldl_append, List.foldl_cons, List.foldl_nil,
    BoundedQueue.history_offer, hhistory]
  by_cases hroom : ctx.HasRoom evs.length
  · rw [if_neg (mt isFull_foldl_offer_iff.1 (not_not.2 hroom)), if_pos hroom, List.append_assoc,
      List.drop_left]
  · rw [if_pos (isFull_foldl_offer_iff.2 hroom), if_neg hroom, List.append_nil, List.drop_left]

/-- A quiet step pushes only traffic. -/
theorem Quiet.mayAnnounce_of_mem (hq : ctx.Quiet op ctx') (h : Step ctx op ctx') :
    ∀ ev ∈ pushedEvents (ctx, op, ctx'), op.MayAnnounce ctx ev := by
  intro ev hev
  obtain ⟨evs, hevs, -, hqueue⟩ := hq.offered
  by_cases hpoll : op = .pollevent
  · -- polling takes events out
    subst hpoll
    have hhistory : ctx'.eventqueue.history = ctx.eventqueue.history := by
      cases h
      rw [glbPollevent]
      split
      · exact (congrArg BoundedQueue.history (Glbqueue.toBoundedQueue_pop _)).trans
          BoundedQueue.history_drop
      · rfl
    rw [pushedEvents, hhistory, List.drop_length] at hev
    cases hev
  · exact hevs ev ((sublist_pushedEvents (hqueue hpoll)).subset hev)

theorem filterMap_notice_of_traffic (h : ∀ ev ∈ evs, ev.isTraffic = true) :
    evs.filterMap (Glbevent.notice i) = [] := by
  refine List.filterMap_eq_nil_iff.2 fun ev hev ↦ ?_
  have htraffic := h ev hev
  cases ev with
  | connect => cases htraffic
  | disconnect => cases htraffic
  | _ => rfl

theorem filterMap_notice_of_ne (h : ∀ ev ∈ evs, ev.connection ≠ i) :
    evs.filterMap (Glbevent.notice i) = [] := by
  refine List.filterMap_eq_nil_iff.2 fun ev hev ↦ ?_
  have hne := h ev hev
  cases ev with
  | connect j => exact if_neg hne
  | disconnect j reason => exact if_neg hne
  | _ => rfl

theorem filterMap_notice_connect :
    [Glbevent.connect i].filterMap (Glbevent.notice i) = [.connect] := by
  simp [Glbevent.notice]

theorem filterMap_notice_disconnect (reason : GlbDisconnectReason) :
    [Glbevent.disconnect i reason].filterMap (Glbevent.notice i) = [.disconnect] := by
  simp [Glbevent.notice]

theorem notices_of_not_connect (hop : ∀ now, op ≠ .connect now) :
    notices i (ctx, op, ctx') = (pushedEvents (ctx, op, ctx')).filterMap (Glbevent.notice i) := by
  rw [notices, if_neg fun h : Calls i (ctx, op, ctx') ↦ h.2.elim hop, List.nil_append]

theorem story_append_singleton (ts : List (Transition cfg)) (x : Transition cfg) :
    story i (ts ++ [x]) = story i ts ++ notices i x := by
  rw [story, List.flatMap_append, List.flatMap_singleton]
  rfl

/-! ### Steps that keep announcements and states together -/

/-- The notices of a transition lead every slot from the phase it was in to the one it is in now,
and nothing is pushed for a closed slot. -/
structure KeepsStep (x : Transition cfg) : Prop where
  /-- The notices of a slot make sense, and they fit what becomes of it. -/
  notices : ∀ i, (x.1.phase i).run cfg.isServer (notices i x) = some (x.2.2.phase i)
  /-- Nothing is announced for a closed slot. -/
  closed : ∀ ev ∈ pushedEvents x, (x.1.connections ev.connection).state ≠ .closed

theorem Quiet.keepsStep (hq : ctx.Quiet op ctx') (h : Step ctx op ctx')
    (hop : ∀ now, op ≠ .connect now) : KeepsStep (ctx, op, ctx') where
  notices := fun i ↦ by
    rw [notices_of_not_connect hop,
      filterMap_notice_of_traffic fun ev hev ↦ (hq.mayAnnounce_of_mem h ev hev).1, Phase.run_nil,
      phase, phase, (hq.life i).state]
  closed := fun ev hev ↦ by
    rw [(hq.mayAnnounce_of_mem h ev hev).2.1]
    decide

/-- What a step that changes slot `i` has to do. -/
theorem keepsStep_iff (hb : ctx.Becomes ctx' i con' a' evs) (hevs : ∀ ev ∈ evs, ev.connection = i)
    (hcalls : ∀ j, j ≠ i → ¬ Calls j (ctx, op, ctx')) : KeepsStep (ctx, op, ctx') ↔
      (ctx.phase i).run cfg.isServer (notices i (ctx, op, ctx')) =
        some (con'.state.phase cfg.isServer) ∧
      (pushedEvents (ctx, op, ctx') ≠ [] → (ctx.connections i).state ≠ .closed) := by
  have hpushed : ∀ ev ∈ pushedEvents (ctx, op, ctx'), ev.connection = i := fun ev hev ↦
    hevs ev ((sublist_pushedEvents hb.queue).subset hev)
  have hphase : ctx'.phase i = con'.state.phase cfg.isServer := by rw [phase, hb.self]
  constructor
  · refine fun h ↦ ⟨(h.notices i).trans (congrArg some hphase), fun hne ↦ ?_⟩
    obtain ⟨ev, hev⟩ := List.exists_mem_of_ne_nil _ hne
    rw [← hpushed ev hev]
    exact h.closed ev hev
  · rintro ⟨hrun, hclosed⟩
    refine ⟨fun j ↦ ?_, fun ev hev ↦ ?_⟩
    · by_cases hj : j = i
      · subst hj
        exact hrun.trans (congrArg some hphase.symm)
      · rw [notices, if_neg (hcalls j hj), filterMap_notice_of_ne fun ev hev ↦ ?_]
        · rw [phase, phase, hb.of_ne j hj]
          rfl
        · rw [hpushed ev hev]
          exact fun h ↦ hj h.symm
    · rw [hpushed ev hev]
      exact hclosed (List.ne_nil_of_mem hev)

theorem pushedEvents_of_silent (hb : ctx.Becomes ctx' i con' a' []) :
    pushedEvents (ctx, op, ctx') = [] :=
  List.sublist_nil.1 (sublist_pushedEvents hb.queue)

section NotConnect

variable (hop : ∀ now, op ≠ .connect now)
include hop

/-- A change without a word is right if it stays in the phase. -/
theorem keepsStep_iff_of_silent (hb : ctx.Becomes ctx' i con' a' []) :
    KeepsStep (ctx, op, ctx') ↔ ctx.phase i = con'.state.phase cfg.isServer := by
  have hnone : pushedEvents (ctx, op, ctx') = [] := pushedEvents_of_silent hb
  rw [keepsStep_iff hb (by simp) fun j _ h ↦ h.2.elim hop, notices_of_not_connect hop, hnone]
  simp

/-- A CONNECT is right if it is called for and pushed, or if it is lost and nothing changes. -/
theorem keepsStep_iff_of_connect (hb : ctx.Becomes ctx' i con' a' [.connect i]) :
    KeepsStep (ctx, op, ctx') ↔
      if ctx.HasRoom 0 then (ctx.phase i).next cfg.isServer .connect =
          some (con'.state.phase cfg.isServer) ∧ (ctx.connections i).state ≠ .closed
      else ctx.phase i = con'.state.phase cfg.isServer := by
  have hqueue : ctx'.eventqueue.toBoundedQueue =
      ([] ++ [Glbevent.connect i]).foldl BoundedQueue.offer ctx.eventqueue.toBoundedQueue :=
    hb.queue
  obtain ⟨sub, hsub, hpushed⟩ := exists_pushedEvents op hqueue
  obtain rfl := List.sublist_nil.1 hsub
  rw [keepsStep_iff hb (by simp [Glbevent.connection]) fun j _ h ↦ h.2.elim hop,
    notices_of_not_connect hop, hpushed, List.nil_append, List.length_nil]
  split
  · rw [filterMap_notice_connect, Phase.run_singleton]
    simp
  · simp

/-- The end of a slot is right if it is pushed exactly when something ends. -/
theorem keepsStep_iff_of_end {reason : GlbDisconnectReason}
    (hb : ctx.Becomes ctx' i con' a' (evs ++ [.disconnect i reason]))
    (hevs : ∀ ev ∈ evs, ev.connection = i ∧ op.MayAnnounce ctx ev)
    (hclosed : con'.state = .closed) :
    KeepsStep (ctx, op, ctx') ↔ ctx.EndsWell i evs.length := by
  obtain ⟨sub, hsub, hpushed⟩ := exists_pushedEvents op hb.queue
  have hquiet : sub.filterMap (Glbevent.notice i) = [] :=
    filterMap_notice_of_traffic fun ev hev ↦ (hevs ev (hsub.subset hev)).2.1
  -- other events are pushed only for an established slot
  have hopen : sub ≠ [] → (ctx.connections i).state ≠ .closed := by
    intro hne
    obtain ⟨ev, hev⟩ := List.exists_mem_of_ne_nil _ hne
    obtain ⟨rfl, hmay⟩ := hevs ev (hsub.subset hev)
    rw [hmay.2.1]
    decide
  have hphase : ctx.phase i ≠ .idle → (ctx.connections i).state ≠ .closed := by
    intro hne hstate
    rw [phase, hstate] at hne
    exact hne rfl
  have hconnection : ∀ ev ∈ evs ++ [.disconnect i reason], ev.connection = i := by
    intro ev hev
    rcases List.mem_append.1 hev with hev | hev
    · exact (hevs ev hev).1
    · rw [List.mem_singleton.1 hev]
      rfl
  rw [keepsStep_iff hb hconnection fun j _ h ↦ h.2.elim hop, notices_of_not_connect hop, hpushed,
    List.filterMap_append, hquiet, List.nil_append, hclosed, EndsWell]
  by_cases hroom : ctx.HasRoom evs.length
  · rw [if_pos hroom, filterMap_notice_disconnect, Phase.run_singleton]
    refine ⟨fun h ↦ iff_of_true hroom (Phase.next_disconnect_iff _ |>.1 h.1), fun h ↦ ?_⟩
    exact ⟨(Phase.next_disconnect_iff _).2 (h.1 hroom), fun _ ↦ hphase (h.1 hroom)⟩
  · rw [if_neg hroom, List.append_nil, List.filterMap_nil, Phase.run_nil, Option.some_inj]
    refine ⟨fun h ↦ iff_of_false hroom (not_not.2 h.1), fun h ↦ ⟨?_, hopen⟩⟩
    exact by_contra fun hne ↦ hroom (h.2 hne)

theorem keepsStep_iff_of_disconnect {reason : GlbDisconnectReason}
    (hb : ctx.Becomes ctx' i con' a' [.disconnect i reason]) (hclosed : con'.state = .closed) :
    KeepsStep (ctx, op, ctx') ↔ ctx.EndsWell i 0 := by
  have hb' : ctx.Becomes ctx' i con' a' ([] ++ [.disconnect i reason]) := hb
  exact keepsStep_iff_of_end hop hb' (by simp) hclosed

end NotConnect

/-! ### One lemma for each kind of step -/

theorem becomes_glbConnect {now : ℕ} (h : Step ctx (.connect now) ctx') : ∃ i con',
    i.val = 0 ∧ ctx.Becomes ctx' i con' ctx.allocator [] ∧
      con'.state = if cfg.inetAddr.isSome then .synSent else (ctx.connections i).state := by
  obtain ⟨⟨code, ctx''⟩, hconnect, rfl⟩ := Option.map_eq_some_iff.1 h
  by_cases hpos : 0 < cfg.connectionCount
  · rcases haddr : cfg.inetAddr with - | addr <;>
      simp only [glbConnect, hpos, haddr, dif_pos, Option.some.injEq, Prod.mk.injEq, generateSeq,
        setCon_setCon, connections_setCon_self] at hconnect <;>
      obtain ⟨-, rfl⟩ := hconnect <;>
      exact ⟨⟨0, hpos⟩, _, rfl, becomes_setCon _ _ _, rfl⟩
  · simp only [glbConnect, hpos, dif_neg, not_false_eq_true] at hconnect
    cases hconnect

/-- A call of a client is noted, one of a server is not; either begins where nothing is going on. -/
theorem keepsStep_connect_iff {now : ℕ} (h : Step ctx (.connect now) ctx') :
    KeepsStep (ctx, .connect now, ctx') ↔ (Op.connect now : Op cfg).Truthful ctx := by
  obtain ⟨i, con', hi, hb, hstate⟩ := becomes_glbConnect h
  have hnone : pushedEvents (ctx, Op.connect now, ctx') = [] := pushedEvents_of_silent hb
  have hslot : (Op.connect now : Op cfg).Truthful ctx ↔
      (cfg.inetAddr.isSome = true → ctx.phase i = .idle) := by
    refine ⟨fun h haddr ↦ h haddr i hi, fun h haddr j hj ↦ ?_⟩
    rw [Fin.ext (hj.trans hi.symm)]
    exact h haddr
  rw [keepsStep_iff hb (by simp) (fun j hj hcalls ↦ hj (Fin.ext (hcalls.1.2.2.trans hi.symm))),
    hslot, notices, hnone, hstate]
  cases haddr : cfg.inetAddr.isSome with
  | false =>
    rw [if_neg fun h : Calls i (ctx, Op.connect now, ctx') ↦
      Bool.false_ne_true (haddr.symm.trans h.1.2.1)]
    simp [phase]
  | true =>
    cases hserver : cfg.isServer with
    | true =>
      rw [if_neg fun h : Calls i (ctx, Op.connect now, ctx') ↦
        Bool.false_ne_true (h.1.1.symm.trans hserver)]
      simp [GLBConnState.phase]
    | false =>
      have hcalls : Calls i (ctx, Op.connect now, ctx') := ⟨⟨hserver, haddr, hi⟩, now, rfl⟩
      rw [if_pos hcalls]
      cases ctx.phase i <;> simp [Phase.next, GLBConnState.phase]

theorem keepsStep_close {now : ℕ} :
    KeepsStep (ctx, .close i now, (ctx.glbClose i now).2) := by
  have hop : ∀ now', Op.close i now ≠ .connect now' := nofun
  by_cases hstate : (ctx.connections i).state = .established
  · have hb := becomes_setCon ctx i { ctx.connections i with
      state := .finSent
      retry := 0
      time := glbtimeStart now 0 }
    simp only [glbClose, hstate, ne_eq, not_true_eq_false, if_false]
    exact (keepsStep_iff_of_silent hop hb).2 (by rw [phase, hstate]; rfl)
  · have hsame : (ctx.glbClose i now).2 = ctx := by rw [glbClose, if_pos hstate]
    have hstep : Step ctx (.close i now) ctx := congrArg some hsame
    rw [hsame]
    exact (Quiet.refl ctx).keepsStep hstep hop

theorem packet_ne_connect (now : ℕ) : (Op.packet pkg from_ env : Op cfg) ≠ .connect now := by
  intro h
  cases h

section Packet

variable (h : Step ctx (.packet pkg from_ env) ctx')
include h

theorem keepsStep_of_quiet (hq : ctx.Quiet (.packet pkg from_ env) ctx') :
    KeepsStep (ctx, .packet pkg from_ env, ctx') :=
  hq.keepsStep h packet_ne_connect

/-- A new slot is half open, and so not announced. -/
theorem keepsStep_syn_iff (hsyn : pkg.IsSyn) : KeepsStep (ctx, .packet pkg from_ env, ctx') ↔
    ∀ i, ctx.findConnByAddr from_ = some i →
      (ctx.connections i).state = .established ∨ ctx.phase i = .idle := by
  have heq := onSyn_eq_of_handled h hsyn
  rcases haddr : ctx.findConnByAddr from_ with - | i
  · refine iff_of_true ?_ fun i hi ↦ (Option.some_ne_none i hi.symm).elim
    rcases hempty : ctx.findEmptyConn with - | ⟨i, ctx₁⟩
    · refine keepsStep_of_quiet h ?_
      simp only [← heq, onSyn, haddr, hempty]
      exact quiet_glbioSend _ _ _
    · obtain ⟨con', hb, hstate', -⟩ := becomes_onSyn_of_unknown haddr hempty
      rw [heq] at hb
      refine (keepsStep_iff_of_silent packet_ne_connect hb).2 ?_
      rw [phase, (findEmptyConn_eq_some hempty).1, hstate']
      rfl
  · simp only [Option.some_inj, forall_eq']
    by_cases hest : (ctx.connections i).state = .established
    · refine iff_of_true (keepsStep_of_quiet h ?_) (Or.inl hest)
      simp only [← heq, onSyn, haddr, openSyn, hest, if_true]
      exact .refl _
    · have hb := becomes_setCon ctx i { ctx.connections i with
        state := .synRcvd
        retry := 0
        rtt := 0
        lossCount := 0
        peerAddr := from_
        time := glbtimeStart (env.clock 0) 0 }
      rw [← onSyn_of_found haddr hest, heq] at hb
      exact (keepsStep_iff_of_silent packet_ne_connect hb).trans (or_iff_right hest).symm

/-- What is left to show of a branch that looks its slot up by id. -/
theorem keepsStep_iff_of_finds {P : Fin cfg.connectionCount → Prop}
    (hnone : ctx.findConn pkg.header.clientGen pkg.header.clientId = none →
      ctx.Quiet (.packet pkg from_ env) ctx')
    (hsome : ∀ i, pkg.Finds ctx i → (KeepsStep (ctx, .packet pkg from_ env, ctx') ↔ P i)) :
    KeepsStep (ctx, .packet pkg from_ env, ctx') ↔ ∀ i, pkg.Finds ctx i → P i := by
  rcases hfind : ctx.findConn pkg.header.clientGen pkg.header.clientId with - | i
  · refine iff_of_true (keepsStep_of_quiet h (hnone hfind)) fun i hi ↦ ?_
    exact (Option.some_ne_none i (hi.symm.trans hfind)).elim
  · rw [hsome i hfind]
    refine ⟨fun hP j hj ↦ ?_, fun hall ↦ hall i hfind⟩
    rwa [← Option.some_inj.1 (hfind.symm.trans hj)]

theorem keepsStep_ack_iff (hflags : pkg.header.ctrlFlags = ctrlFlagAck) :
    KeepsStep (ctx, .packet pkg from_ env, ctx') ↔
      ∀ i, pkg.Finds ctx i → (ctx.connections i).state = .synRcvd →
        cfg.isServer = true ∧ ctx.HasRoom 0 := by
  have heq : ctx.onAck pkg env = some ctx' := (handlePacket_of_ack hflags).symm.trans h
  refine keepsStep_iff_of_finds h (fun hnone ↦ ?_) fun i hfind ↦ ?_
  · simp only [onAck, hnone, Option.some_inj] at heq
    exact heq ▸ .refl _
  by_cases hrcvd : (ctx.connections i).state = .synRcvd
  · obtain ⟨chs, a', -, hb⟩ := onAck_of_synRcvd hfind hrcvd heq
    rw [keepsStep_iff_of_connect packet_ne_connect hb, phase, hrcvd]
    by_cases hroom : ctx.HasRoom 0 <;> cases cfg.isServer <;>
      simp [hroom, Phase.next, GLBConnState.phase]
  · refine iff_of_true (keepsStep_of_quiet h ?_) fun h ↦ absurd h hrcvd
    have hfind : ctx.findConn pkg.header.clientGen pkg.header.clientId = some i := hfind
    simp only [onAck, hfind] at heq
    rw [if_pos hrcvd] at heq
    exact Option.some_inj.1 heq ▸ .refl _

theorem keepsStep_synAck_iff (hflags : pkg.header.ctrlFlags = ctrlFlagSynAck) :
    KeepsStep (ctx, .packet pkg from_ env, ctx') ↔
      ∀ i : Fin cfg.connectionCount, i.val = 0 → ctx.AcceptsSynAck i env := by
  have heq : ctx.onSynAck pkg env = some ctx' := (handlePacket_of_synAck hflags).symm.trans h
  by_cases hpos : 0 < cfg.connectionCount
  case neg =>
    rw [onSynAck, dif_neg hpos] at heq
    cases heq
  have hslot : (∀ i : Fin cfg.connectionCount, i.val = 0 → ctx.AcceptsSynAck i env) ↔
      ctx.AcceptsSynAck ⟨0, hpos⟩ env :=
    ⟨fun h ↦ h _ rfl, fun h i hi ↦ by rwa [show i = ⟨0, hpos⟩ from Fin.ext hi]⟩
  rw [hslot]
  by_cases hest : (ctx.connections ⟨0, hpos⟩).state = .established
  · refine iff_of_true ?_ (Or.inl hest)
    exact (keepsStep_iff_of_silent packet_ne_connect (onSynAck_of_established hest heq)).2 rfl
  · obtain ⟨chs, a', -, hb⟩ := onSynAck_of_ne hest heq
    rw [keepsStep_iff_of_connect packet_ne_connect hb, AcceptsSynAck, or_iff_right hest, phase]
    -- one case for each state, role and answer of `sendto`
    cases hs : (ctx.connections ⟨0, hpos⟩).state with
    | established => exact absurd hs hest
    | _ =>
      by_cases hroom : ctx.HasRoom 0 <;> cases env.sendOk 0 <;> cases cfg.isServer <;>
        simp [hroom, Phase.next, GLBConnState.phase]

theorem keepsStep_fin_iff (hflags : pkg.header.ctrlFlags = ctrlFlagFin) :
    KeepsStep (ctx, .packet pkg from_ env, ctx') ↔
      ∀ i, pkg.Finds ctx i → env.sendOk 0 = true → (ctx.connections i).state ≠ .closed →
        ctx.EndsWell i 0 := by
  obtain rfl := onFin_eq_of_handled h hflags
  refine keepsStep_iff_of_finds h (fun hnone ↦ ?_) fun i hfind ↦ ?_
  · simp only [onFin, hnone]
    exact .refl _
  have hfind' : ctx.findConn pkg.header.clientGen pkg.header.clientId = some i := hfind
  cases hok : env.sendOk 0 with
  | false =>
    refine iff_of_true (keepsStep_of_quiet h ?_) fun h ↦ absurd h Bool.false_ne_true
    simp only [onFin, hfind', hok]
    exact .of_eq rfl rfl rfl rfl rfl
  | true =>
    by_cases hclosed : (ctx.connections i).state = .closed
    · refine iff_of_true (keepsStep_of_quiet h ?_) fun _ hne ↦ absurd hclosed hne
      simp only [onFin, hfind', hok, hclosed, glbioSend_of_ok, ne_eq, not_true_eq_false, if_false]
      exact .of_eq rfl rfl rfl rfl rfl
    · have hb := becomes_onFin hfind hok hclosed
      simpa [hclosed] using keepsStep_iff_of_disconnect packet_ne_connect hb rfl

theorem keepsStep_finAck_iff (hflags : pkg.header.ctrlFlags = ctrlFlagFinAck) :
    KeepsStep (ctx, .packet pkg from_ env, ctx') ↔
      ∀ i, pkg.Finds ctx i → (ctx.connections i).state ≠ .closed → ctx.EndsWell i 0 := by
  obtain rfl := onFinAck_eq_of_handled h hflags
  refine keepsStep_iff_of_finds h (fun hnone ↦ ?_) fun i hfind ↦ ?_
  · simp only [onFinAck, hnone]
    exact .refl _
  have hfind' : ctx.findConn pkg.header.clientGen pkg.header.clientId = some i := hfind
  by_cases hclosed : (ctx.connections i).state = .closed
  · refine iff_of_true (keepsStep_of_quiet h ?_) fun hne ↦ absurd hclosed hne
    simp only [onFinAck, hfind', hclosed, ne_eq, not_true_eq_false, if_false]
    exact .refl _
  · have hb := becomes_onFinAck hfind hclosed
    simpa [hclosed] using keepsStep_iff_of_disconnect packet_ne_connect hb rfl

/-- An RST reports an end, whatever the state of the slot. -/
theorem keepsStep_rst_iff (hflags : pkg.header.ctrlFlags = ctrlFlagRst) :
    KeepsStep (ctx, .packet pkg from_ env, ctx') ↔ ∀ i, pkg.Finds ctx i → ctx.EndsWell i 0 := by
  obtain rfl := onRst_eq_of_handled h hflags
  refine keepsStep_iff_of_finds h (fun hnone ↦ ?_) fun i hfind ↦ ?_
  · rw [onRst, hnone]
    exact .refl _
  by_cases hest : (ctx.connections i).state = .established
  · have hb := becomes_closeCon ctx i .reset
    rw [← onRst_of_established hfind hest] at hb
    exact keepsStep_iff_of_disconnect packet_ne_connect hb rfl
  · have hb := becomes_onRst_of_ne hfind hest
    exact keepsStep_iff_of_disconnect packet_ne_connect hb rfl

end Packet

/-- The flags tell which of the six conditions is meant. -/
theorem keepsStep_packet_iff (h : Step ctx (.packet pkg from_ env) ctx') :
    KeepsStep (ctx, .packet pkg from_ env, ctx') ↔ ctx.Announces pkg from_ env := by
  have hsynAck : ctrlFlagSynAck = 0x03 := rfl
  have hfinAck : ctrlFlagFinAck = 0x42 := rfl
  have hdataAck : ctrlFlagDataAck = 0x12 := rfl
  cases handlePacket_cases h with
  | syn hsyn =>
    rw [keepsStep_syn_iff h hsyn]
    simp [Announces, hsyn, hsyn.1, ctrlFlagSyn, ctrlFlagAck, ctrlFlagFin, ctrlFlagRst, hsynAck,
      hfinAck]
  | ack hflags =>
    rw [keepsStep_ack_iff h hflags]
    simp [Announces, Glbpkg.IsSyn, hflags, ctrlFlagSyn, ctrlFlagAck, ctrlFlagFin, ctrlFlagRst,
      hsynAck, hfinAck]
  | synAck hflags =>
    rw [keepsStep_synAck_iff h hflags]
    simp [Announces, Glbpkg.IsSyn, hflags, ctrlFlagSyn, ctrlFlagAck, ctrlFlagFin, ctrlFlagRst,
      hsynAck, hfinAck]
  | fin hflags =>
    rw [keepsStep_fin_iff h hflags]
    simp [Announces, Glbpkg.IsSyn, hflags, ctrlFlagSyn, ctrlFlagAck, ctrlFlagFin, ctrlFlagRst,
      hsynAck, hfinAck]
  | finAck hflags =>
    rw [keepsStep_finAck_iff h hflags]
    simp [Announces, Glbpkg.IsSyn, hflags, ctrlFlagSyn, ctrlFlagAck, ctrlFlagFin, ctrlFlagRst,
      hsynAck, hfinAck]
  | rst hflags =>
    rw [keepsStep_rst_iff h hflags]
    simp [Announces, Glbpkg.IsSyn, hflags, ctrlFlagSyn, ctrlFlagAck, ctrlFlagFin, ctrlFlagRst,
      hsynAck, hfinAck]
  | data hflags hdata =>
    refine iff_of_true (keepsStep_of_quiet h (onData_quiet hflags hdata)) ?_
    simp [Announces, Glbpkg.IsSyn, hflags, ctrlFlagSyn, ctrlFlagAck, ctrlFlagFin, ctrlFlagRst,
      ctrlFlagData, hsynAck, hfinAck]
  | dataAck hflags hdata =>
    refine iff_of_true (keepsStep_of_quiet h (onDataAck_quiet hflags hdata)) ?_
    simp [Announces, Glbpkg.IsSyn, hflags, ctrlFlagSyn, ctrlFlagAck, ctrlFlagFin, ctrlFlagRst,
      hsynAck, hfinAck, hdataAck]
  | ping hflags =>
    refine iff_of_true (keepsStep_of_quiet h (quiet_glbioSend _ _ _)) ?_
    simp [Announces, Glbpkg.IsSyn, hflags, ctrlFlagSyn, ctrlFlagAck, ctrlFlagFin, ctrlFlagRst,
      ctrlFlagPing, hsynAck, hfinAck]
  | pong hflags =>
    refine iff_of_true (keepsStep_of_quiet h onPong_quiet) ?_
    simp [Announces, Glbpkg.IsSyn, hflags, ctrlFlagSyn, ctrlFlagAck, ctrlFlagFin, ctrlFlagRst,
      ctrlFlagPong, hsynAck, hfinAck]
  | ignored hsyn hflags =>
    refine iff_of_true (keepsStep_of_quiet h (.refl _)) ?_
    simp only [handledFlags, List.mem_cons, List.not_mem_nil, or_false, not_or] at hflags
    simp [Announces, hsyn, hflags]

/-! ### Timers -/

theorem timers_ne_connect (now : ℕ) : (Op.timers i env : Op cfg) ≠ .connect now := by
  intro h
  cases h

theorem keepaliveTimer_of_due
    (hdue : glbtimeIsexpired (ctx.connections i).keepalive
      (env.clock (2 * cfg.channelCount + 2)) = true)
    (hlimit : (ctx.connections i).keepaliveRetry.toNat > glbKeepaliveRetry) :
    ctx.keepaliveTimer i env = ctx.closeCon i .timeout := by
  rw [keepaliveTimer]
  simp only [hdue, hlimit, if_true]

/-- The end that the timers report. -/
theorem becomes_of_givesUp (h : ctx.handleTimers i env = some ctx') (hgives : ctx.GivesUp i env) :
    ∃ con' a' evs, ctx.Becomes ctx' i con' a' (evs ++ [.disconnect i .timeout]) ∧
      con'.state = .closed ∧ evs.length = ctx.stalledFirst i env ∧
      ∀ ev ∈ evs, ev.connection = i ∧ (Op.timers i env).MayAnnounce ctx ev := by
  cases hstate : (ctx.connections i).state with
  | closed => simp [GivesUp, hstate] at hgives
  | synRcvd => simp [GivesUp, hstate] at hgives
  | synSent =>
    obtain ⟨hdue, hlimit⟩ : _ ∧ _ := by simpa only [GivesUp, hstate] using hgives
    simp only [handleTimers, hstate, hdue, hlimit, if_true, Option.some_inj] at h
    have hset := becomes_setCon ctx i { ctx.connections i with state := .closed }
    have hpush := becomes_pushEvent
      (ctx.setCon i { ctx.connections i with state := .closed }) i (.disconnect i .timeout)
    rw [hset.self] at hpush
    exact ⟨_, _, [], h ▸ hset.trans hpush, rfl, by simp [stalledFirst, hstate], by simp⟩
  | finSent =>
    obtain ⟨hdue, hlimit⟩ : _ ∧ _ := by simpa only [GivesUp, hstate] using hgives
    simp only [handleTimers, hstate, hdue, hlimit, if_true, Option.some_inj] at h
    exact ⟨_, _, [], h ▸ becomes_closeCon ctx i .timeout, rfl, by simp [stalledFirst, hstate],
      by simp⟩
  | established =>
    obtain ⟨hdue, hlimit⟩ : _ ∧ _ := by simpa only [GivesUp, hstate] using hgives
    obtain ⟨chs, hchs, rfl⟩ := handleTimers_established_eq hstate h
    have hpass := passes_foldl_transmit env (List.nodup_finRange cfg.channelCount) hchs
    have hop : (Op.timers i env).Sends i := rfl
    obtain ⟨con', evs, hb, -, hevs⟩ :=
      foldl_transmit_quietAt hop ctx env (List.finRange cfg.channelCount) hstate
    have hclose := becomes_closeCon ((List.finRange cfg.channelCount).foldl
      (fun ctx c ↦ ctx.transmit i env c) ctx) i .timeout
    rw [← keepaliveTimer_of_due (by rw [hpass.con]; exact hdue) (by rw [hpass.con]; exact hlimit)]
      at hclose
    have hlength : evs.length = ctx.stalledFirst i env := by
      have hsame := List.append_cancel_left (hb.offered.symm.trans hpass.offered)
      rw [hsame, List.length_map, stalledFirst, if_pos hstate, hchs]
      rfl
    exact ⟨_, _, evs, hb.trans hclose, rfl, hlength, hevs⟩

/-- Timers that report no end are quiet, or drop a half open slot. -/
theorem keepsStep_of_not_givesUp (h : Step ctx (.timers i env) ctx') (hnot : ¬ ctx.GivesUp i env) :
    KeepsStep (ctx, .timers i env, ctx') := by
  have hquiet : ctx.Quiet (.timers i env) ctx' → KeepsStep (ctx, .timers i env, ctx') := fun hq ↦
    hq.keepsStep h timers_ne_connect
  have htimers : ctx.handleTimers i env = some ctx' := h
  cases hstate : (ctx.connections i).state with
  | closed =>
    simp only [handleTimers, hstate, Option.some_inj] at htimers
    exact hquiet (htimers ▸ .refl _)
  | synSent =>
    rw [GivesUp, hstate] at hnot
    simp only [handleTimers, hstate] at htimers
    split at htimers
    · next hdue =>
      rw [if_neg fun hlimit ↦ hnot ⟨hdue, hlimit⟩] at htimers
      exact hquiet (Option.some_inj.1 htimers ▸ retrySend_quietAt.quiet)
    · exact hquiet (Option.some_inj.1 htimers ▸ .refl _)
  | finSent =>
    rw [GivesUp, hstate] at hnot
    simp only [handleTimers, hstate] at htimers
    split at htimers
    · next hdue =>
      rw [if_neg fun hlimit ↦ hnot ⟨hdue, hlimit⟩] at htimers
      exact hquiet (Option.some_inj.1 htimers ▸ retrySend_quietAt.quiet)
    · exact hquiet (Option.some_inj.1 htimers ▸ .refl _)
  | synRcvd =>
    simp only [handleTimers, hstate] at htimers
    split at htimers
    · split at htimers
      · have hb := becomes_setCon ctx i { ctx.connections i with state := .closed }
        rw [Option.some_inj.1 htimers] at hb
        exact (keepsStep_iff_of_silent timers_ne_connect hb).2 (by rw [phase, hstate]; rfl)
      · exact hquiet (Option.some_inj.1 htimers ▸ retrySend_quietAt.quiet)
    · exact hquiet (Option.some_inj.1 htimers ▸ .refl _)
  | established =>
    rw [GivesUp, hstate] at hnot
    obtain ⟨chs, hchs, rfl⟩ := handleTimers_established_eq hstate htimers
    have hpass := passes_foldl_transmit env (List.nodup_finRange cfg.channelCount) hchs
    have hop : (Op.timers i env).Sends i := rfl
    have htransmit := foldl_transmit_quietAt hop ctx env (List.finRange cfg.channelCount) hstate
    rcases keepaliveTimer_cases ((List.finRange cfg.channelCount).foldl
      (fun ctx c ↦ ctx.transmit i env c) ctx) i env with ⟨hgives, -⟩ | hkeep
    · rw [hpass.con] at hgives
      exact absurd hgives hnot
    · exact hquiet (htransmit.trans hkeep).quiet

/-- **The timers of a slot announce the truth** if a slot that is given up ends well. -/
theorem keepsStep_timers_iff (h : Step ctx (.timers i env) ctx') :
    KeepsStep (ctx, .timers i env, ctx') ↔
      (ctx.GivesUp i env → ctx.EndsWell i (ctx.stalledFirst i env)) := by
  by_cases hgives : ctx.GivesUp i env
  · obtain ⟨con', a', evs, hb, hclosed, hlength, hevs⟩ := becomes_of_givesUp h hgives
    rw [keepsStep_iff_of_end timers_ne_connect hb hevs hclosed, hlength]
    exact ⟨fun h _ ↦ h, fun h ↦ h hgives⟩
  · exact iff_of_true (keepsStep_of_not_givesUp h hgives) fun h ↦ absurd h hgives

/-! ### Whole runs -/

/-- **A step keeps announcements and states together if and only if it is truthful.** -/
theorem keepsStep_iff_truthful (h : Step ctx op ctx') :
    KeepsStep (ctx, op, ctx') ↔ op.Truthful ctx := by
  cases op with
  | connect now => exact keepsStep_connect_iff h
  | packet pkg from_ env => exact keepsStep_packet_iff h
  | timers i env => exact keepsStep_timers_iff h
  | close i now =>
    obtain rfl : (ctx.glbClose i now).2 = ctx' := Option.some_inj.1 h
    exact iff_of_true keepsStep_close trivial
  | send info now =>
    obtain ⟨⟨code, ctx''⟩, hsend, rfl⟩ := Option.map_eq_some_iff.1 h
    exact iff_of_true ((glbSend_quiet hsend).keepsStep h nofun) trivial
  | pollevent =>
    obtain rfl : ctx.glbPollevent.2.2 = ctx' := Option.some_inj.1 h
    exact iff_of_true (glbPollevent_quiet.keepsStep h nofun) trivial
  | popdata info =>
    obtain ⟨⟨code, data, ctx''⟩, hpop, rfl⟩ := Option.map_eq_some_iff.1 h
    exact iff_of_true ((glbPopdata_quiet hpop).keepsStep h nofun) trivial
  | readError =>
    obtain rfl : { ctx with error := .recvFailed } = ctx' := Option.some_inj.1 h
    have hq : ctx.Quiet .readError { ctx with error := .recvFailed } := .of_eq rfl rfl rfl rfl rfl
    exact iff_of_true (hq.keepsStep h nofun) trivial

/-- The announcements go on making sense if the last step keeps them together with the states. -/
theorem announced_append_iff {ts : List (Transition cfg)} (hI : Announced ts ctx) :
    Announced (ts ++ [(ctx, op, ctx')]) ctx' ↔ KeepsStep (ctx, op, ctx') := by
  have hstory : ∀ i, Phase.idle.run cfg.isServer (story i (ts ++ [(ctx, op, ctx')])) =
      (ctx.phase i).run cfg.isServer (notices i (ctx, op, ctx')) := by
    intro i
    rw [story_append_singleton, Phase.run_append, hI.story i, Option.bind_some]
  constructor
  · intro h
    exact ⟨fun i ↦ (hstory i).symm.trans (h.story i), h.closed _ (by simp)⟩
  · intro h
    refine ⟨fun i ↦ (hstory i).trans (h.notices i), fun x hx ↦ ?_⟩
    rcases List.mem_append.1 hx with hx | hx
    · exact hI.closed x hx
    · rcases List.mem_singleton.1 hx with rfl
      exact h.closed

/-- **The announcements, exactly.** In every run, the CONNECT and DISCONNECT events pushed for every
slot make sense for the role of the context and fit the states all along if and only if every step
was truthful. -/
theorem announced_iff {ts : List (Transition cfg)} (hrun : Run ts ctx) :
    (∀ ts₁ ctx₁, ts₁ <+: ts → Run ts₁ ctx₁ → Announced ts₁ ctx₁) ↔
      ∀ x ∈ ts, x.2.1.Truthful x.1 := by
  refine Execution.iff_of_step (I := Announced) (A := fun _ ↦ True)
    (C := fun x ↦ x.2.1.Truthful x.1) ?_ ?_ (fun _ _ hI ↦ hI) hrun ?_ fun _ _ ↦ trivial
  · intro ts t a u hI hstep _ htruth
    exact (announced_append_iff hI).2 ((keepsStep_iff_truthful hstep).2 htruth)
  · intro ts t a u hI hstep _ hQ
    exact (keepsStep_iff_truthful hstep).1 ((announced_append_iff hI).1 hQ)
  · refine ⟨fun i ↦ ?_, by simp⟩
    show some Phase.idle = some ((init cfg).phase i)
    rfl

/-- A client that connects, is answered and is closed by its peer: one CONNECT, one DISCONNECT. -/
theorem announced_connect_fin : ∃ ts ctx, @Run Glbcfg.sampleClient ts ctx ∧
    story ⟨0, by decide⟩ ts = [.call, .connect, .disconnect] ∧ Announced ts ctx := by
  have hstory : (Execution.perform step
      [.connect 1,
        .packet (glbpkgInit ⟨1, 0⟩ ctrlFlagSynAck 0) ⟨0x0100007F, 0x5C11⟩ (Env.at 2),
        .packet (glbpkgInit ⟨1, 0⟩ ctrlFlagFin 0) ⟨0x0100007F, 0x5C11⟩ (Env.at 3)]
      (init Glbcfg.sampleClient)).map (fun r ↦ (story ⟨0, by decide⟩ r.1,
        decide (∀ x ∈ r.1, x.2.1.Truthful x.1))) =
      some ([.call, .connect, .disconnect], true) := by decide
  obtain ⟨r, hr, h⟩ := Option.map_eq_some_iff.1 hstory
  obtain ⟨hstory, htruth⟩ := Prod.mk.inj h
  exact ⟨r.1, r.2, run_of_perform hr, hstory,
    (announced_iff (run_of_perform hr)).2 (of_decide_eq_true htruth) _ _ (List.prefix_refl _)
      (run_of_perform hr)⟩

/-! ### An RST for a slot nobody uses -/

/-- A fresh server gets an RST that carries the id of its unused slots. -/
def rstForUnused : List (Op Glbcfg.sampleServer) :=
  [.packet (glbpkgInit ⟨0, 0⟩ ctrlFlagRst 0) ⟨0x0100007F, 0x1234⟩ (Env.at 1)]

/-- The announcements do not always make sense: `rstForUnused` gets the application a DISCONNECT
for a connection it never had. -/
theorem not_always_announced : ¬ ∀ (cfg : Glbcfg) (ts : List (Transition cfg))
    (ctx : Glbctx cfg), Run ts ctx → Announced ts ctx := by
  intro h
  have hstory : (Execution.perform step rstForUnused (init _)).map (fun r ↦
      story ⟨0, by decide⟩ r.1) = some [.disconnect] := by decide
  obtain ⟨r, hr, hstory⟩ := Option.map_eq_some_iff.1 hstory
  have hrun := (h _ _ _ (run_of_perform hr)).story ⟨0, by decide⟩
  rw [hstory] at hrun
  cases hrun

end Glbctx

end Gilberta
