import Gilberta.Effects.Emission

/-!
# A pass over the send queues, channel by channel

`transmit_effect` says what a pass of the timers may do to a channel; here is what it does. Whether
the head of a send queue is due, what is left in the queue, what goes to the socket and what is
reported as stalled depend on the channel and on the surroundings alone (`Glbchannel.due`, `passed`,
`sent`, `stalls`), and the loop of the source does this for each channel separately
(`passes_foldl_transmit`): no channel sees what the pass did to another one. The keepalive that
follows touches none of it unless it closes the slot (`handleTimers_passes`).
-/

namespace Gilberta

variable {cfg : Glbcfg}

namespace Glbchannel

variable (chan : Glbchannel) (env : Env) (c : ℕ)

/-- The head of the send queue, if its timer ran out. -/
def due : Option Glbpkg :=
  chan.sQueue.elems.head?.filter fun head ↦ glbtimeIsexpired head.timestamp (env.clock (2 * c + 2))

/-- What a pass makes of the channel. -/
def passed : Glbchannel :=
  if (chan.due env c).isNone then chan
  else if chan.reliable then
    { chan with sQueue := chan.sQueue.writeHead (Glbctx.retransmitted · (env.clock (2 * c + 3))) }
  else { chan with sQueue := chan.sQueue.pop.2.2 }

/-- What a pass hands to the socket for the channel. -/
def sent : List Glbpkg :=
  if env.sendOk (c + 1) then (chan.due env c).toList.map Glbpkg.seal else []

/-- The numbers a pass reports as stalled. -/
def stalls : List UInt32 :=
  match chan.due env c with
  | none => []
  | some head =>
    if chan.reliable ∧ (head.retransmitCount + 1).toNat > glbMaxRetry then [head.header.seq] else []

variable {chan env c}

theorem due_eq_some {head : Glbpkg} (h : chan.due env c = some head) :
    ∃ rest, chan.sQueue.elems = head :: rest := by
  obtain ⟨hhead, -⟩ := Option.filter_eq_some_iff.1 h
  exact List.head?_eq_some_iff.1 hhead

end Glbchannel

/-- What a pass over the channels `cs` makes of a channel array. -/
def Glbchannels.passed {m : ℕ} (chs : Glbchannels m) (env : Env) (cs : List (Fin m)) :
    Glbchannels m where
  block := chs.block
  chan c := if c ∈ cs then (chs.chan c).passed env c else chs.chan c

/-- The numbers a pass over the channels `cs` reports as stalled. -/
def Glbchannels.stalls {m : ℕ} (chs : Glbchannels m) (env : Env) (cs : List (Fin m)) :
    List UInt32 :=
  cs.flatMap fun c ↦ (chs.chan c).stalls env c

namespace Glbctx

variable {ctx ctx' : Glbctx cfg} {i : Fin cfg.connectionCount} {c : Fin cfg.channelCount}
  {cs : List (Fin cfg.channelCount)} {chs : Glbchannels cfg.channelCount} {env : Env}

/-- `ctx'` is `ctx` after a pass over the channels `cs` of slot `i`, whose array is `chs`. -/
structure Passes (i : Fin cfg.connectionCount) (env : Env) (cs : List (Fin cfg.channelCount))
    (chs : Glbchannels cfg.channelCount) (ctx ctx' : Glbctx cfg) : Prop where
  /-- The slot has the channels after the pass, and counts what was reported as lost. -/
  con : ctx'.connections i = { ctx.connections i with
    channels := some (chs.passed env cs)
    lossCount := (ctx.connections i).lossCount + UInt32.ofNat (chs.stalls env cs).length }
  /-- The other slots are as they were. -/
  of_ne : ∀ j, j ≠ i → ctx'.connections j = ctx.connections j
  /-- What is due was handed to the socket, for the peer. -/
  sock : ctx'.sock = ctx.sock ++
    (cs.flatMap fun c ↦ (chs.chan c).sent env c).map (⟨·, (ctx.connections i).peerAddr⟩)
  /-- What stalled was reported. -/
  offered : ctx'.offered = ctx.offered ++ (chs.stalls env cs).map (.stalled i)

/-! ### One channel -/

theorem passed_of_due_none (h : (chs.chan c).due env c = none) : chs.passed env [c] = chs := by
  have hchan : (chs.passed env [c]).chan = chs.chan := by
    funext d
    simp only [Glbchannels.passed, Glbchannel.passed, List.mem_singleton]
    split
    · next hd =>
      subst hd
      rw [h]
      rfl
    · rfl
  exact congrArg (Glbchannels.mk chs.block) hchan

theorem set_eq_passed {chan : Glbchannel} (h : chan = (chs.chan c).passed env c) :
    chs.set c chan = chs.passed env [c] := by
  subst h
  refine congrArg (Glbchannels.mk chs.block) ?_
  funext d
  simp only [List.mem_singleton]
  split
  · next hd => rw [hd]
  · rfl

/-- Nothing is due: nothing happens. -/
theorem passes_of_due_none (hchs : (ctx.connections i).channels = some chs)
    (h : (chs.chan c).due env c = none) : Passes i env [c] chs ctx ctx where
  con := by
    have hstalls : chs.stalls env [c] = [] := by simp [Glbchannels.stalls, Glbchannel.stalls, h]
    rw [passed_of_due_none h, hstalls, ← hchs]
    simp
  of_ne := fun _ _ ↦ rfl
  sock := by simp [Glbchannel.sent, h]
  offered := by simp [Glbchannels.stalls, Glbchannel.stalls, h]

/-- **The transmission on one channel.** -/
theorem passes_transmit (env : Env) (c : Fin cfg.channelCount)
    (hchs : (ctx.connections i).channels = some chs) :
    Passes i env [c] chs ctx (ctx.transmit i env c) := by
  rcases hdue : (chs.chan c).due env c with - | head
  · have hidle : ctx.transmit i env c = ctx := by
      simp only [transmit, hchs]
      split
      · next head hpeek =>
        obtain ⟨-, rest, hhead⟩ := Glbqueue.peek_eq_some hpeek
        refine if_neg fun hexp ↦ ?_
        simp [Glbchannel.due, hhead, Option.filter, hexp] at hdue
      · rfl
    rw [hidle]
    exact passes_of_due_none hchs hdue
  obtain ⟨rest, helems⟩ := Glbchannel.due_eq_some hdue
  have hexp : glbtimeIsexpired head.timestamp (env.clock (2 * c + 2)) = true :=
    (Option.filter_eq_some_iff.1 hdue).2
  have hpeek : (chs.chan c).sQueue.peek = (.success, some head) := by rw [Glbqueue.peek, helems]
  have hsock : (ctx.glbioSend head (ctx.connections i).peerAddr (env.sendOk (c + 1))).2.sock =
      ctx.sock ++ (([c].flatMap fun c ↦ (chs.chan c).sent env c).map
        (⟨·, (ctx.connections i).peerAddr⟩)) := by
    rw [sock_glbioSend]
    cases hok : env.sendOk (c + 1) <;> simp [Glbchannel.sent, hdue, hok]
  simp only [transmit, hchs, hpeek, hexp, if_true]
  cases hrel : (chs.chan c).reliable with
  | false =>
    have hstalls : chs.stalls env [c] = [] := by
      simp [Glbchannels.stalls, Glbchannel.stalls, hdue, hrel]
    have hpassed : { chs.chan c with sQueue := (chs.chan c).sQueue.pop.2.2 } =
        (chs.chan c).passed env c := by simp [Glbchannel.passed, hdue, hrel]
    refine ⟨?_, fun j hj ↦ ?_, hsock, ?_⟩
    · simp [setChan, hchs, set_eq_passed hpassed, hstalls]
    · simp [setChan, connections_setCon_of_ne _ _ hj]
    · simp [setChan, hstalls]
  | true =>
    have hpassed : { chs.chan c with
        sQueue := (chs.chan c).sQueue.writeHead (retransmitted · (env.clock (2 * c + 3))) } =
        (chs.chan c).passed env c := by simp [Glbchannel.passed, hdue, hrel]
    rw [if_neg (by decide), countTransmission]
    dsimp only
    split
    · next hstall =>
      have hstalls : chs.stalls env [c] = [head.header.seq] := by
        simp only [Glbchannels.stalls, Glbchannel.stalls, List.flatMap_singleton, hdue,
          if_pos (And.intro hrel hstall)]
      refine ⟨?_, fun j hj ↦ ?_, hsock, ?_⟩
      · simp [setChan, hchs, set_eq_passed hpassed, hstalls]
      · simp [setChan, connections_setCon_of_ne _ _ hj]
      · simp [setChan, hstalls]
    · next hstall =>
      have hstalls : chs.stalls env [c] = [] := by
        simp only [Glbchannels.stalls, Glbchannel.stalls, List.flatMap_singleton, hdue,
          if_neg fun h : _ ∧ _ ↦ hstall h.2]
      refine ⟨?_, fun j hj ↦ ?_, hsock, ?_⟩
      · simp [setChan, hchs, set_eq_passed hpassed, hstalls]
      · simp [setChan, connections_setCon_of_ne _ _ hj]
      · simp [setChan, hstalls]

/-! ### All channels -/

theorem Passes.trans {ctx'' : Glbctx cfg} {c : Fin cfg.channelCount} (hc : c ∉ cs)
    (h : Passes i env [c] chs ctx ctx') (h' : Passes i env cs (chs.passed env [c]) ctx' ctx'') :
    Passes i env (c :: cs) chs ctx ctx'' := by
  -- the pass over `c` leaves the channels that follow as they were
  have hsame : ∀ d ∈ cs, (chs.passed env [c]).chan d = chs.chan d := by
    intro d hd
    refine if_neg fun hdc ↦ hc ?_
    rwa [← List.mem_singleton.1 hdc]
  have hpassed : (chs.passed env [c]).passed env cs = chs.passed env (c :: cs) := by
    refine congrArg (Glbchannels.mk chs.block) ?_
    funext d
    by_cases hd : d ∈ cs
    · simp only [hsame d hd, hd, List.mem_cons_of_mem, if_true]
    · simp [Glbchannels.passed, hd]
  have hstalls : (chs.passed env [c]).stalls env cs = chs.stalls env cs := by
    refine List.flatMap_congr fun d hd ↦ ?_
    rw [hsame d hd]
  have hsent : (cs.flatMap fun d ↦ ((chs.passed env [c]).chan d).sent env d) =
      cs.flatMap fun d ↦ (chs.chan d).sent env d :=
    List.flatMap_congr fun d hd ↦ by rw [hsame d hd]
  have hcons : chs.stalls env (c :: cs) = chs.stalls env [c] ++ chs.stalls env cs := by
    simp [Glbchannels.stalls]
  refine ⟨?_, fun j hj ↦ (h'.of_ne j hj).trans (h.of_ne j hj), ?_, ?_⟩
  · simp only [h'.con, h.con, hpassed, hstalls, hcons, List.length_append, UInt32.ofNat_add,
      UInt32.add_assoc]
  · rw [h'.sock, h.sock, hsent, h.con]
    simp
  · rw [h'.offered, h.offered, hstalls, hcons, List.map_append, List.append_assoc]

/-- **The transmission loop**, over channels that are pairwise different. -/
theorem passes_foldl_transmit (env : Env) (hcs : cs.Nodup)
    (hchs : (ctx.connections i).channels = some chs) :
    Passes i env cs chs ctx (cs.foldl (fun ctx c ↦ ctx.transmit i env c) ctx) := by
  induction cs generalizing ctx chs with
  | nil =>
    have hpassed : chs.passed env [] = chs := by
      refine congrArg (Glbchannels.mk chs.block) ?_
      funext d
      exact if_neg List.not_mem_nil
    refine ⟨?_, fun _ _ ↦ rfl, by simp, by simp [Glbchannels.stalls]⟩
    rw [hpassed, ← hchs]
    simp [Glbchannels.stalls]
  | cons c cs ih =>
    obtain ⟨hc, hnodup⟩ := List.nodup_cons.1 hcs
    have h := passes_transmit env c hchs
    exact h.trans hc (ih hnodup (by rw [h.con]))

/-! ### The keepalive -/

/-- What the keepalive leaves of a slot: it is closed, or only the fields of the keepalive
change. -/
theorem connections_keepaliveTimer (ctx : Glbctx cfg) (i : Fin cfg.connectionCount) (env : Env) :
    (∃ t n, (ctx.keepaliveTimer i env).connections i =
        { ctx.connections i with keepalive := t, keepaliveRetry := n } ∧
      (ctx.keepaliveTimer i env).offered = ctx.offered) ∨
    ((ctx.keepaliveTimer i env).connections i =
        { ctx.connections i with state := .closed, channels := none } ∧
      (ctx.keepaliveTimer i env).offered = ctx.offered ++ [.disconnect i .timeout]) := by
  rw [keepaliveTimer]
  dsimp only
  split
  · split
    · have hclose := becomes_closeCon ctx i .timeout
      exact Or.inr ⟨hclose.self, hclose.offered⟩
    · exact Or.inl ⟨_, _, by rw [connections_setCon_self], by simp⟩
  · exact Or.inl ⟨_, _, rfl, rfl⟩

/-- **A pass of the timers of an established slot** is a pass over all its channels, and then the
keepalive. -/
theorem handleTimers_passes (hest : (ctx.connections i).state = .established)
    (h : ctx.handleTimers i env = some ctx') :
    ∃ chs ctx₁, (ctx.connections i).channels = some chs ∧
      Passes i env (List.finRange cfg.channelCount) chs ctx ctx₁ ∧
      ctx' = ctx₁.keepaliveTimer i env := by
  obtain ⟨chs, hchs, rfl⟩ := handleTimers_established_eq hest h
  exact ⟨chs, _, hchs, passes_foldl_transmit env (List.nodup_finRange _) hchs, rfl⟩

end Glbctx

end Gilberta
