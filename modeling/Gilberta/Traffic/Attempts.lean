import Gilberta.Effects.Timers
import Gilberta.Traffic.SendQueues

/-!
# What the timers try to send

Whether a retry counts does not depend on `sendto`: the counter and the deadline move even if the
datagram is refused. `attempted` is therefore what would leave if nothing were refused, and
`sublist_attempted` says that what does leave is part of it. The timer of a state tries to send its
packet exactly when it is due and has retries left (`attempts_timers`); the messages an established
slot sends in the same pass are not PINGs, because of what send queues hold.
-/

namespace Gilberta

variable {cfg : Glbcfg}

namespace Glbctx

/-- The datagrams the timers of a slot hand to `sendto`: those that leave when `sendto` takes all of
them. -/
def attempted (ctx : Glbctx cfg) (i : Fin cfg.connectionCount) (env : Env) : List Datagram :=
  match ctx.handleTimers i { env with sendOk := fun _ ↦ true } with
  | none => []
  | some ctx' => ctx'.sock.drop ctx.sock.length

end Glbctx

/-- How many packets with the given flags the timers of slot `i` try to send in one operation. -/
def Op.attempts (ctx : Glbctx cfg) (i : Fin cfg.connectionCount) (flags : UInt8) : Op cfg → ℕ
  | .timers j env =>
    if i = j then (ctx.attempted i env).countP fun d ↦ d.pkg.header.ctrlFlags = flags else 0
  | .connect _ | .close _ _ | .send _ _ | .pollevent | .popdata _ | .readError | .packet _ _ _ => 0

namespace Glbctx

variable {ctx ctx' : Glbctx cfg} {op : Op cfg} {i : Fin cfg.connectionCount} {env : Env}
  {rule : TimerRule}

theorem attempted_eq {ds : List Datagram}
    (h : ctx.handleTimers i { env with sendOk := fun _ ↦ true } = some ctx')
    (hsock : ctx'.sock = ctx.sock ++ ds) : ctx.attempted i env = ds := by
  simp only [attempted, h, hsock, List.drop_left]

/-! ### What leaves and what does not -/

/-- Two contexts that differ only in what `sendto` did since the sockets held `base`: the first lost
some of the datagrams that left the second. -/
def Loses (base : List Datagram) (ctx₁ ctx₂ : Glbctx cfg) : Prop :=
  ∃ ds₁ ds₂ e, ctx₁ = { ctx₂ with sock := base ++ ds₁, error := e } ∧ ctx₂.sock = base ++ ds₂ ∧
    ds₁.Sublist ds₂

section Loses

variable {base : List Datagram} {ctx₁ ctx₂ : Glbctx cfg}

theorem Loses.refl (ctx : Glbctx cfg) : Loses ctx.sock ctx ctx :=
  ⟨[], [], ctx.error, by rw [List.append_nil], (List.append_nil _).symm, List.Sublist.slnil⟩

theorem Loses.connections_eq (h : Loses base ctx₁ ctx₂) : ctx₁.connections = ctx₂.connections := by
  obtain ⟨ds₁, ds₂, e, rfl, -⟩ := h
  rfl

theorem Loses.setCon (h : Loses base ctx₁ ctx₂) (con : Glbconn cfg) :
    Loses base (ctx₁.setCon i con) (ctx₂.setCon i con) := by
  obtain ⟨ds₁, ds₂, e, rfl, hsock, hsub⟩ := h
  exact ⟨ds₁, ds₂, e, rfl, hsock, hsub⟩

theorem Loses.setChan (h : Loses base ctx₁ ctx₂) (c : Fin cfg.channelCount) (chan : Glbchannel) :
    Loses base (ctx₁.setChan i c chan) (ctx₂.setChan i c chan) := by
  obtain ⟨ds₁, ds₂, e, rfl, hsock, hsub⟩ := h
  exact ⟨ds₁, ds₂, e, rfl, hsock, hsub⟩

theorem Loses.pushEvent (h : Loses base ctx₁ ctx₂) (ev : Glbevent cfg.connectionCount) :
    Loses base (ctx₁.pushEvent ev) (ctx₂.pushEvent ev) := by
  obtain ⟨ds₁, ds₂, e, rfl, hsock, hsub⟩ := h
  exact ⟨ds₁, ds₂, e, rfl, hsock, hsub⟩

theorem Loses.closeCon (h : Loses base ctx₁ ctx₂) (reason : GlbDisconnectReason) :
    Loses base (ctx₁.closeCon i reason) (ctx₂.closeCon i reason) := by
  obtain ⟨ds₁, ds₂, e, rfl, hsock, hsub⟩ := h
  rw [closeCon_eq, closeCon_eq]
  exact ⟨ds₁, ds₂, e, rfl, hsock, hsub⟩

/-- A datagram that the first loses or not, and the second does not. -/
theorem Loses.glbioSend (h : Loses base ctx₁ ctx₂) (pkg : Glbpkg) (dest : Glbaddr) (ok : Bool) :
    Loses base (ctx₁.glbioSend pkg dest ok).2 (ctx₂.glbioSend pkg dest true).2 := by
  obtain ⟨ds₁, ds₂, e, rfl, hsock, hsub⟩ := h
  have hsock' : (ctx₂.glbioSend pkg dest true).2.sock = base ++ (ds₂ ++ [⟨pkg.seal, dest⟩]) := by
    rw [glbioSend_of_ok, hsock, List.append_assoc]
  cases ok with
  | false => exact ⟨ds₁, _, .sendFailed, rfl, hsock', hsub.trans (List.sublist_append_left _ _)⟩
  | true =>
    refine ⟨ds₁ ++ [⟨pkg.seal, dest⟩], _, e, ?_, hsock', hsub.append (List.Sublist.refl _)⟩
    rw [glbioSend_of_ok, glbioSend_of_ok, List.append_assoc]

theorem Loses.retrySend (h : Loses base ctx₁ ctx₂) (pkg : Glbpkg) :
    Loses base (ctx₁.retrySend i pkg env)
      (ctx₂.retrySend i pkg { env with sendOk := fun _ ↦ true }) := by
  simp only [Glbctx.retrySend, connections_glbioSend, h.connections_eq]
  exact (h.glbioSend _ _ _).setCon _

theorem Loses.countTransmission (h : Loses base ctx₁ ctx₂) (c : Fin cfg.channelCount)
    (chan : Glbchannel) (pkg : Glbpkg) (now : ℕ) :
    Loses base (ctx₁.countTransmission i c chan pkg now)
      (ctx₂.countTransmission i c chan pkg now) := by
  obtain ⟨ds₁, ds₂, e, rfl, hsock, hsub⟩ := h
  simp only [Glbctx.countTransmission]
  split <;> exact ⟨ds₁, ds₂, e, rfl, hsock, hsub⟩

theorem Loses.transmit (h : Loses base ctx₁ ctx₂) (c : Fin cfg.channelCount) :
    Loses base (ctx₁.transmit i env c)
      (ctx₂.transmit i { env with sendOk := fun _ ↦ true } c) := by
  simp only [Glbctx.transmit, h.connections_eq]
  split
  · exact h
  split
  · split
    · split
      · exact (h.glbioSend _ _ _).setChan _ _
      · exact (h.glbioSend _ _ _).countTransmission _ _ _ _
    · exact h
  · exact h

theorem Loses.foldl_transmit (cs : List (Fin cfg.channelCount)) :
    ∀ {ctx₁ ctx₂ : Glbctx cfg}, Loses base ctx₁ ctx₂ →
      Loses base (cs.foldl (fun ctx c ↦ ctx.transmit i env c) ctx₁)
        (cs.foldl (fun ctx c ↦ ctx.transmit i { env with sendOk := fun _ ↦ true } c) ctx₂) := by
  induction cs with
  | nil => exact fun h ↦ h
  | cons c cs ih => exact fun h ↦ ih (h.transmit c)

theorem Loses.keepaliveTimer (h : Loses base ctx₁ ctx₂) :
    Loses base (ctx₁.keepaliveTimer i env)
      (ctx₂.keepaliveTimer i { env with sendOk := fun _ ↦ true }) := by
  simp only [Glbctx.keepaliveTimer, h.connections_eq]
  split
  · split
    · exact h.closeCon _
    · exact (h.glbioSend _ _ _).setCon _
  · exact h

theorem loses_of_retry {pkg : Glbpkg} {closed : Glbctx cfg} {due full : Prop} [Decidable due]
    [Decidable full] (hclosed : Loses ctx.sock closed closed)
    (h : (if due then if full then some closed else some (ctx.retrySend i pkg env)
      else some ctx) = some ctx') :
    ∃ ctx'', (if due then if full then some closed
        else some (ctx.retrySend i pkg { env with sendOk := fun _ ↦ true })
      else some ctx) = some ctx'' ∧ Loses ctx.sock ctx' ctx'' := by
  by_cases hdue : due
  · rw [if_pos hdue] at h ⊢
    by_cases hfull : full
    · rw [if_pos hfull] at h ⊢
      cases h
      exact ⟨_, rfl, hclosed⟩
    · rw [if_neg hfull] at h ⊢
      cases h
      exact ⟨_, rfl, (Loses.refl ctx).retrySend pkg⟩
  · rw [if_neg hdue] at h ⊢
    cases h
    exact ⟨_, rfl, .refl _⟩

/-- The timers of a slot do the same whether or not `sendto` takes what they send. -/
theorem loses_handleTimers (h : ctx.handleTimers i env = some ctx') : ∃ ctx'',
    ctx.handleTimers i { env with sendOk := fun _ ↦ true } = some ctx'' ∧
      Loses ctx.sock ctx' ctx'' := by
  have hrefl := Loses.refl ctx
  rcases hstate : (ctx.connections i).state with - | - | - | - | - <;>
    simp only [handleTimers, hstate] at h ⊢
  · cases h
    exact ⟨_, rfl, hrefl⟩
  · split at h
    · cases h
    · next hsome =>
      cases h
      exact ⟨_, if_neg hsome, (hrefl.foldl_transmit _).keepaliveTimer⟩
  · exact loses_of_retry ((hrefl.setCon _).pushEvent _) h
  · exact loses_of_retry (hrefl.setCon _) h
  · exact loses_of_retry (hrefl.closeCon _) h

end Loses

/-- **What the timers send is part of what they try to send.** -/
theorem sublist_attempted (h : ctx.handleTimers i env = some ctx') :
    ∃ ds, ctx'.sock = ctx.sock ++ ds ∧ ds.Sublist (ctx.attempted i env) := by
  obtain ⟨ctx'', h'', ds₁, ds₂, e, rfl, hsock, hsub⟩ := loses_handleTimers h
  rw [attempted_eq h'' hsock]
  exact ⟨ds₁, rfl, hsub⟩

/-! ### The packet of each timer -/

theorem sock_retrySend (pkg : Glbpkg) (hok : env.sendOk 0 = true) :
    (ctx.retrySend i pkg env).sock = ctx.sock ++ [⟨pkg.seal, (ctx.connections i).peerAddr⟩] := by
  simp [retrySend, hok]

/-- The keepalive sends a PING when it is due and has retries left. -/
theorem sock_keepaliveTimer (ctx : Glbctx cfg) (i : Fin cfg.connectionCount) (env : Env)
    (hok : env.sendOk (cfg.channelCount + 1) = true) :
    ∃ ping : Datagram, ping.pkg.header.ctrlFlags = ctrlFlagPing ∧
      (ctx.keepaliveTimer i env).sock = ctx.sock ++
        if glbtimeIsexpired (ctx.connections i).keepalive
            (env.clock (2 * cfg.channelCount + 2)) = true ∧
          (ctx.connections i).keepaliveRetry.toNat < glbKeepaliveRetry + 1 then [ping] else [] := by
  let time := UInt64.ofNat (glbtimeStart (env.clock (2 * cfg.channelCount + 2 + 1)) 0)
  let ping := (glbpkgInit (ctx.connections i).connId ctrlFlagPing 0).withSeqAck
    (time >>> 32).toUInt32 time.toUInt32
  refine ⟨⟨ping.seal, (ctx.connections i).peerAddr⟩, rfl, ?_⟩
  rw [keepaliveTimer]
  dsimp only
  split
  · next hexp =>
    split
    · next hlimit =>
      rw [if_neg fun h ↦ absurd h.2 (not_lt.2 hlimit), List.append_nil, sock_closeCon]
    · next hlimit =>
      rw [if_pos ⟨hexp, Nat.lt_succ_of_le (not_lt.1 hlimit)⟩, sock_setCon, sock_glbioSend, hok]
      rfl
  · next hexp => rw [if_neg fun h ↦ hexp h.1, List.append_nil]

/-- What the timers of a slot that waits for an answer to SYN, SYN|ACK or FIN try to send. -/
theorem attempted_of_retry {pkg : Glbpkg} {closed : Glbctx cfg} (hsock : closed.sock = ctx.sock)
    (h : ctx.handleTimers i { env with sendOk := fun _ ↦ true } =
      if glbtimeIsexpired (ctx.connections i).time (env.clock 0) then
        if (ctx.connections i).retry.toNat ≥ glbMaxRetry then some closed
        else some (ctx.retrySend i pkg { env with sendOk := fun _ ↦ true })
      else some ctx) :
    ctx.attempted i env =
      if glbtimeIsexpired (ctx.connections i).time (env.clock 0) = true ∧
        (ctx.connections i).retry.toNat < glbMaxRetry then
        [⟨pkg.seal, (ctx.connections i).peerAddr⟩] else [] := by
  split at h
  · next hexp =>
    split at h
    · next hlimit =>
      rw [if_neg fun h ↦ absurd h.2 (not_lt.2 hlimit)]
      exact attempted_eq h (by rw [hsock, List.append_nil])
    · next hlimit =>
      rw [if_pos ⟨hexp, not_le.1 hlimit⟩]
      exact attempted_eq h (sock_retrySend pkg rfl)
  · next hexp =>
    rw [if_neg fun h ↦ hexp h.1]
    exact attempted_eq h (List.append_nil _).symm

/-- What the timers of an established slot try to send: messages, and a PING when the keepalive is
due and has retries left. -/
theorem attempted_of_established (hest : (ctx.connections i).state = .established)
    (h : ctx.handleTimers i env = some ctx') :
    ∃ (ds : List Datagram) (ping : Datagram),
      (∀ d ∈ ds, ∃ c, CarriesHead (ctx.connections i) c d) ∧
      ping.pkg.header.ctrlFlags = ctrlFlagPing ∧
      ctx.attempted i env = ds ++
        if glbtimeIsexpired (ctx.connections i).keepalive
            (env.clock (2 * cfg.channelCount + 2)) = true ∧
          (ctx.connections i).keepaliveRetry.toNat < glbKeepaliveRetry + 1 then [ping] else [] := by
  let env' : Env := { env with sendOk := fun _ ↦ true }
  let ctx₁ := (List.finRange cfg.channelCount).foldl (fun ctx c ↦ ctx.transmit i env' c) ctx
  obtain ⟨chs, hchs, -⟩ := handleTimers_of_established hest h
  have hall : ctx.handleTimers i env' = some (ctx₁.keepaliveTimer i env') := by
    simp only [handleTimers, hest, hchs]
    rfl
  obtain ⟨chs', -, -, -, -, ds, hsock, hds⟩ :=
    foldl_transmit_effect env' _ (List.nodup_finRange cfg.channelCount) hchs
  obtain ⟨ping, hping, hkeepalive⟩ := sock_keepaliveTimer ctx₁ i env' rfl
  have htiming : (ctx₁.connections i).timing = (ctx.connections i).timing :=
    timing_foldl_transmit _ _ _
  have hdue : (ctx₁.connections i).keepalive = (ctx.connections i).keepalive :=
    congrArg Timing.keepalive htiming
  have hcount : (ctx₁.connections i).keepaliveRetry = (ctx.connections i).keepaliveRetry :=
    congrArg Timing.keepaliveRetry htiming
  rw [hdue, hcount, show ctx₁.sock = ctx.sock ++ ds from hsock, List.append_assoc] at hkeepalive
  refine ⟨ds, ping, fun d hd ↦ ?_, hping, attempted_eq hall hkeepalive⟩
  obtain ⟨c, -, hhead⟩ := hds d hd
  exact ⟨c, hhead⟩

/-- A message in a send queue is no PING. -/
theorem Sound.flags_ne_ping (hI : Sound ctx) {c : Fin cfg.channelCount} {d : Datagram}
    (h : CarriesHead (ctx.connections i) c d) : d.pkg.header.ctrlFlags ≠ ctrlFlagPing := by
  obtain ⟨chs, head, rest, hchs, hhead, rfl⟩ := h
  obtain ⟨-, hsound⟩ := hI i c _ ⟨chs, hchs, rfl⟩
  have hmsg := (hsound.messages head (by
    show head ∈ (chs.chan c).sQueue.elems
    rw [hhead]
    exact List.mem_cons_self)).ctrlFlags
  show head.header.ctrlFlags ≠ _
  rw [hmsg]
  decide

theorem countP_append_ite {α : Type} {P : α → Bool} {l : List α} {a : α} {p : Prop} [Decidable p]
    (hl : l.countP P = 0) (ha : P a = true) :
    (l ++ if p then [a] else []).countP P = if p then 1 else 0 := by
  rw [List.countP_append, hl, Nat.zero_add]
  split
  · rw [List.countP_singleton, if_pos ha]
  · rfl

/-- The timers of a slot that waits for an answer to SYN, SYN|ACK or FIN try to send that packet
when they are due and have retries left. -/
theorem attempts_of_retry {flags : UInt8} {pkg : Glbpkg} {closed : Glbctx cfg}
    (hest : (ctx.connections i).state ≠ .established)
    (h : ctx.handleTimers i { env with sendOk := fun _ ↦ true } =
      if glbtimeIsexpired (ctx.connections i).time (env.clock 0) then
        if (ctx.connections i).retry.toNat ≥ glbMaxRetry then some closed
        else some (ctx.retrySend i pkg { env with sendOk := fun _ ↦ true })
      else some ctx)
    (hsock : closed.sock = ctx.sock) (hflags : pkg.header.ctrlFlags = flags) :
    (ctx.attempted i env).countP (fun d ↦ d.pkg.header.ctrlFlags = flags) =
      if glbtimeIsexpired (ctx.connections i).timing.deadline
          ((ctx.connections i).timing.now cfg env) = true ∧
        (ctx.connections i).timing.count.toNat < glbMaxRetry then 1 else 0 := by
  rw [attempted_of_retry hsock h, deadline_of_ne hest, count_of_ne hest, now_of_ne hest]
  exact countP_append_ite (l := []) rfl (decide_eq_true hflags)

/-- **The timer that runs tries to send one packet when it is due and has retries left**, and
otherwise none. -/
theorem attempts_timers (hI : Sound ctx) (h : Step ctx (.timers i env) ctx')
    (hrule : (ctx.connections i).state.timerRule = some rule) :
    (Op.timers i env).attempts ctx i rule.flags =
      if glbtimeIsexpired (ctx.connections i).timing.deadline
          ((ctx.connections i).timing.now cfg env) = true ∧
        (ctx.connections i).timing.count.toNat < rule.limit then 1 else 0 := by
  have hone : (Op.timers i env).attempts ctx i rule.flags =
      (ctx.attempted i env).countP fun d ↦ d.pkg.header.ctrlFlags = rule.flags := if_pos rfl
  rw [hone]
  rcases hstate : (ctx.connections i).state with - | - | - | - | - <;> rw [hstate] at hrule <;>
    cases hrule
  · -- of what an established slot sends only the PING counts
    obtain ⟨ds, ping, hds, hping, heq⟩ := attempted_of_established hstate h
    have hnone : (ds.countP fun d ↦ d.pkg.header.ctrlFlags = ctrlFlagPing) = 0 := by
      refine List.countP_eq_zero.2 fun d hd ↦ ?_
      obtain ⟨c, hhead⟩ := hds d hd
      simpa using hI.flags_ne_ping hhead
    rw [heq, deadline_of_established hstate, count_of_established hstate,
      now_of_established hstate]
    exact countP_append_ite hnone (decide_eq_true hping)
  all_goals
    have hall : ctx.handleTimers i { env with sendOk := fun _ ↦ true } =
      ctx.handleTimers i { env with sendOk := fun _ ↦ true } := rfl
    conv_rhs at hall => simp only [handleTimers, hstate]
  · exact attempts_of_retry (by rw [hstate]; decide) hall rfl rfl
  · exact attempts_of_retry (by rw [hstate]; decide) hall rfl rfl
  · exact attempts_of_retry (by rw [hstate]; decide) hall (sock_closeCon _) rfl

/-- An operation that does not serve the timers of a slot tries to send nothing there. -/
theorem attempts_eq_zero (hop : ∀ env, op ≠ .timers i env) (flags : UInt8) :
    op.attempts ctx i flags = 0 := by
  cases op with
  | timers j env =>
    refine if_neg ?_
    rintro rfl
    exact hop env rfl
  | _ => rfl

end Glbctx

end Gilberta
