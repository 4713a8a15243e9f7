import Gilberta.Effects.Timers
import Gilberta.Lifecycle.Announcements
import Gilberta.Session.Parties
import Gilberta.Traffic.Isolation

/-!
# Why connections end

A DISCONNECT event gives a reason. Among contexts that run this library and a network that forges
nothing the reason is always true, whatever is lost, duplicated or delayed (`disconnect_explained`):
a connection ends BY_PEER only if an application has closed a connection with this id, it ends by
RESET only while it has no id yet and after a server has refused a SYN, and it ends by TIMEOUT only
when all retries of its timer are used up.
-/

namespace Gilberta

variable {cfg : Glbcfg}

/-- What can be at the bottom of the end of a connection. -/
inductive Cause
  /-- An application closed an established connection with this id. -/
  | closed (connId : Glbconid)
  /-- A server had no slot for a SYN. -/
  | refused

/-- The causes an operation adds. -/
def Op.causes (ctx : Glbctx cfg) : Op cfg → List Cause
  | .close i _ =>
    if (ctx.connections i).state = .established then [.closed (ctx.connections i).connId] else []
  | .packet pkg from_ _ =>
    if pkg.IsSyn ∧ ctx.findConnByAddr from_ = none ∧ ctx.findEmptyConn.isNone then [.refused]
    else []
  | .connect _ | .send _ _ | .pollevent | .popdata _ | .readError | .timers _ _ => []

/-- Datagrams that end connections have a cause. -/
structure Datagram.Caused (h : List Cause) (d : Datagram) : Prop where
  /-- FIN and FIN|ACK are about a connection that was closed. -/
  fin : d.pkg.header.ctrlFlags = ctrlFlagFin ∨ d.pkg.header.ctrlFlags = ctrlFlagFinAck →
    .closed d.pkg.conId ∈ h
  /-- RST refuses a SYN, whose id is not one yet. -/
  rst : d.pkg.header.ctrlFlags = ctrlFlagRst → .refused ∈ h ∧ d.pkg.conId = ⟨0xFFFF, 0⟩

theorem Datagram.Caused.mono {h h' : List Cause} {d : Datagram} (hd : d.Caused h)
    (hsub : h ⊆ h') : d.Caused h' :=
  ⟨fun hflags ↦ hsub (hd.fin hflags), fun hflags ↦ ⟨hsub (hd.rst hflags).1, (hd.rst hflags).2⟩⟩

/-- Other datagrams need none. -/
theorem Datagram.Caused.of_other {h : List Cause} {d : Datagram}
    (hflags : d.pkg.header.ctrlFlags ∉ [ctrlFlagFin, ctrlFlagFinAck, ctrlFlagRst]) :
    d.Caused h := by
  simp only [List.mem_cons, List.not_mem_nil, or_false, not_or] at hflags
  obtain ⟨hfin, hfinAck, hrst⟩ := hflags
  exact ⟨fun h ↦ (h.elim hfin hfinAck).elim, fun h ↦ (hrst h).elim⟩

namespace Glbctx

/-- A slot that is closing was closed by its application. -/
structure ClosesWithCause (h : List Cause) (ctx : Glbctx cfg) : Prop where
  /-- Send queues hold DATA packets. -/
  tagged : ctx.Tagged
  /-- Its id is the one of a connection that was closed. -/
  finSent : ∀ i, (ctx.connections i).state = .finSent → .closed (ctx.connections i).connId ∈ h

variable {ctx ctx' : Glbctx cfg} {op : Op cfg} {i : Fin cfg.connectionCount} {h : List Cause}

/-! ### What ends a connection -/

/-- What an operation that announces the end of slot `i` is, for each reason. -/
inductive Ends (ctx : Glbctx cfg) (i : Fin cfg.connectionCount) :
    Op cfg → GlbDisconnectReason → Prop
  | byPeer {pkg : Glbpkg} {from_ : Glbaddr} {env : Env}
      (hflags : pkg.header.ctrlFlags = ctrlFlagFin ∨ pkg.header.ctrlFlags = ctrlFlagFinAck)
      (hfind : pkg.Finds ctx i) : Ends ctx i (.packet pkg from_ env) .byPeer
  | reset {pkg : Glbpkg} {from_ : Glbaddr} {env : Env}
      (hflags : pkg.header.ctrlFlags = ctrlFlagRst) (hfind : pkg.Finds ctx i) :
      Ends ctx i (.packet pkg from_ env) .reset
  | timeout {env : Env} {rule : TimerRule} (hrule : (ctx.connections i).state.timerRule = some rule)
      (hexpired : glbtimeIsexpired (ctx.connections i).timing.deadline
        ((ctx.connections i).timing.now cfg env) = true)
      (hlimit : rule.limit ≤ (ctx.connections i).timing.count.toNat) :
      Ends ctx i (.timers i env) .timeout

/-- Timers close a slot when their retries are used up. -/
theorem ends_of_timers {env : Env} (hstep : Step ctx (.timers i env) ctx')
    (hstate : (ctx.connections i).state ≠ .closed)
    (hstate' : (ctx'.connections i).state = .closed) : Ends ctx i (.timers i env) .timeout := by
  have htiming := timing_step hstep i
  have hclosed : (ctx'.connections i).timing.state = .closed := hstate'
  generalize (ctx'.connections i).timing = tm at htiming hclosed
  rcases htiming with ⟨hstart⟩ | ⟨-, hop, -⟩ | - | - | - | ⟨hrule, hexpired, hlimit⟩
  · cases hstart
  · exact absurd rfl (hop env)
  · exact absurd hclosed hstate
  · rw [Timing.state_again] at hclosed
    exact absurd hclosed hstate
  · exact .timeout hrule hexpired hlimit

/-- **What announces the end of a slot.** -/
theorem ends_of_disconnect {reason : GlbDisconnectReason} (hstep : Step ctx op ctx')
    (hev : .disconnect i reason ∈ newEvents (ctx, op, ctx')) : Ends ctx i op reason := by
  cases step_effect hstep with
  | quiet hq =>
    obtain ⟨evs, hevs, hoff, -⟩ := hq.offered
    rw [newEvents_of_offered hoff] at hev
    exact absurd (hevs _ hev).1 Bool.false_ne_true
  | @change j con' a' evs hb hchange =>
    rw [newEvents_of_offered hb.offered] at hev
    cases hchange with
    | connected | finSent | reopened | opened | dropped => cases hev
    | accepted | synAcked => cases List.mem_singleton.1 hev
    | closed hcause hstate hstate' _ _ _ _ hevs =>
      rcases List.mem_append.1 hev with hev | hev
      · exact absurd (hevs _ hev).1 Bool.false_ne_true
      · cases List.mem_singleton.1 hev
        cases hcause with
        | fin hflags hfind => exact .byPeer (.inl hflags) hfind
        | finAck hflags hfind => exact .byPeer (.inr hflags) hfind
        | rst hflags hfind => exact .reset hflags hfind
        | timeout => exact ends_of_timers hstep hstate (hb.self ▸ hstate')
    | reset hflags hfind =>
      cases List.mem_singleton.1 hev
      exact .reset hflags hfind
    | gaveUp hstate =>
      cases List.mem_singleton.1 hev
      exact ends_of_timers hstep (by rw [hstate]; decide) (by rw [hb.self])

/-! ### Causes are kept -/

/-- A packet that arrives like a datagram with a cause has one itself. -/
theorem caused_of_takes {pkg : Glbpkg} {from_ : Glbaddr} {env : Env}
    (htakes : (Op.packet pkg from_ env : Op cfg).Takes (Datagram.Caused h)) :
    Datagram.Caused h ⟨pkg, from_⟩ := by
  obtain ⟨d, ⟨hfin, hrst⟩, hheader, -⟩ := htakes
  have hid : pkg.conId = d.pkg.conId := by
    rw [Glbpkg.conId, hheader]
    rfl
  refine ⟨fun hflags ↦ ?_, fun hflags ↦ ?_⟩
  · show Cause.closed pkg.conId ∈ h
    rw [hid]
    exact hfin (by rwa [← hheader])
  · show Cause.refused ∈ h ∧ pkg.conId = _
    rw [hid]
    exact hrst (by rwa [← hheader])

/-- What is sent has a cause. -/
theorem ClosesWithCause.emits (hI : ClosesWithCause h ctx) (hstep : Step ctx op ctx')
    (htakes : op.Takes (Datagram.Caused h)) :
    Emits (Datagram.Caused (h ++ op.causes ctx)) ctx ctx' := by
  obtain ⟨ds, hsock, hds⟩ := step_emits hstep
  refine ⟨ds, hsock, fun d hd ↦ ?_⟩
  cases hds d hd with
  | data _ hhead =>
    obtain ⟨chs, head, rest, hchs, hhead, rfl⟩ := hhead
    obtain ⟨hflags, -⟩ := hI.tagged _ _ _ ⟨chs, hchs, rfl⟩ head (by rw [hhead]; exact .head _)
    refine .of_other ?_
    show head.header.ctrlFlags ∉ _
    rw [hflags]
    decide
  | ping _ hping =>
    obtain ⟨seq, ack, rfl⟩ := hping
    exact .of_other (show ctrlFlagPing ∉ _ by decide)
  | syn => exact .of_other (show ctrlFlagSyn ∉ _ by decide)
  | synAck => exact .of_other (show ctrlFlagSynAck ∉ _ by decide)
  | ackAgain | ack => exact .of_other (show ctrlFlagAck ∉ _ by decide)
  | dataAck => exact .of_other (show ctrlFlagDataAck ∉ _ by decide)
  | pong => exact .of_other (show ctrlFlagPong ∉ _ by decide)
  | fin hstate =>
    refine ⟨fun _ ↦ List.mem_append_left _ (hI.finSent _ hstate), fun hflags ↦ ?_⟩
    exact absurd hflags (show ctrlFlagFin ≠ ctrlFlagRst by decide)
  | @finAck pkg from_ env i hflags hfind =>
    -- the id of the answer is the one of the FIN, by which the slot was found
    refine ⟨fun _ ↦ List.mem_append_left _ ?_, fun hrst ↦ ?_⟩
    · show Cause.closed (ctx.connections i).connId ∈ h
      rw [conId_of_finds hfind]
      exact (caused_of_takes htakes).fin (.inl hflags)
    · exact absurd hrst (show ctrlFlagFinAck ≠ ctrlFlagRst by decide)
  | @rst pkg from_ env hsyn =>
    refine ⟨fun hfin ↦ ?_, fun _ ↦ ⟨List.mem_append_right _ ?_, rfl⟩⟩
    · exact absurd hfin
        (show ¬ (ctrlFlagRst = ctrlFlagFin ∨ ctrlFlagRst = ctrlFlagFinAck) by decide)
    · obtain rfl := onSyn_eq_of_handled hstep hsyn
      rcases sock_onSyn ctx pkg from_ env with hsame | ⟨haddr, hempty⟩
      · obtain rfl : ds = [] := List.self_eq_append_right.1 (hsame.symm.trans hsock)
        cases hd
      · rw [Op.causes, if_pos ⟨hsyn, haddr, by rw [hempty]; rfl⟩]
        exact List.mem_singleton_self _

/-- A slot that is closing afterwards was closed before or is closed now. -/
theorem ClosesWithCause.step (hI : ClosesWithCause h ctx) (hstep : Step ctx op ctx')
    (hallowed : op.Allowed ctx) : ClosesWithCause (h ++ op.causes ctx) ctx' := by
  refine ⟨tagged_step hI.tagged hstep, fun i hstate' ↦ ?_⟩
  have hold := fun hstate ↦ List.mem_append_left (op.causes ctx) (hI.finSent i hstate)
  rcases slot_effect hstep i with hsame | ⟨a', evs, hchange⟩
  · rw [hsame.connId]
    exact hold (hsame.state ▸ hstate')
  generalize ctx'.connections i = con' at hchange hstate'
  cases hchange with
  | connected hi =>
    -- a slot on which `glb_connect` is called is not closing
    have hclosed : (ctx.connections i).state = .closed := hallowed i hi
    change (if cfg.inetAddr.isSome then _ else _) = GLBConnState.finSent at hstate'
    rw [hclosed] at hstate'
    split at hstate' <;> cases hstate'
  | finSent hstate =>
    refine List.mem_append_right _ ?_
    rw [Op.causes, if_pos hstate]
    exact List.mem_singleton_self _
  | @synAcked pkg _ env _ _ _ _ _ hne =>
    change (if env.sendOk 0 then _ else _) = GLBConnState.finSent at hstate'
    split at hstate'
    · cases hstate'
    · show Cause.closed (if _ then _ else _) ∈ _
      rw [if_neg (by rw [hstate']; decide)]
      exact hold hstate'
  | opened _ _ _ hopened => rw [hopened] at hstate'; cases hstate'
  | closed _ _ hclosed => rw [hclosed] at hstate'; cases hstate'
  | reopened | accepted | reset | gaveUp | dropped => cases hstate'

/-- What justifies the reason of a DISCONNECT event for slot `i`, after the causes `h`. -/
def Explained (h : List Cause) (ctx : Glbctx cfg) (i : Fin cfg.connectionCount) (op : Op cfg) :
    GlbDisconnectReason → Prop
  | .byPeer => .closed (ctx.connections i).connId ∈ h
  | .reset => .refused ∈ h ∧ (ctx.connections i).connId = ⟨0xFFFF, 0⟩
  | .timeout => ∃ env rule, op = .timers i env ∧
      (ctx.connections i).state.timerRule = some rule ∧
      rule.limit ≤ (ctx.connections i).timing.count.toNat

theorem Ends.explained {reason : GlbDisconnectReason} (hends : Ends ctx i op reason)
    (htakes : op.Takes (Datagram.Caused h)) : Explained h ctx i op reason := by
  cases hends with
  | byPeer hflags hfind =>
    show Cause.closed (ctx.connections i).connId ∈ h
    rw [conId_of_finds hfind]
    exact (caused_of_takes htakes).fin hflags
  | reset hflags hfind =>
    show Cause.refused ∈ h ∧ (ctx.connections i).connId = _
    rw [conId_of_finds hfind]
    exact (caused_of_takes htakes).rst hflags
  | timeout hrule _ hlimit => exact ⟨_, _, rfl, hrule, hlimit⟩

end Glbctx

namespace Parties

variable {ι : Type*} [DecidableEq ι] {cfg : ι → Glbcfg} {ts us : List (Transition cfg)}
  {s : Parties cfg}

/-- All causes in a run. -/
def causes (ts : List (Transition cfg)) : List Cause :=
  Network.history (fun _ ctx op _ ↦ op.causes ctx) ts

omit [DecidableEq ι] in
theorem causes_inductive : Network.Inductive
    (fun k (ctx : Glbctx (cfg k)) op ctx' ↦ Glbctx.Step ctx op ctx' ∧ op.Allowed ctx)
    (fun _ ctx ↦ ctx.sock) (fun _ op P ↦ op.Takes P) (fun _ ctx op _ ↦ op.causes ctx)
    (fun _ h ctx ↦ Glbctx.ClosesWithCause h ctx) Datagram.Caused where
  state_mono _ _ _ _ hI := ⟨hI.tagged, fun i hstate ↦ List.mem_append_left _ (hI.finSent i hstate)⟩
  message_mono _ _ _ hd := hd.mono (List.subset_append_left _ _)
  carried_mono _ _ _ _ hPQ htakes := htakes.mono hPQ
  state_step _ _ _ _ _ hI hstep _ := hI.step hstep.1 hstep.2
  message_step _ _ _ _ _ hI hstep htakes d hd := by
    obtain ⟨ds, hsock, hds⟩ := hI.emits hstep.1 htakes
    rw [hsock] at hd
    exact (List.mem_append.1 hd).imp_right (hds d)

/-- **Every DISCONNECT is explained.** In every run of any number of contexts over a network that
forges nothing: if a step announces that the connection of slot `i` ended, then for the reason
BY_PEER some application had closed a connection with the id of the slot, for RESET some context had
refused a SYN and the slot has no id of its own yet, and for TIMEOUT the step serves the timers of
the slot and the one that runs has used up its retries. -/
theorem disconnect_explained {t u : Parties cfg} {k : ι} {op : Op (cfg k)}
    (hrun : Execution Step (init cfg) (ts ++ (t, ⟨k, op⟩, u) :: us) s)
    {i : Fin (cfg k).connectionCount} {reason : GlbDisconnectReason}
    (hev : .disconnect i reason ∈ Glbctx.newEvents (t k, op, u k)) :
    Glbctx.Explained (causes ts) (t k) i op reason := by
  obtain ⟨-, hstep, htakes⟩ := Network.around causes_inductive hrun fun k ↦
    ⟨⟨Glbctx.tagged_init, fun i hstate ↦ by cases hstate⟩, fun d hd ↦ by cases hd⟩
  exact (Glbctx.ends_of_disconnect hstep.1 hev).explained htakes

/-- A client connects to a server and closes the connection. -/
def connectAndClose : List (Σ k, Op (clientAndServer k)) :=
  opening ++ [⟨false, .close ⟨0, Nat.one_pos⟩ 7⟩, ⟨false, .timers ⟨0, Nat.one_pos⟩ (Env.at 8)⟩]

/-- The server handles the FIN. -/
def handleFin : Op Glbcfg.sampleServer :=
  .packet (glbpkgInit ⟨1, 0⟩ ctrlFlagFin 0).seal .samplePeer (Env.at 9)

/-- The server is told that its connection ended, and the client had closed it. -/
theorem disconnect_explained_by_close : ∃ (ts : List (Transition clientAndServer)) (s s' : _),
    Execution Step (init clientAndServer) (ts ++ [(s, ⟨true, handleFin⟩, s')]) s' ∧
    .disconnect ⟨0, Nat.two_pos⟩ .byPeer ∈ Glbctx.newEvents (s true, handleFin, s' true) ∧
    .closed ((s true).connections ⟨0, Nat.two_pos⟩).connId ∈ causes ts := by
  have hend : (Execution.perform next connectAndClose (init _)).bind (fun r ↦
      (r.2.next ⟨true, handleFin⟩).map fun s' ↦
        decide (.disconnect ⟨0, Nat.two_pos⟩ .byPeer ∈
          Glbctx.newEvents (r.2 true, handleFin, s' true))) = some true := by decide +kernel
  obtain ⟨r, hr, hend⟩ := Option.bind_eq_some_iff.1 hend
  obtain ⟨s', hs', hev⟩ := Option.map_eq_some_iff.1 hend
  have hrun : Execution Step (init clientAndServer) (r.1 ++ [(r.2, ⟨true, handleFin⟩, s')]) s' :=
    ((Execution.nil.append_perform hr).mono fun _ _ _ ↦ step_of_next).snoc (step_of_next hs')
  exact ⟨r.1, r.2, s', hrun, of_decide_eq_true hev,
    disconnect_explained hrun (of_decide_eq_true hev)⟩

end Parties

end Gilberta
