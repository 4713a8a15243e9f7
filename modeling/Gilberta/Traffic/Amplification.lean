import Gilberta.Wire.Outgoing
import Gilberta.Effects.Timers

/-!
# What a packet can set off

A context answers packets from addresses it knows nothing about, and its timers send on their own,
so it matters how much a stranger can make it send. DATA aside, which the application asked for, a
context pays for every datagram with a charge: each handled packet and each `glb_connect` and
`glb_close` brings a fixed one (`Op.charge`), part of which is spent at once and the rest later, by
the timer it started. What a timer may still send is its `Timing.budget`.

So in every run, whatever the packets are and wherever they come from, the datagrams that are not
DATA are no more than the charges together, each is a bare header, and of a server, which only
answers, their bytes are at most ten times those of the packets it handled (`amplification_le`).
-/

open scoped BigOperators

/-- A sum changes by no more than the one summand that changes. -/
theorem sum_le_sum_add_of_eq {ι : Type*} [Fintype ι] [DecidableEq ι] {f g : ι → ℕ} {m n : ℕ}
    (i : ι) (hne : ∀ j, j ≠ i → f j = g j) (h : f i + m ≤ g i + n) :
    ∑ j, f j + m ≤ ∑ j, g j + n := by
  have hrest : ∑ j ∈ Finset.univ.erase i, f j = ∑ j ∈ Finset.univ.erase i, g j :=
    Finset.sum_congr rfl fun j hj ↦ hne j (Finset.ne_of_mem_erase hj)
  rw [← Finset.add_sum_erase _ f (Finset.mem_univ i),
    ← Finset.add_sum_erase _ g (Finset.mem_univ i), hrest]
  omega

namespace Gilberta

variable {cfg : Glbcfg}

/-! ### Charges -/

/-- A datagram that carries no message. -/
def Datagram.IsControl (d : Datagram) : Prop := d.pkg.header.ctrlFlags ≠ ctrlFlagData

instance : DecidablePred Datagram.IsControl := fun d ↦
  inferInstanceAs (Decidable (d.pkg.header.ctrlFlags ≠ ctrlFlagData))

/-- How often the timer of a state may send. -/
def GLBConnState.limit (s : GLBConnState) : ℕ := (s.timerRule.map TimerRule.limit).getD 0

/-- How often the timer that runs may still send. -/
def Timing.budget (tm : Timing) : ℕ := tm.state.limit - tm.count.toNat

/-- How often the timer a packet starts may send. -/
def Glbpkg.grant (p : Glbpkg) : ℕ :=
  if p.IsSyn then glbMaxRetry
  else if p.header.ctrlFlags ∈ [ctrlFlagAck, ctrlFlagSynAck, ctrlFlagPong] then
    glbKeepaliveRetry + 1
  else 0

/-- How many datagrams answer a packet. The RST that refuses a SYN is not counted: such a SYN starts
no timer. -/
def Glbpkg.answers (p : Glbpkg) : ℕ :=
  if p.header.ctrlFlags ∈ [ctrlFlagSynAck, ctrlFlagFin, ctrlFlagData, ctrlFlagPing] then 1 else 0

/-- How many datagrams an operation can set off. -/
def Op.charge : Op cfg → ℕ
  | .connect _ | .close _ _ => glbMaxRetry
  | .packet pkg _ _ => pkg.grant + pkg.answers
  | .send _ _ | .pollevent | .popdata _ | .readError | .timers _ _ => 0

/-- What an operation adds to the budget of a slot: the limit of the timer it starts there. -/
def Op.grant (ctx : Glbctx cfg) (i : Fin cfg.connectionCount) (op : Op cfg) : ℕ :=
  ((op.start ctx i).map fun s ↦ s.1.limit).getD 0

theorem GLBConnState.limit_eq {s : GLBConnState} {rule : TimerRule} (h : s.timerRule = some rule) :
    s.limit = rule.limit := by
  rw [limit, h]
  rfl

namespace Glbctx

variable {ctx ctx' : Glbctx cfg} {op : Op cfg} {i : Fin cfg.connectionCount} {pkg : Glbpkg}
  {from_ : Glbaddr} {env : Env} {tm : Timing}

/-- The datagrams that carry no message. -/
def controlSent (ctx : Glbctx cfg) : List Datagram := ctx.sock.filter (·.IsControl)

/-- What the timers of all slots may still send. -/
def budget (ctx : Glbctx cfg) : ℕ := ∑ i, (ctx.connections i).timing.budget

/-! ### Budgets -/

/-- What a step can add to the budget of a slot. -/
theorem TimingStep.budget_le (h : TimingStep ctx i op tm) :
    tm.budget ≤ (ctx.connections i).timing.budget + op.grant ctx i := by
  rcases h with ⟨hstart⟩ | ⟨-, -, hstate, hr, -, hk⟩ | - | - | ⟨hrule, -, hlimit⟩ | -
  · -- a timer that starts has all its retries left
    unfold Timing.budget Op.grant
    rw [hstart, Timing.state_enter, Timing.count_enter]
    exact Nat.le_add_left _ _
  · refine (le_of_eq ?_).trans (Nat.le_add_right _ _)
    have hcount : tm.count = (ctx.connections i).timing.count := by
      unfold Timing.count
      rw [hstate]
      rcases hk with ⟨hk, -⟩ | ⟨-, hest⟩
      · rw [hk, hr]
        rfl
      · rw [if_neg hest, hr]
        exact (if_neg hest).symm
    unfold Timing.budget
    rw [hcount, hstate]
    rfl
  · exact (le_of_eq (Nat.zero_sub _)).trans (Nat.zero_le _)
  · exact Nat.le_add_right _ _
  · unfold Timing.budget
    rw [Timing.state_again, Timing.count_again hrule hlimit]
    omega
  · exact (le_of_eq (Nat.zero_sub _)).trans (Nat.zero_le _)

/-- A pass of the timers that changes them and does not close the slot was paid for. -/
theorem TimingStep.budget_lt (h : TimingStep ctx i (.timers i env) tm)
    (hne : tm ≠ (ctx.connections i).timing) (hstate : tm.state ≠ .closed) :
    tm.budget + 1 ≤ (ctx.connections i).timing.budget := by
  rcases h with ⟨hstart⟩ | ⟨-, hop, -⟩ | - | - | ⟨hrule, -, hlimit⟩ | -
  · cases hstart
  · exact absurd rfl (hop env)
  · exact absurd rfl hne
  · have hall : (ctx.connections i).timing.state.limit = _ := GLBConnState.limit_eq hrule
    unfold Timing.budget
    rw [Timing.state_again, Timing.count_again hrule hlimit, hall]
    omega
  · exact absurd rfl hstate

/-- An operation is about one slot at most. -/
theorem isAbout_unique {j : Fin cfg.connectionCount} (h : op.IsAbout ctx i)
    (h' : op.IsAbout ctx j) : i = j := by
  cases op with
  | connect => exact Fin.ext (Eq.trans h (Eq.symm h'))
  | close | timers => exact Eq.trans h (Eq.symm h')
  | send | popdata => exact Option.some_inj.1 (Eq.trans (Eq.symm h) h')
  | pollevent | readError => exact h.elim
  | packet pkg from_ env =>
    by_cases hsyn : pkg.IsSyn
    · exact Option.some_inj.1 (((Glbpkg.isAbout_of_syn hsyn).1 h).symm.trans
        ((Glbpkg.isAbout_of_syn hsyn).1 h'))
    by_cases hflags : pkg.header.ctrlFlags = ctrlFlagSynAck
    · exact Fin.ext (((Glbpkg.isAbout_of_synAck hflags).1 h).trans
        ((Glbpkg.isAbout_of_synAck hflags).1 h').symm)
    · exact Option.some_inj.1 (((Glbpkg.isAbout_iff_finds hsyn hflags).1 h).symm.trans
        ((Glbpkg.isAbout_iff_finds hsyn hflags).1 h'))

/-- What a step can add to the budget of a context. -/
theorem budget_step {m n : ℕ} (h : Step ctx op ctx')
    (hslot : ∀ i, op.IsAbout ctx i → (ctx'.connections i).timing.budget + m ≤
      (ctx.connections i).timing.budget + n)
    (hsome : (∃ i, op.IsAbout ctx i) ∨ m ≤ n) : ctx'.budget + m ≤ ctx.budget + n := by
  by_cases habout : ∃ i, op.IsAbout ctx i
  · obtain ⟨i, hi⟩ := habout
    refine sum_le_sum_add_of_eq i (fun j hj ↦ ?_) (hslot i hi)
    rw [step_local h fun hj' ↦ hj (isAbout_unique hj' hi)]
  · have hsame : ctx'.budget = ctx.budget := Finset.sum_congr rfl fun j _ ↦ by
      rw [step_local h fun hj ↦ habout ⟨j, hj⟩]
    rw [hsame]
    exact Nat.add_le_add_left (hsome.resolve_left habout) _

/-- The budget of a context after an operation that serves no timers. -/
theorem budget_le_of_grant {n : ℕ} (h : Step ctx op ctx') (hgrant : ∀ i, op.grant ctx i ≤ n) :
    ctx'.budget ≤ ctx.budget + n := by
  refine budget_step (m := 0) h (fun i _ ↦ ?_) (Or.inr (Nat.zero_le _))
  exact (timing_step h i).budget_le.trans (Nat.add_le_add_left (hgrant i) _)

/-! ### Answers -/

/-- At most `n` datagrams that carry no message are sent between two contexts. -/
def Sends (n : ℕ) (ctx ctx' : Glbctx cfg) : Prop :=
  ∃ ds, ctx'.sock = ctx.sock ++ ds ∧ ds.countP (·.IsControl) ≤ n

theorem Sends.of_sock_eq {n : ℕ} (h : ctx'.sock = ctx.sock) : Sends n ctx ctx' :=
  ⟨[], by rw [h, List.append_nil], Nat.zero_le _⟩

theorem Sends.of_emits {n : ℕ} {P : Datagram → Prop} (h : Emits P ctx ctx')
    (hP : ∀ d, P d → ¬ d.IsControl) : Sends n ctx ctx' := by
  obtain ⟨ds, hsock, hds⟩ := h
  refine ⟨ds, hsock, ?_⟩
  rw [List.countP_eq_zero.2 fun d hd ↦ by simpa using hP d (hds d hd)]
  exact Nat.zero_le n

theorem Sends.trans {m n : ℕ} {ctx'' : Glbctx cfg} (h : Sends m ctx ctx')
    (h' : Sends n ctx' ctx'') : Sends (m + n) ctx ctx'' := by
  obtain ⟨ds, hsock, hds⟩ := h
  obtain ⟨ds', hsock', hds'⟩ := h'
  refine ⟨ds ++ ds', by rw [hsock', hsock, List.append_assoc], ?_⟩
  rw [List.countP_append]
  exact Nat.add_le_add hds hds'

theorem sends_glbioSend (dest : Glbaddr) (ok : Bool) :
    Sends 1 ctx (ctx.glbioSend pkg dest ok).2 := by
  refine ⟨_, sock_glbioSend _ _ _ _, List.countP_le_length.trans ?_⟩
  cases ok
  · exact Nat.zero_le 1
  · exact Nat.le_refl 1

theorem sends_replySynAck (h : ctx.replySynAck i env = some ctx') : Sends 1 ctx ctx' := by
  obtain ⟨chs, -, h⟩ := Option.map_eq_some_iff.1 h
  have hsend : Sends 1 ctx (ctx.glbioSend (ackPkg (ctx.connections i).connId
      (chs.chan cfg.channel0).seq (chs.chan cfg.channel0).ack) (ctx.connections i).peerAddr
      (env.sendOk 0)).2 := sends_glbioSend _ _
  cases hok : env.sendOk 0 with
  | false =>
    rw [hok] at h hsend
    cases h
    exact hsend
  | true =>
    rw [hok] at h hsend
    cases h
    exact hsend

theorem sends_onSynAck (h : ctx.onSynAck pkg env = some ctx') : Sends 1 ctx ctx' := by
  by_cases hpos : 0 < cfg.connectionCount
  case neg => rw [onSynAck, dif_neg hpos] at h; cases h
  rw [onSynAck, dif_pos hpos] at h
  obtain ⟨ctx₁, h₁, h₂⟩ := Option.bind_eq_some_iff.1 h
  have hadopt : Emits (fun _ ↦ False) ctx (ctx.adoptConId ⟨0, hpos⟩ pkg) := adoptConId_emits
  have haccept : Emits (fun _ ↦ False) (ctx.adoptConId ⟨0, hpos⟩ pkg) ctx₁ := acceptSynAck_emits h₁
  exact Sends.trans (m := 0) (.of_emits (hadopt.trans haccept) fun _ ↦ False.elim)
    (sends_replySynAck h₂)

theorem sends_onFin : Sends 1 ctx (ctx.onFin pkg env) := by
  rcases hfind : ctx.findConn pkg.header.clientGen pkg.header.clientId with - | i <;>
    simp only [onFin, hfind]
  · exact .of_sock_eq rfl
  have hsend : Sends 1 ctx (ctx.glbioSend (glbpkgInit (ctx.connections i).connId ctrlFlagFinAck 0)
    (ctx.connections i).peerAddr (env.sendOk 0)).2 := sends_glbioSend _ _
  cases hok : env.sendOk 0 with
  | false => exact .of_sock_eq rfl
  | true =>
    rw [hok, glbioSend_of_ok] at hsend
    rw [glbioSend_of_ok]
    dsimp only at hsend ⊢
    split
    · exact Sends.trans (n := 0) hsend (.of_sock_eq (sock_closeCon _))
    · exact hsend

theorem sends_onData (h : ctx.onData pkg from_ env = some ctx') : Sends 1 ctx ctx' := by
  cases onData_effect h with
  | ignored heq => rw [heq]; exact .of_sock_eq rfl
  | old _ _ _ _ heq => rw [heq]; exact sends_glbioSend _ _
  | future _ _ _ _ heq => rw [heq]; exact .of_sock_eq rfl
  | accepted _ _ _ _ hsock =>
    refine ⟨_, hsock, List.countP_le_length.trans ?_⟩
    split
    · exact Nat.le_refl 1
    · exact Nat.zero_le 1

/-- A SYN that is answered starts no timer. -/
theorem onSyn_sends : Sends 0 ctx (ctx.onSyn pkg from_ env) ∨
    (ctx.onSyn pkg from_ env).connections = ctx.connections ∧
      Sends 1 ctx (ctx.onSyn pkg from_ env) := by
  rcases sock_onSyn ctx pkg from_ env with hsock | ⟨haddr, hempty⟩
  · exact Or.inl (.of_sock_eq hsock)
  · simp only [onSyn, haddr, hempty]
    exact Or.inr ⟨connections_glbioSend _ _ _ _, sends_glbioSend _ _⟩

/-- What a packet grants, whatever the state of the slot it is about. -/
theorem grant_packet_le (ctx : Glbctx cfg) (i : Fin cfg.connectionCount) :
    (Op.packet pkg from_ env : Op cfg).grant ctx i ≤ pkg.grant := by
  have hstart : (((pkg.start (ctx.connections i).state env).map fun s ↦ s.1.limit).getD 0) ≤
      pkg.grant := by
    unfold Glbpkg.start Glbpkg.grant
    split
    · split
      · exact Nat.zero_le _
      · exact Nat.le_refl glbMaxRetry
    · split
      · next hack =>
        rw [if_pos (by rw [hack.1]; decide)]
        exact Nat.le_refl (glbKeepaliveRetry + 1)
      split
      · next hsynAck =>
        rw [if_pos (by rw [hsynAck.1]; decide)]
        exact Nat.le_refl (glbKeepaliveRetry + 1)
      split
      · next hpong =>
        rw [if_pos (by rw [hpong.1]; decide)]
        exact Nat.le_refl (glbKeepaliveRetry + 1)
      · exact Nat.zero_le _
  unfold Op.grant Op.start
  dsimp only
  split
  · exact hstart
  · exact Nat.zero_le _

/-- What a handled packet sends and grants is what it is charged for. -/
theorem charge_handlePacket (h : ctx.handlePacket pkg from_ env = some ctx') :
    ∃ m n, Sends m ctx ctx' ∧ ctx'.budget ≤ ctx.budget + n ∧ m + n ≤ pkg.grant + pkg.answers := by
  have hstep : Step ctx (.packet pkg from_ env) ctx' := h
  have hbudget := budget_le_of_grant hstep (grant_packet_le ctx)
  have hcheap : Sends pkg.answers ctx ctx' → ∃ m n, Sends m ctx ctx' ∧
      ctx'.budget ≤ ctx.budget + n ∧ m + n ≤ pkg.grant + pkg.answers :=
    fun hsends ↦ ⟨_, _, hsends, hbudget, (Nat.add_comm _ _).le⟩
  have hquiet : Emits (fun _ ↦ False) ctx ctx' → Sends pkg.answers ctx ctx' :=
    fun hemits ↦ .of_emits hemits fun _ ↦ False.elim
  have hanswer : pkg.header.ctrlFlags ∈ [ctrlFlagSynAck, ctrlFlagFin, ctrlFlagData, ctrlFlagPing] →
      Sends 1 ctx ctx' → Sends pkg.answers ctx ctx' := fun hmem hsends ↦ by
    rw [Glbpkg.answers, if_pos hmem]
    exact hsends
  cases handlePacket_cases h with
  | syn hsyn =>
    rcases onSyn_sends with hsends | ⟨hsame, hsends⟩
    · exact ⟨0, _, hsends, hbudget, by omega⟩
    · -- a SYN that is refused grants nothing, so what it grants pays for the RST
      refine ⟨1, 0, hsends, ?_, ?_⟩
      · unfold budget
        rw [hsame]
        exact Nat.le_refl _
      · have hgrant : pkg.grant = glbMaxRetry := if_pos hsyn
        rw [hgrant]
        exact le_trans (by decide : 1 + 0 ≤ glbMaxRetry) (Nat.le_add_right _ _)
  | ack _ h => exact hcheap (hquiet (onAck_emits h))
  | synAck hflags h =>
    exact hcheap (hanswer (by rw [hflags]; decide) (sends_onSynAck h))
  | fin hflags =>
    exact hcheap (hanswer (by rw [hflags]; decide) sends_onFin)
  | finAck => exact hcheap (hquiet onFinAck_emits)
  | data hflags h =>
    exact hcheap (hanswer (by rw [hflags]; decide) (sends_onData h))
  | dataAck _ h => exact hcheap (hquiet (onDataAck_emits h))
  | ping hflags =>
    exact hcheap (hanswer (by rw [hflags]; decide) (sends_glbioSend _ _))
  | pong => exact hcheap (hquiet onPong_emits)
  | rst => exact hcheap (hquiet onRst_emits)
  | ignored => exact hcheap (.of_sock_eq rfl)

/-! ### Timers -/

theorem add_one_ne (a : UInt8) : a + 1 ≠ a := by
  intro h
  simp at h

/-- The timers of a slot send nothing but messages, or one datagram, and then they run on. -/
theorem sends_keepaliveTimer (ctx : Glbctx cfg) (i : Fin cfg.connectionCount) (env : Env) :
    (ctx.keepaliveTimer i env).sock = ctx.sock ∨
      Sends 1 ctx (ctx.keepaliveTimer i env) ∧
        ((ctx.keepaliveTimer i env).connections i).timing ≠ (ctx.connections i).timing ∧
        ((ctx.keepaliveTimer i env).connections i).state = (ctx.connections i).state := by
  rw [keepaliveTimer]
  dsimp only
  split
  · split
    · exact Or.inl (sock_closeCon _)
    · refine Or.inr ⟨sends_glbioSend _ _, fun hsame ↦ ?_, by rw [connections_setCon_self]⟩
      have hretry := congrArg Timing.keepaliveRetry hsame
      rw [connections_setCon_self] at hretry
      exact add_one_ne _ hretry
  · exact Or.inl rfl

theorem sends_retrySend : Sends 1 ctx (ctx.retrySend i pkg env) ∧
    ((ctx.retrySend i pkg env).connections i).timing ≠ (ctx.connections i).timing ∧
    ((ctx.retrySend i pkg env).connections i).state = (ctx.connections i).state := by
  refine ⟨sends_glbioSend _ _, fun hsame ↦ ?_, by simp [retrySend]⟩
  have hretry := congrArg Timing.retry hsame
  simp only [retrySend, connections_setCon_self, connections_glbioSend] at hretry
  exact add_one_ne _ hretry

theorem sends_handleTimers (htag : Tagged ctx) (h : ctx.handleTimers i env = some ctx') :
    Sends 0 ctx ctx' ∨ Sends 1 ctx ctx' ∧
      (ctx'.connections i).timing ≠ (ctx.connections i).timing ∧
      (ctx'.connections i).state ≠ .closed := by
  cases handleTimers_cases h with
  | idle => exact Or.inl (.of_sock_eq rfl)
  | syn hstate | synAck hstate | fin hstate =>
    obtain ⟨hsends, hne, hstate'⟩ := sends_retrySend
    exact Or.inr ⟨hsends, hne, by rw [hstate', hstate]; decide⟩
  | gaveUp | dropped => exact Or.inl (.of_sock_eq rfl)
  | closed => exact Or.inl (.of_sock_eq (sock_closeCon _))
  | @established chs hstate hchs =>
    obtain ⟨-, -, -, -, -, hemits⟩ := foldl_transmit_effect env _ (List.nodup_finRange _) hchs
    have hdata : Sends 0 ctx
        ((List.finRange cfg.channelCount).foldl (fun ctx c ↦ ctx.transmit i env c) ctx) := by
      refine .of_emits hemits fun d hd ↦ ?_
      obtain ⟨c, -, chs', head, rest, hchs', hhead, rfl⟩ := hd
      obtain ⟨hflags, -⟩ := htag _ _ _ ⟨chs', hchs', rfl⟩ head (by rw [hhead]; exact .head _)
      exact not_not.2 hflags
    have hsame : (((List.finRange cfg.channelCount).foldl
        (fun ctx c ↦ ctx.transmit i env c) ctx).connections i).timing =
          (ctx.connections i).timing := timing_foldl_transmit _ _ _
    rcases sends_keepaliveTimer ((List.finRange cfg.channelCount).foldl
      (fun ctx c ↦ ctx.transmit i env c) ctx) i env with hsock | ⟨hping, hne, hstate'⟩
    · exact Or.inl (Sends.trans (n := 0) hdata (.of_sock_eq hsock))
    · rw [hsame] at hne
      have hest := (hstate'.trans (congrArg Timing.state hsame)).trans hstate
      exact Or.inr ⟨Sends.trans (m := 0) hdata hping, hne, by rw [hest]; decide⟩

/-! ### Every run -/

theorem length_controlSent_le {n : ℕ} (h : Sends n ctx ctx') :
    ctx'.controlSent.length ≤ ctx.controlSent.length + n := by
  obtain ⟨ds, hsock, hds⟩ := h
  rw [controlSent, hsock, List.filter_append, List.length_append]
  exact Nat.add_le_add_left (List.countP_eq_length_filter.symm.trans_le hds) _

/-- Everything but the timers, the packets and two calls sends nothing. -/
theorem sends_call (h : Step ctx op ctx') (hpacket : ∀ pkg from_ env, op ≠ .packet pkg from_ env)
    (htimers : ∀ i env, op ≠ .timers i env) : Sends 0 ctx ctx' := by
  refine .of_emits (step_emits h) fun d hd ↦ ?_
  cases hd with
  | data | ping | syn | synAck | fin => exact absurd rfl (htimers _ _)
  | rst | ackAgain | ack | finAck | dataAck | pong => exact absurd rfl (hpacket _ _ _)

/-- **A step is charged for what it sends and for what its timers may send later.** -/
theorem control_step (htag : Tagged ctx) (h : Step ctx op ctx') :
    ctx'.controlSent.length + ctx'.budget ≤ ctx.controlSent.length + ctx.budget + op.charge := by
  have hcall : ∀ {n}, (∀ pkg from_ env, op ≠ .packet pkg from_ env) →
      (∀ i env, op ≠ .timers i env) → (∀ i, op.grant ctx i ≤ n) →
      ctx'.controlSent.length + ctx'.budget ≤ ctx.controlSent.length + ctx.budget + n := by
    intro n hpacket htimers hgrant
    have hsent := length_controlSent_le (sends_call h hpacket htimers)
    have hbudget := budget_le_of_grant h hgrant
    omega
  cases op with
  | connect now =>
    refine hcall (fun _ _ _ h ↦ by cases h) (fun _ _ h ↦ by cases h) fun i ↦ ?_
    unfold Op.grant Op.start
    dsimp only
    split
    · exact Nat.le_refl glbMaxRetry
    · exact Nat.zero_le _
  | close j now =>
    refine hcall (fun _ _ _ h ↦ by cases h) (fun _ _ h ↦ by cases h) fun i ↦ ?_
    unfold Op.grant Op.start
    dsimp only
    split
    · exact Nat.le_refl glbMaxRetry
    · exact Nat.zero_le _
  | send | pollevent | popdata | readError =>
    exact hcall (fun _ _ _ h ↦ by cases h) (fun _ _ h ↦ by cases h) fun i ↦ Nat.le_refl 0
  | packet pkg from_ env =>
    obtain ⟨m, n, hsends, hbudget, hcharge⟩ := charge_handlePacket h
    have hsent := length_controlSent_le hsends
    show _ ≤ _ + (pkg.grant + pkg.answers)
    omega
  | timers i env =>
    show _ ≤ _ + 0
    rcases sends_handleTimers htag h with hsends | ⟨hsends, hne, hstate⟩
    · have hsent := length_controlSent_le hsends
      have hbudget := budget_le_of_grant (n := 0) h fun _ ↦ Nat.le_refl 0
      omega
    · -- a datagram of a timer is paid for by its budget
      have hsent := length_controlSent_le hsends
      have hbudget : ctx'.budget + 1 ≤ ctx.budget + 0 := by
        refine budget_step h (fun j hj ↦ ?_) (Or.inl ⟨i, rfl⟩)
        obtain rfl : j = i := hj
        exact (timing_step h j).budget_lt hne hstate
      omega

/-- Everything but DATA is a bare header. -/
theorem data_of_control {d : Datagram} (htag : Tagged ctx) (h : Emitted ctx op d)
    (hcontrol : d.IsControl) : d.pkg.data = [] := by
  cases h with
  | data _ hhead =>
    obtain ⟨chs, head, rest, hchs, hhead, rfl⟩ := hhead
    obtain ⟨hflags, -⟩ := htag _ _ _ ⟨chs, hchs, rfl⟩ head (by rw [hhead]; exact .head _)
    exact absurd hflags hcontrol
  | ping _ hping =>
    obtain ⟨seq, ack, rfl⟩ := hping
    rfl
  | syn | synAck | fin | rst | ackAgain | ack | finAck | dataAck | pong => rfl

end Glbctx

/-- The bytes of a packet that is handled. -/
def Op.received : Op cfg → ℕ
  | .packet pkg _ _ => pkg.bytes.length
  | _ => 0

/-- Counts the calls of `glb_connect` and `glb_close`. -/
def Op.commands : Op cfg → ℕ
  | .connect _ | .close _ _ => 1
  | _ => 0

theorem Glbpkg.grant_le (p : Glbpkg) : p.grant ≤ 9 := by
  unfold grant
  split
  · decide
  split <;> decide

theorem Glbpkg.answers_le (p : Glbpkg) : p.answers ≤ 1 := by
  unfold answers
  split <;> decide

/-- The charge of an operation, in bytes. -/
theorem Op.charge_le (op : Op cfg) : sizeofGlbpkgheader * op.charge ≤
    10 * op.received + sizeofGlbpkgheader * glbMaxRetry * op.commands := by
  cases op with
  | connect | close => exact Nat.le_add_left _ _
  | packet pkg from_ env =>
    have hheader : sizeofGlbpkgheader ≤ pkg.bytes.length := by
      rw [Glbpkg.bytes, List.length_append, Glbpkgheader.length_bytes]
      exact Nat.le_add_right _ _
    have hcharge : pkg.grant + pkg.answers ≤ 10 := Nat.add_le_add pkg.grant_le pkg.answers_le
    calc sizeofGlbpkgheader * (pkg.grant + pkg.answers) ≤ pkg.bytes.length * 10 :=
          Nat.mul_le_mul hheader hcharge
      _ = 10 * pkg.bytes.length := Nat.mul_comm _ _
  | send | pollevent | popdata | readError | timers => exact Nat.zero_le _

namespace Glbctx

variable {ctx : Glbctx cfg} {ts : List (Transition cfg)}

theorem controlSent_init : (init cfg).controlSent = [] := rfl

theorem budget_init : (init cfg).budget = 0 := Finset.sum_eq_zero fun _ _ ↦ rfl

/-- All along a run, send queues hold DATA and everything else that was sent is a bare header. -/
theorem control_of_run (hrun : Run ts ctx) : (∀ d ∈ ctx.controlSent, d.pkg.data = []) ∧
    ∀ x ∈ ts, Tagged x.1 := by
  obtain ⟨hend, hall⟩ := Execution.invariant_of_state (C := fun _ ↦ True)
    (I := fun ctx : Glbctx cfg ↦ Tagged ctx ∧ ∀ d ∈ ctx.controlSent, d.pkg.data = [])
    (fun t op u hI hstep _ ↦ by
      obtain ⟨ds, hsock, hds⟩ := step_emits hstep
      refine ⟨tagged_step hI.1 hstep, fun d hd ↦ ?_⟩
      rw [controlSent, hsock, List.filter_append] at hd
      rcases List.mem_append.1 hd with hd | hd
      · exact hI.2 d hd
      · obtain ⟨hd, hcontrol⟩ := List.mem_filter.1 hd
        exact data_of_control hI.1 (hds d hd) (of_decide_eq_true hcontrol))
    hrun ⟨tagged_init, by simp [controlSent_init]⟩ fun _ _ ↦ trivial
  exact ⟨hend.2, fun x hx ↦ (hall x hx).1.1⟩

/-- **DATA aside, a context sends no more than it is charged for.** In every run, whatever the
packets are and wherever they come from: everything that is not DATA is a bare header; there are no
more such datagrams than the charges of the packets, `glb_connect` and `glb_close` together; and
their bytes are at most ten times the bytes of the packets handled, and five headers more for each
call. -/
theorem amplification_le (hrun : Run ts ctx) :
    (∀ d ∈ ctx.controlSent, d.pkg.data = []) ∧
    ctx.controlSent.length ≤ (ts.map fun x ↦ x.2.1.charge).sum ∧
    (ctx.controlSent.map fun d ↦ d.pkg.bytes.length).sum ≤
      10 * (ts.map fun x ↦ x.2.1.received).sum +
        sizeofGlbpkgheader * glbMaxRetry * (ts.map fun x ↦ x.2.1.commands).sum := by
  obtain ⟨hdata, htag⟩ := control_of_run hrun
  have hcharge : ctx.controlSent.length ≤ (ts.map fun x ↦ x.2.1.charge).sum := by
    have hall := hrun.amortized (I := Tagged) (f := fun ctx ↦ ctx.controlSent.length + ctx.budget)
      (c := Op.charge) (fun _ _ _ htag h ↦ control_step htag h) htag
    rw [controlSent_init, budget_init, List.length_nil, Nat.zero_add] at hall
    exact (Nat.le_add_right _ _).trans hall
  refine ⟨hdata, hcharge, ?_⟩
  have hbytes : (ctx.controlSent.map fun d ↦ d.pkg.bytes.length).sum =
      sizeofGlbpkgheader * ctx.controlSent.length := by
    rw [List.map_congr_left (g := fun _ ↦ sizeofGlbpkgheader) fun d hd ↦ ?_]
    · rw [List.map_const', List.sum_replicate, smul_eq_mul, Nat.mul_comm]
    · rw [Glbpkg.bytes, hdata d hd, List.append_nil, Glbpkgheader.length_bytes]
  calc (ctx.controlSent.map fun d ↦ d.pkg.bytes.length).sum
      = sizeofGlbpkgheader * ctx.controlSent.length := hbytes
    _ ≤ sizeofGlbpkgheader * (ts.map fun x ↦ x.2.1.charge).sum := Nat.mul_le_mul_left _ hcharge
    _ = (ts.map fun x ↦ sizeofGlbpkgheader * x.2.1.charge).sum := (List.sum_map_mul_left ..).symm
    _ ≤ (ts.map fun x ↦ 10 * x.2.1.received +
          sizeofGlbpkgheader * glbMaxRetry * x.2.1.commands).sum :=
        List.sum_le_sum fun x _ ↦ x.2.1.charge_le
    _ = _ := by rw [List.sum_map_add, List.sum_map_mul_left, List.sum_map_mul_left]

/-- A server handles one SYN, and its timers are served until they give up. -/
def unansweredSyn : List (Op Glbcfg.sampleServer) :=
  [.packet ((glbpkgInit ⟨0xFFFF, 0⟩ ctrlFlagSyn 0).withSeqAck 7 0) .samplePeer (Env.at 1)] ++
    [1, 101, 301, 601, 1001, 1501].map fun now ↦ .timers ⟨0, Nat.two_pos⟩ (Env.at now)

/-- All of the charge of a SYN is spent, and that is within the bound on the bytes. -/
theorem amplification_le_syn : ∃ ts ctx, @Run Glbcfg.sampleServer ts ctx ∧
    ctx.controlSent.length = (ts.map fun x ↦ x.2.1.charge).sum ∧ ctx.controlSent.length = 5 ∧
    (ctx.controlSent.map fun d ↦ d.pkg.bytes.length).sum ≤ 10 * 24 := by
  have hend : (Execution.perform step unansweredSyn (init _)).map (fun r ↦
      (r.2.controlSent.length, (r.1.map fun x ↦ x.2.1.charge).sum,
        (r.1.map fun x ↦ x.2.1.received).sum, (r.1.map fun x ↦ x.2.1.commands).sum)) =
      some (5, 5, 24, 0) := by decide +kernel
  obtain ⟨r, hr, heq⟩ := Option.map_eq_some_iff.1 hend
  simp only [Prod.mk.injEq] at heq
  obtain ⟨hsent, hcharge, hreceived, hcommands⟩ := heq
  have hrun := run_of_perform hr
  obtain ⟨-, -, hbytes⟩ := amplification_le hrun
  rw [hreceived, hcommands] at hbytes
  exact ⟨r.1, r.2, hrun, hsent.trans hcharge.symm, hsent, hbytes⟩

end Glbctx

end Gilberta
