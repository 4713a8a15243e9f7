import Gilberta.Traffic.Conninfo
import Mathlib.Algebra.BigOperators.Fin
import Mathlib.Algebra.Order.BigOperators.Group.Finset

/-!
# What a STALLED event stands for

The packet at the head of a reliable send queue is transmitted again and again until its DATA|ACK
arrives. It counts its transmissions, whether `sendto` took them or not, and with every sixth one
the count starts over and STALLED is offered to the event queue, which loses it if it is full. So
the transmissions on the reliable channels of a slot are six for each STALLED event offered, those
counted by the heads that are there, and at most five for each head that is gone, because it was
acknowledged or because the slot lost its channels (`stalls_account`).

That this is exact rests on two facts about send queues (`Counted`): the head counts at most five
transmissions, and the packets behind it none.
-/

namespace Gilberta

variable {cfg : Glbcfg}

namespace Glbchannel

variable (chan : Glbchannel)

/-- How often the head of a reliable channel was transmitted since it was queued, or since it was
last reported. -/
def inVain : ℕ :=
  if chan.reliable then chan.sQueue.elems.head?.elim 0 fun head ↦ head.retransmitCount.toNat else 0

/-- How many packets a pass transmits on a reliable channel, whatever `sendto` does. -/
def transmissions (env : Env) (c : ℕ) : ℕ :=
  if chan.reliable ∧ (chan.due env c).isSome then 1 else 0

/-- Whether a reliable channel that is `chan'` after a step lost its head. -/
def headsGone (chan' : Option Glbchannel) : ℕ :=
  if chan.reliable ∧ chan.sQueue.elems ≠ [] ∧
    ∀ x ∈ chan', x.sQueue.elems.length < chan.sQueue.elems.length then 1 else 0

end Glbchannel

/-- Channel `c` of slot `i`, if the slot has channels. -/
def Glbctx.chanAt (ctx : Glbctx cfg) (i : Fin cfg.connectionCount) (c : Fin cfg.channelCount) :
    Option Glbchannel := (ctx.connections i).channels.map fun chs ↦ chs.chan c

/-- What the heads of the reliable channels of a slot count. -/
def Glbctx.inVain (ctx : Glbctx cfg) (i : Fin cfg.connectionCount) : ℕ :=
  ∑ c, (ctx.chanAt i c).elim 0 Glbchannel.inVain

/-- How many packets an operation transmits on the reliable channels of slot `i`. -/
def Op.transmissions (ctx : Glbctx cfg) (i : Fin cfg.connectionCount) : Op cfg → ℕ
  | .timers j env =>
    if j = i ∧ (ctx.connections i).state = .established then
      ∑ c, (ctx.chanAt i c).elim 0 fun chan ↦ chan.transmissions env c
    else 0
  | _ => 0

/-- How many reliable channels of slot `i` lost their head between two states. -/
def Glbctx.headsGone (ctx ctx' : Glbctx cfg) (i : Fin cfg.connectionCount) : ℕ :=
  ∑ c, (ctx.chanAt i c).elim 0 fun chan ↦ chan.headsGone (ctx'.chanAt i c)

/-- How many STALLED events for slot `i` were offered to the event queue. -/
def Glbctx.stalled (ctx : Glbctx cfg) (i : Fin cfg.connectionCount) : ℕ :=
  (ctx.offered.filterMap (Glbevent.reading i)).length

/-! ### Send queues that count -/

/-- The head of a queue counts less than six transmissions, the packets behind it count none. -/
structure Counted (elems : List Glbpkg) : Prop where
  /-- A count never exceeds what is reported. -/
  head : ∀ p ∈ elems.head?, p.retransmitCount.toNat ≤ glbMaxRetry
  /-- Only the head is transmitted. -/
  tail : ∀ p ∈ elems.tail, p.retransmitCount = 0

namespace Counted

variable {elems : List Glbpkg} {pkg : Glbpkg}

theorem nil : Counted [] := ⟨by simp, by simp⟩

theorem pop (h : Counted elems) : Counted elems.tail where
  head p hp := by
    rw [h.tail p (List.mem_of_mem_head? hp)]
    exact Nat.zero_le _
  tail p hp := h.tail p (List.mem_of_mem_tail hp)

theorem snoc (h : Counted elems) (hpkg : pkg.retransmitCount = 0) : Counted (elems ++ [pkg]) := by
  rcases elems with - | ⟨p, ps⟩
  · exact ⟨by simp [hpkg], by simp⟩
  · refine ⟨h.head, fun q hq ↦ ?_⟩
    rcases List.mem_append.1 (hq : q ∈ ps ++ [pkg]) with hq | hq
    · exact h.tail q hq
    · rw [List.mem_singleton.1 hq, hpkg]

theorem modifyHead (h : Counted elems) {f : Glbpkg → Glbpkg}
    (hf : ∀ p, (f p).retransmitCount.toNat ≤ glbMaxRetry) : Counted (elems.modifyHead f) := by
  rcases elems with - | ⟨p, ps⟩
  · exact nil
  · exact ⟨by simpa using hf p, h.tail⟩

end Counted

namespace Glbctx

variable {ctx ctx' : Glbctx cfg} {op : Op cfg} {i : Fin cfg.connectionCount}
  {c : Fin cfg.channelCount} {chan chan' : Glbchannel} {env : Env}

/-- A transmission leaves a count of at most five. -/
theorem toNat_retransmitCount_retransmitted (pkg : Glbpkg) (now : ℕ) :
    (retransmitted pkg now).retransmitCount.toNat ≤ glbMaxRetry := by
  show (if (pkg.retransmitCount + 1).toNat > glbMaxRetry then (0 : UInt64)
    else pkg.retransmitCount + 1).toNat ≤ glbMaxRetry
  split
  · exact Nat.zero_le _
  · next h => exact not_lt.1 h

/-- Every send queue counts. -/
def AllCounted (ctx : Glbctx cfg) : Prop :=
  ∀ i c chan, ctx.HasChannel i c chan → Counted chan.sQueue.elems

theorem allCounted_init : AllCounted (init cfg) := by
  rintro i c chan ⟨chs, hchs, -⟩
  cases hchs

/-- **Send queues go on counting.** -/
theorem allCounted_step (hI : AllCounted ctx) (h : Step ctx op ctx') : AllCounted ctx' := by
  intro i c chan' hchan'
  rcases step_channel h hchan' with ⟨ack, -, hopened⟩ | ⟨chan, hchan, -, hsend⟩
  · rw [hopened.sQueue.elems]
    exact .nil
  have hcounted := hI i c chan hchan
  generalize hside : chan'.sendSide = side at hsend
  obtain ⟨hq, -⟩ := Glbchannel.sendSide_eq_iff.1 hside
  rw [hq]
  cases hsend with
  | same => exact hcounted
  | queued _ _ _ hroom =>
    show Counted (queuedChan chan _).sQueue.elems
    rw [elems_queuedChan hroom]
    exact hcounted.snoc rfl
  | acked => simpa using hcounted.pop
  | transmitted htrans =>
    cases htrans with
    | idle => exact hcounted
    | kept now =>
      exact hcounted.modifyHead fun p ↦ toNat_retransmitCount_retransmitted p now
    | dropped =>
      show Counted chan.sQueue.pop.2.2.elems
      rw [Glbqueue.toBoundedQueue_pop, BoundedQueue.elems_drop]
      exact hcounted.pop

/-! ### One channel -/

theorem chanAt_eq_some : ctx.chanAt i c = some chan ↔ ctx.HasChannel i c chan := by
  rw [chanAt, Option.map_eq_some_iff]
  rfl

/-- What a channel counted before a step and what was transmitted on it is what it counts after the
step and what was reported, but for what was lost with its head. -/
def Balanced (chan : Glbchannel) (chan' : Option Glbchannel) (transmissions stalls : ℕ) : Prop :=
  ∃ lost ≤ 5 * chan.headsGone chan',
    chan'.elim 0 Glbchannel.inVain + 6 * stalls + lost = chan.inVain + transmissions

/-- What the head of a channel counts is lost with it. -/
theorem inVain_le (h : Counted chan.sQueue.elems) {chan' : Option Glbchannel}
    (hgone : ∀ x ∈ chan', x.sQueue.elems.length < chan.sQueue.elems.length) :
    chan.inVain ≤ 5 * chan.headsGone chan' := by
  rw [Glbchannel.inVain]
  split
  · next hrel =>
    rcases helems : chan.sQueue.elems with - | ⟨head, rest⟩
    · exact Nat.zero_le _
    · have hone : chan.headsGone chan' = 1 := if_pos ⟨hrel, by rw [helems]; simp, hgone⟩
      rw [hone]
      rw [helems] at h
      exact h.head head rfl
  · exact Nat.zero_le _

theorem balanced_of_gone (h : Counted chan.sQueue.elems) {chan' : Option Glbchannel}
    (hgone : ∀ x ∈ chan', x.sQueue.elems.length < chan.sQueue.elems.length)
    (hzero : chan'.elim 0 Glbchannel.inVain = 0) : Balanced chan chan' 0 0 :=
  ⟨chan.inVain, inVain_le h hgone, by rw [hzero, Nat.zero_add]; rfl⟩

theorem balanced_of_eq (h : chan'.inVain = chan.inVain) : Balanced chan (some chan') 0 0 :=
  ⟨0, Nat.zero_le _, h⟩

/-- A head that was never transmitted counts nothing. -/
theorem inVain_eq_zero (h : ∀ p ∈ chan.sQueue.elems.head?, p.retransmitCount = 0) :
    chan.inVain = 0 := by
  rw [Glbchannel.inVain]
  split
  · rcases hhead : chan.sQueue.elems.head? with - | head
    · rfl
    · simp [h head hhead]
  · rfl

theorem reliable_congr (hflags : chan'.flags = chan.flags) : chan'.reliable = chan.reliable := by
  rw [Glbchannel.reliable, Glbchannel.reliable, hflags]

theorem inVain_congr (hhead : chan'.sQueue.elems.head? = chan.sQueue.elems.head?)
    (hflags : chan'.flags = chan.flags) : chan'.inVain = chan.inVain := by
  rw [Glbchannel.inVain, Glbchannel.inVain, hhead, reliable_congr hflags]

theorem balanced_of_sendSide (h : chan'.sendSide = chan.sendSide) :
    Balanced chan (some chan') 0 0 := by
  obtain ⟨hq, -, hflags⟩ := Glbchannel.sendSide_eq_iff.1 h
  exact balanced_of_eq (inVain_congr (congrArg (fun q ↦ q.elems.head?) hq) hflags)

/-- What happens to a send queue outside a pass over it. -/
theorem balanced_of_sendChange (hcounted : Counted chan.sQueue.elems)
    (hsend : SendChange ctx i c chan op chan'.sendSide)
    (hop : ∀ env, op = .timers i env → chan'.sendSide = chan.sendSide) :
    Balanced chan (some chan') 0 0 := by
  generalize hside : chan'.sendSide = side at hsend hop
  obtain ⟨hq, -, hflags⟩ := Glbchannel.sendSide_eq_iff.1 hside
  cases hsend with
  | same => exact balanced_of_sendSide hside
  | queued _ _ _ hroom =>
    obtain ⟨msg, hmsg, helems⟩ : ∃ msg, msg.retransmitCount = 0 ∧
        chan'.sQueue.elems = chan.sQueue.elems ++ [msg] :=
      ⟨_, rfl, (congrArg (fun q ↦ q.elems) hq).trans (elems_queuedChan hroom)⟩
    rcases hne : chan.sQueue.elems with - | ⟨head, rest⟩
    · refine balanced_of_eq ((inVain_eq_zero ?_).trans (inVain_eq_zero ?_).symm)
      · rw [helems, hne]
        simpa using hmsg
      · rw [hne]
        simp
    · refine balanced_of_eq (inVain_congr ?_ hflags)
      rw [helems, hne, List.cons_append, List.head?_cons, List.head?_cons]
  | @acked _ _ _ _ head rest _ _ _ hhead =>
    have helems : chan'.sQueue.elems = rest := by
      rw [hq, Glbqueue.toBoundedQueue_pop, BoundedQueue.elems_drop, hhead, List.tail_cons]
    refine balanced_of_gone hcounted (fun x hx ↦ ?_) (inVain_eq_zero fun p hp ↦ ?_)
    · obtain rfl := Option.some_inj.1 hx
      rw [helems, hhead]
      exact Nat.lt_succ_self _
    · rw [hhead] at hcounted
      rw [helems] at hp
      exact hcounted.tail p (List.mem_of_mem_head? hp)
  | transmitted => exact balanced_of_sendSide (hside.trans (hop _ rfl))

theorem balanced_of_isOpened {config : Glbchan} {seq ack : UInt32}
    (hcounted : Counted chan.sQueue.elems) (h : chan'.IsOpened config seq ack) :
    Balanced chan (some chan') 0 0 := by
  have hzero : chan'.inVain = 0 := inVain_eq_zero (by rw [h.sQueue.elems]; simp)
  rcases hne : chan.sQueue.elems with - | ⟨head, rest⟩
  · exact balanced_of_eq (hzero.trans (inVain_eq_zero (by rw [hne]; simp)).symm)
  · refine balanced_of_gone hcounted (fun x hx ↦ ?_) hzero
    obtain rfl := Option.some_inj.1 hx
    rw [h.sQueue.elems, hne]
    exact Nat.succ_pos _

/-! ### A pass over a channel -/

theorem flags_passed (k : ℕ) : (chan.passed env k).flags = chan.flags := by
  rw [Glbchannel.passed]
  split
  · rfl
  · split <;> rfl

/-- **What a pass transmits is counted or reported.** -/
theorem inVain_passed (hcounted : Counted chan.sQueue.elems) (env : Env) (k : ℕ) :
    (chan.passed env k).inVain + 6 * (chan.stalls env k).length =
      chan.inVain + chan.transmissions env k := by
  rcases hdue : chan.due env k with - | head
  · simp [Glbchannel.passed, Glbchannel.stalls, Glbchannel.transmissions, hdue]
  cases hrel : chan.reliable with
  | false =>
    have hpassed : (chan.passed env k).reliable = false :=
      (reliable_congr (flags_passed k)).trans hrel
    simp [Glbchannel.stalls, Glbchannel.transmissions, Glbchannel.inVain, hdue, hrel, hpassed]
  | true =>
    obtain ⟨rest, helems⟩ := Glbchannel.due_eq_some hdue
    have hpassed : (chan.passed env k).reliable = true :=
      (reliable_congr (flags_passed k)).trans hrel
    have hcount : head.retransmitCount.toNat ≤ 5 := hcounted.head head (by rw [helems]; rfl)
    have hsucc : (head.retransmitCount + 1).toNat = head.retransmitCount.toNat + 1 := by
      rw [UInt64.toNat_add]
      exact Nat.mod_eq_of_lt (by show _ + 1 < _; omega)
    have hhead : (chan.passed env k).sQueue.elems.head? =
        some (retransmitted head (env.clock (2 * k + 3))) := by
      simp [Glbchannel.passed, hdue, hrel, helems]
    have hbefore : chan.inVain = head.retransmitCount.toNat := by
      simp [Glbchannel.inVain, hrel, helems]
    have hafter : (chan.passed env k).inVain =
        (retransmitted head (env.clock (2 * k + 3))).retransmitCount.toNat := by
      simp [Glbchannel.inVain, hpassed, hhead]
    have hone : chan.transmissions env k = 1 := by simp [Glbchannel.transmissions, hdue, hrel]
    rw [hbefore, hafter, hone, Glbchannel.stalls, hdue]
    dsimp only
    by_cases hgt : (head.retransmitCount + 1).toNat > glbMaxRetry
    · -- the sixth transmission: the count starts over, and is reported
      have hzero : (retransmitted head (env.clock (2 * k + 3))).retransmitCount = 0 := if_pos hgt
      have hsix : head.retransmitCount.toNat + 1 > 5 := hsucc ▸ hgt
      rw [hzero, if_pos ⟨hrel, hgt⟩]
      show 0 + 6 * 1 = _
      omega
    · have hnext : (retransmitted head (env.clock (2 * k + 3))).retransmitCount =
          head.retransmitCount + 1 := if_neg hgt
      rw [hnext, if_neg fun h ↦ hgt h.2, hsucc]
      rfl

/-- What a pass leaves in the queue of a reliable channel. -/
theorem headsGone_passed (env : Env) (k : ℕ) :
    (chan.passed env k).headsGone none = chan.headsGone none := by
  rw [Glbchannel.headsGone, Glbchannel.headsGone, reliable_congr (flags_passed k)]
  cases hrel : chan.reliable with
  | false => simp
  | true =>
    rcases hdue : chan.due env k with - | head
    · simp [Glbchannel.passed, hdue]
    · obtain ⟨rest, helems⟩ := Glbchannel.due_eq_some hdue
      simp [Glbchannel.passed, hdue, hrel, helems]

theorem counted_passed (hcounted : Counted chan.sQueue.elems) (k : ℕ) :
    Counted (chan.passed env k).sQueue.elems := by
  rw [Glbchannel.passed]
  split
  · exact hcounted
  · split
    · exact hcounted.modifyHead fun p ↦ toNat_retransmitCount_retransmitted p _
    · simpa using hcounted.pop

/-- A pass that leaves the channel or, with its slot, takes it away. -/
theorem balanced_passed (hcounted : Counted chan.sQueue.elems) (k : ℕ) {chan' : Option Glbchannel}
    (h : chan' = some (chan.passed env k) ∨ chan' = none) :
    Balanced chan chan' (chan.transmissions env k) (chan.stalls env k).length := by
  have hpass := inVain_passed hcounted env k
  rcases h with rfl | rfl
  · exact ⟨0, Nat.zero_le _, hpass⟩
  · refine ⟨(chan.passed env k).inVain, ?_, ?_⟩
    · rw [← headsGone_passed env k]
      exact inVain_le (counted_passed hcounted k) (by simp)
    · show 0 + 6 * _ + _ = _
      omega

/-! ### All channels of a slot -/

theorem sum_balanced {n : ℕ} (chans chans' : Fin n → Option Glbchannel) (t s : Fin n → ℕ)
    (hnone : ∀ c, chans c = none → (chans' c).elim 0 Glbchannel.inVain = 0 ∧ t c = 0 ∧ s c = 0)
    (h : ∀ c chan, chans c = some chan → Balanced chan (chans' c) (t c) (s c)) :
    ∃ lost ≤ 5 * ∑ c, (chans c).elim 0 fun chan ↦ chan.headsGone (chans' c),
      ∑ c, (chans' c).elim 0 Glbchannel.inVain + 6 * ∑ c, s c + lost =
        ∑ c, (chans c).elim 0 Glbchannel.inVain + ∑ c, t c := by
  have hall : ∀ c, ∃ lost ≤ 5 * (chans c).elim 0 fun chan ↦ chan.headsGone (chans' c),
      (chans' c).elim 0 Glbchannel.inVain + 6 * s c + lost =
        (chans c).elim 0 Glbchannel.inVain + t c := by
    intro c
    rcases hchan : chans c with - | chan
    · obtain ⟨hzero, ht, hs⟩ := hnone c hchan
      exact ⟨0, Nat.zero_le _, by rw [hzero, ht, hs]; rfl⟩
    · exact h c chan hchan
  choose lost hle heq using hall
  refine ⟨∑ c, lost c, ?_, ?_⟩
  · rw [Finset.mul_sum]
    exact Finset.sum_le_sum fun c _ ↦ hle c
  · rw [Finset.mul_sum, ← Finset.sum_add_distrib, ← Finset.sum_add_distrib,
      ← Finset.sum_add_distrib]
    exact Finset.sum_congr rfl fun c _ ↦ heq c

/-- A step that is not a pass over the established slot leaves the counts, or loses them. -/
theorem balanced_of_quiet (hI : AllCounted ctx) (h : Step ctx op ctx') (i : Fin cfg.connectionCount)
    (hop : ∀ env, op = .timers i env → (ctx.connections i).state ≠ .established) :
    ∃ lost ≤ 5 * ctx.headsGone ctx' i, ctx'.inVain i + lost = ctx.inVain i := by
  have hchan : ∀ c chan', ctx'.chanAt i c = some chan' →
      (∃ config seq ack, chan'.IsOpened config seq ack) ∨
        ∃ chan, ctx.chanAt i c = some chan ∧ SendChange ctx i c chan op chan'.sendSide ∧
          ∀ env, op = .timers i env → chan'.sendSide = chan.sendSide := by
    intro c chan' hchan'
    rw [chanAt_eq_some] at hchan'
    rcases step_channel h hchan' with ⟨ack, -, hopened⟩ | ⟨chan, hchan, -, hsend⟩
    · exact Or.inl ⟨_, _, _, hopened⟩
    refine Or.inr ⟨chan, chanAt_eq_some.2 hchan, hsend, fun env htimers ↦ ?_⟩
    subst htimers
    rcases handleTimers_of_ne (hop env rfl) h with heq | hnone
    · rw [HasChannel, heq] at hchan'
      rw [hchan.unique hchan']
    · obtain ⟨chs, hchs, -⟩ := hchan'
      rw [hnone] at hchs
      cases hchs
  have hsum := sum_balanced (ctx.chanAt i) (ctx'.chanAt i) (fun _ ↦ 0) (fun _ ↦ 0)
    (fun c hnone ↦ ⟨?_, rfl, rfl⟩) fun c chan hsome ↦ ?_
  · simp only [Finset.sum_const_zero, Nat.mul_zero, Nat.add_zero] at hsum
    exact hsum
  · rcases hsome' : ctx'.chanAt i c with - | chan'
    · rfl
    · rcases hchan c chan' hsome' with ⟨config, seq, ack, hopened⟩ | ⟨chan, hsome, -⟩
      · exact inVain_eq_zero (by rw [hopened.sQueue.elems]; simp)
      · rw [hnone] at hsome
        cases hsome
  · have hcounted := hI i c chan (chanAt_eq_some.1 hsome)
    rcases hsome' : ctx'.chanAt i c with - | chan'
    · exact balanced_of_gone hcounted (by simp) rfl
    · rcases hchan c chan' hsome' with ⟨config, seq, ack, hopened⟩ | ⟨chan₁, hsome₁, hsend, hsame⟩
      · exact balanced_of_isOpened hcounted hopened
      · obtain rfl := Option.some_inj.1 (hsome₁.symm.trans hsome)
        exact balanced_of_sendChange hcounted hsend hsame

/-- **A pass over an established slot** transmits what is counted or reported. -/
theorem balanced_of_timers (hI : AllCounted ctx) (hest : (ctx.connections i).state = .established)
    (h : ctx.handleTimers i env = some ctx') :
    ∃ lost ≤ 5 * ctx.headsGone ctx' i,
      ctx'.inVain i + 6 * ((Op.timers i env : Op cfg).stalls ctx i).length + lost =
        ctx.inVain i + (Op.timers i env : Op cfg).transmissions ctx i := by
  obtain ⟨chs, ctx₁, hchs, hpass, rfl⟩ := handleTimers_passes hest h
  have hbefore : ∀ c, ctx.chanAt i c = some (chs.chan c) := fun c ↦ by rw [chanAt, hchs]; rfl
  have hafter : ∀ c, (ctx₁.keepaliveTimer i env).chanAt i c = some ((chs.chan c).passed env c) ∨
      (ctx₁.keepaliveTimer i env).chanAt i c = none := by
    intro c
    rw [chanAt]
    rcases connections_keepaliveTimer ctx₁ i env with ⟨t, n, hcon, -⟩ | ⟨hcon, -⟩
    · refine Or.inl ?_
      rw [hcon, hpass.con]
      simp [Glbchannels.passed]
    · rw [hcon]
      exact Or.inr rfl
  have hsum := sum_balanced (ctx.chanAt i) ((ctx₁.keepaliveTimer i env).chanAt i)
    (fun c ↦ (chs.chan c).transmissions env c) (fun c ↦ ((chs.chan c).stalls env c).length)
    (fun c hnone ↦ ?_) fun c chan hsome ↦ ?_
  · have hstalls : ((Op.timers i env : Op cfg).stalls ctx i).length =
        ∑ c, ((chs.chan c).stalls env c).length := by
      rw [Op.stalls, if_pos ⟨rfl, hest⟩, hchs, Fin.sum_univ_def]
      exact List.length_flatMap
    have htrans : (Op.timers i env : Op cfg).transmissions ctx i =
        ∑ c, (chs.chan c).transmissions env c := by
      rw [Op.transmissions, if_pos ⟨rfl, hest⟩]
      exact Finset.sum_congr rfl fun c _ ↦ by rw [hbefore c]; rfl
    rw [hstalls, htrans]
    exact hsum
  · rw [hbefore c] at hnone
    cases hnone
  · obtain rfl := Option.some_inj.1 ((hbefore c).symm.trans hsome)
    exact balanced_passed (hI i c _ (chanAt_eq_some.1 (hbefore c))) c (hafter c)

/-- **The balance of a step.** -/
theorem balanced_step (hI : AllCounted ctx) (h : Step ctx op ctx') (i : Fin cfg.connectionCount) :
    ∃ lost ≤ 5 * ctx.headsGone ctx' i, ctx'.inVain i + 6 * ctx'.stalled i + lost =
      ctx.inVain i + 6 * ctx.stalled i + op.transmissions ctx i := by
  have hstalled : ctx'.stalled i = ctx.stalled i + (op.stalls ctx i).length := by
    obtain ⟨evs, hoffered, hevs, -⟩ := meter_step h i
    rw [stalled, hoffered, List.filterMap_append, List.length_append, hevs, List.length_map]
    rfl
  by_cases hop : ∃ env, op = .timers i env ∧ (ctx.connections i).state = .established
  · obtain ⟨env, rfl, hest⟩ := hop
    obtain ⟨lost, hlost, heq⟩ := balanced_of_timers hI hest h
    exact ⟨lost, hlost, by omega⟩
  · have hquiet : ∀ env, op = .timers i env → (ctx.connections i).state ≠ .established :=
      fun env htimers hest ↦ hop ⟨env, htimers, hest⟩
    obtain ⟨lost, hlost, heq⟩ := balanced_of_quiet hI h i hquiet
    have hnone : op.transmissions ctx i = 0 ∧ op.stalls ctx i = [] := by
      cases op with
      | timers j env =>
        have hne : ¬ (j = i ∧ (ctx.connections i).state = .established) := by
          rintro ⟨rfl, hest⟩
          exact hop ⟨env, rfl, hest⟩
        exact ⟨if_neg hne, if_neg hne⟩
      | _ => exact ⟨rfl, rfl⟩
    rw [hnone.2, List.length_nil] at hstalled
    exact ⟨lost, hlost, by omega⟩

/-! ### Whole runs -/

/-- How many packets a run transmits on the reliable channels of slot `i`. -/
def transmissionsIn (i : Fin cfg.connectionCount) (ts : List (Transition cfg)) : ℕ :=
  (ts.map fun x ↦ x.2.1.transmissions x.1 i).sum

/-- How many reliable channels of slot `i` lose their head in the steps of a run. -/
def headsGoneIn (i : Fin cfg.connectionCount) (ts : List (Transition cfg)) : ℕ :=
  (ts.map fun x ↦ x.1.headsGone x.2.2 i).sum

theorem inVain_le_of_counted (hI : AllCounted ctx) : ctx.inVain i ≤ 5 * cfg.channelCount := by
  have hle : ∀ c, (ctx.chanAt i c).elim 0 Glbchannel.inVain ≤ 5 := by
    intro c
    rcases hchan : ctx.chanAt i c with - | chan
    · exact Nat.zero_le _
    · have hone : chan.headsGone none ≤ 1 := by
        rw [Glbchannel.headsGone]
        split <;> simp
      have hlost := inVain_le (hI i c chan (chanAt_eq_some.1 hchan)) (by simp : ∀ x ∈ none, _)
      show chan.inVain ≤ 5
      omega
  calc ctx.inVain i ≤ ∑ _c : Fin cfg.channelCount, 5 := Finset.sum_le_sum fun c _ ↦ hle c
    _ = 5 * cfg.channelCount := by simp [Nat.mul_comm]

/-- **Every transmission on a reliable channel is accounted for.** In every run, whatever packets
arrive and whatever `sendto` does, the transmissions on the reliable channels of a slot are six for
each STALLED event offered for it, those that the heads of its queues count (at most five each), and
at most five for each head that is gone. -/
theorem stalls_account {ts : List (Transition cfg)} (hrun : Run ts ctx)
    (i : Fin cfg.connectionCount) :
    ctx.inVain i ≤ 5 * cfg.channelCount ∧ ∃ lost ≤ 5 * headsGoneIn i ts,
      ctx.inVain i + 6 * ctx.stalled i + lost = transmissionsIn i ts := by
  obtain ⟨hend, hall⟩ := hrun.invariant_of_state (C := fun _ ↦ True)
    (fun _ _ _ hI hstep _ ↦ allCounted_step hI hstep) allCounted_init fun _ _ ↦ trivial
  refine ⟨inVain_le_of_counted hend, ?_⟩
  obtain ⟨lost, hlost, heq⟩ := hrun.balance (I := AllCounted)
    (f := fun ctx ↦ ctx.inVain i + 6 * ctx.stalled i) (c := fun x ↦ x.2.1.transmissions x.1 i)
    (d := fun x ↦ 5 * x.1.headsGone x.2.2 i)
    (fun _ _ _ hI hstep ↦ balanced_step hI hstep i) fun x hx ↦ (hall x hx).1
  have hinVain : (init cfg).inVain i = 0 := Finset.sum_eq_zero fun _ _ ↦ rfl
  have hstalled : (init cfg).stalled i = 0 := rfl
  rw [hinVain, hstalled, Nat.zero_add] at heq
  rw [List.sum_map_mul_left] at hlost
  exact ⟨lost, hlost, heq⟩

/-- A message to a client is transmitted eight times in vain, and the client closes. -/
def eightInVain : List (Op Glbcfg.sampleServer) :=
  [.packet (glbpkgInit ⟨0xFFFF, 0⟩ ctrlFlagSyn 0) .samplePeer (Env.at 1),
    .packet (glbpkgInit ⟨1, 0⟩ ctrlFlagAck 0) .samplePeer (Env.at 2),
    .send ⟨some [7], some ⟨0, Nat.two_pos⟩, 0⟩ 4] ++
  (List.range 8).map (fun k ↦ .timers ⟨0, Nat.two_pos⟩ (Env.at (1000 * (k + 1)))) ++
  [.packet (glbpkgInit ⟨1, 0⟩ ctrlFlagFin 0) .samplePeer (Env.at 9000)]

/-- Six of the eight transmissions are reported, two are lost with the head. -/
theorem stalls_account_sample : ∃ ts ctx, @Run Glbcfg.sampleServer ts ctx ∧
    ctx.stalled ⟨0, Nat.two_pos⟩ = 1 ∧
    @transmissionsIn Glbcfg.sampleServer ⟨0, Nat.two_pos⟩ ts = 8 ∧
    ∃ lost ≤ 5, ctx.inVain ⟨0, Nat.two_pos⟩ + 6 * ctx.stalled ⟨0, Nat.two_pos⟩ + lost = 8 := by
  have hend : (Execution.perform step eightInVain (init _)).map (fun r ↦
      (r.2.stalled ⟨0, Nat.two_pos⟩, @transmissionsIn Glbcfg.sampleServer ⟨0, Nat.two_pos⟩ r.1,
        @headsGoneIn Glbcfg.sampleServer ⟨0, Nat.two_pos⟩ r.1)) = some (1, 8, 1) := by
    decide +kernel
  obtain ⟨r, hr, heq⟩ := Option.map_eq_some_iff.1 hend
  simp only [Prod.mk.injEq] at heq
  obtain ⟨hstalled, htransmissions, hgone⟩ := heq
  obtain ⟨-, lost, hlost, hsum⟩ := stalls_account (run_of_perform hr) ⟨0, Nat.two_pos⟩
  rw [hgone] at hlost
  rw [htransmissions] at hsum
  exact ⟨r.1, r.2, run_of_perform hr, hstalled, htransmissions, lost, hlost, hsum⟩

end Glbctx

end Gilberta
