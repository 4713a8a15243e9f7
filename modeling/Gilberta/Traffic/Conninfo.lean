import Gilberta.Effects.Locality
import Gilberta.Lifecycle.Announcements
import Gilberta.Traffic.Transmission

/-!
# What `glb_getconinfo` reports

Three fields of a slot are there for the application only: `loss_count`, `desync_count` and `rtt`.
No function of the library decides anything by them, and `glb_getconinfo` copies them out.

They can be read off what happened to the slot (`coninfo_exact`): `loss` is the number of STALLED
events offered for the slot since it was taken for a new connection, whether the event queue had
room for them or not, `desync` the number of packets from the future on its reliable channels ever
since the context was created, and `rtt` the measured round trips since the slot was taken, each
counting as much as all before it. Both counters wrap.
That `desync` goes on counting when a slot changes hands, and `loss` does not, is what the source
does: neither `glb_connect` nor the SYN branch resets it.
-/

namespace Gilberta

variable {cfg : Glbcfg}

/-- What a slot counts and measures for the application. -/
structure Meter where
  /-- Count of lost packets. -/
  loss : UInt32
  /-- Count of DESYNC events. -/
  desync : UInt32
  /-- Round-trip time. -/
  rtt : UInt32
  deriving DecidableEq, Repr

/-- What there is to count and to measure. -/
inductive Reading
  /-- The slot is taken for a new connection. -/
  | started
  /-- A packet is reported as stalled. -/
  | stalled (seq : UInt32)
  /-- A packet comes from the future. -/
  | desync
  /-- A round trip is measured. -/
  | roundTrip (ms : UInt32)
  deriving DecidableEq, Repr

namespace Reading

/-- Whether it counts as a loss. -/
def isStalled : Reading → Bool
  | stalled _ => true
  | _ => false

/-- The measured time, of a round trip. -/
def ms : Reading → Option UInt32
  | roundTrip ms => some ms
  | _ => none

/-- What a log says since the slot was last taken. -/
def sinceStart (l : List Reading) : List Reading :=
  (l.reverse.takeWhile (· ≠ .started)).reverse

theorem sinceStart_started (l : List Reading) : sinceStart (l ++ [.started]) = [] := by
  simp [sinceStart]

theorem sinceStart_append {r : Reading} (l : List Reading) (h : r ≠ .started) :
    sinceStart (l ++ [r]) = sinceStart l ++ [r] := by
  simp [sinceStart, h]

end Reading

namespace Meter

variable (m : Meter)

/-- What a reading makes of the meter. -/
def note : Reading → Meter
  | .started => { m with loss := 0, rtt := 0 }
  | .stalled _ => { m with loss := m.loss + 1 }
  | .desync => { m with desync := m.desync + 1 }
  | .roundTrip ms => { m with rtt := (m.rtt + ms) / 2 }

theorem foldl_note_stalled (seqs : List UInt32) :
    (seqs.map Reading.stalled).foldl note m =
      { m with loss := m.loss + UInt32.ofNat seqs.length } := by
  induction seqs generalizing m with
  | nil => simp
  | cons seq seqs ih =>
    rw [List.map_cons, List.foldl_cons, ih, note, List.length_cons, Nat.add_comm, UInt32.ofNat_add]
    simp only [UInt32.add_assoc]
    rfl

/-- What a meter shows that was at zero before a log. -/
def ofLog (l : List Reading) : Meter where
  loss := UInt32.ofNat ((Reading.sinceStart l).countP Reading.isStalled)
  desync := UInt32.ofNat (l.count .desync)
  rtt := ((Reading.sinceStart l).filterMap Reading.ms).foldl (fun rtt ms ↦ (rtt + ms) / 2) 0

/-- **A meter shows what its log says.** -/
theorem foldl_note (l : List Reading) : l.foldl note ⟨0, 0, 0⟩ = ofLog l := by
  induction l using List.reverseRecOn with
  | nil => rfl
  | append_singleton l r ih =>
    rw [List.foldl_append, ih, List.foldl_cons, List.foldl_nil]
    cases r with
    | started => simp [note, ofLog, Reading.sinceStart_started]
    | stalled | desync | roundTrip =>
      simp [note, ofLog, Reading.sinceStart_append, Reading.isStalled, Reading.ms,
        List.filterMap_cons]

end Meter

/-- The meter of a slot. -/
def Glbconn.meter (con : Glbconn cfg) : Meter := ⟨con.lossCount, con.desyncCount, con.rtt⟩

/-- What an event says about the meter of slot `i`. -/
def Glbevent.reading {n : ℕ} (i : Fin n) : Glbevent n → Option Reading
  | stalled j seq => if j = i then some (.stalled seq) else none
  | _ => none

/-- A DATA packet for a reliable channel of slot `i`, from the address the slot knows, with a number
the channel is not at yet. -/
def Glbpkg.IsFuture (p : Glbpkg) (ctx : Glbctx cfg) (from_ : Glbaddr)
    (i : Fin cfg.connectionCount) : Prop :=
  p.header.ctrlFlags = ctrlFlagData ∧ p.Finds ctx i ∧ (ctx.connections i).state = .established ∧
    (ctx.connections i).peerAddr = from_ ∧ ∃ chs ∈ (ctx.connections i).channels,
      ∃ c : Fin cfg.channelCount, p.header.channelId.toNat = c.val ∧
        (chs.chan c).reliable = true ∧ (chs.chan c).ack < p.header.seq

instance (p : Glbpkg) (ctx : Glbctx cfg) (from_ : Glbaddr) (i : Fin cfg.connectionCount) :
    Decidable (p.IsFuture ctx from_ i) := by
  unfold Glbpkg.IsFuture
  infer_instance

/-- The round trip a PONG measures. -/
def Glbpkg.roundTrip (p : Glbpkg) (env : Env) : UInt32 :=
  (UInt64.ofNat (glbtimeStart (env.clock 0) 0) -
    ((p.header.seq.toUInt64 <<< 32) ||| p.header.ack.toUInt64)).toUInt32

/-- What an operation notes on the meter of slot `i`, besides what its events say. -/
def Op.readings (ctx : Glbctx cfg) (i : Fin cfg.connectionCount) : Op cfg → List Reading
  | .connect _ => if i.val = 0 then [.started] else []
  | .packet pkg from_ env =>
    if pkg.IsSyn then
      if ctx.synSlot from_ = some i ∧ (ctx.connections i).state ≠ .established then [.started]
      else []
    else if pkg.header.ctrlFlags = ctrlFlagPong ∧ pkg.Finds ctx i then
      [.roundTrip (pkg.roundTrip env)]
    else if pkg.IsFuture ctx from_ i then [.desync]
    else []
  | .close _ _ | .send _ _ | .pollevent | .popdata _ | .readError | .timers _ _ => []

/-- The numbers an operation reports as stalled on slot `i`. -/
def Op.stalls (ctx : Glbctx cfg) (i : Fin cfg.connectionCount) : Op cfg → List UInt32
  | .timers j env =>
    if j = i ∧ (ctx.connections i).state = .established then
      (ctx.connections i).channels.elim [] fun chs ↦ chs.stalls env (List.finRange _)
    else []
  | _ => []

namespace Glbctx

variable {ctx ctx' : Glbctx cfg} {op : Op cfg} {i j : Fin cfg.connectionCount} {pkg : Glbpkg}
  {from_ : Glbaddr} {env : Env} {rs : List Reading}

/-- Between two states the meter of slot `i` goes on by `rs`, and then the numbers `seqs` are
offered as stalled. -/
def Notes (i : Fin cfg.connectionCount) (rs : List Reading) (seqs : List UInt32)
    (ctx ctx' : Glbctx cfg) : Prop :=
  ∃ evs, ctx'.offered = ctx.offered ++ evs ∧
    evs.filterMap (Glbevent.reading i) = seqs.map Reading.stalled ∧ (ctx'.connections i).meter =
      (rs ++ seqs.map Reading.stalled).foldl Meter.note (ctx.connections i).meter

theorem Notes.of_eq (hoffered : ctx'.offered = ctx.offered)
    (hmeter : (ctx'.connections i).meter = (ctx.connections i).meter) : Notes i [] [] ctx ctx' :=
  ⟨[], by rw [hoffered, List.append_nil], rfl, hmeter⟩

theorem Notes.trans {ctx'' : Glbctx cfg} {seqs seqs' : List UInt32} (h : Notes i [] seqs ctx ctx')
    (h' : Notes i [] seqs' ctx' ctx'') : Notes i [] (seqs ++ seqs') ctx ctx'' := by
  obtain ⟨evs, hoffered, hevs, hmeter⟩ := h
  obtain ⟨evs', hoffered', hevs', hmeter'⟩ := h'
  refine ⟨evs ++ evs', by rw [hoffered', hoffered, List.append_assoc], ?_, ?_⟩
  · rw [List.filterMap_append, hevs, hevs', List.map_append]
  · rw [List.nil_append] at hmeter hmeter' ⊢
    rw [hmeter', hmeter, List.map_append, List.foldl_append]

/-- A change of one slot that announces nothing about the meter. -/
theorem Becomes.notes {con' : Glbconn cfg} {a' : Allocator}
    {evs : List (Glbevent cfg.connectionCount)} (h : ctx.Becomes ctx' j con' a' evs)
    (hevs : evs.filterMap (Glbevent.reading i) = [])
    (hmeter : con'.meter = (ctx.connections j).meter) : Notes i [] [] ctx ctx' := by
  refine ⟨evs, h.offered, hevs, ?_⟩
  by_cases hij : i = j
  · rw [hij, h.self]
    exact hmeter
  · rw [h.of_ne i hij]
    rfl

/-! ### What operations note -/

/-- Only SYN, PONG and DATA packets note anything. -/
theorem readings_eq_nil (hsyn : ¬ pkg.IsSyn) (hpong : pkg.header.ctrlFlags ≠ ctrlFlagPong)
    (hdata : pkg.header.ctrlFlags ≠ ctrlFlagData) :
    (Op.packet pkg from_ env : Op cfg).readings ctx i = [] := by
  rw [Op.readings, if_neg hsyn, if_neg fun h ↦ hpong h.1, if_neg fun h ↦ hdata h.1]

theorem readings_of_syn (hsyn : pkg.IsSyn) :
    (Op.packet pkg from_ env : Op cfg).readings ctx i =
      if ctx.synSlot from_ = some i ∧ (ctx.connections i).state ≠ .established then [.started]
      else [] := if_pos hsyn

/-- The meter after a slot was taken for a SYN. -/
theorem notes_openSyn {ctx₁ : Glbctx cfg} (hoffered : ctx₁.offered = ctx.offered)
    (hmeter : ∀ k, (ctx₁.connections k).meter = (ctx.connections k).meter)
    (hstate : (ctx₁.connections j).state = (ctx.connections j).state) :
    Notes i (if j = i ∧ (ctx.connections i).state ≠ .established then [.started] else []) [] ctx
      (ctx₁.openSyn j from_ env) := by
  by_cases hest : (ctx.connections j).state = .established
  · have hnone : ¬ (j = i ∧ (ctx.connections i).state ≠ .established) := by
      rintro ⟨rfl, hne⟩
      exact hne hest
    rw [if_neg hnone, openSyn, if_pos (hstate.trans hest)]
    exact .of_eq hoffered (hmeter i)
  rw [openSyn_of_ne (hstate.trans_ne hest)]
  refine ⟨[], by rw [offered_setCon, hoffered, List.append_nil], rfl, ?_⟩
  by_cases hij : j = i
  · subst hij
    have hdesync : (ctx₁.connections j).desyncCount = (ctx.connections j).desyncCount :=
      congrArg Meter.desync (hmeter j)
    rw [if_pos ⟨rfl, hest⟩, connections_setCon_self]
    exact congrArg (Meter.mk 0 · 0) hdesync
  · rw [if_neg fun h ↦ hij h.1, connections_setCon_of_ne _ _ fun h ↦ hij h.symm]
    exact hmeter i

theorem notes_onSyn (hsyn : pkg.IsSyn) :
    Notes i ((Op.packet pkg from_ env : Op cfg).readings ctx i) [] ctx
      (ctx.onSyn pkg from_ env) := by
  rw [readings_of_syn hsyn]
  rcases haddr : ctx.findConnByAddr from_ with - | j
  case some =>
    have hslot : ctx.synSlot from_ = some j := by rw [synSlot, haddr]
    rw [hslot, onSyn, haddr]
    simp only [Option.some.injEq]
    exact notes_openSyn rfl (fun _ ↦ rfl) rfl
  rcases hempty : ctx.findEmptyConn with - | ⟨j, ctx₁⟩
  · have hslot : ctx.synSlot from_ = none := by rw [synSlot, haddr, hempty]; rfl
    rw [hslot, if_neg fun h ↦ Option.some_ne_none _ h.1.symm]
    simp only [onSyn, haddr, hempty]
    exact .of_eq (offered_glbioSend _ _ _ _) (by rw [connections_glbioSend])
  · have hslot : ctx.synSlot from_ = some j := by rw [synSlot, haddr, hempty]; rfl
    obtain ⟨-, rfl⟩ := findEmptyConn_eq_some hempty
    rw [hslot]
    simp only [onSyn, haddr, hempty, Option.some.injEq]
    refine notes_openSyn ?_ (fun k ↦ ?_) ?_
    · simp [generateSeq, generateClientId_eq]
    · by_cases hk : k = j
      · subst hk
        simp [generateSeq, generateClientId_eq, Glbconn.meter]
      · simp [generateSeq, generateClientId_eq, connections_setCon_of_ne, hk]
    · simp [generateSeq, generateClientId_eq]

theorem notes_onAck (h : ctx.onAck pkg env = some ctx') : Notes i [] [] ctx ctx' := by
  rcases hfind : ctx.findConn pkg.header.clientGen pkg.header.clientId with - | j
  · simp only [onAck, hfind] at h
    cases h
    exact .of_eq rfl rfl
  by_cases hstate : (ctx.connections j).state = .synRcvd
  · obtain ⟨chs, a', -, hb⟩ := onAck_of_synRcvd hfind hstate h
    exact hb.notes rfl rfl
  · simp only [onAck, hfind, ne_eq, hstate, not_false_eq_true, if_true] at h
    cases h
    exact .of_eq rfl rfl

theorem notes_onSynAck (h : ctx.onSynAck pkg env = some ctx') : Notes i [] [] ctx ctx' := by
  by_cases hpos : 0 < cfg.connectionCount
  case neg => rw [onSynAck, dif_neg hpos] at h; cases h
  by_cases hest : (ctx.connections ⟨0, hpos⟩).state = .established
  · exact (onSynAck_of_established hest h).notes rfl rfl
  · obtain ⟨chs, a', -, hb⟩ := onSynAck_of_ne hest h
    exact hb.notes rfl rfl

theorem notes_onFin : Notes i [] [] ctx (ctx.onFin pkg env) := by
  rcases hfind : ctx.findConn pkg.header.clientGen pkg.header.clientId with - | j
  · simp only [onFin, hfind]
    exact .of_eq rfl rfl
  by_cases hcloses : env.sendOk 0 = true ∧ (ctx.connections j).state ≠ .closed
  · exact (becomes_onFin hfind hcloses.1 hcloses.2).notes rfl rfl
  · simp only [onFin, hfind]
    cases hok : env.sendOk 0 with
    | false => exact .of_eq rfl rfl
    | true =>
      rw [glbioSend_of_ok]
      dsimp only
      rw [if_neg fun hne ↦ hcloses ⟨hok, hne⟩]
      exact .of_eq rfl rfl

theorem notes_onFinAck : Notes i [] [] ctx (ctx.onFinAck pkg) := by
  rcases hfind : ctx.findConn pkg.header.clientGen pkg.header.clientId with - | j
  · simp only [onFinAck, hfind]
    exact .of_eq rfl rfl
  by_cases hstate : (ctx.connections j).state = .closed
  · simp only [onFinAck, hfind, hstate, ne_eq, not_true_eq_false, if_false]
    exact .of_eq rfl rfl
  · exact (becomes_onFinAck hfind hstate).notes rfl rfl

theorem notes_onRst : Notes i [] [] ctx (ctx.onRst pkg) := by
  rcases hfind : ctx.findConn pkg.header.clientGen pkg.header.clientId with - | j
  · rw [onRst, hfind]
    exact .of_eq rfl rfl
  by_cases hstate : (ctx.connections j).state = .established
  · rw [onRst_of_established hfind hstate]
    exact (becomes_closeCon _ _ _).notes rfl rfl
  · exact (becomes_onRst_of_ne hfind hstate).notes rfl rfl

/-- A packet from the future is noted, every other DATA packet is not. -/
theorem notes_onData (hflags : pkg.header.ctrlFlags = ctrlFlagData)
    (h : ctx.onData pkg from_ env = some ctx') :
    Notes i (if pkg.IsFuture ctx from_ i then [.desync] else []) [] ctx ctx' := by
  -- only in one case is the packet one from the future
  have hnot : (∀ c chs, pkg.Reaches ctx i c chs → (chs.chan c).reliable = true →
      (chs.chan c).ack < pkg.header.seq → (ctx.connections i).peerAddr ≠ from_) →
      ¬ pkg.IsFuture ctx from_ i := by
    rintro hnot ⟨-, hfind, hest, haddr, chs, hchs, c, hc, hrel, hlt⟩
    exact hnot c chs ⟨hfind, hest, hchs, hc⟩ hrel hlt haddr
  cases onData_effect h with
  | ignored heq hignored =>
    subst heq
    rw [if_neg (hnot fun c chs hreach _ _ ↦ (hignored i c chs hreach).1)]
    exact .of_eq rfl rfl
  | old hreach hrel hlt haddr heq =>
    subst heq
    rw [if_neg (hnot fun c chs hreach' _ hlt' ↦ ?_)]
    · exact .of_eq (offered_glbioSend _ _ _ _) (by rw [connections_glbioSend])
    · obtain ⟨rfl, rfl, rfl⟩ := hreach.unique hreach'
      exact absurd hlt' (UInt32.not_lt.2 (UInt32.le_of_lt hlt))
  | @future j c chs hreach hrel hlt haddr heq =>
    subst heq
    refine ⟨[], (List.append_nil _).symm, rfl, ?_⟩
    by_cases hij : i = j
    · subst hij
      rw [if_pos ⟨hflags, hreach.finds, hreach.established, haddr, chs, hreach.channels, c,
        hreach.channel, hrel, hlt⟩, connections_setCon_self]
      rfl
    · rw [if_neg fun hfuture ↦ hij (Option.some_inj.1 (hfuture.2.1.symm.trans hreach.finds)),
        connections_setCon_of_ne _ _ hij]
      rfl
  | accepted hreach hseq haddr hb =>
    rw [if_neg (hnot fun c chs hreach' hrel hlt ↦ ?_)]
    · refine hb.notes ?_ rfl
      split <;> rfl
    · obtain ⟨rfl, rfl, rfl⟩ := hreach.unique hreach'
      rw [hseq hrel] at hlt
      exact absurd hlt (UInt32.lt_irrefl _)

/-- A PONG measures a round trip, whatever the state of the slot. -/
theorem notes_onPong :
    Notes i (if pkg.Finds ctx i then [.roundTrip (pkg.roundTrip env)] else []) [] ctx
      (ctx.onPong pkg env) := by
  rcases hfind : ctx.findConn pkg.header.clientGen pkg.header.clientId with - | j
  · have hnot : ¬ pkg.Finds ctx i := fun h ↦
      Option.some_ne_none _ ((h : ctx.findConn _ _ = _).symm.trans hfind)
    rw [if_neg hnot]
    simp only [onPong, hfind]
    exact .of_eq rfl rfl
  refine ⟨[], by simp [onPong, hfind], rfl, ?_⟩
  by_cases hij : i = j
  · subst hij
    have hfind' : pkg.Finds ctx i := hfind
    rw [if_pos hfind', connections_onPong hfind]
    rfl
  · have hnot : ¬ pkg.Finds ctx i := fun h ↦ hij (Option.some_inj.1 (h.symm.trans hfind))
    rw [if_neg hnot]
    simp only [onPong, hfind]
    rw [connections_setCon_of_ne _ _ hij]
    rfl

theorem notes_setChan (c : Fin cfg.channelCount) (chan : Glbchannel) :
    Notes i [] [] ctx (ctx.setChan j c chan) := (becomes_setCon _ _ _).notes rfl rfl

/-- What a packet notes. -/
theorem notes_handlePacket (h : ctx.handlePacket pkg from_ env = some ctx') :
    Notes i ((Op.packet pkg from_ env : Op cfg).readings ctx i) [] ctx ctx' := by
  have hnone : pkg.header.ctrlFlags ∉ [ctrlFlagSyn, ctrlFlagPong, ctrlFlagData] →
      (Op.packet pkg from_ env : Op cfg).readings ctx i = [] := by
    intro hne
    simp only [List.mem_cons, List.not_mem_nil, or_false, not_or] at hne
    exact readings_eq_nil (fun hsyn ↦ hne.1 hsyn.1) hne.2.1 hne.2.2
  cases handlePacket_cases h with
  | syn hsyn => exact notes_onSyn hsyn
  | ack hflags h => rw [hnone (by rw [hflags]; decide)]; exact notes_onAck h
  | synAck hflags h => rw [hnone (by rw [hflags]; decide)]; exact notes_onSynAck h
  | fin hflags => rw [hnone (by rw [hflags]; decide)]; exact notes_onFin
  | finAck hflags => rw [hnone (by rw [hflags]; decide)]; exact notes_onFinAck
  | data hflags h =>
    have hreadings : (Op.packet pkg from_ env : Op cfg).readings ctx i =
        if pkg.IsFuture ctx from_ i then [.desync] else [] := by
      rw [Op.readings, if_neg fun hsyn ↦ absurd (hflags.symm.trans hsyn.1) (by decide),
        if_neg fun hpong ↦ absurd (hflags.symm.trans hpong.1) (by decide)]
    rw [hreadings]
    exact notes_onData hflags h
  | dataAck hflags h =>
    rw [hnone (by rw [hflags]; decide)]
    cases onDataAck_effect h with
    | ignored heq => rw [heq]; exact .of_eq rfl rfl
    | popped _ _ _ heq => rw [heq]; exact notes_setChan _ _
  | ping hflags =>
    rw [hnone (by rw [hflags]; decide)]
    exact .of_eq (offered_glbioSend _ _ _ _) (by rw [onPing, connections_glbioSend])
  | pong hflags =>
    have hreadings : (Op.packet pkg from_ env : Op cfg).readings ctx i =
        if pkg.Finds ctx i then [.roundTrip (pkg.roundTrip env)] else [] := by
      rw [Op.readings, if_neg fun hsyn ↦ absurd (hflags.symm.trans hsyn.1) (by decide)]
      simp only [hflags, true_and]
      split
      · rfl
      · exact if_neg fun hdata ↦ absurd (hflags.symm.trans hdata.1) (by decide)
    rw [hreadings]
    exact notes_onPong
  | rst hflags => rw [hnone (by rw [hflags]; decide)]; exact notes_onRst
  | ignored hsyn hflags =>
    simp only [handledFlags, List.mem_cons, List.not_mem_nil, or_false, not_or] at hflags
    obtain ⟨-, -, -, -, hdata, -, -, hpong, -⟩ := hflags
    rw [readings_eq_nil hsyn hpong hdata]
    exact .of_eq rfl rfl

/-! ### The timers -/

/-- A pass over the channels of an established slot announces what it counts. -/
theorem Passes.notes {cs : List (Fin cfg.channelCount)} {chs : Glbchannels cfg.channelCount}
    (h : Passes j env cs chs ctx ctx') :
    Notes i [] (if j = i then chs.stalls env cs else []) ctx ctx' := by
  refine ⟨_, h.offered, ?_⟩
  by_cases hij : j = i
  · subst hij
    rw [if_pos rfl, List.nil_append, Meter.foldl_note_stalled, h.con]
    exact ⟨by simp [List.filterMap_map, Glbevent.reading, Function.comp_def], rfl⟩
  · rw [if_neg hij, h.of_ne i fun h ↦ hij h.symm]
    exact ⟨by simp [List.filterMap_map, Glbevent.reading, Function.comp_def, hij], rfl⟩

theorem notes_retrySend : Notes i [] [] ctx (ctx.retrySend j pkg env) :=
  ((becomes_glbioSend ctx j pkg (ctx.connections j).peerAddr (env.sendOk 0)).of_quiet
    (becomes_setCon _ _ _)).notes rfl (by rw [connections_glbioSend]; rfl)

theorem notes_keepaliveTimer : Notes i [] [] ctx (ctx.keepaliveTimer j env) := by
  have hother : i ≠ j → (ctx.keepaliveTimer j env).connections i = ctx.connections i := fun hij ↦
    (within_keepaliveTimer (P := (· = j)) rfl).of_not i hij
  have hmeter : ((ctx.keepaliveTimer j env).connections i).meter = (ctx.connections i).meter := by
    by_cases hij : i = j
    · subst hij
      rcases connections_keepaliveTimer ctx i env with ⟨t, n, hcon, -⟩ | ⟨hcon, -⟩ <;> rw [hcon] <;>
        rfl
    · rw [hother hij]
  rcases connections_keepaliveTimer ctx j env with ⟨-, -, -, hoffered⟩ | ⟨-, hoffered⟩
  · exact .of_eq hoffered hmeter
  · exact ⟨_, hoffered, rfl, hmeter⟩

/-- A pass of the timers of a slot notes what it announces. -/
theorem notes_handleTimers (h : ctx.handleTimers j env = some ctx') :
    Notes i [] ((Op.timers j env : Op cfg).stalls ctx i) ctx ctx' := by
  have hnone : (ctx.connections j).state ≠ .established →
      (Op.timers j env : Op cfg).stalls ctx i = [] := by
    intro hne
    refine if_neg ?_
    rintro ⟨rfl, hest⟩
    exact hne hest
  cases handleTimers_cases h with
  | idle hstate => rw [hnone hstate]; exact .of_eq rfl rfl
  | syn hstate | synAck hstate | fin hstate =>
    rw [hnone (by rw [hstate]; decide)]
    exact notes_retrySend
  | gaveUp hstate =>
    rw [hnone (by rw [hstate]; decide)]
    have hset : Notes i [] [] ctx (ctx.setCon j { ctx.connections j with state := .closed }) :=
      (becomes_setCon _ _ _).notes rfl rfl
    exact hset.trans ((becomes_pushEvent _ j _).notes rfl rfl)
  | dropped hstate =>
    rw [hnone (by rw [hstate]; decide)]
    exact (becomes_setCon _ _ _).notes rfl rfl
  | closed hstate =>
    rw [hnone (by rw [hstate]; decide)]
    exact (becomes_closeCon _ _ _).notes rfl rfl
  | established hest hchs =>
    have hpass := (passes_foldl_transmit env (List.nodup_finRange _) hchs).notes (i := i)
    rw [← List.append_nil ((Op.timers j env : Op cfg).stalls ctx i)]
    convert hpass.trans notes_keepaliveTimer using 2
    rw [Op.stalls]
    by_cases hij : j = i
    · subst hij
      rw [if_pos ⟨rfl, hest⟩, if_pos rfl, hchs]
      rfl
    · rw [if_neg fun h ↦ hij h.1, if_neg hij]

/-- `glb_connect` takes slot 0, also when the address cannot be parsed. -/
theorem notes_glbConnect {now : ℕ} {code : GLBErrorCode}
    (h : ctx.glbConnect now = some (code, ctx')) :
    Notes i ((Op.connect now : Op cfg).readings ctx i) [] ctx ctx' := by
  rw [glbConnect] at h
  split at h
  case isFalse => cases h
  next hpos =>
  have hmeter : ctx'.offered = ctx.offered ∧
      (ctx'.connections ⟨0, hpos⟩).meter = ⟨0, (ctx.connections ⟨0, hpos⟩).desyncCount, 0⟩ ∧
      ∀ k, k ≠ ⟨0, hpos⟩ → ctx'.connections k = ctx.connections k := by
    rcases haddr : cfg.inetAddr with - | addr <;> simp only [haddr] at h <;> cases h <;>
      exact ⟨by simp [generateSeq], by simp [generateSeq, Glbconn.meter],
        fun k hk ↦ by simp [generateSeq, connections_setCon_of_ne, hk]⟩
  obtain ⟨hoffered, hself, hne⟩ := hmeter
  refine ⟨[], by rw [hoffered, List.append_nil], rfl, ?_⟩
  by_cases hi : i.val = 0
  · obtain rfl : i = ⟨0, hpos⟩ := Fin.ext hi
    rw [hself]
    rfl
  · have hreadings : (Op.connect now : Op cfg).readings ctx i = [] := if_neg hi
    rw [hreadings, hne i fun h ↦ hi (congrArg Fin.val h)]
    rfl

/-- **What a step notes** on the meter of a slot. -/
theorem meter_step (h : Step ctx op ctx') (i : Fin cfg.connectionCount) :
    Notes i (op.readings ctx i) (op.stalls ctx i) ctx ctx' := by
  cases op with
  | connect now =>
    obtain ⟨⟨code, ctx₁⟩, hconnect, rfl⟩ := Option.map_eq_some_iff.1 h
    exact notes_glbConnect hconnect
  | close j now =>
    cases h
    rw [glbClose]
    split
    · exact .of_eq rfl rfl
    · exact (becomes_setCon _ _ _).notes rfl rfl
  | send info now =>
    obtain ⟨⟨code, ctx₁⟩, hsend, rfl⟩ := Option.map_eq_some_iff.1 h
    cases glbSend_effect hsend with
    | refused => exact .of_eq rfl rfl
    | queued => exact notes_setChan _ _
  | pollevent =>
    cases h
    rw [glbPollevent]
    split <;> exact .of_eq rfl rfl
  | popdata info =>
    obtain ⟨⟨code, data, ctx₁⟩, hpop, rfl⟩ := Option.map_eq_some_iff.1 h
    cases glbPopdata_effect hpop with
    | failed => exact .of_eq rfl rfl
    | popped => exact notes_setChan _ _
  | readError => cases h; exact .of_eq rfl rfl
  | packet pkg from_ env => exact notes_handlePacket h
  | timers j env => exact notes_handleTimers h

/-! ### Runs -/

/-- What was noted on the meter of slot `i` during a run, oldest first. -/
def log (i : Fin cfg.connectionCount) (ts : List (Transition cfg)) : List Reading :=
  ts.flatMap fun x ↦ x.2.1.readings x.1 i ++ (newEvents x).filterMap (Glbevent.reading i)

/-- The meter of a slot is what its log says. -/
theorem meter_of_run {ts : List (Transition cfg)} (hrun : Run ts ctx)
    (i : Fin cfg.connectionCount) :
    (ctx.connections i).meter = (log i ts).foldl Meter.note ⟨0, 0, 0⟩ := by
  refine Execution.invariant (I := fun ts ctx ↦
    (ctx.connections i).meter = (log i ts).foldl Meter.note ⟨0, 0, 0⟩) (C := fun _ ↦ True)
    (fun ts t op u hI hstep _ ↦ ?_) hrun rfl fun _ _ ↦ trivial
  obtain ⟨evs, hoffered, hevs, hmeter⟩ := meter_step hstep i
  have hlog : log i (ts ++ [(t, op, u)]) =
      log i ts ++ (op.readings t i ++ (op.stalls t i).map .stalled) := by
    simp [log, newEvents_of_offered hoffered, hevs]
  rw [hmeter, hI, hlog, ← List.foldl_append]

/-- **What `glb_getconinfo` reports.** In every run and for every slot, whatever packets arrive:
`loss` is the number of STALLED events offered for the slot since it was last taken for a new
connection, `desync` the number of packets from the future ever since the context was created, both
modulo `2 ^ 32`, and `rtt` what the round trips measured since the slot was last taken average
to. -/
theorem coninfo_exact {ts : List (Transition cfg)} (hrun : Run ts ctx)
    (i : Fin cfg.connectionCount) :
    ∃ info, ctx.glbGetconinfo (some i) true = (.success, some info) ∧
      info.state = (ctx.connections i).state ∧
      info.loss = UInt32.ofNat ((Reading.sinceStart (log i ts)).countP Reading.isStalled) ∧
      info.desync = UInt32.ofNat ((log i ts).count .desync) ∧
      info.rtt = ((Reading.sinceStart (log i ts)).filterMap Reading.ms).foldl
        (fun rtt ms ↦ (rtt + ms) / 2) 0 := by
  have hmeter := (meter_of_run hrun i).trans (Meter.foldl_note _)
  exact ⟨_, rfl, rfl, congrArg Meter.loss hmeter, congrArg Meter.desync hmeter,
    congrArg Meter.rtt hmeter⟩

/-- A client connects, a packet of its overtakes another one, and a message to it is transmitted six
times in vain. -/
def overtakenAndStalled : List (Op Glbcfg.sampleServer) :=
  [.packet (glbpkgInit ⟨0xFFFF, 0⟩ ctrlFlagSyn 0) .samplePeer (Env.at 1),
    .packet (glbpkgInit ⟨1, 0⟩ ctrlFlagAck 0) .samplePeer (Env.at 2),
    .packet (Glbpkg.sampleData ⟨1, 0⟩ 1) .samplePeer (Env.at 3),
    .send ⟨some [7], some ⟨0, Nat.two_pos⟩, 0⟩ 4] ++
  (List.range 6).map fun k ↦ .timers ⟨0, Nat.two_pos⟩ (Env.at (1000 * (k + 1)))

/-- One loss, one packet from the future, no round trip. -/
theorem coninfo_exact_sample : ∃ ts ctx, @Run Glbcfg.sampleServer ts ctx ∧
    @log Glbcfg.sampleServer ⟨0, Nat.two_pos⟩ ts = [.started, .desync, .stalled 0xA5A5A5A5] ∧
    ∃ info, ctx.glbGetconinfo (some ⟨0, Nat.two_pos⟩) true = (.success, some info) ∧
      info.loss = 1 ∧ info.desync = 1 ∧ info.rtt = 0 := by
  have hlog : (Execution.perform step overtakenAndStalled (init _)).map (fun r ↦
      @log Glbcfg.sampleServer ⟨0, Nat.two_pos⟩ r.1) =
      some [.started, .desync, .stalled 0xA5A5A5A5] := by decide +kernel
  obtain ⟨r, hr, hlog⟩ := Option.map_eq_some_iff.1 hlog
  obtain ⟨info, hinfo, -, hloss, hdesync, hrtt⟩ :=
    coninfo_exact (run_of_perform hr) ⟨0, Nat.two_pos⟩
  rw [hlog] at hloss hdesync hrtt
  exact ⟨r.1, r.2, run_of_perform hr, hlog, info, hinfo, hloss, hdesync, hrtt⟩

end Glbctx

end Gilberta
