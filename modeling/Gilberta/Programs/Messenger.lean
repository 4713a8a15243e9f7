import Gilberta.Foundations.SlotTable
import Gilberta.Traffic.Polling

/-!
# The messenger server

`LaunchServer` of `msg.c` keeps a table of the connections it was told about, entered at a CONNECT
event and removed at a DISCONNECT event, and sends every message it receives to all of them. The
library promises nothing about its events as such, and indeed an event that is lost, or a CONNECT
for a connection that is in the table already, would corrupt the table for good.

It does not come to that (`table_exact`). Over any number of rounds of the program the table holds
each connection at most once, a message goes to those that are connected according to the events
polled so far, each once, and when the program ticks again these are exactly the established slots.
This takes three facts: no event is lost (`NothingLost`), CONNECT and DISCONNECT take turns on a
slot as it becomes established and ceases to be (`Tracks`), and a table with an entry for every slot
does not overflow (`SlotTable`). -/

namespace Gilberta

variable {cfg : Glbcfg}

/-! ### The program -/

/-- The size of the table `connections`. -/
def messengerSlots : ℕ := 16

/-- `sizeof(msgdata_t)`: 64 bytes of name and 512 bytes of text. -/
def msgdataSize : ℕ := 576

/-- The `msgdata_t` after `glb_popdata`, in memory that was zero: on success the two strings are
terminated. -/
def msgdata (code : GLBErrorCode) (data : List UInt8) : List UInt8 :=
  let message := data ++ List.replicate (msgdataSize - data.length) 0
  if code = .success then (message.set 63 0).set 575 0 else message

/-- The server. -/
structure Messenger (cfg : Glbcfg) where
  /-- The context. -/
  ctx : Glbctx cfg
  /-- The table of connections. -/
  connections : SlotTable messengerSlots (Fin cfg.connectionCount)
  /-- History variable: the calls it has made. -/
  calls : List (Glbctx.Calling cfg)

/-- What the program does next: tick, or go once through the polling loop, with the clock at each
`glb_send`. -/
inductive MessengerMove (cfg : Glbcfg)
  | tick (reads : List (ReadResult × Env)) (envs : Fin cfg.connectionCount → Env)
  | poll (clock : Fin messengerSlots → ℕ)

namespace Messenger

/-- The start of `LaunchServer`. -/
def start (cfg : Glbcfg) : Messenger cfg := ⟨Glbctx.init cfg, .empty, []⟩

/-- The calls that send a message to all connections of the table. -/
def broadcast (m : Messenger cfg) (message : List UInt8) (clock : Fin messengerSlots → ℕ) :
    List (Call cfg) :=
  (List.finRange messengerSlots).filterMap fun k ↦
    (m.connections k).map fun i ↦ .send ⟨some message, some i, 0⟩ (clock k)

/-- The calls of a turn of the polling loop. -/
def pollCalls (m : Messenger cfg) (clock : Fin messengerSlots → ℕ) : List (Call cfg) :=
  match m.ctx.glbPollevent with
  | (.success, some (.receive i channel), ctx) =>
    let recvInfo : Glbrecvinfo cfg.connectionCount := ⟨true, some i, msgdataSize, channel⟩
    match ctx.glbPopdata recvInfo with
    | some (code, data, _) =>
      [.pollevent, .popdata recvInfo] ++ m.broadcast (msgdata code data) clock
    | none => [.pollevent, .popdata recvInfo]
  | _ => [.pollevent]

/-- The table after an event. -/
def tableAfter (table : SlotTable messengerSlots (Fin cfg.connectionCount)) :
    Glbevent cfg.connectionCount → SlotTable messengerSlots (Fin cfg.connectionCount)
  | .connect i => table.insert i
  | .disconnect i _ => table.remove i
  | .receive _ _ | .migration _ | .stalled _ _ => table

/-- The effect of a move. The program ticks when the polling loop has ended, that is when no event
is left. -/
def next (m : Messenger cfg) : MessengerMove cfg → Option (Messenger cfg)
  | .tick reads envs =>
    if m.ctx.eventqueue.elems = [] then
      (m.ctx.call (.tick reads envs)).map fun ctx ↦
        { m with ctx := ctx, calls := m.calls ++ [(m.ctx, .tick reads envs, ctx)] }
    else none
  | .poll clock =>
    (Execution.perform Glbctx.call (m.pollCalls clock) m.ctx).map fun r ↦
      { ctx := r.2
        connections := (m.ctx.glbPollevent.2.1.map (tableAfter m.connections)).getD m.connections
        calls := m.calls ++ r.1 }

/-- A run of the program. -/
abbrev Run (ts : List (Messenger cfg × MessengerMove cfg × Messenger cfg)) (m : Messenger cfg) :
    Prop := Execution (fun m move m' ↦ m.next move = some m') (start cfg) ts m

end Messenger

/-- What arrives is no SYN|ACK. -/
def ReadResult.NoSynAck : ReadResult → Prop
  | .packet pkg _ => pkg.header.ctrlFlags ≠ ctrlFlagSynAck
  | .empty | .error | .invalid => True

instance : (r : ReadResult) → Decidable r.NoSynAck
  | .packet _ _ => inferInstanceAs (Decidable (_ ≠ _))
  | .empty | .error | .invalid => inferInstanceAs (Decidable True)

/-- No SYN|ACK arrives. -/
def MessengerMove.NoSynAck : MessengerMove cfg → Prop
  | .tick reads _ => ∀ r ∈ reads, r.1.NoSynAck
  | .poll _ => True

instance : (move : MessengerMove cfg) → Decidable move.NoSynAck
  | .tick reads _ => inferInstanceAs (Decidable (∀ r ∈ reads, r.1.NoSynAck))
  | .poll _ => inferInstanceAs (Decidable True)

/-! ### What events say -/

/-- The connections one knows of after an event. -/
def Glbevent.tell {n : ℕ} (known : Fin n → Bool) : Glbevent n → Fin n → Bool
  | .connect i => Function.update known i true
  | .disconnect i _ => Function.update known i false
  | .receive _ _ | .migration _ | .stalled _ _ => known

/-- Whether the last event about the beginning or the end of connection `i` is a CONNECT. -/
def told {n : ℕ} (evs : List (Glbevent n)) : Fin n → Bool := evs.foldl Glbevent.tell fun _ ↦ false

/-- Every CONNECT in a list of events is for a connection one does not know of. -/
def Alternating {n : ℕ} (evs : List (Glbevent n)) : Prop :=
  ∀ before i after, evs = before ++ .connect i :: after → told before i = false

section Events

variable {n : ℕ} {evs evs' : List (Glbevent n)}

theorem told_append (evs evs' : List (Glbevent n)) :
    told (evs ++ evs') = evs'.foldl Glbevent.tell (told evs) := List.foldl_append

theorem Alternating.of_append (h : Alternating (evs ++ evs')) : Alternating evs := by
  intro before i after heq
  exact h before i (after ++ evs') (by rw [heq, List.append_assoc, List.cons_append])

theorem foldl_tell_of_traffic {known : Fin n → Bool} (h : ∀ ev ∈ evs, ev.isTraffic = true) :
    evs.foldl Glbevent.tell known = known := by
  induction evs with
  | nil => rfl
  | cons ev evs ih =>
    obtain ⟨hev, hevs⟩ := List.forall_mem_cons.1 h
    have hsame : Glbevent.tell known ev = known := by
      cases ev with
      | connect | disconnect => cases hev
      | receive | migration | stalled => rfl
    rw [List.foldl_cons, hsame, ih hevs]

/-- Appending one event. -/
theorem Alternating.snoc {ev : Glbevent n} (h : Alternating evs)
    (hev : ∀ i, ev = .connect i → told evs i = false) : Alternating (evs ++ [ev]) := by
  intro before i after heq
  rcases List.eq_nil_or_concat after with rfl | ⟨after, ev', rfl⟩
  · obtain ⟨rfl, hlast⟩ := List.append_inj' heq rfl
    exact hev i (List.singleton_inj.1 hlast)
  · rw [List.concat_eq_append, ← List.cons_append, ← List.append_assoc] at heq
    exact h before i after (List.append_inj' heq rfl).1

/-- Appending events about traffic. -/
theorem Alternating.append_traffic (h : Alternating evs)
    (htraffic : ∀ ev ∈ evs', ev.isTraffic = true) : Alternating (evs ++ evs') := by
  induction evs' using List.reverseRecOn with
  | nil => rwa [List.append_nil]
  | append_singleton evs' ev ih =>
    rw [← List.append_assoc]
    refine (ih fun ev hev ↦ htraffic ev (List.mem_append_left _ hev)).snoc fun i hi ↦ ?_
    have htraffic := htraffic ev (List.mem_append_right _ (List.mem_singleton_self ev))
    rw [hi] at htraffic
    cases htraffic

end Events

/-! ### CONNECT and DISCONNECT take turns -/

/-- The operations a server makes that only polls, pops and sends, as long as it gets no SYN|ACK. -/
def Op.Serves : Op cfg → Prop
  | .connect _ | .close _ _ => False
  | .packet pkg _ _ => pkg.header.ctrlFlags ≠ ctrlFlagSynAck
  | .send _ _ | .pollevent | .popdata _ | .readError | .timers _ _ => True

/-- The calls such a server makes. -/
def Call.Serves : Call cfg → Prop
  | .connect _ | .close _ _ => False
  | .tick reads _ => ∀ r ∈ reads, r.1.NoSynAck
  | .send _ _ | .pollevent | .popdata _ => True

namespace Glbctx

variable {ctx ctx' : Glbctx cfg} {op : Op cfg} {ts : List (Calling cfg)} {c : Call cfg}

/-- The events so far make sense, and according to them just the established slots are connected. -/
structure Tracks (ctx : Glbctx cfg) : Prop where
  /-- CONNECT is announced only for a slot that is not known to be connected. -/
  alternating : Alternating ctx.offered
  /-- The events tell which slots are established. -/
  told : ∀ i, told ctx.offered i = decide ((ctx.connections i).state = .established)

theorem tracks_init : Tracks (init cfg) where
  alternating := by intro before i after h; simp [init] at h
  told _ := rfl

/-- Announcing the beginning or the end of one slot. -/
theorem Tracks.of_becomes {i : Fin cfg.connectionCount} {con' : Glbconn cfg} {a' : Allocator}
    {evs : List (Glbevent cfg.connectionCount)} {ev : Glbevent cfg.connectionCount}
    (hI : Tracks ctx) (hb : ctx.Becomes ctx' i con' a' (evs ++ [ev]))
    (htraffic : ∀ ev ∈ evs, ev.isTraffic = true)
    (hev : ∀ j, ev = .connect j → (ctx.connections j).state ≠ .established)
    (htell : ∀ known, Glbevent.tell known ev =
      Function.update known i (decide (con'.state = .established))) : Tracks ctx' where
  alternating := by
    rw [hb.offered, ← List.append_assoc]
    refine (hI.alternating.append_traffic htraffic).snoc fun j hj ↦ ?_
    rw [told_append, foldl_tell_of_traffic htraffic, hI.told, decide_eq_false_iff_not]
    exact hev j hj
  told j := by
    rw [hb.offered, told_append, List.foldl_append, foldl_tell_of_traffic htraffic, List.foldl_cons,
      List.foldl_nil, htell]
    by_cases hj : j = i
    · rw [hj, Function.update_self, hb.self]
    · rw [Function.update_of_ne hj, hI.told, hb.of_ne j hj]

/-- Changing a slot without a word. -/
theorem Tracks.of_silent {i : Fin cfg.connectionCount} {con' : Glbconn cfg} {a' : Allocator}
    (hI : Tracks ctx) (hb : ctx.Becomes ctx' i con' a' [])
    (hstate : (ctx.connections i).state ≠ .established) (hstate' : con'.state ≠ .established) :
    Tracks ctx' := by
  have hoffered : ctx'.offered = ctx.offered := hb.offered.trans (List.append_nil _)
  refine ⟨by rw [hoffered]; exact hI.alternating, fun j ↦ ?_⟩
  rw [hoffered, hI.told]
  by_cases hj : j = i
  · rw [hj, hb.self, decide_eq_false hstate, decide_eq_false hstate']
  · rw [hb.of_ne j hj]

theorem Tracks.step (hI : Tracks ctx) (h : Step ctx op ctx') (hop : op.Serves) : Tracks ctx' := by
  cases step_effect h with
  | quiet hq =>
    obtain ⟨evs, hevs, hoffered, -⟩ := hq.offered
    have htraffic : ∀ ev ∈ evs, ev.isTraffic = true := fun ev hev ↦ (hevs ev hev).1
    refine ⟨by rw [hoffered]; exact hI.alternating.append_traffic htraffic, fun i ↦ ?_⟩
    rw [hoffered, told_append, foldl_tell_of_traffic htraffic, hI.told, (hq.life i).state]
  | @change i con' a' evs hb hchange =>
    cases hchange with
    | connected | finSent => exact hop.elim
    | synAcked hflags => exact absurd hflags hop
    | reopened _ _ hstate => exact hI.of_silent hb hstate fun hest ↦ by cases hest
    | opened _ _ hstate hstate' =>
      exact hI.of_silent hb (by rw [hstate]; decide) (by rw [hstate']; decide)
    | dropped hstate => exact hI.of_silent hb (by rw [hstate]; decide) fun hest ↦ by cases hest
    | accepted _ _ hstate =>
      rw [← List.nil_append [_]] at hb
      refine hI.of_becomes hb (by simp) (fun j hj ↦ ?_) fun known ↦ rfl
      cases hj
      rw [hstate]
      decide
    | closed _ _ hstate' _ _ _ _ hevs =>
      refine hI.of_becomes hb (fun ev hev ↦ (hevs ev hev).1) (fun j hj ↦ by cases hj) fun known ↦ ?_
      rw [hstate']
      rfl
    | reset | gaveUp =>
      rw [← List.nil_append [_]] at hb
      exact hI.of_becomes hb (by simp) (fun j hj ↦ by cases hj) fun known ↦ rfl

theorem Tracks.call (hI : Tracks ctx) (h : ctx.call c = some ctx') (hc : c.Serves) :
    Tracks ctx' := by
  have hkeep : ∀ {op : Op cfg} {ctx ctx'}, op.Serves → Tracks ctx → Step ctx op ctx' →
      Tracks ctx' := fun hop hI h ↦ hI.step h hop
  cases c with
  | connect | close => exact hc.elim
  | send info now =>
    have hop : (Op.send info now : Op cfg).Serves := trivial
    exact hkeep hop hI h
  | pollevent =>
    have hop : (Op.pollevent : Op cfg).Serves := trivial
    exact hkeep hop hI h
  | popdata info =>
    have hop : (Op.popdata info : Op cfg).Serves := trivial
    exact hkeep hop hI h
  | tick reads envs =>
    refine glbTick_induction (fun ctx hI ↦ ?_) (fun pkg from_ env ctx ctx' hr hI h ↦ ?_)
      (fun i env ctx ctx' hI h ↦ ?_) h hI
    · exact ⟨hI.alternating, hI.told⟩
    · have hop : (Op.packet pkg from_ env : Op cfg).Serves := hc _ hr
      exact hkeep hop hI h
    · have hop : (Op.timers i env : Op cfg).Serves := trivial
      exact hkeep hop hI h

end Glbctx

/-! ### The table -/

namespace Messenger

open Glbctx

variable {m m' : Messenger cfg}

/-- The table holds the connections that are connected according to the events polled so far. -/
structure Exact (m : Messenger cfg) : Prop where
  /-- No event is lost. -/
  lost : NothingLost m.calls m.ctx
  /-- The events tell which slots are established. -/
  tracks : Tracks m.ctx
  /-- No connection has two entries. -/
  distinct : m.connections.Distinct
  /-- The entries are what the events tell. -/
  values : ∀ i, i ∈ m.connections.values ↔ told (polled m.calls) i = true

theorem exact_start : Exact (start cfg) where
  lost := ⟨rfl, rfl⟩
  tracks := tracks_init
  distinct := SlotTable.distinct_empty
  values i := by
    have hempty : (start cfg).connections.values = [] := SlotTable.values_empty
    rw [hempty]
    exact iff_of_false List.not_mem_nil Bool.false_ne_true

/-- Entering what an event says. -/
theorem mem_tableAfter {table : SlotTable messengerSlots (Fin cfg.connectionCount)}
    {evs : List (Glbevent cfg.connectionCount)} {ev : Glbevent cfg.connectionCount}
    (hslots : cfg.connectionCount ≤ messengerSlots) (hdistinct : table.Distinct)
    (hvalues : ∀ i, i ∈ table.values ↔ told evs i = true) (hevs : Alternating (evs ++ [ev])) :
    (tableAfter table ev).Distinct ∧
      ∀ i, i ∈ (tableAfter table ev).values ↔ told (evs ++ [ev]) i = true := by
  cases ev with
  | receive | migration | stalled =>
    refine ⟨hdistinct, fun i ↦ ?_⟩
    rw [told_append]
    exact hvalues i
  | disconnect j reason =>
    refine ⟨hdistinct.remove j, fun i ↦ ?_⟩
    rw [tableAfter, hdistinct.mem_values_remove, hvalues, told_append]
    show _ ↔ Function.update _ _ _ _ = _
    by_cases hij : i = j
    · subst hij
      simp
    · simp [hij]
  | connect j =>
    have hnot : j ∉ table.values := by
      rw [hvalues, hevs evs j [] rfl]
      exact Bool.false_ne_true
    have hroom := hdistinct.exists_empty ((Fintype.card_fin _).le.trans hslots) hnot
    refine ⟨hdistinct.insert hnot, fun i ↦ ?_⟩
    rw [tableAfter, SlotTable.mem_values_insert hroom, hvalues, told_append]
    show _ ↔ Function.update _ _ _ _ = _
    by_cases hij : i = j
    · subst hij
      simp
    · simp [hij]

/-- The calls of a turn after its poll change neither the table nor what it rests on. -/
theorem exact_perform {cs : List (Call cfg)} {ctx : Glbctx cfg} {ts : List (Calling cfg)}
    {r : List (Calling cfg) × Glbctx cfg} (hcapacity : cfg.eventsPerTick ≤ cfg.eventCapacity)
    (hcs : ∀ c ∈ cs, (∃ info now, c = .send info now) ∨ ∃ info, c = .popdata info)
    (hlost : NothingLost ts ctx) (htracks : Tracks ctx)
    (h : Execution.perform Glbctx.call cs ctx = some r) :
    NothingLost (ts ++ r.1) r.2 ∧ Tracks r.2 ∧ polled r.1 = [] := by
  induction cs generalizing ctx ts r with
  | nil =>
    cases h
    exact ⟨by rwa [List.append_nil], htracks, rfl⟩
  | cons c cs ih =>
    obtain ⟨hc, hcs⟩ := List.forall_mem_cons.1 hcs
    obtain ⟨ctx₁, h₁, h⟩ := Option.bind_eq_some_iff.1 h
    obtain ⟨r, hr, rfl⟩ := Option.map_eq_some_iff.1 h
    obtain ⟨hpolite, hserves, hpoll⟩ : c.Polite ctx ∧ c.Serves ∧ c ≠ .pollevent := by
      rcases hc with ⟨info, now, rfl⟩ | ⟨info, rfl⟩ <;> exact ⟨trivial, trivial, nofun⟩
    obtain ⟨hlost', htracks', hpolled⟩ :=
      ih hcs (hlost.call hcapacity h₁ hpolite) (htracks.call h₁ hserves) hr
    refine ⟨?_, htracks', ?_⟩
    · rwa [List.append_assoc, List.singleton_append] at hlost'
    · rw [← List.singleton_append, polled_append, polled_of_ne hpoll, hpolled]
      rfl

/-- A turn polls, and then it pops and sends. -/
theorem exists_pollCalls (m : Messenger cfg) (clock : Fin messengerSlots → ℕ) :
    ∃ cs, m.pollCalls clock = .pollevent :: cs ∧
      ∀ c ∈ cs, (∃ info now, c = .send info now) ∨ ∃ info, c = .popdata info := by
  rw [pollCalls]
  split
  · dsimp only
    split
    · refine ⟨_, rfl, fun c hc ↦ ?_⟩
      rcases List.mem_cons.1 hc with rfl | hc
      · exact Or.inr ⟨_, rfl⟩
      · obtain ⟨k, -, hk⟩ := List.mem_filterMap.1 hc
        obtain ⟨i, -, rfl⟩ := Option.map_eq_some_iff.1 hk
        exact Or.inl ⟨_, _, rfl⟩
    · refine ⟨_, rfl, fun c hc ↦ Or.inr ⟨_, List.mem_singleton.1 hc⟩⟩
  · exact ⟨[], rfl, fun c hc ↦ nomatch hc⟩

theorem Exact.next {move : MessengerMove cfg} (hI : Exact m)
    (hslots : cfg.connectionCount ≤ messengerSlots)
    (hcapacity : cfg.eventsPerTick ≤ cfg.eventCapacity) (h : m.next move = some m')
    (hsynAck : move.NoSynAck) : Exact m' := by
  cases move with
  | tick reads envs =>
    rw [Messenger.next] at h
    split at h
    case isFalse => cases h
    next hempty =>
    obtain ⟨ctx', h₁, rfl⟩ := Option.map_eq_some_iff.1 h
    refine ⟨hI.lost.call hcapacity h₁ hempty, hI.tracks.call h₁ hsynAck, hI.distinct, fun i ↦ ?_⟩
    have hpoll : Call.tick reads envs ≠ .pollevent := by rintro ⟨⟩
    rw [polled_append, polled_of_ne hpoll, List.append_nil]
    exact hI.values i
  | poll clock =>
    obtain ⟨r, hr, rfl⟩ := Option.map_eq_some_iff.1 h
    obtain ⟨cs, heq, hcs⟩ := exists_pollCalls m clock
    rw [heq] at hr
    obtain ⟨ctx₁, h₁, hr⟩ := Option.bind_eq_some_iff.1 hr
    obtain ⟨r', hr', rfl⟩ := Option.map_eq_some_iff.1 hr
    obtain ⟨hlost, htracks, hpolled⟩ := exact_perform hcapacity hcs
      (hI.lost.call hcapacity h₁ trivial) (hI.tracks.call h₁ trivial) hr'
    rw [List.append_assoc, List.singleton_append] at hlost
    have hall : polled (m.calls ++ (m.ctx, .pollevent, ctx₁) :: r'.1) =
        polled m.calls ++ m.ctx.glbPollevent.2.1.toList := by
      rw [← List.singleton_append, polled_append, polled_append, hpolled, List.append_nil,
        polled_pollevent]
    suffices htable : ((m.ctx.glbPollevent.2.1.map (tableAfter m.connections)).getD
        m.connections).Distinct ∧ ∀ i, i ∈ ((m.ctx.glbPollevent.2.1.map
        (tableAfter m.connections)).getD m.connections).values ↔
        told (polled m.calls ++ m.ctx.glbPollevent.2.1.toList) i = true by
      refine ⟨hlost, htracks, htable.1, fun i ↦ ?_⟩
      rw [hall]
      exact htable.2 i
    rcases glbPollevent_cases m.ctx with ⟨-, heq⟩ | ⟨ev, q, helems, heq⟩ <;> rw [heq]
    · rw [Option.toList_none, List.append_nil]
      exact ⟨hI.distinct, hI.values⟩
    · refine mem_tableAfter hslots hI.distinct hI.values ?_
      -- the event comes next among those that were announced
      have halternating := hI.tracks.alternating
      rw [hI.lost.offered, helems, ← List.singleton_append, ← List.append_assoc] at halternating
      exact halternating.of_append

/-- Who gets a message, according to the calls made for it. -/
def recipients (cs : List (Call cfg)) : List (Fin cfg.connectionCount) :=
  cs.filterMap fun
    | .send info _ => info.con
    | .connect _ | .close _ _ | .tick _ _ | .pollevent | .popdata _ => none

theorem recipients_broadcast (m : Messenger cfg) (message : List UInt8)
    (clock : Fin messengerSlots → ℕ) :
    recipients (m.broadcast message clock) = m.connections.values := by
  rw [recipients, broadcast, List.filterMap_filterMap, SlotTable.values]
  refine List.filterMap_congr fun k _ ↦ ?_
  rcases m.connections k with - | i <;> rfl

/-- **Messages go to those who are connected.** In every run of the messenger server in which no
SYN|ACK arrives, whatever else arrives: a message it broadcasts is handed to `glb_send` for no
connection twice, and for just those connections whose last polled event of CONNECT and DISCONNECT
is a CONNECT; when the polling loop has ended, these are just the established slots. -/
theorem table_exact {ts : List (Messenger cfg × MessengerMove cfg × Messenger cfg)}
    (hslots : cfg.connectionCount ≤ messengerSlots)
    (hcapacity : cfg.eventsPerTick ≤ cfg.eventCapacity) (hrun : Run ts m)
    (hsynAck : ∀ x ∈ ts, x.2.1.NoSynAck) (message : List UInt8)
    (clock : Fin messengerSlots → ℕ) :
    (recipients (m.broadcast message clock)).Nodup ∧
    (∀ i, i ∈ recipients (m.broadcast message clock) ↔ told (polled m.calls) i = true) ∧
    (m.ctx.eventqueue.elems = [] → ∀ i, i ∈ recipients (m.broadcast message clock) ↔
      (m.ctx.connections i).state = .established) := by
  have hI : Exact m := (Execution.invariant_of_state (C := fun x ↦ x.2.1.NoSynAck)
    (fun _ _ _ hI hmove hx ↦ hI.next hslots hcapacity hmove hx) hrun exact_start hsynAck).1
  rw [recipients_broadcast]
  refine ⟨hI.distinct.nodup_values, hI.values, fun hempty i ↦ ?_⟩
  have hoffered := hI.lost.offered
  rw [hempty, List.append_nil] at hoffered
  rw [hI.values, ← hoffered, hI.tracks.told, decide_eq_true_iff]

/-- Two clients connect, and one of them sends a message. -/
def twoClients : List (MessengerMove Glbcfg.sampleServer) :=
  let other : Glbaddr := ⟨0x0100007F, 0x2345⟩
  [.tick [(.packet (glbpkgInit ⟨0xFFFF, 0⟩ ctrlFlagSyn 0) .samplePeer, Env.at 1),
      (.packet (glbpkgInit ⟨1, 0⟩ ctrlFlagAck 0) .samplePeer, Env.at 1),
      (.packet (glbpkgInit ⟨0xFFFF, 0⟩ ctrlFlagSyn 0) other, Env.at 1),
      (.packet (glbpkgInit ⟨2, 0⟩ ctrlFlagAck 0) other, Env.at 1)] (fun _ ↦ Env.at 2),
    .poll fun _ ↦ 3, .poll fun _ ↦ 3,
    .tick [(.packet (Glbpkg.sampleData ⟨1, 0⟩ 0) .samplePeer, Env.at 4)] (fun _ ↦ Env.at 5),
    .poll fun _ ↦ 6]

/-- The message is sent to both. -/
theorem table_exact_sample : ∃ ts m, @Run Glbcfg.sampleServer ts m ∧
    m.connections.values = [⟨0, Nat.two_pos⟩, ⟨1, Nat.one_lt_two⟩] ∧
    ∀ i, i ∈ recipients (m.broadcast [7] fun _ ↦ 6) ↔
      (m.ctx.connections i).state = .established := by
  have hend : (Execution.perform next twoClients (start _)).map (fun r ↦
      (r.2.connections.values, r.2.ctx.eventqueue.elems)) =
      some ([⟨0, Nat.two_pos⟩, ⟨1, Nat.one_lt_two⟩], []) := by decide +kernel
  obtain ⟨r, hr, hend⟩ := Option.map_eq_some_iff.1 hend
  obtain ⟨hvalues, hempty⟩ := Prod.mk.inj hend
  have hrun : Run r.1 r.2 := Execution.nil.append_perform hr
  have hsynAck : ∀ move ∈ twoClients, move.NoSynAck := by decide
  exact ⟨r.1, r.2, hrun, hvalues,
    (table_exact (by decide) (by decide) hrun
      (fun x hx ↦ hsynAck _ (Execution.mem_of_perform hr x hx)) _ _).2.2 hempty⟩

end Messenger

end Gilberta
