import Gilberta.Effects.Primitives

/-!
# What a step can do to the life of a slot

Nine packet handlers, the public functions and the timers all write `con->state`, the channel
array and the event queue. `step_effect` says once, for all of them, what one step can do: either
it is *quiet* (no slot changes its state, its identity, its handshake numbers or the blocks it
owns, and only traffic is announced) or it does one of the eleven things listed in `Change` to one
slot. Every invariant about states, ownership and announcements is derived from this list, and no
later proof opens a handler.

A quiet step moves data only if it is an operation on data: the receiving halves of the channels
are left alone unless the operation `Receives`, the sending halves unless it `Sends`. What exactly
those operations do to a channel is the subject of `Effects/Traffic`.

The list is what the code does, not what it should do: several of its cases are exactly the ones a
reader of the protocol would not expect (`Change.reopened`, `Change.synAcked`, `Change.reset`).
-/

namespace Gilberta

variable {cfg : Glbcfg}

/-- Whether an event is about traffic on a connection, and not about its beginning or end. -/
def Glbevent.isTraffic {n : ℕ} : Glbevent n → Bool
  | connect _ | disconnect _ _ => false
  | receive _ _ | migration _ | stalled _ _ => true

/-- Whether an event announces a message. -/
def Glbevent.isReceive {n : ℕ} : Glbevent n → Bool
  | receive _ _ => true
  | connect _ | disconnect _ _ | migration _ | stalled _ _ => false

/-- A SYN, as the first test of the receive loop has it. -/
def Glbpkg.IsSyn (p : Glbpkg) : Prop :=
  p.header.ctrlFlags = ctrlFlagSyn ∧ p.header.clientId = 0xFFFF

instance (pkg : Glbpkg) : Decidable pkg.IsSyn := by
  unfold Glbpkg.IsSyn
  infer_instance

/-- The lookup by id leads a packet to a slot. -/
def Glbpkg.Finds (p : Glbpkg) (ctx : Glbctx cfg) (i : Fin cfg.connectionCount) : Prop :=
  ctx.findConn p.header.clientGen p.header.clientId = some i

instance (ctx : Glbctx cfg) (pkg : Glbpkg) (i : Fin cfg.connectionCount) :
    Decidable (pkg.Finds ctx i) := by
  unfold Glbpkg.Finds
  infer_instance

/-- Whether an operation handles a packet with the given control flags. -/
def Op.Handles (flags : UInt8) : Op cfg → Prop
  | .packet pkg _ _ => pkg.header.ctrlFlags = flags
  | _ => False

/-- Whether an operation handles a SYN. -/
def Op.HandlesSyn : Op cfg → Prop
  | .packet pkg _ _ => pkg.IsSyn
  | _ => False

/-- The operations that touch the receiving half of a channel of slot `i`: `glb_popdata` and the
DATA branch. -/
def Op.Receives (i : Fin cfg.connectionCount) : Op cfg → Prop
  | .popdata info => info.con = some i
  | .packet pkg _ _ => pkg.header.ctrlFlags = ctrlFlagData
  | _ => False

/-- The operations that touch the sending half of a channel of slot `i`: `glb_send`, its timers and
the DATA|ACK branch. -/
def Op.Sends (i : Fin cfg.connectionCount) : Op cfg → Prop
  | .send info _ => info.con = some i
  | .timers j _ => j = i
  | .packet pkg _ _ => pkg.header.ctrlFlags = ctrlFlagDataAck
  | _ => False

/-- Whether an operation handles a packet from the given address. -/
def Op.ComesFrom (addr : Glbaddr) : Op cfg → Prop
  | .packet _ from_ _ => from_ = addr
  | _ => False

/-- The receiving half of a channel. -/
def Glbchannel.recvSide (chan : Glbchannel) : Glbqueue Glbpkg × UInt32 × UInt8 :=
  (chan.rQueue, chan.ack, chan.flags)

/-- The sending half of a channel. -/
def Glbchannel.sendSide (chan : Glbchannel) : Glbqueue Glbpkg × UInt32 × UInt8 :=
  (chan.sQueue, chan.seq, chan.flags)

theorem Glbchannel.recvSide_eq_iff {chan : Glbchannel} {q : Glbqueue Glbpkg} {ack : UInt32}
    {flags : UInt8} : chan.recvSide = (q, ack, flags) ↔
      chan.rQueue = q ∧ chan.ack = ack ∧ chan.flags = flags := by
  rw [recvSide, Prod.mk.injEq, Prod.mk.injEq]

theorem Glbchannel.sendSide_eq_iff {chan : Glbchannel} {q : Glbqueue Glbpkg} {seq : UInt32}
    {flags : UInt8} : chan.sendSide = (q, seq, flags) ↔
      chan.sQueue = q ∧ chan.seq = seq ∧ chan.flags = flags := by
  rw [sendSide, Prod.mk.injEq, Prod.mk.injEq]

/-- The receiving halves of the channels of a slot. -/
def Glbconn.recvSides (con : Glbconn cfg) :
    Option (Fin cfg.channelCount → Glbqueue Glbpkg × UInt32 × UInt8) :=
  con.channels.map fun chs c ↦ (chs.chan c).recvSide

/-- The sending halves of the channels of a slot. -/
def Glbconn.sendSides (con : Glbconn cfg) :
    Option (Fin cfg.channelCount → Glbqueue Glbpkg × UInt32 × UInt8) :=
  con.channels.map fun chs c ↦ (chs.chan c).sendSide

/-- A channel array with its counters set, as `glbctx_writeack` sets them. -/
def Glbchannels.withCounters {m : ℕ} (chs : Glbchannels m) (seq ack : UInt32) : Glbchannels m :=
  { chs with chan := fun c ↦ { chs.chan c with seq := seq, ack := ack } }

@[simp] theorem Glbchannels.blocks_withCounters {m : ℕ} (chs : Glbchannels m) (seq ack : UInt32) :
    (chs.withCounters seq ack).blocks = chs.blocks := rfl

/-- Two records of a slot that agree on everything traffic leaves alone. -/
structure Glbconn.SameLife (con con' : Glbconn cfg) : Prop where
  /-- The state. -/
  state : con'.state = con.state
  /-- The identity. -/
  connId : con'.connId = con.connId
  /-- The sequence number of the handshake. -/
  seq : con'.seq = con.seq
  /-- The acknowledgment number of the handshake. -/
  ack : con'.ack = con.ack
  /-- The blocks of the channel array, if there is one. -/
  blocks : con'.channels.map Glbchannels.blocks = con.channels.map Glbchannels.blocks

theorem Glbconn.SameLife.refl (con : Glbconn cfg) : con.SameLife con := ⟨rfl, rfl, rfl, rfl, rfl⟩

theorem Glbconn.SameLife.trans {con con' con'' : Glbconn cfg} (h : con.SameLife con')
    (h' : con'.SameLife con'') : con.SameLife con'' :=
  ⟨h'.state.trans h.state, h'.connId.trans h.connId, h'.seq.trans h.seq, h'.ack.trans h.ack,
    h'.blocks.trans h.blocks⟩

theorem Glbconn.SameLife.channels_isSome {con con' : Glbconn cfg} (h : con.SameLife con') :
    con'.channels.isSome = con.channels.isSome := by
  have hb := congrArg Option.isSome h.blocks
  rwa [Option.isSome_map, Option.isSome_map] at hb

/-- What a quiet operation makes of the record of slot `i`. -/
structure Glbconn.CarriesOn (op : Op cfg) (i : Fin cfg.connectionCount) (con con' : Glbconn cfg) :
    Prop extends
    con.SameLife con' where
  /-- The receiving halves are touched only by an operation that receives. -/
  recv : ¬ op.Receives i → con'.recvSides = con.recvSides
  /-- The sending halves are touched only by an operation that sends. -/
  send : ¬ op.Sends i → con'.sendSides = con.sendSides
  /-- The peer address is kept, or it is where a packet for an established slot came from. -/
  peer : con'.peerAddr = con.peerAddr ∨ con.state = .established ∧ op.ComesFrom con'.peerAddr

theorem Glbconn.CarriesOn.refl {op : Op cfg} {i : Fin cfg.connectionCount} (con : Glbconn cfg) :
    con.CarriesOn op i con :=
  ⟨.refl con, fun _ ↦ rfl, fun _ ↦ rfl, Or.inl rfl⟩

theorem Glbconn.CarriesOn.trans {op : Op cfg} {i : Fin cfg.connectionCount}
    {con con' con'' : Glbconn cfg} (h : con.CarriesOn op i con') (h' : con'.CarriesOn op i con'') :
    con.CarriesOn op i con'' := by
  refine ⟨h.toSameLife.trans h'.toSameLife, fun hr ↦ (h'.recv hr).trans (h.recv hr),
    fun hs ↦ (h'.send hs).trans (h.send hs), ?_⟩
  rcases h'.peer with heq | ⟨hest, hfrom⟩
  · rw [heq]; exact h.peer
  · exact Or.inr ⟨h.state ▸ hest, hfrom⟩

/-- Changing what neither counts as life nor as a channel. -/
theorem Glbconn.CarriesOn.of_eq {op : Op cfg} {i : Fin cfg.connectionCount}
    {con con' : Glbconn cfg}
    (hstate : con'.state = con.state) (hid : con'.connId = con.connId) (hseq : con'.seq = con.seq)
    (hack : con'.ack = con.ack) (hchannels : con'.channels = con.channels)
    (hpeer : con'.peerAddr = con.peerAddr ∨
      con.state = .established ∧ op.ComesFrom con'.peerAddr) :
    con.CarriesOn op i con' :=
  ⟨⟨hstate, hid, hseq, hack, by rw [hchannels]⟩, fun _ ↦ by rw [recvSides, hchannels, recvSides],
    fun _ ↦ by rw [sendSides, hchannels, sendSides], hpeer⟩

/-- An event a quiet operation may announce. -/
def Op.MayAnnounce (op : Op cfg) (ctx : Glbctx cfg) (ev : Glbevent cfg.connectionCount) : Prop :=
  ev.isTraffic = true ∧ (ctx.connections ev.connection).state = .established ∧
    (ev.isReceive = true → op.Receives ev.connection)

namespace Glbctx

/-- A step that changes no slot's life. -/
structure Quiet (ctx : Glbctx cfg) (op : Op cfg) (ctx' : Glbctx cfg) : Prop where
  /-- Every slot goes on as it was. -/
  life : ∀ j, (ctx.connections j).CarriesOn op j (ctx'.connections j)
  /-- Nothing is allocated or freed. -/
  allocator : ctx'.allocator = ctx.allocator
  /-- The context stays where it is. -/
  block : ctx'.block = ctx.block
  /-- The event queue stays where it is. -/
  queueBlock : ctx'.eventqueue.block = ctx.eventqueue.block
  /-- Only traffic is announced, and only on established connections; an event leaves the event
  queue only when it is polled. -/
  offered : ∃ evs, (∀ ev ∈ evs, op.MayAnnounce ctx ev) ∧ ctx'.offered = ctx.offered ++ evs ∧
    (op ≠ .pollevent → ctx'.eventqueue.toBoundedQueue =
      evs.foldl BoundedQueue.offer ctx.eventqueue.toBoundedQueue)

/-- A step that gives slot `i` the record `con'`, leaves the allocator as `a'` and announces
`evs`. -/
structure Becomes (ctx ctx' : Glbctx cfg) (i : Fin cfg.connectionCount) (con' : Glbconn cfg)
    (a' : Allocator) (evs : List (Glbevent cfg.connectionCount)) : Prop where
  /-- The slot has its new record. -/
  self : ctx'.connections i = con'
  /-- The other slots keep theirs. -/
  of_ne : ∀ j, j ≠ i → ctx'.connections j = ctx.connections j
  /-- The allocator is the new one. -/
  allocator : ctx'.allocator = a'
  /-- The context stays where it is. -/
  block : ctx'.block = ctx.block
  /-- The event queue stays where it is. -/
  queueBlock : ctx'.eventqueue.block = ctx.eventqueue.block
  /-- The events are announced. -/
  offered : ctx'.offered = ctx.offered ++ evs
  /-- They are put into the event queue, as far as it has room. -/
  queue : ctx'.eventqueue.toBoundedQueue =
    evs.foldl BoundedQueue.offer ctx.eventqueue.toBoundedQueue

/-- What can close a slot together with its channels, and the reason it gives: a FIN that could be
answered, a FIN|ACK, an RST for an established slot, or a timer of an established or closing
slot. -/
inductive Closes (ctx : Glbctx cfg) (i : Fin cfg.connectionCount) :
    Op cfg → GlbDisconnectReason → Prop
  | fin {pkg : Glbpkg} {from_ : Glbaddr} {env : Env}
      (hflags : pkg.header.ctrlFlags = ctrlFlagFin) (hfind : pkg.Finds ctx i)
      (hok : env.sendOk 0 = true) : Closes ctx i (.packet pkg from_ env) .byPeer
  | finAck {pkg : Glbpkg} {from_ : Glbaddr} {env : Env}
      (hflags : pkg.header.ctrlFlags = ctrlFlagFinAck) (hfind : pkg.Finds ctx i) :
      Closes ctx i (.packet pkg from_ env) .byPeer
  | rst {pkg : Glbpkg} {from_ : Glbaddr} {env : Env}
      (hflags : pkg.header.ctrlFlags = ctrlFlagRst) (hfind : pkg.Finds ctx i)
      (hstate : (ctx.connections i).state = .established) :
      Closes ctx i (.packet pkg from_ env) .reset
  | timeout {env : Env}
      (hstate : (ctx.connections i).state = .established ∨ (ctx.connections i).state = .finSent) :
      Closes ctx i (.timers i env) .timeout

/-- What a step that is not quiet does to its slot: the operation, the slot's new record, the new
allocator and the events announced. -/
inductive Change (ctx : Glbctx cfg) (i : Fin cfg.connectionCount) :
    Op cfg → Glbconn cfg → Allocator → List (Glbevent cfg.connectionCount) → Prop
  /-- `glb_connect` on slot 0; with an address that cannot be parsed the state stays. -/
  | connected {now t : ℕ} {peerAddr : Glbaddr} {retry : UInt8} (hi : i.val = 0) :
      Change ctx i (.connect now)
        { ctx.connections i with
          seq := initialSeq cfg
          ack := 0
          connId := ⟨0xFFFF, 0⟩
          lossCount := 0
          rtt := 0
          peerAddr := peerAddr
          retry := retry
          time := t
          state := if cfg.inetAddr.isSome then .synSent else (ctx.connections i).state }
        ctx.allocator []
  /-- `glb_close` on an established slot. -/
  | finSent {now t : ℕ} (hstate : (ctx.connections i).state = .established) :
      Change ctx i (.close i now)
        { ctx.connections i with state := .finSent, retry := 0, time := t } ctx.allocator []
  /-- A SYN from the address of a slot that is not established, whatever else its state. -/
  | reopened {pkg : Glbpkg} {from_ : Glbaddr} {env : Env} {t : ℕ} (hsyn : pkg.IsSyn)
      (hfind : ctx.findConnByAddr from_ = some i)
      (hstate : (ctx.connections i).state ≠ .established) :
      Change ctx i (.packet pkg from_ env)
        { ctx.connections i with
          state := .synRcvd
          retry := 0
          rtt := 0
          lossCount := 0
          peerAddr := from_
          time := t }
        ctx.allocator []
  /-- A SYN from an unknown address, taking a closed slot. -/
  | opened {pkg : Glbpkg} {from_ : Glbaddr} {env : Env} {con' : Glbconn cfg} (hsyn : pkg.IsSyn)
      (hfind : ctx.findConnByAddr from_ = none)
      (hstate : (ctx.connections i).state = .closed)
      (hstate' : con'.state = .synRcvd) (hchannels : con'.channels = none)
      (hseq : con'.seq = initialSeq cfg) (hack : con'.ack = pkg.header.seq)
      (hid : con'.connId.id = ctx.clientId) (hpeer : con'.peerAddr = from_) :
      Change ctx i (.packet pkg from_ env) con' ctx.allocator []
  /-- The ACK of a slot that waits for it. -/
  | accepted {pkg : Glbpkg} {from_ : Glbaddr} {env : Env} {t : ℕ}
      {chs : Glbchannels cfg.channelCount} {a' : Allocator}
      (hflags : pkg.header.ctrlFlags = ctrlFlagAck) (hfind : pkg.Finds ctx i)
      (hstate : (ctx.connections i).state = .synRcvd) (hnew : IsNewArray ctx.allocator a' chs) :
      Change ctx i (.packet pkg from_ env)
        { ctx.connections i with
          state := .established
          channels := some (chs.withCounters (ctx.connections i).seq pkg.header.seq)
          keepaliveRetry := 0
          keepalive := t }
        a' [.connect i]
  /-- A SYN|ACK while slot 0 is not established, whatever else its state. -/
  | synAcked {pkg : Glbpkg} {from_ : Glbaddr} {env : Env} {t : ℕ}
      {chs : Glbchannels cfg.channelCount} {a' : Allocator}
      (hflags : pkg.header.ctrlFlags = ctrlFlagSynAck) (hi : i.val = 0)
      (hstate : (ctx.connections i).state ≠ .established)
      (hnew : IsNewArray ctx.allocator a' chs) :
      Change ctx i (.packet pkg from_ env)
        { ctx.connections i with
          connId := if (ctx.connections i).state = .synSent then pkg.conId
            else (ctx.connections i).connId
          channels := some (chs.withCounters (ctx.connections i).seq pkg.header.seq)
          keepaliveRetry := 0
          keepalive := t
          ack := pkg.header.seq
          state := if env.sendOk 0 then .established else (ctx.connections i).state }
        a' [.connect i]
  /-- The slot is closed, its channels are freed and the end is announced. -/
  | closed {op : Op cfg} {reason : GlbDisconnectReason} {con' : Glbconn cfg}
      {evs : List (Glbevent cfg.connectionCount)} (hcause : Closes ctx i op reason)
      (hstate : (ctx.connections i).state ≠ .closed)
      (hstate' : con'.state = .closed) (hchannels : con'.channels = none)
      (hid : con'.connId = (ctx.connections i).connId)
      (hseq : con'.seq = (ctx.connections i).seq) (hack : con'.ack = (ctx.connections i).ack)
      (hevs : ∀ ev ∈ evs, ev.isTraffic = true ∧ ev.connection = i ∧ ev.isReceive = false)
      (hpeer : con'.peerAddr = (ctx.connections i).peerAddr) :
      Change ctx i op con' (ctx.allocator.freeAll (ctx.channelBlocks i))
        (evs ++ [.disconnect i reason])
  /-- An RST for a slot that is not established: the channels stay. -/
  | reset {pkg : Glbpkg} {from_ : Glbaddr} {env : Env}
      (hflags : pkg.header.ctrlFlags = ctrlFlagRst) (hfind : pkg.Finds ctx i)
      (hstate : (ctx.connections i).state ≠ .established) :
      Change ctx i (.packet pkg from_ env) { ctx.connections i with state := .closed }
        ctx.allocator [.disconnect i .reset]
  /-- The client gives up on its SYN. -/
  | gaveUp {env : Env} (hstate : (ctx.connections i).state = .synSent) :
      Change ctx i (.timers i env) { ctx.connections i with state := .closed } ctx.allocator
        [.disconnect i .timeout]
  /-- The server gives up on its SYN|ACK. -/
  | dropped {env : Env} (hstate : (ctx.connections i).state = .synRcvd) :
      Change ctx i (.timers i env) { ctx.connections i with state := .closed } ctx.allocator []

/-- What a step does: nothing to the life of any slot, or one of the listed changes to one slot. -/
inductive Effect (ctx : Glbctx cfg) (op : Op cfg) (ctx' : Glbctx cfg) : Prop
  | quiet (h : ctx.Quiet op ctx')
  | change {i : Fin cfg.connectionCount} {con' : Glbconn cfg} {a' : Allocator}
      {evs : List (Glbevent cfg.connectionCount)} (hb : ctx.Becomes ctx' i con' a' evs)
      (h : Change ctx i op con' a' evs)

/-! ### Quiet steps -/

variable {op : Op cfg}

theorem Quiet.refl (ctx : Glbctx cfg) : ctx.Quiet op ctx where
  life := fun j ↦ .refl _
  allocator := rfl
  block := rfl
  queueBlock := rfl
  offered := ⟨[], by simp, (List.append_nil _).symm, fun _ ↦ rfl⟩

/-- A step that announces nothing and touches neither a slot nor the memory. -/
theorem Quiet.of_eq {ctx ctx' : Glbctx cfg} (hcon : ctx'.connections = ctx.connections)
    (hall : ctx'.allocator = ctx.allocator) (hblock : ctx'.block = ctx.block)
    (hqueue : ctx'.eventqueue = ctx.eventqueue) (hoff : ctx'.offered = ctx.offered) :
    ctx.Quiet op ctx' where
  life := fun j ↦ by rw [hcon]; exact .refl _
  allocator := hall
  block := hblock
  queueBlock := by rw [hqueue]
  offered := ⟨[], by simp, by rw [hoff, List.append_nil], fun _ ↦ by rw [hqueue]; rfl⟩

theorem quiet_glbioSend {ctx : Glbctx cfg} (pkg : Glbpkg) (dest : Glbaddr) (ok : Bool) :
    ctx.Quiet op (ctx.glbioSend pkg dest ok).2 :=
  .of_eq (by simp) (by simp) (by simp) (by simp) (by simp)

end Glbctx

/-- Overwriting a channel by one in the same blocks keeps the blocks of the array. -/
theorem Glbchannels.blocks_set {m : ℕ} {chs : Glbchannels m} {c : Fin m} {chan : Glbchannel}
    (h : chan.blocks = (chs.chan c).blocks) : (chs.set c chan).blocks = chs.blocks := by
  have hqueue : ∀ d, ((chs.set c chan).chan d).blocks = (chs.chan d).blocks := by
    intro d
    by_cases hd : d = c
    · subst hd
      show (if d = d then chan else _ : Glbchannel).blocks = _
      rw [if_pos rfl, h]
    · show (if d = c then chan else _ : Glbchannel).blocks = _
      rw [if_neg hd]
  show ((List.finRange m).flatMap fun d ↦ ((chs.set c chan).chan d).blocks) ++ _ = _
  simp only [hqueue]
  rfl

/-- Overwriting a channel by one with the same receiving half. -/
theorem Glbchannels.recvSide_set {m : ℕ} {chs : Glbchannels m} {c : Fin m} {chan : Glbchannel}
    (h : chan.recvSide = (chs.chan c).recvSide) (d : Fin m) :
    ((chs.set c chan).chan d).recvSide = (chs.chan d).recvSide := by
  show (if d = c then chan else chs.chan d : Glbchannel).recvSide = _
  split
  · next hd => rw [h, hd]
  · rfl

/-- Overwriting a channel by one with the same sending half. -/
theorem Glbchannels.sendSide_set {m : ℕ} {chs : Glbchannels m} {c : Fin m} {chan : Glbchannel}
    (h : chan.sendSide = (chs.chan c).sendSide) (d : Fin m) :
    ((chs.set c chan).chan d).sendSide = (chs.chan d).sendSide := by
  show (if d = c then chan else chs.chan d : Glbchannel).sendSide = _
  split
  · next hd => rw [h, hd]
  · rfl

end Gilberta
