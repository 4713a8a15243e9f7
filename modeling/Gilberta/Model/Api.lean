import Gilberta.Foundations.Execution
import Gilberta.Model.Tick

/-!
# The public functions

Creating and destroying a context, connecting, closing, sending, polling and popping, and
`glb_tick` as a whole.

A run of a context is an `Execution` of `Glbctx.Step`, whose labels are the public calls, with
`glb_tick` taken apart into the packets it handles and the slots whose timers it serves
(`glbTick_execution`). What holds after every step of every such run therefore holds between
calls, and also between two packets of one tick. The run starts in what `glbctx_create` returns.
Some results ask that `glb_connect` is called only while slot 0 is closed (`Op.Allowed`).

Arguments that are pointers are options; the context and the info structures are never `NULL`.
-/

namespace Gilberta

variable {cfg : Glbcfg}

/-- `glbsendinfo_t`: the bytes at `data`, `len` of them, and where to send them. -/
structure Glbsendinfo (n : ℕ) where
  /-- The bytes to send, `none` for `NULL`. -/
  data : Option (List UInt8)
  /-- Connection to send into, `none` for `NULL`. -/
  con : Option (Fin n)
  /-- Channel ID. -/
  channelId : UInt8

/-- `glbrecvinfo_t`, without its output fields. -/
structure Glbrecvinfo (n : ℕ) where
  /-- Whether `buffer` is not `NULL`. -/
  hasBuffer : Bool
  /-- Source connection, `none` for `NULL`. -/
  con : Option (Fin n)
  /-- Buffer size. -/
  buflen : ℕ
  /-- Channel ID. -/
  channelId : UInt8

/-- `glbconinfo_t`. -/
structure Glbconinfo where
  /-- Peer's IPv4 address in string form. -/
  inetAddr : String
  /-- Peer's port. -/
  inetPort : UInt16
  /-- Connection state. -/
  state : GLBConnState
  /-- Number of channels in the connection. -/
  channelCount : UInt8
  /-- Round trip time. -/
  rtt : UInt32
  /-- Packet loss. -/
  loss : UInt32
  /-- DESYNC errors. -/
  desync : UInt32
  deriving DecidableEq, Repr

/-- `inet_ntop` on an IPv4 address, the first number in its lowest byte. -/
def inetNtop (addr : UInt32) : String :=
  let bytes := ([0, 8, 16, 24] : List UInt32).map fun k ↦ (addr >>> k) &&& 0xFF
  ".".intercalate (bytes.map fun b ↦ toString b.toNat)

/-- What one `glbio_read` does: report that nothing is there, report a receive error, reject a
datagram, or accept a packet. -/
inductive ReadResult
  | empty
  | error
  | invalid
  | packet (pkg : Glbpkg) (from_ : Glbaddr)

/-! ### Creating and destroying -/

/-- A slot as `memset` leaves it. -/
def zeroCon (cfg : Glbcfg) : Glbconn cfg where
  peerAddr := ⟨0, 0⟩
  connId := ⟨0, 0⟩
  state := .closed
  retry := 0
  keepaliveRetry := 0
  lossCount := 0
  desyncCount := 0
  rtt := 0
  seq := 0
  ack := 0
  channels := none
  time := 0
  keepalive := 0

/-- Surroundings in which nothing fails, at a fixed time. -/
def Env.at (now : ℕ) : Env := ⟨fun _ ↦ now, fun _ ↦ true, fun _ ↦ true⟩

/-- The context a successful `glbctx_create` returns in a process that has allocated nothing. -/
def Glbctx.init (cfg : Glbcfg) : Glbctx cfg where
  block := 0
  allocator := (Allocator.empty.malloc true).1.malloc true |>.1
  sock := []
  eventqueue := { BoundedQueue.empty cfg.eventCapacity with block := 1 }
  offered := []
  connections := fun _ ↦ zeroCon cfg
  error := .success
  clientGen := 0
  clientId := 1

theorem Glbcfg.eventCapacity_ne_zero (cfg : Glbcfg) : cfg.eventCapacity ≠ 0 := by
  unfold Glbcfg.eventCapacity
  split
  · decide
  · next h => exact fun h0 ↦ h (UInt16.toNat_inj.1 h0)

namespace Glbctx

variable (ctx : Glbctx cfg)

/-- `glb_destroy`: what is left of the allocator. -/
def glbDestroy : Allocator :=
  let a := ctx.allocator.free ctx.eventqueue.block
  let ctx := (List.finRange cfg.connectionCount).foldl (fun ctx i ↦ (ctx.freeConChannels i).2)
    { ctx with allocator := a }
  ctx.allocator.free ctx.block

/-! ### Connecting, closing, sending -/

/-- `glb_connect`, on slot 0. -/
def glbConnect (now : ℕ) : Option (GLBErrorCode × Glbctx cfg) :=
  if h : 0 < cfg.connectionCount then
    let i : Fin cfg.connectionCount := ⟨0, h⟩
    let ctx := ctx.generateSeq i 0
    let con := ctx.connections i
    let con := { con with
      connId := ⟨0xFFFF, 0⟩
      lossCount := 0
      rtt := 0
      peerAddr := { con.peerAddr with sinPort := htons cfg.port } }
    match cfg.inetAddr with
    | none => some (.invalidArgument, ctx.setCon i con)
    | some addr => some (.success, ctx.setCon i { con with
        peerAddr := { con.peerAddr with sinAddr := addr }
        state := .synSent
        retry := 0
        time := glbtimeStart now 0 })
  else none

/-- `glb_close`. -/
def glbClose (i : Fin cfg.connectionCount) (now : ℕ) : GLBErrorCode × Glbctx cfg :=
  let con := ctx.connections i
  if con.state ≠ .established then (.connectionClosed, ctx)
  else (.success, ctx.setCon i { con with
    state := .finSent
    retry := 0
    time := glbtimeStart now 0 })

/-- The packet `glb_send` enqueues. -/
def sendPkg (connId : Glbconid) (chan : Glbchannel) (channelId : UInt8) (data : List UInt8)
    (now : ℕ) : Glbpkg :=
  let pkg := (glbpkgInit connId ctrlFlagData channelId).withSeqAck chan.seq chan.ack
  { pkg with
    header := { pkg.header with payloadLen := UInt16.ofNat data.length }
    data := data
    timestamp := glbtimeStart now 0
    retransmitCount := 0 }

/-- `glb_send`. A packet that does not fit consumes no sequence number. -/
def glbSend (info : Glbsendinfo cfg.connectionCount) (now : ℕ) :
    Option (GLBErrorCode × Glbctx cfg) :=
  match info.con, info.data with
  | some i, some data =>
    if data.length = 0 then some (.invalidArgument, ctx) else
    if h : info.channelId.toNat < cfg.channelCount then
      if data.length > gilbertaMtu then
        some (.messageTooLong, { ctx with error := .messageTooLong })
      else if (ctx.connections i).state ≠ .established then some (.connectionClosed, ctx)
      else
        (ctx.connections i).channels.map fun chs ↦
          let c : Fin cfg.channelCount := ⟨info.channelId.toNat, h⟩
          let chan := chs.chan c
          let pkg := sendPkg (ctx.connections i).connId chan info.channelId data now
          match chan.sQueue.push pkg with
          | (.queueFull, _) => (.queueFull, ctx)
          | (_, q) => (.success, ctx.setChan i c { chan with sQueue := q, seq := chan.seq + 1 })
    else some (.invalidArgument, ctx)
  | _, _ => some (.invalidArgument, ctx)

/-! ### Polling -/

/-- `glb_pollevent`, with the event it copies out. -/
def glbPollevent : GLBErrorCode × Option (Glbevent cfg.connectionCount) × Glbctx cfg :=
  if ctx.eventqueue.elems.length ≠ 0 then
    let (_, ev, q) := ctx.eventqueue.pop
    (.success, ev, { ctx with eventqueue := q })
  else (.queueEmpty, none, ctx)

/-- `glb_popdata`, with the bytes it copies out. The channel array is followed without a
check. -/
def glbPopdata (info : Glbrecvinfo cfg.connectionCount) :
    Option (GLBErrorCode × List UInt8 × Glbctx cfg) :=
  match info.con with
  | none => some (.invalidArgument, [], ctx)
  | some i =>
    if !info.hasBuffer || info.buflen = 0 then some (.invalidArgument, [], ctx) else
    if h : info.channelId.toNat < cfg.channelCount then
      (ctx.connections i).channels.map fun chs ↦
        let c : Fin cfg.channelCount := ⟨info.channelId.toNat, h⟩
        let chan := chs.chan c
        match chan.rQueue.peek with
        | (.success, some pkg) =>
          if info.buflen < pkg.header.payloadLen.toNat then (.invalidArgument, [], ctx)
          else (.success, pkg.data, ctx.setChan i c { chan with rQueue := chan.rQueue.pop.2.2 })
        | _ => (.queueEmpty, [], ctx)
    else some (.invalidArgument, [], ctx)

/-- `glb_getconinfo`, on the slot `con` points to and on whether `info` is not `NULL`. -/
def glbGetconinfo (con : Option (Fin cfg.connectionCount)) (hasInfo : Bool) :
    GLBErrorCode × Option Glbconinfo :=
  match con with
  | none => (.invalidArgument, none)
  | some i =>
    if !hasInfo then (.invalidArgument, none) else
    let con := ctx.connections i
    (.success, some
      { channelCount := UInt8.ofNat cfg.channelCount
        state := con.state
        inetPort := htons con.peerAddr.sinPort
        rtt := con.rtt
        loss := con.lossCount
        desync := con.desyncCount
        inetAddr := inetNtop con.peerAddr.sinAddr })

/-! ### The tick -/

/-- The receive loop of `glb_tick`, over the results of the successive `glbio_read` calls, each
with its surroundings; past the end of the list nothing is there. `count` is `recv_limit`. -/
def recvLoop : List (ReadResult × Env) → ℕ → Glbctx cfg → Option (Glbctx cfg)
  | [], _, ctx => some ctx
  | (r, env) :: rs, count, ctx =>
    if count ≥ glbRecvLimitPerTick then some ctx else
    match r with
    | .empty => some ctx
    | .error => recvLoop rs count { ctx with error := .recvFailed }
    | .invalid => recvLoop rs count ctx
    | .packet pkg from_ => (ctx.handlePacket pkg from_ env).bind (recvLoop rs (count + 1))

/-- `glb_tick`: the receive loop, then the timers of every slot. -/
def glbTick (reads : List (ReadResult × Env)) (envs : Fin cfg.connectionCount → Env) :
    Option (Glbctx cfg) :=
  (recvLoop reads 0 ctx).bind fun ctx ↦
    (List.finRange cfg.connectionCount).foldlM (fun ctx i ↦ ctx.handleTimers i (envs i)) ctx

end Glbctx

/-! ### Two small configurations -/

/-- A client with one reliable channel. -/
def Glbcfg.sampleClient : Glbcfg where
  inetAddr := some 0x0100007F
  port := 4444
  flags := 0
  channels := [⟨0, channelFlagReliable⟩]
  eventqueueLength := 0
  maxConnections := 0
  self := 0
  channels_pos := by decide
  channels_lt := by decide

/-- A server with two slots and one reliable channel. -/
def Glbcfg.sampleServer : Glbcfg where
  inetAddr := some 0
  port := 4444
  flags := flagBindPort
  channels := [⟨0, channelFlagReliable⟩]
  eventqueueLength := 0
  maxConnections := 2
  self := 0
  channels_pos := by decide
  channels_lt := by decide

/-- The address of a peer. -/
def Glbaddr.samplePeer : Glbaddr := ⟨0x0100007F, 0x1234⟩

/-- A message of one byte on channel 0. -/
def Glbpkg.sampleData (connId : Glbconid) (seq : UInt32) : Glbpkg :=
  let pkg := (glbpkgInit connId ctrlFlagData 0).withSeqAck seq 0
  { pkg with header := { pkg.header with payloadLen := 1 }, data := [0] }

/-! ### Runs -/

/-- One step of a run: a public call, or a part of a `glb_tick`. -/
inductive Op (cfg : Glbcfg)
  | connect (now : ℕ)
  | close (i : Fin cfg.connectionCount) (now : ℕ)
  | send (info : Glbsendinfo cfg.connectionCount) (now : ℕ)
  | pollevent
  | popdata (info : Glbrecvinfo cfg.connectionCount)
  | readError
  | packet (pkg : Glbpkg) (from_ : Glbaddr) (env : Env)
  | timers (i : Fin cfg.connectionCount) (env : Env)

namespace Glbctx

/-- The effect of one step; `none` when the step has undefined behaviour. -/
def step (ctx : Glbctx cfg) : Op cfg → Option (Glbctx cfg)
  | .connect now => (ctx.glbConnect now).map Prod.snd
  | .close i now => some (ctx.glbClose i now).2
  | .send info now => (ctx.glbSend info now).map Prod.snd
  | .pollevent => some ctx.glbPollevent.2.2
  | .popdata info => (ctx.glbPopdata info).map fun r ↦ r.2.2
  | .readError => some { ctx with error := .recvFailed }
  | .packet pkg from_ env => ctx.handlePacket pkg from_ env
  | .timers i env => ctx.handleTimers i env

/-- The transition relation of a context. -/
def Step (ctx : Glbctx cfg) (op : Op cfg) (ctx' : Glbctx cfg) : Prop := ctx.step op = some ctx'

/-- One transition of a run: the context before, the step, the context after. -/
abbrev Transition (cfg : Glbcfg) := Glbctx cfg × Op cfg × Glbctx cfg

end Glbctx

/-- The caller's part: `glb_connect` only while slot 0 is closed. -/
def Op.Allowed (ctx : Glbctx cfg) : Op cfg → Prop
  | .connect _ => ∀ i : Fin cfg.connectionCount, i.val = 0 → (ctx.connections i).state = .closed
  | _ => True

instance (ctx : Glbctx cfg) : (op : Op cfg) → Decidable (op.Allowed ctx)
  | .connect _ => inferInstanceAs (Decidable
      (∀ i : Fin cfg.connectionCount, i.val = 0 → (ctx.connections i).state = .closed))
  | .close _ _ | .send _ _ | .pollevent | .popdata _ | .readError | .packet _ _ _ | .timers _ _ =>
    inferInstanceAs (Decidable True)

namespace Glbctx

/-- A run of a context from its creation on. -/
abbrev Run (ts : List (Transition cfg)) (ctx : Glbctx cfg) : Prop :=
  Execution Step (init cfg) ts ctx

/-- A list of steps performed on a fresh context is a run. -/
theorem run_of_perform {ops : List (Op cfg)} {r : List (Transition cfg) × Glbctx cfg}
    (h : Execution.perform step ops (init cfg) = some r) : Run r.1 r.2 :=
  Execution.nil.append_perform h

/-! ### A tick is a run of its parts -/

theorem recvLoop_execution {s : Glbctx cfg} (rs : List (ReadResult × Env)) (count : ℕ) :
    ∀ {ts : List (Transition cfg)} {ctx ctx' : Glbctx cfg}, Execution Step s ts ctx →
      recvLoop rs count ctx = some ctx' → ∃ ts', Execution Step s ts' ctx' := by
  induction rs generalizing count with
  | nil =>
    intro ts ctx ctx' hrun h
    cases h
    exact ⟨ts, hrun⟩
  | cons r rs ih =>
    intro ts ctx ctx' hrun h
    obtain ⟨r, env⟩ := r
    by_cases hlimit : count ≥ glbRecvLimitPerTick
    · simp only [recvLoop, hlimit, if_true] at h
      cases h
      exact ⟨ts, hrun⟩
    simp only [recvLoop, hlimit, if_false] at h
    cases r with
    | empty =>
      cases h
      exact ⟨ts, hrun⟩
    | error =>
      have hstep : Step ctx .readError { ctx with error := .recvFailed } := rfl
      exact ih count (hrun.snoc hstep) h
    | invalid => exact ih count hrun h
    | packet pkg from_ =>
      obtain ⟨ctx₁, h₁, h₂⟩ := Option.bind_eq_some_iff.1 h
      have hstep : Step ctx (.packet pkg from_ env) ctx₁ := h₁
      exact ih (count + 1) (hrun.snoc hstep) h₂

theorem timersLoop_execution {s : Glbctx cfg} (envs : Fin cfg.connectionCount → Env)
    (is : List (Fin cfg.connectionCount)) :
    ∀ {ts : List (Transition cfg)} {ctx ctx' : Glbctx cfg}, Execution Step s ts ctx →
      is.foldlM (fun ctx i ↦ ctx.handleTimers i (envs i)) ctx = some ctx' →
      ∃ ts', Execution Step s ts' ctx' := by
  induction is with
  | nil =>
    intro ts ctx ctx' hrun h
    cases h
    exact ⟨ts, hrun⟩
  | cons i is ih =>
    intro ts ctx ctx' hrun h
    rw [List.foldlM_cons] at h
    obtain ⟨ctx₁, h₁, h₂⟩ := Option.bind_eq_some_iff.1 h
    have hstep : Step ctx (.timers i (envs i)) ctx₁ := h₁
    exact ih (hrun.snoc hstep) h₂

/-- **A whole `glb_tick` is a run of its parts**: the packets it handles, then the timers of every
slot. -/
theorem glbTick_execution {s ctx ctx' : Glbctx cfg} {ts : List (Transition cfg)}
    {reads : List (ReadResult × Env)} {envs : Fin cfg.connectionCount → Env}
    (hrun : Execution Step s ts ctx) (h : ctx.glbTick reads envs = some ctx') :
    ∃ ts', Execution Step s ts' ctx' := by
  obtain ⟨ctx₁, h₁, h₂⟩ := Option.bind_eq_some_iff.1 h
  obtain ⟨ts₁, hrun₁⟩ := recvLoop_execution reads 0 hrun h₁
  exact timersLoop_execution envs _ hrun₁ h₂

end Glbctx

end Gilberta
