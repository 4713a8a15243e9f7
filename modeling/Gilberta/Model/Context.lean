import Gilberta.Model.Data

/-!
# Context management

`context.c` and the send half of `glbio.c`: finding and filling slots, generating ids and sequence
numbers, building and freeing channel arrays, and handing a packet to the socket.

What the surroundings decide is an `Env`: the clock, whether `sendto` takes a whole datagram, and
whether the allocator satisfies a request. A function that reads one of them more than once asks
by position, so the answers are independent of each other.

A function that would follow a `NULL` channel array has no result (`none`).
-/

namespace Gilberta

/-- What the surroundings answer while one packet or one slot is processed: the `k`-th clock
reading, the `k`-th `sendto` and the `k`-th allocation. -/
structure Env where
  /-- Milliseconds, as read by `timer_get_current_ms`. -/
  clock : ℕ → ℕ
  /-- Whether `sendto` takes the whole datagram. -/
  sendOk : ℕ → Bool
  /-- Whether the allocation succeeds. -/
  mallocOk : ℕ → Bool

/-- `glbtime_start`: the deadline `interval` milliseconds after the clock reading `now`. -/
def glbtimeStart (now interval : ℕ) : ℕ := now + interval

/-- `glbtime_isexpired`; a deadline of zero was never started. -/
def glbtimeIsexpired (ts now : ℕ) : Bool := ts != 0 && decide (ts ≤ now)

/-! ### Packets -/

/-- `glbpkg_init`. The payload becomes empty with `payload_len`. -/
def glbpkgInit (connId : Glbconid) (ctrlFlags channel : UInt8) : Glbpkg where
  header :=
    { magic := gilbertaProtoMagic
      payloadLen := 0
      version := gilbertaProtoVersion
      channelId := channel
      chanFlags := 0
      ctrlFlags := ctrlFlags
      clientGen := connId.generation
      clientId := connId.id
      checksum := 0xFFFF
      wnd := 0
      seq := 0
      ack := 0 }
  data := []
  timestamp := 0
  retransmitCount := 0

/-- The two assignments that follow `glbpkg_init` in most handlers. -/
def Glbpkg.withSeqAck (p : Glbpkg) (seq ack : UInt32) : Glbpkg :=
  { p with header := { p.header with seq := seq, ack := ack } }

/-- The checksum `glbio_send` writes into the packet it is given. -/
def Glbpkg.seal (p : Glbpkg) : Glbpkg :=
  { p with header := { p.header with checksum := crc16ModbusFast p.data } }

/-! ### Queues in memory -/

/-- `glbqueue_init`. -/
def glbqueueInit {α : Type} (a : Allocator) (ok : Bool) (capacity : ℕ) :
    Allocator × Option (Glbqueue α) :=
  if capacity = 0 then (a, none) else
  match a.malloc ok with
  | (a, none) => (a, none)
  | (a, some b) => (a, some { BoundedQueue.empty capacity with block := b })

/-- `glbqueue_free`, on the block of a queue or on `NULL`. -/
def glbqueueFree (a : Allocator) : Option Block → Allocator
  | none => a
  | some b => a.free b

namespace Glbqueue

variable {α : Type} (q : Glbqueue α)

/-- `glbqueue_push`. -/
def push (x : α) : GLBErrorCode × Glbqueue α :=
  match q.push? x with
  | none => (.queueFull, q)
  | some q' => (.success, { q' with block := q.block })

/-- `glbqueue_pop`, with the element it copies out. -/
def pop : GLBErrorCode × Option α × Glbqueue α :=
  match q.pop? with
  | none => (.queueEmpty, none, q)
  | some (x, q') => (.success, some x, { q' with block := q.block })

/-- `glbqueue_peek`: the element the returned pointer points to. -/
def peek : GLBErrorCode × Option α :=
  match q.elems with
  | [] => (.queueEmpty, none)
  | x :: _ => (.success, some x)

/-- Writing through the pointer `glbqueue_peek` returned. -/
def writeHead (f : α → α) : Glbqueue α := { q.modifyHead f with block := q.block }

end Glbqueue

/-! ### Channel arrays -/

namespace Glbchannels

variable {m : ℕ}

/-- The blocks of an array's queues, in the order they are freed. -/
def queueBlocks (chs : Glbchannels m) : List Block :=
  (List.finRange m).flatMap fun c ↦ [(chs.chan c).sQueue.block, (chs.chan c).rQueue.block]

/-- Every block an array owns, in the order they are freed. -/
def blocks (chs : Glbchannels m) : List Block := chs.queueBlocks ++ [chs.block]

/-- Overwrite one entry. -/
def set (chs : Glbchannels m) (c : Fin m) (chan : Glbchannel) : Glbchannels m where
  block := chs.block
  chan d := if d = c then chan else chs.chan d

end Glbchannels

/-- The cleanup loop of `glbctx_createconchannels` over the entries that are complete. -/
def freeQueues (a : Allocator) (built : List Glbchannel) : Allocator :=
  built.foldl (fun a chan ↦ (a.free chan.sQueue.block).free chan.rQueue.block) a

/-- The building loop of `glbctx_createconchannels`: `built` are the entries done so far and `k`
is the number of the next allocation. A failure frees what was built, the failing entry
included. `glbctx_writeack` fills the counters in before anything reads them. -/
def buildChannels (ok : ℕ → Bool) :
    List Glbchan → ℕ → List Glbchannel → Allocator → Allocator × Option (List Glbchannel)
  | [], _, built, a => (a, some built)
  | config :: configs, k, built, a =>
    let (a, s) := glbqueueInit a (ok k) channelQueueSize
    let (a, r) := glbqueueInit a (ok (k + 1)) channelQueueSize
    match s, r with
    | some s, some r =>
      buildChannels ok configs (k + 2)
        (built ++ [{ sQueue := s, rQueue := r, seq := 0, ack := 0, flags := config.flags,
                     priority := config.priority }]) a
    | s, r =>
      (glbqueueFree (glbqueueFree (freeQueues a built) (s.map Glbqueue.block))
        (r.map Glbqueue.block), none)

namespace Glbctx

variable {cfg : Glbcfg} (ctx : Glbctx cfg)

/-- Overwrite one slot. -/
def setCon (i : Fin cfg.connectionCount) (con : Glbconn cfg) : Glbctx cfg :=
  { ctx with connections := fun j ↦ if j = i then con else ctx.connections j }

/-- `glbqueue_push(ctx->eventqueue, &event)`, its result ignored as everywhere in the source. -/
def pushEvent (ev : Glbevent cfg.connectionCount) : Glbctx cfg :=
  { ctx with eventqueue := (ctx.eventqueue.push ev).2, offered := ctx.offered ++ [ev] }

/-- `glbio_send`. -/
def glbioSend (pkg : Glbpkg) (dest : Glbaddr) (ok : Bool) : GLBErrorCode × Glbctx cfg :=
  if ok then (.success, { ctx with sock := ctx.sock ++ [⟨pkg.seal, dest⟩] })
  else (.sendFailed, { ctx with error := .sendFailed })

/-- `glbctx_createconchannels`. -/
def createConChannels (i : Fin cfg.connectionCount) (env : Env) : GLBErrorCode × Glbctx cfg :=
  let con := ctx.connections i
  match ctx.allocator.malloc (env.mallocOk 0) with
  | (a, none) =>
    (.outOfMemory, { ctx.setCon i { con with channels := none } with allocator := a })
  | (a, some b) =>
    match buildChannels env.mallocOk cfg.channels 1 [] a with
    | (a, some built) =>
      (.success, { ctx.setCon i { con with channels := some ⟨b, fun c ↦ built.getD c default⟩ } with
        allocator := a })
    | (a, none) =>
      (.outOfMemory, { ctx.setCon i { con with channels := none } with allocator := a.free b })

/-- `glbctx_freeconchannels`. -/
def freeConChannels (i : Fin cfg.connectionCount) : GLBErrorCode × Glbctx cfg :=
  let con := ctx.connections i
  match con.channels with
  | none => (.invalidArgument, ctx)
  | some chs =>
    (.success, { ctx.setCon i { con with channels := none } with
      allocator := ctx.allocator.freeAll chs.blocks })

/-- `glbctx_generateclientid`, writing into the id of a slot. -/
def generateClientId (i : Fin cfg.connectionCount) : Glbctx cfg :=
  let con := ctx.connections i
  let dst : Glbconid := { generation := ctx.clientGen, id := ctx.clientId }
  let clientId := ctx.clientId + 1
  if clientId = 0xFFFF then
    { ctx.setCon i { con with connId := { dst with generation := dst.generation + 1 } } with
      clientId := 0 }
  else
    { ctx.setCon i { con with connId := dst } with clientId := clientId }

/-- `glbctx_findemptyconn`: the first closed slot, which it resets. -/
def findEmptyConn : Option (Fin cfg.connectionCount × Glbctx cfg) :=
  ((List.finRange cfg.connectionCount).find? fun i ↦ (ctx.connections i).state = .closed).map
    fun i ↦ (i, ctx.setCon i { ctx.connections i with
      connId := ⟨0, 0⟩, retry := 0, channels := none, time := 0 })

/-- `glbctx_findconn`: the first slot with the given id. -/
def findConn (gen id : UInt16) : Option (Fin cfg.connectionCount) :=
  (List.finRange cfg.connectionCount).find? fun i ↦
    (ctx.connections i).connId.generation = gen ∧ (ctx.connections i).connId.id = id

/-- `glbctx_findconnbyaddr`: the first slot with the given peer address. -/
def findConnByAddr (addr : Glbaddr) : Option (Fin cfg.connectionCount) :=
  (List.finRange cfg.connectionCount).find? fun i ↦
    (ctx.connections i).peerAddr.sinAddr = addr.sinAddr ∧
      (ctx.connections i).peerAddr.sinPort = addr.sinPort

/-- The sequence number `glbctx_generateseq` makes; it depends on the context alone. -/
def initialSeq (cfg : Glbcfg) : UInt32 := cfg.self ^^^ 0xA5A5A5A5

/-- `glbctx_generateseq`. -/
def generateSeq (i : Fin cfg.connectionCount) (ack : UInt32) : Glbctx cfg :=
  ctx.setCon i { ctx.connections i with seq := initialSeq cfg, ack := ack }

/-- `glbctx_writeack`; it follows the channel array without a check. -/
def writeAck (i : Fin cfg.connectionCount) (ack : UInt32) : Option (Glbctx cfg) :=
  let con := ctx.connections i
  con.channels.map fun chs ↦
    ctx.setCon i { con with
      channels := some { chs with chan := fun c ↦ { chs.chan c with seq := con.seq, ack := ack } } }

end Glbctx

/-- `glbctx_addrequal`. -/
def glbctxAddrequal (a b : Glbaddr) : GLBErrorCode :=
  if a.sinAddr = b.sinAddr ∧ a.sinPort = b.sinPort then .success else .unknown

end Gilberta
