import Gilberta.Foundations.Allocator
import Gilberta.Foundations.BoundedQueue
import Gilberta.Model.Crc16

/-!
# The data of the library

The structures of `libgilberta.h`, `glbio.h` and `context.h`, and the constants they come with.

Three decisions shape the rest of the development:

* a context is indexed by its validated configuration `Glbcfg`, which holds everything
  `glbctx_create` fixes for good: the number of slots, the channel table, the event queue length,
  the server address and the low half of the context's own address, from which sequence numbers
  are made. What a `Glbctx` holds is exactly what changes;
* a pointer to a slot is a `Fin cfg.connectionCount` and a channel array, once built, has
  `cfg.channelCount` entries by its type. A `NULL` channel array is `none`;
* memory is tracked as blocks of an `Allocator`, and a queue or a channel array knows the block it
  lives in.

Timestamps are natural numbers of milliseconds: the 64-bit clock of the source does not wrap.
Everything else keeps the source's width. Padding, the send limit that nothing reads and the log
callback are left out.
-/

namespace Gilberta

/-! ### Codes -/

/-- `GLBErrorCode`. -/
inductive GLBErrorCode
  | success
  | unknown
  | invalidArgument
  | outOfMemory
  | queueFull
  | queueEmpty
  | messageTooLong
  | socketCreation
  | socketBinding
  | connectionClosed
  | sendFailed
  | recvFailed
  deriving DecidableEq, Repr

/-- `GLBConnState`. -/
inductive GLBConnState
  /-- Connection not established. -/
  | closed
  /-- Connection is active. -/
  | established
  /-- SYN sent, waiting for SYN-ACK (client). -/
  | synSent
  /-- SYN received, SYN-ACK sent (server). -/
  | synRcvd
  /-- FIN sent, waiting for FIN-ACK. -/
  | finSent
  deriving DecidableEq, Repr

/-- `glb_disconnectreason_t`. -/
inductive GlbDisconnectReason
  | byPeer
  | timeout
  | reset
  deriving DecidableEq, Repr

/-! ### Constants -/

/-- `GLB_FLAG_BIND_PORT`: server mode. -/
def flagBindPort : UInt8 := 0x01

/-- `GLB_CHANNEL_FLAG_RELIABLE`. -/
def channelFlagReliable : UInt8 := 0x01

/-- `GILBERTA_MTU`. -/
def gilbertaMtu : ℕ := 1024

/-- `GILBERTA_PROTO_MAGIC`. -/
def gilbertaProtoMagic : UInt16 := 0x4247

/-- `GILBERTA_PROTO_VERSION`. -/
def gilbertaProtoVersion : UInt8 := 1

/-- `GLB_CTRL_FLAG_SYN`. -/
def ctrlFlagSyn : UInt8 := 0x01

/-- `GLB_CTRL_FLAG_ACK`. -/
def ctrlFlagAck : UInt8 := 0x02

/-- `GLB_CTRL_FLAG_PING`. -/
def ctrlFlagPing : UInt8 := 0x04

/-- `GLB_CTRL_FLAG_PONG`. -/
def ctrlFlagPong : UInt8 := 0x08

/-- `GLB_CTRL_FLAG_DATA`. -/
def ctrlFlagData : UInt8 := 0x10

/-- `GLB_CTRL_FLAG_FIN`. -/
def ctrlFlagFin : UInt8 := 0x40

/-- `GLB_CTRL_FLAG_RST`. -/
def ctrlFlagRst : UInt8 := 0x80

/-- `GLB_MAX_RETRY`. -/
def glbMaxRetry : ℕ := 5

/-- `GLB_RETRY_TIMEOUT`, in milliseconds. -/
def glbRetryTimeout : ℕ := 100

/-- `GLB_RECV_LIMIT_PER_TICK`. -/
def glbRecvLimitPerTick : ℕ := 16

/-- `GLB_RETRANSMISSION_TIMEOUT`, in milliseconds. -/
def glbRetransmissionTimeout : ℕ := 100

/-- `GLB_KEEPALIVE_RETRY`. -/
def glbKeepaliveRetry : ℕ := 8

/-- `GLB_KEEPALIVE_TIME`, in milliseconds. -/
def glbKeepaliveTime : ℕ := 200

/-- The capacity of a channel's queues, a literal in `glbctx_createconchannels`. -/
def channelQueueSize : ℕ := 32

/-! ### Addresses and packets -/

/-- `glbaddr_t`: the two fields of `sockaddr_in` the library reads, in network byte order. -/
structure Glbaddr where
  /-- IPv4 address. -/
  sinAddr : UInt32
  /-- Port. -/
  sinPort : UInt16
  deriving DecidableEq, Repr

/-- `htons` on a little-endian host. -/
def htons (x : UInt16) : UInt16 := (x <<< 8) ||| (x >>> 8)

/-- `glbconid_t`. -/
structure Glbconid where
  /-- Unique client ID. -/
  id : UInt16
  /-- Generation. -/
  generation : UInt16
  deriving DecidableEq, Repr

/-- `glbpkgheader`. -/
structure Glbpkgheader where
  /-- Magic number. -/
  magic : UInt16
  /-- Payload length. -/
  payloadLen : UInt16
  /-- Protocol version. -/
  version : UInt8
  /-- Channel ID. -/
  channelId : UInt8
  /-- Channel flags. -/
  chanFlags : UInt8
  /-- Control flags. -/
  ctrlFlags : UInt8
  /-- Client ID generation. -/
  clientGen : UInt16
  /-- Client ID, `0xFFFF` for initiation. -/
  clientId : UInt16
  /-- CRC16 Modbus of the payload. -/
  checksum : UInt16
  /-- Window size. -/
  wnd : UInt16
  /-- Sequence number. -/
  seq : UInt32
  /-- Acknowledgment number. -/
  ack : UInt32
  deriving DecidableEq, Repr

/-- `glbpkg`. Of the 1024 bytes of `data` only the payload, the first `payload_len` of them, is
ever sent, checked or copied out, so the payload is what the model keeps. -/
structure Glbpkg where
  /-- Packet header. -/
  header : Glbpkgheader
  /-- Payload. -/
  data : List UInt8
  /-- Receipt time, or the retransmission deadline of a queued packet. -/
  timestamp : ℕ
  /-- Number of retransmissions. -/
  retransmitCount : UInt64
  deriving DecidableEq, Repr

/-- The connection a packet names. -/
def Glbpkg.conId (p : Glbpkg) : Glbconid := ⟨p.header.clientId, p.header.clientGen⟩

/-! ### Configuration -/

/-- `glbchan_t`. -/
structure Glbchan where
  /-- Channel priority. -/
  priority : UInt8
  /-- Combination of `GLB_CHANNEL_FLAG_*`. -/
  flags : UInt8
  deriving DecidableEq, Repr

/-- What `glbctx_create` fixes for the life of a context. -/
structure Glbcfg where
  /-- What `inet_pton` makes of the configured address; `none` when it is not a dotted quad. -/
  inetAddr : Option UInt32
  /-- Port, in host byte order. -/
  port : UInt16
  /-- Combination of `GLB_FLAG_*`. -/
  flags : UInt8
  /-- Channel configurations. -/
  channels : List Glbchan
  /-- Event queue length; zero stands for 1024. -/
  eventqueueLength : UInt16
  /-- Maximal number of connections of a server. -/
  maxConnections : UInt16
  /-- The low 32 bits of the context's own address, the source of sequence numbers. -/
  self : UInt32
  /-- `glbctx_create` refuses a configuration without channels. -/
  channels_pos : 0 < channels.length
  /-- `channel_count` is a `uint8_t`. -/
  channels_lt : channels.length < 256

namespace Glbcfg

variable (cfg : Glbcfg)

/-- `channel_count`. -/
def channelCount : ℕ := cfg.channels.length

/-- Server mode. -/
def isServer : Bool := cfg.flags &&& flagBindPort != 0

/-- `connection_count`: a client has a single connection. -/
def connectionCount : ℕ := if cfg.isServer then cfg.maxConnections.toNat else 1

/-- The capacity of the event queue. -/
def eventCapacity : ℕ :=
  if cfg.eventqueueLength = 0 then 1024 else cfg.eventqueueLength.toNat

/-- The first channel, which every configuration has. -/
def channel0 : Fin cfg.channelCount := ⟨0, cfg.channels_pos⟩

end Glbcfg

/-! ### Channels, connections, events -/

/-- `glbqueue`, at the level of its elements: a bounded queue in a block of its own. -/
structure Glbqueue (α : Type) extends BoundedQueue α where
  /-- The block the queue lives in. -/
  block : Block
  deriving Inhabited

/-- `glbchannel_t`. Both queues of a channel that survives `glbctx_createconchannels` exist. -/
structure Glbchannel where
  /-- Send queue. -/
  sQueue : Glbqueue Glbpkg
  /-- Receive queue. -/
  rQueue : Glbqueue Glbpkg
  /-- Current sequence number (for sending). -/
  seq : UInt32
  /-- Expected acknowledgment number (for receiving). -/
  ack : UInt32
  /-- Combination of `GLB_CHANNEL_FLAG_*`. -/
  flags : UInt8
  /-- Channel priority. -/
  priority : UInt8
  deriving Inhabited

/-- `chan->flags & GLB_CHANNEL_FLAG_RELIABLE`. -/
def Glbchannel.reliable (chan : Glbchannel) : Bool := chan.flags &&& channelFlagReliable != 0

/-- A channel array: its block and its `m` entries. -/
structure Glbchannels (m : ℕ) where
  /-- The block the array lives in. -/
  block : Block
  /-- The entries. -/
  chan : Fin m → Glbchannel

/-- `glbconn_t`. -/
structure Glbconn (cfg : Glbcfg) where
  /-- Peer address. -/
  peerAddr : Glbaddr
  /-- Peer's logical ID. -/
  connId : Glbconid
  /-- Current state. -/
  state : GLBConnState
  /-- Handshake retry counter. -/
  retry : UInt8
  /-- Keepalive retry counter. -/
  keepaliveRetry : UInt8
  /-- Count of lost packets. -/
  lossCount : UInt32
  /-- Count of DESYNC events. -/
  desyncCount : UInt32
  /-- Round-trip time. -/
  rtt : UInt32
  /-- Sequence number to initialize the connection. -/
  seq : UInt32
  /-- Acknowledgment number to initialize the connection. -/
  ack : UInt32
  /-- Array of channels, `none` for `NULL`. -/
  channels : Option (Glbchannels cfg.channelCount)
  /-- Handshake and close deadline, zero when not started. -/
  time : ℕ
  /-- Keepalive deadline, zero when not started. -/
  keepalive : ℕ

/-- `glbevent_t` over `n` slots: the event type and the member of the union it selects. -/
inductive Glbevent (n : ℕ)
  | connect (connection : Fin n)
  | disconnect (connection : Fin n) (reason : GlbDisconnectReason)
  | receive (connection : Fin n) (channel : UInt8)
  | migration (connection : Fin n)
  | stalled (connection : Fin n) (seq : UInt32)
  deriving DecidableEq, Repr

/-- The slot an event is about. -/
def Glbevent.connection {n : ℕ} : Glbevent n → Fin n
  | connect i | disconnect i _ | receive i _ | migration i | stalled i _ => i

/-- A datagram handed to `sendto`, with its destination. -/
structure Datagram where
  /-- The packet. -/
  pkg : Glbpkg
  /-- The destination. -/
  dest : Glbaddr

/-- `glbctx_t`, without what its configuration fixes. -/
structure Glbctx (cfg : Glbcfg) where
  /-- The block the context lives in. -/
  block : Block
  /-- The allocator behind `ctx->allocator`. -/
  allocator : Allocator
  /-- The socket, as the datagrams it has accepted for sending, oldest first. -/
  sock : List Datagram
  /-- Event queue for the user. -/
  eventqueue : Glbqueue (Glbevent cfg.connectionCount)
  /-- History variable: every event the library has offered to the event queue, oldest first. -/
  offered : List (Glbevent cfg.connectionCount)
  /-- Array of connections. -/
  connections : Fin cfg.connectionCount → Glbconn cfg
  /-- Last error code. -/
  error : GLBErrorCode
  /-- Current client ID generation. -/
  clientGen : UInt16
  /-- Current client ID. -/
  clientId : UInt16

end Gilberta
