import Gilberta.Model.Context

/-!
# One tick of network processing

`glb_tick`, cut where the source cuts it: one definition per branch of the receive loop, in the
order in which the source tests `ctrl_flags` (`handlePacket`), and one pass of the timer loop over
one slot (`handleTimers`). `glbTick` puts them together.

Within a branch the statements keep their order. `none` is a dereference of a `NULL` channel array
or of a slot the context does not have.
-/

namespace Gilberta

/-- `SYN | ACK`. -/
def ctrlFlagSynAck : UInt8 := ctrlFlagSyn ||| ctrlFlagAck

/-- `FIN | ACK`. -/
def ctrlFlagFinAck : UInt8 := ctrlFlagFin ||| ctrlFlagAck

/-- `DATA | ACK`. -/
def ctrlFlagDataAck : UInt8 := ctrlFlagData ||| ctrlFlagAck

namespace Glbctx

variable {cfg : Glbcfg} (ctx : Glbctx cfg)

/-! ### The handshake branches -/

/-- The end of the SYN branch: open the slot, or leave an established connection alone. -/
def openSyn (i : Fin cfg.connectionCount) (from_ : Glbaddr) (env : Env) : Glbctx cfg :=
  let con := ctx.connections i
  if con.state = .established then ctx else
  ctx.setCon i { con with
    state := .synRcvd
    retry := 0
    rtt := 0
    lossCount := 0
    peerAddr := from_
    time := glbtimeStart (env.clock 0) 0 }

/-- SYN: reopen the slot of this address, or open the first closed one under a fresh id, or
answer that the server is full. -/
def onSyn (pkg : Glbpkg) (from_ : Glbaddr) (env : Env) : Glbctx cfg :=
  match ctx.findConnByAddr from_ with
  | some i => ctx.openSyn i from_ env
  | none =>
    match ctx.findEmptyConn with
    | none => (ctx.glbioSend (glbpkgInit ⟨0xFFFF, 0⟩ ctrlFlagRst 0) from_ (env.sendOk 0)).2
    | some (i, ctx) =>
      ((ctx.generateClientId i).generateSeq i pkg.header.seq).openSyn i from_ env

/-- ACK: a slot waiting for it becomes established. A sequence mismatch is only logged. -/
def onAck (pkg : Glbpkg) (env : Env) : Option (Glbctx cfg) :=
  match ctx.findConn pkg.header.clientGen pkg.header.clientId with
  | none => some ctx
  | some i =>
    if (ctx.connections i).state ≠ .synRcvd then some ctx else
    let ctx := ctx.setCon i { ctx.connections i with state := .established }
    let ctx := (ctx.createConChannels i env).2
    match ctx.writeAck i pkg.header.seq with
    | none => none
    | some ctx =>
      let ctx := ctx.pushEvent (.connect i)
      some (ctx.setCon i { ctx.connections i with
        keepaliveRetry := 0
        keepalive := glbtimeStart (env.clock 0) glbKeepaliveTime })

/-- The head of the SYN|ACK branch: a slot that waits for its id takes it from the packet. -/
def adoptConId (i : Fin cfg.connectionCount) (pkg : Glbpkg) : Glbctx cfg :=
  let con := ctx.connections i
  if con.state = .synSent then ctx.setCon i { con with connId := pkg.conId } else ctx

/-- The middle of the SYN|ACK branch: a slot that is not established, whatever its state, gets
channels and a CONNECT event. -/
def acceptSynAck (i : Fin cfg.connectionCount) (pkg : Glbpkg) (env : Env) :
    Option (Glbctx cfg) :=
  if (ctx.connections i).state = .established then some ctx else
  let ctx := (ctx.createConChannels i env).2
  let ctx := ctx.pushEvent (.connect i)
  let ctx := ctx.setCon i { ctx.connections i with
    keepaliveRetry := 0
    keepalive := glbtimeStart (env.clock 0) glbKeepaliveTime
    ack := pkg.header.seq }
  ctx.writeAck i pkg.header.seq

/-- The end of the SYN|ACK branch: send the ACK, with the counters of channel 0 as they are now,
and mark the slot established if that succeeds. -/
def replySynAck (i : Fin cfg.connectionCount) (env : Env) : Option (Glbctx cfg) :=
  let con := ctx.connections i
  con.channels.map fun chs ↦
    let chan := chs.chan cfg.channel0
    let reply := (glbpkgInit con.connId ctrlFlagAck 0).withSeqAck chan.seq chan.ack
    match ctx.glbioSend reply con.peerAddr (env.sendOk 0) with
    | (.success, ctx) => ctx.setCon i { con with state := .established }
    | (_, ctx) => ctx

/-- SYN|ACK: always about slot 0. A sequence mismatch is only logged. -/
def onSynAck (pkg : Glbpkg) (env : Env) : Option (Glbctx cfg) :=
  if h : 0 < cfg.connectionCount then
    let i : Fin cfg.connectionCount := ⟨0, h⟩
    ((ctx.adoptConId i pkg).acceptSynAck i pkg env).bind fun ctx ↦ ctx.replySynAck i env
  else none

/-! ### The closing branches -/

/-- What a closing branch does to a slot that is not closed: mark it, free its channels, report
it. -/
def closeCon (i : Fin cfg.connectionCount) (reason : GlbDisconnectReason) : Glbctx cfg :=
  let ctx := ctx.setCon i { ctx.connections i with state := .closed }
  let ctx := (ctx.freeConChannels i).2
  ctx.pushEvent (.disconnect i reason)

/-- FIN: answer, and if the answer went out close the slot unless it is closed. -/
def onFin (pkg : Glbpkg) (env : Env) : Glbctx cfg :=
  match ctx.findConn pkg.header.clientGen pkg.header.clientId with
  | none => ctx
  | some i =>
    let con := ctx.connections i
    match ctx.glbioSend (glbpkgInit con.connId ctrlFlagFinAck 0) con.peerAddr (env.sendOk 0) with
    | (.success, ctx) => if con.state ≠ .closed then ctx.closeCon i .byPeer else ctx
    | (_, ctx) => ctx

/-- FIN|ACK: close the slot unless it is closed. -/
def onFinAck (pkg : Glbpkg) : Glbctx cfg :=
  match ctx.findConn pkg.header.clientGen pkg.header.clientId with
  | none => ctx
  | some i => if (ctx.connections i).state ≠ .closed then ctx.closeCon i .byPeer else ctx

/-- RST: free the channels of an established slot; close the slot and report it, whatever its
state. -/
def onRst (pkg : Glbpkg) : Glbctx cfg :=
  match ctx.findConn pkg.header.clientGen pkg.header.clientId with
  | none => ctx
  | some i =>
    let ctx := if (ctx.connections i).state = .established then (ctx.freeConChannels i).2 else ctx
    let ctx := ctx.setCon i { ctx.connections i with state := .closed }
    ctx.pushEvent (.disconnect i .reset)

/-! ### The data branches -/

/-- Overwrite one channel of one slot; nothing when the slot has no channels. -/
def setChan (i : Fin cfg.connectionCount) (c : Fin cfg.channelCount) (chan : Glbchannel) :
    Glbctx cfg :=
  let con := ctx.connections i
  ctx.setCon i { con with channels := con.channels.map fun chs ↦ chs.set c chan }

/-- The DATA|ACK for sequence number `seq` on a channel. -/
def dataAckPkg (i : Fin cfg.connectionCount) (chan : Glbchannel) (channelId : UInt8)
    (seq : UInt32) : Glbpkg :=
  (glbpkgInit (ctx.connections i).connId ctrlFlagDataAck channelId).withSeqAck chan.seq seq

/-- The DATA branch once the sender's address is settled. On a reliable channel an old packet is
acknowledged again and a packet from the future is counted and dropped; what remains is stored,
acknowledged on a reliable channel, and announced. The results of the two pushes are ignored. -/
def receiveData (i : Fin cfg.connectionCount) (c : Fin cfg.channelCount) (chan : Glbchannel)
    (pkg : Glbpkg) (env : Env) : Glbctx cfg :=
  let con := ctx.connections i
  let reply := ctx.dataAckPkg i chan pkg.header.channelId pkg.header.seq
  if pkg.header.seq < chan.ack ∧ chan.reliable then
    (ctx.glbioSend reply con.peerAddr (env.sendOk 0)).2
  else if pkg.header.seq > chan.ack ∧ chan.reliable then
    ctx.setCon i { con with desyncCount := con.desyncCount + 1 }
  else
    let ctx := ctx.setChan i c
      { chan with rQueue := (chan.rQueue.push pkg).2, ack := chan.ack + 1 }
    let ctx := if chan.reliable then (ctx.glbioSend reply con.peerAddr (env.sendOk 0)).2 else ctx
    ctx.pushEvent (.receive i pkg.header.channelId)

/-- The DATA branch from the address check on: a packet from a new address is ignored unless it
is the next one of a reliable channel, and then the connection moves to that address. -/
def checkAddrData (i : Fin cfg.connectionCount) (c : Fin cfg.channelCount) (chan : Glbchannel)
    (pkg : Glbpkg) (from_ : Glbaddr) (env : Env) : Glbctx cfg :=
  if glbctxAddrequal (ctx.connections i).peerAddr from_ ≠ .success then
    if chan.reliable ∧ pkg.header.seq = chan.ack then
      let ctx := ctx.setCon i { ctx.connections i with peerAddr := from_ }
      (ctx.pushEvent (.migration i)).receiveData i c chan pkg env
    else ctx
  else ctx.receiveData i c chan pkg env

/-- The head of the DATA and DATA|ACK branches: find the established slot and the channel a packet
is for, following the channel array without a check. -/
def withChannel (pkg : Glbpkg)
    (k : Fin cfg.connectionCount → Fin cfg.channelCount → Glbchannel → Glbctx cfg) :
    Option (Glbctx cfg) :=
  match ctx.findConn pkg.header.clientGen pkg.header.clientId with
  | none => some ctx
  | some i =>
    if (ctx.connections i).state ≠ .established then some ctx else
    if h : pkg.header.channelId.toNat < cfg.channelCount then
      (ctx.connections i).channels.map fun chs ↦ k i ⟨_, h⟩ (chs.chan ⟨_, h⟩)
    else some ctx

/-- DATA. -/
def onData (pkg : Glbpkg) (from_ : Glbaddr) (env : Env) : Option (Glbctx cfg) :=
  ctx.withChannel pkg fun i c chan ↦ ctx.checkAddrData i c chan pkg from_ env

/-- DATA|ACK: drop the head of the send queue if its number is the acknowledged one. -/
def onDataAck (pkg : Glbpkg) : Option (Glbctx cfg) :=
  ctx.withChannel pkg fun i c chan ↦
    match chan.sQueue.peek with
    | (.success, some lpkg) =>
      if lpkg.header.seq = pkg.header.ack then
        ctx.setChan i c { chan with sQueue := chan.sQueue.pop.2.2 }
      else ctx
    | _ => ctx

/-! ### The keepalive branches -/

/-- PING: echo the two timestamp words to the sender, whoever it is. -/
def onPing (pkg : Glbpkg) (from_ : Glbaddr) (env : Env) : Glbctx cfg :=
  let reply := (glbpkgInit pkg.conId ctrlFlagPong pkg.header.channelId).withSeqAck
    pkg.header.seq pkg.header.ack
  (ctx.glbioSend reply from_ (env.sendOk 0)).2

/-- PONG: restart the keepalive and average the round-trip time. -/
def onPong (pkg : Glbpkg) (env : Env) : Glbctx cfg :=
  match ctx.findConn pkg.header.clientGen pkg.header.clientId with
  | none => ctx
  | some i =>
    let con := ctx.connections i
    let time : UInt64 := (pkg.header.seq.toUInt64 <<< 32) ||| pkg.header.ack.toUInt64
    let rtt := (UInt64.ofNat (glbtimeStart (env.clock 0) 0) - time).toUInt32
    ctx.setCon i { con with
      keepaliveRetry := 0
      rtt := (con.rtt + rtt) / 2
      keepalive := glbtimeStart (env.clock 1) glbKeepaliveTime }

/-- The body of the receive loop for a packet `glbio_read` accepted. -/
def handlePacket (pkg : Glbpkg) (from_ : Glbaddr) (env : Env) : Option (Glbctx cfg) :=
  let flags := pkg.header.ctrlFlags
  if flags = ctrlFlagSyn ∧ pkg.header.clientId = 0xFFFF then some (ctx.onSyn pkg from_ env)
  else if flags = ctrlFlagAck then ctx.onAck pkg env
  else if flags = ctrlFlagSynAck then ctx.onSynAck pkg env
  else if flags = ctrlFlagFin then some (ctx.onFin pkg env)
  else if flags = ctrlFlagFinAck then some (ctx.onFinAck pkg)
  else if flags = ctrlFlagData then ctx.onData pkg from_ env
  else if flags = ctrlFlagDataAck then ctx.onDataAck pkg
  else if flags = ctrlFlagPing then some (ctx.onPing pkg from_ env)
  else if flags = ctrlFlagPong then some (ctx.onPong pkg env)
  else if flags = ctrlFlagRst then some (ctx.onRst pkg)
  else some ctx

/-! ### The timers -/

/-- A handshake or close timer of a slot ran out with retries left: send the packet again and wait
longer. -/
def retrySend (i : Fin cfg.connectionCount) (pkg : Glbpkg) (env : Env) : Glbctx cfg :=
  let ctx := (ctx.glbioSend pkg (ctx.connections i).peerAddr (env.sendOk 0)).2
  let con := ctx.connections i
  ctx.setCon i { con with
    time := glbtimeStart (env.clock 1) (glbRetryTimeout * (con.retry.toNat + 1))
    retry := con.retry + 1 }

/-- What a transmission does to the packet at the head of a reliable channel's send queue. -/
def retransmitted (pkg : Glbpkg) (now : ℕ) : Glbpkg :=
  let pkg := pkg.seal
  let count := pkg.retransmitCount + 1
  { pkg with
    timestamp := glbtimeStart now glbRetransmissionTimeout
    retransmitCount := if count.toNat > glbMaxRetry then 0 else count }

/-- The bookkeeping after the head `pkg` of a reliable channel went out: it stays at the head, and
every sixth transmission counts as a loss and is reported. -/
def countTransmission (i : Fin cfg.connectionCount) (c : Fin cfg.channelCount)
    (chan : Glbchannel) (pkg : Glbpkg) (now : ℕ) : Glbctx cfg :=
  let ctx := ctx.setChan i c { chan with sQueue := chan.sQueue.writeHead (retransmitted · now) }
  if (pkg.retransmitCount + 1).toNat > glbMaxRetry then
    let con := ctx.connections i
    let ctx := ctx.setCon i { con with lossCount := con.lossCount + 1 }
    ctx.pushEvent (.stalled i pkg.header.seq)
  else ctx

/-- The data transmission of one channel. A packet of an unreliable channel is sent once; a packet
of a reliable channel stays until it is acknowledged. -/
def transmit (i : Fin cfg.connectionCount) (env : Env) (c : Fin cfg.channelCount) :
    Glbctx cfg :=
  match (ctx.connections i).channels with
  | none => ctx
  | some chs =>
    let chan := chs.chan c
    match chan.sQueue.peek with
    | (.success, some pkg) =>
      if glbtimeIsexpired pkg.timestamp (env.clock (2 * c + 2)) then
        let ctx := (ctx.glbioSend pkg (ctx.connections i).peerAddr (env.sendOk (c + 1))).2
        if !chan.reliable then
          ctx.setChan i c { chan with sQueue := chan.sQueue.pop.2.2 }
        else ctx.countTransmission i c chan pkg (env.clock (2 * c + 3))
      else ctx
    | _ => ctx

/-- The keepalive timer of an established slot. The clock readings come after those of the
channels. -/
def keepaliveTimer (i : Fin cfg.connectionCount) (env : Env) : Glbctx cfg :=
  let con := ctx.connections i
  let k := 2 * cfg.channelCount + 2
  if glbtimeIsexpired con.keepalive (env.clock k) then
    if con.keepaliveRetry.toNat > glbKeepaliveRetry then ctx.closeCon i .timeout
    else
      let time := UInt64.ofNat (glbtimeStart (env.clock (k + 1)) 0)
      let ping := (glbpkgInit con.connId ctrlFlagPing 0).withSeqAck (time >>> 32).toUInt32
        time.toUInt32
      let ctx := (ctx.glbioSend ping con.peerAddr (env.sendOk (cfg.channelCount + 1))).2
      ctx.setCon i { con with
        keepalive := glbtimeStart (env.clock (k + 2))
          (glbKeepaliveTime * (con.keepaliveRetry.toNat + 1))
        keepaliveRetry := con.keepaliveRetry + 1 }
  else ctx

/-- One pass of the timer loop over one slot. The four parts of the source test the state one
after the other; none of them leaves the slot in a state a later one is for, so at most one
applies. -/
def handleTimers (i : Fin cfg.connectionCount) (env : Env) : Option (Glbctx cfg) :=
  let con := ctx.connections i
  let expired := glbtimeIsexpired con.time (env.clock 0)
  match con.state with
  | .closed => some ctx
  | .synSent =>
    if expired then
      if con.retry.toNat ≥ glbMaxRetry then
        let ctx := ctx.setCon i { con with state := .closed }
        some (ctx.pushEvent (.disconnect i .timeout))
      else
        let syn := (glbpkgInit con.connId ctrlFlagSyn 0).withSeqAck con.seq con.ack
        some (ctx.retrySend i syn env)
    else some ctx
  | .synRcvd =>
    if expired then
      if con.retry.toNat ≥ glbMaxRetry then
        some (ctx.setCon i { con with state := .closed })
      else
        let synAck := (glbpkgInit con.connId ctrlFlagSynAck 0).withSeqAck con.seq con.ack
        some (ctx.retrySend i synAck env)
    else some ctx
  | .finSent =>
    if expired then
      if con.retry.toNat ≥ glbMaxRetry then some (ctx.closeCon i .timeout)
      else some (ctx.retrySend i (glbpkgInit con.connId ctrlFlagFin 0) env)
    else some ctx
  | .established =>
    if con.channels.isNone then none
    else
      let ctx := (List.finRange cfg.channelCount).foldl (fun ctx c ↦ ctx.transmit i env c) ctx
      some (ctx.keepaliveTimer i env)

end Glbctx

end Gilberta
