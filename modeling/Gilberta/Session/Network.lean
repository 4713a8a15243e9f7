import Gilberta.Effects.Channels
import Gilberta.Effects.Emission

/-!
# A client and a server

Two contexts and the network between them, from the moment the client has called `glb_connect` and
the server was created. Either side handles only packets the other side sent, at any time, any
number of times or never; the server sees one peer address. Beyond that everything is allowed:
ticks, `glb_send`, `glb_popdata`, `glb_close`, failing sends and failing reads, in any order.

A history variable records what the client's application enqueued since the client's last CONNECT.
-/

namespace Gilberta

/-- A client, a server and what the client enqueued on its channels since its last CONNECT. -/
structure Session (cfgA cfgB : Glbcfg) where
  /-- The client. -/
  client : Glbctx cfgA
  /-- The server. -/
  server : Glbctx cfgB
  /-- The packets `glb_send` enqueued on a channel of the client, oldest first. -/
  enqueued : Fin cfgA.channelCount → List Glbpkg

/-- Whether an operation is what an honest side does next to a network that carries `sent`: it does
not call `glb_connect`, and it handles only what was sent. -/
def Op.Carried {cfg : Glbcfg} (sent : List Datagram) : Op cfg → Prop
  | .connect _ => False
  | .packet pkg _ _ => ∃ d ∈ sent, pkg.SameOnWire d.pkg
  | _ => True

instance {cfg : Glbcfg} (sent : List Datagram) : (op : Op cfg) → Decidable (op.Carried sent)
  | .packet pkg _ _ => inferInstanceAs (Decidable (∃ d ∈ sent, pkg.SameOnWire d.pkg))
  | .connect _ => inferInstanceAs (Decidable False)
  | .close _ _ | .send _ _ | .pollevent | .popdata _ | .readError | .timers _ _ =>
    inferInstanceAs (Decidable True)

/-- Whether a packet that an operation handles comes from the given address. -/
def Op.From {cfg : Glbcfg} (addr : Glbaddr) : Op cfg → Prop
  | .packet _ from_ _ => from_ = addr
  | _ => True

instance {cfg : Glbcfg} (addr : Glbaddr) : (op : Op cfg) → Decidable (op.From addr)
  | .packet _ from_ _ => inferInstanceAs (Decidable (from_ = addr))
  | .connect _ | .close _ _ | .send _ _ | .pollevent | .popdata _ | .readError | .timers _ _ =>
    inferInstanceAs (Decidable True)

namespace Glbctx

variable {cfg : Glbcfg}

/-- Whether an operation makes the client announce CONNECT: it handles a SYN|ACK while slot 0 is not
established. -/
def Connects (ctx : Glbctx cfg) : Op cfg → Prop
  | .packet pkg _ _ => pkg.header.ctrlFlags = ctrlFlagSynAck ∧
      ∃ i : Fin cfg.connectionCount, i.val = 0 ∧ (ctx.connections i).state ≠ .established
  | _ => False

instance (ctx : Glbctx cfg) : (op : Op cfg) → Decidable (ctx.Connects op)
  | .packet pkg _ _ => inferInstanceAs (Decidable (pkg.header.ctrlFlags = ctrlFlagSynAck ∧
      ∃ i : Fin cfg.connectionCount, i.val = 0 ∧ (ctx.connections i).state ≠ .established))
  | .connect _ | .close _ _ | .send _ _ | .pollevent | .popdata _ | .readError | .timers _ _ =>
    inferInstanceAs (Decidable False)

/-- The packet an operation enqueues on channel `c` of a slot, if `glb_send` accepts it. -/
def enqueuedBy (ctx : Glbctx cfg) (c : Fin cfg.channelCount) : Op cfg → List Glbpkg
  | .send info now =>
    match ctx.glbSend info now, info.con, info.data with
    | some (.success, _), some i, some data =>
      if info.channelId.toNat = c.val then
        ((ctx.connections i).channels.map fun chs ↦
          sendPkg (ctx.connections i).connId (chs.chan c) info.channelId data now).toList
      else []
    | _, _, _ => []
  | _ => []

end Glbctx

namespace Session

variable {cfgA cfgB : Glbcfg}

/-- What the client's application has enqueued after an operation of the client. -/
def enqueuedAfter (s : Session cfgA cfgB) (op : Op cfgA) (c : Fin cfgA.channelCount) :
    List Glbpkg :=
  if s.client.Connects op then [] else s.enqueued c ++ s.client.enqueuedBy c op

/-- One step of a session in which the server sees the address `addr`. -/
inductive Step (addr : Glbaddr) (s : Session cfgA cfgB) :
    Op cfgA ⊕ Op cfgB → Session cfgA cfgB → Prop
  | client {op : Op cfgA} {ctx : Glbctx cfgA} (hstep : Glbctx.Step s.client op ctx)
      (hnet : op.Carried s.server.sock) :
      Step addr s (.inl op) { s with client := ctx, enqueued := s.enqueuedAfter op }
  | server {op : Op cfgB} {ctx : Glbctx cfgB} (hstep : Glbctx.Step s.server op ctx)
      (hnet : op.Carried s.client.sock) (haddr : op.From addr) :
      Step addr s (.inr op) { s with server := ctx }

/-- The step as a function. -/
def next (addr : Glbaddr) (s : Session cfgA cfgB) :
    Op cfgA ⊕ Op cfgB → Option (Session cfgA cfgB)
  | .inl op =>
    if op.Carried s.server.sock then
      (s.client.step op).map fun ctx ↦ { s with client := ctx, enqueued := s.enqueuedAfter op }
    else none
  | .inr op =>
    if op.Carried s.client.sock ∧ op.From addr then
      (s.server.step op).map fun ctx ↦ { s with server := ctx }
    else none

theorem step_of_next {addr : Glbaddr} {s s' : Session cfgA cfgB} {lab : Op cfgA ⊕ Op cfgB}
    (h : s.next addr lab = some s') : Step addr s lab s' := by
  rcases lab with op | op <;> rw [next] at h <;> split at h
  · next hnet =>
    obtain ⟨ctx, hstep, rfl⟩ := Option.map_eq_some_iff.1 h
    exact .client hstep hnet
  · cases h
  · next hcond =>
    obtain ⟨ctx, hstep, rfl⟩ := Option.map_eq_some_iff.1 h
    exact .server hstep hcond.1 hcond.2
  · cases h

/-- Where a session starts: a client that has just called `glb_connect` on a fresh context, and a
server that was just created. Packets come from a real address. -/
structure Start (addr : Glbaddr) (s : Session cfgA cfgB) : Prop where
  /-- The client is in client mode. -/
  mode : cfgA.isServer = false
  /-- It has called `glb_connect`. -/
  client : ∃ now, (Glbctx.init cfgA).glbConnect now = some (.success, s.client)
  /-- The server is fresh. -/
  server : s.server = Glbctx.init cfgB
  /-- Nothing was enqueued. -/
  enqueued : ∀ c, s.enqueued c = []
  /-- The address is not the zero address of an unused slot. -/
  addr : addr ≠ ⟨0, 0⟩

end Session

/-- A context in client mode has one slot. -/
theorem Glbcfg.val_eq_zero {cfg : Glbcfg} (h : cfg.isServer = false)
    (i : Fin cfg.connectionCount) : i.val = 0 := by
  have hcount : cfg.connectionCount = 1 := by
    rw [connectionCount, h]
    rfl
  have hlt := i.isLt
  omega

end Gilberta
