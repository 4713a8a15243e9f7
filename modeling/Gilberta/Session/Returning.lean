import Gilberta.Effects.Timers
import Gilberta.Session.Network
import Gilberta.Traffic.Hits
import Gilberta.Traffic.Migration

/-!
# A client that comes back

A client that connects, closes and connects again, and packets that arrive late. The code tells
connections apart by the id of a slot and messages by their numbers. Beside it, `Party` records what
it knows nothing of: which connection a slot, a stored message and a datagram belong to, and at
which place of its connection a message was sent.

Connections are numbered by the client's calls of `glb_connect`. A slot comes to belong to a
connection by the packets of a handshake: the SYN that opens it, and the ACK or the SYN|ACK that
gives it channels, which is where a slot that was opened by a delayed SYN goes over to the
connection the client has begun since. A SYN of a connection that was set up here before begins a
new one: the connection the client has begun since then, or else its next.

`Harmless` is a condition on what the network delivers: no packet of an earlier connection arrives
where it can be taken for one of the connection of the slot. It is about places, not about numbers;
that the numbers on the wire tell just as much is what has to be proved.
-/

namespace Gilberta

variable {cfg cfgA cfgB : Glbcfg}

/-- The slot a packet is about. -/
def Glbctx.slotOf (ctx : Glbctx cfg) (pkg : Glbpkg) (from_ : Glbaddr) :
    Option (Fin cfg.connectionCount) :=
  (List.finRange cfg.connectionCount).find? fun i ↦ pkg.IsAbout ctx from_ i

/-- Where a datagram belongs. -/
structure Mark where
  /-- Its connection. -/
  conn : ℕ
  /-- How many messages come before the one it is about: before the one it carries, if it is DATA;
  before the one it acknowledges, if it is DATA|ACK; before the next one, if it is part of a
  handshake. -/
  place : ℕ
  deriving DecidableEq

/-- A context and where its slots, its messages and its datagrams belong. -/
structure Party (cfg : Glbcfg) where
  /-- The context. -/
  ctx : Glbctx cfg
  /-- The connection a slot belongs to. -/
  conn : Fin cfg.connectionCount → ℕ
  /-- The latest connection that gave a slot channels. -/
  met : Fin cfg.connectionCount → ℕ
  /-- The connections of the messages that were put into a receive queue, oldest first. -/
  stored : Fin cfg.connectionCount → Fin cfg.channelCount → List ℕ
  /-- The place of the message that a channel waits for. -/
  waits : Fin cfg.connectionCount → Fin cfg.channelCount → ℕ
  /-- The datagrams sent. -/
  sent : List (Mark × Datagram)

namespace Party

variable (p : Party cfg) (begins : Fin cfg.connectionCount → ℕ) (m : Mark) (op : Op cfg)
  (ctx' : Glbctx cfg)

/-- The connection a slot belongs to after an operation, where `begins` is the connection that
begins if one does, and `m` is the mark of the packet that is handled if one is. A slot that is
given channels, and a half open slot whose SYN is repeated, can only go over to a later
connection. -/
def connAfter (i : Fin cfg.connectionCount) : ℕ :=
  if Glbctx.Builds i (p.ctx, op, ctx') then max (p.conn i) m.conn
  else match op.start p.ctx i with
    | some (.synSent, _) => begins i
    | some (.synRcvd, _) =>
      if (p.ctx.connections i).state = .synRcvd then max (p.conn i) m.conn else begins i
    | _ => p.conn i

/-- The latest connection that gave a slot channels, after an operation. -/
def metAfter (i : Fin cfg.connectionCount) : ℕ :=
  if Glbctx.Builds i (p.ctx, op, ctx') then p.connAfter begins m op ctx' i else p.met i

/-- The connections of the messages in a receive queue after an operation: new queues are empty, and
what was put into the queue belongs to the connection of the packet. -/
def storedAfter (i : Fin cfg.connectionCount) (c : Fin cfg.channelCount) : List ℕ :=
  if ctx'.storedCount i c = 0 then []
  else if p.ctx.storedCount i c < ctx'.storedCount i c then p.stored i c ++ [m.conn]
  else p.stored i c

/-- The place of the message that a channel waits for after an operation: a new channel waits for
the one that the packet of the handshake announces, and one that takes a message for the next. -/
def waitsAfter (i : Fin cfg.connectionCount) (c : Fin cfg.channelCount) : ℕ :=
  if Glbctx.Builds i (p.ctx, op, ctx') then m.place
  else p.waits i c + (Glbctx.receivedBy i c p.ctx op).length

/-- The place of the message at the head of the send queue that a packet is about. -/
def headPlace (i : Fin cfg.connectionCount) (pkg : Glbpkg) : ℕ :=
  (((p.ctx.connections i).channelFor pkg).map fun chan ↦ chan.sQueue.taken.length).getD 0

/-- The place of the next message on channel 0 of a slot that is established; a slot that is not has
sent none. -/
def nextPlace (i : Fin cfg.connectionCount) : ℕ :=
  if (p.ctx.connections i).state = .established then
    ((p.ctx.connections i).channels.map fun chs ↦
      (chs.chan cfg.channel0).sQueue.history.length).getD 0
  else 0

/-- The mark of a datagram that an operation sends. It belongs to the connection that the slot which
sends it belongs to after the operation or, where no slot is involved, to that of the packet that is
answered. -/
def markOf (conn' : Fin cfg.connectionCount → ℕ) (d : Datagram) : Op cfg → Mark
  | .timers i _ => ⟨conn' i, p.headPlace i d.pkg⟩
  | .packet pkg from_ _ =>
    ⟨((p.ctx.slotOf pkg from_).map conn').getD m.conn,
      if pkg.header.ctrlFlags = ctrlFlagSynAck then
        ((p.ctx.slotOf pkg from_).map p.nextPlace).getD 0
      else m.place⟩
  | .connect _ | .close _ _ | .send _ _ | .pollevent | .popdata _ | .readError => m

/-- An operation. -/
def next : Option (Party cfg) :=
  (p.ctx.step op).map fun ctx' ↦
    { ctx := ctx'
      conn := p.connAfter begins m op ctx'
      met := p.metAfter begins m op ctx'
      stored := p.storedAfter m ctx'
      waits := p.waitsAfter m op ctx'
      sent := p.sent ++ (ctx'.sock.drop p.ctx.sock.length).map fun d ↦
        (p.markOf m (p.connAfter begins m op ctx') d op, d) }

/-- A party with a fresh context. -/
def start (cfg : Glbcfg) : Party cfg where
  ctx := .init cfg
  conn := fun _ ↦ 0
  met := fun _ ↦ 0
  stored := fun _ _ ↦ []
  waits := fun _ _ ↦ 0
  sent := []

/-- The latest connection that a slot belongs to. -/
def newest : ℕ := ((List.finRange cfg.connectionCount).map p.conn).foldr max 0

/-- **A packet of an earlier connection leaves the slots of later ones alone**: their state, their
channels and the queues in them. -/
def Isolated (op : Op cfg) (p' : Party cfg) : Prop :=
  match op with
  | .packet pkg _ _ => pkg.IsTraffic → ∀ i, m.conn < p.conn i →
      (p'.ctx.connections i).state = (p.ctx.connections i).state ∧
        (p'.ctx.connections i).channels = (p.ctx.connections i).channels
  | _ => True

/-- Nothing tells a packet with mark `m` from one of the connection that slot `i` belongs to: its id
is that of the slot, and it comes when one like it would be welcome. A FIN, FIN|ACK or RST is
welcome unless the slot is closed. The others must be for a channel of an established slot: DATA is
welcome at its place, or, on an unreliable channel, if it comes from the peer; a DATA|ACK is welcome
if the message that waits to be acknowledged has its place. Places are told apart modulo `2 ^ 32`.
-/
def Confusable (pkg : Glbpkg) (from_ : Glbaddr) (env : Env) (i : Fin cfg.connectionCount) : Prop :=
  pkg.Finds p.ctx i ∧
    let con := p.ctx.connections i
    let flags := pkg.header.ctrlFlags
    if flags = ctrlFlagFin then con.state ≠ .closed ∧ env.sendOk 0 = true
    else if flags = ctrlFlagFinAck ∨ flags = ctrlFlagRst then con.state ≠ .closed
    else con.state = .established ∧ ∃ c : Fin cfg.channelCount,
      pkg.header.channelId.toNat = c.val ∧ ∃ chs ∈ con.channels,
        if flags = ctrlFlagData then
          if (chs.chan c).reliable then m.place ≡ p.waits i c [MOD 2 ^ 32]
          else con.peerAddr = from_
        else flags = ctrlFlagDataAck ∧ (chs.chan c).sQueue.elems ≠ [] ∧
          m.place ≡ (chs.chan c).sQueue.taken.length [MOD 2 ^ 32]

instance (pkg : Glbpkg) (from_ : Glbaddr) (env : Env) (i : Fin cfg.connectionCount) :
    Decidable (p.Confusable m pkg from_ env i) := by
  unfold Confusable
  infer_instance

/-- No packet of an earlier connection arrives where it can be taken for one of the connection of a
slot. -/
def Harmless : Op cfg → Prop
  | .packet pkg from_ env => ∀ i, m.conn < p.conn i → ¬ p.Confusable m pkg from_ env i
  | _ => True

instance : (op : Op cfg) → Decidable (p.Harmless m op)
  | .packet pkg from_ env =>
    inferInstanceAs (Decidable (∀ i, m.conn < p.conn i → ¬ p.Confusable m pkg from_ env i))
  | .connect _ | .close _ _ | .send _ _ | .pollevent | .popdata _ | .readError | .timers _ _ =>
    inferInstanceAs (Decidable True)

/-- No message that was put into a receive queue of an established or closing slot belongs to an
earlier connection. -/
def NoStale : Prop := ∀ i c, p.ctx.IsOpen i → ∀ k ∈ p.stored i c, p.conn i ≤ k

end Party

/-- A client and a server. -/
structure Sessions (cfgA cfgB : Glbcfg) where
  /-- The client. -/
  client : Party cfgA
  /-- The server. -/
  server : Party cfgB

/-- An operation may handle a packet with mark `m`: such a packet was sent. -/
def Op.Arrives (sent : List (Mark × Datagram)) (m : Mark) : Op cfg → Prop
  | .packet pkg _ _ => ∃ x ∈ sent, x.1 = m ∧ pkg.SameOnWire x.2.pkg
  | _ => True

instance (sent : List (Mark × Datagram)) (m : Mark) : (op : Op cfg) → Decidable (op.Arrives sent m)
  | .packet pkg _ _ => inferInstanceAs (Decidable (∃ x ∈ sent, x.1 = m ∧ pkg.SameOnWire x.2.pkg))
  | .connect _ | .close _ _ | .send _ _ | .pollevent | .popdata _ | .readError | .timers _ _ =>
    inferInstanceAs (Decidable True)

/-- Whether an operation is `glb_connect`. -/
def Op.isConnect : Op cfg → Bool
  | .connect _ => true
  | .close _ _ | .send _ _ | .pollevent | .popdata _ | .readError | .packet _ _ _ | .timers _ _ =>
    false

namespace Sessions

/-- The connection that begins when a SYN of connection `k` opens slot `j` of the server. -/
def reopening (s : Sessions cfgA cfgB) (k : ℕ) (j : Fin cfgB.connectionCount) : ℕ :=
  if k ≤ s.server.met j then max (s.server.met j + 1) s.client.newest else k

/-- A step of either side, with the mark of the packet it handles, if any. The client may call
`glb_connect` at any time, which begins the next connection; the server sees one peer address,
`addr`. Either side handles only what the other one sent, at any time and any number of times. -/
def next (addr : Glbaddr) (s : Sessions cfgA cfgB) :
    (Mark × Op cfgA) ⊕ (Mark × Op cfgB) → Option (Sessions cfgA cfgB)
  | .inl (m, op) =>
    if op.Arrives s.server.sent m then
      (s.client.next (fun _ ↦ s.client.newest + 1) m op).map fun p ↦ { s with client := p }
    else none
  | .inr (m, op) =>
    if op.Arrives s.client.sent m ∧ op.From addr ∧ op.isConnect = false then
      (s.server.next (s.reopening m.conn) m op).map fun p ↦ { s with server := p }
    else none

/-- The transition relation. -/
def Step (addr : Glbaddr) (s : Sessions cfgA cfgB) (lab : (Mark × Op cfgA) ⊕ (Mark × Op cfgB))
    (s' : Sessions cfgA cfgB) : Prop := s.next addr lab = some s'

/-- One transition of a run. -/
abbrev Transition (cfgA cfgB : Glbcfg) :=
  Sessions cfgA cfgB × ((Mark × Op cfgA) ⊕ (Mark × Op cfgB)) × Sessions cfgA cfgB

/-- Where a run starts: nobody has connected. -/
def start (cfgA cfgB : Glbcfg) : Sessions cfgA cfgB where
  client := .start cfgA
  server := .start cfgB

/-- The packet a step handles, if any, leaves later connections alone. -/
def Isolated (x : Transition cfgA cfgB) : Prop :=
  match x.2.1 with
  | .inl (m, op) => x.1.client.Isolated m op x.2.2.client
  | .inr (m, op) => x.1.server.Isolated m op x.2.2.server

/-- The packet a step handles, if any, cannot be taken for one of a later connection. -/
def Harmless (x : Transition cfgA cfgB) : Prop :=
  match x.2.1 with
  | .inl (m, op) => x.1.client.Harmless m op
  | .inr (m, op) => x.1.server.Harmless m op

instance : (x : Transition cfgA cfgB) → Decidable (Harmless x)
  | (s, .inl (m, op), _) => inferInstanceAs (Decidable (s.client.Harmless m op))
  | (s, .inr (m, op), _) => inferInstanceAs (Decidable (s.server.Harmless m op))

/-- No receive queue of an open connection holds a message of an earlier one. -/
def NoStale (s : Sessions cfgA cfgB) : Prop := s.client.NoStale ∧ s.server.NoStale

variable {addr : Glbaddr} {s s' : Sessions cfgA cfgB}
  {lab : (Mark × Op cfgA) ⊕ (Mark × Op cfgB)}

/-- A step of the system is a step of one of its parties, which handles what the other one sent. -/
theorem step_cases (h : Step addr s lab s') :
    (∃ m op begins, lab = .inl (m, op) ∧ op.Arrives s.server.sent m ∧
        s.client.next begins m op = some s'.client ∧ s'.server = s.server) ∨
      ∃ m op begins, lab = .inr (m, op) ∧ op.Arrives s.client.sent m ∧ op.From addr ∧
        op.isConnect = false ∧ s.server.next begins m op = some s'.server ∧
        s'.client = s.client := by
  rcases lab with ⟨m, op⟩ | ⟨m, op⟩ <;> rw [Step, next] at h <;> split at h
  · next harrives =>
    obtain ⟨p, hp, rfl⟩ := Option.map_eq_some_iff.1 h
    exact Or.inl ⟨m, op, _, rfl, harrives, hp, rfl⟩
  · cases h
  · next hcond =>
    obtain ⟨p, hp, rfl⟩ := Option.map_eq_some_iff.1 h
    exact Or.inr ⟨m, op, _, rfl, hcond.1, hcond.2.1, hcond.2.2, hp, rfl⟩
  · cases h

end Sessions

end Gilberta
