import Gilberta.Lifecycle.Progress
import Gilberta.Lifecycle.Routing
import Gilberta.Link.Duplex
import Gilberta.Session.Transfer

/-!
# An undisturbed handshake connects

What is known about links starts from two established slots whose channels agree on their numbers
(`Link.Start`). Here is where such a pair comes from: `glb_connect`, the SYN, the SYN|ACK and the
ACK, each sent by the code and handled by the other side (`handshake`). If none of these is lost and
nothing fails on the way, both slots are established under the same id, and links in both directions
can start on every channel that both sides configure as reliable, whatever the two contexts have
been through before (`handshake_connects`). -/

namespace Gilberta

variable {cfg cfgA cfgB : Glbcfg}

/-- The surroundings in which the parts of a handshake are performed. -/
structure HandshakeEnv where
  /-- When the client calls `glb_connect`. -/
  connect : ℕ
  /-- The client's timers send the SYN. -/
  syn : Env
  /-- The server handles the SYN. -/
  opening : Env
  /-- The server's timers send the SYN|ACK. -/
  synAck : Env
  /-- The client handles the SYN|ACK and sends the ACK. -/
  answer : Env
  /-- The server handles the ACK. -/
  accept : Env

/-- Nothing fails, and both timers are due at once. -/
structure HandshakeEnv.Undisturbed (e : HandshakeEnv) : Prop where
  /-- The clock does not read zero. -/
  connect_pos : 0 < e.connect
  /-- The client's timers are served after `glb_connect`. -/
  syn_due : e.connect ≤ e.syn.clock 0
  /-- The SYN goes out. -/
  syn_ok : e.syn.sendOk 0 = true
  /-- Nor does the clock of the server. -/
  opening_pos : 0 < e.opening.clock 0
  /-- The server's timers are served after the SYN. -/
  synAck_due : e.opening.clock 0 ≤ e.synAck.clock 0
  /-- The SYN|ACK goes out. -/
  synAck_ok : e.synAck.sendOk 0 = true
  /-- There is memory for the client's channels. -/
  answer_malloc : e.answer.MallocOk
  /-- The ACK goes out. -/
  answer_ok : e.answer.sendOk 0 = true
  /-- There is memory for the server's channels. -/
  accept_malloc : e.accept.MallocOk

namespace Glbctx

/-- The packet that was handed to the socket last. -/
def lastSent (ctx : Glbctx cfg) : Option Glbpkg := ctx.sock.getLast?.map Datagram.pkg

/-- There is a slot for a SYN from an address: one that has the address and is not established, or
else one that is closed. -/
def CanOpen (ctx : Glbctx cfg) (addr : Glbaddr) : Prop :=
  match ctx.findConnByAddr addr with
  | some i => (ctx.connections i).state ≠ .established
  | none => ctx.findEmptyConn.isSome

instance (ctx : Glbctx cfg) (addr : Glbaddr) : Decidable (ctx.CanOpen addr) :=
  match h : ctx.findConnByAddr addr with
  | some i => decidable_of_iff ((ctx.connections i).state ≠ .established) (by rw [CanOpen, h])
  | none => decidable_of_iff (ctx.findEmptyConn.isSome) (by rw [CanOpen, h])

/-- A handshake between slot `i` of the client, which the server sees at the address `client`, and
the server, which the client sees at the address `server`. -/
def handshake (a : Glbctx cfgA) (b : Glbctx cfgB) (i : Fin cfgA.connectionCount)
    (client server : Glbaddr) (e : HandshakeEnv) : Option (Glbctx cfgA × Glbctx cfgB) := do
  let (_, a) ← a.glbConnect e.connect
  let a ← a.handleTimers i e.syn
  let syn ← a.lastSent
  let b ← b.handlePacket syn client e.opening
  let j ← b.findConnByAddr client
  let b ← b.handleTimers j e.synAck
  let synAck ← b.lastSent
  let a ← a.handlePacket synAck server e.answer
  let ack ← a.lastSent
  let b ← b.handlePacket ack client e.accept
  return (a, b)

variable {ctx ctx' : Glbctx cfg} {i : Fin cfg.connectionCount} {pkg : Glbpkg} {from_ : Glbaddr}
  {env : Env} {now : ℕ}

/-! ### Sending SYN and SYN|ACK -/

theorem isexpired_start {now later : ℕ} (hpos : 0 < now) (hle : now ≤ later) :
    glbtimeIsexpired (glbtimeStart now 0) later = true := by
  simp only [glbtimeIsexpired, glbtimeStart, Bool.and_eq_true, bne_iff_ne, add_zero]
  exact ⟨Nat.ne_of_gt hpos, decide_eq_true hle⟩

/-- The timers of a slot that is connecting send the SYN, those of one that is half open the
SYN|ACK, with the numbers of the slot. -/
theorem exists_resent {flags : UInt8}
    (hstate : (ctx.connections i).state = .synSent ∧ flags = ctrlFlagSyn ∨
      (ctx.connections i).state = .synRcvd ∧ flags = ctrlFlagSynAck)
    (hretry : (ctx.connections i).retry = 0)
    (hdue : glbtimeIsexpired (ctx.connections i).time (env.clock 0) = true)
    (hok : env.sendOk 0 = true) :
    ∃ ctx' p, ctx.handleTimers i env = some ctx' ∧ ctx'.lastSent = some p ∧
      p.header.ctrlFlags = flags ∧ p.conId = (ctx.connections i).connId ∧
      p.header.seq = (ctx.connections i).seq ∧
      (ctx'.connections i).state = (ctx.connections i).state ∧
      (ctx'.connections i).seq = (ctx.connections i).seq ∧
      (ctx'.connections i).connId = (ctx.connections i).connId := by
  have hlimit : ¬ (ctx.connections i).retry.toNat ≥ glbMaxRetry := by rw [hretry]; decide
  rw [handleTimers]
  rcases hstate with ⟨hstate, rfl⟩ | ⟨hstate, rfl⟩
  all_goals
    simp only [hstate, hdue, hlimit, if_true, if_false]
    refine ⟨_, _, rfl, by simp [lastSent, retrySend, hok]; rfl, rfl, rfl, rfl, ?_, ?_, ?_⟩
    · simp [retrySend, hstate]
    · simp [retrySend]
    · simp [retrySend]

/-- `glb_connect` puts slot 0 into SYN_SENT. -/
theorem exists_glbConnect (hi : i.val = 0) (hinet : cfg.inetAddr.isSome) :
    ∃ ctx', ctx.glbConnect now = some (.success, ctx') ∧
      (ctx'.connections i).state = .synSent ∧ (ctx'.connections i).retry = 0 ∧
      (ctx'.connections i).time = glbtimeStart now 0 ∧
      (ctx'.connections i).connId = ⟨0xFFFF, 0⟩ ∧ (ctx'.connections i).seq = initialSeq cfg := by
  obtain ⟨k, hk⟩ := i
  obtain rfl : k = 0 := hi
  obtain ⟨addr, haddr⟩ := Option.isSome_iff_exists.1 hinet
  simp only [glbConnect, dif_pos hk, haddr]
  refine ⟨_, rfl, ?_⟩
  simp [generateSeq]

/-! ### Opening a slot -/

/-- The lookup by address comes to the slot that got the address. -/
theorem findConnByAddr_of_set (hself : (ctx'.connections i).peerAddr = from_)
    (hne : ∀ j, j ≠ i → ctx'.connections j = ctx.connections j)
    (hfind : ctx.findConnByAddr from_ = some i ∨ ctx.findConnByAddr from_ = none) :
    ctx'.findConnByAddr from_ = some i := by
  rcases hfind with hfind | hfind
  · -- the slot had the address before, so nothing changes for the search
    have hpeer := peerAddr_of_findConnByAddr hfind
    rw [← hfind, findConnByAddr, findConnByAddr]
    refine congrArg (List.find? · _) (funext fun j ↦ ?_)
    by_cases hj : j = i
    · rw [hj, hself, hpeer]
    · rw [hne j hj]
  · have hsome : (ctx'.findConnByAddr from_).isSome = true := by
      rw [findConnByAddr, List.find?_isSome]
      exact ⟨i, List.mem_finRange i, by simp [hself]⟩
    obtain ⟨j, hj⟩ := Option.isSome_iff_exists.1 hsome
    rw [hj]
    by_contra hji
    have hold := List.find?_eq_none.1 hfind j (List.mem_finRange j)
    have hpeer := peerAddr_of_findConnByAddr hj
    rw [hne j fun h ↦ hji (congrArg some h)] at hpeer
    simp [hpeer] at hold

/-- A SYN opens a slot. -/
theorem exists_opened (hslot : ctx.CanOpen from_) (hsyn : pkg.IsSyn) :
    ∃ ctx' j, ctx.handlePacket pkg from_ env = some ctx' ∧
      ctx'.findConnByAddr from_ = some j ∧ (ctx'.connections j).state = .synRcvd ∧
      (ctx'.connections j).retry = 0 ∧
      (ctx'.connections j).time = glbtimeStart (env.clock 0) 0 := by
  rw [handlePacket_of_syn hsyn]
  unfold CanOpen at hslot
  split at hslot
  · next i hfind =>
    refine ⟨_, i, rfl, ?_, ?_⟩
    · rw [onSyn_of_found hfind hslot]
      refine findConnByAddr_of_set (by simp) (fun j hj ↦ ?_) (.inl hfind)
      rw [connections_setCon_of_ne _ _ hj]
    · rw [onSyn_of_found hfind hslot]
      simp
  · next hfind =>
    obtain ⟨⟨i, ctx₁⟩, hempty⟩ := Option.isSome_iff_exists.1 hslot
    have hself : ((ctx.onSyn pkg from_ env).connections i).peerAddr = from_ ∧
        ((ctx.onSyn pkg from_ env).connections i).state = .synRcvd ∧
        ((ctx.onSyn pkg from_ env).connections i).retry = 0 ∧
        ((ctx.onSyn pkg from_ env).connections i).time = glbtimeStart (env.clock 0) 0 := by
      obtain ⟨hclosed, rfl⟩ := findEmptyConn_eq_some hempty
      simp only [onSyn, hfind, hempty]
      rw [openSyn_of_ne (by simp [generateSeq, generateClientId_eq, hclosed])]
      simp
    refine ⟨_, i, rfl, ?_, ?_⟩
    · exact findConnByAddr_of_set hself.1 (onSyn_of_generates hfind hempty).1 (.inr hfind)
    · exact hself.2

/-! ### Answering -/

/-- The ACK goes out after the SYN|ACK is accepted, with the counters of channel 0. -/
theorem lastSent_replySynAck (h : ctx.replySynAck i env = some ctx') (hok : env.sendOk 0 = true) :
    ∃ chs, (ctx.connections i).channels = some chs ∧ ctx'.lastSent =
      some ((glbpkgInit (ctx.connections i).connId ctrlFlagAck 0).withSeqAck
        (chs.chan cfg.channel0).seq (chs.chan cfg.channel0).ack).seal := by
  obtain ⟨chs, hchs, h⟩ := Option.map_eq_some_iff.1 h
  refine ⟨chs, hchs, ?_⟩
  rw [hok] at h
  cases h
  show (ctx.sock ++ [(⟨_, _⟩ : Datagram)]).getLast?.map Datagram.pkg = _
  rw [List.getLast?_concat]
  rfl

/-- A client that is connecting establishes its slot for a SYN|ACK, and answers it. -/
theorem exists_answered (hheld : ArraysHeld ctx) (hi : i.val = 0)
    (hstate : (ctx.connections i).state = .synSent)
    (hflags : pkg.header.ctrlFlags = ctrlFlagSynAck) (hmalloc : env.MallocOk)
    (hok : env.sendOk 0 = true) :
    ∃ ctx' chs ack, ctx.handlePacket pkg from_ env = some ctx' ∧
      (ctx'.connections i).state = .established ∧ (ctx'.connections i).connId = pkg.conId ∧
      (ctx'.connections i).channels = some chs ∧
      (∀ c : Fin cfg.channelCount, (chs.chan c).IsOpened (cfg.channels.get c)
        (ctx.connections i).seq pkg.header.seq) ∧
      ctx'.lastSent = some ack ∧ ack.header.ctrlFlags = ctrlFlagAck ∧ ack.conId = pkg.conId ∧
      ack.header.seq = (ctx.connections i).seq := by
  obtain ⟨k, hk⟩ := i
  obtain rfl : k = 0 := hi
  have hne : (ctx.connections ⟨0, hk⟩).state ≠ .established := by rw [hstate]; decide
  obtain ⟨ctx', hctx⟩ : ∃ ctx', ctx.onSynAck pkg env = some ctx' :=
    exists_onSynAck hk hheld hmalloc
  obtain ⟨chs, a', hnew, hb⟩ := onSynAck_of_ne hne hctx
  rw [if_pos hstate, if_pos hok] at hb
  have hhandle : ctx.handlePacket pkg from_ env = some ctx' :=
    (handlePacket_of_synAck hflags).trans hctx
  -- the ACK is made of the slot as it is when all but its state is set
  rw [onSynAck, dif_pos hk] at hctx
  obtain ⟨ctx₁, hctx₁, hreply⟩ := Option.bind_eq_some_iff.1 hctx
  obtain ⟨chs₁, hchs₁, hlast⟩ := lastSent_replySynAck hreply hok
  obtain ⟨-, hsame⟩ := becomes_replySynAck hreply
  have heq := hsame.self.symm.trans hb.self
  have hid : (ctx₁.connections ⟨0, hk⟩).connId = pkg.conId := congrArg Glbconn.connId heq
  have hchs : (ctx₁.connections ⟨0, hk⟩).channels = some (chs.withCounters
      (ctx.connections ⟨0, hk⟩).seq pkg.header.seq) := congrArg Glbconn.channels heq
  obtain rfl := Option.some_inj.1 (hchs₁.symm.trans hchs)
  refine ⟨ctx', _, _, hhandle, by rw [hb.self], by rw [hb.self], by rw [hb.self], fun c ↦ ?_, hlast,
    rfl, ?_, rfl⟩
  · obtain ⟨hs, hr, hflags', hprio⟩ := hnew.chan c
    exact ⟨⟨hs, hr, hflags', hprio⟩, rfl, rfl⟩
  · rw [hid]
    rfl

/-- The ACK establishes the slot that waits for it. -/
theorem exists_accepted (hfind : pkg.Finds ctx i) (hstate : (ctx.connections i).state = .synRcvd)
    (hflags : pkg.header.ctrlFlags = ctrlFlagAck) (hmalloc : env.MallocOk) :
    ∃ ctx' chs, ctx.handlePacket pkg from_ env = some ctx' ∧
      (ctx'.connections i).state = .established ∧
      (ctx'.connections i).connId = (ctx.connections i).connId ∧
      (ctx'.connections i).channels = some chs ∧
      ∀ c : Fin cfg.channelCount, (chs.chan c).IsOpened (cfg.channels.get c)
        (ctx.connections i).seq pkg.header.seq := by
  obtain ⟨ctx', hctx⟩ : ∃ ctx', ctx.onAck pkg env = some ctx' := exists_onAck hmalloc
  obtain ⟨chs, a', hnew, hb⟩ := onAck_of_synRcvd hfind hstate hctx
  refine ⟨ctx', chs.withCounters (ctx.connections i).seq pkg.header.seq,
    (handlePacket_of_ack hflags).trans hctx, ?_, ?_, ?_, ?_⟩
  · rw [hb.self]
  · rw [hb.self]
  · rw [hb.self]
  · intro c
    obtain ⟨hs, hr, hflags', hprio⟩ := hnew.chan c
    exact ⟨⟨hs, hr, hflags', hprio⟩, rfl, rfl⟩

/-! ### The handshake -/

/-- A slot that a SYN has opened is found by its id after the timers have sent the SYN|ACK. -/
theorem findConn_of_opened {ctx₁ ctx₂ : Glbctx cfg} {ts : List (Transition cfg)} {env' : Env}
    (hrun : Run ts ctx) (hconnect : ∀ x ∈ ts, ¬ x.2.1.IsConnect) (hreal : ∀ x ∈ ts, x.2.1.FromReal)
    (hids : idsGenerated ts < maxIds) (hfrom : from_ ≠ ⟨0, 0⟩)
    (hopens : Step ctx (.packet pkg from_ env) ctx₁) (hserves : Step ctx₁ (.timers i env') ctx₂)
    (hlive : (ctx₂.connections i).state ≠ .closed) :
    ctx₂.findConn (ctx₂.connections i).connId.generation (ctx₂.connections i).connId.id =
      some i := by
  have h₀ : Numbered (idsGenerated ts) ctx := numbered_of_run hrun hconnect hreal hids.le
  obtain ⟨n, h₁⟩ : ∃ n, Numbered n ctx₁ := by
    cases hgen : (Op.packet pkg from_ env : Op cfg).generates ctx with
    | false => exact ⟨_, h₀.step hgen id hfrom hopens⟩
    | true => exact ⟨_, h₀.generate hids hgen hopens⟩
  have hfrom' : (Op.timers i env' : Op cfg).FromReal := trivial
  exact (h₁.step rfl id hfrom' hserves).findConn_eq hlive

/-- **An undisturbed handshake connects.** Take a client and a server at the end of any run of
either, the server's with packets from real addresses, without a call of `glb_connect` and with ids
left. If the server has a slot for the client's address, and nothing is lost or fails, a handshake
establishes slot 0 of the client and a slot of the server, under the same id. On every channel both
configure as reliable both directions can start. -/
theorem handshake_connects {a : Glbctx cfgA} {b : Glbctx cfgB} {ts : List (Transition cfgA)}
    {us : List (Transition cfgB)} {i : Fin cfgA.connectionCount} {client server : Glbaddr}
    {e : HandshakeEnv} (ha : Run ts a) (hb : Run us b) (hi : i.val = 0)
    (hinet : cfgA.inetAddr.isSome) (hconnect : ∀ x ∈ us, ¬ x.2.1.IsConnect)
    (hreal : ∀ x ∈ us, x.2.1.FromReal) (hids : idsGenerated us < maxIds)
    (haddr : client ≠ ⟨0, 0⟩) (hslot : b.CanOpen client) (he : e.Undisturbed) :
    ∃ a' b' j s₁, handshake a b i client server e = some (a', b') ∧
      (a'.connections i).state = .established ∧ (b'.connections j).state = .established ∧
      (a'.connections i).connId = (b'.connections j).connId ∧
      ∀ dir : Direction cfgA cfgB, dir.i = i → dir.j = j →
        (cfgA.channels.get dir.c).reliable = true → (cfgB.channels.get dir.d).reliable = true →
        Duplex.Start dir (initialSeq cfgA) s₁ ⟨a', b', ⟨[], [], [], []⟩, ⟨[], [], [], []⟩⟩ := by
  -- the client connects, and its timers send the SYN
  obtain ⟨a₁, ha₁, hstate, hretry, htime, hid, hseq⟩ :=
    @exists_glbConnect cfgA a i e.connect hi hinet
  obtain ⟨a₂, syn, ha₂, hsyn, hsynFlags, hsynId, -, hstate₂, hseq₂, -⟩ :=
    exists_resent (.inl ⟨hstate, rfl⟩) hretry
      (by rw [htime]; exact isexpired_start he.connect_pos he.syn_due) he.syn_ok
  have hconnects : Step a (.connect e.connect) a₁ := congrArg (Option.map Prod.snd) ha₁
  have htimers : Step a₁ (.timers i e.syn) a₂ := ha₂
  have hheld := arraysHeld_of_run ((ha.snoc hconnects).snoc htimers)
  -- the server opens a slot, and its timers send the SYN|ACK
  have hIsSyn : syn.IsSyn := ⟨hsynFlags, congrArg Glbconid.id (hsynId.trans hid)⟩
  obtain ⟨b₁, j, hb₁, hfind, hstateb, hretryb, htimeb⟩ := exists_opened hslot hIsSyn
  obtain ⟨b₂, synAck, hb₂, hsynAck, hsynAckFlags, hsynAckId, hsynAckSeq, hstateb₂, hseqb₂, hidb₂⟩ :=
    exists_resent (.inr ⟨hstateb, rfl⟩) hretryb
      (by rw [htimeb]; exact isexpired_start he.opening_pos he.synAck_due) he.synAck_ok
  -- the client answers, and the server finds its slot by the id on the answer
  obtain ⟨a', chsA, ack, (ha' : a₂.handlePacket synAck server e.answer = some a'), hestA, hidA,
      hchsA, hnewA, hack, hackFlags, hackId, hackSeq⟩ :=
    exists_answered hheld hi (hstate₂.trans hstate) hsynAckFlags he.answer_malloc he.answer_ok
  have hopens : Step b (.packet syn client e.opening) b₁ := hb₁
  have hserves : Step b₁ (.timers j e.synAck) b₂ := hb₂
  have hfinds : ack.Finds b₂ j := by
    have hfound := findConn_of_opened hb hconnect hreal hids haddr hopens hserves
      (by rw [hstateb₂, hstateb]; decide)
    rw [hidb₂, ← hsynAckId, ← hackId] at hfound
    exact hfound
  obtain ⟨b', chsB, (hb' : b₂.handlePacket ack client e.accept = some b'), hestB, hidB, hchsB,
      hnewB⟩ :=
    exists_accepted hfinds (hstateb₂.trans hstateb) hackFlags he.accept_malloc
  refine ⟨a', b', j, (b₂.connections j).seq, ?_, hestA, hestB, ?_, ?_⟩
  · simp only [handshake, Option.bind_eq_bind, Option.bind_some, ha₁, ha₂, hsyn, hb₁, hfind, hb₂,
      hsynAck, ha', hack, hb']
    rfl
  · rw [hidA, hsynAckId, hidB, hidb₂]
  · rintro dir rfl rfl hrelA hrelB
    have hnewA := hnewA dir.c
    have hnewB := hnewB dir.d
    rw [hseq₂, hseq, hsynAckSeq, ← hseqb₂] at hnewA
    rw [hackSeq, hseq₂, hseq] at hnewB
    have hrunA : ∃ ts', Run ts' a' := ⟨_, ((ha.snoc hconnects).snoc htimers).snoc
      (show Step a₂ (.packet synAck server e.answer) a' from ha')⟩
    have hrunB : ∃ us', Run us' b' := ⟨_, ((hb.snoc hopens).snoc hserves).snoc
      (show Step b₂ (.packet ack client e.accept) b' from hb')⟩
    have hhasA : a'.HasChannel dir.i dir.c (chsA.chan dir.c) := ⟨chsA, hchsA, rfl⟩
    have hhasB : b'.HasChannel dir.j dir.d (chsB.chan dir.d) := ⟨chsB, hchsB, rfl⟩
    have hrelA' := hnewA.reliable_eq.trans hrelA
    have hrelB' := hnewB.reliable_eq.trans hrelB
    exact
      { forward :=
          { senderRun := hrunA
            receiverRun := hrunB
            senderEst := hestA
            receiverEst := hestB
            sendChan := ⟨_, hhasA, hrelA', hnewA.sQueue.elems, hnewA.seq_eq⟩
            recvChan := ⟨_, hhasB, hrelB', hnewB.rQueue.elems, hnewB.ack_eq⟩
            accepted := rfl
            popped := rfl
            data := rfl
            acks := rfl }
        backward :=
          { senderRun := hrunB
            receiverRun := hrunA
            senderEst := hestB
            receiverEst := hestA
            sendChan := ⟨_, hhasB, hrelB', hnewB.sQueue.elems, hnewB.seq_eq⟩
            recvChan := ⟨_, hhasA, hrelA', hnewA.rQueue.elems, hnewA.ack_eq⟩
            accepted := rfl
            popped := rfl
            data := rfl
            acks := rfl } }

/-- Surroundings in which everything happens one millisecond after what it follows. -/
def sampleHandshakeEnv : HandshakeEnv where
  connect := 1
  syn := Env.at 2
  opening := Env.at 3
  synAck := Env.at 4
  answer := Env.at 5
  accept := Env.at 6

/-- A server that has opened its first slot for somebody else connects a client to its second one.
-/
theorem handshake_connects_sample : ∃ us b, @Run Glbcfg.sampleServer us b ∧
    (b.connections ⟨0, by decide⟩).state = .synRcvd ∧
    ∃ a' b' j s₁, handshake (init Glbcfg.sampleClient) b ⟨0, by decide⟩ .samplePeer ⟨0, 0⟩
        sampleHandshakeEnv = some (a', b') ∧
      (a'.connections ⟨0, by decide⟩).state = .established ∧
      (b'.connections j).state = .established ∧
      (a'.connections ⟨0, by decide⟩).connId = (b'.connections j).connId ∧
      ∀ dir : Direction Glbcfg.sampleClient Glbcfg.sampleServer, dir.i = ⟨0, by decide⟩ →
        dir.j = j → (Glbcfg.sampleClient.channels.get dir.c).reliable = true →
        (Glbcfg.sampleServer.channels.get dir.d).reliable = true →
        Duplex.Start dir (initialSeq Glbcfg.sampleClient) s₁
          ⟨a', b', ⟨[], [], [], []⟩, ⟨[], [], [], []⟩⟩ := by
  let ops : List (Op Glbcfg.sampleServer) :=
    [.packet (glbpkgInit ⟨0xFFFF, 0⟩ ctrlFlagSyn 0) ⟨0x0200007F, 0x1234⟩ (Env.at 1)]
  have hsteps : (Execution.perform step ops (init _)).map (fun r ↦
      ((r.2.connections ⟨0, by decide⟩).state, idsGenerated r.1,
        decide (r.2.CanOpen .samplePeer),
        decide (∀ x ∈ r.1, ¬ x.2.1.IsConnect ∧ x.2.1.FromReal))) =
      some (.synRcvd, 1, true, true) := by decide +kernel
  obtain ⟨r, hr, heq⟩ := Option.map_eq_some_iff.1 hsteps
  simp only [Prod.mk.injEq] at heq
  obtain ⟨hstate, hids, hslot, hops⟩ := heq
  have hops := of_decide_eq_true hops
  refine ⟨r.1, r.2, run_of_perform hr, hstate, ?_⟩
  refine handshake_connects .nil (run_of_perform hr) rfl rfl (fun x hx ↦ (hops x hx).1)
    (fun x hx ↦ (hops x hx).2) ?_ (by decide) (of_decide_eq_true hslot) ?_
  · rw [hids]
    decide
  · exact ⟨by decide, by decide, rfl, by decide, by decide, rfl, fun _ ↦ rfl, rfl, fun _ ↦ rfl⟩

end Glbctx

end Gilberta
