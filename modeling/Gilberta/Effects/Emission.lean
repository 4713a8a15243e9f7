import Gilberta.Effects.Channels

/-!
# What a step can send

`Emitted` lists the datagrams an operation can hand to the socket, each with the branch it comes
from and the values it carries; `step_emits` says that there are no others. What is in flight
between two contexts was emitted by one of them, so statements about packets in the network are
proved from this list.
-/

namespace Gilberta

variable {cfg : Glbcfg}

/-- What the network does not change about a packet. -/
def Glbpkg.SameOnWire (p q : Glbpkg) : Prop := p.header = q.header ∧ p.data = q.data

theorem Glbpkg.SameOnWire.refl (p : Glbpkg) : p.SameOnWire p := ⟨rfl, rfl⟩

instance (p q : Glbpkg) : Decidable (p.SameOnWire q) :=
  inferInstanceAs (Decidable (_ ∧ _))

namespace Glbctx

/-- The ACK of a client: its id and numbers. -/
def ackPkg (connId : Glbconid) (seq ack : UInt32) : Glbpkg :=
  (glbpkgInit connId ctrlFlagAck 0).withSeqAck seq ack

/-- The SYN of a slot that is connecting. -/
def synPkg (con : Glbconn cfg) : Glbpkg :=
  (glbpkgInit con.connId ctrlFlagSyn 0).withSeqAck con.seq con.ack

/-- The SYN|ACK of a slot that is half open. -/
def synAckPkg (con : Glbconn cfg) : Glbpkg :=
  (glbpkgInit con.connId ctrlFlagSynAck 0).withSeqAck con.seq con.ack

/-- The datagrams an operation can hand to the socket. -/
inductive Emitted (ctx : Glbctx cfg) : Op cfg → Datagram → Prop
  /-- The timers of an established slot send the heads of its send queues. -/
  | data {i : Fin cfg.connectionCount} {env : Env} {d : Datagram} {c : Fin cfg.channelCount}
      (hest : (ctx.connections i).state = .established)
      (hhead : CarriesHead (ctx.connections i) c d) : Emitted ctx (.timers i env) d
  /-- They also send PINGs. -/
  | ping {i : Fin cfg.connectionCount} {env : Env} {d : Datagram}
      (hest : (ctx.connections i).state = .established)
      (hping : IsPing (ctx.connections i) d) : Emitted ctx (.timers i env) d
  /-- The timers of a connecting slot send its SYN. -/
  | syn {i : Fin cfg.connectionCount} {env : Env}
      (hstate : (ctx.connections i).state = .synSent) :
      Emitted ctx (.timers i env) ⟨(synPkg (ctx.connections i)).seal, (ctx.connections i).peerAddr⟩
  /-- The timers of a half open slot send its SYN|ACK. -/
  | synAck {i : Fin cfg.connectionCount} {env : Env}
      (hstate : (ctx.connections i).state = .synRcvd) :
      Emitted ctx (.timers i env)
        ⟨(synAckPkg (ctx.connections i)).seal, (ctx.connections i).peerAddr⟩
  /-- The timers of a closing slot send its FIN. -/
  | fin {i : Fin cfg.connectionCount} {env : Env}
      (hstate : (ctx.connections i).state = .finSent) :
      Emitted ctx (.timers i env)
        ⟨(glbpkgInit (ctx.connections i).connId ctrlFlagFin 0).seal, (ctx.connections i).peerAddr⟩
  /-- A SYN that finds no slot is refused. -/
  | rst {pkg : Glbpkg} {from_ : Glbaddr} {env : Env} (hsyn : pkg.IsSyn) :
      Emitted ctx (.packet pkg from_ env) ⟨(glbpkgInit ⟨0xFFFF, 0⟩ ctrlFlagRst 0).seal, from_⟩
  /-- A SYN|ACK of an established slot 0 is answered with the counters of its channel 0. -/
  | ackAgain {pkg : Glbpkg} {from_ : Glbaddr} {env : Env} {i : Fin cfg.connectionCount}
      {chs : Glbchannels cfg.channelCount} (hflags : pkg.header.ctrlFlags = ctrlFlagSynAck)
      (hi : i.val = 0) (hest : (ctx.connections i).state = .established)
      (hchs : (ctx.connections i).channels = some chs) :
      Emitted ctx (.packet pkg from_ env) ⟨(ackPkg (ctx.connections i).connId
        (chs.chan cfg.channel0).seq (chs.chan cfg.channel0).ack).seal, (ctx.connections i).peerAddr⟩
  /-- Any other SYN|ACK is answered with the numbers of the handshake. -/
  | ack {pkg : Glbpkg} {from_ : Glbaddr} {env : Env} {i : Fin cfg.connectionCount}
      (hflags : pkg.header.ctrlFlags = ctrlFlagSynAck) (hi : i.val = 0)
      (hstate : (ctx.connections i).state ≠ .established) :
      Emitted ctx (.packet pkg from_ env) ⟨(ackPkg
        (if (ctx.connections i).state = .synSent then pkg.conId else (ctx.connections i).connId)
        (ctx.connections i).seq pkg.header.seq).seal, (ctx.connections i).peerAddr⟩
  /-- A FIN is answered. -/
  | finAck {pkg : Glbpkg} {from_ : Glbaddr} {env : Env} {i : Fin cfg.connectionCount}
      (hflags : pkg.header.ctrlFlags = ctrlFlagFin) (hfind : pkg.Finds ctx i) :
      Emitted ctx (.packet pkg from_ env)
        ⟨(glbpkgInit (ctx.connections i).connId ctrlFlagFinAck 0).seal,
          (ctx.connections i).peerAddr⟩
  /-- DATA on a reliable channel that is old or next is acknowledged, to where it came from. -/
  | dataAck {pkg : Glbpkg} {from_ : Glbaddr} {env : Env} {i : Fin cfg.connectionCount}
      {c : Fin cfg.channelCount} {chs : Glbchannels cfg.channelCount}
      (hflags : pkg.header.ctrlFlags = ctrlFlagData) (hreach : pkg.Reaches ctx i c chs)
      (hrel : (chs.chan c).reliable = true)
      (hseq : pkg.header.seq < (chs.chan c).ack ∧ (ctx.connections i).peerAddr = from_ ∨
        pkg.header.seq = (chs.chan c).ack) :
      Emitted ctx (.packet pkg from_ env)
        ⟨(ctx.dataAckPkg i (chs.chan c) pkg.header.channelId pkg.header.seq).seal, from_⟩
  /-- A PING is answered, to where it came from. -/
  | pong {pkg : Glbpkg} {from_ : Glbaddr} {env : Env}
      (hflags : pkg.header.ctrlFlags = ctrlFlagPing) :
      Emitted ctx (.packet pkg from_ env)
        ⟨((glbpkgInit pkg.conId ctrlFlagPong pkg.header.channelId).withSeqAck pkg.header.seq
          pkg.header.ack).seal, from_⟩

variable {ctx ctx' : Glbctx cfg} {i : Fin cfg.connectionCount} {pkg : Glbpkg} {from_ : Glbaddr}
  {env : Env}

/-! ### Branch by branch -/

theorem openSyn_emits {P : Datagram → Prop} : Emits P ctx (ctx.openSyn i from_ env) := by
  rw [openSyn]
  split
  · exact .refl _
  · exact .of_sock_eq rfl

/-- A SYN is answered only if it finds no slot. -/
theorem sock_onSyn (ctx : Glbctx cfg) (pkg : Glbpkg) (from_ : Glbaddr) (env : Env) :
    (ctx.onSyn pkg from_ env).sock = ctx.sock ∨
      ctx.findConnByAddr from_ = none ∧ ctx.findEmptyConn = none := by
  have hopen : ∀ (ctx₁ : Glbctx cfg) (i), (ctx₁.openSyn i from_ env).sock = ctx₁.sock := by
    intro ctx₁ i
    rw [openSyn]
    split <;> rfl
  rcases haddr : ctx.findConnByAddr from_ with - | i
  · rcases hempty : ctx.findEmptyConn with - | ⟨i, ctx₁⟩
    · exact Or.inr ⟨rfl, rfl⟩
    · obtain ⟨-, rfl⟩ := findEmptyConn_eq_some hempty
      simp only [onSyn, haddr, hempty]
      refine Or.inl ((hopen _ _).trans ?_)
      simp [generateSeq, generateClientId_eq]
  · simp only [onSyn, haddr]
    exact Or.inl (hopen _ _)

theorem onSyn_emits (hsyn : pkg.IsSyn) :
    Emits (Emitted ctx (.packet pkg from_ env)) ctx (ctx.onSyn pkg from_ env) := by
  rcases haddr : ctx.findConnByAddr from_ with - | i
  · rcases hempty : ctx.findEmptyConn with - | ⟨i, ctx₁⟩ <;> simp only [onSyn, haddr, hempty]
    · exact emits_glbioSend (.rst hsyn)
    · obtain ⟨-, rfl⟩ := findEmptyConn_eq_some hempty
      refine Emits.trans (.of_sock_eq ?_) openSyn_emits
      simp [generateSeq, generateClientId_eq]
  · simp only [onSyn, haddr]
    exact openSyn_emits

theorem onAck_emits {P : Datagram → Prop} (h : ctx.onAck pkg env = some ctx') :
    Emits P ctx ctx' := by
  rcases hfind : ctx.findConn pkg.header.clientGen pkg.header.clientId with - | i <;>
    simp only [onAck, hfind] at h
  · cases h; exact .refl _
  split at h
  · cases h; exact .refl _
  rcases createConChannels_spec (ctx.setCon i { ctx.connections i with state := .established })
    i env with ⟨-, hnone⟩ | ⟨chs, a', -, heq⟩
  · rw [writeAck_of_none _ hnone] at h
    cases h
  · rw [heq, writeAck_of_some chs _ (by simp)] at h
    cases h
    exact .of_sock_eq rfl

theorem replySynAck_emits (h : ctx.replySynAck i env = some ctx') :
    ∃ chs, (ctx.connections i).channels = some chs ∧
      Emits (· = ⟨(ackPkg (ctx.connections i).connId (chs.chan cfg.channel0).seq
        (chs.chan cfg.channel0).ack).seal, (ctx.connections i).peerAddr⟩) ctx ctx' := by
  obtain ⟨chs, hchs, h⟩ := Option.map_eq_some_iff.1 h
  refine ⟨chs, hchs, ?_⟩
  cases hok : env.sendOk 0 with
  | false =>
    rw [hok] at h
    cases h
    exact .of_sock_eq rfl
  | true =>
    rw [hok] at h
    cases h
    exact ⟨_, rfl, fun d hd ↦ List.mem_singleton.1 hd⟩

theorem adoptConId_emits {P : Datagram → Prop} : Emits P ctx (ctx.adoptConId i pkg) := by
  rw [adoptConId]
  split
  · exact .of_sock_eq rfl
  · exact .refl _

theorem acceptSynAck_emits {P : Datagram → Prop} (h : ctx.acceptSynAck i pkg env = some ctx') :
    Emits P ctx ctx' := by
  rw [acceptSynAck] at h
  split at h
  · cases h; exact .refl _
  rcases createConChannels_spec ctx i env with ⟨-, hnone⟩ | ⟨chs, a', -, heq⟩
  · rw [writeAck_of_none _ (by simpa using hnone)] at h
    cases h
  · rw [heq, writeAck_of_some chs _ (by simp)] at h
    cases h
    exact .of_sock_eq rfl

theorem onSynAck_emits (hflags : pkg.header.ctrlFlags = ctrlFlagSynAck)
    (h : ctx.onSynAck pkg env = some ctx') :
    Emits (Emitted ctx (.packet pkg from_ env)) ctx ctx' := by
  by_cases hpos : 0 < cfg.connectionCount
  case neg => rw [onSynAck, dif_neg hpos] at h; cases h
  rw [onSynAck, dif_pos hpos] at h
  obtain ⟨ctx₁, h₁, h₂⟩ := Option.bind_eq_some_iff.1 h
  obtain ⟨chs, hchs, hreply⟩ := replySynAck_emits h₂
  refine adoptConId_emits.trans ((acceptSynAck_emits h₁).trans (hreply.mono fun d hd ↦ ?_))
  subst hd
  have hadopt := becomes_adoptConId ctx ⟨0, hpos⟩ pkg
  by_cases hstate : (ctx.connections ⟨0, hpos⟩).state = .established
  · -- nothing changed before the answer
    have hsame : ctx.adoptConId ⟨0, hpos⟩ pkg = ctx := if_neg (by rw [hstate]; decide)
    rw [hsame, acceptSynAck, if_pos hstate] at h₁
    cases h₁
    exact .ackAgain hflags rfl hstate hchs
  · -- the answer reads back what was just written
    obtain ⟨chs', a', -, hb⟩ := acceptSynAck_eq_some (by rw [hadopt.self]; exact hstate) h₁
    rw [hb.self, hadopt.self] at hchs ⊢
    cases hchs
    exact .ack hflags rfl hstate

theorem onFin_emits (hflags : pkg.header.ctrlFlags = ctrlFlagFin) :
    Emits (Emitted ctx (.packet pkg from_ env)) ctx (ctx.onFin pkg env) := by
  rcases hfind : ctx.findConn pkg.header.clientGen pkg.header.clientId with - | i <;>
    simp only [onFin, hfind]
  · exact .refl _
  cases hok : env.sendOk 0 with
  | false => exact .of_sock_eq rfl
  | true =>
    have hsend : Emits (Emitted ctx (.packet pkg from_ env)) ctx
        (ctx.glbioSend (glbpkgInit (ctx.connections i).connId ctrlFlagFinAck 0)
          (ctx.connections i).peerAddr true).2 := emits_glbioSend (.finAck hflags hfind)
    rw [glbioSend_of_ok] at hsend ⊢
    dsimp only at hsend ⊢
    split
    · exact hsend.trans (.of_sock_eq (sock_closeCon _))
    · exact hsend

theorem onFinAck_emits {P : Datagram → Prop} : Emits P ctx (ctx.onFinAck pkg) := by
  rw [onFinAck]
  split
  · exact .refl _
  · split
    · exact .of_sock_eq (sock_closeCon _)
    · exact .refl _

theorem onRst_emits {P : Datagram → Prop} : Emits P ctx (ctx.onRst pkg) := by
  rw [onRst]
  split
  · exact .refl _
  · split
    · refine .of_sock_eq ?_
      rw [freeConChannels_snd]
      rfl
    · exact .of_sock_eq rfl

theorem onData_emits (hflags : pkg.header.ctrlFlags = ctrlFlagData)
    (h : ctx.onData pkg from_ env = some ctx') :
    Emits (Emitted ctx (.packet pkg from_ env)) ctx ctx' := by
  cases onData_effect h with
  | ignored heq => rw [heq]; exact .refl _
  | old hreach hrel hlt haddr heq =>
    rw [heq]
    exact emits_glbioSend (.dataAck hflags hreach hrel (Or.inl ⟨hlt, haddr⟩))
  | future _ _ _ _ heq => rw [heq]; exact .of_sock_eq rfl
  | accepted hreach hseq _ _ hsock =>
    refine ⟨_, hsock, fun d hd ↦ ?_⟩
    split at hd
    · next hrel =>
      rw [List.mem_singleton.1 hd]
      exact .dataAck hflags hreach hrel.1 (Or.inr (hseq hrel.1))
    · cases hd

theorem onDataAck_emits {P : Datagram → Prop} (h : ctx.onDataAck pkg = some ctx') :
    Emits P ctx ctx' := by
  cases onDataAck_effect h with
  | ignored heq => rw [heq]; exact .refl _
  | popped _ _ _ heq => rw [heq]; exact .of_sock_eq rfl

theorem onPong_emits {P : Datagram → Prop} : Emits P ctx (ctx.onPong pkg env) := by
  rw [onPong]
  split
  · exact .refl _
  · exact .of_sock_eq rfl

theorem handlePacket_emits (h : ctx.handlePacket pkg from_ env = some ctx') :
    Emits (Emitted ctx (.packet pkg from_ env)) ctx ctx' := by
  cases handlePacket_cases h with
  | syn hsyn => exact onSyn_emits hsyn
  | ack _ h => exact onAck_emits h
  | synAck hflags h => exact onSynAck_emits hflags h
  | fin hflags => exact onFin_emits hflags
  | finAck => exact onFinAck_emits
  | data hflags h => exact onData_emits hflags h
  | dataAck _ h => exact onDataAck_emits h
  | ping hflags => exact emits_glbioSend (.pong hflags)
  | pong => exact onPong_emits
  | rst => exact onRst_emits
  | ignored => exact .refl _

theorem handleTimers_emits (h : ctx.handleTimers i env = some ctx') :
    Emits (Emitted ctx (.timers i env)) ctx ctx' := by
  cases handleTimers_cases h with
  | idle => exact .refl _
  | syn hstate => exact (emits_glbioSend (.syn hstate)).trans (.of_sock_eq rfl)
  | synAck hstate => exact (emits_glbioSend (.synAck hstate)).trans (.of_sock_eq rfl)
  | fin hstate => exact (emits_glbioSend (.fin hstate)).trans (.of_sock_eq rfl)
  | gaveUp | dropped => exact .of_sock_eq rfl
  | closed => exact .of_sock_eq (sock_closeCon _)
  | established hstate =>
    obtain ⟨-, -, -, hemits⟩ := handleTimers_of_established hstate h
    refine hemits.mono fun d hd ↦ ?_
    rcases hd with ⟨c, hd⟩ | hd
    · exact .data hstate hd
    · exact .ping hstate hd

/-- **Everything one step can send.** -/
theorem step_emits {op : Op cfg} (h : Step ctx op ctx') : Emits (Emitted ctx op) ctx ctx' := by
  cases op with
  | connect now =>
    obtain ⟨⟨code, ctx₁⟩, hconnect, rfl⟩ := Option.map_eq_some_iff.1 h
    rw [glbConnect] at hconnect
    split at hconnect
    · rcases haddr : cfg.inetAddr with - | addr <;> simp only [haddr] at hconnect <;>
        cases hconnect <;> exact .of_sock_eq rfl
    · cases hconnect
  | close i now =>
    cases h
    rw [glbClose]
    split
    · exact .refl _
    · exact .of_sock_eq rfl
  | send info now =>
    obtain ⟨⟨code, ctx₁⟩, hsend, rfl⟩ := Option.map_eq_some_iff.1 h
    cases glbSend_effect hsend with
    | refused => exact .of_sock_eq rfl
    | queued => exact .of_sock_eq rfl
  | pollevent =>
    cases h
    rw [glbPollevent]
    split
    · exact .of_sock_eq rfl
    · exact .refl _
  | popdata info =>
    obtain ⟨⟨code, data, ctx₁⟩, hpop, rfl⟩ := Option.map_eq_some_iff.1 h
    cases glbPopdata_effect hpop with
    | failed => exact .refl _
    | popped => exact .of_sock_eq rfl
  | readError => cases h; exact .of_sock_eq rfl
  | packet pkg from_ env => exact handlePacket_emits h
  | timers i env => exact handleTimers_emits h

/-! ### By control flags -/

variable {op : Op cfg}

/-- What a datagram is if it is not about the handshake, or else where its numbers come from. -/
theorem emitted_cases {d : Datagram} (htag : ctx.Tagged) (h : Emitted ctx op d) :
    (d.pkg.header.ctrlFlags ≠ ctrlFlagSyn ∧ d.pkg.header.ctrlFlags ≠ ctrlFlagSynAck ∧
        d.pkg.header.ctrlFlags ≠ ctrlFlagAck) ∨
      (∃ i, (ctx.connections i).state = .synSent ∧ d.pkg.header.ctrlFlags = ctrlFlagSyn ∧
        d.pkg.header.seq = (ctx.connections i).seq) ∨
      (∃ i, (ctx.connections i).state = .synRcvd ∧ d.pkg.header.ctrlFlags = ctrlFlagSynAck ∧
        d.pkg.header.seq = (ctx.connections i).seq) ∨
      (op.Handles ctrlFlagSynAck ∧ d.pkg.header.ctrlFlags = ctrlFlagAck) := by
  cases h with
  | data _ hhead =>
    obtain ⟨chs, head, rest, hchs, hhead, rfl⟩ := hhead
    obtain ⟨hflags, -⟩ := htag _ _ _ ⟨chs, hchs, rfl⟩ head (by rw [hhead]; exact List.mem_cons_self)
    refine Or.inl ?_
    show head.header.ctrlFlags ≠ _ ∧ head.header.ctrlFlags ≠ _ ∧ head.header.ctrlFlags ≠ _
    rw [hflags]
    decide
  | ping _ hping =>
    obtain ⟨seq, ack, rfl⟩ := hping
    exact Or.inl (show ctrlFlagPing ≠ _ ∧ ctrlFlagPing ≠ _ ∧ ctrlFlagPing ≠ _ by decide)
  | syn hstate => exact Or.inr (Or.inl ⟨_, hstate, rfl, rfl⟩)
  | synAck hstate => exact Or.inr (Or.inr (Or.inl ⟨_, hstate, rfl, rfl⟩))
  | ackAgain hflags | ack hflags => exact Or.inr (Or.inr (Or.inr ⟨hflags, rfl⟩))
  | fin => exact Or.inl (show ctrlFlagFin ≠ _ ∧ ctrlFlagFin ≠ _ ∧ ctrlFlagFin ≠ _ by decide)
  | rst => exact Or.inl (show ctrlFlagRst ≠ _ ∧ ctrlFlagRst ≠ _ ∧ ctrlFlagRst ≠ _ by decide)
  | finAck =>
    exact Or.inl (show ctrlFlagFinAck ≠ _ ∧ ctrlFlagFinAck ≠ _ ∧ ctrlFlagFinAck ≠ _ by decide)
  | dataAck =>
    exact Or.inl (show ctrlFlagDataAck ≠ _ ∧ ctrlFlagDataAck ≠ _ ∧ ctrlFlagDataAck ≠ _ by decide)
  | pong => exact Or.inl (show ctrlFlagPong ≠ _ ∧ ctrlFlagPong ≠ _ ∧ ctrlFlagPong ≠ _ by decide)

/-- A DATA packet is the head of a send queue of an established slot. -/
theorem emitted_data {d : Datagram} (h : Emitted ctx op d)
    (hflags : d.pkg.header.ctrlFlags = ctrlFlagData) : ∃ i env c, op = .timers i env ∧
      (ctx.connections i).state = .established ∧ CarriesHead (ctx.connections i) c d := by
  cases h with
  | data hest hhead => exact ⟨_, _, _, rfl, hest, hhead⟩
  | ping _ hping =>
    obtain ⟨seq, ack, rfl⟩ := hping
    exact absurd hflags (show ctrlFlagPing ≠ ctrlFlagData by decide)
  | syn => exact absurd hflags (show ctrlFlagSyn ≠ ctrlFlagData by decide)
  | synAck => exact absurd hflags (show ctrlFlagSynAck ≠ ctrlFlagData by decide)
  | fin => exact absurd hflags (show ctrlFlagFin ≠ ctrlFlagData by decide)
  | rst => exact absurd hflags (show ctrlFlagRst ≠ ctrlFlagData by decide)
  | ackAgain | ack => exact absurd hflags (show ctrlFlagAck ≠ ctrlFlagData by decide)
  | finAck => exact absurd hflags (show ctrlFlagFinAck ≠ ctrlFlagData by decide)
  | dataAck => exact absurd hflags (show ctrlFlagDataAck ≠ ctrlFlagData by decide)
  | pong => exact absurd hflags (show ctrlFlagPong ≠ ctrlFlagData by decide)

/-- A DATA|ACK answers a DATA packet for an established slot. -/
theorem emitted_dataAck {d : Datagram} (htag : ctx.Tagged) (h : Emitted ctx op d)
    (hflags : d.pkg.header.ctrlFlags = ctrlFlagDataAck) : ∃ pkg from_ env i c chs,
      op = .packet pkg from_ env ∧ pkg.header.ctrlFlags = ctrlFlagData ∧ pkg.Reaches ctx i c chs ∧
      d.pkg = (ctx.dataAckPkg i (chs.chan c) pkg.header.channelId pkg.header.seq).seal := by
  cases h with
  | dataAck hdata hreach => exact ⟨_, _, _, _, _, _, rfl, hdata, hreach, rfl⟩
  | data _ hhead =>
    obtain ⟨chs, head, rest, hchs, hhead, rfl⟩ := hhead
    obtain ⟨hdata, -⟩ := htag _ _ _ ⟨chs, hchs, rfl⟩ head (by rw [hhead]; exact List.mem_cons_self)
    exact absurd (hdata.symm.trans hflags) (by decide)
  | ping _ hping =>
    obtain ⟨seq, ack, rfl⟩ := hping
    exact absurd hflags (show ctrlFlagPing ≠ ctrlFlagDataAck by decide)
  | syn => exact absurd hflags (show ctrlFlagSyn ≠ ctrlFlagDataAck by decide)
  | synAck => exact absurd hflags (show ctrlFlagSynAck ≠ ctrlFlagDataAck by decide)
  | fin => exact absurd hflags (show ctrlFlagFin ≠ ctrlFlagDataAck by decide)
  | rst => exact absurd hflags (show ctrlFlagRst ≠ ctrlFlagDataAck by decide)
  | ackAgain | ack => exact absurd hflags (show ctrlFlagAck ≠ ctrlFlagDataAck by decide)
  | finAck => exact absurd hflags (show ctrlFlagFinAck ≠ ctrlFlagDataAck by decide)
  | pong => exact absurd hflags (show ctrlFlagPong ≠ ctrlFlagDataAck by decide)

end Glbctx

end Gilberta
