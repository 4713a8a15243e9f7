import Gilberta.Effects.Step

/-!
# What the operations on data do

`glb_send`, `glb_popdata`, the DATA and DATA|ACK branches and the transmission loop each get one
description of everything they can do to the channel they work on, with the conditions under which
they do it. Each description is exhaustive and its cases exclude each other, so it says both what
happened and what must have been the case.
-/

namespace Gilberta

variable {cfg : Glbcfg}

/-- A data packet leads to channel `c` of the established slot `i`, whose channel array is `chs`. -/
structure Glbpkg.Reaches (p : Glbpkg) (ctx : Glbctx cfg) (i : Fin cfg.connectionCount)
    (c : Fin cfg.channelCount) (chs : Glbchannels cfg.channelCount) : Prop where
  /-- The id is the one of the slot. -/
  finds : p.Finds ctx i
  /-- The slot is established. -/
  established : (ctx.connections i).state = .established
  /-- The slot has a channel array. -/
  channels : (ctx.connections i).channels = some chs
  /-- The packet is for this channel. -/
  channel : p.header.channelId.toNat = c.val

theorem Glbpkg.Reaches.unique {p : Glbpkg} {ctx : Glbctx cfg} {i j : Fin cfg.connectionCount}
    {c d : Fin cfg.channelCount} {chs chs' : Glbchannels cfg.channelCount}
    (h : p.Reaches ctx i c chs) (h' : p.Reaches ctx j d chs') : i = j ∧ c = d ∧ chs = chs' := by
  obtain rfl : i = j := Option.some_inj.1 (h.finds.symm.trans h'.finds)
  exact ⟨rfl, Fin.ext (h.channel.symm.trans h'.channel),
    Option.some_inj.1 (h.channels.symm.trans h'.channels)⟩

theorem glbctxAddrequal_eq_success_iff {a b : Glbaddr} :
    glbctxAddrequal a b = .success ↔ a = b := by
  obtain ⟨x, y⟩ := a
  obtain ⟨z, w⟩ := b
  simp only [glbctxAddrequal, Glbaddr.mk.injEq]
  split <;> simp [*]

namespace Glbctx

variable {ctx ctx' : Glbctx cfg} {i : Fin cfg.connectionCount} {c : Fin cfg.channelCount}
  {chs : Glbchannels cfg.channelCount} {pkg : Glbpkg} {from_ : Glbaddr} {env : Env}

/-- A data branch works on the channel its packet leads to. -/
theorem withChannel_of_reaches
    {k : Fin cfg.connectionCount → Fin cfg.channelCount → Glbchannel → Glbctx cfg}
    (h : pkg.Reaches ctx i c chs) : ctx.withChannel pkg k = some (k i c (chs.chan c)) := by
  have hfind : ctx.findConn pkg.header.clientGen pkg.header.clientId = some i := h.finds
  have hlt : pkg.header.channelId.toNat < cfg.channelCount := by
    rw [h.channel]; exact c.isLt
  obtain rfl : c = ⟨_, hlt⟩ := Fin.ext h.channel.symm
  simp only [withChannel, hfind, h.established, h.channels, hlt, ne_eq, not_true_eq_false, if_false,
    dif_pos, Option.map_some]

/-- A data branch does nothing when its packet leads nowhere. -/
theorem withChannel_cases
    {k : Fin cfg.connectionCount → Fin cfg.channelCount → Glbchannel → Glbctx cfg}
    (h : ctx.withChannel pkg k = some ctx') :
    (ctx' = ctx ∧ ∀ i c chs, ¬ pkg.Reaches ctx i c chs) ∨
      ∃ i c chs, pkg.Reaches ctx i c chs ∧ ctx' = k i c (chs.chan c) := by
  by_cases hreach : ∃ i c chs, pkg.Reaches ctx i c chs
  · obtain ⟨i, c, chs, hr⟩ := hreach
    rw [withChannel_of_reaches hr] at h
    exact Or.inr ⟨i, c, chs, hr, (Option.some_inj.1 h).symm⟩
  · have hnot : ∀ i c chs, ¬ pkg.Reaches ctx i c chs := fun i c chs hr ↦ hreach ⟨i, c, chs, hr⟩
    rcases withChannel_eq_some h with rfl | ⟨i, c, chs, hfind, hest, hchs, hc, -⟩
    · exact Or.inl ⟨rfl, hnot⟩
    · exact absurd ⟨hfind, hest, hchs, hc⟩ (hnot i c chs)

/-! ### DATA -/

/-- The channel after a packet was taken. -/
def acceptedChan (chan : Glbchannel) (pkg : Glbpkg) : Glbchannel :=
  { chan with rQueue := (chan.rQueue.push pkg).2, ack := chan.ack + 1 }

/-- Everything the DATA branch can do. -/
inductive DataEffect (ctx : Glbctx cfg) (pkg : Glbpkg) (from_ : Glbaddr) (env : Env)
    (ctx' : Glbctx cfg) : Prop
  /-- The packet leads nowhere, or comes from another address out of turn. -/
  | ignored (heq : ctx' = ctx)
      (hnot : ∀ i c chs, pkg.Reaches ctx i c chs → (ctx.connections i).peerAddr ≠ from_ ∧
        ¬ ((chs.chan c).reliable = true ∧ pkg.header.seq = (chs.chan c).ack))
  /-- An old packet of a reliable channel is acknowledged again. -/
  | old {i : Fin cfg.connectionCount} {c : Fin cfg.channelCount}
      {chs : Glbchannels cfg.channelCount} (hreach : pkg.Reaches ctx i c chs)
      (hrel : (chs.chan c).reliable = true) (hlt : pkg.header.seq < (chs.chan c).ack)
      (haddr : (ctx.connections i).peerAddr = from_)
      (heq : ctx' = (ctx.glbioSend (ctx.dataAckPkg i (chs.chan c) pkg.header.channelId
        pkg.header.seq) from_ (env.sendOk 0)).2)
  /-- A packet of a reliable channel from the future is counted. -/
  | future {i : Fin cfg.connectionCount} {c : Fin cfg.channelCount}
      {chs : Glbchannels cfg.channelCount} (hreach : pkg.Reaches ctx i c chs)
      (hrel : (chs.chan c).reliable = true) (hlt : (chs.chan c).ack < pkg.header.seq)
      (haddr : (ctx.connections i).peerAddr = from_)
      (heq : ctx' = ctx.setCon i { ctx.connections i with
        desyncCount := (ctx.connections i).desyncCount + 1 })
  /-- The packet is taken. -/
  | accepted {i : Fin cfg.connectionCount} {c : Fin cfg.channelCount}
      {chs : Glbchannels cfg.channelCount} (hreach : pkg.Reaches ctx i c chs)
      (hseq : (chs.chan c).reliable = true → pkg.header.seq = (chs.chan c).ack)
      (haddr : (chs.chan c).reliable = false → (ctx.connections i).peerAddr = from_)
      (hb : ctx.Becomes ctx' i { ctx.connections i with
          peerAddr := from_
          channels := some (chs.set c (acceptedChan (chs.chan c) pkg)) } ctx.allocator
        ((if (ctx.connections i).peerAddr = from_ then [] else [.migration i]) ++
          [.receive i pkg.header.channelId]))
      (hsock : ctx'.sock = ctx.sock ++
        if (chs.chan c).reliable = true ∧ env.sendOk 0 = true then
          [⟨(ctx.dataAckPkg i (chs.chan c) pkg.header.channelId pkg.header.seq).seal, from_⟩]
        else [])

/-- Taking a packet from the address the slot already has. -/
theorem receiveData_of_accepted (env : Env) (hchs : (ctx.connections i).channels = some chs)
    (hseq : (chs.chan c).reliable = true → pkg.header.seq = (chs.chan c).ack) :
    ctx.Becomes (ctx.receiveData i c (chs.chan c) pkg env) i { ctx.connections i with
        channels := some (chs.set c (acceptedChan (chs.chan c) pkg)) } ctx.allocator
      [.receive i pkg.header.channelId] ∧
    (ctx.receiveData i c (chs.chan c) pkg env).sock = ctx.sock ++
      if (chs.chan c).reliable = true ∧ env.sendOk 0 = true then
        [⟨(ctx.dataAckPkg i (chs.chan c) pkg.header.channelId pkg.header.seq).seal,
          (ctx.connections i).peerAddr⟩]
      else [] := by
  have hold : ¬ (pkg.header.seq < (chs.chan c).ack ∧ (chs.chan c).reliable = true) :=
    fun ⟨hlt, hrel⟩ ↦ absurd (hseq hrel ▸ hlt) (UInt32.lt_irrefl _)
  have hfuture : ¬ (pkg.header.seq > (chs.chan c).ack ∧ (chs.chan c).reliable = true) :=
    fun ⟨hlt, hrel⟩ ↦ absurd (hseq hrel ▸ hlt) (UInt32.lt_irrefl _)
  rw [receiveData]
  simp only [hold, hfuture, if_false]
  cases hrel : (chs.chan c).reliable <;>
    refine ⟨⟨?_, fun j hj ↦ ?_, ?_, ?_, ?_, ?_, ?_⟩, ?_⟩ <;>
      simp [setChan, acceptedChan, connections_setCon_of_ne, *]

/-- A packet that is taken is taken from whatever address it comes, moving the connection there. -/
theorem checkAddrData_of_accepted (hreach : pkg.Reaches ctx i c chs)
    (hseq : (chs.chan c).reliable = true → pkg.header.seq = (chs.chan c).ack)
    (haddr : (chs.chan c).reliable = false → (ctx.connections i).peerAddr = from_) :
    DataEffect ctx pkg from_ env (ctx.checkAddrData i c (chs.chan c) pkg from_ env) := by
  by_cases hsame : (ctx.connections i).peerAddr = from_
  · obtain ⟨hb, hsock⟩ := receiveData_of_accepted env hreach.channels hseq
    subst hsame
    rw [checkAddrData, if_neg (not_not.2 (glbctxAddrequal_eq_success_iff.2 rfl))]
    refine .accepted hreach hseq haddr ?_ hsock
    simpa using hb
  · have hrel : (chs.chan c).reliable = true := by
      by_contra hrel
      exact hsame (haddr (by simpa using hrel))
    rw [checkAddrData, if_pos (fun h ↦ hsame (glbctxAddrequal_eq_success_iff.1 h)),
      if_pos ⟨hrel, hseq hrel⟩]
    have hmove := becomes_setCon ctx i { ctx.connections i with peerAddr := from_ }
    have hpush := becomes_pushEvent (ctx.setCon i { ctx.connections i with peerAddr := from_ }) i
      (.migration i)
    have hchs : (((ctx.setCon i { ctx.connections i with peerAddr := from_ }).pushEvent
        (.migration i)).connections i).channels = some chs := by simpa using hreach.channels
    obtain ⟨hb, hsock⟩ := receiveData_of_accepted env hchs hseq
    have hall := (hmove.trans hpush).trans hb
    refine .accepted hreach hseq haddr ?_ ?_
    · simpa [hsame] using hall
    · simpa [dataAckPkg] using hsock

/-- **Everything the DATA branch can do.** -/
theorem onData_effect (h : ctx.onData pkg from_ env = some ctx') :
    DataEffect ctx pkg from_ env ctx' := by
  rcases withChannel_cases h with ⟨rfl, hnot⟩ | ⟨i, c, chs, hreach, rfl⟩
  · exact .ignored rfl fun i c chs hr ↦ absurd hr (hnot i c chs)
  by_cases haccept : ((chs.chan c).reliable = true → pkg.header.seq = (chs.chan c).ack) ∧
      ((chs.chan c).reliable = false → (ctx.connections i).peerAddr = from_)
  · exact checkAddrData_of_accepted hreach haccept.1 haccept.2
  by_cases haddr : (ctx.connections i).peerAddr = from_
  · -- from the address of the slot: only the number is wrong
    rw [checkAddrData, if_neg (not_not.2 (glbctxAddrequal_eq_success_iff.2 haddr))]
    obtain ⟨hrel, hne⟩ : (chs.chan c).reliable = true ∧ pkg.header.seq ≠ (chs.chan c).ack := by
      by_contra hcon
      exact haccept ⟨fun hrel ↦ by_contra fun hne ↦ hcon ⟨hrel, hne⟩, fun _ ↦ haddr⟩
    rcases UInt32.lt_or_lt_of_ne hne with hlt | hgt
    · refine .old hreach hrel hlt haddr ?_
      rw [receiveData, if_pos ⟨hlt, hrel⟩, haddr]
    · refine .future hreach hrel hgt haddr ?_
      rw [receiveData, if_neg (fun h ↦ absurd h.1 (UInt32.lt_asymm hgt)), if_pos ⟨hgt, hrel⟩]
  · -- from another address: ignored unless it is next
    have hnot : ¬ ((chs.chan c).reliable = true ∧ pkg.header.seq = (chs.chan c).ack) := by
      rintro ⟨hrel, hseq⟩
      refine haccept ⟨fun _ ↦ hseq, fun hunrel ↦ ?_⟩
      rw [hrel] at hunrel
      cases hunrel
    rw [checkAddrData, if_pos (fun h ↦ haddr (glbctxAddrequal_eq_success_iff.1 h)), if_neg hnot]
    refine .ignored rfl fun j d chs' hreach' ↦ ?_
    obtain ⟨rfl, rfl, rfl⟩ := hreach.unique hreach'
    exact ⟨haddr, hnot⟩

/-- The conditions under which a packet is taken are the ones the branch tests. -/
theorem DataEffect.of_accepted (h : DataEffect ctx pkg from_ env ctx')
    (hreach : pkg.Reaches ctx i c chs)
    (hseq : (chs.chan c).reliable = true → pkg.header.seq = (chs.chan c).ack)
    (haddr : (chs.chan c).reliable = false → (ctx.connections i).peerAddr = from_) :
    ctx.Becomes ctx' i { ctx.connections i with
        peerAddr := from_
        channels := some (chs.set c (acceptedChan (chs.chan c) pkg)) } ctx.allocator
      ((if (ctx.connections i).peerAddr = from_ then [] else [.migration i]) ++
        [.receive i pkg.header.channelId]) ∧
    ctx'.sock = ctx.sock ++
      if (chs.chan c).reliable = true ∧ env.sendOk 0 = true then
        [⟨(ctx.dataAckPkg i (chs.chan c) pkg.header.channelId pkg.header.seq).seal, from_⟩]
      else [] := by
  cases h with
  | ignored _ hnot =>
    obtain ⟨hne, hnext⟩ := hnot i c chs hreach
    cases hrel : (chs.chan c).reliable with
    | true => exact absurd ⟨hrel, hseq hrel⟩ hnext
    | false => exact absurd (haddr hrel) hne
  | old hreach' hrel hlt =>
    obtain ⟨rfl, rfl, rfl⟩ := hreach.unique hreach'
    exact absurd (hseq hrel) (UInt32.ne_of_lt hlt)
  | future hreach' hrel hlt =>
    obtain ⟨rfl, rfl, rfl⟩ := hreach.unique hreach'
    exact absurd (hseq hrel).symm (UInt32.ne_of_lt hlt)
  | accepted hreach' _ _ hb hsock =>
    obtain ⟨rfl, rfl, rfl⟩ := hreach.unique hreach'
    exact ⟨hb, hsock⟩

/-- The packet a reliable channel waits for is taken and acknowledged. -/
theorem DataEffect.of_next (h : DataEffect ctx pkg from_ env ctx')
    (hreach : pkg.Reaches ctx i c chs) (hrel : (chs.chan c).reliable = true)
    (hseq : pkg.header.seq = (chs.chan c).ack) :
    ctx.Becomes ctx' i { ctx.connections i with
        peerAddr := from_
        channels := some (chs.set c (acceptedChan (chs.chan c) pkg)) } ctx.allocator
      ((if (ctx.connections i).peerAddr = from_ then [] else [.migration i]) ++
        [.receive i pkg.header.channelId]) ∧
    ctx'.sock = ctx.sock ++
      if env.sendOk 0 = true then
        [⟨(ctx.dataAckPkg i (chs.chan c) pkg.header.channelId pkg.header.seq).seal, from_⟩]
      else [] := by
  have hall := h.of_accepted hreach (fun _ ↦ hseq) fun hunrel ↦ by
    rw [hrel] at hunrel; cases hunrel
  simpa only [hrel, true_and] using hall

/-- An old packet of a reliable channel is only acknowledged. -/
theorem DataEffect.of_old (h : DataEffect ctx pkg from_ env ctx')
    (hreach : pkg.Reaches ctx i c chs) (hrel : (chs.chan c).reliable = true)
    (hlt : pkg.header.seq < (chs.chan c).ack) (haddr : (ctx.connections i).peerAddr = from_) :
    ctx' = (ctx.glbioSend (ctx.dataAckPkg i (chs.chan c) pkg.header.channelId
      pkg.header.seq) from_ (env.sendOk 0)).2 := by
  cases h with
  | ignored _ hnot => exact absurd haddr (hnot i c chs hreach).1
  | old hreach' _ _ _ heq =>
    obtain ⟨rfl, rfl, rfl⟩ := hreach.unique hreach'
    exact heq
  | future hreach' _ hgt =>
    obtain ⟨rfl, rfl, rfl⟩ := hreach.unique hreach'
    exact absurd hlt (UInt32.lt_asymm hgt)
  | accepted hreach' hseq =>
    obtain ⟨rfl, rfl, rfl⟩ := hreach.unique hreach'
    exact absurd (hseq hrel) (UInt32.ne_of_lt hlt)

/-- A packet of a reliable channel from the future is only counted. -/
theorem DataEffect.of_future (h : DataEffect ctx pkg from_ env ctx')
    (hreach : pkg.Reaches ctx i c chs) (hrel : (chs.chan c).reliable = true)
    (hlt : (chs.chan c).ack < pkg.header.seq) (haddr : (ctx.connections i).peerAddr = from_) :
    ctx' = ctx.setCon i { ctx.connections i with
      desyncCount := (ctx.connections i).desyncCount + 1 } := by
  cases h with
  | ignored _ hnot => exact absurd haddr (hnot i c chs hreach).1
  | old hreach' _ hold =>
    obtain ⟨rfl, rfl, rfl⟩ := hreach.unique hreach'
    exact absurd hlt (UInt32.lt_asymm hold)
  | future hreach' _ _ _ heq =>
    obtain ⟨rfl, rfl, rfl⟩ := hreach.unique hreach'
    exact heq
  | accepted hreach' hseq =>
    obtain ⟨rfl, rfl, rfl⟩ := hreach.unique hreach'
    exact absurd (hseq hrel).symm (UInt32.ne_of_lt hlt)

/-! ### `glb_popdata` -/

/-- Everything `glb_popdata` can do: its code, the bytes it copies out and the context after it. -/
inductive PopEffect (ctx : Glbctx cfg) (info : Glbrecvinfo cfg.connectionCount) :
    GLBErrorCode → List UInt8 → Glbctx cfg → Prop
  /-- The arguments are refused, the queue is empty or the buffer is too small. -/
  | failed {code : GLBErrorCode} (hcode : code ≠ .success)
      (hnot : ∀ (i : Fin cfg.connectionCount) (c : Fin cfg.channelCount) chs pkg rest,
        info.con = some i → info.channelId.toNat = c.val →
        (ctx.connections i).channels = some chs → (chs.chan c).rQueue.elems = pkg :: rest →
        info.hasBuffer = true → info.buflen ≠ 0 → info.buflen < pkg.header.payloadLen.toNat) :
      PopEffect ctx info code [] ctx
  /-- The oldest message is handed out. -/
  | popped {i : Fin cfg.connectionCount} {c : Fin cfg.channelCount}
      {chs : Glbchannels cfg.channelCount} {pkg : Glbpkg} {rest : List Glbpkg}
      (hcon : info.con = some i) (hc : info.channelId.toNat = c.val)
      (hchs : (ctx.connections i).channels = some chs)
      (hhead : (chs.chan c).rQueue.elems = pkg :: rest)
      (hfits : pkg.header.payloadLen.toNat ≤ info.buflen) :
      PopEffect ctx info .success pkg.data
        (ctx.setChan i c { chs.chan c with rQueue := (chs.chan c).rQueue.pop.2.2 })

/-- **Everything `glb_popdata` can do.** -/
theorem glbPopdata_effect {info : Glbrecvinfo cfg.connectionCount} {code : GLBErrorCode}
    {data : List UInt8} (h : ctx.glbPopdata info = some (code, data, ctx')) :
    PopEffect ctx info code data ctx' := by
  rw [glbPopdata] at h
  split at h
  · next hcon =>
    cases h
    exact .failed (by decide) fun i c chs pkg rest hi ↦ by rw [hcon] at hi; cases hi
  · next i hcon =>
    split at h
    · next hbuf =>
      cases h
      refine .failed (by decide) fun j c chs pkg rest _ _ _ _ hb hlen ↦ ?_
      simp [hb, hlen] at hbuf
    · split at h
      · next hc =>
        obtain ⟨chs, hchs, h⟩ := Option.map_eq_some_iff.1 h
        dsimp only at h
        split at h
        · next pkg hpeek =>
          obtain ⟨-, rest, hhead⟩ := Glbqueue.peek_eq_some hpeek
          split at h
          · next hlen =>
            -- the message stays at the head of the queue when the buffer is too small for it
            cases h
            refine .failed (by decide) fun j c chs' pkg' rest' hj hcj hchs' hhead' _ _ ↦ ?_
            obtain rfl : i = j := Option.some_inj.1 (hcon.symm.trans hj)
            obtain rfl : chs = chs' := Option.some_inj.1 (hchs.symm.trans hchs')
            obtain rfl : c = ⟨_, hc⟩ := Fin.ext hcj.symm
            obtain ⟨rfl, -⟩ := List.cons.inj (hhead.symm.trans hhead')
            exact hlen
          · next hlen =>
            cases h
            exact .popped hcon rfl hchs hhead (Nat.not_lt.1 hlen)
        · next hpeek =>
          cases h
          refine .failed (by decide) fun j c chs' pkg' rest' hj hcj hchs' hhead' _ _ ↦ ?_
          obtain rfl : i = j := Option.some_inj.1 (hcon.symm.trans hj)
          obtain rfl : chs = chs' := Option.some_inj.1 (hchs.symm.trans hchs')
          obtain rfl : c = ⟨_, hc⟩ := Fin.ext hcj.symm
          exact absurd (by rw [Glbqueue.peek, hhead']) (hpeek pkg')
      · next hc =>
        cases h
        refine .failed (by decide) fun j c chs pkg rest _ hcj _ _ _ _ ↦ ?_
        exact absurd (hcj ▸ c.isLt) hc

/-! ### `glb_send` -/

/-- The channel after `glb_send` put a packet into its queue. -/
def queuedChan (chan : Glbchannel) (pkg : Glbpkg) : Glbchannel :=
  { chan with sQueue := (chan.sQueue.push pkg).2, seq := chan.seq + 1 }

/-- Everything `glb_send` can do: its code and the context after it. -/
inductive SendEffect (ctx : Glbctx cfg) (info : Glbsendinfo cfg.connectionCount) (now : ℕ) :
    GLBErrorCode → Glbctx cfg → Prop
  /-- The message is refused. -/
  | refused {code : GLBErrorCode} (error : GLBErrorCode) (hcode : code ≠ .success) :
      SendEffect ctx info now code { ctx with error := error }
  /-- The message is queued. -/
  | queued {i : Fin cfg.connectionCount} {c : Fin cfg.channelCount}
      {chs : Glbchannels cfg.channelCount} {data : List UInt8}
      (hcon : info.con = some i) (hdata : info.data = some data)
      (hc : info.channelId.toNat = c.val)
      (hest : (ctx.connections i).state = .established)
      (hchs : (ctx.connections i).channels = some chs)
      (hroom : (chs.chan c).sQueue.isFull = false) :
      SendEffect ctx info now .success (ctx.setChan i c (queuedChan (chs.chan c)
        (sendPkg (ctx.connections i).connId (chs.chan c) info.channelId data now)))

/-- **Everything `glb_send` can do.** -/
theorem glbSend_effect {info : Glbsendinfo cfg.connectionCount} {now : ℕ} {code : GLBErrorCode}
    (h : ctx.glbSend info now = some (code, ctx')) : SendEffect ctx info now code ctx' := by
  have hrefused : ∀ {code : GLBErrorCode}, code ≠ .success →
      SendEffect ctx info now code ctx := fun hcode ↦ .refused ctx.error hcode
  rw [glbSend] at h
  split at h
  · next i data hcon hdata =>
    split at h
    · cases h; exact hrefused (by decide)
    split at h
    · next hc =>
      split at h
      · cases h; exact .refused .messageTooLong (by decide)
      split at h
      · cases h; exact hrefused (by decide)
      next hest =>
      obtain ⟨chs, hchs, h⟩ := Option.map_eq_some_iff.1 h
      dsimp only at h
      split at h
      · cases h; exact hrefused (by decide)
      · next q hfull hpush =>
        cases h
        obtain rfl := congrArg Prod.snd hpush
        have hroom : (chs.chan ⟨_, hc⟩).sQueue.isFull = false := by
          by_contra hcon
          have hcode := congrArg Prod.fst hpush
          rw [Glbqueue.push_fst, if_pos (by simpa using hcon)] at hcode
          exact hfull hcode.symm
        exact .queued hcon hdata rfl (not_not.1 hest) hchs hroom
    · cases h; exact hrefused (by decide)
  · cases h; exact hrefused (by decide)

/-! ### DATA|ACK -/

/-- Everything the DATA|ACK branch can do. -/
inductive AckEffect (ctx : Glbctx cfg) (pkg : Glbpkg) (ctx' : Glbctx cfg) : Prop
  /-- The packet leads nowhere or does not acknowledge the head of the queue. -/
  | ignored (heq : ctx' = ctx)
      (hnot : ∀ i c chs head rest, pkg.Reaches ctx i c chs →
        (chs.chan c).sQueue.elems = head :: rest → head.header.seq ≠ pkg.header.ack)
  /-- The head of the queue is dropped. -/
  | popped {i : Fin cfg.connectionCount} {c : Fin cfg.channelCount}
      {chs : Glbchannels cfg.channelCount} {head : Glbpkg} {rest : List Glbpkg}
      (hreach : pkg.Reaches ctx i c chs) (hhead : (chs.chan c).sQueue.elems = head :: rest)
      (hseq : head.header.seq = pkg.header.ack)
      (heq : ctx' = ctx.setChan i c
        { chs.chan c with sQueue := (chs.chan c).sQueue.pop.2.2 })

/-- **Everything the DATA|ACK branch can do.** -/
theorem onDataAck_effect (h : ctx.onDataAck pkg = some ctx') : AckEffect ctx pkg ctx' := by
  rcases withChannel_cases h with ⟨rfl, hnot⟩ | ⟨i, c, chs, hreach, rfl⟩
  · exact .ignored rfl fun i c chs _ _ hr ↦ absurd hr (hnot i c chs)
  split
  · next head hpeek =>
    obtain ⟨-, rest, hhead⟩ := Glbqueue.peek_eq_some hpeek
    split
    · next hseq => exact .popped hreach hhead hseq rfl
    · next hseq =>
      refine .ignored rfl fun j d chs' head' rest' hreach' hhead' ↦ ?_
      obtain ⟨rfl, rfl, rfl⟩ := hreach.unique hreach'
      obtain ⟨rfl, -⟩ := List.cons.inj (hhead.symm.trans hhead')
      exact hseq
  · next hpeek =>
    refine .ignored rfl fun j d chs' head' rest' hreach' hhead' ↦ ?_
    obtain ⟨rfl, rfl, rfl⟩ := hreach.unique hreach'
    exact absurd (by rw [Glbqueue.peek, hhead']) (hpeek head')

/-! ### Transmission -/

/-- Every datagram handed to the socket between two contexts satisfies `P`. -/
def Emits (P : Datagram → Prop) (ctx ctx' : Glbctx cfg) : Prop :=
  ∃ ds, ctx'.sock = ctx.sock ++ ds ∧ ∀ d ∈ ds, P d

theorem Emits.of_sock_eq {P : Datagram → Prop} (h : ctx'.sock = ctx.sock) : Emits P ctx ctx' :=
  ⟨[], by rw [h, List.append_nil], by simp⟩

theorem Emits.refl {P : Datagram → Prop} (ctx : Glbctx cfg) : Emits P ctx ctx := .of_sock_eq rfl

theorem Emits.trans {P : Datagram → Prop} {ctx'' : Glbctx cfg} (h : Emits P ctx ctx')
    (h' : Emits P ctx' ctx'') : Emits P ctx ctx'' := by
  obtain ⟨ds, hsock, hds⟩ := h
  obtain ⟨ds', hsock', hds'⟩ := h'
  refine ⟨ds ++ ds', by rw [hsock', hsock, List.append_assoc], fun d hd ↦ ?_⟩
  rcases List.mem_append.1 hd with hd | hd
  · exact hds d hd
  · exact hds' d hd

theorem Emits.mono {P Q : Datagram → Prop} (h : Emits P ctx ctx') (hPQ : ∀ d, P d → Q d) :
    Emits Q ctx ctx' := by
  obtain ⟨ds, hsock, hds⟩ := h
  exact ⟨ds, hsock, fun d hd ↦ hPQ d (hds d hd)⟩

/-- What the socket has now it had before, or it was handed to it. -/
theorem Emits.mem_sock {P : Datagram → Prop} {d : Datagram} (h : Emits P ctx ctx')
    (hd : d ∈ ctx'.sock) : d ∈ ctx.sock ∨ P d := by
  obtain ⟨ds, hsock, hds⟩ := h
  rw [hsock] at hd
  exact (List.mem_append.1 hd).imp_right (hds d)

theorem Emits.of_mem_drop {P : Datagram → Prop} {d : Datagram} (h : Emits P ctx ctx')
    (hd : d ∈ ctx'.sock.drop ctx.sock.length) : P d := by
  obtain ⟨ds, hsock, hds⟩ := h
  rw [hsock, List.drop_left] at hd
  exact hds d hd

theorem emits_glbioSend {P : Datagram → Prop} {dest : Glbaddr} {ok : Bool}
    (h : P ⟨pkg.seal, dest⟩) : Emits P ctx (ctx.glbioSend pkg dest ok).2 := by
  refine ⟨_, sock_glbioSend _ _ _ _, fun d hd ↦ ?_⟩
  cases ok with
  | false => simp at hd
  | true => rw [List.mem_singleton.1 hd]; exact h

/-- What the transmission loop can make of a channel. -/
inductive Transmitted (chan : Glbchannel) : Glbchannel → Prop
  /-- There is nothing to send, or not yet. -/
  | idle : Transmitted chan chan
  /-- The head of a reliable channel was sent and stays. -/
  | kept (now : ℕ) (hrel : chan.reliable = true) :
      Transmitted chan { chan with sQueue := chan.sQueue.writeHead (retransmitted · now) }
  /-- The head of an unreliable channel was sent. -/
  | dropped (hrel : chan.reliable = false) :
      Transmitted chan { chan with sQueue := chan.sQueue.pop.2.2 }

/-- A datagram that carries the head of the send queue of channel `c`. -/
def CarriesHead (con : Glbconn cfg) (c : Fin cfg.channelCount) (d : Datagram) : Prop :=
  ∃ chs head rest, con.channels = some chs ∧ (chs.chan c).sQueue.elems = head :: rest ∧
    d = ⟨head.seal, con.peerAddr⟩

/-- Everything the transmission on one channel can do to the channels of its slot. -/
theorem transmit_effect (env : Env) (c : Fin cfg.channelCount)
    (hchs : (ctx.connections i).channels = some chs) :
    ∃ chan', Transmitted (chs.chan c) chan' ∧
      ((ctx.transmit i env c).connections i).channels = some (chs.set c chan') ∧
      ((ctx.transmit i env c).connections i).peerAddr = (ctx.connections i).peerAddr ∧
      Emits (CarriesHead (ctx.connections i) c) ctx (ctx.transmit i env c) := by
  have hidle : chs.set c (chs.chan c) = chs := by
    have h : ∀ d, (chs.set c (chs.chan c)).chan d = chs.chan d := by
      intro d
      show (if d = c then chs.chan c else chs.chan d) = _
      split
      · next hd => rw [hd]
      · rfl
    exact congrArg (Glbchannels.mk chs.block) (funext h)
  simp only [transmit, hchs]
  split
  · next head hpeek =>
    obtain ⟨-, rest, hhead⟩ := Glbqueue.peek_eq_some hpeek
    split
    · have hemits : Emits (CarriesHead (ctx.connections i) c) ctx
          (ctx.glbioSend head (ctx.connections i).peerAddr (env.sendOk (c + 1))).2 :=
        emits_glbioSend ⟨chs, head, rest, hchs, hhead, rfl⟩
      split
      · next hrel =>
        refine ⟨_, .dropped (by simpa using hrel), ?_, ?_, hemits.trans (.of_sock_eq ?_)⟩ <;>
          simp [setChan, hchs]
      · next hrel =>
        refine ⟨_, .kept (env.clock (2 * c + 3)) (by simpa using hrel), ?_, ?_,
          hemits.trans (.of_sock_eq ?_)⟩ <;>
          (simp only [countTransmission]; split <;> simp [setChan, hchs])
    · exact ⟨_, .idle, by rw [hchs, hidle], rfl, .refl _⟩
  · exact ⟨_, .idle, by rw [hchs, hidle], rfl, .refl _⟩

/-- Everything the transmission loop can do to the channels of a slot, and what it sends. -/
theorem foldl_transmit_effect (env : Env) (cs : List (Fin cfg.channelCount)) (hcs : cs.Nodup)
    (hchs : (ctx.connections i).channels = some chs) :
    ∃ chs', (∀ c, Transmitted (chs.chan c) (chs'.chan c)) ∧
      (∀ c, c ∉ cs → chs'.chan c = chs.chan c) ∧
      ((cs.foldl (fun ctx c ↦ ctx.transmit i env c) ctx).connections i).channels = some chs' ∧
      ((cs.foldl (fun ctx c ↦ ctx.transmit i env c) ctx).connections i).peerAddr =
        (ctx.connections i).peerAddr ∧
      Emits (fun d ↦ ∃ c ∈ cs, CarriesHead (ctx.connections i) c d) ctx
        (cs.foldl (fun ctx c ↦ ctx.transmit i env c) ctx) := by
  induction cs generalizing ctx chs with
  | nil => exact ⟨chs, fun _ ↦ .idle, fun _ _ ↦ rfl, hchs, rfl, .refl _⟩
  | cons c cs ih =>
    obtain ⟨hc, hnodup⟩ := List.nodup_cons.1 hcs
    obtain ⟨chan', htrans, hchs₁, hpeer, hemits⟩ := transmit_effect env c hchs
    obtain ⟨chs', htrans', hrest, hchs', hpeer', hemits'⟩ := ih hnodup hchs₁
    have hself : (chs.set c chan').chan c = chan' := if_pos rfl
    have hne : ∀ d, d ≠ c → (chs.set c chan').chan d = chs.chan d := fun d hd ↦ if_neg hd
    refine ⟨chs', fun d ↦ ?_, fun d hd ↦ ?_, hchs', hpeer'.trans hpeer, ?_⟩
    · by_cases hd : d = c
      · rw [hd, hrest c hc, hself]
        exact htrans
      · have h := htrans' d
        rwa [hne d hd] at h
    · obtain ⟨hdc, hdcs⟩ := not_or.1 (mt List.mem_cons.2 hd)
      rw [hrest d hdcs, hne d hdc]
    · refine Emits.trans (hemits.mono fun d hd ↦ ⟨c, List.mem_cons_self, hd⟩)
        (hemits'.mono fun d hd ↦ ?_)
      -- the head of another channel is still the one it was
      obtain ⟨e, he, chs₂, head, rest, hchs₂, hhead, rfl⟩ := hd
      obtain rfl : chs.set c chan' = chs₂ := Option.some_inj.1 (hchs₁.symm.trans hchs₂)
      have hec : e ≠ c := fun h ↦ hc (h ▸ he)
      rw [hne e hec] at hhead
      exact ⟨e, List.mem_cons_of_mem _ he, chs, head, rest, hchs, hhead, by rw [hpeer]⟩

theorem sock_closeCon (reason : GlbDisconnectReason) : (ctx.closeCon i reason).sock = ctx.sock := by
  rw [closeCon_eq]
  rfl

/-- A PING of an established slot. -/
def IsPing (con : Glbconn cfg) (d : Datagram) : Prop :=
  ∃ seq ack, d = ⟨((glbpkgInit con.connId ctrlFlagPing 0).withSeqAck seq ack).seal, con.peerAddr⟩

theorem keepaliveTimer_effect (ctx : Glbctx cfg) (i : Fin cfg.connectionCount) (env : Env) :
    (((ctx.keepaliveTimer i env).connections i).state = .closed ∨
      ((ctx.keepaliveTimer i env).connections i).channels = (ctx.connections i).channels) ∧
    Emits (IsPing (ctx.connections i)) ctx (ctx.keepaliveTimer i env) := by
  rw [keepaliveTimer]
  dsimp only
  split
  · split
    · refine ⟨Or.inl ?_, .of_sock_eq (sock_closeCon _)⟩
      rw [closeCon_eq]
      simp
    · refine ⟨Or.inr (by simp), _, (sock_setCon _ _ _).trans (sock_glbioSend _ _ _ _), ?_⟩
      intro d hd
      split at hd
      · exact ⟨_, _, List.mem_singleton.1 hd⟩
      · cases hd
  · exact ⟨Or.inr rfl, .refl _⟩

theorem handleTimers_established_eq (hest : (ctx.connections i).state = .established)
    (h : ctx.handleTimers i env = some ctx') :
    ∃ chs, (ctx.connections i).channels = some chs ∧
      ctx' = ((List.finRange cfg.channelCount).foldl (fun ctx c ↦ ctx.transmit i env c)
        ctx).keepaliveTimer i env := by
  cases handleTimers_cases h with
  | established _ hchs => exact ⟨_, hchs, rfl⟩
  | idle hstate => exact absurd hest hstate
  | syn hstate | synAck hstate | fin hstate | gaveUp hstate | dropped hstate | closed hstate =>
    rw [hest] at hstate
    cases hstate

/-- Everything the timers of an established slot can do to its channels, unless they close it, and
what they send. -/
theorem handleTimers_of_established (hest : (ctx.connections i).state = .established)
    (h : ctx.handleTimers i env = some ctx') :
    ∃ chs, (ctx.connections i).channels = some chs ∧
      ((ctx'.connections i).state = .established → ∃ chs' : Glbchannels cfg.channelCount,
        (ctx'.connections i).channels = some chs' ∧
          ∀ c, Transmitted (chs.chan c) (chs'.chan c)) ∧
      Emits (fun d ↦ (∃ c, CarriesHead (ctx.connections i) c d) ∨ IsPing (ctx.connections i) d)
        ctx ctx' := by
  have hop : (Op.timers i env).Sends i := rfl
  obtain ⟨chs, hchs, rfl⟩ := handleTimers_established_eq hest h
  obtain ⟨chs', htrans, -, hchs', hpeer, hemits⟩ :=
    foldl_transmit_effect env _ (List.nodup_finRange _) hchs
  obtain ⟨hkeep, hping⟩ := keepaliveTimer_effect
    ((List.finRange cfg.channelCount).foldl (fun ctx c ↦ ctx.transmit i env c) ctx) i env
  obtain ⟨con', evs, hb, hlife, -⟩ := foldl_transmit_quietAt hop ctx env
    (List.finRange cfg.channelCount) hest
  refine ⟨chs, hchs, fun hest' ↦ ⟨chs', ?_, htrans⟩, ?_⟩
  · rcases hkeep with hclosed | hkeep
    · rw [hclosed] at hest'; cases hest'
    · rw [hkeep, hchs']
  · refine (hemits.mono ?_).trans (hping.mono ?_)
    · rintro d ⟨c, -, hd⟩
      exact Or.inl ⟨c, hd⟩
    · rintro d ⟨seq, ack, rfl⟩
      refine Or.inr ⟨seq, ack, ?_⟩
      rw [hpeer, hb.self, hlife.connId]

end Glbctx

end Gilberta
