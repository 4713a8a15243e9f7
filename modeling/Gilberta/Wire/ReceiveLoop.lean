import Gilberta.Wire.Glbio

/-!
# How long the receive loop runs

The number of `glbio_read` calls of one `glb_tick`. `recv_limit` counts the packets that are
handled, and the loop ends when there are enough of them or when nothing is there; a read that fails
or rejects a datagram is not counted and the loop goes on.

So the loop has a bound if and only if the socket grants it one (`recvLoop_reads_le_iff`): a stream
of datagrams that are all rejected keeps it going for ever (`recvLoop_unbounded`).
-/

namespace Gilberta

variable {cfg : Glbcfg}

namespace ReadResult

/-- Nothing was there. -/
def isEmpty : ReadResult → Bool
  | empty => true
  | error | invalid | packet _ _ => false

/-- A packet was accepted. -/
def isPacket : ReadResult → Bool
  | packet _ _ => true
  | empty | error | invalid => false

end ReadResult

/-! ### Counting the reads -/

/-- The number of reads of the receive loop, which has handled `count` packets so far, when the
reads do what is listed; as far as the list goes. -/
def readsMade : List ReadResult → ℕ → ℕ
  | [], _ => 0
  | r :: rs, count =>
    if count ≥ glbRecvLimitPerTick then 0 else
    match r with
    | .empty => 1
    | .error | .invalid => readsMade rs count + 1
    | .packet _ _ => readsMade rs (count + 1) + 1

/-- The receive loop, with the number of its reads. -/
def Glbctx.recvLoopReads :
    List (ReadResult × Env) → ℕ → ℕ → Glbctx cfg → Option (ℕ × Glbctx cfg)
  | [], _, made, ctx => some (made, ctx)
  | (r, env) :: rs, count, made, ctx =>
    if count ≥ glbRecvLimitPerTick then some (made, ctx) else
    match r with
    | .empty => some (made + 1, ctx)
    | .error => recvLoopReads rs count (made + 1) { ctx with error := .recvFailed }
    | .invalid => recvLoopReads rs count (made + 1) ctx
    | .packet pkg from_ =>
      (ctx.handlePacket pkg from_ env).bind (recvLoopReads rs (count + 1) (made + 1))

theorem readsMade_cons (r : ReadResult) (rs : List ReadResult) (count : ℕ) :
    readsMade (r :: rs) count = if count ≥ glbRecvLimitPerTick then 0 else
      if r.isEmpty then 1 else readsMade rs (count + if r.isPacket then 1 else 0) + 1 := by
  cases r <;> rfl

/-- The number of reads depends on what the reads do and not on the context. -/
theorem Glbctx.recvLoopReads_eq (rs : List (ReadResult × Env)) (count made : ℕ) (ctx : Glbctx cfg) :
    recvLoopReads rs count made ctx =
      (recvLoop rs count ctx).map fun ctx' ↦ (made + readsMade (rs.map Prod.fst) count, ctx') := by
  induction rs generalizing count made ctx with
  | nil => rfl
  | cons r rs ih =>
    obtain ⟨r, env⟩ := r
    have hmade : ∀ n, made + 1 + n = made + (n + 1) := by omega
    by_cases hlimit : count ≥ glbRecvLimitPerTick
    · cases r <;> simp [recvLoopReads, recvLoop, readsMade, hlimit]
    · cases r with
      | empty => simp [recvLoopReads, recvLoop, readsMade, hlimit]
      | error | invalid => simp [recvLoopReads, recvLoop, readsMade, hlimit, ih, hmade]
      | packet pkg from_ =>
        rcases hhandle : ctx.handlePacket pkg from_ env with - | ctx₁
        · simp [recvLoopReads, recvLoop, hlimit, hhandle]
        · simp [recvLoopReads, recvLoop, readsMade, hlimit, hhandle, ih, hmade]

theorem readsMade_le_length (rs : List ReadResult) (count : ℕ) :
    readsMade rs count ≤ rs.length := by
  induction rs generalizing count with
  | nil => exact Nat.le_refl 0
  | cons r rs ih =>
    rw [readsMade_cons, List.length_cons]
    split
    · exact Nat.zero_le _
    · split
      · exact Nat.succ_le_succ (Nat.zero_le _)
      · exact Nat.succ_le_succ (ih _)

/-! ### When the loop ends -/

/-- The loop ends within some reads: nothing is there at one of them, or enough packets are
handled. -/
def Ends (rs : List ReadResult) (count : ℕ) : Prop :=
  (∃ r ∈ rs, r.isEmpty) ∨ glbRecvLimitPerTick ≤ count + rs.countP ReadResult.isPacket

theorem ends_cons {r : ReadResult} {rs : List ReadResult} {count : ℕ} :
    Ends (r :: rs) count ↔ r.isEmpty ∨ Ends rs (count + if r.isPacket then 1 else 0) := by
  rw [Ends, Ends, List.countP_cons, List.exists_mem_cons_iff, or_assoc, Nat.add_assoc,
    Nat.add_comm (List.countP _ _)]

/-- If the loop ends within some reads, it makes no more than these. -/
theorem readsMade_append_le {rs : List ReadResult} {count : ℕ} (h : Ends rs count)
    (rest : List ReadResult) : readsMade (rs ++ rest) count ≤ rs.length := by
  induction rs generalizing count with
  | nil =>
    have hlimit : count ≥ glbRecvLimitPerTick := by
      rcases h with ⟨r, hr, -⟩ | h
      · exact absurd hr List.not_mem_nil
      · exact h
    cases rest with
    | nil => exact Nat.le_refl 0
    | cons r rest =>
      rw [List.nil_append, readsMade_cons, if_pos hlimit]
      exact Nat.le_refl 0
  | cons r rs ih =>
    rw [List.cons_append, readsMade_cons, List.length_cons]
    split
    · exact Nat.zero_le _
    · split
      · exact Nat.succ_le_succ (Nat.zero_le _)
      · next hempty => exact Nat.succ_le_succ (ih ((ends_cons.1 h).resolve_left hempty))

/-- If it does not end within some reads, it makes all of them and one more. -/
theorem length_lt_readsMade {rs : List ReadResult} {count : ℕ} (h : ¬ Ends rs count)
    (next : ReadResult) : rs.length < readsMade (rs ++ [next]) count := by
  induction rs generalizing count with
  | nil =>
    have hlimit : ¬ count ≥ glbRecvLimitPerTick := fun hlimit ↦ h (Or.inr hlimit)
    rw [List.nil_append, readsMade_cons, if_neg hlimit]
    split
    · exact Nat.one_pos
    · exact Nat.succ_pos _
  | cons r rs ih =>
    rw [ends_cons, not_or] at h
    have hlimit : ¬ count ≥ glbRecvLimitPerTick := by
      intro hlimit
      refine h.2 (Or.inr ?_)
      omega
    rw [List.cons_append, readsMade_cons, if_neg hlimit, if_neg h.1, List.length_cons]
    exact Nat.succ_lt_succ (ih h.2)

/-- **The loop makes at most `N` reads of a stream if and only if it ends within the first `N`.** -/
theorem readsMade_le_iff {reads : ℕ → ReadResult} {N : ℕ} :
    (∀ n, readsMade ((List.range n).map reads) 0 ≤ N) ↔ Ends ((List.range N).map reads) 0 := by
  have hlen : ((List.range N).map reads).length = N := by
    rw [List.length_map, List.length_range]
  constructor
  · intro h
    by_contra hends
    -- a loop that has not ended after that many reads makes another one
    have hmore := length_lt_readsMade hends (reads N)
    have hall := h (N + 1)
    rw [List.range_succ, List.map_append, List.map_singleton] at hall
    omega
  · intro hends n
    rcases Nat.le_total n N with hn | hn
    · have hall := readsMade_le_length ((List.range n).map reads) 0
      rw [List.length_map, List.length_range] at hall
      exact Nat.le_trans hall hn
    · obtain ⟨k, rfl⟩ := Nat.exists_eq_add_of_le hn
      rw [List.range_add, List.map_append]
      exact Nat.le_trans (readsMade_append_le hends _) (Nat.le_of_eq hlen)

/-! ### The socket -/

instance (d : List UInt8) : Decidable (ValidDatagram d) :=
  decidable_of_iff
    (sizeofGlbpkgheader ≤ d.length ∧ (Glbpkgheader.ofBytes d).magic = gilbertaProtoMagic ∧
      (Glbpkgheader.ofBytes d).version = gilbertaProtoVersion ∧
      (Glbpkgheader.ofBytes d).payloadLen.toNat ≤ gilbertaMtu ∧
      sizeofGlbpkgheader + (Glbpkgheader.ofBytes d).payloadLen.toNat ≤ d.length ∧
      (Glbpkgheader.ofBytes d).checksum = crc16ModbusFast
        ((d.drop sizeofGlbpkgheader).take (Glbpkgheader.ofBytes d).payloadLen.toNat))
    ⟨fun ⟨h₁, h₂, h₃, h₄, h₅, h₆⟩ ↦ ⟨h₁, h₂, h₃, h₄, h₅, h₆⟩,
      fun ⟨h₁, h₂, h₃, h₄, h₅, h₆⟩ ↦ ⟨h₁, h₂, h₃, h₄, h₅, h₆⟩⟩

namespace Recvfrom

/-- `recvfrom` had nothing. -/
def isWouldBlock : Recvfrom → Bool
  | wouldBlock => true
  | failed | datagram _ _ => false

/-- `recvfrom` delivered a datagram that is valid. -/
def isValid : Recvfrom → Bool
  | wouldBlock | failed => false
  | datagram d _ => decide (ValidDatagram d)

end Recvfrom

namespace Glbpkgbuf

theorem isEmpty_readResult (pkg : Glbpkgbuf) (r : Recvfrom) (now : ℕ) :
    (pkg.readResult r now).isEmpty = r.isWouldBlock := by
  cases r with
  | wouldBlock | failed => rfl
  | datagram d from_ =>
    have hpos := (glbioRead_iff pkg pkg d from_ from_ now now).1
    have hvalid : (pkg.glbioRead (.datagram d from_) now).1 = .success ↔ ValidDatagram d :=
      glbioRead_success_iff_valid
    -- a datagram that is accepted has a header at least, so it is not taken for nothing
    have hnot : ¬ ((pkg.glbioRead (.datagram d from_) now).1 = .success ∧
        (pkg.glbioRead (.datagram d from_) now).2.1 = 0) := by
      rintro ⟨hok, hzero⟩
      have hlen := (hpos.2 (hvalid.1 hok)).2
      omega
    simp only [readResult, if_neg hnot]
    split <;> rfl

theorem isPacket_readResult (pkg : Glbpkgbuf) (r : Recvfrom) (now : ℕ) :
    (pkg.readResult r now).isPacket = r.isValid := by
  cases r with
  | wouldBlock | failed => rfl
  | datagram d from_ =>
    have hpos := (glbioRead_iff pkg pkg d from_ from_ now now).1
    by_cases hd : ValidDatagram d
    · obtain ⟨hok, hlen⟩ := hpos.2 hd
      have hnot : ¬ ((pkg.glbioRead (.datagram d from_) now).1 = .success ∧
          (pkg.glbioRead (.datagram d from_) now).2.1 = 0) := fun h ↦ by omega
      simp only [readResult, if_neg hnot, if_neg (not_not.2 hok)]
      exact (decide_eq_true hd).symm
    · have hfail : (pkg.glbioRead (.datagram d from_) now).1 ≠ .success :=
        fun hok ↦ hd (glbioRead_success_iff_valid.1 hok)
      simp only [readResult, if_neg fun h : _ ∧ _ ↦ hfail h.1, if_pos hfail]
      exact (decide_eq_false hd).symm

end Glbpkgbuf

/-- The successive reads of one receive loop, each into whatever memory it finds. -/
def readsOf (recvfrom : ℕ → Recvfrom) (bufs : ℕ → Glbpkgbuf) (clock : ℕ → ℕ) (n : ℕ) :
    List ReadResult :=
  (List.range n).map fun k ↦ (bufs k).readResult (recvfrom k) (clock k)

/-- **When the receive loop is bounded by its limit.** For every stream of what `recvfrom` does, the
loop makes at most one read more than it may handle packets if and only if among that many there is
one that finds nothing or they deliver as many valid datagrams as it may handle. -/
theorem recvLoop_reads_le_iff (recvfrom : ℕ → Recvfrom) (bufs : ℕ → Glbpkgbuf) (clock : ℕ → ℕ) :
    (∀ n, readsMade (readsOf recvfrom bufs clock n) 0 ≤ glbRecvLimitPerTick + 1) ↔
      (∃ k < glbRecvLimitPerTick + 1, (recvfrom k).isWouldBlock) ∨
      glbRecvLimitPerTick ≤
        (List.range (glbRecvLimitPerTick + 1)).countP fun k ↦ (recvfrom k).isValid := by
  have hends := @readsMade_le_iff (fun k ↦ (bufs k).readResult (recvfrom k) (clock k))
    (glbRecvLimitPerTick + 1)
  refine hends.trans ?_
  rw [Ends, Nat.zero_add, List.countP_map]
  have hcount : (List.range (glbRecvLimitPerTick + 1)).countP
      (ReadResult.isPacket ∘ fun k ↦ (bufs k).readResult (recvfrom k) (clock k)) =
        (List.range (glbRecvLimitPerTick + 1)).countP fun k ↦ (recvfrom k).isValid :=
    List.countP_congr fun k _ ↦ by
      rw [Function.comp_apply, Glbpkgbuf.isPacket_readResult]
  rw [hcount]
  refine or_congr_left ?_
  constructor
  · rintro ⟨r, hr, hempty⟩
    obtain ⟨k, hk, rfl⟩ := List.mem_map.1 hr
    rw [Glbpkgbuf.isEmpty_readResult] at hempty
    exact ⟨k, List.mem_range.1 hk, hempty⟩
  · rintro ⟨k, hk, hempty⟩
    refine ⟨_, List.mem_map.2 ⟨k, List.mem_range.2 hk, rfl⟩, ?_⟩
    rw [Glbpkgbuf.isEmpty_readResult]
    exact hempty

/-- **Nothing bounds the loop.** While empty datagrams come in, it goes on. -/
theorem recvLoop_unbounded : ¬ ∃ N, ∀ (recvfrom : ℕ → Recvfrom) (bufs : ℕ → Glbpkgbuf)
    (clock : ℕ → ℕ) (n : ℕ), readsMade (readsOf recvfrom bufs clock n) 0 ≤ N := by
  rintro ⟨N, h⟩
  have hbound := readsMade_le_iff (N := N) |>.1
    (h (fun _ ↦ .datagram [] ⟨0, 0⟩) (fun _ ↦ .sample) (fun _ ↦ 0))
  have hreads : ∀ r ∈ (List.range N).map fun k : ℕ ↦
      Glbpkgbuf.sample.readResult (.datagram [] ⟨0, 0⟩) 0,
        r.isEmpty = false ∧ r.isPacket = false := by
    intro r hr
    obtain ⟨k, -, rfl⟩ := List.mem_map.1 hr
    rw [Glbpkgbuf.isEmpty_readResult, Glbpkgbuf.isPacket_readResult]
    exact ⟨rfl, by decide⟩
  rcases hbound with ⟨r, hr, hempty⟩ | hcount
  · rw [(hreads r hr).1] at hempty
    cases hempty
  · rw [Nat.zero_add, List.countP_eq_zero.2 fun r hr ↦ by rw [(hreads r hr).2]; decide] at hcount
    exact absurd hcount (by decide)

end Gilberta
