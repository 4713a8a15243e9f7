import Gilberta.Foundations.SequenceNumbers
import Gilberta.Memory.Contexts

/-!
# The ids handed out to clients

`glbctx_generateclientid` counts `client_id` up and starts again at zero when it reaches the
reserved `0xFFFF`. The generation that should then go up is the context's; the source raises the
generation of the id it has just written instead, so the context's stays at zero for good
(`clientGen_afterIds`), and after 65535 ids the generator repeats itself.

`issuedId_eq` is the closed form of the id of every call, from which everything else is read off:
what is unique up to which call (`issuedId_inj_iff`), and where the generation goes wrong
(`uniqueIds_iff`).
-/

namespace Gilberta

variable {cfg : Glbcfg}

namespace Glbctx

/-- The context after `n` calls of `glbctx_generateclientid`, of which call `k` writes into the
slot `dst k`. -/
def afterIds (dst : ℕ → Fin cfg.connectionCount) (ctx : Glbctx cfg) : ℕ → Glbctx cfg
  | 0 => ctx
  | n + 1 => (afterIds dst ctx n).generateClientId (dst n)

/-- The id call `k` writes. -/
def issuedId (dst : ℕ → Fin cfg.connectionCount) (ctx : Glbctx cfg) (k : ℕ) : Glbconid :=
  ((ctx.afterIds dst (k + 1)).connections (dst k)).connId

/-- What the documentation promises of the ids of the first `n` calls. -/
structure UniqueIds (dst : ℕ → Fin cfg.connectionCount) (ctx : Glbctx cfg) (n : ℕ) : Prop where
  /-- No id is handed out twice. -/
  distinct : ∀ j < n, ∀ k < n, ctx.issuedId dst j = ctx.issuedId dst k → j = k
  /-- None is the one reserved for initiation. -/
  not_reserved : ∀ k < n, (ctx.issuedId dst k).id ≠ 0xFFFF
  /-- When the id overflows, the generation is incremented. -/
  incremented : ∀ k < n, (ctx.afterIds dst (k + 1)).clientId < (ctx.afterIds dst k).clientId →
    (ctx.afterIds dst (k + 1)).clientGen = (ctx.afterIds dst k).clientGen + 1

/-! ### The counters -/

variable {dst : ℕ → Fin cfg.connectionCount} {ctx : Glbctx cfg}

/-- No id was generated yet: the counters are where `glbctx_create` puts them. -/
def NoIdsYet (ctx : Glbctx cfg) : Prop := ctx.clientId = 1 ∧ ctx.clientGen = 0

theorem noIdsYet_of_create {p p' : Process} {env : CreateEnv} {sock : Option Block}
    (h : p.glbctxCreate cfg env = some (p', some (ctx, sock))) : NoIdsYet ctx := by
  obtain ⟨b, memory, q, -, -, rfl⟩ := Process.filled_of_create h
  exact ⟨rfl, rfl⟩

/-- A call writes the id that was next. -/
theorem issuedId_eq_nextConId (k : ℕ) :
    ctx.issuedId dst k = (ctx.afterIds dst k).nextConId := by
  show (((ctx.afterIds dst k).generateClientId (dst k)).connections (dst k)).connId = _
  rw [generateClientId_eq]
  exact congrArg Glbconn.connId (connections_setCon_self _ _ _)

/-- **The generation of the context never changes.** -/
theorem clientGen_afterIds (n : ℕ) : (ctx.afterIds dst n).clientGen = ctx.clientGen := by
  induction n with
  | zero => rfl
  | succ n ih =>
    rw [afterIds, generateClientId_eq]
    exact ih

section NoIdsYet

variable (hnew : NoIdsYet ctx)
include hnew

/-- The counter after `n` calls on a fresh context. -/
theorem toNat_clientId_afterIds (n : ℕ) :
    (ctx.afterIds dst n).clientId.toNat = (n + 1) % 65535 := by
  induction n with
  | zero =>
    rw [afterIds, hnew.1]
    rfl
  | succ n ih =>
    have hadd : ((ctx.afterIds dst n).clientId + 1).toNat = (n + 1) % 65535 + 1 := by
      rw [UInt16.toNat_add, ih]
      exact Nat.mod_eq_of_lt (show (n + 1) % 65535 + 1 < 65536 by omega)
    have hwrap : (ctx.afterIds dst n).clientId + 1 = 0xFFFF ↔
        (n + 1) % 65535 + 1 = 65535 := by
      rw [← hadd]
      exact UInt16.toNat_inj.symm
    rw [afterIds, generateClientId_eq]
    show UInt16.toNat (if _ then _ else _) = _
    split
    · next h =>
      -- the counter starts again at zero, not at one
      have hlast := hwrap.1 h
      show 0 = _
      omega
    · next h =>
      have hlast := mt hwrap.2 h
      rw [hadd]
      omega

/-- **The id of every call on a fresh context.** Only the last id of a round has generation 1. -/
theorem issuedId_eq (k : ℕ) : ctx.issuedId dst k =
    ⟨UInt16.ofNat ((k + 1) % 65535), if (k + 2) % 65535 = 0 then 1 else 0⟩ := by
  have hcounter : (ctx.afterIds dst k).clientId.toNat = (k + 1) % 65535 :=
    toNat_clientId_afterIds hnew k
  have hid : (ctx.afterIds dst k).clientId = UInt16.ofNat ((k + 1) % 65535) := by
    rw [← hcounter, UInt16.ofNat_toNat]
  have hwrap : (ctx.afterIds dst k).clientId + 1 = 0xFFFF ↔ (k + 2) % 65535 = 0 := by
    rw [← UInt16.toNat_inj, UInt16.toNat_add, hcounter]
    show ((k + 1) % 65535 + 1) % 65536 = 65535 ↔ _
    omega
  have hgen : (ctx.afterIds dst k).clientGen = 0 := (clientGen_afterIds k).trans hnew.2
  rw [issuedId_eq_nextConId, nextConId, hgen, ← hid]
  simp only [hwrap]
  rfl

/-! ### Exactly how far the ids are unique -/

theorem toNat_id_issuedId (k : ℕ) : (ctx.issuedId dst k).id.toNat = (k + 1) % 65535 := by
  rw [issuedId_eq_nextConId]
  exact toNat_clientId_afterIds hnew k

/-- No call hands out the reserved id. -/
theorem id_issuedId_ne (k : ℕ) : (ctx.issuedId dst k).id ≠ 0xFFFF := by
  intro h
  have hcounter : (ctx.issuedId dst k).id.toNat = (k + 1) % 65535 :=
    toNat_id_issuedId hnew k
  have hreserved : (0xFFFF : UInt16).toNat = 65535 := rfl
  rw [h, hreserved] at hcounter
  have hlt : (k + 1) % 65535 < 65535 := Nat.mod_lt _ (by decide)
  omega

/-- **The ids of the first `n` calls are pairwise distinct up to 65535 calls, and no further.** -/
theorem issuedId_inj_iff (n : ℕ) :
    (∀ j < n, ∀ k < n, ctx.issuedId dst j = ctx.issuedId dst k → j = k) ↔ n ≤ 65535 := by
  constructor
  · intro h
    by_contra hn
    -- a round has 65535 ids, and the next round has the same ones
    have hsame : ctx.issuedId dst 0 = ctx.issuedId dst 65535 := by
      rw [issuedId_eq hnew, issuedId_eq hnew]
    have hfirst := h 0 (by omega) 65535 (by omega) hsame
    omega
  · intro hn j hj k hk heq
    have hid := congrArg (fun id ↦ id.id.toNat) heq
    simp only [toNat_id_issuedId hnew] at hid
    omega

/-- The first call whose counter wraps is number 65533, from zero, and the generation of the
context stays where it is. -/
theorem incremented_iff (n : ℕ) :
    (∀ k < n, (ctx.afterIds dst (k + 1)).clientId < (ctx.afterIds dst k).clientId →
      (ctx.afterIds dst (k + 1)).clientGen = (ctx.afterIds dst k).clientGen + 1) ↔
      n + 1 < 65535 := by
  have hwrap : ∀ k, (ctx.afterIds dst (k + 1)).clientId <
      (ctx.afterIds dst k).clientId ↔ (k + 2) % 65535 = 0 := by
    intro k
    rw [UInt16.lt_iff_toNat_lt, toNat_clientId_afterIds hnew, toNat_clientId_afterIds hnew]
    omega
  have hgen : ∀ k, (ctx.afterIds dst k).clientGen = 0 := fun k ↦
    (clientGen_afterIds k).trans hnew.2
  constructor
  · intro h
    by_contra hn
    have hlast := h 65533 (by omega) ((hwrap 65533).2 (by decide))
    rw [hgen, hgen] at hlast
    cases hlast
  · intro hn k hk hless
    have hzero := (hwrap k).1 hless
    omega

end NoIdsYet

variable {p p' : Process} {env : CreateEnv} {sock : Option Block}

/-- **The ids handed out are as documented up to the 65533rd**, the last one before the counter
starts again, and no further, for every context `glbctx_create` returns in whatever process. -/
theorem uniqueIds_iff (h : p.glbctxCreate cfg env = some (p', some (ctx, sock)))
    (dst : ℕ → Fin cfg.connectionCount) (n : ℕ) : UniqueIds dst ctx n ↔ n < 65534 := by
  have hnew : NoIdsYet ctx := noIdsYet_of_create h
  constructor
  · intro hunique
    have hlt : n + 1 < 65535 := (incremented_iff hnew n).1 hunique.incremented
    omega
  · intro hn
    exact ⟨(issuedId_inj_iff hnew n).2 (by omega), fun k _ ↦ id_issuedId_ne hnew k,
      (incremented_iff hnew n).2 (by omega)⟩

theorem succeeds_sample : CreateEnv.Succeeds Glbcfg.sampleServer
    ⟨true, true, true, true, true, true⟩ := ⟨rfl, rfl, rfl, rfl, fun _ ↦ rfl, rfl⟩

/-- A server hands out its first ten ids as documented, all into its first slot. -/
theorem uniqueIds_iff_sample : ∃ p' ctx sock,
    Process.glbctxCreate ⟨.empty, .empty⟩ Glbcfg.sampleServer
      ⟨true, true, true, true, true, true⟩ = some (p', some (ctx, sock)) ∧
    UniqueIds (fun _ ↦ ⟨0, Nat.two_pos⟩ : ℕ → Fin Glbcfg.sampleServer.connectionCount) ctx 10 := by
  obtain ⟨p', sock, hcreate⟩ := Process.exists_create_init .empty succeeds_sample
  exact ⟨p', _, sock, hcreate, (uniqueIds_iff hcreate _ 10).2 (by decide)⟩

/-- Call 0 and call 65535 hand out the same id. -/
theorem not_always_unique : ¬ ∀ (p p' : Process) (cfg : Glbcfg) (env : CreateEnv)
    (ctx : Glbctx cfg) (sock : Option Block), p.glbctxCreate cfg env = some (p', some (ctx, sock)) →
    ∀ (dst : ℕ → Fin cfg.connectionCount) (n : ℕ), n ≤ 2 ^ 31 → UniqueIds dst ctx n := by
  intro h
  let dst : ℕ → Fin Glbcfg.sampleServer.connectionCount := fun _ ↦ ⟨0, Nat.two_pos⟩
  obtain ⟨p', sock, hcreate⟩ := Process.exists_create_init .empty succeeds_sample
  have hnew : NoIdsYet (init Glbcfg.sampleServer) := noIdsYet_of_create hcreate
  have hunique := h _ _ _ _ _ sock hcreate dst 65536 (by decide)
  have hfirst : (init Glbcfg.sampleServer).issuedId dst 0 = ⟨1, 0⟩ := issuedId_eq hnew 0
  have hagain : (init Glbcfg.sampleServer).issuedId dst 65535 = ⟨1, 0⟩ := issuedId_eq hnew 65535
  have hsame := hunique.distinct 0 (by decide) 65535 (by decide) (hfirst.trans hagain.symm)
  cases hsame

end Glbctx

end Gilberta
