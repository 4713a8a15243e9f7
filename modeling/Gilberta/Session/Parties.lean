import Gilberta.Effects.Channels
import Gilberta.Effects.Emission
import Gilberta.Foundations.Network
import Mathlib.Data.Fintype.Basic

/-!
# Any number of contexts

Clients and servers in any number, each driven by an application that does what it likes except to
call `glb_connect` on a slot that is not closed, over a network that delivers what some context
sent, to anyone, from any address, at any time, again and again or never. The network of the
library, instantiated: what is kept by every context is proved with `Network.invariant`, one context
at a time. -/

namespace Gilberta

/-- Whether an operation handles a packet at all, and then one that arrives like a datagram with the
given property. -/
def Op.Takes {cfg : Glbcfg} (P : Datagram → Prop) : Op cfg → Prop
  | .packet pkg _ _ => ∃ d, P d ∧ pkg.SameOnWire d.pkg
  | _ => True

theorem Op.Takes.mono {cfg : Glbcfg} {P Q : Datagram → Prop} {op : Op cfg} (h : op.Takes P)
    (hPQ : ∀ d, P d → Q d) : op.Takes Q := by
  cases op with
  | packet pkg from_ env =>
    obtain ⟨d, hd, hsame⟩ := h
    exact ⟨d, hPQ d hd, hsame⟩
  | connect | close | send | pollevent | popdata | readError | timers => trivial

/-- Contexts, one for each name. -/
abbrev Parties {ι : Type*} (cfg : ι → Glbcfg) := ∀ k, Glbctx (cfg k)

namespace Parties

variable {ι : Type*} [DecidableEq ι] {cfg : ι → Glbcfg}

/-- A step of one of the contexts. -/
def Step : Parties cfg → (Σ k, Op (cfg k)) → Parties cfg → Prop :=
  Network.Step (fun _ ctx op ctx' ↦ Glbctx.Step ctx op ctx' ∧ op.Allowed ctx)
    (fun _ ctx ↦ ctx.sock) fun _ op P ↦ op.Takes P

/-- One transition. -/
abbrev Transition (cfg : ι → Glbcfg) := Parties cfg × (Σ k, Op (cfg k)) × Parties cfg

/-- Where everything starts: contexts that were just created. -/
def init (cfg : ι → Glbcfg) : Parties cfg := fun k ↦ Glbctx.init (cfg k)

section Next

variable [Fintype ι]

instance (s : Parties cfg) (k : ι) (op : Op (cfg k)) :
    Decidable (op.Takes fun d ↦ ∃ l, d ∈ (s l).sock) :=
  match op with
  | .packet pkg _ _ => decidable_of_iff (∃ l, ∃ d ∈ (s l).sock, pkg.SameOnWire d.pkg)
      ⟨fun ⟨l, d, hd, hsame⟩ ↦ ⟨d, ⟨l, hd⟩, hsame⟩, fun ⟨d, ⟨l, hd⟩, hsame⟩ ↦ ⟨l, d, hd, hsame⟩⟩
  | .connect _ | .close _ _ | .send _ _ | .pollevent | .popdata _ | .readError | .timers _ _ =>
    isTrue trivial

/-- The step as a function. -/
def next (s : Parties cfg) (lab : Σ k, Op (cfg k)) : Option (Parties cfg) :=
  if (lab.2.Takes fun d ↦ ∃ l, d ∈ (s l).sock) ∧ lab.2.Allowed (s lab.1) then
    ((s lab.1).step lab.2).map (Function.update s lab.1)
  else none

theorem step_of_next {s s' : Parties cfg} {lab : Σ k, Op (cfg k)} (h : s.next lab = some s') :
    Step s lab s' := by
  rw [next] at h
  split at h
  · next hcond =>
    obtain ⟨ctx, hstep, rfl⟩ := Option.map_eq_some_iff.1 h
    exact .step ⟨hstep, hcond.2⟩ hcond.1
  · cases h

end Next

/-- A client and a server. -/
def clientAndServer : Bool → Glbcfg
  | false => .sampleClient
  | true => .sampleServer

/-- They connect. -/
def opening : List (Σ k, Op (clientAndServer k)) :=
  [⟨false, .connect 1⟩, ⟨false, .timers ⟨0, Nat.one_pos⟩ (Env.at 2)⟩,
    ⟨true, .packet ((glbpkgInit ⟨0xFFFF, 0⟩ ctrlFlagSyn 0).withSeqAck 0xA5A5A5A5 0).seal
      .samplePeer (Env.at 3)⟩,
    ⟨true, .timers ⟨0, Nat.two_pos⟩ (Env.at 4)⟩,
    ⟨false, .packet ((glbpkgInit ⟨1, 0⟩ ctrlFlagSynAck 0).withSeqAck 0xA5A5A5A5 0xA5A5A5A5).seal
      ⟨0, 0⟩ (Env.at 5)⟩,
    ⟨true, .packet ((glbpkgInit ⟨1, 0⟩ ctrlFlagAck 0).withSeqAck 0xA5A5A5A5 0xA5A5A5A5).seal
      .samplePeer (Env.at 6)⟩]

end Parties

end Gilberta
