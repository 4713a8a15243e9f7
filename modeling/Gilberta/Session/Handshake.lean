import Gilberta.Session.Numbers

/-!
# Agreement on the first number

When a slot of the server becomes established, its channels wait for the number on the ACK it
handled. `agrees_iff` says exactly when this is the number of the first message of the client:
the ACK must carry the number the SYN announced. The code makes this comparison and only logs
the outcome, and an ACK that is sent again carries the counters of channel 0 as they are by then.

The first time a slot is established the second half of the agreement always holds, because the
client has received nothing yet (`unestablished`).
-/

namespace Gilberta

namespace Session

open Glbctx (Opens Connects HasChannel initialSeq)

variable {cfgA cfgB : Glbcfg} {addr : Glbaddr} {s s' s₀ : Session cfgA cfgB}

/-- One transition of a session. -/
abbrev Transition (cfgA cfgB : Glbcfg) :=
  Session cfgA cfgB × (Op cfgA ⊕ Op cfgB) × Session cfgA cfgB

variable {x : Transition cfgA cfgB} {ts : List (Transition cfgA cfgB)}

/-- A slot of the server becomes established. -/
def Establishes (j : Fin cfgB.connectionCount) (x : Transition cfgA cfgB) : Prop :=
  (x.1.server.connections j).state ≠ .established ∧
    (x.2.2.server.connections j).state = .established

/-- The client connects. -/
def ConnectsAt (x : Transition cfgA cfgB) : Prop :=
  match x.2.1 with
  | .inl op => x.1.client.Connects op
  | .inr _ => False

/-- What the two sides have agreed on for a channel: the server waits for the first message of the
client, and the client for the next one of the server. -/
def Agrees (s : Session cfgA cfgB) (c : Fin cfgA.channelCount) (chan schan : Glbchannel) : Prop :=
  schan.ack = s.firstNumber c chan ∧ chan.ack = schan.seq

/-! ### The moment of agreement -/

/-- A slot of the server becomes established by an ACK, which leaves its number in the channels. -/
theorem ack_of_establishes {j : Fin cfgB.connectionCount} (h : Consistent s)
    {lab : Op cfgA ⊕ Op cfgB} (hstep : Step addr s lab s') (hest : Establishes j (s, lab, s')) :
    ∃ pkg from_ env chs, lab = .inr (.packet pkg from_ env) ∧
      (s.server.connections j).state = .synRcvd ∧
      (s'.server.connections j).channels = some chs ∧ ∀ d, (Glbchannels.chan chs d).IsOpened
        (cfgB.channels.get d) (s.server.connections j).seq pkg.header.seq := by
  obtain ⟨hne, hest⟩ := hest
  rcases hstep with ⟨-, -⟩ | @⟨op, ctx, hstep, hnet, -⟩
  · exact absurd hest hne
  change (ctx.connections j).state = .established at hest
  rcases Glbctx.slot_effect hstep j with hsame | ⟨a', evs, hchange⟩
  · exact absurd (hsame.state ▸ hest) hne
  show ∃ pkg from_ env chs, _ ∧ _ ∧ (ctx.connections j).channels = _ ∧ _
  -- of all changes of a slot only an ACK makes one of a server established
  generalize ctx.connections j = con' at hchange hest
  cases hchange with
  | connected => exact hnet.elim
  | @accepted pkg from_ env _ chs _ _ _ hstate hnew =>
    refine ⟨pkg, from_, env, _, rfl, hstate, rfl, fun d ↦ ?_⟩
    obtain ⟨hs, hr, hflags', hprio⟩ := hnew.chan d
    exact ⟨⟨hs, hr, hflags', hprio⟩, rfl, rfl⟩
  | synAcked hflags => exact absurd hflags (h.client.carried hnet).1
  | opened _ _ _ hstate' => rw [hstate'] at hest; cases hest
  | closed _ _ hstate' => rw [hstate'] at hest; cases hest
  | finSent | reopened | reset | gaveUp | dropped => cases hest

/-- **When the two sides agree.** At the moment a slot of the server becomes established they agree
on a channel if and only if the ACK carries the number the slot was opened with, and the client has
not moved on from the number of the SYN|ACK. -/
theorem agrees_iff {j : Fin cfgB.connectionCount} {i : Fin cfgA.connectionCount}
    {c : Fin cfgA.channelCount} {d : Fin cfgB.channelCount} {chan schan : Glbchannel}
    {pkg : Glbpkg} {from_ : Glbaddr} {env : Env} (h : Consistent s)
    (hstep : Step addr s (.inr (.packet pkg from_ env)) s')
    (hest : Establishes j (s, .inr (.packet pkg from_ env), s'))
    (hchan : s'.client.HasChannel i c chan) (hschan : s'.server.HasChannel j d schan) :
    s'.Agrees c chan schan ↔ pkg.header.seq = (s.server.connections j).ack ∧
      chan.ack = (s.client.connections i).ack := by
  obtain ⟨_, _, _, chs, heq, hstate, hchs, hopened⟩ := ack_of_establishes h hstep hest
  cases heq
  have hnew := hopened d
  obtain rfl := hschan.unique ⟨chs, hchs, rfl⟩
  obtain ⟨hseq, hack⟩ := h.server.of_open (j := j) (by rw [hstate]; decide)
  obtain ⟨ctx, rfl⟩ : ∃ ctx, s' = { s with server := ctx } := by
    rcases hstep with - | ⟨-, -, -⟩
    exact ⟨_, rfl⟩
  have hfirst : Session.firstNumber { s with server := ctx } c chan = initialSeq cfgA :=
    h.client.first i c chan hchan
  have hknown : (s.client.connections i).ack = initialSeq cfgB := by
    obtain ⟨chs, hchs, -⟩ := hchan
    exact h.client.ack i (by rw [hchs]; rfl)
  rw [Agrees, hfirst, hnew.ack_eq, hnew.seq_eq, hseq, hack, hknown]

/-! ### Before the two sides are connected -/

/-- A client that is still connecting has neither enqueued nor sent a message. -/
theorem untouched_of_synSent (h₀ : Start addr s₀) (hrun : Execution (Step addr) s₀ ts s)
    (hsyn : ∀ i, (s.client.connections i).state = .synSent) : (∀ c, s.enqueued c = []) ∧
      ∀ d ∈ s.client.sock, d.pkg.header.ctrlFlags ≠ ctrlFlagData := by
  induction hrun with
  | nil =>
    obtain ⟨hsock, -⟩ := h₀.client_eq
    refine ⟨h₀.enqueued, ?_⟩
    rw [hsock]
    intro d hd
    cases hd
  | @snoc s s' lab ts hrun hstep ih =>
    have hcons := h₀.consistent_run hrun
    rcases hstep with @⟨op, ctx, hstep, hnet⟩ | -
    · -- no step leads back to this state
      have hbefore : ∀ i, (s.client.connections i).state = .synSent := by
        intro i
        have hnow : (ctx.connections i).state = .synSent := hsyn i
        rcases client_change hcons.server hstep hnet i with h | ⟨-, -, -, h | h⟩ | ⟨-, -, -, h | h⟩
        · exact h.state.symm.trans hnow
        · rw [h] at hnow; cases hnow
        · exact h.symm.trans hnow
        · rw [h] at hnow; cases hnow
        · rw [h] at hnow; cases hnow
      have hdown : ∀ i, (s.client.connections i).state ≠ .established := fun i ↦ by
        rw [hbefore i]; decide
      obtain ⟨henq, hsock⟩ := ih hbefore
      refine ⟨fun c ↦ ?_, fun d hd hflags ↦ ?_⟩
      · show s.enqueuedAfter op c = []
        rw [enqueuedAfter, henq, Glbctx.enqueuedBy_eq_nil hstep hdown]
        exact ite_self _
      · rcases (Glbctx.step_emits hstep).mem_sock hd with hd | hemit
        · exact hsock d hd hflags
        · obtain ⟨i, -, -, -, hest, -⟩ := Glbctx.emitted_data hemit hflags
          exact hdown i hest
    · exact ih hsyn

/-- While no slot of the server was established, the server has sent no message and acknowledged
none, and the client waits for its first one. -/
theorem unestablished (h₀ : Start addr s₀) (hrun : Execution (Step addr) s₀ ts s)
    (hnone : ∀ x ∈ ts, ∀ j, ¬ Establishes j x) :
    (∀ j, (s.server.connections j).state ≠ .established) ∧
      (∀ d ∈ s.server.sock, d.pkg.header.ctrlFlags ≠ ctrlFlagData) ∧
      ∀ i c chan, s.client.HasChannel i c chan → chan.ack = initialSeq cfgB := by
  induction hrun with
  | nil =>
    refine ⟨fun j hest ↦ ?_, fun d hd ↦ ?_, ?_⟩
    · rw [h₀.server] at hest
      cases hest
    · rw [h₀.server] at hd
      cases hd
    · rintro i c chan ⟨chs, hchs, -⟩
      obtain ⟨-, hslot⟩ := h₀.client_eq
      rw [(hslot i).2.1] at hchs
      cases hchs
  | @snoc s s' lab ts hrun hstep ih =>
    obtain ⟨hstate, hsock, hack⟩ := ih fun x hx ↦ hnone x (List.mem_append_left _ hx)
    have hlast : ∀ j, ¬ Establishes j (s, lab, s') := hnone _ (by simp)
    have hcons := h₀.consistent_run hrun
    rcases hstep with @⟨op, ctx, hstep, hnet⟩ | @⟨op, ctx, hstep, hnet, -⟩
    · refine ⟨hstate, hsock, fun i c chan' hchan' ↦ ?_⟩
      rcases channel_of_client h₀.mode hcons.server hstep hnet hchan' with
        ⟨-, hopened⟩ | ⟨-, chan, hchan, hrecv, -⟩
      · exact hopened.ack_eq
      generalize hside : chan'.recvSide = side at hrecv
      cases hrecv with
      | same | popped =>
        exact (Glbchannel.recvSide_eq_iff.1 hside).2.1.trans (hack i c chan hchan)
      | accepted hflags =>
        -- the server has sent no DATA
        obtain ⟨d, hd, hheader, -⟩ := hnet
        exact absurd (hheader ▸ hflags) (hsock d hd)
    · refine ⟨fun j hest ↦ hlast j ⟨hstate j, hest⟩, fun d hd hflags ↦ ?_, hack⟩
      rcases (Glbctx.step_emits hstep).mem_sock hd with hd | hemit
      · exact hsock d hd hflags
      · obtain ⟨j, -, -, -, hest, -⟩ := Glbctx.emitted_data hemit hflags
        exact hstate j hest

/-- An established slot of the server became established. -/
theorem establishes_of_run (h₀ : Start addr s₀) (hrun : Execution (Step addr) s₀ ts s)
    {j : Fin cfgB.connectionCount} (hest : (s.server.connections j).state = .established) :
    ∃ x ∈ ts, Establishes j x := by
  induction hrun with
  | nil =>
    rw [h₀.server] at hest
    cases hest
  | @snoc s s' lab ts hrun hstep ih =>
    by_cases hbefore : (s.server.connections j).state = .established
    · obtain ⟨x, hx, hxe⟩ := ih hbefore
      exact ⟨x, List.mem_append_left _ hx, hxe⟩
    · exact ⟨(s, lab, s'), by simp, hbefore, hest⟩

end Session

end Gilberta
