import AfterSales.Application.JournalRuns
import AfterSales.Application.Traversal

/-! A conversation watched by both of its machines, and conditions on its steps.

    The machine knows the phase of a call and what is stored; the journal knows the log. What is
    stated about both at once is kept by moves that both make. -/

set_option linter.unusedSectionVars false

namespace AfterSales
open Interleave Repository

variable [PolicyDigest] [ProofDigest] [ResultDigest] [IdText] [TraceVolume] [FactDigest]
  [CaseFolding] [EvidenceDigest] [MessageRedaction]

variable {settings : Settings} {k : String} {l : ConversationStore} {s : SharedState}

/-- The machine of a conversation together with its journal. -/
def watch (settings : Settings) (k : String) :
    Machine (Phase × JournalPoint) ConversationStore SharedState Label Response :=
  (machine settings k).prod (journal settings k)

/-- Every request follows both. -/
theorem Request.watched (settings : Settings) (k : String) (r : Request) (l : ConversationStore) :
    Follows (watch settings k) (fun a γ _ => (watch settings k).ended a γ)
      (Request.program settings k r) (.idle, .blank) l :=
  (Request.follows settings k r l).prod r.journaled

theorem watch_preserved (settings : Settings) (assumes : String → Label → ServiceState → Prop) :
    Preserved (watch settings) SharedState.Drifts assumes fun k => (watch settings k).inv :=
  (machine_preserved settings assumes).prod
    { own := fun _ _ _ _ => trivial
      other := fun _ _ _ _ _ _ _ => trivial
      moves := fun _ _ _ => trivial
      ended := fun _ _ _ => trivial }

/-- What the moves of both keep holds of every conversation of a service that is at rest. -/
theorem ServiceReaches.watched_atRest {assumes : String → Label → ServiceState → Prop}
    {J : String → Phase × JournalPoint → ConversationStore → SharedState → Prop} {g : ServiceConfig}
    (hreach : ServiceReaches settings assumes g)
    (keeps : Preserved (watch settings) SharedState.Drifts assumes J)
    (hfresh : ∀ k customerId s, J k (.idle, .blank) (.created customerId) s)
    (hrest : g.AtRest k) : J k (.idle, .blank) (g.stores k) g.shared := by
  obtain ⟨g₀, h₀, hreach⟩ := hreach
  have hinit : Simulated (watch settings) J g₀ := by
    intro k
    obtain ⟨customerId, hstore⟩ := h₀.stores k
    refine ⟨(.idle, .blank), ⟨h₀.inv k, trivial⟩, hstore ▸ hfresh k customerId _, ?_⟩
    simp only [InPhase, h₀.calls k]
    rfl
  exact (hreach.simulated (fun k r l s _ => Request.watched settings k r l)
    (watch_preserved settings assumes) keeps hinit).atRest keeps hrest

/-- A number that is drawn is the number of no run. -/
theorem StoreInv.runStateOf_new (h : StoreInv k l) :
    l.runStateOf ⟨k, l.nextSerial⟩ = none := by
  cases hrow : l.runs ⟨k, l.nextSerial⟩ with
  | none =>
    rw [ConversationStore.runStateOf, hrow]
    rfl
  | some row => exact absurd (h.runs _ _ hrow).1 (lt_irrefl _)

/-! ### Conditions on a step -/

/-- The write that an action submits is not refused by a unique index of the tickets. -/
def WriteAccepted (settings : Settings) (actionId : ActionId) (x : ServiceState) : Prop :=
  (x.2.fixtures.consumeActionFault settings.faultSeed).2 = none →
    ∀ caseId f act, x.1.folders caseId = some f → act ∈ f.actions → act.actionId = actionId →
      ticketRefused x.2.tickets
        ((Service.TicketAction.ofCase act caseId f.row).ticketRow x.2.now) = false

/-- The write of an open action is that of its row. -/
theorem ActionOpen.ofCase {f : CaseFolder} {a : Service.TicketAction} {act : ActionRow}
    (h : ActionOpen f a act) : Service.TicketAction.ofCase act a.caseId f.row = a := by
  obtain ⟨actionId, key, caseId, customerId, orderId, issueType, target⟩ := a
  unfold Service.TicketAction.ofCase
  simp only [Service.TicketAction.mk.injEq]
  exact ⟨h.actionId.symm, h.idempotencyKey.symm, trivial, h.customerId.symm,
    h.authorizedOrderId.symm, h.issueType.symm, h.targetShipmentId.symm⟩

/-- While writes are accepted no call is stranded. -/
theorem Move.not_stranded {label : Label} {γ γ' : Phase} {x y : ServiceState}
    (h : Move settings k label γ x γ' y) (hinv : γ.Inv x.1)
    (haccepted : ∀ actionId, label = .submit actionId → WriteAccepted settings actionId x)
    (hγ : γ ≠ .stranded) : γ' ≠ .stranded := by
  intro hstranded
  cases h with
  | strand clear refused =>
    obtain ⟨-, f, act, hf, hact, -⟩ := hinv
    have h := haccepted _ rfl clear _ f act hf (by simp [hact.actions]) hact.actionId.symm
    rw [hact.ofCase] at h
    rw [refused] at h
    cases h
  | look | load | note => exact hγ hstranded
  | tell e about carries visible ordinary known tells =>
    subst hstranded
    cases tells
  | begin starts =>
    subst hstranded
    cases starts
  | facts kind facts =>
    subst hstranded
    cases facts
  | change folder run move =>
    subst hstranded
    cases move
  | _ => cases hstranded

end AfterSales
