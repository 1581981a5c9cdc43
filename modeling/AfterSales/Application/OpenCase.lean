import AfterSales.Application.RunLifecycle

/-! One open case in a conversation, and one pending proposal of a case.

    The pointer of a conversation names its open case, the pointer of a case names its pending
    proposal, and the versions of its proposals count them. The rows are kept so at every await, in
    whatever order the calls of the conversations take their steps. -/

set_option linter.unusedSectionVars false

namespace AfterSales
open Interleave Repository

variable [PolicyDigest] [ProofDigest] [ResultDigest] [IdText] [TraceVolume] [FactDigest]
  [CaseFolding] [EvidenceDigest] [MessageRedaction]

variable {settings : Settings} {k : String} {l : ConversationStore} {c : RowId} {f : CaseFolder}
  {g : ServiceConfig}

/-- At most one case is open, and the pointer names it. -/
structure OneOpenCase (l : ConversationStore) : Prop where
  unique : ∀ c c' f f', l.folders c = some f → l.folders c' = some f' →
    f.row.caseState ≠ .closed → f'.row.caseState ≠ .closed → c = c'
  named : ∀ c, l.activeCaseId = some c ↔ ∃ f, l.folders c = some f ∧ f.row.caseState ≠ .closed
  absent : l.activeCaseId = none ↔ ∀ c f, l.folders c = some f → f.row.caseState = .closed

/-- At most one proposal is pending, the pointer names it exactly while the case waits for its
    confirmation, and the versions are 1, 2, and so on. -/
structure OnePending (f : CaseFolder) : Prop where
  unique : f.proposals.countP (·.proposalState = .pendingConfirmation) ≤ 1
  named : f.row.caseState = .awaitingCustomerConfirmation ↔ ∃ p ∈ f.proposals,
    p.proposalState = .pendingConfirmation ∧ f.row.activeProposalId = some p.proposalId
  absent : f.row.caseState ≠ .awaitingCustomerConfirmation → f.row.activeProposalId = none
  versions : f.proposals.map (·.version) = List.range' 1 f.proposals.length

theorem StoreInv.oneOpenCase (h : StoreInv k l) : OneOpenCase l where
  unique c c' f f' hf hf' hopen hopen' := by
    have hc := (h.active c).mpr ⟨f, hf, hopen⟩
    have hc' := (h.active c').mpr ⟨f', hf', hopen'⟩
    exact Option.some.inj (hc.symm.trans hc')
  named := h.active
  absent := by
    constructor
    · intro hnone c f hf
      by_contra hopen
      have hc := (h.active c).mpr ⟨f, hf, hopen⟩
      rw [hnone] at hc
      cases hc
    · intro hclosed
      rw [Option.eq_none_iff_forall_ne_some]
      intro c hc
      obtain ⟨f, hf, hopen⟩ := (h.active c).mp hc
      exact hopen (hclosed c f hf)

/-- Proposals that were dropped are not pending. -/
theorem pending_of_dropped {proposals : List ProposalRow} (h : ∀ p ∈ proposals, p.Dropped) :
    proposals.countP (·.proposalState = .pendingConfirmation) = 0 := by
  rw [List.countP_eq_zero]
  intro p hp
  simpa using (h p hp).1

/-- A case in which nothing is pending, and that points to no proposal. -/
theorem OnePending.of_none (hstate : f.row.caseState ≠ .awaitingCustomerConfirmation)
    (hpointer : f.row.activeProposalId = none)
    (hpending : f.proposals.countP (·.proposalState = .pendingConfirmation) = 0)
    (hversions : f.proposals.map (·.version) = List.range' 1 f.proposals.length) : OnePending f where
  unique := by omega
  named := by
    refine iff_of_false hstate ?_
    rintro ⟨p, -, -, hp⟩
    rw [hpointer] at hp
    cases hp
  absent _ := hpointer
  versions := hversions

theorem FolderInv.onePending (h : FolderInv l c f) : OnePending f := by
  cases h.stage with
  | plain state pointer dropped actions =>
    exact .of_none state.1 pointer (pending_of_dropped dropped) h.versions
  | offered earlier p state pointer proposals dropped pending actions =>
    refine ⟨?_, ?_, fun hstate => absurd state hstate, h.versions⟩
    · rw [proposals, List.countP_append, pending_of_dropped dropped, List.countP_singleton]
      split <;> simp
    · refine iff_of_true state ⟨p, ?_, pending, pointer⟩
      rw [proposals]
      exact List.mem_append_right _ (List.mem_singleton_self p)
  | acting earlier p a states pointer proposals dropped confirmed actions executes =>
    refine .of_none ?_ pointer ?_ h.versions
    · intro hstate
      rw [hstate] at states
      simp [actionStages] at states
    · rw [proposals, List.countP_append, pending_of_dropped dropped, List.countP_singleton]
      simp [confirmed]

/-- In every state of the service a conversation has one open case at most, and a case one pending
    proposal. -/
theorem one_case_one_proposal (hreach : ServiceReaches settings (fun _ _ _ => True) g)
    (k : String) :
    OneOpenCase (g.stores k) ∧
      ∀ c f, (g.stores k).folders c = some f → OnePending f := by
  obtain ⟨γ, hinv, -, -⟩ := hreach.simulated (machine_preserved settings _)
    (fun _ h₀ k => h₀.inv k) k
  exact ⟨hinv.1.oneOpenCase, fun c f hf => (hinv.1.folders c f hf).2.2.onePending⟩

end AfterSales

/-! ### A case that waits for its confirmation -/

namespace AfterSales.Session

section OpenCase

attribute [local instance] PolicyDigest.bySource ProofDigest.byId ResultDigest.byName
  IdText.spelled FactDigest.byMessage CaseFolding.lower EvidenceDigest.byResults
  MessageRedaction.none TraceVolume.one

theorem lateReport_oneCase :
    let l := (session demoSettings "CONV-1" "CUS-1" (demoShared fun _ => []) [lateReport]).stores
      "CONV-1"
    OneOpenCase l ∧ ∀ c f, l.folders c = some f → OnePending f :=
  one_case_one_proposal
    (session_reaches (demoShared_fresh _) [lateReport] fun _ _ => trivial) "CONV-1"

end OpenCase

end AfterSales.Session
