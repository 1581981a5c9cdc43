import AfterSales.Policy.Corpus

/-! The declared lifecycles of a case, a run, a proposal and an action.

    A transition checks its table, then the fields that go with the new state, and last that the
    changed record is consistent. -/

namespace AfterSales

/-! ### Cases -/

/-- The fields of `InvestigationCase` that a transition reads and sets. -/
structure InvestigationCase where
  caseState : CaseState
  caseOutcome : Option CaseOutcome
  reasonCode : Option String
  deriving DecidableEq

/-- `keep_state_and_outcome_consistent`. -/
def InvestigationCase.consistent (c : InvestigationCase) : Bool :=
  if c.caseState = .closed then c.caseOutcome.isSome && decide (c.reasonCode.getD "" ≠ "")
  else c.caseOutcome.isNone && c.reasonCode.isNone

/-- `transition_case`; `none` is `IllegalStateTransition`, or a record that is not consistent. -/
def transitionCase (c : InvestigationCase) (target : CaseState) (outcome : Option CaseOutcome)
    (reasonCode : Option String) : Option InvestigationCase :=
  if target ∉ caseTransitions c.caseState then none
  else if target = .closed ∧ (outcome = none ∨ reasonCode.getD "" = "") then none
  else if target ≠ .closed ∧ (outcome ≠ none ∨ reasonCode ≠ none) then none
  else some ⟨target, outcome, reasonCode⟩ |>.filter (·.consistent)

/-- A transition is accepted exactly where the table has it and its result is consistent. -/
theorem transitionCase_eq {c : InvestigationCase} {target : CaseState}
    {outcome : Option CaseOutcome} {reasonCode : Option String}
    (hedge : target ∈ caseTransitions c.caseState)
    (hconsistent : InvestigationCase.consistent ⟨target, outcome, reasonCode⟩ = true) :
    transitionCase c target outcome reasonCode = some ⟨target, outcome, reasonCode⟩ := by
  have hfilter : (some (InvestigationCase.mk target outcome reasonCode)).filter (·.consistent) =
      some ⟨target, outcome, reasonCode⟩ := by
    rw [Option.filter_some, if_pos hconsistent]
  unfold InvestigationCase.consistent at hconsistent
  rw [transitionCase, if_neg (not_not.mpr hedge)]
  by_cases hclosed : target = .closed
  · simp only [hclosed, if_true, Bool.and_eq_true, decide_eq_true_eq] at hconsistent
    rw [if_neg, if_neg, hfilter]
    · exact fun h => h.1 hclosed
    · rintro ⟨-, h | h⟩
      · simp [h] at hconsistent
      · exact hconsistent.2 h
  · simp only [hclosed, if_false, Bool.and_eq_true, Option.isNone_iff_eq_none] at hconsistent
    rw [if_neg, if_neg, hfilter]
    · rintro ⟨-, h | h⟩
      · exact h hconsistent.1
      · exact h hconsistent.2
    · exact fun h => hclosed h.1

/-! ### Runs -/

/-- The fields of `Run` that a transition reads and sets. -/
structure Run where
  runState : RunState
  failureClass : Option String
  deriving DecidableEq

/-- `keep_failure_separate`. -/
def Run.consistent (r : Run) : Bool :=
  if r.runState = .failed then decide (r.failureClass.getD "" ≠ "") else r.failureClass.isNone

/-- `transition_run`. -/
def transitionRun (r : Run) (target : RunState) (failureClass : Option String) : Option Run :=
  if target ∉ runTransitions r.runState then none
  else if ¬ (target = .failed ↔ failureClass.getD "" ≠ "") then none
  else some ⟨target, failureClass⟩ |>.filter (·.consistent)

theorem transitionRun_eq {r : Run} {target : RunState} {failureClass : Option String}
    (hedge : target ∈ runTransitions r.runState)
    (hconsistent : Run.consistent ⟨target, failureClass⟩ = true) :
    transitionRun r target failureClass = some ⟨target, failureClass⟩ := by
  have hfilter : (some (Run.mk target failureClass)).filter (·.consistent) =
      some ⟨target, failureClass⟩ := by
    rw [Option.filter_some, if_pos hconsistent]
  unfold Run.consistent at hconsistent
  rw [transitionRun, if_neg (not_not.mpr hedge), if_neg, hfilter]
  rw [not_not]
  by_cases hfailed : target = .failed
  · simp only [hfailed, if_true, decide_eq_true_eq] at hconsistent
    exact iff_of_true hfailed hconsistent
  · simp only [hfailed, if_false, Option.isNone_iff_eq_none] at hconsistent
    refine iff_of_false hfailed ?_
    rw [hconsistent]
    exact fun h => h rfl

/-! ### Proposals -/

/-- `transition_proposal`, of the state alone. -/
def transitionProposal (p target : ProposalState) : Option ProposalState :=
  if target ∉ proposalTransitions p then none else some target

/-! ### Actions -/

/-- The fields of `ActionExecution` that a transition reads and sets. -/
structure ActionExecution where
  actionState : ActionState
  submittedAt : Option Instant
  verifiedAt : Option Instant
  errorCode : Option String
  deriving DecidableEq

/-- `validate_action_timestamps`. -/
def ActionExecution.consistent (a : ActionExecution) : Bool :=
  decide (a.actionState ≠ .ready ↔ a.submittedAt.isSome = true) &&
    decide (a.verifiedAt.isSome = true ↔ a.actionState = .succeeded)

/-- `transition_action`. -/
def transitionAction (a : ActionExecution) (target : ActionState) (occurredAt : Instant)
    (errorCode : Option String) : Option ActionExecution :=
  if target ∉ actionTransitions a.actionState then none
  else
    let submittedAt :=
      if target = .submitted ∧ a.submittedAt = none then some occurredAt else a.submittedAt
    let verifiedAt := if target = .succeeded then some occurredAt else a.verifiedAt
    if target ∈ [ActionState.succeeded, .submitted] ∧ errorCode ≠ none then none
    else if target ∈ [ActionState.failedRetryable, .failedTerminal, .uncertain] ∧
        errorCode.getD "" = "" then none
    else some ⟨target, submittedAt, verifiedAt, errorCode⟩ |>.filter (·.consistent)

end AfterSales
