import AfterSales.Investigation.Progress

/-! The boundary between an untrusted selector and the read runtime.

    A selector proposes the next observation; nothing it says is trusted. The validator turns a
    candidate into a server-owned observation or rejects it with a code, the router decides what
    follows a result, and the guard counts turns that settle nothing. -/

namespace AfterSales

inductive ObservationAction where | callTool | finish
  deriving DecidableEq, Repr

inductive ObservationReasonCode where
  | firstRequiredObservation | missingRequiredEvidence | observationConditionalBranch
  | optionalExplanatoryContext | finalizationRequested
  deriving DecidableEq, Repr

/-- Selector output that fits the candidate schema: an observation to make, or the wish to end. -/
structure NextObservationCandidate where
  action : ObservationAction
  toolName : Option ReadTool
  addresses : List EvidenceRequirementCode
  reasonCode : ObservationReasonCode
  addressesNodup : addresses.Nodup
  finishShape : action = .finish →
    toolName = none ∧ addresses = [] ∧ reasonCode = .finalizationRequested
  callShape : action = .callTool → toolName.isSome ∧ reasonCode ≠ .finalizationRequested
  deriving DecidableEq

/-- The identity of a decision: the hashed content, compared as a whole. -/
structure DecisionFingerprint where
  action : ObservationAction
  toolName : Option ReadTool
  canonicalArguments : Option ToolArguments
  addresses : List EvidenceRequirementCode
  evidenceProgress : EvidenceProgressSnapshot
  deriving DecidableEq

/-- What a selector is shown. -/
structure DecisionContext where
  caseId : String
  runId : String
  canonicalIssueType : IssueType
  authorizedOrderId : String
  evidenceProgress : EvidenceProgressSnapshot
  remainingBudget : ToolBudget
  priorDecisionFingerprints : List DecisionFingerprint

/-- A candidate the validator has accepted, with arguments the server built. -/
structure NextObservation where
  planningTurn : Nat
  action : ObservationAction
  toolName : Option ReadTool
  canonicalArguments : Option ToolArguments
  addresses : List EvidenceRequirementCode
  reasonCode : ObservationReasonCode
  decisionFingerprint : DecisionFingerprint
  deriving DecidableEq

inductive RejectionCode where
  | invalidCandidateSchema | activeCaseRunMismatch | pendingExactRetry | planningBudgetExceeded
  | prematureFinish | invalidEvidenceRequirement | toolNotRelevantToIssue | missingEvidenceAddress
  | duplicateCompletedRead | retryExhausted | evidenceProgressConflict | stuckRepeatedDecision
  deriving DecidableEq, Repr

namespace ObservationValidator

/-- The rows of `validate` on a candidate that calls a tool. -/
def rejectCall (context : DecisionContext) (addresses : List EvidenceRequirementCode)
    (tool : ReadTool) : Option RejectionCode :=
  let status := (context.evidenceProgress.requirements tool.requirement).status
  if ∃ issue ∈ tool.restrictedTo, context.canonicalIssueType ≠ issue then
    some .toolNotRelevantToIssue
  else if addresses = [] then some .missingEvidenceAddress
  else if addresses ≠ [tool.requirement] then some .invalidEvidenceRequirement
  else if status.satisfied then some .duplicateCompletedRead
  else if status = .unavailableFinal then some .retryExhausted
  else if status = .conflict then some .evidenceProgressConflict
  else none

/-- The arguments of an accepted call come from the context alone. -/
def canonicalArguments (context : DecisionContext) (tool : ReadTool) : ToolArguments :=
  ⟨context.authorizedOrderId, if tool.takesIssue then some context.canonicalIssueType else none⟩

/-- What the candidate asks for: a tool with its arguments, or nothing when it ends. -/
def requested (context : DecisionContext) (candidate : NextObservationCandidate) (gateReady : Bool) :
    Except RejectionCode (Option ReadTool) :=
  match candidate.action, candidate.toolName with
  | .callTool, some tool =>
    match rejectCall context candidate.addresses tool with
    | some code => .error code
    | none => .ok (some tool)
  | _, _ => if gateReady then .ok none else .error .prematureFinish

/-- `validate`; `none` for the candidate is output that does not fit the schema. -/
def validate (candidate : Option NextObservationCandidate) (context : DecisionContext)
    (trusted : TrustedToolContext) (pendingRetry : Option RetryDirective)
    (gateReady : Option Bool) : Except RejectionCode NextObservation :=
  match candidate with
  | none => .error .invalidCandidateSchema
  | some parsed =>
    let progress := context.evidenceProgress
    let budget := context.remainingBudget
    let gateReady := gateReady.getD (decide (progress.gateReadiness = .evaluable))
    if context.caseId ≠ trusted.caseId ∨ context.runId ≠ trusted.runId
        ∨ context.authorizedOrderId ≠ trusted.authorizedOrderId
        ∨ context.canonicalIssueType ≠ trusted.canonicalIssueType then
      .error .activeCaseRunMismatch
    else if pendingRetry.isSome then .error .pendingExactRetry
    else if budget.casePlanningTurns ≥ 16 ∨ budget.runPlanningTurns ≥ 8 then
      .error .planningBudgetExceeded
    else
      match requested context parsed gateReady with
      | .error code => .error code
      | .ok tool =>
        let arguments := tool.map (canonicalArguments context)
        let fingerprint : DecisionFingerprint :=
          ⟨parsed.action, tool, arguments, parsed.addresses, progress⟩
        if fingerprint ∈ context.priorDecisionFingerprints then .error .stuckRepeatedDecision
        else .ok
          { planningTurn := budget.runPlanningTurns + 1
            action := parsed.action
            toolName := tool
            canonicalArguments := arguments
            addresses := parsed.addresses
            reasonCode := parsed.reasonCode
            decisionFingerprint := fingerprint }

/-- A call passes its rows exactly when the tool fits the issue, addresses its own requirement, and
    that requirement is still open. -/
theorem rejectCall_eq_none {context : DecisionContext} {addresses : List EvidenceRequirementCode}
    {tool : ReadTool} : rejectCall context addresses tool = none ↔
      (∀ issue ∈ tool.restrictedTo, context.canonicalIssueType = issue) ∧
      addresses = [tool.requirement] ∧
      (context.evidenceProgress.requirements tool.requirement).status
        ∈ [EvidenceProgressStatus.missing, .retryPending] := by
  unfold rejectCall
  set status := (context.evidenceProgress.requirements tool.requirement).status
  constructor
  · intro h
    simp only at h
    split at h
    · cases h
    rename_i hissue
    split at h
    · cases h
    split at h
    · cases h
    rename_i haddr
    refine ⟨by simpa using hissue, not_not.mp haddr, ?_⟩
    revert h
    cases status <;> decide
  · rintro ⟨hissue, rfl, hopen⟩
    rw [if_neg (by simpa using hissue), if_neg (by simp), if_neg (by simp)]
    revert hopen
    cases status <;> decide

/-- A requested tool is the candidate's own, and its call was not rejected. -/
theorem requested_some {context : DecisionContext} {candidate : NextObservationCandidate}
    {gateReady : Bool} {tool : ReadTool}
    (h : requested context candidate gateReady = .ok (some tool)) :
    candidate.toolName = some tool ∧ rejectCall context candidate.addresses tool = none := by
  unfold requested at h
  split at h
  · rename_i t _ htool
    split at h
    · cases h
    · rename_i hnone
      cases h
      exact ⟨htool, hnone⟩
  · split_ifs at h
    cases h

/-- What an accepted candidate has passed. -/
structure Accepted (candidate : NextObservationCandidate) (context : DecisionContext)
    (pendingRetry : Option RetryDirective) (gateReady : Option Bool)
    (observation : NextObservation) : Prop where
  notPending : pendingRetry = none
  request : requested context candidate
    (gateReady.getD (decide (context.evidenceProgress.gateReadiness = .evaluable)))
      = .ok observation.toolName
  arguments : observation.canonicalArguments =
    observation.toolName.map (canonicalArguments context)
  progress : observation.decisionFingerprint.evidenceProgress = context.evidenceProgress

theorem validate_ok {candidate : NextObservationCandidate} {context : DecisionContext}
    {trusted : TrustedToolContext} {pendingRetry : Option RetryDirective}
    {gateReady : Option Bool} {observation : NextObservation}
    (h : validate (some candidate) context trusted pendingRetry gateReady = .ok observation) :
    Accepted candidate context pendingRetry gateReady observation := by
  unfold validate at h
  simp only at h
  split at h
  · cases h
  split at h
  · cases h
  rename_i hpending
  split at h
  · cases h
  split at h
  · cases h
  rename_i tool htool
  split at h
  · cases h
  cases h
  exact ⟨by simpa using hpending, htool, rfl, rfl⟩

/-- An open call in scope, within budget and with a decision not taken before is accepted. -/
theorem validate_call {candidate : NextObservationCandidate} {context : DecisionContext}
    {trusted : TrustedToolContext} {gateReady : Option Bool} {tool : ReadTool}
    (hcase : context.caseId = trusted.caseId) (hrun : context.runId = trusted.runId)
    (horder : context.authorizedOrderId = trusted.authorizedOrderId)
    (hissue : context.canonicalIssueType = trusted.canonicalIssueType)
    (hturns : context.remainingBudget.casePlanningTurns < 16
      ∧ context.remainingBudget.runPlanningTurns < 8)
    (haction : candidate.action = .callTool) (htool : candidate.toolName = some tool)
    (hopen : rejectCall context candidate.addresses tool = none)
    (hnew : ∀ f ∈ context.priorDecisionFingerprints,
      f.evidenceProgress ≠ context.evidenceProgress) :
    ∃ observation, validate (some candidate) context trusted none gateReady = .ok observation := by
  unfold validate
  simp only
  rw [if_neg (by simp [hcase, hrun, horder, hissue]), if_neg (by simp), if_neg (by omega)]
  unfold requested
  simp only [haction, htool, hopen]
  rw [if_neg fun hmem => hnew _ hmem rfl]
  exact ⟨_, rfl⟩

end ObservationValidator

inductive RecoveryRoute where | replan | retryExact | finalize | safeStop
  deriving DecidableEq, Repr

inductive RecoveryReasonCode where
  | replanRequired | retryableToolFailure | gateReady | budgetExhausted | integrityConflict
  | sourceRevisionChangedDuringRetry | stuckRepeatedDecision | stuckNoEvidenceProgress
  | prematureFinish | invalidObservation
  deriving DecidableEq, Repr

def RecoveryReasonCode.value : RecoveryReasonCode → String
  | .replanRequired => "REPLAN_REQUIRED"
  | .retryableToolFailure => "RETRYABLE_TOOL_FAILURE"
  | .gateReady => "GATE_READY"
  | .budgetExhausted => "BUDGET_EXHAUSTED"
  | .integrityConflict => "INTEGRITY_CONFLICT"
  | .sourceRevisionChangedDuringRetry => "SOURCE_REVISION_CHANGED_DURING_RETRY"
  | .stuckRepeatedDecision => "STUCK_REPEATED_DECISION"
  | .stuckNoEvidenceProgress => "STUCK_NO_EVIDENCE_PROGRESS"
  | .prematureFinish => "PREMATURE_FINISH"
  | .invalidObservation => "INVALID_OBSERVATION"

/-- The route taken after a result, and why. -/
structure RecoveryDecision where
  route : RecoveryRoute
  reasonCode : RecoveryReasonCode
  deriving DecidableEq, Repr

/-- The read failed in a way that one retry may repair. -/
def transientFailure {P : Type} (result : ToolResult P) : Bool :=
  result.executionStatus = .retryableError && result.evidenceAvailability = .unavailable &&
    result.retryable

/-- `ObservationRouter.route`. -/
def observationRoute {P : Type} (progressAfter : EvidenceProgressSnapshot) (budget : ToolBudget)
    (attemptNumber : Nat) (result : ToolResult P) (pendingRetry : Option RetryDirective)
    (sourceVersion : String) (sameProgressSelectorTurns : Nat) : RecoveryDecision :=
  if progressAfter.terminalTriggerCodes ≠ [] then ⟨.safeStop, .integrityConflict⟩
  else if budget.casePlanningTurns ≥ 16 ∨ budget.runPlanningTurns ≥ 8
      ∨ budget.actualReadToolExecutions ≥ 6 then
    ⟨.safeStop, .budgetExhausted⟩
  else if ∃ d ∈ pendingRetry, sourceVersion ≠ d.sourceVersion then
    ⟨.safeStop, .sourceRevisionChangedDuringRetry⟩
  else if pendingRetry.isSome ∨ (transientFailure result ∧ attemptNumber ≤ 1) then
    ⟨.retryExact, .retryableToolFailure⟩
  else if progressAfter.gateReadiness = .evaluable then ⟨.finalize, .gateReady⟩
  else if sameProgressSelectorTurns ≥ 2 then ⟨.safeStop, .stuckNoEvidenceProgress⟩
  else ⟨.replan, .replanRequired⟩

/-- The counters of `GuardController` that the loop reads. -/
structure GuardState where
  unchangedSelectorTurns : Nat
  correctiveTurnsUsed : Nat
  deriving DecidableEq, Repr

namespace GuardState

/-- `observe_selector_turn`: the guard after a turn, and its reason to stop. -/
def observeSelectorTurn (g : GuardState) (before after : EvidenceProgressSnapshot) :
    GuardState × Option RecoveryReasonCode :=
  let unchanged := if before = after then g.unchangedSelectorTurns + 1 else 0
  ({ g with unchangedSelectorTurns := unchanged },
    if unchanged ≥ 2 then some .stuckNoEvidenceProgress else none)

/-- `allow_correction`: one corrective turn a pass. -/
def allowCorrection (g : GuardState) : Option GuardState :=
  if g.correctiveTurnsUsed ≥ 1 then none else some { g with correctiveTurnsUsed := 1 }

end GuardState

end AfterSales
