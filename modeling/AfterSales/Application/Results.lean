import AfterSales.Application.Investigate
import AfterSales.Application.Routing

/-! What becomes of an investigation: its result is applied to the case, or the case is parked.

    A result proposes a ticket, asks the customer, waits, or closes the case; an issue that the
    order contradicts is revised once, and a second pass of the same run goes on under it. Each of
    these is one transaction over case, proposals and run, followed by its events. -/

namespace AfterSales
open Interleave Repository

variable [PolicyDigest] [ProofDigest] [ResultDigest] [IdText] [TraceVolume] [FactDigest]
  [CaseFolding] [EvidenceDigest]

namespace Service

/-- `update_case` under the revision just read. -/
def changeCase (caseId : RowId) (u : CaseUpdate) : Tx Unit := do
  let f ← requireCase caseId
  updateCase caseId (some f.row.revision) u

/-- The update that closes a case. -/
def closing (caseOutcome : CaseOutcome) (reasonCode : String) : CaseUpdate where
  caseState := some .closed
  caseOutcome := some caseOutcome
  reasonCode := some reasonCode

omit [ProofDigest] [ResultDigest] [IdText] [TraceVolume] [FactDigest] [CaseFolding] in
/-- An update that also stores what the case has used up. -/
def withUsage (output : InvestigationOutput) (u : CaseUpdate) : CaseUpdate :=
  { u with
    actualReadToolExecutionCount := some output.actualReadToolExecutions
    agentPlanningTurnCount := some output.casePlanningTurns }

/-- The run succeeds, with what it has used up. -/
def finishRun (runId : RowId) (output : InvestigationOutput) : Tx Unit :=
  updateRun runId .succeeded (some output.planningTurns) (some output.runReadToolExecutions)

/-! ### Failure -/

/-- How a failed pass is charged to its case: a first pass adds what its run was seen to use, the
    pass after a revision takes the larger of both. -/
def charge (pass : Nat) (counted observed : Nat) : Nat :=
  if pass = 0 then counted + observed else max counted observed

/-- The update of a case whose investigation raised: it waits for a retry. -/
def parkUpdate (pass : Nat) (row : CaseRow) (turns reads : Nat) : CaseUpdate where
  caseState := some .awaitingRetry
  actualReadToolExecutionCount :=
    some (min 6 (charge pass row.actualReadToolExecutionCount reads))
  agentPlanningTurnCount := some (min 16 (charge pass row.agentPlanningTurnCount turns))

/-- The transaction after an investigation that raised. -/
def parkCase (caseId runId : RowId) (pass : Nat) : Tx (Nat × Nat) := do
  let f ← requireCase caseId
  let l ← conversation
  let turns := l.observedTurns runId
  let reads := f.readsOfRun runId
  changeCase caseId (parkUpdate pass f.row turns reads)
  return (turns, reads)

/-- The handler of an investigation that raised. -/
def failInvestigation {α : Type} (caseId runId : RowId) (pass : Nat) (failureCode : String) :
    Service α := do
  let used ← transaction (.park caseId runId pass) (parkCase caseId runId pass)
  failRun runId (some caseId) failureCode "run_failed" (some used.1) (some used.2)
  refuse "INVESTIGATION_RUNTIME_FAILURE" 503

/-- `investigate` as the operations call it: any exception parks the case and fails the run. -/
def investigateOrFail (settings : Settings) (caseId runId : RowId) (pass : Nat)
    (selector : Nat → ObservationSelector) (args : InvestigateArguments) (failureCode : String)
    (loads : Service Unit) : Service InvestigationOutput :=
  Op.tryCatch
    (do
      loads
      investigateCase settings caseId runId selector args)
    fun _ => failInvestigation caseId runId pass failureCode

/-! ### Closing, waiting, asking -/

/-- `_close_after_investigation`. -/
def closeAfterInvestigation (caseId runId : RowId) (pass : Nat) (output : InvestigationOutput)
    (caseOutcome : CaseOutcome) (reasonCode : String) : Service Unit := do
  let disposition := projectCustomerDisposition
    { caseOutcome := some caseOutcome
      reasonCode := some reasonCode }
  transaction (.settle caseId runId pass) do
    changeCase caseId (withUsage output (closing caseOutcome reasonCode))
    finishRun runId output
  emitCustomerReplyAndRunSuccess runId (some caseId) disposition
  emitCase "case_closed" runId caseId (some disposition)

/-- The branch of a gate that retries later. -/
def retryLater (caseId runId : RowId) (pass : Nat) (output : InvestigationOutput) :
    Service Unit := do
  transaction (.settle caseId runId pass) do
    changeCase caseId (withUsage output { caseState := some .awaitingRetry })
    finishRun runId output
  emitCustomerReplyAndRunSuccess runId (some caseId) .wait

/-- Errors of the case fact service that an operation recovers from. -/
def recoverable : ServiceError → Bool
  | .caseFact (.rejected _) | .caseFact (.integrity _) => true
  | _ => false

/-- The transaction of a clarification: the snapshot before the question, and whether the question
    was asked just now. -/
def askQuestionAboutLocation (caseId : RowId) : Tx (Option (CaseFactSnapshot × Bool)) := do
  let before ← CaseFactService.loadSnapshot caseId
  let asked ← CaseFactService.recordQuestion caseId .reportedDeliveryLocationChecked
  return some (before, asked.2)

/-- The question of a clarification; it is `none` when the fact service refuses. -/
def askLocation (caseId : RowId) : Service (Option (CaseFactSnapshot × Bool)) :=
  Op.tryCatch
    (transaction (.load caseId) (askQuestionAboutLocation caseId))
    fun e => if recoverable e then pure none else Op.throw e

/-- A question that was asked before may only be repeated while its answer is open. -/
def questionExhausted : Option (CaseFactSnapshot × Bool) → Bool
  | none => true
  | some (before, created) => !created &&
      decide ((before.questionState .reportedDeliveryLocationChecked).status
        ∉ [.unanswered, .conflictRequiresClarification])

/-- The branch of a gate that asks the customer. -/
def requestClarification (caseId runId : RowId) (pass : Nat) (output : InvestigationOutput) :
    Service Unit := do
  let f ← transaction .progress (requireCase caseId)
  if f.row.businessClarificationCount ≥ 2 then
    closeAfterInvestigation caseId runId pass output .humanSupportRequired
      "BUSINESS_CLARIFICATION_LIMIT_REACHED"
  else
    let asked ← askLocation caseId
    if questionExhausted asked then
      closeAfterInvestigation caseId runId pass output .humanSupportRequired
        "CASE_FACT_QUESTION_EXHAUSTED"
    else
      transaction (.settle caseId runId pass) do
        let current ← requireCase caseId
        let created := if asked.any (·.2) then 1 else 0
        changeCase caseId (withUsage output
          { caseState := some .awaitingCustomerInput
            businessClarificationCount :=
              some (current.row.businessClarificationCount + created) })
        finishRun runId output
      emitCase "business_clarification_requested" runId caseId (some .clarify)
      emitRunSucceeded runId (some caseId)

/-! ### Proposing -/

/-- The binding of the policy result that the gate saw. -/
def outputBinding (output : InvestigationOutput) : Option PolicyBinding := do
  let result ← output.toolResults .searchAfterSalesPolicy
  let payload ← result.payload
  payload.policyBinding

/-- The version of the next proposal of a case. -/
def nextVersion (proposals : List ProposalRow) : Nat :=
  (proposals.map (·.version)).foldl max 0 + 1

/-- The transaction of a proposal; its answer is the proposals it replaced. -/
def createTicketProposal (caseId runId : RowId) (output : InvestigationOutput)
    (gate : EvidenceGateResult) (binding : PolicyBinding) (identity : Option CaseFactIdentity) :
    Tx (List ProposalId) := do
  let f ← requireCase caseId
  let s ← shared
  let serial ← newSerial
  let proposalId : ProposalId := ⟨caseId, serial⟩
  let pending := (f.proposals.filter (·.proposalState = .pendingConfirmation)).map (·.proposalId)
  pending.forM fun previous => updateProposalState previous .superseded (some proposalId)
  createProposal (buildProposal proposalId (nextVersion f.proposals) f.row.authorizedOrderId
    f.row.canonicalIssueType output.evidenceRefs gate.criticalResultHashes binding
    f.row.targetShipmentId identity s.now)
  changeCase caseId (withUsage output
    { caseState := some .awaitingCustomerConfirmation
      activeProposalId := some proposalId })
  finishRun runId output
  return pending

/-- The branch of a gate that proposes a ticket. -/
def proposeTicket (caseId runId : RowId) (pass : Nat) (output : InvestigationOutput)
    (gate : EvidenceGateResult) (binding : PolicyBinding) (snapshot : Option CaseFactSnapshot) :
    Service Unit := do
  let superseded ← transaction (.settle caseId runId pass)
    (createTicketProposal caseId runId output gate binding
      (snapshot.map CaseFactSnapshot.materialIdentity))
  emit ⟨"action_recommended", .developer, some caseId, some runId, none, none, false⟩
  superseded.forM fun _ => emitCase "proposal_superseded" runId caseId
  emitCustomerReply runId (some caseId) (gateDisposition gate)
  emitCase "proposal_created" runId caseId (some (gateDisposition gate))
  emitRunSucceeded runId (some caseId)

/-! ### Applying a result -/

/-- The branches of a normal decision. -/
def applyDecision (caseId runId : RowId) (pass : Nat) (output : InvestigationOutput)
    (gate : EvidenceGateResult) (snapshot : Option CaseFactSnapshot)
    (decision : EvidenceGateDecision) : Service Unit :=
  match decision with
  | .proposeTicket =>
    match outputBinding output with
    | some binding => proposeTicket caseId runId pass output gate binding snapshot
    | none => closeAfterInvestigation caseId runId pass output .humanSupportRequired
        "PROPOSAL_POLICY_BINDING_MISSING"
  | .requestBusinessClarification => requestClarification caseId runId pass output
  | .retryLater => retryLater caseId runId pass output
  | .requireHumanSupport =>
    closeAfterInvestigation caseId runId pass output .humanSupportRequired gate.reasonCode
  | .completeNoAction =>
    closeAfterInvestigation caseId runId pass output .resolvedNoAction gate.reasonCode

/-- The gate result after the facts were rebuilt; a broken history needs human support. -/
def rebuiltGate (gate : EvidenceGateResult) (snapshot : Option CaseFactSnapshot) :
    EvidenceGateResult :=
  if snapshot.isSome then gate
  else { gate with
    outcome := .decision .requireHumanSupport
    reasonCode := "CASE_FACT_REBUILD_INTEGRITY_FAILED" }

/-- `refresh_snapshot`, where a broken history is answered with `none`. -/
def refreshOrNone (caseId : RowId) : Service (Option CaseFactSnapshot) :=
  Op.tryCatch
    (transaction .progress do
      let snapshot ← CaseFactService.refreshSnapshot caseId
      return some snapshot)
    fun e => match e with
      | .caseFact (.integrity _) => pure none
      | e => Op.throw e

/-- `_apply_investigation_result`; `revise` continues under a revised issue, when that is allowed. -/
def applyInvestigationResult (caseId runId : RowId) (pass : Nat)
    (revise : Option (IssueType → Service Unit)) (output : InvestigationOutput) :
    Service Unit := do
  let snapshot ← refreshOrNone caseId
  let gate := rebuiltGate output.gateResult snapshot
  match gate.outcome with
  | .revision intent =>
    match intent.issueType, revise with
    | some issueType, some continueWith => continueWith issueType
    | _, _ =>
      closeAfterInvestigation caseId runId pass output .humanSupportRequired
        "ISSUE_REVISION_REQUIRES_NEW_INVESTIGATION"
  | .decision decision => applyDecision caseId runId pass output gate snapshot decision

/-- The transaction of an issue revision. -/
def reviseCase (caseId : RowId) (output : InvestigationOutput) (issueType : IssueType) :
    Tx Unit := do
  changeCase caseId (withUsage output {})
  let f ← requireCase caseId
  appendIssueRevision caseId issueType (some f.row.revision)

/-- `_revise_issue_and_continue_investigation`. -/
def reviseIssueAndContinue (settings : Settings) (caseId runId : RowId)
    (selector : Nat → ObservationSelector) (output : InvestigationOutput) (issueType : IssueType) :
    Service Unit := do
  transaction .progress (reviseCase caseId output issueType)
  emitCase "case_issue_revised" runId caseId
  let revised ← investigateOrFail settings caseId runId 1 selector
    { runPlanningTurns := output.planningTurns
      investigationPass := 1 }
    "ISSUE_REVISION_INVESTIGATION_FAILURE"
    (do let _ ← transaction .progress (CaseFactService.refreshSnapshot caseId))
  applyInvestigationResult caseId runId 1 none revised

/-- The result of the first pass of a run. -/
def applyFirstResult (settings : Settings) (caseId runId : RowId)
    (selector : Nat → ObservationSelector) (output : InvestigationOutput) : Service Unit :=
  applyInvestigationResult caseId runId 0
    (some (reviseIssueAndContinue settings caseId runId selector output)) output

end Service

end AfterSales
