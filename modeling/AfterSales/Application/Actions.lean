import AfterSales.Application.Results

/-! Confirming and declining a proposal, and the one write the service makes.

    A confirmation reviews the proposal, the duplicate tickets and the evidence, and only then turns
    the proposal into an action:

        ready ─▶ submitted ─▶ succeeded | failed | uncertain

    The review and what it writes run without an await, so they are one step; the submission of the
    action, its outcome and the events between them are steps of their own. -/

namespace AfterSales
open Interleave Repository

variable [PolicyDigest] [ProofDigest] [IdText] [FactDigest] [CaseFolding] [EvidenceDigest]

/-! ### Revalidation -/

omit [IdText] [FactDigest] [CaseFolding] [EvidenceDigest] in
/-- The record that the gate is evaluated on again: the stored results, and default customer
    facts. -/
def revalidationEvidence (issueType : IssueType) (results : ToolResults)
    (targetShipmentId : Option String) (businessDemo : Bool) : Option GateEvidence := do
  let order ← results .getOrderContext
  let timeline ← results .getLogisticsTimeline
  let policy ← results .searchAfterSalesPolicy
  let tickets ← results .getExistingLogisticsTickets
  let common : CommonGateFacts := { targetShipmentId := targetShipmentId }
  match issueType with
  | .signedNotReceived =>
    let proof ← results .getDeliveryProof
    return .signedNotReceived
      { common with
        orderContext := order
        timeline := timeline
        deliveryProof := proof
        existingTickets := tickets
        policy := policy }
  | .stalledTracking =>
    return .stalledTracking
      { common with
        orderContext := order
        timeline := timeline
        existingTickets := tickets
        policy := policy
        carrierAlerts := if businessDemo then results .getCarrierServiceAlerts else none }

/-- The stored calls that a proposal refers to. -/
def evidenceRows (f : CaseFolder) (p : ProposalRow) : List CallRecord :=
  (f.toolCalls.map (·.call)).filter fun r => r.toolCallId ∈ p.evidenceRefs.map (·.toolCallId)

/-- The row names the version that its source has now. -/
def currentVersion (catalog : SyntheticReadToolCatalog) (orderId : String) (r : CallRecord) : Bool :=
  catalog.sourceRevision orderId r.toolName = some r.sourceVersion

/-- `_revalidate_gate`. -/
def revalidateGate (settings : Settings) (s : SharedState) (f : CaseFolder) (p : ProposalRow) :
    Option EvidenceGateResult :=
  let binding := p.executionParameters.policyBinding
  if p.executionParameters.targetShipmentId ≠ f.row.targetShipmentId then none
  else
    match s.fixtures.orders f.row.authorizedOrderId with
    | none => none
    | some order =>
      if !s.policyRag.corpus.validatePolicyBinding binding f.row.canonicalIssueType
          order.serviceLevel order.region settings.evaluatedAt then none
      else if (evidenceRows f p).any fun r =>
          !currentVersion s.catalog f.row.authorizedOrderId r then none
      else
        let results := Coordinator.latestOf (evidenceRows f p)
        match revalidationEvidence f.row.canonicalIssueType results f.row.targetShipmentId
            (decide (s.fixtures.fixtureVersion = "business-demo-v1")) with
        | none => none
        | some evidence =>
          match results .searchAfterSalesPolicy with
          | none => none
          | some policy =>
            if policy.payload.bind PolicySearchPayload.policyBinding = some binding then
              evaluateEvidenceGate f.row.canonicalIssueType evidence
            else none

/-- The evidence of a proposal is what it was: the gate proposes again, under the same hashes and
    the same customer facts. -/
def evidenceUnchanged (p : ProposalRow) (gate : Option EvidenceGateResult)
    (identity : Option CaseFactIdentity) : Bool :=
  match gate, identity with
  | some gate, some identity =>
    decide (gate.outcome = .decision .proposeTicket) &&
      decide (some identity = p.caseFactIdentity) &&
      decide (EvidenceDigest.evidenceSnapshotHash gate.criticalResultHashes p.executionParameters
        (some identity) = p.evidenceSnapshotHash)
  | _, _ => false

/-- `_validate_pending_proposal`: the error of a proposal that may not be acted on. -/
def validatePendingProposal (p : ProposalRow) (row : CaseRow) (version : Nat) (now : Instant) :
    Option String :=
  if p.version ≠ version then some "PROPOSAL_VERSION_CONFLICT"
  else if p.proposalState ≠ .pendingConfirmation then some "PROPOSAL_NOT_PENDING"
  else if p.expiresAt ≤ now then some "PROPOSAL_EXPIRED"
  else if row.caseState ≠ .awaitingCustomerConfirmation ∨ row.activeProposalId ≠ some p.proposalId
    then some "PROPOSAL_NOT_ACTIVE"
  else none

namespace Service

/-- `require_proposal`, with the case it belongs to. -/
def requireProposal (proposalId : ProposalId) : Tx (ProposalRow × CaseFolder) := do
  let f ← requireCase proposalId.caseId
  let p ← require "ActionProposal" (Keyed.find ProposalRow.proposalId proposalId f.proposals)
  return (p, f)

/-- `_create_action_run`, after the proposal was found. -/
def createActionRun (conversationId : String) (proposalId : ProposalId) : Service RowId := do
  let runId ← transaction (.answer proposalId) do
    let l ← conversation
    let _ ← found "PROPOSAL_NOT_FOUND" (getProposal l proposalId)
    let serial ← newSerial
    createRun ⟨conversationId, serial⟩ (some proposalId.caseId)
    return (⟨conversationId, serial⟩ : RowId)
  startRun runId (some proposalId.caseId)
  return runId

/-- The transaction that takes a proposal out of the way, and sets its case to be retried. -/
def dropProposal (proposalId : ProposalId) (proposalState : ProposalState) : Tx Unit := do
  updateProposalState proposalId proposalState
  changeCase proposalId.caseId { caseState := some .awaitingRetry }

/-- What the write of an action needs to know. -/
structure TicketAction where
  actionId : ActionId
  idempotencyKey : IdempotencyKey
  caseId : RowId
  customerId : String
  authorizedOrderId : String
  issueType : IssueType
  targetShipmentId : Option String

/-- The write of an action, for the case as it is now. -/
def TicketAction.ofCase (action : ActionRow) (caseId : RowId) (row : CaseRow) : TicketAction where
  actionId := action.actionId
  idempotencyKey := action.idempotencyKey
  caseId := caseId
  customerId := row.customerId
  authorizedOrderId := row.authorizedOrderId
  issueType := row.canonicalIssueType
  targetShipmentId := row.targetShipmentId

/-- What the review of a confirmation found, and wrote. -/
inductive Verdict where
  | rejected (code : String)
  | duplicate
  | invalidated
  | confirmed (action : TicketAction)

/-- The facts of the case as a proposal is compared with them; a broken history has none. -/
def currentIdentity (caseId : RowId) : Tx (Option CaseFactIdentity) := fun x =>
  match CaseFactService.loadSnapshot caseId x with
  | .ok (snapshot, x') => .ok (some snapshot.materialIdentity, x')
  | .error (.caseFact (.integrity _)) => .ok (none, x)
  | .error e => .error e

/-- The transaction of a confirmation. -/
def confirmAction (proposalId : ProposalId) (p : ProposalRow) : Tx Unit := do
  updateProposalState proposalId .confirmed
  createAction (buildReadyAction p)
  changeCase proposalId.caseId { caseState := some .executingAction }

/-- The review of a confirmation once the proposal itself is in order. -/
def reviewEvidence (settings : Settings) (proposalId : ProposalId) (p : ProposalRow)
    (f : CaseFolder) : Tx Verdict := do
  let s ← shared
  if (getActiveTicket s.tickets f.row.authorizedOrderId f.row.canonicalIssueType
      f.row.targetShipmentId).isSome then
    return .duplicate
  else
    let identity ← currentIdentity proposalId.caseId
    if evidenceUnchanged p (revalidateGate settings s f p) identity then
      confirmAction proposalId p
      return .confirmed (.ofCase (buildReadyAction p) proposalId.caseId f.row)
    else
      dropProposal proposalId .invalidated
      return .invalidated

/-- The review of a confirmation. -/
def reviewConfirmation (settings : Settings) (proposalId : ProposalId) (version : Nat) :
    Tx Verdict := do
  let (p, f) ← requireProposal proposalId
  let s ← shared
  match validatePendingProposal p f.row version s.now with
  | some code =>
    if code = "PROPOSAL_EXPIRED" then
      dropProposal proposalId .expired
      return .rejected code
    else return .rejected code
  | none =>
    if (authorizeOrder f.row.customerId f.row.authorizedOrderId s.fixtures).isNone then
      return .rejected "PROPOSAL_REVALIDATION_FAILED"
    else reviewEvidence settings proposalId p f

/-! ### The write -/

/-- The row of `tickets` that a write creates. -/
def TicketAction.ticketRow (a : TicketAction) (submittedAt : Instant) : TicketRow where
  ticketId := stableTicketId a.idempotencyKey
  caseId := a.caseId
  actionId := a.actionId
  customerId := a.customerId
  authorizedOrderId := a.authorizedOrderId
  targetShipmentId := a.targetShipmentId
  issueType := a.issueType
  active := true
  idempotencyKey := a.idempotencyKey
  createdAt := submittedAt
  updatedAt := submittedAt

/-- The ticket as the sources see it. -/
def TicketAction.sourceTicket (a : TicketAction) (submittedAt : Instant) : LogisticsTicket where
  ticketId := IdText.ticket (stableTicketId a.idempotencyKey)
  orderId := a.authorizedOrderId
  issueType := a.issueType
  ticketStatus := "open"
  targetShipmentId := a.targetShipmentId
  createdAt := submittedAt
  updatedAt := submittedAt

/-- The transaction of a submission: without a scripted fault it writes the ticket. -/
def submitAction (a : TicketAction) (fault : Option ActionFixtureFault) (submittedAt : Instant) :
    Tx Unit := do
  updateActionState a.actionId .submitted submittedAt none (some submittedAt)
  match fault with
  | some _ => pure ()
  | none => createTicket (a.ticketRow submittedAt)

/-- The step of a submission. A scripted fault is consumed before the transaction, and stays
    consumed when the transaction is refused. -/
def submitStep (settings : Settings) (a : TicketAction) (x : ServiceState) :
    Except ServiceError (Option ActionFixtureFault × Instant) × ServiceState :=
  let consumed := x.2.fixtures.consumeActionFault settings.faultSeed
  let x' : ServiceState := (x.1, { x.2 with fixtures := consumed.1 })
  Transaction.commit (do
    submitAction a consumed.2 x.2.now
    return (consumed.2, x.2.now)) x'

/-- Closes a case with the outcome of its action. -/
def closeWithAction (caseId runId : RowId) (caseOutcome : CaseOutcome) (reasonCode : String) :
    Tx Unit := do
  changeCase caseId (closing caseOutcome reasonCode)
  updateRun runId .succeeded

/-- The read-back of a write: the ticket is visible to the sources, and its row is looked up. -/
def verifyTicket (a : TicketAction) (runId : RowId) (submittedAt : Instant) : Tx Bool := do
  let s ← shared
  match s.fixtures.addTicket (a.sourceTicket submittedAt) with
  | none => throw (.runtime "ticket id is already used for another ticket")
  | some fixtures =>
    setShared { s with fixtures := fixtures }
    match getTicketByIdempotencyKey s.tickets a.idempotencyKey with
    | none =>
      updateActionState a.actionId .uncertain s.now (some "TICKET_READ_BACK_UNAVAILABLE")
      closeWithAction a.caseId runId .uncertain "ACTION_READ_BACK_UNAVAILABLE"
      return false
    | some _ =>
      updateActionState a.actionId .succeeded s.now none none (some s.now)
      closeWithAction a.caseId runId .ticketCreated "LOGISTICS_TICKET_CREATED_AND_VERIFIED"
      return true

/-- What a scripted fault makes of the case: its state, outcome and reason. -/
def faultedCase (actionState : ActionState) : CaseUpdate :=
  match actionState with
  | .failedRetryable => { caseState := some .awaitingRetry }
  | .failedTerminal => closing .failed "ACTION_FAILED_TERMINAL"
  | _ => closing .uncertain "ACTION_WRITE_RESULT_UNCERTAIN"

/-- The transaction of a scripted fault. -/
def recordFault (a : TicketAction) (runId : RowId) (fault : ActionFixtureFault) : Tx Unit := do
  let s ← shared
  updateActionState a.actionId fault.actionState s.now (some fault.errorCode)
  changeCase a.caseId (faultedCase fault.actionState)
  updateRun runId .succeeded

/-- The disposition that a scripted fault is reported with. -/
def faultDisposition (fault : ActionFixtureFault) : CustomerDisposition :=
  projectCustomerDisposition
    { caseState := (faultedCase fault.actionState).caseState
      caseOutcome := (faultedCase fault.actionState).caseOutcome
      actionState := some fault.actionState
      reasonCode := (faultedCase fault.actionState).reasonCode }

/-- `_record_scripted_action_fault`. -/
def recordScriptedActionFault (a : TicketAction) (runId : RowId) (fault : ActionFixtureFault) :
    Service OperationResult := do
  let disposition := faultDisposition fault
  transaction (.outcome a.actionId) (recordFault a runId fault)
  emitCustomerReply runId (some a.caseId) disposition
  emit ⟨if fault.actionState = .uncertain then "action_uncertain" else "action_failed", .both,
    some a.caseId, some runId, some disposition, none, fault.actionState = .failedRetryable⟩
  emitRunSucceeded runId (some a.caseId)
  if (faultedCase fault.actionState).caseState = some .closed then
    emitCase "case_closed" runId a.caseId (some disposition)
  return ⟨runId, some a.caseId, some disposition⟩

/-- `_submit_and_verify_ticket_action`. -/
def submitAndVerify (settings : Settings) (a : TicketAction) (runId : RowId) :
    Service OperationResult := do
  let submitted ← Op.segment (.submit a.actionId) (submitStep settings a)
  emit ⟨"action_submitted", .developer, some a.caseId, some runId, none, none, false⟩
  match submitted.1 with
  | some fault => recordScriptedActionFault a runId fault
  | none =>
    let verified ← transaction (.outcome a.actionId) (verifyTicket a runId submitted.2)
    let disposition : CustomerDisposition := if verified then .investigate else .escalate
    emitCustomerReply runId (some a.caseId) disposition
    emitCase (if verified then "action_verified" else "action_uncertain") runId a.caseId
      (some disposition)
    emitRunSucceeded runId (some a.caseId)
    emitCase "case_closed" runId a.caseId (some disposition)
    return ⟨runId, some a.caseId, some disposition⟩

/-! ### Confirming and declining -/

/-- The run of a confirmation or a decline that was refused fails. -/
def refuseRun {α : Type} (runId caseId : RowId) (failureCode code : String) : Service α := do
  failRun runId (some caseId) failureCode "run_failed"
  refuse code 409

/-- `confirm_proposal`. -/
def confirmProposal (settings : Settings) (conversationId : String) (proposalId : ProposalId)
    (version : Nat) : Service OperationResult := do
  let runId ← createActionRun conversationId proposalId
  let verdict ← transaction (.review proposalId version)
    (reviewConfirmation settings proposalId version)
  match verdict with
  | .rejected code =>
    if code = "PROPOSAL_EXPIRED" then emitCase "proposal_expired" runId proposalId.caseId
    refuseRun runId proposalId.caseId "PROPOSAL_REVALIDATION_FAILED" code
  | .duplicate =>
    refuseRun runId proposalId.caseId "ACTIVE_TICKET_ALREADY_EXISTS" "ACTIVE_TICKET_ALREADY_EXISTS"
  | .invalidated =>
    emitCase "proposal_invalidated" runId proposalId.caseId
    refuseRun runId proposalId.caseId "PROPOSAL_EVIDENCE_CHANGED" "PROPOSAL_EVIDENCE_CHANGED"
  | .confirmed action =>
    emitCase "proposal_confirmed" runId proposalId.caseId (some .investigate)
    submitAndVerify settings action runId

/-- The review of a decline; its answer is the error it is refused with. -/
def reviewDecline (runId : RowId) (proposalId : ProposalId) (version : Nat) :
    Tx (Option String) := do
  let (p, f) ← requireProposal proposalId
  let s ← shared
  match validatePendingProposal p f.row version s.now with
  | some code =>
    if code = "PROPOSAL_EXPIRED" then
      dropProposal proposalId .expired
      return some code
    else return some code
  | none =>
    updateProposalState proposalId .declined
    changeCase proposalId.caseId (closing .resolvedNoAction "CUSTOMER_DECLINED_PROPOSAL")
    updateRun runId .succeeded
    return none

/-- `decline_proposal`. -/
def declineProposal (conversationId : String) (proposalId : ProposalId) (version : Nat) :
    Service OperationResult := do
  let runId ← createActionRun conversationId proposalId
  let refused ← transaction (.reviewDecline proposalId version)
    (reviewDecline runId proposalId version)
  match refused with
  | some code =>
    if code = "PROPOSAL_EXPIRED" then emitCase "proposal_expired" runId proposalId.caseId
    refuseRun runId proposalId.caseId "PROPOSAL_DECLINE_REJECTED" code
  | none =>
    emitCase "proposal_declined" runId proposalId.caseId (some .answer)
    emitCustomerReplyAndRunSuccess runId (some proposalId.caseId) .answer
    emitCase "case_closed" runId proposalId.caseId (some .answer)
    return ⟨runId, some proposalId.caseId, some .answer⟩

end Service

end AfterSales
