import AfterSales.Application.Actions
import AfterSales.Investigation.Entry

/-! The operations on a conversation, and the system they run in.

    A message opens a case or answers the question of the open one; a retry goes on with a case that
    waits; a confirmation or a decline answers a proposal. The operations of one conversation run
    one after another, those of different conversations interleave at every await. Between two steps
    the clock may advance and the policy index may answer differently; nothing else moves by
    itself. -/

namespace AfterSales
open Interleave Repository

/-- What the providers answer: the classifier, and the selector of each pass and superstep. -/
structure Providers where
  triage : Option TriageResult
  selector : Nat → Nat → ObservationSelector

variable [PolicyDigest] [ProofDigest] [ResultDigest] [IdText] [TraceVolume] [FactDigest]
  [CaseFolding] [EvidenceDigest] [MessageRedaction]

namespace Service

/-! ### Asking for the package -/

/-- The transaction of `_request_target_shipment_clarification`: a third question closes. -/
def askForPackage (caseId runId : RowId) : Tx CustomerDisposition := do
  let f ← requireCase caseId
  if f.row.businessClarificationCount ≥ 2 then
    changeCase caseId (closing .humanSupportRequired "BUSINESS_CLARIFICATION_LIMIT_REACHED")
    updateRun runId .succeeded
    return .escalate
  else
    changeCase caseId
      { caseState := some .awaitingCustomerInput
        businessClarificationCount := some (f.row.businessClarificationCount + 1) }
    updateRun runId .succeeded
    return .clarify

/-- `_request_target_shipment_clarification`. -/
def requestTargetShipmentClarification (caseId runId : RowId) : Service OperationResult := do
  let disposition ← transaction .finish (askForPackage caseId runId)
  emitCase "business_clarification_requested" runId caseId (some disposition)
  emitRunSucceeded runId (some caseId)
  if disposition = .escalate then emitCase "case_closed" runId caseId
  return ⟨runId, some caseId, some disposition⟩

/-- `_is_target_shipment_clarification_case`. -/
def isTargetClarificationCase (s : SharedState) (row : CaseRow) : Bool :=
  row.canonicalIssueType = .stalledTracking && row.targetShipmentId.isNone &&
    decide (1 < (s.fixtures.shipments row.authorizedOrderId).length) &&
    decide (0 < row.businessClarificationCount)

/-- The package that a reply names; a case that it scopes is investigated. -/
def selectPackage (caseId : RowId) (customerMessage : String) : Tx (Option Nat) := do
  let f ← requireCase caseId
  let s ← shared
  match selectTargetShipment s.fixtures f.row.authorizedOrderId f.row.canonicalIssueType
      customerMessage with
  | none => return none
  | some shipmentId =>
    changeCase caseId
      { caseState := some .investigating
        targetShipmentId := some shipmentId }
    return some f.row.businessClarificationCount

/-- `_continue_target_shipment_clarification`. -/
def continueTargetClarification (settings : Settings) (caseId runId : RowId)
    (customerMessage : String) (providers : Providers) : Service OperationResult := do
  let current ← transaction .progress (requireCase caseId)
  if current.row.businessClarificationCount ≥ 2 then requestTargetShipmentClarification caseId runId
  else
    let selected ← transaction (.read caseId) (selectPackage caseId customerMessage)
    match selected with
    | none => requestTargetShipmentClarification caseId runId
    | some asked =>
      emitCase "target_shipment_selected" runId caseId
      let output ← investigateOrFail settings caseId runId 0 (providers.selector 0)
        { investigationPass := asked }
        "TARGET_CLARIFICATION_INVESTIGATION_FAILURE"
        (do let _ ← transaction (.load caseId) (CaseFactService.loadSnapshot caseId))
      applyFirstResult settings caseId runId (providers.selector 1) output
      return ⟨runId, some caseId, none⟩

/-! ### Answering a question -/

/-- The transaction that closes a case whose questions are used up. -/
def closeAtLimit (caseId runId : RowId) : Tx Unit := do
  changeCase caseId (closing .humanSupportRequired "BUSINESS_CLARIFICATION_LIMIT_REACHED")
  updateRun runId .succeeded

/-- What a reply is read as: the candidates for the outstanding question are accepted or rejected.
    `none` is the `StopIteration` without an outstanding question. -/
def acceptReply (caseId messageId : RowId) (customerMessage : String) :
    Tx (Option CaseFactSnapshot) := do
  let before ← CaseFactService.loadSnapshot caseId
  match CaseFactService.outstandingCode before with
  | none => return none
  | some code =>
    let f ← requireCase caseId
    let candidates := CaseFactService.extractCandidates f before code customerMessage
    let accepted ← CaseFactService.acceptMessage caseId messageId (.ofCandidates candidates)
    return some accepted.1

/-- The reply, or the error it is refused with; a rejected reply leaves the snapshot refreshed. -/
def mergeReply (caseId messageId : RowId) (customerMessage : String) :
    Service (Option CaseFactSnapshot) :=
  Op.tryCatch
    (transaction (.read caseId) (acceptReply caseId messageId customerMessage))
    fun
      | .caseFact (.rejected _) => pure none
      | e => Op.throw e

/-- A reply that breaks the history fails its run. -/
def failIntegrity {α : Type} (caseId runId : RowId) : Service α := do
  emit ⟨"case_fact_merge_decided", .developer, some caseId, some runId, none, none, false⟩
  failRun runId (some caseId) "CASE_FACT_INTEGRITY_FAILED" "run_failed"
  refuse "CASE_FACT_INTEGRITY_FAILED" 409

/-- The snapshot that a reply to a fact question leads to. -/
def snapshotOfReply (caseId runId messageId : RowId) (customerMessage : String) :
    Service CaseFactSnapshot := do
  let merged ← Op.tryCatch (mergeReply caseId messageId customerMessage) fun
    | .caseFact (.integrity _) => failIntegrity caseId runId
    | e => Op.throw e
  match merged with
  | some snapshot => return snapshot
  | none => transaction .progress (CaseFactService.refreshSnapshot caseId)

/-- The part of `_continue_business_clarification` for a fact question. -/
def continueFactClarification (settings : Settings) (caseId runId messageId : RowId)
    (asked : Nat) (customerMessage : String) (providers : Providers) : Service OperationResult := do
  let snapshot ← snapshotOfReply caseId runId messageId customerMessage
  emit ⟨"case_fact_merge_decided", .developer, some caseId, some runId, none, none, false⟩
  let output ← investigateOrFail settings caseId runId 0 (providers.selector 0)
    { investigationPass := asked
      flags := snapshot.toCaseFactProjection.customerFlags customerMessage }
    "BUSINESS_CLARIFICATION_INVESTIGATION_FAILURE" (pure ())
  applyFirstResult settings caseId runId (providers.selector 1) output
  return ⟨runId, some caseId, none⟩

/-- `_continue_business_clarification`. -/
def continueBusinessClarification (settings : Settings) (caseId runId messageId : RowId)
    (customerMessage : String) (providers : Providers) : Service OperationResult := do
  let current ← transaction .progress do
    let f ← requireCase caseId
    let s ← shared
    return (f.row, isTargetClarificationCase s f.row)
  if current.2 then
    continueTargetClarification settings caseId runId customerMessage providers
  else if current.1.businessClarificationCount ≥ 2 then
    transaction .finish (closeAtLimit caseId runId)
    emitCustomerReplyAndRunSuccess runId (some caseId) .escalate
    emitCase "case_closed" runId caseId
    return ⟨runId, some caseId, none⟩
  else
    continueFactClarification settings caseId runId messageId
      current.1.businessClarificationCount customerMessage providers

/-! ### A new case -/

/-- The row of a new case. -/
def newCaseRow (customerId orderId : String) (issueType : IssueType) (target : Option String) :
    CaseRow where
  customerId := customerId
  authorizedOrderId := orderId
  targetShipmentId := target
  canonicalIssueType := issueType
  caseState := .investigating
  caseOutcome := none
  reasonCode := none
  businessClarificationCount := 0
  agentPlanningTurnCount := 0
  actualReadToolExecutionCount := 0
  activeProposalId := none
  revision := 1

/-- The run and the message that a case is opened for are bound to it. -/
def bindCase (caseId runId messageId : RowId) : Tx Unit := do
  let l ← conversation
  let run ← require "Run" (l.runs runId)
  setConversation { l.setRun runId { run with caseId := some caseId } with
    messages := l.messages.map fun m =>
      if m.messageId = messageId then { m with caseId := some caseId } else m }

/-- The transaction that opens a case, and binds run and message to it. -/
def openCase (conversationId : String) (runId messageId : RowId) (customerId orderId : String)
    (issueType : IssueType) (customerMessage : String) : Tx (RowId × Bool) := do
  let s ← shared
  let serial ← newSerial
  let caseId : RowId := ⟨conversationId, serial⟩
  let target := selectTargetShipment s.fixtures orderId issueType customerMessage
  createCase caseId (newCaseRow customerId orderId issueType target)
  bindCase caseId runId messageId
  let unclear := target.isNone &&
    needsPartialShipmentClarification s.fixtures orderId issueType customerMessage
  return (caseId, unclear)

/-- `_create_and_investigate_case`. -/
def createAndInvestigateCase (settings : Settings) (conversationId : String)
    (runId messageId : RowId) (customerId orderId : String) (issueType : IssueType)
    (customerMessage : String) (providers : Providers) : Service OperationResult := do
  let opened ← transaction .openCase
    (openCase conversationId runId messageId customerId orderId issueType customerMessage)
  let caseId := opened.1
  let _ ← transaction .progress (CaseFactService.refreshSnapshot caseId)
  emitCase "case_created" runId caseId
  emitCustomerReply runId (some caseId)
  if opened.2 then requestTargetShipmentClarification caseId runId
  else
    let output ← investigateOrFail settings caseId runId 0 (providers.selector 0)
      { flags := { deliveryLocationConflict := deliveryLocationConflict customerMessage } }
      "INVESTIGATION_RUNTIME_FAILURE" (pure ())
    applyFirstResult settings caseId runId (providers.selector 1) output
    return ⟨runId, some caseId, none⟩

/-! ### A message -/

/-- What the first transaction of a message finds and writes. -/
structure ReceivedMessage where
  runId : RowId
  messageId : RowId
  customerId : String
  activeCase : Option RowId

/-- The first transaction of a message: it is stored, and its run is queued. -/
def receiveMessage (conversationId : String) (message : ValidatedCustomerMessage) :
    Tx ReceivedMessage := do
  let l ← conversation
  let customerId ← found "CONVERSATION_NOT_FOUND" l.customerId
  let active := l.activeCase
  if ∃ open' ∈ active, open'.2.row.caseState ≠ .awaitingCustomerInput then
    throw (.application "ACTIVE_CASE_REQUIRES_RESOLUTION" 409)
  else
    let s ← shared
    let runId : RowId := ⟨conversationId, ← newSerial⟩
    let messageId : RowId := ⟨conversationId, ← newSerial⟩
    addMessage ⟨messageId, active.map (·.1), message.traceContent, s.now⟩
    createRun runId (active.map (·.1))
    return ⟨runId, messageId, customerId, active.map (·.1)⟩

/-- The transaction that records the policy decision of a message. -/
def decidePolicy (customerId : String) (triage : TriageResult) : Tx PolicyDecision := do
  let s ← shared
  let l ← conversation
  let decision := enforceEntryClarificationLimit l.policyRoutes
    (routeTriage customerId triage s.fixtures)
  setConversation { l with policyRoutes := l.policyRoutes ++ [decision.route] }
  return decision

/-- `_emit_triage_and_policy`. -/
def emitTriageAndPolicy (runId : RowId) (decision : PolicyDecision) : Service Unit := do
  emit ⟨"triage_completed", .developer, none, some runId, none, none, false⟩
  decision.blockedFragments.forM fun _ =>
    emit ⟨"request_fragment_blocked", .developer, none, some runId, none, none, false⟩
  emit ⟨"policy_decided", .developer, none, some runId, none, none, false⟩

/-- `_complete_without_case`. -/
def completeWithoutCase (runId : RowId) (reasonCode : String) : Service OperationResult := do
  transaction .finish (updateRun runId .succeeded)
  emitCustomerReplyAndRunSuccess runId none
    (projectCustomerDisposition { reasonCode := some reasonCode })
  return ⟨runId, none, none⟩

/-- The message after its triage. -/
def routeMessage (settings : Settings) (conversationId : String) (received : ReceivedMessage)
    (customerMessage : String) (triage : TriageResult) (providers : Providers) :
    Service OperationResult := do
  let decision ← transaction .record (decidePolicy received.customerId triage)
  emitTriageAndPolicy received.runId decision
  match decision.route, decision.authorizedOrderId, decision.canonicalIssueType with
  | .supportedLogistics, some orderId, some issueType =>
    createAndInvestigateCase settings conversationId received.runId received.messageId
      received.customerId orderId issueType customerMessage providers
  | .supportedLogistics, _, _ =>
    Op.throw (.runtime "supported policy decision lacks canonical scope")
  | _, _, _ => completeWithoutCase received.runId decision.reasonCode

/-- A message without an open case. -/
def triageMessage (settings : Settings) (conversationId : String) (received : ReceivedMessage)
    (customerMessage : String) (providers : Providers) : Service OperationResult := do
  emit ⟨"triage_started", .developer, none, some received.runId, none, none, false⟩
  match providers.triage with
  | none =>
    failRun received.runId none "TRIAGE_PROVIDER_FAILURE" "triage_failed"
    refuse "TRIAGE_PROVIDER_FAILURE" 503
  | some triage =>
    routeMessage settings conversationId received customerMessage triage providers

/-- A message that is refused before anything is stored. -/
def rejectMessage : Service OperationResult := do
  let known ← transaction .progress do
    let l ← conversation
    return l.customerId.isSome
  if known then emit ⟨"message_rejected", .both, none, none, none, none, false⟩
  refuse "INVALID_CUSTOMER_MESSAGE" 400

/-- `submit_message`. -/
def submitMessage (settings : Settings) (conversationId content : String) (providers : Providers) :
    Service OperationResult :=
  match validateCustomerMessage content with
  | none => rejectMessage
  | some validated => do
    let received ← transaction .receive (receiveMessage conversationId validated)
    emit ⟨"message_received", .both, received.activeCase, some received.runId, none, none, false⟩
    startRun received.runId received.activeCase
    match received.activeCase with
    | some caseId =>
      continueBusinessClarification settings caseId received.runId received.messageId
        validated.content providers
    | none => triageMessage settings conversationId received validated.content providers

/-! ### A retry -/

/-- What a retry goes on with. -/
inductive RetryPlan where
  | action (runId : RowId) (action : TicketAction)
  | investigation (runId : RowId)

/-- The run of a retry. -/
def RetryPlan.run : RetryPlan → RowId
  | .action runId _ => runId
  | .investigation runId => runId

/-- The transaction of a retry: an action that failed and may be repeated goes first. -/
def planRetry (conversationId : String) (caseId : RowId) : Tx RetryPlan := do
  let l ← conversation
  let f ← found "INVESTIGATION_CASE_NOT_FOUND" (l.folders caseId)
  if f.row.caseState ≠ .awaitingRetry then throw (.application "CASE_NOT_RETRYABLE" 409)
  else if f.actions.any fun a => a.actionState = .submitted || a.actionState = .uncertain then
    throw (.application "ACTION_RETRY_UNSAFE" 409)
  else
    let failed := f.actions.filter (·.actionState = .failedRetryable)
    if 1 < failed.length then throw (.application "ACTION_RETRY_CONFLICT" 409)
    else
      let runId : RowId := ⟨conversationId, ← newSerial⟩
      createRun runId (some caseId)
      match failed with
      | action :: _ =>
        changeCase caseId { caseState := some .executingAction }
        return .action runId (.ofCase action caseId f.row)
      | [] =>
        changeCase caseId { caseState := some .investigating }
        return .investigation runId

/-- `retry_case`. -/
def retryCase (settings : Settings) (conversationId : String) (caseId : RowId)
    (providers : Providers) : Service OperationResult := do
  let plan ← transaction (.retry caseId) (planRetry conversationId caseId)
  match plan with
  | .action runId action =>
    startRun runId (some caseId)
    submitAndVerify settings action runId
  | .investigation runId =>
    startRun runId (some caseId)
    let output ← investigateOrFail settings caseId runId 0 (providers.selector 0) {}
      "INVESTIGATION_RUNTIME_FAILURE"
      (do let _ ← transaction (.load caseId) (CaseFactService.loadSnapshot caseId))
    applyFirstResult settings caseId runId (providers.selector 1) output
    return ⟨runId, some caseId, none⟩

end Service

/-! ### The system -/

/-- What the clients of a conversation may ask for. -/
inductive Request where
  | submitMessage (content : String) (providers : Providers)
  | retryCase (caseId : RowId) (providers : Providers)
  | confirmProposal (proposalId : ProposalId) (version : Nat)
  | declineProposal (proposalId : ProposalId) (version : Nat)

abbrev Response : Type := Except ServiceError OperationResult

/-- The program of a request. -/
def Request.program (settings : Settings) (conversationId : String) :
    Request → Prog ServiceState Label Response
  | .submitMessage content providers =>
    Service.submitMessage settings conversationId content providers
  | .retryCase caseId providers => Service.retryCase settings conversationId caseId providers
  | .confirmProposal proposalId version =>
    Service.confirmProposal settings conversationId proposalId version
  | .declineProposal proposalId version => Service.declineProposal conversationId proposalId version

omit [ProofDigest] [ResultDigest] [IdText] [TraceVolume] [FactDigest] [CaseFolding]
  [EvidenceDigest] [MessageRedaction] in
/-- Between two steps time passes, and the policy index may rank differently. -/
structure SharedState.Drifts (s s' : SharedState) : Prop where
  fixtures : s'.fixtures = s.fixtures
  tickets : s'.tickets = s.tickets
  corpus : s'.policyRag.corpus = s.policyRag.corpus
  policyRevision : s'.policyRag.sourceRevision = s.policyRag.sourceRevision
  clock : s.now ≤ s'.now

/-- The conversations of the service, and the calls in progress. -/
abbrev ServiceConfig : Type :=
  Config String ConversationStore SharedState Label Request Response

omit [ProofDigest] [ResultDigest] [TraceVolume] [FactDigest] [CaseFolding] [EvidenceDigest]
  [MessageRedaction] in
/-- A service before the first message of any conversation. -/
structure ServiceConfig.Fresh (g : ServiceConfig) : Prop where
  stores : ∀ k, ∃ customerId, g.stores k = .created customerId
  calls : ∀ k, g.calls k = none
  tickets : g.shared.tickets = []
  dynamicTickets : g.shared.fixtures.dynamicTickets = []
  ticketIds : ∀ t ∈ g.shared.fixtures.baseTickets, ∀ id, t.ticketId ≠ IdText.ticket id

/-- The configurations that the operations of a fresh service lead to, when every step meets a
    condition. -/
def ServiceReaches (settings : Settings) (assumes : String → Label → ServiceState → Prop)
    (g : ServiceConfig) : Prop :=
  ∃ g₀ : ServiceConfig, ServiceConfig.Fresh g₀ ∧
    Interleave.Reaches (Request.program settings) SharedState.Drifts assumes g₀ g

end AfterSales
