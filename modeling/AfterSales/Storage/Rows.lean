import AfterSales.Actions.Proposals
import AfterSales.Domain.Dispositions
import AfterSales.Events.Store
import AfterSales.Investigation.Service

/-! The rows the service stores, and the state it works on.

    Rows that belong to a case are kept with it, in a folder; runs and messages belong to the
    conversation. Only customer messages are kept, since no operation reads the others. Each
    conversation has its own rows, which only the holder of its lock changes. Tickets are the one
    table that conversations share, together with the sources and the clock. -/

namespace AfterSales

variable [PolicyDigest]

/-- The rows of `messages` with the role `customer`. -/
structure MessageRow where
  messageId : RowId
  caseId : Option RowId
  content : String
  createdAt : Instant
  deriving DecidableEq

/-- The rows of `runs`, with the result that the last gate event of the run recorded. -/
structure RunRow where
  caseId : Option RowId
  runState : RunState
  planningTurnCount : Nat
  actualReadToolExecutionCount : Nat
  failureCode : Option String
  gateResult : Option EvidenceGateResult

/-- An event of a conversation: its scope, who sees it, and what its payload carries. -/
structure ServiceEvent where
  eventType : String
  visibility : EventVisibility
  caseId : Option RowId
  runId : Option RowId
  customerDisposition : Option CustomerDisposition := none
  decision : Option EvidenceGateDecision := none
  retryAllowed : Bool := false
  deriving DecidableEq, Repr

/-- The rows of `investigation_cases`. -/
structure CaseRow where
  customerId : String
  authorizedOrderId : String
  targetShipmentId : Option String
  canonicalIssueType : IssueType
  caseState : CaseState
  caseOutcome : Option CaseOutcome
  reasonCode : Option String
  businessClarificationCount : Nat
  agentPlanningTurnCount : Nat
  actualReadToolExecutionCount : Nat
  activeProposalId : Option ProposalId
  revision : Nat
  deriving DecidableEq

/-- The rows of `tool_calls`; a stored call is complete. -/
structure ToolCallRow where
  runId : RowId
  call : CallRecord

/-- `FactMergeDecision`. -/
structure FactMergeDecision where
  accepted : Bool
  reasonCode : String
  assertionId : Option String
  candidateBatchHash : String
  deriving DecidableEq, Repr

inductive ConsumptionOutcome where | accepted | empty | rejected
  deriving DecidableEq, Repr

/-- The outcome under which a decision is stored. -/
def FactMergeDecision.outcome (decision : FactMergeDecision) : ConsumptionOutcome :=
  if decision.accepted then .accepted
  else if decision.reasonCode = "NO_CANDIDATES" then .empty
  else .rejected

/-- The rows of `case_fact_message_consumptions`. -/
structure ConsumptionRow where
  questionId : QuestionId
  sourceMessageId : RowId
  sourceMessageHash : String
  candidateBatchHash : String
  outcome : ConsumptionOutcome
  reasonCode : String
  assertionId : Option String
  decision : FactMergeDecision
  deriving DecidableEq, Repr

/-- The rows of `tickets`. -/
structure TicketRow where
  ticketId : TicketId
  caseId : RowId
  actionId : ActionId
  customerId : String
  authorizedOrderId : String
  targetShipmentId : Option String
  issueType : IssueType
  active : Bool
  idempotencyKey : IdempotencyKey
  createdAt : Instant
  updatedAt : Instant
  deriving DecidableEq

/-- A case with the rows that belong to it, each table in the order its rows are listed in. -/
structure CaseFolder where
  row : CaseRow
  toolCalls : List ToolCallRow
  assertions : List CaseFactAssertion
  questions : List FactQuestion
  consumptions : List ConsumptionRow
  snapshot : Option CaseFactSnapshot
  proposals : List ProposalRow
  actions : List ActionRow

inductive PolicyRoute where
  | supportedLogistics | standardReply | ambiguous | outOfScope | prohibited | unauthorized
  deriving DecidableEq, Repr

/-- The rows of one conversation, and the tool caches of its cases that the process holds. Events
    are listed in the order of their sequence numbers, which start at one. -/
structure ConversationStore where
  customerId : Option String
  activeCaseId : Option RowId
  messages : List MessageRow
  policyRoutes : List PolicyRoute
  events : List ServiceEvent
  runs : RowId → Option RunRow
  folders : RowId → Option CaseFolder
  caseCaches : RowId → Option CaseToolCache
  nextSerial : Nat

/-- What all conversations share. -/
structure SharedState where
  fixtures : FixtureStore
  policyRag : PolicyRagService
  tickets : List TicketRow
  now : Instant

/-- The errors of the storage layer; `integrity` is a violated constraint of the database. -/
inductive StorageError where
  | lookup (entity : String)
  | concurrentMutation
  | invalidStateTransition
  | idempotencyConflict
  | integrity
  | value
  deriving DecidableEq, Repr

/-- What an operation may raise. -/
inductive ServiceError where
  | application (code : String) (statusCode : Nat)
  | caseFact (e : CaseFactError)
  | storage (e : StorageError)
  | runtime (message : String)
  deriving DecidableEq, Repr

/-- Errors that the service raises on purpose. -/
def ServiceError.isApplication : ServiceError → Bool
  | .application _ _ => true
  | _ => false

abbrev ServiceState := ConversationStore × SharedState

/-- A conversation before its first message. -/
def ConversationStore.created (customerId : Option String) : ConversationStore where
  customerId := customerId
  activeCaseId := none
  messages := []
  policyRoutes := []
  events := []
  runs := fun _ => none
  folders := fun _ => none
  caseCaches := fun _ => none
  nextSerial := 0

end AfterSales
