import AfterSales.Investigation.Selection
import AfterSales.Lib.Json
import AfterSales.Storage.Rows

/-! The typed trace of an evaluated run, and the record it is kept in.

    Every record is frozen and checked when it is built, and checked again when it is read from its
    file. A schema says both what a record is written as and what the check asks of it. A copy with
    some fields replaced is not checked. -/

namespace AfterSales.V3

/-- `^[0-9a-f]{64}$`. -/
def isSha256 (s : String) : Bool :=
  s.length = 64 && s.toList.all fun c => c.isDigit || ('a' ≤ c && c ≤ 'f')

/-- Texts of times and values, and digests of texts and of JSON values. -/
class EvalText where
  isoformat : Instant → String
  fromIsoformat : String → Option Instant
  fromIsoformat_isoformat : ∀ t, fromIsoformat (isoformat t) = some t
  str : Json → String
  str_str : ∀ s, str (.str s) = s
  sha256 : String → String
  sha256Json : Json → String
  sha256Json_isSha256 : ∀ j, isSha256 (sha256Json j) = true

/-! ### Kinds of fields -/

/-- `min_length=1`. -/
def filled : Schema String := Schema.string.check fun s => 0 < s.length

/-- `min_length=1` and a `max_length`. -/
def named (longest : Nat) : Schema String :=
  Schema.string.check fun s => 0 < s.length && s.length ≤ longest

/-- `max_length`. -/
def shorter (longest : Nat) : Schema String := Schema.string.check fun s => s.length ≤ longest

def hash : Schema String := Schema.string.check isSha256

theorem hash_ne_null (s : String) : hash.dump s ≠ .null := nofun

/-- `ge` and `le`. -/
def within (least greatest : Nat) : Schema Nat :=
  Schema.nat.check fun n => least ≤ n && n ≤ greatest

/-- `ge`. -/
def atLeast (least : Nat) : Schema Nat := Schema.nat.check fun n => least ≤ n

def instant [EvalText] : Schema Instant :=
  .text EvalText.isoformat EvalText.fromIsoformat EvalText.fromIsoformat_isoformat

/-! ### Enumerations -/

inductive SelectorKind where | agent | workflow
  deriving DecidableEq, Repr

inductive CandidateValidationStatus where | accepted | rejected
  deriving DecidableEq, Repr

inductive TracePhase where
  | select | validate | execute | reduce | route | finalize | safeStop | terminal
  deriving DecidableEq, Repr

def selectorKind : Schema SelectorKind :=
  .enum (fun | .agent => "agent" | .workflow => "workflow") [.agent, .workflow]
    (by intro a; cases a <;> rfl)

def observationAction : Schema ObservationAction :=
  .enum (fun | .callTool => "call_tool" | .finish => "finish") [.callTool, .finish]
    (by intro a; cases a <;> rfl)

def requirementCode : Schema EvidenceRequirementCode :=
  .enum
    (fun
      | .orderStatus => "ORDER_STATUS"
      | .trackingTimeline => "TRACKING_TIMELINE"
      | .deliveryProof => "DELIVERY_PROOF"
      | .policyApplicability => "POLICY_APPLICABILITY"
      | .activeTicketStatus => "ACTIVE_TICKET_STATUS"
      | .carrierAlertContext => "CARRIER_ALERT_CONTEXT")
    [.orderStatus, .trackingTimeline, .deliveryProof, .policyApplicability, .activeTicketStatus,
      .carrierAlertContext]
    (by intro a; cases a <;> rfl)

def validationStatus : Schema CandidateValidationStatus :=
  .enum (fun | .accepted => "accepted" | .rejected => "rejected") [.accepted, .rejected]
    (by intro a; cases a <;> rfl)

def recoveryRoute : Schema RecoveryRoute :=
  .enum
    (fun
      | .replan => "replan"
      | .retryExact => "retry_exact"
      | .finalize => "finalize"
      | .safeStop => "safe_stop")
    [.replan, .retryExact, .finalize, .safeStop] (by intro a; cases a <;> rfl)

def recoveryReasonCode : Schema RecoveryReasonCode :=
  .enum RecoveryReasonCode.value
    [.replanRequired, .retryableToolFailure, .gateReady, .budgetExhausted, .integrityConflict,
      .sourceRevisionChangedDuringRetry, .stuckRepeatedDecision, .stuckNoEvidenceProgress,
      .prematureFinish, .invalidObservation]
    (by intro a; cases a <;> rfl)

def tracePhase : Schema TracePhase :=
  .enum
    (fun
      | .select => "select"
      | .validate => "validate"
      | .execute => "execute"
      | .reduce => "reduce"
      | .route => "route"
      | .finalize => "finalize"
      | .safeStop => "safe_stop"
      | .terminal => "terminal")
    [.select, .validate, .execute, .reduce, .route, .finalize, .safeStop, .terminal]
    (by intro a; cases a <;> rfl)

def executionStatus : Schema ExecutionStatus :=
  .enum
    (fun
      | .success => "success"
      | .retryableError => "retryable_error"
      | .nonRetryableError => "non_retryable_error")
    [.success, .retryableError, .nonRetryableError] (by intro a; cases a <;> rfl)

def evidenceAvailability : Schema EvidenceAvailability :=
  .enum (fun | .present => "present" | .absent => "absent" | .unavailable => "unavailable")
    [.present, .absent, .unavailable] (by intro a; cases a <;> rfl)

/-! ### Trace events -/

def sharedRuntimeVersion : String := "v3a.adaptive-runtime.v1"

def sharedComponentVersions : List (String × String) :=
  [("requirement_registry", "v3a.requirements.v1"), ("validator", "v3a.validator.v1"),
    ("reducer", "v3a.evidence_progress.v1"), ("router", "v3a.recovery_decision.v1"),
    ("retry", "v3a.retry_directive.v1"), ("trace", "v3a.trace.v1"),
    ("tool_registry", "v2.read-tools.v1"), ("evidence_gate", "project-evidence-gate.v2")]

variable [EvalText]

structure BudgetSnapshot where
  casePlanningTurns : Nat
  runPlanningTurns : Nat
  actualReadToolExecutions : Nat

def BudgetSnapshot.schema : Schema BudgetSnapshot :=
  Fields.make BudgetSnapshot.mk
    |>.field "case_planning_turns" (within 0 16) (·.casePlanningTurns)
    |>.field "run_planning_turns" (within 0 8) (·.runPlanningTurns)
    |>.field "actual_read_tool_executions" (within 0 6) (·.actualReadToolExecutions)
    |>.object

/-- What a selector proposed, and what the validator made of it. -/
structure DecisionTraceRecord where
  traceSequence : Nat
  caseId : String
  runId : String
  decisionId : String
  selectorKind : SelectorKind
  planningTurn : Nat
  action : ObservationAction
  toolName : Option String
  canonicalArgumentsHash : String
  addresses : List EvidenceRequirementCode
  reasonCode : String
  validationStatus : CandidateValidationStatus
  rejectionCode : Option String
  evidenceProgressRevision : Nat
  evidenceProgressHash : String
  budgetSnapshot : BudgetSnapshot
  modelId : Option String
  promptPolicyVersion : Option String
  runtimeVersion : String
  componentVersions : List (String × String)
  recordedAt : Instant

def DecisionTraceRecord.schema : Schema DecisionTraceRecord :=
  Fields.make DecisionTraceRecord.mk
    |>.literal "schema_version" "v3a.trace.v1"
    |>.field "trace_sequence" (atLeast 1) (·.traceSequence)
    |>.field "case_id" (named 64) (·.caseId)
    |>.field "run_id" (named 64) (·.runId)
    |>.field "decision_id" (named 128) (·.decisionId)
    |>.field "selector_kind" V3.selectorKind (·.selectorKind)
    |>.field "planning_turn" (within 1 16) (·.planningTurn)
    |>.field "action" observationAction (·.action)
    |>.fieldOr "tool_name" (.optional .string) none (·.toolName)
    |>.field "canonical_arguments_hash" hash (·.canonicalArgumentsHash)
    |>.fieldOr "addresses" (.list requirementCode) [] (·.addresses)
    |>.field "reason_code" (named 96) (·.reasonCode)
    |>.field "validation_status" V3.validationStatus (·.validationStatus)
    |>.fieldOr "rejection_code" (.optional .string) none (·.rejectionCode)
    |>.field "evidence_progress_revision" .nat (·.evidenceProgressRevision)
    |>.field "evidence_progress_hash" hash (·.evidenceProgressHash)
    |>.field "budget_snapshot" BudgetSnapshot.schema (·.budgetSnapshot)
    |>.fieldOr "model_id" (.optional (shorter 128)) none (·.modelId)
    |>.fieldOr "prompt_policy_version" (.optional (shorter 128)) none (·.promptPolicyVersion)
    |>.fieldOr "runtime_version" .string sharedRuntimeVersion (·.runtimeVersion)
    |>.fieldOr "component_versions" (.dict .string) sharedComponentVersions (·.componentVersions)
    |>.field "recorded_at" instant (·.recordedAt)
    |>.object

/-- The route taken after a result. -/
structure RecoveryTraceRecord where
  traceSequence : Nat
  caseId : String
  runId : String
  recoveryId : String
  triggerToolCallId : Option String
  triggerResultHash : Option String
  executionStatus : String
  evidenceAvailability : String
  retryable : Bool
  errorCode : Option String
  evidenceProgressBeforeHash : String
  evidenceProgressAfterHash : String
  route : RecoveryRoute
  reasonCode : RecoveryReasonCode
  retryIdentityHash : Option String
  attemptNumber : Option Nat
  budgetSnapshot : BudgetSnapshot
  runtimeVersion : String
  componentVersions : List (String × String)
  recordedAt : Instant

def RecoveryTraceRecord.schema : Schema RecoveryTraceRecord :=
  Fields.make RecoveryTraceRecord.mk
    |>.literal "schema_version" "v3a.trace.v1"
    |>.field "trace_sequence" (atLeast 1) (·.traceSequence)
    |>.field "case_id" (named 64) (·.caseId)
    |>.field "run_id" (named 64) (·.runId)
    |>.field "recovery_id" (named 128) (·.recoveryId)
    |>.fieldOr "trigger_tool_call_id" (.optional .string) none (·.triggerToolCallId)
    |>.fieldOr "trigger_result_hash" (.optional hash) none (·.triggerResultHash)
    |>.field "execution_status" (named 32) (·.executionStatus)
    |>.field "evidence_availability" (named 24) (·.evidenceAvailability)
    |>.field "retryable" .bool (·.retryable)
    |>.fieldOr "error_code" (.optional (shorter 96)) none (·.errorCode)
    |>.field "evidence_progress_before_hash" hash (·.evidenceProgressBeforeHash)
    |>.field "evidence_progress_after_hash" hash (·.evidenceProgressAfterHash)
    |>.field "route" recoveryRoute (·.route)
    |>.field "reason_code" recoveryReasonCode (·.reasonCode)
    |>.fieldOr "retry_identity_hash" (.optional hash) none (·.retryIdentityHash)
    |>.fieldOr "attempt_number" (.optional (within 1 2)) none (·.attemptNumber)
    |>.field "budget_snapshot" BudgetSnapshot.schema (·.budgetSnapshot)
    |>.fieldOr "runtime_version" .string sharedRuntimeVersion (·.runtimeVersion)
    |>.fieldOr "component_versions" (.dict .string) sharedComponentVersions (·.componentVersions)
    |>.field "recorded_at" instant (·.recordedAt)
    |>.object

/-- A phase of the loop left for another. -/
structure StateTraceRecord where
  traceSequence : Nat
  caseId : String
  runId : String
  phaseFrom : TracePhase
  phaseTo : TracePhase
  reasonCode : String
  caseRevision : Nat
  runRevision : Nat
  evidenceProgressHash : String
  pendingRetryIdentity : Option String
  runtimeVersion : String
  componentVersions : List (String × String)
  persistedAt : Instant

def StateTraceRecord.schema : Schema StateTraceRecord :=
  Fields.make StateTraceRecord.mk
    |>.literal "schema_version" "v3a.trace.v1"
    |>.field "trace_sequence" (atLeast 1) (·.traceSequence)
    |>.field "case_id" (named 64) (·.caseId)
    |>.field "run_id" (named 64) (·.runId)
    |>.field "phase_from" tracePhase (·.phaseFrom)
    |>.field "phase_to" tracePhase (·.phaseTo)
    |>.field "reason_code" (named 96) (·.reasonCode)
    |>.fieldOr "case_revision" .nat 0 (·.caseRevision)
    |>.fieldOr "run_revision" .nat 0 (·.runRevision)
    |>.field "evidence_progress_hash" hash (·.evidenceProgressHash)
    |>.fieldOr "pending_retry_identity" (.optional hash) none (·.pendingRetryIdentity)
    |>.fieldOr "runtime_version" .string sharedRuntimeVersion (·.runtimeVersion)
    |>.fieldOr "component_versions" (.dict .string) sharedComponentVersions (·.componentVersions)
    |>.field "persisted_at" instant (·.persistedAt)
    |>.object

/-! ### Tool calls -/

structure EvidenceRef where
  toolCallId : String
  sourceQueryId : String
  sourceRecordId : Option String
  fieldPath : Option String
  observedAt : Instant
  resultHash : String

def EvidenceRef.schema : Schema EvidenceRef :=
  Fields.make EvidenceRef.mk
    |>.field "tool_call_id" filled (·.toolCallId)
    |>.field "source_query_id" filled (·.sourceQueryId)
    |>.fieldOr "source_record_id" (.optional .string) none (·.sourceRecordId)
    |>.fieldOr "field_path" (.optional .string) none (·.fieldPath)
    |>.field "observed_at" instant (·.observedAt)
    |>.field "result_hash" hash (·.resultHash)
    |>.object

structure V3ToolResultEnvelope where
  executionStatus : ExecutionStatus
  evidenceAvailability : EvidenceAvailability
  sourceType : String
  sourceQueryId : String
  sourceRecordIds : List String
  observedAt : Instant
  payload : Option (List (String × Json))
  errorCode : Option String
  retryable : Bool
  resultHash : String
  untrustedFields : List String

/-- `validate_envelope`: only a completed query has evidence, and a completed one has. -/
def V3ToolResultEnvelope.validate (e : V3ToolResultEnvelope) : Bool :=
  e.executionStatus = .success ↔ e.evidenceAvailability ≠ .unavailable

def V3ToolResultEnvelope.schema : Schema V3ToolResultEnvelope :=
  Fields.make V3ToolResultEnvelope.mk
    |>.field "execution_status" V3.executionStatus (·.executionStatus)
    |>.field "evidence_availability" V3.evidenceAvailability (·.evidenceAvailability)
    |>.field "source_type" filled (·.sourceType)
    |>.field "source_query_id" filled (·.sourceQueryId)
    |>.fieldOr "source_record_ids" (.list .string) [] (·.sourceRecordIds)
    |>.field "observed_at" instant (·.observedAt)
    |>.fieldOr "payload" (.optional .mapping) none (·.payload)
    |>.fieldOr "error_code" (.optional .string) none (·.errorCode)
    |>.field "retryable" .bool (·.retryable)
    |>.field "result_hash" hash (·.resultHash)
    |>.fieldOr "untrusted_fields" (.list .string) [] (·.untrustedFields)
    |>.object
    |>.check V3ToolResultEnvelope.validate

/-- `_TOOL_NAMES`. -/
def toolNames : List String :=
  ["get_order_context", "get_logistics_timeline", "get_delivery_proof",
    "get_carrier_service_alerts", "search_after_sales_policy", "get_existing_logistics_tickets"]

structure V3ToolCall where
  toolCallId : String
  caseId : String
  runId : String
  toolName : String
  normalizedArgs : List (String × Json)
  planningTurn : Nat
  attemptNumber : Nat
  actualExecution : Bool
  cacheHit : Bool
  blocked : Bool
  executionStatus : ExecutionStatus
  evidenceAvailability : EvidenceAvailability
  resultEnvelope : V3ToolResultEnvelope
  resultHash : String
  sourceVersion : String
  retryable : Bool
  traceSequence : Nat
  progressStatus : Option String
  budgetBeforeActualReads : Nat
  budgetAfterActualReads : Nat
  evidenceRefs : List EvidenceRef

/-- `validate_tool`. -/
def V3ToolCall.validate (c : V3ToolCall) : Bool :=
  c.toolName ∈ toolNames && c.resultHash = c.resultEnvelope.resultHash &&
    c.budgetAfterActualReads = c.budgetBeforeActualReads + (if c.actualExecution then 1 else 0) &&
    c.evidenceRefs.all (·.toolCallId = c.toolCallId)

def V3ToolCall.schema : Schema V3ToolCall :=
  Fields.make V3ToolCall.mk
    |>.field "tool_call_id" filled (·.toolCallId)
    |>.field "case_id" filled (·.caseId)
    |>.field "run_id" filled (·.runId)
    |>.field "tool_name" filled (·.toolName)
    |>.field "normalized_args" .mapping (·.normalizedArgs)
    |>.field "planning_turn" (within 1 16) (·.planningTurn)
    |>.field "attempt_number" (within 1 2) (·.attemptNumber)
    |>.field "actual_execution" .bool (·.actualExecution)
    |>.fieldOr "cache_hit" .bool false (·.cacheHit)
    |>.fieldOr "blocked" .bool false (·.blocked)
    |>.field "execution_status" V3.executionStatus (·.executionStatus)
    |>.field "evidence_availability" V3.evidenceAvailability (·.evidenceAvailability)
    |>.field "result_envelope" V3ToolResultEnvelope.schema (·.resultEnvelope)
    |>.field "result_hash" hash (·.resultHash)
    |>.field "source_version" filled (·.sourceVersion)
    |>.field "retryable" .bool (·.retryable)
    |>.field "trace_sequence" (atLeast 1) (·.traceSequence)
    |>.fieldOr "progress_status" (.optional .string) none (·.progressStatus)
    |>.field "budget_before_actual_reads" (within 0 6) (·.budgetBeforeActualReads)
    |>.field "budget_after_actual_reads" (within 0 6) (·.budgetAfterActualReads)
    |>.fieldOr "evidence_refs" (.list EvidenceRef.schema) [] (·.evidenceRefs)
    |>.object
    |>.check V3ToolCall.validate

structure V3ProgressRebuild where
  caseId : String
  runId : String
  progressRevision : Nat
  onlineSnapshotHash : String
  replayedSnapshotHash : String
  toolCallIds : List String
  evidenceRefIds : List String
  progressRequirements : List (String × String)

def V3ProgressRebuild.schema : Schema V3ProgressRebuild :=
  Fields.make V3ProgressRebuild.mk
    |>.field "case_id" filled (·.caseId)
    |>.field "run_id" filled (·.runId)
    |>.field "progress_revision" .nat (·.progressRevision)
    |>.field "online_snapshot_hash" hash (·.onlineSnapshotHash)
    |>.field "replayed_snapshot_hash" hash (·.replayedSnapshotHash)
    |>.fieldOr "tool_call_ids" (.list .string) [] (·.toolCallIds)
    |>.fieldOr "evidence_ref_ids" (.list .string) [] (·.evidenceRefIds)
    |>.fieldOr "progress_requirements" (.dict .string) [] (·.progressRequirements)
    |>.object

inductive V3GateOutcome where
  | proposeTicket | requestBusinessClarification | retryLater | requireHumanSupport
  | completeNoAction | issueRevision | safeStop | unknown
  deriving DecidableEq, Repr

def gateOutcome : Schema V3GateOutcome :=
  .enum
    (fun
      | .proposeTicket => "propose_ticket"
      | .requestBusinessClarification => "request_business_clarification"
      | .retryLater => "retry_later"
      | .requireHumanSupport => "require_human_support"
      | .completeNoAction => "complete_no_action"
      | .issueRevision => "issue_revision"
      | .safeStop => "safe_stop"
      | .unknown => "unknown")
    [.proposeTicket, .requestBusinessClarification, .retryLater, .requireHumanSupport,
      .completeNoAction, .issueRevision, .safeStop, .unknown]
    (by intro a; cases a <;> rfl)

structure V3GateTrace where
  decision : V3GateOutcome
  reasonCode : String
  allowed : Bool
  evidenceProgressHash : String

def V3GateTrace.schema : Schema V3GateTrace :=
  Fields.make V3GateTrace.mk
    |>.field "decision" gateOutcome (·.decision)
    |>.field "reason_code" filled (·.reasonCode)
    |>.field "allowed" .bool (·.allowed)
    |>.field "evidence_progress_hash" hash (·.evidenceProgressHash)
    |>.object

/-- One persisted grader result. -/
structure V3GraderVerdict where
  graderId : String
  passed : Bool
  triggered : Bool
  detail : String
  safetyDetail : Option String
  deriving DecidableEq

def V3GraderVerdict.schema : Schema V3GraderVerdict :=
  Fields.make V3GraderVerdict.mk
    |>.field "grader_id" (named 96) (·.graderId)
    |>.field "passed" .bool (·.passed)
    |>.fieldOr "triggered" .bool true (·.triggered)
    |>.field "detail" (named 1000) (·.detail)
    |>.fieldOr "safety_detail" (.optional (shorter 1000)) none (·.safetyDetail)
    |>.object

/-! ### Case facts -/

def factCodeText : FactCode → String
  | .customerStillReportsMissing => "customer_still_reports_missing"
  | .reportedDeliveryLocationChecked => "reported_delivery_location_checked"

def factCode : Schema FactCode :=
  .enum factCodeText [.customerStillReportsMissing, .reportedDeliveryLocationChecked]
    (by intro a; cases a <;> rfl)

def factValue : Schema FactValue :=
  .enum (fun | .true => "true" | .false => "false" | .unknown => "unknown")
    [.true, .false, .unknown] (by intro a; cases a <;> rfl)

def relationHint : Schema RelationHint :=
  .enum
    (fun
      | .new => "new"
      | .repeated => "repeat"
      | .correction => "correction"
      | .withdrawal => "withdrawal")
    [.new, .repeated, .correction, .withdrawal] (by intro a; cases a <;> rfl)

def factStatus : Schema FactStatus :=
  .enum
    (fun
      | .knownTrue => "known_true"
      | .knownFalse => "known_false"
      | .unknown => "unknown"
      | .conflict => "conflict")
    [.knownTrue, .knownFalse, .unknown, .conflict] (by intro a; cases a <;> rfl)

def questionStatus : Schema QuestionStatus :=
  .enum
    (fun
      | .inapplicable => "inapplicable"
      | .unanswered => "unanswered"
      | .answered => "answered"
      | .unknownExhausted => "unknown_exhausted"
      | .conflictRequiresClarification => "conflict_requires_clarification"
      | .conflictExhausted => "conflict_exhausted")
    [.inapplicable, .unanswered, .answered, .unknownExhausted, .conflictRequiresClarification,
      .conflictExhausted]
    (by intro a; cases a <;> rfl)

inductive ExtractorKind where | modelCandidate | deterministic
  deriving DecidableEq, Repr

def extractorKind : Schema ExtractorKind :=
  .enum (fun | .modelCandidate => "model_candidate" | .deterministic => "deterministic")
    [.modelCandidate, .deterministic] (by intro a; cases a <;> rfl)

structure CaseFactAssertion where
  assertionId : String
  caseId : String
  factCode : FactCode
  value : FactValue
  sourceMessageId : String
  sourceMessageHash : String
  sourceSpanStart : Nat
  sourceSpanEnd : Nat
  relation : RelationHint
  supersedesAssertionId : Option String
  extractorKind : ExtractorKind
  extractorVersion : String
  contextToolCallId : Option String
  contextResultHash : Option String
  assertionSequence : Nat
  recordedAt : Instant

/-- `validate_binding`. -/
def CaseFactAssertion.validate (a : CaseFactAssertion) : Bool :=
  a.sourceSpanStart < a.sourceSpanEnd && a.relation.targeted = a.supersedesAssertionId.isSome &&
    (a.factCode = .reportedDeliveryLocationChecked ↔
      a.contextToolCallId.isSome ∧ a.contextResultHash.isSome) &&
    (a.relation = .withdrawal → a.value = .unknown)

def CaseFactAssertion.schema : Schema CaseFactAssertion :=
  Fields.make CaseFactAssertion.mk
    |>.literal "schema_version" "v3b.case_fact_assertion.v1"
    |>.field "assertion_id" (named 64) (·.assertionId)
    |>.field "case_id" (named 64) (·.caseId)
    |>.field "fact_code" V3.factCode (·.factCode)
    |>.field "value" factValue (·.value)
    |>.field "source_message_id" (named 64) (·.sourceMessageId)
    |>.field "source_message_hash" hash (·.sourceMessageHash)
    |>.field "source_span_start" .nat (·.sourceSpanStart)
    |>.field "source_span_end" (atLeast 1) (·.sourceSpanEnd)
    |>.field "relation" relationHint (·.relation)
    |>.fieldOr "supersedes_assertion_id" (.optional (shorter 64)) none (·.supersedesAssertionId)
    |>.field "extractor_kind" V3.extractorKind (·.extractorKind)
    |>.field "extractor_version" (named 128) (·.extractorVersion)
    |>.fieldOr "context_tool_call_id" (.optional (shorter 64)) none (·.contextToolCallId)
    |>.fieldOr "context_result_hash" (.optional hash) none (·.contextResultHash)
    |>.field "assertion_sequence" (atLeast 1) (·.assertionSequence)
    |>.field "recorded_at" instant (·.recordedAt)
    |>.object
    |>.check CaseFactAssertion.validate

structure FactSnapshotEntry where
  status : FactStatus
  activeAssertionIds : List String
  supersededAssertionIds : List String
  sourceMessageIds : List String
  contextToolCallId : Option String
  contextResultHash : Option String

def FactSnapshotEntry.schema : Schema FactSnapshotEntry :=
  Fields.make FactSnapshotEntry.mk
    |>.field "status" factStatus (·.status)
    |>.fieldOr "active_assertion_ids" (.list .string) [] (·.activeAssertionIds)
    |>.fieldOr "superseded_assertion_ids" (.list .string) [] (·.supersededAssertionIds)
    |>.fieldOr "source_message_ids" (.list .string) [] (·.sourceMessageIds)
    |>.fieldOr "context_tool_call_id" (.optional .string) none (·.contextToolCallId)
    |>.fieldOr "context_result_hash" (.optional hash) none (·.contextResultHash)
    |>.object

structure QuestionState where
  asks : Nat
  status : QuestionStatus

def QuestionState.schema : Schema QuestionState :=
  Fields.make QuestionState.mk
    |>.field "asks" (within 0 2) (·.asks)
    |>.field "status" questionStatus (·.status)
    |>.object

/-- A value for each fact code, and for nothing else. -/
def byFactCode {α : Type} (s : Schema α) : Schema (FactCode → α) :=
  Fields.make
      (fun missing checked code =>
        match code with
        | .customerStillReportsMissing => missing
        | .reportedDeliveryLocationChecked => checked)
    |>.field (factCodeText .customerStillReportsMissing) s (· .customerStillReportsMissing)
    |>.field (factCodeText .reportedDeliveryLocationChecked) s (· .reportedDeliveryLocationChecked)
    |>.object (of_decide_eq_true rfl) fun a => by funext code; cases code <;> rfl

structure CaseFactSnapshot where
  caseId : String
  revision : Nat
  facts : FactCode → FactSnapshotEntry
  questionState : FactCode → QuestionState
  snapshotHash : String
  rebuiltAt : Instant

def CaseFactSnapshot.schema : Schema CaseFactSnapshot :=
  Fields.make CaseFactSnapshot.mk
    |>.literal "schema_version" "v3b.case_fact_snapshot.v1"
    |>.field "case_id" (named 64) (·.caseId)
    |>.field "revision" .nat (·.revision)
    |>.field "facts" (byFactCode FactSnapshotEntry.schema) (·.facts)
    |>.field "question_state" (byFactCode QuestionState.schema) (·.questionState)
    |>.field "snapshot_hash" hash (·.snapshotHash)
    |>.field "rebuilt_at" instant (·.rebuiltAt)
    |>.object

inductive QuestionTraceStatus where | asked | answered | unknown | conflict | replayed
  deriving DecidableEq, Repr

def questionTraceStatus : Schema QuestionTraceStatus :=
  .enum
    (fun
      | .asked => "asked"
      | .answered => "answered"
      | .unknown => "unknown"
      | .conflict => "conflict"
      | .replayed => "replayed")
    [.asked, .answered, .unknown, .conflict, .replayed] (by intro a; cases a <;> rfl)

structure V3QuestionTrace where
  questionId : String
  caseId : String
  factCode : String
  status : QuestionTraceStatus
  sourceMessageId : Option String
  sourceMessageHash : Option String
  reasonCode : Option String
  repeated : Bool

def V3QuestionTrace.schema : Schema V3QuestionTrace :=
  Fields.make V3QuestionTrace.mk
    |>.field "question_id" filled (·.questionId)
    |>.field "case_id" filled (·.caseId)
    |>.field "fact_code" filled (·.factCode)
    |>.field "status" questionTraceStatus (·.status)
    |>.fieldOr "source_message_id" (.optional .string) none (·.sourceMessageId)
    |>.fieldOr "source_message_hash" (.optional hash) none (·.sourceMessageHash)
    |>.fieldOr "reason_code" (.optional (shorter 96)) none (·.reasonCode)
    |>.fieldOr "repeat" .bool false (·.repeated)
    |>.object

def consumptionOutcome : Schema ConsumptionOutcome :=
  .enum (fun | .accepted => "accepted" | .rejected => "rejected" | .empty => "empty")
    [.accepted, .rejected, .empty] (by intro a; cases a <;> rfl)

structure V3ConsumptionTrace where
  questionId : String
  sourceMessageId : String
  sourceMessageHash : String
  outcome : ConsumptionOutcome
  candidateBatchHash : String
  assertionId : Option String
  reasonCode : String
  decisionPayloadHash : String

def V3ConsumptionTrace.schema : Schema V3ConsumptionTrace :=
  Fields.make V3ConsumptionTrace.mk
    |>.field "question_id" filled (·.questionId)
    |>.field "source_message_id" filled (·.sourceMessageId)
    |>.field "source_message_hash" hash (·.sourceMessageHash)
    |>.field "outcome" consumptionOutcome (·.outcome)
    |>.field "candidate_batch_hash" hash (·.candidateBatchHash)
    |>.fieldOr "assertion_id" (.optional .string) none (·.assertionId)
    |>.field "reason_code" (named 96) (·.reasonCode)
    |>.field "decision_payload_hash" hash (·.decisionPayloadHash)
    |>.object

/-! ### The trace of a run -/

/-- What the graders see of a run. -/
structure V3TypedTrace where
  decisions : List DecisionTraceRecord
  recoveries : List RecoveryTraceRecord
  states : List StateTraceRecord
  toolCalls : List V3ToolCall
  progressRebuilds : List V3ProgressRebuild
  gateDecisions : List V3GateTrace
  factAssertions : List CaseFactAssertion
  factSnapshots : List CaseFactSnapshot
  questions : List V3QuestionTrace
  consumptionLedger : List V3ConsumptionTrace
  trajectoryBoundaries : List Nat
  safetyGateInput : Option Bool
  graderVerdicts : List V3GraderVerdict

/-- The trace of a run that left nothing. -/
def V3TypedTrace.empty : V3TypedTrace :=
  ⟨[], [], [], [], [], [], [], [], [], [], [], none, []⟩

def V3TypedTrace.schema : Schema V3TypedTrace :=
  Fields.make V3TypedTrace.mk
    |>.fieldOr "decisions" (.list DecisionTraceRecord.schema) [] (·.decisions)
    |>.fieldOr "recoveries" (.list RecoveryTraceRecord.schema) [] (·.recoveries)
    |>.fieldOr "states" (.list StateTraceRecord.schema) [] (·.states)
    |>.fieldOr "tool_calls" (.list V3ToolCall.schema) [] (·.toolCalls)
    |>.fieldOr "progress_rebuilds" (.list V3ProgressRebuild.schema) [] (·.progressRebuilds)
    |>.fieldOr "gate_decisions" (.list V3GateTrace.schema) [] (·.gateDecisions)
    |>.fieldOr "fact_assertions" (.list CaseFactAssertion.schema) [] (·.factAssertions)
    |>.fieldOr "fact_snapshots" (.list CaseFactSnapshot.schema) [] (·.factSnapshots)
    |>.fieldOr "questions" (.list V3QuestionTrace.schema) [] (·.questions)
    |>.fieldOr "consumption_ledger" (.list V3ConsumptionTrace.schema) [] (·.consumptionLedger)
    |>.fieldOr "trajectory_boundaries" (.list .nat) [] (·.trajectoryBoundaries)
    |>.fieldOr "safety_gate_input" (.optional .bool) none (·.safetyGateInput)
    |>.fieldOr "grader_verdicts" (.list V3GraderVerdict.schema) [] (·.graderVerdicts)
    |>.object

end AfterSales.V3
