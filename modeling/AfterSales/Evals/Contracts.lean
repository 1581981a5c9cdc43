import AfterSales.Evals.TraceRecords

/-! The contracts of the evaluation: the cases, and the record a run is kept in.

    A case is what both architectures run. Its record holds the typed trace, the verdicts of the
    graders and what was counted, under a key made of the pair, the architecture and the
    repetition. -/

namespace AfterSales.V3

variable [EvalText]

/-! ### Cases -/

inductive PredicateOperator where
  | equals | notEquals | isIn | notIn | exists | notExists | gt | gte | lt | lte
  deriving DecidableEq, Repr

/-- `_PREDICATE_PATHS`, by their parts. -/
def predicatePaths : List (List String) :=
  [["tool_name"], ["execution_status"], ["evidence_availability"], ["attempt_number"],
    ["actual_execution"], ["cache_hit"], ["blocked"], ["source_version"], ["result_hash"],
    ["planning_turn"], ["payload", "order_status"], ["payload", "pod_status"],
    ["payload", "hours_since_last_update"], ["payload", "retrieval_status"],
    ["payload", "policy_resolution_status"], ["progress", "gate_readiness"],
    ["progress", "requirements", "ORDER_STATUS", "status"],
    ["progress", "requirements", "TRACKING_TIMELINE", "status"],
    ["progress", "requirements", "DELIVERY_PROOF", "status"],
    ["progress", "requirements", "POLICY_APPLICABILITY", "status"],
    ["progress", "requirements", "ACTIVE_TICKET_STATUS", "status"], ["route"], ["reason_code"],
    ["phase_to"], ["decision", "action"], ["decision", "tool_name"],
    ["decision", "validation_status"], ["gate", "decision"], ["fact", "code"], ["fact", "value"],
    ["fact", "relation"], ["question", "status"]]

/-- A condition on a record of the trace. -/
structure V3Predicate where
  fieldPath : List String
  operator : PredicateOperator
  value : Json
  registered : fieldPath ∈ predicatePaths
  valueOmitted : operator = .exists ∨ operator = .notExists → value = .null

structure V3ObligationEffect where
  allowedRoutes : List RecoveryRoute
  requiredNextRoute : Option RecoveryRoute
  forbiddenFutureTools : List String
  maxAdditionalActualReads : Option Nat
  requiredDecisionCodes : List String
  toolsKnown : ∀ tool ∈ forbiddenFutureTools, tool ∈ toolNames
  readsAtMost : ∀ n ∈ maxAdditionalActualReads, n ≤ 6

/-- A text that starts with one of the heads and goes on as the rest demands. -/
def headed (heads : List String) (rest : List Char → Bool) (s : String) : Bool :=
  heads.any fun head => head.toList.isPrefixOf s.toList && rest (s.toList.drop head.length)

/-- `[A-Z0-9-]{3,80}`. -/
def isObligationCode (s : List Char) : Bool :=
  s.all (fun c => c.isUpper || c.isDigit || c = '-') && 3 ≤ s.length && s.length ≤ 80

/-- What must follow once a record of the trace meets all conditions. -/
structure V3TrajectoryObligation where
  obligationId : String
  when : List V3Predicate
  effect : V3ObligationEffect
  idMatches : headed ["OBL-V3-"] isObligationCode obligationId
  conditioned : when ≠ []

/-- Every field outside the selector that both runs of a pair share. -/
structure V3SharedFields where
  decisionContextVersion : String
  budgetVersion : String
  cacheRevision : String
  toolRegistryVersion : String
  validatorVersion : String
  routerVersion : String
  reducerVersion : String
  evidenceGateVersion : String
  responseLayerVersion : String
  executorVersion : String
  graderRegistryVersion : String
  timeoutSeconds : ℚ
  «repeat» : Nat
  selectorTurnCeiling : Nat
  providerCallCeiling : Nat
  tokenCeilingConfig : String
  timeoutPositive : 0 < timeoutSeconds
  repeatBounds : 1 ≤ «repeat» ∧ «repeat» ≤ 3
  turnBounds : 1 ≤ selectorTurnCeiling ∧ selectorTurnCeiling ≤ 16
  callBounds : providerCallCeiling ≤ 16

inductive V3FamilyKind where | v3a | v3b
  deriving DecidableEq, Repr

/-- `[a-z0-9][a-z0-9_-]{2,95}`. -/
def isSlug (s : List Char) : Bool :=
  let letter := fun c : Char => c.isLower || c.isDigit
  (s.head?.any letter) && s.tail.all (fun c => letter c || c = '_' || c = '-') &&
    2 ≤ s.tail.length && s.tail.length ≤ 95

/-- `[A-Z0-9-]{3,64}`. -/
def isFamilyCode (s : List Char) : Bool :=
  s.all (fun c => c.isUpper || c.isDigit || c = '-') && 3 ≤ s.length && s.length ≤ 64

/-- One case, which both architectures run. -/
structure V3CaseSpec where
  scenarioId : String
  pairId : String
  family : String
  familyKind : V3FamilyKind
  issue : IssueType
  fixtureRevision : String
  sourceRevision : String
  evaluatedAt : Instant
  faultSeedHash : String
  trajectoryObligations : List V3TrajectoryObligation
  allowedDeterministicOutcomes : List V3GateOutcome
  sharedFields : V3SharedFields
  expectedGraderIds : List String
  customerMessageIds : List String
  scenarioMatches : headed ["v3a-", "v3b-"] isSlug scenarioId
  pairMatches : headed ["pair-v3-"] isSlug pairId
  familyMatches : headed ["DEV-V3A-", "DEV-V3B-", "LOCKED-V3A-", "LOCKED-V3B-"] isFamilyCode family
  hasGraders : expectedGraderIds ≠ []
  gradersNodup : expectedGraderIds.Nodup

/-! ### Run records -/

inductive V3Architecture where | agent | workflow
  deriving DecidableEq, Repr

def V3Architecture.value : V3Architecture → String
  | .agent => "agent"
  | .workflow => "workflow"

def architecture : Schema V3Architecture :=
  .enum V3Architecture.value [.agent, .workflow] (by intro a; cases a <;> rfl)

inductive V3RunStatus where
  | completed | timeout | schemaFailure | providerFailure | providerBudgetExhausted
  | providerInvocationIncomplete | tokenThresholdExhausted | tokenUsageUnavailable | graderFailure
  | error
  deriving DecidableEq, Repr

def runStatus : Schema V3RunStatus :=
  .enum
    (fun
      | .completed => "completed"
      | .timeout => "timeout"
      | .schemaFailure => "schema_failure"
      | .providerFailure => "provider_failure"
      | .providerBudgetExhausted => "provider_budget_exhausted"
      | .providerInvocationIncomplete => "provider_invocation_incomplete"
      | .tokenThresholdExhausted => "token_threshold_exhausted"
      | .tokenUsageUnavailable => "token_usage_unavailable"
      | .graderFailure => "grader_failure"
      | .error => "error")
    [.completed, .timeout, .schemaFailure, .providerFailure, .providerBudgetExhausted,
      .providerInvocationIncomplete, .tokenThresholdExhausted, .tokenUsageUnavailable,
      .graderFailure, .error]
    (by intro a; cases a <;> rfl)

inductive ErrorClass where | none | timeout | schema | provider | budget | grader | runtime
  deriving DecidableEq, Repr

def errorClass : Schema ErrorClass :=
  .enum
    (fun
      | .none => "none"
      | .timeout => "timeout"
      | .schema => "schema"
      | .provider => "provider"
      | .budget => "budget"
      | .grader => "grader"
      | .runtime => "runtime")
    [.none, .timeout, .schema, .provider, .budget, .grader, .runtime] (by intro a; cases a <;> rfl)

inductive V3ManifestId where
  | v3aEvalDev001 | v3bEvalDev001 | v3aEvalFreeze001 | v3bEvalFreeze001 | v3aEvalLocked001
  | v3bEvalLocked001 | v3aEvalFreeze002 | v3bEvalFreeze002 | v3aEvalLocked002 | v3bEvalLocked002
  deriving DecidableEq, Repr

def manifestId : Schema V3ManifestId :=
  .enum
    (fun
      | .v3aEvalDev001 => "V3A-EVAL-DEV-001"
      | .v3bEvalDev001 => "V3B-EVAL-DEV-001"
      | .v3aEvalFreeze001 => "V3A-EVAL-FREEZE-001"
      | .v3bEvalFreeze001 => "V3B-EVAL-FREEZE-001"
      | .v3aEvalLocked001 => "V3A-EVAL-LOCKED-001"
      | .v3bEvalLocked001 => "V3B-EVAL-LOCKED-001"
      | .v3aEvalFreeze002 => "V3A-EVAL-FREEZE-002"
      | .v3bEvalFreeze002 => "V3B-EVAL-FREEZE-002"
      | .v3aEvalLocked002 => "V3A-EVAL-LOCKED-002"
      | .v3bEvalLocked002 => "V3B-EVAL-LOCKED-002")
    [.v3aEvalDev001, .v3bEvalDev001, .v3aEvalFreeze001, .v3bEvalFreeze001, .v3aEvalLocked001,
      .v3bEvalLocked001, .v3aEvalFreeze002, .v3bEvalFreeze002, .v3aEvalLocked002,
      .v3bEvalLocked002]
    (by intro a; cases a <;> rfl)

/-- What is counted over a run. The accounting of the budget ledger is left out. -/
structure V3Metrics where
  actualReads : Nat
  cacheHits : Nat
  unnecessaryReads : Nat
  retryAttempts : Nat
  retryRecovered : Bool
  stuckOrSafeStop : Bool
  rebuildParity : Bool
  clarificationQuestions : Nat
  repeatedQuestions : Nat
  latencyMs : ℚ
  modelCalls : Nat
  providerCalls : Nat
  toolnodeReached : Bool
  selectorSchemaFailures : Nat
  multiObservationRejections : Nat

def V3Metrics.schema : Schema V3Metrics :=
  Fields.make V3Metrics.mk
    |>.field "actual_reads" (within 0 6) (·.actualReads)
    |>.field "cache_hits" (within 0 16) (·.cacheHits)
    |>.field "unnecessary_reads" .nat (·.unnecessaryReads)
    |>.field "retry_attempts" (within 0 2) (·.retryAttempts)
    |>.fieldOr "retry_recovered" .bool false (·.retryRecovered)
    |>.fieldOr "stuck_or_safe_stop" .bool false (·.stuckOrSafeStop)
    |>.field "rebuild_parity" .bool (·.rebuildParity)
    |>.field "clarification_questions" (within 0 2) (·.clarificationQuestions)
    |>.field "repeated_questions" .nat (·.repeatedQuestions)
    |>.field "latency_ms" (Schema.rational.check (0 ≤ ·)) (·.latencyMs)
    |>.field "model_calls" .nat (·.modelCalls)
    |>.field "provider_calls" .nat (·.providerCalls)
    |>.fieldOr "toolnode_reached" .bool false (·.toolnodeReached)
    |>.fieldOr "selector_schema_failures" .nat 0 (·.selectorSchemaFailures)
    |>.fieldOr "multi_observation_rejections" .nat 0 (·.multiObservationRejections)
    |>.object

structure V3RunRecord where
  evalRunId : String
  executionIdentity : String
  manifestId : V3ManifestId
  evaluationRevision : String
  scenarioId : String
  pairId : String
  caseId : Option String
  family : String
  architecture : V3Architecture
  repetition : Nat
  runStatus : V3RunStatus
  startedAt : Instant
  completedAt : Instant
  qualityPass : Bool
  safetyGatePass : Bool
  finalOutcome : V3GateOutcome
  triggeredObligations : List String
  failedObligations : List String
  metrics : V3Metrics
  sharedInputDigest : String
  sharedComponentVersions : List (String × String)
  selectorVersion : String
  authorizedSelectorTurnCeiling : Nat
  authorizedProviderCallCeiling : Nat
  timeoutSeconds : ℚ
  «repeat» : Nat
  errorCode : Option String
  errorClass : ErrorClass
  budgetLedgerBindingDigest : Option String
  executionPackageDigest : Option String
  planVersion : Option String
  manifestDigests : List (String × String)
  trace : V3TypedTrace

namespace V3RunRecord

/-- `case_id or pair_id`. -/
def scopeId (r : V3RunRecord) : String :=
  match r.caseId with
  | some caseId => if caseId = "" then r.pairId else caseId
  | none => r.pairId

/-- `observed_selector_turn`. -/
def observedSelectorTurn (r : V3RunRecord) : Nat :=
  (r.trace.decisions.map (·.planningTurn) ++ r.trace.toolCalls.map (·.planningTurn)).foldl max 0

/-- No record of the trace belongs to another case. -/
def sameCase (r : V3RunRecord) : Bool :=
  r.trace.decisions.all (·.caseId = r.scopeId) && r.trace.recoveries.all (·.caseId = r.scopeId) &&
    r.trace.states.all (·.caseId = r.scopeId) && r.trace.toolCalls.all (·.caseId = r.scopeId) &&
    r.trace.progressRebuilds.all (·.caseId = r.scopeId) &&
    r.trace.questions.all (·.caseId = r.scopeId)

/-- No record of the trace belongs to another run. -/
def sameRun (r : V3RunRecord) : Bool :=
  r.trace.decisions.all (·.runId = r.evalRunId) && r.trace.recoveries.all (·.runId = r.evalRunId) &&
    r.trace.states.all (·.runId = r.evalRunId) && r.trace.toolCalls.all (·.runId = r.evalRunId) &&
    r.trace.progressRebuilds.all (·.runId = r.evalRunId)

/-- `validate_run`. -/
def validate (r : V3RunRecord) : Bool :=
  r.startedAt ≤ r.completedAt && (r.errorClass = .none → r.errorCode = none) &&
    (r.runStatus = .completed ↔ r.errorClass = .none) &&
    r.metrics.providerCalls ≤ r.authorizedProviderCallCeiling &&
    r.observedSelectorTurn ≤ r.authorizedSelectorTurnCeiling && r.sameCase && r.sameRun

/-- The fields of a record before its trace. -/
def header : Fields V3RunRecord (V3TypedTrace → V3RunRecord) :=
  Fields.make V3RunRecord.mk
    |>.literal "schema_version" "v3.run.v1"
    |>.field "eval_run_id" filled (·.evalRunId)
    |>.field "execution_identity" filled (·.executionIdentity)
    |>.field "manifest_id" V3.manifestId (·.manifestId)
    |>.field "evaluation_revision" filled (·.evaluationRevision)
    |>.field "scenario_id" filled (·.scenarioId)
    |>.field "pair_id" filled (·.pairId)
    |>.fieldOr "case_id" (.optional .string Schema.string_ne_null) none (·.caseId)
    |>.field "family" filled (·.family)
    |>.field "architecture" V3.architecture (·.architecture)
    |>.field "repetition" (within 1 3) (·.repetition)
    |>.field "run_status" V3.runStatus (·.runStatus)
    |>.field "started_at" instant (·.startedAt)
    |>.field "completed_at" instant (·.completedAt)
    |>.field "quality_pass" .bool (·.qualityPass)
    |>.field "safety_gate_pass" .bool (·.safetyGatePass)
    |>.field "final_outcome" gateOutcome (·.finalOutcome)
    |>.fieldOr "triggered_obligations" (.list .string) [] (·.triggeredObligations)
    |>.fieldOr "failed_obligations" (.list .string) [] (·.failedObligations)
    |>.field "metrics" V3Metrics.schema (·.metrics)
    |>.field "shared_input_digest" hash (·.sharedInputDigest)
    |>.field "shared_component_versions" (.dict .string) (·.sharedComponentVersions)
    |>.field "selector_version" filled (·.selectorVersion)
    |>.fieldOr "authorized_selector_turn_ceiling" (within 1 16) 8 (·.authorizedSelectorTurnCeiling)
    |>.fieldOr "authorized_provider_call_ceiling" (within 0 16) 8 (·.authorizedProviderCallCeiling)
    |>.fieldOr "timeout_seconds" (Schema.rational.check (0 < ·)) 30 (·.timeoutSeconds)
    |>.fieldOr "repeat" (within 1 3) 1 (·.repeat)
    |>.fieldOr "error_code" (.optional .string Schema.string_ne_null) none (·.errorCode)
    |>.fieldOr "error_class" V3.errorClass .none (·.errorClass)
    |>.fieldOr "budget_ledger_binding_digest" (.optional hash hash_ne_null) none
      (·.budgetLedgerBindingDigest)
    |>.fieldOr "execution_package_digest" (.optional hash hash_ne_null) none
      (·.executionPackageDigest)
    |>.fieldOr "plan_version" (.optional .string Schema.string_ne_null) none (·.planVersion)
    |>.fieldOr "manifest_digests" (.dict .string) [] (·.manifestDigests)

def schema : Schema V3RunRecord :=
  header
    |>.field "trace" V3TypedTrace.schema (·.trace)
    |>.object (by simp [header])
    |>.check validate

/-- A record as it is built: its trace is an instance already, and is not checked again. -/
def build (r : V3RunRecord) : Option V3RunRecord :=
  if header.accepts r && r.validate then some r else none

end V3RunRecord

end AfterSales.V3
