import AfterSales.Evals.BudgetLedger
import AfterSales.Evals.Capture

/-! The record of a run: made of captured evidence, or of the error that ended the run.

    Evidence carries the ids of the production run. The record belongs to the key of the evaluation,
    so the trace is rebound to it first; what is stored is then

        evidence ─▶ trace under the key ─▶ verdicts ─▶ status, metrics ─▶ record -/

namespace AfterSales.V3

variable [EvalText] [LedgerDigest]

/-! ### Binding a trace to the key of its record -/

def DecisionTraceRecord.bound (evalRunId : String) (d : DecisionTraceRecord) :
    DecisionTraceRecord := { d with runId := evalRunId }

def RecoveryTraceRecord.bound (evalRunId : String) (r : RecoveryTraceRecord) :
    RecoveryTraceRecord := { r with runId := evalRunId }

def StateTraceRecord.bound (evalRunId : String) (s : StateTraceRecord) : StateTraceRecord :=
  { s with runId := evalRunId }

def V3ToolCall.bound (evalRunId : String) (c : V3ToolCall) : V3ToolCall :=
  { c with runId := evalRunId }

def V3ProgressRebuild.bound (evalRunId : String) (p : V3ProgressRebuild) : V3ProgressRebuild :=
  { p with runId := evalRunId }

/-- `_trace_bound_to_eval_run`. -/
def traceBoundToEvalRun (trace : V3TypedTrace) (evalRunId : String) : V3TypedTrace :=
  { trace with
    decisions := trace.decisions.map (·.bound evalRunId)
    recoveries := trace.recoveries.map (·.bound evalRunId)
    states := trace.states.map (·.bound evalRunId)
    toolCalls := trace.toolCalls.map (·.bound evalRunId)
    progressRebuilds := trace.progressRebuilds.map (·.bound evalRunId) }

/-! ### What a record is made for -/

/-- The committed input of a case that its record is checked against. -/
structure V3ProductionCaseInput where
  scenarioId : String
  issueType : IssueType
  fixtureRevision : String
  sourceRevision : String
  evaluatedAt : Instant
  faultSeed : String

/-- `_validate_case_input`. -/
def validCaseInput (case : V3CaseSpec) (input : V3ProductionCaseInput) : Bool :=
  input.scenarioId = case.scenarioId && input.issueType = case.issue &&
    input.fixtureRevision = case.fixtureRevision && input.sourceRevision = case.sourceRevision &&
    input.evaluatedAt = case.evaluatedAt && EvalText.sha256 input.faultSeed = case.faultSeedHash

/-- `_shared_component_versions`. -/
def sharedComponentVersionsOf (case : V3CaseSpec) : List (String × String) :=
  let fields := case.sharedFields
  let number := fun n : Nat => EvalText.str (.int n)
  [("decision_context", fields.decisionContextVersion), ("fixture", case.fixtureRevision),
    ("source", case.sourceRevision), ("fault_seed_hash", case.faultSeedHash),
    ("evaluated_at", EvalText.isoformat case.evaluatedAt), ("budget", fields.budgetVersion),
    ("cache", fields.cacheRevision), ("tool_registry", fields.toolRegistryVersion),
    ("validator", fields.validatorVersion), ("router", fields.routerVersion),
    ("reducer", fields.reducerVersion), ("evidence_gate", fields.evidenceGateVersion),
    ("case_fact", "v3b.case-fact-production.v1"), ("response", fields.responseLayerVersion),
    ("executor", fields.executorVersion), ("grader", fields.graderRegistryVersion),
    ("runtime", "production-composition-root"), ("langgraph", "production-investigation-graph"),
    ("tool_node", "langgraph-toolnode"),
    ("governed_executor", "production-governed-tool-executor"),
    ("selector_turn_ceiling", number fields.selectorTurnCeiling),
    ("provider_call_ceiling", number fields.providerCallCeiling),
    ("token_ceiling_config", fields.tokenCeilingConfig),
    ("timeout_seconds", EvalText.str (.float fields.timeoutSeconds)),
    ("repeat", number fields.repeat)]

/-- The arguments that both makers of records take. -/
structure RecordArguments where
  case : V3CaseSpec
  architecture : V3Architecture
  repetition : Nat
  executionIdentity : String
  evaluationRevision : String
  evalRunId : String
  sharedInputDigest : String
  manifestId : Option V3ManifestId
  budgetBinding : Option DevelopmentBudgetBinding
  executionPackageDigest : Option String

/-- The manifest that a record names when none is given. -/
def V3FamilyKind.developmentManifest : V3FamilyKind → V3ManifestId
  | .v3a => .v3aEvalDev001
  | .v3b => .v3bEvalDev001

/-- `eval_run_id`, as the runner makes it. -/
def evalRunIdOf (case : V3CaseSpec) (architecture : V3Architecture) (repetition : Nat) : String :=
  case.pairId ++ "-" ++ architecture.value ++ "-r" ++ toString repetition

/-! ### Records of evidence -/

/-- The fields of a record that are decided once its trace is bound and graded. -/
structure RunSummary where
  runStatus : V3RunStatus
  errorCode : Option String
  errorClass : ErrorClass
  startedAt : Instant
  completedAt : Instant
  caseId : Option String
  qualityPass : Bool
  safetyGatePass : Bool
  finalOutcome : V3GateOutcome
  triggeredObligations : List String
  failedObligations : List String
  metrics : V3Metrics
  bindingDigest : Option String
  trace : V3TypedTrace

/-- The record of a run, if it can be built. -/
def RecordArguments.record (a : RecordArguments) (s : RunSummary) : Except String V3RunRecord :=
  let record := V3RunRecord.build
    { evalRunId := a.evalRunId
      executionIdentity := a.executionIdentity
      manifestId := a.manifestId.getD a.case.familyKind.developmentManifest
      evaluationRevision := a.evaluationRevision
      scenarioId := a.case.scenarioId
      pairId := a.case.pairId
      caseId := s.caseId
      family := a.case.family
      architecture := a.architecture
      repetition := a.repetition
      runStatus := s.runStatus
      startedAt := s.startedAt
      completedAt := s.completedAt
      qualityPass := s.qualityPass
      safetyGatePass := s.safetyGatePass
      finalOutcome := s.finalOutcome
      triggeredObligations := s.triggeredObligations
      failedObligations := s.failedObligations
      metrics := s.metrics
      sharedInputDigest := a.sharedInputDigest
      sharedComponentVersions := sharedComponentVersionsOf a.case
      selectorVersion :=
        "production." ++ a.architecture.value ++ ".selector.v2-structured-candidate"
      authorizedSelectorTurnCeiling := a.case.sharedFields.selectorTurnCeiling
      authorizedProviderCallCeiling := a.case.sharedFields.providerCallCeiling
      timeoutSeconds := a.case.sharedFields.timeoutSeconds
      «repeat» := a.case.sharedFields.repeat
      errorCode := s.errorCode
      errorClass := s.errorClass
      budgetLedgerBindingDigest := s.bindingDigest
      executionPackageDigest := a.executionPackageDigest
      planVersion := a.budgetBinding.map (·.planVersion)
      manifestDigests := (a.budgetBinding.map (·.manifestDigests)).getD []
      trace := s.trace }
  match record with
  | some r => .ok r
  | none => .error "ValidationError"

/-- What is counted over a bound trace. -/
def metricsOf (trace : V3TypedTrace) (latencyMs : ℚ) (modelCalls providerCalls : Nat)
    (toolnodeReached : Bool) : V3Metrics where
  actualReads := (trace.toolCalls.filter (·.actualExecution)).length
  cacheHits := (trace.toolCalls.filter (·.cacheHit)).length
  unnecessaryReads := 0
  retryAttempts := (trace.toolCalls.filter (·.attemptNumber = 2)).length
  retryRecovered :=
    trace.toolCalls.any fun call => call.attemptNumber = 2 && call.executionStatus = .success
  stuckOrSafeStop := trace.recoveries.any (·.route = .safeStop)
  rebuildParity := trace.progressRebuilds.all fun item =>
    item.onlineSnapshotHash = item.replayedSnapshotHash
  clarificationQuestions := trace.questions.length
  repeatedQuestions := (trace.questions.filter (·.repeated)).length
  latencyMs := latencyMs
  modelCalls := modelCalls
  providerCalls := providerCalls
  toolnodeReached := toolnodeReached || !trace.toolCalls.isEmpty
  selectorSchemaFailures := (trace.decisions.filter fun item =>
    "SELECTOR_".toList.isPrefixOf (item.rejectionCode.getD "").toList).length
  multiObservationRejections := (trace.decisions.filter fun item =>
    item.rejectionCode = some "SELECTOR_MULTIPLE_TOOL_CALLS").length

/-- `_record_from_evidence`. -/
def recordFromEvidence (a : RecordArguments) (caseInput : V3ProductionCaseInput)
    (evidence : ProductionTraceEvidence) : Except String V3RunRecord := do
  if !validCaseInput a.case caseInput then throw "V3ExecutionNotAuthorized"
  let trace := traceBoundToEvalRun evidence.trace a.evalRunId
  let verdicts ←
    if evidence.graderVerdicts.isEmpty then
      executeV3Graders
        { case := a.case
          trace := trace
          finalOutcome := evidence.finalOutcome
          safetyGatePass := evidence.safetyGatePass
          caseScopeId := some evidence.caseId }
        a.case.expectedGraderIds
    else pure evidence.graderVerdicts
  let trace := { trace with
    safetyGateInput := some evidence.safetyGatePass
    graderVerdicts := verdicts }
  let quality := verdicts.filter (·.graderId ≠ "GR-V3A-13")
  let safety := verdicts.filter (·.graderId = "GR-V3A-13")
  let triggered := (a.case.trajectoryObligations.filter (obligationTriggered · trace)).map
    (·.obligationId)
  let graderFailed := verdicts.any (!·.passed)
  let failedHere := graderFailed && evidence.runStatus = .completed && evidence.errorClass = .none
  let calls := evidence.budgetAccounting.map (·.attemptedProviderCalls)
  a.record
    { runStatus := if failedHere then .graderFailure else evidence.runStatus
      errorCode := if failedHere then some "GRADER_FAILURE" else evidence.errorCode
      errorClass := if failedHere then .grader else evidence.errorClass
      startedAt := evidence.startedAt
      completedAt := evidence.completedAt
      caseId := some evidence.caseId
      qualityPass := !quality.isEmpty && quality.all (·.passed)
      safetyGatePass := evidence.safetyGatePass && safety.all (·.passed)
      finalOutcome := evidence.finalOutcome
      triggeredObligations := triggered
      failedObligations := if graderFailed then triggered else []
      metrics := metricsOf trace evidence.latencyMs (calls.getD evidence.modelCalls)
        (calls.getD evidence.providerCalls) evidence.toolnodeReached
      bindingDigest :=
        match evidence.budgetAccounting with
        | some accounting => accounting.bindingDigest
        | none => a.budgetBinding.map LedgerDigest.bindingDigest
      trace := trace }

/-! ### Records of failures -/

/-- What an adapter may raise; other errors are known by the names of their classes. -/
inductive RunError where
  | providerBudgetAdmissionRejected (reasonCode : String)
  | selectorSchemaFailure (reasonCode : String)
  | providerInvocationFailure (reasonCode : String)
  | selectorExecutionFailure (reasonCode : String)
  | timeoutError (className : String)
  | cancelledError
  | other (className : String)
  deriving DecidableEq

/-- The name of a class, without regard to case, has a word in it. -/
def mentions (className word : String) : Bool := word.toList <:+: className.toLower.toList

/-- The status, class and code of an error, as `_failure_record` chooses them. -/
def RunError.classify : RunError → V3RunStatus × ErrorClass × String
  | .providerBudgetAdmissionRejected reason =>
    let status : V3RunStatus :=
      match reason with
      | "provider_budget_exhausted" => .providerBudgetExhausted
      | "token_threshold_exhausted" => .tokenThresholdExhausted
      | "token_usage_unavailable" => .tokenUsageUnavailable
      | "provider_invocation_incomplete" => .providerInvocationIncomplete
      | _ => .error
    (status, .budget, reason)
  | .selectorSchemaFailure reason => (.schemaFailure, .schema, reason)
  | .providerInvocationFailure reason => (.providerFailure, .provider, reason)
  | .selectorExecutionFailure reason => (.error, .runtime, reason)
  | .timeoutError name => (.timeout, .timeout, name)
  | .cancelledError => (.timeout, .timeout, "PROVIDER_CANCELLED")
  | .other name =>
    if mentions name "provider" || mentions name "connection" then
      (.providerFailure, .provider, name)
    else if mentions name "grader" then (.graderFailure, .grader, name)
    else if mentions name "trace" || mentions name "validation" then
      (.schemaFailure, .schema, name)
    else (.error, .runtime, name)

/-- `_failure_record`. -/
def failureRecord (a : RecordArguments) (startedAt now : Instant) (error : RunError)
    (accounting : Option DevelopmentBudgetRunAccounting) : Except String V3RunRecord := do
  let (status, errorClass, errorCode) := error.classify
  let bindingDigest := (accounting.bind (·.bindingDigest)).or
    (a.budgetBinding.map LedgerDigest.bindingDigest)
  let attempted := (accounting.map (·.attemptedProviderCalls)).getD 0
  let trace := { V3TypedTrace.empty with safetyGateInput := some false }
  let verdicts ← executeV3Graders
    { case := a.case
      trace := trace
      finalOutcome := .unknown
      safetyGatePass := false
      caseScopeId := some a.case.pairId }
    a.case.expectedGraderIds
  a.record
    { runStatus := status
      errorCode := some errorCode
      errorClass := errorClass
      startedAt := startedAt
      completedAt := now
      caseId := none
      qualityPass := false
      safetyGatePass := false
      finalOutcome := .unknown
      triggeredObligations := []
      failedObligations := []
      metrics :=
        { actualReads := 0
          cacheHits := 0
          unnecessaryReads := 0
          retryAttempts := 0
          retryRecovered := false
          stuckOrSafeStop := false
          rebuildParity := false
          clarificationQuestions := 0
          repeatedQuestions := 0
          latencyMs := 0
          modelCalls := attempted
          providerCalls := attempted
          toolnodeReached := false
          selectorSchemaFailures := if error matches .selectorSchemaFailure _ then 1 else 0
          multiObservationRejections :=
            if error = .selectorSchemaFailure "SELECTOR_MULTIPLE_TOOL_CALLS" then 1 else 0 }
      bindingDigest := bindingDigest
      trace := { trace with graderVerdicts := verdicts } }

end AfterSales.V3
