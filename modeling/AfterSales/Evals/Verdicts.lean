import AfterSales.Evals.Graders

/-! When a grader passes.

    A verdict can be built from the texts the graders use, so what a grader says is what it was
    given to say. The records below are the least that the schemas accept. -/

namespace AfterSales.V3

/-- A passing verdict; an error is none. -/
def passes (g : Graded) : Bool :=
  match g with
  | .ok v => v.passed
  | .error _ => false

theorem build_ok {graderId detail : String} {passed triggered : Bool}
    (hid : (named 96).accepts graderId = true) (hdetail : (named 1000).accepts detail = true) :
    V3GraderVerdict.build ⟨graderId, passed, triggered, detail, none⟩ =
      .ok ⟨graderId, passed, triggered, detail, none⟩ := by
  have haccepts : V3GraderVerdict.schema.accepts ⟨graderId, passed, triggered, detail, none⟩ =
      true := by
    simp [V3GraderVerdict.schema, hid, hdetail, Schema.bool]
  rw [V3GraderVerdict.build, if_pos haccepts]

theorem verdict_passes {graderId detail : String} {passed : Bool}
    (hid : (named 96).accepts graderId = true) (hdetail : (named 1000).accepts detail = true) :
    passes (verdict graderId passed detail) = passed := by
  rw [verdict, build_ok hid hdetail]
  rfl

theorem verdictIf_passes {graderId detail : String} {passed triggered : Bool}
    (hid : (named 96).accepts graderId = true) (hdetail : (named 1000).accepts detail = true) :
    passes (verdictIf triggered graderId passed detail) = passed := by
  rw [verdictIf, build_ok hid hdetail]
  rfl

/-- A verdict that gives one of two texts. -/
theorem verdict_passes_ite {graderId good bad : String} {passed : Bool}
    (hid : (named 96).accepts graderId = true) (hgood : (named 1000).accepts good = true)
    (hbad : (named 1000).accepts bad = true) :
    passes (verdict graderId passed (if passed then good else bad)) = passed := by
  cases passed with
  | true => exact verdict_passes hid hgood
  | false => exact verdict_passes hid hbad

/-! ### Records -/

/-- Times in strokes, and one digest for everything. -/
@[reducible] def EvalText.plain : EvalText where
  isoformat t := String.ofList ((if 0 ≤ t then '+' else '-') :: List.replicate t.natAbs '|')
  fromIsoformat s :=
    match s.toList with
    | '+' :: strokes => some strokes.length
    | '-' :: strokes => some (-strokes.length)
    | _ => none
  fromIsoformat_isoformat t := by
    split_ifs with h
    · simpa using Int.natAbs_of_nonneg h
    · have hback := Int.ofNat_natAbs_of_nonpos (not_le.mp h).le
      simp [hback]
  str
    | .str s => s
    | _ => ""
  str_str _ := rfl
  sha256 _ := String.ofList (List.replicate 64 '0')
  sha256Json _ := String.ofList (List.replicate 64 '0')
  sha256Json_isSha256 _ := by decide

def sampleHash : String := String.ofList (List.replicate 64 '0')

def sampleEnvelope (status : ExecutionStatus) : V3ToolResultEnvelope where
  executionStatus := status
  evidenceAvailability := if status = .success then .present else .unavailable
  sourceType := "fixture"
  sourceQueryId := "query"
  sourceRecordIds := []
  observedAt := 0
  payload := none
  errorCode := none
  retryable := status = .retryableError
  resultHash := sampleHash
  untrustedFields := []

/-- A read that was executed, with what it counts from. -/
def sampleCall (tool : String) (sequence attempt before : Nat) (status : ExecutionStatus) :
    V3ToolCall where
  toolCallId := "call"
  caseId := "case"
  runId := "run"
  toolName := tool
  normalizedArgs := [("order_id", .str "ORD-001")]
  planningTurn := 1
  attemptNumber := attempt
  actualExecution := true
  cacheHit := false
  blocked := false
  executionStatus := status
  evidenceAvailability := (sampleEnvelope status).evidenceAvailability
  resultEnvelope := sampleEnvelope status
  resultHash := sampleHash
  sourceVersion := "v1"
  retryable := status = .retryableError
  traceSequence := sequence
  progressStatus := none
  budgetBeforeActualReads := before
  budgetAfterActualReads := before + 1
  evidenceRefs := []

def sampleRecovery (sequence : Nat) (route : RecoveryRoute) : RecoveryTraceRecord where
  traceSequence := sequence
  caseId := "case"
  runId := "run"
  recoveryId := "recovery"
  triggerToolCallId := none
  triggerResultHash := none
  executionStatus := "retryable_error"
  evidenceAvailability := "unavailable"
  retryable := true
  errorCode := none
  evidenceProgressBeforeHash := sampleHash
  evidenceProgressAfterHash := sampleHash
  route := route
  reasonCode := .retryableToolFailure
  retryIdentityHash := none
  attemptNumber := none
  budgetSnapshot := ⟨0, 0, 0⟩
  runtimeVersion := sharedRuntimeVersion
  componentVersions := sharedComponentVersions
  recordedAt := 0

def sampleState (sequence : Nat) (phase : TracePhase) : StateTraceRecord where
  traceSequence := sequence
  caseId := "case"
  runId := "run"
  phaseFrom := .route
  phaseTo := phase
  reasonCode := "GATE_READY"
  caseRevision := 0
  runRevision := 0
  evidenceProgressHash := sampleHash
  pendingRetryIdentity := none
  runtimeVersion := sharedRuntimeVersion
  componentVersions := sharedComponentVersions
  persistedAt := 0

def sampleCase (obligations : List V3TrajectoryObligation) : V3CaseSpec where
  scenarioId := "v3a-sample"
  pairId := "pair-v3-sample"
  family := "DEV-V3A-SAMPLE"
  familyKind := .v3a
  issue := .signedNotReceived
  fixtureRevision := "fixture"
  sourceRevision := "source"
  evaluatedAt := 0
  faultSeedHash := sampleHash
  trajectoryObligations := obligations
  allowedDeterministicOutcomes := [.proposeTicket]
  sharedFields :=
    { decisionContextVersion := "v3a.decision_context.v1"
      budgetVersion := "budget"
      cacheRevision := "cache"
      toolRegistryVersion := "v2.read-tools.v1"
      validatorVersion := "v3a.validator.v1"
      routerVersion := "v3a.recovery_decision.v1"
      reducerVersion := "v3a.evidence_progress.v1"
      evidenceGateVersion := "project-evidence-gate.v2"
      responseLayerVersion := "response"
      executorVersion := "executor"
      graderRegistryVersion := "graders"
      timeoutSeconds := 30
      «repeat» := 1
      selectorTurnCeiling := 8
      providerCallCeiling := 8
      tokenCeilingConfig := "tokens"
      timeoutPositive := by decide
      repeatBounds := by decide
      turnBounds := by decide
      callBounds := by decide }
  expectedGraderIds := ["GR-V3A-06"]
  customerMessageIds := []
  scenarioMatches := by decide
  pairMatches := by decide
  familyMatches := by decide
  hasGraders := by decide
  gradersNodup := by decide

def sampleContext (obligations : List V3TrajectoryObligation) (trace : V3TypedTrace) :
    V3GradingContext where
  case := sampleCase obligations
  trace := trace
  finalOutcome := .proposeTicket
  safetyGatePass := true
  caseScopeId := none

end AfterSales.V3
