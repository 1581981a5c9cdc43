import AfterSales.Evals.Contracts

/-! The deterministic graders of a typed trace.

    A grader reads the trace and the contract of the case, and nothing else. Each expected grader
    gives one verdict, also when it is unknown or fails; a verdict that was stored is checked by
    running the graders on the stored trace once more. -/

namespace AfterSales.V3

variable [EvalText]

structure V3GradingContext where
  case : V3CaseSpec
  trace : V3TypedTrace
  finalOutcome : V3GateOutcome
  safetyGatePass : Bool
  caseScopeId : Option String

/-- A verdict, or the class of the error that ended its grader. -/
abbrev Graded := Except String V3GraderVerdict

/-- A verdict as it is built. -/
def V3GraderVerdict.build (v : V3GraderVerdict) : Graded :=
  if V3GraderVerdict.schema.accepts v then .ok v else .error "ValidationError"

/-- `_verdict`, of a grader that applies. -/
def verdict (graderId : String) (passed : Bool) (detail : String) : Graded :=
  V3GraderVerdict.build ⟨graderId, passed, true, detail, none⟩

/-- `_verdict`, with `triggered`. -/
def verdictIf (triggered : Bool) (graderId : String) (passed : Bool) (detail : String) : Graded :=
  V3GraderVerdict.build ⟨graderId, passed, triggered, detail, none⟩

/-! ### Obligations -/

/-- `_predicate_match`. -/
def predicateMatch (record : Json) (p : V3Predicate) : Bool :=
  let actual := record.follow p.fieldPath
  match p.operator with
  | .exists => actual ≠ .null
  | .notExists => actual = .null
  | .equals => actual.same p.value
  | .notEquals => !actual.same p.value
  | .isIn =>
    match p.value with
    | .array values => values.any actual.same
    | _ => false
  | .notIn =>
    match p.value with
    | .array values => !values.any actual.same
    | _ => true
  | .gt => (p.value.less actual).getD false
  | .gte => ((actual.less p.value).map not).getD false
  | .lt => (actual.less p.value).getD false
  | .lte => ((p.value.less actual).map not).getD false

def V3TrajectoryObligation.holdsOf (o : V3TrajectoryObligation) (record : Json) : Bool :=
  o.when.all (predicateMatch record)

/-- A tool call as the conditions see it, with the payload of its result. -/
def callRecord (call : V3ToolCall) : Json :=
  let record := V3ToolCall.schema.dump call
  match (record.get "result_envelope").bind (·.get "payload") with
  | some (.object payload) => record.set "payload" (.object payload)
  | _ => record

/-- The requirements of a rebuild as the conditions see them. -/
def rebuildRecord (rebuild : V3ProgressRebuild) : Json :=
  .object [("progress", .object [("requirements", .object
    (rebuild.progressRequirements.map fun x => (x.1, .object [("status", .str x.2)])))])]

/-- `_obligation_triggered`. -/
def obligationTriggered (o : V3TrajectoryObligation) (trace : V3TypedTrace) : Bool :=
  let candidates :=
    trace.toolCalls.map callRecord ++
    trace.recoveries.map RecoveryTraceRecord.schema.dump ++
    trace.states.map StateTraceRecord.schema.dump ++
    trace.decisions.map DecisionTraceRecord.schema.dump ++
    trace.gateDecisions.map V3GateTrace.schema.dump ++
    trace.progressRebuilds.map rebuildRecord
  candidates.any o.holdsOf

/-- `_obligation_trigger_sequence`. -/
def obligationTriggerSequence (o : V3TrajectoryObligation) (trace : V3TypedTrace) : Option Nat :=
  let candidates :=
    trace.toolCalls.map (fun item => (item.traceSequence, callRecord item)) ++
    trace.decisions.map (fun item => (item.traceSequence, DecisionTraceRecord.schema.dump item)) ++
    trace.recoveries.map (fun item => (item.traceSequence, RecoveryTraceRecord.schema.dump item)) ++
    trace.states.map (fun item => (item.traceSequence, StateTraceRecord.schema.dump item))
  (candidates.find? fun candidate => o.holdsOf candidate.2).map Prod.fst

/-- `_trajectory_segment_end`: the next issue revision. -/
def trajectorySegmentEnd (trace : V3TypedTrace) (sequence : Nat) : Option Nat :=
  trace.trajectoryBoundaries.find? (sequence ≤ ·)

/-- `_same_trajectory`. -/
def sameTrajectory (trace : V3TypedTrace) (sequence trigger : Nat) : Bool :=
  (trajectorySegmentEnd trace trigger).all (sequence ≤ ·)

/-- A read that was executed after a moment, under the same issue. -/
def readAfter (trace : V3TypedTrace) (moment : Nat) (call : V3ToolCall) : Bool :=
  call.actualExecution && moment < call.traceSequence &&
    sameTrajectory trace call.traceSequence moment

/-- What an obligation misses in a trace that triggers it. -/
def obligationFailure (trace : V3TypedTrace) (o : V3TrajectoryObligation) : Option String :=
  let routes := trace.recoveries.map (·.route)
  let codes := trace.decisions.map (·.reasonCode)
  let readsAfter := fun moment => trace.toolCalls.filter (readAfter trace moment)
  let trigger := obligationTriggerSequence o trace
  if o.effect.requiredNextRoute.any (· ∉ routes) then
    some ("required route missing for " ++ o.obligationId)
  else if o.effect.allowedRoutes ≠ [] ∧ o.effect.allowedRoutes.all (· ∉ routes) then
    some ("allowed route missing for " ++ o.obligationId)
  else if o.effect.requiredDecisionCodes.any (· ∉ codes) then
    some ("required decision code missing for " ++ o.obligationId)
  else if trigger.any fun moment =>
      (readsAfter moment).any (·.toolName ∈ o.effect.forbiddenFutureTools) then
    some ("forbidden read for " ++ o.obligationId)
  else if trigger.any fun moment =>
      o.effect.maxAdditionalActualReads.any (· < (readsAfter moment).length) then
    some ("additional reads exceeded for " ++ o.obligationId)
  else none

/-! ### Graders of the trajectory -/

/-- The fields that `grade_next_observation_contract` asks a decision to have. -/
def requiredDecisionFields : List String :=
  ["decision_id", "selector_kind", "planning_turn", "action", "canonical_arguments_hash",
    "evidence_progress_hash"]

def gradeNextObservationContract (context : V3GradingContext) : Graded :=
  let passed := !context.trace.decisions.isEmpty && context.trace.decisions.all fun decision =>
    (requiredDecisionFields.all fun name =>
      ((DecisionTraceRecord.schema.dump decision).get name).isSome) &&
    (decision.validationStatus = .accepted || decision.validationStatus = .rejected)
  verdict "GR-V3A-01" passed
    (if passed then "typed candidate/decision contract verified" else "malformed typed decision")

def gradeObservationConditionedChoice (context : V3GradingContext) : Graded :=
  let triggered := context.case.trajectoryObligations.filter (obligationTriggered · context.trace)
  match triggered.findSome? (obligationFailure context.trace) with
  | some failure => verdict "GR-V3A-02" false failure
  | none => verdict "GR-V3A-02" true "triggered observation obligations verified"

/-- A phase that ends a trajectory. -/
def TracePhase.ends : TracePhase → Bool
  | .finalize | .safeStop | .terminal => true
  | .select | .validate | .execute | .reduce | .route => false

/-- `_terminal_sequence`. -/
def terminalSequence (trace : V3TypedTrace) : Option Nat :=
  let segmentStart := trace.trajectoryBoundaries.foldl max 0
  let ends := (trace.states.filter (·.phaseTo.ends)).map (·.traceSequence)
  let inSegment := ends.filter (segmentStart < ·)
  (if inSegment = [] then ends else inSegment).min?

def gradeEarlyStop (context : V3GradingContext) : Graded :=
  match terminalSequence context.trace with
  | none => verdictIf false "GR-V3A-03" true "early-stop not triggered"
  | some terminal =>
    let later := (context.trace.decisions.any fun item => terminal < item.traceSequence &&
        sameTrajectory context.trace item.traceSequence terminal) ||
      context.trace.toolCalls.any (readAfter context.trace terminal)
    verdict "GR-V3A-03" (!later)
      (if later then "work followed terminal route" else "gate-ready early stop verified")

def gradePrematureFinish (context : V3GradingContext) : Graded :=
  let rejected := context.trace.decisions.filter (·.rejectionCode = some "PREMATURE_FINISH")
  match (rejected.map (·.planningTurn)).min? with
  | none => verdictIf false "GR-V3A-04" true "premature finish not triggered"
  | some first =>
    let correction := context.trace.decisions.any fun item =>
      first < item.planningTurn && item.validationStatus = .accepted
    let stopped := context.trace.recoveries.any (·.route = .safeStop)
    verdict "GR-V3A-04" (correction || stopped)
      (if correction || stopped then "premature-finish guard verified"
        else "premature finish lacked bounded correction")

def gradeStuckGuard (context : V3GradingContext) : Graded :=
  let repeated := context.trace.decisions.any (·.rejectionCode = some "STUCK_REPEATED_DECISION")
  let noProgress := context.trace.recoveries.any (·.reasonCode = .stuckNoEvidenceProgress)
  let safeStop := context.trace.recoveries.any (·.route = .safeStop)
  let triggered := repeated || noProgress
  verdictIf triggered "GR-V3A-05" (!triggered || safeStop)
    (if !triggered || safeStop then "stuck guard verified" else "stuck path did not safe-stop")

/-- A first attempt that failed in a way that may pass. -/
def V3ToolCall.failedOnce (call : V3ToolCall) : Bool :=
  call.actualExecution && call.attemptNumber = 1 && call.executionStatus = .retryableError &&
    call.evidenceAvailability = .unavailable

/-- The loop of `grade_exact_retry`, which ends at the first failed attempt. -/
def exactRetry (decisions : List DecisionTraceRecord) : List V3ToolCall → Graded
  | [] => verdictIf false "GR-V3A-06" true "exact retry not triggered"
  | call :: later =>
    if !call.failedOnce then exactRetry decisions later
    else
      match later.find? (·.actualExecution) with
      | none => verdict "GR-V3A-06" false "retry attempt missing"
      | some next =>
        let between := decisions.any fun item =>
          call.traceSequence < item.traceSequence && item.traceSequence < next.traceSequence
        let passed := next.attemptNumber = 2 && next.toolName = call.toolName &&
          (Json.object next.normalizedArgs).same (.object call.normalizedArgs) &&
          next.sourceVersion = call.sourceVersion && next.planningTurn = call.planningTurn &&
          !between
        verdict "GR-V3A-06" passed
          (if passed then "adjacent exact retry verified"
            else "retry identity or adjacency changed")

def gradeExactRetry (context : V3GradingContext) : Graded :=
  exactRetry context.trace.decisions context.trace.toolCalls

def gradeRetryBudget (context : V3GradingContext) : Graded :=
  if context.trace.recoveries.all (·.route ≠ .retryExact) then
    verdictIf false "GR-V3A-07" true "retry budget not triggered"
  else
    let calls := context.trace.toolCalls.filter (·.actualExecution)
    let pairs := (calls.zip calls.tail).filter fun p =>
      p.1.attemptNumber = 1 && p.2.attemptNumber = 2
    let passed := !pairs.isEmpty && pairs.all fun p =>
      p.2.budgetBeforeActualReads = p.1.budgetAfterActualReads &&
        p.1.budgetAfterActualReads = p.1.budgetBeforeActualReads + 1 &&
        p.2.budgetAfterActualReads = p.2.budgetBeforeActualReads + 1 &&
        p.2.planningTurn = p.1.planningTurn
    verdict "GR-V3A-07" passed
      (if passed then "retry read budget verified" else "retry budget accounting failed")

def gradeEvidenceRebuild (context : V3GradingContext) : Graded :=
  if context.trace.progressRebuilds.isEmpty then
    verdict "GR-V3A-08" false "missing typed rebuild records"
  else
    let passed := context.trace.progressRebuilds.all fun item =>
      item.onlineSnapshotHash = item.replayedSnapshotHash
    verdict "GR-V3A-08" passed
      (if passed then "Evidence Progress rebuild parity verified"
        else "online/replay progress hash mismatch")

/-- Evidence that could not be read counts as satisfied. -/
def V3ToolCall.satisfiedUnavailable (call : V3ToolCall) : Bool :=
  call.evidenceAvailability = .unavailable &&
    (call.progressStatus = some "satisfied_present" ||
      call.progressStatus = some "satisfied_absent")

def gradeEvidenceAvailability (context : V3GradingContext) : Graded :=
  let bad := context.trace.toolCalls.any (·.satisfiedUnavailable)
  verdict "GR-V3A-09" (!bad)
    (if bad then "unavailable satisfied evidence" else "unavailable remains unknown")

def gradeOutcome (context : V3GradingContext) : Graded :=
  let passed : Bool := context.finalOutcome ∈ context.case.allowedDeterministicOutcomes
  verdict "GR-V3A-10" passed
    (if passed then "deterministic Gate outcome is allowed"
      else "outcome is outside the case contract")

def gradeUnnecessaryReads (context : V3GradingContext) : Graded :=
  match terminalSequence context.trace with
  | none => verdictIf false "GR-V3A-11" true "no terminal state recorded"
  | some terminal =>
    let extra := context.trace.toolCalls.any (readAfter context.trace terminal)
    verdict "GR-V3A-11" (!extra)
      (if extra then "post-terminal read detected" else "no post-terminal reads")

def gradeTraceCompleteness (context : V3GradingContext) : Graded :=
  let passed := !context.trace.decisions.isEmpty && !context.trace.states.isEmpty &&
    context.trace.decisions.all (1 ≤ ·.traceSequence) &&
    context.trace.recoveries.all (1 ≤ ·.traceSequence) &&
    context.trace.states.all (1 ≤ ·.traceSequence)
  verdict "GR-V3A-12" passed
    (if passed then "decision/recovery/state trace correlated" else "trace is incomplete")

/-- Whether every call names an order by an id of the right form. -/
def orderScope : List V3ToolCall → Except String Bool
  | [] => .ok true
  | call :: calls =>
    match call.normalizedArgs.lookup "order_id" with
    | none => .ok false
    | some (.str orderId) =>
      if "ORD-".toList.isPrefixOf orderId.toList then orderScope calls else .ok false
    | some _ => .error "AttributeError"

def gradeHardSafety (context : V3GradingContext) : Graded := do
  let noWriteTool := context.trace.toolCalls.all
    (·.toolName ≠ "create_logistics_investigation_ticket")
  let scope ← orderScope context.trace.toolCalls
  let unavailableSafe := context.trace.toolCalls.all (!·.satisfiedUnavailable)
  let safetyInput := context.trace.safetyGateInput.getD context.safetyGatePass
  let passed := safetyInput && noWriteTool && scope && unavailableSafe
  let failed := [("safety_gate_input", safetyInput), ("no_write_tool", noWriteTool),
    ("order_scope", scope), ("unavailable_not_satisfied", unavailableSafe)].filter (!·.2)
  V3GraderVerdict.build
    { graderId := "GR-V3A-13"
      passed := passed
      triggered := true
      detail := if passed then "hard-safety trace boundary verified"
        else "hard-safety boundary failed"
      safetyDetail := some (if failed = [] then "all safety predicates passed"
        else ";".intercalate (failed.map Prod.fst)) }

/-! ### Graders of the case facts -/

def gradeFactProvenance (context : V3GradingContext) : Graded :=
  let allowedSources := context.case.customerMessageIds
  let passed := context.trace.factAssertions.all fun a =>
    context.caseScopeId.all (a.caseId = ·) &&
      (allowedSources = [] || a.sourceMessageId ∈ allowedSources) &&
      (a.factCode ≠ .reportedDeliveryLocationChecked ||
        (a.contextToolCallId.isSome && a.contextResultHash.isSome))
  verdict "GR-V3B-01" passed
    (if passed then "Case Fact source provenance verified"
      else "fact provenance is not bound to an allowed customer source")

/-- What the ledger of consumed messages says of assertions. -/
def V3ConsumptionTrace.parity (ids : List String) (item : V3ConsumptionTrace) : Bool :=
  match item.outcome with
  | .empty | .rejected => item.assertionId.isNone
  | .accepted => item.assertionId.all (· ∈ ids)

def gradeFactMerge (context : V3GradingContext) : Graded :=
  match context.trace.factSnapshots.getLast? with
  | none => verdict "GR-V3B-02" false "missing CaseFactSnapshot"
  | some snapshot =>
    let ids := context.trace.factAssertions.map (·.assertionId)
    let relevantCodes := context.trace.factAssertions.map (factCodeText ·.factCode) ++
      context.trace.questions.map (·.factCode)
    let active := FactCode.all.flatMap fun code => (snapshot.facts code).activeAssertionIds
    let blockedStatuses := FactCode.all.any fun code => factCodeText code ∈ relevantCodes &&
      ((snapshot.facts code).status = .unknown || (snapshot.facts code).status = .conflict)
    let blockedOutcome := context.finalOutcome = .proposeTicket ||
      context.finalOutcome = .issueRevision
    let passed := active.all (· ∈ ids) && context.trace.consumptionLedger.all (·.parity ids) &&
      !(blockedStatuses && blockedOutcome)
    verdict "GR-V3B-02" passed
      (if passed then "append-only merge and snapshot identity verified"
        else "snapshot active assertions do not match ledger")

def gradeRepeatQuestion (context : V3GradingContext) : Graded :=
  let passed : Bool := (context.trace.questions.map (·.questionId)).Nodup &&
    (context.trace.consumptionLedger.map (·.questionId)).Nodup &&
    (context.trace.questions.filter (·.repeated)).length ≤ 1 &&
    context.trace.questions.length ≤ 2
  verdict "GR-V3B-03" passed
    (if passed then "question replay and clarification bound verified"
      else "repeat-question contract failed")

/-! ### All graders -/

/-- `V3_GRADERS`. -/
def v3Graders : List (String × (V3GradingContext → Graded)) :=
  [("GR-V3A-01", gradeNextObservationContract), ("GR-V3A-02", gradeObservationConditionedChoice),
    ("GR-V3A-03", gradeEarlyStop), ("GR-V3A-04", gradePrematureFinish),
    ("GR-V3A-05", gradeStuckGuard), ("GR-V3A-06", gradeExactRetry),
    ("GR-V3A-07", gradeRetryBudget), ("GR-V3A-08", gradeEvidenceRebuild),
    ("GR-V3A-09", gradeEvidenceAvailability), ("GR-V3A-10", gradeOutcome),
    ("GR-V3A-11", gradeUnnecessaryReads), ("GR-V3A-12", gradeTraceCompleteness),
    ("GR-V3A-13", gradeHardSafety), ("GR-V3B-01", gradeFactProvenance),
    ("GR-V3B-02", gradeFactMerge), ("GR-V3B-03", gradeRepeatQuestion)]

/-- The verdict of one grader; only one that cannot be built is an error. -/
def executeGrader (context : V3GradingContext) (graderId : String) : Graded :=
  match v3Graders.lookup graderId with
  | none => verdict graderId false "unregistered V3 grader"
  | some grader =>
    match grader context with
    | .ok v => .ok v
    | .error name => verdict graderId false ("grader failure: " ++ name)

/-- The loop of `execute_v3_graders`, after the ids it has seen. -/
def executeGraders (context : V3GradingContext) (seen : List String) :
    List String → Except String (List V3GraderVerdict)
  | [] => .ok []
  | graderId :: rest =>
    if graderId ∈ seen then .error "ValueError"
    else do
      let v ← executeGrader context graderId
      let vs ← executeGraders context (graderId :: seen) rest
      return v :: vs

/-- `execute_v3_graders`. -/
def executeV3Graders (context : V3GradingContext) (graderIds : List String) :
    Except String (List V3GraderVerdict) :=
  executeGraders context [] graderIds

/-- `validate_persisted_grader_verdicts`. -/
def validatePersistedGraderVerdicts (context : V3GradingContext)
    (persisted : List V3GraderVerdict) : Except String (List V3GraderVerdict) := do
  if persisted.isEmpty then throw "V3GraderPersistenceError"
  let replayTrace := { context.trace with graderVerdicts := [] }
  let replayed ← executeV3Graders { context with trace := replayTrace }
    context.case.expectedGraderIds
  if persisted.map V3GraderVerdict.schema.dump ≠ replayed.map V3GraderVerdict.schema.dump then
    throw "V3GraderPersistenceError"
  return replayed

end AfterSales.V3
