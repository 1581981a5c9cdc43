import AfterSales.Events.Store
import AfterSales.Evals.Graders

/-! What a production run leaves in its store, captured as a typed trace.

    Only persisted rows and events are read. Events are numbered as the trace sees them, each read
    is joined with the event that ends it, and the graders run once on the trace. -/

namespace AfterSales.V3

variable [EvalText]

/-! ### The store of a production run -/

/-- The rows of `tool_calls`. -/
structure ToolCallRow where
  toolCallId : String
  caseId : String
  runId : String
  toolName : String
  normalizedArgs : List (String × Json)
  planningTurn : Nat
  attemptNumber : Nat
  actualExecution : Bool
  cacheHit : Bool
  blocked : Bool
  executionStatus : Option ExecutionStatus
  evidenceAvailability : Option EvidenceAvailability
  resultEnvelope : Option (List (String × Json))
  resultHash : Option String
  sourceVersion : Option String
  retryable : Bool
  requestedAt : Instant

/-- The rows of `case_fact_questions`. -/
structure QuestionRow where
  questionId : String
  caseId : String
  factCode : FactCode

/-- The rows of `case_fact_message_consumptions`. -/
structure ConsumptionRow where
  questionId : String
  sourceMessageId : String
  sourceMessageHash : String
  candidateBatchHash : String
  outcome : ConsumptionOutcome
  reasonCode : String
  assertionId : Option String
  decisionPayload : Json

/-- The case facts that the service loads; both kinds of records were checked when they were built. -/
structure LoadedFacts where
  snapshot : CaseFactSnapshot
  assertions : List CaseFactAssertion
  snapshotAccepted : CaseFactSnapshot.schema.accepts snapshot
  assertionsAccepted : CaseFactAssertion.schema.list.accepts assertions

/-- What a capture reads, of one case and one run. -/
structure ProductionStore where
  events : EventTables Json
  toolCalls : List ToolCallRow
  facts : Except String LoadedFacts
  questions : List QuestionRow
  consumptions : List ConsumptionRow
  startedAt : Option Instant
  completedAt : Option Instant

/-- The default `limit` of `list_after`. -/
def listLimit : Nat := 500

/-- The events of a case and a run, among those that `list_after` returns. -/
def ProductionStore.runEvents (store : ProductionStore) (conversationId caseId runId : String) :
    List (EventEnvelope Json) :=
  (store.events.listAfter conversationId 0 listLimit).filter fun event =>
    event.caseId = some caseId && event.runId = some runId

/-- `list_tool_calls`, of a run. -/
def ProductionStore.listToolCalls (store : ProductionStore) (runId : String) : List ToolCallRow :=
  (store.toolCalls.filter (·.runId = runId)).insertionSort fun a b =>
    a.requestedAt < b.requestedAt ∨ (a.requestedAt = b.requestedAt ∧ a.toolCallId ≤ b.toolCallId)

/-! ### Events as the trace sees them -/

/-- `_TERMINAL_TOOL_EVENTS`. -/
def terminalToolEvents : List String :=
  ["tool_call_completed", "tool_call_failed", "tool_call_cache_hit", "tool_call_blocked"]

/-- `_TRACE_EVENTS`. -/
def traceEvents : List String :=
  ["decision_trace_record", "recovery_trace_record", "state_trace_record"] ++ terminalToolEvents

/-- Each event with the number of trace events up to it. -/
def numberedFrom (sequence : Nat) :
    List (EventEnvelope Json) → List (Nat × EventEnvelope Json)
  | [] => []
  | event :: events =>
    let next := if event.eventType ∈ traceEvents then sequence + 1 else sequence
    (next, event) :: numberedFrom next events

/-- The numbered events of a type. -/
def ofType (events : List (EventEnvelope Json)) (eventType : String) :
    List (Nat × EventEnvelope Json) :=
  (numberedFrom 0 events).filter (·.2.eventType = eventType)

/-- `model_validate`. -/
def validate {α : Type} (s : Schema α) (j : Json) : Except String α :=
  match s.load j with
  | some a => .ok a
  | none => .error "ValidationError"

/-- The id of the call that an event ends, where it is a text. -/
def endedCall (event : EventEnvelope Json) : Option String :=
  match event.payload.get "tool_call_id" with
  | some (.str callId) => some callId
  | _ => none

/-- `_terminal_event_map`. -/
def terminalEventMap : List (EventEnvelope Json) →
    Except String (List (String × EventEnvelope Json))
  | [] => .ok []
  | event :: events => do
    let mapped ← terminalEventMap events
    if event.eventType ∉ terminalToolEvents then return mapped
    match endedCall event with
    | none => throw "V3ProductionTraceError"
    | some callId =>
      if callId = "" ∨ (mapped.lookup callId).isSome then throw "V3ProductionTraceError"
      return (callId, event) :: mapped

/-- The number of the event that ends a call. -/
def sequenceByCall (events : List (EventEnvelope Json)) (callId : String) : Option Nat :=
  ((numberedFrom 0 events).reverse.find? fun x =>
    x.2.eventType ∈ terminalToolEvents && endedCall x.2 = some callId).map Prod.fst

/-- `int(payload.get(name, 0))`, where it is no negative number. -/
def readCount (payload : Json) (name : String) : Except String Nat :=
  match payload.get name with
  | none => .ok 0
  | some (.int (.ofNat n)) => .ok n
  | some (.bool b) => .ok b.toNat
  | some (.float q) => if 0 ≤ q then .ok q.floor.toNat else .error "ValidationError"
  | some (.int _) => .error "ValidationError"
  | some (.str s) =>
    match s.toInt? with
    | some n => if 0 ≤ n then .ok n.toNat else .error "ValidationError"
    | none => .error "ValueError"
  | some _ => .error "TypeError"

/-- The fields of a stored result that its envelope has. -/
def envelopeFields : List String :=
  ["execution_status", "evidence_availability", "source_type", "source_query_id",
    "source_record_ids", "observed_at", "payload", "error_code", "retryable", "result_hash",
    "untrusted_fields"]

/-- One row of `_typed_tool_calls`. -/
def typedToolCall (caseId runId : String) (events : List (EventEnvelope Json))
    (terminalEvents : List (String × EventEnvelope Json)) (row : ToolCallRow) :
    Except String V3ToolCall := do
  if row.caseId ≠ caseId ∨ row.runId ≠ runId then throw "V3ProductionTraceError"
  match row.executionStatus, row.evidenceAvailability, row.resultEnvelope, row.resultHash,
      row.sourceVersion with
  | some executionStatus, some evidenceAvailability, some resultEnvelope, some resultHash,
      some sourceVersion =>
    match terminalEvents.lookup row.toolCallId with
    | none => throw "V3ProductionTraceError"
    | some terminal =>
      let envelope ← validate V3ToolResultEnvelope.schema
        (.object (resultEnvelope.filter (·.1 ∈ envelopeFields)))
      if envelope.resultHash ≠ resultHash then throw "V3ProductionTraceError"
      let refs ← terminal.evidenceRefs.mapM (validate EvidenceRef.schema)
      let before ← readCount terminal.payload "budget_before_actual_reads"
      let after ← readCount terminal.payload "budget_after_actual_reads"
      let call : V3ToolCall :=
        { toolCallId := row.toolCallId
          caseId := caseId
          runId := runId
          toolName := row.toolName
          normalizedArgs := row.normalizedArgs
          planningTurn := row.planningTurn
          attemptNumber := row.attemptNumber
          actualExecution := row.actualExecution
          cacheHit := row.cacheHit
          blocked := row.blocked
          executionStatus := executionStatus
          evidenceAvailability := evidenceAvailability
          resultEnvelope := envelope
          resultHash := resultHash
          sourceVersion := sourceVersion
          retryable := row.retryable
          traceSequence := (sequenceByCall events row.toolCallId).getD row.planningTurn
          progressStatus := none
          budgetBeforeActualReads := before
          budgetAfterActualReads := after
          evidenceRefs := refs }
      if V3ToolCall.schema.accepts call then return call else throw "ValidationError"
  | _, _, _, _, _ => throw "V3ProductionTraceError"

/-- `_typed_tool_calls`. -/
def typedToolCalls (store : ProductionStore) (caseId runId : String)
    (events : List (EventEnvelope Json)) : Except String (List V3ToolCall) := do
  let terminalEvents ← terminalEventMap events
  (store.listToolCalls runId).mapM (typedToolCall caseId runId events terminalEvents)

/-- The decisions of `_normalized_trace_sequences`. -/
def tracedDecisions (events : List (EventEnvelope Json)) :
    Except String (List DecisionTraceRecord) :=
  (ofType events "decision_trace_record").mapM fun x =>
    (validate DecisionTraceRecord.schema x.2.payload).map ({ · with traceSequence := x.1 })

/-- The recoveries of `_normalized_trace_sequences`. -/
def tracedRecoveries (events : List (EventEnvelope Json)) :
    Except String (List RecoveryTraceRecord) :=
  (ofType events "recovery_trace_record").mapM fun x =>
    (validate RecoveryTraceRecord.schema x.2.payload).map ({ · with traceSequence := x.1 })

/-- The states of `_normalized_trace_sequences`. -/
def tracedStates (events : List (EventEnvelope Json)) : Except String (List StateTraceRecord) :=
  (ofType events "state_trace_record").mapM fun x =>
    (validate StateTraceRecord.schema x.2.payload).map ({ · with traceSequence := x.1 })

/-- `_trajectory_boundaries`. -/
def trajectoryBoundaries (events : List (EventEnvelope Json)) : List Nat :=
  (ofType events "case_issue_revised").map Prod.fst

/-- `_typed_progress_rebuilds`. -/
def typedProgressRebuilds (events : List (EventEnvelope Json)) :
    Except String (List V3ProgressRebuild) :=
  (ofType events "evidence_progress_rebuilt").mapM fun x =>
    validate V3ProgressRebuild.schema x.2.payload

/-- A value that counts as true. -/
def truthy : Json → Bool
  | .null => false
  | .bool b => b
  | .int n => n ≠ 0
  | .float q => q ≠ 0
  | .str s => s ≠ ""
  | .array elements => !elements.isEmpty
  | .object fields => !fields.isEmpty

/-- `_typed_gate`, of the last gate event. -/
def typedGate (events : List (EventEnvelope Json)) (progress : List V3ProgressRebuild) :
    Except String V3GateTrace := do
  match (ofType events "evidence_gate_evaluated").getLast? with
  | none => throw "V3ProductionTraceError"
  | some (_, event) =>
    let decision ← match event.payload.get "decision" with
      | some (.str text) => validate gateOutcome (.str text)
      | _ =>
        if ((event.payload.get "revised_issue_type").map truthy).getD false then
          pure .issueRevision
        else pure .unknown
    let gate : V3GateTrace :=
      { decision := decision
        reasonCode := ((event.payload.get "reason_code").map EvalText.str).getD "UNKNOWN"
        allowed := decision ≠ .unknown
        evidenceProgressHash := (progress.getLast?.map (·.onlineSnapshotHash)).getD
          (EvalText.sha256Json (.object [])) }
    if V3GateTrace.schema.accepts gate then return gate else throw "ValidationError"

/-! ### Case facts -/

/-- A question with what became of it. -/
def questionTrace (assertions : List CaseFactAssertion) (consumptions : List ConsumptionRow)
    (row : QuestionRow) : V3QuestionTrace :=
  let consumption := consumptions.reverse.find? (·.questionId = row.questionId)
  let assertion := (consumption.bind (·.assertionId)).bind fun assertionId =>
    assertions.reverse.find? (·.assertionId = assertionId)
  { questionId := row.questionId
    caseId := row.caseId
    factCode := factCodeText row.factCode
    status :=
      match consumption with
      | none => .asked
      | some c =>
        match c.outcome with
        | .empty => .unknown
        | .rejected => .conflict
        | .accepted => if assertion.any (·.value = .unknown) then .unknown else .answered
    sourceMessageId := consumption.map (·.sourceMessageId)
    sourceMessageHash := consumption.map (·.sourceMessageHash)
    reasonCode := some ((consumption.map (·.reasonCode)).getD "QUESTION_RECORDED")
    repeated := assertion.any (·.relation = .repeated) }

def consumptionTrace (row : ConsumptionRow) : V3ConsumptionTrace where
  questionId := row.questionId
  sourceMessageId := row.sourceMessageId
  sourceMessageHash := row.sourceMessageHash
  outcome := row.outcome
  candidateBatchHash := row.candidateBatchHash
  assertionId := row.assertionId
  reasonCode := row.reasonCode
  decisionPayloadHash := EvalText.sha256Json row.decisionPayload

/-! ### The captured trace -/

/-- What is known of a run besides its record. -/
structure DevelopmentBudgetRunAccounting where
  attemptedProviderCalls : Nat
  bindingDigest : Option String

structure ProductionTraceEvidence where
  caseId : String
  trace : V3TypedTrace
  finalOutcome : V3GateOutcome
  safetyGatePass : Bool
  graderVerdicts : List V3GraderVerdict
  startedAt : Instant
  completedAt : Instant
  latencyMs : ℚ
  modelCalls : Nat
  providerCalls : Nat
  runStatus : V3RunStatus
  errorCode : Option String
  errorClass : ErrorClass
  budgetAccounting : Option DevelopmentBudgetRunAccounting
  toolnodeReached : Bool

/-- The trace that a capture makes of a store, before it is graded. -/
def capturedTrace (store : ProductionStore) (conversationId caseId runId : String) :
    Except String V3TypedTrace := do
  let events := store.runEvents conversationId caseId runId
  if events.isEmpty then throw "V3ProductionTraceError"
  let decisions ← tracedDecisions events
  let recoveries ← tracedRecoveries events
  let states ← tracedStates events
  let calls ← typedToolCalls store caseId runId events
  let rebuilds ← typedProgressRebuilds events
  let gate ← typedGate events rebuilds
  let facts ← store.facts
  let questions := store.questions.map (questionTrace facts.assertions store.consumptions)
  let consumptions := store.consumptions.map consumptionTrace
  if V3QuestionTrace.schema.list.accepts questions &&
      V3ConsumptionTrace.schema.list.accepts consumptions then
    return {
      decisions := decisions
      recoveries := recoveries
      states := states
      toolCalls := calls
      progressRebuilds := rebuilds
      gateDecisions := [gate]
      factAssertions := facts.assertions
      factSnapshots := [facts.snapshot]
      questions := questions
      consumptionLedger := consumptions
      trajectoryBoundaries := trajectoryBoundaries events
      safetyGateInput := none
      graderVerdicts := [] }
  else throw "ValidationError"

/-- No call writes, and every call reads the order it may read. -/
def safetyGate (authorizedOrderId : Option String) (calls : List V3ToolCall) : Bool :=
  calls.all (·.toolName ∈ toolNames) && calls.all fun call => authorizedOrderId.all fun orderId =>
    ((call.normalizedArgs.lookup "order_id").map EvalText.str).getD "" = orderId

/-- `capture_production_trace`. -/
def captureProductionTrace (store : ProductionStore) (case : V3CaseSpec)
    (conversationId caseId runId : String) (authorizedOrderId : Option String) :
    Except String ProductionTraceEvidence := do
  let trace ← capturedTrace store conversationId caseId runId
  let events := store.runEvents conversationId caseId runId
  let finalOutcome := ((trace.gateDecisions.head?).map (·.decision)).getD .unknown
  let safetyGatePass := safetyGate authorizedOrderId trace.toolCalls
  let trace := { trace with safetyGateInput := some safetyGatePass }
  let verdicts ← executeV3Graders
    { case := case
      trace := trace
      finalOutcome := finalOutcome
      safetyGatePass := safetyGatePass
      caseScopeId := some caseId }
    case.expectedGraderIds
  let trace := { trace with graderVerdicts := verdicts }
  let started := store.startedAt.getD ((events.head?.map (·.timestamp)).getD 0)
  let completed := store.completedAt.getD ((events.getLast?.map (·.timestamp)).getD 0)
  return {
    caseId := caseId
    trace := trace
    finalOutcome := finalOutcome
    safetyGatePass := safetyGatePass
    graderVerdicts := verdicts
    startedAt := started
    completedAt := completed
    latencyMs := max (((completed - started : ℤ) : ℚ) / 1000) 0
    modelCalls := 0
    providerCalls := 0
    runStatus := .completed
    errorCode := none
    errorClass := .none
    budgetAccounting := none
    toolnodeReached := !trace.toolCalls.isEmpty }

/-- The evidence an adapter returns: that of the capture, with the accounting of the run. -/
def ProductionTraceEvidence.accounted (e : ProductionTraceEvidence)
    (accounting : Option DevelopmentBudgetRunAccounting) : ProductionTraceEvidence :=
  { e with
    modelCalls := (accounting.map (·.attemptedProviderCalls)).getD 0
    providerCalls := (accounting.map (·.attemptedProviderCalls)).getD 0
    budgetAccounting := accounting }

end AfterSales.V3
