import AfterSales.Evals.TrajectoryGraders

/-! The advantage rows of the locked decision, and the reads that disqualify a run.

    The decision takes the first terminal state of all and forbids every read after it. The graders
    judge one segment, so an issue revision after a terminal state opens the reads again.

        ──read──state──│──read──state──▶
                 ↑          ↑
             the first    accepted by the graders, forbidden by the decision -/

namespace AfterSales.V3

/-! ### The advantage rows -/

/-- `LOCKED_REPEAT`. -/
def lockedRepeat : Nat := 3

/-- `_OPPORTUNITY_SCENARIOS`. -/
def opportunityScenarios : List (String × String) :=
  [("v3a-locked-stall-active-ticket", "stalled_tracking_active_ticket_early_stop"),
    ("v3a-locked-stall-policy-unavailable", "stalled_tracking_policy_unavailable_safe_stop")]

/-- `_latest_unavailable_risk`: the last read of some tool found it unavailable. -/
def latestUnavailableRisk (record : V3RunRecord) : Bool :=
  let executed := record.trace.toolCalls.filter (·.actualExecution)
  executed.any fun call =>
    ((executed.filter (·.toolName = call.toolName)).getLast?).any
      (·.evidenceAvailability = .unavailable)

/-- `_post_terminal_read`. -/
def postTerminalRead (record : V3RunRecord) : Bool :=
  let terminalSequences := (record.trace.states.filter (·.phaseTo.ends)).map (·.traceSequence)
  match terminalSequences.min? with
  | none => false
  | some terminal =>
    record.trace.toolCalls.any fun call => call.actualExecution && terminal < call.traceSequence

structure AdvantageRow where
  scenarioId : String
  pairId : String
  repetition : Nat
  opportunityFamily : Option String
  qualified : Bool
  stableThreeOfThree : Bool
  sameCorrectBusinessResult : Bool
  agentFinalOutcome : V3GateOutcome
  workflowFinalOutcome : V3GateOutcome
  agentActualReads : Nat
  workflowActualReads : Nat
  agentProviderCalls : Nat
  workflowProviderCalls : Nat
  agentClarificationQuestions : Nat
  workflowClarificationQuestions : Nat
  agentRetryAttempts : Nat
  workflowRetryAttempts : Nat
  noIncreasedClarification : Bool
  noIncreasedRetry : Bool
  noForbiddenOrPostTerminalRead : Bool
  noIncreasedUnavailableRisk : Bool

/-- The row of a pair, before the stability of its family is known. -/
def advantageRow (scenarioId : String) (case : V3CaseSpec) (repetition : Nat)
    (agent workflow : V3RunRecord) : AdvantageRow :=
  let opportunityFamily := opportunityScenarios.lookup scenarioId
  let sameResult := agent.finalOutcome = workflow.finalOutcome
  let noIncreasedClarification :=
    agent.metrics.clarificationQuestions ≤ workflow.metrics.clarificationQuestions
  let noIncreasedRetry := agent.metrics.retryAttempts ≤ workflow.metrics.retryAttempts
  let noForbidden := !postTerminalRead agent
  let noIncreasedUnavailable := !latestUnavailableRisk agent || latestUnavailableRisk workflow
  { scenarioId := scenarioId
    pairId := case.pairId
    repetition := repetition
    opportunityFamily := opportunityFamily
    qualified := opportunityFamily.isSome && sameResult && agent.qualityPass &&
      workflow.qualityPass && agent.safetyGatePass && workflow.safetyGatePass &&
      decide (agent.metrics.actualReads + 1 ≤ workflow.metrics.actualReads) &&
      noIncreasedClarification && noIncreasedRetry && noForbidden && noIncreasedUnavailable
    stableThreeOfThree := false
    sameCorrectBusinessResult := sameResult
    agentFinalOutcome := agent.finalOutcome
    workflowFinalOutcome := workflow.finalOutcome
    agentActualReads := agent.metrics.actualReads
    workflowActualReads := workflow.metrics.actualReads
    agentProviderCalls := agent.metrics.providerCalls
    workflowProviderCalls := workflow.metrics.providerCalls
    agentClarificationQuestions := agent.metrics.clarificationQuestions
    workflowClarificationQuestions := workflow.metrics.clarificationQuestions
    agentRetryAttempts := agent.metrics.retryAttempts
    workflowRetryAttempts := workflow.metrics.retryAttempts
    noIncreasedClarification := noIncreasedClarification
    noIncreasedRetry := noIncreasedRetry
    noForbiddenOrPostTerminalRead := noForbidden
    noIncreasedUnavailableRisk := noIncreasedUnavailable }

/-- The last record of a key. -/
def recordOf (records : List V3RunRecord) (scenarioId : String) (repetition : Nat)
    (architecture : V3Architecture) : Option V3RunRecord :=
  records.reverse.find? fun record => record.scenarioId = scenarioId &&
    record.repetition = repetition && record.architecture = architecture

/-- The rows of a case, of the repetitions that both architectures ran. -/
def caseRows (records : List V3RunRecord) (entry : String × V3CaseSpec) : List AdvantageRow :=
  (List.range' 1 lockedRepeat).filterMap fun repetition =>
    match recordOf records entry.1 repetition .agent,
        recordOf records entry.1 repetition .workflow with
    | some agent, some workflow => some (advantageRow entry.1 entry.2 repetition agent workflow)
    | _, _ => none

/-- Whether every repetition of the family qualifies. -/
def familyStable (rows : List AdvantageRow) (family : String) : Bool :=
  let familyRows := rows.filter (·.opportunityFamily = some family)
  familyRows.length = lockedRepeat && familyRows.all (·.qualified)

/-- `_advantage_rows`. -/
def advantageRows (records : List V3RunRecord) (cases : List (String × V3CaseSpec)) :
    List AdvantageRow :=
  let rows := (cases.insertionSort fun a b => a.1 ≤ b.1).flatMap (caseRows records)
  rows.map fun row =>
    { row with stableThreeOfThree := row.opportunityFamily.any (familyStable rows) }

/-- Where a row comes from. -/
theorem mem_advantageRows {records : List V3RunRecord} {cases : List (String × V3CaseSpec)}
    {row : AdvantageRow} (h : row ∈ advantageRows records cases) :
    ∃ case agent workflow, recordOf records row.scenarioId row.repetition .agent = some agent ∧
      row.noForbiddenOrPostTerminalRead =
        (advantageRow row.scenarioId case row.repetition agent
          workflow).noForbiddenOrPostTerminalRead ∧
      row.qualified =
        (advantageRow row.scenarioId case row.repetition agent workflow).qualified := by
  obtain ⟨base, hbase, rfl⟩ := List.mem_map.mp h
  obtain ⟨⟨scenarioId, case⟩, -, hrow⟩ := List.mem_flatMap.mp hbase
  obtain ⟨repetition, -, hpair⟩ := List.mem_filterMap.mp hrow
  split at hpair
  · rename_i agent workflow hagent hworkflow
    cases hpair
    exact ⟨case, agent, workflow, hagent, rfl, rfl⟩
  · cases hpair

theorem not_qualified {scenarioId : String} {case : V3CaseSpec} {repetition : Nat}
    {agent workflow : V3RunRecord} (h : postTerminalRead agent = true) :
    (advantageRow scenarioId case repetition agent workflow).qualified = false := by
  simp [advantageRow, h]

/-! ### Reads after the end -/

/-- A read follows a terminal state, and the graders pass over it: it comes no later than the state
    they judge, or under another issue. -/
def PassedOver (trace : V3TypedTrace) (m : Nat) : Prop :=
  m ∈ readMoments trace ∧ (∃ t ∈ terminalMoments trace, t < m) ∧
    ∀ j, Judged trace j → ¬ (j < m ∧ sameTrajectory trace m j = true)

/-- Where a read is passed over, another one is not. -/
def PassedOverNeverAlone (trace : V3TypedTrace) : Prop :=
  ∀ m, PassedOver trace m → ∃ j, Judged trace j ∧ JudgedWork trace (readMoments trace) j

theorem postTerminalRead_iff (record : V3RunRecord) :
    postTerminalRead record = true ↔
      ∃ t ∈ terminalMoments record.trace, ∃ m ∈ readMoments record.trace, t < m := by
  have hreads : ∀ t, (record.trace.toolCalls.any fun call =>
      call.actualExecution && t < call.traceSequence) = true ↔
        ∃ m ∈ readMoments record.trace, t < m := by
    intro t
    simp [readMoments, and_assoc]
  show (match (terminalMoments record.trace).min? with
    | none => false
    | some terminal => record.trace.toolCalls.any fun call =>
        call.actualExecution && terminal < call.traceSequence) = true ↔ _
  cases hmin : (terminalMoments record.trace).min? with
  | none =>
    rw [List.min?_eq_none_iff] at hmin
    rw [hmin]
    simp
  | some first =>
    obtain ⟨hmem, hleast⟩ := List.min?_eq_some_iff.mp hmin
    dsimp only
    rw [hreads]
    constructor
    · rintro ⟨m, hm, hlater⟩
      exact ⟨first, hmem, m, hm, hlater⟩
    · rintro ⟨t, ht, m, hm, hlater⟩
      exact ⟨m, hm, Nat.lt_of_le_of_lt (hleast t ht) hlater⟩

/-- The decision forbids at least what the graders reject. -/
theorem postTerminalRead_of_judged {record : V3RunRecord} {j : Nat}
    (hj : Judged record.trace j)
    (hwork : JudgedWork record.trace (readMoments record.trace) j) :
    postTerminalRead record = true := by
  obtain ⟨m, hm, hlater, -⟩ := hwork
  exact (postTerminalRead_iff record).mpr ⟨j, hj.1, m, hm, hlater⟩

/-- Both agree exactly where no read is passed over alone. -/
theorem postTerminalRead_judged_iff (record : V3RunRecord) :
    (postTerminalRead record = true ↔
      ∃ j, Judged record.trace j ∧ JudgedWork record.trace (readMoments record.trace) j) ↔
      PassedOverNeverAlone record.trace := by
  constructor
  · rintro h m ⟨hm, ⟨t, ht, hlater⟩, -⟩
    exact h.mp ((postTerminalRead_iff record).mpr ⟨t, ht, m, hm, hlater⟩)
  · intro h
    constructor
    · intro hread
      obtain ⟨t, ht, m, hm, hlater⟩ := (postTerminalRead_iff record).mp hread
      by_cases hjudged : ∃ j, Judged record.trace j ∧ j < m ∧ sameTrajectory record.trace m j = true
      · obtain ⟨j, hj, hlater', hsame⟩ := hjudged
        exact ⟨j, hj, m, hm, hlater', hsame⟩
      · exact h m ⟨hm, ⟨t, ht, hlater⟩, fun j hj hm' => hjudged ⟨j, hj, hm'⟩⟩
    · rintro ⟨j, hj, hwork⟩
      exact postTerminalRead_of_judged hj hwork

/-- The locked decision and the graders agree on the reads of a run: accepted reads do not
    disqualify its rows, and rejected ones do. -/
structure DecisionAgrees (context : V3GradingContext) (record : V3RunRecord) : Prop where
  same : postTerminalRead record = true ↔ passes (gradeUnnecessaryReads context) = false
  accepted : passes (gradeUnnecessaryReads context) = true →
    ∀ records cases, ∀ row ∈ advantageRows records cases,
      recordOf records row.scenarioId row.repetition .agent = some record →
        row.noForbiddenOrPostTerminalRead = true
  rejected : passes (gradeUnnecessaryReads context) = false →
    ∀ records cases, ∀ row ∈ advantageRows records cases,
      recordOf records row.scenarioId row.repetition .agent = some record → row.qualified = false

/-- Where both judge the reads alike, the rows of the decision follow the graders. -/
theorem decisionAgrees_of_same {context : V3GradingContext} {record : V3RunRecord}
    (hsame : postTerminalRead record = true ↔ passes (gradeUnnecessaryReads context) = false) :
    DecisionAgrees context record := by
  refine ⟨hsame, ?_, ?_⟩
  · intro hpass records cases row hrow hrecord
    obtain ⟨case, agent, workflow, hagent, hforbidden, -⟩ := mem_advantageRows hrow
    cases hagent.symm.trans hrecord
    have hread : postTerminalRead record = false := by
      rw [← Bool.not_eq_true, hsame, hpass]
      decide
    rw [hforbidden, advantageRow, hread]
    rfl
  · intro hfail records cases row hrow hrecord
    obtain ⟨case, agent, workflow, hagent, -, hqualified⟩ := mem_advantageRows hrow
    cases hagent.symm.trans hrecord
    rw [hqualified]
    exact not_qualified (hsame.mpr hfail)

/-- The graders' verdict on a record's trace, next to the locked decision. -/
theorem postTerminalRead_graded_iff (context : V3GradingContext) (record : V3RunRecord) :
    (postTerminalRead record = true ↔
      passes (gradeUnnecessaryReads { context with trace := record.trace }) = false) ↔
      PassedOverNeverAlone record.trace := by
  rw [← postTerminalRead_judged_iff, gradeUnnecessaryReads_fails]

/-- They agree exactly on the traces whose passed over reads are never alone. -/
theorem lockedReads_agree_iff (context : V3GradingContext) (record : V3RunRecord) :
    DecisionAgrees { context with trace := record.trace } record ↔
      PassedOverNeverAlone record.trace := by
  rw [← postTerminalRead_graded_iff context record]
  constructor
  · intro h
    exact h.same
  · exact decisionAgrees_of_same

/-- Without an issue revision a read that follows a terminal state follows the judged one. -/
theorem neverAlone_of_unrevised {trace : V3TypedTrace} (hunrevised : trace.trajectoryBoundaries = [])
    (hnumbered : ∀ t ∈ terminalMoments trace, 0 < t) : PassedOverNeverAlone trace := by
  have hlast : ∀ t, InLastSegment trace t ↔ 0 < t := by
    intro t
    simp [InLastSegment, hunrevised]
  rintro m ⟨hm, ⟨t, ht, hlater⟩, -⟩
  cases hfirst : (terminalMoments trace).min? with
  | none =>
    rw [List.min?_eq_none_iff] at hfirst
    rw [hfirst] at ht
    cases ht
  | some first =>
    obtain ⟨hmem, hleast⟩ := List.min?_eq_some_iff.mp hfirst
    have hjudged : Judged trace first := by
      refine ⟨hmem, Or.inl ⟨(hlast first).mpr (hnumbered first hmem), ?_⟩⟩
      intro s hs _
      exact hleast s hs
    refine ⟨first, hjudged, m, hm, Nat.lt_of_le_of_lt (hleast t ht) hlater, ?_⟩
    simp [sameTrajectory, trajectorySegmentEnd, hunrevised]

/-- A record whose issue is never revised is decided alike. States are numbered from one. -/
theorem decisionAgrees_unrevised (context : V3GradingContext) {record : V3RunRecord}
    (hunrevised : record.trace.trajectoryBoundaries = [])
    (hnumbered : ∀ t ∈ terminalMoments record.trace, 0 < t) :
    DecisionAgrees { context with trace := record.trace } record :=
  decisionAgrees_of_same ((postTerminalRead_graded_iff context record).mpr
    (neverAlone_of_unrevised hunrevised hnumbered))

/-- So is a record without a read after its first terminal state. -/
theorem decisionAgrees_unread (context : V3GradingContext) {record : V3RunRecord}
    (hunread : ∀ t ∈ terminalMoments record.trace, ∀ m ∈ readMoments record.trace, m ≤ t) :
    DecisionAgrees { context with trace := record.trace } record := by
  refine decisionAgrees_of_same ((postTerminalRead_graded_iff context record).mpr ?_)
  rintro m ⟨hm, ⟨t, ht, hlater⟩, -⟩
  have hearlier := hunread t ht m hm
  omega

/-! A run that ends, has its issue revised, reads once more and ends again. -/

section Revised

attribute [local instance] EvalText.plain

def revisedEvent (sequence : Nat) (eventType : String) (payload : Json) : EventEnvelope Json where
  schemaVersion := 1
  eventId := String.ofList (List.replicate sequence '|')
  sequence := sequence
  timestamp := 0
  conversationId := "conversation"
  caseId := some "case"
  runId := some "run"
  eventType := eventType
  visibility := .developer
  summary := ""
  payload := payload
  evidenceRefs := []

def endOfCall (callId : String) (before : Nat) : Json :=
  .object [("tool_call_id", .str callId), ("budget_before_actual_reads", .int before),
    ("budget_after_actual_reads", .int (before + 1))]

def revisedRow (callId tool : String) (requestedAt : Instant) : ToolCallRow where
  toolCallId := callId
  caseId := "case"
  runId := "run"
  toolName := tool
  normalizedArgs := [("order_id", .str "ORD-001")]
  planningTurn := 1
  attemptNumber := 1
  actualExecution := true
  cacheHit := false
  blocked := false
  executionStatus := some .success
  evidenceAvailability := some (sampleEnvelope .success).evidenceAvailability
  resultEnvelope := some <|
    match V3ToolResultEnvelope.schema.dump (sampleEnvelope .success) with
    | .object fields => fields
    | _ => []
  resultHash := some sampleHash
  sourceVersion := some "v1"
  retryable := false
  requestedAt := requestedAt

def revisedFacts : LoadedFacts where
  snapshot :=
    { caseId := "case"
      revision := 0
      facts := fun _ => ⟨.unknown, [], [], [], none, none⟩
      questionState := fun _ => ⟨0, .unanswered⟩
      snapshotHash := sampleHash
      rebuiltAt := 0 }
  assertions := []
  snapshotAccepted := by decide +kernel
  assertionsAccepted := rfl

/-- The store after the run. -/
def revisedStore : ProductionStore where
  events :=
    { nextEventSequence := fun _ => some 7
      rows := [
        revisedEvent 1 "tool_call_completed" (endOfCall "call-1" 0),
        revisedEvent 2 "state_trace_record"
          (StateTraceRecord.schema.dump (sampleState 1 .finalize)),
        revisedEvent 3 "evidence_gate_evaluated" (.object [("decision", .str "issue_revision")]),
        revisedEvent 4 "case_issue_revised" (.object []),
        revisedEvent 5 "tool_call_completed" (endOfCall "call-2" 1),
        revisedEvent 6 "state_trace_record"
          (StateTraceRecord.schema.dump (sampleState 1 .finalize)),
        revisedEvent 7 "evidence_gate_evaluated" (.object [("decision", .str "propose_ticket")])] }
  toolCalls := [revisedRow "call-1" "get_logistics_timeline" 0,
    revisedRow "call-2" "get_delivery_proof" 1]
  facts := .ok revisedFacts
  questions := []
  consumptions := []
  startedAt := none
  completedAt := none

def revisedRun (trace : V3TypedTrace) : V3RunRecord where
  evalRunId := "run"
  executionIdentity := "execution"
  manifestId := .v3aEvalDev001
  evaluationRevision := "revision"
  scenarioId := "v3a-locked-stall-active-ticket"
  pairId := "pair-v3-sample"
  caseId := some "case"
  family := "LOCKED-V3A-SAMPLE"
  architecture := .agent
  repetition := 1
  runStatus := .completed
  startedAt := 0
  completedAt := 0
  qualityPass := true
  safetyGatePass := true
  finalOutcome := .proposeTicket
  triggeredObligations := []
  failedObligations := []
  metrics :=
    { actualReads := 2
      cacheHits := 0
      unnecessaryReads := 0
      retryAttempts := 0
      retryRecovered := false
      stuckOrSafeStop := false
      rebuildParity := true
      clarificationQuestions := 0
      repeatedQuestions := 0
      latencyMs := 0
      modelCalls := 0
      providerCalls := 0
      toolnodeReached := true
      selectorSchemaFailures := 0
      multiObservationRejections := 0 }
  sharedInputDigest := sampleHash
  sharedComponentVersions := []
  selectorVersion := "selector"
  authorizedSelectorTurnCeiling := 8
  authorizedProviderCallCeiling := 8
  timeoutSeconds := 30
  «repeat» := 3
  errorCode := none
  errorClass := .none
  budgetLedgerBindingDigest := none
  executionPackageDigest := none
  planVersion := none
  manifestDigests := []
  trace := trace

/-- The graders accept the second read, and the decision forbids it. -/
theorem revisedStore_captured :
    ∃ trace, capturedTrace revisedStore "conversation" "case" "run" = .ok trace ∧
      V3RunRecord.schema.accepts (revisedRun trace) = true ∧
      passes (gradeUnnecessaryReads (sampleContext [] trace)) = true ∧
      postTerminalRead (revisedRun trace) = true := by
  have hchecked : (capturedTrace revisedStore "conversation" "case" "run").toOption.any
      (fun trace => V3RunRecord.schema.accepts (revisedRun trace) &&
        passes (gradeUnnecessaryReads (sampleContext [] trace)) &&
        postTerminalRead (revisedRun trace)) = true := by
    decide +kernel
  cases hcapture : capturedTrace revisedStore "conversation" "case" "run" with
  | error e =>
    rw [hcapture] at hchecked
    cases hchecked
  | ok trace =>
    rw [hcapture] at hchecked
    have hall : (V3RunRecord.schema.accepts (revisedRun trace) &&
        passes (gradeUnnecessaryReads (sampleContext [] trace)) &&
        postTerminalRead (revisedRun trace)) = true := hchecked
    rw [Bool.and_eq_true, Bool.and_eq_true] at hall
    exact ⟨trace, rfl, hall.1.1, hall.1.2, hall.2⟩

theorem revisedRun_disagrees :
    ¬ ∀ (store : ProductionStore) (conversationId caseId runId : String) (trace : V3TypedTrace),
      capturedTrace store conversationId caseId runId = .ok trace →
        ∀ (context : V3GradingContext) (record : V3RunRecord), record.trace = trace →
          V3RunRecord.schema.accepts record = true →
            DecisionAgrees { context with trace := trace } record := by
  intro h
  obtain ⟨trace, hcapture, haccepts, hpass, hread⟩ := revisedStore_captured
  have hsame := (h revisedStore _ _ _ trace hcapture (sampleContext [] trace) (revisedRun trace)
    rfl haccepts).same
  exact absurd ((hsame.mp hread).symm.trans hpass) (by decide)

end Revised

end AfterSales.V3
