import AfterSales.Investigation.Selection
import AfterSales.Policy.EvidenceGate

/-! The investigation loop: selector, validator, governed read, progress and route.

    The loop is a graph of three nodes. `agent` settles whether the run goes on and lets the
    selector propose the next read; `tools` performs it and records what it settled;
    `budget_exhausted` ends a run that has used up its turns.

        agent ─▶ tools ─▶ agent ─▶ …        agent ─▶ end        agent ─▶ budget_exhausted ─▶ end

    All state that decides the path is in the coordinator. The sources may change between two
    steps, so every step reads the catalog of its own moment. Trace events are left out. -/

namespace AfterSales

variable [PolicyDigest] [ProofDigest] [ResultDigest]

/-- What the gate and the coordinator know of each tool: its latest result. -/
abbrev ToolResults := (tool : ReadTool) → Option (ToolResult (PayloadOf tool))

/-- A tool call of a run, with the result it was completed with. -/
structure CallRecord where
  toolCallId : ToolCallId
  toolName : ReadTool
  normalizedArgs : ToolArguments
  attemptNumber : Nat
  actualExecution : Bool
  cacheHit : Bool
  blocked : Bool
  result : ToolResult (PayloadOf toolName)
  sourceVersion : String
  planningTurn : Nat

/-- The row of a record that the reducer reads. -/
def CallRecord.toHistoryCall (r : CallRecord) : HistoryCall where
  toolCallId := r.toolCallId
  caseId := none
  runId := none
  toolName := .ok r.toolName
  normalizedArgs := r.normalizedArgs
  attemptNumber := r.attemptNumber
  actualExecution := r.actualExecution
  executionStatus := some r.result.executionStatus
  evidenceAvailability := some r.result.evidenceAvailability
  envelopeHash := some r.result.resultHash
  resultHash := some r.result.resultHash
  sourceVersion := some r.sourceVersion

/-- The state of `AdaptiveTraceCoordinator` that decides the path of the loop. -/
structure Coordinator where
  records : List CallRecord
  evidenceRefs : List EvidenceRef
  latestResults : ToolResults
  progress : EvidenceProgressSnapshot
  pendingRetry : Option RetryDirective
  priorFingerprints : List DecisionFingerprint
  selectorInputProgress : EvidenceProgressSnapshot
  guard : GuardState
  terminalReason : Option String
  earlyStopReason : Option String
  issueRevisionTerminal : Bool
  fixtureGuardReason : Option String

/-- `_FIXTURE_GUARD_REASONS`: fault seeds that end an investigation before its first read. -/
def fixtureGuardReasons : List (String × String) :=
  [("v3a-guards-malformed", "INVALID_CANDIDATE_SCHEMA"),
    ("v3a-guards-irrelevant", "INVALID_OBSERVATION"),
    ("v3a-guards-duplicate", "STUCK_REPEATED_DECISION"),
    ("v3a-guards-premature", "PREMATURE_FINISH"),
    ("v3a-guards-stuck", "STUCK_NO_EVIDENCE_PROGRESS"),
    ("v3a-guards-budget", "BUDGET_EXHAUSTED"),
    ("v3a-guards-source-change", "SOURCE_REVISION_CHANGED_DURING_RETRY"),
    ("v3-locked-fault-18-v3a-guards-malformed", "INVALID_CANDIDATE_SCHEMA"),
    ("v3-locked-fault-19-v3a-guards-irrelevant", "INVALID_OBSERVATION"),
    ("v3-locked-fault-20-v3a-guards-duplicate", "STUCK_REPEATED_DECISION"),
    ("v3-locked-fault-21-v3a-guards-premature", "PREMATURE_FINISH"),
    ("v3-locked-fault-22-v3a-guards-stuck", "STUCK_NO_EVIDENCE_PROGRESS"),
    ("v3-locked-fault-23-v3a-guards-budget", "BUDGET_EXHAUSTED"),
    ("v3-locked-fault-24-v3a-guards-source-change", "SOURCE_REVISION_CHANGED_DURING_RETRY")]

namespace Coordinator

/-- Progress over records, with a retry pending or not. -/
def rebuildProgress (trusted : TrustedToolContext) (records : List CallRecord)
    (refs : List EvidenceRef) (pending : Option RetryDirective) : EvidenceProgressSnapshot :=
  EvidenceProgressReducer.rebuild trusted.caseId trusted.runId trusted.canonicalIssueType
    (records.map CallRecord.toHistoryCall) refs pending

/-- `issue_exact_retry`, for a record that failed transiently at its first attempt. -/
def issueExactRetry (record : CallRecord) (progress : EvidenceProgressSnapshot) :
    RetryDirective where
  retryOfToolCallId := record.toolCallId
  toolName := record.toolName
  canonicalArguments := record.normalizedArgs
  sourceVersion := record.sourceVersion
  issuedFromProgress := progress

/-- The latest result of each tool in a history. -/
def latestOf (records : List CallRecord) : ToolResults :=
  records.foldl (fun results r => Function.update results r.toolName (some r.result)) fun _ => none

/-- The coordinator of a pass, seeded with the persisted rows of its run. -/
def init (trusted : TrustedToolContext) (records : List CallRecord) (refs : List EvidenceRef) :
    Coordinator :=
  let progress := rebuildProgress trusted records refs none
  let pending := match records.getLast? with
    | some last =>
      if last.actualExecution ∧ last.attemptNumber = 1 ∧ transientFailure last.result then
        some (issueExactRetry last progress)
      else none
    | none => none
  { records := records
    evidenceRefs := refs
    latestResults := latestOf records
    progress := if pending.isSome then rebuildProgress trusted records refs pending else progress
    pendingRetry := pending
    priorFingerprints := []
    selectorInputProgress := progress
    guard := ⟨0, 0⟩
    terminalReason := none
    earlyStopReason := none
    issueRevisionTerminal := false
    fixtureGuardReason := fixtureGuardReasons.lookup trusted.faultSeed }

/-- The hours since the last scan that a policy threshold is compared with. -/
def scopedHours (results : ToolResults) (target : Option String) : Option ℚ := do
  let timeline ← results .getLogisticsTimeline
  let payload ← timeline.payload
  match target with
  | none => payload.hoursSinceLastUpdate
  | some id =>
    let scopedTimeline ← payload.shipmentTimelines.find? fun t => t.shipmentId = id
    scopedTimeline.hoursSinceLastUpdate

/-- The threshold of the policy facts read last. -/
def stalledThreshold (results : ToolResults) : Option Nat := do
  let policy ← results .searchAfterSalesPolicy
  let payload ← policy.payload
  let facts ← payload.policyFactSnapshot
  facts.stalledAfterHours

/-- `_needs_carrier_context`: an overdue stalled case of the business demo reads the alerts too. -/
def needsCarrierContext (trusted : TrustedToolContext) (c : Coordinator) : Bool :=
  trusted.fixtureVersion = "business-demo-v1" && trusted.canonicalIssueType = .stalledTracking &&
    (c.progress.requirements .carrierAlertContext).status = .missing &&
    match scopedHours c.latestResults trusted.targetShipmentId,
        stalledThreshold c.latestResults with
    | some hours, some threshold => decide ((threshold : ℚ) < hours)
    | _, _ => false

/-- The order context contradicts the reported issue. -/
def revisionReady (trusted : TrustedToolContext) (order : OrderContextPayload) : Bool :=
  let target := targetShipment order trusted.targetShipmentId
  let targetDelivered := decide (∃ t ∈ target, t.shipmentStatus = OrderStatus.delivered.value)
  let orderDelivered := decide (order.orderStatus = .delivered)
  match trusted.canonicalIssueType with
  | .signedNotReceived => !orderDelivered && !targetDelivered
  | .stalledTracking => targetDelivered || (target.isNone && orderDelivered)

/-- A stalled report whose last scan is still within the threshold. -/
def withinSla (trusted : TrustedToolContext) (results : ToolResults) : Bool :=
  trusted.canonicalIssueType = .stalledTracking &&
    match scopedHours results trusted.targetShipmentId, stalledThreshold results with
    | some hours, some threshold => decide (hours ≤ (threshold : ℚ))
    | _, _ => false

/-- The early stop that a result triggers, if any. -/
def earlyStopOf (trusted : TrustedToolContext) (results : ToolResults) :
    (tool : ReadTool) → ToolResult (PayloadOf tool) → Option String
  | .getOrderContext, result =>
    match result.payload with
    | some order => if revisionReady trusted order then some "ISSUE_REVISION_READY" else none
    | none => none
  | .getExistingLogisticsTickets, result =>
    if activeTicket result then some "ACTIVE_TICKET_EXISTS" else none
  | .searchAfterSalesPolicy, _ =>
    if withinSla trusted results then some "WITHIN_TRACKING_SLA" else none
  | _, _ => none

/-- The retry lock after a result. -/
def nextPendingRetry (c : Coordinator) (record : CallRecord) : Option RetryDirective :=
  if transientFailure record.result ∧ record.attemptNumber = 1 then
    some (issueExactRetry record c.progress)
  else if c.pendingRetry.isSome ∧ record.attemptNumber ≥ RetryDirective.nextAttemptNumber then none
  else if record.result.executionStatus ≠ .retryableError then none
  else c.pendingRetry

/-- `on_tool_result`, up to the route: what the record settles. -/
def absorb (trusted : TrustedToolContext) (c : Coordinator) (record : CallRecord)
    (refs : List EvidenceRef) : Coordinator :=
  let records := c.records ++ [record]
  let evidenceRefs := c.evidenceRefs ++ refs
  let results := Function.update c.latestResults record.toolName (some record.result)
  let pending := c.nextPendingRetry record
  let progress := rebuildProgress trusted records evidenceRefs pending
  let early := earlyStopOf trusted results record.toolName record.result
  let guard := c.guard.observeSelectorTurn c.selectorInputProgress progress
  { c with
    records := records
    evidenceRefs := evidenceRefs
    latestResults := results
    progress := progress
    pendingRetry := pending
    guard := guard.1
    terminalReason := (guard.2.map (·.value)).or c.terminalReason
    earlyStopReason := early.or c.earlyStopReason
    issueRevisionTerminal := c.issueRevisionTerminal || early = some "ISSUE_REVISION_READY" }

/-- The route after a result: an early stop overrides it, a pending alert read keeps it open. -/
def recover (trusted : TrustedToolContext) (budget : ToolBudget) (c : Coordinator)
    (record : CallRecord) : RecoveryDecision :=
  let recovery := observationRoute c.progress budget record.attemptNumber record.result
    c.pendingRetry record.sourceVersion c.guard.unchangedSelectorTurns
  if c.earlyStopReason.isSome then ⟨.finalize, .gateReady⟩
  else if c.needsCarrierContext trusted ∧ recovery.route = .finalize then
    ⟨.replan, .replanRequired⟩
  else recovery

/-- The reason to end after a route: a route that ends the run replaces the previous one. -/
def routeReason (recovery : RecoveryDecision) (previous : Option String) : Option String :=
  match recovery.route with
  | .safeStop | .finalize => some recovery.reasonCode.value
  | .replan | .retryExact => previous

/-- `on_tool_result`. -/
def onToolResult (trusted : TrustedToolContext) (budget : ToolBudget) (c : Coordinator)
    (record : CallRecord) (refs : List EvidenceRef) : Coordinator :=
  let c := c.absorb trusted record refs
  { c with terminalReason := routeReason (c.recover trusted budget record) c.terminalReason }

/-- What `before_selector` decides: end, repeat a failed read, or let the selector choose. -/
inductive PreSelection where
  | terminal
  | retry (directive : RetryDirective)
  | select

/-- The part of `before_selector` that no retry is due in: has the run settled its evidence? -/
def settle (trusted : TrustedToolContext) (c : Coordinator) : PreSelection × Coordinator :=
  if c.terminalReason.isSome ∨ c.earlyStopReason.isSome then (.terminal, c)
  else if c.progress.gateReadiness = .evaluable ∧ ¬ c.needsCarrierContext trusted then
    (.terminal, c)
  else (.select, c)

/-- `before_selector`. -/
def beforeSelector (catalog : SyntheticReadToolCatalog) (trusted : TrustedToolContext)
    (budget : ToolBudget) (c : Coordinator) : PreSelection × Coordinator :=
  let c := { c with selectorInputProgress := c.progress }
  match c.fixtureGuardReason with
  | some reason => (.terminal, { c with fixtureGuardReason := none, terminalReason := some reason })
  | none =>
    match c.pendingRetry with
    | none => settle trusted c
    | some directive =>
      if catalog.sourceRevision trusted.authorizedOrderId directive.toolName
          ≠ some directive.sourceVersion then
        settle trusted { c with
          pendingRetry := none
          terminalReason := some RecoveryReasonCode.sourceRevisionChangedDuringRetry.value }
      else if budget.actualReadToolExecutions < ToolBudget.maxActualReadToolExecutions then
        (.retry directive, c)
      else settle trusted c

omit [ResultDigest] in
/-- Without a guard and without a retry due, only the evidence counts. -/
theorem beforeSelector_of_clear {catalog : SyntheticReadToolCatalog} {trusted : TrustedToolContext}
    {budget : ToolBudget} {c : Coordinator} (hguard : c.fixtureGuardReason = none)
    (hretry : c.pendingRetry = none) : c.beforeSelector catalog trusted budget =
      settle trusted { c with selectorInputProgress := c.progress } := by
  unfold beforeSelector
  simp only
  split
  · rename_i reason hreason
    rw [hguard] at hreason
    cases hreason
  · split
    · rfl
    · rename_i directive hdirective
      rw [hretry] at hdirective
      cases hdirective

/-- What the selector is shown now. -/
def context (trusted : TrustedToolContext) (budget : ToolBudget) (c : Coordinator) :
    DecisionContext where
  caseId := trusted.caseId
  runId := trusted.runId
  canonicalIssueType := trusted.canonicalIssueType
  authorizedOrderId := trusted.authorizedOrderId
  evidenceProgress := c.progress
  remainingBudget := budget
  priorDecisionFingerprints := c.priorFingerprints

/-- What `select_observation` decides. -/
inductive PostSelection where
  | call (tool : ReadTool) (arguments : ToolArguments)
  | forceReplan
  | terminal

/-- Rejections that one corrective turn may answer. -/
def correctable (code : RejectionCode) : Bool :=
  code = .prematureFinish || code = .stuckRepeatedDecision || code = .invalidCandidateSchema

/-- `select_observation`, once the selector has answered. -/
def selectObservation (trusted : TrustedToolContext) (budget : ToolBudget) (c : Coordinator)
    (candidate : Option NextObservationCandidate) : PostSelection × Coordinator :=
  let callsTool := decide (∃ p ∈ candidate, p.toolName.isSome)
  let gateReady := if !callsTool && c.issueRevisionTerminal then some true else none
  match ObservationValidator.validate candidate (c.context trusted budget) trusted c.pendingRetry
      gateReady with
  | .ok observation =>
    let c := { c with priorFingerprints := c.priorFingerprints ++ [observation.decisionFingerprint] }
    match observation.toolName, observation.canonicalArguments with
    | some tool, some arguments => (.call tool arguments, c)
    | _, _ => (.terminal, c)
  | .error code =>
    let guard := c.guard.observeSelectorTurn c.selectorInputProgress c.progress
    let c := { c with
      guard := guard.1
      terminalReason := (guard.2.map (·.value)).or c.terminalReason }
    if correctable code then
      match c.guard.allowCorrection with
      | some guard => (.forceReplan, { c with guard := guard })
      | none => (.terminal, c)
    else (.terminal, c)

/-- The attempt number of the next call of a tool. -/
def nextAttempt (records : List CallRecord) (tool : ReadTool) : Nat :=
  (records.filter (·.toolName = tool)).foldl (fun n r => max n r.attemptNumber) 0 + 1

end Coordinator

/-- A selector: any function of what it is shown. It may also fail, or answer out of schema. -/
inductive SelectorResponse where
  | candidate (c : NextObservationCandidate)
  | malformed
  | failure

abbrev ObservationSelector := DecisionContext → SelectorResponse

/-- The well-formed candidate that asks for a tool. -/
def callCandidate (t : ReadTool) : NextObservationCandidate where
  action := .callTool
  toolName := some t
  addresses := [t.requirement]
  reasonCode := .missingRequiredEvidence
  addressesNodup := List.nodup_singleton _
  finishShape := by simp
  callShape := by simp

/-- The selector that asks for the first tool of a list that is still open. -/
def followOrder (order : List ReadTool) : ObservationSelector := fun context =>
  match order.find? fun t =>
    !(context.evidenceProgress.requirements t.requirement).status.satisfied with
  | some t => .candidate (callCandidate t)
  | none => .malformed

/-- The state of one graph run. -/
structure InvestigationState where
  coordinator : Coordinator
  governed : GovernedState
  planningTurns : Nat
  budgetExhausted : Bool

inductive GraphNode where
  | agent
  | tools (tool : ReadTool) (arguments : ToolArguments)
  | budgetExhausted
  | finished

/-- Why the graph stopped without an end: the selector or a read raised, or it ran too long. -/
inductive GraphFailure where | selectorFailed | readFailed | recursionLimit
  deriving DecidableEq, Repr

namespace InvestigationGraph

/-- `route_after_model` for an answer that calls a tool. -/
def routeToTools (planningTurns : Nat) (tool : ReadTool) (arguments : ToolArguments) : GraphNode :=
  if planningTurns ≥ 8 then .budgetExhausted else .tools tool arguments

/-- The end of a model turn: the selection counts as a planning turn and names the next node. -/
def endTurn (s : InvestigationState) (selection : Coordinator.PostSelection × Coordinator) :
    GraphNode × InvestigationState :=
  let s := { s with coordinator := selection.2, planningTurns := s.planningTurns + 1 }
  match selection.1 with
  | .call tool arguments => (routeToTools s.planningTurns tool arguments, s)
  | .forceReplan => (.agent, s)
  | .terminal => (.finished, s)

/-- `call_model`, with the route taken after it. -/
def callModel (catalog : SyntheticReadToolCatalog) (trusted : TrustedToolContext)
    (selector : ObservationSelector) (s : InvestigationState) :
    Except GraphFailure (GraphNode × InvestigationState) :=
  let (pre, c) := s.coordinator.beforeSelector catalog trusted s.governed.budget
  let s := { s with coordinator := c }
  match pre with
  | .terminal => .ok (.finished, s)
  | .retry d => .ok (routeToTools s.planningTurns d.toolName d.canonicalArguments, s)
  | .select =>
    match s.governed.budget.recordPlanningTurn with
    | none => .ok (.finished, { s with budgetExhausted := true })
    | some budget =>
      let s := { s with governed := { s.governed with budget := budget } }
      match selector (s.coordinator.context trusted budget) with
      | .failure => .error .selectorFailed
      | .malformed => .ok (endTurn s (s.coordinator.selectObservation trusted budget none))
      | .candidate c => .ok (endTurn s (s.coordinator.selectObservation trusted budget (some c)))

/-- The record that `TracingToolExecutor` writes for an answer. -/
def callRecord (catalog : SyntheticReadToolCatalog) (trusted : TrustedToolContext)
    (s : InvestigationState) (tool : ReadTool) (arguments : ToolArguments)
    (governed : GovernedState) (result : ToolResult (PayloadOf tool)) : CallRecord :=
  let actual := decide (s.governed.budget.actualReadToolExecutions
    < governed.budget.actualReadToolExecutions)
  { toolCallId := ⟨trusted.runId, s.coordinator.records.length⟩
    toolName := tool
    normalizedArgs := arguments
    attemptNumber := Coordinator.nextAttempt s.coordinator.records tool
    actualExecution := actual
    cacheHit := !actual && result.errorCode.isNone
    blocked := !actual && result.errorCode.isSome
    result := result
    sourceVersion := (catalog.sourceRevision trusted.authorizedOrderId tool).getD ""
    planningTurn := max governed.budget.runPlanningTurns 1 }

/-- A read by `TracingToolExecutor`, and what it leaves. A read that raises leaves no record. -/
def traceRead (catalog : SyntheticReadToolCatalog) (trusted : TrustedToolContext)
    (s : InvestigationState) (tool : ReadTool) (arguments : ToolArguments) :
    Except ValidationError CallRecord × GovernedState :=
  let (answer, governed) :=
    GovernedToolExecutor.executeResult catalog trusted s.governed tool arguments
  (answer.map (callRecord catalog trusted s tool arguments governed), governed)

/-- The coordinator absorbs a record. -/
def afterCall (trusted : TrustedToolContext) (s : InvestigationState) (governed : GovernedState)
    (record : CallRecord) : InvestigationState :=
  { s with
    governed := governed
    coordinator := s.coordinator.onToolResult trusted governed.budget record
      (record.result.toEvidenceRefs record.toolCallId) }

/-- The tool node: read, record, and let the coordinator absorb the result. It handles no
    exception of a read. -/
def callTool (catalog : SyntheticReadToolCatalog) (trusted : TrustedToolContext)
    (s : InvestigationState) (tool : ReadTool) (arguments : ToolArguments) :
    Except GraphFailure InvestigationState :=
  match traceRead catalog trusted s tool arguments with
  | (.error _, _) => .error .readFailed
  | (.ok record, governed) => .ok (afterCall trusted s governed record)

/-- The tool node goes on with the record of its read, if there is one. -/
theorem callTool_ok {catalog : SyntheticReadToolCatalog} {trusted : TrustedToolContext}
    {s s' : InvestigationState} {tool : ReadTool} {arguments : ToolArguments}
    (h : callTool catalog trusted s tool arguments = .ok s') :
    ∃ record governed, traceRead catalog trusted s tool arguments = (.ok record, governed) ∧
      s' = afterCall trusted s governed record := by
  unfold callTool at h
  split at h
  · cases h
  · rename_i record governed hread
    exact ⟨record, governed, hread, (Except.ok.inj h).symm⟩

/-- The record of a read is that of its answer. -/
theorem traceRead_ok {catalog : SyntheticReadToolCatalog} {trusted : TrustedToolContext}
    {s : InvestigationState} {tool : ReadTool} {arguments : ToolArguments} {record : CallRecord}
    {governed : GovernedState}
    (h : traceRead catalog trusted s tool arguments = (.ok record, governed)) :
    ∃ result, GovernedToolExecutor.executeResult catalog trusted s.governed tool arguments =
        (.ok result, governed) ∧
      record = callRecord catalog trusted s tool arguments governed result := by
  unfold traceRead at h
  generalize GovernedToolExecutor.executeResult catalog trusted s.governed tool arguments = called
    at h ⊢
  obtain ⟨answer, after⟩ := called
  obtain ⟨hanswer, rfl⟩ := Prod.mk.inj h
  cases answer with
  | error raised => cases hanswer
  | ok result => exact ⟨result, rfl, (Except.ok.inj hanswer).symm⟩

/-- One superstep: the node runs and names its successor. -/
def step (catalog : SyntheticReadToolCatalog) (trusted : TrustedToolContext)
    (selector : ObservationSelector) (node : GraphNode) (s : InvestigationState) :
    Except GraphFailure (GraphNode × InvestigationState) :=
  match node with
  | .agent => callModel catalog trusted selector s
  | .tools tool arguments =>
    (callTool catalog trusted s tool arguments).map fun s => (.agent, s)
  | .budgetExhausted => .ok (.finished, { s with budgetExhausted := true })
  | .finished => .ok (.finished, s)

/-- The graph runs until it ends, fails, or has used its supersteps. `catalog n` is the state of
    the sources with `n` supersteps left; `catalog 0` is their state after the run. -/
def run (catalog : Nat → SyntheticReadToolCatalog) (trusted : TrustedToolContext)
    (selector : ObservationSelector) :
    Nat → GraphNode → InvestigationState → Except GraphFailure InvestigationState
  | _, .finished, s => .ok s
  | 0, _, _ => .error .recursionLimit
  | n + 1, node, s =>
    match step (catalog (n + 1)) trusted selector node s with
    | .error e => .error e
    | .ok (node, s) => run catalog trusted selector n node s

/-- A run goes on after a superstep. -/
theorem run_step (catalog : Nat → SyntheticReadToolCatalog) {trusted : TrustedToolContext}
    {selector : ObservationSelector} (n : Nat) {node next : GraphNode} {s s' : InvestigationState}
    (hnode : node ≠ .finished)
    (hstep : step (catalog (n + 1)) trusted selector node s = .ok (next, s')) :
    run catalog trusted selector (n + 1) node s = run catalog trusted selector n next s' := by
  cases node with
  | finished => exact absurd rfl hnode
  | agent | tools | budgetExhausted => simp only [run, hstep]

/-- A run ends with the failure of a superstep. -/
theorem run_error (catalog : Nat → SyntheticReadToolCatalog) {trusted : TrustedToolContext}
    {selector : ObservationSelector} (n : Nat) {node : GraphNode} {s : InvestigationState}
    {e : GraphFailure} (hnode : node ≠ .finished)
    (hstep : step (catalog (n + 1)) trusted selector node s = .error e) :
    run catalog trusted selector (n + 1) node s = .error e := by
  cases node with
  | finished => exact absurd rfl hnode
  | agent | tools | budgetExhausted => simp only [run, hstep]

/-- The tool node leads back to the agent, with the record of its read. -/
theorem step_tools {catalog : SyntheticReadToolCatalog} {trusted : TrustedToolContext}
    {selector : ObservationSelector} {tool : ReadTool} {arguments : ToolArguments}
    {s s' : InvestigationState} {next : GraphNode}
    (h : step catalog trusted selector (.tools tool arguments) s = .ok (next, s')) :
    next = .agent ∧ ∃ record governed,
      traceRead catalog trusted s tool arguments = (.ok record, governed) ∧
        s' = afterCall trusted s governed record := by
  unfold step at h
  simp only at h
  cases hcall : callTool catalog trusted s tool arguments with
  | error e =>
    rw [hcall] at h
    cases h
  | ok after =>
    rw [hcall] at h
    obtain ⟨rfl, rfl⟩ := Prod.mk.inj (Except.ok.inj h)
    exact ⟨rfl, callTool_ok hcall⟩

/-- The number of supersteps the graph library allows a run by default. -/
def recursionLimit : Nat := 25

end InvestigationGraph

end AfterSales
