import AfterSales.Investigation.Coordinator

/-! One investigation: the graph run, and the gate evaluated on what it read.

    The gate of the runtime is not the pure gate alone. It first settles the cases that need no
    complete evidence: a used-up budget, no order read, an issue the order contradicts, an active
    ticket. Only then does it require every read of the issue and hand the results over. -/

namespace AfterSales

variable [PolicyDigest] [ProofDigest] [ResultDigest]

/-- The customer facts that an investigation is started with. -/
structure CustomerFlags where
  customerStillReportsMissing : Bool := true
  receptionLocationsChecked : Bool := false
  deliveryLocationConflict : Bool := false
  deriving DecidableEq, Repr

/-- What the runtime gate is told besides the results. -/
structure GateArguments where
  criticalRetryExhausted : Bool := false
  budgetExceeded : Bool := false
  flags : CustomerFlags := {}
  targetShipmentId : Option String := none
  businessDemo : Bool := false
  deriving DecidableEq, Repr

/-- The issue that an order, successfully read, shows instead of the reported one. -/
def contradictedIssue (issueType : IssueType) (order : OrderContextPayload)
    (targetShipmentId : Option String) : Option TriageIntent :=
  let target := targetShipment order targetShipmentId
  let targetDelivered := decide (∃ t ∈ target, t.shipmentStatus = "delivered")
  let orderDelivered := decide (order.orderStatus = .delivered)
  match issueType with
  | .signedNotReceived =>
    if (¬ orderDelivered ∧ ¬ targetDelivered) ∨ (target.isSome ∧ ¬ targetDelivered) then
      some (if ∀ t ∈ target, t.shipmentStatus
          ∈ [OrderStatus.shipped.value, "in_transit", "out_for_delivery", "stalled"] then
        .stalledTracking
      else .otherLogistics)
    else none
  | .stalledTracking =>
    if targetDelivered ∨ (target.isNone ∧ orderDelivered) then some .signedNotReceived else none

/-- The revision rows of `_evaluate_gate`; only a completed order read can revise. -/
def revisedByOrder (issueType : IssueType) (order : ToolResult OrderContextPayload)
    (targetShipmentId : Option String) : Option TriageIntent :=
  if order.executionStatus = .success ∧ order.evidenceAvailability ≠ .unavailable then
    order.payload.bind fun payload => contradictedIssue issueType payload targetShipmentId
  else none

/-- The explicit placeholder for a ticket read that a within-SLA path does not need. -/
def notQueriedTickets (order : ToolResult OrderContextPayload) :
    ToolResult ExistingLogisticsTicketsPayload :=
  .failed true "not-queried-stalled-sla" order.observedAt "NOT_QUERIED_NOT_REQUIRED" false
    (ResultDigest.failedHash true "NOT_QUERIED_NOT_REQUIRED" false)

/-- The ticket result the gate uses: the one read, or the placeholder of a stalled case in which
    every other required read is there. -/
def ticketResult (issueType : IssueType) (results : ToolResults)
    (order : ToolResult OrderContextPayload) : Option (ToolResult ExistingLogisticsTicketsPayload) :=
  match results .getExistingLogisticsTickets with
  | some tickets => some tickets
  | none =>
    if issueType = .stalledTracking ∧ ∀ tool ∈ requiredObservationTools issueType,
        tool ≠ .getExistingLogisticsTickets → (results tool).isSome then
      some (notQueriedTickets order)
    else none

/-- The evidence record of the pure gate, when every required read is there. -/
def gateEvidence (issueType : IssueType) (results : ToolResults) (args : GateArguments)
    (order : ToolResult OrderContextPayload) : Option GateEvidence := do
  let tickets ← ticketResult issueType results order
  let timeline ← results .getLogisticsTimeline
  let policy ← results .searchAfterSalesPolicy
  let common : CommonGateFacts :=
    { budgetExceeded := args.budgetExceeded
      criticalRetryExhausted := args.criticalRetryExhausted
      targetShipmentId := args.targetShipmentId }
  match issueType with
  | .signedNotReceived =>
    let proof ← results .getDeliveryProof
    return .signedNotReceived
      { common with
        orderContext := order
        timeline := timeline
        deliveryProof := proof
        existingTickets := tickets
        policy := policy
        customerStillReportsMissing := args.flags.customerStillReportsMissing
        receptionLocationsChecked := args.flags.receptionLocationsChecked
        deliveryLocationConflict := args.flags.deliveryLocationConflict }
  | .stalledTracking =>
    return .stalledTracking
      { common with
        orderContext := order
        timeline := timeline
        existingTickets := tickets
        policy := policy
        carrierAlerts := if args.businessDemo then results .getCarrierServiceAlerts else none }

def requiredQueryNotCompleted : EvidenceGateResult :=
  gateResult .requireHumanSupport "REQUIRED_QUERY_NOT_COMPLETED"

/-- The pure gate on a record; it never meets a record of the other issue here. -/
def evaluateComplete (issueType : IssueType) (facts : GateEvidence) : EvidenceGateResult :=
  (evaluateEvidenceGate issueType facts).getD requiredQueryNotCompleted

/-- `_evaluate_gate`. -/
def evaluateGate (issueType : IssueType) (results : ToolResults) (args : GateArguments) :
    EvidenceGateResult :=
  if args.budgetExceeded then gateResult .requireHumanSupport "INVESTIGATION_BUDGET_EXCEEDED"
  else
    match results .getOrderContext with
    | none => requiredQueryNotCompleted
    | some order =>
      match revisedByOrder issueType order args.targetShipmentId with
      | some revised =>
        ⟨.revision revised, "REPORTED_ISSUE_DOES_NOT_MATCH_ORDER_STATE",
          [("order_context", order.resultHash)]⟩
      | none =>
        -- A completed active-ticket observation is sufficient to prevent a duplicate action.
        match (results .getExistingLogisticsTickets).filter fun existing =>
            existing.executionStatus = .success ∧ activeTicket existing with
        | some existing =>
          ⟨.decision .completeNoAction, "ACTIVE_LOGISTICS_TICKET_EXISTS",
            [("existing_tickets", existing.resultHash)]⟩
        | none =>
          match gateEvidence issueType results args order with
          | none => requiredQueryNotCompleted
          | some facts => evaluateComplete issueType facts

/-- What an investigation is started with besides its context and selector. -/
structure InvestigateArguments where
  casePlanningTurns : Nat := 0
  runPlanningTurns : Nat := 0
  caseReadExecutions : Nat := 0
  investigationPass : Nat := 0
  flags : CustomerFlags := {}
  deriving DecidableEq, Repr

/-- The persisted history an investigation starts from. -/
structure InvestigationHistory where
  caseRecords : List CallRecord
  runRecords : List CallRecord
  runRefs : List EvidenceRef
  cache : CaseToolCache
  /-- The gate result that the last gate event of the run recorded. -/
  persistedGate : Option EvidenceGateResult

/-- What an investigation returns, and the rows and cache it leaves behind. -/
structure InvestigationOutput where
  gateResult : EvidenceGateResult
  evidenceRefs : List EvidenceRef
  toolResults : ToolResults
  planningTurns : Nat
  casePlanningTurns : Nat
  runReadToolExecutions : Nat
  actualReadToolExecutions : Nat
  budgetExhausted : Bool
  records : List CallRecord
  cache : CaseToolCache

/-- The counters of a pass: what the caller counted, or what the rows show if that is more. `none`
    is the `ValueError` of counters out of range. -/
def initialBudget (args : InvestigateArguments) (history : InvestigationHistory) :
    Option ToolBudget :=
  let reads := max args.caseReadExecutions (history.caseRecords.filter (·.actualExecution)).length
  let caseTurns := (history.caseRecords.map (·.planningTurn)).foldl max args.casePlanningTurns
  let runTurns := (history.runRecords.map (·.planningTurn)).foldl max args.runPlanningTurns
  if h : caseTurns ≤ 16 ∧ runTurns ≤ 8 ∧ reads ≤ 6 then
    some ⟨caseTurns, runTurns, reads, h.1, h.2.1, h.2.2⟩
  else none

/-- The arguments of the last call of a tool, `arguments_by_tool`. -/
def argumentsByTool (records : List CallRecord) (tool : ReadTool) : Option ToolArguments :=
  (records.filter (·.toolName = tool)).getLast?.map (·.normalizedArgs)

/-- Some result is a transient failure whose exact query has used up its retry. -/
def criticalRetryExhausted (catalog : SyntheticReadToolCatalog) (trusted : TrustedToolContext)
    (s : InvestigationState) : Bool :=
  decide (∃ code : EvidenceRequirementCode, ∃ result ∈ s.coordinator.latestResults code.tool,
    transientFailure result ∧ ∃ arguments ∈ argumentsByTool s.coordinator.records code.tool,
      GovernedToolExecutor.retryExhaustedFor catalog trusted s.governed code.tool arguments)

/-- What the gate is told about the finished graph run. -/
def gateArguments (catalog : SyntheticReadToolCatalog) (trusted : TrustedToolContext)
    (flags : CustomerFlags) (s : InvestigationState) : GateArguments :=
  let exhausted := criticalRetryExhausted catalog trusted s
  let reached := decide (s.governed.budget.actualReadToolExecutions
    ≥ ToolBudget.maxActualReadToolExecutions)
  { criticalRetryExhausted := exhausted
    budgetExceeded := s.budgetExhausted || (reached && !exhausted &&
      s.coordinator.progress.gateReadiness != .evaluable)
    flags := flags
    targetShipmentId := trusted.targetShipmentId
    businessDemo := trusted.fixtureVersion = "business-demo-v1" }

inductive InvestigationFailure where
  | invalidCounters
  | graph (e : GraphFailure)
  deriving DecidableEq, Repr

/-- The state a graph run starts in. -/
def initialState (trusted : TrustedToolContext) (history : InvestigationHistory)
    (budget : ToolBudget) : InvestigationState where
  coordinator := Coordinator.init trusted history.runRecords history.runRefs
  governed := ⟨history.cache, budget⟩
  planningTurns := 0
  budgetExhausted := false

/-- `investigate`. A run that is resumed without a new call keeps the gate result it recorded. -/
def investigate (catalog : Nat → SyntheticReadToolCatalog) (trusted : TrustedToolContext)
    (selector : ObservationSelector) (args : InvestigateArguments)
    (history : InvestigationHistory) : Except InvestigationFailure InvestigationOutput :=
  match initialBudget args history with
  | none => .error .invalidCounters
  | some budget =>
    match InvestigationGraph.run catalog trusted selector InvestigationGraph.recursionLimit .agent
        (initialState trusted history budget) with
    | .error e => .error (.graph e)
    | .ok s =>
      let gateArgs := gateArguments (catalog 0) trusted args.flags s
      let evaluated := evaluateGate trusted.canonicalIssueType s.coordinator.latestResults gateArgs
      let resumed := decide (args.investigationPass = 0 ∧
        s.coordinator.records.length = history.runRecords.length)
      let counters := s.governed.budget
      .ok
        { gateResult := if resumed then history.persistedGate.getD evaluated else evaluated
          evidenceRefs := s.coordinator.evidenceRefs
          toolResults := s.coordinator.latestResults
          planningTurns := counters.runPlanningTurns
          casePlanningTurns := counters.casePlanningTurns
          runReadToolExecutions :=
            counters.actualReadToolExecutions - budget.actualReadToolExecutions
          actualReadToolExecutions := counters.actualReadToolExecutions
          budgetExhausted := s.budgetExhausted || decide (counters.actualReadToolExecutions
            ≥ ToolBudget.maxActualReadToolExecutions)
          records := s.coordinator.records
          cache := s.governed.cache }

end AfterSales
