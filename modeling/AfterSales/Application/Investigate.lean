import AfterSales.Application.Steps
import AfterSales.Investigation.Restart
import AfterSales.Investigation.Revision

/-! One investigation as a program: it reads its history, runs the graph, and evaluates the gate.

    Every superstep of the graph is one step of the program. It sees the sources as they are then,
    stores the row of the read it makes and the cache it leaves, and appends its events. Apart from
    the event that counts a planning turn these are developer traces; only their number matters, and
    it is a parameter. -/

namespace AfterSales
open Interleave Repository

/-- How many traces a superstep appends. -/
class TraceVolume [PolicyDigest] where
  traces : TrustedToolContext → GraphNode → InvestigationState → Nat

/-- The normal decision, unless the issue is revised. -/
def GateOutcome.decided : GateOutcome → Option EvidenceGateDecision
  | .decision d => some d
  | .revision _ => none

variable [PolicyDigest] [ProofDigest] [ResultDigest] [IdText] [TraceVolume]

/-- The scope that a run works in. -/
def CaseRow.trusted (row : CaseRow) (settings : Settings) (s : SharedState) (caseId runId : RowId) :
    TrustedToolContext where
  customerId := row.customerId
  conversationId := runId.conversationId
  caseId := IdText.row caseId
  runId := IdText.row runId
  authorizedOrderId := row.authorizedOrderId
  canonicalIssueType := row.canonicalIssueType
  fixtureVersion := s.fixtures.fixtureVersion
  faultSeed := settings.faultSeed
  evaluatedAt := settings.evaluatedAt
  targetShipmentId := row.targetShipmentId

/-- The sources as they are now. -/
def SharedState.catalog (s : SharedState) : SyntheticReadToolCatalog := ⟨s.fixtures, s.policyRag⟩

/-- The tool cache of a case: the one the process holds, or one loaded from the rows. -/
def caseCache (l : ConversationStore) (s : SharedState) (caseId : RowId) (f : CaseFolder) :
    CaseToolCache :=
  (l.caseCaches caseId).getD
    (loadCaseCache s.catalog (IdText.row caseId) (f.toolCalls.map (·.call)))

/-- What an investigation of a run finds stored. -/
def investigationHistory (l : ConversationStore) (s : SharedState) (caseId runId : RowId)
    (f : CaseFolder) : InvestigationHistory where
  caseRecords := f.toolCalls.map (·.call)
  runRecords := f.callsOfRun runId
  runRefs := (f.callsOfRun runId).flatMap CallRecord.refs
  cache := caseCache l s caseId f
  persistedGate := (l.runs runId).bind (·.gateResult)

/-- What is returned for a finished graph run. -/
def graphOutput (catalog : SyntheticReadToolCatalog) (trusted : TrustedToolContext)
    (args : InvestigateArguments) (history : InvestigationHistory) (budget : ToolBudget)
    (s : InvestigationState) : InvestigationOutput :=
  let evaluated := evaluateGate trusted.canonicalIssueType s.coordinator.latestResults
    (gateArguments catalog trusted args.flags s)
  let resumed := decide (args.investigationPass = 0 ∧
    s.coordinator.records.length = history.runRecords.length)
  let counters := s.governed.budget
  { gateResult := if resumed then history.persistedGate.getD evaluated else evaluated
    evidenceRefs := s.coordinator.evidenceRefs
    toolResults := s.coordinator.latestResults
    planningTurns := counters.runPlanningTurns
    casePlanningTurns := counters.casePlanningTurns
    runReadToolExecutions := counters.actualReadToolExecutions - budget.actualReadToolExecutions
    actualReadToolExecutions := counters.actualReadToolExecutions
    budgetExhausted := s.budgetExhausted || decide (counters.actualReadToolExecutions
      ≥ ToolBudget.maxActualReadToolExecutions)
    records := s.coordinator.records
    cache := s.governed.cache }

namespace Service

/-- An investigation that has read its history. -/
structure StartedInvestigation where
  trusted : TrustedToolContext
  args : InvestigateArguments
  history : InvestigationHistory
  budget : ToolBudget

/-- The first part of `investigate`: the history, and the counters of the pass. Every caller hands
    over the counters of the case as they are stored. -/
def startInvestigation (settings : Settings) (caseId runId : RowId) (args : InvestigateArguments) :
    Tx StartedInvestigation := do
  let f ← requireCase caseId
  let l ← conversation
  let s ← shared
  let history := investigationHistory l s caseId runId f
  let args := { args with
    casePlanningTurns := f.row.agentPlanningTurnCount
    caseReadExecutions := f.row.actualReadToolExecutionCount }
  setConversation { l with
    caseCaches := Function.update l.caseCaches caseId (some history.cache) }
  match initialBudget args history with
  | none => throw (.runtime "invalid tool budget")
  | some budget => return ⟨f.row.trusted settings s caseId runId, args, history, budget⟩

omit [IdText] [TraceVolume] in
/-- A model turn is counted: the selector is due, and the budget has a turn left. -/
def turnStarts (catalog : SyntheticReadToolCatalog) (trusted : TrustedToolContext)
    (node : GraphNode) (s : InvestigationState) : Bool :=
  match node with
  | .agent =>
    match (s.coordinator.beforeSelector catalog trusted s.governed.budget).1 with
    | .select => s.governed.budget.recordPlanningTurn.isSome
    | _ => false
  | _ => false

/-- The events of a superstep. -/
def superstepEvents (catalog : SyntheticReadToolCatalog) (trusted : TrustedToolContext)
    (caseId runId : RowId) (node : GraphNode) (s : InvestigationState) : List ServiceEvent :=
  (if turnStarts catalog trusted node s then
    [⟨"agent_turn_started", .developer, some caseId, some runId, none, none, false⟩] else []) ++
  List.replicate (TraceVolume.traces trusted node s)
    ⟨"state_trace_record", .developer, some caseId, some runId, none, none, false⟩

/-- The rows and the cache that a superstep leaves. -/
def storeReads (caseId runId : RowId) (reads : List CallRecord) (cache : CaseToolCache) :
    Tx Unit := do
  let f ← requireCase caseId
  putFolder caseId { f with toolCalls := f.toolCalls ++ reads.map (⟨runId, ·⟩) }
  let l ← conversation
  setConversation { l with caseCaches := Function.update l.caseCaches caseId (some cache) }

omit [IdText] [TraceVolume] in
/-- What a superstep that fails has done: the selector fails after the turn was counted, and a read
    raises after its attempt was. -/
def stumbled (catalog : SyntheticReadToolCatalog) (trusted : TrustedToolContext)
    (node : GraphNode) (s : InvestigationState) : InvestigationState :=
  match node with
  | .tools tool arguments => { s with governed := { s.governed with
      cache := (InvestigationGraph.traceRead catalog trusted s tool arguments).2.cache } }
  | _ => { s with governed := { s.governed with
      budget := s.governed.budget.recordPlanningTurn.getD s.governed.budget } }

/-- One superstep of the graph. -/
def superstep (trusted : TrustedToolContext) (caseId runId : RowId) (selector : ObservationSelector)
    (node : GraphNode) (s : InvestigationState) :
    Tx (Except GraphFailure (GraphNode × InvestigationState)) := do
  let catalog := (← shared).catalog
  appendEvents (superstepEvents catalog trusted caseId runId node s)
  match InvestigationGraph.step catalog trusted selector node s with
  | .error e =>
    -- No row is stored for a read that raises, but the cache of the case has counted it.
    let l ← conversation
    let cache := (stumbled catalog trusted node s).governed.cache
    setConversation { l with caseCaches := Function.update l.caseCaches caseId (some cache) }
    return .error e
  | .ok (next, s') =>
    storeReads caseId runId (s'.coordinator.records.drop s.coordinator.records.length)
      s'.governed.cache
    return .ok (next, s')

/-- The graph run, superstep by superstep. -/
def runGraph (trusted : TrustedToolContext) (caseId runId : RowId)
    (selector : Nat → ObservationSelector) :
    Nat → GraphNode → InvestigationState → Service InvestigationState
  | _, .finished, s => pure s
  | 0, _, _ => Op.throw (.runtime "recursion limit")
  | n + 1, node, s => do
    let stepped ← transaction .progress (superstep trusted caseId runId (selector (n + 1)) node s)
    match stepped with
    | .error _ => Op.throw (.runtime "graph run failed")
    | .ok (next, s') => runGraph trusted caseId runId selector n next s'

/-- What a graph run goes on with after a superstep. -/
def runGraphAfter (trusted : TrustedToolContext) (caseId runId : RowId)
    (selector : Nat → ObservationSelector) (n : Nat) :
    Except GraphFailure (GraphNode × InvestigationState) → Service InvestigationState
  | .error _ => Op.throw (.runtime "graph run failed")
  | .ok (next, s') => runGraph trusted caseId runId selector n next s'

omit [IdText] in
theorem runGraph_succ {trusted : TrustedToolContext} {caseId runId : RowId}
    {selector : Nat → ObservationSelector} (n : Nat) {node : GraphNode} (h : node ≠ .finished)
    (s : InvestigationState) :
    runGraph trusted caseId runId selector (n + 1) node s =
      transaction .progress (superstep trusted caseId runId (selector (n + 1)) node s) >>=
        runGraphAfter trusted caseId runId selector n := by
  cases node with
  | finished => exact absurd rfl h
  | agent | tools | budgetExhausted => rfl

/-- The disposition that a gate result shows. -/
def gateDisposition (gate : EvidenceGateResult) : CustomerDisposition :=
  projectCustomerDisposition
    { gateDecision := gate.outcome.decided
      reasonCode := some gate.reasonCode }

/-- What a finished graph run is answered with. -/
def outputOf (now : SharedState) (started : StartedInvestigation) (s : InvestigationState) :
    InvestigationOutput :=
  graphOutput now.catalog started.trusted started.args started.history started.budget s

/-- The last part of `investigate`: the gate is evaluated and recorded, unless it is resumed. -/
def evaluateRun (caseId runId : RowId) (started : StartedInvestigation) (s : InvestigationState) :
    Tx InvestigationOutput := do
  let output := outputOf (← shared) started s
  let resumed := started.history.persistedGate.isSome ∧ started.args.investigationPass = 0 ∧
    s.coordinator.records.length = started.history.runRecords.length
  if resumed then return output
  else
    let l ← conversation
    let row ← require "Run" (l.runs runId)
    setConversation (l.setRun runId { row with gateResult := some output.gateResult })
    appendEvents
      [⟨"state_trace_record", .developer, some caseId, some runId, none, none, false⟩,
        ⟨"evidence_gate_evaluated", .both, some caseId, some runId,
          some (gateDisposition output.gateResult), output.gateResult.outcome.decided, false⟩]
    return output

/-- `investigate`. -/
def investigateCase (settings : Settings) (caseId runId : RowId)
    (selector : Nat → ObservationSelector) (args : InvestigateArguments) :
    Service InvestigationOutput := do
  let started ← transaction (.explore caseId runId args.investigationPass)
    (startInvestigation settings caseId runId args)
  let s ← runGraph started.trusted caseId runId selector InvestigationGraph.recursionLimit .agent
    (initialState started.trusted started.history started.budget)
  transaction .evaluate (evaluateRun caseId runId started s)

end Service

end AfterSales
