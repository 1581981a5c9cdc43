import AfterSales.Fixtures.Catalog
import AfterSales.Policy.SearchContract

/-! The governed read tools: authorization, cache, retry limit, budget and dispatch.

    A read passes five stations, each of which may end it:

        arguments ─▶ authorization ─▶ cache ─▶ retry limit ─▶ budget ─▶ source

    Only the source read consumes budget and counts as an attempt of its cache key. A blocked read
    is a failed result that is not retryable. The counters carry their bounds, so a budget out of
    range cannot be built. -/

namespace AfterSales

/-- Counters of one case and its active run, with their bounds. -/
@[ext]
structure ToolBudget where
  casePlanningTurns : Nat
  runPlanningTurns : Nat
  actualReadToolExecutions : Nat
  caseBound : casePlanningTurns ≤ 16
  runBound : runPlanningTurns ≤ 8
  readBound : actualReadToolExecutions ≤ 6

instance : DecidableEq ToolBudget := fun _ _ => decidable_of_iff _ ToolBudget.ext_iff.symm

namespace ToolBudget

def maxCasePlanningTurns : Nat := 16
def maxRunPlanningTurns : Nat := 8
def maxActualReadToolExecutions : Nat := 6

/-- `record_planning_turn`; `none` is `ToolBudgetExceeded`. -/
def recordPlanningTurn (b : ToolBudget) : Option ToolBudget :=
  if hcase : b.casePlanningTurns ≥ 16 then none
  else if hrun : b.runPlanningTurns ≥ 8 then none
  else some { b with
    casePlanningTurns := b.casePlanningTurns + 1
    runPlanningTurns := b.runPlanningTurns + 1
    caseBound := by omega
    runBound := by omega }

/-- `record_actual_execution`; `none` is `ToolBudgetExceeded`. -/
def recordActualExecution (b : ToolBudget) : Option ToolBudget :=
  if h : b.actualReadToolExecutions ≥ 6 then none
  else some { b with
    actualReadToolExecutions := b.actualReadToolExecutions + 1
    readBound := by omega }

/-- Below its bound a read is counted, and nothing else changes. -/
theorem recordActualExecution_of_lt {b : ToolBudget} (h : b.actualReadToolExecutions < 6) :
    ∃ b', b.recordActualExecution = some b' ∧
      b'.actualReadToolExecutions = b.actualReadToolExecutions + 1 ∧
      b'.runPlanningTurns = b.runPlanningTurns ∧ b'.casePlanningTurns = b.casePlanningTurns := by
  unfold recordActualExecution
  rw [dif_neg (by omega)]
  exact ⟨_, rfl, rfl, rfl, rfl⟩

/-- Below its bounds a planning turn is counted, and nothing else changes. -/
theorem recordPlanningTurn_of_lt {b : ToolBudget} (hcase : b.casePlanningTurns < 16)
    (hrun : b.runPlanningTurns < 8) :
    ∃ b', b.recordPlanningTurn = some b' ∧
      b'.actualReadToolExecutions = b.actualReadToolExecutions ∧
      b'.runPlanningTurns = b.runPlanningTurns + 1 ∧
      b'.casePlanningTurns = b.casePlanningTurns + 1 := by
  unfold recordPlanningTurn
  rw [dif_neg (by omega), dif_neg (by omega)]
  exact ⟨_, rfl, rfl, rfl, rfl⟩

/-- A counted turn is one more for the case and for the run. -/
theorem recordPlanningTurn_some {b b' : ToolBudget} (h : b.recordPlanningTurn = some b') :
    b'.actualReadToolExecutions = b.actualReadToolExecutions ∧
      b'.runPlanningTurns = b.runPlanningTurns + 1 ∧
      b'.casePlanningTurns = b.casePlanningTurns + 1 := by
  unfold recordPlanningTurn at h
  split at h
  · cases h
  · split at h
    · cases h
    · cases h
      exact ⟨rfl, rfl, rfl⟩

/-- A counted read is one more read, and no turn. -/
theorem recordActualExecution_some {b b' : ToolBudget} (h : b.recordActualExecution = some b') :
    b'.actualReadToolExecutions = b.actualReadToolExecutions + 1 ∧
      b'.runPlanningTurns = b.runPlanningTurns ∧ b'.casePlanningTurns = b.casePlanningTurns := by
  unfold recordActualExecution at h
  split at h
  · cases h
  · cases h
    exact ⟨rfl, rfl, rfl⟩

/-- The counters of a case that has not been investigated yet. -/
def fresh : ToolBudget := ⟨0, 0, 0, by decide, by decide, by decide⟩

end ToolBudget

variable [PolicyDigest]

structure ToolCacheKey where
  caseId : String
  toolName : ReadTool
  normalizedArgs : ToolArguments
  sourceRevision : String
  deriving DecidableEq

/-- `ValidationError`: the exception of a payload that breaks its contract. Neither the read methods
    nor the executor expect it. -/
structure ValidationError where
  deriving DecidableEq, Repr

/-- Completed evidence and terminal errors of a case, by the exact query that produced them. -/
structure CaseToolCache where
  reusable : (key : ToolCacheKey) → Option (ToolResult (PayloadOf key.toolName))
  terminalErrors : (key : ToolCacheKey) → Option (ToolResult (PayloadOf key.toolName))
  actualAttempts : ToolCacheKey → Nat
  lastResultRetryable : ToolCacheKey → Bool

namespace CaseToolCache

def empty : CaseToolCache := ⟨fun _ => none, fun _ => none, fun _ => 0, fun _ => false⟩

/-- `get`. -/
def get (cache : CaseToolCache) (key : ToolCacheKey) :
    Option (ToolResult (PayloadOf key.toolName)) :=
  cache.reusable key <|> cache.terminalErrors key

/-- `store`: a success or a terminal error is kept, a retryable error is only remembered. -/
def store (cache : CaseToolCache) (key : ToolCacheKey)
    (result : ToolResult (PayloadOf key.toolName)) : CaseToolCache :=
  match result.executionStatus with
  | .success => { cache with
      reusable := Function.update cache.reusable key (some result)
      lastResultRetryable := Function.update cache.lastResultRetryable key false }
  | .nonRetryableError => { cache with
      terminalErrors := Function.update cache.terminalErrors key (some result)
      lastResultRetryable := Function.update cache.lastResultRetryable key false }
  | .retryableError => { cache with
      lastResultRetryable := Function.update cache.lastResultRetryable key true }

/-- What is kept of a read: an answer is stored, an exception is not. -/
def settle (cache : CaseToolCache) (key : ToolCacheKey) :
    Except ValidationError (ToolResult (PayloadOf key.toolName)) → CaseToolCache
  | .ok result => cache.store key result
  | .error _ => cache

/-- `record_actual_attempt`: the number of the attempt, and the cache that counts it. -/
def recordActualAttempt (cache : CaseToolCache) (key : ToolCacheKey) : Nat × CaseToolCache :=
  let attempt := cache.actualAttempts key + 1
  (attempt, { cache with actualAttempts := Function.update cache.actualAttempts key attempt })

/-- `retry_exhausted`. -/
def retryExhausted (cache : CaseToolCache) (key : ToolCacheKey) : Bool :=
  cache.lastResultRetryable key && decide (cache.actualAttempts key ≥ 2)

/-- The caches that attempts and their results build up. -/
inductive Built : CaseToolCache → Prop where
  | empty : Built empty
  | attempt {cache : CaseToolCache} (h : Built cache) (key : ToolCacheKey) :
      Built (cache.recordActualAttempt key).2
  | store {cache : CaseToolCache} (h : Built cache) (key : ToolCacheKey)
      (result : ToolResult (PayloadOf key.toolName)) : Built (cache.store key result)

/-- Everything the cache would return has a property. -/
def Keeps (P : (key : ToolCacheKey) → ToolResult (PayloadOf key.toolName) → Prop)
    (cache : CaseToolCache) : Prop :=
  ∀ (key : ToolCacheKey) (result : ToolResult (PayloadOf key.toolName)),
    cache.reusable key = some result ∨ cache.terminalErrors key = some result → P key result

section Keeps

variable {P : (key : ToolCacheKey) → ToolResult (PayloadOf key.toolName) → Prop}
  {cache : CaseToolCache} {key : ToolCacheKey} {result : ToolResult (PayloadOf key.toolName)}

theorem keeps_empty : Keeps P empty := by
  rintro key result (h | h) <;> cases h

theorem Keeps.get (h : cache.Keeps P) (hget : cache.get key = some result) : P key result := by
  refine h key result ?_
  unfold CaseToolCache.get at hget
  cases hreusable : cache.reusable key with
  | some r =>
    rw [hreusable] at hget
    exact Or.inl hget
  | none =>
    rw [hreusable] at hget
    exact Or.inr hget

/-- A stored result has the property, unless it is not kept at all. -/
theorem Keeps.store (h : cache.Keeps P)
    (hresult : result.executionStatus ≠ .retryableError → P key result) :
    (cache.store key result).Keeps P := by
  have hupdate : ∀ table : (key : ToolCacheKey) → Option (ToolResult (PayloadOf key.toolName)),
      (∀ k r, table k = some r → P k r) → P key result →
        ∀ k r, Function.update table key (some result) k = some r → P k r := by
    intro table htable hnew k r hr
    by_cases e : k = key
    · subst e
      rw [Function.update_self] at hr
      exact Option.some.inj hr ▸ hnew
    · rw [Function.update_of_ne e] at hr
      exact htable k r hr
  intro k r hr
  unfold CaseToolCache.store at hr
  cases hstatus : result.executionStatus <;> rw [hstatus] at hr hresult
  · exact hr.elim (hupdate _ (fun k r h' => h k r (Or.inl h')) (hresult (by decide)) k r)
      fun h' => h k r (Or.inr h')
  · exact h k r hr
  · exact hr.elim (fun h' => h k r (Or.inl h'))
      (hupdate _ (fun k r h' => h k r (Or.inr h')) (hresult (by decide)) k r)

/-- No cache keeps a result that may be retried. -/
theorem Built.kept (h : cache.Built) :
    cache.Keeps fun _ result => result.executionStatus ≠ .retryableError := by
  induction h with
  | empty => exact keeps_empty
  | attempt _ key ih => exact ih
  | store _ key result ih => exact ih.store id

end Keeps

/-- Two caches agree on what a query would find. -/
def AgreeAt (c d : CaseToolCache) (key : ToolCacheKey) : Prop :=
  c.get key = d.get key ∧ c.actualAttempts key = d.actualAttempts key ∧
    c.lastResultRetryable key = d.lastResultRetryable key

/-- An attempt and its result change the cache at their own key alone. -/
theorem agree_after_read (cache : CaseToolCache) {key other : ToolCacheKey} (h : other ≠ key)
    (result : ToolResult (PayloadOf key.toolName)) :
    AgreeAt ((cache.recordActualAttempt key).2.store key result) cache other := by
  unfold AgreeAt store get recordActualAttempt
  cases result.executionStatus <;> simp [h]

/-- An attempt and its outcome change the cache at their own key alone. -/
theorem agree_after_settle (cache : CaseToolCache) {key other : ToolCacheKey} (h : other ≠ key)
    (outcome : Except ValidationError (ToolResult (PayloadOf key.toolName))) :
    AgreeAt ((cache.recordActualAttempt key).2.settle key outcome) cache other := by
  cases outcome with
  | ok result => exact agree_after_read cache h result
  | error e => exact ⟨rfl, by simp [settle, recordActualAttempt, h], rfl⟩

end CaseToolCache

/-- The canonical hashes and ids of results, all functions of what the source hashes. -/
class ResultDigest where
  queryId : TrustedToolContext → ReadTool → Option ToolArguments → Nat → String
  completedHash : (tool : ReadTool) → CompletedAvailability → PayloadOf tool → List String → String
  failedHash : Bool → String → Bool → String

/-- The digest of closed examples: results are told apart by tool or error. -/
abbrev ResultDigest.byName : ResultDigest :=
  ⟨fun _ tool _ _ => tool.name, fun tool _ _ _ => tool.name, fun _ errorCode _ => errorCode⟩

variable [ProofDigest] [ResultDigest]

/-- `SyntheticReadToolCatalog`: the source adapters, over the fixture store and the policy search. -/
structure SyntheticReadToolCatalog where
  store : FixtureStore
  policyRag : PolicyRagService

/-- `authorize_order`: an absent order and a foreign one are denied alike. -/
def authorizeOrder (customerId orderId : String) (store : FixtureStore) : Option OrderFixture :=
  (store.orders orderId).filter fun record => record.customerId = customerId

namespace SyntheticReadToolCatalog

/-- `source_revision`: policy authority is bound to the corpus, the other tools to the order. -/
def sourceRevision (catalog : SyntheticReadToolCatalog) (orderId : String) (tool : ReadTool) :
    Option String :=
  if tool = .searchAfterSalesPolicy then some catalog.policyRag.sourceRevision
  else catalog.store.sourceRevision orderId tool

/-- A failed result, with the hash and query id the source gives it. -/
def failedResult {P : Type} (context : TrustedToolContext) (tool : ReadTool)
    (arguments : Option ToolArguments) (attempt : Nat) (retryable : Bool) (errorCode : String)
    (isSearch : Bool) : ToolResult P :=
  .failed retryable (ResultDigest.queryId context tool arguments attempt) context.evaluatedAt
    errorCode isSearch (ResultDigest.failedHash retryable errorCode isSearch)

/-- A completed result, with the hash and query id the source gives it. -/
def completedResult (context : TrustedToolContext) (tool : ReadTool) (arguments : ToolArguments)
    (attempt : Nat) (availability : CompletedAvailability) (payload : PayloadOf tool)
    (sourceRecordIds : List String) : ToolResult (PayloadOf tool) :=
  .completed availability (ResultDigest.queryId context tool (some arguments) attempt)
    context.evaluatedAt payload sourceRecordIds
    (ResultDigest.completedHash tool availability payload sourceRecordIds)

/-- Present when the query found a record. -/
def foundAny {α : Type} (records : List α) : CompletedAvailability :=
  if records.isEmpty then .absent else .present

def orderContextPayload (store : FixtureStore) (order : OrderFixture) : OrderContextPayload where
  orderId := order.orderId
  orderStatus := order.orderStatus
  serviceLevel := order.serviceLevel
  region := order.region
  shipments := store.shipmentSummary order.orderId

def logisticsTimelinePayload (store : FixtureStore) (orderId : String) (evaluatedAt : Instant) :
    LogisticsTimelinePayload where
  orderId := orderId
  events := store.timelines orderId
  lastUpdateAt := FixtureStore.lastUpdate (store.timelines orderId)
  hoursSinceLastUpdate := FixtureStore.hoursSince evaluatedAt (store.timelines orderId)
  shipmentTimelines := store.shipmentTimelines orderId evaluatedAt
  lastUpdateIff := FixtureStore.lastUpdate_isSome _

def deliveryProofPayload (orderId : String) (target : Option String) :
    Option DeliveryProofFixture → DeliveryProofPayload
  | none => ⟨orderId, target, .notFound, none, none, by simp⟩
  | some proof => ⟨orderId, proof.shipmentId, .found, proof.recipientType, proof.signedAt, by simp⟩

def existingTicketsPayload (store : FixtureStore) (orderId : String) (issueType : IssueType)
    (target : Option String) : ExistingLogisticsTicketsPayload where
  orderId := orderId
  issueType := issueType
  activeTickets := store.getActiveTickets orderId issueType target
  existingInvestigations := store.getActiveInvestigations orderId issueType target

/-- The completed answer of a tool for an authorized order, why its source is unavailable, or the
    exception of a policy payload that breaks its contract. -/
def readSource (catalog : SyntheticReadToolCatalog) (context : TrustedToolContext)
    (order : OrderFixture) (issueType : IssueType) (arguments : ToolArguments) (attempt : Nat) :
    (tool : ReadTool) → Except ValidationError (ToolResult (PayloadOf tool))
  | .getOrderContext =>
    .ok <| completedResult context .getOrderContext arguments attempt .present
      (orderContextPayload catalog.store order) [order.orderId]
  | .getLogisticsTimeline =>
    let events := catalog.store.timelines order.orderId
    .ok <| completedResult context .getLogisticsTimeline arguments attempt (foundAny events)
      (logisticsTimelinePayload catalog.store order.orderId context.evaluatedAt)
      (events.map (·.eventId))
  | .getDeliveryProof =>
    let proof := catalog.store.getDeliveryProof order.orderId context.targetShipmentId
    .ok <| completedResult context .getDeliveryProof arguments attempt (foundAny proof.toList)
      (deliveryProofPayload order.orderId context.targetShipmentId proof)
      (proof.map (·.proofId)).toList
  | .getCarrierServiceAlerts =>
    let alerts := catalog.store.carrierAlerts order.orderId
    .ok <| completedResult context .getCarrierServiceAlerts arguments attempt (foundAny alerts)
      ⟨order.orderId, alerts⟩ (alerts.map (·.alertId))
  | .searchAfterSalesPolicy =>
    let scope : PolicyScope := ⟨issueType, order.serviceLevel, order.region, context.evaluatedAt⟩
    match h : catalog.policyRag.search order.orderId scope with
    | .error (.unavailable e) =>
      .ok <| failedResult context .searchAfterSalesPolicy (some arguments) attempt e.retryable
        e.code true
    | .error .validation => .error ⟨⟩
    | .ok payload =>
      .ok <| .completedSearch
        (ResultDigest.queryId context .searchAfterSalesPolicy (some arguments) attempt)
        context.evaluatedAt payload (PolicyRagService.search_spec h).ran
        (ResultDigest.completedHash .searchAfterSalesPolicy .present payload
          (payload.citation.map (·.clauseId)).toList)
  | .getExistingLogisticsTickets =>
    let payload := existingTicketsPayload catalog.store order.orderId issueType
      context.targetShipmentId
    .ok <| completedResult context .getExistingLogisticsTickets arguments attempt
      (foundAny (payload.activeTickets.map (·.ticketId)
        ++ payload.existingInvestigations.map (·.caseId)))
      payload
      (payload.activeTickets.map (·.ticketId) ++ payload.existingInvestigations.map (·.caseId))

/-- One read method: it reauthorizes, then fails by script, answers or raises; `none` is the
    denial. -/
def read (catalog : SyntheticReadToolCatalog) (context : TrustedToolContext) (tool : ReadTool)
    (arguments : ToolArguments) (issueType : IssueType) (attempt : Nat) :
    Option (Except ValidationError (ToolResult (PayloadOf tool))) :=
  (authorizeOrder context.customerId arguments.orderId catalog.store).map fun order =>
    match catalog.store.faults context.faultSeed tool attempt with
    | some fault =>
      .ok <| failedResult context tool (some arguments) attempt
        (decide (fault.executionStatus = .retryableError)) fault.errorCode
        (decide (tool = .searchAfterSalesPolicy))
    | none => catalog.readSource context order issueType arguments attempt tool

end SyntheticReadToolCatalog

/-- `_ISSUE_TOOLS`: the tools that take an issue argument. -/
def ReadTool.takesIssue : ReadTool → Bool
  | .searchAfterSalesPolicy => true
  | .getExistingLogisticsTickets => true
  | _ => false

/-- `_ISSUE_RESTRICTED_TOOLS`. -/
def ReadTool.restrictedTo : ReadTool → Option IssueType
  | .getDeliveryProof => some .signedNotReceived
  | .getCarrierServiceAlerts => some .stalledTracking
  | _ => none

/-- The mutable part of `GovernedToolExecutor`. -/
structure GovernedState where
  cache : CaseToolCache
  budget : ToolBudget

namespace GovernedToolExecutor

/-- `_validate_arguments`. -/
def validateArguments (trusted : TrustedToolContext) (tool : ReadTool) (arguments : ToolArguments) :
    Option String :=
  if arguments.issueType.isSome ≠ tool.takesIssue then some "INVALID_TOOL_ARGUMENTS"
  else if arguments.orderId ≠ trusted.authorizedOrderId then some "TOOL_SCOPE_MISMATCH"
  else if ∃ issue ∈ tool.restrictedTo, trusted.canonicalIssueType ≠ issue then
    some "TOOL_NOT_RELEVANT_TO_ISSUE"
  else if ∃ issue ∈ arguments.issueType, issue ≠ trusted.canonicalIssueType then
    some "TOOL_SCOPE_MISMATCH"
  else none

/-- `_blocked_result`. -/
def blockedResult {P : Type} (trusted : TrustedToolContext) (tool : ReadTool)
    (errorCode : String) : ToolResult P :=
  SyntheticReadToolCatalog.failedResult trusted tool none 0 false errorCode false

/-- The exact query a read is cached and retried under. -/
def cacheKey (catalog : SyntheticReadToolCatalog) (trusted : TrustedToolContext) (tool : ReadTool)
    (arguments : ToolArguments) : ToolCacheKey where
  caseId := trusted.caseId
  toolName := tool
  normalizedArgs := arguments
  -- The order has just been authorized, so the default is never taken.
  sourceRevision := (catalog.sourceRevision arguments.orderId tool).getD ""

/-- `execute_result`. A read that raises has been counted, as an execution and as an attempt of its
    query; nothing is stored for it, and the exception goes on to the caller. -/
def executeResult (catalog : SyntheticReadToolCatalog) (trusted : TrustedToolContext)
    (state : GovernedState) (tool : ReadTool) (arguments : ToolArguments) :
    Except ValidationError (ToolResult (PayloadOf tool)) × GovernedState :=
  match validateArguments trusted tool arguments with
  | some error => (.ok (blockedResult trusted tool error), state)
  | none =>
    match authorizeOrder trusted.customerId arguments.orderId catalog.store with
    | none => (.ok (blockedResult trusted tool "ORDER_NOT_FOUND_OR_FORBIDDEN"), state)
    | some _ =>
      let key := cacheKey catalog trusted tool arguments
      match state.cache.get key with
      | some cached => (.ok cached, state)
      | none =>
        if state.cache.retryExhausted key then
          (.ok (blockedResult trusted tool "TOOL_RETRY_EXHAUSTED"), state)
        else
          match state.budget.recordActualExecution with
          | none =>
            (.ok (blockedResult trusted tool "READ_TOOL_EXECUTION_BUDGET_EXCEEDED"), state)
          | some budget =>
            let (attempt, cache) := state.cache.recordActualAttempt key
            let issueType := arguments.issueType.getD trusted.canonicalIssueType
            match catalog.read trusted tool arguments issueType attempt with
            | none =>
              (.ok (blockedResult trusted tool "ORDER_NOT_FOUND_OR_FORBIDDEN"), ⟨cache, budget⟩)
            | some (.error raised) => (.error raised, ⟨cache, budget⟩)
            | some (.ok result) => (.ok result, ⟨cache.store key result, budget⟩)

/-- `retry_exhausted_for`. -/
def retryExhaustedFor (catalog : SyntheticReadToolCatalog) (trusted : TrustedToolContext)
    (state : GovernedState) (tool : ReadTool) (arguments : ToolArguments) : Bool :=
  decide (arguments.orderId = trusted.authorizedOrderId) &&
    state.cache.retryExhausted (cacheKey catalog trusted tool arguments)

end GovernedToolExecutor

end AfterSales
