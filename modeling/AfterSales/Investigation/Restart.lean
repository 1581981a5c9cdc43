import AfterSales.Events.Delivery
import AfterSales.Investigation.RunRules

/-! A coordinator built anew from what is stored of its run.

    A read leaves two traces: its row is committed, then the event that ends it, with the evidence
    references. Only after both does the online coordinator absorb the result:

        selected ─▶ row stored ─▶ event stored ─▶ absorbed ─▶ selected ─▶ …

    The process may end anywhere, and a new one reads rows and references back. What it would hold
    from the stored event to the next row is what the online one holds once it has absorbed the
    result. A read that raises leaves neither trace, and ends the process at its tool node. -/

namespace AfterSales

variable [PolicyDigest] [ProofDigest] [ResultDigest]

/-- What identifies a retry: its origin, and the exact query to repeat. -/
def RetryDirective.identity (d : RetryDirective) : ToolCallId × ReadTool × ToolArguments × String :=
  (d.retryOfToolCallId, d.toolName, d.canonicalArguments, d.sourceVersion)

/-- Evidence references in the form the event store keeps them in. -/
class StoredRef (P : Type) extends EventPayload P where
  dump : EvidenceRef → P
  validate : P → Option EvidenceRef
  validate_dump : ∀ ref, validate (dump ref) = some ref

/-- A call with the moment it says it was requested. -/
structure TimedCall where
  requestedAt : Instant
  call : CallRecord

/-- A row of `tool_calls`. -/
structure StoredCall extends TimedCall where
  runId : String

/-- The key `(requested_at, tool_call_id)`; call ids are compared in some order. -/
def TimedCall.before (idOrder : ToolCallId → ToolCallId → Bool) (a b : TimedCall) : Bool :=
  a.requestedAt < b.requestedAt ||
    (a.requestedAt = b.requestedAt && idOrder a.call.toolCallId b.call.toolCallId)

/-- Calls in the order of their requests. -/
def requestOrder (idOrder : ToolCallId → ToolCallId → Bool) (calls : List TimedCall) :
    List TimedCall :=
  calls.insertionSort fun a b => a.before idOrder b

/-- The calls of a run, in the order of the table. -/
def callsOfRun (rows : List StoredCall) (runId : String) : List TimedCall :=
  (rows.filter (·.runId = runId)).map (·.toTimedCall)

/-- `list_tool_calls` of a run. -/
def listToolCalls (idOrder : ToolCallId → ToolCallId → Bool) (rows : List StoredCall)
    (runId : String) : List TimedCall :=
  requestOrder idOrder (callsOfRun rows runId)

/-- The conversation, case and run that an investigation works for. -/
structure RunScope where
  conversationId : String
  caseId : String
  runId : String
  deriving DecidableEq

def TrustedToolContext.scope (trusted : TrustedToolContext) : RunScope :=
  ⟨trusted.conversationId, trusted.caseId, trusted.runId⟩

/-- The references that the events of a run carry, read back from their stored form. -/
def readRefs {P : Type} [StoredRef P] (scope : RunScope) (events : EventTables P) :
    Option (List EvidenceRef) :=
  (events.listEvidenceRefs scope.conversationId (some scope.caseId) (some scope.runId)).mapM
    StoredRef.validate

/-- `AdaptiveTraceCoordinator.__init__`; `none` when a stored reference cannot be read back. -/
def rebuildCoordinator {P : Type} [StoredRef P] (idOrder : ToolCallId → ToolCallId → Bool)
    (trusted : TrustedToolContext) (rows : List StoredCall) (events : EventTables P) :
    Option Coordinator :=
  (readRefs trusted.scope events).map fun refs =>
    Coordinator.init trusted ((listToolCalls idOrder rows trusted.runId).map (·.call)) refs

/-- The type of the event that ends a read. -/
def CallRecord.endingEvent (r : CallRecord) : String :=
  if r.blocked then "tool_call_blocked"
  else if r.cacheHit then "tool_call_cache_hit"
  else if r.result.errorCode.isNone then "tool_call_completed"
  else "tool_call_failed"

omit [ProofDigest] [ResultDigest] in
theorem CallRecord.isEventType_endingEvent (r : CallRecord) : isEventType r.endingEvent := by
  unfold CallRecord.endingEvent
  split
  · decide
  split
  · decide
  split
  · decide
  · decide

/-- The references to the result of a read. -/
def CallRecord.refs (r : CallRecord) : List EvidenceRef := r.result.toEvidenceRefs r.toolCallId

/-- An event that may end a read of a run: its scope, type and references are those of the read. -/
structure EndsRead {P : Type} [StoredRef P] (scope : RunScope) (record : CallRecord)
    (draft : EventDraft P) : Prop where
  conversation : draft.conversationId = scope.conversationId
  case : draft.caseId = some scope.caseId
  run : draft.runId = some scope.runId
  type : draft.eventType = record.endingEvent
  refs : draft.evidenceRefs = record.refs.map StoredRef.dump

/-- Where the process of a run is. Between its nodes a read is half stored. -/
inductive RunPoint where
  | node (node : GraphNode)
  | rowStored (record : CallRecord) (governed : GovernedState)
  | eventStored (record : CallRecord) (governed : GovernedState)

/-- A process at work on a run. Its history is the records of its coordinator, with their times;
    `absorbed` is the coordinator as its last `on_tool_result` left it. -/
structure RunProcess where
  trusted : TrustedToolContext
  point : RunPoint
  state : InvestigationState
  history : List TimedCall
  absorbed : Option Coordinator

namespace RunProcess

/-- A process before its first node. -/
def started (trusted : TrustedToolContext) (c : Coordinator) (governed : GovernedState)
    (history : List TimedCall) : RunProcess :=
  ⟨trusted, .node .agent, ⟨c, governed, 0, false⟩, history, none⟩

/-- The online coordinator once it has absorbed a read. -/
def absorb (p : RunProcess) (record : CallRecord) (governed : GovernedState) : Coordinator :=
  p.state.coordinator.onToolResult p.trusted governed.budget record record.refs

/-- The online coordinator after its last read, while row and event of that read are stored. -/
def afterLastRead (p : RunProcess) : Option Coordinator :=
  match p.point with
  | .node _ => p.absorbed
  | .rowStored _ _ => none
  | .eventStored record governed => some (p.absorb record governed)

end RunProcess

/-- A process on a run, next to the tables and the clock. -/
structure RunJournal (P : Type) where
  process : Option RunProcess
  rows : List StoredCall
  events : EventTables P
  clock : Instant

namespace RunJournal

variable {P : Type}

def empty (clock : Instant) : RunJournal P := ⟨none, [], .empty, clock⟩

/-- An event that no reader of the references of a run looks at. -/
def Foreign (scope : RunScope) (draft : EventDraft P) : Prop :=
  ¬ (draft.conversationId = scope.conversationId ∧ draft.caseId = some scope.caseId ∧
    draft.runId = some scope.runId) ∨
  (draft.eventType ≠ "tool_call_completed" ∧ draft.eventType ≠ "tool_call_cache_hit")

/-- The steps around a run: its own, those of its environment, and the start of a new process, which
    may find the case revised and its tool cache shared or empty. -/
inductive Step [StoredRef P] (idOrder : ToolCallId → ToolCallId → Bool) (scope : RunScope)
    (j : RunJournal P) : RunJournal P → Prop where
  | start {trusted : TrustedToolContext} {c : Coordinator} {cache : CaseToolCache}
      {budget : ToolBudget} (hscope : trusted.scope = scope) (hcache : cache.Built)
      (hc : rebuildCoordinator idOrder trusted j.rows j.events = some c) :
      Step idOrder scope j { j with
        process := some (.started trusted c ⟨cache, budget⟩
          (listToolCalls idOrder j.rows trusted.runId)) }
  | agent {p : RunProcess} {catalog : SyntheticReadToolCatalog} {selector : ObservationSelector}
      {node : GraphNode} {state : InvestigationState} (hp : j.process = some p)
      (hpoint : p.point = .node .agent)
      (hstep : InvestigationGraph.step catalog p.trusted selector .agent p.state
        = .ok (node, state)) :
      Step idOrder scope j { j with process := some { p with point := .node node, state := state } }
  | storeRow {p : RunProcess} {catalog : SyntheticReadToolCatalog} {tool : ReadTool}
      {arguments : ToolArguments} {record : CallRecord} {governed : GovernedState} {now : Instant}
      (hp : j.process = some p) (hpoint : p.point = .node (.tools tool arguments))
      (hread : InvestigationGraph.traceRead catalog p.trusted p.state tool arguments
        = (.ok record, governed)) (hnow : j.clock < now) :
      Step idOrder scope j { j with
        process := some { p with point := .rowStored record governed }
        rows := j.rows ++ [⟨⟨now, record⟩, p.trusted.runId⟩]
        clock := now }
  | storeEvent {p : RunProcess} {record : CallRecord} {governed : GovernedState}
      {draft : EventDraft P} {now : Instant} {event : EventEnvelope P} {events : EventTables P}
      (hp : j.process = some p) (hpoint : p.point = .rowStored record governed)
      (hdraft : EndsRead scope record draft) (happend : j.events.append draft now
        = .ok (event, events)) :
      Step idOrder scope j { j with
        process := some { p with point := .eventStored record governed }
        events := events }
  | absorb {p : RunProcess} {record : CallRecord} {governed : GovernedState} {now : Instant}
      (hp : j.process = some p) (hpoint : p.point = .eventStored record governed)
      (hnow : j.clock < now) :
      Step idOrder scope j { j with
        process := some { p with
          point := .node .agent
          state := { p.state with
            governed := governed
            coordinator := p.absorb record governed }
          history := p.history ++ [⟨now, record⟩]
          absorbed := some (p.absorb record governed) }
        clock := now }
  | otherRow {row : StoredCall} (hrow : row.runId ≠ scope.runId) :
      Step idOrder scope j { j with rows := j.rows ++ [row] }
  | otherEvent {draft : EventDraft P} {now : Instant} {event : EventEnvelope P}
      {events : EventTables P} (hdraft : Foreign scope draft)
      (happend : j.events.append draft now = .ok (event, events)) :
      Step idOrder scope j { j with events := events }
  | createConversation {conversationId : String}
      (hnew : j.events.nextEventSequence conversationId = none) :
      Step idOrder scope j { j with events := j.events.createConversation conversationId }
  | tick {now : Instant} (hnow : j.clock < now) : Step idOrder scope j { j with clock := now }

/-- The journals that a run can have, from empty tables on. -/
inductive Reachable [StoredRef P] (idOrder : ToolCallId → ToolCallId → Bool) (scope : RunScope) :
    RunJournal P → Prop where
  | init (clock : Instant) : Reachable idOrder scope (empty clock)
  | step {j j' : RunJournal P} (h : Reachable idOrder scope j)
      (hstep : Step idOrder scope j j') : Reachable idOrder scope j'

end RunJournal

/-! ### What a read leaves -/

/-- What the traces of a read say of its result. -/
structure CallRecord.Traced (r : CallRecord) : Prop where
  numbered : 1 ≤ r.attemptNumber
  actual : r.result.executionStatus = .retryableError → r.actualExecution
  linked : r.result.executionStatus = .success →
    r.endingEvent = "tool_call_completed" ∨ r.endingEvent = "tool_call_cache_hit"

namespace GovernedToolExecutor

variable {catalog : SyntheticReadToolCatalog} {trusted : TrustedToolContext}
  {state state' : GovernedState} {tool : ReadTool} {arguments : ToolArguments}
  {answer : Except ValidationError (ToolResult (PayloadOf tool))}

/-- Only a counted execution can be asked to repeat, since no cache keeps such a result. -/
theorem executeResult_counted (hcache : state.cache.Built)
    (h : executeResult catalog trusted state tool arguments = (answer, state')) :
    state'.cache.Built ∧ ∀ result, answer = .ok result →
      result.executionStatus = .retryableError →
      state.budget.actualReadToolExecutions < state'.budget.actualReadToolExecutions := by
  have hblocked : ∀ code, (blockedResult trusted tool code :
      ToolResult (PayloadOf tool)).executionStatus ≠ .retryableError := by
    intro code
    simp [blockedResult, SyntheticReadToolCatalog.failedResult, ToolResult.failed]
  have hcounted : ∀ budget, state.budget.recordActualExecution = some budget →
      state.budget.actualReadToolExecutions < budget.actualReadToolExecutions := by
    intro budget hbudget
    unfold ToolBudget.recordActualExecution at hbudget
    split at hbudget
    · cases hbudget
    · cases hbudget
      exact Nat.lt_succ_self _
  have hunread : ∀ code result, (.ok (blockedResult trusted tool code) :
      Except ValidationError (ToolResult (PayloadOf tool))) = .ok result →
      result.executionStatus ≠ .retryableError := by
    rintro code _ ⟨⟩
    exact hblocked code
  unfold executeResult at h
  split at h
  · obtain ⟨rfl, rfl⟩ := Prod.mk.inj h
    exact ⟨hcache, fun _ hresult hr => absurd hr (hunread _ _ hresult)⟩
  split at h
  · obtain ⟨rfl, rfl⟩ := Prod.mk.inj h
    exact ⟨hcache, fun _ hresult hr => absurd hr (hunread _ _ hresult)⟩
  simp only at h
  split at h
  · rename_i cached hcached
    obtain ⟨rfl, rfl⟩ := Prod.mk.inj h
    refine ⟨hcache, ?_⟩
    rintro _ ⟨⟩ hr
    exact absurd hr (hcache.kept.get hcached)
  split at h
  · obtain ⟨rfl, rfl⟩ := Prod.mk.inj h
    exact ⟨hcache, fun _ hresult hr => absurd hr (hunread _ _ hresult)⟩
  split at h
  · obtain ⟨rfl, rfl⟩ := Prod.mk.inj h
    exact ⟨hcache, fun _ hresult hr => absurd hr (hunread _ _ hresult)⟩
  rename_i budget hbudget
  split at h
  · obtain ⟨rfl, rfl⟩ := Prod.mk.inj h
    exact ⟨hcache.attempt _, fun _ hresult hr => absurd hr (hunread _ _ hresult)⟩
  · obtain ⟨rfl, rfl⟩ := Prod.mk.inj h
    exact ⟨hcache.attempt _, by rintro _ ⟨⟩⟩
  · obtain ⟨rfl, rfl⟩ := Prod.mk.inj h
    have hkey := hcache.attempt (cacheKey catalog trusted tool arguments)
    exact ⟨hkey.store (cacheKey catalog trusted tool arguments) _,
      fun _ _ _ => hcounted budget hbudget⟩

end GovernedToolExecutor

namespace InvestigationGraph

/-- Every read that answers is traced, and leaves a cache that reads built up. -/
theorem traceRead_traced {catalog : SyntheticReadToolCatalog} {trusted : TrustedToolContext}
    {s : InvestigationState} {tool : ReadTool} {arguments : ToolArguments} {record : CallRecord}
    {governed : GovernedState} (hcache : s.governed.cache.Built)
    (h : traceRead catalog trusted s tool arguments = (.ok record, governed)) :
    record.Traced ∧ governed.cache.Built := by
  obtain ⟨result, hread, rfl⟩ := traceRead_ok h
  obtain ⟨hbuilt, hcounted⟩ := GovernedToolExecutor.executeResult_counted hcache hread
  refine ⟨⟨Nat.succ_pos _, ?_, ?_⟩, hbuilt⟩
  · intro hr
    simpa [callRecord] using hcounted result rfl hr
  · intro hs
    have herror : result.errorCode = none := (result.successEnvelope hs).2.2.1
    unfold CallRecord.endingEvent callRecord
    simp only [herror, Option.isSome_none, Bool.and_false, Bool.false_eq_true, if_false,
      Option.isNone_none, Bool.and_true, if_true]
    split
    · exact Or.inr rfl
    · exact Or.inl rfl

end InvestigationGraph

omit [ProofDigest] [ResultDigest] in
/-- The references of an event that ends a read are those of the read. -/
theorem EndsRead.linkedRefs {P : Type} [StoredRef P] {scope : RunScope} {record : CallRecord}
    {draft : EventDraft P} (h : EndsRead scope record draft) (htraced : record.Traced)
    (sequence : Nat) (now : Instant) : EventTables.linkedRefs (EventTables.row draft sequence now)
      = record.refs.map StoredRef.dump := by
  have htype : (EventTables.row draft sequence now).eventType = record.endingEvent := h.type
  have hrefs : (EventTables.row draft sequence now).evidenceRefs
      = record.refs.map StoredRef.dump := h.refs
  unfold EventTables.linkedRefs
  rw [htype, hrefs]
  split
  · rfl
  · rename_i hother
    have hfailed : record.result.executionStatus ≠ .success := fun hs => hother (htraced.linked hs)
    unfold CallRecord.refs ToolResult.toEvidenceRefs
    rw [if_pos hfailed]
    rfl

/-! ### A coordinator built from what another one holds -/

namespace Coordinator

/-- A new coordinator on the records and references of this one has its progress and its retry. -/
def Rebuildable (trusted : TrustedToolContext) (c : Coordinator) : Prop :=
  (init trusted c.records c.evidenceRefs).progress = c.progress ∧
    (init trusted c.records c.evidenceRefs).pendingRetry.map RetryDirective.identity
      = c.pendingRetry.map RetryDirective.identity

variable {trusted : TrustedToolContext} {c : Coordinator} {record : CallRecord}

omit [PolicyDigest] [ProofDigest] [ResultDigest] in
/-- The reducer looks at the identity of a pending retry only. -/
theorem rebuild_issuedFrom (caseId runId : String) (issueType : IssueType)
    (calls : List HistoryCall) (refs : List EvidenceRef) (d : RetryDirective)
    (progress : EvidenceProgressSnapshot) :
    EvidenceProgressReducer.rebuild caseId runId issueType calls refs
        (some { d with issuedFromProgress := progress })
      = EvidenceProgressReducer.rebuild caseId runId issueType calls refs (some d) := by
  have hstep : EvidenceProgressReducer.step caseId runId issueType refs
      (some { d with issuedFromProgress := progress })
      = EvidenceProgressReducer.step caseId runId issueType refs (some d) := by
    have hlock : EvidenceProgressReducer.checkRetryLock
        (some { d with issuedFromProgress := progress })
        = EvidenceProgressReducer.checkRetryLock (some d) := rfl
    have houtcome : EvidenceProgressReducer.reduceOutcome refs
        (some { d with issuedFromProgress := progress })
        = EvidenceProgressReducer.reduceOutcome refs (some d) := by
      funext p call code
      simp only [EvidenceProgressReducer.reduceOutcome, Option.mem_def, Option.some.injEq,
        exists_eq_left']
    funext p call
    unfold EvidenceProgressReducer.step
    rw [hlock, houtcome]
    simp only [Option.mem_def, Option.some.injEq, exists_eq_left']
  unfold EvidenceProgressReducer.rebuild
  rw [hstep]
  rfl

omit [ProofDigest] [ResultDigest] in
theorem transientFailure_iff (result : ToolResult (PayloadOf record.toolName)) :
    transientFailure result = true ↔ result.executionStatus = .retryableError := by
  refine ⟨fun h => ?_, fun h => ?_⟩
  · simp only [transientFailure, decide_eq_true_eq, Bool.and_eq_true] at h
    tauto
  · obtain ⟨havailability, -, -, hretryable, -⟩ := result.failedEnvelope (by simp [h])
    simp [transientFailure, h, havailability, hretryable]

omit [ProofDigest] [ResultDigest] in
/-- After a read a retry is pending exactly if it was the first attempt and failed transiently. -/
theorem nextPendingRetry_eq (h : record.Traced) : c.nextPendingRetry record =
    if transientFailure record.result ∧ record.attemptNumber = 1 then
      some (issueExactRetry record c.progress)
    else none := by
  unfold nextPendingRetry
  by_cases hfirst : transientFailure record.result ∧ record.attemptNumber = 1
  · rw [if_pos hfirst, if_pos hfirst]
  rw [if_neg hfirst, if_neg hfirst]
  split
  · rfl
  rename_i hlocked
  split
  · rfl
  rename_i hstatus
  -- A transient failure past the first attempt is the second one or a later one.
  have htransient := (transientFailure_iff record.result).mpr (not_not.mp hstatus)
  have hattempt : record.attemptNumber ≠ 1 := fun h1 => hfirst ⟨htransient, h1⟩
  have hnumbered := h.numbered
  cases hpending : c.pendingRetry with
  | none => rfl
  | some d =>
    refine absurd ⟨by simp [hpending], ?_⟩ hlocked
    show 2 ≤ record.attemptNumber
    omega

omit [ProofDigest] [ResultDigest] in
/-- Whatever the coordinator held before, after a read it can be rebuilt from what it holds. -/
theorem onToolResult_rebuildable (budget : ToolBudget) (refs : List EvidenceRef)
    (h : record.Traced) : (c.onToolResult trusted budget record refs).Rebuildable trusted := by
  have hrecords : (c.onToolResult trusted budget record refs).records = c.records ++ [record] := rfl
  have hrefs : (c.onToolResult trusted budget record refs).evidenceRefs
      = c.evidenceRefs ++ refs := rfl
  have hpending : (c.onToolResult trusted budget record refs).pendingRetry
      = c.nextPendingRetry record := rfl
  have hprogress : (c.onToolResult trusted budget record refs).progress
      = rebuildProgress trusted (c.records ++ [record]) (c.evidenceRefs ++ refs)
        (c.nextPendingRetry record) := rfl
  have hcondition : (record.actualExecution = true ∧ record.attemptNumber = 1 ∧
      transientFailure record.result = true) ↔
      (transientFailure record.result = true ∧ record.attemptNumber = 1) := by
    refine ⟨fun hc => ⟨hc.2.2, hc.2.1⟩, fun hc => ⟨?_, hc.2, hc.1⟩⟩
    exact h.actual ((transientFailure_iff record.result).mp hc.1)
  unfold Rebuildable
  rw [hrecords, hrefs, hpending, hprogress, nextPendingRetry_eq h]
  unfold init
  simp only [List.getLast?_concat]
  by_cases hfirst : transientFailure record.result = true ∧ record.attemptNumber = 1
  · rw [if_pos hfirst, if_pos (hcondition.mpr hfirst)]
    exact ⟨rebuild_issuedFrom _ _ _ _ _ (issueExactRetry record c.progress) _, rfl⟩
  · rw [if_neg hfirst, if_neg fun hc => hfirst (hcondition.mp hc)]
    exact ⟨rfl, rfl⟩

end Coordinator

/-! ### Times and references -/

section Traces

omit [ProofDigest] [ResultDigest]

/-- Calls at strictly increasing moments, none of them in the future. -/
def Increasing (calls : List TimedCall) (clock : Instant) : Prop :=
  calls.Pairwise (fun a b => a.requestedAt < b.requestedAt) ∧
    ∀ t ∈ calls, t.requestedAt ≤ clock

namespace Increasing

variable {calls : List TimedCall} {clock now : Instant}

theorem mono (h : Increasing calls clock) (hnow : clock ≤ now) : Increasing calls now :=
  ⟨h.1, fun t ht => (h.2 t ht).trans hnow⟩

theorem snoc (h : Increasing calls clock) (hnow : clock < now) (record : CallRecord) :
    Increasing (calls ++ [⟨now, record⟩]) now := by
  refine ⟨List.pairwise_append.mpr ⟨h.1, List.pairwise_singleton _ _, ?_⟩, ?_⟩
  · intro a ha b hb
    rw [List.mem_singleton] at hb
    subst hb
    exact lt_of_le_of_lt (h.2 a ha) hnow
  · intro t ht
    rcases List.mem_append.mp ht with hold | hnew
    · exact (h.2 t hold).trans hnow.le
    · rw [List.mem_singleton] at hnew
      subst hnew
      exact le_refl _

/-- Sorting by request changes nothing, however ids are compared. -/
theorem requestOrder_eq (h : Increasing calls clock) (idOrder : ToolCallId → ToolCallId → Bool) :
    requestOrder idOrder calls = calls := by
  refine List.Pairwise.insertionSort_eq (h.1.imp fun {a b} hab => ?_)
  simp [TimedCall.before, hab]

end Increasing

theorem callsOfRun_append_own (rows : List StoredCall) (timed : TimedCall) (runId : String) :
    callsOfRun (rows ++ [⟨timed, runId⟩]) runId = callsOfRun rows runId ++ [timed] := by
  simp [callsOfRun]

theorem callsOfRun_append_other (rows : List StoredCall) {row : StoredCall} {runId : String}
    (h : row.runId ≠ runId) : callsOfRun (rows ++ [row]) runId = callsOfRun rows runId := by
  simp [callsOfRun, h]

section Refs

variable {P : Type} [StoredRef P] {scope : RunScope} {events events' : EventTables P}
  {draft : EventDraft P} {now : Instant} {event : EventEnvelope P}

omit [PolicyDigest] in
theorem mapM_validate_dump (refs : List EvidenceRef) :
    (refs.map StoredRef.dump).mapM (StoredRef.validate (P := P)) = some refs := by
  induction refs with
  | nil => rfl
  | cons ref rest ih => simp [List.mapM_cons, StoredRef.validate_dump, ih]

omit [PolicyDigest] in
theorem readRefs_append (h : events.Valid) (happend : events.append draft now = .ok (event, events'))
    (more : List EvidenceRef) {refs : List EvidenceRef} (hrefs : readRefs scope events = some refs)
    (hmore : (if EventTables.inScope scope.conversationId (some scope.caseId) (some scope.runId) event
      then EventTables.linkedRefs event else []) = more.map StoredRef.dump) :
    readRefs scope events' = some (refs ++ more) := by
  unfold readRefs at hrefs ⊢
  rw [h.listEvidenceRefs_append happend, hmore, List.mapM_append, hrefs, mapM_validate_dump]
  rfl

/-- The event that ends a read brings its references. -/
theorem readRefs_ended (h : events.Valid)
    (happend : events.append draft now = .ok (event, events')) {refs : List EvidenceRef}
    (hrefs : readRefs scope events = some refs) {record : CallRecord}
    (hdraft : EndsRead scope record draft) (htraced : record.Traced) :
    readRefs scope events' = some (refs ++ record.refs) := by
  refine readRefs_append h happend record.refs hrefs ?_
  obtain ⟨current, -, rfl, -⟩ := EventTables.append_ok happend
  rw [if_pos (by
    simp [EventTables.inScope, EventTables.row, hdraft.conversation, hdraft.case, hdraft.run])]
  exact hdraft.linkedRefs htraced _ _

omit [PolicyDigest] in
/-- A foreign event brings none. -/
theorem readRefs_foreign (h : events.Valid)
    (happend : events.append draft now = .ok (event, events')) {refs : List EvidenceRef}
    (hrefs : readRefs scope events = some refs) (hdraft : RunJournal.Foreign scope draft) :
    readRefs scope events' = some refs := by
  have hnone := readRefs_append h happend [] hrefs ?_
  · rwa [List.append_nil] at hnone
  obtain ⟨current, -, rfl, -⟩ := EventTables.append_ok happend
  rcases hdraft with houtside | htype
  · rw [if_neg]
    · rfl
    · simpa [EventTables.inScope, EventTables.row] using houtside
  · have hlinked : EventTables.linkedRefs (EventTables.row draft (current + 1) now) = [] := by
      unfold EventTables.linkedRefs
      rw [if_neg (by simpa [EventTables.row] using htype)]
    rw [hlinked, ite_self]
    rfl

end Refs

end Traces

/-! ### What holds of every journal -/

namespace RunProcess

/-- The read whose row is stored and whose result is not absorbed yet. -/
def storedRead (p : RunProcess) : List CallRecord :=
  match p.point with
  | .node _ => []
  | .rowStored record _ | .eventStored record _ => [record]

/-- The references of a read whose event is stored and whose result is not absorbed yet. -/
def storedRefs (p : RunProcess) : List EvidenceRef :=
  match p.point with
  | .node _ | .rowStored _ _ => []
  | .eventStored record _ => record.refs

/-- The tables hold what the coordinator holds, and the read that is half stored. -/
structure Follows {P : Type} [StoredRef P] (scope : RunScope) (j : RunJournal P)
    (p : RunProcess) : Prop where
  scope_eq : p.trusted.scope = scope
  cache : p.state.governed.cache.Built
  increasing : Increasing p.history j.clock
  history : p.history.map (·.call) = p.state.coordinator.records
  rows : (callsOfRun j.rows scope.runId).map (·.call) = p.state.coordinator.records ++ p.storedRead
  refs : readRefs scope j.events = some (p.state.coordinator.evidenceRefs ++ p.storedRefs)
  traced : ∀ record governed, p.point = .rowStored record governed ∨
    p.point = .eventStored record governed → record.Traced ∧ governed.cache.Built
  absorbed : ∀ c ∈ p.absorbed, c.Rebuildable p.trusted ∧
    c.records = p.state.coordinator.records ∧ c.evidenceRefs = p.state.coordinator.evidenceRefs

end RunProcess

namespace RunJournal

variable {P : Type} [StoredRef P] {idOrder : ToolCallId → ToolCallId → Bool} {scope : RunScope}
  {j j' : RunJournal P}

structure Consistent (scope : RunScope) (j : RunJournal P) : Prop where
  events : j.events.Valid
  calls : Increasing (callsOfRun j.rows scope.runId) j.clock
  process : ∀ p, j.process = some p → p.Follows scope j

omit [ProofDigest] [ResultDigest] in
theorem Consistent.empty (clock : Instant) : (RunJournal.empty clock : RunJournal P).Consistent scope where
  events := .empty
  calls := ⟨List.Pairwise.nil, by simp [RunJournal.empty, callsOfRun]⟩
  process := by
    intro p hp
    cases hp

omit [ProofDigest] [ResultDigest] in
/-- A new process starts from what the tables hold. -/
theorem Consistent.start (h : j.Consistent scope) {trusted : TrustedToolContext} {c : Coordinator}
    {governed : GovernedState} (hscope : trusted.scope = scope) (hcache : governed.cache.Built)
    (hc : rebuildCoordinator idOrder trusted j.rows j.events = some c) :
    Consistent scope { j with
      process := some (.started trusted c governed (listToolCalls idOrder j.rows trusted.runId)) } := by
  refine ⟨h.events, h.calls, ?_⟩
  rintro p hp
  obtain rfl := Option.some.inj hp
  obtain ⟨refs, hrefs, rfl⟩ := Option.map_eq_some_iff.mp hc
  have hrun : trusted.runId = scope.runId := by rw [← hscope]; rfl
  have hcalls : listToolCalls idOrder j.rows trusted.runId = callsOfRun j.rows scope.runId := by
    rw [listToolCalls, hrun, h.calls.requestOrder_eq]
  exact
    { scope_eq := hscope
      cache := hcache
      increasing := by
        show Increasing (listToolCalls idOrder j.rows trusted.runId) j.clock
        rw [hcalls]
        exact h.calls
      history := rfl
      rows := by
        rw [← hcalls]
        exact (List.append_nil _).symm
      refs := by
        rw [← hscope, hrefs]
        exact congrArg some (List.append_nil _).symm
      traced := by
        rintro record governed (hpoint | hpoint) <;> cases hpoint
      absorbed := by
        intro c hc
        cases hc }

omit [ProofDigest] [ResultDigest] in
/-- The state of a process moves, and the tables hold the same of the run. -/
theorem Consistent.setProcess (h : j.Consistent scope) {p' : RunProcess}
    {now : Instant} (hnow : j.clock ≤ now) (hfollows : p'.Follows scope { j with clock := now }) :
    Consistent scope { j with process := some p', clock := now } := by
  refine ⟨h.events, h.calls.mono hnow, ?_⟩
  rintro q hq
  obtain rfl := Option.some.inj hq
  exact { hfollows with }

omit [ProofDigest] [ResultDigest] in
/-- Whatever happens around a run leaves what its tables hold of it. -/
theorem Consistent.surround (h : j.Consistent scope) {rows : List StoredCall}
    {events : EventTables P} {now : Instant} (hevents : events.Valid)
    (hrows : callsOfRun rows scope.runId = callsOfRun j.rows scope.runId)
    (hrefs : ∀ refs, readRefs scope j.events = some refs → readRefs scope events = some refs)
    (hnow : j.clock ≤ now) :
    Consistent scope { j with rows := rows, events := events, clock := now } := by
  refine ⟨hevents, ?_, fun p hp => ?_⟩
  · show Increasing (callsOfRun rows scope.runId) now
    rw [hrows]
    exact h.calls.mono hnow
  · have hfollows := h.process p hp
    exact
      { hfollows with
        increasing := hfollows.increasing.mono hnow
        rows := by
          show (callsOfRun rows scope.runId).map _ = _
          rw [hrows]
          exact hfollows.rows
        refs := hrefs _ hfollows.refs }

/-- One step of the journal. -/
theorem Consistent.step (h : j.Consistent scope) (hstep : Step idOrder scope j j') :
    j'.Consistent scope := by
  cases hstep with
  | start hscope hcache hc => exact h.start hscope hcache hc
  | @agent p catalog selector node state hp hpoint hstep =>
    have hfollows := h.process p hp
    obtain ⟨hsame, hcache, -⟩ := InvestigationGraph.callModel_spec hstep
    have hrows := hfollows.rows
    rw [RunProcess.storedRead, hpoint] at hrows
    have hrefs := hfollows.refs
    rw [RunProcess.storedRefs, hpoint] at hrefs
    refine h.setProcess (le_refl _)
      { scope_eq := hfollows.scope_eq
        cache := hcache ▸ hfollows.cache
        increasing := hfollows.increasing
        history := hfollows.history.trans hsame.records.symm
        rows := ?_
        refs := ?_
        traced := ?_
        absorbed := ?_ }
    · rw [hsame.records]
      exact hrows
    · rw [hsame.evidenceRefs]
      exact hrefs
    · rintro record governed (h | h) <;> cases h
    · intro c hc
      obtain ⟨hbuild, hrecords, hevidence⟩ := hfollows.absorbed c hc
      exact ⟨hbuild, hrecords.trans hsame.records.symm, hevidence.trans hsame.evidenceRefs.symm⟩
  | @storeRow p catalog tool arguments record governed now hp hpoint hread hnow =>
    have hfollows := h.process p hp
    obtain ⟨htraced, hbuilt⟩ := InvestigationGraph.traceRead_traced hfollows.cache hread
    have hrun : p.trusted.runId = scope.runId := by rw [← hfollows.scope_eq]; rfl
    have hrows : callsOfRun (j.rows ++ [⟨⟨now, record⟩, p.trusted.runId⟩]) scope.runId
        = callsOfRun j.rows scope.runId ++ [⟨now, record⟩] := by
      rw [hrun]
      exact callsOfRun_append_own j.rows _ _
    have hstored : p.storedRead = [] := by rw [RunProcess.storedRead, hpoint]
    have hrefs := hfollows.refs
    rw [RunProcess.storedRefs, hpoint] at hrefs
    refine ⟨h.events, ?_, ?_⟩
    · show Increasing (callsOfRun _ scope.runId) now
      rw [hrows]
      exact h.calls.snoc hnow record
    rintro q hq
    obtain rfl := Option.some.inj hq
    refine
      { scope_eq := hfollows.scope_eq
        cache := hfollows.cache
        increasing := hfollows.increasing.mono hnow.le
        history := hfollows.history
        rows := ?_
        refs := hrefs
        traced := ?_
        absorbed := hfollows.absorbed }
    · show (callsOfRun _ scope.runId).map _ = _
      rw [hrows, List.map_append, hfollows.rows, hstored, List.append_nil]
      rfl
    · rintro record' governed' (e | e) <;> cases e
      exact ⟨htraced, hbuilt⟩
  | @storeEvent p record governed draft now event events hp hpoint hdraft happend =>
    have hfollows := h.process p hp
    obtain ⟨htraced, hbuilt⟩ := hfollows.traced record governed (Or.inl hpoint)
    have hrows := hfollows.rows
    rw [RunProcess.storedRead, hpoint] at hrows
    have hbefore := hfollows.refs
    rw [RunProcess.storedRefs, hpoint] at hbefore
    simp only [List.append_nil] at hbefore
    refine ⟨h.events.append happend, h.calls, ?_⟩
    rintro q hq
    obtain rfl := Option.some.inj hq
    exact
      { scope_eq := hfollows.scope_eq
        cache := hfollows.cache
        increasing := hfollows.increasing
        history := hfollows.history
        rows := hrows
        refs := readRefs_ended h.events happend hbefore hdraft htraced
        traced := by
          rintro record' governed' (e | e) <;> cases e
          exact ⟨htraced, hbuilt⟩
        absorbed := hfollows.absorbed }
  | @absorb p record governed now hp hpoint hnow =>
    have hfollows := h.process p hp
    obtain ⟨htraced, hbuilt⟩ := hfollows.traced record governed (Or.inr hpoint)
    have hread : p.storedRead = [record] := by rw [RunProcess.storedRead, hpoint]
    have hrefs : p.storedRefs = record.refs := by rw [RunProcess.storedRefs, hpoint]
    refine h.setProcess hnow.le
      { scope_eq := hfollows.scope_eq
        cache := hbuilt
        increasing := hfollows.increasing.snoc hnow record
        history := ?_
        rows := ?_
        refs := ?_
        traced := ?_
        absorbed := ?_ }
    · rw [List.map_append, hfollows.history]
      rfl
    · have hrows := hfollows.rows
      rw [hread] at hrows
      exact hrows.trans (List.append_nil _).symm
    · have hafter := hfollows.refs
      rw [hrefs] at hafter
      exact hafter.trans (congrArg some (List.append_nil _).symm)
    · rintro record' governed' (e | e) <;> cases e
    · intro c hc
      obtain rfl := Option.some.inj hc
      exact ⟨Coordinator.onToolResult_rebuildable _ _ htraced, rfl, rfl⟩
  | @otherRow row hrow =>
    exact h.surround h.events (callsOfRun_append_other j.rows hrow) (fun _ hr => hr) (le_refl _)
  | @otherEvent draft now event events hdraft happend =>
    exact h.surround (h.events.append happend) rfl
      (fun _ hr => readRefs_foreign h.events happend hr hdraft) (le_refl _)
  | createConversation hnew =>
    exact h.surround (h.events.createConversation hnew) rfl (fun _ hr => hr) (le_refl _)
  | tick hnow => exact h.surround h.events rfl (fun _ hr => hr) hnow.le

theorem Reachable.consistent (h : Reachable idOrder scope j) : j.Consistent scope := by
  induction h with
  | init clock => exact .empty clock
  | step _ hstep ih => exact ih.step hstep

omit [ProofDigest] [ResultDigest] in
/-- What the tables yield to a new coordinator: the records in the order of the reads. -/
theorem Consistent.rebuildCoordinator_eq (h : j.Consistent scope) {p : RunProcess}
    (hp : j.process = some p) : rebuildCoordinator idOrder p.trusted j.rows j.events =
      some (Coordinator.init p.trusted (p.state.coordinator.records ++ p.storedRead)
        (p.state.coordinator.evidenceRefs ++ p.storedRefs)) := by
  have hfollows := h.process p hp
  have hrun : p.trusted.runId = scope.runId := by rw [← hfollows.scope_eq]; rfl
  rw [rebuildCoordinator, hfollows.scope_eq, hfollows.refs, listToolCalls, hrun,
    h.calls.requestOrder_eq, hfollows.rows]
  rfl

end RunJournal

open RunJournal in
/-- A coordinator built anew from the tables, while row and event of the last read are stored, has
    the progress and the pending retry of the online one; neither history needs sorting. -/
theorem restart_equivalent {P : Type} [StoredRef P] {idOrder : ToolCallId → ToolCallId → Bool}
    {scope : RunScope} {j : RunJournal P} {p : RunProcess} {online : Coordinator}
    (h : Reachable idOrder scope j) (hp : j.process = some p)
    (honline : p.afterLastRead = some online) :
    (∃ c, rebuildCoordinator idOrder p.trusted j.rows j.events = some c ∧
      c.progress = online.progress ∧ c.pendingRetry.map RetryDirective.identity
        = online.pendingRetry.map RetryDirective.identity) ∧
    requestOrder idOrder p.history = p.history ∧
    requestOrder idOrder (listToolCalls idOrder j.rows p.trusted.runId)
      = listToolCalls idOrder j.rows p.trusted.runId := by
  have hconsistent := h.consistent
  have hfollows := hconsistent.process p hp
  have hrun : p.trusted.runId = scope.runId := by rw [← hfollows.scope_eq]; rfl
  have hsorted := hconsistent.calls.requestOrder_eq idOrder
  refine ⟨⟨_, hconsistent.rebuildCoordinator_eq hp, ?_⟩, hfollows.increasing.requestOrder_eq idOrder,
    by rw [listToolCalls, hrun, hsorted, hsorted]⟩
  unfold RunProcess.afterLastRead at honline
  cases hpoint : p.point with
  | node node =>
    rw [hpoint] at honline
    obtain ⟨hbuild, hrecords, hrefs⟩ := hfollows.absorbed online honline
    have hread : p.storedRead = [] := by rw [RunProcess.storedRead, hpoint]
    have hnone : p.storedRefs = [] := by rw [RunProcess.storedRefs, hpoint]
    rw [hread, hnone, List.append_nil, List.append_nil, ← hrecords, ← hrefs]
    exact hbuild
  | rowStored record governed =>
    rw [hpoint] at honline
    cases honline
  | eventStored record governed =>
    rw [hpoint] at honline
    obtain rfl := Option.some.inj honline
    have hread : p.storedRead = [record] := by rw [RunProcess.storedRead, hpoint]
    have hrefs : p.storedRefs = record.refs := by rw [RunProcess.storedRefs, hpoint]
    rw [hread, hrefs]
    exact Coordinator.onToolResult_rebuildable governed.budget record.refs
      (hfollows.traced record governed (Or.inr hpoint)).1

end AfterSales

/-! ### A first read that times out -/

namespace AfterSales

section Timeout

attribute [local instance] PolicyDigest.bySource ProofDigest.byId ResultDigest.byName

local instance timeoutStoredRef : StoredRef EvidenceRef where
  storable := fun _ => true
  dump := id
  validate := some
  validate_dump := fun _ => rfl

/-- One order, whose context cannot be read at the first attempt. -/
def timeoutCatalog : SyntheticReadToolCatalog where
  store :=
    { fixtureVersion := "business-demo-v1"
      orders := fun id => if id = "ORD-1" then
        some ⟨"ORD-1", "CUS-1", .delivered, "standard", "cn-east", "order-v1"⟩ else none
      timelines := fun _ => []
      deliveryProofs := fun _ => none
      carrierAlerts := fun _ => []
      shipments := fun _ => []
      investigationCases := []
      faults := fun _ tool attempt =>
        if tool = .getOrderContext ∧ attempt = 1 then some ⟨.retryableError, "TIMEOUT", by decide⟩
        else none
      actionFaultPlan := fun _ => []
      baseTickets := []
      dynamicTickets := []
      ticketRevision := 0
      actionFaultPositions := fun _ => 0
      ordersKey := by
        intro id o h
        rw [Option.ite_none_right_eq_some] at h
        obtain ⟨rfl, ⟨⟩⟩ := h
        rfl }
  policyRag :=
    { corpus := .empty
      prose := plainProse
      sourceRevision := "corpus-v1"
      passageHash := fun c => c.contentHash
      rank := fun _ _ _ => .ok []
      minimumSimilarity := 0 }

def timeoutTrusted : TrustedToolContext where
  customerId := "CUS-1"
  conversationId := "CONV-1"
  caseId := "CASE-1"
  runId := "RUN-1"
  authorizedOrderId := "ORD-1"
  canonicalIssueType := .signedNotReceived
  fixtureVersion := "business-demo-v1"
  faultSeed := "default"
  evaluatedAt := 0
  targetShipmentId := none

def firstId : ToolCallId → ToolCallId → Bool := fun _ _ => true

/-- The first turn of a selector that asks for the order. -/
def timeoutTurn : Except GraphFailure (GraphNode × InvestigationState) :=
  InvestigationGraph.step timeoutCatalog timeoutTrusted (followOrder [.getOrderContext]) .agent
    ⟨Coordinator.init timeoutTrusted [] [], ⟨.empty, .fresh⟩, 0, false⟩

/-- The event of a read, as its executor drafts it. -/
def timeoutDraft (record : CallRecord) : EventDraft EvidenceRef where
  conversationId := "CONV-1"
  eventType := record.endingEvent
  visibility := .developer
  summary := "get_order_context returned unavailable"
  payload := ⟨record.toolCallId, "", none, 0, ""⟩
  evidenceRefs := record.refs
  caseId := some "CASE-1"
  runId := some "RUN-1"
  schemaVersion := 1
  timestamp := none
  eventId := "evt-1"
  namesConversation := EventStore.caseCreated.namesConversation
  namesType := record.isEventType_endingEvent
  versioned := EventStore.caseCreated.versioned
  summarized := by decide

theorem timeoutDraft_appended (record : CallRecord) :
    ∃ event events, (EventTables.empty.createConversation "CONV-1").append (timeoutDraft record) 2
      = .ok (event, events) := by
  have hstorable : ∀ ref : EvidenceRef, EventPayload.storable ref = true := fun _ => rfl
  simp [EventTables.append, EventTables.createConversation, EventTables.empty, timeoutDraft,
    hstorable]

/-- The first read of the run, as its turn asks for it. -/
theorem timeoutTurn_reads : ∃ tool arguments s record governed,
    timeoutTurn = .ok (.tools tool arguments, s) ∧
      InvestigationGraph.traceRead timeoutCatalog timeoutTrusted s tool arguments
        = (.ok record, governed) := by
  have hasked : (match timeoutTurn with
      | .ok (.tools tool arguments, s) =>
        (InvestigationGraph.traceRead timeoutCatalog timeoutTrusted s tool
          arguments).1.toOption.isSome
      | _ => false) = true := by decide +kernel
  split at hasked
  · rename_i tool arguments s hturn
    cases hread : InvestigationGraph.traceRead timeoutCatalog timeoutTrusted s tool arguments with
    | mk answer governed =>
      rw [hread] at hasked
      cases answer with
      | ok record => exact ⟨tool, arguments, s, record, governed, hturn, hread⟩
      | error e => cases hasked
  · cases hasked

theorem restart_after_timeout : ∃ (j : RunJournal EvidenceRef) (p : RunProcess)
    (online c : Coordinator), j.rows ≠ [] ∧ p.afterLastRead = some online ∧
      rebuildCoordinator firstId p.trusted j.rows j.events = some c ∧
      c.progress = online.progress ∧ c.pendingRetry.map RetryDirective.identity
        = online.pendingRetry.map RetryDirective.identity := by
  obtain ⟨tool, arguments, s, record, governed, hturn, hread⟩ := timeoutTurn_reads
  have hcreated : RunJournal.Reachable (P := EvidenceRef) firstId timeoutTrusted.scope
      { RunJournal.empty 0 with events := EventTables.empty.createConversation "CONV-1" } :=
    .step (.init 0) (.createConversation rfl)
  have hclock : (0 : Instant) < 1 := by decide
  have hstarted := hcreated.step (@RunJournal.Step.start _ _ _ _ _ _ _ _ timeoutTrusted
    (Coordinator.init timeoutTrusted [] []) .empty .fresh rfl .empty rfl)
  have hasked := hstarted.step (.agent rfl rfl hturn)
  have hrow := hasked.step (@RunJournal.Step.storeRow _ _ _ _ _ _ _ _ _ timeoutCatalog _ _ _ _ 1
    rfl rfl hread hclock)
  obtain ⟨event, events, happend⟩ := timeoutDraft_appended record
  have hevent := hrow.step (.storeEvent rfl rfl
    ⟨rfl, rfl, rfl, rfl, (List.map_id _).symm⟩ happend)
  obtain ⟨⟨c, hc, hprogress, hretry⟩, -⟩ := restart_equivalent hevent rfl rfl
  exact ⟨_, _, _, c, by simp, rfl, hc, hprogress, hretry⟩

end Timeout

end AfterSales
