import AfterSales.CaseFacts.Service

/-! What the operations of the service are made of: transactions, events, and the life of a run.

    An operation is a program of atomic steps on its own conversation and on what all conversations
    share. Between two awaits of the source nothing else runs, so the code between them is one step;
    a transaction in it leaves no trace when it raises. Every step is labelled with what it is for. -/

namespace AfterSales
open Interleave Repository

/-- What the steps of an operation are for. -/
inductive Label where
  /-- An event is appended. -/
  | event
  /-- A run is queued for a message, for a retry, or for the answer to a proposal. -/
  | receive
  | retry (caseId : RowId)
  | answer (proposalId : ProposalId)
  /-- A run is started. -/
  | start
  /-- A run is failed, and an event of some type is to tell it. -/
  | fail (eventType : String)
  /-- A run succeeds that no investigation decided. -/
  | finish
  /-- A policy route is recorded. -/
  | record
  /-- A case is opened. -/
  | openCase
  /-- Rows of a case are read or written while its run goes on. -/
  | progress
  /-- The graph is invoked for a pass over a case. -/
  | explore (caseId runId : RowId) (investigationPass : Nat)
  /-- The stored snapshot of a case is loaded, and its facts may be changed. -/
  | load (caseId : RowId)
  /-- A reply is read, and what it says of the case is stored. -/
  | read (caseId : RowId)
  /-- The gate of a run is evaluated. -/
  | evaluate
  /-- An investigation that raised leaves its case to be retried. -/
  | park (caseId runId : RowId) (pass : Nat)
  /-- The result of an investigation is applied to its case. -/
  | settle (caseId runId : RowId) (pass : Nat)
  /-- A proposal is reviewed for its confirmation, or for its decline. -/
  | review (proposalId : ProposalId) (version : Nat)
  | reviewDecline (proposalId : ProposalId) (version : Nat)
  /-- The write of an action is submitted, and what came of it is recorded. -/
  | submit (actionId : ActionId)
  | outcome (actionId : ActionId)
  deriving DecidableEq, Repr

/-- The settings that decide what an operation does. -/
structure Settings where
  faultSeed : String
  evaluatedAt : Instant

namespace Repository

variable [PolicyDigest]

/-- `append` of the event store. -/
def appendEvents (events : List ServiceEvent) : Tx Unit := do
  let l ← conversation
  setConversation { l with events := l.events ++ events }

/-- `add_message` of a customer. -/
def addMessage (message : MessageRow) : Tx Unit := do
  let l ← conversation
  setConversation { l with messages := l.messages ++ [message] }

end Repository

namespace ConversationStore

variable [PolicyDigest] (l : ConversationStore)

/-- The planning turns that the events of a run record. -/
def turnsOfRun (runId : RowId) : Nat :=
  l.events.countP fun e => e.eventType = "agent_turn_started" ∧ e.runId = some runId

/-- The planning turns that the events of a case record. -/
def turnsOfCase (caseId : RowId) : Nat :=
  l.events.countP fun e => e.eventType = "agent_turn_started" ∧ e.caseId = some caseId

/-- The events that one page of the log holds at most. -/
def observedEvents : Nat := 5000

/-- The planning turns that `_observed_run_usage` finds: those among the first events. -/
def observedTurns (runId : RowId) : Nat :=
  (l.events.take observedEvents).countP fun e =>
    e.eventType = "agent_turn_started" ∧ e.runId = some runId

/-- The disposition that the last customer-visible event of a case carries, if one does. -/
def lastDisposition (caseId : RowId) : Option CustomerDisposition :=
  ((l.events.filter fun e => e.caseId = some caseId ∧ e.visibility ≠ .developer).filterMap
    (·.customerDisposition)).getLast?

end ConversationStore

namespace CaseFolder

variable [PolicyDigest] (f : CaseFolder)

/-- The reads of a case that reached their source. -/
def readsOfCase : Nat := f.toolCalls.countP (·.call.actualExecution)

/-- The reads of a run that reached their source. -/
def readsOfRun (runId : RowId) : Nat :=
  f.toolCalls.countP fun row => row.call.actualExecution ∧ row.runId = runId

/-- The calls of a run. -/
def callsOfRun (runId : RowId) : List CallRecord :=
  (f.toolCalls.filter (·.runId = runId)).map (·.call)

/-- The facts that `_case_disposition` projects. -/
def dispositionFacts : DispositionFacts where
  caseState := some f.row.caseState
  caseOutcome := f.row.caseOutcome
  proposalState := f.proposals.getLast?.map (·.proposalState)
  actionState := f.actions.getLast?.map (·.actionState)
  reasonCode := f.row.reasonCode

/-- `_case_disposition`: what `get_case` and `get_conversation` report. -/
def caseDisposition : CustomerDisposition := projectCustomerDisposition f.dispositionFacts

end CaseFolder

variable [PolicyDigest]

/-- What an operation returns: its run, its case, and the disposition some answers carry. -/
structure OperationResult where
  runId : RowId
  caseId : Option RowId
  customerDisposition : Option CustomerDisposition := none
  deriving DecidableEq, Repr

abbrev Service (α : Type) : Type := Op ServiceState Label ServiceError α

namespace Service

/-- A transaction, and the code around it up to the next await. -/
def transaction {α : Type} (label : Label) (t : Tx α) : Service α :=
  Op.segment label (Transaction.commit t)

/-- An event is appended. -/
def emit (event : ServiceEvent) : Service Unit := transaction .event (appendEvents [event])

/-- An `ApplicationError`. -/
def refuse {α : Type} (code : String) (statusCode : Nat) : Service α :=
  Op.throw (.application code statusCode)

/-- Raises what a lookup of the source answers with 404. -/
def found {α : Type} (code : String) : Option α → Tx α
  | some a => pure a
  | none => throw (.application code 404)

/-! ### Events -/

/-- `_emit_customer_reply`. -/
def emitCustomerReply (runId : RowId) (caseId : Option RowId)
    (disposition : CustomerDisposition := .answer) : Service Unit :=
  emit ⟨"customer_reply_created", .customer, caseId, some runId, some disposition, none, false⟩

/-- `_emit_run_succeeded`. -/
def emitRunSucceeded (runId : RowId) (caseId : Option RowId) : Service Unit :=
  emit ⟨"run_succeeded", .developer, caseId, some runId, none, none, false⟩

/-- `_emit_customer_reply_and_run_success`. -/
def emitCustomerReplyAndRunSuccess (runId : RowId) (caseId : Option RowId)
    (disposition : CustomerDisposition) : Service Unit := do
  emitCustomerReply runId caseId disposition
  emitRunSucceeded runId caseId

/-- An event of a case that the customer and the developer see. -/
def emitCase (eventType : String) (runId caseId : RowId)
    (disposition : Option CustomerDisposition := none) : Service Unit :=
  emit ⟨eventType, .both, some caseId, some runId, disposition, none, false⟩

/-! ### The life of a run -/

/-- `_start_run`. -/
def startRun (runId : RowId) (caseId : Option RowId) : Service Unit := do
  transaction .start (updateRun runId .running)
  emit ⟨"run_started", .developer, caseId, some runId, none, none, false⟩

/-- `_fail_run`. -/
def failRun (runId : RowId) (caseId : Option RowId) (failureCode eventType : String)
    (planningTurnCount actualReadToolExecutionCount : Option Nat := none) : Service Unit := do
  transaction (.fail eventType)
    (updateRun runId .failed planningTurnCount actualReadToolExecutionCount (some failureCode))
  emit ⟨eventType, .both, caseId, some runId, none, none, false⟩

end Service

end AfterSales
