import AfterSales.Lib.Interleave
import AfterSales.Storage.Rows

/-! The repository: reads and guarded changes of the stored rows.

    Every change checks what the source checks, the constraints of the tables included, before it
    writes. A change that is refused raises, and the transaction it is part of leaves no trace. -/

namespace AfterSales
open Interleave

variable [PolicyDigest]

abbrev Tx (α : Type) : Type := Transaction ServiceState ServiceError α

/-! ### Cases and runs -/

/-- The changes of one `update_case`; an absent field keeps its value. -/
structure CaseUpdate where
  caseState : Option CaseState := none
  caseOutcome : Option CaseOutcome := none
  reasonCode : Option String := none
  businessClarificationCount : Option Nat := none
  actualReadToolExecutionCount : Option Nat := none
  agentPlanningTurnCount : Option Nat := none
  activeProposalId : Option ProposalId := none
  targetShipmentId : Option String := none

/-- The row that an update leaves. -/
def CaseRow.updated (row : CaseRow) (u : CaseUpdate) : CaseRow :=
  { row with
    caseState := u.caseState.getD row.caseState
    caseOutcome := u.caseOutcome.or row.caseOutcome
    reasonCode := u.reasonCode.or row.reasonCode
    businessClarificationCount :=
      u.businessClarificationCount.getD row.businessClarificationCount
    actualReadToolExecutionCount :=
      u.actualReadToolExecutionCount.getD row.actualReadToolExecutionCount
    agentPlanningTurnCount := u.agentPlanningTurnCount.getD row.agentPlanningTurnCount
    activeProposalId := u.activeProposalId.or row.activeProposalId
    targetShipmentId := u.targetShipmentId.or row.targetShipmentId
    revision := row.revision + 1 }

/-- A closed case has an outcome and a reason, an open one neither. -/
def CaseRow.Closing (row : CaseRow) : Prop :=
  if row.caseState = .closed then row.caseOutcome.isSome ∧ ∃ r ∈ row.reasonCode, r ≠ ""
  else row.caseOutcome = none ∧ row.reasonCode = none

instance (row : CaseRow) : Decidable row.Closing := by
  unfold CaseRow.Closing
  infer_instance

/-- The budgets of a case. -/
def CaseRow.WithinBudget (row : CaseRow) : Prop :=
  row.businessClarificationCount ≤ 2 ∧ row.actualReadToolExecutionCount ≤ 6 ∧
    row.agentPlanningTurnCount ≤ 16

instance (row : CaseRow) : Decidable row.WithinBudget :=
  inferInstanceAs (Decidable (_ ∧ _ ∧ _))

/-- The checks of `update_case`. -/
def CaseRow.update (row : CaseRow) (expectedRevision : Option Nat) (u : CaseUpdate) :
    Except StorageError CaseRow :=
  if ∃ r ∈ expectedRevision, row.revision ≠ r then .error .concurrentMutation
  else if row.caseState = .closed then .error .invalidStateTransition
  else if ¬ (row.updated u).Closing then .error .invalidStateTransition
  else if ¬ (row.updated u).WithinBudget then .error .value
  else .ok (row.updated u)

/-- The checks of `update_run`. -/
def RunRow.update (row : RunRow) (runState : RunState) (planningTurnCount : Option Nat)
    (actualReadToolExecutionCount : Option Nat) (failureCode : Option String) :
    Except StorageError RunRow :=
  let turns := planningTurnCount.getD row.planningTurnCount
  let reads := actualReadToolExecutionCount.getD row.actualReadToolExecutionCount
  if runState ≠ row.runState ∧ runState ∉ runTransitions row.runState then
    .error .invalidStateTransition
  else if runState = .failed ∧ ∀ code ∈ failureCode, code = "" then .error .invalidStateTransition
  else if runState ≠ .failed ∧ failureCode.isSome then .error .invalidStateTransition
  else if 8 < turns ∨ 6 < reads then .error .value
  else .ok { row with
    runState := runState
    planningTurnCount := turns
    actualReadToolExecutionCount := reads
    failureCode := failureCode }

/-- The checks of `update_action_state`. -/
def ActionRow.update (row : ActionRow) (actionState : ActionState) (changedAt : Instant)
    (errorCode : Option String) (submittedAt verifiedAt : Option Instant) :
    Except StorageError ActionRow :=
  if actionState ≠ row.actionState ∧ actionState ∉ actionTransitions row.actionState then
    .error .invalidStateTransition
  else
    let nextSubmittedAt :=
      if actionState = .ready then none
      else (submittedAt.or row.submittedAt).or (some changedAt)
    let nextVerifiedAt :=
      if actionState = .ready then none
      else verifiedAt.or (if actionState = .succeeded then some changedAt else none)
    if actionState = .succeeded ∧ nextVerifiedAt = none then .error .invalidStateTransition
    else if actionState ≠ .succeeded ∧ verifiedAt.isSome then .error .invalidStateTransition
    else .ok { row with
      actionState := actionState
      errorCode := errorCode
      submittedAt := nextSubmittedAt
      verifiedAt := nextVerifiedAt }

namespace ConversationStore

def setFolder (l : ConversationStore) (caseId : RowId) (f : CaseFolder) : ConversationStore :=
  { l with folders := Function.update l.folders caseId (some f) }

def setRun (l : ConversationStore) (runId : RowId) (row : RunRow) : ConversationStore :=
  { l with runs := Function.update l.runs runId (some row) }

/-- Stores the folder of a case that changed; a case that closes is no longer the active one. -/
def putCase (l : ConversationStore) (caseId : RowId) (f : CaseFolder) : ConversationStore :=
  { l.setFolder caseId f with
    activeCaseId := if f.row.caseState = .closed ∧ l.activeCaseId = some caseId then none
      else l.activeCaseId }

section Updates

variable (l : ConversationStore) (caseId runId : RowId) (f g : CaseFolder) (row : RunRow)

@[simp] theorem setFolder_self : (l.setFolder caseId f).folders caseId = some f :=
  Function.update_self ..

@[simp] theorem setFolder_messages : (l.setFolder caseId f).messages = l.messages := rfl
@[simp] theorem setFolder_events : (l.setFolder caseId f).events = l.events := rfl
@[simp] theorem setFolder_runs : (l.setFolder caseId f).runs = l.runs := rfl
@[simp] theorem setFolder_nextSerial : (l.setFolder caseId f).nextSerial = l.nextSerial := rfl
@[simp] theorem setFolder_activeCaseId : (l.setFolder caseId f).activeCaseId = l.activeCaseId := rfl

@[simp] theorem setFolder_setFolder :
    (l.setFolder caseId f).setFolder caseId g = l.setFolder caseId g := by
  simp [setFolder]

@[simp] theorem setRun_self : (l.setRun runId row).runs runId = some row := Function.update_self ..
@[simp] theorem setRun_folders : (l.setRun runId row).folders = l.folders := rfl
@[simp] theorem setRun_messages : (l.setRun runId row).messages = l.messages := rfl
@[simp] theorem setRun_events : (l.setRun runId row).events = l.events := rfl
@[simp] theorem setRun_nextSerial : (l.setRun runId row).nextSerial = l.nextSerial := rfl
@[simp] theorem setRun_activeCaseId : (l.setRun runId row).activeCaseId = l.activeCaseId := rfl

@[simp] theorem putCase_self : (l.putCase caseId f).folders caseId = some f :=
  Function.update_self ..

@[simp] theorem putCase_messages : (l.putCase caseId f).messages = l.messages := rfl
@[simp] theorem putCase_events : (l.putCase caseId f).events = l.events := rfl
@[simp] theorem putCase_runs : (l.putCase caseId f).runs = l.runs := rfl
@[simp] theorem putCase_nextSerial : (l.putCase caseId f).nextSerial = l.nextSerial := rfl

@[simp] theorem setFolder_putCase :
    (l.setFolder caseId f).putCase caseId g = l.putCase caseId g := by
  rw [putCase, setFolder_setFolder]
  rfl

variable {l caseId f g}

/-- An open case stays the active one. -/
theorem putCase_of_open (h : f.row.caseState ≠ .closed) :
    l.putCase caseId f = l.setFolder caseId f := by
  simp [putCase, setFolder, h]

/-- Storing a folder again, in the same state. -/
theorem putCase_setFolder (h : g.row.caseState = f.row.caseState) :
    (l.putCase caseId f).setFolder caseId g = l.putCase caseId g := by
  unfold putCase setFolder
  simp only [h, Function.update_idem]

theorem putCase_of_ne {other : RowId} (h : other ≠ caseId) :
    (l.putCase caseId f).folders other = l.folders other :=
  Function.update_of_ne h ..

theorem setFolder_of_ne {other : RowId} (h : other ≠ caseId) :
    (l.setFolder caseId f).folders other = l.folders other :=
  Function.update_of_ne h ..

theorem setRun_of_ne {other : RowId} (h : other ≠ runId) :
    (l.setRun runId row).runs other = l.runs other :=
  Function.update_of_ne h ..

/-- Storing the folder that is stored changes nothing. -/
theorem setFolder_same (h : l.folders caseId = some f) : l.setFolder caseId f = l := by
  have hsame : Function.update l.folders caseId (some f) = l.folders := by
    rw [← h, Function.update_eq_self]
  rw [setFolder, hsame]

end Updates

/-- `get_active_case`: the case the pointer names, unless it is closed. -/
def activeCase (l : ConversationStore) : Option (RowId × CaseFolder) := do
  let caseId ← l.activeCaseId
  let f ← l.folders caseId
  if f.row.caseState = .closed then none else some (caseId, f)

/-- `get_message`. -/
def getMessage (l : ConversationStore) (messageId : RowId) : Option MessageRow :=
  l.messages.find? fun m => m.messageId = messageId

/-- The messages of a case, oldest first. -/
def customerMessages (l : ConversationStore) (caseId : RowId) : List MessageRow :=
  l.messages.filter fun m => m.caseId = some caseId

end ConversationStore

/-- Two active tickets that one of the two unique indexes keeps apart. -/
def TicketRow.clashes (a b : TicketRow) : Bool :=
  a.active && b.active && decide (a.authorizedOrderId = b.authorizedOrderId) &&
    decide (a.issueType = b.issueType) && decide (a.targetShipmentId = b.targetShipmentId)

/-- The constraints of the table of tickets refuse the row. -/
def ticketRefused (tickets : List TicketRow) (ticket : TicketRow) : Bool :=
  tickets.any fun t => t.ticketId = ticket.ticketId || t.actionId = ticket.actionId ||
    TicketRow.clashes t ticket

/-- What a key may be reused for: the very ticket it was used for. -/
def TicketRow.identity (t : TicketRow) :
    RowId × ActionId × String × String × Option String × IssueType :=
  (t.caseId, t.actionId, t.customerId, t.authorizedOrderId, t.targetShipmentId, t.issueType)

namespace Repository

def raise {α : Type} (e : StorageError) : Tx α := throw (.storage e)

/-- Raise when a condition holds. -/
def refuse (p : Prop) [Decidable p] (e : StorageError) : Tx Unit := if p then raise e else pure ()

def lift {α : Type} : Except StorageError α → Tx α
  | .ok a => pure a
  | .error e => raise e

/-- A value that a row must have. -/
def require {α : Type} (entity : String) : Option α → Tx α
  | some a => pure a
  | none => raise (.lookup entity)

/-- The rows of the conversation. -/
def conversation : Tx ConversationStore := fun x => .ok (x.1, x)

/-- What the conversations share. -/
def shared : Tx SharedState := fun x => .ok (x.2, x)

def setConversation (l : ConversationStore) : Tx Unit := fun x => .ok ((), (l, x.2))

def setShared (s : SharedState) : Tx Unit := fun x => .ok ((), (x.1, s))

/-- `require_case`, with the rows that belong to the case. -/
def requireCase (caseId : RowId) : Tx CaseFolder := do
  let l ← conversation
  require "InvestigationCase" (l.folders caseId)

def putFolder (caseId : RowId) (f : CaseFolder) : Tx Unit := do
  let l ← conversation
  setConversation (l.setFolder caseId f)

/-- A fresh serial number of the conversation. -/
def newSerial : Tx Nat := do
  let l ← conversation
  setConversation { l with nextSerial := l.nextSerial + 1 }
  return l.nextSerial

/-- `create_case`. -/
def createCase (caseId : RowId) (row : CaseRow) : Tx Unit := do
  let l ← conversation
  setConversation { l.setFolder caseId ⟨row, [], [], [], [], none, [], []⟩ with
    activeCaseId := if row.caseState = .closed then none else some caseId }

/-- `update_case`; a case that closes is no longer the active one. -/
def updateCase (caseId : RowId) (expectedRevision : Option Nat) (u : CaseUpdate) : Tx Unit := do
  let f ← requireCase caseId
  let row ← lift (f.row.update expectedRevision u)
  let l ← conversation
  setConversation (l.putCase caseId { f with row := row })

/-- `append_issue_revision`. -/
def appendIssueRevision (caseId : RowId) (canonicalIssueType : IssueType)
    (expectedRevision : Option Nat) : Tx Unit := do
  let f ← requireCase caseId
  refuse (f.row.caseState = .closed) .invalidStateTransition
  refuse (∃ r ∈ expectedRevision, f.row.revision ≠ r) .concurrentMutation
  putFolder caseId { f with row := { f.row with
    canonicalIssueType := canonicalIssueType
    revision := f.row.revision + 1 } }

/-- `create_run`. -/
def createRun (runId : RowId) (caseId : Option RowId) : Tx Unit := do
  let l ← conversation
  setConversation (l.setRun runId ⟨caseId, .queued, 0, 0, none, none⟩)

/-- `update_run`. -/
def updateRun (runId : RowId) (runState : RunState) (planningTurnCount : Option Nat := none)
    (actualReadToolExecutionCount : Option Nat := none) (failureCode : Option String := none) :
    Tx Unit := do
  let l ← conversation
  let row ← require "Run" (l.runs runId)
  let row ← lift (row.update runState planningTurnCount actualReadToolExecutionCount failureCode)
  setConversation (l.setRun runId row)

/-! ### Case facts -/

/-- `append_case_fact_assertion`; the id of an assertion stands for its fingerprint. -/
def appendCaseFactAssertion (assertion : CaseFactAssertion) : Tx Unit := do
  let f ← requireCase assertion.caseId
  if assertion.assertionId ∈ f.assertions.map (·.assertionId) then return
  else
    refuse (assertion.assertionSequence ≠ f.assertions.length + 1) .concurrentMutation
    putFolder assertion.caseId { f with assertions := f.assertions ++ [assertion] }

/-- `append_case_fact_question`; the id of a question stands for all that the source compares. -/
def appendCaseFactQuestion (question : FactQuestion) : Tx Unit := do
  let f ← requireCase question.caseId
  if question.questionId ∈ f.questions.map (·.questionId) then return
  else putFolder question.caseId { f with questions := f.questions ++ [question] }

/-- `get_case_fact_consumption_for_question`. -/
def consumptionForQuestion (f : CaseFolder) (questionId : QuestionId) : Option ConsumptionRow :=
  f.consumptions.find? fun c => c.questionId = questionId

/-- `get_case_fact_consumption_for_message`; a message is bound to one case. -/
def consumptionForMessage (f : CaseFolder) (messageId : RowId) : Option ConsumptionRow :=
  f.consumptions.find? fun c => c.sourceMessageId = messageId

/-- `append_case_fact_message_consumption`. -/
def appendCaseFactMessageConsumption (caseId : RowId) (row : ConsumptionRow) : Tx Unit := do
  let f ← requireCase caseId
  match consumptionForQuestion f row.questionId with
  | some existing =>
    refuse (existing.sourceMessageId ≠ row.sourceMessageId ∨
      existing.sourceMessageHash ≠ row.sourceMessageHash ∨
      existing.candidateBatchHash ≠ row.candidateBatchHash) .idempotencyConflict
  | none =>
    refuse (consumptionForMessage f row.sourceMessageId).isSome .idempotencyConflict
    putFolder caseId { f with consumptions := f.consumptions ++ [row] }

/-- `store_case_fact_snapshot`. -/
def storeCaseFactSnapshot (snapshot : CaseFactSnapshot) : Tx Unit := do
  let f ← requireCase snapshot.caseId
  refuse (∃ stored ∈ f.snapshot, snapshot.revision < stored.revision) .concurrentMutation
  putFolder snapshot.caseId { f with snapshot := some snapshot }

/-! ### Proposals, executions and tickets -/

/-- `create_proposal`, with the constraints on versions and pending proposals of a case. -/
def createProposal (proposal : ProposalRow) : Tx Unit := do
  let f ← requireCase proposal.proposalId.caseId
  refuse (∃ p ∈ f.proposals, p.proposalId = proposal.proposalId ∨ p.version = proposal.version ∨
    (p.proposalState = .pendingConfirmation ∧ proposal.proposalState = .pendingConfirmation))
    .integrity
  putFolder proposal.proposalId.caseId { f with proposals := f.proposals ++ [proposal] }

/-- `get_proposal`. -/
def getProposal (l : ConversationStore) (proposalId : ProposalId) : Option ProposalRow := do
  let f ← l.folders proposalId.caseId
  Keyed.find ProposalRow.proposalId proposalId f.proposals

/-- The case lets go of a proposal that is no longer pending. -/
def CaseRow.release (row : CaseRow) (proposalId : ProposalId) (proposalState : ProposalState) :
    CaseRow :=
  if proposalState ≠ .pendingConfirmation ∧ row.activeProposalId = some proposalId then
    { row with activeProposalId := none, revision := row.revision + 1 }
  else row

/-- `update_proposal_state`. -/
def updateProposalState (proposalId : ProposalId) (proposalState : ProposalState)
    (supersededBy : Option ProposalId := none) : Tx Unit := do
  let f ← requireCase proposalId.caseId
  let p ← require "ActionProposal" (Keyed.find ProposalRow.proposalId proposalId f.proposals)
  refuse (proposalState ≠ p.proposalState ∧ proposalState ∉ proposalTransitions p.proposalState)
    .invalidStateTransition
  refuse (proposalState = .superseded ∧ supersededBy = none) .invalidStateTransition
  putFolder proposalId.caseId { f with
    proposals := Keyed.modify ProposalRow.proposalId proposalId
      (fun p => { p with proposalState := proposalState, supersededBy := supersededBy }) f.proposals
    row := CaseRow.release f.row proposalId proposalState }

/-- `create_action`, with the constraints of its table. -/
def createAction (action : ActionRow) : Tx Unit := do
  let f ← requireCase action.proposalId.caseId
  let _ ← require "ActionProposal"
    (Keyed.find ProposalRow.proposalId action.proposalId f.proposals)
  refuse (∃ a ∈ f.actions, a.actionId = action.actionId ∨ a.proposalId = action.proposalId ∨
    a.idempotencyKey = action.idempotencyKey) .integrity
  putFolder action.proposalId.caseId { f with actions := f.actions ++ [action] }

/-- `update_action_state`. -/
def updateActionState (actionId : ActionId) (actionState : ActionState) (changedAt : Instant)
    (errorCode : Option String := none) (submittedAt verifiedAt : Option Instant := none) :
    Tx Unit := do
  let caseId := actionId.identity.proposalId.caseId
  let f ← requireCase caseId
  let a ← require "ActionExecution" (Keyed.find ActionRow.actionId actionId f.actions)
  let a ← lift (a.update actionState changedAt errorCode submittedAt verifiedAt)
  putFolder caseId { f with
    actions := Keyed.modify ActionRow.actionId actionId (fun _ => a) f.actions }

/-- `get_ticket_by_idempotency_key`. -/
def getTicketByIdempotencyKey (tickets : List TicketRow) (key : IdempotencyKey) :
    Option TicketRow :=
  Keyed.find TicketRow.idempotencyKey key tickets

/-- `create_ticket`. -/
def createTicket (ticket : TicketRow) : Tx Unit := do
  let s ← shared
  match getTicketByIdempotencyKey s.tickets ticket.idempotencyKey with
  | some existing => refuse (existing.identity ≠ ticket.identity) .idempotencyConflict
  | none =>
    let _ ← requireCase ticket.caseId
    refuse (ticketRefused s.tickets ticket) .integrity
    setShared { s with tickets := s.tickets ++ [ticket] }

/-- `get_active_ticket`: an active ticket of the order and issue; a target also matches a ticket for
    the whole order. -/
def getActiveTicket (tickets : List TicketRow) (orderId : String) (issueType : IssueType)
    (targetShipmentId : Option String) : Option TicketRow :=
  tickets.find? fun t => t.authorizedOrderId = orderId ∧ t.issueType = issueType ∧ t.active ∧
    (targetShipmentId = none ∨ t.targetShipmentId = targetShipmentId ∨ t.targetShipmentId = none)

/-! ### What the changes do when nothing refuses them -/

section Spec

variable {x : ServiceState} {caseId : RowId} {f : CaseFolder}

theorem refuse_ok {p : Prop} [Decidable p] {e : StorageError} (h : ¬ p) :
    refuse p e x = .ok ((), x) := by
  rw [refuse, if_neg h]
  rfl

theorem lift_ok {α : Type} {r : Except StorageError α} {a : α} (h : r = .ok a) :
    lift r x = .ok (a, x) := by
  rw [h]
  rfl

theorem require_ok {α : Type} {entity : String} {r : Option α} {a : α} (h : r = some a) :
    require entity r x = .ok (a, x) := by
  rw [h]
  rfl

theorem requireCase_ok (hf : x.1.folders caseId = some f) :
    requireCase caseId x = .ok (f, x) := by
  rw [requireCase, Transaction.bind_ok rfl]
  exact require_ok hf

theorem updateCase_ok {rev : Option Nat} {u : CaseUpdate} {row : CaseRow}
    (hf : x.1.folders caseId = some f) (hrow : f.row.update rev u = .ok row) :
    updateCase caseId rev u x =
      .ok ((), (x.1.putCase caseId { f with row := row }, x.2)) := by
  rw [updateCase, Transaction.bind_ok (requireCase_ok hf), Transaction.bind_ok (lift_ok hrow)]
  rfl

theorem appendIssueRevision_ok (rev : Option Nat) (issueType : IssueType)
    (hf : x.1.folders caseId = some f) (hopen : f.row.caseState ≠ .closed)
    (hrev : ∀ r ∈ rev, f.row.revision = r) :
    appendIssueRevision caseId issueType rev x = .ok ((), (x.1.setFolder caseId { f with
      row := { f.row with
        canonicalIssueType := issueType
        revision := f.row.revision + 1 } }, x.2)) := by
  rw [appendIssueRevision, Transaction.bind_ok (requireCase_ok hf),
    Transaction.bind_ok (refuse_ok hopen), Transaction.bind_ok (refuse_ok (by simpa using hrev))]
  rfl

theorem updateRun_ok {runId : RowId} {runState : RunState} {turns reads : Option Nat}
    {failureCode : Option String} {row row' : RunRow} (hrow : x.1.runs runId = some row)
    (hupdate : row.update runState turns reads failureCode = .ok row') :
    updateRun runId runState turns reads failureCode x =
      .ok ((), (x.1.setRun runId row', x.2)) := by
  rw [updateRun, Transaction.bind_ok rfl, Transaction.bind_ok (require_ok hrow),
    Transaction.bind_ok (lift_ok hupdate)]
  rfl

theorem appendCaseFactAssertion_ok {assertion : CaseFactAssertion}
    (hf : x.1.folders assertion.caseId = some f)
    (hnew : assertion.assertionId ∉ f.assertions.map (·.assertionId))
    (hsequence : assertion.assertionSequence = f.assertions.length + 1) :
    appendCaseFactAssertion assertion x = .ok ((), (x.1.setFolder assertion.caseId
      { f with assertions := f.assertions ++ [assertion] }, x.2)) := by
  rw [appendCaseFactAssertion, Transaction.bind_ok (requireCase_ok hf), if_neg hnew,
    Transaction.bind_ok (refuse_ok (not_not_intro hsequence))]
  rfl

theorem appendCaseFactQuestion_ok {question : FactQuestion}
    (hf : x.1.folders question.caseId = some f)
    (hnew : question.questionId ∉ f.questions.map (·.questionId)) :
    appendCaseFactQuestion question x = .ok ((), (x.1.setFolder question.caseId
      { f with questions := f.questions ++ [question] }, x.2)) := by
  rw [appendCaseFactQuestion, Transaction.bind_ok (requireCase_ok hf), if_neg hnew]
  rfl

theorem appendCaseFactMessageConsumption_ok {row : ConsumptionRow}
    (hf : x.1.folders caseId = some f) (hquestion : consumptionForQuestion f row.questionId = none)
    (hmessage : consumptionForMessage f row.sourceMessageId = none) :
    appendCaseFactMessageConsumption caseId row x = .ok ((), (x.1.setFolder caseId
      { f with consumptions := f.consumptions ++ [row] }, x.2)) := by
  rw [appendCaseFactMessageConsumption, Transaction.bind_ok (requireCase_ok hf), hquestion]
  simp only
  rw [Transaction.bind_ok (refuse_ok (by simp [hmessage]))]
  rfl

theorem storeCaseFactSnapshot_ok {snapshot : CaseFactSnapshot}
    (hf : x.1.folders snapshot.caseId = some f)
    (hrevision : ∀ stored ∈ f.snapshot, stored.revision ≤ snapshot.revision) :
    storeCaseFactSnapshot snapshot x = .ok ((), (x.1.setFolder snapshot.caseId
      { f with snapshot := some snapshot }, x.2)) := by
  rw [storeCaseFactSnapshot, Transaction.bind_ok (requireCase_ok hf),
    Transaction.bind_ok (refuse_ok (by simpa using hrevision))]
  rfl

theorem createProposal_ok {proposal : ProposalRow}
    (hf : x.1.folders proposal.proposalId.caseId = some f)
    (hnew : ∀ p ∈ f.proposals, p.proposalId ≠ proposal.proposalId ∧ p.version ≠ proposal.version ∧
      p.proposalState ≠ .pendingConfirmation) :
    createProposal proposal x = .ok ((), (x.1.setFolder proposal.proposalId.caseId
      { f with proposals := f.proposals ++ [proposal] }, x.2)) := by
  have hfree : ¬ ∃ p ∈ f.proposals, p.proposalId = proposal.proposalId ∨
      p.version = proposal.version ∨ (p.proposalState = .pendingConfirmation ∧
        proposal.proposalState = .pendingConfirmation) := by
    rintro ⟨p, hp, h | h | h⟩
    · exact (hnew p hp).1 h
    · exact (hnew p hp).2.1 h
    · exact (hnew p hp).2.2 h.1
  rw [createProposal, Transaction.bind_ok (requireCase_ok hf),
    Transaction.bind_ok (refuse_ok hfree)]
  rfl

theorem updateProposalState_ok {proposalId : ProposalId} {proposalState : ProposalState}
    {supersededBy : Option ProposalId} {p : ProposalRow}
    (hf : x.1.folders proposalId.caseId = some f)
    (hp : Keyed.find ProposalRow.proposalId proposalId f.proposals = some p)
    (hallowed : proposalState ∈ proposalTransitions p.proposalState)
    (hsuperseded : proposalState = .superseded → supersededBy.isSome) :
    updateProposalState proposalId proposalState supersededBy x =
      .ok ((), (x.1.setFolder proposalId.caseId { f with
        proposals := Keyed.modify ProposalRow.proposalId proposalId
          (fun p => { p with proposalState := proposalState, supersededBy := supersededBy })
          f.proposals
        row := CaseRow.release f.row proposalId proposalState }, x.2)) := by
  have hnone : ¬ (proposalState = .superseded ∧ supersededBy = none) := by
    rintro ⟨h, hn⟩
    simpa [hn] using hsuperseded h
  rw [updateProposalState, Transaction.bind_ok (requireCase_ok hf),
    Transaction.bind_ok (require_ok hp), Transaction.bind_ok (refuse_ok (fun h => h.2 hallowed)),
    Transaction.bind_ok (refuse_ok hnone)]
  rfl

theorem createAction_ok (action : ActionRow) {p : ProposalRow}
    (hf : x.1.folders action.proposalId.caseId = some f)
    (hp : Keyed.find ProposalRow.proposalId action.proposalId f.proposals = some p)
    (hnone : f.actions = []) :
    createAction action x = .ok ((), (x.1.setFolder action.proposalId.caseId
      { f with actions := f.actions ++ [action] }, x.2)) := by
  rw [createAction, Transaction.bind_ok (requireCase_ok hf), Transaction.bind_ok (require_ok hp),
    Transaction.bind_ok (refuse_ok (by simp [hnone]))]
  rfl

theorem updateActionState_ok {actionId : ActionId} {actionState : ActionState}
    {changedAt : Instant} {errorCode : Option String} {submittedAt verifiedAt : Option Instant}
    {a a' : ActionRow} (hf : x.1.folders actionId.identity.proposalId.caseId = some f)
    (ha : Keyed.find ActionRow.actionId actionId f.actions = some a)
    (hupdate : a.update actionState changedAt errorCode submittedAt verifiedAt = .ok a') :
    updateActionState actionId actionState changedAt errorCode submittedAt verifiedAt x =
      .ok ((), (x.1.setFolder actionId.identity.proposalId.caseId { f with
        actions := Keyed.modify ActionRow.actionId actionId (fun _ => a') f.actions }, x.2)) := by
  rw [updateActionState, Transaction.bind_ok (requireCase_ok hf), Transaction.bind_ok (require_ok ha),
    Transaction.bind_ok (lift_ok hupdate)]
  rfl

theorem createTicket_ok {ticket : TicketRow} (hf : x.1.folders ticket.caseId = some f)
    (hkey : getTicketByIdempotencyKey x.2.tickets ticket.idempotencyKey = none)
    (haccepted : ticketRefused x.2.tickets ticket = false) :
    createTicket ticket x =
      .ok ((), (x.1, { x.2 with tickets := x.2.tickets ++ [ticket] })) := by
  rw [createTicket, Transaction.bind_ok rfl, hkey]
  simp only
  rw [Transaction.bind_ok (requireCase_ok hf),
    Transaction.bind_ok (refuse_ok (by simp [haccepted]))]
  rfl

/-- A ticket that a constraint of its table refuses. -/
theorem createTicket_refused {ticket : TicketRow} (hf : x.1.folders ticket.caseId = some f)
    (hkey : getTicketByIdempotencyKey x.2.tickets ticket.idempotencyKey = none)
    (hrefused : ticketRefused x.2.tickets ticket = true) :
    createTicket ticket x = .error (.storage .integrity) := by
  rw [createTicket, Transaction.bind_ok rfl, hkey]
  simp only
  rw [Transaction.bind_ok (requireCase_ok hf)]
  exact Transaction.bind_error (by rw [refuse, if_pos hrefused]; rfl)

end Spec

end Repository

end AfterSales
