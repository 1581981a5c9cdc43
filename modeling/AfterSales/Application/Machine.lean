import AfterSales.Application.Operations
import AfterSales.CaseFacts.History
import AfterSales.Policy.GateReasons

/-! The machine of a conversation: the phases of a call, and the moves its steps make.

    A call goes through few phases. What it is about is part of the phase, what is stored meanwhile
    is the invariant of the phase, and every step is one of the moves below:

        idle ─▶ noted ──────▶ working ─▶ exploring ─▶ answered ─▶ settled ─▶ reported ─▶ idle
        idle ─▶ replying ─▶ working, exploring        answered ─▶ working (a revised issue)
        idle ─▶ reviewing ─▶ executing ─▶ submitted ─▶ settled
        replying, working, exploring ─▶ parked ─▶ idle        executing ─▶ stranded

    A move says what it needs, and which rows it leaves. A move on a case changes its folder and
    its run; `CaseMove` lists these. -/

namespace AfterSales
open Interleave Repository

variable [PolicyDigest] [ProofDigest] [ResultDigest] [IdText] [TraceVolume] [FactDigest]
  [CaseFolding] [EvidenceDigest] [MessageRedaction]

/-! ### Phases -/

/-- Where the call of a conversation is. -/
inductive Phase where
  /-- Nothing is left to be done. -/
  | idle
  /-- A message without a case was received. -/
  | noted (runId messageId : RowId) (runState : RunState)
  /-- A message for a case that waits for input was received, after so many questions. -/
  | replying (runId caseId : RowId) (runState : RunState) (asked : Nat)
  /-- A proposal is to be confirmed or declined. -/
  | reviewing (runId : RowId) (proposalId : ProposalId) (runState : RunState)
  /-- A pass over a case is to be made, and the number its thread will have. -/
  | working (runId caseId : RowId) (runState : RunState) (pass turns number : Nat)
  /-- The graph of a pass is before a node. -/
  | exploring (runId caseId : RowId) (pass : Nat) (started : Service.StartedInvestigation)
      (node : GraphNode) (s : InvestigationState)
  /-- A pass has returned; its facts may be refreshed already. -/
  | answered (runId caseId : RowId) (pass : Nat) (output : InvestigationOutput) (refreshed : Bool)
  /-- A pass has raised; its run is still to be failed. -/
  | parked (runId caseId : RowId) (turns reads : Nat)
  /-- An action is to be submitted. -/
  | executing (runId : RowId) (a : Service.TicketAction) (runState : RunState)
  /-- An action is submitted. -/
  | submitted (runId : RowId) (a : Service.TicketAction) (fault : Option ActionFixtureFault)
      (submittedAt : Instant)
  /-- The write of an action was refused. -/
  | stranded
  /-- A case is settled; the customer is still to be told. -/
  | settled (caseId : RowId) (d : CustomerDisposition)
  /-- The customer was told. -/
  | reported (caseId : RowId) (d : CustomerDisposition)

/-- Where a call may end, and with what answer. -/
def Phase.Ended : Response → Phase → Prop
  | .error e, γ => (γ = .idle ∧ e.isApplication) ∨ γ = .stranded
  | .ok r, γ => (γ = .idle ∧ r.caseId = none ∧ r.customerDisposition = none) ∨
      ∃ caseId d, γ = .reported caseId d ∧ r.caseId = some caseId ∧
        ∀ d' ∈ r.customerDisposition, d' = d

/-! ### Changes of the store -/

namespace ConversationStore

/-- One serial number is drawn. -/
def tick (l : ConversationStore) : ConversationStore := { l with nextSerial := l.nextSerial + 1 }

/-- Events are appended. -/
def logged (l : ConversationStore) (events : List ServiceEvent) : ConversationStore :=
  { l with events := l.events ++ events }

/-- A fresh run is queued. -/
def queued (l : ConversationStore) (conversationId : String) (caseId : Option RowId) :
    ConversationStore :=
  l.tick.setRun ⟨conversationId, l.nextSerial⟩ ⟨caseId, .queued, 0, 0, none, none⟩

/-- A message is stored, and its run is queued. -/
def received (l : ConversationStore) (conversationId : String) (caseId : Option RowId)
    (content : String) (now : Instant) : ConversationStore :=
  { l.tick.tick.setRun ⟨conversationId, l.nextSerial⟩ ⟨caseId, .queued, 0, 0, none, none⟩ with
    messages := l.messages ++ [⟨⟨conversationId, l.nextSerial + 1⟩, caseId, content, now⟩] }

/-- A case is opened, and bound to its run and message. -/
def opened (l : ConversationStore) (caseId runId messageId : RowId) (row : CaseRow)
    (run : RunRow) : ConversationStore :=
  { (l.tick.setFolder caseId ⟨row, [], [], [], [], none, [], []⟩).setRun runId
      { run with caseId := some caseId } with
    activeCaseId := some caseId
    messages := l.messages.map fun m =>
      if m.messageId = messageId then { m with caseId := some caseId } else m }

/-- The cache of a case is replaced. -/
def cached (l : ConversationStore) (caseId : RowId) (cache : CaseToolCache) : ConversationStore :=
  { l with caseCaches := Function.update l.caseCaches caseId (some cache) }

end ConversationStore

/-- The run after it was started, and after it ended. -/
def RunRow.started (row : RunRow) : RunRow :=
  { row with
    runState := .running
    failureCode := none }

def RunRow.ended (row : RunRow) (runState : RunState) (turns reads : Nat)
    (failureCode : Option String) : RunRow :=
  { row with
    runState := runState
    planningTurnCount := turns
    actualReadToolExecutionCount := reads
    failureCode := failureCode }

/-- The run of a pass that returned. -/
def RunRow.finished (row : RunRow) (output : InvestigationOutput) : RunRow :=
  row.ended .succeeded output.planningTurns output.runReadToolExecutions none

/-- The folder after an update of its case. -/
def CaseFolder.updated (f : CaseFolder) (u : CaseUpdate) : CaseFolder :=
  { f with row := f.row.updated u }

/-! ### What is stored -/

/-- A proposal that can no longer be confirmed, nor was. -/
def ProposalRow.Dropped (p : ProposalRow) : Prop :=
  p.proposalState ≠ .pendingConfirmation ∧ p.proposalState ≠ .confirmed

/-- The action of a confirmed proposal. -/
structure ActionRow.Executes (a : ActionRow) (p : ProposalRow) : Prop where
  actionId : a.actionId = (stableActionIdentity p).1
  idempotencyKey : a.idempotencyKey = (stableActionIdentity p).2
  proposalId : a.proposalId = p.proposalId

/-- The states that a case and its action are in together. -/
def actionStages : List (CaseState × ActionState) :=
  [(.executingAction, .ready), (.executingAction, .failedRetryable), (.executingAction, .submitted),
    (.awaitingRetry, .failedRetryable), (.closed, .succeeded), (.closed, .failedTerminal),
    (.closed, .uncertain)]

/-- How far a case has come: it has nothing to confirm, one proposal is offered, or one was
    confirmed and has its action. -/
inductive Stage (f : CaseFolder) : Prop
  | plain (state : f.row.caseState ≠ .awaitingCustomerConfirmation ∧
        f.row.caseState ≠ .executingAction)
      (pointer : f.row.activeProposalId = none) (dropped : ∀ p ∈ f.proposals, p.Dropped)
      (actions : f.actions = [])
  | offered (earlier : List ProposalRow) (p : ProposalRow)
      (state : f.row.caseState = .awaitingCustomerConfirmation)
      (pointer : f.row.activeProposalId = some p.proposalId)
      (proposals : f.proposals = earlier ++ [p]) (dropped : ∀ q ∈ earlier, q.Dropped)
      (pending : p.proposalState = .pendingConfirmation) (actions : f.actions = [])
  | acting (earlier : List ProposalRow) (p : ProposalRow) (a : ActionRow)
      (states : (f.row.caseState, a.actionState) ∈ actionStages)
      (pointer : f.row.activeProposalId = none) (proposals : f.proposals = earlier ++ [p])
      (dropped : ∀ q ∈ earlier, q.Dropped) (confirmed : p.proposalState = .confirmed)
      (actions : f.actions = [a]) (executes : a.Executes p)

/-- The folder of a case, as the operations keep it. -/
structure FolderInv (l : ConversationStore) (caseId : RowId) (f : CaseFolder) : Prop where
  closing : f.row.Closing
  budget : f.row.WithinBudget
  stage : Stage f
  history : FactHistory l caseId f
  versions : f.proposals.map (·.version) = List.range' 1 f.proposals.length
  proposalIds : (f.proposals.map (·.proposalId)).Nodup
  proposalCase : ∀ p ∈ f.proposals, p.proposalId.caseId = caseId ∧
    p.proposalId.serial < l.nextSerial
  reads : f.readsOfCase ≤ 6
  calls : ∀ row ∈ f.toolCalls, row.runId.serial < l.nextSerial
  planned : ∀ row ∈ f.toolCalls, row.call.planningTurn ≤ 8

/-- The rows of a conversation, as the operations keep them. -/
structure StoreInv (conversationId : String) (l : ConversationStore) : Prop where
  folders : ∀ caseId f, l.folders caseId = some f →
    caseId.conversationId = conversationId ∧ caseId.serial < l.nextSerial ∧ FolderInv l caseId f
  active : ∀ caseId, l.activeCaseId = some caseId ↔
    ∃ f, l.folders caseId = some f ∧ f.row.caseState ≠ .closed
  runs : ∀ runId row, l.runs runId = some row → runId.serial < l.nextSerial ∧
    ∀ g ∈ row.gateResult, g.Reasoned
  events : ∀ e ∈ l.events, ∀ runId ∈ e.runId, runId.serial < l.nextSerial
  turns : ∀ runId, l.turnsOfRun runId ≤ 8
  messages : ∀ m ∈ l.messages, m.messageId.serial < l.nextSerial

/-! ### What holds in a phase -/

/-- A run that is not finished, with nothing charged to it. -/
structure RunOpen (l : ConversationStore) (runId : RowId) (co : Option RowId) (q : RunState)
    (row : RunRow) : Prop where
  stored : l.runs runId = some row
  caseId : row.caseId = co
  runState : row.runState = q
  unfinished : q = .queued ∨ q = .running
  turns : row.planningTurnCount = 0
  reads : row.actualReadToolExecutionCount = 0

/-- The states of a case while a pass over it is made. -/
def passStates : List CaseState := [.investigating, .awaitingCustomerInput]

/-- The case of an action, and the write it needs. -/
structure ActionOpen (f : CaseFolder) (a : Service.TicketAction) (act : ActionRow) : Prop where
  state : f.row.caseState = .executingAction
  actions : f.actions = [act]
  actionId : a.actionId = act.actionId
  idempotencyKey : a.idempotencyKey = act.idempotencyKey
  caseId : act.proposalId.caseId = a.caseId
  customerId : a.customerId = f.row.customerId
  authorizedOrderId : a.authorizedOrderId = f.row.authorizedOrderId
  issueType : a.issueType = f.row.canonicalIssueType
  targetShipmentId : a.targetShipmentId = f.row.targetShipmentId

/-- What is stored while a call is in a phase. -/
def Phase.Inv (l : ConversationStore) : Phase → Prop
  | .idle | .stranded | .settled _ _ | .reported _ _ => True
  | .noted runId messageId runState =>
    (∃ row, RunOpen l runId none runState row) ∧ l.activeCaseId = none ∧
      (∀ m, l.getMessage messageId = some m → m.caseId = none) ∧ l.turnsOfRun runId = 0
  | .replying runId caseId runState asked =>
    (∃ row, RunOpen l runId (some caseId) runState row) ∧
      (∃ f, l.folders caseId = some f ∧ f.row.caseState = .awaitingCustomerInput ∧
        f.row.businessClarificationCount = asked) ∧
      l.turnsOfRun runId = 0
  | .reviewing runId proposalId runState =>
    (∃ row, RunOpen l runId (some proposalId.caseId) runState row) ∧
      ∃ f, l.folders proposalId.caseId = some f ∧
        ∃ p, Keyed.find ProposalRow.proposalId proposalId f.proposals = some p
  | .working runId caseId runState _ turns _ =>
    (∃ row, RunOpen l runId (some caseId) runState row) ∧
      (∃ f, l.folders caseId = some f ∧ f.row.caseState ∈ passStates) ∧
      l.turnsOfRun runId ≤ turns ∧ turns ≤ 8
  | .exploring runId caseId _ started _ s =>
    (∃ row, RunOpen l runId (some caseId) .running row) ∧
      (∃ f, l.folders caseId = some f ∧ f.row.caseState ∈ passStates ∧
        f.callsOfRun runId = s.coordinator.records ∧
        f.readsOfCase ≤ s.governed.budget.actualReadToolExecutions) ∧
      l.turnsOfRun runId ≤ s.governed.budget.runPlanningTurns ∧
      ∀ g ∈ started.history.persistedGate, g.Reasoned
  | .answered runId caseId _ output refreshed =>
    (∃ row, RunOpen l runId (some caseId) .running row) ∧
      (∃ f, l.folders caseId = some f ∧ f.row.caseState ∈ passStates ∧
        f.readsOfCase ≤ output.actualReadToolExecutions ∧
        (refreshed → ∀ snapshot, CaseFactService.rebuildFolder l caseId f = .ok snapshot →
          f.snapshot = some snapshot)) ∧
      l.turnsOfRun runId ≤ output.planningTurns ∧ output.planningTurns ≤ 8 ∧
      output.casePlanningTurns ≤ 16 ∧ output.actualReadToolExecutions ≤ 6 ∧
      output.runReadToolExecutions ≤ 6 ∧ output.gateResult.Reasoned
  | .parked runId caseId turns reads =>
    (∃ row, RunOpen l runId (some caseId) .running row) ∧
      (∃ f, l.folders caseId = some f ∧ f.row.caseState = .awaitingRetry) ∧
      turns ≤ 8 ∧ reads ≤ 6
  | .executing runId a runState =>
    (∃ row, RunOpen l runId (some a.caseId) runState row) ∧
      ∃ f act, l.folders a.caseId = some f ∧ ActionOpen f a act ∧
        (act.actionState = .ready ∨ act.actionState = .failedRetryable)
  | .submitted runId a _ _ =>
    (∃ row, RunOpen l runId (some a.caseId) .running row) ∧
      ∃ f act, l.folders a.caseId = some f ∧ ActionOpen f a act ∧ act.actionState = .submitted

/-- The ticket of an action that was written. -/
structure TicketOf (s : SharedState) (f : CaseFolder) (act : ActionRow) (t : TicketRow) : Prop where
  actions : f.actions = [act]
  actionId : t.actionId = act.actionId
  idempotencyKey : t.idempotencyKey = act.idempotencyKey
  customerId : t.customerId = f.row.customerId
  authorizedOrderId : t.authorizedOrderId = f.row.authorizedOrderId
  issueType : t.issueType = f.row.canonicalIssueType
  targetShipmentId : t.targetShipmentId = f.row.targetShipmentId
  written : act.actionState = .succeeded ∨ (act.actionState = .submitted ∧
    ∀ d ∈ s.fixtures.dynamicTickets, d.ticketId ≠ IdText.ticket t.ticketId)

/-- What a submitted action has written so far. -/
def Phase.Written (s : SharedState) : Phase → Prop
  | .submitted _ a none _ => ∃ t ∈ s.tickets, t.idempotencyKey = a.idempotencyKey
  | .submitted _ a (some _) _ => ∀ t ∈ s.tickets, t.actionId ≠ a.actionId
  | _ => True

/-- The tickets that all conversations share, seen from one of them. -/
structure TicketInv (conversationId : String) (l : ConversationStore) (s : SharedState) :
    Prop where
  base : ∀ t ∈ s.fixtures.baseTickets, ∀ id, t.ticketId ≠ IdText.ticket id
  ids : ∀ t ∈ s.tickets, t.ticketId = stableTicketId t.idempotencyKey ∧
    t.idempotencyKey.identity = t.actionId.identity ∧
    t.actionId.identity.proposalId.caseId = t.caseId
  dynamic : ∀ d ∈ s.fixtures.dynamicTickets, ∃ t ∈ s.tickets, d.ticketId = IdText.ticket t.ticketId
  own : ∀ t ∈ s.tickets, t.caseId.conversationId = conversationId →
    ∃ f act, l.folders t.caseId = some f ∧ TicketOf s f act t

/-! ### The moves of a case -/

/-- A phase in which a pass is under way, or about to begin. -/
inductive Phase.Passing (runId caseId : RowId) : Nat → Phase → Prop
  | replying {asked : Nat} : Passing runId caseId 0 (.replying runId caseId .running asked)
  | working (pass turns : Nat) {number : Nat} :
      Passing runId caseId pass (.working runId caseId .running pass turns number)
  | exploring (pass : Nat) (started : Service.StartedInvestigation) (node : GraphNode)
      (s : InvestigationState) :
      Passing runId caseId pass (.exploring runId caseId pass started node s)

/-- A phase in which the package may be asked for. -/
inductive Phase.Asking (runId caseId : RowId) : Phase → Prop
  | replying {asked : Nat} : Asking runId caseId (.replying runId caseId .running asked)
  | working {number : Nat} : Asking runId caseId (.working runId caseId .running 0 0 number)

/-- Why a proposal is dropped: it has expired, or its evidence is not what it was. -/
inductive Drops (settings : Settings) (l : ConversationStore) (s : SharedState) (f : CaseFolder)
    (p : ProposalRow) (version : Nat) : Label → ProposalState → Prop
  | expired (h : validatePendingProposal p f.row version s.now = some "PROPOSAL_EXPIRED") :
      Drops settings l s f p version (.review p.proposalId version) .expired
  | expiredDecline (h : validatePendingProposal p f.row version s.now = some "PROPOSAL_EXPIRED") :
      Drops settings l s f p version (.reviewDecline p.proposalId version) .expired
  | invalidated (identity : Option CaseFactIdentity)
      (hvalid : validatePendingProposal p f.row version s.now = none)
      (hidentity : ∃ y, Service.currentIdentity p.proposalId.caseId (l, s) = .ok (identity, y))
      (h : evidenceUnchanged p (revalidateGate settings s f p) identity = false) :
      Drops settings l s f p version (.review p.proposalId version) .invalidated

/-- The proposal that a pass makes. -/
def proposalOf (caseId : RowId) (l : ConversationStore) (s : SharedState) (f : CaseFolder)
    (output : InvestigationOutput) (binding : PolicyBinding) (snapshot : CaseFactSnapshot) :
    ProposalRow :=
  buildProposal ⟨caseId, l.nextSerial⟩ (Service.nextVersion f.proposals) f.row.authorizedOrderId
    f.row.canonicalIssueType output.evidenceRefs output.gateResult.criticalResultHashes binding
    f.row.targetShipmentId (some snapshot.materialIdentity) s.now

/-- A change of the state of the last proposal. -/
def ProposalRow.moved (p : ProposalRow) (proposalState : ProposalState) : ProposalRow :=
  { p with proposalState := proposalState, supersededBy := none }

/-- The folder when its last proposal changes its state, and the case lets go of it. -/
def CaseFolder.resolved (f : CaseFolder) (earlier : List ProposalRow) (p : ProposalRow)
    (proposalState : ProposalState) : CaseFolder :=
  { f with
    proposals := earlier ++ [p.moved proposalState]
    row := { f.row with activeProposalId := none, revision := f.row.revision + 1 } }

/-- An action after its submission, and after its outcome. -/
def ActionRow.submittedAgain (a : ActionRow) (now : Instant) : ActionRow :=
  { a with
    actionState := .submitted
    errorCode := none
    submittedAt := some now
    verifiedAt := none }

def ActionRow.faulted (a : ActionRow) (fault : ActionFixtureFault) (now : Instant) : ActionRow :=
  { a with
    actionState := fault.actionState
    errorCode := some fault.errorCode
    submittedAt := a.submittedAt.or (some now)
    verifiedAt := none }

def ActionRow.verified (a : ActionRow) (now : Instant) : ActionRow :=
  { a with
    actionState := .succeeded
    errorCode := none
    submittedAt := a.submittedAt.or (some now)
    verifiedAt := some now }

/-- What a step does to the folder of one case and to its run, and, for the write of a ticket, to
    what the conversations share. The flag tells whether a serial number is drawn. -/
inductive CaseMove (settings : Settings) (caseId runId : RowId) (l : ConversationStore)
    (s : SharedState) (f : CaseFolder) (row : RunRow) :
    Label → Phase → Bool → Phase → SharedState → CaseFolder → RunRow → Prop
  | park {pass : Nat} {γ : Phase} (passing : γ.Passing runId caseId pass) :
      CaseMove settings caseId runId l s f row (.park caseId runId pass) γ false
        (.parked runId caseId (l.observedTurns runId) (f.readsOfRun runId)) s
        (f.updated (Service.parkUpdate pass f.row (l.observedTurns runId) (f.readsOfRun runId))) row
  | close {pass : Nat} {output : InvestigationOutput} (caseOutcome : CaseOutcome)
      (reasonCode : String) (reason : reasonCode ≠ "") :
      CaseMove settings caseId runId l s f row (.settle caseId runId pass)
        (.answered runId caseId pass output true) false
        (.settled caseId (projectCustomerDisposition
          { caseOutcome := some caseOutcome, reasonCode := some reasonCode })) s
        (f.updated (Service.withUsage output (Service.closing caseOutcome reasonCode)))
        (row.finished output)
  | wait {pass : Nat} {output : InvestigationOutput}
      (decision : output.gateResult.outcome = .decision .retryLater) :
      CaseMove settings caseId runId l s f row (.settle caseId runId pass)
        (.answered runId caseId pass output true) false (.settled caseId .wait) s
        (f.updated (Service.withUsage output { caseState := some .awaitingRetry }))
        (row.finished output)
  | ask {pass : Nat} {output : InvestigationOutput} (asked : Nat) (bound : asked ≤ 2)
      (decision : output.gateResult.outcome = .decision .requestBusinessClarification) :
      CaseMove settings caseId runId l s f row (.settle caseId runId pass)
        (.answered runId caseId pass output true) false (.settled caseId .clarify) s
        (f.updated (Service.withUsage output
          { caseState := some .awaitingCustomerInput, businessClarificationCount := some asked }))
        (row.finished output)
  | propose {pass : Nat} {output : InvestigationOutput} (binding : PolicyBinding)
      (snapshot : CaseFactSnapshot)
      (decision : output.gateResult.outcome = .decision .proposeTicket)
      (bound : Service.outputBinding output = some binding) (stored : f.snapshot = some snapshot) :
      CaseMove settings caseId runId l s f row (.settle caseId runId pass)
        (.answered runId caseId pass output true) true
        (.settled caseId (Service.gateDisposition output.gateResult)) s
        { f.updated (Service.withUsage output
            { caseState := some .awaitingCustomerConfirmation
              activeProposalId := some ⟨caseId, l.nextSerial⟩ }) with
          proposals := f.proposals ++ [proposalOf caseId l s f output binding snapshot] }
        (row.finished output)
  | revise {output : InvestigationOutput} (issueType : IssueType) (intent : TriageIntent)
      (revision : output.gateResult.outcome = .revision intent) :
      CaseMove settings caseId runId l s f row .progress (.answered runId caseId 0 output true)
        false (.working runId caseId .running 1 output.planningTurns 1) s
        { f with row := { f.row.updated (Service.withUsage output {}) with
            canonicalIssueType := issueType
            revision := (f.row.updated (Service.withUsage output {})).revision + 1 } } row
  | askPackage {γ : Phase} (asking : γ.Asking runId caseId)
      (bound : f.row.businessClarificationCount < 2) :
      CaseMove settings caseId runId l s f row .finish γ false (.settled caseId .clarify) s
        (f.updated { caseState := some .awaitingCustomerInput
                     businessClarificationCount := some (f.row.businessClarificationCount + 1) })
        (row.ended .succeeded 0 0 none)
  | closeAtLimit {γ : Phase} (asking : γ.Asking runId caseId) :
      CaseMove settings caseId runId l s f row .finish γ false (.settled caseId .escalate) s
        (f.updated (Service.closing .humanSupportRequired "BUSINESS_CLARIFICATION_LIMIT_REACHED"))
        (row.ended .succeeded 0 0 none)
  | resume {asked : Nat} (shipmentId : String) :
      CaseMove settings caseId runId l s f row (.read caseId)
        (.replying runId caseId .running asked) false (.working runId caseId .running 0 0 asked) s
        (f.updated { caseState := some .investigating, targetShipmentId := some shipmentId }) row
  | drop {earlier : List ProposalRow} {p : ProposalRow} {label : Label} {version : Nat}
      {proposalState : ProposalState} (last : f.proposals = earlier ++ [p])
      (pending : p.proposalState = .pendingConfirmation) (owner : p.proposalId.caseId = caseId)
      (why : Drops settings l s f p version label proposalState) :
      CaseMove settings caseId runId l s f row label (.reviewing runId p.proposalId .running) false
        (.reviewing runId p.proposalId .running) s
        ((f.resolved earlier p proposalState).updated { caseState := some .awaitingRetry }) row
  | confirm {earlier : List ProposalRow} {p : ProposalRow} {version : Nat}
      (last : f.proposals = earlier ++ [p]) (pending : p.proposalState = .pendingConfirmation)
      (owner : p.proposalId.caseId = caseId)
      (valid : validatePendingProposal p f.row version s.now = none) :
      CaseMove settings caseId runId l s f row (.review p.proposalId version)
        (.reviewing runId p.proposalId .running) false
        (.executing runId (.ofCase (buildReadyAction p) caseId f.row) .running) s
        { (f.resolved earlier p .confirmed).updated { caseState := some .executingAction } with
          actions := [buildReadyAction p] } row
  | decline {earlier : List ProposalRow} {p : ProposalRow} {version : Nat}
      (last : f.proposals = earlier ++ [p]) (pending : p.proposalState = .pendingConfirmation)
      (owner : p.proposalId.caseId = caseId)
      (valid : validatePendingProposal p f.row version s.now = none) :
      CaseMove settings caseId runId l s f row (.reviewDecline p.proposalId version)
        (.reviewing runId p.proposalId .running) false (.settled caseId .answer) s
        ((f.resolved earlier p .declined).updated
          (Service.closing .resolvedNoAction "CUSTOMER_DECLINED_PROPOSAL"))
        (row.ended .succeeded 0 0 none)
  | submit {a : Service.TicketAction} {act : ActionRow} (open_ : ActionOpen f a act)
      (owner : a.caseId = caseId)
      (due : act.actionState = .ready ∨ act.actionState = .failedRetryable)
      (clear : (s.fixtures.consumeActionFault settings.faultSeed).2 = none)
      (accepted : ticketRefused s.tickets (a.ticketRow s.now) = false) :
      CaseMove settings caseId runId l s f row (.submit a.actionId) (.executing runId a .running)
        false (.submitted runId a none s.now) { s with tickets := s.tickets ++ [a.ticketRow s.now] }
        { f with actions := [act.submittedAgain s.now] } row
  | submitFaulted {a : Service.TicketAction} {act : ActionRow} {fault : ActionFixtureFault}
      (open_ : ActionOpen f a act) (owner : a.caseId = caseId)
      (due : act.actionState = .ready ∨ act.actionState = .failedRetryable)
      (scripted : (s.fixtures.consumeActionFault settings.faultSeed).2 = some fault) :
      CaseMove settings caseId runId l s f row (.submit a.actionId) (.executing runId a .running)
        false (.submitted runId a (some fault) s.now)
        { s with fixtures := (s.fixtures.consumeActionFault settings.faultSeed).1 }
        { f with actions := [act.submittedAgain s.now] } row
  | fault {a : Service.TicketAction} {act : ActionRow} {fault : ActionFixtureFault} {t : Instant}
      (open_ : ActionOpen f a act) (owner : a.caseId = caseId)
      (submitted : act.actionState = .submitted) :
      CaseMove settings caseId runId l s f row (.outcome a.actionId)
        (.submitted runId a (some fault) t) false
        (.settled caseId (Service.faultDisposition fault)) s
        { f.updated (Service.faultedCase fault.actionState) with
          actions := [act.faulted fault s.now] }
        (row.ended .succeeded 0 0 none)
  | verify {a : Service.TicketAction} {act : ActionRow} {t : Instant} {fixtures : FixtureStore}
      (open_ : ActionOpen f a act) (owner : a.caseId = caseId)
      (submitted : act.actionState = .submitted)
      (added : s.fixtures.addTicket (a.sourceTicket t) = some fixtures) :
      CaseMove settings caseId runId l s f row (.outcome a.actionId) (.submitted runId a none t)
        false (.settled caseId .investigate) { s with fixtures := fixtures }
        { f.updated (Service.closing .ticketCreated "LOGISTICS_TICKET_CREATED_AND_VERIFIED") with
          actions := [act.verified s.now] }
        (row.ended .succeeded 0 0 none)

/-! ### All moves -/

/-- A phase in which a run is started, and the phase after it. -/
inductive Phase.Starts (runId : RowId) : Phase → Phase → Prop
  | noted (messageId : RowId) :
      Starts runId (.noted runId messageId .queued) (.noted runId messageId .running)
  | replying (caseId : RowId) {asked : Nat} :
      Starts runId (.replying runId caseId .queued asked) (.replying runId caseId .running asked)
  | reviewing (proposalId : ProposalId) :
      Starts runId (.reviewing runId proposalId .queued) (.reviewing runId proposalId .running)
  | working (caseId : RowId) (pass turns : Nat) {number : Nat} :
      Starts runId (.working runId caseId .queued pass turns number)
        (.working runId caseId .running pass turns number)
  | executing (a : Service.TicketAction) :
      Starts runId (.executing runId a .queued) (.executing runId a .running)

/-- A phase in which a run may be refused. -/
inductive Phase.Refusable (runId : RowId) : Phase → Prop
  | noted (messageId : RowId) : Refusable runId (.noted runId messageId .running)
  | replying (caseId : RowId) {asked : Nat} :
      Refusable runId (.replying runId caseId .running asked)
  | reviewing (proposalId : ProposalId) : Refusable runId (.reviewing runId proposalId .running)

/-- A phase in which the customer hears of a case, and the phase after it. -/
inductive Phase.Tells (caseId : RowId) (d : CustomerDisposition) : Phase → Phase → Prop
  | working (runId : RowId) (pass turns : Nat) {number : Nat} :
      Tells caseId d (.working runId caseId .running pass turns number)
        (.working runId caseId .running pass turns number)
  | executing (runId : RowId) (a : Service.TicketAction) (owner : a.caseId = caseId) :
      Tells caseId d (.executing runId a .running) (.executing runId a .running)
  | settled : Tells caseId d (.settled caseId d) (.reported caseId d)
  | reported : Tells caseId d (.reported caseId d) (.reported caseId d)

/-- A phase in which the facts of a case may change, and the phase after it. -/
inductive Phase.Facts (caseId : RowId) : Phase → Phase → Prop
  | replying (runId : RowId) {asked : Nat} :
      Facts caseId (.replying runId caseId .running asked) (.replying runId caseId .running asked)
  | working (runId : RowId) (pass turns : Nat) {number : Nat} :
      Facts caseId (.working runId caseId .running pass turns number)
        (.working runId caseId .running pass turns number)
  | answered (runId : RowId) (pass : Nat) (output : InvestigationOutput) (refreshed : Bool) :
      Facts caseId (.answered runId caseId pass output refreshed)
        (.answered runId caseId pass output true)

/-- A phase in which a pass begins, the turns its run has had, and the number of its thread. -/
inductive Phase.Begins (runId caseId : RowId) : Nat → Nat → Nat → Phase → Prop
  | replying {asked : Nat} :
      Begins runId caseId 0 0 asked (.replying runId caseId .running asked)
  | working (pass turns : Nat) {number : Nat} :
      Begins runId caseId pass turns number (.working runId caseId .running pass turns number)

/-- What a pass is started from. -/
structure StartedFrom (settings : Settings) (runId caseId : RowId) (pass turns number : Nat)
    (l : ConversationStore) (s : SharedState) (f : CaseFolder)
    (started : Service.StartedInvestigation) : Prop where
  trusted : started.trusted = f.row.trusted settings s caseId runId
  history : started.history = investigationHistory l s caseId runId f
  caseTurns : started.args.casePlanningTurns = f.row.agentPlanningTurnCount
  caseReads : started.args.caseReadExecutions = f.row.actualReadToolExecutionCount
  runTurns : started.args.runPlanningTurns = turns
  number : started.args.investigationPass = number
  revised : pass ≠ 0 → started.args.investigationPass ≠ 0
  budget : initialBudget started.args started.history = some started.budget

/-- The store after a superstep that stored its reads. -/
def ConversationStore.explored (l : ConversationStore) (caseId runId : RowId) (f : CaseFolder)
    (events : List ServiceEvent) (reads : List CallRecord) (cache : CaseToolCache) :
    ConversationStore :=
  ((l.logged events).setFolder caseId
    { f with toolCalls := f.toolCalls ++ reads.map (⟨runId, ·⟩) }).cached caseId cache

/-- The store after the gate of a run was evaluated. -/
def ConversationStore.gated (l : ConversationStore) (caseId runId : RowId) (row : RunRow)
    (gate : EvidenceGateResult) : ConversationStore :=
  (l.setRun runId { row with gateResult := some gate }).logged
    [⟨"state_trace_record", .developer, some caseId, some runId, none, none, false⟩,
      ⟨"evidence_gate_evaluated", .both, some caseId, some runId,
        some (Service.gateDisposition gate), gate.outcome.decided, false⟩]

/-- The labels of steps that may leave everything as it is. -/
def Label.looks : Label → Bool
  | .receive | .retry _ | .answer _ | .record | .progress => true
  | _ => false

/-- The steps of a call. -/
inductive Move (settings : Settings) (k : String) :
    Label → Phase → ServiceState → Phase → ServiceState → Prop
  /-- Nothing changes. -/
  | look {label : Label} {γ : Phase} {x : ServiceState}
      (kind : label.looks) : Move settings k label γ x γ x
  /-- The facts of a case are read. -/
  | load {label : Label} {caseId : RowId} {γ : Phase} {x : ServiceState}
      (kind : label = .load caseId ∨ label = .read caseId) (facts : γ.Facts caseId γ) :
      Move settings k label γ x γ x
  | hold {label : Label} {runId : RowId} {proposalId : ProposalId} {version : Nat}
      {x : ServiceState}
      (kind : label = .review proposalId version ∨ label = .reviewDecline proposalId version) :
      Move settings k label (.reviewing runId proposalId .running) x
        (.reviewing runId proposalId .running) x
  /-- An event that tells nothing of a case. -/
  | note {γ : Phase} {l : ConversationStore} {s : SharedState} (e : ServiceEvent)
      (silent : e.caseId = none ∨ e.customerDisposition = none)
      (ordinary : e.eventType ≠ "agent_turn_started")
      (known : ∀ runId ∈ e.runId, runId.serial < l.nextSerial) :
      Move settings k .event γ (l, s) γ (l.logged [e], s)
  | tell {γ γ' : Phase} {l : ConversationStore} {s : SharedState} {caseId : RowId}
      {d : CustomerDisposition} (e : ServiceEvent) (about : e.caseId = some caseId)
      (carries : e.customerDisposition = some d) (visible : e.visibility ≠ .developer)
      (ordinary : e.eventType ≠ "agent_turn_started")
      (known : ∀ runId ∈ e.runId, runId.serial < l.nextSerial) (tells : γ.Tells caseId d γ') :
      Move settings k .event γ (l, s) γ' (l.logged [e], s)
  | receive {l : ConversationStore} {s : SharedState} (content : String)
      (inactive : l.activeCaseId = none) :
      Move settings k .receive .idle (l, s) (.noted ⟨k, l.nextSerial⟩ ⟨k, l.nextSerial + 1⟩ .queued)
        (l.received k none content s.now, s)
  | reply {l : ConversationStore} {s : SharedState} {caseId : RowId} {f : CaseFolder}
      (content : String) (stored : l.folders caseId = some f)
      (state : f.row.caseState = .awaitingCustomerInput) :
      Move settings k .receive .idle (l, s)
        (.replying ⟨k, l.nextSerial⟩ caseId .queued f.row.businessClarificationCount)
        (l.received k (some caseId) content s.now, s)
  | review {l : ConversationStore} {s : SharedState} {proposalId : ProposalId} {f : CaseFolder}
      {p : ProposalRow} (stored : l.folders proposalId.caseId = some f)
      (found : Keyed.find ProposalRow.proposalId proposalId f.proposals = some p) :
      Move settings k (.answer proposalId) .idle (l, s)
        (.reviewing ⟨k, l.nextSerial⟩ proposalId .queued)
        (l.queued k (some proposalId.caseId), s)
  | begin {γ γ' : Phase} {l : ConversationStore} {s : SharedState} {runId : RowId} {row : RunRow}
      (starts : γ.Starts runId γ') (stored : l.runs runId = some row) :
      Move settings k .start γ (l, s) γ' (l.setRun runId row.started, s)
  | route {runId messageId : RowId} {l : ConversationStore} {s : SharedState}
      (routes : List PolicyRoute) :
      Move settings k .record (.noted runId messageId .running) (l, s)
        (.noted runId messageId .running) ({ l with policyRoutes := routes }, s)
  | refuse {γ : Phase} {l : ConversationStore} {s : SharedState} {runId : RowId} {row : RunRow}
      {code eventType : String} (refusable : γ.Refusable runId) (stored : l.runs runId = some row)
      (reason : code ≠ "") :
      Move settings k (.fail eventType) γ (l, s) .idle
        (l.setRun runId (row.ended .failed 0 0 (some code)), s)
  | fail {l : ConversationStore} {s : SharedState} {runId caseId : RowId} {turns reads : Nat}
      {row : RunRow} {code eventType : String} (stored : l.runs runId = some row)
      (reason : code ≠ "") :
      Move settings k (.fail eventType) (.parked runId caseId turns reads) (l, s) .idle
        (l.setRun runId (row.ended .failed turns reads (some code)), s)
  | answer {l : ConversationStore} {s : SharedState} {runId messageId : RowId} {row : RunRow}
      (stored : l.runs runId = some row) :
      Move settings k .finish (.noted runId messageId .running) (l, s) .idle
        (l.setRun runId (row.ended .succeeded 0 0 none), s)
  | openCase {l : ConversationStore} {s : SharedState} {runId messageId : RowId} {run : RunRow}
      (customerId orderId : String) (issueType : IssueType) (target : Option String)
      (stored : l.runs runId = some run) :
      Move settings k .openCase (.noted runId messageId .running) (l, s)
        (.working runId ⟨k, l.nextSerial⟩ .running 0 0 0)
        (l.opened ⟨k, l.nextSerial⟩ runId messageId
          (Service.newCaseRow customerId orderId issueType target) run, s)
  | facts {label : Label} {γ γ' : Phase} {l : ConversationStore} {s : SharedState}
      {caseId : RowId} {f f' : CaseFolder}
      (kind : label = .progress ∨ label = .load caseId ∨ label = .read caseId)
      (facts : γ.Facts caseId γ') (stored : l.folders caseId = some f)
      (step : FactStep l caseId f f') (kept : label ≠ .progress → γ' = γ) :
      Move settings k label γ (l, s) γ' (l.setFolder caseId f', s)
  | start {γ : Phase} {l : ConversationStore} {s : SharedState} {runId caseId : RowId}
      {pass turns number : Nat} {f : CaseFolder} {started : Service.StartedInvestigation}
      (begins : γ.Begins runId caseId pass turns number) (stored : l.folders caseId = some f)
      (from_ : StartedFrom settings runId caseId pass turns number l s f started) :
      Move settings k (.explore caseId runId number) γ (l, s)
        (.exploring runId caseId pass started .agent
          (initialState started.trusted started.history started.budget))
        (l.cached caseId started.history.cache, s)
  | superstep {l : ConversationStore} {s : SharedState} {runId caseId : RowId} {pass : Nat}
      {f : CaseFolder} {started : Service.StartedInvestigation} {node node' : GraphNode}
      {is is' : InvestigationState} (selector : ObservationSelector)
      (stored : l.folders caseId = some f)
      (step : InvestigationGraph.step s.catalog started.trusted selector node is
        = .ok (node', is')) :
      Move settings k .progress (.exploring runId caseId pass started node is) (l, s)
        (.exploring runId caseId pass started node' is')
        (l.explored caseId runId f
          (Service.superstepEvents s.catalog started.trusted caseId runId node is)
          (is'.coordinator.records.drop is.coordinator.records.length) is'.governed.cache, s)
  | stumble {l : ConversationStore} {s : SharedState} {runId caseId : RowId} {pass : Nat}
      {started : Service.StartedInvestigation} {node : GraphNode} {is : InvestigationState}
      {e : GraphFailure} (selector : ObservationSelector)
      (step : InvestigationGraph.step s.catalog started.trusted selector node is = .error e) :
      Move settings k .progress (.exploring runId caseId pass started node is) (l, s)
        (.exploring runId caseId pass started .finished
          (Service.stumbled s.catalog started.trusted node is))
        ((l.logged (Service.superstepEvents s.catalog started.trusted caseId runId node is)).cached
          caseId (Service.stumbled s.catalog started.trusted node is).governed.cache, s)
  | evaluate {l : ConversationStore} {s : SharedState} {runId caseId : RowId} {pass : Nat}
      {started : Service.StartedInvestigation} {is : InvestigationState} {row : RunRow}
      (stored : l.runs runId = some row) :
      Move settings k .evaluate (.exploring runId caseId pass started .finished is) (l, s)
        (.answered runId caseId pass (Service.outputOf s started is) false)
        (l.gated caseId runId row (Service.outputOf s started is).gateResult, s)
  | resumeGate {x : ServiceState} {runId caseId : RowId} {pass : Nat}
      {started : Service.StartedInvestigation} {is : InvestigationState}
      (resumed : started.history.persistedGate.isSome) (first : started.args.investigationPass = 0)
      (unread : is.coordinator.records.length = started.history.runRecords.length) :
      Move settings k .evaluate (.exploring runId caseId pass started .finished is) x
        (.answered runId caseId pass (Service.outputOf x.2 started is) false) x
  | retry {l : ConversationStore} {s : SharedState} {caseId : RowId} {f : CaseFolder}
      (stored : l.folders caseId = some f) (state : f.row.caseState = .awaitingRetry)
      (actions : f.actions = []) :
      Move settings k (.retry caseId) .idle (l, s) (.working ⟨k, l.nextSerial⟩ caseId .queued 0 0 0)
        ((l.queued k (some caseId)).putCase caseId
          (f.updated { caseState := some .investigating }), s)
  | retryAction {l : ConversationStore} {s : SharedState} {caseId : RowId} {f : CaseFolder}
      {act : ActionRow} (stored : l.folders caseId = some f)
      (state : f.row.caseState = .awaitingRetry) (actions : f.actions = [act])
      (failed : act.actionState = .failedRetryable) :
      Move settings k (.retry caseId) .idle (l, s)
        (.executing ⟨k, l.nextSerial⟩ (.ofCase act caseId f.row) .queued)
        ((l.queued k (some caseId)).putCase caseId
          (f.updated { caseState := some .executingAction }), s)
  /-- A move on a case. -/
  | change {label : Label} {γ γ' : Phase} {l : ConversationStore} {s s' : SharedState}
      {caseId runId : RowId} {f f' : CaseFolder} {row row' : RunRow} {drawn : Bool}
      (folder : l.folders caseId = some f) (run : l.runs runId = some row)
      (move : CaseMove settings caseId runId l s f row label γ drawn γ' s' f' row') :
      Move settings k label γ (l, s) γ'
        (((if drawn then l.tick else l).putCase caseId f').setRun runId row', s')
  /-- The write of an action is refused by a unique index. -/
  | strand {l : ConversationStore} {s : SharedState} {runId : RowId} {a : Service.TicketAction}
      (clear : (s.fixtures.consumeActionFault settings.faultSeed).2 = none)
      (refused : ticketRefused s.tickets (a.ticketRow s.now) = true) :
      Move settings k (.submit a.actionId) (.executing runId a .running) (l, s) .stranded (l, s)

/-- The machine of one conversation. -/
def machine (settings : Settings) (k : String) :
    Machine Phase ConversationStore SharedState Label Response where
  idle := .idle
  ended := Phase.Ended
  inv γ l s := StoreInv k l ∧ γ.Inv l ∧ γ.Written s ∧ TicketInv k l s
  move label γ x γ' y := Move settings k label γ x γ' y

end AfterSales
