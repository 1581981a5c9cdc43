import AfterSales.Application.Invariant

/-! What a step makes of the folder of a case, and of the tickets.

    A step of a conversation leaves the folder of a case as it is, opens it, adds to its facts or
    reads, starts a retry, or makes a move on the case. What is stated about folders one by one is
    kept when each of these keeps it. A ticket is added by the step that submits its action, and by
    no other. -/

set_option linter.unusedSectionVars false

namespace AfterSales
open Interleave Repository

variable [PolicyDigest] [ProofDigest] [ResultDigest] [IdText] [TraceVolume] [FactDigest]
  [CaseFolding] [EvidenceDigest] [MessageRedaction]

variable {settings : Settings} {k : String} {l : ConversationStore} {s : SharedState}
  {label : Label} {γ γ' : Phase} {x y : ServiceState} {c : RowId} {f f' : CaseFolder}

/-- The folder of a case before and after a step. -/
inductive FolderMove (settings : Settings) (k : String) (l : ConversationStore) (s : SharedState)
    (c : RowId) : Label → Phase → Phase → Option CaseFolder → Option CaseFolder → Prop
  | same {label : Label} {γ γ' : Phase} (o : Option CaseFolder) :
      FolderMove settings k l s c label γ γ' o o
  | opened {runId messageId : RowId} (customerId orderId : String) (issueType : IssueType)
      (target : Option String) :
      FolderMove settings k l s c .openCase (.noted runId messageId .running)
        (.working runId c .running 0 0 0) none
        (some ⟨Service.newCaseRow customerId orderId issueType target, [], [], [], [], none, [], []⟩)
  | facts {label : Label} {γ γ' : Phase} {f f' : CaseFolder} (facts : γ.Facts c γ')
      (step : FactStep l c f f') : FolderMove settings k l s c label γ γ' (some f) (some f')
  | explored {runId : RowId} {pass : Nat} {started : Service.StartedInvestigation}
      {node node' : GraphNode} {is is' : InvestigationState} {f : CaseFolder}
      (selector : ObservationSelector) (step : InvestigationGraph.step s.catalog started.trusted
        selector node is = .ok (node', is')) :
      FolderMove settings k l s c .progress (.exploring runId c pass started node is)
        (.exploring runId c pass started node' is') (some f) (some { f with
          toolCalls := f.toolCalls ++ (is'.coordinator.records.drop
            is.coordinator.records.length).map (⟨runId, ·⟩) })
  | retry {f : CaseFolder} (state : f.row.caseState = .awaitingRetry) (actions : f.actions = []) :
      FolderMove settings k l s c (.retry c) .idle (.working ⟨k, l.nextSerial⟩ c .queued 0 0 0)
        (some f) (some (f.updated { caseState := some .investigating }))
  | retryAction {f : CaseFolder} {act : ActionRow} (state : f.row.caseState = .awaitingRetry)
      (actions : f.actions = [act]) (failed : act.actionState = .failedRetryable) :
      FolderMove settings k l s c (.retry c) .idle
        (.executing ⟨k, l.nextSerial⟩ (.ofCase act c f.row) .queued)
        (some f) (some (f.updated { caseState := some .executingAction }))
  | change {label : Label} {γ γ' : Phase} {runId : RowId} {f f' : CaseFolder} {row row' : RunRow}
      {drawn : Bool} {s' : SharedState} (run : l.runs runId = some row)
      (move : CaseMove settings c runId l s f row label γ drawn γ' s' f' row') :
      FolderMove settings k l s c label γ γ' (some f) (some f')

/-- Every step moves the folder of every case so. -/
theorem Move.folderMove (h : Move settings k label γ x γ' y) (hinv : StoreInv k x.1) (c : RowId) :
    FolderMove settings k x.1 x.2 c label γ γ' (x.1.folders c) (y.1.folders c) := by
  cases h with
  | @openCase l s runId messageId run customerId orderId issueType target stored =>
    by_cases e : c = ⟨k, l.nextSerial⟩
    · subst e
      have hnew : l.folders ⟨k, l.nextSerial⟩ = none := by
        rw [Option.eq_none_iff_forall_ne_some]
        intro g hg
        exact absurd (hinv.folders _ g hg).2.1 (lt_irrefl _)
      have hopened : (l.opened ⟨k, l.nextSerial⟩ runId messageId
          (Service.newCaseRow customerId orderId issueType target) run).folders ⟨k, l.nextSerial⟩ =
          some ⟨Service.newCaseRow customerId orderId issueType target, [], [], [], [], none, [],
            []⟩ := ConversationStore.setFolder_self ..
      rw [hnew, hopened]
      exact .opened customerId orderId issueType target
    · have hsame : (l.opened ⟨k, l.nextSerial⟩ runId messageId
          (Service.newCaseRow customerId orderId issueType target) run).folders c = l.folders c :=
        ConversationStore.setFolder_of_ne e
      rw [hsame]
      exact .same _
  | @facts label γ γ' l s caseId f f' kind facts stored step =>
    by_cases e : c = caseId
    · subst e
      rw [stored, ConversationStore.setFolder_self]
      exact .facts facts step
    · rw [ConversationStore.setFolder_of_ne e]
      exact .same _
  | @superstep l s runId caseId pass f started node node' is is' selector stored step =>
    by_cases e : c = caseId
    · subst e
      have hexplored : (l.explored c runId f
          (Service.superstepEvents s.catalog started.trusted c runId node is)
          (is'.coordinator.records.drop is.coordinator.records.length) is'.governed.cache).folders c
          = some { f with toolCalls := f.toolCalls ++ (is'.coordinator.records.drop
            is.coordinator.records.length).map (⟨runId, ·⟩) } :=
        ConversationStore.setFolder_self ..
      rw [stored, hexplored]
      exact .explored selector step
    · have hsame : (l.explored caseId runId f
          (Service.superstepEvents s.catalog started.trusted caseId runId node is)
          (is'.coordinator.records.drop is.coordinator.records.length) is'.governed.cache).folders c
          = l.folders c := ConversationStore.setFolder_of_ne e
      rw [hsame]
      exact .same _
  | @retry l s caseId f stored state actions =>
    by_cases e : c = caseId
    · subst e
      rw [stored, ConversationStore.putCase_self]
      exact .retry state actions
    · rw [ConversationStore.putCase_of_ne e]
      exact .same _
  | @retryAction l s caseId f act stored state actions failed =>
    by_cases e : c = caseId
    · subst e
      rw [stored, ConversationStore.putCase_self]
      exact .retryAction state actions failed
    · rw [ConversationStore.putCase_of_ne e]
      exact .same _
  | @change label γ γ' l s s' caseId runId f f' row row' drawn folder run move =>
    have hfolders : (if drawn then l.tick else l).folders = l.folders := by
      cases drawn <;> rfl
    by_cases e : c = caseId
    · subst e
      rw [ConversationStore.setRun_folders, ConversationStore.putCase_self, folder]
      exact .change run move
    · rw [ConversationStore.setRun_folders, ConversationStore.putCase_of_ne e, hfolders]
      exact .same _
  | _ => exact .same _

/-- The write of an action that is submitted, and the tickets before and after it. -/
structure TicketWritten (settings : Settings) (s : SharedState) (a : Service.TicketAction)
    (tickets : List TicketRow) : Prop where
  clear : (s.fixtures.consumeActionFault settings.faultSeed).2 = none
  accepted : ticketRefused s.tickets (a.ticketRow s.now) = false
  written : tickets = s.tickets ++ [a.ticketRow s.now]

/-- Only the submission of an action adds a ticket. -/
theorem Move.tickets (h : Move settings k label γ x γ' y) :
    y.2.tickets = x.2.tickets ∨ ∃ runId a, γ = .executing runId a .running ∧
      label = .submit a.actionId ∧ TicketWritten settings x.2 a y.2.tickets := by
  cases h with
  | change folder run move =>
    cases move with
    | submit open_ owner due clear accepted =>
      exact .inr ⟨_, _, rfl, rfl, clear, accepted, rfl⟩
    | _ => exact .inl rfl
  | _ => exact .inl rfl

end AfterSales
