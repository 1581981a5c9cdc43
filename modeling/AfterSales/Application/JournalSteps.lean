import AfterSales.Application.Journal

/-! What the transactions leave of the log and of the runs.

    Most of them touch neither, whatever they find; a few move one run, and those of an
    investigation append its traces. Errors that are raised on purpose come from the transactions
    that queue a run only. -/

set_option linter.unusedSectionVars false

namespace AfterSales
open Interleave Repository

variable [PolicyDigest]

/-! ### Transactions that touch no run and no event -/

/-- The log and the states of the runs are what they were. -/
def Undisturbed (x y : ServiceState) : Prop := AppendsEvents [] x.1 y.1

instance : IsPreorder ServiceState Undisturbed where
  refl x := ⟨(List.append_nil _).symm, rfl⟩
  trans _ _ _ h h' := ⟨by rw [h'.events, h.events, List.append_assoc, List.append_nil],
    h'.runs.trans h.runs⟩

/-- A transaction that touches no run and no event, and raises no error on purpose. -/
abbrev Quiet {α : Type} (t : Tx α) : Prop :=
  Transaction.Keeps (fun _ => Undisturbed) (fun e => e.isApplication = false) t

section Quiet

open Transaction

variable {α : Type} {caseId runId : RowId} {f : CaseFolder}

theorem undisturbed_of {x y : ServiceState} (hevents : y.1.events = x.1.events)
    (hruns : y.1.runs = x.1.runs) : Undisturbed x y :=
  ⟨hevents.trans (List.append_nil _).symm, by
    unfold ConversationStore.runStateOf
    rw [hruns]⟩

theorem quiet_conversation : Quiet conversation := fun _ => undisturbed_of rfl rfl
theorem quiet_shared : Quiet shared := fun _ => undisturbed_of rfl rfl

theorem quiet_setShared (s : SharedState) : Quiet (setShared s) := fun _ => undisturbed_of rfl rfl

theorem quiet_raise (e : StorageError) : Quiet (raise e : Tx α) := Keeps.throw rfl

theorem quiet_lift (r : Except StorageError α) : Quiet (lift r) := by
  cases r with
  | ok a => exact Keeps.pure a
  | error e => exact quiet_raise e

theorem quiet_refuse {p : Prop} [Decidable p] (e : StorageError) : Quiet (refuse p e) := by
  rw [refuse]
  split
  · exact quiet_raise e
  · exact Keeps.pure _

theorem quiet_require (entity : String) (r : Option α) : Quiet (require entity r) := by
  cases r with
  | some a => exact Keeps.pure a
  | none => exact quiet_raise _

theorem quiet_requireCase : Quiet (requireCase caseId) :=
  Keeps.bind quiet_conversation fun _ => quiet_require _ _

theorem quiet_putFolder : Quiet (putFolder caseId f) := fun _ => undisturbed_of rfl rfl

theorem quiet_newSerial : Quiet newSerial := fun _ => undisturbed_of rfl rfl

theorem quiet_createCase (row : CaseRow) : Quiet (createCase caseId row) :=
  fun _ => undisturbed_of rfl rfl

theorem quiet_updateCase (rev : Option Nat) (u : CaseUpdate) : Quiet (updateCase caseId rev u) :=
  Keeps.bind quiet_requireCase fun _ => Keeps.bind (quiet_lift _) fun _ _ => undisturbed_of rfl rfl

theorem quiet_appendIssueRevision (issueType : IssueType) (rev : Option Nat) :
    Quiet (appendIssueRevision caseId issueType rev) :=
  Keeps.bind quiet_requireCase fun _ => Keeps.bind (quiet_refuse _) fun _ =>
    Keeps.bind (quiet_refuse _) fun _ => quiet_putFolder

theorem quiet_appendCaseFactAssertion (assertion : CaseFactAssertion) :
    Quiet (appendCaseFactAssertion assertion) := by
  refine Keeps.bind quiet_requireCase fun f => ?_
  split
  · exact Keeps.pure _
  · exact Keeps.bind (quiet_refuse _) fun _ => quiet_putFolder

theorem quiet_appendCaseFactQuestion (question : FactQuestion) :
    Quiet (appendCaseFactQuestion question) := by
  refine Keeps.bind quiet_requireCase fun f => ?_
  split
  · exact Keeps.pure _
  · exact quiet_putFolder

theorem quiet_appendCaseFactMessageConsumption (row : ConsumptionRow) :
    Quiet (appendCaseFactMessageConsumption caseId row) := by
  refine Keeps.bind quiet_requireCase fun f => ?_
  split
  · exact quiet_refuse _
  · exact Keeps.bind (quiet_refuse _) fun _ => quiet_putFolder

theorem quiet_storeCaseFactSnapshot (snapshot : CaseFactSnapshot) :
    Quiet (storeCaseFactSnapshot snapshot) :=
  Keeps.bind quiet_requireCase fun _ => Keeps.bind (quiet_refuse _) fun _ => quiet_putFolder

theorem quiet_createProposal (proposal : ProposalRow) : Quiet (createProposal proposal) :=
  Keeps.bind quiet_requireCase fun _ => Keeps.bind (quiet_refuse _) fun _ => quiet_putFolder

theorem quiet_updateProposalState (proposalId : ProposalId) (proposalState : ProposalState)
    (supersededBy : Option ProposalId) :
    Quiet (updateProposalState proposalId proposalState supersededBy) :=
  Keeps.bind quiet_requireCase fun _ => Keeps.bind (quiet_require _ _) fun _ =>
    Keeps.bind (quiet_refuse _) fun _ => Keeps.bind (quiet_refuse _) fun _ => quiet_putFolder

theorem quiet_createAction (action : ActionRow) : Quiet (createAction action) :=
  Keeps.bind quiet_requireCase fun _ => Keeps.bind (quiet_require _ _) fun _ =>
    Keeps.bind (quiet_refuse _) fun _ => quiet_putFolder

theorem quiet_updateActionState (actionId : ActionId) (actionState : ActionState)
    (changedAt : Instant) (errorCode : Option String) (submittedAt verifiedAt : Option Instant) :
    Quiet (updateActionState actionId actionState changedAt errorCode submittedAt verifiedAt) :=
  Keeps.bind quiet_requireCase fun _ => Keeps.bind (quiet_require _ _) fun _ =>
    Keeps.bind (quiet_lift _) fun _ => quiet_putFolder

theorem quiet_createTicket (ticket : TicketRow) : Quiet (createTicket ticket) := by
  refine Keeps.bind quiet_shared fun s => ?_
  split
  · exact quiet_refuse _
  · exact Keeps.bind quiet_requireCase fun _ => Keeps.bind (quiet_refuse _) fun _ =>
      quiet_setShared _

/-! Case facts. -/

open CaseFactService

theorem quiet_liftFact (r : Except CaseFactError α) : Quiet (liftFact r) := by
  cases r with
  | ok a => exact Keeps.pure a
  | error e => exact Keeps.throw rfl

theorem quiet_rejectIf {p : Prop} [Decidable p] (message : String) : Quiet (rejectIf p message) := by
  rw [rejectIf]
  split
  · exact Keeps.throw rfl
  · exact Keeps.pure _

theorem quiet_requireFact (message : String) (r : Option α) : Quiet (requireFact message r) := by
  cases r with
  | some a => exact Keeps.pure a
  | none => exact Keeps.throw rfl

theorem quiet_appendAccepted (assertion : Option CaseFactAssertion) :
    Quiet (appendAccepted assertion) := by
  cases assertion with
  | some a => exact quiet_appendCaseFactAssertion a
  | none => exact Keeps.pure _

section CaseFacts

variable [FactDigest]

theorem quiet_rebuildCase : Quiet (rebuildCase caseId) :=
  Keeps.bind quiet_requireCase fun _ => Keeps.bind quiet_conversation fun _ => quiet_liftFact _

theorem quiet_refreshSnapshot : Quiet (refreshSnapshot caseId) :=
  Keeps.bind quiet_rebuildCase fun _ => Keeps.bind (quiet_storeCaseFactSnapshot _) fun _ =>
    Keeps.pure _

theorem quiet_loadSnapshot : Quiet (loadSnapshot caseId) := by
  refine Keeps.bind quiet_requireCase fun f => Keeps.bind quiet_rebuildCase fun rebuilt => ?_
  split
  · exact Keeps.throw rfl
  · exact Keeps.pure _

theorem quiet_recordQuestion (factCode : FactCode) : Quiet (recordQuestion caseId factCode) := by
  refine Keeps.bind quiet_requireCase fun f => Keeps.bind quiet_rebuildCase fun snapshot =>
    Keeps.bind quiet_shared fun s => ?_
  rw [askQuestion]
  split
  · exact Keeps.pure _
  · exact Keeps.bind (quiet_rejectIf _) fun _ => Keeps.bind (quiet_appendCaseFactQuestion _)
      fun _ => Keeps.bind quiet_refreshSnapshot fun _ => Keeps.pure _

variable [CaseFolding]

theorem quiet_acceptFresh (question : FactQuestion) (message : MessageRow)
    (batch : UntrustedBatch) : Quiet (acceptFresh caseId f question message batch) :=
  Keeps.bind (quiet_rejectIf _) fun _ => Keeps.bind (quiet_rejectIf _) fun _ =>
    Keeps.bind (quiet_rejectIf _) fun _ => Keeps.bind quiet_conversation fun _ =>
    Keeps.bind (quiet_rejectIf _) fun _ => Keeps.bind (quiet_liftFact _) fun _ =>
    Keeps.bind (quiet_appendAccepted _) fun _ => Keeps.bind quiet_refreshSnapshot fun _ =>
    Keeps.bind (quiet_appendCaseFactMessageConsumption _) fun _ => Keeps.pure _

theorem quiet_acceptMessage (messageId : RowId) (batch : UntrustedBatch) :
    Quiet (acceptMessage caseId messageId batch) := by
  refine Keeps.bind quiet_requireCase fun f => Keeps.bind (quiet_rejectIf _) fun _ =>
    Keeps.bind quiet_conversation fun l => Keeps.bind (quiet_requireFact _ _) fun message =>
    Keeps.bind (quiet_requireFact _ _) fun question => ?_
  split
  · exact Keeps.bind (quiet_rejectIf _) fun _ => Keeps.bind quiet_refreshSnapshot fun _ =>
      Keeps.pure _
  · exact quiet_acceptFresh question message batch

end CaseFacts

end Quiet

/-! ### Transactions that move a run -/

/-- A transaction that moves one run to a state, and raises no error on purpose. -/
abbrev Becomes {α : Type} (runId : RowId) (runState : RunState) (t : Tx α) : Prop :=
  Transaction.Keeps (fun _ x y => RunBecomes runId runState x.1 y.1)
    (fun e => e.isApplication = false) t

section Becomes

open Transaction

variable {α β : Type} {runId caseId : RowId} {q : RunState}

theorem RunBecomes.after {x y z : ServiceState} (h : Undisturbed x y)
    (h' : RunBecomes runId q y.1 z.1) : RunBecomes runId q x.1 z.1 where
  events := by rw [h'.events, h.events, List.append_nil]
  state := h'.state
  others r hr := by rw [h'.others r hr, h.runs]

theorem RunBecomes.before {x y z : ServiceState} (h : RunBecomes runId q x.1 y.1)
    (h' : Undisturbed y z) : RunBecomes runId q x.1 z.1 where
  events := by rw [h'.events, h.events, List.append_nil]
  state := by rw [h'.runs, h.state]
  others r hr := by rw [h'.runs, h.others r hr]

theorem Becomes.after {x : Tx α} {f : α → Tx β} (hx : Quiet x) (hf : ∀ a, Becomes runId q (f a)) :
    Becomes runId q (x >>= f) :=
  Keeps.seq (fun _ _ _ _ _ h h' => h'.after h) hx hf

/-- Storing a run moves it to the state of its row. -/
theorem RunBecomes.of_stored {l l' : ConversationStore} {row : RunRow}
    (hevents : l'.events = l.events) (hruns : l'.runs = Function.update l.runs runId (some row))
    (hstate : row.runState = q) : RunBecomes runId q l l' where
  events := hevents
  state := by
    unfold ConversationStore.runStateOf
    rw [hruns, Function.update_self, Option.map_some, hstate]
  others r hr := by
    unfold ConversationStore.runStateOf
    rw [hruns, Function.update_of_ne hr]

omit [PolicyDigest] in
/-- An update of a run leaves it in the state it asks for. -/
theorem RunRow.update_runState {row row' : RunRow} {turns reads : Option Nat}
    {failureCode : Option String} (h : row.update q turns reads failureCode = .ok row') :
    row'.runState = q := by
  unfold RunRow.update at h
  simp only at h
  split_ifs at h
  injection h with h
  rw [← h]

theorem updateRun_becomes (turns reads : Option Nat) (failureCode : Option String) :
    Becomes runId q (updateRun runId q turns reads failureCode) := by
  intro x
  rw [updateRun, bind_ok (show conversation x = .ok (x.1, x) from rfl)]
  cases hrow : x.1.runs runId with
  | none => exact rfl
  | some row =>
    rw [bind_ok (require_ok rfl)]
    cases hupdate : row.update q turns reads failureCode with
    | error e => exact rfl
    | ok row' =>
      rw [bind_ok (lift_ok rfl)]
      exact RunBecomes.of_stored rfl rfl (RunRow.update_runState hupdate)

/-! Cases, proposals and actions. -/

theorem quiet_storeReads (reads : List CallRecord) (cache : CaseToolCache) :
    Quiet (Service.storeReads caseId runId reads cache) :=
  Keeps.bind quiet_requireCase fun _ => Keeps.bind quiet_putFolder fun _ _ =>
    undisturbed_of rfl rfl

theorem quiet_changeCase (u : CaseUpdate) : Quiet (Service.changeCase caseId u) :=
  Keeps.bind quiet_requireCase fun _ => quiet_updateCase _ _

theorem quiet_parkCase (pass : Nat) : Quiet (Service.parkCase caseId runId pass) :=
  Keeps.bind quiet_requireCase fun _ => Keeps.bind quiet_conversation fun _ =>
    Keeps.bind (quiet_changeCase _) fun _ => Keeps.pure _

theorem quiet_reviseCase (output : InvestigationOutput) (issueType : IssueType) :
    Quiet (Service.reviseCase caseId output issueType) :=
  Keeps.bind (quiet_changeCase _) fun _ => Keeps.bind quiet_requireCase fun _ =>
    quiet_appendIssueRevision _ _

theorem quiet_requireProposal (proposalId : ProposalId) :
    Quiet (Service.requireProposal proposalId) :=
  Keeps.bind quiet_requireCase fun _ => Keeps.bind (quiet_require _ _) fun _ => Keeps.pure _

theorem quiet_dropProposal (proposalId : ProposalId) (proposalState : ProposalState) :
    Quiet (Service.dropProposal proposalId proposalState) :=
  Keeps.bind (quiet_updateProposalState _ _ _) fun _ => quiet_changeCase _

/-- A case is changed, and its run succeeds. -/
theorem changeCase_becomes (u : CaseUpdate) (turns reads : Option Nat) :
    Becomes runId .succeeded (do
      Service.changeCase caseId u
      updateRun runId .succeeded turns reads) :=
  Becomes.after (quiet_changeCase u) fun _ => updateRun_becomes _ _ _

theorem recordFault_becomes (a : Service.TicketAction) (fault : ActionFixtureFault) :
    Becomes runId .succeeded (Service.recordFault a runId fault) :=
  Becomes.after quiet_shared fun _ => Becomes.after (quiet_updateActionState _ _ _ _ _ _) fun _ =>
    changeCase_becomes _ _ _

/-- The step of a submission: it moves no run, and answers with the fault that it found. -/
theorem submitStep_keeps (settings : Settings) (a : Service.TicketAction) (x : ServiceState) :
    ∃ r y, Service.submitStep settings a x = (r, y) ∧
      match r with
      | .ok submitted => Undisturbed x y ∧
          submitted.1 = (x.2.fixtures.consumeActionFault settings.faultSeed).2
      | .error e => y.1 = x.1 ∧ e.isApplication = false := by
  let consumed := x.2.fixtures.consumeActionFault settings.faultSeed
  have hquiet : Quiet (Service.submitAction a consumed.2 x.2.now) := by
    refine Keeps.bind (quiet_updateActionState _ _ _ _ _ _) fun _ => ?_
    split
    · exact Keeps.pure _
    · exact quiet_createTicket _
  have hkeeps : Keeps (fun (r : Option ActionFixtureFault × Instant) y z =>
      Undisturbed y z ∧ r.1 = consumed.2) (fun e => e.isApplication = false)
      (do
        Service.submitAction a consumed.2 x.2.now
        return (consumed.2, x.2.now)) := hquiet.returns fun _ _ _ h => ⟨h, rfl⟩
  unfold Service.submitStep
  refine ⟨_, _, rfl, ?_⟩
  cases h : (do
      Service.submitAction a consumed.2 x.2.now
      return (consumed.2, x.2.now) : Tx (Option ActionFixtureFault × Instant))
      (x.1, { x.2 with fixtures := consumed.1 }) with
  | ok r =>
    obtain ⟨hmoved, hfault⟩ := hkeeps.of_ok h
    exact ⟨⟨hmoved.events, hmoved.runs⟩, hfault⟩
  | error e => exact ⟨rfl, hkeeps.of_error h⟩

/-- What a review of a decline leaves: it moves no run when it refuses, and finishes it else. -/
def DeclineLeaves (runId : RowId) (refused : Option String) (x y : ServiceState) : Prop :=
  if refused.isSome then Undisturbed x y else RunBecomes runId .succeeded x.1 y.1

/-- Nothing that came before the review touched a run. -/
theorem DeclineLeaves.after {x : Tx α} {f : α → Tx (Option String)} (hx : Quiet x)
    (hf : ∀ a, Keeps (DeclineLeaves runId) (fun e => e.isApplication = false) (f a)) :
    Keeps (DeclineLeaves runId) (fun e => e.isApplication = false) (x >>= f) := by
  refine Keeps.seq (S := fun _ => DeclineLeaves runId) ?_ hx hf
  rintro a (_ | code) x y z h h'
  · exact RunBecomes.after h h'
  · exact IsTrans.trans (r := Undisturbed) _ _ _ h h'

theorem reviewDecline_keeps (proposalId : ProposalId) (version : Nat) :
    Keeps (DeclineLeaves runId) (fun e => e.isApplication = false)
      (Service.reviewDecline runId proposalId version) := by
  refine DeclineLeaves.after (quiet_requireProposal _) fun found =>
    DeclineLeaves.after quiet_shared fun s => ?_
  split
  · split
    · exact (quiet_dropProposal _ _).returns fun _ _ _ h => h
    · exact fun x => Std.Refl.refl (r := Undisturbed) x
  · exact DeclineLeaves.after (quiet_updateProposalState _ _ _) fun _ =>
      DeclineLeaves.after (quiet_changeCase _) fun _ =>
      (updateRun_becomes _ _ _).returns fun _ _ _ h => h

/-! Investigations. -/

variable [FactDigest] [CaseFolding]

theorem quiet_askQuestionAboutLocation : Quiet (Service.askQuestionAboutLocation caseId) :=
  Keeps.bind quiet_loadSnapshot fun _ => Keeps.bind (quiet_recordQuestion _) fun _ => Keeps.pure _

theorem quiet_acceptReply (messageId : RowId) (customerMessage : String) :
    Quiet (Service.acceptReply caseId messageId customerMessage) := by
  refine Keeps.bind quiet_loadSnapshot fun before => ?_
  split
  · exact Keeps.pure _
  · exact Keeps.bind quiet_requireCase fun f => Keeps.bind (quiet_acceptMessage _ _) fun _ =>
      Keeps.pure _

/-- A broken history is answered, and leaves the state as it was. -/
theorem quiet_currentIdentity : Quiet (Service.currentIdentity caseId) := by
  intro x
  have hload := (quiet_loadSnapshot : Quiet (CaseFactService.loadSnapshot caseId)) x
  unfold Service.currentIdentity
  cases h : CaseFactService.loadSnapshot caseId x with
  | ok r =>
    rw [h] at hload
    exact hload
  | error e =>
    rw [h] at hload
    cases e with
    | caseFact e =>
      cases e with
      | integrity => exact undisturbed_of rfl rfl
      | _ => exact rfl
    | application => exact hload
    | _ => exact rfl

variable [ProofDigest] [ResultDigest] [IdText] [TraceVolume] [EvidenceDigest] [MessageRedaction]

/-- What a review of a confirmation leaves: it moves no run, and the action is one of its case. -/
def ReviewLeaves (caseId : RowId) (verdict : Service.Verdict) (x y : ServiceState) : Prop :=
  Undisturbed x y ∧ ∀ a, verdict = .confirmed a → a.caseId = caseId

theorem ReviewLeaves.after {x : Tx α} {f : α → Tx Service.Verdict} (hx : Quiet x)
    (hf : ∀ a, Keeps (ReviewLeaves caseId) (fun e => e.isApplication = false) (f a)) :
    Keeps (ReviewLeaves caseId) (fun e => e.isApplication = false) (x >>= f) :=
  Keeps.seq (S := fun _ => ReviewLeaves caseId)
    (fun _ _ _ _ _ h h' => ⟨IsTrans.trans (r := Undisturbed) _ _ _ h h'.1, h'.2⟩) hx hf

theorem ReviewLeaves.pure {verdict : Service.Verdict}
    (h : ∀ a, verdict = .confirmed a → a.caseId = caseId) :
    Keeps (ReviewLeaves caseId) (fun e => e.isApplication = false)
      (Pure.pure verdict : Tx Service.Verdict) :=
  fun _ => ⟨Std.Refl.refl (r := Undisturbed) _, h⟩

theorem reviewConfirmation_keeps (settings : Settings) (proposalId : ProposalId) (version : Nat) :
    Keeps (ReviewLeaves proposalId.caseId) (fun e => e.isApplication = false)
      (Service.reviewConfirmation settings proposalId version) := by
  refine ReviewLeaves.after (quiet_requireProposal _) fun found =>
    ReviewLeaves.after quiet_shared fun s => ?_
  split
  · split
    · exact ReviewLeaves.after (quiet_dropProposal _ _) fun _ => ReviewLeaves.pure (by simp)
    · exact ReviewLeaves.pure (by simp)
  split
  · exact ReviewLeaves.pure (by simp)
  refine ReviewLeaves.after quiet_shared fun s => ?_
  split
  · exact ReviewLeaves.pure (by simp)
  refine ReviewLeaves.after quiet_currentIdentity fun identity => ?_
  split
  · refine ReviewLeaves.after (Keeps.bind (quiet_updateProposalState _ _ _) fun _ =>
      Keeps.bind (quiet_createAction _) fun _ => quiet_changeCase _) fun _ =>
      ReviewLeaves.pure ?_
    rintro a ⟨rfl⟩
    rfl
  · exact ReviewLeaves.after (quiet_dropProposal _ _) fun _ => ReviewLeaves.pure (by simp)

theorem createTicketProposal_becomes (output : InvestigationOutput) (gate : EvidenceGateResult)
    (binding : PolicyBinding) (identity : Option CaseFactIdentity) :
    Becomes runId .succeeded
      (Service.createTicketProposal caseId runId output gate binding identity) := by
  refine Becomes.after quiet_requireCase fun f => Becomes.after quiet_shared fun s =>
    Becomes.after quiet_newSerial fun serial =>
    Becomes.after (Keeps.forM (fun _ => quiet_updateProposalState _ _ _) _) fun _ =>
    Becomes.after (quiet_createProposal _) fun _ => Becomes.after (quiet_changeCase _) fun _ => ?_
  exact (updateRun_becomes _ _ _).returns fun _ _ _ h => h

theorem askForPackage_becomes : Becomes runId .succeeded (Service.askForPackage caseId runId) := by
  refine Becomes.after quiet_requireCase fun f => ?_
  split
  · exact Becomes.after (quiet_changeCase _) fun _ =>
      (updateRun_becomes _ _ _).returns fun _ _ _ h => h
  · exact Becomes.after (quiet_changeCase _) fun _ =>
      (updateRun_becomes _ _ _).returns fun _ _ _ h => h

theorem verifyTicket_becomes (a : Service.TicketAction) (submittedAt : Instant) :
    Becomes runId .succeeded (Service.verifyTicket a runId submittedAt) := by
  refine Becomes.after quiet_shared fun s => ?_
  split
  · exact Keeps.throw rfl
  refine Becomes.after (quiet_setShared _) fun _ => ?_
  split
  · exact Becomes.after (quiet_updateActionState _ _ _ _ _ _) fun _ =>
      (changeCase_becomes _ _ _).returns fun _ _ _ h => h
  · exact Becomes.after (quiet_updateActionState _ _ _ _ _ _) fun _ =>
      (changeCase_becomes _ _ _).returns fun _ _ _ h => h

theorem quiet_startInvestigation (settings : Settings) (args : InvestigateArguments) :
    Quiet (Service.startInvestigation settings caseId runId args) := by
  refine Keeps.bind quiet_requireCase fun f x => ?_
  rw [bind_ok (show conversation x = .ok (x.1, x) from rfl),
    bind_ok (show shared x = .ok (x.2, x) from rfl)]
  cases initialBudget { args with
      casePlanningTurns := f.row.agentPlanningTurnCount
      caseReadExecutions := f.row.actualReadToolExecutionCount }
    (investigationHistory x.1 x.2 caseId runId f) with
  | none => exact rfl
  | some budget => exact undisturbed_of rfl rfl

/-- Events about a run and its case, which do not tell how the run goes. -/
structure Traces (runId caseId : RowId) (events : List ServiceEvent) : Prop where
  about : ∀ e ∈ events, e.runId = some runId ∧ ∀ c ∈ e.caseId, some caseId = some c
  silent : ∀ e ∈ events, ¬ e.ofRun

/-- The events of a superstep do not tell of the gate either. -/
theorem superstepEvents_traces (catalog : SyntheticReadToolCatalog) (trusted : TrustedToolContext)
    (node : GraphNode) (s : InvestigationState) :
    Traces runId caseId (Service.superstepEvents catalog trusted caseId runId node s) ∧
      ∀ e ∈ Service.superstepEvents catalog trusted caseId runId node s, ¬ e.ofGate := by
  have hevent : ∀ e ∈ Service.superstepEvents catalog trusted caseId runId node s,
      ∃ kind ∈ ["agent_turn_started", "state_trace_record"],
        e = ⟨kind, .developer, some caseId, some runId, none, none, false⟩ := by
    intro e he
    rcases List.mem_append.mp he with he | he
    · split at he
      · exact ⟨_, by simp, List.mem_singleton.mp he⟩
      · cases he
    · exact ⟨_, by simp, List.eq_of_mem_replicate he⟩
  refine ⟨⟨?_, ?_⟩, ?_⟩ <;> intro e he <;> obtain ⟨kind, hkind, rfl⟩ := hevent e he
  · exact ⟨rfl, fun _ => id⟩
  · rcases List.mem_pair.mp hkind with rfl | rfl <;> simp [ServiceEvent.ofRun]
  · rcases List.mem_pair.mp hkind with rfl | rfl <;> simp [ServiceEvent.ofGate]

/-- What a step of an investigation appends, besides rows that the journal does not know. -/
def Adds (runId caseId : RowId) (silent : ServiceEvent → Prop) (x y : ServiceState) : Prop :=
  ∃ events, AppendsEvents events x.1 y.1 ∧ Traces runId caseId events ∧ ∀ e ∈ events, silent e

theorem superstep_adds (trusted : TrustedToolContext) (selector : ObservationSelector)
    (node : GraphNode) (is : InvestigationState) :
    Keeps (fun _ => Adds runId caseId fun e => ¬ e.ofGate) (fun e => e.isApplication = false)
      (Service.superstep trusted caseId runId selector node is) := by
  intro x
  let events := Service.superstepEvents x.2.catalog trusted caseId runId node is
  obtain ⟨htraces, hgate⟩ : Traces runId caseId events ∧ ∀ e ∈ events, ¬ e.ofGate :=
    superstepEvents_traces x.2.catalog trusted node is
  rw [Service.superstep, bind_ok (show shared x = .ok (x.2, x) from rfl),
    bind_ok (show appendEvents events x
      = .ok ((), ({ x.1 with events := x.1.events ++ events }, x.2)) from rfl)]
  cases InvestigationGraph.step x.2.catalog trusted selector node is with
  | error e => exact ⟨events, ⟨rfl, rfl⟩, htraces, hgate⟩
  | ok next =>
    obtain ⟨node', is'⟩ := next
    have hstored : Quiet (do
        Service.storeReads caseId runId
          (is'.coordinator.records.drop is.coordinator.records.length) is'.governed.cache
        return (.ok (node', is') : Except GraphFailure (GraphNode × InvestigationState))) :=
      (quiet_storeReads _ _).returns fun _ _ _ h => h
    exact hstored.imp (P := fun _ => Adds runId caseId (fun e => ¬ e.ofGate) x) fun _ y h =>
      ⟨events, ⟨h.events.trans (List.append_nil _), h.runs⟩, htraces, hgate⟩

theorem evaluateRun_adds (started : Service.StartedInvestigation) (is : InvestigationState) :
    Keeps (fun _ => Adds runId caseId fun _ => True) (fun e => e.isApplication = false)
      (Service.evaluateRun caseId runId started is) := by
  intro x
  rw [Service.evaluateRun, bind_ok (show shared x = .ok (x.2, x) from rfl)]
  by_cases hresumed : started.history.persistedGate.isSome ∧ started.args.investigationPass = 0 ∧
      is.coordinator.records.length = started.history.runRecords.length
  · simp only [if_pos hresumed]
    exact ⟨[], ⟨(List.append_nil _).symm, rfl⟩, ⟨by simp, by simp⟩, by simp⟩
  · simp only [if_neg hresumed]
    rw [bind_ok (show conversation x = .ok (x.1, x) from rfl)]
    cases hrow : x.1.runs runId with
    | none => exact rfl
    | some row =>
      have hbecomes : RunBecomes runId row.runState x.1 (x.1.setRun runId
          { row with gateResult := some (Service.outputOf x.2 started is).gateResult }) :=
        .of_stored rfl rfl rfl
      rw [bind_ok (require_ok rfl)]
      refine ⟨_, ⟨rfl, ?_⟩, ⟨?_, ?_⟩, fun _ _ => trivial⟩
      · funext r
        by_cases hr : r = runId
        · subst hr
          exact hbecomes.state.trans (by rw [ConversationStore.runStateOf, hrow]; rfl)
        · exact hbecomes.others r hr
      · intro e he
        rcases List.mem_pair.mp he with rfl | rfl <;> exact ⟨rfl, fun _ => id⟩
      · intro e he
        rcases List.mem_pair.mp he with rfl | rfl <;> simp [ServiceEvent.ofRun]

/-! Messages, retries and answers. -/

/-- A new run is queued under the next serial number. -/
def Queues (k : String) (runId : RowId) (x y : ServiceState) : Prop :=
  runId = ⟨k, x.1.nextSerial⟩ ∧ RunBecomes runId .queued x.1 y.1

theorem receiveMessage_queues (k : String) (message : ValidatedCustomerMessage) :
    Keeps (fun received x y => Queues k received.runId x y ∧
        received.activeCase = x.1.activeCase.map (·.1)) (fun _ => True)
      (Service.receiveMessage k message) := by
  intro x
  rw [Service.receiveMessage, bind_ok (show conversation x = .ok (x.1, x) from rfl)]
  cases hcustomer : x.1.customerId with
  | none => trivial
  | some customerId =>
    rw [bind_ok (show Service.found "CONVERSATION_NOT_FOUND" (some customerId) x
      = .ok (customerId, x) from rfl)]
    split
    · rename_i h
      split at h
      · cases h
      · injection h with h
        subst h
        exact ⟨⟨rfl, .of_stored rfl rfl rfl⟩, rfl⟩
    · trivial

theorem createActionRun_queues (k : String) (proposalId : ProposalId) :
    Keeps (fun runId => Queues k runId) (fun _ => True) (do
      let l ← conversation
      let _ ← Service.found "PROPOSAL_NOT_FOUND" (getProposal l proposalId)
      let serial ← newSerial
      createRun ⟨k, serial⟩ (some proposalId.caseId)
      return (⟨k, serial⟩ : RowId)) := by
  intro x
  rw [bind_ok (show conversation x = .ok (x.1, x) from rfl)]
  cases getProposal x.1 proposalId with
  | none => trivial
  | some p => exact ⟨rfl, .of_stored rfl rfl rfl⟩

/-- What a retry leaves: its run is queued, and its action is one of its case. -/
def RetryLeaves (k : String) (caseId : RowId) (plan : Service.RetryPlan) (x y : ServiceState) :
    Prop :=
  Queues k plan.run x y ∧ ∀ r a, plan = .action r a → a.caseId = caseId

/-- A run is queued, and then a case is changed. -/
theorem queue_then (k : String) (plan : RowId → Service.RetryPlan)
    (hplan : ∀ r, (plan r).run = r) (hcase : ∀ r r' a, plan r = .action r' a → a.caseId = caseId)
    (u : CaseUpdate) :
    Keeps (RetryLeaves k caseId) (fun _ => True) (do
      let serial ← newSerial
      createRun ⟨k, serial⟩ (some caseId)
      Service.changeCase caseId u
      return plan ⟨k, serial⟩) := by
  intro x
  let y : ServiceState := (({ x.1 with nextSerial := x.1.nextSerial + 1 } :
    ConversationStore).setRun ⟨k, x.1.nextSerial⟩ ⟨some caseId, .queued, 0, 0, none, none⟩, x.2)
  have hqueued : RunBecomes ⟨k, x.1.nextSerial⟩ .queued x.1 y.1 :=
    .of_stored rfl rfl rfl
  have hchanged := (quiet_changeCase u : Quiet (Service.changeCase caseId u)) y
  rw [bind_ok (show newSerial x = .ok (x.1.nextSerial,
      ({ x.1 with nextSerial := x.1.nextSerial + 1 }, x.2)) from rfl),
    bind_ok (show createRun ⟨k, x.1.nextSerial⟩ (some caseId)
      ({ x.1 with nextSerial := x.1.nextSerial + 1 }, x.2) = .ok ((), y) from rfl)]
  cases h : Service.changeCase caseId u y with
  | error e =>
    rw [bind_error h]
    trivial
  | ok r =>
    rw [h] at hchanged
    rw [bind_ok h]
    exact ⟨⟨hplan _, (hplan _).symm ▸ hqueued.before hchanged⟩, hcase _⟩

theorem planRetry_queues (k : String) :
    Keeps (RetryLeaves k caseId) (fun _ => True) (Service.planRetry k caseId) := by
  intro x
  rw [Service.planRetry, bind_ok (show conversation x = .ok (x.1, x) from rfl)]
  cases hf : x.1.folders caseId with
  | none => trivial
  | some f =>
    rw [bind_ok (show Service.found "INVESTIGATION_CASE_NOT_FOUND" (some f) x = .ok (f, x) from rfl)]
    by_cases hstate : f.row.caseState ≠ .awaitingRetry
    · rw [if_pos hstate]
      trivial
    rw [if_neg hstate]
    by_cases hunsafe : f.actions.any fun a => a.actionState = .submitted || a.actionState = .uncertain
    · rw [if_pos hunsafe]
      trivial
    rw [if_neg hunsafe]
    by_cases hmany : 1 < (f.actions.filter (·.actionState = .failedRetryable)).length
    · simp only [if_pos hmany]
      trivial
    simp only [if_neg hmany]
    cases f.actions.filter (·.actionState = .failedRetryable) with
    | nil => exact queue_then k .investigation (fun _ => rfl) (by simp) _ x
    | cons action _ =>
      refine queue_then k (.action · (.ofCase action caseId f.row)) (fun _ => rfl) ?_ _ x
      rintro r r' a ⟨⟩
      rfl

theorem quiet_bindCase (messageId : RowId) : Quiet (Service.bindCase caseId runId messageId) := by
  intro x
  rw [Service.bindCase, bind_ok (show conversation x = .ok (x.1, x) from rfl)]
  cases hrow : x.1.runs runId with
  | none => exact rfl
  | some row =>
    rw [bind_ok (require_ok rfl)]
    have hbecomes : RunBecomes runId row.runState x.1
        (x.1.setRun runId { row with caseId := some caseId }) := .of_stored rfl rfl rfl
    refine ⟨(List.append_nil _).symm, ?_⟩
    funext r
    by_cases hr : r = runId
    · subst hr
      exact hbecomes.state.trans (by rw [ConversationStore.runStateOf, hrow]; rfl)
    · exact hbecomes.others r hr

/-- A new case is named by the number that is drawn. -/
theorem openCase_names (k : String) (messageId : RowId) (customerId orderId : String)
    (issueType : IssueType) (customerMessage : String) :
    Keeps (fun opened x y => Undisturbed x y ∧ opened.1 = ⟨k, x.1.nextSerial⟩)
      (fun e => e.isApplication = false)
      (Service.openCase k runId messageId customerId orderId issueType customerMessage) := by
  have hdraws : Keeps (fun serial x y => Undisturbed x y ∧ serial = x.1.nextSerial)
      (fun e => e.isApplication = false) newSerial :=
    fun _ => ⟨undisturbed_of rfl rfl, rfl⟩
  refine Keeps.seq (R := fun _ x y => x = y)
    (S := fun _ opened x y => Undisturbed x y ∧ opened.1 = ⟨k, x.1.nextSerial⟩) ?_ (fun _ => rfl)
    fun s => Keeps.seq (S := fun serial opened x y => Undisturbed x y ∧ opened.1 = ⟨k, serial⟩) ?_
      hdraws fun serial => ?_
  · rintro _ opened x _ z rfl h
    exact h
  · rintro serial opened x y z ⟨hxy, rfl⟩ ⟨hyz, hname⟩
    exact ⟨IsTrans.trans (r := Undisturbed) _ _ _ hxy hyz, hname⟩
  · refine Keeps.seq (S := fun _ opened x y => Undisturbed x y ∧ opened.1 = ⟨k, serial⟩) ?_
      (quiet_createCase _) fun _ => (quiet_bindCase _).returns fun _ _ _ h => ⟨h, rfl⟩
    rintro _ opened x y z hxy ⟨hyz, hname⟩
    exact ⟨IsTrans.trans (r := Undisturbed) _ _ _ hxy hyz, hname⟩

theorem quiet_decidePolicy (customerId : String) (triage : TriageResult) :
    Quiet (Service.decidePolicy customerId triage) := fun _ => undisturbed_of rfl rfl

end Becomes

end AfterSales
