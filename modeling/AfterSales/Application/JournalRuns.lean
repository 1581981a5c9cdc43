import AfterSales.Application.JournalSteps

/-! The operations follow the journal.

    Every operation is read from top to bottom: where it stands after each step, and what it owes to
    the log. Inside an investigation any error leaves the run open, for the handler that parks its
    case; everywhere else an error that is raised on purpose leaves nothing to be told. -/

set_option linter.unusedSectionVars false

namespace AfterSales
open Interleave Repository

variable [PolicyDigest] [ProofDigest] [ResultDigest] [IdText] [TraceVolume] [FactDigest]
  [CaseFolding] [EvidenceDigest] [MessageRedaction]

variable {settings : Settings} {k : String} {l : ConversationStore} {α β : Type}
  {runId caseId : RowId} {co : Option RowId} {p p' : JournalPoint}

/-- The points at which a run is at hand. -/
inductive JournalPoint.Of (runId : RowId) (co : Option RowId) : JournalPoint → Prop
  | opened (due : List ServiceEvent) : Of runId co (.opened runId co due)
  | closed (due : List ServiceEvent) : Of runId co (.closed runId co due)
  | acting (caseId : RowId) (fault : Option ActionFixtureFault) (h : co = some caseId) :
      Of runId co (.acting runId caseId fault)

theorem JournalPoint.Of.about {e : ServiceEvent} (h : p.Of runId co) (hrun : e.runId = some runId)
    (hcase : ∀ c ∈ e.caseId, co = some c) : p.About e := by
  cases h with
  | opened | closed => exact ⟨hrun, hcase⟩
  | acting caseId fault h =>
    refine ⟨hrun, fun c hc => ?_⟩
    exact Option.some.inj (h.symm.trans (hcase c hc))

namespace Journal

/-- The journal has come to a point. -/
def At (p : JournalPoint) (_ : α) (p' : JournalPoint) (_ : ConversationStore) : Prop := p' = p

/-- An error that is raised on purpose leaves nothing to be told. -/
def Raised (e : ServiceError) (p : JournalPoint) (_ : ConversationStore) : Prop :=
  e.isApplication → p.Over

/-! ### Rules -/

theorem Label.quiet_submits {label : Label} (h : label.quiet) : label.submits = false := by
  cases label with
  | submit => cases h
  | _ => rfl

theorem Label.finishes_submits {label : Label} (h : label.finishes) : label.submits = false := by
  cases label with
  | submit => cases h
  | _ => rfl

variable {P : α → JournalPoint → ConversationStore → Prop}
  {E : ServiceError → JournalPoint → ConversationStore → Prop}

/-- Go on from the point that is reached. -/
theorem At.next {x : Service β} {next : β → Service α} (h : Runs (journal settings k) (At p') E x p l)
    (hnext : ∀ b l', Runs (journal settings k) P E (next b) p' l') :
    Runs (journal settings k) P E (x >>= next) p l := by
  refine Runs.bind (h.mono ?_ fun _ _ _ he => he)
  rintro b _ l' rfl
  exact hnext b l'

/-- A transaction that moves the journal as its answer says; when it raises, nothing has changed. -/
theorem step_runs {label : Label} {t : Tx α} {R : α → ServiceState → ServiceState → Prop}
    {F : ServiceError → Prop} (after : α → ServiceState → JournalPoint)
    (ht : Transaction.Keeps R F t) (hlabel : label.submits = false)
    (hmove : ∀ a x y, R a x y → JournalMove settings k label p x (after a x) y)
    (hP : ∀ a x y, R a x y → P a (after a x) y.1) (hE : ∀ e l, F e → E e p l) :
    Runs (journal settings k) P E (Service.transaction label t) p l := by
  refine Runs.segment fun s _ => ?_
  cases h : t (l, s) with
  | ok r =>
    have hr := ht.of_ok h
    exact ⟨.ok r.1, after r.1 (l, s), r.2.1, r.2.2, Transaction.commit_ok h, hmove _ _ _ hr,
      hP _ _ _ hr⟩
  | error e =>
    exact ⟨.error e, p, l, s, Transaction.commit_error h, .same rfl (by simp [hlabel]),
      hE e l (ht.of_error h)⟩

/-- An error that is not raised on purpose. -/
theorem Raised.of_accident {e : ServiceError} {l : ConversationStore}
    (h : e.isApplication = false) : Raised e p l := by
  intro happ
  rw [h] at happ
  cases happ

/-- A transaction that touches no run and no event. -/
theorem quiet_runs {label : Label} {t : Tx α} (ht : Quiet t) (hlabel : label.quiet)
    (hE : ∀ e l, e.isApplication = false → E e p l) :
    Runs (journal settings k) (At p) E (Service.transaction label t) p l :=
  step_runs (fun _ _ => p) ht (Label.quiet_submits hlabel)
    (fun _ _ _ h => .quiet hlabel h (by simp) (by simp))
    (fun _ _ _ _ => rfl) hE

/-- A transaction with which a run succeeds. -/
theorem finish_runs {label : Label} {t : Tx α} (ht : Becomes runId .succeeded t)
    (hlabel : label.finishes) :
    Runs (journal settings k) (At (.closed runId co [.runSucceeded runId co])) Raised
      (Service.transaction label t) (.opened runId co []) l :=
  step_runs (fun _ _ => .closed runId co [.runSucceeded runId co]) ht
    (Label.finishes_submits hlabel) (fun _ _ _ h => .finish hlabel h) (fun _ _ _ _ => rfl)
    fun _ _ => Raised.of_accident

/-- An event that does not tell how a run goes. -/
theorem note_runs {e : ServiceEvent} (about : p.About e) (silent : ¬ e.ofRun ∧ ¬ e.ofGate) :
    Runs (journal settings k) (At p) E (Service.emit e) p l :=
  Runs.transaction_ok fun s _ => ⟨(), p, { l with events := l.events ++ [e] }, s, rfl,
    .note ⟨rfl, rfl⟩ about silent, rfl⟩

/-- The next event that is due. -/
theorem tellClosed_runs {e : ServiceEvent} {due : List ServiceEvent} :
    Runs (journal settings k) (At (.closed runId co due)) E (Service.emit e)
      (.closed runId co (e :: due)) l :=
  Runs.transaction_ok fun s _ => ⟨(), _, { l with events := l.events ++ [e] }, s, rfl,
    .tellClosed ⟨rfl, rfl⟩, rfl⟩

/-! ### Events -/

theorem emitCustomerReply_runs {d : CustomerDisposition} (h : p.Of runId co) :
    Runs (journal settings k) (At p) E (Service.emitCustomerReply runId co d) p l :=
  note_runs (h.about rfl fun _ => id) (by simp [ServiceEvent.ofRun, ServiceEvent.ofGate])

/-- An event of a case. -/
theorem emitCase_runs {eventType : String} {d : Option CustomerDisposition}
    (h : p.Of runId (some caseId))
    (silent : eventType ∉ ["run_started", "run_succeeded", "run_failed", "action_failed",
      "evidence_gate_evaluated"]) :
    Runs (journal settings k) (At p) E (Service.emitCase eventType runId caseId d) p l := by
  refine note_runs (h.about rfl fun _ => id) ?_
  simpa [ServiceEvent.ofRun, ServiceEvent.ofGate, not_or, and_assoc] using silent

theorem emitRunSucceeded_tells :
    Runs (journal settings k) (At (.closed runId co [])) E (Service.emitRunSucceeded runId co)
      (.closed runId co [.runSucceeded runId co]) l := tellClosed_runs

theorem replyAndSuccess_tells {d : CustomerDisposition} :
    Runs (journal settings k) (At (.closed runId co [])) E
      (Service.emitCustomerReplyAndRunSuccess runId co d)
      (.closed runId co [.runSucceeded runId co]) l :=
  At.next (emitCustomerReply_runs (.closed _)) fun _ _ => emitRunSucceeded_tells

/-! ### The life of a run -/

/-- `_start_run`. -/
theorem startRun_runs :
    Runs (journal settings k) (At (.opened runId co [])) Raised (Service.startRun runId co)
      (.opened runId co [.runStarted runId co]) l := by
  refine At.next (step_runs (fun _ _ => .opened runId co [.runStarted runId co])
    (updateRun_becomes _ _ _) rfl (fun _ _ _ h => .start h) (fun _ _ _ _ => rfl)
    fun _ _ => Raised.of_accident) fun _ l' => ?_
  exact Runs.transaction_ok fun s _ => ⟨(), _, { l' with events := l'.events ++ [_] }, s, rfl,
    .tellOpened ⟨rfl, rfl⟩, rfl⟩

/-- `_fail_run`, as most of its callers name the event. -/
theorem failRun_runs {failureCode : String} {turns reads : Option Nat} :
    Runs (journal settings k) (At (.closed runId co [])) Raised
      (Service.failRun runId co failureCode "run_failed" turns reads) (.opened runId co []) l :=
  At.next (step_runs (fun _ _ => .closed runId co [.runFailed runId co]) (updateRun_becomes _ _ _)
    rfl (fun _ _ _ h => .fail h) (fun _ _ _ _ => rfl) fun _ _ => Raised.of_accident) fun _ _ =>
    tellClosed_runs

/-- A run that fails, and the error that says so. -/
theorem failAndRefuse_runs {failureCode code : String} {status : Nat} {turns reads : Option Nat} :
    Runs (journal settings k) P Raised
      (do
        Service.failRun runId co failureCode "run_failed" turns reads
        Service.refuse code status)
      (.opened runId co []) l :=
  At.next failRun_runs fun _ _ => Runs.throw fun _ => .inr ⟨runId, co, .inl rfl⟩

/-! ### Investigations -/

section Investigation

variable {pass : Nat} {output : InvestigationOutput}

/-- Whatever went wrong, the run is still open. -/
def StillOpen (runId caseId : RowId) (_ : ServiceError) (p : JournalPoint)
    (_ : ConversationStore) : Prop := p = .opened runId (some caseId) []

theorem runGraph_keeps {trusted : TrustedToolContext} {selector : Nat → ObservationSelector}
    (n : Nat) : ∀ {node : GraphNode} {is : InvestigationState} {l : ConversationStore},
    Runs (journal settings k) (At (.opened runId (some caseId) [])) (StillOpen runId caseId)
      (Service.runGraph trusted caseId runId selector n node is)
      (.opened runId (some caseId) []) l := by
  induction n with
  | zero =>
    intro node is l
    cases node with
    | finished => exact Runs.pure rfl
    | _ => exact Runs.throw rfl
  | succ n ih =>
    intro node is l
    by_cases hfinished : node = .finished
    · subst hfinished
      exact Runs.pure rfl
    · rw [Service.runGraph_succ n hfinished]
      refine At.next (step_runs (fun _ _ => .opened runId (some caseId) [])
        (superstep_adds trusted (selector (n + 1)) node is) rfl ?_ (fun _ _ _ _ => rfl)
        fun _ _ _ => rfl) fun stepped l' => ?_
      · rintro _ x y ⟨events, happends, htraces, hgate⟩
        exact .quiet rfl happends htraces.about fun e he => ⟨htraces.silent e he, hgate e he⟩
      · cases stepped with
        | error e => exact Runs.throw rfl
        | ok next => exact ih

/-- `investigate`. -/
theorem investigateCase_keeps {selector : Nat → ObservationSelector}
    {args : InvestigateArguments} :
    Runs (journal settings k) (At (.opened runId (some caseId) [])) (StillOpen runId caseId)
      (Service.investigateCase settings caseId runId selector args)
      (.opened runId (some caseId) []) l := by
  refine At.next (quiet_runs (quiet_startInvestigation _ _) rfl fun _ _ _ => rfl) fun _ _ =>
    At.next (runGraph_keeps _) fun _ _ =>
    step_runs (fun _ _ => .opened runId (some caseId) []) (evaluateRun_adds _ _) rfl ?_
      (fun _ _ _ _ => rfl) fun _ _ _ => rfl
  rintro _ x y ⟨events, happends, htraces, -⟩
  exact .gate rfl happends htraces.about htraces.silent

/-- The handler of an investigation that raised. -/
theorem failInvestigation_raises {failureCode : String} :
    Runs (journal settings k) P Raised (Service.failInvestigation caseId runId pass failureCode)
      (.opened runId (some caseId) []) l :=
  At.next (quiet_runs (quiet_parkCase _) rfl fun _ _ => Raised.of_accident) fun _ _ =>
    failAndRefuse_runs

/-- `investigate` as the operations call it. -/
theorem investigateOrFail_keeps {selector : Nat → ObservationSelector}
    {args : InvestigateArguments} {failureCode : String} {loads : Service Unit}
    (hloads : ∀ l, Runs (journal settings k) (At (.opened runId (some caseId) []))
      (StillOpen runId caseId) loads (.opened runId (some caseId) []) l) :
    Runs (journal settings k) (At (.opened runId (some caseId) [])) Raised
      (Service.investigateOrFail settings caseId runId pass selector args failureCode loads)
      (.opened runId (some caseId) []) l := by
  refine Runs.tryCatch ((At.next (hloads l) fun _ _ => investigateCase_keeps).mono
    (fun _ _ _ h => h) ?_)
  rintro e _ l' rfl
  exact failInvestigation_raises

/-! What becomes of its result. -/

theorem closeAfterInvestigation_ends {caseOutcome : CaseOutcome} {reasonCode : String} :
    Runs (journal settings k) (At (.closed runId (some caseId) [])) Raised
      (Service.closeAfterInvestigation caseId runId pass output caseOutcome reasonCode)
      (.opened runId (some caseId) []) l :=
  At.next (finish_runs (changeCase_becomes _ _ _) rfl) fun _ _ =>
    At.next replyAndSuccess_tells fun _ _ => emitCase_runs (.closed _) (by simp)

theorem retryLater_ends :
    Runs (journal settings k) (At (.closed runId (some caseId) [])) Raised
      (Service.retryLater caseId runId pass output) (.opened runId (some caseId) []) l :=
  At.next (finish_runs (changeCase_becomes _ _ _) rfl) fun _ _ => replyAndSuccess_tells

theorem askLocation_keeps :
    Runs (journal settings k) (At (.opened runId (some caseId) [])) Raised
      (Service.askLocation caseId) (.opened runId (some caseId) []) l := by
  refine Runs.tryCatch ((quiet_runs (E := fun e q _ => e.isApplication = false ∧
    q = .opened runId (some caseId) []) quiet_askQuestionAboutLocation rfl
    fun _ _ h => ⟨h, rfl⟩).mono (fun _ _ _ h => h) ?_)
  rintro e _ l' ⟨happ, rfl⟩
  split
  · exact Runs.pure rfl
  · exact Runs.throw (Raised.of_accident happ)

theorem requestClarification_ends :
    Runs (journal settings k) (At (.closed runId (some caseId) [])) Raised
      (Service.requestClarification caseId runId pass output)
      (.opened runId (some caseId) []) l := by
  refine At.next (quiet_runs quiet_requireCase rfl fun _ _ => Raised.of_accident) fun f _ => ?_
  split
  · exact closeAfterInvestigation_ends
  refine At.next askLocation_keeps fun asked _ => ?_
  split
  · exact closeAfterInvestigation_ends
  · exact At.next (finish_runs (Becomes.after quiet_requireCase fun _ =>
      changeCase_becomes _ _ _) rfl) fun _ _ =>
      At.next (emitCase_runs (.closed _) (by simp)) fun _ _ => emitRunSucceeded_tells

/-- As many events as there are items, none of which tells how a run goes. -/
theorem forM_runs {items : List β} {x : β → Service Unit}
    (h : ∀ b l, Runs (journal settings k) (At p) E (x b) p l) :
    Runs (journal settings k) (At p) E (items.forM x) p l := by
  induction items generalizing l with
  | nil => exact Runs.pure rfl
  | cons b items ih => exact At.next (h b l) fun _ _ => ih

theorem proposeTicket_ends {gate : EvidenceGateResult} {binding : PolicyBinding}
    {snapshot : Option CaseFactSnapshot} :
    Runs (journal settings k) (At (.closed runId (some caseId) [])) Raised
      (Service.proposeTicket caseId runId pass output gate binding snapshot)
      (.opened runId (some caseId) []) l :=
  At.next (finish_runs (createTicketProposal_becomes _ _ _ _) rfl) fun superseded _ =>
    At.next (note_runs ⟨rfl, fun _ => id⟩ (by simp [ServiceEvent.ofRun, ServiceEvent.ofGate]))
      fun _ _ =>
    At.next (forM_runs fun _ _ => emitCase_runs (.closed _) (by simp)) fun _ _ =>
    At.next (emitCustomerReply_runs (.closed _)) fun _ _ =>
    At.next (emitCase_runs (.closed _) (by simp)) fun _ _ => emitRunSucceeded_tells

theorem applyDecision_ends {gate : EvidenceGateResult} {snapshot : Option CaseFactSnapshot}
    {decision : EvidenceGateDecision} :
    Runs (journal settings k) (At (.closed runId (some caseId) [])) Raised
      (Service.applyDecision caseId runId pass output gate snapshot decision)
      (.opened runId (some caseId) []) l := by
  cases decision with
  | proposeTicket =>
    unfold Service.applyDecision
    cases Service.outputBinding output with
    | some binding => exact proposeTicket_ends
    | none => exact closeAfterInvestigation_ends
  | requestBusinessClarification => exact requestClarification_ends
  | retryLater => exact retryLater_ends
  | requireHumanSupport => exact closeAfterInvestigation_ends
  | completeNoAction => exact closeAfterInvestigation_ends

theorem refreshOrNone_keeps :
    Runs (journal settings k) (At (.opened runId (some caseId) [])) Raised
      (Service.refreshOrNone caseId) (.opened runId (some caseId) []) l := by
  have hquiet : Quiet (do
      let snapshot ← CaseFactService.refreshSnapshot caseId
      return some snapshot) :=
    Transaction.Keeps.bind quiet_refreshSnapshot fun _ => Transaction.Keeps.pure _
  refine Runs.tryCatch ((quiet_runs (E := fun e q _ => e.isApplication = false ∧
    q = .opened runId (some caseId) []) hquiet rfl fun _ _ h => ⟨h, rfl⟩).mono
    (fun _ _ _ h => h) ?_)
  rintro e _ l' ⟨happ, rfl⟩
  split
  · exact Runs.pure rfl
  · exact Runs.throw (Raised.of_accident happ)

/-- `_apply_investigation_result`. -/
theorem applyInvestigationResult_ends {revise : Option (IssueType → Service Unit)}
    (hrevise : ∀ continueWith ∈ revise, ∀ issueType l, Runs (journal settings k)
      (At (.closed runId (some caseId) [])) Raised (continueWith issueType)
      (.opened runId (some caseId) []) l) :
    Runs (journal settings k) (At (.closed runId (some caseId) [])) Raised
      (Service.applyInvestigationResult caseId runId pass revise output)
      (.opened runId (some caseId) []) l := by
  refine At.next refreshOrNone_keeps fun snapshot l' => ?_
  dsimp only
  split
  · split
    · exact hrevise _ rfl _ l'
    · exact closeAfterInvestigation_ends
  · exact applyDecision_ends

/-- `_revise_issue_and_continue_investigation`. -/
theorem reviseIssueAndContinue_ends {selector : Nat → ObservationSelector}
    {issueType : IssueType} :
    Runs (journal settings k) (At (.closed runId (some caseId) [])) Raised
      (Service.reviseIssueAndContinue settings caseId runId selector output issueType)
      (.opened runId (some caseId) []) l :=
  At.next (quiet_runs (quiet_reviseCase _ _) rfl fun _ _ => Raised.of_accident) fun _ _ =>
    At.next (emitCase_runs (.opened _) (by simp)) fun _ _ =>
    At.next (investigateOrFail_keeps fun _ => At.next (quiet_runs quiet_refreshSnapshot rfl
      fun _ _ _ => rfl) fun _ _ => Runs.pure rfl) fun _ _ =>
    applyInvestigationResult_ends (by simp)

theorem applyFirstResult_ends {selector : Nat → ObservationSelector} :
    Runs (journal settings k) (At (.closed runId (some caseId) [])) Raised
      (Service.applyFirstResult settings caseId runId selector output)
      (.opened runId (some caseId) []) l := by
  refine applyInvestigationResult_ends ?_
  rintro _ ⟨rfl⟩ issueType l'
  exact reviseIssueAndContinue_ends

end Investigation

/-! ### Actions and proposals -/

/-- A call that returned has told all of its run. -/
def Told (_ : α) (p : JournalPoint) (_ : ConversationStore) : Prop :=
  ∃ runId co, p = .closed runId co []

/-- The events after a scripted fault. -/
theorem recordScriptedActionFault_ends {a : Service.TicketAction} {fault : ActionFixtureFault} :
    Runs (journal settings k) Told Raised (Service.recordScriptedActionFault a runId fault)
      (.acting runId a.caseId (some fault)) l := by
  refine At.next (step_runs
    (fun _ _ => .closed runId (some a.caseId) (dueAfterOutcome runId a.caseId (some fault)))
    (recordFault_becomes _ _) rfl (fun _ _ _ h => .outcome h) (fun _ _ _ _ => rfl)
    fun _ _ => Raised.of_accident) fun _ _ =>
    At.next (emitCustomerReply_runs (.closed _)) fun _ _ => At.next ?_ fun _ _ =>
    At.next emitRunSucceeded_tells fun _ _ => ?_
  · by_cases huncertain : fault.actionState = .uncertain
    · have hdue : dueAfterOutcome runId a.caseId (some fault)
          = [.runSucceeded runId (some a.caseId)] := by
        simp [dueAfterOutcome, Option.filter, huncertain]
      rw [hdue]
      refine note_runs ⟨rfl, fun _ => id⟩ ?_
      simp [huncertain, ServiceEvent.ofRun, ServiceEvent.ofGate]
    · have hdue : dueAfterOutcome runId a.caseId (some fault)
          = [.actionFailed runId (some a.caseId) fault, .runSucceeded runId (some a.caseId)] := by
        simp [dueAfterOutcome, Option.filter, huncertain]
      rw [hdue, if_neg huncertain]
      exact tellClosed_runs
  · split
    · exact At.next (emitCase_runs (.closed _) (by simp)) fun _ _ => Runs.pure ⟨_, _, rfl⟩
    · exact Runs.pure ⟨_, _, rfl⟩

/-- `_submit_and_verify_ticket_action`. -/
theorem submitAndVerify_ends {a : Service.TicketAction} :
    Runs (journal settings k) Told Raised (Service.submitAndVerify settings a runId)
      (.opened runId (some a.caseId) []) l := by
  refine Runs.bind (Runs.segment fun s _ => ?_)
  obtain ⟨r, y, hstep, hr⟩ := submitStep_keeps settings a (l, s)
  cases r with
  | error e =>
    exact ⟨.error e, _, y.1, y.2, hstep, .same hr.1 fun _ => rfl,
      Raised.of_accident (l := y.1) hr.2⟩
  | ok submitted =>
    refine ⟨.ok submitted, _, y.1, y.2, hstep, .submit hr.1, ?_⟩
    rw [← hr.2]
    refine At.next (note_runs ⟨rfl, fun c hc => Option.some.inj hc⟩
      (by simp [ServiceEvent.ofRun, ServiceEvent.ofGate])) fun _ l₁ => ?_
    cases submitted.1 with
    | some fault => exact recordScriptedActionFault_ends
    | none =>
      exact At.next (step_runs
        (fun _ _ => .closed runId (some a.caseId) (dueAfterOutcome runId a.caseId none))
        (verifyTicket_becomes _ _) rfl (fun _ _ _ h => .outcome h) (fun _ _ _ _ => rfl)
        fun _ _ => Raised.of_accident) fun verified _ =>
        At.next (emitCustomerReply_runs (.closed _)) fun _ _ =>
        At.next (emitCase_runs (.closed _) (by cases verified <;> simp)) fun _ _ =>
        At.next emitRunSucceeded_tells fun _ _ =>
        At.next (emitCase_runs (.closed _) (by simp)) fun _ _ => Runs.pure ⟨_, _, rfl⟩

theorem refuseRun_raises {failureCode code : String} :
    Runs (journal settings k) P Raised (Service.refuseRun runId caseId failureCode code)
      (.opened runId (some caseId) []) l := failAndRefuse_runs

theorem createActionRun_opens {proposalId : ProposalId} :
    Runs (journal settings k)
      (fun runId p _ => p = .opened runId (some proposalId.caseId) []) Raised
      (Service.createActionRun k proposalId) .blank l := by
  refine Runs.bind (step_runs (fun runId _ => .opened runId (some proposalId.caseId)
      [.runStarted runId (some proposalId.caseId)]) (createActionRun_queues k proposalId)
    (P := fun runId p l' => Runs (journal settings k)
      (fun runId p _ => p = .opened runId (some proposalId.caseId) []) Raised
      (do
        Service.startRun runId (some proposalId.caseId)
        return runId) p l') rfl ?_ ?_ fun _ _ _ _ => .inl rfl)
  · rintro runId x y ⟨rfl, hqueued⟩
    have hnames : (Label.answer proposalId).Queues x.1 (some proposalId.caseId) := rfl
    exact .queue hnames hqueued
  · intro runId x y _
    exact At.next startRun_runs fun _ _ => Runs.pure rfl

/-- `confirm_proposal`. -/
theorem confirmProposal_ends {proposalId : ProposalId} {version : Nat} :
    Runs (journal settings k) Told Raised
      (Service.confirmProposal settings k proposalId version) .blank l := by
  refine Runs.bind (createActionRun_opens.mono ?_ fun _ _ _ he => he)
  rintro runId _ l₁ rfl
  refine Runs.bind (step_runs (fun _ _ => .opened runId (some proposalId.caseId) [])
    (reviewConfirmation_keeps settings proposalId version) rfl
    (fun _ _ _ h => .quiet rfl h.1 (by simp) (by simp)) ?_ fun _ _ => Raised.of_accident)
  rintro verdict x y ⟨-, hcase⟩
  cases verdict with
  | rejected code =>
    dsimp only
    split
    · exact At.next (emitCase_runs (.opened _) (by simp)) fun _ _ => refuseRun_raises
    · exact refuseRun_raises
  | duplicate => exact refuseRun_raises
  | invalidated => exact At.next (emitCase_runs (.opened _) (by simp)) fun _ _ => refuseRun_raises
  | confirmed action =>
    refine At.next (emitCase_runs (.opened _) (by simp)) fun _ _ => ?_
    rw [← hcase action rfl]
    exact submitAndVerify_ends

/-- `decline_proposal`. -/
theorem declineProposal_ends {proposalId : ProposalId} {version : Nat} :
    Runs (journal settings k) Told Raised
      (Service.declineProposal k proposalId version) .blank l := by
  refine Runs.bind (createActionRun_opens.mono ?_ fun _ _ _ he => he)
  rintro runId _ l₁ rfl
  refine Runs.bind (step_runs (fun refused _ =>
      if refused.isSome then .opened runId (some proposalId.caseId) []
      else .closed runId (some proposalId.caseId) [.runSucceeded runId (some proposalId.caseId)])
    (reviewDecline_keeps proposalId version) rfl ?_ ?_ fun _ _ => Raised.of_accident)
  · rintro (_ | code) x y h
    · exact .finish rfl h
    · exact .quiet rfl h (by simp) (by simp)
  · rintro (_ | code) x y -
    · exact At.next (emitCase_runs (.closed _) (by simp)) fun _ _ =>
        At.next replyAndSuccess_tells fun _ _ =>
        At.next (emitCase_runs (.closed _) (by simp)) fun _ _ => Runs.pure ⟨_, _, rfl⟩
    · dsimp only
      split
      · exact At.next (emitCase_runs (.opened _) (by simp)) fun _ _ => refuseRun_raises
      · exact refuseRun_raises

/-! ### Questions and replies -/

section Messages

variable {messageId : RowId} {customerMessage : String} {providers : Providers}

/-- A result that is returned once its run is told. -/
theorem returned {x : Service Unit} {r : OperationResult}
    (h : Runs (journal settings k) (At (.closed runId co [])) Raised x p l) :
    Runs (journal settings k) Told Raised (do
      x
      return r) p l :=
  At.next h fun _ _ => Runs.pure ⟨_, _, rfl⟩

theorem requestTargetShipmentClarification_ends :
    Runs (journal settings k) Told Raised
      (Service.requestTargetShipmentClarification caseId runId)
      (.opened runId (some caseId) []) l := by
  refine At.next (finish_runs askForPackage_becomes rfl) fun disposition _ =>
    At.next (emitCase_runs (.closed _) (by simp)) fun _ _ =>
    At.next emitRunSucceeded_tells fun _ _ => ?_
  dsimp only
  split
  · exact At.next (emitCase_runs (.closed _) (by simp)) fun _ _ => Runs.pure ⟨_, _, rfl⟩
  · exact Runs.pure ⟨_, _, rfl⟩

/-- The snapshot may be loaded before an investigation. -/
theorem loads_keeps :
    Runs (journal settings k) (At (.opened runId (some caseId) [])) (StillOpen runId caseId)
      (do let _ ← Service.transaction (.load caseId) (CaseFactService.loadSnapshot caseId))
      (.opened runId (some caseId) []) l :=
  At.next (quiet_runs quiet_loadSnapshot rfl fun _ _ _ => rfl) fun _ _ => Runs.pure rfl

theorem quiet_selectPackage : Quiet (Service.selectPackage caseId customerMessage) := by
  refine Transaction.Keeps.bind quiet_requireCase fun f =>
    Transaction.Keeps.bind quiet_shared fun s => ?_
  split
  · exact Transaction.Keeps.pure _
  · exact Transaction.Keeps.bind (quiet_changeCase _) fun _ => Transaction.Keeps.pure _

/-- `_continue_target_shipment_clarification`. -/
theorem continueTargetClarification_ends :
    Runs (journal settings k) Told Raised
      (Service.continueTargetClarification settings caseId runId customerMessage providers)
      (.opened runId (some caseId) []) l := by
  refine At.next (quiet_runs quiet_requireCase rfl fun _ _ => Raised.of_accident)
    fun current _ => ?_
  split
  · exact requestTargetShipmentClarification_ends
  refine At.next (quiet_runs quiet_selectPackage rfl fun _ _ => Raised.of_accident)
    fun selected _ => ?_
  cases selected with
  | none => exact requestTargetShipmentClarification_ends
  | some asked =>
    exact At.next (emitCase_runs (.opened _) (by simp)) fun _ _ =>
      At.next (investigateOrFail_keeps fun _ => loads_keeps) fun _ _ =>
      returned applyFirstResult_ends

/-- A reply is merged, or its run is failed. -/
theorem snapshotOfReply_keeps :
    Runs (journal settings k) (At (.opened runId (some caseId) [])) Raised
      (Service.snapshotOfReply caseId runId messageId customerMessage)
      (.opened runId (some caseId) []) l := by
  have hmerge : ∀ l, Runs (journal settings k) (At (.opened runId (some caseId) []))
      (fun e q _ => e.isApplication = false ∧ q = .opened runId (some caseId) [])
      (Service.mergeReply caseId messageId customerMessage) (.opened runId (some caseId) []) l := by
    intro l
    refine Runs.tryCatch ((quiet_runs (E := fun e q _ => e.isApplication = false ∧
      q = .opened runId (some caseId) []) (quiet_acceptReply _ _) rfl
      fun _ _ h => ⟨h, rfl⟩).mono (fun _ _ _ h => h) ?_)
    rintro e _ l' ⟨happ, rfl⟩
    split
    · exact Runs.pure rfl
    · exact Runs.throw ⟨happ, rfl⟩
  refine At.next (Runs.tryCatch ((hmerge l).mono (fun _ _ _ h => h) ?_)) fun merged _ => ?_
  · rintro e _ l' ⟨happ, rfl⟩
    split
    · exact At.next (note_runs ⟨rfl, fun _ => id⟩
        (by simp [ServiceEvent.ofRun, ServiceEvent.ofGate])) fun _ _ => failAndRefuse_runs
    · exact Runs.throw (Raised.of_accident happ)
  · cases merged with
    | some snapshot => exact Runs.pure rfl
    | none => exact quiet_runs quiet_refreshSnapshot rfl fun _ _ => Raised.of_accident

theorem continueFactClarification_ends {asked : Nat} :
    Runs (journal settings k) Told Raised
      (Service.continueFactClarification settings caseId runId messageId asked customerMessage
        providers) (.opened runId (some caseId) []) l :=
  At.next snapshotOfReply_keeps fun _ _ =>
    At.next (note_runs ⟨rfl, fun _ => id⟩ (by simp [ServiceEvent.ofRun, ServiceEvent.ofGate]))
      fun _ _ =>
    At.next (investigateOrFail_keeps fun _ => Runs.pure rfl) fun _ _ =>
    returned applyFirstResult_ends

/-- `_continue_business_clarification`. -/
theorem continueBusinessClarification_ends :
    Runs (journal settings k) Told Raised
      (Service.continueBusinessClarification settings caseId runId messageId customerMessage
        providers) (.opened runId (some caseId) []) l := by
  refine At.next (quiet_runs (Transaction.Keeps.bind quiet_requireCase fun _ =>
    Transaction.Keeps.bind quiet_shared fun _ => Transaction.Keeps.pure _) rfl
    fun _ _ => Raised.of_accident) fun current _ => ?_
  split
  · exact continueTargetClarification_ends
  split
  · exact At.next (finish_runs (changeCase_becomes _ _ _) rfl) fun _ _ =>
      At.next replyAndSuccess_tells fun _ _ => returned (emitCase_runs (.closed _) (by simp))
  · exact continueFactClarification_ends

/-! ### New cases -/

/-- `_create_and_investigate_case`. -/
theorem createAndInvestigateCase_ends {customerId orderId : String} {issueType : IssueType} :
    Runs (journal settings k) Told Raised
      (Service.createAndInvestigateCase settings k runId messageId customerId orderId issueType
        customerMessage providers) (.opened runId none []) l := by
  refine Runs.bind (step_runs (fun opened _ => .opened runId (some opened.1) [])
    (openCase_names k messageId customerId orderId issueType customerMessage) rfl ?_ ?_ fun _ _ => Raised.of_accident)
  · rintro ⟨_, unclear⟩ x y ⟨h, rfl⟩
    exact .bind h
  rintro ⟨caseId, unclear⟩ x y -
  refine At.next (quiet_runs quiet_refreshSnapshot rfl fun _ _ => Raised.of_accident) fun _ _ =>
    At.next (emitCase_runs (.opened _) (by simp)) fun _ _ =>
    At.next (emitCustomerReply_runs (.opened _)) fun _ _ => ?_
  split
  · exact requestTargetShipmentClarification_ends
  · exact At.next (investigateOrFail_keeps fun _ => Runs.pure rfl) fun _ _ =>
      returned applyFirstResult_ends

theorem completeWithoutCase_ends {reasonCode : String} :
    Runs (journal settings k) Told Raised (Service.completeWithoutCase runId reasonCode)
      (.opened runId none []) l :=
  At.next (finish_runs (updateRun_becomes _ _ _) rfl) fun _ _ => returned replyAndSuccess_tells

/-- The message after its triage. -/
theorem routeMessage_ends {received : Service.ReceivedMessage} {triage : TriageResult} :
    Runs (journal settings k) Told Raised
      (Service.routeMessage settings k received customerMessage triage providers)
      (.opened received.runId none []) l := by
  have hnote : ∀ {e : ServiceEvent} {l : ConversationStore}, e.runId = some received.runId →
      e.caseId = none → ¬ e.ofRun ∧ ¬ e.ofGate →
      Runs (journal settings k) (At (.opened received.runId none [])) Raised (Service.emit e)
        (.opened received.runId none []) l := fun hrun hcase hsilent =>
    note_runs ⟨hrun, by simp [hcase]⟩ hsilent
  have hsilent : ∀ {kind : String} {v : EventVisibility},
      kind ∈ ["triage_completed", "request_fragment_blocked", "policy_decided"] →
      ¬ (⟨kind, v, none, some received.runId, none, none, false⟩ : ServiceEvent).ofRun ∧
      ¬ (⟨kind, v, none, some received.runId, none, none, false⟩ : ServiceEvent).ofGate := by
    intro kind v hkind
    simp only [List.mem_cons, List.not_mem_nil, or_false] at hkind
    rcases hkind with rfl | rfl | rfl <;> simp [ServiceEvent.ofRun, ServiceEvent.ofGate]
  refine At.next (quiet_runs (quiet_decidePolicy _ _) rfl fun _ _ => Raised.of_accident)
    fun decision _ => At.next (At.next (hnote rfl rfl (hsilent (by simp))) fun _ _ =>
      At.next (forM_runs fun _ _ => hnote rfl rfl (hsilent (by simp))) fun _ _ =>
      hnote rfl rfl (hsilent (by simp))) fun _ _ => ?_
  split
  · exact createAndInvestigateCase_ends
  · exact Runs.throw (Raised.of_accident rfl)
  · exact completeWithoutCase_ends

/-- A message without an open case; when the classifier fails, no event tells that the run has. -/
theorem triageMessage_ends {received : Service.ReceivedMessage} :
    Runs (journal settings k) Told Raised
      (Service.triageMessage settings k received customerMessage providers)
      (.opened received.runId none []) l := by
  refine At.next (note_runs ⟨rfl, by simp⟩ (by simp [ServiceEvent.ofRun, ServiceEvent.ofGate]))
    fun _ _ => ?_
  split
  · refine At.next (At.next (step_runs (fun _ _ => .lost received.runId none)
      (updateRun_becomes _ _ _) rfl (fun _ _ _ h => .lose (by simp) h) (fun _ _ _ _ => rfl) fun _ _ => Raised.of_accident)
      fun _ _ => note_runs ⟨rfl, by simp⟩ (by simp [ServiceEvent.ofRun, ServiceEvent.ofGate]))
      fun _ _ => Runs.throw fun _ => .inr ⟨_, _, .inr rfl⟩
  · exact routeMessage_ends

/-- A message that is refused before anything is stored. -/
theorem rejectMessage_raises :
    Runs (journal settings k) Told Raised Service.rejectMessage .blank l := by
  refine At.next (quiet_runs (Transaction.Keeps.bind quiet_conversation fun _ =>
    Transaction.Keeps.pure _) rfl fun _ _ => Raised.of_accident) fun known _ => ?_
  have hrefuse : ∀ l, Runs (journal settings k) Told Raised
      (Service.refuse "INVALID_CUSTOMER_MESSAGE" 400 : Service OperationResult) .blank l := fun _ =>
    Runs.throw fun _ => .inl rfl
  cases known with
  | true =>
    exact At.next (note_runs ⟨rfl, rfl⟩ (by simp [ServiceEvent.ofRun, ServiceEvent.ofGate]))
      fun _ _ => hrefuse _
  | false => exact hrefuse _

/-- `submit_message`. -/
theorem submitMessage_ends {content : String} :
    Runs (journal settings k) Told Raised
      (Service.submitMessage settings k content providers) .blank l := by
  unfold Service.submitMessage
  cases validateCustomerMessage content with
  | none => exact rejectMessage_raises
  | some validated =>
    refine Runs.bind (step_runs (fun received _ => .opened received.runId received.activeCase
        [.runStarted received.runId received.activeCase]) (receiveMessage_queues k validated)
      rfl ?_ ?_ fun _ _ _ _ => .inl rfl)
    · rintro received x y ⟨⟨hrun, hqueued⟩, hactive⟩
      rw [hrun] at hqueued ⊢
      have hnames : Label.receive.Queues x.1 received.activeCase := hactive
      exact .queue hnames hqueued
    · intro received x y _
      refine At.next (note_runs ⟨rfl, fun _ => id⟩
        (by simp [ServiceEvent.ofRun, ServiceEvent.ofGate])) fun _ _ =>
        At.next startRun_runs fun _ _ => ?_
      cases received.activeCase with
      | some caseId => exact continueBusinessClarification_ends
      | none => exact triageMessage_ends

/-- `retry_case`. -/
theorem retryCase_ends :
    Runs (journal settings k) Told Raised (Service.retryCase settings k caseId providers)
      .blank l := by
  refine Runs.bind (step_runs
    (fun plan _ => .opened plan.run (some caseId) [.runStarted plan.run (some caseId)])
    (planRetry_queues k) rfl ?_ ?_ fun _ _ _ _ => .inl rfl)
  · rintro plan x y ⟨⟨hrun, hqueued⟩, -⟩
    rw [hrun] at hqueued ⊢
    have hnames : (Label.retry caseId).Queues x.1 (some caseId) := rfl
    exact .queue hnames hqueued
  · rintro plan x y ⟨-, hcase⟩
    cases plan with
    | action runId action =>
      refine At.next startRun_runs fun _ _ => ?_
      rw [← hcase _ action rfl]
      exact submitAndVerify_ends
    | investigation runId =>
      exact At.next startRun_runs fun _ _ =>
        At.next (investigateOrFail_keeps fun _ => loads_keeps) fun _ _ =>
        returned applyFirstResult_ends

end Messages

end Journal

open Journal in
/-- Every request follows the journal. -/
theorem Request.journaled (r : Request) :
    Follows (journal settings k) (fun a p _ => (journal settings k).ended a p)
      (r.program settings k) .blank l := by
  have hended : ∀ {x : Service OperationResult}, Runs (journal settings k) Told Raised x .blank l →
      Follows (journal settings k) (fun a p _ => (journal settings k).ended a p) x .blank l := by
    intro x h
    refine Follows.mono ?_ h
    rintro (e | r) p l' hend
    · exact hend
    · exact hend
  cases r with
  | submitMessage content providers => exact hended submitMessage_ends
  | retryCase caseId providers => exact hended retryCase_ends
  | confirmProposal proposalId version => exact hended confirmProposal_ends
  | declineProposal proposalId version => exact hended declineProposal_ends

end AfterSales
