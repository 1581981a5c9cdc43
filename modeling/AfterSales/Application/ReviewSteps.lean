import AfterSales.Application.Operations
import AfterSales.Lib.Atoms

/-! Where confirmations are reviewed.

    Of all the steps of all operations only one reviews a confirmation: the one that
    `confirm_proposal` takes for the proposal and the version it was asked for. -/

set_option linter.unusedSectionVars false

namespace AfterSales
open Interleave Repository

variable [PolicyDigest] [ProofDigest] [ResultDigest] [IdText] [TraceVolume] [FactDigest]
  [CaseFolding] [EvidenceDigest] [MessageRedaction]

/-- A step that reviews no confirmation. -/
def Reviewless (label : Label) (_ : ServiceState → ServiceState) : Prop :=
  ∀ proposalId version, label ≠ .review proposalId version

/-- A confirmation is reviewed where it was asked for, and as `confirm_proposal` does it. -/
def Reviews (settings : Settings) (r : Request) (label : Label)
    (update : ServiceState → ServiceState) : Prop :=
  ∀ proposalId version, label = .review proposalId version →
    r = .confirmProposal proposalId version ∧
      update = fun x => (Transaction.commit
        (Service.reviewConfirmation settings proposalId version) x).2

namespace Service

variable {settings : Settings} {conversationId : String} {caseId runId messageId : RowId}
  {α : Type}

theorem transaction_reviewless {label : Label} {t : Tx α}
    (h : ∀ proposalId version, label ≠ .review proposalId version) :
    (transaction label t).Every Reviewless :=
  .segment h

theorem emit_reviewless (e : ServiceEvent) : (emit e).Every Reviewless := transaction_reviewless nofun

theorem emitCase_reviewless {eventType : String} {disposition : Option CustomerDisposition} :
    (emitCase eventType runId caseId disposition).Every Reviewless :=
  emit_reviewless _

theorem emitCustomerReply_reviewless {caseId : Option RowId} {disposition : CustomerDisposition} :
    (emitCustomerReply runId caseId disposition).Every Reviewless :=
  emit_reviewless _

theorem emitRunSucceeded_reviewless {caseId : Option RowId} :
    (emitRunSucceeded runId caseId).Every Reviewless :=
  emit_reviewless _

theorem emitCustomerReplyAndRunSuccess_reviewless {caseId : Option RowId}
    {disposition : CustomerDisposition} :
    (emitCustomerReplyAndRunSuccess runId caseId disposition).Every Reviewless :=
  .bind emitCustomerReply_reviewless fun _ => emitRunSucceeded_reviewless

theorem startRun_reviewless {caseId : Option RowId} : (startRun runId caseId).Every Reviewless :=
  .bind (transaction_reviewless nofun) fun _ => emit_reviewless _

theorem failRun_reviewless {caseId : Option RowId} {failureCode eventType : String}
    {turns reads : Option Nat} :
    (failRun runId caseId failureCode eventType turns reads).Every Reviewless :=
  .bind (transaction_reviewless nofun) fun _ => emit_reviewless _

/-! A pass, and what becomes of it. -/

theorem runGraph_reviewless {trusted : TrustedToolContext} {selector : Nat → ObservationSelector} :
    ∀ (n : Nat) (node : GraphNode) (s : InvestigationState),
      (runGraph trusted caseId runId selector n node s).Every Reviewless := by
  intro n
  induction n with
  | zero =>
    intro node s
    cases node with
    | finished => exact .pure _
    | agent | tools | budgetExhausted => exact .throw _
  | succ n ih =>
    intro node s
    by_cases h : node = .finished
    · subst h
      exact .pure _
    · rw [runGraph_succ n h s]
      refine .bind (transaction_reviewless nofun) fun stepped => ?_
      cases stepped with
      | error e => exact .throw _
      | ok next => exact ih next.1 next.2

theorem investigateCase_reviewless {selector : Nat → ObservationSelector} {args : InvestigateArguments} :
    (investigateCase settings caseId runId selector args).Every Reviewless :=
  .bind (transaction_reviewless nofun) fun _ => .bind (runGraph_reviewless _ _ _) fun _ =>
    transaction_reviewless nofun

theorem failInvestigation_reviewless {pass : Nat} {failureCode : String} :
    (failInvestigation (α := α) caseId runId pass failureCode).Every Reviewless :=
  .bind (transaction_reviewless nofun) fun _ => .bind failRun_reviewless fun _ => .throw _

theorem investigateOrFail_reviewless {pass : Nat} {selector : Nat → ObservationSelector}
    {args : InvestigateArguments} {failureCode : String} {loads : Service Unit}
    (hloads : loads.Every Reviewless) :
    (investigateOrFail settings caseId runId pass selector args failureCode loads).Every Reviewless :=
  .tryCatch (.bind hloads fun _ => investigateCase_reviewless) fun _ => failInvestigation_reviewless

theorem closeAfterInvestigation_reviewless {pass : Nat} {output : InvestigationOutput}
    {caseOutcome : CaseOutcome} {reasonCode : String} :
    (closeAfterInvestigation caseId runId pass output caseOutcome reasonCode).Every Reviewless :=
  .bind (transaction_reviewless nofun) fun _ => .bind emitCustomerReplyAndRunSuccess_reviewless fun _ =>
    emitCase_reviewless

theorem retryLater_reviewless {pass : Nat} {output : InvestigationOutput} :
    (retryLater caseId runId pass output).Every Reviewless :=
  .bind (transaction_reviewless nofun) fun _ => emitCustomerReplyAndRunSuccess_reviewless

theorem askLocation_reviewless : (askLocation caseId).Every Reviewless := by
  refine .tryCatch (transaction_reviewless nofun) fun e => ?_
  split
  · exact .pure _
  · exact .throw _

theorem requestClarification_reviewless {pass : Nat} {output : InvestigationOutput} :
    (requestClarification caseId runId pass output).Every Reviewless := by
  refine .bind (transaction_reviewless nofun) fun f => ?_
  split
  · exact closeAfterInvestigation_reviewless
  · refine .bind askLocation_reviewless fun asked => ?_
    split
    · exact closeAfterInvestigation_reviewless
    · exact .bind (transaction_reviewless nofun) fun _ => .bind emitCase_reviewless fun _ =>
        emitRunSucceeded_reviewless

theorem proposeTicket_reviewless {pass : Nat} {output : InvestigationOutput} {gate : EvidenceGateResult}
    {binding : PolicyBinding} {snapshot : Option CaseFactSnapshot} :
    (proposeTicket caseId runId pass output gate binding snapshot).Every Reviewless := by
  refine .bind (transaction_reviewless nofun) fun superseded => .bind (emit_reviewless _) fun _ => ?_
  exact .bind (.forM (fun _ => emitCase_reviewless) _) fun _ => .bind emitCustomerReply_reviewless fun _ =>
    .bind emitCase_reviewless fun _ => emitRunSucceeded_reviewless

theorem applyDecision_reviewless {pass : Nat} {output : InvestigationOutput} {gate : EvidenceGateResult}
    {snapshot : Option CaseFactSnapshot} {decision : EvidenceGateDecision} :
    (applyDecision caseId runId pass output gate snapshot decision).Every Reviewless := by
  cases decision with
  | proposeTicket =>
    rw [applyDecision]
    split
    · exact proposeTicket_reviewless
    · exact closeAfterInvestigation_reviewless
  | requestBusinessClarification => exact requestClarification_reviewless
  | retryLater => exact retryLater_reviewless
  | requireHumanSupport | completeNoAction => exact closeAfterInvestigation_reviewless

theorem refreshOrNone_reviewless : (refreshOrNone caseId).Every Reviewless := by
  refine .tryCatch (transaction_reviewless nofun) fun e => ?_
  split
  · exact .pure _
  · exact .throw _

theorem applyInvestigationResult_reviewless {pass : Nat} {revise : Option (IssueType → Service Unit)}
    {output : InvestigationOutput} (hrevise : ∀ f ∈ revise, ∀ issueType, (f issueType).Every Reviewless) :
    (applyInvestigationResult caseId runId pass revise output).Every Reviewless := by
  refine .bind refreshOrNone_reviewless fun snapshot => ?_
  simp only
  split
  · split
    · exact hrevise _ rfl _
    · exact closeAfterInvestigation_reviewless
  · exact applyDecision_reviewless

theorem applyFirstResult_reviewless {selector : Nat → ObservationSelector}
    {output : InvestigationOutput} :
    (applyFirstResult settings caseId runId selector output).Every Reviewless := by
  refine applyInvestigationResult_reviewless fun f hf issueType => ?_
  obtain rfl := Option.mem_some.mp hf
  refine .bind (transaction_reviewless nofun) fun _ => .bind emitCase_reviewless fun _ => ?_
  refine .bind (investigateOrFail_reviewless ?_) fun revised => ?_
  · exact .bind (transaction_reviewless nofun) fun _ => .pure _
  · exact applyInvestigationResult_reviewless nofun

/-! The operations. -/

theorem requestTargetShipmentClarification_reviewless :
    (requestTargetShipmentClarification caseId runId).Every Reviewless := by
  refine .bind (transaction_reviewless nofun) fun disposition => .bind emitCase_reviewless fun _ =>
    .bind emitRunSucceeded_reviewless fun _ => ?_
  split
  · exact .bind emitCase_reviewless fun _ => .pure _
  · exact .pure _

theorem continueTargetClarification_reviewless {customerMessage : String} {providers : Providers} :
    (continueTargetClarification settings caseId runId customerMessage providers).Every Reviewless := by
  refine .bind (transaction_reviewless nofun) fun current => ?_
  split
  · exact requestTargetShipmentClarification_reviewless
  · refine .bind (transaction_reviewless nofun) fun selected => ?_
    split
    · exact requestTargetShipmentClarification_reviewless
    · refine .bind emitCase_reviewless fun _ => .bind (investigateOrFail_reviewless ?_) fun output => ?_
      · exact .bind (transaction_reviewless nofun) fun _ => .pure _
      · exact .bind applyFirstResult_reviewless fun _ => .pure _

theorem snapshotOfReply_reviewless {customerMessage : String} :
    (snapshotOfReply caseId runId messageId customerMessage).Every Reviewless := by
  refine .bind (.tryCatch (.tryCatch (transaction_reviewless nofun) fun e => ?_) fun e => ?_)
    fun merged => ?_
  · split
    · exact .pure _
    · exact .throw _
  · split
    · exact .bind (emit_reviewless _) fun _ => .bind failRun_reviewless fun _ => .throw _
    · exact .throw _
  · split
    · exact .pure _
    · exact transaction_reviewless nofun

theorem continueFactClarification_reviewless {asked : Nat} {customerMessage : String}
    {providers : Providers} :
    (continueFactClarification settings caseId runId messageId asked customerMessage
      providers).Every Reviewless :=
  .bind snapshotOfReply_reviewless fun _ => .bind (emit_reviewless _) fun _ =>
    .bind (investigateOrFail_reviewless (.pure _)) fun _ => .bind applyFirstResult_reviewless fun _ => .pure _

theorem continueBusinessClarification_reviewless {customerMessage : String} {providers : Providers} :
    (continueBusinessClarification settings caseId runId messageId customerMessage
      providers).Every Reviewless := by
  refine .bind (transaction_reviewless nofun) fun current => ?_
  split
  · exact continueTargetClarification_reviewless
  · split
    · exact .bind (transaction_reviewless nofun) fun _ => .bind emitCustomerReplyAndRunSuccess_reviewless
        fun _ => .bind emitCase_reviewless fun _ => .pure _
    · exact continueFactClarification_reviewless

theorem createAndInvestigateCase_reviewless {customerId orderId customerMessage : String}
    {issueType : IssueType} {providers : Providers} :
    (createAndInvestigateCase settings conversationId runId messageId customerId orderId issueType
      customerMessage providers).Every Reviewless := by
  refine .bind (transaction_reviewless nofun) fun opened => .bind (transaction_reviewless nofun) fun _ =>
    .bind emitCase_reviewless fun _ => .bind emitCustomerReply_reviewless fun _ => ?_
  split
  · exact requestTargetShipmentClarification_reviewless
  · exact .bind (investigateOrFail_reviewless (.pure _)) fun _ => .bind applyFirstResult_reviewless fun _ =>
      .pure _

theorem routeMessage_reviewless {received : ReceivedMessage} {customerMessage : String}
    {triage : TriageResult} {providers : Providers} :
    (routeMessage settings conversationId received customerMessage triage
      providers).Every Reviewless := by
  refine .bind (transaction_reviewless nofun) fun decision => .bind ?_ fun _ => ?_
  · exact .bind (emit_reviewless _) fun _ => .bind (.forM (fun _ => emit_reviewless _) _) fun _ =>
      emit_reviewless _
  · split
    · exact createAndInvestigateCase_reviewless
    · exact .throw _
    · exact .bind (transaction_reviewless nofun) fun _ => .bind emitCustomerReplyAndRunSuccess_reviewless
        fun _ => .pure _

theorem submitMessage_reviewless {content : String} {providers : Providers} :
    (submitMessage settings conversationId content providers).Every Reviewless := by
  rw [submitMessage]
  split
  · refine .bind (transaction_reviewless nofun) fun known => ?_
    simp only
    split
    · exact .bind (emit_reviewless _) fun _ => .throw _
    · exact .throw _
  · refine .bind (transaction_reviewless nofun) fun received => .bind (emit_reviewless _) fun _ =>
      .bind startRun_reviewless fun _ => ?_
    split
    · exact continueBusinessClarification_reviewless
    · refine .bind (emit_reviewless _) fun _ => ?_
      split
      · exact .bind failRun_reviewless fun _ => .throw _
      · exact routeMessage_reviewless

theorem submitAndVerify_reviewless {a : TicketAction} :
    (submitAndVerify settings a runId).Every Reviewless := by
  refine .bind (.segment nofun) fun submitted => .bind (emit_reviewless _) fun _ => ?_
  split
  · refine .bind (transaction_reviewless nofun) fun _ => .bind emitCustomerReply_reviewless fun _ =>
      .bind (emit_reviewless _) fun _ => .bind emitRunSucceeded_reviewless fun _ => ?_
    split
    · exact .bind emitCase_reviewless fun _ => .pure _
    · exact .pure _
  · exact .bind (transaction_reviewless nofun) fun _ => .bind emitCustomerReply_reviewless fun _ =>
      .bind emitCase_reviewless fun _ => .bind emitRunSucceeded_reviewless fun _ =>
        .bind emitCase_reviewless fun _ => .pure _

theorem retryCase_reviewless {providers : Providers} :
    (retryCase settings conversationId caseId providers).Every Reviewless := by
  refine .bind (transaction_reviewless nofun) fun plan => ?_
  cases plan with
  | action => exact .bind startRun_reviewless fun _ => submitAndVerify_reviewless
  | investigation =>
    refine .bind startRun_reviewless fun _ => .bind (investigateOrFail_reviewless ?_) fun _ => ?_
    · exact .bind (transaction_reviewless nofun) fun _ => .pure _
    · exact .bind applyFirstResult_reviewless fun _ => .pure _

theorem createActionRun_reviewless {proposalId : ProposalId} :
    (createActionRun conversationId proposalId).Every Reviewless :=
  .bind (transaction_reviewless nofun) fun _ => .bind startRun_reviewless fun _ => .pure _

theorem refuseRun_reviewless {failureCode code : String} :
    (refuseRun (α := α) runId caseId failureCode code).Every Reviewless :=
  .bind failRun_reviewless fun _ => .throw _

theorem declineProposal_reviewless {proposalId : ProposalId} {version : Nat} :
    (declineProposal conversationId proposalId version).Every Reviewless := by
  refine .bind createActionRun_reviewless fun runId => .bind (transaction_reviewless nofun) fun refused => ?_
  split
  · simp only
    split
    · exact .bind emitCase_reviewless fun _ => refuseRun_reviewless
    · exact refuseRun_reviewless
  · exact .bind emitCase_reviewless fun _ => .bind emitCustomerReplyAndRunSuccess_reviewless fun _ =>
      .bind emitCase_reviewless fun _ => .pure _

end Service

variable {settings : Settings} {k : String}

theorem Reviews.of_reviewless {r : Request} {label : Label} {update : ServiceState → ServiceState}
    (h : Reviewless label update) : Reviews settings r label update :=
  fun proposalId version hlabel => absurd hlabel (h proposalId version)

/-- Only `confirm_proposal` reviews confirmations. -/
theorem Request.reviews (settings : Settings) (k : String) (r : Request) :
    (r.program settings k).Every (Reviews settings r) := by
  have hother : ∀ {α : Type} {x : Service α}, x.Every Reviewless → x.Every (Reviews settings r) :=
    fun h => h.mono fun _ _ => Reviews.of_reviewless
  cases r with
  | submitMessage content providers => exact hother Service.submitMessage_reviewless
  | retryCase caseId providers => exact hother Service.retryCase_reviewless
  | declineProposal proposalId version => exact hother Service.declineProposal_reviewless
  | confirmProposal proposalId version =>
    have hreview : (Service.transaction (.review proposalId version)
        (Service.reviewConfirmation settings proposalId version)).Every
          (Reviews settings (.confirmProposal proposalId version)) := by
      refine .segment fun proposalId' version' hlabel => ?_
      injection hlabel with hid hversion
      subst hid hversion
      exact ⟨rfl, rfl⟩
    refine Op.Every.bind (hother Service.createActionRun_reviewless) fun runId =>
      .bind hreview fun verdict => hother ?_
    cases verdict with
    | rejected code =>
      simp only
      split
      · exact .bind Service.emitCase_reviewless fun _ => Service.refuseRun_reviewless
      · exact Service.refuseRun_reviewless
    | duplicate => exact Service.refuseRun_reviewless
    | invalidated => exact .bind Service.emitCase_reviewless fun _ => Service.refuseRun_reviewless
    | confirmed a => exact .bind Service.emitCase_reviewless fun _ => Service.submitAndVerify_reviewless

end AfterSales
