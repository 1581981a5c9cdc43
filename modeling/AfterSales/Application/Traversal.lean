import AfterSales.Application.Reviews

/-! The operations follow the machine, last part: messages and retries, and with them every request.

    A message is noted, or answers a question of the open case; a retry goes on with an action that
    failed, or investigates again. So every configuration that a service reaches has each of its
    conversations in a phase in which its invariant holds. -/

set_option linter.unusedSectionVars false

namespace AfterSales
open Interleave Repository

variable [PolicyDigest] [ProofDigest] [ResultDigest] [IdText] [TraceVolume] [FactDigest]
  [CaseFolding] [EvidenceDigest] [MessageRedaction]

variable {settings : Settings} {k : String} {l : ConversationStore} {s : SharedState}
  {caseId runId messageId : RowId} {f : CaseFolder} {row : RunRow} {γ γ' : Phase} {asked : Nat}
  {α : Type}
  {P : α → Phase → ConversationStore → Prop} {E : ServiceError → Phase → ConversationStore → Prop}

/-! ### Asking for the package -/

theorem Phase.Asking.passing (h : γ.Asking runId caseId) : γ.Passing runId caseId 0 := by
  cases h with
  | replying => exact .replying
  | working => exact .working 0 0

/-- The transaction that asks for the package, or closes a case whose questions are used up. -/
theorem askForPackage_runs (asking : γ.Asking runId caseId) :
    Runs (machine settings k)
      (fun d γ' l' => γ' = .settled caseId d ∧ runId.serial < l'.nextSerial) E
      (Service.transaction .finish (Service.askForPackage caseId runId)) γ l := by
  refine Runs.transaction_ok fun s hinv => ?_
  obtain ⟨⟨row, hopen⟩, f, hf⟩ := asking.passing.run hinv.2.1
  obtain ⟨-, -, hfolder⟩ := hinv.1.folders caseId f hf
  have hclosed := passStates_open (asking.state hinv.2.1 hf)
  by_cases hcount : f.row.businessClarificationCount ≥ 2
  · have hmove : CaseMove settings caseId runId l s f row .finish γ false _ s _ _ :=
      .closeAtLimit asking
    have hnew := hmove.folderInv hfolder hf hinv.2.1
    have hchange := changeCase_ok (x := (l, s)) hf hclosed hnew.closing hnew.budget
    refine ⟨.escalate, _, _, s, ?_, .change hf hopen.stored hmove, rfl, hopen.known hinv.1⟩
    rw [Service.askForPackage, Transaction.bind_ok (requireCase_ok (x := (l, s)) hf), if_pos hcount]
    exact (Transaction.bind_ok hchange).trans
      ((Transaction.bind_ok (succeedRun_ok { hopen with })).trans rfl)
  · have hmove : CaseMove settings caseId runId l s f row .finish γ false _ s _ _ :=
      .askPackage asking (Nat.lt_of_not_le hcount)
    have hnew := hmove.folderInv hfolder hf hinv.2.1
    have hchange := changeCase_ok (x := (l, s)) hf hclosed hnew.closing hnew.budget
    refine ⟨.clarify, _, _, s, ?_, .change hf hopen.stored hmove, rfl, hopen.known hinv.1⟩
    rw [Service.askForPackage, Transaction.bind_ok (requireCase_ok (x := (l, s)) hf), if_neg hcount]
    exact (Transaction.bind_ok hchange).trans
      ((Transaction.bind_ok (succeedRun_ok { hopen with })).trans rfl)

/-- `_request_target_shipment_clarification`. -/
theorem requestTargetShipmentClarification_runs (asking : γ.Asking runId caseId) :
    Runs (machine settings k) (fun r γ' _ => Phase.Ended (.ok r) γ') E
      (Service.requestTargetShipmentClarification caseId runId) γ l := by
  refine Runs.bind ((askForPackage_runs asking).mono ?_ fun _ _ _ he => he)
  rintro d γ₁ l₁ ⟨rfl, h₁⟩
  refine Leads.next (emitCase_tells .settled (by simp) h₁) fun _ l₂ h₂ =>
    Leads.next (emitRunSucceeded_runs h₂) fun _ l₃ h₃ => ?_
  split
  · exact Leads.next (emitCase_notes (by simp) h₃) fun _ _ _ => Runs.pure .reported
  · exact Runs.pure .reported

/-! ### A reply -/

/-- A refresh while facts may change, as a step that is gone on from. -/
theorem refreshed_runs (facts : γ.Facts caseId γ) (hstored : ∀ l s,
      (machine settings k).inv γ l s → ∃ f, l.folders caseId = some f)
    (known : runId.serial < l.nextSerial) :
    Runs (machine settings k) (Leads runId γ) E
      (Service.transaction .progress (CaseFactService.refreshSnapshot caseId)) γ l := by
  refine (refreshSnapshot_runs facts hstored).mono ?_ fun _ _ _ he => he
  rintro _ _ l₁ ⟨hγ, hserial⟩
  exact ⟨hγ, hserial ▸ known⟩

/-- A load, and the step of the fact service after it. -/
theorem load_runs {label : Label} {t : Tx α} (facts : γ.Facts caseId γ)
    (kind : label = .load caseId ∨ label = .read caseId)
    (houtcome : ∀ s, (machine settings k).inv γ l s →
      ∃ f, l.folders caseId = some f ∧ CaseFactService.Outcome l s caseId f t) :
    Runs (machine settings k)
      (fun _ γ' l' => γ' = γ ∧ l'.nextSerial = l.nextSerial)
      (fun e γ' l' => γ' = γ ∧ l'.nextSerial = l.nextSerial ∧
        ∃ c, e = .caseFact c ∧ c ≠ .validation)
      (Service.transaction label t) γ l := by
  have hlook : ∀ x, Move settings k label γ x γ x := fun x => .load kind facts
  refine Runs.segment fun s hinv => ?_
  obtain ⟨f, hf, hcases⟩ := houtcome s hinv
  cases hcases with
  | refused e result cause =>
    exact ⟨.error (.caseFact e), γ, l, s, Transaction.commit_error result, hlook _, rfl, rfl, e,
      rfl, cause⟩
  | unchanged a result =>
    exact ⟨.ok a, γ, l, s, Transaction.commit_ok result, hlook _, rfl, rfl⟩
  | stepped a f' result step =>
    exact ⟨.ok a, γ, _, s, Transaction.commit_ok result,
      .facts (Or.inr kind) facts hf step fun _ => rfl, rfl, rfl⟩

/-- What a reply is read as extends the history, or leaves it. -/
theorem acceptReply_outcome {customerMessage : String} (hf : l.folders caseId = some f)
    (h : FactHistory l caseId f) : CaseFactService.Outcome l s caseId f
      (Service.acceptReply caseId messageId customerMessage) := by
  refine .load hf h fun before hr => ?_
  cases houtstanding : CaseFactService.outstandingCode before with
  | none => exact .unchanged none rfl
  | some code =>
    refine .bind (requireCase_ok (x := (l, s)) hf) ?_
    have hextracted : ∀ c ∈ CaseFactService.extractCandidates f before code customerMessage, _ :=
      CaseFactService.extractCandidates_proof hr houtstanding
    exact (CaseFactService.acceptMessage_outcome hf h fun c hc =>
      hextracted c (by simpa [UntrustedBatch.ofCandidates] using hc)).map
        fun accepted => some accepted.1

/-- While a case is replied to it is stored. -/
theorem replying_stored {q : RunState}
    (hinv : (machine settings k).inv (.replying runId caseId q asked) l s) :
    ∃ f, l.folders caseId = some f := by
  obtain ⟨-, ⟨f, hf, -⟩, -⟩ := hinv.2.1
  exact ⟨f, hf⟩

/-- The snapshot that a reply leads to; a reply that breaks the history fails its run. -/
theorem snapshotOfReply_runs {customerMessage : String} (known : runId.serial < l.nextSerial) :
    Runs (machine settings k) (Leads runId (.replying runId caseId .running asked)) Failed
      (Service.snapshotOfReply caseId runId messageId customerMessage)
      (.replying runId caseId .running asked) l := by
  have hload : Runs (machine settings k)
      (fun _ γ' l' => γ' = .replying runId caseId .running asked ∧ l'.nextSerial = l.nextSerial)
      (fun e γ' l' => γ' = .replying runId caseId .running asked ∧ l'.nextSerial = l.nextSerial ∧
        ∃ c, e = .caseFact c ∧ c ≠ .validation)
      (Service.transaction (.read caseId)
        (Service.acceptReply caseId messageId customerMessage))
      (.replying runId caseId .running asked) l := by
    refine load_runs (.replying runId) (.inr rfl) fun s hinv => ?_
    obtain ⟨-, ⟨f, hf, -⟩, -⟩ := hinv.2.1
    exact ⟨f, hf, acceptReply_outcome hf (hinv.1.folders caseId f hf).2.2.history⟩
  refine Runs.bind (Runs.tryCatch (Runs.tryCatch (hload.mono ?_ ?_)))
  · rintro merged γ₁ l₁ ⟨rfl, h₁⟩
    cases merged with
    | some snapshot => exact Runs.pure ⟨rfl, h₁ ▸ known⟩
    | none =>
      exact refreshed_runs (.replying runId) (fun _ _ => replying_stored) (h₁ ▸ known)
  · rintro e γ₁ l₁ ⟨rfl, h₁, c, rfl, hc⟩
    cases c with
    | rejected =>
      refine Runs.pure ?_
      exact refreshed_runs (.replying runId) (fun _ _ => replying_stored) (h₁ ▸ known)
    | integrity =>
      refine Runs.throw ?_
      exact Leads.next (emit_note (Or.inr rfl) (by simp) (by simp) (h₁ ▸ known)) fun _ _ _ =>
        Leads.next (failRun_refuses (.replying caseId) (by decide) (by simp)) fun _ _ _ =>
        Runs.throw (Or.inl ⟨rfl, rfl⟩)
    | validation => exact absurd rfl hc

/-- An investigation, and the result of its first pass. -/
theorem investigateAndApply_runs {number : Nat} {selector selector' : Nat → ObservationSelector}
    {args : InvestigateArguments} {failureCode : String} {loads : Service Unit}
    (begins : γ.Begins runId caseId 0 0 number) (hargs : args.runPlanningTurns = 0)
    (hnumber : args.investigationPass = number)
    (hcode : failureCode ≠ "")
    (hloads : Runs (machine settings k) (fun _ γ' _ => γ' = γ) (fun _ γ' _ => γ' = γ) loads γ l) :
    Runs (machine settings k) (fun r γ' _ => Phase.Ended (.ok r) γ') Failed
      (do
        let output ← Service.investigateOrFail settings caseId runId 0 selector args failureCode loads
        Service.applyFirstResult settings caseId runId selector' output
        return ⟨runId, some caseId, none⟩) γ l := by
  refine Runs.bind ((investigateOrFail_runs begins hargs hnumber (by simp) hcode hloads).mono ?_
    fun _ _ _ he => he)
  rintro output γ₁ l₁ rfl
  refine Runs.bind (applyFirstResult_runs.mono ?_ fun _ _ _ he => he)
  rintro _ γ₂ l₂ ⟨d, rfl⟩
  exact Runs.pure .told

/-- The part of `_continue_business_clarification` for a fact question. -/
theorem continueFactClarification_runs {customerMessage : String}
    {providers : Providers} (known : runId.serial < l.nextSerial) :
    Runs (machine settings k) (fun r γ' _ => Phase.Ended (.ok r) γ') Failed
      (Service.continueFactClarification settings caseId runId messageId asked customerMessage
        providers) (.replying runId caseId .running asked) l :=
  Leads.next (snapshotOfReply_runs known) fun _ _ h₁ =>
    Leads.next (emit_note (Or.inr rfl) (by simp) (by simp) h₁) fun _ _ _ =>
    investigateAndApply_runs .replying rfl rfl (by decide) (Runs.pure rfl)

/-- A load of the snapshot before an investigation. -/
theorem loadSnapshot_runs (facts : γ.Facts caseId γ) (hstored : ∀ l s,
      (machine settings k).inv γ l s → ∃ f, l.folders caseId = some f) :
    Runs (machine settings k) (fun _ γ' _ => γ' = γ) (fun _ γ' _ => γ' = γ)
      (do let _ ← Service.transaction (.load caseId) (CaseFactService.loadSnapshot caseId)) γ l := by
  refine Runs.bind ((load_runs facts (.inl rfl) fun s hinv => ?_).mono (fun _ _ _ h => Runs.pure h.1)
    fun _ _ _ h => h.1)
  obtain ⟨f, hf⟩ := hstored l s hinv
  refine ⟨f, hf, ?_⟩
  obtain ⟨snapshot, -, ⟨-, hload⟩ | ⟨-, hload⟩⟩ :=
    CaseFactService.loadSnapshot_cases (s := s) hf (hinv.1.folders caseId f hf).2.2.history
  · exact .unchanged snapshot hload
  · exact .refused _ hload (by simp)

/-- During a pass the case is stored. -/
theorem working_stored {q : RunState} {pass turns number : Nat}
    (hinv : (machine settings k).inv (.working runId caseId q pass turns number) l s) :
    ∃ f, l.folders caseId = some f := by
  obtain ⟨-, ⟨-, ⟨f, hf, -⟩, -⟩, -⟩ := hinv
  exact ⟨f, hf⟩

/-- `_continue_target_shipment_clarification`. -/
theorem continueTargetClarification_runs {customerMessage : String} {providers : Providers} :
    Runs (machine settings k) (fun r γ' _ => Phase.Ended (.ok r) γ') Failed
      (Service.continueTargetClarification settings caseId runId customerMessage providers)
      (.replying runId caseId .running asked) l := by
  refine Runs.bind (look_ok rfl fun s hinv => ?_)
  obtain ⟨-, ⟨f, hf, -⟩, -⟩ := hinv.2.1
  refine ⟨f, requireCase_ok (x := (l, s)) hf, ?_⟩
  split
  · exact requestTargetShipmentClarification_runs .replying
  have hselect : Runs (machine settings k)
      (fun selected γ' l' => runId.serial < l'.nextSerial ∧
        γ' = selected.elim (.replying runId caseId .running asked)
          (.working runId caseId .running 0 0)) Failed
      (Service.transaction (.read caseId) (Service.selectPackage caseId customerMessage))
      (.replying runId caseId .running asked) l := by
    refine Runs.transaction_ok fun s hinv => ?_
    obtain ⟨⟨row, hopen⟩, ⟨f, hf, hstate, hasked⟩, -⟩ := hinv.2.1
    obtain ⟨-, -, hfolder⟩ := hinv.1.folders caseId f hf
    rw [Service.selectPackage, Transaction.bind_ok (requireCase_ok (x := (l, s)) hf),
      Transaction.bind_ok rfl]
    cases hselected : selectTargetShipment s.fixtures f.row.authorizedOrderId
        f.row.canonicalIssueType customerMessage with
    | none => exact ⟨none, _, l, s, rfl, .load (.inr rfl) (.replying runId), hopen.known hinv.1, rfl⟩
    | some shipmentId =>
      have hmove : CaseMove settings caseId runId l s f row (.read caseId)
          (.replying runId caseId .running asked) false _ s _ row := .resume shipmentId
      have hnew := hmove.folderInv hfolder hf hinv.2.1
      have hchange := changeCase_ok (x := (l, s)) hf (by simp [hstate]) hnew.closing hnew.budget
      refine ⟨some asked, _, _, s, ?_, .change hf hopen.stored hmove,
        hopen.known hinv.1, rfl⟩
      rw [← hasked]
      refine (Transaction.bind_ok hchange).trans ?_
      rw [ConversationStore.setRun_same]
      · rfl
      · exact hopen.stored
  refine Runs.bind (hselect.mono ?_ fun _ _ _ he => he)
  rintro selected γ₁ l₁ ⟨h₁, rfl⟩
  cases selected with
  | none => exact requestTargetShipmentClarification_runs .replying
  | some asked =>
    exact Leads.next (emitCase_notes (by simp) h₁) fun _ _ _ =>
      investigateAndApply_runs (.working 0 0) rfl rfl (by decide)
        (loadSnapshot_runs (.working _ _ _) fun _ _ => working_stored)

/-- `_continue_business_clarification`. -/
theorem continueBusinessClarification_runs {customerMessage : String} {providers : Providers}
    (known : runId.serial < l.nextSerial) :
    Runs (machine settings k) (fun r γ' _ => Phase.Ended (.ok r) γ') Failed
      (Service.continueBusinessClarification settings caseId runId messageId customerMessage
        providers) (.replying runId caseId .running asked) l := by
  refine Runs.bind (look_ok rfl fun s hinv => ?_)
  obtain ⟨-, ⟨f, hf, -, hasked⟩, -⟩ := hinv.2.1
  refine ⟨(f.row, Service.isTargetClarificationCase s f.row), ?_, ?_⟩
  · rw [Transaction.bind_ok (requireCase_ok (x := (l, s)) hf)]
    rfl
  split
  · exact continueTargetClarification_runs
  split
  · refine Leads.next (Runs.transaction_ok (P := Leads runId _) fun s hinv => ?_) fun _ _ h₁ =>
      Leads.next (replyAndSuccess_runs h₁) fun _ _ h₂ =>
      Leads.next (emitCase_notes (by simp) h₂) fun _ _ _ => Runs.pure .told
    obtain ⟨⟨row, hopen⟩, ⟨f, hf, hstate, -⟩, -⟩ := hinv.2.1
    have hmove : CaseMove settings caseId runId l s f row .finish
        (.replying runId caseId .running asked) false _ s _ _ := .closeAtLimit .replying
    have hnew := hmove.folderInv (hinv.1.folders caseId f hf).2.2 hf hinv.2.1
    have hchange := changeCase_ok (x := (l, s)) hf (by simp [hstate]) hnew.closing hnew.budget
    exact ⟨(), _, _, s, (Transaction.bind_ok hchange).trans (succeedRun_ok { hopen with }),
      .change hf hopen.stored hmove, rfl, hopen.known hinv.1⟩
  · subst hasked
    exact continueFactClarification_runs known

/-! ### A new case -/

/-- A case is opened, and bound to its run and its message. -/
theorem openCase_ok (messageId : RowId) (customerId orderId : String) (issueType : IssueType)
    (customerMessage : String) (hrun : l.runs runId = some row) :
    ∃ target unclear, Service.openCase k runId messageId customerId orderId issueType
        customerMessage (l, s) = .ok ((⟨k, l.nextSerial⟩, unclear),
          (l.opened ⟨k, l.nextSerial⟩ runId messageId
            (Service.newCaseRow customerId orderId issueType target) row, s)) := by
  let target := selectTargetShipment s.fixtures orderId issueType customerMessage
  let created : ConversationStore :=
    { l.tick.setFolder ⟨k, l.nextSerial⟩
        ⟨Service.newCaseRow customerId orderId issueType target, [], [], [], [], none, [], []⟩ with
      activeCaseId := some ⟨k, l.nextSerial⟩ }
  have hcreate : createCase ⟨k, l.nextSerial⟩
      (Service.newCaseRow customerId orderId issueType target) (l.tick, s)
        = .ok ((), (created, s)) := rfl
  have hbind : Service.bindCase ⟨k, l.nextSerial⟩ runId messageId (created, s) =
      .ok ((), (l.opened ⟨k, l.nextSerial⟩ runId messageId
        (Service.newCaseRow customerId orderId issueType target) row, s)) := by
    have hcreated : created.runs runId = some row := hrun
    unfold Service.bindCase
    exact (Transaction.bind_ok rfl).trans ((Transaction.bind_ok (require_ok hcreated)).trans rfl)
  refine ⟨target, target.isNone &&
    needsPartialShipmentClarification s.fixtures orderId issueType customerMessage, ?_⟩
  rw [Service.openCase, Transaction.bind_ok rfl]
  exact (Transaction.bind_ok (a := l.nextSerial) rfl).trans
    ((Transaction.bind_ok hcreate).trans ((Transaction.bind_ok hbind).trans rfl))

/-- `_create_and_investigate_case`. -/
theorem createAndInvestigateCase_runs {customerId orderId : String} {issueType : IssueType}
    {customerMessage : String} {providers : Providers} :
    Runs (machine settings k) (fun r γ' _ => Phase.Ended (.ok r) γ') Failed
      (Service.createAndInvestigateCase settings k runId messageId customerId orderId issueType
        customerMessage providers) (.noted runId messageId .running) l := by
  refine Runs.bind (Runs.transaction_ok fun s hinv => ?_)
  obtain ⟨⟨row, hopen⟩, -⟩ := hinv.2.1
  obtain ⟨target, unclear, ht⟩ := openCase_ok (k := k) (s := s) messageId customerId orderId
    issueType customerMessage hopen.stored
  refine ⟨_, _, _, s, ht, .openCase customerId orderId issueType target hopen.stored, ?_⟩
  have h₁ := (hopen.known hinv.1).trans (Nat.lt_succ_self _)
  refine Runs.bind ((refreshed_runs (.working runId 0 0) (fun _ _ => working_stored) h₁).mono ?_
    fun _ _ _ he => he)
  rintro _ γ₂ l₂ ⟨rfl, h₂⟩
  refine Leads.next (emitCase_notes (by simp) h₂) fun _ l₃ h₃ =>
    Leads.next (emit_tell (.working runId 0 0) rfl rfl (by simp) (by simp) (by simp) h₃)
      fun _ l₄ h₄ => ?_
  split
  · exact requestTargetShipmentClarification_runs .working
  · exact investigateAndApply_runs (.working 0 0) rfl rfl (by decide) (Runs.pure rfl)

/-! ### A message -/

/-- Without an open case the pointer of a conversation is empty. -/
theorem StoreInv.inactive (h : StoreInv k l) (hnone : l.activeCase = none) :
    l.activeCaseId = none := by
  by_contra hne
  obtain ⟨c, hc⟩ := Option.ne_none_iff_exists'.mp hne
  obtain ⟨f, hf, hopen⟩ := (h.active c).mp hc
  simp [ConversationStore.activeCase, hc, hf, hopen] at hnone

/-- The open case of a conversation is stored. -/
theorem ConversationStore.activeCase_some {c : RowId} (h : l.activeCase = some (c, f)) :
    l.folders c = some f := by
  unfold ConversationStore.activeCase at h
  obtain ⟨c', -, h⟩ := Option.bind_eq_some_iff.mp h
  obtain ⟨f', hf', h⟩ := Option.bind_eq_some_iff.mp h
  split at h
  · cases h
  · obtain ⟨rfl, rfl⟩ := Prod.mk.inj (Option.some.inj h)
    exact hf'

/-- The phase after a message was received, with its run in a state. -/
def Received (runState : RunState) (asked : Nat) (received : Service.ReceivedMessage) : Phase :=
  match received.activeCase with
  | none => .noted received.runId received.messageId runState
  | some caseId => .replying received.runId caseId runState asked

theorem Received.starts (asked : Nat) (received : Service.ReceivedMessage) :
    (Received .queued asked received).Starts received.runId (Received .running asked received) := by
  unfold Received
  cases received.activeCase with
  | none => exact .noted _
  | some caseId => exact .replying caseId

/-- The first transaction of a message. -/
theorem receiveMessage_runs {message : ValidatedCustomerMessage} :
    Runs (machine settings k)
      (fun received γ' l' => (∃ asked, γ' = Received .queued asked received) ∧
        received.runId.serial < l'.nextSerial) Failed
      (Service.transaction .receive (Service.receiveMessage k message)) .idle l := by
  refine Runs.segment fun s hinv => ?_
  cases hcustomer : l.customerId with
  | none =>
    refine ⟨.error (.application "CONVERSATION_NOT_FOUND" 404), .idle, l, s,
      Transaction.commit_error ?_, .look rfl, Or.inl ⟨rfl, rfl⟩⟩
    rw [Service.receiveMessage, Transaction.bind_ok rfl]
    simp only [hcustomer]
    rfl
  | some customerId =>
    have hreceive : ∀ {r : Except ServiceError (Service.ReceivedMessage × ServiceState)},
        (∀ active, l.activeCase = active → (if ∃ open' ∈ active,
            open'.2.row.caseState ≠ .awaitingCustomerInput then
            throw (.application "ACTIVE_CASE_REQUIRES_RESOLUTION" 409)
          else do
            let s ← shared
            let runId : RowId := ⟨k, ← newSerial⟩
            let messageId : RowId := ⟨k, ← newSerial⟩
            addMessage ⟨messageId, active.map (·.1), message.traceContent, s.now⟩
            createRun runId (active.map (·.1))
            return ⟨runId, messageId, customerId, active.map (·.1)⟩ :
              Tx Service.ReceivedMessage) (l, s) = r) →
        Service.receiveMessage k message (l, s) = r := by
      intro r h
      rw [← h l.activeCase rfl, Service.receiveMessage, Transaction.bind_ok rfl]
      simp only [hcustomer]
      rw [Transaction.bind_ok rfl]
    cases hactive : l.activeCase with
    | none =>
      refine ⟨.ok ⟨⟨k, l.nextSerial⟩, ⟨k, l.nextSerial + 1⟩, customerId, none⟩, _, _, s,
        Transaction.commit_ok (hreceive ?_),
        .receive message.traceContent (hinv.1.inactive hactive), ⟨0, rfl⟩,
        Nat.lt_succ_of_lt (Nat.lt_succ_self _)⟩
      rintro _ rfl
      rw [hactive, if_neg (by simp)]
      rfl
    | some found =>
      obtain ⟨c, f⟩ := found
      have hf := ConversationStore.activeCase_some hactive
      by_cases hstate : f.row.caseState = .awaitingCustomerInput
      · refine ⟨.ok ⟨⟨k, l.nextSerial⟩, ⟨k, l.nextSerial + 1⟩, customerId, some c⟩, _, _, s,
          Transaction.commit_ok (hreceive ?_), .reply message.traceContent hf hstate, ⟨_, rfl⟩,
          Nat.lt_succ_of_lt (Nat.lt_succ_self _)⟩
        rintro _ rfl
        rw [hactive, if_neg (by simpa using hstate)]
        rfl
      · refine ⟨.error (.application "ACTIVE_CASE_REQUIRES_RESOLUTION" 409), .idle, l, s,
          Transaction.commit_error (hreceive ?_), .look rfl, Or.inl ⟨rfl, rfl⟩⟩
        rintro _ rfl
        rw [hactive, if_pos (by simpa using hstate)]
        rfl

/-- `_complete_without_case`. -/
theorem completeWithoutCase_runs {reasonCode : String} :
    Runs (machine settings k) (fun r γ' _ => Phase.Ended (.ok r) γ') E
      (Service.completeWithoutCase runId reasonCode) (.noted runId messageId .running) l := by
  refine Leads.next (Runs.transaction_ok (P := Leads runId .idle) fun s hinv => ?_)
    fun _ l₁ h₁ => ?_
  · obtain ⟨⟨row, hopen⟩, -⟩ := hinv.2.1
    exact ⟨(), .idle, _, s, succeedRun_ok (x := (l, s)) hopen, .answer hopen.stored, rfl,
      hopen.known hinv.1⟩
  · refine Leads.next (Leads.next (emit_note (Or.inl rfl) (by simp) (by simp) h₁)
      fun _ _ h₂ => emitRunSucceeded_runs h₂) fun _ _ _ => Runs.pure ?_
    exact Or.inl ⟨rfl, rfl, rfl⟩

/-- Traces of the same kind, one after the other. -/
theorem emitAll_runs {β : Type} {e : β → ServiceEvent} (items : List β)
    (silent : ∀ b, (e b).caseId = none ∨ (e b).customerDisposition = none)
    (ordinary : ∀ b, (e b).eventType ≠ "agent_turn_started") (own : ∀ b, ∀ r ∈ (e b).runId, r = runId)
    (known : runId.serial < l.nextSerial) :
    Runs (machine settings k) (Leads runId γ) E
      (items.forM fun b => Service.emit (e b) : Service PUnit) γ l := by
  induction items generalizing l with
  | nil => exact Runs.pure ⟨rfl, known⟩
  | cons b items ih =>
    exact Leads.next (emit_note (silent b) (ordinary b) (own b) known) fun _ _ h₁ => ih h₁

/-- The policy decision of a message is recorded; one that supports it names order and issue. -/
theorem decidePolicy_runs {customerId : String} {triage : TriageResult} :
    Runs (machine settings k)
      (fun decision γ' l' => γ' = .noted runId messageId .running ∧
        runId.serial < l'.nextSerial ∧ (decision.route = .supportedLogistics →
          ∃ orderId issueType, decision.authorizedOrderId = some orderId ∧
            decision.canonicalIssueType = some issueType)) E
      (Service.transaction .record (Service.decidePolicy customerId triage))
      (.noted runId messageId .running) l := by
  refine Runs.transaction_ok fun s hinv => ?_
  obtain ⟨⟨row, hopen⟩, -⟩ := hinv.2.1
  refine ⟨_, _, _, s, rfl, .route _, rfl, hopen.known hinv.1, fun hroute => ?_⟩
  have hfields : ∀ previous decision,
      (enforceEntryClarificationLimit previous decision).route = decision.route ∧
        (enforceEntryClarificationLimit previous decision).authorizedOrderId
          = decision.authorizedOrderId ∧
        (enforceEntryClarificationLimit previous decision).canonicalIssueType
          = decision.canonicalIssueType := by
    intro previous decision
    unfold enforceEntryClarificationLimit
    split <;> exact ⟨rfl, rfl, rfl⟩
  obtain ⟨h₁, h₂, h₃⟩ := hfields l.policyRoutes (routeTriage customerId triage s.fixtures)
  have hsupported : (routeTriage customerId triage s.fixtures).supported := by
    simp [PolicyDecision.supported, ← h₁, hroute]
  obtain ⟨issueType, orderId, hissue, horder, -⟩ := routeTriage_scope hsupported
  exact ⟨orderId, issueType, h₂.trans horder, h₃.trans hissue⟩

/-- The message after its triage. -/
theorem routeMessage_runs {received : Service.ReceivedMessage} {customerMessage : String}
    {triage : TriageResult} {providers : Providers} :
    Runs (machine settings k) (fun r γ' _ => Phase.Ended (.ok r) γ') Failed
      (Service.routeMessage settings k received customerMessage triage providers)
      (.noted received.runId received.messageId .running) l := by
  refine Runs.bind (decidePolicy_runs.mono ?_ fun _ _ _ he => he)
  rintro decision γ₁ l₁ ⟨rfl, h₁, hscope⟩
  refine Leads.next (Leads.next (emit_note (Or.inl rfl) (by simp) (by simp) h₁) fun _ l₂ h₂ =>
    Leads.next (emitAll_runs decision.blockedFragments (fun _ => Or.inl rfl) (fun _ => by simp)
      (fun _ => by simp) h₂) fun _ l₃ h₃ =>
    emit_note (Or.inl rfl) (by simp) (by simp) h₃) fun _ l₄ _ => ?_
  split
  · exact createAndInvestigateCase_runs
  · rename_i hroute hnone
    obtain ⟨orderId, issueType, horder, hissue⟩ := hscope hroute
    exact absurd hissue (hnone orderId issueType horder)
  · exact completeWithoutCase_runs

/-- A message without an open case. -/
theorem triageMessage_runs {received : Service.ReceivedMessage} {customerMessage : String}
    {providers : Providers} (known : received.runId.serial < l.nextSerial) :
    Runs (machine settings k) (fun r γ' _ => Phase.Ended (.ok r) γ') Failed
      (Service.triageMessage settings k received customerMessage providers)
      (.noted received.runId received.messageId .running) l := by
  refine Leads.next (emit_note (Or.inl rfl) (by simp) (by simp) known) fun _ l₁ _ => ?_
  cases providers.triage with
  | none =>
    exact Leads.next (failRun_refuses (.noted received.messageId) (by decide) (by simp))
      fun _ _ _ => Runs.throw (Or.inl ⟨rfl, rfl⟩)
  | some triage => exact routeMessage_runs

/-- A message that is refused before anything is stored. -/
theorem rejectMessage_runs :
    Runs (machine settings k) (fun r γ' _ => Phase.Ended (.ok r) γ') Failed
      Service.rejectMessage .idle l := by
  refine Runs.bind (look_ok rfl fun s hinv => ⟨_, rfl, ?_⟩)
  split
  · refine Runs.bind (Runs.transaction_ok fun s hinv => ⟨(), .idle, _, s, rfl,
      .note _ (Or.inl rfl) (by simp) (by simp), Runs.throw (Or.inl ⟨rfl, rfl⟩)⟩)
  · exact Runs.throw (Or.inl ⟨rfl, rfl⟩)

/-- `submit_message`. -/
theorem submitMessage_runs {content : String} {providers : Providers} :
    Runs (machine settings k) (fun r γ' _ => Phase.Ended (.ok r) γ') Failed
      (Service.submitMessage settings k content providers) .idle l := by
  unfold Service.submitMessage
  cases validateCustomerMessage content with
  | none => exact rejectMessage_runs
  | some validated =>
    refine Runs.bind (receiveMessage_runs.mono ?_ fun _ _ _ he => he)
    rintro received γ₁ l₁ ⟨⟨asked, rfl⟩, h₁⟩
    refine Leads.next (emit_note (Or.inr rfl) (by simp) (by simp) h₁) fun _ l₂ h₂ =>
      Leads.next (startRun_runs (Received.starts asked received)) fun _ l₃ h₃ => ?_
    unfold Received
    cases received.activeCase with
    | none => exact triageMessage_runs h₃
    | some caseId => exact continueBusinessClarification_runs h₃

/-! ### A retry -/

/-- What a retry goes on with. -/
def Planned (caseId : RowId) (runState : RunState) : Service.RetryPlan → Phase
  | .action runId a => .executing runId a runState
  | .investigation runId => .working runId caseId runState 0 0 0

section PlanRetry

variable {s : SharedState} {f : CaseFolder}

/-- What `planRetry` does with a case that exists. -/
theorem planRetry_found {r : Except ServiceError (Service.RetryPlan × ServiceState)}
    (hf : l.folders caseId = some f)
    (h : (if f.row.caseState ≠ .awaitingRetry then throw (.application "CASE_NOT_RETRYABLE" 409)
        else if f.actions.any fun a => a.actionState = .submitted || a.actionState = .uncertain then
          throw (.application "ACTION_RETRY_UNSAFE" 409)
        else
          let failed := f.actions.filter (·.actionState = .failedRetryable)
          if 1 < failed.length then throw (.application "ACTION_RETRY_CONFLICT" 409)
          else do
            let runId : RowId := ⟨k, ← newSerial⟩
            createRun runId (some caseId)
            match failed with
            | action :: _ =>
              Service.changeCase caseId { caseState := some .executingAction }
              return .action runId (.ofCase action caseId f.row)
            | [] =>
              Service.changeCase caseId { caseState := some .investigating }
              return .investigation runId : Tx Service.RetryPlan) (l, s) = r) :
    Service.planRetry k caseId (l, s) = r := by
  rw [← h, Service.planRetry, Transaction.bind_ok rfl]
  simp only [hf]
  exact Transaction.bind_ok rfl

theorem planRetry_unknown (hf : l.folders caseId = none) :
    Service.planRetry k caseId (l, s) = .error (.application "INVESTIGATION_CASE_NOT_FOUND" 404) := by
  rw [Service.planRetry, Transaction.bind_ok rfl]
  simp only [hf]
  rfl

theorem planRetry_refuses (hf : l.folders caseId = some f)
    (hstate : f.row.caseState ≠ .awaitingRetry) :
    Service.planRetry k caseId (l, s) = .error (.application "CASE_NOT_RETRYABLE" 409) := by
  refine planRetry_found hf ?_
  rw [if_pos hstate]
  rfl

/-- A case without an action is investigated again. -/
theorem planRetry_investigates (hfolder : FolderInv l caseId f) (hf : l.folders caseId = some f)
    (hstate : f.row.caseState = .awaitingRetry) (hactions : f.actions = []) :
    Service.planRetry k caseId (l, s) = .ok (.investigation ⟨k, l.nextSerial⟩,
      ((l.queued k (some caseId)).putCase caseId
        (f.updated { caseState := some .investigating }), s)) := by
  have hqueued : (l.queued k (some caseId)).folders caseId = some f := hf
  have hnew := hfolder.reopened hstate hactions
  have hchange := changeCase_ok (x := (l.queued k (some caseId), s)) hqueued (by simp [hstate])
    hnew.closing hnew.budget
  refine planRetry_found hf ?_
  rw [if_neg (not_not_intro hstate)]
  simp only [hactions, List.any_nil, Bool.false_eq_true, if_false, List.filter_nil,
    List.length_nil, Nat.not_lt_zero]
  exact (Transaction.bind_ok (a := l.nextSerial) rfl).trans
    ((Transaction.bind_ok rfl).trans ((Transaction.bind_ok hchange).trans rfl))

/-- An action that failed and may be repeated is submitted again. -/
theorem planRetry_resubmits {a : ActionRow} (hfolder : FolderInv l caseId f)
    (hf : l.folders caseId = some f) (hstate : f.row.caseState = .awaitingRetry)
    (hactions : f.actions = [a]) (hfailed : a.actionState = .failedRetryable) :
    Service.planRetry k caseId (l, s) = .ok (.action ⟨k, l.nextSerial⟩ (.ofCase a caseId f.row),
      ((l.queued k (some caseId)).putCase caseId
        (f.updated { caseState := some .executingAction }), s)) := by
  have hqueued : (l.queued k (some caseId)).folders caseId = some f := hf
  have hnew := hfolder.resubmits hstate hactions hfailed
  have hchange := changeCase_ok (x := (l.queued k (some caseId), s)) hqueued (by simp [hstate])
    hnew.closing hnew.budget
  have hsafe : ([a].any fun a => a.actionState = .submitted || a.actionState = .uncertain)
      = false := by simp [hfailed]
  have honly : [a].filter (fun a => a.actionState = .failedRetryable) = [a] := by
    simp [hfailed]
  refine planRetry_found hf ?_
  rw [if_neg (not_not_intro hstate)]
  simp only [hactions, hsafe, honly, Bool.false_eq_true, if_false, List.length_singleton,
    Nat.lt_irrefl]
  exact (Transaction.bind_ok (a := l.nextSerial) rfl).trans
    ((Transaction.bind_ok rfl).trans ((Transaction.bind_ok hchange).trans rfl))

/-- A case that waits for a retry has no action, or one that failed and may be repeated. -/
theorem FolderInv.awaits (hfolder : FolderInv l caseId f)
    (hstate : f.row.caseState = .awaitingRetry) :
    f.actions = [] ∨ ∃ a, f.actions = [a] ∧ a.actionState = .failedRetryable := by
  cases hfolder.stage with
  | plain _ _ _ actions => exact .inl actions
  | offered _ _ state => simp [hstate] at state
  | acting earlier p a states _ _ _ _ actions =>
    exact .inr ⟨a, actions, by simpa [hstate, actionStages] using states⟩

/-- The transaction of a retry. -/
theorem planRetry_runs :
    Runs (machine settings k)
      (fun plan γ' l' => γ' = Planned caseId .queued plan ∧ plan.run.serial < l'.nextSerial)
      Failed (Service.transaction (.retry caseId) (Service.planRetry k caseId)) .idle l := by
  refine Runs.segment fun s hinv => ?_
  have hrefused : ∀ code status, Service.planRetry k caseId (l, s) =
        .error (.application code status) →
      ∃ r γ' l' s', Transaction.commit (Service.planRetry k caseId) (l, s) = (r, (l', s')) ∧
        (machine settings k).move (.retry caseId) .idle (l, s) γ' (l', s') ∧
        Ends (fun plan γ' l' => γ' = Planned caseId .queued plan ∧
          plan.run.serial < l'.nextSerial) Failed r γ' l' := fun _ _ he =>
    ⟨.error _, .idle, l, s, Transaction.commit_error he, .look rfl, Or.inl ⟨rfl, rfl⟩⟩
  cases hf : l.folders caseId with
  | none => exact hrefused _ _ (planRetry_unknown hf)
  | some f =>
    obtain ⟨-, -, hfolder⟩ := hinv.1.folders caseId f hf
    by_cases hstate : f.row.caseState = .awaitingRetry
    · rcases hfolder.awaits hstate with hactions | ⟨a, hactions, hfailed⟩
      · exact ⟨.ok (.investigation ⟨k, l.nextSerial⟩), _, _, s,
          Transaction.commit_ok (planRetry_investigates hfolder hf hstate hactions),
          .retry hf hstate hactions, rfl, Nat.lt_succ_self _⟩
      · exact ⟨.ok (.action ⟨k, l.nextSerial⟩ (.ofCase a caseId f.row)), _, _, s,
          Transaction.commit_ok (planRetry_resubmits hfolder hf hstate hactions hfailed),
          .retryAction hf hstate hactions hfailed, rfl, Nat.lt_succ_self _⟩
    · exact hrefused _ _ (planRetry_refuses hf hstate)

end PlanRetry

theorem Planned.starts (plan : Service.RetryPlan) :
    (Planned caseId .queued plan).Starts plan.run (Planned caseId .running plan) := by
  cases plan with
  | action runId a => exact .executing a
  | investigation runId => exact .working caseId 0 0

/-- `retry_case`. -/
theorem retryCase_runs {providers : Providers} :
    Runs (machine settings k) (fun r γ' _ => Phase.Ended (.ok r) γ') Failed
      (Service.retryCase settings k caseId providers) .idle l := by
  refine Runs.bind (planRetry_runs.mono ?_ fun _ _ _ he => he)
  rintro plan γ₁ l₁ ⟨rfl, h₁⟩
  cases plan with
  | action runId a =>
    exact Leads.next (startRun_runs (Planned.starts (.action runId a))) fun _ _ _ =>
      submitAndVerify_runs
  | investigation runId =>
    exact Leads.next (startRun_runs (Planned.starts (.investigation runId))) fun _ _ _ =>
      investigateAndApply_runs (.working 0 0) rfl rfl (by decide)
        (loadSnapshot_runs (.working _ _ _) fun _ _ => working_stored)

/-! ### Every request -/

/-- Every request follows the machine of its conversation. -/
theorem Request.follows (settings : Settings) (k : String) (r : Request) (l : ConversationStore) :
    Follows (machine settings k) (fun a γ _ => (machine settings k).ended a γ)
      (Request.program settings k r) .idle l := by
  have hended : ∀ {x : Service OperationResult},
      Runs (machine settings k) (fun r γ' _ => Phase.Ended (.ok r) γ') Failed x .idle l →
      Follows (machine settings k) (fun a γ _ => (machine settings k).ended a γ) x .idle l :=
    fun h => Follows.mono (fun a γ l ha => by
      cases a with
      | ok r => exact ha
      | error e => exact ha) h
  cases r with
  | submitMessage content providers => exact hended submitMessage_runs
  | retryCase caseId providers => exact hended retryCase_runs
  | confirmProposal proposalId version => exact hended confirmProposal_runs
  | declineProposal proposalId version => exact hended declineProposal_runs

/-- A fresh service has no cases. -/
theorem ServiceConfig.Fresh.folders_eq_none {g : ServiceConfig} (h : g.Fresh) (k : String)
    (c : RowId) : (g.stores k).folders c = none := by
  obtain ⟨customerId, hstore⟩ := h.stores k
  rw [hstore]
  rfl

/-- Every conversation of a service is in a phase in which its invariant holds, and with it any
    property that the moves keep. -/
theorem ServiceReaches.simulated {assumes : String → Label → ServiceState → Prop}
    {J : String → Phase → ConversationStore → SharedState → Prop} {g : ServiceConfig}
    (hreach : ServiceReaches settings assumes g)
    (keeps : Preserved (machine settings) SharedState.Drifts assumes J)
    (hfresh : ∀ g₀ : ServiceConfig, ServiceConfig.Fresh g₀ →
      ∀ k, J k .idle (g₀.stores k) g₀.shared) : Simulated (machine settings) J g := by
  obtain ⟨g₀, h₀, hreach⟩ := hreach
  exact hreach.simulated (fun k r l s _ => Request.follows settings k r l)
    (machine_preserved settings assumes) keeps (h₀.simulated (hfresh g₀ h₀))

end AfterSales
