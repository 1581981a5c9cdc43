import AfterSales.Application.Invariant

/-! The operations follow the machine, first part: runs, investigations and their failure.

    Each function has one lemma: from which phase it goes to which one. The serial of the run is
    carried along, since the events of the run name it also after the run has ended. A function that
    raises leaves its call idle or stranded; an investigation that raises leaves a phase in which its
    case can be parked. -/

set_option linter.unusedSectionVars false

namespace AfterSales
open Interleave Repository

variable [PolicyDigest] [ProofDigest] [ResultDigest] [IdText] [TraceVolume] [FactDigest]
  [CaseFolding] [EvidenceDigest] [MessageRedaction]

variable {settings : Settings} {k : String} {l : ConversationStore} {s : SharedState}
  {caseId runId : RowId} {f : CaseFolder} {row : RunRow} {γ γ' : Phase} {α β : Type}

/-- A call that raised has nothing left to be done, or is stranded. -/
def Failed (e : ServiceError) (γ : Phase) (_ : ConversationStore) : Prop :=
  (γ = .idle ∧ e.isApplication) ∨ γ = .stranded

/-- The phase is reached, and the run is one of the conversation. -/
def Leads (runId : RowId) (γ : Phase) (_ : α) (γ' : Phase) (l : ConversationStore) : Prop :=
  γ' = γ ∧ runId.serial < l.nextSerial

/-! ### Rules -/

variable {P : α → Phase → ConversationStore → Prop} {E : ServiceError → Phase → ConversationStore → Prop}

/-- Go on from the phase that is reached. -/
theorem Leads.next {x : Service β} {next : β → Service α}
    (h : Runs (machine settings k) (Leads runId γ') E x γ l)
    (hnext : ∀ b l', runId.serial < l'.nextSerial →
      Runs (machine settings k) P E (next b) γ' l') :
    Runs (machine settings k) P E (x >>= next) γ l := by
  refine Runs.bind (h.mono ?_ fun _ _ _ he => he)
  rintro b δ l' ⟨rfl, hl'⟩
  exact hnext b l' hl'

/-- An event that tells nothing of a case. -/
theorem emit_note {e : ServiceEvent} (silent : e.caseId = none ∨ e.customerDisposition = none)
    (ordinary : e.eventType ≠ "agent_turn_started") (own : ∀ r ∈ e.runId, r = runId)
    (known : runId.serial < l.nextSerial) :
    Runs (machine settings k) (Leads runId γ) E (Service.emit e) γ l :=
  Runs.transaction_ok fun s _ => ⟨(), γ, l.logged [e], s, rfl,
    .note e silent ordinary fun r hr => own r hr ▸ known, rfl, known⟩

/-- An event that tells the customer of a case. -/
theorem emit_tell {e : ServiceEvent} {d : CustomerDisposition} (tells : γ.Tells caseId d γ')
    (about : e.caseId = some caseId) (carries : e.customerDisposition = some d)
    (visible : e.visibility ≠ .developer) (ordinary : e.eventType ≠ "agent_turn_started")
    (own : ∀ r ∈ e.runId, r = runId) (known : runId.serial < l.nextSerial) :
    Runs (machine settings k) (Leads runId γ') E (Service.emit e) γ l :=
  Runs.transaction_ok fun s _ => ⟨(), γ', l.logged [e], s, rfl,
    .tell e about carries visible ordinary (fun r hr => own r hr ▸ known) tells, rfl, known⟩

/-- A run in a phase that has one is a run of the conversation. -/
theorem RunOpen.known {co : Option RowId} {q : RunState} (h : RunOpen l runId co q row)
    (hinv : StoreInv k l) : runId.serial < l.nextSerial := (hinv.runs runId row h.stored).1

/-- A step after which nothing has changed. -/
theorem look_ok {label : Label} {t : Tx α} (kind : label.looks)
    (h : ∀ s, (machine settings k).inv γ l s → ∃ a, t (l, s) = .ok (a, (l, s)) ∧ P a γ l) :
    Runs (machine settings k) P E (Service.transaction label t) γ l := by
  refine Runs.transaction_ok fun s hinv => ?_
  obtain ⟨a, ht, hP⟩ := h s hinv
  exact ⟨a, γ, l, s, ht, .look kind, hP⟩

/-! ### The life of a run -/

/-- What an update makes of a run that is under way. -/
theorem RunOpen.ends {co : Option RowId} {runState : RunState} {turns reads : Option Nat}
    {failureCode : Option String} (h : RunOpen l runId co .running row)
    (hstate : runState = .succeeded ∧ failureCode = none ∨
      runState = .failed ∧ ∃ code, failureCode = some code ∧ code ≠ "")
    (hturns : turns.getD 0 ≤ 8) (hreads : reads.getD 0 ≤ 6) :
    row.update runState turns reads failureCode =
      .ok (row.ended runState (turns.getD 0) (reads.getD 0) failureCode) := by
  unfold RunRow.update RunRow.ended
  rw [h.runState, h.turns, h.reads]
  rcases hstate with ⟨rfl, rfl⟩ | ⟨rfl, code, rfl, hcode⟩
  · simp [runTransitions, Nat.not_lt.mpr hturns, Nat.not_lt.mpr hreads]
  · simp [runTransitions, Nat.not_lt.mpr hturns, Nat.not_lt.mpr hreads, hcode]

/-- What an update makes of a run that was queued. -/
theorem RunOpen.starts {co : Option RowId} (h : RunOpen l runId co .queued row) :
    row.update .running none none none = .ok row.started := by
  unfold RunRow.update RunRow.started
  simp [h.runState, h.turns, h.reads, runTransitions]

/-- A run starts in the phases that have a queued one. -/
theorem Phase.Starts.run (h : γ.Starts runId γ') (hγ : γ.Inv l) :
    ∃ co row, RunOpen l runId co .queued row := by
  cases h with
  | noted => exact ⟨_, hγ.1⟩
  | replying => exact ⟨_, hγ.1⟩
  | reviewing => exact ⟨_, hγ.1⟩
  | working => exact ⟨_, hγ.1⟩
  | executing => exact ⟨_, hγ.1⟩

theorem Phase.Refusable.run (h : γ.Refusable runId) (hγ : γ.Inv l) :
    ∃ co row, RunOpen l runId co .running row := by
  cases h with
  | noted => exact ⟨_, hγ.1⟩
  | replying => exact ⟨_, hγ.1⟩
  | reviewing => exact ⟨_, hγ.1⟩

/-- `_start_run`. -/
theorem startRun_runs {co : Option RowId} (starts : γ.Starts runId γ') :
    Runs (machine settings k) (Leads runId γ') E (Service.startRun runId co) γ l := by
  refine Leads.next (Runs.transaction_ok (P := Leads runId γ') fun s hinv => ?_)
    fun _ l' hl' => emit_note (Or.inr rfl) (by simp) (by simp) hl'
  obtain ⟨co', row, hopen⟩ := starts.run hinv.2.1
  exact ⟨(), γ', _, s, updateRun_ok (x := (l, s)) hopen.stored hopen.starts,
    .begin starts hopen.stored, rfl, hopen.known hinv.1⟩

/-- `_fail_run`, for a run that has done nothing yet. -/
theorem failRun_refuses {co : Option RowId} {failureCode eventType : String}
    (refusable : γ.Refusable runId) (hcode : failureCode ≠ "")
    (ordinary : eventType ≠ "agent_turn_started") :
    Runs (machine settings k) (Leads runId .idle) E
      (Service.failRun runId co failureCode eventType) γ l := by
  refine Leads.next (Runs.transaction_ok (P := Leads runId .idle) fun s hinv => ?_)
    fun _ l' hl' => emit_note (Or.inr rfl) ordinary (by simp) hl'
  obtain ⟨co', row, hopen⟩ := refusable.run hinv.2.1
  exact ⟨(), .idle, _, s, updateRun_ok (x := (l, s)) hopen.stored
      (hopen.ends (Or.inr ⟨rfl, failureCode, rfl, hcode⟩) (Nat.zero_le _) (Nat.zero_le _)),
    .refuse refusable hopen.stored hcode, rfl, hopen.known hinv.1⟩

/-- `_fail_run`, for a run whose case was parked. -/
theorem failRun_parked {turns reads : Nat} {failureCode eventType : String}
    (hcode : failureCode ≠ "") (ordinary : eventType ≠ "agent_turn_started") :
    Runs (machine settings k) (Leads runId .idle) E
      (Service.failRun runId (some caseId) failureCode eventType (some turns) (some reads))
      (.parked runId caseId turns reads) l := by
  refine Leads.next (Runs.transaction_ok (P := Leads runId .idle) fun s hinv => ?_)
    fun _ l' hl' => emit_note (Or.inr rfl) ordinary (by simp) hl'
  obtain ⟨⟨row, hopen⟩, -, hturns, hreads⟩ := hinv.2.1
  exact ⟨(), .idle, _, s, updateRun_ok (x := (l, s)) hopen.stored
      (hopen.ends (Or.inr ⟨rfl, failureCode, rfl, hcode⟩) hturns hreads),
    .fail hopen.stored hcode, rfl, hopen.known hinv.1⟩

/-! ### Changes of a case -/

/-- Storing a run that is stored changes nothing. -/
theorem ConversationStore.setRun_same (h : l.runs runId = some row) : l.setRun runId row = l := by
  have hsame : Function.update l.runs runId (some row) = l.runs := by
    rw [← h, Function.update_eq_self]
  rw [ConversationStore.setRun, hsame]

/-- `update_case` under the revision just read, when the row it leaves is in order. -/
theorem changeCase_ok {x : ServiceState} {u : CaseUpdate} (hf : x.1.folders caseId = some f)
    (hopen : f.row.caseState ≠ .closed) (hclosing : (f.row.updated u).Closing)
    (hbudget : (f.row.updated u).WithinBudget) :
    Service.changeCase caseId u x = .ok ((), (x.1.putCase caseId (f.updated u), x.2)) := by
  rw [Service.changeCase, Transaction.bind_ok (requireCase_ok hf)]
  refine updateCase_ok hf ?_
  unfold CaseRow.update
  rw [if_neg (by simp), if_neg hopen, if_neg (not_not_intro hclosing),
    if_neg (not_not_intro hbudget)]

/-- The run of a pass that returned succeeds. -/
theorem finishRun_ok {x : ServiceState} {output : InvestigationOutput} {co : Option RowId}
    (h : RunOpen x.1 runId co .running row) (hturns : output.planningTurns ≤ 8)
    (hreads : output.runReadToolExecutions ≤ 6) :
    Service.finishRun runId output x = .ok ((), (x.1.setRun runId (row.finished output), x.2)) :=
  updateRun_ok h.stored (h.ends (Or.inl ⟨rfl, rfl⟩) hturns hreads)

/-- A run without a pass succeeds. -/
theorem succeedRun_ok {x : ServiceState} {co : Option RowId}
    (h : RunOpen x.1 runId co .running row) : updateRun runId .succeeded none none none x =
      .ok ((), (x.1.setRun runId (row.ended .succeeded 0 0 none), x.2)) :=
  updateRun_ok h.stored (h.ends (Or.inl ⟨rfl, rfl⟩) (Nat.zero_le _) (Nat.zero_le _))

/-! ### An investigation that raises -/

/-- The run of a phase with a pass, and its case. -/
theorem Phase.Passing.run {pass : Nat} (h : γ.Passing runId caseId pass) (hγ : γ.Inv l) :
    (∃ row, RunOpen l runId (some caseId) .running row) ∧ ∃ f, l.folders caseId = some f := by
  cases h with
  | replying => exact ⟨hγ.1, hγ.2.1.elim fun f hf => ⟨f, hf.1⟩⟩
  | working => exact ⟨hγ.1, hγ.2.1.elim fun f hf => ⟨f, hf.1⟩⟩
  | exploring => exact ⟨hγ.1, hγ.2.1.elim fun f hf => ⟨f, hf.1⟩⟩

/-- The case of an investigation that raised is parked, and its run fails. -/
theorem failInvestigation_runs {pass : Nat} {failureCode : String}
    (passing : γ.Passing runId caseId pass) (hcode : failureCode ≠ "") :
    Runs (machine settings k) P Failed
      (Service.failInvestigation (α := α) caseId runId pass failureCode) γ l := by
  refine Runs.bind (Runs.transaction_ok fun s hinv => ?_)
  obtain ⟨⟨row, hopen⟩, f, hf⟩ := passing.run hinv.2.1
  have hmove : CaseMove settings caseId runId l s f row _ γ false _ s _ row := .park passing
  have hfolder := hmove.folderInv (hinv.1.folders caseId f hf).2.2 hf hinv.2.1
  have hchange := changeCase_ok (x := (l, s)) hf
    (hmove.isOpen (hinv.1.folders caseId f hf).2.2 hf hinv.2.1) hfolder.closing hfolder.budget
  refine ⟨(l.observedTurns runId, f.readsOfRun runId), _, _, s, ?_, .change hf hopen.stored hmove, ?_⟩
  · rw [Service.parkCase, Transaction.bind_ok (requireCase_ok (x := (l, s)) hf),
      Transaction.bind_ok rfl, Transaction.bind_ok hchange]
    rw [ConversationStore.setRun_same (by exact hopen.stored)]
    rfl
  · refine Leads.next (failRun_parked hcode (by decide)) fun _ l' _ => ?_
    exact Runs.throw (Or.inl ⟨rfl, rfl⟩)

/-! ### An investigation -/

/-- The history that a pass reads is stored, and it begins. -/
theorem startInvestigation_runs {pass turns number : Nat} {args : InvestigateArguments}
    (begins : γ.Begins runId caseId pass turns number) (hargs : args.runPlanningTurns = turns)
    (hnumber : args.investigationPass = number)
    (hrevised : pass ≠ 0 → args.investigationPass ≠ 0) :
    Runs (machine settings k)
      (fun started γ' _ => γ' = .exploring runId caseId pass started .agent
        (initialState started.trusted started.history started.budget))
      E (Service.transaction (.explore caseId runId args.investigationPass)
        (Service.startInvestigation settings caseId runId args)) γ l := by
  subst hnumber
  refine Runs.segment fun s hinv => ?_
  have hpassing : γ.Passing runId caseId pass := by
    cases begins with
    | replying => exact .replying
    | working => exact .working _ _
  obtain ⟨-, f, hf⟩ := hpassing.run hinv.2.1
  let history := investigationHistory l s caseId runId f
  let args' : InvestigateArguments := { args with
    casePlanningTurns := f.row.agentPlanningTurnCount
    caseReadExecutions := f.row.actualReadToolExecutionCount }
  have hturns : args.runPlanningTurns ≤ 8 := by
    rw [hargs]
    cases begins with
    | replying => omega
    | working => exact hinv.2.1.2.2.2
  obtain ⟨budget, hbudget⟩ : ∃ budget, initialBudget args' history = some budget :=
    (hinv.1.folders caseId f hf).2.2.initialBudget hturns
  have hfrom : StartedFrom settings runId caseId pass turns args.investigationPass l s f
      ⟨f.row.trusted settings s caseId runId, args', history, budget⟩ :=
    ⟨rfl, rfl, rfl, rfl, hargs, rfl, hrevised, hbudget⟩
  refine ⟨.ok _, _, _, s, Transaction.commit_ok ?_, .start begins hf hfrom, rfl⟩
  rw [Service.startInvestigation, Transaction.bind_ok (requireCase_ok (x := (l, s)) hf),
    Transaction.bind_ok rfl, Transaction.bind_ok rfl, Transaction.bind_ok rfl]
  rw [hbudget]
  rfl

/-- The rows and the cache that a superstep leaves. -/
theorem storeReads_ok {reads : List CallRecord} {cache : CaseToolCache}
    (hf : l.folders caseId = some f) : Service.storeReads caseId runId reads cache (l, s) =
      .ok ((), ((l.setFolder caseId { f with
        toolCalls := f.toolCalls ++ reads.map (⟨runId, ·⟩) }).cached caseId cache, s)) := by
  rw [Service.storeReads, Transaction.bind_ok (requireCase_ok (x := (l, s)) hf),
    Transaction.bind_ok rfl, Transaction.bind_ok rfl]
  rfl

/-- The graph run, by induction on the supersteps that are left. -/
theorem runGraph_runs {pass : Nat} {started : Service.StartedInvestigation}
    {selector : Nat → ObservationSelector} (n : Nat) (node : GraphNode) (is : InvestigationState) :
    Runs (machine settings k)
      (fun is' γ' _ => γ' = .exploring runId caseId pass started .finished is')
      (fun _ γ' _ => γ'.Passing runId caseId pass)
      (Service.runGraph started.trusted caseId runId selector n node is)
      (.exploring runId caseId pass started node is) l := by
  induction n generalizing node is l with
  | zero =>
    cases node with
    | finished => exact Runs.pure rfl
    | agent => exact Runs.throw (.exploring _ _ _ _)
    | tools tool arguments => exact Runs.throw (.exploring _ _ _ _)
    | budgetExhausted => exact Runs.throw (.exploring _ _ _ _)
  | succ n ih =>
    by_cases hfinished : node = .finished
    · subst hfinished
      exact Runs.pure rfl
    · rw [Service.runGraph_succ n hfinished]
      refine Runs.bind (Runs.transaction_ok fun s hinv => ?_)
      obtain ⟨-, ⟨f, hf, -⟩, -⟩ := hinv.2.1
      cases hstep : InvestigationGraph.step s.catalog started.trusted (selector (n + 1)) node is with
      | error e =>
        refine ⟨.error e, _, _, s, ?_, .stumble (selector (n + 1)) hstep,
          Runs.throw (.exploring _ _ _ _)⟩
        rw [Service.superstep, Transaction.bind_ok rfl, Transaction.bind_ok rfl, hstep]
        exact (Transaction.bind_ok rfl).trans rfl
      | ok stepped =>
        obtain ⟨next, is'⟩ := stepped
        refine ⟨.ok (next, is'), _, _, s, ?_, .superstep (selector (n + 1)) hf hstep, ih next is'⟩
        rw [Service.superstep, Transaction.bind_ok rfl, Transaction.bind_ok rfl, hstep]
        exact (Transaction.bind_ok (storeReads_ok (l := l.logged _) hf)).trans rfl

/-- The gate of a finished graph is evaluated, or resumed. -/
theorem evaluateRun_runs {pass : Nat} {started : Service.StartedInvestigation}
    {is : InvestigationState} :
    Runs (machine settings k)
      (fun output γ' _ => γ' = .answered runId caseId pass output false)
      (fun _ γ' _ => γ'.Passing runId caseId pass)
      (Service.transaction .evaluate (Service.evaluateRun caseId runId started is))
      (.exploring runId caseId pass started .finished is) l := by
  refine Runs.transaction_ok fun s hinv => ?_
  obtain ⟨⟨row, hopen⟩, -⟩ := hinv.2.1
  by_cases hresumed : started.history.persistedGate.isSome ∧ started.args.investigationPass = 0 ∧
      is.coordinator.records.length = started.history.runRecords.length
  · refine ⟨Service.outputOf s started is, _, l, s, ?_, .resumeGate hresumed.1 hresumed.2.1 hresumed.2.2,
      rfl⟩
    rw [Service.evaluateRun, Transaction.bind_ok rfl]
    simp only [if_pos hresumed]
    rfl
  · refine ⟨Service.outputOf s started is, _, _, s, ?_, .evaluate hopen.stored, rfl⟩
    rw [Service.evaluateRun, Transaction.bind_ok rfl]
    simp only [if_neg hresumed]
    rw [Transaction.bind_ok rfl, Transaction.bind_ok (require_ok hopen.stored),
      Transaction.bind_ok rfl, Transaction.bind_ok rfl]
    rfl

/-- `investigate` as the operations call it: it answers, or leaves the call with nothing to do. -/
theorem investigateOrFail_runs {pass turns number : Nat} {selector : Nat → ObservationSelector}
    {args : InvestigateArguments} {failureCode : String} {loads : Service Unit}
    (begins : γ.Begins runId caseId pass turns number) (hargs : args.runPlanningTurns = turns)
    (hnumber : args.investigationPass = number)
    (hrevised : pass ≠ 0 → args.investigationPass ≠ 0) (hcode : failureCode ≠ "")
    (hloads : Runs (machine settings k) (fun _ γ' _ => γ' = γ) (fun _ γ' _ => γ' = γ) loads γ l) :
    Runs (machine settings k) (fun output γ' _ => γ' = .answered runId caseId pass output false)
      Failed
      (Service.investigateOrFail settings caseId runId pass selector args failureCode loads) γ l := by
  have hpassing : γ.Passing runId caseId pass := by
    cases begins with
    | replying => exact .replying
    | working => exact .working _ _
  have hcase : ∀ l', Runs (machine settings k)
      (fun output γ' _ => γ' = .answered runId caseId pass output false)
      (fun _ γ' _ => γ'.Passing runId caseId pass)
      (Service.investigateCase settings caseId runId selector args) γ l' := by
    intro l'
    refine Runs.bind ((startInvestigation_runs begins hargs hnumber hrevised).mono ?_ fun _ _ _ he => he)
    rintro started γ₁ l₁ rfl
    refine Runs.bind ((runGraph_runs _ _ _).mono ?_ fun _ _ _ he => he)
    rintro is γ₂ l₂ rfl
    exact evaluateRun_runs
  refine Runs.tryCatch (Runs.mono (fun _ _ _ h => h)
    (fun e γ' l' (hfail : γ'.Passing runId caseId pass) =>
      failInvestigation_runs hfail hcode) ?_)
  refine Runs.bind (hloads.mono ?_ ?_)
  · rintro _ γ' l' rfl
    exact hcase l'
  · rintro _ γ' l' rfl
    exact hpassing

/-! ### The result of an investigation -/

/-- A reply that tells of a settled case, and the success of its run. -/
theorem replyAndSuccess_runs {d : CustomerDisposition} (known : runId.serial < l.nextSerial) :
    Runs (machine settings k) (Leads runId (.reported caseId d)) E
      (Service.emitCustomerReplyAndRunSuccess runId (some caseId) d) (.settled caseId d) l :=
  Leads.next (emit_tell .settled rfl rfl (by simp) (by simp) (by simp) known)
    fun _ l' hl' => emit_note (Or.inr rfl) (by simp) (by simp) hl'

/-- An event of a case that carries what the customer is to know. -/
theorem emitCase_tells {d : CustomerDisposition} {eventType : String}
    (tells : γ.Tells caseId d γ') (ordinary : eventType ≠ "agent_turn_started")
    (known : runId.serial < l.nextSerial) :
    Runs (machine settings k) (Leads runId γ') E
      (Service.emitCase eventType runId caseId (some d)) γ l :=
  emit_tell tells rfl rfl (by simp) ordinary (by simp) known

/-- An event of a case that tells nothing. -/
theorem emitCase_notes {eventType : String} (ordinary : eventType ≠ "agent_turn_started")
    (known : runId.serial < l.nextSerial) :
    Runs (machine settings k) (Leads runId γ) E (Service.emitCase eventType runId caseId) γ l :=
  emit_note (Or.inr rfl) ordinary (by simp) known

theorem emitRunSucceeded_runs {co : Option RowId} (known : runId.serial < l.nextSerial) :
    Runs (machine settings k) (Leads runId γ) E (Service.emitRunSucceeded runId co) γ l :=
  emit_note (Or.inr rfl) (by simp) (by simp) known

section Settle

variable {pass : Nat} {output : InvestigationOutput}

/-- What the transactions that end a pass have in common. -/
theorem settle_ok {u : CaseUpdate} {d : CustomerDisposition}
    (hinv : (machine settings k).inv (.answered runId caseId pass output true) l s)
    (move : ∀ f row, l.folders caseId = some f → CaseMove settings caseId runId l s f row
      (.settle caseId runId pass) (.answered runId caseId pass output true) false
      (.settled caseId d) s (f.updated (Service.withUsage output u)) (row.finished output)) :
    ∃ l', (do
        Service.changeCase caseId (Service.withUsage output u)
        Service.finishRun runId output : Tx Unit) (l, s) = .ok ((), (l', s)) ∧
      (machine settings k).move (.settle caseId runId pass)
        (.answered runId caseId pass output true) (l, s) (.settled caseId d) (l', s) ∧
      runId.serial < l'.nextSerial := by
  obtain ⟨hstore, hγ, -⟩ := hinv
  obtain ⟨⟨row, hopen⟩, ⟨f, hf, -⟩, -, hturns, -, -, hreads, -⟩ := id hγ
  have hmove := move f row hf
  have hfolder := hmove.folderInv (hstore.folders caseId f hf).2.2 hf hγ
  have hchange := changeCase_ok (x := (l, s)) hf
    (hmove.isOpen (hstore.folders caseId f hf).2.2 hf hγ) hfolder.closing hfolder.budget
  refine ⟨_, ?_, .change hf hopen.stored hmove, hopen.known hstore⟩
  rw [Transaction.bind_ok hchange]
  exact finishRun_ok (x := (l.putCase caseId _, s)) { hopen with } hturns hreads

/-- `_close_after_investigation`. -/
theorem closeAfterInvestigation_runs {caseOutcome : CaseOutcome} {reasonCode : String}
    (hreason : reasonCode ≠ "") :
    Runs (machine settings k) (fun _ γ' _ => ∃ d, γ' = .reported caseId d) E
      (Service.closeAfterInvestigation caseId runId pass output caseOutcome reasonCode)
      (.answered runId caseId pass output true) l := by
  refine Leads.next (Runs.transaction_ok fun s hinv => ?_) fun _ l₁ h₁ =>
    Leads.next (replyAndSuccess_runs h₁) fun _ l₂ h₂ =>
    (emitCase_tells .reported (by simp) h₂).mono (fun _ _ _ h => ⟨_, h.1⟩) fun _ _ _ he => he
  obtain ⟨l', ht, hmove, hknown⟩ := settle_ok hinv fun f row _ =>
    .close caseOutcome reasonCode hreason
  exact ⟨(), _, l', s, ht, hmove, rfl, hknown⟩

/-- The branch of a gate that retries later. -/
theorem retryLater_runs (hdecision : output.gateResult.outcome = .decision .retryLater) :
    Runs (machine settings k) (fun _ γ' _ => ∃ d, γ' = .reported caseId d) E
      (Service.retryLater caseId runId pass output) (.answered runId caseId pass output true) l := by
  refine Leads.next (Runs.transaction_ok fun s hinv => ?_) fun _ l₁ h₁ =>
    (replyAndSuccess_runs h₁).mono (fun _ _ _ h => ⟨_, h.1⟩) fun _ _ _ he => he
  obtain ⟨l', ht, hmove, hknown⟩ := settle_ok hinv fun f row _ => .wait hdecision
  exact ⟨(), _, l', s, ht, hmove, rfl, hknown⟩

/-- The question of a clarification: it is asked, known or refused, and the case stays as it is. -/
theorem askLocation_runs {count : Nat}
    (hcount : ∃ f, l.folders caseId = some f ∧ f.row.businessClarificationCount = count) :
    Runs (machine settings k)
      (fun _ γ' l' => γ' = .answered runId caseId pass output true ∧
        ∃ f, l'.folders caseId = some f ∧ f.row.businessClarificationCount = count) E
      (Service.askLocation caseId) (.answered runId caseId pass output true) l := by
  refine Runs.tryCatch (Runs.segment fun s hinv => ?_)
  obtain ⟨f, hf, hf'⟩ := hcount
  have houtcome : CaseFactService.Outcome l s caseId f
      (Service.askQuestionAboutLocation caseId) :=
    .load hf (hinv.1.folders caseId f hf).2.2.history fun before _ =>
      (CaseFactService.recordQuestion_outcome hf
        (hinv.1.folders caseId f hf).2.2.history).map fun asked => some (before, asked.2)
  cases houtcome with
  | refused e result cause =>
    refine ⟨.error (.caseFact e), _, l, s, Transaction.commit_error result,
      .load (.inl rfl) (.answered _ _ _ true), ?_⟩
    have hrecover : Service.recoverable (.caseFact e) = true := by
      cases e with
      | rejected => rfl
      | integrity => rfl
      | validation => exact absurd rfl cause
    simp only [Ends, hrecover, if_true]
    exact Runs.pure ⟨rfl, f, hf, hf'⟩
  | unchanged a result =>
    exact ⟨.ok a, _, l, s, Transaction.commit_ok result, .load (.inl rfl) (.answered _ _ _ true),
      rfl, f, hf, hf'⟩
  | stepped a f' result step =>
    exact ⟨.ok a, _, _, s, Transaction.commit_ok result,
      .facts (.inr (.inl rfl)) (.answered _ _ _ true) hf step fun _ => rfl, rfl, f',
      ConversationStore.setFolder_self .., step.row ▸ hf'⟩

/-- The branch of a gate that asks the customer. -/
theorem requestClarification_runs
    (hdecision : output.gateResult.outcome = .decision .requestBusinessClarification) :
    Runs (machine settings k) (fun _ γ' _ => ∃ d, γ' = .reported caseId d) E
      (Service.requestClarification caseId runId pass output)
      (.answered runId caseId pass output true) l := by
  refine Runs.bind (look_ok rfl fun s hinv => ?_)
  obtain ⟨-, ⟨f, hf, -⟩, -⟩ := hinv.2.1
  refine ⟨f, requireCase_ok (x := (l, s)) hf, ?_⟩
  split
  · exact closeAfterInvestigation_runs (by decide)
  rename_i hcount
  refine Runs.bind ((askLocation_runs ⟨f, hf, rfl⟩).mono ?_ fun _ _ _ he => he)
  rintro asked γ₁ l₁ ⟨rfl, f₁, hf₁, hsame⟩
  split
  · exact closeAfterInvestigation_runs (by decide)
  · refine Leads.next (Runs.transaction_ok fun s hinv => ?_) fun _ l₂ h₂ =>
      Leads.next (emitCase_tells .settled (by simp) h₂) fun _ l₃ h₃ =>
      (emitRunSucceeded_runs h₃).mono (fun _ _ _ h => ⟨_, h.1⟩) fun _ _ _ he => he
    have hbound : f₁.row.businessClarificationCount + (if asked.any (·.2) then 1 else 0) ≤ 2 := by
      rw [hsame]
      split <;> omega
    obtain ⟨l', ht, hmove, hknown⟩ := settle_ok hinv fun f row hf => .ask _ hbound hdecision
    refine ⟨(), _, l', s, ?_, hmove, rfl, hknown⟩
    rw [Transaction.bind_ok (requireCase_ok (x := (l₁, s)) hf₁)]
    exact ht

/-- A pass that proposes a ticket offers it; nothing is superseded, since nothing is pending. -/
theorem createTicketProposal_ok {binding : PolicyBinding} {snapshot : CaseFactSnapshot}
    (hinv : (machine settings k).inv (.answered runId caseId pass output true) l s)
    (hf : l.folders caseId = some f) (hsnapshot : f.snapshot = some snapshot)
    (hdecision : output.gateResult.outcome = .decision .proposeTicket)
    (hbinding : Service.outputBinding output = some binding) :
    ∃ l', Service.createTicketProposal caseId runId output output.gateResult binding
        (some snapshot.materialIdentity) (l, s) = .ok ([], (l', s)) ∧
      (machine settings k).move (.settle caseId runId pass)
        (.answered runId caseId pass output true) (l, s)
        (.settled caseId (Service.gateDisposition output.gateResult)) (l', s) ∧
      runId.serial < l'.nextSerial := by
  obtain ⟨hstore, hγ, -⟩ := hinv
  obtain ⟨⟨row, hopen⟩, ⟨g, hg, hstate, -⟩, -, hturns, -, -, hreads, -⟩ := id hγ
  rw [hf] at hg
  obtain rfl := Option.some.inj hg
  obtain ⟨-, -, hfolder⟩ := hstore.folders caseId f hf
  obtain ⟨-, hdropped, -⟩ := hfolder.stage.of_pass hstate
  have hmove : CaseMove settings caseId runId l s f row (.settle caseId runId pass)
      (.answered runId caseId pass output true) true
      (.settled caseId (Service.gateDisposition output.gateResult)) s _ (row.finished output) :=
    .propose binding snapshot hdecision hbinding hsnapshot
  have hnew := hmove.folderInv hfolder hf hγ
  refine ⟨_, ?_, .change hf hopen.stored hmove, (hopen.known hstore).trans (Nat.lt_succ_self _)⟩
  have hpending : (f.proposals.filter (·.proposalState = .pendingConfirmation)).map (·.proposalId)
      = [] := by
    rw [List.map_eq_nil_iff, List.filter_eq_nil_iff]
    intro p hp
    simpa using (hdropped p hp).1
  let proposal := proposalOf caseId l s f output binding snapshot
  have hcreate : createProposal proposal (l.tick, s) =
      .ok ((), (l.tick.setFolder caseId { f with proposals := f.proposals ++ [proposal] }, s)) := by
    refine createProposal_ok (x := (l.tick, s)) hf fun p hp => ⟨?_, ?_, (hdropped p hp).1⟩
    · intro heq
      have hserial := (hfolder.proposalCase p hp).2
      rw [heq] at hserial
      exact lt_irrefl _ hserial
    · have hversion : p.version ∈ List.range' 1 f.proposals.length :=
        hfolder.versions ▸ List.mem_map_of_mem hp
      have hnext : proposal.version = f.proposals.length + 1 := nextVersion_eq hfolder.versions
      rw [hnext]
      rw [List.mem_range'_1] at hversion
      omega
  have hchange := changeCase_ok
    (x := (l.tick.setFolder caseId { f with proposals := f.proposals ++ [proposal] }, s))
    (ConversationStore.setFolder_self ..) (passStates_open hstate) hnew.closing hnew.budget
  rw [Service.createTicketProposal, Transaction.bind_ok (requireCase_ok (x := (l, s)) hf),
    Transaction.bind_ok rfl, Transaction.bind_ok (show newSerial (l, s) = .ok (l.nextSerial, (l.tick, s)) from rfl)]
  simp only [hpending]
  have hnothing : ([] : List ProposalId).forM
      (fun previous => updateProposalState previous .superseded (some ⟨caseId, l.nextSerial⟩))
        (l.tick, s) = .ok ((), (l.tick, s)) := rfl
  refine (Transaction.bind_ok hnothing).trans ((Transaction.bind_ok hcreate).trans
    ((Transaction.bind_ok hchange).trans
      ((Transaction.bind_ok (finishRun_ok { hopen with } hturns hreads)).trans ?_)))
  rw [ConversationStore.setFolder_putCase]
  rfl

/-- The branch of a gate that proposes a ticket. -/
theorem proposeTicket_runs {binding : PolicyBinding} {snapshot : CaseFactSnapshot}
    (hsnapshot : ∃ f, l.folders caseId = some f ∧ f.snapshot = some snapshot)
    (hdecision : output.gateResult.outcome = .decision .proposeTicket)
    (hbinding : Service.outputBinding output = some binding) :
    Runs (machine settings k) (fun _ γ' _ => ∃ d, γ' = .reported caseId d) E
      (Service.proposeTicket caseId runId pass output output.gateResult binding (some snapshot))
      (.answered runId caseId pass output true) l := by
  refine Runs.bind (Runs.transaction_ok fun s hinv => ?_)
  obtain ⟨f, hf, hsnapshot⟩ := hsnapshot
  obtain ⟨l', ht, hmove, hknown⟩ := createTicketProposal_ok hinv hf hsnapshot hdecision hbinding
  refine ⟨[], _, l', s, ht, hmove, ?_⟩
  refine Leads.next (emit_note (Or.inr rfl) (by simp) (by simp) hknown) fun _ l₁ h₁ => ?_
  refine Runs.bind (Runs.pure ?_)
  refine Leads.next (emit_tell .settled rfl rfl (by simp) (by simp) (by simp) h₁) fun _ l₂ h₂ => ?_
  exact Leads.next (emitCase_tells .reported (by simp) h₂) fun _ l₃ h₃ =>
    (emitRunSucceeded_runs h₃).mono (fun _ _ _ h => ⟨_, h.1⟩) fun _ _ _ he => he

/-- The branches of a normal decision. -/
theorem applyDecision_runs {snapshot : CaseFactSnapshot} {decision : EvidenceGateDecision}
    (hsnapshot : ∃ f, l.folders caseId = some f ∧ f.snapshot = some snapshot)
    (hdecision : output.gateResult.outcome = .decision decision)
    (hreason : output.gateResult.reasonCode ≠ "") :
    Runs (machine settings k) (fun _ γ' _ => ∃ d, γ' = .reported caseId d) E
      (Service.applyDecision caseId runId pass output output.gateResult (some snapshot) decision)
      (.answered runId caseId pass output true) l := by
  cases decision with
  | proposeTicket =>
    unfold Service.applyDecision
    cases hbinding : Service.outputBinding output with
    | some binding => exact proposeTicket_runs hsnapshot hdecision hbinding
    | none => exact closeAfterInvestigation_runs (by decide)
  | requestBusinessClarification => exact requestClarification_runs hdecision
  | retryLater => exact retryLater_runs hdecision
  | requireHumanSupport => exact closeAfterInvestigation_runs hreason
  | completeNoAction => exact closeAfterInvestigation_runs hreason

/-- The snapshot is refreshed before a result is applied; its history is never broken. -/
theorem refreshOrNone_runs :
    Runs (machine settings k)
      (fun refreshed γ' l' => γ' = .answered runId caseId pass output true ∧
        output.gateResult.Reasoned ∧ ∃ snapshot, refreshed = some snapshot ∧
          ∃ f, l'.folders caseId = some f ∧ f.snapshot = some snapshot) E
      (Service.refreshOrNone caseId) (.answered runId caseId pass output false) l := by
  refine Runs.tryCatch (Runs.transaction_ok fun s hinv => ?_)
  obtain ⟨hstore, ⟨-, ⟨f, hf, -⟩, -, -, -, -, -, hreasoned⟩, -⟩ := hinv
  have hhistory := (hstore.folders caseId f hf).2.2.history
  obtain ⟨snapshot, hr, hrefresh⟩ := CaseFactService.refreshSnapshot_ok (s := s) hf hhistory
  exact ⟨some snapshot, _, _, s, Transaction.bind_ok hrefresh,
    .facts (Or.inl rfl) (.answered _ _ _ false) hf (CaseFactService.FactStep.refreshed hhistory hr)
      (absurd rfl), rfl, hreasoned, snapshot, rfl, _, ConversationStore.setFolder_self .., rfl⟩

/-- `_apply_investigation_result`, when what continues under a revised issue follows the machine. -/
theorem applyInvestigationResult_runs {revise : Option (IssueType → Service Unit)}
    (hrevise : ∀ continueWith ∈ revise, ∀ intent,
      output.gateResult.outcome = .revision intent → ∀ issueType l', Runs (machine settings k)
      (fun _ γ' _ => ∃ d, γ' = .reported caseId d) Failed (continueWith issueType)
      (.answered runId caseId pass output true) l') :
    Runs (machine settings k) (fun _ γ' _ => ∃ d, γ' = .reported caseId d) Failed
      (Service.applyInvestigationResult caseId runId pass revise output)
      (.answered runId caseId pass output false) l := by
  refine Runs.bind (refreshOrNone_runs.mono ?_ fun _ _ _ he => he)
  rintro _ γ₁ l₁ ⟨rfl, hreasoned, snapshot, rfl, hsnapshot⟩
  have hgate : Service.rebuiltGate output.gateResult (some snapshot) = output.gateResult := rfl
  simp only [hgate]
  cases houtcome : output.gateResult.outcome with
  | revision intent =>
    simp only
    cases hissue : intent.issueType with
    | none => exact closeAfterInvestigation_runs (by decide)
    | some issueType =>
      cases revise with
      | none => exact closeAfterInvestigation_runs (by decide)
      | some continueWith => exact hrevise continueWith rfl intent houtcome issueType l₁
  | decision decision => exact applyDecision_runs hsnapshot houtcome hreasoned.reason

end Settle

/-! ### A revised issue -/

/-- The transaction of an issue revision. -/
theorem reviseCase_ok {output : InvestigationOutput} {intent : TriageIntent}
    (hrevision : output.gateResult.outcome = .revision intent) (issueType : IssueType)
    (hinv : (machine settings k).inv (.answered runId caseId 0 output true) l s) :
    ∃ l', Service.reviseCase caseId output issueType (l, s) = .ok ((), (l', s)) ∧
      (machine settings k).move .progress (.answered runId caseId 0 output true) (l, s)
        (.working runId caseId .running 1 output.planningTurns 1) (l', s) ∧
      runId.serial < l'.nextSerial := by
  obtain ⟨hstore, hγ, -⟩ := hinv
  obtain ⟨⟨row, hopen⟩, ⟨f, hf, hstate, -⟩, -⟩ := id hγ
  have hmove : CaseMove settings caseId runId l s f row .progress
      (.answered runId caseId 0 output true) false _ s _ row := .revise issueType intent hrevision
  have hfolder := hmove.folderInv (hstore.folders caseId f hf).2.2 hf hγ
  have hchange := changeCase_ok (x := (l, s)) (u := Service.withUsage output {})
    hf (passStates_open hstate) hfolder.closing hfolder.budget
  refine ⟨_, ?_, .change hf hopen.stored hmove, hopen.known hstore⟩
  have hput : (l.putCase caseId (f.updated (Service.withUsage output {}))).folders caseId = some
      (f.updated (Service.withUsage output {})) := ConversationStore.putCase_self ..
  have happend := appendIssueRevision_ok (x := (l.putCase caseId _, s))
    (some (f.updated (Service.withUsage output {})).row.revision) issueType hput
    (passStates_open hstate) (by simp)
  refine (Transaction.bind_ok hchange).trans ((Transaction.bind_ok (requireCase_ok hput)).trans
    (happend.trans ?_))
  rw [ConversationStore.putCase_setFolder, ConversationStore.setRun_same]
  · rfl
  · exact hopen.stored
  · rfl

/-- A refresh while facts may change. -/
theorem refreshSnapshot_runs (facts : γ.Facts caseId γ) (hstored : ∀ l s,
      (machine settings k).inv γ l s → ∃ f, l.folders caseId = some f) :
    Runs (machine settings k) (fun _ γ' l' => γ' = γ ∧ l'.nextSerial = l.nextSerial) E
      (Service.transaction .progress (CaseFactService.refreshSnapshot caseId)) γ l := by
  refine Runs.transaction_ok fun s hinv => ?_
  obtain ⟨f, hf⟩ := hstored l s hinv
  have hhistory := (hinv.1.folders caseId f hf).2.2.history
  obtain ⟨snapshot, hr, hrefresh⟩ := CaseFactService.refreshSnapshot_ok (s := s) hf hhistory
  exact ⟨snapshot, _, _, s, hrefresh, .facts (Or.inl rfl) facts hf
    (CaseFactService.FactStep.refreshed hhistory hr) fun _ => rfl, rfl, rfl⟩

/-- `_revise_issue_and_continue_investigation`. -/
theorem reviseIssueAndContinue_runs {selector : Nat → ObservationSelector}
    {output : InvestigationOutput} {intent : TriageIntent} {issueType : IssueType}
    (hrevision : output.gateResult.outcome = .revision intent) :
    Runs (machine settings k) (fun _ γ' _ => ∃ d, γ' = .reported caseId d) Failed
      (Service.reviseIssueAndContinue settings caseId runId selector output issueType)
      (.answered runId caseId 0 output true) l := by
  refine Runs.bind (Runs.transaction_ok fun s hinv => ?_)
  obtain ⟨l', ht, hmove, hknown⟩ := reviseCase_ok hrevision issueType hinv
  refine ⟨(), _, l', s, ht, hmove, ?_⟩
  refine Leads.next (emitCase_notes (by decide) hknown) fun _ l₁ _ => ?_
  refine Runs.bind ((investigateOrFail_runs (.working 1 output.planningTurns) rfl rfl (by simp)
    (by decide) ?_).mono ?_ fun _ _ _ he => he)
  · refine Runs.bind ((refreshSnapshot_runs (.working _ _ _) ?_).mono
      (fun _ _ _ h => Runs.pure h.1) fun _ _ _ he => he)
    rintro l₂ s₂ ⟨-, ⟨-, ⟨f, hf, -⟩, -⟩, -⟩
    exact ⟨f, hf⟩
  · rintro revised γ₂ l₂ rfl
    exact applyInvestigationResult_runs (by simp)

/-- The result of the first pass of a run. -/
theorem applyFirstResult_runs {selector : Nat → ObservationSelector}
    {output : InvestigationOutput} :
    Runs (machine settings k) (fun _ γ' _ => ∃ d, γ' = .reported caseId d) Failed
      (Service.applyFirstResult settings caseId runId selector output)
      (.answered runId caseId 0 output false) l := by
  refine applyInvestigationResult_runs ?_
  rintro _ ⟨rfl⟩ intent hrevision issueType l'
  exact reviseIssueAndContinue_runs hrevision

end AfterSales
