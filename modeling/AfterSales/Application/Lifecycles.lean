import AfterSales.Application.RunLifecycle
import AfterSales.Application.StepEffects
import AfterSales.Domain.Transitions

/-! The lifecycles that the operations go through, and the declared ones.

    Runs, proposals and actions change their states as declared. A case takes four edges more: a
    proposal may follow an answer at once, a proposal that is dropped leaves its case waiting for a
    retry, and so does a write that may be repeated, whose retry executes the action again. -/

set_option linter.unusedSectionVars false

namespace AfterSales
open Interleave Repository

variable [PolicyDigest] [ProofDigest] [ResultDigest] [IdText] [TraceVolume] [FactDigest]
  [CaseFolding] [EvidenceDigest] [MessageRedaction]

variable {settings : Settings} {k : String} {l : ConversationStore} {s s' : SharedState}
  {label : Label} {γ γ' : Phase} {x y : ServiceState} {c : RowId} {f f' : CaseFolder}
  {row row' : CaseRow} {g g' : ServiceConfig}

/-! ### Steps of the stored records -/

/-- The records that the declared lifecycles are about. -/
def CaseRow.investigationCase (row : CaseRow) : InvestigationCase :=
  ⟨row.caseState, row.caseOutcome, row.reasonCode⟩

def RunRow.run (row : RunRow) : Run := ⟨row.runState, row.failureCode⟩

def ActionRow.execution (a : ActionRow) : ActionExecution :=
  ⟨a.actionState, a.submittedAt, a.verifiedAt, a.errorCode⟩

/-- The edges of a case that the operations take beside the declared ones. -/
def operationEdges : List (CaseState × CaseState) :=
  [(.awaitingCustomerInput, .awaitingCustomerConfirmation),
    (.awaitingCustomerConfirmation, .awaitingRetry), (.executingAction, .awaitingRetry),
    (.awaitingRetry, .executingAction)]

/-- A case stays as it is, makes a declared transition, or takes an edge of the operations. -/
inductive CaseStep (row row' : CaseRow) : Prop
  | same (same : row'.investigationCase = row.investigationCase)
  | declared (declared : transitionCase row.investigationCase row'.caseState row'.caseOutcome
      row'.reasonCode = some row'.investigationCase)
  | operation (edge : (row.caseState, row'.caseState) ∈ operationEdges)
      (outcome : row'.caseOutcome = none) (reason : row'.reasonCode = none)

/-- A run stays as it is, or makes a declared transition. -/
inductive RunStep (row row' : RunRow) : Prop
  | same (same : row'.run = row.run)
  | declared (declared : transitionRun row.run row'.runState row'.failureCode = some row'.run)

/-- So does a proposal. -/
inductive ProposalStep (p p' : ProposalRow) : Prop
  | same (same : p'.proposalState = p.proposalState)
  | declared (declared : transitionProposal p.proposalState p'.proposalState
      = some p'.proposalState)

/-- An action stays as it is, or takes a declared edge. What the transition computes is stored; a
    submission that is repeated stores its own time. -/
inductive ActionStep (now : Instant) (a a' : ActionRow) : Prop
  | same (same : a'.execution = a.execution)
  | declared (edge : a'.actionState ∈ actionTransitions a.actionState)
      (first : a.actionState ≠ .failedRetryable)
      (computed : ∀ e ∈ transitionAction a.execution a'.actionState now a'.errorCode,
        a'.execution = e)
  | again (failed : a.actionState = .failedRetryable) (submitted : a'.actionState = .submitted)
      (computed : ∀ e ∈ transitionAction a.execution .submitted now a'.errorCode,
        a'.execution = { e with submittedAt := some now })

/-- What becomes of the folder of a case. -/
structure FolderKept (now : Instant) (f f' : CaseFolder) : Prop where
  case_ : CaseStep f.row f'.row
  proposals : ∀ p ∈ f.proposals, ∃ p' ∈ f'.proposals, p'.proposalId = p.proposalId ∧
    ProposalStep p p'
  actions : ∀ a ∈ f.actions, ∃ a' ∈ f'.actions, a'.actionId = a.actionId ∧ ActionStep now a a'

/-- What becomes of the records of a conversation in one step. -/
structure LifecyclesKept (now : Instant) (l l' : ConversationStore) : Prop where
  folders : ∀ c f, l.folders c = some f → ∃ f', l'.folders c = some f' ∧ FolderKept now f f'
  runs : ∀ runId row, l.runs runId = some row → ∃ row', l'.runs runId = some row' ∧
    RunStep row row'

/-! ### Cases -/

/-- A case that is open before and after a step has nothing but its state to change. -/
theorem CaseStep.opens (hclosing : row.Closing) (hopen : row.caseState ≠ .closed)
    (hopen' : row'.caseState ≠ .closed) (houtcome : row'.caseOutcome = row.caseOutcome)
    (hreason : row'.reasonCode = row.reasonCode)
    (hedge : row'.caseState = row.caseState ∨ row'.caseState ∈ caseTransitions row.caseState ∨
      (row.caseState, row'.caseState) ∈ operationEdges) : CaseStep row row' := by
  rw [CaseRow.Closing, if_neg hopen] at hclosing
  rw [hclosing.1] at houtcome
  rw [hclosing.2] at hreason
  rcases hedge with hsame | hdeclared | hoperation
  · refine .same ?_
    rw [CaseRow.investigationCase, CaseRow.investigationCase, hsame, houtcome, hreason,
      hclosing.1, hclosing.2]
  · refine .declared (transitionCase_eq hdeclared ?_)
    rw [InvestigationCase.consistent, if_neg hopen', houtcome, hreason]
    rfl
  · exact .operation hoperation houtcome hreason

/-- A case that is closed has an outcome and a reason. -/
theorem CaseStep.closes {outcome : CaseOutcome} {reasonCode : String}
    (hedge : CaseState.closed ∈ caseTransitions row.caseState) (hreason : reasonCode ≠ "")
    (hclosed : row'.caseState = .closed) (houtcome : row'.caseOutcome = some outcome)
    (hcode : row'.reasonCode = some reasonCode) : CaseStep row row' := by
  have hcase : row'.investigationCase = ⟨.closed, some outcome, some reasonCode⟩ := by
    rw [CaseRow.investigationCase, hclosed, houtcome, hcode]
  refine .declared ?_
  rw [hcase, hclosed, houtcome, hcode]
  refine transitionCase_eq hedge ?_
  simp [InvestigationCase.consistent, hreason]

/-- A pass may close its case, and leave it waiting. -/
theorem passStates_edges {q : CaseState} (h : q ∈ passStates) :
    q ≠ .closed ∧ CaseState.closed ∈ caseTransitions q ∧
      (∀ q' ∈ [CaseState.awaitingRetry, .awaitingCustomerInput, .awaitingCustomerConfirmation],
        q' = q ∨ q' ∈ caseTransitions q ∨ (q, q') ∈ operationEdges) := by
  simp only [passStates, List.mem_cons, List.not_mem_nil, or_false] at h
  rcases h with rfl | rfl <;> decide

theorem CaseMove.caseStep {runId : RowId} {run run' : RunRow} {drawn : Bool}
    (h : CaseMove settings c runId l s f run label γ drawn γ' s' f' run') (hinv : FolderInv l c f)
    (hf : l.folders c = some f) (hγ : γ.Inv l) : CaseStep f.row f'.row := by
  cases h with
  | park passing =>
    obtain ⟨hopen, -, hedges⟩ := passStates_edges (passing.state hγ hf)
    exact .opens hinv.closing hopen (by rintro ⟨⟩) rfl rfl (hedges .awaitingRetry (by decide))
  | close outcome reasonCode reason =>
    obtain ⟨-, hclose, -⟩ := passStates_edges (Phase.answered_state hγ hf).1
    exact .closes hclose reason rfl rfl rfl
  | wait decision =>
    obtain ⟨hopen, -, hedges⟩ := passStates_edges (Phase.answered_state hγ hf).1
    exact .opens hinv.closing hopen (by rintro ⟨⟩) rfl rfl (hedges .awaitingRetry (by decide))
  | ask asked bound decision =>
    obtain ⟨hopen, -, hedges⟩ := passStates_edges (Phase.answered_state hγ hf).1
    exact .opens hinv.closing hopen (by rintro ⟨⟩) rfl rfl
      (hedges .awaitingCustomerInput (by decide))
  | propose =>
    obtain ⟨hopen, -, hedges⟩ := passStates_edges (Phase.answered_state hγ hf).1
    exact .opens hinv.closing hopen (by rintro ⟨⟩) rfl rfl
      (hedges .awaitingCustomerConfirmation (by decide))
  | revise => exact .same rfl
  | askPackage asking =>
    obtain ⟨hopen, -, hedges⟩ := passStates_edges (asking.state hγ hf)
    exact .opens hinv.closing hopen (by rintro ⟨⟩) rfl rfl
      (hedges .awaitingCustomerInput (by decide))
  | closeAtLimit asking =>
    obtain ⟨-, hclose, -⟩ := passStates_edges (asking.state hγ hf)
    exact .closes hclose (by decide) rfl rfl rfl
  | resume shipmentId =>
    obtain ⟨-, ⟨f₀, hf₀, hstate, -⟩, -⟩ := hγ
    rw [hf] at hf₀
    obtain rfl := Option.some.inj hf₀
    refine .opens hinv.closing ?_ (by rintro ⟨⟩) rfl rfl (.inr (.inl ?_))
    · rw [hstate]
      rintro ⟨⟩
    · rw [hstate]
      exact List.mem_cons_self
  | drop last pending owner why =>
    obtain ⟨hstate, -⟩ := hinv.stage.of_pending last pending
    refine .opens hinv.closing ?_ (by rintro ⟨⟩) rfl rfl (.inr (.inr ?_))
    · rw [hstate]
      rintro ⟨⟩
    · rw [hstate]
      exact List.mem_cons_of_mem _ List.mem_cons_self
  | confirm last pending =>
    obtain ⟨hstate, -⟩ := hinv.stage.of_pending last pending
    refine .opens hinv.closing ?_ (by rintro ⟨⟩) rfl rfl (.inr (.inl ?_))
    · rw [hstate]
      rintro ⟨⟩
    · rw [hstate]
      exact List.mem_cons_self
  | decline last pending =>
    obtain ⟨hstate, -⟩ := hinv.stage.of_pending last pending
    refine .closes ?_ (by decide) rfl rfl rfl
    rw [hstate]
    exact List.mem_cons_of_mem _ List.mem_cons_self
  | submit | submitFaulted => exact .same rfl
  | @fault a act fault t open_ =>
    have hclose : CaseState.closed ∈ caseTransitions f.row.caseState := by
      rw [open_.state]
      exact List.mem_cons_self
    rcases Service.faultedCase_cases fault with ⟨-, h⟩ | ⟨-, h⟩ | ⟨-, h⟩
    · rw [h]
      refine .opens hinv.closing ?_ (by rintro ⟨⟩) rfl rfl (.inr (.inr ?_))
      · rw [open_.state]
        rintro ⟨⟩
      · rw [open_.state]
        change (CaseState.executingAction, CaseState.awaitingRetry) ∈ operationEdges
        decide
    · rw [h]
      exact .closes hclose (by decide) rfl rfl rfl
    · rw [h]
      exact .closes hclose (by decide) rfl rfl rfl
  | verify open_ =>
    refine .closes ?_ (by decide) rfl rfl rfl
    rw [open_.state]
    exact List.mem_cons_self

/-! ### Proposals and actions -/

theorem FolderKept.same {now : Instant} (f : CaseFolder) : FolderKept now f f :=
  ⟨.same rfl, fun p hp => ⟨p, hp, rfl, .same rfl⟩, fun a ha => ⟨a, ha, rfl, .same rfl⟩⟩

/-- A folder whose proposals and actions are left alone. -/
theorem FolderKept.of_case {now : Instant} (hcase : CaseStep f.row f'.row)
    (hproposals : f'.proposals = f.proposals) (hactions : f'.actions = f.actions) :
    FolderKept now f f' :=
  ⟨hcase, fun p hp => ⟨p, hproposals ▸ hp, rfl, .same rfl⟩,
    fun a ha => ⟨a, hactions ▸ ha, rfl, .same rfl⟩⟩

/-- The last proposal is no longer pending. -/
theorem ProposalStep.of_resolved {earlier : List ProposalRow} {p : ProposalRow}
    {q : ProposalState} (hlast : f.proposals = earlier ++ [p])
    (hpending : p.proposalState = .pendingConfirmation)
    (hq : q ∈ proposalTransitions .pendingConfirmation) :
    ∀ p' ∈ f.proposals, ∃ p'' ∈ earlier ++ [p.moved q], p''.proposalId = p'.proposalId ∧
      ProposalStep p' p'' := by
  intro p' hp'
  rw [hlast, List.mem_append, List.mem_singleton] at hp'
  rcases hp' with hearlier | rfl
  · exact ⟨p', List.mem_append_left _ hearlier, rfl, .same rfl⟩
  · refine ⟨p'.moved q, List.mem_append_right _ (List.mem_singleton_self _), rfl, .declared ?_⟩
    rw [transitionProposal, hpending]
    exact if_neg (not_not.mpr hq)

/-- Only one action is stored, and it is the one that a step changes. -/
theorem ActionStep.of_one {now : Instant} {act act' : ActionRow} (hactions : f.actions = [act])
    (hid : act'.actionId = act.actionId) (hstep : ActionStep now act act') :
    ∀ a ∈ f.actions, ∃ a' ∈ [act'], a'.actionId = a.actionId ∧ ActionStep now a a' := by
  intro a ha
  rw [hactions, List.mem_singleton] at ha
  exact ⟨act', List.mem_singleton_self _, ha ▸ hid, ha ▸ hstep⟩

/-- The times of an action are those of its state. -/
def Timed (f : CaseFolder) : Prop := ∀ a ∈ f.actions, a.execution.consistent = true

theorem ActionStep.submits {act : ActionRow} {now : Instant}
    (hdue : act.actionState = .ready ∨ act.actionState = .failedRetryable)
    (htimed : act.execution.consistent = true) : ActionStep now act (act.submittedAgain now) := by
  simp only [ActionExecution.consistent, ActionRow.execution, Bool.and_eq_true] at htimed
  rcases hdue with hready | hfailed
  · refine .declared ?_ (by rw [hready]; rintro ⟨⟩) ?_
    · rw [hready]
      exact List.mem_cons_self
    · intro e he
      have hnone : act.submittedAt = none := by
        simpa [hready] using htimed.1
      have hunverified : act.verifiedAt = none := by
        simpa [hready] using htimed.2
      simp [transitionAction, ActionRow.execution, ActionRow.submittedAgain, hready, hnone,
        hunverified, actionTransitions] at he
      rw [← he.1]
      rfl
  · refine .again hfailed rfl ?_
    intro e he
    have hunverified : act.verifiedAt = none := by
      simpa [hfailed] using htimed.2
    simp [transitionAction, ActionRow.execution, ActionRow.submittedAgain, hfailed,
      hunverified, actionTransitions] at he
    rw [← he.1]
    rfl

theorem ActionStep.faults {act : ActionRow} {fault : ActionFixtureFault} {now : Instant}
    (hsubmitted : act.actionState = .submitted) (htimed : act.execution.consistent = true) :
    ActionStep now act (act.faulted fault now) := by
  simp only [ActionExecution.consistent, ActionRow.execution, Bool.and_eq_true, hsubmitted]
    at htimed
  obtain ⟨t, ht⟩ : ∃ t, act.submittedAt = some t := by
    simpa [Option.isSome_iff_exists] using htimed.1
  have hunverified : act.verifiedAt = none := by
    simpa using htimed.2
  have hedge : fault.actionState ∈ actionTransitions .submitted :=
    List.mem_cons_of_mem _ fault.failure
  refine .declared ?_ (by rw [hsubmitted]; rintro ⟨⟩) ?_
  · rw [hsubmitted]
    exact hedge
  · intro e he
    have hfailure := fault.failure
    simp only [List.mem_cons, List.not_mem_nil, or_false] at hfailure
    rcases hfailure with h | h | h
    all_goals
      simp [transitionAction, ActionRow.execution, ActionRow.faulted, hsubmitted, ht, hunverified,
        actionTransitions, h] at he
      rw [← he.2.1]
      simp [ActionRow.execution, ActionRow.faulted, ht, h]

theorem ActionStep.verifies {act : ActionRow} {now : Instant}
    (hsubmitted : act.actionState = .submitted) (htimed : act.execution.consistent = true) :
    ActionStep now act (act.verified now) := by
  simp only [ActionExecution.consistent, ActionRow.execution, Bool.and_eq_true, hsubmitted]
    at htimed
  obtain ⟨t, ht⟩ : ∃ t, act.submittedAt = some t := by
    simpa [Option.isSome_iff_exists] using htimed.1
  refine .declared ?_ (by rw [hsubmitted]; rintro ⟨⟩) ?_
  · rw [hsubmitted]
    exact List.mem_cons_self
  · intro e he
    simp [transitionAction, ActionRow.execution, ActionRow.verified, hsubmitted, ht,
      actionTransitions] at he
    rw [← he.1]
    simp [ActionRow.execution, ActionRow.verified, ht]

/-! ### Folders -/

theorem CaseMove.kept {runId : RowId} {run run' : RunRow} {drawn : Bool}
    (h : CaseMove settings c runId l s f run label γ drawn γ' s' f' run') (hinv : FolderInv l c f)
    (hf : l.folders c = some f) (hγ : γ.Inv l) (htimed : Timed f) : FolderKept s.now f f' := by
  have hcase := h.caseStep hinv hf hγ
  cases h with
  | park | close | wait | ask | revise | askPackage | closeAtLimit | resume =>
    exact .of_case hcase rfl rfl
  | propose =>
    exact ⟨hcase, fun p hp => ⟨p, List.mem_append_left _ hp, rfl, .same rfl⟩,
      fun a ha => ⟨a, ha, rfl, .same rfl⟩⟩
  | drop last pending owner why =>
    refine ⟨hcase, ProposalStep.of_resolved last pending ?_, fun a ha => ⟨a, ha, rfl, .same rfl⟩⟩
    cases why <;> decide
  | confirm last pending =>
    refine ⟨hcase, ProposalStep.of_resolved last pending (by decide), fun a ha => ?_⟩
    rw [(hinv.stage.of_pending last pending).2.2.2] at ha
    cases ha
  | decline last pending =>
    exact ⟨hcase, ProposalStep.of_resolved last pending (by decide),
      fun a ha => ⟨a, ha, rfl, .same rfl⟩⟩
  | submit open_ owner due | submitFaulted open_ owner due =>
    refine ⟨hcase, fun p hp => ⟨p, hp, rfl, .same rfl⟩, ActionStep.of_one open_.actions rfl ?_⟩
    exact .submits due (htimed _ (by simp [open_.actions]))
  | fault open_ owner submitted =>
    refine ⟨hcase, fun p hp => ⟨p, hp, rfl, .same rfl⟩, ActionStep.of_one open_.actions rfl ?_⟩
    exact .faults submitted (htimed _ (by simp [open_.actions]))
  | verify open_ owner submitted =>
    refine ⟨hcase, fun p hp => ⟨p, hp, rfl, .same rfl⟩, ActionStep.of_one open_.actions rfl ?_⟩
    exact .verifies submitted (htimed _ (by simp [open_.actions]))

theorem FolderMove.kept {o : Option CaseFolder}
    (h : FolderMove settings k l s c label γ γ' (some f) o) (hinv : StoreInv k l)
    (hf : l.folders c = some f) (hγ : γ.Inv l) (htimed : Timed f) :
    ∃ f', o = some f' ∧ FolderKept s.now f f' := by
  have hfolder := (hinv.folders c f hf).2.2
  cases h with
  | same => exact ⟨f, rfl, .same f⟩
  | facts facts step =>
    exact ⟨_, rfl, .of_case (.same (by rw [step.row])) step.proposals step.actions⟩
  | explored => exact ⟨_, rfl, .of_case (.same rfl) rfl rfl⟩
  | retry state =>
    refine ⟨_, rfl, .of_case ?_ rfl rfl⟩
    refine .opens hfolder.closing (by rw [state]; rintro ⟨⟩) (by rintro ⟨⟩) rfl rfl (.inr (.inl ?_))
    rw [state]
    exact List.mem_cons_self
  | retryAction state =>
    refine ⟨_, rfl, .of_case ?_ rfl rfl⟩
    refine .opens hfolder.closing (by rw [state]; rintro ⟨⟩) (by rintro ⟨⟩) rfl rfl (.inr (.inr ?_))
    rw [state]
    change (CaseState.awaitingRetry, CaseState.executingAction) ∈ operationEdges
    decide
  | change run move => exact ⟨_, rfl, move.kept hfolder hf hγ htimed⟩

/-- The actions that a step leaves have the times of their states. -/
theorem FolderMove.timed {o : Option CaseFolder}
    (h : FolderMove settings k l s c label γ γ' o (some f'))
    (htimed : ∀ f, o = some f → Timed f) : Timed f' := by
  cases h with
  | same => exact htimed f' rfl
  | opened =>
    intro a ha
    cases ha
  | facts facts step =>
    intro a ha
    exact htimed _ rfl a (step.actions ▸ ha)
  | explored =>
    have htimed := htimed _ rfl
    exact fun a ha => htimed a ha
  | retry =>
    have htimed := htimed _ rfl
    exact fun a ha => htimed a ha
  | retryAction =>
    have htimed := htimed _ rfl
    exact fun a ha => htimed a ha
  | change run move =>
    have htimed := htimed _ rfl
    cases move with
    | confirm =>
      intro a ha
      rw [List.mem_singleton.mp ha]
      rfl
    | submit | submitFaulted =>
      intro a ha
      rw [List.mem_singleton.mp ha]
      rfl
    | @fault a act fault =>
      intro b hb
      rw [List.mem_singleton.mp hb]
      have hfailure := fault.failure
      simp only [List.mem_cons, List.not_mem_nil, or_false] at hfailure
      rcases hfailure with h | h | h <;>
        simp [ActionExecution.consistent, ActionRow.execution, ActionRow.faulted, h]
    | verify =>
      intro b hb
      rw [List.mem_singleton.mp hb]
      simp [ActionExecution.consistent, ActionRow.execution, ActionRow.verified]
    | _ => exact fun a ha => htimed a ha

theorem timed_preserved (settings : Settings) (assumes : String → Label → ServiceState → Prop) :
    Preserved (machine settings) SharedState.Drifts assumes
      fun _ _ l _ => ∀ c f, l.folders c = some f → Timed f := by
  refine Preserved.of_own ?_ fun _ _ h => h
  intro k label γ γ' x y hinv hJ _ hmove c f' hf'
  have hfolder := Move.folderMove hmove hinv.1 c
  rw [hf'] at hfolder
  exact hfolder.timed (hJ c)

/-! ### Runs -/

theorem RunStep.starts {run : RunRow} (h : run.runState = .queued) : RunStep run run.started := by
  refine .declared (transitionRun_eq ?_ rfl)
  rw [RunRow.run, h]
  exact List.mem_cons_self

theorem RunStep.succeeds {run : RunRow} {turns reads : Nat} (h : run.runState = .running) :
    RunStep run (run.ended .succeeded turns reads none) := by
  refine .declared (transitionRun_eq ?_ rfl)
  rw [RunRow.run, h]
  exact List.mem_cons_self

theorem RunStep.fails {run : RunRow} {turns reads : Nat} {code : String}
    (h : run.runState = .running) (hcode : code ≠ "") :
    RunStep run (run.ended .failed turns reads (some code)) := by
  refine .declared (transitionRun_eq ?_ ?_)
  · rw [RunRow.run, h]
    exact List.mem_cons_of_mem _ List.mem_cons_self
  · exact decide_eq_true hcode

/-- What becomes of the runs of a conversation. -/
def RunsKept (l l' : ConversationStore) : Prop :=
  ∀ runId row, l.runs runId = some row → ∃ row', l'.runs runId = some row' ∧ RunStep row row'

section Runs

variable {l' : ConversationStore} {runId : RowId} {run run' : RunRow}

theorem RunsKept.same (h : l'.runs = l.runs) : RunsKept l l' :=
  fun _ row hrow => ⟨row, h ▸ hrow, .same rfl⟩

/-- One run changes. -/
theorem RunsKept.set (hruns : l'.runs = Function.update l.runs runId (some run'))
    (hrun : l.runs runId = some run) (hstep : RunStep run run') : RunsKept l l' := by
  intro r row hrow
  by_cases e : r = runId
  · subst e
    obtain rfl := Option.some.inj (hrun.symm.trans hrow)
    exact ⟨run', by rw [hruns, Function.update_self], hstep⟩
  · exact ⟨row, by rw [hruns, Function.update_of_ne e, hrow], .same rfl⟩

/-- A run is queued that was not known before. -/
theorem RunsKept.queued (hinv : StoreInv k l)
    (hruns : l'.runs = Function.update l.runs ⟨k, l.nextSerial⟩ (some run')) : RunsKept l l' := by
  intro r row hrow
  have hne : r ≠ ⟨k, l.nextSerial⟩ := by
    rintro rfl
    exact absurd (hinv.runs _ _ hrow).1 (lt_irrefl _)
  exact ⟨row, by rw [hruns, Function.update_of_ne hne, hrow], .same rfl⟩

/-- A run that is open is the one that is stored. -/
theorem RunOpen.state_of {co : Option RowId} {q : RunState} (h : ∃ row, RunOpen l runId co q row)
    (hrun : l.runs runId = some run) : run.runState = q := by
  obtain ⟨row, hopen⟩ := h
  obtain rfl := Option.some.inj (hopen.stored.symm.trans hrun)
  exact hopen.runState

end Runs

theorem CaseMove.runStep {runId : RowId} {run run' : RunRow} {drawn : Bool}
    (h : CaseMove settings c runId l s f run label γ drawn γ' s' f' run')
    (hrun : l.runs runId = some run) (hγ : γ.Inv l) : RunStep run run' := by
  cases h with
  | park | revise | resume | drop | confirm | submit | submitFaulted => exact .same rfl
  | close | wait | ask | propose => exact .succeeds (RunOpen.state_of hγ.1 hrun)
  | askPackage asking | closeAtLimit asking =>
    exact .succeeds (RunOpen.state_of (asking.passing.run hγ).1 hrun)
  | decline | fault | verify => exact .succeeds (RunOpen.state_of hγ.1 hrun)

theorem Move.runsKept (h : Move settings k label γ x γ' y) (hinv : StoreInv k x.1)
    (hγ : γ.Inv x.1) : RunsKept x.1 y.1 := by
  cases h with
  | receive | reply | review | retry | retryAction => exact .queued hinv rfl
  | begin starts stored =>
    obtain ⟨co, hopen⟩ := starts.run hγ
    exact .set rfl stored (.starts (RunOpen.state_of hopen stored))
  | refuse refusable stored reason =>
    obtain ⟨co, hopen⟩ := refusable.run hγ
    exact .set rfl stored (.fails (RunOpen.state_of hopen stored) reason)
  | fail stored reason => exact .set rfl stored (.fails (RunOpen.state_of hγ.1 stored) reason)
  | answer stored => exact .set rfl stored (.succeeds (RunOpen.state_of hγ.1 stored))
  | openCase customerId orderId issueType target stored => exact .set rfl stored (.same rfl)
  | evaluate stored => exact .set rfl stored (.same rfl)
  | @change label γ γ' l s s' caseId runId f f' run run' drawn folder stored move =>
    refine .set ?_ stored (move.runStep stored hγ)
    cases drawn <;> rfl
  | _ => exact .same rfl

/-- One step of a conversation. -/
theorem Move.lifecyclesKept (h : Move settings k label γ x γ' y) (hinv : StoreInv k x.1)
    (hγ : γ.Inv x.1) (htimed : ∀ c f, x.1.folders c = some f → Timed f) :
    LifecyclesKept x.2.now x.1 y.1 where
  folders c f hf := by
    have hfolder := h.folderMove hinv c
    rw [hf] at hfolder
    exact hfolder.kept hinv hf hγ (htimed c f hf)
  runs := h.runsKept hinv hγ

theorem LifecyclesKept.same (now : Instant) (l : ConversationStore) : LifecyclesKept now l l :=
  ⟨fun _ f hf => ⟨f, hf, .same f⟩, RunsKept.same rfl⟩

/-! ### Every step -/

section Steps

variable (hreach : ServiceReaches settings (fun _ _ _ => True) g)
  (hstep : Interleave.Step (Request.program settings) SharedState.Drifts (fun _ _ _ => True) g g')
include hreach hstep

theorem ServiceReaches.lifecyclesKept (k : String) :
    LifecyclesKept g.shared.now (g.stores k) (g'.stores k) := by
  have hfresh : ∀ g₀ : ServiceConfig, ServiceConfig.Fresh g₀ → ∀ k c f,
      (g₀.stores k).folders c = some f → Timed f := by
    intro g₀ h₀ k c f hf
    rw [h₀.folders_eq_none] at hf
    cases hf
  have hsimulated := hreach.simulated (timed_preserved settings _) hfresh
  rcases hstep.changes hsimulated k with hsame | ⟨γ, label, γ', hinv, htimed, hmove⟩
  · rw [hsame]
    exact .same ..
  · exact Move.lifecyclesKept hmove hinv.1 hinv.2.1 htimed

/-- In every step of the service, runs, proposals and actions go through their declared lifecycles,
    and cases take declared edges or one of four that the operations add. -/
theorem lifecycles_refined : ∀ k, LifecyclesKept g.shared.now (g.stores k) (g'.stores k) :=
  fun k => hreach.lifecyclesKept hstep k

end Steps

end AfterSales

/-! ### Steps that are not declared -/

namespace AfterSales.Session
open Interleave

section Undeclared

attribute [local instance] PolicyDigest.bySource ProofDigest.byId ResultDigest.byName
  IdText.spelled FactDigest.byMessage CaseFolding.lower EvidenceDigest.byResults
  MessageRedaction.none TraceVolume.one

/-- The proposal is confirmed an hour later. -/
def confirmLate : Visit := ⟨3600000000, (confirmFirst "CONV-1").request⟩

/-- The case is tried again after a minute. -/
def retryLater : Visit := ⟨60000000, (retryFirst "CONV-1").request⟩

/-- A step takes the case of the conversation from one state to another. -/
def Takes (edge : CaseState × CaseState) (x y : ServiceState) : Prop :=
  (x.1.folders ⟨"CONV-1", 2⟩).map (·.row.caseState) = some edge.1 ∧
    (y.1.folders ⟨"CONV-1", 2⟩).map (·.row.caseState) = some edge.2

/-- A step changes an action as the declared transition accepts it, and stores something else. -/
def Differs (x y : ServiceState) : Prop :=
  ∃ f ∈ x.1.folders ⟨"CONV-1", 2⟩, ∃ f' ∈ y.1.folders ⟨"CONV-1", 2⟩, ∃ a ∈ f.actions,
    ∃ a' ∈ f'.actions, a'.actionId = a.actionId ∧
      ∃ e ∈ transitionAction a.execution a'.actionState x.2.now a'.errorCode, a'.execution ≠ e

/-- Some step of the service is such. -/
def Happens (P : ServiceState → ServiceState → Prop) : Prop :=
  ∃ g g', ServiceReaches demoSettings (fun _ _ _ => True) g ∧
    Interleave.Step (Request.program demoSettings) SharedState.Drifts (fun _ _ _ => True) g g' ∧
    P (g.stores "CONV-1", g.shared) (g'.stores "CONV-1", g'.shared)

theorem Happens.of_session {P : ServiceState → ServiceState → Prop} {s : SharedState}
    (hfresh : s.Fresh) (visits : List Visit) (last : Visit)
    (h : ∃ step ∈ (Visit.stepsAfter demoSettings "CONV-1" visits last
      (.created (some "CUS-1"), s)).zip (Visit.stepsAfter demoSettings "CONV-1" visits last
      (.created (some "CUS-1"), s)).tail, P step.1.2 step.2.2) : Happens P := by
  obtain ⟨⟨a, b⟩, hnext, hP⟩ := h
  obtain ⟨g, g', hreach, hstep, ha, hb⟩ : ∃ g g' : ServiceConfig,
      ServiceReaches demoSettings (fun _ _ _ => True) g ∧ Interleave.Step
        (Request.program demoSettings) SharedState.Drifts (fun _ _ _ => True) g g' ∧
      (g.stores "CONV-1", g.shared) = a.2 ∧ (g'.stores "CONV-1", g'.shared) = b.2 :=
    session_passes hfresh (fun _ _ => trivial) (fun _ _ => trivial) hnext
  exact ⟨g, g', hreach, hstep, by rw [ha, hb]; exact hP⟩

/-- A confirmation in time takes a declared edge, and keeps all lifecycles. -/
theorem confirmed_refined :
    ∃ g g' : ServiceConfig, Takes (.awaitingCustomerConfirmation, .executingAction)
        (g.stores "CONV-1", g.shared) (g'.stores "CONV-1", g'.shared) ∧
      ∀ k, LifecyclesKept g.shared.now (g.stores k) (g'.stores k) := by
  have hhappens : Happens (Takes (.awaitingCustomerConfirmation, .executingAction)) := by
    refine .of_session (demoShared_fresh failOnce) [lateReport] (confirmFirst "CONV-1") ?_
    unfold Takes
    decide +kernel
  obtain ⟨g, g', hreach, hstep, htakes⟩ := hhappens
  exact ⟨g, g', htakes, lifecycles_refined hreach hstep⟩

/-- Every edge of the operations is taken, none of them is declared, and an action that is submitted
    again is stored with another time than the declared transition computes. -/
theorem undeclared_steps :
    (∀ edge ∈ operationEdges, edge.2 ∉ caseTransitions edge.1 ∧ Happens (Takes edge)) ∧
      Happens Differs := by
  have hundeclared : ∀ edge ∈ operationEdges, edge.2 ∉ caseTransitions edge.1 := by decide
  refine ⟨fun edge hedge => ⟨hundeclared edge hedge, ?_⟩,
    .of_session (demoShared_fresh failOnce) [lateReport, confirmFirst "CONV-1"] retryLater ?_⟩
  · simp only [operationEdges, List.mem_cons, List.not_mem_nil, or_false] at hedge
    rcases hedge with rfl | rfl | rfl | rfl
    · refine .of_session frontDesk_fresh [missingParcel] notAtDesk ?_
      unfold Takes
      decide +kernel
    · refine .of_session (demoShared_fresh fun _ => []) [lateReport] confirmLate ?_
      unfold Takes
      decide +kernel
    · refine .of_session (demoShared_fresh failOnce) [lateReport] (confirmFirst "CONV-1") ?_
      unfold Takes
      decide +kernel
    · refine .of_session (demoShared_fresh failOnce) [lateReport, confirmFirst "CONV-1"]
        retryLater ?_
      unfold Takes
      decide +kernel
  · unfold Differs
    decide +kernel

end Undeclared

end AfterSales.Session
