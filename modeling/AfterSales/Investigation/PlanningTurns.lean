import AfterSales.Investigation.Revision

/-! The planning turns of a pass, and the numbers they go by.

    A model turn is admitted when the budget counts it; only then is the selector asked, and its
    answer validated against the budget that has already counted the turn.

        turn n of a run:   agent_turn_started n      NextObservation n + 1      tool call n
        turn m of a pass:  DecisionTraceRecord m

    So the last turn that a budget admits accepts nothing, and an accepted observation never has the
    number of its turn. -/

set_option linter.unusedSectionVars false

namespace AfterSales

/-! ### The rules of a candidate -/

namespace ObservationValidator

variable {trusted : TrustedToolContext} {candidate : NextObservationCandidate}
  {context : DecisionContext} {pendingRetry : Option RetryDirective} {gateReady : Option Bool}
  {observation : NextObservation}

/-- A candidate keeps every rule of `validate` that is not about the budget. -/
structure KeepsRules (candidate : NextObservationCandidate) (context : DecisionContext)
    (trusted : TrustedToolContext) (pendingRetry : Option RetryDirective)
    (gateReady : Option Bool) : Prop where
  scope : context.caseId = trusted.caseId ∧ context.runId = trusted.runId ∧
    context.authorizedOrderId = trusted.authorizedOrderId ∧
    context.canonicalIssueType = trusted.canonicalIssueType
  notPending : pendingRetry = none
  request : ∃ tool, requested context candidate
      (gateReady.getD (decide (context.evidenceProgress.gateReadiness = .evaluable))) = .ok tool ∧
    ⟨candidate.action, tool, tool.map (canonicalArguments context), candidate.addresses,
      context.evidenceProgress⟩ ∉ context.priorDecisionFingerprints

/-- A candidate is accepted when it keeps the rules and the counted turns are below both limits;
    the observation is numbered after them. -/
theorem validate_ok_iff :
    (∃ observation, validate (some candidate) context trusted pendingRetry gateReady
        = .ok observation) ↔
      KeepsRules candidate context trusted pendingRetry gateReady ∧
        context.remainingBudget.casePlanningTurns < 16 ∧
        context.remainingBudget.runPlanningTurns < 8 := by
  constructor
  · rintro ⟨observation, h⟩
    unfold validate at h
    simp only at h
    split at h
    · cases h
    rename_i hscope
    split at h
    · cases h
    rename_i hpending
    split at h
    · cases h
    rename_i hbudget
    split at h
    · cases h
    rename_i tool htool
    split at h
    · cases h
    rename_i hnew
    push Not at hscope hbudget
    exact ⟨⟨hscope, by simpa using hpending, tool, htool, hnew⟩, hbudget⟩
  · rintro ⟨⟨⟨hcase, hrun, horder, hissue⟩, rfl, tool, htool, hnew⟩, hbudget⟩
    unfold validate
    simp only
    rw [if_neg (by simp [hcase, hrun, horder, hissue]), if_neg (by simp), if_neg (by omega), htool]
    simp only
    rw [if_neg hnew]
    exact ⟨_, rfl⟩

theorem validate_planningTurn
    (h : validate (some candidate) context trusted pendingRetry gateReady = .ok observation) :
    observation.planningTurn = context.remainingBudget.runPlanningTurns + 1 := by
  unfold validate at h
  simp only at h
  split_ifs at h
  split at h
  · cases h
  · split_ifs at h
    cases h
    rfl

end ObservationValidator

/-! ### An admitted turn -/

variable [PolicyDigest] [ProofDigest] [ResultDigest]

variable {catalog catalog' : SyntheticReadToolCatalog} {trusted : TrustedToolContext}
  {selector : ObservationSelector} {s s' s₀ turn : InvestigationState} {node node' : GraphNode}

/-- What `validate` is given by `select_observation`. -/
def Coordinator.validated (trusted : TrustedToolContext) (budget : ToolBudget) (c : Coordinator)
    (candidate : Option NextObservationCandidate) : Except RejectionCode NextObservation :=
  let callsTool := decide (∃ p ∈ candidate, p.toolName.isSome)
  let gateReady := if !callsTool && c.issueRevisionTerminal then some true else none
  ObservationValidator.validate candidate (c.context trusted budget) trusted c.pendingRetry
    gateReady

/-- The candidate keeps the rules that `select_observation` has it checked for. -/
def Coordinator.Qualifies (trusted : TrustedToolContext) (budget : ToolBudget) (c : Coordinator)
    (candidate : NextObservationCandidate) : Prop :=
  ObservationValidator.KeepsRules candidate (c.context trusted budget) trusted c.pendingRetry
    (if !candidate.toolName.isSome && c.issueRevisionTerminal then some true else none)

/-- `DecisionTraceRecord`, as `select_observation` fills it in. -/
structure DecisionTraceRecord where
  planningTurn : Nat
  action : ObservationAction
  toolName : Option ReadTool
  canonicalArguments : Option ToolArguments
  addresses : List EvidenceRequirementCode
  reasonCode : Except RejectionCode ObservationReasonCode
  evidenceProgress : EvidenceProgressSnapshot
  budgetSnapshot : ToolBudget

/-- The trace of a candidate; one that does not fit the schema is recorded as a wish to end. -/
def Coordinator.decisionTrace (trusted : TrustedToolContext) (budget : ToolBudget)
    (c : Coordinator) (candidate : Option NextObservationCandidate) (planningTurn : Nat) :
    DecisionTraceRecord :=
  let result := c.validated trusted budget candidate
  { planningTurn := planningTurn
    action := (candidate.map (·.action)).getD .finish
    toolName := candidate.bind (·.toolName)
    canonicalArguments := result.toOption.bind (·.canonicalArguments)
    addresses := (candidate.map (·.addresses)).getD []
    reasonCode := result.map (·.reasonCode)
    evidenceProgress := c.progress
    budgetSnapshot := budget }

namespace InvestigationGraph

/-- The state in which the selector of a model turn is asked, if `on_agent_turn` admits the turn. -/
def admitted (catalog : SyntheticReadToolCatalog) (trusted : TrustedToolContext)
    (s : InvestigationState) : Option InvestigationState :=
  match s.coordinator.beforeSelector catalog trusted s.governed.budget with
  | (.select, c) => s.governed.budget.recordPlanningTurn.map fun budget =>
      { s with coordinator := c, governed := { s.governed with budget := budget } }
  | _ => none

/-- The candidate that the selector of an admitted turn answers with, if it fits the schema. There
    is no answer when the selector fails. -/
def answer (trusted : TrustedToolContext) (selector : ObservationSelector)
    (turn : InvestigationState) : Option (Option NextObservationCandidate) :=
  match selector (turn.coordinator.context trusted turn.governed.budget) with
  | .candidate candidate => some (some candidate)
  | .malformed => some none
  | .failure => none

/-- The numbers of a turn, in each place that names one. -/
structure TurnNumbers where
  agentTurnStarted : Nat
  decisionTrace : Option Nat
  nextObservation : Option Nat
  toolCall : Option Nat

/-- The event of the turn is appended when it is admitted, its trace when the selector has answered,
    and its tool call by the superstep after it, which finds the sources as they are by then. -/
def turnNumbers (catalog catalog' : SyntheticReadToolCatalog) (trusted : TrustedToolContext)
    (selector : ObservationSelector) (s turn : InvestigationState) : TurnNumbers :=
  let budget := turn.governed.budget
  let candidate := answer trusted selector turn
  { agentTurnStarted := budget.runPlanningTurns
    decisionTrace := candidate.map fun p =>
      (turn.coordinator.decisionTrace trusted budget p (s.planningTurns + 1)).planningTurn
    nextObservation := candidate.bind fun p =>
      (turn.coordinator.validated trusted budget p).toOption.map (·.planningTurn)
    toolCall := match callModel catalog trusted selector s with
      | .ok (.tools tool arguments, s') =>
        (traceRead catalog' trusted s' tool arguments).1.toOption.map (·.planningTurn)
      | _ => none }

/-- All places that name the turn name it the same. -/
def TurnNumbers.Agree (n : TurnNumbers) : Prop :=
  ∀ m ∈ n.decisionTrace.toList ++ n.nextObservation.toList ++ n.toolCall.toList,
    m = n.agentTurnStarted

/-- A candidate that keeps the rules is accepted, and the read it asks for is done next. -/
def TurnUsable (catalog : SyntheticReadToolCatalog) (trusted : TrustedToolContext)
    (selector : ObservationSelector) (s turn : InvestigationState) : Prop :=
  ∀ candidate, answer trusted selector turn = some (some candidate) →
    turn.coordinator.Qualifies trusted turn.governed.budget candidate →
    ∃ observation,
      turn.coordinator.validated trusted turn.governed.budget (some candidate) = .ok observation ∧
      ∀ tool ∈ observation.toolName, ∃ arguments s',
        callModel catalog trusted selector s = .ok (.tools tool arguments, s')

/-- The states that a pass reaches. The sources may change, and the selector may be any other,
    between two supersteps. -/
inductive PassReaches (trusted : TrustedToolContext) (s₀ : InvestigationState) :
    GraphNode → InvestigationState → Prop
  | start : PassReaches trusted s₀ .agent s₀
  | step {catalog : SyntheticReadToolCatalog} {selector : ObservationSelector}
      {node node' : GraphNode} {s s' : InvestigationState}
      (earlier : PassReaches trusted s₀ node s)
      (next : step catalog trusted selector node s = .ok (node', s')) :
      PassReaches trusted s₀ node' s'

/-- A graph run that ends has gone through its states one by one. -/
theorem PassReaches.of_run {catalog : Nat → SyntheticReadToolCatalog} {n : Nat}
    (h : PassReaches trusted s₀ node s)
    (hrun : run catalog trusted selector n node s = .ok s') :
    ∃ node', PassReaches trusted s₀ node' s' := by
  induction n generalizing node s with
  | zero =>
    cases node with
    | finished => exact ⟨_, Except.ok.inj hrun ▸ h⟩
    | agent | tools | budgetExhausted => cases hrun
  | succ n ih =>
    by_cases hnode : node = .finished
    · subst hnode
      exact ⟨_, Except.ok.inj hrun ▸ h⟩
    cases hstep : InvestigationGraph.step (catalog (n + 1)) trusted selector node s with
    | error e =>
      rw [run_error catalog n hnode hstep] at hrun
      cases hrun
    | ok stepped =>
      obtain ⟨next, s₁⟩ := stepped
      rw [run_step catalog n hnode hstep] at hrun
      exact ih (h.step hstep) hrun

/-! ### What an admitted turn does -/

/-- A turn is admitted by counting it, in the run and in the case. -/
theorem admitted_counts (h : admitted catalog trusted s = some turn) :
    turn.planningTurns = s.planningTurns ∧
      turn.governed.budget.runPlanningTurns = s.governed.budget.runPlanningTurns + 1 ∧
      turn.governed.budget.casePlanningTurns = s.governed.budget.casePlanningTurns + 1 := by
  unfold admitted at h
  split at h
  · obtain ⟨budget, hbudget, rfl⟩ := Option.map_eq_some_iff.mp h
    exact ⟨rfl, (ToolBudget.recordPlanningTurn_some hbudget).2⟩
  · cases h

/-- The model turn goes on with the answer of the selector. -/
theorem callModel_admitted (h : admitted catalog trusted s = some turn) :
    callModel catalog trusted selector s = match answer trusted selector turn with
      | none => .error .selectorFailed
      | some candidate => .ok (endTurn turn
          (turn.coordinator.selectObservation trusted turn.governed.budget candidate)) := by
  unfold admitted at h
  split at h
  · rename_i c hpre
    obtain ⟨budget, hbudget, rfl⟩ := Option.map_eq_some_iff.mp h
    unfold callModel answer
    rw [hpre]
    simp only [hbudget]
    cases selector (c.context trusted budget) <;> rfl
  · cases h

/-- A model turn that is not admitted counts nothing. -/
theorem callModel_unadmitted (h : admitted catalog trusted s = none)
    (hcall : callModel catalog trusted selector s = .ok (node, s')) :
    s'.planningTurns = s.planningTurns ∧ s'.governed = s.governed := by
  unfold admitted at h
  unfold callModel at hcall
  cases hpre : s.coordinator.beforeSelector catalog trusted s.governed.budget with
  | mk pre c =>
    rw [hpre] at h hcall
    cases pre with
    | terminal =>
      obtain ⟨-, rfl⟩ := Prod.mk.inj (Except.ok.inj hcall)
      exact ⟨rfl, rfl⟩
    | retry d =>
      obtain ⟨-, rfl⟩ := Prod.mk.inj (Except.ok.inj hcall)
      exact ⟨rfl, rfl⟩
    | select =>
      rw [Option.map_eq_none_iff] at h
      simp only [h] at hcall
      obtain ⟨-, rfl⟩ := Prod.mk.inj (Except.ok.inj hcall)
      exact ⟨rfl, rfl⟩

/-- The end of a turn counts it in the pass. -/
theorem endTurn_planningTurns {selection : Coordinator.PostSelection × Coordinator}
    (h : endTurn turn selection = (node, s')) :
    s'.planningTurns = turn.planningTurns + 1 ∧ s'.governed = turn.governed := by
  obtain ⟨post, c⟩ := selection
  cases post <;>
  · obtain ⟨-, rfl⟩ := Prod.mk.inj h
    exact ⟨rfl, rfl⟩

/-- A rejected candidate leads to no tool. -/
theorem endTurn_rejected {candidate : Option NextObservationCandidate} {code : RejectionCode}
    (h : turn.coordinator.validated trusted turn.governed.budget candidate = .error code)
    (tool : ReadTool) (arguments : ToolArguments) :
    (endTurn turn (turn.coordinator.selectObservation trusted turn.governed.budget candidate)).1
      ≠ .tools tool arguments := by
  have hvalid := h
  unfold Coordinator.validated at hvalid
  simp only at hvalid
  unfold Coordinator.selectObservation
  simp only [hvalid]
  split
  · split <;> simp [endTurn]
  · simp [endTurn]

/-- An accepted call is the next thing done: the pass has not counted more turns than its run. -/
theorem endTurn_accepted {candidate : NextObservationCandidate} {observation : NextObservation}
    {tool : ReadTool}
    (h : turn.coordinator.validated trusted turn.governed.budget (some candidate)
      = .ok observation) (htool : observation.toolName = some tool)
    (hle : turn.planningTurns + 1 ≤ turn.governed.budget.runPlanningTurns) :
    ∃ arguments s', endTurn turn
      (turn.coordinator.selectObservation trusted turn.governed.budget (some candidate))
        = (.tools tool arguments, s') := by
  have hvalid := h
  unfold Coordinator.validated at hvalid
  simp only at hvalid
  have hlimit : turn.governed.budget.runPlanningTurns < 8 :=
    (ObservationValidator.validate_ok_iff.mp ⟨observation, hvalid⟩).2.2
  have harguments := (ObservationValidator.validate_ok hvalid).arguments
  rw [htool, Option.map_some] at harguments
  unfold Coordinator.selectObservation
  simp only [hvalid, htool, harguments, endTurn, routeToTools]
  rw [if_neg (by omega)]
  exact ⟨_, _, rfl⟩

/-- The acceptance of a candidate, in the terms of an admitted turn. -/
theorem validated_ok_iff {candidate : NextObservationCandidate} :
    (∃ observation, turn.coordinator.validated trusted turn.governed.budget (some candidate)
        = .ok observation) ↔
      turn.coordinator.Qualifies trusted turn.governed.budget candidate ∧
        turn.governed.budget.casePlanningTurns < 16 ∧
        turn.governed.budget.runPlanningTurns < 8 := by
  have hcalls : decide (∃ p ∈ some candidate, p.toolName.isSome) = candidate.toolName.isSome := by
    simp
  unfold Coordinator.validated Coordinator.Qualifies
  rw [hcalls]
  exact ObservationValidator.validate_ok_iff

theorem validated_planningTurn {candidate : Option NextObservationCandidate}
    {observation : NextObservation}
    (h : turn.coordinator.validated trusted turn.governed.budget candidate = .ok observation) :
    observation.planningTurn = turn.governed.budget.runPlanningTurns + 1 := by
  cases candidate with
  | none => cases h
  | some p => exact ObservationValidator.validate_planningTurn h

/-! ### The turns of a pass -/

/-- A read counts no turn. -/
theorem traceRead_runTurns (catalog : SyntheticReadToolCatalog) (trusted : TrustedToolContext)
    (s : InvestigationState) (tool : ReadTool) (arguments : ToolArguments) :
    (traceRead catalog trusted s tool arguments).2.budget.runPlanningTurns
      = s.governed.budget.runPlanningTurns :=
  (GovernedToolExecutor.executeResult_charge
    (Eq.refl (GovernedToolExecutor.executeResult catalog trusted s.governed tool arguments))).2.1

/-- The turns of a superstep count in the pass as they count in the run. -/
theorem step_planningTurns (h : step catalog trusted selector node s = .ok (node', s')) :
    s'.planningTurns + s.governed.budget.runPlanningTurns
      = s'.governed.budget.runPlanningTurns + s.planningTurns := by
  cases node with
  | agent =>
    cases hadmitted : admitted catalog trusted s with
    | none =>
      obtain ⟨hpass, hgoverned⟩ := callModel_unadmitted hadmitted h
      rw [hpass, hgoverned, Nat.add_comm]
    | some turn =>
      have hcall : callModel catalog trusted selector s = .ok (node', s') := h
      rw [callModel_admitted hadmitted] at hcall
      obtain ⟨hpass, hrun, -⟩ := admitted_counts hadmitted
      have hend : s'.planningTurns = turn.planningTurns + 1 ∧ s'.governed = turn.governed := by
        split at hcall
        · cases hcall
        · exact endTurn_planningTurns (Except.ok.inj hcall)
      rw [hend.1, hend.2]
      omega
  | tools tool arguments =>
    obtain ⟨-, record, governed, hread, rfl⟩ := step_tools h
    have hturns : governed.budget.runPlanningTurns = s.governed.budget.runPlanningTurns := by
      simpa only [hread] using traceRead_runTurns catalog trusted s tool arguments
    rw [afterCall, hturns]
    exact Nat.add_comm _ _
  | budgetExhausted | finished =>
    obtain ⟨-, rfl⟩ := Prod.mk.inj (Except.ok.inj h)
    exact Nat.add_comm _ _

/-- The counter of the run is ahead of that of the pass by what earlier passes have counted. -/
theorem PassReaches.runTurns (h : PassReaches trusted s₀ node s) (hstart : s₀.planningTurns = 0) :
    s.governed.budget.runPlanningTurns
      = s₀.governed.budget.runPlanningTurns + s.planningTurns := by
  induction h with
  | start => omega
  | step _ next ih =>
    have hstep := step_planningTurns next
    omega

/-! ### The turns of a run -/

/-- A turn whose selector fails is named by its event alone. -/
theorem turnNumbers_failure (hadmitted : admitted catalog trusted s = some turn)
    (h : answer trusted selector turn = none) :
    turnNumbers catalog catalog' trusted selector s turn
      = ⟨turn.governed.budget.runPlanningTurns, none, none, none⟩ := by
  unfold turnNumbers
  simp only [callModel_admitted hadmitted, h, Option.map_none, Option.bind_none]

/-- A turn whose candidate is rejected has an event and a trace. -/
theorem turnNumbers_rejected {candidate : Option NextObservationCandidate} {code : RejectionCode}
    (hadmitted : admitted catalog trusted s = some turn)
    (hanswer : answer trusted selector turn = some candidate)
    (h : turn.coordinator.validated trusted turn.governed.budget candidate = .error code) :
    turnNumbers catalog catalog' trusted selector s turn
      = ⟨turn.governed.budget.runPlanningTurns, some (s.planningTurns + 1), none, none⟩ := by
  have hcall : (match callModel catalog trusted selector s with
      | .ok (.tools tool arguments, s') =>
        (traceRead catalog' trusted s' tool arguments).1.toOption.map (·.planningTurn)
      | _ => none) = none := by
    rw [callModel_admitted hadmitted, hanswer]
    simp only
    split
    · rename_i tool arguments s' hend
      exact absurd (congrArg Prod.fst (Except.ok.inj hend)) (endTurn_rejected h tool arguments)
    · rfl
  unfold turnNumbers
  rw [hcall]
  simp only [hanswer, Option.map_some, Option.bind_some, h, Except.toOption, Option.map_none,
    Coordinator.decisionTrace]

variable (catalog catalog') in
/-- The observation of an accepted candidate has the number after that of its turn. -/
theorem turnNumbers_accepted {candidate : Option NextObservationCandidate}
    {observation : NextObservation} (hanswer : answer trusted selector turn = some candidate)
    (h : turn.coordinator.validated trusted turn.governed.budget candidate = .ok observation) :
    (turnNumbers catalog catalog' trusted selector s turn).nextObservation
      = some ((turnNumbers catalog catalog' trusted selector s turn).agentTurnStarted + 1) := by
  simp only [turnNumbers, hanswer, Option.bind_some, h, Except.toOption, Option.map_some,
    validated_planningTurn h]

/-- A turn is usable unless it is the last one that its run or its case admits. -/
theorem turn_usable {history : InvestigationHistory} {budget : ToolBudget}
    (hreach : PassReaches trusted (initialState trusted history budget) .agent s)
    (hadmitted : admitted catalog trusted s = some turn)
    (hcase : turn.governed.budget.casePlanningTurns < 16)
    (hrun : turn.governed.budget.runPlanningTurns < 8) :
    TurnUsable catalog trusted selector s turn := by
  intro candidate hanswer hqualifies
  have hturns := hreach.runTurns rfl
  obtain ⟨hpass, hcounted, -⟩ := admitted_counts hadmitted
  obtain ⟨observation, haccepted⟩ := validated_ok_iff.mpr ⟨hqualifies, hcase, hrun⟩
  refine ⟨observation, haccepted, fun tool htool => ?_⟩
  obtain ⟨arguments, s', hend⟩ := endTurn_accepted haccepted htool (by omega)
  exact ⟨arguments, s', by rw [callModel_admitted hadmitted, hanswer]; exact congrArg _ hend⟩

/-- In every pass of a run, an admitted turn is usable and is named the same everywhere exactly when
    its selector fails, or answers out of the rules while no earlier pass has counted a turn. -/
theorem turn_usable_iff {history : InvestigationHistory} {budget : ToolBudget}
    (hreach : PassReaches trusted (initialState trusted history budget) .agent s)
    (hadmitted : admitted catalog trusted s = some turn) :
    TurnUsable catalog trusted selector s turn ∧
        (turnNumbers catalog catalog' trusted selector s turn).Agree ↔
      answer trusted selector turn = none ∨
        (∀ candidate, answer trusted selector turn = some (some candidate) →
          ¬ turn.coordinator.Qualifies trusted turn.governed.budget candidate) ∧
        budget.runPlanningTurns = 0 := by
  have hturns : s.governed.budget.runPlanningTurns = budget.runPlanningTurns + s.planningTurns :=
    hreach.runTurns rfl
  obtain ⟨-, hrun, -⟩ := admitted_counts hadmitted
  cases hanswer : answer trusted selector turn with
  | none =>
    refine ⟨fun _ => Or.inl rfl, fun _ => ⟨fun candidate h => ?_, ?_⟩⟩
    · rw [hanswer] at h
      cases h
    · rw [turnNumbers_failure hadmitted hanswer]
      simp [TurnNumbers.Agree]
  | some candidate =>
    rw [or_iff_right (by simp)]
    cases hvalid : turn.coordinator.validated trusted turn.governed.budget candidate with
    | ok observation =>
      -- the number of the observation alone breaks the agreement
      constructor
      · rintro ⟨-, hagree⟩
        have hmem := turnNumbers_accepted catalog catalog' (s := s) hanswer hvalid
        refine absurd (hagree _ ?_) (Nat.succ_ne_self _)
        rw [hmem]
        simp
      · rintro ⟨hbroken, -⟩
        cases candidate with
        | none => cases hvalid
        | some p => exact absurd (validated_ok_iff.mp ⟨_, hvalid⟩).1 (hbroken p rfl)
    | error code =>
      have hagree : (turnNumbers catalog catalog' trusted selector s turn).Agree ↔
          budget.runPlanningTurns = 0 := by
        rw [turnNumbers_rejected hadmitted hanswer hvalid]
        simp only [TurnNumbers.Agree, Option.toList_some, Option.toList_none, List.append_nil,
          List.mem_singleton, forall_eq]
        omega
      rw [hagree]
      refine and_congr_left fun _ => forall_congr' fun p => ?_
      rw [hanswer]
      refine forall_congr' fun hp => ⟨fun husable hqualifies => ?_, fun hbroken hqualifies => ?_⟩
      · obtain ⟨observation, hok, -⟩ := husable hqualifies
        rw [← Option.some.inj hp, hvalid] at hok
        cases hok
      · exact absurd hqualifies hbroken

end InvestigationGraph

end AfterSales

/-! ### The first turn of a case and the last -/

namespace AfterSales.InvestigationGraph
open RevisedRun

section SixteenthTurn

attribute [local instance] PolicyDigest.bySource ProofDigest.byId ResultDigest.byName

/-- The selector that asks for the order context. -/
def asksForOrder : ObservationSelector := fun _ => .candidate (callCandidate .getOrderContext)

/-- A run begins on a case whose earlier runs have counted some turns and four reads. -/
def beginsAfter (turns : Nat) (h : turns ≤ 16) : InvestigationState :=
  initialState missingReport ⟨[], [], [], .empty, none⟩
    ⟨turns, 0, 4, h, ToolBudget.fresh.runBound, by decide⟩

/-- The first turn of such a run. -/
def turnAfter (turns : Nat) (h : turns ≤ 16)
    (hadmitted : (admitted (shippedCatalog []) missingReport (beginsAfter turns h)).isSome) :
    InvestigationState :=
  (admitted (shippedCatalog []) missingReport (beginsAfter turns h)).get hadmitted

theorem admitted_turnAfter (turns : Nat) (h : turns ≤ 16)
    (hadmitted : (admitted (shippedCatalog []) missingReport (beginsAfter turns h)).isSome) :
    admitted (shippedCatalog []) missingReport (beginsAfter turns h)
      = some (turnAfter turns h hadmitted) :=
  (Option.some_get hadmitted).symm

def firstTurn : InvestigationState :=
  turnAfter 0 ToolBudget.fresh.caseBound (by decide +kernel)

def sixteenthTurn : InvestigationState := turnAfter 15 (by decide) (by decide +kernel)

/-- A malformed answer leaves the first turn of a run named the same. -/
theorem firstTurn_malformed :
    TurnUsable (shippedCatalog []) missingReport (fun _ => .malformed) (beginsAfter 0 (by decide))
        firstTurn ∧
      (turnNumbers (shippedCatalog []) (shippedCatalog []) missingReport (fun _ => .malformed)
        (beginsAfter 0 (by decide)) firstTurn).Agree := by
  refine (turn_usable_iff .start (admitted_turnAfter ..)).mpr (Or.inr ⟨fun _ h => ?_, rfl⟩)
  cases h

/-- The sixteenth turn of a case is admitted, and its candidate keeps the rules, but it is not
    accepted; the candidate of the first turn is, under the number of the second. -/
theorem sixteenthTurn_refused :
    admitted (shippedCatalog []) missingReport (beginsAfter 15 (by decide)) = some sixteenthTurn ∧
      sixteenthTurn.coordinator.Qualifies missingReport sixteenthTurn.governed.budget
        (callCandidate .getOrderContext) ∧
      ¬ TurnUsable (shippedCatalog []) missingReport asksForOrder (beginsAfter 15 (by decide))
        sixteenthTurn ∧
      admitted (shippedCatalog []) missingReport (beginsAfter 0 (by decide)) = some firstTurn ∧
      ¬ (turnNumbers (shippedCatalog []) (shippedCatalog []) missingReport asksForOrder
        (beginsAfter 0 (by decide)) firstTurn).Agree := by
  have hqualifies : sixteenthTurn.coordinator.Qualifies missingReport
      sixteenthTurn.governed.budget (callCandidate .getOrderContext) :=
    ⟨⟨rfl, rfl, rfl, rfl⟩, rfl, some .getOrderContext, by decide +kernel, by decide +kernel⟩
  refine ⟨admitted_turnAfter .., hqualifies, fun husable => ?_, admitted_turnAfter ..,
    fun hagree => ?_⟩
  · obtain ⟨observation, haccepted, -⟩ := husable _ rfl hqualifies
    have hlimit := (validated_ok_iff.mp ⟨observation, haccepted⟩).2.1
    exact absurd hlimit (by decide +kernel)
  · have hnumber : (turnNumbers (shippedCatalog []) (shippedCatalog []) missingReport asksForOrder
        (beginsAfter 0 (by decide)) firstTurn).nextObservation = some 2 := by decide +kernel
    exact absurd (hagree 2 (by simp [hnumber])) (by decide +kernel)

end SixteenthTurn

end AfterSales.InvestigationGraph
