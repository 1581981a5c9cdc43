import AfterSales.Application.Session
import AfterSales.Application.Watch
import AfterSales.Lib.Chronicle

/-! No case is investigated for ever.

    A pass reads only in a turn of its selector, and without a read its gate asks for human support.
    So an investigation that returns has counted a turn of its case, or closes it:

        turns counted + (1 if closed)

    is raised by every such operation, lowered by none, and at most 17. -/

set_option linter.unusedSectionVars false

namespace AfterSales
open Interleave Repository

variable [PolicyDigest] [ProofDigest] [ResultDigest] [IdText] [TraceVolume] [FactDigest]
  [CaseFolding] [EvidenceDigest] [MessageRedaction]

variable {settings : Settings} {k : String} {l₀ l l' : ConversationStore} {s s' : SharedState}
  {caseId runId c : RowId} {f f' : CaseFolder} {row row' : RunRow} {label : Label} {γ γ' : Phase}
  {assumes : String → Label → ServiceState → Prop}

/-! ### The rows of a case -/

namespace ConversationStore

/-- The row of a case. -/
def rowOf (l : ConversationStore) (c : RowId) : Option CaseRow := (l.folders c).map (·.row)

/-- The planning turns that are counted on a case. -/
def turnsCounted (l : ConversationStore) (c : RowId) : Nat :=
  (l.rowOf c).elim 0 (·.agentPlanningTurnCount)

def stateOf (l : ConversationStore) (c : RowId) : Option CaseState := (l.rowOf c).map (·.caseState)

theorem rowOf_of_folder (h : l.folders c = some f) : l.rowOf c = some f.row := by
  simp [rowOf, h]

theorem turnsCounted_of_folder (h : l.folders c = some f) :
    l.turnsCounted c = f.row.agentPlanningTurnCount := by
  simp [turnsCounted, rowOf, h]

theorem stateOf_of_folder (h : l.folders c = some f) : l.stateOf c = some f.row.caseState := by
  simp [stateOf, rowOf, h]

theorem turnsCounted_congr (h : l'.rowOf c = l.rowOf c) : l'.turnsCounted c = l.turnsCounted c := by
  rw [turnsCounted, turnsCounted, h]

theorem stateOf_congr (h : l'.rowOf c = l.rowOf c) : l'.stateOf c = l.stateOf c := by
  rw [stateOf, stateOf, h]

/-- The measure of a case. -/
def usage (l : ConversationStore) (c : RowId) : Nat :=
  l.turnsCounted c + if l.stateOf c = some .closed then 1 else 0

theorem rowOf_changed {drawn : Bool} :
    (changed l drawn caseId runId f' row').rowOf caseId = some f'.row :=
  rowOf_of_folder changed_folder

theorem rowOf_changed_of_ne {drawn : Bool} (h : c ≠ caseId) :
    (changed l drawn caseId runId f' row').rowOf c = l.rowOf c := by
  rw [rowOf, rowOf, changed_of_ne h]

end ConversationStore

/-! ### One pass -/

/-- A first pass at work: what it has read it has read in its turns, and they are counted. -/
structure FirstPass (counted : Nat) (started : Service.StartedInvestigation) (node : GraphNode)
    (is : InvestigationState) : Prop where
  turned : Turned node is
  latest : is.coordinator.latestResults = Coordinator.latestOf is.coordinator.records
  charged : counted + is.governed.budget.runPlanningTurns ≤ is.governed.budget.casePlanningTurns
  unresumed : started.history.persistedGate = none

namespace FirstPass

variable {counted : Nat} {started : Service.StartedInvestigation} {node node' : GraphNode}
  {is is' : InvestigationState} {catalog : SyntheticReadToolCatalog}
  {selector : ObservationSelector}

/-- A run that nothing was done for: it has no gate result, and no calls. -/
def Untouched (l : ConversationStore) (runId : RowId) : Prop :=
  (∀ row, l.runs runId = some row → row.gateResult = none) ∧
    ∀ c f, l.folders c = some f → f.callsOfRun runId = []

/-- A pass of a run that nothing was done for begins. -/
theorem start {number : Nat} (h : Untouched l runId) (hf : l.folders caseId = some f)
    (hfrom : StartedFrom settings runId caseId 0 0 number l s f started) :
    FirstPass (l.turnsCounted caseId) started .agent
      (initialState started.trusted started.history started.budget) := by
  have hrows : started.history.runRecords = [] := by
    rw [hfrom.history]
    exact h.2 caseId f hf
  obtain ⟨-, hcase, hrun⟩ := initialBudget_some hfrom.budget
  refine ⟨⟨fun r hr => ?_, fun hpending => ?_, fun _ _ e => GraphNode.noConfusion e⟩, rfl, ?_, ?_⟩
  · simp [initialState, Coordinator.init, hrows] at hr
  · simp [initialState, Coordinator.init, hrows] at hpending
  · rw [l.turnsCounted_of_folder hf]
    have hle : f.row.agentPlanningTurnCount ≤ started.budget.casePlanningTurns := by
      rw [hcase, hfrom.caseTurns]
      exact le_foldl_max _ _
    simp only [initialState, hrun, hrows, hfrom.runTurns, List.map_nil, List.foldl_nil]
    omega
  · rw [hfrom.history, investigationHistory]
    cases hrow : l.runs runId with
    | none => rfl
    | some row => exact h.1 row hrow

/-- A superstep goes on with the pass. -/
theorem step (h : FirstPass counted started node is)
    (hstep : InvestigationGraph.step catalog started.trusted selector node is = .ok (node', is')) :
    FirstPass counted started node' is' := by
  have hcharges := InvestigationGraph.step_charges hstep
  refine ⟨InvestigationGraph.step_turned h.turned hstep, InvestigationGraph.step_latest h.latest hstep, ?_,
    h.unresumed⟩
  have := h.charged
  rw [hcharges.runTurns, hcharges.caseTurns]
  omega

/-- Without a turn nothing was read, and the gate asks for human support. -/
theorem gate (h : FirstPass counted started node is) (now : SharedState) :
    counted < (Service.outputOf now started is).casePlanningTurns ∨
      (Service.outputOf now started is).gateResult.outcome = .decision .requireHumanSupport := by
  by_cases hturns : is.governed.budget.runPlanningTurns = 0
  · right
    have hnone : is.coordinator.records = [] := by
      rw [List.eq_nil_iff_forall_not_mem]
      intro r hr
      have := h.turned.records r hr
      omega
    have hresults : is.coordinator.latestResults .getOrderContext = none := by
      rw [h.latest, hnone]
      rfl
    have hgate : ∀ args, (evaluateGate started.trusted.canonicalIssueType
        is.coordinator.latestResults args).outcome = .decision .requireHumanSupport := by
      intro args
      rw [evaluateGate]
      split
      · rfl
      · rw [hresults]
        rfl
    simp only [Service.outputOf, graphOutput, h.unresumed, Option.getD_none, ite_self]
    exact hgate _
  · left
    have := h.charged
    simp only [Service.outputOf, graphOutput]
    omega

end FirstPass

/-! ### One call -/

/-- A gate was evaluated in one of the steps. -/
def Evaluated (steps : List (Label × ServiceState)) : Prop := ∃ step ∈ steps, step.1 = .evaluate

theorem evaluated_append {steps : List (Label × ServiceState)} {x : ServiceState} :
    Evaluated (steps ++ [(label, x)]) ↔ Evaluated steps ∨ label = .evaluate := by
  simp [Evaluated, or_and_right, exists_or]

/-- The case that a call has decided about. -/
def Phase.concluded : Phase → Option RowId
  | .settled c _ | .reported c _ => some c
  | _ => none

/-- What is known in each phase of a call that found `l₀`. -/
def Known (l₀ l : ConversationStore) (evaluated : Prop) : Phase → Prop
  | .idle | .parked .. | .stranded => True
  | .reviewing .. | .executing .. | .submitted .. => ¬ evaluated
  | .noted runId _ _ | .replying runId _ _ _ => ¬ evaluated ∧ FirstPass.Untouched l runId
  | .working runId c _ pass turns _ =>
    (pass = 0 ∧ turns = 0 ∧ ¬ evaluated ∧ FirstPass.Untouched l runId) ∨
      (pass ≠ 0 ∧ l₀.turnsCounted c < l.turnsCounted c)
  | .exploring _ c pass started node is =>
    (pass = 0 ∧ ¬ evaluated ∧ FirstPass (l.turnsCounted c) started node is) ∨
      (pass ≠ 0 ∧ l₀.turnsCounted c < l.turnsCounted c ∧
        l.turnsCounted c ≤ is.governed.budget.casePlanningTurns)
  | .answered _ c _ output _ =>
    evaluated ∧ l.turnsCounted c ≤ output.casePlanningTurns ∧
      (l₀.turnsCounted c < output.casePlanningTurns ∨
        output.gateResult.outcome = .decision .requireHumanSupport)
  | .settled c _ | .reported c _ => evaluated → l₀.stateOf c ≠ some .closed ∧
      (l.stateOf c = some .closed ∨ l₀.turnsCounted c < l.turnsCounted c)

/-- What a call has made of the store that it found. -/
structure Advances (l₀ : ConversationStore) (steps : List (Label × ServiceState)) (γ : Phase)
    (l : ConversationStore) : Prop where
  turns : ∀ c, l₀.turnsCounted c ≤ l.turnsCounted c
  closed : ∀ c, l₀.stateOf c = some .closed → l.stateOf c = some .closed
  known : Known l₀ l (Evaluated steps) γ
  offered : ∀ c, l.stateOf c = some .awaitingCustomerConfirmation →
    l₀.stateOf c = some .awaitingCustomerConfirmation ∨ (Evaluated steps ∧ γ.concluded = some c)

variable {steps : List (Label × ServiceState)} {x : ServiceState} {evaluated : Prop}

/-- What is known in a phase is a matter of the rows of the cases, and of what runs have done. -/
theorem Known.same (h : Known l₀ l evaluated γ) (hrows : ∀ c, l'.rowOf c = l.rowOf c)
    (huntouched : ∀ r, FirstPass.Untouched l r → FirstPass.Untouched l' r) :
    Known l₀ l' evaluated γ := by
  have hturns := fun c => ConversationStore.turnsCounted_congr (hrows c)
  have hstate := fun c => ConversationStore.stateOf_congr (hrows c)
  cases γ with
  | noted => exact ⟨h.1, huntouched _ h.2⟩
  | replying => exact ⟨h.1, huntouched _ h.2⟩
  | working =>
    simp only [Known, hturns] at h ⊢
    rcases h with ⟨hpass, hzero, hnone, hrun⟩ | h
    · exact Or.inl ⟨hpass, hzero, hnone, huntouched _ hrun⟩
    · exact Or.inr h
  | exploring => simpa only [Known, hturns] using h
  | answered => simpa only [Known, hturns] using h
  | settled => simpa only [Known, hturns, hstate] using h
  | reported => simpa only [Known, hturns, hstate] using h
  | _ => exact h

/-- A step that changes no row of a case. -/
theorem Advances.same (h : Advances l₀ steps γ l) (hrows : ∀ c, l'.rowOf c = l.rowOf c)
    (hconcluded : ∀ c, γ.concluded = some c → γ'.concluded = some c)
    (hknown : Known l₀ l' (Evaluated steps ∨ label = .evaluate) γ') :
    Advances l₀ (steps ++ [(label, x)]) γ' l' where
  turns c := by
    rw [ConversationStore.turnsCounted_congr (hrows c)]
    exact h.turns c
  closed c hc := by
    rw [ConversationStore.stateOf_congr (hrows c)]
    exact h.closed c hc
  known := by
    rw [evaluated_append]
    exact hknown
  offered c hc := by
    rw [ConversationStore.stateOf_congr (hrows c)] at hc
    refine (h.offered c hc).imp_right fun hoffer => ⟨?_, hconcluded c hoffer.2⟩
    exact evaluated_append.mpr (Or.inl hoffer.1)

/-- A step that keeps the phase and changes no row of a case. -/
theorem Advances.kept (h : Advances l₀ steps γ l) (hlabel : label ≠ .evaluate)
    (hrows : ∀ c, l'.rowOf c = l.rowOf c)
    (huntouched : ∀ r, FirstPass.Untouched l r → FirstPass.Untouched l' r) :
    Advances l₀ (steps ++ [(label, x)]) γ l' :=
  h.same hrows (fun _ hc => hc) (by
    rw [or_iff_left hlabel]
    exact h.known.same hrows huntouched)

/-- A step that opens a case or changes the row of an open one, in a phase that has not decided. -/
theorem Advances.changed {r' : CaseRow} (h : Advances l₀ steps γ l)
    (hnew : l'.rowOf caseId = some r') (hne : ∀ c, c ≠ caseId → l'.rowOf c = l.rowOf c)
    (hopen : l.stateOf caseId ≠ some .closed)
    (hturns : l.turnsCounted caseId ≤ r'.agentPlanningTurnCount) (hpending : γ.concluded = none)
    (hoffered : r'.caseState = .awaitingCustomerConfirmation →
      l.stateOf caseId = some .awaitingCustomerConfirmation ∨
        ((Evaluated steps ∨ label = .evaluate) ∧ γ'.concluded = some caseId))
    (hknown : Known l₀ l' (Evaluated steps ∨ label = .evaluate) γ') :
    Advances l₀ (steps ++ [(label, x)]) γ' l' where
  turns c := by
    by_cases e : c = caseId
    · subst e
      refine (h.turns c).trans (hturns.trans_eq ?_)
      rw [ConversationStore.turnsCounted, hnew, Option.elim_some]
    · rw [ConversationStore.turnsCounted_congr (hne c e)]
      exact h.turns c
  closed c hc := by
    by_cases e : c = caseId
    · subst e
      exact absurd (h.closed c hc) hopen
    · rw [ConversationStore.stateOf_congr (hne c e)]
      exact h.closed c hc
  known := by
    rw [evaluated_append]
    exact hknown
  offered c hc := by
    rw [evaluated_append]
    have hbefore : l.stateOf c = some .awaitingCustomerConfirmation →
        l₀.stateOf c = some .awaitingCustomerConfirmation := fun hc =>
      (h.offered c hc).resolve_right fun hoffer => by simp [hpending] at hoffer
    by_cases e : c = caseId
    · subst e
      simp only [ConversationStore.stateOf, hnew, Option.map_some, Option.some.injEq] at hc
      exact (hoffered hc).imp_left hbefore
    · rw [ConversationStore.stateOf_congr (hne c e)] at hc
      exact Or.inl (hbefore hc)

/-- What is charged to a case is added to what was. -/
theorem Service.le_charge (pass counted observed : Nat) :
    counted ≤ charge pass counted observed := by
  rw [charge]
  split
  · exact Nat.le_add_right _ _
  · exact le_max_left _ _

/-- A run that nothing was done for, after a move on a case. -/
theorem FirstPass.Untouched.changed {drawn : Bool} {r : RowId} (h : Untouched l r)
    (hf : l.folders caseId = some f) (hrow : l.runs runId = some row)
    (hgate : row'.gateResult = row.gateResult) (hcalls : f'.toolCalls = f.toolCalls) :
    Untouched (changed l drawn caseId runId f' row') r := by
  refine ⟨fun row₁ hrow₁ => ?_, fun c g hg => ?_⟩
  · by_cases e : r = runId
    · subst e
      rw [changed_run] at hrow₁
      rw [← Option.some.inj hrow₁, hgate]
      exact h.1 row hrow
    · rw [changed_run_of_ne e] at hrow₁
      exact h.1 row₁ hrow₁
  · by_cases e : c = caseId
    · subst e
      rw [changed_folder] at hg
      rw [← Option.some.inj hg]
      simpa only [CaseFolder.callsOfRun, hcalls] using h.2 c f hf
    · rw [changed_of_ne e] at hg
      exact h.2 c g hg

/-- A move on a case raises what is counted on it, or closes it, where a gate was evaluated. -/
theorem CaseMove.advances {drawn : Bool}
    (h : CaseMove settings caseId runId l s f row label γ drawn γ' s' f' row')
    (hf : l.folders caseId = some f) (hrow : l.runs runId = some row) (hinv : FolderInv l caseId f)
    (hγ : γ.Inv l) (hadvances : Advances l₀ steps γ l) :
    Advances l₀ (steps ++ [(label, x)]) γ' (changed l drawn caseId runId f' row') := by
  have hopen := h.isOpen hinv hf hγ
  have hnotClosed : l₀.stateOf caseId ≠ some .closed := by
    intro hclosed
    have hstill := hadvances.closed caseId hclosed
    rw [ConversationStore.stateOf_of_folder hf, Option.some.injEq] at hstill
    exact hopen hstill
  have hcounted := ConversationStore.turnsCounted_of_folder hf
  have hknown := hadvances.known
  have hstate := ConversationStore.stateOf_of_folder hf
  refine hadvances.changed ConversationStore.rowOf_changed
    (fun c e => ConversationStore.rowOf_changed_of_ne e) (by simpa [hstate] using hopen) ?_ ?_ ?_ ?_
  · rw [hcounted]
    cases h with
    | park => exact le_min hinv.budget.2.2 (Service.le_charge ..)
    | close | wait | ask | propose | revise => exact hcounted.symm.trans_le hknown.2.1
    | @fault a act fault =>
      rcases Service.faultedCase_cases fault with ⟨-, hu⟩ | ⟨-, hu⟩ | ⟨-, hu⟩ <;> rw [hu] <;>
        exact Nat.le_refl _
    | _ => exact Nat.le_refl _
  · cases h with
    | park passing => cases passing <;> rfl
    | askPackage asking => cases asking <;> rfl
    | closeAtLimit asking => cases asking <;> rfl
    | _ => rfl
  · intro hoffered
    cases h with
    | propose => exact Or.inr ⟨Or.inl hknown.1, rfl⟩
    | revise | submit | submitFaulted => exact Or.inl (hstate.trans (congrArg some hoffered))
    | @fault a act fault =>
      rcases Service.faultedCase_cases fault with ⟨-, hu⟩ | ⟨-, hu⟩ | ⟨-, hu⟩ <;>
        rw [hu] at hoffered <;> cases hoffered
    | _ => cases hoffered
  · have hlabel : label ≠ .evaluate := by
      cases h with
      | drop _ _ _ why => cases why <;> simp
      | _ => simp
    rw [or_iff_left hlabel]
    have hraised : ∀ {output : InvestigationOutput},
        output.gateResult.outcome ≠ .decision .requireHumanSupport →
        l₀.turnsCounted caseId < output.casePlanningTurns ∨
          output.gateResult.outcome = .decision .requireHumanSupport →
        f'.row.agentPlanningTurnCount = output.casePlanningTurns →
        l₀.turnsCounted caseId < (changed l drawn caseId runId f' row').turnsCounted caseId := by
      intro output hgate hraised hnew
      rw [ConversationStore.turnsCounted_of_folder changed_folder, hnew]
      exact hraised.resolve_right hgate
    have hasking : γ.Asking runId caseId → ¬ Evaluated steps := by
      intro hasking
      cases hasking with
      | replying => exact hknown.1
      | working => exact (hknown.resolve_right fun h => h.1 rfl).2.2.1
    cases h with
    | park => trivial
    | close =>
      refine fun _ => ⟨hnotClosed, Or.inl ?_⟩
      exact ConversationStore.stateOf_of_folder changed_folder
    | wait decision =>
      exact fun _ => ⟨hnotClosed, Or.inr (hraised (by simp [decision]) hknown.2.2 rfl)⟩
    | ask asked bound decision =>
      exact fun _ => ⟨hnotClosed, Or.inr (hraised (by simp [decision]) hknown.2.2 rfl)⟩
    | propose binding snapshot decision =>
      exact fun _ => ⟨hnotClosed, Or.inr (hraised (by simp [decision]) hknown.2.2 rfl)⟩
    | revise issueType intent revision =>
      exact Or.inr ⟨one_ne_zero, hraised (by simp [revision]) hknown.2.2 rfl⟩
    | askPackage asking => exact fun hevaluated => absurd hevaluated (hasking asking)
    | closeAtLimit asking => exact fun hevaluated => absurd hevaluated (hasking asking)
    | resume shipmentId => exact Or.inl ⟨rfl, rfl, hknown.1, hknown.2.changed hf hrow rfl rfl⟩
    | decline | fault | verify => exact fun hevaluated => absurd hevaluated hknown
    | drop | confirm | submit | submitFaulted => exact hknown

namespace FirstPass

/-- A run that nothing was done for, after a run was written as it was. -/
theorem Untouched.setRun {r : RowId} (h : Untouched l r) (hrow : l.runs runId = some row)
    (hgate : row'.gateResult = row.gateResult) : Untouched (l.setRun runId row') r := by
  refine ⟨fun row₁ hrow₁ => ?_, h.2⟩
  by_cases e : r = runId
  · subst e
    rw [ConversationStore.setRun_self] at hrow₁
    rw [← Option.some.inj hrow₁, hgate]
    exact h.1 row hrow
  · rw [ConversationStore.setRun_of_ne _ _ e] at hrow₁
    exact h.1 row₁ hrow₁

/-- A run that nothing was done for, after the facts of a case changed. -/
theorem Untouched.setFolder {r : RowId} (h : Untouched l r) (hcalls : f'.callsOfRun r = []) :
    Untouched (l.setFolder caseId f') r := by
  refine ⟨h.1, fun c g hg => ?_⟩
  by_cases e : c = caseId
  · subst e
    rw [ConversationStore.setFolder_self] at hg
    rw [← Option.some.inj hg]
    exact hcalls
  · rw [ConversationStore.setFolder_of_ne e] at hg
    exact h.2 c g hg

/-- Nothing was done for a run that is queued under a fresh id. -/
theorem Untouched.queued (h : StoreInv k l) (hfolders : l'.folders = l.folders)
    (hruns : ∀ row, l'.runs ⟨k, l.nextSerial⟩ = some row → row.gateResult = none) :
    Untouched l' ⟨k, l.nextSerial⟩ := by
  refine ⟨hruns, fun c f hf => ?_⟩
  rw [hfolders] at hf
  exact ((h.fresh le_rfl).2.2.2.1 c f hf).1

variable {counted : Nat} {started : Service.StartedInvestigation} {node : GraphNode}
  {is : InvestigationState}

/-- A superstep that failed has counted what it has charged. -/
theorem stumble {catalog : SyntheticReadToolCatalog} {selector : ObservationSelector}
    {e : GraphFailure} (h : FirstPass counted started node is)
    (hstep : InvestigationGraph.step catalog started.trusted selector node is = .error e) :
    FirstPass counted started .finished (Service.stumbled catalog started.trusted node is) := by
  have hcharges := InvestigationGraph.step_error hstep
  have hrun := hcharges.runTurns
  have hcase := hcharges.caseTurns
  have hcoordinator := Service.stumbled_coordinator catalog started.trusted node is
  refine ⟨⟨?_, ?_, fun _ _ e => GraphNode.noConfusion e⟩, ?_, ?_, h.unresumed⟩
  · intro r hr
    rw [hcoordinator] at hr
    have hr' := h.turned.records r hr
    omega
  · rw [hcoordinator]
    exact h.turned.pending
  · rw [hcoordinator]
    exact h.latest
  · have hcharged := h.charged
    omega

end FirstPass

/-- A pass that has come to its end has counted a turn, or asks for human support. -/
theorem Known.decided {pass : Nat} {started : Service.StartedInvestigation}
    {is : InvestigationState} (hturns : ∀ c, l₀.turnsCounted c ≤ l.turnsCounted c)
    (h : Known l₀ l evaluated (.exploring runId caseId pass started .finished is))
    {evaluated' : Prop} (hevaluated : evaluated') (now : SharedState)
    (hrows : ∀ c, l'.rowOf c = l.rowOf c) :
    Known l₀ l' evaluated'
      (.answered runId caseId pass (Service.outputOf now started is) false) := by
  have hsame := ConversationStore.turnsCounted_congr (hrows caseId)
  have hbefore := hturns caseId
  rcases h with ⟨-, -, hfirst⟩ | ⟨-, hraised, hle⟩
  · have hcharged := hfirst.charged
    refine ⟨hevaluated, hsame.trans_le ?_, (hfirst.gate now).imp_left hbefore.trans_lt⟩
    simp only [Service.outputOf, graphOutput]
    omega
  · exact ⟨hevaluated, hsame.trans_le hle, Or.inl (hraised.trans_le hle)⟩

/-- Every step of a call goes on with what is known of it. -/
theorem Move.advances {y : ServiceState} (h : Move settings k label γ x γ' y)
    (hinv : (machine settings k).inv γ x.1 x.2) (hadvances : Advances l₀ steps γ x.1)
    (hfirst : γ = .idle → γ' ≠ .idle → ¬ Evaluated steps) :
    Advances l₀ (steps ++ [(label, x)]) γ' y.1 := by
  obtain ⟨hstore, hγ, -, -⟩ := hinv
  have hknown := hadvances.known
  cases h with
  | look kind => exact hadvances.kept (by rintro rfl; cases kind) (fun _ => rfl) fun _ h => h
  | load kind =>
    exact hadvances.kept (by rintro rfl; rcases kind with kind | kind <;> cases kind)
      (fun _ => rfl) fun _ h => h
  | hold kind =>
    exact hadvances.kept (by rintro rfl; rcases kind with kind | kind <;> cases kind)
      (fun _ => rfl) fun _ h => h
  | note => exact hadvances.kept (by simp) (fun _ => rfl) fun _ h => h
  | tell e about carries visible ordinary known tells =>
    cases tells with
    | settled =>
      refine hadvances.same (fun _ => rfl) (fun _ hc => hc) ?_
      rw [or_iff_left (by simp)]
      exact hknown
    | _ => exact hadvances.kept (by simp) (fun _ => rfl) fun _ h => h
  | receive content inactive =>
    refine hadvances.same (fun _ => rfl) (fun _ hc => by cases hc) ?_
    rw [or_iff_left (by simp)]
    exact ⟨hfirst rfl (by simp), .queued hstore rfl fun row hrow => by
      obtain rfl := Option.some.inj ((ConversationStore.setRun_self ..).symm.trans hrow)
      rfl⟩
  | reply content stored state =>
    refine hadvances.same (fun _ => rfl) (fun _ hc => by cases hc) ?_
    rw [or_iff_left (by simp)]
    exact ⟨hfirst rfl (by simp), .queued hstore rfl fun row hrow => by
      obtain rfl := Option.some.inj ((ConversationStore.setRun_self ..).symm.trans hrow)
      rfl⟩
  | review stored found =>
    refine hadvances.same (fun _ => rfl) (fun _ hc => by cases hc) ?_
    rw [or_iff_left (by simp)]
    exact hfirst rfl (by simp)
  | begin starts stored =>
    refine hadvances.same (fun _ => rfl) (fun _ hc => by cases starts <;> cases hc) ?_
    rw [or_iff_left (by simp)]
    cases starts with
    | noted => exact ⟨hknown.1, hknown.2.setRun stored rfl⟩
    | replying => exact ⟨hknown.1, hknown.2.setRun stored rfl⟩
    | reviewing => exact hknown
    | working =>
      refine hknown.imp_left fun h => ⟨h.1, h.2.1, h.2.2.1, h.2.2.2.setRun stored rfl⟩
    | executing => exact hknown
  | route => exact hadvances.kept (by simp) (fun _ => rfl) fun _ h => h
  | refuse refusable =>
    exact hadvances.same (fun _ => rfl) (fun _ hc => by cases refusable <;> cases hc) trivial
  | fail => exact hadvances.same (fun _ => rfl) (fun _ hc => by cases hc) trivial
  | answer => exact hadvances.same (fun _ => rfl) (fun _ hc => by cases hc) trivial
  | @openCase l s runId messageId run customerId orderId issueType target stored =>
    have hnone : l.folders ⟨k, l.nextSerial⟩ = none := (hstore.fresh le_rfl).2.1
    refine hadvances.changed (ConversationStore.rowOf_of_folder (ConversationStore.setFolder_self ..))
      (fun c e => ?_) (by simp [ConversationStore.stateOf, ConversationStore.rowOf, hnone])
      (by simp [ConversationStore.turnsCounted, ConversationStore.rowOf, hnone]) rfl
      (fun hoffered => by cases hoffered) ?_
    · exact congrArg (Option.map (·.row)) (ConversationStore.setFolder_of_ne e)
    · rw [or_iff_left (by simp)]
      have hopened : FirstPass.Untouched ((l.tick.setFolder ⟨k, l.nextSerial⟩
          ⟨Service.newCaseRow customerId orderId issueType target, [], [], [], [], none, [],
            []⟩).setRun runId { run with caseId := some ⟨k, l.nextSerial⟩ }) runId :=
        (FirstPass.Untouched.setFolder hknown.2 rfl).setRun stored rfl
      exact Or.inl ⟨rfl, rfl, hknown.1, hopened⟩
  | @facts label γ γ' l s caseId f f' kind facts stored step =>
    have hrows : ∀ c, (l.setFolder caseId f').rowOf c = l.rowOf c := by
      intro c
      by_cases e : c = caseId
      · subst e
        rw [ConversationStore.rowOf_of_folder (ConversationStore.setFolder_self ..),
          ConversationStore.rowOf_of_folder stored, step.row]
      · exact congrArg (Option.map (·.row)) (ConversationStore.setFolder_of_ne e)
    have huntouched : ∀ r, FirstPass.Untouched l r →
        FirstPass.Untouched (l.setFolder caseId f') r := by
      intro r h
      refine h.setFolder ?_
      simpa only [CaseFolder.callsOfRun, step.toolCalls] using h.2 caseId f stored
    refine hadvances.same hrows (fun _ hc => by cases facts <;> cases hc) ?_
    rw [or_iff_left (by rintro rfl; simp at kind)]
    cases facts with
    | replying | working => exact hknown.same hrows huntouched
    | answered => exact (hknown.same hrows huntouched :)
  | @start γ l s runId caseId pass turns number f started begins stored from_ =>
    refine hadvances.same (fun _ => rfl) (fun _ hc => by cases begins <;> cases hc) ?_
    rw [or_iff_left (by simp)]
    cases begins with
    | replying => exact Or.inl ⟨rfl, hknown.1, FirstPass.start (l := l) hknown.2 stored from_⟩
    | working =>
      rcases hknown with ⟨rfl, rfl, hnone, huntouched⟩ | ⟨hpass, hraised⟩
      · exact Or.inl ⟨rfl, hnone, FirstPass.start (l := l) huntouched stored from_⟩
      · refine Or.inr ⟨hpass, hraised, ?_⟩
        show l.turnsCounted caseId ≤ started.budget.casePlanningTurns
        rw [l.turnsCounted_of_folder stored, (initialBudget_some from_.budget).2.1, from_.caseTurns]
        exact le_foldl_max _ _
  | @superstep l s runId caseId pass f started node node' is is' selector stored step =>
    have hrows : ∀ c, (l.explored caseId runId f
        (Service.superstepEvents s.catalog started.trusted caseId runId node is)
        (is'.coordinator.records.drop is.coordinator.records.length) is'.governed.cache).rowOf c
          = l.rowOf c := by
      intro c
      by_cases e : c = caseId
      · subst e
        exact (ConversationStore.rowOf_of_folder (ConversationStore.setFolder_self ..)).trans
          (ConversationStore.rowOf_of_folder stored).symm
      · exact congrArg (Option.map (·.row)) (ConversationStore.setFolder_of_ne e)
    have hturns := ConversationStore.turnsCounted_congr (hrows caseId)
    refine hadvances.same hrows (fun _ hc => by cases hc) ?_
    rw [or_iff_left (by simp)]
    rcases hknown with ⟨hpass, hnone, hfirst⟩ | ⟨hpass, hraised, hle⟩
    · exact Or.inl ⟨hpass, hnone, hturns.symm ▸ hfirst.step step⟩
    · refine Or.inr ⟨hpass, hturns.symm ▸ hraised, ?_⟩
      rw [hturns, (InvestigationGraph.step_charges step).caseTurns]
      exact hle.trans (Nat.le_add_right _ _)
  | @stumble l s runId caseId pass started node is e selector step =>
    refine hadvances.same (fun _ => rfl) (fun _ hc => by cases hc) ?_
    rw [or_iff_left (by simp)]
    rcases hknown with ⟨hpass, hnone, hfirst⟩ | ⟨hpass, hraised, hle⟩
    · exact Or.inl ⟨hpass, hnone, hfirst.stumble step⟩
    · refine Or.inr ⟨hpass, hraised, hle.trans ?_⟩
      rw [(InvestigationGraph.step_error step).caseTurns]
      exact Nat.le_add_right _ _
  | @evaluate l s runId caseId pass started is row stored =>
    exact hadvances.same (fun _ => rfl) (fun _ hc => by cases hc)
      (Known.decided hadvances.turns hknown (Or.inr rfl) s (fun _ => rfl))
  | @resumeGate x runId caseId pass started is resumed first unread =>
    exact hadvances.same (fun _ => rfl) (fun _ hc => by cases hc)
      (Known.decided hadvances.turns hknown (Or.inr rfl) x.2 (fun _ => rfl))
  | @retry l s caseId f stored state actions =>
    have hstate := ConversationStore.stateOf_of_folder stored
    refine hadvances.changed (ConversationStore.rowOf_of_folder (ConversationStore.putCase_self ..))
      (fun c e => congrArg (Option.map CaseFolder.row) (ConversationStore.putCase_of_ne (l :=
        l.queued k (some caseId)) e)) (by simp [hstate, state])
      (ConversationStore.turnsCounted_of_folder stored).le rfl (fun hoffered => by cases hoffered) ?_
    rw [or_iff_left (by simp)]
    have hqueued : FirstPass.Untouched (l.queued k (some caseId)) ⟨k, l.nextSerial⟩ :=
      .queued hstore rfl fun row hrow => by
        obtain rfl := Option.some.inj ((ConversationStore.setRun_self ..).symm.trans hrow)
        rfl
    exact Or.inl ⟨rfl, rfl, hfirst rfl (by simp), hqueued.setFolder (hqueued.2 caseId f stored)⟩
  | @retryAction l s caseId f act stored state actions failed =>
    have hstate := ConversationStore.stateOf_of_folder stored
    refine hadvances.changed (ConversationStore.rowOf_of_folder (ConversationStore.putCase_self ..))
      (fun c e => congrArg (Option.map CaseFolder.row) (ConversationStore.putCase_of_ne (l :=
        l.queued k (some caseId)) e)) (by simp [hstate, state])
      (ConversationStore.turnsCounted_of_folder stored).le rfl (fun hoffered => by cases hoffered) ?_
    rw [or_iff_left (by simp)]
    exact hfirst rfl (by simp)
  | change folder run move =>
    exact move.advances folder run (hstore.folders _ _ folder).2.2 hγ hadvances
  | strand => exact hadvances.same (fun _ => rfl) (fun _ hc => by cases hc) trivial

/-! ### Calls under their journal -/

section Journal

variable {p p' : JournalPoint} {y : ServiceState}

/-- The journal of a call that has queued its run is not blank again. -/
theorem JournalMove.opened (h : JournalMove settings k label p x p' y) (hp : p ≠ .blank) :
    p' ≠ .blank := by
  cases h with
  | queue => exact absurd rfl hp
  | same | quiet | gate | note => exact hp
  | _ => simp

/-- A step that queues a run finds a blank journal. -/
theorem JournalMove.queues (h : JournalMove settings k label p x p' y)
    (hlabel : label = .receive ∨ (∃ c, label = .retry c) ∨ ∃ q, label = .answer q)
    (hchanged : y.1 ≠ x.1) : p = .blank ∧ p' ≠ .blank := by
  rcases hlabel with rfl | ⟨c, rfl⟩ | ⟨q, rfl⟩ <;> cases h with
  | same same => exact absurd same hchanged
  | quiet label_ => cases label_
  | finish label_ => cases label_
  | queue => exact ⟨rfl, by simp⟩

/-- A call leaves the idle phase with the step that queues its run. -/
theorem Move.queues (h : Move settings k label .idle x γ' y) (hγ' : γ' ≠ .idle) :
    (label = .receive ∨ (∃ c, label = .retry c) ∨ ∃ q, label = .answer q) ∧ y.1 ≠ x.1 := by
  have hserial : ∀ {l l' : ConversationStore}, l.nextSerial < l'.nextSerial → l' ≠ l := by
    rintro l _ hlt rfl
    exact lt_irrefl _ hlt
  cases h with
  | look | note => exact absurd rfl hγ'
  | load _ facts => cases facts
  | tell _ _ _ _ _ _ tells => cases tells
  | receive | reply => exact ⟨Or.inl rfl, hserial (Nat.lt_succ_of_lt (Nat.lt_succ_self _))⟩
  | review => exact ⟨Or.inr (Or.inr ⟨_, rfl⟩), hserial (Nat.lt_succ_self _)⟩
  | begin starts => cases starts
  | refuse refusable => cases refusable
  | facts _ facts => cases facts
  | start begins => cases begins
  | retry | retryAction => exact ⟨Or.inr (Or.inl ⟨_, rfl⟩), hserial (Nat.lt_succ_self _)⟩
  | change folder run move =>
    cases move with
    | park passing => cases passing
    | askPackage asking => cases asking
    | closeAtLimit asking => cases asking

/-- A gate is evaluated while a pass is made. -/
theorem Move.evaluates (h : Move settings k .evaluate γ x γ' y) : γ ≠ .idle := by
  cases h with
  | look kind => cases kind
  | hold kind => rcases kind with kind | kind <;> cases kind
  | load kind => rcases kind with kind | kind <;> cases kind
  | facts kind => simp at kind
  | change folder run move =>
    cases move with
    | drop _ _ _ why => cases why
  | _ => simp

/-- What is known of a call whose journal is kept. -/
structure Journaled (l₀ : ConversationStore) (steps : List (Label × ServiceState))
    (γ : Phase × JournalPoint) (l : ConversationStore) : Prop where
  advances : Advances l₀ steps γ.1 l
  opened : γ.1 ≠ .idle ∨ Evaluated steps → γ.2 ≠ .blank

/-- Every step of a call goes on with what is known of it. -/
theorem Journaled.step {γ γ' : Phase × JournalPoint} (hinv : (watch settings k).inv γ x.1 x.2)
    (h : Journaled l₀ steps γ x.1) (hmove : (watch settings k).move label γ x γ' y) :
    Journaled l₀ (steps ++ [(label, x)]) γ' y.1 := by
  obtain ⟨γ, p⟩ := γ
  obtain ⟨γ', p'⟩ := γ'
  obtain ⟨hmove, hnote⟩ := hmove
  have hqueues : γ = .idle → γ' ≠ .idle → p = .blank ∧ p' ≠ .blank := by
    rintro rfl hγ'
    obtain ⟨hlabel, hchanged⟩ := hmove.queues hγ'
    exact hnote.queues hlabel hchanged
  refine ⟨hmove.advances hinv.1 h.advances fun hidle hγ' hevaluated =>
    h.opened (Or.inr hevaluated) (hqueues hidle hγ').1, fun hopened => ?_⟩
  by_cases hidle : γ = .idle
  · by_cases hγ' : γ' = .idle
    · refine hnote.opened (h.opened (Or.inr ?_))
      refine (evaluated_append.mp (hopened.resolve_left (not_not.mpr hγ'))).resolve_right ?_
      rintro rfl
      exact hmove.evaluates hidle
    · exact (hqueues hidle hγ').2
  · exact hnote.opened (h.opened (Or.inl hidle))

end Journal

/-! ### Whole runs -/

/-- A call of the service that has ended. -/
abbrev PastCall : Type := Past String ConversationStore SharedState Label Request Response

namespace PastCall

/-- The call investigated a case, and returned normally. -/
def investigates (c : RowId) (past : PastCall) : Bool :=
  (past.steps.any fun step => step.1 = .evaluate) &&
    match past.answer with
    | .ok r => r.caseId = some c
    | .error _ => false

/-- The call brought a case, from wherever it was, to the confirmation of a proposal. -/
def offersAgain (c : RowId) (past : PastCall) : Bool :=
  past.begun.stateOf c ≠ some .awaitingCustomerConfirmation &&
    past.left.stateOf c = some .awaitingCustomerConfirmation

theorem investigates_iff {past : PastCall} : past.investigates c = true ↔
    Evaluated past.steps ∧ ∃ r, past.answer = .ok r ∧ r.caseId = some c := by
  rw [investigates, Bool.and_eq_true, List.any_eq_true]
  cases past.answer with
  | error e => simp
  | ok r => simp [Evaluated]

/-- What every call of the service has done to a case. -/
structure Known (past : PastCall) (c : RowId) : Prop where
  turns : past.begun.turnsCounted c ≤ past.left.turnsCounted c
  closed : past.begun.stateOf c = some .closed → past.left.stateOf c = some .closed
  budget : past.left.turnsCounted c ≤ 16
  progress : past.investigates c = true → past.begun.stateOf c ≠ some .closed ∧
    (past.left.stateOf c = some .closed ∨
      past.begun.turnsCounted c < past.left.turnsCounted c)
  offers : past.offersAgain c = true → past.investigates c = true

namespace Known

variable {past : PastCall}

/-- No call lowers the measure of a case, -/
theorem grows (h : past.Known c) : past.begun.usage c ≤ past.left.usage c := by
  have hturns := h.turns
  have hclosed := h.closed
  simp only [ConversationStore.usage]
  split_ifs with hbegun hleft
  · omega
  · exact absurd (hclosed hbegun) hleft
  · omega
  · omega

/-- one that investigated it raises it, -/
theorem raises (h : past.Known c) (hvisit : past.investigates c = true) :
    past.begun.usage c < past.left.usage c := by
  have hturns := h.turns
  obtain ⟨hopen, hprogress⟩ := h.progress hvisit
  simp only [ConversationStore.usage]
  rw [if_neg hopen]
  rcases hprogress with hclosed | hraised
  · rw [if_pos hclosed]
    omega
  · omega

/-- and it stays within 17. -/
theorem bounded (h : past.Known c) : past.left.usage c ≤ 17 := by
  have hbudget := h.budget
  simp only [ConversationStore.usage]
  split <;> omega

end Known

/-- Every call of the service is known. -/
theorem known {g₀ g : ServiceConfig} {doing : String → List (Label × ServiceState)}
    {log : List PastCall} (hfresh : ServiceConfig.Fresh g₀)
    (h : Chronicles (Request.program settings) SharedState.Drifts assumes g₀ g doing log)
    {past : PastCall} (hpast : past ∈ log) (c : RowId) : past.Known c := by
  have hcalls := h.calls (T := fun _ l₀ steps γ l => Journaled l₀ steps γ l)
    (fun k r l _ _ => Request.watched settings k r l) (watch_preserved settings assumes)
    (fun k l s _ => ⟨⟨fun _ => le_rfl, fun _ h => h, trivial, fun _ h => Or.inl h⟩,
      fun h => by rcases h with h | ⟨_, hstep, -⟩
                  · exact absurd rfl h
                  · cases hstep⟩)
    (fun hinv hknown _ hmove => hknown.step hinv hmove) hfresh.calls
    (fun k => ⟨hfresh.inv k, trivial⟩)
  obtain ⟨⟨γ, p⟩, ⟨hended, -⟩, ⟨s, ⟨hstore, -⟩, -⟩, ⟨hadvances, -⟩⟩ := hcalls.2 past hpast
  have hended : Phase.Ended past.answer γ := hended
  refine ⟨hadvances.turns c, hadvances.closed c, ?_, fun hvisit => ?_, fun hoffers => ?_⟩
  · cases hf : past.left.folders c with
    | none => simp [ConversationStore.turnsCounted, ConversationStore.rowOf, hf]
    | some f =>
      rw [ConversationStore.turnsCounted_of_folder hf]
      exact (hstore.folders c f hf).2.2.budget.2.2
  · obtain ⟨hevaluated, r, hanswer, hcase⟩ := investigates_iff.mp hvisit
    rw [hanswer] at hended
    rcases hended with ⟨-, hnone, -⟩ | ⟨c', d, rfl, hsame, -⟩
    · rw [hcase] at hnone
      cases hnone
    · obtain rfl := Option.some.inj (hcase.symm.trans hsame)
      exact hadvances.known hevaluated
  · simp only [offersAgain, Bool.and_eq_true, decide_eq_true_eq] at hoffers
    rcases hadvances.offered c hoffers.2 with hbefore | ⟨hevaluated, hconcluded⟩
    · exact absurd hbefore hoffers.1
    · refine investigates_iff.mpr ⟨hevaluated, ?_⟩
      cases hanswer : past.answer with
      | error e =>
        rw [hanswer] at hended
        rcases hended with ⟨rfl, -⟩ | rfl <;> cases hconcluded
      | ok r =>
        rw [hanswer] at hended
        rcases hended with ⟨rfl, -⟩ | ⟨c', d, rfl, hsame, -⟩
        · cases hconcluded
        · exact ⟨r, rfl, hsame.trans hconcluded⟩

end PastCall

/-- No case is investigated for ever. In every run of a fresh service each call that investigates a
    case and returns normally closes it or counts a turn of it; there are at most 17 of them, none
    comes after one that closed the case, and the 17th has closed it. Every call that brings the case
    to the confirmation of a proposal is one of them. -/
theorem investigations_end {g₀ g : ServiceConfig} {doing : String → List (Label × ServiceState)}
    {log : List PastCall} (hfresh : ServiceConfig.Fresh g₀)
    (h : Chronicles (Request.program settings) SharedState.Drifts assumes g₀ g doing log)
    (k : String) (c : RowId) :
    let calls := log.filter (·.key = k)
    let visits := calls.filter (PastCall.investigates c)
    (∀ past ∈ visits, past.left.stateOf c = some .closed ∨
        past.begun.turnsCounted c < past.left.turnsCounted c) ∧
      visits.length ≤ 17 ∧
      (∀ earlier past later, visits = earlier ++ past :: later →
        past.left.stateOf c = some .closed → later = []) ∧
      (visits.length = 17 → ∀ past ∈ visits.getLast?, past.left.stateOf c = some .closed) ∧
      (calls.filter (PastCall.offersAgain c)).length ≤ 17 := by
  intro calls visits
  have hchain := h.chain hfresh.calls k
  have hknown : ∀ past ∈ calls, past.Known c := fun past hpast =>
    PastCall.known hfresh h (List.mem_of_mem_filter hpast) c
  have hvisit : ∀ past ∈ visits, past ∈ calls ∧ past.investigates c = true := fun past hpast =>
    List.mem_filter.mp hpast
  have hcount : visits.length ≤ 17 := hchain.length_filter_le (·.usage c) _
    (fun past hpast => (hknown past hpast).grows) (fun past hpast => (hknown past hpast).raises)
    fun past hpast => (hknown past hpast).bounded
  have hlast : ∀ earlier past later, visits = earlier ++ past :: later →
      past.left.stateOf c = some .closed → later = [] := by
    intro earlier past later hsplit hclosed
    have hpairs := (hchain.pairwise (P := fun l => l.stateOf c = some .closed)
      fun past hpast => (hknown past hpast).closed).filter (PastCall.investigates c)
    rw [show calls.filter (PastCall.investigates c) = visits from rfl, hsplit] at hpairs
    refine List.eq_nil_iff_forall_not_mem.mpr fun next hnext => ?_
    have hbegun := List.rel_of_pairwise_cons (List.pairwise_append.mp hpairs).2.1 hnext hclosed
    have hnext' := hvisit next (hsplit ▸ List.mem_append_right _ (List.mem_cons_of_mem _ hnext))
    exact ((hknown next hnext'.1).progress hnext'.2).1 hbegun
  refine ⟨fun past hpast => ?_, hcount, hlast, fun hall past hpast => ?_, ?_⟩
  · have hpast := hvisit past hpast
    exact ((hknown past hpast.1).progress hpast.2).2
  · by_contra hopen
    have hturns : (calls.filter fun past => past.investigates c &&
        decide (past.left.stateOf c ≠ some .closed)).length ≤ 16 :=
      hchain.length_filter_le (·.turnsCounted c) _ (fun past hpast => (hknown past hpast).turns)
        (fun past hpast hvisits => by
          simp only [Bool.and_eq_true, decide_eq_true_eq] at hvisits
          exact (((hknown past hpast).progress hvisits.1).2).resolve_left hvisits.2)
        fun past hpast => (hknown past hpast).budget
    have hvisits : (calls.filter fun past => past.investigates c &&
        decide (past.left.stateOf c ≠ some .closed)) = visits := by
      refine List.filter_congr fun visit hmem => ?_
      by_cases hinvestigates : visit.investigates c = true
      · rw [hinvestigates, Bool.true_and, decide_eq_true_eq]
        -- a closing visit would be the last one, which left the case open
        intro hclosed
        obtain ⟨earlier, later, hsplit⟩ :=
          List.append_of_mem (List.mem_filter.mpr ⟨hmem, hinvestigates⟩)
        obtain rfl := hlast earlier visit later hsplit hclosed
        have hends : visits.getLast? = some visit := by
          rw [show visits = earlier ++ [visit] from hsplit, List.getLast?_concat]
        rw [hends] at hpast
        exact hopen (Option.mem_some.mp hpast ▸ hclosed)
      · rw [Bool.not_eq_true] at hinvestigates
        rw [hinvestigates, Bool.false_and]
    rw [hvisits] at hturns
    omega
  · refine le_trans ?_ hcount
    rw [← List.countP_eq_length_filter, ← List.countP_eq_length_filter]
    exact List.countP_mono_left fun past hpast => (hknown past hpast).offers

/-! ### The calls of a session -/

/-- The calls that a session has ended. -/
def Visit.log (settings : Settings) (k : String) : List Visit → ServiceState → List PastCall
  | [], _ => []
  | v :: visits, x =>
    let run := (v.request.program settings k).exec (v.found x)
    ⟨k, v.request, x.1, (v.request.program settings k).steps (v.found x), run.1, run.2.1⟩ ::
      log settings k visits run.2

theorem Visit.log_filter (visits : List Visit) (x : ServiceState) :
    (Visit.log settings k visits x).filter (·.key = k) = Visit.log settings k visits x := by
  induction visits generalizing x with
  | nil => rfl
  | cons v visits ih => simp [Visit.log, ih]

/-- A session has the chronicle of its calls. -/
theorem Visit.chronicles (visits : List Visit) {g₀ : ServiceConfig} {l : ConversationStore}
    {stores : String → ConversationStore} {doing : String → List (Label × ServiceState)}
    {log : List PastCall} (hstore : stores k = l)
    (h : Chronicles (Request.program settings) SharedState.Drifts assumes g₀
      ⟨stores, s, fun _ => none⟩ doing log)
    (allowed : ∀ step ∈ Visit.steps settings k visits (l, s), assumes k step.1 step.2) :
    ∃ g doing', g.calls = (fun _ => none) ∧
      Chronicles (Request.program settings) SharedState.Drifts assumes g₀ g doing'
        (log ++ Visit.log settings k visits (l, s)) := by
  induction visits generalizing s l stores doing log with
  | nil => exact ⟨_, _, rfl, by rwa [Visit.log, List.append_nil]⟩
  | cons v visits ih =>
    subst hstore
    have hdrift : SharedState.Drifts s { s with now := s.now + v.after } :=
      ⟨rfl, rfl, rfl, rfl, by simp⟩
    obtain ⟨doing', hserved⟩ := (h.environment hdrift).serves v.request rfl fun step hstep =>
      allowed step (List.mem_append_left _ hstep)
    obtain ⟨g, doing'', hidle, hrest⟩ := ih (Function.update_self ..) hserved fun step hstep =>
      allowed step (List.mem_append_right _ hstep)
    rw [List.append_assoc] at hrest
    exact ⟨g, doing'', hidle, hrest⟩

end AfterSales

/-! ### A proposal that expires, and the case investigated again -/

namespace AfterSales.Session
open Interleave

section Twice

attribute [local instance] PolicyDigest.bySource ProofDigest.byId ResultDigest.byName
  IdText.spelled FactDigest.byMessage CaseFolding.lower EvidenceDigest.byResults
  MessageRedaction.none TraceVolume.one

/-- The customer lets a proposal expire, and asks for another one. -/
def askedTwice : List Visit :=
  [⟨0, .submitMessage "my parcel is late" (providersOf (some reportLate) everyRead)⟩,
    ⟨7200000000, .confirmProposal ⟨⟨"CONV-1", 2⟩, 3⟩ 1⟩,
    ⟨0, .retryCase ⟨"CONV-1", 2⟩ (providersOf none everyRead)⟩]

/-- The calls of this session. -/
def askedTwiceLog : List PastCall :=
  Visit.log demoSettings "CONV-1" askedTwice (.created "CUS-1", demoShared fun _ => [])

/-- The first and the last of these calls investigate, -/
theorem askedTwice_counts :
    (askedTwiceLog.filter (PastCall.investigates ⟨"CONV-1", 2⟩)).length = 2 ∧
      (askedTwiceLog.filter (PastCall.offersAgain ⟨"CONV-1", 2⟩)).length = 2 := by
  decide +kernel

/-- and each counts its turns. -/
theorem askedTwice_ends :
    ∃ g doing, Chronicles (Request.program demoSettings) SharedState.Drifts (fun _ _ _ => True)
        ⟨fun _ => .created "CUS-1", demoShared fun _ => [], fun _ => none⟩ g doing askedTwiceLog ∧
      (askedTwiceLog.filter (PastCall.investigates ⟨"CONV-1", 2⟩)).length = 2 ∧
      ∀ past ∈ askedTwiceLog.filter (PastCall.investigates ⟨"CONV-1", 2⟩),
        past.left.stateOf ⟨"CONV-1", 2⟩ = some .closed ∨
          past.begun.turnsCounted ⟨"CONV-1", 2⟩ < past.left.turnsCounted ⟨"CONV-1", 2⟩ := by
  have hbegin : Chronicles (Request.program demoSettings) SharedState.Drifts (fun _ _ _ => True)
      ⟨fun _ => .created "CUS-1", demoShared fun _ => [], fun _ => none⟩ _ _ [] := .begin
  obtain ⟨g, doing, -, h⟩ := Visit.chronicles (k := "CONV-1") askedTwice rfl hbegin fun _ _ => trivial
  rw [List.nil_append] at h
  obtain ⟨hraises, -⟩ := investigations_end ⟨fun _ => ⟨"CUS-1", rfl⟩, fun _ => rfl, rfl,
    rfl, (demoShared_fresh _).ticketIds⟩ h "CONV-1" ⟨"CONV-1", 2⟩
  rw [Visit.log_filter] at hraises
  exact ⟨g, doing, h, askedTwice_counts.1, hraises⟩

end Twice

end AfterSales.Session
