import AfterSales.Application.Investigate
import AfterSales.Investigation.Revision

/-! What a superstep of the graph charges: a planning turn, or a read that reached its source.

    The event that counts a turn is appended exactly when the budget of the run and of the case
    counts one, and a call that reached its source is stored exactly when the budget counts a read.
    The turn a call is stored with is one that its run has had. -/

namespace AfterSales

variable [PolicyDigest] [ProofDigest] [ResultDigest]

/-- What a superstep charges. -/
structure Charges (turn : Bool) (s s' : InvestigationState) (reads : List CallRecord) : Prop where
  records : s'.coordinator.records = s.coordinator.records ++ reads
  planned : ∀ r ∈ reads, r.planningTurn ≤ 8
  reads : s'.governed.budget.actualReadToolExecutions =
    s.governed.budget.actualReadToolExecutions + reads.countP (·.actualExecution)
  runTurns : s'.governed.budget.runPlanningTurns
    = s.governed.budget.runPlanningTurns + turn.toNat
  caseTurns : s'.governed.budget.casePlanningTurns
    = s.governed.budget.casePlanningTurns + turn.toNat

/-- The turn a call is stored with is one that its run has had. -/
structure Turned (node : GraphNode) (s : InvestigationState) : Prop where
  records : ∀ r ∈ s.coordinator.records,
    1 ≤ r.planningTurn ∧ r.planningTurn ≤ s.governed.budget.runPlanningTurns
  pending : s.coordinator.pendingRetry.isSome → s.coordinator.records ≠ []
  node : ∀ tool arguments, node = .tools tool arguments →
    1 ≤ s.governed.budget.runPlanningTurns

/-- A superstep that fails leaves the coordinator as it is. -/
theorem Service.stumbled_coordinator (catalog : SyntheticReadToolCatalog)
    (trusted : TrustedToolContext) (node : GraphNode) (s : InvestigationState) :
    (Service.stumbled catalog trusted node s).coordinator = s.coordinator := by
  cases node <;> rfl

namespace InvestigationGraph

variable {catalog : SyntheticReadToolCatalog} {trusted : TrustedToolContext}
  {selector : ObservationSelector} {s s' : InvestigationState} {node : GraphNode}

omit [ProofDigest] [ResultDigest] in
theorem endTurn_budget {selection : Coordinator.PostSelection × Coordinator}
    (h : endTurn s selection = (node, s')) : s'.governed = s.governed := by
  obtain ⟨post, c⟩ := selection
  cases post with
  | call tool arguments =>
    obtain ⟨-, rfl⟩ := Prod.mk.inj h
    rfl
  | forceReplan =>
    obtain ⟨-, rfl⟩ := Prod.mk.inj h
    rfl
  | terminal =>
    obtain ⟨-, rfl⟩ := Prod.mk.inj h
    rfl

omit [ResultDigest] in
/-- A model turn charges a turn when the selector is asked, and no read. -/
theorem callModel_charges (h : callModel catalog trusted selector s = .ok (node, s')) :
    Charges (Service.turnStarts catalog trusted .agent s) s s' [] ∧
      ((∃ tool arguments, node = .tools tool arguments) → s.coordinator.pendingRetry = none →
        1 ≤ s'.governed.budget.runPlanningTurns) := by
  have hrecords := (callModel_spec h).1.records
  unfold callModel at h
  cases hpre : s.coordinator.beforeSelector catalog trusted s.governed.budget with
  | mk pre c =>
    rw [hpre] at h
    rw [Service.turnStarts, hpre]
    cases pre with
    | terminal =>
      obtain ⟨rfl, rfl⟩ := Prod.mk.inj (Except.ok.inj h)
      exact ⟨⟨by simpa using hrecords, by simp, rfl, rfl, rfl⟩, by simp⟩
    | retry d =>
      obtain ⟨rfl, rfl⟩ := Prod.mk.inj (Except.ok.inj h)
      refine ⟨⟨by simpa using hrecords, by simp, rfl, rfl, rfl⟩, fun _ hnone => ?_⟩
      obtain ⟨hsame, hretry, -⟩ := Coordinator.beforeSelector_spec hpre
      have hdue := hretry d rfl
      rcases hsame.pendingRetry with e | ⟨e, -⟩ <;> simp [e, hnone] at hdue
    | select =>
      simp only at h ⊢
      split at h
      · rename_i hnone
        obtain ⟨rfl, rfl⟩ := Prod.mk.inj (Except.ok.inj h)
        rw [hnone]
        exact ⟨⟨by simpa using hrecords, by simp, rfl, rfl, rfl⟩, by simp⟩
      · rename_i budget hbudget
        obtain ⟨hreads, hrun, hcase⟩ := ToolBudget.recordPlanningTurn_some hbudget
        have hgoverned : s'.governed = { s.governed with budget := budget } := by
          split at h
          · cases h
          · exact endTurn_budget (Except.ok.inj h)
          · exact endTurn_budget (Except.ok.inj h)
        rw [hbudget]
        refine ⟨⟨by simpa using hrecords, by simp, ?_, ?_, ?_⟩, fun _ _ => ?_⟩ <;>
          simp [hgoverned, hreads, hrun, hcase]

/-- A read charges itself when it reached its source, and no turn. -/
theorem traceRead_charges {tool : ReadTool} {arguments : ToolArguments} {record : CallRecord}
    {governed : GovernedState}
    (h : traceRead catalog trusted s tool arguments = (.ok record, governed)) :
    Charges false s (afterCall trusted s governed record) [record] ∧
      record.planningTurn = max s.governed.budget.runPlanningTurns 1 := by
  obtain ⟨result, hread, rfl⟩ := traceRead_ok h
  obtain ⟨hreads, hrun, hcase⟩ := GovernedToolExecutor.executeResult_charge hread
  refine ⟨⟨rfl, ?_, ?_, ?_, ?_⟩, ?_⟩
  · have hbound := governed.budget.runBound
    simp only [callRecord, List.mem_singleton, forall_eq]
    omega
  · simp only [afterCall, callRecord, List.countP_singleton, decide_eq_true_eq]
    rcases hreads with e | e <;> simp [e]
  · simpa only [afterCall, Bool.toNat_false, Nat.add_zero] using hrun
  · simpa only [afterCall, Bool.toNat_false, Nat.add_zero] using hcase
  · simp only [callRecord, hrun]

/-- What a superstep charges, and the calls it makes. -/
theorem step_charges {node' : GraphNode}
    (h : step catalog trusted selector node s = .ok (node', s')) :
    Charges (Service.turnStarts catalog trusted node s) s s'
      (s'.coordinator.records.drop s.coordinator.records.length) := by
  have hdrop : ∀ {turn} reads, Charges turn s s' reads →
      Charges turn s s' (s'.coordinator.records.drop s.coordinator.records.length) := by
    intro turn reads hcharges
    have hreads : s'.coordinator.records.drop s.coordinator.records.length = reads := by
      rw [hcharges.records, List.drop_left]
    rw [hreads]
    exact hcharges
  cases node with
  | agent => exact hdrop _ (callModel_charges h).1
  | tools tool arguments =>
    obtain ⟨-, record, governed, hread, rfl⟩ := step_tools h
    exact hdrop _ (traceRead_charges hread).1
  | budgetExhausted =>
    obtain ⟨-, rfl⟩ := Prod.mk.inj (Except.ok.inj h)
    exact hdrop [] ⟨by simp, by simp, rfl, rfl, rfl⟩
  | finished =>
    obtain ⟨-, rfl⟩ := Prod.mk.inj (Except.ok.inj h)
    exact hdrop [] ⟨by simp, by simp, rfl, rfl, rfl⟩

/-- A superstep keeps the turns of the calls within those of the run. -/
theorem step_turned {node' : GraphNode} (hturned : Turned node s)
    (h : step catalog trusted selector node s = .ok (node', s')) : Turned node' s' := by
  have hkept : Turned node s → s'.coordinator.records = s.coordinator.records →
      s.governed.budget.runPlanningTurns ≤ s'.governed.budget.runPlanningTurns →
      ∀ r ∈ s'.coordinator.records,
        1 ≤ r.planningTurn ∧ r.planningTurn ≤ s'.governed.budget.runPlanningTurns := by
    intro hturned hrecords hle r hr
    have hr' := hturned.records r (hrecords ▸ hr)
    exact ⟨hr'.1, hr'.2.trans hle⟩
  cases node with
  | agent =>
    obtain ⟨hcharges, hnode⟩ := callModel_charges h
    obtain ⟨hsame, -, -⟩ := callModel_spec h
    have hle : s.governed.budget.runPlanningTurns ≤ s'.governed.budget.runPlanningTurns := by
      rw [hcharges.runTurns]
      exact Nat.le_add_right _ _
    refine ⟨hkept hturned hsame.records hle, fun hpending => ?_, fun tool arguments e => ?_⟩
    · rw [hsame.records]
      rcases hsame.pendingRetry with e | ⟨e, -⟩
      · exact hturned.pending (e ▸ hpending)
      · simp [e] at hpending
    · by_cases hnone : s.coordinator.pendingRetry = none
      · exact hnode ⟨tool, arguments, e⟩ hnone
      · obtain ⟨r, hr⟩ := List.exists_mem_of_ne_nil _
          (hturned.pending (Option.isSome_iff_ne_none.mpr hnone))
        have hr' := hturned.records r hr
        omega
  | tools tool arguments =>
    obtain ⟨rfl, record, governed, hread, rfl⟩ := step_tools h
    obtain ⟨hcharges, hturn⟩ := traceRead_charges hread
    have hpositive := hturned.node tool arguments rfl
    have hruns := hcharges.runTurns
    refine ⟨fun r hr => ?_, fun _ => by simp [hcharges.records],
      fun _ _ e => GraphNode.noConfusion e⟩
    rw [hcharges.records] at hr
    rcases List.mem_append.mp hr with hr | hr
    · have hr' := hturned.records r hr
      simp only [Bool.toNat_false] at hruns
      omega
    · rw [List.mem_singleton.mp hr, hturn]
      simp only [Bool.toNat_false] at hruns
      omega
  | budgetExhausted =>
    obtain ⟨rfl, rfl⟩ := Prod.mk.inj (Except.ok.inj h)
    exact ⟨hturned.records, hturned.pending, fun _ _ e => GraphNode.noConfusion e⟩
  | finished =>
    obtain ⟨rfl, rfl⟩ := Prod.mk.inj (Except.ok.inj h)
    exact ⟨hturned.records, hturned.pending, fun _ _ e => GraphNode.noConfusion e⟩

/-- A superstep that fails has counted the turn of a selector that fails, and no call. -/
theorem step_error {e : GraphFailure}
    (h : step catalog trusted selector node s = .error e) :
    Charges (Service.turnStarts catalog trusted node s) s
      (Service.stumbled catalog trusted node s) [] := by
  cases node with
  | agent =>
    simp only [step] at h
    unfold callModel at h
    cases hpre : s.coordinator.beforeSelector catalog trusted s.governed.budget with
    | mk pre c =>
      rw [hpre] at h
      cases pre with
      | terminal => cases h
      | retry d => cases h
      | select =>
        simp only at h
        split at h
        · cases h
        · rename_i budget hbudget
          obtain ⟨hreads, hrun, hcase⟩ := ToolBudget.recordPlanningTurn_some hbudget
          have hstarts : Service.turnStarts catalog trusted .agent s = true := by
            simp [Service.turnStarts, hpre, hbudget]
          rw [hstarts]
          refine ⟨by simp [Service.stumbled_coordinator], by simp, ?_, ?_, ?_⟩ <;>
            simp [Service.stumbled, hbudget, hreads, hrun, hcase]
  | tools tool arguments =>
    exact ⟨by simp [Service.stumbled_coordinator], by simp, rfl, rfl, rfl⟩
  | budgetExhausted => cases h
  | finished => cases h

end InvestigationGraph

end AfterSales
