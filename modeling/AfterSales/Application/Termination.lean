import AfterSales.Application.Charges

/-! The investigation loop ends by its own rules.

    A graph run is followed node by node, through sources that change and a selector that answers
    as it likes, fails, or repeats itself. What is left to do is counted by a potential:

        agent               4 · open tools + 2 · retry due + corrections left + 1
        tools               4 · open tools + 2 · retry due + corrections left
        budget_exhausted    1

    A tool is open while no row of the run names it. A selected read closes its tool and may leave
    one retry due; a retry leaves none; a corrective turn uses up the one correction. So every node
    lowers the potential, which starts below the step limit of the graph library. -/

namespace AfterSales

variable [PolicyDigest] [ProofDigest] [ResultDigest]

/-- What one superstep runs in: the sources of its moment, and how the selector would answer. -/
structure Surroundings where
  catalog : SyntheticReadToolCatalog
  selector : ObservationSelector

/-- A node that a graph run has executed, from the state it found to what it left. -/
structure NodeExecution where
  around : Surroundings
  node : GraphNode
  before : InvestigationState
  after : Except GraphFailure (GraphNode × InvestigationState)

namespace NodeExecution

variable (trusted : TrustedToolContext) (x : NodeExecution)

/-- The selector is asked here. -/
def selectorTurn : Bool := Service.turnStarts x.around.catalog trusted x.node x.before

/-- A source is read here, whether it answers or raises. -/
def sourceRead : Bool :=
  match x.node with
  | .tools tool arguments => decide (x.before.governed.budget.actualReadToolExecutions
      < (InvestigationGraph.traceRead x.around.catalog trusted x.before tool
        arguments).2.budget.actualReadToolExecutions)
  | _ => false

/-- `before_selector` answers with the retry that is due. -/
def retries : Bool :=
  match x.node with
  | .agent =>
    match (x.before.coordinator.beforeSelector x.around.catalog trusted
        x.before.governed.budget).1 with
    | .retry _ => true
    | _ => false
  | _ => false

/-- The graph run is over after this node. -/
def Ends : Prop := ∀ next s, x.after = .ok (next, s) → next = .finished

/-- Only the end of the graph comes after this node. -/
def Terminal : Prop :=
  ∀ next s, x.after = .ok (next, s) → next = .finished ∨ next = .budgetExhausted

/-- One planning turn of the run and of the case is used here. -/
def UsesTurn : Prop := ∀ next s, x.after = .ok (next, s) →
  s.governed.budget.runPlanningTurns = x.before.governed.budget.runPlanningTurns + 1 ∧
    s.governed.budget.casePlanningTurns = x.before.governed.budget.casePlanningTurns + 1

/-- The node asks again for the read that has just failed, at the revision it failed at. -/
structure RepeatsLast (last : CallRecord) : Prop where
  precedes : x.before.coordinator.records.getLast? = some last
  firstAttempt : last.attemptNumber = 1
  failed : transientFailure last.result
  revision : x.around.catalog.sourceRevision trusted.authorizedOrderId last.toolName =
    some last.sourceVersion
  asks : ∃ s, x.after = .ok (.tools last.toolName last.normalizedArgs, s)

end NodeExecution

namespace InvestigationGraph

/-- The nodes that a graph run executes while there are surroundings for it. -/
def nodeExecutions (trusted : TrustedToolContext) :
    List Surroundings → GraphNode → InvestigationState → List NodeExecution
  | [], _, _ => []
  | _ :: _, .finished, _ => []
  | around :: rest, node, s =>
    let after := step around.catalog trusted around.selector node s
    ⟨around, node, s, after⟩ :: match after with
      | .error _ => []
      | .ok (next, s) => nodeExecutions trusted rest next s

/-! ### What a model turn decides -/

/-- A tool that fits the issue. -/
def Fits (issueType : IssueType) (tool : ReadTool) : Prop :=
  ∀ issue ∈ tool.restrictedTo, issueType = issue

omit [PolicyDigest] [ProofDigest] [ResultDigest] in
theorem Fits.registered {issueType : IssueType} {tool : ReadTool} (h : Fits issueType tool) :
    requirementRegistry issueType tool.requirement ≠ .notRequired := by
  have hissue := h
  unfold Fits at hissue
  revert hissue
  cases issueType <;> cases tool <;> decide

/-- What `select_observation` can decide in a live run. -/
inductive Selected (trusted : TrustedToolContext) (c c' : Coordinator) :
    Coordinator.PostSelection → Prop
  | call (tool : ReadTool) (arguments : ToolArguments) (asks : c'.Asks trusted tool arguments)
      (fits : Fits trusted.canonicalIssueType tool) (guard : c'.guard = c.guard) :
      Selected trusted c c' (.call tool arguments)
  | forceReplan (unused : c.guard.correctiveTurnsUsed = 0)
      (used : c'.guard.correctiveTurnsUsed = 1) : Selected trusted c c' .forceReplan
  | terminal : Selected trusted c c' .terminal

omit [ProofDigest] [ResultDigest] in
theorem selectObservation_selected {trusted : TrustedToolContext} {budget : ToolBudget}
    {c c' : Coordinator} {candidate : Option NextObservationCandidate}
    {post : Coordinator.PostSelection} (hlive : c.terminalReason = none)
    (h : c.selectObservation trusted budget candidate = (post, c')) :
    Selected trusted c c' post := by
  have hasks := (Coordinator.selectObservation_spec h).2
  unfold Coordinator.selectObservation at h
  simp only at h
  split at h
  · rename_i observation hvalid
    split at h
    · rename_i tool arguments htool harguments
      obtain ⟨rfl, rfl⟩ := Prod.mk.inj h
      obtain ⟨parsed, rfl⟩ : ∃ parsed, candidate = some parsed := by
        cases candidate with
        | none => cases hvalid
        | some parsed => exact ⟨parsed, rfl⟩
      have hrequest := (ObservationValidator.validate_ok hvalid).request
      rw [htool] at hrequest
      have hfits := (ObservationValidator.rejectCall_eq_none.mp
        (ObservationValidator.requested_some hrequest).2).1
      exact .call tool arguments (hasks tool arguments rfl hlive) hfits rfl
    · obtain ⟨rfl, rfl⟩ := Prod.mk.inj h
      exact .terminal
  · split at h
    · split at h
      · rename_i guard hguard
        obtain ⟨rfl, rfl⟩ := Prod.mk.inj h
        unfold GuardState.allowCorrection at hguard
        split at hguard
        · cases hguard
        · rename_i hunused
          obtain rfl := Option.some.inj hguard
          exact .forceReplan (by simpa [GuardState.observeSelectorTurn] using hunused) rfl
      · obtain ⟨rfl, rfl⟩ := Prod.mk.inj h
        exact .terminal
    · obtain ⟨rfl, rfl⟩ := Prod.mk.inj h
      exact .terminal

/-- What `before_selector` can decide. -/
inductive Settled (catalog : SyntheticReadToolCatalog) (trusted : TrustedToolContext)
    (c c' : Coordinator) : Coordinator.PreSelection → Prop
  | terminal : Settled catalog trusted c c' .terminal
  | retry (d : RetryDirective) (due : c.pendingRetry = some d) (kept : c'.pendingRetry = some d)
      (current : catalog.sourceRevision trusted.authorizedOrderId d.toolName
        = some d.sourceVersion) : Settled catalog trusted c c' (.retry d)
  | select (live : c'.terminalReason = none) : Settled catalog trusted c c' .select

omit [ResultDigest] in
theorem beforeSelector_settled {catalog : SyntheticReadToolCatalog} {trusted : TrustedToolContext}
    {budget : ToolBudget} {c c' : Coordinator} {pre : Coordinator.PreSelection}
    (h : c.beforeSelector catalog trusted budget = (pre, c')) :
    Settled catalog trusted c c' pre ∧ c'.guard = c.guard := by
  obtain ⟨-, hretry, hlive⟩ := Coordinator.beforeSelector_spec h
  have hsettle : ∀ {d d' : Coordinator} {pre : Coordinator.PreSelection},
      Coordinator.settle trusted d = (pre, d') → d' = d ∧ ∀ r, pre ≠ .retry r := by
    intro d d' pre h
    unfold Coordinator.settle at h
    split_ifs at h <;> obtain ⟨rfl, rfl⟩ := Prod.mk.inj h <;> simp
  have hother : (∀ r, pre ≠ .retry r) → Settled catalog trusted c c' pre := by
    intro hnot
    cases pre with
    | terminal => exact .terminal
    | retry d => exact absurd rfl (hnot d)
    | select => exact .select (hlive rfl)
  unfold Coordinator.beforeSelector at h
  simp only at h
  split at h
  · obtain ⟨rfl, rfl⟩ := Prod.mk.inj h
    exact ⟨.terminal, rfl⟩
  · split at h
    · obtain ⟨rfl, hnot⟩ := hsettle h
      exact ⟨hother hnot, rfl⟩
    · rename_i directive hpending
      split at h
      · obtain ⟨rfl, hnot⟩ := hsettle h
        exact ⟨hother hnot, rfl⟩
      · rename_i hcurrent
        split at h
        · obtain ⟨rfl, rfl⟩ := Prod.mk.inj h
          exact ⟨.retry directive hpending hpending (not_not.mp hcurrent), rfl⟩
        · obtain ⟨rfl, hnot⟩ := hsettle h
          exact ⟨hother hnot, rfl⟩

/-- What a model turn does besides naming the next node. -/
inductive ModelTurn (trusted : TrustedToolContext) (s s' : InvestigationState) : GraphNode → Prop
  | ended : ModelTurn trusted s s' .finished
  | corrected (unused : s.coordinator.guard.correctiveTurnsUsed = 0)
      (used : s'.coordinator.guard.correctiveTurnsUsed = 1) : ModelTurn trusted s s' .agent
  | asks (turns : Nat) (tool : ReadTool) (arguments : ToolArguments)
      (asks : s'.coordinator.Asks trusted tool arguments)
      (fits : s'.coordinator.pendingRetry = none → Fits trusted.canonicalIssueType tool)
      (guard : s'.coordinator.guard = s.coordinator.guard) :
      ModelTurn trusted s s' (routeToTools turns tool arguments)

omit [ResultDigest] in
theorem callModel_turn {catalog : SyntheticReadToolCatalog} {trusted : TrustedToolContext}
    {selector : ObservationSelector} {s s' : InvestigationState} {node : GraphNode}
    (h : callModel catalog trusted selector s = .ok (node, s')) : ModelTurn trusted s s' node := by
  unfold callModel at h
  cases hpre : s.coordinator.beforeSelector catalog trusted s.governed.budget with
  | mk pre c =>
    obtain ⟨hsettled, hguard⟩ := beforeSelector_settled hpre
    rw [hpre] at h
    cases hsettled with
    | terminal =>
      obtain ⟨rfl, rfl⟩ := Prod.mk.inj (Except.ok.inj h)
      exact .ended
    | retry d hdue hkept hcurrent =>
      obtain ⟨rfl, rfl⟩ := Prod.mk.inj (Except.ok.inj h)
      refine .asks _ _ _ (.retry d hkept) (fun hnone => ?_) hguard
      simp only [hkept] at hnone
      cases hnone
    | select hlive =>
      simp only at h
      split at h
      · obtain ⟨rfl, rfl⟩ := Prod.mk.inj (Except.ok.inj h)
        exact .ended
      · rename_i budget hbudget
        have hturn : ∀ {candidate : Option NextObservationCandidate} {s₁ : InvestigationState},
            endTurn s₁ (c.selectObservation trusted budget candidate) = (node, s') →
            ModelTurn trusted s s' node := by
          intro candidate s₁ hend
          cases hpost : c.selectObservation trusted budget candidate with
          | mk post c' =>
            rw [hpost] at hend
            cases selectObservation_selected hlive hpost with
            | call tool arguments hasks hfits hkept =>
              obtain ⟨rfl, rfl⟩ := Prod.mk.inj hend
              exact .asks _ _ _ hasks (fun _ => hfits) (hkept.trans hguard)
            | forceReplan hunused hused =>
              obtain ⟨rfl, rfl⟩ := Prod.mk.inj hend
              exact .corrected (hguard ▸ hunused) hused
            | terminal =>
              obtain ⟨rfl, rfl⟩ := Prod.mk.inj hend
              exact .ended
        split at h
        · cases h
        · exact hturn (Except.ok.inj h)
        · exact hturn (Except.ok.inj h)

/-! ### The potential -/

/-- The evidence a run may still ask for: it is registered, and no row names its tool. -/
def openCodes (issueType : IssueType) (records : List CallRecord) :
    Finset EvidenceRequirementCode :=
  Finset.univ.filter fun code => requirementRegistry issueType code ≠ .notRequired ∧
    ∀ r ∈ records, r.toolName ≠ code.tool

/-- What a coordinator may still do besides one last visit to the agent. -/
def leftToDo (trusted : TrustedToolContext) (c : Coordinator) : Nat :=
  4 * (openCodes trusted.canonicalIssueType c.records).card + 2 * c.pendingRetry.isSome.toNat +
    (1 - c.guard.correctiveTurnsUsed)

/-- A bound on the nodes still to execute. -/
def potential (trusted : TrustedToolContext) : GraphNode → Coordinator → Nat
  | .agent, c => leftToDo trusted c + 1
  | .tools _ _, c => leftToDo trusted c
  | .budgetExhausted, _ => 1
  | .finished, _ => 0

/-- The row that a pending retry repeats. -/
structure Failed (last : CallRecord) (d : RetryDirective) : Prop where
  toolName : d.toolName = last.toolName
  arguments : d.canonicalArguments = last.normalizedArgs
  sourceVersion : d.sourceVersion = last.sourceVersion
  firstAttempt : last.attemptNumber = 1
  transient : transientFailure last.result

/-- A read that is due: the retry of a failed one, or the first of its tool. -/
inductive Due (trusted : TrustedToolContext) (c : Coordinator) (tool : ReadTool) : Prop
  | retry (d : RetryDirective) (pending : c.pendingRetry = some d) (names : d.toolName = tool)
  | fresh (clear : c.pendingRetry = none)
      (unread : tool.requirement ∈ openCodes trusted.canonicalIssueType c.records)

/-- What holds before every node: progress and retry are those of the rows, and reads are due. -/
structure Loop (trusted : TrustedToolContext) (node : GraphNode) (c : Coordinator) : Prop where
  upToDate : UpToDate trusted c
  pending : ∀ d ∈ c.pendingRetry, ∃ last, c.records.getLast? = some last ∧ Failed last d
  due : ∀ tool arguments, node = .tools tool arguments → Due trusted c tool

omit [ProofDigest] [ResultDigest] in
theorem openCodes_le (issueType : IssueType) (records : List CallRecord) :
    (openCodes issueType records).card ≤ 5 := by
  have hsub : openCodes issueType records ⊆ Finset.univ.filter fun code =>
      requirementRegistry issueType code ≠ .notRequired :=
    Finset.monotone_filter_right _ fun _ _ h => h.1
  refine (Finset.card_le_card hsub).trans ?_
  cases issueType <;> decide

omit [ProofDigest] [ResultDigest] in
theorem openCodes_read (issueType : IssueType) (records : List CallRecord) (r : CallRecord) :
    openCodes issueType (records ++ [r]) =
      (openCodes issueType records).erase r.toolName.requirement := by
  have hother : ∀ code : EvidenceRequirementCode,
      r.toolName ≠ code.tool ↔ code ≠ r.toolName.requirement := by
    intro code
    refine not_congr ⟨fun h => ?_, fun h => ?_⟩
    · rw [h, EvidenceRequirementCode.requirement_tool]
    · rw [h, ReadTool.tool_requirement]
  ext code
  simp only [openCodes, Finset.mem_erase, Finset.mem_filter, Finset.mem_univ, true_and,
    List.forall_mem_append, List.forall_mem_singleton, hother]
  tauto

variable {trusted : TrustedToolContext} {catalog : SyntheticReadToolCatalog}
  {selector : ObservationSelector} {node next : GraphNode} {s s' : InvestigationState}

omit [ProofDigest] [ResultDigest] in
/-- There is always more to do before a read that is due than before the end. -/
theorem Due.two_le {c : Coordinator} {tool : ReadTool} (h : Due trusted c tool) :
    2 ≤ leftToDo trusted c := by
  cases h with
  | retry d hpending _ =>
    simp only [leftToDo, hpending, Option.isSome_some, Bool.toNat_true]
    omega
  | fresh _ hunread =>
    have hpos := Finset.card_pos.mpr ⟨_, hunread⟩
    unfold leftToDo
    omega

omit [ProofDigest] [ResultDigest] in
/-- A read that a live run asks for is due. -/
theorem Loop.due_of_asks {c : Coordinator} {tool : ReadTool} {arguments : ToolArguments}
    (hdate : UpToDate trusted c) (hasks : c.Asks trusted tool arguments)
    (hfits : c.pendingRetry = none → Fits trusted.canonicalIssueType tool) :
    Due trusted c tool := by
  cases hasks with
  | retry d hpending => exact .retry d hpending rfl
  | select _ hclear hlive hopen =>
    have hprogress : c.progress =
        Coordinator.rebuildProgress trusted c.records c.evidenceRefs none := by
      rcases hdate with hdate | hdate
      · rw [hlive] at hdate
        cases hdate
      · rwa [hclear] at hdate
    rw [hprogress] at hopen
    have hregistered := (hfits hclear).registered
    refine .fresh hclear (Finset.mem_filter.mpr
      ⟨Finset.mem_univ _, hregistered, fun r hr htool => ?_⟩)
    exact not_open_of_row hregistered hr (htool.trans (ReadTool.tool_requirement tool)) hopen

omit [ProofDigest] [ResultDigest] in
/-- A model turn keeps what the loop rests on. -/
theorem Loop.sameEvidence {c c' : Coordinator} (h : Loop trusted node c)
    (hsame : c.SameEvidence c')
    (hdue : UpToDate trusted c' → ∀ tool arguments, next = .tools tool arguments →
      Due trusted c' tool) : Loop trusted next c' := by
  have hdate : UpToDate trusted c' := by
    rcases h.upToDate with hdate | hdate
    · exact Or.inl (hsame.terminalReason hdate)
    · rcases hsame.pendingRetry with e | ⟨-, hterminal⟩
      · exact Or.inr (by rw [hsame.progress, hdate, hsame.records, hsame.evidenceRefs, e])
      · exact Or.inl hterminal
  refine ⟨hdate, fun d hd => ?_, hdue hdate⟩
  rw [hsame.records]
  rcases hsame.pendingRetry with e | ⟨e, -⟩
  · exact h.pending d (e ▸ hd)
  · rw [e] at hd
    cases hd

omit [ProofDigest] [ResultDigest] in
/-- Giving up a retry leaves less to do. -/
theorem leftToDo_le {c c' : Coordinator} (hsame : c.SameEvidence c') :
    leftToDo trusted c' + (1 - c.guard.correctiveTurnsUsed) ≤
      leftToDo trusted c + (1 - c'.guard.correctiveTurnsUsed) := by
  have hpending : c'.pendingRetry.isSome.toNat ≤ c.pendingRetry.isSome.toNat := by
    rcases hsame.pendingRetry with e | ⟨e, -⟩ <;> simp [e]
  simp only [leftToDo, hsame.records]
  omega

omit [ResultDigest] in
theorem callModel_lowers (h : Loop trusted .agent s.coordinator)
    (hstep : callModel catalog trusted selector s = .ok (next, s')) :
    Loop trusted next s'.coordinator ∧
      potential trusted next s'.coordinator < potential trusted .agent s.coordinator := by
  have hsame := (callModel_spec hstep).1
  have hle : leftToDo trusted s'.coordinator + (1 - s.coordinator.guard.correctiveTurnsUsed) ≤
      leftToDo trusted s.coordinator + (1 - s'.coordinator.guard.correctiveTurnsUsed) :=
    leftToDo_le hsame
  cases callModel_turn hstep with
  | ended => exact ⟨h.sameEvidence hsame fun _ _ _ e => GraphNode.noConfusion e, Nat.succ_pos _⟩
  | corrected hunused hused =>
    refine ⟨h.sameEvidence hsame fun _ _ _ e => GraphNode.noConfusion e, ?_⟩
    simp only [potential]
    omega
  | asks turns tool arguments hasks hfits hguard =>
    have hdue := fun hdate => Loop.due_of_asks hdate hasks hfits
    have hloop : Loop trusted (routeToTools turns tool arguments) s'.coordinator :=
      h.sameEvidence hsame fun hdate tool' arguments' e => (routeToTools_spec e).1 ▸ hdue hdate
    refine ⟨hloop, ?_⟩
    have htwo := (hdue hloop.upToDate).two_le
    rw [hguard] at hle
    unfold routeToTools
    split
    · simp only [potential]
      omega
    · simp only [potential]
      omega

omit [ProofDigest] [ResultDigest] in
/-- The retry that is due after a read repeats that read. -/
theorem failed_of_due {c : Coordinator} {record : CallRecord} {d : RetryDirective}
    (hnone : c.pendingRetry = none ∨ 2 ≤ record.attemptNumber)
    (h : c.nextPendingRetry record = some d) : Failed record d := by
  unfold Coordinator.nextPendingRetry at h
  split at h
  · rename_i hfailed
    obtain rfl := Option.some.inj h
    exact ⟨rfl, rfl, rfl, hfailed.2, hfailed.1⟩
  · split at h
    · cases h
    · rename_i hlocked
      split at h
      · cases h
      · rcases hnone with hnone | hattempt
        · rw [hnone] at h
          cases h
        · exact absurd ⟨by simp [h], hattempt⟩ hlocked

omit [ProofDigest] [ResultDigest] in
/-- The attempts of a tool are counted on from its rows. -/
theorem nextAttempt_gt {records : List CallRecord} {r : CallRecord} (hr : r ∈ records) :
    r.attemptNumber < Coordinator.nextAttempt records r.toolName := by
  have hfold : ∀ (rows : List CallRecord) (n : Nat),
      n ≤ rows.foldl (fun n r => max n r.attemptNumber) n ∧
      ∀ r ∈ rows, r.attemptNumber ≤ rows.foldl (fun n r => max n r.attemptNumber) n := by
    intro rows
    induction rows with
    | nil => exact fun n => ⟨le_rfl, by simp⟩
    | cons a rows ih =>
      intro n
      rw [List.foldl_cons]
      obtain ⟨hbase, hrows⟩ := ih (max n a.attemptNumber)
      refine ⟨(le_max_left _ _).trans hbase, fun r hr => ?_⟩
      rcases List.mem_cons.mp hr with rfl | hr
      · exact (le_max_right _ _).trans hbase
      · exact hrows r hr
  refine Nat.lt_succ_of_le ((hfold _ 0).2 r (List.mem_filter.mpr ⟨hr, by simp⟩))

theorem afterCall_lowers {tool : ReadTool} {arguments : ToolArguments} {record : CallRecord}
    {governed : GovernedState} (h : Loop trusted (.tools tool arguments) s.coordinator)
    (hread : traceRead catalog trusted s tool arguments = (.ok record, governed)) :
    Loop trusted .agent (afterCall trusted s governed record).coordinator ∧
      leftToDo trusted (afterCall trusted s governed record).coordinator + 2 ≤
        leftToDo trusted s.coordinator := by
  obtain ⟨result, -, hrecord⟩ := traceRead_ok hread
  have hrecords : (afterCall trusted s governed record).coordinator.records =
      s.coordinator.records ++ [record] := rfl
  have hpending : (afterCall trusted s governed record).coordinator.pendingRetry =
      s.coordinator.nextPendingRetry record := rfl
  have hguard : (afterCall trusted s governed record).coordinator.guard.correctiveTurnsUsed =
      s.coordinator.guard.correctiveTurnsUsed := rfl
  have htool : record.toolName = tool := congrArg CallRecord.toolName hrecord
  have hattempt : record.attemptNumber = Coordinator.nextAttempt s.coordinator.records tool :=
    congrArg CallRecord.attemptNumber hrecord
  have hcodes := openCodes_read trusted.canonicalIssueType s.coordinator.records record
  have hdue := h.due tool arguments rfl
  have hagain : s.coordinator.pendingRetry = none ∨ 2 ≤ record.attemptNumber := by
    cases hdue with
    | fresh hclear _ => exact Or.inl hclear
    | retry d hd hname =>
      obtain ⟨last, hlast, hfailed⟩ := h.pending d hd
      have hgt := nextAttempt_gt (List.mem_of_getLast? hlast)
      rw [hfailed.firstAttempt, ← hfailed.toolName, hname] at hgt
      exact Or.inr (hattempt ▸ hgt)
  refine ⟨⟨Or.inr rfl, fun d hd => ?_, fun _ _ e => GraphNode.noConfusion e⟩, ?_⟩
  · exact ⟨record, by rw [hrecords, List.getLast?_concat], failed_of_due hagain hd⟩
  · unfold leftToDo
    rw [hrecords, hcodes, hpending, hguard, htool]
    cases hdue with
    | fresh hclear hunread =>
      have hcard := Finset.card_erase_of_mem hunread
      have hpos := Finset.card_pos.mpr ⟨_, hunread⟩
      have hone := Bool.toNat_le (s.coordinator.nextPendingRetry record).isSome
      omega
    | retry d hd _ =>
      have hcard := Finset.card_erase_le
        (s := openCodes trusted.canonicalIssueType s.coordinator.records) (a := tool.requirement)
      have hsecond : 2 ≤ record.attemptNumber := hagain.resolve_left (by simp [hd])
      have hnone : s.coordinator.nextPendingRetry record = none := by
        unfold Coordinator.nextPendingRetry
        rw [if_neg (by omega), if_pos ⟨by simp [hd], hsecond⟩]
      rw [hnone, hd]
      simp only [Option.isSome_none, Option.isSome_some, Bool.toNat_false, Bool.toNat_true]
      omega

/-- Every node lowers the potential and keeps what the loop rests on. -/
theorem step_lowers (h : Loop trusted node s.coordinator) (hnode : node ≠ .finished)
    (hstep : step catalog trusted selector node s = .ok (next, s')) :
    Loop trusted next s'.coordinator ∧
      potential trusted next s'.coordinator < potential trusted node s.coordinator := by
  cases node with
  | agent => exact callModel_lowers h hstep
  | tools tool arguments =>
    obtain ⟨rfl, record, governed, hread, rfl⟩ := step_tools hstep
    obtain ⟨hloop, hle⟩ := afterCall_lowers h hread
    exact ⟨hloop, hle⟩
  | budgetExhausted =>
    obtain ⟨rfl, rfl⟩ := Prod.mk.inj (Except.ok.inj hstep)
    exact ⟨⟨h.upToDate, h.pending, fun _ _ e => GraphNode.noConfusion e⟩, Nat.one_pos⟩
  | finished => exact absurd rfl hnode

/-! ### Whole runs -/

/-- How the executions of a run arise, one superstep at a time. -/
inductive Executes (trusted : TrustedToolContext) :
    List Surroundings → GraphNode → InvestigationState → List NodeExecution → Prop
  | out (node : GraphNode) (s : InvestigationState) : Executes trusted [] node s []
  | done (env : List Surroundings) (s : InvestigationState) : Executes trusted env .finished s []
  | failed {around : Surroundings} {rest : List Surroundings} {node : GraphNode}
      {s : InvestigationState} {e : GraphFailure} (hnode : node ≠ .finished)
      (hstep : step around.catalog trusted around.selector node s = .error e) :
      Executes trusted (around :: rest) node s [⟨around, node, s, .error e⟩]
  | next {around : Surroundings} {rest : List Surroundings} {node next : GraphNode}
      {s s' : InvestigationState} {xs : List NodeExecution} (hnode : node ≠ .finished)
      (hstep : step around.catalog trusted around.selector node s = .ok (next, s'))
      (hrest : Executes trusted rest next s' xs) :
      Executes trusted (around :: rest) node s (⟨around, node, s, .ok (next, s')⟩ :: xs)

variable {env : List Surroundings} {xs : List NodeExecution} {x : NodeExecution}

theorem nodeExecutions_executes (trusted : TrustedToolContext) (env : List Surroundings)
    (node : GraphNode) (s : InvestigationState) :
    Executes trusted env node s (nodeExecutions trusted env node s) := by
  induction env generalizing node s with
  | nil => exact .out node s
  | cons around rest ih =>
    have hcons : node ≠ .finished → Executes trusted (around :: rest) node s
        (⟨around, node, s, step around.catalog trusted around.selector node s⟩ ::
          match step around.catalog trusted around.selector node s with
          | .error _ => []
          | .ok (next, s) => nodeExecutions trusted rest next s) := by
      intro hnode
      cases hstep : step around.catalog trusted around.selector node s with
      | error e => exact .failed hnode hstep
      | ok stepped => exact .next hnode hstep (ih stepped.1 stepped.2)
    cases node with
    | agent => exact hcons (by simp)
    | tools tool arguments => exact hcons (by simp)
    | budgetExhausted => exact hcons (by simp)
    | finished => exact .done _ s

/-- Every node of a run is a step from a state in which the loop's invariant holds. -/
theorem Executes.steps (h : Executes trusted env node s xs)
    (hloop : Loop trusted node s.coordinator) (hx : x ∈ xs) :
    Loop trusted x.node x.before.coordinator ∧
      x.after = step x.around.catalog trusted x.around.selector x.node x.before := by
  induction h with
  | out => cases hx
  | done => cases hx
  | failed hnode hstep =>
    rw [List.mem_singleton.mp hx]
    exact ⟨hloop, hstep.symm⟩
  | next hnode hstep hrest ih =>
    rcases List.mem_cons.mp hx with rfl | hx
    · exact ⟨hloop, hstep.symm⟩
    · exact ih (step_lowers hloop hnode hstep).1 hx

/-- A run executes no more nodes than its potential. -/
theorem Executes.length_le (h : Executes trusted env node s xs)
    (hloop : Loop trusted node s.coordinator) :
    xs.length ≤ potential trusted node s.coordinator := by
  induction h with
  | out => exact Nat.zero_le _
  | done => exact Nat.zero_le _
  | @failed _ _ node s _ hnode _ =>
    rw [List.length_singleton]
    cases node with
    | agent => exact Nat.succ_pos _
    | tools tool arguments =>
      exact (show 1 ≤ 2 by decide).trans (hloop.due tool arguments rfl).two_le
    | budgetExhausted => exact le_rfl
    | finished => exact absurd rfl hnode
  | next hnode hstep hrest ih =>
    obtain ⟨hnext, hlt⟩ := step_lowers hloop hnode hstep
    have hle := ih hnext
    rw [List.length_cons]
    omega

/-- A run that is not cut short ends with its last node. -/
theorem Executes.ends (h : Executes trusted env node s xs) (hnode : node ≠ .finished)
    (hlong : xs.length < env.length) : ∃ x, xs.getLast? = some x ∧ x.Ends := by
  induction h with
  | out => cases hlong
  | done => exact absurd rfl hnode
  | failed _ hstep => exact ⟨_, rfl, fun _ _ e => by cases e⟩
  | @next around rest node next s s' xs _ hstep hrest ih =>
    by_cases hend : next = .finished
    · subst hend
      cases hrest with
      | out => simp at hlong
      | done => exact ⟨_, rfl, fun _ _ e => (Prod.mk.inj (Except.ok.inj e)).1.symm⟩
      | failed h _ => exact absurd rfl h
      | next h _ _ => exact absurd rfl h
    · obtain ⟨x, hlast, hends⟩ := ih hend (by simpa using hlong)
      exact ⟨x, by rw [List.getLast?_cons, hlast, Option.getD_some], hends⟩

/-- The turns of a run are within the budget left. -/
theorem Executes.turns (h : Executes trusted env node s xs) :
    xs.countP (·.selectorTurn trusted) + s.governed.budget.runPlanningTurns ≤ 8 := by
  induction h with
  | out node s => simpa using s.governed.budget.runBound
  | done env s => simpa using s.governed.budget.runBound
  | @failed around _ node s e _ hstep =>
    have hturn := (step_error hstep).runTurns
    have hbound := (Service.stumbled around.catalog trusted node s).governed.budget.runBound
    have hcount : [(⟨around, node, s, .error e⟩ : NodeExecution)].countP
        (·.selectorTurn trusted) =
          (Service.turnStarts around.catalog trusted node s).toNat := by
      have hhead : NodeExecution.selectorTurn trusted ⟨around, node, s, .error e⟩ =
          Service.turnStarts around.catalog trusted node s := rfl
      rw [List.countP_singleton, hhead]
      cases Service.turnStarts around.catalog trusted node s <;> rfl
    omega
  | @next around _ node next s s' xs _ hstep _ ih =>
    have hturn := (step_charges hstep).runTurns
    have hcount : (⟨around, node, s, .ok (next, s')⟩ :: xs).countP (·.selectorTurn trusted) =
        xs.countP (·.selectorTurn trusted) +
          (Service.turnStarts around.catalog trusted node s).toNat := by
      have hhead : NodeExecution.selectorTurn trusted ⟨around, node, s, .ok (next, s')⟩ =
          Service.turnStarts around.catalog trusted node s := rfl
      rw [List.countP_cons, hhead]
      by_cases hasks : Service.turnStarts around.catalog trusted node s = true
      · rw [if_pos hasks, hasks, Bool.toNat_true]
      · rw [if_neg hasks, Bool.eq_false_of_not_eq_true hasks, Bool.toNat_false]
    omega

/-- A source that is read is counted in the budget that the read leaves. -/
theorem sourceRead_counted {around : Surroundings} {after : Except GraphFailure
    (GraphNode × InvestigationState)} (h : NodeExecution.sourceRead trusted ⟨around, node, s, after⟩) :
    ∃ tool arguments, node = .tools tool arguments ∧
      s.governed.budget.actualReadToolExecutions < (traceRead around.catalog trusted s tool
        arguments).2.budget.actualReadToolExecutions := by
  unfold NodeExecution.sourceRead at h
  simp only at h
  split at h
  · exact ⟨_, _, rfl, of_decide_eq_true h⟩
  · cases h

/-- The reads of a run are within the budget left. -/
theorem Executes.reads (h : Executes trusted env node s xs) :
    xs.countP (·.sourceRead trusted) + s.governed.budget.actualReadToolExecutions ≤ 6 := by
  induction h with
  | out node s => simpa using s.governed.budget.readBound
  | done env s => simpa using s.governed.budget.readBound
  | @failed around _ node s e _ _ =>
    have hbound := s.governed.budget.readBound
    rw [List.countP_singleton]
    by_cases hmore : NodeExecution.sourceRead trusted ⟨around, node, s, .error e⟩ = true
    · obtain ⟨tool, arguments, -, hlt⟩ := sourceRead_counted hmore
      have hafter := (traceRead around.catalog trusted s tool arguments).2.budget.readBound
      rw [if_pos hmore]
      omega
    · rw [if_neg hmore]
      omega
  | @next around _ node next s s' xs _ hstep _ ih =>
    have hread := (step_charges hstep).reads
    rw [List.countP_cons]
    by_cases hmore : NodeExecution.sourceRead trusted ⟨around, node, s, .ok (next, s')⟩ = true
    · obtain ⟨tool, arguments, rfl, hlt⟩ := sourceRead_counted hmore
      obtain ⟨-, record, governed, hcalled, rfl⟩ := step_tools hstep
      rw [hcalled] at hlt
      simp only [afterCall] at ih hread hlt
      rw [if_pos hmore]
      omega
    · rw [if_neg hmore]
      omega

/-- A visit to the agent ends the graph, uses a turn, or repeats the read that has just failed. -/
theorem agent_visit (hloop : Loop trusted x.node x.before.coordinator) (hnode : x.node = .agent)
    (hstep : x.after = step x.around.catalog trusted x.around.selector x.node x.before) :
    x.Terminal ∨ (x.selectorTurn trusted ∧ x.UsesTurn) ∨
      (x.retries trusted ∧ ∃ last, x.RepeatsLast trusted last) := by
  obtain ⟨around, node, s, after⟩ := x
  simp only at hnode hstep hloop
  subst hnode hstep
  cases hpre : s.coordinator.beforeSelector around.catalog trusted s.governed.budget with
  | mk pre c =>
    cases (beforeSelector_settled hpre).1 with
    | terminal =>
      refine Or.inl fun next s' e => Or.inl ?_
      simp only [step, callModel, hpre, Except.ok.injEq, Prod.mk.injEq] at e
      exact e.1.symm
    | retry d hdue hkept hcurrent =>
      have hasks : callModel around.catalog trusted around.selector s =
          .ok (routeToTools s.planningTurns d.toolName d.canonicalArguments,
            { s with coordinator := c }) := by
        simp only [callModel, hpre]
      obtain ⟨last, hlast, hfailed⟩ := hloop.pending d hdue
      unfold routeToTools at hasks
      split at hasks
      · refine Or.inl fun next s' e => Or.inr ?_
        exact (Prod.mk.inj (Except.ok.inj (hasks.symm.trans e))).1.symm
      · refine Or.inr (Or.inr ⟨by simp only [NodeExecution.retries, hpre], last, hlast,
          hfailed.firstAttempt, hfailed.transient, ?_, { s with coordinator := c }, ?_⟩)
        · rw [← hfailed.toolName, ← hfailed.sourceVersion]
          exact hcurrent
        · rw [← hfailed.toolName, ← hfailed.arguments]
          exact hasks
    | select hlive =>
      cases hturn : s.governed.budget.recordPlanningTurn with
      | none =>
        refine Or.inl fun next s' e => Or.inl ?_
        simp only [step, callModel, hpre, hturn, Except.ok.injEq, Prod.mk.injEq] at e
        exact e.1.symm
      | some budget =>
        have hasks : Service.turnStarts around.catalog trusted .agent s = true := by
          simp only [Service.turnStarts, hpre, hturn, Option.isSome_some]
        refine Or.inr (Or.inl ⟨hasks, fun next s' e => ?_⟩)
        have hcharges := (callModel_charges e).1
        rw [hasks] at hcharges
        exact ⟨hcharges.runTurns, hcharges.caseTurns⟩

/-- The rows of a run only grow. -/
theorem Executes.grows (h : Executes trusted env node s xs) :
    ∀ x ∈ xs, s.coordinator.records.length ≤ x.before.coordinator.records.length := by
  induction h with
  | out => simp
  | done => simp
  | failed => simp
  | next _ hstep _ ih =>
    have hrecords := congrArg List.length (step_charges hstep).records
    rw [List.length_append] at hrecords
    intro x hx
    rcases List.mem_cons.mp hx with rfl | hx
    · exact le_rfl
    · have hle := ih x hx
      omega

/-- Between a read and the next visit to the agent a row is added. -/
theorem Executes.after_read {tool : ReadTool} {arguments : ToolArguments}
    (h : Executes trusted env (.tools tool arguments) s xs) (hx : x ∈ xs)
    (hnode : x.node = .agent) :
    s.coordinator.records.length < x.before.coordinator.records.length := by
  cases h with
  | out => cases hx
  | failed _ hstep =>
    rw [List.mem_singleton.mp hx] at hnode
    cases hnode
  | next _ hstep hrest =>
    rcases List.mem_cons.mp hx with rfl | hlater
    · cases hnode
    · obtain ⟨rfl, record, governed, hread, rfl⟩ := step_tools hstep
      have hle := hrest.grows x hlater
      rw [(traceRead_charges hread).1.records, List.length_append, List.length_singleton] at hle
      omega

/-- The agent is not visited again after the budget is exhausted. -/
theorem Executes.after_exhausted (h : Executes trusted env .budgetExhausted s xs) (hx : x ∈ xs) :
    x.node ≠ .agent := by
  cases h with
  | out => cases hx
  | failed _ hstep => cases hstep
  | next _ hstep hrest =>
    obtain ⟨rfl, rfl⟩ := Prod.mk.inj (Except.ok.inj hstep)
    cases hrest with
    | out => rw [List.mem_singleton.mp hx]; simp
    | done => rw [List.mem_singleton.mp hx]; simp
    | failed hnode _ => exact absurd rfl hnode
    | next hnode _ _ => exact absurd rfl hnode

omit [ResultDigest] in
/-- Only the agent retries. -/
theorem agent_of_retries (h : x.retries trusted) : x.node = .agent := by
  unfold NodeExecution.retries at h
  split at h
  · assumption
  · cases h

/-- After a retry comes its read, or the end. -/
theorem retries_next (h : x.retries trusted)
    (hstep : step x.around.catalog trusted x.around.selector x.node x.before = .ok (next, s')) :
    (∃ tool arguments, next = .tools tool arguments) ∨ next = .budgetExhausted := by
  obtain ⟨around, node, s, after⟩ := x
  obtain rfl := agent_of_retries h
  unfold NodeExecution.retries at h
  simp only at h
  split at h
  · rename_i d hd
    have hcall : callModel around.catalog trusted around.selector s = .ok (next, s') := hstep
    simp only [callModel, hd, Except.ok.injEq, Prod.mk.injEq] at hcall
    rw [← hcall.1]
    unfold routeToTools
    split
    · exact Or.inr rfl
    · exact Or.inl ⟨_, _, rfl⟩
  · cases h

/-- Two retries of a run repeat different reads. -/
theorem Executes.retries_apart (h : Executes trusted env node s xs) :
    ((xs.filter (·.retries trusted)).map
      (·.before.coordinator.records.length)).Pairwise (· < ·) := by
  induction h with
  | out => simp
  | done => simp
  | @failed around _ node s e _ _ =>
    exact (List.pairwise_singleton _ _).sublist
      ((List.filter_sublist (l := [(⟨around, node, s, .error e⟩ : NodeExecution)])).map _)
  | @next around rest node next s s' xs _ hstep hrest ih =>
    by_cases hretries : NodeExecution.retries trusted ⟨around, node, s, .ok (next, s')⟩ = true
    · rw [List.filter_cons_of_pos hretries, List.map_cons, List.pairwise_cons]
      refine ⟨fun n hn => ?_, ih⟩
      obtain ⟨x, hx, rfl⟩ := List.mem_map.mp hn
      obtain ⟨hx, hagain⟩ := List.mem_filter.mp hx
      have hagent := agent_of_retries hagain
      have hrecords := congrArg List.length (step_charges hstep).records
      rw [List.length_append] at hrecords
      rcases retries_next hretries hstep with ⟨tool, arguments, rfl⟩ | rfl
      · have hlt := hrest.after_read hx hagent
        simp only
        omega
      · exact absurd hagent (hrest.after_exhausted hx)
    · rw [List.filter_cons_of_neg hretries]
      exact ih

/-- No superstep is stopped by the step limit: a selector fails, or a read raises. -/
theorem step_ne_limit : step catalog trusted selector node s ≠ .error .recursionLimit := by
  intro h
  cases node with
  | agent =>
    have hcall : callModel catalog trusted selector s = .error .recursionLimit := h
    unfold callModel at hcall
    split at hcall
    split at hcall
    · cases hcall
    · cases hcall
    · simp only at hcall
      split at hcall
      · cases hcall
      · split at hcall <;> cases hcall
  | tools tool arguments =>
    simp only [step, callTool] at h
    split at h <;> cases h
  | budgetExhausted => cases h
  | finished => cases h

/-- A run stopped by the step limit has executed that many nodes. -/
theorem executes_limit {catalog : Nat → SyntheticReadToolCatalog} {n : Nat}
    (h : run catalog trusted selector n node s = .error .recursionLimit) :
    ∃ env, (nodeExecutions trusted env node s).length = n := by
  induction n generalizing node s with
  | zero => exact ⟨[], rfl⟩
  | succ n ih =>
    by_cases hnode : node = .finished
    · subst hnode
      cases h
    cases hstep : step (catalog (n + 1)) trusted selector node s with
    | error e =>
      rw [run_error catalog n hnode hstep] at h
      obtain rfl := Except.error.inj h
      exact absurd hstep step_ne_limit
    | ok stepped =>
      obtain ⟨next, s'⟩ := stepped
      rw [run_step catalog n hnode hstep] at h
      obtain ⟨env, henv⟩ := ih h
      refine ⟨⟨catalog (n + 1), selector⟩ :: env, ?_⟩
      rw [nodeExecutions.eq_3 _ _ _ _ _ hnode, List.length_cons]
      simp only [hstep, henv]

omit [ProofDigest] [ResultDigest] in
/-- The loop starts with the retry that is due for its last row, if any. -/
theorem Loop.start (trusted : TrustedToolContext) (records : List CallRecord)
    (refs : List EvidenceRef) : Loop trusted .agent (Coordinator.init trusted records refs) := by
  refine ⟨upToDate_init, fun d hd => ?_, fun _ _ e => GraphNode.noConfusion e⟩
  simp only [Coordinator.init, Option.mem_def] at hd
  split at hd
  · rename_i last hlast
    split at hd
    · rename_i hfailed
      obtain rfl := Option.some.inj hd
      exact ⟨last, hlast, rfl, rfl, rfl, hfailed.2.1, hfailed.2.2⟩
    · cases hd
  · cases hd

end InvestigationGraph

/-- A graph run that ends by its own rules. -/
structure EndsByItsRules (trusted : TrustedToolContext) (env : List Surroundings)
    (xs : List NodeExecution) : Prop where
  belowLimit : xs.length < InvestigationGraph.recursionLimit
  ends : xs.length < env.length → ∃ x, xs.getLast? = some x ∧ x.Ends
  selectorTurns : xs.countP (·.selectorTurn trusted) ≤ 8
  sourceReads : xs.countP (·.sourceRead trusted) ≤ 6
  agentVisits : ∀ x ∈ xs, x.node = .agent →
    x.Terminal ∨ (x.selectorTurn trusted ∧ x.UsesTurn) ∨
    (x.retries trusted ∧ ∃ last, x.RepeatsLast trusted last)
  retriedOnce : ((xs.filter (·.retries trusted)).map
    (·.before.coordinator.records.length)).Pairwise (· < ·)

/-- Every graph run of an investigation ends by its own rules, below the step limit. -/
theorem investigation_terminates (trusted : TrustedToolContext) (history : InvestigationHistory)
    (budget : ToolBudget) :
    (∀ env, EndsByItsRules trusted env (InvestigationGraph.nodeExecutions trusted env .agent
      (initialState trusted history budget))) ∧
    ∀ catalog selector, InvestigationGraph.run catalog trusted selector
      InvestigationGraph.recursionLimit .agent (initialState trusted history budget)
        ≠ .error .recursionLimit := by
  have hloop : InvestigationGraph.Loop trusted .agent
      (initialState trusted history budget).coordinator :=
    InvestigationGraph.Loop.start trusted history.runRecords history.runRefs
  have hpotential : InvestigationGraph.potential trusted .agent
      (initialState trusted history budget).coordinator < InvestigationGraph.recursionLimit := by
    have hcodes := InvestigationGraph.openCodes_le trusted.canonicalIssueType
      (initialState trusted history budget).coordinator.records
    have hpending := Bool.toNat_le
      (initialState trusted history budget).coordinator.pendingRetry.isSome
    simp only [InvestigationGraph.potential, InvestigationGraph.leftToDo,
      InvestigationGraph.recursionLimit]
    omega
  have hbelow : ∀ env, (InvestigationGraph.nodeExecutions trusted env .agent
      (initialState trusted history budget)).length < InvestigationGraph.recursionLimit :=
    fun env => lt_of_le_of_lt
      ((InvestigationGraph.nodeExecutions_executes trusted env _ _).length_le hloop) hpotential
  refine ⟨fun env => ?_, fun catalog selector hrun => ?_⟩
  · have hexecutes := InvestigationGraph.nodeExecutions_executes trusted env .agent
      (initialState trusted history budget)
    refine ⟨hbelow env, hexecutes.ends (by simp), ?_, ?_, fun x hx hnode => ?_,
      hexecutes.retries_apart⟩
    · exact (Nat.le_add_right _ _).trans hexecutes.turns
    · exact (Nat.le_add_right _ _).trans hexecutes.reads
    · obtain ⟨hinv, hstep⟩ := hexecutes.steps hloop hx
      exact InvestigationGraph.agent_visit hinv hnode hstep
  · obtain ⟨env, henv⟩ := InvestigationGraph.executes_limit hrun
    exact absurd henv (hbelow env).ne

end AfterSales
