import AfterSales.Investigation.Confluence
import AfterSales.Investigation.Revision

/-! The selectors that the program ships.

    Both look for the first requirement that is still missing, each in an order of its own. The
    workflow asks for existing tickets early and ends as soon as the gate can be evaluated; the
    offline model of the agent goes on until nothing is missing. In a world without faults all that
    they propose is accepted, and what they make the loop read is known in advance: their order, up
    to the point where the loop stops. So it can be told when the two end a case alike. -/

namespace AfterSales

/-! ### The two selectors -/

/-- The order in which the offline model of the agent looks for evidence. -/
def agentRequirements : List EvidenceRequirementCode :=
  [.orderStatus, .trackingTimeline, .deliveryProof, .policyApplicability, .activeTicketStatus,
    .carrierAlertContext]

/-- The order of the workflow, by the reported issue. -/
def workflowRequirements : IssueType → List EvidenceRequirementCode
  | .signedNotReceived =>
    [.orderStatus, .activeTicketStatus, .trackingTimeline, .policyApplicability, .deliveryProof,
      .carrierAlertContext]
  | .stalledTracking =>
    [.orderStatus, .trackingTimeline, .policyApplicability, .activeTicketStatus,
      .carrierAlertContext, .deliveryProof]

/-- The wish to end. -/
def finishCandidate : NextObservationCandidate where
  action := .finish
  toolName := none
  addresses := []
  reasonCode := .finalizationRequested
  addressesNodup := List.nodup_nil
  finishShape _ := ⟨rfl, rfl, rfl⟩
  callShape := by simp

/-- A requirement that a selector still asks for. -/
def asksFor (context : DecisionContext) (code : EvidenceRequirementCode) : Bool :=
  let state := context.evidenceProgress.requirements code
  state.status = .missing && state.applicability ≠ .notRequired

/-- `_candidate_for_first_missing`. -/
def candidateForFirstMissing (context : DecisionContext)
    (ordered : List EvidenceRequirementCode) : NextObservationCandidate :=
  match ordered.find? (asksFor context) with
  | some code =>
    { action := .callTool
      toolName := some code.tool
      addresses := [code]
      reasonCode :=
        if context.evidenceProgress.revision = 0 then .firstRequiredObservation
        else .missingRequiredEvidence
      addressesNodup := List.nodup_singleton _
      finishShape := by simp
      callShape := fun _ => ⟨rfl, by split <;> simp⟩ }
  | none => finishCandidate

/-- `AgentObservationSelector` over the offline model. -/
def mockAgentSelector : ObservationSelector := fun context =>
  .candidate (candidateForFirstMissing context agentRequirements)

/-- `WorkflowObservationSelector`. -/
def workflowSelector : ObservationSelector := fun context =>
  if context.evidenceProgress.gateReadiness = .evaluable then .candidate finishCandidate
  else .candidate
    (candidateForFirstMissing context (workflowRequirements context.canonicalIssueType))

end AfterSales

/-! ### What the validator makes of their candidates -/

namespace AfterSales

variable [PolicyDigest] [ResultDigest] [ProofDigest]

/-- At this point of the run the selector proposes what the validator accepts. -/
def ProposesAccepted (trusted : TrustedToolContext) (selector : ObservationSelector)
    (budget : ToolBudget) (c : Coordinator) : Prop :=
  ∃ candidate observation, selector (c.context trusted budget) = .candidate candidate ∧
    ObservationValidator.validate (some candidate) (c.context trusted budget) trusted
      c.pendingRetry none = .ok observation

/-- Whenever the run consults the selector, it proposes what the validator accepts. -/
def NeverRejected (catalog : SyntheticReadToolCatalog) (trusted : TrustedToolContext)
    (selector : ObservationSelector) : Nat → GraphNode → InvestigationState → Prop
  | 0, _, _ => True
  | n + 1, node, s =>
    (∀ c budget, node = .agent →
      s.coordinator.beforeSelector catalog trusted s.governed.budget = (.select, c) →
      s.governed.budget.recordPlanningTurn = some budget →
      ProposesAccepted trusted selector budget c) ∧
    ∀ node' s', InvestigationGraph.step catalog trusted selector node s = .ok (node', s') →
      NeverRejected catalog trusted selector n node' s'

omit [PolicyDigest] [ResultDigest] [ProofDigest] in
/-- The wish to end is accepted when the gate is ready, within budget and if it is new. -/
theorem validate_finish {context : DecisionContext} {trusted : TrustedToolContext}
    {gateReady : Option Bool} (hcase : context.caseId = trusted.caseId)
    (hrun : context.runId = trusted.runId)
    (horder : context.authorizedOrderId = trusted.authorizedOrderId)
    (hissue : context.canonicalIssueType = trusted.canonicalIssueType)
    (hturns : context.remainingBudget.casePlanningTurns < 16 ∧
      context.remainingBudget.runPlanningTurns < 8)
    (hready : gateReady.getD (decide (context.evidenceProgress.gateReadiness = .evaluable)) = true)
    (hnew : ∀ f ∈ context.priorDecisionFingerprints,
      f.evidenceProgress ≠ context.evidenceProgress) :
    ∃ observation : NextObservation, observation.toolName = none ∧
      observation.decisionFingerprint.evidenceProgress = context.evidenceProgress ∧
      ObservationValidator.validate (some finishCandidate) context trusted none gateReady =
        .ok observation := by
  unfold ObservationValidator.validate
  simp only
  rw [if_neg (by simp [hcase, hrun, horder, hissue]), if_neg (by simp), if_neg (by omega)]
  unfold ObservationValidator.requested
  simp only [finishCandidate, hready, if_true]
  exact ⟨_, rfl, rfl, if_neg fun hmem => hnew _ hmem rfl⟩

/-- A selector asks for a read of a tool. -/
def AsksFor (selector : ObservationSelector) (tool : ReadTool) (context : DecisionContext) : Prop :=
  ∃ candidate, selector context = .candidate candidate ∧ candidate.action = .callTool ∧
    candidate.toolName = some tool ∧ candidate.addresses = [tool.requirement]

end AfterSales

namespace AfterSales.FaultFreeWorld
open EvidenceProgressReducer Cascade

variable [PolicyDigest] [ResultDigest] {w : FaultFreeWorld} {read : List ReadTool} {turns : Nat}
  {s : InvestigationState}

/-- The relevant tools, in the order of a selector. -/
def schedule (w : FaultFreeWorld) (ordered : List EvidenceRequirementCode) : List ReadTool :=
  (ordered.map (·.tool)).filter fun tool => decide (w.Relevant tool)

/-- A requirement is asked for when its tool is relevant and has not been read. -/
theorem asksFor_iff (h : HasRead w read turns s) {context : DecisionContext}
    (hprogress : context.evidenceProgress = s.coordinator.progress)
    (code : EvidenceRequirementCode) :
    asksFor context code = true ↔ w.Relevant code.tool ∧ code.tool ∉ read := by
  unfold asksFor
  rw [hprogress]
  simp only [Bool.and_eq_true, decide_eq_true_eq]
  by_cases hr : code.tool ∈ read
  · have hsatisfied := h.satisfied_of_read hr
    rw [code.requirement_tool] at hsatisfied
    refine iff_of_false (fun hmissing => ?_) fun hnot => hnot.2 hr
    rw [hmissing.1] at hsatisfied
    cases hsatisfied
  · have hopen : s.coordinator.progress.requirements code = emptyRequirement w.issue code := by
      have hempty := h.answers.open_ code.tool hr
      rw [code.requirement_tool] at hempty
      rw [h.progress]
      exact hempty
    rw [hopen]
    simp [emptyRequirement, Relevant, hr]

/-- The first requirement asked for is that of the first tool of the schedule not yet read. -/
theorem find_asksFor (h : HasRead w read turns s) {context : DecisionContext}
    (hprogress : context.evidenceProgress = s.coordinator.progress)
    {ordered : List EvidenceRequirementCode} {t : ReadTool} {rest : List ReadTool}
    (hschedule : w.schedule ordered = read ++ t :: rest) (ht : t ∉ read) :
    ordered.find? (asksFor context) = some t.requirement := by
  have hfirst : (w.schedule ordered).find? (fun tool => decide (tool ∉ read)) = some t := by
    have hread : read.find? (fun tool => decide (tool ∉ read)) = none := by
      rw [List.find?_eq_none]
      intro x hx
      simp [hx]
    rw [hschedule, List.find?_append, hread, Option.none_or, List.find?_cons_of_pos]
    simpa using ht
  have hsame : (fun code => asksFor context code) = (fun tool : ReadTool =>
      decide (decide (w.Relevant tool) = true ∧ decide (tool ∉ read) = true)) ∘
        EvidenceRequirementCode.tool := by
    funext code
    rw [Bool.eq_iff_iff, asksFor_iff h hprogress]
    simp
  rw [schedule, List.find?_filter, List.find?_map] at hfirst
  obtain ⟨code, hcode, rfl⟩ := Option.map_eq_some_iff.mp hfirst
  rw [code.requirement_tool, ← hcode]
  exact congrArg (fun p => ordered.find? p) hsame

/-- The candidate for the first missing requirement asks for the next tool of the schedule. -/
theorem candidateForFirstMissing_eq (h : HasRead w read turns s) {context : DecisionContext}
    (hprogress : context.evidenceProgress = s.coordinator.progress)
    {ordered : List EvidenceRequirementCode} {t : ReadTool} {rest : List ReadTool}
    (hschedule : w.schedule ordered = read ++ t :: rest) (ht : t ∉ read) :
    (candidateForFirstMissing context ordered).action = .callTool ∧
      (candidateForFirstMissing context ordered).toolName = some t ∧
      (candidateForFirstMissing context ordered).addresses = [t.requirement] := by
  have hfind := find_asksFor h hprogress hschedule ht
  unfold candidateForFirstMissing
  split
  · next code hcode =>
    obtain rfl := Option.some.inj (hfind.symm.trans hcode)
    exact ⟨rfl, congrArg some t.tool_requirement, rfl⟩
  · next hnone =>
    rw [hfind] at hnone
    cases hnone

/-- A call of the next tool is accepted, whatever the reason it names. -/
theorem accepts_call (h : AtAgent w read s) (hgo : w.halted read = false) {budget : ToolBudget}
    (hbudget : s.governed.budget.recordPlanningTurn = some budget) {t : ReadTool} (ht : t ∉ read)
    (hrel : w.Relevant t) {selector : ObservationSelector}
    (hasks : AsksFor selector t ({ s.coordinator with
      selectorInputProgress := s.coordinator.progress }.context w.trusted budget)) :
    AsksForAcceptedRead w.trusted selector budget
      { s.coordinator with selectorInputProgress := s.coordinator.progress } := by
  obtain ⟨candidate, hselect, haction, htool, haddresses⟩ := hasks
  obtain ⟨budget', hbudget', -, hrun, hcase⟩ := consult h hgo
  obtain rfl : budget = budget' := Option.some.inj (hbudget.symm.trans hbudget')
  have hlt := h.machine.length_lt hgo
  set context := ({ s.coordinator with selectorInputProgress := s.coordinator.progress }.context
    w.trusted budget) with hcontext
  have hprogress : context.evidenceProgress = s.coordinator.progress := rfl
  have hopen : ObservationValidator.rejectCall context candidate.addresses t = none := by
    rw [ObservationValidator.rejectCall_eq_none, haddresses, hprogress, h.missing_of_unread ht]
    exact ⟨(w.relevant_iff_allowed t).mp hrel, rfl, by decide⟩
  have hbelow : context.remainingBudget.casePlanningTurns < 16 ∧
      context.remainingBudget.runPlanningTurns < 8 := by
    show budget.casePlanningTurns < 16 ∧ budget.runPlanningTurns < 8
    omega
  obtain ⟨observation, hvalid⟩ : ∃ observation, ObservationValidator.validate (some candidate)
      context w.trusted none none = .ok observation :=
    ObservationValidator.validate_call rfl rfl rfl rfl hbelow haction htool hopen fun f hf e => by
      have hlast := h.fingerprints f hf
      rw [e, hprogress, h.revision_eq] at hlast
      omega
  exact ⟨candidate, observation, hselect, haction, by rw [h.noRetry]; exact hvalid⟩

variable [ProofDigest]

/-- The wish to end is accepted once all required reads have been made, and the loop ends. -/
theorem accepts_finish (h : AtAgent w read s) (hgo : w.halted read = false)
    (hall : w.evaluable read = true) {budget : ToolBudget}
    (hbudget : s.governed.budget.recordPlanningTurn = some budget) {selector : ObservationSelector}
    (hselect : selector ({ s.coordinator with
      selectorInputProgress := s.coordinator.progress }.context w.trusted budget) =
        .candidate finishCandidate) :
    ProposesAccepted w.trusted selector budget
        { s.coordinator with selectorInputProgress := s.coordinator.progress } ∧
      ∃ s', InvestigationGraph.callModel w.catalog w.trusted selector s = .ok (.finished, s') ∧
        HasRead w read (read.length + 1) s' := by
  obtain ⟨budget', hbudget', hreads, hrun, hcase⟩ := consult h hgo
  obtain rfl : budget = budget' := Option.some.inj (hbudget.symm.trans hbudget')
  have hlt := h.machine.length_lt hgo
  have hready := h.readiness.mpr hall
  have hnew : ∀ f ∈ s.coordinator.priorFingerprints,
      f.evidenceProgress ≠ s.coordinator.progress := by
    intro f hf e
    have hlast := h.fingerprints f hf
    rw [e, h.revision_eq] at hlast
    omega
  have hvalid : ∀ gateReady : Option Bool, gateReady.getD true = true →
      ∃ observation, observation.toolName = none ∧
        observation.decisionFingerprint.evidenceProgress = s.coordinator.progress ∧
        ObservationValidator.validate (some finishCandidate) ({ s.coordinator with
          selectorInputProgress := s.coordinator.progress }.context w.trusted budget) w.trusted
          s.coordinator.pendingRetry gateReady = .ok observation := by
    intro gateReady hgate
    set context := ({ s.coordinator with selectorInputProgress := s.coordinator.progress }.context
      w.trusted budget) with hcontext
    have hbelow : context.remainingBudget.casePlanningTurns < 16 ∧
        context.remainingBudget.runPlanningTurns < 8 := by
      show budget.casePlanningTurns < 16 ∧ budget.runPlanningTurns < 8
      omega
    have hopen : gateReady.getD (decide (context.evidenceProgress.gateReadiness = .evaluable))
        = true := by
      have hprogress : context.evidenceProgress = s.coordinator.progress := rfl
      rw [hprogress, hready]
      exact hgate
    rw [h.noRetry]
    exact @validate_finish context w.trusted gateReady rfl rfl rfl rfl hbelow hopen hnew
  constructor
  · obtain ⟨observation, -, -, hok⟩ := hvalid none rfl
    exact ⟨finishCandidate, observation, hselect, hok⟩
  · obtain ⟨observation, htool, hprogress, hok⟩ := hvalid
      (if s.coordinator.issueRevisionTerminal then some true else none) (by split <;> rfl)
    refine ⟨{ s with
      governed := { s.governed with budget := budget }
      planningTurns := s.planningTurns + 1
      coordinator := { s.coordinator with
        selectorInputProgress := s.coordinator.progress
        priorFingerprints :=
          s.coordinator.priorFingerprints ++ [observation.decisionFingerprint] } }, ?_, ?_⟩
    · have hcalls : (!decide (∃ p ∈ some finishCandidate, p.toolName.isSome)) = true := by
        simp [finishCandidate]
      unfold InvestigationGraph.callModel
      rw [beforeSelector_eq h, hgo]
      simp only [Bool.false_eq_true, if_false, hbudget, hselect]
      unfold Coordinator.selectObservation
      simp only [hcalls, Bool.true_and, hok, htool]
      rfl
    · exact
        { h.toHasRead with
          fingerprints := fun f hf => by
            rcases List.mem_append.mp hf with hf | hf
            · exact Nat.lt_succ_of_lt (h.fingerprints f hf)
            · rw [List.mem_singleton.mp hf, hprogress]
              exact Nat.lt_succ_of_le h.revision_eq.le
          reads := hreads
          runTurns := hrun
          caseTurns := hcase
          planning := congrArg (· + 1) h.planning }

/-! ### A run along a schedule -/

/-- The schedule up to the first point at which the loop stops. -/
def upTo (stops : List ReadTool → Bool) (done : List ReadTool) : List ReadTool → List ReadTool
  | [] => done
  | t :: rest => if stops done then done else upTo stops (done ++ [t]) rest

/-- The loop stops by itself, or its selector wishes to end. -/
def stopsAt (w : FaultFreeWorld) (ends : List ReadTool → Bool) (read : List ReadTool) : Bool :=
  w.halted read || ends read

/-- A selector asks for the tools of a schedule, one after another, and wishes to end once it has
    read some of them. -/
structure Follows (w : FaultFreeWorld) (selector : ObservationSelector)
    (ends : List ReadTool → Bool) (schedule : List ReadTool) : Prop where
  nodup : schedule.Nodup
  complete : ∀ t, t ∈ schedule ↔ t ∈ relevantTools w.issue
  evaluable : ∀ read, ends read = true → w.evaluable read = true
  finish : ∀ {read : List ReadTool} {s : InvestigationState} {context : DecisionContext},
    AtAgent w read s → context.evidenceProgress = s.coordinator.progress →
    context.canonicalIssueType = w.issue → ends read = true →
    selector context = .candidate finishCandidate
  call : ∀ {read rest : List ReadTool} {t : ReadTool} {s : InvestigationState}
    {context : DecisionContext}, AtAgent w read s →
    context.evidenceProgress = s.coordinator.progress → context.canonicalIssueType = w.issue →
    ends read = false → schedule = read ++ t :: rest → t ∉ read → AsksFor selector t context

theorem neverRejected_finished {selector : ObservationSelector} (n : Nat)
    (s : InvestigationState) : NeverRejected w.catalog w.trusted selector n .finished s := by
  induction n generalizing s with
  | zero => trivial
  | succ n ih =>
    refine ⟨fun _ _ h => GraphNode.noConfusion h, fun node' s' h => ?_⟩
    simp only [InvestigationGraph.step, Except.ok.injEq, Prod.mk.injEq] at h
    obtain ⟨rfl, rfl⟩ := h
    exact ih s

/-- A selector that follows a schedule is never rejected, and what it reads is known. -/
theorem run_of_follows {selector : ObservationSelector} {ends : List ReadTool → Bool}
    {schedule : List ReadTool} (hf : Follows w selector ends schedule) :
    ∀ (rest : List ReadTool) {read : List ReadTool} {s : InvestigationState} {n : Nat},
    schedule = read ++ rest → AtAgent w read s → 2 * rest.length + 1 ≤ n →
    NeverRejected w.catalog w.trusted selector n .agent s ∧
      ∃ s' turns, HasRead w (upTo (w.stopsAt ends) read rest) turns s' ∧
        InvestigationGraph.run (fun _ => w.catalog) w.trusted selector n .agent s = .ok s' := by
  -- The loop ends in its next step: by itself, or since the selector wishes it to.
  have hends : ∀ {read : List ReadTool} {s s' : InvestigationState} {n turns : Nat},
      InvestigationGraph.callModel w.catalog w.trusted selector s = .ok (.finished, s') →
      HasRead w read turns s' →
      (∀ c budget, s.coordinator.beforeSelector w.catalog w.trusted s.governed.budget =
        (.select, c) → s.governed.budget.recordPlanningTurn = some budget →
        ProposesAccepted w.trusted selector budget c) →
      NeverRejected w.catalog w.trusted selector (n + 1) .agent s ∧
        ∃ s' turns, HasRead w read turns s' ∧
          InvestigationGraph.run (fun _ => w.catalog) w.trusted selector (n + 1) .agent s =
            .ok s' := by
    intro read s s' n turns hstep hread haccepts
    refine ⟨⟨fun c budget _ => haccepts c budget, fun node' s₁ hs => ?_⟩, s', turns, hread, ?_⟩
    · simp only [InvestigationGraph.step, hstep, Except.ok.injEq, Prod.mk.injEq] at hs
      obtain ⟨rfl, rfl⟩ := hs
      exact neverRejected_finished _ _
    · simp only [InvestigationGraph.run, InvestigationGraph.step, hstep]
  have hhalts : ∀ {read : List ReadTool} {s : InvestigationState} {n : Nat},
      AtAgent w read s → w.halted read = true →
      NeverRejected w.catalog w.trusted selector (n + 1) .agent s ∧
        ∃ s' turns, HasRead w read turns s' ∧
          InvestigationGraph.run (fun _ => w.catalog) w.trusted selector (n + 1) .agent s =
            .ok s' := by
    intro read s n h hhalt
    obtain ⟨s', hstep, hread⟩ := callModel_halted h hhalt selector
    refine hends hstep hread fun c budget hselect => ?_
    rw [beforeSelector_eq h, hhalt] at hselect
    simp at hselect
  intro rest
  induction rest with
  | nil =>
    intro read s n heq h hn
    obtain ⟨n, rfl⟩ := Nat.exists_eq_add_of_le' hn
    refine hhalts h (w.halted_of_all fun t ht => ?_)
    have hmem := (hf.complete t).mpr ht
    rwa [heq, List.append_nil] at hmem
  | cons t rest ih =>
    intro read s n heq h hn
    obtain ⟨n, rfl⟩ : ∃ m, n = m + 2 := ⟨n - 2, by simp at hn; omega⟩
    by_cases hhalt : w.halted read = true
    · rw [upTo, if_pos (by simp [stopsAt, hhalt])]
      exact hhalts h hhalt
    have hgo := Bool.eq_false_iff.mpr hhalt
    obtain ⟨budget, hbudget, -⟩ := consult h hgo
    have hselect : ∀ c b, s.coordinator.beforeSelector w.catalog w.trusted s.governed.budget =
        (.select, c) → s.governed.budget.recordPlanningTurn = some b →
        c = { s.coordinator with selectorInputProgress := s.coordinator.progress } ∧
          b = budget := by
      intro c b hc hb
      rw [beforeSelector_eq h, hgo] at hc
      exact ⟨(Prod.mk.inj hc).2.symm, Option.some.inj (hb.symm.trans hbudget)⟩
    by_cases hend : ends read = true
    · rw [upTo, if_pos (by simp [stopsAt, hend])]
      obtain ⟨haccepts, s', hstep, hread⟩ := accepts_finish h hgo (hf.evaluable _ hend) hbudget
        (hf.finish h rfl rfl hend)
      refine hends hstep hread fun c b hc hb => ?_
      obtain ⟨rfl, rfl⟩ := hselect c b hc hb
      exact haccepts
    · have hend' := Bool.eq_false_iff.mpr hend
      rw [upTo, if_neg (by simp [stopsAt, hgo, hend'])]
      have hnodup := hf.nodup
      rw [heq] at hnodup
      have hnew : t ∉ read := fun hmem =>
        (List.nodup_append.mp hnodup).2.2 t hmem t (List.mem_cons_self ..) rfl
      have hrel : w.Relevant t :=
        (w.relevant_iff t).mpr ((hf.complete t).mp (by rw [heq]; simp))
      have hasks : AsksFor selector t ({ s.coordinator with
          selectorInputProgress := s.coordinator.progress }.context w.trusted budget) :=
        hf.call h rfl rfl hend' heq hnew
      have haccepts := accepts_call h hgo hbudget hnew hrel hasks
      obtain ⟨t', s₁, hnew', hrel', ⟨candidate, hcandidate, htool⟩, hcall, htools⟩ :=
        callModel_accepted h hgo hbudget haccepts
      obtain rfl : t' = t := by
        obtain ⟨candidate', hcandidate', -, htool', -⟩ := hasks
        obtain rfl := SelectorResponse.candidate.inj (hcandidate.symm.trans hcandidate')
        exact Option.some.inj (htool.symm.trans htool')
      obtain ⟨s₂, hcalled, hagent⟩ := atAgent_callTool htools hnew hrel
      obtain ⟨hacc, s', turns, hread, hrun⟩ := ih (by simpa using heq) hagent
        (by simp at hn; omega : 2 * rest.length + 1 ≤ n)
      refine ⟨⟨fun c b _ hc hb => ?_, fun node' s₂ hs => ?_⟩, s', turns, hread, ?_⟩
      · obtain ⟨rfl, rfl⟩ := hselect c b hc hb
        obtain ⟨candidate, observation, hproposed, -, hvalid⟩ := haccepts
        exact ⟨candidate, observation, hproposed, hvalid⟩
      · simp only [InvestigationGraph.step, hcall, Except.ok.injEq, Prod.mk.injEq] at hs
        obtain ⟨rfl, rfl⟩ := hs
        refine ⟨fun _ _ e => GraphNode.noConfusion e, fun node' s₂ hs => ?_⟩
        rw [hcalled] at hs
        obtain ⟨rfl, rfl⟩ := Prod.mk.inj (Except.ok.inj hs)
        exact hacc
      · have hturn : InvestigationGraph.step w.catalog w.trusted selector .agent s =
            .ok (.tools t' (w.arguments t'), s₁) := hcall
        rw [InvestigationGraph.run_step _ _ (by simp) hturn,
          InvestigationGraph.run_step _ _ (by simp) (hcalled selector)]
        exact hrun

/-! ### What the two selectors read -/

/-- What the agent reads. -/
def agentReads (w : FaultFreeWorld) : List ReadTool :=
  upTo (w.stopsAt fun _ => false) [] (w.schedule agentRequirements)

/-- What the workflow reads. -/
def workflowReads (w : FaultFreeWorld) : List ReadTool :=
  upTo (w.stopsAt w.evaluable) [] (w.schedule (workflowRequirements w.issue))

omit [ResultDigest] [ProofDigest] in
theorem schedule_eq (ordered : List EvidenceRequirementCode) : w.schedule ordered =
    (ordered.map (·.tool)).filter fun tool => decide (tool ∈ relevantTools w.issue) := by
  unfold schedule
  simp only [w.relevant_iff]

omit [ResultDigest] [ProofDigest] in
/-- An order of all requirements gives a schedule of all relevant tools. -/
theorem schedule_complete {ordered : List EvidenceRequirementCode} (h : ∀ code, code ∈ ordered)
    (t : ReadTool) : t ∈ w.schedule ordered ↔ t ∈ relevantTools w.issue := by
  rw [schedule_eq, List.mem_filter, decide_eq_true_eq]
  refine and_iff_right_of_imp fun _ => List.mem_map.mpr ⟨t.requirement, h _, t.tool_requirement⟩

omit [ResultDigest] [ProofDigest] in
theorem schedule_nodup {ordered : List EvidenceRequirementCode}
    (h : (ordered.map (·.tool)).Nodup) : (w.schedule ordered).Nodup := h.filter _

omit [ProofDigest] in
theorem follows_agent (w : FaultFreeWorld) :
    Follows w mockAgentSelector (fun _ => false) (w.schedule agentRequirements) where
  nodup := schedule_nodup (by decide)
  complete := schedule_complete fun code => by cases code <;> decide
  evaluable := by simp
  finish := by simp
  call := fun h hprogress _ _ heq hnew =>
    ⟨_, rfl, candidateForFirstMissing_eq h.toHasRead hprogress heq hnew⟩

omit [ProofDigest] in
theorem follows_workflow (w : FaultFreeWorld) :
    Follows w workflowSelector w.evaluable (w.schedule (workflowRequirements w.issue)) where
  nodup := schedule_nodup (by cases w.issue <;> decide)
  complete := schedule_complete fun code => by cases w.issue <;> cases code <;> decide
  evaluable := fun _ h => h
  finish := fun h hprogress _ hend => by
    unfold workflowSelector
    rw [hprogress, if_pos (h.readiness.mpr hend)]
  call := fun {read rest t s context} h hprogress hissue hend heq hnew => by
    have hopen : context.evidenceProgress.gateReadiness ≠ .evaluable := fun hready => by
      rw [hprogress] at hready
      rw [h.readiness.mp hready] at hend
      cases hend
    have hasks := candidateForFirstMissing_eq h.toHasRead hprogress heq hnew
    rw [← hissue] at hasks
    exact ⟨_, if_neg hopen, hasks⟩

/-! ### When they end a case alike -/

/-- The carrier recovers an overdue package of the business demo, and nothing but that keeps the
    case from a ticket. -/
def CarrierRecovers (w : FaultFreeWorld) : Prop :=
  w.trusted.fixtureVersion = "business-demo-v1" ∧ w.issue = .stalledTracking ∧
    w.revisedTo = none ∧ w.hasActiveTicket = false ∧ w.stalledRows = none ∧
    carrierRecoveryActive (w.answer .getCarrierServiceAlerts) = true

section Reads
omit [ProofDigest]

omit [ResultDigest] in
theorem not_evaluable {t : ReadTool} (ht : t ∈ requiredObservationTools w.issue)
    (hnew : t ∉ read) : w.evaluable read = false :=
  Bool.eq_false_iff.mpr fun h => hnew (evaluable_iff.mp h t ht)

omit [PolicyDigest] [ResultDigest] in
/-- What is read of a schedule belongs to it. -/
theorem upTo_subset (stops : List ReadTool → Bool) (rest : List ReadTool) :
    ∀ done : List ReadTool, upTo stops done rest ⊆ done ++ rest := by
  induction rest with
  | nil => simp [upTo]
  | cons t rest ih =>
    intro done
    rw [upTo]
    split
    · exact List.subset_append_left _ _
    · simpa using ih (done ++ [t])

/-- The reads that a stalled case requires, in the order of both selectors. -/
def stalledReads : List ReadTool :=
  [.getOrderContext, .getLogisticsTimeline, .searchAfterSalesPolicy, .getExistingLogisticsTickets]

/-- In a stalled case the two selectors read the same and then halt, or the agent reads the carrier
    alerts as well. -/
theorem reads_stalled (hissue : w.issue = .stalledTracking) :
    (w.agentReads = w.workflowReads ∧ w.halted w.workflowReads = true ∧
      ReadTool.getCarrierServiceAlerts ∉ w.workflowReads) ∨
    (w.workflowReads = stalledReads ∧ w.agentReads = stalledReads ++ [.getCarrierServiceAlerts] ∧
      w.halted [.getOrderContext] = false ∧ w.halted stalledReads = false) := by
  have hschedule : w.schedule agentRequirements = stalledReads ++ [.getCarrierServiceAlerts] := by
    rw [schedule_eq, hissue]
    decide
  have hschedule' : w.schedule (workflowRequirements w.issue) =
      stalledReads ++ [.getCarrierServiceAlerts] := by
    rw [schedule_eq, hissue]
    decide
  have hagent : ∀ read, w.stopsAt (fun _ => false) read = w.halted read := by simp [stopsAt]
  have hworkflow : ∀ read, ReadTool.getExistingLogisticsTickets ∉ read →
      w.stopsAt w.evaluable read = w.halted read := by
    intro read hread
    rw [stopsAt, not_evaluable (required_of_both (by decide)).1 hread, Bool.or_false]
  have hends : w.stopsAt w.evaluable stalledReads = true := by
    have hall : w.evaluable stalledReads = true := by
      rw [evaluable_iff, hissue]
      decide
    simp [stopsAt, hall]
  unfold agentReads workflowReads
  rw [hschedule, hschedule']
  simp only [stalledReads, List.cons_append, List.nil_append, upTo, hagent] at hends ⊢
  simp only [hends, hworkflow [] (by simp), hworkflow [.getOrderContext] (by decide),
    hworkflow [.getOrderContext, .getLogisticsTimeline] (by decide),
    hworkflow [.getOrderContext, .getLogisticsTimeline, .searchAfterSalesPolicy] (by decide),
    w.halted_nil, Bool.false_eq_true, if_false, if_true]
  by_cases hone : w.halted [.getOrderContext] = true
  · simp [hone]
  by_cases htwo : w.halted [.getOrderContext, .getLogisticsTimeline] = true
  · simp [hone, htwo]
  by_cases hthree :
      w.halted [.getOrderContext, .getLogisticsTimeline, .searchAfterSalesPolicy] = true
  · simp [hone, htwo, hthree]
  by_cases hfour : w.halted [.getOrderContext, .getLogisticsTimeline, .searchAfterSalesPolicy,
      .getExistingLogisticsTickets] = true
  · simp [hone, htwo, hthree, hfour]
  · simp [hone, htwo, hthree, hfour]

omit [PolicyDigest] [ResultDigest] in
/-- What has been read stays read. -/
theorem subset_upTo (stops : List ReadTool → Bool) (rest : List ReadTool) :
    ∀ done : List ReadTool, done ⊆ upTo stops done rest := by
  induction rest with
  | nil => simp [upTo]
  | cons t rest ih =>
    intro done
    rw [upTo]
    split
    · exact List.Subset.refl _
    · exact List.Subset.trans (List.subset_append_left _ _) (ih (done ++ [t]))

omit [PolicyDigest] [ResultDigest] in
theorem upTo_of_stops {stops : List ReadTool → Bool} {done : List ReadTool}
    (h : stops done = true) (rest : List ReadTool) : upTo stops done rest = done := by
  cases rest with
  | nil => rfl
  | cons t rest => rw [upTo, if_pos h]

/-- A schedule that begins with the order reads the order. -/
theorem order_mem_upTo {ends : List ReadTool → Bool}
    (hends : ∀ read, ends read = true → w.evaluable read = true) (rest : List ReadTool) :
    ReadTool.getOrderContext ∈ upTo (w.stopsAt ends) [] (.getOrderContext :: rest) := by
  have hgo : ends [] = false := by
    by_contra hend
    have hall := hends _ (Bool.not_eq_false _ ▸ hend)
    rw [not_evaluable (t := .getOrderContext) (required_of_both (by decide)).1 (by simp)] at hall
    cases hall
  rw [upTo, if_neg (by simp [stopsAt, w.halted_nil, hgo])]
  exact subset_upTo _ _ _ (by simp)

/-- An applicable policy beyond its threshold lets the machine go on. -/
theorem earlyStop_policy (h : ¬ w.WithinThreshold) (done : List ReadTool) :
    w.earlyStop (done ++ [.searchAfterSalesPolicy]) = none := by
  rw [earlyStop_concat, Coordinator.earlyStopOf, if_neg fun hstop => h (withinSla_iff.mp hstop).2]

/-- Existing tickets of which none is active let the machine go on. -/
theorem earlyStop_tickets (h : w.hasActiveTicket = false) (done : List ReadTool) :
    w.earlyStop (done ++ [.getExistingLogisticsTickets]) = none := by
  have hquiet : activeTicket (w.answer .getExistingLogisticsTickets) = false := h
  rw [earlyStop_concat, Coordinator.earlyStopOf, if_neg (by simp [hquiet])]

/-- In a signed-but-missing case that the order does not contradict, the agent reads all that is
    relevant, and so does the workflow unless a ticket is active. -/
theorem reads_signed (hissue : w.issue = .signedNotReceived)
    (hready : Coordinator.revisionReady w.trusted w.orderPayload = false) :
    (∀ t ∈ relevantTools w.issue, t ∈ w.agentReads) ∧
      ReadTool.getExistingLogisticsTickets ∈ w.workflowReads ∧
      (w.hasActiveTicket = false → ∀ t ∈ relevantTools w.issue, t ∈ w.workflowReads) := by
  have hschedule : w.schedule agentRequirements = [.getOrderContext, .getLogisticsTimeline,
      .getDeliveryProof, .searchAfterSalesPolicy, .getExistingLogisticsTickets] := by
    rw [schedule_eq, hissue]
    decide
  have hschedule' : w.schedule (workflowRequirements w.issue) = [.getOrderContext,
      .getExistingLogisticsTickets, .getLogisticsTimeline, .searchAfterSalesPolicy,
      .getDeliveryProof] := by
    rw [schedule_eq, hissue]
    decide
  have hproof : ReadTool.getDeliveryProof ∈ requiredObservationTools w.issue := by
    rw [hissue]
    decide
  have htickets : ReadTool.getExistingLogisticsTickets ∈ requiredObservationTools w.issue :=
    (required_of_both (by decide)).1
  have hbeyond : ¬ w.WithinThreshold := fun h => by
    rw [h.1] at hissue
    cases hissue
  -- Without an early stop, a missing read keeps both loops going.
  have hagent : ∀ read, w.earlyStop read = none →
      ReadTool.getExistingLogisticsTickets ∉ read → w.stopsAt (fun _ => false) read = false := by
    intro read hstop hread
    rw [stopsAt, goes_on hstop htickets hread, Bool.or_false]
  have hworkflow : ∀ read, w.earlyStop read = none → ReadTool.getDeliveryProof ∉ read →
      w.stopsAt w.evaluable read = false := by
    intro read hstop hread
    rw [stopsAt, goes_on hstop hproof hread, not_evaluable hproof hread, Bool.or_false]
  have horder := earlyStop_order hready
  refine ⟨?_, ?_, fun hticket => ?_⟩
  · unfold agentReads
    rw [hschedule, hissue]
    simp only [upTo, List.nil_append, List.cons_append, hagent [] rfl (by simp),
      hagent _ horder (by decide),
      hagent [.getOrderContext, .getLogisticsTimeline] rfl (by decide),
      hagent [.getOrderContext, .getLogisticsTimeline, .getDeliveryProof] rfl (by decide),
      hagent [.getOrderContext, .getLogisticsTimeline, .getDeliveryProof, .searchAfterSalesPolicy]
        (earlyStop_policy hbeyond
          [.getOrderContext, .getLogisticsTimeline, .getDeliveryProof]) (by decide),
      Bool.false_eq_true, if_false]
    decide
  · unfold workflowReads
    rw [hschedule']
    simp only [upTo, List.nil_append, List.cons_append, hworkflow [] rfl (by simp),
      hworkflow _ horder (by decide), Bool.false_eq_true, if_false]
    split
    · decide
    · exact subset_upTo _ [.searchAfterSalesPolicy, .getDeliveryProof] _ (by decide)
  · unfold workflowReads
    rw [hschedule', hissue]
    simp only [upTo, List.nil_append, List.cons_append, hworkflow [] rfl (by simp),
      hworkflow _ horder (by decide),
      hworkflow [.getOrderContext, .getExistingLogisticsTickets]
        (earlyStop_tickets hticket [.getOrderContext]) (by decide),
      hworkflow [.getOrderContext, .getExistingLogisticsTickets, .getLogisticsTimeline] rfl
        (by decide),
      hworkflow [.getOrderContext, .getExistingLogisticsTickets, .getLogisticsTimeline,
        .searchAfterSalesPolicy] (earlyStop_policy hbeyond
          [.getOrderContext, .getExistingLogisticsTickets, .getLogisticsTimeline]) (by decide),
      Bool.false_eq_true, if_false]
    decide

/-- The rows on tickets and alerts, when no ticket is active. -/
theorem stalledTicketRows_eq (hticket : w.hasActiveTicket = false)
    {alerts : Option (ToolResult CarrierServiceAlertsPayload)}
    (halerts : ∀ a ∈ alerts, a = w.answer .getCarrierServiceAlerts) :
    ((stalledTicketRows (w.stalledFacts (w.answer .getExistingLogisticsTickets) alerts)).getD
      (stalledProposal (w.stalledFacts (w.answer .getExistingLogisticsTickets) alerts))).outcome =
      if alerts.any carrierRecoveryActive then .decision .completeNoAction
      else .decision .proposeTicket := by
  set facts := w.stalledFacts (w.answer .getExistingLogisticsTickets) alerts
  have hquiet : ¬ activeTicket facts.existingTickets = true := Bool.eq_false_iff.mp hticket
  have hread : unavailableResult (namedAlerts facts) facts.criticalRetryExhausted = none := by
    rw [unavailableResult_eq_none]
    intro r hr
    obtain ⟨named, hnamed, rfl⟩ := Option.map_eq_some_iff.mp (Option.mem_toList.mp hr)
    rw [halerts named hnamed]
    exact ToolResult.completed_of_success _ (w.answer_success _)
  have htickets : unavailableResult [("existing_tickets", facts.existingTickets.head)]
      facts.criticalRetryExhausted = none := by
    rw [unavailableResult_eq_none]
    intro r hr
    rw [List.mem_singleton.mp hr]
    exact ToolResult.completed_of_success _ (w.answer_success _)
  unfold stalledTicketRows
  rw [hread, guard_none, htickets, guard_none, test_of_not hquiet]
  by_cases hactive : facts.carrierAlerts.any carrierRecoveryActive = true
  · rw [test_of hactive]
    exact (if_pos hactive).symm
  · rw [test_of_not hactive]
    exact (if_neg hactive).symm

/-- Where the carrier recovers the package, no early stop hides that its alerts are pending. -/
theorem not_halted_of_recovers (h : w.CarrierRecovers)
    (hread : ReadTool.getCarrierServiceAlerts ∉ read) : w.halted read = false := by
  obtain ⟨hdemo, hissue, hrevised, hticket, hrows, -⟩ := h
  have hoverdue := overdue_of_passes hrows
  rw [Bool.eq_false_iff]
  intro hhalt
  rcases halted_cases hticket hhalt with ⟨-, hready⟩ | ⟨-, hwithin⟩ | ⟨hall, hcarrier⟩
  · obtain ⟨revised, hsome⟩ := revised_of_ready hready
    rw [hrevised] at hsome
    cases hsome
  · exact not_overdue hwithin hoverdue
  · have hneeded := evaluable_iff.mp hall
    rw [carrierPending_iff.mpr ⟨hdemo, hissue, hread, ⟨hneeded _ (required_of_both (by decide)).1,
      hneeded _ (required_of_both (by decide)).1⟩, hoverdue⟩] at hcarrier
    cases hcarrier

omit [ResultDigest] in
/-- Both selectors ask for the order first. -/
theorem schedule_order (ordered : List EvidenceRequirementCode) :
    w.schedule (.orderStatus :: ordered) = .getOrderContext :: w.schedule ordered := by
  rw [schedule_eq, schedule_eq, List.map_cons, List.filter_cons_of_pos]
  · rfl
  · cases w.issue <;> decide

theorem order_mem_reads (w : FaultFreeWorld) :
    ReadTool.getOrderContext ∈ w.agentReads ∧ ReadTool.getOrderContext ∈ w.workflowReads := by
  constructor
  · unfold agentReads agentRequirements
    rw [schedule_order]
    exact order_mem_upTo (by simp) _
  · unfold workflowReads
    cases w.issue <;>
    · rw [workflowRequirements, schedule_order]
      exact order_mem_upTo (fun _ h => h) _

/-- What the workflow reads is relevant. -/
theorem workflowReads_relevant (w : FaultFreeWorld) : ∀ t ∈ w.workflowReads,
    t ∈ relevantTools w.issue := by
  intro t ht
  exact (w.follows_workflow.complete t).mp (upTo_subset _ _ _ ht)

theorem agentReads_relevant (w : FaultFreeWorld) : ∀ t ∈ w.agentReads,
    t ∈ relevantTools w.issue := by
  intro t ht
  exact (w.follows_agent.complete t).mp (upTo_subset _ _ _ ht)

/-- A stalled case in which only the agent reads the carrier alerts. -/
theorem gateOn_recovering (hissue : w.issue = .stalledTracking) (hrevised : w.revisedTo = none)
    (hfour : w.halted stalledReads = false) :
    (¬ w.CarrierRecovers ∧ w.gateOn flags (stalledReads ++ [.getCarrierServiceAlerts]) =
      w.gateOn flags stalledReads) ∨
    (w.CarrierRecovers ∧ w.gateOn flags (stalledReads ++ [.getCarrierServiceAlerts]) =
      .decision .completeNoAction ∧ w.gateOn flags stalledReads = .decision .proposeTicket) := by
  have hticket : w.hasActiveTicket = false := by
    rw [Bool.eq_false_iff]
    intro hactive
    have hstop := halted_tickets hactive
      [.getOrderContext, .getLogisticsTimeline, .searchAfterSalesPolicy]
    rw [show [ReadTool.getOrderContext, .getLogisticsTimeline, .searchAfterSalesPolicy] ++
      [.getExistingLogisticsTickets] = stalledReads from rfl, hfour] at hstop
    cases hstop
  have hcarrier : w.carrierPending stalledReads = true := by
    have hall : w.evaluable stalledReads = true := by
      rw [evaluable_iff, hissue]
      decide
    by_contra hcarrier
    rw [halted, hall, Bool.eq_false_iff.mpr hcarrier] at hfour
    simp at hfour
  have hdemo := (carrierPending_iff.mp hcarrier).1
  have hgate : ∀ read, (∀ t ∈ stalledReads, t ∈ read) → w.gateOn flags read =
      (evaluateStalledTracking (w.stalledFacts (w.answer .getExistingLogisticsTickets)
        (w.alertsAmong read))).outcome := by
    intro read hall
    obtain ⟨tickets, hgate, htickets⟩ := gateOn_stalled flags hissue (hall _ (by decide))
      (hall _ (by decide)) (hall _ (by decide)) hrevised hticket
    rw [hgate, htickets (hall _ (by decide))]
  have hnone : w.alertsAmong stalledReads = none := by
    rw [alertsAmong, if_pos (decide_eq_true hdemo), resultsOf_notMem (by decide)]
  have hsome : w.alertsAmong (stalledReads ++ [.getCarrierServiceAlerts]) =
      some (w.answer .getCarrierServiceAlerts) := by
    rw [alertsAmong, if_pos (decide_eq_true hdemo), resultsOf_mem (by decide)]
  rw [hgate _ fun _ h => h, hgate _ fun _ h => List.mem_append_left _ h, hnone, hsome,
    evaluateStalledTracking, evaluateStalledTracking, stalledRows_eq, stalledRows_eq]
  cases hrows : w.stalledRows with
  | some r =>
    refine Or.inl ⟨fun h => ?_, rfl⟩
    rw [h.2.2.2.2.1] at hrows
    cases hrows
  | none =>
    rw [guard_none, guard_none, stalledTicketRows_eq hticket (by simp),
      stalledTicketRows_eq hticket (by simp)]
    by_cases hactive : carrierRecoveryActive (w.answer .getCarrierServiceAlerts) = true
    · exact Or.inr ⟨⟨hdemo, hissue, hrevised, hticket, hrows, hactive⟩, by simp [hactive]⟩
    · exact Or.inl ⟨fun h => hactive h.2.2.2.2.2, by simp [hactive]⟩

variable (flags) in
/-- The gate tells the two lists of reads apart exactly when the carrier recovers the package. -/
theorem gateOn_reads (w : FaultFreeWorld) :
    (¬ w.CarrierRecovers ∧ w.gateOn flags w.agentReads = w.gateOn flags w.workflowReads) ∨
    (w.CarrierRecovers ∧ w.gateOn flags w.agentReads = .decision .completeNoAction ∧
      w.gateOn flags w.workflowReads = .decision .proposeTicket) := by
  obtain ⟨hagent, hworkflow⟩ := w.order_mem_reads
  cases hrevised : w.revisedTo with
  | some revised =>
    refine Or.inl ⟨fun h => ?_, ?_⟩
    · rw [h.2.2.1] at hrevised
      cases hrevised
    · rw [gateOn_of_revised hagent hrevised, gateOn_of_revised hworkflow hrevised]
  | none =>
    have hready : Coordinator.revisionReady w.trusted w.orderPayload = false := by
      rw [Bool.eq_false_iff]
      intro hready
      obtain ⟨revised, hsome⟩ := revised_of_ready hready
      rw [hrevised] at hsome
      cases hsome
    cases hissue : w.issue with
    | signedNotReceived =>
      obtain ⟨hall, htickets, hall'⟩ := reads_signed hissue hready
      refine Or.inl ⟨fun h => ?_, ?_⟩
      · rw [h.2.1] at hissue
        cases hissue
      by_cases hticket : w.hasActiveTicket = true
      · rw [gateOn_of_active hagent hrevised (hall _ (by rw [hissue]; decide)) hticket,
          gateOn_of_active hworkflow hrevised htickets hticket]
      · exact gateOn_congr fun t => ⟨fun ht => hall' (Bool.eq_false_iff.mpr hticket) t
          (w.agentReads_relevant t ht), fun ht => hall t (w.workflowReads_relevant t ht)⟩
    | stalledTracking =>
      rcases reads_stalled hissue with ⟨heq, hhalt, halerts⟩ | ⟨hworkflow', hagent', -, hfour⟩
      · refine Or.inl ⟨fun h => ?_, by rw [heq]⟩
        rw [not_halted_of_recovers h halerts] at hhalt
        cases hhalt
      · rw [hworkflow', hagent']
        exact gateOn_recovering hissue hrevised hfour

/-- The workflow reads nothing that the agent does not. -/
theorem workflowReads_subset (w : FaultFreeWorld) : w.workflowReads ⊆ w.agentReads := by
  cases hissue : w.issue with
  | stalledTracking =>
    rcases reads_stalled hissue with ⟨heq, -⟩ | ⟨hworkflow, hagent, -⟩
    · rw [heq]
      exact List.Subset.refl _
    · rw [hworkflow, hagent]
      exact List.subset_append_left _ _
  | signedNotReceived =>
    by_cases hready : Coordinator.revisionReady w.trusted w.orderPayload = true
    · -- A contradicting order ends the run of the workflow at once.
      have hstop : w.stopsAt w.evaluable [.getOrderContext] = true := by
        rw [stopsAt, show w.halted [.getOrderContext] = true from halted_order hready [],
          Bool.true_or]
      have hone : ∀ t ∈ w.workflowReads, t = .getOrderContext := by
        unfold workflowReads
        rw [hissue, workflowRequirements, schedule_order, upTo]
        split
        · simp
        · rw [List.nil_append, upTo_of_stops hstop]
          simp
      intro t ht
      rw [hone t ht]
      exact w.order_mem_reads.1
    · intro t ht
      exact (reads_signed hissue (Bool.eq_false_iff.mpr hready)).1 t (w.workflowReads_relevant t ht)

end Reads

variable (w) in
/-- The tools that a first investigation with a selector reads, in order. -/
def toolsRead (flags : CustomerFlags) (selector : ObservationSelector) :
    Except InvestigationFailure (List ReadTool) :=
  (investigate (fun _ => w.catalog) w.trusted selector { flags := flags } noHistory).map
    fun output => output.records.map (·.toolName)

variable (w) in
/-- No candidate of a selector is rejected in the run it drives. -/
def NeverRejects (selector : ObservationSelector) : Prop :=
  NeverRejected w.catalog w.trusted selector InvestigationGraph.recursionLimit .agent
    (initialState w.trusted noHistory .fresh)

variable (flags) in
/-- A selector that follows a schedule reads it up to where the loop stops, and the gate decides on
    that. -/
theorem ends_of_follows {selector : ObservationSelector} {ends : List ReadTool → Bool}
    {schedule : List ReadTool} (hf : Follows w selector ends schedule) :
    w.NeverRejects selector ∧
      w.toolsRead flags selector = .ok (upTo (w.stopsAt ends) [] schedule) ∧
      w.outcome flags selector = .ok (w.gateOn flags (upTo (w.stopsAt ends) [] schedule)) := by
  have hlen : schedule.length ≤ 5 := by
    have hsub : schedule ⊆ relevantTools w.issue := fun t ht => (hf.complete t).mp ht
    have hle := (List.subperm_of_subset hf.nodup hsub).length_le
    have hfive : (relevantTools w.issue).length = 5 := by cases w.issue <;> rfl
    omega
  obtain ⟨hnever, s, turns, hread, hrun⟩ := run_of_follows hf schedule (List.nil_append _).symm
    w.atAgent_initial (n := InvestigationGraph.recursionLimit)
    (by rw [InvestigationGraph.recursionLimit]; omega)
  refine ⟨hnever, ?_, outcome_of_run hread hrun⟩
  have hbudget : initialBudget { flags := flags } noHistory = some .fresh := rfl
  unfold toolsRead investigate
  simp only [hbudget, hrun]
  exact congrArg Except.ok hread.tools

end AfterSales.FaultFreeWorld

/-! ### A recovery that the workflow does not see -/

namespace AfterSales.FaultFreeWorld

section CarrierRecovery

attribute [local instance] PolicyDigest.bySource ProofDigest.byId ResultDigest.byName

/-- A shipped order of the business demo, last scanned at time zero, and an alert of its carrier. -/
def alertedCatalog : SyntheticReadToolCatalog :=
  { RevisedRun.shippedCatalog [] with
    store :=
      { (RevisedRun.shippedCatalog []).store with
        fixtureVersion := "business-demo-v1"
        carrierAlerts := fun _ => [⟨"ALERT-1", 0, none, .active, by simp⟩] } }

/-- A customer reports the tracking as stalled sixty hours after the last scan. -/
def alertedReport : TrustedToolContext :=
  { RevisedRun.missingReport with
    canonicalIssueType := .stalledTracking
    fixtureVersion := "business-demo-v1" }

def alertedSearch : Except SearchFailure PolicySearchPayload :=
  alertedCatalog.policyRag.search "ORD-1" ⟨.stalledTracking, "standard", "cn-east", 216000000000⟩

theorem found_eq {e : Except SearchFailure PolicySearchPayload}
    (h : e.toOption.isSome) : e = .ok (e.toOption.get h) := by
  cases e with
  | error _ => cases h
  | ok policy => rfl

theorem alertedSearch_ok : alertedSearch.toOption.isSome := by decide +kernel

def alertedWorld : FaultFreeWorld where
  catalog := alertedCatalog
  trusted := alertedReport
  order := RevisedRun.shippedOrder
  policy := alertedSearch.toOption.get alertedSearch_ok
  authorized := rfl
  noGuard := by decide
  noFault := fun _ => rfl
  searched := found_eq alertedSearch_ok

/-- The workflow proposes a ticket while the carrier recovers the package. -/
example : alertedWorld.outcome {} mockAgentSelector = .ok (.decision .completeNoAction) ∧
    alertedWorld.outcome {} workflowSelector = .ok (.decision .proposeTicket) := by
  decide +kernel

end CarrierRecovery

end AfterSales.FaultFreeWorld
