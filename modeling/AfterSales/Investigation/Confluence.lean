import AfterSales.Investigation.FaultFreeLoop
import AfterSales.Policy.GateSoundness

/-! Does the outcome depend on the order of the reads?

    A first investigation of a case in a world without faults is a halted run of the reading
    machine followed by the gate, so the question is one about lists of tools: do all lists on which
    the machine halts give the gate the same outcome? The gate asks for the order before anything
    else, while two of the early stops do not. They decide the answer: reading an active ticket, or
    a timeline and a policy that show no delay, can end the run before the order has been read. -/

namespace AfterSales.FaultFreeWorld
open Cascade

variable [PolicyDigest] [ResultDigest] (w : FaultFreeWorld)

/-! ### Investigations of a case without history -/

/-- The history of a case that has not been investigated. -/
def noHistory : InvestigationHistory := ⟨[], [], [], .empty, none⟩

/-- The gate's arguments after a run without faults. -/
def gateArgs (flags : CustomerFlags) : GateArguments :=
  { flags := flags
    targetShipmentId := w.trusted.targetShipmentId
    businessDemo := w.trusted.fixtureVersion = "business-demo-v1" }

/-- What the gate makes of the tools the machine has read. -/
def gateOn (flags : CustomerFlags) (read : List ReadTool) : GateOutcome :=
  (evaluateGate w.issue (w.resultsOf read) (w.gateArgs flags)).outcome

variable [ProofDigest]

/-- All candidates of the selector pass the validator in the run it drives. -/
def Accepted (selector : ObservationSelector) : Prop :=
  AllCandidatesAccepted w.catalog w.trusted selector InvestigationGraph.recursionLimit .agent
    (initialState w.trusted noHistory .fresh)

/-- What a first investigation with a selector ends in. -/
def outcome (flags : CustomerFlags) (selector : ObservationSelector) :
    Except InvestigationFailure GateOutcome :=
  (investigate (fun _ => w.catalog) w.trusted selector { flags := flags } noHistory).map
    (·.gateResult.outcome)

omit [ProofDigest] in
theorem halted_nil : w.halted [] = false := by
  have hevaluable : w.evaluable [] = false := by
    unfold evaluable
    cases w.issue <;> rfl
  simp [halted, earlyStop, hevaluable]

omit [ProofDigest] in
/-- Before its first turn the loop has read nothing. -/
theorem atAgent_initial : AtAgent w [] (initialState w.trusted noHistory .fresh) where
  machine := .start
  tools := rfl
  success := by simp [initialState, noHistory, Coordinator.init]
  referenced := by simp [initialState, noHistory, Coordinator.init]
  results := by
    funext tool
    simp [initialState, noHistory, Coordinator.init, Coordinator.latestOf, resultsOf]
  progress := rfl
  noRetry := rfl
  noGuard := w.noGuard
  fingerprints := by simp [initialState, Coordinator.init]
  unchanged := rfl
  reads := rfl
  runTurns := rfl
  caseTurns := rfl
  planning := rfl
  notExhausted := rfl
  cache := fun key _ => ⟨rfl, rfl, rfl⟩
  stops := by
    simp [initialState, noHistory, Coordinator.init, w.halted_nil]

variable {w} {read : List ReadTool} {flags : CustomerFlags}

/-- After a run without faults no retry is exhausted and the budget is not exceeded. -/
theorem gateArguments_eq {turns : Nat} {s : InvestigationState} (h : HasRead w read turns s) :
    gateArguments w.catalog w.trusted flags s = w.gateArgs flags := by
  have hreads := h.machine.length_le
  have hexhausted : criticalRetryExhausted w.catalog w.trusted s = false := by
    refine decide_eq_false ?_
    rintro ⟨code, result, hresult, htransient, -⟩
    rw [h.results] at hresult
    unfold resultsOf at hresult
    split at hresult
    · obtain rfl := Option.some.inj hresult
      rw [not_transient (w.answer_success code.tool)] at htransient
      cases htransient
    · cases hresult
  have hreached : decide (s.governed.budget.actualReadToolExecutions
      ≥ ToolBudget.maxActualReadToolExecutions) = false := by
    refine decide_eq_false ?_
    rw [h.reads, ToolBudget.maxActualReadToolExecutions]
    omega
  simp only [gateArguments, gateArgs, hexhausted, hreached, h.notExhausted, Bool.false_or,
    Bool.false_and]

/-- The investigation ends in the gate's outcome on what the graph has read. -/
theorem outcome_of_run {selector : ObservationSelector} {s : InvestigationState} {turns : Nat}
    (h : HasRead w read turns s)
    (hrun : InvestigationGraph.run (fun _ => w.catalog) w.trusted selector
      InvestigationGraph.recursionLimit .agent (initialState w.trusted noHistory .fresh) = .ok s) :
    w.outcome flags selector = .ok (w.gateOn flags read) := by
  have hbudget : initialBudget { flags := flags } noHistory = some .fresh := rfl
  unfold outcome investigate
  simp only [hbudget, hrun, gateArguments_eq h, h.results]
  -- A case without history has no recorded gate result to fall back on.
  have hkept : ∀ (resumed : Prop) [Decidable resumed] (r : EvidenceGateResult),
      (if resumed then noHistory.persistedGate.getD r else r) = r := fun _ _ r => ite_self r
  rw [hkept]
  rfl

variable (flags) in
/-- An accepted selector's outcome is the gate's on a halted run of the machine. -/
theorem outcome_of_accepted {selector : ObservationSelector} (h : w.Accepted selector) :
    ∃ read, w.Reads read ∧ w.halted read = true ∧
      w.outcome flags selector = .ok (w.gateOn flags read) := by
  obtain ⟨read, s, hreads, hhalt, hhas, hrun⟩ :=
    run_of_accepted 5 (by simp) (by decide) w.atAgent_initial h
  exact ⟨read, hreads, hhalt, outcome_of_run hhas hrun⟩

variable (flags) in
/-- Each halted run of the machine is what some accepted selector does. -/
theorem accepted_followOrder (hreads : w.Reads read) (hhalt : w.halted read = true) :
    w.Accepted (followOrder read) ∧
      w.outcome flags (followOrder read) = .ok (w.gateOn flags read) := by
  have hlen := hreads.length_le
  obtain ⟨hacc, s, hhas, hrun⟩ := run_followOrder hreads hhalt read (List.nil_append read).symm
    w.atAgent_initial (n := InvestigationGraph.recursionLimit)
    (by rw [InvestigationGraph.recursionLimit]; omega)
  exact ⟨hacc, outcome_of_run hhas hrun⟩

variable (w)

/-- Any two accepted selectors end with the same outcome. -/
def OrderIndependent (flags : CustomerFlags) : Prop :=
  ∀ first second : ObservationSelector, w.Accepted first → w.Accepted second →
    ∃ o, w.outcome flags first = .ok o ∧ w.outcome flags second = .ok o

/-- Selectors agree exactly when the gate agrees on all lists the machine halts on. -/
theorem orderIndependent_iff : w.OrderIndependent flags ↔
    ∀ first second : List ReadTool, w.Reads first → w.halted first = true → w.Reads second →
      w.halted second = true → w.gateOn flags first = w.gateOn flags second := by
  constructor
  · intro h first second hfirst hhalt hsecond hhalt'
    obtain ⟨hacc, hout⟩ := accepted_followOrder flags hfirst hhalt
    obtain ⟨hacc', hout'⟩ := accepted_followOrder flags hsecond hhalt'
    obtain ⟨o, ho, ho'⟩ := h _ _ hacc hacc'
    rw [hout] at ho
    rw [hout'] at ho'
    exact (Except.ok.inj ho).trans (Except.ok.inj ho').symm
  · intro h first second hfirst hsecond
    obtain ⟨read, hreads, hhalt, hout⟩ := outcome_of_accepted flags hfirst
    obtain ⟨read', hreads', hhalt', hout'⟩ := outcome_of_accepted flags hsecond
    exact ⟨_, hout, (h read read' hreads hhalt hreads' hhalt') ▸ hout'⟩

/-! ### The gate on a list of reads -/

section Gate
omit [ProofDigest]

/-- The order of the case, as its context is read. -/
def orderPayload : OrderContextPayload :=
  SyntheticReadToolCatalog.orderContextPayload w.catalog.store w.order

/-- The timeline of the case, as it is read. -/
def timelinePayload : LogisticsTimelinePayload :=
  SyntheticReadToolCatalog.logisticsTimelinePayload w.catalog.store w.order.orderId
    w.trusted.evaluatedAt

/-- The issue the order shows instead of the reported one. -/
def revisedTo : Option TriageIntent :=
  contradictedIssue w.issue w.orderPayload w.trusted.targetShipmentId

/-- An active ticket or investigation overlaps the scope of the case. -/
def hasActiveTicket : Bool := activeTicket (w.answer .getExistingLogisticsTickets)

/-- The evidence of a stalled case, with some ticket result and some alert result. -/
def stalledFacts (tickets : ToolResult ExistingLogisticsTicketsPayload)
    (alerts : Option (ToolResult CarrierServiceAlertsPayload)) : StalledTrackingEvidence :=
  { targetShipmentId := w.trusted.targetShipmentId
    orderContext := w.answer .getOrderContext
    timeline := w.answer .getLogisticsTimeline
    existingTickets := tickets
    policy := w.answer .searchAfterSalesPolicy
    carrierAlerts := alerts }

variable {w}

theorem resultsOf_mem {t : ReadTool} (h : t ∈ read) : w.resultsOf read t = some (w.answer t) :=
  if_pos h

theorem resultsOf_notMem {t : ReadTool} (h : t ∉ read) : w.resultsOf read t = none := if_neg h

omit [ResultDigest] in
/-- A stalled report is contradicted by a delivered package, or by a delivered order without one. -/
theorem revisedTo_stalled (hissue : w.issue = .stalledTracking) :
    w.revisedTo = if (∃ t ∈ targetShipment w.orderPayload w.trusted.targetShipmentId,
        t.shipmentStatus = OrderStatus.delivered.value) ∨
      (targetShipment w.orderPayload w.trusted.targetShipmentId = none ∧
        w.orderPayload.orderStatus = .delivered) then some .signedNotReceived else none := by
  unfold revisedTo contradictedIssue
  rw [hissue]
  simp only [decide_eq_true_eq, Option.isNone_iff_eq_none]
  rfl

omit [ResultDigest] in
/-- An order that lets the loop stop for a revision does contradict the reported issue. -/
theorem revised_of_ready (h : Coordinator.revisionReady w.trusted w.orderPayload = true) :
    ∃ revised, w.revisedTo = some revised := by
  unfold Coordinator.revisionReady at h
  cases hissue : w.issue with
  | signedNotReceived =>
    unfold issue at hissue
    rw [hissue] at h
    unfold revisedTo contradictedIssue issue
    rw [hissue]
    simp only [Bool.and_eq_true, Bool.not_eq_true'] at h
    refine ⟨_, if_pos (Or.inl ⟨by simpa using h.1, ?_⟩)⟩
    simpa [OrderStatus.value] using h.2
  | stalledTracking =>
    rw [revisedTo_stalled hissue]
    unfold issue at hissue
    rw [hissue] at h
    refine ⟨_, if_pos ?_⟩
    simpa using h

omit [ResultDigest] in
/-- For a stalled report the loop stops on every order that contradicts the issue. -/
theorem ready_of_revised (hissue : w.issue = .stalledTracking) (h : w.revisedTo ≠ none) :
    Coordinator.revisionReady w.trusted w.orderPayload = true := by
  rw [revisedTo_stalled hissue] at h
  have hcontradicts := (ite_ne_right_iff.mp h).1
  unfold issue at hissue
  unfold Coordinator.revisionReady
  rw [hissue]
  simpa using hcontradicts

/-- Only which tools have been read matters to the gate. -/
theorem gateOn_congr {read' : List ReadTool} (h : ∀ t, t ∈ read ↔ t ∈ read') :
    w.gateOn flags read = w.gateOn flags read' := by
  have hresults : w.resultsOf read = w.resultsOf read' := by
    funext t
    unfold resultsOf
    simp only [h t]
  rw [gateOn, hresults, gateOn]

/-- Without the order the gate asks for human support, whatever else has been read. -/
theorem gateOn_of_no_order (h : ReadTool.getOrderContext ∉ read) :
    w.gateOn flags read = .decision .requireHumanSupport := by
  simp only [gateOn, evaluateGate, resultsOf_notMem h]
  rfl

theorem revisedByOrder_eq : revisedByOrder w.issue (w.answer .getOrderContext)
    w.trusted.targetShipmentId = w.revisedTo := by
  unfold revisedByOrder
  have hsuccess := w.answer_success .getOrderContext
  rw [if_pos ⟨hsuccess, ((w.answer .getOrderContext).successEnvelope hsuccess).1⟩]
  rfl

/-- An order that contradicts the reported issue revises it, whatever else has been read. -/
theorem gateOn_of_revised (h : ReadTool.getOrderContext ∈ read) {revised : TriageIntent}
    (hrevised : w.revisedTo = some revised) : w.gateOn flags read = .revision revised := by
  simp only [gateOn, evaluateGate, resultsOf_mem h, gateArgs, revisedByOrder_eq, hrevised]
  rfl

/-- With the order read and not contradicting, an active ticket ends the case. -/
theorem gateOn_of_active (h : ReadTool.getOrderContext ∈ read) (hrevised : w.revisedTo = none)
    (ht : ReadTool.getExistingLogisticsTickets ∈ read) (hactive : w.hasActiveTicket = true) :
    w.gateOn flags read = .decision .completeNoAction := by
  have hfilter : (some (w.answer .getExistingLogisticsTickets)).filter (fun existing =>
      existing.executionStatus = .success ∧ activeTicket existing) =
      some (w.answer .getExistingLogisticsTickets) := by
    have hreported : activeTicket (w.answer .getExistingLogisticsTickets) = true := hactive
    rw [Option.filter_some, if_pos]
    simp [w.answer_success .getExistingLogisticsTickets, hreported]
  simp only [gateOn, evaluateGate, resultsOf_mem h, resultsOf_mem ht, gateArgs, revisedByOrder_eq,
    hrevised, hfilter]
  rfl

/-- With the order read, not contradicting and no active ticket, the gate needs all evidence. -/
theorem gateOn_of_order (h : ReadTool.getOrderContext ∈ read) (hrevised : w.revisedTo = none)
    (hticket : w.hasActiveTicket = false) :
    w.gateOn flags read = ((gateEvidence w.issue (w.resultsOf read) (w.gateArgs flags)
      (w.answer .getOrderContext)).elim requiredQueryNotCompleted
        (evaluateComplete w.issue)).outcome := by
  have hfilter : (w.resultsOf read .getExistingLogisticsTickets).filter (fun existing =>
      existing.executionStatus = .success ∧ activeTicket existing) = none := by
    rw [Option.filter_eq_none_iff]
    intro r hr
    have hquiet : activeTicket (w.answer .getExistingLogisticsTickets) = false := hticket
    unfold resultsOf at hr
    split at hr
    · obtain rfl := Option.some.inj hr
      simp [hquiet]
    · cases hr
  have hwithin : (w.gateArgs flags).budgetExceeded = false := rfl
  have htarget : (w.gateArgs flags).targetShipmentId = w.trusted.targetShipmentId := rfl
  unfold gateOn evaluateGate
  rw [hwithin, htarget, resultsOf_mem h]
  simp only [Bool.false_eq_true, if_false, revisedByOrder_eq, hrevised, hfilter]
  cases gateEvidence w.issue (w.resultsOf read) (w.gateArgs flags) (w.answer .getOrderContext) with
  | none => rfl
  | some facts => rfl

/-! ### Stalled cases -/

variable (w)

/-- The rows of the stalled table that look at neither tickets nor alerts. -/
def stalledRows : Option EvidenceGateResult :=
  stalledEvidenceRows (w.stalledFacts (w.answer .getExistingLogisticsTickets) none)

/-- The hours since the last scan of the scope. -/
def hours : Option ℚ :=
  (targetTimeline w.timelinePayload w.trusted.targetShipmentId).bind (·.hoursSinceLastUpdate)

/-- The threshold of the applicable policy. -/
def threshold : Option Nat := w.policy.policyFactSnapshot.bind (·.stalledAfterHours)

/-- A stalled report whose last scan is within the threshold of the policy. -/
def WithinThreshold : Prop :=
  w.issue = .stalledTracking ∧ ∃ hours ∈ w.hours, ∃ threshold ∈ w.threshold, hours ≤ (threshold : ℚ)

/-- The last scan is older than the threshold of the policy. -/
def Overdue : Prop := ∃ hours ∈ w.hours, ∃ threshold ∈ w.threshold, (threshold : ℚ) < hours

variable {w}

omit [ResultDigest] in
theorem not_overdue (h : w.WithinThreshold) : ¬ w.Overdue := by
  rintro ⟨hours, hhours, threshold, hthreshold, hlt⟩
  obtain ⟨-, hours', hhours', threshold', hthreshold', hle⟩ := h
  obtain rfl := Option.some.inj (hhours.symm.trans hhours')
  obtain rfl := Option.some.inj (hthreshold.symm.trans hthreshold')
  exact absurd hle (Rat.not_le.mpr hlt)

theorem scopedHours_eq : Coordinator.scopedHours (w.resultsOf read) w.trusted.targetShipmentId =
    if .getLogisticsTimeline ∈ read then w.hours else none := by
  unfold Coordinator.scopedHours hours
  by_cases h : ReadTool.getLogisticsTimeline ∈ read
  · rw [resultsOf_mem h, if_pos h]
    have hpayload : (w.answer .getLogisticsTimeline).payload = some w.timelinePayload := rfl
    simp only [Option.bind_eq_bind, Option.bind_some, hpayload]
    unfold targetTimeline
    cases w.trusted.targetShipmentId with
    | none => rfl
    | some id => simp [Option.bind_map]
  · rw [resultsOf_notMem h, if_neg h]
    rfl

theorem stalledThreshold_eq : Coordinator.stalledThreshold (w.resultsOf read) =
    if .searchAfterSalesPolicy ∈ read then w.threshold else none := by
  unfold Coordinator.stalledThreshold threshold
  by_cases h : ReadTool.searchAfterSalesPolicy ∈ read
  · rw [resultsOf_mem h, if_pos h]
    simp only [Option.bind_eq_bind, Option.bind_some, w.answer_policy]
  · rw [resultsOf_notMem h, if_neg h]
    rfl

/-- The early stop within the threshold needs the timeline, the policy and nothing else. -/
theorem withinSla_iff : Coordinator.withinSla w.trusted (w.resultsOf read) = true ↔
    (.getLogisticsTimeline ∈ read ∧ .searchAfterSalesPolicy ∈ read) ∧ w.WithinThreshold := by
  unfold Coordinator.withinSla WithinThreshold issue
  rw [scopedHours_eq, stalledThreshold_eq]
  by_cases ht : ReadTool.getLogisticsTimeline ∈ read <;>
    by_cases hp : ReadTool.searchAfterSalesPolicy ∈ read <;>
    cases hh : w.hours <;> cases hth : w.threshold <;> simp [ht, hp]

/-- The alert read is pending while an overdue business-demo case has not made it. -/
theorem carrierPending_iff : w.carrierPending read = true ↔
    w.trusted.fixtureVersion = "business-demo-v1" ∧ w.issue = .stalledTracking ∧
      .getCarrierServiceAlerts ∉ read ∧
      (.getLogisticsTimeline ∈ read ∧ .searchAfterSalesPolicy ∈ read) ∧ w.Overdue := by
  unfold carrierPending Overdue
  rw [scopedHours_eq, stalledThreshold_eq]
  by_cases ht : ReadTool.getLogisticsTimeline ∈ read <;>
    by_cases hp : ReadTool.searchAfterSalesPolicy ∈ read <;>
    cases hh : w.hours <;> cases hth : w.threshold <;> simp [ht, hp, and_assoc]

/-- The evidence rows of the stalled table look at neither tickets nor alerts. -/
theorem stalledRows_eq (tickets : ToolResult ExistingLogisticsTicketsPayload)
    (alerts : Option (ToolResult CarrierServiceAlertsPayload)) :
    stalledEvidenceRows (w.stalledFacts tickets alerts) = w.stalledRows := rfl

/-- A stalled case that passes the evidence rows is overdue. -/
theorem overdue_of_passes (h : w.stalledRows = none) : w.Overdue := by
  obtain ⟨order, scopedTimeline, policy, facts, hsound⟩ :=
    (stalledEvidenceRows_refuse _).falls_through h
  obtain ⟨threshold, hthreshold, hours, hhours, hlt⟩ := hsound.overdue
  refine ⟨hours, ?_, threshold, ?_, hlt⟩
  · have htimeline : targetTimeline w.timelinePayload w.trusted.targetShipmentId
        = some scopedTimeline := hsound.isTimeline
    rw [Option.mem_def, FaultFreeWorld.hours, htimeline]
    exact hhours
  · have hpolicy : (w.answer .searchAfterSalesPolicy).payload = some policy :=
      hsound.authorizes.isPayload
    rw [w.answer_policy] at hpolicy
    obtain rfl := Option.some.inj hpolicy
    rw [Option.mem_def, FaultFreeWorld.threshold, hsound.authorizes.isFacts]
    exact hthreshold

/-- The alerts the gate is given: those read, in the business demo only. -/
def alertsAmong (w : FaultFreeWorld) (read : List ReadTool) :
    Option (ToolResult CarrierServiceAlertsPayload) :=
  if decide (w.trusted.fixtureVersion = "business-demo-v1") then
    w.resultsOf read .getCarrierServiceAlerts
  else none

variable (flags) in
/-- The gate of a stalled case whose order, timeline and policy have been read. -/
theorem gateOn_stalled (hissue : w.issue = .stalledTracking)
    (ho : ReadTool.getOrderContext ∈ read) (ht : ReadTool.getLogisticsTimeline ∈ read)
    (hp : ReadTool.searchAfterSalesPolicy ∈ read) (hrevised : w.revisedTo = none)
    (hticket : w.hasActiveTicket = false) :
    ∃ tickets, w.gateOn flags read =
        (evaluateStalledTracking (w.stalledFacts tickets (w.alertsAmong read))).outcome ∧
      (.getExistingLogisticsTickets ∈ read → tickets = w.answer .getExistingLogisticsTickets) := by
  by_cases hk : ReadTool.getExistingLogisticsTickets ∈ read
  · refine ⟨w.answer .getExistingLogisticsTickets, ?_, fun _ => rfl⟩
    have hevidence : gateEvidence w.issue (w.resultsOf read) (w.gateArgs flags)
        (w.answer .getOrderContext) = some (.stalledTracking (w.stalledFacts
          (w.answer .getExistingLogisticsTickets) (w.alertsAmong read))) := by
      simp only [gateEvidence, ticketResult, resultsOf_mem hk, resultsOf_mem ht, resultsOf_mem hp,
        hissue]
      rfl
    rw [gateOn_of_order ho hrevised hticket, hevidence, hissue]
    rfl
  · refine ⟨notQueriedTickets (w.answer .getOrderContext), ?_, fun h => absurd h hk⟩
    have hall : ∀ tool ∈ requiredObservationTools .stalledTracking,
        tool ≠ .getExistingLogisticsTickets → (w.resultsOf read tool).isSome := by
      intro tool htool hne
      cases tool <;> simp_all [requiredObservationTools, requiredByIssue,
        EvidenceRequirementCode.tool, resultsOf]
    have hevidence : gateEvidence w.issue (w.resultsOf read) (w.gateArgs flags)
        (w.answer .getOrderContext) = some (.stalledTracking (w.stalledFacts
          (notQueriedTickets (w.answer .getOrderContext)) (w.alertsAmong read))) := by
      simp only [gateEvidence, ticketResult, resultsOf_notMem hk, resultsOf_mem ht,
        resultsOf_mem hp, hissue]
      rw [if_pos ⟨trivial, hall⟩]
      rfl
    rw [gateOn_of_order ho hrevised hticket, hevidence, hissue]
    rfl

/-! ### Stalled cases within the threshold -/

omit [ResultDigest] in
theorem searched_for : SearchedFor w.order.orderId
    ⟨w.trusted.canonicalIssueType, w.order.serviceLevel, w.order.region, w.trusted.evaluatedAt⟩
    w.policy :=
  PolicyRagService.search_spec w.searched

/-- A policy answer with facts passes every row of the policy guard but the last. -/
theorem policyGuard_eq {facts : PolicyFactSnapshot} (h : w.policy.policyFactSnapshot = some facts)
    (named : NamedResults) :
    policyGuard (w.answer .searchAfterSalesPolicy) w.orderPayload w.issue named =
      test (¬ ∀ code ∈ requiredCodes w.issue, code ∈ facts.requiredEvidenceCodes)
        (gateResult .requireHumanSupport "POLICY_REQUIRED_EVIDENCE_MISMATCH" named) none := by
  have hspec := searched_for (w := w)
  have happlicable : w.policy.policyResolutionStatus = some .applicable := by
    by_contra hne
    rw [(w.policy.notApplicable hne).1] at h
    cases h
  have hhit : w.policy.retrievalStatus = .hit := w.policy.resolvedIffHit.mpr (by simp [happlicable])
  obtain ⟨hsnapshot, hcitation, hhash⟩ := w.policy.applicable happlicable
  obtain ⟨c, hc⟩ := Option.isSome_iff_exists.mp hcitation
  have hverified : w.policy.verifiedForGate = true :=
    decide_eq_true ⟨hhit, happlicable, hsnapshot, hcitation, hhash⟩
  have hscope : policyScopeMismatch w.policy facts w.orderPayload w.issue = false := by
    obtain ⟨hissue, hlevel, hregion⟩ := w.policy.factsMatchScope facts h
    obtain ⟨hversion, hclause, hsource⟩ := w.policy.citationMatches facts h c hc
    have hissue' : facts.issueType = w.issue := hissue.trans hspec.issue
    have hlevel' : facts.serviceLevel = w.orderPayload.serviceLevel := hlevel.trans hspec.level
    have hregion' : facts.region = w.orderPayload.region := hregion.trans hspec.zone
    simp [policyScopeMismatch, hissue', hlevel', hregion', hc, hversion, hclause, hsource]
  have hwindow : withinEffectiveWindow facts w.policy.evaluatedAt = true := by
    rw [hspec.time]
    exact hspec.inWindow facts h
  unfold policyGuard
  rw [w.answer_policy]
  simp [hhit, happlicable, hverified, h, hscope, hwindow]

omit [ResultDigest] in
/-- Hours since the last scan of the scope mean that the order has been scanned. -/
theorem scanned_of_hours (h : w.hours.isSome) :
    w.timelinePayload.hoursSinceLastUpdate ≠ none := by
  have hscanned : ∀ events : List TimelineEvent,
      (FixtureStore.hoursSince w.trusted.evaluatedAt events).isSome ↔ events ≠ [] := fun events => by
    rw [FixtureStore.lastUpdate_isSome, FixtureStore.hoursSince, Option.isSome_map]
  show FixtureStore.hoursSince _ (w.catalog.store.timelines w.order.orderId) ≠ none
  rw [← Option.isSome_iff_ne_none, hscanned]
  unfold hours targetTimeline at h
  cases htarget : w.trusted.targetShipmentId with
  | none =>
    rw [htarget] at h
    exact (hscanned _).mp h
  | some id =>
    rw [htarget] at h
    simp only [Option.isSome_bind, Option.any_map, Option.any_eq_true] at h
    obtain ⟨item, hfind, hitem⟩ := h
    obtain ⟨summary, -, rfl⟩ := List.mem_map.mp (List.mem_of_find?_eq_some hfind)
    intro hnil
    exact (hscanned _).mp hitem (by simp [hnil])

/-- The scope of the case is in transport: the selected package, or the order without one. -/
def InTransit (w : FaultFreeWorld) : Prop :=
  match targetShipment w.orderPayload w.trusted.targetShipmentId with
  | some target => target.shipmentStatus ∈ activeShipmentStates
  | none => w.orderPayload.orderStatus = .shipped

/-- The evidence of a stalled case needs human support although its last scan is recent: the
    selected package is not one of the order, the clause asks for too little evidence, or the
    scoped scans contradict the package status. -/
def NeedsHumanWithinThreshold (w : FaultFreeWorld) : Prop :=
  (w.trusted.targetShipmentId ≠ none ∧
    targetShipment w.orderPayload w.trusted.targetShipmentId = none) ∨
  (w.InTransit ∧ ∃ facts ∈ w.policy.policyFactSnapshot,
    (¬ ∀ code ∈ requiredCodes .stalledTracking, code ∈ facts.requiredEvidenceCodes) ∨
    (facts.eligible = true ∧ hasStructuralTimelineConflict w.orderPayload w.timelinePayload
      w.trusted.evaluatedAt w.trusted.targetShipmentId = true))

/-- Within the threshold the evidence rows always return, and ask for human support exactly on the
    evidence that needs it. -/
theorem stalledRows_withinThreshold (hwithin : w.WithinThreshold) (hrevised : w.revisedTo = none) :
    Row (fun r => r.outcome = .decision .requireHumanSupport ↔ w.NeedsHumanWithinThreshold)
      w.stalledRows False := by
  obtain ⟨hissue, hours, hhours, threshold, hthreshold, hle⟩ := hwithin
  have hcommon : commonGuard (w.stalledFacts (w.answer .getExistingLogisticsTickets)
      none).toCommonGateFacts = none := by
    simp [commonGuard, stalledFacts]
  have hcompleted : unavailableResult (decisionInputs (w.stalledFacts
      (w.answer .getExistingLogisticsTickets) none)) false = none := by
    rw [unavailableResult_eq_none]
    intro r hr
    simp only [decisionInputs, stalledFacts, List.mem_cons, List.not_mem_nil, or_false] at hr
    rcases hr with rfl | rfl | rfl <;> exact ToolResult.completed_of_success _ (w.answer_success _)
  obtain ⟨facts, hfacts, hlimit⟩ := Option.bind_eq_some_iff.mp hthreshold
  obtain ⟨scopedTimeline, hscoped, hscopedHours⟩ := Option.bind_eq_some_iff.mp hhours
  have hscanned := scanned_of_hours (w := w) (by rw [Option.mem_def.mp hhours]; rfl)
  have hpolicyFacts : policyFacts (w.answer .searchAfterSalesPolicy) = some facts := by
    rw [policyFacts, w.answer_policy, Option.bind_some, hfacts]
  have horder : (w.stalledFacts (w.answer .getExistingLogisticsTickets) none).orderContext.payload
      = some w.orderPayload := rfl
  have htimeline : (w.stalledFacts (w.answer .getExistingLogisticsTickets) none).timeline.payload
      = some w.timelinePayload := rfl
  have hguard := policyGuard_eq (w := w) hfacts
  rw [hissue] at hguard
  unfold stalledRows stalledEvidenceRows
  simp only [hcommon, horder, htimeline, guard_none, need_some]
  simp only [stalledFacts] at hcompleted ⊢
  rw [hcompleted, guard_none]
  have noAction : ∀ (reason : String) (named : NamedResults),
      (gateResult .completeNoAction reason named).outcome ≠ .decision .requireHumanSupport :=
    fun _ _ => by simp [gateResult]
  refine .test (fun hunknown => ?_) fun hknown => ?_
  · exact iff_of_true rfl (Or.inl hunknown)
  refine .test (fun hdelivered => ?_) fun _ => ?_
  · rw [revisedTo_stalled hissue, if_pos (Or.inl hdelivered)] at hrevised
    cases hrevised
  refine .test (fun hshipped => ?_) fun hshipped => ?_
  · refine iff_of_false (noAction _ _) ?_
    rintro (hunknown | ⟨htransit, -⟩)
    · exact hknown hunknown
    · rw [InTransit, hshipped.1] at htransit
      exact hshipped.2 htransit
  refine .test (fun hactive => ?_) fun hactive => ?_
  · refine iff_of_false (noAction _ _) ?_
    obtain ⟨target, htarget, hstatus⟩ := hactive
    rintro (hunknown | ⟨htransit, -⟩)
    · exact hknown hunknown
    · rw [InTransit, htarget] at htransit
      exact hstatus htransit
  have htransit : w.InTransit := by
    unfold InTransit
    cases htarget : targetShipment w.orderPayload w.trusted.targetShipmentId with
    | none => by_contra hstatus; exact hshipped ⟨htarget, hstatus⟩
    | some target => by_contra hstatus; exact hactive ⟨target, htarget, hstatus⟩
  -- From here on only the last disjunct of the condition is left to decide.
  have hneeds : w.NeedsHumanWithinThreshold ↔
      (¬ ∀ code ∈ requiredCodes .stalledTracking, code ∈ facts.requiredEvidenceCodes) ∨
      (facts.eligible = true ∧ hasStructuralTimelineConflict w.orderPayload w.timelinePayload
        w.trusted.evaluatedAt w.trusted.targetShipmentId = true) := by
    refine ⟨?_, fun h => Or.inr ⟨htransit, facts, hfacts, h⟩⟩
    rintro (hunknown | ⟨-, facts', hfacts', h⟩)
    · exact absurd hunknown hknown
    · rw [Option.mem_def, hfacts, Option.some.injEq] at hfacts'
      exact hfacts' ▸ h
  rw [test_of_not hscanned, hguard, hpolicyFacts]
  refine .guard (P := ∀ code ∈ requiredCodes .stalledTracking, code ∈ facts.requiredEvidenceCodes)
    (.test (fun hcodes => ?_) fun hcodes => ?_) fun hcodes => ?_
  · exact iff_of_true rfl (hneeds.mpr (Or.inl hcodes))
  · exact not_not.mp hcodes
  rw [need_some]
  refine .test (fun heligible => ?_) fun heligible => ?_
  · refine iff_of_false (noAction _ _) fun h => ?_
    exact heligible ((hneeds.mp h).resolve_left (not_not.mpr hcodes)).1
  rw [hlimit, need_some, hscoped, need_some, hscopedHours, need_some]
  refine .test (fun hconflict => ?_) fun hconflict => ?_
  · exact iff_of_true rfl (hneeds.mpr (Or.inr ⟨not_not.mp heligible, hconflict⟩))
  refine .test (fun _ => ?_) fun hover => absurd hle hover
  refine iff_of_false (noAction _ _) fun h => ?_
  exact hconflict ((hneeds.mp h).resolve_left (not_not.mpr hcodes)).2

/-- Within the threshold every order but the contradicted one ends as the evidence rows say. -/
theorem gateOn_withinThreshold (hwithin : w.WithinThreshold) (hrevised : w.revisedTo = none)
    (hticket : w.hasActiveTicket = false) (ho : ReadTool.getOrderContext ∈ read)
    (ht : ReadTool.getLogisticsTimeline ∈ read) (hp : ReadTool.searchAfterSalesPolicy ∈ read) :
    w.gateOn flags read = .decision .requireHumanSupport ↔ w.NeedsHumanWithinThreshold := by
  have hrow := stalledRows_withinThreshold hwithin hrevised
  obtain ⟨tickets, hgate, -⟩ :=
    gateOn_stalled flags hwithin.1 ho ht hp hrevised hticket
  rw [hgate, evaluateStalledTracking, stalledRows_eq]
  cases hrows : w.stalledRows with
  | none => exact (hrow.falls_through hrows).elim
  | some r => exact hrow.returns hrows

variable (flags) in
/-- Beyond the threshold, with all required reads and no alert read pending, a stalled case ends in
    one way. -/
theorem gateOn_overdue (hissue : w.issue = .stalledTracking) (hrevised : w.revisedTo = none)
    (hticket : w.hasActiveTicket = false) :
    ∃ o, ∀ {read}, (∀ t ∈ requiredObservationTools w.issue, t ∈ read) →
      w.carrierPending read = false → w.gateOn flags read = o := by
  have hrequired : ∀ t ∈ [ReadTool.getOrderContext, .getLogisticsTimeline, .searchAfterSalesPolicy,
      .getExistingLogisticsTickets], t ∈ requiredObservationTools w.issue := by
    rw [hissue]
    decide
  have hgate : ∀ {read}, (∀ t ∈ requiredObservationTools w.issue, t ∈ read) →
      w.gateOn flags read = (evaluateStalledTracking (w.stalledFacts
        (w.answer .getExistingLogisticsTickets) (w.alertsAmong read))).outcome := by
    intro read hall
    obtain ⟨tickets, hgate, htickets⟩ := gateOn_stalled flags hissue
      (hall _ (hrequired _ (by decide))) (hall _ (hrequired _ (by decide)))
      (hall _ (hrequired _ (by decide))) hrevised hticket
    rw [hgate, htickets (hall _ (hrequired _ (by decide)))]
  cases hrows : w.stalledRows with
  | some r =>
    refine ⟨r.outcome, fun {read} hall _ => ?_⟩
    rw [hgate hall, evaluateStalledTracking, stalledRows_eq, hrows]
    rfl
  | none =>
    -- The rows on tickets and alerts decide; the alerts have been read where they count.
    refine ⟨(evaluateStalledTracking (w.stalledFacts (w.answer .getExistingLogisticsTickets)
      (w.alertsAmong [.getCarrierServiceAlerts]))).outcome, fun {read} hall hcarrier => ?_⟩
    have halerts : w.alertsAmong read = w.alertsAmong [.getCarrierServiceAlerts] := by
      unfold alertsAmong
      by_cases hdemo : w.trusted.fixtureVersion = "business-demo-v1"
      · have hc : ReadTool.getCarrierServiceAlerts ∈ read := by
          by_contra hc
          rw [carrierPending_iff.mpr ⟨hdemo, hissue, hc, ⟨hall _ (hrequired _ (by decide)),
            hall _ (hrequired _ (by decide))⟩, overdue_of_passes hrows⟩] at hcarrier
          cases hcarrier
        rw [resultsOf_mem hc, resultsOf_mem (List.mem_singleton_self _)]
      · simp [hdemo]
    rw [hgate hall, halerts]

/-! ### Where the machine halts -/

omit [ResultDigest] in
theorem evaluable_iff : w.evaluable read = true ↔
    ∀ tool ∈ requiredObservationTools w.issue, tool ∈ read := by
  simp [evaluable]

theorem earlyStop_concat (done : List ReadTool) (t : ReadTool) : w.earlyStop (done ++ [t]) =
    Coordinator.earlyStopOf w.trusted (w.resultsOf (done ++ [t])) t (w.answer t) := by
  simp [earlyStop]

theorem halted_of_earlyStop (h : (w.earlyStop read).isSome) : w.halted read = true := by
  simp [halted, h]

theorem halted_order (hready : Coordinator.revisionReady w.trusted w.orderPayload = true)
    (done : List ReadTool) : w.halted (done ++ [.getOrderContext]) = true := by
  refine halted_of_earlyStop ?_
  have hpayload : (w.answer .getOrderContext).payload = some w.orderPayload := rfl
  rw [earlyStop_concat, Coordinator.earlyStopOf, hpayload]
  simp only [if_pos hready, Option.isSome_some]

theorem halted_tickets (hactive : w.hasActiveTicket = true) (done : List ReadTool) :
    w.halted (done ++ [.getExistingLogisticsTickets]) = true := by
  refine halted_of_earlyStop ?_
  have hreported : activeTicket (w.answer .getExistingLogisticsTickets) = true := hactive
  rw [earlyStop_concat, Coordinator.earlyStopOf, if_pos hreported]
  rfl

theorem halted_policy (hwithin : w.WithinThreshold) (done : List ReadTool)
    (ht : ReadTool.getLogisticsTimeline ∈ done) :
    w.halted (done ++ [.searchAfterSalesPolicy]) = true := by
  refine halted_of_earlyStop ?_
  rw [earlyStop_concat, Coordinator.earlyStopOf, if_pos (withinSla_iff.mpr ⟨by simp [ht], hwithin⟩)]
  rfl

/-- With a required read missing and no early stop, the machine goes on. -/
theorem goes_on {t : ReadTool} (hstop : w.earlyStop read = none)
    (hrequired : t ∈ requiredObservationTools w.issue) (ht : t ∉ read) : w.halted read = false := by
  have hmissing : w.evaluable read = false :=
    Bool.eq_false_iff.mpr fun h => ht (evaluable_iff.mp h t hrequired)
  simp [halted, hstop, hmissing]

/-- Without an active ticket the machine halts on a contradicting order, within the threshold, or
    with all evidence there. -/
theorem halted_cases (hticket : w.hasActiveTicket = false) (h : w.halted read = true) :
    (.getOrderContext ∈ read ∧ Coordinator.revisionReady w.trusted w.orderPayload = true) ∨
    ((.getLogisticsTimeline ∈ read ∧ .searchAfterSalesPolicy ∈ read) ∧ w.WithinThreshold) ∨
    (w.evaluable read = true ∧ w.carrierPending read = false) := by
  rcases Bool.or_eq_true_iff.mp h with hstop | hall
  · obtain ⟨reason, hreason⟩ := Option.isSome_iff_exists.mp hstop
    obtain ⟨t, hlast, hearly⟩ := Option.bind_eq_some_iff.mp hreason
    have hmem : t ∈ read := List.mem_of_getLast? hlast
    cases t with
    | getOrderContext =>
      have hpayload : (w.answer .getOrderContext).payload = some w.orderPayload := rfl
      simp only [Coordinator.earlyStopOf, hpayload, Option.ite_none_right_eq_some] at hearly
      exact Or.inl ⟨hmem, hearly.1⟩
    | getExistingLogisticsTickets =>
      simp only [Coordinator.earlyStopOf, Option.ite_none_right_eq_some] at hearly
      rw [hasActiveTicket, hearly.1] at hticket
      cases hticket
    | searchAfterSalesPolicy =>
      simp only [Coordinator.earlyStopOf, Option.ite_none_right_eq_some] at hearly
      exact Or.inr (Or.inl (withinSla_iff.mp hearly.1))
    | _ => cases hearly
  · simp only [Bool.and_eq_true, Bool.not_eq_true'] at hall
    exact Or.inr (Or.inr hall)

/-- An order that does not contradict the issue lets the machine go on. -/
theorem earlyStop_order (h : Coordinator.revisionReady w.trusted w.orderPayload = false) :
    w.earlyStop [.getOrderContext] = none := by
  have hpayload : (w.answer .getOrderContext).payload = some w.orderPayload := rfl
  show w.earlyStop ([] ++ [.getOrderContext]) = none
  rw [earlyStop_concat, Coordinator.earlyStopOf, hpayload]
  simp only [h, Bool.false_eq_true, if_false]

theorem reads_one {t : ReadTool} (hrel : w.Relevant t) : w.Reads [t] :=
  .read .start w.halted_nil List.not_mem_nil hrel

omit [ResultDigest] in
/-- The reads that both issues require. -/
theorem required_of_both {t : ReadTool} (h : t ∈ [ReadTool.getOrderContext, .getLogisticsTimeline,
    .searchAfterSalesPolicy, .getExistingLogisticsTickets]) :
    t ∈ requiredObservationTools w.issue ∧ w.Relevant t := by
  unfold Relevant
  revert h
  cases w.issue <;> cases t <;> decide

/-! ### When the order of the reads does not matter -/

variable (w)

/-- No ticket is active and, if the last scan is within the threshold, the order does not contradict
    the reported issue and the evidence needs human support anyway. -/
def StopsAgreeWithGate : Prop :=
  w.hasActiveTicket = false ∧
    (w.WithinThreshold → w.revisedTo = none ∧ w.NeedsHumanWithinThreshold)

variable {w}

/-- Lists that halt agree when no early stop can hide what the gate needs. -/
theorem gateOn_agree (h : w.StopsAgreeWithGate) {first second : List ReadTool}
    (hfirst : w.Reads first) (hhalt : w.halted first = true) (hsecond : w.Reads second)
    (hhalt' : w.halted second = true) : w.gateOn flags first = w.gateOn flags second := by
  obtain ⟨hticket, hsla⟩ := h
  have hcases : ∀ {read}, w.halted read = true → _ := fun h => halted_cases hticket h
  have horder : ReadTool.getOrderContext ∈ requiredObservationTools w.issue :=
    (required_of_both (by decide)).1
  cases hrevised : w.revisedTo with
  | some revised =>
    have hread : ∀ {read}, w.halted read = true → ReadTool.getOrderContext ∈ read := by
      intro read hread
      rcases hcases hread with ⟨ho, -⟩ | ⟨-, hwithin⟩ | ⟨hall, -⟩
      · exact ho
      · rw [(hsla hwithin).1] at hrevised
        cases hrevised
      · exact evaluable_iff.mp hall _ horder
    rw [gateOn_of_revised (hread hhalt) hrevised, gateOn_of_revised (hread hhalt') hrevised]
  | none =>
    have hnotReady : ¬ Coordinator.revisionReady w.trusted w.orderPayload = true := fun hready => by
      obtain ⟨revised, hsome⟩ := revised_of_ready hready
      rw [hrevised] at hsome
      cases hsome
    by_cases hwithin : w.WithinThreshold
    · -- Every list that halts leaves the order unread or reaches the rows on the evidence.
      have hhuman : ∀ {read}, w.halted read = true →
          w.gateOn flags read = .decision .requireHumanSupport := by
        intro read hread
        by_cases ho : ReadTool.getOrderContext ∈ read
        · rcases hcases hread with ⟨-, hready⟩ | ⟨⟨ht, hp⟩, -⟩ | ⟨hall, -⟩
          · exact absurd hready hnotReady
          · exact (gateOn_withinThreshold hwithin hrevised hticket ho ht hp).mpr (hsla hwithin).2
          · exact (gateOn_withinThreshold hwithin hrevised hticket ho
              (evaluable_iff.mp hall _ (required_of_both (by decide)).1)
              (evaluable_iff.mp hall _ (required_of_both (by decide)).1)).mpr (hsla hwithin).2
        · exact gateOn_of_no_order ho
      rw [hhuman hhalt, hhuman hhalt']
    · have hall : ∀ {read}, w.halted read = true →
          (∀ t ∈ requiredObservationTools w.issue, t ∈ read) ∧ w.carrierPending read = false := by
        intro read hread
        rcases hcases hread with ⟨-, hready⟩ | ⟨-, hwithin'⟩ | ⟨hall, hcarrier⟩
        · exact absurd hready hnotReady
        · exact absurd hwithin' hwithin
        · exact ⟨evaluable_iff.mp hall, hcarrier⟩
      cases hissue : w.issue with
      | signedNotReceived =>
        -- All five relevant reads are required, so the two lists have read the same.
        have hsame : ∀ {read}, w.Reads read → w.halted read = true →
            ∀ t, t ∈ read ↔ t ∈ requiredObservationTools w.issue := by
          intro read hreads hread t
          refine ⟨fun ht => ?_, (hall hread).1 t⟩
          have hrel := (w.relevant_iff t).mp (hreads.relevant t ht)
          rw [hissue] at hrel ⊢
          revert hrel
          cases t <;> decide
        exact gateOn_congr fun t => (hsame hfirst hhalt t).trans (hsame hsecond hhalt' t).symm
      | stalledTracking =>
        obtain ⟨o, ho⟩ := gateOn_overdue flags hissue hrevised hticket
        rw [ho (hall hhalt).1 (hall hhalt).2, ho (hall hhalt').1 (hall hhalt').2]

/-- Lists that halt disagree when an early stop can hide what the gate needs. -/
theorem stopsAgree_of_gateOn (h : ∀ first second : List ReadTool, w.Reads first →
      w.halted first = true → w.Reads second → w.halted second = true →
      w.gateOn flags first = w.gateOn flags second) : w.StopsAgreeWithGate := by
  have hread : ∀ {t}, t ∈ [ReadTool.getOrderContext, .getLogisticsTimeline,
      .searchAfterSalesPolicy, .getExistingLogisticsTickets] → w.Relevant t :=
    fun ht => (required_of_both ht).2
  have hmissing : ∀ {t}, t ∈ [ReadTool.getOrderContext, .getLogisticsTimeline,
      .searchAfterSalesPolicy, .getExistingLogisticsTickets] →
      t ∈ requiredObservationTools w.issue := fun ht => (required_of_both ht).1
  -- A run that stops before the order is read ends in human support; so must the others.
  have hhuman : ∀ {hidden read}, w.Reads hidden → w.halted hidden = true →
      ReadTool.getOrderContext ∉ hidden → w.Reads read → w.halted read = true →
      w.gateOn flags read = .decision .requireHumanSupport := by
    intro hidden read hhidden hstop ho hreads hhalt
    rw [h _ _ hreads hhalt hhidden hstop, gateOn_of_no_order ho]
  have horder : w.Reads [.getOrderContext] := reads_one (hread (by decide))
  -- A contradicting order, read first, ends in a revision.
  have hrevision : ∀ {hidden}, w.Reads hidden → w.halted hidden = true →
      ReadTool.getOrderContext ∉ hidden →
      Coordinator.revisionReady w.trusted w.orderPayload = false := by
    intro hidden hhidden hstop ho
    by_contra hready
    rw [Bool.not_eq_false] at hready
    obtain ⟨revised, hrevised⟩ := revised_of_ready hready
    have hgate := hhuman hhidden hstop ho horder (halted_order hready [])
    rw [gateOn_of_revised (List.mem_singleton_self _) hrevised] at hgate
    cases hgate
  have hgoes : Coordinator.revisionReady w.trusted w.orderPayload = false →
      w.halted [.getOrderContext] = false := fun hready =>
    goes_on (earlyStop_order hready) (hmissing (t := .getLogisticsTimeline) (by decide)) (by decide)
  have hticket : w.hasActiveTicket = false := by
    by_contra hactive
    rw [Bool.not_eq_false] at hactive
    have hhidden : w.Reads [.getExistingLogisticsTickets] := reads_one (hread (by decide))
    have hstop := halted_tickets hactive []
    have hready := hrevision hhidden hstop (by decide)
    have hgate := hhuman hhidden hstop (by decide)
      (.read horder (hgoes hready) (by decide) (hread (by decide)))
      (halted_tickets hactive [.getOrderContext])
    cases hrevised : w.revisedTo with
    | some revised =>
      rw [gateOn_of_revised (by decide) hrevised] at hgate
      cases hgate
    | none =>
      rw [gateOn_of_active (by decide) hrevised (by decide) hactive] at hgate
      cases hgate
  refine ⟨hticket, fun hwithin => ?_⟩
  have htimeline : w.Reads [.getLogisticsTimeline] := reads_one (hread (by decide))
  have hhidden : w.Reads [.getLogisticsTimeline, .searchAfterSalesPolicy] :=
    .read htimeline (goes_on rfl (hmissing (t := .getOrderContext) (by decide)) (by decide))
      (by decide) (hread (by decide))
  have hstop : w.halted [.getLogisticsTimeline, .searchAfterSalesPolicy] = true :=
    halted_policy hwithin _ (List.mem_singleton_self _)
  have hready := hrevision hhidden hstop (by decide)
  have hrevised : w.revisedTo = none := by
    by_contra hsome
    rw [ready_of_revised hwithin.1 hsome] at hready
    cases hready
  refine ⟨hrevised, ?_⟩
  have htwo : w.Reads [.getOrderContext, .getLogisticsTimeline] :=
    .read horder (hgoes hready) (by decide) (hread (by decide))
  have hthree : w.Reads [.getOrderContext, .getLogisticsTimeline, .searchAfterSalesPolicy] :=
    .read htwo (goes_on rfl (hmissing (t := .searchAfterSalesPolicy) (by decide)) (by decide))
      (by decide) (hread (by decide))
  have hgate := hhuman hhidden hstop (by decide) hthree
    (halted_policy hwithin [.getOrderContext, .getLogisticsTimeline] (by decide))
  exact (gateOn_withinThreshold hwithin hrevised hticket (by decide) (by decide) (by decide)).mp hgate

end Gate

/-- The outcome does not depend on the order of the reads exactly when no ticket is active and a
    scan within the threshold leaves nothing but human support. -/
theorem orderIndependent_iff_stopsAgree (w : FaultFreeWorld) (flags : CustomerFlags) :
    w.OrderIndependent flags ↔ w.StopsAgreeWithGate := by
  rw [orderIndependent_iff]
  exact ⟨stopsAgree_of_gateOn, fun h _ _ hfirst hhalt hsecond hhalt' =>
    gateOn_agree h hfirst hhalt hsecond hhalt'⟩

end AfterSales.FaultFreeWorld

/-! ### An active ticket, read first -/

namespace AfterSales.FaultFreeWorld

section TicketFirst

attribute [local instance] PolicyDigest.bySource ProofDigest.byId ResultDigest.byName

def deliveredOrder : OrderFixture where
  orderId := "ORD-1"
  customerId := "CUS-1"
  orderStatus := .delivered
  serviceLevel := "standard"
  region := "cn-east"
  sourceRevision := "order-v1"

/-- One delivered order with an open ticket, and a corpus without clauses. -/
def ticketCatalog : SyntheticReadToolCatalog where
  store :=
    { fixtureVersion := "business-demo-v1"
      orders := fun id => if id = "ORD-1" then some deliveredOrder else none
      timelines := fun _ => []
      deliveryProofs := fun _ => none
      carrierAlerts := fun _ => []
      shipments := fun _ => []
      investigationCases := []
      faults := fun _ _ _ => none
      actionFaultPlan := fun _ => []
      baseTickets := [⟨"TCK-1", "ORD-1", .signedNotReceived, "open", none, 0, 0⟩]
      dynamicTickets := []
      ticketRevision := 0
      actionFaultPositions := fun _ => 0
      ordersKey := by
        intro id o h
        rw [Option.ite_none_right_eq_some] at h
        obtain ⟨rfl, ⟨⟩⟩ := h
        rfl }
  policyRag :=
    { corpus := .empty
      prose := plainProse
      sourceRevision := "corpus-v1"
      passageHash := fun c => c.contentHash
      rank := fun _ _ _ => .ok []
      minimumSimilarity := 0 }

def ticketScope : TrustedToolContext where
  customerId := "CUS-1"
  conversationId := "CONV-1"
  caseId := "CASE-1"
  runId := "RUN-1"
  authorizedOrderId := "ORD-1"
  canonicalIssueType := .signedNotReceived
  fixtureVersion := "business-demo-v1"
  faultSeed := "default"
  evaluatedAt := 0
  targetShipmentId := none

/-- A customer reports a parcel as missing for which a ticket is already open. -/
def ticketWorld : FaultFreeWorld where
  catalog := ticketCatalog
  trusted := ticketScope
  order := deliveredOrder
  policy := noHitPayload "ORD-1" ⟨.signedNotReceived, "standard", "cn-east", 0⟩
  authorized := rfl
  noGuard := by decide
  noFault := fun _ => rfl
  searched := rfl

/-- Reading the ticket first ends in human support, reading the order first in no action. -/
theorem ticket_first_differs :
    ticketWorld.Accepted (followOrder [.getExistingLogisticsTickets]) ∧
    ticketWorld.Accepted (followOrder [.getOrderContext, .getExistingLogisticsTickets]) ∧
    ticketWorld.outcome {} (followOrder [.getExistingLogisticsTickets])
      = .ok (.decision .requireHumanSupport) ∧
    ticketWorld.outcome {} (followOrder [.getOrderContext, .getExistingLogisticsTickets])
      = .ok (.decision .completeNoAction) := by
  have hactive : ticketWorld.hasActiveTicket = true := by decide +kernel
  have hready : Coordinator.revisionReady ticketWorld.trusted ticketWorld.orderPayload = false := by
    decide +kernel
  have hrevised : ticketWorld.revisedTo = none := by decide +kernel
  have horder : ticketWorld.Reads [.getOrderContext] := reads_one (required_of_both (by decide)).2
  have hgoes : ticketWorld.halted [.getOrderContext] = false :=
    goes_on (t := .getLogisticsTimeline) (earlyStop_order hready) (required_of_both (by decide)).1
      (by decide)
  obtain ⟨hfirst, houtcome⟩ := accepted_followOrder {}
    (reads_one (required_of_both (t := .getExistingLogisticsTickets) (by decide)).2)
    (halted_tickets hactive [])
  have htwo : ticketWorld.Reads [.getOrderContext, .getExistingLogisticsTickets] :=
    .read horder hgoes (by decide) (required_of_both (by decide)).2
  obtain ⟨hsecond, houtcome'⟩ := accepted_followOrder {} htwo
    (halted_tickets hactive [.getOrderContext])
  refine ⟨hfirst, hsecond, ?_, ?_⟩
  · rw [houtcome, gateOn_of_no_order (by decide)]
  · rw [houtcome', gateOn_of_active (by decide) hrevised (by decide) hactive]

end TicketFirst

end AfterSales.FaultFreeWorld
