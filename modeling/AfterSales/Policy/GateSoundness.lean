import AfterSales.Policy.EvidenceGate

/-! What a proposal of the evidence gate rests on.

    Every row of the truth tables but the last refuses, so a proposal has fallen through all of
    them, and each row it passed is a fact about the evidence. The facts are collected in one record
    for each issue type. The check against scans after the observation time has its own scope: it
    looks at the selected package, or at the only package of the order, and at nothing else. -/

namespace AfterSales
open Cascade

/-- The outcome is to propose a ticket. -/
def EvidenceGateResult.Proposes (r : EvidenceGateResult) : Prop :=
  r.outcome = .decision .proposeTicket

instance (r : EvidenceGateResult) : Decidable r.Proposes :=
  inferInstanceAs (Decidable (_ = _))

/-- A cascade that never proposes, and the fact its falling through establishes. -/
abbrev Refuses (o : Option EvidenceGateResult) (P : Prop) : Prop :=
  Row (fun r => ¬ r.Proposes) o P

/-! ### The shared rows -/

@[simp] theorem gateResult_proposes (d : EvidenceGateDecision) (reason : String)
    (named : NamedResults) : (gateResult d reason named).Proposes ↔ d = .proposeTicket := by
  simp [EvidenceGateResult.Proposes, gateResult]

@[simp] theorem revision_refuses (t : TriageIntent) (reason : String)
    (hashes : List (String × String)) :
    ¬ (⟨.revision t, reason, hashes⟩ : EvidenceGateResult).Proposes := by
  simp [EvidenceGateResult.Proposes]

@[simp] theorem refreshDecision_ne (facts : CommonGateFacts) :
    refreshDecision facts ≠ .proposeTicket := by
  unfold refreshDecision
  split <;> simp

/-- The guards both tables start with. -/
structure CommonGuardsHold (facts : CommonGateFacts) : Prop where
  authorized : facts.authorizationValid = true
  withinBudget : facts.budgetExceeded = false
  scopeMatches : facts.evidenceScopeMatchesCase = true
  actionSupported : facts.requestedActionSupported = true
  noConflict : facts.structuralConflict = false

theorem commonGuard_refuses (facts : CommonGateFacts) :
    Refuses (commonGuard facts) (CommonGuardsHold facts) := by
  refine .test (by simp) fun hauth => ?_
  refine .test (by simp) fun hbudget => ?_
  refine .test (by simp) fun hscope => ?_
  refine .test (by simp) fun haction => ?_
  refine .test (by simp) fun _ => ?_
  refine .test (by simp) fun hconflict => ?_
  exact .done ⟨by simpa using hauth, by simpa using hbudget, by simpa using hscope,
    by simpa using haction, by simpa using hconflict⟩

/-- The availability row falls through exactly when every named result completed. -/
theorem unavailableResult_eq_none {named : NamedResults} {exhausted : Bool} :
    unavailableResult named exhausted = none ↔ ∀ r ∈ named, r.2.Completed := by
  unfold unavailableResult
  simp only [ite_eq_left_iff, reduceCtorEq, imp_false, not_not, List.filter_eq_nil_iff,
    decide_eq_true_eq, not_or, ResultHead.Completed]
  exact forall₂_congr fun r _ => and_comm

theorem unavailableResult_refuses (named : NamedResults) (exhausted : Bool) :
    Refuses (unavailableResult named exhausted) (∀ r ∈ named, r.2.Completed) := by
  refine .of_cases (fun r h => ?_) unavailableResult_eq_none.mp
  unfold unavailableResult at h
  simp only [Option.ite_none_left_eq_some, Option.some.injEq] at h
  obtain ⟨-, rfl⟩ := h
  rw [gateResult_proposes]
  split <;> simp

/-! ### Scans after the observation time -/

/-- The package the structural check looks at exists: selected, or the only one. -/
def ConflictScoped (order : OrderContextPayload) (targetShipmentId : Option String) : Prop :=
  conflictTarget order targetShipmentId ≠ none

/-- Inside its scope the structural check leaves no scan later than the observation. -/
theorem no_future_event {order : OrderContextPayload} {timeline : LogisticsTimelinePayload}
    {observedAt : Instant} {targetShipmentId : Option String} {scopedTimeline : ScopedTimeline}
    (hnone : ¬ hasStructuralTimelineConflict order timeline observedAt targetShipmentId = true)
    (hscope : ConflictScoped order targetShipmentId)
    (htl : targetTimeline timeline targetShipmentId = some scopedTimeline) :
    ∀ event ∈ scopedTimeline.events, event.occurredAt ≤ observedAt := by
  obtain ⟨target, htarget⟩ := Option.ne_none_iff_exists'.mp hscope
  simp only [hasStructuralTimelineConflict, Id.run, pure, htarget, htl] at hnone
  intro event hevent
  by_contra hlater
  have hne : scopedTimeline.events ≠ [] := List.ne_nil_of_mem hevent
  have hany : (scopedTimeline.events.any fun e => decide (e.occurredAt > observedAt)) = true :=
    List.any_eq_true.mpr ⟨event, hevent, by simpa using hlater⟩
  rw [if_neg hne, if_pos hany] at hnone
  exact hnone rfl

/-! ### The policy row -/

section Tables

variable [PolicyDigest]

/-- A policy result that authorizes a proposal for `order` and `issueType`. -/
structure PolicyAuthorizes (policy : ToolResult PolicySearchPayload)
    (payload : PolicySearchPayload) (facts : PolicyFactSnapshot)
    (order : OrderContextPayload) (issueType : IssueType) : Prop where
  isPayload : policy.payload = some payload
  hit : payload.retrievalStatus = .hit
  applicable : payload.policyResolutionStatus = some .applicable
  verified : payload.verifiedForGate = true
  isFacts : payload.policyFactSnapshot = some facts
  issue : facts.issueType = issueType
  serviceLevel : facts.serviceLevel = order.serviceLevel
  region : facts.region = order.region
  cited : ∃ c, payload.citation = some c ∧ c.policyVersion = facts.policyVersion ∧
    c.clauseId = facts.clauseId ∧ c.sourceHash = facts.sourceHash
  inWindow : withinEffectiveWindow facts payload.evaluatedAt = true
  evidenceCodes : ∀ code ∈ requiredCodes issueType, code ∈ facts.requiredEvidenceCodes

/-- Facts in scope agree with the issue, the order and the citation. -/
theorem policyScope_matches {payload : PolicySearchPayload} {facts : PolicyFactSnapshot}
    {order : OrderContextPayload} {issueType : IssueType}
    (h : ¬ policyScopeMismatch payload facts order issueType = true) :
    facts.issueType = issueType ∧ facts.serviceLevel = order.serviceLevel ∧
      facts.region = order.region ∧ ∃ c, payload.citation = some c ∧
        c.policyVersion = facts.policyVersion ∧ c.clauseId = facts.clauseId ∧
        c.sourceHash = facts.sourceHash := by
  simp only [policyScopeMismatch, decide_eq_true_eq] at h
  push Not at h
  obtain ⟨hissue, hlevel, hregion, hversion, hclause, hhash⟩ := h
  refine ⟨hissue, hlevel, hregion, ?_⟩
  cases hcite : payload.citation with
  | none => simp [hcite] at hversion
  | some c =>
    simp only [hcite, Option.map_some, Option.some.injEq] at hversion hclause hhash
    exact ⟨c, rfl, hversion.symm, hclause.symm, hhash.symm⟩

theorem policyGuard_refuses (policy : ToolResult PolicySearchPayload)
    (order : OrderContextPayload) (issueType : IssueType) (named : NamedResults) :
    Refuses (policyGuard policy order issueType named)
      (∃ payload facts, PolicyAuthorizes policy payload facts order issueType) := by
  refine .need (by simp) fun payload hpayload => ?_
  refine .test (by simp) fun _ => ?_
  refine .test (by simp) fun hhit => ?_
  refine .test (by simp) fun _ => ?_
  refine .test (by simp) fun _ => ?_
  refine .test (by simp) fun hverified => ?_
  refine .need (by simp) fun facts hfacts => ?_
  refine .test (by simp) fun hscope => ?_
  refine .test (by simp) fun hwindow => ?_
  refine .test (by simp) fun hcodes => ?_
  rw [not_not] at hhit hverified hwindow hcodes
  obtain ⟨hissue, hlevel, hregion, hcited⟩ := policyScope_matches hscope
  have happlicable : payload.policyResolutionStatus = some .applicable := by
    have h := hverified
    simp only [PolicySearchPayload.verifiedForGate, decide_eq_true_eq] at h
    exact h.2.1
  exact .done ⟨payload, facts, hpayload, hhit, happlicable, hverified, hfacts, hissue, hlevel,
    hregion, hcited, hwindow, hcodes⟩

/-- The facts an authorizing policy result carries are the ones the later rows read. -/
theorem PolicyAuthorizes.policyFacts_eq {policy : ToolResult PolicySearchPayload}
    {payload : PolicySearchPayload} {facts : PolicyFactSnapshot} {order : OrderContextPayload}
    {issueType : IssueType} (h : PolicyAuthorizes policy payload facts order issueType) :
    policyFacts policy = some facts := by
  rw [policyFacts, h.isPayload, Option.bind_some, h.isFacts]

/-! ### Signed but not received -/

/-- What the evidence rows of a signed-but-missing report establish. -/
structure SignedEvidenceSound (facts : SignedNotReceivedEvidence)
    (order : OrderContextPayload) (scopedTimeline : ScopedTimeline)
    (policy : PolicySearchPayload) (policyFacts : PolicyFactSnapshot) : Prop where
  common : CommonGuardsHold facts.toCommonGateFacts
  completed : ∀ r ∈ prePodCritical facts, r.2.Completed
  isOrder : facts.orderContext.payload = some order
  targetKnown : facts.targetShipmentId ≠ none →
    targetShipment order facts.targetShipmentId ≠ none
  delivered : targetDelivered order facts.targetShipmentId = true
  noActiveTicket : activeTicket facts.existingTickets = false
  isTimeline : (facts.timeline.payload.bind fun t => targetTimeline t facts.targetShipmentId)
    = some scopedTimeline
  timelineNonempty : scopedTimeline.events ≠ []
  authorizes : PolicyAuthorizes facts.policy policy policyFacts order .signedNotReceived
  eligible : policyFacts.eligible = true

/-- What the rows on the customer's side establish. -/
structure CustomerFactsSound (facts : SignedNotReceivedEvidence) : Prop where
  stillMissing : facts.customerStillReportsMissing = true
  proofCompleted : facts.deliveryProof.head.Completed
  noLocationConflict : facts.deliveryLocationConflict = false
  receptionChecked : receptionTypeProof facts.deliveryProof = true →
    facts.receptionLocationsChecked = true

theorem signedEvidenceRows_refuse (facts : SignedNotReceivedEvidence) :
    Refuses (signedEvidenceRows facts)
      (∃ order scopedTimeline policy policyFacts,
        SignedEvidenceSound facts order scopedTimeline policy policyFacts) := by
  refine .guard (commonGuard_refuses _) fun hcommon => ?_
  refine .guard (unavailableResult_refuses _ _) fun _ => ?_
  refine .need (by simp) fun order horder => ?_
  refine .test (by simp) fun htarget => ?_
  refine .test (by simp) fun hdelivered => ?_
  refine .guard (unavailableResult_refuses _ _) fun _ => ?_
  refine .test (by simp) fun hticket => ?_
  refine .guard (unavailableResult_refuses _ _) fun hcompleted => ?_
  refine .need (by simp) fun timeline htimeline => ?_
  refine .test (by simp) fun _ => ?_
  refine .need (by simp) fun scopedTimeline hscoped => ?_
  refine .test (by simp) fun hevents => ?_
  refine .guard (policyGuard_refuses _ _ _ _) fun ⟨policy, policyFacts, hauth⟩ => ?_
  rw [hauth.policyFacts_eq]
  refine .test (by simp) fun heligible => ?_
  rw [not_not] at hdelivered heligible
  refine .done ⟨order, scopedTimeline, policy, policyFacts, hcommon, hcompleted, horder, ?_,
    hdelivered, by simpa using hticket, ?_, hevents, hauth, heligible⟩
  · exact fun hid hnone => htarget ⟨hid, hnone⟩
  · rw [htimeline, Option.bind_some, hscoped]

theorem signedCustomerRows_refuse (facts : SignedNotReceivedEvidence) :
    Refuses (signedCustomerRows facts) (CustomerFactsSound facts) := by
  refine .test (by simp) fun hmissing => ?_
  refine .guard (unavailableResult_refuses _ _) fun hproof => ?_
  refine .test (by simp) fun hconflict => ?_
  refine .test (by simp) fun hreception => ?_
  refine .done ⟨not_not.mp hmissing, hproof _ (List.mem_singleton.mpr rfl), by simpa using hconflict,
    fun hr => ?_⟩
  by_contra hchecked
  exact hreception ⟨hr, hchecked⟩

theorem evaluateSignedNotReceived_sound {facts : SignedNotReceivedEvidence}
    (h : (evaluateSignedNotReceived facts).Proposes) :
    (∃ order scopedTimeline policy policyFacts,
      SignedEvidenceSound facts order scopedTimeline policy policyFacts) ∧
      CustomerFactsSound facts := by
  have hrows : Refuses (guard (signedEvidenceRows facts) (signedCustomerRows facts)) _ :=
    .guard (signedEvidenceRows_refuse facts) fun hevidence =>
      .of_cases (fun _ => (signedCustomerRows_refuse facts).returns) fun hnone =>
        And.intro hevidence ((signedCustomerRows_refuse facts).falls_through hnone)
  exact (hrows.getD h).1

/-! ### Stalled tracking -/

/-- What the evidence rows of a stalled-tracking report establish. -/
structure StalledEvidenceSound (facts : StalledTrackingEvidence)
    (order : OrderContextPayload) (scopedTimeline : ScopedTimeline)
    (policy : PolicySearchPayload) (policyFacts : PolicyFactSnapshot) : Prop where
  common : CommonGuardsHold facts.toCommonGateFacts
  completed : ∀ r ∈ decisionInputs facts, r.2.Completed
  isOrder : facts.orderContext.payload = some order
  targetKnown : facts.targetShipmentId ≠ none →
    targetShipment order facts.targetShipmentId ≠ none
  targetActive : ∀ t ∈ targetShipment order facts.targetShipmentId,
    t.shipmentStatus ∈ activeShipmentStates
  orderShipped : targetShipment order facts.targetShipmentId = none →
    order.orderStatus = .shipped
  isTimeline : (facts.timeline.payload.bind fun t => targetTimeline t facts.targetShipmentId)
    = some scopedTimeline
  authorizes : PolicyAuthorizes facts.policy policy policyFacts order .stalledTracking
  eligible : policyFacts.eligible = true
  overdue : ∃ threshold ∈ policyFacts.stalledAfterHours,
    ∃ hours ∈ scopedTimeline.hoursSinceLastUpdate, (threshold : ℚ) < hours
  noFutureEvent : ConflictScoped order facts.targetShipmentId →
    ∀ event ∈ scopedTimeline.events, event.occurredAt ≤ facts.timeline.observedAt

/-- What the rows on tickets and alerts establish. -/
structure TicketRowsSound (facts : StalledTrackingEvidence) : Prop where
  alertsCompleted : ∀ a ∈ facts.carrierAlerts, a.head.Completed
  ticketsCompleted : facts.existingTickets.head.Completed
  noActiveTicket : activeTicket facts.existingTickets = false
  noActiveAlert : ∀ a ∈ facts.carrierAlerts, carrierRecoveryActive a = false

theorem stalledEvidenceRows_refuse (facts : StalledTrackingEvidence) :
    Refuses (stalledEvidenceRows facts)
      (∃ order scopedTimeline policy policyFacts,
        StalledEvidenceSound facts order scopedTimeline policy policyFacts) := by
  refine .guard (commonGuard_refuses _) fun hcommon => ?_
  refine .guard (unavailableResult_refuses _ _) fun hcompleted => ?_
  refine .need (by simp) fun order horder => ?_
  refine .test (by simp) fun htarget => ?_
  refine .test (by simp) fun _ => ?_
  refine .test (by simp) fun hshipped => ?_
  refine .test (by simp) fun hactive => ?_
  refine .need (by simp) fun timeline htimeline => ?_
  refine .test (by simp) fun _ => ?_
  refine .guard (policyGuard_refuses _ _ _ _) fun ⟨policy, policyFacts, hauth⟩ => ?_
  rw [hauth.policyFacts_eq]
  refine .test (by simp) fun heligible => ?_
  refine .need (by simp) fun threshold hthreshold => ?_
  refine .need (by simp) fun scopedTimeline hscoped => ?_
  refine .need (by simp) fun hours hhours => ?_
  refine .test (by simp) fun hconflict => ?_
  refine .test (by simp) fun hoverdue => ?_
  refine .done ⟨order, scopedTimeline, policy, policyFacts, hcommon, hcompleted, horder, ?_, ?_,
    ?_, ?_, hauth, not_not.mp heligible, ⟨threshold, hthreshold, hours, hhours, ?_⟩, ?_⟩
  · exact fun hid hnone => htarget ⟨hid, hnone⟩
  · intro t ht
    by_contra hstate
    exact hactive ⟨t, ht, hstate⟩
  · intro hnone
    by_contra hstatus
    exact hshipped ⟨hnone, hstatus⟩
  · rw [htimeline, Option.bind_some, hscoped]
  · exact Rat.not_le.mp hoverdue
  · exact fun hscope => no_future_event hconflict hscope hscoped

theorem stalledTicketRows_refuse (facts : StalledTrackingEvidence) :
    Refuses (stalledTicketRows facts) (TicketRowsSound facts) := by
  refine .guard (unavailableResult_refuses _ _) fun halerts => ?_
  refine .guard (unavailableResult_refuses _ _) fun htickets => ?_
  refine .test (by simp) fun hticket => ?_
  refine .test (by simp) fun hactive => ?_
  refine .done ⟨fun a ha => ?_, htickets _ (List.mem_singleton.mpr rfl), by simpa using hticket,
    fun a ha => ?_⟩
  · exact halerts ("carrier_alerts", a.head) (by simp [namedAlerts, Option.mem_def.mp ha])
  · rw [Option.mem_def.mp ha] at hactive
    simpa using hactive

theorem evaluateStalledTracking_sound {facts : StalledTrackingEvidence}
    (h : (evaluateStalledTracking facts).Proposes) :
    (∃ order scopedTimeline policy policyFacts,
      StalledEvidenceSound facts order scopedTimeline policy policyFacts) ∧
      TicketRowsSound facts := by
  have hrows : Refuses (guard (stalledEvidenceRows facts) (stalledTicketRows facts)) _ :=
    .guard (stalledEvidenceRows_refuse facts) fun hevidence =>
      .of_cases (fun _ => (stalledTicketRows_refuse facts).returns) fun hnone =>
        And.intro hevidence ((stalledTicketRows_refuse facts).falls_through hnone)
  exact (hrows.getD h).1

/-! ### Soundness of the gate -/

/-- What a proposal of either table rests on. -/
def GateEvidence.Sound : GateEvidence → Prop
  | .signedNotReceived facts =>
    (∃ order scopedTimeline policy policyFacts,
      SignedEvidenceSound facts order scopedTimeline policy policyFacts) ∧
      CustomerFactsSound facts
  | .stalledTracking facts =>
    (∃ order scopedTimeline policy policyFacts,
      StalledEvidenceSound facts order scopedTimeline policy policyFacts) ∧
      TicketRowsSound facts

/-- A ticket is proposed only on evidence that passed every row of its issue type's table. -/
theorem evidenceGate_sound {issueType : IssueType} {facts : GateEvidence}
    {r : EvidenceGateResult} (h : evaluateEvidenceGate issueType facts = some r)
    (hp : r.Proposes) : facts.Sound := by
  cases issueType <;> cases facts <;> simp only [evaluateEvidenceGate, Option.some.injEq,
    reduceCtorEq] at h
  · subst h; exact evaluateSignedNotReceived_sound hp
  · subst h; exact evaluateStalledTracking_sound hp

end Tables

/-! ### An order of two packages, none selected -/

section TwoPackages

attribute [local instance] PolicyDigest.bySource

/-- The facts of a clause with a threshold of 48 hours. -/
def stalledClauseFacts : PolicyFactSnapshot where
  eligible := true
  stalledAfterHours := some 48
  requiredEvidenceCodes := ["order_shipped", "timeline", "no_active_ticket"]
  effectiveFrom := 0
  effectiveTo := none
  serviceLevel := "standard"
  region := "cn-east"
  policyVersion := "v2"
  clauseId := "CL-STD-STL-V2"
  sourceHash := "clause"
  issueType := .stalledTracking
  window := PolicyFactSnapshot.always
  threshold := by decide
  codesNodup := by decide

/-- Two moving packages whose order was last scanned two hours after the observation. -/
def unselectedPackages : StalledTrackingEvidence where
  orderContext := .completed .present "order" 1000
    { orderId := "ORD-1", orderStatus := .shipped, serviceLevel := "standard", region := "cn-east",
      shipments := [⟨"SHP-A", 1, 2, "TRK-A", "in_transit"⟩, ⟨"SHP-B", 2, 2, "TRK-B", "stalled"⟩] }
    ["ORD-1"] "order-hash"
  timeline := .completed .present "timeline" 1000
    { orderId := "ORD-1", events := [⟨"EV-1", none, "in_transit", 3000⟩], lastUpdateAt := some 3000,
      hoursSinceLastUpdate := some 60, shipmentTimelines := [], lastUpdateIff := by decide }
    ["EV-1"] "timeline-hash"
  existingTickets := .completed .absent "tickets" 1000
    { orderId := "ORD-1", issueType := .stalledTracking, activeTickets := [],
      existingInvestigations := [] } [] "tickets-hash"
  policy := .completedSearch "policy" 1000
    { orderId := "ORD-1", issueType := .stalledTracking, serviceLevel := "standard",
      region := "cn-east", evaluatedAt := 1000, retrievalStatus := .hit,
      policyResolutionStatus := some .applicable, policyFactSnapshot := some stalledClauseFacts,
      policyFactSnapshotHash := some "clause",
      citation := some ⟨"DOC", "v2", "CL-STD-STL-V2", "clause"⟩,
      resolvedIffHit := by decide, applicable := by decide, factsMatchScope := by decide,
      citationMatches := by decide, notApplicable := by decide }
    (by decide) "policy-hash"

theorem unselectedPackages_sound : (GateEvidence.stalledTracking unselectedPackages).Sound :=
  evidenceGate_sound
    (show evaluateEvidenceGate .stalledTracking (.stalledTracking unselectedPackages) = some _
      from rfl)
    (show (evaluateStalledTracking unselectedPackages).Proposes by decide +kernel)

/-- Without a selected package the gate proposes although a scan lies after the observation. -/
theorem unselected_future_scan_proposes :
    (evaluateStalledTracking unselectedPackages).Proposes ∧
      ∃ timeline ∈ unselectedPackages.timeline.payload,
        ∃ scopedTimeline ∈ targetTimeline timeline unselectedPackages.targetShipmentId,
          ∃ event ∈ scopedTimeline.events,
            unselectedPackages.timeline.observedAt < event.occurredAt := by
  decide +kernel

end TwoPackages

end AfterSales
