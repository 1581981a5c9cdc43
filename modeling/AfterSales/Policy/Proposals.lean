import AfterSales.Policy.GateRefinement

/-! When the gate proposes, exactly.

    The rows of a truth table that a proposal falls through are facts about its evidence; soundness
    collects those that a ticket rests on. Some rows ask for more than that: a timeline that was
    scanned at all, and, for a stalled report, no structural conflict anywhere in it. With these the
    facts are enough as well:

        proposal  ↔  the facts that soundness collects, and the timeline in order

    So what the gate proposes can be said of the results it reads, without the gate. -/

namespace AfterSales
open Cascade

variable [PolicyDigest]

/-- A policy result that authorizes a proposal passes the policy row. -/
theorem PolicyAuthorizes.guard_eq_none {policy : ToolResult PolicySearchPayload}
    {payload : PolicySearchPayload} {facts : PolicyFactSnapshot} {order : OrderContextPayload}
    {issueType : IssueType} (h : PolicyAuthorizes policy payload facts order issueType)
    (named : NamedResults) : policyGuard policy order issueType named = none := by
  obtain ⟨citation, hcitation, hversion, hclause, hhash⟩ := h.cited
  have hscope : policyScopeMismatch payload facts order issueType = false := by
    simp [policyScopeMismatch, h.issue, h.serviceLevel, h.region, hcitation, hversion, hclause,
      hhash]
  unfold policyGuard
  simp only [h.isPayload, need_some]
  rw [test_of_not (by simp [h.hit]), test_of_not (by simp [h.hit]),
    test_of_not (by simp [h.applicable]), test_of_not (by simp [h.applicable]),
    test_of_not (by simp [h.verified])]
  simp only [h.isFacts, need_some]
  rw [test_of_not (by simp [hscope]), test_of_not (by simp [h.inWindow]),
    test_of_not (not_not_intro h.evidenceCodes)]

/-! ### Signed but not received -/

/-- Evidence of a signed-but-missing report that a ticket is proposed on. -/
structure SignedNotReceivedEvidence.Complete (facts : SignedNotReceivedEvidence) : Prop where
  evidence : ∃ order scopedTimeline policy policyFacts,
    SignedEvidenceSound facts order scopedTimeline policy policyFacts
  customer : CustomerFactsSound facts
  scanned : ∀ timeline ∈ facts.timeline.payload, timeline.events ≠ []

theorem signedEvidenceRows_scanned (facts : SignedNotReceivedEvidence) :
    Refuses (signedEvidenceRows facts)
      (∀ timeline ∈ facts.timeline.payload, timeline.events ≠ []) := by
  refine .guard (commonGuard_refuses _) fun _ => ?_
  refine .guard (unavailableResult_refuses _ _) fun _ => ?_
  refine .need (by simp) fun order _ => ?_
  refine .test (by simp) fun _ => ?_
  refine .test (by simp) fun _ => ?_
  refine .guard (unavailableResult_refuses _ _) fun _ => ?_
  refine .test (by simp) fun _ => ?_
  refine .guard (unavailableResult_refuses _ _) fun _ => ?_
  refine .need (by simp) fun timeline htimeline => ?_
  refine .test (by simp) fun hscanned => ?_
  refine .need (by simp) fun scopedTimeline _ => ?_
  refine .test (by simp) fun _ => ?_
  refine .guard (policyGuard_refuses _ _ _ _) fun ⟨_, _, hauth⟩ => ?_
  rw [hauth.policyFacts_eq]
  refine .test (by simp) fun _ => ?_
  refine .done fun t ht => ?_
  rw [htimeline, Option.mem_some_iff] at ht
  exact ht ▸ hscanned

/-- Complete evidence falls through every row on the results. -/
theorem SignedNotReceivedEvidence.Complete.evidenceRows {facts : SignedNotReceivedEvidence}
    (h : facts.Complete) : signedEvidenceRows facts = none := by
  obtain ⟨order, scopedTimeline, policy, policyFacts, hsound⟩ := h.evidence
  obtain ⟨timeline, htimeline, hscoped⟩ := Option.bind_eq_some_iff.mp hsound.isTimeline
  have hall : unavailableResult (prePodCritical facts) facts.criticalRetryExhausted = none :=
    unavailableResult_eq_none.mpr hsound.completed
  have hpart : ∀ named : NamedResults, named ⊆ prePodCritical facts →
      unavailableResult named facts.criticalRetryExhausted = none :=
    fun named hsub => unavailableResult_eq_none.mpr fun r hr => hsound.completed r (hsub hr)
  unfold signedEvidenceRows
  simp only
  rw [commonGuard_eq_none hsound.common, guard_none, hpart _ (by simp [prePodCritical]), guard_none,
    hsound.isOrder, need_some,
    test_of_not (by rintro ⟨hid, hnone⟩; exact hsound.targetKnown hid hnone),
    test_of_not (not_not_intro hsound.delivered), hpart _ (by simp [prePodCritical]), guard_none,
    test_of_not (by simp [hsound.noActiveTicket]), hall, guard_none, htimeline, need_some,
    test_of_not (h.scanned timeline htimeline), hscoped, need_some,
    test_of_not hsound.timelineNonempty, hsound.authorizes.guard_eq_none, guard_none,
    hsound.authorizes.policyFacts_eq, need_some, test_of_not (not_not_intro hsound.eligible)]

/-- A report with the facts of the customer falls through the rows on them. -/
theorem CustomerFactsSound.customerRows {facts : SignedNotReceivedEvidence}
    (h : CustomerFactsSound facts) : signedCustomerRows facts = none := by
  have hproof : unavailableResult [("delivery_proof", facts.deliveryProof.head)]
      facts.criticalRetryExhausted = none :=
    unavailableResult_eq_none.mpr (by simpa using h.proofCompleted)
  unfold signedCustomerRows
  simp only
  rw [test_of_not (not_not_intro h.stillMissing), hproof, guard_none,
    test_of_not (by simp [h.noLocationConflict]),
    test_of_not (by
      rintro ⟨hreception, hunchecked⟩
      exact hunchecked (h.receptionChecked hreception))]

/-- A ticket is proposed for a signed-but-missing report exactly on complete evidence. -/
theorem evaluateSignedNotReceived_proposes_iff {facts : SignedNotReceivedEvidence} :
    (evaluateSignedNotReceived facts).Proposes ↔ facts.Complete := by
  constructor
  · intro h
    obtain ⟨hevidence, hcustomer⟩ := evaluateSignedNotReceived_sound h
    have hrows : Refuses (guard (signedEvidenceRows facts) (signedCustomerRows facts)) _ :=
      .guard (signedEvidenceRows_scanned facts) fun hscanned =>
        .of_cases (fun _ => (signedCustomerRows_refuse facts).returns) fun _ => hscanned
    exact ⟨hevidence, hcustomer, (hrows.getD h).1⟩
  · intro h
    rw [evaluateSignedNotReceived, h.evidenceRows, guard_none, h.customer.customerRows]
    simp [signedProposal]

/-! ### Stalled tracking -/

/-- Evidence of a stalled-tracking report that a ticket is proposed on. -/
structure StalledTrackingEvidence.Complete (facts : StalledTrackingEvidence) : Prop where
  evidence : ∃ order scopedTimeline policy policyFacts,
    StalledEvidenceSound facts order scopedTimeline policy policyFacts
  tickets : TicketRowsSound facts
  scanned : ∀ timeline ∈ facts.timeline.payload, timeline.hoursSinceLastUpdate ≠ none
  unconflicted : ∀ order ∈ facts.orderContext.payload, ∀ timeline ∈ facts.timeline.payload,
    hasStructuralTimelineConflict order timeline facts.timeline.observedAt facts.targetShipmentId
      = false

theorem stalledEvidenceRows_scanned (facts : StalledTrackingEvidence) :
    Refuses (stalledEvidenceRows facts)
      ((∀ timeline ∈ facts.timeline.payload, timeline.hoursSinceLastUpdate ≠ none) ∧
        ∀ order ∈ facts.orderContext.payload, ∀ timeline ∈ facts.timeline.payload,
          hasStructuralTimelineConflict order timeline facts.timeline.observedAt
            facts.targetShipmentId = false) := by
  refine .guard (commonGuard_refuses _) fun _ => ?_
  refine .guard (unavailableResult_refuses _ _) fun _ => ?_
  refine .need (by simp) fun order horder => ?_
  refine .test (by simp) fun _ => ?_
  refine .test (by simp) fun _ => ?_
  refine .test (by simp) fun _ => ?_
  refine .test (by simp) fun _ => ?_
  refine .need (by simp) fun timeline htimeline => ?_
  refine .test (by simp) fun hscanned => ?_
  refine .guard (policyGuard_refuses _ _ _ _) fun ⟨_, _, hauth⟩ => ?_
  rw [hauth.policyFacts_eq]
  refine .test (by simp) fun _ => ?_
  refine .need (by simp) fun threshold _ => ?_
  refine .need (by simp) fun scopedTimeline _ => ?_
  refine .need (by simp) fun hours _ => ?_
  refine .test (by simp) fun hconflict => ?_
  refine .test (by simp) fun _ => ?_
  refine .done ⟨fun t ht => ?_, fun o ho t ht => ?_⟩
  · rw [htimeline, Option.mem_some_iff] at ht
    exact ht ▸ hscanned
  · rw [htimeline, Option.mem_some_iff] at ht
    rw [horder, Option.mem_some_iff] at ho
    subst ht ho
    simpa using hconflict

/-- Complete evidence falls through every row up to the threshold. -/
theorem StalledTrackingEvidence.Complete.evidenceRows {facts : StalledTrackingEvidence}
    (h : facts.Complete) : stalledEvidenceRows facts = none := by
  obtain ⟨order, scopedTimeline, policy, policyFacts, hsound⟩ := h.evidence
  obtain ⟨timeline, htimeline, hscoped⟩ := Option.bind_eq_some_iff.mp hsound.isTimeline
  obtain ⟨threshold, hthreshold, hours, hhours, hover⟩ := hsound.overdue
  have hundelivered : ¬ ∃ t ∈ targetShipment order facts.targetShipmentId,
      t.shipmentStatus = OrderStatus.delivered.value := by
    rintro ⟨t, ht, hdelivered⟩
    have hactive := hsound.targetActive t ht
    rw [hdelivered] at hactive
    revert hactive
    decide
  have hconflict := h.unconflicted order hsound.isOrder timeline htimeline
  unfold stalledEvidenceRows
  simp only
  rw [commonGuard_eq_none hsound.common, guard_none,
    unavailableResult_eq_none.mpr hsound.completed, guard_none, hsound.isOrder, need_some,
    test_of_not (by rintro ⟨hid, hnone⟩; exact hsound.targetKnown hid hnone),
    test_of_not hundelivered,
    test_of_not (by rintro ⟨hnone, hstatus⟩; exact hstatus (hsound.orderShipped hnone)),
    test_of_not (by rintro ⟨t, ht, hstate⟩; exact hstate (hsound.targetActive t ht)), htimeline,
    need_some,
    test_of_not (h.scanned timeline htimeline), hsound.authorizes.guard_eq_none, guard_none,
    hsound.authorizes.policyFacts_eq, need_some, test_of_not (not_not_intro hsound.eligible),
    Option.mem_def.mp hthreshold, need_some, hscoped, need_some, Option.mem_def.mp hhours,
    need_some, test_of_not (by simp [hconflict]), test_of_not (Rat.not_le.mpr hover)]

/-- A report without a ticket and without an alert falls through the rows on them. -/
theorem TicketRowsSound.ticketRows {facts : StalledTrackingEvidence} (h : TicketRowsSound facts) :
    stalledTicketRows facts = none := by
  have halerts : unavailableResult (namedAlerts facts) facts.criticalRetryExhausted = none := by
    refine unavailableResult_eq_none.mpr fun r hr => ?_
    obtain ⟨a, ha, rfl⟩ := Option.map_eq_some_iff.mp (Option.mem_toList.mp hr)
    exact h.alertsCompleted a ha
  have htickets : unavailableResult [("existing_tickets", facts.existingTickets.head)]
      facts.criticalRetryExhausted = none :=
    unavailableResult_eq_none.mpr (by simpa using h.ticketsCompleted)
  have hquiet : ¬ facts.carrierAlerts.any carrierRecoveryActive = true := by
    intro hany
    cases halert : facts.carrierAlerts with
    | none => simp [halert] at hany
    | some a =>
      rw [halert, Option.any_some, h.noActiveAlert a halert] at hany
      cases hany
  unfold stalledTicketRows
  rw [halerts, guard_none, htickets, guard_none, test_of_not (by simp [h.noActiveTicket]),
    test_of_not hquiet]

/-- A ticket is proposed for a stalled-tracking report exactly on complete evidence. -/
theorem evaluateStalledTracking_proposes_iff {facts : StalledTrackingEvidence} :
    (evaluateStalledTracking facts).Proposes ↔ facts.Complete := by
  constructor
  · intro h
    obtain ⟨hevidence, htickets⟩ := evaluateStalledTracking_sound h
    have hrows : Refuses (guard (stalledEvidenceRows facts) (stalledTicketRows facts)) _ :=
      .guard (stalledEvidenceRows_scanned facts) fun hscanned =>
        .of_cases (fun _ => (stalledTicketRows_refuse facts).returns) fun _ => hscanned
    obtain ⟨hscanned, hunconflicted⟩ := (hrows.getD h).1
    exact ⟨hevidence, htickets, hscanned, hunconflicted⟩
  · intro h
    rw [evaluateStalledTracking, h.evidenceRows, guard_none, h.tickets.ticketRows]
    simp [stalledProposal]

/-! ### The runtime gate -/

/-- Evidence of either issue that a ticket is proposed on. -/
def GateEvidence.Complete : GateEvidence → Prop
  | .signedNotReceived facts => facts.Complete
  | .stalledTracking facts => facts.Complete

variable [ResultDigest] {issueType : IssueType} {results : ToolResults} {args : GateArguments}

/-- The results of a run carry a proposal: budget is left, the order keeps the reported issue, no
    ticket is active, and the evidence of the issue is complete. -/
structure CarriesProposal (issueType : IssueType) (results : ToolResults) (args : GateArguments) :
    Prop where
  withinBudget : args.budgetExceeded = false
  complete : ∃ order ∈ results .getOrderContext,
    revisedByOrder issueType order args.targetShipmentId = none ∧
      (∀ tickets ∈ results .getExistingLogisticsTickets,
        ¬ (tickets.executionStatus = .success ∧ activeTicket tickets)) ∧
      ∃ facts ∈ gateEvidence issueType results args order, facts.Complete

/-- The placeholder for a ticket read is not completed, so a completed ticket result was read. -/
theorem ticketResult_read {order : ToolResult OrderContextPayload}
    {tickets : ToolResult ExistingLogisticsTicketsPayload}
    (h : ticketResult issueType results order = some tickets) (hcompleted : tickets.head.Completed) :
    results .getExistingLogisticsTickets = some tickets := by
  unfold ticketResult at h
  split at h
  · rename_i existing hread
    rw [hread, h]
  · split at h
    · obtain rfl := Option.some.inj h
      have hstatus : (notQueriedTickets order).executionStatus = .success := hcompleted.1
      exact absurd hstatus (by simp [notQueriedTickets, ToolResult.failed])
    · cases h

/-- A proposal rests on a completed result of every read that the issue requires. -/
theorem CarriesProposal.completed (h : CarriesProposal issueType results args) {tool : ReadTool}
    (htool : tool ∈ requiredObservationTools issueType) :
    ∃ r ∈ results tool, r.head.Completed := by
  obtain ⟨order, horder, -, -, facts, hfacts, hcomplete⟩ := h.complete
  simp only [gateEvidence, Option.bind_eq_bind, Option.mem_def, Option.bind_eq_some_iff] at hfacts
  obtain ⟨tickets, htickets, timeline, htimeline, policy, hpolicy, hfacts⟩ := hfacts
  cases issueType with
  | signedNotReceived =>
    obtain ⟨proof, hproof, hfacts⟩ := Option.bind_eq_some_iff.mp hfacts
    obtain rfl := Option.some.inj hfacts
    obtain ⟨⟨_, _, _, _, hsound⟩, hcustomer, -⟩ := hcomplete
    have hall := hsound.completed
    simp only [prePodCritical, List.forall_mem_cons] at hall
    obtain ⟨horderDone, htimelineDone, hticketsDone, hpolicyDone, -⟩ := hall
    have hread := ticketResult_read htickets hticketsDone
    simp only [requiredObservationTools, requiredByIssue, List.map_cons, List.map_nil,
      List.mem_cons, List.not_mem_nil, or_false] at htool
    rcases htool with rfl | rfl | rfl | rfl | rfl
    · exact ⟨order, horder, horderDone⟩
    · exact ⟨timeline, htimeline, htimelineDone⟩
    · exact ⟨proof, hproof, hcustomer.proofCompleted⟩
    · exact ⟨policy, hpolicy, hpolicyDone⟩
    · exact ⟨tickets, hread, hticketsDone⟩
  | stalledTracking =>
    obtain rfl := Option.some.inj hfacts
    obtain ⟨⟨_, _, _, _, hsound⟩, hrows, -⟩ := hcomplete
    have hall := hsound.completed
    simp only [decisionInputs, List.forall_mem_cons] at hall
    obtain ⟨horderDone, htimelineDone, hpolicyDone, -⟩ := hall
    have hread := ticketResult_read htickets hrows.ticketsCompleted
    simp only [requiredObservationTools, requiredByIssue, List.map_cons, List.map_nil,
      List.mem_cons, List.not_mem_nil, or_false] at htool
    rcases htool with rfl | rfl | rfl | rfl
    · exact ⟨order, horder, horderDone⟩
    · exact ⟨timeline, htimeline, htimelineDone⟩
    · exact ⟨policy, hpolicy, hpolicyDone⟩
    · exact ⟨tickets, hread, hrows.ticketsCompleted⟩

/-- The record that the gate evaluates is one of the issue, which it is proposed on when complete. -/
theorem evaluateComplete_proposes_iff {order : ToolResult OrderContextPayload}
    {facts : GateEvidence} (h : gateEvidence issueType results args order = some facts) :
    (evaluateComplete issueType facts).Proposes ↔ facts.Complete := by
  simp only [gateEvidence, Option.bind_eq_bind, Option.bind_eq_some_iff] at h
  obtain ⟨tickets, -, timeline, -, policy, -, hfacts⟩ := h
  cases issueType with
  | signedNotReceived =>
    obtain ⟨proof, -, hfacts⟩ := Option.bind_eq_some_iff.mp hfacts
    obtain rfl := Option.some.inj hfacts
    exact evaluateSignedNotReceived_proposes_iff
  | stalledTracking =>
    obtain rfl := Option.some.inj hfacts
    exact evaluateStalledTracking_proposes_iff

/-- The runtime gate proposes exactly when the results it reads carry a proposal. -/
theorem evaluateGate_proposes_iff :
    (evaluateGate issueType results args).Proposes ↔ CarriesProposal issueType results args := by
  unfold evaluateGate
  split
  · rename_i hbudget
    exact iff_of_false (by simp) fun h => by simp [h.withinBudget] at hbudget
  rename_i hbudget
  split
  · rename_i horder
    refine iff_of_false (by simp [requiredQueryNotCompleted]) ?_
    rintro ⟨-, order, hmem, -⟩
    rw [horder] at hmem
    cases hmem
  rename_i order horder
  split
  · rename_i revised hrevised
    refine iff_of_false (by simp) ?_
    rintro ⟨-, other, hmem, hnone, -⟩
    rw [horder, Option.mem_some_iff] at hmem
    rw [← hmem, hrevised] at hnone
    cases hnone
  rename_i hkept
  split
  · rename_i existing hexisting
    refine iff_of_false (by simp [EvidenceGateResult.Proposes]) ?_
    rintro ⟨-, other, -, -, hinactive, -⟩
    obtain ⟨hmem, hactive⟩ := Option.filter_eq_some_iff.mp hexisting
    exact hinactive existing hmem (of_decide_eq_true hactive)
  rename_i hinactive
  have hquiet : ∀ tickets ∈ results .getExistingLogisticsTickets,
      ¬ (tickets.executionStatus = .success ∧ activeTicket tickets) := by
    intro tickets htickets hactive
    rw [Option.mem_def.mp htickets] at hinactive
    simp [Option.filter, hactive] at hinactive
  split
  · rename_i hnone
    refine iff_of_false (by simp [requiredQueryNotCompleted]) ?_
    rintro ⟨-, other, hmem, -, -, facts, hfacts, -⟩
    rw [horder, Option.mem_some_iff] at hmem
    rw [← hmem, hnone] at hfacts
    cases hfacts
  rename_i facts hfacts
  rw [evaluateComplete_proposes_iff hfacts]
  constructor
  · exact fun hcomplete => ⟨by simpa using hbudget, order, horder, hkept, hquiet, facts, hfacts,
      hcomplete⟩
  · rintro ⟨-, other, hmem, -, -, facts', hfacts', hcomplete⟩
    rw [horder, Option.mem_some_iff] at hmem
    rw [← hmem, hfacts, Option.mem_some_iff] at hfacts'
    exact hfacts' ▸ hcomplete

end AfterSales
