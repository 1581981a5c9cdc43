import AfterSales.Investigation.Service
import AfterSales.Policy.GateSoundness

/-! The gate of an investigation against the truth tables.

    `_evaluate_gate` answers two questions before it hands its results to the tables, whose rows
    answer the same two at their own places:

        the order contradicts the issue      revise      (tables: after the order and package rows)
        a ticket is active                   no action   (tables: after what the issue reads first)

    Where a table stops before its own row, or the package is not in the order, the two part. -/

namespace AfterSales
open Cascade

/-- The result completed with a payload. -/
def ToolResult.Shows {P : Type} (r : ToolResult P) (payload : P) : Prop :=
  r.head.Completed ∧ r.payload = some payload

/-- The outcome is to end without an action. -/
def EvidenceGateResult.Completes (r : EvidenceGateResult) : Prop :=
  r.outcome = .decision .completeNoAction

@[simp] theorem gateResult_completes (d : EvidenceGateDecision) (reason : String)
    (named : NamedResults) :
    (gateResult d reason named).Completes ↔ d = .completeNoAction := by
  simp [EvidenceGateResult.Completes, gateResult]

@[simp] theorem revision_completes (t : TriageIntent) (reason : String)
    (hashes : List (String × String)) :
    ¬ (⟨.revision t, reason, hashes⟩ : EvidenceGateResult).Completes := by
  simp [EvidenceGateResult.Completes]

@[simp] theorem refreshDecision_completes (facts : CommonGateFacts) :
    refreshDecision facts ≠ .completeNoAction := by
  rw [refreshDecision]
  split <;> simp

/-! ### The rows that both tables share -/

theorem commonGuard_eq_none {facts : CommonGateFacts} (h : CommonGuardsHold facts) :
    commonGuard facts = none := by
  simp [commonGuard, h.authorized, h.withinBudget, h.scopeMatches, h.actionSupported, h.noConflict]

/-- A row of unavailable results asks for a retry or for support. -/
theorem unavailableResult_stops {named : NamedResults} {exhausted : Bool} {g : EvidenceGateResult}
    (h : unavailableResult named exhausted = some g) :
    g.outcome = .decision .retryLater ∨ g.outcome = .decision .requireHumanSupport := by
  rw [unavailableResult] at h
  simp only [Option.ite_none_left_eq_some, Option.some.injEq] at h
  obtain ⟨-, rfl⟩ := h
  split
  · exact .inl rfl
  · exact .inr rfl

/-- The row of unavailable results ends nothing: what comes after it does. -/
theorem unavailableResult_completes {named : NamedResults} {exhausted : Bool} {P : Prop} :
    Row EvidenceGateResult.Completes (unavailableResult named exhausted) P ↔
      (∀ r ∈ named, r.2.Completed) ∧ P := by
  rw [row_iff, unavailableResult_eq_none]
  refine or_iff_right ?_
  rintro ⟨g, hg, hcompletes⟩
  rcases unavailableResult_stops hg with h | h <;>
    rw [EvidenceGateResult.Completes, h] at hcompletes <;> cases hcompletes

variable [PolicyDigest]

/-- The policy guard ends the case on a clause that was found and does not apply. -/
theorem policyGuard_completes {policy : ToolResult PolicySearchPayload}
    {order : OrderContextPayload} {issueType : IssueType} {named : NamedResults} {P : Prop} :
    Row EvidenceGateResult.Completes (policyGuard policy order issueType named) P ↔
      (∃ payload, policy.payload = some payload ∧ payload.retrievalStatus = .hit ∧
        payload.policyResolutionStatus = some .notApplicable) ∨
      policyGuard policy order issueType named = none ∧ P := by
  have hrow : (∃ g, policyGuard policy order issueType named = some g ∧ g.Completes) ↔
      Row EvidenceGateResult.Completes (policyGuard policy order issueType named) False := by
    rw [row_iff, and_false, or_false]
  rw [row_iff]
  refine or_congr_left (hrow.trans ?_)
  simp only [policyGuard, gateResult_completes, reduceCtorEq, not_false_eq_true,
    row_need_iff_exists, row_test_iff_and, row_test_iff_or, row_none, and_false, exists_false,
    or_false]
  refine exists_congr fun payload => and_congr_right fun _ => ?_
  constructor
  · rintro ⟨-, hhit, happlies⟩
    exact ⟨not_not.mp hhit, happlies⟩
  · rintro ⟨hhit, happlies⟩
    exact ⟨by simp [hhit], not_not.mpr hhit, happlies⟩

/-! ### Where the stalled table ends without an action -/

/-- The package is in the order, when one is selected. -/
def PackageFound (order : OrderContextPayload) (targetShipmentId : Option String) : Prop :=
  targetShipmentId ≠ none → targetShipment order targetShipmentId ≠ none

instance (order : OrderContextPayload) (targetShipmentId : Option String) :
    Decidable (PackageFound order targetShipmentId) := inferInstanceAs (Decidable (_ → _))

/-- The package, or without one the order, is not in transit. -/
def AtRest (order : OrderContextPayload) (targetShipmentId : Option String) : Prop :=
  match targetShipment order targetShipmentId with
  | some target => target.shipmentStatus ∉ activeShipmentStates
  | none => order.orderStatus ≠ .shipped

omit [PolicyDigest] in
theorem atRest_iff {order : OrderContextPayload} {targetShipmentId : Option String} :
    AtRest order targetShipmentId ↔
      (targetShipment order targetShipmentId = none ∧ order.orderStatus ≠ .shipped) ∨
        ∃ t ∈ targetShipment order targetShipmentId, t.shipmentStatus ∉ activeShipmentStates := by
  rw [AtRest]
  cases targetShipment order targetShipmentId with
  | some target => simp
  | none => simp

/-- Under its threshold, or with every later read completed and a ticket or a recovery active. -/
def SlaSettles (facts : StalledTrackingEvidence) (order : OrderContextPayload)
    (timeline : LogisticsTimelinePayload) (policy : PolicyFactSnapshot) : Prop :=
  ∃ threshold ∈ policy.stalledAfterHours,
    ∃ scopedTimeline ∈ targetTimeline timeline facts.targetShipmentId,
      ∃ hours ∈ scopedTimeline.hoursSinceLastUpdate,
        ¬ hasStructuralTimelineConflict order timeline facts.timeline.observedAt
            facts.targetShipmentId ∧
          (hours ≤ threshold ∨
            (∀ r ∈ namedAlerts facts, r.2.Completed) ∧ facts.existingTickets.head.Completed ∧
              (activeTicket facts.existingTickets ∨ facts.carrierAlerts.any carrierRecoveryActive))

/-- The clause leaves nothing to do, or the wait it allows does. -/
def PolicySettles (facts : StalledTrackingEvidence) (order : OrderContextPayload)
    (timeline : LogisticsTimelinePayload) : Prop :=
  (∃ payload ∈ facts.policy.payload, payload.retrievalStatus = .hit ∧
    payload.policyResolutionStatus = some .notApplicable) ∨
  policyGuard facts.policy order .stalledTracking (decisionInputs facts) = none ∧
    ∃ policy ∈ policyFacts facts.policy,
      ¬ policy.eligible ∨ SlaSettles facts order timeline policy

/-- What a stalled order that needs no action shows: its reads completed, its package is there and
    undelivered, and it is at rest, or the policy settles it. -/
structure StalledTrackingEvidence.Settled (facts : StalledTrackingEvidence) : Prop where
  inputs : ∀ r ∈ decisionInputs facts, r.2.Completed
  order : ∃ order ∈ facts.orderContext.payload, PackageFound order facts.targetShipmentId ∧
    (∀ target ∈ targetShipment order facts.targetShipmentId,
      target.shipmentStatus ≠ OrderStatus.delivered.value) ∧
    (AtRest order facts.targetShipmentId ∨
      ∃ timeline ∈ facts.timeline.payload, timeline.hoursSinceLastUpdate ≠ none ∧
        PolicySettles facts order timeline)

/-- The table of a stalled order ends without an action exactly then. -/
theorem evaluateStalledTracking_completes {facts : StalledTrackingEvidence}
    (hguard : commonGuard facts.toCommonGateFacts = none) :
    (evaluateStalledTracking facts).Completes ↔ facts.Settled := by
  refine (getD_iff_row (E := EvidenceGateResult.Completes)).trans ?_
  simp only [row_guard_iff, stalledEvidenceRows, hguard, guard_none, unavailableResult_completes,
    policyGuard_completes, gateResult_completes, revision_completes, refreshDecision_completes,
    reduceCtorEq, not_false_eq_true, row_need_iff_exists, row_test_iff_and, row_test_iff_or,
    row_none, or_false, List.forall_mem_singleton, stalledTicketRows, stalledProposal]
  constructor
  · rintro ⟨hinputs, order, horder, hfound, hundelivered, hrest⟩
    refine ⟨hinputs, order, horder, not_and.mp hfound, fun t ht h => hundelivered ⟨t, ht, h⟩, ?_⟩
    rw [atRest_iff, or_assoc]
    exact hrest
  · rintro ⟨hinputs, order, horder, hfound, hundelivered, hrest⟩
    refine ⟨hinputs, order, horder, not_and.mpr hfound,
      fun ⟨t, ht, h⟩ => hundelivered t ht h, ?_⟩
    rw [atRest_iff, or_assoc] at hrest
    exact hrest

/-! ### The rows of the signed table -/

/-- A completed ticket read reports an active ticket. -/
def TicketActive (tickets : ToolResult ExistingLogisticsTicketsPayload) : Prop :=
  tickets.executionStatus = .success ∧ activeTicket tickets

instance (tickets : ToolResult ExistingLogisticsTicketsPayload) : Decidable (TicketActive tickets) :=
  inferInstanceAs (Decidable (_ ∧ _))

variable {signed : SignedNotReceivedEvidence} {order : OrderContextPayload}

/-- With an active ticket the signed table ends the case when it gets to the ticket row. -/
theorem evaluateSignedNotReceived_completes (hguard : commonGuard signed.toCommonGateFacts = none)
    (hactive : TicketActive signed.existingTickets) :
    (evaluateSignedNotReceived signed).Completes ↔ ∃ order, signed.orderContext.Shows order ∧
      PackageFound order signed.targetShipmentId ∧
        targetDelivered order signed.targetShipmentId := by
  refine (getD_iff_row (E := EvidenceGateResult.Completes)).trans ?_
  have hcompleted : signed.existingTickets.head.Completed :=
    signed.existingTickets.completed_of_success hactive.1
  simp only [row_guard_iff, signedEvidenceRows, hguard, guard_none, unavailableResult_completes,
    gateResult_completes, revision_completes, reduceCtorEq, not_false_eq_true,
    row_need_iff_exists, row_test_iff_and, row_test_iff_or, hactive.2, true_or, and_true,
    List.forall_mem_singleton, hcompleted, not_not]
  constructor
  · rintro ⟨hread, order, horder, hfound, hdelivered⟩
    exact ⟨order, ⟨hread, horder⟩, not_and.mp hfound, hdelivered⟩
  · rintro ⟨order, ⟨hread, horder⟩, hfound, hdelivered⟩
    exact ⟨hread, order, horder, not_and.mpr hfound, hdelivered⟩

/-- An order that shows the report wrong is answered by the table at its order and package rows. -/
theorem evaluateSignedNotReceived_contradicted
    (hguard : commonGuard signed.toCommonGateFacts = none)
    (hshows : signed.orderContext.Shows order)
    (hcontradicts : targetDelivered order signed.targetShipmentId = false) :
    (evaluateSignedNotReceived signed).outcome =
      if PackageFound order signed.targetShipmentId then
        .revision (revisedIssue order signed.targetShipmentId)
      else .decision .requireHumanSupport := by
  have hread : unavailableResult [("order_context", signed.orderContext.head)]
      signed.criticalRetryExhausted = none :=
    unavailableResult_eq_none.mpr (List.forall_mem_singleton.mpr hshows.1)
  rw [evaluateSignedNotReceived, signedEvidenceRows]
  simp only [hguard, guard_none, hread, hshows.2, need_some]
  split_ifs with hfound
  · rw [test_of_not (not_and.mpr hfound), test_of (by simp [hcontradicts])]
    rfl
  · rw [test_of (by simpa [PackageFound] using hfound)]
    rfl

/-! ### The first rows of the stalled table -/

variable {stalled : StalledTrackingEvidence}

/-- Reads that did not all complete stop the stalled table at its first row. -/
theorem evaluateStalledTracking_unread (hguard : commonGuard stalled.toCommonGateFacts = none)
    (hunread : ¬ ∀ r ∈ decisionInputs stalled, r.2.Completed) :
    (evaluateStalledTracking stalled).outcome = .decision .retryLater ∨
      (evaluateStalledTracking stalled).outcome = .decision .requireHumanSupport := by
  cases hstop : unavailableResult (decisionInputs stalled) stalled.criticalRetryExhausted with
  | none => exact absurd (unavailableResult_eq_none.mp hstop) hunread
  | some g =>
    rw [evaluateStalledTracking, stalledEvidenceRows]
    simp only [hguard, guard_none, hstop]
    exact unavailableResult_stops hstop

/-- On completed reads it answers a delivered order, or package, at its next rows. -/
theorem evaluateStalledTracking_contradicted
    (hguard : commonGuard stalled.toCommonGateFacts = none)
    (hinputs : ∀ r ∈ decisionInputs stalled, r.2.Completed)
    (hshows : stalled.orderContext.Shows order)
    (hdelivered : targetDelivered order stalled.targetShipmentId = true) :
    (evaluateStalledTracking stalled).outcome =
      if (targetShipment order stalled.targetShipmentId).isSome then .revision .signedNotReceived
      else if stalled.targetShipmentId = none then .decision .completeNoAction
      else .decision .requireHumanSupport := by
  rw [evaluateStalledTracking, stalledEvidenceRows]
  simp only [hguard, guard_none, unavailableResult_eq_none.mpr hinputs, hshows.2, need_some]
  rw [targetDelivered] at hdelivered
  cases htarget : targetShipment order stalled.targetShipmentId with
  | some target =>
    rw [htarget] at hdelivered
    rw [test_of_not (by simp), test_of ⟨target, rfl, of_decide_eq_true hdelivered⟩]
    rfl
  | none =>
    rw [htarget] at hdelivered
    by_cases hselected : stalled.targetShipmentId = none
    · rw [test_of_not (by simp [hselected]), test_of_not (by simp),
        test_of ⟨rfl, by simp [of_decide_eq_true hdelivered]⟩]
      simp [hselected, gateResult]
    · rw [test_of ⟨hselected, rfl⟩]
      simp [hselected, gateResult]

/-! ### The rows of the investigation -/

variable [ResultDigest] {issueType : IssueType} {results : ToolResults} {args : GateArguments}
  {targetShipmentId : Option String} {revised : TriageIntent}

omit [PolicyDigest] [ResultDigest] in
/-- An investigation turns the issue of an order, or of a package, that is not delivered, and the
    other issue of one that is. -/
theorem contradictedIssue_eq : contradictedIssue issueType order targetShipmentId =
    match issueType with
    | .signedNotReceived =>
      if targetDelivered order targetShipmentId then none
      else some (if ∀ t ∈ targetShipment order targetShipmentId, t.shipmentStatus
          ∈ [OrderStatus.shipped.value, "in_transit", "out_for_delivery", "stalled"] then
        .stalledTracking
      else .otherLogistics)
    | .stalledTracking =>
      if targetDelivered order targetShipmentId then some .signedNotReceived else none := by
  cases htarget : targetShipment order targetShipmentId with
  | some target =>
    by_cases h : target.shipmentStatus = "delivered" <;> cases issueType <;>
      simp [contradictedIssue, targetDelivered, OrderStatus.value, htarget, h]
  | none =>
    cases issueType <;> simp [contradictedIssue, targetDelivered, htarget]

omit [PolicyDigest] [ResultDigest] in
theorem revisedByOrder_eq_some {read : ToolResult OrderContextPayload} :
    revisedByOrder issueType read targetShipmentId = some revised ↔
      ∃ order, read.Shows order ∧
        contradictedIssue issueType order targetShipmentId = some revised := by
  rw [revisedByOrder]
  split_ifs with h
  · simp only [Option.bind_eq_some_iff, ToolResult.Shows]
    exact exists_congr fun order => by rw [and_iff_right (show read.head.Completed from h)]
  · simp only [ToolResult.Shows, false_iff, not_exists]
    exact fun order hshows => h hshows.1.1

/-- What an investigation answers on the reads of its issue. -/
theorem evaluateGate_eq {read : ToolResult OrderContextPayload}
    {tickets : ToolResult ExistingLogisticsTicketsPayload} {facts : GateEvidence}
    (hbudget : args.budgetExceeded = false) (horder : results .getOrderContext = some read)
    (htickets : results .getExistingLogisticsTickets = some tickets)
    (hfacts : gateEvidence issueType results args read = some facts) :
    (evaluateGate issueType results args).outcome =
      match revisedByOrder issueType read args.targetShipmentId with
      | some revised => .revision revised
      | none => if TicketActive tickets then .decision .completeNoAction
          else (evaluateComplete issueType facts).outcome := by
  rw [evaluateGate, if_neg (by simp [hbudget]), horder]
  dsimp only
  cases revisedByOrder issueType read args.targetShipmentId with
  | some revised => rfl
  | none =>
    dsimp only
    rw [htickets, Option.filter_some]
    by_cases hactive : tickets.executionStatus = .success ∧ activeTicket tickets
    · rw [if_pos (show TicketActive tickets from hactive), if_pos (decide_eq_true hactive)]
    · rw [if_neg (show ¬ TicketActive tickets from hactive), if_neg (by simpa using hactive),
        hfacts]

/-! ### Where the two agree -/

/-- Where the order shows a signed package undelivered the package is in the order, or the order
    itself has shipped; and an active ticket is reported beside a package that was found. -/
structure SignedNotReceivedEvidence.Aligned (facts : SignedNotReceivedEvidence) : Prop where
  revision : ∀ order, facts.orderContext.Shows order →
    targetDelivered order facts.targetShipmentId = false →
    (targetShipment order facts.targetShipmentId).isSome ∨
      (facts.targetShipmentId = none ∧ order.orderStatus = .shipped)
  ticket : TicketActive facts.existingTickets →
    ∃ order, facts.orderContext.Shows order ∧ PackageFound order facts.targetShipmentId

/-- Where the order shows a stalled package delivered the package is in the order and the other
    reads completed; and an active ticket elsewhere is reported beside a settled order. -/
structure StalledTrackingEvidence.Aligned (facts : StalledTrackingEvidence) : Prop where
  revision : ∀ order, facts.orderContext.Shows order →
    targetDelivered order facts.targetShipmentId = true →
    (targetShipment order facts.targetShipmentId).isSome ∧
      ∀ r ∈ decisionInputs facts, r.2.Completed
  ticket : TicketActive facts.existingTickets →
    (∀ order, facts.orderContext.Shows order →
      targetDelivered order facts.targetShipmentId = false) → facts.Settled

/-- The condition of either issue. -/
def GateEvidence.Aligned : GateEvidence → Prop
  | .signedNotReceived facts => facts.Aligned
  | .stalledTracking facts => facts.Aligned

omit [PolicyDigest] [ResultDigest] in
/-- Without a revision no order that is shown contradicts the issue. -/
theorem contradictedIssue_of_unrevised {read : ToolResult OrderContextPayload}
    (h : revisedByOrder issueType read targetShipmentId = none) (hshows : read.Shows order) :
    contradictedIssue issueType order targetShipmentId = none := by
  refine Option.eq_none_iff_forall_ne_some.mpr fun revised hrevised => ?_
  rw [revisedByOrder_eq_some.mpr ⟨order, hshows, hrevised⟩] at h
  cases h

omit [PolicyDigest] in
/-- A result shows one payload. -/
theorem ToolResult.Shows.unique {P : Type} {r : ToolResult P} {payload payload' : P}
    (h : r.Shows payload) (h' : r.Shows payload') : payload' = payload :=
  Option.some.inj (h'.2.symm.trans h.2)

omit [PolicyDigest] [ResultDigest] in
/-- Both name the same issue for an undelivered package, and for an undelivered order that shipped. -/
theorem revisedIssue_agrees (hundelivered : targetDelivered order targetShipmentId = false)
    (hrevised : contradictedIssue .signedNotReceived order targetShipmentId = some revised) :
    revisedIssue order targetShipmentId = revised ↔
      (targetShipment order targetShipmentId).isSome ∨ order.orderStatus = .shipped := by
  rw [contradictedIssue_eq] at hrevised
  simp only [hundelivered, Bool.false_eq_true, if_false, Option.some.injEq] at hrevised
  subst hrevised
  rw [revisedIssue]
  cases htarget : targetShipment order targetShipmentId with
  | some target => simp
  | none =>
    rw [targetDelivered, htarget] at hundelivered
    cases hstatus : order.orderStatus <;> simp_all [OrderStatus.value]

omit [ResultDigest] in
/-- The signed rows of an investigation agree with their table exactly when aligned. -/
theorem SignedNotReceivedEvidence.agrees_iff (hguard : commonGuard signed.toCommonGateFacts = none) :
    ((match revisedByOrder .signedNotReceived signed.orderContext signed.targetShipmentId with
      | some revised => .revision revised
      | none => if TicketActive signed.existingTickets then .decision .completeNoAction
          else (evaluateSignedNotReceived signed).outcome)
      = (evaluateSignedNotReceived signed).outcome) ↔ signed.Aligned := by
  cases hrevised :
      revisedByOrder .signedNotReceived signed.orderContext signed.targetShipmentId with
  | some revised =>
    obtain ⟨order, hshows, hissue⟩ := revisedByOrder_eq_some.mp hrevised
    have hundelivered : targetDelivered order signed.targetShipmentId = false := by
      by_contra hdelivered
      rw [contradictedIssue_eq] at hissue
      simp [eq_true_of_ne_false hdelivered] at hissue
    dsimp only
    rw [evaluateSignedNotReceived_contradicted hguard hshows hundelivered]
    constructor
    · intro h
      split_ifs at h with hfound
      · have hsame := (revisedIssue_agrees hundelivered hissue).mp (GateOutcome.revision.inj h).symm
        refine ⟨fun order' hshows' _ => ?_, fun _ => ⟨order, hshows, hfound⟩⟩
        obtain rfl := hshows.unique hshows'
        by_cases htarget : targetShipment order' signed.targetShipmentId = none
        · have hselected : signed.targetShipmentId = none := by
            by_contra hne
            exact hfound hne htarget
          exact .inr ⟨hselected, hsame.resolve_left (by simp [htarget])⟩
        · exact .inl (Option.isSome_iff_ne_none.mpr htarget)
    · intro haligned
      have hcase := haligned.revision order hshows hundelivered
      have hfound : PackageFound order signed.targetShipmentId := fun hne =>
        hcase.elim Option.isSome_iff_ne_none.mp fun h => absurd h.1 hne
      rw [if_pos hfound, (revisedIssue_agrees hundelivered hissue).mpr (hcase.imp_right And.right)]
  | none =>
    have hdelivered : ∀ order, signed.orderContext.Shows order →
        targetDelivered order signed.targetShipmentId = true := by
      intro order hshows
      have hissue := contradictedIssue_of_unrevised hrevised hshows
      rw [contradictedIssue_eq] at hissue
      by_contra h
      simp [h] at hissue
    have hrevision : ∀ order, signed.orderContext.Shows order →
        targetDelivered order signed.targetShipmentId = false →
        (targetShipment order signed.targetShipmentId).isSome ∨
          (signed.targetShipmentId = none ∧ order.orderStatus = .shipped) := by
      intro order hshows h
      rw [hdelivered order hshows] at h
      cases h
    by_cases hactive : TicketActive signed.existingTickets
    · dsimp only
      rw [if_pos hactive]
      refine (eq_comm.trans (evaluateSignedNotReceived_completes hguard hactive)).trans ?_
      constructor
      · rintro ⟨order, hshows, hfound, -⟩
        exact ⟨hrevision, fun _ => ⟨order, hshows, hfound⟩⟩
      · intro haligned
        obtain ⟨order, hshows, hfound⟩ := haligned.ticket hactive
        exact ⟨order, hshows, hfound, hdelivered order hshows⟩
    · dsimp only
      rw [if_neg hactive]
      exact iff_of_true rfl ⟨hrevision, fun h => absurd h hactive⟩

omit [ResultDigest] in
/-- The stalled rows of an investigation agree with their table exactly when aligned. -/
theorem StalledTrackingEvidence.agrees_iff
    (hguard : commonGuard stalled.toCommonGateFacts = none) :
    ((match revisedByOrder .stalledTracking stalled.orderContext stalled.targetShipmentId with
      | some revised => .revision revised
      | none => if TicketActive stalled.existingTickets then .decision .completeNoAction
          else (evaluateStalledTracking stalled).outcome)
      = (evaluateStalledTracking stalled).outcome) ↔ stalled.Aligned := by
  cases hrevised :
      revisedByOrder .stalledTracking stalled.orderContext stalled.targetShipmentId with
  | some revised =>
    obtain ⟨order, hshows, hissue⟩ := revisedByOrder_eq_some.mp hrevised
    rw [contradictedIssue_eq] at hissue
    simp only [Option.ite_none_right_eq_some, Option.some.injEq] at hissue
    obtain ⟨hdelivered, rfl⟩ := hissue
    have hticket : TicketActive stalled.existingTickets →
        (∀ order, stalled.orderContext.Shows order →
          targetDelivered order stalled.targetShipmentId = false) → stalled.Settled := by
      intro _ h
      rw [h order hshows] at hdelivered
      cases hdelivered
    dsimp only
    by_cases hinputs : ∀ r ∈ decisionInputs stalled, r.2.Completed
    · rw [evaluateStalledTracking_contradicted hguard hinputs hshows hdelivered]
      constructor
      · intro h
        refine ⟨fun order' hshows' _ => ⟨?_, hinputs⟩, hticket⟩
        obtain rfl := hshows.unique hshows'
        split_ifs at h with hfound
        exact hfound
      · intro haligned
        rw [if_pos (haligned.revision order hshows hdelivered).1]
    · refine iff_of_false (fun h => ?_) fun haligned =>
        hinputs (haligned.revision order hshows hdelivered).2
      rcases evaluateStalledTracking_unread hguard hinputs with hstop | hstop <;>
        rw [hstop] at h <;> cases h
  | none =>
    have hundelivered : ∀ order, stalled.orderContext.Shows order →
        targetDelivered order stalled.targetShipmentId = false := by
      intro order hshows
      have hissue := contradictedIssue_of_unrevised hrevised hshows
      rw [contradictedIssue_eq] at hissue
      by_contra h
      simp [eq_true_of_ne_false h] at hissue
    have hrevision : ∀ order, stalled.orderContext.Shows order →
        targetDelivered order stalled.targetShipmentId = true →
        (targetShipment order stalled.targetShipmentId).isSome ∧
          ∀ r ∈ decisionInputs stalled, r.2.Completed := by
      intro order hshows h
      rw [hundelivered order hshows] at h
      cases h
    by_cases hactive : TicketActive stalled.existingTickets
    · dsimp only
      rw [if_pos hactive]
      refine (eq_comm.trans (evaluateStalledTracking_completes hguard)).trans ?_
      exact ⟨fun hsettled => ⟨hrevision, fun _ _ => hsettled⟩,
        fun haligned => haligned.ticket hactive hundelivered⟩
    · dsimp only
      rw [if_neg hactive]
      exact iff_of_true rfl ⟨hrevision, fun h => absurd h hactive⟩

/-- On complete results an investigation decides or revises as the truth tables do, exactly when
    its evidence is aligned. -/
theorem evaluateGate_agrees_iff (hbudget : args.budgetExceeded = false)
    (hcomplete : ∀ tool ∈ requiredObservationTools issueType, (results tool).isSome) :
    ∃ read facts table, results .getOrderContext = some read ∧
      gateEvidence issueType results args read = some facts ∧
      evaluateEvidenceGate issueType facts = some table ∧
      ((evaluateGate issueType results args).outcome = table.outcome ↔ facts.Aligned) := by
  have hread : ∀ tool ∈ requiredObservationTools issueType, ∃ r, results tool = some r :=
    fun tool htool => Option.isSome_iff_exists.mp (hcomplete tool htool)
  cases issueType with
  | signedNotReceived =>
    obtain ⟨read, horder⟩ := hread .getOrderContext (by decide)
    obtain ⟨timeline, htimeline⟩ := hread .getLogisticsTimeline (by decide)
    obtain ⟨proof, hproof⟩ := hread .getDeliveryProof (by decide)
    obtain ⟨policy, hpolicy⟩ := hread .searchAfterSalesPolicy (by decide)
    obtain ⟨tickets, htickets⟩ := hread .getExistingLogisticsTickets (by decide)
    have hfacts : ∃ facts : SignedNotReceivedEvidence,
        gateEvidence .signedNotReceived results args read = some (.signedNotReceived facts) ∧
          facts.orderContext = read ∧ facts.existingTickets = tickets ∧
            facts.targetShipmentId = args.targetShipmentId ∧
              commonGuard facts.toCommonGateFacts = none := by
      simp only [gateEvidence, ticketResult, htickets, htimeline, hpolicy, hproof]
      exact ⟨_, rfl, rfl, rfl, rfl, commonGuard_eq_none ⟨rfl, hbudget, rfl, rfl, rfl⟩⟩
    obtain ⟨facts, hfacts, rfl, rfl, htarget, hguard⟩ := hfacts
    refine ⟨_, _, _, horder, hfacts, rfl, ?_⟩
    rw [evaluateGate_eq hbudget horder htickets hfacts, ← htarget]
    exact SignedNotReceivedEvidence.agrees_iff hguard
  | stalledTracking =>
    obtain ⟨read, horder⟩ := hread .getOrderContext (by decide)
    obtain ⟨timeline, htimeline⟩ := hread .getLogisticsTimeline (by decide)
    obtain ⟨policy, hpolicy⟩ := hread .searchAfterSalesPolicy (by decide)
    obtain ⟨tickets, htickets⟩ := hread .getExistingLogisticsTickets (by decide)
    have hfacts : ∃ facts : StalledTrackingEvidence,
        gateEvidence .stalledTracking results args read = some (.stalledTracking facts) ∧
          facts.orderContext = read ∧ facts.existingTickets = tickets ∧
            facts.targetShipmentId = args.targetShipmentId ∧
              commonGuard facts.toCommonGateFacts = none := by
      simp only [gateEvidence, ticketResult, htickets, htimeline, hpolicy]
      exact ⟨_, rfl, rfl, rfl, rfl, commonGuard_eq_none ⟨rfl, hbudget, rfl, rfl, rfl⟩⟩
    obtain ⟨facts, hfacts, rfl, rfl, htarget, hguard⟩ := hfacts
    refine ⟨_, _, _, horder, hfacts, rfl, ?_⟩
    rw [evaluateGate_eq hbudget horder htickets hfacts, ← htarget]
    exact StalledTrackingEvidence.agrees_iff hguard

end AfterSales

/-! ### A cancelled order -/

namespace AfterSales

section CancelledOrder

attribute [local instance] PolicyDigest.bySource ResultDigest.byName

/-- A cancelled order without packages; the other required reads timed out. -/
def cancelledReads : ToolResults
  | .getOrderContext => some (.completed .present "order" 1000
      { orderId := "ORD-1", orderStatus := .cancelled, serviceLevel := "standard",
        region := "cn-east", shipments := [] } ["ORD-1"] "order-hash")
  | .getCarrierServiceAlerts => none
  | _ => some (.failed true "query" 1000 "TIMEOUT" false "failed-hash")

theorem cancelledReads_agree_iff : ∃ read facts table,
    cancelledReads .getOrderContext = some read ∧
      gateEvidence .stalledTracking cancelledReads {} read = some facts ∧
      evaluateEvidenceGate .stalledTracking facts = some table ∧
      ((evaluateGate .stalledTracking cancelledReads {}).outcome = table.outcome ↔ facts.Aligned) :=
  evaluateGate_agrees_iff rfl (by decide)

/-- A signed report on it becomes a stalled one, where the table calls it another matter. -/
theorem cancelledReads_part : ∃ read facts table,
    (∀ tool ∈ requiredObservationTools .signedNotReceived, (cancelledReads tool).isSome) ∧
      cancelledReads .getOrderContext = some read ∧
      gateEvidence .signedNotReceived cancelledReads {} read = some facts ∧
      evaluateEvidenceGate .signedNotReceived facts = some table ∧
      (evaluateGate .signedNotReceived cancelledReads {}).outcome = .revision .stalledTracking ∧
      table.outcome = .revision .otherLogistics :=
  ⟨_, _, _, by decide, rfl, rfl, rfl, by decide, by decide⟩

end CancelledOrder

end AfterSales
