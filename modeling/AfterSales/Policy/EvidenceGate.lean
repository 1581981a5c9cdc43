import AfterSales.Lib.Cascade
import AfterSales.Tools.Contracts
import Mathlib.Data.List.Sort

/-! The evidence gate: two prioritized truth tables over typed read results.

    Each table is a cascade of early returns. A row either returns a decision with a reason and the
    hashes of the results it rests on, or falls through to the next row; the last row proposes a
    ticket. The cascades follow the source row by row, in its order:

        common guards ─▶ required results ─▶ target and order state ─▶ tickets / timeline
          ─▶ policy ─▶ customer facts (signed) | threshold, conflict, alerts (stalled) ─▶ propose

    An issue revision is an outcome of its own, never combined with a decision. -/

namespace AfterSales
open Cascade

variable [PolicyDigest]

/-- A normal gate decision or an explicit issue revision, never both. -/
inductive GateOutcome where
  | decision (d : EvidenceGateDecision)
  | revision (revisedIssueType : TriageIntent)
  deriving DecidableEq, Repr

structure EvidenceGateResult where
  outcome : GateOutcome
  reasonCode : String
  criticalResultHashes : List (String × String)
  deriving DecidableEq, Repr

/-- `proposal_allowed`: the gate decided to propose a ticket. -/
def EvidenceGateResult.proposalAllowed (r : EvidenceGateResult) : Bool :=
  r.outcome = .decision .proposeTicket

/-- Facts that both issue types share. -/
structure CommonGateFacts where
  authorizationValid : Bool := true
  budgetExceeded : Bool := false
  evidenceScopeMatchesCase : Bool := true
  requestedActionSupported : Bool := true
  structuralConflict : Bool := false
  directedRefreshCompleted : Bool := false
  criticalRetryExhausted : Bool := false
  targetShipmentId : Option String := none
  deriving DecidableEq

structure SignedNotReceivedEvidence extends CommonGateFacts where
  orderContext : ToolResult OrderContextPayload
  timeline : ToolResult LogisticsTimelinePayload
  deliveryProof : ToolResult DeliveryProofPayload
  existingTickets : ToolResult ExistingLogisticsTicketsPayload
  policy : ToolResult PolicySearchPayload
  customerStillReportsMissing : Bool := true
  receptionLocationsChecked : Bool := false
  deliveryLocationConflict : Bool := false

structure StalledTrackingEvidence extends CommonGateFacts where
  orderContext : ToolResult OrderContextPayload
  timeline : ToolResult LogisticsTimelinePayload
  existingTickets : ToolResult ExistingLogisticsTicketsPayload
  policy : ToolResult PolicySearchPayload
  carrierAlerts : Option (ToolResult CarrierServiceAlertsPayload) := none

/-- A dictionary of results, by the name the gate reports them under. -/
abbrev NamedResults := List (String × ResultHead)

def resultHashes (results : NamedResults) : List (String × String) :=
  results.map fun r => (r.1, r.2.resultHash)

/-- `_result`. -/
def gateResult (decision : EvidenceGateDecision) (reasonCode : String)
    (results : NamedResults := []) : EvidenceGateResult :=
  ⟨.decision decision, reasonCode, resultHashes results⟩

/-- `_common_guard`. -/
def commonGuard (facts : CommonGateFacts) : Option EvidenceGateResult :=
  test (¬ facts.authorizationValid)
    (gateResult .requireHumanSupport "AUTHORIZATION_NOT_VALID") <|
  test facts.budgetExceeded
    (gateResult .requireHumanSupport "INVESTIGATION_BUDGET_EXCEEDED") <|
  test (¬ facts.evidenceScopeMatchesCase)
    (gateResult .requireHumanSupport "EVIDENCE_SCOPE_MISMATCH") <|
  test (¬ facts.requestedActionSupported)
    (gateResult .requireHumanSupport "UNSUPPORTED_ACTION_RECOMMENDATION") <|
  test (facts.structuralConflict ∧ facts.directedRefreshCompleted)
    (gateResult .requireHumanSupport "PERSISTENT_STRUCTURAL_CONFLICT") <|
  test facts.structuralConflict
    (gateResult .retryLater "STRUCTURAL_CONFLICT_REQUIRES_REFRESH")
  none

/-- `_unavailable_result`: the first row that stops on results that did not complete. -/
def unavailableResult (namedResults : NamedResults) (retryExhausted : Bool) :
    Option EvidenceGateResult :=
  let unavailable := namedResults.filter fun r =>
    r.2.evidenceAvailability = .unavailable ∨ r.2.executionStatus ≠ .success
  if unavailable = [] then none
  else
    let canRetry := unavailable.any (·.2.retryable) && !retryExhausted
    some (gateResult (if canRetry then .retryLater else .requireHumanSupport)
      (if canRetry then "CRITICAL_EVIDENCE_UNAVAILABLE" else "CRITICAL_EVIDENCE_UNAVAILABLE_FINAL")
      unavailable)

/-- `_active_ticket`: the payload reports a ticket or an investigation. -/
def activeTicket (result : ToolResult ExistingLogisticsTicketsPayload) : Bool :=
  match result.payload with
  | some p => decide (p.activeTickets ≠ [] ∨ p.existingInvestigations ≠ [])
  | none => false

/-- `_target_shipment`. -/
def targetShipment (order : OrderContextPayload) (targetShipmentId : Option String) :
    Option ShipmentSummaryPayload :=
  match targetShipmentId with
  | none => none
  | some id => order.shipments.find? fun item => decide (item.shipmentId = id)

/-- The part of a timeline that a package, or the order as a whole, is judged by. -/
structure ScopedTimeline where
  events : List TimelineEvent
  hoursSinceLastUpdate : Option ℚ
  deriving DecidableEq

/-- `_target_timeline`. -/
def targetTimeline (timeline : LogisticsTimelinePayload) (targetShipmentId : Option String) :
    Option ScopedTimeline :=
  match targetShipmentId with
  | none => some ⟨timeline.events, timeline.hoursSinceLastUpdate⟩
  | some id =>
    (timeline.shipmentTimelines.find? fun item => decide (item.shipmentId = id)).map fun item =>
      ⟨item.events, item.hoursSinceLastUpdate⟩

/-- Package states in which a package still moves. -/
def activeShipmentStates : List String := ["shipped", "in_transit", "out_for_delivery", "stalled"]

/-- The package whose status the timeline is checked against: the selected one, or the only one. -/
def conflictTarget (order : OrderContextPayload) (targetShipmentId : Option String) :
    Option ShipmentSummaryPayload :=
  match targetShipment order targetShipmentId with
  | some target => some target
  | none =>
    if targetShipmentId = none ∧ order.shipments.length = 1 then order.shipments[0]? else none

/-- `_has_structural_timeline_conflict`. -/
def hasStructuralTimelineConflict (order : OrderContextPayload)
    (timeline : LogisticsTimelinePayload) (observedAt : Instant)
    (targetShipmentId : Option String) : Bool := Id.run do
  -- A multi-package order without a selected package is ambiguous, not a conflict.
  let some target := conflictTarget order targetShipmentId | return false
  let some scopedTimeline := targetTimeline timeline targetShipmentId | return false
  if scopedTimeline.events = [] then return false
  if scopedTimeline.events.any fun event => decide (event.occurredAt > observedAt) then return true
  let orderedEvents := scopedTimeline.events.insertionSort fun a b => a.occurredAt ≤ b.occurredAt
  let statuses := orderedEvents.map (·.status)
  if target.shipmentStatus ∈ activeShipmentStates ∧ "delivered" ∈ statuses then return true
  -- After its first delivered scan a delivered package has only delivered scans.
  if target.shipmentStatus = OrderStatus.delivered.value ∧ "delivered" ∈ statuses then
    let afterDelivery := (statuses.dropWhile fun status => status != "delivered").drop 1
    if afterDelivery.any fun status => status != "delivered" then return true
  return false

/-- The evidence codes a clause must list for an issue type. -/
def requiredCodes : IssueType → List String
  | .signedNotReceived => ["order_delivered", "timeline", "delivery_proof", "no_active_ticket"]
  | .stalledTracking => ["order_shipped", "timeline", "no_active_ticket"]

/-- The scope row of the policy guard: facts of another issue, order or citation. -/
def policyScopeMismatch (payload : PolicySearchPayload) (facts : PolicyFactSnapshot)
    (order : OrderContextPayload) (issueType : IssueType) : Bool :=
  facts.issueType ≠ issueType ∨ facts.serviceLevel ≠ order.serviceLevel
    ∨ facts.region ≠ order.region
    ∨ some facts.policyVersion ≠ payload.citation.map (·.policyVersion)
    ∨ some facts.clauseId ≠ payload.citation.map (·.clauseId)
    ∨ some facts.sourceHash ≠ payload.citation.map (·.sourceHash)

/-- `_policy_guard`: permit only canonical, current and scope-matched policy facts. -/
def policyGuard (policy : ToolResult PolicySearchPayload) (order : OrderContextPayload)
    (issueType : IssueType) (namedResults : NamedResults) : Option EvidenceGateResult :=
  let human (reasonCode : String) := gateResult .requireHumanSupport reasonCode namedResults
  need policy.payload (human "POLICY_RESOLUTION_MISSING") fun payload =>
  test (payload.retrievalStatus = .noHit) (human "POLICY_RETRIEVAL_NO_HIT") <|
  test (payload.retrievalStatus ≠ .hit) (human "POLICY_RETRIEVAL_NOT_VERIFIABLE") <|
  test (payload.policyResolutionStatus = some .notApplicable)
    (gateResult .completeNoAction "POLICY_NOT_APPLICABLE" namedResults) <|
  test (payload.policyResolutionStatus = some .versionConflict)
    (human "POLICY_VERSION_CONFLICT") <|
  test (¬ payload.verifiedForGate) (human "POLICY_CANONICAL_VALIDATION_FAILED") <|
  need payload.policyFactSnapshot (human "POLICY_CANONICAL_VALIDATION_FAILED") fun facts =>
  test (policyScopeMismatch payload facts order issueType)
    (human "POLICY_SCOPE_OR_CITATION_MISMATCH") <|
  test (¬ withinEffectiveWindow facts payload.evaluatedAt)
    (human "POLICY_EFFECTIVE_WINDOW_INVALID") <|
  test (¬ ∀ code ∈ requiredCodes issueType, code ∈ facts.requiredEvidenceCodes)
    (human "POLICY_REQUIRED_EVIDENCE_MISMATCH")
  none

/-- The facts of a policy result, when its payload carries any. -/
def policyFacts (policy : ToolResult PolicySearchPayload) : Option PolicyFactSnapshot :=
  policy.payload.bind (·.policyFactSnapshot)

/-- Recipients with whom a delivered package may still be waiting. -/
def receptionRecipientTypes : List String :=
  ["self", "family", "front_desk", "neighbor", "collection_point", "locker"]

/-- The proof was found and names a recipient with whom the package may be waiting. -/
def receptionTypeProof (proof : ToolResult DeliveryProofPayload) : Bool :=
  match proof.payload with
  | some pod =>
    decide (pod.podStatus = .found) &&
      match pod.recipientType with
      | some recipient => decide (recipient ∈ receptionRecipientTypes)
      | none => false
  | none => false

/-- The package, or without a package the order, is delivered. -/
def targetDelivered (order : OrderContextPayload) (targetShipmentId : Option String) : Bool :=
  match targetShipment order targetShipmentId with
  | some target => decide (target.shipmentStatus = OrderStatus.delivered.value)
  | none => decide (order.orderStatus = .delivered)

/-- The issue a report turns into when its package, or order, is not delivered. -/
def revisedIssue (order : OrderContextPayload) (targetShipmentId : Option String) : TriageIntent :=
  let targetStatus := match targetShipment order targetShipmentId with
    | some target => target.shipmentStatus
    | none => order.orderStatus.value
  if targetStatus ∈ [OrderStatus.shipped.value, "in_transit", "out_for_delivery", "stalled"] then
    .stalledTracking
  else .otherLogistics

/-- The results a signed-but-missing decision rests on before the delivery proof. -/
def prePodCritical (facts : SignedNotReceivedEvidence) : NamedResults :=
  [("order_context", facts.orderContext.head), ("timeline", facts.timeline.head),
    ("existing_tickets", facts.existingTickets.head), ("policy", facts.policy.head)]

/-- The decision on evidence that one directed refresh could still complete. -/
def refreshDecision (facts : CommonGateFacts) : EvidenceGateDecision :=
  if facts.directedRefreshCompleted then .requireHumanSupport else .retryLater

/-- `evaluate_signed_not_received`, the rows on order, tickets, timeline and policy. -/
def signedEvidenceRows (facts : SignedNotReceivedEvidence) : Option EvidenceGateResult :=
  let retryExhausted := facts.criticalRetryExhausted
  let orderOnly : NamedResults := [("order_context", facts.orderContext.head)]
  let tickets : NamedResults := [("existing_tickets", facts.existingTickets.head)]
  let prePod := prePodCritical facts
  let refresh := refreshDecision facts.toCommonGateFacts
  guard (commonGuard facts.toCommonGateFacts) <|
  guard (unavailableResult orderOnly retryExhausted) <|
  need facts.orderContext.payload
    (gateResult .requireHumanSupport "ORDER_CONTEXT_ABSENT_AFTER_AUTHORIZATION" orderOnly)
    fun order =>
  test (facts.targetShipmentId ≠ none ∧ targetShipment order facts.targetShipmentId = none)
    (gateResult .requireHumanSupport "TARGET_SHIPMENT_NOT_FOUND" orderOnly) <|
  test (¬ targetDelivered order facts.targetShipmentId)
    ⟨.revision (revisedIssue order facts.targetShipmentId),
      "REPORTED_ISSUE_DOES_NOT_MATCH_ORDER_STATE", resultHashes orderOnly⟩ <|
  -- A completed active-ticket observation resolves duplicate action handling.
  guard (unavailableResult tickets retryExhausted) <|
  test (activeTicket facts.existingTickets)
    (gateResult .completeNoAction "ACTIVE_LOGISTICS_TICKET_EXISTS" tickets) <|
  guard (unavailableResult prePod retryExhausted) <|
  need facts.timeline.payload
    (gateResult refresh "DELIVERED_WITHOUT_TIMELINE_EVIDENCE" prePod) fun timeline =>
  test (timeline.events = [])
    (gateResult refresh "DELIVERED_WITHOUT_TIMELINE_EVIDENCE" prePod) <|
  need (targetTimeline timeline facts.targetShipmentId)
    (gateResult refresh "TARGET_TIMELINE_ABSENT" prePod) fun scopedTimeline =>
  test (scopedTimeline.events = []) (gateResult refresh "TARGET_TIMELINE_ABSENT" prePod) <|
  guard (policyGuard facts.policy order .signedNotReceived prePod) <|
  need (policyFacts facts.policy)
    (gateResult .requireHumanSupport "POLICY_CANONICAL_VALIDATION_FAILED" prePod) fun policy =>
  test (¬ policy.eligible) (gateResult .completeNoAction "POLICY_NOT_ELIGIBLE" prePod)
  none

/-- `evaluate_signed_not_received`, the rows on what the customer said and the delivery proof. -/
def signedCustomerRows (facts : SignedNotReceivedEvidence) : Option EvidenceGateResult :=
  let proof : NamedResults := [("delivery_proof", facts.deliveryProof.head)]
  let critical := prePodCritical facts ++ proof
  test (¬ facts.customerStillReportsMissing)
    (gateResult .completeNoAction "CUSTOMER_REPORT_RESOLVED" (prePodCritical facts)) <|
  guard (unavailableResult proof facts.criticalRetryExhausted) <|
  test facts.deliveryLocationConflict
    (gateResult .requireHumanSupport "DELIVERY_EVIDENCE_CONFLICT" critical) <|
  test (receptionTypeProof facts.deliveryProof ∧ ¬ facts.receptionLocationsChecked)
    (gateResult .requestBusinessClarification "CHECK_RECEPTION_LOCATION" critical)
  none

/-- The last row of `evaluate_signed_not_received`. -/
def signedProposal (facts : SignedNotReceivedEvidence) : EvidenceGateResult :=
  gateResult .proposeTicket "SIGNED_NOT_RECEIVED_EVIDENCE_COMPLETE"
    (prePodCritical facts ++ [("delivery_proof", facts.deliveryProof.head)])

/-- `evaluate_signed_not_received`. -/
def evaluateSignedNotReceived (facts : SignedNotReceivedEvidence) : EvidenceGateResult :=
  (guard (signedEvidenceRows facts) (signedCustomerRows facts)).getD (signedProposal facts)

/-- Some alert is active at the time the alerts were observed. -/
def carrierRecoveryActive (alerts : ToolResult CarrierServiceAlertsPayload) : Bool :=
  match alerts.payload with
  | some p => p.alerts.any (·.isActiveAt alerts.observedAt)
  | none => false

/-- The results a stalled-tracking decision rests on before tickets and alerts. -/
def decisionInputs (facts : StalledTrackingEvidence) : NamedResults :=
  [("order_context", facts.orderContext.head), ("timeline", facts.timeline.head),
    ("policy", facts.policy.head)]

/-- `evaluate_stalled_tracking`, the rows up to the comparison with the threshold. -/
def stalledEvidenceRows (facts : StalledTrackingEvidence) : Option EvidenceGateResult :=
  let inputs := decisionInputs facts
  let refresh := refreshDecision facts.toCommonGateFacts
  guard (commonGuard facts.toCommonGateFacts) <|
  guard (unavailableResult inputs facts.criticalRetryExhausted) <|
  need facts.orderContext.payload
    (gateResult .requireHumanSupport "ORDER_CONTEXT_ABSENT_AFTER_AUTHORIZATION" inputs) fun order =>
  let target := targetShipment order facts.targetShipmentId
  test (facts.targetShipmentId ≠ none ∧ target = none)
    (gateResult .requireHumanSupport "TARGET_SHIPMENT_NOT_FOUND" inputs) <|
  test (∃ t ∈ target, t.shipmentStatus = OrderStatus.delivered.value)
    ⟨.revision .signedNotReceived, "REPORTED_ISSUE_DOES_NOT_MATCH_SHIPMENT_STATE",
      resultHashes [("order_context", facts.orderContext.head)]⟩ <|
  test (target = none ∧ order.orderStatus ≠ .shipped)
    (gateResult .completeNoAction "ORDER_NOT_IN_TRANSIT" inputs) <|
  test (∃ t ∈ target, t.shipmentStatus ∉ activeShipmentStates)
    (gateResult .completeNoAction "SHIPMENT_NOT_IN_TRANSIT" inputs) <|
  need facts.timeline.payload (gateResult refresh "TRACKING_TIMELINE_ABSENT" inputs)
    fun timeline =>
  test (timeline.hoursSinceLastUpdate = none)
    (gateResult refresh "TRACKING_TIMELINE_ABSENT" inputs) <|
  guard (policyGuard facts.policy order .stalledTracking inputs) <|
  need (policyFacts facts.policy)
    (gateResult .requireHumanSupport "POLICY_CANONICAL_VALIDATION_FAILED" inputs) fun policy =>
  test (¬ policy.eligible) (gateResult .completeNoAction "POLICY_NOT_ELIGIBLE" inputs) <|
  need policy.stalledAfterHours
    (gateResult .requireHumanSupport "STALL_THRESHOLD_ABSENT" inputs) fun threshold =>
  need (targetTimeline timeline facts.targetShipmentId)
    (gateResult refresh "TARGET_TIMELINE_ABSENT" inputs) fun scopedTimeline =>
  need scopedTimeline.hoursSinceLastUpdate
    (gateResult refresh "TARGET_TIMELINE_ABSENT" inputs) fun hours =>
  test (hasStructuralTimelineConflict order timeline facts.timeline.observedAt
      facts.targetShipmentId)
    (gateResult .requireHumanSupport "PERSISTENT_STRUCTURAL_CONFLICT" inputs) <|
  test (hours ≤ threshold) (gateResult .completeNoAction "WITHIN_TRACKING_SLA" inputs)
  none

/-- The carrier-alert result, when the investigation read one. -/
def namedAlerts (facts : StalledTrackingEvidence) : NamedResults :=
  (facts.carrierAlerts.map fun a => ("carrier_alerts", a.head)).toList

/-- The results a stalled-tracking proposal rests on. -/
def stalledCritical (facts : StalledTrackingEvidence) : NamedResults :=
  decisionInputs facts ++ [("existing_tickets", facts.existingTickets.head)] ++ namedAlerts facts

/-- `evaluate_stalled_tracking`, the rows on carrier alerts and existing tickets. -/
def stalledTicketRows (facts : StalledTrackingEvidence) : Option EvidenceGateResult :=
  guard (unavailableResult (namedAlerts facts) facts.criticalRetryExhausted) <|
  guard (unavailableResult [("existing_tickets", facts.existingTickets.head)]
    facts.criticalRetryExhausted) <|
  test (activeTicket facts.existingTickets)
    (gateResult .completeNoAction "ACTIVE_LOGISTICS_TICKET_EXISTS" (stalledCritical facts)) <|
  test (facts.carrierAlerts.any carrierRecoveryActive)
    (gateResult .completeNoAction "ACTIVE_CARRIER_RECOVERY_WINDOW" (stalledCritical facts))
  none

/-- The last row of `evaluate_stalled_tracking`. -/
def stalledProposal (facts : StalledTrackingEvidence) : EvidenceGateResult :=
  gateResult .proposeTicket "STALLED_TRACKING_EVIDENCE_COMPLETE" (stalledCritical facts)

/-- `evaluate_stalled_tracking`. -/
def evaluateStalledTracking (facts : StalledTrackingEvidence) : EvidenceGateResult :=
  (guard (stalledEvidenceRows facts) (stalledTicketRows facts)).getD (stalledProposal facts)

/-- The evidence record of either issue type. -/
inductive GateEvidence where
  | signedNotReceived (facts : SignedNotReceivedEvidence)
  | stalledTracking (facts : StalledTrackingEvidence)

/-- `evaluate_evidence_gate`; `none` is the `TypeError` of a record of the other issue type. -/
def evaluateEvidenceGate (issueType : IssueType) (facts : GateEvidence) :
    Option EvidenceGateResult :=
  match issueType, facts with
  | .signedNotReceived, .signedNotReceived facts => some (evaluateSignedNotReceived facts)
  | .stalledTracking, .stalledTracking facts => some (evaluateStalledTracking facts)
  | _, _ => none

end AfterSales
