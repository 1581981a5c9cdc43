import AfterSales.Policy.Corpus
import Mathlib.Data.Rat.Defs

/-! The typed results that cross the boundary of the governed read tools.

    Every result is an envelope around a payload. The envelope separates "the query did not
    complete" from "the query found nothing": a failed query is unavailable and carries an error
    code, never a payload; a completed one is present or absent. Both rules are fields of
    `ToolResult`, so an envelope that mixes the two cannot be built. Hours since the last scan are
    exact rationals. Notes, locations, excerpts and search statistics decide nothing and are left
    out. -/

namespace AfterSales

/-- One scan event of a timeline. -/
structure TimelineEvent where
  eventId : String
  shipmentId : Option String
  status : String
  occurredAt : Instant
  deriving DecidableEq

/-- Package identity and current delivery state within one order. -/
structure ShipmentSummaryPayload where
  shipmentId : String
  packageSequence : Nat
  packageCount : Nat
  trackingNumber : String
  shipmentStatus : String
  deriving DecidableEq

structure ShipmentTimelinePayload where
  shipmentId : String
  events : List TimelineEvent
  lastUpdateAt : Option Instant
  hoursSinceLastUpdate : Option ℚ
  lastUpdateIff : events ≠ [] ↔ lastUpdateAt.isSome
  deriving DecidableEq

structure OrderContextPayload where
  orderId : String
  orderStatus : OrderStatus
  serviceLevel : String
  region : String
  shipments : List ShipmentSummaryPayload
  deriving DecidableEq

structure LogisticsTimelinePayload where
  orderId : String
  events : List TimelineEvent
  lastUpdateAt : Option Instant
  hoursSinceLastUpdate : Option ℚ
  shipmentTimelines : List ShipmentTimelinePayload
  lastUpdateIff : events ≠ [] ↔ lastUpdateAt.isSome
  deriving DecidableEq

structure DeliveryProofPayload where
  orderId : String
  shipmentId : Option String
  podStatus : DeliveryProofStatus
  recipientType : Option String
  signedAt : Option Instant
  notFoundEmpty : podStatus = .notFound → recipientType = none ∧ signedAt = none
  deriving DecidableEq

inductive AlertStatus where | active | resolved
  deriving DecidableEq, Repr

@[ext]
structure CarrierAlert where
  alertId : String
  activeFrom : Instant
  activeUntil : Option Instant
  status : AlertStatus
  window : ∀ t ∈ activeUntil, activeFrom ≤ t

instance : DecidableEq CarrierAlert := fun _ _ => decidable_of_iff _ CarrierAlert.ext_iff.symm

/-- An alert is active inside its window, open on the right, until it is resolved. -/
def CarrierAlert.isActiveAt (a : CarrierAlert) (evaluatedAt : Instant) : Bool :=
  a.status = .active ∧ a.activeFrom ≤ evaluatedAt ∧ ∀ t ∈ a.activeUntil, evaluatedAt < t

structure CarrierServiceAlertsPayload where
  orderId : String
  alerts : List CarrierAlert
  deriving DecidableEq

/-- The canonical clause a policy result cites. -/
structure VerifiedPolicyCitation where
  documentId : String
  policyVersion : String
  clauseId : String
  sourceHash : String
  deriving DecidableEq

/-- A completed policy search; facts and citation come from the resolver only. -/
structure PolicySearchPayload [PolicyDigest] where
  orderId : String
  issueType : IssueType
  serviceLevel : String
  region : String
  evaluatedAt : Instant
  retrievalStatus : RetrievalStatus
  policyResolutionStatus : Option PolicyResolutionStatus
  policyFactSnapshot : Option PolicyFactSnapshot
  policyFactSnapshotHash : Option String
  citation : Option VerifiedPolicyCitation
  resolvedIffHit : retrievalStatus = .hit ↔ policyResolutionStatus.isSome
  applicable : policyResolutionStatus = some .applicable →
    policyFactSnapshot.isSome ∧ citation.isSome ∧
      policyFactSnapshotHash = policyFactSnapshot.map PolicyDigest.materialSnapshotHash
  factsMatchScope : ∀ f ∈ policyFactSnapshot,
    f.issueType = issueType ∧ f.serviceLevel = serviceLevel ∧ f.region = region
  citationMatches : ∀ f ∈ policyFactSnapshot, ∀ c ∈ citation,
    f.policyVersion = c.policyVersion ∧ f.clauseId = c.clauseId ∧ f.sourceHash = c.sourceHash
  notApplicable : policyResolutionStatus ≠ some .applicable →
    policyFactSnapshot = none ∧ policyFactSnapshotHash = none ∧ citation = none
  deriving DecidableEq

theorem PolicySearchPayload.hit_resolves :
    RetrievalStatus.hit = .hit ↔ (some PolicyResolutionStatus.applicable).isSome := by
  simp

/-- `verified_for_gate`: an applicable hit whose fact hash is the hash of its facts. -/
def PolicySearchPayload.verifiedForGate [PolicyDigest] (p : PolicySearchPayload) : Bool :=
  p.retrievalStatus = .hit ∧ p.policyResolutionStatus = some .applicable ∧
    p.policyFactSnapshot.isSome ∧ p.citation.isSome ∧
    p.policyFactSnapshotHash = p.policyFactSnapshot.map PolicyDigest.materialSnapshotHash

structure LogisticsTicket where
  ticketId : String
  orderId : String
  issueType : IssueType
  ticketStatus : String
  targetShipmentId : Option String
  createdAt : Instant
  updatedAt : Instant
  deriving DecidableEq

structure ExistingInvestigation where
  caseId : String
  orderId : String
  issueType : IssueType
  targetShipmentId : Option String
  status : String
  deriving DecidableEq

structure ExistingLogisticsTicketsPayload where
  orderId : String
  issueType : IssueType
  activeTickets : List LogisticsTicket
  existingInvestigations : List ExistingInvestigation
  deriving DecidableEq

/-- The governed read tools, `READ_TOOL_NAMES`. -/
inductive ReadTool where
  | getOrderContext | getLogisticsTimeline | getDeliveryProof | getCarrierServiceAlerts
  | searchAfterSalesPolicy | getExistingLogisticsTickets
  deriving DecidableEq, Repr

def ReadTool.name : ReadTool → String
  | .getOrderContext => "get_order_context"
  | .getLogisticsTimeline => "get_logistics_timeline"
  | .getDeliveryProof => "get_delivery_proof"
  | .getCarrierServiceAlerts => "get_carrier_service_alerts"
  | .searchAfterSalesPolicy => "search_after_sales_policy"
  | .getExistingLogisticsTickets => "get_existing_logistics_tickets"

/-- The payload a completed read returns. -/
abbrev PayloadOf [PolicyDigest] : ReadTool → Type
  | .getOrderContext => OrderContextPayload
  | .getLogisticsTimeline => LogisticsTimelinePayload
  | .getDeliveryProof => DeliveryProofPayload
  | .getCarrierServiceAlerts => CarrierServiceAlertsPayload
  | .searchAfterSalesPolicy => PolicySearchPayload
  | .getExistingLogisticsTickets => ExistingLogisticsTicketsPayload

/-- The arguments of a read: the order and, for the tools that take one, the issue. -/
structure ToolArguments where
  orderId : String
  issueType : Option IssueType
  deriving DecidableEq, Repr

/-- Server-owned values that model-authored arguments cannot override. -/
structure TrustedToolContext where
  customerId : String
  conversationId : String
  caseId : String
  runId : String
  authorizedOrderId : String
  canonicalIssueType : IssueType
  fixtureVersion : String
  faultSeed : String
  evaluatedAt : Instant
  targetShipmentId : Option String
  deriving DecidableEq

/-- One normalized query result; an error can never masquerade as absence. -/
structure ToolResult (P : Type) where
  executionStatus : ExecutionStatus
  evidenceAvailability : EvidenceAvailability
  sourceQueryId : String
  sourceRecordIds : List String
  observedAt : Instant
  payload : Option P
  errorCode : Option String
  retryable : Bool
  resultHash : String
  retrievalStatus : Option RetrievalStatus
  policyResolutionStatus : Option PolicyResolutionStatus
  retrievalEnvelope : policyResolutionStatus.isSome ↔ retrievalStatus = some .hit
  successEnvelope : executionStatus = .success →
    evidenceAvailability ≠ .unavailable ∧ retrievalStatus ≠ some .unavailable ∧
      errorCode = none ∧ retryable = false ∧ (evidenceAvailability = .present → payload.isSome)
  failedEnvelope : executionStatus ≠ .success →
    evidenceAvailability = .unavailable ∧ payload.isNone ∧ errorCode.isSome ∧
      retryable = decide (executionStatus = .retryableError) ∧
      (retrievalStatus = none ∨ retrievalStatus = some .unavailable)
  deriving DecidableEq

/-- The payload-free part of an envelope, as the gate's tables of named results read it. -/
structure ResultHead where
  executionStatus : ExecutionStatus
  evidenceAvailability : EvidenceAvailability
  retryable : Bool
  resultHash : String
  deriving DecidableEq

def ToolResult.head {P : Type} (r : ToolResult P) : ResultHead :=
  ⟨r.executionStatus, r.evidenceAvailability, r.retryable, r.resultHash⟩

/-- The query completed and its answer is not marked unavailable. -/
def ResultHead.Completed (h : ResultHead) : Prop :=
  h.executionStatus = .success ∧ h.evidenceAvailability ≠ .unavailable

instance (h : ResultHead) : Decidable h.Completed := inferInstanceAs (Decidable (_ ∧ _))

/-- A successful execution is a completed result: the envelope excludes the mixed case. -/
theorem ToolResult.completed_of_success {P : Type} (r : ToolResult P)
    (h : r.executionStatus = .success) : r.head.Completed :=
  ⟨h, (r.successEnvelope h).1⟩

/-- Whether a completed query found a record. -/
inductive CompletedAvailability where | present | absent
  deriving DecidableEq, Repr

def CompletedAvailability.value : CompletedAvailability → EvidenceAvailability
  | .present => .present
  | .absent => .absent

/-- `completed`: the envelope of a query that ran, around the payload it returned. -/
def ToolResult.completed {P : Type} (availability : CompletedAvailability)
    (sourceQueryId : String) (observedAt : Instant) (payload : P) (sourceRecordIds : List String)
    (resultHash : String) : ToolResult P where
  executionStatus := .success
  evidenceAvailability := availability.value
  sourceQueryId := sourceQueryId
  sourceRecordIds := sourceRecordIds
  observedAt := observedAt
  payload := some payload
  errorCode := none
  retryable := false
  resultHash := resultHash
  retrievalStatus := none
  policyResolutionStatus := none
  retrievalEnvelope := by simp
  successEnvelope := fun _ => by cases availability <;> simp [CompletedAvailability.value]
  failedEnvelope := fun h => absurd rfl h

/-- `completed` for a policy search, which also carries its retrieval and resolution outcome. -/
def ToolResult.completedSearch [PolicyDigest] (sourceQueryId : String) (observedAt : Instant)
    (payload : PolicySearchPayload) (hran : payload.retrievalStatus ≠ .unavailable)
    (resultHash : String) : ToolResult PolicySearchPayload where
  executionStatus := .success
  evidenceAvailability := .present
  sourceQueryId := sourceQueryId
  sourceRecordIds := (payload.citation.map (·.clauseId)).toList
  observedAt := observedAt
  payload := some payload
  errorCode := none
  retryable := false
  resultHash := resultHash
  retrievalStatus := some payload.retrievalStatus
  policyResolutionStatus := payload.policyResolutionStatus
  retrievalEnvelope := by rw [← payload.resolvedIffHit, Option.some.injEq]
  successEnvelope := fun _ => by simpa using hran
  failedEnvelope := fun h => absurd rfl h

/-- `failed`: the envelope of a query that did not run to its end. -/
def ToolResult.failed {P : Type} (retryable : Bool) (sourceQueryId : String)
    (observedAt : Instant) (errorCode : String) (isSearch : Bool) (resultHash : String) :
    ToolResult P where
  executionStatus := if retryable then .retryableError else .nonRetryableError
  evidenceAvailability := .unavailable
  sourceQueryId := sourceQueryId
  sourceRecordIds := []
  observedAt := observedAt
  payload := none
  errorCode := some errorCode
  retryable := retryable
  resultHash := resultHash
  retrievalStatus := if isSearch then some .unavailable else none
  policyResolutionStatus := none
  retrievalEnvelope := by cases isSearch <;> simp
  successEnvelope := by cases retryable <;> simp
  failedEnvelope := fun _ => by cases retryable <;> cases isSearch <;> simp

end AfterSales
