import AfterSales.Tools.Contracts
import Mathlib.Algebra.Order.Ring.Unbundled.Rat
import Mathlib.Data.List.Sort

/-! The fixture store: the source adapter every read tool answers from.

    Orders, timelines, proofs, alerts, shipments and seed cases never change while the program
    runs. Three things do: the tickets that the write executor adds, the revision that counts these
    changes, and the position in the plan of scripted action faults. A source revision names the
    version of what one tool reads of one order. -/

namespace AfterSales

structure OrderFixture where
  orderId : String
  customerId : String
  orderStatus : OrderStatus
  serviceLevel : String
  region : String
  sourceRevision : String
  deriving DecidableEq

structure ShipmentRecord where
  shipmentId : String
  packageSequence : Nat
  packageCount : Nat
  trackingNumber : String
  shipmentStatus : String
  deriving DecidableEq

structure DeliveryProofFixture where
  proofId : String
  orderId : String
  shipmentId : Option String
  recipientType : Option String
  signedAt : Option Instant
  deriving DecidableEq

/-- A seed case, read as evidence that an investigation is already open. -/
structure InvestigationCaseRecord where
  caseId : String
  orderId : String
  issueType : IssueType
  targetShipmentId : Option String
  caseState : String
  deriving DecidableEq

/-- A scripted failure of one attempt of one read tool. -/
structure FixtureFault where
  executionStatus : ExecutionStatus
  errorCode : String
  notSuccess : executionStatus ≠ .success
  deriving DecidableEq

/-- A scripted outcome of the write executor. -/
structure ActionFixtureFault where
  actionState : ActionState
  errorCode : String
  failure : actionState ∈ [.failedRetryable, .failedTerminal, .uncertain]
  deriving DecidableEq

/-- The digest of a delivery proof, as the source revision of the proof tool spells it. -/
class ProofDigest where
  podDigest : Option DeliveryProofFixture → String

/-- The digest of closed examples: proofs are told apart by their id. -/
abbrev ProofDigest.byId : ProofDigest := ⟨fun proof => proof.elim "none" (·.proofId)⟩

structure FixtureStore where
  fixtureVersion : String
  orders : String → Option OrderFixture
  timelines : String → List TimelineEvent
  deliveryProofs : String → Option DeliveryProofFixture
  carrierAlerts : String → List CarrierAlert
  shipments : String → List ShipmentRecord
  investigationCases : List InvestigationCaseRecord
  faults : String → ReadTool → Nat → Option FixtureFault
  actionFaultPlan : String → List ActionFixtureFault
  baseTickets : List LogisticsTicket
  dynamicTickets : List LogisticsTicket
  ticketRevision : Nat
  actionFaultPositions : String → Nat
  ordersKey : ∀ id o, orders id = some o → o.orderId = id

namespace FixtureStore

/-- `get_delivery_proof`: the proof of the order, unless it is for another package. -/
def getDeliveryProof (store : FixtureStore) (orderId : String) (shipmentId : Option String) :
    Option DeliveryProofFixture :=
  (store.deliveryProofs orderId).filter fun proof =>
    shipmentId = none ∨ proof.shipmentId = none ∨ proof.shipmentId = shipmentId

def activeTicketStatuses : List String := ["open", "investigating", "awaiting_carrier"]

/-- `get_active_tickets`: tickets of the order and issue whose package overlaps the target. -/
def getActiveTickets (store : FixtureStore) (orderId : String) (issueType : IssueType)
    (targetShipmentId : Option String) : List LogisticsTicket :=
  (store.baseTickets ++ store.dynamicTickets).filter fun ticket =>
    ticket.orderId = orderId ∧ ticket.issueType = issueType
      ∧ ticket.ticketStatus ∈ activeTicketStatuses
      ∧ (targetShipmentId = none ∨ ticket.targetShipmentId = none
        ∨ ticket.targetShipmentId = targetShipmentId)

def activeCaseStates : List String := ["investigating", "awaiting_customer_input", "awaiting_retry"]

/-- `get_active_investigations`. -/
def getActiveInvestigations (store : FixtureStore) (orderId : String) (issueType : IssueType)
    (targetShipmentId : Option String) : List ExistingInvestigation :=
  (store.investigationCases.filter fun record =>
    record.orderId = orderId ∧ record.issueType = issueType ∧ record.caseState ∈ activeCaseStates
      ∧ (targetShipmentId = none ∨ record.targetShipmentId = none
        ∨ record.targetShipmentId = targetShipmentId)).map fun record =>
    ⟨record.caseId, record.orderId, record.issueType, record.targetShipmentId, record.caseState⟩

/-- The shipments of an order in package order. -/
def sortedShipments (store : FixtureStore) (orderId : String) : List ShipmentRecord :=
  (store.shipments orderId).insertionSort fun a b => a.packageSequence ≤ b.packageSequence

/-- `shipment_summary`. -/
def shipmentSummary (store : FixtureStore) (orderId : String) : List ShipmentSummaryPayload :=
  (store.sortedShipments orderId).map fun s =>
    ⟨s.shipmentId, s.packageSequence, s.packageCount, s.trackingNumber, s.shipmentStatus⟩

/-- The last scan of a list of events. -/
def lastUpdate (events : List TimelineEvent) : Option Instant := (events.map (·.occurredAt)).max?

theorem lastUpdate_isSome (events : List TimelineEvent) :
    events ≠ [] ↔ (lastUpdate events).isSome := by
  rw [← not_iff_not, Option.not_isSome_iff_eq_none]
  simp [lastUpdate]

/-- Hours between the last scan and the clock, never negative. -/
def hoursSince (evaluatedAt : Instant) (events : List TimelineEvent) : Option ℚ :=
  (lastUpdate events).map fun last => max 0 (((evaluatedAt - last : Int) : ℚ) / 3600000000)

/-- `shipment_timelines`: per package, the events that name the package. -/
def shipmentTimelines (store : FixtureStore) (orderId : String) (evaluatedAt : Instant) :
    List ShipmentTimelinePayload :=
  (store.shipmentSummary orderId).map fun summary =>
    let events := (store.timelines orderId).filter fun e =>
      decide (e.shipmentId = some summary.shipmentId)
    ⟨summary.shipmentId, events, lastUpdate events, hoursSince evaluatedAt events,
      lastUpdate_isSome events⟩

/-- `add_ticket`; `none` is the refusal of another content under a known id. -/
def addTicket (store : FixtureStore) (ticket : LogisticsTicket) : Option FixtureStore :=
  match (store.baseTickets ++ store.dynamicTickets).find? fun t => t.ticketId = ticket.ticketId with
  | some existing => if existing = ticket then some store else none
  | none => some { store with
      dynamicTickets := store.dynamicTickets ++ [ticket]
      ticketRevision := store.ticketRevision + 1 }

/-- `reset_dynamic_tickets`: the revision counts a reset only if it removed a ticket. -/
def resetDynamicTickets (store : FixtureStore) : FixtureStore :=
  { store with
    dynamicTickets := []
    ticketRevision :=
      if store.dynamicTickets.isEmpty then store.ticketRevision else store.ticketRevision + 1
    actionFaultPositions := fun _ => 0 }

/-- A store built again from the same fixtures, as a process builds it when it starts. -/
def fresh (store : FixtureStore) : FixtureStore :=
  { store with
    dynamicTickets := []
    ticketRevision := 0
    actionFaultPositions := fun _ => 0 }

/-- `consume_action_fault`: the next scripted outcome of a fault seed, consumed at once. -/
def consumeActionFault (store : FixtureStore) (faultSeed : String) :
    FixtureStore × Option ActionFixtureFault :=
  let position := store.actionFaultPositions faultSeed
  match (store.actionFaultPlan faultSeed)[position]? with
  | none => (store, none)
  | some fault => ({ store with
      actionFaultPositions := fun seed =>
        if seed = faultSeed then position + 1 else store.actionFaultPositions seed }, some fault)

/-- `source_revision` of one order and tool; `none` is the `KeyError` of an unknown order. -/
def sourceRevision [ProofDigest] (store : FixtureStore) (orderId : String) (tool : ReadTool) :
    Option String :=
  (store.orders orderId).map fun order =>
    let proofRevision :=
      if tool = .getDeliveryProof then ":pod-" ++ ProofDigest.podDigest (store.deliveryProofs orderId)
      else ""
    let extra :=
      if tool = .getExistingLogisticsTickets then ":tickets-r" ++ toString store.ticketRevision
      else ""
    store.fixtureVersion ++ ":" ++ order.sourceRevision ++ ":" ++ tool.name ++ proofRevision ++ extra

end FixtureStore

end AfterSales
