import AfterSales.Domain.State
import AfterSales.Lib.Json
import AfterSales.Policy.Corpus
import Mathlib.Data.List.Sort
import Mathlib.Data.List.Dedup

/-! The business demo dataset and its validator.

    A dataset is a manifest and ten tables. Every row is checked when it is read; the validator then
    checks what holds between rows. Its checks are a list, in the order in which the source makes
    them: the first one that fails is the error. -/

namespace AfterSales.BusinessDemo

/-- `datetime.fromisoformat` of a text with its zone; none for a text without one. -/
class DatasetTimes where
  parse : String → Option Instant

/-- `min_length=1`. -/
def filled (s : String) : Bool := s ≠ ""

/-! ### Rows -/

structure CustomerRecord where
  customerId : String
  customerKey : String
  displayName : String
  region : String
  defaultServiceLevel : String

def CustomerRecord.valid (r : CustomerRecord) : Bool :=
  filled r.customerId && filled r.customerKey && filled r.displayName && filled r.region &&
    filled r.defaultServiceLevel

structure OrderRecord where
  orderId : String
  customerId : String
  orderStatus : OrderStatus
  trackingNumber : String
  serviceLevel : String
  region : String
  shippedAt : Option Instant
  deliveredAt : Option Instant
  sourceRevision : String
  deriving DecidableEq

def OrderRecord.valid (r : OrderRecord) : Bool :=
  filled r.orderId && filled r.customerId && filled r.trackingNumber && filled r.serviceLevel &&
    filled r.region && filled r.sourceRevision

structure ShipmentRecord where
  shipmentId : String
  orderId : String
  packageSequence : Nat
  packageCount : Nat
  trackingNumber : String
  shipmentStatus : String
  carrierCode : String
  deriving DecidableEq

def ShipmentRecord.valid (r : ShipmentRecord) : Bool :=
  filled r.shipmentId && filled r.orderId && 1 ≤ r.packageSequence && 1 ≤ r.packageCount &&
    filled r.trackingNumber && filled r.shipmentStatus && filled r.carrierCode

structure TrackingEventRecord where
  eventId : String
  shipmentId : String
  orderId : String
  status : String
  occurredAt : Instant
  location : String
  note : Option String

def TrackingEventRecord.valid (r : TrackingEventRecord) : Bool :=
  filled r.eventId && filled r.shipmentId && filled r.orderId && filled r.status &&
    filled r.location

structure DeliveryProofRecord where
  proofId : String
  shipmentId : String
  orderId : String
  recipientType : String
  signedAt : Instant
  note : Option String
  deriving DecidableEq

def DeliveryProofRecord.valid (r : DeliveryProofRecord) : Bool :=
  filled r.proofId && filled r.shipmentId && filled r.orderId && filled r.recipientType

structure CarrierAlertRecord where
  alertId : String
  orderId : String
  code : String
  description : String
  activeFrom : Instant
  activeUntil : Option Instant
  impactArea : String
  status : String
  expectedRecoveryAt : Option Instant

def CarrierAlertRecord.valid (r : CarrierAlertRecord) : Bool :=
  filled r.alertId && filled r.orderId && filled r.code && filled r.description &&
    r.activeUntil.all (r.activeFrom ≤ ·) && r.expectedRecoveryAt.all (r.activeFrom ≤ ·) &&
    (r.status = "active" || r.status = "resolved")

structure InvestigationCaseRecord where
  caseId : String
  customerId : String
  orderId : String
  issueType : IssueType
  caseState : String
  caseOutcome : Option String
  reasonCode : String
  createdAt : Instant
  updatedAt : Instant
  targetShipmentId : Option String
  stage : String
  nextUpdateAt : Option Instant

def InvestigationCaseRecord.valid (r : InvestigationCaseRecord) : Bool :=
  filled r.caseId && filled r.customerId && filled r.orderId && filled r.caseState &&
    filled r.reasonCode && r.createdAt ≤ r.updatedAt

structure FaultProfileRecord where
  faultProfileId : String
  toolName : String
  mode : String
  description : String

def FaultProfileRecord.valid (r : FaultProfileRecord) : Bool :=
  filled r.faultProfileId && filled r.toolName && filled r.mode && filled r.description

structure PolicyClauseRecord where
  clauseId : String
  policyVersion : String
  issueType : IssueType
  serviceLevel : String
  region : String
  eligible : Bool
  stalledAfterHours : Nat
  effectiveFrom : Instant
  effectiveTo : Option Instant
  requiredEvidenceCodes : List String
  customerSummary : String

def PolicyClauseRecord.valid (r : PolicyClauseRecord) : Bool :=
  filled r.clauseId && filled r.policyVersion && filled r.serviceLevel && filled r.region &&
    r.requiredEvidenceCodes ≠ [] && filled r.customerSummary &&
    r.effectiveTo.all (r.effectiveFrom ≤ ·)

structure ScenarioRecord where
  scenarioId : String
  customerKey : String
  orderId : String
  issueType : IssueType
  expectedDisposition : String
  note : String
  targetShipmentId : Option String
  customerMessage : Option String
  expectedToolSequence : List String

def ScenarioRecord.valid (r : ScenarioRecord) : Bool :=
  filled r.scenarioId && filled r.customerKey && filled r.orderId && filled r.note &&
    r.expectedDisposition ∈ ["ANSWER", "WAIT", "CLARIFY", "INVESTIGATE", "ESCALATE"]

/-- The tables as they are read, each row checked. -/
structure BusinessDemoDataset where
  manifest : List (String × Json)
  customers : List CustomerRecord
  orders : List OrderRecord
  shipments : List ShipmentRecord
  trackingEvents : List TrackingEventRecord
  deliveryProofs : List DeliveryProofRecord
  carrierAlerts : List CarrierAlertRecord
  investigationCases : List InvestigationCaseRecord
  faultProfiles : List FaultProfileRecord
  scenarioCatalog : List ScenarioRecord
  policyClauses : List PolicyClauseRecord
  rowsValid : (customers.all (·.valid) && orders.all (·.valid) && shipments.all (·.valid) &&
    trackingEvents.all (·.valid) && deliveryProofs.all (·.valid) && carrierAlerts.all (·.valid) &&
    investigationCases.all (·.valid) && faultProfiles.all (·.valid) &&
    scenarioCatalog.all (·.valid) && policyClauses.all (·.valid)) = true

/-! ### Checks -/

/-- A condition, and the error when it does not hold. -/
structure Check where
  holds : Bool
  error : String

/-- A condition that is an error when it holds. -/
def rejects (bad : Bool) (error : String) : Check := ⟨!bad, error⟩

/-- `_unique`. -/
def unique (values : List String) (label : String) : Check :=
  ⟨values.Nodup, label ++ " contains duplicate identifiers"⟩

/-- `_reject_future_fact`. -/
def rejectFutureFact (evaluatedAt value : Instant) (label : String) : Check :=
  rejects (evaluatedAt < value) (label ++ " cannot be later than manifest evaluated_at")

/-- `EXPECTED_FAULT_PROFILE_IDS`, sorted. -/
def expectedFaultProfileIds : List String :=
  ["pod-persistent-unavailable", "pod-timeout-once", "policy-unavailable", "ticket-uncertain",
    "timeline-persistent-unavailable", "timeline-retry"]

namespace BusinessDemoDataset

/-- `order_by_id`; ids are unique once they are checked. -/
def order (d : BusinessDemoDataset) (orderId : String) : Option OrderRecord :=
  d.orders.find? (·.orderId = orderId)

/-- `shipment_by_id`. -/
def shipment (d : BusinessDemoDataset) (shipmentId : String) : Option ShipmentRecord :=
  d.shipments.find? (·.shipmentId = shipmentId)

def orderIds (d : BusinessDemoDataset) : List String := d.orders.map (·.orderId)

def customerKeys (d : BusinessDemoDataset) : List String := d.customers.map (·.customerKey)

/-- `package_groups`, by the orders in the order of their shipments. -/
def packageGroups (d : BusinessDemoDataset) : List (List ShipmentRecord) :=
  (d.shipments.map (·.orderId)).eraseDups.map fun orderId =>
    d.shipments.filter (·.orderId = orderId)

/-- The groups of one size whose packages all say so. -/
def packageDistribution (d : BusinessDemoDataset) (size : Nat) : Nat :=
  d.packageGroups.countP fun items =>
    items.length = size && items.all (·.packageCount = size)

def deliveredShipments (d : BusinessDemoDataset) : List String :=
  ((d.shipments.filter (·.shipmentStatus = "delivered")).map (·.shipmentId)).dedup

def manifestChecks (d : BusinessDemoDataset) : List Check :=
  [⟨d.manifest.lookup "dataset_id" = some (.str "business-demo-v1"),
      "manifest dataset_id must be business-demo-v1"⟩,
    ⟨d.manifest.lookup "schema_version" = some (.str "business-demo-v1"),
      "manifest schema_version must be business-demo-v1"⟩,
    ⟨d.manifest.lookup "timezone" = some (.str "UTC"), "manifest timezone must be UTC"⟩,
    ⟨d.manifest.lookup "synthetic_only" = some (.bool true),
      "dataset must explicitly be synthetic_only"⟩]

def uniqueChecks (d : BusinessDemoDataset) : List Check :=
  [unique (d.customers.map (·.customerId)) "customers",
    unique d.customerKeys "customer keys",
    unique d.orderIds "orders",
    unique (d.shipments.map (·.shipmentId)) "shipments",
    unique (d.trackingEvents.map (·.eventId)) "tracking events",
    unique (d.deliveryProofs.map (·.proofId)) "delivery proofs",
    unique (d.carrierAlerts.map (·.alertId)) "carrier alerts",
    unique (d.investigationCases.map (·.caseId)) "investigation cases",
    unique (d.policyClauses.map (·.clauseId)) "policy clauses",
    ⟨d.faultProfiles.all (·.faultProfileId ∈ expectedFaultProfileIds) &&
        expectedFaultProfileIds.all (· ∈ d.faultProfiles.map (·.faultProfileId)),
      "fault profiles must be exactly: " ++ ", ".intercalate expectedFaultProfileIds⟩]

def orderChecks (d : BusinessDemoDataset) (evaluatedAt : Instant) : List Check :=
  ⟨d.orders.all (·.customerId ∈ d.customerKeys),
      "every order must reference a known customer_key"⟩ ::
    d.orders.flatMap fun order =>
      order.shippedAt.toList.map (rejectFutureFact evaluatedAt ·
        ("order " ++ order.orderId ++ " shipped_at")) ++
      order.deliveredAt.toList.map (rejectFutureFact evaluatedAt ·
        ("order " ++ order.orderId ++ " delivered_at")) ++
      [⟨order.shippedAt.all fun shipped => order.deliveredAt.all (shipped ≤ ·),
          "delivered_at cannot precede shipped_at"⟩,
        ⟨order.orderStatus = .delivered → order.shippedAt.isSome ∧ order.deliveredAt.isSome,
          "delivered orders must have shipped_at and delivered_at"⟩,
        ⟨order.orderStatus = .delivered || order.deliveredAt.isNone,
          "non-delivered orders cannot have delivered_at"⟩]

/-- The numbers of the packages of a group are those from one on. -/
def completeSequence (items : List ShipmentRecord) : Bool :=
  (items.map (·.packageSequence)).insertionSort (· ≤ ·) =
    (List.range ((items.head?.map (·.packageCount)).getD 0)).map (· + 1)

def shipmentChecks (d : BusinessDemoDataset) : List Check :=
  [⟨d.shipments.all (·.orderId ∈ d.orderIds), "every shipment must reference a known order"⟩,
    ⟨d.orderIds.all (· ∈ d.shipments.map (·.orderId)),
      "every order must have at least one shipment"⟩] ++
  d.shipments.map (fun shipment => ⟨shipment.packageSequence ≤ shipment.packageCount,
    "package_sequence cannot exceed package_count"⟩) ++
  [⟨d.packageDistribution 1 = 34 && d.packageDistribution 2 = 4 && d.packageDistribution 3 = 2,
      "unexpected package distribution: \x7b1: " ++ toString (d.packageDistribution 1) ++ ", 2: " ++
        toString (d.packageDistribution 2) ++ ", 3: " ++ toString (d.packageDistribution 3) ++
        "\x7d"⟩,
    ⟨d.packageGroups.all completeSequence, "package sequences must be complete and ordered"⟩]

def eventChecks (d : BusinessDemoDataset) (evaluatedAt : Instant) : List Check :=
  d.trackingEvents.flatMap fun event =>
    let order := d.order event.orderId
    [rejectFutureFact evaluatedAt event.occurredAt
        ("tracking event " ++ event.eventId ++ " occurred_at"),
      ⟨(d.shipment event.shipmentId).any (·.orderId = event.orderId),
        "tracking event must reference its shipment and order"⟩,
      ⟨order.isSome, "KeyError"⟩,
      ⟨(order.bind (·.shippedAt)).all (· ≤ event.occurredAt),
        "tracking event cannot precede its order shipment time"⟩,
      ⟨(order.bind (·.deliveredAt)).all (event.occurredAt ≤ ·),
        "tracking event cannot follow its order delivery time"⟩]

def proofChecks (d : BusinessDemoDataset) (evaluatedAt : Instant) : List Check :=
  ⟨d.deliveryProofs.all (·.shipmentId ∈ d.deliveredShipments),
      "a delivery proof must reference a delivered shipment"⟩ ::
    (d.deliveryProofs.flatMap fun proof =>
      let order := d.order proof.orderId
      [rejectFutureFact evaluatedAt proof.signedAt
          ("delivery proof " ++ proof.proofId ++ " signed_at"),
        ⟨(d.shipment proof.shipmentId).any (·.orderId = proof.orderId),
          "delivery proof must match its shipment order"⟩,
        ⟨order.isSome, "KeyError"⟩,
        ⟨(order.bind (·.shippedAt)).all (· ≤ proof.signedAt),
          "delivery proof cannot precede its order shipment time"⟩,
        ⟨(order.bind (·.deliveredAt)).all (proof.signedAt ≤ ·),
          "delivery proof cannot follow its order delivery time"⟩]) ++
    [⟨d.deliveryProofs.all (·.orderId ∈ d.orderIds), "delivery proof must reference a known order"⟩]

def caseChecks (d : BusinessDemoDataset) (evaluatedAt : Instant) : List Check :=
  d.carrierAlerts.map (fun alert => ⟨alert.orderId ∈ d.orderIds,
    "carrier alert must reference a known order"⟩) ++
  d.investigationCases.flatMap fun case =>
    [rejectFutureFact evaluatedAt case.createdAt
        ("investigation case " ++ case.caseId ++ " created_at"),
      rejectFutureFact evaluatedAt case.updatedAt
        ("investigation case " ++ case.caseId ++ " updated_at"),
      ⟨(d.order case.orderId).any (·.customerId = case.customerId),
        "investigation case must match its order owner"⟩]

/-- A target, when there is one, is a known shipment. -/
def knownTarget (d : BusinessDemoDataset) (target : Option String) : Bool :=
  target.all (· ∈ d.shipments.map (·.shipmentId))

def scenarioChecks (d : BusinessDemoDataset) : List Check :=
  [⟨d.scenarioCatalog.all fun item =>
        item.customerKey ∈ d.customerKeys && item.orderId ∈ d.orderIds,
      "scenario catalog must reference known synthetic records"⟩,
    ⟨5 ≤ d.scenarioCatalog.length,
      "scenario catalog must contain at least five demo combinations"⟩] ++
  d.investigationCases.map (fun case => ⟨d.knownTarget case.targetShipmentId,
    "investigation case target shipment must be known"⟩) ++
  d.scenarioCatalog.map fun scenario => ⟨d.knownTarget scenario.targetShipmentId,
    "scenario target shipment must be known"⟩

def countCases (d : BusinessDemoDataset) (state : String) : Nat :=
  d.investigationCases.countP (·.caseState = state)

/-- `counts`. -/
def counts (d : BusinessDemoDataset) : List (String × Nat) :=
  [("customers", d.customers.length), ("orders", d.orders.length),
    ("shipments", d.shipments.length), ("tracking_events", d.trackingEvents.length),
    ("delivered_shipments", d.deliveredShipments.length),
    ("delivery_proofs", d.deliveryProofs.length),
    ("missing_delivery_proofs",
      (d.deliveredShipments.filter (· ∉ d.deliveryProofs.map (·.shipmentId))).length),
    ("carrier_alerts", d.carrierAlerts.length),
    ("investigation_cases", d.investigationCases.length),
    ("active_investigation_cases", d.countCases "investigating"),
    ("closed_investigation_cases", d.countCases "closed"),
    ("fault_profiles", d.faultProfiles.length), ("policy_clauses", d.policyClauses.length)]

/-- `counts`, as it is shown in an error. -/
def showCounts (counts : List (String × Nat)) : String :=
  "\x7b" ++ ", ".intercalate (counts.map fun x => "'" ++ x.1 ++ "': " ++ toString x.2) ++ "\x7d"

/-- The counts that the manifest expects. -/
def expectedCounts (d : BusinessDemoDataset) : Option (List (String × Json)) :=
  match d.manifest.lookup "counts" with
  | none => some []
  | some (.object expected) => some expected
  | some _ => none

def countChecks (d : BusinessDemoDataset) : List Check :=
  [⟨d.expectedCounts.isSome, "AttributeError"⟩,
    ⟨d.expectedCounts.all fun expected => d.counts.all fun x =>
        (expected.lookup x.1).any (·.same (.int x.2)),
      "manifest counts do not match dataset: " ++ showCounts d.counts⟩,
    ⟨d.countCases "investigating" = 6 && d.countCases "closed" = 2,
      "investigation case lifecycle counts must be 6 active and 2 closed"⟩]

/-- `_manifest_evaluated_at`. -/
def evaluatedAt [DatasetTimes] (d : BusinessDemoDataset) : Except String Instant :=
  let error := "manifest evaluated_at must be a timezone-aware ISO timestamp"
  match d.manifest.lookup "evaluated_at" with
  | some (.str text) =>
    if text = "" then .error error
    else match DatasetTimes.parse text with
      | some t => .ok t
      | none => .error error
  | _ => .error error

/-- The checks on the rows. -/
def rowChecks (d : BusinessDemoDataset) (evaluatedAt : Instant) : List Check :=
  d.uniqueChecks ++ d.orderChecks evaluatedAt ++ d.shipmentChecks ++ d.eventChecks evaluatedAt ++
    d.proofChecks evaluatedAt ++ d.caseChecks evaluatedAt ++ d.scenarioChecks ++ d.countChecks

end BusinessDemoDataset

/-- The error of the first check that fails. -/
def firstError (checks : List Check) : Except String Unit :=
  match checks.find? (!·.holds) with
  | some check => .error check.error
  | none => .ok ()

/-- `_validate_dataset`. -/
def validateDataset [DatasetTimes] (d : BusinessDemoDataset) :
    Except String (List (String × Nat)) := do
  firstError d.manifestChecks
  let evaluatedAt ← d.evaluatedAt
  firstError (d.rowChecks evaluatedAt)
  return d.counts

/-- A dataset that the validator accepts. -/
def Accepted [DatasetTimes] (d : BusinessDemoDataset) : Prop :=
  validateDataset d = .ok d.counts

/-! ### What holds of an accepted dataset -/

theorem firstError_ok_iff (checks : List Check) :
    firstError checks = .ok () ↔ ∀ check ∈ checks, check.holds = true := by
  rw [firstError]
  cases hfind : checks.find? (!·.holds) with
  | none =>
    refine iff_of_true rfl fun check hcheck => ?_
    simpa using List.find?_eq_none.mp hfind check hcheck
  | some check =>
    refine iff_of_false nofun fun h => ?_
    have hbad := List.find?_some hfind
    rw [h check (List.mem_of_find?_eq_some hfind)] at hbad
    cases hbad

section Accepted

variable [DatasetTimes] {d : BusinessDemoDataset}

theorem accepted_iff : Accepted d ↔ (∀ check ∈ d.manifestChecks, check.holds = true) ∧
    ∃ evaluatedAt, d.evaluatedAt = .ok evaluatedAt ∧
      ∀ check ∈ d.rowChecks evaluatedAt, check.holds = true := by
  rw [Accepted, validateDataset, ← firstError_ok_iff]
  cases hmanifest : firstError d.manifestChecks with
  | error e => exact iff_of_false nofun fun h => by cases h.1
  | ok _ =>
    cases htime : d.evaluatedAt with
    | error e => exact iff_of_false nofun fun ⟨_, t, ht, _⟩ => by cases ht
    | ok evaluatedAt =>
      have hrest : (∃ t, Except.ok (ε := String) evaluatedAt = .ok t ∧
          ∀ check ∈ d.rowChecks t, check.holds = true) ↔
            firstError (d.rowChecks evaluatedAt) = .ok () := by
        rw [firstError_ok_iff]
        constructor
        · rintro ⟨t, ht, h⟩
          cases ht
          exact h
        · exact fun h => ⟨evaluatedAt, rfl, h⟩
      rw [hrest, and_iff_right rfl]
      show (do firstError (d.rowChecks evaluatedAt); return d.counts) = _ ↔ _
      cases hrows : firstError (d.rowChecks evaluatedAt) with
      | error e => exact iff_of_false nofun nofun
      | ok _ => exact iff_of_true rfl rfl

/-- The row belongs to a shipment of the dataset, and to the order of that shipment. -/
def BusinessDemoDataset.Ships (d : BusinessDemoDataset) (shipmentId orderId : String) : Prop :=
  ∃ s ∈ d.shipments, s.shipmentId = shipmentId ∧ s.orderId = orderId

omit [DatasetTimes] in
theorem BusinessDemoDataset.ships_of_shipment {shipmentId orderId : String}
    (h : (d.shipment shipmentId).any (·.orderId = orderId) = true) :
    d.Ships shipmentId orderId := by
  obtain ⟨s, hs, horder⟩ := Option.any_eq_true _ _ |>.mp h
  have hid : s.shipmentId = shipmentId := by simpa using List.find?_some hs
  exact ⟨s, List.mem_of_find?_eq_some hs, hid, of_decide_eq_true horder⟩

/-- What holds between the rows of an accepted dataset. -/
structure Related (d : BusinessDemoDataset) : Prop where
  named : d.manifest.lookup "dataset_id" = some (.str "business-demo-v1")
  orderIds : d.orderIds.Nodup
  shipmentIds : (d.shipments.map (·.shipmentId)).Nodup
  clauseIds : (d.policyClauses.map (·.clauseId)).Nodup
  shipments : ∀ s ∈ d.shipments, s.orderId ∈ d.orderIds
  events : ∀ e ∈ d.trackingEvents, d.Ships e.shipmentId e.orderId
  proofs : ∀ p ∈ d.deliveryProofs, d.Ships p.shipmentId p.orderId
  cases : ∀ c ∈ d.investigationCases, c.orderId ∈ d.orderIds

theorem Accepted.related (h : Accepted d) : Related d := by
  obtain ⟨hmanifest, t, -, hrows⟩ := accepted_iff.mp h
  have hunique : ∀ check ∈ d.uniqueChecks, check.holds = true := fun check hc =>
    hrows check (by simp only [BusinessDemoDataset.rowChecks, List.mem_append, hc, true_or])
  refine ⟨?_, ?_, ?_, ?_, ?_, fun e he => ?_, fun p hp => ?_, fun c hc => ?_⟩
  · exact of_decide_eq_true (hmanifest _ (List.mem_cons_self ..))
  · simpa [unique] using hunique (unique d.orderIds "orders")
      (by simp [BusinessDemoDataset.uniqueChecks])
  · simpa [unique] using hunique (unique (d.shipments.map (·.shipmentId)) "shipments")
      (by simp [BusinessDemoDataset.uniqueChecks])
  · simpa [unique] using hunique (unique (d.policyClauses.map (·.clauseId)) "policy clauses")
      (by simp [BusinessDemoDataset.uniqueChecks])
  · have hall := hrows ⟨_, "every shipment must reference a known order"⟩ (by
      simp only [BusinessDemoDataset.rowChecks, BusinessDemoDataset.shipmentChecks,
        List.mem_append, List.mem_cons]
      exact .inl (.inl (.inl (.inl (.inl (.inr (.inl (.inl (.inl rfl)))))))))
    exact fun s hs => of_decide_eq_true (List.all_eq_true.mp hall s hs)
  · refine BusinessDemoDataset.ships_of_shipment
      (hrows ⟨_, "tracking event must reference its shipment and order"⟩ ?_)
    simp only [BusinessDemoDataset.rowChecks, BusinessDemoDataset.eventChecks, List.mem_append,
      List.mem_cons, List.mem_flatMap]
    exact .inl (.inl (.inl (.inl (.inr ⟨e, he, .inr (.inl rfl)⟩))))
  · refine BusinessDemoDataset.ships_of_shipment
      (hrows ⟨_, "delivery proof must match its shipment order"⟩ ?_)
    simp only [BusinessDemoDataset.rowChecks, BusinessDemoDataset.proofChecks, List.mem_append,
      List.mem_cons, List.mem_flatMap]
    exact .inl (.inl (.inl (.inr (.inl (.inr ⟨p, hp, .inr (.inl rfl)⟩)))))
  · have howner := hrows ⟨_, "investigation case must match its order owner"⟩ (by
      simp only [BusinessDemoDataset.rowChecks, BusinessDemoDataset.caseChecks, List.mem_append,
        List.mem_cons, List.mem_flatMap]
      exact .inl (.inl (.inr (.inr ⟨c, hc, .inr (.inr (.inl rfl))⟩))))
    obtain ⟨o, ho, -⟩ := Option.any_eq_true _ _ |>.mp howner
    have hid : o.orderId = c.orderId := by simpa using List.find?_some ho
    exact hid ▸ List.mem_map_of_mem (List.mem_of_find?_eq_some ho)

omit [DatasetTimes] in
/-- Shipments of an accepted dataset are told apart by their ids. -/
theorem Related.same_shipment (h : Related d) {s s' : ShipmentRecord} (hs : s ∈ d.shipments)
    (hs' : s' ∈ d.shipments) (hid : s.shipmentId = s'.shipmentId) : s = s' :=
  List.inj_on_of_nodup_map h.shipmentIds hs hs' hid

end Accepted

/-! ### A small dataset -/

/-- The time of small datasets, and no other. -/
abbrev DatasetTimes.dayOne : DatasetTimes :=
  ⟨fun text => if text = "1970-01-02T00:00:00Z" then some 86400000000 else none⟩

/-- The name of an order of a small dataset. -/
def letter (i : Nat) : String := String.ofList [Char.ofNat (65 + i)]

/-- The packages of an order: two for the first four, three for two more, and one. -/
def packages (i : Nat) : Nat := if i < 4 then 2 else if i < 6 then 3 else 1

/-- Forty orders that are still processed, whose packages are delivered. -/
def sampleOrders : List OrderRecord :=
  (List.range 40).map fun i =>
    ⟨letter i, "c", .processing, "t", "standard", "cn-east", none, none, "r"⟩

def sampleShipments : List ShipmentRecord :=
  (List.range 40).flatMap fun i => (List.range (packages i)).map fun k =>
    ⟨letter i ++ letter k, letter i, k + 1, packages i, "t", "delivered", "x"⟩

/-- Six cases under investigation, in the stage given, and two closed ones. -/
def sampleCases (stage : String) : List InvestigationCaseRecord :=
  (List.range 8).map fun i =>
    ⟨letter i, "c", "A", .signedNotReceived, if i < 6 then "investigating" else "closed", none,
      "opened", 0, 1, none, stage, none⟩

def sampleManifest (events proofs cases clauses : Nat) : List (String × Json) :=
  [("dataset_id", .str "business-demo-v1"), ("schema_version", .str "business-demo-v1"),
    ("timezone", .str "UTC"), ("synthetic_only", .bool true),
    ("evaluated_at", .str "1970-01-02T00:00:00Z"),
    ("counts", .object [("customers", .int 1), ("orders", .int 40), ("shipments", .int 48),
      ("tracking_events", .int events), ("delivered_shipments", .int 48),
      ("delivery_proofs", .int proofs), ("missing_delivery_proofs", .int (48 - proofs)),
      ("carrier_alerts", .int 0), ("investigation_cases", .int cases),
      ("active_investigation_cases", .int 6), ("closed_investigation_cases", .int 2),
      ("fault_profiles", .int 6), ("policy_clauses", .int clauses)])]

/-- A dataset of one customer, with the rows given. -/
def sampleDataset (events : List TrackingEventRecord) (proofs : List DeliveryProofRecord)
    (stage : String) (clauses : List PolicyClauseRecord)
    (hrows : (events.all (·.valid) && proofs.all (·.valid) && clauses.all (·.valid)) = true) :
    BusinessDemoDataset where
  manifest := sampleManifest events.length proofs.length 8 clauses.length
  customers := [⟨"c", "c", "n", "cn-east", "standard"⟩]
  orders := sampleOrders
  shipments := sampleShipments
  trackingEvents := events
  deliveryProofs := proofs
  carrierAlerts := []
  investigationCases := sampleCases stage
  faultProfiles := expectedFaultProfileIds.map fun id => ⟨id, "tool", "mode", "d"⟩
  scenarioCatalog := (List.range 5).map fun i =>
    ⟨letter i, "c", "A", .signedNotReceived, "ANSWER", "n", none, none, []⟩
  policyClauses := clauses
  rowsValid := by
    simp only [Bool.and_eq_true] at hrows
    obtain ⟨⟨hevents, hproofs⟩, hclauses⟩ := hrows
    have hcases : (sampleCases stage).all (·.valid) = true := by rfl
    simp only [hevents, hproofs, hclauses, hcases, Bool.and_true]
    decide +kernel

end AfterSales.BusinessDemo
