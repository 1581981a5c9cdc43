import AfterSales.Fixtures.BusinessDemo

/-! The store of the business demo, and the delivery proofs in it.

    The store is filled from the tables of a dataset. Tracking events, alerts and delivery proofs
    are rows of a shipment or an order, and are kept by order. An order keeps all its events and
    alerts, and one proof: that of its last row. -/

namespace AfterSales.BusinessDemo

/-! ### Records of the store -/

structure OrderFixture where
  orderId : String
  customerId : String
  orderStatus : OrderStatus
  trackingNumber : Option String
  serviceLevel : String
  region : String
  shippedAt : Option Instant
  deliveredAt : Option Instant
  sourceRevision : String

def OrderFixture.valid (o : OrderFixture) : Bool :=
  filled o.orderId && filled o.customerId && filled o.serviceLevel && filled o.region &&
    filled o.sourceRevision

structure TimelineEvent where
  eventId : String
  shipmentId : Option String
  status : String
  occurredAt : Instant
  location : Option String
  note : Option String

def TimelineEvent.valid (e : TimelineEvent) : Bool := filled e.eventId && filled e.status

structure DeliveryProofFixture where
  proofId : String
  orderId : String
  shipmentId : Option String
  recipientType : Option String
  signedAt : Option Instant
  note : Option String
  deriving DecidableEq

def DeliveryProofFixture.valid (p : DeliveryProofFixture) : Bool :=
  filled p.proofId && filled p.orderId

structure CarrierAlert where
  alertId : String
  code : String
  description : String
  activeFrom : Instant
  activeUntil : Option Instant
  impactArea : String
  status : String
  expectedRecoveryAt : Option Instant

def CarrierAlert.valid (a : CarrierAlert) : Bool :=
  filled a.alertId && filled a.code && filled a.description &&
    (a.status = "active" || a.status = "resolved") && a.activeUntil.all (a.activeFrom ≤ ·) &&
    a.expectedRecoveryAt.all (a.activeFrom ≤ ·)

def OrderRecord.fixture (r : OrderRecord) : OrderFixture :=
  ⟨r.orderId, r.customerId, r.orderStatus, some r.trackingNumber, r.serviceLevel, r.region,
    r.shippedAt, r.deliveredAt, r.sourceRevision⟩

def TrackingEventRecord.event (r : TrackingEventRecord) : TimelineEvent :=
  ⟨r.eventId, some r.shipmentId, r.status, r.occurredAt, some r.location, r.note⟩

def DeliveryProofRecord.fixture (r : DeliveryProofRecord) : DeliveryProofFixture :=
  ⟨r.proofId, r.orderId, some r.shipmentId, some r.recipientType, some r.signedAt, r.note⟩

def CarrierAlertRecord.alert (r : CarrierAlertRecord) : CarrierAlert :=
  ⟨r.alertId, r.code, r.description, r.activeFrom, r.activeUntil, r.impactArea, r.status,
    r.expectedRecoveryAt⟩

theorem DeliveryProofRecord.fixture_inj {p q : DeliveryProofRecord} :
    p.fixture = q.fixture ↔ p = q := by
  cases p
  cases q
  simp only [DeliveryProofRecord.fixture, DeliveryProofFixture.mk.injEq,
    DeliveryProofRecord.mk.injEq, Option.some.injEq]
  tauto

/-! ### The store -/

/-- `FixtureStore`, as far as a dataset fills it. -/
structure FixtureStore where
  fixtureVersion : String
  orders : List OrderFixture
  timelines : String → List TimelineEvent
  deliveryProofs : String → Option DeliveryProofFixture
  carrierAlerts : String → List CarrierAlert
  shipments : String → List ShipmentRecord
  investigationCases : List InvestigationCaseRecord
  ticketRevision : Nat

/-- The entries of one key, in the order in which they were added. -/
def entries {α : Type} (key : String) (l : List (String × α)) : List α :=
  (l.filter (·.1 = key)).map (·.2)

/-- Values that are checked as they are built. -/
def validated {α : Type} (valid : α → Bool) (values : List α) : Except String (List α) :=
  if values.all valid then .ok values else .error "ValidationError"

/-- The store that holds these records. A map of proofs keeps the last entry of a key. -/
def FixtureStore.fill (version : String) (orders : List OrderFixture)
    (events : List (String × TimelineEvent)) (proofs : List DeliveryProofFixture)
    (alerts : List (String × CarrierAlert)) (d : BusinessDemoDataset) : FixtureStore where
  fixtureVersion := version
  orders := orders
  timelines orderId := (entries orderId events).insertionSort fun a b => a.occurredAt ≤ b.occurredAt
  deliveryProofs orderId := (proofs.filter (·.orderId = orderId)).getLast?
  carrierAlerts orderId := entries orderId alerts
  shipments orderId := d.shipments.filter (·.orderId = orderId)
  investigationCases := d.investigationCases
  ticketRevision := 0

/-- `_business_demo_store`. -/
def businessDemoStore (d : BusinessDemoDataset) : Except String FixtureStore := do
  let orders ← validated (·.valid) (d.orders.map (·.fixture))
  let events ← validated (·.2.valid) (d.trackingEvents.map fun r => (r.orderId, r.event))
  let proofs ← validated (·.valid) (d.deliveryProofs.map (·.fixture))
  let alerts ← validated (·.2.valid) (d.carrierAlerts.map fun r => (r.orderId, r.alert))
  match d.manifest.lookup "dataset_id" with
  | some (.str version) => return .fill version orders events proofs alerts d
  | _ => .error "KeyError"

/-- `get_delivery_proof`. -/
def FixtureStore.getDeliveryProof (store : FixtureStore) (orderId : String)
    (shipmentId : Option String) : Option DeliveryProofFixture :=
  match store.deliveryProofs orderId with
  | none => none
  | some proof =>
    if shipmentId ≠ none ∧ proof.shipmentId ∉ [none, shipmentId] then none else some proof

/-- The first sixteen digits of the hash of a proof, or of its absence. -/
class PodDigest where
  digest : Option DeliveryProofFixture → String
  length_digest : ∀ proof, (digest proof).length = 16

/-- `source_revision`; none for an unknown order. -/
def FixtureStore.sourceRevision [PodDigest] (store : FixtureStore) (orderId toolName : String) :
    Option String :=
  (store.orders.find? (·.orderId = orderId)).map fun order =>
    let proofRevision :=
      if toolName = "get_delivery_proof" then
        ":pod-" ++ PodDigest.digest (store.deliveryProofs orderId)
      else ""
    let extra :=
      if toolName = "get_existing_logistics_tickets" then
        ":tickets-r" ++ toString store.ticketRevision
      else ""
    store.fixtureVersion ++ ":" ++ order.sourceRevision ++ ":" ++ toolName ++ proofRevision ++ extra

/-! ### Filling it -/

/-- The store of a dataset whose rows all build. -/
def BusinessDemoDataset.store (d : BusinessDemoDataset) : FixtureStore :=
  .fill "business-demo-v1" (d.orders.map (·.fixture))
    (d.trackingEvents.map fun r => (r.orderId, r.event)) (d.deliveryProofs.map (·.fixture))
    (d.carrierAlerts.map fun r => (r.orderId, r.alert)) d

theorem validated_map {α β : Type} {valid : β → Bool} {build : α → β} {rows : List α}
    (h : ∀ r ∈ rows, valid (build r) = true) :
    validated valid (rows.map build) = .ok (rows.map build) := by
  rw [validated, if_pos]
  rw [List.all_eq_true]
  intro b hb
  obtain ⟨r, hr, rfl⟩ := List.mem_map.mp hb
  exact h r hr

section Rows

variable {d : BusinessDemoDataset}

theorem BusinessDemoDataset.order_valid {r : OrderRecord} (hr : r ∈ d.orders) :
    r.fixture.valid = true := by
  have h := d.rowsValid
  simp only [Bool.and_eq_true, List.all_eq_true] at h
  have hrow := h.1.1.1.1.1.1.1.1.2 r hr
  simp only [OrderRecord.valid, Bool.and_eq_true] at hrow
  simp only [OrderFixture.valid, OrderRecord.fixture, hrow, Bool.and_self]

theorem BusinessDemoDataset.event_valid {r : TrackingEventRecord} (hr : r ∈ d.trackingEvents) :
    r.event.valid = true := by
  have h := d.rowsValid
  simp only [Bool.and_eq_true, List.all_eq_true] at h
  have hrow := h.1.1.1.1.1.1.2 r hr
  simp only [TrackingEventRecord.valid, Bool.and_eq_true] at hrow
  simp only [TimelineEvent.valid, TrackingEventRecord.event, hrow, Bool.and_self]

theorem BusinessDemoDataset.proof_valid {r : DeliveryProofRecord} (hr : r ∈ d.deliveryProofs) :
    r.fixture.valid = true := by
  have h := d.rowsValid
  simp only [Bool.and_eq_true, List.all_eq_true] at h
  have hrow := h.1.1.1.1.1.2 r hr
  simp only [DeliveryProofRecord.valid, Bool.and_eq_true] at hrow
  simp only [DeliveryProofFixture.valid, DeliveryProofRecord.fixture, hrow, Bool.and_self]

theorem BusinessDemoDataset.alert_valid {r : CarrierAlertRecord} (hr : r ∈ d.carrierAlerts) :
    r.alert.valid = true := by
  have h := d.rowsValid
  simp only [Bool.and_eq_true, List.all_eq_true] at h
  have hrow := h.1.1.1.1.2 r hr
  simp only [CarrierAlertRecord.valid, Bool.and_eq_true] at hrow
  obtain ⟨⟨⟨⟨⟨⟨hid, -⟩, hcode⟩, hdescription⟩, huntil⟩, hrecovery⟩, hstatus⟩ := hrow
  simp only [CarrierAlert.valid, CarrierAlertRecord.alert, Bool.and_eq_true]
  exact ⟨⟨⟨⟨⟨hid, hcode⟩, hdescription⟩, hstatus⟩, huntil⟩, hrecovery⟩

/-- Every record of the store follows from a row of an accepted dataset. -/
theorem Accepted.builds [DatasetTimes] (h : Accepted d) :
    businessDemoStore d = .ok d.store := by
  have horders := validated_map fun r => d.order_valid (r := r)
  have hevents : validated (·.2.valid) (d.trackingEvents.map fun r => (r.orderId, r.event)) = _ :=
    validated_map fun r => d.event_valid (r := r)
  have hproofs := validated_map fun r => d.proof_valid (r := r)
  have halerts : validated (·.2.valid) (d.carrierAlerts.map fun r => (r.orderId, r.alert)) = _ :=
    validated_map fun r => d.alert_valid (r := r)
  rw [businessDemoStore, horders, hevents, hproofs, halerts, h.related.named]
  rfl

end Rows

/-! ### Delivery proofs -/

section Proofs

variable {d d' : BusinessDemoDataset}

/-- The proofs of an order, one for each row. -/
def BusinessDemoDataset.proofsOf (d : BusinessDemoDataset) (orderId : String) :
    List DeliveryProofRecord :=
  d.deliveryProofs.filter (·.orderId = orderId)

/-- The proof of the last row of an order. -/
def BusinessDemoDataset.lastProof (d : BusinessDemoDataset) (orderId : String) :
    Option DeliveryProofRecord :=
  (d.proofsOf orderId).getLast?

theorem BusinessDemoDataset.mem_proofsOf {p : DeliveryProofRecord} {orderId : String} :
    p ∈ d.proofsOf orderId ↔ p ∈ d.deliveryProofs ∧ p.orderId = orderId := by
  simp [BusinessDemoDataset.proofsOf]

theorem BusinessDemoDataset.lastProof_mem {p : DeliveryProofRecord} {orderId : String}
    (h : d.lastProof orderId = some p) : p ∈ d.deliveryProofs ∧ p.orderId = orderId :=
  BusinessDemoDataset.mem_proofsOf.mp (List.mem_of_getLast? h)

theorem BusinessDemoDataset.lastProof_eq_none {orderId : String} :
    d.lastProof orderId = none ↔ ∀ p ∈ d.deliveryProofs, p.orderId ≠ orderId := by
  rw [BusinessDemoDataset.lastProof, List.getLast?_eq_none_iff, BusinessDemoDataset.proofsOf,
    List.filter_eq_nil_iff]
  simp only [decide_eq_true_eq]

/-- An order has some proof exactly when it has a last one. -/
theorem BusinessDemoDataset.exists_lastProof {p : DeliveryProofRecord}
    (hp : p ∈ d.deliveryProofs) : ∃ q, d.lastProof p.orderId = some q := by
  cases hlast : d.lastProof p.orderId with
  | none => exact absurd rfl (BusinessDemoDataset.lastProof_eq_none.mp hlast p hp)
  | some q => exact ⟨q, rfl⟩

/-- What the store keeps of the proofs of an order. -/
theorem BusinessDemoDataset.store_deliveryProofs (orderId : String) :
    d.store.deliveryProofs orderId = (d.lastProof orderId).map (·.fixture) := by
  show ((d.deliveryProofs.map (·.fixture)).filter (·.orderId = orderId)).getLast? = _
  rw [List.filter_map, List.getLast?_map]
  rfl

/-- A shipment is given the proof that its order keeps, when that one is its own. -/
theorem BusinessDemoDataset.store_getDeliveryProof (s : ShipmentRecord) :
    d.store.getDeliveryProof s.orderId (some s.shipmentId) =
      ((d.lastProof s.orderId).filter (·.shipmentId = s.shipmentId)).map (·.fixture) := by
  rw [FixtureStore.getDeliveryProof, BusinessDemoDataset.store_deliveryProofs]
  cases d.lastProof s.orderId with
  | none => rfl
  | some p =>
    by_cases hown : p.shipmentId = s.shipmentId
    · simp [Option.filter, DeliveryProofRecord.fixture, hown]
    · simp [Option.filter, DeliveryProofRecord.fixture, hown]

/-- Every shipment finds the proof recorded for it, and none when there is none. -/
def ProofsFound (d : BusinessDemoDataset) (store : FixtureStore) : Prop :=
  ∀ s ∈ d.shipments,
    (∀ p ∈ d.deliveryProofs, p.shipmentId = s.shipmentId →
      store.getDeliveryProof s.orderId (some s.shipmentId) = some p.fixture) ∧
    ((∀ p ∈ d.deliveryProofs, p.shipmentId ≠ s.shipmentId) →
      store.getDeliveryProof s.orderId (some s.shipmentId) = none)

/-- No order has two proofs. -/
def OneProofPerOrder (d : BusinessDemoDataset) : Prop :=
  ∀ p ∈ d.deliveryProofs, ∀ q ∈ d.deliveryProofs, p.orderId = q.orderId → p = q

theorem OneProofPerOrder.lastProof (h : OneProofPerOrder d) {p : DeliveryProofRecord}
    (hp : p ∈ d.deliveryProofs) : d.lastProof p.orderId = some p := by
  obtain ⟨q, hq⟩ := BusinessDemoDataset.exists_lastProof hp
  obtain ⟨hmem, horder⟩ := BusinessDemoDataset.lastProof_mem hq
  rw [hq, h q hmem p hp horder]

/-- A row of a shipment is a row of its order. -/
theorem Related.proof_order (h : Related d) {s : ShipmentRecord} {p : DeliveryProofRecord}
    (hs : s ∈ d.shipments) (hp : p ∈ d.deliveryProofs) (hid : p.shipmentId = s.shipmentId) :
    p.orderId = s.orderId := by
  obtain ⟨s', hs', hid', horder⟩ := h.proofs p hp
  rw [← horder, h.same_shipment hs' hs (hid'.trans hid)]

/-- A proof is lost exactly when its order has another one. -/
theorem proofsFound_iff (h : Related d) : ProofsFound d d.store ↔ OneProofPerOrder d := by
  constructor
  · intro hfound p hp q hq horder
    -- Both proofs are found for their shipments, and the order keeps one.
    have hkept : ∀ r ∈ d.deliveryProofs, d.lastProof r.orderId = some r := by
      intro r hr
      obtain ⟨s, hs, hid, hship⟩ := h.proofs r hr
      have hget := (hfound s hs).1 r hr hid.symm
      rw [BusinessDemoDataset.store_getDeliveryProof, Option.map_eq_some_iff] at hget
      obtain ⟨kept, hkept, hfixture⟩ := hget
      rw [← hship, (Option.filter_eq_some_iff.mp hkept).1,
        DeliveryProofRecord.fixture_inj.mp hfixture]
    have hboth := hkept p hp
    rw [horder, hkept q hq] at hboth
    exact (Option.some.inj hboth).symm
  · intro hone s hs
    refine ⟨fun p hp hid => ?_, fun hnone => ?_⟩
    · rw [BusinessDemoDataset.store_getDeliveryProof, ← h.proof_order hs hp hid,
        hone.lastProof hp, Option.filter_some, if_pos (decide_eq_true hid)]
      rfl
    · rw [BusinessDemoDataset.store_getDeliveryProof]
      cases hlast : d.lastProof s.orderId with
      | none => rfl
      | some p =>
        have hne := hnone p (BusinessDemoDataset.lastProof_mem hlast).1
        rw [Option.filter_some, if_neg (by simpa using hne)]
        rfl

end Proofs

/-! ### The revision of the proof tool -/

section Revision

variable [PodDigest] {d d' : BusinessDemoDataset}

omit [PodDigest] in
theorem reframe (version colon revision name mark digest : String) :
    version ++ colon ++ revision ++ colon ++ name ++ (mark ++ digest) ++ "" =
      version ++ colon ++ revision ++ (colon ++ name ++ mark) ++ digest := by
  rw [String.append_empty]
  simp only [String.append_assoc]

omit [PodDigest] in
/-- Texts of one length at the end of a text, and what stands before them, are told from it. -/
theorem framed_inj {before between a b c e : String} (hlen : c.length = e.length) :
    before ++ a ++ between ++ c = before ++ b ++ between ++ e ↔ a = b ∧ c = e := by
  constructor
  · intro h
    have hlists : (before.toList ++ a.toList ++ between.toList) ++ c.toList =
        (before.toList ++ b.toList ++ between.toList) ++ e.toList := by
      simpa only [String.toList_append] using congrArg String.toList h
    obtain ⟨hhead, hend⟩ := List.append_inj' hlists (by rwa [String.length_toList,
      String.length_toList])
    have hmiddle := List.append_cancel_left (List.append_cancel_right hhead)
    exact ⟨String.toList_injective hmiddle, String.toList_injective hend⟩
  · rintro ⟨rfl, rfl⟩
    rfl

/-- The revision of the proof tool for an order: of the order, and of the proof it keeps. -/
def BusinessDemoDataset.proofRevision (d : BusinessDemoDataset) (o : OrderRecord) : String :=
  "business-demo-v1" ++ ":" ++ o.sourceRevision ++ ":" ++ "get_delivery_proof" ++
    (":pod-" ++ PodDigest.digest ((d.lastProof o.orderId).map (·.fixture))) ++ ""

omit [PodDigest] in
theorem Related.store_order (h : Related d) {o : OrderRecord} (ho : o ∈ d.orders) :
    d.store.orders.find? (·.orderId = o.orderId) = some o.fixture :=
  Keyed.find_of_mem OrderFixture.orderId (a := o.fixture)
    (by show ((d.orders.map (·.fixture)).map _).Nodup; rw [List.map_map]; exact h.orderIds)
    (List.mem_map_of_mem ho)

theorem Related.store_sourceRevision (h : Related d) {o : OrderRecord} (ho : o ∈ d.orders) :
    d.store.sourceRevision o.orderId "get_delivery_proof" = some (d.proofRevision o) := by
  rw [FixtureStore.sourceRevision, h.store_order ho, Option.map_some, if_pos rfl,
    if_neg (by decide), BusinessDemoDataset.store_deliveryProofs]
  rfl

theorem BusinessDemoDataset.proofRevision_inj {o o' : OrderRecord} :
    d.proofRevision o = d'.proofRevision o' ↔ o.sourceRevision = o'.sourceRevision ∧
      PodDigest.digest ((d.lastProof o.orderId).map (·.fixture)) =
        PodDigest.digest ((d'.lastProof o'.orderId).map (·.fixture)) := by
  have hframed : ∀ (d : BusinessDemoDataset) (o : OrderRecord), d.proofRevision o =
      "business-demo-v1" ++ ":" ++ o.sourceRevision ++ (":" ++ "get_delivery_proof" ++ ":pod-") ++
        PodDigest.digest ((d.lastProof o.orderId).map (·.fixture)) :=
    fun _ _ => reframe ..
  rw [hframed, hframed]
  exact framed_inj ((PodDigest.length_digest _).trans (PodDigest.length_digest _).symm)

/-- The two datasets have the same proofs of an order. -/
def SameProofs (d d' : BusinessDemoDataset) (orderId : String) : Prop :=
  ∀ p, p ∈ d.proofsOf orderId ↔ p ∈ d'.proofsOf orderId

/-- The revision of the proof tool differs for every order whose proofs differ. -/
def RevisionsFollow (d d' : BusinessDemoDataset) (store store' : FixtureStore) : Prop :=
  ∀ o ∈ d.orders, ∀ o' ∈ d'.orders, o.orderId = o'.orderId → ¬ SameProofs d d' o.orderId →
    store.sourceRevision o.orderId "get_delivery_proof" ≠
      store'.sourceRevision o.orderId "get_delivery_proof"

/-- No two different proofs that the stores keep of one order have the same digest. -/
def DigestsApart (d d' : BusinessDemoDataset) : Prop :=
  ∀ orderId ∈ d.orderIds,
    PodDigest.digest ((d.lastProof orderId).map (·.fixture)) =
        PodDigest.digest ((d'.lastProof orderId).map (·.fixture)) →
      d.lastProof orderId = d'.lastProof orderId

/-- Where an order has the same revision and the same last proof, all its proofs are the same. -/
def LastProofsTell (d d' : BusinessDemoDataset) : Prop :=
  ∀ o ∈ d.orders, ∀ o' ∈ d'.orders, o.orderId = o'.orderId →
    o.sourceRevision = o'.sourceRevision → d.lastProof o.orderId = d'.lastProof o.orderId →
      SameProofs d d' o.orderId

omit [PodDigest] in
/-- With one proof an order the last one is all there is to tell. -/
theorem LastProofsTell.of_one (h : OneProofPerOrder d) (h' : OneProofPerOrder d') :
    LastProofsTell d d' := by
  have honly : ∀ {d d' : BusinessDemoDataset} {orderId : String}, OneProofPerOrder d →
      d.lastProof orderId = d'.lastProof orderId →
      ∀ p ∈ d.proofsOf orderId, p ∈ d'.proofsOf orderId := by
    intro d d' orderId hone hlast p hp
    obtain ⟨hmem, horder⟩ := BusinessDemoDataset.mem_proofsOf.mp hp
    have hkept := horder ▸ hone.lastProof hmem
    rw [hlast] at hkept
    exact BusinessDemoDataset.mem_proofsOf.mpr (BusinessDemoDataset.lastProof_mem hkept)
  intro o _ o' _ _ _ hlast p
  exact ⟨honly h hlast p, honly h' hlast.symm p⟩

theorem revisionsFollow_iff (h : Related d) (h' : Related d') (hdigest : DigestsApart d d') :
    RevisionsFollow d d' d.store d'.store ↔ LastProofsTell d d' := by
  have hsame : ∀ o ∈ d.orders, ∀ o' ∈ d'.orders, o.orderId = o'.orderId →
      (d.store.sourceRevision o.orderId "get_delivery_proof" =
          d'.store.sourceRevision o.orderId "get_delivery_proof" ↔
        o.sourceRevision = o'.sourceRevision ∧
          d.lastProof o.orderId = d'.lastProof o.orderId) := by
    intro o ho o' ho' hid
    have hright := h'.store_sourceRevision ho'
    rw [← hid] at hright
    rw [h.store_sourceRevision ho, hright, Option.some_inj,
      BusinessDemoDataset.proofRevision_inj, ← hid]
    exact and_congr_right fun _ =>
      ⟨hdigest o.orderId (List.mem_map_of_mem ho), fun hlast => by rw [hlast]⟩
  constructor
  · intro hfollow o ho o' ho' hid hrevision hlast
    by_contra hdiffer
    exact hfollow o ho o' ho' hid hdiffer ((hsame o ho o' ho' hid).mpr ⟨hrevision, hlast⟩)
  · intro htell o ho o' ho' hid hdiffer heq
    obtain ⟨hrevision, hlast⟩ := (hsame o ho o' ho' hid).mp heq
    exact hdiffer (htell o ho o' ho' hid hrevision hlast)

variable [DatasetTimes]

/-- The stores of two datasets find every proof of the first, and their revisions tell the proofs
    of the two apart. -/
def ProofsKept (d d' : BusinessDemoDataset) : Prop :=
  ∃ store store', businessDemoStore d = .ok store ∧ businessDemoStore d' = .ok store' ∧
    ProofsFound d store ∧ RevisionsFollow d d' store store'

omit [DatasetTimes] in
/-- Proofs are kept, and their changes seen, exactly when no order has two of them, and no order of
    one revision has other proofs beside the same last one. -/
theorem proofs_kept_iff [DatasetTimes] (hd : Accepted d) (hd' : Accepted d')
    (hdigest : DigestsApart d d') :
    ProofsKept d d' ↔ OneProofPerOrder d ∧ LastProofsTell d d' := by
  rw [← proofsFound_iff hd.related, ← revisionsFollow_iff hd.related hd'.related hdigest]
  constructor
  · rintro ⟨store, store', hstore, hstore', hkept⟩
    rw [hd.builds] at hstore
    rw [hd'.builds] at hstore'
    cases hstore
    cases hstore'
    exact hkept
  · exact fun hkept => ⟨d.store, d'.store, hd.builds, hd'.builds, hkept⟩

end Revision

/-! ### An order with two proofs -/

/-- Proofs are told apart by their ids. -/
abbrev PodDigest.byId : PodDigest where
  digest proof := String.ofList
    (((proof.elim "none" (·.proofId)).toList ++ List.replicate 16 '0').take 16)
  length_digest proof := by simp

/-- The two packages of the first order have a proof each, the first one as named. -/
def twoProofs (first : String) (h : filled first = true) : BusinessDemoDataset :=
  sampleDataset [] [⟨first, "AA", "A", "recipient", 10, none⟩, ⟨"q", "AB", "A", "agent", 20, none⟩]
    "opened" [] (by simp [DeliveryProofRecord.valid, h]; decide +kernel)

section

attribute [local instance] DatasetTimes.dayOne PodDigest.byId

theorem twoProofs_accepted : Accepted (twoProofs "p" rfl) ∧ Accepted (twoProofs "r" rfl) ∧
    DigestsApart (twoProofs "p" rfl) (twoProofs "r" rfl) := by
  unfold Accepted DigestsApart
  decide +kernel

/-- The proof of the first package is not found, and another one in its place goes unseen. -/
theorem firstProof_lost : (Accepted (twoProofs "p" rfl) ∧ Accepted (twoProofs "r" rfl) ∧
      DigestsApart (twoProofs "p" rfl) (twoProofs "r" rfl)) ∧
    ¬ ProofsFound (twoProofs "p" rfl) (twoProofs "p" rfl).store ∧
    ¬ RevisionsFollow (twoProofs "p" rfl) (twoProofs "r" rfl) (twoProofs "p" rfl).store
      (twoProofs "r" rfl).store := by
  have hlost : (twoProofs "p" rfl).store.getDeliveryProof "A" (some "AA") = none := by
    decide +kernel
  have hunseen : (twoProofs "p" rfl).store.sourceRevision "A" "get_delivery_proof" =
      (twoProofs "r" rfl).store.sourceRevision "A" "get_delivery_proof" := by
    decide +kernel
  refine ⟨twoProofs_accepted, fun hfound => ?_, fun hfollow => ?_⟩
  · have hget := (hfound ⟨"AA", "A", 1, 2, "t", "delivered", "x"⟩ (by decide +kernel)).1
      ⟨"p", "AA", "A", "recipient", 10, none⟩ (List.mem_cons_self ..) rfl
    rw [hlost] at hget
    cases hget
  · refine hfollow ⟨"A", "c", .processing, "t", "standard", "cn-east", none, none, "r"⟩
      (by decide +kernel) ⟨"A", "c", .processing, "t", "standard", "cn-east", none, none, "r"⟩
      (by decide +kernel) rfl (fun hsame => ?_) hunseen
    have hmem := (hsame ⟨"p", "AA", "A", "recipient", 10, none⟩).mp (by decide +kernel)
    exact absurd hmem (by decide +kernel)

/-- The first order has one proof, as named. -/
def oneProof (proof : String) (h : filled proof = true) : BusinessDemoDataset :=
  sampleDataset [] [⟨proof, "AA", "A", "recipient", 10, none⟩] "opened" []
    (by simp [DeliveryProofRecord.valid, h]; decide +kernel)

theorem oneProof_accepted : Accepted (oneProof "p" rfl) ∧ Accepted (oneProof "r" rfl) ∧
    DigestsApart (oneProof "p" rfl) (oneProof "r" rfl) := by
  unfold Accepted DigestsApart
  decide +kernel

theorem oneProof_one {proof : String} (h : filled proof = true) :
    OneProofPerOrder (oneProof proof h) := by
  intro p hp q hq _
  exact (List.mem_singleton.mp hp).trans (List.mem_singleton.mp hq).symm

/-- One proof in place of another is seen; beside a second proof of the order it is not. -/
theorem proofs_kept_oneProof : ProofsKept (oneProof "p" rfl) (oneProof "r" rfl) ∧
    ¬ ProofsKept (twoProofs "p" rfl) (twoProofs "r" rfl) := by
  obtain ⟨hp, hr, hdigest⟩ := oneProof_accepted
  obtain ⟨hp', hr', hdigest'⟩ := twoProofs_accepted
  refine ⟨(proofs_kept_iff hp hr hdigest).mpr ⟨oneProof_one rfl, ?_⟩, ?_⟩
  · exact .of_one (oneProof_one rfl) (oneProof_one rfl)
  · rw [proofs_kept_iff hp' hr' hdigest']
    rintro ⟨hone, -⟩
    have hsame := hone ⟨"p", "AA", "A", "recipient", 10, none⟩ (by decide +kernel)
      ⟨"q", "AB", "A", "agent", 20, none⟩ (by decide +kernel) rfl
    exact absurd hsame (by decide +kernel)

end

end AfterSales.BusinessDemo
