import AfterSales.Fixtures.DemoStore
import AfterSales.Policy.Binding
import Mathlib.Order.Defs.LinearOrder

/-! What runs on an accepted dataset: the policy corpus of its clauses, and the read tools.

    The same rows are checked three times, with other bounds each time: as rows of a dataset, as
    facts of a clause, as payloads of a tool. A row that passes the first check and not a later one
    stops the program when it starts, or a case when it reads the row. -/

namespace AfterSales.BusinessDemo

/-- A value that is checked as it is built. -/
def checked {α : Type} (valid : α → Bool) (value : α) : Except String α :=
  if valid value then .ok value else .error "ValidationError"

theorem checked_ok_iff {α : Type} {valid : α → Bool} {value : α} :
    (∃ v, checked valid value = .ok v) ↔ valid value = true := by
  rw [checked]
  split_ifs with h
  · exact iff_of_true ⟨value, rfl⟩ h
  · refine iff_of_false ?_ h
    rintro ⟨_, hvalid⟩
    cases hvalid

theorem validated_ok_iff {α : Type} {valid : α → Bool} {values : List α} :
    (∃ vs, validated valid values = .ok vs) ↔ ∀ v ∈ values, valid v = true := by
  rw [validated, ← List.all_eq_true]
  split_ifs with h
  · exact iff_of_true ⟨values, rfl⟩ h
  · refine iff_of_false ?_ h
    rintro ⟨_, hvalid⟩
    cases hvalid

theorem validated_eq {α : Type} {valid : α → Bool} {values vs : List α}
    (h : validated valid values = .ok vs) : vs = values := by
  rw [validated] at h
  split_ifs at h
  exact (Except.ok.inj h).symm

/-! ### The policy corpus -/

/-- `canonical_json_hash` of a clause's source material, under the id of its document. -/
class ClauseDigest where
  sourceHash : String → PolicyClauseRecord → String
  hex : ∀ document record, isSourceHash (sourceHash document record) = true

section Corpus

/-- `DOC-BUSINESS-DEMO-NN`. -/
def documentId (position : Nat) : String :=
  "DOC-BUSINESS-DEMO-" ++ (if position < 10 then "0" else "") ++ toString position

/-- The threshold that the facts of a row carry. -/
def PolicyClauseRecord.threshold (r : PolicyClauseRecord) : Option Nat :=
  if r.issueType = .stalledTracking then some r.stalledAfterHours else none

/-- What `PolicyFactSnapshot` demands of the facts of a row. -/
def PolicyClauseRecord.FactsValid (r : PolicyClauseRecord) (sourceHash : String) : Prop :=
  (∀ hours ∈ r.threshold, 1 ≤ hours) ∧ r.requiredEvidenceCodes ≠ [] ∧
    (∀ t ∈ r.effectiveTo, r.effectiveFrom < t) ∧ r.requiredEvidenceCodes.Nodup ∧
    (filled r.serviceLevel && filled r.region && filled r.policyVersion && filled r.clauseId) =
      true ∧ isSourceHash sourceHash = true

instance (r : PolicyClauseRecord) (sourceHash : String) : Decidable (r.FactsValid sourceHash) :=
  inferInstanceAs (Decidable (_ ∧ _ ∧ _ ∧ _ ∧ _ ∧ _))

theorem PolicyClauseRecord.threshold_isSome (r : PolicyClauseRecord) :
    r.threshold.isSome ↔ r.issueType = .stalledTracking := by
  rw [PolicyClauseRecord.threshold]
  split_ifs with h <;> simp [h]

/-- The facts of a row. -/
def PolicyClauseRecord.facts (r : PolicyClauseRecord) (sourceHash : String)
    (h : r.FactsValid sourceHash) : PolicyFactSnapshot where
  eligible := r.eligible
  stalledAfterHours := r.threshold
  requiredEvidenceCodes := r.requiredEvidenceCodes
  effectiveFrom := r.effectiveFrom
  effectiveTo := r.effectiveTo
  serviceLevel := r.serviceLevel
  region := r.region
  policyVersion := r.policyVersion
  clauseId := r.clauseId
  sourceHash := sourceHash
  issueType := r.issueType
  window := h.2.2.1
  threshold := r.threshold_isSome
  codesNodup := h.2.2.2.1

/-- What `PolicyClause` demands of the text of a row. -/
def PolicyClauseRecord.textValid (r : PolicyClauseRecord) : Bool :=
  filled r.customerSummary && r.customerSummary.length ≤ 2000

variable [ClauseDigest]

/-- The hash of the clause of a row in a position. -/
def PolicyClauseRecord.hash (r : PolicyClauseRecord) (position : Nat) : String :=
  ClauseDigest.sourceHash (documentId position) r

/-- The clause of a row, with the facts of the row. -/
def PolicyClauseRecord.withFacts (r : PolicyClauseRecord) (position : Nat)
    (h : r.FactsValid (r.hash position)) : PolicyClause where
  documentId := documentId position
  clauseId := r.clauseId
  normalizedFacts := r.facts (r.hash position) h
  contentHash := r.hash position
  poisoned := false
  clauseIdMatches := rfl
  contentHashMatches := rfl

/-- `_clause`. -/
def clause (position : Nat) (r : PolicyClauseRecord) : Except String PolicyClause :=
  if h : r.FactsValid (r.hash position) then
    if r.textValid then .ok (r.withFacts position h) else .error "ValidationError"
  else .error "ValidationError"

/-- The clauses of rows, in positions from the one given on. -/
def buildClauses (position : Nat) : List PolicyClauseRecord → Except String (List PolicyClause)
  | [] => .ok []
  | r :: rest => do
    let first ← clause position r
    let others ← buildClauses (position + 1) rest
    return first :: others

/-- What names a clause among all documents. -/
def identifier (c : PolicyClause) : String × String × String :=
  (c.documentId, c.normalizedFacts.policyVersion, c.clauseId)

/-- `PolicyCorpus(...)`. -/
def policyCorpus (corpusVersion : String) (clauses : List PolicyClause) :
    Except String PolicyCorpus :=
  if clauses = [] then .error "ValidationError"
  else if ¬ (clauses.map identifier).Nodup then
    .error "policy corpus contains duplicate document/clause identifiers"
  else if h : (clauses.map PolicyClause.resolutionKey).Nodup then .ok ⟨clauses, h, corpusVersion⟩
  else .error "policy version and clause ID must resolve uniquely"

/-- `build_business_demo_policy_corpus`. -/
def buildBusinessDemoPolicyCorpus (records : List PolicyClauseRecord) :
    Except String PolicyCorpus := do
  let clauses ← buildClauses 1 records
  policyCorpus "business-demo-policy-v1" clauses

/-- `verify`, of a corpus with a version of its own; one that was built is valid again. -/
def verify (corpus : PolicyCorpus) : Except String Unit :=
  if corpus.clauses.length < 10 then
    .error "runtime policy corpus must retain at least ten business clauses"
  else .ok ()

end Corpus

/-! ### Payloads of the read tools -/

structure ShipmentSummaryPayload where
  shipmentId : String
  packageSequence : Nat
  packageCount : Nat
  trackingNumber : String
  shipmentStatus : String
  carrierCode : String
  shippedAt : Option Instant
  deliveredAt : Option Instant
  lastUpdateAt : Option Instant

def ShipmentSummaryPayload.valid (p : ShipmentSummaryPayload) : Bool :=
  filled p.shipmentId && 1 ≤ p.packageSequence && 1 ≤ p.packageCount && filled p.trackingNumber &&
    filled p.shipmentStatus && filled p.carrierCode &&
    p.shippedAt.all fun shipped => p.deliveredAt.all (shipped ≤ ·)

structure ShipmentTimelinePayload where
  shipmentId : String
  packageSequence : Nat
  events : List TimelineEvent
  lastUpdateAt : Option Instant
  hoursSinceLastUpdate : Option ℚ

def ShipmentTimelinePayload.valid (p : ShipmentTimelinePayload) : Bool :=
  filled p.shipmentId && 1 ≤ p.packageSequence && p.hoursSinceLastUpdate.all (0 ≤ ·) &&
    (!p.events.isEmpty) = p.lastUpdateAt.isSome

structure OrderContextPayload where
  orderId : String
  orderStatus : OrderStatus
  trackingNumber : Option String
  serviceLevel : String
  region : String
  shippedAt : Option Instant
  deliveredAt : Option Instant
  shipments : List ShipmentSummaryPayload

def OrderContextPayload.valid (p : OrderContextPayload) : Bool :=
  filled p.orderId && filled p.serviceLevel && filled p.region

structure LogisticsTimelinePayload where
  orderId : String
  events : List TimelineEvent
  lastUpdateAt : Option Instant
  hoursSinceLastUpdate : Option ℚ
  shipmentTimelines : List ShipmentTimelinePayload

def LogisticsTimelinePayload.valid (p : LogisticsTimelinePayload) : Bool :=
  filled p.orderId && p.hoursSinceLastUpdate.all (0 ≤ ·) &&
    (!p.events.isEmpty) = p.lastUpdateAt.isSome

structure CarrierServiceAlertsPayload where
  orderId : String
  alerts : List CarrierAlert

def CarrierServiceAlertsPayload.valid (p : CarrierServiceAlertsPayload) : Bool := filled p.orderId

structure ExistingInvestigation where
  caseId : String
  orderId : String
  issueType : IssueType
  targetShipmentId : Option String
  stage : String
  updatedAt : Instant
  nextUpdateAt : Option Instant
  status : String
  createdAt : Instant

/-- The states that a payload may name. -/
def canonicalStates : List String :=
  ["investigating", "awaiting_customer_input", "awaiting_retry", "closed"]

def ExistingInvestigation.valid (p : ExistingInvestigation) : Bool :=
  filled p.caseId && filled p.orderId && filled p.stage && p.createdAt ≤ p.updatedAt &&
    p.status ∈ canonicalStates

structure ExistingLogisticsTicketsPayload where
  orderId : String
  issueType : IssueType
  existingInvestigations : List ExistingInvestigation

def ExistingLogisticsTicketsPayload.valid (p : ExistingLogisticsTicketsPayload) : Bool :=
  filled p.orderId

/-! ### Reads -/

/-- The time of the first event with this status. -/
def firstAt (status : String) (events : List TimelineEvent) : Option Instant :=
  (events.find? (·.status = status)).map (·.occurredAt)

/-- The time of the latest event. -/
def lastUpdate (events : List TimelineEvent) : Option Instant := (events.map (·.occurredAt)).max?

/-- The hours since then, and none for what is still to come. -/
def hoursSince (evaluatedAt : Instant) (last : Option Instant) : Option ℚ :=
  last.map fun t => max 0 (((evaluatedAt - t : Int) : ℚ) / 3600000000)

namespace FixtureStore

/-- The events of the order that name the shipment. -/
def shipmentEvents (store : FixtureStore) (orderId shipmentId : String) : List TimelineEvent :=
  (store.timelines orderId).filter (·.shipmentId = some shipmentId)

/-- The summary of one shipment. -/
def summaryOf (store : FixtureStore) (orderId : String) (s : ShipmentRecord) :
    ShipmentSummaryPayload :=
  let events := store.shipmentEvents orderId s.shipmentId
  ⟨s.shipmentId, s.packageSequence, s.packageCount, s.trackingNumber, s.shipmentStatus,
    s.carrierCode, firstAt "shipped" events, firstAt "delivered" events, lastUpdate events⟩

/-- `shipment_summary`. -/
def shipmentSummary (store : FixtureStore) (orderId : String) :
    Except String (List ShipmentSummaryPayload) :=
  validated (·.valid) <| ((store.shipments orderId).insertionSort
    fun a b => a.packageSequence ≤ b.packageSequence).map (store.summaryOf orderId)

/-- `shipment_timelines`. -/
def shipmentTimelines (store : FixtureStore) (orderId : String) (evaluatedAt : Instant) :
    Except String (List ShipmentTimelinePayload) := do
  let summaries ← store.shipmentSummary orderId
  validated (·.valid) <| summaries.map fun summary =>
    ⟨summary.shipmentId, summary.packageSequence, store.shipmentEvents orderId summary.shipmentId,
      summary.lastUpdateAt, hoursSince evaluatedAt summary.lastUpdateAt⟩

def activeStates : List String := ["investigating", "awaiting_customer_input", "awaiting_retry"]

/-- `get_active_investigations`. -/
def getActiveInvestigations (store : FixtureStore) (orderId : String) (issueType : IssueType)
    (targetShipmentId : Option String) : Except String (List ExistingInvestigation) :=
  validated (·.valid) <| (store.investigationCases.filter fun r =>
    r.orderId = orderId ∧ r.issueType = issueType ∧ r.caseState ∈ activeStates ∧
      (targetShipmentId = none ∨ r.targetShipmentId = none ∨
        r.targetShipmentId = targetShipmentId)).map fun r =>
    ⟨r.caseId, r.orderId, r.issueType, r.targetShipmentId, r.stage, r.updatedAt, r.nextUpdateAt,
      r.caseState, r.createdAt⟩

/-- The payload of `get_order_context`. -/
def getOrderContext (store : FixtureStore) (orderId : String) :
    Except String OrderContextPayload := do
  match store.orders.find? (·.orderId = orderId) with
  | none => .error "KeyError"
  | some o =>
    let shipments ← store.shipmentSummary orderId
    checked (·.valid) ⟨o.orderId, o.orderStatus, o.trackingNumber, o.serviceLevel, o.region,
      o.shippedAt, o.deliveredAt, shipments⟩

/-- The payload of `get_logistics_timeline`. -/
def getLogisticsTimeline (store : FixtureStore) (orderId : String) (evaluatedAt : Instant) :
    Except String LogisticsTimelinePayload := do
  let events := store.timelines orderId
  let timelines ← store.shipmentTimelines orderId evaluatedAt
  checked (·.valid) ⟨orderId, events, lastUpdate events, hoursSince evaluatedAt (lastUpdate events),
    timelines⟩

/-- The payload of `get_carrier_service_alerts`. -/
def getCarrierServiceAlerts (store : FixtureStore) (orderId : String) :
    Except String CarrierServiceAlertsPayload :=
  checked (·.valid) ⟨orderId, store.carrierAlerts orderId⟩

/-- The payload of `get_existing_logistics_tickets`; a new store has no tickets. -/
def getExistingLogisticsTickets (store : FixtureStore) (orderId : String) (issueType : IssueType)
    (targetShipmentId : Option String) : Except String ExistingLogisticsTicketsPayload := do
  let investigations ← store.getActiveInvestigations orderId issueType targetShipmentId
  checked (·.valid) ⟨orderId, issueType, investigations⟩

/-- Every source of the order is read, at any time and for any question. -/
structure ReadsAll (store : FixtureStore) (orderId : String) : Prop where
  context : ∃ p, store.getOrderContext orderId = .ok p
  timeline : ∀ evaluatedAt, ∃ p, store.getLogisticsTimeline orderId evaluatedAt = .ok p
  alerts : ∃ p, store.getCarrierServiceAlerts orderId = .ok p
  investigations : ∀ issueType target,
    ∃ p, store.getExistingLogisticsTickets orderId issueType target = .ok p

end FixtureStore

/-- A dataset runs: its store fills and every order of it is read, its corpus builds and
    verifies. -/
structure Runs [ClauseDigest] (d : BusinessDemoDataset) : Prop where
  store : ∃ store, businessDemoStore d = .ok store ∧ ∀ o ∈ d.orders, store.ReadsAll o.orderId
  corpus : ∃ corpus, buildBusinessDemoPolicyCorpus d.policyClauses = .ok corpus ∧
    verify corpus = .ok ()

/-- What the later checks demand beyond the dataset's own. -/
structure RuntimeReady (d : BusinessDemoDataset) : Prop where
  thresholds : ∀ c ∈ d.policyClauses, c.issueType = .stalledTracking → 1 ≤ c.stalledAfterHours
  windows : ∀ c ∈ d.policyClauses, c.effectiveTo ≠ some c.effectiveFrom
  codes : ∀ c ∈ d.policyClauses, c.requiredEvidenceCodes.Nodup
  texts : ∀ c ∈ d.policyClauses, c.customerSummary.length ≤ 2000
  tenClauses : 10 ≤ d.policyClauses.length
  departures : ∀ arrival ∈ d.trackingEvents, arrival.status = "delivered" →
    ∀ departure ∈ d.trackingEvents, departure.status = "shipped" →
      departure.shipmentId = arrival.shipmentId → ∃ earlier ∈ d.trackingEvents,
        earlier.status = "shipped" ∧ earlier.shipmentId = arrival.shipmentId ∧
          earlier.occurredAt ≤ arrival.occurredAt
  stages : ∀ c ∈ d.investigationCases, c.caseState ∈ FixtureStore.activeStates → c.stage ≠ ""

/-! ### Clauses that build -/

section Clauses

/-- What the facts and the text of a clause demand of a row beyond its own checks. -/
structure PolicyClauseRecord.Sound (r : PolicyClauseRecord) : Prop where
  threshold : r.issueType = .stalledTracking → 1 ≤ r.stalledAfterHours
  window : r.effectiveTo ≠ some r.effectiveFrom
  codes : r.requiredEvidenceCodes.Nodup
  text : r.customerSummary.length ≤ 2000

theorem PolicyClauseRecord.threshold_le (r : PolicyClauseRecord) :
    (∀ hours ∈ r.threshold, 1 ≤ hours) ↔
      (r.issueType = .stalledTracking → 1 ≤ r.stalledAfterHours) := by
  rw [PolicyClauseRecord.threshold]
  split_ifs with h <;> simp [h]

/-- A window that is not turned around is open unless it is empty. -/
theorem window_open_iff {start : Instant} {finish : Option Instant}
    (h : finish.all (start ≤ ·) = true) : (∀ t ∈ finish, start < t) ↔ finish ≠ some start := by
  cases finish with
  | none => simp
  | some t =>
    have hle : start ≤ t := of_decide_eq_true h
    constructor
    · intro hlt heq
      exact absurd (hlt t rfl) (by rw [Option.some.inj heq]; exact lt_irrefl start)
    · rintro hne u ⟨⟩
      exact lt_of_le_of_ne hle fun heq => hne (by rw [heq])

/-- A row of a dataset becomes a clause exactly when it is sound. -/
theorem PolicyClauseRecord.isSound_iff {r : PolicyClauseRecord} (h : r.valid = true)
    {hash : String} (hhash : isSourceHash hash = true) :
    r.FactsValid hash ∧ r.textValid = true ↔ r.Sound := by
  simp only [PolicyClauseRecord.valid, Bool.and_eq_true, decide_eq_true_eq] at h
  obtain ⟨⟨⟨⟨⟨⟨hid, hversion⟩, hlevel⟩, hregion⟩, hcodes⟩, hsummary⟩, hwindow⟩ := h
  rw [PolicyClauseRecord.FactsValid, r.threshold_le, window_open_iff hwindow, hid, hversion, hlevel,
    hregion, PolicyClauseRecord.textValid, hsummary]
  simp only [Bool.true_and, decide_eq_true_eq]
  constructor
  · rintro ⟨⟨hthreshold, -, hopen, hnodup, -⟩, htext⟩
    exact ⟨hthreshold, hopen, hnodup, htext⟩
  · rintro ⟨hthreshold, hopen, hnodup, htext⟩
    exact ⟨⟨hthreshold, hcodes, hopen, hnodup, trivial, hhash⟩, htext⟩

/-- Clauses of different ids make a corpus when there are any. -/
theorem policyCorpus_ok {version : String} {cs : List PolicyClause} (hne : cs ≠ [])
    (hkeys : (cs.map PolicyClause.resolutionKey).Nodup) :
    policyCorpus version cs = .ok ⟨cs, hkeys, version⟩ := by
  have hidentifiers : (cs.map identifier).Nodup := by
    refine List.Nodup.of_map Prod.snd ?_
    rw [List.map_map]
    exact hkeys
  rw [policyCorpus, if_neg hne, if_neg (not_not_intro hidentifiers), dif_pos hkeys]

theorem policyCorpus_clauses {version : String} {cs : List PolicyClause} {corpus : PolicyCorpus}
    (h : policyCorpus version cs = .ok corpus) : corpus.clauses = cs := by
  rw [policyCorpus] at h
  split_ifs at h
  cases h
  rfl

variable [ClauseDigest]

theorem clause_ok_iff {r : PolicyClauseRecord} (h : r.valid = true) (position : Nat) :
    (∃ c, clause position r = .ok c) ↔ r.Sound := by
  rw [← r.isSound_iff h (ClauseDigest.hex (documentId position) r), clause]
  split_ifs with hfacts htext
  · exact iff_of_true ⟨_, rfl⟩ ⟨hfacts, htext⟩
  · exact iff_of_false (fun hbuilt => hbuilt.choose_spec) fun hboth => htext hboth.2
  · exact iff_of_false (fun hbuilt => hbuilt.choose_spec) fun hboth => hfacts hboth.1

theorem clause_key {r : PolicyClauseRecord} {position : Nat} {c : PolicyClause}
    (h : clause position r = .ok c) : c.resolutionKey = (r.policyVersion, r.clauseId) := by
  rw [clause] at h
  split_ifs at h with hfacts htext
  cases h
  rfl

theorem buildClauses_ok_iff {rs : List PolicyClauseRecord} (h : ∀ r ∈ rs, r.valid = true) :
    ∀ position, (∃ cs, buildClauses position rs = .ok cs) ↔ ∀ r ∈ rs, r.Sound := by
  induction rs with
  | nil => exact fun position => iff_of_true ⟨[], rfl⟩ nofun
  | cons r rs ih =>
    intro position
    have hfirst := clause_ok_iff (h r (List.mem_cons_self ..)) position
    have hrest := ih (fun r' hr' => h r' (List.mem_cons_of_mem _ hr')) (position + 1)
    rw [List.forall_mem_cons, ← hfirst, ← hrest, buildClauses]
    cases clause position r with
    | error e =>
      constructor
      · rintro ⟨cs, hcs⟩
        cases hcs
      · rintro ⟨⟨c, hc⟩, -⟩
        cases hc
    | ok c =>
      cases buildClauses (position + 1) rs with
      | error e =>
        constructor
        · rintro ⟨cs, hcs⟩
          cases hcs
        · rintro ⟨-, cs, hcs⟩
          cases hcs
      | ok cs => exact iff_of_true ⟨c :: cs, rfl⟩ ⟨⟨c, rfl⟩, ⟨cs, rfl⟩⟩

theorem buildClauses_keys {rs : List PolicyClauseRecord} {cs : List PolicyClause} :
    ∀ {position}, buildClauses position rs = .ok cs →
      cs.map PolicyClause.resolutionKey = rs.map fun r => (r.policyVersion, r.clauseId) := by
  induction rs generalizing cs with
  | nil =>
    rintro position ⟨⟩
    rfl
  | cons r rs ih =>
    intro position h
    rw [buildClauses] at h
    cases hfirst : clause position r with
    | error e =>
      rw [hfirst] at h
      cases h
    | ok c =>
      cases hrest : buildClauses (position + 1) rs with
      | error e =>
        rw [hfirst, hrest] at h
        cases h
      | ok others =>
        rw [hfirst, hrest] at h
        cases h
        rw [List.map_cons, List.map_cons, clause_key hfirst, ih hrest]

variable [DatasetTimes] {d : BusinessDemoDataset}

omit [ClauseDigest] [DatasetTimes] in
theorem BusinessDemoDataset.clause_valid {r : PolicyClauseRecord} (hr : r ∈ d.policyClauses) :
    r.valid = true := by
  have h := d.rowsValid
  simp only [Bool.and_eq_true, List.all_eq_true] at h
  exact h.2 r hr

/-- The corpus of an accepted dataset builds and verifies when its clauses are sound and many. -/
theorem corpus_runs_iff (h : Accepted d) :
    (∃ corpus, buildBusinessDemoPolicyCorpus d.policyClauses = .ok corpus ∧
        verify corpus = .ok ()) ↔
      (∀ r ∈ d.policyClauses, r.Sound) ∧ 10 ≤ d.policyClauses.length := by
  rw [← buildClauses_ok_iff (fun _ => BusinessDemoDataset.clause_valid) 1,
    buildBusinessDemoPolicyCorpus]
  cases hbuilt : buildClauses 1 d.policyClauses with
  | error e => exact iff_of_false nofun fun hboth => nomatch hboth.1
  | ok cs =>
    have hkeys := buildClauses_keys hbuilt
    have hlength : cs.length = d.policyClauses.length := by
      simpa using congrArg List.length hkeys
    have hnodup : (cs.map PolicyClause.resolutionKey).Nodup := by
      rw [hkeys]
      refine List.Nodup.of_map Prod.snd ?_
      rw [List.map_map]
      exact h.related.clauseIds
    show (∃ corpus, policyCorpus _ cs = .ok corpus ∧ verify corpus = .ok ()) ↔ _
    constructor
    · rintro ⟨corpus, hcorpus, hverify⟩
      refine ⟨⟨cs, rfl⟩, ?_⟩
      rw [verify, policyCorpus_clauses hcorpus, hlength] at hverify
      split_ifs at hverify with hfew
      exact not_lt.mp hfew
    · rintro ⟨-, hmany⟩
      have hne : cs ≠ [] := by
        rintro rfl
        rw [← hlength, List.length_nil] at hmany
        omega
      refine ⟨⟨cs, hnodup, _⟩, policyCorpus_ok hne hnodup, ?_⟩
      rw [verify, if_neg (by rw [hlength]; omega)]

omit [ClauseDigest] [DatasetTimes] in
theorem length_pos_of_filled {s : String} (h : filled s = true) : 0 < s.length := by
  have hne : s ≠ "" := of_decide_eq_true h
  exact Nat.pos_of_ne_zero fun hzero => hne (String.length_eq_zero_iff.mp hzero)

omit [ClauseDigest] [DatasetTimes] in
/-- The facts of a row that builds meet the contract of facts. -/
theorem PolicyClauseRecord.facts_bounded {r : PolicyClauseRecord} {hash : String}
    (h : r.FactsValid hash) : (r.facts hash h).bounded = true := by
  obtain ⟨hthreshold, hcodes, -, -, hnamed, hhash⟩ := h
  simp only [Bool.and_eq_true] at hnamed
  obtain ⟨⟨⟨hlevel, hregion⟩, hversion⟩, hid⟩ := hnamed
  have hhours : r.threshold.all (1 ≤ ·) = true := by
    rw [Option.all_eq_true]
    exact fun hours hmem => decide_eq_true (hthreshold hours hmem)
  simp only [PolicyFactSnapshot.bounded, PolicyClauseRecord.facts, Bool.and_eq_true]
  exact ⟨⟨⟨⟨⟨⟨hhours, decide_eq_true hcodes⟩, decide_eq_true (length_pos_of_filled hlevel)⟩,
    decide_eq_true (length_pos_of_filled hregion)⟩,
    decide_eq_true (length_pos_of_filled hversion)⟩,
    decide_eq_true (length_pos_of_filled hid)⟩, hhash⟩

omit [DatasetTimes] in
theorem buildClauses_bounded {rs : List PolicyClauseRecord} {cs : List PolicyClause} :
    ∀ {position}, buildClauses position rs = .ok cs →
      ∀ c ∈ cs, c.normalizedFacts.bounded = true := by
  induction rs generalizing cs with
  | nil =>
    rintro position ⟨⟩ c hc
    cases hc
  | cons r rs ih =>
    intro position h
    rw [buildClauses] at h
    cases hfirst : clause position r with
    | error e =>
      rw [hfirst] at h
      cases h
    | ok c =>
      cases hrest : buildClauses (position + 1) rs with
      | error e =>
        rw [hfirst, hrest] at h
        cases h
      | ok others =>
        rw [hfirst, hrest] at h
        cases h
        rw [clause] at hfirst
        split_ifs at hfirst with hfacts
        cases hfirst
        exact List.forall_mem_cons.mpr ⟨PolicyClauseRecord.facts_bounded hfacts, ih hrest⟩

omit [DatasetTimes] in
/-- A corpus that was built holds facts that a binding can carry. -/
theorem buildBusinessDemoPolicyCorpus_bounded {rs : List PolicyClauseRecord}
    {corpus : PolicyCorpus} (h : buildBusinessDemoPolicyCorpus rs = .ok corpus) :
    corpus.Bounded := by
  rw [buildBusinessDemoPolicyCorpus] at h
  cases hbuilt : buildClauses 1 rs with
  | error e =>
    rw [hbuilt] at h
    cases h
  | ok cs =>
    rw [hbuilt] at h
    intro c hc
    rw [policyCorpus_clauses h] at hc
    exact buildClauses_bounded hbuilt c hc

end Clauses

/-! ### Reads that succeed -/

/-- The first that meets a condition in a list in order is before all that meet it. -/
theorem find?_le {α : Type} {r : α → α → Prop} {p : α → Bool} {a : α} {l : List α}
    (hsorted : l.Pairwise r) (hfind : l.find? p = some a) : ∀ b ∈ l, p b → a = b ∨ r a b := by
  induction hsorted with
  | nil => cases hfind
  | @cons c l hc _ ih =>
    intro b hb hpb
    by_cases hpc : p c = true
    · rw [List.find?_cons_of_pos hpc] at hfind
      cases hfind
      rcases List.mem_cons.mp hb with rfl | hb
      · exact .inl rfl
      · exact .inr (hc b hb)
    · rw [List.find?_cons_of_neg hpc] at hfind
      rcases List.mem_cons.mp hb with rfl | hb
      · exact absurd hpb hpc
      · exact ih hfind b hb hpb

/-- In a list in order of time, the first departure is not after the first arrival exactly when
    every arrival has a departure that is not after it, if there is any. -/
theorem firstAt_le_iff {events : List TimelineEvent}
    (hsorted : events.Pairwise fun a b => a.occurredAt ≤ b.occurredAt) :
    ((firstAt "shipped" events).all fun shipped =>
        (firstAt "delivered" events).all (shipped ≤ ·)) = true ↔
      ∀ arrival ∈ events, arrival.status = "delivered" →
        ∀ departure ∈ events, departure.status = "shipped" →
          ∃ earlier ∈ events, earlier.status = "shipped" ∧
            earlier.occurredAt ≤ arrival.occurredAt := by
  have hfirst : ∀ {status e}, events.find? (·.status = status) = some e →
      ∀ e' ∈ events, e'.status = status → e.occurredAt ≤ e'.occurredAt := by
    intro status e hfind e' he' hstatus
    rcases find?_le hsorted hfind e' he' (decide_eq_true hstatus) with rfl | hle
    · exact le_rfl
    · exact hle
  rw [firstAt, firstAt]
  cases hs : events.find? (·.status = "shipped") with
  | none =>
    refine iff_of_true rfl fun arrival _ _ departure hdeparture hstatus => ?_
    exact absurd (decide_eq_true hstatus) (List.find?_eq_none.mp hs departure hdeparture)
  | some shipped =>
    have hshipped : shipped.status = "shipped" := by simpa using List.find?_some hs
    have hmem := List.mem_of_find?_eq_some hs
    cases hd : events.find? (·.status = "delivered") with
    | none =>
      refine iff_of_true rfl fun arrival harrival hstatus => ?_
      exact absurd (decide_eq_true hstatus) (List.find?_eq_none.mp hd arrival harrival)
    | some delivered =>
      have hdelivered : delivered.status = "delivered" := by simpa using List.find?_some hd
      simp only [Option.map_some, Option.all_some, decide_eq_true_eq]
      constructor
      · intro hle arrival harrival hstatus departure _ _
        exact ⟨shipped, hmem, hshipped, hle.trans (hfirst hd arrival harrival hstatus)⟩
      · intro hall
        obtain ⟨earlier, hearlier, hstatus, hle⟩ :=
          hall delivered (List.mem_of_find?_eq_some hd) hdelivered shipped hmem hshipped
        exact (hfirst hs earlier hearlier hstatus).trans hle

section Reads

variable {d : BusinessDemoDataset}

/-- The arrivals of a shipment have a departure before them, if it departed. -/
def Departs (d : BusinessDemoDataset) (shipmentId : String) : Prop :=
  ∀ arrival ∈ d.trackingEvents, arrival.status = "delivered" → arrival.shipmentId = shipmentId →
    ∀ departure ∈ d.trackingEvents, departure.status = "shipped" →
      departure.shipmentId = shipmentId → ∃ earlier ∈ d.trackingEvents,
        earlier.status = "shipped" ∧ earlier.shipmentId = shipmentId ∧
          earlier.occurredAt ≤ arrival.occurredAt

instance : Std.Total fun a b : TimelineEvent => a.occurredAt ≤ b.occurredAt :=
  ⟨fun a b => le_total a.occurredAt b.occurredAt⟩

instance : IsTrans TimelineEvent fun a b => a.occurredAt ≤ b.occurredAt :=
  ⟨fun _ _ _ hab hbc => hab.trans hbc⟩

theorem BusinessDemoDataset.store_timelines (orderId : String) : d.store.timelines orderId =
    (entries orderId (d.trackingEvents.map fun r => (r.orderId, r.event))).insertionSort
      fun a b => a.occurredAt ≤ b.occurredAt := rfl

theorem BusinessDemoDataset.timelines_sorted (orderId : String) :
    (d.store.timelines orderId).Pairwise fun a b => a.occurredAt ≤ b.occurredAt :=
  List.pairwise_insertionSort _ _

/-- The events of a shipment are those of its rows. -/
theorem Related.mem_shipmentEvents (h : Related d) {s : ShipmentRecord} (hs : s ∈ d.shipments)
    {e : TimelineEvent} : e ∈ d.store.shipmentEvents s.orderId s.shipmentId ↔
      ∃ r ∈ d.trackingEvents, r.shipmentId = s.shipmentId ∧ r.event = e := by
  have hrows : e ∈ d.store.timelines s.orderId ↔
      ∃ r ∈ d.trackingEvents, r.orderId = s.orderId ∧ r.event = e := by
    rw [BusinessDemoDataset.store_timelines, List.mem_insertionSort]
    simp [entries, and_comm]
  rw [FixtureStore.shipmentEvents, List.mem_filter, hrows]
  constructor
  · rintro ⟨⟨r, hr, -, rfl⟩, hid⟩
    exact ⟨r, hr, Option.some.inj (of_decide_eq_true hid), rfl⟩
  · rintro ⟨r, hr, hid, rfl⟩
    obtain ⟨s', hs', hid', horder⟩ := h.events r hr
    rw [h.same_shipment hs' hs (hid'.trans hid)] at horder
    exact ⟨⟨r, hr, horder.symm, rfl⟩, decide_eq_true (congrArg some hid)⟩

theorem BusinessDemoDataset.shipment_valid {s : ShipmentRecord} (hs : s ∈ d.shipments) :
    s.valid = true := by
  have h := d.rowsValid
  simp only [Bool.and_eq_true, List.all_eq_true] at h
  exact h.1.1.1.1.1.1.1.2 s hs

theorem Related.summary_valid_iff (h : Related d) {s : ShipmentRecord} (hs : s ∈ d.shipments) :
    (d.store.summaryOf s.orderId s).valid = true ↔ Departs d s.shipmentId := by
  have hrow := BusinessDemoDataset.shipment_valid hs
  simp only [ShipmentRecord.valid, Bool.and_eq_true, decide_eq_true_eq] at hrow
  obtain ⟨⟨⟨⟨⟨⟨hid, -⟩, hsequence⟩, hcount⟩, htracking⟩, hstatus⟩, hcarrier⟩ := hrow
  rw [ShipmentSummaryPayload.valid, FixtureStore.summaryOf]
  simp only [hid, hsequence, hcount, htracking, hstatus, hcarrier, decide_true, Bool.true_and]
  have hsorted : (d.store.shipmentEvents s.orderId s.shipmentId).Pairwise
      fun a b => a.occurredAt ≤ b.occurredAt :=
    (BusinessDemoDataset.timelines_sorted s.orderId).filter _
  rw [firstAt_le_iff hsorted]
  simp only [h.mem_shipmentEvents hs]
  constructor
  · intro hall arrival harrival hdelivered hs departure hdeparture hshipped hs'
    obtain ⟨_, ⟨earlier, hearlier, hid', rfl⟩, hstatus', hle⟩ :=
      hall _ ⟨arrival, harrival, hs, rfl⟩ hdelivered _ ⟨departure, hdeparture, hs', rfl⟩ hshipped
    exact ⟨earlier, hearlier, hstatus', hid', hle⟩
  · rintro hall _ ⟨arrival, harrival, hs, rfl⟩ hdelivered _ ⟨departure, hdeparture, hs', rfl⟩
      hshipped
    obtain ⟨earlier, hearlier, hstatus', hid', hle⟩ :=
      hall arrival harrival hdelivered hs departure hdeparture hshipped hs'
    exact ⟨_, ⟨earlier, hearlier, hid', rfl⟩, hstatus', hle⟩

/-- An order is summarized exactly when every shipment of it departs before it arrives. -/
theorem Related.shipmentSummary_ok_iff (h : Related d) (orderId : String) :
    (∃ ps, d.store.shipmentSummary orderId = .ok ps) ↔
      ∀ s ∈ d.shipments, s.orderId = orderId → Departs d s.shipmentId := by
  rw [FixtureStore.shipmentSummary, validated_ok_iff]
  simp only [List.mem_map, List.mem_insertionSort, forall_exists_index, and_imp,
    forall_apply_eq_imp_iff₂]
  have hshipments : ∀ s, s ∈ d.store.shipments orderId ↔ s ∈ d.shipments ∧ s.orderId = orderId := by
    intro s
    rw [show d.store.shipments orderId = d.shipments.filter (·.orderId = orderId) from rfl,
      List.mem_filter, decide_eq_true_eq]
  simp only [hshipments]
  constructor
  · rintro hall s hs rfl
    exact (h.summary_valid_iff hs).mp (hall s ⟨hs, rfl⟩)
  · rintro hall s ⟨hs, rfl⟩
    exact (h.summary_valid_iff hs).mpr (hall s hs rfl)

theorem hoursSince_nonneg (evaluatedAt : Instant) (last : Option Instant) :
    (hoursSince evaluatedAt last).all (0 ≤ ·) = true := by
  cases last with
  | none => rfl
  | some t => exact decide_eq_true (le_max_left _ _)

theorem lastUpdate_isSome (events : List TimelineEvent) :
    (!events.isEmpty) = (lastUpdate events).isSome := by
  rw [lastUpdate]
  cases events with
  | nil => rfl
  | cons e events => simp [List.max?]

/-- What is read of the shipments of an order does not depend on the time. -/
theorem FixtureStore.shipmentTimelines_ok_iff (store : FixtureStore) (orderId : String)
    (evaluatedAt : Instant) : (∃ ps, store.shipmentTimelines orderId evaluatedAt = .ok ps) ↔
      ∃ ps, store.shipmentSummary orderId = .ok ps := by
  rw [FixtureStore.shipmentTimelines]
  cases hsummary : store.shipmentSummary orderId with
  | error e => exact iff_of_false nofun nofun
  | ok summaries =>
    refine iff_of_true (validated_ok_iff.mpr ?_) ⟨summaries, rfl⟩
    have hvalid := validated_ok_iff.mp ⟨summaries, hsummary⟩
    rw [← validated_eq hsummary] at hvalid
    simp only [List.forall_mem_map]
    intro summary hmem
    have hrow := hvalid summary hmem
    rw [validated_eq hsummary] at hmem
    obtain ⟨s, -, rfl⟩ := List.mem_map.mp hmem
    simp only [ShipmentSummaryPayload.valid, Bool.and_eq_true] at hrow
    obtain ⟨⟨⟨⟨⟨⟨hid, hsequence⟩, -⟩, -⟩, -⟩, -⟩, -⟩ := hrow
    have hevents := lastUpdate_isSome (store.shipmentEvents orderId s.shipmentId)
    simp only [ShipmentTimelinePayload.valid, Bool.and_eq_true, decide_eq_true_eq]
    exact ⟨⟨⟨hid, of_decide_eq_true hsequence⟩, hoursSince_nonneg _ _⟩, hevents⟩

theorem BusinessDemoDataset.case_valid {c : InvestigationCaseRecord}
    (hc : c ∈ d.investigationCases) : c.valid = true := by
  have h := d.rowsValid
  simp only [Bool.and_eq_true, List.all_eq_true] at h
  exact h.1.1.1.2 c hc

/-- A case that is read becomes a payload exactly when it is in some stage. -/
theorem case_payload_iff {c : InvestigationCaseRecord} (h : c.valid = true)
    (hactive : c.caseState ∈ FixtureStore.activeStates) :
    ExistingInvestigation.valid ⟨c.caseId, c.orderId, c.issueType, c.targetShipmentId, c.stage,
      c.updatedAt, c.nextUpdateAt, c.caseState, c.createdAt⟩ = true ↔ c.stage ≠ "" := by
  simp only [InvestigationCaseRecord.valid, Bool.and_eq_true] at h
  obtain ⟨⟨⟨⟨⟨hid, -⟩, horder⟩, -⟩, -⟩, htimes⟩ := h
  have hcanonical : c.caseState ∈ canonicalStates := by
    simp only [FixtureStore.activeStates, canonicalStates, List.mem_cons] at hactive ⊢
    rcases hactive with h | h | h | h
    · exact .inl h
    · exact .inr (.inl h)
    · exact .inr (.inr (.inl h))
    · cases h
  rw [ExistingInvestigation.valid, hid, horder, htimes, decide_eq_true hcanonical]
  simp [filled]

/-- The cases of an order are read, for any question, exactly when the active ones have a stage. -/
theorem investigations_ok_iff (orderId : String) :
    (∀ issueType target, ∃ ps, d.store.getActiveInvestigations orderId issueType target = .ok ps) ↔
      ∀ c ∈ d.investigationCases, c.orderId = orderId →
        c.caseState ∈ FixtureStore.activeStates → c.stage ≠ "" := by
  simp only [FixtureStore.getActiveInvestigations, validated_ok_iff, List.forall_mem_map,
    List.mem_filter, decide_eq_true_eq]
  constructor
  · rintro hall c hc rfl hactive
    exact (case_payload_iff (BusinessDemoDataset.case_valid hc) hactive).mp
      (hall c.issueType none c ⟨hc, rfl, rfl, hactive, .inl rfl⟩)
  · rintro hall issueType target c ⟨hc, rfl, -, hactive, -⟩
    exact (case_payload_iff (BusinessDemoDataset.case_valid hc) hactive).mpr (hall c hc rfl hactive)

/-- Every source of an order is read exactly when its shipments depart before they arrive, and its
    active cases have a stage. -/
theorem Related.readsAll_iff (h : Related d) {o : OrderRecord} (ho : o ∈ d.orders) :
    d.store.ReadsAll o.orderId ↔
      (∀ s ∈ d.shipments, s.orderId = o.orderId → Departs d s.shipmentId) ∧
        ∀ c ∈ d.investigationCases, c.orderId = o.orderId →
          c.caseState ∈ FixtureStore.activeStates → c.stage ≠ "" := by
  have hvalid := BusinessDemoDataset.order_valid ho
  simp only [OrderFixture.valid, Bool.and_eq_true] at hvalid
  obtain ⟨⟨⟨⟨hid, -⟩, hlevel⟩, hregion⟩, -⟩ := hvalid
  rw [← h.shipmentSummary_ok_iff, ← investigations_ok_iff]
  constructor
  · intro hreads
    refine ⟨?_, fun issueType target => ?_⟩
    · obtain ⟨p, hp⟩ := hreads.timeline 0
      rw [FixtureStore.getLogisticsTimeline] at hp
      rw [← d.store.shipmentTimelines_ok_iff o.orderId 0]
      cases htimelines : d.store.shipmentTimelines o.orderId 0 with
      | error e =>
        rw [htimelines] at hp
        cases hp
      | ok timelines => exact ⟨timelines, rfl⟩
    · obtain ⟨p, hp⟩ := hreads.investigations issueType target
      rw [FixtureStore.getExistingLogisticsTickets] at hp
      cases hcases : d.store.getActiveInvestigations o.orderId issueType target with
      | error e =>
        rw [hcases] at hp
        cases hp
      | ok cases => exact ⟨cases, rfl⟩
  · rintro ⟨⟨summaries, hsummary⟩, hcases⟩
    refine ⟨?_, fun evaluatedAt => ?_, checked_ok_iff.mpr hid, fun issueType target => ?_⟩
    · rw [FixtureStore.getOrderContext, h.store_order ho, hsummary]
      refine checked_ok_iff.mpr ?_
      rw [OrderContextPayload.valid, hid, hlevel, hregion]
      rfl
    · obtain ⟨timelines, htimelines⟩ :=
        (d.store.shipmentTimelines_ok_iff o.orderId evaluatedAt).mpr ⟨summaries, hsummary⟩
      rw [FixtureStore.getLogisticsTimeline, htimelines]
      refine checked_ok_iff.mpr ?_
      have hevents := lastUpdate_isSome (d.store.timelines o.orderId)
      simp only [LogisticsTimelinePayload.valid, Bool.and_eq_true, decide_eq_true_eq]
      exact ⟨⟨hid, hoursSince_nonneg _ _⟩, hevents⟩
    · obtain ⟨investigations, hinvestigations⟩ := hcases issueType target
      rw [FixtureStore.getExistingLogisticsTickets, hinvestigations]
      exact checked_ok_iff.mpr hid

variable [DatasetTimes] [ClauseDigest]

/-- An accepted dataset runs exactly when it meets what the later checks demand. -/
theorem runs_iff (h : Accepted d) : Runs d ↔ RuntimeReady d := by
  have hstore : (∃ store, businessDemoStore d = .ok store ∧
      ∀ o ∈ d.orders, store.ReadsAll o.orderId) ↔ ∀ o ∈ d.orders, d.store.ReadsAll o.orderId := by
    rw [h.builds]
    constructor
    · rintro ⟨store, heq, hreads⟩
      cases heq
      exact hreads
    · exact fun hreads => ⟨d.store, rfl, hreads⟩
  constructor
  · rintro ⟨hreads, hcorpus⟩
    obtain ⟨hsound, hmany⟩ := (corpus_runs_iff h).mp hcorpus
    have hreads := hstore.mp hreads
    refine ⟨fun c hc => (hsound c hc).threshold, fun c hc => (hsound c hc).window,
      fun c hc => (hsound c hc).codes, fun c hc => (hsound c hc).text, hmany,
      fun arrival harrival hdelivered departure hdeparture hshipped hid => ?_, fun c hc => ?_⟩
    · obtain ⟨s, hs, hship, -⟩ := h.related.events arrival harrival
      obtain ⟨o, ho, horder⟩ := List.mem_map.mp (h.related.shipments s hs)
      have hdeparts := ((h.related.readsAll_iff ho).mp (hreads o ho)).1 s hs horder.symm
      rw [← hship]
      exact hdeparts arrival harrival hdelivered hship.symm departure hdeparture hshipped
        (hid.trans hship.symm)
    · obtain ⟨o, ho, horder⟩ := List.mem_map.mp (h.related.cases c hc)
      exact ((h.related.readsAll_iff ho).mp (hreads o ho)).2 c hc horder.symm
  · intro hready
    refine ⟨hstore.mpr fun o ho => (h.related.readsAll_iff ho).mpr ⟨fun s hs horder => ?_,
      fun c hc _ => hready.stages c hc⟩, (corpus_runs_iff h).mpr ⟨fun c hc =>
        ⟨hready.thresholds c hc, hready.windows c hc, hready.codes c hc, hready.texts c hc⟩,
      hready.tenClauses⟩⟩
    intro arrival harrival hdelivered hid departure hdeparture hshipped hid'
    rw [← hid]
    exact hready.departures arrival harrival hdelivered departure hdeparture hshipped
      (hid'.trans hid.symm)

end Reads

/-! ### Clauses without a window -/

/-- Every clause has the same hash. -/
abbrev ClauseDigest.zeros : ClauseDigest where
  sourceHash _ _ := String.ofList (List.replicate 64 '0')
  hex _ _ := by
    rw [isSourceHash, String.length_ofList, String.toList_ofList, List.length_replicate]
    rfl

/-- Ten clauses, in force from the first instant to the one given. -/
def tenClauses (finish : Instant) : List PolicyClauseRecord :=
  (List.range 10).map fun i =>
    ⟨letter i, "v", .stalledTracking, "standard", "cn-east", true, 72, 0, some finish, ["e"], "s"⟩

/-- A dataset of ten clauses whose windows end at `finish`. -/
def clausesUntil (finish : Instant) (h : decide (0 ≤ finish) = true) : BusinessDemoDataset :=
  sampleDataset [] [] "opened" (tenClauses finish) (by
    have hall : (tenClauses finish).all (·.valid) = true := by
      rw [List.all_eq_true]
      intro r hr
      obtain ⟨i, -, rfl⟩ := List.mem_map.mp hr
      have hid : filled (letter i) = true := by
        simp [filled, letter]
      simp only [PolicyClauseRecord.valid, hid, Option.all_some, h]
      rfl
    rw [hall]
    rfl)

section

attribute [local instance] DatasetTimes.dayOne ClauseDigest.zeros

/-- The clauses of an accepted dataset end when they begin, and no corpus is built from them. -/
theorem emptyWindow_stops : Accepted (clausesUntil 0 rfl) ∧ ¬ Runs (clausesUntil 0 rfl) := by
  refine ⟨by unfold Accepted; decide +kernel, fun hruns => ?_⟩
  obtain ⟨corpus, hcorpus, -⟩ := hruns.corpus
  have hfails : (buildBusinessDemoPolicyCorpus (clausesUntil 0 rfl).policyClauses).isOk = false := by
    decide +kernel
  rw [hcorpus] at hfails
  cases hfails

theorem runs_iff_clausesUntil : Runs (clausesUntil 1 rfl) ↔ RuntimeReady (clausesUntil 1 rfl) :=
  runs_iff (by unfold Accepted; decide +kernel)

end

end AfterSales.BusinessDemo
