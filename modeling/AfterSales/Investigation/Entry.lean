import AfterSales.CaseFacts.Facts
import AfterSales.Investigation.Service
import AfterSales.Policy.GateSoundness

/-! The customer facts an investigation starts with, by the operation that starts it.

    Five operations start an investigation. A reply to a fact question hands over what the snapshot
    of the case says, and the first message what it states itself; a retry, an issue revision and a
    reply that names a package leave the facts at their defaults. The gate reads these facts in the
    last rows of the signed-but-missing table alone, and there the defaults decide differently as
    soon as the case says something else. -/

namespace AfterSales
open Cascade

/-- The operations that start an investigation. -/
inductive InvestigationEntry where | newCase | factReply | targetReply | retry | issueRevision
  deriving DecidableEq, Repr

def receptionLocationCues : List String := ["前台", "门卫", "邻居", "家人", "代收点", "快递柜", "柜"]
def locationDenialCues : List String :=
  ["没有我的包裹", "没找到我的包裹", "确认没有", "也没有", "这里没有", "不在前台", "不在门卫",
    "不在邻居", "不在家人", "不在代收点", "不在柜"]

/-- `_delivery_location_conflict`: the customer denies the reception location in text. -/
def deliveryLocationConflict [CaseFolding] (message : String) : Bool :=
  let normalized := CaseFolding.casefold message
  mentions normalized receptionLocationCues && mentions normalized locationDenialCues

/-- What the case says: its snapshot, and the conflict its latest customer message states. -/
def CaseFactProjection.customerFlags [CaseFolding] (snapshot : CaseFactProjection)
    (message : String) : CustomerFlags where
  customerStillReportsMissing := snapshot.customerStillReportsMissing
  receptionLocationsChecked := snapshot.receptionLocationsChecked
  deliveryLocationConflict := deliveryLocationConflict message

/-- The customer facts that each operation hands to the investigation. -/
def InvestigationEntry.flags [CaseFolding] (entry : InvestigationEntry)
    (snapshot : CaseFactProjection) (message : String) : CustomerFlags :=
  match entry with
  | .factReply => snapshot.customerFlags message
  | .newCase => { deliveryLocationConflict := deliveryLocationConflict message }
  | .targetReply | .retry | .issueRevision => {}

/-- A case is created with nothing known; the other operations find it in any state. -/
def InvestigationEntry.Starts (entry : InvestigationEntry) (snapshot : CaseFactProjection) : Prop :=
  entry = .newCase → ∀ code, (snapshot.facts code).status = .unknown

variable [PolicyDigest]

/-! ### Where the gate reads the customer facts -/

/-- A signed-but-missing record with other customer facts. -/
def SignedNotReceivedEvidence.withFlags (facts : SignedNotReceivedEvidence)
    (flags : CustomerFlags) : SignedNotReceivedEvidence :=
  { facts with
    customerStillReportsMissing := flags.customerStillReportsMissing
    receptionLocationsChecked := flags.receptionLocationsChecked
    deliveryLocationConflict := flags.deliveryLocationConflict }

/-- An evidence record with other customer facts; the stalled record has none. -/
def GateEvidence.withFlags (flags : CustomerFlags) : GateEvidence → GateEvidence
  | .signedNotReceived facts => .signedNotReceived (facts.withFlags flags)
  | .stalledTracking facts => .stalledTracking facts

theorem gateEvidence_withFlags [ResultDigest] (issueType : IssueType) (results : ToolResults)
    (args : GateArguments) (order : ToolResult OrderContextPayload) (flags : CustomerFlags) :
    gateEvidence issueType results { args with flags := flags } order =
      (gateEvidence issueType results args order).map (.withFlags flags) := by
  unfold gateEvidence
  cases ticketResult issueType results order with
  | none => rfl
  | some tickets =>
    cases htimeline : results .getLogisticsTimeline with
    | none => rfl
    | some timeline =>
      cases hpolicy : results .searchAfterSalesPolicy with
      | none => rfl
      | some policy =>
        cases issueType with
        | stalledTracking => rfl
        | signedNotReceived =>
          cases hproof : results .getDeliveryProof with
          | none => rfl
          | some proof => rfl

/-- Only a signed-but-missing case has a signed-but-missing record. -/
theorem issue_of_signed_evidence [ResultDigest] {issueType : IssueType} {results : ToolResults}
    {args : GateArguments} {order : ToolResult OrderContextPayload}
    {facts : SignedNotReceivedEvidence}
    (h : gateEvidence issueType results args order = some (.signedNotReceived facts)) :
    issueType = .signedNotReceived := by
  cases issueType with
  | signedNotReceived => rfl
  | stalledTracking =>
    unfold gateEvidence at h
    simp only [Option.bind_eq_bind, Option.bind_eq_some_iff, Option.pure_def] at h
    obtain ⟨tickets, _, timeline, _, policy, _, hrecord⟩ := h
    cases hrecord

/-- The signed-but-missing record of a gate that gets as far as the customer's facts. -/
def customerRowsReached [ResultDigest] (issueType : IssueType) (results : ToolResults)
    (args : GateArguments) : Option SignedNotReceivedEvidence :=
  if args.budgetExceeded then none
  else
    match results .getOrderContext with
    | none => none
    | some order =>
      if (revisedByOrder issueType order args.targetShipmentId).isSome ∨
          (∃ existing ∈ results .getExistingLogisticsTickets,
            existing.executionStatus = .success ∧ activeTicket existing) then none
      else
        match gateEvidence issueType results args order with
        | some (.signedNotReceived facts) =>
          if signedEvidenceRows facts = none then some facts else none
        | _ => none

/-- The outcome of the last rows of the signed-but-missing table. -/
def customerOutcome (facts : SignedNotReceivedEvidence) (flags : CustomerFlags) :
    EvidenceGateResult :=
  (signedCustomerRows (facts.withFlags flags)).getD (signedProposal facts)

/-- The customer facts matter in these rows alone. -/
theorem evaluateGate_withFlags [ResultDigest] (issueType : IssueType) (results : ToolResults)
    (args : GateArguments) (flags : CustomerFlags) :
    evaluateGate issueType results { args with flags := flags } =
      match customerRowsReached issueType results args with
      | some facts => customerOutcome facts flags
      | none => evaluateGate issueType results args := by
  unfold evaluateGate customerRowsReached
  by_cases hbudget : args.budgetExceeded
  · simp [hbudget]
  · simp only [if_neg hbudget]
    cases horder : results .getOrderContext with
    | none => rfl
    | some order =>
      simp only
      cases hrevised : revisedByOrder issueType order args.targetShipmentId with
      | some revised => simp
      | none =>
        simp only [Option.isSome_none, Bool.false_eq_true, false_or]
        cases hexisting : (results .getExistingLogisticsTickets).filter fun existing =>
            existing.executionStatus = .success ∧ activeTicket existing with
        | some existing =>
          obtain ⟨hmem, hactive⟩ := Option.filter_eq_some_iff.mp hexisting
          rw [if_pos ⟨existing, hmem, by simpa using hactive⟩]
        | none =>
          rw [if_neg (by
            rintro ⟨existing, hmem, hactive⟩
            have := Option.filter_eq_none_iff.mp hexisting existing hmem
            simp [hactive] at this)]
          rw [gateEvidence_withFlags issueType results args order flags]
          cases hevidence : gateEvidence issueType results args order with
          | none => rfl
          | some evidence =>
            cases evidence with
            | stalledTracking facts => rfl
            | signedNotReceived facts =>
              obtain rfl := issue_of_signed_evidence hevidence
              have hrows : signedEvidenceRows (facts.withFlags flags) = signedEvidenceRows facts :=
                rfl
              simp only [Option.map_some, GateEvidence.withFlags, evaluateComplete,
                evaluateEvidenceGate, Option.getD_some, evaluateSignedNotReceived, hrows]
              cases signedEvidenceRows facts with
              | none => rfl
              | some r => rfl

omit [PolicyDigest] in
/-- An incomplete delivery proof never settles the case without action. -/
theorem unavailableResult_ne_resolved {named other : NamedResults} {exhausted : Bool}
    {reasonCode : String} :
    unavailableResult named exhausted ≠ some (gateResult .completeNoAction reasonCode other) := by
  unfold unavailableResult
  simp only
  split
  · simp
  · intro h
    rw [Option.some.injEq] at h
    have hdecision := congrArg EvidenceGateResult.outcome h
    simp only [gateResult, GateOutcome.decision.injEq] at hdecision
    split at hdecision <;> cases hdecision

/-- The row on a delivery proof that did not complete. -/
def proofUnavailable (facts : SignedNotReceivedEvidence) : Option EvidenceGateResult :=
  unavailableResult [("delivery_proof", facts.deliveryProof.head)] facts.criticalRetryExhausted

/-- The defaults decide like the case exactly when the customer still reports the parcel as missing
    and, once the proof is there, states no conflict and has no location left to check. -/
theorem customerOutcome_eq_default_iff (facts : SignedNotReceivedEvidence) (flags : CustomerFlags) :
    customerOutcome facts {} = customerOutcome facts flags ↔
      flags.customerStillReportsMissing ∧ (proofUnavailable facts = none →
        ¬ flags.deliveryLocationConflict ∧
          ¬ (receptionTypeProof facts.deliveryProof ∧ flags.receptionLocationsChecked)) := by
  have hrows : ∀ f : CustomerFlags, signedCustomerRows (facts.withFlags f) =
      test (¬ f.customerStillReportsMissing)
        (gateResult .completeNoAction "CUSTOMER_REPORT_RESOLVED" (prePodCritical facts))
        (guard (proofUnavailable facts)
          (test f.deliveryLocationConflict
            (gateResult .requireHumanSupport "DELIVERY_EVIDENCE_CONFLICT"
              (prePodCritical facts ++ [("delivery_proof", facts.deliveryProof.head)]))
            (test (receptionTypeProof facts.deliveryProof ∧ ¬ f.receptionLocationsChecked)
              (gateResult .requestBusinessClarification "CHECK_RECEPTION_LOCATION"
                (prePodCritical facts ++ [("delivery_proof", facts.deliveryProof.head)]))
              none))) := fun f => rfl
  obtain ⟨missing, checked, conflict⟩ := flags
  unfold customerOutcome
  rw [hrows, hrows]
  cases hproof : proofUnavailable facts with
  | some r =>
    have hne : r ≠ gateResult .completeNoAction "CUSTOMER_REPORT_RESOLVED" (prePodCritical facts) :=
      fun h => unavailableResult_ne_resolved (h ▸ hproof)
    cases missing with
    | true => simp [test, Cascade.guard]
    | false => simp [test, Cascade.guard, hne]
  | none =>
    cases missing <;> cases checked <;> cases conflict <;>
      by_cases hreception : receptionTypeProof facts.deliveryProof = true <;>
      simp [test, Cascade.guard, hreception, gateResult, signedProposal]

/-! ### The entries agree -/

omit [PolicyDigest] in
/-- An entry hands over what the case says, or the defaults. -/
theorem InvestigationEntry.flags_cases [CaseFolding] {entry : InvestigationEntry}
    {snapshot : CaseFactProjection} (message : String) (h : entry.Starts snapshot) :
    entry.flags snapshot message = snapshot.customerFlags message ∨
      entry.flags snapshot message = {} := by
  cases entry with
  | factReply => exact Or.inl rfl
  | newCase =>
    have hnothing := h rfl
    simp [flags, CaseFactProjection.customerFlags, CaseFactProjection.customerStillReportsMissing,
      CaseFactProjection.receptionLocationsChecked, hnothing]
  | targetReply => exact Or.inr rfl
  | retry => exact Or.inr rfl
  | issueRevision => exact Or.inr rfl

/-- Whatever operation starts the investigation, the gate decides as on the facts of the case,
    exactly when it does not get as far as the customer's facts or the case says there what the
    defaults say. -/
theorem entries_agree_iff [ResultDigest] [CaseFolding] (issueType : IssueType)
    (results : ToolResults) (args : GateArguments) (snapshot : CaseFactProjection)
    (message : String) :
    (∀ entry : InvestigationEntry, entry.Starts snapshot →
      evaluateGate issueType results { args with flags := entry.flags snapshot message } =
        evaluateGate issueType results { args with flags := snapshot.customerFlags message }) ↔
      ∀ facts ∈ customerRowsReached issueType results args,
        snapshot.customerStillReportsMissing ∧ (proofUnavailable facts = none →
          ¬ deliveryLocationConflict message ∧
            ¬ (receptionTypeProof facts.deliveryProof ∧ snapshot.receptionLocationsChecked)) := by
  have hflags := evaluateGate_withFlags issueType results args
  constructor
  · intro hagree facts hfacts
    have hretry := hagree .retry (by rintro ⟨⟩)
    rw [hflags (InvestigationEntry.retry.flags snapshot message),
      hflags (snapshot.customerFlags message), Option.mem_def.mp hfacts] at hretry
    exact (customerOutcome_eq_default_iff facts _).mp hretry
  · intro hcase entry hstarts
    rw [hflags (entry.flags snapshot message), hflags (snapshot.customerFlags message)]
    cases hreached : customerRowsReached issueType results args with
    | none => rfl
    | some facts =>
      rcases entry.flags_cases message hstarts with h | h
      · rw [h]
      · rw [h]
        exact (customerOutcome_eq_default_iff facts _).mpr (hcase facts hreached)

end AfterSales

/-! ### A retry after an answered question -/

namespace AfterSales

section AnsweredQuestion

attribute [local instance] PolicyDigest.bySource ResultDigest.byName

local instance lowerFolding : CaseFolding := ⟨fun text => text.map Char.toLower⟩

/-- The facts of a clause for parcels shown as delivered. -/
def signedClauseFacts : PolicyFactSnapshot where
  eligible := true
  stalledAfterHours := none
  requiredEvidenceCodes := ["order_delivered", "timeline", "delivery_proof", "no_active_ticket"]
  effectiveFrom := 0
  effectiveTo := none
  serviceLevel := "standard"
  region := "cn-east"
  policyVersion := "v2"
  clauseId := "CL-STD-SNR-V2"
  sourceHash := "clause"
  issueType := .signedNotReceived
  window := PolicyFactSnapshot.always
  threshold := PolicyFactSnapshot.no_threshold
  codesNodup := by decide

/-- The reads of a delivered order whose parcel was left at the front desk. -/
def frontDeskReads : ToolResults
  | .getOrderContext => some <| .completed .present "order" 1000
      { orderId := "ORD-1", orderStatus := .delivered, serviceLevel := "standard",
        region := "cn-east", shipments := [] } ["ORD-1"] "order-hash"
  | .getLogisticsTimeline => some <| .completed .present "timeline" 1000
      { orderId := "ORD-1", events := [⟨"EV-1", none, "delivered", 500⟩], lastUpdateAt := some 500,
        hoursSinceLastUpdate := some 2, shipmentTimelines := [], lastUpdateIff := by decide }
      ["EV-1"] "timeline-hash"
  | .getDeliveryProof => some <| .completed .present "proof" 1000
      { orderId := "ORD-1", shipmentId := none, podStatus := .found,
        recipientType := some "front_desk", signedAt := some 500, notFoundEmpty := by decide }
      ["POD-1"] "proof-hash"
  | .searchAfterSalesPolicy => some <| .completedSearch "policy" 1000
      { orderId := "ORD-1", issueType := .signedNotReceived, serviceLevel := "standard",
        region := "cn-east", evaluatedAt := 1000, retrievalStatus := .hit,
        policyResolutionStatus := some .applicable, policyFactSnapshot := some signedClauseFacts,
        policyFactSnapshotHash := some "clause",
        citation := some ⟨"DOC", "v2", "CL-STD-SNR-V2", "clause"⟩,
        resolvedIffHit := PolicySearchPayload.hit_resolves, applicable := by decide,
        factsMatchScope := by decide,
        citationMatches := by decide, notApplicable := by decide }
      (by decide) "policy-hash"
  | .getExistingLogisticsTickets => some <| .completed .absent "tickets" 1000
      { orderId := "ORD-1", issueType := .signedNotReceived, activeTickets := [],
        existingInvestigations := [] } [] "tickets-hash"
  | .getCarrierServiceAlerts => none

def frontDeskProof : DeliveryProofFactContext := ⟨⟨⟨"RUN-1", 3⟩, "proof-hash"⟩, "front_desk"⟩

/-- The question whether the customer asked there. -/
def frontDeskQuestion : FactQuestion where
  questionId := ⟨⟨"CONV-1", 2⟩, .reportedDeliveryLocationChecked, some "proof-hash", false⟩
  caseId := ⟨"CONV-1", 2⟩
  factCode := .reportedDeliveryLocationChecked
  contextResultHash := some "proof-hash"
  targetedConflict := false
  askedAt := 2000

/-- The accepted reply: everybody was asked. -/
def frontDeskAnswer : CaseFactAssertion where
  assertionId := "fact_1"
  caseId := ⟨"CONV-1", 2⟩
  factCode := .reportedDeliveryLocationChecked
  value := .true
  sourceMessageId := ⟨"CONV-1", 4⟩
  sourceMessageHash := "message-hash"
  sourceSpan := ⟨0, 4, by decide⟩
  relation := .new
  supersedesAssertionId := none
  context := some frontDeskProof.reference
  assertionSequence := 1
  supersedesIff := by decide
  contextIff := by decide
  withdrawalUnknown := by decide

/-- The customer has asked at the front desk. The reply's own investigation proposes a ticket; a
    retry of the same case, with the same reads, asks the customer again. -/
theorem answered_question_retry_differs :
    ∃ snapshot, rebuildProjection ⟨"CONV-1", 2⟩ [frontDeskAnswer] [frontDeskQuestion]
        (some frontDeskProof) = .ok snapshot ∧
      (evaluateGate .signedNotReceived frontDeskReads
        { flags := InvestigationEntry.factReply.flags snapshot "都问过了" }).outcome
          = .decision .proposeTicket ∧
      (evaluateGate .signedNotReceived frontDeskReads
        { flags := InvestigationEntry.retry.flags snapshot "都问过了" }).outcome
          = .decision .requestBusinessClarification :=
  ⟨_, rfl, by decide +kernel, by decide +kernel⟩

end AnsweredQuestion

end AfterSales
