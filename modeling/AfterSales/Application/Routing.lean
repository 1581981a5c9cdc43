import AfterSales.CaseFacts.Facts
import AfterSales.Storage.Rows
import AfterSales.Tools.Service

/-! The entry of a message: validation, the policy route, and the package it talks about.

    The classifier is untrusted; it supplies an intent, risk flags and the order ids of the message.
    The route depends on which of these orders the customer may read. Which package a message names
    is decided from the fixture records and the text alone. -/

namespace AfterSales

/-- Redaction of personal data, and whether anything was redacted. -/
class MessageRedaction where
  redact : String → String × Bool

/-- `strip`. -/
def stripText (text : String) : String :=
  String.ofList (((text.toList.dropWhile isSpace).reverse.dropWhile isSpace).reverse)

/-- `ValidatedCustomerMessage`. -/
structure ValidatedCustomerMessage where
  content : String
  traceContent : String
  deriving DecidableEq, Repr

def maxMessageChars : Nat := 2000

/-- `validate_customer_message`; `none` is the `MessageValidationError`. -/
def validateCustomerMessage [MessageRedaction] (content : String) :
    Option ValidatedCustomerMessage :=
  let normalized := stripText content
  if normalized = "" then none
  else if maxMessageChars < normalized.length then none
  else some ⟨normalized, (MessageRedaction.redact normalized).1⟩

/-! ### The policy route -/

/-- `TriageResult`. -/
structure TriageResult where
  intent : TriageIntent
  riskFlags : List String
  orderIdsMentioned : List String
  deriving DecidableEq, Repr

structure BlockedFragment where
  category : String
  orderId : Option String
  deriving DecidableEq, Repr

structure PolicyDecision where
  route : PolicyRoute
  canonicalIssueType : Option IssueType
  authorizedOrderId : Option String
  blockedFragments : List BlockedFragment
  reasonCode : String
  deriving DecidableEq, Repr

/-- Only the supported route opens a case. -/
def PolicyDecision.supported (d : PolicyDecision) : Bool := d.route = .supportedLogistics

/-- The issue type that carries the same name as an intent. -/
def TriageIntent.issueType : TriageIntent → Option IssueType
  | .signedNotReceived => some .signedNotReceived
  | .stalledTracking => some .stalledTracking
  | _ => none

/-- `standard_reply_reasons`. -/
def TriageIntent.standardReplyReason : TriageIntent → Option String
  | .capabilityHelp => some "CAPABILITY_HELP_STANDARD_REPLY"
  | .orderIdHelp => some "ORDER_ID_HELP_STANDARD_REPLY"
  | .trackingStatusQuery => some "TRACKING_STATUS_REQUIRES_CLARIFICATION"
  | .deliveryEtaInfo => some "DELIVERY_ETA_STANDARD_REPLY"
  | .changeDeliveryInfo => some "CHANGE_DELIVERY_INFO_STANDARD_REPLY"
  | .refundReturnInfo => some "REFUND_RETURN_INFO_STANDARD_REPLY"
  | .humanSupportRequest => some "HUMAN_SUPPORT_REQUESTED"
  | .thanksClose => some "THANKS_CLOSE_STANDARD_REPLY"
  | _ => none

/-- `route_by_intent` and `reason_by_intent`. -/
def TriageIntent.residualRoute : TriageIntent → PolicyRoute × String
  | .otherLogistics => (.ambiguous, "UNSUPPORTED_LOGISTICS_REQUIRES_CLARIFICATION")
  | .outOfScope => (.outOfScope, "OUT_OF_SCOPE")
  | .prohibited => (.prohibited, "PROHIBITED_ONLY_REQUEST")
  | _ => (.ambiguous, "ISSUE_REQUIRES_CLARIFICATION")

/-- The risk flags that block a fragment of the request. -/
def blockingFlags : List String :=
  ["instruction_override_attempt", "prohibited_action_request", "unnecessary_personal_data"]

/-- The fragments that are blocked: flagged requests, and orders the customer may not read. -/
def blockedFragments (customerId : String) (triage : TriageResult) (store : FixtureStore) :
    List BlockedFragment :=
  ((blockingFlags.filter fun flag => flag ∈ triage.riskFlags).map fun flag => ⟨flag, none⟩) ++
    ((triage.orderIdsMentioned.filter fun id => (authorizeOrder customerId id store).isNone).map
      fun id => ⟨"unauthorized_order_access", some id⟩)

/-- A route that opens no case. -/
def PolicyDecision.unsupported (route : PolicyRoute) (reasonCode : String)
    (blocked : List BlockedFragment) (authorizedOrderId : Option String := none) :
    PolicyDecision :=
  ⟨route, none, authorizedOrderId, blocked, reasonCode⟩

/-- The route of a supported issue, by the orders the customer may read. -/
def routeSupportedIssue (issueType : IssueType) (mentioned authorized : List String)
    (blocked : List BlockedFragment) : PolicyDecision :=
  match authorized with
  | [orderId] =>
    ⟨.supportedLogistics, some issueType, some orderId, blocked, "AUTHORIZED_SUPPORTED_ISSUE"⟩
  | _ :: _ :: _ => .unsupported .ambiguous "MULTIPLE_AUTHORIZED_ORDERS_REQUIRE_SELECTION" blocked
  | [] =>
    if mentioned ≠ [] then .unsupported .unauthorized "NO_AUTHORIZED_ORDER_IN_REQUEST" blocked
    else .unsupported .ambiguous "ORDER_ID_REQUIRED" blocked

/-- The route of a question about a tracking status, which may name an order. -/
def routeTrackingStatus (reason : String) (mentioned authorized : List String)
    (blocked : List BlockedFragment) : PolicyDecision :=
  match authorized with
  | _ :: _ :: _ => .unsupported .ambiguous "MULTIPLE_AUTHORIZED_ORDERS_REQUIRE_SELECTION" blocked
  | [orderId] => .unsupported .standardReply reason blocked (some orderId)
  | [] =>
    if mentioned ≠ [] then .unsupported .unauthorized "NO_AUTHORIZED_ORDER_IN_REQUEST" blocked
    else .unsupported .standardReply reason blocked

/-- `route_triage`. -/
def routeTriage (customerId : String) (triage : TriageResult) (store : FixtureStore) :
    PolicyDecision :=
  let blocked := blockedFragments customerId triage store
  let mentioned := triage.orderIdsMentioned
  let authorized := mentioned.filter fun id => (authorizeOrder customerId id store).isSome
  match triage.intent.issueType with
  | some issueType => routeSupportedIssue issueType mentioned authorized blocked
  | none =>
    match triage.intent.standardReplyReason with
    | some reason =>
      if triage.intent = .trackingStatusQuery then
        routeTrackingStatus reason mentioned authorized blocked
      else .unsupported .standardReply reason blocked
    | none => .unsupported triage.intent.residualRoute.1 triage.intent.residualRoute.2 blocked

/-- `_enforce_entry_clarification_limit`: a second ambiguous request in a row is exhausted. -/
def enforceEntryClarificationLimit (previous : List PolicyRoute) (decision : PolicyDecision) :
    PolicyDecision :=
  if decision.route = .ambiguous ∧ previous.getLast? = some .ambiguous then
    { decision with reasonCode := "ENTRY_CLARIFICATION_EXHAUSTED" }
  else decision

/-- A route that supports a request names its issue and its order. -/
theorem routeTriage_scope {customerId : String} {triage : TriageResult} {store : FixtureStore}
    (h : (routeTriage customerId triage store).supported) :
    ∃ issueType orderId, (routeTriage customerId triage store).canonicalIssueType = some issueType ∧
      (routeTriage customerId triage store).authorizedOrderId = some orderId ∧
      (authorizeOrder customerId orderId store).isSome := by
  unfold routeTriage at h ⊢
  cases hissue : triage.intent.issueType with
  | some issueType =>
    simp only [hissue] at h ⊢
    unfold routeSupportedIssue at h ⊢
    split at h
    · rename_i orderId hauthorized
      refine ⟨issueType, orderId, rfl, rfl, ?_⟩
      have hmem : orderId ∈ [orderId] := List.mem_singleton_self _
      rw [← hauthorized] at hmem
      exact (List.mem_filter.mp hmem).2
    · simp [PolicyDecision.unsupported, PolicyDecision.supported] at h
    · split at h <;> simp [PolicyDecision.unsupported, PolicyDecision.supported] at h
  | none =>
    exfalso
    simp only [hissue] at h
    cases hreason : triage.intent.standardReplyReason with
    | some reason =>
      simp only [hreason] at h
      unfold routeTrackingStatus at h
      split at h
      · split at h
        · simp [PolicyDecision.unsupported, PolicyDecision.supported] at h
        · simp [PolicyDecision.unsupported, PolicyDecision.supported] at h
        · split at h <;> simp [PolicyDecision.unsupported, PolicyDecision.supported] at h
      · simp [PolicyDecision.unsupported, PolicyDecision.supported] at h
    | none =>
      simp only [hreason, PolicyDecision.unsupported, PolicyDecision.supported] at h
      revert h
      cases triage.intent <;> decide

/-! ### The package a message names -/

/-- The number that the ordinal pattern captures: `第`, a digit and a measure word. -/
def ordinalAt : List Char → Option Nat
  | '第' :: rest =>
    match rest.dropWhile isSpace with
    | digit :: rest =>
      let number := [('一', 1), ('二', 2), ('三', 3), ('四', 4), ('1', 1), ('2', 2), ('3', 3), ('4', 4)]
      match number.lookup digit with
      | some n =>
        let measured := rest.dropWhile isSpace
        if ["个", "件", "包裹"].any fun word => word.toList.isPrefixOf measured then some n else none
      | none => none
    | [] => none
  | _ => none

/-- The number that the package pattern captures: a word for a package and a letter or digit. -/
def packageAt (text : List Char) : Option Nat :=
  ["包裹", "parcel", "package"].findSome? fun word =>
    if word.toList.isPrefixOf text then
      match (text.drop word.length).dropWhile isSpace with
      | token :: _ =>
        [('a', 1), ('b', 2), ('c', 3), ('1', 1), ('2', 2), ('3', 3)].lookup token
      | [] => none
    else none

/-- The first match of a pattern in a text. -/
def searchText (pattern : List Char → Option Nat) (text : String) : Option Nat :=
  text.toList.tails.findSome? pattern

/-- The position in the order that a message names. -/
def namedSequence (normalized : String) : Option Nat :=
  (searchText ordinalAt normalized).or (searchText packageAt normalized)

variable [CaseFolding]

/-- `_is_partial_shipment_report`. -/
def isPartialShipmentReport (issueType : IssueType) (normalizedMessage : String) : Bool :=
  issueType = .stalledTracking &&
    mentions normalizedMessage ["只收到一部分", "部分收到", "少了一个", "分包裹"]

/-- `_select_target_shipment`. -/
def selectTargetShipment (store : FixtureStore) (orderId : String) (issueType : IssueType)
    (customerMessage : String) : Option String :=
  let shipments := store.sortedShipments orderId
  let normalized := CaseFolding.casefold customerMessage
  let mentioned := shipments.find? fun s => mentions normalized
    [CaseFolding.casefold s.shipmentId, CaseFolding.casefold s.trackingNumber]
  let numbered := (namedSequence normalized).bind fun n =>
    shipments.find? fun s => s.packageSequence = n
  match mentioned.or numbered with
  | some shipment => some shipment.shipmentId
  | none =>
    if isPartialShipmentReport issueType normalized then
      match shipments.filter (·.shipmentStatus = "stalled") with
      | [stalled] => some stalled.shipmentId
      | _ => none
    else
      match shipments with
      | [shipment] => some shipment.shipmentId
      | _ => none

/-- `_needs_partial_shipment_clarification`. -/
def needsPartialShipmentClarification (store : FixtureStore) (orderId : String)
    (issueType : IssueType) (customerMessage : String) : Bool :=
  isPartialShipmentReport issueType (CaseFolding.casefold customerMessage) &&
    decide (1 < (store.shipments orderId).length) &&
    decide (((store.shipments orderId).filter (·.shipmentStatus = "stalled")).length ≠ 1)

end AfterSales
