import AfterSales.Events.Store
import AfterSales.Lib.Arrivals
import AfterSales.Lib.Json

/-! The timeline of a conversation, as the page builds it from the events it has received.

    A first pass in the order of the sequences collects the proposals and the runs that ended; a
    second one makes the items, and reads what the first has collected.

        arrivals ─▶ handleEvent ─▶ events ─▶ ordered ─▶ proposals, ended runs ─▶ items -/

namespace AfterSales.Timeline

/-- `String(value)`. -/
class JsText where
  string : Json → String

/-! ### Presentation -/

abbrev Event := EventEnvelope Json

/-- A text that counts as true. -/
def filled (text : Option String) : Option String := text.filter (· ≠ "")

def isRecord : Json → Bool
  | .object _ => true
  | _ => false

/-- `stringValue`: the first of the keys whose value is a text that is not empty. -/
def stringValue (record : Json) (keys : List String) (fallback : String) : String :=
  (keys.findSome? fun key =>
    match record.get key with
    | some (.str value) => if value = "" then none else some value
    | _ => none).getD fallback

/-- `numberValue`. -/
def numberValue (record : Json) (keys : List String) (fallback : ℚ) : ℚ :=
  (keys.findSome? fun key =>
    match record.get key with
    | some (.int value) => some (value : ℚ)
    | some (.float value) => some value
    | _ => none).getD fallback

/-- The record under a key of the payload, or the payload itself. -/
def nestedRecord (event : Event) (key : String) : Json :=
  match event.payload.get key with
  | some value => if isRecord value then value else event.payload
  | none => event.payload

inductive ProposalState where
  | pendingConfirmation | confirmed | declined | superseded | expired | invalidated
  deriving DecidableEq, Repr

structure ActionProposalView where
  proposalId : String
  proposalVersion : ℚ
  state : ProposalState
  orderId : String
  issueType : String
  targetShipmentId : Option String
  rationale : String
  expiresAt : Option String
  createdAt : Instant
  deriving DecidableEq

/-- `proposalFromEvent`. -/
def proposalFromEvent (event : Event) : Option ActionProposalView :=
  let nested := nestedRecord event "proposal"
  (filled (some (stringValue nested ["proposal_id", "id"] ""))).map fun proposalId =>
    { proposalId := proposalId
      proposalVersion := numberValue nested ["proposal_version", "version"] 1
      state := .pendingConfirmation
      orderId := stringValue nested ["authorized_order_id", "order_id"] "合成订单"
      issueType := stringValue nested ["canonical_issue_type", "issue_type"] "signed_not_received"
      targetShipmentId := filled (some (stringValue nested ["target_shipment_id"] ""))
      rationale :=
        stringValue nested ["rationale", "reason", "customer_rationale", "summary"]
          "关键物流证据已完成核对，建议创建物流核查工单。"
      expiresAt := filled (some (stringValue nested ["expires_at", "expiresAt"] ""))
      createdAt := event.timestamp }

/-- `proposalIdFromEvent`. -/
def proposalIdFromEvent (event : Event) : Option String :=
  filled (some (stringValue (nestedRecord event "proposal") ["proposal_id", "id"] ""))

/-- `customerTextFromEvent`. -/
def customerTextFromEvent (event : Event) : String :=
  stringValue (nestedRecord event "reply")
    ["customer_text", "message", "reply", "text", "safe_message"] event.summary

/-! ### Items -/

inductive ResultKind where | verified | uncertain | failed
  deriving DecidableEq, Repr

structure ActionResultView where
  kind : ResultKind
  title : String
  detail : String
  ticketId : Option String
  targetShipmentId : Option String
  readBackVerified : Bool
  timestamp : Instant
  deriving DecidableEq

structure ProposalItem where
  id : String
  sequence : Nat
  caseId : String
  timestamp : Instant
  proposal : ActionProposalView
  deriving DecidableEq

inductive MessageRole where | customer | assistant
  deriving DecidableEq, Repr

inductive RetryReason where | evidence | action
  deriving DecidableEq, Repr

/-- `ConversationTimelineItem`. -/
inductive TimelineItem where
  | message (id : String) (sequence : Nat) (caseId : Option String) (role : MessageRole)
    (content : String) (timestamp : Instant) (failed : Bool)
  | progress (id : String) (sequence : Nat) (caseId : String) (timestamp : Instant) (active : Bool)
  | proposal (item : ProposalItem)
  | retry (id : String) (sequence : Nat) (caseId : String) (timestamp : Instant) (enabled : Bool)
    (reason : RetryReason)
  | result (id : String) (sequence : Nat) (caseId : String) (timestamp : Instant)
    (result : ActionResultView)
  deriving DecidableEq

def TimelineItem.sequence : TimelineItem → Nat
  | message _ sequence .. => sequence
  | progress _ sequence .. => sequence
  | proposal item => item.sequence
  | retry _ sequence .. => sequence
  | result _ sequence .. => sequence

/-- `CUSTOMER_REPLY_EVENTS`. -/
def customerReplyEvents : List String :=
  ["customer_reply_created", "business_clarification_requested", "message_rejected",
    "triage_failed"]

/-- `PROPOSAL_TRANSITION_EVENTS`. -/
def proposalTransitionEvents : List String :=
  ["proposal_confirmed", "proposal_declined", "proposal_superseded", "proposal_expired",
    "proposal_invalidated"]

/-- `transitionState`: the type of a transition event without `proposal_`. -/
def transitionState (event : Event) : ProposalState :=
  match event.eventType with
  | "proposal_confirmed" => .confirmed
  | "proposal_declined" => .declined
  | "proposal_superseded" => .superseded
  | "proposal_expired" => .expired
  | "proposal_invalidated" => .invalidated
  | _ => .pendingConfirmation

/-- A value that counts as true. -/
def truthy : Json → Bool
  | .null => false
  | .bool b => b
  | .int n => n ≠ 0
  | .float q => q ≠ 0
  | .str s => s ≠ ""
  | .array _ => true
  | .object _ => true

section Results

variable [JsText]

/-- `actionResultFromEvent`. -/
def actionResultFromEvent (event : Event) : Option ActionResultView :=
  if event.eventType = "action_verified" then
    some
      { kind := .verified
        title := "已为你发起物流核查"
        detail :=
          match (event.payload.get "target_shipment_id").filter truthy with
          | some target =>
            "目标包裹 " ++ JsText.string target ++ " 已提交并完成读回确认，请保留处理编号，无需重复提交。"
          | none => "处理请求已经提交并确认，请保留处理编号，无需重复提交。"
        ticketId := filled (some (stringValue event.payload ["ticket_id", "id"] ""))
        targetShipmentId := filled (some (stringValue event.payload ["target_shipment_id"] ""))
        readBackVerified := event.payload.get "read_back_verified" = some (.bool true)
        timestamp := event.timestamp }
  else if event.eventType = "action_uncertain" then
    some
      { kind := .uncertain
        title := "暂时无法确认处理结果"
        detail := "请求可能已经提交，请不要重复操作；可以联系人工支持继续核对。"
        ticketId := none
        targetShipmentId := none
        readBackVerified := false
        timestamp := event.timestamp }
  else if event.eventType = "action_failed" then
    some
      { kind := .failed
        title := "未能发起物流核查"
        detail := (filled (some event.summary)).getD "此次处理已经停止，没有重复提交请求。"
        ticketId := none
        targetShipmentId := none
        readBackVerified := false
        timestamp := event.timestamp }
  else none

end Results

/-! ### The two passes -/

/-- What an event says of the case of its run. -/
def recordCase (byRun : String → Option String) (event : Event) : String → Option String :=
  match filled event.runId, filled event.caseId with
  | some runId, some caseId => Function.update byRun runId (some caseId)
  | _, _ => byRun

/-- `caseIdsByRun`: a later event of a run overrides an earlier one. -/
def caseIdsByRun (events : List Event) : String → Option String :=
  events.foldl recordCase fun _ => none

/-- `resolvedCaseId`. -/
def resolvedCaseId (event : Event) (byRun : String → Option String) : Option String :=
  event.caseId.or ((filled event.runId).bind byRun)

/-- What one event changes in the map of proposals. -/
def collectProposal (byRun : String → Option String)
    (proposalItems : String → Option ProposalItem) (event : Event) :
    String → Option ProposalItem :=
  if event.eventType = "proposal_created" then
    match proposalFromEvent event, filled (resolvedCaseId event byRun) with
    | some proposal, some caseId =>
      Function.update proposalItems proposal.proposalId
        (some ⟨"proposal:" ++ proposal.proposalId, event.sequence, caseId, event.timestamp,
          proposal⟩)
    | _, _ => proposalItems
  else if event.eventType ∈ proposalTransitionEvents then
    match proposalIdFromEvent event with
    | some proposalId =>
      match proposalItems proposalId with
      | some existing =>
        Function.update proposalItems proposalId
          (some { existing with
            proposal := { existing.proposal with state := transitionState event } })
      | none => proposalItems
    | none => proposalItems
  else proposalItems

/-- The runs with a terminal event. -/
def runTerminalEvents (ordered : List Event) : List String :=
  ordered.filterMap fun event =>
    if event.eventType ∈ ["run_succeeded", "run_failed"] then filled event.runId else none

variable [JsText]

/-- The items of one event of the second pass. -/
def itemsOf (ordered : List Event) (byRun : String → Option String)
    (proposalItems : String → Option ProposalItem) (activeCaseId : Option String)
    (event : Event) : List TimelineItem :=
  let caseId := resolvedCaseId event byRun
  let laterRunStarted := ordered.any fun candidate =>
    event.sequence < candidate.sequence && candidate.eventType = "run_started" &&
      resolvedCaseId candidate byRun = caseId
  let retry := fun (id scopedCase : String) (reason : RetryReason) =>
    TimelineItem.retry id event.sequence scopedCase event.timestamp
      (activeCaseId = some scopedCase && !laterRunStarted) reason
  if event.eventType = "message_received" then
    match filled (some (customerTextFromEvent event)) with
    | some text =>
      [.message ("event:" ++ event.eventId) event.sequence caseId .customer text event.timestamp
        false]
    | none => []
  else if event.eventType ∈ customerReplyEvents then
    [.message ("event:" ++ event.eventId) event.sequence caseId .assistant
      (customerTextFromEvent event) event.timestamp
      (event.eventType = "message_rejected" || event.eventType = "triage_failed")]
  else if event.eventType = "proposal_created" then
    match proposalFromEvent event with
    | some proposal =>
      match proposalItems proposal.proposalId with
      | some item => [.proposal item]
      | none => []
    | none => []
  else
    match filled caseId with
    | none => []
    | some scopedCase =>
      if event.eventType = "run_started" then
        [.progress ("progress:" ++ event.eventId) event.sequence scopedCase event.timestamp
          ((filled event.runId).any (· ∉ runTerminalEvents ordered))]
      else if event.eventType = "evidence_gate_evaluated" then
        if stringValue event.payload ["decision"] "" = "retry_later" then
          [retry ("retry:" ++ event.eventId) scopedCase .evidence]
        else []
      else
        (if event.eventType = "action_failed" &&
            event.payload.get "retry_allowed" = some (.bool true) then
          [retry ("action-retry:" ++ event.eventId) scopedCase .action] else []) ++
        match actionResultFromEvent event with
        | some result =>
          [.result ("result:" ++ event.eventId) event.sequence scopedCase event.timestamp result]
        | none => []

/-- `buildConversationTimeline`. -/
def buildConversationTimeline (events : List Event) (activeCaseId : Option String) :
    List TimelineItem :=
  let ordered := Arrivals.inOrder (·.sequence) events
  let byRun := caseIdsByRun ordered
  let proposalItems := ordered.foldl (collectProposal byRun) fun _ => none
  Arrivals.inOrder (·.sequence)
    (ordered.flatMap (itemsOf ordered byRun proposalItems activeCaseId))

/-- The insertion of `handleEvent`. -/
def handleEvent (current : List Event) (event : Event) : List Event :=
  Arrivals.receive (·.eventId) (·.sequence) current event

end AfterSales.Timeline
