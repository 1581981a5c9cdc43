import AfterSales.Tools.Service
import Mathlib.Data.Fintype.Pi

/-! Evidence progress: what the history of tool calls has settled so far.

    Progress is never updated in place. It is rebuilt from the whole history of a run: each call
    moves the one requirement its tool addresses, and everything that does not fit (a foreign row,
    a tool the issue does not need, a hash or reference that is missing, a second answer that
    contradicts the first) leaves a terminal code. A snapshot is compared with another only through
    its canonical hash; here the hashed content itself is compared. -/

namespace AfterSales

inductive EvidenceRequirementCode where
  | orderStatus | trackingTimeline | deliveryProof | policyApplicability | activeTicketStatus
  | carrierAlertContext
  deriving DecidableEq, Repr

instance : Fintype EvidenceRequirementCode where
  elems := {.orderStatus, .trackingTimeline, .deliveryProof, .policyApplicability,
    .activeTicketStatus, .carrierAlertContext}
  complete c := by cases c <;> decide

inductive RequirementApplicability where | required | optional | notRequired
  deriving DecidableEq, Repr

inductive EvidenceProgressStatus where
  | missing | satisfiedPresent | satisfiedAbsent | retryPending | unavailableFinal | conflict
  deriving DecidableEq, Repr

/-- The requirement is answered. -/
def EvidenceProgressStatus.satisfied (s : EvidenceProgressStatus) : Bool :=
  s = .satisfiedPresent || s = .satisfiedAbsent

/-- `TOOL_TO_REQUIREMENT`. -/
def ReadTool.requirement : ReadTool → EvidenceRequirementCode
  | .getOrderContext => .orderStatus
  | .getLogisticsTimeline => .trackingTimeline
  | .getDeliveryProof => .deliveryProof
  | .searchAfterSalesPolicy => .policyApplicability
  | .getExistingLogisticsTickets => .activeTicketStatus
  | .getCarrierServiceAlerts => .carrierAlertContext

/-- `REQUIREMENT_TO_TOOL`. -/
def EvidenceRequirementCode.tool : EvidenceRequirementCode → ReadTool
  | .orderStatus => .getOrderContext
  | .trackingTimeline => .getLogisticsTimeline
  | .deliveryProof => .getDeliveryProof
  | .policyApplicability => .searchAfterSalesPolicy
  | .activeTicketStatus => .getExistingLogisticsTickets
  | .carrierAlertContext => .getCarrierServiceAlerts

@[simp] theorem EvidenceRequirementCode.requirement_tool (c : EvidenceRequirementCode) :
    c.tool.requirement = c := by
  cases c <;> rfl

@[simp] theorem ReadTool.tool_requirement (t : ReadTool) : t.requirement.tool = t := by
  cases t <;> rfl

theorem ReadTool.requirement_injective : Function.Injective ReadTool.requirement :=
  Function.LeftInverse.injective ReadTool.tool_requirement

/-- `_REQUIRED_BY_ISSUE`. -/
def requiredByIssue : IssueType → List EvidenceRequirementCode
  | .signedNotReceived =>
    [.orderStatus, .trackingTimeline, .deliveryProof, .policyApplicability, .activeTicketStatus]
  | .stalledTracking =>
    [.orderStatus, .trackingTimeline, .policyApplicability, .activeTicketStatus]

/-- `requirement_registry`. -/
def requirementRegistry (issueType : IssueType) (code : EvidenceRequirementCode) :
    RequirementApplicability :=
  if issueType = .stalledTracking ∧ code = .carrierAlertContext then .optional
  else if code ∈ requiredByIssue issueType then .required
  else .notRequired

/-- `required_observation_tools`. -/
def requiredObservationTools (issueType : IssueType) : List ReadTool :=
  (requiredByIssue issueType).map (·.tool)

/-- The fresh identity of a tool call: its run and its number within the run. -/
structure ToolCallId where
  runId : String
  serial : Nat
  deriving DecidableEq, Repr

/-- A reference from evidence to the result it was read in. -/
structure EvidenceRef where
  toolCallId : ToolCallId
  sourceQueryId : String
  sourceRecordId : Option String
  observedAt : Instant
  resultHash : String
  deriving DecidableEq

/-- `to_evidence_refs`: one reference a record, one without a record when none was found. -/
def ToolResult.toEvidenceRefs {P : Type} (r : ToolResult P) (toolCallId : ToolCallId) :
    List EvidenceRef :=
  if r.executionStatus ≠ .success then []
  else
    let recordIds := if r.sourceRecordIds = [] then [none] else r.sourceRecordIds.map some
    recordIds.map fun record =>
      ⟨toolCallId, r.sourceQueryId, record, r.observedAt, r.resultHash⟩

/-- One row of the history, as the reducer reads it; anything may be missing or malformed. -/
structure HistoryCall where
  toolCallId : ToolCallId
  caseId : Option String
  runId : Option String
  toolName : Except String ReadTool
  normalizedArgs : ToolArguments
  attemptNumber : Nat
  actualExecution : Bool
  executionStatus : Option ExecutionStatus
  evidenceAvailability : Option EvidenceAvailability
  /-- The hash inside the stored envelope; `none` when the envelope does not parse. -/
  envelopeHash : Option String
  resultHash : Option String
  sourceVersion : Option String

structure RequirementProgress where
  applicability : RequirementApplicability
  status : EvidenceProgressStatus
  supportingToolCallIds : List ToolCallId
  evidenceRefIds : List (ToolCallId × String × Option String)
  resultHashes : List String
  sourceVersions : List String
  deriving DecidableEq

inductive GateReadiness where | notEvaluable | evaluable
  deriving DecidableEq, Repr

structure EvidenceProgressSnapshot where
  caseId : String
  runId : String
  canonicalIssueType : IssueType
  revision : Nat
  requirements : EvidenceRequirementCode → RequirementProgress
  gateReadiness : GateReadiness
  missingRequiredCodes : List EvidenceRequirementCode
  terminalTriggerCodes : List String
  lastActualToolCallId : Option ToolCallId
  deriving DecidableEq

/-- The identity of the one retry a transient failure may have. -/
structure RetryDirective where
  retryOfToolCallId : ToolCallId
  toolName : ReadTool
  canonicalArguments : ToolArguments
  sourceVersion : String
  issuedFromProgress : EvidenceProgressSnapshot
  deriving DecidableEq

/-- `next_attempt_number`. -/
def RetryDirective.nextAttemptNumber : Nat := 2

namespace EvidenceProgressReducer

/-- `_empty_requirement`. -/
def emptyRequirement (issueType : IssueType) (code : EvidenceRequirementCode) :
    RequirementProgress :=
  ⟨requirementRegistry issueType code, .missing, [], [], [], []⟩

/-- Append an item unless it is absent or already there. -/
def addItem {α : Type} [DecidableEq α] (values : List α) (item : Option α) : List α :=
  match item with
  | some x => if x ∈ values then values else values ++ [x]
  | none => values

/-- `_merge`. -/
def merge (current : RequirementProgress) (status : EvidenceProgressStatus) (call : HistoryCall)
    (refIds : List (ToolCallId × String × Option String)) : RequirementProgress :=
  { current with
    status := status
    supportingToolCallIds := addItem current.supportingToolCallIds (some call.toolCallId)
    evidenceRefIds := (current.evidenceRefIds ++ refIds).eraseDups
    resultHashes := addItem current.resultHashes call.resultHash
    sourceVersions := addItem current.sourceVersions call.sourceVersion }

/-- The accumulators of one pass over the history. -/
structure Pass where
  states : EvidenceRequirementCode → RequirementProgress
  terminal : List String
  lastActual : Option ToolCallId
  retryOriginSeen : Bool
  retryAttemptSeen : Bool

def Pass.start (issueType : IssueType) : Pass :=
  ⟨emptyRequirement issueType, [], none, false, false⟩

def Pass.addTerminal (p : Pass) (code : String) : Pass :=
  { p with terminal := p.terminal ++ [code] }

def Pass.setState (p : Pass) (code : EvidenceRequirementCode) (r : RequirementProgress) : Pass :=
  { p with states := Function.update p.states code r }

/-- Mark a requirement as contradictory, under a terminal code. -/
def Pass.conflict (p : Pass) (code : EvidenceRequirementCode) (terminal : String) : Pass :=
  (p.setState code { p.states code with status := .conflict }).addTerminal terminal

/-- `_evidence_refs_for`. -/
def evidenceRefsFor (refs : List EvidenceRef) (call : HistoryCall) : List EvidenceRef :=
  refs.filter fun ref =>
    ref.toolCallId = call.toolCallId ∧ ∀ h ∈ call.resultHash, ref.resultHash = h

def evidenceRefId (ref : EvidenceRef) : ToolCallId × String × Option String :=
  (ref.toolCallId, ref.sourceQueryId, ref.sourceRecordId)

/-- The call repeats the identity that a retry directive fixes, up to its attempt number. -/
def sameIdentity (directive : RetryDirective) (call : HistoryCall) (tool : ReadTool) : Bool :=
  tool = directive.toolName ∧ call.normalizedArgs = directive.canonicalArguments
    ∧ call.sourceVersion = some directive.sourceVersion

/-- A success: its envelope, references and earlier answers must agree with it. -/
def reduceSuccess (refs : List EvidenceRef) (p : Pass) (call : HistoryCall)
    (code : EvidenceRequirementCode) (status : EvidenceProgressStatus) : Pass :=
  let current := p.states code
  let matching := evidenceRefsFor refs call
  let known (values : List String) (item : Option String) : Bool :=
    values = [] ∨ ∃ x ∈ item, x ∈ values
  if call.envelopeHash = none ∨ call.envelopeHash ≠ call.resultHash then
    p.conflict code "RESULT_HASH_MISMATCH"
  else if matching = [] then p.conflict code "MISSING_EVIDENCE_REF"
  else if current.status.satisfied ∧ ¬ known current.resultHashes call.resultHash then
    p.conflict code "CONTRADICTORY_SUCCESS"
  else if current.status.satisfied ∧ ¬ known current.sourceVersions call.sourceVersion then
    p.conflict code "SOURCE_REVISION_CONFLICT"
  else p.setState code (merge current status call (matching.map evidenceRefId))

/-- The part of the pass that reads the outcome of a call. -/
def reduceOutcome (refs : List EvidenceRef) (pending : Option RetryDirective) (p : Pass)
    (call : HistoryCall) (code : EvidenceRequirementCode) : Pass :=
  match call.executionStatus, call.evidenceAvailability with
  | some .success, some .present => reduceSuccess refs p call code .satisfiedPresent
  | some .success, some .absent => reduceSuccess refs p call code .satisfiedAbsent
  | some .retryableError, some .unavailable | some .nonRetryableError, some .unavailable =>
    let status : EvidenceProgressStatus :=
      if (∃ d ∈ pending, d.retryOfToolCallId = call.toolCallId) ∧ call.attemptNumber = 1 then
        .retryPending
      else .unavailableFinal
    p.setState code (merge (p.states code) status call [])
  | _, _ => p.conflict code "MALFORMED_TOOL_RESULT"

/-- The retry lock: the origin of a pending retry, and the next execution after it, keep its
    identity. `none` means that the call breaks the lock. -/
def checkRetryLock (pending : Option RetryDirective) (p : Pass) (call : HistoryCall)
    (tool : ReadTool) : Option Pass :=
  match pending with
  | none => some p
  | some d =>
    if d.retryOfToolCallId = call.toolCallId then
      if call.actualExecution ∧ call.attemptNumber = 1 ∧ sameIdentity d call tool then
        some { p with retryOriginSeen := true }
      else none
    else if p.retryOriginSeen ∧ ¬ p.retryAttemptSeen ∧ call.actualExecution then
      if call.attemptNumber = 2 ∧ sameIdentity d call tool then
        some { p with retryAttemptSeen := true }
      else none
    else some p

/-- One call of the history. -/
def step (caseId runId : String) (issueType : IssueType) (refs : List EvidenceRef)
    (pending : Option RetryDirective) (p : Pass) (call : HistoryCall) : Pass :=
  if (∃ c ∈ call.caseId, c ≠ caseId) ∨ ∃ r ∈ call.runId, r ≠ runId then
    p.addTerminal "TOOL_CALL_SCOPE_MISMATCH"
  else
    match call.toolName with
    | .error _ => p.addTerminal "UNKNOWN_TOOL"
    | .ok tool =>
      let p := if call.actualExecution then { p with lastActual := some call.toolCallId } else p
      if requirementRegistry issueType tool.requirement = .notRequired then
        p.addTerminal ("IRRELEVANT_TOOL:" ++ tool.name)
      else
        match checkRetryLock pending p call tool with
        | none =>
          -- The origin counts as seen even when the call does not keep its identity.
          let origin := decide (∃ d ∈ pending, d.retryOfToolCallId = call.toolCallId)
          { p with retryOriginSeen := p.retryOriginSeen || origin }.conflict tool.requirement
            "RETRY_IDENTITY_CONFLICT"
        | some p => reduceOutcome refs pending p call tool.requirement

/-- `_build`. -/
def build (caseId runId : String) (issueType : IssueType) (revision : Nat)
    (requirements : EvidenceRequirementCode → RequirementProgress) (terminal : List String)
    (lastActual : Option ToolCallId) : EvidenceProgressSnapshot :=
  let missing := (requiredByIssue issueType).filter fun code =>
    !(requirements code).status.satisfied
  let conflicts := decide (∃ code, (requirements code).status = .conflict)
  { caseId := caseId
    runId := runId
    canonicalIssueType := issueType
    revision := revision
    requirements := requirements
    gateReadiness := if missing = [] ∧ ¬ conflicts then .evaluable else .notEvaluable
    missingRequiredCodes := missing
    terminalTriggerCodes := terminal.eraseDups
    lastActualToolCallId := lastActual }

/-- `rebuild`, over a history in the order of its requests. -/
def rebuild (caseId runId : String) (issueType : IssueType) (toolCalls : List HistoryCall)
    (refs : List EvidenceRef) (pending : Option RetryDirective) : EvidenceProgressSnapshot :=
  let p := toolCalls.foldl (step caseId runId issueType refs pending) (Pass.start issueType)
  let terminal :=
    if pending.isSome ∧ ¬ p.retryOriginSeen then p.terminal ++ ["RETRY_ORIGIN_MISSING"]
    else p.terminal
  let revision := (toolCalls.filter fun call =>
    call.actualExecution && call.executionStatus.isSome).length
  build caseId runId issueType revision p.states terminal p.lastActual

end EvidenceProgressReducer

end AfterSales
