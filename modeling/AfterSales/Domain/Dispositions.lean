import AfterSales.Domain.State
import AfterSales.Domain.Text

/-! The customer disposition: one projection from the lifecycles to five words.

    The projection is a precedence table over six facts, each of which may be missing:

        escalate > investigate > clarify > wait > answer

    Whoever projects supplies the facts it has at hand. A reason code counts by the words it
    contains and by membership in fixed lists. -/

namespace AfterSales

inductive CustomerDisposition where | answer | wait | clarify | investigate | escalate
  deriving DecidableEq, Repr

/-- The facts of one projection. -/
structure DispositionFacts where
  gateDecision : Option EvidenceGateDecision := none
  caseState : Option CaseState := none
  caseOutcome : Option CaseOutcome := none
  proposalState : Option ProposalState := none
  actionState : Option ActionState := none
  reasonCode : Option String := none
  deriving DecidableEq, Repr

namespace DispositionFacts

/-- The reason code, or the empty text without one. -/
def reason (facts : DispositionFacts) : String := facts.reasonCode.getD ""

def escalationWords : List String := ["CONFLICT", "INTEGRITY", "HUMAN", "EXHAUSTED"]
def clarificationWords : List String := ["CLARIFICATION", "QUESTION"]

def clarificationReasons : List String :=
  ["ORDER_ID_REQUIRED", "MULTIPLE_AUTHORIZED_ORDERS_REQUIRE_SELECTION",
    "ISSUE_REQUIRES_CLARIFICATION", "UNSUPPORTED_LOGISTICS_REQUIRES_CLARIFICATION"]

def waitReasons : List String :=
  ["ACTIVE_LOGISTICS_TICKET_EXISTS", "ACTIVE_LOGISTICS_INVESTIGATION_EXISTS",
    "ACTIVE_CARRIER_RECOVERY_WINDOW", "WITHIN_TRACKING_SLA", "CRITICAL_EVIDENCE_UNAVAILABLE",
    "DELIVERED_WITHOUT_TIMELINE_EVIDENCE", "STRUCTURAL_CONFLICT_REQUIRES_REFRESH"]

def escalates (facts : DispositionFacts) : Bool :=
  facts.actionState = some .uncertain || facts.caseOutcome = some .uncertain ||
    facts.caseOutcome = some .humanSupportRequired || facts.caseOutcome = some .failed ||
    facts.gateDecision = some .requireHumanSupport || mentions facts.reason escalationWords

def investigates (facts : DispositionFacts) : Bool :=
  facts.actionState = some .ready || facts.actionState = some .submitted ||
    facts.actionState = some .succeeded || facts.caseOutcome = some .ticketCreated ||
    facts.proposalState = some .pendingConfirmation || facts.proposalState = some .confirmed ||
    facts.caseState = some .awaitingCustomerConfirmation ||
    facts.gateDecision = some .proposeTicket

def clarifies (facts : DispositionFacts) : Bool :=
  facts.gateDecision = some .requestBusinessClarification ||
    facts.caseState = some .awaitingCustomerInput ||
    mentions facts.reason clarificationWords || decide (facts.reason ∈ clarificationReasons)

def waits (facts : DispositionFacts) : Bool :=
  facts.gateDecision = some .retryLater || facts.caseState = some .awaitingRetry ||
    decide (facts.reason ∈ waitReasons)

end DispositionFacts

/-- `project_customer_disposition`. -/
def projectCustomerDisposition (facts : DispositionFacts) : CustomerDisposition :=
  if facts.escalates then .escalate
  else if facts.investigates then .investigate
  else if facts.clarifies then .clarify
  else if facts.waits then .wait
  else .answer

end AfterSales
