import Mathlib.Order.Basic

/-! The canonical lifecycle and business vocabularies.

    Five lifecycles stay separate: case, run, proposal, action and the read results. Each one is a
    finite vocabulary with its own transition table; no transition of one vocabulary implies a
    transition of another, the operations of the service move them together.

        case:     investigating ⇄ awaiting input / retry ─▶ awaiting confirmation ─▶ executing ─▶ closed
        run:      queued ─▶ running ─▶ succeeded | failed
        proposal: pending ─▶ confirmed | declined | superseded | expired | invalidated
        action:   ready ─▶ submitted ─▶ succeeded | failed_* | uncertain   (failed_retryable ─▶ submitted) -/

namespace AfterSales

/-- Issue types that may own a case. -/
inductive IssueType where | signedNotReceived | stalledTracking
  deriving DecidableEq, Repr

/-- The complete output vocabulary of triage. -/
inductive TriageIntent where
  | signedNotReceived | stalledTracking | capabilityHelp | orderIdHelp | trackingStatusQuery
  | deliveryEtaInfo | changeDeliveryInfo | refundReturnInfo | humanSupportRequest | thanksClose
  | otherLogistics | ambiguous | outOfScope | prohibited
  deriving DecidableEq, Repr

inductive CaseState where
  | investigating | awaitingCustomerInput | awaitingCustomerConfirmation | awaitingRetry
  | executingAction | closed
  deriving DecidableEq, Repr

inductive CaseOutcome where
  | resolvedNoAction | ticketCreated | humanSupportRequired | uncertain | failed
  deriving DecidableEq, Repr

inductive RunState where | queued | running | succeeded | failed
  deriving DecidableEq, Repr

inductive ProposalState where
  | pendingConfirmation | confirmed | declined | superseded | expired | invalidated
  deriving DecidableEq, Repr

inductive ActionState where
  | ready | submitted | succeeded | failedRetryable | failedTerminal | uncertain
  deriving DecidableEq, Repr

/-- Whether a read query completed, independently of what it found. -/
inductive ExecutionStatus where | success | retryableError | nonRetryableError
  deriving DecidableEq, Repr

/-- Decision quality of a read result; absence is not unavailability. -/
inductive EvidenceAvailability where | present | absent | unavailable
  deriving DecidableEq, Repr

/-- Outcome of a policy search, independent of evidence availability. -/
inductive RetrievalStatus where | hit | noHit | unavailable
  deriving DecidableEq, Repr

/-- Resolver outcome for a retrieved policy candidate set. -/
inductive PolicyResolutionStatus where | applicable | notApplicable | versionConflict
  deriving DecidableEq, Repr

inductive EvidenceGateDecision where
  | proposeTicket | requestBusinessClarification | retryLater | requireHumanSupport
  | completeNoAction
  deriving DecidableEq, Repr

inductive OrderStatus where | processing | shipped | delivered | cancelled
  deriving DecidableEq, Repr

/-- The wire value of an order status; package statuses are compared with it as text. -/
def OrderStatus.value : OrderStatus → String
  | .processing => "processing"
  | .shipped => "shipped"
  | .delivered => "delivered"
  | .cancelled => "cancelled"

inductive DeliveryProofStatus where | found | notFound
  deriving DecidableEq, Repr

/-- The triage intent that carries the same name as an issue type. -/
def IssueType.intent : IssueType → TriageIntent
  | .signedNotReceived => .signedNotReceived
  | .stalledTracking => .stalledTracking

/-! ### Transition tables -/

/-- `_CASE_TRANSITIONS`. -/
def caseTransitions : CaseState → List CaseState
  | .investigating =>
    [.awaitingCustomerInput, .awaitingCustomerConfirmation, .awaitingRetry, .closed]
  | .awaitingCustomerInput => [.investigating, .awaitingRetry, .closed]
  | .awaitingCustomerConfirmation => [.executingAction, .closed]
  | .awaitingRetry => [.investigating, .closed]
  | .executingAction => [.closed]
  | .closed => []

/-- `_RUN_TRANSITIONS`. -/
def runTransitions : RunState → List RunState
  | .queued => [.running, .failed]
  | .running => [.succeeded, .failed]
  | .succeeded => []
  | .failed => []

/-- `_PROPOSAL_TRANSITIONS`. -/
def proposalTransitions : ProposalState → List ProposalState
  | .pendingConfirmation => [.confirmed, .declined, .superseded, .expired, .invalidated]
  | _ => []

/-- `_ACTION_TRANSITIONS`. -/
def actionTransitions : ActionState → List ActionState
  | .ready => [.submitted]
  | .submitted => [.succeeded, .failedRetryable, .failedTerminal, .uncertain]
  | .failedRetryable => [.submitted]
  | .succeeded => []
  | .failedTerminal => []
  | .uncertain => []

end AfterSales
