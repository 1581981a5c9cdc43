import AfterSales.CaseFacts.Facts
import AfterSales.Policy.EvidenceGate
import AfterSales.Policy.Resolver

/-! What a proposal binds: parameters, evidence, policy facts and customer facts.

    A proposal stores the parameters of the write it offers, the clause its policy result named, the
    references to the results it rests on, and one hash over all that its confirmation compares.
    Confirmation looks the clause up again and requires the very facts that were bound. -/

namespace AfterSales

/-- How long a proposal may be confirmed: fifteen minutes. -/
def proposalLifetime : Instant := 15 * 60 * 1000000

/-- The clause a proposal rests on, with its facts. -/
structure PolicyBinding where
  policyVersion : String
  clauseId : String
  policySourceHash : String
  region : String
  policyFactSnapshot : PolicyFactSnapshot
  policyFactSnapshotHash : Option String
  deriving DecidableEq

structure ExecutionParameters where
  orderId : String
  issueType : IssueType
  policyBinding : PolicyBinding
  targetShipmentId : Option String
  deriving DecidableEq

/-- The canonical hash over everything a confirmation compares. -/
class EvidenceDigest where
  evidenceSnapshotHash : List (String × String) → ExecutionParameters → Option CaseFactIdentity →
    String

/-- The rows of `action_proposals`; `caseFactIdentity` is absent where the source stores `{}`. -/
structure ProposalRow where
  proposalId : ProposalId
  version : Nat
  proposalState : ProposalState
  executionParameters : ExecutionParameters
  evidenceRefs : List EvidenceRef
  evidenceSnapshotHash : String
  caseFactIdentity : Option CaseFactIdentity
  supersededBy : Option ProposalId
  expiresAt : Instant

/-- The rows of `action_executions`. -/
structure ActionRow where
  actionId : ActionId
  proposalId : ProposalId
  actionState : ActionState
  idempotencyKey : IdempotencyKey
  errorCode : Option String
  submittedAt : Option Instant
  verifiedAt : Option Instant
  deriving DecidableEq

/-- `build_proposal`. -/
def buildProposal [EvidenceDigest] (proposalId : ProposalId) (version : Nat) (orderId : String)
    (issueType : IssueType) (evidenceRefs : List EvidenceRef)
    (criticalResultHashes : List (String × String)) (policyBinding : PolicyBinding)
    (targetShipmentId : Option String) (caseFactIdentity : Option CaseFactIdentity)
    (now : Instant) : ProposalRow :=
  let parameters : ExecutionParameters := ⟨orderId, issueType, policyBinding, targetShipmentId⟩
  { proposalId := proposalId
    version := version
    proposalState := .pendingConfirmation
    executionParameters := parameters
    evidenceRefs := evidenceRefs
    evidenceSnapshotHash :=
      EvidenceDigest.evidenceSnapshotHash criticalResultHashes parameters caseFactIdentity
    caseFactIdentity := caseFactIdentity
    supersededBy := none
    expiresAt := now + proposalLifetime }

/-- `stable_action_identity`. -/
def stableActionIdentity (proposal : ProposalRow) : ActionId × IdempotencyKey :=
  let identity : ActionIdentity := ⟨proposal.proposalId, proposal.version⟩
  (⟨identity⟩, ⟨identity⟩)

/-- `build_ready_action`. -/
def buildReadyAction (proposal : ProposalRow) : ActionRow where
  actionId := (stableActionIdentity proposal).1
  proposalId := proposal.proposalId
  actionState := .ready
  idempotencyKey := (stableActionIdentity proposal).2
  errorCode := none
  submittedAt := none
  verifiedAt := none

/-- `stable_ticket_id`. -/
def stableTicketId (idempotencyKey : IdempotencyKey) : TicketId := ⟨idempotencyKey⟩

variable [PolicyDigest]

/-- `policy_binding`: the facts of a verified search; any other search binds nothing. -/
def PolicySearchPayload.policyBinding (payload : PolicySearchPayload) : Option PolicyBinding :=
  if payload.verifiedForGate then
    payload.policyFactSnapshot.map fun facts =>
      ⟨facts.policyVersion, facts.clauseId, facts.sourceHash, facts.region, facts,
        payload.policyFactSnapshotHash⟩
  else none

/-- `validate_policy_binding`: the clause named is still the one that was bound, and applies. -/
def PolicyCorpus.validatePolicyBinding (corpus : PolicyCorpus) (binding : PolicyBinding)
    (issueType : IssueType) (serviceLevel region : String) (evaluatedAt : Instant) : Bool :=
  match corpus.lookup binding.policyVersion binding.clauseId with
  | none => false
  | some clause =>
    if clause.poisoned ∨ clause.contentHash ≠ binding.policySourceHash then false
    else
      let facts := clause.normalizedFacts
      decide (facts = binding.policyFactSnapshot) &&
        decide (binding.policyFactSnapshotHash = some (PolicyDigest.materialSnapshotHash facts)) &&
        decide (facts.issueType = issueType) && decide (facts.serviceLevel = serviceLevel) &&
        decide (facts.region = region) && decide (binding.region = region) &&
        withinEffectiveWindow facts evaluatedAt

end AfterSales
