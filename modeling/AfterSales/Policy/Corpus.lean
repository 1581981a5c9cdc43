import AfterSales.Domain.State
import AfterSales.Lib.Keyed

/-! The policy corpus: canonical clauses with the facts the gate may rely on.

    A clause carries prose for retrieval and one normalized fact record for decisions. Only the
    fact record is authority: `lookup` finds the clause by policy version and clause id, and the
    confirmation path compares the facts it finds there with the ones a proposal was built on.
    Titles and texts take part in no decision; the search cites them, and they stand there. -/

namespace AfterSales

/-- A timezone-aware instant, in microseconds. -/
abbrev Instant := Int

/-- The deterministic facts normalized from one clause. -/
structure PolicyFactSnapshot where
  eligible : Bool
  stalledAfterHours : Option Nat
  requiredEvidenceCodes : List String
  effectiveFrom : Instant
  effectiveTo : Option Instant
  serviceLevel : String
  region : String
  policyVersion : String
  clauseId : String
  sourceHash : String
  issueType : IssueType
  window : ∀ t ∈ effectiveTo, effectiveFrom < t
  threshold : stalledAfterHours.isSome ↔ issueType = .stalledTracking
  codesNodup : requiredEvidenceCodes.Nodup
  deriving DecidableEq

namespace PolicyFactSnapshot

/-- A clause that is in force at any time. -/
theorem always : ∀ t ∈ (none : Option Instant), (0 : Instant) < t := by simp

/-- Only stalled parcels have a threshold. -/
theorem no_threshold :
    (none : Option Nat).isSome ↔ IssueType.signedNotReceived = .stalledTracking := by simp

end PolicyFactSnapshot

/-- The canonical hash of the material facts, `material_snapshot_hash`. -/
class PolicyDigest where
  materialSnapshotHash : PolicyFactSnapshot → String

/-- The digest of closed examples: facts are told apart by the hash of their source. -/
abbrev PolicyDigest.bySource : PolicyDigest := ⟨PolicyFactSnapshot.sourceHash⟩

/-- One canonical clause: its identity and its authority facts. -/
structure PolicyClause where
  documentId : String
  clauseId : String
  normalizedFacts : PolicyFactSnapshot
  contentHash : String
  poisoned : Bool
  clauseIdMatches : clauseId = normalizedFacts.clauseId
  contentHashMatches : contentHash = normalizedFacts.sourceHash
  deriving DecidableEq

/-- What a citation names a clause by. -/
def PolicyClause.resolutionKey (c : PolicyClause) : String × String :=
  (c.normalizedFacts.policyVersion, c.clauseId)

/-- A corpus resolves each pair of policy version and clause id uniquely; its own version is any
    text. -/
structure PolicyCorpus where
  clauses : List PolicyClause
  uniquelyResolves : (clauses.map PolicyClause.resolutionKey).Nodup
  /-- `POLICY_CORPUS_VERSION`, unless another corpus is configured. -/
  corpusVersion : String := "policy-corpus-v2"

def PolicyCorpus.empty : PolicyCorpus where
  clauses := []
  uniquelyResolves := List.nodup_nil

/-- The clause of one policy version and clause id. -/
def PolicyCorpus.lookup (corpus : PolicyCorpus) (policyVersion clauseId : String) :
    Option PolicyClause :=
  Keyed.find PolicyClause.resolutionKey (policyVersion, clauseId) corpus.clauses

/-- The facts apply at `evaluatedAt`: the window is closed on the left and open on the right. -/
def withinEffectiveWindow (facts : PolicyFactSnapshot) (evaluatedAt : Instant) : Bool :=
  decide (facts.effectiveFrom ≤ evaluatedAt) &&
    match facts.effectiveTo with
    | none => true
    | some t => decide (evaluatedAt < t)

/-- A clause of the corpus is the one its own version and id resolve to. -/
theorem PolicyCorpus.lookup_of_mem (corpus : PolicyCorpus) {c : PolicyClause}
    (hc : c ∈ corpus.clauses) :
    corpus.lookup c.normalizedFacts.policyVersion c.clauseId = some c :=
  Keyed.find_of_mem PolicyClause.resolutionKey corpus.uniquelyResolves hc

end AfterSales
