import AfterSales.Tools.Contracts

/-! The policy resolver: retrieval proposes candidates, the resolver decides.

    Retrieval is a ranking by similarity and has no authority; it is a parameter here. The resolver
    reloads every candidate from the corpus, then looks at the active clauses of the trusted scope
    alone: none, one, or several versions. A single active clause is applied only when retrieval has
    recalled it. Failures of retrieval and of canonical lookup are errors of the search, never a
    policy outcome. -/

namespace AfterSales

/-- `PolicyRetrievalUnavailable`, with the codes of its integrity subclass not retryable. -/
structure PolicyRetrievalUnavailable where
  code : String
  retryable : Bool := true
  deriving DecidableEq, Repr

/-- What retrieval knows of a passage, best first. -/
structure RetrievedCandidate where
  documentId : String
  policyVersion : String
  clauseId : String
  sourceHash : String
  passageHash : String
  score : ℚ
  deriving DecidableEq

/-- The trusted scope a policy is resolved for. -/
structure PolicyScope where
  issueType : IssueType
  serviceLevel : String
  region : String
  evaluatedAt : Instant
  deriving DecidableEq

/-- `_is_active_authority_clause`. -/
def isActiveAuthorityClause (scope : PolicyScope) (clause : PolicyClause) : Bool :=
  !clause.poisoned && clause.normalizedFacts.issueType = scope.issueType &&
    clause.normalizedFacts.serviceLevel = scope.serviceLevel &&
    clause.normalizedFacts.region = scope.region &&
    withinEffectiveWindow clause.normalizedFacts scope.evaluatedAt

/-- `ResolvedPolicy`; an applicable clause carries that it is active in the scope. -/
inductive ResolvedPolicy (scope : PolicyScope) where
  | retrievalMiss
  | notApplicable
  | versionConflict
  | applicable (authority : PolicyClause) (active : isActiveAuthorityClause scope authority)

/-- The prose of a corpus, which decides nothing: titles, document versions and texts. -/
structure PolicyProse where
  documentTitle : PolicyClause → String
  documentVersion : PolicyClause → String
  humanText : PolicyClause → String

/-- The parts of `EmbeddingDescriptor` that a payload names, with the names of the test adapter. -/
structure EmbeddingDescriptor where
  modelId : String := "fake-policy-embedding"
  modelRevision : String := "test-v1"
  deriving DecidableEq, Repr

/-- The retrieval side of the policy service: what it searches, ranks by, and cuts off at. -/
structure PolicyRagService where
  corpus : PolicyCorpus
  prose : PolicyProse
  /-- `adapter.descriptor`. -/
  embedding : EmbeddingDescriptor := {}
  /-- `source_revision`: corpus version, digest and contract version. -/
  sourceRevision : String
  passageHash : PolicyClause → String
  rank : IssueType → String → String → Except PolicyRetrievalUnavailable (List RetrievedCandidate)
  minimumSimilarity : ℚ

/-- A candidate that names no clause, or another text than the clause it names, is an error. -/
def PolicyRagService.checkCandidate (rag : PolicyRagService) (candidate : RetrievedCandidate) :
    Except PolicyRetrievalUnavailable Unit :=
  match rag.corpus.lookup candidate.policyVersion candidate.clauseId with
  | none => .error ⟨"POLICY_CITATION_NOT_FOUND", false⟩
  | some clause =>
    if clause.documentId ≠ candidate.documentId ∨ clause.contentHash ≠ candidate.sourceHash
        ∨ rag.passageHash clause ≠ candidate.passageHash then
      .error ⟨"POLICY_CITATION_HASH_MISMATCH", false⟩
    else .ok ()

/-- `PolicyResolver.resolve`. -/
def PolicyRagService.resolve (rag : PolicyRagService) (candidates : List RetrievedCandidate)
    (scope : PolicyScope) : Except PolicyRetrievalUnavailable (ResolvedPolicy scope) :=
  match candidates.forM rag.checkCandidate with
  | .error e => .error e
  | .ok () =>
    match h : rag.corpus.clauses.filter (isActiveAuthorityClause scope) with
    | [] => .ok .notApplicable
    | [authority] =>
      -- The corpus proves that an authority exists; a citation is not invented from it.
      if candidates.any fun c => c.policyVersion = authority.normalizedFacts.policyVersion
          ∧ c.clauseId = authority.clauseId then
        .ok (.applicable authority
          (List.mem_filter.mp (h ▸ List.mem_singleton_self authority)).2)
      else .ok .retrievalMiss
    | first :: rest =>
      if rest.any fun c => c.normalizedFacts.policyVersion ≠ first.normalizedFacts.policyVersion
      then .ok .versionConflict
      else .error ⟨"POLICY_DUPLICATE_ACTIVE_CLAUSE", false⟩

variable [PolicyDigest]

/-- A search without a resolution: no candidate, one below the threshold, or a recall miss. -/
def noHitPayload (orderId : String) (scope : PolicyScope) : PolicySearchPayload where
  orderId := orderId
  issueType := scope.issueType
  serviceLevel := scope.serviceLevel
  region := scope.region
  evaluatedAt := scope.evaluatedAt
  retrievalStatus := .noHit
  policyResolutionStatus := none
  policyFactSnapshot := none
  policyFactSnapshotHash := none
  citation := none
  resolvedIffHit := by simp
  applicable := by simp
  factsMatchScope := by simp
  citationMatches := by simp
  notApplicable := by simp

/-- A search that hit but resolved to no clause. -/
def unresolvedPayload (orderId : String) (scope : PolicyScope) (status : PolicyResolutionStatus)
    (h : status ≠ .applicable) : PolicySearchPayload where
  orderId := orderId
  issueType := scope.issueType
  serviceLevel := scope.serviceLevel
  region := scope.region
  evaluatedAt := scope.evaluatedAt
  retrievalStatus := .hit
  policyResolutionStatus := some status
  policyFactSnapshot := none
  policyFactSnapshotHash := none
  citation := none
  resolvedIffHit := by simp
  applicable := by simp [h]
  factsMatchScope := by simp
  citationMatches := by simp
  notApplicable := by simp

/-- A search that resolved to the one active clause of the scope. -/
def applicablePayload (orderId : String) (scope : PolicyScope) (authority : PolicyClause)
    (h : isActiveAuthorityClause scope authority) : PolicySearchPayload where
  orderId := orderId
  issueType := scope.issueType
  serviceLevel := scope.serviceLevel
  region := scope.region
  evaluatedAt := scope.evaluatedAt
  retrievalStatus := .hit
  policyResolutionStatus := some .applicable
  policyFactSnapshot := some authority.normalizedFacts
  policyFactSnapshotHash := some (PolicyDigest.materialSnapshotHash authority.normalizedFacts)
  citation := some ⟨authority.documentId, authority.normalizedFacts.policyVersion,
    authority.normalizedFacts.clauseId, authority.contentHash⟩
  resolvedIffHit := PolicySearchPayload.hit_resolves
  applicable := by simp
  factsMatchScope := by
    simp only [isActiveAuthorityClause, Bool.and_eq_true, decide_eq_true_eq] at h
    simp [h]
  citationMatches := by simp [authority.contentHashMatches]
  notApplicable := by simp

end AfterSales
