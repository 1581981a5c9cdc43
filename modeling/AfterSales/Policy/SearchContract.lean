import AfterSales.Policy.Search
import Mathlib.Data.List.Sort

/-! The payload contract of the policy search, and the searches that break it.

    The contract lists the candidates by clause id and forbids an id twice. A corpus may hold one
    clause id under several versions, and the ranking knows no ids, so both versions may be among
    the candidates. It also asks for a corpus version that is not empty, which no validator of the
    corpus does. Such a search ends in a validation error that the tools do not expect. -/

namespace AfterSales

variable [PolicyDigest]

/-- The parts of `PolicySearchPayload` that its contract may refuse. The format of the index is a
    constant, its digests are SHA-256, and the retrieval mode is one of two names. -/
structure SearchFields where
  orderId : String
  issueType : IssueType
  serviceLevel : String
  region : String
  evaluatedAt : Instant
  retrievalStatus : RetrievalStatus
  policyResolutionStatus : Option PolicyResolutionStatus
  corpusVersion : String
  embeddingModelId : String
  embeddingModelRevision : String
  candidateClauseIds : List String
  candidateCount : Nat
  selectedRank : Option Nat
  selectedSimilarity : Option ℚ
  top1Score : Option ℚ
  retrievalThreshold : ℚ
  policyFactSnapshot : Option PolicyFactSnapshot
  policyFactSnapshotHash : Option String
  citation : Option CitationFields
  deriving DecidableEq

/-- A cosine of unit vectors. -/
def IsCosine (score : ℚ) : Prop := -1 ≤ score ∧ score ≤ 1

instance (score : ℚ) : Decidable (IsCosine score) := inferInstanceAs (Decidable (_ ∧ _))

namespace SearchFields

/-- The bounds of the single fields. -/
def InBounds (p : SearchFields) : Prop :=
  p.orderId ≠ "" ∧ p.serviceLevel ≠ "" ∧ p.region ≠ "" ∧ p.corpusVersion ≠ "" ∧
    p.embeddingModelId ≠ "" ∧ p.embeddingModelRevision ≠ "" ∧ p.candidateClauseIds.length ≤ 3 ∧
    p.candidateCount ≤ 3 ∧ (∀ rank ∈ p.selectedRank, 1 ≤ rank ∧ rank ≤ 3) ∧
    (∀ score ∈ p.selectedSimilarity, IsCosine score) ∧ (∀ score ∈ p.top1Score, IsCosine score) ∧
    IsCosine p.retrievalThreshold

/-- The candidates are counted and listed once, and a best score goes with them. -/
def CandidatesAgree (p : SearchFields) : Prop :=
  p.candidateCount = p.candidateClauseIds.length ∧ p.candidateClauseIds.Nodup ∧
    (p.candidateCount = 0 ↔ p.top1Score = none)

/-- A hit has candidates and a resolution, anything else has no resolution. -/
def StatusAgrees (p : SearchFields) : Prop :=
  if p.retrievalStatus = .hit then p.policyResolutionStatus.isSome ∧ 1 ≤ p.candidateCount
  else p.policyResolutionStatus = none

/-- The facts and the citation of an applicable policy. -/
def AppliedFacts (p : SearchFields) (facts : PolicyFactSnapshot) (citation : CitationFields) :
    Prop :=
  facts.issueType = p.issueType ∧ facts.serviceLevel = p.serviceLevel ∧ facts.region = p.region ∧
    facts.policyVersion = citation.policyVersion ∧ facts.clauseId = citation.clauseId ∧
    facts.sourceHash = citation.sourceHash ∧
    p.policyFactSnapshotHash = some (PolicyDigest.materialSnapshotHash facts)

instance (p : SearchFields) (facts : PolicyFactSnapshot) (citation : CitationFields) :
    Decidable (p.AppliedFacts facts citation) :=
  inferInstanceAs (Decidable (_ ∧ _ ∧ _ ∧ _ ∧ _ ∧ _ ∧ _))

/-- Facts, hash and citation belong to an applicable policy, a selected candidate to a hit. -/
def FactsAgree (p : SearchFields) : Prop :=
  if p.policyResolutionStatus = some .applicable then
    ∃ facts ∈ p.policyFactSnapshot, ∃ citation ∈ p.citation, p.AppliedFacts facts citation
  else
    p.policyFactSnapshot = none ∧ p.policyFactSnapshotHash = none ∧ p.citation = none ∧
      (p.retrievalStatus = .noHit → p.selectedRank = none ∧ p.selectedSimilarity = none)

/-- The payload contract. -/
structure Valid (p : SearchFields) : Prop where
  bounds : p.InBounds
  candidates : p.CandidatesAgree
  status : p.StatusAgrees
  facts : p.FactsAgree

instance (p : SearchFields) : Decidable p.InBounds := by unfold InBounds; infer_instance
instance (p : SearchFields) : Decidable p.CandidatesAgree := by
  unfold CandidatesAgree; infer_instance
instance (p : SearchFields) : Decidable p.StatusAgrees := by unfold StatusAgrees; infer_instance
instance (p : SearchFields) : Decidable p.FactsAgree := by unfold FactsAgree; infer_instance
instance (p : SearchFields) : Decidable p.Valid :=
  decidable_of_iff (p.InBounds ∧ p.CandidatesAgree ∧ p.StatusAgrees ∧ p.FactsAgree)
    ⟨fun h => ⟨h.1, h.2.1, h.2.2.1, h.2.2.2⟩, fun h => ⟨h.1, h.2, h.3, h.4⟩⟩

variable {p : SearchFields}

theorem Valid.resolved_iff (h : p.Valid) :
    p.retrievalStatus = .hit ↔ p.policyResolutionStatus.isSome := by
  have hstatus := h.status
  unfold StatusAgrees at hstatus
  split at hstatus
  · rename_i hhit
    exact iff_of_true hhit hstatus.1
  · rename_i hmiss
    exact iff_of_false hmiss (by simp [hstatus])

theorem Valid.applied (h : p.Valid) (happlicable : p.policyResolutionStatus = some .applicable) :
    ∃ facts ∈ p.policyFactSnapshot, ∃ citation ∈ p.citation, p.AppliedFacts facts citation := by
  have hfacts := h.facts
  unfold FactsAgree at hfacts
  rwa [if_pos happlicable] at hfacts

theorem Valid.unapplied (h : p.Valid) (hother : p.policyResolutionStatus ≠ some .applicable) :
    p.policyFactSnapshot = none ∧ p.policyFactSnapshotHash = none ∧ p.citation = none := by
  have hfacts := h.facts
  unfold FactsAgree at hfacts
  rw [if_neg hother] at hfacts
  exact ⟨hfacts.1, hfacts.2.1, hfacts.2.2.1⟩

/-- Facts in a payload are those of an applicable policy. -/
theorem Valid.applied_of_facts (h : p.Valid) {facts : PolicyFactSnapshot}
    (hfacts : facts ∈ p.policyFactSnapshot) :
    ∃ citation ∈ p.citation, p.AppliedFacts facts citation := by
  by_cases happlicable : p.policyResolutionStatus = some .applicable
  · obtain ⟨facts', hmem, citation, hcitation, happlied⟩ := h.applied happlicable
    obtain rfl : facts' = facts := Option.mem_unique hmem hfacts
    exact ⟨citation, hcitation, happlied⟩
  · rw [(h.unapplied happlicable).1] at hfacts
    cases hfacts

/-- The payload of fields that meet the contract: the part that the tools and the gate read. -/
def payload (p : SearchFields) (h : p.Valid) : PolicySearchPayload where
  orderId := p.orderId
  issueType := p.issueType
  serviceLevel := p.serviceLevel
  region := p.region
  evaluatedAt := p.evaluatedAt
  retrievalStatus := p.retrievalStatus
  policyResolutionStatus := p.policyResolutionStatus
  policyFactSnapshot := p.policyFactSnapshot
  policyFactSnapshotHash := p.policyFactSnapshotHash
  citation := p.citation.map (·.toVerifiedPolicyCitation)
  resolvedIffHit := h.resolved_iff
  applicable := by
    intro happlicable
    obtain ⟨facts, hfacts, citation, hcitation, happlied⟩ := h.applied happlicable
    rw [Option.mem_def] at hfacts hcitation
    simp [hfacts, hcitation, happlied.2.2.2.2.2.2]
  factsMatchScope := by
    intro facts hfacts
    obtain ⟨citation, -, happlied⟩ := h.applied_of_facts hfacts
    exact ⟨happlied.1, happlied.2.1, happlied.2.2.1⟩
  citationMatches := by
    intro facts hfacts citation hcitation
    obtain ⟨cited, hcited, happlied⟩ := h.applied_of_facts hfacts
    rw [Option.mem_def] at hcited
    rw [hcited, Option.map_some, Option.mem_some_iff] at hcitation
    subst hcitation
    exact ⟨happlied.2.2.2.1, happlied.2.2.2.2.1, happlied.2.2.2.2.2.1⟩
  notApplicable := by
    intro hother
    obtain ⟨hfacts, hhash, hcitation⟩ := h.unapplied hother
    exact ⟨hfacts, hhash, by rw [hcitation, Option.map_none]⟩

end SearchFields

/-! ### The search -/

/-- The better entry comes first, and of equal scores the smaller clause id. -/
def ranksBefore (score : PolicyClause → ℚ) (a b : PolicyClause) : Prop :=
  score b < score a ∨ (score a = score b ∧ a.clauseId ≤ b.clauseId)

instance (score : PolicyClause → ℚ) : DecidableRel (ranksBefore score) := fun _ _ =>
  inferInstanceAs (Decidable (_ ∨ _))

/-- The entries that `_rank` keeps. -/
def rankedClauses (score : PolicyClause → ℚ) (clauses : List PolicyClause) (topK : Nat) :
    List PolicyClause :=
  (clauses.insertionSort (ranksBefore score)).take topK

/-- `_rank`. -/
def PolicyRagService.rankCandidates (rag : PolicyRagService) (score : PolicyClause → ℚ)
    (topK : Nat) : List RankedCandidate :=
  ((rankedClauses score rag.corpus.clauses topK).zipIdx 1).map fun ranked =>
    clauseCandidate rag ranked.1 (score ranked.1) ranked.2

/-- A payload for candidates and what they resolved to. -/
def searchFields (rag : PolicyRagService) (orderId : String) (scope : PolicyScope)
    (candidates : List RankedCandidate) (retrievalStatus : RetrievalStatus)
    (resolved : Resolution) : SearchFields where
  orderId := orderId
  issueType := scope.issueType
  serviceLevel := scope.serviceLevel
  region := scope.region
  evaluatedAt := scope.evaluatedAt
  retrievalStatus := retrievalStatus
  policyResolutionStatus := resolved.status
  corpusVersion := rag.corpus.corpusVersion
  embeddingModelId := rag.embedding.modelId
  embeddingModelRevision := rag.embedding.modelRevision
  candidateClauseIds := candidates.map (·.clauseId)
  candidateCount := candidates.length
  selectedRank := resolved.selectedRank
  selectedSimilarity := resolved.selectedSimilarity
  top1Score := candidates.head?.map (·.score)
  retrievalThreshold := rag.minimumSimilarity
  policyFactSnapshot := resolved.facts
  policyFactSnapshotHash := resolved.facts.map PolicyDigest.materialSnapshotHash
  citation := resolved.citation

/-- A payload is built when its fields meet its contract. -/
def buildPayload (p : SearchFields) : Except SearchFailure PolicySearchPayload :=
  if h : p.Valid then .ok (p.payload h) else .error .validation

/-- `_search`, once the query is scored. -/
def PolicyRagService.searchCandidates (rag : PolicyRagService) (prose : PolicyProse)
    (candidates : List RankedCandidate) (orderId : String) (scope : PolicyScope) :
    Except SearchFailure PolicySearchPayload :=
  match candidates with
  | [] => buildPayload (searchFields rag orderId scope [] .noHit {})
  | best :: rest =>
    if best.score < rag.minimumSimilarity then
      buildPayload (searchFields rag orderId scope (best :: rest) .noHit {})
    else
      match rag.resolveCandidates prose (best :: rest) scope with
      | .error e => .error e
      | .ok resolved =>
        if resolved.retrievalMiss then
          buildPayload (searchFields rag orderId scope (best :: rest) .noHit {})
        else buildPayload (searchFields rag orderId scope (best :: rest) .hit resolved)

/-- The candidates with their ranks, the first one first. -/
def withRanks (retrieved : List RetrievedCandidate) : List RankedCandidate :=
  (retrieved.zipIdx 1).map fun ranked => { ranked.1 with rank := ranked.2 }

/-- `PolicyRagService.search`: a payload, the error that the tools expect, or a validation error. -/
def PolicyRagService.search (rag : PolicyRagService) (orderId : String) (scope : PolicyScope) :
    Except SearchFailure PolicySearchPayload :=
  match rag.rank scope.issueType scope.serviceLevel scope.region with
  | .error e => .error (.unavailable e)
  | .ok retrieved => rag.searchCandidates rag.prose (withRanks retrieved) orderId scope

/-! ### What a payload says -/

/-- The payloads of a search: no hit, a hit without an authority, or the authority of the scope. -/
inductive Searched (rag : PolicyRagService) (orderId : String) (scope : PolicyScope) :
    PolicySearchPayload → Prop
  | noHit : Searched rag orderId scope (noHitPayload orderId scope)
  | unresolved (status : PolicyResolutionStatus) (h : status ≠ .applicable) :
      Searched rag orderId scope (unresolvedPayload orderId scope status h)
  | applied (authority : PolicyClause) (only : rag.corpus.activeClauses scope = [authority])
      (h : isActiveAuthorityClause scope authority) :
      Searched rag orderId scope (applicablePayload orderId scope authority h)

theorem buildPayload_ok {p : SearchFields} {payload : PolicySearchPayload}
    (h : buildPayload p = .ok payload) : ∃ hvalid : p.Valid, payload = p.payload hvalid := by
  unfold buildPayload at h
  split at h
  · rename_i hvalid
    exact ⟨hvalid, (Except.ok.inj h).symm⟩
  · cases h

omit [PolicyDigest] in
/-- Candidates that do not match the corpus resolve to nothing. -/
theorem matches_of_resolved {rag : PolicyRagService} {prose : PolicyProse}
    {candidates : List RankedCandidate} {scope : PolicyScope} {resolved : Resolution}
    (h : rag.resolveCandidates prose candidates scope = .ok resolved) :
    ∀ c ∈ candidates, rag.Matches c.toRetrievedCandidate := by
  by_contra hmismatch
  obtain ⟨e, he⟩ := resolve_mismatch (candidates.map (·.toRetrievedCandidate)) scope
    fun hall => hmismatch fun c hc => hall _ (List.mem_map_of_mem hc)
  simp [PolicyRagService.resolveCandidates, he] at h

/-- A search that completes has one of these payloads. -/
theorem searchCandidates_ok {rag : PolicyRagService} {prose : PolicyProse}
    {candidates : List RankedCandidate} {orderId : String} {scope : PolicyScope}
    {payload : PolicySearchPayload}
    (h : rag.searchCandidates prose candidates orderId scope = .ok payload) :
    Searched rag orderId scope payload := by
  have noHit : ∀ candidates, buildPayload (searchFields rag orderId scope candidates .noHit {}) =
      .ok payload → Searched rag orderId scope payload := by
    intro candidates hbuilt
    obtain ⟨hvalid, rfl⟩ := buildPayload_ok hbuilt
    exact .noHit
  cases candidates with
  | nil => exact noHit [] h
  | cons best rest =>
    simp only [PolicyRagService.searchCandidates] at h
    split at h
    · exact noHit _ h
    cases hresolved : rag.resolveCandidates prose (best :: rest) scope with
    | error e =>
      rw [hresolved] at h
      cases h
    | ok resolved =>
      rw [hresolved] at h
      simp only at h
      have hspec := resolveCandidates_spec scope prose (matches_of_resolved hresolved)
      rw [hresolved] at hspec
      have hall : ∀ a ∈ rag.corpus.activeClauses scope, isActiveAuthorityClause scope a :=
        fun a ha => (List.mem_filter.mp ha).2
      have hsame : ∀ active, rag.corpus.activeClauses scope = active →
          Outcome prose (best :: rest) active (.ok resolved) →
          Searched rag orderId scope payload := by
        intro active hactive houtcome
        cases houtcome with
        | notApplicable =>
          obtain ⟨hvalid, rfl⟩ := buildPayload_ok h
          exact .unresolved .notApplicable (by decide)
        | @applicable a recalled valid selected chosen =>
          obtain ⟨hvalid, rfl⟩ := buildPayload_ok h
          exact .applied a hactive (hall a (hactive ▸ List.mem_singleton_self a))
        | missed missed => exact noHit _ h
        | conflict versions =>
          obtain ⟨hvalid, rfl⟩ := buildPayload_ok h
          exact .unresolved .versionConflict (by decide)
      exact hsame _ rfl hspec

theorem PolicyRagService.search_ok {rag : PolicyRagService} {orderId : String}
    {scope : PolicyScope} {p : PolicySearchPayload} (h : rag.search orderId scope = .ok p) :
    Searched rag orderId scope p := by
  unfold PolicyRagService.search at h
  split at h
  · cases h
  · exact searchCandidates_ok h

/-- What a completed search guarantees about its payload. -/
structure SearchedFor (orderId : String) (scope : PolicyScope) (p : PolicySearchPayload) : Prop where
  order : p.orderId = orderId
  issue : p.issueType = scope.issueType
  level : p.serviceLevel = scope.serviceLevel
  zone : p.region = scope.region
  time : p.evaluatedAt = scope.evaluatedAt
  ran : p.retrievalStatus ≠ .unavailable
  inWindow : ∀ f ∈ p.policyFactSnapshot, withinEffectiveWindow f scope.evaluatedAt

/-- Whatever a search returns is about the scope it was asked for. -/
theorem PolicyRagService.search_spec {rag : PolicyRagService} {orderId : String}
    {scope : PolicyScope} {p : PolicySearchPayload} (h : rag.search orderId scope = .ok p) :
    SearchedFor orderId scope p := by
  cases search_ok h with
  | noHit => exact ⟨rfl, rfl, rfl, rfl, rfl, by simp [noHitPayload], by simp [noHitPayload]⟩
  | unresolved status hstatus =>
    exact ⟨rfl, rfl, rfl, rfl, rfl, by simp [unresolvedPayload], by simp [unresolvedPayload]⟩
  | applied authority only hactive =>
    refine ⟨rfl, rfl, rfl, rfl, rfl, by simp [applicablePayload], ?_⟩
    simp only [isActiveAuthorityClause, Bool.and_eq_true] at hactive
    simpa [applicablePayload] using hactive.2

/-! ### When a payload meets its contract -/

/-- The parameters of a search are in range: the trusted scope is named, and there are at most three
    candidates, each with a cosine for its score and a rank up to three. -/
structure InRange (rag : PolicyRagService) (orderId : String) (scope : PolicyScope)
    (candidates : List RankedCandidate) : Prop where
  order : orderId ≠ ""
  level : scope.serviceLevel ≠ ""
  region : scope.region ≠ ""
  threshold : IsCosine rag.minimumSimilarity
  few : candidates.length ≤ 3
  each : ∀ c ∈ candidates, IsCosine c.score ∧ 1 ≤ c.rank ∧ c.rank ≤ 3

section Contract

variable {rag : PolicyRagService} {orderId : String} {scope : PolicyScope}
  {candidates : List RankedCandidate}

omit [PolicyDigest] in
theorem InRange.best (h : InRange rag orderId scope candidates) :
    ∀ score ∈ candidates.head?.map (·.score), IsCosine score := by
  intro score hscore
  obtain ⟨c, hc, rfl⟩ := Option.map_eq_some_iff.mp hscore
  exact (h.each c (List.mem_of_head? hc)).1

omit [PolicyDigest] in
theorem head_none_iff : (candidates.length = 0 ↔ candidates.head?.map (·.score) = none) := by
  cases candidates <;> simp

/-- What a search is labelled with is not empty: the corpus version and the embedding model. -/
def PolicyRagService.Labelled (rag : PolicyRagService) : Prop :=
  rag.corpus.corpusVersion ≠ "" ∧ rag.embedding.modelId ≠ "" ∧ rag.embedding.modelRevision ≠ ""

theorem searchFields_labelled {retrievalStatus : RetrievalStatus} {resolved : Resolution}
    (h : (searchFields rag orderId scope candidates retrievalStatus resolved).InBounds) :
    rag.Labelled := ⟨h.2.2.2.1, h.2.2.2.2.1, h.2.2.2.2.2.1⟩

/-- Without a selected candidate, an empty label or a repeated clause id breaks the contract. -/
theorem statusFields_valid_iff (h : InRange rag orderId scope candidates)
    {retrievalStatus : RetrievalStatus} {status : Option PolicyResolutionStatus}
    (hstatus : if retrievalStatus = .hit then status.isSome ∧ candidates ≠ [] else status = none)
    (hne : status ≠ some .applicable) :
    (searchFields rag orderId scope candidates retrievalStatus { status := status }).Valid ↔
      rag.Labelled ∧ (candidates.map (·.clauseId)).Nodup := by
  constructor
  · intro hvalid
    exact ⟨searchFields_labelled hvalid.bounds, hvalid.candidates.2.1⟩
  rintro ⟨hlabelled, hnodup⟩
  refine ⟨?_, ?_, ?_, ?_⟩
  · exact ⟨h.order, h.level, h.region, hlabelled.1, hlabelled.2.1, hlabelled.2.2,
      by simpa [searchFields] using h.few, h.few,
      by simp [searchFields], by simp [searchFields], h.best, h.threshold⟩
  · exact ⟨(List.length_map _).symm, hnodup, head_none_iff⟩
  · unfold SearchFields.StatusAgrees
    split at hstatus
    · rename_i hhit
      rw [if_pos (by exact hhit)]
      exact ⟨hstatus.1, List.length_pos_iff.mpr hstatus.2⟩
    · rename_i hmiss
      rw [if_neg (by exact hmiss)]
      exact hstatus
  · unfold SearchFields.FactsAgree
    rw [if_neg (by exact hne)]
    exact ⟨rfl, rfl, rfl, fun _ => ⟨rfl, rfl⟩⟩

/-- With the active clause applied, an empty label or a repeated clause id breaks the contract. -/
theorem appliedFields_valid_iff (h : InRange rag orderId scope candidates) (hne : candidates ≠ [])
    {prose : PolicyProse} {a : PolicyClause} (hactive : isActiveAuthorityClause scope a)
    {selected : Option RankedCandidate} (hselected : ∀ c ∈ selected, c ∈ candidates) :
    (searchFields rag orderId scope candidates .hit
      ⟨some .applicable, false, some a.normalizedFacts, some (citationFields prose a),
        selected.map (·.rank), selected.map (·.score)⟩).Valid ↔
      rag.Labelled ∧ (candidates.map (·.clauseId)).Nodup := by
  simp only [isActiveAuthorityClause, Bool.and_eq_true, decide_eq_true_eq] at hactive
  obtain ⟨⟨⟨⟨-, hissue⟩, hlevel⟩, hregion⟩, -⟩ := hactive
  constructor
  · intro hvalid
    exact ⟨searchFields_labelled hvalid.bounds, hvalid.candidates.2.1⟩
  rintro ⟨hlabelled, hnodup⟩
  refine ⟨?_, ?_, ?_, ?_⟩
  · refine ⟨h.order, h.level, h.region, hlabelled.1, hlabelled.2.1, hlabelled.2.2,
      by simpa [searchFields] using h.few, h.few,
      fun rank hrank => ?_, fun score hscore => ?_, h.best, h.threshold⟩
    · obtain ⟨c, hc, rfl⟩ := Option.map_eq_some_iff.mp hrank
      exact (h.each c (hselected c hc)).2
    · obtain ⟨c, hc, rfl⟩ := Option.map_eq_some_iff.mp hscore
      exact (h.each c (hselected c hc)).1
  · exact ⟨(List.length_map _).symm, hnodup, head_none_iff⟩
  · unfold SearchFields.StatusAgrees
    rw [if_pos (by rfl)]
    exact ⟨rfl, List.length_pos_iff.mpr hne⟩
  · unfold SearchFields.FactsAgree
    rw [if_pos (by rfl)]
    exact ⟨_, rfl, _, rfl, hissue, hlevel, hregion, rfl, rfl, a.contentHashMatches.symm, rfl⟩

theorem buildPayload_ne_validation {p : SearchFields} :
    buildPayload p ≠ .error .validation ↔ p.Valid := by
  unfold buildPayload
  split
  · rename_i h
    exact iff_of_true (by simp) h
  · rename_i h
    exact iff_of_false (by simp) h

end Contract

/-! ### The candidates of a query -/

section Ranking

variable {rag : PolicyRagService} {score : PolicyClause → ℚ} {topK : Nat}

omit [PolicyDigest] in
theorem mem_of_ranked {a : PolicyClause}
    (h : a ∈ rankedClauses score rag.corpus.clauses topK) : a ∈ rag.corpus.clauses :=
  (List.mem_insertionSort _).mp (List.mem_of_mem_take h)

omit [PolicyDigest] in
theorem rankCandidates_clauseIds : (rag.rankCandidates score topK).map (·.clauseId) =
    (rankedClauses score rag.corpus.clauses topK).map (·.clauseId) := by
  unfold PolicyRagService.rankCandidates
  rw [List.map_map]
  exact (List.map_map (f := Prod.fst) (g := PolicyClause.clauseId)
    (l := (rankedClauses score rag.corpus.clauses topK).zipIdx 1)).symm.trans
    (by rw [List.zipIdx_map_fst])

omit [PolicyDigest] in
theorem mem_rankCandidates {c : RankedCandidate} (h : c ∈ rag.rankCandidates score topK) :
    ∃ a rank, a ∈ rankedClauses score rag.corpus.clauses topK ∧ 1 ≤ rank ∧ rank ≤ topK ∧
      c = clauseCandidate rag a (score a) rank := by
  obtain ⟨⟨a, rank⟩, hmem, rfl⟩ := List.mem_map.mp h
  have hindex := List.mem_zipIdx hmem
  have hlength : (rankedClauses score rag.corpus.clauses topK).length ≤ topK :=
    List.length_take_le _ _
  exact ⟨a, rank, List.fst_mem_of_mem_zipIdx hmem, hindex.1, by omega, rfl⟩

omit [PolicyDigest] in
theorem rankCandidates_match :
    ∀ c ∈ rag.rankCandidates score topK, rag.Matches c.toRetrievedCandidate := by
  intro c hc
  obtain ⟨a, rank, ha, -, -, rfl⟩ := mem_rankCandidates hc
  exact clauseCandidate_matches (mem_of_ranked ha) _ _

omit [PolicyDigest] in
/-- A clause of the corpus is recalled exactly when it is among the best. -/
theorem rankCandidates_names_iff {a : PolicyClause} (ha : a ∈ rag.corpus.clauses) :
    (∃ c ∈ rag.rankCandidates score topK, c.names a) ↔
      a ∈ rankedClauses score rag.corpus.clauses topK := by
  constructor
  · rintro ⟨c, hc, hnames⟩
    obtain ⟨b, rank, hb, -, -, rfl⟩ := mem_rankCandidates hc
    rw [RankedCandidate.names, Bool.and_eq_true] at hnames
    have hversion : b.normalizedFacts.policyVersion = a.normalizedFacts.policyVersion :=
      of_decide_eq_true hnames.1
    have hclause : b.clauseId = a.clauseId := of_decide_eq_true hnames.2
    have hlookup := rag.corpus.lookup_of_mem (mem_of_ranked hb)
    rw [hversion, hclause, rag.corpus.lookup_of_mem ha, Option.some.injEq] at hlookup
    exact hlookup ▸ hb
  · intro hmem
    obtain ⟨i, hi, hget⟩ := List.mem_iff_getElem.mp hmem
    refine ⟨clauseCandidate rag a (score a) (1 + i), List.mem_map.mpr ⟨(a, 1 + i), ?_, rfl⟩,
      by simp [RankedCandidate.names, clauseCandidate]⟩
    exact List.mk_add_mem_zipIdx_iff_getElem?.mpr (by rw [List.getElem?_eq_getElem hi, hget])

end Ranking

/-! ### Which searches complete -/

/-- The best entry reaches the threshold, so the search resolves. -/
def Reaches (rag : PolicyRagService) (score : PolicyClause → ℚ) (topK : Nat) : Prop :=
  ∃ best ∈ (rankedClauses score rag.corpus.clauses topK).head?, rag.minimumSimilarity ≤ score best

/-- Several active clauses of one version: the resolver refuses the corpus itself. -/
def DuplicateAuthority (rag : PolicyRagService) (scope : PolicyScope) : Prop :=
  1 < (rag.corpus.activeClauses scope).length ∧ sameVersion (rag.corpus.activeClauses scope)

/-- What a search asks of the corpus and the ranking: the labels are not empty, the best entries have
    different clause ids, and an applied clause can be cited. -/
def Searchable (rag : PolicyRagService) (prose : PolicyProse) (score : PolicyClause → ℚ)
    (topK : Nat) (scope : PolicyScope) : Prop :=
  rag.Labelled ∧ ((rankedClauses score rag.corpus.clauses topK).map (·.clauseId)).Nodup ∧
    (Reaches rag score topK → ∀ a, rag.corpus.activeClauses scope = [a] →
      a ∈ rankedClauses score rag.corpus.clauses topK → (citationFields prose a).Valid)

/-- A search returns a payload or raises the error that the tools expect. -/
def PolicyRagService.SearchCompletes (rag : PolicyRagService) (prose : PolicyProse)
    (score : PolicyClause → ℚ) (topK : Nat) (orderId : String) (scope : PolicyScope) : Prop :=
  rag.searchCandidates prose (rag.rankCandidates score topK) orderId scope ≠ .error .validation

omit [PolicyDigest] in
theorem rankCandidates_reaches_iff {rag : PolicyRagService} {score : PolicyClause → ℚ} {topK : Nat} :
    Reaches rag score topK ↔ ∃ best ∈ (rag.rankCandidates score topK).head?,
      rag.minimumSimilarity ≤ best.score := by
  unfold Reaches PolicyRagService.rankCandidates
  cases rankedClauses score rag.corpus.clauses topK <;> simp [clauseCandidate]

variable {rag : PolicyRagService} {prose : PolicyProse} {score : PolicyClause → ℚ} {topK : Nat}
  {orderId : String} {scope : PolicyScope}

omit [PolicyDigest] in
/-- The candidates of a query are in range when its parameters are. -/
theorem inRange_rankCandidates (horder : orderId ≠ "") (hlevel : scope.serviceLevel ≠ "")
    (hregion : scope.region ≠ "") (hthreshold : IsCosine rag.minimumSimilarity) (htop : topK ≤ 3)
    (hscore : ∀ c ∈ rag.corpus.clauses, IsCosine (score c)) :
    InRange rag orderId scope (rag.rankCandidates score topK) := by
  refine ⟨horder, hlevel, hregion, hthreshold, ?_, fun c hc => ?_⟩
  · have hlength : (rankedClauses score rag.corpus.clauses topK).length ≤ topK :=
      List.length_take_le _ _
    simp only [PolicyRagService.rankCandidates, List.length_map, List.length_zipIdx]
    omega
  · obtain ⟨a, rank, ha, hpos, hle, rfl⟩ := mem_rankCandidates hc
    exact ⟨hscore a (mem_of_ranked ha), hpos, hle.trans htop⟩

/-- A search that resolves completes exactly when the resolver refuses the corpus, or it is labelled,
    the clause ids are different and the applied clause can be cited. -/
theorem resolved_completes_iff {best : RankedCandidate} {rest : List RankedCandidate}
    (hcandidates : rag.rankCandidates score topK = best :: rest)
    (hrange : InRange rag orderId scope (best :: rest)) :
    (match rag.resolveCandidates prose (best :: rest) scope with
      | .error e => .error e
      | .ok resolved =>
        if resolved.retrievalMiss then
          buildPayload (searchFields rag orderId scope (best :: rest) .noHit {})
        else buildPayload (searchFields rag orderId scope (best :: rest) .hit resolved)) ≠
        Except.error SearchFailure.validation ↔
      DuplicateAuthority rag scope ∨ (rag.Labelled ∧ ((best :: rest).map (·.clauseId)).Nodup ∧
        ∀ a, rag.corpus.activeClauses scope = [a] →
          a ∈ rankedClauses score rag.corpus.clauses topK → (citationFields prose a).Valid) := by
  have hspec := resolveCandidates_spec scope prose (hcandidates ▸ rankCandidates_match)
  have hrecalled : ∀ a ∈ rag.corpus.activeClauses scope, ((∃ c ∈ best :: rest, c.names a) ↔
      a ∈ rankedClauses score rag.corpus.clauses topK) := by
    intro a ha
    rw [← hcandidates]
    exact rankCandidates_names_iff (List.mem_filter.mp ha).1
  have hall : ∀ a ∈ rag.corpus.activeClauses scope, isActiveAuthorityClause scope a :=
    fun a ha => (List.mem_filter.mp ha).2
  unfold DuplicateAuthority
  generalize rag.corpus.activeClauses scope = active at hspec hrecalled hall ⊢
  generalize rag.resolveCandidates prose (best :: rest) scope = resolved at hspec ⊢
  cases hspec with
  | notApplicable =>
    simp only [Bool.false_eq_true, if_false]
    rw [buildPayload_ne_validation, statusFields_valid_iff hrange (by simp) (by decide)]
    simp
  | @applicable a recalled valid selected chosen =>
    simp only [Bool.false_eq_true, if_false]
    rw [buildPayload_ne_validation, appliedFields_valid_iff hrange (by simp)
      (hall a (List.mem_singleton_self a)) chosen]
    simp [valid]
  | @invalid a recalled invalid =>
    have hmem := (hrecalled a (List.mem_singleton_self a)).mp recalled
    simp [invalid, hmem]
  | @missed a missed =>
    have hmem := (hrecalled a (List.mem_singleton_self a)).not.mp missed
    simp only [if_true]
    rw [buildPayload_ne_validation, statusFields_valid_iff hrange (by simp) (by decide)]
    simp [hmem]
  | conflict versions =>
    simp only [Bool.false_eq_true, if_false]
    rw [buildPayload_ne_validation, statusFields_valid_iff hrange (by simp) (by decide)]
    simp [versions]
  | duplicate versions => simp [versions]

/-- A search completes exactly when it reaches a corpus that the resolver refuses, or when its labels
    are not empty, the best entries have different clause ids and the applied clause, if there is
    one, can be cited. -/
theorem searchCompletes_iff (rag : PolicyRagService) (prose : PolicyProse)
    (score : PolicyClause → ℚ) (topK : Nat) (orderId : String) (scope : PolicyScope)
    (horder : orderId ≠ "") (hlevel : scope.serviceLevel ≠ "") (hregion : scope.region ≠ "")
    (hthreshold : IsCosine rag.minimumSimilarity) (htop : 1 ≤ topK ∧ topK ≤ 3)
    (hscore : ∀ c ∈ rag.corpus.clauses, IsCosine (score c)) :
    rag.SearchCompletes prose score topK orderId scope ↔
      (Reaches rag score topK ∧ DuplicateAuthority rag scope) ∨
        Searchable rag prose score topK scope := by
  have hrange := inRange_rankCandidates horder hlevel hregion hthreshold htop.2 hscore
  unfold PolicyRagService.SearchCompletes Searchable
  rw [rankCandidates_reaches_iff, ← rankCandidates_clauseIds]
  cases hcandidates : rag.rankCandidates score topK with
  | nil =>
    rw [hcandidates] at hrange
    simp only [PolicyRagService.searchCandidates]
    rw [buildPayload_ne_validation, statusFields_valid_iff hrange (by simp) (by decide)]
    simp
  | cons best rest =>
    rw [hcandidates] at hrange
    simp only [PolicyRagService.searchCandidates]
    split
    · rename_i hbelow
      rw [buildPayload_ne_validation, statusFields_valid_iff hrange (by simp) (by decide)]
      simp [Rat.not_le.mpr hbelow]
    · rename_i hreached
      rw [resolved_completes_iff hcandidates hrange]
      simp [Rat.not_lt.mp hreached]

/-! ### One clause id under two versions -/

/-- The validators of a corpus and `verify`; its clauses all carry its source declaration. -/
structure CorpusAccepted (corpus : PolicyCorpus) (prose : PolicyProse) : Prop where
  identifiers : (corpus.clauses.map fun c =>
    (c.documentId, prose.documentVersion c, c.clauseId)).Nodup
  prose : ∀ c ∈ corpus.clauses, prose.documentTitle c ≠ "" ∧ prose.documentVersion c ≠ "" ∧
    1 ≤ (prose.humanText c).length ∧ (prose.humanText c).length ≤ 2000
  verified : if corpus.corpusVersion = "policy-corpus-v2" then
      (∀ id ∈ ["CL-STD-SNR-V2", "CL-STD-STL-V2", "CL-EXPIRED-SNR-V1", "CL-FUTURE-SNR-V3",
        "CL-CONFLICT-SNR-A", "CL-CONFLICT-SNR-B", "CL-POISON-SNR", "CL-IRRELEVANT-CARRIER"],
        id ∈ corpus.clauses.map (·.clauseId)) ∧
      10 ≤ (corpus.clauses.map (·.documentId)).dedup.length
    else 10 ≤ corpus.clauses.length

end AfterSales

namespace AfterSales

section VersionedClause

attribute [local instance] PolicyDigest.bySource

/-- Ten clauses, two of them one clause id under two versions. -/
def versionedCorpus : PolicyCorpus where
  clauses := [deliveredClause "D0" "v1" "CL", deliveredClause "D1" "v2" "CL",
    deliveredClause "D2" "v1" "A", deliveredClause "D3" "v1" "B", deliveredClause "D4" "v1" "C",
    deliveredClause "D5" "v1" "D", deliveredClause "D6" "v1" "E", deliveredClause "D7" "v1" "F",
    deliveredClause "D8" "v1" "G", deliveredClause "D9" "v1" "H"]
  uniquelyResolves := by decide +kernel
  corpusVersion := "policy-corpus-custom"

def plainProse : PolicyProse where
  documentTitle c := c.documentId
  documentVersion c := c.normalizedFacts.policyVersion
  humanText _ := "rule"

def versionedRag : PolicyRagService where
  corpus := versionedCorpus
  prose := plainProse
  sourceRevision := "rev"
  passageHash := PolicyClause.contentHash
  rank _ _ _ := .ok []
  minimumSimilarity := 1 / 2

/-- The query is about the clause with two versions. -/
def versionedScore (c : PolicyClause) : ℚ := if c.clauseId = "CL" then 1 else 0

/-- The corpus is accepted, both versions are active, and the search fails on its own payload. -/
theorem two_versions_fail_validation :
    CorpusAccepted versionedCorpus plainProse ∧
      (∀ c ∈ versionedCorpus.clauses, IsCosine (versionedScore c)) ∧
      ¬ versionedRag.SearchCompletes plainProse versionedScore 3 "ORD-1" deliveredScope := by
  refine ⟨⟨by decide +kernel, by decide +kernel, by decide +kernel⟩, by decide +kernel, ?_⟩
  have hfails : versionedRag.searchCandidates plainProse
      (versionedRag.rankCandidates versionedScore 3) "ORD-1" deliveredScope
        = .error .validation := by
    decide +kernel
  exact fun h => h hfails

/-- Ten different clause ids of one version end the search with the error the tools expect. -/
theorem searchCompletes_delivered :
    (versionedRag.SearchCompletes plainProse (fun _ => 0) 3 "ORD-1" deliveredScope ↔
      (Reaches versionedRag (fun _ => 0) 3 ∧ DuplicateAuthority versionedRag deliveredScope) ∨
        Searchable versionedRag plainProse (fun _ => 0) 3 deliveredScope) :=
  searchCompletes_iff versionedRag plainProse (fun _ => 0) 3 "ORD-1" deliveredScope
    (by decide) (by decide) (by decide) (by decide +kernel) (by decide) (by decide +kernel)

end VersionedClause

end AfterSales
