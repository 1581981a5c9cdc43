import AfterSales.Domain.Text
import AfterSales.Policy.Resolver

/-! The policy search in full: ranking, resolution with its citation, and the payload contract.

    Every clause has one entry in the index, and a query scores each entry. The best `top_k` entries
    are the candidates, whatever versions they belong to. A resolved clause is cited with a summary
    and an excerpt of its prose, and the payload lists the candidates by clause id. Both are records
    with contracts of their own, and a record that breaks its contract is not built. -/

namespace AfterSales

/-! ### Citations -/

/-- The parts of `VerifiedPolicyCitation` that its own contract bounds. -/
structure CitationFields extends VerifiedPolicyCitation where
  documentTitle : String
  displaySummary : String
  excerpt : String
  deriving DecidableEq

/-- `_controlled_citation_excerpt`. -/
def controlledCitationExcerpt (prose : PolicyProse) (clause : PolicyClause) : String :=
  String.ofList ((joinWords (prose.humanText clause).toList).take 280)

/-- The citation of a clause, before its contract is checked. -/
def citationFields (prose : PolicyProse) (clause : PolicyClause) : CitationFields where
  documentId := clause.documentId
  policyVersion := clause.normalizedFacts.policyVersion
  clauseId := clause.normalizedFacts.clauseId
  sourceHash := clause.contentHash
  documentTitle := prose.documentTitle clause
  displaySummary := prose.documentTitle clause ++ " / " ++ clause.normalizedFacts.policyVersion
    ++ " / " ++ clause.normalizedFacts.clauseId
  excerpt := controlledCitationExcerpt prose clause

/-- The lengths a citation may have; its ids are those of a clause and never empty. -/
def CitationFields.Valid (citation : CitationFields) : Prop :=
  1 ≤ citation.displaySummary.length ∧ citation.displaySummary.length ≤ 500 ∧
    1 ≤ citation.excerpt.length ∧ citation.excerpt.length ≤ 320

instance (citation : CitationFields) : Decidable citation.Valid :=
  inferInstanceAs (Decidable (_ ∧ _ ∧ _ ∧ _))

/-! ### Resolution -/

/-- A candidate with its rank, the best one first. -/
structure RankedCandidate extends RetrievedCandidate where
  rank : Nat
  deriving DecidableEq

/-- What the resolver returns: a status with the facts it rests on, or a miss. -/
structure Resolution where
  status : Option PolicyResolutionStatus := none
  retrievalMiss : Bool := false
  facts : Option PolicyFactSnapshot := none
  citation : Option CitationFields := none
  selectedRank : Option Nat := none
  selectedSimilarity : Option ℚ := none
  deriving DecidableEq

/-- How a search may fail: with the error that the tools expect, or with a broken contract. -/
inductive SearchFailure where
  | unavailable (e : PolicyRetrievalUnavailable)
  | validation
  deriving DecidableEq, Repr

/-- A candidate that names the clause. -/
def RankedCandidate.names (candidate : RankedCandidate) (clause : PolicyClause) : Bool :=
  decide (candidate.policyVersion = clause.normalizedFacts.policyVersion) &&
    decide (candidate.clauseId = clause.clauseId)

/-- `PolicyResolver.resolve`, with the citation and the selected candidate. -/
def PolicyRagService.resolveCandidates (rag : PolicyRagService) (prose : PolicyProse)
    (candidates : List RankedCandidate) (scope : PolicyScope) : Except SearchFailure Resolution :=
  match rag.resolve (candidates.map (·.toRetrievedCandidate)) scope with
  | .error e => .error (.unavailable e)
  | .ok .retrievalMiss => .ok { retrievalMiss := true }
  | .ok .notApplicable => .ok { status := some .notApplicable }
  | .ok .versionConflict => .ok { status := some .versionConflict }
  | .ok (.applicable authority _) =>
    let citation := citationFields prose authority
    if citation.Valid then
      let selected := candidates.find? (·.names authority)
      .ok { status := some .applicable
            facts := some authority.normalizedFacts
            citation := some citation
            selectedRank := selected.map (·.rank)
            selectedSimilarity := selected.map (·.score) }
    else .error .validation

/-! ### The authority of the resolver -/

/-- The clauses of a scope that are in force: neither poisoned nor outside their window. -/
def PolicyCorpus.activeClauses (corpus : PolicyCorpus) (scope : PolicyScope) : List PolicyClause :=
  corpus.clauses.filter (isActiveAuthorityClause scope)

/-- The candidate names a clause of the corpus, with its document and hashes. -/
def PolicyRagService.Matches (rag : PolicyRagService) (candidate : RetrievedCandidate) : Prop :=
  ∃ clause, rag.corpus.lookup candidate.policyVersion candidate.clauseId = some clause ∧
    clause.documentId = candidate.documentId ∧ clause.contentHash = candidate.sourceHash ∧
    rag.passageHash clause = candidate.passageHash

theorem checkCandidate_ok_iff {rag : PolicyRagService} {candidate : RetrievedCandidate} :
    rag.checkCandidate candidate = .ok () ↔ rag.Matches candidate := by
  unfold PolicyRagService.checkCandidate PolicyRagService.Matches
  cases rag.corpus.lookup candidate.policyVersion candidate.clauseId with
  | none => simp
  | some clause =>
    simp only [Option.some.injEq]
    split
    · rename_i h
      refine iff_of_false (by simp) ?_
      rintro ⟨c, rfl, h1, h2, h3⟩
      rcases h with h | h | h
      · exact h h1
      · exact h h2
      · exact h h3
    · rename_i h
      push Not at h
      exact iff_of_true rfl ⟨clause, rfl, h⟩

/-- A check over a list succeeds exactly when it succeeds everywhere. -/
theorem forM_ok_iff {α ε : Type} {check : α → Except ε Unit} {l : List α} :
    l.forM check = .ok () ↔ ∀ a ∈ l, check a = .ok () := by
  induction l with
  | nil => exact iff_of_true rfl (by simp)
  | cons a l ih =>
    show (check a >>= fun _ => l.forM check) = .ok () ↔ _
    cases h : check a with
    | error e => exact iff_of_false (fun h => by cases h) fun hall => by simp [hall a] at h
    | ok u =>
      rw [List.forall_mem_cons, h]
      exact ih.trans ⟨fun hall => ⟨rfl, hall⟩, fun hall => hall.2⟩

/-- Candidates that do not all match the corpus are an error. -/
theorem resolve_mismatch {rag : PolicyRagService} (candidates : List RetrievedCandidate)
    (scope : PolicyScope) (h : ¬ ∀ c ∈ candidates, rag.Matches c) :
    ∃ e, rag.resolve candidates scope = .error e := by
  unfold PolicyRagService.resolve
  cases hcheck : candidates.forM rag.checkCandidate with
  | error e => exact ⟨e, rfl⟩
  | ok u =>
    exact absurd (fun c hc => checkCandidate_ok_iff.mp (forM_ok_iff.mp hcheck c hc)) h

/-- The several active clauses of a scope are of one version. -/
def sameVersion : List PolicyClause → Bool
  | [] => true
  | first :: rest =>
    rest.all fun c => decide (c.normalizedFacts.policyVersion = first.normalizedFacts.policyVersion)

/-- What matching candidates resolve to, case by case over the active clauses of the scope. -/
inductive Resolves (candidates : List RetrievedCandidate) (scope : PolicyScope) :
    List PolicyClause → Except PolicyRetrievalUnavailable (ResolvedPolicy scope) → Prop
  | notApplicable : Resolves candidates scope [] (.ok .notApplicable)
  | applicable {authority : PolicyClause} (active : isActiveAuthorityClause scope authority)
      (recalled : ∃ c ∈ candidates, c.policyVersion = authority.normalizedFacts.policyVersion ∧
        c.clauseId = authority.clauseId) :
      Resolves candidates scope [authority] (.ok (.applicable authority active))
  | missed {authority : PolicyClause}
      (missed : ¬ ∃ c ∈ candidates, c.policyVersion = authority.normalizedFacts.policyVersion ∧
        c.clauseId = authority.clauseId) :
      Resolves candidates scope [authority] (.ok .retrievalMiss)
  | conflict {first second : PolicyClause} {rest : List PolicyClause}
      (versions : sameVersion (first :: second :: rest) = false) :
      Resolves candidates scope (first :: second :: rest) (.ok .versionConflict)
  | duplicate {first second : PolicyClause} {rest : List PolicyClause}
      (versions : sameVersion (first :: second :: rest) = true) :
      Resolves candidates scope (first :: second :: rest)
        (.error ⟨"POLICY_DUPLICATE_ACTIVE_CLAUSE", false⟩)

theorem resolve_spec {rag : PolicyRagService} {candidates : List RetrievedCandidate}
    {scope : PolicyScope} (h : ∀ c ∈ candidates, rag.Matches c) :
    Resolves candidates scope (rag.corpus.activeClauses scope) (rag.resolve candidates scope) := by
  have hcheck : candidates.forM rag.checkCandidate = .ok () :=
    forM_ok_iff.mpr fun c hc => checkCandidate_ok_iff.mpr (h c hc)
  unfold PolicyRagService.resolve PolicyCorpus.activeClauses
  simp only [hcheck]
  split
  · rename_i hnone
    rw [hnone]
    exact .notApplicable
  · rename_i authority hone
    split
    · rename_i hrecalled
      have hactive : isActiveAuthorityClause scope authority :=
        (List.mem_filter.mp (hone ▸ List.mem_singleton_self authority)).2
      have hresolves := Resolves.applicable hactive (by simpa using hrecalled)
      rwa [← hone] at hresolves
    · rename_i hmissed
      rw [hone]
      exact .missed (by simpa using hmissed)
  · rename_i first rest hsingle hmany
    rw [hmany]
    obtain ⟨second, rest, rfl⟩ : ∃ second rest', rest = second :: rest' := by
      cases rest with
      | nil => exact absurd rfl hsingle
      | cons second rest' => exact ⟨second, rest', rfl⟩
    split
    · rename_i hversions
      refine .conflict (Bool.eq_false_iff.mpr fun hall => ?_)
      obtain ⟨c, hc, hne⟩ := List.any_eq_true.mp hversions
      have hsame := List.all_eq_true.mp hall c hc
      simp only [ne_eq, decide_eq_true_eq] at hne hsame
      exact hne hsame
    · rename_i hversions
      refine .duplicate (List.all_eq_true.mpr fun c hc => ?_)
      rw [decide_eq_true_eq]
      by_contra hne
      exact hversions (List.any_eq_true.mpr ⟨c, hc, by simpa using hne⟩)

/-- Retrieved text has no influence beyond recall. -/
structure ResolverAuthority (rag : PolicyRagService) (prose : PolicyProse) (scope : PolicyScope) :
    Prop where
  applicable_iff : ∀ candidates : List RankedCandidate,
    (∀ c ∈ candidates, rag.Matches c.toRetrievedCandidate) →
    ((∃ r, rag.resolveCandidates prose candidates scope = .ok r ∧ r.status = some .applicable) ↔
      ∃ a, rag.corpus.activeClauses scope = [a] ∧ ∃ c ∈ candidates, c.names a)
  authority : ∀ candidates : List RankedCandidate,
    (∀ c ∈ candidates, rag.Matches c.toRetrievedCandidate) →
    ∀ r, rag.resolveCandidates prose candidates scope = .ok r → r.status = some .applicable →
      ∃ a, rag.corpus.activeClauses scope = [a] ∧ r.facts = some a.normalizedFacts ∧
        r.citation = some (citationFields prose a)
  independent : ∀ candidates candidates' : List RankedCandidate,
    (∀ c ∈ candidates, rag.Matches c.toRetrievedCandidate) →
    (∀ c ∈ candidates', rag.Matches c.toRetrievedCandidate) →
    ∀ r r', rag.resolveCandidates prose candidates scope = .ok r →
      rag.resolveCandidates prose candidates' scope = .ok r' → r.status = some .applicable →
      r'.status = some .applicable → r.facts = r'.facts ∧ r.citation = r'.citation
  settled : ∀ candidates candidates' : List RankedCandidate,
    (∀ c ∈ candidates, rag.Matches c.toRetrievedCandidate) →
    (∀ c ∈ candidates', rag.Matches c.toRetrievedCandidate) →
    ∀ status ∈ [PolicyResolutionStatus.versionConflict, .notApplicable],
      rag.resolveCandidates prose candidates scope = .ok { status := some status } →
      rag.resolveCandidates prose candidates' scope = .ok { status := some status }
  missed : ∀ candidates : List RankedCandidate,
    (∀ c ∈ candidates, rag.Matches c.toRetrievedCandidate) →
    ∀ a, rag.corpus.activeClauses scope = [a] → (¬ ∃ c ∈ candidates, c.names a) →
      rag.resolveCandidates prose candidates scope = .ok { retrievalMiss := true }
  mismatch : ∀ candidates : List RankedCandidate,
    (¬ ∀ c ∈ candidates, rag.Matches c.toRetrievedCandidate) →
    ∃ e, rag.resolveCandidates prose candidates scope = .error e

/-- The outcome of a call with matching candidates, with the facts and the citation of the active
    clause when there is one and it was recalled. -/
inductive Outcome (prose : PolicyProse) (candidates : List RankedCandidate) :
    List PolicyClause → Except SearchFailure Resolution → Prop
  | notApplicable : Outcome prose candidates [] (.ok { status := some .notApplicable })
  | applicable {a : PolicyClause} (recalled : ∃ c ∈ candidates, c.names a)
      (valid : (citationFields prose a).Valid) (selected : Option RankedCandidate)
      (chosen : ∀ c ∈ selected, c ∈ candidates) :
      Outcome prose candidates [a] (.ok ⟨some .applicable, false, some a.normalizedFacts,
        some (citationFields prose a), selected.map (·.rank), selected.map (·.score)⟩)
  | invalid {a : PolicyClause} (recalled : ∃ c ∈ candidates, c.names a)
      (invalid : ¬ (citationFields prose a).Valid) :
      Outcome prose candidates [a] (.error .validation)
  | missed {a : PolicyClause} (missed : ¬ ∃ c ∈ candidates, c.names a) :
      Outcome prose candidates [a] (.ok { retrievalMiss := true })
  | conflict {first second : PolicyClause} {rest : List PolicyClause}
      (versions : sameVersion (first :: second :: rest) = false) :
      Outcome prose candidates (first :: second :: rest) (.ok { status := some .versionConflict })
  | duplicate {first second : PolicyClause} {rest : List PolicyClause}
      (versions : sameVersion (first :: second :: rest) = true) :
      Outcome prose candidates (first :: second :: rest)
        (.error (.unavailable ⟨"POLICY_DUPLICATE_ACTIVE_CLAUSE", false⟩))

theorem names_iff {candidates : List RankedCandidate} {a : PolicyClause} :
    (∃ c ∈ candidates.map (·.toRetrievedCandidate),
      c.policyVersion = a.normalizedFacts.policyVersion ∧ c.clauseId = a.clauseId) ↔
      ∃ c ∈ candidates, c.names a := by
  simp [RankedCandidate.names]

theorem resolveCandidates_spec {rag : PolicyRagService} {candidates : List RankedCandidate}
    (scope : PolicyScope) (prose : PolicyProse)
    (h : ∀ c ∈ candidates, rag.Matches c.toRetrievedCandidate) :
    Outcome prose candidates (rag.corpus.activeClauses scope)
      (rag.resolveCandidates prose candidates scope) := by
  have hspec : Resolves (candidates.map (·.toRetrievedCandidate)) scope
      (rag.corpus.activeClauses scope)
      (rag.resolve (candidates.map (·.toRetrievedCandidate)) scope) := by
    refine resolve_spec fun c hc => ?_
    obtain ⟨ranked, hranked, rfl⟩ := List.mem_map.mp hc
    exact h ranked hranked
  unfold PolicyRagService.resolveCandidates
  generalize rag.corpus.activeClauses scope = active at hspec ⊢
  generalize rag.resolve (candidates.map (·.toRetrievedCandidate)) scope = resolved at hspec ⊢
  cases hspec with
  | notApplicable => exact .notApplicable
  | applicable active recalled =>
    simp only
    split
    · rename_i hvalid
      exact .applicable (names_iff.mp recalled) hvalid _ fun c hc => List.mem_of_find?_eq_some hc
    · rename_i hinvalid
      exact .invalid (names_iff.mp recalled) hinvalid
  | missed missed => exact .missed (fun hrecalled => missed (names_iff.mpr hrecalled))
  | conflict versions => exact .conflict versions
  | duplicate versions => exact .duplicate versions

/-- An applicable outcome rests on the active clause alone. -/
theorem applicable_spec {rag : PolicyRagService} {prose : PolicyProse}
    {candidates : List RankedCandidate} {scope : PolicyScope} {r : Resolution}
    (h : ∀ c ∈ candidates, rag.Matches c.toRetrievedCandidate)
    (hr : rag.resolveCandidates prose candidates scope = .ok r)
    (hstatus : r.status = some .applicable) :
    ∃ a, rag.corpus.activeClauses scope = [a] ∧ (∃ c ∈ candidates, c.names a) ∧
      r.facts = some a.normalizedFacts ∧ r.citation = some (citationFields prose a) := by
  have hspec := resolveCandidates_spec scope prose h
  rw [hr] at hspec
  generalize rag.corpus.activeClauses scope = active at hspec ⊢
  cases hspec with
  | applicable recalled valid selected chosen => exact ⟨_, rfl, recalled, rfl, rfl⟩
  | notApplicable => cases hstatus
  | missed missed => cases hstatus
  | conflict versions => cases hstatus

/-- The outcomes without an authority are settled by the active clauses. -/
theorem settled_spec {rag : PolicyRagService} {prose : PolicyProse}
    {candidates candidates' : List RankedCandidate} {scope : PolicyScope}
    {status : PolicyResolutionStatus}
    (h : ∀ c ∈ candidates, rag.Matches c.toRetrievedCandidate)
    (h' : ∀ c ∈ candidates', rag.Matches c.toRetrievedCandidate)
    (hr : rag.resolveCandidates prose candidates scope = .ok { status := some status }) :
    rag.resolveCandidates prose candidates' scope = .ok { status := some status } := by
  have hspec := resolveCandidates_spec scope prose h
  have hspec' := resolveCandidates_spec scope prose h'
  rw [hr] at hspec
  generalize rag.corpus.activeClauses scope = active at hspec hspec'
  generalize rag.resolveCandidates prose candidates' scope = outcome at hspec' ⊢
  cases hspec with
  | notApplicable =>
    cases hspec'
    rfl
  | conflict versions =>
    cases hspec' with
    | conflict versions' => rfl
    | duplicate versions' => exact absurd (versions.symm.trans versions') Bool.false_ne_true

/-- The candidate that an index entry of a clause becomes. -/
def clauseCandidate (rag : PolicyRagService) (clause : PolicyClause) (score : ℚ) (rank : Nat) :
    RankedCandidate where
  documentId := clause.documentId
  policyVersion := clause.normalizedFacts.policyVersion
  clauseId := clause.clauseId
  sourceHash := clause.contentHash
  passageHash := rag.passageHash clause
  score := score
  rank := rank

theorem clauseCandidate_matches {rag : PolicyRagService} {clause : PolicyClause}
    (h : clause ∈ rag.corpus.clauses) (score : ℚ) (rank : Nat) :
    rag.Matches (clauseCandidate rag clause score rank).toRetrievedCandidate :=
  ⟨clause, rag.corpus.lookup_of_mem h, rfl, rfl, rfl⟩

/-- The resolver has the authority it should have exactly in the scopes whose only active clause, if
    there is one, can be cited. -/
theorem resolverAuthority_iff (rag : PolicyRagService) (prose : PolicyProse)
    (scope : PolicyScope) : ResolverAuthority rag prose scope ↔
      ∀ a, rag.corpus.activeClauses scope = [a] → (citationFields prose a).Valid := by
  constructor
  · intro h a hactive
    have hmem : a ∈ rag.corpus.clauses :=
      (List.mem_filter.mp (hactive ▸ List.mem_singleton_self a : a ∈ rag.corpus.activeClauses scope)).1
    have hmatch : ∀ c ∈ [clauseCandidate rag a 0 1], rag.Matches c.toRetrievedCandidate := by
      intro c hc
      rw [List.mem_singleton.mp hc]
      exact clauseCandidate_matches hmem 0 1
    have hnames : ∃ c ∈ [clauseCandidate rag a 0 1], c.names a :=
      ⟨_, List.mem_singleton_self _, by simp [RankedCandidate.names, clauseCandidate]⟩
    obtain ⟨r, hr, -⟩ := (h.applicable_iff _ hmatch).mpr ⟨a, hactive, hnames⟩
    have hspec := resolveCandidates_spec scope prose hmatch
    rw [hactive, hr] at hspec
    cases hspec with
    | applicable recalled valid selected chosen => exact valid
    | missed missed => exact absurd hnames missed
  · intro hcite
    refine ⟨fun candidates h => ?_, fun candidates h r hr hstatus => ?_,
      fun candidates candidates' h h' r r' hr hr' hstatus hstatus' => ?_,
      fun candidates candidates' h h' status hsettled hr => ?_, fun candidates h a ha hmissed => ?_,
      fun candidates h => ?_⟩
    · constructor
      · rintro ⟨r, hr, hstatus⟩
        obtain ⟨a, ha, hrecalled, -⟩ := applicable_spec h hr hstatus
        exact ⟨a, ha, hrecalled⟩
      · rintro ⟨a, ha, hrecalled⟩
        have hspec := resolveCandidates_spec scope prose h
        rw [ha] at hspec
        generalize rag.resolveCandidates prose candidates scope = outcome at hspec ⊢
        cases hspec with
        | applicable recalled valid selected chosen => exact ⟨_, rfl, rfl⟩
        | invalid recalled invalid => exact absurd (hcite a ha) invalid
        | missed missed => exact absurd hrecalled missed
    · obtain ⟨a, ha, -, hfacts, hcitation⟩ := applicable_spec h hr hstatus
      exact ⟨a, ha, hfacts, hcitation⟩
    · obtain ⟨a, ha, -, hfacts, hcitation⟩ := applicable_spec h hr hstatus
      obtain ⟨a', ha', -, hfacts', hcitation'⟩ := applicable_spec h' hr' hstatus'
      obtain rfl : a = a' := List.singleton_inj.mp (ha.symm.trans ha')
      exact ⟨hfacts.trans hfacts'.symm, hcitation.trans hcitation'.symm⟩
    · exact settled_spec h h' hr
    · have hspec := resolveCandidates_spec scope prose h
      rw [ha] at hspec
      generalize rag.resolveCandidates prose candidates scope = outcome at hspec ⊢
      cases hspec with
      | missed missed => rfl
      | applicable recalled valid selected chosen => exact absurd recalled hmissed
      | invalid recalled invalid => exact absurd recalled hmissed
    · obtain ⟨e, he⟩ := resolve_mismatch (candidates.map (·.toRetrievedCandidate)) scope
        fun hall => h fun c hc =>
          hall _ (List.mem_map_of_mem hc)
      exact ⟨.unavailable e, by simp [PolicyRagService.resolveCandidates, he]⟩

/-! ### A clause without words -/

/-- A clause for parcels shown as delivered, in force at any time. -/
def deliveredClause (document version clauseId : String) : PolicyClause where
  documentId := document
  clauseId := clauseId
  normalizedFacts :=
    { eligible := true
      stalledAfterHours := none
      requiredEvidenceCodes := ["order_delivered"]
      effectiveFrom := 0
      effectiveTo := none
      serviceLevel := "standard"
      region := "cn-east"
      policyVersion := version
      clauseId := clauseId
      sourceHash := document
      issueType := .signedNotReceived
      window := PolicyFactSnapshot.always
      threshold := PolicyFactSnapshot.no_threshold
      codesNodup := by simp }
  contentHash := document
  poisoned := false
  clauseIdMatches := rfl
  contentHashMatches := rfl

def deliveredScope : PolicyScope := ⟨.signedNotReceived, "standard", "cn-east", 1000⟩

def blankProse : PolicyProse where
  documentTitle c := c.documentId
  documentVersion c := c.normalizedFacts.policyVersion
  humanText _ := " "

/-- A corpus of one clause, whose text is one blank. -/
def blankRag : PolicyRagService where
  corpus := { clauses := [deliveredClause "D0" "v1" "CL"], uniquelyResolves := by decide }
  prose := blankProse
  sourceRevision := "rev"
  passageHash := PolicyClause.contentHash
  rank _ _ _ := .ok []
  minimumSimilarity := 1 / 2

/-- The only active clause is recalled, and the resolver fails on its citation. -/
theorem blank_clause_not_applied : ¬ ResolverAuthority blankRag blankProse deliveredScope := by
  intro h
  have hmatch : ∀ c ∈ [clauseCandidate blankRag (deliveredClause "D0" "v1" "CL") 1 1],
      blankRag.Matches c.toRetrievedCandidate := by
    intro c hc
    rw [List.mem_singleton.mp hc]
    exact clauseCandidate_matches (List.mem_singleton_self _) 1 1
  obtain ⟨r, hr, -⟩ := (h.applicable_iff _ hmatch).mpr
    ⟨deliveredClause "D0" "v1" "CL", by decide +kernel, _, List.mem_singleton_self _,
      by decide +kernel⟩
  have hfails : blankRag.resolveCandidates blankProse
      [clauseCandidate blankRag (deliveredClause "D0" "v1" "CL") 1 1] deliveredScope
        = .error .validation := by decide +kernel
  rw [hfails] at hr
  cases hr

end AfterSales
