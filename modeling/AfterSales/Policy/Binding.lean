import AfterSales.Actions.Proposals
import AfterSales.Lib.Json
import AfterSales.Policy.SearchContract

/-! Policy bindings as they are stored, and the check that reads them back.

    A proposal stores its binding as JSON: the identity of a clause, its facts and two hashes.
    Before the write the facts are read again under their own contract and compared with those of
    the clause that the binding names. Nothing else in the stored value is trusted.

        payload ──policy_binding──▶ JSON ──read──▶ facts ══ facts of the clause -/

namespace AfterSales

/-! ### Facts as JSON -/

/-- `^[0-9a-f]{64}$`. -/
def isSourceHash (s : String) : Bool :=
  s.length = 64 && s.toList.all fun c => c.isDigit || ('a' ≤ c && c ≤ 'f')

/-- How truth values, whole numbers and times are read from JSON. Each accepts more than the values
    of its own kind, such as numbers in texts, but takes its own values as they are. -/
class FactReading where
  bool : Json → Option Bool
  int : Json → Option Int
  instant : Json → Option Instant
  isoformat : Instant → String
  bool_bool : ∀ b, bool (.bool b) = some b
  int_int : ∀ n, int (.int n) = some n
  instant_isoformat : ∀ t, instant (.str (isoformat t)) = some t

/-- The fields of `PolicyFactSnapshot`. -/
structure FactFields where
  eligible : Bool
  stalledAfterHours : Option Nat
  requiredEvidenceCodes : List String
  effectiveFrom : Instant
  effectiveTo : Option Instant
  serviceLevel : String
  region : String
  policyVersion : String
  clauseId : String
  sourceHash : String
  issueType : IssueType

/-- `validate_policy_facts`. -/
def FactFields.Consistent (f : FactFields) : Prop :=
  (∀ t ∈ f.effectiveTo, f.effectiveFrom < t) ∧
    (f.stalledAfterHours.isSome ↔ f.issueType = .stalledTracking) ∧ f.requiredEvidenceCodes.Nodup

instance (f : FactFields) : Decidable f.Consistent :=
  inferInstanceAs (Decidable (_ ∧ _ ∧ _))

/-- The facts with these fields, when they are consistent. -/
def FactFields.snapshot (f : FactFields) : Option PolicyFactSnapshot :=
  if h : f.Consistent then
    some ⟨f.eligible, f.stalledAfterHours, f.requiredEvidenceCodes, f.effectiveFrom, f.effectiveTo,
      f.serviceLevel, f.region, f.policyVersion, f.clauseId, f.sourceHash, f.issueType,
      h.1, h.2.1, h.2.2⟩
  else none

def PolicyFactSnapshot.fields (f : PolicyFactSnapshot) : FactFields :=
  ⟨f.eligible, f.stalledAfterHours, f.requiredEvidenceCodes, f.effectiveFrom, f.effectiveTo,
    f.serviceLevel, f.region, f.policyVersion, f.clauseId, f.sourceHash, f.issueType⟩

theorem PolicyFactSnapshot.snapshot_fields (f : PolicyFactSnapshot) :
    f.fields.snapshot = some f := by
  rw [FactFields.snapshot, dif_pos ⟨f.window, f.threshold, f.codesNodup⟩]
  rfl

/-- The bounds of single fields: what the contract of facts asks beyond their consistency. -/
def PolicyFactSnapshot.bounded (f : PolicyFactSnapshot) : Bool :=
  f.stalledAfterHours.all (1 ≤ ·) && f.requiredEvidenceCodes ≠ [] && 0 < f.serviceLevel.length &&
    0 < f.region.length && 0 < f.policyVersion.length && 0 < f.clauseId.length &&
    isSourceHash f.sourceHash

section Facts

variable [FactReading]

namespace FactSchema

def bool : Schema Bool where
  dump := .bool
  read := FactReading.bool
  accepts _ := true
  read_dump := FactReading.bool_bool

/-- Whole numbers; negative ones are never in bounds. -/
def nat : Schema Nat where
  dump n := .int n
  read j := (FactReading.int j).bind fun n => if 0 ≤ n then some n.toNat else none
  accepts _ := true
  read_dump n := by
    rw [FactReading.int_int, Option.bind_some, if_pos (Int.natCast_nonneg n), Int.toNat_natCast]

def instant : Schema Instant where
  dump t := .str (FactReading.isoformat t)
  read := FactReading.instant
  accepts _ := true
  read_dump := FactReading.instant_isoformat

/-- `min_length=1`. -/
def filled : Schema String := Schema.string.check fun s => 0 < s.length

def issueType : Schema IssueType :=
  .enum
    (fun
      | .signedNotReceived => "signed_not_received"
      | .stalledTracking => "stalled_tracking")
    [.signedNotReceived, .stalledTracking] (by intro a; cases a <;> rfl)

@[simp] theorem bool_accepts (b : Bool) : bool.accepts b = true := rfl

@[simp] theorem instant_accepts (t : Instant) : instant.accepts t = true := rfl

omit [FactReading] in
@[simp] theorem issueType_accepts (issue : IssueType) : issueType.accepts issue = true := rfl

omit [FactReading] in
@[simp] theorem string_accepts (s : String) : Schema.string.accepts s = true := rfl

/-- The fields of facts, in their order, each with its own bounds. -/
def fields : Schema FactFields :=
  Fields.make FactFields.mk
    |>.field "eligible" bool (·.eligible)
    |>.fieldOr "stalled_after_hours" (nat.check (1 ≤ ·)).optional none (·.stalledAfterHours)
    |>.field "required_evidence_codes" (Schema.string.list.check (· ≠ []))
      (·.requiredEvidenceCodes)
    |>.field "effective_from" instant (·.effectiveFrom)
    |>.fieldOr "effective_to" instant.optional none (·.effectiveTo)
    |>.field "service_level" filled (·.serviceLevel)
    |>.field "region" filled (·.region)
    |>.field "policy_version" filled (·.policyVersion)
    |>.field "clause_id" filled (·.clauseId)
    |>.field "source_hash" (Schema.string.check isSourceHash) (·.sourceHash)
    |>.field "issue_type" issueType (·.issueType)
    |>.object

end FactSchema

/-- `material_snapshot`. -/
def PolicyFactSnapshot.materialSnapshot (f : PolicyFactSnapshot) : Json :=
  FactSchema.fields.dump f.fields

/-- `PolicyFactSnapshot.model_validate`. -/
def PolicyFactSnapshot.modelValidate (j : Json) : Option PolicyFactSnapshot :=
  (FactSchema.fields.load j).bind FactFields.snapshot

theorem PolicyFactSnapshot.accepts_fields (f : PolicyFactSnapshot) :
    FactSchema.fields.accepts f.fields = f.bounded := by
  have hhours : f.stalledAfterHours.all (FactSchema.nat.check (1 ≤ ·)).accepts =
      f.stalledAfterHours.all (1 ≤ ·) := by
    cases f.stalledAfterHours with
    | none => rfl
    | some n => exact Bool.true_and _
  have hend : f.effectiveTo.all FactSchema.instant.accepts = true := by
    cases f.effectiveTo <;> rfl
  have hcodes : f.requiredEvidenceCodes.all Schema.string.accepts = true :=
    List.all_eq_true.mpr fun _ _ => rfl
  simp [FactSchema.fields, FactSchema.filled, PolicyFactSnapshot.fields,
    PolicyFactSnapshot.bounded, hhours, hcodes, hend]

/-- Facts are read back as they were written. -/
theorem PolicyFactSnapshot.modelValidate_materialSnapshot {f : PolicyFactSnapshot}
    (h : f.bounded = true) : modelValidate f.materialSnapshot = some f := by
  rw [modelValidate, materialSnapshot, Schema.load_dump, f.accepts_fields, if_pos h,
    Option.bind_some, f.snapshot_fields]

end Facts

/-! ### Bindings as JSON -/

section Bindings

variable [FactReading]

/-- The binding of a proposal, as `execution_parameters` hold it. -/
def PolicyBinding.dump (b : PolicyBinding) : Json :=
  .object [("policy_version", .str b.policyVersion), ("clause_id", .str b.clauseId),
    ("policy_source_hash", .str b.policySourceHash), ("region", .str b.region),
    ("policy_fact_snapshot", b.policyFactSnapshot.materialSnapshot),
    ("policy_fact_snapshot_hash", b.policyFactSnapshotHash.elim .null .str)]

/-- The keys of a binding. -/
def bindingKeys : List String :=
  ["policy_version", "clause_id", "policy_source_hash", "region", "policy_fact_snapshot",
    "policy_fact_snapshot_hash"]

/-- What a stored value holds as a binding: texts, and facts that are not read yet. -/
structure StoredBinding where
  policyVersion : String
  clauseId : String
  policySourceHash : String
  region : String
  policyFactSnapshot : Json
  policyFactSnapshotHash : String

/-- A text under a key. -/
def text? (fields : List (String × Json)) (key : String) : Option String :=
  match fields.lookup key with
  | some (.str s) => some s
  | _ => none

/-- The binding in a stored value with exactly its keys. -/
def StoredBinding.read : Json → Option StoredBinding
  | .object fields =>
    if (fields.all fun x => x.1 ∈ bindingKeys) && bindingKeys.all (· ∈ fields.map Prod.fst) then do
      let policyVersion ← text? fields "policy_version"
      let clauseId ← text? fields "clause_id"
      let sourceHash ← text? fields "policy_source_hash"
      let region ← text? fields "region"
      let snapshotHash ← text? fields "policy_fact_snapshot_hash"
      let snapshot ← fields.lookup "policy_fact_snapshot"
      return ⟨policyVersion, clauseId, sourceHash, region, snapshot, snapshotHash⟩
    else none
  | _ => none

variable [PolicyDigest]

/-- `validate_policy_binding`, of a stored value. -/
def PolicyCorpus.validateStoredBinding (corpus : PolicyCorpus) (binding : Json)
    (issueType : IssueType) (serviceLevel region : String) (evaluatedAt : Instant) : Bool :=
  match StoredBinding.read binding with
  | none => false
  | some b =>
    match corpus.lookup b.policyVersion b.clauseId with
    | none => false
    | some clause =>
      if clause.poisoned ∨ clause.contentHash ≠ b.policySourceHash then false
      else
        let facts := clause.normalizedFacts
        match PolicyFactSnapshot.modelValidate b.policyFactSnapshot with
        | none => false
        | some persisted =>
          decide (facts = persisted) &&
            decide (PolicyDigest.materialSnapshotHash facts = b.policyFactSnapshotHash) &&
            decide (facts.issueType = issueType) && decide (facts.serviceLevel = serviceLevel) &&
            decide (facts.region = region) && decide (b.region = region) &&
            withinEffectiveWindow facts evaluatedAt

omit [PolicyDigest] in
theorem StoredBinding.read_dump (b : PolicyBinding) (hash : String)
    (h : b.policyFactSnapshotHash = some hash) :
    StoredBinding.read b.dump = some ⟨b.policyVersion, b.clauseId, b.policySourceHash, b.region,
      b.policyFactSnapshot.materialSnapshot, hash⟩ := by
  rw [PolicyBinding.dump, h]
  rfl

/-- What was bound is checked after storage as it is before. -/
theorem PolicyCorpus.validateStoredBinding_dump (corpus : PolicyCorpus) {b : PolicyBinding}
    {hash : String} (hhash : b.policyFactSnapshotHash = some hash)
    (hbounded : b.policyFactSnapshot.bounded = true) (issueType : IssueType)
    (serviceLevel region : String) (evaluatedAt : Instant) :
    corpus.validateStoredBinding b.dump issueType serviceLevel region evaluatedAt =
      corpus.validatePolicyBinding b issueType serviceLevel region evaluatedAt := by
  rw [validateStoredBinding, StoredBinding.read_dump b hash hhash, validatePolicyBinding, hhash]
  dsimp only
  cases corpus.lookup b.policyVersion b.clauseId with
  | none => rfl
  | some clause =>
    dsimp only
    rw [PolicyFactSnapshot.modelValidate_materialSnapshot hbounded]
    simp only [Option.some.injEq, eq_comm]

/-! ### Both ways -/

omit [FactReading] in
/-- A verified payload carries the facts of a clause of the corpus that applies to the scope. -/
theorem search_verified {rag : PolicyRagService} {orderId : String} {scope : PolicyScope}
    {p : PolicySearchPayload} (h : rag.search orderId scope = .ok p)
    (hverified : p.verifiedForGate = true) :
    ∃ clause ∈ rag.corpus.clauses, ∃ active, p = applicablePayload orderId scope clause active := by
  cases PolicyRagService.search_ok h with
  | noHit => simp [PolicySearchPayload.verifiedForGate, noHitPayload] at hverified
  | unresolved status hstatus =>
    simp [PolicySearchPayload.verifiedForGate, unresolvedPayload] at hverified
  | applied clause only active =>
    have hmem : clause ∈ rag.corpus.activeClauses scope := by
      rw [only]
      exact List.mem_singleton_self clause
    exact ⟨clause, (List.mem_filter.mp hmem).1, active, rfl⟩

omit [FactReading] in
/-- The binding of an applied clause is accepted for its scope while the clause is in force. -/
theorem validatePolicyBinding_applied {corpus : PolicyCorpus} {clause : PolicyClause}
    (hmem : clause ∈ corpus.clauses) {orderId : String} {scope : PolicyScope}
    (active : isActiveAuthorityClause scope clause = true) {b : PolicyBinding}
    (hb : (applicablePayload orderId scope clause active).policyBinding = some b)
    (evaluatedAt : Instant) :
    corpus.validatePolicyBinding b scope.issueType scope.serviceLevel scope.region evaluatedAt =
      withinEffectiveWindow clause.normalizedFacts evaluatedAt := by
  have hverified : (applicablePayload orderId scope clause active).verifiedForGate = true := by
    simp [PolicySearchPayload.verifiedForGate, applicablePayload]
  rw [PolicySearchPayload.policyBinding, if_pos hverified] at hb
  cases hb
  simp only [isActiveAuthorityClause, Bool.and_eq_true, Bool.not_eq_true',
    decide_eq_true_eq] at active
  obtain ⟨⟨⟨⟨hpoisoned, hissue⟩, hlevel⟩, hregion⟩, -⟩ := active
  have hlookup := corpus.lookup_of_mem hmem
  rw [clause.clauseIdMatches] at hlookup
  rw [PolicyCorpus.validatePolicyBinding, hlookup]
  simp [hpoisoned, hissue, hlevel, hregion, clause.contentHashMatches, applicablePayload]

/-- What an accepted binding proves about the corpus and the request. -/
structure Witnessed (corpus : PolicyCorpus) (binding : Json) (issueType : IssueType)
    (serviceLevel region : String) (clause : PolicyClause) : Prop where
  found : ∃ version id, binding.get "policy_version" = some (.str version) ∧
    binding.get "clause_id" = some (.str id) ∧ corpus.lookup version id = some clause
  clean : clause.poisoned = false
  facts : (binding.get "policy_fact_snapshot").bind PolicyFactSnapshot.modelValidate =
    some clause.normalizedFacts
  sourceHash : binding.get "policy_source_hash" = some (.str clause.contentHash)
  snapshotHash : binding.get "policy_fact_snapshot_hash" =
    some (.str (PolicyDigest.materialSnapshotHash clause.normalizedFacts))
  issue : clause.normalizedFacts.issueType = issueType
  level : clause.normalizedFacts.serviceLevel = serviceLevel
  zone : clause.normalizedFacts.region = region

omit [FactReading] [PolicyDigest] in
theorem text?_eq_some {fields : List (String × Json)} {key s : String}
    (h : text? fields key = some s) : fields.lookup key = some (.str s) := by
  rw [text?] at h
  split at h
  · rename_i hlookup
    rw [hlookup, Option.some.inj h]
  · cases h

omit [FactReading] [PolicyDigest] in
/-- A stored binding is read from the fields of its keys. -/
theorem StoredBinding.read_eq_some {j : Json} {b : StoredBinding} (h : read j = some b) :
    j.get "policy_version" = some (.str b.policyVersion) ∧
      j.get "clause_id" = some (.str b.clauseId) ∧
      j.get "policy_source_hash" = some (.str b.policySourceHash) ∧
      j.get "policy_fact_snapshot_hash" = some (.str b.policyFactSnapshotHash) ∧
      j.get "policy_fact_snapshot" = some b.policyFactSnapshot := by
  cases j with
  | object fields =>
    rw [read] at h
    split_ifs at h with hkeys
    simp only [Option.bind_eq_bind, Option.bind_eq_some_iff, Option.pure_def,
      Option.some.injEq] at h
    obtain ⟨version, hversion, id, hid, source, hsource, region, -, hash, hhash, snapshot,
      hsnapshot, rfl⟩ := h
    exact ⟨text?_eq_some hversion, text?_eq_some hid, text?_eq_some hsource, text?_eq_some hhash,
      hsnapshot⟩
  | null => cases h
  | bool => cases h
  | int => cases h
  | float => cases h
  | str => cases h
  | array => cases h

/-- Whatever the stored value is, an accepted one names a clause that it agrees with. -/
theorem PolicyCorpus.witnessed_of_accepted {corpus : PolicyCorpus} {binding : Json}
    {issueType : IssueType} {serviceLevel region : String} {evaluatedAt : Instant}
    (h : corpus.validateStoredBinding binding issueType serviceLevel region evaluatedAt = true) :
    ∃ clause, Witnessed corpus binding issueType serviceLevel region clause := by
  rw [validateStoredBinding] at h
  cases hread : StoredBinding.read binding with
  | none =>
    rw [hread] at h
    cases h
  | some b =>
    obtain ⟨hversion, hid, hsource, hhash, hsnapshot⟩ := StoredBinding.read_eq_some hread
    rw [hread] at h
    dsimp only at h
    cases hlookup : corpus.lookup b.policyVersion b.clauseId with
    | none =>
      rw [hlookup] at h
      cases h
    | some clause =>
      rw [hlookup] at h
      dsimp only at h
      split_ifs at h with hclause
      rw [not_or, not_not] at hclause
      cases hfacts : PolicyFactSnapshot.modelValidate b.policyFactSnapshot with
      | none =>
        rw [hfacts] at h
        cases h
      | some persisted =>
        rw [hfacts] at h
        simp only [Bool.and_eq_true, decide_eq_true_eq] at h
        obtain ⟨⟨⟨⟨⟨⟨rfl, hmaterial⟩, hissue⟩, hlevel⟩, hregion⟩, -⟩, -⟩ := h
        refine ⟨clause, ⟨b.policyVersion, b.clauseId, hversion, hid, hlookup⟩,
          eq_false_of_ne_true hclause.1, ?_, ?_, ?_, hissue, hlevel, hregion⟩
        · rw [hsnapshot, Option.bind_some, hfacts]
        · rw [hsource, hclause.2]
        · rw [hhash, hmaterial]

/-- The contract of facts holds of every clause of the corpus. -/
def PolicyCorpus.Bounded (corpus : PolicyCorpus) : Prop :=
  ∀ clause ∈ corpus.clauses, clause.normalizedFacts.bounded = true

/-- A verified payload binds a clause whose stored binding is accepted, for its scope, at exactly
    the times of its window; and an accepted value, however it was made, binds a clause. -/
theorem policy_bindings_round_trip (rag : PolicyRagService) (hbounded : rag.corpus.Bounded) :
    (∀ orderId scope p, rag.search orderId scope = .ok p → p.verifiedForGate = true →
      ∃ clause ∈ rag.corpus.clauses, p.policyFactSnapshot = some clause.normalizedFacts ∧
        ∃ b, p.policyBinding = some b ∧ ∀ evaluatedAt,
          rag.corpus.validateStoredBinding b.dump scope.issueType scope.serviceLevel scope.region
            evaluatedAt = withinEffectiveWindow clause.normalizedFacts evaluatedAt) ∧
    (∀ binding issueType serviceLevel region evaluatedAt,
      rag.corpus.validateStoredBinding binding issueType serviceLevel region evaluatedAt = true →
        ∃ clause, Witnessed rag.corpus binding issueType serviceLevel region clause) := by
  refine ⟨fun orderId scope p hsearch hverified => ?_,
    fun binding issueType serviceLevel region evaluatedAt => PolicyCorpus.witnessed_of_accepted⟩
  obtain ⟨clause, hmem, active, rfl⟩ := search_verified hsearch hverified
  obtain ⟨b, hb⟩ : ∃ b, (applicablePayload orderId scope clause active).policyBinding = some b := by
    rw [PolicySearchPayload.policyBinding, if_pos hverified]
    exact ⟨_, rfl⟩
  refine ⟨clause, hmem, rfl, b, hb, fun evaluatedAt => ?_⟩
  rw [← validatePolicyBinding_applied hmem active hb evaluatedAt]
  rw [PolicySearchPayload.policyBinding, if_pos hverified] at hb
  cases hb
  exact PolicyCorpus.validateStoredBinding_dump _ rfl (hbounded clause hmem) _ _ _ _

end Bindings

/-! ### A corpus of one clause -/

namespace FactReading

/-- A day, in microseconds. -/
def day : Int := 86400000000

/-- The midnights of January 1970 in ISO text. -/
def january (d : Nat) : String :=
  String.ofList ("1970-01-".toList ++ [Nat.digitChar ((d + 1) / 10), Nat.digitChar ((d + 1) % 10)] ++
    "T00:00:00Z".toList)

/-- Any other time, in strokes. -/
def strokes (t : Instant) : String :=
  String.ofList ((if 0 ≤ t then '+' else '-') :: List.replicate t.natAbs '|')

def ofStrokes (s : String) : Option Instant :=
  match s.toList with
  | '+' :: rest => some rest.length
  | '-' :: rest => some (-rest.length)
  | _ => none

theorem ofStrokes_strokes (t : Instant) : ofStrokes (strokes t) = some t := by
  unfold ofStrokes strokes
  rw [String.toList_ofList]
  split_ifs with h
  · simpa using Int.natAbs_of_nonneg h
  · have hback := Int.ofNat_natAbs_of_nonpos (not_le.mp h).le
    simp [hback]

theorem january_found : ∀ d < 31, (List.range 31).find? (january · = january d) = some d := by
  decide +kernel

/-- A time in strokes begins with its sign. -/
theorem january_ne_strokes (d : Nat) (t : Instant) : january d ≠ strokes t := by
  intro h
  have hchars := congrArg String.toList h
  unfold january strokes at hchars
  rw [String.toList_ofList, String.toList_ofList] at hchars
  have hfirst := congrArg List.head? hchars
  split_ifs at hfirst <;> simp at hfirst

/-- A midnight of January 1970. -/
def IsJanuary (t : Instant) : Prop := 0 ≤ t ∧ t < 31 * day ∧ t % day = 0

instance (t : Instant) : Decidable (IsJanuary t) := inferInstanceAs (Decidable (_ ∧ _))

/-- Values of their own kinds only, and the days of January 1970 in ISO text. -/
@[reducible] def strict : FactReading where
  bool
    | .bool b => some b
    | _ => none
  int
    | .int n => some n
    | _ => none
  instant
    | .str s =>
      match (List.range 31).find? (january · = s) with
      | some d => some (d * day)
      | none => ofStrokes s
    | _ => none
  isoformat t := if IsJanuary t then january (t / day).toNat else strokes t
  bool_bool := Schema.bool.read_dump
  int_int _ := rfl
  instant_isoformat t := by
    dsimp only
    split_ifs with h
    · obtain ⟨hnonneg, hlt, hday⟩ := h
      have hpos : 0 ≤ t / day := Int.ediv_nonneg hnonneg (by decide)
      have hquotient : t / day < 31 := Int.ediv_lt_of_lt_mul (by decide) hlt
      have hmonth : (t / day).toNat < 31 := (Int.toNat_lt hpos).mpr hquotient
      have hnatural : ((t / day).toNat : Int) = t / day := Int.toNat_of_nonneg hpos
      rw [january_found _ hmonth]
      simp only [hnatural, Option.some.injEq]
      exact Int.ediv_mul_cancel (Int.dvd_of_emod_eq_zero hday)
    · have hnone : (List.range 31).find? (january · = strokes t) = none :=
        List.find?_eq_none.mpr fun d _ => by simpa using january_ne_strokes d t
      simp only [hnone]
      exact ofStrokes_strokes t

end FactReading

/-- A clause that is in force from the first to the last day of January 1970. -/
def januaryClause : PolicyClause :=
  let clause := deliveredClause (String.ofList (List.replicate 64 '0')) "v1" "CL"
  { clause with normalizedFacts := { clause.normalizedFacts with
      effectiveTo := some (30 * FactReading.day)
      window := by
        intro t ht
        obtain rfl := Option.some.inj ht
        show (0 : Int) < 30 * FactReading.day
        decide } }

/-- A search that recalls the one clause of its corpus. -/
def recallingRag : PolicyRagService where
  corpus :=
    { clauses := [januaryClause]
      uniquelyResolves := by simp }
  prose := plainProse
  sourceRevision := "rev"
  passageHash := PolicyClause.contentHash
  rank _ _ _ := .ok [⟨String.ofList (List.replicate 64 '0'), "v1", "CL",
    String.ofList (List.replicate 64 '0'), String.ofList (List.replicate 64 '0'), 1⟩]
  minimumSimilarity := 1 / 2

section

attribute [local instance] PolicyDigest.bySource FactReading.strict

theorem policy_bindings_round_trip_recalled :
    ∃ p, recallingRag.search "ORD" deliveredScope = .ok p ∧ p.verifiedForGate = true ∧
      ∃ b, p.policyBinding = some b ∧ recallingRag.corpus.validateStoredBinding b.dump
        .signedNotReceived "standard" "cn-east" 1000 = true := by
  have hbounded : recallingRag.corpus.Bounded := by
    intro clause hclause
    rw [List.mem_singleton.mp hclause]
    decide +kernel
  have hsearch : (recallingRag.search "ORD" deliveredScope).toOption.any
      (·.verifiedForGate) = true := by
    decide +kernel
  obtain ⟨p, hp, hverified⟩ : ∃ p, recallingRag.search "ORD" deliveredScope = .ok p ∧
      p.verifiedForGate = true := by
    cases h : recallingRag.search "ORD" deliveredScope with
    | error e =>
      rw [h] at hsearch
      cases hsearch
    | ok p =>
      rw [h] at hsearch
      exact ⟨p, rfl, hsearch⟩
  obtain ⟨clause, hmem, -, b, hb, hwindow⟩ :=
    (policy_bindings_round_trip recallingRag hbounded).1 "ORD" deliveredScope p hp hverified
  refine ⟨p, hp, hverified, b, hb, (hwindow 1000).trans ?_⟩
  rw [List.mem_singleton.mp hmem]
  decide +kernel

end

end AfterSales
