import AfterSales.Lib.Json
import Mathlib.Data.List.Sort
import Mathlib.Data.List.Dedup

/-! The graders of scenario manifests.

    A manifest declares named assertions in three lists; a registry has one grader for each name.
    Graders are not trusted: one may be missing, of another category, raise, or return what is no
    verdict. Each declared assertion of the layer still ends in one result.

        declarations ──execute──▶ raw verdicts, errors ──finalize──▶ results, error code -/

namespace AfterSales.Manifest

/-! ### Manifests -/

inductive Layer where | triage | investigation | fullE2e
  deriving DecidableEq, Repr

inductive Architecture where | triage | agent | workflow
  deriving DecidableEq, Repr

inductive ManifestAssertionCategory where | quality | safety | forbiddenBehavior
  deriving DecidableEq, Repr

/-- One named expectation of a manifest. -/
structure ManifestAssertionDefinition where
  assertionId : String
  category : ManifestAssertionCategory
  deriving DecidableEq

def ManifestAssertionDefinition.hardSafety (d : ManifestAssertionDefinition) : Bool :=
  d.category = .safety || d.category = .forbiddenBehavior

/-- `^[a-z][a-z0-9_]{2,95}$`. -/
def isAssertionId (s : String) : Bool :=
  match s.toList with
  | [] => false
  | first :: rest => first.isLower && rest.all (fun c => c.isLower || c.isDigit || c = '_') &&
    2 ≤ rest.length && rest.length ≤ 95

/-- `declared_assertions`, of the three lists. -/
def declare (quality safety forbidden : List String) : List ManifestAssertionDefinition :=
  quality.map (⟨·, .quality⟩) ++ safety.map (⟨·, .safety⟩) ++ forbidden.map (⟨·, .forbiddenBehavior⟩)

structure ScenarioManifest where
  scenarioId : String
  applicableLayers : List Layer
  qualityAssertions : List String
  safetyAssertions : List String
  forbiddenBehaviors : List String
  hasLayers : applicableLayers ≠ []
  idsNodup : ((declare qualityAssertions safetyAssertions forbiddenBehaviors).map
    (·.assertionId)).Nodup
  idsMatch : ∀ d ∈ declare qualityAssertions safetyAssertions forbiddenBehaviors,
    isAssertionId d.assertionId = true

def ScenarioManifest.declaredAssertions (s : ScenarioManifest) :
    List ManifestAssertionDefinition :=
  declare s.qualityAssertions s.safetyAssertions s.forbiddenBehaviors

/-! ### Graders -/

structure GraderVerdict where
  passed : Bool
  detail : String

structure GradingContext where
  scenario : ScenarioManifest
  layer : Layer
  architecture : Architecture
  actual : List (String × Json)
  trajectory : List (String × Json)
  coreAssertions : List (String × Bool)

/-- What a call of a grader ends in: a verdict, something else (nothing, several verdicts, a result
    of another assertion), or an exception, by the name of its type. -/
inductive GraderOutcome where
  | verdict (v : GraderVerdict)
  | other
  | raised (exceptionType : String)

structure GraderRegistration where
  assertionId : String
  categories : List ManifestAssertionCategory
  applicableLayers : List Layer
  grader : GradingContext → GraderOutcome

/-- The errors that leave the grading. -/
inductive GradingError where
  | contract (message : String)
  | validation
  deriving DecidableEq

/-- One turn of `build_grader_registry`. -/
def register (registry : List GraderRegistration) (r : GraderRegistration) :
    Except GradingError (List GraderRegistration) :=
  if r.assertionId = "" then .error (.contract "grader registration ID cannot be empty")
  else if r.categories = [] ∨ r.applicableLayers = [] then
    .error (.contract ("grader registration " ++ r.assertionId ++ " has an empty contract"))
  else if r.assertionId ∈ registry.map (·.assertionId) then
    .error (.contract ("duplicate grader registration: " ++ r.assertionId))
  else .ok (registry ++ [r])

/-- `build_grader_registry`. -/
def buildGraderRegistry (registrations : List GraderRegistration) :
    Except GradingError (List GraderRegistration) := do
  let registry ← registrations.foldlM register []
  if registry.isEmpty then throw (.contract "grader registry cannot be empty")
  return registry

/-- Registrations that make a registry. -/
structure GraderRegistry where
  registrations : List GraderRegistration
  named : ∀ r ∈ registrations, r.assertionId ≠ ""
  contracted : ∀ r ∈ registrations, r.categories ≠ [] ∧ r.applicableLayers ≠ []
  idsNodup : (registrations.map (·.assertionId)).Nodup
  nonempty : registrations ≠ []

/-! ### Execution -/

structure AssertionResult where
  assertionId : String
  passed : Bool
  detail : String
  hardSafety : Bool

/-- A result as it is built: neither its id nor its detail may be empty. -/
def AssertionResult.build (r : AssertionResult) : Except GradingError AssertionResult :=
  if r.assertionId = "" ∨ r.detail = "" then .error .validation else .ok r

structure ManifestGrading where
  assertions : List AssertionResult
  applicableAssertionIds : List String
  integrityAssertion : AssertionResult
  errorCode : Option String

/-- What has been graded so far. Each call of a grader leaves one raw verdict. -/
structure ManifestRun where
  declarations : List ManifestAssertionDefinition
  raw : List (ManifestAssertionDefinition × GraderVerdict)
  errors : List String

/-- The verdict on a call that raised. -/
def failedVerdict (exceptionType : String) : GraderVerdict :=
  ⟨false, "grader execution failed: " ++ exceptionType⟩

/-- One turn of `execute_manifest_graders`. -/
def ManifestRun.grade (registry : List GraderRegistration) (context : GradingContext)
    (run : ManifestRun) (d : ManifestAssertionDefinition) : ManifestRun :=
  match registry.find? (·.assertionId = d.assertionId) with
  | none =>
    { run with
      declarations := run.declarations ++ [d]
      errors := run.errors ++ ["grader_unknown:" ++ d.assertionId] }
  | some r =>
    if d.category ∉ r.categories then
      { run with
        declarations :=
          if context.layer ∈ r.applicableLayers then run.declarations ++ [d] else run.declarations
        errors := run.errors ++ ["grader_category_mismatch:" ++ d.assertionId] }
    else if context.layer ∉ r.applicableLayers then run
    else
      let raised := fun exceptionType : String =>
        { declarations := run.declarations ++ [d]
          raw := run.raw ++ [(d, failedVerdict exceptionType)]
          errors := run.errors ++
            ["grader_exception:" ++ d.assertionId ++ ":" ++ exceptionType] : ManifestRun }
      match r.grader context with
      | .verdict v =>
        { run with declarations := run.declarations ++ [d], raw := run.raw ++ [(d, v)] }
      | .other => raised "TypeError"
      | .raised exceptionType => raised exceptionType

/-- The raw verdicts on an assertion. -/
def verdictsOn (raw : List (ManifestAssertionDefinition × GraderVerdict)) (assertionId : String) :
    List GraderVerdict :=
  (raw.filter (·.1.assertionId = assertionId)).map Prod.snd

/-- What raw verdicts come to: only a single one counts. -/
def settle : List GraderVerdict → GraderVerdict
  | [v] => v
  | [] => ⟨false, "registered grader did not execute"⟩
  | _ :: _ :: _ => ⟨false, "registered grader produced duplicate results"⟩

/-- The result of a declaration. -/
def resultOf (raw : List (ManifestAssertionDefinition × GraderVerdict))
    (d : ManifestAssertionDefinition) : AssertionResult :=
  let v := settle (verdictsOn raw d.assertionId)
  ⟨d.assertionId, v.passed, v.detail, d.hardSafety⟩

/-- The error of a declaration that has not one verdict. -/
def gapOf (raw : List (ManifestAssertionDefinition × GraderVerdict))
    (d : ManifestAssertionDefinition) : List String :=
  match verdictsOn raw d.assertionId with
  | [_] => []
  | [] => ["grader_unexecuted:" ++ d.assertionId]
  | _ :: _ :: _ => ["grader_duplicate_result:" ++ d.assertionId]

/-- The ids of several results. -/
def duplicateIds (results : List AssertionResult) : List String :=
  let ids := results.map (·.assertionId)
  (ids.dedup.filter (1 < ids.count ·)).insertionSort (· ≤ ·)

/-- `_integrity_result`. -/
def integrityResult (errors : List String) : Except GradingError AssertionResult :=
  AssertionResult.build
    { assertionId := "evaluation_contract_integrity"
      passed := errors.isEmpty
      detail := if errors.isEmpty then "manifest graders were registered and executed exactly once"
        else "evaluation contract failure: " ++
          "; ".intercalate (errors.insertionSort (· ≤ ·))
      hardSafety := true }

/-- `finalize_manifest_grading`. -/
def finalizeManifestGrading (declarations : List ManifestAssertionDefinition)
    (raw : List (ManifestAssertionDefinition × GraderVerdict)) (initialErrors : List String) :
    Except GradingError ManifestGrading := do
  let results ← declarations.mapM fun d => (resultOf raw d).build
  let errors := initialErrors ++ declarations.flatMap (gapOf raw) ++
    (duplicateIds results).map ("grader_duplicate_result:" ++ ·)
  let integrity ← integrityResult errors
  return {
    assertions := results
    applicableAssertionIds := declarations.map (·.assertionId)
    integrityAssertion := integrity
    errorCode :=
      if errors.isEmpty then none
      else if errors.any fun e => "grader_exception:".toList.isPrefixOf e.toList then
        some "EVAL_GRADER_EXCEPTION"
      else some "EVAL_GRADER_CONTRACT" }

/-- The calls of all graders for a manifest. -/
def gradeAll (registry : List GraderRegistration) (context : GradingContext) : ManifestRun :=
  context.scenario.declaredAssertions.foldl (ManifestRun.grade registry context) ⟨[], [], []⟩

/-- `execute_manifest_graders`. -/
def executeManifestGraders (context : GradingContext) (registrations : List GraderRegistration) :
    Except GradingError ManifestGrading := do
  let registry ← buildGraderRegistry registrations
  let run := gradeAll registry context
  finalizeManifestGrading run.declarations run.raw run.errors

/-! ### The registry -/

theorem foldlM_register (registrations : List GraderRegistration)
    (registry : List GraderRegistration) (hnamed : ∀ r ∈ registrations, r.assertionId ≠ "")
    (hcontracted : ∀ r ∈ registrations, r.categories ≠ [] ∧ r.applicableLayers ≠ [])
    (hnodup : ((registry ++ registrations).map (·.assertionId)).Nodup) :
    registrations.foldlM register registry = .ok (registry ++ registrations) := by
  induction registrations generalizing registry with
  | nil => rw [List.append_nil]; rfl
  | cons r registrations ih =>
    have hnew : r.assertionId ∉ registry.map (·.assertionId) := by
      intro hmem
      rw [List.map_append, List.map_cons] at hnodup
      exact (List.disjoint_of_nodup_append hnodup) hmem List.mem_cons_self
    have hstep : register registry r = .ok (registry ++ [r]) := by
      obtain ⟨hcategories, hlayers⟩ := hcontracted r List.mem_cons_self
      rw [register, if_neg (hnamed r List.mem_cons_self), if_neg (by simp [hcategories, hlayers]),
        if_neg hnew]
    rw [List.foldlM_cons, hstep]
    have hrest := ih (registry ++ [r]) (fun x hx => hnamed x (List.mem_cons_of_mem _ hx))
      (fun x hx => hcontracted x (List.mem_cons_of_mem _ hx)) (by simpa using hnodup)
    rw [List.append_assoc] at hrest
    exact hrest

/-- The registrations of a registry are taken as they are. -/
theorem GraderRegistry.build (registry : GraderRegistry) :
    buildGraderRegistry registry.registrations = .ok registry.registrations := by
  rw [buildGraderRegistry, foldlM_register registry.registrations [] registry.named
    registry.contracted registry.idsNodup]
  show (if registry.registrations.isEmpty = true then _ else _) = _
  rw [if_neg (by simpa using registry.nonempty)]
  rfl

theorem of_register {registry out : List GraderRegistration} {r : GraderRegistration}
    (h : register registry r = .ok out) :
    out = registry ++ [r] ∧ r.assertionId ≠ "" ∧ (r.categories ≠ [] ∧ r.applicableLayers ≠ []) ∧
      r.assertionId ∉ registry.map (·.assertionId) := by
  rw [register] at h
  split_ifs at h with hnamed hcontracted hnew
  · cases h
    exact ⟨rfl, hnamed, not_or.mp hcontracted, hnew⟩

theorem of_foldlM_register {registrations registry out : List GraderRegistration}
    (h : registrations.foldlM register registry = .ok out)
    (hnodup : (registry.map (·.assertionId)).Nodup) :
    out = registry ++ registrations ∧ (∀ r ∈ registrations, r.assertionId ≠ "") ∧
      (∀ r ∈ registrations, r.categories ≠ [] ∧ r.applicableLayers ≠ []) ∧
      (out.map (·.assertionId)).Nodup := by
  induction registrations generalizing registry with
  | nil =>
    cases h
    exact ⟨(List.append_nil _).symm, nofun, nofun, hnodup⟩
  | cons r registrations ih =>
    rw [List.foldlM_cons] at h
    cases hstep : register registry r with
    | error e => rw [hstep] at h; cases h
    | ok next =>
      rw [hstep] at h
      obtain ⟨rfl, hnamed, hcontracted, hnew⟩ := of_register hstep
      have hnext : ((registry ++ [r]).map (·.assertionId)).Nodup := by
        rw [List.map_append, List.map_singleton, ← List.concat_eq_append]
        exact hnodup.concat hnew
      obtain ⟨rfl, hnamed', hcontracted', hout⟩ := ih h hnext
      refine ⟨by simp, ?_, ?_, hout⟩
      · exact List.forall_mem_cons.mpr ⟨hnamed, hnamed'⟩
      · exact List.forall_mem_cons.mpr ⟨hcontracted, hcontracted'⟩

/-- Registrations are accepted exactly when they make a registry. -/
theorem buildGraderRegistry_ok_iff (registrations registry : List GraderRegistration) :
    buildGraderRegistry registrations = .ok registry ↔
      ∃ g : GraderRegistry, g.registrations = registrations ∧ registry = registrations := by
  constructor
  · intro h
    rw [buildGraderRegistry] at h
    cases hfold : registrations.foldlM register [] with
    | error e => rw [hfold] at h; cases h
    | ok out =>
      rw [hfold] at h
      obtain ⟨hout, hnamed, hcontracted, hnodup⟩ := of_foldlM_register hfold List.nodup_nil
      rw [List.nil_append] at hout
      rw [hout] at h hnodup
      rcases eq_or_ne registrations [] with rfl | hne
      · cases h
      · have hdone : (if registrations.isEmpty = true then _ else _) = Except.ok registry := h
        rw [if_neg (by simpa using hne)] at hdone
        cases hdone
        exact ⟨⟨_, hnamed, hcontracted, hnodup, hne⟩, rfl, rfl⟩
  · rintro ⟨g, rfl, rfl⟩
    exact g.build

/-! ### What a declaration leaves -/

section Runs

variable {registry : GraderRegistry} {context : GradingContext}

/-- What one declaration adds to a run. -/
def gradeOne (registry : GraderRegistry) (context : GradingContext)
    (d : ManifestAssertionDefinition) : ManifestRun :=
  ManifestRun.grade registry.registrations context ⟨[], [], []⟩ d

/-- The ways of a declaration. -/
inductive Graded (registry : GraderRegistry) (context : GradingContext)
    (d : ManifestAssertionDefinition) : ManifestRun → Prop
  | unknown (absent : ∀ r ∈ registry.registrations, r.assertionId ≠ d.assertionId) :
      Graded registry context d ⟨[d], [], ["grader_unknown:" ++ d.assertionId]⟩
  | mismatched (r : GraderRegistration) (mem : r ∈ registry.registrations)
      (named : r.assertionId = d.assertionId) (category : d.category ∉ r.categories) :
      Graded registry context d ⟨if context.layer ∈ r.applicableLayers then [d] else [], [],
        ["grader_category_mismatch:" ++ d.assertionId]⟩
  | elsewhere (r : GraderRegistration) (mem : r ∈ registry.registrations)
      (named : r.assertionId = d.assertionId) (category : d.category ∈ r.categories)
      (layer : context.layer ∉ r.applicableLayers) : Graded registry context d ⟨[], [], []⟩
  | judged (r : GraderRegistration) (mem : r ∈ registry.registrations)
      (named : r.assertionId = d.assertionId) (category : d.category ∈ r.categories)
      (layer : context.layer ∈ r.applicableLayers) (v : GraderVerdict)
      (returned : r.grader context = .verdict v) : Graded registry context d ⟨[d], [(d, v)], []⟩
  | raised (r : GraderRegistration) (mem : r ∈ registry.registrations)
      (named : r.assertionId = d.assertionId) (category : d.category ∈ r.categories)
      (layer : context.layer ∈ r.applicableLayers) (exceptionType : String)
      (never : ∀ v, r.grader context ≠ .verdict v) :
      Graded registry context d ⟨[d], [(d, failedVerdict exceptionType)],
        ["grader_exception:" ++ d.assertionId ++ ":" ++ exceptionType]⟩

theorem graded_cases (registry : GraderRegistry) (context : GradingContext)
    (d : ManifestAssertionDefinition) : Graded registry context d (gradeOne registry context d) := by
  rw [gradeOne, ManifestRun.grade]
  cases hfind : registry.registrations.find? (·.assertionId = d.assertionId) with
  | none =>
    exact .unknown fun r hr => by simpa using List.find?_eq_none.mp hfind r hr
  | some r =>
    have hmem := List.mem_of_find?_eq_some hfind
    have hnamed : r.assertionId = d.assertionId := by simpa using List.find?_some hfind
    dsimp only
    split_ifs with hcategory hlayer hlayer
    · cases houtcome : r.grader context with
      | verdict v => exact .judged r hmem hnamed hcategory hlayer v houtcome
      | other => exact .raised r hmem hnamed hcategory hlayer _ (by simp [houtcome])
      | raised exceptionType => exact .raised r hmem hnamed hcategory hlayer _ (by simp [houtcome])
    · exact .elsewhere r hmem hnamed hcategory hlayer
    · have h : Graded registry context d _ := .mismatched r hmem hnamed hcategory
      rwa [if_pos hlayer] at h
    · have h : Graded registry context d _ := .mismatched r hmem hnamed hcategory
      rwa [if_neg hlayer] at h

theorem grade_eq (run : ManifestRun) (d : ManifestAssertionDefinition) :
    run.grade registry.registrations context d =
      ⟨run.declarations ++ (gradeOne registry context d).declarations,
        run.raw ++ (gradeOne registry context d).raw,
        run.errors ++ (gradeOne registry context d).errors⟩ := by
  rw [gradeOne, ManifestRun.grade, ManifestRun.grade]
  cases registry.registrations.find? (·.assertionId = d.assertionId) with
  | none => simp
  | some r =>
    dsimp only
    split_ifs
    · cases r.grader context <;> simp
    · simp
    · simp
    · simp

theorem foldl_grade (declared : List ManifestAssertionDefinition) (run : ManifestRun) :
    declared.foldl (ManifestRun.grade registry.registrations context) run =
      ⟨run.declarations ++ declared.flatMap fun d => (gradeOne registry context d).declarations,
        run.raw ++ declared.flatMap fun d => (gradeOne registry context d).raw,
        run.errors ++ declared.flatMap fun d => (gradeOne registry context d).errors⟩ := by
  induction declared generalizing run with
  | nil => simp
  | cons d declared ih =>
    rw [List.foldl_cons, ih, grade_eq]
    simp

theorem gradeAll_eq :
    gradeAll registry.registrations context =
      ⟨context.scenario.declaredAssertions.flatMap fun d =>
          (gradeOne registry context d).declarations,
        context.scenario.declaredAssertions.flatMap fun d => (gradeOne registry context d).raw,
        context.scenario.declaredAssertions.flatMap fun d =>
          (gradeOne registry context d).errors⟩ := by
  rw [gradeAll, foldl_grade]
  rfl

/-- One entry of a registry has a name. -/
theorem GraderRegistry.unique {r r' : GraderRegistration} (h : r ∈ registry.registrations)
    (h' : r' ∈ registry.registrations) (hid : r.assertionId = r'.assertionId) : r = r' :=
  List.inj_on_of_nodup_map registry.idsNodup h h' hid

theorem gradeOne_raw {d : ManifestAssertionDefinition}
    {x : ManifestAssertionDefinition × GraderVerdict}
    (h : x ∈ (gradeOne registry context d).raw) : x.1 = d := by
  have hgraded := graded_cases registry context d
  generalize gradeOne registry context d = one at h hgraded
  cases hgraded <;> simp_all

/-- A manifest has one verdict on a name at most: that of its own declaration. -/
theorem verdictsOn_flatMap (declared : List ManifestAssertionDefinition)
    (hnodup : (declared.map (·.assertionId)).Nodup) {d : ManifestAssertionDefinition}
    (hd : d ∈ declared) :
    verdictsOn (declared.flatMap fun x => (gradeOne registry context x).raw) d.assertionId =
      (gradeOne registry context d).raw.map Prod.snd := by
  have hown : ∀ x : ManifestAssertionDefinition,
      (gradeOne registry context x).raw.filter (·.1.assertionId = d.assertionId) =
        if x.assertionId = d.assertionId then (gradeOne registry context x).raw else [] := by
    intro x
    split_ifs with hid
    · exact List.filter_eq_self.mpr fun y hy => by simpa [gradeOne_raw hy] using hid
    · exact List.filter_eq_nil_iff.mpr fun y hy => by simpa [gradeOne_raw hy] using hid
  rw [verdictsOn, List.filter_flatMap]
  simp only [hown]
  refine congrArg (List.map Prod.snd) ?_
  induction declared with
  | nil => cases hd
  | cons x declared ih =>
    rw [List.map_cons, List.nodup_cons] at hnodup
    rw [List.flatMap_cons]
    rcases List.mem_cons.mp hd with rfl | hd
    · rw [if_pos rfl, List.append_right_eq_self, List.flatMap_eq_nil_iff]
      intro y hy
      refine if_neg fun hid => hnodup.1 ?_
      exact List.mem_map.mpr ⟨y, hy, hid⟩
    · have hother : ¬ x.assertionId = d.assertionId := by
        intro hid
        exact hnodup.1 (List.mem_map.mpr ⟨d, hd, hid.symm⟩)
      rw [if_neg hother, List.nil_append]
      exact ih hnodup.2 hd

/-! ### Failing closed -/

/-- The layer is one of those that the grader of an assertion applies to. One that nothing is
    registered for applies everywhere. -/
def Applicable (registry : GraderRegistry) (context : GradingContext)
    (d : ManifestAssertionDefinition) : Prop :=
  ∀ r ∈ registry.registrations, r.assertionId = d.assertionId →
    context.layer ∈ r.applicableLayers

/-- How often the grader of an assertion was called. -/
def calls (registry : GraderRegistry) (context : GradingContext)
    (d : ManifestAssertionDefinition) : Nat :=
  (verdictsOn (gradeAll registry.registrations context).raw d.assertionId).length

/-- What may be wrong with the grader of an assertion. -/
inductive Defect (registry : GraderRegistry) (context : GradingContext)
    (d : ManifestAssertionDefinition) : Prop
  | unknown (absent : ∀ r ∈ registry.registrations, r.assertionId ≠ d.assertionId)
  | mismatched (r : GraderRegistration) (mem : r ∈ registry.registrations)
      (named : r.assertionId = d.assertionId) (category : d.category ∉ r.categories)
  | raising (r : GraderRegistration) (mem : r ∈ registry.registrations)
      (named : r.assertionId = d.assertionId) (layer : context.layer ∈ r.applicableLayers)
      (never : ∀ v, r.grader context ≠ .verdict v)
  | missing (applicable : Applicable registry context d) (uncalled : calls registry context d = 0)
  | duplicate (again : 1 < calls registry context d)

/-- Each applicable declaration has one result, and nothing else has; only a grader that was called
    once and returned a passing verdict passes; and a grading without an error code has no
    defect. -/
structure FailsClosed (registry : GraderRegistry) (context : GradingContext)
    (grading : ManifestGrading) : Prop where
  once : ∀ d ∈ context.scenario.declaredAssertions, Applicable registry context d →
    (grading.assertions.map (·.assertionId)).count d.assertionId = 1
  others : ∀ a ∈ grading.assertions, ∃ d ∈ context.scenario.declaredAssertions,
    Applicable registry context d ∧ a.assertionId = d.assertionId
  earned : ∀ a ∈ grading.assertions, a.passed = true →
    ∃ d ∈ context.scenario.declaredAssertions, ∃ r ∈ registry.registrations,
      a.assertionId = d.assertionId ∧ r.assertionId = d.assertionId ∧
        calls registry context d = 1 ∧ ∃ v, r.grader context = .verdict v ∧ v.passed = true
  silent : grading.errorCode = none ↔
    ∀ d ∈ context.scenario.declaredAssertions, ¬ Defect registry context d

/-- No verdict that is asked for comes without a detail. -/
def DetailsFilled (registry : GraderRegistry) (context : GradingContext) : Prop :=
  ∀ d ∈ context.scenario.declaredAssertions, ∀ r ∈ registry.registrations,
    r.assertionId = d.assertionId → d.category ∈ r.categories →
    context.layer ∈ r.applicableLayers → ∀ v, r.grader context = .verdict v → v.detail ≠ ""

/-- The raw verdicts of a manifest on its own declaration. -/
theorem verdictsOn_gradeAll {d : ManifestAssertionDefinition}
    (hd : d ∈ context.scenario.declaredAssertions) :
    verdictsOn (gradeAll registry.registrations context).raw d.assertionId =
      (gradeOne registry context d).raw.map Prod.snd := by
  rw [gradeAll_eq]
  exact verdictsOn_flatMap _ context.scenario.idsNodup hd

/-- Only applicable declarations are kept, each as itself. -/
theorem gradeOne_declarations (d : ManifestAssertionDefinition) :
    (Applicable registry context d → (gradeOne registry context d).declarations = [d]) ∧
      (¬ Applicable registry context d → (gradeOne registry context d).declarations = []) := by
  have hgraded := graded_cases registry context d
  generalize gradeOne registry context d = one at hgraded
  have hof : ∀ r ∈ registry.registrations, r.assertionId = d.assertionId →
      (Applicable registry context d ↔ context.layer ∈ r.applicableLayers) := by
    intro r hr hid
    refine ⟨fun h => h r hr hid, fun h r' hr' hid' => ?_⟩
    rwa [registry.unique hr' hr (hid'.trans hid.symm)]
  cases hgraded with
  | unknown absent =>
    refine ⟨fun _ => rfl, fun h => absurd ?_ h⟩
    intro r hr hid
    exact absurd hid (absent r hr)
  | mismatched r mem named category =>
    rw [hof r mem named]
    exact ⟨fun h => if_pos h, fun h => if_neg h⟩
  | elsewhere r mem named category layer =>
    rw [hof r mem named]
    exact ⟨fun h => absurd h layer, fun _ => rfl⟩
  | judged r mem named category layer v returned =>
    rw [hof r mem named]
    exact ⟨fun _ => rfl, fun h => absurd layer h⟩
  | raised r mem named category layer exceptionType never =>
    rw [hof r mem named]
    exact ⟨fun _ => rfl, fun h => absurd layer h⟩

theorem declarations_eq :
    (gradeAll registry.registrations context).declarations =
      (context.scenario.declaredAssertions.flatMap fun d =>
        (gradeOne registry context d).declarations) := by
  rw [gradeAll_eq]

theorem mem_declarations {d : ManifestAssertionDefinition} :
    d ∈ (gradeAll registry.registrations context).declarations ↔
      d ∈ context.scenario.declaredAssertions ∧ Applicable registry context d := by
  rw [declarations_eq, List.mem_flatMap]
  constructor
  · rintro ⟨x, hx, hd⟩
    by_cases happlicable : Applicable registry context x
    · rw [(gradeOne_declarations x).1 happlicable, List.mem_singleton] at hd
      exact ⟨hd ▸ hx, hd ▸ happlicable⟩
    · rw [(gradeOne_declarations x).2 happlicable] at hd
      cases hd
  · rintro ⟨hd, happlicable⟩
    exact ⟨d, hd, by rw [(gradeOne_declarations d).1 happlicable]; exact List.mem_singleton_self d⟩

/-- The declarations that are kept are some of those declared, in their order. -/
theorem declarations_sublist :
    (gradeAll registry.registrations context).declarations.Sublist
      context.scenario.declaredAssertions := by
  rw [declarations_eq]
  induction context.scenario.declaredAssertions with
  | nil => exact List.Sublist.refl []
  | cons d declared ih =>
    rw [List.flatMap_cons]
    by_cases happlicable : Applicable registry context d
    · rw [(gradeOne_declarations d).1 happlicable]
      exact ih.cons_cons d
    · rw [(gradeOne_declarations d).2 happlicable]
      exact ih.cons d

theorem calls_eq {d : ManifestAssertionDefinition}
    (hd : d ∈ context.scenario.declaredAssertions) :
    calls registry context d = (gradeOne registry context d).raw.length := by
  rw [calls, verdictsOn_gradeAll hd, List.length_map]

/-- A declaration leaves an error exactly when something is wrong with its grader. -/
theorem defect_iff {d : ManifestAssertionDefinition}
    (hd : d ∈ context.scenario.declaredAssertions) :
    Defect registry context d ↔ (gradeOne registry context d).errors ≠ [] := by
  have hcalls : calls registry context d = (gradeOne registry context d).raw.length :=
    calls_eq hd
  have hgraded := graded_cases registry context d
  generalize gradeOne registry context d = one at hgraded hcalls
  cases hgraded with
  | unknown absent => exact iff_of_true (.unknown absent) (List.cons_ne_nil _ _)
  | mismatched r mem named category =>
    exact iff_of_true (.mismatched r mem named category) (List.cons_ne_nil _ _)
  | raised r mem named category layer exceptionType never =>
    exact iff_of_true (.raising r mem named layer never) (List.cons_ne_nil _ _)
  | elsewhere r mem named category layer =>
    refine iff_of_false ?_ (not_not.mpr rfl)
    intro h
    cases h with
    | unknown absent => exact absent r mem named
    | mismatched r' mem' named' category' =>
      exact category' (registry.unique mem mem' (named.trans named'.symm) ▸ category)
    | raising r' mem' named' layer' never =>
      exact layer (registry.unique mem mem' (named.trans named'.symm) ▸ layer')
    | missing applicable uncalled => exact layer (applicable r mem named)
    | duplicate again => simp [hcalls] at again
  | judged r mem named category layer v returned =>
    refine iff_of_false ?_ (not_not.mpr rfl)
    intro h
    cases h with
    | unknown absent => exact absent r mem named
    | mismatched r' mem' named' category' =>
      exact category' (registry.unique mem mem' (named.trans named'.symm) ▸ category)
    | raising r' mem' named' layer' never =>
      exact never v (registry.unique mem mem' (named.trans named'.symm) ▸ returned)
    | missing applicable uncalled => simp [hcalls] at uncalled
    | duplicate again => simp [hcalls] at again

/-- An applicable declaration that leaves no error has its verdict. -/
theorem gapOf_clean {d : ManifestAssertionDefinition}
    (hd : d ∈ context.scenario.declaredAssertions) (happlicable : Applicable registry context d)
    (hclean : (gradeOne registry context d).errors = []) :
    gapOf (gradeAll registry.registrations context).raw d = [] := by
  rw [gapOf, verdictsOn_gradeAll hd]
  have hgraded := graded_cases registry context d
  generalize gradeOne registry context d = one at hgraded hclean
  cases hgraded with
  | unknown absent => cases hclean
  | mismatched r mem named category => cases hclean
  | elsewhere r mem named category layer => exact absurd (happlicable r mem named) layer
  | judged r mem named category layer v returned => rfl
  | raised r mem named category layer exceptionType never => cases hclean

/-- Only a verdict that was returned passes. -/
theorem settled_passed {d : ManifestAssertionDefinition}
    (hd : d ∈ context.scenario.declaredAssertions)
    (hpassed : (resultOf (gradeAll registry.registrations context).raw d).passed = true) :
    ∃ r ∈ registry.registrations, r.assertionId = d.assertionId ∧
      calls registry context d = 1 ∧ ∃ v, r.grader context = .verdict v ∧ v.passed = true := by
  have hcalls : calls registry context d = (gradeOne registry context d).raw.length :=
    calls_eq hd
  rw [resultOf, verdictsOn_gradeAll hd] at hpassed
  have hgraded := graded_cases registry context d
  generalize gradeOne registry context d = one at hgraded hcalls hpassed
  cases hgraded with
  | unknown absent => cases hpassed
  | mismatched r mem named category => cases hpassed
  | elsewhere r mem named category layer => cases hpassed
  | judged r mem named category layer v returned =>
    exact ⟨r, mem, named, hcalls, v, returned, hpassed⟩
  | raised r mem named category layer exceptionType never => cases hpassed

theorem assertionId_ne (d : ManifestAssertionDefinition)
    (hd : d ∈ context.scenario.declaredAssertions) : d.assertionId ≠ "" := by
  intro hempty
  have hmatch := context.scenario.idsMatch d hd
  rw [hempty] at hmatch
  cases hmatch

/-- A result can be built unless the only verdict has no detail. -/
theorem resultOf_build {d : ManifestAssertionDefinition}
    (hd : d ∈ context.scenario.declaredAssertions) :
    (resultOf (gradeAll registry.registrations context).raw d).build =
        .ok (resultOf (gradeAll registry.registrations context).raw d) ↔
      ∀ r ∈ registry.registrations, r.assertionId = d.assertionId → d.category ∈ r.categories →
        context.layer ∈ r.applicableLayers → ∀ v, r.grader context = .verdict v → v.detail ≠ "" := by
  have hbuild : ∀ result : AssertionResult, result.assertionId ≠ "" →
      (result.build = .ok result ↔ result.detail ≠ "") := by
    intro result hid
    rw [AssertionResult.build]
    split_ifs with h <;> simp_all
  rw [hbuild _ (assertionId_ne d hd), resultOf, verdictsOn_gradeAll hd]
  have hgraded := graded_cases registry context d
  generalize gradeOne registry context d = one at hgraded
  cases hgraded with
  | unknown absent =>
    refine iff_of_true (by simp [settle]) ?_
    intro r hr hid
    exact absurd hid (absent r hr)
  | mismatched r mem named category =>
    refine iff_of_true (by simp [settle]) ?_
    intro r' hr' hid' hcategory
    exact absurd (registry.unique hr' mem (hid'.trans named.symm) ▸ hcategory) category
  | elsewhere r mem named category layer =>
    refine iff_of_true (by simp [settle]) ?_
    intro r' hr' hid' _ hlayer
    exact absurd (registry.unique hr' mem (hid'.trans named.symm) ▸ hlayer) layer
  | judged r mem named category layer v returned =>
    constructor
    · intro hdetail r' hr' hid' _ _ v' hv'
      rw [registry.unique hr' mem (hid'.trans named.symm), returned] at hv'
      cases hv'
      exact hdetail
    · intro h
      exact h r mem named category layer v returned
  | raised r mem named category layer exceptionType never =>
    refine iff_of_true ?_ ?_
    · simp [settle, failedVerdict]
    · intro r' hr' hid' _ _ v' hv'
      exact absurd (registry.unique hr' mem (hid'.trans named.symm) ▸ hv') (never v')

/-! ### The grading of a manifest -/

theorem mapM_ok {α β ε : Type} {f : α → Except ε β} {g : α → β} (l : List α)
    (h : ∀ x ∈ l, f x = .ok (g x)) : l.mapM f = .ok (l.map g) := by
  induction l with
  | nil => rfl
  | cons x l ih =>
    rw [List.mapM_cons, h x List.mem_cons_self, ih fun y hy => h y (List.mem_cons_of_mem _ hy)]
    rfl

theorem of_mapM_ok {α β ε : Type} {f : α → Except ε β} {l : List α} {out : List β}
    (h : l.mapM f = .ok out) : ∀ x ∈ l, ∃ y, f x = .ok y := by
  induction l generalizing out with
  | nil => exact nofun
  | cons x l ih =>
    rw [List.mapM_cons] at h
    cases hx : f x with
    | error e => rw [hx] at h; cases h
    | ok y =>
      rw [hx] at h
      cases hl : l.mapM f with
      | error e =>
        have h' : (do let rest ← l.mapM f; return y :: rest) = Except.ok out := h
        rw [hl] at h'
        cases h'
      | ok rest => exact List.forall_mem_cons.mpr ⟨⟨y, hx⟩, ih hl⟩

/-- Every result can be built exactly when no verdict lacks its detail. -/
theorem detailsFilled_iff : DetailsFilled registry context ↔
    ∀ d ∈ (gradeAll registry.registrations context).declarations,
      (resultOf (gradeAll registry.registrations context).raw d).build =
        .ok (resultOf (gradeAll registry.registrations context).raw d) := by
  constructor
  · intro h d hd
    have hdeclared := (mem_declarations.mp hd).1
    exact (resultOf_build hdeclared).mpr (h d hdeclared)
  · intro h d hd r hr hid hcategory hlayer
    have happlicable : Applicable registry context d := by
      intro r' hr' hid'
      rwa [registry.unique hr' hr (hid'.trans hid.symm)]
    exact (resultOf_build hd).mp (h d (mem_declarations.mpr ⟨hd, happlicable⟩)) r hr hid hcategory
      hlayer

theorem declarations_nodup :
    ((gradeAll registry.registrations context).declarations.map (·.assertionId)).Nodup :=
  (declarations_sublist.map _).nodup context.scenario.idsNodup

theorem duplicateIds_nil {results : List AssertionResult}
    (h : (results.map (·.assertionId)).Nodup) : duplicateIds results = [] := by
  have hnone : ((results.map (·.assertionId)).dedup.filter
      (1 < (results.map (·.assertionId)).count ·)) = [] := by
    refine List.filter_eq_nil_iff.mpr fun assertionId _ => ?_
    simpa using List.nodup_iff_count_le_one.mp h assertionId
  rw [duplicateIds, hnone]
  rfl

/-- The errors of a run, no result being given twice. -/
def runErrors (registry : GraderRegistry) (context : GradingContext) : List String :=
  (gradeAll registry.registrations context).errors ++
    (gradeAll registry.registrations context).declarations.flatMap
      (gapOf (gradeAll registry.registrations context).raw)

theorem runErrors_eq_nil : runErrors registry context = [] ↔
    ∀ d ∈ context.scenario.declaredAssertions, ¬ Defect registry context d := by
  have herrors : (gradeAll registry.registrations context).errors = [] ↔
      ∀ d ∈ context.scenario.declaredAssertions, ¬ Defect registry context d := by
    rw [gradeAll_eq, List.flatMap_eq_nil_iff]
    refine forall₂_congr fun d hd => ?_
    rw [defect_iff hd, not_not]
  rw [runErrors, List.append_eq_nil_iff, herrors, and_iff_left_iff_imp]
  intro hclean
  refine List.flatMap_eq_nil_iff.mpr fun d hd => ?_
  obtain ⟨hdeclared, happlicable⟩ := mem_declarations.mp hd
  have hnone := hclean d hdeclared
  rw [defect_iff hdeclared, not_not] at hnone
  exact gapOf_clean hdeclared happlicable hnone

/-- What a grading that ends is made of. -/
theorem execute_ok (h : DetailsFilled registry context) :
    ∃ grading, executeManifestGraders context registry.registrations = .ok grading ∧
      grading.assertions = (gradeAll registry.registrations context).declarations.map
        (resultOf (gradeAll registry.registrations context).raw) ∧
      (grading.errorCode = none ↔ runErrors registry context = []) := by
  have hresults := mapM_ok _ (detailsFilled_iff.mp h)
  have hids : ((gradeAll registry.registrations context).declarations.map
      (resultOf (gradeAll registry.registrations context).raw)).map (·.assertionId) =
        (gradeAll registry.registrations context).declarations.map (·.assertionId) :=
    List.map_map
  obtain ⟨integrity, hintegrity⟩ : ∃ integrity,
      integrityResult (runErrors registry context) = .ok integrity := by
    rw [integrityResult, AssertionResult.build, if_neg]
    · exact ⟨_, rfl⟩
    · cases (runErrors registry context).isEmpty <;> simp
  have hfinal : executeManifestGraders context registry.registrations = .ok
      { assertions := (gradeAll registry.registrations context).declarations.map
          (resultOf (gradeAll registry.registrations context).raw)
        applicableAssertionIds :=
          (gradeAll registry.registrations context).declarations.map (·.assertionId)
        integrityAssertion := integrity
        errorCode :=
          if (runErrors registry context).isEmpty then none
          else if (runErrors registry context).any fun e =>
            "grader_exception:".toList.isPrefixOf e.toList then some "EVAL_GRADER_EXCEPTION"
          else some "EVAL_GRADER_CONTRACT" } := by
    rw [executeManifestGraders, registry.build]
    show finalizeManifestGrading _ _ _ = _
    rw [finalizeManifestGrading, hresults]
    show (do
      let integrity ← integrityResult (_ ++ (duplicateIds _).map _)
      _) = _
    rw [duplicateIds_nil (hids ▸ declarations_nodup), List.map_nil, List.append_nil]
    show (do
      let integrity ← integrityResult (runErrors registry context)
      _) = _
    rw [hintegrity]
    rfl
  refine ⟨_, hfinal, rfl, ?_⟩
  dsimp only
  cases hempty : runErrors registry context with
  | nil => simp
  | cons e errors => split_ifs <;> simp_all

theorem execute_failsClosed (h : DetailsFilled registry context) :
    ∃ grading, executeManifestGraders context registry.registrations = .ok grading ∧
      FailsClosed registry context grading := by
  obtain ⟨grading, hexecute, hassertions, herror⟩ := execute_ok h
  have hmem : ∀ a ∈ grading.assertions, ∃ d ∈ context.scenario.declaredAssertions,
      Applicable registry context d ∧
        a = resultOf (gradeAll registry.registrations context).raw d := by
    intro a ha
    rw [hassertions, List.mem_map] at ha
    obtain ⟨d, hd, rfl⟩ := ha
    obtain ⟨hdeclared, happlicable⟩ := mem_declarations.mp hd
    exact ⟨d, hdeclared, happlicable, rfl⟩
  refine ⟨grading, hexecute, ?_, ?_, ?_, ?_⟩
  · intro d hd happlicable
    have hids : grading.assertions.map (·.assertionId) =
        (gradeAll registry.registrations context).declarations.map (·.assertionId) := by
      rw [hassertions, List.map_map]
      rfl
    rw [hids]
    exact List.count_eq_one_of_mem declarations_nodup
      (List.mem_map_of_mem (mem_declarations.mpr ⟨hd, happlicable⟩))
  · intro a ha
    obtain ⟨d, hd, happlicable, rfl⟩ := hmem a ha
    exact ⟨d, hd, happlicable, rfl⟩
  · intro a ha hpassed
    obtain ⟨d, hd, -, rfl⟩ := hmem a ha
    obtain ⟨r, hr, hid, hcalls, hv⟩ := settled_passed hd hpassed
    exact ⟨d, hd, r, hr, rfl, hid, hcalls, hv⟩
  · rw [herror, runErrors_eq_nil]

/-- The grading of a manifest fails closed exactly when no grader that is called returns a verdict
    without a detail: then it ends in an error and has no results at all. -/
theorem manifest_fails_closed_iff (registry : GraderRegistry) (context : GradingContext) :
    (∃ grading, executeManifestGraders context registry.registrations = .ok grading ∧
      FailsClosed registry context grading) ↔ DetailsFilled registry context := by
  refine ⟨?_, execute_failsClosed⟩
  rintro ⟨grading, hexecute, -⟩
  rw [executeManifestGraders, registry.build] at hexecute
  have hfinal : finalizeManifestGrading _ _ _ = Except.ok grading := hexecute
  rw [finalizeManifestGrading] at hfinal
  rw [detailsFilled_iff]
  cases hresults : (gradeAll registry.registrations context).declarations.mapM
      fun d => (resultOf (gradeAll registry.registrations context).raw d).build with
  | error e => rw [hresults] at hfinal; cases hfinal
  | ok results =>
    intro d hd
    obtain ⟨result, hresult⟩ := of_mapM_ok hresults d hd
    rw [AssertionResult.build] at hresult ⊢
    split_ifs at hresult ⊢
    rfl

end Runs

/-! A grader that passes without a word. -/

def wordlessManifest : ScenarioManifest where
  scenarioId := "investigation-sample"
  applicableLayers := [.investigation]
  qualityAssertions := ["reason_code"]
  safetyAssertions := []
  forbiddenBehaviors := []
  hasLayers := by decide
  idsNodup := by decide
  idsMatch := by decide

def wordlessRegistry : GraderRegistry where
  registrations := [⟨"reason_code", [.quality], [.investigation], fun _ => .verdict ⟨true, ""⟩⟩]
  named := by decide
  contracted := by decide
  idsNodup := by decide
  nonempty := by decide

theorem wordless_grading_lost :
    let context : GradingContext := ⟨wordlessManifest, .investigation, .agent, [], [], []⟩
    executeManifestGraders context wordlessRegistry.registrations = .error .validation ∧
      ¬ ∃ grading, executeManifestGraders context wordlessRegistry.registrations = .ok grading ∧
        FailsClosed wordlessRegistry context grading := by
  have herror : executeManifestGraders ⟨wordlessManifest, .investigation, .agent, [], [], []⟩
      wordlessRegistry.registrations = .error .validation := rfl
  refine ⟨herror, ?_⟩
  rintro ⟨grading, hexecute, -⟩
  rw [herror] at hexecute
  cases hexecute

end AfterSales.Manifest
