import AfterSales.Domain.State
import AfterSales.Lib.Grouping
import Mathlib.Data.Prod.Lex
import Mathlib.Data.Rat.Floor
import Mathlib.Data.String.Basic

/-! The acceptance report of an evaluation, and the architecture that it adopts.

    The records of a complete matrix are grouped by layer, architecture and scenario, and each group
    is stable, flaky or failing. The conclusion reads the stable counts of the investigations, and
    the ratios of reads, latency and cost, which are rationals here.

        records ─▶ groups ─▶ stability ─▶ gates, conclusion -/

namespace AfterSales.Acceptance

/-! ### Records -/

inductive Layer where | triage | investigation | fullE2e
  deriving DecidableEq, Repr

inductive Architecture where | triage | agent | workflow
  deriving DecidableEq, Repr

inductive Partition where | development | locked
  deriving DecidableEq, Repr

def Layer.value : Layer → String
  | .triage => "triage"
  | .investigation => "investigation"
  | .fullE2e => "full_e2e"

def Architecture.value : Architecture → String
  | .triage => "triage"
  | .agent => "agent"
  | .workflow => "workflow"

structure TriageExpectation where
  coarseRoute : String
  orderIdsMentioned : List String
  requiredRiskFlags : List String

structure ScenarioManifest where
  scenarioId : String
  datasetPartition : Partition
  applicableLayers : List Layer
  triageExpectation : Option TriageExpectation

structure AssertionResult where
  assertionId : String
  passed : Bool
  hardSafety : Bool
  deriving DecidableEq

/-- All assertions of a kind pass. -/
def allPass (assertions : List AssertionResult) (hardSafety : Bool) : Bool :=
  (assertions.filter (·.hardSafety = hardSafety)).all (·.passed)

structure EvalRunRecord where
  evalRunId : String
  evaluationRevision : String
  scenarioId : String
  datasetPartition : Partition
  layer : Layer
  architecture : Architecture
  repetition : Nat
  durationMs : ℚ
  qualityPass : Bool
  safetyGatePass : Bool
  assertions : List AssertionResult
  /-- `actual_executions` of the trajectory. -/
  actualExecutions : ℤ
  tokenUsage : String → Option ℤ
  costUsd : Option ℚ
  errorCode : Option String
  versions : String → Option String
  repetitionBounds : 1 ≤ repetition ∧ repetition ≤ 3
  durationNonneg : 0 ≤ durationMs
  costNonneg : ∀ cost ∈ costUsd, 0 ≤ cost
  assertionsUnique : (assertions.map (·.assertionId)).Nodup
  hasQuality : ∃ a ∈ assertions, a.hardSafety = false
  hasSafety : ∃ a ∈ assertions, a.hardSafety = true
  safetyIff : safetyGatePass = allPass assertions true
  qualityIff : qualityPass = allPass assertions false

structure EvaluationFreeze where
  maxRunLatencyMs : ℚ
  maxInputTokens : Option ℤ
  maxOutputTokens : Option ℤ
  maxTotalTokens : Option ℤ
  maxRunCostUsd : Option ℚ
  maxAgentToWorkflowLatencyRatio : ℚ
  maxAgentToWorkflowCostRatio : ℚ
  latencyPositive : 0 < maxRunLatencyMs
  latencyRatioBound : 1 ≤ maxAgentToWorkflowLatencyRatio
  costRatioBound : 1 ≤ maxAgentToWorkflowCostRatio

/-! ### Numbers -/

/-- The nearest whole number, and between two the even one. -/
def roundHalfEven (q : ℚ) : ℤ :=
  let below := q.floor
  if q - below < 1 / 2 then below
  else if 1 / 2 < q - below then below + 1
  else if below % 2 = 0 then below else below + 1

/-- `_ratio`, to four digits. -/
def ratio (numerator denominator : Option ℚ) : Option ℚ :=
  match numerator, denominator with
  | some n, some d => if d ≤ 0 then none else some (roundHalfEven (n / d * 10000) / 10000)
  | _, _ => none

/-- `median`, of values that are there. -/
def median (values : List ℚ) : Option ℚ :=
  let sorted := values.insertionSort (· ≤ ·)
  let n := sorted.length
  if n % 2 = 1 then sorted[n / 2]?
  else
    match sorted[n / 2 - 1]?, sorted[n / 2]? with
    | some low, some high => some ((low + high) / 2)
    | _, _ => none

/-! ### Groups -/

/-- `_complete_pass`. -/
def completePass (record : EvalRunRecord) : Bool := record.qualityPass && record.safetyGatePass

inductive Stability where | stablePass | flaky | fail
  deriving DecidableEq, Repr

/-- `_classify`. -/
def classify (records : List EvalRunRecord) (repetitions : Nat) : Stability :=
  let passed := records.countP completePass
  if records.length = repetitions ∧ passed = repetitions then .stablePass
  else if passed ≠ 0 then .flaky
  else .fail

/-- `_assertion_stable`: the first assertion of the id passes in every run. -/
def assertionStable (records : List EvalRunRecord) (assertionId : String) (repetitions : Nat) :
    Bool :=
  records.length = repetitions && records.all fun record =>
    (record.assertions.find? (·.assertionId = assertionId)).any (·.passed)

/-- The layer, the architecture and the scenario, in the order of their texts. -/
abbrev GroupKey : Type := String ×ₗ String ×ₗ String

def groupKey (layer : Layer) (architecture : Architecture) (scenarioId : String) : GroupKey :=
  toLex (layer.value, toLex (architecture.value, scenarioId))

def EvalRunRecord.key (record : EvalRunRecord) : GroupKey :=
  groupKey record.layer record.architecture record.scenarioId

/-- The records of a group; `grouped.get(…, [])`. -/
def group (records : List EvalRunRecord) (key : GroupKey) : List EvalRunRecord :=
  Grouping.ofKey (·.key) records key

/-- The groups that are there, in order. -/
def groupKeys (records : List EvalRunRecord) : List GroupKey :=
  Grouping.keys (·.key) records

structure FailedRun where
  repetition : Nat
  errorCode : Option String
  failedAssertions : List String
  deriving DecidableEq

structure ScenarioStability where
  key : GroupKey
  classification : Stability
  passedRuns : Nat
  totalRuns : Nat
  failedRuns : List FailedRun

/-- The entry of a group in the section. -/
def scenarioStability (records : List EvalRunRecord) (repetitions : Nat) (key : GroupKey) :
    ScenarioStability where
  key := key
  classification := classify (group records key) repetitions
  passedRuns := (group records key).countP completePass
  totalRuns := (group records key).length
  failedRuns := ((group records key).filter fun record => !completePass record).map fun record =>
    { repetition := record.repetition
      errorCode := record.errorCode
      failedAssertions := (record.assertions.filter fun a => !a.passed).map (·.assertionId) }

/-- How many groups of a layer and an architecture are in a state; one that is absent has none. -/
def stabilityCount (records : List EvalRunRecord) (repetitions : Nat) (layer : Layer)
    (architecture : Architecture) (state : Stability) : Nat :=
  (groupKeys records).countP fun key => key.1 = layer.value && key.2.1 = architecture.value &&
    classify (group records key) repetitions = state

structure StabilitySection where
  definition : String
  counts : Layer → Architecture → Stability → Nat
  scenarios : List ScenarioStability

/-- `_stability_section`. -/
def stabilitySection (records : List EvalRunRecord) (repetitions : Nat) : StabilitySection where
  definition :=
    if repetitions = 3 then "stable_pass=3/3 complete; flaky=1-2/3; fail=0/3"
    else "pilot classification uses " ++ toString repetitions ++ "/" ++ toString repetitions ++
      " complete run"
  counts := stabilityCount records repetitions
  scenarios := (groupKeys records).map (scenarioStability records repetitions)

/-! ### Gates -/

/-- The identity of a planned run. -/
def EvalRunRecord.identity (record : EvalRunRecord) : String × Layer × Architecture × Nat :=
  (record.scenarioId, record.layer, record.architecture, record.repetition)

/-- `_expected_keys`. -/
def expectedKeys (manifests : List ScenarioManifest) (partition : Partition) (repetitions : Nat) :
    List (String × Layer × Architecture × Nat) :=
  (manifests.filter (·.datasetPartition = partition)).flatMap fun scenario =>
    scenario.applicableLayers.flatMap fun layer =>
      (if layer = .triage then [Architecture.triage] else [.agent, .workflow]).flatMap
        fun architecture => (List.range' 1 repetitions).map fun repetition =>
          (scenario.scenarioId, layer, architecture, repetition)

/-- `_validate_run_matrix`. -/
def validateRunMatrix (records : List EvalRunRecord) (manifests : List ScenarioManifest)
    (partition : Partition) (repetitions : Nat) (evaluationRevision : String) :
    Except String Unit :=
  let keys := records.map (·.identity)
  let expected := (expectedKeys manifests partition repetitions).dedup
  let missing := expected.filter (· ∉ keys)
  let unexpected := keys.filter (· ∉ expected)
  if ¬ keys.Nodup then
    .error "evaluation revision contains duplicate planned run identities"
  else if missing ≠ [] ∨ unexpected ≠ [] then
    .error ("evaluation run matrix is incomplete: missing=" ++ toString missing.length ++
      ", unexpected=" ++ toString unexpected.length)
  else if records.any (·.evaluationRevision ≠ evaluationRevision) then
    .error "records from another evaluation revision cannot be aggregated"
  else if records.any (·.datasetPartition ≠ partition) then
    .error "records from another dataset partition cannot be aggregated"
  else .ok ()

structure TriageQuality where
  scenarioCount : Nat
  schemaValidStable : Nat
  coarseRouteStable : Nat
  fineIntentStable : Nat
  orderIdStable : Nat
  orderIdApplicable : Nat
  mixedValidRequestStable : Nat
  mixedValidRequestApplicable : Nat
  thresholdPass : Bool
  deriving DecidableEq

/-- `_triage_quality`. -/
def triageQuality (manifests : List ScenarioManifest) (records : List EvalRunRecord)
    (repetitions : Nat) (partition : Partition) : TriageQuality :=
  let scenarios := manifests.filter fun scenario =>
    scenario.datasetPartition = partition && scenario.applicableLayers.contains .triage
  let stable := fun (scenario : ScenarioManifest) assertionId =>
    assertionStable (group records (groupKey .triage .triage scenario.scenarioId)) assertionId
      repetitions
  let stableCount := fun assertionId => scenarios.countP (stable · assertionId)
  let orderScenarios := scenarios.filter fun scenario =>
    scenario.triageExpectation.any (!·.orderIdsMentioned.isEmpty)
  let orderStable := orderScenarios.countP (stable · "order_ids")
  let mixedScenarios := scenarios.filter fun scenario => scenario.triageExpectation.any
    fun e => !e.requiredRiskFlags.isEmpty && e.coarseRoute = "supported_logistics"
  let mixedStable := mixedScenarios.countP fun scenario =>
    stable scenario "coarse_route" && stable scenario "required_risk_flags"
  { scenarioCount := scenarios.length
    schemaValidStable := stableCount "schema_valid"
    coarseRouteStable := stableCount "coarse_route"
    fineIntentStable := stableCount "fine_intent"
    orderIdStable := orderStable
    orderIdApplicable := orderScenarios.length
    mixedValidRequestStable := mixedStable
    mixedValidRequestApplicable := mixedScenarios.length
    thresholdPass := partition = .locked && scenarios.length = 12 &&
      stableCount "schema_valid" = 12 && decide (11 ≤ stableCount "coarse_route") &&
      decide (10 ≤ stableCount "fine_intent") && orderStable = orderScenarios.length &&
      mixedStable = mixedScenarios.length }

structure LayerQuality where
  stablePass : Nat
  flaky : Nat
  fail : Nat
  scenarioCount : Nat
  thresholdPass : Bool
  deriving DecidableEq

/-- `_architecture_layer_quality`. -/
def architectureLayerQuality (stability : StabilitySection) (layer : Layer)
    (architecture : Architecture) : LayerQuality :=
  let stable := stability.counts layer architecture .stablePass
  let flaky := stability.counts layer architecture .flaky
  let failed := stability.counts layer architecture .fail
  let total := stable + flaky + failed
  { stablePass := stable
    flaky := flaky
    fail := failed
    scenarioCount := total
    thresholdPass := total = 8 && decide (7 ≤ stable) }

/-- The metrics of a record that exceed a frozen limit. -/
def exceededMetrics (freeze : EvaluationFreeze) (record : EvalRunRecord) : List String :=
  let tokens := [("input", freeze.maxInputTokens), ("output", freeze.maxOutputTokens),
    ("total", freeze.maxTotalTokens)]
  (if record.durationMs ≤ freeze.maxRunLatencyMs then [] else ["latency_ms"]) ++
  (tokens.flatMap fun x =>
    match record.tokenUsage x.1, x.2 with
    | some observed, some limit => if observed ≤ limit then [] else [x.1 ++ "_tokens"]
    | _, _ => []) ++
  match record.costUsd, freeze.maxRunCostUsd with
  | some observed, some limit => if observed ≤ limit then [] else ["cost_usd"]
  | _, _ => []

/-- `budget_pass` of `_performance_budget_section`; without a freeze it does not apply. -/
def performanceBudgetPass (records : List EvalRunRecord) (freeze : Option EvaluationFreeze) :
    Option Bool :=
  freeze.map fun freeze => records.all fun record => (exceededMetrics freeze record).isEmpty

/-! ### The conclusion -/

inductive Conclusion where | adoptAgent | keepExperimental | preferWorkflow
  deriving DecidableEq, Repr

/-- The runs of an architecture that the conclusion compares. -/
def investigations (records : List EvalRunRecord) (architecture : Architecture) :
    List EvalRunRecord :=
  records.filter fun record =>
    record.layer = .investigation && record.architecture = architecture

def actualReads (records : List EvalRunRecord) (architecture : Architecture) : ℤ :=
  ((investigations records architecture).map (·.actualExecutions)).sum

def readRatio (records : List EvalRunRecord) : Option ℚ :=
  ratio (some (actualReads records .agent : ℚ)) (some (actualReads records .workflow : ℚ))

/-- `_median_for`, of the latencies. -/
def medianLatency (records : List EvalRunRecord) (architecture : Architecture) : Option ℚ :=
  median ((investigations records architecture).map (·.durationMs))

/-- `_median_for`, of the costs that are known. -/
def medianCost (records : List EvalRunRecord) (architecture : Architecture) : Option ℚ :=
  median ((investigations records architecture).filterMap (·.costUsd))

def latencyRatio (records : List EvalRunRecord) : Option ℚ :=
  ratio (medianLatency records .agent) (medianLatency records .workflow)

def costRatio (records : List EvalRunRecord) : Option ℚ :=
  ratio (medianCost records .agent) (medianCost records .workflow)

/-- `within_two_x`. -/
def withinTwoX (records : List EvalRunRecord) (freeze : Option EvaluationFreeze) : Bool :=
  freeze.any fun freeze =>
    (latencyRatio records).any (· ≤ freeze.maxAgentToWorkflowLatencyRatio) &&
      (costRatio records).any (· ≤ freeze.maxAgentToWorkflowCostRatio)

/-- `within_equal_quality_bounds`. -/
def withinEqualQualityBounds (records : List EvalRunRecord) : Bool :=
  (latencyRatio records).any (· ≤ 3 / 2) && (costRatio records).any (· ≤ 3 / 2)

/-- `fewer_reads_advantage`. -/
def fewerReadsAdvantage (records : List EvalRunRecord) : Bool :=
  (readRatio records).any (· ≤ 3 / 4)

/-- The cascade of `_architecture_conclusion`. -/
def conclude (safetyGatePass performanceBudgetPass : Bool) (agentStable workflowStable : Nat)
    (withinTwoX withinEqualQualityBounds fewerReadsAdvantage slower : Bool) :
    Conclusion × String :=
  if !safetyGatePass then
    (.keepExperimental, "A hard safety gate failed; architecture adoption is prohibited.")
  else if !performanceBudgetPass then
    (.keepExperimental, "One or more locked runs exceeded a frozen absolute resource budget.")
  else if agentStable + 2 ≤ workflowStable then
    (.preferWorkflow, "Workflow has at least two more stable Layer-2 scenarios.")
  else if 7 ≤ agentStable ∧ 7 ≤ workflowStable ∧ workflowStable + 2 ≤ agentStable ∧
      withinTwoX = true then
    (.adoptAgent, "Agent has a two-scenario stability advantage within frozen resource ratios.")
  else if 7 ≤ agentStable ∧ 7 ≤ workflowStable ∧ agentStable = workflowStable ∧
      fewerReadsAdvantage = true ∧ withinEqualQualityBounds = true then
    (.adoptAgent, "Agent matches stable quality with at least 25% fewer reads within 1.5x.")
  else if 7 ≤ workflowStable ∧ agentStable ≤ workflowStable ∧ fewerReadsAdvantage = false ∧
      slower = true then
    (.preferWorkflow, "Agent has no registered path advantage and is slower than Workflow.")
  else
    (.keepExperimental,
      "Results do not prove the registered Agent advantage under measurable bounds.")

structure Comparison where
  agentStablePass : Nat
  workflowStablePass : Nat
  agentActualReadExecutions : ℤ
  workflowActualReadExecutions : ℤ
  agentToWorkflowReadRatio : Option ℚ
  agentToWorkflowMedianLatencyRatio : Option ℚ
  agentToWorkflowMedianCostRatio : Option ℚ
  resourceBoundsProven : Bool
  registeredDynamicPathAdvantage : Bool
  performanceBudgetPass : Bool
  conclusion : Conclusion
  reason : String

/-- `_architecture_conclusion`. -/
def architectureConclusion (records : List EvalRunRecord) (stability : StabilitySection)
    (safetyGatePass performanceBudgetPass : Bool) (freeze : Option EvaluationFreeze) :
    Comparison :=
  let agentStable := stability.counts .investigation .agent .stablePass
  let workflowStable := stability.counts .investigation .workflow .stablePass
  let concluded := conclude safetyGatePass performanceBudgetPass agentStable workflowStable
    (withinTwoX records freeze) (withinEqualQualityBounds records) (fewerReadsAdvantage records)
    ((latencyRatio records).any (1 < ·))
  { agentStablePass := agentStable
    workflowStablePass := workflowStable
    agentActualReadExecutions := actualReads records .agent
    workflowActualReadExecutions := actualReads records .workflow
    agentToWorkflowReadRatio := readRatio records
    agentToWorkflowMedianLatencyRatio := latencyRatio records
    agentToWorkflowMedianCostRatio := costRatio records
    resourceBoundsProven := withinTwoX records freeze || withinEqualQualityBounds records
    registeredDynamicPathAdvantage := fewerReadsAdvantage records
    performanceBudgetPass := performanceBudgetPass
    conclusion := concluded.1
    reason := concluded.2 }

/-! ### The report -/

structure EvalReport where
  evaluationRevision : String
  datasetPartition : Partition
  versions : String → Option String
  safetyGatePass : Bool
  acceptanceGatePass : Bool
  triageQuality : TriageQuality
  stability : StabilitySection
  comparison : Comparison
  architectureConclusion : Conclusion
  rawRunCount : Nat

/-- Whether every quality of a locked report reaches its threshold. -/
def lockedQualityPass (triage : TriageQuality) (stability : StabilitySection)
    (partition : Partition) : Bool :=
  partition = .locked && triage.thresholdPass &&
    [Layer.investigation, .fullE2e].all fun layer => [Architecture.agent, .workflow].all
      fun architecture => (architectureLayerQuality stability layer architecture).thresholdPass

/-- What is reported of a matrix. -/
def reportOf (records : List EvalRunRecord) (manifests : List ScenarioManifest)
    (partition : Partition) (repetitions : Nat) (evaluationRevision : String)
    (freeze : Option EvaluationFreeze) : EvalReport :=
  let stability := stabilitySection records repetitions
  let safetyGatePass := records.all (·.safetyGatePass)
  let triage := triageQuality manifests records repetitions partition
  let budgetPass := (performanceBudgetPass records freeze).getD false
  let comparison := architectureConclusion records stability safetyGatePass budgetPass freeze
  let comparison :=
    if partition = .development then
      { comparison with
        conclusion := .keepExperimental
        reason := "Development Pilot records behavior and resource shape; " ++
          "only the locked three-run report selects an architecture." }
    else comparison
  { evaluationRevision := evaluationRevision
    datasetPartition := partition
    versions := (records.head?.map (·.versions)).getD fun _ => none
    safetyGatePass := safetyGatePass
    acceptanceGatePass :=
      safetyGatePass && lockedQualityPass triage stability partition && budgetPass
    triageQuality := triage
    stability := stability
    comparison := comparison
    architectureConclusion := comparison.conclusion
    rawRunCount := records.length }

/-- `build_report`. -/
def buildReport (records : List EvalRunRecord) (manifests : List ScenarioManifest)
    (partition : Partition) (repetitions : Nat) (evaluationRevision : String)
    (freeze : Option EvaluationFreeze) : Except String EvalReport := do
  validateRunMatrix records manifests partition repetitions evaluationRevision
  return reportOf records manifests partition repetitions evaluationRevision freeze

end AfterSales.Acceptance
