import AfterSales.Evals.ReportOrder

/-! How the conclusion of a locked report depends on the agent's results.

    When investigations of the agent fail and everything else stays, no gate opens and the agent
    has no more stable scenarios than before. The cascade adopts the agent from two more stable
    scenarios on, or at an equal number with fewer reads; between the two lies a gap, and an agent
    that falls through it is adopted.

        agent − workflow:   0                  1        2 …
        conclusion:      adopt (fewer reads)   keep     adopt (within the ratios) -/

namespace AfterSales.Acceptance

variable {records records' : List EvalRunRecord} {manifests : List ScenarioManifest}
  {partition : Partition} {repetitions : Nat} {evaluationRevision : String}
  {freeze : Option EvaluationFreeze} {r r' : EvalRunRecord} {fail : EvalRunRecord → EvalRunRecord}

/-! ### Runs that fail -/

/-- The run with its resources, failed. -/
structure Failed (r r' : EvalRunRecord) : Prop where
  evalRunId : r'.evalRunId = r.evalRunId
  evaluationRevision : r'.evaluationRevision = r.evaluationRevision
  datasetPartition : r'.datasetPartition = r.datasetPartition
  identity : r'.identity = r.identity
  durationMs : r'.durationMs = r.durationMs
  actualExecutions : r'.actualExecutions = r.actualExecutions
  tokenUsage : r'.tokenUsage = r.tokenUsage
  costUsd : r'.costUsd = r.costUsd
  versions : r'.versions = r.versions
  quality : r'.qualityPass = true → r.qualityPass = true
  safety : r'.safetyGatePass = true → r.safetyGatePass = true
  notPassed : completePass r' = false

/-- Some investigations of the agent fail, and every other run stays. -/
def FailsAgent (records : List EvalRunRecord) (fail : EvalRunRecord → EvalRunRecord) : Prop :=
  ∀ r ∈ records, fail r = r ∨
    (r.layer = .investigation ∧ r.architecture = .agent ∧ Failed r (fail r))

/-- What a run keeps, whether it fails or not. -/
structure Kept (r r' : EvalRunRecord) : Prop where
  evaluationRevision : r'.evaluationRevision = r.evaluationRevision
  datasetPartition : r'.datasetPartition = r.datasetPartition
  identity : r'.identity = r.identity
  durationMs : r'.durationMs = r.durationMs
  actualExecutions : r'.actualExecutions = r.actualExecutions
  tokenUsage : r'.tokenUsage = r.tokenUsage
  costUsd : r'.costUsd = r.costUsd
  safety : r'.safetyGatePass = true → r.safetyGatePass = true
  passes : completePass r' = true → completePass r = true

theorem FailsAgent.kept (h : FailsAgent records fail) (hr : r ∈ records) : Kept r (fail r) := by
  rcases h r hr with hsame | ⟨-, -, hfailed⟩
  · rw [hsame]
    exact ⟨rfl, rfl, rfl, rfl, rfl, rfl, rfl, id, id⟩
  · exact ⟨hfailed.evaluationRevision, hfailed.datasetPartition, hfailed.identity,
      hfailed.durationMs, hfailed.actualExecutions, hfailed.tokenUsage, hfailed.costUsd,
      hfailed.safety, fun hpass => absurd hpass (by simp [hfailed.notPassed])⟩

theorem Kept.layer (h : Kept r r') : r'.layer = r.layer := congrArg (·.2.1) h.identity

theorem Kept.architecture (h : Kept r r') : r'.architecture = r.architecture :=
  congrArg (·.2.2.1) h.identity

theorem Kept.key (h : Kept r r') : r'.key = r.key := by
  have hscenario : r'.scenarioId = r.scenarioId := congrArg (·.1) h.identity
  rw [EvalRunRecord.key, EvalRunRecord.key, h.layer, h.architecture, hscenario]

/-! ### What the failures leave -/

theorem Complete.fails
    (h : Complete records manifests partition repetitions evaluationRevision)
    (hfail : FailsAgent records fail) :
    Complete (records.map fail) manifests partition repetitions evaluationRevision := by
  have hidentities : (records.map fail).map (·.identity) = records.map (·.identity) := by
    rw [List.map_map]
    exact List.map_congr_left fun r hr => (hfail.kept hr).identity
  constructor
  · rw [hidentities]
    exact h.identities
  · rw [hidentities]
    exact h.planned
  · refine List.forall_mem_map.mpr fun r hr => ?_
    exact (hfail.kept hr).evaluationRevision.trans (h.revision r hr)
  · refine List.forall_mem_map.mpr fun r hr => ?_
    exact (hfail.kept hr).datasetPartition.trans (h.partitioned r hr)

theorem groupKeys_fails (hfail : FailsAgent records fail) :
    groupKeys (records.map fail) = groupKeys records :=
  Grouping.keys_map fun _ hr => (hfail.kept hr).key

theorem group_fails (hfail : FailsAgent records fail) (key : GroupKey) :
    group (records.map fail) key = (group records key).map fail :=
  Grouping.ofKey_map (fun _ hr => (hfail.kept hr).key) key

theorem investigations_fails (hfail : FailsAgent records fail) (architecture : Architecture) :
    investigations (records.map fail) architecture =
      (investigations records architecture).map fail := by
  rw [investigations, investigations, List.filter_map]
  congr 1
  apply List.filter_congr
  intro r hr
  simp only [Function.comp_apply, (hfail.kept hr).layer, (hfail.kept hr).architecture]

/-- A resource of the investigations is what it was. -/
theorem investigations_map_fails {β : Type} {f : EvalRunRecord → β}
    (hfail : FailsAgent records fail) (hf : ∀ {r r'}, Kept r r' → f r' = f r)
    (architecture : Architecture) :
    (investigations (records.map fail) architecture).map f =
      (investigations records architecture).map f := by
  rw [investigations_fails hfail, List.map_map]
  exact List.map_congr_left fun r hr => hf (hfail.kept (List.mem_of_mem_filter hr))

theorem readRatio_fails (hfail : FailsAgent records fail) :
    readRatio (records.map fail) = readRatio records := by
  have hreads : actualReads (records.map fail) = actualReads records := by
    funext architecture
    rw [actualReads, actualReads, investigations_map_fails hfail Kept.actualExecutions]
  rw [readRatio, readRatio, hreads]

theorem latencyRatio_fails (hfail : FailsAgent records fail) :
    latencyRatio (records.map fail) = latencyRatio records := by
  have hmedian : medianLatency (records.map fail) = medianLatency records := by
    funext architecture
    rw [medianLatency, medianLatency, investigations_map_fails hfail Kept.durationMs]
  rw [latencyRatio, latencyRatio, hmedian]

theorem costRatio_fails (hfail : FailsAgent records fail) :
    costRatio (records.map fail) = costRatio records := by
  have hmedian : medianCost (records.map fail) = medianCost records := by
    funext architecture
    have hcosts := investigations_map_fails hfail Kept.costUsd architecture
    have hknown : ∀ l : List EvalRunRecord, l.filterMap (·.costUsd) =
        (l.map (·.costUsd)).filterMap id := by
      intro l
      rw [List.filterMap_map]
      rfl
    rw [medianCost, medianCost, hknown, hknown, hcosts]
  rw [costRatio, costRatio, hmedian]

theorem withinTwoX_fails (hfail : FailsAgent records fail) :
    withinTwoX (records.map fail) freeze = withinTwoX records freeze := by
  rw [withinTwoX, withinTwoX, latencyRatio_fails hfail, costRatio_fails hfail]

theorem withinEqualQualityBounds_fails (hfail : FailsAgent records fail) :
    withinEqualQualityBounds (records.map fail) = withinEqualQualityBounds records := by
  rw [withinEqualQualityBounds, withinEqualQualityBounds, latencyRatio_fails hfail,
    costRatio_fails hfail]

theorem fewerReadsAdvantage_fails (hfail : FailsAgent records fail) :
    fewerReadsAdvantage (records.map fail) = fewerReadsAdvantage records := by
  rw [fewerReadsAdvantage, fewerReadsAdvantage, readRatio_fails hfail]

theorem performanceBudgetPass_fails (hfail : FailsAgent records fail) :
    performanceBudgetPass (records.map fail) freeze = performanceBudgetPass records freeze := by
  have hexceeded : ∀ freeze, ∀ r ∈ records,
      exceededMetrics freeze (fail r) = exceededMetrics freeze r := by
    intro freeze r hr
    have hkept := hfail.kept hr
    simp only [exceededMetrics, hkept.durationMs, hkept.tokenUsage, hkept.costUsd]
  simp only [performanceBudgetPass, List.all_map]
  congr 1
  funext freeze
  rw [Bool.eq_iff_iff, List.all_eq_true, List.all_eq_true]
  refine forall₂_congr fun r hr => ?_
  rw [Function.comp_apply, hexceeded freeze r hr]

/-! ### What the failures take -/

theorem safety_fails (hfail : FailsAgent records fail)
    (h : (records.map fail).all (·.safetyGatePass) = true) :
    records.all (·.safetyGatePass) = true := by
  rw [List.all_map] at h
  rw [List.all_eq_true] at h ⊢
  exact fun r hr => (hfail.kept hr).safety (h r hr)

theorem classify_stablePass_iff :
    classify records repetitions = .stablePass ↔
      records.length = repetitions ∧ ∀ r ∈ records, completePass r = true := by
  simp only [classify]
  constructor
  · intro h
    split at h
    · rename_i hall
      exact ⟨hall.1, List.countP_eq_length.mp (hall.2.trans hall.1.symm)⟩
    · split at h <;> cases h
  · rintro ⟨hlength, hall⟩
    rw [if_pos ⟨hlength, (List.countP_eq_length.mpr hall).trans hlength⟩]

theorem classify_fails (hfail : FailsAgent records fail) {key : GroupKey}
    (h : classify (group (records.map fail) key) repetitions = .stablePass) :
    classify (group records key) repetitions = .stablePass := by
  rw [group_fails hfail, classify_stablePass_iff, List.length_map, List.forall_mem_map] at h
  refine classify_stablePass_iff.mpr ⟨h.1, fun r hr => ?_⟩
  exact (hfail.kept (Grouping.mem_ofKey.mp hr).1).passes (h.2 r hr)

/-- No more groups are stable than before. -/
theorem stable_fails (hfail : FailsAgent records fail) (layer : Layer)
    (architecture : Architecture) :
    stabilityCount (records.map fail) repetitions layer architecture .stablePass ≤
      stabilityCount records repetitions layer architecture .stablePass := by
  rw [stabilityCount, stabilityCount, groupKeys_fails hfail]
  refine List.countP_mono_left fun key _ h => ?_
  simp only [Bool.and_eq_true, decide_eq_true_eq] at h ⊢
  exact ⟨h.1, classify_fails hfail h.2⟩

/-- The groups of another layer or of the workflow are not touched. -/
theorem group_fails_other (hfail : FailsAgent records fail) {key : GroupKey}
    (hkey : ¬ (key.1 = Layer.investigation.value ∧ key.2.1 = Architecture.agent.value)) :
    group (records.map fail) key = group records key := by
  rw [group_fails hfail]
  refine List.map_congr_left (g := id) (fun r hr => ?_) |>.trans (List.map_id _)
  obtain ⟨hmem, rfl⟩ := Grouping.mem_ofKey.mp hr
  rcases hfail r hmem with hsame | ⟨hlayer, harchitecture, -⟩
  · exact hsame
  · exact absurd ⟨congrArg Layer.value hlayer, congrArg Architecture.value harchitecture⟩ hkey

theorem stabilityCount_fails_workflow (hfail : FailsAgent records fail) (layer : Layer)
    (state : Stability) :
    stabilityCount (records.map fail) repetitions layer .workflow state =
      stabilityCount records repetitions layer .workflow state := by
  rw [stabilityCount, stabilityCount, groupKeys_fails hfail]
  refine List.countP_congr fun key _ => ?_
  by_cases hkey : key.2.1 = Architecture.workflow.value
  · rw [group_fails_other hfail]
    rintro ⟨-, hagent⟩
    cases Architecture.value_inj.mp (hagent.symm.trans hkey)
  · simp [hkey]

theorem triageQuality_fails (hfail : FailsAgent records fail) :
    triageQuality manifests (records.map fail) repetitions partition =
      triageQuality manifests records repetitions partition := by
  have hgroup : ∀ scenarioId, group (records.map fail) (groupKey .triage .triage scenarioId) =
      group records (groupKey .triage .triage scenarioId) := by
    intro scenarioId
    refine group_fails_other hfail ?_
    rintro ⟨hlayer, -⟩
    have hlayer : Layer.triage.value = Layer.investigation.value := hlayer
    cases Layer.value_inj.mp hlayer
  simp only [triageQuality, hgroup]

/-! ### Groups of a layer and an architecture -/

theorem countP_classes {α : Type} (p : α → Bool) (state : α → Stability) (l : List α) :
    l.countP (fun a => p a && state a = .stablePass) + l.countP (fun a => p a && state a = .flaky) +
      l.countP (fun a => p a && state a = .fail) = l.countP p := by
  induction l with
  | nil => rfl
  | cons a l ih =>
    simp only [List.countP_cons, ← ih]
    cases p a <;> cases state a <;> simp <;> omega

/-- Every group is in one state. -/
theorem scenarioCount_eq (records : List EvalRunRecord) (repetitions : Nat) (layer : Layer)
    (architecture : Architecture) :
    (architectureLayerQuality (stabilitySection records repetitions) layer
        architecture).scenarioCount =
      (groupKeys records).countP fun key => key.1 = layer.value && key.2.1 = architecture.value :=
  countP_classes _ (fun key => classify (group records key) repetitions) _

theorem layerQuality_thresholdPass_iff {stability : StabilitySection} {layer : Layer}
    {architecture : Architecture} :
    (architectureLayerQuality stability layer architecture).thresholdPass = true ↔
      (architectureLayerQuality stability layer architecture).scenarioCount = 8 ∧
        7 ≤ stability.counts layer architecture .stablePass := by
  simp [architectureLayerQuality]

theorem layerQuality_fails (hfail : FailsAgent records fail) {layer : Layer}
    {architecture : Architecture}
    (h : (architectureLayerQuality (stabilitySection (records.map fail) repetitions) layer
      architecture).thresholdPass = true) :
    (architectureLayerQuality (stabilitySection records repetitions) layer
      architecture).thresholdPass = true := by
  rw [layerQuality_thresholdPass_iff, scenarioCount_eq] at h ⊢
  rw [groupKeys_fails hfail] at h
  exact ⟨h.1, h.2.trans (stable_fails hfail layer architecture)⟩

/-- No acceptance gate opens. -/
theorem acceptance_fails (hfail : FailsAgent records fail)
    (h : (reportOf (records.map fail) manifests partition repetitions evaluationRevision
      freeze).acceptanceGatePass = true) :
    (reportOf records manifests partition repetitions evaluationRevision
      freeze).acceptanceGatePass = true := by
  simp only [reportOf, lockedQualityPass, Bool.and_eq_true, List.all_eq_true,
    triageQuality_fails hfail, performanceBudgetPass_fails hfail] at h ⊢
  obtain ⟨⟨hsafety, ⟨hlocked, htriage⟩, hlayers⟩, hbudget⟩ := h
  have hsafety' := safety_fails hfail (List.all_eq_true.mpr hsafety)
  refine ⟨⟨List.all_eq_true.mp hsafety', ⟨hlocked, htriage⟩, ?_⟩, hbudget⟩
  intro layer hlayer architecture harchitecture
  exact layerQuality_fails hfail (hlayers layer hlayer architecture harchitecture)

/-! ### The cascade -/

/-- When the cascade adopts the agent. -/
theorem conclude_adoptAgent_iff {safety budget twoX equalBounds fewer slower : Bool}
    {agent workflow : Nat} :
    (conclude safety budget agent workflow twoX equalBounds fewer slower).1 = .adoptAgent ↔
      safety = true ∧ budget = true ∧ 7 ≤ agent ∧ 7 ≤ workflow ∧
        (workflow + 2 ≤ agent ∧ twoX = true ∨
          agent = workflow ∧ fewer = true ∧ equalBounds = true) := by
  cases safety
  · simp [conclude]
  cases budget
  · simp [conclude]
  simp only [conclude, Bool.not_true, Bool.false_eq_true, if_false, true_and]
  by_cases hworse : agent + 2 ≤ workflow
  · rw [if_pos hworse]
    refine iff_of_false nofun ?_
    rintro ⟨-, -, ⟨hbetter, -⟩ | ⟨hequal, -⟩⟩ <;> omega
  rw [if_neg hworse]
  split_ifs with hbetter hequal hslower
  · exact iff_of_true rfl ⟨hbetter.1, hbetter.2.1, .inl hbetter.2.2⟩
  · exact iff_of_true rfl ⟨hequal.1, hequal.2.1, .inr hequal.2.2⟩
  all_goals
    refine iff_of_false nofun ?_
    rintro ⟨hagent, hworkflow, hadopt | hadopt⟩
    · exact hbetter ⟨hagent, hworkflow, hadopt⟩
    · exact hequal ⟨hagent, hworkflow, hadopt⟩

/-- The stable investigations of an architecture. -/
def stableInvestigations (records : List EvalRunRecord) (repetitions : Nat)
    (architecture : Architecture) : Nat :=
  stabilityCount records repetitions .investigation architecture .stablePass

theorem adoptAgent_iff :
    (reportOf records manifests .locked repetitions evaluationRevision
        freeze).architectureConclusion = .adoptAgent ↔
      records.all (·.safetyGatePass) = true ∧
      (performanceBudgetPass records freeze).getD false = true ∧
      7 ≤ stableInvestigations records repetitions .agent ∧
      7 ≤ stableInvestigations records repetitions .workflow ∧
      (stableInvestigations records repetitions .workflow + 2 ≤
          stableInvestigations records repetitions .agent ∧ withinTwoX records freeze = true ∨
        stableInvestigations records repetitions .agent =
          stableInvestigations records repetitions .workflow ∧
        fewerReadsAdvantage records = true ∧ withinEqualQualityBounds records = true) :=
  conclude_adoptAgent_iff

/-- The agent has more stable scenarios, is not adopted for them, and would be at an equal
    number. -/
structure FallsThrough (records : List EvalRunRecord) (repetitions : Nat)
    (freeze : Option EvaluationFreeze) : Prop where
  safety : records.all (·.safetyGatePass) = true
  budget : (performanceBudgetPass records freeze).getD false = true
  workflow : 7 ≤ stableInvestigations records repetitions .workflow
  ahead : stableInvestigations records repetitions .workflow <
    stableInvestigations records repetitions .agent
  reads : fewerReadsAdvantage records = true
  bounds : withinEqualQualityBounds records = true
  notTwoX : ¬ (stableInvestigations records repetitions .workflow + 2 ≤
    stableInvestigations records repetitions .agent ∧ withinTwoX records freeze = true)

/-- Failures that get the agent adopted start from the gap. -/
theorem conclusion_fails (hfail : FailsAgent records fail)
    (hgap : ¬ FallsThrough records repetitions freeze)
    (h : (reportOf (records.map fail) manifests .locked repetitions evaluationRevision
      freeze).architectureConclusion = .adoptAgent) :
    (reportOf records manifests .locked repetitions evaluationRevision
      freeze).architectureConclusion = .adoptAgent := by
  rw [adoptAgent_iff, performanceBudgetPass_fails hfail, withinTwoX_fails hfail,
    withinEqualQualityBounds_fails hfail, fewerReadsAdvantage_fails hfail] at h
  rw [adoptAgent_iff]
  obtain ⟨hsafety, hbudget, hagent, hworkflow, hcase⟩ := h
  have hsafety := safety_fails hfail hsafety
  have hfewer : stableInvestigations (records.map fail) repetitions .agent ≤
      stableInvestigations records repetitions .agent := stable_fails hfail _ _
  have hsame : stableInvestigations (records.map fail) repetitions .workflow =
      stableInvestigations records repetitions .workflow :=
    stabilityCount_fails_workflow hfail _ _
  rw [hsame] at hworkflow hcase
  refine ⟨hsafety, hbudget, hagent.trans hfewer, hworkflow, ?_⟩
  rcases hcase with ⟨hbetter, htwoX⟩ | ⟨hequal, hreads, hbounds⟩
  · exact .inl ⟨hbetter.trans hfewer, htwoX⟩
  · -- an equal number after the failures: equal before, two better, or in the gap
    by_contra hnot
    rw [not_or] at hnot
    refine hgap ⟨hsafety, hbudget, hworkflow, ?_, hreads, hbounds, hnot.1⟩
    have hne : stableInvestigations records repetitions .agent ≠
        stableInvestigations records repetitions .workflow :=
      fun heq => hnot.2 ⟨heq, hreads, hbounds⟩
    omega

/-! ### Falling through the gap -/

/-- A quality assertion fails. -/
def AssertionResult.failed (a : AssertionResult) : AssertionResult :=
  if a.hardSafety then a else { a with passed := false }

@[simp]
theorem AssertionResult.failed_id (a : AssertionResult) : a.failed.assertionId = a.assertionId := by
  rw [failed]
  split_ifs <;> rfl

@[simp]
theorem AssertionResult.failed_hardSafety (a : AssertionResult) :
    a.failed.hardSafety = a.hardSafety := by
  rw [failed]
  split_ifs <;> rfl

theorem allPass_failed_safety (assertions : List AssertionResult) :
    allPass (assertions.map (·.failed)) true = allPass assertions true := by
  rw [Bool.eq_iff_iff]
  simp only [allPass, List.all_eq_true, List.mem_filter, decide_eq_true_eq, and_imp,
    List.forall_mem_map, AssertionResult.failed_hardSafety]
  refine forall₂_congr fun a _ => forall_congr' fun hsafety => ?_
  simp [AssertionResult.failed, hsafety]

theorem allPass_failed_quality {assertions : List AssertionResult}
    (h : ∃ a ∈ assertions, a.hardSafety = false) :
    allPass (assertions.map (·.failed)) false = false := by
  obtain ⟨a, ha, hquality⟩ := h
  rw [← Bool.not_eq_true]
  intro hall
  have hpassed := List.all_eq_true.mp hall a.failed
    (List.mem_filter.mpr ⟨List.mem_map_of_mem ha, by simp [hquality]⟩)
  simp [AssertionResult.failed, hquality] at hpassed

/-- The run with every quality assertion failed. -/
def EvalRunRecord.failed (r : EvalRunRecord) : EvalRunRecord where
  __ := r
  qualityPass := false
  assertions := r.assertions.map (·.failed)
  assertionsUnique := by
    have hids : (r.assertions.map (·.failed)).map (·.assertionId) =
        r.assertions.map (·.assertionId) := by
      rw [List.map_map]
      exact List.map_congr_left fun a _ => a.failed_id
    rw [hids]
    exact r.assertionsUnique
  hasQuality := by
    obtain ⟨a, ha, hquality⟩ := r.hasQuality
    exact ⟨a.failed, List.mem_map_of_mem ha, by rw [a.failed_hardSafety, hquality]⟩
  hasSafety := by
    obtain ⟨a, ha, hsafety⟩ := r.hasSafety
    exact ⟨a.failed, List.mem_map_of_mem ha, by rw [a.failed_hardSafety, hsafety]⟩
  safetyIff := by rw [allPass_failed_safety, r.safetyIff]
  qualityIff := (allPass_failed_quality r.hasQuality).symm

theorem EvalRunRecord.failed_spec (r : EvalRunRecord) : Failed r r.failed :=
  ⟨rfl, rfl, rfl, rfl, rfl, rfl, rfl, rfl, rfl, nofun, id, rfl⟩

/-- Every run of some groups fails. -/
def failGroups (keys : List GroupKey) (r : EvalRunRecord) : EvalRunRecord :=
  if r.key ∈ keys then r.failed else r

@[simp]
theorem failGroups_safetyGatePass (keys : List GroupKey) (r : EvalRunRecord) :
    (failGroups keys r).safetyGatePass = r.safetyGatePass := by
  rw [failGroups]
  split_ifs <;> rfl

/-- The groups of stable investigations of the agent. -/
def stableKeys (records : List EvalRunRecord) (repetitions : Nat) : List GroupKey :=
  (groupKeys records).filter fun key =>
    key.1 = Layer.investigation.value && key.2.1 = Architecture.agent.value &&
      classify (group records key) repetitions = .stablePass

theorem stableKeys_length :
    (stableKeys records repetitions).length = stableInvestigations records repetitions .agent :=
  List.countP_eq_length_filter.symm

theorem failGroups_fails {keys : List GroupKey}
    (h : ∀ key ∈ keys, key.1 = Layer.investigation.value ∧ key.2.1 = Architecture.agent.value) :
    FailsAgent records (failGroups keys) := by
  intro r _
  rw [failGroups]
  split_ifs with hkey
  · obtain ⟨hlayer, harchitecture⟩ := h r.key hkey
    exact .inr ⟨Layer.value_inj.mp hlayer, Architecture.value_inj.mp harchitecture, r.failed_spec⟩
  · exact .inl rfl

theorem failGroups_stableKeys_fails (records : List EvalRunRecord) (repetitions n : Nat) :
    FailsAgent records (failGroups ((stableKeys records repetitions).take n)) := by
  refine failGroups_fails fun key hkey => ?_
  have hstable := (List.mem_filter.mp (List.mem_of_mem_take hkey)).2
  simp only [Bool.and_eq_true, decide_eq_true_eq] at hstable
  exact hstable.1

/-- A group whose runs fail is not stable, and the others are what they were. -/
theorem classify_failGroups {keys : List GroupKey} {key : GroupKey}
    (hfail : FailsAgent records (failGroups keys)) (hkey : key ∈ groupKeys records) :
    classify (group (records.map (failGroups keys)) key) repetitions = .stablePass ↔
      classify (group records key) repetitions = .stablePass ∧ key ∉ keys := by
  rw [group_fails hfail]
  by_cases hmem : key ∈ keys
  · refine iff_of_false ?_ (fun h => h.2 hmem)
    rw [classify_stablePass_iff]
    rintro ⟨-, hall⟩
    obtain ⟨r, hr⟩ := List.exists_mem_of_ne_nil _ (Grouping.ofKey_ne_nil hkey)
    have hpass := hall (failGroups keys r) (List.mem_map_of_mem hr)
    rw [failGroups, if_pos ((Grouping.mem_ofKey.mp hr).2 ▸ hmem), r.failed_spec.notPassed] at hpass
    cases hpass
  · have hsame : (group records key).map (failGroups keys) = group records key := by
      refine (List.map_congr_left (g := id) fun r hr => ?_).trans (List.map_id _)
      rw [failGroups, if_neg ((Grouping.mem_ofKey.mp hr).2 ▸ hmem)]
      rfl
    rw [hsame, and_iff_left hmem]

/-- The agent can lose any number of its stable scenarios. -/
theorem stable_failGroups (records : List EvalRunRecord) (repetitions n : Nat) :
    stableInvestigations (records.map (failGroups ((stableKeys records repetitions).take n)))
      repetitions .agent = stableInvestigations records repetitions .agent - n := by
  have hfail := failGroups_stableKeys_fails records repetitions n
  have hkeys : stableKeys (records.map (failGroups ((stableKeys records repetitions).take n)))
      repetitions = (stableKeys records repetitions).filter
        (· ∉ (stableKeys records repetitions).take n) := by
    generalize (stableKeys records repetitions).take n = keys at hfail ⊢
    rw [stableKeys, stableKeys, groupKeys_fails hfail, List.filter_filter]
    refine List.filter_congr fun key hkey => ?_
    rw [Bool.eq_iff_iff]
    simp only [Bool.and_eq_true, decide_eq_true_eq, classify_failGroups hfail hkey]
    tauto
  have hnodup : (stableKeys records repetitions).Nodup := (Grouping.keys_nodup _ _).filter _
  rw [← stableKeys_length, hkeys, Grouping.filter_notMem_take hnodup, List.length_drop,
    stableKeys_length]

/-- From the gap some failures get the agent adopted. -/
theorem FallsThrough.adopted (h : FallsThrough records repetitions freeze) :
    ∃ fail, FailsAgent records fail ∧
      (reportOf records manifests .locked repetitions evaluationRevision
        freeze).architectureConclusion ≠ .adoptAgent ∧
      (reportOf (records.map fail) manifests .locked repetitions evaluationRevision
        freeze).architectureConclusion = .adoptAgent := by
  let n := stableInvestigations records repetitions .agent -
    stableInvestigations records repetitions .workflow
  have hfail := failGroups_stableKeys_fails records repetitions n
  have hfewer := stable_failGroups records repetitions n
  refine ⟨failGroups ((stableKeys records repetitions).take n), hfail, ?_, ?_⟩
  · rw [Ne, adoptAgent_iff]
    rintro ⟨-, -, -, -, hbetter | ⟨hequal, -⟩⟩
    · exact h.notTwoX hbetter
    · exact absurd hequal (Nat.ne_of_gt h.ahead)
  · have hsafety : (records.map (failGroups ((stableKeys records repetitions).take n))).all
        (·.safetyGatePass) = true := by
      simpa using h.safety
    generalize failGroups ((stableKeys records repetitions).take n) = fail at hfail hfewer hsafety
    have hsame : stableInvestigations (records.map fail) repetitions .workflow =
        stableInvestigations records repetitions .workflow :=
      stabilityCount_fails_workflow hfail _ _
    have hahead := h.ahead
    have hworkflow := h.workflow
    have hequal : stableInvestigations (records.map fail) repetitions .agent =
        stableInvestigations records repetitions .workflow := by
      omega
    rw [adoptAgent_iff, performanceBudgetPass_fails hfail, withinTwoX_fails hfail,
      withinEqualQualityBounds_fails hfail, fewerReadsAdvantage_fails hfail, hsame, hequal]
    exact ⟨hsafety, h.budget, hworkflow, hworkflow, .inr ⟨rfl, h.reads, h.bounds⟩⟩

/-! ### The verdict -/

/-- Two entries of a group, the order of its failed runs apart. -/
structure SameGroup (group group' : ScenarioStability) : Prop where
  key : group.key = group'.key
  classification : group.classification = group'.classification
  passedRuns : group.passedRuns = group'.passedRuns
  totalRuns : group.totalRuns = group'.totalRuns
  failedRuns : group.failedRuns.Perm group'.failedRuns

/-- Two reports with the same gates, the same groups and the same conclusion. -/
structure SameVerdict (report report' : EvalReport) : Prop where
  safetyGatePass : report.safetyGatePass = report'.safetyGatePass
  acceptanceGatePass : report.acceptanceGatePass = report'.acceptanceGatePass
  triageQuality : report.triageQuality = report'.triageQuality
  counts : report.stability.counts = report'.stability.counts
  scenarios : List.Forall₂ SameGroup report.stability.scenarios report'.stability.scenarios
  comparison : report.comparison = report'.comparison
  architectureConclusion : report.architectureConclusion = report'.architectureConclusion

theorem sameGroup_perm (hperm : records.Perm records') (key : GroupKey) :
    SameGroup (scenarioStability records repetitions key)
      (scenarioStability records' repetitions key) := by
  have hgroup : (group records key).Perm (group records' key) := Grouping.ofKey_perm hperm key
  exact ⟨rfl, classify_perm hgroup, hgroup.countP_eq _, hgroup.length_eq, (hgroup.filter _).map _⟩

theorem sameVerdict_perm (hperm : records.Perm records') :
    SameVerdict (reportOf records manifests partition repetitions evaluationRevision freeze)
      (reportOf records' manifests partition repetitions evaluationRevision freeze) where
  safetyGatePass := safetyGatePass_perm hperm
  acceptanceGatePass := acceptanceGatePass_perm hperm
  triageQuality := triageQuality_perm hperm
  counts := stabilityCount_perm hperm
  scenarios := by
    have hkeys : groupKeys records = groupKeys records' := Grouping.keys_perm hperm
    simp only [reportOf, stabilitySection, ← hkeys]
    rw [List.forall₂_map_left_iff, List.forall₂_map_right_iff, List.forall₂_same]
    exact fun key _ => sameGroup_perm hperm key
  comparison := comparison_perm hperm
  architectureConclusion := conclusion_perm hperm

/-- What the report of a locked matrix owes to the agent's results and to the order of the
    records. -/
structure Verdict (records : List EvalRunRecord) (manifests : List ScenarioManifest)
    (repetitions : Nat) (evaluationRevision : String) (freeze : Option EvaluationFreeze)
    (report : EvalReport) : Prop where
  built : buildReport records manifests .locked repetitions evaluationRevision freeze = .ok report
  acceptance : ∀ fail, FailsAgent records fail →
    ∃ report', buildReport (records.map fail) manifests .locked repetitions evaluationRevision
      freeze = .ok report' ∧
    (report'.acceptanceGatePass = true → report.acceptanceGatePass = true)
  conclusion :
    (∀ fail, FailsAgent records fail →
      ∃ report', buildReport (records.map fail) manifests .locked repetitions evaluationRevision
        freeze = .ok report' ∧
      (report'.architectureConclusion = .adoptAgent →
        report.architectureConclusion = .adoptAgent)) ↔ ¬ FallsThrough records repetitions freeze
  order : ∀ records', records.Perm records' →
    ∃ report', buildReport records' manifests .locked repetitions evaluationRevision freeze =
      .ok report' ∧ SameVerdict report report'
  stability :
    (∀ records', records.Perm records' →
      ∃ report', buildReport records' manifests .locked repetitions evaluationRevision freeze =
        .ok report' ∧ report.stability = report'.stability) ↔ OneFailure records
  versions :
    (∀ records', records.Perm records' →
      ∃ report', buildReport records' manifests .locked repetitions evaluationRevision freeze =
        .ok report' ∧ report.versions = report'.versions) ↔ SameVersions records

theorem exists_report_iff {P : EvalReport → Prop}
    (h : Complete records manifests partition repetitions evaluationRevision) :
    (∃ report, buildReport records manifests partition repetitions evaluationRevision freeze =
      .ok report ∧ P report) ↔
    P (reportOf records manifests partition repetitions evaluationRevision freeze) := by
  rw [buildReport_complete h]
  constructor
  · rintro ⟨report, hreport, hP⟩
    cases hreport
    exact hP
  · exact fun hP => ⟨_, rfl, hP⟩

/-! ### Sample matrices -/

def sampleRun (scenarioId : String) (architecture : Architecture) (index : Fin 3) (reads : ℤ)
    (pass : Bool) : EvalRunRecord where
  evalRunId := scenarioId ++ architecture.value ++ toString (index.val + 1)
  evaluationRevision := "rev"
  scenarioId := scenarioId
  datasetPartition := .locked
  layer := .investigation
  architecture := architecture
  repetition := index.val + 1
  durationMs := 1000
  qualityPass := pass
  safetyGatePass := true
  assertions := [⟨"terminal", pass, false⟩, ⟨"side_effects", true, true⟩]
  actualExecutions := reads
  tokenUsage _ := none
  costUsd := some (1 / 100)
  errorCode := none
  versions _ := none
  repetitionBounds := by omega
  durationNonneg := by norm_num
  costNonneg := by simp
  assertionsUnique := by simp
  hasQuality := by simp
  hasSafety := by simp
  safetyIff := rfl
  qualityIff := by cases pass <;> rfl

def sampleManifest (scenarioId : String) : ScenarioManifest where
  scenarioId := scenarioId
  datasetPartition := .locked
  applicableLayers := [.investigation]
  triageExpectation := none

def sampleFreeze : EvaluationFreeze where
  maxRunLatencyMs := 60000
  maxInputTokens := none
  maxOutputTokens := none
  maxTotalTokens := none
  maxRunCostUsd := none
  maxAgentToWorkflowLatencyRatio := 2
  maxAgentToWorkflowCostRatio := 2
  latencyPositive := by norm_num
  latencyRatioBound := by norm_num
  costRatioBound := by norm_num

/-- A matrix in which the workflow fails the scenario S8, if it is there. -/
def sampleMatrix (scenarioIds : List String) : List EvalRunRecord :=
  scenarioIds.flatMap fun scenarioId => (List.finRange 3).flatMap fun index =>
    [sampleRun scenarioId .agent index 3 true,
      sampleRun scenarioId .workflow index 4 (scenarioId ≠ "S8")]

/-! ### The verdict of every matrix -/

end AfterSales.Acceptance
