import AfterSales.Evals.AcceptanceReport

/-! What a report keeps when its records come in another order.

    A matrix is complete in any order of its records. The groups, the counts and the gates are the
    same; the failed runs of a group are listed in the order of the records, and the versions are
    those of the first record. -/

namespace AfterSales.Acceptance

variable {records records' : List EvalRunRecord} {manifests : List ScenarioManifest}
  {partition : Partition} {repetitions : Nat} {evaluationRevision : String}
  {freeze : Option EvaluationFreeze}

/-! ### Complete matrices -/

/-- What `_validate_run_matrix` accepts. -/
structure Complete (records : List EvalRunRecord) (manifests : List ScenarioManifest)
    (partition : Partition) (repetitions : Nat) (evaluationRevision : String) : Prop where
  identities : (records.map (·.identity)).Nodup
  planned : ∀ key, key ∈ records.map (·.identity) ↔
    key ∈ expectedKeys manifests partition repetitions
  revision : ∀ r ∈ records, r.evaluationRevision = evaluationRevision
  partitioned : ∀ r ∈ records, r.datasetPartition = partition

theorem validateRunMatrix_ok_iff :
    validateRunMatrix records manifests partition repetitions evaluationRevision = .ok () ↔
      Complete records manifests partition repetitions evaluationRevision := by
  constructor
  · intro hok
    simp only [validateRunMatrix] at hok
    split at hok
    · cases hok
    rename_i hnodup
    split at hok
    · cases hok
    rename_i hplanned
    split at hok
    · cases hok
    rename_i hrevision
    split at hok
    · cases hok
    rename_i hpartition
    simp only [not_or, not_not, List.filter_eq_nil_iff, List.mem_dedup, decide_eq_true_eq]
      at hplanned
    simp only [List.any_eq_true, decide_eq_true_eq, not_exists, not_and, not_not]
      at hrevision hpartition
    exact ⟨not_not.mp hnodup, fun key => ⟨hplanned.2 key, hplanned.1 key⟩, hrevision, hpartition⟩
  · intro h
    have hmissing : (expectedKeys manifests partition repetitions).dedup.filter
        (· ∉ records.map (·.identity)) = [] := by
      simpa [List.filter_eq_nil_iff] using fun key => (h.planned key).mpr
    have hunexpected : (records.map (·.identity)).filter
        (· ∉ (expectedKeys manifests partition repetitions).dedup) = [] := by
      simpa [List.filter_eq_nil_iff] using fun key => (h.planned key).mp
    have hrevision : records.any (·.evaluationRevision ≠ evaluationRevision) = false := by
      simpa using h.revision
    have hpartition : records.any (·.datasetPartition ≠ partition) = false := by
      simpa using h.partitioned
    simp only [validateRunMatrix, h.identities, hmissing, hunexpected, hrevision, hpartition,
      not_true_eq_false, ne_eq, or_self, Bool.false_eq_true, if_false]

/-- A complete matrix has its report. -/
theorem buildReport_complete
    (h : Complete records manifests partition repetitions evaluationRevision) :
    buildReport records manifests partition repetitions evaluationRevision freeze =
      .ok (reportOf records manifests partition repetitions evaluationRevision freeze) := by
  rw [buildReport, validateRunMatrix_ok_iff.mpr h]
  rfl

theorem Complete.perm (h : Complete records manifests partition repetitions evaluationRevision)
    (hperm : records.Perm records') :
    Complete records' manifests partition repetitions evaluationRevision where
  identities := (hperm.map _).nodup_iff.mp h.identities
  planned key := by rw [← h.planned key, (hperm.map _).mem_iff]
  revision r hr := h.revision r (hperm.mem_iff.mpr hr)
  partitioned r hr := h.partitioned r (hperm.mem_iff.mpr hr)

/-! ### Groups -/

@[simp]
theorem Layer.value_inj {a b : Layer} : a.value = b.value ↔ a = b := by
  cases a <;> cases b <;> decide

@[simp]
theorem Architecture.value_inj {a b : Architecture} : a.value = b.value ↔ a = b := by
  cases a <;> cases b <;> decide

/-- A key is of one layer, one architecture and one scenario. -/
theorem groupKey_inj {layer layer' : Layer} {architecture architecture' : Architecture}
    {scenarioId scenarioId' : String} :
    groupKey layer architecture scenarioId = groupKey layer' architecture' scenarioId' ↔
      layer = layer' ∧ architecture = architecture' ∧ scenarioId = scenarioId' := by
  simp [groupKey]

/-- The runs of a group are told apart by their repetitions. -/
theorem Complete.repetitions_nodup
    (h : Complete records manifests partition repetitions evaluationRevision) (key : GroupKey) :
    ((group records key).map (·.repetition)).Nodup := by
  have hrecords : records.Nodup := h.identities.of_map
  refine List.Nodup.map_on ?_ (hrecords.filter _)
  intro r hr r' hr' hsame
  obtain ⟨hmem, hkey⟩ := Grouping.mem_ofKey.mp hr
  obtain ⟨hmem', hkey'⟩ := Grouping.mem_ofKey.mp hr'
  obtain ⟨hlayer, harchitecture, hscenario⟩ := groupKey_inj.mp (hkey.trans hkey'.symm)
  refine List.inj_on_of_nodup_map h.identities hmem hmem' ?_
  simp only [EvalRunRecord.identity, hlayer, harchitecture, hscenario, hsame]

theorem classify_perm (hperm : records.Perm records') :
    classify records repetitions = classify records' repetitions := by
  rw [classify, classify, hperm.length_eq, hperm.countP_eq]

theorem assertionStable_perm (hperm : records.Perm records') (assertionId : String) :
    assertionStable records assertionId repetitions =
      assertionStable records' assertionId repetitions := by
  rw [assertionStable, assertionStable, hperm.length_eq, hperm.all_eq]

theorem stabilityCount_perm (hperm : records.Perm records') :
    stabilityCount records repetitions = stabilityCount records' repetitions := by
  funext layer architecture state
  have hkeys : groupKeys records = groupKeys records' := Grouping.keys_perm hperm
  have hstate : ∀ key, classify (group records key) repetitions =
      classify (group records' key) repetitions :=
    fun key => classify_perm (Grouping.ofKey_perm hperm key)
  simp only [stabilityCount, hkeys, hstate]

theorem triageQuality_perm (hperm : records.Perm records') :
    triageQuality manifests records repetitions partition =
      triageQuality manifests records' repetitions partition := by
  have hstable : ∀ key assertionId, assertionStable (group records key) assertionId repetitions =
      assertionStable (group records' key) assertionId repetitions :=
    fun key => assertionStable_perm (Grouping.ofKey_perm hperm key)
  simp only [triageQuality, hstable]

/-! ### Numbers -/

theorem median_perm {values values' : List ℚ} (hperm : values.Perm values') :
    median values = median values' := by
  have hsorted : values.insertionSort (· ≤ ·) = values'.insertionSort (· ≤ ·) :=
    ((List.perm_insertionSort _ _).trans
      (hperm.trans (List.perm_insertionSort _ _).symm)).eq_of_sortedLE
        List.sortedLE_insertionSort List.sortedLE_insertionSort
  rw [median, median, hsorted]

theorem actualReads_perm (hperm : records.Perm records') :
    actualReads records = actualReads records' :=
  funext fun _ => ((hperm.filter _).map _).sum_eq

theorem readRatio_perm (hperm : records.Perm records') :
    readRatio records = readRatio records' := by
  rw [readRatio, readRatio, actualReads_perm hperm]

theorem latencyRatio_perm (hperm : records.Perm records') :
    latencyRatio records = latencyRatio records' := by
  have hmedian : medianLatency records = medianLatency records' :=
    funext fun _ => median_perm ((hperm.filter _).map _)
  rw [latencyRatio, latencyRatio, hmedian]

theorem costRatio_perm (hperm : records.Perm records') :
    costRatio records = costRatio records' := by
  have hmedian : medianCost records = medianCost records' :=
    funext fun _ => median_perm ((hperm.filter _).filterMap _)
  rw [costRatio, costRatio, hmedian]

theorem performanceBudgetPass_perm (hperm : records.Perm records') :
    performanceBudgetPass records freeze = performanceBudgetPass records' freeze := by
  simp only [performanceBudgetPass, hperm.all_eq]

theorem withinTwoX_perm (hperm : records.Perm records') :
    withinTwoX records freeze = withinTwoX records' freeze := by
  rw [withinTwoX, withinTwoX, latencyRatio_perm hperm, costRatio_perm hperm]

theorem withinEqualQualityBounds_perm (hperm : records.Perm records') :
    withinEqualQualityBounds records = withinEqualQualityBounds records' := by
  rw [withinEqualQualityBounds, withinEqualQualityBounds, latencyRatio_perm hperm,
    costRatio_perm hperm]

theorem fewerReadsAdvantage_perm (hperm : records.Perm records') :
    fewerReadsAdvantage records = fewerReadsAdvantage records' := by
  rw [fewerReadsAdvantage, fewerReadsAdvantage, readRatio_perm hperm]

/-! ### Gates and conclusion -/

/-- The quality gate reads the counts only. -/
theorem lockedQualityPass_counts {triage : TriageQuality} {stability stability' : StabilitySection}
    (h : stability.counts = stability'.counts) :
    lockedQualityPass triage stability partition =
      lockedQualityPass triage stability' partition := by
  simp only [lockedQualityPass, architectureLayerQuality, h]

theorem safetyGatePass_perm (hperm : records.Perm records') :
    (reportOf records manifests partition repetitions evaluationRevision freeze).safetyGatePass =
      (reportOf records' manifests partition repetitions evaluationRevision
        freeze).safetyGatePass := hperm.all_eq

theorem acceptanceGatePass_perm (hperm : records.Perm records') :
    (reportOf records manifests partition repetitions evaluationRevision
        freeze).acceptanceGatePass =
      (reportOf records' manifests partition repetitions evaluationRevision
        freeze).acceptanceGatePass := by
  have hcounts : (stabilitySection records repetitions).counts =
      (stabilitySection records' repetitions).counts := stabilityCount_perm hperm
  simp only [reportOf, hperm.all_eq, triageQuality_perm hperm, performanceBudgetPass_perm hperm,
    lockedQualityPass_counts hcounts]

theorem architectureConclusion_perm {stability stability' : StabilitySection} {safety budget : Bool}
    (hperm : records.Perm records') (hcounts : stability.counts = stability'.counts) :
    architectureConclusion records stability safety budget freeze =
      architectureConclusion records' stability' safety budget freeze := by
  simp only [architectureConclusion, hcounts, actualReads_perm hperm, readRatio_perm hperm,
    latencyRatio_perm hperm, costRatio_perm hperm, withinTwoX_perm hperm,
    withinEqualQualityBounds_perm hperm, fewerReadsAdvantage_perm hperm]

/-- The comparison of a report, its conclusion with it. -/
theorem comparison_perm (hperm : records.Perm records') :
    (reportOf records manifests partition repetitions evaluationRevision freeze).comparison =
      (reportOf records' manifests partition repetitions evaluationRevision freeze).comparison := by
  have hcounts : (stabilitySection records repetitions).counts =
      (stabilitySection records' repetitions).counts := stabilityCount_perm hperm
  simp only [reportOf, architectureConclusion_perm hperm hcounts, hperm.all_eq,
    performanceBudgetPass_perm hperm]

theorem conclusion_perm (hperm : records.Perm records') :
    (reportOf records manifests partition repetitions evaluationRevision
        freeze).architectureConclusion =
      (reportOf records' manifests partition repetitions evaluationRevision
        freeze).architectureConclusion := by
  have hsame : (reportOf records manifests partition repetitions evaluationRevision
      freeze).comparison = (reportOf records' manifests partition repetitions evaluationRevision
      freeze).comparison := comparison_perm hperm
  exact congrArg Comparison.conclusion hsame

/-! ### Failed runs -/

/-- The failed runs of a group, in the order of the records. -/
def failures (records : List EvalRunRecord) (key : GroupKey) : List EvalRunRecord :=
  (group records key).filter fun record => !completePass record

theorem failures_reverse (records : List EvalRunRecord) (key : GroupKey) :
    failures records.reverse key = (failures records key).reverse := by
  rw [failures, group, Grouping.ofKey_reverse, List.filter_reverse]
  rfl

/-- No group has two failed runs. -/
def OneFailure (records : List EvalRunRecord) : Prop :=
  ∀ key, (failures records key).length ≤ 1

theorem eq_of_perm_of_length_le_one {α : Type} {l l' : List α} (hperm : l.Perm l')
    (h : l.length ≤ 1) : l = l' := by
  match l, h with
  | [], _ => exact hperm.nil_eq
  | [a], _ => exact hperm.singleton_eq

theorem length_le_one_of_reverse {α : Type} {l : List α} (h : l.Nodup) (hrev : l = l.reverse) :
    l.length ≤ 1 := by
  cases l with
  | nil => simp
  | cons a rest =>
    rcases List.eq_nil_or_concat rest with rfl | ⟨init, b, rfl⟩
    · simp
    · -- the first element would be the last one
      simp only [List.concat_eq_append, List.reverse_cons, List.reverse_append, List.reverse_nil,
        List.nil_append, List.cons_append, List.cons.injEq] at hrev
      simp only [List.concat_eq_append, hrev.1, List.nodup_cons, List.mem_append,
        List.mem_singleton, or_true, not_true_eq_false, false_and] at h

/-- With one failed run in each group the stability section is the same in every order. -/
theorem stabilitySection_perm (hperm : records.Perm records') (h : OneFailure records) :
    stabilitySection records repetitions = stabilitySection records' repetitions := by
  have hkeys : groupKeys records = groupKeys records' := Grouping.keys_perm hperm
  have hscenario : scenarioStability records repetitions =
      scenarioStability records' repetitions := by
    funext key
    have hgroup : (group records key).Perm (group records' key) := Grouping.ofKey_perm hperm key
    have hfailed : failures records key = failures records' key :=
      eq_of_perm_of_length_le_one (hgroup.filter _) (h key)
    rw [failures, failures] at hfailed
    simp only [scenarioStability, classify_perm hgroup, hgroup.countP_eq, hgroup.length_eq, hfailed]
  simp only [stabilitySection, stabilityCount_perm hperm, hkeys, hscenario]

/-- Two failed runs of a group are listed the other way round in the reverse order. -/
theorem oneFailure_of_reverse
    (hcomplete : Complete records manifests partition repetitions evaluationRevision)
    (h : stabilitySection records repetitions = stabilitySection records.reverse repetitions) :
    OneFailure records := by
  intro key
  have hkeys : groupKeys records.reverse = groupKeys records :=
    Grouping.keys_perm (List.reverse_perm records)
  by_cases hkey : key ∈ groupKeys records
  · have hscenarios := congrArg StabilitySection.scenarios h
    simp only [stabilitySection, hkeys] at hscenarios
    have hsame := congrArg (fun s => s.failedRuns.map (·.repetition))
      (List.map_inj_left.mp hscenarios key hkey)
    have hlisted : ∀ records, ((scenarioStability records repetitions key).failedRuns.map
        (·.repetition)) = (failures records key).map (·.repetition) := by
      intro records
      simp only [scenarioStability, List.map_map]
      rfl
    simp only [hlisted, failures_reverse, List.map_reverse] at hsame
    have hnodup : ((failures records key).map (·.repetition)).Nodup :=
      (hcomplete.repetitions_nodup key).sublist (List.filter_sublist.map _)
    simpa using length_le_one_of_reverse hnodup hsame
  · have hnone : group records key = [] := by
      rw [List.eq_nil_iff_forall_not_mem]
      intro r hr
      obtain ⟨hmem, hr⟩ := Grouping.mem_ofKey.mp hr
      exact hkey (Grouping.mem_keys.mpr ⟨r, hmem, hr⟩)
    simp [failures, hnone]

/-! ### Versions -/

/-- All records name the same versions. -/
def SameVersions (records : List EvalRunRecord) : Prop :=
  ∀ r ∈ records, ∀ r' ∈ records, r.versions = r'.versions

theorem versions_perm (hperm : records.Perm records') (h : SameVersions records) :
    (reportOf records manifests partition repetitions evaluationRevision freeze).versions =
      (reportOf records' manifests partition repetitions evaluationRevision freeze).versions := by
  cases records with
  | nil => rw [hperm.nil_eq]
  | cons r rest =>
    cases records' with
    | nil => cases hperm.eq_nil
    | cons r' rest' =>
      exact h r List.mem_cons_self r' (hperm.mem_iff.mpr List.mem_cons_self)

/-- Any record can come first. -/
theorem sameVersions_of_perm
    (h : ∀ records', records.Perm records' →
      (reportOf records manifests partition repetitions evaluationRevision freeze).versions =
        (reportOf records' manifests partition repetitions evaluationRevision freeze).versions) :
    SameVersions records := by
  have hfirst : ∀ r ∈ records, (reportOf records manifests partition repetitions
      evaluationRevision freeze).versions = r.versions := by
    intro r hr
    obtain ⟨before, after, rfl⟩ := List.append_of_mem hr
    exact h _ List.perm_middle
  intro r hr r' hr'
  rw [← hfirst r hr, ← hfirst r' hr']

end AfterSales.Acceptance
