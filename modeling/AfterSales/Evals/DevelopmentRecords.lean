import AfterSales.Evals.DevelopmentRun

/-! The records of planned runs, and their files.

    The id of a run is made of its pair, its architecture and its repetition, and names them. A
    record of a planned run has the key and the id of that run, so its file is found under a name
    of its own. -/

namespace AfterSales.V3

/-! ### The plan -/

/-- The ends of the ids that runs are given. -/
def runSuffixes : List (List Char) :=
  ["-agent-r1", "-agent-r2", "-agent-r3", "-workflow-r1", "-workflow-r2", "-workflow-r3"].map
    String.toList

theorem evalRunIdOf_toList (case : V3CaseSpec) (architecture : V3Architecture) {repetition : Nat}
    (h : 1 ≤ repetition ∧ repetition ≤ 3) :
    ∃ tail ∈ runSuffixes, (evalRunIdOf case architecture repetition).toList =
      case.pairId.toList ++ tail := by
  have hsplit : ∀ name digits : String,
      (case.pairId ++ "-" ++ name ++ "-r" ++ digits).toList =
        case.pairId.toList ++ ('-' :: (name.toList ++ '-' :: 'r' :: digits.toList)) := by
    intro name digits
    simp [String.toList_append]
  have hrepetition : repetition = 1 ∨ repetition = 2 ∨ repetition = 3 := by omega
  refine ⟨_, ?_, hsplit _ _⟩
  cases architecture with
  | agent => rcases hrepetition with rfl | rfl | rfl <;> decide
  | workflow => rcases hrepetition with rfl | rfl | rfl <;> decide

/-- An id names its pair, its architecture and its repetition. -/
theorem evalRunIdOf_inj {c c' : V3CaseSpec} {a a' : V3Architecture} {n n' : Nat}
    (hn : 1 ≤ n ∧ n ≤ 3) (hn' : 1 ≤ n' ∧ n' ≤ 3)
    (h : evalRunIdOf c a n = evalRunIdOf c' a' n') :
    c.pairId = c'.pairId ∧ a = a' ∧ n = n' := by
  -- No ending of an id ends another one.
  have hends : ∀ s ∈ runSuffixes, ∀ t ∈ runSuffixes, s <:+ t → s = t := by decide
  obtain ⟨s, hs, htext⟩ := evalRunIdOf_toList c a hn
  obtain ⟨t, ht, htext'⟩ := evalRunIdOf_toList c' a' hn'
  have hsame : c.pairId.toList ++ s = c'.pairId.toList ++ t := by rw [← htext, ← htext', h]
  have htail : s = t := by
    rcases List.suffix_or_suffix_of_suffix (List.suffix_append c.pairId.toList s)
      (hsame ▸ List.suffix_append c'.pairId.toList t) with hst | hts
    · exact hends s hs t ht hst
    · exact (hends t ht s hs hts).symm
  subst htail
  have hpair : c.pairId = c'.pairId := String.toList_inj.mp (List.append_cancel_right hsame)
  refine ⟨hpair, ?_⟩
  rw [evalRunIdOf, evalRunIdOf, hpair] at h
  have hrest := congrArg String.toList h
  simp only [String.toList_append, List.append_assoc, List.append_cancel_left_eq] at hrest
  have hrepetition : n = 1 ∨ n = 2 ∨ n = 3 := by omega
  have hrepetition' : n' = 1 ∨ n' = 2 ∨ n' = 3 := by omega
  revert hrest
  cases a <;> cases a' <;> rcases hrepetition with rfl | rfl | rfl <;>
    rcases hrepetition' with rfl | rfl | rfl <;> decide

/-- The id of a run is made of its key. -/
def RunKey.evalRunId (k : RunKey) : String :=
  k.pairId ++ "-" ++ k.architecture.value ++ "-r" ++ toString k.repetition

theorem runFile_inj {a b : String} (h : runFile a = runFile b) : a = b := by
  have htext := congrArg String.toList h
  rw [runFile, runFile, String.toList_append, String.toList_append] at htext
  exact String.toList_inj.mp (List.append_cancel_right htext)

namespace DevelopmentRunner

variable {d : DevelopmentRunner} {p q : PlannedRun}

theorem mem_pairs {x : PlannedPair} (h : x ∈ d.pairs) :
    x.case ∈ d.cases ∧ 1 ≤ x.repetition ∧ x.repetition ≤ 3 := by
  obtain ⟨manifest, hmanifest, h⟩ := List.mem_flatMap.mp h
  obtain ⟨scenarioId, -, h⟩ := List.mem_flatMap.mp h
  obtain ⟨case, hcase, h⟩ := List.mem_flatMap.mp h
  obtain ⟨repetition, hrepetition, rfl⟩ := List.mem_map.mp h
  have hbounds := manifest.repetitions
  rw [List.mem_range'_1] at hrepetition
  exact ⟨List.mem_of_find?_eq_some (Option.mem_toList.mp hcase), by simp only; omega⟩

theorem mem_plan : p ∈ d.plan ↔ p.toPlannedPair ∈ d.pairs := by
  constructor
  · intro h
    obtain ⟨x, hx, hp⟩ := List.mem_flatMap.mp h
    rcases List.mem_cons.mp hp with rfl | hp
    · exact hx
    · obtain rfl := List.mem_singleton.mp hp
      exact hx
  · intro h
    refine List.mem_flatMap.mpr ⟨_, h, ?_⟩
    obtain ⟨x, architecture⟩ := p
    cases architecture with
    | agent => exact List.mem_cons_self
    | workflow => exact List.mem_cons_of_mem _ (List.mem_singleton.mpr rfl)

theorem key_evalRunId (p : PlannedRun) : p.key.evalRunId = p.evalRunId := rfl

theorem evalRunId_of_key (h : p.key = q.key) : p.evalRunId = q.evalRunId := by
  rw [← key_evalRunId, h, key_evalRunId]

/-- A pair names its case. -/
theorem case_of_pairId {c c' : V3CaseSpec} (hc : c ∈ d.cases) (hc' : c' ∈ d.cases)
    (h : c.pairId = c'.pairId) : c = c' :=
  List.inj_on_of_nodup_map d.pairsDistinct hc hc' h

/-- Two planned runs with one id have one key. -/
theorem key_of_evalRunId (hp : p ∈ d.plan) (hq : q ∈ d.plan) (h : p.evalRunId = q.evalRunId) :
    p.key = q.key := by
  obtain ⟨hcase, hbounds⟩ := mem_pairs (mem_plan.mp hp)
  obtain ⟨hcase', hbounds'⟩ := mem_pairs (mem_plan.mp hq)
  obtain ⟨hpair, harchitecture, hrepetition⟩ := evalRunIdOf_inj hbounds hbounds' h
  have hsame := case_of_pairId hcase hcase' hpair
  rw [PlannedRun.key, PlannedRun.key, hsame, harchitecture, hrepetition]

/-- The first run of a key belongs to the first pair of its case and its repetition. -/
theorem find_runs (xs : List PlannedPair) (k : RunKey) :
    (xs.flatMap PlannedPair.runs).find? (·.key = k) =
      (xs.find? fun x => x.case.scenarioId = k.scenarioId ∧ x.case.pairId = k.pairId ∧
        x.repetition = k.repetition).map (⟨·, k.architecture⟩) := by
  induction xs with
  | nil => rfl
  | cons x xs ih =>
    obtain ⟨scenarioId, pairId, architecture, repetition⟩ := k
    rw [List.flatMap_cons, List.find?_append, ih, List.find?_cons]
    by_cases hx : x.case.scenarioId = scenarioId ∧ x.case.pairId = pairId ∧
      x.repetition = repetition
    · obtain ⟨rfl, rfl, rfl⟩ := hx
      cases architecture <;> simp [PlannedPair.runs, PlannedRun.key]
    · have hnone : (PlannedPair.runs x).find?
          (·.key = ⟨scenarioId, pairId, architecture, repetition⟩) = none := by
        rw [List.find?_eq_none]
        intro run hrun hkey
        have hkey := of_decide_eq_true hkey
        simp only [PlannedPair.runs, List.mem_cons, List.not_mem_nil, or_false] at hrun
        rcases hrun with rfl | rfl
        · simp only [PlannedRun.key, RunKey.mk.injEq] at hkey
          exact hx ⟨hkey.1, hkey.2.1, hkey.2.2.2⟩
        · simp only [PlannedRun.key, RunKey.mk.injEq] at hkey
          exact hx ⟨hkey.1, hkey.2.1, hkey.2.2.2⟩
      rw [hnone, Option.none_or, decide_eq_false hx]

/-- A run is the first one of its key. -/
def First (d : DevelopmentRunner) (p : PlannedRun) : Prop := d.plan.find? (·.key = p.key) = some p

theorem First.mem (h : d.First p) : p ∈ d.plan := List.mem_of_find?_eq_some h

/-- Both runs of a pair come from one manifest. -/
theorem First.pair (hp : d.First p) (hq : d.First q)
    (hscenario : p.case.scenarioId = q.case.scenarioId) (hpair : p.case.pairId = q.case.pairId)
    (hrepetition : p.repetition = q.repetition) : p.toPlannedPair = q.toPlannedPair := by
  rw [First, plan, find_runs] at hp hq
  obtain ⟨x, hx, hpx⟩ := Option.map_eq_some_iff.mp hp
  obtain ⟨y, hy, hqy⟩ := Option.map_eq_some_iff.mp hq
  simp only [PlannedRun.key, hscenario, hpair, hrepetition] at hx hy
  rw [← hpx, ← hqy]
  exact Option.some.inj (hx.symm.trans hy)

/-- A run whose key is not among those before it is the first one. -/
theorem first_of_new {before rest : List PlannedRun} (hplan : d.plan = before ++ p :: rest)
    (hnew : ∀ q ∈ before, q.key ≠ p.key) : d.First p := by
  have hnone : before.find? (·.key = p.key) = none :=
    List.find?_eq_none.mpr fun q hq hkey => hnew q hq (of_decide_eq_true hkey)
  rw [First, hplan, List.find?_append, hnone, Option.none_or]
  simp

end DevelopmentRunner

/-! ### Records -/

section Records

variable [EvalText] [RunDigest] {d : DevelopmentRunner} {p : PlannedRun} {r : V3RunRecord}

omit [RunDigest] in
/-- A record that can be built has the fields of its arguments, and passes the check of records. -/
theorem RecordArguments.record_ok {a : RecordArguments} {s : RunSummary}
    (h : a.record s = .ok r) :
    r.validate = true ∧ r.evalRunId = a.evalRunId ∧ r.executionIdentity = a.executionIdentity ∧
      r.manifestId = a.manifestId.getD a.case.familyKind.developmentManifest ∧
      r.key = ⟨a.case.scenarioId, a.case.pairId, a.architecture, a.repetition⟩ ∧
      r.sharedInputDigest = a.sharedInputDigest ∧
      r.sharedComponentVersions = sharedComponentVersionsOf a.case ∧
      r.selectorVersion =
        "production." ++ a.architecture.value ++ ".selector.v2-structured-candidate" ∧
      r.authorizedSelectorTurnCeiling = a.case.sharedFields.selectorTurnCeiling ∧
      r.authorizedProviderCallCeiling = a.case.sharedFields.providerCallCeiling ∧
      r.timeoutSeconds = a.case.sharedFields.timeoutSeconds ∧
      r.repeat = a.case.sharedFields.repeat := by
  unfold RecordArguments.record at h
  dsimp only at h
  split at h
  · rename_i record hbuild
    obtain rfl := Except.ok.inj h
    unfold V3RunRecord.build at hbuild
    split at hbuild
    · rename_i haccepts
      rw [Bool.and_eq_true] at haccepts
      obtain rfl := Option.some.inj hbuild
      exact ⟨haccepts.2, rfl, rfl, rfl, rfl, rfl, rfl, rfl, rfl, rfl, rfl, rfl⟩
    · cases hbuild
  · cases h

/-- A record of a planned run. -/
structure DevelopmentRunner.Bears (d : DevelopmentRunner) (p : PlannedRun) (r : V3RunRecord) :
    Prop where
  summary : ∃ s, (d.arguments p).record s = .ok r

namespace DevelopmentRunner.Bears

theorem key (h : d.Bears p r) : r.key = p.key := by
  obtain ⟨s, hs⟩ := h.summary
  exact (RecordArguments.record_ok hs).2.2.2.2.1

theorem evalRunId (h : d.Bears p r) : r.evalRunId = p.evalRunId := by
  obtain ⟨s, hs⟩ := h.summary
  exact (RecordArguments.record_ok hs).2.1

/-- Records of both architectures of one pair are fair. -/
theorem fairPair {a b : PlannedRun} {agent workflow : V3RunRecord} (hagent : d.Bears a agent)
    (hworkflow : d.Bears b workflow) (hpair : a.toPlannedPair = b.toPlannedPair)
    (ha : a.architecture = .agent) (hb : b.architecture = .workflow) :
    V3.fairPair agent workflow = true := by
  obtain ⟨x, architecture⟩ := a
  obtain ⟨y, architecture'⟩ := b
  obtain rfl : x = y := hpair
  obtain rfl : architecture = .agent := ha
  obtain rfl : architecture' = .workflow := hb
  obtain ⟨s, hs⟩ := hagent.summary
  obtain ⟨t, ht⟩ := hworkflow.summary
  obtain ⟨hvalid, -, -, hmanifest, -, hdigest, hversions, hselector, hturns, hcalls, htimeout,
    hrepeat⟩ := RecordArguments.record_ok hs
  obtain ⟨hvalid', -, -, hmanifest', -, hdigest', hversions', hselector', hturns', hcalls',
    htimeout', hrepeat'⟩ := RecordArguments.record_ok ht
  have hwithin : ∀ r : V3RunRecord, r.validate = true →
      r.metrics.providerCalls ≤ r.authorizedProviderCallCeiling := by
    intro r hr
    simp only [V3RunRecord.validate, Bool.and_eq_true, decide_eq_true_eq] at hr
    exact hr.1.1.1.2
  have hsame : ∀ entries : List (String × String), sameEntries entries entries = true := by
    intro entries
    simp [sameEntries]
  have hadapters :
      "production." ++ V3Architecture.agent.value ++ ".selector.v2-structured-candidate" ≠
        "production." ++ V3Architecture.workflow.value ++ ".selector.v2-structured-candidate" := by
    decide
  have hselectors : agent.selectorVersion ≠ workflow.selectorVersion := by
    rw [hselector, hselector']
    exact hadapters
  have hversionsSame : agent.sharedComponentVersions = workflow.sharedComponentVersions :=
    hversions.trans hversions'.symm
  simp only [V3.fairPair, Bool.and_eq_true, decide_eq_true_eq]
  refine ⟨⟨⟨⟨⟨⟨⟨⟨⟨?_, ?_⟩, ?_⟩, hselectors⟩, ?_⟩, ?_⟩, ?_⟩, ?_⟩, hwithin _ hvalid⟩,
    hwithin _ hvalid'⟩
  · exact hdigest.trans hdigest'.symm
  · rw [hversionsSame]
    exact hsame _
  · exact hmanifest.trans hmanifest'.symm
  · exact hturns.trans hturns'.symm
  · exact hcalls.trans hcalls'.symm
  · exact htimeout.trans htimeout'.symm
  · exact hrepeat.trans hrepeat'.symm

end DevelopmentRunner.Bears

variable [LedgerDigest]

omit [RunDigest] in
theorem recordFromEvidence_ok {a : RecordArguments} {input : V3ProductionCaseInput}
    {evidence : ProductionTraceEvidence} (h : recordFromEvidence a input evidence = .ok r) :
    ∃ s, a.record s = .ok r := by
  unfold recordFromEvidence at h
  simp only [bind, Except.bind, pure, Except.pure, throw, throwThe, MonadExceptOf.throw] at h
  split at h
  · cases h
  · split at h
    · split at h
      · cases h
      · exact ⟨_, h⟩
    · exact ⟨_, h⟩

omit [RunDigest] in
theorem failureRecord_ok {a : RecordArguments} {startedAt now : Instant} {error : RunError}
    {accounting : Option DevelopmentBudgetRunAccounting}
    (h : failureRecord a startedAt now error accounting = .ok r) : ∃ s, a.record s = .ok r := by
  unfold failureRecord at h
  simp only [bind, Except.bind] at h
  split at h
  · cases h
  · exact ⟨_, h⟩

theorem DevelopmentRunner.recordOf_ok {attempt : RunAttempt} {startedAt now : Instant}
    {accounting : Option DevelopmentBudgetRunAccounting}
    (h : d.recordOf p attempt startedAt now accounting = .ok r) :
    ∃ s, (d.arguments p).record s = .ok r := by
  unfold recordOf at h
  cases attempt with
  | rejected reasonCode =>
    cases accounting with
    | none => cases h
    | some accounting => exact failureRecord_ok h
  | raised error =>
    cases accounting with
    | none => cases h
    | some accounting => exact failureRecord_ok h
  | returned evidence =>
    simp only at h
    split at h
    · rename_i record hrecord
      obtain rfl := Except.ok.inj h
      exact recordFromEvidence_ok hrecord
    · cases accounting with
      | none => cases h
      | some accounting => exact failureRecord_ok h

end Records

/-! ### Files -/

section Files

variable [EvalText] {files files' : DevelopmentFiles} {records : List V3RunRecord}

theorem readRuns_mem {entries : List (String × Option Json)} (h : readRuns entries = .ok records)
    (r : V3RunRecord) : r ∈ records ↔ ∃ file ∈ entries, readRun file = some r := by
  induction entries generalizing records with
  | nil =>
    obtain rfl := Except.ok.inj h
    simp
  | cons file entries ih =>
    rw [readRuns] at h
    split at h
    · rename_i first later hfirst hlater
      obtain rfl := Except.ok.inj h
      rw [List.mem_cons, ih hlater]
      constructor
      · rintro (rfl | ⟨other, hother, hread⟩)
        · exact ⟨file, List.mem_cons_self, hfirst⟩
        · exact ⟨other, List.mem_cons_of_mem _ hother, hread⟩
      · rintro ⟨other, hother, hread⟩
        rcases List.mem_cons.mp hother with rfl | hother
        · exact Or.inl (Option.some.inj (hread.symm.trans hfirst))
        · exact Or.inr ⟨other, hother, hread⟩
    · cases h
    · cases h

theorem readRuns_all {entries : List (String × Option Json)} (h : readRuns entries = .ok records) :
    ∀ file ∈ entries, ∃ r, readRun file = some r := by
  induction entries generalizing records with
  | nil => exact nofun
  | cons file entries ih =>
    rw [readRuns] at h
    split at h
    · rename_i first later hfirst hlater
      intro other hother
      rcases List.mem_cons.mp hother with rfl | hother
      · exact ⟨first, hfirst⟩
      · exact ih hlater other hother
    · cases h
    · cases h

/-- Records come in the order of their files. -/
theorem readRuns_names {entries : List (String × Option Json)} (h : readRuns entries = .ok records)
    (hname : ∀ file ∈ entries, ∀ r, readRun file = some r → file.1 = runFile r.evalRunId) :
    records.map (fun r => runFile r.evalRunId) = entries.map Prod.fst := by
  induction entries generalizing records with
  | nil =>
    obtain rfl := Except.ok.inj h
    rfl
  | cons file entries ih =>
    rw [readRuns] at h
    split at h
    · rename_i first later hfirst hlater
      obtain rfl := Except.ok.inj h
      rw [List.map_cons, List.map_cons, hname file List.mem_cons_self first hfirst,
        ih hlater fun other hother => hname other (List.mem_cons_of_mem _ hother)]
    · cases h
    · cases h

theorem readRuns_error {entries : List (String × Option Json)} {e : DevelopmentError}
    (h : readRuns entries = .error e) : e = .unreadableRun := by
  induction entries with
  | nil => cases h
  | cons file entries ih =>
    rw [readRuns] at h
    split at h
    · cases h
    · exact (Except.error.inj h).symm
    · rename_i hlater
      exact ih (hlater.trans h)

namespace DevelopmentFiles

theorem mem_loadRuns (h : files.loadRuns = .ok records) (r : V3RunRecord) :
    r ∈ records ↔ ∃ file ∈ files.runs, readRun file = some r := by
  rw [readRuns_mem h]
  simp only [List.mem_insertionSort]

theorem loadRuns_all (h : files.loadRuns = .ok records) :
    ∀ file ∈ files.runs, ∃ r, readRun file = some r := fun file hfile =>
  readRuns_all h file (List.mem_insertionSort _ |>.mpr hfile)

omit [EvalText] in
theorem writeOnce_new {name : String} {payload : Json} (hnew : name ∉ files.runs.map Prod.fst)
    (h : files.writeOnce name payload = .ok files') :
    files' = { files with runs := files.runs ++ [(name, some payload)] } := by
  have hnone : files.runs.lookup name = none := by
    rw [List.lookup_eq_none_iff]
    intro file hfile
    rw [bne_iff_ne]
    rintro rfl
    exact hnew (List.mem_map_of_mem hfile)
  rw [writeOnce, hnone] at h
  exact (Except.ok.inj h).symm

omit [EvalText] in
theorem writeOnce_mem {name : String} {payload : Json}
    (h : files.writeOnce name payload = .ok files') : (name, some payload) ∈ files'.runs := by
  unfold writeOnce at h
  split at h
  · rename_i existing hfound
    split_ifs at h with hsame
    obtain rfl := Except.ok.inj h
    obtain ⟨before, after, hruns, -⟩ := List.lookup_eq_some_iff.mp (not_not.mp hsame ▸ hfound)
    rw [hruns]
    exact List.mem_append_right _ List.mem_cons_self
  · obtain rfl := Except.ok.inj h
    exact List.mem_append_right _ List.mem_cons_self

end DevelopmentFiles

end Files

end AfterSales.V3
