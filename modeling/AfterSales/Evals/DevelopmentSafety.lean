import AfterSales.Evals.DevelopmentRecords
import AfterSales.Evals.LedgerRuns
import AfterSales.Evals.Verdicts
import Mathlib.Logic.Relation

/-! A development execution keeps one record for each planned run, whenever its processes end.

    While a process executes, the keys it knows are exactly those with a complete file, and the
    planned runs before its position are among them. So a run is executed only when it has no
    record, its record goes to a new file, and at the end of the plan every key has one. -/

namespace AfterSales.V3

/-! ### Where a process is -/

namespace DevelopmentWorld

variable {d : DevelopmentRunner} {w w' : DevelopmentWorld}

/-- There is a record of a run. -/
def Saved (w : DevelopmentWorld) (p : PlannedRun) : Prop :=
  ∃ payload, (runFile p.evalRunId, some payload) ∈ w.files.runs

/-- No file was cut off. -/
def Whole (w : DevelopmentWorld) : Prop := ∀ file ∈ w.files.runs, file.2 ≠ none

/-- The process knows exactly the keys with a file. -/
structure Synced (d : DevelopmentRunner) (w : DevelopmentWorld) (known : List RunKey) : Prop where
  whole : w.Whole
  known : ∀ p ∈ d.plan, p.key ∈ known ↔ w.Saved p

/-- The planned runs before a position have records. -/
def Passed (d : DevelopmentRunner) (known : List RunKey) (rest : List PlannedRun) : Prop :=
  ∃ before, d.plan = before ++ rest ∧ ∀ p ∈ before, p.key ∈ known

theorem Synced.of_runs {known : List RunKey} (h : Synced d w known)
    (hruns : w'.files.runs = w.files.runs) : Synced d w' known := by
  constructor
  · intro file hfile
    rw [hruns] at hfile
    exact h.whole file hfile
  · intro p hp
    rw [Saved, hruns]
    exact h.known p hp

/-- A saved record makes its key known. -/
theorem Synced.save {known : List RunKey} {run : PlannedRun} {payload : Json}
    (h : Synced d w known) (hrun : run ∈ d.plan)
    (hruns : w'.files.runs = w.files.runs ++ [(runFile run.evalRunId, some payload)]) :
    Synced d w' (known ++ [run.key]) := by
  constructor
  · intro file hfile
    rw [hruns] at hfile
    rcases List.mem_append.mp hfile with hfile | hfile
    · exact h.whole file hfile
    · obtain rfl := List.mem_singleton.mp hfile
      exact nofun
  · intro p hp
    rw [List.mem_append, List.mem_singleton, h.known p hp]
    constructor
    · rintro (⟨payload', hfile⟩ | hkey)
      · exact ⟨payload', hruns ▸ List.mem_append_left _ hfile⟩
      · refine ⟨payload, ?_⟩
        rw [hruns, DevelopmentRunner.evalRunId_of_key hkey]
        exact List.mem_append_right _ (List.mem_singleton.mpr rfl)
    · rintro ⟨payload', hfile⟩
      rw [hruns] at hfile
      rcases List.mem_append.mp hfile with hfile | hfile
      · exact Or.inl ⟨payload', hfile⟩
      · have hname := congrArg Prod.fst (List.mem_singleton.mp hfile)
        exact Or.inr (DevelopmentRunner.key_of_evalRunId hp hrun (runFile_inj hname))

/-- A run that the process does not know has no file. -/
theorem Synced.new_name {known : List RunKey} {p : PlannedRun} (h : Synced d w known)
    (hp : p ∈ d.plan) (hnew : p.key ∉ known) :
    runFile p.evalRunId ∉ w.files.runs.map Prod.fst := by
  intro hname
  obtain ⟨⟨name, content⟩, hfile, rfl⟩ := List.mem_map.mp hname
  have hwhole := h.whole _ hfile
  cases content with
  | none => exact hwhole rfl
  | some payload => exact hnew ((h.known p hp).mpr ⟨payload, hfile⟩)

/-- The position moves past a run that has a record. -/
theorem Passed.next {known : List RunKey} {run : PlannedRun} {rest : List PlannedRun}
    (h : Passed d known (run :: rest)) {known' : List RunKey} (hsub : known ⊆ known')
    (hrun : run.key ∈ known') : Passed d known' rest := by
  obtain ⟨before, hplan, hbefore⟩ := h
  refine ⟨before ++ [run], by rw [hplan, List.append_assoc]; rfl, fun p hp => ?_⟩
  rcases List.mem_append.mp hp with hp | hp
  · exact hsub (hbefore p hp)
  · rw [List.mem_singleton.mp hp]
    exact hrun

/-- A run that is due and not known is the first one of its key. -/
theorem Passed.first {known : List RunKey} {run : PlannedRun} {rest : List PlannedRun}
    (h : Passed d known (run :: rest)) (hnew : run.key ∉ known) : d.First run := by
  obtain ⟨before, hplan, hbefore⟩ := h
  exact DevelopmentRunner.first_of_new hplan fun q hq hkey => hnew (hkey ▸ hbefore q hq)

theorem openStates_runs {files files' : DevelopmentFiles} (h : d.openStates files = .ok files') :
    files'.runs = files.runs := by
  unfold DevelopmentRunner.openStates at h
  split at h
  · obtain rfl := Except.ok.inj h
    rfl
  · simp only [bind, Except.bind] at h
    split at h
    · cases h
    · split at h
      · obtain rfl := Except.ok.inj h
        rfl
      · split_ifs at h
        obtain rfl := Except.ok.inj h
        rfl
      · cases h

theorem recordRun_runs {evalRunId : String} {files files' : DevelopmentFiles}
    (h : d.recordRun evalRunId files = .ok files') : files'.runs = files.runs := by
  unfold DevelopmentRunner.recordRun at h
  split at h
  · obtain rfl := Except.ok.inj h
    rfl
  · simp only [bind, Except.bind] at h
    split at h
    · cases h
    · split_ifs at h
      · obtain rfl := Except.ok.inj h
        rfl
      · obtain rfl := Except.ok.inj h
        rfl

/-! ### The invariant of an execution -/

variable [EvalText] [RunDigest]

/-- Every file is of a planned run, and no two are of one. -/
structure Kept (d : DevelopmentRunner) (w : DevelopmentWorld) : Prop where
  planned : ∀ file ∈ w.files.runs, ∃ p, d.First p ∧ file.1 = runFile p.evalRunId ∧
    ∀ payload, file.2 = some payload → ∃ r, payload = V3RunRecord.schema.dump r ∧ d.Bears p r
  names : (w.files.runs.map Prod.fst).Nodup

namespace Kept

variable {p : PlannedRun}

/-- The record in a file is of the run that names the file. -/
theorem read (h : Kept d w) {file : String × Option Json} (hfile : file ∈ w.files.runs)
    {r : V3RunRecord} (hread : readRun file = some r) :
    ∃ p, d.First p ∧ file.1 = runFile p.evalRunId ∧ d.Bears p r := by
  obtain ⟨p, hfirst, hname, hrecord⟩ := h.planned file hfile
  obtain ⟨payload, hpayload, hload⟩ := Option.bind_eq_some_iff.mp hread
  obtain ⟨r', rfl, hbears⟩ := hrecord payload hpayload
  rw [Schema.load_dump] at hload
  split_ifs at hload
  obtain rfl := Option.some.inj hload
  exact ⟨p, hfirst, hname, hbears⟩

/-- What a process loads are the keys with a file. -/
theorem synced (h : Kept d w) {records : List V3RunRecord}
    (hload : w.files.loadRuns = .ok records) : Synced d w (records.map (·.key)) := by
  have hread := DevelopmentFiles.loadRuns_all hload
  constructor
  · intro file hfile hcut
    obtain ⟨r, hr⟩ := hread file hfile
    rw [readRun, hcut] at hr
    cases hr
  · intro p hp
    constructor
    · intro hkey
      obtain ⟨r, hr, hkey⟩ := List.mem_map.mp hkey
      obtain ⟨file, hfile, hr⟩ := (DevelopmentFiles.mem_loadRuns hload r).mp hr
      obtain ⟨q, hq, hname, hbears⟩ := h.read hfile hr
      obtain ⟨payload, hpayload, -⟩ := Option.bind_eq_some_iff.mp hr
      have hid : q.evalRunId = p.evalRunId :=
        DevelopmentRunner.evalRunId_of_key (hbears.key.symm.trans hkey)
      refine ⟨payload, ?_⟩
      rw [← hid, ← hname, ← hpayload]
      exact hfile
    · rintro ⟨payload, hfile⟩
      obtain ⟨r, hr⟩ := hread _ hfile
      obtain ⟨q, hq, hname, hbears⟩ := h.read hfile hr
      have hkey := DevelopmentRunner.key_of_evalRunId hp hq.mem (runFile_inj hname)
      rw [hkey, ← hbears.key]
      exact List.mem_map_of_mem ((DevelopmentFiles.mem_loadRuns hload r).mpr ⟨_, hfile, hr⟩)

/-- A new file, whole or cut off. -/
theorem append (h : Kept d w) (hfirst : d.First p) {content : Option Json}
    (hnew : runFile p.evalRunId ∉ w.files.runs.map Prod.fst)
    (hcontent : ∀ payload, content = some payload →
      ∃ r, payload = V3RunRecord.schema.dump r ∧ d.Bears p r)
    (hruns : w'.files.runs = w.files.runs ++ [(runFile p.evalRunId, content)]) : Kept d w' := by
  constructor
  · intro file hfile
    rw [hruns] at hfile
    rcases List.mem_append.mp hfile with hfile | hfile
    · exact h.planned file hfile
    · obtain rfl := List.mem_singleton.mp hfile
      exact ⟨p, hfirst, rfl, hcontent⟩
  · rw [hruns, List.map_append, List.map_singleton]
    exact List.Nodup.append h.names (List.nodup_singleton _)
      (List.disjoint_singleton.mpr hnew)

theorem of_runs (h : Kept d w) (hruns : w'.files.runs = w.files.runs) : Kept d w' := by
  constructor
  · rw [hruns]
    exact h.planned
  · rw [hruns]
    exact h.names

end Kept

variable [LedgerDigest]

/-- What holds at a position. -/
def At (d : DevelopmentRunner) (w : DevelopmentWorld) : RunnerPosition → Prop
  | .absent | .opened => True
  | .due known rest => Synced d w known ∧ Passed d known rest
  | .made known run record rest =>
    Synced d w known ∧ Passed d known (run :: rest) ∧ run.key ∉ known ∧ d.Bears run record
  | .saved known run rest => Synced d w (known ++ [run.key]) ∧ Passed d known (run :: rest)
  | .returned records =>
    d.validateCompleteness w.files = .ok records ∧ validatePairedRecords records = true

structure Valid (d : DevelopmentRunner) (w : DevelopmentWorld) : Prop extends Kept d w where
  position : At d w w.position

/-! ### One step -/

omit [RunDigest] in
theorem saveRun_ok {record : V3RunRecord} {files files' : DevelopmentFiles}
    (h : d.saveRun record files = .ok files') :
    files.writeOnce (runFile record.evalRunId) (V3RunRecord.schema.dump record) = .ok files' := by
  unfold DevelopmentRunner.saveRun at h
  simp only [bind, Except.bind, throw, throwThe, MonadExceptOf.throw] at h
  split_ifs at h
  split at h
  · cases h
  · split_ifs at h
    exact h

namespace Valid

theorem step (h : Valid d w) (hstep : Step d w w') : Valid d w' := by
  have hat := h.position
  cases hstep with
  | launch hposition hopen => exact ⟨h.toKept.of_runs (openStates_runs hopen), trivial⟩
  | start hposition hstart =>
    unfold DevelopmentRunner.startRun at hstart
    simp only [bind, Except.bind, pure, Except.pure, throw, throwThe, MonadExceptOf.throw] at hstart
    split at hstart
    · cases hstart
    · rename_i records hload
      split_ifs at hstart
      obtain rfl := Except.ok.inj hstart
      exact ⟨h.toKept.of_runs rfl, (h.toKept.synced hload).of_runs rfl, [], rfl,
        fun _ hp => absurd hp List.not_mem_nil⟩
  | skip hposition hknown =>
    rw [hposition] at hat
    exact ⟨h.toKept.of_runs rfl, hat.1.of_runs rfl, hat.2.next (List.Subset.refl _) hknown⟩
  | reject hposition hnew hagent hrecord =>
    rw [hposition] at hat
    exact ⟨h.toKept.of_runs rfl, hat.1.of_runs rfl, hat.2, hnew,
      ⟨DevelopmentRunner.recordOf_ok hrecord⟩⟩
  | execute hposition hnew hrecord =>
    rw [hposition] at hat
    exact ⟨h.toKept.of_runs rfl, hat.1.of_runs rfl, hat.2, hnew,
      ⟨DevelopmentRunner.recordOf_ok hrecord⟩⟩
  | abandon => exact ⟨h.toKept.of_runs rfl, trivial⟩
  | save hposition hsave =>
    rw [hposition] at hat
    obtain ⟨hsynced, hpassed, hnew, hbears⟩ := hat
    have hfirst := hpassed.first hnew
    have hname := hsynced.new_name hfirst.mem hnew
    have hwrite := saveRun_ok hsave
    rw [hbears.evalRunId] at hwrite
    obtain rfl := DevelopmentFiles.writeOnce_new hname hwrite
    refine ⟨h.toKept.append hfirst hname (fun payload hpayload => ?_) rfl,
      hsynced.save hfirst.mem rfl, hpassed⟩
    exact ⟨_, (Option.some.inj hpayload).symm, hbears⟩
  | note hposition hnote =>
    rw [hposition] at hat
    have hruns := recordRun_runs hnote
    exact ⟨h.toKept.of_runs hruns, hat.1.of_runs hruns,
      hat.2.next (List.subset_append_left _ _)
        (List.mem_append_right _ (List.mem_singleton.mpr rfl))⟩
  | finish hposition hcomplete hpaired => exact ⟨h.toKept.of_runs rfl, hcomplete, hpaired⟩
  | crash => exact ⟨h.toKept.of_runs rfl, trivial⟩
  | @cutRun known run record rest files hposition hsave hchanged =>
    rw [hposition] at hat
    obtain ⟨hsynced, hpassed, hnew, hbears⟩ := hat
    have hfirst := hpassed.first hnew
    have hcut : w.files.runs ++ [(runFile run.evalRunId, none)] =
        w.files.runs ++ [(runFile record.evalRunId, none)] := by
      rw [hbears.evalRunId]
    have hnone : ∀ payload, (none : Option Json) = some payload →
        ∃ r, payload = V3RunRecord.schema.dump r ∧ d.Bears run r := nofun
    exact ⟨h.toKept.append hfirst (hsynced.new_name hfirst.mem hnew) hnone hcut.symm, trivial⟩
  | cutState => exact ⟨h.toKept.of_runs rfl, trivial⟩

end Valid

theorem Reachable.valid (h : Reachable d w) : Valid d w := by
  induction h with
  | empty => exact ⟨⟨fun _ hfile => absurd hfile List.not_mem_nil, List.nodup_nil⟩, trivial⟩
  | step _ hstep ih => exact ih.step hstep

/-! ### The end of the plan -/

namespace Kept

omit [LedgerDigest] in
/-- The records that are loaded have different keys. -/
theorem keys_nodup (h : Kept d w) {records : List V3RunRecord}
    (hload : w.files.loadRuns = .ok records) : (records.map (·.key)).Nodup := by
  have hname : ∀ file ∈ w.files.runs.insertionSort fun a b => a.1 ≤ b.1, ∀ r,
      readRun file = some r → file.1 = runFile r.evalRunId := by
    intro file hfile r hr
    obtain ⟨p, -, hname, hbears⟩ := h.read ((List.mem_insertionSort _).mp hfile) hr
    rw [hname, hbears.evalRunId]
  have hnames := readRuns_names hload hname
  have hids : (records.map (·.key)).map (fun k => runFile k.evalRunId) =
      records.map fun r => runFile r.evalRunId := by
    rw [List.map_map]
    refine List.map_congr_left fun r hr => ?_
    obtain ⟨file, hfile, hread⟩ := (DevelopmentFiles.mem_loadRuns hload r).mp hr
    obtain ⟨p, -, -, hbears⟩ := h.read hfile hread
    rw [Function.comp_apply, hbears.key, hbears.evalRunId, DevelopmentRunner.key_evalRunId]
  refine List.Nodup.of_map (fun k => runFile k.evalRunId) ?_
  rw [hids, hnames]
  exact ((List.perm_insertionSort _ _).map Prod.fst).nodup_iff.mpr h.names

omit [LedgerDigest] in
/-- A loaded record is of a planned run. -/
theorem planned_of_loaded (h : Kept d w) {records : List V3RunRecord}
    (hload : w.files.loadRuns = .ok records) {r : V3RunRecord} (hr : r ∈ records) :
    ∃ p, d.First p ∧ d.Bears p r := by
  obtain ⟨file, hfile, hread⟩ := (DevelopmentFiles.mem_loadRuns hload r).mp hr
  obtain ⟨p, hfirst, -, hbears⟩ := h.read hfile hread
  exact ⟨p, hfirst, hbears⟩

omit [LedgerDigest] in
/-- Records of all planned runs make fair pairs. -/
theorem paired (h : Kept d w) {records : List V3RunRecord} (hload : w.files.loadRuns = .ok records)
    (hkeys : ∀ k, k ∈ records.map (·.key) ↔ k ∈ d.expectedRunKeys) :
    validatePairedRecords records = true := by
  have hpartner : ∀ p ∈ d.plan, ∀ r, r.key = p.key → ∀ architecture, ∃ x q,
      partner records r architecture = some x ∧ d.First q ∧ d.Bears q x ∧
      q.architecture = architecture ∧ q.case.scenarioId = p.case.scenarioId ∧
      q.case.pairId = p.case.pairId ∧ q.repetition = p.repetition := by
    intro p hp r hkey architecture
    have hplanned : (⟨p.toPlannedPair, architecture⟩ : PlannedRun) ∈ d.plan :=
      DevelopmentRunner.mem_plan.mpr
        (show p.toPlannedPair ∈ d.pairs from DevelopmentRunner.mem_plan.mp hp)
    obtain ⟨y, hy, hykey⟩ := List.mem_map.mp ((hkeys _).mpr (List.mem_map_of_mem hplanned))
    simp only [V3RunRecord.key, PlannedRun.key, RunKey.mk.injEq] at hykey hkey
    have hsome : (partner records r architecture).isSome := by
      rw [partner, List.find?_isSome]
      refine ⟨y, hy, ?_⟩
      simp only [Bool.and_eq_true, decide_eq_true_eq]
      exact ⟨⟨⟨hykey.2.1.trans hkey.2.1.symm, hykey.1.trans hkey.1.symm⟩,
        hykey.2.2.2.trans hkey.2.2.2.symm⟩, hykey.2.2.1⟩
    obtain ⟨x, hx⟩ := Option.isSome_iff_exists.mp hsome
    have hmatch := List.find?_some hx
    obtain ⟨q, hfirst, hbears⟩ := h.planned_of_loaded hload (List.mem_of_find?_eq_some hx)
    have hqkey := hbears.key
    simp only [V3RunRecord.key, PlannedRun.key, RunKey.mk.injEq] at hqkey
    simp only [Bool.and_eq_true, decide_eq_true_eq] at hmatch
    obtain ⟨⟨⟨hpair, hscenario⟩, hrepetition⟩, harchitecture⟩ := hmatch
    exact ⟨x, q, hx, hfirst, hbears, hqkey.2.2.1.symm.trans harchitecture,
      hqkey.1.symm.trans (hscenario.trans hkey.1), hqkey.2.1.symm.trans (hpair.trans hkey.2.1),
      hqkey.2.2.2.symm.trans (hrepetition.trans hkey.2.2.2)⟩
  rw [validatePairedRecords, Bool.and_eq_true, decide_eq_true_eq, List.all_eq_true]
  refine ⟨h.keys_nodup hload, fun r hr => ?_⟩
  obtain ⟨p, hfirst, hbears⟩ := h.planned_of_loaded hload hr
  obtain ⟨x, a, hx, ha, hax, hagent, hscenario, hpair, hrepetition⟩ :=
    hpartner p hfirst.mem r hbears.key .agent
  obtain ⟨y, b, hy, hb, hby, hworkflow, hscenario', hpair', hrepetition'⟩ :=
    hpartner p hfirst.mem r hbears.key .workflow
  rw [hx, hy]
  exact hax.fairPair hby (ha.pair hb (hscenario.trans hscenario'.symm) (hpair.trans hpair'.symm)
    (hrepetition.trans hrepetition'.symm)) hagent hworkflow

end Kept

omit [RunDigest] [LedgerDigest] in
/-- What `validate_completeness` may find of records that are complete. -/
theorem validateCompleteness_of_keys {files : DevelopmentFiles} {records : List V3RunRecord}
    (hload : files.loadRuns = .ok records) (hnodup : (records.map (·.key)).Nodup)
    (hkeys : ∀ k, k ∈ records.map (·.key) ↔ k ∈ d.expectedRunKeys)
    (hidentity : ∀ r ∈ records, r.executionIdentity = d.executionIdentity)
    (hcases : ∀ r ∈ records, (d.case r.scenarioId).isSome) :
    d.validateCompleteness files = .error .verdictsDiffer ∨
      d.validateCompleteness files = .ok records := by
  have hforeign : ¬ records.any (·.executionIdentity ≠ d.executionIdentity) = true := by
    rw [List.any_eq_true]
    rintro ⟨r, hr, hne⟩
    exact of_decide_eq_true hne (hidentity r hr)
  have hcomplete : ((records.map (·.key)).all (· ∈ d.expectedRunKeys) &&
      d.expectedRunKeys.all (· ∈ records.map (·.key))) = true := by
    rw [Bool.and_eq_true, List.all_eq_true, List.all_eq_true]
    exact ⟨fun k hk => decide_eq_true ((hkeys k).mp hk),
      fun k hk => decide_eq_true ((hkeys k).mpr hk)⟩
  have hknown : ¬ (records.any fun r => (d.case r.scenarioId).isNone) = true := by
    rw [List.any_eq_true]
    rintro ⟨r, hr, hnone⟩
    have hsome := hcases r hr
    rw [Option.isNone_iff_eq_none.mp hnone] at hsome
    cases hsome
  have hlater : ¬¬(records.map (·.key)).Nodup := not_not.mpr hnodup
  have hall := not_not.mpr hcomplete
  unfold DevelopmentRunner.validateCompleteness
  simp only [hload, bind, Except.bind, throw, throwThe, MonadExceptOf.throw, pure, Except.pure]
  rw [if_neg hforeign, if_neg hlater, if_neg hall, if_neg hknown]
  split_ifs
  · exact Or.inl rfl
  · exact Or.inr rfl

/-- Whenever its processes end, an execution has at most one file for each planned run, and only a
    record of that run is in it. At the end of the plan, validation refuses an unreadable record or
    verdicts that a replay does not give, and nothing else; what it accepts are records of exactly
    the planned runs, in fair pairs. -/
theorem development_sound (h : Reachable d w) :
    (w.files.runs.map Prod.fst).Nodup ∧
    (∀ file ∈ w.files.runs, ∃ p ∈ d.plan, file.1 = runFile p.evalRunId ∧
      ∀ payload, file.2 = some payload →
        ∃ r, payload = V3RunRecord.schema.dump r ∧ r.key = p.key) ∧
    ∀ known, w.position = .due known [] →
      d.validateCompleteness w.files = .error .unreadableRun ∨
      d.validateCompleteness w.files = .error .verdictsDiffer ∨
      ∃ records, d.validateCompleteness w.files = .ok records ∧ (records.map (·.key)).Nodup ∧
        (∀ k, k ∈ records.map (·.key) ↔ k ∈ d.expectedRunKeys) ∧
        validatePairedRecords records = true := by
  have hvalid := h.valid
  refine ⟨hvalid.names, fun file hfile => ?_, fun known hposition => ?_⟩
  · obtain ⟨p, hfirst, hname, hrecord⟩ := hvalid.planned file hfile
    refine ⟨p, hfirst.mem, hname, fun payload hpayload => ?_⟩
    obtain ⟨r, hr, hbears⟩ := hrecord payload hpayload
    exact ⟨r, hr, hbears.key⟩
  · have hat := hvalid.position
    rw [hposition] at hat
    obtain ⟨hsynced, before, hplan, hbefore⟩ := hat
    rw [List.append_nil] at hplan
    cases hload : w.files.loadRuns with
    | error e =>
      obtain rfl := readRuns_error hload
      refine Or.inl ?_
      unfold DevelopmentRunner.validateCompleteness
      rw [hload]
      rfl
    | ok records =>
      have hnodup := hvalid.keys_nodup hload
      have hkeys : ∀ k, k ∈ records.map (·.key) ↔ k ∈ d.expectedRunKeys := by
        intro k
        constructor
        · intro hk
          obtain ⟨r, hr, rfl⟩ := List.mem_map.mp hk
          obtain ⟨p, hfirst, hbears⟩ := hvalid.planned_of_loaded hload hr
          rw [hbears.key]
          exact List.mem_map_of_mem hfirst.mem
        · intro hk
          obtain ⟨p, hp, rfl⟩ := List.mem_map.mp hk
          have hsaved := (hsynced.known p hp).mp (hbefore p (hplan ▸ hp))
          exact ((hvalid.synced hload).known p hp).mpr hsaved
      have hidentity : ∀ r ∈ records, r.executionIdentity = d.executionIdentity := by
        intro r hr
        obtain ⟨p, -, hbears⟩ := hvalid.planned_of_loaded hload hr
        obtain ⟨s, hs⟩ := hbears.summary
        exact (RecordArguments.record_ok hs).2.2.1
      have hcases : ∀ r ∈ records, (d.case r.scenarioId).isSome := by
        intro r hr
        obtain ⟨p, hfirst, hbears⟩ := hvalid.planned_of_loaded hload hr
        have hscenario : r.scenarioId = p.case.scenarioId := congrArg RunKey.scenarioId hbears.key
        rw [DevelopmentRunner.case, List.find?_isSome]
        exact ⟨p.case, (DevelopmentRunner.mem_pairs (DevelopmentRunner.mem_plan.mp hfirst.mem)).1,
          decide_eq_true hscenario.symm⟩
      rcases validateCompleteness_of_keys hload hnodup hkeys hidentity hcases with hdiffer | hok
      · exact Or.inr (Or.inl hdiffer)
      · exact Or.inr (Or.inr ⟨records, hok, hnodup, hkeys, hvalid.paired hload hkeys⟩)

/-! ### What later processes do -/

/-- A step adds files, and executes no run that has a record. -/
theorem Valid.keeps (h : Valid d w) (hstep : Step d w w') :
    w.files.runs <+: w'.files.runs ∧
      ∀ p ∈ d.plan, w.Saved p → w'.executed.count p.key = w.executed.count p.key := by
  have hat := h.position
  have hsame : w.files.runs <+: w.files.runs := List.prefix_rfl
  have hunknown : ∀ {known : List RunKey} {run p : PlannedRun}, Synced d w known →
      run.key ∉ known → p ∈ d.plan → w.Saved p →
      (w.executed ++ [run.key]).count p.key = w.executed.count p.key := by
    intro known run p hsynced hnew hp hsaved
    have hne : run.key ≠ p.key := fun hkey => hnew (hkey ▸ (hsynced.known p hp).mpr hsaved)
    have hzero : [run.key].count p.key = 0 := by
      rw [List.count_eq_zero, List.mem_singleton]
      exact hne.symm
    rw [List.count_append, hzero, Nat.add_zero]
  cases hstep with
  | launch hposition hopen => exact ⟨openStates_runs hopen ▸ hsame, fun _ _ _ => rfl⟩
  | start => exact ⟨hsame, fun _ _ _ => rfl⟩
  | skip => exact ⟨hsame, fun _ _ _ => rfl⟩
  | reject => exact ⟨hsame, fun _ _ _ => rfl⟩
  | execute hposition hnew hrecord =>
    rw [hposition] at hat
    exact ⟨hsame, fun p hp hsaved => hunknown hat.1 hnew hp hsaved⟩
  | abandon hposition hnew =>
    rw [hposition] at hat
    exact ⟨hsame, fun p hp hsaved => hunknown hat.1 hnew hp hsaved⟩
  | save hposition hsave =>
    rw [hposition] at hat
    obtain ⟨hsynced, hpassed, hnew, hbears⟩ := hat
    have hwrite := saveRun_ok hsave
    rw [hbears.evalRunId] at hwrite
    obtain rfl := DevelopmentFiles.writeOnce_new
      (hsynced.new_name (hpassed.first hnew).mem hnew) hwrite
    exact ⟨List.prefix_append _ _, fun _ _ _ => rfl⟩
  | note hposition hnote => exact ⟨recordRun_runs hnote ▸ hsame, fun _ _ _ => rfl⟩
  | finish => exact ⟨hsame, fun _ _ _ => rfl⟩
  | crash => exact ⟨hsame, fun _ _ _ => rfl⟩
  | cutRun => exact ⟨List.prefix_append _ _, fun _ _ _ => rfl⟩
  | cutState => exact ⟨hsame, fun _ _ _ => rfl⟩

/-- With a file that was cut off, no process gets to execute anything. -/
theorem Valid.stuck (h : Valid d w) (hcut : ¬ w.Whole) (hstep : Step d w w') :
    w'.files.runs = w.files.runs ∧ w'.executed = w.executed := by
  have hat := h.position
  have hunread : ∀ {records : List V3RunRecord}, w.files.loadRuns ≠ .ok records :=
    fun hload => hcut (h.toKept.synced hload).whole
  have hnowhere : ∀ {position : RunnerPosition}, w.position = position → At d w position := by
    rintro _ rfl
    exact hat
  cases hstep with
  | launch hposition hopen => exact ⟨openStates_runs hopen, rfl⟩
  | start => exact ⟨rfl, rfl⟩
  | skip => exact ⟨rfl, rfl⟩
  | reject => exact ⟨rfl, rfl⟩
  | execute hposition => exact absurd (hnowhere hposition).1.whole hcut
  | abandon hposition => exact absurd (hnowhere hposition).1.whole hcut
  | save hposition => exact absurd (hnowhere hposition).1.whole hcut
  | note hposition hnote => exact ⟨recordRun_runs hnote, rfl⟩
  | finish => exact ⟨rfl, rfl⟩
  | crash => exact ⟨rfl, rfl⟩
  | cutRun hposition => exact absurd (hnowhere hposition).1.whole hcut
  | cutState => exact ⟨rfl, rfl⟩

/-- A record stays as it was saved, and its run is not executed again; after a record that was cut
    off, nothing is executed and nothing is saved any more. -/
theorem saved_runs_stay (h : Reachable d w) (hsteps : Relation.ReflTransGen (Step d) w w') :
    (∀ p ∈ d.plan, ∀ payload, (runFile p.evalRunId, some payload) ∈ w.files.runs →
      (runFile p.evalRunId, some payload) ∈ w'.files.runs ∧
        w'.executed.count p.key = w.executed.count p.key) ∧
    (¬ w.Whole → w'.files.runs = w.files.runs ∧ w'.executed = w.executed) := by
  induction hsteps with
  | refl => exact ⟨fun p _ payload hfile => ⟨hfile, rfl⟩, fun _ => ⟨rfl, rfl⟩⟩
  | @tail t u hbefore hstep ih =>
    have hvalid : Valid d t := by
      clear ih hstep
      induction hbefore with
      | refl => exact h.valid
      | tail _ hstep ih => exact ih.step hstep
    obtain ⟨hkept, hcut⟩ := ih
    obtain ⟨hpre, hcount⟩ := hvalid.keeps hstep
    constructor
    · intro p hp payload hfile
      obtain ⟨hmiddle, hcounted⟩ := hkept p hp payload hfile
      exact ⟨hpre.subset hmiddle, (hcount p hp ⟨payload, hmiddle⟩).trans hcounted⟩
    · intro hbroken
      obtain ⟨hruns, hexecuted⟩ := hcut hbroken
      have hstill : ¬ t.Whole := by
        rw [Whole, hruns]
        exact hbroken
      obtain ⟨hruns', hexecuted'⟩ := hvalid.stuck hstill hstep
      exact ⟨hruns'.trans hruns, hexecuted'.trans hexecuted⟩

end DevelopmentWorld

end AfterSales.V3

/-! ### One execution: a process that ends early, and one that comes to the end of the plan -/

namespace AfterSales.V3.DevelopmentWorld

section SampleExecution

attribute [local instance] EvalText.plain

local instance sampleRunDigest : RunDigest := ⟨fun _ _ => sampleHash⟩

theorem spelled_apart (_ key : String) (turn : Nat) (key' : String) (turn' : Nat)
    (h : String.ofList (IdText.spellText key.toList (IdText.spellNat turn [])) =
      String.ofList (IdText.spellText key'.toList (IdText.spellNat turn' []))) :
    key = key' ∧ turn = turn' := by
  obtain ⟨hkey, hrest⟩ := IdText.spellText_inj (String.ofList_injective h)
  exact ⟨String.toList_inj.mp hkey, (IdText.spellNat_inj hrest).1⟩

local instance spelledLedger : LedgerDigest where
  bindingDigest _ := sampleHash
  invocationId _ key turn := String.ofList (IdText.spellText key.toList (IdText.spellNat turn []))
  invocationId_injective := spelled_apart

theorem one_repetition : 1 ≤ 1 ∧ 1 ≤ 3 := by omega

def sampleManifest : DevelopmentManifest where
  manifestId := .v3aEvalDev001
  caseIds := ["v3a-sample"]
  plannedRepetitions := 1
  casesDistinct := List.nodup_singleton _
  repetitions := one_repetition

def sampleRunner : DevelopmentRunner where
  executionIdentity := "V3-DEV-EXEC-A1"
  evaluationRevision := "revision"
  manifests := [sampleManifest]
  cases := [sampleCase []]
  caseInputs _ := ⟨"v3a-sample", .signedNotReceived, "fixture", "source", 0, "seed"⟩
  budgetBinding := LedgerSystem.development
  executionPackage := some ⟨sampleHash, "V3-DEV-EXEC-A1", "revision", "manifests"⟩
  scenariosDistinct := List.nodup_singleton _
  pairsDistinct := List.nodup_singleton _
  casesBound m hm id hid := by
    obtain rfl := List.mem_singleton.mp hm
    exact hid

def agentRun : PlannedRun := ⟨⟨sampleManifest, sampleCase [], 1⟩, .agent⟩

def workflowRun : PlannedRun := ⟨⟨sampleManifest, sampleCase [], 1⟩, .workflow⟩

/-- The budget rejects the run of the agent. -/
def rejection : Except String V3RunRecord :=
  sampleRunner.recordOf agentRun (.rejected "provider_budget_exhausted") 0 0 (some ⟨0, none⟩)

theorem rejection_recorded : rejection.toOption.isSome = true := by decide +kernel

def rejectionRecord : V3RunRecord := rejection.toOption.get rejection_recorded

def openedFiles : DevelopmentFiles := (sampleRunner.openStates empty.files).toOption.getD empty.files

theorem rejection_savable :
    (sampleRunner.saveRun rejectionRecord openedFiles).toOption.isSome = true := by decide +kernel

/-- The files after the record is saved. -/
def rejectionFiles : DevelopmentFiles :=
  (sampleRunner.saveRun rejectionRecord openedFiles).toOption.get rejection_savable

theorem ok_get {ε α : Type} {e : Except ε α} (h : e.toOption.isSome = true) :
    e = .ok (e.toOption.get h) := by
  cases e with
  | error => cases h
  | ok a => rfl

theorem rejectionFiles_runs : rejectionFiles.runs =
    [(runFile agentRun.evalRunId, some (V3RunRecord.schema.dump rejectionRecord))] := by
  have hrecord : rejection = .ok rejectionRecord := ok_get rejection_recorded
  have hsave : sampleRunner.saveRun rejectionRecord openedFiles = .ok rejectionFiles :=
    ok_get rejection_savable
  have hid : rejectionRecord.evalRunId = agentRun.evalRunId :=
    (DevelopmentRunner.Bears.mk (DevelopmentRunner.recordOf_ok hrecord)).evalRunId
  have hwrite := saveRun_ok hsave
  rw [hid] at hwrite
  rw [DevelopmentFiles.writeOnce_new List.not_mem_nil hwrite]
  rfl

/-- The process ends between the two writes. -/
def endedEarly : DevelopmentWorld :=
  (⟨rejectionFiles, .saved [] agentRun [workflowRun], [], []⟩ : DevelopmentWorld).ended

theorem savedEarly_reachable : Reachable sampleRunner
    ⟨rejectionFiles, .saved [] agentRun [workflowRun], [], []⟩ := by
  have hopen : sampleRunner.openStates empty.files = .ok openedFiles := rfl
  have hstart : sampleRunner.startRun openedFiles = .ok [] := rfl
  have hrecord : rejection = .ok rejectionRecord := ok_get rejection_recorded
  have hsave : sampleRunner.saveRun rejectionRecord openedFiles = .ok rejectionFiles :=
    ok_get rejection_savable
  exact .step (.step (.step (.step .empty (.launch rfl hopen)) (.start rfl hstart))
    (.reject rfl List.not_mem_nil rfl hrecord)) (.save rfl hsave)

theorem endedEarly_reachable : Reachable sampleRunner endedEarly := savedEarly_reachable.step .crash

theorem rejection_saved :
    (runFile agentRun.evalRunId, some (V3RunRecord.schema.dump rejectionRecord)) ∈
      rejectionFiles.runs := by
  rw [rejectionFiles_runs]
  exact List.mem_singleton.mpr rfl

/-! The process lives on, executes the run of the workflow and comes to the end of the plan. -/

/-- The run of the workflow raises. -/
def failure : Except String V3RunRecord :=
  sampleRunner.recordOf workflowRun (.raised (.other "RuntimeError")) 0 0 (some ⟨0, none⟩)

/-- What is written from the record of the agent on, and read at the end of the plan and by the next
    process. -/
def livesOn (record : V3RunRecord) : Except DevelopmentError (List V3RunRecord) := do
  let noted ← sampleRunner.recordRun agentRun.evalRunId rejectionFiles
  let saved ← sampleRunner.saveRun record noted
  let complete ← sampleRunner.recordRun workflowRun.evalRunId saved
  let _ ← sampleRunner.openStates complete
  sampleRunner.validateCompleteness complete

theorem failure_livesOn :
    failure.toOption.any (fun record => (livesOn record).toOption.isSome) = true := by
  decide +kernel

theorem isSome_of_bind {ε α β : Type} {x : Except ε α} {f : α → Except ε β}
    (h : (x >>= f).toOption.isSome = true) : ∃ a, x = .ok a ∧ (f a).toOption.isSome = true := by
  cases x with
  | error => cases h
  | ok a => exact ⟨a, rfl, h⟩

/-- The end of the plan: both runs have a record, and the one of the workflow was executed. -/
theorem plan_ends : ∃ record files,
    Reachable sampleRunner
      ⟨files, .due [agentRun.key, workflowRun.key] [], [workflowRun.key], []⟩ ∧
    (runFile workflowRun.evalRunId, some (V3RunRecord.schema.dump record)) ∈ files.runs ∧
    (∃ reopened, sampleRunner.openStates files = .ok reopened) ∧
    ∃ records, sampleRunner.validateCompleteness files = .ok records := by
  obtain ⟨record, hfailed, hlives⟩ : ∃ record, failure = .ok record ∧
      (livesOn record).toOption.isSome = true := by
    have hany := failure_livesOn
    cases h : failure with
    | error e =>
      rw [h] at hany
      cases hany
    | ok record =>
      rw [h] at hany
      exact ⟨record, rfl, hany⟩
  obtain ⟨noted, hnoted, hlives⟩ := isSome_of_bind hlives
  obtain ⟨saved, hsaved, hlives⟩ := isSome_of_bind hlives
  obtain ⟨complete, hcomplete, hlives⟩ := isSome_of_bind hlives
  obtain ⟨reopened, hreopened, hlives⟩ := isSome_of_bind hlives
  refine ⟨record, complete, ?_, ?_, ⟨reopened, hreopened⟩, _, ok_get hlives⟩
  · have hnew : workflowRun.key ∉ [agentRun.key] := by decide
    have hdue := savedEarly_reachable.step (.note rfl hnoted)
    have hmade := hdue.step (.execute rfl hnew hfailed)
    have hwritten := hmade.step (.save rfl hsaved)
    have hended := hwritten.step (.note rfl hcomplete)
    exact hended
  · have hid : record.evalRunId = workflowRun.evalRunId :=
      (DevelopmentRunner.Bears.mk (DevelopmentRunner.recordOf_ok hfailed)).evalRunId
    rw [recordRun_runs hcomplete, ← hid]
    exact DevelopmentFiles.writeOnce_mem (saveRun_ok hsaved)

/-- Two runs have a file, and validation accepts their records. -/
theorem planEnded_sound : ∃ w : DevelopmentWorld, ∃ records,
    w.position = .due [agentRun.key, workflowRun.key] [] ∧
    (w.files.runs.map Prod.fst).Nodup ∧
    (∀ file ∈ w.files.runs, ∃ p ∈ sampleRunner.plan, file.1 = runFile p.evalRunId ∧
      ∀ payload, file.2 = some payload →
        ∃ r, payload = V3RunRecord.schema.dump r ∧ r.key = p.key) ∧
    sampleRunner.validateCompleteness w.files = .ok records ∧ (records.map (·.key)).Nodup ∧
    (∀ k, k ∈ records.map (·.key) ↔ k ∈ sampleRunner.expectedRunKeys) ∧
    validatePairedRecords records = true := by
  obtain ⟨record, files, hreach, -, -, records, haccepted⟩ := plan_ends
  obtain ⟨hnodup, hfiles, hend⟩ := development_sound hreach
  refine ⟨_, records, rfl, hnodup, hfiles, haccepted, ?_⟩
  rcases hend _ rfl with hrefused | hrefused | ⟨accepted, hok, hsound⟩
  · rw [haccepted] at hrefused
    cases hrefused
  · rw [haccepted] at hrefused
    cases hrefused
  · rw [haccepted] at hok
    obtain rfl := Except.ok.inj hok
    exact hsound

/-- The records outlive the process, and another one does not execute the run again. -/
theorem restarted_keeps : ∃ (w : DevelopmentWorld) (record : V3RunRecord), w.position = .opened ∧
    (runFile workflowRun.evalRunId, some (V3RunRecord.schema.dump record)) ∈ w.files.runs ∧
    w.executed.count workflowRun.key = 1 := by
  obtain ⟨record, files, hreach, hfile, ⟨reopened, hopen⟩, -⟩ := plan_ends
  have hplanned : workflowRun ∈ sampleRunner.plan := List.mem_cons_of_mem _ List.mem_cons_self
  have hcrashed := Relation.ReflTransGen.single (r := Step sampleRunner)
    (a := ⟨files, .due [agentRun.key, workflowRun.key] [], [workflowRun.key], []⟩) .crash
  have hrestarted := hcrashed.tail (.launch rfl hopen)
  obtain ⟨hstays, hcount⟩ := (saved_runs_stay hreach hrestarted).1 workflowRun hplanned _ hfile
  exact ⟨_, record, rfl, hstays, hcount⟩

end SampleExecution

end AfterSales.V3.DevelopmentWorld
