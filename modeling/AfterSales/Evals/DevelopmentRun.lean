import AfterSales.Evals.RunRecords

/-! A development execution: every planned run once, over as many processes as it takes.

    A process executes the planned runs in order, and saves a record of each one; failures have
    records too. A process may end anywhere, also inside a write. The next one goes on with the runs
    that have no record:

        launch ─▶ load ─▶ execute ─▶ save ─▶ note ─▶ execute ─▶ … ─▶ validate ─▶ records
                              ▲                          │
                              └──── a record is there ───┘

    Records are files of their own. The ledger of states is a file with a line for each run; it is
    written after the record, and nothing reads it to decide what to execute. -/

namespace AfterSales.V3

/-! ### What is planned -/

structure DevelopmentManifest where
  manifestId : V3ManifestId
  caseIds : List String
  plannedRepetitions : Nat
  casesDistinct : caseIds.Nodup
  repetitions : 1 ≤ plannedRepetitions ∧ plannedRepetitions ≤ 3

/-- The parts of a package that runs and ledgers are bound to. -/
structure ExecutionPackage where
  packageDigest : String
  executionIdentity : String
  evaluatedSourceRevision : String
  manifestSourceRevision : String

/-- `_shared_input_digest`. -/
class RunDigest where
  sharedInputDigest : V3CaseSpec → V3ProductionCaseInput → String

/-- A runner, as it is constructed. No two cases have one scenario or one pair. -/
structure DevelopmentRunner where
  executionIdentity : String
  evaluationRevision : String
  manifests : List DevelopmentManifest
  cases : List V3CaseSpec
  caseInputs : V3CaseSpec → V3ProductionCaseInput
  budgetBinding : DevelopmentBudgetBinding
  executionPackage : Option ExecutionPackage
  scenariosDistinct : (cases.map (·.scenarioId)).Nodup
  pairsDistinct : (cases.map (·.pairId)).Nodup
  casesBound : ∀ m ∈ manifests, ∀ id ∈ m.caseIds, id ∈ cases.map (·.scenarioId)

/-- What a record is unique for. -/
structure RunKey where
  scenarioId : String
  pairId : String
  architecture : V3Architecture
  repetition : Nat
  deriving DecidableEq

def V3RunRecord.key (r : V3RunRecord) : RunKey :=
  ⟨r.scenarioId, r.pairId, r.architecture, r.repetition⟩

/-- One repetition of a case, for both architectures. -/
structure PlannedPair where
  manifest : DevelopmentManifest
  case : V3CaseSpec
  repetition : Nat

structure PlannedRun extends PlannedPair where
  architecture : V3Architecture

namespace PlannedRun

def key (p : PlannedRun) : RunKey :=
  ⟨p.case.scenarioId, p.case.pairId, p.architecture, p.repetition⟩

def evalRunId (p : PlannedRun) : String := evalRunIdOf p.case p.architecture p.repetition

end PlannedRun

/-- `planned_architectures` of every manifest. -/
def PlannedPair.runs (p : PlannedPair) : List PlannedRun := [⟨p, .agent⟩, ⟨p, .workflow⟩]

namespace DevelopmentRunner

variable (d : DevelopmentRunner)

/-- The case of a scenario. -/
def case (scenarioId : String) : Option V3CaseSpec :=
  d.cases.find? fun c => c.scenarioId = scenarioId

/-- The pairs of a manifest, in the order of the loops of `run`. -/
def pairsOf (manifest : DevelopmentManifest) : List PlannedPair :=
  manifest.caseIds.flatMap fun scenarioId =>
    (d.case scenarioId).toList.flatMap fun case =>
      (List.range' 1 manifest.plannedRepetitions).map fun repetition =>
        ⟨manifest, case, repetition⟩

def pairs : List PlannedPair := d.manifests.flatMap d.pairsOf

def plan : List PlannedRun := d.pairs.flatMap PlannedPair.runs

/-- `expected_run_keys`. -/
def expectedRunKeys : List RunKey := d.plan.map (·.key)

/-- `execution_package_digest` of the records. -/
def packageDigest : Option String := d.executionPackage.map (·.packageDigest)

end DevelopmentRunner

/-! ### Files -/

inductive ExecutionStateEvent where
  | initialized (executionIdentity evaluatedSourceRevision manifestSourceRevision : String)
  | runRecorded (evalRunId : String)
  | reportRecorded (reportId : String)
  | measurementCompleted (reportId : String)
  deriving DecidableEq

structure ExecutionStateLine where
  packageDigest : String
  event : ExecutionStateEvent

/-- The files under the root of an execution. A file or a line that was cut off is `none`. -/
structure DevelopmentFiles where
  runs : List (String × Option Json)
  states : List (Option ExecutionStateLine)

inductive DevelopmentError where
  | unreadableRun
  | duplicateLogicalRun
  | foreignBinding
  | foreignIdentity
  | recordCollision
  | unreadableState
  | foreignState
  | notInitialized
  | incompleteRetention
  | unknownCase
  | verdictsDiffer
  | unpaired
  deriving DecidableEq, Repr

/-- The name of the file of a run. -/
def runFile (evalRunId : String) : String := evalRunId ++ ".json"

section Runs

variable [EvalText]

/-- The record in a file, if it can be read. -/
def readRun (file : String × Option Json) : Option V3RunRecord :=
  file.2.bind V3RunRecord.schema.load

def readRuns : List (String × Option Json) → Except DevelopmentError (List V3RunRecord)
  | [] => .ok []
  | file :: files =>
    match readRun file, readRuns files with
    | some record, .ok records => .ok (record :: records)
    | none, _ => .error .unreadableRun
    | some _, .error e => .error e

/-- `load_runs`, in the order of the names. -/
def DevelopmentFiles.loadRuns (files : DevelopmentFiles) :
    Except DevelopmentError (List V3RunRecord) :=
  readRuns (files.runs.insertionSort fun a b => a.1 ≤ b.1)

/-- `_write_once`, for a run. -/
def DevelopmentFiles.writeOnce (files : DevelopmentFiles) (name : String) (payload : Json) :
    Except DevelopmentError DevelopmentFiles :=
  match files.runs.lookup name with
  | some existing => if existing ≠ some payload then .error .recordCollision else .ok files
  | none => .ok { files with runs := files.runs ++ [(name, some payload)] }

end Runs

/-- Equal as dictionaries. -/
def sameEntries (a b : List (String × String)) : Bool := a.all (· ∈ b) && b.all (· ∈ a)

namespace DevelopmentRunner

variable [EvalText] [LedgerDigest] (d : DevelopmentRunner)

/-- A record that is bound to the budget, the plan, the manifests and the package of the runner. -/
def bound (r : V3RunRecord) : Bool :=
  r.budgetLedgerBindingDigest = some (LedgerDigest.bindingDigest d.budgetBinding) &&
    r.planVersion = some d.budgetBinding.planVersion &&
    sameEntries r.manifestDigests d.budgetBinding.manifestDigests &&
    (d.executionPackage.isSome → r.executionPackageDigest = d.packageDigest)

/-- `save_run`. -/
def saveRun (record : V3RunRecord) (files : DevelopmentFiles) :
    Except DevelopmentError DevelopmentFiles := do
  if record.executionIdentity ≠ d.executionIdentity || record.executionIdentity = "" then
    throw .foreignIdentity
  if !d.bound record then throw .foreignBinding
  let records ← files.loadRuns
  if records.any fun r => r.key = record.key && r.evalRunId ≠ record.evalRunId then
    throw .duplicateLogicalRun
  files.writeOnce (runFile record.evalRunId) (V3RunRecord.schema.dump record)

/-! ### The ledger of states -/

/-- `_load`. -/
def loadStates (package : ExecutionPackage) :
    List (Option ExecutionStateLine) → Except DevelopmentError (List ExecutionStateEvent)
  | [] => .ok []
  | none :: _ => .error .unreadableState
  | some line :: lines =>
    if line.packageDigest ≠ package.packageDigest then .error .foreignState
    else (loadStates package lines).map (line.event :: ·)

def ExecutionPackage.initialized (package : ExecutionPackage) : ExecutionStateEvent :=
  .initialized package.executionIdentity package.evaluatedSourceRevision
    package.manifestSourceRevision

/-- `_append`. -/
def appendState (package : ExecutionPackage) (event : ExecutionStateEvent)
    (files : DevelopmentFiles) : DevelopmentFiles :=
  { files with states := files.states ++ [some ⟨package.packageDigest, event⟩] }

/-- `V3DevelopmentExecutionStateLedger`, when it is opened. -/
def openStates (files : DevelopmentFiles) : Except DevelopmentError DevelopmentFiles :=
  match d.executionPackage with
  | none => .ok files
  | some package => do
    match ← loadStates package files.states with
    | [] => return appendState package (ExecutionPackage.initialized package) files
    | .initialized identity evaluated manifest :: _ =>
      if .initialized identity evaluated manifest ≠ ExecutionPackage.initialized package then
        throw .foreignState
      return files
    | _ => throw .notInitialized

/-- `record_run`. -/
def recordRun (evalRunId : String) (files : DevelopmentFiles) :
    Except DevelopmentError DevelopmentFiles :=
  match d.executionPackage with
  | none => .ok files
  | some package => do
    let events ← loadStates package files.states
    if .runRecorded evalRunId ∈ events then return files
    return appendState package (.runRecorded evalRunId) files

/-! ### Loading and validation -/

/-- The start of `run`: the keys that have records, unless a record is not one of this execution. -/
def startRun (files : DevelopmentFiles) : Except DevelopmentError (List RunKey) := do
  let records ← files.loadRuns
  if ¬ (records.map (·.key)).Nodup then throw .duplicateLogicalRun
  if !records.all d.bound then throw .foreignBinding
  return records.map (·.key)

/-- `validate_completeness`. -/
def validateCompleteness (files : DevelopmentFiles) :
    Except DevelopmentError (List V3RunRecord) := do
  let records ← files.loadRuns
  if records.any (·.executionIdentity ≠ d.executionIdentity) then throw .foreignIdentity
  let keys := records.map (·.key)
  if ¬ keys.Nodup then throw .duplicateLogicalRun
  if ¬ (keys.all (· ∈ d.expectedRunKeys) && d.expectedRunKeys.all (· ∈ keys)) then
    throw .incompleteRetention
  if records.any fun r => (d.case r.scenarioId).isNone then throw .unknownCase
  let replays := fun r : V3RunRecord => (d.case r.scenarioId).any fun case =>
    (validatePersistedGraderVerdicts
      { case := case
        trace := r.trace
        finalOutcome := r.finalOutcome
        safetyGatePass := r.safetyGatePass
        caseScopeId := some r.scopeId } r.trace.graderVerdicts).toBool
  if !records.all replays then throw .verdictsDiffer
  return records

end DevelopmentRunner

/-- The record of an architecture in the pair of a record. -/
def partner (records : List V3RunRecord) (r : V3RunRecord) (architecture : V3Architecture) :
    Option V3RunRecord :=
  records.find? fun x => x.pairId = r.pairId && x.scenarioId = r.scenarioId &&
    x.repetition = r.repetition && x.architecture = architecture

/-- What both records of a pair must share, and what they must not. -/
def fairPair (agent workflow : V3RunRecord) : Bool :=
  agent.sharedInputDigest = workflow.sharedInputDigest &&
    sameEntries agent.sharedComponentVersions workflow.sharedComponentVersions &&
    agent.manifestId = workflow.manifestId && agent.selectorVersion ≠ workflow.selectorVersion &&
    agent.authorizedSelectorTurnCeiling = workflow.authorizedSelectorTurnCeiling &&
    agent.authorizedProviderCallCeiling = workflow.authorizedProviderCallCeiling &&
    agent.timeoutSeconds = workflow.timeoutSeconds && agent.repeat = workflow.repeat &&
    agent.metrics.providerCalls ≤ agent.authorizedProviderCallCeiling &&
    workflow.metrics.providerCalls ≤ workflow.authorizedProviderCallCeiling

/-- `validate_paired_records`. -/
def validatePairedRecords (records : List V3RunRecord) : Bool :=
  (records.map (·.key)).Nodup && records.all fun r =>
    match partner records r .agent, partner records r .workflow with
    | some agent, some workflow => fairPair agent workflow
    | _, _ => false

/-! ### One run -/

/-- How a run ends. One that the budget rejects is not executed. -/
inductive RunAttempt where
  | rejected (reasonCode : String)
  | raised (error : RunError)
  | returned (evidence : ProductionTraceEvidence)

namespace DevelopmentRunner

variable [EvalText] [LedgerDigest] [RunDigest] (d : DevelopmentRunner)

def arguments (p : PlannedRun) : RecordArguments where
  case := p.case
  architecture := p.architecture
  repetition := p.repetition
  executionIdentity := d.executionIdentity
  evaluationRevision := d.evaluationRevision
  evalRunId := p.evalRunId
  sharedInputDigest := RunDigest.sharedInputDigest p.case (d.caseInputs p.case)
  manifestId := some p.manifest.manifestId
  budgetBinding := some d.budgetBinding
  executionPackageDigest := d.packageDigest

/-- The record of an attempt. Without an accounting, the ledger of the budget cannot be read. -/
def recordOf (p : PlannedRun) (attempt : RunAttempt) (startedAt now : Instant)
    (accounting : Option DevelopmentBudgetRunAccounting) : Except String V3RunRecord :=
  let failed := fun error =>
    match accounting with
    | none => .error "DevelopmentBudgetLedgerError"
    | some accounting => failureRecord (d.arguments p) startedAt now error (some accounting)
  match attempt with
  | .rejected reasonCode => failed (.providerBudgetAdmissionRejected reasonCode)
  | .raised error => failed error
  | .returned evidence =>
    match recordFromEvidence (d.arguments p) (d.caseInputs p.case) evidence with
    | .ok record => .ok record
    | .error className => failed (.other className)

end DevelopmentRunner

/-! ### Processes -/

/-- Where the process is between two writes. It knows the keys that have records. -/
inductive RunnerPosition where
  | absent
  | opened
  | due (known : List RunKey) (rest : List PlannedRun)
  | made (known : List RunKey) (run : PlannedRun) (record : V3RunRecord) (rest : List PlannedRun)
  | saved (known : List RunKey) (run : PlannedRun) (rest : List PlannedRun)
  | returned (records : List V3RunRecord)

/-- The run whose record is saved and not yet noted. -/
def RunnerPosition.unnoted : RunnerPosition → List RunKey
  | .saved _ run _ => [run.key]
  | _ => []

/-- An execution: its files, its process, and its history. The history has the runs that were
    executed, and the saved runs whose process ended before they were noted. -/
structure DevelopmentWorld where
  files : DevelopmentFiles
  position : RunnerPosition
  executed : List RunKey
  lost : List RunKey

namespace DevelopmentWorld

variable [EvalText] [LedgerDigest] [RunDigest]

def empty : DevelopmentWorld := ⟨⟨[], []⟩, .absent, [], []⟩

/-- The process ends. -/
def ended (w : DevelopmentWorld) : DevelopmentWorld :=
  { w with
    position := .absent
    lost := w.lost ++ w.position.unnoted }

/-- One step of a process, or its end. -/
inductive Step (d : DevelopmentRunner) (w : DevelopmentWorld) : DevelopmentWorld → Prop where
  | launch {files : DevelopmentFiles} (hposition : w.position = .absent)
      (hopen : d.openStates w.files = .ok files) :
      Step d w { w with files := files, position := .opened }
  | start {known : List RunKey} (hposition : w.position = .opened)
      (hstart : d.startRun w.files = .ok known) :
      Step d w { w with position := .due known d.plan }
  | skip {known : List RunKey} {run : PlannedRun} {rest : List PlannedRun}
      (hposition : w.position = .due known (run :: rest)) (hknown : run.key ∈ known) :
      Step d w { w with position := .due known rest }
  /-- The budget rejects the run: its record says so. -/
  | reject {known : List RunKey} {run : PlannedRun} {rest : List PlannedRun} {record : V3RunRecord}
      {reasonCode : String} {startedAt now : Instant}
      {accounting : Option DevelopmentBudgetRunAccounting}
      (hposition : w.position = .due known (run :: rest)) (hnew : run.key ∉ known)
      (hagent : run.architecture = .agent)
      (hrecord : d.recordOf run (.rejected reasonCode) startedAt now accounting = .ok record) :
      Step d w { w with position := .made known run record rest }
  | execute {known : List RunKey} {run : PlannedRun} {rest : List PlannedRun}
      {record : V3RunRecord} {attempt : RunAttempt} {startedAt now : Instant}
      {accounting : Option DevelopmentBudgetRunAccounting}
      (hposition : w.position = .due known (run :: rest)) (hnew : run.key ∉ known)
      (hrecord : d.recordOf run attempt startedAt now accounting = .ok record) :
      Step d w { w with
        position := .made known run record rest
        executed := w.executed ++ [run.key] }
  /-- The process ends while the run is executed, or no record of it can be made. -/
  | abandon {known : List RunKey} {run : PlannedRun} {rest : List PlannedRun}
      (hposition : w.position = .due known (run :: rest)) (hnew : run.key ∉ known) :
      Step d w { w.ended with executed := w.executed ++ [run.key] }
  | save {known : List RunKey} {run : PlannedRun} {record : V3RunRecord} {rest : List PlannedRun}
      {files : DevelopmentFiles} (hposition : w.position = .made known run record rest)
      (hsave : d.saveRun record w.files = .ok files) :
      Step d w { w with files := files, position := .saved known run rest }
  | note {known : List RunKey} {run : PlannedRun} {rest : List PlannedRun}
      {files : DevelopmentFiles} (hposition : w.position = .saved known run rest)
      (hnote : d.recordRun run.evalRunId w.files = .ok files) :
      Step d w { w with files := files, position := .due (known ++ [run.key]) rest }
  | finish {known : List RunKey} {records : List V3RunRecord}
      (hposition : w.position = .due known [])
      (hcomplete : d.validateCompleteness w.files = .ok records)
      (hpaired : validatePairedRecords records) :
      Step d w { w with position := .returned records }
  /-- The process ends between two writes, with an error or without. -/
  | crash : Step d w w.ended
  /-- The process ends inside a write. -/
  | cutRun {known : List RunKey} {run : PlannedRun} {record : V3RunRecord} {rest : List PlannedRun}
      {files : DevelopmentFiles} (hposition : w.position = .made known run record rest)
      (hsave : d.saveRun record w.files = .ok files) (hnew : files ≠ w.files) :
      Step d w { w.ended with
        files := { w.files with runs := w.files.runs ++ [(runFile record.evalRunId, none)] } }
  | cutState {files : DevelopmentFiles}
      (hwrite : w.position = .absent ∧ d.openStates w.files = .ok files ∨
        ∃ known run rest, w.position = .saved known run rest ∧
          d.recordRun run.evalRunId w.files = .ok files) (hnew : files ≠ w.files) :
      Step d w { w.ended with files := { w.files with states := w.files.states ++ [none] } }

/-- The states of an execution that began without files. -/
inductive Reachable (d : DevelopmentRunner) : DevelopmentWorld → Prop where
  | empty : Reachable d empty
  | step {w w' : DevelopmentWorld} (h : Reachable d w) (hstep : Step d w w') : Reachable d w'

end DevelopmentWorld

end AfterSales.V3
