import AfterSales.Lib.Keyed
import AfterSales.Policy.Corpus
import Mathlib.Algebra.GroupWithZero.Nat

/-! The budget ledger of a development execution.

    The ledger is a file of events, one a line. Every operation locks the file, reads it, rebuilds
    the state from it, and appends at most two events:

        initialized ─▶ admitted ─▶ completed ─▶ (stop) ─▶ admitted ─▶ …

    An invocation is admitted before the provider is called and completed afterwards. Some stop
    reasons are events of their own, others follow from the invocations; the latter win. -/

namespace AfterSales

inductive LedgerStopReason where
  | providerBudgetExhausted
  | providerInvocationIncomplete
  | tokenThresholdExhausted
  | tokenUsageUnavailable
  deriving DecidableEq, Repr

inductive LedgerInvocationStatus where
  | admitted | completed | providerError | timeout | cancelled
  deriving DecidableEq, Repr

/-- The statuses a completion reports. -/
inductive TerminalStatus where
  | completed | providerError | timeout | cancelled
  deriving DecidableEq, Repr

def TerminalStatus.status : TerminalStatus → LedgerInvocationStatus
  | .completed => .completed
  | .providerError => .providerError
  | .timeout => .timeout
  | .cancelled => .cancelled

/-- The execution a ledger belongs to and the resources it grants. -/
structure DevelopmentBudgetBinding where
  executionIdentity : String
  sourceRevision : String
  manifestDigests : List (String × String)
  planVersion : String
  authorizedProviderCallCeiling : Nat
  authorizedProviderCallCeilingPerRun : Nat
  tokenThreshold : Option Nat
  outputTokenCapPerInvocation : Nat
  hasDigests : manifestDigests ≠ []
  planned : planVersion ≠ ""
  perRunAtMost : authorizedProviderCallCeilingPerRun ≤ 16
  perRunWithin : authorizedProviderCallCeilingPerRun ≤ authorizedProviderCallCeiling
  thresholdPositive : ∀ t ∈ tokenThreshold, 1 ≤ t
  capPositive : 0 < outputTokenCapPerInvocation
  deriving DecidableEq

/-- The digests of the ledger; different turns of different runs keep different identities. -/
class LedgerDigest where
  bindingDigest : DevelopmentBudgetBinding → String
  invocationId : String → String → Nat → String
  invocationId_injective : ∀ digest key turn key' turn',
    invocationId digest key turn = invocationId digest key' turn' → key = key' ∧ turn = turn'

/-- One admitted provider attempt and what was observed of it. -/
structure DevelopmentBudgetInvocation where
  invocationId : String
  logicalRunKey : String
  selectorTurn : Nat
  status : LedgerInvocationStatus
  outputTokenCap : Nat
  admittedAt : Instant
  completedAt : Option Instant
  inputTokens : Option Nat
  outputTokens : Option Nat
  totalTokens : Option Nat
  errorCode : Option String
  keyed : logicalRunKey ≠ ""
  turnBounds : 1 ≤ selectorTurn ∧ selectorTurn ≤ 16
  capPositive : 0 < outputTokenCap
  completedIff : status = .admitted ↔ completedAt = none
  inOrder : ∀ t ∈ completedAt, admittedAt ≤ t
  deriving DecidableEq

namespace DevelopmentBudgetInvocation

/-- `(logical_run_key, selector_turn)`. -/
def runTurn (i : DevelopmentBudgetInvocation) : String × Nat := (i.logicalRunKey, i.selectorTurn)

/-- A terminal invocation without one of its three counts. -/
def usageMissing (i : DevelopmentBudgetInvocation) : Bool :=
  i.inputTokens.isNone || i.outputTokens.isNone || i.totalTokens.isNone

end DevelopmentBudgetInvocation

/-- The payload of a completion. -/
structure LedgerCompletion where
  invocationId : String
  status : TerminalStatus
  completedAt : Instant
  inputTokens : Option Nat
  outputTokens : Option Nat
  totalTokens : Option Nat
  errorCode : Option String
  deriving DecidableEq

/-- The completed invocation; `none` is the validation error of a completion before its admission. -/
def DevelopmentBudgetInvocation.complete (i : DevelopmentBudgetInvocation) (c : LedgerCompletion) :
    Option DevelopmentBudgetInvocation :=
  if h : i.admittedAt ≤ c.completedAt then some { i with
    status := c.status.status
    completedAt := some c.completedAt
    inputTokens := c.inputTokens
    outputTokens := c.outputTokens
    totalTokens := c.totalTokens
    errorCode := c.errorCode
    completedIff := by cases c.status <;> simp [TerminalStatus.status]
    inOrder := by simpa using h }
  else none

inductive LedgerPayload where
  | initialized (binding : DevelopmentBudgetBinding)
  | admitted (invocation : DevelopmentBudgetInvocation)
  | completed (completion : LedgerCompletion)
  | stop (reason : LedgerStopReason) (logicalRunKey : Option String)
  deriving DecidableEq

structure LedgerEvent where
  bindingDigest : String
  payload : LedgerPayload
  deriving DecidableEq

/-! ### Lines of the file -/

/-- The characters that end a line for `splitlines` although JSON writes them as they are. -/
def lineSeparators : List Char := ['\u0085', '\u2028', '\u2029']

/-- A text that stays on one line of the file. -/
def staysOnLine (text : String) : Bool := text.toList.all fun c => c ∉ lineSeparators

def DevelopmentBudgetBinding.staysOnLine (b : DevelopmentBudgetBinding) : Bool :=
  [b.executionIdentity, b.sourceRevision, b.planVersion].all AfterSales.staysOnLine &&
    b.manifestDigests.all fun d => AfterSales.staysOnLine d.1 && AfterSales.staysOnLine d.2

/-- An event that is read back as the line it was written as. -/
def LedgerEvent.staysOnLine (e : LedgerEvent) : Bool :=
  match e.payload with
  | .initialized binding => binding.staysOnLine
  | .admitted i => AfterSales.staysOnLine i.logicalRunKey
  | .completed c => c.errorCode.all AfterSales.staysOnLine
  | .stop _ logicalRunKey => logicalRunKey.all AfterSales.staysOnLine

inductive LedgerError where
  | invalidEvent
  | bindingDiffers
  | notInitialized
  | bindingPayloadDiffers
  | duplicateInvocationIdentity
  | duplicateSelectorInvocation
  | unmatchedCompletion
  | validation
  | unexpectedlyEmpty
  | runKeyRequired
  | selectorTurnOutside
  | unknownInvocation
  | runKeyDiffers
  | usageNotInteger
  | usageNegative
  deriving DecidableEq, Repr

/-- `_load_events_unlocked`: the pieces of a split line are no events. -/
def loadEvents (file : List LedgerEvent) : Except LedgerError (List LedgerEvent) :=
  if file.all LedgerEvent.staysOnLine then .ok file else .error .invalidEvent

/-! ### The rebuilt state -/

/-- The state that the events after the first are folded into. -/
structure LedgerReplay where
  invocations : List DevelopmentBudgetInvocation
  stopReason : Option LedgerStopReason

namespace LedgerReplay

def start : LedgerReplay := ⟨[], none⟩

/-- One event of `_rebuild`. -/
def next (r : LedgerReplay) (e : LedgerEvent) : Except LedgerError LedgerReplay :=
  match e.payload with
  | .initialized _ => .ok r
  | .admitted i =>
    if r.invocations.any fun j => j.invocationId = i.invocationId then
      .error .duplicateInvocationIdentity
    else if r.invocations.any fun j => j.runTurn = i.runTurn then
      .error .duplicateSelectorInvocation
    else .ok { r with invocations := r.invocations ++ [i] }
  | .completed c =>
    match Keyed.find DevelopmentBudgetInvocation.invocationId c.invocationId r.invocations with
    | none => .error .unmatchedCompletion
    | some current =>
      if current.status ≠ .admitted then .error .unmatchedCompletion
      else match current.complete c with
        | none => .error .validation
        | some updated => .ok { r with
            invocations := Keyed.modify DevelopmentBudgetInvocation.invocationId c.invocationId
              (fun _ => updated) r.invocations }
  | .stop reason _ => .ok { r with stopReason := some reason }

def run (r : LedgerReplay) : List LedgerEvent → Except LedgerError LedgerReplay
  | [] => .ok r
  | e :: rest => (r.next e).bind fun r' => r'.run rest

end LedgerReplay

/-- The sum of the counts that were reported; `none` when there is none. -/
def reportedSum (values : List (Option Nat)) : Option Nat :=
  if values.reduceOption.isEmpty then none else some values.reduceOption.sum

/-- The rebuilt state, with the checks of `validate_snapshot`. -/
structure DevelopmentBudgetLedgerSnapshot where
  binding : DevelopmentBudgetBinding
  attemptedProviderCalls : Nat
  completedProviderCalls : Nat
  providerErrors : Nat
  providerTimeouts : Nat
  providerCancellations : Nat
  providerReportedInputTokens : Option Nat
  providerReportedOutputTokens : Option Nat
  providerReportedTotalTokens : Option Nat
  tokenUsageComplete : Bool
  tokenUsageMissingCallCount : Nat
  remainingProviderCalls : Nat
  thresholdExhausted : Bool
  tokenOvershoot : Option Nat
  stopReason : Option LedgerStopReason
  lastLogicalRunKey : Option String
  invocations : List DevelopmentBudgetInvocation
  attemptedCount : attemptedProviderCalls = invocations.length
  remainingCount : remainingProviderCalls =
    binding.authorizedProviderCallCeiling - attemptedProviderCalls
  completedAtMost : completedProviderCalls ≤ attemptedProviderCalls
  thresholdConfigured : thresholdExhausted = true → binding.tokenThreshold.isSome

namespace LedgerReplay

variable (r : LedgerReplay)

def pending : List DevelopmentBudgetInvocation :=
  r.invocations.filter fun i => i.status = .admitted

def terminal : List DevelopmentBudgetInvocation :=
  r.invocations.filter fun i => i.status ≠ .admitted

/-- How many invocations ended this way. -/
def ended (status : TerminalStatus) : Nat := r.terminal.countP fun i => i.status = status.status

def tokenUsageComplete : Bool :=
  r.pending.isEmpty &&
    (r.terminal.isEmpty || decide (r.terminal.countP (·.usageMissing) = 0))

def totalTokens : Option Nat := reportedSum (r.terminal.map (·.totalTokens))

def thresholdExhausted (binding : DevelopmentBudgetBinding) : Bool :=
  r.tokenUsageComplete &&
    binding.tokenThreshold.any fun threshold => r.totalTokens.any fun total => threshold ≤ total

def tokenOvershoot (binding : DevelopmentBudgetBinding) : Option Nat :=
  if r.tokenUsageComplete then
    binding.tokenThreshold.bind fun threshold => r.totalTokens.map fun total => total - threshold
  else none

/-- What follows from the invocations wins over a stop event. -/
def stopReasonBelowCeiling (binding : DevelopmentBudgetBinding) : Option LedgerStopReason :=
  if r.pending.isEmpty = false then some .providerInvocationIncomplete
  else if r.thresholdExhausted binding then some .tokenThresholdExhausted
  else if binding.tokenThreshold.isSome && !r.tokenUsageComplete && !r.terminal.isEmpty then
    some .tokenUsageUnavailable
  else r.stopReason

/-- The stop reason in force. -/
def stopReasonInForce (binding : DevelopmentBudgetBinding) : Option LedgerStopReason :=
  if r.stopReasonBelowCeiling binding = none ∧
      binding.authorizedProviderCallCeiling ≤ r.invocations.length then
    some .providerBudgetExhausted
  else r.stopReasonBelowCeiling binding

theorem ended_le (status : TerminalStatus) : r.ended status ≤ r.invocations.length :=
  Nat.le_trans List.countP_le_length (List.length_filter_le _ _)

/-- What `_rebuild` reports of the folded events. -/
def snapshot (binding : DevelopmentBudgetBinding) : DevelopmentBudgetLedgerSnapshot where
  binding := binding
  attemptedProviderCalls := r.invocations.length
  completedProviderCalls := r.ended .completed
  providerErrors := r.ended .providerError
  providerTimeouts := r.ended .timeout
  providerCancellations := r.ended .cancelled
  providerReportedInputTokens := reportedSum (r.terminal.map (·.inputTokens))
  providerReportedOutputTokens := reportedSum (r.terminal.map (·.outputTokens))
  providerReportedTotalTokens := r.totalTokens
  tokenUsageComplete := r.tokenUsageComplete
  tokenUsageMissingCallCount := r.terminal.countP (·.usageMissing)
  remainingProviderCalls := binding.authorizedProviderCallCeiling - r.invocations.length
  thresholdExhausted := r.thresholdExhausted binding
  tokenOvershoot := r.tokenOvershoot binding
  stopReason := r.stopReasonInForce binding
  lastLogicalRunKey := r.invocations.getLast?.map (·.logicalRunKey)
  invocations := r.invocations
  attemptedCount := rfl
  remainingCount := rfl
  completedAtMost := r.ended_le .completed
  thresholdConfigured := by
    intro h
    unfold thresholdExhausted at h
    cases hthreshold : binding.tokenThreshold with
    | none => simp [hthreshold] at h
    | some t => rfl

@[simp] theorem snapshot_invocations (binding : DevelopmentBudgetBinding) :
    (r.snapshot binding).invocations = r.invocations := rfl

end LedgerReplay

variable [LedgerDigest]

/-- `_validate_event_binding`. -/
def validateEventBinding (binding : DevelopmentBudgetBinding) (events : List LedgerEvent) :
    Except LedgerError Unit :=
  if events.any fun e => e.bindingDigest ≠ LedgerDigest.bindingDigest binding then
    .error .bindingDiffers
  else match events.head?.map LedgerEvent.payload with
    | some (.initialized persisted) =>
      if persisted ≠ binding then .error .bindingPayloadDiffers else .ok ()
    | _ => .error .notInitialized

/-- `_rebuild`. -/
def rebuildLedger (binding : DevelopmentBudgetBinding) (events : List LedgerEvent) :
    Except LedgerError DevelopmentBudgetLedgerSnapshot :=
  (validateEventBinding binding events).bind fun _ =>
    (LedgerReplay.start.run events.tail).map fun r => r.snapshot binding

/-- What an operation reads before it decides. -/
def readState (binding : DevelopmentBudgetBinding) (file : List LedgerEvent) :
    Except LedgerError DevelopmentBudgetLedgerSnapshot :=
  (loadEvents file).bind (rebuildLedger binding)

/-! ### Operations -/

def ledgerEvent (binding : DevelopmentBudgetBinding) (payload : LedgerPayload) : LedgerEvent :=
  ⟨LedgerDigest.bindingDigest binding, payload⟩

def LedgerEvent.isStop (e : LedgerEvent) : Bool :=
  match e.payload with
  | .stop _ _ => true
  | _ => false

structure DevelopmentBudgetAdmission where
  granted : Bool
  invocationId : Option String
  reason : String
  remainingProviderCalls : Nat

def LedgerStopReason.text : LedgerStopReason → String
  | .providerBudgetExhausted => "provider_budget_exhausted"
  | .providerInvocationIncomplete => "provider_invocation_incomplete"
  | .tokenThresholdExhausted => "token_threshold_exhausted"
  | .tokenUsageUnavailable => "token_usage_unavailable"

namespace DevelopmentBudgetLedger

variable (binding : DevelopmentBudgetBinding)

/-- `__init__`: what it appends, or why there is no instance. -/
def init (file : List LedgerEvent) : Except LedgerError (List LedgerEvent) :=
  (loadEvents file).bind fun events =>
    if events.isEmpty then .ok [ledgerEvent binding (.initialized binding)]
    else
      (rebuildLedger binding events).map fun state =>
        if state.stopReason = some .providerInvocationIncomplete ∧ ¬ events.any LedgerEvent.isStop then
          [ledgerEvent binding (.stop .providerInvocationIncomplete none)]
        else []

/-- `snapshot`. -/
def snapshot (file : List LedgerEvent) : Except LedgerError DevelopmentBudgetLedgerSnapshot :=
  (loadEvents file).bind fun events =>
    if events.isEmpty then .error .unexpectedlyEmpty else rebuildLedger binding events

/-- The answer of a denied admission. -/
def denied (state : DevelopmentBudgetLedgerSnapshot) (invocationId : Option String)
    (reason : String) : DevelopmentBudgetAdmission :=
  ⟨false, invocationId, reason, state.remainingProviderCalls⟩

/-- Why a state admits no further call of a run, whatever its turn. -/
def denialReason (state : DevelopmentBudgetLedgerSnapshot) (logicalRunKey : String) :
    Option String :=
  if state.thresholdExhausted then some "token_threshold_exhausted"
  else if state.stopReason = some .tokenUsageUnavailable then some "token_usage_unavailable"
  else match state.stopReason with
    | some reason => some reason.text
    | none =>
      if binding.authorizedProviderCallCeiling ≤ state.attemptedProviderCalls then
        some "provider_budget_exhausted"
      else if binding.authorizedProviderCallCeilingPerRun ≤
          state.invocations.countP (·.logicalRunKey = logicalRunKey) then
        some "provider_budget_exhausted"
      else none

/-- The invocation an admission writes. -/
def newInvocation (logicalRunKey : String) (selectorTurn : Nat) (now : Instant)
    (hkey : logicalRunKey ≠ "") (hturn : 1 ≤ selectorTurn ∧ selectorTurn ≤ 16) :
    DevelopmentBudgetInvocation where
  invocationId := LedgerDigest.invocationId (LedgerDigest.bindingDigest binding) logicalRunKey
    selectorTurn
  logicalRunKey := logicalRunKey
  selectorTurn := selectorTurn
  status := .admitted
  outputTokenCap := binding.outputTokenCapPerInvocation
  admittedAt := now
  completedAt := none
  inputTokens := none
  outputTokens := none
  totalTokens := none
  errorCode := none
  keyed := hkey
  turnBounds := hturn
  capPositive := binding.capPositive
  completedIff := by simp
  inOrder := by simp

/-- What a state answers to an admission, and what it appends. -/
def decideAdmission (state : DevelopmentBudgetLedgerSnapshot)
    (invocation : DevelopmentBudgetInvocation) : DevelopmentBudgetAdmission × List LedgerEvent :=
  match state.invocations.find? fun i => i.runTurn = invocation.runTurn with
  | some existing =>
    (denied state (some existing.invocationId) "replay_invocation_already_consumed", [])
  | none =>
    match denialReason binding state invocation.logicalRunKey with
    | some reason => (denied state none reason, [])
    | none =>
      (⟨true, some invocation.invocationId, "admitted",
          binding.authorizedProviderCallCeiling - state.attemptedProviderCalls - 1⟩,
        [ledgerEvent binding (.admitted invocation)])

/-- `admit_provider_call`: its answer and what it appends. -/
def admitProviderCall (logicalRunKey : String) (selectorTurn : Nat) (now : Instant)
    (file : List LedgerEvent) :
    Except LedgerError (DevelopmentBudgetAdmission × List LedgerEvent) :=
  if hkey : logicalRunKey = "" then .error .runKeyRequired
  else if hturn : 1 ≤ selectorTurn ∧ selectorTurn ≤ 16 then
    (readState binding file).map fun state =>
      decideAdmission binding state (newInvocation binding logicalRunKey selectorTurn now hkey hturn)
  else .error .selectorTurnOutside

/-- A usage field as the provider reports it. -/
inductive UsageField where
  | missing
  | integer (value : Int)
  | other
  deriving DecidableEq

/-- `_usage_value`. -/
def usageValue : UsageField → Except LedgerError (Option Nat)
  | .missing => .ok none
  | .integer value => if value < 0 then .error .usageNegative else .ok (some value.toNat)
  | .other => .error .usageNotInteger

structure ProviderUsage where
  inputTokens : UsageField
  outputTokens : UsageField
  totalTokens : UsageField

/-- What `complete_provider_call` is given. -/
structure CompletionRequest where
  invocationId : String
  logicalRunKey : String
  status : TerminalStatus
  usage : ProviderUsage
  errorCode : Option String
  now : Instant

/-- The completion a request records, if its usage is well formed. -/
def CompletionRequest.completion (request : CompletionRequest) : Except LedgerError LedgerCompletion :=
  (usageValue request.usage.inputTokens).bind fun input =>
    (usageValue request.usage.outputTokens).bind fun output =>
      (usageValue request.usage.totalTokens).map fun total =>
        { invocationId := request.invocationId
          status := request.status
          completedAt := request.now
          inputTokens := input
          outputTokens := output
          totalTokens := total
          errorCode := request.errorCode }

/-- `complete_provider_call` up to its first append: the state it read, and the completion it
    records unless the invocation is terminal already. -/
def beginCompletion (request : CompletionRequest) (file : List LedgerEvent) :
    Except LedgerError (DevelopmentBudgetLedgerSnapshot × Option LedgerCompletion) :=
  (readState binding file).bind fun state =>
    match Keyed.find DevelopmentBudgetInvocation.invocationId request.invocationId
        state.invocations with
    | none => .error .unknownInvocation
    | some current =>
      if current.logicalRunKey ≠ request.logicalRunKey then .error .runKeyDiffers
      else if current.status ≠ .admitted then .ok (state, none)
      else request.completion.map fun completion => (state, some completion)

/-- The stop event that `complete_provider_call` appends after a completion. -/
def completionStop (request : CompletionRequest) (state updated : DevelopmentBudgetLedgerSnapshot) :
    List LedgerEvent :=
  match updated.stopReason with
  | none => []
  | some reason =>
    if state.stopReason = some reason then []
    else [ledgerEvent binding (.stop reason (some request.logicalRunKey))]

/-- `complete_provider_call`: its answer and what it appends, also when it raises after its first
    append. -/
def completeProviderCall (request : CompletionRequest) (file : List LedgerEvent) :
    Except LedgerError DevelopmentBudgetLedgerSnapshot × List LedgerEvent :=
  match beginCompletion binding request file with
  | .error e => (.error e, [])
  | .ok (state, none) => (.ok state, [])
  | .ok (state, some completion) =>
    let recorded := ledgerEvent binding (.completed completion)
    match readState binding (file ++ [recorded]) with
    | .error e => (.error e, [recorded])
    | .ok updated =>
      let events := recorded :: completionStop binding request state updated
      (readState binding (file ++ events), events)

/-- `force_stop_reason`: its answer and what it appends. -/
def forceStopReason (reason : LedgerStopReason) (file : List LedgerEvent) :
    Except LedgerError DevelopmentBudgetLedgerSnapshot × List LedgerEvent :=
  match readState binding file with
  | .error e => (.error e, [])
  | .ok state =>
    let events :=
      if state.stopReason ≠ some reason then [ledgerEvent binding (.stop reason none)] else []
    (readState binding (file ++ events), events)

end DevelopmentBudgetLedger

/-! ### Processes over one file -/

/-- An operation of a process. A process may end right after a completion is durable, before the
    stop event that follows it. -/
inductive LedgerOperation where
  | «open» (binding : DevelopmentBudgetBinding)
  | admitProviderCall (binding : DevelopmentBudgetBinding) (logicalRunKey : String)
      (selectorTurn : Nat)
      (now : Instant)
  | complete (binding : DevelopmentBudgetBinding)
      (request : DevelopmentBudgetLedger.CompletionRequest) (crashes : Bool)
  | forceStop (binding : DevelopmentBudgetBinding) (reason : LedgerStopReason)
  | snapshot (binding : DevelopmentBudgetBinding)

/-- The file and the bindings of the instances that were opened on it. -/
structure LedgerSystem where
  file : List LedgerEvent
  instances : List DevelopmentBudgetBinding

namespace LedgerSystem

def empty : LedgerSystem := ⟨[], []⟩

/-- What an instance appends. An instance that was never opened does nothing. -/
def appendBy (s : LedgerSystem) (binding : DevelopmentBudgetBinding) (events : List LedgerEvent) :
    LedgerSystem :=
  if binding ∈ s.instances then { s with file := s.file ++ events } else s

/-- One operation under the lock. -/
def step (s : LedgerSystem) : LedgerOperation → LedgerSystem
  | .open binding =>
    match DevelopmentBudgetLedger.init binding s.file with
    | .error _ => s
    | .ok events => ⟨s.file ++ events, binding :: s.instances⟩
  | .admitProviderCall binding logicalRunKey selectorTurn now =>
    match DevelopmentBudgetLedger.admitProviderCall binding logicalRunKey selectorTurn now s.file with
    | .error _ => s
    | .ok (_, events) => s.appendBy binding events
  | .complete binding request crashes =>
    let events := (DevelopmentBudgetLedger.completeProviderCall binding request s.file).2
    s.appendBy binding (if crashes then events.take 1 else events)
  | .forceStop binding reason =>
    s.appendBy binding (DevelopmentBudgetLedger.forceStopReason binding reason s.file).2
  | .snapshot _ => s

def run (s : LedgerSystem) (operations : List LedgerOperation) : LedgerSystem :=
  operations.foldl step s

end LedgerSystem

end AfterSales
