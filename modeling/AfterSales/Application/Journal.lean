import AfterSales.Application.Operations

/-! The journal of a conversation: what its log tells of its runs, step by step.

    A run is queued, started and ended in transactions of their own; the events that tell it follow
    one by one. The journal is a second machine that the operations follow. It knows which run is
    open, and which events are still to be appended:

        blank ─▶ opened ─▶ closed ─▶ blank        opened ─▶ acting ─▶ closed        opened ─▶ lost

    It asks nothing of the rows, so that it also goes with transactions that raise; which of them
    can raise is the matter of the first machine. -/

namespace AfterSales
open Interleave Repository

variable [PolicyDigest]

/-! ### Events of runs -/

/-- The events that tell that a run began or ended, or that its action failed. -/
def ServiceEvent.ofRun (e : ServiceEvent) : Bool :=
  e.eventType ∈ ["run_started", "run_succeeded", "run_failed", "action_failed"]

/-- The events that tell what the gate decided. -/
def ServiceEvent.ofGate (e : ServiceEvent) : Bool := e.eventType = "evidence_gate_evaluated"

namespace ServiceEvent

variable (runId : RowId) (caseId : Option RowId)

/-- The events of the life of a run. -/
def runStarted : ServiceEvent :=
  ⟨"run_started", .developer, caseId, some runId, none, none, false⟩

def runSucceeded : ServiceEvent :=
  ⟨"run_succeeded", .developer, caseId, some runId, none, none, false⟩

def runFailed : ServiceEvent := ⟨"run_failed", .both, caseId, some runId, none, none, false⟩

/-- The event of an action that a scripted fault stopped. -/
def actionFailed (fault : ActionFixtureFault) : ServiceEvent :=
  ⟨"action_failed", .both, caseId, some runId, some (Service.faultDisposition fault), none,
    fault.actionState = .failedRetryable⟩

end ServiceEvent

/-- What is still to be told after the outcome of an action was recorded. -/
def dueAfterOutcome (runId caseId : RowId) (fault : Option ActionFixtureFault) :
    List ServiceEvent :=
  ((fault.filter (·.actionState ≠ .uncertain)).map (ServiceEvent.actionFailed runId (some caseId))
    ).toList ++ [.runSucceeded runId (some caseId)]

/-- The state of a run. -/
def ConversationStore.runStateOf (l : ConversationStore) (runId : RowId) : Option RunState :=
  (l.runs runId).map (·.runState)

/-! ### The machine -/

/-- Where the journal is. -/
inductive JournalPoint where
  /-- No run is open, and nothing is to be told. -/
  | blank
  /-- A run is queued or running. -/
  | opened (runId : RowId) (caseId : Option RowId) (due : List ServiceEvent)
  /-- The action of a run is submitted. -/
  | acting (runId caseId : RowId) (fault : Option ActionFixtureFault)
  /-- A run has ended. -/
  | closed (runId : RowId) (caseId : Option RowId) (due : List ServiceEvent)
  /-- A run has ended, and no event will tell it. -/
  | lost (runId : RowId) (caseId : Option RowId)

namespace JournalPoint

/-- What is still to be told. -/
def due : JournalPoint → List ServiceEvent
  | opened _ _ due | closed _ _ due => due
  | _ => []

/-- An event that may be appended: it is about the run at hand, and names no other case. -/
def About (e : ServiceEvent) : JournalPoint → Prop
  | blank => e.runId = none ∧ e.caseId = none
  | opened runId caseId _ | closed runId caseId _ | lost runId caseId =>
    e.runId = some runId ∧ ∀ c ∈ e.caseId, caseId = some c
  | acting runId caseId _ => e.runId = some runId ∧ ∀ c ∈ e.caseId, caseId = c

/-- Nothing is left to be told. -/
def Over (p : JournalPoint) : Prop :=
  p = blank ∨ ∃ runId caseId, p = closed runId caseId [] ∨ p = lost runId caseId

end JournalPoint

/-- The labels of steps that change no run and append no event of one. -/
def Label.quiet : Label → Bool
  | .record | .progress | .explore _ _ _ | .load _ | .read _ | .park _ _ _ | .review _ _
  | .reviewDecline _ _ => true
  | _ => false

/-- The labels of steps that submit a write. -/
def Label.submits : Label → Bool
  | .submit _ => true
  | _ => false

/-- The labels of steps with which a run succeeds. -/
def Label.finishes : Label → Bool
  | .finish | .settle _ _ _ | .reviewDecline _ _ => true
  | _ => false

/-- The case that a queued run is for. -/
def Label.Queues (l : ConversationStore) (caseId : Option RowId) : Label → Prop
  | .receive => caseId = l.activeCase.map (·.1)
  | .retry c => caseId = some c
  | .answer proposalId => caseId = some proposalId.caseId
  | _ => False

/-- One run changes its state; the log stays as it is. -/
structure RunBecomes (runId : RowId) (runState : RunState) (l l' : ConversationStore) : Prop where
  events : l'.events = l.events
  state : l'.runStateOf runId = some runState
  others : ∀ r, r ≠ runId → l'.runStateOf r = l.runStateOf r

/-- Events are appended, and no run changes its state. -/
structure AppendsEvents (events : List ServiceEvent) (l l' : ConversationStore) : Prop where
  events : l'.events = l.events ++ events
  runs : l'.runStateOf = l.runStateOf

/-- The moves of the journal. -/
inductive JournalMove (settings : Settings) (k : String) :
    Label → JournalPoint → ServiceState → JournalPoint → ServiceState → Prop
  /-- The conversation is as it was. -/
  | same {label : Label} {p : JournalPoint} {x y : ServiceState} (same : y.1 = x.1)
      (told : label.submits → p.due = []) : JournalMove settings k label p x p y
  | quiet {label : Label} {p : JournalPoint} {x y : ServiceState} {events : List ServiceEvent}
      (label_ : label.quiet) (appends : AppendsEvents events x.1 y.1)
      (about : ∀ e ∈ events, p.About e) (silent : ∀ e ∈ events, ¬ e.ofRun ∧ ¬ e.ofGate) :
      JournalMove settings k label p x p y
  | gate {p : JournalPoint} {x y : ServiceState} {events : List ServiceEvent} (told : p.due = [])
      (appends : AppendsEvents events x.1 y.1) (about : ∀ e ∈ events, p.About e)
      (silent : ∀ e ∈ events, ¬ e.ofRun) : JournalMove settings k .evaluate p x p y
  | note {p : JournalPoint} {x y : ServiceState} {e : ServiceEvent} (appends : AppendsEvents [e] x.1 y.1)
      (about : p.About e) (silent : ¬ e.ofRun ∧ ¬ e.ofGate) : JournalMove settings k .event p x p y
  | tellOpened {runId : RowId} {caseId : Option RowId} {e : ServiceEvent} {due : List ServiceEvent}
      {x y : ServiceState} (appends : AppendsEvents [e] x.1 y.1) :
      JournalMove settings k .event (.opened runId caseId (e :: due)) x (.opened runId caseId due) y
  | tellClosed {runId : RowId} {caseId : Option RowId} {e : ServiceEvent} {due : List ServiceEvent}
      {x y : ServiceState} (appends : AppendsEvents [e] x.1 y.1) :
      JournalMove settings k .event (.closed runId caseId (e :: due)) x (.closed runId caseId due) y
  | queue {label : Label} {caseId : Option RowId} {x y : ServiceState}
      (names : label.Queues x.1 caseId)
      (becomes : RunBecomes ⟨k, x.1.nextSerial⟩ .queued x.1 y.1) :
      JournalMove settings k label .blank x (.opened ⟨k, x.1.nextSerial⟩ caseId
        [.runStarted ⟨k, x.1.nextSerial⟩ caseId]) y
  | start {runId : RowId} {caseId : Option RowId} {due : List ServiceEvent} {x y : ServiceState}
      (becomes : RunBecomes runId .running x.1 y.1) :
      JournalMove settings k .start (.opened runId caseId due) x (.opened runId caseId due) y
  | bind {runId : RowId} {x y : ServiceState} (appends : AppendsEvents [] x.1 y.1) :
      JournalMove settings k .openCase (.opened runId none []) x
        (.opened runId (some ⟨k, x.1.nextSerial⟩) []) y
  | finish {label : Label} {runId : RowId} {caseId : Option RowId} {x y : ServiceState}
      (label_ : label.finishes) (becomes : RunBecomes runId .succeeded x.1 y.1) :
      JournalMove settings k label (.opened runId caseId []) x
        (.closed runId caseId [.runSucceeded runId caseId]) y
  | submit {runId caseId : RowId} {actionId : ActionId} {x y : ServiceState}
      (appends : AppendsEvents [] x.1 y.1) :
      JournalMove settings k (.submit actionId) (.opened runId (some caseId) []) x
        (.acting runId caseId (x.2.fixtures.consumeActionFault settings.faultSeed).2) y
  | outcome {runId caseId : RowId} {fault : Option ActionFixtureFault} {actionId : ActionId}
      {x y : ServiceState} (becomes : RunBecomes runId .succeeded x.1 y.1) :
      JournalMove settings k (.outcome actionId) (.acting runId caseId fault) x
        (.closed runId (some caseId) (dueAfterOutcome runId caseId fault)) y
  | fail {runId : RowId} {caseId : Option RowId} {x y : ServiceState}
      (becomes : RunBecomes runId .failed x.1 y.1) :
      JournalMove settings k (.fail "run_failed") (.opened runId caseId []) x
        (.closed runId caseId [.runFailed runId caseId]) y
  | lose {runId : RowId} {caseId : Option RowId} {eventType : String} {x y : ServiceState}
      (other : eventType ≠ "run_failed") (becomes : RunBecomes runId .failed x.1 y.1) :
      JournalMove settings k (.fail eventType) (.opened runId caseId []) x (.lost runId caseId) y

/-- The journal of one conversation. -/
def journal (settings : Settings) (k : String) :
    Machine JournalPoint ConversationStore SharedState Label Response where
  idle := .blank
  ended
    | .ok _, p => ∃ runId caseId, p = .closed runId caseId []
    | .error e, p => e.isApplication → p.Over
  inv _ _ _ := True
  move label p x p' y := JournalMove settings k label p x p' y

end AfterSales
