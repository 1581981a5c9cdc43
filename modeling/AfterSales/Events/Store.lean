import AfterSales.Domain.State
import AfterSales.Policy.Corpus
import Mathlib.Data.Finset.Basic
import Mathlib.Data.List.Sort

/-! The canonical event store: a persisted log per conversation, with live fan-out.

    `append` numbers an event and commits it before it notifies anyone; from the commit to the last
    queue nothing else runs. A subscriber registers its queue, replays the log in pages, and then
    waits on the queue. It may be suspended at every event it yields and whenever the queue is
    empty, so appends fall between any two of its steps:

        register ─▶ page ─▶ yield … yield ─▶ page ─▶ … ─▶ live queue

    The queue repeats what was replayed meanwhile; the cursor of the subscriber skips it. -/

namespace AfterSales

inductive EventVisibility where | customer | developer | both
  deriving DecidableEq, Repr

/-- `_EVENT_TYPE_PATTERN`. -/
def isEventType (text : String) : Bool :=
  match text.toList with
  | [] => false
  | first :: rest => first.isLower && rest.all (fun c => c.isLower || c.isDigit || c = '_') &&
      decide (rest.length ≤ 95)

/-- What a JSON column accepts. -/
class EventPayload (P : Type) where
  storable : P → Bool

/-- An event before its number in the conversation is assigned. -/
structure EventDraft (P : Type) where
  conversationId : String
  eventType : String
  visibility : EventVisibility
  summary : String
  payload : P
  evidenceRefs : List P
  caseId : Option String
  runId : Option String
  schemaVersion : Nat
  timestamp : Option Instant
  eventId : String
  namesConversation : conversationId ≠ ""
  namesType : isEventType eventType
  versioned : 1 ≤ schemaVersion
  summarized : summary ≠ ""

structure EventEnvelope (P : Type) where
  schemaVersion : Nat
  eventId : String
  sequence : Nat
  timestamp : Instant
  conversationId : String
  caseId : Option String
  runId : Option String
  eventType : String
  visibility : EventVisibility
  summary : String
  payload : P
  evidenceRefs : List P
  deriving DecidableEq

/-- Why an append is rolled back. -/
inductive AppendError where
  | conversationNotFound
  | integrity
  | unserializable
  deriving DecidableEq, Repr

/-- The two tables: the next event number of each conversation, and the rows in commit order. -/
structure EventTables (P : Type) where
  nextEventSequence : String → Option Nat
  rows : List (EventEnvelope P)

namespace EventTables

variable {P : Type}

def empty : EventTables P := ⟨fun _ => none, []⟩

/-- A new conversation counts its events from zero. -/
def createConversation (t : EventTables P) (conversationId : String) : EventTables P :=
  { t with nextEventSequence := Function.update t.nextEventSequence conversationId (some 0) }

/-- The row of a draft that took its number. -/
def row (draft : EventDraft P) (sequence : Nat) (now : Instant) : EventEnvelope P where
  schemaVersion := draft.schemaVersion
  eventId := draft.eventId
  sequence := sequence
  timestamp := draft.timestamp.getD now
  conversationId := draft.conversationId
  caseId := draft.caseId
  runId := draft.runId
  eventType := draft.eventType
  visibility := draft.visibility
  summary := draft.summary
  payload := draft.payload
  evidenceRefs := draft.evidenceRefs

/-- The transaction of `append`. A refused one takes its number back. -/
def append [EventPayload P] (t : EventTables P) (draft : EventDraft P) (now : Instant) :
    Except AppendError (EventEnvelope P × EventTables P) :=
  match t.nextEventSequence draft.conversationId with
  | none => .error .conversationNotFound
  | some current =>
    let event := row draft (current + 1) now
    if ¬ (EventPayload.storable draft.payload && draft.evidenceRefs.all EventPayload.storable) then
      .error .unserializable
    else if t.rows.any fun r => r.eventId = event.eventId ∨
        r.conversationId = event.conversationId ∧ r.sequence = event.sequence then
      .error .integrity
    else .ok (event,
      { nextEventSequence :=
          Function.update t.nextEventSequence draft.conversationId (some (current + 1))
        rows := t.rows ++ [event] })

/-- The events of a conversation, in commit order. -/
def events (t : EventTables P) (conversationId : String) : List (EventEnvelope P) :=
  t.rows.filter fun r => r.conversationId = conversationId

/-- The statement of `list_after`. -/
def listAfter (t : EventTables P) (conversationId : String) (afterSequence limit : Nat) :
    List (EventEnvelope P) :=
  (((t.rows.filter fun r => r.conversationId = conversationId ∧ afterSequence < r.sequence)
    ).insertionSort fun a b => a.sequence ≤ b.sequence).take limit

/-- The events of a conversation that belong to a case and to a run, where these are given. -/
def inScope (conversationId : String) (caseId runId : Option String) (r : EventEnvelope P) : Bool :=
  r.conversationId = conversationId ∧ (∀ c ∈ caseId, r.caseId = some c) ∧
    ∀ i ∈ runId, r.runId = some i

/-- The references of an event, if it ends a read. -/
def linkedRefs (r : EventEnvelope P) : List P :=
  if r.eventType = "tool_call_completed" ∨ r.eventType = "tool_call_cache_hit" then r.evidenceRefs
  else []

/-- `list_evidence_refs`. -/
def listEvidenceRefs (t : EventTables P) (conversationId : String) (caseId runId : Option String) :
    List P :=
  ((t.rows.filter (inScope conversationId caseId runId)).insertionSort
    fun a b => a.sequence ≤ b.sequence).flatMap linkedRefs

end EventTables

/-- Where a subscriber is between two suspensions. A page remembers whether it was short. -/
inductive SubscriptionPhase (P : Type) where
  | paging
  | page (rest : List (EventEnvelope P)) (short : Bool)
  | live
  | closed

/-- One `subscribe`, with the events it has yielded. -/
structure Subscription (P : Type) where
  conversationId : String
  afterSequence : Nat
  cursor : Nat
  phase : SubscriptionPhase P
  received : List (EventEnvelope P)

namespace Subscription

variable {P : Type}

def start (conversationId : String) (afterSequence : Nat) : Subscription P :=
  ⟨conversationId, afterSequence, afterSequence, .paging, []⟩

/-- An event past the cursor is yielded, any other is dropped. -/
def offer (sub : Subscription P) (event : EventEnvelope P) : Subscription P :=
  if sub.cursor < event.sequence then
    { sub with cursor := event.sequence, received := sub.received ++ [event] }
  else sub

def pageSize : Nat := 500

/-- The page after the cursor; an empty one ends the replay. -/
def turnTo (sub : Subscription P) (batch : List (EventEnvelope P)) : Subscription P :=
  if batch.isEmpty then { sub with phase := .live }
  else { sub with phase := .page batch (decide (batch.length < pageSize)) }

end Subscription

/-- The store of one process, over tables that outlive it. A queue is named by its number. -/
structure EventStore (P : Type) where
  tables : EventTables P
  subscribers : String → Finset Nat
  queues : Nat → List (EventEnvelope P)
  subscriptions : Nat → Option (Subscription P)
  nextQueue : Nat

namespace EventStore

variable {P : Type}

/-- A process that opens the tables. -/
def opened (tables : EventTables P) : EventStore P :=
  ⟨tables, fun _ => ∅, fun _ => [], fun _ => none, 0⟩

def events (s : EventStore P) (conversationId : String) : List (EventEnvelope P) :=
  s.tables.events conversationId

/-- `publish`: every registered queue of the conversation receives the event. -/
def publish (s : EventStore P) (event : EventEnvelope P) : EventStore P :=
  { s with queues := fun q =>
      if q ∈ s.subscribers event.conversationId then s.queues q ++ [event] else s.queues q }

/-- `append`, from the commit to the last queue. -/
def append [EventPayload P] (s : EventStore P) (draft : EventDraft P) (now : Instant) :
    Except AppendError (EventStore P) :=
  match s.tables.append draft now with
  | .error e => .error e
  | .ok (event, tables) => .ok ({ s with tables := tables }.publish event)

/-- The start of `subscribe`: a new queue is registered before anything is replayed. -/
def subscribe (s : EventStore P) (conversationId : String) (afterSequence : Nat) : EventStore P :=
  { s with
    subscribers := Function.update s.subscribers conversationId
      (insert s.nextQueue (s.subscribers conversationId))
    queues := Function.update s.queues s.nextQueue []
    subscriptions :=
      Function.update s.subscriptions s.nextQueue (some (.start conversationId afterSequence))
    nextQueue := s.nextQueue + 1 }

def setSubscription (s : EventStore P) (q : Nat) (sub : Subscription P) : EventStore P :=
  { s with subscriptions := Function.update s.subscriptions q (some sub) }

/-- The next step of a subscriber; `none` while it waits on an empty queue, or has ended. -/
def advance (s : EventStore P) (q : Nat) : Option (EventStore P) :=
  (s.subscriptions q).bind fun sub =>
    match sub.phase with
    | .paging => some (s.setSubscription q
        (sub.turnTo (s.tables.listAfter sub.conversationId sub.cursor Subscription.pageSize)))
    | .page [] short => some (s.setSubscription q
        { sub with phase := if short then .live else .paging })
    | .page (event :: rest) short => some (s.setSubscription q
        ({ sub with phase := .page rest short }.offer event))
    | .live =>
      match s.queues q with
      | [] => none
      | event :: rest => some ({ s with queues := Function.update s.queues q rest }.setSubscription q
          (sub.offer event))
    | .closed => none

/-- The `finally` of a subscriber that is cancelled. -/
def unsubscribe (s : EventStore P) (q : Nat) (sub : Subscription P) : EventStore P :=
  { s.setSubscription q { sub with phase := .closed } with
    subscribers := Function.update s.subscribers sub.conversationId
      ((s.subscribers sub.conversationId).erase q) }

/-- The sections of code that run without suspension, in any order. -/
inductive Step [EventPayload P] (s : EventStore P) : EventStore P → Prop where
  | createConversation (conversationId : String)
      (h : s.tables.nextEventSequence conversationId = none) :
      Step s { s with tables := s.tables.createConversation conversationId }
  | append (draft : EventDraft P) (now : Instant) {s' : EventStore P}
      (h : s.append draft now = .ok s') : Step s s'
  | appendFails (draft : EventDraft P) (now : Instant) {e : AppendError}
      (h : s.append draft now = .error e) : Step s s
  | subscribe (conversationId : String) (afterSequence : Nat) :
      Step s (s.subscribe conversationId afterSequence)
  | advance (q : Nat) {s' : EventStore P} (h : s.advance q = some s') : Step s s'
  | unsubscribe (q : Nat) {sub : Subscription P} (h : s.subscriptions q = some sub) :
      Step s (s.unsubscribe q sub)
  | restart : Step s (opened s.tables)

/-- The states of a store whose tables began empty. -/
inductive Reachable [EventPayload P] : EventStore P → Prop where
  | init : Reachable (opened .empty)
  | step {s s' : EventStore P} (h : Reachable s) (hstep : Step s s') : Reachable s'

/-- The subscriber waits on an empty live queue. -/
def Suspended (s : EventStore P) (q : Nat) : Prop :=
  ∃ sub, s.subscriptions q = some sub ∧ sub.phase = .live ∧ s.queues q = []

/-- The steps of one subscriber alone. -/
inductive Pulls (q : Nat) (s : EventStore P) : EventStore P → Prop where
  | refl : Pulls q s s
  | step {t u : EventStore P} (h : Pulls q s t) (hadvance : t.advance q = some u) : Pulls q s u

end EventStore

end AfterSales
