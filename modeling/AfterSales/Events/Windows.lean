import AfterSales.Events.Delivery

/-! What is read off one page of the event log.

    `list_after` answers with one page. Three of its readers never turn to the next one:

        planning turns of a run       first 5000 events of the conversation
        gate payload of a run         first  500 events
        events without `follow`       first  500 events after the cursor

    Each of them sees the whole log exactly when nothing it looks for lies past its page. -/

namespace AfterSales

variable {P : Type}

/-! ### The readers -/

/-- The event starts a planning turn of a run. -/
def EventEnvelope.isTurnOf (runId : String) (e : EventEnvelope P) : Bool :=
  e.runId = some runId ∧ e.eventType = "agent_turn_started"

/-- The event records a gate result of a run. -/
def EventEnvelope.isGateOf (runId : String) (e : EventEnvelope P) : Bool :=
  e.runId = some runId ∧ e.eventType = "evidence_gate_evaluated"

/-- The planning turns of a run in a log. -/
def planningTurns (log : List (EventEnvelope P)) (runId : String) : Nat :=
  log.countP (·.isTurnOf runId)

/-- The payload of the last gate event of a run in a log. -/
def gatePayload (log : List (EventEnvelope P)) (runId : String) : Option P :=
  log.foldl (fun payload e => if e.isGateOf runId then some e.payload else payload) none

namespace EventTables

/-- The default limit of a page. -/
def defaultLimit : Nat := 500

/-- The largest limit of a page. -/
def maxLimit : Nat := 5000

/-- The planning turns that `_observed_run_usage` counts. -/
def observedTurns (t : EventTables P) (conversationId runId : String) : Nat :=
  planningTurns (t.listAfter conversationId 0 maxLimit) runId

/-- `persisted_gate_payload` of a new coordinator. -/
def persistedGatePayload (t : EventTables P) (conversationId runId : String) : Option P :=
  gatePayload (t.listAfter conversationId 0 defaultLimit) runId

/-- Why `conversation_events` answers no stream. -/
inductive ReplayError where | conversationNotFound | eventCursorNotFound
  deriving DecidableEq, Repr

/-- The number of the event that a client has seen last; a missing or empty id is the start. -/
def afterSequence (t : EventTables P) (conversationId : String) (lastEventId : Option String) :
    Except ReplayError Nat :=
  if t.nextEventSequence conversationId = none then .error .conversationNotFound
  else
    match lastEventId.filter (· ≠ "") with
    | none => .ok 0
    | some id =>
      match t.rows.find? (·.eventId = id) with
      | none => .error .eventCursorNotFound
      | some event =>
        if event.conversationId ≠ conversationId then .error .eventCursorNotFound
        else .ok event.sequence

/-- `conversation_events` without `follow`. -/
def conversationEvents (t : EventTables P) (conversationId : String)
    (lastEventId : Option String) : Except ReplayError (List (EventEnvelope P)) :=
  (t.afterSequence conversationId lastEventId).map fun cursor =>
    t.listAfter conversationId cursor defaultLimit

end EventTables

/-! ### A page of a log -/

/-- A count over the first elements is the whole count when no later one counts. -/
theorem countP_take_eq_iff {α : Type} (p : α → Bool) (n : Nat) (l : List α) :
    (l.take n).countP p = l.countP p ↔ ∀ a ∈ l.drop n, ¬ p a := by
  have hsplit : l.countP p = (l.take n).countP p + (l.drop n).countP p := by
    rw [← List.countP_append, List.take_append_drop]
  rw [hsplit, ← List.countP_eq_zero]
  omega

theorem gatePayload_concat (log : List (EventEnvelope P)) (e : EventEnvelope P) (runId : String) :
    gatePayload (log ++ [e]) runId =
      if e.isGateOf runId then some e.payload else gatePayload log runId := by
  rw [gatePayload, List.foldl_append, List.foldl_cons, List.foldl_nil, gatePayload]

theorem gatePayload_append (log later : List (EventEnvelope P)) (runId : String) :
    gatePayload (log ++ later) runId = (gatePayload later runId).or (gatePayload log runId) := by
  induction later using List.reverseRecOn with
  | nil => rw [List.append_nil]; rfl
  | append_singleton later e ih =>
    rw [← List.append_assoc, gatePayload_concat, gatePayload_concat, ih]
    split_ifs
    · rfl
    · rfl

/-- The last gate payload of a page is that of the log when later gate events repeat it. -/
theorem gatePayload_take_eq_iff (n : Nat) (log : List (EventEnvelope P)) (runId : String) :
    gatePayload (log.take n) runId = gatePayload log runId ↔
      ∀ payload, gatePayload (log.drop n) runId = some payload →
        gatePayload (log.take n) runId = some payload := by
  have hsplit : gatePayload log runId =
      (gatePayload (log.drop n) runId).or (gatePayload (log.take n) runId) := by
    rw [← gatePayload_append, List.take_append_drop]
  rw [hsplit]
  cases gatePayload (log.drop n) runId with
  | none => simp
  | some payload => simp

namespace EventStore

variable [EventPayload P]

/-- In every store that appends reach, a reader of one page sees the whole log exactly when nothing
    that it looks for lies past the page. -/
theorem windows_see_whole_log_iff (s : EventStore P) (h : Reachable s)
    (conversationId runId : String) :
    (s.tables.observedTurns conversationId runId =
        planningTurns (s.events conversationId) runId ↔
      ∀ e ∈ (s.events conversationId).drop EventTables.maxLimit, ¬ e.isTurnOf runId) ∧
    (s.tables.persistedGatePayload conversationId runId =
        gatePayload (s.events conversationId) runId ↔
      ∀ payload, gatePayload ((s.events conversationId).drop EventTables.defaultLimit) runId
          = some payload →
        gatePayload ((s.events conversationId).take EventTables.defaultLimit) runId
          = some payload) ∧
    ∀ lastEventId cursor, s.tables.afterSequence conversationId lastEventId = .ok cursor →
      (s.tables.conversationEvents conversationId lastEventId =
          .ok ((s.events conversationId).filter fun e => cursor < e.sequence) ↔
        (s.events conversationId).length ≤ cursor + EventTables.defaultLimit) := by
  have hvalid := h.valid.tables
  have hpage : ∀ cursor limit, s.tables.listAfter conversationId cursor limit =
      ((s.events conversationId).drop cursor).take limit := hvalid.listAfter_eq conversationId
  refine ⟨?_, ?_, fun lastEventId cursor hcursor => ?_⟩
  · rw [EventTables.observedTurns, hpage, List.drop_zero]
    exact countP_take_eq_iff _ _ _
  · rw [EventTables.persistedGatePayload, hpage, List.drop_zero]
    exact gatePayload_take_eq_iff _ _ _
  · have hafter : ((s.events conversationId).filter fun e => cursor < e.sequence) =
        (s.events conversationId).drop cursor :=
      (hvalid.numbered conversationId).filter_gt cursor
    rw [EventTables.conversationEvents, hcursor, Except.map, hafter, hpage, Except.ok.injEq,
      List.take_eq_self_iff, List.length_drop]
    omega

end EventStore

end AfterSales

/-! ### A long conversation -/

namespace AfterSales.EventStore

section LongConversation

local instance storedText : EventPayload String := ⟨fun _ => true⟩

/-- A message that is refused leaves this event; its id is spelled with strokes. -/
def messageRejected (n : Nat) : EventDraft String where
  conversationId := "CONV-1"
  eventType := "message_rejected"
  visibility := .both
  summary := "The message is too long"
  payload := "INVALID_CUSTOMER_MESSAGE"
  evidenceRefs := []
  caseId := none
  runId := none
  schemaVersion := 1
  timestamp := none
  eventId := String.ofList (List.replicate n '|')
  namesConversation := caseCreated.namesConversation
  namesType := by decide
  versioned := caseCreated.versioned
  summarized := by decide

/-- The gate result of a run, after so many events. -/
def gateEvaluated (n : Nat) : EventDraft String :=
  { messageRejected n with
    eventType := "evidence_gate_evaluated"
    visibility := .developer
    summary := "Evidence Gate evaluated"
    payload := "REQUIRE_HUMAN_SUPPORT"
    caseId := some "CASE-1"
    runId := some "RUN-1"
    namesType := by decide
    summarized := by decide }

/-- A conversation of so many refused messages. -/
def refused : Nat → EventStore String
  | 0 => { opened .empty with tables := EventTables.empty.createConversation "CONV-1" }
  | n + 1 => ((refused n).append (messageRejected n) 0).toOption.getD (refused n)

/-- That conversation, with a gate result at its end. -/
def refusedThenEvaluated (n : Nat) : EventStore String :=
  ((refused n).append (gateEvaluated n) 0).toOption.getD (refused n)

/-- Any event whose id has so many strokes is appended after so many events. -/
theorem append_next {n : Nat} {s : EventStore String} (draft : EventDraft String)
    (hdraft : draft.conversationId = "CONV-1") (hid : draft.eventId.length = n)
    (hcounted : s.tables.nextEventSequence "CONV-1" = some n)
    (hrows : ∀ r ∈ s.tables.rows, r.eventId.length < n ∧ r.sequence ≤ n) :
    ∃ s', s.append draft 0 = .ok s' ∧
      s'.tables.rows = s.tables.rows ++ [EventTables.row draft (n + 1) 0] ∧
      s'.tables.nextEventSequence "CONV-1" = some (n + 1) := by
  have hnew : (s.tables.rows.any fun r => r.eventId = (EventTables.row draft (n + 1) 0).eventId ∨
      r.conversationId = (EventTables.row draft (n + 1) 0).conversationId ∧
        r.sequence = (EventTables.row draft (n + 1) 0).sequence) = false := by
    rw [List.any_eq_false]
    intro r hr hclash
    obtain ⟨hlt, hsequence⟩ := hrows r hr
    rcases of_decide_eq_true hclash with e | ⟨-, e⟩
    · rw [e] at hlt
      exact absurd hid hlt.ne
    · simp only [EventTables.row] at e
      omega
  have happend : s.tables.append draft 0 = .ok (EventTables.row draft (n + 1) 0,
      { nextEventSequence :=
          Function.update s.tables.nextEventSequence draft.conversationId (some (n + 1))
        rows := s.tables.rows ++ [EventTables.row draft (n + 1) 0] }) := by
    have hstorable : (EventPayload.storable draft.payload &&
        draft.evidenceRefs.all EventPayload.storable) = true := by simp [EventPayload.storable]
    unfold EventTables.append
    rw [hdraft, hcounted]
    simp only [hnew, hstorable, not_true_eq_false, Bool.false_eq_true, if_false]
  refine ⟨_, by rw [EventStore.append, happend], rfl, ?_⟩
  simp [EventStore.publish, hdraft]

/-- What such a conversation holds. -/
structure Refused (n : Nat) (s : EventStore String) : Prop where
  reachable : Reachable s
  counted : s.tables.nextEventSequence "CONV-1" = some n
  length : s.tables.rows.length = n
  rows : ∀ r ∈ s.tables.rows, r.eventId.length < n ∧ r.sequence ≤ n
  refusals : ∀ r ∈ s.tables.rows, r.eventType = "message_rejected" ∧ r.conversationId = "CONV-1"

theorem refused_refused (n : Nat) : Refused n (refused n) := by
  induction n with
  | zero => exact ⟨.step .init (.createConversation "CONV-1" rfl), rfl, rfl, nofun, nofun⟩
  | succ n ih =>
    obtain ⟨s', happend, hrows, hcounted⟩ := append_next (messageRejected n) rfl
      (by simp [messageRejected]) ih.counted ih.rows
    have hs : refused (n + 1) = s' := by rw [refused, happend]; rfl
    rw [hs]
    refine ⟨.step ih.reachable (.append _ _ happend), hcounted, ?_, ?_, ?_⟩
    · rw [hrows, List.length_append, ih.length, List.length_singleton]
    · rw [hrows]
      intro r hr
      rcases List.mem_append.mp hr with hr | hr
      · obtain ⟨hlt, hle⟩ := ih.rows r hr
        omega
      · obtain rfl := List.mem_singleton.mp hr
        simp [EventTables.row, messageRejected]
    · rw [hrows]
      intro r hr
      rcases List.mem_append.mp hr with hr | hr
      · exact ih.refusals r hr
      · obtain rfl := List.mem_singleton.mp hr
        exact ⟨rfl, rfl⟩

/-- The log of such a conversation: refusals, and then the gate result. -/
theorem refusedThenEvaluated_log (n : Nat) :
    Reachable (refusedThenEvaluated n) ∧ ∃ refusals : List (EventEnvelope String),
      (refusedThenEvaluated n).events "CONV-1" =
        refusals ++ [EventTables.row (gateEvaluated n) (n + 1) 0] ∧
      refusals.length = n ∧ gatePayload refusals "RUN-1" = none := by
  have h := refused_refused n
  obtain ⟨s', happend, hrows, -⟩ := append_next (gateEvaluated n) rfl
    (by simp [gateEvaluated, messageRejected]) h.counted h.rows
  have hs : refusedThenEvaluated n = s' := by rw [refusedThenEvaluated, happend]; rfl
  have hown : ∀ r ∈ s'.tables.rows, decide (r.conversationId = "CONV-1") = true := by
    rw [hrows]
    intro r hr
    rcases List.mem_append.mp hr with hr | hr
    · simp [(h.refusals r hr).2]
    · obtain rfl := List.mem_singleton.mp hr
      rfl
  have hnone : ∀ log : List (EventEnvelope String), (∀ r ∈ log, r.eventType = "message_rejected") →
      gatePayload log "RUN-1" = none := by
    intro log hlog
    induction log using List.reverseRecOn with
    | nil => rfl
    | append_singleton log r ih =>
      have hr : r.isGateOf "RUN-1" = false := by
        simp [EventEnvelope.isGateOf, hlog r (by simp)]
      rw [gatePayload_concat, hr]
      exact ih fun x hx => hlog x (List.mem_append_left _ hx)
  refine ⟨hs ▸ .step h.reachable (.append _ _ happend), (refused n).tables.rows, ?_, h.length,
    hnone _ fun r hr => (h.refusals r hr).1⟩
  rw [hs, EventStore.events, EventTables.events, List.filter_eq_self.mpr hown, hrows]

/-- A gate result on the first page is restored and replayed. -/
theorem refusedThenEvaluated_seen :
    (refusedThenEvaluated 1).tables.persistedGatePayload "CONV-1" "RUN-1" =
        gatePayload ((refusedThenEvaluated 1).events "CONV-1") "RUN-1" ∧
      (refusedThenEvaluated 1).tables.conversationEvents "CONV-1" none =
        .ok (((refusedThenEvaluated 1).events "CONV-1").filter fun e => 0 < e.sequence) := by
  have hshort : ((refusedThenEvaluated 1).events "CONV-1").drop EventTables.defaultLimit = [] := by
    decide +kernel
  obtain ⟨-, hgate, hreplay⟩ := windows_see_whole_log_iff (refusedThenEvaluated 1)
    (refusedThenEvaluated_log 1).1 "CONV-1" "RUN-1"
  refine ⟨hgate.mpr fun payload hlater => ?_, (hreplay none 0 (by decide +kernel)).mpr ?_⟩
  · rw [hshort] at hlater
    cases hlater
  · exact List.drop_eq_nil_iff.mp hshort

/-- Past five hundred events a gate result is neither restored nor replayed. -/
theorem refusedThenEvaluated_unseen :
    Reachable (refusedThenEvaluated 500) ∧
      (refusedThenEvaluated 500).tables.persistedGatePayload "CONV-1" "RUN-1" ≠
        gatePayload ((refusedThenEvaluated 500).events "CONV-1") "RUN-1" ∧
      (refusedThenEvaluated 500).tables.listAfter "CONV-1" 0 EventTables.defaultLimit ≠
        (refusedThenEvaluated 500).events "CONV-1" := by
  obtain ⟨hreachable, refusals, hlog, hlength, hnone⟩ := refusedThenEvaluated_log 500
  have hpage := hreachable.valid.tables.listAfter_eq "CONV-1" 0 EventTables.defaultLimit
  have hevents : (refusedThenEvaluated 500).tables.events "CONV-1" =
      refusals ++ [EventTables.row (gateEvaluated 500) 501 0] := hlog
  have hfull : refusals.length = EventTables.defaultLimit := hlength
  rw [hevents, List.drop_zero, List.take_append_of_le_length hfull.ge,
    List.take_of_length_le hfull.le] at hpage
  refine ⟨hreachable, ?_, ?_⟩
  · rw [EventTables.persistedGatePayload, hpage, hnone, hlog, gatePayload_concat]
    simp [EventEnvelope.isGateOf, EventTables.row, gateEvaluated]
  · rw [hpage, hlog]
    exact fun e => by simpa using congrArg List.length e

end LongConversation

end AfterSales.EventStore
