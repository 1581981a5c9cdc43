import AfterSales.Events.Store
import AfterSales.Lib.Frames
import AfterSales.Lib.JsonText

/-! An event as it is sent: one frame of a server-sent stream.

    The frame has three lines and ends with a blank one. Its data is the event as JSON, on one line
    whatever the texts of the event contain; so nothing in an event can end its frame early.

        id: evt_…⏎ event: case_created⏎ data: {…}⏎ ⏎ -/

namespace AfterSales
open JsonText

/-- `isoformat` of a time in UTC, with `Z` for its zone. -/
class TimestampText where
  isoformat : Instant → String

def EventVisibility.value : EventVisibility → String
  | .customer => "customer"
  | .developer => "developer"
  | .both => "both"

/-- A text that may be missing. -/
def optionalText : Option String → JsonText
  | none => .null
  | some text => .str text

section Frame

variable [TimestampText]

/-- `to_dict`. -/
def EventEnvelope.toDict (e : EventEnvelope JsonText) : JsonText :=
  .object [("schema_version", .number (.ofNat e.schemaVersion)),
    ("event_id", .str e.eventId),
    ("sequence", .number (.ofNat e.sequence)),
    ("timestamp", .str (TimestampText.isoformat e.timestamp)),
    ("conversation_id", .str e.conversationId),
    ("case_id", optionalText e.caseId),
    ("run_id", optionalText e.runId),
    ("event_type", .str e.eventType),
    ("visibility", .str e.visibility.value),
    ("summary", .str e.summary),
    ("payload", e.payload),
    ("evidence_refs", .array e.evidenceRefs)]

/-- The frame of an event, without its end. -/
def EventEnvelope.frame (e : EventEnvelope JsonText) : List Char :=
  "id: ".toList ++ e.eventId.toList ++ "\nevent: ".toList ++ e.eventType.toList ++
    "\ndata: ".toList ++ dumps e.toDict

/-- `_sse_event`. -/
def sseEvent (e : EventEnvelope JsonText) : List Char := e.frame ++ "\n\n".toList

end Frame

/-! ### One frame, and three lines -/

/-- A text without a line break. -/
def OnOneLine (text : List Char) : Prop := ∀ c ∈ text, c ≠ '\n' ∧ c ≠ '\r'

theorem onOneLine_of_all {text : List Char}
    (h : text.all (fun c => decide (c ≠ '\n' ∧ c ≠ '\r')) = true) : OnOneLine text :=
  fun c hc => of_decide_eq_true (List.all_eq_true.mp h c hc)

theorem OnOneLine.append {s t : List Char} (hs : OnOneLine s) (ht : OnOneLine t) :
    OnOneLine (s ++ t) := by
  intro c hc
  rcases List.mem_append.mp hc with hc | hc
  · exact hs c hc
  · exact ht c hc

theorem OnOneLine.of_printable {text : List Char} (h : ∀ c ∈ text, Printable c) :
    OnOneLine text := by
  intro c hc
  have hprintable := h c hc
  constructor
  · rintro rfl
    exact absurd hprintable (by decide)
  · rintro rfl
    exact absurd hprintable (by decide)

/-- An id that can name an event in a stream. -/
def StreamId (id : String) : Prop := id ≠ "" ∧ OnOneLine id.toList

/-- `new_event_id`, from the digits of a fresh identity. -/
def newEventId (hex : List Char) : String := String.ofList ("evt_".toList ++ hex)

theorem newEventId_streamId {hex : List Char} (h : ∀ c ∈ hex, c ∈ hexDigits) :
    StreamId (newEventId hex) := by
  have hdigits : OnOneLine hexDigits := onOneLine_of_all (by decide)
  have hpre : OnOneLine "evt_".toList := onOneLine_of_all (by decide)
  refine ⟨fun hempty => ?_, ?_⟩
  · have htext := congrArg String.toList hempty
    simp [newEventId] at htext
  · rw [newEventId, String.toList_ofList]
    exact hpre.append fun c hc => hdigits c (h c hc)

/-- An event type is on one line. -/
theorem isEventType_onOneLine {text : String} (h : isEventType text) : OnOneLine text.toList := by
  have hother : ∀ c, c.isLower ∨ c.isDigit ∨ c = '_' → c ≠ '\n' ∧ c ≠ '\r' := by
    rintro c hc
    constructor
    · rintro rfl
      exact absurd hc (by decide)
    · rintro rfl
      exact absurd hc (by decide)
  unfold isEventType at h
  intro c hc
  split at h
  · rename_i hempty
    rw [hempty] at hc
    cases hc
  · rename_i first rest htext
    rw [htext] at hc
    simp only [Bool.and_eq_true, List.all_eq_true, Bool.or_eq_true, decide_eq_true_eq] at h
    rcases List.mem_cons.mp hc with rfl | hc
    · exact hother _ (Or.inl h.1.1)
    · rcases h.1.2 c hc with (hlower | hdigit) | hline
      · exact hother _ (Or.inl hlower)
      · exact hother _ (Or.inr (Or.inl hdigit))
      · exact hother _ (Or.inr (Or.inr hline))

/-- An event that can be sent. -/
structure EventEnvelope.Sendable (e : EventEnvelope JsonText) : Prop where
  eventId : StreamId e.eventId
  eventType : isEventType e.eventType

namespace EventEnvelope

variable [TimestampText] (e : EventEnvelope JsonText)

def idLine : List Char := "id: ".toList ++ e.eventId.toList
def eventLine : List Char := "event: ".toList ++ e.eventType.toList
def dataLine : List Char := "data: ".toList ++ dumps e.toDict

variable {e}

theorem frame_lines : e.frame = e.idLine ++ '\n' :: (e.eventLine ++ '\n' :: e.dataLine) := by
  unfold frame idLine eventLine dataLine
  generalize dumps e.toDict = data
  have hevent : "\nevent: ".toList = '\n' :: "event: ".toList := rfl
  have hdata : "\ndata: ".toList = '\n' :: "data: ".toList := rfl
  rw [hevent, hdata]
  simp only [List.append_assoc, List.cons_append]

omit [TimestampText] in
theorem idLine_onOneLine (h : e.Sendable) : OnOneLine e.idLine := by
  have hfield : OnOneLine "id: ".toList := onOneLine_of_all (by decide)
  exact hfield.append h.eventId.2

omit [TimestampText] in
theorem eventLine_onOneLine (h : e.Sendable) : OnOneLine e.eventLine := by
  have hfield : OnOneLine "event: ".toList := onOneLine_of_all (by decide)
  exact hfield.append (isEventType_onOneLine h.eventType)

theorem dataLine_onOneLine : OnOneLine e.dataLine := by
  have hfield : OnOneLine "data: ".toList := onOneLine_of_all (by decide)
  exact hfield.append (.of_printable (dumps_printable _))

/-- Nothing in an event ends its frame early. -/
theorem frame_whole (h : e.Sendable) : Frames.Whole '\n' e.frame := by
  have hid : '\n' ∉ e.idLine := fun hc => (idLine_onOneLine h _ hc).1 rfl
  have htype : '\n' ∉ e.eventLine := fun hc => (eventLine_onOneLine h _ hc).1 rfl
  have hdata : '\n' ∉ e.dataLine := fun hc => (dataLine_onOneLine _ hc).1 rfl
  have hfields : "id: ".toList ≠ [] ∧ "event: ".toList ≠ [] ∧ "data: ".toList ≠ [] := by decide
  have hidLine : e.idLine ≠ [] := fun hnil => hfields.1 (List.append_eq_nil_iff.mp hnil).1
  have heventLine : e.eventLine ≠ [] := fun hnil => hfields.2.1 (List.append_eq_nil_iff.mp hnil).1
  have hdataLine : e.dataLine ≠ [] := fun hnil => hfields.2.2 (List.append_eq_nil_iff.mp hnil).1
  have hend : Frames.cut '\n' ['\n'] = none := by decide
  rw [Frames.Whole, frame_lines]
  generalize e.idLine = idLine at *
  generalize e.eventLine = eventLine at *
  generalize e.dataLine = dataLine at *
  rw [List.append_assoc, List.cons_append, List.append_assoc, List.cons_append]
  exact (Frames.cut_line hid hidLine).mpr ((Frames.cut_next htype heventLine).mpr
    ((Frames.cut_next hdata hdataLine).mpr hend))

/-- A frame holds no carriage return. -/
theorem frame_no_return (h : e.Sendable) : '\r' ∉ e.frame := by
  have hid := idLine_onOneLine h
  have htype := eventLine_onOneLine h
  have hdata := dataLine_onOneLine (e := e)
  rw [frame_lines]
  generalize e.idLine = idLine at *
  generalize e.eventLine = eventLine at *
  generalize e.dataLine = dataLine at *
  intro hc
  simp only [List.mem_append, List.mem_cons] at hc
  rcases hc with hc | hbreak | hc | hbreak | hc
  · exact (hid _ hc).2 rfl
  · exact absurd hbreak (by decide)
  · exact (htype _ hc).2 rfl
  · exact absurd hbreak (by decide)
  · exact (hdata _ hc).2 rfl

end EventEnvelope

end AfterSales
