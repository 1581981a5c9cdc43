import AfterSales.Events.Delivery
import AfterSales.Frontend.EventStream
import Mathlib.Logic.Relation

/-! Every event reaches the page once, and in order.

    What a connection has decoded is the beginning of the frames that its subscription yielded, and
    these are the events after the one the page named. So the page has called `onEvent` for the
    first events of the log, up to some number; what a broken connection leaves is dropped. -/

namespace AfterSales
open JsonText

/-! ### Frames are read back -/

theorem parseField_line {field value : List Char} (hfield : ':' ∉ field) (hne : field ≠ []) :
    parseField (field ++ ':' :: ' ' :: value) = some (field, value) := by
  obtain ⟨c, text, rfl⟩ := List.exists_cons_of_ne_nil hne
  have hhead : ¬ ((c :: text) ++ ':' :: ' ' :: value = [] ∨
      ((c :: text) ++ ':' :: ' ' :: value).head? = some ':') := by
    rintro (hnil | hc)
    · cases hnil
    · exact hfield (Option.some.inj hc ▸ List.mem_cons_self)
  have hall : ∀ a ∈ c :: text, decide (a ≠ ':') = true := fun a ha =>
    decide_eq_true fun e => hfield (e ▸ ha)
  rw [parseField, if_neg hhead, List.takeWhile_append_of_pos hall,
    List.dropWhile_append_of_pos hall]
  simp

variable [TimestampText] {e : EventEnvelope JsonText}

/-- The frame of an event is read back. -/
theorem parseFrame_frame (h : e.Sendable) :
    parseFrame e.frame = some ⟨some e.eventId, dumps e.toDict⟩ := by
  have hid : '\n' ∉ e.idLine := fun hc => (EventEnvelope.idLine_onOneLine h _ hc).1 rfl
  have htype : '\n' ∉ e.eventLine := fun hc => (EventEnvelope.eventLine_onOneLine h _ hc).1 rfl
  have hdata : '\n' ∉ e.dataLine := fun hc => (EventEnvelope.dataLine_onOneLine _ hc).1 rfl
  have hsplit : e.frame.splitOn '\n' = [e.idLine, e.eventLine, e.dataLine] := by
    rw [EventEnvelope.frame_lines]
    generalize e.idLine = idLine at *
    generalize e.eventLine = eventLine at *
    generalize e.dataLine = dataLine at *
    rw [List.splitOn_append_cons_self_of_not_mem hid,
      List.splitOn_append_cons_self_of_not_mem htype, List.splitOn_eq_singleton hdata]
  have hidField : parseField e.idLine = some ("id".toList, e.eventId.toList) :=
    parseField_line (by decide : ':' ∉ "id".toList) (by decide)
  have htypeField : parseField e.eventLine = some ("event".toList, e.eventType.toList) :=
    parseField_line (by decide : ':' ∉ "event".toList) (by decide)
  have hdataField : parseField e.dataLine = some ("data".toList, dumps e.toDict) :=
    parseField_line (by decide : ':' ∉ "data".toList) (by decide)
  have hfields : [e.idLine, e.eventLine, e.dataLine].filterMap parseField =
      [("id".toList, e.eventId.toList), ("event".toList, e.eventType.toList),
        ("data".toList, dumps e.toDict)] := by
    simp only [List.filterMap_cons, hidField, htypeField, hdataField, List.filterMap_nil]
  rw [parseFrame, hsplit, hfields]
  generalize dumps e.toDict = data
  have hdataValues : fieldValues [("id".toList, e.eventId.toList), ("event".toList,
      e.eventType.toList), ("data".toList, data)] "data" = [data] := by
    simp [fieldValues]
  have hidValues : fieldValues [("id".toList, e.eventId.toList), ("event".toList,
      e.eventType.toList), ("data".toList, data)] "id" = [e.eventId.toList] := by
    simp [fieldValues]
  simp only [hdataValues, hidValues]
  simp

/-! ### The page handles the next event -/

variable {log : List (EventEnvelope JsonText)} {n : Nat} {c : StreamClient}

/-- The page has called `onEvent` for the first `n` events of a log. -/
structure StreamClient.At (log : List (EventEnvelope JsonText)) (n : Nat) (c : StreamClient) :
    Prop where
  bound : n ≤ log.length
  events : c.events = (log.take n).map (·.toDict)
  seenEventIds : c.seenEventIds = (log.take n).map (·.eventId)
  receivedSequences : c.receivedSequences = List.range' 1 n
  contiguousSequence : c.contiguousSequence = n
  lastEventId : c.lastEventId = (log.take n).getLast?.map (·.eventId)

/-- An event, as it is read back, has its id and its sequence. -/
theorem EventEnvelope.toDict_get :
    e.toDict.get "event_id" = some (.str e.eventId) ∧
      (e.toDict.get "sequence").bind JsonText.nat? = some e.sequence := by
  refine ⟨rfl, ?_⟩
  have hsequence : e.toDict.get "sequence" = some (.number (.ofNat e.sequence)) := rfl
  rw [hsequence, Option.bind_some]
  exact JsonNumber.nat?_ofNat _

namespace StreamClient

omit [TimestampText] in
/-- Without a gap, the loop moves on to the last sequence. -/
theorem contiguousFrom_range (n : Nat) :
    contiguousFrom (List.range' 1 (n + 1)) (n + 1) n = n + 1 := by
  have hnext : n + 1 ∈ List.range' 1 (n + 1) := by
    rw [List.mem_range'_1]
    omega
  have hlast : ∀ fuel, contiguousFrom (List.range' 1 (n + 1)) fuel (n + 1) = n + 1 := by
    intro fuel
    cases fuel with
    | zero => rfl
    | succ fuel =>
      rw [contiguousFrom, if_neg]
      rw [List.mem_range'_1]
      omega
  rw [contiguousFrom, if_pos hnext, hlast]

namespace At

/-- The log goes on. -/
theorem extend (h : c.At log n) {later : List (EventEnvelope JsonText)} (hlog : log <+: later) :
    c.At later n := by
  have htake : later.take n = log.take n := by
    obtain ⟨rest, rfl⟩ := hlog
    exact List.take_append_of_le_length h.bound
  refine ⟨h.bound.trans hlog.length_le, ?_, ?_, h.receivedSequences, h.contiguousSequence, ?_⟩
  · rw [htake, h.events]
  · rw [htake, h.seenEventIds]
  · rw [htake, h.lastEventId]

/-- The state of the connection is not part of it. -/
theorem state (h : c.At log n) (connectionState : ConnectionState) :
    ({ c with connectionState := connectionState } : StreamClient).At log n :=
  ⟨h.bound, h.events, h.seenEventIds, h.receivedSequences, h.contiguousSequence, h.lastEventId⟩

/-- The next event of the log is handed on; there is no gap before it. -/
theorem handle (h : c.At log n) (hnumbered : Numbered log) (hids : (log.map (·.eventId)).Nodup)
    (hn : n < log.length) (hsendable : log[n].Sendable) :
    let c' := c.handleFrame ⟨some log[n].eventId, dumps log[n].toDict⟩
    c'.At log (n + 1) ∧ c'.connectionState = .connected := by
  have hparse : parse (dumps log[n].toDict) = some log[n].toDict := parse_dumps _
  have hsequence : log[n].sequence = n + 1 := hnumbered.sequence_getElem hn
  have hnew : ¬ (log[n].eventId = "" ∨ log[n].eventId ∈ c.seenEventIds) := by
    rintro (hempty | hseen)
    · exact hsendable.eventId.1 hempty
    · rw [h.seenEventIds, List.map_take, List.mem_take_iff_getElem] at hseen
      obtain ⟨i, hi, hsame⟩ := hseen
      rw [List.length_map, lt_min_iff] at hi
      have hi' : i < (log.map (·.eventId)).length := by simpa using hi.2
      have hn' : n < (log.map (·.eventId)).length := by simpa using hn
      have hindex : (log.map (·.eventId))[i] = (log.map (·.eventId))[n] ↔ i = n :=
        hids.getElem_inj_iff
      rw [List.getElem_map, List.getElem_map] at hindex
      have := hindex.mp (by simpa using hsame)
      omega
  have hreceived : c.receivedSequences ++ [n + 1] = List.range' 1 (n + 1) := by
    rw [h.receivedSequences, List.range'_concat, Nat.one_mul, Nat.add_comm 1 n]
  have htake : log.take (n + 1) = log.take n ++ [log[n]] := (List.take_concat_get' log n hn).symm
  obtain ⟨hget, hget'⟩ := EventEnvelope.toDict_get (e := log[n])
  simp only [handleFrame, hparse, hget, hget', if_neg hnew, hsequence, Option.toList_some,
    hreceived, h.contiguousSequence, List.length_range', contiguousFrom_range, Option.getD_some,
    Option.any_some, lt_irrefl, decide_false, Bool.false_eq_true, if_false, and_true]
  refine ⟨hn, ?_, ?_, rfl, rfl, ?_⟩
  · rw [htake, List.map_append, h.events]
    rfl
  · rw [htake, List.map_append, h.seenEventIds]
    rfl
  · rw [htake, List.getLast?_concat]
    rfl

/-- Frames of the next events are handed on one by one. -/
theorem handles (hnumbered : Numbered log) (hids : (log.map (·.eventId)).Nodup)
    (hsendable : ∀ e ∈ log, e.Sendable) (next : List (EventEnvelope JsonText)) (h : c.At log n)
    (hnext : next <+: log.drop n) :
    let c' := ((next.map (·.frame)).filterMap parseFrame).foldl .handleFrame c
    c'.At log (n + next.length) ∧
      (c.connectionState = .connected → c'.connectionState = .connected) := by
  induction next generalizing n c with
  | nil => exact ⟨h, id⟩
  | cons e next ih =>
    obtain ⟨rest, hrest⟩ := hnext
    have hn : n < log.length := by
      by_contra hle
      rw [List.drop_eq_nil_of_le (Nat.le_of_not_lt hle)] at hrest
      cases hrest
    rw [List.drop_eq_getElem_cons hn] at hrest
    obtain ⟨rfl, hlater⟩ := List.cons.inj hrest
    obtain ⟨hat, hconnected⟩ := h.handle hnumbered hids hn (hsendable _ (List.getElem_mem hn))
    obtain ⟨hlast, hstate⟩ := ih hat ⟨rest, hlater⟩
    have hframe := parseFrame_frame (hsendable _ (List.getElem_mem hn))
    simp only [List.map_cons, List.filterMap_cons, hframe, List.foldl_cons, List.length_cons]
    rw [show n + (next.length + 1) = n + 1 + next.length by omega]
    exact ⟨hlast, fun _ => hstate hconnected⟩

end At

end StreamClient

/-! ### The page reads a response -/

/-- The frames of events make one stream. -/
theorem flatMap_sseEvent (events : List (EventEnvelope JsonText)) :
    events.flatMap sseEvent = Frames.join '\n' (events.map (·.frame)) := by
  rw [Frames.join, List.flatMap_map]
  rfl

namespace StreamReader

variable {sent more : List (EventEnvelope JsonText)} {taken chunk : List UInt8} {count : Nat}
  {r : StreamReader}

omit [TimestampText] in
theorem unifyBreaks_eq {text : List Char} (h : '\r' ∉ text) : unifyBreaks text = text := by
  induction text with
  | nil => rfl
  | cons a text ih =>
    have ha : a ≠ '\r' := fun e => h (e ▸ List.mem_cons_self)
    rw [unifyBreaks.eq_def]
    split
    · rename_i heq
      exact absurd (List.cons.inj heq).1 ha
    · rename_i heq
      obtain ⟨rfl, rfl⟩ := List.cons.inj heq
      rw [ih fun hc => h (List.mem_cons_of_mem _ hc)]
    · rename_i heq
      cases heq

/-- A reader that has taken some bytes of the frames sent to it, and the first frames of them. -/
structure Has (r : StreamReader) (sent : List (EventEnvelope JsonText)) (taken : List UInt8)
    (count : Nat) : Prop where
  bound : count ≤ sent.length
  decoder : r.decoder = (Utf8.Decoder.start.decode taken).1
  fresh : r.fresh = (Utf8.Decoder.start.decode taken).2.isEmpty
  frames : Frames.frames '\n' (Utf8.Decoder.start.decode taken).2 =
    ((sent.take count).map (·.frame), r.buffer)

theorem Has.start : StreamReader.start.Has [] [] 0 where
  bound := le_rfl
  decoder := rfl
  fresh := rfl
  frames := Frames.frames_none rfl

/-- More is sent. -/
theorem Has.extend (h : r.Has sent taken count) : r.Has (sent ++ more) taken count where
  bound := h.bound.trans (by simp)
  decoder := h.decoder
  fresh := h.fresh
  frames := by rw [List.take_append_of_le_length h.bound, h.frames]

/-- A chunk is read: the next frames are cut off, and nothing is lost at its ends. -/
theorem Has.read (h : r.Has sent taken count) (hsendable : ∀ e ∈ sent, e.Sendable)
    (hchunk : taken ++ chunk <+: Utf8.encode (sent.flatMap sseEvent)) :
    ∃ k, count + k ≤ sent.length ∧
      (r.read chunk).2 = (((sent.drop count).take k).map (·.frame)).filterMap parseFrame ∧
      (r.read chunk).1.Has sent (taken ++ chunk) (count + k) := by
  have htext := Utf8.decode_prefix hchunk
  have hdecode := Utf8.Decoder.decode_append .start taken chunk
  have hfresh := h.fresh
  have hframes := h.frames
  have hdecoder := h.decoder
  rw [hdecode] at htext
  generalize (Utf8.Decoder.start.decode taken) = before at *
  obtain ⟨d, text⟩ := before
  simp only at *
  subst hdecoder
  generalize hnew : r.decoder.decode chunk = after at *
  obtain ⟨d', new⟩ := after
  simp only at *
  -- The stream begins with a field name, so it has no byte order mark; and no carriage returns.
  have hreturn : '\r' ∉ sent.flatMap sseEvent := by
    rw [List.mem_flatMap]
    rintro ⟨e, he, hc⟩
    rcases List.mem_append.mp hc with hc | hc
    · exact EventEnvelope.frame_no_return (hsendable e he) hc
    · exact absurd hc (by decide)
  have hbreaks : '\r' ∉ new := fun hc =>
    hreturn (htext.subset (List.mem_append_right _ hc))
  have hmark : dropMark r.fresh new = new := by
    rw [dropMark, if_neg]
    rintro ⟨hempty, hhead⟩
    rw [hfresh, List.isEmpty_iff] at hempty
    subst hempty
    rw [List.nil_append] at htext
    cases sent with
    | nil =>
      rw [List.flatMap_nil, List.prefix_nil] at htext
      rw [htext] at hhead
      cases hhead
    | cons e sent =>
      have hfirst : ((e :: sent).flatMap sseEvent).head? = some 'i' := rfl
      obtain ⟨rest, hrest⟩ := htext
      rw [← hrest, List.head?_append, hhead] at hfirst
      exact absurd (Option.some.inj hfirst) (by decide)
  have happend : Frames.frames '\n' (text ++ new) = _ := Frames.frames_append text new
  rw [hframes] at happend
  simp only at happend
  generalize hcut : Frames.frames '\n' (r.buffer ++ new) = parts at *
  obtain ⟨cuts, buffer⟩ := parts
  simp only at happend
  have hwhole : ∀ frame ∈ sent.map (·.frame), Frames.Whole '\n' frame := by
    intro frame hframe
    obtain ⟨e, he, rfl⟩ := List.mem_map.mp hframe
    exact EventEnvelope.frame_whole (hsendable e he)
  rw [flatMap_sseEvent] at htext
  have hpre := Frames.frames_prefix hwhole htext
  rw [happend] at hpre
  simp only at hpre
  have hlength := hpre.length_le
  rw [List.length_append, List.length_map, List.length_map, List.length_take,
    Nat.min_eq_left h.bound] at hlength
  have hcuts : cuts = ((sent.drop count).take cuts.length).map (·.frame) := by
    obtain ⟨rest, hrest⟩ := hpre
    have hsplit := congrArg (List.drop count) hrest
    rw [List.append_assoc, List.drop_left' (by simp [h.bound]), ← List.map_drop] at hsplit
    rw [List.map_take, ← hsplit, List.take_left' rfl]
  have hread : r.read chunk =
      (⟨d', r.fresh && new.isEmpty, buffer⟩, cuts.filterMap parseFrame) := by
    rw [StreamReader.read, hnew]
    simp only [append, hmark, unifyBreaks_eq hbreaks, hcut]
  refine ⟨cuts.length, hlength, ?_, ⟨hlength, ?_, ?_, ?_⟩⟩
  · rw [hread]
    exact congrArg (List.filterMap parseFrame) hcuts
  · rw [hread, hdecode]
  · rw [hread, hdecode]
    simp only [hfresh]
    cases text <;> rfl
  · rw [hread, hdecode]
    simp only
    rw [happend, List.take_add, List.map_append, ← hcuts]

/-- What is left at the end of a response is no frame. -/
theorem Has.finish (h : r.Has sent taken count) : r.finish = [] := by
  have hbuffer : Frames.cut '\n' r.buffer = none := by
    have hrest : Frames.cut '\n' (Frames.frames '\n' (Utf8.Decoder.start.decode taken).2).2 =
        none := Frames.frames_rest _
    rwa [h.frames] at hrest
  have hflush : Frames.cut '\n' (r.buffer ++ unifyBreaks (dropMark r.fresh r.decoder.flush)) =
      none := by
    rw [Utf8.Decoder.flush]
    split_ifs
    · have hnone : unifyBreaks (dropMark r.fresh []) = [] := by
        rw [dropMark, if_neg (by simp)]
        rfl
      rw [hnone, List.append_nil, hbuffer]
    · have hone : unifyBreaks (dropMark r.fresh [Utf8.Decoder.replacement]) =
          [Utf8.Decoder.replacement] := by
        rw [dropMark, if_neg (by simp [Utf8.Decoder.replacement])]
        exact unifyBreaks_eq (by decide)
      rw [hone]
      exact Frames.cut_concat hbuffer (by decide)
  rw [StreamReader.finish, append, Frames.frames_none hflush]
  rfl

/-- All that was sent is read. -/
theorem Has.complete (h : r.Has sent (Utf8.encode (sent.flatMap sseEvent)) count)
    (hsendable : ∀ e ∈ sent, e.Sendable) : count = sent.length := by
  have hwhole : ∀ frame ∈ sent.map (·.frame), Frames.Whole '\n' frame := by
    intro frame hframe
    obtain ⟨e, he, rfl⟩ := List.mem_map.mp hframe
    exact EventEnvelope.frame_whole (hsendable e he)
  have hframes := h.frames
  rw [Utf8.decode_encode, flatMap_sseEvent, Frames.frames_join hwhole] at hframes
  have hlength := congrArg List.length (congrArg Prod.fst hframes)
  rw [List.length_map, List.length_map, List.length_take, Nat.min_eq_left h.bound] at hlength
  exact hlength.symm

end StreamReader

/-! ### The log -/

omit [TimestampText] in
theorem EventTables.append_fresh [EventPayload JsonText] {t t' : EventTables JsonText}
    {draft : EventDraft JsonText} {now : Instant} {event : EventEnvelope JsonText}
    (h : t.append draft now = .ok (event, t')) : ∀ r ∈ t.rows, r.eventId ≠ event.eventId := by
  obtain ⟨current, hcurrent, rfl, -⟩ := EventTables.append_ok h
  rw [EventTables.append, hcurrent] at h
  simp only at h
  split at h
  · cases h
  · split at h
    · cases h
    · rename_i hfresh
      intro r hr hid
      refine hfresh (List.any_eq_true.mpr ⟨r, hr, ?_⟩)
      rw [decide_eq_true_eq]
      exact Or.inl hid

/-- No two events have one id, and every type is one that the store accepts. -/
structure EventTables.Named (t : EventTables JsonText) : Prop where
  ids : (t.rows.map (·.eventId)).Nodup
  types : ∀ r ∈ t.rows, isEventType r.eventType

namespace EventStore

variable [EventPayload JsonText] {s s' : EventStore JsonText}

omit [TimestampText] in
/-- A step adds a row to the tables, or none. -/
theorem Step.rows (h : Step s s') :
    s'.tables.rows = s.tables.rows ∨
      ∃ draft now event, s.tables.append draft now = .ok (event, s'.tables) := by
  cases h with
  | createConversation => exact Or.inl rfl
  | append draft now happend =>
    rw [EventStore.append] at happend
    split at happend
    · cases happend
    · rename_i event tables htables
      obtain rfl := Except.ok.inj happend
      exact Or.inr ⟨draft, now, event, htables⟩
  | appendFails => exact Or.inl rfl
  | subscribe => exact Or.inl rfl
  | advance q hadvance =>
    obtain ⟨_, _, _, -, -, rfl⟩ := advance_cases hadvance
    exact Or.inl rfl
  | unsubscribe => exact Or.inl rfl
  | restart => exact Or.inl rfl

omit [TimestampText] in
theorem Reachable.named (h : s.Reachable) : s.tables.Named := by
  induction h with
  | init => exact ⟨List.nodup_nil, nofun⟩
  | step _ hstep ih =>
    rcases hstep.rows with hsame | ⟨draft, now, event, happend⟩
    · constructor
      · rw [hsame]
        exact ih.ids
      · rw [hsame]
        exact ih.types
    · have hfresh := EventTables.append_fresh happend
      obtain ⟨current, -, hevent, htables⟩ := EventTables.append_ok happend
      constructor
      · rw [htables, List.map_append, List.nodup_append]
        refine ⟨ih.ids, by simp, ?_⟩
        intro id hid id' hid' hsame
        obtain ⟨r, hr, rfl⟩ := List.mem_map.mp hid
        rw [List.map_singleton, List.mem_singleton] at hid'
        exact hfresh r hr (hsame.trans hid')
      · rw [htables]
        intro r hr
        rcases List.mem_append.mp hr with hr | hr
        · exact ih.types r hr
        · rw [List.mem_singleton.mp hr, hevent]
          exact draft.namesType

omit [TimestampText] in
/-- The log of a conversation only grows. -/
theorem Step.events_prefix (h : Step s s') (conversationId : String) :
    s.events conversationId <+: s'.events conversationId := by
  rcases h.rows with hsame | ⟨draft, now, event, happend⟩
  · rw [EventStore.events, EventStore.events, EventTables.events, EventTables.events, hsame]
  · rw [EventStore.events, EventStore.events, EventTables.events_append happend]
    split_ifs
    · exact List.prefix_append _ _
    · exact List.prefix_rfl

omit [TimestampText] [EventPayload JsonText] in
@[simp] theorem setSubscription_self (s : EventStore JsonText) (q : Nat)
    (sub : Subscription JsonText) : (s.setSubscription q sub).subscriptions q = some sub :=
  Function.update_self ..

omit [TimestampText] [EventPayload JsonText] in
/-- A subscriber takes nothing back. -/
theorem Advances.received_prefix {q : Nat} {sub sub' : Subscription JsonText}
    {queue : List (EventEnvelope JsonText)} (h : s.Advances q sub sub' queue) :
    sub.received <+: sub'.received := by
  have hoffer : ∀ (sub : Subscription JsonText) (event : EventEnvelope JsonText),
      sub.received <+: (sub.offer event).received := by
    intro sub event
    rw [Subscription.offer]
    split_ifs
    · exact List.prefix_append _ _
    · exact List.prefix_rfl
  cases h with
  | turn =>
    rw [Subscription.turnTo]
    split_ifs
    · exact List.prefix_rfl
    · exact List.prefix_rfl
  | endPage => exact List.prefix_rfl
  | yieldPage event rest short => exact hoffer { sub with phase := .page rest short } event
  | takeQueue event => exact hoffer _ event

end EventStore

/-! ### A response -/

/-- A response that began after `origin` events. It was sent some of the events that follow, and
    the page has handled the first `count` of them. -/
structure StreamLink.Carries (link : StreamLink) (s : EventStore JsonText) (conversationId : String)
    (origin : Nat) (sent : List (EventEnvelope JsonText)) (taken : List UInt8) (count : Nat) :
    Prop where
  piece : sent <+: (s.events conversationId).drop origin
  wire : Utf8.encode (sent.flatMap sseEvent) = taken ++ link.wire
  reader : link.reader.Has sent taken count
  queue : ∀ q ∈ link.queue, ∃ sub, s.subscriptions q = some sub ∧
    sub.conversationId = conversationId ∧ sub.afterSequence = origin ∧ sub.received = sent

/-- A log that goes on, and a subscription that is left alone. -/
theorem StreamLink.Carries.extend {conversationId : String} {link : StreamLink}
    {s s' : EventStore JsonText}
    {origin count : Nat} {sent : List (EventEnvelope JsonText)} {taken : List UInt8}
    (h : link.Carries s conversationId origin sent taken count)
    (hlog : s.events conversationId <+: s'.events conversationId)
    (hapart : ∀ q ∈ link.queue, s'.subscriptions q = s.subscriptions q) :
    link.Carries s' conversationId origin sent taken count := by
  refine ⟨h.piece.trans (hlog.drop origin), h.wire, h.reader, fun q hq => ?_⟩
  obtain ⟨sub, hsub, hserved⟩ := h.queue q hq
  exact ⟨sub, (hapart q hq).trans hsub, hserved⟩

namespace StreamWorld

variable [EventPayload JsonText] {conversationId : String} {w w' : StreamWorld}

/-- The page has handled the first `n` events; an open response goes on from there. -/
structure Valid (conversationId : String) (w : StreamWorld) (n : Nat) : Prop where
  reachable : w.store.Reachable
  named : ∀ e ∈ w.store.tables.rows, StreamId e.eventId
  client : w.client.At (w.store.events conversationId) n
  link : ∀ link ∈ w.link, w.client.connectionState = .connected ∧
    ∃ origin sent taken count, n = origin + count ∧
      link.Carries w.store conversationId origin sent taken count

namespace Valid

variable {n : Nat}

theorem sendable (h : w.Valid conversationId n) :
    ∀ e ∈ w.store.events conversationId, e.Sendable := fun e he =>
  ⟨h.named e (List.mem_of_mem_filter he),
    h.reachable.named.types e (List.mem_of_mem_filter he)⟩

theorem numbered (h : w.Valid conversationId n) : Numbered (w.store.events conversationId) :=
  h.reachable.valid.tables.numbered conversationId

theorem ids (h : w.Valid conversationId n) :
    ((w.store.events conversationId).map (·.eventId)).Nodup :=
  h.reachable.named.ids.sublist ((List.filter_sublist).map _)

/-- The cursor of the page is the number of events that it has handled. -/
theorem afterSequence (h : w.Valid conversationId n)
    (hknown : w.store.tables.nextEventSequence conversationId ≠ none) :
    w.store.tables.afterSequence conversationId w.client.lastEventId = .ok n := by
  have hlast := h.client.lastEventId
  have hbound := h.client.bound
  rw [EventTables.afterSequence, if_neg hknown]
  cases n with
  | zero =>
    rw [hlast, List.take_zero, List.getLast?_nil]
    rfl
  | succ n =>
    have hn : n < (w.store.events conversationId).length := hbound
    have hevent := List.getElem_mem hn
    have hsequence := h.numbered.sequence_getElem hn
    have hid : w.client.lastEventId = some (w.store.events conversationId)[n].eventId := by
      rw [hlast, ← List.take_concat_get' _ n hn, List.getLast?_concat]
      rfl
    generalize (w.store.events conversationId)[n] = event at *
    have hne : event.eventId ≠ "" := (h.sendable event hevent).eventId.1
    have hrow : event ∈ w.store.tables.rows := List.mem_of_mem_filter hevent
    have hconversation : event.conversationId = conversationId :=
      of_decide_eq_true (List.mem_filter.mp hevent).2
    -- No other row has the id that the page names.
    have hfind : w.store.tables.rows.find? (·.eventId = event.eventId) = some event := by
      obtain ⟨before, later, hsplit⟩ := List.append_of_mem hrow
      have hids := h.reachable.named.ids
      rw [hsplit, List.map_append, List.nodup_append] at hids
      rw [hsplit, List.find?_append, List.find?_eq_none.mpr, Option.none_or, List.find?_cons_of_pos]
      · simp
      · intro r hr hsame
        exact hids.2.2 _ (List.mem_map_of_mem hr) _ List.mem_cons_self (of_decide_eq_true hsame)
    rw [hid, Option.filter_some, if_pos (by simpa using hne)]
    simp only [hfind, hconversation, ne_eq, not_true, if_false, hsequence]

/-- A page that has read all that a suspended subscription was sent for has handled the log. -/
theorem caughtUp (h : w.Valid conversationId n) {link : StreamLink} {q : Nat}
    (hlink : w.link = some link) (hq : link.queue = some q) (hsuspended : w.store.Suspended q)
    (hwire : link.wire = []) : n = (w.store.events conversationId).length := by
  obtain ⟨-, origin, sent, taken, count, rfl, hcarries⟩ := h.link link hlink
  obtain ⟨sub, hsub, hconversation, horigin, rfl⟩ := hcarries.queue q hq
  obtain ⟨served, hserved, hlive, hempty⟩ := hsuspended
  obtain rfl : sub = served := Option.some.inj (hsub.symm.trans hserved)
  have hdelivery := h.reachable.valid.delivery q sub hsub
  rw [hempty] at hdelivery
  have hall := hdelivery.complete hlive
  rw [hconversation, horigin] at hall
  have htaken := hcarries.wire
  rw [hwire, List.append_nil] at htaken
  have hreader := hcarries.reader
  rw [← htaken] at hreader
  have hcount := hreader.complete fun e he =>
    h.sendable e (List.mem_of_mem_drop (hcarries.piece.subset he))
  have hlength := congrArg List.length hall
  rw [List.length_drop] at hlength
  have hbound := h.client.bound
  omega

end Valid

/-! ### One step -/

variable {n : Nat}

theorem Valid.store (h : w.Valid conversationId n) {s : EventStore JsonText}
    (hstep : EventStore.Step w.store s) (hnamed : ∀ e ∈ s.tables.rows, StreamId e.eventId)
    (hapart : ∀ link ∈ w.link, ∀ q ∈ link.queue, s.subscriptions q = w.store.subscriptions q) :
    ({ w with store := s } : StreamWorld).Valid conversationId n := by
  have hlog := hstep.events_prefix conversationId
  refine ⟨h.reachable.step hstep, hnamed, h.client.extend hlog, fun link hlink => ?_⟩
  obtain ⟨hconnected, origin, sent, taken, count, hn, hcarries⟩ := h.link link hlink
  exact ⟨hconnected, origin, sent, taken, count, hn, hcarries.extend hlog (hapart link hlink)⟩

/-- What a subscription yields next is sent after the rest. -/
theorem Valid.send (h : w.Valid conversationId n) {link : StreamLink} {q : Nat}
    {s : EventStore JsonText} {sub sub' : Subscription JsonText} (hlink : w.link = some link)
    (hq : link.queue = some q) (hadvance : w.store.advance q = some s)
    (hbefore : w.store.subscriptions q = some sub) (hafter : s.subscriptions q = some sub') :
    ({ w with
        store := s
        link := some { link with
          wire := link.wire ++
            Utf8.encode ((sub'.received.drop sub.received.length).flatMap sseEvent) } }
      : StreamWorld).Valid conversationId n := by
  obtain ⟨hconnected, origin, sent, taken, count, hn, hcarries⟩ := h.link link hlink
  obtain ⟨served, hserved, hconversation, horigin, rfl⟩ := hcarries.queue q hq
  obtain rfl : sub = served := Option.some.inj (hbefore.symm.trans hserved)
  obtain ⟨_, next, queue, hsub, hadvances, rfl⟩ := EventStore.advance_cases hadvance
  obtain rfl := Option.some.inj (hbefore.symm.trans hsub)
  obtain rfl : next = sub' := by
    simpa [EventStore.setSubscription] using hafter
  have hreachable := h.reachable.step (.advance q hadvance)
  have hdelivered := (hreachable.valid.delivery q next hafter).contiguous
  rw [hadvances.origin.1, hadvances.origin.2, hconversation, horigin] at hdelivered
  obtain ⟨more, hmore⟩ := hadvances.received_prefix
  refine ⟨hreachable, h.named, h.client, ?_⟩
  rintro _ ⟨⟩
  refine ⟨hconnected, origin, next.received, taken, count, hn, hdelivered, ?_, ?_, ?_⟩
  · rw [← hmore, List.drop_left, List.flatMap_append, Utf8.encode_append, hcarries.wire,
      List.append_assoc]
  · rw [← hmore]
    exact hcarries.reader.extend
  · intro other hother
    obtain rfl : q = other := Option.some.inj (hq.symm.trans hother)
    exact ⟨next, hafter, hadvances.origin.1.trans hconversation,
      hadvances.origin.2.trans horigin, rfl⟩

/-- The page connects after the event that it has seen last. -/
theorem Valid.connect (h : w.Valid conversationId n) {after : Nat}
    (hafter : w.store.tables.afterSequence conversationId w.client.lastEventId = .ok after) :
    (⟨w.store.subscribe conversationId after, { w.client with connectionState := .connected },
      some ⟨some w.store.nextQueue, [], .start⟩⟩ : StreamWorld).Valid conversationId n := by
  have hknown : w.store.tables.nextEventSequence conversationId ≠ none := by
    intro hnone
    rw [EventTables.afterSequence, if_pos hnone] at hafter
    cases hafter
  obtain rfl : n = after := Except.ok.inj ((h.afterSequence hknown).symm.trans hafter)
  refine ⟨h.reachable.step (.subscribe conversationId n), h.named, h.client.state _, ?_⟩
  rintro _ ⟨⟩
  refine ⟨rfl, n, [], [], 0, rfl, List.nil_prefix, rfl, .start, ?_⟩
  rintro q ⟨⟩
  exact ⟨.start conversationId n, by simp [EventStore.subscribe], rfl, rfl, rfl⟩

/-- The events that a chunk completes are handled. -/
theorem Valid.read (h : w.Valid conversationId n) {link : StreamLink} {chunk rest : List UInt8}
    (hlink : w.link = some link) (harrives : link.wire = chunk ++ rest) :
    ∃ n', ({ w with
        client := (link.reader.read chunk).2.foldl .handleFrame w.client
        link := some { link with
          wire := rest
          reader := (link.reader.read chunk).1 } } : StreamWorld).Valid conversationId n' := by
  obtain ⟨hconnected, origin, sent, taken, count, rfl, hcarries⟩ := h.link link hlink
  have hsendable : ∀ e ∈ sent, e.Sendable := fun e he =>
    h.sendable e (List.mem_of_mem_drop (hcarries.piece.subset he))
  have hwire : Utf8.encode (sent.flatMap sseEvent) = (taken ++ chunk) ++ rest := by
    rw [hcarries.wire, harrives, List.append_assoc]
  obtain ⟨k, hk, hframes, hreader⟩ := hcarries.reader.read hsendable ⟨rest, hwire.symm⟩
  have hnext : (sent.drop count).take k <+:
      (w.store.events conversationId).drop (origin + count) := by
    rw [← List.drop_drop]
    exact (List.take_prefix _ _).trans (hcarries.piece.drop count)
  have hlength : ((sent.drop count).take k).length = k := by
    rw [List.length_take, List.length_drop]
    omega
  obtain ⟨hclient, hstate⟩ := h.client.handles h.numbered h.ids h.sendable _ hnext
  rw [hlength] at hclient
  refine ⟨origin + count + k, h.reachable, h.named, ?_, ?_⟩
  · rw [hframes]
    exact hclient
  · rintro _ ⟨⟩
    refine ⟨?_, origin, sent, taken ++ chunk, count + k, Nat.add_assoc .., hcarries.piece, hwire,
      hreader, hcarries.queue⟩
    rw [hframes]
    exact hstate hconnected

/-- A response ends anywhere; the page keeps what it has handled. -/
theorem Valid.finish (h : w.Valid conversationId n) {link : StreamLink}
    (hlink : w.link = some link) :
    ({ w with
        client := (link.reader.finish.foldl .handleFrame w.client).waiting
        link := none } : StreamWorld).Valid conversationId n := by
  obtain ⟨-, origin, sent, taken, count, -, hcarries⟩ := h.link link hlink
  refine ⟨h.reachable, h.named, ?_, nofun⟩
  rw [hcarries.reader.finish]
  exact h.client.state _

/-- One step: the page has handled as many events as before, or some that follow them. -/
theorem Valid.step (h : w.Valid conversationId n) (hstep : Step conversationId w w') :
    ∃ n', w'.Valid conversationId n' := by
  cases hstep with
  | store hstore hnamed hapart => exact ⟨n, h.store hstore hnamed hapart⟩
  | send hlink hq hadvance hbefore hafter => exact ⟨n, h.send hlink hq hadvance hbefore hafter⟩
  | close hlink hq hbefore =>
    refine ⟨n, h.reachable.step (.unsubscribe _ hbefore), h.named, h.client, ?_⟩
    rintro _ ⟨⟩
    obtain ⟨hconnected, origin, sent, taken, count, hn, hcarries⟩ := h.link _ hlink
    exact ⟨hconnected, origin, sent, taken, count, hn, hcarries.piece, hcarries.wire,
      hcarries.reader, nofun⟩
  | restart =>
    refine ⟨n, h.reachable.step .restart, h.named, h.client, fun cut hcut => ?_⟩
    obtain ⟨link, hlink, rfl⟩ := Option.map_eq_some_iff.mp hcut
    obtain ⟨hconnected, origin, sent, taken, count, hn, hcarries⟩ := h.link link hlink
    exact ⟨hconnected, origin, sent, taken, count, hn, hcarries.piece, hcarries.wire,
      hcarries.reader, nofun⟩
  | connect hapart hcursor => exact ⟨n, h.connect hcursor⟩
  | refuse hapart hcursor =>
    exact ⟨n, h.reachable, h.named, h.client.state _, fun link hlink =>
      absurd (hapart.symm.trans hlink) nofun⟩
  | read hlink harrives => exact h.read hlink harrives
  | finish hlink => exact ⟨n, h.finish hlink⟩
  | break_ hlink => exact ⟨n, h.reachable, h.named, h.client.state _, nofun⟩

theorem Reachable.valid (h : Reachable conversationId w) : ∃ n, w.Valid conversationId n := by
  induction h with
  | open_ hreachable hnamed =>
    exact ⟨0, hreachable, hnamed, ⟨Nat.zero_le _, rfl, rfl, rfl, rfl, rfl⟩, nofun⟩
  | step _ hstep ih =>
    obtain ⟨n, hvalid⟩ := ih
    exact hvalid.step hstep

/-- In every state of a page and its server, the page has called `onEvent` for the first `n` events
    of the log, each once and in order, and without a gap; a new connection goes on after them. Once
    a subscription waits and its bytes have arrived, these are all. -/
theorem page_follows_log (h : Reachable conversationId w) :
    ∃ n ≤ (w.store.events conversationId).length,
      w.client.events = ((w.store.events conversationId).take n).map (·.toDict) ∧
      w.client.contiguousSequence = n ∧
      (w.store.tables.nextEventSequence conversationId ≠ none →
        w.store.tables.afterSequence conversationId w.client.lastEventId = .ok n) ∧
      ∀ link ∈ w.link, w.client.connectionState = .connected ∧
        ∀ q ∈ link.queue, w.store.Suspended q → link.wire = [] →
          n = (w.store.events conversationId).length := by
  obtain ⟨n, hvalid⟩ := h.valid
  refine ⟨n, hvalid.client.bound, hvalid.client.events, hvalid.client.contiguousSequence,
    hvalid.afterSequence, fun link hlink => ⟨(hvalid.link link hlink).1, ?_⟩⟩
  intro q hq hsuspended hwire
  exact hvalid.caughtUp hlink hq hsuspended hwire

/-! ### A page catches up -/

/-- A subscription that is left alone sends all that it yields. -/
theorem sends {q : Nat} {t : EventStore JsonText} {link : StreamLink} (hlink : w.link = some link)
    (hq : link.queue = some q) (hpulls : EventStore.Pulls q w.store t) :
    ∃ wire, Relation.ReflTransGen (Step conversationId) w
      { w with
        store := t
        link := some { link with wire := wire } } := by
  generalize hs : w.store = s at hpulls
  induction hpulls with
  | refl =>
    refine ⟨link.wire, ?_⟩
    rw [← hs, ← hlink]
  | step _ hadvance ih =>
    obtain ⟨wire, hsteps⟩ := ih
    obtain ⟨sub, next, queue, hsub, -, rfl⟩ := EventStore.advance_cases hadvance
    have hserved : ({ link with wire := wire } : StreamLink).queue = some q := hq
    have hsend := hsteps.tail
      (.send rfl hserved hadvance hsub (EventStore.setSubscription_self _ q next))
    exact ⟨_, hsend⟩

/-- From every state, the page and the server can go on by themselves until the page has handled
    the whole log: the page connects, the subscription sends, and the bytes arrive. -/
theorem page_catches_up (h : Reachable conversationId w)
    (hknown : w.store.tables.nextEventSequence conversationId ≠ none) :
    ∃ w', Relation.ReflTransGen (Step conversationId) w w' ∧
      w'.store.tables = w.store.tables ∧
      w'.client.events = (w.store.events conversationId).map (·.toDict) ∧
      w'.client.connectionState = .connected := by
  have hapart : ∃ apart, Relation.ReflTransGen (Step conversationId) w apart ∧
      apart.store = w.store ∧ apart.link = none := by
    cases hlink : w.link with
    | none => exact ⟨w, .refl, rfl, hlink⟩
    | some link => exact ⟨_, .single (.break_ hlink), rfl, rfl⟩
  obtain ⟨apart, hbreak, hstore, hnone⟩ := hapart
  have hreachable : ∀ {w' : StreamWorld}, Relation.ReflTransGen (Step conversationId) w w' →
      Reachable conversationId w' := by
    intro w' hsteps
    induction hsteps with
    | refl => exact h
    | tail _ hstep ih => exact ih.step hstep
  rw [← hstore] at hknown
  obtain ⟨n, hvalid⟩ := (hreachable hbreak).valid
  have hconnect := hbreak.tail (.connect hnone (hvalid.afterSequence hknown))
  obtain ⟨m, hconnected⟩ := (hreachable hconnect).valid
  have hsub : (apart.store.subscribe conversationId n).subscriptions apart.store.nextQueue =
      some (.start conversationId n) := by
    simp [EventStore.subscribe]
  obtain ⟨t, final, hpulls, htables, hsuspended, -, -⟩ :=
    hconnected.reachable.valid.drains hsub fun h => by cases h
  obtain ⟨wire, hsends⟩ := sends rfl rfl hpulls
  have hread := (hconnect.trans hsends).tail (.read rfl (List.append_nil wire).symm)
  obtain ⟨m, hlast⟩ := (hreachable hread).valid
  have hall := hlast.caughtUp rfl rfl hsuspended rfl
  have hevents : t.events conversationId = w.store.events conversationId := by
    rw [EventStore.events, htables, ← hstore]
    rfl
  refine ⟨_, hread, ?_, ?_, (hlast.link _ rfl).1⟩
  · rw [← hstore]
    exact htables
  · rw [hlast.client.events, hall, List.take_length, hevents]

end StreamWorld

end AfterSales

/-! ### A page at the first event -/

namespace AfterSales.StreamWorld

open EventStore JsonText

section FirstEvent

local instance anyJson : EventPayload JsonText := ⟨fun _ => true⟩
local instance epoch : TimestampText := ⟨fun _ => "1970-01-01T00:00:00Z"⟩

def caseOpened : EventDraft JsonText where
  conversationId := caseCreated.conversationId
  eventType := caseCreated.eventType
  visibility := caseCreated.visibility
  summary := caseCreated.summary
  payload := .object []
  evidenceRefs := []
  caseId := none
  runId := none
  schemaVersion := caseCreated.schemaVersion
  timestamp := none
  eventId := caseCreated.eventId
  namesConversation := caseCreated.namesConversation
  namesType := caseCreated.namesType
  versioned := caseCreated.versioned
  summarized := caseCreated.summarized

/-- A conversation with one event. -/
def firstEvent : EventStore JsonText :=
  let created : EventStore JsonText :=
    { opened .empty with tables := EventTables.empty.createConversation "CONV-1" }
  (created.append caseOpened 0).toOption.getD created

/-- A page that has just connected to it. -/
def firstPage : StreamWorld :=
  ⟨firstEvent.subscribe "CONV-1" 0, { StreamClient.start with connectionState := .connected },
    some ⟨some 0, [], .start⟩⟩

theorem firstEvent_named : ∀ e ∈ firstEvent.tables.rows, StreamId e.eventId := by
  intro e he
  obtain rfl : e = EventTables.row caseOpened 1 0 := List.mem_singleton.mp he
  exact ⟨by decide, onOneLine_of_all (by decide)⟩

theorem firstPage_reachable : Reachable "CONV-1" firstPage :=
  .step (.open_ (.step (.step .init (.createConversation "CONV-1" rfl)) (.append caseOpened 0 rfl))
    firstEvent_named) (.connect rfl rfl)

/-- The subscription of a page goes on, and a page reads what is under way. -/
def sent (w : StreamWorld) : StreamWorld :=
  (w.link.bind fun link => link.queue.bind fun q => (w.store.advance q).bind fun s =>
    (w.store.subscriptions q).bind fun sub => (s.subscriptions q).map fun sub' =>
      { w with
        store := s
        link := some { link with
          wire := link.wire ++
            Utf8.encode ((sub'.received.drop sub.received.length).flatMap sseEvent) } }).getD w

def readAll (w : StreamWorld) : StreamWorld :=
  (w.link.map fun link =>
    { w with
      client := (link.reader.read link.wire).2.foldl .handleFrame w.client
      link := some { link with
        wire := []
        reader := (link.reader.read link.wire).1 } }).getD w

theorem Reachable.sent {w : StreamWorld} (h : Reachable "CONV-1" w) : Reachable "CONV-1" (sent w) := by
  unfold StreamWorld.sent
  generalize hgoes : w.link.bind _ = goes
  cases goes with
  | none => exact h
  | some w' =>
    simp only [Option.bind_eq_some_iff, Option.map_eq_some_iff] at hgoes
    obtain ⟨link, hlink, q, hq, s, hadvance, sub, hsub, sub', hsub', rfl⟩ := hgoes
    exact .step h (.send hlink hq hadvance hsub hsub')

theorem Reachable.readAll {w : StreamWorld} (h : Reachable "CONV-1" w) :
    Reachable "CONV-1" (readAll w) := by
  unfold StreamWorld.readAll
  cases hlink : w.link with
  | none => exact h
  | some link => exact .step h (.read hlink (List.append_nil link.wire).symm)

/-- The page has seen the first event, and a second one is appended. -/
def secondEvent : StreamWorld :=
  let w := readAll (sent (sent (sent firstPage)))
  { w with store := (w.store.append { caseOpened with eventId := "EVT-2" } 0).toOption.getD w.store }

theorem secondEvent_reachable : Reachable "CONV-1" secondEvent := by
  have hseen := firstPage_reachable.sent.sent.sent.readAll
  have hids : secondEvent.store.tables.rows.map (·.eventId) = ["EVT-1", "EVT-2"] := by
    decide +kernel
  have hnamed : ∀ e ∈ secondEvent.store.tables.rows, StreamId e.eventId := by
    intro e he
    have hid : e.eventId ∈ secondEvent.store.tables.rows.map (·.eventId) := List.mem_map_of_mem he
    rw [hids, List.mem_pair] at hid
    rcases hid with hid | hid <;> rw [hid] <;> exact ⟨by decide, onOneLine_of_all (by decide)⟩
  unfold secondEvent at hnamed ⊢
  simp only at hnamed ⊢
  generalize readAll (sent (sent (sent firstPage))) = w at *
  cases happend : w.store.append { caseOpened with eventId := "EVT-2" } 0 with
  | error e => exact hseen
  | ok s =>
    rw [happend] at hnamed
    refine .step hseen (.store (.append _ 0 happend) hnamed fun _ _ _ _ => ?_)
    unfold EventStore.append at happend
    split at happend
    · cases happend
    · rw [← Except.ok.inj happend]
      rfl

/-- The page shows the first of the two events. -/
theorem secondEvent_follows_log :
    (secondEvent.store.events "CONV-1").length = 2 ∧ secondEvent.client.contiguousSequence = 1 ∧
      secondEvent.client.events = ((secondEvent.store.events "CONV-1").take 1).map (·.toDict) := by
  obtain ⟨n, -, hevents, hsequence, -⟩ := page_follows_log secondEvent_reachable
  have hfirst : secondEvent.client.contiguousSequence = 1 := by decide +kernel
  obtain rfl : n = 1 := hsequence.symm.trans hfirst
  exact ⟨by decide +kernel, hfirst, hevents⟩

/-- The page can come to have seen the event. -/
theorem firstPage_catches_up :
    ∃ w', Relation.ReflTransGen (Step "CONV-1") firstPage w' ∧
      w'.client.events = [(EventTables.row caseOpened 1 0).toDict] := by
  obtain ⟨w', hsteps, -, hevents, -⟩ := page_catches_up firstPage_reachable (by decide)
  exact ⟨w', hsteps, hevents⟩

end FirstEvent

end AfterSales.StreamWorld
