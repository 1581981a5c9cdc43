import AfterSales.Events.Store

/-! Delivery of the event log to its subscribers.

    The log of a conversation is numbered 1, 2, …, so the events past a cursor are the log from that
    position on. What a subscriber has yielded is a contiguous piece of the log that starts at its
    cursor's origin. Its queue is the log from some position on; by the time it goes live that
    position is not past its cursor, so the queue can repeat events but not miss one. -/

namespace AfterSales

variable {P : Type}

/-! ### The log of a conversation -/

/-- Events numbered 1, 2, … in order. -/
def Numbered (log : List (EventEnvelope P)) : Prop :=
  log.map (·.sequence) = List.range' 1 log.length

namespace Numbered

variable {log : List (EventEnvelope P)}

theorem sequence_getElem (h : Numbered log) {i : Nat} (hi : i < log.length) :
    log[i].sequence = i + 1 := by
  have hmap := congrArg (fun numbers : List Nat => numbers[i]?) h
  simp only [List.getElem?_map, List.getElem?_eq_getElem hi, Option.map_some] at hmap
  rw [List.getElem?_range' (by omega)] at hmap
  have hnumber := Option.some.inj hmap
  omega

theorem snoc (h : Numbered log) {event : EventEnvelope P}
    (hsequence : event.sequence = log.length + 1) : Numbered (log ++ [event]) := by
  unfold Numbered at h ⊢
  rw [List.map_append, h, List.length_append, List.length_singleton, List.range'_concat]
  simp [hsequence, Nat.add_comm]

/-- The events past a cursor are the log from that position on. -/
theorem filter_gt (h : Numbered log) (cursor : Nat) :
    (log.filter fun e => decide (cursor < e.sequence)) = log.drop cursor := by
  have hsplit := List.take_append_drop cursor log
  have hbefore : (log.take cursor).filter (fun e => decide (cursor < e.sequence)) = [] := by
    rw [List.filter_eq_nil_iff]
    intro e he
    obtain ⟨i, hi, rfl⟩ := List.getElem_of_mem he
    rw [List.length_take] at hi
    rw [List.getElem_take, h.sequence_getElem (by omega)]
    simp only [decide_eq_true_eq, not_lt]
    omega
  have hafter : (log.drop cursor).filter (fun e => decide (cursor < e.sequence))
      = log.drop cursor := by
    rw [List.filter_eq_self]
    intro e he
    obtain ⟨i, hi, rfl⟩ := List.getElem_of_mem he
    rw [List.length_drop] at hi
    rw [List.getElem_drop, h.sequence_getElem (by omega)]
    simp only [decide_eq_true_eq]
    omega
  calc (log.filter fun e => decide (cursor < e.sequence))
      = (log.take cursor ++ log.drop cursor).filter (fun e => decide (cursor < e.sequence)) := by
        rw [hsplit]
    _ = log.drop cursor := by rw [List.filter_append, hbefore, hafter, List.nil_append]

/-- A piece of the log that begins past a cursor is numbered from there. -/
theorem prefix_drop (h : Numbered log) {cursor : Nat} {piece : List (EventEnvelope P)}
    (hpiece : piece <+: log.drop cursor) :
    piece.map (·.sequence) = List.range' (cursor + 1) piece.length := by
  refine List.ext_getElem (by simp) fun i hi hi' => ?_
  rw [List.length_map] at hi
  have hle := hpiece.length_le
  rw [List.length_drop] at hle
  have hget : piece[i] = log[cursor + i] := by
    rw [hpiece.getElem hi, List.getElem_drop]
  rw [List.getElem_map, hget, h.sequence_getElem (by omega), List.getElem_range']
  omega

theorem sorted (h : Numbered log) : log.Pairwise fun a b => a.sequence ≤ b.sequence := by
  rw [List.pairwise_iff_getElem]
  intro i j hi hj hij
  rw [h.sequence_getElem hi, h.sequence_getElem hj]
  omega

end Numbered

namespace EventTables

variable {t : EventTables P}

/-- Every conversation counts the events it holds, and they are numbered. -/
structure Valid (t : EventTables P) : Prop where
  numbered : ∀ conversationId, Numbered (t.events conversationId)
  counted : ∀ conversationId,
    (t.nextEventSequence conversationId).getD 0 = (t.events conversationId).length

theorem Valid.empty : Valid (EventTables.empty : EventTables P) :=
  ⟨fun _ => rfl, fun _ => rfl⟩

theorem Valid.createConversation (h : t.Valid) {conversationId : String}
    (hnew : t.nextEventSequence conversationId = none) :
    (t.createConversation conversationId).Valid := by
  refine ⟨h.numbered, fun other => ?_⟩
  rw [show (t.createConversation conversationId).events other = t.events other from rfl,
    ← h.counted other]
  by_cases hother : other = conversationId
  · subst hother
    simp [EventTables.createConversation, hnew]
  · simp [EventTables.createConversation, hother]

/-- A committed event extends the log of its own conversation, under the next number. -/
theorem append_ok [EventPayload P] {draft : EventDraft P} {now : Instant}
    {event : EventEnvelope P} {t' : EventTables P} (h : t.append draft now = .ok (event, t')) :
    ∃ current, t.nextEventSequence draft.conversationId = some current ∧
      event = row draft (current + 1) now ∧
      t' = { nextEventSequence :=
               Function.update t.nextEventSequence draft.conversationId (some (current + 1))
             rows := t.rows ++ [event] } := by
  unfold append at h
  split at h
  · cases h
  · rename_i current hcurrent
    simp only at h
    split at h
    · cases h
    · split at h
      · cases h
      · obtain ⟨rfl, rfl⟩ := Prod.mk.inj (Except.ok.inj h)
        exact ⟨current, hcurrent, rfl, rfl⟩

theorem events_append [EventPayload P] {draft : EventDraft P} {now : Instant}
    {event : EventEnvelope P} {t' : EventTables P} (h : t.append draft now = .ok (event, t'))
    (conversationId : String) :
    t'.events conversationId =
      if event.conversationId = conversationId then t.events conversationId ++ [event]
      else t.events conversationId := by
  obtain ⟨current, -, -, rfl⟩ := append_ok h
  unfold events
  rw [List.filter_append]
  split
  · simp [*]
  · simp [*]

theorem Valid.append [EventPayload P] (h : t.Valid) {draft : EventDraft P} {now : Instant}
    {event : EventEnvelope P} {t' : EventTables P} (happend : t.append draft now = .ok (event, t')) :
    t'.Valid := by
  have hevents := events_append happend
  obtain ⟨current, hcurrent, hrow, htables⟩ := append_ok happend
  have hcount : current = (t.events draft.conversationId).length := by
    rw [← h.counted, hcurrent]
    rfl
  have hconversation : event.conversationId = draft.conversationId := by rw [hrow]; rfl
  constructor
  · intro conversationId
    rw [hevents]
    split
    · rename_i hown
      refine (h.numbered conversationId).snoc ?_
      rw [← hown, hconversation, hrow, ← hcount]
      rfl
    · exact h.numbered conversationId
  · intro conversationId
    rw [hevents, hconversation, htables]
    by_cases hown : draft.conversationId = conversationId
    · subst hown
      simp [hcount]
    · simp [hown, Ne.symm hown, h.counted]

/-- A page is the log from the cursor on, up to the limit. -/
theorem Valid.listAfter_eq (h : t.Valid) (conversationId : String) (cursor limit : Nat) :
    t.listAfter conversationId cursor limit =
      ((t.events conversationId).drop cursor).take limit := by
  have hfilter : (t.rows.filter fun r => r.conversationId = conversationId ∧ cursor < r.sequence)
      = (t.events conversationId).drop cursor := by
    rw [← (h.numbered conversationId).filter_gt, events, List.filter_filter]
    refine List.filter_congr fun r _ => ?_
    rw [Bool.decide_and, Bool.and_comm]
  have hsorted := ((h.numbered conversationId).sorted.sublist (List.drop_sublist cursor _))
  rw [listAfter, hfilter, hsorted.insertionSort_eq]

/-- The references of a scope, in the order their events were committed. -/
theorem Valid.listEvidenceRefs_eq (h : t.Valid) (conversationId : String)
    (caseId runId : Option String) : t.listEvidenceRefs conversationId caseId runId =
      (t.rows.filter (inScope conversationId caseId runId)).flatMap linkedRefs := by
  have hsub : (t.rows.filter (inScope conversationId caseId runId)).Sublist
      (t.events conversationId) := by
    refine List.monotone_filter_right _ fun r hr => ?_
    simp only [inScope, decide_eq_true_eq] at hr ⊢
    exact hr.1
  rw [listEvidenceRefs, ((h.numbered conversationId).sorted.sublist hsub).insertionSort_eq]

/-- A committed event adds its references to its scopes, and to no other. -/
theorem Valid.listEvidenceRefs_append [EventPayload P] (h : t.Valid) {draft : EventDraft P}
    {now : Instant} {event : EventEnvelope P} {t' : EventTables P}
    (happend : t.append draft now = .ok (event, t')) (conversationId : String)
    (caseId runId : Option String) : t'.listEvidenceRefs conversationId caseId runId =
      t.listEvidenceRefs conversationId caseId runId ++
        if inScope conversationId caseId runId event then linkedRefs event else [] := by
  rw [h.listEvidenceRefs_eq, (h.append happend).listEvidenceRefs_eq]
  obtain ⟨current, -, -, rfl⟩ := append_ok happend
  simp only [List.filter_append, List.flatMap_append]
  split
  · rename_i hscope
    simp [hscope]
  · rename_i hscope
    simp [hscope]

end EventTables

/-! ### One subscriber -/

namespace Subscription

variable {log queue : List (EventEnvelope P)} {sub : Subscription P}

/-- What was yielded is the log from the origin up to the cursor. -/
structure Delivered (sub : Subscription P) (log : List (EventEnvelope P)) : Prop where
  contiguous : sub.received <+: log.drop sub.afterSequence
  cursor_eq : sub.cursor = sub.afterSequence + sub.received.length

/-- The queue is the log from `m` on, and the phase has not lost the events before it. -/
def Covers (sub : Subscription P) (log : List (EventEnvelope P)) (m : Nat) : Prop :=
  match sub.phase with
  | .paging => True
  | .page rest short =>
    rest <+: log.drop sub.cursor ∧ (short = true → m ≤ sub.cursor + rest.length)
  | .live => m ≤ sub.cursor
  | .closed => True

structure Valid (sub : Subscription P) (log queue : List (EventEnvelope P)) : Prop
    extends Delivered sub log where
  queued : sub.phase ≠ .closed → ∃ m ≤ log.length, queue = log.drop m ∧ sub.Covers log m

theorem drop_prefix_append {α : Type} (l : List α) (a : α) (n : Nat) :
    l.drop n <+: (l ++ [a]).drop n :=
  (List.prefix_append l [a]).drop n

theorem Delivered.snoc (h : sub.Delivered log) (event : EventEnvelope P) :
    sub.Delivered (log ++ [event]) :=
  ⟨h.contiguous.trans (drop_prefix_append ..), h.cursor_eq⟩

/-- An event that was committed and queued. -/
theorem Valid.publish (h : sub.Valid log queue) (event : EventEnvelope P) :
    sub.Valid (log ++ [event]) (queue ++ [event]) := by
  refine ⟨h.toDelivered.snoc event, fun hopen => ?_⟩
  obtain ⟨m, hm, hqueue, hcovers⟩ := h.queued hopen
  refine ⟨m, by simp only [List.length_append]; omega, ?_, ?_⟩
  · rw [hqueue, List.drop_append_of_le_length hm]
  · unfold Covers at hcovers ⊢
    split
    · trivial
    · rename_i rest short hphase
      rw [hphase] at hcovers
      exact ⟨hcovers.1.trans (drop_prefix_append ..), hcovers.2⟩
    · rename_i hphase
      rw [hphase] at hcovers
      exact hcovers
    · trivial

/-- The next event of the log moves the cursor past it. -/
theorem Delivered.offer_next (h : sub.Delivered log) (hlog : Numbered log)
    {event : EventEnvelope P} {rest : List (EventEnvelope P)}
    (hnext : event :: rest <+: log.drop sub.cursor) :
    (sub.offer event).Delivered log ∧ (sub.offer event).cursor = sub.cursor + 1 ∧
      rest <+: log.drop (sub.cursor + 1) := by
  obtain ⟨tail, htail⟩ := hnext
  have hlt : sub.cursor < log.length := by
    have hlength := congrArg List.length htail
    simp only [List.cons_append, List.length_cons, List.length_drop] at hlength
    omega
  have hcons := List.drop_eq_getElem_cons hlt
  rw [hcons, List.cons_append] at htail
  obtain ⟨hevent, hrest⟩ := List.cons.inj htail
  have hsequence : event.sequence = sub.cursor + 1 := by
    rw [hevent, hlog.sequence_getElem hlt]
  have hoffer : sub.offer event =
      { sub with cursor := event.sequence, received := sub.received ++ [event] } := by
    rw [offer, if_pos (by omega)]
  rw [hoffer]
  refine ⟨⟨?_, ?_⟩, hsequence, ⟨tail, hrest⟩⟩
  · -- What was yielded ends where the event begins.
    obtain ⟨later, hlater⟩ := h.contiguous
    have hdrop : log.drop sub.cursor = later := by
      rw [h.cursor_eq, ← List.drop_drop, ← hlater, List.drop_left]
    refine ⟨log.drop (sub.cursor + 1), ?_⟩
    rw [← hlater, ← hdrop, hcons, hevent, List.append_assoc, List.singleton_append]
  · simp only [hsequence, List.length_append, List.length_singleton, h.cursor_eq]
    omega

theorem offer_seen {event : EventEnvelope P} (h : event.sequence ≤ sub.cursor) :
    sub.offer event = sub := by
  rw [offer, if_neg (by omega)]

theorem offer_phase (sub : Subscription P) (event : EventEnvelope P) :
    (sub.offer event).phase = sub.phase := by
  unfold offer
  split <;> rfl

theorem offer_conversationId (sub : Subscription P) (event : EventEnvelope P) :
    (sub.offer event).conversationId = sub.conversationId := by
  unfold offer
  split <;> rfl

theorem offer_afterSequence (sub : Subscription P) (event : EventEnvelope P) :
    (sub.offer event).afterSequence = sub.afterSequence := by
  unfold offer
  split <;> rfl

theorem Valid.start (conversationId : String) (afterSequence : Nat)
    (log : List (EventEnvelope P)) : (start conversationId afterSequence).Valid log [] :=
  ⟨⟨List.nil_prefix, rfl⟩, fun _ => ⟨log.length, le_rfl, by simp, trivial⟩⟩

/-- A page shorter than its limit ends the log it was read from. -/
theorem Valid.turnTo (h : sub.Valid log queue) (hphase : sub.phase = .paging) :
    (sub.turnTo ((log.drop sub.cursor).take pageSize)).Valid log queue := by
  obtain ⟨m, hm, hqueue, -⟩ := h.queued (by rw [hphase]; exact nofun)
  unfold Subscription.turnTo
  split
  · rename_i hempty
    refine ⟨⟨h.contiguous, h.cursor_eq⟩, fun _ => ⟨m, hm, hqueue, ?_⟩⟩
    have hend : log.length ≤ sub.cursor := by
      simpa [pageSize] using hempty
    exact hm.trans hend
  · rename_i hsome
    refine ⟨⟨h.contiguous, h.cursor_eq⟩, fun _ => ⟨m, hm, hqueue, ?_, ?_⟩⟩
    · exact List.take_prefix _ _
    · intro hshort
      have hshort := of_decide_eq_true hshort
      simp only [List.isEmpty_iff, List.take_eq_nil_iff, List.drop_eq_nil_iff, pageSize] at hsome
      simp only [List.length_take, List.length_drop] at hshort ⊢
      omega

/-- A page that was yielded to its end. -/
theorem Valid.endPage (h : sub.Valid log queue) {short : Bool} (hphase : sub.phase = .page [] short) :
    ({ sub with phase := if short then .live else .paging } : Subscription P).Valid log queue := by
  obtain ⟨m, hm, hqueue, hcovers⟩ := h.queued (by rw [hphase]; exact nofun)
  rw [Covers, hphase] at hcovers
  refine ⟨⟨h.contiguous, h.cursor_eq⟩, fun _ => ⟨m, hm, hqueue, ?_⟩⟩
  cases short with
  | false => trivial
  | true => exact hcovers.2 rfl

/-- A replayed event is yielded. -/
theorem Valid.yieldPage (h : sub.Valid log queue) (hlog : Numbered log) {event : EventEnvelope P}
    {rest : List (EventEnvelope P)} {short : Bool} (hphase : sub.phase = .page (event :: rest) short) :
    (({ sub with phase := .page rest short } : Subscription P).offer event).Valid log queue := by
  obtain ⟨m, hm, hqueue, hcovers⟩ := h.queued (by rw [hphase]; exact nofun)
  rw [Covers, hphase] at hcovers
  have hdelivered : ({ sub with phase := .page rest short } : Subscription P).Delivered log :=
    ⟨h.contiguous, h.cursor_eq⟩
  obtain ⟨hnext, hcursor, hrest⟩ := hdelivered.offer_next hlog hcovers.1
  refine ⟨hnext, fun _ => ⟨m, hm, hqueue, ?_⟩⟩
  rw [Covers, offer_phase, hcursor]
  refine ⟨hrest, fun hshort => ?_⟩
  have hbound := hcovers.2 hshort
  simp only [List.length_cons] at hbound
  show m ≤ sub.cursor + 1 + rest.length
  omega

/-- A queued event is yielded, or was replayed already. -/
theorem Valid.takeQueue (h : sub.Valid log queue) (hlog : Numbered log) {event : EventEnvelope P}
    {rest : List (EventEnvelope P)} (hphase : sub.phase = .live) (hqueue : queue = event :: rest) :
    (sub.offer event).Valid log rest := by
  obtain ⟨m, hm, hsuffix, hcovers⟩ := h.queued (by rw [hphase]; exact nofun)
  rw [Covers, hphase] at hcovers
  have hlt : m < log.length := by
    have hlength := congrArg List.length (hqueue.symm.trans hsuffix)
    simp only [List.length_cons, List.length_drop] at hlength
    omega
  have hcons := List.drop_eq_getElem_cons hlt
  rw [← hsuffix, hqueue] at hcons
  obtain ⟨hevent, hrest⟩ := List.cons.inj hcons
  have hsequence : event.sequence = m + 1 := by
    rw [hevent, hlog.sequence_getElem hlt]
  by_cases hseen : event.sequence ≤ sub.cursor
  · rw [offer_seen hseen]
    refine ⟨h.toDelivered, fun _ => ⟨m + 1, hlt, hrest, ?_⟩⟩
    rw [Covers, hphase]
    show m + 1 ≤ sub.cursor
    omega
  · have hm' : m = sub.cursor := by
      have : m ≤ sub.cursor := hcovers
      omega
    have hnext : event :: rest <+: log.drop sub.cursor := by
      rw [← hm', ← hsuffix, hqueue]
    obtain ⟨hdelivered, hcursor, -⟩ := h.toDelivered.offer_next hlog hnext
    refine ⟨hdelivered, fun _ => ⟨m + 1, hlt, hrest, ?_⟩⟩
    rw [Covers, offer_phase, hphase]
    show m + 1 ≤ (sub.offer event).cursor
    omega

/-- A subscriber that waits on an empty queue has yielded the whole log from its origin on. -/
theorem Valid.complete (h : sub.Valid log []) (hphase : sub.phase = .live) :
    sub.received = log.drop sub.afterSequence := by
  obtain ⟨m, hm, hqueue, hcovers⟩ := h.queued (by rw [hphase]; exact nofun)
  rw [Covers, hphase] at hcovers
  have hend : log.length ≤ sub.cursor := by
    have hlength := congrArg List.length hqueue
    simp only [List.length_nil, List.length_drop] at hlength
    have : m ≤ sub.cursor := hcovers
    omega
  refine h.contiguous.eq_of_length_le ?_
  rw [List.length_drop]
  have := h.cursor_eq
  omega

end Subscription

/-! ### The whole store -/

namespace EventStore

variable {s s' : EventStore P}

/-- The invariant of a store: an open subscriber is registered, and only under its conversation. -/
structure Valid (s : EventStore P) : Prop where
  tables : s.tables.Valid
  delivery : ∀ q sub, s.subscriptions q = some sub →
    sub.Valid (s.events sub.conversationId) (s.queues q)
  registered : ∀ q sub, s.subscriptions q = some sub → sub.phase ≠ .closed →
    q ∈ s.subscribers sub.conversationId
  owned : ∀ conversationId, ∀ q ∈ s.subscribers conversationId,
    q < s.nextQueue ∧ ∀ sub, s.subscriptions q = some sub → sub.conversationId = conversationId

theorem Valid.opened {tables : EventTables P} (h : tables.Valid) : (opened tables).Valid :=
  ⟨h, nofun, nofun, by simp [EventStore.opened]⟩

theorem Valid.createConversation (h : s.Valid) {conversationId : String}
    (hnew : s.tables.nextEventSequence conversationId = none) :
    ({ s with tables := s.tables.createConversation conversationId } : EventStore P).Valid :=
  ⟨h.tables.createConversation hnew, h.delivery, h.registered, h.owned⟩

theorem Valid.append [EventPayload P] (h : s.Valid) {draft : EventDraft P} {now : Instant}
    (happend : s.append draft now = .ok s') : s'.Valid := by
  unfold EventStore.append at happend
  split at happend
  · cases happend
  · rename_i event tables htables
    obtain rfl := Except.ok.inj happend
    have hevents := EventTables.events_append htables
    refine ⟨h.tables.append htables, ?_, h.registered, h.owned⟩
    intro q sub hsub
    have hvalid := h.delivery q sub hsub
    show sub.Valid (tables.events sub.conversationId)
      (if q ∈ s.subscribers event.conversationId then s.queues q ++ [event] else s.queues q)
    rw [hevents]
    by_cases hown : event.conversationId = sub.conversationId
    · rw [if_pos hown]
      by_cases hclosed : sub.phase = .closed
      · exact ⟨hvalid.toDelivered.snoc event, fun hopen => absurd hclosed hopen⟩
      · rw [if_pos (hown ▸ h.registered q sub hsub hclosed)]
        exact hvalid.publish event
    · rw [if_neg hown]
      have hother : q ∉ s.subscribers event.conversationId := fun hmem =>
        hown ((h.owned _ q hmem).2 sub hsub).symm
      rw [if_neg hother]
      exact hvalid

theorem Valid.subscribe (h : s.Valid) (conversationId : String) (afterSequence : Nat) :
    (s.subscribe conversationId afterSequence).Valid := by
  refine ⟨h.tables, ?_, ?_, ?_⟩
  · intro q sub hsub
    by_cases hq : q = s.nextQueue
    · subst hq
      obtain rfl : Subscription.start conversationId afterSequence = sub := by
        simpa [EventStore.subscribe] using hsub
      simpa [EventStore.subscribe] using Subscription.Valid.start conversationId afterSequence _
    · have hsub' : s.subscriptions q = some sub := by
        simpa [EventStore.subscribe, hq] using hsub
      simpa [EventStore.subscribe, EventStore.events, hq] using h.delivery q sub hsub'
  · intro q sub hsub hopen
    by_cases hq : q = s.nextQueue
    · subst hq
      obtain rfl : Subscription.start conversationId afterSequence = sub := by
        simpa [EventStore.subscribe] using hsub
      simp [EventStore.subscribe, Subscription.start]
    · have hsub' : s.subscriptions q = some sub := by
        simpa [EventStore.subscribe, hq] using hsub
      have hmem := h.registered q sub hsub' hopen
      by_cases hconversation : sub.conversationId = conversationId
      · subst hconversation
        simpa [EventStore.subscribe] using Or.inr hmem
      · simpa [EventStore.subscribe, hconversation] using hmem
  · intro conversation q hmem
    by_cases hq : q = s.nextQueue
    · subst hq
      have hnew : conversation = conversationId := by
        by_contra hother
        have hmem' : s.nextQueue ∈ s.subscribers conversation := by
          simpa [EventStore.subscribe, hother] using hmem
        exact absurd (h.owned _ _ hmem').1 (lt_irrefl _)
      subst hnew
      refine ⟨Nat.lt_succ_self _, fun sub hsub => ?_⟩
      obtain rfl : Subscription.start conversation afterSequence = sub := by
        simpa [EventStore.subscribe] using hsub
      rfl
    · have hmem' : q ∈ s.subscribers conversation := by
        by_cases hconversation : conversation = conversationId
        · subst hconversation
          simpa [EventStore.subscribe, hq] using hmem
        · simpa [EventStore.subscribe, hconversation] using hmem
      obtain ⟨hlt, howned⟩ := h.owned _ q hmem'
      refine ⟨Nat.lt_succ_of_lt hlt, fun sub hsub => howned sub ?_⟩
      simpa [EventStore.subscribe, hq] using hsub

/-- A subscriber that changes without leaving its conversation. -/
theorem Valid.setSubscription (h : s.Valid) {q : Nat} {old sub : Subscription P}
    (hold : s.subscriptions q = some old) (hconversation : sub.conversationId = old.conversationId)
    (hopen : old.phase ≠ .closed) {queue : List (EventEnvelope P)}
    (hvalid : sub.Valid (s.events old.conversationId) queue) :
    ({ s with queues := Function.update s.queues q queue }.setSubscription q sub :
      EventStore P).Valid := by
  refine ⟨h.tables, ?_, ?_, ?_⟩
  · intro other sub' hsub'
    by_cases hq : other = q
    · subst hq
      obtain rfl : sub = sub' := by simpa [EventStore.setSubscription] using hsub'
      simpa [EventStore.setSubscription, EventStore.events, hconversation] using hvalid
    · have hsub : s.subscriptions other = some sub' := by
        simpa [EventStore.setSubscription, hq] using hsub'
      simpa [EventStore.setSubscription, EventStore.events, hq] using h.delivery other sub' hsub
  · intro other sub' hsub' hopen'
    by_cases hq : other = q
    · subst hq
      obtain rfl : sub = sub' := by simpa [EventStore.setSubscription] using hsub'
      rw [hconversation]
      exact h.registered other old hold hopen
    · exact h.registered other sub' (by simpa [EventStore.setSubscription, hq] using hsub') hopen'
  · intro conversation other hmem
    obtain ⟨hlt, howned⟩ := h.owned conversation other hmem
    refine ⟨hlt, fun sub' hsub' => ?_⟩
    by_cases hq : other = q
    · subst hq
      obtain rfl : sub = sub' := by simpa [EventStore.setSubscription] using hsub'
      rw [hconversation]
      exact howned old hold
    · exact howned sub' (by simpa [EventStore.setSubscription, hq] using hsub')

theorem Valid.unsubscribe (h : s.Valid) {q : Nat} {sub : Subscription P}
    (hsub : s.subscriptions q = some sub) : (s.unsubscribe q sub).Valid := by
  refine ⟨h.tables, ?_, ?_, ?_⟩
  · intro other sub' hsub'
    by_cases hq : other = q
    · subst hq
      obtain rfl : { sub with phase := .closed } = sub' := by
        simpa [EventStore.unsubscribe, EventStore.setSubscription] using hsub'
      obtain ⟨hcontiguous, hcursor⟩ := (h.delivery other sub hsub).toDelivered
      exact ⟨⟨hcontiguous, hcursor⟩, fun hopen => absurd rfl hopen⟩
    · refine h.delivery other sub' ?_
      simpa [EventStore.unsubscribe, EventStore.setSubscription, hq] using hsub'
  · intro other sub' hsub' hopen
    by_cases hq : other = q
    · subst hq
      obtain rfl : { sub with phase := .closed } = sub' := by
        simpa [EventStore.unsubscribe, EventStore.setSubscription] using hsub'
      exact absurd rfl hopen
    · have hmem := h.registered other sub'
        (by simpa [EventStore.unsubscribe, EventStore.setSubscription, hq] using hsub') hopen
      by_cases hconversation : sub'.conversationId = sub.conversationId
      · simpa [EventStore.unsubscribe, hconversation, hq] using hconversation ▸ hmem
      · simpa [EventStore.unsubscribe, EventStore.setSubscription, hconversation] using hmem
  · intro conversation other hmem
    have hmem' : other ∈ s.subscribers conversation := by
      by_cases hconversation : conversation = sub.conversationId
      · subst hconversation
        have := (Finset.mem_erase.mp (by simpa [EventStore.unsubscribe] using hmem)).2
        exact this
      · simpa [EventStore.unsubscribe, EventStore.setSubscription, hconversation] using hmem
    obtain ⟨hlt, howned⟩ := h.owned conversation other hmem'
    refine ⟨hlt, fun sub' hsub' => ?_⟩
    by_cases hq : other = q
    · subst hq
      obtain rfl : { sub with phase := .closed } = sub' := by
        simpa [EventStore.unsubscribe, EventStore.setSubscription] using hsub'
      exact howned sub hsub
    · exact howned sub' (by
        simpa [EventStore.unsubscribe, EventStore.setSubscription, hq] using hsub')

/-- What one step of a subscriber does to it and to its queue. -/
inductive Advances (s : EventStore P) (q : Nat) (sub : Subscription P) :
    Subscription P → List (EventEnvelope P) → Prop where
  | turn (h : sub.phase = .paging) : Advances s q sub
      (sub.turnTo (s.tables.listAfter sub.conversationId sub.cursor Subscription.pageSize))
      (s.queues q)
  | endPage (short : Bool) (h : sub.phase = .page [] short) : Advances s q sub
      { sub with phase := if short then .live else .paging } (s.queues q)
  | yieldPage (event : EventEnvelope P) (rest : List (EventEnvelope P)) (short : Bool)
      (h : sub.phase = .page (event :: rest) short) : Advances s q sub
      (({ sub with phase := .page rest short } : Subscription P).offer event) (s.queues q)
  | takeQueue (event : EventEnvelope P) (rest : List (EventEnvelope P)) (h : sub.phase = .live)
      (hqueue : s.queues q = event :: rest) : Advances s q sub (sub.offer event) rest

theorem advance_cases {q : Nat} (h : s.advance q = some s') :
    ∃ sub sub' queue, s.subscriptions q = some sub ∧ s.Advances q sub sub' queue ∧
      s' = { s with queues := Function.update s.queues q queue }.setSubscription q sub' := by
  have hsame : ∀ sub', s.setSubscription q sub' =
      { s with queues := Function.update s.queues q (s.queues q) }.setSubscription q sub' := by
    intro sub'
    rw [Function.update_eq_self]
  unfold advance at h
  obtain ⟨sub, hsub, h⟩ := Option.bind_eq_some_iff.mp h
  split at h
  · exact ⟨sub, _, _, hsub, .turn ‹_›, (Option.some.inj h).symm.trans (hsame _)⟩
  · exact ⟨sub, _, _, hsub, .endPage _ ‹_›, (Option.some.inj h).symm.trans (hsame _)⟩
  · exact ⟨sub, _, _, hsub, .yieldPage _ _ _ ‹_›, (Option.some.inj h).symm.trans (hsame _)⟩
  · split at h
    · cases h
    · exact ⟨sub, _, _, hsub, .takeQueue _ _ ‹_› ‹_›, (Option.some.inj h).symm⟩
  · cases h

/-- A subscriber keeps its conversation and its origin. -/
theorem Advances.origin {q : Nat} {sub sub' : Subscription P} {queue : List (EventEnvelope P)}
    (h : s.Advances q sub sub' queue) :
    sub'.conversationId = sub.conversationId ∧ sub'.afterSequence = sub.afterSequence := by
  cases h with
  | turn =>
    unfold Subscription.turnTo
    split <;> exact ⟨rfl, rfl⟩
  | endPage => exact ⟨rfl, rfl⟩
  | yieldPage event rest short =>
    exact ⟨Subscription.offer_conversationId .., Subscription.offer_afterSequence ..⟩
  | takeQueue event rest =>
    exact ⟨Subscription.offer_conversationId .., Subscription.offer_afterSequence ..⟩

theorem Advances.open {q : Nat} {sub sub' : Subscription P} {queue : List (EventEnvelope P)}
    (h : s.Advances q sub sub' queue) : sub.phase ≠ .closed := by
  cases h <;> simp_all

theorem Advances.valid {q : Nat} {sub sub' : Subscription P} {queue : List (EventEnvelope P)}
    (h : s.Advances q sub sub' queue) (htables : s.tables.Valid)
    (hvalid : sub.Valid (s.events sub.conversationId) (s.queues q)) :
    sub'.Valid (s.events sub.conversationId) queue := by
  have hlog := htables.numbered sub.conversationId
  cases h with
  | turn hphase =>
    rw [htables.listAfter_eq]
    exact hvalid.turnTo hphase
  | endPage short hphase => exact hvalid.endPage hphase
  | yieldPage event rest short hphase => exact hvalid.yieldPage hlog hphase
  | takeQueue event rest hphase hqueue => exact hvalid.takeQueue hlog hphase hqueue

theorem Valid.advance (h : s.Valid) {q : Nat} (hadvance : s.advance q = some s') : s'.Valid := by
  obtain ⟨sub, sub', queue, hsub, hstep, rfl⟩ := advance_cases hadvance
  exact h.setSubscription hsub hstep.origin.1 hstep.open
    (hstep.valid h.tables (h.delivery q sub hsub))

theorem Valid.step [EventPayload P] (h : s.Valid) (hstep : Step s s') : s'.Valid := by
  cases hstep with
  | createConversation conversationId hnew => exact h.createConversation hnew
  | append draft now happend => exact h.append happend
  | appendFails draft now _ => exact h
  | subscribe conversationId afterSequence => exact h.subscribe conversationId afterSequence
  | advance q hadvance => exact h.advance hadvance
  | unsubscribe q hsub => exact h.unsubscribe hsub
  | restart => exact .opened h.tables

theorem Reachable.valid [EventPayload P] (h : Reachable s) : s.Valid := by
  induction h with
  | init => exact .opened .empty
  | step _ hstep ih => exact ih.step hstep

/-! ### Progress -/

/-- How far a subscriber is from its empty queue when nothing is appended. -/
def remaining (log queue : List (EventEnvelope P)) (sub : Subscription P) : Nat :=
  match sub.phase with
  | .paging => queue.length + 3 * (log.length - sub.cursor) + 3
  | .page rest _ => queue.length + 3 * (log.length - (sub.cursor + rest.length)) + rest.length + 4
  | .live => queue.length
  | .closed => 0

theorem Advances.remaining_lt {q : Nat} {sub sub' : Subscription P}
    {queue : List (EventEnvelope P)} (h : s.Advances q sub sub' queue) (htables : s.tables.Valid)
    (hvalid : sub.Valid (s.events sub.conversationId) (s.queues q)) :
    remaining (s.events sub.conversationId) queue sub' <
      remaining (s.events sub.conversationId) (s.queues q) sub := by
  have hlog := htables.numbered sub.conversationId
  cases h with
  | turn hphase =>
    rw [htables.listAfter_eq]
    unfold Subscription.turnTo
    split
    · simp only [remaining, hphase]
      omega
    · rename_i hsome
      simp only [List.isEmpty_iff, List.take_eq_nil_iff, List.drop_eq_nil_iff,
        Subscription.pageSize] at hsome
      simp only [remaining, hphase, List.length_take, List.length_drop, Subscription.pageSize]
      change ¬(_ ∨ (s.events sub.conversationId).length ≤ _) at hsome
      change _ + 3 * ((s.events sub.conversationId).length - (_ + min _
        ((s.events sub.conversationId).length - _))) + min _
        ((s.events sub.conversationId).length - _) + 4 < _
      omega
  | endPage short hphase =>
    cases short with
    | true =>
      simp only [remaining, hphase, if_true]
      omega
    | false =>
      simp only [remaining, hphase, Bool.false_eq_true, if_false, List.length_nil]
      omega
  | yieldPage event rest short hphase =>
    obtain ⟨m, -, -, hcovers⟩ := hvalid.queued (by rw [hphase]; exact nofun)
    rw [Subscription.Covers, hphase] at hcovers
    have hdelivered : ({ sub with phase := .page rest short } : Subscription P).Delivered
        (s.events sub.conversationId) := ⟨hvalid.contiguous, hvalid.cursor_eq⟩
    obtain ⟨-, hcursor, -⟩ := hdelivered.offer_next hlog hcovers.1
    simp only [remaining, Subscription.offer_phase, hphase, hcursor, List.length_cons]
    omega
  | takeQueue event rest hphase hqueue =>
    simp [remaining, Subscription.offer_phase, hphase, hqueue]

/-- A subscriber that is neither closed nor suspended has a step. -/
theorem exists_advance {q : Nat} {sub : Subscription P} (hsub : s.subscriptions q = some sub)
    (hopen : sub.phase ≠ .closed) : s.Suspended q ∨ ∃ s', s.advance q = some s' := by
  cases hphase : sub.phase with
  | paging => exact Or.inr ⟨_, by rw [advance, hsub, Option.bind_some, hphase]⟩
  | page rest short =>
    cases rest with
    | nil => exact Or.inr ⟨_, by rw [advance, hsub, Option.bind_some, hphase]⟩
    | cons event rest => exact Or.inr ⟨_, by rw [advance, hsub, Option.bind_some, hphase]⟩
  | live =>
    cases hqueue : s.queues q with
    | nil => exact Or.inl ⟨sub, hsub, hphase, hqueue⟩
    | cons event rest =>
      exact Or.inr ⟨_, by rw [advance, hsub, Option.bind_some, hphase, hqueue]⟩
  | closed => exact absurd hphase hopen

theorem Advances.stays_open {q : Nat} {sub sub' : Subscription P}
    {queue : List (EventEnvelope P)} (h : s.Advances q sub sub' queue) : sub'.phase ≠ .closed := by
  cases h with
  | turn =>
    unfold Subscription.turnTo
    split <;> exact nofun
  | endPage short => cases short <;> exact nofun
  | yieldPage event rest short =>
    rw [Subscription.offer_phase]
    exact nofun
  | takeQueue event rest hphase =>
    rw [Subscription.offer_phase, hphase]
    exact nofun

theorem Pulls.head {q : Nat} {t u : EventStore P} (h : s.advance q = some t) (hpulls : Pulls q t u) :
    Pulls q s u := by
  induction hpulls with
  | refl => exact Pulls.refl.step h
  | step _ hadvance ih => exact ih.step hadvance

/-- Left alone, an open subscriber yields all that is left; the induction is on what remains. -/
theorem Valid.drains (h : s.Valid) {q : Nat} {sub : Subscription P}
    (hsub : s.subscriptions q = some sub) (hopen : sub.phase ≠ .closed) :
    ∃ t final, Pulls q s t ∧ t.tables = s.tables ∧ t.Suspended q ∧
      t.subscriptions q = some final ∧
      final.received = (s.events sub.conversationId).drop sub.afterSequence := by
  generalize hn : remaining (s.events sub.conversationId) (s.queues q) sub = n
  induction n using Nat.strong_induction_on generalizing s sub with
  | _ n ih =>
    rcases exists_advance hsub hopen with hsuspended | ⟨s', hadvance⟩
    · obtain ⟨sub', hsub', hlive, hempty⟩ := id hsuspended
      obtain rfl : sub = sub' := Option.some.inj (hsub.symm.trans hsub')
      have hdelivery := h.delivery q sub hsub
      rw [hempty] at hdelivery
      exact ⟨s, sub, .refl, rfl, hsuspended, hsub, hdelivery.complete hlive⟩
    · obtain ⟨sub', next, queue, hsub', hstep, hs'⟩ := advance_cases hadvance
      obtain rfl : sub = sub' := Option.some.inj (hsub.symm.trans hsub')
      have hlt := hstep.remaining_lt h.tables (h.delivery q sub hsub)
      have hnext : s'.subscriptions q = some next := by
        rw [hs']
        simp [EventStore.setSubscription]
      have hqueue : s'.queues q = queue := by
        rw [hs']
        simp [EventStore.setSubscription]
      have hevents : s'.events = s.events := by
        rw [hs']
        rfl
      obtain ⟨t, final, hpulls, htables, hsuspended, hfinal, hreceived⟩ := ih _ (hn ▸ hlt)
        (h.advance hadvance) hnext hstep.stays_open (by rw [hevents, hqueue, hstep.origin.1])
      refine ⟨t, final, hpulls.head hadvance, htables.trans (by rw [hs']; rfl), hsuspended, hfinal, ?_⟩
      rw [hreceived, hevents, hstep.origin.1, hstep.origin.2]

/-- In every state that appends and subscribers reach, the events of a conversation are numbered
    1, …, n. A subscriber with origin c has yielded the events c + 1, c + 2, … up to some event, in
    order and each once; it waits only when it has yielded all of them, and left alone it comes to
    wait. -/
theorem events_delivered [EventPayload P] (s : EventStore P) (h : Reachable s) :
    (∀ conversationId, (s.events conversationId).map (·.sequence)
      = List.range' 1 (s.events conversationId).length) ∧
    ∀ q sub, s.subscriptions q = some sub →
      sub.received <+: (s.events sub.conversationId).drop sub.afterSequence ∧
      sub.received.map (·.sequence) = List.range' (sub.afterSequence + 1) sub.received.length ∧
      (s.Suspended q → sub.received = (s.events sub.conversationId).drop sub.afterSequence) ∧
      (sub.phase ≠ .closed → ∃ t final, Pulls q s t ∧ t.tables = s.tables ∧ t.Suspended q ∧
        t.subscriptions q = some final ∧
        final.received = (s.events sub.conversationId).drop sub.afterSequence) := by
  have hvalid := h.valid
  refine ⟨hvalid.tables.numbered, fun q sub hsub => ?_⟩
  have hdelivery := hvalid.delivery q sub hsub
  refine ⟨hdelivery.contiguous, ?_, ?_, fun hopen => hvalid.drains hsub hopen⟩
  · exact (hvalid.tables.numbered sub.conversationId).prefix_drop hdelivery.contiguous
  · rintro ⟨sub', hsub', hlive, hempty⟩
    obtain rfl : sub = sub' := Option.some.inj (hsub.symm.trans hsub')
    rw [hempty] at hdelivery
    exact hdelivery.complete hlive

end EventStore

end AfterSales

/-! ### An append to a subscriber that waits -/

namespace AfterSales.EventStore

section LiveAppend

local instance textPayload : EventPayload String := ⟨fun _ => true⟩

def caseCreated : EventDraft String where
  conversationId := "CONV-1"
  eventType := "case_created"
  visibility := .both
  summary := "Case created"
  payload := ""
  evidenceRefs := []
  caseId := none
  runId := none
  schemaVersion := 1
  timestamp := none
  eventId := "EVT-1"
  namesConversation := by decide
  namesType := by decide
  versioned := by decide
  summarized := by decide

/-- An append that is tried, and a step of the first subscriber, if it has one. -/
def appended (draft : EventDraft String) (s : EventStore String) : EventStore String :=
  (s.append draft 0).toOption.getD s

def pulled (s : EventStore String) : EventStore String := (s.advance 0).getD s

theorem Reachable.appended {s : EventStore String} (h : Reachable s) (draft : EventDraft String) :
    Reachable (appended draft s) := by
  unfold EventStore.appended
  cases happend : s.append draft 0 with
  | error e => exact h
  | ok s' => exact .step h (.append draft 0 happend)

theorem Reachable.pulled {s : EventStore String} (h : Reachable s) : Reachable (pulled s) := by
  unfold EventStore.pulled
  cases hadvance : s.advance 0 with
  | none => exact h
  | some s' => exact .step h (.advance 0 hadvance)

/-- Two events, and a subscriber that has replayed them and waits; then a third event. -/
def twoReplayed : EventStore String :=
  let created := { opened .empty with tables := EventTables.empty.createConversation "CONV-1" }
  let two := appended { caseCreated with eventId := "EVT-2" } (appended caseCreated created)
  pulled (pulled (pulled (pulled (two.subscribe "CONV-1" 0))))

def liveAppend : EventStore String := appended { caseCreated with eventId := "EVT-3" } twoReplayed

theorem liveAppend_reachable : Reachable liveAppend := by
  have hcreated := Reachable.init.step (P := String) (.createConversation "CONV-1" rfl)
  have htwo := ((hcreated.appended caseCreated).appended { caseCreated with eventId := "EVT-2" })
  exact (htwo.step (.subscribe "CONV-1" 0)).pulled.pulled.pulled.pulled.appended _

/-- The subscriber has yielded two events and still holds the third; left alone it yields that too,
    and waits. -/
theorem liveAppend_delivered :
    twoReplayed.queues 0 = [] ∧ (liveAppend.queues 0).map (·.sequence) = [3] ∧
      (liveAppend.subscriptions 0).map (·.received.map (·.sequence)) = some [1, 2] ∧
      ∃ t final, Pulls 0 liveAppend t ∧ t.tables = liveAppend.tables ∧ t.Suspended 0 ∧
        t.subscriptions 0 = some final ∧ final.received.map (·.sequence) = [1, 2, 3] := by
  let sub : Subscription String := (liveAppend.subscriptions 0).get (by decide +kernel)
  have hsub : liveAppend.subscriptions 0 = some sub := (Option.some_get _).symm
  have hlive : sub.phase ≠ .closed := by
    intro hclosed
    have hadvances : (liveAppend.advance 0).isSome = true := by decide +kernel
    simp [EventStore.advance, hsub, hclosed] at hadvances
  obtain ⟨-, -, -, hdrains⟩ := (events_delivered liveAppend liveAppend_reachable).2 0 sub hsub
  obtain ⟨t, final, hpulls, htables, hsuspended, hfinal, hreceived⟩ := hdrains hlive
  refine ⟨by decide +kernel, by decide +kernel, by decide +kernel, t, final, hpulls, htables,
    hsuspended, hfinal, ?_⟩
  rw [hreceived]
  decide +kernel

end LiveAppend

end AfterSales.EventStore
