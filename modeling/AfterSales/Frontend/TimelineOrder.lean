import AfterSales.Frontend.Timeline

/-! What the timeline of a log depends on.

    A permutation of the log and every way of receiving it give one timeline, since only the ordered
    log is read. A proposal is shown by each event that creates it, with the state of the last
    transition after the last creation:

        ──transition──created──transition──▶
             lost        │         kept -/

namespace AfterSales.Timeline

open Arrivals

/-! ### Logs -/

/-- The events of one conversation are told apart by their ids, and by their sequences. -/
structure EventLog (log : List Event) : Prop where
  eventIds : (log.map (·.eventId)).Nodup
  sequences : (log.map (·.sequence)).Nodup

/-- The proposal that an event creates. -/
def createdProposal (event : Event) : Option ActionProposalView :=
  if event.eventType = "proposal_created" then proposalFromEvent event else none

/-- The proposal that an event moves to another state. -/
def movedProposal (event : Event) : Option String :=
  if event.eventType ∈ proposalTransitionEvents then proposalIdFromEvent event else none

/-- An event that creates the proposal of an id. -/
def creates (proposalId : String) (event : Event) : Bool :=
  (createdProposal event).any (·.proposalId = proposalId)

/-- The state of the last transition in the order of the sequences. -/
def LastState (log : List Event) (proposalId : String) (state : ProposalState) : Prop :=
  (∃ e ∈ log, movedProposal e = some proposalId ∧ transitionState e = state ∧
      ∀ e' ∈ log, movedProposal e' = some proposalId → e'.sequence ≤ e.sequence) ∨
    (∀ e ∈ log, movedProposal e ≠ some proposalId) ∧ state = .pendingConfirmation

/-- The event has a case, by itself or through its run. -/
def Placed (log : List Event) (event : Event) : Prop :=
  (filled event.caseId).isSome ∨
    event.caseId = none ∧ ∃ runId, filled event.runId = some runId ∧
      ∃ e ∈ log, filled e.runId = some runId ∧ (filled e.caseId).isSome

/-- The cards of a proposal in a timeline. -/
def cards (timeline : List TimelineItem) (proposalId : String) : List ProposalItem :=
  timeline.filterMap fun
    | .proposal item => if item.proposal.proposalId = proposalId then some item else none
    | _ => none

theorem filled_eq_some {text : Option String} {s : String} :
    filled text = some s ↔ text = some s ∧ s ≠ "" := by
  rw [filled, Option.filter_eq_some_iff]
  simp

theorem EventLog.ranksApart {log : List Event} (h : EventLog log) :
    RanksApart (·.sequence) log := .of_nodup h.sequences

theorem EventLog.nodup {log : List Event} (h : EventLog log) : log.Nodup :=
  List.Nodup.of_map _ h.sequences

/-! ### Cases of runs -/

theorem recordCase_apply (byRun : String → Option String) (event : Event) (runId : String) :
    recordCase byRun event runId =
      if filled event.runId = some runId ∧ (filled event.caseId).isSome then filled event.caseId
      else byRun runId := by
  unfold recordCase
  cases hrun : filled event.runId with
  | none => simp
  | some run =>
    cases hcase : filled event.caseId with
    | none => simp
    | some caseId =>
      by_cases hsame : runId = run
      · simp [hsame]
      · rw [if_neg (by simpa using fun h => absurd h.symm hsame)]
        exact Function.update_of_ne hsame _ _

/-- What is known of a run is the case of one of its events. -/
theorem caseIdsByRun_some {events : List Event} {runId caseId : String}
    (h : caseIdsByRun events runId = some caseId) :
    ∃ e ∈ events, filled e.runId = some runId ∧ filled e.caseId = some caseId := by
  induction events using List.reverseRecOn with
  | nil => cases h
  | append_singleton events e ih =>
    rw [caseIdsByRun, List.foldl_append, List.foldl_cons, List.foldl_nil, recordCase_apply] at h
    split at h
    · rename_i hrecords
      exact ⟨e, List.mem_append_right _ (List.mem_singleton_self e), hrecords.1, h⟩
    · obtain ⟨e', he', hboth⟩ := ih h
      exact ⟨e', List.mem_append_left _ he', hboth⟩

theorem caseIdsByRun_isSome {events : List Event} {runId : String} {e : Event} (he : e ∈ events)
    (hrun : filled e.runId = some runId) (hcase : (filled e.caseId).isSome) :
    (caseIdsByRun events runId).isSome := by
  induction events using List.reverseRecOn with
  | nil => cases he
  | append_singleton events e' ih =>
    rw [caseIdsByRun, List.foldl_append, List.foldl_cons, List.foldl_nil, recordCase_apply]
    split
    · rename_i hrecords
      exact hrecords.2
    · rename_i hrecords
      rcases List.mem_append.mp he with he | he
      · exact ih he
      · obtain rfl := List.mem_singleton.mp he
        exact absurd ⟨hrun, hcase⟩ hrecords

theorem resolvedCaseId_isSome {log ordered : List Event} (hmem : ∀ e, e ∈ ordered ↔ e ∈ log)
    (event : Event) :
    (filled (resolvedCaseId event (caseIdsByRun ordered))).isSome ↔ Placed log event := by
  rw [resolvedCaseId, Placed]
  cases hcase : event.caseId with
  | some caseId => simp
  | none =>
    rw [Option.none_or]
    constructor
    · intro h
      refine Or.inr ⟨rfl, ?_⟩
      obtain ⟨caseId, hfilled⟩ := Option.isSome_iff_exists.mp h
      obtain ⟨hbind, -⟩ := filled_eq_some.mp hfilled
      obtain ⟨runId, hrun, hby⟩ := Option.bind_eq_some_iff.mp hbind
      obtain ⟨e, he, herun, hecase⟩ := caseIdsByRun_some hby
      exact ⟨runId, hrun, e, (hmem e).mp he, herun, Option.isSome_iff_exists.mpr ⟨caseId, hecase⟩⟩
    · rintro (h | ⟨-, runId, hrun, e, he, herun, hecase⟩)
      · cases h
      · rw [hrun, Option.bind_some]
        have hsome := caseIdsByRun_isSome ((hmem e).mpr he) herun hecase
        obtain ⟨caseId, hby⟩ := Option.isSome_iff_exists.mp hsome
        obtain ⟨e', -, -, hfilled⟩ := caseIdsByRun_some hby
        rw [hby, Option.isSome_iff_exists]
        exact ⟨caseId, filled_eq_some.mpr ⟨rfl, (filled_eq_some.mp hfilled).2⟩⟩

/-! ### Collecting proposals -/

/-- The card of a proposal at the event that creates it. -/
def cardOf (proposalId : String) (event : Event) (caseId : String) (proposal : ActionProposalView)
    (state : ProposalState) : ProposalItem :=
  ⟨"proposal:" ++ proposalId, event.sequence, caseId, event.timestamp,
    { proposal with state := state }⟩

/-- The state after the transitions of a list. -/
def stateAfter (events : List Event) (proposalId : String) : ProposalState :=
  ((events.filter (movedProposal · = some proposalId)).getLast?.map transitionState).getD
    .pendingConfirmation

variable {byRun : String → Option String} {items : String → Option ProposalItem}
  {event e : Event} {proposalId caseId : String} {proposal : ActionProposalView}

theorem proposalFromEvent_pending (h : proposalFromEvent event = some proposal) :
    proposal.state = .pendingConfirmation := by
  obtain ⟨proposalId, -, rfl⟩ := Option.map_eq_some_iff.mp h
  rfl

theorem createdProposal_eq_some :
    createdProposal event = some proposal ↔
      event.eventType = "proposal_created" ∧ proposalFromEvent event = some proposal := by
  rw [createdProposal]
  split
  · rename_i htype
    exact ⟨fun h => ⟨htype, h⟩, fun h => h.2⟩
  · rename_i htype
    exact ⟨fun h => (nomatch h), fun h => absurd h.1 htype⟩

theorem movedProposal_eq_some :
    movedProposal event = some proposalId ↔
      event.eventType ∈ proposalTransitionEvents ∧ proposalIdFromEvent event = some proposalId := by
  rw [movedProposal]
  split
  · rename_i htype
    exact ⟨fun h => ⟨htype, h⟩, fun h => h.2⟩
  · rename_i htype
    exact ⟨fun h => (nomatch h), fun h => absurd h.1 htype⟩

/-- A transition leaves the first state. -/
theorem transitionState_ne (h : event.eventType ∈ proposalTransitionEvents) :
    transitionState event ≠ .pendingConfirmation := by
  rw [transitionState]
  simp only [proposalTransitionEvents, List.mem_cons, List.not_mem_nil, or_false] at h
  rcases h with h | h | h | h | h <;> rw [h] <;> decide

/-- A creation with a case makes the card. -/
theorem collect_created (hcreated : createdProposal event = some proposal)
    (hcase : filled (resolvedCaseId event byRun) = some caseId) :
    collectProposal byRun items event proposal.proposalId =
      some (cardOf proposal.proposalId event caseId proposal .pendingConfirmation) := by
  obtain ⟨htype, hproposal⟩ := createdProposal_eq_some.mp hcreated
  rw [collectProposal, if_pos htype, hproposal, hcase]
  dsimp only
  rw [Function.update_self, cardOf, ← proposalFromEvent_pending hproposal]

/-- A creation without a case is lost. -/
theorem collect_unplaced (hcreated : createdProposal event = some proposal)
    (hcase : filled (resolvedCaseId event byRun) = none) :
    collectProposal byRun items event = items := by
  obtain ⟨htype, hproposal⟩ := createdProposal_eq_some.mp hcreated
  rw [collectProposal, if_pos htype, hproposal, hcase]

/-- A transition changes the state of a card that is there. -/
theorem collect_moved (hmoved : movedProposal event = some proposalId) :
    collectProposal byRun items event proposalId =
      (items proposalId).map fun item =>
        { item with proposal := { item.proposal with state := transitionState event } } := by
  obtain ⟨htype, hid⟩ := movedProposal_eq_some.mp hmoved
  have hcreated : event.eventType ≠ "proposal_created" := by
    intro h
    rw [h] at htype
    exact absurd htype (by decide)
  rw [collectProposal, if_neg hcreated, if_pos htype, hid]
  dsimp only
  cases hitem : items proposalId with
  | none => exact hitem
  | some item => exact Function.update_self _ _ _

/-- No other event touches the card of a proposal. -/
theorem collect_other (hcreates : creates proposalId event = false)
    (hmoves : movedProposal event ≠ some proposalId) :
    collectProposal byRun items event proposalId = items proposalId := by
  unfold collectProposal
  split
  · rename_i htype
    cases hproposal : proposalFromEvent event with
    | none => rfl
    | some created =>
      cases hcase : filled (resolvedCaseId event byRun) with
      | none => rfl
      | some scopedCase =>
        refine Function.update_of_ne ?_ _ _
        rintro rfl
        rw [creates, createdProposal_eq_some.mpr ⟨htype, hproposal⟩] at hcreates
        simp at hcreates
  · split
    · rename_i htype
      cases hid : proposalIdFromEvent event with
      | none => rfl
      | some moved =>
        have hne : proposalId ≠ moved := by
          rintro rfl
          exact hmoves (movedProposal_eq_some.mpr ⟨htype, hid⟩)
        cases hitem : items moved with
        | none => simp only [hitem]
        | some item =>
          simp only [hitem]
          exact Function.update_of_ne hne _ _
    · rfl

/-- What one event does to the card of a proposal. -/
theorem collect_cases (byRun : String → Option String) (items : String → Option ProposalItem)
    (event : Event) (proposalId : String) :
    (∃ proposal caseId, createdProposal event = some proposal ∧ proposal.proposalId = proposalId ∧
      filled (resolvedCaseId event byRun) = some caseId ∧
      collectProposal byRun items event proposalId =
        some (cardOf proposalId event caseId proposal .pendingConfirmation)) ∨
    (movedProposal event = some proposalId ∧ collectProposal byRun items event proposalId =
      (items proposalId).map fun item =>
        { item with proposal := { item.proposal with state := transitionState event } }) ∨
    (movedProposal event ≠ some proposalId ∧
      collectProposal byRun items event proposalId = items proposalId) := by
  by_cases hmoves : movedProposal event = some proposalId
  · exact Or.inr (Or.inl ⟨hmoves, collect_moved hmoves⟩)
  · cases hcreates : creates proposalId event with
    | false => exact Or.inr (Or.inr ⟨hmoves, collect_other hcreates hmoves⟩)
    | true =>
      obtain ⟨proposal, hcreated, hid⟩ := (Option.any_eq_true _ _).mp hcreates
      obtain rfl : proposal.proposalId = proposalId := of_decide_eq_true hid
      cases hcase : filled (resolvedCaseId event byRun) with
      | none =>
        refine Or.inr (Or.inr ⟨hmoves, ?_⟩)
        rw [collect_unplaced hcreated hcase]
      | some caseId =>
        exact Or.inl ⟨proposal, caseId, hcreated, rfl, rfl, collect_created hcreated hcase⟩

/-- A card that was collected is that of an event which creates its proposal. -/
theorem collected_from {events : List Event} {item : ProposalItem}
    (h : events.foldl (collectProposal byRun) (fun _ => none) proposalId = some item) :
    ∃ e ∈ events, ∃ proposal caseId, createdProposal e = some proposal ∧
      proposal.proposalId = proposalId ∧ filled (resolvedCaseId e byRun) = some caseId ∧
      ∃ state, item = cardOf proposalId e caseId proposal state := by
  induction events using List.reverseRecOn generalizing item with
  | nil => cases h
  | append_singleton events e ih =>
    rw [List.foldl_append, List.foldl_cons, List.foldl_nil] at h
    rcases collect_cases byRun (events.foldl (collectProposal byRun) fun _ => none) e proposalId with
      ⟨proposal, caseId, hcreated, hid, hcase, hcollect⟩ | ⟨-, hcollect⟩ | ⟨-, hcollect⟩
    · rw [hcollect] at h
      cases h
      exact ⟨e, List.mem_append_right _ (List.mem_singleton_self e), proposal, caseId, hcreated,
        hid, hcase, _, rfl⟩
    · rw [hcollect] at h
      obtain ⟨old, hold, rfl⟩ := Option.map_eq_some_iff.mp h
      obtain ⟨e', he', proposal, caseId, hcreated, hid, hcase, state, rfl⟩ := ih hold
      exact ⟨e', List.mem_append_left _ he', proposal, caseId, hcreated, hid, hcase, _, rfl⟩
    · rw [hcollect] at h
      obtain ⟨e', he', hfrom⟩ := ih h
      exact ⟨e', List.mem_append_left _ he', hfrom⟩

theorem stateAfter_append_moved (events : List Event)
    (hmoved : movedProposal event = some proposalId) :
    stateAfter (events ++ [event]) proposalId = transitionState event := by
  have hone : [event].filter (movedProposal · = some proposalId) = [event] := by simp [hmoved]
  rw [stateAfter, List.filter_append, hone, List.getLast?_concat]
  rfl

theorem stateAfter_append_other (events : List Event)
    (hmoved : movedProposal event ≠ some proposalId) :
    stateAfter (events ++ [event]) proposalId = stateAfter events proposalId := by
  have hnone : [event].filter (movedProposal · = some proposalId) = [] := by simp [hmoved]
  rw [stateAfter, List.filter_append, hnone, List.append_nil]
  rfl

/-- After its last creation, the card of a proposal follows the transitions. -/
theorem collected_after {before after : List Event}
    (hcreated : createdProposal e = some proposal)
    (hcase : filled (resolvedCaseId e byRun) = some caseId)
    (hlast : ∀ e' ∈ after, creates proposal.proposalId e' = false) :
    (before ++ e :: after).foldl (collectProposal byRun) (fun _ => none) proposal.proposalId =
      some (cardOf proposal.proposalId e caseId proposal
        (stateAfter after proposal.proposalId)) := by
  induction after using List.reverseRecOn with
  | nil =>
    rw [List.foldl_append, List.foldl_cons, List.foldl_nil]
    exact collect_created hcreated hcase
  | append_singleton after e' ih =>
    have hinit : ∀ x ∈ after, creates proposal.proposalId x = false := fun x hx =>
      hlast x (List.mem_append_left _ hx)
    have hnew : creates proposal.proposalId e' = false :=
      hlast e' (List.mem_append_right _ (List.mem_singleton_self e'))
    have hsnoc : before ++ e :: (after ++ [e']) = (before ++ e :: after) ++ [e'] := by simp
    rw [hsnoc, List.foldl_append, List.foldl_cons, List.foldl_nil]
    by_cases hmoved : movedProposal e' = some proposal.proposalId
    · rw [collect_moved hmoved, ih hinit, stateAfter_append_moved after hmoved]
      rfl
    · rw [collect_other hnew hmoved, ih hinit, stateAfter_append_other after hmoved]

/-! ### The cards of a timeline -/

theorem cards_append (a b : List TimelineItem) (proposalId : String) :
    cards (a ++ b) proposalId = cards a proposalId ++ cards b proposalId :=
  List.filterMap_append

theorem cards_flatMap (f : Event → List TimelineItem) (events : List Event) (proposalId : String) :
    cards (events.flatMap f) proposalId = events.flatMap fun e => cards (f e) proposalId := by
  induction events with
  | nil => rfl
  | cons e events ih => rw [List.flatMap_cons, List.flatMap_cons, cards_append, ih]

/-- The map of proposals keeps each card under the id of its proposal. -/
def KeptById (items : String → Option ProposalItem) : Prop :=
  ∀ key item, items key = some item → item.proposal.proposalId = key

theorem collected_keptById (byRun : String → Option String) (events : List Event) :
    KeptById (events.foldl (collectProposal byRun) fun _ => none) := by
  intro key item h
  obtain ⟨e, -, proposal, caseId, -, hid, -, state, rfl⟩ := collected_from h
  exact hid

section Page

variable [JsText] {ordered log : List Event} {activeCaseId : Option String}

omit [JsText] in
theorem creates_eq_false (h : event.eventType ≠ "proposal_created") (proposalId : String) :
    creates proposalId event = false := by
  rw [creates, createdProposal, if_neg h]
  rfl

/-- A creation shows the card that was collected. -/
theorem itemsOf_created (htype : event.eventType = "proposal_created") :
    itemsOf ordered byRun items activeCaseId event =
      match (proposalFromEvent event).bind fun proposal => items proposal.proposalId with
      | some item => [.proposal item]
      | none => [] := by
  have hmessage : event.eventType ≠ "message_received" := by rw [htype]; decide
  have hreply : event.eventType ∉ customerReplyEvents := by rw [htype]; decide
  rw [itemsOf, if_neg hmessage, if_neg hreply, if_pos htype]
  cases proposalFromEvent event with
  | none => rfl
  | some proposal => rfl

/-- What an event can show. -/
inductive Shown (ordered : List Event) (event : Event) : TimelineItem → Prop
  | message {id caseId role content timestamp failed}
    (htype : event.eventType = "message_received" ∨ event.eventType ∈ customerReplyEvents) :
    Shown ordered event (.message id event.sequence caseId role content timestamp failed)
  | card {card} (htype : event.eventType = "proposal_created") :
    Shown ordered event (.proposal card)
  | progress {scopedCase} (htype : event.eventType = "run_started") :
    Shown ordered event (.progress ("progress:" ++ event.eventId) event.sequence scopedCase
      event.timestamp ((filled event.runId).any (· ∉ runTerminalEvents ordered)))
  | retry {id scopedCase timestamp enabled reason}
    (htype : event.eventType = "evidence_gate_evaluated" ∨ event.eventType = "action_failed") :
    Shown ordered event (.retry id event.sequence scopedCase timestamp enabled reason)
  | result {id scopedCase timestamp view} (hresult : actionResultFromEvent event = some view) :
    Shown ordered event (.result id event.sequence scopedCase timestamp view)

theorem itemsOf_shown {item : TimelineItem}
    (h : item ∈ itemsOf ordered byRun items activeCaseId event) : Shown ordered event item := by
  unfold itemsOf at h
  dsimp only at h
  by_cases hmessage : event.eventType = "message_received"
  · rw [if_pos hmessage] at h
    cases hfilled : filled (some (customerTextFromEvent event)) with
    | none =>
      rw [hfilled] at h
      cases h
    | some text =>
      rw [hfilled] at h
      obtain rfl := List.mem_singleton.mp h
      exact .message (Or.inl hmessage)
  rw [if_neg hmessage] at h
  by_cases hreply : event.eventType ∈ customerReplyEvents
  · rw [if_pos hreply] at h
    obtain rfl := List.mem_singleton.mp h
    exact .message (Or.inr hreply)
  rw [if_neg hreply] at h
  by_cases hcreated : event.eventType = "proposal_created"
  · rw [if_pos hcreated] at h
    split at h
    · split at h
      · obtain rfl := List.mem_singleton.mp h
        exact .card hcreated
      · cases h
    · cases h
  rw [if_neg hcreated] at h
  cases hcase : filled (resolvedCaseId event byRun) with
  | none =>
    rw [hcase] at h
    cases h
  | some scopedCase =>
    rw [hcase] at h
    dsimp only at h
    split at h
    · rename_i hstarted
      obtain rfl := List.mem_singleton.mp h
      exact .progress hstarted
    · split at h
      · rename_i hgate
        split at h
        · obtain rfl := List.mem_singleton.mp h
          exact .retry (Or.inl hgate)
        · cases h
      · rcases List.mem_append.mp h with h | h
        · split at h
          · rename_i hfailed
            obtain rfl := List.mem_singleton.mp h
            exact .retry (Or.inr (of_decide_eq_true (Bool.and_eq_true_iff.mp hfailed).1))
          · cases h
        · cases hresult : actionResultFromEvent event with
          | none =>
            rw [hresult] at h
            cases h
          | some view =>
            rw [hresult] at h
            obtain rfl := List.mem_singleton.mp h
            exact .result hresult

/-- The cards of one event: a creation shows the card that was collected. -/
theorem cards_itemsOf (hkept : KeptById items) (event : Event) (proposalId : String) :
    cards (itemsOf ordered byRun items activeCaseId event) proposalId =
      if creates proposalId event then (items proposalId).toList else [] := by
  by_cases htype : event.eventType = "proposal_created"
  · rw [itemsOf_created htype, creates, createdProposal, if_pos htype]
    cases hproposal : proposalFromEvent event with
    | none => rfl
    | some proposal =>
      rw [Option.bind_some, Option.any_some]
      cases hitem : items proposal.proposalId with
      | none =>
        by_cases hid : proposal.proposalId = proposalId
        · rw [if_pos (decide_eq_true hid), ← hid, hitem]
          rfl
        · rw [if_neg (by simpa using hid)]
          rfl
      | some item =>
        have hsame := hkept _ _ hitem
        by_cases hid : proposal.proposalId = proposalId
        · rw [if_pos (decide_eq_true hid), ← hid, hitem]
          simp [cards, hsame]
        · rw [if_neg (by simpa using hid)]
          simp [cards, hsame, hid]
  · rw [creates_eq_false htype, cards, List.filterMap_eq_nil_iff.mpr]
    · rfl
    · intro item hitem
      cases item with
      | proposal card =>
        cases itemsOf_shown hitem with
        | card hcreated => exact absurd hcreated htype
      | message | progress | retry | result => rfl

/-- The card that the first pass leaves of a proposal. -/
def cardAt (log : List Event) (proposalId : String) : Option ProposalItem :=
  let ordered := inOrder (·.sequence) log
  ordered.foldl (collectProposal (caseIdsByRun ordered)) (fun _ => none) proposalId

omit [JsText] in
theorem flatMap_creates (card : ProposalItem) (proposalId : String) (events : List Event) :
    (events.flatMap fun e => if creates proposalId e then [card] else []) =
      List.replicate (events.countP (creates proposalId)) card := by
  induction events with
  | nil => rfl
  | cons e events ih =>
    rw [List.flatMap_cons, ih, List.countP_cons]
    cases creates proposalId e with
    | true => rfl
    | false => rfl

/-- Every creation of a proposal shows its card. -/
theorem cards_build (log : List Event) (activeCaseId : Option String) (proposalId : String) :
    cards (buildConversationTimeline log activeCaseId) proposalId =
      match cardAt log proposalId with
      | some card => List.replicate (log.countP (creates proposalId)) card
      | none => [] := by
  have hperm : (cards (buildConversationTimeline log activeCaseId) proposalId).Perm
      ((inOrder (·.sequence) log).flatMap fun e =>
        if creates proposalId e then (cardAt log proposalId).toList else []) := by
    refine ((inOrder_perm _ _).filterMap _).trans (List.Perm.of_eq ?_)
    refine (cards_flatMap _ _ proposalId).trans (List.flatMap_congr fun e _ => ?_)
    exact cards_itemsOf (collected_keptById _ _) e proposalId
  cases hcard : cardAt log proposalId with
  | none =>
    rw [hcard] at hperm
    refine List.perm_nil.mp (hperm.trans (List.Perm.of_eq ?_))
    rw [List.flatMap_eq_nil_iff]
    intro e _
    split <;> rfl
  | some card =>
    rw [hcard, Option.toList_some, flatMap_creates] at hperm
    rw [(inOrder_perm _ log).countP_eq] at hperm
    exact List.perm_replicate.mp hperm

/-! ### The timeline of a log -/

/-- The timeline is a function of the set of events of the log, however they arrive, and shows the
    progress of a run until it ends. -/
structure TimelineOfSet (log : List Event) (activeCaseId : Option String) : Prop where
  permuted : ∀ log' : List Event, log'.Perm log →
    buildConversationTimeline log' activeCaseId = buildConversationTimeline log activeCaseId
  progress : ∀ id sequence caseId timestamp active,
    .progress id sequence caseId timestamp active ∈ buildConversationTimeline log activeCaseId →
      ∃ e ∈ log, e.eventType = "run_started" ∧ id = "progress:" ++ e.eventId ∧
        (active = true ↔ ∃ runId, filled e.runId = some runId ∧
          ∀ e' ∈ log, e'.eventType ∈ ["run_succeeded", "run_failed"] → e'.runId ≠ some runId)
  arrivals : ∀ first rest : List Event, (∀ e, e ∈ first ++ rest ↔ e ∈ log) →
    buildConversationTimeline (rest.foldl handleEvent (first.foldl handleEvent [])) activeCaseId =
      buildConversationTimeline log activeCaseId

/-- Each proposal is shown once, at its creation and in its last state. -/
def ProposalsShown (log : List Event) (activeCaseId : Option String) : Prop :=
  ∀ e ∈ log, ∀ proposal, createdProposal e = some proposal →
    ∃ state caseId, LastState log proposal.proposalId state ∧
      cards (buildConversationTimeline log activeCaseId) proposal.proposalId =
        [cardOf proposal.proposalId e caseId proposal state]

/-- A proposal is created once and under a case, and a transition of it comes after its creation if
    any does. -/
structure ProposalsInOrder (log : List Event) : Prop where
  once : ∀ e ∈ log, ∀ e' ∈ log, ∀ proposal proposal', createdProposal e = some proposal →
    createdProposal e' = some proposal' → proposal.proposalId = proposal'.proposalId → e = e'
  placed : ∀ e ∈ log, (createdProposal e).isSome → Placed log e
  lastAfter : ∀ e ∈ log, ∀ proposal, createdProposal e = some proposal →
    ∀ m ∈ log, movedProposal m = some proposal.proposalId →
      ∃ m' ∈ log, movedProposal m' = some proposal.proposalId ∧ e.sequence < m'.sequence

omit [JsText] in
theorem creates_iff :
    creates proposalId event = true ↔
      ∃ proposal, createdProposal event = some proposal ∧ proposal.proposalId = proposalId := by
  rw [creates, Option.any_eq_true]
  simp

theorem build_of_ordered {log log' : List Event}
    (h : inOrder (·.sequence) log = inOrder (·.sequence) log') :
    buildConversationTimeline log activeCaseId = buildConversationTimeline log' activeCaseId := by
  rw [buildConversationTimeline, buildConversationTimeline, h]

theorem build_permuted (hlog : EventLog log) {log' : List Event} (h : log'.Perm log) :
    buildConversationTimeline log' activeCaseId = buildConversationTimeline log activeCaseId :=
  build_of_ordered (inOrder_congr h.symm hlog.ranksApart).symm

/-- However the log arrives, it is rebuilt in order. -/
theorem build_arrivals (hlog : EventLog log) {first rest : List Event}
    (h : ∀ e, e ∈ first ++ rest ↔ e ∈ log) :
    buildConversationTimeline (rest.foldl handleEvent (first.foldl handleEvent [])) activeCaseId =
      buildConversationTimeline log activeCaseId := by
  have hidents : IdentsApart (·.eventId) log := fun _ ha _ hb =>
    List.inj_on_of_nodup_map hlog.eventIds ha hb
  have hall : (first ++ rest).foldl handleEvent [] = inOrder (·.sequence) log :=
    receive_all hidents hlog.ranksApart hlog.nodup h
  rw [← List.foldl_append, hall]
  exact build_of_ordered (inOrder_of_sorted (inOrder_sorted _ log))

omit [JsText] in
theorem mem_runTerminalEvents {runId : String} (hrun : runId ≠ "") :
    runId ∈ runTerminalEvents (inOrder (·.sequence) log) ↔
      ∃ e ∈ log, e.eventType ∈ ["run_succeeded", "run_failed"] ∧ e.runId = some runId := by
  rw [runTerminalEvents, List.mem_filterMap]
  constructor
  · rintro ⟨e, he, h⟩
    split at h
    · rename_i htype
      exact ⟨e, mem_inOrder.mp he, htype, (filled_eq_some.mp h).1⟩
    · cases h
  · rintro ⟨e, he, htype, h⟩
    refine ⟨e, mem_inOrder.mpr he, ?_⟩
    rw [if_pos htype]
    exact filled_eq_some.mpr ⟨h, hrun⟩

/-- Progress is shown by the start of a run, and ends with the run. -/
theorem build_progress {id scopedCase : String} {sequence : Nat} {timestamp : Instant}
    {active : Bool}
    (h : .progress id sequence scopedCase timestamp active ∈
      buildConversationTimeline log activeCaseId) :
    ∃ e ∈ log, e.eventType = "run_started" ∧ id = "progress:" ++ e.eventId ∧
      (active = true ↔ ∃ runId, filled e.runId = some runId ∧
        ∀ e' ∈ log, e'.eventType ∈ ["run_succeeded", "run_failed"] → e'.runId ≠ some runId) := by
  obtain ⟨e, he, hitem⟩ := List.mem_flatMap.mp (mem_inOrder.mp h)
  cases itemsOf_shown hitem with | progress htype =>
  refine ⟨e, mem_inOrder.mp he, htype, rfl, ?_⟩
  rw [Option.any_eq_true]
  refine exists_congr fun runId => and_congr_right fun hrun => ?_
  rw [decide_eq_true_iff, mem_runTerminalEvents (filled_eq_some.mp hrun).2]
  constructor
  · intro hnone e' he' hterminal hsame
    exact hnone ⟨e', he', hterminal, hsame⟩
  · rintro hall ⟨e', he', hterminal, hsame⟩
    exact hall e' he' hterminal hsame

/-! ### Proposals -/

section Proposals

omit [JsText]

/-- The ordered log around an event. -/
theorem exists_around (hlog : EventLog log) (he : e ∈ log) :
    ∃ before after, inOrder (·.sequence) log = before ++ e :: after ∧
      (∀ x, x ∈ after ↔ x ∈ log ∧ e.sequence < x.sequence) ∧
      after.Pairwise fun a b => a.sequence ≤ b.sequence := by
  have hmember : e ∈ inOrder (·.sequence) log := mem_inOrder.mpr he
  obtain ⟨before, after, hsplit⟩ := List.append_of_mem hmember
  have hsorted := inOrder_sorted (·.sequence) log
  rw [hsplit] at hsorted
  obtain ⟨-, hafter, hacross⟩ := List.pairwise_append.mp hsorted
  have hmem : ∀ x, x ∈ before ++ e :: after ↔ x ∈ log := fun x => hsplit ▸ mem_inOrder
  have hnodup : (before ++ e :: after).Nodup :=
    hsplit ▸ (inOrder_perm _ log).nodup_iff.mpr hlog.nodup
  refine ⟨before, after, hsplit, fun x => ?_, (List.pairwise_cons.mp hafter).2⟩
  constructor
  · intro hx
    have hxlog : x ∈ log := (hmem x).mp (by simp [hx])
    refine ⟨hxlog, Nat.lt_of_le_of_ne (List.rel_of_pairwise_cons hafter hx) fun hsame => ?_⟩
    obtain rfl := hlog.ranksApart e he x hxlog hsame
    exact (List.nodup_cons.mp (List.nodup_append.mp hnodup).2.1).1 hx
  · rintro ⟨hx, hlater⟩
    rcases List.mem_append.mp ((hmem x).mpr hx) with hbefore | hrest
    · have := hacross x hbefore e (List.mem_cons_self ..)
      omega
    · rcases List.mem_cons.mp hrest with rfl | hrest
      · omega
      · exact hrest

theorem stateAfter_of_none {events : List Event}
    (h : ∀ e ∈ events, movedProposal e ≠ some proposalId) :
    stateAfter events proposalId = .pendingConfirmation := by
  have hnone : events.filter (movedProposal · = some proposalId) = [] := by
    rw [List.filter_eq_nil_iff]
    intro e he
    simpa using h e he
  rw [stateAfter, hnone]
  rfl

/-- In an ordered list, the state is that of the transition with the last sequence. -/
theorem stateAfter_of_some {events : List Event}
    (hsorted : events.Pairwise fun a b => a.sequence ≤ b.sequence)
    (h : ∃ e ∈ events, movedProposal e = some proposalId) :
    ∃ e ∈ events, movedProposal e = some proposalId ∧
      transitionState e = stateAfter events proposalId ∧
        ∀ e' ∈ events, movedProposal e' = some proposalId → e'.sequence ≤ e.sequence := by
  obtain ⟨e, he, hmoved⟩ := h
  have hmem : e ∈ events.filter (movedProposal · = some proposalId) :=
    List.mem_filter.mpr ⟨he, decide_eq_true hmoved⟩
  have hsorted' := hsorted.filter (movedProposal · = some proposalId)
  rcases List.eq_nil_or_concat (events.filter (movedProposal · = some proposalId)) with
    hnil | ⟨init, last, hconcat⟩
  · rw [hnil] at hmem
    cases hmem
  · rw [List.concat_eq_append] at hconcat
    have hlast : last ∈ events.filter (movedProposal · = some proposalId) := by simp [hconcat]
    obtain ⟨hlast, hlastmoved⟩ := List.mem_filter.mp hlast
    refine ⟨last, hlast, of_decide_eq_true hlastmoved, ?_, ?_⟩
    · rw [stateAfter, hconcat, List.getLast?_concat]
      rfl
    · intro e' he' hmoved'
      have hmem' : e' ∈ events.filter (movedProposal · = some proposalId) :=
        List.mem_filter.mpr ⟨he', decide_eq_true hmoved'⟩
      rw [hconcat] at hmem' hsorted'
      rcases List.mem_append.mp hmem' with hinit | hlast'
      · exact (List.pairwise_append.mp hsorted').2.2 e' hinit last (List.mem_singleton_self last)
      · rw [List.mem_singleton.mp hlast']

/-- The card of a proposal that is created once and under a case. -/
theorem cardAt_created (hlog : EventLog log) (he : e ∈ log)
    (hcreated : createdProposal e = some proposal)
    (honce : ∀ e' ∈ log, creates proposal.proposalId e' = true → e' = e) (hplaced : Placed log e) :
    ∃ caseId after, (∀ x, x ∈ after ↔ x ∈ log ∧ e.sequence < x.sequence) ∧
      after.Pairwise (fun a b => a.sequence ≤ b.sequence) ∧
      cardAt log proposal.proposalId = some (cardOf proposal.proposalId e caseId proposal
        (stateAfter after proposal.proposalId)) := by
  obtain ⟨before, after, hsplit, hafter, hsorted⟩ := exists_around hlog he
  obtain ⟨caseId, hcase⟩ := Option.isSome_iff_exists.mp
    ((resolvedCaseId_isSome (fun x => mem_inOrder) e).mpr hplaced)
  refine ⟨caseId, after, hafter, hsorted, ?_⟩
  have hlast : ∀ x ∈ after, creates proposal.proposalId x = false := by
    intro x hx
    obtain ⟨hxlog, hlater⟩ := (hafter x).mp hx
    by_contra hcreates
    rw [Bool.not_eq_false] at hcreates
    rw [honce x hxlog hcreates] at hlater
    omega
  rw [cardAt]
  generalize caseIdsByRun (inOrder (·.sequence) log) = byRun at hcase ⊢
  rw [hsplit]
  exact collected_after hcreated hcase hlast

/-- A transition after the creation, where there is any, makes the state of the card the last one. -/
theorem lastState_iff {after : List Event}
    (hafter : ∀ x, x ∈ after ↔ x ∈ log ∧ e.sequence < x.sequence)
    (hsorted : after.Pairwise fun a b => a.sequence ≤ b.sequence) :
    LastState log proposalId (stateAfter after proposalId) ↔
      ∀ m ∈ log, movedProposal m = some proposalId →
        ∃ m' ∈ log, movedProposal m' = some proposalId ∧ e.sequence < m'.sequence := by
  by_cases hmoved : ∃ m ∈ after, movedProposal m = some proposalId
  · obtain ⟨last, hlast, hlastmoved, hstate, hmax⟩ := stateAfter_of_some hsorted hmoved
    obtain ⟨hlastlog, hlater⟩ := (hafter last).mp hlast
    refine iff_of_true (Or.inl ⟨last, hlastlog, hlastmoved, hstate, fun x hx hxmoved => ?_⟩)
      fun m _ _ => ⟨last, hlastlog, hlastmoved, hlater⟩
    by_cases hxafter : e.sequence < x.sequence
    · exact hmax x ((hafter x).mpr ⟨hx, hxafter⟩) hxmoved
    · omega
  · have hpending : stateAfter after proposalId = .pendingConfirmation :=
      stateAfter_of_none fun x hx hxmoved => hmoved ⟨x, hx, hxmoved⟩
    rw [hpending]
    constructor
    · rintro (⟨m, hm, hmmoved, hstate, -⟩ | ⟨hnone, -⟩)
      · exact absurd hstate (transitionState_ne (movedProposal_eq_some.mp hmmoved).1)
      · intro m hm hmmoved
        exact absurd hmmoved (hnone m hm)
    · intro h
      refine Or.inr ⟨fun m hm hmmoved => ?_, rfl⟩
      obtain ⟨m', hm', hmoved', hlater⟩ := h m hm hmmoved
      exact hmoved ⟨m', (hafter m').mpr ⟨hm', hlater⟩, hmoved'⟩

/-- One element of a list satisfies a test exactly if the test holds of no other. -/
theorem countP_eq_one_iff {events : List Event} {p : Event → Bool} (hnodup : events.Nodup)
    (he : e ∈ events) (hp : p e = true) :
    events.countP p = 1 ↔ ∀ e' ∈ events, p e' = true → e' = e := by
  have hmem : e ∈ events.filter p := List.mem_filter.mpr ⟨he, hp⟩
  rw [List.countP_eq_length_filter]
  constructor
  · intro hone e' he' hp'
    obtain ⟨x, hx⟩ := List.length_eq_one_iff.mp hone
    have hmem' : e' ∈ events.filter p := List.mem_filter.mpr ⟨he', hp'⟩
    rw [hx, List.mem_singleton] at hmem hmem'
    rw [hmem, hmem']
  · intro hunique
    have hperm : (events.filter p).Perm [e] := by
      refine (List.perm_ext_iff_of_nodup (hnodup.filter p) (List.nodup_singleton e)).mpr fun x => ?_
      rw [List.mem_singleton, List.mem_filter]
      constructor
      · rintro ⟨hx, hpx⟩
        exact hunique x hx hpx
      · rintro rfl
        exact ⟨he, hp⟩
    exact hperm.length_eq

end Proposals

/-- A proposal has one card exactly if it is created once and the first pass keeps it. -/
theorem cards_eq_singleton (hlog : EventLog log) (he : e ∈ log)
    (hcreates : creates proposalId e = true) {card : ProposalItem} :
    cards (buildConversationTimeline log activeCaseId) proposalId = [card] ↔
      cardAt log proposalId = some card ∧
        ∀ e' ∈ log, creates proposalId e' = true → e' = e := by
  rw [cards_build, ← countP_eq_one_iff hlog.nodup he hcreates]
  cases cardAt log proposalId with
  | none => simp
  | some kept =>
    dsimp only
    rw [Option.some.injEq, ← List.replicate_one (a := card)]
    constructor
    · intro h
      have hcount := congrArg List.length h
      rw [List.length_replicate, List.length_replicate] at hcount
      rw [hcount] at h
      exact ⟨(List.cons.inj h).1, hcount⟩
    · rintro ⟨rfl, hcount⟩
      rw [hcount]

/-- The proposals of an ordered log are shown once, at their creation and in their last state. -/
theorem proposals_shown (hlog : EventLog log) (h : ProposalsInOrder log) (he : e ∈ log)
    (hcreated : createdProposal e = some proposal) :
    ∃ state caseId, LastState log proposal.proposalId state ∧
      cards (buildConversationTimeline log activeCaseId) proposal.proposalId =
        [cardOf proposal.proposalId e caseId proposal state] := by
  have honce : ∀ e' ∈ log, creates proposal.proposalId e' = true → e' = e := by
    intro e' he' hcreates
    obtain ⟨proposal', hcreated', hid⟩ := creates_iff.mp hcreates
    exact h.once e' he' e he proposal' proposal hcreated' hcreated hid
  have hplaced := h.placed e he (Option.isSome_iff_exists.mpr ⟨proposal, hcreated⟩)
  obtain ⟨caseId, after, hafter, hsorted, hcard⟩ :=
    cardAt_created hlog he hcreated honce hplaced
  refine ⟨_, caseId, (lastState_iff hafter hsorted).mpr (h.lastAfter e he proposal hcreated), ?_⟩
  have hself : creates proposal.proposalId e = true := creates_iff.mpr ⟨proposal, hcreated, rfl⟩
  exact (cards_eq_singleton hlog he hself).mpr ⟨hcard, honce⟩

/-- A proposal that is shown once and in its last state is in order. -/
theorem inOrder_of_shown (hlog : EventLog log) (he : e ∈ log)
    (hcreated : createdProposal e = some proposal) {state : ProposalState}
    (hlast : LastState log proposal.proposalId state)
    (hcards : cards (buildConversationTimeline log activeCaseId) proposal.proposalId =
      [cardOf proposal.proposalId e caseId proposal state]) :
    (∀ e' ∈ log, creates proposal.proposalId e' = true → e' = e) ∧ Placed log e ∧
      ∀ m ∈ log, movedProposal m = some proposal.proposalId →
        ∃ m' ∈ log, movedProposal m' = some proposal.proposalId ∧ e.sequence < m'.sequence := by
  have hself : creates proposal.proposalId e = true := creates_iff.mpr ⟨proposal, hcreated, rfl⟩
  obtain ⟨hcard, honce⟩ := (cards_eq_singleton hlog he hself).mp hcards
  have hplaced : Placed log e := by
    obtain ⟨e', he', proposal', caseId', hcreated', hid, hcase, -⟩ := collected_from hcard
    obtain rfl := honce e' (mem_inOrder.mp he') (creates_iff.mpr ⟨proposal', hcreated', hid⟩)
    exact (resolvedCaseId_isSome (fun x => mem_inOrder) e').mp
      (Option.isSome_iff_exists.mpr ⟨caseId', hcase⟩)
  refine ⟨honce, hplaced, ?_⟩
  obtain ⟨caseId', after, hafter, hsorted, hkept⟩ := cardAt_created hlog he hcreated honce hplaced
  have hstate : state = stateAfter after proposal.proposalId :=
    congrArg (·.proposal.state) (Option.some.inj (hcard.symm.trans hkept))
  rw [hstate] at hlast
  exact (lastState_iff hafter hsorted).mp hlast

/-- The proposals are shown once and in their last state exactly where the log has them in order. -/
theorem proposalsShown_iff (hlog : EventLog log) :
    ProposalsShown log activeCaseId ↔ ProposalsInOrder log := by
  constructor
  · intro h
    have hshown : ∀ e ∈ log, ∀ proposal, createdProposal e = some proposal →
        (∀ e' ∈ log, creates proposal.proposalId e' = true → e' = e) ∧ Placed log e ∧
          ∀ m ∈ log, movedProposal m = some proposal.proposalId →
            ∃ m' ∈ log, movedProposal m' = some proposal.proposalId ∧
              e.sequence < m'.sequence := by
      intro e he proposal hcreated
      obtain ⟨state, caseId, hlast, hcards⟩ := h e he proposal hcreated
      exact inOrder_of_shown hlog he hcreated hlast hcards
    refine ⟨fun e he e' he' proposal proposal' hcreated hcreated' hid => ?_,
      fun e he hsome => ?_, fun e he proposal hcreated => (hshown e he proposal hcreated).2.2⟩
    · exact ((hshown e he proposal hcreated).1 e' he'
        (creates_iff.mpr ⟨proposal', hcreated', hid.symm⟩)).symm
    · obtain ⟨proposal, hcreated⟩ := Option.isSome_iff_exists.mp hsome
      exact (hshown e he proposal hcreated).2.1
  · intro h e he proposal hcreated
    exact proposals_shown hlog h he hcreated

/-- The timeline of a log is a function of its events, and shows the proposals as they are exactly
    where they are in order. -/
theorem timeline_of_log (hlog : EventLog log) (activeCaseId : Option String) :
    TimelineOfSet log activeCaseId ∧
      (ProposalsShown log activeCaseId ↔ ProposalsInOrder log) := by
  refine ⟨⟨fun log' hperm => ?_, fun _ _ _ _ _ hitem => ?_, fun first rest hall => ?_⟩, ?_⟩
  · exact build_permuted hlog hperm
  · exact build_progress hitem
  · exact build_arrivals hlog hall
  · exact proposalsShown_iff hlog

end Page

/-! A proposal that is created and confirmed, and one whose confirmation is logged first. -/

section Confirmed

/-- Values as texts, where only texts matter. -/
abbrev JsText.plain : JsText where
  string
    | .str text => text
    | _ => ""

attribute [local instance] JsText.plain

def proposalEvent (sequence : Nat) (eventType : String) : Event where
  schemaVersion := 1
  eventId := eventType
  sequence := sequence
  timestamp := 0
  conversationId := "CONV-1"
  caseId := some "CASE-1"
  runId := some "RUN-1"
  eventType := eventType
  visibility := .both
  summary := "proposal"
  payload := .object [("proposal_id", .str "PROP-1")]
  evidenceRefs := []

def confirmedAfter : List Event :=
  [proposalEvent 1 "proposal_created", proposalEvent 2 "proposal_confirmed"]

theorem confirmedAfter_log : EventLog confirmedAfter := ⟨by decide, by decide⟩

theorem confirmedAfter_inOrder : ProposalsInOrder confirmedAfter := by
  have hsecond : createdProposal (proposalEvent 2 "proposal_confirmed") = none := rfl
  refine ⟨fun e he e' he' proposal proposal' h h' _ => ?_, fun e he _ => ?_,
    fun e he proposal h m hm _ => ?_⟩
  · rcases List.mem_pair.mp he with rfl | rfl
    · rcases List.mem_pair.mp he' with rfl | rfl
      · rfl
      · rw [hsecond] at h'
        cases h'
    · rw [hsecond] at h
      cases h
  · rcases List.mem_pair.mp he with rfl | rfl
    · exact Or.inl rfl
    · exact Or.inl rfl
  · rcases List.mem_pair.mp he with rfl | rfl
    · cases h
      exact ⟨_, List.mem_pair.mpr (Or.inr rfl), rfl, by decide⟩
    · rw [hsecond] at h
      cases h

theorem confirmedAfter_shown :
    TimelineOfSet confirmedAfter (some "CASE-1") ∧ ProposalsShown confirmedAfter (some "CASE-1") := by
  have htimeline := timeline_of_log confirmedAfter_log (some "CASE-1")
  exact ⟨htimeline.1, htimeline.2.mpr confirmedAfter_inOrder⟩

def confirmedBefore : List Event :=
  [proposalEvent 1 "proposal_confirmed", proposalEvent 2 "proposal_created"]

/-- The confirmation is lost, and the card stays pending. -/
theorem confirmedBefore_pending :
    ¬ ∀ (log : List Event) (activeCaseId : Option String), EventLog log →
      TimelineOfSet log activeCaseId ∧ ProposalsShown log activeCaseId := by
  intro h
  have hlog : EventLog confirmedBefore := ⟨by decide, by decide⟩
  have hmem : proposalEvent 2 "proposal_created" ∈ confirmedBefore := by decide
  obtain ⟨state, caseId, hlast, hcards⟩ :=
    (h confirmedBefore (some "CASE-1") hlog).2 _ hmem _ rfl
  obtain ⟨-, -, hafter⟩ := inOrder_of_shown hlog hmem rfl hlast hcards
  obtain ⟨m, hm, -, hlater⟩ :=
    hafter (proposalEvent 1 "proposal_confirmed") (List.mem_pair.mpr (Or.inl rfl)) rfl
  rcases List.mem_pair.mp hm with rfl | rfl
  · exact absurd hlater (by decide)
  · exact absurd hlater (by decide)

end Confirmed

end AfterSales.Timeline
