import AfterSales.Application.Watch

/-! Which cases the events of a run name.

    A reader of the log resolves an event without a case to the case that other events of its run
    name. A run that begins for a message without a case opens one of its own, and this case is
    newer than everything that was logged before the run began. Serial numbers are drawn from one
    counter for runs and cases, so that newer means of a larger serial number. -/

set_option linter.unusedSectionVars false

namespace AfterSales
open Interleave Repository

variable [PolicyDigest]

/-- The event with which a run began that was for no case. -/
structure ServiceEvent.BeginsFresh (e : ServiceEvent) (runId : RowId) : Prop where
  started : e.eventType = "run_started"
  caseId : e.caseId = none
  runId : e.runId = some runId

/-- What is named before a run began is older than the run; a case that a fresh run names is
    newer. -/
structure EventsNamed (events : List ServiceEvent) : Prop where
  older : events.Pairwise fun e e' => e'.eventType = "run_started" → ∀ r ∈ e'.runId,
    ∀ c ∈ e.caseId, c.serial < r.serial
  newer : ∀ e ∈ events, ∀ r, e.BeginsFresh r → ∀ e' ∈ events, e'.runId = some r →
    ∀ c ∈ e'.caseId, r.serial < c.serial

/-- The run at hand, and its case. -/
def JournalPoint.atHand : JournalPoint → Option (RowId × Option RowId)
  | blank => none
  | opened runId caseId _ | closed runId caseId _ | lost runId caseId => some (runId, caseId)
  | acting runId caseId _ => some (runId, some caseId)

/-- What the log knows of the run at hand. -/
structure AtHand (l : ConversationStore) (due : List ServiceEvent) (runId : RowId)
    (co : Option RowId) : Prop where
  run : runId.serial < l.nextSerial
  case : ∀ c ∈ co, c.serial < l.nextSerial
  named : ∀ e ∈ l.events, e.runId = some runId → ∀ c ∈ e.caseId, co = some c
  fresh : ∀ e ∈ l.events, e.BeginsFresh runId → ∀ c ∈ co, runId.serial < c.serial
  about : ∀ e ∈ due, e.runId = some runId ∧ ∀ c ∈ e.caseId, co = some c
  untold : ∀ e ∈ due, e.eventType = "run_started" → e.caseId = co ∧
    (∀ c ∈ co, c.serial < runId.serial) ∧ ∀ e' ∈ l.events, ∀ c ∈ e'.caseId, c.serial < runId.serial

/-- The log names cases as it should. -/
structure Naming (l : ConversationStore) (p : JournalPoint) : Prop where
  events : EventsNamed l.events
  known : ∀ e ∈ l.events, ∀ c ∈ e.caseId, c.serial < l.nextSerial
  hand : ∀ h ∈ p.atHand, AtHand l p.due h.1 h.2

section Logs

variable {l l' : ConversationStore} {p p' : JournalPoint} {events : List ServiceEvent}

/-- An event that may be appended names no case but that of its run. -/
theorem JournalPoint.About.of_hand {e : ServiceEvent} (h : p.About e) :
    (e.runId = none ∧ e.caseId = none) ∨
      ∃ hand ∈ p.atHand, e.runId = some hand.1 ∧ ∀ c ∈ e.caseId, hand.2 = some c := by
  cases p with
  | blank => exact .inl h
  | opened runId co due => exact .inr ⟨_, rfl, h⟩
  | closed runId co due => exact .inr ⟨_, rfl, h⟩
  | lost runId co => exact .inr ⟨_, rfl, h⟩
  | acting runId caseId fault =>
    exact .inr ⟨_, rfl, h.1, fun c hc => congrArg some (h.2 c hc)⟩

theorem JournalPoint.About.hand {e : ServiceEvent} {hand : RowId × Option RowId} (h : p.About e)
    (hmem : hand ∈ p.atHand) : e.runId = some hand.1 ∧ ∀ c ∈ e.caseId, hand.2 = some c := by
  cases p with
  | blank => cases hmem
  | opened runId co due =>
    obtain rfl := Option.some.inj hmem
    exact h
  | closed runId co due =>
    obtain rfl := Option.some.inj hmem
    exact h
  | lost runId co =>
    obtain rfl := Option.some.inj hmem
    exact h
  | acting runId caseId fault =>
    obtain rfl := Option.some.inj hmem
    exact ⟨h.1, fun c hc => congrArg some (h.2 c hc)⟩

/-- Appending events of the run at hand that begin no run. -/
theorem EventsNamed.append (h : EventsNamed l.events)
    (hhand : ∀ hand ∈ p.atHand, AtHand l p.due hand.1 hand.2)
    (habout : ∀ e ∈ events, p.About e) (hquiet : ∀ e ∈ events, e.eventType ≠ "run_started") :
    EventsNamed (l.events ++ events) where
  older := by
    rw [List.pairwise_append]
    refine ⟨h.older, ?_, fun _ _ e he hstart => absurd hstart (hquiet e he)⟩
    exact List.pairwise_of_forall_mem_list fun _ _ e he hstart => absurd hstart (hquiet e he)
  newer e he r hfresh e' he' hrun c hc := by
    rcases List.mem_append.mp he with he | he
    · rcases List.mem_append.mp he' with he' | he'
      · exact h.newer e he r hfresh e' he' hrun c hc
      · rcases (habout e' he').of_hand with ⟨hnone, -⟩ | ⟨hand, hmem, hrun', hcase⟩
        · rw [hrun] at hnone
          cases hnone
        · rw [hrun] at hrun'
          obtain rfl := Option.some.inj hrun'
          exact (hhand hand hmem).fresh e he hfresh c (hcase c hc)
    · exact absurd hfresh.started (hquiet e he)

/-- A known case stays known. -/
theorem AtHand.append {due : List ServiceEvent} {runId : RowId} {co : Option RowId}
    (h : AtHand l due runId co) (hevents : l'.events = l.events ++ events)
    (hserial : l.nextSerial ≤ l'.nextSerial)
    (habout : ∀ e ∈ events, e.runId = some runId ∧ ∀ c ∈ e.caseId, co = some c)
    (hquiet : ∀ e ∈ events, e.eventType ≠ "run_started") : AtHand l' due runId co where
  run := h.run.trans_le hserial
  case c hc := (h.case c hc).trans_le hserial
  named e he hrun c hc := by
    rw [hevents] at he
    rcases List.mem_append.mp he with he | he
    · exact h.named e he hrun c hc
    · exact (habout e he).2 c hc
  fresh e he hfresh c hc := by
    rw [hevents] at he
    rcases List.mem_append.mp he with he | he
    · exact h.fresh e he hfresh c hc
    · exact absurd hfresh.started (hquiet e he)
  about := h.about
  untold e he hstart := by
    obtain ⟨hcase, holder, hlogged⟩ := h.untold e he hstart
    refine ⟨hcase, holder, fun e' he' c hc => ?_⟩
    rw [hevents] at he'
    rcases List.mem_append.mp he' with he' | he'
    · exact hlogged e' he' c hc
    · exact holder c ((habout e' he').2 c hc)

/-- Events of the run at hand are appended. -/
theorem Naming.append (h : Naming l p) (hevents : l'.events = l.events ++ events)
    (hserial : l.nextSerial ≤ l'.nextSerial) (habout : ∀ e ∈ events, p.About e)
    (hquiet : ∀ e ∈ events, e.eventType ≠ "run_started") : Naming l' p where
  events := hevents ▸ h.events.append h.hand habout hquiet
  known e he c hc := by
    rw [hevents] at he
    rcases List.mem_append.mp he with he | he
    · exact (h.known e he c hc).trans_le hserial
    · rcases (habout e he).of_hand with ⟨-, hnone⟩ | ⟨hand, hmem, -, hcase⟩
      · rw [hnone] at hc
        cases hc
      · exact ((h.hand hand hmem).case c (hcase c hc)).trans_le hserial
  hand hand hmem := (h.hand hand hmem).append hevents hserial
    (fun e he => (habout e he).hand hmem) hquiet

/-- The event that is due next is appended. -/
theorem Naming.tell {e : ServiceEvent} (h : Naming l p) (hdue : p.due = e :: p'.due)
    (hhand : p'.atHand = p.atHand) (hat : p.atHand.isSome) (hevents : l'.events = l.events ++ [e])
    (hserial : l.nextSerial ≤ l'.nextSerial) : Naming l' p' := by
  obtain ⟨⟨runId, co⟩, hmem⟩ := Option.isSome_iff_exists.mp hat
  have hold := h.hand _ hmem
  rw [hdue] at hold
  obtain ⟨hrun, hcase⟩ := hold.about e (List.mem_cons_self ..)
  have hmem' : ∀ {e' : ServiceEvent}, e' ∈ l'.events ↔ e' ∈ l.events ∨ e' = e := by
    intro e'
    rw [hevents, List.mem_append, List.mem_singleton]
  have hstarts : e.eventType = "run_started" → e.caseId = co ∧
      (∀ c ∈ co, c.serial < runId.serial) ∧
      ∀ e' ∈ l.events, ∀ c ∈ e'.caseId, c.serial < runId.serial :=
    hold.untold e (List.mem_cons_self ..)
  refine ⟨⟨?_, ?_⟩, ?_, ?_⟩
  · rw [hevents, List.pairwise_append]
    refine ⟨h.events.older, List.pairwise_singleton .., ?_⟩
    intro d hd e' he' hstart r hr c hc
    obtain rfl := List.mem_singleton.mp he'
    obtain rfl := Option.some.inj (hrun.symm.trans hr)
    exact (hstarts hstart).2.2 d hd c hc
  · intro d hd r hfresh e' he' hr c hc
    rcases hmem'.mp hd with hd | rfl
    · rcases hmem'.mp he' with he' | rfl
      · exact h.events.newer d hd r hfresh e' he' hr c hc
      · obtain rfl := Option.some.inj (hrun.symm.trans hr)
        exact hold.fresh d hd hfresh c (hcase c hc)
    · obtain rfl := Option.some.inj (hrun.symm.trans hfresh.runId)
      have hnone : co = none := (hstarts hfresh.started).1.symm.trans hfresh.caseId
      rcases hmem'.mp he' with he' | rfl
      · have hnamed := hold.named e' he' hr c hc
        rw [hnone] at hnamed
        cases hnamed
      · rw [hfresh.caseId] at hc
        cases hc
  · intro d hd c hc
    rcases hmem'.mp hd with hd | rfl
    · exact (h.known d hd c hc).trans_le hserial
    · exact (hold.case c (hcase c hc)).trans_le hserial
  · intro hand hhand'
    rw [hhand] at hhand'
    obtain rfl : (runId, co) = hand := Option.mem_unique hmem hhand'
    refine ⟨hold.run.trans_le hserial, fun c hc => (hold.case c hc).trans_le hserial, ?_, ?_,
      fun d hd => hold.about d (List.mem_cons_of_mem _ hd), ?_⟩
    · intro d hd hr c hc
      rcases hmem'.mp hd with hd | rfl
      · exact hold.named d hd hr c hc
      · exact hcase c hc
    · intro d hd hfresh c hc
      rcases hmem'.mp hd with hd | rfl
      · exact hold.fresh d hd hfresh c hc
      · have hnone : co = none := (hstarts hfresh.started).1.symm.trans hfresh.caseId
        rw [hnone] at hc
        cases hc
    · intro d hd hstart
      obtain ⟨hsame, holder, hlogged⟩ := hold.untold d (List.mem_cons_of_mem _ hd) hstart
      refine ⟨hsame, holder, fun e' he' c hc => ?_⟩
      rcases hmem'.mp he' with he' | rfl
      · exact hlogged e' he' c hc
      · exact holder c (hcase c hc)

/-- The run at hand ends, and its events are due. -/
theorem Naming.closes (h : Naming l p) (hhand : p'.atHand = p.atHand)
    (hevents : l'.events = l.events) (hserial : l.nextSerial ≤ l'.nextSerial)
    (habout : ∀ e ∈ p'.due, p.About e) (hquiet : ∀ e ∈ p'.due, e.eventType ≠ "run_started") :
    Naming l' p' where
  events := hevents ▸ h.events
  known e he c hc := (h.known e (hevents ▸ he) c hc).trans_le hserial
  hand hand hmem := by
    rw [hhand] at hmem
    have hold := h.hand hand hmem
    refine ⟨hold.run.trans_le hserial, fun c hc => (hold.case c hc).trans_le hserial,
      hevents ▸ hold.named, hevents ▸ hold.fresh, fun e he => (habout e he).hand hmem, ?_⟩
    exact fun e he hstart => absurd hstart (hquiet e he)

/-- Nothing is at hand any more. -/
theorem Naming.rests (h : Naming l p) : Naming l .blank :=
  ⟨h.events, h.known, fun _ hmem => by cases hmem⟩

variable {k : String} {co : Option RowId}

/-- A run is queued. -/
theorem Naming.queues (h : Naming l p)
    (hruns : ∀ e ∈ l.events, ∀ r ∈ e.runId, r.serial < l.nextSerial) (hevents : l'.events = l.events)
    (hserial : l.nextSerial < l'.nextSerial) (hco : ∀ c ∈ co, c.serial < l.nextSerial) :
    Naming l' (.opened ⟨k, l.nextSerial⟩ co [.runStarted ⟨k, l.nextSerial⟩ co]) where
  events := hevents ▸ h.events
  known e he c hc := (h.known e (hevents ▸ he) c hc).trans hserial
  hand hand hmem := by
    obtain rfl := Option.some.inj hmem
    have hunknown : ∀ e ∈ l'.events, e.runId ≠ some ⟨k, l.nextSerial⟩ := by
      intro e he hrun
      rw [hevents] at he
      exact absurd (hruns e he _ hrun) (lt_irrefl _)
    refine ⟨hserial, fun c hc => (hco c hc).trans hserial,
      fun e he hrun => absurd hrun (hunknown e he),
      fun e he hfresh => absurd hfresh.runId (hunknown e he), ?_, ?_⟩
    · intro e he
      obtain rfl := List.mem_singleton.mp he
      exact ⟨rfl, fun _ => id⟩
    · intro e he _
      obtain rfl := List.mem_singleton.mp he
      exact ⟨rfl, hco, fun e' he' c hc => h.known e' (hevents ▸ he') c hc⟩

/-- The run at hand opens a case. -/
theorem Naming.binds {runId : RowId} (h : Naming l (.opened runId none []))
    (hevents : l'.events = l.events) (hserial : l.nextSerial < l'.nextSerial) :
    Naming l' (.opened runId (some ⟨k, l.nextSerial⟩) []) where
  events := hevents ▸ h.events
  known e he c hc := (h.known e (hevents ▸ he) c hc).trans hserial
  hand hand hmem := by
    obtain rfl := Option.some.inj hmem
    have hold := h.hand _ rfl
    refine ⟨hold.run.trans hserial, ?_, ?_, ?_, by simp [JournalPoint.due],
      by simp [JournalPoint.due]⟩
    · rintro c ⟨rfl⟩
      exact hserial
    · intro e he hrun c hc
      have hnone := hold.named e (hevents ▸ he) hrun c hc
      cases hnone
    · rintro e - - c ⟨rfl⟩
      exact hold.run

end Logs

/-! ### Steps -/

variable [ProofDigest] [ResultDigest] [IdText] [TraceVolume] [FactDigest]
  [CaseFolding] [EvidenceDigest] [MessageRedaction]

variable {settings : Settings} {k : String} {label : Label} {γ γ' : Phase} {p p' : JournalPoint}
  {x y : ServiceState} {co : Option RowId}

/-- Serial numbers are drawn in order. -/
theorem Move.nextSerial_le (h : Move settings k label γ x γ' y) :
    x.1.nextSerial ≤ y.1.nextSerial := by
  cases h with
  | receive | reply => exact Nat.le_add_right _ 2
  | review | openCase | retry | retryAction => exact Nat.le_succ _
  | @change _ _ _ _ _ _ _ _ _ _ _ _ drawn =>
    cases drawn with
    | false => exact le_rfl
    | true => exact Nat.le_succ _
  | _ => exact le_rfl

/-- How the folders change when a run is queued for a case, or for none. -/
inductive Queued (label : Label) (x y : ConversationStore) : Phase → Option RowId → Prop
  | message {runId messageId : RowId} (folders : y.folders = x.folders) :
      Queued label x y (.noted runId messageId .queued) none
  | reply {runId caseId : RowId} {f : CaseFolder} (stored : x.folders caseId = some f)
      (state : f.row.caseState = .awaitingCustomerInput) (folders : y.folders = x.folders) :
      Queued label x y (.replying runId caseId .queued f.row.businessClarificationCount)
        (some caseId)
  | review {proposalId : ProposalId} {f : CaseFolder} {p : ProposalRow} {runId : RowId}
      (label_ : label = .answer proposalId) (stored : x.folders proposalId.caseId = some f)
      (found : Keyed.find ProposalRow.proposalId proposalId f.proposals = some p)
      (folders : y.folders = x.folders) :
      Queued label x y (.reviewing runId proposalId .queued) (some proposalId.caseId)
  | retry {runId caseId : RowId} {f f' : CaseFolder} (stored : x.folders caseId = some f)
      (state : f.row.caseState = .awaitingRetry) (state' : f'.row.caseState = .investigating)
      (folders : y.folders = Function.update x.folders caseId (some f')) :
      Queued label x y (.working runId caseId .queued 0 0 0) (some caseId)
  | retryAction {runId : RowId} {f f' : CaseFolder} {a : Service.TicketAction}
      (stored : x.folders a.caseId = some f) (state : f.row.caseState = .awaitingRetry)
      (state' : f'.row.caseState = .executingAction)
      (folders : y.folders = Function.update x.folders a.caseId (some f')) :
      Queued label x y (.executing runId a .queued) (some a.caseId)

/-- The case of a reply is the active one. -/
theorem StoreInv.activeCase_of {l : ConversationStore} {caseId : RowId} {f : CaseFolder}
    (h : StoreInv k l) (hf : l.folders caseId = some f) (hopen : f.row.caseState ≠ .closed) :
    l.activeCase = some (caseId, f) := by
  have hactive : l.activeCaseId = some caseId := (h.active caseId).mpr ⟨f, hf, hopen⟩
  simp [ConversationStore.activeCase, hactive, hf, hopen]

/-- Only an idle conversation queues a run, for the case that the label names. -/
theorem Move.queued (h : Move settings k label γ x γ' y) (hinv : StoreInv k x.1)
    (hnames : label.Queues x.1 co) (hbecomes : RunBecomes ⟨k, x.1.nextSerial⟩ .queued x.1 y.1) :
    γ = .idle ∧ Queued label x.1 y.1 γ' co := by
  cases h with
  | look kind =>
    have hstate := hbecomes.state
    rw [hinv.runStateOf_new] at hstate
    cases hstate
  | receive content inactive =>
    have hnone : co = none := by
      rw [show co = _ from hnames]
      simp [ConversationStore.activeCase, inactive]
    subst hnone
    exact ⟨rfl, .message rfl⟩
  | reply content stored state =>
    have hactive := hinv.activeCase_of stored (by simp [state])
    obtain rfl : co = some _ := hnames.trans (congrArg (Option.map Prod.fst) hactive)
    exact ⟨rfl, .reply stored state rfl⟩
  | review stored found =>
    obtain rfl : co = _ := hnames
    exact ⟨rfl, .review rfl stored found rfl⟩
  | retry stored state actions =>
    obtain rfl : co = _ := hnames
    exact ⟨rfl, .retry stored state rfl rfl⟩
  | retryAction stored state actions failed =>
    obtain rfl : co = _ := hnames
    exact ⟨rfl, .retryAction stored state rfl rfl⟩
  | hold kind => rcases kind with rfl | rfl <;> exact hnames.elim
  | load kind => rcases kind with rfl | rfl <;> exact hnames.elim
  | facts kind => rcases kind with rfl | rfl | rfl <;> exact hnames.elim
  | change folder run move =>
    cases move with
    | drop last pending owner why => cases why <;> exact hnames.elim
    | _ => exact hnames.elim
  | _ => exact hnames.elim

theorem Queued.case (h : Queued label x.1 y.1 γ' co) (hinv : StoreInv k x.1) :
    ∀ c ∈ co, c.serial < x.1.nextSerial := by
  cases h with
  | message => simp
  | reply stored | review _ stored | retry stored | retryAction stored =>
    rintro c ⟨rfl⟩
    exact (hinv.folders _ _ stored).2.1

omit [ProofDigest] [ResultDigest] [IdText] [TraceVolume] [FactDigest] [CaseFolding]
  [EvidenceDigest] [MessageRedaction] in
/-- What is due after an outcome. -/
theorem mem_dueAfterOutcome {runId caseId : RowId} {fault : Option ActionFixtureFault}
    {e : ServiceEvent} (h : e ∈ dueAfterOutcome runId caseId fault) :
    (∃ f, e = .actionFailed runId (some caseId) f) ∨ e = .runSucceeded runId (some caseId) := by
  rcases List.mem_append.mp h with h | h
  · obtain ⟨f, -, rfl⟩ := Option.map_eq_some_iff.mp (Option.mem_toList.mp h)
    exact .inl ⟨f, rfl⟩
  · exact .inr (List.mem_singleton.mp h)

/-- Both moves together keep the naming. -/
theorem JournalMove.naming (h : JournalMove settings k label p x p' y)
    (hmove : Move settings k label γ x γ' y) (hinv : StoreInv k x.1) (hinv' : StoreInv k y.1)
    (hnaming : Naming x.1 p) : Naming y.1 p' := by
  have hserial := hmove.nextSerial_le
  cases h with
  | same hsame => exact hsame ▸ hnaming
  | quiet _ happends habout hsilent =>
    exact hnaming.append happends.events hserial habout fun e he hstart =>
      (hsilent e he).1 (by simp [ServiceEvent.ofRun, hstart])
  | gate _ happends habout hsilent =>
    exact hnaming.append happends.events hserial habout fun e he hstart =>
      hsilent e he (by simp [ServiceEvent.ofRun, hstart])
  | @note _ _ _ e happends habout hsilent =>
    refine hnaming.append happends.events hserial (by simpa using habout) ?_
    rintro e' he' hstart
    obtain rfl := List.mem_singleton.mp he'
    exact hsilent.1 (by simp [ServiceEvent.ofRun, hstart])
  | tellOpened happends => exact hnaming.tell rfl rfl rfl happends.events hserial
  | tellClosed happends => exact hnaming.tell rfl rfl rfl happends.events hserial
  | queue hnames hbecomes =>
    obtain ⟨-, hqueued⟩ := hmove.queued hinv hnames hbecomes
    have hnew : x.1.nextSerial < y.1.nextSerial := by
      have hstate := hbecomes.state
      rw [ConversationStore.runStateOf, Option.map_eq_some_iff] at hstate
      obtain ⟨row, hrow, -⟩ := hstate
      exact (hinv'.runs _ _ hrow).1
    exact hnaming.queues hinv.events hbecomes.events hnew (hqueued.case hinv)
  | start hbecomes =>
    have hnone : y.1.events = x.1.events ++ [] := by simp [hbecomes.events]
    exact hnaming.append hnone hserial (by simp) (by simp)
  | bind happends =>
    have hnew : x.1.nextSerial < y.1.nextSerial := by
      cases hmove with
      | openCase => exact Nat.lt_succ_self _
      | look kind => cases kind
      | hold kind => rcases kind with kind | kind <;> cases kind
      | load kind => rcases kind with kind | kind <;> cases kind
      | facts kind => rcases kind with kind | kind | kind <;> cases kind
      | change folder run move =>
        cases move with
        | drop last pending owner why => cases why
    exact hnaming.binds (by simpa using happends.events) hnew
  | finish _ hbecomes =>
    refine hnaming.closes rfl hbecomes.events hserial ?_ ?_ <;> intro e he <;>
      obtain rfl := List.mem_singleton.mp he
    · exact ⟨rfl, fun _ => id⟩
    · simp [ServiceEvent.runSucceeded]
  | submit happends =>
    exact hnaming.closes rfl (by simpa using happends.events) hserial
      (by simp [JournalPoint.due]) (by simp [JournalPoint.due])
  | @outcome runId caseId fault _ _ _ hbecomes =>
    refine hnaming.closes rfl hbecomes.events hserial ?_ ?_ <;> intro e he <;>
      rcases mem_dueAfterOutcome he with ⟨f, rfl⟩ | rfl
    · exact ⟨rfl, fun c hc => Option.some.inj hc⟩
    · exact ⟨rfl, fun c hc => Option.some.inj hc⟩
    · simp [ServiceEvent.actionFailed]
    · simp [ServiceEvent.runSucceeded]
  | fail hbecomes =>
    refine hnaming.closes rfl hbecomes.events hserial ?_ ?_ <;> intro e he <;>
      obtain rfl := List.mem_singleton.mp he
    · exact ⟨rfl, fun _ => id⟩
    · simp [ServiceEvent.runFailed]
  | lose _ hbecomes =>
    exact hnaming.closes rfl hbecomes.events hserial
      (by simp [JournalPoint.due]) (by simp [JournalPoint.due])

end AfterSales
