import AfterSales.Application.Naming
import AfterSales.Application.Session

/-! The retry that the browser offers, and the retry that the service accepts.

    The timeline of the browser is computed from the log alone: an event of the gate or of a failed
    action offers a retry of its case, until a later run of the case has started. The service looks
    at the case and its action. While a case waits for a retry the two agree, unless it came to wait
    in a step that appends no such event, or a run was started that did not take it up. -/

set_option linter.unusedSectionVars false

namespace AfterSales
open Interleave Repository

variable [PolicyDigest]

/-! ### The timeline of the browser -/

inductive RetryReason where | evidence | action
  deriving DecidableEq, Repr

/-- An item of the timeline with which a retry can be requested. -/
structure RetryItem where
  caseId : RowId
  enabled : Bool
  reason : RetryReason
  deriving DecidableEq, Repr

/-- `caseIdsByRun`, at one run: the last case that an event of the run names. -/
def caseIdOfRun (events : List ServiceEvent) (runId : RowId) : Option RowId :=
  ((events.filter (·.runId = some runId)).filterMap (·.caseId)).getLast?

/-- `resolvedCaseId`. -/
def resolvedCaseId (events : List ServiceEvent) (e : ServiceEvent) : Option RowId :=
  e.caseId.or (e.runId.bind (caseIdOfRun events))

/-- The reason with which an event offers a retry. -/
def ServiceEvent.retryReason (e : ServiceEvent) : Option RetryReason :=
  if e.eventType = "evidence_gate_evaluated" then
    if e.decision = some .retryLater then some .evidence else none
  else if e.eventType = "action_failed" then
    if e.retryAllowed then some .action else none
  else none

/-- The item of an event that is followed by others. -/
def retryItem (resolve : ServiceEvent → Option RowId) (activeCaseId : Option RowId)
    (e : ServiceEvent) (later : List ServiceEvent) : Option RetryItem :=
  match resolve e, e.retryReason with
  | some caseId, some reason =>
    let laterRunStarted := later.any fun candidate =>
      candidate.eventType = "run_started" ∧ resolve candidate = some caseId
    some ⟨caseId, activeCaseId = some caseId ∧ ¬ laterRunStarted, reason⟩
  | _, _ => none

def retryItemsFrom (resolve : ServiceEvent → Option RowId) (activeCaseId : Option RowId) :
    List ServiceEvent → List RetryItem
  | [] => []
  | e :: later =>
    (retryItem resolve activeCaseId e later).toList ++ retryItemsFrom resolve activeCaseId later

/-- The retry items of `buildConversationTimeline`. -/
def retryItems (events : List ServiceEvent) (activeCaseId : Option RowId) : List RetryItem :=
  retryItemsFrom (resolvedCaseId events) activeCaseId events

/-- The timeline has an enabled item for a case. -/
def OffersRetry (events : List ServiceEvent) (caseId : RowId) (reason : RetryReason) : Prop :=
  ∃ item ∈ retryItems events (some caseId), item.caseId = caseId ∧ item.enabled = true ∧
    item.reason = reason

/-! ### The offers that stand -/

/-- The offers for a case after one more event. -/
def offersAfter (resolve : ServiceEvent → Option RowId) (caseId : RowId)
    (offers : List RetryReason) (e : ServiceEvent) : List RetryReason :=
  if resolve e = some caseId then
    if e.eventType = "run_started" then [] else offers ++ e.retryReason.toList
  else offers

/-- The offers for a case after a log, when events are taken for what they name themselves. -/
def offers (events : List ServiceEvent) (caseId : RowId) : List RetryReason :=
  events.foldl (offersAfter ServiceEvent.caseId caseId) []

section Timeline

variable {resolve : ServiceEvent → Option RowId} {caseId : RowId} {reason : RetryReason}
  {events : List ServiceEvent}

/-- The item of an event of the case is enabled when no later run of the case has started. -/
theorem mem_retryItem {later : List ServiceEvent} {e : ServiceEvent} :
    (∃ item ∈ retryItem resolve (some caseId) e later,
        item.caseId = caseId ∧ item.enabled = true ∧ item.reason = reason) ↔
      resolve e = some caseId ∧ e.retryReason = some reason ∧
        ∀ e' ∈ later, ¬ (e'.eventType = "run_started" ∧ resolve e' = some caseId) := by
  constructor
  · rintro ⟨item, hitem, hcase, henabled, hreason⟩
    rw [retryItem] at hitem
    split at hitem
    · rename_i c r hresolve hr
      obtain rfl := Option.some.inj hitem
      obtain rfl : c = caseId := hcase
      exact ⟨hresolve, hr.trans (congrArg some hreason), by simpa using henabled⟩
    · cases hitem
  · rintro ⟨hresolve, hreason, hlater⟩
    rw [retryItem, hresolve, hreason]
    exact ⟨_, rfl, rfl, by simpa using hlater, rfl⟩

/-- An offer stands when it stood before and no run has started since, or when an item made later
    is enabled. -/
theorem mem_offersFrom (standing : List RetryReason) :
    reason ∈ events.foldl (offersAfter resolve caseId) standing ↔
      (reason ∈ standing ∧
        ∀ e ∈ events, ¬ (e.eventType = "run_started" ∧ resolve e = some caseId)) ∨
      ∃ item ∈ retryItemsFrom resolve (some caseId) events,
        item.caseId = caseId ∧ item.enabled = true ∧ item.reason = reason := by
  induction events generalizing standing with
  | nil => simp [retryItemsFrom]
  | cons e later ih =>
    have hitems : (∃ item ∈ retryItemsFrom resolve (some caseId) (e :: later),
        item.caseId = caseId ∧ item.enabled = true ∧ item.reason = reason) ↔
        (resolve e = some caseId ∧ e.retryReason = some reason ∧
          ∀ e' ∈ later, ¬ (e'.eventType = "run_started" ∧ resolve e' = some caseId)) ∨
        ∃ item ∈ retryItemsFrom resolve (some caseId) later,
          item.caseId = caseId ∧ item.enabled = true ∧ item.reason = reason := by
      rw [← mem_retryItem]
      simp only [retryItemsFrom, List.mem_append, Option.mem_toList, Option.mem_def, or_and_right,
        exists_or]
    rw [List.foldl_cons, ih, hitems, List.forall_mem_cons, offersAfter]
    by_cases hcase : resolve e = some caseId
    · by_cases hstart : e.eventType = "run_started"
      · simp [hcase, hstart, ServiceEvent.retryReason]
      · simp only [hcase, hstart, if_true, if_false, List.mem_append, Option.mem_toList,
          false_and, not_false_eq_true, true_and, or_and_right, or_assoc]
    · simp [hcase]

theorem offers_append (after : List ServiceEvent) :
    offers (events ++ after) caseId
      = after.foldl (offersAfter ServiceEvent.caseId caseId) (offers events caseId) :=
  List.foldl_append ..

/-- A case that no event names has no offers. -/
theorem offers_unnamed (h : ∀ e ∈ events, e.caseId ≠ some caseId) : offers events caseId = [] := by
  induction events using List.reverseRecOn with
  | nil => rfl
  | append_singleton events e ih =>
    rw [offers_append, List.foldl_cons, List.foldl_nil, offersAfter, if_neg (h e (by simp))]
    exact ih fun e' he' => h e' (by simp [he'])

/-- A case that a run resolves to is named by an event of the run. -/
theorem caseIdOfRun_named {runId : RowId} (h : caseIdOfRun events runId = some caseId) :
    ∃ e ∈ events, e.runId = some runId ∧ e.caseId = some caseId := by
  have hmem := List.mem_of_getLast? h
  rw [List.mem_filterMap] at hmem
  obtain ⟨e, he, hcase⟩ := hmem
  rw [List.mem_filter, decide_eq_true_eq] at he
  exact ⟨e, he.1, he.2, hcase⟩

/-- Where the log names cases as it should, resolving its events changes no offer: a run that began
    without a case opened a new one, which nothing was offered for. -/
theorem offers_resolved (hnamed : EventsNamed events)
    (hcased : ∀ e ∈ events, e.retryReason.isSome → e.caseId.isSome) :
    events.foldl (offersAfter (resolvedCaseId events) caseId) [] = offers events caseId := by
  suffices ∀ before after, events = before ++ after →
      before.foldl (offersAfter (resolvedCaseId events) caseId) [] = offers before caseId from
    this events [] (List.append_nil _).symm
  intro before
  induction before using List.reverseRecOn with
  | nil => exact fun _ _ => rfl
  | append_singleton before e ih =>
    intro after hsplit
    rw [List.append_assoc, List.singleton_append] at hsplit
    have hmem : e ∈ events := by simp [hsplit]
    rw [List.foldl_append, ih _ hsplit, offers_append, List.foldl_cons, List.foldl_nil,
      List.foldl_cons, List.foldl_nil]
    cases hcase : e.caseId with
    | some d => simp [offersAfter, resolvedCaseId, hcase]
    | none =>
      have hreason : e.retryReason = none := by
        rw [← Option.not_isSome_iff_eq_none]
        intro hsome
        have := hcased e hmem hsome
        simp [hcase] at this
      have hplain : offersAfter ServiceEvent.caseId caseId (offers before caseId) e
          = offers before caseId := by simp [offersAfter, hcase]
      rw [hplain, offersAfter]
      split
      · rename_i hresolved
        split
        · rename_i hstart
          rw [resolvedCaseId, hcase, Option.none_or, Option.bind_eq_some_iff] at hresolved
          obtain ⟨runId, hrun, hresolved⟩ := hresolved
          obtain ⟨e', he', hrun', hcase'⟩ := caseIdOfRun_named hresolved
          have hnewer := hnamed.newer e hmem runId ⟨hstart, hcase, hrun⟩ e' he' hrun' caseId hcase'
          refine (offers_unnamed fun d hd hnames => ?_).symm
          have holder := hnamed.older
          rw [hsplit, List.pairwise_append] at holder
          have hlt := holder.2.2 d hd e (List.mem_cons_self ..) hstart runId hrun caseId hnames
          omega
        · rw [hreason, Option.toList_none, List.append_nil]
      · rfl

/-- The timeline offers the retries that stand. -/
theorem offersRetry_iff (hnamed : EventsNamed events)
    (hcased : ∀ e ∈ events, e.retryReason.isSome → e.caseId.isSome) :
    OffersRetry events caseId reason ↔ reason ∈ offers events caseId := by
  rw [← offers_resolved hnamed hcased, mem_offersFrom]
  simp [OffersRetry, retryItems]

end Timeline

/-! ### The retry that the service accepts -/

/-- What a retry of the case would be for, when the case waits for one. -/
def CaseFolder.retryDue (f : CaseFolder) : List RetryReason :=
  if f.row.caseState = .awaitingRetry then
    [if f.actions.any (·.actionState = .failedRetryable) then .action else .evidence]
  else []

/-- What a retry goes on with: it submits an action again, or looks for evidence. -/
def Service.RetryPlan.reason : Service.RetryPlan → RetryReason
  | .action _ _ => .action
  | .investigation _ => .evidence

variable [ProofDigest] [ResultDigest] [IdText] [TraceVolume] [FactDigest]
  [CaseFolding] [EvidenceDigest] [MessageRedaction]

variable {settings : Settings} {k : String} {label : Label} {γ γ' : Phase} {p p' : JournalPoint}
  {x y : ServiceState} {co : Option RowId} {l : ConversationStore} {s : SharedState}
  {caseId : RowId} {f : CaseFolder} {reason : RetryReason}

/-- The service accepts a retry of a case, and goes on for a reason. -/
def AcceptsRetry (k : String) (x : ServiceState) (caseId : RowId) (reason : RetryReason) : Prop :=
  ∃ plan y, Service.planRetry k caseId x = .ok (plan, y) ∧ plan.reason = reason

theorem AcceptsRetry.of_plan
    (h : (Service.planRetry k caseId x).toOption.map (·.1.reason) = some reason) :
    AcceptsRetry k x caseId reason := by
  cases hplan : Service.planRetry k caseId x with
  | error e => simp [hplan, Except.toOption] at h
  | ok r => exact ⟨r.1, r.2, hplan, by simpa [hplan, Except.toOption] using h⟩

/-- A retry is accepted for the reason that is due. -/
theorem acceptsRetry_iff (hinv : StoreInv k l) (hf : l.folders caseId = some f) :
    AcceptsRetry k (l, s) caseId reason ↔ reason ∈ f.retryDue := by
  obtain ⟨-, -, hfolder⟩ := hinv.folders caseId f hf
  by_cases hstate : f.row.caseState = .awaitingRetry
  · rcases hfolder.awaits hstate with hactions | ⟨a, hactions, hfailed⟩
    · simp [AcceptsRetry, planRetry_investigates hfolder hf hstate hactions, CaseFolder.retryDue,
        hstate, hactions, Service.RetryPlan.reason, eq_comm]
    · simp [AcceptsRetry, planRetry_resubmits hfolder hf hstate hactions hfailed,
        CaseFolder.retryDue, hstate, hactions, hfailed, Service.RetryPlan.reason, eq_comm]
  · simp [AcceptsRetry, planRetry_refuses hf hstate, CaseFolder.retryDue, hstate]

/-! ### The invariant -/

/-- The offers for a case while a call is in a phase: between the event of the gate and the change
    of the case the verdict counts. -/
def Phase.expects (caseId : RowId) (f : CaseFolder) : Phase → List RetryReason
  | .answered _ c _ output _ =>
    if c = caseId then
      if output.gateResult.outcome = .decision .retryLater then [.evidence] else []
    else f.retryDue
  | _ => f.retryDue

/-- A run that has not come to its gate has no verdict of the gate to resume. -/
def Phase.Ungated (l : ConversationStore) : Phase → Prop
  | .noted runId _ _ | .replying runId _ _ _ | .working runId _ _ 0 _ _ =>
    ∀ row ∈ l.runs runId, row.gateResult = none
  | .exploring _ _ _ started _ _ =>
    started.history.persistedGate = none ∨ started.args.investigationPass ≠ 0
  | _ => True

/-- Where the journal is while an action is under way. -/
def Phase.Linked : JournalPoint → Phase → Prop
  | p, .reviewing runId proposalId _ =>
    ∃ due, p = .opened runId (some proposalId.caseId) due
  | p, .executing runId a _ => ∃ due, p = .opened runId (some a.caseId) due
  | p, .submitted runId a fault _ => p = .acting runId a.caseId fault
  | p, .stranded => p.due = [] ∧ p.atHand.isSome
  | _, .parked _ _ _ _ => False
  | _, _ => True

/-- The log offers the retries that are due. -/
structure Offering (γ : Phase) (p : JournalPoint) (l : ConversationStore) : Prop where
  cased : ∀ e ∈ l.events ++ p.due, e.retryReason.isSome → e.caseId.isSome
  ungated : γ.Ungated l
  linked : γ.Linked p
  agrees : ∀ caseId f, l.folders caseId = some f → f.row.caseState ≠ .closed →
    offers (l.events ++ p.due) caseId = γ.expects caseId f

/-- A step after which the retry that the browser offers is still the one that the service accepts:
    no investigation has raised, no proposal of a case that waits for a retry is answered, and no
    proposal is dropped. -/
def RetryShown (settings : Settings) (_ : String) (label : Label) (x : ServiceState) : Prop :=
  (∀ caseId runId pass, label ≠ .park caseId runId pass) ∧
  (∀ proposalId, label = .answer proposalId → ∀ f p, x.1.folders proposalId.caseId = some f →
    Keyed.find ProposalRow.proposalId proposalId f.proposals = some p →
    f.row.caseState ≠ .awaitingRetry) ∧
  ∀ f p version proposalState, x.1.folders p.proposalId.caseId = some f → p ∈ f.proposals →
    p.proposalState = .pendingConfirmation →
    ¬ Drops settings x.1 x.2 f p version label proposalState

/-! ### What the machine does to the cases -/

theorem retryDue_of_ne (h : f.row.caseState ≠ .awaitingRetry) : f.retryDue = [] := by
  rw [CaseFolder.retryDue, if_neg h]

theorem retryDue_of_pass (h : f.row.caseState ∈ passStates) : f.retryDue = [] := by
  refine retryDue_of_ne fun he => ?_
  simp [he, passStates] at h

/-- Only the state of the case and its actions count. -/
theorem retryDue_congr {f' : CaseFolder} (hstate : f'.row.caseState = f.row.caseState)
    (hactions : f'.actions = f.actions) : f'.retryDue = f.retryDue := by
  rw [CaseFolder.retryDue, CaseFolder.retryDue, hstate, hactions]

/-- Other cases than the one of a pass are due what their rows say. -/
theorem CaseMove.expects_of_ne {runId c : RowId} {row row' : RunRow} {drawn : Bool} {g f' : CaseFolder}
    {s' : SharedState}
    (h : CaseMove settings caseId runId l s f row label γ drawn γ' s' f' row') (hc : c ≠ caseId) :
    γ.expects c g = g.retryDue ∧ γ'.expects c g = g.retryDue := by
  cases h with
  | park passing => cases passing <;> exact ⟨rfl, rfl⟩
  | close | wait | ask | propose | revise => exact ⟨if_neg (Ne.symm hc), rfl⟩
  | askPackage asking => cases asking <;> exact ⟨rfl, rfl⟩
  | closeAtLimit asking => cases asking <;> exact ⟨rfl, rfl⟩
  | _ => exact ⟨rfl, rfl⟩

/-- The labels of steps that the log follows in a way of its own. -/
def Label.special : Label → Prop
  | .retry _ | .outcome _ | .evaluate => True
  | _ => False

/-- A move on a case leaves it due what it was due, unless it is told in a way of its own. -/
theorem CaseMove.expects {runId : RowId} {row row' : RunRow} {drawn : Bool} {f' : CaseFolder}
    {s' : SharedState} (h : CaseMove settings caseId runId l s f row label γ drawn γ' s' f' row')
    (hinv : FolderInv l caseId f) (hf : l.folders caseId = some f) (hγ : γ.Inv l)
    (hshown : RetryShown settings k label (l, s)) (hopen : f'.row.caseState ≠ .closed) :
    (label.special ∧ f'.row.caseState ≠ f.row.caseState) ∨
      γ.expects caseId f = γ'.expects caseId f' := by
  cases h with
  | park passing => exact absurd rfl (hshown.1 _ _ _)
  | close => exact absurd rfl hopen
  | wait decision =>
    right
    have hactions := (hinv.stage.of_pass (Phase.answered_state hγ hf).1).2.2
    simp [Phase.expects, decision, CaseFolder.retryDue, CaseFolder.updated, CaseRow.updated,
      Service.withUsage, hactions]
  | ask asked bound decision =>
    right
    simp [Phase.expects, decision, CaseFolder.retryDue, CaseFolder.updated, CaseRow.updated,
      Service.withUsage]
  | propose binding snapshot decision =>
    right
    simp [Phase.expects, decision, CaseFolder.retryDue, CaseFolder.updated, CaseRow.updated,
      Service.withUsage]
  | revise issueType intent revision =>
    right
    have hpass := (Phase.answered_state hγ hf).1
    refine Eq.trans ?_ (retryDue_of_pass hpass).symm
    simp [Phase.expects, revision]
  | askPackage asking =>
    right
    have hdue := retryDue_of_pass (asking.state hγ hf)
    cases asking <;> exact hdue
  | closeAtLimit asking => exact absurd rfl hopen
  | resume =>
    right
    exact retryDue_of_pass (Phase.Passing.state .replying hγ hf)
  | drop last pending owner why =>
    subst owner
    exact absurd why (hshown.2.2 _ _ _ _ hf (by simp [last]) pending)
  | confirm last pending =>
    right
    exact retryDue_of_ne (by simp [(hinv.stage.of_pending last pending).1])
  | decline => exact absurd rfl hopen
  | submit open_ | submitFaulted open_ =>
    right
    have hstate : ∀ g : CaseFolder, g.row = f.row → g.retryDue = [] := fun g hg =>
      retryDue_of_ne (by simp [hg, open_.state])
    refine (hstate f rfl).trans ?_
    exact (hstate _ (by rfl)).symm
  | @fault a act fault t open_ =>
    refine .inl ⟨trivial, ?_⟩
    rw [open_.state]
    rcases Service.faultedCase_cases fault with ⟨-, h⟩ | ⟨-, h⟩ | ⟨-, h⟩ <;>
      simp [CaseFolder.updated, CaseRow.updated, h, Service.closing]
  | verify open_ => exact absurd rfl hopen

/-- What a step leaves due. -/
def KeepsDue (k : String) (γ γ' : Phase) (x y : ConversationStore) : Prop :=
  ∀ c f', y.folders c = some f' → f'.row.caseState ≠ .closed →
    (∃ f, x.folders c = some f ∧ f.row.caseState ≠ .closed ∧ γ.expects c f = γ'.expects c f') ∨
      (c = ⟨k, x.nextSerial⟩ ∧ γ'.expects c f' = [])

theorem KeepsDue.of_same {γ γ' : Phase} {x y : ConversationStore} (hfolders : y.folders = x.folders)
    (hexpects : ∀ c f, γ.expects c f = γ'.expects c f) : KeepsDue k γ γ' x y := by
  intro c f' hf' hopen
  exact .inl ⟨f', hfolders ▸ hf', hopen, hexpects c f'⟩

/-- A folder changes in what nothing is due for. -/
theorem KeepsDue.of_folder {γ γ' : Phase} {x y : ConversationStore} {f' : CaseFolder}
    (hf : x.folders caseId = some f) (hself : y.folders caseId = some f')
    (hothers : ∀ c, c ≠ caseId → y.folders c = x.folders c)
    (hstate : f'.row.caseState = f.row.caseState)
    (hexpects : γ.expects caseId f = γ'.expects caseId f')
    (hrest : ∀ c g, c ≠ caseId → γ.expects c g = γ'.expects c g) : KeepsDue k γ γ' x y := by
  intro c g hg hopen
  by_cases hc : c = caseId
  · subst hc
    obtain rfl := Option.some.inj (hself.symm.trans hg)
    exact .inl ⟨f, hf, hstate ▸ hopen, hexpects⟩
  · exact .inl ⟨g, hothers c hc ▸ hg, hopen, hrest c g hc⟩

/-- Every step leaves due what was due, unless the log follows it in a way of its own. -/
theorem Move.expects (h : Move settings k label γ x γ' y) (hinv : StoreInv k x.1) (hγ : γ.Inv x.1)
    (hungated : γ.Ungated x.1) (hshown : RetryShown settings k label x) :
    (label.special ∧ y.1 ≠ x.1) ∨ KeepsDue k γ γ' x.1 y.1 := by
  cases h with
  | look | load | hold | note | strand | route => exact .inr (.of_same rfl fun _ _ => rfl)
  | tell e about carries visible ordinary known tells =>
    exact .inr (.of_same rfl fun _ _ => by cases tells <;> rfl)
  | receive | reply | review | answer => exact .inr (.of_same rfl fun _ _ => rfl)
  | begin starts => exact .inr (.of_same rfl fun _ _ => by cases starts <;> rfl)
  | refuse refusable => exact .inr (.of_same rfl fun _ _ => by cases refusable <;> rfl)
  | fail => exact .inr (.of_same rfl fun _ _ => rfl)
  | stumble => exact .inr (.of_same rfl fun _ _ => rfl)
  | start begins => exact .inr (.of_same rfl fun _ _ => by cases begins <;> rfl)
  | @openCase l s _ _ _ customerId orderId issueType target stored =>
    refine .inr fun c f' hf' hopen => ?_
    by_cases hc : c = ⟨k, l.nextSerial⟩
    · subst hc
      have hnew : some _ = some f' := (ConversationStore.setFolder_self ..).symm.trans hf'
      obtain rfl := Option.some.inj hnew
      exact .inr ⟨rfl, retryDue_of_ne (by simp [Service.newCaseRow])⟩
    · have hold : l.folders c = some f' := (ConversationStore.setFolder_of_ne hc).symm.trans hf'
      exact .inl ⟨f', hold, hopen, rfl⟩
  | facts kind facts stored step =>
    refine .inr (.of_folder stored (ConversationStore.setFolder_self ..)
      (fun c hc => ConversationStore.setFolder_of_ne hc) (congrArg CaseRow.caseState step.row)
      ?_ fun c g _ => by cases facts <;> rfl)
    have hdue := (retryDue_congr (congrArg CaseRow.caseState step.row) step.actions).symm
    cases facts with
    | replying | working => exact hdue
    | answered => simp [Phase.expects]
  | superstep selector stored step =>
    exact .inr (.of_folder stored (ConversationStore.setFolder_self ..)
      (fun c hc => ConversationStore.setFolder_of_ne hc) rfl rfl fun _ _ _ => rfl)
  | evaluate stored =>
    refine .inl ⟨trivial, fun hsame => ?_⟩
    have hevents := congrArg (List.length ∘ ConversationStore.events) hsame
    simp [ConversationStore.gated, ConversationStore.logged] at hevents
  | resumeGate resumed first =>
    rcases hungated with hnone | hlater
    · rw [hnone] at resumed
      cases resumed
    · exact absurd first hlater
  | @retry l s caseId f stored state actions =>
    refine .inl ⟨trivial, fun hsame => ?_⟩
    have hfolder := congrFun (congrArg ConversationStore.folders hsame) caseId
    rw [stored, ConversationStore.putCase_self, Option.some.injEq] at hfolder
    rw [← hfolder] at state
    simp [CaseFolder.updated, CaseRow.updated] at state
  | @retryAction l s caseId f _ stored state actions =>
    refine .inl ⟨trivial, fun hsame => ?_⟩
    have hfolder := congrFun (congrArg ConversationStore.folders hsame) caseId
    rw [stored, ConversationStore.putCase_self, Option.some.injEq] at hfolder
    rw [← hfolder] at state
    simp [CaseFolder.updated, CaseRow.updated] at state
  | @change _ _ _ l s s' caseId runId f f' row row' drawn folder run move =>
    obtain ⟨-, -, hfolder⟩ := hinv.folders caseId f folder
    have hopenBefore := move.isOpen hfolder folder hγ
    by_cases hopen : f'.row.caseState = .closed
    · refine .inr fun c g hg hgopen => ?_
      by_cases hc : c = caseId
      · subst hc
        obtain rfl := Option.some.inj (changed_folder.symm.trans hg)
        exact absurd hopen hgopen
      · obtain ⟨hbefore, hafter⟩ := move.expects_of_ne hc
        exact .inl ⟨g, (changed_of_ne hc).symm.trans hg, hgopen, hbefore.trans hafter.symm⟩
    rcases move.expects hfolder folder hγ hshown hopen with ⟨hspecial, hstate⟩ | hexpects
    · refine .inl ⟨hspecial, fun hsame => hstate ?_⟩
      have hsame' := congrFun (congrArg ConversationStore.folders hsame) caseId
      have hnow := changed_folder.symm.trans (hsame'.trans folder)
      rw [Option.some.inj hnow]
    · refine .inr fun c g hg hgopen => ?_
      by_cases hc : c = caseId
      · subst hc
        obtain rfl := Option.some.inj (changed_folder.symm.trans hg)
        exact .inl ⟨f, folder, hopenBefore, hexpects⟩
      · obtain ⟨hbefore, hafter⟩ := move.expects_of_ne hc
        exact .inl ⟨g, (changed_of_ne hc).symm.trans hg, hgopen, hbefore.trans hafter.symm⟩

/-- A run is asked for its first verdict only. -/
theorem Move.ungated (h : Move settings k label γ x γ' y) (hungated : γ.Ungated x.1) :
    γ'.Ungated y.1 := by
  cases h with
  | look | load | hold | note | strand | route => exact hungated
  | tell e about carries visible ordinary known tells => cases tells <;> exact hungated
  | receive | reply =>
    intro row hrow
    obtain rfl := Option.some.inj ((ConversationStore.setRun_self ..).symm.trans hrow)
    rfl
  | review => trivial
  | @begin _ γ' l s runId row starts stored =>
    have hsame : ∀ row' ∈ (l.setRun runId row.started).runs runId,
        row'.gateResult = row.gateResult := by
      intro row' hrow'
      obtain rfl := Option.some.inj ((ConversationStore.setRun_self ..).symm.trans hrow')
      rfl
    cases starts with
    | noted | replying => exact fun row' hrow' => (hsame row' hrow').trans (hungated row stored)
    | reviewing | executing => trivial
    | working caseId pass turns =>
      cases pass with
      | zero => exact fun row' hrow' => (hsame row' hrow').trans (hungated row stored)
      | succ => trivial
  | refuse | fail | answer => trivial
  | openCase customerId orderId issueType target stored =>
    intro row' hrow'
    obtain rfl := Option.some.inj ((ConversationStore.setRun_self ..).symm.trans hrow')
    have hnone := hungated _ stored
    exact hnone
  | facts kind facts stored step => cases facts <;> exact hungated
  | @start _ l s runId caseId pass turns number f started begins stored from_ =>
    have hgate : started.history.persistedGate = (l.runs runId).bind (·.gateResult) := by
      rw [from_.history]
      rfl
    have hfirst : (∀ row ∈ l.runs runId, row.gateResult = none) →
        started.history.persistedGate = none := by
      intro hnone
      rw [hgate, Option.bind_eq_none_iff]
      exact hnone
    cases begins with
    | replying => exact .inl (hfirst hungated)
    | working =>
      by_cases hpass : pass = 0
      · subst hpass
        exact .inl (hfirst hungated)
      · exact .inr (from_.revised hpass)
  | superstep | stumble => exact hungated
  | evaluate | resumeGate => trivial
  | retry =>
    intro row hrow
    obtain rfl := Option.some.inj ((ConversationStore.setRun_self ..).symm.trans hrow)
    rfl
  | retryAction => trivial
  | change folder run move =>
    cases move with
    | resume =>
      intro row' hrow'
      obtain rfl := Option.some.inj ((ConversationStore.setRun_self ..).symm.trans hrow')
      exact hungated _ run
    | _ => trivial

/-! ### What the log tells of it -/

/-- An event that is no matter of the retries. -/
structure ServiceEvent.Neutral (e : ServiceEvent) : Prop where
  reason : e.retryReason = none
  ordinary : e.eventType ≠ "run_started"

theorem ServiceEvent.Neutral.of_silent {e : ServiceEvent} (h : ¬ e.ofRun ∧ ¬ e.ofGate) :
    e.Neutral := by
  simp only [ServiceEvent.ofRun, ServiceEvent.ofGate, decide_eq_true_eq, List.mem_cons,
    List.not_mem_nil, or_false, not_or] at h
  exact ⟨by simp [ServiceEvent.retryReason, h], h.1.1⟩

/-- Events that are no matter of the retries change no offer. -/
theorem offers_neutral {before events after : List ServiceEvent} (h : ∀ e ∈ events, e.Neutral) :
    offers (before ++ events ++ after) caseId = offers (before ++ after) caseId := by
  have hfold : ∀ standing, events.foldl (offersAfter ServiceEvent.caseId caseId) standing
      = standing := by
    intro standing
    induction events with
    | nil => rfl
    | cons e events ih =>
      have he := h e (List.mem_cons_self ..)
      rw [List.foldl_cons, show offersAfter ServiceEvent.caseId caseId standing e = standing by
        simp [offersAfter, he.reason, he.ordinary]]
      exact ih fun e' he' => h e' (List.mem_cons_of_mem _ he')
  rw [offers_append, offers_append, offers_append, hfold]

/-- What a move of the journal does to the log and to what is due. -/
inductive LogStep (k : String) (label : Label) (p p' : JournalPoint) (x y : ConversationStore) :
    Prop
  | neutral (before events after : List ServiceEvent) (plain : label.special → y = x)
      (old : x.events ++ p.due = before ++ after)
      (new : y.events ++ p'.due = before ++ events ++ after) (neutral : ∀ e ∈ events, e.Neutral)
  | gate (label_ : label = .evaluate) (told : p.due = []) (stays : p' = p)
  | queue (co : Option RowId) (blank : p = .blank)
      (opened : p' = .opened ⟨k, x.nextSerial⟩ co [.runStarted ⟨k, x.nextSerial⟩ co])
      (names : label.Queues x co) (becomes : RunBecomes ⟨k, x.nextSerial⟩ .queued x y)
  | outcome (runId caseId : RowId) (fault : Option ActionFixtureFault) (actionId : ActionId)
      (label_ : label = .outcome actionId) (acting : p = .acting runId caseId fault)
      (closed : p' = .closed runId (some caseId) (dueAfterOutcome runId caseId fault))
      (becomes : RunBecomes runId .succeeded x y)

theorem Label.special_loud (h : label.special) : label.quiet = false ∧ label.finishes = false := by
  cases label with
  | retry | outcome | evaluate => exact ⟨rfl, rfl⟩
  | _ => exact h.elim

/-- Nothing is told that was not due. -/
theorem LogStep.of_same {x y : ConversationStore} (hplain : label.special → y = x)
    (h : y.events ++ p'.due = x.events ++ p.due) : LogStep k label p p' x y :=
  .neutral _ [] [] hplain (List.append_nil _).symm
    (by rw [h, List.append_nil, List.append_nil]) (by simp)

theorem JournalMove.logStep (h : JournalMove settings k label p x p' y) :
    LogStep k label p p' x.1 y.1 := by
  cases h with
  | same hsame => exact .of_same (fun _ => hsame) (by rw [hsame])
  | quiet hquiet happends habout hsilent =>
    refine .neutral x.1.events _ p.due (fun hspecial => ?_) rfl (by rw [happends.events])
      fun e he => .of_silent (hsilent e he)
    simp [(Label.special_loud hspecial).1] at hquiet
  | gate told => exact .gate rfl told rfl
  | note happends habout hsilent =>
    refine .neutral x.1.events [_] p.due (fun hspecial => hspecial.elim) rfl
      (by rw [happends.events]) ?_
    intro e he
    obtain rfl := List.mem_singleton.mp he
    exact .of_silent hsilent
  | tellOpened happends =>
    exact .of_same (fun hspecial => hspecial.elim) (by simp [happends.events, JournalPoint.due])
  | tellClosed happends =>
    exact .of_same (fun hspecial => hspecial.elim) (by simp [happends.events, JournalPoint.due])
  | queue hnames hbecomes => exact .queue _ rfl rfl hnames hbecomes
  | start hbecomes =>
    exact .of_same (fun hspecial => hspecial.elim) (by simp [hbecomes.events])
  | bind happends =>
    exact .of_same (fun hspecial => hspecial.elim) (by simp [happends.events, JournalPoint.due])
  | finish hfinish hbecomes =>
    refine .neutral x.1.events [_] [] (fun hspecial => ?_) (by simp [JournalPoint.due])
      (by rw [hbecomes.events, List.append_nil]; rfl) ?_
    · simp [(Label.special_loud hspecial).2] at hfinish
    · intro e he
      obtain rfl := List.mem_singleton.mp he
      exact ⟨rfl, by simp [ServiceEvent.runSucceeded]⟩
  | submit happends =>
    exact .of_same (fun hspecial => hspecial.elim) (by simp [happends.events, JournalPoint.due])
  | outcome hbecomes => exact .outcome _ _ _ _ rfl rfl rfl hbecomes
  | fail hbecomes =>
    refine .neutral x.1.events [_] [] (fun hspecial => hspecial.elim) (by simp [JournalPoint.due])
      (by rw [hbecomes.events, List.append_nil]; rfl) ?_
    intro e he
    obtain rfl := List.mem_singleton.mp he
    exact ⟨rfl, by simp [ServiceEvent.runFailed]⟩
  | lose other hbecomes =>
    exact .of_same (fun hspecial => hspecial.elim) (by simp [hbecomes.events, JournalPoint.due])

/-- No event names the next case. -/
theorem Naming.unnamed (h : Naming l p) : ∀ e ∈ l.events ++ p.due,
    e.caseId ≠ some ⟨k, l.nextSerial⟩ := by
  intro e he hcase
  rcases List.mem_append.mp he with he | he
  · exact absurd (h.known e he _ hcase) (lt_irrefl _)
  · cases hhand : p.atHand with
    | none =>
      cases p with
      | blank => cases he
      | _ => cases hhand
    | some hand =>
      have hat := h.hand hand hhand
      exact absurd (hat.case _ ((hat.about e he).2 _ hcase)) (lt_irrefl _)

/-! ### Both together -/

/-- The labels of steps that leave the run at hand as it is. -/
def Label.calm : Label → Bool
  | .event | .start | .review _ _ => true
  | label => label.looks

theorem Label.calm_unfinished (h : label.calm) : label.finishes = false := by
  cases label with
  | finish | settle | reviewDecline => cases h
  | _ => rfl

/-- A run at hand stays open under such a step. -/
theorem JournalMove.stays_opened {runId : RowId} {due : List ServiceEvent}
    (h : JournalMove settings k label (.opened runId co due) x p' y) (hcalm : label.calm) :
    ∃ due', p' = .opened runId co due' := by
  cases h with
  | same | quiet | gate | note => exact ⟨_, rfl⟩
  | tellOpened | start => exact ⟨_, rfl⟩
  | bind | submit | fail | lose => cases hcalm
  | finish hfinish => simp [Label.calm_unfinished hcalm] at hfinish

/-- What is known of an action stays known under such a step. -/
theorem JournalMove.stays_linked (h : JournalMove settings k label p x p' y) (hcalm : label.calm)
    (hlinked : γ.Linked p) : γ.Linked p' := by
  cases γ with
  | reviewing | executing =>
    obtain ⟨due, rfl⟩ := hlinked
    exact h.stays_opened hcalm
  | submitted =>
    obtain rfl : p = _ := hlinked
    cases h with
    | same | quiet | gate | note => exact rfl
    | outcome => cases hcalm
  | stranded =>
    obtain ⟨hdue, hhand⟩ := hlinked
    cases h with
    | same | quiet | gate | note => exact ⟨hdue, hhand⟩
    | tellOpened | tellClosed => cases hdue
    | queue => cases hhand
    | start => exact ⟨hdue, rfl⟩
    | bind | submit | outcome | fail | lose => cases hcalm
    | finish hfinish => simp [Label.calm_unfinished hcalm] at hfinish
  | parked => exact hlinked
  | _ => trivial

/-- A submission changes the action. -/
theorem ActionOpen.changes {a : Service.TicketAction} {act : ActionRow} {runId : RowId}
    {row : RunRow} {now : Instant} (h : ActionOpen f a act) (hf : l.folders caseId = some f)
    (hdue : act.actionState = .ready ∨ act.actionState = .failedRetryable) :
    changed l false caseId runId { f with actions := [act.submittedAgain now] } row ≠ l := by
  intro hsame
  have hfolder := congrFun (congrArg ConversationStore.folders hsame) caseId
  have hactions := congrArg CaseFolder.actions
    (Option.some.inj (changed_folder.symm.trans (hfolder.trans hf)))
  rw [h.actions, List.cons.injEq] at hactions
  rw [← hactions.1] at hdue
  rcases hdue with hdue | hdue <;> cases hdue

/-- While an action is under way the journal knows its run, its case and its fault. -/
theorem JournalMove.linked (h : JournalMove settings k label p x p' y)
    (hmove : Move settings k label γ x γ' y) (hγ : γ.Inv x.1) (hlinked : γ.Linked p)
    (hshown : RetryShown settings k label x) : γ'.Linked p' := by
  cases hmove with
  | look kind =>
    refine h.stays_linked ?_ hlinked
    cases label <;> first | exact kind | rfl
  | load _ facts => cases facts <;> trivial
  | @hold _ runId proposalId version _ kind =>
    rcases kind with rfl | rfl
    · exact h.stays_linked rfl hlinked
    · obtain ⟨due, rfl⟩ := hlinked
      cases h with
      | same | quiet => exact ⟨_, rfl⟩
      | finish _ hbecomes =>
        obtain ⟨⟨row, hopen⟩, -⟩ := hγ
        have hstate := hbecomes.state
        rw [ConversationStore.runStateOf, hopen.stored, Option.map_some, hopen.runState] at hstate
        cases hstate
  | note => exact h.stays_linked rfl hlinked
  | tell e about carries visible ordinary known tells =>
    cases tells with
    | executing => exact h.stays_linked (γ := .executing ..) rfl hlinked
    | _ => trivial
  | begin starts =>
    cases starts with
    | reviewing | executing =>
      obtain ⟨due, rfl⟩ := hlinked
      exact h.stays_opened rfl
    | _ => trivial
  | review stored found =>
    cases h with
    | same hsame =>
      have hserial := congrArg ConversationStore.nextSerial hsame
      exact absurd hserial (Nat.succ_ne_self _)
    | quiet hquiet => cases hquiet
    | finish hfinish => cases hfinish
    | queue hnames =>
      obtain rfl : _ = _ := hnames
      exact ⟨_, rfl⟩
  | retryAction stored state actions failed =>
    cases h with
    | same hsame =>
      have hserial := congrArg ConversationStore.nextSerial hsame
      exact absurd hserial (Nat.succ_ne_self _)
    | quiet hquiet => cases hquiet
    | finish hfinish => cases hfinish
    | queue hnames =>
      obtain rfl : _ = _ := hnames
      exact ⟨_, rfl⟩
  | @change _ _ _ l s s' caseId runId f f' row row' drawn folder run move =>
    cases move with
    | park => exact absurd rfl (hshown.1 _ _ _)
    | drop last pending owner why =>
      subst owner
      exact absurd why (hshown.2.2 _ _ _ _ folder (by simp [last]) pending)
    | confirm last pending owner =>
      subst owner
      obtain ⟨due, rfl⟩ := hlinked
      exact h.stays_opened rfl
    | submit open_ owner due clear =>
      obtain ⟨told, rfl⟩ := hlinked
      cases h with
      | same hsame => exact absurd hsame (open_.changes folder due)
      | quiet hquiet => cases hquiet
      | finish hfinish => cases hfinish
      | submit => exact congrArg (JournalPoint.acting _ _) clear
    | submitFaulted open_ owner due scripted =>
      obtain ⟨told, rfl⟩ := hlinked
      cases h with
      | same hsame => exact absurd hsame (open_.changes folder due)
      | quiet hquiet => cases hquiet
      | finish hfinish => cases hfinish
      | submit => exact congrArg (JournalPoint.acting _ _) scripted
    | _ => trivial
  | strand clear refused =>
    obtain ⟨due, rfl⟩ := hlinked
    cases h with
    | same _ told => exact ⟨told rfl, rfl⟩
    | quiet hquiet => cases hquiet
    | finish hfinish => cases hfinish
    | submit => exact ⟨rfl, rfl⟩
  | facts kind facts => cases facts <;> trivial
  | _ => trivial

/-- A fault that may be retried offers one. -/
theorem offers_dueAfterOutcome {events : List ServiceEvent} {runId c : RowId}
    {fault : Option ActionFixtureFault} :
    offers (events ++ dueAfterOutcome runId caseId fault) c = offers events c ++
      if c = caseId ∧ ∃ f ∈ fault, f.actionState = .failedRetryable then [.action] else [] := by
  have hsucceeded : ∀ standing, offersAfter ServiceEvent.caseId c standing
      (.runSucceeded runId (some caseId)) = standing := by
    intro standing
    simp [offersAfter, ServiceEvent.runSucceeded, ServiceEvent.retryReason]
  rw [offers_append, dueAfterOutcome, List.foldl_append, List.foldl_cons, List.foldl_nil,
    hsucceeded]
  cases fault with
  | none => simp
  | some f =>
    by_cases huncertain : f.actionState = .uncertain
    · simp [Option.filter, huncertain]
    · by_cases hc : c = caseId
      · by_cases hretryable : f.actionState = .failedRetryable <;>
          simp [Option.filter, huncertain, offersAfter, ServiceEvent.actionFailed, hc,
            ServiceEvent.retryReason, hretryable]
      · have hne : ¬ caseId = c := fun e => hc e.symm
        simp [Option.filter, huncertain, offersAfter, ServiceEvent.actionFailed, hc, hne]

/-- The verdict of the gate offers a retry, or none. -/
theorem Offering.evaluated (h : Offering γ p x.1) (hmove : Move settings k .evaluate γ x γ' y)
    (hinv : StoreInv k x.1) (hγ : γ.Inv x.1) (hdue : p.due = []) (hungated : γ'.Ungated y.1)
    (hlinked : γ'.Linked p) : Offering γ' p y.1 := by
  cases hmove with
  | @evaluate l s runId caseId pass started is row stored =>
    obtain ⟨-, ⟨f, hf, hpass, -⟩, -⟩ := hγ
    let decided := (Service.outputOf s started is).gateResult.outcome.decided
    have hoffers : ∀ c, offers ((l.gated caseId runId row
        (Service.outputOf s started is).gateResult).events ++ p.due) c
        = offers l.events c ++
          if c = caseId ∧ decided = some .retryLater then [.evidence] else [] := by
      intro c
      rw [hdue, List.append_nil]
      refine (offers_append _).trans ?_
      by_cases hc : c = caseId
      · by_cases hdecided : (Service.outputOf s started is).gateResult.outcome.decided
            = some .retryLater <;>
          simp [offersAfter, ServiceEvent.retryReason, hc, hdecided, decided]
      · have hne : ¬ caseId = c := fun e => hc e.symm
        simp [offersAfter, hc, hne]
    refine ⟨?_, hungated, hlinked, fun c f' hf' hopen => ?_⟩
    · intro e he hreason
      rw [hdue, List.append_nil] at he
      rcases List.mem_append.mp he with he | he
      · exact h.cased e (List.mem_append_left _ he) hreason
      · rcases List.mem_pair.mp he with rfl | rfl <;> rfl
    · have hbefore := h.agrees c f' hf' hopen
      rw [hdue, List.append_nil] at hbefore
      refine (hoffers c).trans ?_
      by_cases hc : c = caseId
      · subst hc
        obtain rfl := Option.some.inj (hf.symm.trans hf')
        rw [show offers l.events c = [] from hbefore.trans (retryDue_of_pass hpass)]
        cases hout : (Service.outputOf s started is).gateResult.outcome with
        | decision d => cases d <;> simp [Phase.expects, decided, hout, GateOutcome.decided]
        | revision i => simp [Phase.expects, decided, hout, GateOutcome.decided]
      · have hne : ¬ caseId = c := fun e => hc e.symm
        rw [show offers l.events c = f'.retryDue from hbefore]
        simp [Phase.expects, hc, hne]
  | resumeGate resumed first =>
    rcases h.ungated with hnone | hlater
    · rw [hnone] at resumed
      cases resumed
    · exact absurd first hlater
  | look kind => cases kind
  | hold kind => rcases kind with kind | kind <;> cases kind
  | load kind => rcases kind with kind | kind <;> cases kind
  | facts kind => rcases kind with kind | kind | kind <;> cases kind
  | change folder run move =>
    cases move with
    | drop last pending owner why => cases why

/-- A run that is queued takes up the offers for its case. -/
theorem Offering.queued (h : Offering γ .blank x.1) (hmove : Move settings k label γ x γ' y)
    (hinv : StoreInv k x.1) (hnames : label.Queues x.1 co)
    (hbecomes : RunBecomes ⟨k, x.1.nextSerial⟩ .queued x.1 y.1)
    (hshown : RetryShown settings k label x) (hungated : γ'.Ungated y.1)
    (hlinked : γ'.Linked (.opened ⟨k, x.1.nextSerial⟩ co [.runStarted ⟨k, x.1.nextSerial⟩ co])) :
    Offering γ' (.opened ⟨k, x.1.nextSerial⟩ co [.runStarted ⟨k, x.1.nextSerial⟩ co]) y.1 := by
  obtain ⟨rfl, hqueued⟩ := hmove.queued hinv hnames hbecomes
  have hbefore : ∀ c f, x.1.folders c = some f → f.row.caseState ≠ .closed →
      offers x.1.events c = f.retryDue := by
    intro c f hf hopen
    have hagrees := h.agrees c f hf hopen
    rwa [show (JournalPoint.blank).due = [] from rfl, List.append_nil] at hagrees
  have hoffers : ∀ c, offers (y.1.events ++ [.runStarted ⟨k, x.1.nextSerial⟩ co]) c
      = if co = some c then [] else offers x.1.events c := by
    intro c
    rw [hbecomes.events, offers_append, List.foldl_cons, List.foldl_nil, offersAfter]
    rfl
  refine ⟨?_, hungated, hlinked, ?_⟩
  · intro e he hreason
    rcases List.mem_append.mp he with he | he
    · exact h.cased e (List.mem_append_left _ (hbecomes.events ▸ he)) hreason
    · obtain rfl := List.mem_singleton.mp he
      cases hreason
  · intro c f' hf' hopen
    refine (hoffers c).trans ?_
    cases hqueued with
    | message folders =>
      rw [if_neg (by simp)]
      exact hbefore c f' (folders ▸ hf') hopen
    | @reply _ caseId f stored state folders =>
      by_cases hc : caseId = c
      · subst hc
        obtain rfl := Option.some.inj (stored.symm.trans (folders ▸ hf'))
        rw [if_pos rfl]
        exact (retryDue_of_ne (by simp [state])).symm
      · rw [if_neg fun e => hc (Option.some.inj e)]
        exact hbefore c f' (folders ▸ hf') hopen
    | @review proposalId f q _ label_ stored found folders =>
      by_cases hc : proposalId.caseId = c
      · subst hc
        obtain rfl := Option.some.inj (stored.symm.trans (folders ▸ hf'))
        rw [if_pos rfl]
        exact (retryDue_of_ne (hshown.2.1 proposalId label_ f q stored found)).symm
      · rw [if_neg fun e => hc (Option.some.inj e)]
        exact hbefore c f' (folders ▸ hf') hopen
    | @retry _ caseId f g stored state state' folders =>
      rw [folders] at hf'
      by_cases hc : caseId = c
      · subst hc
        rw [Function.update_self, Option.some.injEq] at hf'
        subst hf'
        rw [if_pos rfl]
        exact (retryDue_of_ne (by simp [state'])).symm
      · rw [if_neg fun e => hc (Option.some.inj e)]
        rw [Function.update_of_ne (Ne.symm hc)] at hf'
        exact hbefore c f' hf' hopen
    | @retryAction _ f g a stored state state' folders =>
      rw [folders] at hf'
      by_cases hc : a.caseId = c
      · subst hc
        rw [Function.update_self, Option.some.injEq] at hf'
        subst hf'
        rw [if_pos rfl]
        exact (retryDue_of_ne (by simp [state'])).symm
      · rw [if_neg fun e => hc (Option.some.inj e)]
        rw [Function.update_of_ne (Ne.symm hc)] at hf'
        exact hbefore c f' hf' hopen

/-- The outcome of an action offers a retry, or none. -/
theorem Offering.acted {runId : RowId} {fault : Option ActionFixtureFault} {actionId : ActionId}
    (h : Offering γ (.acting runId caseId fault) x.1)
    (hmove : Move settings k (.outcome actionId) γ x γ' y) (hinv : StoreInv k x.1)
    (hγ : γ.Inv x.1) (hevents : y.1.events = x.1.events) (hungated : γ'.Ungated y.1)
    (hlinked : γ'.Linked (.closed runId (some caseId) (dueAfterOutcome runId caseId fault))) :
    Offering γ' (.closed runId (some caseId) (dueAfterOutcome runId caseId fault)) y.1 := by
  refine ⟨?_, hungated, hlinked, fun c f' hf' hopen => ?_⟩
  · intro e he hreason
    rcases List.mem_append.mp he with he | he
    · exact h.cased e (List.mem_append_left _ (hevents ▸ he)) hreason
    · rcases mem_dueAfterOutcome he with ⟨f, rfl⟩ | rfl
      · rfl
      · cases hreason
  have hbefore : ∀ f, x.1.folders c = some f → f.row.caseState ≠ .closed →
      offers x.1.events c = γ.expects c f := by
    intro f hf hopen
    have hagrees := h.agrees c f hf hopen
    rwa [show (JournalPoint.acting runId caseId fault).due = [] from rfl, List.append_nil]
      at hagrees
  refine Eq.trans (b := offers (x.1.events ++ dueAfterOutcome runId caseId fault) c)
    (by rw [hevents]; rfl) (offers_dueAfterOutcome.trans ?_)
  cases hmove with
  | look kind => cases kind
  | hold kind => rcases kind with kind | kind <;> cases kind
  | load kind => rcases kind with kind | kind <;> cases kind
  | facts kind => rcases kind with kind | kind | kind <;> cases kind
  | @change _ _ _ l s s' caseId' runId' f g row row' drawn folder run move =>
    cases move with
    | drop last pending owner why => cases why
    | @fault a act fault' t open_ owner submitted =>
      obtain ⟨rfl, rfl, rfl⟩ : runId = runId' ∧ caseId = a.caseId ∧ fault = some fault' := by
        have hlink := h.linked
        simpa [Phase.Linked] using hlink
      subst owner
      by_cases hc : c = a.caseId
      · subst hc
        obtain rfl := Option.some.inj (changed_folder.symm.trans hf')
        rw [hbefore f folder (by simp [open_.state]),
          show Phase.expects a.caseId f (.submitted runId a (some fault') t) = [] from
            retryDue_of_ne (by simp [open_.state])]
        rcases Service.faultedCase_cases fault' with ⟨hstate, hcase⟩ | ⟨hstate, hcase⟩ |
          ⟨hstate, hcase⟩
        · rw [hstate] at hcase
          show _ = CaseFolder.retryDue _
          simp [hstate, hcase, CaseFolder.retryDue, CaseFolder.updated, CaseRow.updated,
            ActionRow.faulted]
        · simp [hcase, CaseFolder.updated, CaseRow.updated, Service.closing] at hopen
        · simp [hcase, CaseFolder.updated, CaseRow.updated, Service.closing] at hopen
      · have hold : l.folders c = some f' := (changed_of_ne hc).symm.trans hf'
        rw [hbefore f' hold hopen, if_neg fun e => hc e.1, List.append_nil]
        rfl
    | @verify a act t fixtures open_ owner submitted =>
      obtain ⟨rfl, rfl, rfl⟩ : runId = runId' ∧ caseId = a.caseId ∧ fault = none := by
        have hlink := h.linked
        simpa [Phase.Linked] using hlink
      subst owner
      by_cases hc : c = a.caseId
      · subst hc
        obtain rfl := Option.some.inj (changed_folder.symm.trans hf')
        exact absurd rfl hopen
      · have hold : l.folders c = some f' := (changed_of_ne hc).symm.trans hf'
        rw [hbefore f' hold hopen, if_neg fun e => hc e.1, List.append_nil]
        rfl

/-- A move of both keeps the offers what they should be. -/
theorem Offering.step (h : Offering γ p x.1) (hjournal : JournalMove settings k label p x p' y)
    (hmove : Move settings k label γ x γ' y) (hinv : StoreInv k x.1) (hγ : γ.Inv x.1)
    (hnaming : Naming x.1 p) (hshown : RetryShown settings k label x) : Offering γ' p' y.1 := by
  have hungated := hmove.ungated h.ungated
  have hlinked := hjournal.linked hmove hγ h.linked hshown
  have hexpects := hmove.expects hinv hγ h.ungated hshown
  cases hjournal.logStep with
  | neutral before events after plain old new neutral =>
    have hoffers : ∀ c, offers (y.1.events ++ p'.due) c = offers (x.1.events ++ p.due) c := by
      intro c
      rw [old, new, offers_neutral neutral]
    refine ⟨?_, hungated, hlinked, ?_⟩
    · intro e he hreason
      rw [new, List.append_assoc, List.mem_append, List.mem_append] at he
      have hold : e ∈ before ++ after ∨ e ∈ events := by
        rw [List.mem_append]
        tauto
      rcases hold with hold | hnew
      · exact h.cased e (old ▸ hold) hreason
      · rw [(neutral e hnew).reason] at hreason
        cases hreason
    · intro c f' hf' hopen
      rw [hoffers]
      have hkeeps := hexpects.resolve_left fun hspecial => hspecial.2 (plain hspecial.1)
      rcases hkeeps c f' hf' hopen with ⟨f, hf, hopen', hsame⟩ | ⟨rfl, hnone⟩
      · rw [h.agrees c f hf hopen', hsame]
      · rw [hnone]
        exact offers_unnamed hnaming.unnamed
  | gate label_ told stays =>
    subst label_ stays
    exact h.evaluated hmove hinv hγ told hungated hlinked
  | queue co blank opened names becomes =>
    subst blank opened
    exact h.queued hmove hinv names becomes hshown hungated hlinked
  | outcome runId caseId fault actionId label_ acting closed becomes =>
    subst label_ acting closed
    exact h.acted hmove hinv hγ becomes.events hungated hlinked

/-! ### Every run -/

/-- The retries of a case that the browser offers are those that the service accepts. -/
structure RetriesAgree (k : String) (x : ServiceState) (caseId : RowId) (f : CaseFolder) : Prop where
  offered : ∀ reason, OffersRetry x.1.events caseId reason ↔ AcceptsRetry k x caseId reason
  accepted : (∃ reason, AcceptsRetry k x caseId reason) ↔
    f.row.caseState = .awaitingRetry ∧
      ∀ a ∈ f.actions, a.actionState ≠ .submitted ∧ a.actionState ≠ .uncertain
  action : AcceptsRetry k x caseId .action ↔
    f.row.caseState = .awaitingRetry ∧ ∃ a ∈ f.actions, a.actionState = .failedRetryable

/-- What is offered while a call is in progress. -/
def Offered (k : String) (γ : Phase × JournalPoint) (l : ConversationStore) : Prop :=
  StoreInv k l ∧ Naming l γ.2 ∧ Offering γ.1 γ.2 l

/-- At rest the offers that stand are what is due. -/
theorem Offered.agree (h : Offered k (.idle, .blank) l) (hactive : l.activeCaseId = some caseId) :
    ∃ f, l.folders caseId = some f ∧ RetriesAgree k (l, s) caseId f := by
  obtain ⟨hinv, hnaming, hoffering⟩ := h
  obtain ⟨f, hf, hopen⟩ := (hinv.active caseId).mp hactive
  have haccepts : ∀ reason, AcceptsRetry k (l, s) caseId reason ↔ reason ∈ f.retryDue :=
    fun _ => acceptsRetry_iff hinv hf
  obtain ⟨-, -, hfolder⟩ := hinv.folders caseId f hf
  refine ⟨f, hf, fun reason => ?_, ?_, ?_⟩
  · have hcased : ∀ e ∈ l.events, e.retryReason.isSome → e.caseId.isSome := fun e he =>
      hoffering.cased e (List.mem_append_left _ he)
    have hagrees := hoffering.agrees caseId f hf hopen
    rw [show (JournalPoint.blank).due = [] from rfl, List.append_nil] at hagrees
    rw [haccepts, offersRetry_iff hnaming.events hcased, hagrees]
    rfl
  · simp only [haccepts]
    by_cases hstate : f.row.caseState = .awaitingRetry
    · rcases hfolder.awaits hstate with hactions | ⟨a, hactions, hfailed⟩
      · simp [CaseFolder.retryDue, hstate, hactions]
      · simp [CaseFolder.retryDue, hstate, hactions, hfailed]
    · simp [retryDue_of_ne hstate, hstate]
  · rw [haccepts]
    by_cases hstate : f.row.caseState = .awaitingRetry
    · rcases hfolder.awaits hstate with hactions | ⟨a, hactions, hfailed⟩
      · simp [CaseFolder.retryDue, hstate, hactions]
      · simp [CaseFolder.retryDue, hstate, hactions, hfailed]
    · simp [retryDue_of_ne hstate, hstate]

/-- Nothing is due when a call has ended. -/
theorem Offering.rests (h : Offering γ p l) (hdue : p.due = [])
    (hexpects : ∀ c f, γ.expects c f = f.retryDue) : Offering .idle .blank l := by
  have hnone : l.events ++ (JournalPoint.blank).due = l.events ++ p.due := by rw [hdue]; rfl
  refine ⟨fun e he => h.cased e (hnone ▸ he), trivial, trivial, fun c f hf hopen => ?_⟩
  rw [hnone, h.agrees c f hf hopen, hexpects]
  rfl

/-- Every move keeps what is offered. -/
theorem offered_preserved :
    Preserved (watch settings) SharedState.Drifts (RetryShown settings)
      fun k γ l _ => Offered k γ l := by
  refine Preserved.of_own ?_ ?_
  · rintro k label ⟨γ, p⟩ ⟨γ', p'⟩ x y hinv ⟨hstore, hnaming, hoffering⟩ hshown ⟨hmove, hjournal⟩
    obtain ⟨⟨-, hγ, -⟩, -⟩ := hinv
    have hstore' : StoreInv k y.1 := hmove.storeInv hstore hγ
    exact ⟨hstore', hjournal.naming hmove hstore hstore' hnaming,
      hoffering.step hjournal hmove hstore hγ hnaming hshown⟩
  · rintro k ⟨γ, p⟩ l s a ⟨hended, hover⟩ hinv ⟨hstore, hnaming, hoffering⟩
    refine ⟨hstore, hnaming.rests, ?_⟩
    cases a with
    | ok r =>
      obtain ⟨runId, caseId, rfl⟩ := hover
      refine hoffering.rests rfl fun c f => ?_
      rcases hended with ⟨rfl, -⟩ | ⟨_, _, rfl, -⟩ <;> rfl
    | error e =>
      rcases hended with ⟨rfl, happlication⟩ | rfl
      · rcases hover happlication with rfl | ⟨runId, caseId, rfl | rfl⟩ <;>
          exact hoffering.rests rfl fun _ _ => rfl
      · exact hoffering.rests hoffering.linked.1 fun _ _ => rfl

/-- At rest the browser offers the retries of the active case that the service accepts, when no
    investigation raised, no question of a case that waits for a retry was answered, and no proposal
    was dropped. -/
theorem retry_shown {g : ServiceConfig} (hreach : ServiceReaches settings (RetryShown settings) g)
    (hrest : g.AtRest k) (hactive : (g.stores k).activeCaseId = some caseId) :
    ∃ f, (g.stores k).folders caseId = some f ∧
      RetriesAgree k (g.stores k, g.shared) caseId f := by
  have hfresh : ∀ k customerId (s : SharedState),
      Offered k (.idle, .blank) (.created customerId) := by
    intro k customerId s
    refine ⟨StoreInv.created customerId, ⟨⟨?_, ?_⟩, ?_, ?_⟩, ⟨?_, trivial, trivial, ?_⟩⟩ <;>
      simp [ConversationStore.created, JournalPoint.atHand, JournalPoint.due]
  exact (hreach.watched_atRest offered_preserved hfresh hrest).agree hactive

end AfterSales

/-! ### A write that may be repeated, and a proposal that expires -/

namespace AfterSales.Session

section Retries

attribute [local instance] PolicyDigest.bySource ProofDigest.byId ResultDigest.byName
  IdText.spelled FactDigest.byMessage CaseFolding.lower EvidenceDigest.byResults
  MessageRedaction.none TraceVolume.one

/-- A message that leads to a proposal. -/
def reportParcel : Visit :=
  ⟨0, .submitMessage "my parcel is late" (providersOf (some reportLate) everyRead)⟩

/-- The proposal is confirmed a while later. -/
def confirmAfter (wait : Nat) : Visit := ⟨wait, .confirmProposal ⟨⟨"CONV-1", 2⟩, 3⟩ 1⟩

/-- The first write fails, and may be repeated. -/
def failFirst : String → List ActionFixtureFault :=
  fun _ => [⟨.failedRetryable, "WRITE_TIMEOUT", by decide⟩]

/-- A step that parks no case, answers no proposal of one that waits for a retry and drops none. -/
def keepsOffers (step : Label × ServiceState) : Bool :=
  match step.1 with
  | .park .. | .reviewDecline .. => false
  | .answer proposalId =>
    (step.2.1.folders proposalId.caseId).all fun f => f.row.caseState ≠ .awaitingRetry
  | .review proposalId version =>
    match step.2.1.folders proposalId.caseId with
    | none => true
    | some f => f.proposals.all fun p =>
        validatePendingProposal p f.row version step.2.2.now ≠ some "PROPOSAL_EXPIRED" &&
          match Service.currentIdentity p.proposalId.caseId step.2 with
          | .ok (identity, _) =>
            evidenceUnchanged p (revalidateGate demoSettings step.2.2 f p) identity
          | .error _ => true
  | _ => true

theorem keepsOffers_shown {label : Label} {x : ServiceState} {k : String}
    (h : keepsOffers (label, x) = true) : RetryShown demoSettings k label x := by
  refine ⟨?_, ?_, ?_⟩
  · rintro caseId runId pass rfl
    cases h
  · rintro proposalId rfl f p hf -
    simpa [keepsOffers, hf] using h
  · intro f p version proposalState hf hp _ hdrops
    cases hdrops with
    | expired hexpired =>
      simp only [keepsOffers, hf, List.all_eq_true] at h
      have := h p hp
      simp [hexpired] at this
    | expiredDecline => cases h
    | invalidated identity _ hidentity hchanged =>
      obtain ⟨y, hidentity⟩ := hidentity
      simp only [keepsOffers, hf, List.all_eq_true] at h
      have := h p hp
      simp [hidentity, hchanged] at this

theorem failFirst_shown :
    let g := session demoSettings "CONV-1" "CUS-1" (demoShared failFirst)
      [reportParcel, confirmAfter 0]
    ∃ f, (g.stores "CONV-1").folders ⟨"CONV-1", 2⟩ = some f ∧
      RetriesAgree "CONV-1" (g.stores "CONV-1", g.shared) ⟨"CONV-1", 2⟩ f := by
  have hsteps : (Visit.steps demoSettings "CONV-1" [reportParcel, confirmAfter 0]
      (.created (some "CUS-1"), demoShared failFirst)).all keepsOffers = true := by
    decide +kernel
  refine retry_shown (session_reaches (demoShared_fresh _) _ fun step hstep =>
    keepsOffers_shown (List.all_eq_true.mp hsteps step hstep)) (session_atRest _ _) ?_
  rw [session_store]
  decide +kernel

/-- An hour later the proposal has expired: the case waits for a retry that no item offers. -/
theorem expired_unoffered :
    let g := session demoSettings "CONV-1" "CUS-1" (demoShared fun _ => [])
      [reportParcel, confirmAfter 3600000000]
    ServiceReaches demoSettings (fun _ _ _ => True) g ∧ g.AtRest "CONV-1" ∧
      (g.stores "CONV-1").activeCaseId = some ⟨"CONV-1", 2⟩ ∧
      (∃ reason, AcceptsRetry "CONV-1" (g.stores "CONV-1", g.shared) ⟨"CONV-1", 2⟩ reason) ∧
      ∀ reason, ¬ OffersRetry (g.stores "CONV-1").events ⟨"CONV-1", 2⟩ reason := by
  refine ⟨session_reaches (demoShared_fresh _) _ fun _ _ => trivial, session_atRest _ _, ?_, ?_, ?_⟩
  · rw [session_store]
    decide +kernel
  · refine ⟨.evidence, AcceptsRetry.of_plan ?_⟩
    rw [session_store]
    decide +kernel
  · have hitems : retryItems ((session demoSettings "CONV-1" "CUS-1" (demoShared fun _ => [])
        [reportParcel, confirmAfter 3600000000]).stores "CONV-1").events
          (some ⟨"CONV-1", 2⟩) = [] := by
      rw [session_store]
      decide +kernel
    rintro reason ⟨item, hitem, -⟩
    rw [hitems] at hitem
    cases hitem

end Retries

end AfterSales.Session
