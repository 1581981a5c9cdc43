import AfterSales.Application.Machine

/-! The moves keep the invariant of the machine.

    First, what the changes of the store keep, one lemma for each of them. Then the folder that a
    move on a case leaves, and the tickets. Last, all moves: of the own conversation, of another one,
    and of the environment. -/

set_option linter.unusedSectionVars false

namespace AfterSales
open Interleave Repository

variable [PolicyDigest] [ProofDigest] [ResultDigest] [IdText] [TraceVolume] [FactDigest]
  [CaseFolding] [EvidenceDigest] [MessageRedaction]

variable {k : String} {l l' : ConversationStore} {s s' : SharedState} {caseId runId : RowId}
  {f f' : CaseFolder} {row : RunRow}

/-! ### What changes of the store keep -/

section Store

omit [ProofDigest] [ResultDigest] [IdText] [TraceVolume] [CaseFolding] [EvidenceDigest]
  [MessageRedaction]

/-- A folder depends on the store by its messages and by the serials that were drawn. -/
theorem FolderInv.of_store (h : FolderInv l caseId f) (hserial : l.nextSerial ≤ l'.nextSerial)
    (hmessages : ∀ id m, l.getMessage id = some m → m.caseId = some caseId →
      l'.getMessage id = some m) : FolderInv l' caseId f :=
  { h with
    history := h.history.of_messages hmessages
    proposalCase := fun p hp =>
      ⟨(h.proposalCase p hp).1, (h.proposalCase p hp).2.trans_le hserial⟩
    calls := fun row hrow => (h.calls row hrow).trans_le hserial }

/-- Storing a folder, whether the case is open or not. -/
theorem StoreInv.setFolder (h : StoreInv k l) (hf : l.folders caseId = some f)
    (hstate : f'.row.caseState = f.row.caseState) (hf' : FolderInv l caseId f') :
    StoreInv k (l.setFolder caseId f') where
  folders c g hg := by
    by_cases e : c = caseId
    · subst e
      rw [ConversationStore.setFolder_self] at hg
      rw [← Option.some.inj hg]
      have hold := h.folders c f hf
      exact ⟨hold.1, hold.2.1, hf'.of_store le_rfl fun _ _ hm _ => hm⟩
    · rw [ConversationStore.setFolder_of_ne e] at hg
      have hold := h.folders c g hg
      exact ⟨hold.1, hold.2.1, hold.2.2.of_store le_rfl fun _ _ hm _ => hm⟩
  active c := by
    rw [ConversationStore.setFolder_activeCaseId, h.active c]
    by_cases e : c = caseId
    · subst e
      simp [hf, hstate]
    · rw [ConversationStore.setFolder_of_ne e]
  runs := h.runs
  events := h.events
  turns := h.turns
  messages := h.messages

/-- Storing the folder of an open case, which may close. -/
theorem StoreInv.putCase (h : StoreInv k l) (hf : l.folders caseId = some f)
    (hopen : f.row.caseState ≠ .closed) (hf' : FolderInv l caseId f') :
    StoreInv k (l.putCase caseId f') where
  folders c g hg := by
    by_cases e : c = caseId
    · subst e
      rw [ConversationStore.putCase_self] at hg
      rw [← Option.some.inj hg]
      have hold := h.folders c f hf
      exact ⟨hold.1, hold.2.1, hf'.of_store le_rfl fun _ _ hm _ => hm⟩
    · rw [ConversationStore.putCase_of_ne e] at hg
      have hold := h.folders c g hg
      exact ⟨hold.1, hold.2.1, hold.2.2.of_store le_rfl fun _ _ hm _ => hm⟩
  active c := by
    have hactive : l.activeCaseId = some caseId := (h.active caseId).mpr ⟨f, hf, hopen⟩
    have hpointer : (l.putCase caseId f').activeCaseId =
        if f'.row.caseState = .closed then none else some caseId := by
      simp [ConversationStore.putCase, hactive]
    rw [hpointer]
    by_cases e : c = caseId
    · subst e
      rw [ConversationStore.putCase_self]
      by_cases hclosed : f'.row.caseState = .closed <;> simp [hclosed]
    · rw [ConversationStore.putCase_of_ne e, ← h.active c, hactive]
      have hne : some caseId ≠ some c := fun hc => e (Option.some.inj hc).symm
      by_cases hclosed : f'.row.caseState = .closed <;> simp [hclosed, hne]
  runs := h.runs
  events := h.events
  turns := h.turns
  messages := h.messages

/-- Storing a run. -/
theorem StoreInv.setRun (h : StoreInv k l) (hserial : runId.serial < l.nextSerial)
    (hgate : ∀ g ∈ row.gateResult, g.Reasoned) : StoreInv k (l.setRun runId row) :=
  { h with
    folders := fun c g hg =>
      have hold := h.folders c g hg
      ⟨hold.1, hold.2.1, hold.2.2.of_store le_rfl fun _ _ hm _ => hm⟩
    runs := by
      intro r row' hrow'
      by_cases e : r = runId
      · subst e
        rw [ConversationStore.setRun_self] at hrow'
        rw [← Option.some.inj hrow']
        exact ⟨hserial, hgate⟩
      · rw [ConversationStore.setRun_of_ne _ _ e] at hrow'
        exact h.runs r row' hrow' }

/-- Drawing a serial number. -/
theorem StoreInv.tick (h : StoreInv k l) : StoreInv k l.tick where
  folders c g hg :=
    have hold := h.folders c g hg
    ⟨hold.1, hold.2.1.trans (Nat.lt_succ_self _),
      hold.2.2.of_store (Nat.le_succ _) fun _ _ hm _ => hm⟩
  active := h.active
  runs r row hrow := ⟨(h.runs r row hrow).1.trans (Nat.lt_succ_self _), (h.runs r row hrow).2⟩
  events e he r hr := (h.events e he r hr).trans (Nat.lt_succ_self _)
  turns := h.turns
  messages m hm := (h.messages m hm).trans (Nat.lt_succ_self _)

/-- A run that was drawn just now is new in every respect. -/
theorem StoreInv.fresh (h : StoreInv k l) {r : RowId} (hr : l.nextSerial ≤ r.serial) :
    l.runs r = none ∧ l.folders r = none ∧ l.turnsOfRun r = 0 ∧
      (∀ c f, l.folders c = some f → f.callsOfRun r = [] ∧ f.readsOfRun r = 0) ∧
      ∀ m, l.getMessage r ≠ some m := by
  refine ⟨?_, ?_, ?_, fun c f hf => ⟨?_, ?_⟩, fun m hm => ?_⟩
  · by_contra hne
    obtain ⟨row, hrow⟩ := Option.ne_none_iff_exists'.mp hne
    exact absurd (h.runs r row hrow).1 (by omega)
  · by_contra hne
    obtain ⟨f, hf⟩ := Option.ne_none_iff_exists'.mp hne
    exact absurd (h.folders r f hf).2.1 (by omega)
  · refine List.countP_eq_zero.mpr fun e he hcount => ?_
    have hrun : e.runId = some r := by simpa using (of_decide_eq_true hcount).2
    exact absurd (h.events e he r hrun) (by omega)
  · rw [CaseFolder.callsOfRun, List.map_eq_nil_iff]
    refine List.filter_eq_nil_iff.mpr fun row hrow hsame => ?_
    have hcall := (h.folders c f hf).2.2.calls row hrow
    rw [of_decide_eq_true hsame] at hcall
    omega
  · refine List.countP_eq_zero.mpr fun row hrow hcount => ?_
    have hsame : row.runId = r := (by simpa using hcount : _ ∧ row.runId = r).2
    have hcall := (h.folders c f hf).2.2.calls row hrow
    rw [hsame] at hcall
    omega
  · have hmem := List.mem_of_find?_eq_some hm
    have hid : m.messageId = r := by simpa using List.find?_some hm
    have hserial := h.messages m hmem
    rw [hid] at hserial
    omega

/-- A run is queued under a fresh id. -/
theorem StoreInv.queued (h : StoreInv k l) (co : Option RowId) : StoreInv k (l.queued k co) :=
  h.tick.setRun (Nat.lt_succ_self _) (by simp)

/-- Appending events that do not exceed the turns of a run. -/
theorem StoreInv.logged (h : StoreInv k l) {events : List ServiceEvent}
    (hknown : ∀ e ∈ events, ∀ r ∈ e.runId, r.serial < l.nextSerial)
    (hturns : ∀ r, (l.logged events).turnsOfRun r ≤ 8) : StoreInv k (l.logged events) :=
  { h with
    folders := fun c g hg =>
      have hold := h.folders c g hg
      ⟨hold.1, hold.2.1, hold.2.2.of_store le_rfl fun _ _ hm _ => hm⟩
    events := by
      intro e he
      rcases List.mem_append.mp he with he | he
      · exact h.events e he
      · exact hknown e he
    turns := hturns }

/-- The turns that events add to a run. -/
theorem turnsOfRun_logged (events : List ServiceEvent) (r : RowId) :
    (l.logged events).turnsOfRun r = l.turnsOfRun r + events.countP fun e =>
      e.eventType = "agent_turn_started" ∧ e.runId = some r :=
  List.countP_append ..

/-- An ordinary event counts as no turn. -/
theorem turnsOfRun_note {e : ServiceEvent} (h : e.eventType ≠ "agent_turn_started") (r : RowId) :
    (l.logged [e]).turnsOfRun r = l.turnsOfRun r := by
  simp [turnsOfRun_logged, h]

/-- Replacing a cache. -/
theorem StoreInv.cached (h : StoreInv k l) (cache : CaseToolCache) :
    StoreInv k (l.cached caseId cache) :=
  { h with
    folders := fun c g hg =>
      have hold := h.folders c g hg
      ⟨hold.1, hold.2.1, hold.2.2.of_store le_rfl fun _ _ hm _ => hm⟩ }

end Store

/-! ### The folder that a move leaves -/

section Folder

omit [ProofDigest] [ResultDigest] [IdText] [TraceVolume] [CaseFolding] [EvidenceDigest]
  [MessageRedaction]

/-- An update that leaves a case open, within its budgets. -/
theorem CaseRow.closing_updated {r : CaseRow} {u : CaseUpdate} (h : r.Closing)
    (hopen : r.caseState ≠ .closed) (hstate : (u.caseState.getD r.caseState) ≠ .closed)
    (houtcome : u.caseOutcome = none) (hreason : u.reasonCode = none) : (r.updated u).Closing := by
  unfold CaseRow.Closing at h ⊢
  rw [if_neg hopen] at h
  rw [if_neg (by simpa [CaseRow.updated] using hstate)]
  simp [CaseRow.updated, houtcome, hreason, h]

/-- An update that closes a case. -/
theorem CaseRow.closing_closed {r : CaseRow} {u : CaseUpdate} {outcome : CaseOutcome}
    {reason : String} (hstate : u.caseState = some .closed)
    (houtcome : u.caseOutcome = some outcome) (hreason : u.reasonCode = some reason)
    (hne : reason ≠ "") : (r.updated u).Closing := by
  unfold CaseRow.Closing
  rw [if_pos (by simp [CaseRow.updated, hstate])]
  simpa [CaseRow.updated, houtcome, hreason] using hne

/-- Another row, with the same history, calls, proposals and actions. -/
theorem FolderInv.of_row {r : CaseRow} (h : FolderInv l caseId f) (hclosing : r.Closing)
    (hbudget : r.WithinBudget) (hstage : Stage { f with row := r }) :
    FolderInv l caseId { f with row := r } :=
  { h with
    closing := hclosing
    budget := hbudget
    stage := hstage
    history := h.history.of_rows rfl rfl rfl rfl }

/-- While a pass is made, a case has nothing to confirm and no action. -/
theorem Stage.of_pass (h : Stage f) (hstate : f.row.caseState ∈ passStates) :
    f.row.activeProposalId = none ∧ (∀ p ∈ f.proposals, p.Dropped) ∧ f.actions = [] := by
  cases h with
  | plain _ pointer dropped actions => exact ⟨pointer, dropped, actions⟩
  | offered _ _ state => simp [passStates, state] at hstate
  | acting _ _ a states =>
    have hdisjoint : ∀ st ∈ actionStages, st.1 ∉ passStates := by decide
    exact absurd hstate (hdisjoint _ states)

/-- A case with a pending proposal last is offered that proposal. -/
theorem Stage.of_pending {earlier : List ProposalRow} {p : ProposalRow} (h : Stage f)
    (hlast : f.proposals = earlier ++ [p]) (hpending : p.proposalState = .pendingConfirmation) :
    f.row.caseState = .awaitingCustomerConfirmation ∧
      f.row.activeProposalId = some p.proposalId ∧ (∀ q ∈ earlier, q.Dropped) ∧
      f.actions = [] := by
  cases h with
  | plain _ _ dropped =>
    exact absurd hpending (dropped p (by simp [hlast])).1
  | offered earlier' p' state pointer proposals dropped _ actions =>
    obtain ⟨rfl, hp⟩ := List.append_inj' (hlast.symm.trans proposals) rfl
    obtain rfl := List.head_eq_of_cons_eq hp
    exact ⟨state, pointer, dropped, actions⟩
  | acting earlier' p' a states pointer proposals dropped confirmed =>
    obtain ⟨rfl, hp⟩ := List.append_inj' (hlast.symm.trans proposals) rfl
    obtain rfl := List.head_eq_of_cons_eq hp
    rw [confirmed] at hpending
    cases hpending

/-- A case with an action has one confirmed proposal for it. -/
theorem Stage.of_action {act : ActionRow} (h : Stage f) (hactions : f.actions = [act]) :
    ∃ earlier p, (f.row.caseState, act.actionState) ∈ actionStages ∧
      f.row.activeProposalId = none ∧ f.proposals = earlier ++ [p] ∧
      (∀ q ∈ earlier, q.Dropped) ∧ p.proposalState = .confirmed ∧ act.Executes p := by
  cases h with
  | plain _ _ _ actions => simp [actions] at hactions
  | offered _ _ _ _ _ _ _ actions => simp [actions] at hactions
  | acting earlier p a states pointer proposals dropped confirmed actions executes =>
    obtain rfl := List.head_eq_of_cons_eq (actions.symm.trans hactions)
    exact ⟨earlier, p, states, pointer, proposals, dropped, confirmed, executes⟩

/-- Each of the updates that end a pass stays within the budgets. -/
theorem withinBudget_withUsage {r : CaseRow} {output : InvestigationOutput} {u : CaseUpdate}
    (h : r.WithinBudget) (hcount : u.businessClarificationCount.getD 0 ≤ 2)
    (hturns : output.casePlanningTurns ≤ 16) (hreads : output.actualReadToolExecutions ≤ 6) :
    (r.updated (Service.withUsage output u)).WithinBudget := by
  refine ⟨?_, hreads, hturns⟩
  cases hu : u.businessClarificationCount with
  | none => simpa [CaseRow.updated, Service.withUsage, hu] using h.1
  | some n => simpa [CaseRow.updated, Service.withUsage, hu] using hcount

/-- An update that charges nothing stays within the budgets. -/
theorem withinBudget_updated {r : CaseRow} {u : CaseUpdate} (h : r.WithinBudget)
    (hcount : u.businessClarificationCount.getD 0 ≤ 2)
    (hturns : u.agentPlanningTurnCount = none) (hreads : u.actualReadToolExecutionCount = none) :
    (r.updated u).WithinBudget := by
  refine ⟨?_, ?_, ?_⟩
  · cases hu : u.businessClarificationCount with
    | none => simpa [CaseRow.updated, hu] using h.1
    | some n => simpa [CaseRow.updated, hu] using hcount
  · simpa [CaseRow.updated, hreads] using h.2.1
  · simpa [CaseRow.updated, hturns] using h.2.2

/-- A case with nothing to confirm stays so under an update that offers nothing. -/
theorem Stage.plain_updated {u : CaseUpdate} (hpointer : f.row.activeProposalId = none)
    (hdropped : ∀ p ∈ f.proposals, p.Dropped) (hactions : f.actions = [])
    (hstate : (u.caseState.getD f.row.caseState) ≠ .awaitingCustomerConfirmation ∧
      (u.caseState.getD f.row.caseState) ≠ .executingAction)
    (hoffer : u.activeProposalId = none) : Stage (f.updated u) :=
  .plain hstate (by simp [CaseFolder.updated, CaseRow.updated, hpointer, hoffer]) hdropped hactions

/-- An update of a case during a pass, which offers nothing. -/
theorem FolderInv.pass_updated {u : CaseUpdate} (h : FolderInv l caseId f)
    (hpass : f.row.caseState ∈ passStates) (hclosing : (f.row.updated u).Closing)
    (hbudget : (f.row.updated u).WithinBudget)
    (hstate : (u.caseState.getD f.row.caseState) ≠ .awaitingCustomerConfirmation ∧
      (u.caseState.getD f.row.caseState) ≠ .executingAction)
    (hoffer : u.activeProposalId = none) : FolderInv l caseId (f.updated u) := by
  obtain ⟨hpointer, hdropped, hactions⟩ := h.stage.of_pass hpass
  exact h.of_row hclosing hbudget (.plain_updated hpointer hdropped hactions hstate hoffer)

theorem passStates_open {state : CaseState} (h : state ∈ passStates) : state ≠ .closed := by
  rintro rfl
  revert h
  decide

/-- The version of the next proposal. -/
theorem nextVersion_eq {proposals : List ProposalRow}
    (h : proposals.map (·.version) = List.range' 1 proposals.length) :
    Service.nextVersion proposals = proposals.length + 1 := by
  have hmax : ∀ n m, (List.range' 1 n).foldl max m = max m n := by
    intro n
    induction n with
    | zero => simp
    | succ n ih =>
      intro m
      rw [List.range'_concat, List.foldl_append, ih]
      simp only [List.foldl_cons, List.foldl_nil, Nat.one_mul]
      omega
  rw [Service.nextVersion, h, hmax]
  omega

/-- During a pass the case of the phase is investigated, or waits for input. -/
theorem Phase.Passing.state {γ : Phase} {pass : Nat} (h : γ.Passing runId caseId pass)
    (hγ : γ.Inv l) (hf : l.folders caseId = some f) : f.row.caseState ∈ passStates := by
  cases h with
  | replying =>
    obtain ⟨-, ⟨g, hg, hstate⟩, -⟩ := hγ
    rw [hf] at hg
    obtain rfl := Option.some.inj hg
    simp [passStates, hstate]
  | working pass turns =>
    obtain ⟨-, ⟨g, hg, hstate⟩, -⟩ := hγ
    rw [hf] at hg
    obtain rfl := Option.some.inj hg
    exact hstate
  | exploring pass started node is =>
    obtain ⟨-, ⟨g, hg, hstate, -⟩, -⟩ := hγ
    rw [hf] at hg
    obtain rfl := Option.some.inj hg
    exact hstate

theorem Phase.Asking.state {γ : Phase} (h : γ.Asking runId caseId) (hγ : γ.Inv l)
    (hf : l.folders caseId = some f) : f.row.caseState ∈ passStates := by
  cases h with
  | replying => exact Phase.Passing.state .replying hγ hf
  | working => exact Phase.Passing.state (.working 0 0) hγ hf

/-- What is known of a case whose pass was answered. -/
theorem Phase.answered_state {pass : Nat} {output : InvestigationOutput} {refreshed : Bool}
    (hγ : Phase.Inv l (.answered runId caseId pass output refreshed))
    (hf : l.folders caseId = some f) : f.row.caseState ∈ passStates ∧
      output.casePlanningTurns ≤ 16 ∧ output.actualReadToolExecutions ≤ 6 := by
  obtain ⟨-, ⟨g, hg, hstate, -⟩, -, -, hturns, hreads, -⟩ := hγ
  rw [hf] at hg
  obtain rfl := Option.some.inj hg
  exact ⟨hstate, hturns, hreads⟩

/-- A new proposal is appended, and offered. -/
theorem FolderInv.propose {p : ProposalRow} {r : CaseRow} (h : FolderInv l caseId f)
    (hpass : f.row.caseState ∈ passStates) (hclosing : r.Closing) (hbudget : r.WithinBudget)
    (hid : p.proposalId = ⟨caseId, l.nextSerial⟩)
    (hversion : p.version = Service.nextVersion f.proposals)
    (hpending : p.proposalState = .pendingConfirmation)
    (hstate : r.caseState = .awaitingCustomerConfirmation)
    (hpointer : r.activeProposalId = some p.proposalId) :
    FolderInv l.tick caseId { f with row := r, proposals := f.proposals ++ [p] } := by
  obtain ⟨-, hdropped, hactions⟩ := h.stage.of_pass hpass
  have hstore : FolderInv l.tick caseId f := h.of_store (Nat.le_succ _) fun _ _ hm _ => hm
  exact
    { closing := hclosing
      budget := hbudget
      stage := .offered f.proposals p hstate hpointer rfl hdropped hpending hactions
      history := hstore.history.of_rows rfl rfl rfl rfl
      versions := by
        rw [List.map_append, h.versions, List.length_append, List.length_singleton,
          List.range'_concat, List.map_singleton, hversion, nextVersion_eq h.versions,
          Nat.one_mul, Nat.add_comm]
      proposalIds := by
        rw [List.map_append, List.map_singleton]
        refine List.nodup_append.mpr ⟨h.proposalIds, List.nodup_singleton _, ?_⟩
        intro id hid' other hother
        obtain ⟨q, hq, rfl⟩ := List.mem_map.mp hid'
        rw [List.mem_singleton.mp hother, hid]
        intro heq
        have hserial := (h.proposalCase q hq).2
        rw [heq] at hserial
        exact absurd hserial (lt_irrefl _)
      proposalCase := by
        intro q hq
        rcases List.mem_append.mp hq with hq | hq
        · exact hstore.proposalCase q hq
        · rw [List.mem_singleton.mp hq, hid]
          exact ⟨rfl, Nat.lt_succ_self _⟩
      reads := h.reads
      calls := hstore.calls
      planned := h.planned }

/-- The last proposal changes its state, and with it the case. -/
theorem FolderInv.resolve {earlier : List ProposalRow} {p : ProposalRow}
    {proposalState : ProposalState} {u : CaseUpdate} {actions : List ActionRow}
    (h : FolderInv l caseId f) (hlast : f.proposals = earlier ++ [p])
    (hclosing : ((f.resolved earlier p proposalState).row.updated u).Closing)
    (hbudget : ((f.resolved earlier p proposalState).row.updated u).WithinBudget)
    (hstage : Stage { (f.resolved earlier p proposalState).updated u with actions := actions }) :
    FolderInv l caseId
      { (f.resolved earlier p proposalState).updated u with actions := actions } where
  closing := hclosing
  budget := hbudget
  stage := hstage
  history := h.history.of_rows rfl rfl rfl rfl
  versions := by
    have hversions := h.versions
    rw [hlast] at hversions
    simpa [CaseFolder.resolved, CaseFolder.updated, ProposalRow.moved] using hversions
  proposalIds := by
    have hids := h.proposalIds
    rw [hlast] at hids
    simpa [CaseFolder.resolved, CaseFolder.updated, ProposalRow.moved] using hids
  proposalCase := by
    intro q hq
    have hmem : ∃ q' ∈ f.proposals, q'.proposalId = q.proposalId := by
      rcases List.mem_append.mp hq with hq | hq
      · exact ⟨q, by simp [hlast, hq], rfl⟩
      · exact ⟨p, by simp [hlast], by rw [List.mem_singleton.mp hq]; rfl⟩
    obtain ⟨q', hq', hid⟩ := hmem
    rw [← hid]
    exact h.proposalCase q' hq'
  reads := h.reads
  calls := h.calls
  planned := h.planned

/-- The action of a case changes, and with it the case. -/
theorem FolderInv.act {act act' : ActionRow} {r : CaseRow} (h : FolderInv l caseId f)
    (hactions : f.actions = [act]) (hclosing : r.Closing) (hbudget : r.WithinBudget)
    (hid : act'.actionId = act.actionId) (hkey : act'.idempotencyKey = act.idempotencyKey)
    (hproposal : act'.proposalId = act.proposalId)
    (hstates : (r.caseState, act'.actionState) ∈ actionStages)
    (hpointer : r.activeProposalId = f.row.activeProposalId) :
    FolderInv l caseId { f with row := r, actions := [act'] } := by
  obtain ⟨earlier, p, -, hnone, hproposals, hdropped, hconfirmed, hexecutes⟩ :=
    h.stage.of_action hactions
  exact
    { h with
      closing := hclosing
      budget := hbudget
      stage := .acting earlier p act' hstates (hpointer.trans hnone) hproposals hdropped hconfirmed
        rfl ⟨hid.trans hexecutes.actionId, hkey.trans hexecutes.idempotencyKey,
          hproposal.trans hexecutes.proposalId⟩
      history := h.history.of_rows rfl rfl rfl rfl }

end Folder

/-- What a scripted fault makes of a case. -/
theorem Service.faultedCase_cases (fault : ActionFixtureFault) :
    (fault.actionState = .failedRetryable ∧
        faultedCase fault.actionState = { caseState := some .awaitingRetry }) ∨
      (fault.actionState = .failedTerminal ∧
        faultedCase fault.actionState = closing .failed "ACTION_FAILED_TERMINAL") ∨
      (fault.actionState = .uncertain ∧
        faultedCase fault.actionState = closing .uncertain "ACTION_WRITE_RESULT_UNCERTAIN") := by
  have hfailure := fault.failure
  simp only [List.mem_cons, List.not_mem_nil, or_false] at hfailure
  rcases hfailure with h | h | h <;> simp [h, faultedCase]

/-- The folder that a move on a case leaves is in order. -/
theorem CaseMove.folderInv {settings : Settings} {label : Label} {γ γ' : Phase} {drawn : Bool}
    {row' : RunRow} (h : CaseMove settings caseId runId l s f row label γ drawn γ' s' f' row')
    (hinv : FolderInv l caseId f) (hf : l.folders caseId = some f) (hγ : γ.Inv l) :
    FolderInv (if drawn then l.tick else l) caseId f' := by
  cases h with
  | park passing =>
    have hpass := passing.state hγ hf
    refine hinv.pass_updated hpass ?_ ?_ ?_ rfl
    · exact CaseRow.closing_updated hinv.closing (passStates_open hpass) (by simp [Service.parkUpdate])
        rfl rfl
    · exact ⟨hinv.budget.1, Nat.min_le_left .., Nat.min_le_left ..⟩
    · simp [Service.parkUpdate]
  | close caseOutcome reasonCode reason =>
    obtain ⟨hpass, hturns, hreads⟩ := Phase.answered_state hγ hf
    exact hinv.pass_updated hpass (CaseRow.closing_closed rfl rfl rfl reason)
      (withinBudget_withUsage hinv.budget (by simp [Service.closing]) hturns hreads)
      (by simp [Service.withUsage, Service.closing]) rfl
  | wait =>
    obtain ⟨hpass, hturns, hreads⟩ := Phase.answered_state hγ hf
    exact hinv.pass_updated hpass
      (CaseRow.closing_updated hinv.closing (passStates_open hpass) (by simp [Service.withUsage])
        rfl rfl)
      (withinBudget_withUsage hinv.budget (by simp) hturns hreads)
      (by simp [Service.withUsage]) rfl
  | ask asked bound =>
    obtain ⟨hpass, hturns, hreads⟩ := Phase.answered_state hγ hf
    exact hinv.pass_updated hpass
      (CaseRow.closing_updated hinv.closing (passStates_open hpass) (by simp [Service.withUsage])
        rfl rfl)
      (withinBudget_withUsage hinv.budget (by simpa using bound) hturns hreads)
      (by simp [Service.withUsage]) rfl
  | propose binding snapshot decision bound stored =>
    obtain ⟨hpass, hturns, hreads⟩ := Phase.answered_state hγ hf
    exact hinv.propose hpass
      (CaseRow.closing_updated hinv.closing (passStates_open hpass) (by simp [Service.withUsage])
        rfl rfl)
      (withinBudget_withUsage hinv.budget (by simp) hturns hreads) rfl rfl rfl rfl rfl
  | @revise output issueType =>
    obtain ⟨hpass, hturns, hreads⟩ := Phase.answered_state hγ hf
    obtain ⟨hpointer, hdropped, hactions⟩ := hinv.stage.of_pass hpass
    have hclosing := CaseRow.closing_updated (u := Service.withUsage output {})
      hinv.closing
      (passStates_open hpass) (passStates_open hpass) rfl rfl
    have hplain : f.row.caseState ≠ .awaitingCustomerConfirmation ∧
        f.row.caseState ≠ .executingAction := by
      constructor <;> rintro e <;> simp [passStates, e] at hpass
    have hbudget := withinBudget_withUsage (u := {}) hinv.budget (by simp) hturns hreads
    exact hinv.of_row hclosing hbudget (.plain hplain hpointer hdropped hactions)
  | askPackage asking bound =>
    have hpass := asking.state hγ hf
    exact hinv.pass_updated hpass
      (CaseRow.closing_updated hinv.closing (passStates_open hpass) (by simp) rfl rfl)
      (withinBudget_updated hinv.budget (by simpa using Nat.succ_le_of_lt bound) rfl rfl)
      (by simp) rfl
  | closeAtLimit asking =>
    exact hinv.pass_updated (asking.state hγ hf) (CaseRow.closing_closed rfl rfl rfl (by decide))
      (withinBudget_updated hinv.budget (by simp [Service.closing]) rfl rfl)
      (by simp [Service.closing]) rfl
  | resume shipmentId =>
    have hpass := Phase.Passing.state .replying hγ hf
    exact hinv.pass_updated hpass
      (CaseRow.closing_updated hinv.closing (passStates_open hpass) (by simp) rfl rfl)
      (withinBudget_updated hinv.budget (by simp) rfl rfl) (by simp) rfl
  | drop last pending owner why =>
    obtain ⟨hstate, -, hdropped, hactions⟩ := hinv.stage.of_pending last pending
    have hclosing : f.row.Closing := hinv.closing
    refine hinv.resolve last (CaseRow.closing_updated (r := (f.resolved _ _ _).row) ?_ ?_ (by simp)
      rfl rfl) (withinBudget_updated hinv.budget (by simp) rfl rfl) (.plain (by
        simp [CaseFolder.updated, CaseRow.updated]) rfl ?_ hactions)
    · simpa [CaseRow.Closing, CaseFolder.resolved] using hclosing
    · simp [CaseFolder.resolved, hstate]
    · intro q hq
      rcases List.mem_append.mp hq with hq | hq
      · exact hdropped q hq
      · rw [List.mem_singleton.mp hq]
        cases why <;> constructor <;> simp [ProposalRow.moved]
  | confirm last pending owner valid =>
    obtain ⟨hstate, -, hdropped, hactions⟩ := hinv.stage.of_pending last pending
    have hclosing : f.row.Closing := hinv.closing
    refine hinv.resolve last (CaseRow.closing_updated (r := (f.resolved _ _ _).row) ?_ ?_ (by simp)
      rfl rfl) (withinBudget_updated hinv.budget (by simp) rfl rfl)
      (.acting _ _ _ ?_ rfl rfl hdropped rfl rfl ⟨rfl, rfl, rfl⟩)
    · simpa [CaseRow.Closing, CaseFolder.resolved] using hclosing
    · simp [CaseFolder.resolved, hstate]
    · simp [CaseFolder.updated, CaseRow.updated, buildReadyAction, actionStages]
  | decline last pending owner valid =>
    obtain ⟨-, -, hdropped, hactions⟩ := hinv.stage.of_pending last pending
    refine hinv.resolve last (CaseRow.closing_closed rfl rfl rfl (by decide))
      (withinBudget_updated hinv.budget (by simp [Service.closing]) rfl rfl)
      (.plain (by simp [CaseFolder.updated, CaseRow.updated, Service.closing]) rfl ?_ hactions)
    intro q hq
    rcases List.mem_append.mp hq with hq | hq
    · exact hdropped q hq
    · rw [List.mem_singleton.mp hq]
      constructor <;> simp [ProposalRow.moved]
  | submit open_ owner due clear accepted =>
    exact hinv.act open_.actions hinv.closing hinv.budget rfl rfl rfl
      (by simp [open_.state, ActionRow.submittedAgain, actionStages]) rfl
  | submitFaulted open_ owner due scripted =>
    exact hinv.act open_.actions hinv.closing hinv.budget rfl rfl rfl
      (by simp [open_.state, ActionRow.submittedAgain, actionStages]) rfl
  | @fault a act fault t open_ owner submitted =>
    have hopen : f.row.caseState ≠ .closed := by simp [open_.state]
    rcases Service.faultedCase_cases fault with ⟨hfault, hu⟩ | ⟨hfault, hu⟩ | ⟨hfault, hu⟩ <;>
      rw [hu]
    · exact hinv.act open_.actions
        (CaseRow.closing_updated hinv.closing hopen (by simp) rfl rfl)
        (withinBudget_updated hinv.budget (by simp) rfl rfl) rfl rfl rfl
        (by simp [CaseFolder.updated, CaseRow.updated, ActionRow.faulted, hfault, actionStages]) rfl
    · exact hinv.act open_.actions (CaseRow.closing_closed rfl rfl rfl (by decide))
        (withinBudget_updated hinv.budget (by simp [Service.closing]) rfl rfl) rfl rfl rfl
        (by simp [CaseFolder.updated, CaseRow.updated, Service.closing, ActionRow.faulted, hfault,
          actionStages]) rfl
    · exact hinv.act open_.actions (CaseRow.closing_closed rfl rfl rfl (by decide))
        (withinBudget_updated hinv.budget (by simp [Service.closing]) rfl rfl) rfl rfl rfl
        (by simp [CaseFolder.updated, CaseRow.updated, Service.closing, ActionRow.faulted, hfault,
          actionStages]) rfl
  | verify open_ owner submitted added =>
    exact hinv.act open_.actions (CaseRow.closing_closed rfl rfl rfl (by decide))
      (withinBudget_updated hinv.budget (by simp [Service.closing]) rfl rfl) rfl rfl rfl
      (by simp [CaseFolder.updated, CaseRow.updated, Service.closing, ActionRow.verified,
        actionStages]) rfl

section CaseMoves

variable {settings : Settings} {label : Label} {γ γ' : Phase} {drawn : Bool} {row' : RunRow}

/-- Only an open case changes. -/
theorem CaseMove.isOpen (h : CaseMove settings caseId runId l s f row label γ drawn γ' s' f' row')
    (hinv : FolderInv l caseId f) (hf : l.folders caseId = some f) (hγ : γ.Inv l) :
    f.row.caseState ≠ .closed := by
  cases h with
  | park passing => exact passStates_open (passing.state hγ hf)
  | close => exact passStates_open (Phase.answered_state hγ hf).1
  | wait => exact passStates_open (Phase.answered_state hγ hf).1
  | ask => exact passStates_open (Phase.answered_state hγ hf).1
  | propose => exact passStates_open (Phase.answered_state hγ hf).1
  | revise => exact passStates_open (Phase.answered_state hγ hf).1
  | askPackage asking => exact passStates_open (asking.state hγ hf)
  | closeAtLimit asking => exact passStates_open (asking.state hγ hf)
  | resume => exact passStates_open (Phase.Passing.state .replying hγ hf)
  | drop last pending => simp [(hinv.stage.of_pending last pending).1]
  | confirm last pending => simp [(hinv.stage.of_pending last pending).1]
  | decline last pending => simp [(hinv.stage.of_pending last pending).1]
  | submit open_ => simp [open_.state]
  | submitFaulted open_ => simp [open_.state]
  | fault open_ => simp [open_.state]
  | verify open_ => simp [open_.state]

/-- The rows of a run that the moves on a case leave are as good as the rows before. -/
theorem CaseMove.gate (h : CaseMove settings caseId runId l s f row label γ drawn γ' s' f' row') :
    row'.gateResult = row.gateResult := by
  cases h <;> rfl

/-- A run stays open when its row is stored again. -/
theorem RunOpen.again {co : Option RowId} {q : RunState} {row₀ : RunRow}
    (h : RunOpen l runId co q row₀) (hrow : l.runs runId = some row)
    {l₁ : ConversationStore} : RunOpen (l₁.setRun runId row) runId co q row := by
  have hsame : row₀ = row := by
    rw [h.stored] at hrow
    exact Option.some.inj hrow
  subst hsame
  exact { h with stored := ConversationStore.setRun_self .. }

/-- The page of the log that is observed holds no more turns than the log. -/
theorem observedTurns_le (l : ConversationStore) (r : RowId) : l.observedTurns r ≤ l.turnsOfRun r :=
  List.Sublist.countP_le (List.take_sublist ..)

/-- The reads of a run are reads of its case. -/
theorem readsOfRun_le (f : CaseFolder) (r : RowId) : f.readsOfRun r ≤ f.readsOfCase :=
  List.countP_mono_left fun row _ h => by
    have hboth : row.call.actualExecution = true ∧ row.runId = r := by simpa using h
    exact hboth.1

/-- The store that a move on a case leaves. -/
def changed (l : ConversationStore) (drawn : Bool) (caseId runId : RowId) (f' : CaseFolder)
    (row' : RunRow) : ConversationStore :=
  ((if drawn then l.tick else l).putCase caseId f').setRun runId row'

@[simp] theorem changed_folder : (changed l drawn caseId runId f' row').folders caseId = some f' :=
  Function.update_self ..

theorem changed_of_ne {c : RowId} (h : c ≠ caseId) :
    (changed l drawn caseId runId f' row').folders c = l.folders c := by
  rw [changed, ConversationStore.setRun_folders, ConversationStore.putCase_of_ne h]
  cases drawn <;> rfl

@[simp] theorem changed_events : (changed l drawn caseId runId f' row').events = l.events := by
  cases drawn <;> rfl

@[simp] theorem changed_turnsOfRun (r : RowId) :
    (changed l drawn caseId runId f' row').turnsOfRun r = l.turnsOfRun r := by
  simp [ConversationStore.turnsOfRun]

@[simp] theorem changed_run : (changed l drawn caseId runId f' row').runs runId = some row' :=
  Function.update_self ..

theorem changed_run_of_ne {r : RowId} (h : r ≠ runId) :
    (changed l drawn caseId runId f' row').runs r = l.runs r := by
  rw [changed, ConversationStore.setRun_of_ne _ _ h]
  cases drawn <;> rfl

/-- The phase that a move on a case leads to. -/
theorem CaseMove.phaseInv
    (h : CaseMove settings caseId runId l s f row label γ drawn γ' s' f' row')
    (hinv : FolderInv l caseId f) (hf : l.folders caseId = some f) (hrow : l.runs runId = some row)
    (hturns : ∀ r, l.turnsOfRun r ≤ 8) (hγ : γ.Inv l) :
    γ'.Inv (changed l drawn caseId runId f' row') := by
  cases h with
  | park passing =>
    have hrun : ∃ row₀, RunOpen l runId (some caseId) .running row₀ := by
      cases passing with
      | replying => exact hγ.1
      | working => exact hγ.1
      | exploring => exact hγ.1
    obtain ⟨row₀, hrun⟩ := hrun
    exact ⟨⟨row, hrun.again hrow⟩, ⟨_, changed_folder, rfl⟩,
      (observedTurns_le l runId).trans (hturns runId), (readsOfRun_le f runId).trans hinv.reads⟩
  | close => trivial
  | wait => trivial
  | ask => trivial
  | propose => trivial
  | revise issueType =>
    obtain ⟨⟨row₀, hrun⟩, ⟨g, hg, hstate, -⟩, hle, hbound, -⟩ := hγ
    rw [hf] at hg
    obtain rfl := Option.some.inj hg
    exact ⟨⟨row, hrun.again hrow⟩, ⟨_, changed_folder, hstate⟩, hle, hbound⟩
  | askPackage => trivial
  | closeAtLimit => trivial
  | resume shipmentId =>
    obtain ⟨⟨row₀, hrun⟩, -, hzero⟩ := hγ
    exact ⟨⟨row, hrun.again hrow⟩, ⟨_, changed_folder, List.mem_cons_self⟩, hzero.le, Nat.zero_le _⟩
  | @drop earlier p label version proposalState last pending owner why =>
    obtain ⟨⟨row₀, hrun⟩, -⟩ := hγ
    subst owner
    refine ⟨⟨row, hrun.again hrow⟩, _, changed_folder, p.moved proposalState, ?_⟩
    exact Keyed.find_last ProposalRow.proposalId (last ▸ hinv.proposalIds) rfl
  | confirm last pending owner valid =>
    obtain ⟨⟨row₀, hrun⟩, -⟩ := hγ
    subst owner
    exact ⟨⟨row, hrun.again hrow⟩, _, _, changed_folder,
      ⟨rfl, rfl, rfl, rfl, rfl, rfl, rfl, rfl, rfl⟩, Or.inl rfl⟩
  | decline => trivial
  | submit open_ owner due clear accepted =>
    obtain ⟨⟨row₀, hrun⟩, -⟩ := hγ
    subst owner
    exact ⟨⟨row, hrun.again hrow⟩, _, _, changed_folder, { open_ with actions := rfl }, rfl⟩
  | submitFaulted open_ owner due scripted =>
    obtain ⟨⟨row₀, hrun⟩, -⟩ := hγ
    subst owner
    exact ⟨⟨row, hrun.again hrow⟩, _, _, changed_folder, { open_ with actions := rfl }, rfl⟩
  | fault => trivial
  | verify => trivial

/-! ### Tickets -/

/-- What a step of one conversation may do to the tickets that all of them share. -/
structure SharedMove (j : String) (s s' : SharedState) : Prop where
  kept : ∀ t ∈ s.tickets, t ∈ s'.tickets
  written : ∀ t ∈ s'.tickets, t ∈ s.tickets ∨ t.caseId.conversationId = j
  added : ∀ d ∈ s'.fixtures.dynamicTickets, d ∈ s.fixtures.dynamicTickets ∨
    ∃ t ∈ s'.tickets, t.caseId.conversationId = j ∧ d.ticketId = IdText.ticket t.ticketId
  base : s'.fixtures.baseTickets = s.fixtures.baseTickets

theorem SharedMove.rfl' {j : String} : SharedMove j s s :=
  ⟨fun _ h => h, fun _ h => Or.inl h, fun _ h => Or.inl h, rfl⟩

/-- A ticket with the id of another one is a ticket of the same case. -/
theorem TicketInv.case_of_id (h : TicketInv k l s) {t t' : TicketRow} (ht : t ∈ s.tickets)
    (ht' : t' ∈ s.tickets) (hid : IdText.ticket t.ticketId = IdText.ticket t'.ticketId) :
    t.caseId = t'.caseId := by
  have hids := h.ids t ht
  have hids' := h.ids t' ht'
  have hsame := IdText.ticket_injective hid
  rw [hids.1, hids'.1] at hsame
  have hkey : t.idempotencyKey = t'.idempotencyKey := congrArg TicketId.key hsame
  rw [← hids.2.2, ← hids'.2.2, ← hids.2.1, ← hids'.2.1, hkey]

/-- What another conversation does to the tickets leaves those of this one alone. -/
theorem TicketInv.of_other {j : String} {lj : ConversationStore} (h : TicketInv k l s)
    (hj : TicketInv j lj s') (hmove : SharedMove j s s') (hne : j ≠ k) : TicketInv k l s' :=
  { hj with
    own := by
      intro t ht hk
      have hold : t ∈ s.tickets := by
        rcases hmove.written t ht with hold | hnew
        · exact hold
        · exact absurd (hnew.symm.trans hk) hne
      obtain ⟨f, act, hf, hof⟩ := h.own t hold hk
      refine ⟨f, act, hf, { hof with written := ?_ }⟩
      rcases hof.written with hs | ⟨hs, hfree⟩
      · exact Or.inl hs
      · refine Or.inr ⟨hs, fun d hd hid => ?_⟩
        rcases hmove.added d hd with hd | ⟨t', ht', hcase, hid'⟩
        · exact hfree d hd hid
        · have hsame := hj.case_of_id ht ht' (hid.symm.trans hid')
          rw [hsame, hcase] at hk
          exact hne hk }

/-- What is written for a case stays so while its folder keeps the action. -/
theorem TicketInv.change (h : TicketInv k l s) (hf : l.folders caseId = some f)
    (hkeep : ∀ t ∈ s.tickets, ∀ act, TicketOf s f act t → ∃ act', TicketOf s f' act' t) :
    TicketInv k (changed l drawn caseId runId f' row') s :=
  { h with
    own := by
      intro t ht hk
      obtain ⟨g, act, hg, hof⟩ := h.own t ht hk
      by_cases e : t.caseId = caseId
      · rw [e] at hg ⊢
        rw [hf] at hg
        obtain rfl := Option.some.inj hg
        obtain ⟨act', hof'⟩ := hkeep t ht act hof
        exact ⟨f', act', changed_folder, hof'⟩
      · exact ⟨g, act, (changed_of_ne e).trans hg, hof⟩ }

/-- A case without an action has no ticket. -/
theorem TicketOf.actions_ne {act : ActionRow} {t : TicketRow} (h : TicketOf s f act t)
    (hnone : f.actions = []) : False := by
  simpa [hnone] using h.actions

/-- An action that is still to be submitted has no ticket. -/
theorem ActionOpen.unwritten {a : Service.TicketAction} {act act' : ActionRow} {t : TicketRow}
    (h : ActionOpen f a act) (hdue : act.actionState = .ready ∨ act.actionState = .failedRetryable)
    (hof : TicketOf s f act' t) : False := by
  obtain rfl := List.head_eq_of_cons_eq (h.actions.symm.trans hof.actions)
  rcases hof.written with hw | ⟨hw, -⟩ <;> rcases hdue with hd | hd <;> simp [hw] at hd

/-- The ids of an action belong to its case. -/
theorem ActionOpen.ids {a : Service.TicketAction} {act : ActionRow} (h : ActionOpen f a act)
    (hinv : FolderInv l caseId f) :
    a.idempotencyKey.identity = a.actionId.identity ∧
      a.actionId.identity.proposalId.caseId = a.caseId := by
  obtain ⟨_, p, -, -, -, -, -, hexecutes⟩ := hinv.stage.of_action h.actions
  rw [h.idempotencyKey, h.actionId, hexecutes.idempotencyKey, hexecutes.actionId, ← h.caseId,
    hexecutes.proposalId]
  exact ⟨rfl, rfl⟩

theorem FixtureStore.consumeActionFault_tickets (store : FixtureStore) (seed : String) :
    (store.consumeActionFault seed).1.dynamicTickets = store.dynamicTickets ∧
      (store.consumeActionFault seed).1.baseTickets = store.baseTickets := by
  unfold FixtureStore.consumeActionFault
  simp only
  split <;> exact ⟨rfl, rfl⟩

theorem FixtureStore.addTicket_tickets {store store' : FixtureStore} {ticket : LogisticsTicket}
    (h : store.addTicket ticket = some store') : store'.baseTickets = store.baseTickets ∧
      ∀ d ∈ store'.dynamicTickets, d ∈ store.dynamicTickets ∨ d = ticket := by
  unfold FixtureStore.addTicket at h
  split at h
  · split at h
    · obtain rfl := Option.some.inj h
      exact ⟨rfl, fun d hd => Or.inl hd⟩
    · cases h
  · obtain rfl := Option.some.inj h
    refine ⟨rfl, fun d hd => ?_⟩
    rcases List.mem_append.mp hd with hd | hd
    · exact Or.inl hd
    · exact Or.inr (List.mem_singleton.mp hd)

/-- What a move on a case does to the shared tickets. -/
theorem CaseMove.sharedMove
    (h : CaseMove settings caseId runId l s f row label γ drawn γ' s' f' row')
    (ht : TicketInv k l s) (hw : γ.Written s) (hinv : FolderInv l caseId f)
    (hk : caseId.conversationId = k) : SharedMove k s s' := by
  cases h with
  | @submit a act open_ owner due clear accepted =>
    refine ⟨fun t ht => List.mem_append_left _ ht, fun t ht => ?_, fun d hd => Or.inl hd, rfl⟩
    rcases List.mem_append.mp ht with ht | ht
    · exact Or.inl ht
    · rw [List.mem_singleton.mp ht]
      exact Or.inr ((congrArg RowId.conversationId owner).trans hk)
  | submitFaulted open_ owner due scripted =>
    obtain ⟨hdynamic, hbase⟩ :=
      FixtureStore.consumeActionFault_tickets s.fixtures settings.faultSeed
    exact ⟨fun t ht => ht, fun t ht => Or.inl ht, fun d hd => Or.inl (hdynamic ▸ hd), hbase⟩
  | @verify a act t fixtures open_ owner submitted added =>
    obtain ⟨hbase, hdynamic⟩ := FixtureStore.addTicket_tickets added
    refine ⟨fun t ht => ht, fun t ht => Or.inl ht, fun d hd => ?_, hbase⟩
    rcases hdynamic d hd with hd | rfl
    · exact Or.inl hd
    · obtain ⟨t', ht', hkey⟩ := hw
      obtain ⟨hid, hidentity, hcase⟩ := ht.ids t' ht'
      refine Or.inr ⟨t', ht', ?_, ?_⟩
      · rw [← hcase, ← hidentity, hkey, (open_.ids hinv).1, (open_.ids hinv).2, owner, hk]
      · rw [hid, hkey]
        rfl
  | _ => exact SharedMove.rfl'

/-- The tickets after a move on a case. -/
theorem CaseMove.ticketInv
    (h : CaseMove settings caseId runId l s f row label γ drawn γ' s' f' row')
    (ht : TicketInv k l s) (hw : γ.Written s) (hinv : FolderInv l caseId f)
    (hf : l.folders caseId = some f) (hk : caseId.conversationId = k) (hγ : γ.Inv l) :
    TicketInv k (changed l drawn caseId runId f' row') s' ∧ γ'.Written s' := by
  have hpass : f.row.caseState ∈ passStates →
      ∀ t ∈ s.tickets, ∀ act, TicketOf s f act t → ∃ act', TicketOf s f' act' t :=
    fun hstate t _ act hof => (hof.actions_ne (hinv.stage.of_pass hstate).2.2).elim
  cases h with
  | park passing => exact ⟨ht.change hf (hpass (passing.state hγ hf)), trivial⟩
  | close => exact ⟨ht.change hf (hpass (Phase.answered_state hγ hf).1), trivial⟩
  | wait => exact ⟨ht.change hf (hpass (Phase.answered_state hγ hf).1), trivial⟩
  | ask => exact ⟨ht.change hf (hpass (Phase.answered_state hγ hf).1), trivial⟩
  | propose => exact ⟨ht.change hf (hpass (Phase.answered_state hγ hf).1), trivial⟩
  | revise => exact ⟨ht.change hf (hpass (Phase.answered_state hγ hf).1), trivial⟩
  | askPackage asking => exact ⟨ht.change hf (hpass (asking.state hγ hf)), trivial⟩
  | closeAtLimit asking => exact ⟨ht.change hf (hpass (asking.state hγ hf)), trivial⟩
  | resume => exact ⟨ht.change hf (hpass (Phase.Passing.state .replying hγ hf)), trivial⟩
  | drop last pending =>
    refine ⟨ht.change hf fun t _ act hof => ?_, trivial⟩
    exact (hof.actions_ne (hinv.stage.of_pending last pending).2.2.2).elim
  | confirm last pending =>
    refine ⟨ht.change hf fun t _ act hof => ?_, trivial⟩
    exact (hof.actions_ne (hinv.stage.of_pending last pending).2.2.2).elim
  | decline last pending =>
    refine ⟨ht.change hf fun t _ act hof => ?_, trivial⟩
    exact (hof.actions_ne (hinv.stage.of_pending last pending).2.2.2).elim
  | @submit a act open_ owner due clear accepted =>
    have hkept : TicketInv k (changed l false caseId runId
        { f with actions := [act.submittedAgain s.now] } row) s :=
      ht.change hf fun t _ act' hof => (open_.unwritten due hof).elim
    have hids := open_.ids hinv
    refine ⟨{ base := hkept.base, ids := ?_, dynamic := ?_, own := ?_ }, ?_⟩
    · intro t hmem
      rcases List.mem_append.mp hmem with hmem | hmem
      · exact hkept.ids t hmem
      · rw [List.mem_singleton.mp hmem]
        exact ⟨rfl, hids.1, hids.2⟩
    · intro d hd
      obtain ⟨t, hmem, hid⟩ := hkept.dynamic d hd
      exact ⟨t, List.mem_append_left _ hmem, hid⟩
    · intro t hmem hkt
      rcases List.mem_append.mp hmem with hmem | hmem
      · obtain ⟨g, act', hg, hof⟩ := hkept.own t hmem hkt
        exact ⟨g, act', hg, { hof with written := hof.written }⟩
      · rw [List.mem_singleton.mp hmem]
        refine ⟨_, _, (congrArg _ owner).trans changed_folder, rfl, open_.actionId,
          open_.idempotencyKey, open_.customerId, open_.authorizedOrderId, open_.issueType,
          open_.targetShipmentId, Or.inr ⟨rfl, fun d hd hid => ?_⟩⟩
        obtain ⟨t', hmem', hid'⟩ := hkept.dynamic d hd
        have hsame := IdText.ticket_injective (hid'.symm.trans hid)
        rw [ticketRefused, List.any_eq_false] at accepted
        simpa [hsame] using accepted t' hmem'
    · exact ⟨_, List.mem_append_right _ (List.mem_singleton_self _), rfl⟩
  | @submitFaulted a act fault open_ owner due scripted =>
    obtain ⟨hdynamic, hbase⟩ :=
      FixtureStore.consumeActionFault_tickets s.fixtures settings.faultSeed
    have hkept : TicketInv k (changed l false caseId runId
        { f with actions := [act.submittedAgain s.now] } row) s :=
      ht.change hf fun t _ act' hof => (open_.unwritten due hof).elim
    refine ⟨{ base := ?_, ids := hkept.ids, dynamic := ?_, own := ?_ }, ?_⟩
    · rw [hbase]
      exact hkept.base
    · rw [hdynamic]
      exact hkept.dynamic
    · intro t hmem hkt
      obtain ⟨g, act', hg, hof⟩ := hkept.own t hmem hkt
      refine ⟨g, act', hg, { hof with written := ?_ }⟩
      rw [hdynamic]
      exact hof.written
    · intro t hmem hid
      obtain ⟨-, -, hcase⟩ := ht.ids t hmem
      have hcaseId : t.caseId = caseId := by
        rw [← hcase, hid, (open_.ids hinv).2, owner]
      obtain ⟨g, act', hg, hof⟩ := ht.own t hmem (by rw [hcaseId, hk])
      rw [hcaseId, hf] at hg
      obtain rfl := Option.some.inj hg
      exact open_.unwritten due hof
  | @fault a act fault t open_ owner submitted =>
    refine ⟨ht.change hf fun t hmem act' hof => ?_, trivial⟩
    obtain rfl := List.head_eq_of_cons_eq (open_.actions.symm.trans hof.actions)
    exact absurd (hof.actionId.trans open_.actionId.symm) (hw t hmem)
  | @verify a act t fixtures open_ owner submitted added =>
    obtain ⟨hbase, hdynamic⟩ := FixtureStore.addTicket_tickets added
    obtain ⟨t₀, ht₀, hkey⟩ := hw
    obtain ⟨hid₀, hidentity, hcase⟩ := ht.ids t₀ ht₀
    have hcase₀ : t₀.caseId = caseId := by
      rw [← hcase, ← hidentity, hkey, (open_.ids hinv).1, (open_.ids hinv).2, owner]
    have hsource : (a.sourceTicket t).ticketId = IdText.ticket t₀.ticketId := by
      rw [hid₀, hkey]
      rfl
    refine ⟨{ base := ?_, ids := ht.ids, dynamic := ?_, own := ?_ }, trivial⟩
    · rw [hbase]
      exact ht.base
    · intro d hd
      rcases hdynamic d hd with hd | rfl
      · exact ht.dynamic d hd
      · exact ⟨t₀, ht₀, hsource⟩
    · intro t' hmem hkt
      obtain ⟨g, act', hg, hof⟩ := ht.own t' hmem hkt
      by_cases e : t'.caseId = caseId
      · rw [e] at hg ⊢
        rw [hf] at hg
        obtain rfl := Option.some.inj hg
        obtain rfl := List.head_eq_of_cons_eq (open_.actions.symm.trans hof.actions)
        exact ⟨_, _, changed_folder, { hof with actions := rfl, written := Or.inl rfl }⟩
      · refine ⟨g, act', (changed_of_ne e).trans hg, { hof with written := ?_ }⟩
        rcases hof.written with hs | ⟨hs, hfree⟩
        · exact Or.inl hs
        · refine Or.inr ⟨hs, fun d hd hid => ?_⟩
          rcases hdynamic d hd with hd | rfl
          · exact hfree d hd hid
          · exact e ((ht.case_of_id hmem ht₀ (hid.symm.trans hsource)).trans hcase₀)

end CaseMoves

end AfterSales
