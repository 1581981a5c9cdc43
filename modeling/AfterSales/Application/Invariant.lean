import AfterSales.Application.Charges
import AfterSales.Application.Preservation

/-! Every move keeps the invariant of its conversation, and of the others.

    The rows, the phase and the tickets are kept one after the other, each by the cases of a move;
    the moves on a case were settled before. What another conversation does to the shared state is
    seen by its tickets only, and the environment changes neither those nor the rows. -/

set_option linter.unusedSectionVars false

namespace AfterSales
open Interleave Repository

variable [PolicyDigest] [ProofDigest] [ResultDigest] [IdText] [TraceVolume] [FactDigest]
  [CaseFolding] [EvidenceDigest] [MessageRedaction]

variable {settings : Settings} {k : String} {l l' : ConversationStore} {s s' : SharedState}
  {caseId runId : RowId} {f f' : CaseFolder} {row : RunRow} {label : Label} {γ γ' : Phase}

/-! ### Messages and cases -/

/-- A message is stored, and its run is queued, under fresh ids. -/
theorem StoreInv.received (h : StoreInv k l) (co : Option RowId) (content : String)
    (now : Instant) : StoreInv k (l.received k co content now) := by
  have hqueued : StoreInv k
      (l.tick.tick.setRun ⟨k, l.nextSerial⟩ ⟨co, .queued, 0, 0, none, none⟩) :=
    h.tick.tick.setRun (by simp only [ConversationStore.tick]; omega) (by simp)
  exact
    { hqueued with
      folders := fun c g hg =>
        have hold := hqueued.folders c g hg
        ⟨hold.1, hold.2.1, hold.2.2.of_store le_rfl fun _ _ hm _ => getMessage_append rfl hm⟩
      messages := by
        intro m hm
        rcases List.mem_append.mp hm with hm | hm
        · exact hqueued.messages m hm
        · rw [List.mem_singleton.mp hm]
          show l.nextSerial + 1 < l.nextSerial + 1 + 1
          omega }

/-- The message that was stored just now is the one found under its id. -/
theorem StoreInv.received_message (h : StoreInv k l) {co : Option RowId} {content : String}
    {now : Instant} {m : MessageRow}
    (hm : (l.received k co content now).getMessage ⟨k, l.nextSerial + 1⟩ = some m) :
    m.caseId = co := by
  have hnew : l.getMessage ⟨k, l.nextSerial + 1⟩ = none := by
    rw [Option.eq_none_iff_forall_ne_some]
    exact (h.fresh (Nat.le_succ _)).2.2.2.2
  rw [ConversationStore.getMessage] at hnew hm
  have hmessages : (l.received k co content now).messages
      = l.messages ++ [⟨⟨k, l.nextSerial + 1⟩, co, content, now⟩] := rfl
  rw [hmessages, List.find?_append, hnew] at hm
  simp only [List.find?_cons, decide_true, Option.none_or] at hm
  rw [← Option.some.inj hm]

/-- A folder without history, proposals and actions. -/
theorem FolderInv.created {r : CaseRow} (hclosing : r.Closing) (hbudget : r.WithinBudget)
    (hstate : r.caseState ≠ .awaitingCustomerConfirmation ∧ r.caseState ≠ .executingAction)
    (hpointer : r.activeProposalId = none) :
    FolderInv l caseId ⟨r, [], [], [], [], none, [], []⟩ where
  closing := hclosing
  budget := hbudget
  stage := .plain hstate hpointer (by simp) rfl
  history := .created r
  versions := rfl
  proposalIds := List.nodup_nil
  proposalCase := by simp
  reads := Nat.zero_le _
  calls := by simp
  planned := by simp

/-- Binding a message to a case leaves those that have one alone. -/
theorem getMessage_bound {messageId id : RowId} {m : MessageRow} {c : RowId}
    (hmessages : l'.messages = l.messages.map fun m =>
      if m.messageId = messageId then { m with caseId := some caseId } else m)
    (hfree : ∀ m, l.getMessage messageId = some m → m.caseId = none)
    (h : l.getMessage id = some m) (hc : m.caseId = some c) : l'.getMessage id = some m := by
  have hkeys : (fun m : MessageRow => decide (m.messageId = id)) ∘
      (fun m => if m.messageId = messageId then { m with caseId := some caseId } else m)
        = fun m => decide (m.messageId = id) := by
    funext m'
    by_cases e : m'.messageId = messageId <;> simp [e]
  have hid : m.messageId = id := by simpa using List.find?_some h
  have hne : m.messageId ≠ messageId := by
    intro e
    have hnone := hfree m (by rw [← e, hid]; exact h)
    rw [hc] at hnone
    cases hnone
  rw [ConversationStore.getMessage] at h ⊢
  rw [hmessages, List.find?_map, hkeys, h]
  simp [hne]

/-- A case is opened under a fresh id. -/
theorem StoreInv.opened {messageId : RowId} {r : CaseRow} {run : RunRow} (h : StoreInv k l)
    (hactive : l.activeCaseId = none) (hrun : l.runs runId = some run)
    (hfree : ∀ m, l.getMessage messageId = some m → m.caseId = none)
    (hopen : r.caseState ≠ .closed)
    (hnew : ∀ l', FolderInv l' ⟨k, l.nextSerial⟩ ⟨r, [], [], [], [], none, [], []⟩) :
    StoreInv k (l.opened ⟨k, l.nextSerial⟩ runId messageId r run) where
  folders c g hg := by
    by_cases e : c = ⟨k, l.nextSerial⟩
    · subst e
      have hg' : some _ = some g := (ConversationStore.setFolder_self ..).symm.trans hg
      rw [← Option.some.inj hg']
      exact ⟨rfl, Nat.lt_succ_self _, hnew _⟩
    · have hg' : l.folders c = some g := (ConversationStore.setFolder_of_ne e).symm.trans hg
      have hold := h.folders c g hg'
      exact ⟨hold.1, hold.2.1.trans (Nat.lt_succ_self _),
        hold.2.2.of_store (Nat.le_succ _) fun _ _ hm hc => getMessage_bound rfl hfree hm hc⟩
  active c := by
    show some _ = some c ↔ ∃ g, (l.tick.setFolder _ _).folders c = some g ∧ _
    by_cases e : c = ⟨k, l.nextSerial⟩
    · subst e
      simpa using hopen
    · have hnone : ¬ ∃ g, l.folders c = some g ∧ g.row.caseState ≠ .closed := by
        rw [← h.active c, hactive]
        simp
      rw [ConversationStore.setFolder_of_ne e]
      exact ⟨fun heq => absurd (Option.some.inj heq).symm e, fun hex => absurd hex hnone⟩
  runs := by
    have hset : StoreInv k (l.tick.setRun runId { run with caseId := some ⟨k, l.nextSerial⟩ }) :=
      h.tick.setRun ((h.runs runId run hrun).1.trans (Nat.lt_succ_self _)) (h.runs runId run hrun).2
    exact hset.runs
  events := h.tick.events
  turns := h.turns
  messages m hm := by
    obtain ⟨m', hm', rfl⟩ := List.mem_map.mp hm
    have hserial := (h.messages m' hm').trans (Nat.lt_succ_self _)
    split <;> exact hserial

/-- A stage is one of the row, the proposals and the actions. -/
theorem Stage.of_rows (h : Stage f) (hrow : f'.row = f.row)
    (hproposals : f'.proposals = f.proposals) (hactions : f'.actions = f.actions) : Stage f' := by
  cases h with
  | plain state pointer dropped actions =>
    exact .plain (hrow ▸ state) (hrow ▸ pointer) (hproposals ▸ dropped) (hactions.trans actions)
  | offered earlier p state pointer proposals dropped pending actions =>
    exact .offered earlier p (hrow ▸ state) (hrow ▸ pointer) (hproposals.trans proposals) dropped
      pending (hactions.trans actions)
  | acting earlier p a states pointer proposals dropped confirmed actions executes =>
    exact .acting earlier p a (hrow ▸ states) (hrow ▸ pointer) (hproposals.trans proposals) dropped
      confirmed (hactions.trans actions) executes

/-- A step of the fact service keeps a folder in order. -/
theorem FolderInv.facts (h : FolderInv l caseId f) (step : FactStep l caseId f f') :
    FolderInv l caseId f' where
  closing := step.row ▸ h.closing
  budget := step.row ▸ h.budget
  stage := h.stage.of_rows step.row step.proposals step.actions
  history := step.history
  versions := step.proposals ▸ h.versions
  proposalIds := step.proposals ▸ h.proposalIds
  proposalCase := step.proposals ▸ h.proposalCase
  reads := by
    rw [CaseFolder.readsOfCase, step.toolCalls]
    exact h.reads
  calls := step.toolCalls ▸ h.calls
  planned := step.toolCalls ▸ h.planned

/-! ### Supersteps -/

/-- The reads of a superstep join the calls of the run, and of the case. -/
theorem readsOfCase_append (reads : List CallRecord) :
    ({ f with toolCalls := f.toolCalls ++ reads.map (⟨runId, ·⟩) } : CaseFolder).readsOfCase =
      f.readsOfCase + reads.countP (·.actualExecution) := by
  rw [CaseFolder.readsOfCase, List.countP_append, List.countP_map]
  rfl

theorem callsOfRun_append (reads : List CallRecord) :
    ({ f with toolCalls := f.toolCalls ++ reads.map (⟨runId, ·⟩) } : CaseFolder).callsOfRun runId =
      f.callsOfRun runId ++ reads := by
  have hown : (reads.map fun call => (⟨runId, call⟩ : ToolCallRow)).filter (·.runId = runId)
      = reads.map (⟨runId, ·⟩) := List.filter_eq_self.mpr (by simp)
  rw [CaseFolder.callsOfRun, List.filter_append, hown, List.map_append, List.map_map]
  simp [CaseFolder.callsOfRun, Function.comp_def]

/-- The turns that the events of a superstep count. -/
theorem turnsOfRun_superstep {trusted : TrustedToolContext} {node : GraphNode}
    {is : InvestigationState} (r : RowId) :
    (l.logged (Service.superstepEvents s.catalog trusted caseId runId node is)).turnsOfRun r =
      l.turnsOfRun r + if r = runId then (Service.turnStarts s.catalog trusted node is).toNat
        else 0 := by
  rw [turnsOfRun_logged, Service.superstepEvents, List.countP_append]
  have htraces : ∀ n : Nat, (List.replicate n (⟨"state_trace_record", .developer, some caseId,
      some runId, none, none, false⟩ : ServiceEvent)).countP
        (fun e => e.eventType = "agent_turn_started" ∧ e.runId = some r) = 0 := by
    intro n
    simp [List.countP_replicate]
  rw [htraces, Nat.add_zero]
  by_cases hr : r = runId
  · subst hr
    cases Service.turnStarts s.catalog trusted node is <;> simp
  · cases Service.turnStarts s.catalog trusted node is <;> simp [hr, Ne.symm hr]

/-- The events of a superstep, while its run has a turn left. -/
theorem StoreInv.stepped {trusted : TrustedToolContext} {node : GraphNode}
    {is : InvestigationState} (h : StoreInv k l) (hrun : l.runs runId = some row)
    (hturns : l.turnsOfRun runId + (Service.turnStarts s.catalog trusted node is).toNat ≤ 8) :
    StoreInv k (l.logged (Service.superstepEvents s.catalog trusted caseId runId node is)) := by
  refine h.logged (fun e he r hr => ?_) fun r => ?_
  · have hown : e.runId = some runId := by
      rcases List.mem_append.mp he with he | he
      · split at he
        · rw [List.mem_singleton.mp he]
        · cases he
      · rw [List.eq_of_mem_replicate he]
    have hsame : runId = r := Option.some.inj (hown.symm.trans hr)
    exact hsame ▸ (h.runs runId row hrun).1
  · rw [turnsOfRun_superstep]
    by_cases e : r = runId
    · rw [if_pos e, e]
      exact hturns
    · rw [if_neg e, Nat.add_zero]
      exact h.turns r

/-- The rows after a superstep that returned. -/
theorem StoreInv.explored {trusted : TrustedToolContext} {node : GraphNode}
    {is is' : InvestigationState} {reads : List CallRecord} {cache : CaseToolCache}
    (h : StoreInv k l) (hf : l.folders caseId = some f) (hrun : l.runs runId = some row)
    (hreads : f.readsOfCase ≤ is.governed.budget.actualReadToolExecutions)
    (hturns : l.turnsOfRun runId ≤ is.governed.budget.runPlanningTurns)
    (hcharges : Charges (Service.turnStarts s.catalog trusted node is) is is' reads) :
    StoreInv k (l.explored caseId runId f
      (Service.superstepEvents s.catalog trusted caseId runId node is) reads cache) := by
  have hbound : l.turnsOfRun runId + (Service.turnStarts s.catalog trusted node is).toNat ≤ 8 := by
    have hruns := hcharges.runTurns
    have hrunBound := is'.governed.budget.runBound
    omega
  have hlogged : StoreInv k
      (l.logged (Service.superstepEvents s.catalog trusted caseId runId node is)) :=
    h.stepped hrun hbound
  have hfolder := (hlogged.folders caseId f hf).2.2
  have hfolder' : FolderInv
      (l.logged (Service.superstepEvents s.catalog trusted caseId runId node is)) caseId
      { f with toolCalls := f.toolCalls ++ reads.map (⟨runId, ·⟩) } :=
    { hfolder with
      stage := hfolder.stage.of_rows rfl rfl rfl
      history := hfolder.history.of_rows rfl rfl rfl rfl
      reads := by
        rw [readsOfCase_append]
        have hcase := hcharges.reads
        have hreadBound := is'.governed.budget.readBound
        omega
      calls := by
        intro call hcall
        rcases List.mem_append.mp hcall with hcall | hcall
        · exact hfolder.calls call hcall
        · obtain ⟨record, -, rfl⟩ := List.mem_map.mp hcall
          exact (h.runs runId row hrun).1
      planned := by
        intro call hcall
        rcases List.mem_append.mp hcall with hcall | hcall
        · exact hfolder.planned call hcall
        · obtain ⟨record, hrecord, rfl⟩ := List.mem_map.mp hcall
          exact hcharges.planned record hrecord }
  exact (hlogged.setFolder hf (by rfl) hfolder').cached cache

/-! ### The rows -/

/-- A case that waits for a retry without an action is looked into again. -/
theorem FolderInv.reopened (h : FolderInv l caseId f) (hstate : f.row.caseState = .awaitingRetry)
    (hactions : f.actions = []) :
    FolderInv l caseId (f.updated { caseState := some .investigating }) := by
  have hopen : f.row.caseState ≠ .closed := by simp [hstate]
  have hstage := h.stage
  cases hstage with
  | plain _ pointer dropped actions =>
    exact h.of_row (CaseRow.closing_updated h.closing hopen (by simp) rfl rfl)
      (withinBudget_updated h.budget (by simp) rfl rfl)
      (.plain_updated pointer dropped actions (by simp) rfl)
  | offered _ _ state => simp [hstate] at state
  | acting _ _ _ _ _ _ _ _ actions => simp [hactions] at actions

/-- A case that waits for a retry with an action that failed submits it again. -/
theorem FolderInv.resubmits {act : ActionRow} (h : FolderInv l caseId f)
    (hstate : f.row.caseState = .awaitingRetry) (hactions : f.actions = [act])
    (hfailed : act.actionState = .failedRetryable) :
    FolderInv l caseId (f.updated { caseState := some .executingAction }) := by
  have hopen : f.row.caseState ≠ .closed := by simp [hstate]
  have hclosing := CaseRow.closing_updated (u := { caseState := some .executingAction }) h.closing
    hopen (by simp) rfl rfl
  have hstates : (.executingAction, act.actionState) ∈ actionStages := by
    simp [hfailed, actionStages]
  have hfolder := h.act hactions hclosing
    (withinBudget_updated h.budget (by simp) rfl rfl) rfl rfl rfl hstates (by simp [CaseRow.updated])
  rw [CaseFolder.updated, ← hactions] at *
  exact hfolder

/-- What an investigation answers names a reason, when the gate it resumes does. -/
theorem outputOf_reasoned {started : Service.StartedInvestigation} (is : InvestigationState)
    (h : ∀ g ∈ started.history.persistedGate, g.Reasoned) :
    (Service.outputOf s started is).gateResult.Reasoned := by
  have hevaluated := evaluateGate_reasoned started.trusted.canonicalIssueType
    is.coordinator.latestResults
    (gateArguments s.catalog started.trusted started.args.flags is)
  simp only [Service.outputOf, graphOutput]
  split
  · cases hgate : started.history.persistedGate with
    | none => exact hevaluated
    | some g => exact h g hgate
  · exact hevaluated

/-- Every move keeps the rows in order. -/
theorem Move.storeInv (h : Move settings k label γ (l, s) γ' (l', s')) (hinv : StoreInv k l)
    (hγ : γ.Inv l) : StoreInv k l' := by
  have hrun : ∀ {runId row}, l.runs runId = some row →
      ∀ row' : RunRow, row'.gateResult = row.gateResult → StoreInv k (l.setRun runId row') := by
    intro runId row hrow row' hgate
    obtain ⟨hserial, hreasoned⟩ := hinv.runs runId row hrow
    exact hinv.setRun hserial (hgate ▸ hreasoned)
  cases h with
  | look => exact hinv
  | load => exact hinv
  | hold => exact hinv
  | strand => exact hinv
  | resumeGate => exact hinv
  | note e silent ordinary known =>
    exact hinv.logged (by simpa using known) fun r => by
      rw [turnsOfRun_note ordinary]
      exact hinv.turns r
  | tell e about carries visible ordinary known =>
    exact hinv.logged (by simpa using known) fun r => by
      rw [turnsOfRun_note ordinary]
      exact hinv.turns r
  | receive content inactive => exact hinv.received none content _
  | reply content stored state => exact hinv.received _ content _
  | review stored found => exact hinv.queued _
  | begin starts stored => exact hrun stored _ rfl
  | route routes =>
    exact { hinv with
      folders := fun c g hg =>
        have hold := hinv.folders c g hg
        ⟨hold.1, hold.2.1, hold.2.2.of_store le_rfl fun _ _ hm _ => hm⟩ }
  | refuse refusable stored => exact hrun stored _ rfl
  | fail stored => exact hrun stored _ rfl
  | answer stored => exact hrun stored _ rfl
  | openCase customerId orderId issueType target stored =>
    obtain ⟨-, hactive, hfree, -⟩ := hγ
    exact hinv.opened hactive stored hfree (by simp [Service.newCaseRow]) fun l' =>
      .created (by simp [CaseRow.Closing, Service.newCaseRow])
        (by simp [CaseRow.WithinBudget, Service.newCaseRow]) (by simp [Service.newCaseRow]) rfl
  | facts kind facts stored step =>
    exact hinv.setFolder stored (congrArg CaseRow.caseState step.row)
      ((hinv.folders _ _ stored).2.2.facts step)
  | start begins stored from_ => exact hinv.cached _
  | superstep selector stored step =>
    obtain ⟨⟨row, hopen⟩, ⟨g, hg, -, -, hreads⟩, hturns, -⟩ := hγ
    rw [stored] at hg
    obtain rfl := Option.some.inj hg
    exact hinv.explored stored hopen.stored hreads hturns (InvestigationGraph.step_charges step)
  | @stumble l s runId caseId pass started node is e selector step =>
    obtain ⟨⟨row, hopen⟩, -, hturns, -⟩ := hγ
    have hruns := (InvestigationGraph.step_error step).runTurns
    have hrunBound := (Service.stumbled s.catalog started.trusted node is).governed.budget.runBound
    exact (hinv.stepped hopen.stored (by omega)).cached _
  | @evaluate l s runId caseId pass started is row stored =>
    have hgate := outputOf_reasoned (s := s) is hγ.2.2.2
    have hstored : StoreInv k (l.setRun runId
        { row with gateResult := some (Service.outputOf s started is).gateResult }) :=
      hinv.setRun (hinv.runs runId row stored).1 (by simpa using hgate)
    refine hstored.logged ?_ fun r => ?_
    · simpa using (hinv.runs runId row stored).1
    · rw [turnsOfRun_logged]
      simpa using hstored.turns r
  | retry stored state actions =>
    have hfolder := (hinv.folders _ _ stored).2.2
    exact (hinv.queued _).putCase stored (by simp [state])
      ((hfolder.reopened state actions).of_store (Nat.le_succ _) fun _ _ hm _ => hm)
  | retryAction stored state actions failed =>
    have hfolder := (hinv.folders _ _ stored).2.2
    exact (hinv.queued _).putCase stored (by simp [state])
      ((hfolder.resubmits state actions failed).of_store (Nat.le_succ _) fun _ _ hm _ => hm)
  | @change _ _ _ _ _ _ caseId runId f f' row row' drawn folder run move =>
    have hold := hinv.folders caseId f folder
    have hfolder := move.folderInv hold.2.2 folder hγ
    have hopen := move.isOpen hold.2.2 folder hγ
    cases drawn with
    | false =>
      exact (hinv.putCase folder hopen hfolder).setRun (hinv.runs runId row run).1
        (move.gate ▸ (hinv.runs runId row run).2)
    | true =>
      exact (hinv.tick.putCase folder hopen hfolder).setRun (hinv.tick.runs runId row run).1
        (move.gate ▸ (hinv.runs runId row run).2)

/-! ### The phase -/

/-- What a phase knows of the store: the rows, the turns of its run, and the messages. -/
theorem Phase.Inv.of_store (h : γ.Inv l) (hruns : l'.runs = l.runs)
    (hfolders : l'.folders = l.folders) (hturns : ∀ r, l'.turnsOfRun r = l.turnsOfRun r)
    (hactive : l'.activeCaseId = l.activeCaseId) (hmessages : l'.messages = l.messages) :
    γ.Inv l' := by
  have hopen : ∀ {r co q}, (∃ row, RunOpen l r co q row) → ∃ row, RunOpen l' r co q row :=
    fun ⟨row, hrow⟩ => ⟨row, { hrow with stored := hruns ▸ hrow.stored }⟩
  have hmessage : l'.getMessage = l.getMessage := by
    funext id
    rw [ConversationStore.getMessage, ConversationStore.getMessage, hmessages]
  cases γ with
  | idle | stranded | settled | reported => trivial
  | noted => exact ⟨hopen h.1, hactive.trans h.2.1, hmessage ▸ h.2.2.1, (hturns _).trans h.2.2.2⟩
  | replying => exact ⟨hopen h.1, hfolders ▸ h.2.1, (hturns _).trans h.2.2⟩
  | reviewing => exact ⟨hopen h.1, hfolders ▸ h.2⟩
  | working => exact ⟨hopen h.1, hfolders ▸ h.2.1, (hturns _).le.trans h.2.2.1, h.2.2.2⟩
  | exploring => exact ⟨hopen h.1, hfolders ▸ h.2.1, (hturns _).le.trans h.2.2.1, h.2.2.2⟩
  | answered runId caseId pass output refreshed =>
    obtain ⟨hrun, ⟨f, hf, hstate, hreads, hfresh⟩, hle, hrest⟩ := h
    refine ⟨hopen hrun, ⟨f, hfolders ▸ hf, hstate, hreads, fun hr snapshot hsnapshot => ?_⟩,
      (hturns _).le.trans hle, hrest⟩
    refine hfresh hr snapshot ?_
    rw [← hsnapshot]
    unfold CaseFactService.rebuildFolder messageVerified consumptionVerified
    rw [hmessage]
  | parked => exact ⟨hopen h.1, hfolders ▸ h.2⟩
  | executing => exact ⟨hopen h.1, hfolders ▸ h.2⟩
  | submitted => exact ⟨hopen h.1, hfolders ▸ h.2⟩

/-- A fresh run is queued. -/
theorem RunOpen.fresh {co : Option RowId}
    (h : l.runs runId = some ⟨co, .queued, 0, 0, none, none⟩) :
    ∃ row, RunOpen l runId co .queued row :=
  ⟨_, h, rfl, rfl, Or.inl rfl, rfl, rfl⟩

/-- A run is started. -/
theorem RunOpen.started {co : Option RowId} {row₀ : RunRow} (h : RunOpen l runId co .queued row₀)
    (hrow : l.runs runId = some row) :
    ∃ row', RunOpen (l.setRun runId row.started) runId co .running row' := by
  rw [h.stored] at hrow
  obtain rfl := Option.some.inj hrow
  exact ⟨_, ConversationStore.setRun_self .., h.caseId, rfl, Or.inr rfl, h.turns, h.reads⟩

/-- A phase in which a run starts. -/
theorem Phase.Starts.inv (h : γ.Starts runId γ') (hrow : l.runs runId = some row)
    (hγ : γ.Inv l) : γ'.Inv (l.setRun runId row.started) := by
  cases h with
  | noted => exact ⟨hγ.1.elim fun _ hopen => hopen.started hrow, hγ.2⟩
  | replying => exact ⟨hγ.1.elim fun _ hopen => hopen.started hrow, hγ.2⟩
  | reviewing => exact ⟨hγ.1.elim fun _ hopen => hopen.started hrow, hγ.2⟩
  | working => exact ⟨hγ.1.elim fun _ hopen => hopen.started hrow, hγ.2⟩
  | executing => exact ⟨hγ.1.elim fun _ hopen => hopen.started hrow, hγ.2⟩

/-- A phase in which the facts of a case take a step. -/
theorem Phase.Facts.inv (h : γ.Facts caseId γ') (hf : l.folders caseId = some f)
    (step : FactStep l caseId f f') (hγ : γ.Inv l) : γ'.Inv (l.setFolder caseId f') := by
  cases h with
  | replying =>
    obtain ⟨⟨row, hopen⟩, ⟨g, hg, hstate⟩, hturns⟩ := hγ
    rw [hf] at hg
    obtain rfl := Option.some.inj hg
    exact ⟨⟨row, { hopen with }⟩, ⟨f', ConversationStore.setFolder_self .., step.row ▸ hstate⟩,
      hturns⟩
  | working =>
    obtain ⟨⟨row, hopen⟩, ⟨g, hg, hstate⟩, hturns⟩ := hγ
    rw [hf] at hg
    obtain rfl := Option.some.inj hg
    exact ⟨⟨row, { hopen with }⟩, ⟨f', ConversationStore.setFolder_self .., step.row ▸ hstate⟩,
      hturns⟩
  | answered =>
    obtain ⟨⟨row, hopen⟩, ⟨g, hg, hstate, hreads, -⟩, hrest⟩ := hγ
    rw [hf] at hg
    obtain rfl := Option.some.inj hg
    refine ⟨⟨row, { hopen with }⟩, ⟨f', ConversationStore.setFolder_self .., step.row ▸ hstate, ?_,
      fun _ => step.current⟩, hrest⟩
    rw [CaseFolder.readsOfCase, step.toolCalls]
    exact hreads

/-- The counters that a pass begins with. -/
theorem initialBudget_some {args : InvestigateArguments} {history : InvestigationHistory}
    {budget : ToolBudget} (h : initialBudget args history = some budget) :
    budget.actualReadToolExecutions =
        max args.caseReadExecutions (history.caseRecords.filter (·.actualExecution)).length ∧
      budget.casePlanningTurns =
        (history.caseRecords.map (·.planningTurn)).foldl max args.casePlanningTurns ∧
      budget.runPlanningTurns =
        (history.runRecords.map (·.planningTurn)).foldl max args.runPlanningTurns := by
  unfold initialBudget at h
  simp only at h
  split at h
  · cases h
    exact ⟨rfl, rfl, rfl⟩
  · cases h

/-- A maximum is no less than what it starts from. -/
theorem le_foldl_max (n : Nat) (items : List Nat) : n ≤ items.foldl max n := by
  induction items generalizing n with
  | nil => exact le_rfl
  | cons m items ih => exact (le_max_left n m).trans (ih _)

/-- A maximum stays within a bound of all that it is taken of. -/
theorem foldl_max_le {n bound : Nat} {items : List Nat} (hn : n ≤ bound)
    (hitems : ∀ m ∈ items, m ≤ bound) : items.foldl max n ≤ bound := by
  induction items generalizing n with
  | nil => exact hn
  | cons m items ih =>
    exact ih (max_le hn (hitems m List.mem_cons_self)) fun m' hm' =>
      hitems m' (List.mem_cons_of_mem _ hm')

/-- The counters of a stored case are a valid budget. -/
theorem FolderInv.initialBudget (h : FolderInv l caseId f) {args : InvestigateArguments}
    (hturns : args.runPlanningTurns ≤ 8) : ∃ budget, AfterSales.initialBudget { args with
      casePlanningTurns := f.row.agentPlanningTurnCount
      caseReadExecutions := f.row.actualReadToolExecutionCount }
        (investigationHistory l s caseId runId f) = some budget := by
  obtain ⟨-, hreads, hcase⟩ := h.budget
  have hplanned : ∀ call ∈ f.toolCalls.map (·.call), call.planningTurn ≤ 8 := by
    intro call hcall
    obtain ⟨row, hrow, rfl⟩ := List.mem_map.mp hcall
    exact h.planned row hrow
  have hread : ((f.toolCalls.map (·.call)).filter (·.actualExecution)).length = f.readsOfCase := by
    simp [CaseFolder.readsOfCase, List.countP_eq_length_filter, List.filter_map,
      Function.comp_def]
  have hcaseTurns : ((f.toolCalls.map (·.call)).map (·.planningTurn)).foldl max
      f.row.agentPlanningTurnCount ≤ 16 := by
    refine foldl_max_le hcase fun n hn => ?_
    obtain ⟨call, hcall, rfl⟩ := List.mem_map.mp hn
    exact (hplanned call hcall).trans (by omega)
  have hrunTurns : ((f.callsOfRun runId).map (·.planningTurn)).foldl max
      args.runPlanningTurns ≤ 8 := by
    refine foldl_max_le hturns fun n hn => ?_
    obtain ⟨call, hcall, rfl⟩ := List.mem_map.mp hn
    obtain ⟨row, hrow, rfl⟩ := List.mem_map.mp hcall
    exact h.planned row (List.mem_of_mem_filter hrow)
  have hread' := h.reads
  have hreadTurns := max_le hreads (hread.trans_le hread')
  rw [AfterSales.initialBudget, dif_pos ⟨hcaseTurns, hrunTurns, hreadTurns⟩]
  exact ⟨_, rfl⟩

/-- A pass begins. -/
theorem StartedFrom.inv {pass turns number : Nat} {started : Service.StartedInvestigation}
    {l₁ : ConversationStore}
    (h : StartedFrom settings runId caseId pass turns number l s f started)
    (begins : γ.Begins runId caseId pass turns number) (hinv : StoreInv k l) (hγ : γ.Inv l)
    (hf : l.folders caseId = some f) (hruns : l₁.runs = l.runs)
    (hfolders : l₁.folders = l.folders) (hevents : l₁.events = l.events) :
    Phase.Inv l₁ (.exploring runId caseId pass started .agent
      (initialState started.trusted started.history started.budget)) := by
  obtain ⟨hrun, hstate, hturns⟩ : (∃ row, RunOpen l runId (some caseId) .running row) ∧
      f.row.caseState ∈ passStates ∧ l.turnsOfRun runId ≤ turns := by
    cases begins with
    | replying => exact ⟨hγ.1, Phase.Passing.state .replying hγ hf, hγ.2.2.le⟩
    | working => exact ⟨hγ.1, Phase.Passing.state (.working _ _) hγ hf, hγ.2.2.1⟩
  obtain ⟨hreads, -, hrunTurns⟩ := initialBudget_some h.budget
  have hobserved : l₁.turnsOfRun runId = l.turnsOfRun runId := by
    rw [ConversationStore.turnsOfRun, ConversationStore.turnsOfRun, hevents]
  refine ⟨hrun.elim fun row hopen => ⟨row, { hopen with stored := hruns ▸ hopen.stored }⟩,
    ⟨f, hfolders ▸ hf, hstate, ?_, ?_⟩, ?_, ?_⟩
  · show f.callsOfRun runId = started.history.runRecords
    rw [h.history]
    rfl
  · show f.readsOfCase ≤ started.budget.actualReadToolExecutions
    rw [hreads, h.history]
    refine le_trans (le_of_eq ?_) (le_max_right _ _)
    simp [CaseFolder.readsOfCase, investigationHistory, List.countP_eq_length_filter,
      List.filter_map, Function.comp_def]
  · show l₁.turnsOfRun runId ≤ started.budget.runPlanningTurns
    rw [hobserved, hrunTurns, h.runTurns]
    exact hturns.trans (le_foldl_max _ _)
  · intro g hg
    rw [h.history] at hg
    obtain ⟨row, hrow, hgate⟩ := Option.bind_eq_some_iff.mp hg
    exact (hinv.runs runId row hrow).2 g hgate

/-- A superstep that returned. -/
theorem Phase.Inv.superstep {pass : Nat} {started : Service.StartedInvestigation}
    {node node' : GraphNode} {is is' : InvestigationState} {reads : List CallRecord}
    (h : Phase.Inv l (.exploring runId caseId pass started node is))
    (hf : l.folders caseId = some f)
    (hcharges : Charges (Service.turnStarts s.catalog started.trusted node is) is is' reads) :
    Phase.Inv (l.explored caseId runId f
        (Service.superstepEvents s.catalog started.trusted caseId runId node is) reads
        is'.governed.cache)
      (.exploring runId caseId pass started node' is') := by
  obtain ⟨⟨row, hopen⟩, ⟨g, hg, hstate, hcalls, hreads⟩, hturns, hgate⟩ := h
  rw [hf] at hg
  obtain rfl := Option.some.inj hg
  refine ⟨⟨row, { hopen with }⟩, ⟨_, ConversationStore.setFolder_self .., hstate, ?_, ?_⟩, ?_,
    hgate⟩
  · rw [callsOfRun_append, hcalls, hcharges.records]
  · rw [readsOfCase_append, hcharges.reads]
    omega
  · calc (l.logged (Service.superstepEvents s.catalog started.trusted caseId runId node is)).turnsOfRun
          runId
        = l.turnsOfRun runId + (Service.turnStarts s.catalog started.trusted node is).toNat := by
          rw [turnsOfRun_superstep, if_pos rfl]
      _ ≤ is.governed.budget.runPlanningTurns
            + (Service.turnStarts s.catalog started.trusted node is).toNat :=
          Nat.add_le_add_right hturns _
      _ = is'.governed.budget.runPlanningTurns := hcharges.runTurns.symm

/-- What is known when the graph has finished, and the gate is evaluated. -/
theorem Phase.Inv.answered {pass : Nat} {started : Service.StartedInvestigation}
    (node : GraphNode) {is : InvestigationState}
    (h : Phase.Inv l (.exploring runId caseId pass started node is)) :
    Phase.Inv l (.answered runId caseId pass (Service.outputOf s started is) false) := by
  obtain ⟨hrun, ⟨f, hf, hstate, -, hreads⟩, hturns, hgate⟩ := h
  refine ⟨hrun, ⟨f, hf, hstate, hreads, by simp⟩, hturns, is.governed.budget.runBound,
    is.governed.budget.caseBound, is.governed.budget.readBound, ?_, outputOf_reasoned is hgate⟩
  exact (Nat.sub_le _ _).trans is.governed.budget.readBound

/-- Every move leads to a phase that its store is fit for. -/
theorem Move.phaseInv (h : Move settings k label γ (l, s) γ' (l', s')) (hinv : StoreInv k l)
    (hγ : γ.Inv l) : γ'.Inv l' := by
  cases h with
  | look => exact hγ
  | load => exact hγ
  | hold => exact hγ
  | strand => trivial
  | note e silent ordinary => exact hγ.of_store rfl rfl (turnsOfRun_note ordinary) rfl rfl
  | tell e about carries visible ordinary known tells =>
    have hsame : γ.Inv (l.logged [e]) :=
      hγ.of_store rfl rfl (turnsOfRun_note ordinary) rfl rfl
    cases tells with
    | working => exact hsame
    | executing => exact hsame
    | settled => trivial
    | reported => trivial
  | receive content inactive =>
    exact ⟨RunOpen.fresh (ConversationStore.setRun_self ..), inactive, fun m hm => hinv.received_message hm,
      (hinv.fresh le_rfl).2.2.1⟩
  | reply content stored state =>
    exact ⟨RunOpen.fresh (ConversationStore.setRun_self ..), ⟨_, stored, state, rfl⟩,
      (hinv.fresh le_rfl).2.2.1⟩
  | review stored found => exact ⟨RunOpen.fresh (ConversationStore.setRun_self ..), _, stored, _, found⟩
  | begin starts stored => exact starts.inv stored hγ
  | route routes => exact hγ.of_store rfl rfl (fun _ => rfl) rfl rfl
  | refuse => trivial
  | fail => trivial
  | answer => trivial
  | openCase customerId orderId issueType target stored =>
    obtain ⟨⟨row, hopen⟩, -, -, hturns⟩ := hγ
    rw [hopen.stored] at stored
    obtain rfl := Option.some.inj stored
    refine ⟨⟨_, ConversationStore.setRun_self .., rfl, hopen.runState, Or.inr rfl, hopen.turns,
      hopen.reads⟩, ⟨_, ConversationStore.setFolder_self .., List.mem_cons_self⟩, hturns.le,
      Nat.zero_le _⟩
  | facts kind facts stored step => exact facts.inv stored step hγ
  | start begins stored from_ => exact from_.inv begins hinv hγ stored rfl rfl rfl
  | superstep selector stored step =>
    exact hγ.superstep stored (InvestigationGraph.step_charges step)
  | @stumble l s runId caseId pass started node is e selector step =>
    obtain ⟨⟨row, hopen⟩, ⟨g, hg, hstate, hcalls, hreads⟩, hturns, hgate⟩ := hγ
    have hcharges := InvestigationGraph.step_error step
    refine ⟨⟨row, { hopen with }⟩, ⟨g, hg, hstate, ?_, ?_⟩, ?_, hgate⟩
    · rw [hcharges.records, List.append_nil]
      exact hcalls
    · rw [hcharges.reads, List.countP_nil, Nat.add_zero]
      exact hreads
    · have hlogged : (l.logged (Service.superstepEvents s.catalog started.trusted caseId runId node
          is)).turnsOfRun runId = l.turnsOfRun runId +
            (Service.turnStarts s.catalog started.trusted node is).toNat := by
        rw [turnsOfRun_superstep, if_pos rfl]
      rw [hcharges.runTurns]
      exact hlogged.le.trans (Nat.add_le_add_right hturns _)
  | @evaluate l s runId caseId pass started is row stored =>
    obtain ⟨⟨row₀, hopen⟩, hfolder, hturns, hgate⟩ := hγ
    rw [hopen.stored] at stored
    obtain rfl := Option.some.inj stored
    refine Phase.Inv.answered .finished ⟨⟨_, ConversationStore.setRun_self ..,
      hopen.caseId, hopen.runState, hopen.unfinished, hopen.turns, hopen.reads⟩, hfolder, ?_, hgate⟩
    rw [ConversationStore.gated, turnsOfRun_logged]
    simpa [ConversationStore.turnsOfRun] using hturns
  | resumeGate => exact hγ.answered _
  | retry stored state actions =>
    exact ⟨RunOpen.fresh (ConversationStore.setRun_self ..), ⟨_, ConversationStore.putCase_self .., List.mem_cons_self⟩,
      (hinv.fresh le_rfl).2.2.1.le, Nat.zero_le _⟩
  | @retryAction l s caseId f act stored state actions failed =>
    obtain ⟨_, p, -, -, hproposals, -, -, hexecutes⟩ :=
      (hinv.folders caseId f stored).2.2.stage.of_action actions
    have hcase : act.proposalId.caseId = caseId := by
      rw [hexecutes.proposalId]
      exact ((hinv.folders caseId f stored).2.2.proposalCase p (by simp [hproposals])).1
    exact ⟨RunOpen.fresh (ConversationStore.setRun_self ..), _, act, ConversationStore.putCase_self ..,
      ⟨rfl, actions, rfl, rfl, hcase, rfl, rfl, rfl, rfl⟩, Or.inr failed⟩
  | change folder run move =>
    exact move.phaseInv (hinv.folders _ _ folder).2.2 folder run hinv.turns hγ

/-! ### The tickets -/

/-- Tickets are seen by the rows and the actions of their cases. -/
theorem TicketInv.of_folders (h : TicketInv k l s)
    (hkeep : ∀ c f, l.folders c = some f → ∃ f', l'.folders c = some f' ∧
      ∀ act t, TicketOf s f act t → TicketOf s f' act t) : TicketInv k l' s :=
  { h with
    own := by
      intro t ht hk
      obtain ⟨f, act, hf, hof⟩ := h.own t ht hk
      obtain ⟨f', hf', hsame⟩ := hkeep _ f hf
      exact ⟨f', act, hf', hsame act t hof⟩ }

theorem TicketInv.of_same (h : TicketInv k l s) (hfolders : l'.folders = l.folders) :
    TicketInv k l' s :=
  h.of_folders fun _ f hf => ⟨f, hfolders ▸ hf, fun _ _ hof => hof⟩

/-- One folder is replaced, and keeps what tickets are seen by. -/
theorem TicketInv.of_folder (h : TicketInv k l s) (hf : l.folders caseId = some f)
    (hf' : l'.folders caseId = some f') (hne : ∀ c, c ≠ caseId → l'.folders c = l.folders c)
    (hkeep : ∀ act t, TicketOf s f act t → TicketOf s f' act t) : TicketInv k l' s := by
  refine h.of_folders fun c g hg => ?_
  by_cases e : c = caseId
  · subst e
    rw [hf] at hg
    obtain rfl := Option.some.inj hg
    exact ⟨f', hf', hkeep⟩
  · exact ⟨g, (hne c e).trans hg, fun _ _ hof => hof⟩

/-- Every move keeps the tickets, and what is known of those of a submitted action. -/
theorem Move.ticketInv (h : Move settings k label γ (l, s) γ' (l', s')) (hinv : StoreInv k l)
    (hγ : γ.Inv l) (hw : γ.Written s) (ht : TicketInv k l s) :
    TicketInv k l' s' ∧ γ'.Written s' := by
  cases h with
  | look => exact ⟨ht, hw⟩
  | load => exact ⟨ht, hw⟩
  | hold => exact ⟨ht, hw⟩
  | strand => exact ⟨ht, trivial⟩
  | note => exact ⟨ht.of_same rfl, hw⟩
  | tell e about carries visible ordinary known tells =>
    refine ⟨ht.of_same rfl, ?_⟩
    cases tells <;> trivial
  | receive => exact ⟨ht.of_same rfl, trivial⟩
  | reply => exact ⟨ht.of_same rfl, trivial⟩
  | review => exact ⟨ht.of_same rfl, trivial⟩
  | begin starts =>
    refine ⟨ht.of_same rfl, ?_⟩
    cases starts <;> trivial
  | route => exact ⟨ht.of_same rfl, trivial⟩
  | refuse => exact ⟨ht.of_same rfl, trivial⟩
  | fail => exact ⟨ht.of_same rfl, trivial⟩
  | answer => exact ⟨ht.of_same rfl, trivial⟩
  | openCase =>
    refine ⟨ht.of_folders fun c f hf => ⟨f, ?_, fun _ _ hof => hof⟩, trivial⟩
    have hserial := (hinv.folders c f hf).2.1
    refine (ConversationStore.setFolder_of_ne ?_).trans hf
    rintro rfl
    exact lt_irrefl _ hserial
  | facts kind facts stored step =>
    refine ⟨ht.of_folder stored (ConversationStore.setFolder_self ..)
      (fun c hc => ConversationStore.setFolder_of_ne hc) fun act t hof => ?_, ?_⟩
    · exact ⟨step.actions.trans hof.actions, hof.actionId, hof.idempotencyKey,
        step.row ▸ hof.customerId, step.row ▸ hof.authorizedOrderId, step.row ▸ hof.issueType,
        step.row ▸ hof.targetShipmentId, hof.written⟩
    · cases facts <;> trivial
  | start => exact ⟨ht.of_same rfl, trivial⟩
  | superstep selector stored step =>
    exact ⟨ht.of_folder stored (ConversationStore.setFolder_self ..)
      (fun c hc => ConversationStore.setFolder_of_ne hc) fun act t hof => { hof with }, trivial⟩
  | stumble => exact ⟨ht.of_same rfl, trivial⟩
  | evaluate => exact ⟨ht.of_same rfl, trivial⟩
  | resumeGate => exact ⟨ht, trivial⟩
  | retry stored state actions =>
    exact ⟨ht.of_folder stored (ConversationStore.putCase_self ..)
      (fun c hc => ConversationStore.putCase_of_ne hc) fun act t hof => { hof with }, trivial⟩
  | retryAction stored state actions failed =>
    exact ⟨ht.of_folder stored (ConversationStore.putCase_self ..)
      (fun c hc => ConversationStore.putCase_of_ne hc) fun act t hof => { hof with }, trivial⟩
  | change folder run move =>
    exact move.ticketInv ht hw (hinv.folders _ _ folder).2.2 folder (hinv.folders _ _ folder).1 hγ

/-! ### Other conversations, and the environment -/

/-- What a move does to the tickets that all conversations share. -/
theorem Move.sharedMove (h : Move settings k label γ (l, s) γ' (l', s')) (hinv : StoreInv k l)
    (hw : γ.Written s) (ht : TicketInv k l s) : SharedMove k s s' := by
  cases h with
  | change folder run move =>
    exact move.sharedMove ht hw (hinv.folders _ _ folder).2.2 (hinv.folders _ _ folder).1
  | _ => exact SharedMove.rfl'

/-- What another conversation does leaves the write of a submitted action as it is known. -/
theorem Phase.Written.of_other {j : String} {lj : ConversationStore} {δ : Phase}
    (hw : δ.Written s) (hinv : StoreInv k l) (hδ : δ.Inv l) (hj : TicketInv j lj s')
    (hmove : SharedMove j s s') (hne : j ≠ k) : δ.Written s' := by
  cases δ with
  | submitted runId a fault submittedAt =>
    cases fault with
    | none =>
      obtain ⟨t, ht, hkey⟩ := hw
      exact ⟨t, hmove.kept t ht, hkey⟩
    | some fault =>
      intro t ht hid
      rcases hmove.written t ht with hold | hnew
      · exact hw t hold hid
      · obtain ⟨-, f, act, hf, hopen, -⟩ := hδ
        obtain ⟨hk, -, hfolder⟩ := hinv.folders a.caseId f hf
        have hcase : t.caseId = a.caseId := by
          rw [← (hj.ids t ht).2.2, hid, (hopen.ids hfolder).2]
        rw [hcase, hk] at hnew
        exact hne hnew.symm
  | _ => trivial

/-- The environment leaves the sources and the tickets alone. -/
theorem TicketInv.of_drift (h : TicketInv k l s) (hdrift : SharedState.Drifts s s') :
    TicketInv k l s' where
  base := hdrift.fixtures ▸ h.base
  ids := hdrift.tickets ▸ h.ids
  dynamic := by
    rw [hdrift.fixtures, hdrift.tickets]
    exact h.dynamic
  own := by
    intro t ht hk
    rw [hdrift.tickets] at ht
    obtain ⟨f, act, hf, hof⟩ := h.own t ht hk
    exact ⟨f, act, hf, { hof with written := hdrift.fixtures ▸ hof.written }⟩

theorem Phase.Written.of_drift (h : γ.Written s) (hdrift : SharedState.Drifts s s') :
    γ.Written s' := by
  cases γ with
  | submitted runId a fault submittedAt =>
    cases fault with
    | none =>
      obtain ⟨t, ht, hkey⟩ := h
      exact ⟨t, hdrift.tickets ▸ ht, hkey⟩
    | some fault =>
      intro t ht
      exact h t (hdrift.tickets ▸ ht)
  | _ => trivial

/-- The moves of a conversation keep its invariant; other conversations, the environment and the end
    of a call do so too. -/
theorem machine_preserved (settings : Settings)
    (assumes : String → Label → ServiceState → Prop) :
    Preserved (machine settings) SharedState.Drifts assumes fun k => (machine settings k).inv where
  own {k label γ γ' x y} hinv _ _ hmove := by
    obtain ⟨l, s⟩ := x
    obtain ⟨l', s'⟩ := y
    obtain ⟨hstore, hγ, hw, ht⟩ := hinv
    have htickets := Move.ticketInv hmove hstore hγ hw ht
    exact ⟨Move.storeInv hmove hstore hγ, Move.phaseInv hmove hstore hγ, htickets.2, htickets.1⟩
  other {j k label γ γ' δ l x y} hne hinv _ hinv' _ _ hmove := by
    obtain ⟨lj, s⟩ := x
    obtain ⟨lj', s'⟩ := y
    obtain ⟨hstore, hγ, hw, ht⟩ := hinv
    obtain ⟨hstore', hδ, hw', ht'⟩ := hinv'
    have htickets := (Move.ticketInv hmove hstore hγ hw ht).1
    have hshared := Move.sharedMove hmove hstore hw ht
    exact ⟨hstore', hδ, hw'.of_other hstore' hδ htickets hshared hne,
      ht'.of_other htickets hshared hne⟩
  moves hdrift hinv _ :=
    ⟨hinv.1, hinv.2.1, hinv.2.2.1.of_drift hdrift, hinv.2.2.2.of_drift hdrift⟩
  ended _ hinv _ := ⟨hinv.1, trivial, trivial, hinv.2.2.2⟩

/-- Before its first message a conversation is in order. -/
theorem StoreInv.created (customerId : Option String) :
    StoreInv k (ConversationStore.created customerId) where
  folders := by simp [ConversationStore.created]
  active := by simp [ConversationStore.created]
  runs := by simp [ConversationStore.created]
  events := by simp [ConversationStore.created]
  turns := by simp [ConversationStore.created, ConversationStore.turnsOfRun]
  messages := by simp [ConversationStore.created]

/-- A service without messages and tickets is in order. -/
theorem ServiceConfig.Fresh.inv {g : ServiceConfig} (h : ServiceConfig.Fresh g) (k : String) :
    (machine settings k).inv (machine settings k).idle (g.stores k) g.shared := by
  obtain ⟨customerId, hstore⟩ := h.stores k
  rw [hstore]
  refine ⟨.created customerId, trivial, trivial, h.ticketIds, ?_, ?_, ?_⟩
  · simp [h.tickets]
  · simp [h.dynamicTickets]
  · simp [h.tickets]

/-- Every machine of a fresh service is idle. -/
theorem ServiceConfig.Fresh.simulated {g : ServiceConfig} (h : ServiceConfig.Fresh g)
    {J : String → Phase → ConversationStore → SharedState → Prop}
    (hJ : ∀ k, J k .idle (g.stores k) g.shared) : Simulated (machine settings) J g := by
  intro k
  refine ⟨.idle, h.inv k, hJ k, ?_⟩
  simp only [InPhase, h.calls k]
  rfl

end AfterSales
