import AfterSales.Application.Termination
import AfterSales.Investigation.FaultFreeLoop
import AfterSales.Investigation.PlanningTurns
import AfterSales.Investigation.TerminalCodes
import AfterSales.Policy.Proposals

/-! An integrity stop, and the write proposal of the same run.

    The router stops a run whose progress has a terminal code. The gate is then evaluated on the
    table of latest results, and that table knows nothing of codes:

        tool calls ─▶ progress ─▶ router ─▶ safe_stop
                 └──▶ latest results ─▶ gate ─▶ proposal

    No read of a run brings the two apart: a read that is due adds no code. Only the rows that a run
    is resumed with can, and then the run stops. It still makes the read it was about to make, and
    its retry, before it does; so the gate proposes when that read completes what the rows lack. -/

namespace AfterSales
open EvidenceProgressReducer

variable [PolicyDigest] [ProofDigest] [ResultDigest]

/-- What the router decides after a read, before an early stop rewrites it. -/
def Coordinator.routed (budget : ToolBudget) (c : Coordinator) (record : CallRecord) :
    RecoveryDecision :=
  observationRoute c.progress budget record.attemptNumber record.result c.pendingRetry
    record.sourceVersion c.guard.unchangedSelectorTurns

/-- The router's decision at a node that reads. It is not asked when the read raises. -/
def NodeExecution.routed (trusted : TrustedToolContext) (x : NodeExecution) :
    Option RecoveryDecision :=
  match x.node with
  | .tools tool arguments =>
    match InvestigationGraph.traceRead x.around.catalog trusted x.before tool arguments with
    | (.ok record, governed) =>
      some ((x.before.coordinator.absorb trusted record record.refs).routed governed.budget record)
    | (.error _, _) => none
  | _ => none

/-- A route that stops a run for its integrity. -/
def RecoveryDecision.StopsForIntegrity (r : RecoveryDecision) : Prop :=
  r.route = .safeStop ∧
    (r.reasonCode = .integrityConflict ∨ r.reasonCode = .sourceRevisionChangedDuringRetry)

/-- A run ends with an integrity stop: a terminal code, a conflict, or the router's last word. -/
def IntegrityStop (trusted : TrustedToolContext) (xs : List NodeExecution)
    (s : InvestigationState) : Prop :=
  s.coordinator.progress.terminalTriggerCodes ≠ [] ∨
    (∃ code, (s.coordinator.progress.requirements code).status = .conflict) ∨
    ∃ r ∈ (xs.filterMap (·.routed trusted)).getLast?, r.StopsForIntegrity

/-- The rows of a run, numbered as the run has made them. -/
def RowsNumbered (runId : String) (records : List CallRecord) : Prop :=
  records.map (·.toolCallId) = (List.range records.length).map (ToolCallId.mk runId)

instance (runId : String) (records : List CallRecord) : Decidable (RowsNumbered runId records) :=
  inferInstanceAs (Decidable (_ = _))

/-- The progress over the rows of a run, with no retry pending, has no terminal code. -/
def CleanRows (trusted : TrustedToolContext) (records : List CallRecord)
    (refs : List EvidenceRef) : Prop :=
  (Coordinator.rebuildProgress trusted records refs none).terminalTriggerCodes = []

variable {trusted : TrustedToolContext} {catalog : SyntheticReadToolCatalog}
  {selector : ObservationSelector} {node next : GraphNode} {s s' : InvestigationState}
  {tool : ReadTool} {arguments : ToolArguments} {records : List CallRecord}
  {refs : List EvidenceRef}

/-! ### Numbered rows -/

section Rows

omit [ProofDigest] [ResultDigest]

theorem RowsNumbered.concat {runId : String} (h : RowsNumbered runId records)
    {record : CallRecord} (hid : record.toolCallId = ⟨runId, records.length⟩) :
    RowsNumbered runId (records ++ [record]) := by
  unfold RowsNumbered at h ⊢
  rw [List.map_append, h, List.length_append, List.length_singleton, List.range_succ,
    List.map_append, List.map_singleton, List.map_singleton, hid]

/-- A row before the next one has another id. -/
theorem RowsNumbered.ne_next {runId : String} (h : RowsNumbered runId records) {r : CallRecord}
    (hr : r ∈ records) : (⟨runId, records.length⟩ : ToolCallId) ≠ r.toolCallId := by
  have hmem : r.toolCallId ∈ records.map (·.toolCallId) := List.mem_map_of_mem hr
  rw [h] at hmem
  obtain ⟨i, hi, hid⟩ := List.mem_map.mp hmem
  intro e
  have hserial := congrArg ToolCallId.serial (e.trans hid.symm)
  exact (List.mem_range.mp hi).ne hserial.symm

theorem RowsNumbered.init {runId : String} {rows : List CallRecord} {last : CallRecord}
    (h : RowsNumbered runId (rows ++ [last])) :
    RowsNumbered runId rows ∧ last.toolCallId = ⟨runId, rows.length⟩ := by
  unfold RowsNumbered at h ⊢
  rw [List.map_append, List.length_append, List.length_singleton, List.range_succ,
    List.map_append, List.map_singleton, List.map_singleton] at h
  obtain ⟨hrows, hlast⟩ := List.append_inj h (by simp)
  exact ⟨hrows, (List.cons.inj hlast).1⟩

/-- The references of a read carry its id. -/
theorem CallRecord.refs_id {record : CallRecord} {ref : EvidenceRef} (h : ref ∈ record.refs) :
    ref.toolCallId = record.toolCallId := by
  unfold CallRecord.refs ToolResult.toEvidenceRefs at h
  split at h
  · cases h
  · obtain ⟨_, -, rfl⟩ := List.mem_map.mp h
    rfl

theorem calls_inScope (records : List CallRecord) :
    ∀ c ∈ records.map CallRecord.toHistoryCall, ∃ t, InScope c t := by
  intro c hc
  obtain ⟨r, -, rfl⟩ := List.mem_map.mp hc
  exact ⟨r.toolName, rfl, rfl, rfl⟩

/-- Every row that a run makes is well formed, once its references are kept. -/
theorem CallRecord.wellFormed {record : CallRecord} {refs : List EvidenceRef}
    (h : record.refs ⊆ refs) : WellFormed refs record.toHistoryCall record.toolName := by
  by_cases hs : record.result.executionStatus = .success
  · exact .success (FaultFreeWorld.clean_record hs h)
  · obtain ⟨havail, -⟩ := record.result.failedEnvelope hs
    refine .failure ⟨rfl, rfl, rfl⟩ ?_ (congrArg some havail)
    cases e : record.result.executionStatus with
    | success => exact absurd e hs
    | retryableError => exact Or.inl (congrArg some e)
    | nonRetryableError => exact Or.inr (congrArg some e)

end Rows

/-! ### A read that is due -/

omit [ProofDigest] [ResultDigest] in
/-- The tool of a read that is due is relevant and unanswered, in a run whose rows are clean. -/
theorem InvestigationGraph.Due.unanswered {c : Coordinator}
    (hdue : InvestigationGraph.Due trusted c tool)
    (hlast : ∀ d ∈ c.pendingRetry, ∃ last, c.records.getLast? = some last ∧
      InvestigationGraph.Failed last d)
    (hclean : (passOver trusted.caseId trusted.runId trusted.canonicalIssueType c.evidenceRefs none
      (c.records.map CallRecord.toHistoryCall)).terminal = []) :
    requirementRegistry trusted.canonicalIssueType tool.requirement ≠ .notRequired ∧
      ((passOver trusted.caseId trusted.runId trusted.canonicalIssueType c.evidenceRefs none
        (c.records.map CallRecord.toHistoryCall)).states tool.requirement).status.satisfied
          = false := by
  cases hdue with
  | fresh hclear hunread =>
    obtain ⟨-, hrel, hrows⟩ := Finset.mem_filter.mp hunread
    refine ⟨hrel, ?_⟩
    rw [passOver_unread fun call hcall => ?_]
    · rfl
    · obtain ⟨r, hr, rfl⟩ := List.mem_map.mp hcall
      exact ⟨r.toolName, ⟨rfl, rfl, rfl⟩, by simpa using hrows r hr⟩
  | retry d hpending hname =>
    obtain ⟨last, hlast, hfailed⟩ := hlast d hpending
    obtain ⟨rows, hrows⟩ := List.getLast?_eq_some_iff.mp hlast
    obtain rfl : last.toolName = tool := hfailed.toolName.symm.trans hname
    have hscope : InScope last.toHistoryCall last.toolName := ⟨rfl, rfl, rfl⟩
    have hstatus : last.toHistoryCall.executionStatus = some .retryableError :=
      congrArg some ((Coordinator.transientFailure_iff last.result).mp hfailed.transient)
    have havail : last.toHistoryCall.evidenceAvailability = some .unavailable :=
      congrArg some (last.result.failedEnvelope (by
        rw [(Coordinator.transientFailure_iff last.result).mp hfailed.transient]; decide)).1
    rw [hrows, List.map_append, List.map_singleton, passOver_concat] at hclean ⊢
    by_cases hrel : requirementRegistry trusted.canonicalIssueType last.toolName.requirement
        = .notRequired
    · rw [step_of_irrelevant hscope hrel] at hclean
      simp [Pass.addTerminal] at hclean
    · rw [step_of_none hscope hrel]
      exact ⟨hrel, (reduceOutcome_failed hstatus havail).2⟩

omit [ProofDigest] [ResultDigest] in
/-- A read that is due keeps clean rows clean, and makes no others clean. -/
theorem cleanRows_read {c : Coordinator} (hnumbered : RowsNumbered trusted.runId c.records)
    (hlast : ∀ d ∈ c.pendingRetry, ∃ last, c.records.getLast? = some last ∧
      InvestigationGraph.Failed last d) {record : CallRecord}
    (hdue : InvestigationGraph.Due trusted c record.toolName)
    (hid : record.toolCallId = ⟨trusted.runId, c.records.length⟩) :
    CleanRows trusted (c.records ++ [record]) (c.evidenceRefs ++ record.refs) ↔
      CleanRows trusted c.records c.evidenceRefs := by
  have hrefs : passOver trusted.caseId trusted.runId trusted.canonicalIssueType
      (c.evidenceRefs ++ record.refs) none (c.records.map CallRecord.toHistoryCall) =
      passOver trusted.caseId trusted.runId trusted.canonicalIssueType c.evidenceRefs none
        (c.records.map CallRecord.toHistoryCall) := by
    refine passOver_refs fun call hcall ref href => ?_
    obtain ⟨r, hr, rfl⟩ := List.mem_map.mp hcall
    rw [CallRecord.refs_id href, hid]
    exact hnumbered.ne_next hr
  unfold CleanRows Coordinator.rebuildProgress
  rw [rebuild_clean_iff, rebuild_clean_iff, List.map_append, List.map_singleton, passOver_concat,
    hrefs]
  constructor
  · intro hclean
    obtain ⟨codes, hcodes, -⟩ := step_adds (show InScope record.toHistoryCall record.toolName from
      ⟨rfl, rfl, rfl⟩)
    rw [hcodes] at hclean
    exact (List.append_eq_nil_iff.mp hclean).1
  · intro hclean
    obtain ⟨hrel, hopen⟩ := hdue.unanswered hlast hclean
    rw [step_quiet (CallRecord.wellFormed (List.subset_append_right _ _)) hrel hopen]
    exact hclean

omit [ProofDigest] [ResultDigest] in
/-- A retry that is due for the last row leaves the codes of the rows as they are. -/
theorem cleanRows_pending {rows : List CallRecord} {last : CallRecord}
    (hnumbered : RowsNumbered trusted.runId (rows ++ [last])) (hactual : last.actualExecution)
    (hattempt : last.attemptNumber = 1) (htransient : transientFailure last.result)
    (progress : EvidenceProgressSnapshot) :
    (Coordinator.rebuildProgress trusted (rows ++ [last]) refs
        (some (Coordinator.issueExactRetry last progress))).terminalTriggerCodes = [] ↔
      CleanRows trusted (rows ++ [last]) refs := by
  obtain ⟨hrows, hid⟩ := hnumbered.init
  have hstatus := (Coordinator.transientFailure_iff last.result).mp htransient
  have horigin : Origin (Coordinator.issueExactRetry last progress) last.toHistoryCall
      last.toolName :=
    { scope := ⟨rfl, rfl, rfl⟩
      names := rfl
      executed := hactual
      first := hattempt
      identity := by simp [sameIdentity, Coordinator.issueExactRetry, CallRecord.toHistoryCall]
      failed := congrArg some hstatus
      unavailable := congrArg some (last.result.failedEnvelope (by rw [hstatus]; decide)).1 }
  unfold CleanRows Coordinator.rebuildProgress
  rw [List.map_append, List.map_singleton]
  refine rebuild_pending_iff (calls_inScope rows) (fun call hcall => ?_) horigin
  obtain ⟨r, hr, rfl⟩ := List.mem_map.mp hcall
  have hnext : last.toolCallId ≠ r.toolCallId := hid ▸ hrows.ne_next hr
  exact hnext

/-! ### One step -/

/-- What holds before every node of a run that was started on clean rows, or was not. -/
structure Intact (trusted : TrustedToolContext) (clean : Prop) (node : GraphNode)
    (s : InvestigationState) : Prop where
  loop : InvestigationGraph.Loop trusted node s.coordinator
  cache : s.governed.cache.Built
  numbered : RowsNumbered trusted.runId s.coordinator.records
  rows : CleanRows trusted s.coordinator.records s.coordinator.evidenceRefs ↔ clean
  progress : ∃ pending, s.coordinator.progress = Coordinator.rebuildProgress trusted
    s.coordinator.records s.coordinator.evidenceRefs pending
  codes : s.coordinator.progress.terminalTriggerCodes = [] ↔ clean

namespace Intact

variable {clean : Prop} {x : NodeExecution} {xs : List NodeExecution} {env : List Surroundings}

omit [ProofDigest] [ResultDigest] in
/-- Every conflict has left a code. -/
theorem conflict (h : Intact trusted clean node s) {code : EvidenceRequirementCode}
    (hcode : (s.coordinator.progress.requirements code).status = .conflict) : ¬ clean := by
  obtain ⟨pending, hprogress⟩ := h.progress
  intro hclean
  have hcodes := h.codes.mpr hclean
  rw [hprogress] at hcode hcodes
  exact rebuild_conflict (calls_inScope _) hcode hcodes

omit [ResultDigest] in
theorem callModel (h : Intact trusted clean .agent s)
    (hstep : InvestigationGraph.callModel catalog trusted selector s = .ok (next, s')) :
    Intact trusted clean next s' := by
  obtain ⟨hsame, hcache, -⟩ := InvestigationGraph.callModel_spec hstep
  refine ⟨(InvestigationGraph.callModel_lowers h.loop hstep).1, ?_, ?_, ?_, ?_, ?_⟩
  · rw [hcache]
    exact h.cache
  · rw [hsame.records]
    exact h.numbered
  · rw [hsame.records, hsame.evidenceRefs]
    exact h.rows
  · rw [hsame.records, hsame.evidenceRefs, hsame.progress]
    exact h.progress
  · rw [hsame.progress]
    exact h.codes

theorem afterCall {record : CallRecord} {governed : GovernedState}
    (h : Intact trusted clean (.tools tool arguments) s)
    (hread : InvestigationGraph.traceRead catalog trusted s tool arguments =
      (.ok record, governed)) :
    Intact trusted clean .agent (InvestigationGraph.afterCall trusted s governed record) := by
  obtain ⟨htraced, hcache⟩ := InvestigationGraph.traceRead_traced h.cache hread
  obtain ⟨result, -, hrecord⟩ := InvestigationGraph.traceRead_ok hread
  have hid : record.toolCallId = ⟨trusted.runId, s.coordinator.records.length⟩ :=
    congrArg CallRecord.toolCallId hrecord
  have htool : record.toolName = tool := congrArg CallRecord.toolName hrecord
  have hnumbered := h.numbered.concat hid
  have hrows : CleanRows trusted (s.coordinator.records ++ [record])
      (s.coordinator.evidenceRefs ++ record.refs) ↔ clean :=
    (cleanRows_read h.numbered h.loop.pending (htool ▸ h.loop.due tool arguments rfl) hid).trans
      h.rows
  refine ⟨(InvestigationGraph.afterCall_lowers h.loop hread).1, hcache, hnumbered, hrows,
    ⟨_, rfl⟩, ?_⟩
  have hprogress : (InvestigationGraph.afterCall trusted s governed record).coordinator.progress
      = Coordinator.rebuildProgress trusted (s.coordinator.records ++ [record])
        (s.coordinator.evidenceRefs ++ record.refs) (s.coordinator.nextPendingRetry record) := rfl
  rw [hprogress, Coordinator.nextPendingRetry_eq htraced]
  split_ifs with hfailed
  · have hactual := htraced.actual ((Coordinator.transientFailure_iff record.result).mp hfailed.1)
    exact (cleanRows_pending hnumbered hactual hfailed.2 hfailed.1 _).trans hrows
  · exact hrows

/-- Every node keeps what a run was started with. -/
theorem step (h : Intact trusted clean node s) (hnode : node ≠ .finished)
    (hstep : InvestigationGraph.step catalog trusted selector node s = .ok (next, s')) :
    Intact trusted clean next s' := by
  cases node with
  | agent => exact h.callModel hstep
  | tools tool arguments =>
    obtain ⟨rfl, record, governed, hread, rfl⟩ := InvestigationGraph.step_tools hstep
    exact h.afterCall hread
  | budgetExhausted =>
    obtain ⟨rfl, rfl⟩ := Prod.mk.inj (Except.ok.inj hstep)
    exact ⟨(InvestigationGraph.step_lowers h.loop hnode hstep).1, h.cache, h.numbered, h.rows,
      h.progress, h.codes⟩
  | finished => exact absurd rfl hnode

/-- In a run on clean rows the router never stops for integrity. -/
theorem routed (h : Intact trusted clean x.node x.before) (hclean : clean) {r : RecoveryDecision}
    (hr : x.routed trusted = some r) : ¬ r.StopsForIntegrity := by
  obtain ⟨around, node, s, after⟩ := x
  unfold NodeExecution.routed at hr
  split at hr
  · rename_i tool arguments hnode
    simp only at hnode h hr
    subst hnode
    split at hr
    swap
    · cases hr
    rename_i record governed hread
    obtain rfl := Option.some.inj hr
    have hafter := h.afterCall hread
    obtain ⟨htraced, -⟩ := InvestigationGraph.traceRead_traced h.cache hread
    have hcodes : (s.coordinator.absorb trusted record record.refs).progress.terminalTriggerCodes
        = [] := hafter.codes.mpr hclean
    have hsource : ¬ ∃ d ∈ (s.coordinator.absorb trusted record record.refs).pendingRetry,
        record.sourceVersion ≠ d.sourceVersion := by
      rintro ⟨d, hd, hne⟩
      have hpending : s.coordinator.nextPendingRetry record = some d := hd
      rw [Coordinator.nextPendingRetry_eq htraced] at hpending
      split_ifs at hpending
      obtain rfl := Option.some.inj hpending
      exact hne rfl
    rintro ⟨-, hreason⟩
    unfold Coordinator.routed observationRoute at hreason
    rw [if_neg (not_not.mpr hcodes), if_neg hsource] at hreason
    split_ifs at hreason <;> simp at hreason
  · cases hr

/-- Every node of a run is executed in such a state, and leaves one. -/
theorem executes (hexecutes : InvestigationGraph.Executes trusted env node s xs)
    (h : Intact trusted clean node s) (hx : x ∈ xs) : Intact trusted clean x.node x.before ∧
      ∀ next s', x.after = .ok (next, s') → Intact trusted clean next s' := by
  induction hexecutes with
  | out => cases hx
  | done => cases hx
  | failed hnode hstep =>
    rw [List.mem_singleton.mp hx]
    exact ⟨h, fun _ _ e => by cases e⟩
  | next hnode hstep hrest ih =>
    have hnext := h.step hnode hstep
    rcases List.mem_cons.mp hx with rfl | hx
    · refine ⟨h, fun next s' e => ?_⟩
      obtain ⟨rfl, rfl⟩ := Prod.mk.inj (Except.ok.inj e)
      exact hnext
    · exact ih hnext hx

end Intact

/-! ### What a stopped run still reads -/

omit [ProofDigest] [ResultDigest] in
/-- Progress with a terminal code ends a run at its next result. -/
theorem Coordinator.onToolResult_ended {c : Coordinator} {record : CallRecord} {budget : ToolBudget}
    (hcodes : (c.absorb trusted record refs).progress.terminalTriggerCodes ≠ []) :
    (c.onToolResult trusted budget record refs).terminalReason.isSome := by
  have hroute : (c.absorb trusted record refs).routed budget record =
      ⟨.safeStop, .integrityConflict⟩ := by
    unfold Coordinator.routed observationRoute
    rw [if_pos hcodes]
  unfold Coordinator.onToolResult Coordinator.recover routeReason
  unfold Coordinator.routed at hroute
  simp only [hroute]
  split_ifs with hearly hcarrier
  · rfl
  · exact absurd hcarrier.2 (by simp)
  · rfl

/-- A run past its end: the rows it has added, and what it may still read, are of one tool. -/
structure ReadsOnly (tool : ReadTool) (start : List CallRecord) (node : GraphNode)
    (c : Coordinator) : Prop where
  rows : ∃ read, c.records = start ++ read ∧ ∀ r ∈ read, r.toolName = tool
  ended : c.terminalReason.isSome
  pending : ∀ d ∈ c.pendingRetry, d.toolName = tool
  next : ∀ t arguments, node = .tools t arguments → t = tool

namespace ReadsOnly

variable {start : List CallRecord} {t : ReadTool}

omit [ResultDigest] in
theorem callModel (h : ReadsOnly t start .agent s.coordinator)
    (hstep : InvestigationGraph.callModel catalog trusted selector s = .ok (next, s')) :
    ReadsOnly t start next s'.coordinator := by
  obtain ⟨hsame, -, hasks⟩ := InvestigationGraph.callModel_spec hstep
  have hended := hsame.terminalReason h.ended
  have hpending : ∀ d ∈ s'.coordinator.pendingRetry, d.toolName = t := by
    rcases hsame.pendingRetry with e | ⟨e, -⟩
    · exact e ▸ h.pending
    · rw [e]
      exact fun _ hd => by cases hd
  refine ⟨hsame.records ▸ h.rows, hended, hpending, ?_⟩
  intro tool arguments hnext
  cases hasks tool arguments hnext with
  | retry d hd => exact hpending d hd
  | select tool _ hlive =>
    rw [hlive] at hended
    cases hended

omit [ProofDigest] [ResultDigest] in
/-- A read that ends a run adds a row of its tool, and leaves at most its own retry. -/
theorem afterCall {record : CallRecord} {governed : GovernedState}
    (hrows : ∃ read, s.coordinator.records = start ++ read ∧ ∀ r ∈ read, r.toolName = t)
    (hpending : ∀ d ∈ s.coordinator.pendingRetry, d.toolName = t) (htool : record.toolName = t)
    (hended : (InvestigationGraph.afterCall trusted s governed record).coordinator
      |>.terminalReason.isSome) :
    ReadsOnly t start .agent (InvestigationGraph.afterCall trusted s governed record).coordinator := by
  obtain ⟨read, hread, hall⟩ := hrows
  refine ⟨⟨read ++ [record], ?_, ?_⟩, hended, ?_, fun _ _ e => GraphNode.noConfusion e⟩
  · rw [← List.append_assoc, ← hread]
    rfl
  · intro r hr
    rcases List.mem_append.mp hr with hr | hr
    · exact hall r hr
    · rw [List.mem_singleton.mp hr, htool]
  · intro d hd
    rcases nextPendingRetry_spec hd with ⟨hname, -⟩ | hbefore
    · rw [hname, htool]
    · exact hpending d hbefore

end ReadsOnly

namespace InvestigationGraph

variable {s₀ : InvestigationState} {clean : Prop}

/-- What a run was started with holds in every state that its pass reaches. -/
theorem PassReaches.intact (h : Intact trusted clean .agent s₀)
    (hreach : PassReaches trusted s₀ node s) : Intact trusted clean node s := by
  induction hreach with
  | start => exact h
  | @step catalog selector node node' s s' _ hstep ih =>
    by_cases hnode : node = .finished
    · subst hnode
      obtain ⟨rfl, rfl⟩ := Prod.mk.inj (Except.ok.inj hstep)
      exact ih
    · exact ih.step hnode hstep

theorem PassReaches.latest
    (h : s₀.coordinator.latestResults = Coordinator.latestOf s₀.coordinator.records)
    (hreach : PassReaches trusted s₀ node s) :
    s.coordinator.latestResults = Coordinator.latestOf s.coordinator.records := by
  induction hreach with
  | start => exact h
  | step _ hstep ih => exact step_latest ih hstep

omit [ProofDigest] [ResultDigest] in
/-- The retry that is pending when a read is due is the one of that read. -/
theorem Due.pending {c : Coordinator} (h : Due trusted c tool) :
    ∀ d ∈ c.pendingRetry, d.toolName = tool := by
  intro d hd
  cases h with
  | fresh hclear hunread =>
    rw [hclear] at hd
    cases hd
  | retry d' hpending hname =>
    obtain rfl := Option.some.inj (hpending.symm.trans hd)
    exact hname

/-- A run on rows that are not clean reads one tool at most: its first read ends it. -/
theorem PassReaches.readsOnly (h : Intact trusted clean .agent s₀) (hdirty : ¬ clean)
    (hreach : PassReaches trusted s₀ node s) :
    s.coordinator.records = s₀.coordinator.records ∨
      ∃ tool, ReadsOnly tool s₀.coordinator.records node s.coordinator := by
  induction hreach with
  | start => exact Or.inl rfl
  | @step catalog selector node node' s s' hreach hstep ih =>
    cases node with
    | agent =>
      rcases ih with hrows | ⟨tool, honly⟩
      · exact Or.inl ((callModel_spec hstep).1.records.trans hrows)
      · exact Or.inr ⟨tool, honly.callModel hstep⟩
    | tools tool arguments =>
      obtain ⟨rfl, record, governed, hread, rfl⟩ := step_tools hstep
      have hintact := hreach.intact h
      have htool : record.toolName = tool := by
        obtain ⟨result, -, hrecord⟩ := traceRead_ok hread
        exact congrArg CallRecord.toolName hrecord
      have hended : (InvestigationGraph.afterCall trusted s governed record).coordinator
          |>.terminalReason.isSome :=
        Coordinator.onToolResult_ended fun hcodes =>
          hdirty ((hintact.afterCall hread).codes.mp hcodes)
      rcases ih with hrows | ⟨t, honly⟩
      · refine Or.inr ⟨tool, .afterCall ⟨[], by simp [hrows], by simp⟩ ?_ htool hended⟩
        exact (hintact.loop.due tool arguments rfl).pending
      · obtain rfl := honly.next tool arguments rfl
        exact Or.inr ⟨tool, .afterCall honly.rows honly.pending htool hended⟩
    | budgetExhausted =>
      obtain ⟨rfl, rfl⟩ := Prod.mk.inj (Except.ok.inj hstep)
      rcases ih with hrows | ⟨tool, honly⟩
      · exact Or.inl hrows
      · exact Or.inr ⟨tool, honly.rows, honly.ended, honly.pending,
          fun _ _ e => GraphNode.noConfusion e⟩
    | finished =>
      obtain ⟨rfl, rfl⟩ := Prod.mk.inj (Except.ok.inj hstep)
      exact ih

/-- The surroundings of a run: the sources with so many supersteps left, and one selector. -/
def surroundings (catalog : Nat → SyntheticReadToolCatalog) (selector : ObservationSelector) :
    Nat → List Surroundings
  | 0 => []
  | n + 1 => ⟨catalog (n + 1), selector⟩ :: surroundings catalog selector n

/-- A run that ends has a last node, which leaves its result. -/
theorem run_last {catalog : Nat → SyntheticReadToolCatalog} {n : Nat} (hnode : node ≠ .finished)
    (h : run catalog trusted selector n node s = .ok s') :
    ∃ x, (nodeExecutions trusted (surroundings catalog selector n) node s).getLast? = some x ∧
      x.after = .ok (.finished, s') := by
  induction n generalizing node s with
  | zero => cases node <;> first | exact absurd rfl hnode | cases h
  | succ n ih =>
    cases hstep : step (catalog (n + 1)) trusted selector node s with
    | error e =>
      rw [run_error catalog n hnode hstep] at h
      cases h
    | ok stepped =>
      obtain ⟨next, s₁⟩ := stepped
      rw [run_step catalog n hnode hstep] at h
      rw [surroundings, nodeExecutions.eq_3 _ _ _ _ _ hnode]
      simp only [hstep]
      by_cases hend : next = .finished
      · subst hend
        rw [run] at h
        obtain rfl := Except.ok.inj h
        refine ⟨⟨⟨catalog (n + 1), selector⟩, node, s, .ok (.finished, s₁)⟩, ?_, rfl⟩
        cases n <;> rfl
      · obtain ⟨x, hlast, hafter⟩ := ih hend h
        exact ⟨x, by rw [List.getLast?_cons, hlast, Option.getD_some], hafter⟩

end InvestigationGraph

/-- An investigation leaves a cache that reads have built up. -/
theorem investigate_built {catalog : Nat → SyntheticReadToolCatalog}
    {args : InvestigateArguments} {history : InvestigationHistory} {out : InvestigationOutput}
    (h : investigate catalog trusted selector args history = .ok out)
    (hcache : history.cache.Built) : out.cache.Built := by
  obtain ⟨budget, s, hrun, -, hout, -⟩ := investigate_ok h
  rw [hout]
  exact InvestigationGraph.run_invariant (P := fun _ cache => cache.Built) (fun _ hbuilt => hbuilt)
    (fun hbuilt _ hread => (InvestigationGraph.traceRead_traced hbuilt hread).2)
    (fun _ _ e => GraphNode.noConfusion e) hcache hrun

/-! ### Whole investigations -/

/-- An investigation that has ended: what it was started with, its graph run, and its result. The
    rows it was started with are numbered, and reads have built up its cache; otherwise any rows and
    references may be in its history. -/
structure FinishedInvestigation where
  catalog : Nat → SyntheticReadToolCatalog
  trusted : TrustedToolContext
  selector : ObservationSelector
  args : InvestigateArguments
  history : InvestigationHistory
  budget : ToolBudget
  final : InvestigationState
  output : InvestigationOutput
  counted : initialBudget args history = some budget
  ends : InvestigationGraph.run catalog trusted selector InvestigationGraph.recursionLimit .agent
    (initialState trusted history budget) = .ok final
  returns : investigate catalog trusted selector args history = .ok output
  numbered : RowsNumbered trusted.runId history.runRecords
  cache : history.cache.Built

namespace FinishedInvestigation

variable (run : FinishedInvestigation)

/-- The nodes that the graph run has executed. -/
def executions : List NodeExecution :=
  InvestigationGraph.nodeExecutions run.trusted
    (InvestigationGraph.surroundings run.catalog run.selector InvestigationGraph.recursionLimit)
    .agent (initialState run.trusted run.history run.budget)

/-- The run has ended with an integrity stop. -/
def StopsForIntegrity : Prop := IntegrityStop run.trusted run.executions run.final

/-- The rows that the run was started with leave no terminal code. -/
def StartsClean : Prop := CleanRows run.trusted run.history.runRecords run.history.runRefs

/-- The start of a run is as clean as its rows. -/
theorem intact_start : Intact run.trusted run.StartsClean .agent
    (initialState run.trusted run.history run.budget) := by
  have hprogress : ∃ pending, (initialState run.trusted run.history run.budget).coordinator.progress
      = Coordinator.rebuildProgress run.trusted run.history.runRecords run.history.runRefs pending := by
    simp only [initialState, Coordinator.init]
    split_ifs
    · exact ⟨_, rfl⟩
    · exact ⟨none, rfl⟩
  refine ⟨InvestigationGraph.Loop.start _ _ _, run.cache, run.numbered, Iff.rfl, hprogress, ?_⟩
  have hnone : ((Coordinator.rebuildProgress run.trusted run.history.runRecords
      run.history.runRefs none).terminalTriggerCodes = [] ↔ run.StartsClean) := Iff.rfl
  simp only [initialState, Coordinator.init]
  split
  · rename_i last hlast
    obtain ⟨rows, hrows⟩ := List.getLast?_eq_some_iff.mp hlast
    split
    · rename_i hfailed
      have hpending : ∀ progress, (Coordinator.rebuildProgress run.trusted run.history.runRecords
          run.history.runRefs (some (Coordinator.issueExactRetry last progress))).terminalTriggerCodes
            = [] ↔ run.StartsClean := by
        intro progress
        rw [StartsClean, hrows]
        exact cleanRows_pending (hrows ▸ run.numbered) hfailed.1 hfailed.2.1 hfailed.2.2 progress
      simp only [Option.isSome_some, if_true]
      exact hpending _
    · exact hnone
  · exact hnone

/-- A run stops for integrity exactly when it was started on rows that leave a terminal code. -/
theorem stops_iff : run.StopsForIntegrity ↔ ¬ run.StartsClean := by
  have hexecutes := InvestigationGraph.nodeExecutions_executes run.trusted
    (InvestigationGraph.surroundings run.catalog run.selector InvestigationGraph.recursionLimit)
    .agent (initialState run.trusted run.history run.budget)
  obtain ⟨x, hlast, hafter⟩ := InvestigationGraph.run_last (by simp) run.ends
  have hfinal := (Intact.executes hexecutes run.intact_start (List.mem_of_getLast? hlast)).2 _ _
    hafter
  constructor
  · rintro (hcodes | ⟨code, hcode⟩ | ⟨r, hr, hstops⟩)
    · exact fun hclean => hcodes (hfinal.codes.mpr hclean)
    · exact hfinal.conflict hcode
    · intro hclean
      obtain ⟨y, hy, hrouted⟩ := List.mem_filterMap.mp (List.mem_of_getLast? hr)
      exact (Intact.executes hexecutes run.intact_start hy).1.routed hclean hrouted hstops
  · exact fun hdirty => Or.inl fun hcodes => hdirty (hfinal.codes.mp hcodes)

/-- The states of a graph run are reached one by one. -/
theorem reaches : ∃ node, InvestigationGraph.PassReaches run.trusted
    (initialState run.trusted run.history run.budget) node run.final :=
  InvestigationGraph.PassReaches.start.of_run run.ends

/-- The results of a run are the latest ones of its rows. -/
theorem latestResults_eq :
    run.final.coordinator.latestResults = Coordinator.latestOf run.final.coordinator.records := by
  obtain ⟨node, hreach⟩ := run.reaches
  refine hreach.latest ?_
  simp only [initialState, Coordinator.init]

/-! ### What the gate says of a stopped run -/

/-- The gate result of a run that is resumed without a new call: the one it had recorded. -/
def recordedGate : Option EvidenceGateResult :=
  if run.args.investigationPass = 0 ∧
      run.final.coordinator.records.length = run.history.runRecords.length then
    run.history.persistedGate
  else none

/-- A proposal at the end of a graph run: the recorded one, or one that its rows carry. -/
def EndsWithProposal : Prop :=
  match run.recordedGate with
  | some recorded => recorded.Proposes
  | none => CarriesProposal run.trusted.canonicalIssueType
      (Coordinator.latestOf run.final.coordinator.records)
      (gateArguments (run.catalog 0) run.trusted run.args.flags run.final)

/-- A run adds rows of one tool at most. -/
def ReadsOneTool : Prop :=
  ∃ tool read, run.final.coordinator.records = run.history.runRecords ++ read ∧
    ∀ r ∈ read, r.toolName = tool

/-- A read that the rows of a history answer with a completed result. -/
def AnsweredBefore (tool : ReadTool) : Prop :=
  ∃ r ∈ Coordinator.latestOf run.history.runRecords tool, r.head.Completed

/-- A history that one more read does not complete: two reads that the issue requires are missing,
    and no proposal is recorded. -/
def LacksTwo : Prop :=
  (∃ a ∈ requiredObservationTools run.trusted.canonicalIssueType,
    ∃ b ∈ requiredObservationTools run.trusted.canonicalIssueType,
      a ≠ b ∧ ¬ run.AnsweredBefore a ∧ ¬ run.AnsweredBefore b) ∧
    ∀ recorded ∈ run.history.persistedGate, ¬ recorded.Proposes

theorem proposes_iff : run.output.gateResult.Proposes ↔ run.EndsWithProposal := by
  have hreturns := run.returns
  unfold investigate at hreturns
  simp only [run.counted, run.ends] at hreturns
  rw [← Except.ok.inj hreturns]
  simp only [EndsWithProposal, recordedGate, run.latestResults_eq, decide_eq_true_eq]
  split_ifs with hresumed
  · cases run.history.persistedGate with
    | none => exact evaluateGate_proposes_iff
    | some recorded => exact Iff.rfl
  · exact evaluateGate_proposes_iff

/-- A stopped run makes at most the read it was about to make, and its retry. -/
theorem readsOneTool (hdirty : ¬ run.StartsClean) : run.ReadsOneTool := by
  obtain ⟨node, hreach⟩ := run.reaches
  rcases hreach.readsOnly run.intact_start hdirty with hrows | ⟨tool, honly⟩
  · exact ⟨.getOrderContext, [], by rw [List.append_nil]; exact hrows, by simp⟩
  · exact ⟨tool, honly.rows⟩

omit [ProofDigest] [ResultDigest] in
/-- Rows of one tool change the latest result of no other. -/
theorem latestOf_append_other {rows read : List CallRecord} {t : ReadTool}
    (hread : ∀ r ∈ read, r.toolName = t) (htool : tool ≠ t) :
    Coordinator.latestOf (rows ++ read) tool = Coordinator.latestOf rows tool := by
  induction read using List.reverseRecOn with
  | nil => rw [List.append_nil]
  | append_singleton read r ih =>
    have hr := hread r (by simp)
    rw [← List.append_assoc, latestOf_concat, Function.update_of_ne (hr ▸ htool)]
    exact ih fun x hx => hread x (List.mem_append_left _ hx)

/-- A stopped run whose history lacks two reads does not propose: the gate asks for both. -/
theorem lacksTwo_stays (hdirty : ¬ run.StartsClean) (hlacks : run.LacksTwo) :
    ¬ run.EndsWithProposal := by
  obtain ⟨⟨a, ha, b, hb, hne, hopenA, hopenB⟩, hrecorded⟩ := hlacks
  obtain ⟨t, read, hrows, hread⟩ := run.readsOneTool hdirty
  have hstays : ∀ tool, tool ≠ t → (∃ r ∈ Coordinator.latestOf run.final.coordinator.records tool,
      r.head.Completed) → run.AnsweredBefore tool := by
    intro tool htool hdone
    rw [hrows, latestOf_append_other hread htool] at hdone
    exact hdone
  unfold EndsWithProposal
  split
  · rename_i recorded hgate
    unfold recordedGate at hgate
    split_ifs at hgate
    exact hrecorded recorded hgate
  · intro hcarries
    by_cases hat : a = t
    · exact hopenB (hstays b (fun hbt => hne (hat.trans hbt.symm)) (hcarries.completed hb))
    · exact hopenA (hstays a hat (hcarries.completed ha))

end FinishedInvestigation

end AfterSales

namespace AfterSales.FinishedInvestigation
open RevisedRun

section RevisedWithProof

attribute [local instance] PolicyDigest.bySource ProofDigest.byId ResultDigest.byName

/-- The state that a graph run ends in. -/
def endedIn (e : Except GraphFailure InvestigationState) (h : e.toOption.isSome) :
    InvestigationState := e.toOption.get h

theorem endedIn_eq {e : Except GraphFailure InvestigationState} (h : e.toOption.isSome) :
    e = .ok (endedIn e h) := by
  cases e with
  | error _ => cases h
  | ok s => rfl

/-- The first pass reads the proof of delivery, and then the order, which shows another issue. -/
def proofPass : InvestigationOutput :=
  ended (firstPassOf [] [.getDeliveryProof, .getLogisticsTimeline, .getExistingLogisticsTickets,
    .getOrderContext]) (by decide +kernel)

theorem proofPass_ok : firstPassOf [] [.getDeliveryProof, .getLogisticsTimeline,
    .getExistingLogisticsTickets, .getOrderContext] = .ok proofPass := ended_eq _

/-- The pass under the revised issue starts with the rows of the first, and reads the policy. -/
def revisedWithProof : FinishedInvestigation where
  catalog := fun _ => shippedCatalog []
  trusted := { missingReport with canonicalIssueType := .stalledTracking }
  selector := followOrder [.searchAfterSalesPolicy]
  args :=
    { casePlanningTurns := proofPass.casePlanningTurns
      runPlanningTurns := proofPass.planningTurns
      caseReadExecutions := proofPass.actualReadToolExecutions
      investigationPass := 1 }
  history := ⟨proofPass.records, proofPass.records, proofPass.evidenceRefs, proofPass.cache,
    some proofPass.gateResult⟩
  budget := (initialBudget _ _).get (by decide +kernel)
  final := endedIn _ (by decide +kernel)
  output := ended (secondPassOf [] [.searchAfterSalesPolicy] proofPass) (by decide +kernel)
  counted := (Option.some_get _).symm
  ends := endedIn_eq _
  returns := ended_eq _
  numbered := by decide +kernel
  cache := investigate_built proofPass_ok .empty

/-- The first pass reads the proof and the order, and nothing else. -/
def shortPass : InvestigationOutput :=
  ended (firstPassOf [] [.getDeliveryProof, .getOrderContext]) (by decide +kernel)

theorem shortPass_ok : firstPassOf [] [.getDeliveryProof, .getOrderContext] = .ok shortPass :=
  ended_eq _

/-- The pass under the revised issue still reads the policy, but no timeline and no tickets. -/
def revisedTooEarly : FinishedInvestigation where
  catalog := fun _ => shippedCatalog []
  trusted := { missingReport with canonicalIssueType := .stalledTracking }
  selector := followOrder [.searchAfterSalesPolicy]
  args :=
    { casePlanningTurns := shortPass.casePlanningTurns
      runPlanningTurns := shortPass.planningTurns
      caseReadExecutions := shortPass.actualReadToolExecutions
      investigationPass := 1 }
  history := ⟨shortPass.records, shortPass.records, shortPass.evidenceRefs, shortPass.cache,
    some shortPass.gateResult⟩
  budget := (initialBudget _ _).get (by decide +kernel)
  final := endedIn _ (by decide +kernel)
  output := ended (secondPassOf [] [.searchAfterSalesPolicy] shortPass) (by decide +kernel)
  counted := (Option.some_get _).symm
  ends := endedIn_eq _
  returns := ended_eq _
  numbered := by decide +kernel
  cache := investigate_built shortPass_ok .empty

end RevisedWithProof

end AfterSales.FinishedInvestigation
