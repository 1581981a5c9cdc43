import AfterSales.Investigation.RunRules
import AfterSales.Policy.Proposals
import AfterSales.Tools.CaseMemory

/-! Evidence after an issue revision.

    When the order contradicts the reported issue, the case is investigated again under the revised
    issue, in the same run. The second pass starts from the rows of the first, and progress knows
    rows by their tool alone. So a ticket list read for the old issue still answers the requirement
    of the new one, and the validator keeps the selector from reading it again. A policy read for
    the old issue is kept in the same way, but the gate compares the issue of its facts. -/

namespace AfterSales

variable [PolicyDigest]

/-! ### The rows of a run and its results -/

theorem latestOf_concat (records : List CallRecord) (r : CallRecord) :
    Coordinator.latestOf (records ++ [r]) =
      Function.update (Coordinator.latestOf records) r.toolName (some r.result) := by
  simp [Coordinator.latestOf]

theorem argumentsByTool_concat (records : List CallRecord) (r : CallRecord) (tool : ReadTool) :
    argumentsByTool (records ++ [r]) tool =
      if r.toolName = tool then some r.normalizedArgs else argumentsByTool records tool := by
  unfold argumentsByTool
  by_cases h : r.toolName = tool <;> simp [h]

/-- What holds of every row holds of the latest result of a tool and the arguments it was read
    with. -/
theorem latestOf_some {P : (tool : ReadTool) → ToolArguments → ToolResult (PayloadOf tool) → Prop}
    {records : List CallRecord} (hrows : ∀ r ∈ records, P r.toolName r.normalizedArgs r.result)
    {tool : ReadTool} {result : ToolResult (PayloadOf tool)}
    (h : Coordinator.latestOf records tool = some result) :
    ∃ arguments, argumentsByTool records tool = some arguments ∧ P tool arguments result := by
  induction records using List.reverseRecOn with
  | nil => cases h
  | append_singleton records r ih =>
    rw [latestOf_concat] at h
    rw [argumentsByTool_concat]
    by_cases e : r.toolName = tool
    · subst e
      rw [Function.update_self, Option.some.injEq] at h
      subst h
      exact ⟨_, if_pos rfl, hrows r (by simp)⟩
    · rw [Function.update_of_ne (Ne.symm e)] at h
      rw [if_neg e]
      exact ih (fun x hx => hrows x (List.mem_append_left _ hx)) h

/-! ### What a case has read -/

variable [ProofDigest] [ResultDigest]

/-- One row of `_load_case_cache`: an actual attempt is counted, and its result kept when the
    source has not changed since. -/
def restoreRow (catalog : SyntheticReadToolCatalog) (caseId : String) (cache : CaseToolCache)
    (row : CallRecord) : CaseToolCache :=
  if ¬ row.actualExecution ∨ row.normalizedArgs.orderId = "" then cache
  else
    let revision := (catalog.sourceRevision row.normalizedArgs.orderId row.toolName).getD ""
    let key : ToolCacheKey := ⟨caseId, row.toolName, row.normalizedArgs, revision⟩
    let cache := (cache.recordActualAttempt key).2
    if row.sourceVersion ≠ revision then cache else cache.store key row.result

/-- `_load_case_cache`. -/
def loadCaseCache (catalog : SyntheticReadToolCatalog) (caseId : String)
    (rows : List CallRecord) : CaseToolCache :=
  rows.foldl (restoreRow catalog caseId) .empty

/-- The rows a case can have and the cache that belongs to them: both grow by governed reads, a read
    that raises leaves no row, and a restart rebuilds the cache from the rows. -/
inductive CaseReads : List CallRecord → CaseToolCache → Prop
  | none : CaseReads [] .empty
  | read {rows : List CallRecord} {catalog : SyntheticReadToolCatalog}
      {trusted : TrustedToolContext} {s : InvestigationState} {tool : ReadTool}
      {arguments : ToolArguments} {record : CallRecord} {governed : GovernedState}
      (h : CaseReads rows s.governed.cache)
      (hread : InvestigationGraph.traceRead catalog trusted s tool arguments =
        (.ok record, governed)) :
      CaseReads (rows ++ [record]) governed.cache
  | raise {rows : List CallRecord} {catalog : SyntheticReadToolCatalog}
      {trusted : TrustedToolContext} {s : InvestigationState} {tool : ReadTool}
      {arguments : ToolArguments} {e : ValidationError} {governed : GovernedState}
      (h : CaseReads rows s.governed.cache)
      (hread : InvestigationGraph.traceRead catalog trusted s tool arguments =
        (.error e, governed)) :
      CaseReads rows governed.cache
  | restart {rows : List CallRecord} {cache : CaseToolCache} {catalog : SyntheticReadToolCatalog}
      {caseId : String} (h : CaseReads rows cache) :
      CaseReads rows (loadCaseCache catalog caseId rows)

/-- A read that raises is one of the governed executor that raises. -/
theorem traceRead_error {catalog : SyntheticReadToolCatalog} {trusted : TrustedToolContext}
    {s : InvestigationState} {tool : ReadTool} {arguments : ToolArguments} {e : ValidationError}
    {governed : GovernedState}
    (h : InvestigationGraph.traceRead catalog trusted s tool arguments = (.error e, governed)) :
    GovernedToolExecutor.executeResult catalog trusted s.governed tool arguments =
      (.error e, governed) := by
  unfold InvestigationGraph.traceRead at h
  generalize GovernedToolExecutor.executeResult catalog trusted s.governed tool arguments = called
    at h ⊢
  obtain ⟨answer, after⟩ := called
  obtain ⟨hanswer, rfl⟩ := Prod.mk.inj h
  cases answer with
  | error raised => rw [Except.error.inj hanswer]
  | ok result => cases hanswer

omit [ResultDigest] in
/-- A cache rebuilt from rows that answer their queries answers them too. -/
theorem loadCaseCache_answers {catalog : SyntheticReadToolCatalog} {caseId : String}
    {rows : List CallRecord}
    (hrows : ∀ r ∈ rows, AnswersQuery r.toolName r.normalizedArgs r.result) :
    (loadCaseCache catalog caseId rows).Answers := by
  unfold loadCaseCache
  suffices h : ∀ (rows : List CallRecord) (cache : CaseToolCache),
      (∀ r ∈ rows, AnswersQuery r.toolName r.normalizedArgs r.result) → cache.Answers →
      (rows.foldl (restoreRow catalog caseId) cache).Answers from
    h rows .empty hrows CaseToolCache.answers_empty
  intro rows
  induction rows with
  | nil => exact fun _ _ h => h
  | cons row rows ih =>
    intro cache hrows hcache
    rw [List.foldl_cons]
    refine ih _ (fun r hr => hrows r (List.mem_cons_of_mem _ hr)) ?_
    unfold restoreRow
    split
    · exact hcache
    · simp only
      split
      · exact hcache.recordActualAttempt _
      · exact (hcache.recordActualAttempt _).store (hrows row List.mem_cons_self)

/-- Every row of a case answers its query, and so does what its cache holds. -/
theorem CaseReads.answers {rows : List CallRecord} {cache : CaseToolCache}
    (h : CaseReads rows cache) :
    (∀ r ∈ rows, AnswersQuery r.toolName r.normalizedArgs r.result) ∧ cache.Answers := by
  induction h with
  | none => exact ⟨by simp, CaseToolCache.answers_empty⟩
  | @read rows catalog trusted s tool arguments record governed _ hread ih =>
    obtain ⟨result, hexec, rfl⟩ := InvestigationGraph.traceRead_ok hread
    obtain ⟨hanswer, hcache⟩ := GovernedToolExecutor.executeResult_answers ih.2 hexec
    refine ⟨?_, hcache⟩
    intro x hx
    rcases List.mem_append.mp hx with hx | hx
    · exact ih.1 x hx
    · rw [List.mem_singleton.mp hx]
      exact hanswer result rfl
  | @raise rows catalog trusted s tool arguments e governed _ hread ih =>
    exact ⟨ih.1, (GovernedToolExecutor.executeResult_answers ih.2 (traceRead_error hread)).2⟩
  | @restart rows cache catalog caseId _ ih =>
    refine ⟨ih.1, ?_⟩
    exact loadCaseCache_answers ih.1

/-! ### What a pass keeps -/

/-- The results of a pass are those of its rows, after every superstep. -/
theorem InvestigationGraph.step_latest {catalog : SyntheticReadToolCatalog}
    {trusted : TrustedToolContext} {selector : ObservationSelector} {node node' : GraphNode}
    {s s' : InvestigationState}
    (h : s.coordinator.latestResults = Coordinator.latestOf s.coordinator.records)
    (hstep : step catalog trusted selector node s = .ok (node', s')) :
    s'.coordinator.latestResults = Coordinator.latestOf s'.coordinator.records := by
  cases node with
  | agent =>
    have hsame := (callModel_spec hstep).1
    rw [hsame.latestResults, hsame.records, h]
  | tools tool arguments =>
    obtain ⟨-, record, governed, -, rfl⟩ := step_tools hstep
    show Function.update s.coordinator.latestResults _ _ = Coordinator.latestOf
      (s.coordinator.records ++ [_])
    rw [latestOf_concat, h]
  | budgetExhausted | finished =>
    obtain ⟨-, rfl⟩ := Prod.mk.inj (Except.ok.inj hstep)
    exact h

omit [ProofDigest] [ResultDigest] in
/-- A retry that is due after a read repeats that read, or was due before it. -/
theorem nextPendingRetry_spec {c : Coordinator} {record : CallRecord} {d : RetryDirective}
    (h : c.nextPendingRetry record = some d) :
    (d.toolName = record.toolName ∧ d.canonicalArguments = record.normalizedArgs) ∨
      c.pendingRetry = some d := by
  unfold Coordinator.nextPendingRetry at h
  split at h
  · obtain rfl := Option.some.inj h
    exact Or.inl ⟨rfl, rfl⟩
  · split at h
    · cases h
    · split at h
      · cases h
      · exact Or.inr h

/-- The rows of a pass extend those it started from, belong to the case, and are of valid queries
    when they succeeded; the results are the latest ones. -/
structure PassRows (trusted : TrustedToolContext) (caseRows runRows : List CallRecord)
    (c : Coordinator) (cache : CaseToolCache) : Prop where
  rows : ∃ read, c.records = runRows ++ read ∧ CaseReads (caseRows ++ read) cache ∧
    ∀ r ∈ read, r.result.executionStatus = .success →
      GovernedToolExecutor.validateArguments trusted r.toolName r.normalizedArgs = none
  latest : c.latestResults = Coordinator.latestOf c.records

theorem PassRows.run {trusted : TrustedToolContext} {caseRows runRows : List CallRecord}
    {catalog : Nat → SyntheticReadToolCatalog} {selector : ObservationSelector} {n : Nat}
    {s s' : InvestigationState} (h : PassRows trusted caseRows runRows s.coordinator s.governed.cache)
    (hrun : InvestigationGraph.run catalog trusted selector n .agent s = .ok s') :
    PassRows trusted caseRows runRows s'.coordinator s'.governed.cache := by
  refine InvestigationGraph.run_invariant (P := PassRows trusted caseRows runRows) ?_ ?_
    (fun _ _ e => GraphNode.noConfusion e) h hrun
  · intro c c' cache hsame h
    exact ⟨hsame.records ▸ h.rows, by rw [hsame.latestResults, hsame.records, h.latest]⟩
  · intro catalog s tool arguments record governed h _ hread
    obtain ⟨read, hrecords, hreads, hvalid⟩ := h.rows
    refine ⟨⟨read ++ [record], ?_, ?_, ?_⟩, ?_⟩
    · exact (congrArg (· ++ _) hrecords).trans (List.append_assoc _ _ _)
    · rw [← List.append_assoc]
      exact .read hreads hread
    · intro x hx
      rcases List.mem_append.mp hx with hx | hx
      · exact hvalid x hx
      · rw [List.mem_singleton.mp hx]
        obtain ⟨result, hexec, rfl⟩ := InvestigationGraph.traceRead_ok hread
        exact GovernedToolExecutor.valid_of_success hexec
    · show Function.update s.coordinator.latestResults _ _ = Coordinator.latestOf
        (s.coordinator.records ++ [_])
      rw [latestOf_concat, h.latest]

/-- The progress of a live pass is the one its rows show. -/
def UpToDate (trusted : TrustedToolContext) (c : Coordinator) : Prop :=
  c.terminalReason.isSome ∨
    c.progress = Coordinator.rebuildProgress trusted c.records c.evidenceRefs c.pendingRetry

/-- A property of queries that all rows and the pending retry of a pass have. -/
structure AllQueries (Q : ReadTool → ToolArguments → Prop) (c : Coordinator) : Prop where
  rows : ∀ r ∈ c.records, Q r.toolName r.normalizedArgs
  retry : ∀ d ∈ c.pendingRetry, Q d.toolName d.canonicalArguments

/-- All queries of a pass have a property when those it starts with have it and every read that a
    selector can still ask for has it. -/
theorem AllQueries.run {Q : ReadTool → ToolArguments → Prop} {trusted : TrustedToolContext}
    {runRows : List CallRecord}
    (hselect : ∀ (c : Coordinator) (tool : ReadTool), runRows <+: c.records →
      (Coordinator.rebuildProgress trusted c.records c.evidenceRefs none
        |>.requirements tool.requirement).status ∈ [EvidenceProgressStatus.missing, .retryPending] →
      Q tool ⟨trusted.authorizedOrderId,
        if tool.takesIssue then some trusted.canonicalIssueType else none⟩)
    {catalog : Nat → SyntheticReadToolCatalog} {selector : ObservationSelector} {n : Nat}
    {s s' : InvestigationState} (hrows : runRows <+: s.coordinator.records)
    (hdate : UpToDate trusted s.coordinator) (h : AllQueries Q s.coordinator)
    (hrun : InvestigationGraph.run catalog trusted selector n .agent s = .ok s') :
    AllQueries Q s'.coordinator := by
  refine (InvestigationGraph.run_invariant (P := fun c _ => runRows <+: c.records ∧
    UpToDate trusted c ∧ AllQueries Q c) ?_ ?_ (fun _ _ e => GraphNode.noConfusion e)
    ⟨hrows, hdate, h⟩ hrun).2.2
  · rintro c c' cache hsame ⟨hrows, hdate, h⟩
    refine ⟨hsame.records ▸ hrows, ?_, hsame.records ▸ h.rows, ?_⟩
    · rcases hdate with hdate | hdate
      · exact Or.inl (hsame.terminalReason hdate)
      · rcases hsame.pendingRetry with e | ⟨-, hterminal⟩
        · exact Or.inr (by rw [hsame.progress, hdate, hsame.records, hsame.evidenceRefs, e])
        · exact Or.inl hterminal
    · rcases hsame.pendingRetry with e | ⟨e, -⟩
      · exact e ▸ h.retry
      · rw [e]
        exact fun _ hd => by cases hd
  · rintro catalog s tool arguments record governed ⟨hrows, hdate, h⟩ hasks hread
    obtain ⟨result, -, hrecord⟩ := InvestigationGraph.traceRead_ok hread
    have hquery : Q record.toolName record.normalizedArgs := by
      rw [hrecord]
      show Q tool arguments
      cases hasks with
      | retry d hpending => exact h.retry d hpending
      | select tool hclear hlive hopen =>
        refine hselect s.coordinator tool hrows ?_
        rcases hdate with hdate | hdate
        · rw [hlive] at hdate
          cases hdate
        · rwa [hdate, hclear] at hopen
    refine ⟨hrows.trans (List.prefix_append _ _), Or.inr rfl, fun r hr => ?_, fun d hd => ?_⟩
    · rcases List.mem_append.mp hr with hr | hr
      · exact h.rows r hr
      · rw [List.mem_singleton.mp hr]
        exact hquery
    · rcases nextPendingRetry_spec hd with ⟨htool, harguments⟩ | hpending
      · rw [htool, harguments]
        exact hquery
      · exact h.retry d hpending

/-! ### One investigation -/

omit [ProofDigest] [ResultDigest] in
theorem upToDate_init {trusted : TrustedToolContext} {records : List CallRecord}
    {refs : List EvidenceRef} : UpToDate trusted (Coordinator.init trusted records refs) := by
  have hpending : ∀ pending : Option RetryDirective,
      (if pending.isSome then Coordinator.rebuildProgress trusted records refs pending
        else Coordinator.rebuildProgress trusted records refs none) =
      Coordinator.rebuildProgress trusted records refs pending := by
    intro pending
    cases pending <;> rfl
  exact Or.inr (hpending _)

omit [ProofDigest] [ResultDigest] in
theorem allQueries_init {Q : ReadTool → ToolArguments → Prop} {trusted : TrustedToolContext}
    {records : List CallRecord} {refs : List EvidenceRef}
    (h : ∀ r ∈ records, Q r.toolName r.normalizedArgs) :
    AllQueries Q (Coordinator.init trusted records refs) := by
  refine ⟨h, fun d hd => ?_⟩
  simp only [Coordinator.init, Option.mem_def] at hd
  split at hd
  · rename_i last hlast
    split at hd
    · obtain rfl := Option.some.inj hd
      exact h last (List.mem_of_getLast? hlast)
    · cases hd
  · cases hd

/-- What an investigation returned is what its graph run ended with. -/
theorem investigate_ok {catalog : Nat → SyntheticReadToolCatalog} {trusted : TrustedToolContext}
    {selector : ObservationSelector} {args : InvestigateArguments}
    {history : InvestigationHistory} {out : InvestigationOutput}
    (h : investigate catalog trusted selector args history = .ok out) :
    ∃ budget s, InvestigationGraph.run catalog trusted selector InvestigationGraph.recursionLimit
        .agent (initialState trusted history budget) = .ok s ∧
      out.records = s.coordinator.records ∧ out.cache = s.governed.cache ∧
      out.toolResults = s.coordinator.latestResults ∧
      (args.investigationPass ≠ 0 → out.gateResult = evaluateGate trusted.canonicalIssueType
        s.coordinator.latestResults (gateArguments (catalog 0) trusted args.flags s)) := by
  unfold investigate at h
  split at h
  · cases h
  · rename_i budget _
    split at h
    · cases h
    · rename_i s hrun
      obtain rfl := Except.ok.inj h
      refine ⟨budget, s, hrun, rfl, rfl, rfl, fun hpass => ?_⟩
      simp [hpass]

/-- The rows and results an investigation leaves are those of the case, and answer their queries. -/
theorem investigate_rows {catalog : Nat → SyntheticReadToolCatalog} {trusted : TrustedToolContext}
    {selector : ObservationSelector} {args : InvestigateArguments}
    {history : InvestigationHistory} {out : InvestigationOutput}
    (h : investigate catalog trusted selector args history = .ok out)
    (hreads : CaseReads history.caseRecords history.cache) :
    out.toolResults = Coordinator.latestOf out.records ∧
      ∃ read, out.records = history.runRecords ++ read ∧
        CaseReads (history.caseRecords ++ read) out.cache ∧
        ∀ r ∈ read, r.result.executionStatus = .success →
          GovernedToolExecutor.validateArguments trusted r.toolName r.normalizedArgs = none := by
  obtain ⟨budget, s, hrun, hrecords, hcache, hresults, -⟩ := investigate_ok h
  have hstart : PassRows trusted history.caseRecords history.runRecords
      (initialState trusted history budget).coordinator
      (initialState trusted history budget).governed.cache :=
    ⟨⟨[], (List.append_nil _).symm, by rw [List.append_nil]; exact hreads, by simp⟩, rfl⟩
  have hpass := hstart.run hrun
  rw [hresults, hrecords, hcache]
  exact ⟨hpass.latest, hpass.rows⟩

/-- All queries of an investigation have a property when the rows it starts with have it and every
    read that a selector can still ask for has it. -/
theorem investigate_queries {Q : ReadTool → ToolArguments → Prop}
    {catalog : Nat → SyntheticReadToolCatalog} {trusted : TrustedToolContext}
    {selector : ObservationSelector} {args : InvestigateArguments}
    {history : InvestigationHistory} {out : InvestigationOutput}
    (h : investigate catalog trusted selector args history = .ok out)
    (hrows : ∀ r ∈ history.runRecords, Q r.toolName r.normalizedArgs)
    (hselect : ∀ (records : List CallRecord) (refs : List EvidenceRef) (tool : ReadTool),
      history.runRecords <+: records →
      ((Coordinator.rebuildProgress trusted records refs none).requirements
        tool.requirement).status ∈ [EvidenceProgressStatus.missing, .retryPending] →
      Q tool ⟨trusted.authorizedOrderId,
        if tool.takesIssue then some trusted.canonicalIssueType else none⟩) :
    ∀ r ∈ out.records, Q r.toolName r.normalizedArgs := by
  obtain ⟨budget, s, hrun, hrecords, -⟩ := investigate_ok h
  rw [hrecords]
  exact (AllQueries.run (fun c tool => hselect c.records c.evidenceRefs tool)
    (List.prefix_rfl) upToDate_init (allQueries_init hrows) hrun).rows

/-! ### A tool that a run has called is not selected again -/

omit [ProofDigest] [ResultDigest] in
/-- Without a retry due, the requirement of a relevant tool is open only while no row names it. -/
theorem not_open_of_row {trusted : TrustedToolContext} {records : List CallRecord}
    {refs : List EvidenceRef} {tool : ReadTool}
    (hrel : requirementRegistry trusted.canonicalIssueType tool.requirement ≠ .notRequired)
    {r : CallRecord} (hr : r ∈ records) (htool : r.toolName = tool) :
    ((Coordinator.rebuildProgress trusted records refs none).requirements tool.requirement).status
      ∉ [EvidenceProgressStatus.missing, .retryPending] := by
  have hcalls : ∀ c ∈ records.map CallRecord.toHistoryCall,
      ∃ t, EvidenceProgressReducer.InScope c t := by
    intro c hc
    obtain ⟨x, -, rfl⟩ := List.mem_map.mp hc
    exact ⟨x.toolName, rfl, rfl, rfl⟩
  intro hopen
  rcases List.mem_pair.mp hopen with hmissing | hwaiting
  · exact (EvidenceProgressReducer.foldl_missing hcalls hrel _ hmissing).2 _
      (List.mem_map_of_mem hr) (congrArg Except.ok htool)
  · exact EvidenceProgressReducer.foldl_not_waiting hcalls _
      (by simp [EvidenceProgressReducer.Pass.start, EvidenceProgressReducer.emptyRequirement])
      hwaiting

/-! ### What a proposal rests on -/

omit [ProofDigest] [ResultDigest] in
theorem PolicyAuthorizes.payload_issue {policy : ToolResult PolicySearchPayload}
    {payload : PolicySearchPayload} {facts : PolicyFactSnapshot} {order : OrderContextPayload}
    {issueType : IssueType} (h : PolicyAuthorizes policy payload facts order issueType) :
    payload ∈ policy.payload ∧ payload.issueType = issueType :=
  ⟨h.isPayload, (payload.factsMatchScope facts h.isFacts).1.symm.trans h.issue⟩

omit [ProofDigest] in
/-- The policy that carries a proposal is one of the issue. -/
theorem CarriesProposal.policy {issueType : IssueType} {results : ToolResults}
    {args : GateArguments} (h : CarriesProposal issueType results args) :
    ∃ policy ∈ results .searchAfterSalesPolicy, ∃ payload ∈ policy.payload,
      payload.issueType = issueType := by
  obtain ⟨order, -, -, -, facts, hfacts, hcomplete⟩ := h.complete
  simp only [gateEvidence, Option.bind_eq_bind, Option.mem_def, Option.bind_eq_some_iff] at hfacts
  obtain ⟨tickets, -, timeline, -, policy, hpolicy, hfacts⟩ := hfacts
  cases issueType with
  | signedNotReceived =>
    obtain ⟨proof, -, hfacts⟩ := Option.bind_eq_some_iff.mp hfacts
    obtain rfl := Option.some.inj hfacts
    obtain ⟨⟨_, _, payload, _, hevidence⟩, -⟩ := hcomplete
    exact ⟨policy, hpolicy, payload, hevidence.authorizes.payload_issue⟩
  | stalledTracking =>
    obtain rfl := Option.some.inj hfacts
    obtain ⟨⟨_, _, payload, _, hevidence⟩, -⟩ := hcomplete
    exact ⟨policy, hpolicy, payload, hevidence.authorizes.payload_issue⟩

omit [ProofDigest] in
/-- The runtime gate proposes only on a completed ticket list and on a policy of the issue. -/
theorem evaluateGate_proposes {issueType : IssueType} {results : ToolResults}
    {args : GateArguments} (h : (evaluateGate issueType results args).Proposes) :
    (∃ tickets ∈ results .getExistingLogisticsTickets, tickets.executionStatus = .success) ∧
      ∃ policy ∈ results .searchAfterSalesPolicy, ∃ payload ∈ policy.payload,
        payload.issueType = issueType := by
  have hcarries := evaluateGate_proposes_iff.mp h
  have hrequired : .getExistingLogisticsTickets ∈ requiredObservationTools issueType := by
    cases issueType <;> decide
  obtain ⟨tickets, htickets, hdone⟩ := hcarries.completed hrequired
  exact ⟨⟨tickets, htickets, hdone.1⟩, hcarries.policy⟩

/-! ### Two passes of one run -/

/-- The run of a case whose issue is revised after its first pass: the second pass is about the
    revised issue and starts from the rows, references, counters and cache of the first. -/
structure RevisedRun where
  trusted : TrustedToolContext
  revised : IssueType
  caseRows : List CallRecord
  cache : CaseToolCache
  arguments : InvestigateArguments
  firstCatalog : Nat → SyntheticReadToolCatalog
  firstSelector : ObservationSelector
  first : InvestigationOutput
  secondCatalog : Nat → SyntheticReadToolCatalog
  secondSelector : ObservationSelector
  second : InvestigationOutput
  caseReads : CaseReads caseRows cache
  switches : revised ≠ trusted.canonicalIssueType
  firstPass : investigate firstCatalog trusted firstSelector arguments
    ⟨caseRows, [], [], cache, none⟩ = .ok first
  revises : first.gateResult.outcome = .revision revised.intent
  secondPass : investigate secondCatalog { trusted with canonicalIssueType := revised } secondSelector
    { casePlanningTurns := first.casePlanningTurns
      runPlanningTurns := first.planningTurns
      caseReadExecutions := first.actualReadToolExecutions
      investigationPass := 1 }
    ⟨caseRows ++ first.records, first.records, first.evidenceRefs, first.cache,
      some first.gateResult⟩ = .ok second

namespace RevisedRun

/-- The result of a tool that the final gate consumed was read with the revised issue. -/
def ReadForRevised (run : RevisedRun) (tool : ReadTool) : Prop :=
  ∃ arguments, argumentsByTool run.second.records tool = some arguments ∧
    arguments.issueType = some run.revised

/-- The first pass read the ticket list. -/
def TicketsReadFirst (run : RevisedRun) : Prop :=
  ∃ r ∈ run.first.records, r.toolName = .getExistingLogisticsTickets

variable (run : RevisedRun)

/-- Every query of the first pass that names an issue names the reported one. -/
theorem first_issue : ∀ r ∈ run.first.records, r.toolName.takesIssue = true →
    r.normalizedArgs.issueType = some run.trusted.canonicalIssueType :=
  investigate_queries (Q := fun tool arguments => tool.takesIssue = true →
    arguments.issueType = some run.trusted.canonicalIssueType) run.firstPass (by simp)
    fun _ _ tool _ _ htakes => by simp [htakes]

/-- A ticket list read in the first pass is never replaced: every ticket query of the run names the
    reported issue. -/
theorem second_tickets (h : run.TicketsReadFirst) : ∀ r ∈ run.second.records,
    r.toolName = .getExistingLogisticsTickets →
    r.normalizedArgs.issueType = some run.trusted.canonicalIssueType := by
  obtain ⟨row, hrow, htool⟩ := h
  refine investigate_queries (Q := fun tool arguments => tool = .getExistingLogisticsTickets →
    arguments.issueType = some run.trusted.canonicalIssueType) run.secondPass
    (fun r hr e => run.first_issue r hr (by rw [e]; rfl)) ?_
  rintro records refs tool hpre hopen rfl
  have hrel : requirementRegistry run.revised ReadTool.getExistingLogisticsTickets.requirement
      ≠ .notRequired := by
    cases run.revised <;> decide
  exact absurd hopen (not_open_of_row hrel (hpre.subset hrow) htool)

/-- A proposal after a revision rests on evidence of the revised issue exactly when the first pass
    has not read the ticket list. -/
theorem proposal_read_for_revised (h : run.second.gateResult.Proposes) :
    (run.ReadForRevised .searchAfterSalesPolicy ∧
      run.ReadForRevised .getExistingLogisticsTickets) ↔ ¬ run.TicketsReadFirst := by
  obtain ⟨budget, s, -, hrecords, -, hresults, hgate⟩ := investigate_ok run.secondPass
  rw [hgate Nat.one_ne_zero] at h
  obtain ⟨⟨tickets, htickets, htdone⟩, policy, hpolicy, payload, hpayload, hissue⟩ :=
    evaluateGate_proposes h
  rw [← hresults] at htickets hpolicy
  obtain ⟨-, read, hread, hcase, -⟩ := investigate_rows run.firstPass run.caseReads
  rw [List.nil_append] at hread
  rw [← hread] at hcase
  obtain ⟨hlatest, new, hnew, hcase', hvalid⟩ := investigate_rows run.secondPass hcase
  rw [hlatest] at htickets hpolicy
  constructor
  · rintro ⟨-, arguments, harguments, hrevised⟩ hfirst
    obtain ⟨arguments', harguments', hreported⟩ := latestOf_some (P := fun tool arguments _ =>
      tool = .getExistingLogisticsTickets →
        arguments.issueType = some run.trusted.canonicalIssueType)
      (run.second_tickets hfirst) htickets
    rw [harguments, Option.some.injEq] at harguments'
    rw [← harguments', hrevised, Option.some.injEq] at hreported
    exact run.switches (hreported rfl)
  · intro hfirst
    have hnewIssue : ∀ r ∈ new, r.result.executionStatus = .success → r.toolName.takesIssue = true →
        r.normalizedArgs.issueType = some run.revised := fun r hr hs =>
      GovernedToolExecutor.issue_of_valid (hvalid r hr hs)
    constructor
    · have hanswered : ∀ r ∈ run.second.records,
          AnswersQuery r.toolName r.normalizedArgs r.result := by
        intro r hr
        refine hcase'.answers.1 r ?_
        rw [List.append_assoc, ← hnew]
        exact List.mem_append_right _ hr
      obtain ⟨arguments, harguments, hanswers⟩ := latestOf_some hanswered hpolicy
      exact ⟨arguments, harguments, by rw [hanswers payload hpayload _ rfl, hissue]⟩
    · have hrows : ∀ r ∈ run.second.records, r.toolName = .getExistingLogisticsTickets →
          r.result.executionStatus = .success → r.normalizedArgs.issueType = some run.revised := by
        intro r hr htool hs
        rw [hnew] at hr
        rcases List.mem_append.mp hr with hr | hr
        · exact absurd ⟨r, hr, htool⟩ hfirst
        · exact hnewIssue r hr hs (by rw [htool]; rfl)
      obtain ⟨arguments, harguments, hrevised⟩ := latestOf_some (P := fun tool arguments result =>
        tool = .getExistingLogisticsTickets → result.executionStatus = .success →
          arguments.issueType = some run.revised) hrows htickets
      exact ⟨arguments, harguments, hrevised rfl htdone⟩

end RevisedRun

end AfterSales

/-! ### A shipped order that is reported as missing -/

namespace AfterSales.RevisedRun

section ShippedOrder

attribute [local instance] PolicyDigest.bySource ProofDigest.byId ResultDigest.byName

def shippedOrder : OrderFixture where
  orderId := "ORD-1"
  customerId := "CUS-1"
  orderStatus := .shipped
  serviceLevel := "standard"
  region := "cn-east"
  sourceRevision := "order-v1"

def stalledClause : PolicyClause where
  documentId := "DOC"
  clauseId := "CL-STD-STL-V2"
  normalizedFacts := stalledClauseFacts
  contentHash := "clause"
  poisoned := false
  clauseIdMatches := rfl
  contentHashMatches := rfl

/-- One shipped order, last scanned at time zero, and the tickets of the order. -/
def shippedCatalog (tickets : List LogisticsTicket) : SyntheticReadToolCatalog where
  store :=
    { fixtureVersion := "fixture-v1"
      orders := fun id => if id = "ORD-1" then some shippedOrder else none
      timelines := fun _ => [⟨"EV-1", none, "in_transit", 0⟩]
      deliveryProofs := fun _ => none
      carrierAlerts := fun _ => []
      shipments := fun _ => []
      investigationCases := []
      faults := fun _ _ _ => none
      actionFaultPlan := fun _ => []
      baseTickets := tickets
      dynamicTickets := []
      ticketRevision := 0
      actionFaultPositions := fun _ => 0
      ordersKey := by
        intro id o h
        rw [Option.ite_none_right_eq_some] at h
        obtain ⟨rfl, ⟨⟩⟩ := h
        rfl }
  policyRag :=
    { corpus := { clauses := [stalledClause], uniquelyResolves := List.nodup_singleton _ }
      prose := plainProse
      sourceRevision := "corpus-v1"
      passageHash := fun c => c.contentHash
      rank := fun _ _ _ => .ok [⟨"DOC", "v2", "CL-STD-STL-V2", "clause", "clause", 1⟩]
      minimumSimilarity := 0 }

/-- A customer reports a parcel as missing sixty hours after its last scan. -/
def missingReport : TrustedToolContext where
  customerId := "CUS-1"
  conversationId := "CONV-1"
  caseId := "CASE-1"
  runId := "RUN-1"
  authorizedOrderId := "ORD-1"
  canonicalIssueType := .signedNotReceived
  fixtureVersion := "fixture-v1"
  faultSeed := "default"
  evaluatedAt := 216000000000
  targetShipmentId := none

/-- The output of an investigation that ended. -/
def ended (e : Except InvestigationFailure InvestigationOutput) (h : e.toOption.isSome) :
    InvestigationOutput :=
  e.toOption.get h

theorem ended_eq {e : Except InvestigationFailure InvestigationOutput} (h : e.toOption.isSome) :
    e = .ok (ended e h) := by
  cases e with
  | error _ => cases h
  | ok out => rfl

/-- The first pass, reading in a given order. -/
def firstPassOf (tickets : List LogisticsTicket) (order : List ReadTool) :
    Except InvestigationFailure InvestigationOutput :=
  investigate (fun _ => shippedCatalog tickets) missingReport (followOrder order) {}
    ⟨[], [], [], .empty, none⟩

/-- The pass that follows it under the revised issue. -/
def secondPassOf (tickets : List LogisticsTicket) (order : List ReadTool)
    (first : InvestigationOutput) : Except InvestigationFailure InvestigationOutput :=
  investigate (fun _ => shippedCatalog tickets)
    { missingReport with canonicalIssueType := .stalledTracking } (followOrder order)
    { casePlanningTurns := first.casePlanningTurns
      runPlanningTurns := first.planningTurns
      caseReadExecutions := first.actualReadToolExecutions
      investigationPass := 1 }
    ⟨[] ++ first.records, first.records, first.evidenceRefs, first.cache, some first.gateResult⟩

end ShippedOrder

end AfterSales.RevisedRun
