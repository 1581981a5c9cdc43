import AfterSales.Application.IntegrityStop

/-! The results that answer a revised issue.

    The second pass of a revised run is started on the rows of the first, and a requirement knows its
    rows by their tool alone:

        first pass     policy read for the reported issue       answered
        second pass    requirement of the revised issue         satisfied by the same row

    So a row of the first pass answers the revised issue as soon as it answers at all, whatever was
    read after it, and then its tool is not read again. Failed rows of the first pass do no harm. -/

namespace AfterSales
open EvidenceProgressReducer

variable [PolicyDigest] [ProofDigest] [ResultDigest]

/-- A result satisfies a requirement: it is a success, and the requirement is satisfied by it. -/
structure Coordinator.SatisfiedBy (c : Coordinator) (r : CallRecord) : Prop where
  success : r.result.executionStatus = .success
  satisfied : (c.progress.requirements r.toolName.requirement).status.satisfied
  supported : r.toolCallId ∈
    (c.progress.requirements r.toolName.requirement).supportingToolCallIds

/-! ### The requirement of a tool that has answered -/

namespace EvidenceProgressReducer

omit [PolicyDigest] [ProofDigest] [ResultDigest]

variable {caseId runId : String} {issueType : IssueType} {refs : List EvidenceRef}
  {pending : Option RetryDirective} {p : Pass} {call : HistoryCall} {tool : ReadTool}
  {calls pre post : List HistoryCall}

/-- A failed call answers nothing. -/
theorem step_failed (hcall : WellFormed refs call tool)
    (hfailed : call.executionStatus ≠ some .success)
    (hrel : requirementRegistry issueType tool.requirement ≠ .notRequired) :
    ((step caseId runId issueType refs none p call).states tool.requirement).status.satisfied
      = false := by
  rw [step_of_none hcall.scope hrel]
  cases hcall with
  | success hclean => exact absurd hclean.success hfailed
  | failure _ hstatus havail =>
    rcases hstatus with hstatus | hstatus
    · simp only [reduceOutcome, hstatus, havail, Pass.setState_self, merge]
      split_ifs <;> rfl
    · simp only [reduceOutcome, hstatus, havail, Pass.setState_self, merge]
      split_ifs <;> rfl

/-- Calls that leave the requirement of a tool as it is: calls of other tools. -/
theorem foldl_others (hcalls : ∀ c ∈ calls, ∃ t, InScope c t ∧ t ≠ tool) (p : Pass) :
    (calls.foldl (step caseId runId issueType refs pending) p).states tool.requirement =
      p.states tool.requirement := by
  induction calls generalizing p with
  | nil => rfl
  | cons call rest ih =>
    rw [List.foldl_cons, ih fun c hc => hcalls c (List.mem_cons_of_mem _ hc)]
    obtain ⟨t, ht, hne⟩ := hcalls call List.mem_cons_self
    by_cases hrel : requirementRegistry issueType t.requirement = .notRequired
    · rw [step_irrelevant ht hrel]
    · exact (step_moved ht hrel).2 _ fun e => hne (ReadTool.requirement_injective e).symm

/-- While a tool has only failed, its requirement is not satisfied. -/
theorem passOver_failed (hcalls : ∀ c ∈ calls, ∃ t, WellFormed refs c t ∧
      (t = tool → c.executionStatus ≠ some .success))
    (hrel : requirementRegistry issueType tool.requirement ≠ .notRequired) :
    ((passOver caseId runId issueType refs none calls).states tool.requirement).status.satisfied
      = false := by
  induction calls using List.reverseRecOn with
  | nil => rfl
  | append_singleton calls call ih =>
    have hbefore := ih fun c hc => hcalls c (List.mem_append_left _ hc)
    obtain ⟨t, ht, hfailed⟩ := hcalls call (by simp)
    rw [passOver_concat]
    by_cases hother : t = tool
    · subst hother
      exact step_failed ht (hfailed rfl) hrel
    · have hkept : ([call].foldl (step caseId runId issueType refs none)
          (passOver caseId runId issueType refs none calls)).states tool.requirement =
          (passOver caseId runId issueType refs none calls).states tool.requirement :=
        foldl_others (by simpa using ⟨t, ht.scope, hother⟩) _
      rw [List.foldl_cons, List.foldl_nil] at hkept
      rw [hkept]
      exact hbefore

/-- A success satisfies an open requirement, and is noted with it. -/
theorem step_answers (hcall : Clean refs call tool)
    (hrel : requirementRegistry issueType tool.requirement ≠ .notRequired)
    (hopen : (p.states tool.requirement).status.satisfied = false) :
    ((step caseId runId issueType refs none p call).states
        tool.requirement).status.satisfied ∧
      call.toolCallId ∈ ((step caseId runId issueType refs none p call).states
        tool.requirement).supportingToolCallIds := by
  have hsame : ¬ (call.envelopeHash = none ∨ call.envelopeHash ≠ call.resultHash) := by
    obtain ⟨hsome, heq⟩ := hcall.hash
    rw [heq]
    simpa using Option.isSome_iff_ne_none.mp hsome
  have hunanswered : ∀ c : Prop,
      ¬ (((p.executed call).states tool.requirement).status.satisfied ∧ c) := by
    intro c
    rw [Pass.executed_states, hopen]
    simp
  have hmerged : ∀ status : EvidenceProgressStatus, status.satisfied →
      ((reduceSuccess refs (p.executed call) call tool.requirement status).states
          tool.requirement).status.satisfied ∧
        call.toolCallId ∈ ((reduceSuccess refs (p.executed call) call tool.requirement
          status).states tool.requirement).supportingToolCallIds := by
    intro status hstatus
    simp only [reduceSuccess]
    rw [if_neg hsame, if_neg hcall.referenced, if_neg (hunanswered _), if_neg (hunanswered _),
      Pass.setState_self]
    refine ⟨hstatus, ?_⟩
    simp only [merge, addItem]
    split_ifs with hmem
    · exact hmem
    · simp
  rw [step_of_none hcall.scope hrel]
  rcases hcall.availability with havail | havail
  · simp only [reduceOutcome, hcall.success, havail]
    exact hmerged _ rfl
  · simp only [reduceOutcome, hcall.success, havail]
    exact hmerged _ rfl

/-- The one success of a tool satisfies its requirement, whatever failed before it, whatever other
    tools were read after it, and whatever later call a retry is pending for. -/
theorem passOver_answered (caseId runId : String)
    (hpending : ∀ d ∈ pending, ∀ c ∈ pre ++ [call], d.retryOfToolCallId ≠ c.toolCallId)
    (hpre : ∀ c ∈ pre, ∃ t, WellFormed refs c t ∧ (t = tool → c.executionStatus ≠ some .success))
    (hcall : Clean refs call tool) (hpost : ∀ c ∈ post, ∃ t, InScope c t ∧ t ≠ tool)
    (hrel : requirementRegistry issueType tool.requirement ≠ .notRequired) :
    ((passOver caseId runId issueType refs pending (pre ++ call :: post)).states
        tool.requirement).status.satisfied ∧
      call.toolCallId ∈ ((passOver caseId runId issueType refs pending
        (pre ++ call :: post)).states tool.requirement).supportingToolCallIds := by
  have hscope : ∀ c ∈ pre ++ [call], ∃ t, InScope c t := by
    intro c hc
    rcases List.mem_append.mp hc with hc | hc
    · obtain ⟨t, ht, -⟩ := hpre c hc
      exact ⟨t, ht.scope⟩
    · exact ⟨tool, List.mem_singleton.mp hc ▸ hcall.scope⟩
  have hbefore : passOver caseId runId issueType refs pending (pre ++ [call]) =
      passOver caseId runId issueType refs none (pre ++ [call]) := by
    cases pending with
    | none => rfl
    | some d => exact (passOver_before hscope (hpending d rfl)).1
  have hafter : (passOver caseId runId issueType refs pending (pre ++ call :: post)).states
      tool.requirement = (passOver caseId runId issueType refs none (pre ++ [call])).states
        tool.requirement := by
    rw [← hbefore, show pre ++ call :: post = (pre ++ [call]) ++ post by simp, passOver,
      List.foldl_append]
    exact foldl_others hpost _
  rw [hafter, passOver_concat]
  exact step_answers hcall hrel (passOver_failed hpre hrel)

end EvidenceProgressReducer

/-! ### A pass answers a tool once -/

namespace InvestigationGraph

variable {trusted : TrustedToolContext} {s₀ s : InvestigationState} {node : GraphNode}

/-- The rows of a pass: numbered, with their references kept, and none of a tool that an earlier row
    has answered. -/
structure AnsweredOnce (trusted : TrustedToolContext) (c : Coordinator) : Prop where
  numbered : RowsNumbered trusted.runId c.records
  referenced : ∀ r ∈ c.records, r.refs ⊆ c.evidenceRefs
  once : c.records.Pairwise fun a b =>
    a.result.executionStatus = .success → b.toolName ≠ a.toolName

omit [ProofDigest] [ResultDigest] in
/-- A read that is due is not of a tool that has answered. -/
theorem AnsweredOnce.unanswered {c : Coordinator} {tool : ReadTool} (h : AnsweredOnce trusted c)
    (hdue : Due trusted c tool)
    (hlast : ∀ d ∈ c.pendingRetry, ∃ last, c.records.getLast? = some last ∧ Failed last d) :
    ∀ a ∈ c.records, a.result.executionStatus = .success → tool ≠ a.toolName := by
  intro a ha hs
  cases hdue with
  | fresh hclear hunread =>
    obtain ⟨-, -, hrows⟩ := Finset.mem_filter.mp hunread
    have hother : a.toolName ≠ tool := by simpa using hrows a ha
    exact hother.symm
  | retry d hpending hname =>
    obtain ⟨last, hlast, hfailed⟩ := hlast d hpending
    obtain ⟨rows, hrows⟩ := List.getLast?_eq_some_iff.mp hlast
    have hretryable := (Coordinator.transientFailure_iff last.result).mp hfailed.transient
    rw [← hname, hfailed.toolName]
    rw [hrows] at ha
    have honce := h.once
    rw [hrows] at honce
    rcases List.mem_append.mp ha with ha | ha
    · exact (List.pairwise_append.mp honce).2.2 a ha last (List.mem_singleton_self _) hs
    · rw [List.mem_singleton.mp ha, hretryable] at hs
      cases hs

/-- Every state of a pass, by induction on the supersteps that lead to it. -/
theorem PassReaches.answeredOnce (h : PassReaches trusted s₀ node s)
    (hloop : Loop trusted .agent s₀.coordinator) (hstart : AnsweredOnce trusted s₀.coordinator) :
    Loop trusted node s.coordinator ∧ AnsweredOnce trusted s.coordinator := by
  induction h with
  | start => exact ⟨hloop, hstart⟩
  | @step catalog selector node node' s s' _ next ih =>
    obtain ⟨hloop, honce⟩ := ih
    by_cases hnode : node = .finished
    · subst hnode
      obtain ⟨rfl, rfl⟩ := Prod.mk.inj (Except.ok.inj next)
      exact ⟨hloop, honce⟩
    refine ⟨(step_lowers hloop hnode next).1, ?_⟩
    cases node with
    | agent =>
      obtain ⟨hsame, -, -⟩ := callModel_spec next
      refine ⟨?_, ?_, ?_⟩
      · rw [hsame.records]
        exact honce.numbered
      · rw [hsame.records, hsame.evidenceRefs]
        exact honce.referenced
      · rw [hsame.records]
        exact honce.once
    | tools tool arguments =>
      obtain ⟨-, record, governed, hread, rfl⟩ := step_tools next
      obtain ⟨result, -, hrecord⟩ := traceRead_ok hread
      have htool : record.toolName = tool := congrArg CallRecord.toolName hrecord
      have hunanswered := honce.unanswered (hloop.due tool arguments rfl) hloop.pending
      refine ⟨honce.numbered.concat (congrArg CallRecord.toolCallId hrecord), ?_, ?_⟩
      · intro r hr
        rcases List.mem_append.mp hr with hr | hr
        · exact List.Subset.trans (honce.referenced r hr) (List.subset_append_left _ _)
        · rw [List.mem_singleton.mp hr]
          exact List.subset_append_right _ _
      · refine List.pairwise_append.mpr ⟨honce.once, List.pairwise_singleton _ _, ?_⟩
        intro a ha b hb hs
        rw [List.mem_singleton.mp hb, htool]
        exact hunanswered a ha hs
    | budgetExhausted =>
      obtain ⟨rfl, rfl⟩ := Prod.mk.inj (Except.ok.inj next)
      exact ⟨honce.numbered, honce.referenced, honce.once⟩
    | finished => exact absurd rfl hnode

/-- The rows of a pass extend those it was started on, and those it adds are of valid queries when
    they succeeded. -/
theorem PassReaches.rows (h : PassReaches trusted s₀ node s) :
    ∃ read, s.coordinator.records = s₀.coordinator.records ++ read ∧
      ∀ r ∈ read, r.result.executionStatus = .success →
        GovernedToolExecutor.validateArguments trusted r.toolName r.normalizedArgs = none := by
  induction h with
  | start => exact ⟨[], (List.append_nil _).symm, by simp⟩
  | @step catalog selector node node' s s' _ next ih =>
    obtain ⟨read, hrecords, hvalid⟩ := ih
    cases node with
    | agent => exact ⟨read, (callModel_spec next).1.records.trans hrecords, hvalid⟩
    | tools tool arguments =>
      obtain ⟨-, record, governed, hread, rfl⟩ := step_tools next
      refine ⟨read ++ [record], ?_, ?_⟩
      · rw [← List.append_assoc, ← hrecords]
        rfl
      · intro r hr
        rcases List.mem_append.mp hr with hr | hr
        · exact hvalid r hr
        · rw [List.mem_singleton.mp hr]
          obtain ⟨result, hexec, rfl⟩ := traceRead_ok hread
          exact GovernedToolExecutor.valid_of_success hexec
    | budgetExhausted | finished =>
      obtain ⟨rfl, rfl⟩ := Prod.mk.inj (Except.ok.inj next)
      exact ⟨read, hrecords, hvalid⟩

end InvestigationGraph

/-! ### A pass that is started on answered rows -/

omit [ProofDigest] [ResultDigest] in
/-- The retry that a new coordinator takes up is that of its last row. -/
theorem Coordinator.init_pending {trusted : TrustedToolContext} {records : List CallRecord}
    {refs : List EvidenceRef} {d : RetryDirective}
    (h : d ∈ (init trusted records refs).pendingRetry) :
    ∃ last, records.getLast? = some last ∧ d.retryOfToolCallId = last.toolCallId ∧
      last.result.executionStatus = .retryableError := by
  simp only [init, Option.mem_def] at h
  split at h
  · rename_i last hlast
    split at h
    · rename_i hfailed
      obtain rfl := Option.some.inj h
      exact ⟨last, hlast, rfl, (transientFailure_iff last.result).mp hfailed.2.2⟩
    · cases h
  · cases h

omit [ProofDigest] [ResultDigest] in
/-- A coordinator that is started on rows holds the requirement of a relevant tool satisfied by the
    row that answered it, whatever issue the row was read for. -/
theorem Coordinator.init_satisfiedBy {trusted reader : TrustedToolContext} {c : Coordinator}
    (h : InvestigationGraph.AnsweredOnce reader c) {r : CallRecord} (hr : r ∈ c.records)
    (hs : r.result.executionStatus = .success)
    (hrel : requirementRegistry trusted.canonicalIssueType r.toolName.requirement
      ≠ .notRequired) :
    (init trusted c.records c.evidenceRefs).SatisfiedBy r := by
  obtain ⟨pre, post, hsplit⟩ := List.append_of_mem hr
  have honce := h.once
  rw [hsplit, List.pairwise_append, List.pairwise_cons] at honce
  obtain ⟨-, ⟨hlater, -⟩, hearlier⟩ := honce
  have hwell : ∀ a ∈ c.records, WellFormed c.evidenceRefs a.toHistoryCall a.toolName :=
    fun a ha => CallRecord.wellFormed (h.referenced a ha)
  have hdate : UpToDate trusted (init trusted c.records c.evidenceRefs) := upToDate_init
  have hprogress : (init trusted c.records c.evidenceRefs).progress =
      rebuildProgress trusted c.records c.evidenceRefs
        (init trusted c.records c.evidenceRefs).pendingRetry := hdate.resolve_left (by simp [init])
  -- the row that a retry is pending for is the last one, and it failed
  have hretry : ∀ d ∈ (init trusted c.records c.evidenceRefs).pendingRetry,
      ∀ call ∈ pre.map CallRecord.toHistoryCall ++ [r.toHistoryCall],
        d.retryOfToolCallId ≠ call.toolCallId := by
    intro d hd call hcall
    obtain ⟨last, hlast, hid, hfailed⟩ := init_pending hd
    rw [← List.map_singleton, ← List.map_append] at hcall
    obtain ⟨a, ha, rfl⟩ := List.mem_map.mp hcall
    rcases List.eq_nil_or_concat post with rfl | ⟨rows, x, rfl⟩
    · rw [hsplit, List.getLast?_concat] at hlast
      rw [← Option.some.inj hlast, hs] at hfailed
      cases hfailed
    · have hends : c.records = ((pre ++ [r]) ++ rows) ++ [x] := by simp [hsplit]
      rw [hends, List.getLast?_concat] at hlast
      obtain rfl := Option.some.inj hlast
      obtain ⟨hnumbered, hnext⟩ := (hends ▸ h.numbered : RowsNumbered _ _).init
      rw [hid, hnext]
      exact hnumbered.ne_next (List.mem_append_left _ ha)
  have hbefore : ∀ call ∈ pre.map CallRecord.toHistoryCall, ∃ t,
      WellFormed c.evidenceRefs call t ∧
        (t = r.toolName → call.executionStatus ≠ some .success) := by
    intro call hcall
    obtain ⟨a, ha, rfl⟩ := List.mem_map.mp hcall
    refine ⟨a.toolName, hwell a (by rw [hsplit]; simp [ha]), ?_⟩
    intro htool hstatus
    exact hearlier a ha r List.mem_cons_self (Option.some.inj hstatus) htool.symm
  have hafter : ∀ call ∈ post.map CallRecord.toHistoryCall, ∃ t,
      InScope call t ∧ t ≠ r.toolName := by
    intro call hcall
    obtain ⟨a, ha, rfl⟩ := List.mem_map.mp hcall
    exact ⟨a.toolName, ⟨rfl, rfl, rfl⟩, hlater a ha hs⟩
  have hanswered := passOver_answered trusted.caseId trusted.runId hretry hbefore
    (FaultFreeWorld.clean_record hs (h.referenced r hr)) hafter hrel
  rw [← List.map_cons, ← List.map_append, ← hsplit] at hanswered
  refine ⟨hs, ?_, ?_⟩
  · rw [hprogress]
    exact hanswered.1
  · rw [hprogress]
    exact hanswered.2

omit [PolicyDigest] [ProofDigest] [ResultDigest] in
/-- A valid query names an issue only for a tool that takes one. -/
theorem GovernedToolExecutor.takesIssue_of_valid {trusted : TrustedToolContext} {tool : ReadTool}
    {arguments : ToolArguments} {issueType : IssueType}
    (h : validateArguments trusted tool arguments = none)
    (hissue : arguments.issueType = some issueType) : tool.takesIssue = true := by
  unfold validateArguments at h
  split at h
  · cases h
  rename_i hshape
  rw [hissue] at hshape
  simpa using hshape

/-! ### A revised run -/

namespace RevisedRun

variable (run : RevisedRun)

/-- The context of the second pass. -/
def revisedTrusted : TrustedToolContext := { run.trusted with canonicalIssueType := run.revised }

/-- A state that the second pass can go through: selector and sources may answer as they like. -/
def SecondReaches (s : InvestigationState) : Prop :=
  ∃ budget node, InvestigationGraph.PassReaches run.revisedTrusted
    (initialState run.revisedTrusted ⟨run.caseRows ++ run.first.records, run.first.records,
      run.first.evidenceRefs, run.first.cache, some run.first.gateResult⟩ budget) node s

/-- No result that was read for the reported issue satisfies a requirement of the revised one. -/
def KeepsApart : Prop :=
  ∀ s, run.SecondReaches s → ∀ r ∈ s.coordinator.records,
    r.normalizedArgs.issueType = some run.trusted.canonicalIssueType →
      ¬ s.coordinator.SatisfiedBy r

/-- The first pass has had an answer about its issue: about the policy, or the tickets. -/
def AnsweredFirst : Prop :=
  ∃ r ∈ run.first.records, r.toolName.takesIssue = true ∧ r.result.executionStatus = .success

/-- The rows of the first pass. -/
theorem first_answeredOnce : ∃ c : Coordinator, run.first.records = c.records ∧
    run.first.evidenceRefs = c.evidenceRefs ∧
      InvestigationGraph.AnsweredOnce run.trusted c := by
  have h := run.firstPass
  unfold investigate at h
  split at h
  · cases h
  rename_i budget _
  split at h
  · cases h
  rename_i s hrun
  have hfirst := Except.ok.inj h
  obtain ⟨node, hreach⟩ := InvestigationGraph.PassReaches.start.of_run hrun
  refine ⟨s.coordinator, by rw [← hfirst], by rw [← hfirst], ?_⟩
  exact (hreach.answeredOnce (InvestigationGraph.Loop.start _ _ _)
    ⟨rfl, by simp [initialState, Coordinator.init], List.Pairwise.nil⟩).2

/-- The rows of the first pass that succeeded are of valid queries, and so are those of the second
    one: a success that names the reported issue is one of the first pass. -/
theorem success_of_first {s : InvestigationState} (hs : run.SecondReaches s) {r : CallRecord}
    (hr : r ∈ s.coordinator.records) (hsuccess : r.result.executionStatus = .success)
    (hissue : r.normalizedArgs.issueType = some run.trusted.canonicalIssueType) :
    run.AnsweredFirst := by
  obtain ⟨budget, node, hreach⟩ := hs
  obtain ⟨read, hrecords, hvalid⟩ := hreach.rows
  have hfirst : (initialState run.revisedTrusted ⟨run.caseRows ++ run.first.records,
      run.first.records, run.first.evidenceRefs, run.first.cache, some run.first.gateResult⟩
        budget).coordinator.records = run.first.records := rfl
  rw [hrecords, hfirst] at hr
  rcases List.mem_append.mp hr with hr | hr
  · obtain ⟨-, own, hown, -, hfirstValid⟩ := investigate_rows run.firstPass run.caseReads
    rw [List.nil_append] at hown
    have hrow := hfirstValid r (hown ▸ hr) hsuccess
    exact ⟨r, hr, GovernedToolExecutor.takesIssue_of_valid hrow hissue, hsuccess⟩
  · have hrow := hvalid r hr hsuccess
    have htakes := GovernedToolExecutor.takesIssue_of_valid hrow hissue
    have hrevised : r.normalizedArgs.issueType = some run.revised :=
      GovernedToolExecutor.issue_of_valid hrow htakes
    rw [hissue, Option.some.injEq] at hrevised
    exact absurd hrevised.symm run.switches

/-- A row that answered the first pass satisfies the second one from its start. -/
theorem keepsApart_iff : run.KeepsApart ↔ ¬ run.AnsweredFirst := by
  constructor
  · rintro hapart ⟨r, hr, htakes, hsuccess⟩
    obtain ⟨c, hrecords, hrefs, honce⟩ := run.first_answeredOnce
    obtain ⟨budget, -⟩ := investigate_ok run.secondPass
    have hstart : run.SecondReaches (initialState run.revisedTrusted
        ⟨run.caseRows ++ run.first.records, run.first.records, run.first.evidenceRefs,
          run.first.cache, some run.first.gateResult⟩ budget) := ⟨budget, _, .start⟩
    have hrel : requirementRegistry run.revisedTrusted.canonicalIssueType r.toolName.requirement
        ≠ .notRequired := by
      revert htakes
      cases run.revisedTrusted.canonicalIssueType <;> cases r.toolName <;> decide
    have hsatisfied : (Coordinator.init run.revisedTrusted run.first.records
        run.first.evidenceRefs).SatisfiedBy r := by
      rw [hrecords, hrefs]
      exact Coordinator.init_satisfiedBy honce (hrecords ▸ hr) hsuccess hrel
    exact hapart _ hstart r hr (run.first_issue r hr htakes) hsatisfied
  · intro hnone s hs r hr hissue hsatisfied
    exact hnone (run.success_of_first hs hr hsatisfied.success hissue)

/-- When nothing of its issue answered the first pass, a proposal rests on reads for the revised
    issue. -/
theorem proposal_of_unanswered (hnone : ¬ run.AnsweredFirst)
    (h : run.second.gateResult.Proposes) :
    run.ReadForRevised .searchAfterSalesPolicy ∧
      run.ReadForRevised .getExistingLogisticsTickets := by
  refine (run.proposal_read_for_revised h).mpr ?_
  intro hread
  obtain ⟨budget, s, hrun, hrecords, -, hresults, hgate⟩ := investigate_ok run.secondPass
  have hends : run.SecondReaches s :=
    ⟨budget, InvestigationGraph.PassReaches.start.of_run hrun⟩
  rw [hgate Nat.one_ne_zero] at h
  obtain ⟨⟨tickets, htickets, hsuccess⟩, -⟩ := evaluateGate_proposes h
  obtain ⟨-, own, hown, hcase, -⟩ := investigate_rows run.firstPass run.caseReads
  rw [List.nil_append] at hown
  obtain ⟨hlatest, -⟩ := investigate_rows run.secondPass (hown ▸ hcase)
  rw [← hresults, hlatest] at htickets
  -- a ticket list that answered names the reported issue, so it answered in the first pass
  have hfailed : ∀ r ∈ run.second.records, r.toolName = .getExistingLogisticsTickets →
      r.result.executionStatus ≠ .success := by
    intro r hr htool hs
    have hissue := run.second_tickets hread r hr htool
    exact hnone (run.success_of_first hends (hrecords ▸ hr) hs hissue)
  obtain ⟨-, -, hunanswered⟩ := latestOf_some (P := fun tool _ result =>
    tool = .getExistingLogisticsTickets → result.executionStatus ≠ .success) hfailed htickets
  exact hunanswered rfl hsuccess

/-- The evidence of a revised run belongs to the revised issue, what it proposes on and what
    satisfies its requirements, exactly when neither the policy nor the tickets have answered in the
    first pass. A proposal alone is well founded when the first pass has not read the tickets. -/
theorem read_for_revised_iff :
    ((run.second.gateResult.Proposes → run.ReadForRevised .searchAfterSalesPolicy ∧
        run.ReadForRevised .getExistingLogisticsTickets) ∧ run.KeepsApart ↔
      ¬ run.AnsweredFirst) ∧
    (run.second.gateResult.Proposes → ((run.ReadForRevised .searchAfterSalesPolicy ∧
      run.ReadForRevised .getExistingLogisticsTickets) ↔ ¬ run.TicketsReadFirst)) := by
  refine ⟨⟨?_, ?_⟩, run.proposal_read_for_revised⟩
  · rintro ⟨-, hapart⟩
    exact run.keepsApart_iff.mp hapart
  · intro hnone
    exact ⟨run.proposal_of_unanswered hnone, run.keepsApart_iff.mpr hnone⟩

end RevisedRun

end AfterSales

/-! ### A ticket list read before the revision -/

namespace AfterSales.RevisedRun

section TicketsFirst

attribute [local instance] PolicyDigest.bySource ProofDigest.byId ResultDigest.byName

/-- A run of the two passes that both end. -/
def ofOrders (tickets : List LogisticsTicket) (firstOrder secondOrder : List ReadTool)
    (hfirst : (firstPassOf tickets firstOrder).toOption.isSome)
    (hrevises : (ended _ hfirst).gateResult.outcome = .revision .stalledTracking)
    (hsecond : (secondPassOf tickets secondOrder (ended _ hfirst)).toOption.isSome) : RevisedRun where
  trusted := missingReport
  revised := .stalledTracking
  caseRows := []
  cache := .empty
  arguments := {}
  firstCatalog := fun _ => shippedCatalog tickets
  firstSelector := followOrder firstOrder
  first := ended _ hfirst
  secondCatalog := fun _ => shippedCatalog tickets
  secondSelector := followOrder secondOrder
  second := ended _ hsecond
  caseReads := .none
  switches := by decide
  firstPass := ended_eq hfirst
  revises := hrevises
  secondPass := ended_eq hsecond

/-- The order is read first; the revised pass reads the rest. -/
def orderFirst : RevisedRun :=
  ofOrders [] [.getOrderContext]
    [.getLogisticsTimeline, .searchAfterSalesPolicy, .getExistingLogisticsTickets]
    (by decide +kernel) (by decide +kernel) (by decide +kernel)

theorem orderFirst_read_for_revised :
    orderFirst.second.gateResult.Proposes ∧ orderFirst.ReadForRevised .searchAfterSalesPolicy ∧
      orderFirst.ReadForRevised .getExistingLogisticsTickets ∧ orderFirst.KeepsApart := by
  have hproposes : orderFirst.second.gateResult.Proposes := by decide +kernel
  have hunanswered : ¬ orderFirst.AnsweredFirst := by
    unfold AnsweredFirst
    decide +kernel
  obtain ⟨hread, hapart⟩ := orderFirst.read_for_revised_iff.1.mpr hunanswered
  exact ⟨hproposes, (hread hproposes).1, (hread hproposes).2, hapart⟩

/-- The tickets are read first, for the reported issue; a ticket of the revised issue is open. -/
def ticketsFirst : RevisedRun :=
  ofOrders [⟨"TCK-1", "ORD-1", .stalledTracking, "open", none, 0, 0⟩]
    [.getExistingLogisticsTickets, .getOrderContext]
    [.getLogisticsTimeline, .searchAfterSalesPolicy]
    (by decide +kernel) (by decide +kernel) (by decide +kernel)

/-- A ticket is proposed although one is open for the revised issue: the ticket list was read for
    the reported one. -/
theorem ticketsFirst_proposes :
    ticketsFirst.second.gateResult.Proposes ∧
      ¬ ticketsFirst.ReadForRevised .getExistingLogisticsTickets ∧
      (shippedCatalog [⟨"TCK-1", "ORD-1", .stalledTracking, "open", none, 0, 0⟩]).store.getActiveTickets
        "ORD-1" .stalledTracking none ≠ [] := by
  refine ⟨by decide +kernel, ?_, by decide +kernel⟩
  rintro ⟨arguments, harguments, hissue⟩
  have hreported : argumentsByTool ticketsFirst.second.records .getExistingLogisticsTickets
      = some ⟨"ORD-1", some .signedNotReceived⟩ := by decide +kernel
  rw [hreported, Option.some.injEq] at harguments
  subst harguments
  cases hissue

end TicketsFirst

end AfterSales.RevisedRun
