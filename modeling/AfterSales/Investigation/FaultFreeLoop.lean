import AfterSales.Investigation.FaultFree

/-! The loop refines the reading machine.

    `HasRead` relates a state of the loop to the tools the machine has read: the records, results,
    progress, counters and cache are the ones that exactly these reads leave. One turn of the loop,
    a selection and the read it asks for, is one step of the machine. -/

namespace AfterSales.FaultFreeWorld
open EvidenceProgressReducer

variable [PolicyDigest] [ResultDigest] (w : FaultFreeWorld)

/-- The loop has read exactly `read`, in `turns` planning turns. -/
structure HasRead (read : List ReadTool) (turns : Nat) (s : InvestigationState) : Prop where
  machine : w.Reads read
  tools : s.coordinator.records.map (·.toolName) = read
  success : ∀ r ∈ s.coordinator.records,
    r.result.executionStatus = .success ∧ r.actualExecution = true
  referenced : ∀ r ∈ s.coordinator.records,
    r.result.toEvidenceRefs r.toolCallId ⊆ s.coordinator.evidenceRefs
  results : s.coordinator.latestResults = w.resultsOf read
  progress : s.coordinator.progress = Coordinator.rebuildProgress w.trusted s.coordinator.records
    s.coordinator.evidenceRefs none
  noRetry : s.coordinator.pendingRetry = none
  noGuard : s.coordinator.fixtureGuardReason = none
  fingerprints : ∀ f ∈ s.coordinator.priorFingerprints, f.evidenceProgress.revision < turns
  unchanged : s.coordinator.guard.unchangedSelectorTurns = 0
  reads : s.governed.budget.actualReadToolExecutions = read.length
  runTurns : s.governed.budget.runPlanningTurns = turns
  caseTurns : s.governed.budget.casePlanningTurns = turns
  planning : s.planningTurns = turns
  notExhausted : s.budgetExhausted = false
  cache : ∀ key : ToolCacheKey, key.toolName ∉ read → s.governed.cache.get key = none ∧
    s.governed.cache.lastResultRetryable key = false ∧ s.governed.cache.actualAttempts key = 0

/-- Between two turns: the loop is about to stop exactly when the machine has halted. -/
structure AtAgent (read : List ReadTool) (s : InvestigationState) : Prop extends
    HasRead w read read.length s where
  stops : (s.coordinator.terminalReason.isSome ∨ s.coordinator.earlyStopReason.isSome) ↔
    w.halted read = true

variable {w} {read : List ReadTool} {turns : Nat} {s : InvestigationState}

omit [ResultDigest] in
/-- A success is referenced by at least one evidence reference of its call and hash. -/
theorem refs_nonempty {r : CallRecord} {refs : List EvidenceRef}
    (hs : r.result.executionStatus = .success)
    (href : r.result.toEvidenceRefs r.toolCallId ⊆ refs) :
    evidenceRefsFor refs r.toHistoryCall ≠ [] := by
  have hhead : ∃ ref ∈ r.result.toEvidenceRefs r.toolCallId,
      ref.toolCallId = r.toolCallId ∧ ref.resultHash = r.result.resultHash := by
    simp only [ToolResult.toEvidenceRefs, if_neg (not_not.mpr hs)]
    split_ifs with hids
    · exact ⟨_, List.mem_map.mpr ⟨none, by simp, rfl⟩, rfl, rfl⟩
    · obtain ⟨x, hx⟩ := List.exists_mem_of_ne_nil _ hids
      exact ⟨_, List.mem_map.mpr ⟨some x, by simp [hx], rfl⟩, rfl, rfl⟩
  obtain ⟨ref, hmem, hid, hhash⟩ := hhead
  refine List.ne_nil_of_mem (a := ref) (List.mem_filter.mpr ⟨href hmem, ?_⟩)
  simp [CallRecord.toHistoryCall, hid, hhash]

omit [ResultDigest] in
/-- A successful, referenced record is a clean call. -/
theorem clean_record {r : CallRecord} {refs : List EvidenceRef}
    (hs : r.result.executionStatus = .success)
    (href : r.result.toEvidenceRefs r.toolCallId ⊆ refs) :
    Clean refs r.toHistoryCall r.toolName where
  scope := ⟨rfl, rfl, rfl⟩
  success := congrArg some hs
  availability := by
    have h := (r.result.successEnvelope hs).1
    simp only [CallRecord.toHistoryCall, Option.some.injEq]
    cases e : r.result.evidenceAvailability with
    | present => exact Or.inl rfl
    | absent => exact Or.inr rfl
    | unavailable => exact absurd e h
  hash := ⟨rfl, rfl⟩
  referenced := refs_nonempty hs href

omit [ResultDigest] in
theorem forall₂_clean {refs : List EvidenceRef} : ∀ {records : List CallRecord},
    (∀ r ∈ records, r.result.executionStatus = .success ∧ r.actualExecution = true) →
    (∀ r ∈ records, r.result.toEvidenceRefs r.toolCallId ⊆ refs) →
    List.Forall₂ (Clean refs) (records.map CallRecord.toHistoryCall) (records.map (·.toolName))
  | [], _, _ => List.Forall₂.nil
  | r :: records, hs, href => by
    refine List.Forall₂.cons (clean_record (hs r List.mem_cons_self).1 (href r List.mem_cons_self))
      (forall₂_clean (fun x hx => hs x (List.mem_cons_of_mem _ hx))
        fun x hx => href x (List.mem_cons_of_mem _ hx))

omit [ResultDigest] in
/-- The revision counts the actual executions. -/
theorem revision_of_actual {trusted : TrustedToolContext} {records : List CallRecord}
    {refs : List EvidenceRef} {pending : Option RetryDirective}
    (h : ∀ r ∈ records, r.actualExecution = true) :
    (Coordinator.rebuildProgress trusted records refs pending).revision = records.length := by
  simp only [Coordinator.rebuildProgress, rebuild, build]
  rw [List.filter_eq_self.mpr, List.length_map]
  intro c hc
  obtain ⟨r, hr, rfl⟩ := List.mem_map.mp hc
  simp [CallRecord.toHistoryCall, h r hr]

namespace HasRead

/-- The pass over the records answers exactly the tools read. -/
theorem answers (h : HasRead w read turns s) : Answers w.issue read
    ((s.coordinator.records.map CallRecord.toHistoryCall).foldl
      (step w.trusted.caseId w.trusted.runId w.issue s.coordinator.evidenceRefs none)
      (Pass.start w.issue)) := by
  have hclean := forall₂_clean h.success h.referenced
  rw [h.tools] at hclean
  exact Answers.foldl hclean (by simpa using h.machine.nodup) h.machine.relevant _ Answers.start

theorem terminal_nil (h : HasRead w read turns s) :
    s.coordinator.progress.terminalTriggerCodes = [] := by
  rw [h.progress]
  have := h.answers.noTerminal
  simp only [Coordinator.rebuildProgress, rebuild, build]
  simp only [issue] at this
  simp [this]

theorem satisfied_of_read (h : HasRead w read turns s) {t : ReadTool} (ht : t ∈ read) :
    (s.coordinator.progress.requirements t.requirement).status.satisfied := by
  rw [h.progress]
  exact h.answers.answered t ht

theorem missing_of_unread (h : HasRead w read turns s) {t : ReadTool} (ht : t ∉ read) :
    (s.coordinator.progress.requirements t.requirement).status = .missing := by
  rw [h.progress]
  exact congrArg (·.status) (h.answers.open_ t ht)

theorem satisfied_iff (h : HasRead w read turns s) (t : ReadTool) :
    (s.coordinator.progress.requirements t.requirement).status.satisfied = true ↔ t ∈ read := by
  refine ⟨fun hs => ?_, h.satisfied_of_read⟩
  by_contra hn
  rw [h.missing_of_unread hn] at hs
  cases hs

theorem revision_eq (h : HasRead w read turns s) :
    s.coordinator.progress.revision = read.length := by
  rw [h.progress, revision_of_actual fun r hr => (h.success r hr).2, ← h.tools, List.length_map]

/-- The gate is ready exactly when the machine's evidence is complete. -/
theorem readiness (h : HasRead w read turns s) :
    s.coordinator.progress.gateReadiness = .evaluable ↔ w.evaluable read = true := by
  have hconflict : ¬ ∃ c, (s.coordinator.progress.requirements c).status = .conflict := by
    rintro ⟨c, hc⟩
    rw [← c.requirement_tool] at hc
    by_cases ht : c.tool ∈ read
    · have := h.satisfied_of_read ht
      rw [hc] at this
      cases this
    · rw [h.missing_of_unread ht] at hc
      cases hc
  have hiff : s.coordinator.progress.gateReadiness = .evaluable ↔
      (∀ c ∈ requiredByIssue w.issue,
        (s.coordinator.progress.requirements c).status.satisfied) ∧
      ∀ c, (s.coordinator.progress.requirements c).status ≠ .conflict := by
    rw [h.progress]
    exact build_evaluable
  rw [hiff, and_iff_left fun c hc => hconflict ⟨c, hc⟩]
  unfold evaluable requiredObservationTools
  simp only [List.all_map, List.all_eq_true, Function.comp_apply, decide_eq_true_eq]
  refine forall₂_congr fun c _ => ?_
  have hread := h.satisfied_iff c.tool
  rwa [c.requirement_tool] at hread

/-- The optional alert read is pending for the loop exactly when it is for the machine. -/
theorem needsCarrier (h : HasRead w read turns s) :
    s.coordinator.needsCarrierContext w.trusted = w.carrierPending read := by
  have hstatus : decide ((s.coordinator.progress.requirements .carrierAlertContext).status
      = .missing) = decide (ReadTool.getCarrierServiceAlerts ∉ read) := by
    by_cases hr : ReadTool.getCarrierServiceAlerts ∈ read
    · have hsat := h.satisfied_of_read hr
      have : (s.coordinator.progress.requirements .carrierAlertContext).status ≠ .missing := by
        intro e
        simp only [ReadTool.requirement] at hsat
        rw [e] at hsat
        cases hsat
      simp [this, hr]
    · have := h.missing_of_unread hr
      simp only [ReadTool.requirement] at this
      simp [this, hr]
  unfold Coordinator.needsCarrierContext carrierPending
  rw [hstatus, h.results]
  rfl

end HasRead

/-! ### The read of one turn -/

variable [ProofDigest]

/-- A tool not read yet is answered by its source; only queries of this tool are affected. -/
theorem executeResult_eq (h : HasRead w read turns s) (hgo : w.halted read = false) {t : ReadTool}
    (ht : t ∉ read) (hrel : w.Relevant t) :
    ∃ governed : GovernedState,
      GovernedToolExecutor.executeResult w.catalog w.trusted s.governed t (w.arguments t) =
        (.ok (w.answer t), governed) ∧
      governed.budget.actualReadToolExecutions = read.length + 1 ∧
      governed.budget.runPlanningTurns = turns ∧ governed.budget.casePlanningTurns = turns ∧
      ∀ key : ToolCacheKey, key.toolName ≠ t →
        CaseToolCache.AgreeAt governed.cache s.governed.cache key := by
  set key := GovernedToolExecutor.cacheKey w.catalog w.trusted t (w.arguments t) with hkey
  have hlt := h.machine.length_lt hgo
  have hvalid : GovernedToolExecutor.validateArguments w.trusted t (w.arguments t) = none := by
    have hallowed : ∀ issue ∈ t.restrictedTo, w.trusted.canonicalIssueType = issue :=
      (w.relevant_iff_allowed t).mp hrel
    unfold GovernedToolExecutor.validateArguments arguments
    rw [if_neg (by cases t <;> simp [ReadTool.takesIssue]), if_neg (by simp),
      if_neg (by simpa using hallowed), if_neg (by simp [issue])]
  obtain ⟨hget, hretry, hattempts⟩ := h.cache key ht
  have hexhausted : ¬ s.governed.cache.retryExhausted key = true := by
    simp [CaseToolCache.retryExhausted, hretry]
  obtain ⟨budget, hbudget, hreads, hrun, hcase⟩ :=
    ToolBudget.recordActualExecution_of_lt (b := s.governed.budget) (by rw [h.reads]; omega)
  have hissue : (w.arguments t).issueType.getD w.trusted.canonicalIssueType = w.issue := by
    unfold arguments issue
    split_ifs <;> rfl
  have hread : w.catalog.read w.trusted t (w.arguments t) w.issue
      (s.governed.cache.recordActualAttempt key).1 = some (.ok (w.answer t)) := by
    unfold SyntheticReadToolCatalog.read
    rw [show (w.arguments t).orderId = w.trusted.authorizedOrderId from rfl, w.authorized]
    simp only [Option.map_some, CaseToolCache.recordActualAttempt, hattempts, Nat.zero_add,
      w.noFault t, w.readSource_eq t]
  refine ⟨⟨(s.governed.cache.recordActualAttempt key).2.store key (w.answer t), budget⟩, ?_,
    by rw [hreads, h.reads], hrun.trans h.runTurns, hcase.trans h.caseTurns, fun other ho =>
      CaseToolCache.agree_after_read _ (fun e => ho (congrArg ToolCacheKey.toolName e)) _⟩
  unfold GovernedToolExecutor.executeResult
  simp only [hvalid]
  rw [show (w.arguments t).orderId = w.trusted.authorizedOrderId from rfl, w.authorized]
  simp only [← hkey]
  rw [show s.governed.cache.get key = none from hget]
  simp only [if_neg hexhausted, hbudget, hissue]
  rw [hread]

omit [ProofDigest] in
/-- After a further read the results are those of the longer list. -/
theorem update_resultsOf (read : List ReadTool) (t : ReadTool) :
    Function.update (w.resultsOf read) t (some (w.answer t)) = w.resultsOf (read ++ [t]) := by
  funext tool
  unfold resultsOf
  by_cases e : tool = t
  · subst e; simp
  · simp [e]

/-- The state in which a selected read is about to run. -/
structure AtTools (w : FaultFreeWorld) (read : List ReadTool) (s : InvestigationState) : Prop
    extends HasRead w read (read.length + 1) s where
  go : w.halted read = false
  input : s.coordinator.selectorInputProgress = s.coordinator.progress
  noReason : s.coordinator.terminalReason = none
  noEarlyStop : s.coordinator.earlyStopReason = none

/-- The record of a selected read: an actual, successful call of the tool. -/
def readRecord (w : FaultFreeWorld) (s : InvestigationState) (t : ReadTool) (turn : Nat) :
    CallRecord where
  toolCallId := ⟨w.trusted.runId, s.coordinator.records.length⟩
  toolName := t
  normalizedArgs := w.arguments t
  attemptNumber := Coordinator.nextAttempt s.coordinator.records t
  actualExecution := true
  cacheHit := false
  blocked := false
  result := w.answer t
  sourceVersion := (w.catalog.sourceRevision w.trusted.authorizedOrderId t).getD ""
  planningTurn := turn

theorem traceRead_eq (h : AtTools w read s) {t : ReadTool} (ht : t ∉ read) (hrel : w.Relevant t) :
    ∃ (turn : Nat) (governed : GovernedState),
      InvestigationGraph.traceRead w.catalog w.trusted s t (w.arguments t) =
        (.ok (w.readRecord s t turn), governed) ∧
      governed.budget.actualReadToolExecutions = read.length + 1 ∧
      governed.budget.runPlanningTurns = read.length + 1 ∧
      governed.budget.casePlanningTurns = read.length + 1 ∧
      ∀ key : ToolCacheKey, key.toolName ≠ t →
        CaseToolCache.AgreeAt governed.cache s.governed.cache key := by
  obtain ⟨governed, hexec, hreads, hrun, hcase, hcache⟩ := executeResult_eq h.toHasRead h.go ht hrel
  refine ⟨max governed.budget.runPlanningTurns 1, governed, ?_, hreads, hrun, hcase, hcache⟩
  have hactual : s.governed.budget.actualReadToolExecutions
      < governed.budget.actualReadToolExecutions := by rw [h.reads, hreads]; omega
  unfold InvestigationGraph.traceRead InvestigationGraph.callRecord readRecord
  rw [hexec]
  simp only [Except.map, decide_eq_true hactual, Bool.not_true, Bool.false_and]

/-- What a selected read settles: exactly the longer list, however the route ends the run. -/
theorem hasRead_absorb (h : AtTools w read s) {t : ReadTool} (ht : t ∉ read) (hrel : w.Relevant t)
    {turn : Nat} {governed : GovernedState} (reason : Option String)
    (hreads : governed.budget.actualReadToolExecutions = read.length + 1)
    (hrun : governed.budget.runPlanningTurns = read.length + 1)
    (hcase : governed.budget.casePlanningTurns = read.length + 1)
    (hcache : ∀ key : ToolCacheKey, key.toolName ≠ t →
      CaseToolCache.AgreeAt governed.cache s.governed.cache key) :
    HasRead w (read ++ [t]) (read.length + 1)
      { s with
        governed := governed
        coordinator := { s.coordinator.absorb w.trusted (w.readRecord s t turn)
            ((w.answer t).toEvidenceRefs ⟨w.trusted.runId, s.coordinator.records.length⟩) with
          terminalReason := reason } } := by
  have hlen : (read ++ [t]).length = read.length + 1 := by simp
  have hsuccess := w.answer_success t
  have hpending : s.coordinator.nextPendingRetry (w.readRecord s t turn) = none := by
    unfold Coordinator.nextPendingRetry
    rw [if_neg (by simp [readRecord, not_transient hsuccess]), if_neg (by simp [h.noRetry]),
      if_pos (by simp [readRecord, hsuccess])]
  have hactual : ∀ r ∈ s.coordinator.records ++ [w.readRecord s t turn],
      r.actualExecution = true := by
    intro r hr
    rcases List.mem_append.mp hr with hr | hr
    · exact (h.success r hr).2
    · rw [List.mem_singleton.mp hr]; rfl
  refine
    { machine := .read h.machine h.go ht hrel
      tools := ?_
      success := ?_
      referenced := ?_
      results := ?_
      progress := ?_
      noRetry := hpending
      noGuard := h.noGuard
      fingerprints := h.fingerprints
      unchanged := ?_
      reads := by rw [hlen]; exact hreads
      runTurns := hrun
      caseTurns := hcase
      planning := h.planning
      notExhausted := h.notExhausted
      cache := ?_ }
  · simp [Coordinator.absorb, h.tools, readRecord]
  · intro r hr
    rcases List.mem_append.mp hr with hr | hr
    · exact h.success r hr
    · rw [List.mem_singleton.mp hr]; exact ⟨hsuccess, rfl⟩
  · intro r hr
    rcases List.mem_append.mp hr with hr | hr
    · exact List.Subset.trans (h.referenced r hr) (List.subset_append_left _ _)
    · rw [List.mem_singleton.mp hr]; exact List.subset_append_right _ _
  · show Function.update s.coordinator.latestResults t (some (w.answer t)) = _
    rw [h.results, update_resultsOf]
  · show Coordinator.rebuildProgress _ _ _ (s.coordinator.nextPendingRetry _) = _
    rw [hpending]
    rfl
  · show (if s.coordinator.selectorInputProgress = _ then _ else 0) = 0
    refine if_neg fun e => ?_
    have hrev := congrArg EvidenceProgressSnapshot.revision e
    rw [h.input, h.revision_eq, revision_of_actual hactual, List.length_append,
      ← List.length_map fun r : CallRecord => r.toolName,
      h.tools] at hrev
    simp at hrev
  · intro key hkey
    have hne : key.toolName ≠ t := fun e => hkey (by simp [e])
    have hunread : key.toolName ∉ read := fun e => hkey (List.mem_append_left _ e)
    obtain ⟨hget, hattempts, hretry⟩ := hcache key hne
    obtain ⟨h1, h2, h3⟩ := h.cache key hunread
    exact ⟨hget.trans h1, hretry.trans h2, hattempts.trans h3⟩

/-- Without a fault the route after a read only asks whether the evidence is complete. -/
theorem route_eq (h : HasRead w read turns s) (hturns : turns < 8) (t : ReadTool) (turn : Nat)
    (s₀ : InvestigationState) :
    observationRoute s.coordinator.progress s.governed.budget
        (w.readRecord s₀ t turn).attemptNumber (w.readRecord s₀ t turn).result
        s.coordinator.pendingRetry (w.readRecord s₀ t turn).sourceVersion
        s.coordinator.guard.unchangedSelectorTurns =
      if w.evaluable read then ⟨.finalize, .gateReady⟩ else ⟨.replan, .replanRequired⟩ := by
  have hreads := h.machine.length_le
  unfold observationRoute
  rw [if_neg (by simp [h.terminal_nil]),
    if_neg (by rw [h.caseTurns, h.runTurns, h.reads]; omega),
    if_neg (by simp [h.noRetry]),
    if_neg (by simp [h.noRetry, readRecord, not_transient (w.answer_success t)])]
  by_cases he : w.evaluable read = true
  · rw [if_pos (h.readiness.mpr he), if_pos he]
  · rw [if_neg fun e => he (h.readiness.mp e), if_neg (by rw [h.unchanged]; omega), if_neg he]

/-- A selected read is one step of the machine. -/
theorem atAgent_callTool (h : AtTools w read s) {t : ReadTool} (ht : t ∉ read)
    (hrel : w.Relevant t) :
    ∃ s', (∀ selector, InvestigationGraph.step w.catalog w.trusted selector
        (.tools t (w.arguments t)) s = .ok (.agent, s')) ∧ AtAgent w (read ++ [t]) s' := by
  obtain ⟨turn, governed, htrace, hreads, hrun, hcase, hcache⟩ := traceRead_eq h ht hrel
  set refs := (w.answer t).toEvidenceRefs ⟨w.trusted.runId, s.coordinator.records.length⟩
  set c := s.coordinator.absorb w.trusted (w.readRecord s t turn) refs with hc
  have hread : HasRead w (read ++ [t]) (read.length + 1)
      { s with governed := governed, coordinator := c } :=
    hasRead_absorb h ht hrel c.terminalReason hreads hrun hcase hcache
  have hlen : (read ++ [t]).length = read.length + 1 := by simp
  have hfew := hread.machine.length_le
  have hearly : c.earlyStopReason = w.earlyStop (read ++ [t]) := by
    show (Coordinator.earlyStopOf w.trusted (Function.update s.coordinator.latestResults t
      (some (w.answer t))) t (w.answer t)).or s.coordinator.earlyStopReason = _
    rw [h.noEarlyStop, h.results, update_resultsOf, Option.or_none]
    simp [earlyStop]
  have hterminal : c.terminalReason = none := by
    have hunchanged : c.guard.unchangedSelectorTurns = 0 := hread.unchanged
    have hreason : c.terminalReason =
        ((if c.guard.unchangedSelectorTurns ≥ 2 then some RecoveryReasonCode.stuckNoEvidenceProgress
          else none).map (·.value)).or s.coordinator.terminalReason := rfl
    rw [hreason, hunchanged, h.noReason]
    rfl
  set reason := Coordinator.routeReason
    (c.recover w.trusted governed.budget (w.readRecord s t turn)) c.terminalReason with hreason
  have hcall : InvestigationGraph.callTool w.catalog w.trusted s t (w.arguments t) = .ok
      { s with governed := governed, coordinator := { c with terminalReason := reason } } := by
    unfold InvestigationGraph.callTool
    rw [htrace]
    rfl
  have hroute := route_eq hread (by omega) t turn s
  have hcarrier : c.needsCarrierContext w.trusted = w.carrierPending (read ++ [t]) :=
    hread.needsCarrier
  refine ⟨_, fun selector => by rw [InvestigationGraph.step, hcall]; rfl,
    by rw [hlen]; exact hasRead_absorb h ht hrel _ hreads hrun hcase hcache, ?_⟩
  show reason.isSome = true ∨ c.earlyStopReason.isSome = true ↔ _
  unfold Coordinator.recover at hreason
  simp only at hroute hreason
  rw [hroute, hcarrier, hearly, hterminal] at hreason
  rw [hreason, hearly]
  unfold halted
  by_cases he : (w.earlyStop (read ++ [t])).isSome = true
  · simp [he]
  · simp only [if_neg he]
    cases hev : w.evaluable (read ++ [t]) <;> cases hcp : w.carrierPending (read ++ [t]) <;>
      simp [he, Coordinator.routeReason]

/-! ### The selection of one turn -/

/-- `before_selector` ends the run exactly when the machine has halted. -/
theorem beforeSelector_eq (h : AtAgent w read s) (budget : ToolBudget) :
    s.coordinator.beforeSelector w.catalog w.trusted budget =
      (if w.halted read then .terminal else .select,
        { s.coordinator with selectorInputProgress := s.coordinator.progress }) := by
  have hcarrier : Coordinator.needsCarrierContext w.trusted
      { s.coordinator with selectorInputProgress := s.coordinator.progress } =
      w.carrierPending read := h.needsCarrier
  rw [Coordinator.beforeSelector_of_clear h.noGuard h.noRetry]
  unfold Coordinator.settle
  rw [hcarrier]
  by_cases hhalt : w.halted read = true
  · rw [if_pos (h.stops.mpr hhalt), if_pos hhalt]
  · rw [if_neg fun e => hhalt (h.stops.mp e), if_neg, if_neg hhalt]
    rintro ⟨he, hc⟩
    exact hhalt (by simp [halted, h.readiness.mp he, Bool.eq_false_iff.mpr hc])

/-- A halted loop finishes at its next step, with what it has read. -/
theorem callModel_halted (h : AtAgent w read s) (hhalt : w.halted read = true)
    (selector : ObservationSelector) :
    ∃ s', InvestigationGraph.callModel w.catalog w.trusted selector s = .ok (.finished, s') ∧
      HasRead w read read.length s' := by
  refine ⟨{ s with coordinator :=
    { s.coordinator with selectorInputProgress := s.coordinator.progress } }, ?_,
    { h.toHasRead with }⟩
  unfold InvestigationGraph.callModel
  rw [beforeSelector_eq h, if_pos hhalt]

end AfterSales.FaultFreeWorld

namespace AfterSales
variable [PolicyDigest] [ResultDigest] [ProofDigest]

/-- At this point of the run the selector names a read that the validator accepts. -/
def AsksForAcceptedRead (trusted : TrustedToolContext) (selector : ObservationSelector)
    (budget : ToolBudget) (c : Coordinator) : Prop :=
  ∃ candidate observation, selector (c.context trusted budget) = .candidate candidate ∧
    candidate.action = .callTool ∧
    ObservationValidator.validate (some candidate) (c.context trusted budget) trusted
      c.pendingRetry none = .ok observation

/-- Whenever the run consults the selector, it names a read that the validator accepts. -/
def AllCandidatesAccepted (catalog : SyntheticReadToolCatalog) (trusted : TrustedToolContext)
    (selector : ObservationSelector) : Nat → GraphNode → InvestigationState → Prop
  | 0, _, _ => True
  | n + 1, node, s =>
    (∀ c budget, node = .agent →
      s.coordinator.beforeSelector catalog trusted s.governed.budget = (.select, c) →
      s.governed.budget.recordPlanningTurn = some budget →
      AsksForAcceptedRead trusted selector budget c) ∧
    ∀ node' s', InvestigationGraph.step catalog trusted selector node s = .ok (node', s') →
      AllCandidatesAccepted catalog trusted selector n node' s'

end AfterSales

namespace AfterSales.FaultFreeWorld
open EvidenceProgressReducer

variable [PolicyDigest] [ResultDigest] [ProofDigest] {w : FaultFreeWorld} {read : List ReadTool}
  {turns : Nat} {s : InvestigationState}

omit [ProofDigest] in
/-- The counters of a turn that follows `read`. -/
theorem consult (h : AtAgent w read s) (hgo : w.halted read = false) :
    ∃ budget, s.governed.budget.recordPlanningTurn = some budget ∧
      budget.actualReadToolExecutions = read.length ∧ budget.runPlanningTurns = read.length + 1 ∧
      budget.casePlanningTurns = read.length + 1 := by
  have hlt := h.machine.length_lt hgo
  obtain ⟨budget, hb, hreads, hrun, hcase⟩ := ToolBudget.recordPlanningTurn_of_lt
    (b := s.governed.budget) (by rw [h.caseTurns]; omega) (by rw [h.runTurns]; omega)
  exact ⟨budget, hb, hreads.trans h.reads, by rw [hrun, h.runTurns], by rw [hcase, h.caseTurns]⟩

/-- An accepted read is one of a relevant tool that has not been read, and the loop goes to it. -/
theorem callModel_accepted (h : AtAgent w read s) (hgo : w.halted read = false)
    {selector : ObservationSelector} {budget : ToolBudget}
    (hbudget : s.governed.budget.recordPlanningTurn = some budget)
    (hasks : AsksForAcceptedRead w.trusted selector budget
      { s.coordinator with selectorInputProgress := s.coordinator.progress }) :
    ∃ t s', t ∉ read ∧ w.Relevant t ∧
      (∃ candidate, selector ({ s.coordinator with
          selectorInputProgress := s.coordinator.progress }.context w.trusted budget)
        = .candidate candidate ∧ candidate.toolName = some t) ∧
      InvestigationGraph.callModel w.catalog w.trusted selector s =
        .ok (.tools t (w.arguments t), s') ∧ AtTools w read s' := by
  obtain ⟨candidate, observation, hselect, haction, hvalid⟩ := hasks
  have hok := ObservationValidator.validate_ok hvalid
  obtain ⟨t, htool⟩ := Option.isSome_iff_exists.mp (candidate.callShape haction).1
  have hrequest : observation.toolName = some t := by
    have hreq := hok.request
    unfold ObservationValidator.requested at hreq
    rw [haction, htool] at hreq
    simp only at hreq
    split at hreq
    · cases hreq
    · exact (Except.ok.inj hreq).symm
  have hpassed := hok.request
  rw [hrequest] at hpassed
  obtain ⟨hallowed, -, hopen⟩ :=
    ObservationValidator.rejectCall_eq_none.mp (ObservationValidator.requested_some hpassed).2
  have hnew : t ∉ read := by
    intro hmem
    have hsat := h.satisfied_of_read hmem
    simp only [Coordinator.context] at hopen
    revert hsat hopen
    cases (s.coordinator.progress.requirements t.requirement).status <;> decide
  have harguments : observation.canonicalArguments = some (w.arguments t) := by
    rw [hok.arguments, hrequest]
    rfl
  obtain ⟨budget', hbudget', hreads, hrun, hcase⟩ := consult h hgo
  obtain rfl : budget = budget' := Option.some.inj (hbudget.symm.trans hbudget')
  have hlt := h.machine.length_lt hgo
  refine ⟨t,
    { s with
      governed := { s.governed with budget := budget }
      planningTurns := s.planningTurns + 1
      coordinator := { s.coordinator with
        selectorInputProgress := s.coordinator.progress
        priorFingerprints := s.coordinator.priorFingerprints ++ [observation.decisionFingerprint] } },
    hnew, (w.relevant_iff_allowed t).mpr hallowed, ⟨candidate, hselect, htool⟩, ?_, ?_⟩
  · have hfree : (!decide (∃ p ∈ some candidate, p.toolName.isSome)) = false := by
      simp [htool]
    unfold InvestigationGraph.callModel
    rw [beforeSelector_eq h, hgo]
    simp only [Bool.false_eq_true, if_false, hbudget, hselect]
    unfold Coordinator.selectObservation
    simp only [hfree, Bool.false_and, Bool.false_eq_true, if_false, hvalid, hrequest, harguments]
    simp only [InvestigationGraph.endTurn, InvestigationGraph.routeToTools]
    rw [if_neg (by rw [h.planning]; omega)]
  · exact
      { h.toHasRead with
        fingerprints := fun f hf => by
          rcases List.mem_append.mp hf with hf | hf
          · exact Nat.lt_succ_of_lt (h.fingerprints f hf)
          · rw [List.mem_singleton.mp hf, hok.progress]
            exact Nat.lt_succ_of_le h.revision_eq.le
        reads := hreads
        runTurns := hrun
        caseTurns := hcase
        planning := congrArg (· + 1) h.planning
        go := hgo
        input := rfl
        noReason := Option.not_isSome_iff_eq_none.mp fun e => by
          have := h.stops.mp (Or.inl e)
          simp [hgo] at this
        noEarlyStop := Option.not_isSome_iff_eq_none.mp fun e => by
          have := h.stops.mp (Or.inr e)
          simp [hgo] at this }

/-- An accepted selector drives the loop along the machine until it halts. -/
theorem run_of_accepted {selector : ObservationSelector} : ∀ (k : Nat) {read : List ReadTool}
    {s : InvestigationState} {n : Nat}, 5 ≤ read.length + k → 2 * k + 1 ≤ n → AtAgent w read s →
    AllCandidatesAccepted w.catalog w.trusted selector n .agent s →
    ∃ final s', w.Reads final ∧ w.halted final = true ∧ HasRead w final final.length s' ∧
      InvestigationGraph.run (fun _ => w.catalog) w.trusted selector n .agent s = .ok s' := by
  intro k
  induction k with
  | zero =>
    intro read s n hk hn h hacc
    obtain ⟨n, rfl⟩ := Nat.exists_eq_add_of_le' hn
    have hhalt : w.halted read = true := by
      by_contra hgo
      have := h.machine.length_lt (Bool.eq_false_iff.mpr hgo)
      omega
    obtain ⟨s', hstep, hread⟩ := callModel_halted h hhalt selector
    refine ⟨read, s', h.machine, hhalt, hread, ?_⟩
    simp only [InvestigationGraph.run, InvestigationGraph.step, hstep]
  | succ k ih =>
    intro read s n hk hn h hacc
    obtain ⟨n, rfl⟩ : ∃ m, n = m + 2 := ⟨n - 2, by omega⟩
    by_cases hhalt : w.halted read = true
    · obtain ⟨s', hstep, hread⟩ := callModel_halted h hhalt selector
      refine ⟨read, s', h.machine, hhalt, hread, ?_⟩
      simp only [InvestigationGraph.run, InvestigationGraph.step, hstep]
    · have hgo := Bool.eq_false_iff.mpr hhalt
      obtain ⟨budget, hbudget, -⟩ := consult h hgo
      have hselect := beforeSelector_eq h s.governed.budget
      rw [hgo] at hselect
      obtain ⟨t, s₁, hnew, hrel, -, hcall, htools⟩ :=
        callModel_accepted h hgo hbudget (hacc.1 _ _ rfl hselect hbudget)
      obtain ⟨s₂, hread, hagent⟩ := atAgent_callTool htools hnew hrel
      have hacc' := (hacc.2 _ _ hcall).2 _ _ (hread selector)
      obtain ⟨final, s', hreads, hfinal, hhas, hrun⟩ := ih (by simp; omega) (by omega) hagent hacc'
      refine ⟨final, s', hreads, hfinal, hhas, ?_⟩
      have hturn : InvestigationGraph.step w.catalog w.trusted selector .agent s =
          .ok (.tools t (w.arguments t), s₁) := hcall
      rw [InvestigationGraph.run_step _ _ (by simp) hturn,
        InvestigationGraph.run_step _ _ (by simp) (hread selector)]
      exact hrun

/-! ### A selector for each run of the machine -/

omit [ProofDigest] in
/-- The validator accepts a call of any relevant tool that has not been read. -/
theorem accepts_unread (h : AtAgent w read s) (hgo : w.halted read = false) {budget : ToolBudget}
    (hbudget : s.governed.budget.recordPlanningTurn = some budget) {t : ReadTool} (ht : t ∉ read)
    (hrel : w.Relevant t) :
    ∃ observation, ObservationValidator.validate (some (callCandidate t))
      ({ s.coordinator with selectorInputProgress := s.coordinator.progress }.context
        w.trusted budget) w.trusted s.coordinator.pendingRetry none = .ok observation := by
  obtain ⟨budget', hbudget', hreads, hrun, hcase⟩ := consult h hgo
  obtain rfl : budget = budget' := Option.some.inj (hbudget.symm.trans hbudget')
  have hlt := h.machine.length_lt hgo
  set context := ({ s.coordinator with selectorInputProgress := s.coordinator.progress }.context
    w.trusted budget) with hcontext
  have hprogress : context.evidenceProgress = s.coordinator.progress := rfl
  have hprior : context.priorDecisionFingerprints = s.coordinator.priorFingerprints := rfl
  have hremaining : context.remainingBudget = budget := rfl
  have hopen : ObservationValidator.rejectCall context [t.requirement] t = none := by
    rw [ObservationValidator.rejectCall_eq_none, hprogress, h.missing_of_unread ht]
    exact ⟨(w.relevant_iff_allowed t).mp hrel, rfl, by decide⟩
  rw [h.noRetry]
  refine ObservationValidator.validate_call rfl rfl rfl rfl (by rw [hremaining]; omega) rfl rfl
    hopen fun f hf e => ?_
  have hlast := h.fingerprints f (hprior ▸ hf)
  rw [e, hprogress, h.revision_eq] at hlast
  omega

omit [ProofDigest] in
/-- Following an order, the next tool asked for is the first one not read. -/
theorem followOrder_eq (h : HasRead w read turns s) {t : ReadTool} {rest : List ReadTool}
    (ht : t ∉ read) {context : DecisionContext}
    (hprogress : context.evidenceProgress = s.coordinator.progress) :
    followOrder (read ++ t :: rest) context = .candidate (callCandidate t) := by
  have hread : read.find? (fun t =>
      !(s.coordinator.progress.requirements t.requirement).status.satisfied) = none := by
    rw [List.find?_eq_none]
    intro x hx
    simp [h.satisfied_of_read hx]
  unfold followOrder
  rw [hprogress, List.find?_append, hread, Option.none_or, List.find?_cons_of_pos]
  rw [h.missing_of_unread ht]
  rfl

omit [ProofDigest] in
/-- Following an order, every candidate is accepted. -/
theorem followOrder_asks (h : AtAgent w read s) (hgo : w.halted read = false) {t : ReadTool}
    (rest : List ReadTool) (ht : t ∉ read) (hrel : w.Relevant t) {budget : ToolBudget}
    (hbudget : s.governed.budget.recordPlanningTurn = some budget) :
    AsksForAcceptedRead w.trusted (followOrder (read ++ t :: rest)) budget
      { s.coordinator with selectorInputProgress := s.coordinator.progress } := by
  obtain ⟨observation, hvalid⟩ := accepts_unread h hgo hbudget ht hrel
  exact ⟨callCandidate t, observation, followOrder_eq h.toHasRead ht rfl, rfl, hvalid⟩

theorem allAccepted_finished {selector : ObservationSelector} : ∀ (n : Nat)
    (s : InvestigationState), AllCandidatesAccepted w.catalog w.trusted selector n .finished s
  | 0, _ => trivial
  | n + 1, s => ⟨fun _ _ h => (GraphNode.noConfusion h), fun node' s' h => by
      simp only [InvestigationGraph.step, Except.ok.injEq, Prod.mk.injEq] at h
      obtain ⟨rfl, rfl⟩ := h
      exact allAccepted_finished n s⟩

omit [ProofDigest] in
/-- Every prefix of a list the machine has read has been read, and it had not halted there. -/
theorem Reads.initial {w : FaultFreeWorld} {order : List ReadTool} (h : w.Reads order) :
    ∀ {done rest : List ReadTool} {t : ReadTool}, order = done ++ t :: rest →
      w.Reads done ∧ w.halted done = false ∧ t ∉ done ∧ w.Relevant t := by
  induction h with
  | start =>
    intro done rest t h
    simp at h
  | @read done' tool h go new relevant ih =>
    intro done rest t heq
    rcases List.eq_nil_or_concat rest with rfl | ⟨rest', last, rfl⟩
    · obtain ⟨rfl, hlast⟩ := List.append_inj' heq rfl
      obtain rfl : tool = t := by simpa using hlast
      exact ⟨h, go, new, relevant⟩
    · have hsplit : done' ++ [tool] = (done ++ t :: rest') ++ [last] := by simpa using heq
      exact ih (List.append_inj' hsplit rfl).1

/-- Every halted run of the machine is the run of a selector whose candidates are all accepted. -/
theorem run_followOrder {order : List ReadTool} (horder : w.Reads order)
    (hhalt : w.halted order = true) : ∀ (rest : List ReadTool) {read : List ReadTool}
    {s : InvestigationState} {n : Nat}, order = read ++ rest → AtAgent w read s →
    2 * rest.length + 1 ≤ n →
    AllCandidatesAccepted w.catalog w.trusted (followOrder order) n .agent s ∧
      ∃ s', HasRead w order order.length s' ∧
        InvestigationGraph.run (fun _ => w.catalog) w.trusted (followOrder order) n .agent s
          = .ok s' := by
  intro rest
  induction rest with
  | nil =>
    intro read s n heq h hn
    obtain rfl : order = read := by simpa using heq
    obtain ⟨n, rfl⟩ := Nat.exists_eq_add_of_le' hn
    obtain ⟨s', hstep, hread⟩ := callModel_halted h hhalt (followOrder order)
    refine ⟨⟨fun c budget _ hselect => ?_, fun node' s₁ hs => ?_⟩, s', hread, ?_⟩
    · rw [beforeSelector_eq h, hhalt] at hselect
      simp at hselect
    · simp only [InvestigationGraph.step, hstep, Except.ok.injEq, Prod.mk.injEq] at hs
      obtain ⟨rfl, rfl⟩ := hs
      exact allAccepted_finished _ _
    · simp only [InvestigationGraph.run, InvestigationGraph.step, hstep]
  | cons t rest ih =>
    intro read s n heq h hn
    obtain ⟨-, hgo, hnew, hrel⟩ := horder.initial heq
    obtain ⟨n, rfl⟩ : ∃ m, n = m + 2 := ⟨n - 2, by simp at hn; omega⟩
    obtain ⟨budget, hbudget, -⟩ := consult h hgo
    have hasks := followOrder_asks h hgo rest hnew hrel hbudget
    rw [← heq] at hasks
    obtain ⟨t', s₁, hnew', hrel', ⟨candidate, hselect, htool⟩, hcall, htools⟩ :=
      callModel_accepted h hgo hbudget hasks
    obtain rfl : t' = t := by
      rw [heq, followOrder_eq h.toHasRead hnew rfl] at hselect
      obtain rfl := SelectorResponse.candidate.inj hselect
      exact (Option.some.inj htool).symm
    obtain ⟨s₂, hread, hagent⟩ := atAgent_callTool htools hnew hrel
    obtain ⟨hacc, s', hhas, hrun⟩ := ih (by simpa using heq) hagent
      (by simp at hn; omega : 2 * rest.length + 1 ≤ n)
    refine ⟨⟨fun c b _ hsel hb => ?_, fun node' s₂ hs => ?_⟩, s', hhas, ?_⟩
    · rw [beforeSelector_eq h, hgo] at hsel
      obtain rfl := (Prod.mk.inj hsel).2
      obtain rfl : budget = b := Option.some.inj (hbudget.symm.trans hb)
      exact hasks
    · simp only [InvestigationGraph.step, hcall, Except.ok.injEq, Prod.mk.injEq] at hs
      obtain ⟨rfl, rfl⟩ := hs
      refine ⟨fun _ _ e => GraphNode.noConfusion e, fun node' s₂ hs => ?_⟩
      rw [hread] at hs
      obtain ⟨rfl, rfl⟩ := Prod.mk.inj (Except.ok.inj hs)
      exact hacc
    · have hturn : InvestigationGraph.step w.catalog w.trusted (followOrder order) .agent s =
          .ok (.tools t' (w.arguments t'), s₁) := hcall
      rw [InvestigationGraph.run_step _ _ (by simp) hturn,
        InvestigationGraph.run_step _ _ (by simp) (hread _)]
      exact hrun

end AfterSales.FaultFreeWorld
