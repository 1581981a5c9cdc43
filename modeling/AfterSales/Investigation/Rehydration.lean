import AfterSales.Investigation.Restart
import AfterSales.Investigation.Revision
import AfterSales.Tools.ReadBound

/-! The tool cache of a case after a restart, next to the one that lived through its history.

    Both are folds over the stored calls of the case. The living cache files a call under the
    revision its source had then; the rebuilt one counts every call under the revision its source has
    now, and keeps the result only when the two are the same:

        living    (tool, arguments, revision of the read)    attempt, result
        rebuilt   (tool, arguments, revision of today)       attempt, result if unchanged

    So results are never lost or forged, but the attempts of earlier revisions are counted again. A
    read that raises is an attempt in the living cache and leaves no row. -/

namespace AfterSales

variable [PolicyDigest] [ProofDigest] [ResultDigest]

/-- A call as the living cache files it. -/
def liveRow (caseId : String) (cache : CaseToolCache) (row : CallRecord) : CaseToolCache :=
  if row.actualExecution then
    let key : ToolCacheKey := ⟨caseId, row.toolName, row.normalizedArgs, row.sourceVersion⟩
    (cache.recordActualAttempt key).2.store key row.result
  else cache

/-- The rows of a case, the queries of its reads that raised, and the cache that has lived through
    them: every run of the case reads with it, and the sources may change between any two reads. -/
inductive LiveReads (caseId : String) :
    List CallRecord → List ToolCacheKey → CaseToolCache → Prop
  | none : LiveReads caseId [] [] .empty
  | read {rows : List CallRecord} {raised : List ToolCacheKey} {catalog : SyntheticReadToolCatalog}
      {trusted : TrustedToolContext} {s : InvestigationState} {tool : ReadTool}
      {arguments : ToolArguments} {record : CallRecord} {governed : GovernedState}
      (h : LiveReads caseId rows raised s.governed.cache)
      (hcase : trusted.caseId = caseId) (horder : trusted.authorizedOrderId ≠ "")
      (hread : InvestigationGraph.traceRead catalog trusted s tool arguments =
        (.ok record, governed)) :
      LiveReads caseId (rows ++ [record]) raised governed.cache
  | raise {rows : List CallRecord} {raised : List ToolCacheKey} {catalog : SyntheticReadToolCatalog}
      {trusted : TrustedToolContext} {s : InvestigationState} {tool : ReadTool}
      {arguments : ToolArguments} {e : ValidationError} {governed : GovernedState}
      (h : LiveReads caseId rows raised s.governed.cache) (hcase : trusted.caseId = caseId)
      (hread : InvestigationGraph.traceRead catalog trusted s tool arguments =
        (.error e, governed)) :
      LiveReads caseId rows
        (raised ++ [GovernedToolExecutor.cacheKey catalog trusted tool arguments]) governed.cache

/-- A query of the case at the revision that its source has now. -/
def currentQuery (catalog : SyntheticReadToolCatalog) (caseId : String) (tool : ReadTool)
    (arguments : ToolArguments) : ToolCacheKey :=
  ⟨caseId, tool, arguments, (catalog.sourceRevision arguments.orderId tool).getD ""⟩

/-- The source of a call still has the revision that the call was made at. -/
def CallRecord.current (catalog : SyntheticReadToolCatalog) (row : CallRecord) : Prop :=
  row.sourceVersion = (catalog.sourceRevision row.normalizedArgs.orderId row.toolName).getD ""

instance (catalog : SyntheticReadToolCatalog) (row : CallRecord) :
    Decidable (row.current catalog) := inferInstanceAs (Decidable (_ = _))

/-- Two caches give the same answers for a query. -/
structure CaseToolCache.SameAnswers (c d : CaseToolCache) (key : ToolCacheKey) : Prop where
  get : c.get key = d.get key
  attempts : c.actualAttempts key = d.actualAttempts key
  exhausted : c.retryExhausted key = d.retryExhausted key

variable {catalog : SyntheticReadToolCatalog} {trusted : TrustedToolContext}
  {s : InvestigationState} {tool : ReadTool} {arguments : ToolArguments} {caseId : String}
  {rows : List CallRecord} {raised : List ToolCacheKey} {live : CaseToolCache}

/-! ### The living cache -/

omit [PolicyDigest] [ProofDigest] [ResultDigest] in
/-- A valid query names the authorized order. -/
theorem GovernedToolExecutor.order_of_valid (h : validateArguments trusted tool arguments = none) :
    arguments.orderId = trusted.authorizedOrderId := by
  unfold validateArguments at h
  split at h
  · cases h
  split at h
  · cases h
  rename_i horder
  exact not_not.mp horder

/-- What a read leaves: it is filed as its row says, and a row that reached its source names the
    authorized order; or it raises, and is counted. -/
theorem traceRead_lives {answer : Except ValidationError CallRecord} {governed : GovernedState}
    (h : InvestigationGraph.traceRead catalog trusted s tool arguments = (answer, governed)) :
    (∃ record, answer = .ok record ∧
      governed.cache = liveRow trusted.caseId s.governed.cache record ∧
      (record.actualExecution → record.normalizedArgs.orderId = trusted.authorizedOrderId)) ∨
    ((∃ e, answer = .error e) ∧ governed.cache = (s.governed.cache.recordActualAttempt
      (GovernedToolExecutor.cacheKey catalog trusted tool arguments)).2) := by
  unfold InvestigationGraph.traceRead at h
  have hunread : ∀ result : ToolResult (PayloadOf tool),
      GovernedToolExecutor.executeResult catalog trusted s.governed tool arguments
        = (.ok result, s.governed) →
      ∃ record, answer = .ok record ∧
        governed.cache = liveRow trusted.caseId s.governed.cache record ∧
        (record.actualExecution →
          record.normalizedArgs.orderId = trusted.authorizedOrderId) := by
    intro result hresult
    rw [hresult] at h
    obtain ⟨rfl, rfl⟩ := Prod.mk.inj h
    exact ⟨_, rfl, by simp [liveRow, InvestigationGraph.callRecord],
      by simp [InvestigationGraph.callRecord]⟩
  cases hvalid : GovernedToolExecutor.validateArguments trusted tool arguments with
  | some code =>
    refine Or.inl (hunread (GovernedToolExecutor.blockedResult trusted tool code) ?_)
    unfold GovernedToolExecutor.executeResult
    rw [hvalid]
  | none =>
    have horder := GovernedToolExecutor.order_of_valid hvalid
    have hexecute : GovernedToolExecutor.executeResult catalog trusted s.governed tool arguments =
        ((GovernedToolExecutor.dispatch catalog trusted s.governed tool arguments).1.result trusted,
          (GovernedToolExecutor.dispatch catalog trusted s.governed tool arguments).2) :=
      GovernedToolExecutor.executeResult_dispatch hvalid
    generalize hcall : GovernedToolExecutor.dispatch catalog trusted s.governed tool arguments
      = called at hexecute
    obtain ⟨got, after⟩ := called
    rcases GovernedToolExecutor.dispatch_cases hcall with ⟨⟨code, rfl⟩, rfl⟩ | ⟨result, rfl, rfl⟩ |
      ⟨source, budget, rfl, -, -, -, -, -, -, -, hbudget, -, rfl⟩
    · exact Or.inl (hunread _ hexecute)
    · exact Or.inl (hunread _ hexecute)
    have hcount := (ToolBudget.recordActualExecution_some hbudget).1
    rw [hexecute] at h
    obtain ⟨rfl, rfl⟩ := Prod.mk.inj h
    cases houtcome : source.outcome with
    | error e =>
      simp only [GovernedAnswer.result, houtcome]
      exact Or.inr ⟨⟨e, rfl⟩, rfl⟩
    | ok result =>
      simp only [GovernedAnswer.result, houtcome]
      refine Or.inl ⟨_, rfl, ?_, fun _ => horder⟩
      rw [liveRow, if_pos (by simp [InvestigationGraph.callRecord, hcount])]
      have hrevision : ∀ r r' : String, r = r' →
          (s.governed.cache.recordActualAttempt ⟨trusted.caseId, tool, arguments, r⟩).2.store
            ⟨trusted.caseId, tool, arguments, r⟩ result =
          (s.governed.cache.recordActualAttempt ⟨trusted.caseId, tool, arguments, r'⟩).2.store
            ⟨trusted.caseId, tool, arguments, r'⟩ result := by
        rintro r _ rfl
        rfl
      exact hrevision _ _ (by rw [horder]; rfl)

/-- Two caches hold the same results, and one counts some attempts more. -/
structure CaseToolCache.CountsMore (c d : CaseToolCache) (more : List ToolCacheKey) : Prop where
  reusable : c.reusable = d.reusable
  terminalErrors : c.terminalErrors = d.terminalErrors
  lastResultRetryable : c.lastResultRetryable = d.lastResultRetryable
  actualAttempts : ∀ key, c.actualAttempts key = d.actualAttempts key + more.count key

namespace CaseToolCache

omit [ProofDigest] [ResultDigest] in
/-- An attempt is counted for its own query. -/
theorem attempts_recorded (cache : CaseToolCache) (key other : ToolCacheKey) :
    (cache.recordActualAttempt key).2.actualAttempts other =
      cache.actualAttempts other + if other = key then 1 else 0 := by
  rw [recordActualAttempt]
  by_cases e : other = key
  · subst e
    simp
  · simp [e]

omit [ProofDigest] [ResultDigest] in
/-- A result counts no attempt. -/
theorem attempts_store (cache : CaseToolCache) (key : ToolCacheKey)
    (result : ToolResult (PayloadOf key.toolName)) :
    (cache.store key result).actualAttempts = cache.actualAttempts := by
  unfold store
  split <;> rfl

variable {c d : CaseToolCache} {more : List ToolCacheKey}

omit [ProofDigest] [ResultDigest] in
/-- One more attempt without a result. -/
theorem CountsMore.raise (h : c.CountsMore d more) (key : ToolCacheKey) :
    (c.recordActualAttempt key).2.CountsMore d (more ++ [key]) := by
  refine ⟨h.reusable, h.terminalErrors, h.lastResultRetryable, fun other => ?_⟩
  rw [attempts_recorded, h.actualAttempts, List.count_append, Nat.add_assoc, List.count_singleton]
  by_cases e : other = key
  · subst e
    simp
  · simp [e, Ne.symm e]

omit [ProofDigest] [ResultDigest] in
/-- A read that both do. -/
theorem CountsMore.read (h : c.CountsMore d more) (key : ToolCacheKey)
    (result : ToolResult (PayloadOf key.toolName)) :
    ((c.recordActualAttempt key).2.store key result).CountsMore
      ((d.recordActualAttempt key).2.store key result) more := by
  refine ⟨?_, ?_, ?_, ?_⟩
  · unfold store recordActualAttempt
    cases result.executionStatus <;> simp [h.reusable]
  · unfold store recordActualAttempt
    cases result.executionStatus <;> simp [h.terminalErrors]
  · unfold store recordActualAttempt
    cases result.executionStatus <;> simp [h.lastResultRetryable]
  · intro other
    rw [attempts_store, attempts_store, attempts_recorded, attempts_recorded, h.actualAttempts]
    omega

omit [ProofDigest] [ResultDigest] in
/-- A row that both file. -/
theorem CountsMore.row (h : c.CountsMore d more) (row : CallRecord) :
    (liveRow caseId c row).CountsMore (liveRow caseId d row) more := by
  unfold liveRow
  split_ifs
  · exact h.read ⟨caseId, row.toolName, row.normalizedArgs, row.sourceVersion⟩ row.result
  · exact h

end CaseToolCache

/-- The cache that lived through a history is the fold of its rows, with the reads that raised
    counted besides; and each row that reached its source names an order. -/
theorem LiveReads.eq_foldl (h : LiveReads caseId rows raised live) :
    live.CountsMore (rows.foldl (liveRow caseId) .empty) raised ∧
      ∀ row ∈ rows, row.actualExecution → row.normalizedArgs.orderId ≠ "" := by
  induction h with
  | none => exact ⟨⟨rfl, rfl, rfl, fun _ => rfl⟩, by simp⟩
  | @read rows raised catalog trusted s tool arguments record governed _ hcase horder hread ih =>
    rcases traceRead_lives hread with ⟨written, hwritten, hcache, hnamed⟩ | ⟨⟨e, he⟩, -⟩
    swap
    · cases he
    obtain rfl := Except.ok.inj hwritten
    refine ⟨?_, ?_⟩
    · rw [List.foldl_append, hcache, hcase]
      exact ih.1.row record
    · intro row hmem hactual
      rcases List.mem_append.mp hmem with hmem | hmem
      · exact ih.2 row hmem hactual
      · obtain rfl := List.mem_singleton.mp hmem
        rw [hnamed hactual]
        exact horder
  | @raise rows raised catalog trusted s tool arguments e governed _ hcase hread ih =>
    rcases traceRead_lives hread with ⟨written, hwritten, -⟩ | ⟨-, hcache⟩
    · cases hwritten
    rw [hcache]
    exact ⟨ih.1.raise _, ih.2⟩

/-! ### The rebuilt cache -/

/-- The calls of a query that reached their source. -/
def attemptsOf (rows : List CallRecord) (tool : ReadTool) (arguments : ToolArguments) :
    List CallRecord :=
  rows.filter fun row => row.actualExecution ∧ row.toolName = tool ∧ row.normalizedArgs = arguments

omit [ProofDigest] [ResultDigest] in
theorem attemptsOf_own {row : CallRecord} (h : row.actualExecution) :
    attemptsOf (row :: rows) row.toolName row.normalizedArgs =
      row :: attemptsOf rows row.toolName row.normalizedArgs := by
  simp [attemptsOf, h]

omit [ProofDigest] [ResultDigest] in
theorem attemptsOf_other {row : CallRecord}
    (h : ¬ (tool = row.toolName ∧ arguments = row.normalizedArgs)) :
    attemptsOf (row :: rows) tool arguments = attemptsOf rows tool arguments := by
  have hother : ¬ (row.toolName = tool ∧ row.normalizedArgs = arguments) :=
    fun hsame => h ⟨hsame.1.symm, hsame.2.symm⟩
  simp [attemptsOf, hother]

omit [ProofDigest] [ResultDigest] in
/-- The living cache counts the attempts of a query at the revision they were made at. -/
theorem liveRow_attempts (caseId : String) (rows : List CallRecord) (cache : CaseToolCache)
    (tool : ReadTool) (arguments : ToolArguments) (revision : String) :
    (rows.foldl (liveRow caseId) cache).actualAttempts ⟨caseId, tool, arguments, revision⟩ =
      cache.actualAttempts ⟨caseId, tool, arguments, revision⟩ +
        (attemptsOf rows tool arguments).countP (·.sourceVersion = revision) := by
  induction rows generalizing cache with
  | nil => simp [attemptsOf]
  | cons row rows ih =>
    rw [List.foldl_cons, ih]
    by_cases hactual : row.actualExecution
    · rw [liveRow, if_pos hactual, CaseToolCache.attempts_store, CaseToolCache.attempts_recorded]
      simp only [ToolCacheKey.mk.injEq, true_and]
      by_cases hsame : tool = row.toolName ∧ arguments = row.normalizedArgs
      · obtain ⟨rfl, rfl⟩ := hsame
        rw [attemptsOf_own hactual, List.countP_cons]
        by_cases hrevision : revision = row.sourceVersion
        · subst hrevision
          simp only [and_self, if_true, decide_true]
          omega
        · simp [hrevision, Ne.symm hrevision]
      · rw [attemptsOf_other hsame, if_neg fun h => hsame ⟨h.1, h.2.1⟩, Nat.add_zero]
    · simp [liveRow, attemptsOf, hactual]

omit [ResultDigest] in
/-- The rebuilt cache counts all attempts of a query at the revision of today. -/
theorem restoreRow_attempts (caseId : String) (rows : List CallRecord) (cache : CaseToolCache)
    (tool : ReadTool) (arguments : ToolArguments)
    (hnamed : ∀ row ∈ rows, row.actualExecution → row.normalizedArgs.orderId ≠ "") :
    (rows.foldl (restoreRow catalog caseId) cache).actualAttempts
        (currentQuery catalog caseId tool arguments) =
      cache.actualAttempts (currentQuery catalog caseId tool arguments) +
        (attemptsOf rows tool arguments).length := by
  induction rows generalizing cache with
  | nil => simp [attemptsOf]
  | cons row rows ih =>
    rw [List.foldl_cons, ih _ fun r hr => hnamed r (List.mem_cons_of_mem _ hr)]
    by_cases hactual : row.actualExecution
    · have hrow : (restoreRow catalog caseId cache row).actualAttempts =
          (cache.recordActualAttempt
            (currentQuery catalog caseId row.toolName row.normalizedArgs)).2.actualAttempts := by
        rw [restoreRow, if_neg (by simp [hactual, hnamed row List.mem_cons_self hactual])]
        simp only
        split
        · rfl
        · exact CaseToolCache.attempts_store ..
      rw [hrow, CaseToolCache.attempts_recorded]
      by_cases hsame : tool = row.toolName ∧ arguments = row.normalizedArgs
      · obtain ⟨rfl, rfl⟩ := hsame
        rw [attemptsOf_own hactual, if_pos rfl, List.length_cons]
        omega
      · have hother : currentQuery catalog caseId tool arguments ≠
            currentQuery catalog caseId row.toolName row.normalizedArgs := by
          intro h
          simp only [currentQuery, ToolCacheKey.mk.injEq] at h
          exact hsame ⟨h.2.1, h.2.2.1⟩
        rw [attemptsOf_other hsame, if_neg hother, Nat.add_zero]
    · simp [restoreRow, attemptsOf, hactual]

/-- What both caches hold of the queries of today, apart from the attempts. -/
structure CaseToolCache.SameResults (catalog : SyntheticReadToolCatalog) (caseId : String)
    (c d : CaseToolCache) : Prop where
  reusable : ∀ tool arguments, c.reusable (currentQuery catalog caseId tool arguments) =
    d.reusable (currentQuery catalog caseId tool arguments)
  terminal : ∀ tool arguments, c.terminalErrors (currentQuery catalog caseId tool arguments) =
    d.terminalErrors (currentQuery catalog caseId tool arguments)
  retryable : ∀ tool arguments, c.lastResultRetryable (currentQuery catalog caseId tool arguments) =
    d.lastResultRetryable (currentQuery catalog caseId tool arguments)

namespace CaseToolCache

variable {c d : CaseToolCache}

omit [ProofDigest] [ResultDigest] in
/-- What a read leaves of the other queries. -/
theorem results_of_ne (cache : CaseToolCache) {key other : ToolCacheKey} (h : other ≠ key)
    (result : ToolResult (PayloadOf key.toolName)) :
    ((cache.recordActualAttempt key).2.store key result).reusable other = cache.reusable other ∧
    ((cache.recordActualAttempt key).2.store key result).terminalErrors other
      = cache.terminalErrors other ∧
    ((cache.recordActualAttempt key).2.store key result).lastResultRetryable other
      = cache.lastResultRetryable other := by
  unfold store recordActualAttempt
  cases result.executionStatus <;> simp [h]

omit [ProofDigest] [ResultDigest] in
/-- What a read leaves of its own query. -/
theorem results_of_eq (key : ToolCacheKey) (result : ToolResult (PayloadOf key.toolName))
    (hreusable : c.reusable key = d.reusable key)
    (hterminal : c.terminalErrors key = d.terminalErrors key) :
    ((c.recordActualAttempt key).2.store key result).reusable key
      = ((d.recordActualAttempt key).2.store key result).reusable key ∧
    ((c.recordActualAttempt key).2.store key result).terminalErrors key
      = ((d.recordActualAttempt key).2.store key result).terminalErrors key ∧
    ((c.recordActualAttempt key).2.store key result).lastResultRetryable key
      = ((d.recordActualAttempt key).2.store key result).lastResultRetryable key := by
  unfold store recordActualAttempt
  cases result.executionStatus <;> simp [hreusable, hterminal]

omit [ResultDigest] in
/-- The same read by both. -/
theorem SameResults.read (h : c.SameResults catalog caseId d) (key : ToolCacheKey)
    (result : ToolResult (PayloadOf key.toolName)) :
    ((c.recordActualAttempt key).2.store key result).SameResults catalog caseId
      ((d.recordActualAttempt key).2.store key result) := by
  have hall : ∀ tool arguments,
      ((c.recordActualAttempt key).2.store key result).reusable
          (currentQuery catalog caseId tool arguments)
        = ((d.recordActualAttempt key).2.store key result).reusable
          (currentQuery catalog caseId tool arguments) ∧
      ((c.recordActualAttempt key).2.store key result).terminalErrors
          (currentQuery catalog caseId tool arguments)
        = ((d.recordActualAttempt key).2.store key result).terminalErrors
          (currentQuery catalog caseId tool arguments) ∧
      ((c.recordActualAttempt key).2.store key result).lastResultRetryable
          (currentQuery catalog caseId tool arguments)
        = ((d.recordActualAttempt key).2.store key result).lastResultRetryable
          (currentQuery catalog caseId tool arguments) := by
    intro tool arguments
    by_cases e : currentQuery catalog caseId tool arguments = key
    · subst e
      exact results_of_eq _ result (h.reusable tool arguments) (h.terminal tool arguments)
    · obtain ⟨hc, hc', hc''⟩ := results_of_ne c e result
      obtain ⟨hd, hd', hd''⟩ := results_of_ne d e result
      rw [hc, hc', hc'', hd, hd', hd'']
      exact ⟨h.reusable tool arguments, h.terminal tool arguments, h.retryable tool arguments⟩
  exact ⟨fun tool arguments => (hall tool arguments).1,
    fun tool arguments => (hall tool arguments).2.1,
    fun tool arguments => (hall tool arguments).2.2⟩

end CaseToolCache

omit [ResultDigest] in
/-- Restoring a call next to filing it: a result of another revision is found under no query of
    today. -/
theorem CaseToolCache.SameResults.row {c d : CaseToolCache}
    (h : c.SameResults catalog caseId d) {row : CallRecord}
    (hnamed : row.actualExecution → row.normalizedArgs.orderId ≠ "") :
    (restoreRow catalog caseId c row).SameResults catalog caseId (liveRow caseId d row) := by
  by_cases hactual : row.actualExecution
  swap
  · simpa [restoreRow, liveRow, hactual] using h
  rw [restoreRow, if_neg (by simp [hactual, hnamed hactual]), liveRow, if_pos hactual]
  simp only
  by_cases hcurrent : row.sourceVersion =
      (catalog.sourceRevision row.normalizedArgs.orderId row.toolName).getD ""
  · rw [← hcurrent, if_neg (not_not_intro rfl)]
    exact h.read ⟨caseId, row.toolName, row.normalizedArgs, row.sourceVersion⟩ row.result
  · have hother : ∀ tool arguments, currentQuery catalog caseId tool arguments ≠
        ⟨caseId, row.toolName, row.normalizedArgs, row.sourceVersion⟩ := by
      intro tool arguments heq
      simp only [currentQuery, ToolCacheKey.mk.injEq] at heq
      obtain ⟨-, rfl, rfl, hrevision⟩ := heq
      exact hcurrent hrevision.symm
    rw [if_pos hcurrent]
    constructor <;> intro tool arguments
    · rw [(CaseToolCache.results_of_ne d (hother tool arguments) row.result).1]
      exact h.reusable tool arguments
    · rw [(CaseToolCache.results_of_ne d (hother tool arguments) row.result).2.1]
      exact h.terminal tool arguments
    · rw [(CaseToolCache.results_of_ne d (hother tool arguments) row.result).2.2]
      exact h.retryable tool arguments

/-- Whatever the sources did, the rebuilt cache returns what the living one returns. -/
theorem LiveReads.sameResults (h : LiveReads caseId rows raised live) :
    (loadCaseCache catalog caseId rows).SameResults catalog caseId live := by
  obtain ⟨hfold, hnamed⟩ := h.eq_foldl
  clear h
  have hsame : ∀ (rows : List CallRecord) (c d : CaseToolCache),
      (∀ row ∈ rows, row.actualExecution → row.normalizedArgs.orderId ≠ "") →
      c.SameResults catalog caseId d →
      (rows.foldl (restoreRow catalog caseId) c).SameResults catalog caseId
        (rows.foldl (liveRow caseId) d) := by
    intro rows
    induction rows with
    | nil => exact fun c d _ h => h
    | cons row rows ih =>
      intro c d hnamed h
      rw [List.foldl_cons, List.foldl_cons]
      exact ih _ _ (fun r hr => hnamed r (List.mem_cons_of_mem _ hr))
        (h.row (hnamed row List.mem_cons_self))
  have hrows := hsame rows .empty .empty hnamed ⟨fun _ _ => rfl, fun _ _ => rfl, fun _ _ => rfl⟩
  refine ⟨fun tool arguments => ?_, fun tool arguments => ?_, fun tool arguments => ?_⟩
  · rw [hfold.reusable]
    exact hrows.reusable tool arguments
  · rw [hfold.terminalErrors]
    exact hrows.terminal tool arguments
  · rw [hfold.lastResultRetryable]
    exact hrows.retryable tool arguments

omit [ResultDigest] in
/-- The attempts of a query were made at the revision of today, or at another one. -/
theorem attemptsOf_split (catalog : SyntheticReadToolCatalog) (rows : List CallRecord)
    (tool : ReadTool) (arguments : ToolArguments) :
    (attemptsOf rows tool arguments).length =
      (attemptsOf rows tool arguments).countP
        (·.sourceVersion = (catalog.sourceRevision arguments.orderId tool).getD "") +
      (attemptsOf rows tool arguments).countP fun row => ¬ row.current catalog := by
  rw [List.length_eq_countP_add_countP
    (p := fun row => row.sourceVersion = (catalog.sourceRevision arguments.orderId tool).getD "")]
  congr 1
  refine List.countP_congr fun row hrow => ?_
  obtain ⟨-, hquery⟩ := List.mem_filter.mp hrow
  obtain ⟨-, rfl, rfl⟩ := by simpa using hquery
  rw [decide_eq_true_iff, decide_eq_true_iff, decide_eq_true_iff]
  exact Iff.rfl

omit [ResultDigest] in
/-- No attempt of an earlier revision, as a condition on the rows. -/
theorem attempts_current_iff :
    (∀ tool arguments,
      ((attemptsOf rows tool arguments).countP fun row => ¬ row.current catalog) = 0) ↔
    ∀ row ∈ rows, row.actualExecution → row.current catalog := by
  constructor
  · intro hnone row hrow hactual
    have hown : row ∈ attemptsOf rows row.toolName row.normalizedArgs := by
      simp [attemptsOf, hrow, hactual]
    have hcurrent := List.countP_eq_zero.mp (hnone row.toolName row.normalizedArgs) row hown
    simpa using hcurrent
  · intro hall tool arguments
    rw [List.countP_eq_zero]
    intro row hrow
    obtain ⟨hmem, hquery⟩ := List.mem_filter.mp hrow
    obtain ⟨hactual, -, -⟩ := by simpa using hquery
    simp [hall row hmem hactual]

end AfterSales

/-! ### A read that fails, before and after its source changed -/

namespace AfterSales

section FailedTwice

attribute [local instance] PolicyDigest.bySource ProofDigest.byId ResultDigest.byName

/-- The sources of a failing read, with a later revision of the order. -/
def changedCatalog : SyntheticReadToolCatalog where
  store :=
    { timeoutCatalog.store with
      orders := fun id => if id = "ORD-1" then
        some ⟨"ORD-1", "CUS-1", .delivered, "standard", "cn-east", "order-v2"⟩ else none
      ordersKey := by
        intro id o h
        rw [Option.ite_none_right_eq_some] at h
        obtain ⟨rfl, ⟨⟩⟩ := h
        rfl }
  policyRag := timeoutCatalog.policyRag

/-- The sample case reads its order: no sample source raises. -/
def orderRead (catalog : SyntheticReadToolCatalog) (governed : GovernedState) :
    Except ValidationError CallRecord × GovernedState :=
  InvestigationGraph.traceRead catalog timeoutTrusted
    ⟨.init timeoutTrusted [] [], governed, 0, false⟩ .getOrderContext ⟨"ORD-1", none⟩

def firstOrderRead : Except ValidationError CallRecord × GovernedState :=
  orderRead timeoutCatalog ⟨.empty, .fresh⟩

def secondOrderRead : Except ValidationError CallRecord × GovernedState :=
  orderRead changedCatalog firstOrderRead.2

theorem firstOrderRead_isSome : firstOrderRead.1.toOption.isSome := by decide +kernel

theorem secondOrderRead_isSome : secondOrderRead.1.toOption.isSome := by decide +kernel

/-- The row of the first read. -/
def firstOrderRow : CallRecord := firstOrderRead.1.toOption.get firstOrderRead_isSome

/-- The row of the second read. -/
def secondOrderRow : CallRecord := secondOrderRead.1.toOption.get secondOrderRead_isSome

/-- What a read answered, by its row. -/
theorem eq_ok_get (answer : Except ValidationError CallRecord) (h : answer.toOption.isSome) :
    answer = .ok (answer.toOption.get h) := by
  cases answer with
  | ok record => rfl
  | error e => cases h

theorem firstOrderRead_live :
    LiveReads timeoutTrusted.caseId [firstOrderRow] [] firstOrderRead.2.cache := by
  have horder : timeoutTrusted.authorizedOrderId ≠ "" := by decide
  exact .read (s := ⟨.init timeoutTrusted [] [], ⟨.empty, .fresh⟩, 0, false⟩) .none rfl horder
    (Prod.ext (eq_ok_get _ firstOrderRead_isSome) rfl)

theorem secondOrderRead_live : LiveReads timeoutTrusted.caseId
    ([firstOrderRow] ++ [secondOrderRow]) [] secondOrderRead.2.cache := by
  have horder : timeoutTrusted.authorizedOrderId ≠ "" := by decide
  exact .read (s := ⟨.init timeoutTrusted [] [], firstOrderRead.2, 0, false⟩) firstOrderRead_live rfl
    horder (Prod.ext (eq_ok_get _ secondOrderRead_isSome) rfl)

end FailedTwice

end AfterSales
