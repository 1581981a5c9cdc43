import AfterSales.Tools.Service

/-! What a case remembers of its reads answers the question that was asked.

    A result is kept under the exact query that produced it, so a policy or ticket payload found
    there is about the issue the query named. The governed executor keeps this: it blocks a query of
    another issue than the case's, returns what it remembers, or reads and remembers. -/

namespace AfterSales

variable [PolicyDigest]

/-- The issue a payload is about, for the tools that take one. -/
def ReadTool.payloadIssue : (tool : ReadTool) → PayloadOf tool → Option IssueType
  | .searchAfterSalesPolicy, payload => some payload.issueType
  | .getExistingLogisticsTickets, payload => some payload.issueType
  | .getOrderContext, _ | .getLogisticsTimeline, _ | .getDeliveryProof, _
  | .getCarrierServiceAlerts, _ => none

/-- The result is about the issue that its query named. -/
def AnswersQuery (tool : ReadTool) (arguments : ToolArguments)
    (result : ToolResult (PayloadOf tool)) : Prop :=
  ∀ payload ∈ result.payload, ∀ issue ∈ tool.payloadIssue payload, arguments.issueType = some issue

theorem AnswersQuery.of_empty {tool : ReadTool} {arguments : ToolArguments}
    {result : ToolResult (PayloadOf tool)} (h : result.payload = none) :
    AnswersQuery tool arguments result := by
  intro payload hp
  rw [h] at hp
  cases hp

/-- Everything the cache holds answers the query it is kept under. -/
def CaseToolCache.Answers (cache : CaseToolCache) : Prop :=
  ∀ (key : ToolCacheKey) (result : ToolResult (PayloadOf key.toolName)),
    cache.reusable key = some result ∨ cache.terminalErrors key = some result →
      AnswersQuery key.toolName key.normalizedArgs result

namespace CaseToolCache

theorem answers_empty : (empty : CaseToolCache).Answers := keeps_empty

theorem Answers.get {cache : CaseToolCache} (h : cache.Answers) {key : ToolCacheKey}
    {result : ToolResult (PayloadOf key.toolName)} (hget : cache.get key = some result) :
    AnswersQuery key.toolName key.normalizedArgs result :=
  Keeps.get h hget

theorem Answers.recordActualAttempt {cache : CaseToolCache} (h : cache.Answers)
    (key : ToolCacheKey) : (cache.recordActualAttempt key).2.Answers := h

theorem Answers.store {cache : CaseToolCache} (h : cache.Answers) {key : ToolCacheKey}
    {result : ToolResult (PayloadOf key.toolName)}
    (hresult : AnswersQuery key.toolName key.normalizedArgs result) :
    (cache.store key result).Answers :=
  Keeps.store h fun _ => hresult

end CaseToolCache

variable [ProofDigest] [ResultDigest]

omit [ProofDigest] in
/-- A source answers the issue it was asked for. -/
theorem SyntheticReadToolCatalog.read_answers {catalog : SyntheticReadToolCatalog}
    {context : TrustedToolContext} {tool : ReadTool} {arguments : ToolArguments}
    {issueType : IssueType} {attempt : Nat} {result : ToolResult (PayloadOf tool)}
    (hissue : tool.takesIssue → arguments.issueType = some issueType)
    (h : catalog.read context tool arguments issueType attempt = some (.ok result)) :
    AnswersQuery tool arguments result := by
  unfold SyntheticReadToolCatalog.read at h
  obtain ⟨order, -, hanswer⟩ := Option.map_eq_some_iff.mp h
  split at hanswer
  · obtain rfl := Except.ok.inj hanswer
    exact .of_empty rfl
  · intro payload hp issue hi
    cases tool with
    | searchAfterSalesPolicy =>
      rw [hissue rfl]
      simp only [readSource] at hanswer
      split at hanswer
      · obtain rfl := Except.ok.inj hanswer
        cases hp
      · cases hanswer
      · rename_i found hsearch
        obtain rfl := Except.ok.inj hanswer
        obtain rfl := Option.some.inj hp
        have hspec := PolicyRagService.search_spec hsearch
        exact congrArg some (hspec.issue.symm.trans (Option.some.inj hi))
    | getExistingLogisticsTickets =>
      rw [hissue rfl]
      obtain rfl := Except.ok.inj hanswer
      obtain rfl := Option.some.inj hp
      exact hi
    | _ => cases hi

namespace GovernedToolExecutor

variable {catalog : SyntheticReadToolCatalog} {trusted : TrustedToolContext}
  {state state' : GovernedState} {tool : ReadTool} {arguments : ToolArguments}
  {result : ToolResult (PayloadOf tool)}
  {answer : Except ValidationError (ToolResult (PayloadOf tool))}

omit [PolicyDigest] [ProofDigest] [ResultDigest] in
/-- A valid query of an issue tool names the canonical issue of the case. -/
theorem issue_of_valid (h : validateArguments trusted tool arguments = none)
    (htakes : tool.takesIssue = true) :
    arguments.issueType = some trusted.canonicalIssueType := by
  unfold validateArguments at h
  split at h
  · cases h
  rename_i hshape
  split at h
  · cases h
  split at h
  · cases h
  split at h
  · cases h
  rename_i hscope
  push Not at hshape hscope
  obtain ⟨issue, hissue⟩ := Option.isSome_iff_exists.mp (hshape.trans htakes)
  rw [hissue, hscope issue hissue]

/-- A call is blocked, answered from the cache, or a read whose outcome is settled. -/
theorem executeResult_cases
    (h : executeResult catalog trusted state tool arguments = (answer, state')) :
    (∃ result, answer = .ok result ∧ result.executionStatus ≠ .success ∧ result.payload = none ∧
      (state'.cache = state.cache ∨
        state'.cache = (state.cache.recordActualAttempt
          (cacheKey catalog trusted tool arguments)).2)) ∨
    (validateArguments trusted tool arguments = none ∧ ∃ result, answer = .ok result ∧
      state.cache.get (cacheKey catalog trusted tool arguments) = some result ∧ state' = state) ∨
    (validateArguments trusted tool arguments = none ∧
      (∃ attempt, catalog.read trusted tool arguments
        (arguments.issueType.getD trusted.canonicalIssueType) attempt = some answer) ∧
      state'.cache = (state.cache.recordActualAttempt
        (cacheKey catalog trusted tool arguments)).2.settle
          (cacheKey catalog trusted tool arguments) answer) := by
  have hblocked : ∀ code, (blockedResult trusted tool code :
      ToolResult (PayloadOf tool)).executionStatus ≠ .success ∧
      (blockedResult trusted tool code : ToolResult (PayloadOf tool)).payload = none := by
    intro code
    exact ⟨by simp [blockedResult, SyntheticReadToolCatalog.failedResult, ToolResult.failed], rfl⟩
  unfold executeResult at h
  split at h
  · obtain ⟨rfl, rfl⟩ := Prod.mk.inj h
    exact Or.inl ⟨_, rfl, (hblocked _).1, (hblocked _).2, Or.inl rfl⟩
  rename_i hvalid
  split at h
  · obtain ⟨rfl, rfl⟩ := Prod.mk.inj h
    exact Or.inl ⟨_, rfl, (hblocked _).1, (hblocked _).2, Or.inl rfl⟩
  simp only at h
  split at h
  · rename_i cached hcached
    obtain ⟨rfl, rfl⟩ := Prod.mk.inj h
    exact Or.inr (Or.inl ⟨hvalid, cached, rfl, hcached, rfl⟩)
  split at h
  · obtain ⟨rfl, rfl⟩ := Prod.mk.inj h
    exact Or.inl ⟨_, rfl, (hblocked _).1, (hblocked _).2, Or.inl rfl⟩
  split at h
  · obtain ⟨rfl, rfl⟩ := Prod.mk.inj h
    exact Or.inl ⟨_, rfl, (hblocked _).1, (hblocked _).2, Or.inl rfl⟩
  split at h
  · obtain ⟨rfl, rfl⟩ := Prod.mk.inj h
    exact Or.inl ⟨_, rfl, (hblocked _).1, (hblocked _).2, Or.inr rfl⟩
  · rename_i raised hread
    obtain ⟨rfl, rfl⟩ := Prod.mk.inj h
    exact Or.inr (Or.inr ⟨hvalid, ⟨_, hread⟩, rfl⟩)
  · rename_i found hread
    obtain ⟨rfl, rfl⟩ := Prod.mk.inj h
    exact Or.inr (Or.inr ⟨hvalid, ⟨_, hread⟩, rfl⟩)

/-- A successful call was a valid query. -/
theorem valid_of_success
    (h : executeResult catalog trusted state tool arguments = (.ok result, state'))
    (hs : result.executionStatus = .success) :
    validateArguments trusted tool arguments = none := by
  rcases executeResult_cases h with ⟨blocked, hblocked, hne, -⟩ | ⟨hvalid, -⟩ | ⟨hvalid, -⟩
  · obtain rfl := Except.ok.inj hblocked
    exact absurd hs hne
  · exact hvalid
  · exact hvalid

/-- A call answers its query, and what is remembered after it still answers its queries. -/
theorem executeResult_answers (hcache : state.cache.Answers)
    (h : executeResult catalog trusted state tool arguments = (answer, state')) :
    (∀ result, answer = .ok result → AnswersQuery tool arguments result) ∧
      state'.cache.Answers := by
  rcases executeResult_cases h with ⟨result, rfl, -, hempty, hkept⟩ |
    ⟨hvalid, result, rfl, hget, rfl⟩ | ⟨hvalid, ⟨attempt, hread⟩, hstore⟩
  · refine ⟨?_, by rcases hkept with e | e <;> rw [e] <;> exact hcache⟩
    intro result hresult
    obtain rfl := Except.ok.inj hresult
    exact .of_empty hempty
  · refine ⟨?_, hcache⟩
    intro result hresult
    obtain rfl := Except.ok.inj hresult
    exact hcache.get hget
  · have hanswers : ∀ result, answer = .ok result → AnswersQuery tool arguments result := by
      rintro result rfl
      refine SyntheticReadToolCatalog.read_answers (fun htakes => ?_) hread
      rw [issue_of_valid hvalid htakes]
      rfl
    refine ⟨hanswers, hstore ▸ ?_⟩
    cases answer with
    | ok result => exact (hcache.recordActualAttempt _).store (hanswers result rfl)
    | error raised => exact hcache.recordActualAttempt _

/-- A call charges one read or none, and no turn. -/
theorem executeResult_charge
    (h : executeResult catalog trusted state tool arguments = (answer, state')) :
    (state'.budget.actualReadToolExecutions = state.budget.actualReadToolExecutions ∨
        state'.budget.actualReadToolExecutions = state.budget.actualReadToolExecutions + 1) ∧
      state'.budget.runPlanningTurns = state.budget.runPlanningTurns ∧
      state'.budget.casePlanningTurns = state.budget.casePlanningTurns := by
  have hsame : ∀ {b : ToolBudget}, state.budget.recordActualExecution = some b →
      (b.actualReadToolExecutions = state.budget.actualReadToolExecutions ∨
        b.actualReadToolExecutions = state.budget.actualReadToolExecutions + 1) ∧
      b.runPlanningTurns = state.budget.runPlanningTurns ∧
      b.casePlanningTurns = state.budget.casePlanningTurns := fun hb =>
    have hsome := ToolBudget.recordActualExecution_some hb
    ⟨Or.inr hsome.1, hsome.2.1, hsome.2.2⟩
  unfold executeResult at h
  split at h
  · obtain ⟨-, rfl⟩ := Prod.mk.inj h
    exact ⟨Or.inl rfl, rfl, rfl⟩
  split at h
  · obtain ⟨-, rfl⟩ := Prod.mk.inj h
    exact ⟨Or.inl rfl, rfl, rfl⟩
  simp only at h
  split at h
  · obtain ⟨-, rfl⟩ := Prod.mk.inj h
    exact ⟨Or.inl rfl, rfl, rfl⟩
  split at h
  · obtain ⟨-, rfl⟩ := Prod.mk.inj h
    exact ⟨Or.inl rfl, rfl, rfl⟩
  split at h
  · obtain ⟨-, rfl⟩ := Prod.mk.inj h
    exact ⟨Or.inl rfl, rfl, rfl⟩
  rename_i budget hbudget
  split at h
  · obtain ⟨-, rfl⟩ := Prod.mk.inj h
    exact hsame hbudget
  · obtain ⟨-, rfl⟩ := Prod.mk.inj h
    exact hsame hbudget
  · obtain ⟨-, rfl⟩ := Prod.mk.inj h
    exact hsame hbudget

end GovernedToolExecutor

end AfterSales
