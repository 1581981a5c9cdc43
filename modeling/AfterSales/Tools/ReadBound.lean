import AfterSales.Tools.Service

/-! How often a case reads its sources, whatever it is asked for.

    The requests are untrusted: any tool name, any arguments, in any order, over several runs that
    share the cache and the counters of their case, while the sources change. For each exact query
    the cache is in one of four states, and a read that is answered moves it along:

        unread ─▶ failed once ─▶ failed twice        unread, failed once ─▶ settled

    Only the first two let another read through, so the reads of a query can be listed. A read that
    raises counts as an attempt and stores nothing. After a failure that is the second attempt and
    ends the query; as the first attempt it leaves a query that may be read again and again. -/

namespace AfterSales

/-! ### Untrusted requests -/

/-- An argument of a request: a text, or any other value. -/
inductive ArgumentValue where
  | text (value : String)
  | other
  deriving DecidableEq, Repr

/-- A request for a read, as a model makes it. -/
structure ToolRequest where
  toolName : String
  arguments : List (String × ArgumentValue)
  deriving DecidableEq, Repr

/-- `READ_TOOL_NAMES`. -/
def ReadTool.all : List ReadTool :=
  [.getOrderContext, .getLogisticsTimeline, .getDeliveryProof, .getCarrierServiceAlerts,
    .searchAfterSalesPolicy, .getExistingLogisticsTickets]

/-- The tool of that name, if it is one that may be called. -/
def ReadTool.ofName (name : String) : Option ReadTool := ReadTool.all.find? (·.name = name)

/-- The keys that the arguments of a tool have. -/
def ReadTool.expectedKeys (tool : ReadTool) : List String :=
  if tool.takesIssue then ["order_id", "issue_type"] else ["order_id"]

/-- The value of an issue type in a request. -/
def IssueType.value : IssueType → String
  | .signedNotReceived => "signed_not_received"
  | .stalledTracking => "stalled_tracking"

namespace ToolRequest

variable (request : ToolRequest)

/-- `arguments.get`. -/
def get (key : String) : Option ArgumentValue := request.arguments.lookup key

/-- The keys of the arguments are the expected ones. -/
def hasKeys (expected : List String) : Bool :=
  expected.all (fun key => key ∈ request.arguments.map (·.1)) &&
    request.arguments.all fun argument => argument.1 ∈ expected

/-- `_validate_arguments`: the tool that is called, or why the request is refused. -/
def validate (trusted : TrustedToolContext) : Except String ReadTool :=
  match ReadTool.ofName request.toolName with
  | none => .error "TOOL_NOT_ALLOWED"
  | some tool =>
    if !request.hasKeys tool.expectedKeys then
      .error "INVALID_TOOL_ARGUMENTS"
    else if request.get "order_id" ≠ some (.text trusted.authorizedOrderId) then
      .error "TOOL_SCOPE_MISMATCH"
    else if ∃ issue ∈ tool.restrictedTo, trusted.canonicalIssueType ≠ issue then
      .error "TOOL_NOT_RELEVANT_TO_ISSUE"
    else if tool.takesIssue ∧
        request.get "issue_type" ≠ some (.text trusted.canonicalIssueType.value) then
      .error "TOOL_SCOPE_MISMATCH"
    else .ok tool

end ToolRequest

/-- The arguments that a request must have to be let through. -/
def TrustedToolContext.arguments (trusted : TrustedToolContext) (tool : ReadTool) :
    ToolArguments :=
  ⟨trusted.authorizedOrderId, if tool.takesIssue then some trusted.canonicalIssueType else none⟩

variable [PolicyDigest] [ProofDigest] [ResultDigest]

/-! ### What becomes of a request -/

/-- A read that reached its source: the query, the order it was authorized for, and the answer or
    the exception it ended with. -/
structure SourceRead (tool : ReadTool) where
  trusted : TrustedToolContext
  arguments : ToolArguments
  issueType : IssueType
  sourceRevision : String
  authorized : OrderFixture
  outcome : Except ValidationError (ToolResult (PayloadOf tool))

/-- How a read ends: with the status of its answer, or with the exception. -/
abbrev ReadEnd := Except ValidationError ExecutionStatus

def SourceRead.ended {tool : ReadTool} (source : SourceRead tool) : ReadEnd :=
  source.outcome.map (·.executionStatus)

/-- What becomes of a call of a tool. -/
inductive GovernedAnswer (tool : ReadTool) where
  | blocked (code : String)
  | cached (result : ToolResult (PayloadOf tool))
  | read (source : SourceRead tool)
  /-- A read was counted, and its source denies it. -/
  | denied

/-- The result or the exception that the caller gets. -/
def GovernedAnswer.result {tool : ReadTool} (trusted : TrustedToolContext) :
    GovernedAnswer tool → Except ValidationError (ToolResult (PayloadOf tool))
  | blocked code => .ok (GovernedToolExecutor.blockedResult trusted tool code)
  | cached result => .ok result
  | read source => source.outcome
  | denied => .ok (GovernedToolExecutor.blockedResult trusted tool "ORDER_NOT_FOUND_OR_FORBIDDEN")

namespace GovernedToolExecutor

/-- `execute_result` of a valid call, from the authorization on. -/
def dispatch (catalog : SyntheticReadToolCatalog) (trusted : TrustedToolContext)
    (state : GovernedState) (tool : ReadTool) (arguments : ToolArguments) :
    GovernedAnswer tool × GovernedState :=
  match authorizeOrder trusted.customerId arguments.orderId catalog.store with
  | none => (.blocked "ORDER_NOT_FOUND_OR_FORBIDDEN", state)
  | some _ =>
    let key := cacheKey catalog trusted tool arguments
    match state.cache.get key with
    | some cached => (.cached cached, state)
    | none =>
      if state.cache.retryExhausted key then (.blocked "TOOL_RETRY_EXHAUSTED", state)
      else
        match state.budget.recordActualExecution with
        | none => (.blocked "READ_TOOL_EXECUTION_BUDGET_EXCEEDED", state)
        | some budget =>
          let (attempt, cache) := state.cache.recordActualAttempt key
          let issueType := arguments.issueType.getD trusted.canonicalIssueType
          -- The read authorizes again.
          match authorizeOrder trusted.customerId arguments.orderId catalog.store,
              catalog.read trusted tool arguments issueType attempt with
          | some order, some outcome =>
            (.read ⟨trusted, arguments, issueType, key.sourceRevision, order, outcome⟩,
              ⟨cache.settle key outcome, budget⟩)
          | _, _ => (.denied, ⟨cache, budget⟩)

/-- `execute_result` of an untrusted request. -/
def execute (catalog : SyntheticReadToolCatalog) (trusted : TrustedToolContext)
    (state : GovernedState) (request : ToolRequest) :
    Option (Σ tool, GovernedAnswer tool) × GovernedState :=
  match request.validate trusted with
  | .error _ => (none, state)
  | .ok tool =>
    let (answer, state) := dispatch catalog trusted state tool (trusted.arguments tool)
    (some ⟨tool, answer⟩, state)

variable {catalog : SyntheticReadToolCatalog} {trusted : TrustedToolContext}
  {state state' : GovernedState} {tool : ReadTool} {arguments : ToolArguments}
  {answer : GovernedAnswer tool}

omit [PolicyDigest] [ProofDigest] [ResultDigest] in
/-- A request that is let through names the order and the issue of the case, and its tool fits. -/
theorem validate_ok {request : ToolRequest} (h : request.validate trusted = .ok tool) :
    request.get "order_id" = some (.text (trusted.arguments tool).orderId) ∧
      (∀ issue ∈ (trusted.arguments tool).issueType,
        request.get "issue_type" = some (.text issue.value)) ∧
      validateArguments trusted tool (trusted.arguments tool) = none := by
  unfold ToolRequest.validate at h
  split at h
  · cases h
  split at h
  · cases h
  split at h
  · cases h
  rename_i horder
  split at h
  · cases h
  rename_i hfits
  split at h
  · cases h
  rename_i hissue
  obtain rfl := Except.ok.inj h
  refine ⟨not_not.mp horder, ?_, ?_⟩
  · intro issue hmem
    by_contra hne
    unfold TrustedToolContext.arguments at hmem
    simp only at hmem
    split at hmem
    · rename_i htakes
      obtain rfl := Option.some.inj hmem
      exact hissue ⟨htakes, hne⟩
    · cases hmem
  · unfold validateArguments TrustedToolContext.arguments
    simp only
    split_ifs <;> simp_all

/-- The stations of a valid call are those of the governed executor. -/
theorem executeResult_dispatch (h : validateArguments trusted tool arguments = none) :
    executeResult catalog trusted state tool arguments =
      ((dispatch catalog trusted state tool arguments).1.result trusted,
        (dispatch catalog trusted state tool arguments).2) := by
  unfold executeResult dispatch
  simp only [h]
  cases hauth : authorizeOrder trusted.customerId arguments.orderId catalog.store with
  | none => rfl
  | some order =>
    simp only
    cases hcached : state.cache.get (cacheKey catalog trusted tool arguments) with
    | some cached => rfl
    | none =>
      simp only
      by_cases hexhausted : state.cache.retryExhausted (cacheKey catalog trusted tool arguments)
      · simp only [if_pos hexhausted]
        rfl
      simp only [if_neg hexhausted]
      cases hbudget : state.budget.recordActualExecution with
      | none => rfl
      | some budget =>
        simp only
        cases hread : catalog.read trusted tool arguments
          (arguments.issueType.getD trusted.canonicalIssueType)
          (state.cache.recordActualAttempt (cacheKey catalog trusted tool arguments)).1 with
        | none => rfl
        | some outcome =>
          cases outcome with
          | error raised => rfl
          | ok result => rfl

/-- What a valid call may do: it leaves everything as it was, or it reads once, as the next attempt
    of its query, and settles what that ended with. -/
theorem dispatch_cases (h : dispatch catalog trusted state tool arguments = (answer, state')) :
    ((∃ code, answer = .blocked code) ∧ state' = state) ∨
    (∃ result, answer = .cached result ∧ state' = state) ∨
    ∃ source budget, answer = .read source ∧ source.trusted = trusted ∧
      source.arguments = arguments ∧
      source.issueType = arguments.issueType.getD trusted.canonicalIssueType ∧
      source.sourceRevision = (cacheKey catalog trusted tool arguments).sourceRevision ∧
      authorizeOrder trusted.customerId arguments.orderId catalog.store = some source.authorized ∧
      state.cache.get (cacheKey catalog trusted tool arguments) = none ∧
      state.cache.retryExhausted (cacheKey catalog trusted tool arguments) = false ∧
      state.budget.recordActualExecution = some budget ∧
      catalog.read trusted tool arguments source.issueType
        (state.cache.actualAttempts (cacheKey catalog trusted tool arguments) + 1)
          = some source.outcome ∧
      state' = ⟨(state.cache.recordActualAttempt (cacheKey catalog trusted tool arguments)).2.settle
        (cacheKey catalog trusted tool arguments) source.outcome, budget⟩ := by
  unfold dispatch at h
  split at h
  · obtain ⟨rfl, rfl⟩ := Prod.mk.inj h
    exact Or.inl ⟨⟨_, rfl⟩, rfl⟩
  rename_i order hauth
  simp only at h
  split at h
  · obtain ⟨rfl, rfl⟩ := Prod.mk.inj h
    exact Or.inr (Or.inl ⟨_, rfl, rfl⟩)
  rename_i hcached
  split at h
  · obtain ⟨rfl, rfl⟩ := Prod.mk.inj h
    exact Or.inl ⟨⟨_, rfl⟩, rfl⟩
  rename_i hexhausted
  split at h
  · obtain ⟨rfl, rfl⟩ := Prod.mk.inj h
    exact Or.inl ⟨⟨_, rfl⟩, rfl⟩
  rename_i budget hbudget
  split at h
  · rename_i order' result hagain hread
    obtain ⟨rfl, rfl⟩ := Prod.mk.inj h
    exact Or.inr (Or.inr ⟨_, budget, rfl, rfl, rfl, rfl, rfl, hagain, hcached,
      by simpa using hexhausted, hbudget, hread, rfl⟩)
  · rename_i hnever
    -- Nothing runs between the two authorizations, so the second one grants what the first did.
    obtain ⟨result, hread⟩ : ∃ result, catalog.read trusted tool arguments
        (arguments.issueType.getD trusted.canonicalIssueType)
        (state.cache.recordActualAttempt (cacheKey catalog trusted tool arguments)).1
          = some result := by
      rw [SyntheticReadToolCatalog.read, hauth]
      exact ⟨_, rfl⟩
    exact absurd hread (hnever order result hauth)

end GovernedToolExecutor

/-! ### Sessions -/

/-- What may happen on a case: a request of one of its runs, in whatever state the sources then are, a
    planning turn, a new run. -/
inductive SessionStep (caseId orderId : String) where
  | request (catalog : SyntheticReadToolCatalog) (trusted : TrustedToolContext)
      (request : ToolRequest) (hcase : trusted.caseId = caseId)
      (horder : trusted.authorizedOrderId = orderId)
  | planningTurn
  | newRun

/-- The cache and the counters of a case, and the reads that reached a source so far. -/
structure ReadSession where
  state : GovernedState
  reads : List (Σ tool, SourceRead tool)

/-- The exact query of a read. -/
def SourceRead.key {tool : ReadTool} (source : SourceRead tool) : ToolCacheKey :=
  ⟨source.trusted.caseId, tool, source.arguments, source.sourceRevision⟩

/-- The read in an answer, if it took one. -/
def GovernedAnswer.reads : Option (Σ tool, GovernedAnswer tool) → List (Σ tool, SourceRead tool)
  | some ⟨tool, .read source⟩ => [⟨tool, source⟩]
  | _ => []

namespace ReadSession

def start : ReadSession := ⟨⟨.empty, .fresh⟩, []⟩

variable {caseId orderId : String}

def step (session : ReadSession) : SessionStep caseId orderId → ReadSession
  | .request catalog trusted request _ _ =>
    let (answer, state) := GovernedToolExecutor.execute catalog trusted session.state request
    ⟨state, session.reads ++ GovernedAnswer.reads answer⟩
  | .planningTurn => { session with
      state.budget := session.state.budget.recordPlanningTurn.getD session.state.budget }
  | .newRun => { session with
      state.budget := { session.state.budget with
        runPlanningTurns := 0
        runBound := ToolBudget.fresh.runBound } }

/-- The reads of one exact query. -/
def readsOf (session : ReadSession) (key : ToolCacheKey) : List (Σ tool, SourceRead tool) :=
  session.reads.filter (·.2.key = key)

end ReadSession

/-! ### The states of a query -/

/-- What the cache holds of a query, by the ends of the reads it was made of. -/
inductive QueryState (cache : CaseToolCache) (key : ToolCacheKey) : List ReadEnd → Prop
  | unread (unknown : cache.get key = none) (attempts : cache.actualAttempts key = 0)
      (retryable : cache.lastResultRetryable key = false) : QueryState cache key []
  | failed (unknown : cache.get key = none) (attempts : cache.actualAttempts key = 1)
      (retryable : cache.lastResultRetryable key = true) :
      QueryState cache key [.ok .retryableError]
  | exhausted (last : ReadEnd) (unknown : cache.get key = none)
      (attempts : cache.actualAttempts key = 2)
      (retryable : cache.lastResultRetryable key = true) :
      QueryState cache key [.ok .retryableError, last]
  | settled (earlier : List ReadEnd) (status : ExecutionStatus)
      (known : (cache.get key).isSome) (failures : earlier ∈ [[], [.ok .retryableError]])
      (final : status ≠ .retryableError) : QueryState cache key (earlier ++ [.ok status])

namespace QueryState

variable {cache cache' : CaseToolCache} {key other : ToolCacheKey} {ends : List ReadEnd}

omit [ProofDigest] [ResultDigest] in
theorem of_agree (h : QueryState cache key ends)
    (hagree : CaseToolCache.AgreeAt cache' cache key) : QueryState cache' key ends := by
  obtain ⟨hget, hattempts, hretryable⟩ := hagree
  cases h with
  | unread unknown attempts retryable =>
    exact .unread (hget.trans unknown) (hattempts.trans attempts) (hretryable.trans retryable)
  | failed unknown attempts retryable =>
    exact .failed (hget.trans unknown) (hattempts.trans attempts) (hretryable.trans retryable)
  | exhausted last unknown attempts retryable =>
    exact .exhausted last (hget.trans unknown) (hattempts.trans attempts)
      (hretryable.trans retryable)
  | settled earlier status known failures final =>
    exact .settled earlier status (hget ▸ known) failures final

omit [ProofDigest] [ResultDigest] in
/-- A query is read at most twice. -/
theorem length_le (h : QueryState cache key ends) : ends.length ≤ 2 := by
  cases h with
  | settled earlier status known failures final =>
    simp only [List.mem_cons, List.not_mem_nil, or_false] at failures
    rcases failures with rfl | rfl <;> simp
  | _ => simp

omit [ProofDigest] [ResultDigest] in
/-- A query that may be read was not read, or failed once. -/
theorem due (h : QueryState cache key ends) (hget : cache.get key = none)
    (hleft : cache.retryExhausted key = false) :
    (ends = [] ∧ cache.actualAttempts key = 0) ∨
      (ends = [.ok .retryableError] ∧ cache.actualAttempts key = 1 ∧
        cache.lastResultRetryable key = true) := by
  cases h with
  | unread unknown attempts retryable => exact Or.inl ⟨rfl, attempts⟩
  | failed unknown attempts retryable => exact Or.inr ⟨rfl, attempts, retryable⟩
  | exhausted last unknown attempts retryable =>
    simp [CaseToolCache.retryExhausted, attempts, retryable] at hleft
  | settled earlier status known failures final => simp [hget] at known

omit [ProofDigest] [ResultDigest] in
/-- An answer moves its query on. -/
theorem answered (h : QueryState cache key ends) (hget : cache.get key = none)
    (hleft : cache.retryExhausted key = false) (result : ToolResult (PayloadOf key.toolName)) :
    QueryState ((cache.recordActualAttempt key).2.store key result) key
      (ends ++ [.ok result.executionStatus]) := by
  have hdue := h.due hget hleft
  obtain ⟨hreusable, hterminal⟩ : cache.reusable key = none ∧ cache.terminalErrors key = none := by
    unfold CaseToolCache.get at hget
    cases hr : cache.reusable key <;> simp_all
  cases hstatus : result.executionStatus with
  | retryableError =>
    have hunknown : ((cache.recordActualAttempt key).2.store key result).get key = none := by
      simp [CaseToolCache.store, CaseToolCache.get, CaseToolCache.recordActualAttempt, hstatus,
        hreusable, hterminal]
    have hattempts : ((cache.recordActualAttempt key).2.store key result).actualAttempts key =
        cache.actualAttempts key + 1 := by
      simp [CaseToolCache.store, CaseToolCache.recordActualAttempt, hstatus]
    have hretryable : ((cache.recordActualAttempt key).2.store key result).lastResultRetryable key
        = true := by
      simp [CaseToolCache.store, CaseToolCache.recordActualAttempt, hstatus]
    rcases hdue with ⟨rfl, hnone⟩ | ⟨rfl, hone, -⟩
    · exact .failed hunknown (by omega) hretryable
    · exact .exhausted _ hunknown (by omega) hretryable
  | success =>
    refine .settled ends _ ?_ (by rcases hdue with ⟨rfl, -⟩ | ⟨rfl, -⟩ <;> simp) (by decide)
    simp [CaseToolCache.store, CaseToolCache.get, CaseToolCache.recordActualAttempt, hstatus]
  | nonRetryableError =>
    refine .settled ends _ ?_ (by rcases hdue with ⟨rfl, -⟩ | ⟨rfl, -⟩ <;> simp) (by decide)
    simp [CaseToolCache.store, CaseToolCache.get, CaseToolCache.recordActualAttempt, hstatus,
      hreusable]

omit [ProofDigest] [ResultDigest] in
/-- A second attempt that raises uses up its query. -/
theorem raised (h : QueryState cache key ends) (hget : cache.get key = none)
    (hleft : cache.retryExhausted key = false) (hlater : cache.actualAttempts key ≠ 0)
    (e : ValidationError) :
    QueryState (cache.recordActualAttempt key).2 key (ends ++ [.error e]) := by
  rcases h.due hget hleft with ⟨-, hnone⟩ | ⟨rfl, hone, hretryable⟩
  · exact absurd hnone hlater
  · exact .exhausted _ hget (by simp [CaseToolCache.recordActualAttempt, hone]) hretryable

omit [ProofDigest] [ResultDigest] in
/-- A read moves its query on, unless it is a first attempt that raises. -/
theorem settle (h : QueryState cache key ends) (hget : cache.get key = none)
    (hleft : cache.retryExhausted key = false)
    (outcome : Except ValidationError (ToolResult (PayloadOf key.toolName)))
    (hfirst : ∀ e, outcome = .error e → cache.actualAttempts key ≠ 0) :
    QueryState ((cache.recordActualAttempt key).2.settle key outcome) key
      (ends ++ [outcome.map (·.executionStatus)]) := by
  cases outcome with
  | ok result => exact h.answered hget hleft result
  | error e => exact h.raised hget hleft (hfirst e rfl) e

end QueryState

/-! ### What holds of every session -/

/-- A read in the scope of its case: of the authorized order, for the issue of the case, and granted
    to its customer at that moment. -/
structure SourceRead.Scoped (caseId orderId : String) {tool : ReadTool} (source : SourceRead tool) :
    Prop where
  case : source.trusted.caseId = caseId
  order : source.arguments.orderId = orderId
  issue : ∀ issue ∈ source.arguments.issueType, issue = source.trusted.canonicalIssueType
  asked : source.issueType = source.trusted.canonicalIssueType
  granted : source.authorized.orderId = orderId ∧
    source.authorized.customerId = source.trusted.customerId

/-- The first attempt of the policy search of a case raises: its order is authorized, no fault is
    scripted for the attempt, and the search of the scope breaks the contract of its payload. -/
def FirstSearchRaises (catalog : SyntheticReadToolCatalog) (trusted : TrustedToolContext) : Prop :=
  ∃ order, authorizeOrder trusted.customerId trusted.authorizedOrderId catalog.store = some order ∧
    catalog.store.faults trusted.faultSeed .searchAfterSalesPolicy 1 = none ∧
    catalog.policyRag.search order.orderId
      ⟨trusted.canonicalIssueType, order.serviceLevel, order.region, trusted.evaluatedAt⟩ =
        .error .validation

omit [ProofDigest] in
/-- Only a policy search raises, and it does so when nothing keeps it from its source. -/
theorem SyntheticReadToolCatalog.read_raises_iff {catalog : SyntheticReadToolCatalog}
    {trusted : TrustedToolContext} {tool : ReadTool} :
    (∃ e, catalog.read trusted tool (trusted.arguments tool) trusted.canonicalIssueType 1 =
      some (.error e)) ↔ tool = .searchAfterSalesPolicy ∧ FirstSearchRaises catalog trusted := by
  unfold FirstSearchRaises SyntheticReadToolCatalog.read
  simp only [TrustedToolContext.arguments]
  cases hauth : authorizeOrder trusted.customerId trusted.authorizedOrderId catalog.store with
  | none => simp
  | some order =>
    simp only [Option.map_some, Option.some.injEq, exists_eq_left']
    cases hfault : catalog.store.faults trusted.faultSeed tool 1 with
    | some fault =>
      refine iff_of_false (by simp) ?_
      rintro ⟨rfl, hnone, -⟩
      rw [hfault] at hnone
      cases hnone
    | none =>
      cases tool with
      | searchAfterSalesPolicy =>
        simp only [readSource, hfault, true_and]
        split
        · rename_i e hsearch
          simp [hsearch]
        · rename_i hsearch
          exact iff_of_true ⟨_, rfl⟩ hsearch
        · rename_i payload hsearch
          simp [hsearch]
      | _ => simp [readSource]

/-- The step meets the sources and the contexts of a world alone. -/
def SessionStep.Within {caseId orderId : String}
    (world : Set (SyntheticReadToolCatalog × TrustedToolContext)) :
    SessionStep caseId orderId → Prop
  | .request catalog trusted _ _ _ => (catalog, trusted) ∈ world
  | .planningTurn => True
  | .newRun => True

namespace ReadSession

variable {caseId orderId : String} {session : ReadSession}

/-- The reads of a case stay within their bounds: they are in scope, a query is read at most twice,
    again only after a failure that may be retried, and all queries together at most six times; a
    call that reads nothing changes nothing. -/
structure Bounded (caseId orderId : String) (session : ReadSession) : Prop where
  inScope : ∀ read ∈ session.reads, read.2.Scoped caseId orderId
  twice : ∀ key, (session.readsOf key).length ≤ 2
  again : session.reads.Pairwise fun earlier later => earlier.2.key = later.2.key →
    earlier.2.ended = .ok .retryableError
  six : session.reads.length ≤ 6
  quiet : ∀ catalog trusted request,
    GovernedAnswer.reads (GovernedToolExecutor.execute catalog trusted session.state request).1 = []
      → (GovernedToolExecutor.execute catalog trusted session.state request).2 = session.state

/-- The session so far: its reads, its counter and its cache belong together. -/
structure Inv (caseId orderId : String) (session : ReadSession) : Prop where
  inScope : ∀ read ∈ session.reads, read.2.Scoped caseId orderId
  counted : session.state.budget.actualReadToolExecutions = session.reads.length
  queries : ∀ key, QueryState session.state.cache key
    ((session.readsOf key).map fun read => read.2.ended)
  ordered : session.reads.Pairwise fun earlier later => earlier.2.key = later.2.key →
    earlier.2.ended = .ok .retryableError

omit [ProofDigest] [ResultDigest] in
theorem Inv.start : Inv caseId orderId start where
  inScope := by simp [ReadSession.start]
  counted := rfl
  queries key := .unread rfl rfl rfl
  ordered := List.Pairwise.nil

omit [ProofDigest] [ResultDigest] in
/-- A change of the planning turns alone. -/
theorem Inv.setBudget (h : session.Inv caseId orderId) {budget : ToolBudget}
    (hreads : budget.actualReadToolExecutions = session.state.budget.actualReadToolExecutions) :
    Inv caseId orderId { session with state.budget := budget } :=
  { h with counted := hreads.trans h.counted }

omit [ProofDigest] [ResultDigest] in
/-- One more read, of a query that may be read, unless it is a first attempt that raises. -/
theorem Inv.read {tool : ReadTool} {source : SourceRead tool} {budget : ToolBudget}
    (h : session.Inv caseId orderId) (hscoped : source.Scoped caseId orderId)
    (hget : session.state.cache.get source.key = none)
    (hleft : session.state.cache.retryExhausted source.key = false)
    (hbudget : session.state.budget.recordActualExecution = some budget)
    (hfirst : ∀ e, source.outcome = .error e →
      session.state.cache.actualAttempts source.key ≠ 0) :
    Inv caseId orderId
      ⟨⟨(session.state.cache.recordActualAttempt source.key).2.settle source.key source.outcome,
        budget⟩, session.reads ++ [⟨tool, source⟩]⟩ where
  inScope := by
    intro read hmem
    rcases List.mem_append.mp hmem with hmem | hmem
    · exact h.inScope read hmem
    · rw [List.mem_singleton.mp hmem]
      exact hscoped
  counted := by
    rw [List.length_append, List.length_singleton, ← h.counted]
    exact (ToolBudget.recordActualExecution_some hbudget).1
  queries := by
    intro key
    by_cases hkey : source.key = key
    · subst hkey
      have hends : ((readsOf ⟨⟨(session.state.cache.recordActualAttempt source.key).2.settle
          source.key source.outcome, budget⟩, session.reads ++ [⟨tool, source⟩]⟩ source.key).map
            fun read => read.2.ended) =
          ((session.readsOf source.key).map fun read => read.2.ended) ++ [source.ended] := by
        simp [readsOf, List.filter_append]
      rw [hends]
      exact (h.queries source.key).settle hget hleft source.outcome hfirst
    · have hsame : (readsOf ⟨⟨(session.state.cache.recordActualAttempt source.key).2.settle
          source.key source.outcome, budget⟩, session.reads ++ [⟨tool, source⟩]⟩ key) =
          session.readsOf key := by
        simp [readsOf, List.filter_append, hkey]
      rw [hsame]
      exact (h.queries key).of_agree
        (CaseToolCache.agree_after_settle _ (Ne.symm hkey) source.outcome)
  ordered := by
    refine List.pairwise_append.mpr ⟨h.ordered, List.pairwise_singleton _ _, ?_⟩
    intro earlier hearlier later hlater hkey
    rw [List.mem_singleton.mp hlater] at hkey
    have hmem : earlier.2.ended ∈ (session.readsOf source.key).map fun read => read.2.ended :=
      List.mem_map_of_mem (List.mem_filter.mpr ⟨hearlier, by simpa using hkey⟩)
    rcases (h.queries source.key).due hget hleft with ⟨hnone, -⟩ | ⟨hone, -⟩
    · rw [hnone] at hmem
      cases hmem
    · rw [hone] at hmem
      exact List.mem_singleton.mp hmem

/-- What a request may do: it leaves everything as it was, or it is a read in the scope of its case,
    of a query that may be read, as the next attempt of that query. -/
theorem execute_cases {catalog : SyntheticReadToolCatalog} {trusted : TrustedToolContext}
    {state state' : GovernedState} {request : ToolRequest}
    {answer : Option (Σ tool, GovernedAnswer tool)}
    (h : GovernedToolExecutor.execute catalog trusted state request = (answer, state')) :
    (GovernedAnswer.reads answer = [] ∧ state' = state) ∨
    ∃ (tool : ReadTool) (source : SourceRead tool) (budget : ToolBudget),
      GovernedAnswer.reads answer = [⟨tool, source⟩] ∧
      source.Scoped trusted.caseId trusted.authorizedOrderId ∧
      state.cache.get source.key = none ∧ state.cache.retryExhausted source.key = false ∧
      state.budget.recordActualExecution = some budget ∧
      catalog.read trusted tool (trusted.arguments tool) trusted.canonicalIssueType
        (state.cache.actualAttempts source.key + 1) = some source.outcome ∧
      state' = ⟨(state.cache.recordActualAttempt source.key).2.settle source.key source.outcome,
        budget⟩ := by
  unfold GovernedToolExecutor.execute at h
  cases hvalid : request.validate trusted with
  | error code =>
    rw [hvalid] at h
    obtain ⟨rfl, rfl⟩ := Prod.mk.inj h
    exact Or.inl ⟨rfl, rfl⟩
  | ok tool =>
    rw [hvalid] at h
    generalize hcall : GovernedToolExecutor.dispatch catalog trusted state tool
      (trusted.arguments tool) = called
    obtain ⟨got, after⟩ := called
    simp only [hcall] at h
    obtain ⟨rfl, rfl⟩ := Prod.mk.inj h
    rcases GovernedToolExecutor.dispatch_cases hcall with ⟨⟨code, rfl⟩, rfl⟩ | ⟨result, rfl, rfl⟩ |
      ⟨source, budget, rfl, hsame, harguments, hissue, hrevision, hauth, hget, hleft, hbudget,
        hread, rfl⟩
    · exact Or.inl ⟨rfl, rfl⟩
    · exact Or.inl ⟨rfl, rfl⟩
    obtain ⟨hstored, hcustomer⟩ := Option.filter_eq_some_iff.mp hauth
    obtain ⟨trusted', arguments, issue, revision, order, outcome⟩ := source
    simp only at hsame harguments hissue hrevision hstored hcustomer hread
    subst hsame harguments hrevision
    have hcanonical : (trusted'.arguments tool).issueType.getD trusted'.canonicalIssueType =
        trusted'.canonicalIssueType := by
      simp only [TrustedToolContext.arguments]
      split <;> rfl
    obtain rfl : issue = trusted'.canonicalIssueType := hissue.trans hcanonical
    refine Or.inr ⟨tool, _, budget, rfl, ?_, hget, hleft, hbudget, hread, rfl⟩
    refine ⟨rfl, rfl, ?_, rfl, catalog.store.ordersKey _ _ hstored, by simpa using hcustomer⟩
    intro issue hmem
    simp only [TrustedToolContext.arguments] at hmem
    split at hmem
    · exact (Option.some.inj hmem).symm
    · cases hmem

/-- One step of a session that meets no first attempt that raises. -/
theorem Inv.step {world : Set (SyntheticReadToolCatalog × TrustedToolContext)}
    (hworld : ∀ catalog trusted, (catalog, trusted) ∈ world → trusted.caseId = caseId →
      trusted.authorizedOrderId = orderId → ¬ FirstSearchRaises catalog trusted)
    (h : session.Inv caseId orderId) {s : SessionStep caseId orderId} (hs : s.Within world) :
    (session.step s).Inv caseId orderId := by
  cases s with
  | request catalog trusted request hcase horder =>
    generalize hcall : GovernedToolExecutor.execute catalog trusted session.state request = called
    obtain ⟨answer, state⟩ := called
    simp only [ReadSession.step, hcall]
    rcases execute_cases hcall with ⟨hreads, rfl⟩ |
      ⟨tool, source, budget, hreads, hscoped, hget, hleft, hbudget, hread, rfl⟩
    · rw [hreads, List.append_nil]
      exact h
    · rw [hreads]
      refine h.read (hcase ▸ horder ▸ hscoped) hget hleft hbudget fun e he hnone => ?_
      rw [hnone, he] at hread
      have hraises := SyntheticReadToolCatalog.read_raises_iff.mp ⟨e, hread⟩
      exact hworld catalog trusted hs hcase horder hraises.2
  | planningTurn =>
    refine h.setBudget ?_
    cases hturn : session.state.budget.recordPlanningTurn with
    | none => rfl
    | some budget => exact (ToolBudget.recordPlanningTurn_some hturn).1
  | newRun => exact h.setBudget rfl

/-- Every such session, by induction on its steps. -/
theorem Inv.run {world : Set (SyntheticReadToolCatalog × TrustedToolContext)}
    (hworld : ∀ catalog trusted, (catalog, trusted) ∈ world → trusted.caseId = caseId →
      trusted.authorizedOrderId = orderId → ¬ FirstSearchRaises catalog trusted)
    (steps : List (SessionStep caseId orderId)) (hsteps : ∀ s ∈ steps, s.Within world)
    (h : session.Inv caseId orderId) :
    (steps.foldl ReadSession.step session).Inv caseId orderId := by
  induction steps generalizing session with
  | nil => exact h
  | cons s steps ih =>
    rw [List.foldl_cons]
    exact ih (fun t ht => hsteps t (List.mem_cons_of_mem _ ht))
      (h.step hworld (hsteps s List.mem_cons_self))

theorem Inv.bounded (h : session.Inv caseId orderId) : session.Bounded caseId orderId where
  inScope := h.inScope
  twice key := by simpa using (h.queries key).length_le
  again := h.ordered
  six := by
    rw [← h.counted]
    exact session.state.budget.readBound
  quiet := by
    intro catalog trusted request hnone
    generalize hcall : GovernedToolExecutor.execute catalog trusted session.state request = called
      at hnone
    obtain ⟨answer, state⟩ := called
    rcases execute_cases hcall with ⟨-, rfl⟩ | ⟨tool, source, budget, hreads, -⟩
    · rfl
    · rw [hnone] at hreads
      cases hreads

end ReadSession

/-! ### A first attempt that raises -/

/-- The request for the policy of a case. -/
def searchRequest (trusted : TrustedToolContext) : ToolRequest where
  toolName := ReadTool.searchAfterSalesPolicy.name
  arguments := [("order_id", .text trusted.authorizedOrderId),
    ("issue_type", .text trusted.canonicalIssueType.value)]

omit [PolicyDigest] [ProofDigest] [ResultDigest] in
theorem searchRequest_valid (trusted : TrustedToolContext) :
    (searchRequest trusted).validate trusted = .ok .searchAfterSalesPolicy := by
  have hname : ReadTool.ofName ReadTool.searchAfterSalesPolicy.name =
      some .searchAfterSalesPolicy := by decide
  simp only [ToolRequest.validate, searchRequest, hname]
  simp [ToolRequest.hasKeys, ToolRequest.get, ReadTool.expectedKeys, ReadTool.takesIssue,
    ReadTool.restrictedTo, List.lookup_cons]

/-- The exact query of the policy search of a case. -/
abbrev searchKey (catalog : SyntheticReadToolCatalog) (trusted : TrustedToolContext) :
    ToolCacheKey :=
  GovernedToolExecutor.cacheKey catalog trusted .searchAfterSalesPolicy
    (trusted.arguments .searchAfterSalesPolicy)

/-- The attempts of a query were counted, and nothing is known of how they ended. -/
structure CaseToolCache.Unsettled (cache : CaseToolCache) (key : ToolCacheKey) (attempts : Nat) :
    Prop where
  unknown : cache.get key = none
  counted : cache.actualAttempts key = attempts
  retryable : cache.lastResultRetryable key = false

namespace CaseToolCache.Unsettled

variable {cache : CaseToolCache} {key : ToolCacheKey} {attempts : Nat}

omit [ProofDigest] [ResultDigest] in
theorem empty (key : ToolCacheKey) : CaseToolCache.empty.Unsettled key 0 := ⟨rfl, rfl, rfl⟩

omit [ProofDigest] [ResultDigest] in
theorem attempt (h : cache.Unsettled key attempts) :
    (cache.recordActualAttempt key).2.Unsettled key (attempts + 1) :=
  ⟨h.unknown, by simp [recordActualAttempt, h.counted], h.retryable⟩

end CaseToolCache.Unsettled

namespace ReadSession

variable {caseId orderId : String} {catalog : SyntheticReadToolCatalog}
  {trusted : TrustedToolContext}

/-- A search of an authorized order that nothing is known of is a read, whatever was counted. -/
theorem search_reads (hcase : trusted.caseId = caseId)
    (horder : trusted.authorizedOrderId = orderId) {order : OrderFixture}
    (hauth : authorizeOrder trusted.customerId trusted.authorizedOrderId catalog.store = some order)
    {session : ReadSession} {attempts : Nat}
    (h : session.state.cache.Unsettled (searchKey catalog trusted) attempts)
    (hroom : session.state.budget.actualReadToolExecutions < 6) :
    ∃ (source : SourceRead .searchAfterSalesPolicy) (budget : ToolBudget),
      source.key = searchKey catalog trusted ∧
      catalog.read trusted .searchAfterSalesPolicy (trusted.arguments .searchAfterSalesPolicy)
        trusted.canonicalIssueType (attempts + 1) = some source.outcome ∧
      budget.actualReadToolExecutions = session.state.budget.actualReadToolExecutions + 1 ∧
      session.step (.request catalog trusted (searchRequest trusted) hcase horder :
          SessionStep caseId orderId) =
        ⟨⟨(session.state.cache.recordActualAttempt (searchKey catalog trusted)).2.settle
          (searchKey catalog trusted) source.outcome, budget⟩,
            session.reads ++ [⟨.searchAfterSalesPolicy, source⟩]⟩ := by
  have hauthorized : authorizeOrder trusted.customerId
      (trusted.arguments .searchAfterSalesPolicy).orderId catalog.store = some order := hauth
  have hissue : (trusted.arguments .searchAfterSalesPolicy).issueType.getD
      trusted.canonicalIssueType = trusted.canonicalIssueType := rfl
  have hleft : session.state.cache.retryExhausted (searchKey catalog trusted) = false := by
    simp [CaseToolCache.retryExhausted, h.retryable]
  obtain ⟨outcome, hread⟩ : ∃ outcome, catalog.read trusted .searchAfterSalesPolicy
      (trusted.arguments .searchAfterSalesPolicy) trusted.canonicalIssueType (attempts + 1) =
        some outcome := by
    rw [SyntheticReadToolCatalog.read, hauthorized]
    exact ⟨_, rfl⟩
  obtain ⟨budget, hbudget, -⟩ := ToolBudget.recordActualExecution_of_lt hroom
  refine ⟨⟨trusted, trusted.arguments .searchAfterSalesPolicy, trusted.canonicalIssueType,
    (searchKey catalog trusted).sourceRevision, order, outcome⟩, budget, rfl, hread,
    (ToolBudget.recordActualExecution_some hbudget).1, ?_⟩
  have hcounted := h.counted
  have hunknown := h.unknown
  simp only [ReadSession.step, GovernedToolExecutor.execute, searchRequest_valid,
    GovernedToolExecutor.dispatch, hauthorized, hunknown, hleft, hbudget, Bool.false_eq_true,
    if_false, hissue, CaseToolCache.recordActualAttempt, hcounted, hread, GovernedAnswer.reads]

/-- A search whose first attempt raises is read again in the next run, although nothing said that it
    may be. -/
theorem search_again (hcase : trusted.caseId = caseId) (horder : trusted.authorizedOrderId = orderId)
    (h : FirstSearchRaises catalog trusted) :
    ¬ (([.request catalog trusted (searchRequest trusted) hcase horder, .newRun,
      .request catalog trusted (searchRequest trusted) hcase horder] :
        List (SessionStep caseId orderId)).foldl step start).Bounded caseId orderId := by
  intro hbounded
  obtain ⟨e, hraises⟩ := SyntheticReadToolCatalog.read_raises_iff.mpr ⟨rfl, h⟩
  obtain ⟨order, hauth, -⟩ := h
  have hnew : start.state.cache.Unsettled (searchKey catalog trusted) 0 := .empty _
  obtain ⟨first, budget, hfirst, houtcome, hcount, hstep⟩ := search_reads hcase horder hauth hnew
    (by simp [start, ToolBudget.fresh])
  obtain hraised : first.outcome = .error e :=
    (Option.some.inj (houtcome.symm.trans hraises))
  set session := (step start (.request catalog trusted (searchRequest trusted) hcase horder :
    SessionStep caseId orderId)) with hsession
  have hunsettled : (session.step (.newRun : SessionStep caseId orderId)).state.cache.Unsettled
      (searchKey catalog trusted) 1 := by
    rw [hstep, hraised]
    exact hnew.attempt
  obtain ⟨second, budget', hsecond, -, -, hstep'⟩ := search_reads hcase horder hauth hunsettled (by
    rw [hstep]
    show budget.actualReadToolExecutions < 6
    simp [hcount, start, ToolBudget.fresh])
  have hagain := hbounded.again
  rw [List.foldl_cons, List.foldl_cons, List.foldl_cons, List.foldl_nil, ← hsession, hstep',
    hstep] at hagain
  have hended : first.ended = .ok .retryableError :=
    List.rel_of_pairwise_cons hagain (List.mem_singleton_self _) (hfirst.trans hsecond.symm)
  rw [SourceRead.ended, hraised] at hended
  cases hended

end ReadSession

end AfterSales

/-! ### One clause id under two versions, again -/

namespace AfterSales

section VersionedClause

attribute [local instance] PolicyDigest.bySource ProofDigest.byId ResultDigest.byName

/-- One delivered order. -/
def versionedOrders (id : String) : Option OrderFixture :=
  if id = "ORD-1" then some ⟨"ORD-1", "CUS-1", .delivered, "standard", "cn-east", "order-v1"⟩
  else none

theorem versionedOrders_key {id : String} {o : OrderFixture} (h : versionedOrders id = some o) :
    o.orderId = id := by
  rw [versionedOrders, Option.ite_none_right_eq_some] at h
  rw [← Option.some.inj h.2, h.1]

/-- The sources of that order, with a search that recalls both versions of a clause. -/
def versionedCatalog : SyntheticReadToolCatalog where
  store :=
    { fixtureVersion := "fixture-v1"
      orders := versionedOrders
      timelines := fun _ => []
      deliveryProofs := fun _ => none
      carrierAlerts := fun _ => []
      shipments := fun _ => []
      investigationCases := []
      faults := fun _ _ _ => none
      actionFaultPlan := fun _ => []
      baseTickets := []
      dynamicTickets := []
      ticketRevision := 0
      actionFaultPositions := fun _ => 0
      ordersKey := fun _ _ h => versionedOrders_key h }
  policyRag := { versionedRag with
    rank := fun _ _ _ =>
      .ok ((versionedRag.rankCandidates versionedScore 3).map (·.toRetrievedCandidate)) }

def versionedTrusted : TrustedToolContext where
  customerId := "CUS-1"
  conversationId := "CONV-1"
  caseId := "CASE-1"
  runId := "RUN-1"
  authorizedOrderId := "ORD-1"
  canonicalIssueType := .signedNotReceived
  fixtureVersion := "fixture-v1"
  faultSeed := "default"
  evaluatedAt := 1000
  targetShipmentId := none

/-- The policy is asked for once. -/
def versionedSearch : SessionStep "CASE-1" "ORD-1" :=
  .request versionedCatalog versionedTrusted (searchRequest versionedTrusted) rfl rfl

/-- The policy is asked for in six runs. -/
def versionedSession : ReadSession :=
  ([versionedSearch, .newRun, versionedSearch, .newRun, versionedSearch, .newRun, versionedSearch,
    .newRun, versionedSearch, .newRun, versionedSearch] :
      List (SessionStep "CASE-1" "ORD-1")).foldl ReadSession.step .start

end VersionedClause

end AfterSales
