import AfterSales.Evals.Verdicts
import AfterSales.Lib.Matching

/-! The retries of a trace, and what the two graders of retries say of them.

    A first attempt that failed in a way that may pass is tried once more: the next read is the same
    one, of the same planning turn, with nothing decided in between. `grade_exact_retry` returns
    at the first failed attempt, whatever follows. `grade_retry_budget` looks at the pairs of
    attempts that are there, and not at the routes that ask for one.

        attempt 1 fails ──▶ attempt 2        judged
        attempt 1 fails ──▶ anything         not looked at -/

namespace AfterSales.V3

/-! ### Exact retries -/

/-- A second attempt at the same read, within the planning turn. -/
def V3ToolCall.repeats (next call : V3ToolCall) : Bool :=
  next.attemptNumber = 2 && next.toolName = call.toolName &&
    (Json.object next.normalizedArgs).same (.object call.normalizedArgs) &&
    next.sourceVersion = call.sourceVersion && next.planningTurn = call.planningTurn

/-- The next read that is executed repeats this one, and nothing is decided in between. -/
def Retried (decisions : List DecisionTraceRecord) (call : V3ToolCall) (later : List V3ToolCall) :
    Prop :=
  ∃ next, later.find? (·.actualExecution) = some next ∧ next.repeats call = true ∧
    ∀ d ∈ decisions, ¬ (call.traceSequence < d.traceSequence ∧
      d.traceSequence < next.traceSequence)

/-- Every first attempt that failed in a passing way is retried. -/
def EveryRetried (decisions : List DecisionTraceRecord) (calls : List V3ToolCall) : Prop :=
  ∀ before call later, calls = before ++ call :: later → call.failedOnce = true →
    Retried decisions call later

/-- The first of them is retried. -/
def FirstRetried (decisions : List DecisionTraceRecord) (calls : List V3ToolCall) : Prop :=
  ∀ before call later, calls = before ++ call :: later → call.failedOnce = true →
    (∀ c ∈ before, c.failedOnce = false) → Retried decisions call later

/-- Each failed attempt after the first one is retried, unless the first one is not. -/
def FirstSpeaksForAll (decisions : List DecisionTraceRecord) (calls : List V3ToolCall) : Prop :=
  ∀ before call later, calls = before ++ call :: later → call.failedOnce = true →
    (∃ c ∈ before, c.failedOnce = true) → FirstRetried decisions calls →
    Retried decisions call later

theorem firstRetried_cons {decisions : List DecisionTraceRecord} {call : V3ToolCall}
    {later : List V3ToolCall} (h : call.failedOnce = false) :
    FirstRetried decisions (call :: later) ↔ FirstRetried decisions later := by
  constructor
  · intro hfirst before c rest hsplit hfailed hclear
    refine hfirst (call :: before) c rest (by rw [hsplit, List.cons_append]) hfailed ?_
    intro x hx
    rcases List.mem_cons.mp hx with rfl | hx
    · exact h
    · exact hclear x hx
  · intro hfirst before c rest hsplit hfailed hclear
    rcases before with _ | ⟨b, before⟩
    · obtain ⟨rfl, -⟩ := List.cons.inj hsplit
      rw [h] at hfailed
      cases hfailed
    · obtain ⟨rfl, htail⟩ := List.cons.inj hsplit
      exact hfirst before c rest htail hfailed fun x hx => hclear x (List.mem_cons_of_mem _ hx)

theorem firstRetried_failed {decisions : List DecisionTraceRecord} {call : V3ToolCall}
    {later : List V3ToolCall} (h : call.failedOnce = true) :
    FirstRetried decisions (call :: later) ↔ Retried decisions call later := by
  constructor
  · intro hfirst
    refine hfirst [] call later (List.nil_append _).symm h ?_
    intro c hc
    cases hc
  · intro hretried before c rest hsplit hfailed hclear
    rcases before with _ | ⟨b, before⟩
    · obtain ⟨rfl, rfl⟩ := List.cons.inj hsplit
      exact hretried
    · obtain ⟨rfl, -⟩ := List.cons.inj hsplit
      have hb := hclear call List.mem_cons_self
      rw [h] at hb
      cases hb

/-- The grader passes when the first failed attempt is retried, or there is none. -/
theorem exactRetry_passes (decisions : List DecisionTraceRecord) (calls : List V3ToolCall) :
    passes (exactRetry decisions calls) = true ↔ FirstRetried decisions calls := by
  have hjudge : ∀ passed : Bool, passes (verdict "GR-V3A-06" passed
      (if passed then "adjacent exact retry verified"
        else "retry identity or adjacency changed")) = passed :=
    fun _ => verdict_passes_ite rfl rfl rfl
  induction calls with
  | nil =>
    refine iff_of_true (verdictIf_passes rfl rfl) ?_
    intro before call later hsplit
    simp at hsplit
  | cons call later ih =>
    rw [exactRetry]
    cases hfailed : call.failedOnce with
    | false => rw [firstRetried_cons hfailed]; exact ih
    | true =>
      rw [firstRetried_failed hfailed, Retried]
      cases hnext : later.find? (·.actualExecution) with
      | none =>
        refine iff_of_false ?_ (by simp)
        exact Bool.not_eq_true _ ▸ verdict_passes rfl rfl
      | some next =>
        dsimp only
        rw [if_neg (by simp), hjudge]
        simp [V3ToolCall.repeats, and_assoc]

theorem everyRetried_first {decisions : List DecisionTraceRecord} {calls : List V3ToolCall}
    (h : EveryRetried decisions calls) : FirstRetried decisions calls :=
  fun before call later hsplit hfailed _ => h before call later hsplit hfailed

/-- The first failed attempt tells of all of them exactly when the others are retried as it is. -/
theorem first_tells_iff (decisions : List DecisionTraceRecord) (calls : List V3ToolCall) :
    (FirstRetried decisions calls ↔ EveryRetried decisions calls) ↔
      FirstSpeaksForAll decisions calls := by
  constructor
  · intro h before call later hsplit hfailed _ hfirst
    exact h.mp hfirst before call later hsplit hfailed
  · intro h
    refine ⟨fun hfirst before call later hsplit hfailed => ?_, everyRetried_first⟩
    by_cases hearlier : ∃ c ∈ before, c.failedOnce = true
    · exact h before call later hsplit hfailed hearlier hfirst
    · refine hfirst before call later hsplit hfailed fun c hc => ?_
      exact Bool.eq_false_iff.mpr fun hc' => hearlier ⟨c, hc, hc'⟩

/-! ### The budget of retries -/

/-- The routes that ask for a retry. -/
def retryRoutes (trace : V3TypedTrace) : List RecoveryTraceRecord :=
  trace.recoveries.filter (·.route = .retryExact)

/-- Reads that were executed one after the other, as first and second attempt. -/
def attemptPairs (trace : V3TypedTrace) : List (V3ToolCall × V3ToolCall) :=
  let calls := trace.toolCalls.filter (·.actualExecution)
  (calls.zip calls.tail).filter fun p => p.1.attemptNumber = 1 && p.2.attemptNumber = 2

/-- Both reads of a pair are counted, once each. -/
def Advances (p : V3ToolCall × V3ToolCall) : Prop :=
  p.2.budgetBeforeActualReads = p.1.budgetAfterActualReads ∧
    p.1.budgetAfterActualReads = p.1.budgetBeforeActualReads + 1 ∧
    p.2.budgetAfterActualReads = p.2.budgetBeforeActualReads + 1

instance : DecidablePred Advances := fun p => by unfold Advances; infer_instance

/-- A pair as the grader wants it. -/
def Accounted (p : V3ToolCall × V3ToolCall) : Prop :=
  Advances p ∧ p.2.planningTurn = p.1.planningTurn

/-- Every route that asks for a retry has a pair of its own, counted once a read. -/
def EveryRoutePaired (trace : V3TypedTrace) : Prop :=
  ∃ own : Fin (retryRoutes trace).length → Fin (attemptPairs trace).length, own.Injective ∧
    ∀ i, Advances ((attemptPairs trace).get (own i))

/-- Where a route asks for a retry: when all pairs are accounted for, there are as many as routes
    unless there is none; when one is not, too few of the pairs are counted for the routes. -/
def PairsSpeakForRoutes (trace : V3TypedTrace) : Prop :=
  retryRoutes trace ≠ [] →
    ((∀ p ∈ attemptPairs trace, Accounted p) → attemptPairs trace ≠ [] →
      (retryRoutes trace).length ≤ (attemptPairs trace).length) ∧
    ((∃ p ∈ attemptPairs trace, ¬ Accounted p) →
      (attemptPairs trace).countP Advances < (retryRoutes trace).length)

/-- The grader passes when there is a pair and all pairs are accounted for, or no route asks. -/
theorem gradeRetryBudget_passes (context : V3GradingContext) :
    passes (gradeRetryBudget context) = true ↔ retryRoutes context.trace = [] ∨
      attemptPairs context.trace ≠ [] ∧ ∀ p ∈ attemptPairs context.trace, Accounted p := by
  have hjudge : ∀ passed : Bool, passes (verdict "GR-V3A-07" passed
      (if passed then "retry read budget verified" else "retry budget accounting failed")) =
        passed :=
    fun _ => verdict_passes_ite rfl rfl rfl
  rw [gradeRetryBudget]
  by_cases hroutes : retryRoutes context.trace = []
  · have hall : context.trace.recoveries.all (·.route ≠ .retryExact) = true := by
      simpa [retryRoutes] using hroutes
    rw [if_pos hall]
    exact iff_of_true (verdictIf_passes rfl rfl) (.inl hroutes)
  · have hall : ¬ context.trace.recoveries.all (·.route ≠ .retryExact) = true := by
      simpa [retryRoutes] using hroutes
    rw [if_neg hall, or_iff_right hroutes]
    dsimp only
    rw [hjudge, Bool.and_eq_true, Bool.not_eq_true', List.isEmpty_eq_false_iff,
      List.all_eq_true]
    simp [attemptPairs, Accounted, Advances, and_assoc]

theorem everyRoutePaired_iff (trace : V3TypedTrace) :
    EveryRoutePaired trace ↔
      (retryRoutes trace).length ≤ (attemptPairs trace).countP Advances :=
  Matching.exists_own_iff _ _

/-- The pairs tell of the routes exactly in the cases named. -/
theorem pairs_tell_iff (trace : V3TypedTrace) :
    ((retryRoutes trace = [] ∨ attemptPairs trace ≠ [] ∧ ∀ p ∈ attemptPairs trace, Accounted p) ↔
      EveryRoutePaired trace) ↔ PairsSpeakForRoutes trace := by
  rw [everyRoutePaired_iff, PairsSpeakForRoutes]
  by_cases hroutes : retryRoutes trace = []
  · simp [hroutes]
  · have hsome : 0 < (retryRoutes trace).length := List.length_pos_iff.mpr hroutes
    by_cases hall : ∀ p ∈ attemptPairs trace, Accounted p
    · have hcount : (attemptPairs trace).countP Advances = (attemptPairs trace).length :=
        List.countP_eq_length.mpr fun p hp => decide_eq_true (hall p hp).1
      have hnone : ¬ ∃ p ∈ attemptPairs trace, ¬ Accounted p := by
        rintro ⟨p, hp, hbad⟩
        exact hbad (hall p hp)
      rw [hcount]
      rcases eq_or_ne (attemptPairs trace) [] with hempty | hne
      · have htoo : ¬ (retryRoutes trace).length ≤ (attemptPairs trace).length := by
          rw [hempty, List.length_nil]
          omega
        tauto
      · tauto
    · have hbad : ∃ p ∈ attemptPairs trace, ¬ Accounted p := by
        push Not at hall
        exact hall
      have hpasses : ¬ (retryRoutes trace = [] ∨
          attemptPairs trace ≠ [] ∧ ∀ p ∈ attemptPairs trace, Accounted p) := by
        rintro (h | h)
        · exact hroutes h
        · exact hall h.2
      rw [← not_le, iff_false_left hpasses]
      exact ⟨fun h _ => ⟨fun h' => absurd h' hall, fun _ => h⟩, fun h => (h hroutes).2 hbad⟩

/-! ### Both graders -/

/-- The graders of retries judge every retry exactly when the first failed attempt speaks for all
    of them, and the pairs of attempts for all routes. -/
theorem retries_judged_iff (context : V3GradingContext) :
    ((passes (gradeExactRetry context) = true ↔
        EveryRetried context.trace.decisions context.trace.toolCalls) ∧
      (passes (gradeRetryBudget context) = true ↔ EveryRoutePaired context.trace)) ↔
    FirstSpeaksForAll context.trace.decisions context.trace.toolCalls ∧
      PairsSpeakForRoutes context.trace := by
  rw [gradeExactRetry, exactRetry_passes, gradeRetryBudget_passes, first_tells_iff,
    pairs_tell_iff]

/-! A second failure that is never retried, under a route that asks for it. -/

def twoFailures : V3TypedTrace where
  __ := V3TypedTrace.empty
  toolCalls := [
    sampleCall "get_delivery_proof" 1 1 0 .retryableError,
    sampleCall "get_delivery_proof" 3 2 1 .success,
    sampleCall "get_logistics_timeline" 4 1 2 .retryableError]
  recoveries := [sampleRecovery 2 .retryExact, sampleRecovery 5 .retryExact]

theorem secondFailure_accepted :
    letI := EvalText.plain
    V3TypedTrace.schema.accepts twoFailures = true := by
  decide +kernel

theorem secondFailure_unjudged :
    passes (gradeExactRetry (sampleContext [] twoFailures)) = true ∧
      ¬ EveryRetried twoFailures.decisions twoFailures.toolCalls ∧
      passes (gradeRetryBudget (sampleContext [] twoFailures)) = true ∧
      ¬ EveryRoutePaired twoFailures := by
  refine ⟨by decide +kernel, ?_, by decide +kernel, ?_⟩
  · intro h
    obtain ⟨next, hnext, -⟩ := h (twoFailures.toolCalls.take 2)
      (sampleCall "get_logistics_timeline" 4 1 2 .retryableError) [] rfl rfl
    cases hnext
  · rw [everyRoutePaired_iff]
    decide +kernel

end AfterSales.V3
