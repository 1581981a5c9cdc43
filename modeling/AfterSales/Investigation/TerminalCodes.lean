import AfterSales.Investigation.ProgressFacts

/-! Where the terminal codes of evidence progress come from.

    A pass over a history only adds terminal codes, and no requirement is in conflict without one.
    A call is quiet when it adds none: it is well formed, its tool is relevant, and its requirement
    was not answered before. A pending retry changes nothing before the call it repeats, and there
    it only marks the requirement as waiting:

        rows      r₀  …  rₙ₋₁   rₙ
        none      the same      unavailable_final
        some d    the same      retry_pending        (d repeats rₙ)  -/

namespace AfterSales.EvidenceProgressReducer

variable {caseId runId : String} {issueType : IssueType} {refs more : List EvidenceRef}
  {pending : Option RetryDirective} {p q : Pass} {call : HistoryCall} {tool : ReadTool}
  {code : EvidenceRequirementCode} {d : RetryDirective} {calls : List HistoryCall}

/-- The pass over a history. -/
def passOver (caseId runId : String) (issueType : IssueType) (refs : List EvidenceRef)
    (pending : Option RetryDirective) (calls : List HistoryCall) : Pass :=
  calls.foldl (step caseId runId issueType refs pending) (Pass.start issueType)

theorem passOver_concat (calls : List HistoryCall) (call : HistoryCall) :
    passOver caseId runId issueType refs pending (calls ++ [call]) =
      step caseId runId issueType refs pending
        (passOver caseId runId issueType refs pending calls) call := by
  rw [passOver, List.foldl_append, List.foldl_cons, List.foldl_nil, passOver]

/-! ### Codes are only added -/

/-- `q` adds terminal codes to those of `p`, at least one when a requirement comes into conflict. -/
def Adds (p q : Pass) : Prop :=
  ∃ codes, q.terminal = p.terminal ++ codes ∧
    (codes = [] → ∀ code, (q.states code).status = .conflict → (p.states code).status = .conflict)

theorem Adds.of_code {text : String} (h : q.terminal = p.terminal ++ [text]) : Adds p q :=
  ⟨[text], h, fun e => by cases e⟩

theorem Adds.conflict (text : String) : Adds p (p.conflict code text) := .of_code rfl

theorem Adds.setState {r : RequirementProgress} (h : r.status ≠ .conflict) :
    Adds p (p.setState code r) := by
  refine ⟨[], (List.append_nil _).symm, fun _ other hother => ?_⟩
  by_cases e : other = code
  · subst e
    rw [Pass.setState_self] at hother
    exact absurd hother h
  · rwa [Pass.setState_other e] at hother

/-- What adds to a pass adds to any other with the same codes and requirements. -/
theorem Adds.congr {p' : Pass} (h : Adds p q) (hstates : p.states = p'.states)
    (hterminal : p.terminal = p'.terminal) : Adds p' q := by
  obtain ⟨codes, hcodes, hconflict⟩ := h
  exact ⟨codes, hterminal ▸ hcodes, fun e other hother => hstates ▸ hconflict e other hother⟩

theorem reduceSuccess_adds {status : EvidenceProgressStatus} (hs : status ≠ .conflict) :
    Adds p (reduceSuccess refs p call code status) := by
  unfold reduceSuccess
  simp only
  split
  · exact .conflict _
  split
  · exact .conflict _
  split
  · exact .conflict _
  split
  · exact .conflict _
  · exact .setState hs

theorem reduceOutcome_adds : Adds p (reduceOutcome refs pending p call code) := by
  have hfailed : ∀ c : Prop, [Decidable c] → Adds p (p.setState code (merge (p.states code)
      (if c then .retryPending else .unavailableFinal) call [])) := by
    intro c _
    refine .setState ?_
    by_cases h : c
    · rw [if_pos h]; simp [merge]
    · rw [if_neg h]; simp [merge]
  unfold reduceOutcome
  split
  · exact reduceSuccess_adds (by decide)
  · exact reduceSuccess_adds (by decide)
  · exact hfailed _
  · exact hfailed _
  · exact .conflict _

/-- The retry lock looks at the terminal codes and changes none. -/
theorem checkRetryLock_terminal (h : checkRetryLock pending p call tool = some q) :
    q.terminal = p.terminal := by
  unfold checkRetryLock at h
  split at h
  · cases h; rfl
  · split_ifs at h <;> cases h <;> rfl

/-- The pass that has noted an execution. -/
def Pass.executed (p : Pass) (call : HistoryCall) : Pass :=
  if call.actualExecution then { p with lastActual := some call.toolCallId } else p

@[simp] theorem Pass.executed_states (p : Pass) (call : HistoryCall) :
    (p.executed call).states = p.states := by
  unfold Pass.executed; split_ifs <;> rfl

@[simp] theorem Pass.executed_terminal (p : Pass) (call : HistoryCall) :
    (p.executed call).terminal = p.terminal := by
  unfold Pass.executed; split_ifs <;> rfl

@[simp] theorem Pass.executed_retryOriginSeen (p : Pass) (call : HistoryCall) :
    (p.executed call).retryOriginSeen = p.retryOriginSeen := by
  unfold Pass.executed; split_ifs <;> rfl

/-- A step of a tool that the issue does not need. -/
theorem step_of_irrelevant (hscope : InScope call tool)
    (hrel : requirementRegistry issueType tool.requirement = .notRequired) :
    step caseId runId issueType refs pending p call =
      (p.executed call).addTerminal ("IRRELEVANT_TOOL:" ++ tool.name) := by
  obtain ⟨hcase, hrun, htool⟩ := hscope
  unfold step Pass.executed
  rw [if_neg (by simp [hcase, hrun]), htool]
  simp only [if_pos hrel]

/-- A step of a relevant tool that passes the retry lock. -/
theorem step_of_lock (hscope : InScope call tool)
    (hrel : requirementRegistry issueType tool.requirement ≠ .notRequired)
    (hlock : checkRetryLock pending (p.executed call) call tool = some q) :
    step caseId runId issueType refs pending p call =
      reduceOutcome refs pending q call tool.requirement := by
  obtain ⟨hcase, hrun, htool⟩ := hscope
  unfold Pass.executed at hlock
  unfold step
  rw [if_neg (by simp [hcase, hrun]), htool]
  simp only [if_neg hrel, hlock]

/-- Without a pending retry there is no lock. -/
theorem step_of_none (hscope : InScope call tool)
    (hrel : requirementRegistry issueType tool.requirement ≠ .notRequired) :
    step caseId runId issueType refs none p call =
      reduceOutcome refs none (p.executed call) call tool.requirement :=
  step_of_lock hscope hrel rfl

theorem step_adds (hscope : InScope call tool) :
    Adds p (step caseId runId issueType refs pending p call) := by
  by_cases hrel : requirementRegistry issueType tool.requirement = .notRequired
  · rw [step_of_irrelevant hscope hrel]
    exact .of_code (congrArg (· ++ _) (Pass.executed_terminal p call))
  cases hlock : checkRetryLock pending (p.executed call) call tool with
  | some q =>
    rw [step_of_lock hscope hrel hlock]
    refine reduceOutcome_adds.congr ?_ ?_
    · rw [checkRetryLock_states hlock, Pass.executed_states]
    · rw [checkRetryLock_terminal hlock, Pass.executed_terminal]
  | none =>
    obtain ⟨hcase, hrun, htool⟩ := hscope
    unfold Pass.executed at hlock
    refine ⟨["RETRY_IDENTITY_CONFLICT"], ?_, fun e => by cases e⟩
    unfold step
    rw [if_neg (by simp [hcase, hrun]), htool]
    simp only [if_neg hrel, hlock, Pass.conflict, Pass.addTerminal, Pass.setState]
    split_ifs <;> rfl

/-- Every conflict of a pass has left a terminal code. -/
theorem passOver_conflict (hcalls : ∀ c ∈ calls, ∃ t, InScope c t)
    (h : ((passOver caseId runId issueType refs pending calls).states code).status = .conflict) :
    (passOver caseId runId issueType refs pending calls).terminal ≠ [] := by
  induction calls using List.reverseRecOn generalizing code with
  | nil => cases h
  | append_singleton calls call ih =>
    rw [passOver_concat] at h ⊢
    obtain ⟨t, ht⟩ := hcalls call (by simp)
    obtain ⟨codes, hcodes, hconflict⟩ : Adds (passOver caseId runId issueType refs pending calls)
      (step caseId runId issueType refs pending
        (passOver caseId runId issueType refs pending calls) call) := step_adds ht
    rw [hcodes]
    intro hnil
    obtain ⟨hbefore, hnone⟩ := List.append_eq_nil_iff.mp hnil
    exact ih (fun c hc => hcalls c (List.mem_append_left _ hc)) (hconflict hnone code h) hbefore

/-! ### Quiet calls -/

/-- A call whose result is well formed: a success with its references, or a failure. -/
inductive WellFormed (refs : List EvidenceRef) (call : HistoryCall) (tool : ReadTool) : Prop
  | success (clean : Clean refs call tool)
  | failure (scope : InScope call tool) (status : call.executionStatus = some .retryableError ∨
        call.executionStatus = some .nonRetryableError)
      (availability : call.evidenceAvailability = some .unavailable)

theorem WellFormed.scope (h : WellFormed refs call tool) : InScope call tool := by
  cases h with
  | success hclean => exact hclean.scope
  | failure hscope _ _ => exact hscope

theorem reduceSuccess_quiet {status : EvidenceProgressStatus}
    (hhash : call.resultHash.isSome ∧ call.envelopeHash = call.resultHash)
    (hrefs : evidenceRefsFor refs call ≠ []) (hopen : (p.states code).status.satisfied = false) :
    (reduceSuccess refs p call code status).terminal = p.terminal := by
  have hsame : ¬ (call.envelopeHash = none ∨ call.envelopeHash ≠ call.resultHash) := by
    obtain ⟨hsome, heq⟩ := hhash
    rw [heq]
    simpa using Option.isSome_iff_ne_none.mp hsome
  have hunanswered : ∀ c : Prop, ¬ ((p.states code).status.satisfied ∧ c) := by simp [hopen]
  simp only [reduceSuccess]
  rw [if_neg hsame, if_neg hrefs, if_neg (hunanswered _), if_neg (hunanswered _)]
  rfl

theorem reduceOutcome_quiet (hcall : WellFormed refs call tool)
    (hopen : (p.states code).status.satisfied = false) :
    (reduceOutcome refs pending p call code).terminal = p.terminal := by
  cases hcall with
  | success hclean =>
    rcases hclean.availability with havail | havail
    · simp only [reduceOutcome, hclean.success, havail]
      exact reduceSuccess_quiet hclean.hash hclean.referenced hopen
    · simp only [reduceOutcome, hclean.success, havail]
      exact reduceSuccess_quiet hclean.hash hclean.referenced hopen
  | failure _ hstatus havail =>
    rcases hstatus with hstatus | hstatus
    · simp only [reduceOutcome, hstatus, havail]
      rfl
    · simp only [reduceOutcome, hstatus, havail]
      rfl

/-- A failed call adds no code whatever was answered before. -/
theorem reduceOutcome_failed (hstatus : call.executionStatus = some .retryableError)
    (havail : call.evidenceAvailability = some .unavailable) :
    (reduceOutcome refs pending p call code).terminal = p.terminal ∧
      ((reduceOutcome refs pending p call code).states code).status.satisfied = false := by
  simp only [reduceOutcome, hstatus, havail, Pass.setState_self, merge]
  refine ⟨rfl, ?_⟩
  split_ifs <;> rfl

/-- A well-formed call of a relevant tool is quiet while its requirement is not answered. -/
theorem step_quiet (hcall : WellFormed refs call tool)
    (hrel : requirementRegistry issueType tool.requirement ≠ .notRequired)
    (hopen : (p.states tool.requirement).status.satisfied = false) :
    (step caseId runId issueType refs none p call).terminal = p.terminal := by
  rw [step_of_none hcall.scope hrel, reduceOutcome_quiet hcall (by rwa [Pass.executed_states]),
    Pass.executed_terminal]

/-- The requirement of a tool that no call names is still missing. -/
theorem passOver_unread (hcalls : ∀ c ∈ calls, ∃ t, InScope c t ∧ t ≠ tool) :
    ((passOver caseId runId issueType refs pending calls).states tool.requirement).status
      = .missing := by
  induction calls using List.reverseRecOn with
  | nil => rfl
  | append_singleton calls call ih =>
    obtain ⟨t, ht, hne⟩ := hcalls call (by simp)
    rw [passOver_concat, ← ih fun c hc => hcalls c (List.mem_append_left _ hc)]
    by_cases hrel : requirementRegistry issueType t.requirement = .notRequired
    · rw [step_irrelevant ht hrel]
    · have hother : tool.requirement ≠ t.requirement :=
        fun e => hne (ReadTool.requirement_injective e).symm
      rw [(step_moved ht hrel).2 _ hother]

/-! ### References of later calls -/

theorem evidenceRefsFor_append (h : ∀ ref ∈ more, ref.toolCallId ≠ call.toolCallId) :
    evidenceRefsFor (refs ++ more) call = evidenceRefsFor refs call := by
  have hmore : evidenceRefsFor more call = [] := by
    refine List.filter_eq_nil_iff.mpr fun ref href hmatch => ?_
    exact h ref href (of_decide_eq_true hmatch).1
  unfold evidenceRefsFor at hmore ⊢
  rw [List.filter_append, hmore, List.append_nil]

/-- The references of other calls do not count. -/
theorem step_refs (h : ∀ ref ∈ more, ref.toolCallId ≠ call.toolCallId) :
    step caseId runId issueType (refs ++ more) pending p call =
      step caseId runId issueType refs pending p call := by
  simp only [step, reduceOutcome, reduceSuccess, evidenceRefsFor_append h]

theorem passOver_refs (h : ∀ c ∈ calls, ∀ ref ∈ more, ref.toolCallId ≠ c.toolCallId) :
    passOver caseId runId issueType (refs ++ more) pending calls =
      passOver caseId runId issueType refs pending calls := by
  induction calls using List.reverseRecOn with
  | nil => rfl
  | append_singleton calls call ih =>
    rw [passOver_concat, passOver_concat, step_refs (h call (by simp)),
      ih fun c hc => h c (List.mem_append_left _ hc)]

/-! ### A pending retry -/

/-- Before the origin of a retry the lock is open, and nothing waits. -/
theorem step_before (hscope : InScope call tool) (hseen : p.retryOriginSeen = false)
    (hother : d.retryOfToolCallId ≠ call.toolCallId) :
    step caseId runId issueType refs (some d) p call =
      step caseId runId issueType refs none p call := by
  by_cases hrel : requirementRegistry issueType tool.requirement = .notRequired
  · rw [step_of_irrelevant hscope hrel, step_of_irrelevant hscope hrel]
  · have hlock : checkRetryLock (some d) (p.executed call) call tool = some (p.executed call) := by
      simp [checkRetryLock, hother, hseen]
    have houtcome : reduceOutcome refs (some d) (p.executed call) call tool.requirement =
        reduceOutcome refs none (p.executed call) call tool.requirement := by
      simp [reduceOutcome, hother]
    rw [step_of_lock hscope hrel hlock, step_of_none hscope hrel, houtcome]

/-- Without a pending retry no origin is seen. -/
theorem reduceOutcome_seen :
    (reduceOutcome refs pending p call code).retryOriginSeen = p.retryOriginSeen := by
  unfold reduceOutcome
  split
  · simp only [reduceSuccess]; split_ifs <;> rfl
  · simp only [reduceSuccess]; split_ifs <;> rfl
  · rfl
  · rfl
  · rfl

theorem step_seen (hscope : InScope call tool) :
    (step caseId runId issueType refs none p call).retryOriginSeen = p.retryOriginSeen := by
  by_cases hrel : requirementRegistry issueType tool.requirement = .notRequired
  · rw [step_of_irrelevant hscope hrel]
    exact Pass.executed_retryOriginSeen p call
  · rw [step_of_none hscope hrel, reduceOutcome_seen, Pass.executed_retryOriginSeen]

/-- A pending retry changes nothing before the call it repeats. -/
theorem passOver_before (hcalls : ∀ c ∈ calls, ∃ t, InScope c t)
    (hother : ∀ c ∈ calls, d.retryOfToolCallId ≠ c.toolCallId) :
    passOver caseId runId issueType refs (some d) calls =
        passOver caseId runId issueType refs none calls ∧
      (passOver caseId runId issueType refs none calls).retryOriginSeen = false := by
  induction calls using List.reverseRecOn with
  | nil => exact ⟨rfl, rfl⟩
  | append_singleton calls call ih =>
    obtain ⟨hsame, hseen⟩ := ih (fun c hc => hcalls c (List.mem_append_left _ hc))
      fun c hc => hother c (List.mem_append_left _ hc)
    obtain ⟨t, ht⟩ := hcalls call (by simp)
    rw [passOver_concat, passOver_concat, hsame]
    exact ⟨step_before ht hseen (hother call (by simp)), (step_seen ht).trans hseen⟩

/-- The call that a retry repeats: the first attempt of its query, executed and failed. -/
structure Origin (d : RetryDirective) (call : HistoryCall) (tool : ReadTool) : Prop where
  scope : InScope call tool
  names : d.retryOfToolCallId = call.toolCallId
  executed : call.actualExecution = true
  first : call.attemptNumber = 1
  identity : sameIdentity d call tool = true
  failed : call.executionStatus = some .retryableError
  unavailable : call.evidenceAvailability = some .unavailable

/-- At its origin a retry adds no code, and the origin is seen unless its tool is irrelevant. -/
theorem step_origin (h : Origin d call tool) :
    (step caseId runId issueType refs (some d) p call).terminal =
        (step caseId runId issueType refs none p call).terminal ∧
      ((step caseId runId issueType refs (some d) p call).retryOriginSeen = true ∨
        (step caseId runId issueType refs none p call).terminal ≠ []) := by
  by_cases hrel : requirementRegistry issueType tool.requirement = .notRequired
  · rw [step_of_irrelevant h.scope hrel, step_of_irrelevant h.scope hrel]
    exact ⟨rfl, Or.inr (by simp [Pass.addTerminal])⟩
  · have hlock : checkRetryLock (some d) (p.executed call) call tool =
        some { p.executed call with retryOriginSeen := true } := by
      simp [checkRetryLock, h.names, h.executed, h.first, h.identity]
    rw [step_of_lock h.scope hrel hlock, step_of_none h.scope hrel,
      (reduceOutcome_failed h.failed h.unavailable).1,
      (reduceOutcome_failed h.failed h.unavailable).1, reduceOutcome_seen]
    exact ⟨rfl, Or.inl rfl⟩

/-! ### Snapshots -/

theorem eraseDups_eq_nil {codes : List String} : codes.eraseDups = [] ↔ codes = [] := by
  cases codes with
  | nil => exact iff_of_true rfl rfl
  | cons code codes => simp [List.eraseDups_cons]

/-- A snapshot without a pending retry has the codes of its pass. -/
theorem rebuild_clean_iff :
    (rebuild caseId runId issueType calls refs none).terminalTriggerCodes = [] ↔
      (passOver caseId runId issueType refs none calls).terminal = [] := by
  simp only [rebuild, build, eraseDups_eq_nil, Option.isSome_none, Bool.false_eq_true, false_and,
    if_false, passOver]

/-- A snapshot with a retry pending has the codes of its pass, and one more if its origin is not
    there. -/
theorem rebuild_clean_retry_iff :
    (rebuild caseId runId issueType calls refs (some d)).terminalTriggerCodes = [] ↔
      (passOver caseId runId issueType refs (some d) calls).terminal = [] ∧
        (passOver caseId runId issueType refs (some d) calls).retryOriginSeen = true := by
  simp only [rebuild, build, eraseDups_eq_nil, Option.isSome_some, true_and]
  split_ifs with hseen
  · exact ⟨fun h => ⟨h, hseen⟩, And.left⟩
  · exact iff_of_false (by simp) fun h => hseen h.2

/-- A snapshot with a retry pending for its last call has a terminal code if and only if the one
    without has. -/
theorem rebuild_pending_iff (hcalls : ∀ c ∈ calls, ∃ t, InScope c t)
    (hother : ∀ c ∈ calls, d.retryOfToolCallId ≠ c.toolCallId) (h : Origin d call tool) :
    (rebuild caseId runId issueType (calls ++ [call]) refs (some d)).terminalTriggerCodes = [] ↔
      (rebuild caseId runId issueType (calls ++ [call]) refs none).terminalTriggerCodes = [] := by
  have hsame : passOver caseId runId issueType refs (some d) calls =
      passOver caseId runId issueType refs none calls := (passOver_before hcalls hother).1
  set before := passOver caseId runId issueType refs none calls with hbefore
  have hterminal : (step caseId runId issueType refs (some d) before call).terminal =
      (step caseId runId issueType refs none before call).terminal := (step_origin h).1
  have hseen : (step caseId runId issueType refs (some d) before call).retryOriginSeen = true ∨
      (step caseId runId issueType refs none before call).terminal ≠ [] := (step_origin h).2
  rw [rebuild_clean_iff, rebuild_clean_retry_iff, passOver_concat, passOver_concat, hsame,
    ← hbefore, hterminal]
  exact ⟨And.left, fun hclean => ⟨hclean, hseen.resolve_right (not_not.mpr hclean)⟩⟩

/-- A conflict in a snapshot has left a terminal code. -/
theorem rebuild_conflict (hcalls : ∀ c ∈ calls, ∃ t, InScope c t)
    (h : ((rebuild caseId runId issueType calls refs pending).requirements code).status
      = .conflict) :
    (rebuild caseId runId issueType calls refs pending).terminalTriggerCodes ≠ [] := by
  have hpass : (passOver caseId runId issueType refs pending calls).terminal ≠ [] :=
    passOver_conflict hcalls h
  simp only [rebuild, build, ne_eq, eraseDups_eq_nil]
  split_ifs
  · simp
  · exact hpass

end AfterSales.EvidenceProgressReducer
