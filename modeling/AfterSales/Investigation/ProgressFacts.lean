import AfterSales.Investigation.Progress

/-! What one call can do to evidence progress, and what a history of calls leaves behind.

    A call of a tool touches the requirement of that tool and no other. It never makes a requirement
    missing again, and only a pending retry makes one wait. Clean successes, one a requirement,
    answer exactly the requirements they address and leave no terminal code. -/

namespace AfterSales.EvidenceProgressReducer

variable {caseId runId : String} {issueType : IssueType} {refs : List EvidenceRef}
  {pending : Option RetryDirective} {p : Pass} {call : HistoryCall} {tool : ReadTool}
  {code : EvidenceRequirementCode}

/-- A row of the run itself, for a tool of the registry. -/
def InScope (call : HistoryCall) (tool : ReadTool) : Prop :=
  call.caseId = none ∧ call.runId = none ∧ call.toolName = .ok tool

/-- What a step may leave as the status of the requirement it addresses. -/
def Moved (pending : Option RetryDirective) (status : EvidenceProgressStatus) : Prop :=
  status ≠ .missing ∧ (status = .retryPending → pending.isSome)

@[simp] theorem Pass.setState_self (r : RequirementProgress) :
    (p.setState code r).states code = r := by
  simp [Pass.setState]

theorem Pass.setState_other {other : EvidenceRequirementCode} (h : other ≠ code)
    (r : RequirementProgress) : (p.setState code r).states other = p.states other := by
  simp [Pass.setState, h]

@[simp] theorem Pass.conflict_status (text : String) :
    ((p.conflict code text).states code).status = .conflict := by
  simp [Pass.conflict, Pass.addTerminal, Pass.setState]

theorem Pass.conflict_other {other : EvidenceRequirementCode} (h : other ≠ code) (text : String) :
    (p.conflict code text).states other = p.states other := by
  simp [Pass.conflict, Pass.addTerminal, Pass.setState, h]

/-- A pass that differs from `p` at `code` only, where it has moved. -/
def MovedAt (pending : Option RetryDirective) (code : EvidenceRequirementCode) (p q : Pass) : Prop :=
  Moved pending (q.states code).status ∧ ∀ other, other ≠ code → q.states other = p.states other

theorem movedAt_conflict (text : String) : MovedAt pending code p (p.conflict code text) := by
  refine ⟨?_, fun other h => Pass.conflict_other h text⟩
  rw [Pass.conflict_status]
  exact ⟨by decide, by simp⟩

theorem movedAt_setState {r : RequirementProgress} (h : Moved pending r.status) :
    MovedAt pending code p (p.setState code r) :=
  ⟨by rwa [Pass.setState_self], fun _ h => Pass.setState_other h r⟩

theorem reduceSuccess_moved {status : EvidenceProgressStatus} (hs : Moved pending status) :
    MovedAt pending code p (reduceSuccess refs p call code status) := by
  unfold reduceSuccess
  simp only
  split
  · exact movedAt_conflict _
  split
  · exact movedAt_conflict _
  split
  · exact movedAt_conflict _
  split
  · exact movedAt_conflict _
  · exact movedAt_setState hs

theorem reduceOutcome_moved : MovedAt pending code p (reduceOutcome refs pending p call code) := by
  have hfailed : ∀ c : Prop, [Decidable c] → (c → pending.isSome) → MovedAt pending code p
      (p.setState code (merge (p.states code)
        (if c then .retryPending else .unavailableFinal) call [])) := by
    intro c _ hc
    refine movedAt_setState ?_
    by_cases h : c
    · rw [if_pos h]; exact ⟨by simp [merge], fun _ => hc h⟩
    · rw [if_neg h]; exact ⟨by simp [merge], by simp [merge]⟩
  have hpending : ((∃ d ∈ pending, d.retryOfToolCallId = call.toolCallId)
      ∧ call.attemptNumber = 1) → pending.isSome := by
    rintro ⟨⟨d, hd, -⟩, -⟩
    exact Option.isSome_iff_exists.mpr ⟨d, hd⟩
  unfold reduceOutcome
  split
  · exact reduceSuccess_moved ⟨by decide, by simp⟩
  · exact reduceSuccess_moved ⟨by decide, by simp⟩
  · exact hfailed _ hpending
  · exact hfailed _ hpending
  · exact movedAt_conflict _

/-- The retry lock looks at the requirements and changes none. -/
theorem checkRetryLock_states {q : Pass} (h : checkRetryLock pending p call tool = some q) :
    q.states = p.states := by
  unfold checkRetryLock at h
  split at h
  · cases h; rfl
  · split_ifs at h <;> cases h <;> rfl

/-- One call of a relevant tool moves its requirement and leaves the others. -/
theorem step_moved (hscope : InScope call tool)
    (hrel : requirementRegistry issueType tool.requirement ≠ .notRequired) :
    MovedAt pending tool.requirement p (step caseId runId issueType refs pending p call) := by
  obtain ⟨hcase, hrun, htool⟩ := hscope
  unfold step
  rw [if_neg (by simp [hcase, hrun]), htool]
  simp only [if_neg hrel]
  set q : Pass := if call.actualExecution then { p with lastActual := some call.toolCallId } else p
    with hq
  have hstates : q.states = p.states := by
    rw [hq]; split_ifs <;> rfl
  have lift : ∀ {q' r : Pass}, q'.states = p.states → MovedAt pending tool.requirement q' r →
      MovedAt pending tool.requirement p r := fun hs h =>
    ⟨h.1, fun other ho => by rw [h.2 other ho, hs]⟩
  cases hlock : checkRetryLock pending q call tool with
  | none => exact lift (by exact hstates) (movedAt_conflict _)
  | some r => exact lift ((checkRetryLock_states hlock).trans hstates) reduceOutcome_moved

/-- A call of a tool the issue does not need changes no requirement. -/
theorem step_irrelevant (hscope : InScope call tool)
    (hrel : requirementRegistry issueType tool.requirement = .notRequired) :
    (step caseId runId issueType refs pending p call).states = p.states := by
  obtain ⟨hcase, hrun, htool⟩ := hscope
  unfold step
  rw [if_neg (by simp [hcase, hrun]), htool]
  simp only [if_pos hrel, Pass.addTerminal]
  split_ifs <;> rfl

/-- The requirement of a relevant tool is missing only while no call has named the tool. -/
theorem foldl_missing {calls : List HistoryCall} (hcalls : ∀ c ∈ calls, ∃ t, InScope c t)
    (hrel : requirementRegistry issueType tool.requirement ≠ .notRequired) :
    ∀ p : Pass, ((calls.foldl (step caseId runId issueType refs pending) p).states
        tool.requirement).status = .missing →
      (p.states tool.requirement).status = .missing ∧ ∀ c ∈ calls, c.toolName ≠ .ok tool := by
  induction calls with
  | nil => exact fun p h => ⟨h, by simp⟩
  | cons c rest ih =>
    intro p h
    rw [List.foldl_cons] at h
    obtain ⟨hmissing, hrest⟩ := ih (fun x hx => hcalls x (List.mem_cons_of_mem _ hx)) _ h
    obtain ⟨t, ht⟩ := hcalls c List.mem_cons_self
    by_cases hother : t = tool
    · subst hother
      exact absurd hmissing (step_moved ht hrel).1.1
    · have hreq : tool.requirement ≠ t.requirement :=
        fun e => hother (ReadTool.requirement_injective e).symm
      have hkept : (step caseId runId issueType refs pending p c).states tool.requirement
          = p.states tool.requirement := by
        by_cases hrel' : requirementRegistry issueType t.requirement = .notRequired
        · rw [step_irrelevant ht hrel']
        · exact (step_moved ht hrel').2 _ hreq
      refine ⟨hkept ▸ hmissing, ?_⟩
      rintro x hx
      rcases List.mem_cons.mp hx with rfl | hx
      · rw [ht.2.2]; exact fun e => hother (by simpa using e)
      · exact hrest x hx

/-- Without a pending retry no requirement waits for one. -/
theorem foldl_not_waiting {calls : List HistoryCall} (hcalls : ∀ c ∈ calls, ∃ t, InScope c t) :
    ∀ p : Pass, (p.states code).status ≠ .retryPending →
      ((calls.foldl (step caseId runId issueType refs none) p).states code).status
        ≠ .retryPending := by
  induction calls with
  | nil => exact fun p h => h
  | cons c rest ih =>
    intro p h
    rw [List.foldl_cons]
    refine ih (fun x hx => hcalls x (List.mem_cons_of_mem _ hx)) _ ?_
    obtain ⟨t, ht⟩ := hcalls c List.mem_cons_self
    by_cases hrel : requirementRegistry issueType t.requirement = .notRequired
    · rw [step_irrelevant ht hrel]; exact h
    · by_cases hother : code = t.requirement
      · subst hother
        intro e
        simpa using (step_moved ht hrel).1.2 e
      · rw [(step_moved ht hrel).2 _ hother]; exact h

/-- A snapshot is evaluable when every required code is answered and none is in conflict. -/
theorem build_evaluable {revision : Nat} {reqs : EvidenceRequirementCode → RequirementProgress}
    {terminal : List String} {last : Option ToolCallId} :
    (build caseId runId issueType revision reqs terminal last).gateReadiness = .evaluable ↔
      (∀ c ∈ requiredByIssue issueType, (reqs c).status.satisfied) ∧
        ∀ c, (reqs c).status ≠ .conflict := by
  have hmissing : ((requiredByIssue issueType).filter fun c => !(reqs c).status.satisfied) = [] ↔
      ∀ c ∈ requiredByIssue issueType, (reqs c).status.satisfied := by
    simp [List.filter_eq_nil_iff]
  have hconflict : ¬ decide (∃ c, (reqs c).status = .conflict) = true ↔
      ∀ c, (reqs c).status ≠ .conflict := by
    simp
  rw [← hmissing, ← hconflict]
  simp only [build]
  split_ifs with h
  · exact iff_of_true rfl h
  · exact iff_of_false (by decide) h

/-! ### Clean histories -/

/-- A success whose envelope, hash and references agree. -/
structure Clean (refs : List EvidenceRef) (call : HistoryCall) (tool : ReadTool) : Prop where
  scope : InScope call tool
  success : call.executionStatus = some .success
  availability : call.evidenceAvailability = some .present ∨ call.evidenceAvailability = some .absent
  hash : call.resultHash.isSome ∧ call.envelopeHash = call.resultHash
  referenced : evidenceRefsFor refs call ≠ []

/-- A pass that answers exactly the requirements of `tools`, without a terminal code. -/
structure Answers (issueType : IssueType) (tools : List ReadTool) (p : Pass) : Prop where
  noTerminal : p.terminal = []
  answered : ∀ t ∈ tools, (p.states t.requirement).status.satisfied
  open_ : ∀ t, t ∉ tools → p.states t.requirement = emptyRequirement issueType t.requirement

theorem Answers.start : Answers issueType [] (Pass.start issueType) :=
  ⟨rfl, by simp, fun _ _ => rfl⟩

/-- A clean success of an open requirement answers it. -/
theorem reduceOutcome_clean {q : Pass} (h : Clean refs call tool)
    (hopen : (q.states tool.requirement).status = .missing) :
    ∃ r : RequirementProgress, r.status.satisfied ∧
      reduceOutcome refs none q call tool.requirement = q.setState tool.requirement r := by
  have hash : ¬ (call.envelopeHash = none ∨ call.envelopeHash ≠ call.resultHash) := by
    obtain ⟨hsome, heq⟩ := h.hash
    rw [heq]
    simpa using Option.isSome_iff_ne_none.mp hsome
  have unsatisfied : ∀ c : Prop, ¬ ((q.states tool.requirement).status.satisfied ∧ c) := by
    rw [hopen]; simp [EvidenceProgressStatus.satisfied]
  rcases h.availability with havail | havail
  · refine ⟨merge (q.states tool.requirement) .satisfiedPresent call
      ((evidenceRefsFor refs call).map evidenceRefId), rfl, ?_⟩
    simp only [reduceOutcome, h.success, havail, reduceSuccess]
    rw [if_neg hash, if_neg h.referenced, if_neg (unsatisfied _), if_neg (unsatisfied _)]
  · refine ⟨merge (q.states tool.requirement) .satisfiedAbsent call
      ((evidenceRefsFor refs call).map evidenceRefId), rfl, ?_⟩
    simp only [reduceOutcome, h.success, havail, reduceSuccess]
    rw [if_neg hash, if_neg h.referenced, if_neg (unsatisfied _), if_neg (unsatisfied _)]

/-- A clean success of a relevant tool that was still open extends the answered tools. -/
theorem Answers.step {tools : List ReadTool} (ha : Answers issueType tools p)
    (hclean : Clean refs call tool) (hnew : tool ∉ tools)
    (hrel : requirementRegistry issueType tool.requirement ≠ .notRequired) :
    Answers issueType (tools ++ [tool]) (step caseId runId issueType refs none p call) := by
  obtain ⟨hcase, hrun, htool⟩ := hclean.scope
  set q : Pass := if call.actualExecution then { p with lastActual := some call.toolCallId } else p
    with hq
  have hstates : q.states = p.states := by
    rw [hq]; split_ifs <;> rfl
  have hterminal : q.terminal = [] := by
    rw [← ha.noTerminal, hq]; split_ifs <;> rfl
  have hopen : (q.states tool.requirement).status = .missing := by
    rw [hstates, ha.open_ tool hnew]; rfl
  obtain ⟨r, hr, hout⟩ := reduceOutcome_clean hclean hopen
  have hstep : EvidenceProgressReducer.step caseId runId issueType refs none p call
      = q.setState tool.requirement r := by
    unfold EvidenceProgressReducer.step
    rw [if_neg (by simp [hcase, hrun]), htool]
    simp only [if_neg hrel, checkRetryLock]
    exact hout
  rw [hstep]
  refine ⟨hterminal, fun t ht => ?_, fun t ht => ?_⟩
  · by_cases e : t = tool
    · rw [e, Pass.setState_self]; exact hr
    · rw [Pass.setState_other fun h => e (ReadTool.requirement_injective h), hstates]
      exact ha.answered t ((List.mem_append.mp ht).resolve_right (by simpa using e))
  · have hne : t ≠ tool := fun e => ht (by simp [e])
    rw [Pass.setState_other fun h => hne (ReadTool.requirement_injective h), hstates]
    exact ha.open_ t fun h => ht (List.mem_append_left _ h)

/-- A clean history answers the requirements of its tools, in whatever order they were read. -/
theorem Answers.foldl {calls : List HistoryCall} {tools done : List ReadTool}
    (hclean : List.Forall₂ (Clean refs) calls tools) (hnodup : (done ++ tools).Nodup)
    (hrel : ∀ t ∈ tools, requirementRegistry issueType t.requirement ≠ .notRequired) :
    ∀ p : Pass, Answers issueType done p → Answers issueType (done ++ tools)
      (calls.foldl (EvidenceProgressReducer.step caseId runId issueType refs none) p) := by
  induction hclean generalizing done with
  | nil => exact fun p h => by simpa using h
  | @cons c t calls tools hc _ ih =>
    intro p hp
    have hnew : t ∉ done := fun hmem =>
      (List.nodup_append.mp hnodup).2.2 t hmem t List.mem_cons_self rfl
    have hassoc : done ++ t :: tools = (done ++ [t]) ++ tools := by simp
    rw [List.foldl_cons, hassoc]
    rw [hassoc] at hnodup
    exact ih hnodup (fun x hx => hrel x (List.mem_cons_of_mem _ hx)) _
      (hp.step hc hnew (hrel t List.mem_cons_self))

end AfterSales.EvidenceProgressReducer
