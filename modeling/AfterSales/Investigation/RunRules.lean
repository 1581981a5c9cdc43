import AfterSales.Investigation.ProgressFacts
import AfterSales.Investigation.Service

/-! What one step of the investigation graph can do, and the rule for whole runs.

    A model turn leaves all evidence alone and names at most one read: the exact retry of a failed
    one, or a selected one whose requirement is still open. A tool turn appends the record of that
    read and rebuilds the progress. Every invariant of a run is derived from these two facts. -/

namespace AfterSales

variable [PolicyDigest]

/-- What a model turn leaves alone. A retry lock is only ever given up for good. -/
structure Coordinator.SameEvidence (c c' : Coordinator) : Prop where
  records : c'.records = c.records
  evidenceRefs : c'.evidenceRefs = c.evidenceRefs
  latestResults : c'.latestResults = c.latestResults
  progress : c'.progress = c.progress
  pendingRetry : c'.pendingRetry = c.pendingRetry ∨
    (c'.pendingRetry = none ∧ c'.terminalReason.isSome)
  terminalReason : c.terminalReason.isSome → c'.terminalReason.isSome

namespace Coordinator.SameEvidence

theorem trans {a b c : Coordinator} (h : SameEvidence a b) (h' : SameEvidence b c) :
    SameEvidence a c where
  records := h'.records.trans h.records
  evidenceRefs := h'.evidenceRefs.trans h.evidenceRefs
  latestResults := h'.latestResults.trans h.latestResults
  progress := h'.progress.trans h.progress
  pendingRetry := by
    rcases h'.pendingRetry with e | e
    · rcases h.pendingRetry with e' | ⟨e', ht⟩
      · exact Or.inl (e.trans e')
      · exact Or.inr ⟨e.trans e', h'.terminalReason ht⟩
    · exact Or.inr e
  terminalReason := fun h₀ => h'.terminalReason (h.terminalReason h₀)

end Coordinator.SameEvidence

/-- The reads a model turn may ask for. -/
inductive Coordinator.Asks (trusted : TrustedToolContext) (c : Coordinator) :
    ReadTool → ToolArguments → Prop
  | retry (directive : RetryDirective) (pending : c.pendingRetry = some directive) :
      Asks trusted c directive.toolName directive.canonicalArguments
  | select (tool : ReadTool) (clear : c.pendingRetry = none) (live : c.terminalReason = none)
      (open_ : (c.progress.requirements tool.requirement).status
        ∈ [EvidenceProgressStatus.missing, .retryPending]) :
      Asks trusted c tool ⟨trusted.authorizedOrderId,
        if tool.takesIssue then some trusted.canonicalIssueType else none⟩

namespace Coordinator

/-- `before_selector` gives up no evidence, retries only a pending read, and lets the selector
    choose only in a live run without one. -/
theorem beforeSelector_spec [ProofDigest] {catalog : SyntheticReadToolCatalog}
    {trusted : TrustedToolContext} {budget : ToolBudget} {c c' : Coordinator} {pre : PreSelection}
    (h : c.beforeSelector catalog trusted budget = (pre, c')) :
    SameEvidence c c' ∧ (∀ d, pre = .retry d → c'.pendingRetry = some d) ∧
      (pre = .select → c'.terminalReason = none) := by
  have hinput : SameEvidence c { c with selectorInputProgress := c.progress } :=
    ⟨rfl, rfl, rfl, rfl, Or.inl rfl, id⟩
  have hsettle : ∀ {d d' : Coordinator} {pre : PreSelection}, settle trusted d = (pre, d') →
      d' = d ∧ (∀ r, pre ≠ .retry r) ∧ (pre = .select → d.terminalReason = none) := by
    intro d d' pre h
    unfold settle at h
    split at h
    · obtain ⟨rfl, rfl⟩ := Prod.mk.inj h
      simp
    · rename_i hlive
      push Not at hlive
      split at h
      · obtain ⟨rfl, rfl⟩ := Prod.mk.inj h
        simp
      · obtain ⟨rfl, rfl⟩ := Prod.mk.inj h
        simpa using hlive.1
  unfold beforeSelector at h
  simp only at h
  split at h
  · obtain ⟨rfl, rfl⟩ := Prod.mk.inj h
    exact ⟨⟨rfl, rfl, rfl, rfl, Or.inl rfl, fun _ => rfl⟩, by simp, by simp⟩
  · split at h
    · obtain ⟨rfl, hretry, hlive⟩ := hsettle h
      exact ⟨hinput, fun d e => absurd e (hretry d), hlive⟩
    · rename_i directive hpending
      split at h
      · obtain ⟨rfl, hretry, hlive⟩ := hsettle h
        refine ⟨⟨rfl, rfl, rfl, rfl, Or.inr ⟨rfl, rfl⟩, fun _ => rfl⟩,
          fun d e => absurd e (hretry d), hlive⟩
      · split at h
        · obtain ⟨rfl, rfl⟩ := Prod.mk.inj h
          exact ⟨hinput, fun d e => by rw [hpending, PreSelection.retry.inj e], by simp⟩
        · obtain ⟨rfl, hretry, hlive⟩ := hsettle h
          exact ⟨hinput, fun d e => absurd e (hretry d), hlive⟩

/-- `select_observation` gives up no evidence, and an accepted call is one the validator passed. -/
theorem selectObservation_spec {trusted : TrustedToolContext} {budget : ToolBudget}
    {c c' : Coordinator} {candidate : Option NextObservationCandidate} {post : PostSelection}
    (h : c.selectObservation trusted budget candidate = (post, c')) :
    SameEvidence c c' ∧ ∀ tool arguments, post = .call tool arguments →
      c.terminalReason = none → c'.Asks trusted tool arguments := by
  unfold selectObservation at h
  simp only at h
  split at h
  · rename_i observation hvalid
    have hsame : SameEvidence c { c with
        priorFingerprints := c.priorFingerprints ++ [observation.decisionFingerprint] } :=
      ⟨rfl, rfl, rfl, rfl, Or.inl rfl, id⟩
    split at h
    · rename_i tool arguments htool harguments
      obtain ⟨rfl, rfl⟩ := Prod.mk.inj h
      refine ⟨hsame, fun tool' arguments' e hlive => ?_⟩
      obtain ⟨rfl, rfl⟩ := PostSelection.call.inj e
      obtain ⟨parsed, rfl⟩ : ∃ parsed, candidate = some parsed := by
        cases candidate with
        | none => cases hvalid
        | some parsed => exact ⟨parsed, rfl⟩
      have hok := ObservationValidator.validate_ok hvalid
      have hrequest := hok.request
      rw [htool] at hrequest
      have hopen := (ObservationValidator.rejectCall_eq_none.mp
        (ObservationValidator.requested_some hrequest).2).2.2
      have hargs := hok.arguments
      rw [htool, harguments] at hargs
      rw [Option.some.inj hargs]
      exact .select tool hok.notPending hlive hopen
    · obtain ⟨rfl, rfl⟩ := Prod.mk.inj h
      exact ⟨hsame, by simp⟩
  · have hsame : ∀ guard (reason : Option String), SameEvidence c { c with
        guard := guard
        terminalReason := reason.or c.terminalReason } := fun guard reason =>
      ⟨rfl, rfl, rfl, rfl, Or.inl rfl, fun e => by cases reason <;> simp [e]⟩
    split at h
    · split at h <;> obtain ⟨rfl, rfl⟩ := Prod.mk.inj h
      · exact ⟨hsame _ _, by simp⟩
      · exact ⟨hsame _ _, by simp⟩
    · obtain ⟨rfl, rfl⟩ := Prod.mk.inj h
      exact ⟨hsame _ _, by simp⟩

end Coordinator

namespace InvestigationGraph

variable [ProofDigest] [ResultDigest]

omit [PolicyDigest] [ProofDigest] [ResultDigest] in
theorem routeToTools_spec {turns : Nat} {tool tool' : ReadTool}
    {arguments arguments' : ToolArguments}
    (h : routeToTools turns tool arguments = .tools tool' arguments') :
    tool = tool' ∧ arguments = arguments' := by
  unfold routeToTools at h
  split at h
  · cases h
  · exact GraphNode.tools.inj h

omit [ProofDigest] [ResultDigest] in
/-- A turn ends with the selection's coordinator, and goes to a read only when it calls one. -/
theorem endTurn_spec {s s' : InvestigationState} {node : GraphNode}
    {selection : Coordinator.PostSelection × Coordinator}
    (h : endTurn s selection = (node, s')) :
    s'.coordinator = selection.2 ∧ s'.governed.cache = s.governed.cache ∧
      ∀ tool arguments, node = .tools tool arguments → selection.1 = .call tool arguments := by
  obtain ⟨post, c⟩ := selection
  cases post with
  | call tool arguments =>
    obtain ⟨hnode, rfl⟩ := Prod.mk.inj h
    refine ⟨rfl, rfl, fun tool' arguments' e => ?_⟩
    obtain ⟨rfl, rfl⟩ := routeToTools_spec (hnode.trans e)
    rfl
  | forceReplan =>
    obtain ⟨rfl, rfl⟩ := Prod.mk.inj h
    exact ⟨rfl, rfl, fun _ _ e => GraphNode.noConfusion e⟩
  | terminal =>
    obtain ⟨rfl, rfl⟩ := Prod.mk.inj h
    exact ⟨rfl, rfl, fun _ _ e => GraphNode.noConfusion e⟩

omit [ResultDigest] in
/-- A model turn gives up no evidence and names only a read that the coordinator asks for. -/
theorem callModel_spec {catalog : SyntheticReadToolCatalog} {trusted : TrustedToolContext}
    {selector : ObservationSelector} {s s' : InvestigationState} {node : GraphNode}
    (h : callModel catalog trusted selector s = .ok (node, s')) :
    s.coordinator.SameEvidence s'.coordinator ∧ s'.governed.cache = s.governed.cache ∧
      ∀ tool arguments, node = .tools tool arguments →
        s'.coordinator.Asks trusted tool arguments := by
  unfold callModel at h
  cases hpre : s.coordinator.beforeSelector catalog trusted s.governed.budget with
  | mk pre c =>
    obtain ⟨hsame, hretry, hlive⟩ := Coordinator.beforeSelector_spec hpre
    rw [hpre] at h
    cases pre with
    | terminal =>
      obtain ⟨rfl, rfl⟩ := Prod.mk.inj (Except.ok.inj h)
      exact ⟨hsame, rfl, fun _ _ e => GraphNode.noConfusion e⟩
    | retry d =>
      obtain ⟨hnode, rfl⟩ := Prod.mk.inj (Except.ok.inj h)
      refine ⟨hsame, rfl, fun tool arguments e => ?_⟩
      obtain ⟨rfl, rfl⟩ := routeToTools_spec (hnode.trans e)
      exact .retry d (hretry d rfl)
    | select =>
      simp only at h
      split at h
      · obtain ⟨rfl, rfl⟩ := Prod.mk.inj (Except.ok.inj h)
        exact ⟨hsame, rfl, fun _ _ e => GraphNode.noConfusion e⟩
      · rename_i budget hbudget
        have hturn : ∀ {candidate : Option NextObservationCandidate} {s₁ : InvestigationState},
            endTurn s₁ (c.selectObservation trusted budget candidate) = (node, s') →
            s₁.governed.cache = s.governed.cache →
            s.coordinator.SameEvidence s'.coordinator ∧ s'.governed.cache = s.governed.cache ∧
              ∀ tool arguments, node = .tools tool arguments →
                s'.coordinator.Asks trusted tool arguments := by
          intro candidate s₁ hend hcache
          obtain ⟨hkeep, hasks⟩ := Coordinator.selectObservation_spec
            (Prod.mk.eta (p := c.selectObservation trusted budget candidate)).symm
          obtain ⟨hcoordinator, hcache', hcall⟩ := endTurn_spec hend
          rw [hcoordinator]
          exact ⟨hsame.trans hkeep, hcache'.trans hcache, fun tool arguments e =>
            hasks tool arguments (hcall tool arguments e) (hlive rfl)⟩
        split at h
        · cases h
        · have hend := Except.ok.inj h
          exact hturn hend rfl
        · have hend := Except.ok.inj h
          exact hturn hend rfl

/-- The rule for runs: what model turns and answered reads keep holds at the end of a run. -/
theorem run_invariant {P : Coordinator → CaseToolCache → Prop} {trusted : TrustedToolContext}
    (model : ∀ {c c' cache}, c.SameEvidence c' → P c cache → P c' cache)
    (read : ∀ {catalog s tool arguments record governed}, P s.coordinator s.governed.cache →
      s.coordinator.Asks trusted tool arguments →
      traceRead catalog trusted s tool arguments = (.ok record, governed) →
      P (afterCall trusted s governed record).coordinator governed.cache)
    {catalog : Nat → SyntheticReadToolCatalog} {selector : ObservationSelector} :
    ∀ {n : Nat} {node : GraphNode} {s s' : InvestigationState},
      (∀ tool arguments, node = .tools tool arguments →
        s.coordinator.Asks trusted tool arguments) →
      P s.coordinator s.governed.cache →
      run catalog trusted selector n node s = .ok s' → P s'.coordinator s'.governed.cache := by
  intro n
  induction n with
  | zero =>
    intro node s s' _ hP h
    cases node with
    | finished => exact Except.ok.inj h ▸ hP
    | _ => cases h
  | succ n ih =>
    intro node s s' hasks hP h
    cases node with
    | finished => exact Except.ok.inj h ▸ hP
    | agent =>
      simp only [run, step] at h
      split at h
      · cases h
      · rename_i node' s₁ hstep
        obtain ⟨hsame, hcache, hasks'⟩ := callModel_spec hstep
        exact ih hasks' (hcache ▸ model hsame hP) h
    | tools tool arguments =>
      simp only [run] at h
      split at h
      · cases h
      · rename_i node' s₁ hstep
        obtain ⟨rfl, record, governed, hread, rfl⟩ := step_tools hstep
        exact ih (fun _ _ e => GraphNode.noConfusion e)
          (read hP (hasks tool arguments rfl) hread) h
    | budgetExhausted =>
      simp only [run, step] at h
      exact Except.ok.inj h ▸ hP

end InvestigationGraph

end AfterSales
