import AfterSales.Application.Session
import AfterSales.Application.StepEffects
import AfterSales.Application.Traversal

/-! The stored facts of a case, and the ones that its history and its calls rebuild to.

        pass ── reads ──▶ stale ── result ──▶ refreshed
                             └──── exception ──▶ parked

    A pass stores its calls one by one, and the facts are refreshed when its result is applied. An
    exception parks the case without a refresh. So what the case has stored then has to be current
    already, and it is unless the pass has read a delivery proof that its facts do not know. -/

set_option linter.unusedSectionVars false

namespace AfterSales
open Interleave Repository

variable [PolicyDigest] [ProofDigest] [ResultDigest] [IdText] [TraceVolume] [FactDigest]
  [CaseFolding] [EvidenceDigest] [MessageRedaction]

variable {settings : Settings} {k : String} {l : ConversationStore} {s s' : SharedState}
  {label : Label} {γ γ' : Phase} {x y : ServiceState} {c : RowId} {f f' : CaseFolder}
  {g : ServiceConfig}

/-! ### Stored and rebuilt facts -/

/-- The stored facts of a case are the ones that its history and its delivery proof rebuild to. -/
def FactsCurrent (c : RowId) (f : CaseFolder) : Prop :=
  ∀ stored ∈ f.snapshot,
    rebuildCaseFactSnapshot c f.assertions f.questions (proofContext f.toolCalls) = .ok stored

/-- A case is parked while its stored facts are current. -/
def ParksInformed (label : Label) (x : ServiceState) : Prop :=
  ∀ c runId pass, label = .park c runId pass → ∀ f, x.1.folders c = some f → FactsCurrent c f

/-- The steps that load the facts of a case. -/
inductive Label.Loads (c : RowId) : Label → Prop
  | load : Loads c (.load c)
  | read : Loads c (.read c)
  | review {proposalId : ProposalId} (version : Nat) (owner : proposalId.caseId = c) :
      Loads c (.review proposalId version)

/-- A load succeeds exactly on facts that are current. -/
theorem FactHistory.loads_iff (h : FactHistory l c f) (hf : l.folders c = some f) :
    (∃ snapshot, CaseFactService.loadSnapshot c (l, s) = .ok (snapshot, (l, s))) ↔
      FactsCurrent c f := by
  obtain ⟨rebuilt, hr, hload⟩ := CaseFactService.loadSnapshot_cases (s := s) hf h
  have hrebuilt := hr.rebuilt
  rw [CaseFactService.rebuildFolder_eq h] at hrebuilt
  rcases hload with ⟨hsame, hload⟩ | ⟨⟨stored, hstored, hdiffers⟩, hload⟩
  · refine iff_of_true ⟨rebuilt, hload⟩ fun stored hstored => ?_
    rw [hrebuilt, hsame stored hstored]
  · refine iff_of_false ?_ fun hcurrent => hdiffers ?_
    · rintro ⟨snapshot, hok⟩
      rw [hload] at hok
      cases hok
    · exact Except.ok.inj ((hcurrent stored hstored).symm.trans hrebuilt)

/-- A step of the fact service leaves the facts current. -/
theorem FactStep.factsCurrent (step : FactStep l c f f') : FactsCurrent c f' := by
  intro stored hstored
  obtain ⟨rebuilt, hr⟩ := CaseFactService.rebuildFolder_ok step.history
  have hsame := step.current rebuilt hr.rebuilt
  rw [hsame] at hstored
  rw [← CaseFactService.rebuildFolder_eq step.history, hr.rebuilt, Option.some.inj hstored]

/-- The history and the calls are all that matters. -/
theorem FactsCurrent.of_rows (h : FactsCurrent c f) (hassertions : f'.assertions = f.assertions)
    (hquestions : f'.questions = f.questions) (hsnapshot : f'.snapshot = f.snapshot)
    (hcalls : f'.toolCalls = f.toolCalls) : FactsCurrent c f' := by
  intro stored hstored
  rw [hassertions, hquestions, hcalls]
  exact h stored (hsnapshot ▸ hstored)

/-! ### Passes -/

/-- While a pass is under way its case may have calls that its facts do not know. -/
inductive Phase.Stale (c : RowId) : Phase → Prop
  | exploring (runId : RowId) (pass : Nat) (started : Service.StartedInvestigation)
      (node : GraphNode) (is : InvestigationState) :
      Stale c (.exploring runId c pass started node is)
  | answered (runId : RowId) (pass : Nat) (output : InvestigationOutput) :
      Stale c (.answered runId c pass output false)

/-- A move on a case changes neither its history nor its calls. -/
theorem CaseMove.factsCurrent {runId : RowId} {run run' : RunRow} {drawn : Bool}
    (h : CaseMove settings c runId l s f run label γ drawn γ' s' f' run')
    (hcurrent : FactsCurrent c f) : FactsCurrent c f' := by
  cases h <;> exact hcurrent.of_rows rfl rfl rfl rfl

theorem FolderMove.factsCurrent {o o' : Option CaseFolder}
    (h : FolderMove settings k l s c label γ γ' o o') (hcurrent : ∀ f ∈ o, FactsCurrent c f) :
    ∀ f' ∈ o', γ'.Stale c ∨ FactsCurrent c f' := by
  cases h with
  | same => exact fun f' hf' => .inr (hcurrent f' hf')
  | opened =>
    rintro f' ⟨rfl⟩
    exact .inr fun stored hstored => by cases hstored
  | facts facts step =>
    rintro f' ⟨rfl⟩
    exact .inr step.factsCurrent
  | explored =>
    rintro f' ⟨rfl⟩
    exact .inl (.exploring ..)
  | retry | retryAction =>
    rintro f' ⟨rfl⟩
    exact .inr ((hcurrent _ rfl).of_rows rfl rfl rfl rfl)
  | change run move =>
    rintro f' ⟨rfl⟩
    exact .inr (move.factsCurrent (hcurrent _ rfl))

/-- A pass ends with a refresh, or with an exception that parks the case. -/
theorem Move.ends_stale (h : Move settings k label γ x γ' y) (hstale : γ.Stale c) :
    γ'.Stale c ∨ (∃ runId pass, label = .park c runId pass) ∨
      ∀ f, y.1.folders c = some f → FactsCurrent c f := by
  cases hstale with
  | exploring =>
    cases h with
    | look | note | superstep | stumble => exact .inl (.exploring ..)
    | evaluate | resumeGate => exact .inl (.answered ..)
    | load _ facts => cases facts
    | facts _ facts => cases facts
    | tell _ _ _ _ _ _ tells => cases tells
    | begin starts => cases starts
    | refuse refusable => cases refusable
    | start begins => cases begins
    | change folder run move =>
      cases move with
      | park passing =>
        cases passing
        exact .inr (.inl ⟨_, _, rfl⟩)
      | askPackage asking => cases asking
      | closeAtLimit asking => cases asking
  | answered =>
    cases h with
    | look | note => exact .inl (.answered ..)
    | load _ facts => cases facts
    | facts _ facts stored step =>
      cases facts
      refine .inr (.inr fun f hf => ?_)
      rw [← Option.some.inj ((ConversationStore.setFolder_self ..).symm.trans hf)]
      exact step.factsCurrent
    | tell _ _ _ _ _ _ tells => cases tells
    | begin starts => cases starts
    | refuse refusable => cases refusable
    | start begins => cases begins
    | change folder run move =>
      cases move with
      | park passing => cases passing
      | askPackage asking => cases asking
      | closeAtLimit asking => cases asking

/-- A case is parked with the facts it has. -/
theorem Move.parks {runId : RowId} {pass : Nat}
    (h : Move settings k (.park c runId pass) γ x γ' y) (hf : x.1.folders c = some f) :
    ∃ f', y.1.folders c = some f' ∧ (FactsCurrent c f' ↔ FactsCurrent c f) := by
  cases h with
  | look kind => cases kind
  | load kind => rcases kind with kind | kind <;> cases kind
  | hold kind => rcases kind with kind | kind <;> cases kind
  | facts kind => rcases kind with kind | kind | kind <;> cases kind
  | change folder run move =>
    cases move with
    | park =>
      obtain rfl := Option.some.inj (folder.symm.trans hf)
      exact ⟨_, ConversationStore.setFolder_self .., fun h => h.of_rows rfl rfl rfl rfl,
        fun h => h.of_rows rfl rfl rfl rfl⟩
    | drop _ _ _ why => cases why

/-- Between passes nothing is stale. -/
theorem Move.loads_settled (h : Move settings k label γ x γ' y) (hloads : label.Loads c) :
    ¬ γ.Stale c := by
  intro hstale
  cases h with
  | look kind => cases hloads <;> cases kind
  | load _ facts => cases hstale <;> cases facts
  | facts kind facts stored step kept =>
    have hkept : γ' = γ := kept (by rintro rfl; cases hloads)
    subst hkept
    cases hstale <;> cases facts
  | hold => cases hstale
  | change folder run move =>
    cases move with
    | drop | resume | confirm => cases hstale
    | _ => cases hloads
  | _ => cases hloads

/-! ### Every run -/

/-- Where no pass is under way the facts are current. -/
theorem factsCurrent_preserved (settings : Settings) :
    Preserved (machine settings) SharedState.Drifts (fun _ => ParksInformed)
      fun _ γ l _ => ∀ c f, l.folders c = some f → γ.Stale c ∨ FactsCurrent c f := by
  refine Preserved.of_own ?_ fun {k γ l s a} hended _ h c f hf => ?_
  · intro k label γ γ' x y hinv hJ hparks hmove c f' hf'
    have hfolder := Move.folderMove hmove hinv.1 c
    have hcurrent : (∀ f ∈ x.1.folders c, FactsCurrent c f) → γ'.Stale c ∨ FactsCurrent c f' :=
      fun h => hfolder.factsCurrent h f' hf'
    by_cases hstale : γ.Stale c
    · rcases Move.ends_stale hmove hstale with hstale' | ⟨runId, pass, hpark⟩ | hrefreshed
      · exact .inl hstale'
      · exact hcurrent (hparks c runId pass hpark)
      · exact .inr (hrefreshed f' hf')
    · exact hcurrent fun f hf => (hJ c f hf).resolve_left hstale
  · refine .inr ((h c f hf).resolve_left fun hstale => ?_)
    cases a <;> simp only [machine, Phase.Ended] at hended <;> cases hstale <;> simp at hended

/-- In a run that parks no case with facts that are not current, every load of the stored facts
    succeeds, and the case that the next step parks can be loaded again exactly when its facts are
    current. -/
theorem factLoads_succeed (hreach : ServiceReaches settings (fun _ => ParksInformed) g)
    {call : Call ConversationStore SharedState Label Request Response}
    {update : ServiceState → ServiceState}
    {next : ServiceState → Prog ServiceState Label Response} (busy : g.calls k = some call)
    (due : call.program = .atom label update next) (hf : (g.stores k).folders c = some f) :
    (label.Loads c → ∃ snapshot, CaseFactService.loadSnapshot c (g.stores k, g.shared)
        = .ok (snapshot, (g.stores k, g.shared))) ∧
      ∀ runId pass, label = .park c runId pass →
        ((∃ snapshot, CaseFactService.loadSnapshot c (update (g.stores k, g.shared))
          = .ok (snapshot, update (g.stores k, g.shared))) ↔ FactsCurrent c f) := by
  have hfresh : ∀ g₀ : ServiceConfig, ServiceConfig.Fresh g₀ → ∀ k c f,
      (g₀.stores k).folders c = some f → Phase.idle.Stale c ∨ FactsCurrent c f := by
    intro g₀ h₀ k c f hf
    rw [h₀.folders_eq_none] at hf
    cases hf
  obtain ⟨γ, γ', hinv, hcurrent, hmove⟩ :=
    (hreach.simulated (factsCurrent_preserved settings) hfresh).due busy due
  refine ⟨fun hloads => ?_, ?_⟩
  · have hsettled := Move.loads_settled hmove hloads
    exact ((hinv.1.folders c f hf).2.2.history.loads_iff hf).mpr
      ((hcurrent c f hf).resolve_left hsettled)
  · rintro runId pass rfl
    obtain ⟨f', hf', hsame⟩ := Move.parks hmove hf
    have hinv' := Move.storeInv hmove hinv.1 hinv.2.1
    exact ((hinv'.folders c f' hf').2.2.history.loads_iff hf').trans hsame

end AfterSales

/-! ### A selector that fails after the proof was read -/

namespace AfterSales.Session
open Interleave

section Parity

attribute [local instance] PolicyDigest.bySource ProofDigest.byId ResultDigest.byName
  IdText.spelled FactDigest.byMessage CaseFolding.lower EvidenceDigest.byResults
  MessageRedaction.none TraceVolume.one

/-- A selector that follows an order, and fails at its end. -/
def followThenFail (order : List ReadTool) : ObservationSelector := fun context =>
  match followOrder order context with
  | .malformed => .failure
  | response => response

/-- A customer misses a parcel, and the selector fails when the delivery proof was read. -/
def proofThenFailure : Visit :=
  ⟨0, .submitMessage "my parcel is missing" ⟨some ⟨.signedNotReceived, [], ["ORD-1"]⟩,
    fun _ _ => followThenFail [.getOrderContext, .getDeliveryProof]⟩⟩

/-- The case is tried again a minute later. -/
def retryParked : Visit := ⟨60000000, .retryCase ⟨"CONV-1", 2⟩ (providersOf none deliveredReads)⟩

/-- The selector fails when only the order was read. -/
def orderThenFailure : Visit :=
  ⟨0, .submitMessage "my parcel is missing" ⟨some ⟨.signedNotReceived, [], ["ORD-1"]⟩,
    fun _ _ => followThenFail [.getOrderContext]⟩⟩

/-- A step that parks no case, or one whose facts are current. -/
def parksInformed (step : Label × ServiceState) : Bool :=
  match step.1 with
  | .park c _ _ => (step.2.1.folders c).all fun f => f.snapshot.all fun stored =>
      decide ((rebuildCaseFactSnapshot c f.assertions f.questions (proofContext f.toolCalls)).toOption
        = some stored)
  | _ => true

theorem parksInformed_of {label : Label} {x : ServiceState}
    (h : parksInformed (label, x) = true) : ParksInformed label x := by
  rintro c runId pass rfl f hf stored hstored
  simp only [parksInformed, hf, Option.all_some] at h
  rw [Option.mem_def.mp hstored, Option.all_some, decide_eq_true_eq] at h
  cases hrebuilt : rebuildCaseFactSnapshot c f.assertions f.questions (proofContext f.toolCalls) with
  | error e =>
    rw [hrebuilt] at h
    cases h
  | ok rebuilt =>
    rw [hrebuilt] at h
    exact congrArg Except.ok (Option.some.inj h)

/-- The case was parked before any proof was read, and the retry finds its facts. -/
theorem parkedEarly_loads :
    (∃ step ∈ Visit.steps demoSettings "CONV-1" [orderThenFailure]
      (.created (some "CUS-1"), frontDesk), step.1 = .park ⟨"CONV-1", 2⟩ ⟨"CONV-1", 0⟩ 0) ∧
    ∃ (g : ServiceConfig) (snapshot : CaseFactSnapshot),
      CaseFactService.loadSnapshot ⟨"CONV-1", 2⟩ (g.stores "CONV-1", g.shared)
        = .ok (snapshot, (g.stores "CONV-1", g.shared)) := by
  refine ⟨by decide +kernel, ?_⟩
  have hearlier : (Visit.steps demoSettings "CONV-1" [orderThenFailure]
      (.created (some "CUS-1"), frontDesk)).all parksInformed = true := by
    decide +kernel
  have hlast : (Visit.stepsAfter demoSettings "CONV-1" [orderThenFailure] retryParked
      (.created (some "CUS-1"), frontDesk)).all parksInformed = true := by
    decide +kernel
  obtain ⟨⟨_, x⟩, hmem, rfl, f, hf⟩ : ∃ step ∈ Visit.stepsAfter demoSettings "CONV-1"
      [orderThenFailure] retryParked (.created (some "CUS-1"), frontDesk),
      step.1 = .load ⟨"CONV-1", 2⟩ ∧ ∃ f, f ∈ step.2.1.folders ⟨"CONV-1", 2⟩ := by
    simp only [← Option.isSome_iff_exists, Option.mem_def]
    decide +kernel
  obtain ⟨earlier, rest, hsteps⟩ := List.append_of_mem hmem
  obtain ⟨g, hreach, call, update, next, busy, due, rfl, -⟩ : ∃ g,
      ServiceReaches demoSettings (fun _ => ParksInformed) g ∧ g.Due "CONV-1" _ rest :=
    session_comes frontDesk_fresh
      (fun step hstep => parksInformed_of (List.all_eq_true.mp hearlier step hstep))
      (fun step hstep => parksInformed_of (List.all_eq_true.mp hlast step hstep)) hsteps
  obtain ⟨snapshot, hload⟩ := (factLoads_succeed hreach busy due hf).1 .load
  exact ⟨g, snapshot, hload⟩

/-- The retry is refused, since the stored facts do not know the proof. -/
theorem retryParked_refused :
    ¬ ∀ (g : ServiceConfig) (k : String) (c : RowId) (f : CaseFolder)
      (call : Call ConversationStore SharedState Label Request Response) (label : Label)
      (update : ServiceState → ServiceState)
      (next : ServiceState → Prog ServiceState Label Response),
      ServiceReaches demoSettings (fun _ _ _ => True) g → g.calls k = some call →
      call.program = .atom label update next → (g.stores k).folders c = some f →
      label.Loads c → ∃ snapshot, CaseFactService.loadSnapshot c (g.stores k, g.shared)
        = .ok (snapshot, (g.stores k, g.shared)) := by
  intro hagree
  obtain ⟨⟨_, x⟩, hmem, rfl, hf, hrefused⟩ : ∃ step ∈ Visit.stepsAfter demoSettings "CONV-1"
      [proofThenFailure] retryParked (.created (some "CUS-1"), frontDesk),
      step.1 = .load ⟨"CONV-1", 2⟩ ∧ (step.2.1.folders ⟨"CONV-1", 2⟩).isSome = true ∧
      (CaseFactService.loadSnapshot ⟨"CONV-1", 2⟩ step.2).toOption.isNone = true := by
    decide +kernel
  obtain ⟨f, hf⟩ := Option.isSome_iff_exists.mp hf
  obtain ⟨earlier, rest, hsteps⟩ := List.append_of_mem hmem
  obtain ⟨g, hreach, call, update, next, busy, due, rfl, -⟩ : ∃ g,
      ServiceReaches demoSettings (fun _ _ _ => True) g ∧ g.Due "CONV-1" _ rest :=
    session_comes frontDesk_fresh (fun _ _ => trivial) (fun _ _ => trivial) hsteps
  obtain ⟨snapshot, hload⟩ := hagree g _ _ f call _ _ _ hreach busy due hf .load
  rw [hload] at hrefused
  cases hrefused

end Parity

end AfterSales.Session
