import AfterSales.Application.QuestionLimit
import AfterSales.Application.RunLifecycle
import AfterSales.Application.StepEffects

/-! A case that executes its action, and the call that does so.

    A case is in EXECUTING_ACTION only while a call submits and verifies its action, and a run is
    unfinished only while its call lasts. Both are over when the call is, except after a write that
    an index of the tickets refused: its transaction leaves nothing, and no later operation accepts
    the case. -/

set_option linter.unusedSectionVars false

namespace AfterSales
open Interleave Repository

variable [PolicyDigest] [ProofDigest] [ResultDigest] [IdText] [TraceVolume] [FactDigest]
  [CaseFolding] [EvidenceDigest] [MessageRedaction]

variable {settings : Settings} {k : String} {l : ConversationStore} {s : SharedState}
  {label : Label} {γ γ' : Phase} {p p' : JournalPoint} {x y : ServiceState} {c : RowId}
  {f : CaseFolder} {g : ServiceConfig}

/-! ### Cases -/

/-- The call executes the action of a case. -/
def Phase.Executes (c : RowId) : Phase → Prop
  | .executing _ a _ | .submitted _ a _ _ => a.caseId = c
  | _ => False

/-- Every case that executes its action has its call. -/
def ExecutedBy (γ : Phase) (l : ConversationStore) : Prop :=
  ∀ c f, l.folders c = some f → f.row.caseState = .executingAction → γ.Executes c

/-- A call that executes an action goes on to do so, or has settled the case. -/
theorem Move.executes (h : Move settings k label γ x γ' y) (he : γ.Executes c)
    (hγ' : γ' ≠ .stranded) : γ'.Executes c ∨
      ∀ f, y.1.folders c = some f → f.row.caseState ≠ .executingAction := by
  cases h with
  | look | note => exact .inl he
  | load _ facts => cases facts <;> exact .inl he
  | tell e about carries visible ordinary known tells => cases tells <;> exact .inl he
  | begin starts => cases starts <;> exact .inl he
  | facts kind facts => cases facts <;> exact .inl he
  | refuse refusable => cases refusable <;> cases he
  | start begins => cases begins <;> cases he
  | strand => exact absurd rfl hγ'
  | change folder run move =>
    cases move with
    | park passing => cases passing <;> cases he
    | askPackage asking | closeAtLimit asking => cases asking <;> cases he
    | submit | submitFaulted => exact .inl he
    | @fault a act fault t open_ owner =>
      obtain rfl : a.caseId = c := he
      subst owner
      right
      intro f hf
      rw [ConversationStore.setRun_folders, ConversationStore.putCase_self] at hf
      rw [← Option.some.inj hf]
      simp only [CaseFolder.updated, CaseRow.updated, Service.faultedCase]
      split <;> simp [Service.closing]
    | @verify a act t fixtures open_ owner =>
      obtain rfl : a.caseId = c := he
      subst owner
      right
      intro f hf
      rw [ConversationStore.setRun_folders, ConversationStore.putCase_self] at hf
      rw [← Option.some.inj hf]
      simp [CaseFolder.updated, CaseRow.updated, Service.closing]
    | _ => cases he
  | _ => cases he

/-- A case comes to execute its action by a call that does. -/
theorem FolderMove.executes {o : Option CaseFolder}
    (h : FolderMove settings k l s c label γ γ' o (some f))
    (hstate : f.row.caseState = .executingAction) :
    (∃ f₀, o = some f₀ ∧ f₀.row.caseState = .executingAction) ∨ γ'.Executes c := by
  cases h with
  | same => exact .inl ⟨f, rfl, hstate⟩
  | opened => cases hstate
  | facts facts step => exact .inl ⟨_, rfl, step.row ▸ hstate⟩
  | explored => exact .inl ⟨_, rfl, hstate⟩
  | retry => cases hstate
  | retryAction => exact .inr rfl
  | change run move =>
    cases move with
    | confirm => exact .inr rfl
    | submit | submitFaulted => exact .inl ⟨_, rfl, hstate⟩
    | revise => exact .inl ⟨_, rfl, hstate⟩
    | fault =>
      exfalso
      simp only [CaseFolder.updated, CaseRow.updated, Service.faultedCase] at hstate
      split at hstate <;> simp [Service.closing] at hstate
    | _ => cases hstate

theorem ExecutedBy.step (h : ExecutedBy γ x.1) (hmove : Move settings k label γ x γ' y)
    (hinv : StoreInv k x.1) (hγ' : γ' ≠ .stranded) : ExecutedBy γ' y.1 := by
  intro c f hf hstate
  have hfolder := hmove.folderMove hinv c
  rw [hf] at hfolder
  rcases hfolder.executes hstate with ⟨f₀, hf₀, hstate₀⟩ | hnew
  · rcases hmove.executes (h c f₀ hf₀ hstate₀) hγ' with hgoes | hsettled
    · exact hgoes
    · exact absurd hstate (hsettled f hf)
  · exact hnew

/-! ### Runs -/

/-- A run is queued or running. -/
def Unfinished (l : ConversationStore) (runId : RowId) : Prop :=
  l.runStateOf runId = some .queued ∨ l.runStateOf runId = some .running

/-- Only the run at hand is unfinished. -/
def FinishedBut (p : JournalPoint) (l : ConversationStore) : Prop :=
  ∀ runId, Unfinished l runId → p.openRun = some runId

theorem FinishedBut.same {l' : ConversationStore} (h : FinishedBut p l)
    (hruns : l'.runStateOf = l.runStateOf) (hopen : p'.openRun = p.openRun) :
    FinishedBut p' l' := by
  intro runId hunfinished
  rw [Unfinished, hruns] at hunfinished
  exact hopen.trans (h runId hunfinished)

/-- The run at hand changes its state, and is at hand for as long as it is unfinished. -/
theorem FinishedBut.becomes {l' : ConversationStore} {runId : RowId} {q : RunState}
    (h : FinishedBut p l) (hopen : ∀ r, p.openRun = some r → r = runId)
    (hbecomes : RunBecomes runId q l l') (hq : q = .queued ∨ q = .running → p'.openRun = some runId) :
    FinishedBut p' l' := by
  intro r hunfinished
  by_cases e : r = runId
  · subst e
    rw [Unfinished, hbecomes.state] at hunfinished
    exact hq (hunfinished.imp Option.some.inj Option.some.inj)
  · rw [Unfinished, hbecomes.others r e] at hunfinished
    exact absurd (hopen r (h r hunfinished)) e

theorem FinishedBut.step (h : FinishedBut p x.1) (hmove : JournalMove settings k label p x p' y) :
    FinishedBut p' y.1 := by
  have hsome : ∀ {r runId : RowId}, some runId = some r → r = runId := fun h =>
    (Option.some.inj h).symm
  cases hmove with
  | same same => exact h.same (by rw [same]) rfl
  | quiet label_ appends => exact h.same appends.runs rfl
  | gate told appends => exact h.same appends.runs rfl
  | note appends => exact h.same appends.runs rfl
  | tellOpened appends | tellClosed appends => exact h.same appends.runs rfl
  | bind appends => exact h.same appends.runs rfl
  | submit appends => exact h.same appends.runs rfl
  | queue names becomes => exact h.becomes (by simp [JournalPoint.openRun]) becomes fun _ => rfl
  | start becomes => exact h.becomes (fun _ => hsome) becomes fun _ => rfl
  | finish label_ becomes | outcome becomes | fail becomes | lose other becomes =>
    exact h.becomes (fun _ => hsome) becomes (by simp)

/-! ### Every run -/

/-- No case executes its action, every run has ended, and no action is left half done. -/
structure Settled (l : ConversationStore) : Prop where
  cases : ∀ c f, l.folders c = some f → f.row.caseState ≠ .executingAction
  runs : ∀ runId row, l.runs runId = some row →
    row.runState = .succeeded ∨ row.runState = .failed
  actions : ∀ c f, l.folders c = some f → ∀ a ∈ f.actions,
    a.actionState ≠ .ready ∧ a.actionState ≠ .submitted

/-- A write that is submitted is accepted. -/
def WritesAccepted (settings : Settings) (_ : String) (label : Label) (x : ServiceState) : Prop :=
  ∀ actionId, label = .submit actionId → WriteAccepted settings actionId x

/-- What is kept while a call is in progress. -/
def Unstranded (γ : Phase × JournalPoint) (l : ConversationStore) : Prop :=
  γ.1 ≠ .stranded ∧ ExecutedBy γ.1 l ∧ FinishedBut γ.2 l

theorem unstranded_preserved :
    Preserved (watch settings) SharedState.Drifts (WritesAccepted settings)
      fun _ γ l _ => Unstranded γ l := by
  refine Preserved.of_own ?_ ?_
  · rintro k label ⟨γ, p⟩ ⟨γ', p'⟩ x y hinv ⟨hγ, hcases, hruns⟩ haccepted ⟨hmove, hjournal⟩
    have hγ' := hmove.not_stranded hinv.1.2.1 haccepted hγ
    exact ⟨hγ', hcases.step hmove hinv.1.1 hγ', hruns.step hjournal⟩
  · rintro k ⟨γ, p⟩ l s a ⟨hended, hover⟩ hinv ⟨hγ, hcases, hruns⟩
    have hrests (hopen : p.openRun = none) : FinishedBut .blank l := by
      intro runId h
      rw [hruns runId h] at hopen
      cases hopen
    cases a with
    | ok r =>
      obtain ⟨runId, caseId, rfl⟩ := hover
      refine ⟨by rintro ⟨⟩, fun c f hf hstate => ?_, hrests rfl⟩
      rcases hended with ⟨rfl, -⟩ | ⟨caseId, d, rfl, -⟩
      · exact hcases c f hf hstate
      · exact hcases c f hf hstate
    | error e =>
      rcases hended with ⟨rfl, happlication⟩ | hstranded
      · refine ⟨by rintro ⟨⟩, hcases, hrests ?_⟩
        rcases hover happlication with rfl | ⟨runId, caseId, rfl | rfl⟩ <;> rfl
      · exact absurd hstranded hγ

/-- An action that is ready or submitted is that of a case that executes it. -/
theorem Stage.settled (h : Stage f) (hstate : f.row.caseState ≠ .executingAction) :
    ∀ a ∈ f.actions, a.actionState ≠ .ready ∧ a.actionState ≠ .submitted := by
  intro a ha
  cases h with
  | plain _ _ _ actions | offered _ _ _ _ _ _ _ actions =>
    rw [actions] at ha
    cases ha
  | acting _ _ a' states _ _ _ _ actions =>
    rw [actions, List.mem_singleton] at ha
    subst ha
    simp only [actionStages, List.mem_cons, Prod.mk.injEq, List.not_mem_nil, or_false] at states
    rcases states with ⟨e, -⟩ | ⟨e, -⟩ | ⟨e, -⟩ | ⟨-, e⟩ | ⟨-, e⟩ | ⟨-, e⟩ | ⟨-, e⟩
    · exact absurd e hstate
    · exact absurd e hstate
    · exact absurd e hstate
    all_goals
      rw [e]
      constructor <;> rintro ⟨⟩

/-- When no write is refused, no conversation at rest has a case or a run that is left half done. -/
theorem none_stranded (hreach : ServiceReaches settings (WritesAccepted settings) g)
    (hrest : g.AtRest k) : Settled (g.stores k) := by
  have hfresh : ∀ (_ : String) customerId (_ : SharedState),
      Unstranded (.idle, .blank) (.created customerId) := by
    intro _ customerId _
    refine ⟨by rintro ⟨⟩, ?_, ?_⟩
    · rintro c f ⟨⟩
    · rintro runId (h | h) <;> cases h
  obtain ⟨-, hcases, hruns⟩ := hreach.watched_atRest unstranded_preserved hfresh hrest
  have hstate : ∀ c f, (g.stores k).folders c = some f → f.row.caseState ≠ .executingAction :=
    fun c f hf hstate => hcases c f hf hstate
  refine ⟨hstate, fun runId row hrow => ?_, fun c f hf => ?_⟩
  · have hrun : (g.stores k).runStateOf runId = some row.runState := by
      rw [ConversationStore.runStateOf, hrow]
      rfl
    cases hq : row.runState with
    | queued => cases hruns runId (.inl (hrun.trans (congrArg some hq)))
    | running => cases hruns runId (.inr (hrun.trans (congrArg some hq)))
    | succeeded => exact .inl rfl
    | failed => exact .inr rfl
  · exact ((hreach.storeInv hrest).folders c f hf).2.2.stage.settled (hstate c f hf)

end AfterSales

/-! ### A write that is refused -/

namespace AfterSales.Session

section Stranded

attribute [local instance] PolicyDigest.bySource ProofDigest.byId ResultDigest.byName
  IdText.spelled FactDigest.byMessage CaseFolding.lower EvidenceDigest.byResults
  MessageRedaction.none TraceVolume.one

theorem writesFirst_accepted {label : Label} {x : ServiceState} {k : String}
    (h : writesFirst (label, x) = true) : WritesAccepted demoSettings k label x := by
  rintro actionId rfl - caseId f act - - -
  rw [tickets_of_writesFirst h]
  rfl

theorem writesFirst_settled :
    Settled ((session demoSettings "CONV-1" "CUS-1" (demoShared fun _ => [])
      [lateReport, confirmFirst "CONV-1"]).stores "CONV-1") := by
  have hsteps : (Visit.steps demoSettings "CONV-1" [lateReport, confirmFirst "CONV-1"]
      (.created (some "CUS-1"), demoShared fun _ => [])).all writesFirst = true := by
    decide +kernel
  exact none_stranded (session_reaches (demoShared_fresh _) _ fun step hstep =>
    writesFirst_accepted (List.all_eq_true.mp hsteps step hstep)) (session_atRest _ _)

/-- The write of one conversation fails, another one writes the same ticket, and the first one
    tries again. -/
def overtaken : List (String × Visit) :=
  [("CONV-1", lateReport), ("CONV-1", confirmFirst "CONV-1"), ("CONV-2", lateReport),
    ("CONV-2", confirmFirst "CONV-2"), ("CONV-1", retryFirst "CONV-1")]

/-- The retry is refused by an index, and leaves its case executing and its run running. -/
theorem overtaken_stranded :
    let g := sessions demoSettings "CUS-1" (demoShared failOnce) overtaken
    ServiceReaches demoSettings (fun _ _ _ => True) g ∧ g.AtRest "CONV-1" ∧
      ((g.stores "CONV-1").folders ⟨"CONV-1", 2⟩).map (·.row.caseState) = some .executingAction ∧
      (g.stores "CONV-1").runStateOf ⟨"CONV-1", 5⟩ = some .running ∧
      ¬ Settled (g.stores "CONV-1") := by
  have hstate : ((((sessions demoSettings "CUS-1" (demoShared failOnce) overtaken).stores
      "CONV-1").folders ⟨"CONV-1", 2⟩).map (·.row.caseState)) = some .executingAction := by
    decide +kernel
  refine ⟨sessions_reaches (demoShared_fresh _) _, sessions_atRest _ _, hstate, by decide +kernel,
    fun hsettled => ?_⟩
  obtain ⟨f, hf, hexecutes⟩ := Option.map_eq_some_iff.mp hstate
  exact hsettled.cases _ f hf hexecutes

end Stranded

end AfterSales.Session
