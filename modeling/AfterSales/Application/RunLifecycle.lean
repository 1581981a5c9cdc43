import AfterSales.Application.Session
import AfterSales.Application.Watch

/-! The life of a run in the event log, and the composer of the browser.

    Each run that began is told to have ended once, as its row says, before the next one begins. The
    log is then a row of brackets, one for each run, and a browser that replays it finds no run
    active. Two exits leave a bracket open: a classifier that fails, whose run ends with an event of
    another name, and a ticket that an index refuses, whose run never ends. -/

set_option linter.unusedSectionVars false

namespace AfterSales
open Interleave Repository

variable [PolicyDigest]

/-! ### The browser -/

/-- The part of `handleEvent` that is about the active run. -/
def activeRunAfter (active : Bool) (e : ServiceEvent) : Bool :=
  let active := if e.eventType = "case_closed" ∧ e.caseId.isSome then false else active
  if e.eventType = "run_started" then true
  else if e.eventType = "run_succeeded" ∨ e.eventType = "run_failed" then false
  else active

/-- Whether a browser that has received a log finds a run active. -/
def activeRun (events : List ServiceEvent) : Bool := events.foldl activeRunAfter false

/-! ### Brackets -/

/-- The events that begin or end a run. -/
def ServiceEvent.ofLife (e : ServiceEvent) : Bool :=
  e.eventType ∈ ["run_started", "run_succeeded", "run_failed"]

/-- What a log tells of the life of its runs. -/
def lifeOf (events : List ServiceEvent) : List (String × Option RowId) :=
  (events.filter (·.ofLife)).map fun e => (e.eventType, e.runId)

/-- The event that ends a run in a state. -/
def RunState.endEvent : RunState → String
  | .succeeded => "run_succeeded"
  | _ => "run_failed"

/-- A run has come to its end. -/
def RunEnded (l : ConversationStore) (runId : RowId) : Prop :=
  l.runStateOf runId = some .succeeded ∨ l.runStateOf runId = some .failed

/-- What the log tells of a run that has ended. -/
def bracket (l : ConversationStore) (runId : RowId) : List (String × Option RowId) :=
  [("run_started", some runId),
    (((l.runStateOf runId).getD .queued).endEvent, some runId)]

/-- Each run of a conversation that began is told to have ended, once and as its row says; no run
    begins after the last end, and the browser finds none active. -/
structure RunsTold (l : ConversationStore) : Prop where
  ended : ∀ e ∈ l.events, e.eventType = "run_started" → ∃ runId row, e.runId = some runId ∧
    l.runs runId = some row ∧ (row.runState = .succeeded ∨ row.runState = .failed) ∧
    (l.events.filter fun e => e.ofLife ∧ e.runId = some runId).map (·.eventType)
      = ["run_started", row.runState.endEvent]
  last : ∀ e, (l.events.filter (·.ofLife)).getLast? = some e → e.eventType ≠ "run_started"
  composer : activeRun l.events = false

section Logs

variable {l l' : ConversationStore} {runId : RowId} {events : List ServiceEvent}

theorem lifeOf_append (before after : List ServiceEvent) :
    lifeOf (before ++ after) = lifeOf before ++ lifeOf after := by
  simp [lifeOf]

/-- Events that do not tell how a run goes tell nothing of its life. -/
theorem lifeOf_silent (h : ∀ e ∈ events, ¬ e.ofRun) : lifeOf events = [] := by
  rw [lifeOf, List.map_eq_nil_iff, List.filter_eq_nil_iff]
  intro e he hlife
  apply h e he
  simp only [ServiceEvent.ofLife, ServiceEvent.ofRun, decide_eq_true_eq] at hlife ⊢
  simp only [List.mem_cons, List.not_mem_nil, or_false] at hlife ⊢
  rcases hlife with h | h | h <;> simp [h]

/-- What a log tells of one run. -/
theorem lifeOf_run : (events.filter fun e => e.ofLife ∧ e.runId = some runId).map (·.eventType) =
    ((lifeOf events).filter (·.2 = some runId)).map (·.1) := by
  simp [lifeOf, List.filter_map, List.filter_filter, Function.comp_def, and_comm]

/-- A bracket depends on the state of its run only. -/
theorem bracket_congr (h : l'.runStateOf runId = l.runStateOf runId) :
    bracket l' runId = bracket l runId := by
  rw [bracket, bracket, h]

/-- Of a row of brackets, those of one run are its own. -/
theorem bracket_filter {runs : List RowId} (hnodup : runs.Nodup) (hmem : runId ∈ runs) :
    (runs.flatMap (bracket l)).filter (·.2 = some runId) = bracket l runId := by
  induction runs with
  | nil => cases hmem
  | cons r runs ih =>
    rw [List.nodup_cons] at hnodup
    rw [List.flatMap_cons, List.filter_append]
    by_cases hr : r = runId
    · subst hr
      have hrest : (runs.flatMap (bracket l)).filter (·.2 = some r) = [] := by
        rw [List.filter_eq_nil_iff]
        intro m hm
        obtain ⟨r', hr', hm⟩ := List.mem_flatMap.mp hm
        have hne : r' ≠ r := fun e => hnodup.1 (e ▸ hr')
        rcases List.mem_pair.mp hm with rfl | rfl <;> simpa using hne
      rw [hrest, List.append_nil]
      simp [bracket]
    · have hown : (bracket l r).filter (·.2 = some runId) = [] := by simp [bracket, hr]
      rw [hown, List.nil_append]
      exact ih hnodup.2 ((List.mem_cons.mp hmem).resolve_left (Ne.symm hr))

theorem RunState.endEvent_ne (q : RunState) : q.endEvent ≠ "run_started" := by
  cases q <;> decide

/-- A row of brackets ends with the end of a run. -/
theorem bracket_last {runs : List RowId} {m : String × Option RowId}
    (h : (runs.flatMap (bracket l)).getLast? = some m) : m.1 ≠ "run_started" := by
  rcases List.eq_nil_or_concat runs with rfl | ⟨runs, r, rfl⟩
  · cases h
  · rw [List.concat_eq_append, List.flatMap_append, List.flatMap_singleton, bracket,
      List.getLast?_append] at h
    injection h with h
    rw [← h]
    exact RunState.endEvent_ne _

/-- A browser that finds a run active has last heard of a run that began. -/
theorem activeRun_last (h : activeRun events = true) :
    ∃ e, (events.filter (·.ofLife)).getLast? = some e ∧ e.eventType = "run_started" := by
  induction events using List.reverseRecOn with
  | nil => cases h
  | append_singleton events e ih =>
    rw [activeRun, List.foldl_append] at h
    by_cases hstart : e.eventType = "run_started"
    · have hlife : e.ofLife = true := by simp [ServiceEvent.ofLife, hstart]
      exact ⟨e, by simp [hlife], hstart⟩
    by_cases hend : e.eventType = "run_succeeded" ∨ e.eventType = "run_failed"
    · simp [activeRunAfter, hstart, hend] at h
    · have hlife : e.ofLife = false := by
        simp only [not_or] at hend
        simp [ServiceEvent.ofLife, hstart, hend]
      simp only [List.foldl_cons, List.foldl_nil, activeRunAfter, hstart, hend, if_false] at h
      have hbefore : activeRun events = true := by
        split at h
        · cases h
        · exact h
      obtain ⟨last, hlast, htype⟩ := ih hbefore
      exact ⟨last, by simp [hlife, hlast], htype⟩

end Logs

/-- The run has ended untold. -/
def JournalPoint.Lost (p : JournalPoint) : Prop := ∃ runId caseId, p = .lost runId caseId

/-! ### The invariant -/

/-- The run that is open, and what the log tells of it. -/
def JournalPoint.openRun : JournalPoint → Option RowId
  | opened runId _ _ | acting runId _ _ => some runId
  | _ => none

def JournalPoint.openBracket (p : JournalPoint) : List (String × Option RowId) :=
  (p.openRun.map fun runId => ("run_started", some runId)).toList

/-- The log, with what is still to be told, is a row of brackets and at most one that is open. -/
structure LifeInv (l : ConversationStore) (p : JournalPoint) (runs : List RowId) : Prop where
  nodup : runs.Nodup
  ended : ∀ r ∈ runs, RunEnded l r
  fresh : ∀ r ∈ p.openRun, r ∉ runs
  log : lifeOf (l.events ++ p.due) = runs.flatMap (bracket l) ++ p.openBracket

section Invariant

variable {l l' : ConversationStore} {runId : RowId} {co : Option RowId} {p : JournalPoint}
  {runs : List RowId} {q : RunState}

/-- Runs that are left alone keep their brackets. -/
theorem LifeInv.runs_congr (h : LifeInv l p runs)
    (hsame : ∀ r ∈ runs, l'.runStateOf r = l.runStateOf r) :
    (∀ r ∈ runs, RunEnded l' r) ∧ runs.flatMap (bracket l') = runs.flatMap (bracket l) := by
  refine ⟨fun r hr => ?_, List.flatMap_congr fun r hr => bracket_congr (hsame r hr)⟩
  rw [RunEnded, hsame r hr]
  exact h.ended r hr

/-- Events that do not tell how a run goes change nothing. -/
theorem LifeInv.appends {events : List ServiceEvent} (h : LifeInv l p runs)
    (happends : AppendsEvents events l l') (hsilent : ∀ e ∈ events, ¬ e.ofRun) : LifeInv l' p runs := by
  obtain ⟨hended, hbrackets⟩ := h.runs_congr fun r _ => congrFun happends.runs r
  refine ⟨h.nodup, hended, h.fresh, ?_⟩
  rw [hbrackets, ← h.log, happends.events, lifeOf_append, lifeOf_append, lifeOf_append,
    lifeOf_silent hsilent, List.append_nil]

/-- An event that was due is appended. -/
theorem LifeInv.tells {p' : JournalPoint} {e : ServiceEvent} (h : LifeInv l p runs)
    (happends : AppendsEvents [e] l l') (hdue : p.due = e :: p'.due) (hopen : p'.openRun = p.openRun) :
    LifeInv l' p' runs := by
  obtain ⟨hended, hbrackets⟩ := h.runs_congr fun r _ => congrFun happends.runs r
  refine ⟨h.nodup, hended, hopen ▸ h.fresh, ?_⟩
  rw [JournalPoint.openBracket, hopen, hbrackets, ← JournalPoint.openBracket, ← h.log,
    happends.events, hdue, List.append_assoc, List.singleton_append]

/-- The open run moves on. -/
theorem LifeInv.becomes (h : LifeInv l p runs) (hopen : p.openRun = some runId)
    (hbecomes : RunBecomes runId q l l') : LifeInv l' p runs := by
  have hne : ∀ r ∈ runs, r ≠ runId := by
    intro s hs e
    exact h.fresh s (e ▸ hopen) hs
  obtain ⟨hended, hbrackets⟩ := h.runs_congr fun r hr => hbecomes.others r (hne r hr)
  exact ⟨h.nodup, hended, h.fresh, by rw [hbrackets, hbecomes.events, h.log]⟩

/-- A run is queued that was not known before. -/
theorem LifeInv.queues (h : LifeInv l .blank runs) (hnew : l.runStateOf runId = none)
    (hbecomes : RunBecomes runId .queued l l') :
    LifeInv l' (.opened runId co [.runStarted runId co]) runs := by
  have hne : ∀ r ∈ runs, r ≠ runId := by
    intro r hr e
    have hended := h.ended r hr
    rw [RunEnded, e, hnew] at hended
    rcases hended with hended | hended <;> cases hended
  obtain ⟨hended, hbrackets⟩ := h.runs_congr fun r hr => hbecomes.others r (hne r hr)
  refine ⟨h.nodup, hended, ?_, ?_⟩
  · intro r hopen hr
    exact hne r hr (Option.some.inj hopen).symm
  · have hlog := h.log
    rw [show (JournalPoint.blank).due = [] from rfl, List.append_nil] at hlog
    rw [hbrackets, hbecomes.events, lifeOf_append, hlog]
    simp [JournalPoint.due, JournalPoint.openBracket, JournalPoint.openRun, lifeOf,
      ServiceEvent.ofLife, ServiceEvent.runStarted]

/-- The open run ends, and what is due tells so. -/
theorem LifeInv.closes {due : List ServiceEvent} (h : LifeInv l p runs)
    (hopen : p.openRun = some runId) (hnothing : p.due = [])
    (hq : q = .succeeded ∨ q = .failed) (hbecomes : RunBecomes runId q l l')
    (hdue : lifeOf due = [(q.endEvent, some runId)]) :
    LifeInv l' (.closed runId co due) (runs ++ [runId]) := by
  have hmoved := h.becomes hopen hbecomes
  have hfresh := h.fresh runId hopen
  refine ⟨?_, ?_, ?_, ?_⟩
  · rw [List.nodup_append]
    refine ⟨h.nodup, List.nodup_singleton _, ?_⟩
    rintro r hr _ hr' rfl
    exact hfresh (List.mem_singleton.mp hr' ▸ hr)
  · intro r hr
    rcases List.mem_append.mp hr with hr | hr
    · exact hmoved.ended r hr
    · rw [List.mem_singleton.mp hr, RunEnded, hbecomes.state]
      exact hq.imp (congrArg some) (congrArg some)
  · simp [JournalPoint.openRun]
  · have hlog := hmoved.log
    rw [hnothing, List.append_nil, JournalPoint.openBracket, hopen] at hlog
    rw [show (JournalPoint.closed runId co due).due = due from rfl, lifeOf_append, hlog, hdue,
      List.flatMap_append, List.flatMap_singleton, bracket, hbecomes.state]
    simp [JournalPoint.openBracket, JournalPoint.openRun]

/-- What is due when a run has ended tells its end. -/
theorem lifeOf_dueAfterOutcome {caseId : RowId} {fault : Option ActionFixtureFault} :
    lifeOf (dueAfterOutcome runId caseId fault) = [("run_succeeded", some runId)] := by
  rw [dueAfterOutcome, lifeOf_append]
  have hfailed : lifeOf ((fault.filter (·.actionState ≠ .uncertain)).map
      (ServiceEvent.actionFailed runId (some caseId))).toList = [] := by
    cases fault.filter (·.actionState ≠ .uncertain) with
    | none => rfl
    | some f => simp [lifeOf, ServiceEvent.ofLife, ServiceEvent.actionFailed]
  rw [hfailed]
  simp [lifeOf, ServiceEvent.ofLife, ServiceEvent.runSucceeded]

variable {settings : Settings} {k : String} {label : Label} {p' : JournalPoint}
  {x y : ServiceState}

/-- What a move of the journal keeps. -/
theorem JournalMove.lifeInv (h : JournalMove settings k label p x p' y)
    (hnew : x.1.runStateOf ⟨k, x.1.nextSerial⟩ = none)
    (hlife : LifeInv x.1 p runs) (hlost : ¬ p'.Lost) : ∃ runs', LifeInv y.1 p' runs' := by
  cases h with
  | same hsame _ => exact ⟨runs, hsame ▸ hlife⟩
  | quiet _ happends _ hsilent => exact ⟨runs, hlife.appends happends fun e he => (hsilent e he).1⟩
  | gate _ happends _ hsilent => exact ⟨runs, hlife.appends happends hsilent⟩
  | note happends _ hsilent =>
    refine ⟨runs, hlife.appends happends fun e he => ?_⟩
    rw [List.mem_singleton.mp he]
    exact hsilent.1
  | tellOpened happends => exact ⟨runs, hlife.tells happends rfl rfl⟩
  | tellClosed happends => exact ⟨runs, hlife.tells happends rfl rfl⟩
  | queue _ hbecomes => exact ⟨runs, hlife.queues hnew hbecomes⟩
  | start hbecomes => exact ⟨runs, hlife.becomes rfl hbecomes⟩
  | bind happends =>
    have h := hlife.appends happends (by simp)
    exact ⟨runs, h.nodup, h.ended, h.fresh, h.log⟩
  | finish _ hbecomes =>
    exact ⟨_, hlife.closes rfl rfl (.inl rfl) hbecomes
      (by simp [lifeOf, ServiceEvent.ofLife, ServiceEvent.runSucceeded, RunState.endEvent])⟩
  | submit happends =>
    have h := hlife.appends happends (by simp)
    exact ⟨runs, h.nodup, h.ended, h.fresh, h.log⟩
  | outcome hbecomes =>
    exact ⟨_, hlife.closes rfl rfl (.inl rfl) hbecomes lifeOf_dueAfterOutcome⟩
  | fail hbecomes =>
    exact ⟨_, hlife.closes rfl rfl (.inr rfl) hbecomes
      (by simp [lifeOf, ServiceEvent.ofLife, ServiceEvent.runFailed, RunState.endEvent])⟩
  | lose => exact absurd ⟨_, _, rfl⟩ hlost

/-- Nothing is left to be told. -/
theorem LifeInv.rests (h : LifeInv l (.closed runId co []) runs) : LifeInv l .blank runs :=
  ⟨h.nodup, h.ended, by simp [JournalPoint.openRun], h.log⟩

/-- A row of brackets tells every run that began. -/
theorem LifeInv.told (h : LifeInv l .blank runs) : RunsTold l := by
  have hlog : lifeOf l.events = runs.flatMap (bracket l) := by
    have hlog := h.log
    simpa [JournalPoint.due, JournalPoint.openBracket, JournalPoint.openRun] using hlog
  have hlast : ∀ e, (l.events.filter (·.ofLife)).getLast? = some e →
      e.eventType ≠ "run_started" := by
    intro e he
    have hlast : (runs.flatMap (bracket l)).getLast? = some (e.eventType, e.runId) := by
      rw [← hlog, lifeOf, List.getLast?_map, he]
      rfl
    exact bracket_last hlast
  refine ⟨fun e he hstart => ?_, hlast, ?_⟩
  · have hmem : (e.eventType, e.runId) ∈ lifeOf l.events :=
      List.mem_map_of_mem (List.mem_filter.mpr ⟨he, by simp [ServiceEvent.ofLife, hstart]⟩)
    rw [hlog, List.mem_flatMap] at hmem
    obtain ⟨runId, hrun, hmem⟩ := hmem
    have hown : e.runId = some runId := by
      rcases List.mem_pair.mp hmem with heq | heq
      · exact congrArg Prod.snd heq
      · exact absurd ((congrArg Prod.fst heq).symm.trans hstart) (RunState.endEvent_ne _)
    have hended := h.ended runId hrun
    cases hrow : l.runs runId with
    | none => simp [RunEnded, ConversationStore.runStateOf, hrow] at hended
    | some row =>
      have hstate : l.runStateOf runId = some row.runState := by
        rw [ConversationStore.runStateOf, hrow]
        rfl
      refine ⟨runId, row, hown, hrow, ?_, ?_⟩
      · rw [RunEnded, hstate] at hended
        exact hended.imp Option.some.inj Option.some.inj
      · rw [lifeOf_run, hlog, bracket_filter h.nodup hrun, bracket, hstate]
        rfl
  · rw [← Bool.not_eq_true]
    intro hactive
    obtain ⟨e, he, hstart⟩ := activeRun_last hactive
    exact hlast e he hstart

end Invariant

/-! ### Every run -/

variable [ProofDigest] [ResultDigest] [IdText] [TraceVolume] [FactDigest]
  [CaseFolding] [EvidenceDigest] [MessageRedaction]

/-- A step after which its run can still be told: no classifier failed, and no write is refused. -/
def StepTold (settings : Settings) (_ : String) (label : Label) (x : ServiceState) : Prop :=
  (∀ eventType, label = .fail eventType → eventType = "run_failed") ∧
    ∀ actionId, label = .submit actionId → WriteAccepted settings actionId x

/-- What is told while a call is in progress. -/
def Telling (_ : String) (γ : Phase × JournalPoint) (l : ConversationStore) : Prop :=
  γ.1 ≠ .stranded ∧ ¬ γ.2.Lost ∧ ∃ runs, LifeInv l γ.2 runs

variable {settings : Settings}

theorem JournalPoint.not_lost_blank : ¬ JournalPoint.blank.Lost := by
  rintro ⟨_, _, hlost⟩
  cases hlost

/-- Only a run that fails by another name is lost. -/
theorem JournalMove.not_lost {k : String} {label : Label} {p p' : JournalPoint}
    {x y : ServiceState} (h : JournalMove settings k label p x p' y)
    (hname : ∀ eventType, label = .fail eventType → eventType = "run_failed") (hp : ¬ p.Lost) :
    ¬ p'.Lost := by
  cases h with
  | same | quiet | gate | note => exact hp
  | lose other becomes => exact absurd (hname _ rfl) other
  | _ =>
    rintro ⟨_, _, hlost⟩
    cases hlost

/-- Every move keeps the row of brackets. -/
theorem telling_preserved :
    Preserved (watch settings) SharedState.Drifts (StepTold settings)
      fun k γ l _ => Telling k γ l := by
  refine Preserved.of_own ?_ ?_
  · rintro k label ⟨γ, p⟩ ⟨γ', p'⟩ x y hinv ⟨hγ, hp, runs, hlife⟩ ⟨hname, haccepted⟩
      ⟨hmove, hjournal⟩
    have hp' := hjournal.not_lost hname hp
    exact ⟨hmove.not_stranded hinv.1.2.1 haccepted hγ, hp',
      hjournal.lifeInv hinv.1.1.runStateOf_new hlife hp'⟩
  · rintro k ⟨γ, p⟩ l s a ⟨hended, hover⟩ hinv ⟨hγ, hp, runs, hlife⟩
    refine ⟨nofun, JournalPoint.not_lost_blank, runs, ?_⟩
    cases a with
    | ok r =>
      obtain ⟨runId, caseId, rfl⟩ := hover
      exact hlife.rests
    | error e =>
      rcases hended with ⟨-, happlication⟩ | hstranded
      · rcases hover happlication with rfl | ⟨runId, caseId, rfl | rfl⟩
        · exact hlife
        · exact hlife.rests
        · exact absurd ⟨_, _, rfl⟩ hp
      · exact absurd hstranded hγ

/-- At rest every run of a conversation is told, when no classifier failed and no write was
    refused. -/
theorem runs_told {g : ServiceConfig} (hreach : ServiceReaches settings (StepTold settings) g)
    {k : String} (hrest : g.AtRest k) : RunsTold (g.stores k) := by
  have hfresh : ∀ k customerId (s : SharedState),
      Telling k (.idle, .blank) (.created customerId) := fun k customerId s =>
    ⟨nofun, JournalPoint.not_lost_blank, [], List.nodup_nil, by simp,
      by simp [JournalPoint.openRun], rfl⟩
  obtain ⟨-, -, runs, hlife⟩ := hreach.watched_atRest telling_preserved hfresh hrest
  exact hlife.told

end AfterSales

/-! ### A classifier that answers, and one that fails -/

namespace AfterSales.Session

section Lifecycle

attribute [local instance] PolicyDigest.bySource ProofDigest.byId ResultDigest.byName
  IdText.spelled FactDigest.byMessage CaseFolding.lower EvidenceDigest.byResults
  MessageRedaction.none TraceVolume.one

/-- A message that leads to a proposal. -/
def lateReport : Visit :=
  ⟨0, .submitMessage "my parcel is late" (providersOf (some reportLate) everyRead)⟩

/-- A message whose classifier fails. -/
def failedTriage : Visit := ⟨0, .submitMessage "help" (providersOf none [])⟩

theorem untroubled_told {label : Label} {x : ServiceState} {k : String}
    (h : untroubled label = true) : StepTold demoSettings k label x := by
  refine ⟨?_, ?_⟩
  · rintro eventType rfl
    cases h
  · rintro actionId rfl
    cases h

theorem lateReport_told :
    RunsTold ((session demoSettings "CONV-1" "CUS-1" (demoShared fun _ => []) [lateReport]).stores
      "CONV-1") := by
  have hsteps : (Visit.steps demoSettings "CONV-1" [lateReport]
      (.created (some "CUS-1"), demoShared fun _ => [])).all (untroubled ·.1) = true := by
    decide +kernel
  exact runs_told (session_reaches (demoShared_fresh _) [lateReport] fun step hstep =>
    untroubled_told (List.all_eq_true.mp hsteps step hstep)) (session_atRest _ _)

/-- The classifier fails, and the browser waits for the end of a run that has ended. -/
theorem failedTriage_untold :
    let g := session demoSettings "CONV-1" "CUS-1" (demoShared fun _ => []) [failedTriage]
    ServiceReaches demoSettings (fun _ _ _ => True) g ∧ g.AtRest "CONV-1" ∧
      activeRun (g.stores "CONV-1").events = true ∧ ¬ RunsTold (g.stores "CONV-1") := by
  have hactive : activeRun ((session demoSettings "CONV-1" "CUS-1" (demoShared fun _ => [])
      [failedTriage]).stores "CONV-1").events = true := by
    rw [session_store]
    decide +kernel
  refine ⟨session_reaches (demoShared_fresh _) _ fun _ _ => trivial, session_atRest _ _, hactive,
    fun htold => ?_⟩
  rw [htold.composer] at hactive
  cases hactive

end Lifecycle

end AfterSales.Session
