import AfterSales.Application.Naming
import AfterSales.Application.TurnBound

/-! The checkpoint threads of the passes, over the whole life of a demo.

    Each call of `investigate` runs the graph on a thread of its own name, and the checkpointer
    keeps what the thread was left with. The callers number the passes of a run in three ways:

        a new case, a retry    <case>:<run>:pass-0
        a reply                <case>:<run>:pass-<questions asked>
        a revised issue        <case>:<run>:pass-1

    so a reply to the first question and the revision that follows it in the same run have one
    thread. A reset deletes threads named `<case>:<run>`, which no pass has. -/

set_option linter.unusedSectionVars false

namespace AfterSales
open Interleave Repository

/-! ### Threads -/

/-- A call of `investigate`. -/
structure PassCall where
  caseId : RowId
  runId : RowId
  investigationPass : Nat
  deriving DecidableEq, Repr

/-- The pass that the graph is invoked for in a step. -/
def Label.passCall : Label → Option PassCall
  | .explore caseId runId investigationPass => some ⟨caseId, runId, investigationPass⟩
  | _ => none

section Threads

variable [IdText]

/-- `thread_id`: the checkpoint thread of a pass. -/
def PassCall.threadId (p : PassCall) : String :=
  IdText.row p.caseId ++ ":" ++ IdText.row p.runId ++ ":pass-" ++ toString p.investigationPass

/-- The thread that a reset deletes for a run of a case. -/
def resetThread (caseId runId : RowId) : String :=
  IdText.row caseId ++ ":" ++ IdText.row runId

/-- `_new_id` writes hexadecimal digits after its own word: no id has a colon. -/
class PlainIds : Prop where
  row : ∀ id, ':' ∉ (IdText.row id).toList

/-- A text is told from what follows its first colon. -/
theorem append_colon_inj {a b r s : List Char} (ha : ':' ∉ a) (hb : ':' ∉ b)
    (h : a ++ ':' :: r = b ++ ':' :: s) : a = b ∧ r = s := by
  induction a generalizing b with
  | nil =>
    cases b with
    | nil => exact ⟨rfl, (List.cons.inj h).2⟩
    | cons c b => exact absurd (List.cons.inj h).1 fun e => hb (e ▸ List.mem_cons_self)
  | cons c a ih =>
    cases b with
    | nil => exact absurd (List.cons.inj h).1 fun e => ha (e ▸ List.mem_cons_self)
    | cons d b =>
      obtain ⟨rfl, hrest⟩ := List.cons.inj h
      obtain ⟨rfl, hr⟩ := ih (fun hc => ha (List.mem_cons_of_mem _ hc))
        (fun hc => hb (List.mem_cons_of_mem _ hc)) hrest
      exact ⟨rfl, hr⟩

theorem PassCall.threadId_toList (p : PassCall) : p.threadId.toList =
    (IdText.row p.caseId).toList ++ ':' :: ((IdText.row p.runId).toList ++
      ':' :: ("pass-".toList ++ Nat.toDigits 10 p.investigationPass)) := by
  simp [threadId, Nat.toString_eq_repr, Nat.toList_repr]

/-- Different passes have different threads. -/
theorem PassCall.threadId_injective [PlainIds] : Function.Injective PassCall.threadId := by
  rintro ⟨c, r, m⟩ ⟨d, q, n⟩ h
  have hlist := congrArg String.toList h
  rw [threadId_toList, threadId_toList] at hlist
  obtain ⟨hcase, hlist⟩ := append_colon_inj (PlainIds.row c) (PlainIds.row d) hlist
  obtain ⟨hrun, hlist⟩ := append_colon_inj (PlainIds.row r) (PlainIds.row q) hlist
  have hdigits := List.append_cancel_left hlist
  have hnumber : m = n := by
    rw [← Nat.ofDigitChars_ten_toDigits (n := m), hdigits, Nat.ofDigitChars_ten_toDigits]
  rw [IdText.row_injective (String.toList_inj.mp hcase),
    IdText.row_injective (String.toList_inj.mp hrun), hnumber]

/-- No pass has a thread that a reset deletes. -/
theorem PassCall.threadId_ne_resetThread [PlainIds] (p : PassCall) (caseId runId : RowId) :
    p.threadId ≠ resetThread caseId runId := by
  intro h
  have hlist := congrArg String.toList h
  have hreset : (resetThread caseId runId).toList =
      (IdText.row caseId).toList ++ ':' :: (IdText.row runId).toList := by
    simp [resetThread]
  rw [PassCall.threadId_toList, hreset] at hlist
  obtain ⟨-, hrun⟩ := append_colon_inj (PlainIds.row _) (PlainIds.row _) hlist
  exact PlainIds.row runId (hrun ▸ by simp)

end Threads

/-! ### One call -/

variable [PolicyDigest] [ProofDigest] [ResultDigest] [IdText] [TraceVolume] [FactDigest]
  [CaseFolding] [EvidenceDigest] [MessageRedaction]

variable {settings : Settings} {k : String} {l₀ l l' : ConversationStore} {label : Label}
  {γ γ' : Phase} {x y : ServiceState} {steps : List (Label × ServiceState)}
  {passes : List PassCall}

/-- The passes that the steps of a call invoke. -/
def passCalls (steps : List (Label × ServiceState)) : List PassCall :=
  steps.filterMap (·.1.passCall)

theorem passCalls_append : passCalls (steps ++ [(label, x)]) =
    passCalls steps ++ label.passCall.toList := by
  rw [passCalls, List.filterMap_append]
  cases h : label.passCall <;> simp [passCalls, h]

/-- The questions that were asked of a case that waits for an answer. -/
def ConversationStore.questionsAsked (l : ConversationStore) : Nat :=
  (l.activeCase.filter (·.2.row.caseState = .awaitingCustomerInput)).elim 0
    (·.2.row.businessClarificationCount)

/-- A run that was queued since a call found `l₀`. -/
structure OwnRun (k : String) (l₀ l : ConversationStore) (runId : RowId) : Prop where
  conversation : runId.conversationId = k
  later : l₀.nextSerial ≤ runId.serial
  drawn : runId.serial < l.nextSerial

/-- The passes of one run: none, one that is numbered after the questions asked, or that one and
    the one of a revised issue. -/
def Invoked (k : String) (l₀ l : ConversationStore) (passes : List PassCall) : Prop :=
  passes = [] ∨ ∃ c r, OwnRun k l₀ l r ∧ (passes = [⟨c, r, l₀.questionsAsked⟩] ∨
    passes = [⟨c, r, l₀.questionsAsked⟩, ⟨c, r, 1⟩])

/-- What is known of the passes in each phase of a call that found `l₀`. -/
def PassesKnown (k : String) (l₀ l : ConversationStore) (passes : List PassCall) : Phase → Prop
  | .noted runId _ _ => passes = [] ∧ OwnRun k l₀ l runId ∧ l₀.questionsAsked = 0
  | .replying runId _ _ asked => passes = [] ∧ OwnRun k l₀ l runId ∧ asked = l₀.questionsAsked
  | .working runId c _ pass _ number => OwnRun k l₀ l runId ∧
      ((pass = 0 ∧ passes = [] ∧ number = l₀.questionsAsked) ∨
        (pass ≠ 0 ∧ passes = [⟨c, runId, l₀.questionsAsked⟩] ∧ number = 1))
  | .exploring runId c pass _ _ _ | .answered runId c pass _ _ => OwnRun k l₀ l runId ∧
      ((pass = 0 ∧ passes = [⟨c, runId, l₀.questionsAsked⟩]) ∨
        (pass ≠ 0 ∧ passes = [⟨c, runId, l₀.questionsAsked⟩, ⟨c, runId, 1⟩]))
  | _ => Invoked k l₀ l passes

theorem OwnRun.mono {runId : RowId} (h : OwnRun k l₀ l runId)
    (hserial : l.nextSerial ≤ l'.nextSerial) : OwnRun k l₀ l' runId :=
  ⟨h.conversation, h.later, h.drawn.trans_le hserial⟩

theorem Invoked.mono (h : Invoked k l₀ l passes) (hserial : l.nextSerial ≤ l'.nextSerial) :
    Invoked k l₀ l' passes :=
  h.imp_right fun ⟨c, r, hown, hpasses⟩ => ⟨c, r, hown.mono hserial, hpasses⟩

/-- What is known goes on holding while the phase lasts. -/
theorem PassesKnown.mono (h : PassesKnown k l₀ l passes γ)
    (hserial : l.nextSerial ≤ l'.nextSerial) : PassesKnown k l₀ l' passes γ := by
  cases γ with
  | noted | replying => exact ⟨h.1, h.2.1.mono hserial, h.2.2⟩
  | working | exploring | answered => exact ⟨h.1.mono hserial, h.2⟩
  | _ => exact Invoked.mono h hserial

/-- In every phase the passes are those of one run. -/
theorem PassesKnown.invoked (h : PassesKnown k l₀ l passes γ) : Invoked k l₀ l passes := by
  cases γ with
  | noted | replying => exact .inl h.1
  | working =>
    obtain ⟨hown, ⟨-, hpasses, -⟩ | ⟨-, hpasses, -⟩⟩ := h
    · exact .inl hpasses
    · exact .inr ⟨_, _, hown, .inl hpasses⟩
  | exploring | answered =>
    obtain ⟨hown, ⟨-, hpasses⟩ | ⟨-, hpasses⟩⟩ := h
    · exact .inr ⟨_, _, hown, .inl hpasses⟩
    · exact .inr ⟨_, _, hown, .inr hpasses⟩
  | _ => exact h

namespace ConversationStore

variable {c : RowId} {f : CaseFolder}

/-- A conversation without an open case has asked nothing, -/
theorem questionsAsked_inactive (h : l.activeCaseId = none) : l.questionsAsked = 0 := by
  simp [questionsAsked, activeCase, h]

/-- nor has one whose case does not wait for an answer, -/
theorem questionsAsked_busy (h : l.activeCase = some (c, f))
    (hstate : f.row.caseState ≠ .awaitingCustomerInput) : l.questionsAsked = 0 := by
  rw [questionsAsked, h, Option.filter_some, if_neg (by simpa using hstate)]
  rfl

/-- and one that waits has asked as often as the case says. -/
theorem questionsAsked_waiting (h : l.activeCase = some (c, f))
    (hstate : f.row.caseState = .awaitingCustomerInput) :
    l.questionsAsked = f.row.businessClarificationCount := by
  rw [questionsAsked, h, Option.filter_some, if_pos (by simpa using hstate)]
  rfl

end ConversationStore

/-- A run that is queued is of the call that queues it. -/
theorem OwnRun.queued (hserial : l₀.nextSerial ≤ l.nextSerial)
    (hdrawn : l.nextSerial < l'.nextSerial) : OwnRun k l₀ l' ⟨k, l.nextSerial⟩ :=
  ⟨rfl, hserial, hdrawn⟩

/-- What a move on a case makes of the passes. -/
theorem CaseMove.passesKnown {caseId runId : RowId} {s s' : SharedState} {f f' : CaseFolder}
    {row row' : RunRow} {drawn : Bool}
    (h : CaseMove settings caseId runId l s f row label γ drawn γ' s' f' row')
    (hserial : l.nextSerial ≤ l'.nextSerial) (hknown : PassesKnown k l₀ l passes γ) :
    label.passCall = none ∧ PassesKnown k l₀ l' passes γ' := by
  have hinvoked := hknown.invoked.mono hserial
  cases h with
  | revise =>
    obtain ⟨hown, ⟨-, hpasses⟩ | ⟨hpass, -⟩⟩ := hknown
    · exact ⟨rfl, hown.mono hserial, .inr ⟨by decide, hpasses, rfl⟩⟩
    · exact absurd rfl hpass
  | resume =>
    obtain ⟨hpasses, hown, hasked⟩ := hknown
    exact ⟨rfl, hown.mono hserial, .inl ⟨rfl, hpasses, hasked⟩⟩
  | drop _ _ _ why => exact ⟨by cases why <;> rfl, hinvoked⟩
  | _ => exact ⟨rfl, hinvoked⟩

/-- Every step of a call goes on with what is known of its passes. -/
theorem Move.passesKnown (h : Move settings k label γ x γ' y) (hinv : StoreInv k x.1)
    (hserial : l₀.nextSerial ≤ x.1.nextSerial)
    (hfirst : γ = .idle → γ' ≠ .idle →
      passes = [] ∧ l₀.questionsAsked = x.1.questionsAsked)
    (hknown : PassesKnown k l₀ x.1 passes γ) :
    PassesKnown k l₀ y.1 (passes ++ label.passCall.toList) γ' := by
  have hle := h.nextSerial_le
  have hkept := hknown.mono hle
  have hinvoked := hkept.invoked
  have hskip : ∀ {δ}, label.passCall = none → PassesKnown k l₀ y.1 passes δ →
      PassesKnown k l₀ y.1 (passes ++ label.passCall.toList) δ := by
    intro δ hnone hδ
    rwa [hnone, Option.toList_none, List.append_nil]
  cases h with
  | look kind => exact hskip (by cases label <;> first | rfl | cases kind) hkept
  | load kind => exact hskip (by rcases kind with rfl | rfl <;> rfl) hkept
  | note | route | superstep | stumble => exact hskip rfl hkept
  | hold kind => exact hskip (by rcases kind with rfl | rfl <;> rfl) hkept
  | refuse | fail | answer | strand => exact hskip rfl hinvoked
  | evaluate | resumeGate => exact hskip rfl hkept
  | tell e about carries visible ordinary known tells =>
    cases tells with
    | working => exact hskip rfl hkept
    | _ => exact hskip rfl hinvoked
  | receive content inactive =>
    obtain ⟨rfl, hasked⟩ := hfirst rfl (by simp)
    exact ⟨rfl, .queued hserial (Nat.lt_succ_of_lt (Nat.lt_succ_self _)),
      hasked.trans (ConversationStore.questionsAsked_inactive inactive)⟩
  | reply content stored state =>
    obtain ⟨rfl, hasked⟩ := hfirst rfl (by simp)
    have hactive := hinv.activeCase_of stored (by simp [state])
    exact ⟨rfl, .queued hserial (Nat.lt_succ_of_lt (Nat.lt_succ_self _)),
      (hasked.trans (ConversationStore.questionsAsked_waiting hactive state)).symm⟩
  | review | retryAction =>
    obtain ⟨rfl, -⟩ := hfirst rfl (by simp)
    exact .inl rfl
  | begin starts =>
    cases starts with
    | noted | replying | working => exact hskip rfl hkept
    | reviewing | executing => exact hskip rfl hinvoked
  | openCase =>
    obtain ⟨rfl, hown, hasked⟩ := hkept
    exact ⟨hown, .inl ⟨rfl, rfl, hasked.symm⟩⟩
  | facts kind facts =>
    refine hskip (by rcases kind with rfl | rfl | rfl <;> rfl) ?_
    cases facts <;> exact hkept
  | start begins stored from_ =>
    cases begins with
    | replying =>
      obtain ⟨rfl, hown, rfl⟩ := hkept
      exact ⟨hown, .inl ⟨rfl, rfl⟩⟩
    | working =>
      obtain ⟨hown, ⟨rfl, rfl, rfl⟩ | ⟨hpass, rfl, rfl⟩⟩ := hkept
      · exact ⟨hown, .inl ⟨rfl, rfl⟩⟩
      · exact ⟨hown, .inr ⟨hpass, rfl⟩⟩
  | retry stored state actions =>
    obtain ⟨rfl, hasked⟩ := hfirst rfl (by simp)
    have hactive := hinv.activeCase_of stored (by simp [state])
    exact ⟨.queued hserial (Nat.lt_succ_self _), .inl ⟨rfl, rfl,
      (hasked.trans (ConversationStore.questionsAsked_busy hactive (by simp [state]))).symm⟩⟩
  | change folder run move =>
    obtain ⟨hnone, hknown'⟩ := move.passesKnown hle hknown
    exact hskip hnone hknown'

/-- While no run is queued nothing is invoked, and the case stays as it is. -/
theorem Move.idles (h : Move settings k label .idle x .idle y) :
    label.passCall = none ∧ y.1.questionsAsked = x.1.questionsAsked := by
  cases h with
  | look kind => exact ⟨by (cases label <;> first | rfl | cases kind), rfl⟩
  | note => exact ⟨rfl, rfl⟩
  | load _ facts => cases facts
  | tell _ _ _ _ _ _ tells => cases tells
  | begin starts => cases starts
  | refuse refusable => cases refusable
  | facts _ facts => cases facts
  | change folder run move => cases move

/-- What is known of the passes of a call whose journal is kept. -/
structure PassesNumbered (k : String) (l₀ : ConversationStore) (steps : List (Label × ServiceState))
    (γ : Phase × JournalPoint) (l : ConversationStore) : Prop where
  serial : l₀.nextSerial ≤ l.nextSerial
  known : PassesKnown k l₀ l (passCalls steps) γ.1
  opened : γ.1 ≠ .idle ∨ passCalls steps ≠ [] → γ.2 ≠ .blank
  unchanged : γ.2 = .blank → l.questionsAsked = l₀.questionsAsked

theorem PassesNumbered.begin (k : String) (l : ConversationStore) :
    PassesNumbered k l [] (.idle, .blank) l where
  serial := le_rfl
  known := .inl rfl
  opened h := by
    rcases h with h | h
    · exact absurd rfl h
    · exact absurd rfl h
  unchanged _ := rfl

/-- Every step of a call goes on with it. -/
theorem PassesNumbered.step {γ γ' : Phase × JournalPoint} (hinv : (watch settings k).inv γ x.1 x.2)
    (h : PassesNumbered k l₀ steps γ x.1) (hmove : (watch settings k).move label γ x γ' y) :
    PassesNumbered k l₀ (steps ++ [(label, x)]) γ' y.1 := by
  obtain ⟨γ, p⟩ := γ
  obtain ⟨γ', p'⟩ := γ'
  obtain ⟨hmove, hnote⟩ := hmove
  have hqueues : γ = .idle → γ' ≠ .idle → p = .blank ∧ p' ≠ .blank := by
    rintro rfl hγ'
    obtain ⟨hlabel, hchanged⟩ := hmove.queues hγ'
    exact hnote.queues hlabel hchanged
  -- a journal that is blank has been blank, and the call has been idle
  have hblank : p' = .blank → p = .blank ∧ γ = .idle ∧ γ' = .idle := by
    intro hp'
    have hp : p = .blank := by
      by_contra hp
      exact hnote.opened hp hp'
    have hγ : γ = .idle := by
      by_contra hγ
      exact h.opened (Or.inl hγ) hp
    refine ⟨hp, hγ, ?_⟩
    by_contra hγ'
    exact (hqueues hγ hγ').2 hp'
  refine ⟨h.serial.trans hmove.nextSerial_le, ?_, fun hopened hp' => ?_, fun hp' => ?_⟩
  · rw [passCalls_append]
    refine hmove.passesKnown hinv.1.1 h.serial (fun hidle hγ' => ?_) h.known
    have hp := (hqueues hidle hγ').1
    refine ⟨?_, (h.unchanged hp).symm⟩
    by_contra hpasses
    exact h.opened (Or.inr hpasses) hp
  · obtain ⟨hp, rfl, rfl⟩ := hblank hp'
    rcases hopened with hγ' | hpasses
    · exact hγ' rfl
    · rw [passCalls_append, hmove.idles.1, Option.toList_none, List.append_nil] at hpasses
      exact h.opened (Or.inr hpasses) hp
  · obtain ⟨hp, rfl, rfl⟩ := hblank hp'
    exact hmove.idles.2.trans (h.unchanged hp)

/-! ### The life of a demo -/

/-- The service between two resets: its conversations, and what the calls have done. -/
structure Epoch where
  service : ServiceConfig
  doing : String → List (Label × ServiceState)
  log : List PastCall

namespace Epoch

variable (e : Epoch)

/-- The calls of a conversation, ended or in progress: what each has found, and its steps. -/
def calls (k : String) : List (ConversationStore × List (Label × ServiceState)) :=
  ((e.log.filter (·.key = k)).map fun past => (past.begun, past.steps)) ++
    ((e.service.calls k).map fun call => (call.begun, e.doing k)).toList

/-- The passes of a conversation, in order. -/
def invoked (k : String) : List PassCall := (e.calls k).flatMap fun call => passCalls call.2

/-- The threads that the passes have used. -/
def threads : Set String := {t | ∃ k, ∃ p ∈ e.invoked k, t = p.threadId}

/-- `reset_demo`: the threads that it deletes, from the rows of the runs. -/
def resetThreads : Set String := {t | ∃ k runId row caseId,
  (e.service.stores k).runs runId = some row ∧ row.caseId = some caseId ∧
    t = resetThread caseId runId}

/-- A run of a fresh service. -/
def Runs (settings : Settings) : Prop := ∃ g₀ : ServiceConfig, ServiceConfig.Fresh g₀ ∧
  Chronicles (Request.program settings) SharedState.Drifts (fun _ _ _ => True) g₀ e.service
    e.doing e.log

end Epoch

/-- The passes of one run are told apart by their numbers. -/
theorem Invoked.nodup_iff (h : Invoked k l₀ l passes) :
    passes.Nodup ↔ (l₀.questionsAsked = 1 → passes.length ≤ 1) := by
  rcases h with rfl | ⟨c, r, -, rfl | rfl⟩
  · simp
  · simp
  · simp

theorem Invoked.own (h : Invoked k l₀ l passes) {p : PassCall} (hp : p ∈ passes) :
    OwnRun k l₀ l p.runId := by
  rcases h with rfl | ⟨c, r, hown, rfl | rfl⟩
  · cases hp
  · rw [List.mem_singleton.mp hp]
    exact hown
  · rcases List.mem_pair.mp hp with rfl | rfl <;> exact hown

namespace Epoch

variable {e : Epoch}

/-- What is known of the calls of a conversation: the passes of each are those of one run, and the
    runs of a later call are later. -/
theorem Runs.calls (h : e.Runs settings) (k : String) :
    (∀ call ∈ e.calls k, ∃ l, Invoked k call.1 l (passCalls call.2)) ∧
      (e.calls k).Pairwise fun call later =>
        ∀ p ∈ passCalls call.2, ∀ q ∈ passCalls later.2, p.runId.serial < q.runId.serial := by
  obtain ⟨g₀, hfresh, hchronicle⟩ := h
  obtain ⟨hduring, hlog⟩ := hchronicle.calls (T := PassesNumbered)
    (fun k r l _ _ => Request.watched settings k r l) (watch_preserved settings _)
    (fun k l _ _ => PassesNumbered.begin k l) (fun hinv hknown _ hmove => hknown.step hinv hmove)
    hfresh.calls fun k => ⟨hfresh.inv k, trivial⟩
  have hpast : ∀ past ∈ e.log.filter (·.key = k), past.begun.nextSerial ≤ past.left.nextSerial ∧
      Invoked k past.begun past.left (passCalls past.steps) := by
    intro past hmem
    obtain ⟨hmem, hkey⟩ := List.mem_filter.mp hmem
    obtain ⟨γ, -, -, hknown⟩ := hlog past hmem
    rw [of_decide_eq_true hkey] at hknown
    exact ⟨hknown.serial, hknown.known.invoked⟩
  have hchain := hchronicle.chain hfresh.calls k
  have hgrows := fun past hmem => (hpast past hmem).1
  have hcurrent : ∀ call, e.service.calls k = some call →
      Invoked k call.begun (e.service.stores k) (passCalls (e.doing k)) := by
    intro call hcall
    obtain ⟨γ, -, hphase⟩ := hduring k
    simp only [hcall] at hphase
    exact hphase.2.known.invoked
  constructor
  · intro call hmem
    rcases List.mem_append.mp hmem with hmem | hmem
    · obtain ⟨past, hended, rfl⟩ := List.mem_map.mp hmem
      exact ⟨_, (hpast past hended).2⟩
    · obtain ⟨current, hcall, rfl⟩ := Option.map_eq_some_iff.mp (Option.mem_toList.mp hmem)
      exact ⟨_, hcurrent current hcall⟩
  · rw [Epoch.calls, List.pairwise_append, List.pairwise_map]
    refine ⟨?_, ?_, ?_⟩
    · have hpairs := hchain.pairwise_le (·.nextSerial) hgrows
      refine hpairs.imp_of_mem fun {past later} hmem hlater hle p hp q hq => ?_
      have hdrawn := ((hpast past hmem).2.own hp).drawn
      have hlater' := ((hpast later hlater).2.own hq).later
      exact (hdrawn.trans_le hle).trans_le hlater'
    · cases e.service.calls k <;> simp
    · intro call hmem later hlater p hp q hq
      obtain ⟨past, hended, rfl⟩ := List.mem_map.mp hmem
      obtain ⟨current, hcall, rfl⟩ := Option.map_eq_some_iff.mp (Option.mem_toList.mp hlater)
      have hle := hchain.left_le (·.nextSerial) hgrows hended
      simp only [Config.rested, hcall] at hle
      have hdrawn := ((hpast past hended).2.own hp).drawn
      have hlater' := ((hcurrent current hcall).own hq).later
      exact (hdrawn.trans_le hle).trans_le hlater'

/-- A run belongs to its conversation. -/
theorem Runs.conversation (h : e.Runs settings) {p : PassCall} (hp : p ∈ e.invoked k) :
    p.runId.conversationId = k := by
  obtain ⟨call, hcall, hp⟩ := List.mem_flatMap.mp hp
  obtain ⟨l, hinvoked⟩ := (h.calls k).1 call hcall
  exact (hinvoked.own hp).conversation

/-- The passes of a conversation differ, unless a call that answers a first question makes two. -/
theorem Runs.nodup_iff (h : e.Runs settings) (k : String) : (e.invoked k).Nodup ↔
    ∀ call ∈ e.calls k, call.1.questionsAsked = 1 → (passCalls call.2).length ≤ 1 := by
  obtain ⟨hcalls, hpairs⟩ := h.calls k
  rw [invoked, List.nodup_flatMap]
  constructor
  · rintro ⟨hnodup, -⟩ call hcall
    obtain ⟨l, hinvoked⟩ := hcalls call hcall
    exact hinvoked.nodup_iff.mp (hnodup call hcall)
  · intro hquestions
    refine ⟨fun call hcall => ?_, hpairs.imp fun {call later} hbefore => ?_⟩
    · obtain ⟨l, hinvoked⟩ := hcalls call hcall
      exact hinvoked.nodup_iff.mpr (hquestions call hcall)
    · intro p hp hp'
      exact lt_irrefl _ (hbefore p hp p hp')

end Epoch

/-- The life of a demo: epochs that a reset has ended, and the one that goes on. What a reset clears
    is not there any more for a call that it finds in progress, and conversations that are opened
    later have ids of their own. -/
structure DemoHistory (settings : Settings) where
  earlier : List Epoch
  current : Epoch
  runs : ∀ e ∈ earlier ++ [current], e.Runs settings
  newIds : (earlier ++ [current]).Pairwise fun e e' => ∀ k, e.calls k = [] ∨ e'.calls k = []

/-- The threads that the checkpointer holds after some epochs, each ended by a reset. -/
def checkpointsAfter (epochs : List Epoch) : Set String :=
  epochs.foldl (fun held e => (held ∪ e.threads) \ e.resetThreads) ∅

namespace DemoHistory

variable (h : DemoHistory settings)

/-- The epochs, the one that goes on being the last. -/
def epochs : List Epoch := h.earlier ++ [h.current]

/-- A call of `investigate`, by its epoch, its conversation and its place in it. -/
def passAt (place : Nat × String × Nat) : Option PassCall :=
  h.epochs[place.1]?.bind fun e => (e.invoked place.2.1)[place.2.2]?

/-- Distinct calls of `investigate` use different threads. -/
def ThreadsPrivate : Prop := ∀ a b p q, h.passAt a = some p → h.passAt b = some q →
  a ≠ b → p.threadId ≠ q.threadId

/-- After every reset no thread is left of the passes before it. -/
def ResetsClear : Prop := ∀ epochs, epochs <+: h.earlier → checkpointsAfter epochs = ∅

end DemoHistory

variable [PlainIds]

/-- A reset deletes no thread of a pass, -/
theorem Epoch.kept {e e' : Epoch} {t : String} (h : t ∈ e.threads) : t ∉ e'.resetThreads := by
  obtain ⟨-, p, -, rfl⟩ := h
  rintro ⟨-, runId, -, caseId, -, -, hreset⟩
  exact p.threadId_ne_resetThread caseId runId hreset

/-- so the checkpointer holds all that were used. -/
theorem mem_checkpointsAfter {epochs : List Epoch} {t : String} :
    t ∈ checkpointsAfter epochs ↔ ∃ e ∈ epochs, t ∈ e.threads := by
  induction epochs using List.reverseRecOn with
  | nil => simp [checkpointsAfter]
  | append_singleton epochs e ih =>
    have hafter : checkpointsAfter (epochs ++ [e]) =
        (checkpointsAfter epochs ∪ e.threads) \ e.resetThreads := by
      rw [checkpointsAfter, List.foldl_append]
      rfl
    rw [hafter, Set.mem_sdiff, Set.mem_union, ih]
    constructor
    · rintro ⟨⟨e', he', ht⟩ | ht, -⟩
      · exact ⟨e', List.mem_append_left _ he', ht⟩
      · exact ⟨e, by simp, ht⟩
    · rintro ⟨e', he', ht⟩
      refine ⟨?_, e'.kept ht⟩
      rcases List.mem_append.mp he' with he' | he'
      · exact Or.inl ⟨e', he', ht⟩
      · exact Or.inr (List.mem_singleton.mp he' ▸ ht)

namespace DemoHistory

variable (h : DemoHistory settings)

/-- Threads are private when the passes of each conversation differ. -/
theorem threadsPrivate_iff :
    h.ThreadsPrivate ↔ ∀ e ∈ h.epochs, ∀ k, (e.invoked k).Nodup := by
  constructor
  · intro hprivate e he k
    obtain ⟨i, hi⟩ := List.mem_iff_getElem?.mp he
    rw [List.nodup_iff_getElem?_ne_getElem?]
    intro m n hmn hn hsame
    have hget := List.getElem?_eq_getElem hn
    have hsecond : h.passAt (i, k, n) = some (e.invoked k)[n] := by
      rw [passAt, hi, Option.bind_some, hget]
    have hfirst : h.passAt (i, k, m) = some (e.invoked k)[n] := by
      rw [passAt, hi, Option.bind_some, hsame, hget]
    refine hprivate _ _ _ _ hfirst hsecond (fun heq => ?_) rfl
    exact hmn.ne (Prod.mk.inj (Prod.mk.inj heq).2).2
  · rintro hnodup ⟨i, k, m⟩ ⟨j, k', n⟩ p q hp hq hne hsame
    obtain rfl := PassCall.threadId_injective hsame
    obtain ⟨e, he, hp⟩ := Option.bind_eq_some_iff.mp hp
    obtain ⟨e', he', hq⟩ := Option.bind_eq_some_iff.mp hq
    have hmem := List.mem_iff_getElem?.mpr ⟨m, hp⟩
    have hmem' := List.mem_iff_getElem?.mpr ⟨n, hq⟩
    have hepoch := List.mem_iff_getElem?.mpr ⟨i, he⟩
    have hepoch' := List.mem_iff_getElem?.mpr ⟨j, he'⟩
    obtain rfl : k = k' := ((h.runs e hepoch).conversation hmem).symm.trans
      ((h.runs e' hepoch').conversation hmem')
    have hcalled : e.calls k ≠ [] := fun hnone => by simp [Epoch.invoked, hnone] at hmem
    have hcalled' : e'.calls k ≠ [] := fun hnone => by simp [Epoch.invoked, hnone] at hmem'
    have hapart : ∀ {a b : Nat} {d d' : Epoch}, a < b → h.epochs[a]? = some d →
        h.epochs[b]? = some d' → d.calls k = [] ∨ d'.calls k = [] := by
      intro a b d d' hab hd hd'
      obtain ⟨ha, rfl⟩ := List.getElem?_eq_some_iff.mp hd
      obtain ⟨hb, rfl⟩ := List.getElem?_eq_some_iff.mp hd'
      exact List.pairwise_iff_getElem.mp h.newIds a b ha hb hab k
    rcases lt_trichotomy i j with hij | rfl | hij
    · exact (hapart hij he he').elim hcalled hcalled'
    · obtain rfl := Option.some.inj (he.symm.trans he')
      obtain ⟨hm, hm'⟩ := List.getElem?_eq_some_iff.mp hp
      obtain ⟨hn, hn'⟩ := List.getElem?_eq_some_iff.mp hq
      have hplace : m = n := (hnodup e hepoch k).getElem_inj_iff.mp (hm'.trans hn'.symm)
      exact hne (by rw [hplace])
    · exact (hapart hij he' he).elim hcalled' hcalled

/-- Resets clear when there was nothing to be cleared. -/
theorem resetsClear_iff : h.ResetsClear ↔ ∀ e ∈ h.earlier, ∀ k, e.invoked k = [] := by
  constructor
  · intro hclear e he k
    rw [List.eq_nil_iff_forall_not_mem]
    intro p hp
    have hheld : p.threadId ∈ checkpointsAfter h.earlier :=
      mem_checkpointsAfter.mpr ⟨e, he, k, p, hp, rfl⟩
    rw [hclear h.earlier List.prefix_rfl] at hheld
    exact hheld
  · intro hnone epochs hinitial
    rw [Set.eq_empty_iff_forall_notMem]
    intro t ht
    obtain ⟨e, he, k, p, hp, -⟩ := mem_checkpointsAfter.mp ht
    rw [hnone e (hinitial.subset he) k] at hp
    cases hp

/-- Checkpoint threads are private to one pass, and resets delete those that were used, in exactly
    the histories where no call that answers the first question of a case makes a second pass, and
    no pass was made before a reset. -/
theorem checkpoints_private_iff : h.ThreadsPrivate ∧ h.ResetsClear ↔
    (∀ e ∈ h.epochs, ∀ k, ∀ call ∈ e.calls k,
        call.1.questionsAsked = 1 → (passCalls call.2).length ≤ 1) ∧
      ∀ e ∈ h.earlier, ∀ k, e.invoked k = [] := by
  rw [threadsPrivate_iff, resetsClear_iff]
  refine and_congr_left' (forall₂_congr fun e he => forall_congr' fun k => ?_)
  exact (h.runs e he).nodup_iff k

end DemoHistory

/-! ### Sessions as epochs -/

omit [PlainIds] in
variable (settings k) in
/-- A session that nothing interrupts is an epoch. -/
theorem Visit.epoch (visits : List Visit) (customerId : String) {s : SharedState}
    (hfresh : s.Fresh) : ∃ e : Epoch, e.Runs settings ∧ (∀ k, e.service.calls k = none) ∧
      e.log = Visit.log settings k visits (.created customerId, s) := by
  have hbegin : Chronicles (Request.program settings) SharedState.Drifts (fun _ _ _ => True)
      ⟨fun _ => .created customerId, s, fun _ => none⟩ _ _ [] := .begin
  obtain ⟨g, doing, hidle, h⟩ := Visit.chronicles (k := k) visits rfl hbegin fun _ _ => trivial
  rw [List.nil_append] at h
  exact ⟨⟨g, doing, _⟩, ⟨_, ⟨fun _ => ⟨customerId, rfl⟩, fun _ => rfl, hfresh.tickets,
    hfresh.dynamicTickets, hfresh.ticketIds⟩, h⟩, fun k => congrFun hidle k, rfl⟩

omit [PlainIds] in
/-- The calls of an epoch at rest are those of its log. -/
theorem Epoch.calls_atRest {e : Epoch} (hidle : e.service.calls k = none) : e.calls k =
    (e.log.filter (·.key = k)).map fun past => (past.begun, past.steps) := by
  rw [Epoch.calls, hidle, Option.map_none, Option.toList_none, List.append_nil]

omit [PlainIds] in
theorem Epoch.invoked_atRest {e : Epoch} (hidle : e.service.calls k = none) : e.invoked k =
    (e.log.filter (·.key = k)).flatMap fun past => passCalls past.steps := by
  rw [Epoch.invoked, Epoch.calls_atRest hidle, List.flatMap_map]

omit [PlainIds] in
/-- A service that has not been called is an epoch. -/
theorem Epoch.unused (settings : Settings) {s : SharedState} (hfresh : s.Fresh) :
    ∃ e : Epoch, e.Runs settings ∧ ∀ k, e.calls k = [] := by
  refine ⟨⟨⟨fun _ => .created "", s, fun _ => none⟩, fun _ => [], []⟩, ⟨_, ⟨fun _ => ⟨"", rfl⟩,
    fun _ => rfl, hfresh.tickets, hfresh.dynamicTickets, hfresh.ticketIds⟩, .begin⟩, fun k => rfl⟩

end AfterSales

namespace AfterSales.IdText

/-! ### A spelling without colons -/

/-- Writes a text in the two digits of `spellNat`. -/
def spellChars : List Char → List Char → List Char
  | [], rest => '0' :: rest
  | c :: cs, rest => '1' :: spellNat c.toNat (spellChars cs rest)

theorem spellChars_inj {a b r s : List Char} (h : spellChars a r = spellChars b s) :
    a = b ∧ r = s := by
  induction a generalizing b with
  | nil =>
    cases b with
    | nil => exact ⟨rfl, (List.cons.inj h).2⟩
    | cons => exact absurd (List.cons.inj h).1 (by decide)
  | cons c cs ih =>
    cases b with
    | nil => exact absurd (List.cons.inj h).1 (by decide)
    | cons d ds =>
      obtain ⟨hc, htail⟩ := spellNat_inj (List.cons.inj h).2
      obtain ⟨rfl, hrest⟩ := ih htail
      exact ⟨by rw [Char.toNat_inj.mp hc], hrest⟩

theorem colon_notMem_spellNat {n : Nat} {rest : List Char} (h : ':' ∉ rest) :
    ':' ∉ spellNat n rest := by
  induction n with
  | zero => simpa [spellNat] using h
  | succ n ih => simpa [spellNat] using ih

theorem colon_notMem_spellChars {cs rest : List Char} (h : ':' ∉ rest) :
    ':' ∉ spellChars cs rest := by
  induction cs with
  | nil => simpa [spellChars] using h
  | cons c cs ih => simpa [spellChars] using colon_notMem_spellNat ih

/-- Ids in digits. -/
abbrev digits : IdText where
  row id := String.ofList (spellChars id.conversationId.toList (spellNat id.serial []))
  ticket := spelled.ticket
  row_injective := by
    rintro ⟨a, m⟩ ⟨b, n⟩ h
    obtain ⟨htext, hrest⟩ := spellChars_inj (String.ofList_injective h)
    obtain ⟨rfl, -⟩ := spellNat_inj hrest
    exact congrArg (RowId.mk · m) (String.toList_inj.mp htext)
  ticket_injective := spelled.ticket_injective

theorem digits_plain : @PlainIds digits := by
  refine @PlainIds.mk digits fun id => ?_
  show ':' ∉ (String.ofList (spellChars id.conversationId.toList (spellNat id.serial []))).toList
  rw [String.toList_ofList]
  exact colon_notMem_spellChars (colon_notMem_spellNat (by simp))

end AfterSales.IdText

/-! ### A reply that selects a delivered package -/

namespace AfterSales.Session
open Interleave

section DeliveredPackage

attribute [local instance] PolicyDigest.bySource ProofDigest.byId ResultDigest.byName
  IdText.digits IdText.digits_plain FactDigest.byMessage CaseFolding.lower
  EvidenceDigest.byResults MessageRedaction.none TraceVolume.one

/-- An order of two packages, of which the first is delivered. -/
def oneDelivered : SharedState :=
  { demoShared fun _ => [] with
    fixtures :=
      { (demoShared fun _ => []).fixtures with
        shipments := fun _ =>
          [⟨"SHP-1", 1, 2, "TRK-1", "delivered"⟩, ⟨"SHP-2", 2, 2, "TRK-2", "in_transit"⟩] } }

theorem oneDelivered_fresh : oneDelivered.Fresh := ⟨rfl, rfl, fun _ h => by cases h⟩

/-- The customer misses a package, is asked which one, and names one of them. -/
def namedPackage (reply : String) : List Visit :=
  [⟨0, .submitMessage "订单少了一个包裹" (providersOf (some reportLate) everyRead)⟩,
    ⟨60000000, .submitMessage reply (providersOf none everyRead)⟩]

def namedPackageLog (reply : String) : List PastCall :=
  Visit.log demoSettings "1" (namedPackage reply) (.created "CUS-1", oneDelivered)

/-- The issue of the delivered package is revised, and both passes have one number, -/
theorem namedDelivered_passes :
    ((namedPackageLog "第一个包裹").flatMap fun past => passCalls past.steps) =
      [⟨⟨"1", 2⟩, ⟨"1", 3⟩, 1⟩, ⟨⟨"1", 2⟩, ⟨"1", 3⟩, 1⟩] := by
  decide +kernel

/-- so the second one begins with the checkpoint of the first. -/
theorem namedDelivered_sharesThread :
    ∃ h : DemoHistory demoSettings, ¬ h.ThreadsPrivate ∧ ¬ h.ResetsClear := by
  obtain ⟨e, hruns, hidle, hlog⟩ := Visit.epoch demoSettings "1" (namedPackage "第一个包裹") "CUS-1"
    oneDelivered_fresh
  obtain ⟨fresh, hfresh, hunused⟩ := Epoch.unused demoSettings oneDelivered_fresh
  have hpasses : e.invoked "1" = [⟨⟨"1", 2⟩, ⟨"1", 3⟩, 1⟩, ⟨⟨"1", 2⟩, ⟨"1", 3⟩, 1⟩] := by
    rw [Epoch.invoked_atRest (hidle "1"), hlog, Visit.log_filter]
    exact namedDelivered_passes
  let h : DemoHistory demoSettings :=
    { earlier := [e]
      current := fresh
      runs := by
        rintro e' he'
        rcases List.mem_pair.mp he' with rfl | rfl
        · exact hruns
        · exact hfresh
      newIds := by simp [hunused] }
  refine ⟨h, fun hprivate => ?_, fun hclear => ?_⟩
  · have hfirst : h.passAt (0, "1", 0) = some ⟨⟨"1", 2⟩, ⟨"1", 3⟩, 1⟩ := by
      show (e.invoked "1")[0]? = _
      rw [hpasses]
      rfl
    have hsecond : h.passAt (0, "1", 1) = some ⟨⟨"1", 2⟩, ⟨"1", 3⟩, 1⟩ := by
      show (e.invoked "1")[1]? = _
      rw [hpasses]
      rfl
    exact hprivate _ _ _ _ hfirst hsecond (by decide) rfl
  · have hheld : PassCall.threadId ⟨⟨"1", 2⟩, ⟨"1", 3⟩, 1⟩ ∈ checkpointsAfter [e] :=
      mem_checkpointsAfter.mpr ⟨e, by simp, "1", _, by rw [hpasses]; simp, rfl⟩
    rw [hclear [e] List.prefix_rfl] at hheld
    exact hheld

/-- The delivered package is named at once; later a package is missed, and the other one named. -/
def bothNamed : List Visit :=
  ⟨0, .submitMessage "第一个包裹 is late" (providersOf (some reportLate) everyRead)⟩ ::
    namedPackage "第二个包裹"

/-- The first run is revised; the last one answers a question. -/
theorem bothNamed_passes :
    (Visit.log demoSettings "1" bothNamed (.created "CUS-1", oneDelivered)).map
        (fun past => (past.begun.questionsAsked, passCalls past.steps)) =
      [(0, [⟨⟨"1", 2⟩, ⟨"1", 0⟩, 0⟩, ⟨⟨"1", 2⟩, ⟨"1", 0⟩, 1⟩]), (0, []),
        (1, [⟨⟨"1", 5⟩, ⟨"1", 6⟩, 1⟩])] := by
  decide +kernel

/-- The revision and the answer have one number, and two threads. -/
theorem bothNamed_private : ∃ h : DemoHistory demoSettings,
    h.passAt (0, "1", 1) = some ⟨⟨"1", 2⟩, ⟨"1", 0⟩, 1⟩ ∧
      h.passAt (0, "1", 2) = some ⟨⟨"1", 5⟩, ⟨"1", 6⟩, 1⟩ ∧ h.ThreadsPrivate ∧ h.ResetsClear := by
  obtain ⟨e, hruns, hidle, hlog⟩ := Visit.epoch demoSettings "1" bothNamed "CUS-1" oneDelivered_fresh
  let h : DemoHistory demoSettings :=
    { earlier := []
      current := e
      runs := by simpa using hruns
      newIds := by simp }
  have hinvoked : e.invoked "1" = [⟨⟨"1", 2⟩, ⟨"1", 0⟩, 0⟩, ⟨⟨"1", 2⟩, ⟨"1", 0⟩, 1⟩,
      ⟨⟨"1", 5⟩, ⟨"1", 6⟩, 1⟩] := by
    rw [Epoch.invoked_atRest (hidle "1"), hlog, Visit.log_filter]
    have hmap := congrArg (fun calls => List.flatMap Prod.snd calls) bothNamed_passes
    rw [List.flatMap_map] at hmap
    exact hmap
  refine ⟨h, ?_, ?_, h.checkpoints_private_iff.mpr ⟨?_, by simp [h]⟩⟩
  · show (e.invoked "1")[1]? = _
    rw [hinvoked]
    rfl
  · show (e.invoked "1")[2]? = _
    rw [hinvoked]
    rfl
  · intro e' he' k call hcall hasked
    obtain rfl : e' = e := by simpa [h, DemoHistory.epochs] using he'
    rw [Epoch.calls_atRest (hidle k)] at hcall
    obtain ⟨past, hmem, rfl⟩ := List.mem_map.mp hcall
    have hpast : (past.begun.questionsAsked, passCalls past.steps) ∈ _ :=
      bothNamed_passes ▸ List.mem_map_of_mem (hlog ▸ List.mem_of_mem_filter hmem)
    simp only [List.mem_cons, List.not_mem_nil, or_false, Prod.mk.injEq] at hpast
    rcases hpast with ⟨hzero, -⟩ | ⟨hzero, -⟩ | ⟨-, hone⟩
    · rw [hzero] at hasked
      cases hasked
    · rw [hzero] at hasked
      cases hasked
    · simp [hone]

end DeliveredPackage

end AfterSales.Session
