import AfterSales.Application.ExactlyOnce
import AfterSales.Storage.Coordinator

/-! The service and its callers.

    The operations were modelled with at most one call in progress for each conversation. Here any
    number of tasks call them at once: each waits for the lock of its conversation, may be cancelled
    while it waits, and runs its operation while it holds the lock. What they do together is a run of
    the service as it was modelled, so what holds of every such run holds with any number of callers;
    they are served in the order in which they came, and none is forgotten. -/

namespace AfterSales

open AsyncLock Interleave

variable [PolicyDigest] [ProofDigest] [ResultDigest] [IdText] [TraceVolume] [FactDigest]
  [CaseFolding] [EvidenceDigest] [MessageRedaction]

variable {τ : Type}

/-- The service, its coordinator and its callers. -/
abbrev ServiceTurns (τ : Type) : Type :=
  Turns String τ (CaseMutationCoordinator τ) ConversationStore SharedState Label Request Response

/-- A service that nobody has called yet. -/
structure ServiceTurns.Opened (c : ServiceTurns τ) : Prop where
  fresh : ServiceConfig.Fresh ⟨c.stores, c.shared, fun _ => none⟩
  locks : c.locks = .empty
  tasks : ∀ t, c.tasks t = none

omit [ProofDigest] [ResultDigest] [TraceVolume] [FactDigest] [CaseFolding] [EvidenceDigest]
  [MessageRedaction] in
theorem ServiceTurns.Opened.empty {c : ServiceTurns τ} (h : c.Opened) : c.Empty := by
  refine ⟨fun k => ?_, h.tasks⟩
  rw [Turns.lock, h.locks]
  exact CaseMutationCoordinator.lock_empty k

variable [DecidableEq τ] {settings : Settings} {assumes : String → Label → ServiceState → Prop}
  {events : List (Event String τ)} {c : ServiceTurns τ}

/-- What the callers of a service have done, and where they are now. -/
def Served (settings : Settings) (assumes : String → Label → ServiceState → Prop)
    (events : List (Event String τ)) (c : ServiceTurns τ) : Prop :=
  ∃ c₀ : ServiceTurns τ, c₀.Opened ∧
    Turns.Run (Request.program settings) SharedState.Drifts assumes c₀ events c

namespace Served

theorem ordered (h : Served settings assumes events c) : c.Ordered := by
  obtain ⟨c₀, hopened, hrun⟩ := h
  exact hrun.ordered hopened.empty.ordered

/-- A caller that comes when the lock is free goes in, -/
theorem enter (h : Served settings assumes events c) {k : String} {t : τ} (r : Request)
    {locks : CaseMutationCoordinator τ} (new : c.tasks t = none)
    (goes : c.locks.serialize (lockKey k) t = .ok (locks, true)) :
    Served settings assumes (events ++ [.enter k t]) { c with
      locks := locks
      tasks := Function.update c.tasks t
        (some (.inside k ⟨r, c.stores k, r.program settings k⟩)) } := by
  obtain ⟨c₀, hopened, hrun⟩ := h
  rw [CaseMutationCoordinator.serialize_lockKey, Except.ok.injEq, Prod.mk.injEq] at goes
  obtain ⟨rfl, htaken⟩ := goes
  exact ⟨c₀, hopened, hrun.step (.enter k t r new (Prod.ext rfl htaken))⟩

/-- and one that comes when it is not queues. -/
theorem queue (h : Served settings assumes events c) {k : String} {t : τ} (r : Request)
    {locks : CaseMutationCoordinator τ} (new : c.tasks t = none)
    (goes : c.locks.serialize (lockKey k) t = .ok (locks, false)) :
    Served settings assumes (events ++ [.queue k t]) { c with
      locks := locks
      tasks := Function.update c.tasks t (some (.waiting k r)) } := by
  obtain ⟨c₀, hopened, hrun⟩ := h
  rw [CaseMutationCoordinator.serialize_lockKey, Except.ok.injEq, Prod.mk.injEq] at goes
  obtain ⟨rfl, htaken⟩ := goes
  exact ⟨c₀, hopened, hrun.step (.queue k t r new (Prod.ext rfl htaken))⟩

end Served

/-- However many callers there are, in whatever order they act, and whoever of those that wait is
    cancelled: one at most is inside each conversation, and what they have done together is a run of
    the service in which the calls in progress are those of the callers inside. -/
theorem callers_take_turns (h : Served settings assumes events c) :
    (∀ k t t', c.Inside t k → c.Inside t' k → t = t') ∧
      ∃ g, ServiceReaches settings assumes g ∧ c.Shows g := by
  refine ⟨h.ordered.alone, ?_⟩
  obtain ⟨c₀, hopened, hrun⟩ := h
  have hshows : c₀.Shows ⟨c₀.stores, c₀.shared, fun _ => none⟩ := by
    refine ⟨rfl, rfl, fun k call => ?_⟩
    simp [hopened.tasks]
  obtain ⟨g, hreach, hg⟩ := hrun.shown hopened.empty.ordered hshows
  exact ⟨g, ⟨_, hopened.fresh, hreach⟩, hg⟩

/-- Callers get their turns in the order in which they came, but for those cancelled; and one that
    waits and is not cancelled gets its turn when the callers of that conversation only go on. -/
theorem callers_in_order (h : Served settings (fun _ _ _ => True) events c) (k : String) :
    (Turns.admitted k events ++ live (c.lock k).waiters).Sublist (Turns.asked k events) ∧
      ∀ t ∈ live (c.lock k).waiters, ∃ later c',
        Served settings (fun _ _ _ => True) (events ++ later) c' ∧
          (∀ e ∈ later, e.serves k) ∧ c'.Inside t k := by
  constructor
  · obtain ⟨c₀, hopened, hrun⟩ := h
    exact hrun.in_order hopened.empty k
  · intro t ht
    obtain ⟨later, c', hlater, hserves, hin⟩ := h.ordered.turn_comes (fun _ _ _ => trivial) ht
    obtain ⟨c₀, hopened, hrun⟩ := h
    exact ⟨later, c', ⟨c₀, hopened, hrun.trans hlater⟩, hserves, hin⟩

end AfterSales

/-! ### Three callers of one conversation -/

namespace AfterSales.Session

open AsyncLock Interleave

section Callers

attribute [local instance] PolicyDigest.bySource ProofDigest.byId ResultDigest.byName
  IdText.spelled FactDigest.byMessage CaseFolding.lower EvidenceDigest.byResults
  MessageRedaction.none TraceVolume.one

def openedFloor : ServiceTurns Nat :=
  ⟨fun _ => .created (some "CUS-1"), demoShared fun _ => [], .empty, fun _ => none⟩

theorem openedFloor_opened : openedFloor.Opened where
  fresh := ⟨fun _ => ⟨_, rfl⟩, fun _ => rfl, rfl, rfl, fun _ h => by cases h⟩
  locks := rfl
  tasks _ := rfl

/-- One caller is inside, two wait, and the first of those is cancelled. -/
theorem threeCallers_served : ∃ c : ServiceTurns Nat,
    Served demoSettings (fun _ _ _ => True)
      [.enter "CONV-1" 0, .queue "CONV-1" 1, .queue "CONV-1" 2, .cancel "CONV-1" 1] c ∧
    live (c.lock "CONV-1").waiters = [2] := by
  have hopened : Served demoSettings (fun _ _ _ => True) [] openedFloor :=
    ⟨_, openedFloor_opened, .begin⟩
  have hfirst := hopened.enter lateReport.request (k := "CONV-1") (t := 0) rfl
    (CaseMutationCoordinator.serialize_lockKey _ _ _)
  have hsecond := hfirst.queue lateReport.request (k := "CONV-1") (t := 1) rfl
    (by rw [CaseMutationCoordinator.serialize_lockKey, LockTable.lock_put_self]; rfl)
  have hthird := hsecond.queue lateReport.request (k := "CONV-1") (t := 2) rfl
    (by rw [CaseMutationCoordinator.serialize_lockKey, LockTable.lock_put_self]; rfl)
  obtain ⟨c₀, hempty, hrun⟩ := hthird
  refine ⟨_, ⟨c₀, hempty, hrun.step (.cancel (r := lateReport.request) rfl)⟩, ?_⟩
  rw [Turns.lock_put_self, Turns.lock, LockTable.lock_put_self]
  rfl

theorem threeCallers_take_turns : ∃ c : ServiceTurns Nat,
    live (c.lock "CONV-1").waiters = [2] ∧
    (∀ k t t', c.Inside t k → c.Inside t' k → t = t') ∧
      ∃ g, ServiceReaches demoSettings (fun _ _ _ => True) g ∧ c.Shows g := by
  obtain ⟨c, hserved, hlive⟩ := threeCallers_served
  exact ⟨c, hlive, callers_take_turns hserved⟩

/-- The caller that was not cancelled gets its turn. -/
theorem threeCallers_in_order : ∃ c : ServiceTurns Nat,
    Served demoSettings (fun _ _ _ => True)
      [.enter "CONV-1" 0, .queue "CONV-1" 1, .queue "CONV-1" 2, .cancel "CONV-1" 1] c ∧
    ∃ later c', Served demoSettings (fun _ _ _ => True)
      ([.enter "CONV-1" 0, .queue "CONV-1" 1, .queue "CONV-1" 2, .cancel "CONV-1" 1] ++ later) c' ∧
      c'.Inside 2 "CONV-1" := by
  obtain ⟨c, hserved, hlive⟩ := threeCallers_served
  obtain ⟨later, c', hlater, -, hin⟩ :=
    (callers_in_order hserved "CONV-1").2 2 (by simp [hlive])
  exact ⟨c, hserved, later, c', hlater, hin⟩

end Callers

end AfterSales.Session
