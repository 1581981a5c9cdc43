import AfterSales.Lib.AsyncLock
import AfterSales.Lib.Interleave

/-! Tasks that take turns.

    Any number of tasks may ask for one key of a system of programs; each of them runs its program
    while it holds the lock of that key. So at most one call of a key is in progress, and what the
    tasks do is a run of the system that knows no tasks and no locks. Tasks get their turns in the
    order in which they asked, and while somebody waits for a key, somebody can move. -/

namespace Interleave

open AsyncLock

variable {κ τ T Λ Ξ ℓ ρ α : Type}

/-- A task waits for its turn, or has it. -/
inductive Task (κ Λ Ξ ℓ ρ α : Type) where
  | waiting (k : κ) (r : ρ)
  | inside (k : κ) (call : Call Λ Ξ ℓ ρ α)

/-- A table that keeps a lock for each key. -/
class LockTable (κ τ : outParam Type) (T : Type) where
  lock : T → κ → Lock τ
  put : T → κ → Lock τ → T
  lock_put_self : ∀ table k l, lock (put table k l) k = l
  lock_put_of_ne : ∀ {j k}, j ≠ k → ∀ table l, lock (put table k l) j = lock table j

attribute [simp] LockTable.lock_put_self

/-- The state of the system with its tasks, and the table of the locks. -/
structure Turns (κ τ T Λ Ξ ℓ ρ α : Type) where
  stores : κ → Λ
  shared : Ξ
  locks : T
  tasks : τ → Option (Task κ Λ Ξ ℓ ρ α)

/-- What a task does: it comes and goes in at once, or queues; it is cancelled while it waits; its
    turn comes, or it leaves; it takes a step of its program; it is done. -/
inductive Event (κ τ : Type) where
  | enter (k : κ) (t : τ)
  | queue (k : κ) (t : τ)
  | cancel (k : κ) (t : τ)
  | resume (k : κ) (t : τ)
  | quit (k : κ) (t : τ)
  | run (k : κ) (t : τ)
  | finish (k : κ) (t : τ)
  | environment

/-- What the tasks of one key do once they have asked, if none is cancelled. -/
def Event.serves (k : κ) : Event κ τ → Prop
  | .resume j _ | .quit j _ | .run j _ | .finish j _ => j = k
  | _ => False

namespace Turns

/-- The task that has the turn of a key. -/
def Inside (c : Turns κ τ T Λ Ξ ℓ ρ α) (t : τ) (k : κ) : Prop :=
  ∃ call, c.tasks t = some (.inside k call)

def Waits (c : Turns κ τ T Λ Ξ ℓ ρ α) (t : τ) (k : κ) : Prop :=
  ∃ r, c.tasks t = some (.waiting k r)

variable {c c₀ c' : Turns κ τ T Λ Ξ ℓ ρ α} {t t' : τ} {k k' : κ} {r : ρ} {call : Call Λ Ξ ℓ ρ α}
  {stores : κ → Λ} {shared : Ξ} {locks : T}

theorem unknown (new : c.tasks t = none) (j : κ) : ¬ c.Waits t j ∧ ¬ c.Inside t j := by
  simp [Waits, Inside, new]

theorem elsewhere (waits : c.tasks t = some (.waiting k r)) (j : κ) (hj : j ≠ k) :
    ¬ c.Waits t j ∧ ¬ c.Inside t j := by
  simp [Waits, Inside, waits, Ne.symm hj]

/-! ### The system without tasks -/

/-- A configuration of the system in which the calls in progress are the tasks inside. -/
structure Shows (c : Turns κ τ T Λ Ξ ℓ ρ α) (g : Config κ Λ Ξ ℓ ρ α) : Prop where
  stores : g.stores = c.stores
  shared : g.shared = c.shared
  calls : ∀ k call, g.calls k = some call ↔ ∃ t, c.tasks t = some (.inside k call)

variable {g g₀ : Config κ Λ Ξ ℓ ρ α}

theorem Shows.idle (h : c.Shows g) (hnobody : ∀ t, ¬ c.Inside t k) : g.calls k = none := by
  cases hcall : g.calls k with
  | none => rfl
  | some call =>
    obtain ⟨t, ht⟩ := (h.calls k call).mp hcall
    exact absurd ⟨call, ht⟩ (hnobody t)

section Tasks

variable [DecidableEq τ]

/-! Who waits, and who is inside, when one task and one lock change. -/

theorem waits_update {task : Option (Task κ Λ Ξ ℓ ρ α)} :
    (⟨stores, shared, locks, Function.update c.tasks t task⟩ : Turns κ τ T Λ Ξ ℓ ρ α).Waits t' k' ↔
      if t' = t then ∃ r, task = some (.waiting k' r) else c.Waits t' k' := by
  by_cases h : t' = t
  · subst h
    simp [Waits]
  · simp [Waits, h]

theorem inside_update {task : Option (Task κ Λ Ξ ℓ ρ α)} :
    (⟨stores, shared, locks, Function.update c.tasks t task⟩ : Turns κ τ T Λ Ξ ℓ ρ α).Inside t' k' ↔
      if t' = t then ∃ call, task = some (.inside k' call) else c.Inside t' k' := by
  by_cases h : t' = t
  · subst h
    simp [Inside]
  · simp [Inside, h]

variable {calls : κ → Option (Call Λ Ξ ℓ ρ α)} {call' : Option (Call Λ Ξ ℓ ρ α)}
  {task : Option (Task κ Λ Ξ ℓ ρ α)}

/-- A task that is not inside comes or goes. -/
theorem calls_keep (hcalls : ∀ k call, calls k = some call ↔ ∃ t, c.tasks t = some (.inside k call))
    (old : ∀ j, ¬ c.Inside t j) (new : ∀ j call, task ≠ some (.inside j call)) (j : κ)
    (call : Call Λ Ξ ℓ ρ α) :
    calls j = some call ↔ ∃ t', Function.update c.tasks t task t' = some (.inside j call) := by
  rw [hcalls]
  refine exists_congr fun t' => ?_
  by_cases ht : t' = t
  · subst ht
    rw [Function.update_self]
    exact iff_of_false (fun hin => old j ⟨call, hin⟩) (new j call)
  · rw [Function.update_of_ne ht]

variable [DecidableEq κ] in
/-- The task that has the turn of a key is the call of that key. -/
theorem calls_change
    (hcalls : ∀ k call, calls k = some call ↔ ∃ t, c.tasks t = some (.inside k call))
    (alone : ∀ t', t' ≠ t → ¬ c.Inside t' k) (old : ∀ j, j ≠ k → ¬ c.Inside t j)
    (new : ∀ j call, task = some (.inside j call) ↔ j = k ∧ call' = some call) (j : κ)
    (call : Call Λ Ξ ℓ ρ α) :
    Function.update calls k call' j = some call ↔
      ∃ t', Function.update c.tasks t task t' = some (.inside j call) := by
  by_cases hj : j = k
  · subst hj
    rw [Function.update_self]
    constructor
    · intro h
      exact ⟨t, by rw [Function.update_self, new]; exact ⟨rfl, h⟩⟩
    · rintro ⟨t', h⟩
      by_cases ht : t' = t
      · rw [ht, Function.update_self, new] at h
        exact h.2
      · rw [Function.update_of_ne ht] at h
        exact absurd ⟨call, h⟩ (alone t' ht)
  · rw [Function.update_of_ne hj, hcalls]
    refine exists_congr fun t' => ?_
    by_cases ht : t' = t
    · rw [ht, Function.update_self, new]
      exact iff_of_false (fun h => old j hj ⟨call, h⟩) fun h => hj h.1
    · rw [Function.update_of_ne ht]

end Tasks

/-! ### The locks and the tasks agree -/

variable [LockTable κ τ T]

def lock (c : Turns κ τ T Λ Ξ ℓ ρ α) (k : κ) : Lock τ := LockTable.lock c.locks k

@[simp] theorem lock_put_self (stores : κ → Λ) (shared : Ξ) (table : T) (k : κ) (l : Lock τ)
    (tasks : τ → Option (Task κ Λ Ξ ℓ ρ α)) :
    (⟨stores, shared, LockTable.put table k l, tasks⟩ : Turns κ τ T Λ Ξ ℓ ρ α).lock k = l :=
  LockTable.lock_put_self table k l

theorem lock_put_of_ne {j k : κ} (h : j ≠ k) (stores : κ → Λ) (shared : Ξ) (l : Lock τ)
    (tasks : τ → Option (Task κ Λ Ξ ℓ ρ α)) :
    (⟨stores, shared, LockTable.put c.locks k l, tasks⟩ : Turns κ τ T Λ Ξ ℓ ρ α).lock j =
      c.lock j :=
  LockTable.lock_put_of_ne h c.locks l

/-- Every lock is in order; its queue has the tasks that wait for its key; it is held when a task is
    inside; and no two tasks are. -/
structure Ordered (c : Turns κ τ T Λ Ξ ℓ ρ α) : Prop where
  sound : ∀ k, (c.lock k).Sound
  queue : ∀ k t, t ∈ queued (c.lock k).waiters ↔ c.Waits t k
  held : ∀ k, (c.lock k).locked = true ↔ ∃ t, c.Inside t k
  alone : ∀ k t t', c.Inside t k → c.Inside t' k → t = t'

/-- Nobody has come yet. -/
def Empty (c : Turns κ τ T Λ Ξ ℓ ρ α) : Prop :=
  (∀ k, c.lock k = Lock.fresh) ∧ ∀ t, c.tasks t = none

theorem Empty.ordered (h : c.Empty) : c.Ordered where
  sound k := by
    rw [h.1 k]
    exact Lock.sound_fresh
  queue k t := by
    simp [h.1 k, Waits, h.2 t, Lock.fresh, queued]
  held k := by
    simp [h.1 k, Inside, h.2, Lock.fresh]
  alone k t t' hin := by
    obtain ⟨call, hin⟩ := hin
    rw [h.2 t] at hin
    cases hin

/-- Nobody is inside a lock that is free. -/
theorem Ordered.nobody (h : c.Ordered) (hfree : (c.lock k).locked = false) (t : τ) :
    ¬ c.Inside t k := by
  intro hin
  have hheld := (h.held k).mpr ⟨t, hin⟩
  rw [hfree] at hheld
  cases hheld

variable [DecidableEq τ] in
/-- The tasks in the queue once one of them has left it. -/
theorem Ordered.others (h : c.Ordered) {front back : List (Waiter τ)} {w : Waiter τ}
    (hws : (c.lock k).waiters = front ++ w :: back) (hw : w.task = t) (t' : τ) :
    t' ∈ queued (front ++ back) ↔ if t' = t then False else c.Waits t' k := by
  have hqueue := h.queue k t'
  have hapart := (h.sound k).apart
  rw [hws, queued_append] at hqueue hapart
  simp only [queued, List.map_cons] at hqueue hapart
  rw [← List.perm_middle.nodup_iff.symm.eq] at hapart
  rw [hw] at hqueue hapart
  obtain ⟨hout, -⟩ := List.nodup_cons.mp hapart
  rw [queued_append]
  split
  · next ht =>
    subst ht
    exact iff_of_false hout id
  · next ht =>
    rw [← hqueue]
    simp [queued, ht]

variable [DecidableEq κ] [DecidableEq τ]

/-- When a task of a key and the lock of that key change, the order is kept if it is kept at that
    key. -/
theorem Ordered.change {lock : Lock τ} {task : Option (Task κ Λ Ξ ℓ ρ α)} (h : c.Ordered)
    (old : ∀ j, j ≠ k → ¬ c.Waits t j ∧ ¬ c.Inside t j)
    (waiting : ∀ j r, task = some (.waiting j r) → j = k)
    (inside : ∀ j call, task = some (.inside j call) → j = k) (sound : lock.Sound)
    (queue : ∀ t', t' ∈ queued lock.waiters ↔
      if t' = t then ∃ r, task = some (.waiting k r) else c.Waits t' k)
    (held : lock.locked = true ↔
      (∃ call, task = some (.inside k call)) ∨ ∃ t', t' ≠ t ∧ c.Inside t' k)
    (alone : (∃ call, task = some (.inside k call)) → ∀ t', t' ≠ t → ¬ c.Inside t' k) :
    Ordered (⟨stores, shared, LockTable.put c.locks k lock, Function.update c.tasks t task⟩ :
      Turns κ τ T Λ Ξ ℓ ρ α) := by
  have hwaits : ∀ {j t'}, j ≠ k →
      ((if t' = t then ∃ r, task = some (.waiting j r) else c.Waits t' j) ↔ c.Waits t' j) := by
    intro j t' hj
    split
    · next ht =>
      subst ht
      refine iff_of_false ?_ (old j hj).1
      rintro ⟨r, hr⟩
      exact hj (waiting j r hr)
    · exact Iff.rfl
  have hinside : ∀ {j t'}, j ≠ k →
      ((if t' = t then ∃ call, task = some (.inside j call) else c.Inside t' j) ↔
        c.Inside t' j) := by
    intro j t' hj
    split
    · next ht =>
      subst ht
      refine iff_of_false ?_ (old j hj).2
      rintro ⟨call, hcall⟩
      exact hj (inside j call hcall)
    · exact Iff.rfl
  refine ⟨fun j => ?_, fun j t' => ?_, fun j => ?_, fun j t₁ t₂ h₁ h₂ => ?_⟩
  · by_cases hj : j = k
    · subst hj
      simpa using sound
    · simpa [lock_put_of_ne hj] using h.sound j
  · rw [waits_update]
    by_cases hj : j = k
    · subst hj
      simpa using queue t'
    · rw [hwaits hj]
      simpa [lock_put_of_ne hj] using h.queue j t'
  · simp only [inside_update]
    by_cases hj : j = k
    · subst hj
      rw [lock_put_self, held]
      constructor
      · rintro (hin | ⟨t', ht', hin⟩)
        · exact ⟨t, by simpa using hin⟩
        · exact ⟨t', by simpa [ht'] using hin⟩
      · rintro ⟨t', hin⟩
        by_cases ht' : t' = t
        · exact .inl (by simpa [ht'] using hin)
        · exact .inr ⟨t', ht', by simpa [ht'] using hin⟩
    · simp only [hinside hj]
      simpa [lock_put_of_ne hj] using h.held j
  · rw [inside_update] at h₁ h₂
    by_cases hj : j = k
    · subst hj
      by_cases ht₁ : t₁ = t <;> by_cases ht₂ : t₂ = t
      · rw [ht₁, ht₂]
      · rw [if_pos ht₁] at h₁
        rw [if_neg ht₂] at h₂
        exact absurd h₂ (alone h₁ t₂ ht₂)
      · rw [if_neg ht₁] at h₁
        rw [if_pos ht₂] at h₂
        exact absurd h₁ (alone h₂ t₁ ht₁)
      · rw [if_neg ht₁] at h₁
        rw [if_neg ht₂] at h₂
        exact h.alone j t₁ t₂ h₁ h₂
    · exact h.alone j t₁ t₂ ((hinside hj).mp h₁) ((hinside hj).mp h₂)

/-! ### What the tasks do -/

inductive Step (program : κ → ρ → Prog (Λ × Ξ) ℓ α) (environment : Ξ → Ξ → Prop)
    (assumes : κ → ℓ → Λ × Ξ → Prop) :
    Event κ τ → Turns κ τ T Λ Ξ ℓ ρ α → Turns κ τ T Λ Ξ ℓ ρ α → Prop
  | enter {c : Turns κ τ T Λ Ξ ℓ ρ α} (k : κ) (t : τ) (r : ρ) {lock : Lock τ}
      (new : c.tasks t = none) (taken : (c.lock k).acquire t = (lock, true)) :
      Step program environment assumes (.enter k t) c { c with
        locks := LockTable.put c.locks k lock
        tasks := Function.update c.tasks t
          (some (.inside k ⟨r, c.stores k, program k r⟩)) }
  | queue {c : Turns κ τ T Λ Ξ ℓ ρ α} (k : κ) (t : τ) (r : ρ) {lock : Lock τ}
      (new : c.tasks t = none) (taken : (c.lock k).acquire t = (lock, false)) :
      Step program environment assumes (.queue k t) c { c with
        locks := LockTable.put c.locks k lock
        tasks := Function.update c.tasks t (some (.waiting k r)) }
  | cancel {c : Turns κ τ T Λ Ξ ℓ ρ α} {k : κ} {t : τ} {r : ρ}
      (waits : c.tasks t = some (.waiting k r)) :
      Step program environment assumes (.cancel k t) c { c with
        locks := LockTable.put c.locks k ((c.lock k).cancel t) }
  | resume {c : Turns κ τ T Λ Ξ ℓ ρ α} {k : κ} {t : τ} {r : ρ} {lock : Lock τ}
      (waits : c.tasks t = some (.waiting k r))
      (turn : (c.lock k).resume t = some (lock, true)) :
      Step program environment assumes (.resume k t) c { c with
        locks := LockTable.put c.locks k lock
        tasks := Function.update c.tasks t
          (some (.inside k ⟨r, c.stores k, program k r⟩)) }
  | quit {c : Turns κ τ T Λ Ξ ℓ ρ α} {k : κ} {t : τ} {r : ρ} {lock : Lock τ}
      (waits : c.tasks t = some (.waiting k r))
      (turn : (c.lock k).resume t = some (lock, false)) :
      Step program environment assumes (.quit k t) c { c with
        locks := LockTable.put c.locks k lock
        tasks := Function.update c.tasks t none }
  | run {c : Turns κ τ T Λ Ξ ℓ ρ α} {k : κ} {t : τ} {call : Call Λ Ξ ℓ ρ α} {label : ℓ}
      {update : Λ × Ξ → Λ × Ξ} {next : Λ × Ξ → Prog (Λ × Ξ) ℓ α}
      (busy : c.tasks t = some (.inside k call))
      (due : call.program = .atom label update next)
      (allowed : assumes k label (c.stores k, c.shared)) :
      Step program environment assumes (.run k t) c { c with
        stores := Function.update c.stores k (update (c.stores k, c.shared)).1
        shared := (update (c.stores k, c.shared)).2
        tasks := Function.update c.tasks t
          (some (.inside k { call with program := next (c.stores k, c.shared) })) }
  | finish {c : Turns κ τ T Λ Ξ ℓ ρ α} {k : κ} {t : τ} {call : Call Λ Ξ ℓ ρ α} {a : α}
      (busy : c.tasks t = some (.inside k call)) (ended : call.program = .done a) :
      Step program environment assumes (.finish k t) c { c with
        locks := LockTable.put c.locks k (c.lock k).release
        tasks := Function.update c.tasks t none }
  | environment {c : Turns κ τ T Λ Ξ ℓ ρ α} {shared : Ξ} (moves : environment c.shared shared) :
      Step program environment assumes .environment c { c with shared := shared }

/-- The runs from a state, with what the tasks did. -/
inductive Run (program : κ → ρ → Prog (Λ × Ξ) ℓ α) (environment : Ξ → Ξ → Prop)
    (assumes : κ → ℓ → Λ × Ξ → Prop) (c₀ : Turns κ τ T Λ Ξ ℓ ρ α) :
    List (Event κ τ) → Turns κ τ T Λ Ξ ℓ ρ α → Prop
  | begin : Run program environment assumes c₀ [] c₀
  | step {events : List (Event κ τ)} {c c' : Turns κ τ T Λ Ξ ℓ ρ α} {e : Event κ τ}
      (earlier : Run program environment assumes c₀ events c)
      (last : Step program environment assumes e c c') :
      Run program environment assumes c₀ (events ++ [e]) c'

variable {program : κ → ρ → Prog (Λ × Ξ) ℓ α} {environment : Ξ → Ξ → Prop}
  {assumes : κ → ℓ → Λ × Ξ → Prop} {e : Event κ τ}
  {events later : List (Event κ τ)}

theorem Run.trans (h : Run program environment assumes c₀ events c)
    (h' : Run program environment assumes c later c') :
    Run program environment assumes c₀ (events ++ later) c' := by
  induction h' with
  | begin => simpa using h
  | step _ last ih => simpa using ih.step last

/-- Every step keeps the order. -/
theorem Step.ordered (hstep : Step program environment assumes e c c') (h : c.Ordered) :
    c'.Ordered := by
  cases hstep with
  | enter k t r new taken =>
    obtain ⟨hfree, -, rfl⟩ := Lock.acquire_taken taken
    refine h.change (fun j _ => unknown new j) (by simp) (by rintro j call ⟨⟩; rfl)
      ((h.sound k).taken taken) (fun t' => ?_) ?_ fun _ t' _ => h.nobody hfree t'
    · rw [h.queue k t']
      split
      · next ht =>
        subst ht
        simp [(unknown new k).1]
      · exact Iff.rfl
    · simp
  | queue k t r new taken =>
    have hout : t ∉ queued (c.lock k).waiters := by
      rw [h.queue k t]
      exact (unknown new k).1
    obtain ⟨-, rfl⟩ := Lock.acquire_queued taken
    refine h.change (fun j _ => unknown new j) (by rintro j call ⟨⟩; rfl) (by simp)
      ((h.sound k).joined hout taken) (fun t' => ?_) ?_ (by simp)
    · rw [queued_append, List.mem_append, h.queue k t']
      split
      · next ht =>
        subst ht
        simp [queued]
      · next ht => simp [queued, ht]
    · rw [h.held k]
      simp only [reduceCtorEq, Option.some.injEq, exists_false, false_or]
      refine exists_congr fun t' => ⟨fun hin => ⟨?_, hin⟩, And.right⟩
      rintro rfl
      exact (unknown new k).2 hin
  | @cancel _ k t r waits =>
    refine ⟨fun j => ?_, fun j t' => ?_, fun j => ?_, h.alone⟩
    · by_cases hj : j = k
      · subst hj
        simpa using (h.sound j).cancel t
      · simpa [lock_put_of_ne hj] using h.sound j
    · refine Iff.trans ?_ (h.queue j t')
      by_cases hj : j = k
      · subst hj
        simp
      · simp [lock_put_of_ne hj]
    · refine Iff.trans ?_ (h.held j)
      by_cases hj : j = k
      · subst hj
        simp [Lock.cancel]
      · simp [lock_put_of_ne hj]
  | @resume _ k t r lock waits turn =>
    obtain ⟨hfree, w, back, hws, hw, -, hlock⟩ := Lock.resume_entered (h.sound k) turn
    refine h.change (elsewhere waits) (by simp) (by rintro j call ⟨⟩; rfl)
      ((h.sound k).entered turn) (fun t' => ?_) ?_ fun _ t' _ => h.nobody hfree t'
    · rw [hlock]
      simpa using h.others (hws.trans (List.nil_append _).symm) hw t'
    · simp [hlock]
  | @quit _ k t r lock waits turn =>
    obtain ⟨front, w, back, hws, hw, -, hlock⟩ := Lock.resume_quit turn
    refine h.change (elsewhere waits) (by simp) (by simp) ((h.sound k).quit turn)
      (fun t' => ?_) ?_ (by simp)
    · have hothers := h.others hws hw t'
      rw [hlock]
      split <;> simpa using hothers
    · rw [hlock, h.held k]
      simp only [reduceCtorEq, exists_false, false_or]
      refine exists_congr fun t' => ⟨fun hin => ⟨?_, hin⟩, And.right⟩
      rintro rfl
      obtain ⟨call, hin⟩ := hin
      rw [waits] at hin
      cases hin
  | @run _ k t call label update next busy due allowed =>
    have hkey : ∀ {j}, c.Inside t j ↔ j = k := by
      intro j
      simp [Inside, busy, eq_comm]
    have hinside : ∀ t' j, (if t' = t then ∃ later : Call Λ Ξ ℓ ρ α,
        some (Task.inside k { call with program := next (c.stores k, c.shared) }) =
          some (.inside j later) else c.Inside t' j) ↔ c.Inside t' j := by
      intro t' j
      split
      · next ht =>
        rw [ht, hkey]
        simp [eq_comm]
      · exact Iff.rfl
    refine ⟨h.sound, fun j t' => ?_, fun j => ?_, fun j t₁ t₂ h₁ h₂ => ?_⟩
    · refine (h.queue j t').trans ?_
      rw [waits_update]
      split
      · next ht =>
        rw [ht]
        simp [Waits, busy]
      · exact Iff.rfl
    · refine (h.held j).trans ?_
      simp only [inside_update, hinside]
    · rw [inside_update, hinside] at h₁ h₂
      exact h.alone j t₁ t₂ h₁ h₂
  | @finish _ k t call a busy ended =>
    have hin : c.Inside t k := ⟨call, busy⟩
    refine h.change (fun j hj => by simp [Waits, Inside, busy, Ne.symm hj]) (by simp) (by simp)
      (h.sound k).release (fun t' => ?_) ?_ (by simp)
    · rw [Lock.release, queued_wakeUpFirst, h.queue k t']
      split
      · next ht =>
        subst ht
        simp [Waits, busy]
      · exact Iff.rfl
    · simp only [Lock.release, Bool.false_eq_true, reduceCtorEq, exists_false, false_or,
        false_iff, not_exists, not_and]
      exact fun t' ht' hin' => ht' (h.alone k t' t hin' hin)
  | environment moves => exact ⟨h.sound, h.queue, h.held, h.alone⟩

theorem Run.ordered (hrun : Run program environment assumes c₀ events c) (h : c₀.Ordered) :
    c.Ordered := by
  induction hrun with
  | begin => exact h
  | step _ last ih => exact last.ordered ih

/-- What a task does is a step of the system, or nothing that the system knows. -/
theorem Step.shown (hstep : Step program environment assumes e c c') (h : c.Ordered)
    (hg : c.Shows g) : ∃ g', Reaches program environment assumes g g' ∧ c'.Shows g' := by
  have hidle := fun k => hg.idle (k := k)
  obtain ⟨stores, shared, calls⟩ := g
  obtain ⟨rfl, rfl, hcalls⟩ := hg
  cases hstep with
  | enter k t r new taken =>
    have hfree := (Lock.acquire_taken taken).1
    refine ⟨_, .single (.start k r (hidle k (h.nobody hfree))), rfl, rfl, ?_⟩
    exact calls_change hcalls (fun t' _ => h.nobody hfree t') (fun j _ => (unknown new j).2)
      (by simp [eq_comm])
  | queue k t r new taken =>
    exact ⟨_, .refl, rfl, rfl, calls_keep hcalls (fun j => (unknown new j).2) (by simp)⟩
  | cancel waits => exact ⟨_, .refl, rfl, rfl, hcalls⟩
  | @resume _ k t r lock waits turn =>
    have hfree := (Lock.resume_entered (h.sound k) turn).1
    refine ⟨_, .single (.start k r (hidle k (h.nobody hfree))), rfl, rfl, ?_⟩
    exact calls_change hcalls (fun t' _ => h.nobody hfree t') (fun j hj => (elsewhere waits j hj).2)
      (by simp [eq_comm])
  | @quit _ k t r lock waits turn =>
    exact ⟨_, .refl, rfl, rfl, calls_keep hcalls (fun j => by simp [Inside, waits]) (by simp)⟩
  | @run _ k t call label update next busy due allowed =>
    refine ⟨_, .single (.run k ((hcalls k call).mpr ⟨t, busy⟩) due allowed), rfl, rfl, ?_⟩
    refine calls_change hcalls (fun t' ht hin => ht (h.alone k t' t hin ⟨call, busy⟩))
      (fun j hj => ?_) (by simp [eq_comm])
    simp [Inside, busy, Ne.symm hj]
  | @finish _ k t call a busy ended =>
    refine ⟨_, .single (.finish k ((hcalls k call).mpr ⟨t, busy⟩) ended), rfl, rfl, ?_⟩
    refine calls_change hcalls (fun t' ht hin => ht (h.alone k t' t hin ⟨call, busy⟩))
      (fun j hj => ?_) (by simp)
    simp [Inside, busy, Ne.symm hj]
  | environment moves => exact ⟨_, .single (.environment moves), rfl, rfl, hcalls⟩

/-- What the tasks do is a run of the system. -/
theorem Run.shown (hrun : Run program environment assumes c₀ events c) (h : c₀.Ordered)
    (hg : c₀.Shows g₀) : ∃ g, Reaches program environment assumes g₀ g ∧ c.Shows g := by
  induction hrun with
  | begin => exact ⟨g₀, .refl, hg⟩
  | step earlier last ih =>
    obtain ⟨g, hreach, hg⟩ := ih
    obtain ⟨g', hlast, hg'⟩ := last.shown (earlier.ordered h) hg
    exact ⟨g', hreach.trans hlast, hg'⟩

/-! ### The order of the turns -/

/-- The tasks that asked for a key, in order. -/
def asked (k : κ) (events : List (Event κ τ)) : List τ :=
  events.filterMap fun
    | .enter j t | .queue j t => if j = k then some t else none
    | _ => none

/-- The tasks that got their turn of a key, in order. -/
def admitted (k : κ) (events : List (Event κ τ)) : List τ :=
  events.filterMap fun
    | .enter j t | .resume j t => if j = k then some t else none
    | _ => none

/-- One step keeps the order of the turns. -/
theorem Step.in_order (hstep : Step program environment assumes e c c') (h : c.Ordered) (k : κ)
    {before arrived : List τ} (hline : (before ++ live (c.lock k).waiters).Sublist arrived) :
    ((before ++ admitted k [e]) ++ live (c'.lock k).waiters).Sublist
      (arrived ++ asked k [e]) := by
  cases hstep with
  | enter j t r new taken =>
    by_cases hj : j = k
    · subst hj
      obtain ⟨-, hall, rfl⟩ := Lock.acquire_taken taken
      have hnone : live (c.lock j).waiters = [] := by
        simp only [live, queued, List.map_eq_nil_iff, List.filter_eq_nil_iff]
        intro w hw
        simp [hall w hw, Future.live]
      rw [hnone, List.append_nil] at hline
      simpa [admitted, asked, hnone] using hline.append_right [t]
    · simpa [admitted, asked, hj, lock_put_of_ne (Ne.symm hj)] using hline
  | queue j t r new taken =>
    by_cases hj : j = k
    · subst hj
      obtain ⟨-, rfl⟩ := Lock.acquire_queued taken
      have hnew : live [(⟨t, .pending⟩ : Waiter τ)] = [t] := rfl
      simpa [admitted, asked, live_append, hnew] using hline.append_right [t]
    · simpa [admitted, asked, hj, lock_put_of_ne (Ne.symm hj)] using hline
  | @cancel _ j t r waits =>
    by_cases hj : j = k
    · subst hj
      simp only [admitted, asked, List.filterMap_cons, List.filterMap_nil, List.append_nil,
        lock_put_self, Lock.live_cancel]
      exact (List.filter_sublist.append_left before).trans hline
    · simpa [admitted, asked, hj, lock_put_of_ne (Ne.symm hj)] using hline
  | @resume _ j t r lock waits turn =>
    by_cases hj : j = k
    · subst hj
      obtain ⟨-, w, back, hws, rfl, hwoken, rfl⟩ := Lock.resume_entered (h.sound j) turn
      have hfirst : live (c.lock j).waiters = w.task :: live back := by
        simp [hws, live, queued, hwoken, Future.live]
      rw [hfirst] at hline
      simpa [admitted, asked] using hline
    · simpa [admitted, asked, hj, lock_put_of_ne (Ne.symm hj)] using hline
  | @quit _ j t r lock waits turn =>
    by_cases hj : j = k
    · subst hj
      obtain ⟨front, w, back, hws, -, hgone, rfl⟩ := Lock.resume_quit turn
      have hsame : live (c.lock j).waiters = live (front ++ back) := by
        simp [hws, live, hgone]
      rw [hsame] at hline
      simp only [admitted, asked, List.filterMap_cons, List.filterMap_nil, List.append_nil,
        lock_put_self]
      split <;> simpa using hline
    · simpa [admitted, asked, hj, lock_put_of_ne (Ne.symm hj)] using hline
  | run | environment => simpa [admitted, asked, lock] using hline
  | @finish _ j t call a busy ended =>
    by_cases hj : j = k
    · subst hj
      simpa [admitted, asked, Lock.release] using hline
    · simpa [admitted, asked, hj, lock_put_of_ne (Ne.symm hj)] using hline

/-- Who got a turn, and after them who still waits, stand in the order in which they asked. -/
theorem Run.in_order (hrun : Run program environment assumes c₀ events c) (h : c₀.Empty) (k : κ) :
    (admitted k events ++ live (c.lock k).waiters).Sublist (asked k events) := by
  induction hrun with
  | begin =>
    rw [h.1 k]
    exact List.Sublist.refl []
  | @step events c c' e earlier last ih =>
    have hstep := last.in_order (earlier.ordered h.ordered) k ih
    simpa only [admitted, asked, List.filterMap_append] using hstep

/-! ### Nobody waits in vain -/

/-- The task that has the turn of a key comes to its end, and releases the lock. -/
theorem runs_to_end (allowed : ∀ j label x, assumes j label x) {p : Prog (Λ × Ξ) ℓ α}
    (busy : c.tasks t = some (.inside k call)) (due : call.program = p) :
    ∃ events c', Run program environment assumes c events c' ∧ (∀ e ∈ events, e.serves k) ∧
      c'.locks = LockTable.put c.locks k (c.lock k).release := by
  induction p generalizing c call with
  | done a =>
    refine ⟨_, _, .step .begin (.finish busy due), fun e he => ?_, rfl⟩
    obtain rfl : e = .finish k t := by simpa using he
    rfl
  | atom label update next ih =>
    obtain ⟨c₁, hstep, hlocks₁, hbusy⟩ : ∃ c₁, Step program environment assumes (.run k t) c c₁ ∧
        c₁.locks = c.locks ∧ c₁.tasks t = some (.inside k
          { call with program := next (c.stores k, c.shared) }) :=
      ⟨_, .run busy due (allowed k label (c.stores k, c.shared)), rfl, Function.update_self ..⟩
    have hfirst := Run.step .begin hstep
    obtain ⟨events, c', hrun, hserves, hlocks⟩ := ih _ hbusy rfl
    rw [lock, hlocks₁] at hlocks
    refine ⟨_, c', hfirst.trans hrun, fun e he => ?_, hlocks⟩
    rcases List.mem_append.mp he with he | he
    · obtain rfl : e = .run k t := by simpa using he
      rfl
    · exact hserves e he

/-- At a free lock a turn comes: that of a task, or one that brings it nearer. -/
theorem Ordered.free_turn (h : c.Ordered) (hfree : (c.lock k).locked = false)
    (ht : t ∈ live (c.lock k).waiters) :
    ∃ e c', Step program environment assumes e c c' ∧ e.serves k ∧ (c'.Inside t k ∨
      t ∈ live (c'.lock k).waiters ∧
        (c'.lock k).waiters.length < (c.lock k).waiters.length) := by
  cases hws : (c.lock k).waiters with
  | nil =>
    rw [hws] at ht
    cases ht
  | cons w rest =>
    obtain ⟨lock, entered, hturn⟩ := (h.sound k).due hfree hws
    obtain ⟨r, waits⟩ := (h.queue k w.task).mp (by simp [hws, queued])
    cases entered with
    | true =>
      refine ⟨_, _, .resume waits hturn, rfl, ?_⟩
      obtain ⟨-, v, back, hws', hv, hwoken, rfl⟩ := Lock.resume_entered (h.sound k) hturn
      obtain ⟨rfl, rfl⟩ : w = v ∧ rest = back := by simpa [hws] using hws'
      have hfirst : live (c.lock k).waiters = w.task :: live rest := by
        simp [hws, live, queued, hwoken, Future.live]
      rw [hfirst] at ht
      rcases List.mem_cons.mp ht with rfl | ht
      · exact .inl ⟨_, Function.update_self ..⟩
      · exact .inr ⟨by simpa using ht, by simp⟩
    | false =>
      refine ⟨_, _, .quit waits hturn, rfl, .inr ?_⟩
      obtain ⟨front, v, back, hws', -, hgone, rfl⟩ := Lock.resume_quit hturn
      have hsame : live (c.lock k).waiters = live (front ++ back) := by
        simp [hws', live, hgone]
      have hlength : (w :: rest).length = (front ++ back).length + 1 := by
        rw [← hws, hws']
        simp
        omega
      rw [hsame] at ht
      simp only [lock_put_self, hfree, Bool.false_eq_true, if_false, live_wakeUpFirst]
      refine ⟨ht, ?_⟩
      rw [hlength]
      cases front ++ back <;> simp [wakeUpFirst]

/-- A task that waits, and is not cancelled, gets its turn when the tasks before it go on. -/
theorem Ordered.turn_comes (h : c.Ordered) (allowed : ∀ j label x, assumes j label x)
    (ht : t ∈ live (c.lock k).waiters) :
    ∃ events c', Run program environment assumes c events c' ∧ (∀ e ∈ events, e.serves k) ∧
      c'.Inside t k := by
  induction hn : (c.lock k).waiters.length using Nat.strongRecOn generalizing c with
  | ind n ih =>
    -- whoever is inside comes out first
    obtain ⟨first, c₁, hfirst, hserves, hfree, hlive, hlength⟩ :
        ∃ first c₁, Run program environment assumes c first c₁ ∧ (∀ e ∈ first, e.serves k) ∧
          (c₁.lock k).locked = false ∧ live (c₁.lock k).waiters = live (c.lock k).waiters ∧
          (c₁.lock k).waiters.length = (c.lock k).waiters.length := by
      cases hlocked : (c.lock k).locked with
      | false => exact ⟨[], c, .begin, fun _ he => absurd he List.not_mem_nil, hlocked, rfl, rfl⟩
      | true =>
        obtain ⟨t', call, hin⟩ := (h.held k).mp hlocked
        obtain ⟨first, c₁, hrun, hserves, hlocks⟩ :
            ∃ first c₁, Run program environment assumes c first c₁ ∧ _ :=
          runs_to_end allowed hin rfl
        refine ⟨first, c₁, hrun, hserves, ?_⟩
        rw [lock, hlocks, LockTable.lock_put_self]
        refine ⟨rfl, live_wakeUpFirst _, ?_⟩
        simpa [queued, Lock.release] using
          congrArg List.length (queued_wakeUpFirst (c.lock k).waiters)
    have h₁ := hfirst.ordered h
    obtain ⟨e, c₂, hstep, hserve, hturn⟩ : ∃ e c₂, Step program environment assumes e c₁ c₂ ∧ _ :=
      h₁.free_turn hfree (hlive ▸ ht)
    have hserves₂ : ∀ d ∈ first ++ [e], d.serves k := by
      intro d hd
      rcases List.mem_append.mp hd with hd | hd
      · exact hserves d hd
      · rw [List.mem_singleton.mp hd]
        exact hserve
    rcases hturn with hin | ⟨ht₂, hless⟩
    · exact ⟨_, c₂, hfirst.step hstep, hserves₂, hin⟩
    · obtain ⟨rest, c', hrest, hserves', hin⟩ :=
        ih _ (by omega) (hstep.ordered h₁) ht₂ rfl
      refine ⟨_, c', (hfirst.step hstep).trans hrest, fun d hd => ?_, hin⟩
      rcases List.mem_append.mp hd with hd | hd
      · exact hserves₂ d hd
      · exact hserves' d hd

end Turns

end Interleave
