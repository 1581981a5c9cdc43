import Mathlib.Data.List.Basic

/-! A lock for tasks that take turns on one event loop.

    The lock is a flag and a queue of futures, one for each waiting task. A task takes a free lock
    at once when nobody in the queue still wants it; else it queues and sleeps. A release wakes only
    the first of the queue, and until that task runs the lock is free. A task may be cancelled while
    it sleeps, or after it was woken; when it runs, it leaves the queue and passes the turn on.
    `Sound` is what keeps this in order: only the first of the queue is ever woken, only while the
    lock is free, and a free lock has nobody asleep at the head of its queue. -/

namespace AsyncLock

variable {τ : Type}

/-- What became of the future a task waits for: the task may sleep, be woken, be cancelled in its
    sleep, or be cancelled after it was woken. -/
inductive Future where
  | pending | woken | cancelled | revoked
  deriving DecidableEq, Repr

namespace Future

/-- A result was set, whether or not the task was cancelled since. -/
def resolved : Future → Bool
  | woken | revoked => true
  | pending | cancelled => false

/-- The task has not been cancelled. -/
def live : Future → Bool
  | pending | woken => true
  | cancelled | revoked => false

/-- Setting a result does nothing to a future that is done. -/
def wake : Future → Future
  | pending => woken
  | f => f

/-- Cancelling a task cancels its future, or the task itself when the future is done. -/
def cancel : Future → Future
  | pending => cancelled
  | woken => revoked
  | f => f

@[simp] theorem live_wake (f : Future) : f.wake.live = f.live := by cases f <;> rfl

@[simp] theorem live_cancel (f : Future) : f.cancel.live = false := by cases f <;> rfl

@[simp] theorem resolved_cancel (f : Future) : f.cancel.resolved = f.resolved := by
  cases f <;> rfl

theorem wake_ne_pending (f : Future) : f.wake ≠ pending := by cases f <;> decide

theorem cancel_ne_pending (f : Future) : f.cancel ≠ pending := by cases f <;> decide

end Future

structure Waiter (τ : Type) where
  task : τ
  future : Future

/-- The flag, and the queue. -/
structure Lock (τ : Type) where
  locked : Bool
  waiters : List (Waiter τ)

/-- Wake the first of a queue. -/
def wakeUpFirst : List (Waiter τ) → List (Waiter τ)
  | [] => []
  | w :: rest => { w with future := w.future.wake } :: rest

namespace Lock

def fresh : Lock τ := ⟨false, []⟩

/-- The lock is free, and nobody in the queue still wants it. -/
def vacant (l : Lock τ) : Bool :=
  !l.locked && l.waiters.all fun w => w.future = .cancelled

/-- A task takes the lock, or queues. -/
def acquire (l : Lock τ) (t : τ) : Lock τ × Bool :=
  if l.vacant then ({ l with locked := true }, true)
  else ({ l with waiters := l.waiters ++ [⟨t, .pending⟩] }, false)

def release (l : Lock τ) : Lock τ := ⟨false, wakeUpFirst l.waiters⟩

variable [DecidableEq τ]

/-- A task in the queue is cancelled. -/
def cancel (l : Lock τ) (t : τ) : Lock τ :=
  { l with waiters := l.waiters.map fun w =>
      if w.task = t then { w with future := w.future.cancel } else w }

/-- A task in the queue runs again, if its future is done. It takes the lock; or it was cancelled,
    and passes the turn on. -/
def resume (l : Lock τ) (t : τ) : Option (Lock τ × Bool) :=
  match l.waiters.find? (·.task = t) with
  | none => none
  | some w =>
    let others := l.waiters.eraseP (·.task = t)
    match w.future with
    | .pending => none
    | .woken => some (⟨true, others⟩, true)
    | .cancelled | .revoked =>
      some (⟨l.locked, if l.locked then others else wakeUpFirst others⟩, false)

end Lock

/-! ### The queue -/

/-- The tasks in a queue, in the order in which they came. -/
def queued (ws : List (Waiter τ)) : List τ := ws.map Waiter.task

/-- Those of them that have not been cancelled. -/
def live (ws : List (Waiter τ)) : List τ := queued (ws.filter (·.future.live))

@[simp] theorem queued_wakeUpFirst (ws : List (Waiter τ)) :
    queued (wakeUpFirst ws) = queued ws := by
  cases ws <;> rfl

@[simp] theorem live_wakeUpFirst (ws : List (Waiter τ)) : live (wakeUpFirst ws) = live ws := by
  cases ws with
  | nil => rfl
  | cons w rest =>
    simp only [live, wakeUpFirst, List.filter_cons, Future.live_wake]
    split <;> rfl

theorem queued_append (ws vs : List (Waiter τ)) : queued (ws ++ vs) = queued ws ++ queued vs :=
  List.map_append

theorem live_append (ws vs : List (Waiter τ)) : live (ws ++ vs) = live ws ++ live vs := by
  simp only [live, List.filter_append, queued_append]

/-! ### What keeps the lock in order -/

/-- Nobody comes twice; only the first of the queue can have been woken, and only of a free lock;
    and at a free lock the first does not sleep. -/
structure Lock.Sound (l : Lock τ) : Prop where
  apart : (queued l.waiters).Nodup
  rest : ∀ w ∈ l.waiters.tail, w.future.resolved = false
  held : l.locked = true → ∀ w ∈ l.waiters, w.future.resolved = false
  awake : l.locked = false → ∀ w ∈ l.waiters.head?, w.future ≠ .pending

namespace Lock

variable {l l' : Lock τ} {t : τ}

theorem sound_fresh : (fresh : Lock τ).Sound where
  apart := List.nodup_nil
  rest _ h := absurd h List.not_mem_nil
  held h := absurd h Bool.false_ne_true
  awake _ _ h := absurd h (by simp [fresh])

/-- A lock whose queue has nobody woken is in order once its first is woken. -/
theorem Sound.of_wakeUpFirst {ws : List (Waiter τ)} (apart : (queued ws).Nodup)
    (rest : ∀ w ∈ ws.tail, w.future.resolved = false) :
    (⟨false, wakeUpFirst ws⟩ : Lock τ).Sound where
  apart := by simpa only [queued_wakeUpFirst] using apart
  rest := by
    cases ws with
    | nil => exact rest
    | cons w ws => exact rest
  held h := absurd h Bool.false_ne_true
  awake _ w hw := by
    cases ws with
    | nil => cases hw
    | cons v ws =>
      obtain rfl : _ = w := by simpa [wakeUpFirst] using hw
      exact v.future.wake_ne_pending

theorem vacant_iff :
    l.vacant = true ↔ l.locked = false ∧ ∀ w ∈ l.waiters, w.future = .cancelled := by
  simp [vacant]

/-- Who takes the lock at once finds it free, and only cancelled tasks in its queue. -/
theorem acquire_taken (h : l.acquire t = (l', true)) :
    l.locked = false ∧ (∀ w ∈ l.waiters, w.future = .cancelled) ∧ l' = ⟨true, l.waiters⟩ := by
  unfold acquire at h
  split at h
  · next hvacant =>
    obtain ⟨hfree, hall⟩ := vacant_iff.mp hvacant
    cases h
    exact ⟨hfree, hall, rfl⟩
  · cases h

theorem acquire_queued (h : l.acquire t = (l', false)) :
    l.vacant = false ∧ l' = ⟨l.locked, l.waiters ++ [⟨t, .pending⟩]⟩ := by
  unfold acquire at h
  split at h
  · cases h
  · next hvacant =>
    cases h
    exact ⟨by simpa using hvacant, rfl⟩

theorem Sound.taken (hl : l.Sound) (h : l.acquire t = (l', true)) : l'.Sound := by
  obtain ⟨-, hall, rfl⟩ := acquire_taken h
  have hnone : ∀ w ∈ l.waiters, w.future.resolved = false := fun w hw => by rw [hall w hw]; rfl
  exact ⟨hl.apart, fun w hw => hnone w (List.mem_of_mem_tail hw), fun _ => hnone,
    fun h => absurd h.symm Bool.false_ne_true⟩

theorem Sound.joined (hl : l.Sound) (hnew : t ∉ queued l.waiters)
    (h : l.acquire t = (l', false)) : l'.Sound := by
  obtain ⟨hvacant, rfl⟩ := acquire_queued h
  have hrest : ∀ ws : List (Waiter τ), (∀ w ∈ ws, w.future.resolved = false) →
      ∀ w ∈ ws ++ [⟨t, .pending⟩], w.future.resolved = false := by
    intro ws hws w hw
    rcases List.mem_append.mp hw with hw | hw
    · exact hws w hw
    · rw [List.mem_singleton.mp hw]
      rfl
  refine ⟨?_, ?_, fun hlocked => hrest _ (hl.held hlocked), fun hfree w hw => ?_⟩
  · rw [queued_append]
    exact List.nodup_append.mpr ⟨hl.apart, List.pairwise_singleton _ _, fun a ha b hb hab => by
      obtain rfl : a = t := hab.trans (by rw [List.mem_singleton.mp hb])
      exact hnew ha⟩
  · cases hws : l.waiters with
    | nil => simp
    | cons v vs =>
      have htail := hl.rest
      rw [hws] at htail
      exact hrest vs htail
  · cases hws : l.waiters with
    | nil =>
      -- a free lock with nobody in its queue is taken at once
      have hopen : l.vacant = true := vacant_iff.mpr ⟨hfree, by simp [hws]⟩
      rw [hopen] at hvacant
      cases hvacant
    | cons v vs =>
      have hhead := hl.awake hfree
      rw [hws] at hhead hw
      exact hhead w hw

theorem Sound.release (hl : l.Sound) : l.release.Sound :=
  .of_wakeUpFirst hl.apart hl.rest

section Tasks

variable [DecidableEq τ]

/-- Cancelling changes who still waits, not who is in the queue. -/
@[simp] theorem queued_cancel (l : Lock τ) (t : τ) :
    queued (l.cancel t).waiters = queued l.waiters := by
  simp only [cancel, queued, List.map_map]
  refine List.map_congr_left fun w _ => ?_
  simp only [Function.comp_apply]
  split <;> rfl

theorem live_cancel (l : Lock τ) (t : τ) :
    live (l.cancel t).waiters = (live l.waiters).filter (· ≠ t) := by
  simp only [cancel]
  generalize l.waiters = ws
  induction ws with
  | nil => rfl
  | cons w ws ih =>
    by_cases h : w.task = t
    · simp_all [live, queued, List.filter_cons]
      split <;> simp_all
    · simp_all [live, queued, List.filter_cons]
      split <;> simp_all

theorem Sound.cancel (hl : l.Sound) (t : τ) : (l.cancel t).Sound := by
  have hkeeps : ∀ ws : List (Waiter τ), (∀ w ∈ ws, w.future.resolved = false) →
      ∀ w ∈ ws.map (fun w => if w.task = t then { w with future := w.future.cancel } else w),
        w.future.resolved = false := by
    intro ws hws w hw
    obtain ⟨v, hv, rfl⟩ := List.mem_map.mp hw
    split
    · simpa using hws v hv
    · exact hws v hv
  refine ⟨by simpa using hl.apart, ?_, fun hlocked => hkeeps _ (hl.held hlocked), ?_⟩
  · rw [Lock.cancel, ← List.map_tail]
    exact hkeeps _ hl.rest
  · intro hfree w hw
    rw [Lock.cancel, List.head?_map] at hw
    obtain ⟨v, hv, rfl⟩ := Option.map_eq_some_iff.mp hw
    have hv' := hl.awake hfree v hv
    split
    · exact v.future.cancel_ne_pending
    · exact hv'

/-- A task that runs again has its place in the queue, and leaves it. -/
theorem resume_cases {entered : Bool} (h : l.resume t = some (l', entered)) :
    ∃ front w back, l.waiters = front ++ w :: back ∧ w.task = t ∧
      ((w.future = .woken ∧ entered = true ∧ l' = ⟨true, front ++ back⟩) ∨
        (w.future.live = false ∧ entered = false ∧
          l' = ⟨l.locked, if l.locked then front ++ back else wakeUpFirst (front ++ back)⟩)) := by
  unfold resume at h
  split at h
  · cases h
  · next w hfind =>
    obtain ⟨hw, front, back, hws, hfront⟩ := List.find?_eq_some_iff_append.mp hfind
    have htask : w.task = t := by simpa using hw
    have herase : l.waiters.eraseP (·.task = t) = front ++ back := by
      rw [hws, List.eraseP_append_right _ fun v hv => by simpa using hfront v hv]
      rw [List.eraseP_cons_of_pos (by simpa using htask)]
    refine ⟨front, w, back, hws, htask, ?_⟩
    simp only [herase] at h
    split at h
    · cases h
    · next hwoken =>
      cases h
      exact .inl ⟨hwoken, rfl, rfl⟩
    · next hgone =>
      cases h
      exact .inr ⟨by rw [hgone]; rfl, rfl, rfl⟩
    · next hgone =>
      cases h
      exact .inr ⟨by rw [hgone]; rfl, rfl, rfl⟩

omit [DecidableEq τ] in
/-- A woken task is the first of the queue, and the lock is free. -/
theorem Sound.first (hl : l.Sound) {front back : List (Waiter τ)} {w : Waiter τ}
    (hws : l.waiters = front ++ w :: back) (hw : w.future.resolved = true) :
    front = [] ∧ l.locked = false := by
  constructor
  · cases front with
    | nil => rfl
    | cons v front =>
      have hrest := hl.rest w (by rw [hws]; simp)
      rw [hw] at hrest
      cases hrest
  · cases hlocked : l.locked with
    | false => rfl
    | true =>
      have hheld := hl.held hlocked w (by rw [hws]; simp)
      rw [hw] at hheld
      cases hheld

theorem resume_entered (hl : l.Sound) (h : l.resume t = some (l', true)) :
    l.locked = false ∧ ∃ w back, l.waiters = w :: back ∧ w.task = t ∧ w.future = .woken ∧
      l' = ⟨true, back⟩ := by
  obtain ⟨front, w, back, hws, htask, ⟨hwoken, -, rfl⟩ | ⟨-, hfalse, -⟩⟩ := resume_cases h
  · obtain ⟨rfl, hfree⟩ := hl.first hws (by rw [hwoken]; rfl)
    exact ⟨hfree, w, back, hws, htask, hwoken, rfl⟩
  · cases hfalse

theorem resume_quit (h : l.resume t = some (l', false)) :
    ∃ front w back, l.waiters = front ++ w :: back ∧ w.task = t ∧ w.future.live = false ∧
      l' = ⟨l.locked, if l.locked then front ++ back else wakeUpFirst (front ++ back)⟩ := by
  obtain ⟨front, w, back, hws, htask, ⟨-, hfalse, -⟩ | ⟨hgone, -, rfl⟩⟩ := resume_cases h
  · cases hfalse
  · exact ⟨front, w, back, hws, htask, hgone, rfl⟩

theorem Sound.entered (hl : l.Sound) (h : l.resume t = some (l', true)) : l'.Sound := by
  obtain ⟨-, w, back, hws, -, -, rfl⟩ := resume_entered hl h
  have hback : ∀ v ∈ back, v.future.resolved = false := by simpa [hws] using hl.rest
  have hapart := hl.apart
  rw [hws] at hapart
  exact ⟨hapart.of_cons, fun v hv => hback v (List.mem_of_mem_tail hv), fun _ => hback,
    fun h => absurd h.symm Bool.false_ne_true⟩

theorem Sound.quit (hl : l.Sound) (h : l.resume t = some (l', false)) : l'.Sound := by
  obtain ⟨front, w, back, hws, -, -, rfl⟩ := resume_quit h
  have hsub : (front ++ back).Sublist l.waiters := by
    rw [hws]
    exact (List.sublist_cons_self w back).append_left front
  have hapart : (queued (front ++ back)).Nodup := hl.apart.sublist (hsub.map Waiter.task)
  have hrest : ∀ v ∈ (front ++ back).tail, v.future.resolved = false := by
    intro v hv
    refine hl.rest v ?_
    rw [hws]
    cases front with
    | nil => exact List.mem_of_mem_tail hv
    | cons u front =>
      simp only [List.cons_append, List.tail_cons, List.mem_append, List.mem_cons] at hv ⊢
      tauto
  cases hlocked : l.locked with
  | true =>
    exact ⟨hapart, hrest, fun _ v hv => hl.held hlocked v (hsub.subset hv),
      fun h => absurd h.symm Bool.false_ne_true⟩
  | false => exact .of_wakeUpFirst hapart hrest

/-- At a free lock the first of the queue is due to run. -/
theorem Sound.due (hl : l.Sound) (hfree : l.locked = false) {w : Waiter τ}
    {rest : List (Waiter τ)} (hws : l.waiters = w :: rest) :
    ∃ l' entered, l.resume w.task = some (l', entered) := by
  have hhead := hl.awake hfree w (by rw [hws]; rfl)
  cases hf : w.future with
  | pending => exact absurd hf hhead
  | woken | cancelled | revoked => simp [resume, hws, hf]

end Tasks

end Lock

end AsyncLock
