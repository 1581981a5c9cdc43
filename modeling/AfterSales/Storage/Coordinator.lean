import AfterSales.Lib.Turns

/-! Single-process serialization for mutations of one case.

    The coordinator keeps a lock for each key. It is made when the key is first asked for, and never
    replaced, so that all who ask for a key meet at one lock. The operations of the service ask for
    the key of a conversation. -/

namespace AfterSales

open AsyncLock Interleave

structure CaseMutationCoordinator (τ : Type) where
  locks : String → Option (Lock τ)

namespace CaseMutationCoordinator

variable {τ : Type}

def empty : CaseMutationCoordinator τ := ⟨fun _ => none⟩

/-- The lock of a key. Nothing is awaited while the registry is locked, so nobody ever waits for the
    registry. -/
def getLock (c : CaseMutationCoordinator τ) (caseId : String) :
    Lock τ × CaseMutationCoordinator τ :=
  match c.locks caseId with
  | some lock => (lock, c)
  | none => (.fresh, ⟨Function.update c.locks caseId (some .fresh)⟩)

/-- The lock of a key has changed. -/
def setLock (c : CaseMutationCoordinator τ) (caseId : String) (lock : Lock τ) :
    CaseMutationCoordinator τ :=
  ⟨Function.update c.locks caseId (some lock)⟩

/-- A task comes to the block of a key: it goes in, or queues. -/
def serialize (c : CaseMutationCoordinator τ) (caseId : String) (t : τ) :
    Except String (CaseMutationCoordinator τ × Bool) :=
  if caseId = "" then .error "case_id must not be empty"
  else
    let found := c.getLock caseId
    let tried := found.1.acquire t
    .ok (found.2.setLock caseId tried.1, tried.2)

theorem getLock_setLock_self (c : CaseMutationCoordinator τ) (caseId : String) (lock : Lock τ) :
    ((c.setLock caseId lock).getLock caseId).1 = lock := by
  simp [getLock, setLock]

theorem getLock_setLock_of_ne {caseId caseId' : String} (h : caseId' ≠ caseId)
    (c : CaseMutationCoordinator τ) (lock : Lock τ) :
    ((c.setLock caseId lock).getLock caseId').1 = (c.getLock caseId').1 := by
  simp only [getLock, setLock, Function.update_of_ne h]
  cases c.locks caseId' <;> rfl

/-- A lock that was just made is overwritten when it changes. -/
theorem setLock_getLock (c : CaseMutationCoordinator τ) (caseId : String) (lock : Lock τ) :
    (c.getLock caseId).2.setLock caseId lock = c.setLock caseId lock := by
  unfold getLock
  split
  · rfl
  · simp only [setLock, Function.update_idem]

end CaseMutationCoordinator

/-! ### The keys of the conversations -/

def lockKey (conversationId : String) : String := "conversation:" ++ conversationId

theorem lockKey_ne_empty (conversationId : String) : lockKey conversationId ≠ "" := by
  intro h
  have hlength := congrArg String.length h
  rw [lockKey, String.length_append] at hlength
  simp at hlength

theorem lockKey_injective {k k' : String} (h : lockKey k = lockKey k') : k = k' := by
  have hlist := congrArg String.toList h
  rw [lockKey, lockKey, String.toList_append, String.toList_append] at hlist
  exact String.toList_inj.mp (List.append_cancel_left hlist)

namespace CaseMutationCoordinator

variable {τ : Type}

/-- The locks of the conversations. -/
instance conversationLocks : LockTable String τ (CaseMutationCoordinator τ) where
  lock c k := (c.getLock (lockKey k)).1
  put c k lock := c.setLock (lockKey k) lock
  lock_put_self c k lock := c.getLock_setLock_self (lockKey k) lock
  lock_put_of_ne h c lock := getLock_setLock_of_ne (fun hkey => h (lockKey_injective hkey)) c lock

/-- A task that comes to the block of a conversation meets the lock of that conversation. -/
theorem serialize_lockKey (c : CaseMutationCoordinator τ) (k : String) (t : τ) :
    c.serialize (lockKey k) t =
      .ok (LockTable.put c k ((LockTable.lock c k).acquire t).1,
        ((LockTable.lock c k).acquire t).2) := by
  unfold serialize
  rw [if_neg (lockKey_ne_empty k)]
  simp only [setLock_getLock]
  rfl

/-- A coordinator that nobody has asked has free locks only. -/
theorem lock_empty (k : String) : LockTable.lock (empty : CaseMutationCoordinator τ) k = .fresh :=
  rfl

end CaseMutationCoordinator

end AfterSales
