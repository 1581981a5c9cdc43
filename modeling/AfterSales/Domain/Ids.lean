import AfterSales.Domain.State

/-! Identities of stored rows and of the simulated write.

    A generated id is fresh: no two rows share one, in one conversation or in two. It is modelled by
    the conversation that owns the row and a serial number, and the id of a proposal also by the
    case it was drawn for. The ids of an action, its idempotency key and its ticket are digests of
    that proposal; each is modelled by what it digests. Their spelling as text is a parameter that
    keeps different ids different. -/

namespace AfterSales

/-- An id drawn by `_new_id` in one conversation. -/
structure RowId where
  conversationId : String
  serial : Nat
  deriving DecidableEq, Repr

structure ProposalId where
  caseId : RowId
  serial : Nat
  deriving DecidableEq, Repr

/-- What `stable_action_identity` digests. -/
structure ActionIdentity where
  proposalId : ProposalId
  version : Nat
  deriving DecidableEq, Repr

/-- `act_…`: the digest of the identity under which an action is stored. -/
structure ActionId where
  identity : ActionIdentity
  deriving DecidableEq, Repr

/-- `idem_…`: the digest of the identity under which a write is submitted. -/
structure IdempotencyKey where
  identity : ActionIdentity
  deriving DecidableEq, Repr

/-- `stable_ticket_id`: the digest of the key a ticket was written under. -/
structure TicketId where
  key : IdempotencyKey
  deriving DecidableEq, Repr

/-- The spelling of ids as text. -/
class IdText where
  row : RowId → String
  ticket : TicketId → String
  row_injective : Function.Injective row
  ticket_injective : Function.Injective ticket

/-! ### A spelling -/

namespace IdText

/-- Writes a number so that what follows it can be told apart. -/
def spellNat : Nat → List Char → List Char
  | 0, rest => '0' :: rest
  | n + 1, rest => '1' :: spellNat n rest

/-- Writes a text so that what follows it can be told apart. -/
def spellText : List Char → List Char → List Char
  | [], rest => '0' :: rest
  | c :: cs, rest => '1' :: c :: spellText cs rest

theorem spellNat_inj {m n : Nat} {r s : List Char} (h : spellNat m r = spellNat n s) :
    m = n ∧ r = s := by
  induction m generalizing n with
  | zero =>
    cases n with
    | zero => exact ⟨rfl, (List.cons.inj h).2⟩
    | succ n => exact absurd (List.cons.inj h).1 (by decide)
  | succ m ih =>
    cases n with
    | zero => exact absurd (List.cons.inj h).1 (by decide)
    | succ n =>
      obtain ⟨rfl, hrest⟩ := ih (List.cons.inj h).2
      exact ⟨rfl, hrest⟩

theorem spellText_inj {a b r s : List Char} (h : spellText a r = spellText b s) :
    a = b ∧ r = s := by
  induction a generalizing b with
  | nil =>
    cases b with
    | nil => exact ⟨rfl, (List.cons.inj h).2⟩
    | cons => exact absurd (List.cons.inj h).1 (by decide)
  | cons c cs ih =>
    cases b with
    | nil => exact absurd (List.cons.inj h).1 (by decide)
    | cons d ds =>
      obtain ⟨hc, htail⟩ := List.cons.inj (List.cons.inj h).2
      obtain ⟨rfl, hrest⟩ := ih htail
      exact ⟨by rw [hc], hrest⟩

def spellRow (id : RowId) : List Char :=
  spellText id.conversationId.toList (spellNat id.serial [])

def spellTicket (id : TicketId) : List Char :=
  spellText id.key.identity.proposalId.caseId.conversationId.toList
    (spellNat id.key.identity.proposalId.caseId.serial
      (spellNat id.key.identity.proposalId.serial (spellNat id.key.identity.version [])))

/-- One spelling that keeps different ids different. -/
abbrev spelled : IdText where
  row id := String.ofList (spellRow id)
  ticket id := String.ofList (spellTicket id)
  row_injective := by
    rintro ⟨a, m⟩ ⟨b, n⟩ h
    obtain ⟨htext, hrest⟩ := spellText_inj (String.ofList_injective h)
    obtain ⟨rfl, -⟩ := spellNat_inj hrest
    exact congrArg (RowId.mk · m) (String.toList_inj.mp htext)
  ticket_injective := by
    rintro ⟨⟨⟨⟨⟨a, m⟩, i⟩, v⟩⟩⟩ ⟨⟨⟨⟨⟨b, n⟩, j⟩, w⟩⟩⟩ h
    obtain ⟨htext, hrest⟩ := spellText_inj (String.ofList_injective h)
    obtain ⟨rfl, hrest⟩ := spellNat_inj hrest
    obtain ⟨rfl, hrest⟩ := spellNat_inj hrest
    obtain ⟨rfl, -⟩ := spellNat_inj hrest
    obtain rfl := String.toList_inj.mp htext
    rfl

end IdText

end AfterSales
