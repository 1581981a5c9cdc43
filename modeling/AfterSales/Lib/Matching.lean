import Mathlib.Data.Fintype.Card
import Mathlib.Data.Fintype.EquivFin
import Mathlib.Data.List.FinRange

/-! Entries of a list given out, each to one demand only.

    Whether there are enough entries of a kind for all demands is told by counting. -/

namespace Matching

variable {α : Type*} {p : α → Prop} [DecidablePred p]

theorem card_entries (l : List α) :
    Fintype.card {i : Fin l.length // p (l.get i)} = l.countP p := by
  induction l with
  | nil => exact Fintype.card_eq_zero_iff.mpr ⟨fun i => i.1.elim0⟩
  | cons x l ih =>
    rw [List.countP_cons, ← ih, Fintype.card_subtype, Fintype.card_subtype,
      Fin.univ_succ, Finset.filter_cons]
    split_ifs with h <;> simp_all [Finset.filter_map]

/-- Each of `n` demands can have an entry of its own, exactly when there are that many. -/
theorem exists_own_iff (l : List α) (n : Nat) :
    (∃ own : Fin n → Fin l.length, own.Injective ∧ ∀ i, p (l.get (own i))) ↔ n ≤ l.countP p := by
  constructor
  · rintro ⟨own, hinjective, hmeets⟩
    have hcard := Fintype.card_le_of_injective
      (fun i => (⟨own i, hmeets i⟩ : {i : Fin l.length // p (l.get i)}))
      fun i j h => hinjective (congrArg Subtype.val h)
    rwa [Fintype.card_fin, card_entries] at hcard
  · intro h
    rw [← card_entries, ← Fintype.card_fin n] at h
    obtain ⟨own⟩ := Function.Embedding.nonempty_of_card_le h
    exact ⟨fun i => (own i).1, Subtype.val_injective.comp own.injective, fun i => (own i).2⟩

end Matching
