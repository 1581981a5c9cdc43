import Mathlib.Data.List.Nodup
import Mathlib.Data.List.Perm.Basic
import Mathlib.Data.List.Induction
import Mathlib.Data.List.Sort

/-! A log that is rebuilt from what arrives of it, in any order and more than once.

    Each element has an identity and a rank. An arrival is dropped when its identity is there
    already, and is put in the order of the ranks otherwise. Where identities and ranks tell the
    elements of the log apart, what is rebuilt depends on the set of arrivals only. -/

universe u v

namespace Arrivals

variable {α : Type u} {κ : Type v} [DecidableEq κ]

/-- The elements in the order of their ranks. -/
def inOrder (rank : α → Nat) (l : List α) : List α :=
  l.insertionSort fun a b => rank a ≤ rank b

/-- One arrival. -/
def receive (ident : α → κ) (rank : α → Nat) (current : List α) (a : α) : List α :=
  if current.any fun b => ident b = ident a then current else inOrder rank (current ++ [a])

/-! ### Order -/

section Order

variable {rank : α → Nat} {l l' : List α}

theorem inOrder_perm (rank : α → Nat) (l : List α) : (inOrder rank l).Perm l :=
  List.perm_insertionSort _ l

theorem mem_inOrder {a : α} : a ∈ inOrder rank l ↔ a ∈ l := (inOrder_perm rank l).mem_iff

theorem inOrder_sorted (rank : α → Nat) (l : List α) :
    (inOrder rank l).Pairwise fun a b => rank a ≤ rank b := by
  have : IsTrans α fun a b => rank a ≤ rank b := ⟨fun _ _ _ => Nat.le_trans⟩
  have : Std.Total fun a b : α => rank a ≤ rank b := ⟨fun _ _ => Nat.le_total _ _⟩
  exact List.pairwise_insertionSort _ l

theorem inOrder_of_sorted (h : l.Pairwise fun a b => rank a ≤ rank b) : inOrder rank l = l := by
  rw [inOrder]
  exact h.insertionSort_eq

/-- Elements of one rank are the same. -/
def RanksApart (rank : α → Nat) (l : List α) : Prop :=
  ∀ a ∈ l, ∀ b ∈ l, rank a = rank b → a = b

theorem RanksApart.of_nodup (h : (l.map rank).Nodup) : RanksApart rank l :=
  fun _ ha _ hb => List.inj_on_of_nodup_map h ha hb

/-- The order does not depend on the order before. -/
theorem inOrder_congr (hperm : l.Perm l') (hranks : RanksApart rank l) :
    inOrder rank l = inOrder rank l' := by
  have hsame : (inOrder rank l).Perm (inOrder rank l') :=
    (inOrder_perm rank l).trans (hperm.trans (inOrder_perm rank l').symm)
  refine hsame.eq_of_pairwise ?_ (inOrder_sorted rank l) (inOrder_sorted rank l')
  intro a b ha hb hab hba
  exact hranks a (mem_inOrder.mp ha) b (hperm.mem_iff.mpr (mem_inOrder.mp hb))
    (Nat.le_antisymm hab hba)

end Order

/-! ### Arrivals -/

section Receive

variable {ident : α → κ} {rank : α → Nat} {log arrivals current : List α} {a b : α}

/-- Elements of one identity are the same. -/
def IdentsApart (ident : α → κ) (l : List α) : Prop :=
  ∀ a ∈ l, ∀ b ∈ l, ident a = ident b → a = b

theorem receive_new (h : ∀ b ∈ current, ident b ≠ ident a) :
    receive ident rank current a = inOrder rank (current ++ [a]) := by
  rw [receive, if_neg]
  intro hany
  obtain ⟨b, hb, hsame⟩ := List.any_eq_true.mp hany
  exact h b hb (of_decide_eq_true hsame)

theorem receive_known (hb : b ∈ current) (h : ident b = ident a) :
    receive ident rank current a = current := by
  rw [receive, if_pos]
  exact List.any_eq_true.mpr ⟨b, hb, decide_eq_true h⟩

/-- What has been rebuilt of a log. -/
structure Rebuilt (rank : α → Nat) (arrivals current : List α) : Prop where
  mem : ∀ a, a ∈ current ↔ a ∈ arrivals
  nodup : current.Nodup
  sorted : current.Pairwise fun a b => rank a ≤ rank b

theorem Rebuilt.nil : Rebuilt rank ([] : List α) [] :=
  ⟨fun _ => Iff.rfl, List.nodup_nil, List.Pairwise.nil⟩

/-- One arrival keeps what is rebuilt in order and without repetition. -/
theorem Rebuilt.receive (h : Rebuilt rank arrivals current)
    (hidents : ∀ b ∈ arrivals, ident b = ident a → b = a) :
    Rebuilt rank (arrivals ++ [a]) (receive ident rank current a) := by
  by_cases hknown : a ∈ current
  · rw [receive_known hknown rfl]
    refine ⟨fun b => ?_, h.nodup, h.sorted⟩
    rw [h.mem, List.mem_append, List.mem_singleton]
    constructor
    · exact Or.inl
    · rintro (hb | rfl)
      · exact hb
      · exact (h.mem b).mp hknown
  · have hnew : ∀ b ∈ current, ident b ≠ ident a := by
      intro b hb hsame
      have := hidents b ((h.mem b).mp hb) hsame
      exact hknown (this ▸ hb)
    rw [receive_new hnew]
    refine ⟨fun b => ?_, ?_, inOrder_sorted _ _⟩
    · rw [mem_inOrder, List.mem_append, List.mem_append, h.mem]
    · refine (inOrder_perm _ _).nodup_iff.mpr (List.nodup_append.mpr ⟨h.nodup, ?_, ?_⟩)
      · exact List.nodup_singleton a
      · intro b hb c hc
        rw [List.mem_singleton] at hc
        rintro rfl
        exact hknown (hc ▸ hb)

/-- What has arrived of the log is rebuilt. -/
theorem rebuilt_arrivals (hidents : IdentsApart ident log) (h : ∀ a ∈ arrivals, a ∈ log) :
    Rebuilt rank arrivals (arrivals.foldl (receive ident rank) []) := by
  induction arrivals using List.reverseRecOn with
  | nil => exact .nil
  | append_singleton arrivals a ih =>
    rw [List.foldl_append, List.foldl_cons, List.foldl_nil]
    have hlog : ∀ b ∈ arrivals, b ∈ log := fun b hb => h b (List.mem_append_left _ hb)
    have ha : a ∈ log := h a (List.mem_append_right _ (List.mem_singleton_self a))
    exact (ih hlog).receive fun b hb => hidents b (hlog b hb) a ha

/-- Once all of the log has arrived, it is rebuilt in order. -/
theorem receive_all (hidents : IdentsApart ident log) (hranks : RanksApart rank log)
    (hnodup : log.Nodup) (h : ∀ a, a ∈ arrivals ↔ a ∈ log) :
    arrivals.foldl (receive ident rank) [] = inOrder rank log := by
  have hrebuilt : Rebuilt rank arrivals (arrivals.foldl (receive ident rank) []) :=
    rebuilt_arrivals hidents fun a => (h a).mp
  have hperm : (arrivals.foldl (receive ident rank) []).Perm log :=
    (List.perm_ext_iff_of_nodup hrebuilt.nodup hnodup).mpr fun a => (hrebuilt.mem a).trans (h a)
  have hapart : RanksApart rank (arrivals.foldl (receive ident rank) []) :=
    fun a ha b hb => hranks a (hperm.mem_iff.mp ha) b (hperm.mem_iff.mp hb)
  rw [← inOrder_of_sorted hrebuilt.sorted]
  exact inOrder_congr hperm hapart

end Receive

end Arrivals
