import Mathlib.Data.List.Dedup
import Mathlib.Data.List.Perm.Basic
import Mathlib.Data.List.Sort

/-! Elements grouped by a key, and the keys that are there in their order.

    A key is there when one element has it. The keys depend on which elements there are and not on
    their order, a group on its own elements only, and a map that keeps every key maps the groups. -/

universe u v

namespace Grouping

variable {α : Type u} {κ : Type v} [LinearOrder κ]

/-- The elements of a key, in the order of the list. -/
def ofKey (key : α → κ) (l : List α) (k : κ) : List α := l.filter fun a => key a = k

/-- The keys that are there. -/
def keys (key : α → κ) (l : List α) : List κ := ((l.map key).dedup).insertionSort (· ≤ ·)

section

variable {key : α → κ} {l l' : List α} {f : α → α} {a : α} {k : κ}

@[simp]
theorem mem_ofKey : a ∈ ofKey key l k ↔ a ∈ l ∧ key a = k := by
  simp [ofKey]

@[simp]
theorem mem_keys : k ∈ keys key l ↔ ∃ a ∈ l, key a = k := by
  simp [keys]

theorem keys_nodup (key : α → κ) (l : List α) : (keys key l).Nodup :=
  (List.perm_insertionSort _ _).nodup_iff.mpr (List.nodup_dedup _)

/-- A key that is there has an element. -/
theorem ofKey_ne_nil (h : k ∈ keys key l) : ofKey key l k ≠ [] := by
  obtain ⟨a, ha, rfl⟩ := mem_keys.mp h
  exact List.ne_nil_of_mem (mem_ofKey.mpr ⟨ha, rfl⟩)

/-! ### Order of the elements -/

theorem ofKey_perm (h : l.Perm l') (k : κ) : (ofKey key l k).Perm (ofKey key l' k) :=
  h.filter _

theorem ofKey_reverse (l : List α) (k : κ) :
    ofKey key l.reverse k = (ofKey key l k).reverse := by
  rw [ofKey, ofKey, List.filter_reverse]

theorem keys_perm (h : l.Perm l') : keys key l = keys key l' := by
  have hsame : (keys key l).Perm (keys key l') :=
    (List.perm_insertionSort _ _).trans
      ((h.map key).dedup.trans (List.perm_insertionSort _ _).symm)
  exact hsame.eq_of_sortedLE (List.sortedLE_insertionSort) (List.sortedLE_insertionSort)

/-! ### Maps that keep the keys -/

theorem ofKey_map (h : ∀ a ∈ l, key (f a) = key a) (k : κ) :
    ofKey key (l.map f) k = (ofKey key l k).map f := by
  rw [ofKey, ofKey, List.filter_map]
  congr 1
  apply List.filter_congr
  intro a ha
  simp only [Function.comp_apply, h a ha]

theorem keys_map (h : ∀ a ∈ l, key (f a) = key a) : keys key (l.map f) = keys key l := by
  have hkeys : (l.map f).map key = l.map key := by
    rw [List.map_map]
    exact List.map_congr_left h
  rw [keys, keys, hkeys]

end

/-- What is left of a list when its first elements are taken away. -/
theorem filter_notMem_take {β : Type u} [BEq β] [LawfulBEq β] {l : List β} (h : l.Nodup) (n : Nat) :
    l.filter (· ∉ l.take n) = l.drop n := by
  have hparts := List.take_append_drop n l
  have hapart : (l.take n).Disjoint (l.drop n) := by
    rw [← hparts, List.nodup_append] at h
    intro b htake hdrop
    exact h.2.2 b htake b hdrop rfl
  have htake : (l.take n).filter (· ∉ l.take n) = [] := by
    rw [List.filter_eq_nil_iff]
    intro b hb
    simp [hb]
  have hdrop : (l.drop n).filter (· ∉ l.take n) = l.drop n := by
    rw [List.filter_eq_self]
    intro b hb
    simpa using fun hb' => hapart hb' hb
  calc l.filter (· ∉ l.take n) = (l.take n ++ l.drop n).filter (· ∉ l.take n) := by rw [hparts]
    _ = l.drop n := by rw [List.filter_append, htake, hdrop, List.nil_append]

end Grouping
