import Mathlib.Data.List.Nodup
import Mathlib.Data.Option.Basic

/-! Lists of records with a key: lookup, update in place, and the invariants they keep.

    A store keeps its records as a list in insertion order; each record has a key. `find` reads the
    first record of a key, `modify` rewrites the records of a key in place. When the keys have no
    duplicates, `find` is the inverse of membership, and a rewrite that keeps keys changes exactly
    one record. -/

namespace Keyed

variable {α κ : Type*} [DecidableEq κ] (key : α → κ)

/-- The record stored under `k`. -/
def find (k : κ) (l : List α) : Option α := l.find? fun a => decide (key a = k)

/-- Rewrite the record stored under `k`. -/
def modify (k : κ) (f : α → α) (l : List α) : List α :=
  l.map fun a => if key a = k then f a else a

@[simp] theorem find_nil (k : κ) : find key k [] = none := rfl

theorem find_cons (k : κ) (a : α) (l : List α) :
    find key k (a :: l) = if key a = k then some a else find key k l := by
  unfold find
  by_cases h : key a = k
  · simp [h]
  · rw [List.find?_cons_of_neg (by simpa using h), if_neg h]

/-- What `find` returns is a stored record of that key. -/
theorem find_some {k : κ} {l : List α} {a : α} (h : find key k l = some a) :
    a ∈ l ∧ key a = k :=
  ⟨List.mem_of_find?_eq_some h, by simpa using List.find?_some h⟩

theorem find_eq_none {k : κ} {l : List α} : find key k l = none ↔ ∀ a ∈ l, key a ≠ k := by
  simp [find]

/-- Without duplicate keys a stored record is the one its key finds. -/
theorem find_of_mem : ∀ {l : List α} {a : α}, (l.map key).Nodup → a ∈ l →
    find key (key a) l = some a
  | b :: l, a, hnd, hmem => by
    rw [List.map_cons, List.nodup_cons] at hnd
    rw [find_cons]
    rcases List.mem_cons.mp hmem with rfl | hrest
    · rw [if_pos rfl]
    · have hne : key b ≠ key a := fun h => hnd.1 (h ▸ List.mem_map_of_mem hrest)
      rw [if_neg hne]
      exact find_of_mem hnd.2 hrest

/-- The last record is found under its key, also after a rewrite that keeps the key. -/
theorem find_last {l : List α} {a b : α} (hnd : ((l ++ [a]).map key).Nodup) (hkey : key b = key a) :
    find key (key a) (l ++ [b]) = some b := by
  have hnd' : ((l ++ [b]).map key).Nodup := by
    simpa [hkey] using hnd
  rw [← hkey]
  exact find_of_mem key hnd' (by simp)

/-- A rewrite of the last record. -/
theorem modify_last {l : List α} {a : α} {f : α → α} (hnd : ((l ++ [a]).map key).Nodup) :
    modify key (key a) f (l ++ [a]) = l ++ [f a] := by
  have hother : ∀ b ∈ l, key b ≠ key a := by
    intro b hb h
    rw [List.map_append, List.nodup_append] at hnd
    exact hnd.2.2 (key b) (List.mem_map_of_mem hb) (key a) (by simp) h
  rw [modify, List.map_append]
  congr 1
  · refine (List.map_congr_left fun b hb => if_neg (hother b hb)).trans (List.map_id l)
  · simp

end Keyed
