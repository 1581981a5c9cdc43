import AfterSales.Lib.Interleave
import Mathlib.Data.List.Infix

/-! What only grows.

    A list of records grows when each of them is kept as a relation says, and new ones come after
    them. What every move of a machine does to the private state of its key, and to the shared one,
    a whole run does when it is a preorder. -/

namespace Interleave

variable {α β : Type}

/-- The records are kept in their places, and others follow. -/
inductive Grown (R : α → α → Prop) : List α → List α → Prop
  | nil (later : List α) : Grown R [] later
  | cons {a b : α} {xs ys : List α} (head : R a b) (tail : Grown R xs ys) :
      Grown R (a :: xs) (b :: ys)

namespace Grown

variable {R : α → α → Prop} {xs ys zs : List α}

theorem append (hrefl : ∀ a, R a a) (xs later : List α) : Grown R xs (xs ++ later) := by
  induction xs with
  | nil => exact .nil later
  | cons a xs ih => exact .cons (hrefl a) ih

theorem refl (hrefl : ∀ a, R a a) (xs : List α) : Grown R xs xs := by
  simpa using append hrefl xs []

theorem trans (htrans : ∀ a b c, R a b → R b c → R a c) (h : Grown R xs ys) (h' : Grown R ys zs) :
    Grown R xs zs := by
  induction h generalizing zs with
  | nil => exact .nil zs
  | cons head _ ih =>
    cases h' with
    | cons head' tail' => exact .cons (htrans _ _ _ head head') (ih tail')

/-- Every record is replaced by one that is related to it. -/
theorem map (f : α → α) (hf : ∀ a ∈ xs, R a (f a)) : Grown R xs (xs.map f) := by
  induction xs with
  | nil => exact .nil _
  | cons a xs ih =>
    exact .cons (hf a List.mem_cons_self) (ih fun b hb => hf b (List.mem_cons_of_mem a hb))

/-- The last record is replaced. -/
theorem last (hrefl : ∀ a, R a a) {a b : α} (xs : List α) (h : R a b) :
    Grown R (xs ++ [a]) (xs ++ [b]) := by
  induction xs with
  | nil => exact .cons h (.nil _)
  | cons c xs ih => exact .cons (hrefl c) ih

/-- A record is found again in its place. -/
theorem getElem? (h : Grown R xs ys) {i : Nat} {a : α} (ha : xs[i]? = some a) :
    ∃ b, ys[i]? = some b ∧ R a b := by
  induction h generalizing i with
  | nil => simp at ha
  | cons head _ ih =>
    cases i with
    | zero =>
      obtain rfl := Option.some.inj ha
      exact ⟨_, rfl, head⟩
    | succ i => exact ih ha

theorem length_le (h : Grown R xs ys) : xs.length ≤ ys.length := by
  induction h with
  | nil => exact Nat.zero_le _
  | cons _ _ ih => exact Nat.succ_le_succ ih

end Grown

/-! ### Runs -/

variable {κ Λ Ξ Γ ℓ ρ : Type} [DecidableEq κ] {program : κ → ρ → Prog (Λ × Ξ) ℓ α}
  {environment : Ξ → Ξ → Prop} {assumes : κ → ℓ → Λ × Ξ → Prop} {machine : κ → Machine Γ Λ Ξ ℓ α}
  {J : κ → Γ → Λ → Ξ → Prop} {g g' : Config κ Λ Ξ ℓ ρ α}

/-- What the moves of a key do to its private state, whole runs do. -/
theorem Reaches.relates {R : Λ → Λ → Prop} [IsPreorder Λ R] {k : κ}
    (follows : ∀ k r l s, (machine k).inv (machine k).idle l s →
      Follows (machine k) (fun a γ _ => (machine k).ended a γ) (program k r) (machine k).idle l)
    (base : Preserved machine environment assumes fun k => (machine k).inv)
    (keeps : Preserved machine environment assumes J) (hinit : Simulated machine J g)
    (hmove : ∀ {γ label γ' x y}, (machine k).inv γ x.1 x.2 → J k γ x.1 x.2 →
      (machine k).move label γ x γ' y → R x.1 y.1)
    (h : Reaches program environment assumes g g') : R (g.stores k) (g'.stores k) := by
  induction h with
  | refl => exact refl_of R _
  | @tail b c hreach hstep ih =>
    have hbefore : Reaches program environment assumes g b := hreach
    refine trans_of R ih ?_
    rcases hstep.changes (hbefore.simulated follows base keeps hinit) k with hsame | hmoved
    · rw [hsame]
      exact refl_of R _
    · obtain ⟨γ, label, γ', hinv, hJ, hmoved⟩ := hmoved
      exact hmove hinv hJ hmoved

/-- What all moves and the environment do to the shared state, whole runs do. -/
theorem Reaches.relates_shared {R : Ξ → Ξ → Prop} [IsPreorder Ξ R]
    (follows : ∀ k r l s, (machine k).inv (machine k).idle l s →
      Follows (machine k) (fun a γ _ => (machine k).ended a γ) (program k r) (machine k).idle l)
    (base : Preserved machine environment assumes fun k => (machine k).inv)
    (keeps : Preserved machine environment assumes J) (hinit : Simulated machine J g)
    (hmove : ∀ {k γ label γ' x y}, (machine k).inv γ x.1 x.2 → J k γ x.1 x.2 →
      (machine k).move label γ x γ' y → R x.2 y.2)
    (hmoves : ∀ {s s'}, environment s s' → R s s')
    (h : Reaches program environment assumes g g') : R g.shared g'.shared := by
  induction h with
  | refl => exact refl_of R _
  | @tail b c hreach hstep ih =>
    have hbefore : Reaches program environment assumes g b := hreach
    have hsimulated := hbefore.simulated follows base keeps hinit
    refine trans_of R ih ?_
    cases hstep with
    | start | finish => exact refl_of R _
    | run k busy due =>
      obtain ⟨γ, γ', hinv, hJ, hmoved⟩ := hsimulated.due busy due
      exact hmove hinv hJ hmoved
    | environment moves => exact hmoves moves

end Interleave
