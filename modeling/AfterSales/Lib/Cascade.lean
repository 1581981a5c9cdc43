import Mathlib.Data.Option.Basic

/-! Cascades of early returns.

    A decision table is a sequence of rows: each row returns a result or falls through to the next.
    A sequence is an `Option`, with `none` for "fell through". Three kinds of row build it: `guard`
    returns what another cascade returns, `test` returns under a condition, `need` returns unless a
    value is there. `Row E o P` says that whatever `o` returns satisfies `E`, and that `P` is known
    when it falls through; each kind of row has one rule, and one equivalence for tables whose
    outcome is to be known both ways. -/

namespace Cascade

variable {ρ β : Type*}

/-- Return what `o` returns, else go on with `k`. -/
def guard (o k : Option ρ) : Option ρ :=
  match o with
  | some r => some r
  | none => k

/-- Return `r` under `c`, else go on with `k`. -/
def test (c : Prop) [Decidable c] (r : ρ) (k : Option ρ) : Option ρ :=
  if c then some r else k

/-- Go on with the value of `o`, or return `r` when there is none. -/
def need (o : Option β) (r : ρ) (k : β → Option ρ) : Option ρ :=
  match o with
  | some b => k b
  | none => some r

@[simp] theorem guard_none (k : Option ρ) : guard none k = k := rfl

@[simp] theorem guard_some (r : ρ) (k : Option ρ) : guard (some r) k = some r := rfl

@[simp] theorem need_some (b : β) (r : ρ) (k : β → Option ρ) : need (some b) r k = k b := rfl

@[simp] theorem test_of_not {c : Prop} [Decidable c] (h : ¬ c) (r : ρ) (k : Option ρ) :
    test c r k = k := if_neg h

theorem test_of {c : Prop} [Decidable c] (h : c) (r : ρ) (k : Option ρ) : test c r k = some r :=
  if_pos h

/-- Every returned result satisfies `E`; falling through establishes `P`. -/
def Row (E : ρ → Prop) (o : Option ρ) (P : Prop) : Prop :=
  match o with
  | some r => E r
  | none => P

variable {E : ρ → Prop} {P Q : Prop}

theorem Row.of_cases {o : Option ρ} (hsome : ∀ r, o = some r → E r) (hnone : o = none → P) :
    Row E o P := by
  cases o with
  | some r => exact hsome r rfl
  | none => exact hnone rfl

theorem Row.returns {o : Option ρ} (h : Row E o P) {r : ρ} (ho : o = some r) : E r := by
  subst ho; exact h

theorem Row.falls_through {o : Option ρ} (h : Row E o P) (ho : o = none) : P := by
  subst ho; exact h

/-- A table whose rows all avoid `bad` ends badly only through its last result. -/
theorem Row.getD {o : Option ρ} {last : ρ} {bad : ρ → Prop} (h : Row (fun r => ¬ bad r) o P)
    (hbad : bad (o.getD last)) : P ∧ bad last := by
  cases o with
  | some r => exact absurd hbad h
  | none => exact ⟨h, hbad⟩

theorem Row.done (h : P) : Row E none P := h

theorem Row.guard {o k : Option ρ} (ho : Row E o P) (hk : P → Row E k Q) :
    Row E (guard o k) Q := by
  cases o with
  | some r => exact ho
  | none => exact hk ho

theorem Row.test {c : Prop} [Decidable c] {r : ρ} {k : Option ρ} (hr : c → E r)
    (hk : ¬ c → Row E k Q) : Row E (test c r k) Q := by
  unfold Cascade.test
  by_cases hc : c
  · rw [if_pos hc]; exact hr hc
  · rw [if_neg hc]; exact hk hc

theorem Row.need {o : Option β} {r : ρ} {k : β → Option ρ} (hr : o = none → E r)
    (hk : ∀ b, o = some b → Row E (k b) Q) : Row E (need o r k) Q := by
  cases o with
  | some b => exact hk b rfl
  | none => exact hr rfl

/-! ### Both ways -/

@[simp] theorem row_none : Row E none P ↔ P := Iff.rfl

@[simp] theorem row_some {r : ρ} : Row E (some r) P ↔ E r := Iff.rfl

/-- How a whole table comes out, with `last` below its rows. -/
theorem getD_iff_row {o : Option ρ} {last : ρ} : E (o.getD last) ↔ Row E o (E last) := by
  cases o with
  | some r => rfl
  | none => rfl

theorem row_guard_iff {o k : Option ρ} : Row E (guard o k) P ↔ Row E o (Row E k P) := by
  cases o with
  | some r => rfl
  | none => rfl

/-- A test that returns what `E` wants adds its condition, -/
theorem row_test_iff_or {c : Prop} [Decidable c] {r : ρ} {k : Option ρ} (hr : E r) :
    Row E (test c r k) P ↔ c ∨ Row E k P := by
  by_cases hc : c
  · simp [test, hc, hr]
  · simp [hc]

/-- and any other test has to be passed. -/
theorem row_test_iff_and {c : Prop} [Decidable c] {r : ρ} {k : Option ρ} (hr : ¬ E r) :
    Row E (test c r k) P ↔ ¬ c ∧ Row E k P := by
  by_cases hc : c
  · simp [test, hc, hr]
  · simp [hc]

theorem row_need_iff_exists {o : Option β} {r : ρ} {k : β → Option ρ} (hr : ¬ E r) :
    Row E (need o r k) P ↔ ∃ b ∈ o, Row E (k b) P := by
  cases o with
  | some b => simp
  | none => simp [need, hr]

theorem row_iff {o : Option ρ} : Row E o P ↔ (∃ r, o = some r ∧ E r) ∨ (o = none ∧ P) := by
  cases o with
  | some r => simp
  | none => simp

end Cascade
