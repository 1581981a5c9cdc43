import AfterSales.Lib.Interleave

/-! What a program comes to, whatever others do meanwhile.

    A program works beside others that leave the shared state in `I`. It comes to a step of a kind
    when such a step lies on each of its ways; the first one on a way has to find `R`, and the
    private state has `P` until then. There is one rule for each way to build a program. -/

namespace Interleave

variable {σ ℓ ε α β δ Λ Ξ : Type}

/-! ### Sequences -/

theorem Prog.bind_assoc (p : Prog σ ℓ α) (f : α → Prog σ ℓ β) (g : β → Prog σ ℓ δ) :
    (p.bind f).bind g = p.bind fun a => (f a).bind g := by
  induction p with
  | done a => rfl
  | atom label update next ih =>
    simp only [Prog.bind, ih]

theorem Op.bind_assoc (x : Op σ ℓ ε α) (f : α → Op σ ℓ ε β) (g : β → Op σ ℓ ε δ) :
    x >>= f >>= g = x >>= fun a => f a >>= g := by
  refine (Prog.bind_assoc x _ _).trans (congrArg (Prog.bind x) (funext fun r => ?_))
  cases r with
  | ok a => rfl
  | error e => rfl

/-! ### Coming to a step -/

/-- The program comes to a step of a kind, which finds `R`; until then `P` holds. -/
def Prog.ComesTo (I : Ξ → Prop) (kind : ℓ → Prop) (R : Λ × Ξ → Prop) (P : Λ → Prop) :
    Prog (Λ × Ξ) ℓ α → Λ → Prop
  | .done _, _ => False
  | .atom label update next, l => ∀ s, I s →
      (kind label → R (l, s)) ∧
      (¬ kind label →
        P (update (l, s)).1 ∧ ComesTo I kind R P (next (l, s)) (update (l, s)).1)

namespace Prog.ComesTo

variable {I : Ξ → Prop} {kind : ℓ → Prop} {R : Λ × Ξ → Prop} {P : Λ → Prop} {l : Λ}
  {label : ℓ} {C : Prop}

/-- A program that begins with a step of the kind. -/
theorem found_iff {update : Λ × Ξ → Λ × Ξ} {next : Λ × Ξ → Prog (Λ × Ξ) ℓ α}
    {p : Prog (Λ × Ξ) ℓ α} (hp : p = .atom label update next) (hkind : kind label)
    (hsome : ∃ s, I s) (h : ∀ s, I s → (R (l, s) ↔ C)) : ComesTo I kind R P p l ↔ C := by
  subst hp
  constructor
  · intro hcomes
    obtain ⟨s, hs⟩ := hsome
    exact (h s hs).mp ((hcomes s hs).1 hkind)
  · intro hC s hs
    exact ⟨fun _ => (h s hs).mpr hC, fun hother => absurd hkind hother⟩

variable {t : Transaction (Λ × Ξ) ε α} {f : α → Op (Λ × Ξ) ℓ ε β}

/-- A program that begins with another transaction, and goes on. -/
theorem next_iff (hother : ¬ kind label) (hsome : ∃ s, I s)
    (h : ∀ s, I s → ∃ a l' s', t (l, s) = .ok (a, (l', s')) ∧ P l' ∧
      (ComesTo I kind R P (f a) l' ↔ C)) :
    ComesTo I kind R P (Op.segment label (Transaction.commit t) >>= f : Op (Λ × Ξ) ℓ ε β) l ↔ C := by
  constructor
  · intro hcomes
    obtain ⟨s, hs⟩ := hsome
    obtain ⟨a, l', s', ht, -, hrest⟩ := h s hs
    have hgo := ((hcomes s hs).2 hother).2
    simp only [Transaction.commit_ok ht] at hgo
    exact hrest.mp hgo
  · intro hC s hs
    obtain ⟨a, l', s', ht, hP, hrest⟩ := h s hs
    refine ⟨fun hkind => absurd hkind hother, fun _ => ?_⟩
    simp only [Transaction.commit_ok ht]
    exact ⟨hP, hrest.mpr hC⟩

/-- A program that begins with another transaction, after which `P` does not hold, comes to no step
    of the kind. -/
theorem not_of_broken {s : Ξ} {a : α} {l' : Λ} {s' : Ξ} (hother : ¬ kind label) (hs : I s)
    (ht : t (l, s) = .ok (a, (l', s'))) (hbroken : ¬ P l') :
    ¬ ComesTo I kind R P (Op.segment label (Transaction.commit t) >>= f : Op (Λ × Ξ) ℓ ε β) l := by
  intro hcomes
  have hP := ((hcomes s hs).2 hother).1
  simp only [Transaction.commit_ok ht] at hP
  exact hbroken hP

end Prog.ComesTo

end Interleave
