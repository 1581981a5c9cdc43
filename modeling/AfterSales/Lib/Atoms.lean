import AfterSales.Lib.Chronicle

/-! What the steps of a program do.

    A machine tells of a step which move it is seen to make; which update the program has at that
    place it does not tell. A kind relates labels to updates. Where every step of a program is of a
    kind, its machine may look at the updates as well, and so does every chronicle. -/

namespace Interleave

variable {σ ℓ ε α β κ ρ Γ Λ Ξ : Type}

/-- Every step that a program may come to is of a kind. -/
def Prog.Every (kind : ℓ → (σ → σ) → Prop) : Prog σ ℓ α → Prop
  | .done _ => True
  | .atom label update next => kind label update ∧ ∀ s, (next s).Every kind

variable {kind kind' : ℓ → (σ → σ) → Prop}

namespace Prog.Every

theorem bind {p : Prog σ ℓ α} {f : α → Prog σ ℓ β} (h : p.Every kind)
    (hf : ∀ a, (f a).Every kind) : (p.bind f).Every kind := by
  induction p with
  | done a => exact hf a
  | atom label update next ih => exact ⟨h.1, fun s => ih s (h.2 s)⟩

theorem mono {p : Prog σ ℓ α} (hkind : ∀ label update, kind label update → kind' label update)
    (h : p.Every kind) : p.Every kind' := by
  induction p with
  | done a => trivial
  | atom label update next ih => exact ⟨hkind label update h.1, fun s => ih s (h.2 s)⟩

end Prog.Every

/-- Every step that an operation may come to is of a kind. -/
def Op.Every (kind : ℓ → (σ → σ) → Prop) (x : Op σ ℓ ε α) : Prop := Prog.Every kind x

namespace Op.Every

variable {x : Op σ ℓ ε α}

theorem mono (hkind : ∀ label update, kind label update → kind' label update)
    (h : x.Every kind) : x.Every kind' :=
  Prog.Every.mono hkind h

theorem pure (a : α) : Op.Every kind (Pure.pure a : Op σ ℓ ε α) := trivial

theorem throw (e : ε) : Op.Every kind (Op.throw e : Op σ ℓ ε α) := trivial

theorem bind {f : α → Op σ ℓ ε β} (h : x.Every kind) (hf : ∀ a, (f a).Every kind) :
    Op.Every kind (x >>= f) := by
  refine Prog.Every.bind h fun r => ?_
  cases r with
  | ok a => exact hf a
  | error e => trivial

theorem tryCatch {handler : ε → Op σ ℓ ε α} (h : x.Every kind)
    (hhandler : ∀ e, (handler e).Every kind) : (Op.tryCatch x handler).Every kind := by
  refine Prog.Every.bind h fun r => ?_
  cases r with
  | ok a => trivial
  | error e => exact hhandler e

theorem segment {label : ℓ} {f : σ → Except ε α × σ} (h : kind label fun s => (f s).2) :
    (Op.segment label f).Every kind :=
  ⟨h, fun _ => trivial⟩

theorem forM {f : β → Op σ ℓ ε PUnit} (hf : ∀ b, (f b).Every kind) (bs : List β) :
    Op.Every kind (bs.forM f) := by
  induction bs with
  | nil => exact pure _
  | cons b bs ih => exact bind (hf b) fun _ => ih

end Op.Every

/-! ### Machines that look at the updates -/

section Along

variable {kind : ℓ → (Λ × Ξ → Λ × Ξ) → Prop}

/-- A machine that sees of its moves also that a step of a kind makes them. -/
def Machine.along (m : Machine Γ Λ Ξ ℓ α) (kind : ℓ → (Λ × Ξ → Λ × Ξ) → Prop) :
    Machine Γ Λ Ξ ℓ α :=
  { m with move := fun label γ x γ' y =>
      m.move label γ x γ' y ∧ ∃ update, kind label update ∧ y = update x }

theorem Follows.along {m : Machine Γ Λ Ξ ℓ β} {Q : α → Γ → Λ → Prop} {p : Prog (Λ × Ξ) ℓ α} {γ : Γ}
    {l : Λ} (h : Follows m Q p γ l) (hp : p.Every kind) : Follows (m.along kind) Q p γ l := by
  induction p generalizing γ l with
  | done a => exact h
  | atom label update next ih =>
    intro s hinv
    obtain ⟨γ', hmove, hrest⟩ := h s hinv
    exact ⟨γ', ⟨hmove, update, hp.1, rfl⟩, ih _ hrest (hp.2 _)⟩

/-- What the moves of a machine keep is kept by fewer moves. -/
theorem Preserved.along {machine : κ → Machine Γ Λ Ξ ℓ α} {environment : Ξ → Ξ → Prop}
    {assumes : κ → ℓ → Λ × Ξ → Prop} {J : κ → Γ → Λ → Ξ → Prop}
    (h : Preserved machine environment assumes J) :
    Preserved (fun k => (machine k).along kind) environment assumes J where
  own hinv hJ hallowed hmove := h.own hinv hJ hallowed hmove.1
  other hne hinv hJ hinv' hJ' hallowed hmove := h.other hne hinv hJ hinv' hJ' hallowed hmove.1
  moves henvironment hinv hJ := h.moves henvironment hinv hJ
  ended hended hinv hJ := h.ended hended hinv hJ

end Along

/-! ### Where something comes from -/

/-- What is found at the end of a chain was there at its start, or a call brought it about. -/
theorem Chain.origin {l l' : Λ} {calls : List (Past κ Λ Ξ ℓ ρ α)} {Q : Λ → Prop}
    {P : Past κ Λ Ξ ℓ ρ α → Prop} (h : Chain l calls l')
    (hback : ∀ past ∈ calls, Q past.left → Q past.begun ∨ P past) (hQ : Q l') :
    Q l ∨ ∃ past ∈ calls, P past := by
  induction calls generalizing l with
  | nil =>
    obtain rfl : l = l' := h
    exact .inl hQ
  | cons past rest ih =>
    obtain ⟨rfl, hrest⟩ := h
    rcases ih hrest fun p hp => hback p (List.mem_cons_of_mem _ hp) with hleft | ⟨p, hp, hP⟩
    · refine (hback past List.mem_cons_self hleft).imp_right fun hP => ?_
      exact ⟨past, List.mem_cons_self, hP⟩
    · exact .inr ⟨p, List.mem_cons_of_mem _ hp, hP⟩

section Requests

variable [DecidableEq κ] {program : κ → ρ → Prog (Λ × Ξ) ℓ α} {environment : Ξ → Ξ → Prop}
  {assumes : κ → ℓ → Λ × Ξ → Prop} {g₀ g : Config κ Λ Ξ ℓ ρ α}
  {doing : κ → List (ℓ × (Λ × Ξ))} {log : List (Past κ Λ Ξ ℓ ρ α)}
  {kind : κ → ρ → ℓ → (Λ × Ξ → Λ × Ξ) → Prop}

/-- The steps of a call are of the kind of its request. -/
def Asked (kind : κ → ρ → ℓ → (Λ × Ξ → Λ × Ξ) → Prop) (k : κ) (r : ρ)
    (steps : List (ℓ × (Λ × Ξ))) : Prop :=
  ∀ step ∈ steps, ∃ update, kind k r step.1 update

/-- The steps of every chronicle are those that were asked for. -/
theorem Chronicles.asked (hkind : ∀ k r, (program k r).Every (kind k r))
    (hidle : ∀ k, g₀.calls k = none)
    (h : Chronicles program environment assumes g₀ g doing log) :
    (∀ k call, g.calls k = some call →
      call.program.Every (kind k call.request) ∧ Asked kind k call.request (doing k)) ∧
      ∀ past ∈ log, Asked kind past.key past.request past.steps := by
  induction h with
  | begin =>
    refine ⟨fun k call hcall => ?_, fun _ hpast => by cases hpast⟩
    rw [hidle k] at hcall
    cases hcall
  | @start g _ _ j r _ idle ih =>
    refine ⟨fun k call hcall => ?_, ih.2⟩
    by_cases e : k = j
    · subst e
      simp only [Function.update_self, Option.some.injEq] at hcall ⊢
      subst hcall
      exact ⟨hkind k r, fun _ hstep => by cases hstep⟩
    · simp only [Function.update_of_ne e] at hcall ⊢
      exact ih.1 k call hcall
  | @run g _ _ j call label update next _ busy due _ ih =>
    refine ⟨fun k call' hcall => ?_, ih.2⟩
    by_cases e : k = j
    · subst e
      simp only [Function.update_self, Option.some.injEq] at hcall ⊢
      subst hcall
      obtain ⟨hevery, hasked⟩ := ih.1 k call busy
      rw [due] at hevery
      refine ⟨hevery.2 _, fun step hstep => ?_⟩
      rcases List.mem_append.mp hstep with hstep | hstep
      · exact hasked step hstep
      · exact ⟨update, List.mem_singleton.mp hstep ▸ hevery.1⟩
    · simp only [Function.update_of_ne e] at hcall ⊢
      exact ih.1 k call' hcall
  | @finish g _ _ j call a _ busy _ ih =>
    refine ⟨fun k call' hcall => ?_, fun past hpast => ?_⟩
    · by_cases e : k = j
      · subst e
        simp only [Function.update_self] at hcall
        cases hcall
      · simp only [Function.update_of_ne e] at hcall
        exact ih.1 k call' hcall
    · rcases List.mem_append.mp hpast with hpast | hpast
      · exact ih.2 past hpast
      · rw [List.mem_singleton.mp hpast]
        exact (ih.1 j call busy).2
  | environment _ _ ih => exact ih

end Requests

end Interleave
