import Mathlib.Logic.Function.Basic
import Mathlib.Logic.Relation
import Mathlib.Order.Defs.Unbundled

/-! Programs of atomic steps, and how they interleave.

    A program works on a private state, which it alone changes, and a shared one, which others
    change between two of its steps. It is a tree of atomic steps, each of them labelled. A machine
    is an abstract view of such a program: it has phases, moves between them, and an invariant for
    each phase. `Follows` says that every step of a program is a move of a machine; it has one rule
    for each way to build a program. Keyed threads run programs, at most one for each key; when they
    follow machines whose moves keep a property, every reachable configuration has it. -/

namespace Interleave

variable {σ ℓ ε α β : Type}

/-- A program: it ends, or takes a step on the state it finds and goes on with what it saw. -/
inductive Prog (σ ℓ α : Type) where
  | done (answer : α)
  | atom (label : ℓ) (update : σ → σ) (next : σ → Prog σ ℓ α)

namespace Prog

def bind : Prog σ ℓ α → (α → Prog σ ℓ β) → Prog σ ℓ β
  | done a, f => f a
  | atom label update next, f => atom label update fun s => (next s).bind f

/-- The run of a program that nothing interrupts: its answer, and the state it leaves. -/
def exec : Prog σ ℓ α → σ → α × σ
  | done a, s => (a, s)
  | atom _ update next, s => (next s).exec (update s)

/-- The steps of that run, each with the state it finds. -/
def steps : Prog σ ℓ α → σ → List (ℓ × σ)
  | done _, _ => []
  | atom label update next, s => (label, s) :: (next s).steps (update s)

end Prog

/-! ### Transactions and operations -/

/-- A transaction reads and changes a state; when it raises, its changes are lost. -/
abbrev Transaction (σ ε α : Type) : Type := StateT σ (Except ε) α

namespace Transaction

theorem bind_ok {x : Transaction σ ε α} {f : α → Transaction σ ε β} {s s' : σ} {a : α}
    (h : x s = .ok (a, s')) : (x >>= f) s = f a s' := by
  show (x s >>= fun p => f p.1 p.2) = _
  rw [h]
  rfl

theorem bind_error {x : Transaction σ ε α} {f : α → Transaction σ ε β} {s : σ} {e : ε}
    (h : x s = .error e) : (x >>= f) s = .error e := by
  show (x s >>= fun p => f p.1 p.2) = _
  rw [h]
  rfl

/-- A sequence that returns has returned from its first part. -/
theorem of_bind_ok {x : Transaction σ ε α} {f : α → Transaction σ ε β} {s : σ} {r : β × σ}
    (h : (x >>= f) s = .ok r) : ∃ a s', x s = .ok (a, s') ∧ f a s' = .ok r := by
  cases hx : x s with
  | error e =>
    rw [bind_error hx] at h
    cases h
  | ok first =>
    rw [bind_ok hx] at h
    exact ⟨first.1, first.2, rfl, h⟩

/-- Run a transaction: its changes are kept when it returns, and undone when it raises. -/
def commit (t : Transaction σ ε α) (s : σ) : Except ε α × σ :=
  match t s with
  | .ok (a, s') => (.ok a, s')
  | .error e => (.error e, s)

theorem commit_ok {t : Transaction σ ε α} {s s' : σ} {a : α} (h : t s = .ok (a, s')) :
    commit t s = (.ok a, s') := by
  simp [commit, h]

theorem commit_error {t : Transaction σ ε α} {s : σ} {e : ε} (h : t s = .error e) :
    commit t s = (.error e, s) := by
  simp [commit, h]

/-! What a transaction does to every state, told by a relation. -/

/-- Where a transaction returns it leads to a state that is related by what it returned, and it
    raises errors of one kind. -/
def Keeps (R : α → σ → σ → Prop) (E : ε → Prop) (t : Transaction σ ε α) : Prop :=
  ∀ s, match t s with
    | .ok r => R r.1 s r.2
    | .error e => E e

namespace Keeps

variable {R : α → σ → σ → Prop} {E : ε → Prop}

theorem of_ok {t : Transaction σ ε α} {s : σ} {r : α × σ} (h : Keeps R E t) (ht : t s = .ok r) :
    R r.1 s r.2 := by
  have hs := h s
  rw [ht] at hs
  exact hs

theorem of_error {t : Transaction σ ε α} {s : σ} {e : ε} (h : Keeps R E t)
    (ht : t s = .error e) : E e := by
  have hs := h s
  rw [ht] at hs
  exact hs

/-- What a transaction does to one state. -/
theorem imp {t : Transaction σ ε α} {s : σ} {P : α → σ → Prop} (h : Keeps R E t)
    (hP : ∀ a s', R a s s' → P a s') :
    match t s with
    | .ok r => P r.1 r.2
    | .error e => E e := by
  cases ht : t s with
  | ok r => exact hP _ _ (h.of_ok ht)
  | error e => exact h.of_error ht

theorem throw {e : ε} (he : E e) : Keeps R E (MonadExcept.throw e : Transaction σ ε α) :=
  fun _ => he

/-- What a sequence keeps is composed of what its parts keep. -/
theorem seq {S : α → β → σ → σ → Prop} {T : β → σ → σ → Prop} {x : Transaction σ ε α}
    {f : α → Transaction σ ε β}
    (hcomp : ∀ a b s s' s'', R a s s' → S a b s' s'' → T b s s'') (hx : Keeps R E x)
    (hf : ∀ a, Keeps (S a) E (f a)) : Keeps T E (x >>= f) := by
  intro s
  cases h : x s with
  | error e =>
    rw [bind_error h]
    exact hx.of_error h
  | ok first =>
    rw [bind_ok h]
    have hrest := hf first.1 first.2
    cases h' : f first.1 first.2 with
    | error e =>
      rw [h'] at hrest
      exact hrest
    | ok second =>
      rw [h'] at hrest
      exact hcomp _ _ _ _ _ (hx.of_ok h) hrest

/-- A transaction whose answer is replaced. -/
theorem returns {T : β → σ → σ → Prop} {x : Transaction σ ε α} {b : β} (hx : Keeps R E x)
    (hT : ∀ a s s', R a s s' → T b s s') :
    Keeps T E (x >>= fun _ => (Pure.pure b : Transaction σ ε β)) := by
  refine seq (S := fun _ c s s' => c = b ∧ s = s') ?_ hx fun _ _ => ⟨rfl, rfl⟩
  rintro a _ s s' _ h ⟨rfl, rfl⟩
  exact hT a s s' h

section Preorder

variable {Q : σ → σ → Prop}

theorem pure [Std.Refl Q] (a : α) : Keeps (fun _ => Q) E (Pure.pure a : Transaction σ ε α) :=
  fun s => Std.Refl.refl s

/-- A sequence keeps a transitive relation when its parts do. -/
theorem bind [IsTrans σ Q] {x : Transaction σ ε α} {f : α → Transaction σ ε β}
    (hx : Keeps (fun _ => Q) E x) (hf : ∀ a, Keeps (fun _ => Q) E (f a)) :
    Keeps (fun _ => Q) E (x >>= f) :=
  seq (fun _ _ _ _ _ => IsTrans.trans _ _ _) hx hf

theorem forM [IsPreorder σ Q] {f : α → Transaction σ ε PUnit}
    (hf : ∀ a, Keeps (fun _ => Q) E (f a)) (as : List α) : Keeps (fun _ => Q) E (as.forM f) := by
  induction as with
  | nil => exact pure _
  | cons a as ih => exact bind (hf a) fun _ => ih

end Preorder

end Keeps

end Transaction

/-- A program that ends with an answer or an error. -/
def Op (σ ℓ ε α : Type) : Type := Prog σ ℓ (Except ε α)

namespace Op

instance : Monad (Op σ ℓ ε) where
  pure a := .done (.ok a)
  bind x f := Prog.bind x fun
    | .ok a => f a
    | .error e => .done (.error e)

def throw (e : ε) : Op σ ℓ ε α := .done (.error e)

def tryCatch (x : Op σ ℓ ε α) (handler : ε → Op σ ℓ ε α) : Op σ ℓ ε α :=
  Prog.bind x fun
    | .ok a => .done (.ok a)
    | .error e => handler e

/-- The part of a program between two awaits: it changes the state, and returns or raises. -/
def segment (label : ℓ) (f : σ → Except ε α × σ) : Op σ ℓ ε α :=
  .atom label (fun s => (f s).2) fun s => .done (f s).1

/-- A look at the state. -/
def view (label : ℓ) (f : σ → α) : Op σ ℓ ε α := segment label fun s => (.ok (f s), s)

end Op

/-! ### Machines -/

variable {Γ Λ Ξ : Type}

/-- An abstract view of a program at work: phases, what holds in each of them of the private and the
    shared state, and the moves that steps of the program are seen to make. -/
structure Machine (Γ Λ Ξ ℓ α : Type) where
  idle : Γ
  ended : α → Γ → Prop
  inv : Γ → Λ → Ξ → Prop
  move : ℓ → Γ → Λ × Ξ → Γ → Λ × Ξ → Prop

/-- From a phase and a private state every step of the program is a move of the machine, whatever
    shared state it finds, and the program ends in `Q`. -/
def Follows (m : Machine Γ Λ Ξ ℓ β) (Q : α → Γ → Λ → Prop) : Prog (Λ × Ξ) ℓ α → Γ → Λ → Prop
  | .done a, γ, l => Q a γ l
  | .atom label update next, γ, l => ∀ s, m.inv γ l s →
      ∃ γ', m.move label γ (l, s) γ' (update (l, s)) ∧
        Follows m Q (next (l, s)) γ' (update (l, s)).1

variable {m : Machine Γ Λ Ξ ℓ β} {Q Q' : α → Γ → Λ → Prop} {γ : Γ} {l : Λ}

namespace Follows

theorem mono {p : Prog (Λ × Ξ) ℓ α} (hQ : ∀ a γ l, Q a γ l → Q' a γ l) (h : Follows m Q p γ l) :
    Follows m Q' p γ l := by
  induction p generalizing γ l with
  | done a => exact hQ a γ l h
  | atom label update next ih =>
    intro s hinv
    obtain ⟨γ', hmove, hrest⟩ := h s hinv
    exact ⟨γ', hmove, ih _ hrest⟩

/-- A sequence follows the machine when its second part does wherever the first one ends. -/
theorem bind {δ : Type} {R : δ → Γ → Λ → Prop} {p : Prog (Λ × Ξ) ℓ α}
    {f : α → Prog (Λ × Ξ) ℓ δ} (h : Follows m (fun a γ l => Follows m R (f a) γ l) p γ l) :
    Follows m R (p.bind f) γ l := by
  induction p generalizing γ l with
  | done a => exact h
  | atom label update next ih =>
    intro s hinv
    obtain ⟨γ', hmove, hrest⟩ := h s hinv
    exact ⟨γ', hmove, ih _ hrest⟩

end Follows

/-- An operation ends in `P` when it returns, and in `E` when it raises. -/
def Ends (P : α → Γ → Λ → Prop) (E : ε → Γ → Λ → Prop) : Except ε α → Γ → Λ → Prop
  | .ok a => P a
  | .error e => E e

/-- An operation that follows the machine ends in `P`, or with an error in `E`. -/
def Runs (m : Machine Γ Λ Ξ ℓ β) (P : α → Γ → Λ → Prop) (E : ε → Γ → Λ → Prop)
    (x : Op (Λ × Ξ) ℓ ε α) (γ : Γ) (l : Λ) : Prop :=
  Follows m (Ends P E) x γ l

namespace Runs

variable {δ : Type} {P P' : α → Γ → Λ → Prop} {E E' : ε → Γ → Λ → Prop} {x : Op (Λ × Ξ) ℓ ε α}

theorem mono (hP : ∀ a γ l, P a γ l → P' a γ l) (hE : ∀ e γ l, E e γ l → E' e γ l)
    (h : Runs m P E x γ l) : Runs m P' E' x γ l :=
  Follows.mono (fun r => by
    cases r with
    | ok a => exact hP a
    | error e => exact hE e) h

theorem pure {a : α} (h : P a γ l) : Runs m P E (Pure.pure a : Op (Λ × Ξ) ℓ ε α) γ l := h

theorem throw {e : ε} (h : E e γ l) : Runs m P E (Op.throw e : Op (Λ × Ξ) ℓ ε α) γ l := h

theorem bind {R : δ → Γ → Λ → Prop} {f : α → Op (Λ × Ξ) ℓ ε δ}
    (h : Runs m (fun a γ l => Runs m R E (f a) γ l) E x γ l) : Runs m R E (x >>= f) γ l := by
  refine Follows.bind (Follows.mono (fun r γ l hr => ?_) h)
  cases r with
  | ok a => exact hr
  | error e => exact hr

theorem tryCatch {handler : ε → Op (Λ × Ξ) ℓ ε α}
    (h : Runs m P (fun e γ l => Runs m P E (handler e) γ l) x γ l) :
    Runs m P E (Op.tryCatch x handler) γ l := by
  refine Follows.bind (Follows.mono (fun r γ l hr => ?_) h)
  cases r with
  | ok a => exact hr
  | error e => exact hr

/-- A segment follows the machine by what it does to every shared state it can find. -/
theorem segment {label : ℓ} {f : Λ × Ξ → Except ε α × (Λ × Ξ)}
    (h : ∀ s, m.inv γ l s → ∃ r γ' l' s', f (l, s) = (r, (l', s')) ∧
      m.move label γ (l, s) γ' (l', s') ∧ Ends P E r γ' l') :
    Runs m P E (Op.segment label f) γ l := by
  intro s hinv
  obtain ⟨r, γ', l', s', hf, hmove, hend⟩ := h s hinv
  refine ⟨γ', ?_, ?_⟩
  · simpa only [hf] using hmove
  · simp only [hf]
    exact hend

/-- A transaction that returns. -/
theorem transaction_ok {label : ℓ} {t : Transaction (Λ × Ξ) ε α}
    (h : ∀ s, m.inv γ l s → ∃ a γ' l' s', t (l, s) = .ok (a, (l', s')) ∧
      m.move label γ (l, s) γ' (l', s') ∧ P a γ' l') :
    Runs m P E (Op.segment label (Transaction.commit t)) γ l := by
  refine segment fun s hinv => ?_
  obtain ⟨a, γ', l', s', ht, hmove, hend⟩ := h s hinv
  exact ⟨.ok a, γ', l', s', Transaction.commit_ok ht, hmove, hend⟩

end Runs

/-! ### Two machines at once -/

section Product

variable {Δ : Type}

/-- Two machines that watch the same program. -/
def Machine.prod (m : Machine Γ Λ Ξ ℓ α) (n : Machine Δ Λ Ξ ℓ α) : Machine (Γ × Δ) Λ Ξ ℓ α where
  idle := (m.idle, n.idle)
  ended a γ := m.ended a γ.1 ∧ n.ended a γ.2
  inv γ l s := m.inv γ.1 l s ∧ n.inv γ.2 l s
  move label γ x γ' y := m.move label γ.1 x γ'.1 y ∧ n.move label γ.2 x γ'.2 y

/-- A program that follows each of two machines follows both at once. -/
theorem Follows.prod {m : Machine Γ Λ Ξ ℓ β} {n : Machine Δ Λ Ξ ℓ β} {Q : α → Γ → Λ → Prop}
    {R : α → Δ → Λ → Prop} {p : Prog (Λ × Ξ) ℓ α} {γ : Γ} {δ : Δ} {l : Λ}
    (hm : Follows m Q p γ l) (hn : Follows n R p δ l) :
    Follows (m.prod n) (fun a γ l => Q a γ.1 l ∧ R a γ.2 l) p (γ, δ) l := by
  induction p generalizing γ δ l with
  | done a => exact ⟨hm, hn⟩
  | atom label update next ih =>
    intro s hinv
    obtain ⟨γ', hmove, hrest⟩ := hm s hinv.1
    obtain ⟨δ', hmove', hrest'⟩ := hn s hinv.2
    exact ⟨(γ', δ'), ⟨hmove, hmove'⟩, ih _ hrest hrest'⟩

end Product

/-! ### Threads -/

/-- A call in progress: what was asked, the private state it found, and the rest of its program. -/
structure Call (Λ Ξ ℓ ρ α : Type) where
  request : ρ
  begun : Λ
  program : Prog (Λ × Ξ) ℓ α

/-- The state of the system: a private state and at most one call for each key, one shared state. -/
structure Config (κ Λ Ξ ℓ ρ α : Type) where
  stores : κ → Λ
  shared : Ξ
  calls : κ → Option (Call Λ Ξ ℓ ρ α)

variable {κ ρ : Type} [DecidableEq κ]

/-- The steps of the system under a condition on the atomic steps. -/
inductive Step (program : κ → ρ → Prog (Λ × Ξ) ℓ α) (environment : Ξ → Ξ → Prop)
    (assumes : κ → ℓ → Λ × Ξ → Prop) :
    Config κ Λ Ξ ℓ ρ α → Config κ Λ Ξ ℓ ρ α → Prop
  | start {g : Config κ Λ Ξ ℓ ρ α} (k : κ) (r : ρ) (idle : g.calls k = none) :
      Step program environment assumes g { g with
        calls := Function.update g.calls k (some ⟨r, g.stores k, program k r⟩) }
  | run {g : Config κ Λ Ξ ℓ ρ α} (k : κ) {call : Call Λ Ξ ℓ ρ α} {label : ℓ}
      {update : Λ × Ξ → Λ × Ξ} {next : Λ × Ξ → Prog (Λ × Ξ) ℓ α} (busy : g.calls k = some call)
      (due : call.program = .atom label update next)
      (allowed : assumes k label (g.stores k, g.shared)) :
      Step program environment assumes g
        { stores := Function.update g.stores k (update (g.stores k, g.shared)).1
          shared := (update (g.stores k, g.shared)).2
          calls := Function.update g.calls k
            (some { call with program := next (g.stores k, g.shared) }) }
  | finish {g : Config κ Λ Ξ ℓ ρ α} (k : κ) {call : Call Λ Ξ ℓ ρ α} {a : α}
      (busy : g.calls k = some call) (ended : call.program = .done a) :
      Step program environment assumes g { g with calls := Function.update g.calls k none }
  | environment {g : Config κ Λ Ξ ℓ ρ α} {shared : Ξ} (moves : environment g.shared shared) :
      Step program environment assumes g { g with shared := shared }

/-- The configurations that runs from the given ones reach. -/
def Reaches (program : κ → ρ → Prog (Λ × Ξ) ℓ α) (environment : Ξ → Ξ → Prop)
    (assumes : κ → ℓ → Λ × Ξ → Prop) (g g' : Config κ Λ Ξ ℓ ρ α) : Prop :=
  Relation.ReflTransGen (Step program environment assumes) g g'

section Alone

variable {program : κ → ρ → Prog (Λ × Ξ) ℓ α} {environment : Ξ → Ξ → Prop}
  {assumes : κ → ℓ → Λ × Ξ → Prop} {k : κ}

/-- A call that nothing interrupts comes to its end. -/
theorem Reaches.runs_on {p : Prog (Λ × Ξ) ℓ α} {x : Λ × Ξ} {stores : κ → Λ} {shared : Ξ}
    {calls : κ → Option (Call Λ Ξ ℓ ρ α)} {call : Call Λ Ξ ℓ ρ α} (found : (stores k, shared) = x)
    (busy : calls k = some call) (due : call.program = p)
    (allowed : ∀ step ∈ p.steps x, assumes k step.1 step.2) :
    Reaches program environment assumes ⟨stores, shared, calls⟩
      ⟨Function.update stores k (p.exec x).2.1, (p.exec x).2.2, Function.update calls k none⟩ := by
  subst found
  induction p generalizing stores shared calls call with
  | done a =>
    rw [Prog.exec, Function.update_eq_self]
    exact .single (.finish k busy due)
  | atom label update next ih =>
    refine .head (.run k busy due (allowed _ (List.mem_cons_self ..))) ?_
    have hfound : (Function.update stores k (update (stores k, shared)).1 k,
        (update (stores k, shared)).2) = update (stores k, shared) := by
      rw [Function.update_self]
    have hrest := ih (stores k, shared)
      (Function.update_self k (some { call with program := next (stores k, shared) }) calls) rfl
      fun step hstep => allowed step (List.mem_cons_of_mem _ (hfound ▸ hstep))
    rw [hfound, Function.update_idem, Function.update_idem] at hrest
    exact hrest

/-- A request that nothing interrupts is served as its program says. -/
theorem Reaches.serves {g : Config κ Λ Ξ ℓ ρ α} (r : ρ) (idle : g.calls k = none)
    (allowed : ∀ step ∈ (program k r).steps (g.stores k, g.shared), assumes k step.1 step.2) :
    Reaches program environment assumes g
      ⟨Function.update g.stores k ((program k r).exec (g.stores k, g.shared)).2.1,
        ((program k r).exec (g.stores k, g.shared)).2.2, g.calls⟩ := by
  refine .head (.start k r idle) ?_
  have hcalls : Function.update (Function.update g.calls k (some ⟨r, g.stores k, program k r⟩)) k
      none = g.calls := by
    rw [Function.update_idem, ← idle, Function.update_eq_self]
  have hrest : Reaches program environment assumes
      ⟨g.stores, g.shared, Function.update g.calls k (some ⟨r, g.stores k, program k r⟩)⟩ _ :=
    runs_on rfl (Function.update_self ..) rfl allowed
  rw [hcalls] at hrest
  exact hrest

/-- Neighbours in a list. -/
theorem exists_of_mem_zip_tail {β : Type} {a b : β} {xs : List β} (h : (a, b) ∈ xs.zip xs.tail) :
    ∃ before after, xs = before ++ a :: b :: after := by
  induction xs with
  | nil => cases h
  | cons c xs ih =>
    cases xs with
    | nil => cases h
    | cons d xs =>
      rw [List.tail_cons, List.zip_cons_cons, List.mem_cons] at h
      rcases h with heq | hmem
      · obtain ⟨rfl, rfl⟩ := Prod.mk.inj heq
        exact ⟨[], xs, rfl⟩
      · obtain ⟨before, after, hxs⟩ := ih hmem
        exact ⟨c :: before, after, by rw [hxs, List.cons_append]⟩

/-- A step of a key is due, with the steps that are left after it. -/
def Config.Due (g : Config κ Λ Ξ ℓ ρ α) (k : κ) (step : ℓ × (Λ × Ξ))
    (rest : List (ℓ × (Λ × Ξ))) : Prop :=
  ∃ call update next, g.calls k = some call ∧ call.program = .atom step.1 update next ∧
    (g.stores k, g.shared) = step.2 ∧ rest = (next step.2).steps (update step.2)

/-- A call that nothing interrupts comes to each of its steps. -/
theorem due_on {p : Prog (Λ × Ξ) ℓ α} {x : Λ × Ξ} {stores : κ → Λ} {shared : Ξ}
    {calls : κ → Option (Call Λ Ξ ℓ ρ α)} {call : Call Λ Ξ ℓ ρ α} {step : ℓ × (Λ × Ξ)}
    {before after : List (ℓ × (Λ × Ξ))} (found : (stores k, shared) = x)
    (busy : calls k = some call) (due : call.program = p)
    (allowed : ∀ step ∈ p.steps x, assumes k step.1 step.2)
    (hsteps : p.steps x = before ++ step :: after) :
    ∃ g, Reaches program environment assumes ⟨stores, shared, calls⟩ g ∧ g.Due k step after := by
  subst found
  induction p generalizing stores shared calls call before with
  | done => simp [Prog.steps] at hsteps
  | atom label update next ih =>
    rw [Prog.steps] at hsteps
    cases before with
    | nil =>
      obtain ⟨rfl, rfl⟩ := List.cons.inj hsteps
      exact ⟨_, .refl, call, update, next, busy, due, rfl, rfl⟩
    | cons first before =>
      obtain ⟨-, hrest⟩ := List.cons.inj hsteps
      have hrun : Step program environment assumes ⟨stores, shared, calls⟩ _ :=
        .run k busy due (allowed _ (List.mem_cons_self ..))
      have hfound : (Function.update stores k (update (stores k, shared)).1 k,
          (update (stores k, shared)).2) = update (stores k, shared) := by
        rw [Function.update_self]
      obtain ⟨g, hreach, hdue⟩ := ih (stores k, shared)
        (Function.update_self k (some { call with program := next (stores k, shared) }) calls) rfl
        (fun step hstep => allowed step (List.mem_cons_of_mem _ (hfound ▸ hstep)))
        (hfound.symm ▸ hrest)
      exact ⟨g, .head hrun hreach, hdue⟩

/-- The system comes to every step of a request. -/
theorem Reaches.comes {g : Config κ Λ Ξ ℓ ρ α} (r : ρ) (idle : g.calls k = none)
    (allowed : ∀ step ∈ (program k r).steps (g.stores k, g.shared), assumes k step.1 step.2)
    {step : ℓ × (Λ × Ξ)} {before after : List (ℓ × (Λ × Ξ))}
    (hsteps : (program k r).steps (g.stores k, g.shared) = before ++ step :: after) :
    ∃ g', Reaches program environment assumes g g' ∧ g'.Due k step after := by
  have hcomes : ∃ g', Reaches program environment assumes
      ⟨g.stores, g.shared, Function.update g.calls k (some ⟨r, g.stores k, program k r⟩)⟩ g' ∧
      g'.Due k step after :=
    due_on rfl (Function.update_self ..) rfl allowed hsteps
  obtain ⟨g', hreach, hdue⟩ := hcomes
  exact ⟨g', .head (.start k r idle) hreach, hdue⟩

/-- A step that is due is taken, and leads to the next one. -/
theorem Config.Due.passes {g : Config κ Λ Ξ ℓ ρ α} {a b : ℓ × (Λ × Ξ)}
    {after : List (ℓ × (Λ × Ξ))} (h : g.Due k a (b :: after)) (allowed : assumes k a.1 a.2) :
    ∃ g', Step program environment assumes g g' ∧ (g'.stores k, g'.shared) = b.2 := by
  obtain ⟨call, update, next, busy, due, hfound, hrest⟩ := h
  rw [← hfound] at allowed hrest
  refine ⟨_, .run k busy due allowed, ?_⟩
  cases hnext : next (g.stores k, g.shared) with
  | done => simp [hnext, Prog.steps] at hrest
  | atom label update' next' =>
    rw [hnext, Prog.steps] at hrest
    rw [(List.cons.inj hrest).1]
    simp only [Function.update_self]

end Alone

/-! ### What holds in every run -/

variable {program : κ → ρ → Prog (Λ × Ξ) ℓ α} {environment : Ξ → Ξ → Prop}
  {assumes : κ → ℓ → Λ × Ξ → Prop} {machine : κ → Machine Γ Λ Ξ ℓ α}
  {g g' : Config κ Λ Ξ ℓ ρ α}

/-- A property of phases, private states and the shared one that the moves of a key keep, that other
    keys and the environment cannot break, and that an ended call leaves to the next one. -/
structure Preserved (machine : κ → Machine Γ Λ Ξ ℓ α) (environment : Ξ → Ξ → Prop)
    (assumes : κ → ℓ → Λ × Ξ → Prop) (J : κ → Γ → Λ → Ξ → Prop) : Prop where
  own : ∀ {k label γ γ' x y}, (machine k).inv γ x.1 x.2 → J k γ x.1 x.2 → assumes k label x →
    (machine k).move label γ x γ' y → J k γ' y.1 y.2
  other : ∀ {j k label γ γ' δ l x y}, j ≠ k → (machine j).inv γ x.1 x.2 → J j γ x.1 x.2 →
    (machine k).inv δ l x.2 → J k δ l x.2 → assumes j label x → (machine j).move label γ x γ' y →
    J k δ l y.2
  moves : ∀ {k γ l s s'}, environment s s' → (machine k).inv γ l s → J k γ l s → J k γ l s'
  ended : ∀ {k γ l s a}, (machine k).ended a γ → (machine k).inv γ l s → J k γ l s →
    J k (machine k).idle l s

omit [DecidableEq κ] in
/-- A property of the private state alone is no matter of the other keys. -/
theorem Preserved.of_own {J : κ → Γ → Λ → Prop}
    (own : ∀ {k label γ γ' x y}, (machine k).inv γ x.1 x.2 → J k γ x.1 → assumes k label x →
      (machine k).move label γ x γ' y → J k γ' y.1)
    (ended : ∀ {k γ l s a}, (machine k).ended a γ → (machine k).inv γ l s → J k γ l →
      J k (machine k).idle l) :
    Preserved machine environment assumes fun k γ l _ => J k γ l where
  own := own
  other _ _ _ _ hJ _ _ := hJ
  moves _ _ hJ := hJ
  ended := ended

omit [DecidableEq κ] in
/-- What two machines preserve, their product preserves. -/
theorem Preserved.prod {Δ : Type} {machine' : κ → Machine Δ Λ Ξ ℓ α} {J : κ → Γ → Λ → Ξ → Prop}
    {J' : κ → Δ → Λ → Ξ → Prop} (h : Preserved machine environment assumes J)
    (h' : Preserved machine' environment assumes J') :
    Preserved (fun k => (machine k).prod (machine' k)) environment assumes
      fun k γ l s => J k γ.1 l s ∧ J' k γ.2 l s where
  own hinv hJ hassumes hmove :=
    ⟨h.own hinv.1 hJ.1 hassumes hmove.1, h'.own hinv.2 hJ.2 hassumes hmove.2⟩
  other hne hinv hJ hinv' hJ' hassumes hmove :=
    ⟨h.other hne hinv.1 hJ.1 hinv'.1 hJ'.1 hassumes hmove.1,
      h'.other hne hinv.2 hJ.2 hinv'.2 hJ'.2 hassumes hmove.2⟩
  moves hmoves hinv hJ := ⟨h.moves hmoves hinv.1 hJ.1, h'.moves hmoves hinv.2 hJ.2⟩
  ended hended hinv hJ := ⟨h.ended hended.1 hinv.1 hJ.1, h'.ended hended.2 hinv.2 hJ.2⟩

/-- A key is in a phase of its machine: idle, or one that the rest of its call follows. -/
def InPhase (m : Machine Γ Λ Ξ ℓ α) (call : Option (Call Λ Ξ ℓ ρ α)) (γ : Γ) (l : Λ) : Prop :=
  match call with
  | none => γ = m.idle
  | some call => Follows m (fun a γ _ => m.ended a γ) call.program γ l

/-- Every key is in a phase in which the invariant of its machine and a property hold. -/
def Simulated (machine : κ → Machine Γ Λ Ξ ℓ α) (J : κ → Γ → Λ → Ξ → Prop)
    (g : Config κ Λ Ξ ℓ ρ α) : Prop :=
  ∀ k, ∃ γ, (machine k).inv γ (g.stores k) g.shared ∧ J k γ (g.stores k) g.shared ∧
    InPhase (machine k) (g.calls k) γ (g.stores k)

variable {J : κ → Γ → Λ → Ξ → Prop}

/-- One step of the system keeps every machine in a phase. -/
theorem Step.simulated (follows : ∀ k r l s, (machine k).inv (machine k).idle l s →
      Follows (machine k) (fun a γ _ => (machine k).ended a γ) (program k r) (machine k).idle l)
    (base : Preserved machine environment assumes fun k => (machine k).inv)
    (keeps : Preserved machine environment assumes J)
    (hstep : Step program environment assumes g g') (h : Simulated machine J g) :
    Simulated machine J g' := by
  intro k
  obtain ⟨γ, hinv, hJ, hphase⟩ := h k
  cases hstep with
  | start j r idle =>
    by_cases e : k = j
    · subst e
      simp only [InPhase, idle] at hphase
      refine ⟨γ, hinv, hJ, ?_⟩
      simp only [Function.update_self, InPhase]
      subst hphase
      exact follows k r _ _ hinv
    · refine ⟨γ, hinv, hJ, ?_⟩
      simpa only [Function.update_of_ne e] using hphase
  | @run j call label update next busy due allowed =>
    by_cases e : k = j
    · subst e
      simp only [InPhase, busy] at hphase
      simp only [due, Follows] at hphase
      obtain ⟨γ', hmove, hrest⟩ := hphase _ hinv
      refine ⟨γ', ?_, ?_, ?_⟩
      · simpa only [Function.update_self] using base.own hinv hinv allowed hmove
      · simpa only [Function.update_self] using keeps.own hinv hJ allowed hmove
      · simpa only [Function.update_self, InPhase] using hrest
    · obtain ⟨δ, hinv', hJ', hphase'⟩ := h j
      simp only [InPhase, busy] at hphase'
      simp only [due, Follows] at hphase'
      obtain ⟨δ', hmove, -⟩ := hphase' _ hinv'
      refine ⟨γ, ?_, ?_, ?_⟩
      · simpa only [Function.update_of_ne e] using
          base.other (Ne.symm e) hinv' hinv' hinv hinv allowed hmove
      · simpa only [Function.update_of_ne e] using
          keeps.other (Ne.symm e) hinv' hJ' hinv hJ allowed hmove
      · simpa only [Function.update_of_ne e] using hphase
  | @finish j call a busy ended =>
    by_cases e : k = j
    · subst e
      simp only [InPhase, busy] at hphase
      simp only [ended, Follows] at hphase
      refine ⟨(machine k).idle, base.ended hphase hinv hinv, keeps.ended hphase hinv hJ, ?_⟩
      simp only [Function.update_self, InPhase]
    · refine ⟨γ, hinv, hJ, ?_⟩
      simpa only [Function.update_of_ne e] using hphase
  | environment moves =>
    exact ⟨γ, base.moves moves hinv hinv, keeps.moves moves hinv hJ, hphase⟩

/-- Every run keeps every machine in a phase. -/
theorem Reaches.simulated (follows : ∀ k r l s, (machine k).inv (machine k).idle l s →
      Follows (machine k) (fun a γ _ => (machine k).ended a γ) (program k r) (machine k).idle l)
    (base : Preserved machine environment assumes fun k => (machine k).inv)
    (keeps : Preserved machine environment assumes J)
    (hreach : Reaches program environment assumes g g') (h : Simulated machine J g) :
    Simulated machine J g' := by
  induction hreach with
  | refl => exact h
  | tail _ hstep ih => exact hstep.simulated follows base keeps ih

omit [DecidableEq κ] in
/-- The step that is due is a move of its machine. -/
theorem Simulated.due (h : Simulated machine J g) {k : κ} {call : Call Λ Ξ ℓ ρ α} {label : ℓ}
    {update : Λ × Ξ → Λ × Ξ} {next : Λ × Ξ → Prog (Λ × Ξ) ℓ α} (busy : g.calls k = some call)
    (due : call.program = .atom label update next) :
    ∃ γ γ', (machine k).inv γ (g.stores k) g.shared ∧ J k γ (g.stores k) g.shared ∧
      (machine k).move label γ (g.stores k, g.shared) γ' (update (g.stores k, g.shared)) := by
  obtain ⟨γ, hinv, hJ, hphase⟩ := h k
  simp only [InPhase, busy] at hphase
  simp only [due, Follows] at hphase
  obtain ⟨γ', hmove, -⟩ := hphase _ hinv
  exact ⟨γ, γ', hinv, hJ, hmove⟩

/-- The private state of a key changes only by a move of its machine. -/
theorem Step.changes (hstep : Step program environment assumes g g') (h : Simulated machine J g)
    (k : κ) : g'.stores k = g.stores k ∨ ∃ γ label γ', (machine k).inv γ (g.stores k) g.shared ∧
      J k γ (g.stores k) g.shared ∧
      (machine k).move label γ (g.stores k, g.shared) γ' (g'.stores k, g'.shared) := by
  cases hstep with
  | start | finish | environment => exact .inl rfl
  | @run j call label update next busy due allowed =>
    by_cases e : k = j
    · subst e
      obtain ⟨γ, γ', hinv, hJ, hmove⟩ := h.due busy due
      refine .inr ⟨γ, label, γ', hinv, hJ, ?_⟩
      simpa only [Function.update_self] using hmove
    · exact .inl (Function.update_of_ne e ..)

/-! ### Conditions on whole configurations -/

/-- The configurations that runs reach whose steps, besides what is assumed of them, are related as
    `R` says. Unlike an assumption on the key that steps, `R` may look at the other keys. -/
def ReachesUnder (program : κ → ρ → Prog (Λ × Ξ) ℓ α) (environment : Ξ → Ξ → Prop)
    (assumes : κ → ℓ → Λ × Ξ → Prop)
    (R : Config κ Λ Ξ ℓ ρ α → Config κ Λ Ξ ℓ ρ α → Prop) (g g' : Config κ Λ Ξ ℓ ρ α) : Prop :=
  Relation.ReflTransGen (fun a b => Step program environment assumes a b ∧ R a b) g g'

section Under

variable {R : Config κ Λ Ξ ℓ ρ α → Config κ Λ Ξ ℓ ρ α → Prop} {P : Config κ Λ Ξ ℓ ρ α → Prop}
  {assumes' : κ → ℓ → Λ × Ξ → Prop}

/-- What holds at the start, and is kept by every step of such a run, holds wherever it comes to. -/
theorem ReachesUnder.keeps (follows : ∀ k r l s, (machine k).inv (machine k).idle l s →
      Follows (machine k) (fun a γ _ => (machine k).ended a γ) (program k r) (machine k).idle l)
    (base : Preserved machine environment assumes fun k => (machine k).inv)
    (step : ∀ {a b}, Simulated machine (fun k => (machine k).inv) a → P a →
      Step program environment assumes a b → R a b → P b)
    (hreach : ReachesUnder program environment assumes R g g')
    (h : Simulated machine (fun k => (machine k).inv) g) (hP : P g) :
    Simulated machine (fun k => (machine k).inv) g' ∧ P g' := by
  induction hreach with
  | refl => exact ⟨h, hP⟩
  | tail _ hstep ih =>
    exact ⟨hstep.1.simulated follows base base ih.1, step ih.1 ih.2 hstep.1 hstep.2⟩

theorem ReachesUnder.reaches (h : ReachesUnder program environment assumes R g g') :
    Reaches program environment assumes g g' := by
  induction h with
  | refl => exact .refl
  | tail _ hstep ih => exact ih.tail hstep.1

theorem Step.mono (himp : ∀ k label x, assumes k label x → assumes' k label x)
    (h : Step program environment assumes g g') : Step program environment assumes' g g' := by
  cases h with
  | start k r idle => exact .start k r idle
  | run k busy due allowed => exact .run k busy due (himp k _ _ allowed)
  | finish k busy ended => exact .finish k busy ended
  | environment moves => exact .environment moves

theorem Reaches.mono (himp : ∀ k label x, assumes k label x → assumes' k label x)
    (h : Reaches program environment assumes g g') : Reaches program environment assumes' g g' := by
  induction h with
  | refl => exact .refl
  | tail _ hstep ih => exact ih.tail (hstep.mono himp)

/-- A run is one under a condition when each of its steps keeps it. -/
theorem Reaches.under (himp : ∀ k label x, assumes k label x → assumes' k label x)
    (hR : ∀ {a b}, Reaches program environment assumes g a →
      Step program environment assumes a b → R a b)
    (h : Reaches program environment assumes g g') :
    ReachesUnder program environment assumes' R g g' := by
  induction h with
  | refl => exact .refl
  | tail hreach hstep ih => exact ih.tail ⟨hstep.mono himp, hR hreach hstep⟩

/-- While one key steps the private states of the others stay as they are. -/
theorem Reaches.others_stay {k : κ}
    (h : Reaches program environment (fun j label x => j = k ∧ assumes j label x) g g') {j : κ}
    (hne : j ≠ k) : g'.stores j = g.stores j := by
  induction h with
  | refl => rfl
  | tail _ hstep ih =>
    cases hstep with
    | start | finish | environment => exact ih
    | run i busy due allowed =>
      obtain ⟨rfl, -⟩ := allowed
      exact (Function.update_of_ne hne ..).trans ih

end Under

/-- The call of a key, if there is one, has come to its end. -/
def Config.AtRest (g : Config κ Λ Ξ ℓ ρ α) (k : κ) : Prop :=
  ∀ call, g.calls k = some call → ∃ a, call.program = .done a

omit [DecidableEq κ] in
/-- At rest a key is as good as idle. -/
theorem Simulated.atRest (keeps : Preserved machine environment assumes J)
    (h : Simulated machine J g) {k : κ} (hrest : g.AtRest k) :
    J k (machine k).idle (g.stores k) g.shared := by
  obtain ⟨γ, hinv, hJ, hphase⟩ := h k
  cases hcall : g.calls k with
  | none =>
    simp only [InPhase, hcall] at hphase
    exact hphase ▸ hJ
  | some call =>
    obtain ⟨a, hdone⟩ := hrest call hcall
    simp only [InPhase, hcall] at hphase
    simp only [hdone, Follows] at hphase
    exact keeps.ended hphase hinv hJ

end Interleave
