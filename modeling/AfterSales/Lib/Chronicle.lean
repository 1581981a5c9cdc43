import AfterSales.Lib.Interleave
import Mathlib.Data.List.Basic

/-! What the calls of a system have done.

    A chronicle goes with a run: it has the steps that each call in progress has taken, with the
    states they found, and the calls that have ended, in order. The calls of one key form a chain,
    for each finds the private state that the last one left. So a measure that no call lowers and
    some calls raise bounds how many of those there can be. -/

namespace Interleave

variable {κ Λ Ξ ℓ ρ α Γ : Type}

/-- A call that has ended: the private state it found, its steps with the states they found, its
    answer, and the private state it left. -/
structure Past (κ Λ Ξ ℓ ρ α : Type) where
  key : κ
  request : ρ
  begun : Λ
  steps : List (ℓ × (Λ × Ξ))
  answer : α
  left : Λ

/-! ### Chains -/

/-- Each call finds what the one before it left. -/
def Chain (l : Λ) : List (Past κ Λ Ξ ℓ ρ α) → Λ → Prop
  | [], l' => l = l'
  | past :: rest, l' => past.begun = l ∧ Chain past.left rest l'

namespace Chain

variable {l l' l'' : Λ} {calls calls' : List (Past κ Λ Ξ ℓ ρ α)}

theorem append (h : Chain l calls l') (h' : Chain l' calls' l'') :
    Chain l (calls ++ calls') l'' := by
  induction calls generalizing l with
  | nil =>
    obtain rfl : l = l' := h
    exact h'
  | cons past rest ih => exact ⟨h.1, ih h.2⟩

theorem of_append (h : Chain l (calls ++ calls') l'') :
    ∃ l', Chain l calls l' ∧ Chain l' calls' l'' := by
  induction calls generalizing l with
  | nil => exact ⟨l, rfl, h⟩
  | cons past rest ih =>
    obtain ⟨l', hrest, h'⟩ := ih h.2
    exact ⟨l', ⟨h.1, hrest⟩, h'⟩

variable (size : Λ → Nat) (visit : Past κ Λ Ξ ℓ ρ α → Bool)

/-- A measure that no call lowers, and that visits raise, counts the visits. -/
theorem countP_le (h : Chain l calls l')
    (grows : ∀ past ∈ calls, size past.begun ≤ size past.left)
    (raises : ∀ past ∈ calls, visit past = true → size past.begun < size past.left) :
    size l + calls.countP visit ≤ size l' := by
  induction calls generalizing l with
  | nil =>
    obtain rfl : l = l' := h
    simp
  | cons past rest ih =>
    obtain ⟨rfl, hrest⟩ := h
    have hlater := ih hrest (fun p hp => grows p (List.mem_cons_of_mem _ hp)) fun p hp =>
      raises p (List.mem_cons_of_mem _ hp)
    have hgrows := grows past List.mem_cons_self
    rw [List.countP_cons]
    split
    · have := raises past List.mem_cons_self ‹_›
      omega
    · omega

/-- What no call undoes holds at the end when it held at the start. -/
theorem persists {P : Λ → Prop} (h : Chain l calls l')
    (keeps : ∀ past ∈ calls, P past.begun → P past.left) (hP : P l) : P l' := by
  induction calls generalizing l with
  | nil =>
    obtain rfl : l = l' := h
    exact hP
  | cons past rest ih =>
    obtain ⟨rfl, hrest⟩ := h
    exact ih hrest (fun p hp => keeps p (List.mem_cons_of_mem _ hp))
      (keeps past List.mem_cons_self hP)

/-- What no call undoes, and one has brought about, every later one finds. -/
theorem pairwise {P : Λ → Prop} (h : Chain l calls l')
    (keeps : ∀ past ∈ calls, P past.begun → P past.left) :
    calls.Pairwise fun past later => P past.left → P later.begun := by
  induction calls generalizing l with
  | nil => exact .nil
  | cons past rest ih =>
    obtain ⟨rfl, hrest⟩ := h
    have hkeeps : ∀ p ∈ rest, P p.begun → P p.left := fun p hp =>
      keeps p (List.mem_cons_of_mem _ hp)
    refine .cons (fun later hlater hP => ?_) (ih hrest hkeeps)
    obtain ⟨between, after, rfl⟩ := List.append_of_mem hlater
    obtain ⟨l₁, hbetween, hafter⟩ := of_append hrest
    rw [hafter.1]
    exact hbetween.persists (fun p hp => hkeeps p (List.mem_append_left _ hp)) hP

/-- A measure that no call lowers is no smaller in what a later call finds. -/
theorem pairwise_le (h : Chain l calls l')
    (grows : ∀ past ∈ calls, size past.begun ≤ size past.left) :
    calls.Pairwise fun past later => size past.left ≤ size later.begun := by
  rw [List.pairwise_iff_getElem]
  intro i j hi hj hij
  have hpairs := h.pairwise (P := fun l => size calls[i].left ≤ size l) fun past hpast hle =>
    Nat.le_trans hle (grows past hpast)
  exact List.pairwise_iff_getElem.mp hpairs i j hi hj hij (Nat.le_refl _)

/-- What a chain ends with is no smaller than what its calls have left. -/
theorem left_le (h : Chain l calls l') (grows : ∀ past ∈ calls, size past.begun ≤ size past.left)
    {past : Past κ Λ Ξ ℓ ρ α} (hpast : past ∈ calls) : size past.left ≤ size l' := by
  obtain ⟨earlier, later, rfl⟩ := List.append_of_mem hpast
  obtain ⟨l₁, -, hlater⟩ := of_append h
  refine hlater.2.persists (P := fun l => size past.left ≤ size l) (fun p hp hle => ?_)
    (Nat.le_refl _)
  exact Nat.le_trans hle (grows p (List.mem_append_right _ (List.mem_cons_of_mem _ hp)))

/-- A measure that stays below a bound counts no more visits than the bound. -/
theorem length_filter_le {n : Nat} (h : Chain l calls l')
    (grows : ∀ past ∈ calls, size past.begun ≤ size past.left)
    (raises : ∀ past ∈ calls, visit past = true → size past.begun < size past.left)
    (bound : ∀ past ∈ calls, size past.left ≤ n) : (calls.filter visit).length ≤ n := by
  rcases List.eq_nil_or_concat calls with rfl | ⟨earlier, last, rfl⟩
  · simp
  · rw [List.concat_eq_append] at h grows raises bound ⊢
    obtain ⟨l₁, -, hlast⟩ := of_append h
    have hcount := h.countP_le size visit grows raises
    have hbound := bound last (by simp)
    rw [← List.countP_eq_length_filter]
    rw [← hlast.2] at hcount
    omega

end Chain

/-! ### Chronicles -/

variable [DecidableEq κ] {program : κ → ρ → Prog (Λ × Ξ) ℓ α} {environment : Ξ → Ξ → Prop}
  {assumes : κ → ℓ → Λ × Ξ → Prop}

/-- The runs from a configuration, with the steps of the calls in progress and the ended calls. -/
inductive Chronicles (program : κ → ρ → Prog (Λ × Ξ) ℓ α) (environment : Ξ → Ξ → Prop)
    (assumes : κ → ℓ → Λ × Ξ → Prop) (g₀ : Config κ Λ Ξ ℓ ρ α) :
    Config κ Λ Ξ ℓ ρ α → (κ → List (ℓ × (Λ × Ξ))) → List (Past κ Λ Ξ ℓ ρ α) → Prop
  | begin : Chronicles program environment assumes g₀ g₀ (fun _ => []) []
  | start {g : Config κ Λ Ξ ℓ ρ α} {doing : κ → List (ℓ × (Λ × Ξ))} {log : List (Past κ Λ Ξ ℓ ρ α)}
      (k : κ) (r : ρ) (earlier : Chronicles program environment assumes g₀ g doing log)
      (idle : g.calls k = none) :
      Chronicles program environment assumes g₀
        { g with calls := Function.update g.calls k (some ⟨r, g.stores k, program k r⟩) }
        (Function.update doing k []) log
  | run {g : Config κ Λ Ξ ℓ ρ α} {doing : κ → List (ℓ × (Λ × Ξ))} {log : List (Past κ Λ Ξ ℓ ρ α)}
      (k : κ) {call : Call Λ Ξ ℓ ρ α} {label : ℓ} {update : Λ × Ξ → Λ × Ξ}
      {next : Λ × Ξ → Prog (Λ × Ξ) ℓ α}
      (earlier : Chronicles program environment assumes g₀ g doing log)
      (busy : g.calls k = some call) (due : call.program = .atom label update next)
      (allowed : assumes k label (g.stores k, g.shared)) :
      Chronicles program environment assumes g₀
        { stores := Function.update g.stores k (update (g.stores k, g.shared)).1
          shared := (update (g.stores k, g.shared)).2
          calls := Function.update g.calls k
            (some { call with program := next (g.stores k, g.shared) }) }
        (Function.update doing k (doing k ++ [(label, (g.stores k, g.shared))])) log
  | finish {g : Config κ Λ Ξ ℓ ρ α} {doing : κ → List (ℓ × (Λ × Ξ))}
      {log : List (Past κ Λ Ξ ℓ ρ α)} (k : κ) {call : Call Λ Ξ ℓ ρ α} {a : α}
      (earlier : Chronicles program environment assumes g₀ g doing log)
      (busy : g.calls k = some call) (ended : call.program = .done a) :
      Chronicles program environment assumes g₀
        { g with calls := Function.update g.calls k none } doing
        (log ++ [⟨k, call.request, call.begun, doing k, a, g.stores k⟩])
  | environment {g : Config κ Λ Ξ ℓ ρ α} {doing : κ → List (ℓ × (Λ × Ξ))}
      {log : List (Past κ Λ Ξ ℓ ρ α)} {shared : Ξ}
      (earlier : Chronicles program environment assumes g₀ g doing log)
      (moves : environment g.shared shared) :
      Chronicles program environment assumes g₀ { g with shared := shared } doing log

namespace Chronicles

variable {g₀ g : Config κ Λ Ξ ℓ ρ α} {doing : κ → List (ℓ × (Λ × Ξ))}
  {log : List (Past κ Λ Ξ ℓ ρ α)}

/-- A chronicle is one of a run, -/
theorem reaches (h : Chronicles program environment assumes g₀ g doing log) :
    Reaches program environment assumes g₀ g := by
  induction h with
  | begin => exact .refl
  | start k r _ idle ih => exact .tail ih (.start k r idle)
  | run k _ busy due allowed ih => exact .tail ih (.run k busy due allowed)
  | finish k _ busy ended ih => exact .tail ih (.finish k busy ended)
  | environment _ moves ih => exact .tail ih (.environment moves)

/-- and every run has one. -/
theorem of_reaches (h : Reaches program environment assumes g₀ g) :
    ∃ doing log, Chronicles program environment assumes g₀ g doing log := by
  induction h with
  | refl => exact ⟨_, _, .begin⟩
  | tail _ hstep ih =>
    obtain ⟨doing, log, h⟩ := ih
    cases hstep with
    | start k r idle => exact ⟨_, _, .start k r h idle⟩
    | run k busy due allowed => exact ⟨_, _, .run k h busy due allowed⟩
    | finish k busy ended => exact ⟨_, _, .finish k h busy ended⟩
    | environment moves => exact ⟨_, _, .environment h moves⟩

section Alone

variable {k : κ}

/-- A call that nothing interrupts comes to its end, and its chronicle to its steps. -/
theorem runs_on {p : Prog (Λ × Ξ) ℓ α} {x : Λ × Ξ} {stores : κ → Λ} {shared : Ξ}
    {calls : κ → Option (Call Λ Ξ ℓ ρ α)} {call : Call Λ Ξ ℓ ρ α}
    (h : Chronicles program environment assumes g₀ ⟨stores, shared, calls⟩ doing log)
    (found : (stores k, shared) = x) (busy : calls k = some call) (due : call.program = p)
    (allowed : ∀ step ∈ p.steps x, assumes k step.1 step.2) :
    ∃ doing', Chronicles program environment assumes g₀
      ⟨Function.update stores k (p.exec x).2.1, (p.exec x).2.2, Function.update calls k none⟩ doing'
      (log ++ [⟨k, call.request, call.begun, doing k ++ p.steps x, (p.exec x).1,
        (p.exec x).2.1⟩]) := by
  subst found
  induction p generalizing stores shared calls call doing with
  | done a =>
    rw [Prog.exec, Function.update_eq_self, Prog.steps, List.append_nil]
    exact ⟨_, .finish k h busy due⟩
  | atom label update next ih =>
    have hstep := h.run k busy due (allowed _ (List.mem_cons_self ..))
    have hfound : (Function.update stores k (update (stores k, shared)).1 k,
        (update (stores k, shared)).2) = update (stores k, shared) := by
      rw [Function.update_self]
    obtain ⟨doing', hrest⟩ := ih (stores k, shared) hstep
      (Function.update_self k (some { call with program := next (stores k, shared) }) calls) rfl
      fun step hmem => allowed step (List.mem_cons_of_mem _ (hfound ▸ hmem))
    rw [hfound, Function.update_idem, Function.update_idem, Function.update_self,
      List.append_assoc] at hrest
    exact ⟨doing', hrest⟩

/-- A request that nothing interrupts is one more call that has ended. -/
theorem serves (h : Chronicles program environment assumes g₀ g doing log) (r : ρ)
    (idle : g.calls k = none)
    (allowed : ∀ step ∈ (program k r).steps (g.stores k, g.shared), assumes k step.1 step.2) :
    ∃ doing', Chronicles program environment assumes g₀
      ⟨Function.update g.stores k ((program k r).exec (g.stores k, g.shared)).2.1,
        ((program k r).exec (g.stores k, g.shared)).2.2, g.calls⟩ doing'
      (log ++ [⟨k, r, g.stores k, (program k r).steps (g.stores k, g.shared),
        ((program k r).exec (g.stores k, g.shared)).1,
        ((program k r).exec (g.stores k, g.shared)).2.1⟩]) := by
  obtain ⟨doing', hrest⟩ := (h.start k r idle).runs_on rfl (Function.update_self ..) rfl allowed
  have hcalls : Function.update (Function.update g.calls k (some ⟨r, g.stores k, program k r⟩)) k
      none = g.calls := by
    rw [Function.update_idem, ← idle, Function.update_eq_self]
  rw [hcalls, Function.update_self, List.nil_append] at hrest
  exact ⟨doing', hrest⟩

end Alone

end Chronicles

/-- The private state of a key that its last ended call left. -/
def Config.rested (g : Config κ Λ Ξ ℓ ρ α) (k : κ) : Λ :=
  match g.calls k with
  | none => g.stores k
  | some call => call.begun

namespace Chronicles

variable {g₀ g : Config κ Λ Ξ ℓ ρ α} {doing : κ → List (ℓ × (Λ × Ξ))}
  {log : List (Past κ Λ Ξ ℓ ρ α)}

/-- The ended calls of a key are a chain. -/
theorem chain (h : Chronicles program environment assumes g₀ g doing log)
    (hidle : ∀ k, g₀.calls k = none) (k : κ) :
    Chain (g₀.stores k) (log.filter fun past => past.key = k) (g.rested k) := by
  induction h with
  | begin =>
    show g₀.stores k = _
    rw [Config.rested, hidle k]
  | @start g _ _ j r _ idle ih =>
    by_cases e : k = j
    · subst e
      simpa only [Config.rested, idle, Function.update_self] using ih
    · simpa only [Config.rested, Function.update_of_ne e] using ih
  | @run g _ _ j call _ _ _ _ busy _ _ ih =>
    by_cases e : k = j
    · subst e
      simpa only [Config.rested, busy, Function.update_self] using ih
    · simpa only [Config.rested, Function.update_of_ne e] using ih
  | @finish g _ _ j call a _ busy _ ih =>
    rw [List.filter_append]
    by_cases e : k = j
    · subst e
      refine Chain.append ih ?_
      simp only [Config.rested, busy, Function.update_self, List.filter_cons, decide_true, if_pos,
        List.filter_nil]
      exact ⟨rfl, rfl⟩
    · simpa only [Config.rested, Function.update_of_ne e, List.filter_cons, List.filter_nil,
        Ne.symm e, decide_false, Bool.false_eq_true, if_false, List.append_nil] using ih
  | environment _ _ ih => exact ih

variable {machine : κ → Machine Γ Λ Ξ ℓ α} {T : κ → Λ → List (ℓ × (Λ × Ξ)) → Γ → Λ → Prop}

/-- What is known of a key: its phase, and in a call what its steps have made of the private state
    that it found. -/
def During (machine : κ → Machine Γ Λ Ξ ℓ α)
    (T : κ → Λ → List (ℓ × (Λ × Ξ)) → Γ → Λ → Prop) (g : Config κ Λ Ξ ℓ ρ α)
    (doing : κ → List (ℓ × (Λ × Ξ))) (k : κ) : Prop :=
  ∃ γ, (machine k).inv γ (g.stores k) g.shared ∧
    match g.calls k with
    | none => γ = (machine k).idle
    | some call => Follows (machine k) (fun a γ _ => (machine k).ended a γ) call.program γ
        (g.stores k) ∧ T k call.begun (doing k) γ (g.stores k)

/-- What the moves of each call keep from its start on is known of every call that has ended. -/
theorem calls (follows : ∀ k r l s, (machine k).inv (machine k).idle l s →
      Follows (machine k) (fun a γ _ => (machine k).ended a γ) (program k r) (machine k).idle l)
    (base : Preserved machine environment assumes fun k => (machine k).inv)
    (starts : ∀ k l s, (machine k).inv (machine k).idle l s → T k l [] (machine k).idle l)
    (moves : ∀ {k label γ γ' l₀ steps x y}, (machine k).inv γ x.1 x.2 → T k l₀ steps γ x.1 →
      assumes k label x → (machine k).move label γ x γ' y → T k l₀ (steps ++ [(label, x)]) γ' y.1)
    (hidle : ∀ k, g₀.calls k = none)
    (hinit : ∀ k, (machine k).inv (machine k).idle (g₀.stores k) g₀.shared)
    (h : Chronicles program environment assumes g₀ g doing log) :
    (∀ k, During machine T g doing k) ∧ ∀ past ∈ log, ∃ γ,
      (machine past.key).ended past.answer γ ∧ (∃ s, (machine past.key).inv γ past.left s) ∧
        T past.key past.begun past.steps γ past.left := by
  induction h with
  | begin =>
    refine ⟨fun k => ⟨(machine k).idle, hinit k, ?_⟩, fun _ hpast => by cases hpast⟩
    simp only [hidle k]
  | @start g _ _ j r _ idle ih =>
    refine ⟨fun k => ?_, ih.2⟩
    obtain ⟨γ, hinv, hphase⟩ := ih.1 k
    by_cases e : k = j
    · subst e
      simp only [idle] at hphase
      subst hphase
      refine ⟨_, hinv, ?_⟩
      simp only [Function.update_self]
      exact ⟨follows k r _ _ hinv, starts k _ _ hinv⟩
    · refine ⟨γ, hinv, ?_⟩
      simpa only [Function.update_of_ne e] using hphase
  | @run g _ _ j call label update next _ busy due allowed ih =>
    refine ⟨fun k => ?_, ih.2⟩
    obtain ⟨δ, hinv', hphase'⟩ := ih.1 j
    simp only [busy, due, Follows] at hphase'
    obtain ⟨hfollows, hknown⟩ := hphase'
    obtain ⟨δ', hmove, hrest⟩ := hfollows _ hinv'
    by_cases e : k = j
    · subst e
      refine ⟨δ', ?_, ?_⟩
      · simpa only [Function.update_self] using base.own hinv' hinv' allowed hmove
      · simp only [Function.update_self]
        exact ⟨hrest, moves hinv' hknown allowed hmove⟩
    · obtain ⟨γ, hinv, hphase⟩ := ih.1 k
      refine ⟨γ, ?_, ?_⟩
      · simpa only [Function.update_of_ne e] using
          base.other (Ne.symm e) hinv' hinv' hinv hinv allowed hmove
      · simpa only [Function.update_of_ne e] using hphase
  | @finish g _ _ j call a _ busy ended ih =>
    obtain ⟨δ, hinv', hphase'⟩ := ih.1 j
    simp only [busy, ended, Follows] at hphase'
    refine ⟨fun k => ?_, fun past hpast => ?_⟩
    · by_cases e : k = j
      · subst e
        refine ⟨(machine k).idle, base.ended hphase'.1 hinv' hinv', ?_⟩
        simp only [Function.update_self]
      · obtain ⟨γ, hinv, hphase⟩ := ih.1 k
        refine ⟨γ, hinv, ?_⟩
        simpa only [Function.update_of_ne e] using hphase
    · rcases List.mem_append.mp hpast with hpast | hpast
      · exact ih.2 past hpast
      · obtain rfl := List.mem_singleton.mp hpast
        exact ⟨δ, hphase'.1, ⟨_, hinv'⟩, hphase'.2⟩
  | environment _ moves' ih =>
    refine ⟨fun k => ?_, ih.2⟩
    obtain ⟨γ, hinv, hphase⟩ := ih.1 k
    exact ⟨γ, base.moves moves' hinv hinv, hphase⟩

end Chronicles

end Interleave
