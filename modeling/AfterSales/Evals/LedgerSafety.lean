import AfterSales.Evals.BudgetLedger
import AfterSales.Domain.Ids
import Mathlib.Data.List.ReduceOption

/-! Safety of the budget ledger over any number of processes.

    Every operation rebuilds the state from the file before it appends, so the invariant is one of
    the file: it is read back, and its invocations respect the binding. An invocation is admitted
    only when none is pending, so at most the last one is, and the ones before it are counted in
    full below the token threshold. -/

namespace AfterSales

variable [LedgerDigest]

/-! ### The invariant of the invocations -/

/-- The invocations of a ledger respect its binding. -/
structure LedgerReplay.Safe (r : LedgerReplay) (binding : DevelopmentBudgetBinding) : Prop where
  identified : ∀ i ∈ r.invocations, i.invocationId =
    LedgerDigest.invocationId (LedgerDigest.bindingDigest binding) i.logicalRunKey i.selectorTurn
  written : ∀ i ∈ r.invocations, staysOnLine i.logicalRunKey = true
  once : (r.invocations.map (·.runTurn)).Nodup
  within : r.invocations.length ≤ binding.authorizedProviderCallCeiling
  withinRun : ∀ key, r.invocations.countP (·.logicalRunKey = key) ≤
    binding.authorizedProviderCallCeilingPerRun
  settled : ∀ before last, r.invocations = before ++ [last] → ∀ i ∈ before, i.status ≠ .admitted
  below : ∀ t ∈ binding.tokenThreshold, ∀ before last, r.invocations = before ++ [last] →
    (∀ i ∈ before, i.usageMissing = false) ∧
      (before.map fun i => i.totalTokens.getD 0).sum < t

namespace LedgerReplay

variable {r r' : LedgerReplay} {binding : DevelopmentBudgetBinding}

theorem Safe.start : LedgerReplay.start.Safe binding where
  identified := by simp [LedgerReplay.start]
  written := by simp [LedgerReplay.start]
  once := List.nodup_nil
  within := Nat.zero_le _
  withinRun := fun _ => Nat.zero_le _
  settled := by simp [LedgerReplay.start]
  below := by simp [LedgerReplay.start]

/-- A stop event changes no invocation. -/
theorem Safe.stop (h : r.Safe binding) (reason : LedgerStopReason) :
    ({ r with stopReason := some reason } : LedgerReplay).Safe binding :=
  ⟨h.identified, h.written, h.once, h.within, h.withinRun, h.settled, h.below⟩

theorem Safe.ids_nodup (h : r.Safe binding) :
    (r.invocations.map (·.invocationId)).Nodup := by
  have hids : r.invocations.map (·.invocationId) = (r.invocations.map (·.runTurn)).map fun p =>
      LedgerDigest.invocationId (LedgerDigest.bindingDigest binding) p.1 p.2 := by
    rw [List.map_map]
    exact List.map_congr_left h.identified
  rw [hids]
  refine h.once.map fun p q hpq => ?_
  obtain ⟨hkey, hturn⟩ := LedgerDigest.invocationId_injective _ _ _ _ _ hpq
  exact Prod.ext hkey hturn

/-- Only the last invocation can be pending. -/
theorem Safe.pending_last (h : r.Safe binding) {i : DevelopmentBudgetInvocation}
    (hi : i ∈ r.invocations) (hpending : i.status = .admitted) :
    ∃ before, r.invocations = before ++ [i] := by
  obtain ⟨before, last, hlast⟩ : ∃ before last, r.invocations = before ++ [last] := by
    rcases List.eq_nil_or_concat r.invocations with hnil | ⟨before, last, hlast⟩
    · rw [hnil] at hi
      cases hi
    · exact ⟨before, last, by simpa using hlast⟩
  rw [hlast] at hi
  rcases List.mem_append.mp hi with hbefore | hsingle
  · exact absurd hpending (h.settled before last hlast i hbefore)
  · obtain rfl := List.mem_singleton.mp hsingle
    exact ⟨before, hlast⟩

/-- An invocation is admitted in a state that admits it. -/
theorem Safe.admission (h : r.Safe binding) {i : DevelopmentBudgetInvocation}
    (hid : i.invocationId = LedgerDigest.invocationId (LedgerDigest.bindingDigest binding)
      i.logicalRunKey i.selectorTurn)
    (hline : staysOnLine i.logicalRunKey = true)
    (hnew : ∀ j ∈ r.invocations, j.runTurn ≠ i.runTurn)
    (hceiling : r.invocations.length < binding.authorizedProviderCallCeiling)
    (hrun : r.invocations.countP (·.logicalRunKey = i.logicalRunKey) <
      binding.authorizedProviderCallCeilingPerRun)
    (hpending : ∀ j ∈ r.invocations, j.status ≠ .admitted)
    (hbelow : ∀ t ∈ binding.tokenThreshold, (∀ j ∈ r.invocations, j.usageMissing = false) ∧
      (r.invocations.map fun j => j.totalTokens.getD 0).sum < t) :
    ({ r with invocations := r.invocations ++ [i] } : LedgerReplay).Safe binding where
  identified := by
    intro j hj
    rcases List.mem_append.mp hj with hj | hj
    · exact h.identified j hj
    · obtain rfl := List.mem_singleton.mp hj
      exact hid
  written := by
    intro j hj
    rcases List.mem_append.mp hj with hj | hj
    · exact h.written j hj
    · obtain rfl := List.mem_singleton.mp hj
      exact hline
  once := by
    rw [List.map_append, List.map_singleton]
    exact h.once.append (List.nodup_singleton _) (by simpa using hnew)
  within := by
    rw [List.length_append, List.length_singleton]
    omega
  withinRun := by
    intro key
    have hold := h.withinRun key
    rw [List.countP_append, List.countP_singleton]
    split
    · rename_i hkey
      rw [decide_eq_true_eq] at hkey
      subst hkey
      omega
    · omega
  settled := by
    intro before last heq
    obtain ⟨rfl, -⟩ := List.append_inj' heq rfl
    exact hpending
  below := by
    intro t ht before last heq
    obtain ⟨rfl, -⟩ := List.append_inj' heq rfl
    exact hbelow t ht

/-- The completion of the pending invocation replaces the last one. -/
theorem Safe.modify_last (h : r.Safe binding) {i : DevelopmentBudgetInvocation}
    {before : List DevelopmentBudgetInvocation} (hlast : r.invocations = before ++ [i])
    (f : DevelopmentBudgetInvocation → DevelopmentBudgetInvocation) :
    Keyed.modify DevelopmentBudgetInvocation.invocationId i.invocationId f r.invocations =
      before ++ [f i] := by
  have hnodup := h.ids_nodup
  rw [hlast, List.map_append, List.map_singleton] at hnodup
  rw [hlast, Keyed.modify, List.map_append, List.map_singleton, if_pos rfl]
  congr 1
  refine (List.map_congr_left fun j hj => ?_).trans (List.map_id _)
  have hne : j.invocationId ≠ i.invocationId := fun heq =>
    List.disjoint_of_nodup_append hnodup (List.mem_map_of_mem hj) (by simp [heq])
  rw [if_neg hne]
  rfl

omit [LedgerDigest] in
theorem complete_spec {i updated : DevelopmentBudgetInvocation} {c : LedgerCompletion}
    (h : i.complete c = some updated) :
    i.admittedAt ≤ c.completedAt ∧ updated.invocationId = i.invocationId ∧
      updated.runTurn = i.runTurn ∧ updated.logicalRunKey = i.logicalRunKey ∧
      updated.selectorTurn = i.selectorTurn := by
  unfold DevelopmentBudgetInvocation.complete at h
  split at h
  · rename_i htime
    obtain rfl := Option.some.inj h
    exact ⟨htime, rfl, rfl, rfl, rfl⟩
  · cases h

theorem Safe.complete (h : r.Safe binding) {i updated : DevelopmentBudgetInvocation}
    {before : List DevelopmentBudgetInvocation} (hlast : r.invocations = before ++ [i])
    {c : LedgerCompletion} (hupdated : i.complete c = some updated) :
    ({ r with invocations := before ++ [updated] } : LedgerReplay).Safe binding := by
  obtain ⟨-, hid, hrunTurn, hkey, hturn⟩ := complete_spec hupdated
  refine ⟨?_, ?_, ?_, ?_, ?_, ?_, ?_⟩
  · intro j hj
    rcases List.mem_append.mp hj with hj | hj
    · exact h.identified j (by rw [hlast]; exact List.mem_append_left _ hj)
    · obtain rfl := List.mem_singleton.mp hj
      rw [hid, hkey, hturn]
      exact h.identified i (by simp [hlast])
  · intro j hj
    rcases List.mem_append.mp hj with hj | hj
    · exact h.written j (by rw [hlast]; exact List.mem_append_left _ hj)
    · obtain rfl := List.mem_singleton.mp hj
      rw [hkey]
      exact h.written i (by simp [hlast])
  · have honce := h.once
    rw [hlast] at honce
    simpa [hrunTurn] using honce
  · have hwithin := h.within
    rw [hlast] at hwithin
    simpa using hwithin
  · intro key
    have hrun := h.withinRun key
    rw [hlast, List.countP_append, List.countP_singleton] at hrun
    rw [List.countP_append, List.countP_singleton, hkey]
    exact hrun
  · intro before' last heq
    obtain ⟨rfl, -⟩ := List.append_inj' heq rfl
    exact h.settled before i hlast
  · intro t ht before' last heq
    obtain ⟨rfl, -⟩ := List.append_inj' heq rfl
    exact h.below t ht before i hlast

/-! ### What the stop reasons leave open -/

omit [LedgerDigest]

theorem reduceOption_sum (values : List (Option Nat)) :
    values.reduceOption.sum = (values.map fun v => v.getD 0).sum := by
  induction values with
  | nil => rfl
  | cons v rest ih =>
    cases v with
    | none => simpa [List.reduceOption_cons_of_none] using ih
    | some n => simp [List.reduceOption_cons_of_some, ih]

/-- A state that admits a further call of a run. -/
structure Admits (r : LedgerReplay) (binding : DevelopmentBudgetBinding) (key : String) :
    Prop where
  unstopped : r.stopReason = none
  settled : ∀ j ∈ r.invocations, j.status ≠ .admitted
  within : r.invocations.length < binding.authorizedProviderCallCeiling
  withinRun : r.invocations.countP (·.logicalRunKey = key) <
    binding.authorizedProviderCallCeilingPerRun
  below : ∀ t ∈ binding.tokenThreshold, (∀ j ∈ r.invocations, j.usageMissing = false) ∧
    (r.invocations.map fun j => j.totalTokens.getD 0).sum < t

theorem terminal_eq (h : ∀ j ∈ r.invocations, j.status ≠ .admitted) :
    r.terminal = r.invocations := by
  unfold terminal
  rw [List.filter_eq_self]
  simpa using h

/-- Without a stop reason in force nothing is pending, nothing was stopped, and a configured
    threshold has been compared with complete counts. -/
theorem stopReasonInForce_none (h : r.stopReasonInForce binding = none) :
    r.stopReason = none ∧ (∀ j ∈ r.invocations, j.status ≠ .admitted) ∧
      (binding.tokenThreshold.isSome → ∀ j ∈ r.invocations, j.usageMissing = false) := by
  have hbelow : r.stopReasonBelowCeiling binding = none := by
    unfold stopReasonInForce at h
    split at h
    · cases h
    · exact h
  unfold stopReasonBelowCeiling at hbelow
  split at hbelow
  · cases hbelow
  · rename_i hpending
    have hpending : r.pending.isEmpty = true := by simpa using hpending
    have hsettled : ∀ j ∈ r.invocations, j.status ≠ .admitted := by
      have hnil := List.isEmpty_iff.mp hpending
      unfold pending at hnil
      simpa using List.filter_eq_nil_iff.mp hnil
    split at hbelow
    · cases hbelow
    · split at hbelow
      · cases hbelow
      · rename_i hcounted
        refine ⟨hbelow, hsettled, fun hthreshold j hj => ?_⟩
        have hterminal := terminal_eq hsettled
        have hcomplete : r.tokenUsageComplete = true := by
          by_contra hincomplete
          refine hcounted ?_
          have hnonempty : r.terminal.isEmpty = false := by
            rw [hterminal]
            cases hinv : r.invocations with
            | nil =>
              rw [hinv] at hj
              cases hj
            | cons => rfl
          simp only [Bool.not_eq_true] at hincomplete
          simp [hthreshold, hincomplete, hnonempty]
        unfold tokenUsageComplete at hcomplete
        rw [hterminal, hpending, Bool.true_and, Bool.or_eq_true, decide_eq_true_eq] at hcomplete
        rcases hcomplete with hempty | hnone
        · rw [List.isEmpty_iff.mp hempty] at hj
          cases hj
        · simpa using List.countP_eq_zero.mp hnone j hj

theorem totalTokens_eq (hsettled : ∀ j ∈ r.invocations, j.status ≠ .admitted)
    (hcounted : ∀ j ∈ r.invocations, j.usageMissing = false) (hsome : r.invocations ≠ []) :
    r.totalTokens = some (r.invocations.map fun j => j.totalTokens.getD 0).sum := by
  unfold totalTokens reportedSum
  rw [terminal_eq hsettled, if_neg, reduceOption_sum, List.map_map]
  · rfl
  · obtain ⟨j, hj⟩ := List.exists_mem_of_ne_nil _ hsome
    have hj' := hcounted j hj
    obtain ⟨total, htotal⟩ : ∃ total, j.totalTokens = some total := by
      rw [← Option.isSome_iff_exists]
      simp only [DevelopmentBudgetInvocation.usageMissing, Bool.or_eq_false_iff] at hj'
      simpa using hj'.2
    rw [List.isEmpty_iff]
    intro hnil
    have hmem : total ∈ (r.invocations.map (·.totalTokens)).reduceOption :=
      List.reduceOption_mem_iff.mpr (htotal ▸ List.mem_map_of_mem hj)
    rw [hnil] at hmem
    cases hmem

theorem admits_of_denialReason {key : String}
    (h : DevelopmentBudgetLedger.denialReason binding (r.snapshot binding) key = none) :
    r.Admits binding key := by
  unfold DevelopmentBudgetLedger.denialReason at h
  split at h
  · cases h
  · rename_i hthreshold
    split at h
    · cases h
    · split at h
      · cases h
      · rename_i hstop
        split at h
        · cases h
        · rename_i hceiling
          split at h
          · cases h
          · rename_i hrun
            obtain ⟨hunstopped, hsettled, hcounted⟩ := stopReasonInForce_none hstop
            refine ⟨hunstopped, hsettled, Nat.lt_of_not_le hceiling, Nat.lt_of_not_le hrun, ?_⟩
            intro t ht
            have hall := hcounted (Option.isSome_iff_exists.mpr ⟨t, ht⟩)
            refine ⟨hall, ?_⟩
            rcases eq_or_ne r.invocations [] with hnil | hsome
            · rw [hnil]
              exact binding.thresholdPositive t ht
            · by_contra hover
              refine hthreshold ?_
              have hcomplete : r.tokenUsageComplete = true := by
                unfold tokenUsageComplete pending
                rw [terminal_eq hsettled, Bool.and_eq_true, Bool.or_eq_true, decide_eq_true_eq]
                refine ⟨?_, Or.inr (List.countP_eq_zero.mpr (by simpa using hall))⟩
                rw [List.isEmpty_iff, List.filter_eq_nil_iff]
                simpa using hsettled
              show r.thresholdExhausted binding = true
              unfold thresholdExhausted
              rw [hcomplete, totalTokens_eq hsettled hall hsome, Option.mem_def.mp ht]
              simpa using hover

end LedgerReplay

/-! ### The invariant of the file -/

namespace LedgerReplay

omit [LedgerDigest]

theorem run_append (r : LedgerReplay) (xs ys : List LedgerEvent) :
    r.run (xs ++ ys) = (r.run xs).bind fun r' => r'.run ys := by
  induction xs generalizing r with
  | nil => rfl
  | cons e rest ih =>
    rw [List.cons_append, run, run]
    cases r.next e with
    | error => rfl
    | ok r' => exact ih r'

theorem next_stopReason {r r' : LedgerReplay} {e : LedgerEvent} (h : r.next e = .ok r') :
    r'.stopReason.isSome = (r.stopReason.isSome || e.isStop) := by
  unfold next at h
  unfold LedgerEvent.isStop
  split at h
  · rename_i hpayload
    obtain rfl := Except.ok.inj h
    rw [hpayload, Bool.or_false]
  · rename_i hpayload
    rw [hpayload]
    split at h
    · cases h
    · split at h
      · cases h
      · obtain rfl := Except.ok.inj h
        rw [Bool.or_false]
  · rename_i hpayload
    rw [hpayload]
    split at h
    · cases h
    · split at h
      · cases h
      · split at h
        · cases h
        · obtain rfl := Except.ok.inj h
          rw [Bool.or_false]
  · rename_i hpayload
    obtain rfl := Except.ok.inj h
    rw [hpayload, Bool.or_true]
    rfl

/-- A stop event is remembered. -/
theorem run_stopReason {r r' : LedgerReplay} {events : List LedgerEvent}
    (h : r.run events = .ok r') :
    r'.stopReason.isSome = (r.stopReason.isSome || events.any LedgerEvent.isStop) := by
  induction events generalizing r with
  | nil =>
    obtain rfl := Except.ok.inj h
    simp
  | cons e rest ih =>
    rw [run] at h
    cases hnext : r.next e with
    | error => rw [hnext] at h; cases h
    | ok r'' =>
      rw [hnext] at h
      rw [ih h, next_stopReason hnext, List.any_cons, Bool.or_assoc]

end LedgerReplay

/-- A file that is read back, under its binding. -/
structure LedgerFile (binding : DevelopmentBudgetBinding) (file : List LedgerEvent)
    (r : LedgerReplay) : Prop where
  begins : ∃ rest, file = ledgerEvent binding (.initialized binding) :: rest ∧
    LedgerReplay.start.run rest = .ok r
  bound : ∀ e ∈ file, e.bindingDigest = LedgerDigest.bindingDigest binding
  readable : ∀ e ∈ file, e.staysOnLine = true
  safe : r.Safe binding

namespace LedgerFile

variable {binding : DevelopmentBudgetBinding} {file : List LedgerEvent} {r r' : LedgerReplay}

theorem nonempty (h : LedgerFile binding file r) : file.isEmpty = false := by
  obtain ⟨rest, rfl, -⟩ := h.begins
  rfl

theorem load (h : LedgerFile binding file r) : loadEvents file = .ok file := by
  rw [loadEvents, if_pos (List.all_eq_true.mpr h.readable)]

theorem rebuild_eq (h : LedgerFile binding file r) :
    rebuildLedger binding file = .ok (r.snapshot binding) := by
  obtain ⟨rest, hfile, hrun⟩ := h.begins
  have hbound : file.any (fun e => decide (e.bindingDigest ≠ LedgerDigest.bindingDigest binding))
      = false := by
    rw [List.any_eq_false]
    simpa using h.bound
  have hvalid : validateEventBinding binding file = .ok () := by
    rw [validateEventBinding, hbound, hfile]
    simp [ledgerEvent]
  rw [rebuildLedger, hvalid, hfile, List.tail_cons, hrun]
  rfl

theorem readState_eq (h : LedgerFile binding file r) :
    readState binding file = .ok (r.snapshot binding) := by
  rw [readState, h.load]
  exact h.rebuild_eq

/-- A written event that is read back extends the file. -/
theorem snoc (h : LedgerFile binding file r) {payload : LedgerPayload}
    (hnext : r.next (ledgerEvent binding payload) = .ok r')
    (hline : (ledgerEvent binding payload).staysOnLine = true) (hsafe : r'.Safe binding) :
    LedgerFile binding (file ++ [ledgerEvent binding payload]) r' := by
  obtain ⟨rest, hfile, hrun⟩ := h.begins
  refine ⟨⟨rest ++ [ledgerEvent binding payload], by rw [hfile]; rfl, ?_⟩, ?_, ?_, hsafe⟩
  · rw [LedgerReplay.run_append, hrun]
    show (LedgerReplay.run r [ledgerEvent binding payload]) = _
    rw [LedgerReplay.run, hnext]
    rfl
  · intro e he
    rcases List.mem_append.mp he with he | he
    · exact h.bound e he
    · rw [List.mem_singleton.mp he]
      rfl
  · intro e he
    rcases List.mem_append.mp he with he | he
    · exact h.readable e he
    · rw [List.mem_singleton.mp he]
      exact hline

theorem stop (h : LedgerFile binding file r) (reason : LedgerStopReason) (key : Option String)
    (hkey : key.all staysOnLine = true) :
    LedgerFile binding (file ++ [ledgerEvent binding (.stop reason key)])
      { r with stopReason := some reason } :=
  h.snoc rfl hkey (h.safe.stop reason)

/-- An event whose replay fails, or whose line splits, makes the file unreadable. -/
theorem readState_snoc_iff (h : LedgerFile binding file r) {payload : LedgerPayload}
    {later : List LedgerEvent} {state : DevelopmentBudgetLedgerSnapshot}
    (hread : readState binding (file ++ ledgerEvent binding payload :: later) = .ok state) :
    (ledgerEvent binding payload).staysOnLine = true ∧
      ∃ r', r.next (ledgerEvent binding payload) = .ok r' := by
  unfold readState at hread
  unfold loadEvents at hread
  split at hread
  · rename_i hall
    refine ⟨List.all_eq_true.mp hall _ (by simp), ?_⟩
    obtain ⟨rest, hfile, hrun⟩ := h.begins
    have htail : (file ++ ledgerEvent binding payload :: later).tail =
        rest ++ ledgerEvent binding payload :: later := by
      rw [hfile]
      rfl
    change rebuildLedger binding _ = _ at hread
    unfold rebuildLedger at hread
    cases hvalid : validateEventBinding binding (file ++ ledgerEvent binding payload :: later) with
    | error => rw [hvalid] at hread; cases hread
    | ok =>
      rw [hvalid, htail, LedgerReplay.run_append, hrun] at hread
      cases hnext : r.next (ledgerEvent binding payload) with
      | error =>
        change (Except.map _ (LedgerReplay.run r _)) = _ at hread
        rw [LedgerReplay.run, hnext] at hread
        cases hread
      | ok r' => exact ⟨r', rfl⟩
  · cases hread

end LedgerFile

/-! ### Operations -/

namespace LedgerFile

open DevelopmentBudgetLedger

variable {binding : DevelopmentBudgetBinding} {file : List LedgerEvent} {r : LedgerReplay}

theorem init_empty (h : binding.staysOnLine = true) :
    LedgerFile binding [ledgerEvent binding (.initialized binding)] .start := by
  refine ⟨⟨[], rfl, rfl⟩, ?_, ?_, .start⟩
  · intro e he
    rw [List.mem_singleton.mp he]
    rfl
  · intro e he
    rw [List.mem_singleton.mp he]
    exact h

theorem init_kept (h : LedgerFile binding file r) :
    ∃ events, init binding file = .ok events ∧ ∃ r', LedgerFile binding (file ++ events) r' := by
  have hinit : init binding file = .ok (if (r.snapshot binding).stopReason =
      some .providerInvocationIncomplete ∧ ¬ file.any LedgerEvent.isStop then
        [ledgerEvent binding (.stop .providerInvocationIncomplete none)] else []) := by
    unfold init
    rw [h.load]
    change (if file.isEmpty then _ else _) = _
    rw [h.nonempty, if_neg (by simp), h.rebuild_eq]
    rfl
  refine ⟨_, hinit, ?_⟩
  split
  · exact ⟨_, h.stop _ none rfl⟩
  · exact ⟨r, by rwa [List.append_nil]⟩

/-- An execution of another binding gets no instance. -/
theorem init_other (h : LedgerFile binding file r) {other : DevelopmentBudgetBinding}
    (hother : other ≠ binding) : ∃ e, init other file = .error e := by
  have hinvalid : ∃ e, validateEventBinding other file = .error e := by
    unfold validateEventBinding
    split
    · exact ⟨_, rfl⟩
    · obtain ⟨rest, hfile, -⟩ := h.begins
      rw [hfile]
      simp [ledgerEvent, Ne.symm hother]
  obtain ⟨e, hinvalid⟩ := hinvalid
  refine ⟨e, ?_⟩
  unfold init
  rw [h.load]
  change (if file.isEmpty then _ else _) = _
  rw [h.nonempty, if_neg (by simp), rebuildLedger, hinvalid]
  rfl

theorem admitProviderCall_eq (h : LedgerFile binding file r) {key : String} {turn : Nat}
    (now : Instant) (hkey : key ≠ "") (hturn : 1 ≤ turn ∧ turn ≤ 16) :
    admitProviderCall binding key turn now file = .ok (decideAdmission binding (r.snapshot binding)
      (newInvocation binding key turn now hkey hturn)) := by
  rw [admitProviderCall, dif_neg hkey, dif_pos hturn, h.readState_eq]
  rfl

/-- A state admits a new turn of a run without a reason for denial, and nothing else. -/
theorem decideAdmission_cases (binding : DevelopmentBudgetBinding) (r : LedgerReplay)
    (i : DevelopmentBudgetInvocation) :
    ((decideAdmission binding (r.snapshot binding) i).1.granted = false ∧
      (decideAdmission binding (r.snapshot binding) i).2 = []) ∨
    ((decideAdmission binding (r.snapshot binding) i).1.granted = true ∧
      (decideAdmission binding (r.snapshot binding) i).2 = [ledgerEvent binding (.admitted i)] ∧
      (∀ j ∈ r.invocations, j.runTurn ≠ i.runTurn) ∧
      denialReason binding (r.snapshot binding) i.logicalRunKey = none) := by
  unfold decideAdmission
  split
  · exact Or.inl ⟨rfl, rfl⟩
  · rename_i hfind
    split
    · exact Or.inl ⟨rfl, rfl⟩
    · rename_i hreason
      refine Or.inr ⟨rfl, rfl, ?_, hreason⟩
      simpa using List.find?_eq_none.mp hfind

theorem decideAdmission_granted (binding : DevelopmentBudgetBinding)
    {i : DevelopmentBudgetInvocation}
    (hnew : ∀ j ∈ r.invocations, j.runTurn ≠ i.runTurn)
    (hreason : denialReason binding (r.snapshot binding) i.logicalRunKey = none) :
    (decideAdmission binding (r.snapshot binding) i).2 = [ledgerEvent binding (.admitted i)] := by
  have hfind : (r.snapshot binding).invocations.find? (fun j => j.runTurn = i.runTurn) = none := by
    simpa using hnew
  rw [decideAdmission, hfind]
  simp only
  rw [hreason]

/-- A new invocation is replayed. -/
theorem next_admitted (h : r.Safe binding) {i : DevelopmentBudgetInvocation}
    (hid : i.invocationId = LedgerDigest.invocationId (LedgerDigest.bindingDigest binding)
      i.logicalRunKey i.selectorTurn)
    (hnew : ∀ j ∈ r.invocations, j.runTurn ≠ i.runTurn) :
    r.next (ledgerEvent binding (.admitted i)) =
      .ok { r with invocations := r.invocations ++ [i] } := by
  have hids : ∀ j ∈ r.invocations, j.invocationId ≠ i.invocationId := by
    intro j hj heq
    rw [h.identified j hj, hid] at heq
    obtain ⟨hkey, hselector⟩ := LedgerDigest.invocationId_injective _ _ _ _ _ heq
    exact hnew j hj (Prod.ext hkey hselector)
  simp only [LedgerReplay.next, ledgerEvent]
  rw [if_neg (by simpa using hids), if_neg (by simpa using hnew)]

/-- The invariant after a granted admission. -/
theorem admitted (h : LedgerFile binding file r) {i : DevelopmentBudgetInvocation}
    (hid : i.invocationId = LedgerDigest.invocationId (LedgerDigest.bindingDigest binding)
      i.logicalRunKey i.selectorTurn)
    (hnew : ∀ j ∈ r.invocations, j.runTurn ≠ i.runTurn)
    (hadmits : r.Admits binding i.logicalRunKey)
    (hline : staysOnLine i.logicalRunKey = true) :
    LedgerFile binding (file ++ [ledgerEvent binding (.admitted i)])
      { r with invocations := r.invocations ++ [i] } :=
  h.snoc (next_admitted h.safe hid hnew) hline
    (h.safe.admission hid hline hnew hadmits.within hadmits.withinRun hadmits.settled hadmits.below)

/-- What a completion is recorded for: the pending invocation of its id. -/
theorem beginCompletion_cases (h : LedgerFile binding file r) {request : CompletionRequest}
    {state : DevelopmentBudgetLedgerSnapshot} {completion : LedgerCompletion}
    (hbegin : beginCompletion binding request file = .ok (state, some completion)) :
    state = r.snapshot binding ∧ request.completion = .ok completion ∧
      ∃ i ∈ r.invocations, i.invocationId = request.invocationId ∧
        i.logicalRunKey = request.logicalRunKey ∧ i.status = .admitted ∧
        Keyed.find DevelopmentBudgetInvocation.invocationId request.invocationId r.invocations =
          some i := by
  unfold beginCompletion at hbegin
  rw [h.readState_eq] at hbegin
  dsimp only [Except.bind] at hbegin
  rw [LedgerReplay.snapshot_invocations] at hbegin
  split at hbegin
  · cases hbegin
  · rename_i i hfind
    obtain ⟨hmem, hid⟩ := Keyed.find_some _ hfind
    split at hbegin
    · cases hbegin
    · rename_i hkey
      split at hbegin
      · cases hbegin
      · rename_i hstatus
        cases hcompletion : request.completion with
        | error => rw [hcompletion] at hbegin; cases hbegin
        | ok c =>
          rw [hcompletion] at hbegin
          obtain ⟨rfl, hc⟩ := Prod.mk.inj (Except.ok.inj hbegin)
          obtain rfl := Option.some.inj hc
          exact ⟨rfl, rfl, i, hmem, hid, not_not.mp hkey, not_not.mp hstatus, hfind⟩

omit [LedgerDigest] in
theorem completion_fields {request : CompletionRequest} {completion : LedgerCompletion}
    (h : request.completion = .ok completion) :
    completion.invocationId = request.invocationId ∧ completion.completedAt = request.now ∧
      completion.errorCode = request.errorCode := by
  unfold CompletionRequest.completion at h
  cases hinput : usageValue request.usage.inputTokens with
  | error => rw [hinput] at h; cases h
  | ok input =>
    cases houtput : usageValue request.usage.outputTokens with
    | error => rw [hinput, houtput] at h; cases h
    | ok output =>
      cases htotal : usageValue request.usage.totalTokens with
      | error => rw [hinput, houtput, htotal] at h; cases h
      | ok total =>
        rw [hinput, houtput, htotal] at h
        obtain rfl := Except.ok.inj h
        exact ⟨rfl, rfl, rfl⟩

/-- The completion of the pending invocation of its id is replayed. -/
theorem next_completed (binding : DevelopmentBudgetBinding)
    {i updated : DevelopmentBudgetInvocation} {completion : LedgerCompletion}
    (hfind : Keyed.find DevelopmentBudgetInvocation.invocationId completion.invocationId
      r.invocations = some i) (hpending : i.status = .admitted)
    (hupdated : i.complete completion = some updated) :
    r.next (ledgerEvent binding (.completed completion)) = .ok { r with
      invocations := Keyed.modify DevelopmentBudgetInvocation.invocationId
        completion.invocationId (fun _ => updated) r.invocations } := by
  simp only [LedgerReplay.next, ledgerEvent, hfind, hupdated]
  rw [if_neg (by simpa using hpending)]

/-- A replayed completion is not before its admission. -/
theorem completed_in_order {i : DevelopmentBudgetInvocation} {completion : LedgerCompletion}
    {r' : LedgerReplay}
    (hfind : Keyed.find DevelopmentBudgetInvocation.invocationId completion.invocationId
      r.invocations = some i) (hpending : i.status = .admitted)
    (hnext : r.next (ledgerEvent binding (.completed completion)) = .ok r') :
    i.admittedAt ≤ completion.completedAt := by
  cases hupdated : i.complete completion with
  | some updated => exact (LedgerReplay.complete_spec hupdated).1
  | none =>
    simp only [LedgerReplay.next, ledgerEvent, hfind, hupdated] at hnext
    rw [if_neg (by simpa using hpending)] at hnext
    cases hnext

/-- The invariant after a completion that is not before its admission. -/
theorem completed (h : LedgerFile binding file r) {i : DevelopmentBudgetInvocation}
    {completion : LedgerCompletion}
    (hfind : Keyed.find DevelopmentBudgetInvocation.invocationId completion.invocationId
      r.invocations = some i) (hpending : i.status = .admitted)
    (htime : i.admittedAt ≤ completion.completedAt)
    (hline : completion.errorCode.all staysOnLine = true) :
    ∃ r', LedgerFile binding (file ++ [ledgerEvent binding (.completed completion)]) r' := by
  obtain ⟨hmem, hid⟩ := Keyed.find_some _ hfind
  obtain ⟨before, hlast⟩ := h.safe.pending_last hmem hpending
  obtain ⟨updated, hupdated⟩ : ∃ updated, i.complete completion = some updated := by
    rw [DevelopmentBudgetInvocation.complete, dif_pos htime]
    exact ⟨_, rfl⟩
  have hnext := next_completed binding hfind hpending hupdated
  have hmodify := h.safe.modify_last hlast fun _ => updated
  rw [hid] at hmodify
  rw [hmodify] at hnext
  exact ⟨_, h.snoc hnext hline (h.safe.complete hlast hupdated)⟩

end LedgerFile

end AfterSales
