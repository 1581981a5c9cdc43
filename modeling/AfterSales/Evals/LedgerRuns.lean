import AfterSales.Evals.LedgerSafety

/-! Runs of any number of processes over one ledger.

    While every operation keeps the file readable, each instance reads back a state that respects
    the binding. An operation that breaks this breaks it for good: nobody reads the file again, and
    nobody appends to a file that it cannot read. -/

namespace AfterSales

variable [LedgerDigest]

/-! ### The ledger of an execution -/

namespace LedgerSystem

open DevelopmentBudgetLedger

/-- What an operation has to respect for the ledger to stay readable. No text that is written holds
    a separator of lines, and no completion is recorded at a clock reading before its admission. -/
def Meets (s : LedgerSystem) : LedgerOperation → Prop
  | .open binding => s.file = [] → binding.staysOnLine = true
  | .admitProviderCall binding key turn _ => binding ∈ s.instances →
      ∀ state, readState binding s.file = .ok state → key ≠ "" → 1 ≤ turn ∧ turn ≤ 16 →
        (∀ i ∈ state.invocations, i.runTurn ≠ (key, turn)) →
        denialReason binding state key = none → staysOnLine key = true
  | .complete binding request _ => binding ∈ s.instances →
      ∀ state, readState binding s.file = .ok state → (∃ c, request.completion = .ok c) →
        ∀ i ∈ state.invocations, i.invocationId = request.invocationId →
          i.logicalRunKey = request.logicalRunKey → i.status = .admitted →
          i.admittedAt ≤ request.now ∧ request.errorCode.all staysOnLine = true
  | .forceStop _ _ => True
  | .snapshot _ => True

/-- Every operation of a sequence meets the condition where it runs. -/
def RunMeets (s : LedgerSystem) : List LedgerOperation → Prop
  | [] => True
  | operation :: rest => s.Meets operation ∧ (s.step operation).RunMeets rest

/-- What a ledger promises of its rebuilt state. -/
structure Keeps (binding : DevelopmentBudgetBinding) (file : List LedgerEvent)
    (state : DevelopmentBudgetLedgerSnapshot) : Prop where
  admittedOnce : (state.invocations.map (·.runTurn)).Nodup
  withinCeiling : state.invocations.length ≤ binding.authorizedProviderCallCeiling
  withinRunCeiling : ∀ key, state.invocations.countP (·.logicalRunKey = key) ≤
    binding.authorizedProviderCallCeilingPerRun
  onePending : state.invocations.countP (·.status = .admitted) ≤ 1
  admitsWhenSettled : ∀ key turn now answer events,
    admitProviderCall binding key turn now file = .ok (answer, events) →
    answer.granted = true ∨ events ≠ [] →
    (∀ i ∈ state.invocations, i.status ≠ .admitted) ∧ ∀ e ∈ file, e.isStop = false
  belowThreshold : ∀ t ∈ binding.tokenThreshold, ∀ before last,
    state.invocations = before ++ [last] →
    (∀ i ∈ before, i.status ≠ .admitted ∧ i.usageMissing = false) ∧
      (before.map fun i => i.totalTokens.getD 0).sum < t ∧
      ∀ overshoot ∈ state.tokenOvershoot, overshoot ≤ last.totalTokens.getD 0

/-- Every instance reads a state back from the file, and the state keeps what it promises. -/
def Sound (s : LedgerSystem) : Prop :=
  ∀ binding ∈ s.instances, ∃ state,
    readState binding s.file = .ok state ∧ Keeps binding s.file state

/-- The ledger has not been opened, or its instances share the binding of its readable file. -/
def Valid (s : LedgerSystem) : Prop :=
  s = empty ∨ ∃ binding r, (∀ b ∈ s.instances, b = binding) ∧ LedgerFile binding s.file r

variable {binding : DevelopmentBudgetBinding} {file : List LedgerEvent} {r : LedgerReplay}

omit [LedgerDigest] in
theorem reportedSum_some {values : List (Option Nat)} {n : Nat} (h : reportedSum values = some n) :
    n = (values.map fun v => v.getD 0).sum := by
  unfold reportedSum at h
  split at h
  · cases h
  · rw [← LedgerReplay.reduceOption_sum, Option.some.inj h]

/-- The last invocation accounts for the overshoot. -/
theorem overshoot_le (h : r.Safe binding) {before : List DevelopmentBudgetInvocation}
    {last : DevelopmentBudgetInvocation} (hlast : r.invocations = before ++ [last])
    {overshoot : Nat} (hovershoot : r.tokenOvershoot binding = some overshoot) :
    overshoot ≤ last.totalTokens.getD 0 := by
  unfold LedgerReplay.tokenOvershoot at hovershoot
  split at hovershoot
  · rename_i hcomplete
    obtain ⟨t, ht, hovershoot⟩ := Option.bind_eq_some_iff.mp hovershoot
    obtain ⟨total, htotal, rfl⟩ := Option.map_eq_some_iff.mp hovershoot
    have hsettled : ∀ j ∈ r.invocations, j.status ≠ .admitted := by
      unfold LedgerReplay.tokenUsageComplete at hcomplete
      rw [Bool.and_eq_true, List.isEmpty_iff] at hcomplete
      have hnil := hcomplete.1
      unfold LedgerReplay.pending at hnil
      simpa using List.filter_eq_nil_iff.mp hnil
    have hsum := reportedSum_some htotal
    rw [LedgerReplay.terminal_eq hsettled, hlast] at hsum
    simp only [List.map_append, List.map_map, List.map_cons, List.map_nil, List.sum_append,
      List.sum_cons, List.sum_nil, Nat.add_zero] at hsum
    have hbelow := (h.below t ht before last hlast).2
    change total = (before.map fun i => i.totalTokens.getD 0).sum + _ at hsum
    omega
  · cases hovershoot

theorem onePending (h : r.Safe binding) :
    r.invocations.countP (·.status = .admitted) ≤ 1 := by
  rcases List.eq_nil_or_concat r.invocations with hnil | ⟨before, last, hlast⟩
  · rw [hnil]
    exact Nat.zero_le _
  · rw [List.concat_eq_append] at hlast
    have hzero : before.countP (·.status = .admitted) = 0 :=
      List.countP_eq_zero.mpr (by simpa using h.settled before last hlast)
    rw [hlast, List.countP_append, hzero, Nat.zero_add]
    exact List.countP_le_length

/-- A granted admission finds nothing pending and no stop event. -/
theorem admitsWhenSettled (h : LedgerFile binding file r) {key : String} {turn : Nat}
    {now : Instant} {answer : DevelopmentBudgetAdmission} {events : List LedgerEvent}
    (hanswer : admitProviderCall binding key turn now file = .ok (answer, events))
    (hgranted : answer.granted = true ∨ events ≠ []) :
    (∀ i ∈ r.invocations, i.status ≠ .admitted) ∧ ∀ e ∈ file, e.isStop = false := by
  by_cases hkey : key = ""
  · rw [admitProviderCall, dif_pos hkey] at hanswer
    cases hanswer
  · by_cases hturn : 1 ≤ turn ∧ turn ≤ 16
    · rw [h.admitProviderCall_eq now hkey hturn] at hanswer
      have hdecision := Except.ok.inj hanswer
      rcases LedgerFile.decideAdmission_cases binding r
        (newInvocation binding key turn now hkey hturn) with
        ⟨hdenied, hnone⟩ | ⟨-, -, -, hreason⟩
      · rw [hdecision] at hdenied hnone
        rcases hgranted with hgranted | hsome
        · rw [hgranted] at hdenied
          cases hdenied
        · exact absurd hnone hsome
      · have hanswers := LedgerReplay.admits_of_denialReason hreason
        refine ⟨hanswers.settled, ?_⟩
        obtain ⟨rest, hfile, hrun⟩ := h.begins
        have hstops := LedgerReplay.run_stopReason hrun
        rw [hanswers.unstopped] at hstops
        simp only [LedgerReplay.start, Option.isSome_none, Bool.false_or] at hstops
        intro e he
        rw [hfile] at he
        rcases List.mem_cons.mp he with rfl | he
        · rfl
        · exact Bool.eq_false_iff.mpr (List.any_eq_false.mp hstops.symm e he)
    · rw [admitProviderCall, dif_neg hkey, dif_neg hturn] at hanswer
      cases hanswer

theorem keeps (h : LedgerFile binding file r) : Keeps binding file (r.snapshot binding) where
  admittedOnce := h.safe.once
  withinCeiling := h.safe.within
  withinRunCeiling := h.safe.withinRun
  onePending := onePending h.safe
  admitsWhenSettled := fun _ _ _ _ _ hanswer hgranted => admitsWhenSettled h hanswer hgranted
  belowThreshold := by
    intro t ht before last hlast
    obtain ⟨hcounted, hsum⟩ := h.safe.below t ht before last hlast
    refine ⟨fun i hi => ⟨h.safe.settled before last hlast i hi, hcounted i hi⟩, hsum, ?_⟩
    intro overshoot hovershoot
    exact overshoot_le h.safe hlast hovershoot

theorem Valid.sound {s : LedgerSystem} (h : s.Valid) : s.Sound := by
  rcases h with rfl | ⟨binding, r, hinstances, hfile⟩
  · intro binding hb
    cases hb
  · intro b hb
    obtain rfl := hinstances b hb
    exact ⟨_, hfile.readState_eq, keeps hfile⟩

/-! ### One operation -/

variable {s : LedgerSystem}

omit [LedgerDigest] in
theorem appendBy_of_mem {events : List LedgerEvent} (h : binding ∈ s.instances) :
    s.appendBy binding events = { s with file := s.file ++ events } := by
  rw [LedgerSystem.appendBy, if_pos h]

omit [LedgerDigest] in
theorem appendBy_of_notMem {events : List LedgerEvent} (h : binding ∉ s.instances) :
    s.appendBy binding events = s := by
  rw [LedgerSystem.appendBy, if_neg h]

/-- The file of an instance. -/
theorem Valid.file_of_mem (h : s.Valid) (hb : binding ∈ s.instances) :
    ∃ r, (∀ b ∈ s.instances, b = binding) ∧ LedgerFile binding s.file r := by
  rcases h with rfl | ⟨bound, r, hinstances, hfile⟩
  · cases hb
  · obtain rfl := hinstances binding hb
    exact ⟨r, hinstances, hfile⟩

/-- An instance that appends keeps the invariant if it keeps the file readable. -/
theorem Valid.appendBy (h : s.Valid) {events : List LedgerEvent}
    (hevents : binding ∈ s.instances → ∀ r, LedgerFile binding s.file r →
      ∃ r', LedgerFile binding (s.file ++ events) r') :
    (s.appendBy binding events).Valid := by
  by_cases hb : binding ∈ s.instances
  · obtain ⟨r, hinstances, hfile⟩ := h.file_of_mem hb
    obtain ⟨r', hr'⟩ := hevents hb r hfile
    rw [appendBy_of_mem hb]
    exact Or.inr ⟨binding, r', hinstances, hr'⟩
  · rw [appendBy_of_notMem hb]
    exact h

theorem step_open_empty : empty.step (.open binding) =
    ⟨[ledgerEvent binding (.initialized binding)], [binding]⟩ := rfl

theorem Valid.open (h : s.Valid) (hmeets : s.Meets (.open binding)) :
    (s.step (.open binding)).Valid := by
  rcases h with rfl | ⟨bound, r, hinstances, hfile⟩
  · rw [step_open_empty]
    exact Or.inr ⟨binding, .start, by simp, LedgerFile.init_empty (hmeets rfl)⟩
  · by_cases hbinding : binding = bound
    · subst hbinding
      obtain ⟨events, hinit, r', hr'⟩ := hfile.init_kept
      have hstep : s.step (.open binding) = ⟨s.file ++ events, binding :: s.instances⟩ := by
        rw [LedgerSystem.step, hinit]
      rw [hstep]
      exact Or.inr ⟨binding, r', by simpa using hinstances, hr'⟩
    · obtain ⟨e, hinit⟩ := hfile.init_other hbinding
      have hstep : s.step (.open binding) = s := by
        rw [LedgerSystem.step, hinit]
      rw [hstep]
      exact Or.inr ⟨bound, r, hinstances, hfile⟩

/-- What an admission appends. -/
theorem step_admission (s : LedgerSystem) (binding : DevelopmentBudgetBinding)
    (key : String) (turn : Nat) (now : Instant) :
    s.step (.admitProviderCall binding key turn now) = s ∨ ∃ answer events,
      admitProviderCall binding key turn now s.file = .ok (answer, events) ∧
      s.step (.admitProviderCall binding key turn now) = s.appendBy binding events := by
  cases hanswer : admitProviderCall binding key turn now s.file with
  | error e => exact Or.inl (by rw [LedgerSystem.step, hanswer])
  | ok decision => exact Or.inr ⟨decision.1, decision.2, rfl, by rw [LedgerSystem.step, hanswer]⟩

theorem Valid.admission (h : s.Valid) {key : String} {turn : Nat} {now : Instant}
    (hmeets : s.Meets (.admitProviderCall binding key turn now)) :
    (s.step (.admitProviderCall binding key turn now)).Valid := by
  rcases s.step_admission binding key turn now with hsame | ⟨answer, events, hanswer, hstep⟩
  · rwa [hsame]
  · rw [hstep]
    refine h.appendBy fun hb r hfile => ?_
    by_cases hkey : key = ""
    · rw [admitProviderCall, dif_pos hkey] at hanswer
      cases hanswer
    · by_cases hturn : 1 ≤ turn ∧ turn ≤ 16
      · rw [hfile.admitProviderCall_eq now hkey hturn] at hanswer
        have hdecision := Except.ok.inj hanswer
        rcases LedgerFile.decideAdmission_cases binding r
          (newInvocation binding key turn now hkey hturn) with
          ⟨-, hnone⟩ | ⟨-, hsome, hnew, hreason⟩
        · rw [hdecision] at hnone
          obtain rfl : events = [] := hnone
          exact ⟨r, by rwa [List.append_nil]⟩
        · rw [hdecision] at hsome
          obtain rfl : events = _ := hsome
          exact ⟨_, hfile.admitted rfl hnew (LedgerReplay.admits_of_denialReason hreason)
            (hmeets hb _ hfile.readState_eq hkey hturn hnew hreason)⟩
      · rw [admitProviderCall, dif_neg hkey, dif_neg hturn] at hanswer
        cases hanswer

/-- What a completion appends keeps the file readable, whole or up to its first event. -/
theorem completion_kept (hfile : LedgerFile binding file r) {request : CompletionRequest}
    (hmeets : (∃ c, request.completion = .ok c) → ∀ i ∈ r.invocations,
      i.invocationId = request.invocationId → i.logicalRunKey = request.logicalRunKey →
      i.status = .admitted → i.admittedAt ≤ request.now ∧ request.errorCode.all staysOnLine = true) :
    (∃ r', LedgerFile binding (file ++ (completeProviderCall binding request file).2) r') ∧
      ∃ r', LedgerFile binding (file ++ (completeProviderCall binding request file).2.take 1) r' := by
  have hnothing : ∃ r', LedgerFile binding (file ++ []) r' := ⟨r, by rwa [List.append_nil]⟩
  unfold completeProviderCall
  split
  · exact ⟨hnothing, hnothing⟩
  · exact ⟨hnothing, hnothing⟩
  · rename_i state completion hbegin
    obtain ⟨-, hcompletion, i, hi, hid, hkey, hpending, hfind⟩ := hfile.beginCompletion_cases hbegin
    obtain ⟨hcid, hctime, hcerror⟩ := LedgerFile.completion_fields hcompletion
    obtain ⟨htime, hline⟩ := hmeets ⟨_, hcompletion⟩ i hi hid hkey hpending
    obtain ⟨r', hr'⟩ := hfile.completed (hcid ▸ hfind) hpending
      (hctime ▸ htime) (hcerror ▸ hline)
    simp only
    rw [hr'.readState_eq]
    simp only [List.take_succ_cons, List.take_zero]
    refine ⟨?_, r', hr'⟩
    unfold completionStop
    split
    · exact ⟨r', hr'⟩
    · split
      · exact ⟨r', hr'⟩
      · -- The stop event repeats the run key that an admission wrote.
        have hrunKey : staysOnLine request.logicalRunKey = true := hkey ▸ hfile.safe.written i hi
        have hstop := hr'.stop ‹_› (some request.logicalRunKey) hrunKey
        rw [List.append_assoc] at hstop
        exact ⟨_, hstop⟩

theorem Valid.complete (h : s.Valid) {request : CompletionRequest} {crashes : Bool}
    (hmeets : s.Meets (.complete binding request crashes)) :
    (s.step (.complete binding request crashes)).Valid := by
  refine h.appendBy fun hb r hfile => ?_
  obtain ⟨hwhole, hfirst⟩ := completion_kept hfile (hmeets hb _ hfile.readState_eq)
  cases crashes with
  | true => exact hfirst
  | false => exact hwhole

theorem Valid.forceStop (h : s.Valid) (reason : LedgerStopReason) :
    (s.step (.forceStop binding reason)).Valid := by
  refine h.appendBy fun hb r hfile => ?_
  unfold forceStopReason
  rw [hfile.readState_eq]
  simp only
  split
  · exact ⟨_, hfile.stop reason none rfl⟩
  · exact ⟨r, by rwa [List.append_nil]⟩

theorem Valid.step (h : s.Valid) {operation : LedgerOperation} (hmeets : s.Meets operation) :
    (s.step operation).Valid := by
  cases operation with
  | «open» binding => exact h.open hmeets
  | admitProviderCall binding key turn now => exact h.admission hmeets
  | complete binding request crashes => exact h.complete hmeets
  | forceStop binding reason => exact h.forceStop reason
  | snapshot binding => exact h

/-! ### An operation that breaks the condition -/

theorem meets_open (h : s.Valid) (hsound : (s.step (.open binding)).Sound) :
    s.Meets (.open binding) := by
  intro hempty
  rcases h with rfl | ⟨bound, r, -, hfile⟩
  · rw [step_open_empty] at hsound
    obtain ⟨state, hread, -⟩ := hsound binding (List.mem_singleton_self _)
    unfold readState loadEvents at hread
    split at hread
    · rename_i hall
      exact List.all_eq_true.mp hall _ (List.mem_singleton_self _)
    · cases hread
  · have hnonempty := hfile.nonempty
    rw [hempty] at hnonempty
    cases hnonempty

/-- What an instance reads back after it has appended. -/
theorem sound_append {events : List LedgerEvent} (hb : binding ∈ s.instances)
    (hsound : (s.appendBy binding events).Sound) :
    ∃ state, readState binding (s.file ++ events) = .ok state := by
  rw [appendBy_of_mem hb] at hsound
  obtain ⟨state, hread, -⟩ := hsound binding hb
  exact ⟨state, hread⟩

theorem meets_admission (h : s.Valid) {key : String} {turn : Nat} {now : Instant}
    (hsound : (s.step (.admitProviderCall binding key turn now)).Sound) :
    s.Meets (.admitProviderCall binding key turn now) := by
  intro hb state hread hkey hturn hnew hreason
  obtain ⟨r, -, hfile⟩ := h.file_of_mem hb
  obtain rfl : r.snapshot binding = state := Except.ok.inj (hfile.readState_eq.symm.trans hread)
  have hgranted := LedgerFile.decideAdmission_granted binding
    (i := newInvocation binding key turn now hkey hturn) hnew hreason
  have hstep : s.step (.admitProviderCall binding key turn now) = s.appendBy binding
      [ledgerEvent binding (.admitted (newInvocation binding key turn now hkey hturn))] := by
    rw [LedgerSystem.step, hfile.admitProviderCall_eq now hkey hturn]
    simp only
    rw [hgranted]
  rw [hstep] at hsound
  obtain ⟨state, hread'⟩ := sound_append hb hsound
  exact (hfile.readState_snoc_iff hread').1

theorem beginCompletion_pending (hfile : LedgerFile binding file r) {request : CompletionRequest}
    {completion : LedgerCompletion} (hcompletion : request.completion = .ok completion)
    {i : DevelopmentBudgetInvocation} (hi : i ∈ r.invocations)
    (hid : i.invocationId = request.invocationId) (hkey : i.logicalRunKey = request.logicalRunKey)
    (hpending : i.status = .admitted) :
    Keyed.find DevelopmentBudgetInvocation.invocationId request.invocationId r.invocations = some i ∧
      beginCompletion binding request file = .ok (r.snapshot binding, some completion) := by
  have hfind := Keyed.find_of_mem DevelopmentBudgetInvocation.invocationId hfile.safe.ids_nodup hi
  rw [hid] at hfind
  refine ⟨hfind, ?_⟩
  unfold beginCompletion
  rw [hfile.readState_eq]
  dsimp only [Except.bind]
  rw [LedgerReplay.snapshot_invocations, hfind]
  simp only
  rw [if_neg (not_not.mpr hkey), if_neg (not_not.mpr hpending), hcompletion]
  rfl

theorem completeProviderCall_starts {request : CompletionRequest}
    {state : DevelopmentBudgetLedgerSnapshot} {completion : LedgerCompletion}
    (hbegin : beginCompletion binding request file = .ok (state, some completion)) :
    ∃ later, (completeProviderCall binding request file).2 =
      ledgerEvent binding (.completed completion) :: later := by
  unfold completeProviderCall
  rw [hbegin]
  simp only
  cases readState binding (file ++ [ledgerEvent binding (.completed completion)]) with
  | error e => exact ⟨_, rfl⟩
  | ok updated => exact ⟨_, rfl⟩

theorem meets_complete (h : s.Valid) {request : CompletionRequest} {crashes : Bool}
    (hsound : (s.step (.complete binding request crashes)).Sound) :
    s.Meets (.complete binding request crashes) := by
  intro hb state hread hwell i hi hid hkey hpending
  obtain ⟨completion, hcompletion⟩ := hwell
  obtain ⟨r, -, hfile⟩ := h.file_of_mem hb
  obtain rfl : r.snapshot binding = state := Except.ok.inj (hfile.readState_eq.symm.trans hread)
  obtain ⟨hfind, hbegin⟩ := beginCompletion_pending hfile hcompletion hi hid hkey hpending
  obtain ⟨hcid, hctime, hcerror⟩ := LedgerFile.completion_fields hcompletion
  -- Whatever follows it, the completion is the first event that is appended.
  obtain ⟨later, hlater⟩ : ∃ later, (if crashes then
      (completeProviderCall binding request s.file).2.take 1
      else (completeProviderCall binding request s.file).2) =
        ledgerEvent binding (.completed completion) :: later := by
    obtain ⟨later, hlater⟩ := completeProviderCall_starts hbegin
    rw [hlater]
    cases crashes with
    | true => exact ⟨[], rfl⟩
    | false => exact ⟨later, rfl⟩
  have hstep : s.step (.complete binding request crashes) =
      s.appendBy binding (ledgerEvent binding (.completed completion) :: later) := by
    rw [← hlater]
    rfl
  rw [hstep] at hsound
  obtain ⟨state, hread'⟩ := sound_append hb hsound
  obtain ⟨hline, r', hnext⟩ := hfile.readState_snoc_iff hread'
  refine ⟨?_, hcerror ▸ hline⟩
  rw [← hctime]
  exact LedgerFile.completed_in_order (hcid.symm ▸ hfind) hpending hnext

theorem meets_of_sound (h : s.Valid) {operation : LedgerOperation}
    (hsound : (s.step operation).Sound) : s.Meets operation := by
  cases operation with
  | «open» binding => exact meets_open h hsound
  | admitProviderCall binding key turn now => exact meets_admission h hsound
  | complete binding request crashes => exact meets_complete h hsound
  | forceStop binding reason => trivial
  | snapshot binding => trivial

/-- Every state of a run keeps the promises exactly when every operation meets the condition. -/
theorem Valid.runs_soundly_iff (h : s.Valid) (operations : List LedgerOperation) :
    (∀ done, done <+: operations → (s.run done).Sound) ↔ s.RunMeets operations := by
  induction operations generalizing s with
  | nil =>
    refine ⟨fun _ => trivial, fun _ done hdone => ?_⟩
    rw [List.prefix_nil.mp hdone]
    exact h.sound
  | cons operation rest ih =>
    constructor
    · intro hsound
      have hfirst : (s.step operation).Sound :=
        hsound [operation] (List.cons_prefix_cons.mpr ⟨rfl, List.nil_prefix⟩)
      have hmeets := meets_of_sound h hfirst
      refine ⟨hmeets, (ih (h.step hmeets)).mp fun done hdone => ?_⟩
      exact hsound (operation :: done) (List.cons_prefix_cons.mpr ⟨rfl, hdone⟩)
    · rintro ⟨hmeets, hrest⟩ done hdone
      cases done with
      | nil => exact h.sound
      | cons first others =>
        obtain ⟨rfl, hothers⟩ := List.cons_prefix_cons.mp hdone
        exact (ih (h.step hmeets)).mpr hrest others hothers

/-- The ledger keeps its promises in every state of a run exactly when no text that the run writes
    holds a separator of lines, and no completion is recorded before its admission. -/
theorem ledger_sound_iff (operations : List LedgerOperation) :
    (∀ done, done <+: operations → (empty.run done).Sound) ↔ empty.RunMeets operations :=
  Valid.runs_soundly_iff (Or.inl rfl) operations

end LedgerSystem

end AfterSales

/-! ### A clock that is set back -/

namespace AfterSales.LedgerSystem

section ClockSetBack

open DevelopmentBudgetLedger

local instance : LedgerDigest where
  bindingDigest binding := binding.executionIdentity
  invocationId _ key turn := String.ofList (IdText.spellText key.toList (IdText.spellNat turn []))
  invocationId_injective := by
    intro _ key turn key' turn' h
    obtain ⟨hkey, hrest⟩ := IdText.spellText_inj (String.ofList_injective h)
    exact ⟨String.toList_inj.mp hkey, (IdText.spellNat_inj hrest).1⟩

def development : DevelopmentBudgetBinding where
  executionIdentity := "V3-DEV-EXEC-A1"
  sourceRevision := "0123456789abcdef0123456789abcdef01234567"
  manifestDigests := [("manifest", "digest")]
  planVersion := "plan-v1"
  authorizedProviderCallCeiling := 4
  authorizedProviderCallCeilingPerRun := 2
  tokenThreshold := some 1000
  outputTokenCapPerInvocation := 256
  hasDigests := by decide
  planned := by decide
  perRunAtMost := by decide
  perRunWithin := by decide
  thresholdPositive := by decide
  capPositive := by decide

/-- A call is admitted at ten, and completed when the clock has been set back to five. -/
def clockSetBack : List LedgerOperation :=
  [.open development, .admitProviderCall development "RUN-1" 1 10,
    .complete development
      { invocationId := LedgerDigest.invocationId (LedgerDigest.bindingDigest development) "RUN-1" 1
        logicalRunKey := "RUN-1"
        status := .completed
        usage := ⟨.integer 10, .integer 5, .integer 15⟩
        errorCode := none
        now := 5 } false]

/-- The ledger has written a completion that it refuses to read. -/
theorem clockSetBack_unreadable :
    development ∈ (empty.run clockSetBack).instances ∧
      (readState development (empty.run clockSetBack).file).map (fun _ => ()) = .error .validation ∧
      ¬ (empty.run clockSetBack).Sound := by
  have hmem : development ∈ (empty.run clockSetBack).instances := by decide +kernel
  have hread : (readState development (empty.run clockSetBack).file).map (fun _ => ())
      = .error .validation := by decide +kernel
  refine ⟨hmem, hread, fun hsound => ?_⟩
  obtain ⟨state, hstate, -⟩ := hsound development hmem
  rw [hstate] at hread
  cases hread

end ClockSetBack

end AfterSales.LedgerSystem
