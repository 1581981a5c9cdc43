import AfterSales.Evals.Capture
import AfterSales.Evals.Verdicts

/-! The segments of a trace, and what the graders of trajectories say of them.

    An issue revision ends a segment. `grade_early_stop` and `grade_unnecessary_reads` judge one
    segment only: the last one, or the first one with a terminal state when the last has none. An
    obligation is judged from the first record that meets its conditions, in the order calls,
    decisions, recoveries, states; gate decisions and rebuilds have no moment at all.

        ──state──work──│──state──work──│──state──work──▶
          not judged     not judged      judged -/

namespace AfterSales.V3

/-! ### Segments -/

section Segments

variable {trace : V3TypedTrace} {work : List Nat} {s t m : Nat}

/-- No issue revision parts two moments. -/
def SameSegment (trace : V3TypedTrace) (s t : Nat) : Prop :=
  ∀ boundary ∈ trace.trajectoryBoundaries, s ≤ boundary ↔ t ≤ boundary

instance : Decidable (SameSegment trace s t) := by unfold SameSegment; infer_instance

def terminalMoments (trace : V3TypedTrace) : List Nat :=
  (trace.states.filter (·.phaseTo.ends)).map (·.traceSequence)

def readMoments (trace : V3TypedTrace) : List Nat :=
  (trace.toolCalls.filter (·.actualExecution)).map (·.traceSequence)

/-- Decisions and reads. -/
def workMoments (trace : V3TypedTrace) : List Nat :=
  trace.decisions.map (·.traceSequence) ++ readMoments trace

/-- The first terminal state of its segment. -/
def FirstOfSegment (trace : V3TypedTrace) (t : Nat) : Prop :=
  t ∈ terminalMoments trace ∧ ∀ s ∈ terminalMoments trace, SameSegment trace s t → t ≤ s

/-- Work follows in the same segment. -/
def FollowedBy (trace : V3TypedTrace) (work : List Nat) (t : Nat) : Prop :=
  ∃ m ∈ work, t < m ∧ SameSegment trace t m

/-- Some segment has work after its first terminal state. -/
def WorkAfterEnd (trace : V3TypedTrace) (work : List Nat) : Prop :=
  ∃ t, FirstOfSegment trace t ∧ FollowedBy trace work t

/-- After the last issue revision. -/
def InLastSegment (trace : V3TypedTrace) (t : Nat) : Prop :=
  0 < t ∧ ∀ boundary ∈ trace.trajectoryBoundaries, boundary < t

/-- The terminal state that is judged: the first one after the last issue revision, or the first
    one of all when none is. -/
def Judged (trace : V3TypedTrace) (t : Nat) : Prop :=
  t ∈ terminalMoments trace ∧
    ((InLastSegment trace t ∧
        ∀ s ∈ terminalMoments trace, InLastSegment trace s → t ≤ s) ∨
      (∀ s ∈ terminalMoments trace, ¬ InLastSegment trace s) ∧
        ∀ s ∈ terminalMoments trace, t ≤ s)

/-- Work follows before the boundary that is listed first among the later ones. -/
def JudgedWork (trace : V3TypedTrace) (work : List Nat) (t : Nat) : Prop :=
  ∃ m ∈ work, t < m ∧ sameTrajectory trace m t = true

/-- The judged segment speaks for all. Only boundaries that are listed out of order part the judged
    state from work up to the boundary listed first. -/
structure JudgedSpeaksForAll (trace : V3TypedTrace) (work : List Nat) : Prop where
  others : ∀ t, FirstOfSegment trace t → ¬ Judged trace t → FollowedBy trace work t →
    ∃ j, Judged trace j ∧ JudgedWork trace work j
  parted : ∀ j, Judged trace j → ∀ m ∈ work, j < m → sameTrajectory trace m j = true →
    ¬ SameSegment trace j m → WorkAfterEnd trace work

theorem SameSegment.trans (h : SameSegment trace s t) (h' : SameSegment trace t m) :
    SameSegment trace s m :=
  fun boundary hb => (h boundary hb).trans (h' boundary hb)

/-- No boundary is listed between moments of one segment. -/
theorem SameSegment.sameTrajectory (h : SameSegment trace t m) :
    sameTrajectory trace m t = true := by
  rw [V3.sameTrajectory, trajectorySegmentEnd]
  cases hend : trace.trajectoryBoundaries.find? (t ≤ ·) with
  | none => rfl
  | some boundary =>
    have hle := List.find?_some hend
    have hmem := List.mem_of_find?_eq_some hend
    simpa using (h boundary hmem).mp (by simpa using hle)

/-- Boundaries that are listed in order part the segments. -/
theorem sameTrajectory_iff (hordered : trace.trajectoryBoundaries.Pairwise (· ≤ ·))
    (hlater : t < m) : sameTrajectory trace m t = true ↔ SameSegment trace t m := by
  refine ⟨fun h boundary hmem => ⟨fun hle => ?_, fun hle => by omega⟩, fun h => h.sameTrajectory⟩
  rw [sameTrajectory, trajectorySegmentEnd] at h
  cases hend : trace.trajectoryBoundaries.find? (t ≤ ·) with
  | none =>
    have hnone := List.find?_eq_none.mp hend boundary hmem
    simp [hle] at hnone
  | some first =>
    rw [hend] at h
    have hfirst : m ≤ first := by simpa using h
    obtain ⟨before, after, hsplit, hbefore⟩ := (List.find?_eq_some_iff_append.mp hend).2
    rw [hsplit] at hmem hordered
    rcases List.mem_append.mp hmem with hb | hb
    · have hlow := hbefore boundary hb
      simp [hle] at hlow
    · rcases List.mem_cons.mp hb with rfl | hb
      · exact hfirst
      · have := List.rel_of_pairwise_cons (List.pairwise_append.mp hordered).2.1 hb
        omega

/-- Each terminal state is in a segment that has a first one. -/
theorem exists_firstOfSegment (h : t ∈ terminalMoments trace) :
    ∃ f, FirstOfSegment trace f ∧ SameSegment trace f t ∧ f ≤ t := by
  have hne : ((terminalMoments trace).filter (SameSegment trace · t)) ≠ [] := by
    intro hempty
    have hself : t ∈ (terminalMoments trace).filter (SameSegment trace · t) :=
      List.mem_filter.mpr ⟨h, decide_eq_true fun _ _ => Iff.rfl⟩
    rw [hempty] at hself
    cases hself
  obtain ⟨f, hf⟩ := Option.isSome_iff_exists.mp (List.isSome_min?_of_ne_nil hne)
  obtain ⟨hmem, hleast⟩ := List.min?_eq_some_iff.mp hf
  obtain ⟨hterminal, hsame⟩ := List.mem_filter.mp hmem
  have hsame : SameSegment trace f t := of_decide_eq_true hsame
  refine ⟨f, ⟨hterminal, fun s hs hs' => hleast s ?_⟩, hsame, hleast t ?_⟩
  · exact List.mem_filter.mpr ⟨hs, decide_eq_true (hs'.trans hsame)⟩
  · exact List.mem_filter.mpr ⟨h, decide_eq_true fun _ _ => Iff.rfl⟩

theorem WorkAfterEnd.of_followed (h : t ∈ terminalMoments trace)
    (hwork : FollowedBy trace work t) : WorkAfterEnd trace work := by
  obtain ⟨f, hfirst, hsame, hle⟩ := exists_firstOfSegment h
  obtain ⟨m, hm, hlater, hm'⟩ := hwork
  exact ⟨f, hfirst, m, hm, by omega, hsame.trans hm'⟩

/-- The judged segment tells of all segments exactly when it speaks for them. -/
theorem judged_tells_iff :
    ((∃ j, Judged trace j ∧ JudgedWork trace work j) ↔ WorkAfterEnd trace work) ↔
      JudgedSpeaksForAll trace work := by
  constructor
  · intro h
    refine ⟨fun t hfirst _ hwork => h.mpr ⟨t, hfirst, hwork⟩, ?_⟩
    intro j hj m hm hlater hsame _
    exact h.mp ⟨j, hj, m, hm, hlater, hsame⟩
  · rintro ⟨others, parted⟩
    constructor
    · rintro ⟨j, hj, m, hm, hlater, hsame⟩
      by_cases hsegment : SameSegment trace j m
      · exact .of_followed hj.1 ⟨m, hm, hlater, hsegment⟩
      · exact parted j hj m hm hlater hsame hsegment
    · rintro ⟨t, hfirst, hwork⟩
      by_cases hjudged : Judged trace t
      · obtain ⟨m, hm, hlater, hsame⟩ := hwork
        exact ⟨t, hjudged, m, hm, hlater, hsame.sameTrajectory⟩
      · exact others t hfirst hjudged hwork

/-- Where the boundaries are in order, only the other segments matter. -/
theorem judgedSpeaks_ordered (hordered : trace.trajectoryBoundaries.Pairwise (· ≤ ·)) :
    JudgedSpeaksForAll trace work ↔
      ∀ t, FirstOfSegment trace t → ¬ Judged trace t → FollowedBy trace work t →
        ∃ j, Judged trace j ∧ FollowedBy trace work j := by
  have hwork : ∀ j, JudgedWork trace work j ↔ FollowedBy trace work j := fun j => by
    refine exists_congr fun m => and_congr_right fun _ => and_congr_right fun hlater => ?_
    exact sameTrajectory_iff hordered hlater
  constructor
  · intro h t hfirst hjudged hfollowed
    obtain ⟨j, hj, hj'⟩ := h.others t hfirst hjudged hfollowed
    exact ⟨j, hj, (hwork j).mp hj'⟩
  · intro h
    refine ⟨fun t hfirst hjudged hfollowed => ?_, fun j _ m _ hlater hsame hparted => ?_⟩
    · obtain ⟨j, hj, hj'⟩ := h t hfirst hjudged hfollowed
      exact ⟨j, hj, (hwork j).mpr hj'⟩
    · exact absurd ((sameTrajectory_iff hordered hlater).mp hsame) hparted

end Segments

/-! ### Captured traces -/

section Captured

theorem numberedFrom_ordered (events : List (EventEnvelope Json)) (start : Nat) :
    (∀ x ∈ numberedFrom start events, start ≤ x.1) ∧
      (numberedFrom start events).Pairwise (·.1 ≤ ·.1) := by
  induction events generalizing start with
  | nil => simp [numberedFrom]
  | cons event events ih =>
    rw [numberedFrom]
    obtain ⟨hfrom, hordered⟩ := ih (if event.eventType ∈ traceEvents then start + 1 else start)
    have hstart : start ≤ if event.eventType ∈ traceEvents then start + 1 else start := by
      split_ifs <;> omega
    refine ⟨fun x hx => ?_, List.pairwise_cons.mpr ⟨hfrom, hordered⟩⟩
    rcases List.mem_cons.mp hx with rfl | hx
    · exact hstart
    · exact hstart.trans (hfrom x hx)

theorem trajectoryBoundaries_ordered (events : List (EventEnvelope Json)) :
    (trajectoryBoundaries events).Pairwise (· ≤ ·) :=
  List.pairwise_map.mpr ((numberedFrom_ordered events 0).2.filter _)

theorem of_bind_ok {α β : Type} {x : Except String α} {next : α → Except String β} {b : β}
    (h : (x >>= next) = .ok b) : ∃ a, x = .ok a ∧ next a = .ok b := by
  cases x with
  | error e => cases h
  | ok a => exact ⟨a, rfl, h⟩

variable [EvalText]

/-- A capture lists the boundaries in order. -/
theorem capturedTrace_ordered {store : ProductionStore} {conversationId caseId runId : String}
    {trace : V3TypedTrace} (h : capturedTrace store conversationId caseId runId = .ok trace) :
    trace.trajectoryBoundaries.Pairwise (· ≤ ·) := by
  rw [capturedTrace] at h
  by_cases hempty : (store.runEvents conversationId caseId runId).isEmpty = true
  · rw [if_pos hempty] at h
    cases h
  · rw [if_neg hempty] at h
    obtain ⟨-, -, h⟩ := of_bind_ok h
    obtain ⟨decisions, -, h⟩ := of_bind_ok h
    obtain ⟨recoveries, -, h⟩ := of_bind_ok h
    obtain ⟨states, -, h⟩ := of_bind_ok h
    obtain ⟨calls, -, h⟩ := of_bind_ok h
    obtain ⟨rebuilds, -, h⟩ := of_bind_ok h
    obtain ⟨gate, -, h⟩ := of_bind_ok h
    obtain ⟨facts, -, h⟩ := of_bind_ok h
    dsimp only at h
    split_ifs at h with haccepts
    · cases h
      exact trajectoryBoundaries_ordered _

/-- So only the segments that are not judged matter for a captured trace. -/
theorem captured_speaks_iff {store : ProductionStore} {conversationId caseId runId : String}
    {trace : V3TypedTrace} (h : capturedTrace store conversationId caseId runId = .ok trace)
    (work : List Nat) : JudgedSpeaksForAll trace work ↔
      ∀ t, FirstOfSegment trace t → ¬ Judged trace t → FollowedBy trace work t →
        ∃ j, Judged trace j ∧ FollowedBy trace work j :=
  judgedSpeaks_ordered (capturedTrace_ordered h)

end Captured

/-! ### The judged segment -/

theorem foldl_max_lt {s : Nat} (boundaries : List Nat) (start : Nat) :
    boundaries.foldl max start < s ↔ start < s ∧ ∀ boundary ∈ boundaries, boundary < s := by
  induction boundaries generalizing start with
  | nil => simp
  | cons b boundaries ih =>
    rw [List.foldl_cons, ih, max_lt_iff, List.forall_mem_cons, and_assoc]

theorem terminalSequence_iff (trace : V3TypedTrace) (t : Nat) :
    terminalSequence trace = some t ↔ Judged trace t := by
  have hlast : ∀ s, s ∈ (terminalMoments trace).filter
      (trace.trajectoryBoundaries.foldl max 0 < ·) ↔
        s ∈ terminalMoments trace ∧ InLastSegment trace s := by
    intro s
    rw [List.mem_filter, decide_eq_true_iff, foldl_max_lt, InLastSegment]
  show (if (terminalMoments trace).filter (trace.trajectoryBoundaries.foldl max 0 < ·) = []
    then terminalMoments trace
    else (terminalMoments trace).filter (trace.trajectoryBoundaries.foldl max 0 < ·)).min? =
      some t ↔ _
  split_ifs with hempty
  · have hnone : ∀ s ∈ terminalMoments trace, ¬ InLastSegment trace s := by
      intro s hs hlast'
      have hmem := (hlast s).mpr ⟨hs, hlast'⟩
      rw [hempty] at hmem
      cases hmem
    rw [List.min?_eq_some_iff, Judged]
    constructor
    · rintro ⟨hmem, hleast⟩
      exact ⟨hmem, .inr ⟨hnone, hleast⟩⟩
    · rintro ⟨hmem, ⟨hin, -⟩ | ⟨-, hleast⟩⟩
      · exact absurd hin (hnone t hmem)
      · exact ⟨hmem, hleast⟩
  · obtain ⟨x, hx⟩ := List.exists_mem_of_ne_nil _ hempty
    rw [List.min?_eq_some_iff, Judged]
    constructor
    · rintro ⟨hmem, hleast⟩
      obtain ⟨hterminal, hin⟩ := (hlast t).mp hmem
      exact ⟨hterminal, .inl ⟨hin, fun s hs hs' => hleast s ((hlast s).mpr ⟨hs, hs'⟩)⟩⟩
    · rintro ⟨hmem, ⟨hin, hleast⟩ | ⟨hnone, -⟩⟩
      · refine ⟨(hlast t).mpr ⟨hmem, hin⟩, fun s hs => ?_⟩
        obtain ⟨hs, hs'⟩ := (hlast s).mp hs
        exact hleast s hs hs'
      · obtain ⟨hx, hx'⟩ := (hlast x).mp hx
        exact absurd hx' (hnone x hx)

theorem judged_none {trace : V3TypedTrace} (h : terminalSequence trace = none) (j : Nat) :
    ¬ Judged trace j := by
  intro hj
  rw [← terminalSequence_iff, h] at hj
  cases hj

theorem judged_some {trace : V3TypedTrace} {t : Nat} (h : terminalSequence trace = some t)
    (j : Nat) : Judged trace j ↔ t = j := by
  rw [← terminalSequence_iff, h, Option.some.injEq]

theorem gradeEarlyStop_fails (context : V3GradingContext) :
    passes (gradeEarlyStop context) = false ↔
      ∃ j, Judged context.trace j ∧ JudgedWork context.trace (workMoments context.trace) j := by
  have hjudge : ∀ later : Bool, passes (verdict "GR-V3A-03" (!later)
      (if later then "work followed terminal route" else "gate-ready early stop verified")) =
        !later := by
    intro later
    cases later with
    | true => exact verdict_passes rfl rfl
    | false => exact verdict_passes rfl rfl
  rw [gradeEarlyStop]
  cases hterminal : terminalSequence context.trace with
  | none =>
    refine iff_of_false (ne_of_eq_of_ne (verdictIf_passes rfl rfl) (by decide)) ?_
    rintro ⟨j, hj, -⟩
    exact judged_none hterminal j hj
  | some t =>
    dsimp only
    rw [hjudge, Bool.not_eq_false', Bool.or_eq_true]
    simp [judged_some hterminal, JudgedWork, workMoments, readMoments, readAfter, or_and_right,
      exists_or, and_assoc]

theorem gradeUnnecessaryReads_fails (context : V3GradingContext) :
    passes (gradeUnnecessaryReads context) = false ↔
      ∃ j, Judged context.trace j ∧ JudgedWork context.trace (readMoments context.trace) j := by
  have hjudge : ∀ extra : Bool, passes (verdict "GR-V3A-11" (!extra)
      (if extra then "post-terminal read detected" else "no post-terminal reads")) = !extra := by
    intro extra
    cases extra with
    | true => exact verdict_passes rfl rfl
    | false => exact verdict_passes rfl rfl
  rw [gradeUnnecessaryReads]
  cases hterminal : terminalSequence context.trace with
  | none =>
    refine iff_of_false (ne_of_eq_of_ne (verdictIf_passes rfl rfl) (by decide)) ?_
    rintro ⟨j, hj, -⟩
    exact judged_none hterminal j hj
  | some t =>
    dsimp only
    rw [hjudge]
    simp [judged_some hterminal, JudgedWork, readMoments, readAfter, and_assoc]

/-! ### Obligations -/

section Obligations

variable [EvalText]

/-- The moments of gate decisions and rebuilds, by their places. A trace does not keep them. -/
structure Unkept where
  gate : Nat → Nat
  rebuild : Nat → Nat

/-- The records that keep their moment, as they are searched. -/
def keptRecords (trace : V3TypedTrace) : List (Nat × Json) :=
  trace.toolCalls.map (fun item => (item.traceSequence, callRecord item)) ++
    trace.decisions.map (fun item => (item.traceSequence, DecisionTraceRecord.schema.dump item)) ++
    trace.recoveries.map (fun item => (item.traceSequence, RecoveryTraceRecord.schema.dump item)) ++
    trace.states.map (fun item => (item.traceSequence, StateTraceRecord.schema.dump item))

/-- All records, each at its moment. -/
def placedRecords (trace : V3TypedTrace) (unkept : Unkept) : List (Nat × Json) :=
  keptRecords trace ++
    trace.gateDecisions.mapIdx (fun i item => (unkept.gate i, V3GateTrace.schema.dump item)) ++
    trace.progressRebuilds.mapIdx (fun i item => (unkept.rebuild i, rebuildRecord item))

/-- A record meets the conditions of an obligation. -/
def Triggers (trace : V3TypedTrace) (unkept : Unkept) (o : V3TrajectoryObligation) (s : Nat) :
    Prop :=
  ∃ record ∈ placedRecords trace unkept, record.1 = s ∧ o.holdsOf record.2 = true

/-- The first record in the order of the search that does. -/
def FirstListed (trace : V3TypedTrace) (o : V3TrajectoryObligation) (s : Nat) : Prop :=
  ∃ before record after, keptRecords trace = before ++ (s, record) :: after ∧
    o.holdsOf record = true ∧ ∀ r ∈ before, o.holdsOf r.2 = false

/-- Among reads, one is forbidden, or there are more than allowed. -/
def TooMuch (o : V3TrajectoryObligation) (reads : List V3ToolCall) : Prop :=
  (∃ call ∈ reads, call.toolName ∈ o.effect.forbiddenFutureTools) ∨
    ∃ most ∈ o.effect.maxAdditionalActualReads, most < reads.length

/-- The reads that follow a moment in its own segment. -/
def readsInSegment (trace : V3TypedTrace) (s : Nat) : List V3ToolCall :=
  trace.toolCalls.filter fun call =>
    call.actualExecution && s < call.traceSequence && SameSegment trace s call.traceSequence

/-- Some record that meets an obligation is followed by too much in its own segment. -/
def Overstepped (context : V3GradingContext) (unkept : Unkept) : Prop :=
  ∃ o ∈ context.case.trajectoryObligations, ∃ s, Triggers context.trace unkept o s ∧
    TooMuch o (readsInSegment context.trace s)

/-- An obligation asks for a route or a decision that the trace has nowhere. -/
def OutcomeMissing (trace : V3TypedTrace) (o : V3TrajectoryObligation) : Prop :=
  (∃ route ∈ o.effect.requiredNextRoute, ∀ r ∈ trace.recoveries, r.route ≠ route) ∨
    (o.effect.allowedRoutes ≠ [] ∧
      ∀ route ∈ o.effect.allowedRoutes, ∀ r ∈ trace.recoveries, r.route ≠ route) ∨
    ∃ code ∈ o.effect.requiredDecisionCodes, ∀ d ∈ trace.decisions, d.reasonCode ≠ code

/-- An obligation fails for what is missing, or from the first record that is listed. -/
def FailsFromFirst (trace : V3TypedTrace) (o : V3TrajectoryObligation) : Prop :=
  obligationTriggered o trace = true ∧
    (OutcomeMissing trace o ∨ ∃ s, FirstListed trace o s ∧
      TooMuch o (trace.toolCalls.filter (readAfter trace s)))

/-- Where a record that is not the first listed is followed by too much, some obligation fails
    all the same. -/
def FirstListedSpeaksForAll (context : V3GradingContext) (unkept : Unkept) : Prop :=
  ∀ o ∈ context.case.trajectoryObligations, ∀ s, Triggers context.trace unkept o s →
    ¬ FirstListed context.trace o s → TooMuch o (readsInSegment context.trace s) →
    ∃ o' ∈ context.case.trajectoryObligations, FailsFromFirst context.trace o'

theorem obligationTriggerSequence_iff (o : V3TrajectoryObligation) (trace : V3TypedTrace)
    (s : Nat) : obligationTriggerSequence o trace = some s ↔ FirstListed trace o s := by
  show ((keptRecords trace).find? fun candidate => o.holdsOf candidate.2).map Prod.fst = some s ↔ _
  rw [Option.map_eq_some_iff]
  constructor
  · rintro ⟨⟨s', record⟩, hfind, rfl⟩
    obtain ⟨hholds, before, after, hsplit, hbefore⟩ := List.find?_eq_some_iff_append.mp hfind
    exact ⟨before, record, after, hsplit, hholds, fun r hr => by simpa using hbefore r hr⟩
  · rintro ⟨before, record, after, hsplit, hholds, hbefore⟩
    refine ⟨(s, record), List.find?_eq_some_iff_append.mpr ⟨hholds, before, after, hsplit, ?_⟩, rfl⟩
    intro r hr
    simpa using hbefore r hr

theorem obligationTriggered_eq (o : V3TrajectoryObligation) (trace : V3TypedTrace) :
    obligationTriggered o trace = ((keptRecords trace).any (fun r => o.holdsOf r.2) ||
      (trace.gateDecisions.map V3GateTrace.schema.dump).any o.holdsOf ||
      (trace.progressRebuilds.map rebuildRecord).any o.holdsOf) := by
  simp only [obligationTriggered, keptRecords, List.any_append, List.any_map, Function.comp_def]
  ac_rfl

theorem FirstListed.triggered {o : V3TrajectoryObligation} {trace : V3TypedTrace} {s : Nat}
    (h : FirstListed trace o s) : obligationTriggered o trace = true := by
  obtain ⟨before, record, after, hsplit, hholds, -⟩ := h
  have hany : (keptRecords trace).any (fun r => o.holdsOf r.2) = true := by
    rw [hsplit, List.any_append, List.any_cons, hholds, Bool.true_or, Bool.or_true]
  rw [obligationTriggered_eq, hany, Bool.true_or, Bool.true_or]

omit [EvalText] in
/-- Reads of the segment are among the reads that are counted. -/
theorem TooMuch.of_segment {o : V3TrajectoryObligation} {trace : V3TypedTrace} {s : Nat}
    (h : TooMuch o (readsInSegment trace s)) :
    TooMuch o (trace.toolCalls.filter (readAfter trace s)) := by
  have hcounted : ∀ call, (call.actualExecution && s < call.traceSequence &&
      SameSegment trace s call.traceSequence) = true → readAfter trace s call = true := by
    intro call hcall
    simp only [Bool.and_eq_true, decide_eq_true_eq] at hcall
    obtain ⟨⟨hactual, hlater⟩, hsame⟩ := hcall
    simp [readAfter, hactual, hlater, hsame.sameTrajectory]
  rcases h with ⟨call, hcall, hforbidden⟩ | ⟨most, hmost, hmore⟩
  · obtain ⟨hmem, hreads⟩ := List.mem_filter.mp hcall
    exact .inl ⟨call, List.mem_filter.mpr ⟨hmem, hcounted call hreads⟩, hforbidden⟩
  · refine .inr ⟨most, hmost, hmore.trans_le ?_⟩
    exact (List.monotone_filter_right _ hcounted).length_le

omit [EvalText] in
/-- One of five conditions on the way to no failure. -/
theorem first_failure_none {c₁ c₂ c₃ c₄ c₅ : Prop} [Decidable c₁] [Decidable c₂] [Decidable c₃]
    [Decidable c₄] [Decidable c₅] {a₁ a₂ a₃ a₄ a₅ : String} :
    (if c₁ then some a₁ else if c₂ then some a₂ else if c₃ then some a₃ else
      if c₄ then some a₄ else if c₅ then some a₅ else none) = none ↔
        ¬ ((c₁ ∨ c₂ ∨ c₃) ∨ c₄ ∨ c₅) := by
  split_ifs <;> simp [*]

/-- What `obligationFailure` finds. -/
theorem obligationFailure_eq_none (trace : V3TypedTrace) (o : V3TrajectoryObligation) :
    obligationFailure trace o = none ↔ ¬ (OutcomeMissing trace o ∨
      ∃ s, FirstListed trace o s ∧ TooMuch o (trace.toolCalls.filter (readAfter trace s))) := by
  have hmissing : OutcomeMissing trace o ↔
      (o.effect.requiredNextRoute.any (· ∉ trace.recoveries.map (·.route)) = true ∨
        (o.effect.allowedRoutes ≠ [] ∧
          o.effect.allowedRoutes.all (· ∉ trace.recoveries.map (·.route)) = true) ∨
        o.effect.requiredDecisionCodes.any (· ∉ trace.decisions.map (·.reasonCode)) = true) := by
    rw [OutcomeMissing]
    refine or_congr ?_ (or_congr ?_ ?_)
    · cases o.effect.requiredNextRoute <;> simp
    · simp
    · simp
  simp only [← obligationTriggerSequence_iff]
  rw [obligationFailure, hmissing, first_failure_none, not_iff_not]
  refine or_congr_right ?_
  cases obligationTriggerSequence o trace with
  | none => simp
  | some s =>
    cases hmost : o.effect.maxAdditionalActualReads <;> simp [TooMuch, hmost, and_assoc]

omit [EvalText] in
theorem verdict_fails (graderId detail : String) :
    passes (verdict graderId false detail) = false := by
  rw [verdict, V3GraderVerdict.build]
  split_ifs <;> rfl

/-- The grader fails for the first records that are listed, and for nothing else. -/
theorem choice_fails (context : V3GradingContext) :
    passes (gradeObservationConditionedChoice context) = false ↔
      ∃ o ∈ context.case.trajectoryObligations, FailsFromFirst context.trace o := by
  rw [gradeObservationConditionedChoice]
  cases hfailure : (context.case.trajectoryObligations.filter
      (obligationTriggered · context.trace)).findSome? (obligationFailure context.trace) with
  | none =>
    refine iff_of_false (ne_of_eq_of_ne (verdict_passes rfl rfl) (by decide)) ?_
    rintro ⟨o, ho, htriggered, hfails⟩
    have hnone := List.findSome?_eq_none_iff.mp hfailure o
      (List.mem_filter.mpr ⟨ho, htriggered⟩)
    exact (obligationFailure_eq_none _ _).mp hnone hfails
  | some failure =>
    refine iff_of_true (verdict_fails _ _) ?_
    obtain ⟨o, ho, hsome⟩ := List.exists_of_findSome?_eq_some hfailure
    obtain ⟨hmem, htriggered⟩ := List.mem_filter.mp ho
    refine ⟨o, hmem, htriggered, ?_⟩
    by_contra hfails
    rw [(obligationFailure_eq_none _ _).mpr hfails] at hsome
    cases hsome

/-- A grader that fails whenever an obligation is overstepped is one whose first listed records
    speak for all. -/
theorem choice_tells_iff (context : V3GradingContext) (unkept : Unkept) :
    (Overstepped context unkept → passes (gradeObservationConditionedChoice context) = false) ↔
      FirstListedSpeaksForAll context unkept := by
  rw [choice_fails]
  constructor
  · intro h o ho s htriggers _ htoo
    exact h ⟨o, ho, s, htriggers, htoo⟩
  · rintro h ⟨o, ho, s, htriggers, htoo⟩
    by_cases hfirst : FirstListed context.trace o s
    · exact ⟨o, ho, hfirst.triggered, .inr ⟨s, hfirst, htoo.of_segment⟩⟩
    · exact h o ho s htriggers hfirst htoo

end Obligations

/-! ### All three graders -/

section Judged

variable [EvalText]

/-- The graders of trajectories judge every trigger in every segment exactly when the judged segment
    speaks for all segments, and the records that are listed first for all records. -/
theorem trajectories_judged_iff (context : V3GradingContext) (unkept : Unkept) :
    ((passes (gradeEarlyStop context) = false ↔
        WorkAfterEnd context.trace (workMoments context.trace)) ∧
      (passes (gradeUnnecessaryReads context) = false ↔
        WorkAfterEnd context.trace (readMoments context.trace)) ∧
      (Overstepped context unkept →
        passes (gradeObservationConditionedChoice context) = false)) ↔
    JudgedSpeaksForAll context.trace (workMoments context.trace) ∧
      JudgedSpeaksForAll context.trace (readMoments context.trace) ∧
      FirstListedSpeaksForAll context unkept := by
  rw [gradeEarlyStop_fails, gradeUnnecessaryReads_fails, judged_tells_iff, judged_tells_iff,
    choice_tells_iff]

end Judged

/-! An order revised after a read too many, with the second proof read out of turn. -/

/-- No timeline is read once a proof was. -/
def noTimelineAfterProof : V3TrajectoryObligation where
  obligationId := "OBL-V3-PROOF"
  when := [⟨["tool_name"], .equals, .str "get_delivery_proof", by decide, by decide⟩]
  effect := ⟨[], none, ["get_logistics_timeline"], none, [], by decide, by decide⟩
  idMatches := by decide
  conditioned := by decide

def twoSegments : V3TypedTrace where
  __ := V3TypedTrace.empty
  toolCalls := [
    sampleCall "get_delivery_proof" 1 1 0 .success,
    sampleCall "get_order_context" 3 1 1 .success,
    sampleCall "get_delivery_proof" 4 1 2 .success,
    sampleCall "get_logistics_timeline" 5 1 3 .success]
  states := [sampleState 2 .finalize, sampleState 6 .finalize]
  trajectoryBoundaries := [3]

theorem twoSegments_accepted :
    letI := EvalText.plain
    V3TypedTrace.schema.accepts twoSegments = true := by
  decide +kernel

theorem firstSegment_unjudged :
    letI := EvalText.plain
    let context := sampleContext [noTimelineAfterProof] twoSegments
    (passes (gradeEarlyStop context) = true ∧ WorkAfterEnd twoSegments (workMoments twoSegments)) ∧
      (passes (gradeUnnecessaryReads context) = true ∧
        WorkAfterEnd twoSegments (readMoments twoSegments)) ∧
      passes (gradeObservationConditionedChoice context) = true ∧
        Overstepped context ⟨id, id⟩ := by
  have hfirst : FirstOfSegment twoSegments 2 := by
    unfold FirstOfSegment
    decide +kernel
  refine ⟨⟨by decide +kernel, 2, hfirst, 3, ?_⟩, ⟨by decide +kernel, 2, hfirst, 3, ?_⟩,
    by decide +kernel, ?_⟩
  · decide +kernel
  · decide +kernel
  · let _ := EvalText.plain
    refine ⟨noTimelineAfterProof, List.mem_singleton.mpr rfl, 4,
      ⟨(4, callRecord (sampleCall "get_delivery_proof" 4 1 2 .success)), ?_, rfl, ?_⟩,
      .inl ⟨sampleCall "get_logistics_timeline" 5 1 3 .success, ?_, ?_⟩⟩
    · simp only [placedRecords, keptRecords, List.mem_append, List.mem_map]
      exact .inl (.inl (.inl (.inl (.inl ⟨_, .tail _ (.tail _ (.head _)), rfl⟩))))
    · decide +kernel
    · refine List.mem_filter.mpr ⟨.tail _ (.tail _ (.tail _ (.head _))), ?_⟩
      decide +kernel
    · decide +kernel

end AfterSales.V3
