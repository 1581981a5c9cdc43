import AfterSales.Investigation.ProgressFacts

/-! When an evaluable snapshot means sound evidence.

    The reducer compares a success with what it has kept of the requirement, but only while the
    requirement stands answered: a failure in between makes it forget, and a later call overwrites
    a conflict. Here every history is read once more, by the rows alone, and what the reducer says
    of it is set beside what the rows say. -/

namespace AfterSales.EvidenceProgressReducer

/-- What a history is replayed for, besides its rows. -/
structure Replay where
  caseId : String
  runId : String
  issueType : IssueType
  refs : List EvidenceRef
  pending : Option RetryDirective

namespace Replay

variable (r : Replay)

/-- The accumulators after some rows. -/
def pass (calls : List HistoryCall) : Pass :=
  calls.foldl (step r.caseId r.runId r.issueType r.refs r.pending) (Pass.start r.issueType)

/-- The snapshot after some rows. -/
def snapshot (calls : List HistoryCall) : EvidenceProgressSnapshot :=
  rebuild r.caseId r.runId r.issueType calls r.refs r.pending

/-! ### The rows -/

/-- The tool of a row that counts: one of this case and run, for a tool that the issue may use. -/
def toolOf (call : HistoryCall) : Option ReadTool :=
  if (∃ c ∈ call.caseId, c ≠ r.caseId) ∨ ∃ i ∈ call.runId, i ≠ r.runId then none
  else
    match call.toolName with
    | .error _ => none
    | .ok tool =>
      if requirementRegistry r.issueType tool.requirement = .notRequired then none else some tool

/-- The rows that count for a requirement. -/
def answersTo (code : EvidenceRequirementCode) (calls : List HistoryCall) : List HistoryCall :=
  calls.filter fun call => r.toolOf call = some code.tool

/-- A success, of which its envelope and a reference tell the same. -/
structure Succeeds (call : HistoryCall) : Prop where
  success : call.executionStatus = some .success
  available : call.evidenceAvailability = some .present ∨ call.evidenceAvailability = some .absent
  parsed : call.envelopeHash ≠ none
  envelope : call.envelopeHash = call.resultHash
  referenced : evidenceRefsFor r.refs call ≠ []

/-- A failure whose evidence is unavailable. -/
def Fails (call : HistoryCall) : Prop :=
  (call.executionStatus = some .retryableError ∨ call.executionStatus = some .nonRetryableError) ∧
    call.evidenceAvailability = some .unavailable

/-- The call that a pending retry repeats is among the rows. -/
def OriginSeen (calls : List HistoryCall) : Prop :=
  ∃ d ∈ r.pending, ∃ c ∈ calls, (r.toolOf c).isSome ∧ c.toolCallId = d.retryOfToolCallId

/-- The retry itself is among the rows, after the call it repeats. -/
def AttemptSeen (calls : List HistoryCall) : Prop :=
  ∃ d ∈ r.pending, ∃ before c after tool, calls = before ++ c :: after ∧ r.toolOf c = some tool ∧
    c.toolCallId ≠ d.retryOfToolCallId ∧ c.actualExecution = true ∧ c.attemptNumber = 2 ∧
    sameIdentity d c tool = true ∧ r.OriginSeen before

/-- A row that is not what the pending retry allows after the rows before it. -/
def BreaksLock (before : List HistoryCall) (call : HistoryCall) (tool : ReadTool) : Prop :=
  ∃ d ∈ r.pending,
    (call.toolCallId = d.retryOfToolCallId ∧
      ¬ (call.actualExecution = true ∧ call.attemptNumber = 1 ∧ sameIdentity d call tool = true)) ∨
    (call.toolCallId ≠ d.retryOfToolCallId ∧ r.OriginSeen before ∧ ¬ r.AttemptSeen before ∧
      call.actualExecution = true ∧
      ¬ (call.attemptNumber = 2 ∧ sameIdentity d call tool = true))

/-- A row that settles nothing whatever is known of its requirement. -/
def Broken (before : List HistoryCall) (call : HistoryCall) (tool : ReadTool) : Prop :=
  r.BreaksLock before call tool ∨ ¬ (r.Succeeds call ∨ Fails call)

/-- A value is one of those that rows carry, or none of them carries any. -/
def Carried (values : List (Option String)) (item : Option String) : Prop :=
  (∀ v ∈ values, v = none) ∨ (item.isSome ∧ item ∈ values)

/-- A row that contradicts the rows before it: it is broken, or it follows a success of its
    requirement with a hash or a version that none of them carries. -/
def Clash (code : EvidenceRequirementCode) (before : List HistoryCall) (call : HistoryCall) : Prop :=
  r.Broken before call code.tool ∨
    ∃ last, (r.answersTo code before).getLast? = some last ∧ r.Succeeds last ∧ r.Succeeds call ∧
      ¬ (Carried ((r.answersTo code before).map (·.resultHash)) call.resultHash ∧
        Carried ((r.answersTo code before).map (·.sourceVersion)) call.sourceVersion)

/-- No row of a requirement contradicts those before it. -/
def Unclashed (code : EvidenceRequirementCode) (calls : List HistoryCall) : Prop :=
  ∀ before call after, calls = before ++ call :: after → r.toolOf call = some code.tool →
    ¬ r.Clash code before call

/-! ### One row -/

variable {r} {calls before : List HistoryCall} {call : HistoryCall} {p : Pass} {tool : ReadTool}
  {code : EvidenceRequirementCode}

theorem pass_append : r.pass (calls ++ [call])
    = step r.caseId r.runId r.issueType r.refs r.pending (r.pass calls) call := by
  rw [pass, List.foldl_append]
  rfl

/-- A row that does not count leaves a terminal code and nothing else. -/
theorem step_stray (h : r.toolOf call = none) : ∃ q text,
    step r.caseId r.runId r.issueType r.refs r.pending p call = Pass.addTerminal q text ∧
      q.states = p.states ∧ q.terminal = p.terminal ∧ q.retryOriginSeen = p.retryOriginSeen ∧
      q.retryAttemptSeen = p.retryAttemptSeen := by
  rw [toolOf] at h
  rw [step]
  split at h
  · rename_i hscope
    rw [if_pos hscope]
    exact ⟨p, _, rfl, rfl, rfl, rfl, rfl⟩
  · rename_i hscope
    rw [if_neg hscope]
    cases htool : call.toolName with
    | error text => exact ⟨p, _, rfl, rfl, rfl, rfl, rfl⟩
    | ok tool =>
      simp only [htool] at h
      split at h
      · rename_i hrel
        simp only [if_pos hrel]
        refine ⟨_, _, rfl, ?_⟩
        split <;> exact ⟨rfl, rfl, rfl, rfl⟩
      · cases h

/-- The flags of a pass tell which rows of a pending retry were seen. -/
structure Locked (r : Replay) (calls : List HistoryCall) (p : Pass) : Prop where
  origin : p.retryOriginSeen = true ↔ r.OriginSeen calls
  attempt : p.retryAttemptSeen = true ↔ r.AttemptSeen calls

theorem OriginSeen.append : r.OriginSeen (calls ++ [call]) ↔ r.OriginSeen calls ∨
    ∃ d ∈ r.pending, (r.toolOf call).isSome ∧ call.toolCallId = d.retryOfToolCallId := by
  constructor
  · rintro ⟨d, hd, c, hc, hseen⟩
    rcases List.mem_append.mp hc with hc | hc
    · exact .inl ⟨d, hd, c, hc, hseen⟩
    · obtain rfl := List.mem_singleton.mp hc
      exact .inr ⟨d, hd, hseen⟩
  · rintro (⟨d, hd, c, hc, hseen⟩ | ⟨d, hd, hseen⟩)
    · exact ⟨d, hd, c, List.mem_append_left _ hc, hseen⟩
    · exact ⟨d, hd, call, by simp, hseen⟩

theorem AttemptSeen.append : r.AttemptSeen (calls ++ [call]) ↔ r.AttemptSeen calls ∨
    ∃ d ∈ r.pending, ∃ tool, r.toolOf call = some tool ∧ call.toolCallId ≠ d.retryOfToolCallId ∧
      call.actualExecution = true ∧ call.attemptNumber = 2 ∧ sameIdentity d call tool = true ∧
      r.OriginSeen calls := by
  constructor
  · rintro ⟨d, hd, before, c, after, tool, hsplit, hseen⟩
    rcases List.eq_nil_or_concat after with rfl | ⟨after, last, rfl⟩
    · obtain ⟨rfl, hlast⟩ := List.append_inj' hsplit rfl
      obtain rfl := List.head_eq_of_cons_eq hlast
      exact .inr ⟨d, hd, tool, hseen⟩
    · rw [List.concat_eq_append, ← List.cons_append, ← List.append_assoc] at hsplit
      obtain ⟨rfl, -⟩ := List.append_inj' hsplit rfl
      exact .inl ⟨d, hd, before, c, after, tool, rfl, hseen⟩
  · rintro (⟨d, hd, before, c, after, tool, rfl, hseen⟩ | ⟨d, hd, tool, hseen⟩)
    · exact ⟨d, hd, before, c, after ++ [call], tool, by simp, hseen⟩
    · exact ⟨d, hd, calls, call, [], tool, rfl, hseen⟩

/-- Reading an outcome changes no flag. -/
theorem reduceOutcome_flags (call : HistoryCall) (p : Pass) (code : EvidenceRequirementCode) :
    (reduceOutcome r.refs r.pending p call code).retryOriginSeen = p.retryOriginSeen ∧
      (reduceOutcome r.refs r.pending p call code).retryAttemptSeen = p.retryAttemptSeen := by
  rw [reduceOutcome]
  split
  · rw [reduceSuccess]
    simp only
    split_ifs <;> exact ⟨rfl, rfl⟩
  · rw [reduceSuccess]
    simp only
    split_ifs <;> exact ⟨rfl, rfl⟩
  all_goals exact ⟨rfl, rfl⟩

/-- What the lock makes of a row, and the flags it leaves. -/
theorem checkRetryLock_cases (hlocked : r.Locked before p) (h : r.toolOf call = some tool) :
    (r.BreaksLock before call tool ∧ checkRetryLock r.pending p call tool = none ∧
      ∀ q : Pass, q.retryAttemptSeen = p.retryAttemptSeen →
        (q.retryOriginSeen = (p.retryOriginSeen ||
          decide (∃ d ∈ r.pending, d.retryOfToolCallId = call.toolCallId))) →
        r.Locked (before ++ [call]) q) ∨
    (¬ r.BreaksLock before call tool ∧ ∃ q, checkRetryLock r.pending p call tool = some q ∧
      q.states = p.states ∧ q.terminal = p.terminal ∧ r.Locked (before ++ [call]) q) := by
  cases hd : r.pending with
  | none =>
    refine .inr ⟨by simp [BreaksLock, hd], p, rfl, rfl, rfl, ?_, ?_⟩
    · simpa [OriginSeen, hd] using hlocked.origin
    · simpa [AttemptSeen, hd] using hlocked.attempt
  | some d =>
    have horigin : r.OriginSeen (before ++ [call]) ↔
        p.retryOriginSeen = true ∨ call.toolCallId = d.retryOfToolCallId := by
      simp [OriginSeen.append, hlocked.origin, hd, h]
    have hattempt : r.AttemptSeen (before ++ [call]) ↔ p.retryAttemptSeen = true ∨
        (call.toolCallId ≠ d.retryOfToolCallId ∧ call.actualExecution = true ∧
          call.attemptNumber = 2 ∧ sameIdentity d call tool = true ∧ p.retryOriginSeen = true) := by
      simp [AttemptSeen.append, hlocked.attempt, hlocked.origin, hd, h]
    have hbreaks : r.BreaksLock before call tool ↔
        (call.toolCallId = d.retryOfToolCallId ∧ ¬ (call.actualExecution = true ∧
          call.attemptNumber = 1 ∧ sameIdentity d call tool = true)) ∨
        (call.toolCallId ≠ d.retryOfToolCallId ∧ p.retryOriginSeen = true ∧
          ¬ p.retryAttemptSeen = true ∧ call.actualExecution = true ∧
          ¬ (call.attemptNumber = 2 ∧ sameIdentity d call tool = true)) := by
      simp only [BreaksLock, hd, Option.mem_def, Option.some.injEq, exists_eq_left',
        hlocked.origin, hlocked.attempt]
    by_cases hid : call.toolCallId = d.retryOfToolCallId
    · by_cases hok : call.actualExecution = true ∧ call.attemptNumber = 1 ∧
          sameIdentity d call tool = true
      · refine .inr ⟨by simp [hbreaks, hid, hok], { p with retryOriginSeen := true }, ?_, rfl, rfl,
          ?_, ?_⟩
        · simp [checkRetryLock, hid, hok]
        · simp [horigin, hid]
        · simp [hattempt, hid]
      · refine .inl ⟨hbreaks.mpr (.inl ⟨hid, hok⟩), ?_, fun q hkept hseen => ⟨?_, ?_⟩⟩
        · simpa [checkRetryLock, hid] using hok
        · simp [horigin, hid, hseen]
        · simp [hattempt, hid, hkept]
    · have hother : ¬ d.retryOfToolCallId = call.toolCallId := fun e => hid e.symm
      by_cases hopen : p.retryOriginSeen = true ∧ ¬ p.retryAttemptSeen = true ∧
          call.actualExecution = true
      · by_cases hok : call.attemptNumber = 2 ∧ sameIdentity d call tool = true
        · refine .inr ⟨by simp [hbreaks, hid, hok], { p with retryAttemptSeen := true }, ?_, rfl,
            rfl, ?_, ?_⟩
          · simp [checkRetryLock, hother, hopen, hok]
          · simp [horigin, hid]
          · simp [hattempt, hid, hopen, hok]
        · refine .inl ⟨hbreaks.mpr (.inr ⟨hid, hopen.1, hopen.2.1, hopen.2.2, hok⟩), ?_,
            fun q hkept hseen => ⟨?_, ?_⟩⟩
          · simpa [checkRetryLock, hother, hopen] using hok
          · simp [horigin, hid, hseen, hother]
          · simp only [hattempt, hkept]
            tauto
      · refine .inr ⟨?_, p, ?_, rfl, rfl, ?_, ?_⟩
        · rw [hbreaks]
          tauto
        · simp only [checkRetryLock, hother, if_false]
          rw [if_neg (by simpa using hopen)]
        · simp [horigin, hid]
        · rw [hattempt]
          tauto

/-- The step of a row that counts: it breaks the lock, or its outcome is read. -/
theorem step_counts (hlocked : r.Locked before p) (h : r.toolOf call = some tool) :
    r.Locked (before ++ [call]) (step r.caseId r.runId r.issueType r.refs r.pending p call) ∧
      ∃ q : Pass, q.states = p.states ∧ q.terminal = p.terminal ∧
        ((r.BreaksLock before call tool ∧
          step r.caseId r.runId r.issueType r.refs r.pending p call =
            q.conflict tool.requirement "RETRY_IDENTITY_CONFLICT") ∨
        (¬ r.BreaksLock before call tool ∧
          step r.caseId r.runId r.issueType r.refs r.pending p call =
            reduceOutcome r.refs r.pending q call tool.requirement)) := by
  have htool := h
  rw [toolOf] at htool
  split at htool
  · cases htool
  rename_i hscope
  cases hname : call.toolName with
  | error text =>
    simp only [hname] at htool
    cases htool
  | ok tool' =>
    simp only [hname] at htool
    split at htool
    · cases htool
    rename_i hrel
    obtain rfl := Option.some.inj htool
    set q₀ : Pass :=
      if call.actualExecution then { p with lastActual := some call.toolCallId } else p with hq₀
    have hstates : q₀.states = p.states := by rw [hq₀]; split <;> rfl
    have hterminal : q₀.terminal = p.terminal := by rw [hq₀]; split <;> rfl
    have hlocked₀ : r.Locked before q₀ := by
      rw [hq₀]
      split
      · exact ⟨hlocked.origin, hlocked.attempt⟩
      · exact hlocked
    have hbroken (hlock : checkRetryLock r.pending q₀ call tool' = none) :
        step r.caseId r.runId r.issueType r.refs r.pending p call =
          { q₀ with retryOriginSeen := q₀.retryOriginSeen ||
              decide (∃ d ∈ r.pending, d.retryOfToolCallId = call.toolCallId) }.conflict
            tool'.requirement "RETRY_IDENTITY_CONFLICT" := by
      rw [step, if_neg hscope, hname]
      simp only [if_neg hrel]
      rw [← hq₀, hlock]
    have hkept {q : Pass} (hlock : checkRetryLock r.pending q₀ call tool' = some q) :
        step r.caseId r.runId r.issueType r.refs r.pending p call =
          reduceOutcome r.refs r.pending q call tool'.requirement := by
      rw [step, if_neg hscope, hname]
      simp only [if_neg hrel]
      rw [← hq₀, hlock]
    rcases checkRetryLock_cases hlocked₀ h with ⟨hbreaks, hlock, hnext⟩ |
      ⟨hkeeps, q, hlock, hqstates, hqterminal, hnext⟩
    · rw [hbroken hlock]
      refine ⟨hnext _ rfl rfl, _, ?_, ?_, .inl ⟨hbreaks, rfl⟩⟩
      · exact hstates
      · exact hterminal
    · rw [hkept hlock]
      obtain ⟨horigin, hattempt⟩ :=
        reduceOutcome_flags (r := r) call q tool'.requirement
      refine ⟨⟨?_, ?_⟩, q, hqstates.trans hstates, hqterminal.trans hterminal,
        .inr ⟨hkeeps, rfl⟩⟩
      · simp only [horigin, hnext.origin]
      · simp only [hattempt, hnext.attempt]

/-- The flags of a pass are kept. -/
theorem locked_pass : r.Locked calls (r.pass calls) := by
  induction calls using List.reverseRecOn with
  | nil => exact ⟨by simp [pass, Pass.start, OriginSeen], by simp [pass, Pass.start, AttemptSeen]⟩
  | append_singleton calls call ih =>
    rw [pass_append]
    cases htool : r.toolOf call with
    | some tool => exact (step_counts ih htool).1
    | none =>
      obtain ⟨q, text, hstep, -, -, horigin, hattempt⟩ := step_stray (p := r.pass calls) htool
      rw [hstep]
      refine ⟨?_, ?_⟩
      · simp [Pass.addTerminal, horigin, ih.origin, OriginSeen.append, htool]
      · simp [Pass.addTerminal, hattempt, ih.attempt, AttemptSeen.append, htool]

/-! ### The outcome of a row -/

/-- A value is kept, or none is. -/
def Known (values : List String) (item : Option String) : Prop :=
  values ≠ [] → ∃ x ∈ item, x ∈ values

/-- What a success makes of its requirement. -/
theorem reduceSuccess_cases (p : Pass) (code : EvidenceRequirementCode)
    (status : EvidenceProgressStatus)
    (henvelope : call.envelopeHash ≠ none ∧ call.envelopeHash = call.resultHash)
    (hrefs : evidenceRefsFor r.refs call ≠ []) :
    (((p.states code).status.satisfied = true ∧ ¬ (Known (p.states code).resultHashes
        call.resultHash ∧ Known (p.states code).sourceVersions call.sourceVersion)) ∧
      ∃ text, reduceSuccess r.refs p call code status = p.conflict code text) ∨
    (((p.states code).status.satisfied = true → Known (p.states code).resultHashes
        call.resultHash ∧ Known (p.states code).sourceVersions call.sourceVersion) ∧
      reduceSuccess r.refs p call code status = p.setState code (merge (p.states code) status call
        ((evidenceRefsFor r.refs call).map evidenceRefId))) := by
  have hparsed : ¬ (call.envelopeHash = none ∨ call.envelopeHash ≠ call.resultHash) :=
    not_or.mpr ⟨henvelope.1, not_not.mpr henvelope.2⟩
  rw [reduceSuccess]
  simp only [if_neg hparsed, if_neg hrefs]
  by_cases hsatisfied : (p.states code).status.satisfied = true
  · by_cases hhash : Known (p.states code).resultHashes call.resultHash
    · by_cases hversion : Known (p.states code).sourceVersions call.sourceVersion
      · refine .inr ⟨fun _ => ⟨hhash, hversion⟩, ?_⟩
        rw [if_neg (by simpa [hsatisfied, Known] using hhash),
          if_neg (by simpa [hsatisfied, Known] using hversion)]
      · refine .inl ⟨⟨hsatisfied, fun h => hversion h.2⟩, "SOURCE_REVISION_CONFLICT", ?_⟩
        rw [if_neg (by simpa [hsatisfied, Known] using hhash),
          if_pos (by simpa [hsatisfied, Known] using hversion)]
    · refine .inl ⟨⟨hsatisfied, fun h => hhash h.1⟩, "CONTRADICTORY_SUCCESS", ?_⟩
      rw [if_pos (by simpa [hsatisfied, Known] using hhash)]
  · refine .inr ⟨fun h => absurd h hsatisfied, ?_⟩
    rw [if_neg (by simp [hsatisfied]), if_neg (by simp [hsatisfied])]

/-- What a row of a requirement does with it once the lock has let it through. -/
inductive Read (r : Replay) (p : Pass) (call : HistoryCall) (code : EvidenceRequirementCode) :
    Pass → Prop
  | failed (status : EvidenceProgressStatus) (fails : Fails call)
      (waits : status = .retryPending ∨ status = .unavailableFinal) :
      Read r p call code (p.setState code (merge (p.states code) status call []))
  | answered (status : EvidenceProgressStatus) (succeeds : r.Succeeds call)
      (satisfied : status.satisfied = true)
      (known : (p.states code).status.satisfied = true →
        Known (p.states code).resultHashes call.resultHash ∧
          Known (p.states code).sourceVersions call.sourceVersion) :
      Read r p call code (p.setState code (merge (p.states code) status call
        ((evidenceRefsFor r.refs call).map evidenceRefId)))
  | contradicted (text : String) (succeeds : r.Succeeds call)
      (satisfied : (p.states code).status.satisfied = true)
      (unknown : ¬ (Known (p.states code).resultHashes call.resultHash ∧
        Known (p.states code).sourceVersions call.sourceVersion)) :
      Read r p call code (p.conflict code text)
  | malformed (text : String) (settles : ¬ (r.Succeeds call ∨ Fails call)) :
      Read r p call code (p.conflict code text)

/-- A success that the reducer reads. -/
theorem Read.of_success {status : EvidenceProgressStatus}
    (hsuccess : call.executionStatus = some .success)
    (havailable : call.evidenceAvailability = some .present ∨
      call.evidenceAvailability = some .absent) (hstatus : status.satisfied = true) :
    Read r p call code (reduceSuccess r.refs p call code status) := by
  have hfails : ¬ Fails call := by
    rintro ⟨hstatus | hstatus, -⟩ <;> simp [hsuccess] at hstatus
  by_cases henvelope : call.envelopeHash ≠ none ∧ call.envelopeHash = call.resultHash
  · by_cases hrefs : evidenceRefsFor r.refs call = []
    · have hconflict : reduceSuccess r.refs p call code status
          = p.conflict code "MISSING_EVIDENCE_REF" := by
        have hparsed : ¬ (call.envelopeHash = none ∨ call.envelopeHash ≠ call.resultHash) :=
          not_or.mpr ⟨henvelope.1, not_not.mpr henvelope.2⟩
        rw [reduceSuccess]
        simp only [if_neg hparsed, if_pos hrefs]
      rw [hconflict]
      exact .malformed _ fun h => (h.resolve_right hfails).referenced hrefs
    · have hsucceeds : r.Succeeds call :=
        ⟨hsuccess, havailable, henvelope.1, henvelope.2, hrefs⟩
      rcases reduceSuccess_cases p code status henvelope hrefs with
        ⟨⟨hsatisfied, hunknown⟩, text, hsame⟩ | ⟨hknown, hsame⟩
      · rw [hsame]
        exact .contradicted text hsucceeds hsatisfied hunknown
      · rw [hsame]
        exact .answered status hsucceeds hstatus hknown
  · have hconflict : reduceSuccess r.refs p call code status
        = p.conflict code "RESULT_HASH_MISMATCH" := by
      have hparsed : call.envelopeHash = none ∨ call.envelopeHash ≠ call.resultHash := by
        by_contra h
        exact henvelope (not_or.mp h |>.imp id not_not.mp)
      rw [reduceSuccess]
      simp only [if_pos hparsed]
    rw [hconflict]
    refine .malformed _ fun h => ?_
    have hsucceeds := h.resolve_right hfails
    exact henvelope ⟨hsucceeds.parsed, hsucceeds.envelope⟩

/-- Every outcome is read in one of these ways. -/
theorem reduceOutcome_read : Read r p call code (reduceOutcome r.refs r.pending p call code) := by
  have hfailed : ∀ status : EvidenceProgressStatus, Fails call →
      status = .retryPending ∨ status = .unavailableFinal →
      Read r p call code (p.setState code (merge (p.states code) status call [])) :=
    fun status hfails hwaits => .failed status hfails hwaits
  have hwaits : ∀ c : Prop, ∀ [Decidable c],
      (if c then EvidenceProgressStatus.retryPending else .unavailableFinal) = .retryPending ∨
        (if c then EvidenceProgressStatus.retryPending else .unavailableFinal)
          = .unavailableFinal := by
    intro c _
    by_cases h : c <;> simp [h]
  rw [reduceOutcome]
  split
  · rename_i hsuccess havailable
    exact .of_success hsuccess (.inl havailable) rfl
  · rename_i hsuccess havailable
    exact .of_success hsuccess (.inr havailable) rfl
  · rename_i hstatus havailable
    exact hfailed _ ⟨.inl hstatus, havailable⟩ (hwaits _)
  · rename_i hstatus havailable
    exact hfailed _ ⟨.inr hstatus, havailable⟩ (hwaits _)
  · rename_i hpresent habsent hretryable hfinal
    refine .malformed _ ?_
    rintro (hsucceeds | ⟨hstatus, havailable⟩)
    · rcases hsucceeds.available with havailable | havailable
      · exact hpresent hsucceeds.success havailable
      · exact habsent hsucceeds.success havailable
    · rcases hstatus with hstatus | hstatus
      · exact hretryable hstatus havailable
      · exact hfinal hstatus havailable

/-! ### What the reducer keeps of a requirement -/

/-- A requirement holds what its rows carry, while none of them contradicts those before it. -/
structure Tracked (r : Replay) (code : EvidenceRequirementCode) (calls : List HistoryCall)
    (s : RequirementProgress) : Prop where
  hash : ∀ h, h ∈ s.resultHashes ↔ ∃ c ∈ r.answersTo code calls, c.resultHash = some h
  version : ∀ v, v ∈ s.sourceVersions ↔ ∃ c ∈ r.answersTo code calls, c.sourceVersion = some v
  supports : ∀ c ∈ r.answersTo code calls, c.toolCallId ∈ s.supportingToolCallIds
  open_ : s.status ≠ .conflict
  satisfied : s.status.satisfied = true ↔
    ∃ last, (r.answersTo code calls).getLast? = some last ∧ r.Succeeds last

theorem mem_addItem {values : List String} {item : Option String} {x : String} :
    x ∈ addItem values item ↔ x ∈ values ∨ item = some x := by
  cases item with
  | none => simp [addItem]
  | some y =>
    rw [addItem]
    split
    · rename_i hy
      refine ⟨.inl, ?_⟩
      rintro (hx | hx)
      · exact hx
      · exact Option.some.inj hx ▸ hy
    · simp [eq_comm]

theorem known_iff {values : List String} {rows : List HistoryCall}
    {carries : HistoryCall → Option String} {item : Option String}
    (h : ∀ x, x ∈ values ↔ ∃ c ∈ rows, carries c = some x) :
    Known values item ↔ Carried (rows.map carries) item := by
  have hempty : values = [] ↔ ∀ v ∈ rows.map carries, v = none := by
    rw [List.eq_nil_iff_forall_not_mem]
    constructor
    · intro hnone v hv
      obtain ⟨c, hc, rfl⟩ := List.mem_map.mp hv
      rw [Option.eq_none_iff_forall_ne_some]
      exact fun x hx => hnone x ((h x).mpr ⟨c, hc, hx⟩)
    · intro hnone x hx
      obtain ⟨c, hc, hcarries⟩ := (h x).mp hx
      rw [hnone _ (List.mem_map_of_mem hc)] at hcarries
      cases hcarries
  have hmem : (∃ x ∈ item, x ∈ values) ↔ item.isSome ∧ item ∈ rows.map carries := by
    cases item with
    | none => simp
    | some x => simp [h, List.mem_map]
  rw [Known, Carried, ← hempty, hmem]
  tauto

theorem answersTo_append (h : r.toolOf call = some code.tool) :
    r.answersTo code (calls ++ [call]) = r.answersTo code calls ++ [call] := by
  simp [answersTo, h]

theorem answersTo_other (calls : List HistoryCall) (h : r.toolOf call ≠ some code.tool) :
    r.answersTo code (calls ++ [call]) = r.answersTo code calls := by
  simp [answersTo, h]

/-- A row that is merged is kept. -/
theorem Tracked.merge {s : RequirementProgress} {status : EvidenceProgressStatus}
    {refIds : List (ToolCallId × String × Option String)} (htracked : r.Tracked code calls s)
    (h : r.toolOf call = some code.tool) (hopen : status ≠ .conflict)
    (hsatisfied : status.satisfied = true ↔ r.Succeeds call) :
    r.Tracked code (calls ++ [call]) (EvidenceProgressReducer.merge s status call refIds) where
  hash x := by
    simp [answersTo_append h, EvidenceProgressReducer.merge, mem_addItem, htracked.hash, or_and_right,
      exists_or]
  version x := by
    simp [answersTo_append h, EvidenceProgressReducer.merge, mem_addItem, htracked.version,
      or_and_right, exists_or]
  supports c hc := by
    have hadd : ∀ id, id ∈ s.supportingToolCallIds ∨ id = call.toolCallId →
        id ∈ addItem s.supportingToolCallIds (some call.toolCallId) := by
      intro id hid
      rw [addItem]
      split
      · rename_i hknown
        rcases hid with hid | rfl
        · exact hid
        · exact hknown
      · simpa using hid
    rw [answersTo_append h, List.mem_append, List.mem_singleton] at hc
    refine hadd _ ?_
    rcases hc with hc | rfl
    · exact .inl (htracked.supports c hc)
    · exact .inr rfl
  open_ := hopen
  satisfied := by
    simpa [answersTo_append h, EvidenceProgressReducer.merge] using hsatisfied

/-- A row of a requirement breaks the lock, or is read. -/
theorem pass_counts (before : List HistoryCall) (h : r.toolOf call = some code.tool) : ∃ q : Pass,
    q.states = (r.pass before).states ∧ q.terminal = (r.pass before).terminal ∧
      ((r.BreaksLock before call code.tool ∧ ∃ text, r.pass (before ++ [call]) = q.conflict code text) ∨
        (¬ r.BreaksLock before call code.tool ∧ Read r q call code (r.pass (before ++ [call])))) := by
  obtain ⟨-, q, hstates, hterminal, hcases⟩ :=
    step_counts (p := r.pass before) locked_pass h
  rw [EvidenceRequirementCode.requirement_tool] at hcases
  refine ⟨q, hstates, hterminal, ?_⟩
  rw [pass_append]
  rcases hcases with ⟨hbreaks, hstep⟩ | ⟨hkeeps, hstep⟩
  · exact .inl ⟨hbreaks, _, hstep⟩
  · rw [hstep]
    exact .inr ⟨hkeeps, reduceOutcome_read⟩

/-- A row that does not count for a requirement leaves it. -/
theorem pass_other (h : r.toolOf call ≠ some code.tool) :
    (r.pass (before ++ [call])).states code = (r.pass before).states code := by
  rw [pass_append]
  cases htool : r.toolOf call with
  | none =>
    obtain ⟨q, text, hstep, hstates, -⟩ := step_stray (p := r.pass before) htool
    rw [hstep, Pass.addTerminal, hstates]
  | some tool =>
    have hne : code ≠ tool.requirement := by
      rintro rfl
      exact h (by rw [htool, ReadTool.tool_requirement])
    obtain ⟨-, q, hstates, -, ⟨-, hstep⟩ | ⟨-, hstep⟩⟩ :=
      step_counts (p := r.pass before) locked_pass htool
    · rw [hstep, Pass.conflict_other hne, hstates]
    · rw [hstep, reduceOutcome_moved.2 code hne, hstates]

/-- A broken row leaves its requirement in conflict. -/
theorem pass_broken (h : r.toolOf call = some code.tool) (hbroken : r.Broken before call code.tool) :
    ((r.pass (before ++ [call])).states code).status = .conflict := by
  obtain ⟨q, -, -, ⟨-, text, hstep⟩ | ⟨hkeeps, hread⟩⟩ := pass_counts before h
  · rw [hstep, Pass.conflict_status]
  · have hsettles := hbroken.resolve_left hkeeps
    generalize r.pass (before ++ [call]) = q' at hread ⊢
    cases hread with
    | failed status fails => exact absurd (.inr fails) hsettles
    | answered status succeeds => exact absurd (.inl succeeds) hsettles
    | contradicted text | malformed text => exact Pass.conflict_status text

/-- Any other row takes its requirement out of a conflict. -/
theorem pass_sound (h : r.toolOf call = some code.tool)
    (hsound : ¬ r.Broken before call code.tool)
    (hconflict : ((r.pass before).states code).status = .conflict) :
    ((r.pass (before ++ [call])).states code).status ≠ .conflict := by
  obtain ⟨q, hstates, -, ⟨hbreaks, -⟩ | ⟨-, hread⟩⟩ := pass_counts before h
  · exact absurd (.inl hbreaks) hsound
  · generalize r.pass (before ++ [call]) = q' at hread ⊢
    cases hread with
    | failed status fails waits =>
      rw [Pass.setState_self]
      rcases waits with rfl | rfl <;> simp [EvidenceProgressReducer.merge]
    | answered status succeeds satisfied =>
      rw [Pass.setState_self]
      rintro rfl
      cases satisfied
    | contradicted text succeeds satisfied =>
      rw [hstates, hconflict] at satisfied
      cases satisfied
    | malformed text settles => exact absurd (.inr settles) hsound

/-- What a row makes of a requirement that is tracked. -/
theorem Tracked.step (htracked : r.Tracked code before ((r.pass before).states code))
    (h : r.toolOf call = some code.tool) :
    (r.Clash code before call →
      ((r.pass (before ++ [call])).states code).status = .conflict) ∧
    (¬ r.Clash code before call →
      r.Tracked code (before ++ [call]) ((r.pass (before ++ [call])).states code) ∧
        (r.pass (before ++ [call])).terminal = (r.pass before).terminal) := by
  have hknown : Known ((r.pass before).states code).resultHashes call.resultHash ∧
      Known ((r.pass before).states code).sourceVersions call.sourceVersion ↔
      Carried ((r.answersTo code before).map (·.resultHash)) call.resultHash ∧
        Carried ((r.answersTo code before).map (·.sourceVersion)) call.sourceVersion := by
    rw [known_iff htracked.hash, known_iff htracked.version]
  obtain ⟨q, hstates, hterminal, ⟨hbreaks, text, hstep⟩ | ⟨hkeeps, hread⟩⟩ :=
    pass_counts before h
  · refine ⟨fun _ => ?_, fun hfree => absurd (.inl (.inl hbreaks)) hfree⟩
    rw [hstep, Pass.conflict_status]
  · generalize r.pass (before ++ [call]) = q' at hread ⊢
    rw [← hstates] at htracked hknown
    cases hread with
    | failed status fails waits =>
      have hsucceeds : ¬ r.Succeeds call := fun hsucceeds => by
        rcases fails.1 with hstatus | hstatus <;> simp [hsucceeds.success] at hstatus
      refine ⟨?_, fun _ => ⟨?_, hterminal⟩⟩
      · rintro (hbroken | ⟨-, -, -, hsuccess, -⟩)
        · exact absurd (.inr fails) (hbroken.resolve_left hkeeps)
        · exact absurd hsuccess hsucceeds
      · rw [Pass.setState_self]
        refine htracked.merge h ?_ ?_ <;> rcases waits with rfl | rfl <;>
          simp [EvidenceProgressStatus.satisfied, hsucceeds]
    | answered status succeeds satisfied known =>
      refine ⟨?_, fun _ => ⟨?_, hterminal⟩⟩
      · rintro (hbroken | ⟨last, hlast, hsuccess, -, hunknown⟩)
        · exact absurd (.inl succeeds) (hbroken.resolve_left hkeeps)
        · exact absurd (hknown.mp (known (htracked.satisfied.mpr ⟨last, hlast, hsuccess⟩))) hunknown
      · rw [Pass.setState_self]
        refine htracked.merge h ?_ (by simp [satisfied, succeeds])
        rintro rfl
        cases satisfied
    | contradicted text succeeds satisfied unknown =>
      refine ⟨fun _ => Pass.conflict_status text, fun hfree => absurd (.inr ?_) hfree⟩
      obtain ⟨last, hlast, hsuccess⟩ := htracked.satisfied.mp satisfied
      exact ⟨last, hlast, hsuccess, succeeds, fun hcarried => unknown (hknown.mpr hcarried)⟩
    | malformed text settles =>
      exact ⟨fun _ => Pass.conflict_status text, fun hfree => absurd (.inl (.inr settles)) hfree⟩

/-! ### Whole histories -/

theorem Unclashed.prefix_of (h : r.Unclashed code (calls ++ [call])) : r.Unclashed code calls :=
  fun before c after hsplit => h before c (after ++ [call]) (by simp [hsplit])

/-- A row more clashes itself, or changes nothing. -/
theorem Unclashed.append (h : r.Unclashed code calls)
    (hcall : r.toolOf call = some code.tool → ¬ r.Clash code calls call) :
    r.Unclashed code (calls ++ [call]) := by
  intro before c after hsplit htool
  rcases List.eq_nil_or_concat after with rfl | ⟨after, last, rfl⟩
  · obtain ⟨rfl, hlast⟩ := List.append_inj' hsplit rfl
    obtain rfl := List.head_eq_of_cons_eq hlast
    exact hcall htool
  · rw [List.concat_eq_append, ← List.cons_append, ← List.append_assoc] at hsplit
    obtain ⟨rfl, -⟩ := List.append_inj' hsplit rfl
    exact h before c after rfl htool

/-- While no row of a requirement contradicts those before it, the requirement is tracked. -/
theorem Unclashed.tracked (h : r.Unclashed code calls) :
    r.Tracked code calls ((r.pass calls).states code) := by
  induction calls using List.reverseRecOn with
  | nil =>
    have hstart : (r.pass []).states code = emptyRequirement r.issueType code := rfl
    rw [hstart]
    exact ⟨by simp [answersTo, emptyRequirement], by simp [answersTo, emptyRequirement],
      by simp [answersTo], by simp [emptyRequirement],
      by simp [answersTo, emptyRequirement, EvidenceProgressStatus.satisfied]⟩
  | append_singleton calls call ih =>
    have htracked := ih h.prefix_of
    by_cases htool : r.toolOf call = some code.tool
    · exact ((htracked.step htool).2 (h calls call [] rfl htool)).1
    · rw [pass_other htool]
      have hrows := answersTo_other calls htool
      exact ⟨by simpa [hrows] using htracked.hash, by simpa [hrows] using htracked.version,
        by simpa [hrows] using htracked.supports, htracked.open_,
        by simpa [hrows] using htracked.satisfied⟩

/-- A requirement with a contradiction is in conflict, where none is taken out of it. -/
theorem conflict_of_clash (hkeeps : ∀ before call after, calls = before ++ call :: after →
      r.toolOf call = some code.tool → ¬ r.Unclashed code before →
      ((r.pass before).states code).status = .conflict →
      ((r.pass (before ++ [call])).states code).status = .conflict)
    (h : ¬ r.Unclashed code calls) : ((r.pass calls).states code).status = .conflict := by
  induction calls using List.reverseRecOn with
  | nil => exact absurd (fun _ _ _ hsplit => by simp at hsplit) h
  | append_singleton calls call ih =>
    have hkeeps' : ∀ before c after, calls = before ++ c :: after →
        r.toolOf c = some code.tool → ¬ r.Unclashed code before →
        ((r.pass before).states code).status = .conflict →
        ((r.pass (before ++ [c])).states code).status = .conflict :=
      fun before c after hsplit => hkeeps before c (after ++ [call]) (by simp [hsplit])
    by_cases htool : r.toolOf call = some code.tool
    · by_cases hbefore : r.Unclashed code calls
      · refine (hbefore.tracked.step htool).1 ?_
        by_contra hfree
        exact h (hbefore.append fun _ => hfree)
      · exact hkeeps calls call [] rfl htool hbefore (ih hkeeps' hbefore)
    · rw [pass_other htool]
      exact ih hkeeps' fun hbefore => h (hbefore.append fun e => absurd e htool)

variable (r)

/-- What leaves a requirement in conflict at some point leaves it so. -/
def Sticks (calls : List HistoryCall) : Prop :=
  ∀ code shorter longer, shorter <+: longer → longer <+: calls →
    ((r.snapshot shorter).requirements code).status = .conflict →
    ((r.snapshot longer).requirements code).status = .conflict

/-- Once a row of a requirement contradicts those before it, the later rows of it are broken. -/
def ConflictsLast (calls : List HistoryCall) : Prop :=
  ∀ code before call middle later after,
    calls = before ++ call :: middle ++ later :: after → r.toolOf call = some code.tool →
    r.Clash code before call → r.toolOf later = some code.tool →
    r.Broken (before ++ call :: middle) later code.tool

/-- Every required requirement was last answered by a success, and no row contradicts another. -/
def Complete (calls : List HistoryCall) : Prop :=
  (∀ code, r.Unclashed code calls) ∧ ∀ code ∈ requiredByIssue r.issueType,
    ∃ last, (r.answersTo code calls).getLast? = some last ∧ r.Succeeds last

/-- Every row counts, and a pending retry repeats one of them. -/
def Unstrayed (calls : List HistoryCall) : Prop :=
  (∀ call ∈ calls, (r.toolOf call).isSome) ∧ (r.pending.isSome → r.OriginSeen calls)

/-- A success that differs from an earlier one of its requirement can be compared with it: no call
    of the requirement failed before, and the earlier one has a source version. -/
def Comparable (code : EvidenceRequirementCode) (calls : List HistoryCall) : Prop :=
  ∀ before call after, calls = before ++ call :: after → r.toolOf call = some code.tool →
    r.Succeeds call → ∀ earlier ∈ r.answersTo code before, r.Succeeds earlier →
    (earlier.resultHash ≠ call.resultHash ∨ earlier.sourceVersion ≠ call.sourceVersion) →
    (∀ c ∈ r.answersTo code before, ¬ Fails c) ∧ earlier.sourceVersion ≠ none

/-- A successful row that a snapshot counts as support of a requirement. -/
structure Supports (s : EvidenceProgressSnapshot) (code : EvidenceRequirementCode)
    (call : HistoryCall) : Prop where
  counts : r.toolOf call = some code.tool
  success : call.executionStatus = some .success
  available : call.evidenceAvailability = some .present ∨ call.evidenceAvailability = some .absent
  listed : call.toolCallId ∈ (s.requirements code).supportingToolCallIds

/-- An evaluable snapshot has no terminal code, the successes that support a required requirement
    carry one hash and one version, each under its envelope and a reference, and a conflict sticks. -/
structure Sound (calls : List HistoryCall) : Prop where
  noTerminal : (r.snapshot calls).gateReadiness = .evaluable →
    (r.snapshot calls).terminalTriggerCodes = []
  agrees : (r.snapshot calls).gateReadiness = .evaluable →
    ∀ code ∈ requiredByIssue r.issueType, ∃ resultHash sourceVersion, ∀ call ∈ calls,
      r.Supports (r.snapshot calls) code call → call.resultHash = some resultHash ∧
        call.sourceVersion = sourceVersion ∧ call.envelopeHash = some resultHash ∧
        evidenceRefsFor r.refs call ≠ []
  sticks : r.Sticks calls

/-- The rows on which the reducer can be trusted. -/
structure Trustworthy (calls : List HistoryCall) : Prop where
  conflictsLast : r.ConflictsLast calls
  whole : r.Complete calls →
    r.Unstrayed calls ∧ ∀ code ∈ requiredByIssue r.issueType, r.Comparable code calls

variable {r}

/-- A contradiction in a shorter history is one in a longer one. -/
theorem clash_mono {shorter longer : List HistoryCall} (hshorter : shorter <+: longer)
    (h : ¬ r.Unclashed code shorter) : ¬ r.Unclashed code longer := by
  obtain ⟨rest, rfl⟩ := hshorter
  exact fun hlonger => h fun before call after hsplit =>
    hlonger before call (after ++ rest) (by simp [hsplit])

/-- Where conflicts stick, a contradiction leaves its requirement in conflict. -/
theorem Sticks.conflict (hsticks : r.Sticks calls) (h : ¬ r.Unclashed code calls) :
    ((r.pass calls).states code).status = .conflict := by
  refine conflict_of_clash (fun before call after hsplit _ _ hconflict => ?_) h
  exact hsticks code before (before ++ [call]) (List.prefix_append ..) ⟨after, by simp [hsplit]⟩
    hconflict

theorem Sticks.of_shorter {shorter : List HistoryCall} (hsticks : r.Sticks calls)
    (hshorter : shorter <+: calls) : r.Sticks shorter :=
  fun code first second hfirst hsecond => hsticks code first second hfirst (hsecond.trans hshorter)

/-- Where only broken rows follow a contradiction, it leaves its requirement in conflict. -/
theorem ConflictsLast.conflict (hlast : r.ConflictsLast calls) (h : ¬ r.Unclashed code calls) :
    ((r.pass calls).states code).status = .conflict := by
  refine conflict_of_clash (fun before later after hsplit hlater hclashed _ => ?_) h
  rw [Unclashed] at hclashed
  push Not at hclashed
  obtain ⟨first, call, middle, rfl, hcall, hclash⟩ := hclashed
  exact pass_broken hlater (hlast code first call middle later after (by simpa using hsplit) hcall
    hclash hlater)

/-- Conflicts stick exactly where only broken rows follow a contradiction. -/
theorem sticks_iff : r.Sticks calls ↔ r.ConflictsLast calls := by
  constructor
  · intro hsticks code before call middle later after hsplit hcall hclash hlater
    by_contra hsound
    have hclashed : ¬ r.Unclashed code (before ++ call :: middle) :=
      fun h => h before call middle rfl hcall hclash
    have hshorter : before ++ call :: middle <+: calls := ⟨later :: after, hsplit.symm⟩
    have hconflict := (hsticks.of_shorter hshorter).conflict hclashed
    refine pass_sound hlater hsound hconflict ?_
    exact hsticks code (before ++ call :: middle) ((before ++ call :: middle) ++ [later])
      (List.prefix_append ..) ⟨after, by simp [hsplit]⟩ hconflict
  · intro hlast code shorter longer hshorter hlonger hconflict
    have hclashed : ¬ r.Unclashed code shorter := fun h => h.tracked.open_ hconflict
    obtain ⟨rest, hrest⟩ := hlonger
    have hlast' : r.ConflictsLast longer :=
      fun code before call middle later after hsplit => hlast code before call middle later
        (after ++ rest) (by simp [← hrest, hsplit])
    exact hlast'.conflict (clash_mono hshorter hclashed)

/-- Where conflicts stick, a snapshot is evaluable exactly when the history is complete. -/
theorem Sticks.evaluable_iff (hsticks : r.Sticks calls) :
    (r.snapshot calls).gateReadiness = .evaluable ↔ r.Complete calls := by
  have hbuild : (r.snapshot calls).gateReadiness = .evaluable ↔
      (∀ c ∈ requiredByIssue r.issueType, ((r.pass calls).states c).status.satisfied) ∧
        ∀ c, ((r.pass calls).states c).status ≠ .conflict := build_evaluable
  rw [hbuild]
  constructor
  · rintro ⟨hsatisfied, hfree⟩
    have hunclashed : ∀ code, r.Unclashed code calls := fun code => by
      by_contra h
      exact hfree code (hsticks.conflict h)
    exact ⟨hunclashed, fun code hcode => (hunclashed code).tracked.satisfied.mp
      (hsatisfied code hcode)⟩
  · rintro ⟨hunclashed, hlast⟩
    exact ⟨fun code hcode => (hunclashed code).tracked.satisfied.mpr (hlast code hcode),
      fun code => (hunclashed code).tracked.open_⟩

/-- Without a contradiction only rows that do not count leave terminal codes. -/
theorem terminal_iff (h : ∀ code, r.Unclashed code calls) :
    (r.pass calls).terminal = [] ↔ ∀ call ∈ calls, (r.toolOf call).isSome := by
  induction calls using List.reverseRecOn with
  | nil => exact iff_of_true rfl (by simp)
  | append_singleton calls call ih =>
    have hbefore := ih fun code => (h code).prefix_of
    cases htool : r.toolOf call with
    | none =>
      obtain ⟨q, text, hstep, -⟩ := step_stray (p := r.pass calls) htool
      refine iff_of_false ?_ fun hall => ?_
      · rw [pass_append, hstep]
        simp [Pass.addTerminal]
      · have hcall := hall call (by simp)
        simp [htool] at hcall
    | some tool =>
      have hcounts : r.toolOf call = some tool.requirement.tool := by
        rw [htool, ReadTool.tool_requirement]
      have hfree := h tool.requirement calls call [] rfl hcounts
      rw [(((h tool.requirement).prefix_of.tracked.step hcounts).2 hfree).2, hbefore]
      simp [or_imp, forall_and, htool]

/-- Without a contradiction a snapshot has no terminal code exactly when no row is stray. -/
theorem terminalCodes_iff (h : ∀ code, r.Unclashed code calls) :
    (r.snapshot calls).terminalTriggerCodes = [] ↔ r.Unstrayed calls := by
  have hcodes : (r.snapshot calls).terminalTriggerCodes =
      (if r.pending.isSome ∧ ¬ (r.pass calls).retryOriginSeen then
        (r.pass calls).terminal ++ ["RETRY_ORIGIN_MISSING"]
      else (r.pass calls).terminal).eraseDups := rfl
  have hempty : ∀ codes : List String, codes.eraseDups = [] ↔ codes = [] := by
    intro codes
    rw [List.eq_nil_iff_forall_not_mem, List.eq_nil_iff_forall_not_mem]
    simp only [List.mem_eraseDups]
  have horigin : (r.pass calls).retryOriginSeen = true ↔ r.OriginSeen calls := locked_pass.origin
  rw [hcodes, hempty, Unstrayed, ← terminal_iff h, ← horigin]
  split
  · rename_i hmissing
    simp only [List.append_eq_nil_iff, List.cons_ne_nil, and_false, false_iff]
    exact fun hwhole => hmissing.2 (hwhole.2 hmissing.1)
  · rename_i hseen
    tauto

/-- A successful row of a requirement that is tracked supports it. -/
theorem Unclashed.supports (h : r.Unclashed code calls) (hcall : call ∈ calls)
    (htool : r.toolOf call = some code.tool) (hsucceeds : r.Succeeds call) :
    r.Supports (r.snapshot calls) code call where
  counts := htool
  success := hsucceeds.success
  available := hsucceeds.available
  listed := h.tracked.supports call (List.mem_filter.mpr ⟨hcall, by simpa using htool⟩)

/-- Of a row that contradicts nothing a success is one under its envelope and a reference. -/
theorem Unclashed.succeeds (h : r.Unclashed code calls) (hcall : call ∈ calls)
    (hsupports : r.Supports (r.snapshot calls) code call) : r.Succeeds call := by
  obtain ⟨before, after, hsplit⟩ := List.append_of_mem hcall
  by_contra hfails
  refine h before call after hsplit hsupports.counts (.inl (.inr ?_))
  rintro (hsucceeds | ⟨hstatus, -⟩)
  · exact hfails hsucceeds
  · rcases hstatus with hstatus | hstatus <;> simp [hsupports.success] at hstatus

/-- Where successes can be compared and none contradicts another, they agree. -/
theorem Unclashed.agree (h : r.Unclashed code calls) (hcomparable : r.Comparable code calls) :
    ∀ first ∈ r.answersTo code calls, ∀ second ∈ r.answersTo code calls, r.Succeeds first →
      r.Succeeds second → first.resultHash = second.resultHash ∧
        first.sourceVersion = second.sourceVersion := by
  induction calls using List.reverseRecOn with
  | nil => simp [answersTo]
  | append_singleton calls call ih =>
    have hcomparable' : r.Comparable code calls := fun before c after hsplit =>
      hcomparable before c (after ++ [call]) (by simp [hsplit])
    have hagree := ih h.prefix_of hcomparable'
    by_cases htool : r.toolOf call = some code.tool
    · have hnew : r.Succeeds call → ∀ earlier ∈ r.answersTo code calls, r.Succeeds earlier →
          earlier.resultHash = call.resultHash ∧ earlier.sourceVersion = call.sourceVersion := by
        intro hcall earlier hearlier hsucceeds
        by_contra hdiffer
        rw [not_and_or] at hdiffer
        obtain ⟨hnofail, hversioned⟩ :=
          hcomparable calls call [] rfl htool hcall earlier hearlier hsucceeds hdiffer
        -- No call failed, so the last one succeeded and the comparison was made.
        have hall : ∀ c ∈ r.answersTo code calls, r.Succeeds c := by
          intro c hc
          obtain ⟨hmem, hcounts⟩ := List.mem_filter.mp hc
          rw [decide_eq_true_eq] at hcounts
          obtain ⟨before, after, hsplit⟩ := List.append_of_mem hmem
          by_contra hfails
          refine h.prefix_of before c after hsplit hcounts (.inl (.inr ?_))
          rintro (hsucceeds | hfailed)
          · exact hfails hsucceeds
          · exact hnofail c hc hfailed
        obtain ⟨last, hlast⟩ : ∃ last, (r.answersTo code calls).getLast? = some last :=
          Option.isSome_iff_exists.mp (by
            rw [List.getLast?_isSome]
            exact List.ne_nil_of_mem hearlier)
        have hcarried : Carried ((r.answersTo code calls).map (·.resultHash)) call.resultHash ∧
            Carried ((r.answersTo code calls).map (·.sourceVersion)) call.sourceVersion := by
          by_contra hunknown
          exact h calls call [] rfl htool
            (.inr ⟨last, hlast, hall last (List.mem_of_getLast? hlast), hcall, hunknown⟩)
        have hhash : earlier.resultHash = call.resultHash := by
          rcases hcarried.1 with hnone | ⟨-, hmem⟩
          · have hblank := hnone _ (List.mem_map_of_mem hearlier)
            exact absurd (hsucceeds.envelope.trans hblank) hsucceeds.parsed
          · obtain ⟨c, hc, hsame⟩ := List.mem_map.mp hmem
            exact (hagree earlier hearlier c hc hsucceeds (hall c hc)).1.trans hsame
        have hversion : earlier.sourceVersion = call.sourceVersion := by
          rcases hcarried.2 with hnone | ⟨-, hmem⟩
          · exact absurd (hnone _ (List.mem_map_of_mem hearlier)) hversioned
          · obtain ⟨c, hc, hsame⟩ := List.mem_map.mp hmem
            exact (hagree earlier hearlier c hc hsucceeds (hall c hc)).2.trans hsame
        exact hdiffer.elim (fun hne => hne hhash) fun hne => hne hversion
      rw [answersTo_append htool]
      intro first hfirst second hsecond hfirstSucceeds hsecondSucceeds
      rw [List.mem_append, List.mem_singleton] at hfirst hsecond
      rcases hfirst with hfirst | rfl <;> rcases hsecond with hsecond | rfl
      · exact hagree first hfirst second hsecond hfirstSucceeds hsecondSucceeds
      · exact hnew hsecondSucceeds first hfirst hfirstSucceeds
      · obtain ⟨hhash, hversion⟩ := hnew hfirstSucceeds second hsecond hsecondSucceeds
        exact ⟨hhash.symm, hversion.symm⟩
      · exact ⟨rfl, rfl⟩
    · rw [answersTo_other _ htool]
      exact hagree

/-- The reducer means what it says exactly on the histories it can be trusted on. -/
theorem sound_iff (r : Replay) (calls : List HistoryCall) :
    r.Sound calls ↔ r.Trustworthy calls := by
  constructor
  · intro h
    refine ⟨sticks_iff.mp h.sticks, fun hcomplete => ⟨?_, fun code hcode => ?_⟩⟩
    · exact (terminalCodes_iff hcomplete.1).mp
        (h.noTerminal (h.sticks.evaluable_iff.mpr hcomplete))
    · obtain ⟨resultHash, sourceVersion, hagrees⟩ :=
        h.agrees (h.sticks.evaluable_iff.mpr hcomplete) code hcode
      intro before call after hsplit htool hcall earlier hearlier hsucceeds hdiffer
      obtain ⟨hmem, hcounts⟩ := List.mem_filter.mp hearlier
      rw [decide_eq_true_eq] at hcounts
      have hfirst := hagrees earlier (by simp [hsplit, hmem])
        ((hcomplete.1 code).supports (by simp [hsplit, hmem]) hcounts hsucceeds)
      have hsecond := hagrees call (by simp [hsplit])
        ((hcomplete.1 code).supports (by simp [hsplit]) htool hcall)
      rw [hfirst.1, hsecond.1, hfirst.2.1, hsecond.2.1] at hdiffer
      exact absurd hdiffer (by simp)
  · intro h
    have hsticks := sticks_iff.mpr h.conflictsLast
    refine ⟨fun hevaluable => ?_, fun hevaluable code hcode => ?_, hsticks⟩
    · have hcomplete := hsticks.evaluable_iff.mp hevaluable
      exact (terminalCodes_iff hcomplete.1).mpr (h.whole hcomplete).1
    · have hcomplete := hsticks.evaluable_iff.mp hevaluable
      obtain ⟨last, hlast, hsucceeds⟩ := hcomplete.2 code hcode
      have hlastMem := List.mem_of_getLast? hlast
      have hagree := (hcomplete.1 code).agree ((h.whole hcomplete).2 code hcode)
      obtain ⟨resultHash, hhash⟩ : ∃ resultHash, last.resultHash = some resultHash :=
        Option.ne_none_iff_exists'.mp fun hnone =>
          hsucceeds.parsed (hsucceeds.envelope.trans hnone)
      refine ⟨resultHash, last.sourceVersion, fun call hcall hsupports => ?_⟩
      have hcallSucceeds := (hcomplete.1 code).succeeds hcall hsupports
      have hcallMem : call ∈ r.answersTo code calls :=
        List.mem_filter.mpr ⟨hcall, by simpa using hsupports.counts⟩
      obtain ⟨hsame, hversion⟩ := hagree call hcallMem last hlastMem hcallSucceeds hsucceeds
      have hcallHash := hsame.trans hhash
      exact ⟨hcallHash, hversion, hcallSucceeds.envelope.trans hcallHash,
        hcallSucceeds.referenced⟩

/-! ### A success that is forgotten -/

/-- A row of the replay, with its hash in the place of its version. -/
def row (serial : Nat) (tool : ReadTool) (status : ExecutionStatus)
    (availability : EvidenceAvailability) (hash : String) : HistoryCall where
  toolCallId := ⟨"RUN-1", serial⟩
  caseId := some "CASE-1"
  runId := some "RUN-1"
  toolName := .ok tool
  normalizedArgs := ⟨"ORD-1", none⟩
  attemptNumber := 1
  actualExecution := true
  executionStatus := some status
  evidenceAvailability := some availability
  envelopeHash := some hash
  resultHash := some hash
  sourceVersion := some hash

/-- The order is read, is unavailable once, and is read again with another result. -/
def forgetfulRows : List HistoryCall :=
  [row 1 .getOrderContext .success .present "order-a",
    row 2 .getOrderContext .nonRetryableError .unavailable "order-failed",
    row 3 .getOrderContext .success .present "order-b",
    row 4 .getLogisticsTimeline .success .present "timeline",
    row 5 .searchAfterSalesPolicy .success .present "policy",
    row 6 .getExistingLogisticsTickets .success .absent "tickets"]

/-- Each of the rows is referenced. -/
def forgetful : Replay where
  caseId := "CASE-1"
  runId := "RUN-1"
  issueType := .stalledTracking
  refs := forgetfulRows.filterMap fun call =>
    call.resultHash.map fun hash => ⟨call.toolCallId, "QUERY", none, 0, hash⟩
  pending := none

/-- The snapshot is evaluable, and two results that differ support the order. -/
theorem forgetful_unsound : (forgetful.snapshot forgetfulRows).gateReadiness = .evaluable ∧
    ¬ forgetful.Sound forgetfulRows := by
  have hevaluable : (forgetful.snapshot forgetfulRows).gateReadiness = .evaluable := by
    decide +kernel
  refine ⟨hevaluable, fun h => ?_⟩
  obtain ⟨resultHash, sourceVersion, hagrees⟩ := h.agrees hevaluable .orderStatus (by decide)
  have hfirst := hagrees (row 1 .getOrderContext .success .present "order-a") (by simp [forgetfulRows])
    ⟨by decide, rfl, .inl rfl, by decide +kernel⟩
  have hsecond := hagrees (row 3 .getOrderContext .success .present "order-b")
    (by simp [forgetfulRows]) ⟨by decide, rfl, .inl rfl, by decide +kernel⟩
  have hsame := hfirst.1.trans hsecond.1.symm
  exact absurd hsame (by decide)

end Replay

end AfterSales.EvidenceProgressReducer
