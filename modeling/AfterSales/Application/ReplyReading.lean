import AfterSales.Application.Session
import AfterSales.CaseFacts.Projection

/-! Two readings of one reply: what the customer submitted, and what is stored of it.

        submitted ── first outstanding fact ──▶ candidate ──┐
           │ redaction                                      ├──▶ accepted, if they are the same
        stored ───── last question ───────────▶ reading ────┘

    The candidate spans the whole submitted text, the reading the whole stored text. -/

namespace AfterSales
open Interleave Repository CaseFactService

variable [CaseFolding]

/-! ### The reading of a text -/

/-- How a value relates to the active assertions of its fact, given the cues of the text; `none` is
    a correction that corrects nothing. -/
def relationOf (value : FactValue) (sameFact : List CaseFactAssertion) (withdraws corrects : Bool) :
    Option (RelationHint × Option String) :=
  match sameFact.getLast? with
  | none => some (.new, none)
  | some latest =>
    if value = .unknown ∧ withdraws then some (.withdrawal, some latest.assertionId)
    else if corrects then
      if value = .unknown ∨ latest.value = .unknown ∨ latest.value = value then none
      else some (.correction, some latest.assertionId)
    else if sameFact.any (·.value = value) then some (.repeated, none)
    else some (.new, none)

variable {content : String} {code : FactCode} {active : List CaseFactAssertion}
  {proof : Option DeliveryProofFactContext} {c : CaseFactCandidate}

omit [CaseFolding] in
/-- A text that is not blank has a length. -/
theorem length_pos_of_not_blank (h : isBlank content = false) : 0 < content.length := by
  rw [← String.length_toList]
  refine List.length_pos_iff.mpr fun hnil => ?_
  simp [isBlank, hnil] at h

/-- What is read in a text. -/
structure ReadAs (content : String) (code : FactCode) (active : List CaseFactAssertion)
    (proof : Option DeliveryProofFactContext) (c : CaseFactCandidate) : Prop where
  readable : isBlank content = false
  factCode : c.factCode = code
  value : supportedValue (CaseFolding.casefold content) code proof.isSome = .ok c.value
  relation : relationOf c.value (active.filter (·.factCode = code))
      (mentions (CaseFolding.casefold content) withdrawalCues)
      (mentions (CaseFolding.casefold content) correctionCues)
    = some (c.relationHint, c.targetAssertionId)
  start : c.sourceSpan.start = 0
  stop : c.sourceSpan.stop = content.length

/-- A text that is interpreted is read as its interpretation, -/
theorem ReadAs.of_interpretation
    (h : authoritativeInterpretation content code active proof = .ok c) :
    ReadAs content code active proof c := by
  rw [authoritativeInterpretation] at h
  simp only at h
  split at h
  · cases h
  rename_i hblank
  split at h
  · cases h
  rename_i value hvalue
  split at h
  · rename_i hpos
    split at h
    · rename_i hlatest
      obtain rfl := Except.ok.inj h
      exact ⟨by simpa using hblank, rfl, hvalue, by simp [relationOf, hlatest], rfl, rfl⟩
    · rename_i latest hlatest
      split at h
      · rename_i hwithdraws
        obtain rfl := Except.ok.inj h
        exact ⟨by simpa using hblank, rfl, hvalue, by simp [relationOf, hlatest, hwithdraws],
          rfl, rfl⟩
      · rename_i hwithdraws
        split at h
        · rename_i hcorrects
          split at h
          · cases h
          · rename_i hmeant
            obtain rfl := Except.ok.inj h
            refine ⟨by simpa using hblank, rfl, hvalue, ?_, rfl, rfl⟩
            simp only [relationOf, hlatest]
            rw [if_neg hwithdraws, if_pos hcorrects, if_neg hmeant]
        · rename_i hcorrects
          split at h
          · rename_i hrepeats
            obtain rfl := Except.ok.inj h
            refine ⟨by simpa using hblank, rfl, hvalue, ?_, rfl, rfl⟩
            simp only [relationOf, hlatest]
            rw [if_neg hwithdraws, if_neg hcorrects, if_pos hrepeats]
          · rename_i hrepeats
            obtain rfl := Except.ok.inj h
            refine ⟨by simpa using hblank, rfl, hvalue, ?_, rfl, rfl⟩
            simp only [relationOf, hlatest]
            rw [if_neg hwithdraws, if_neg hcorrects, if_neg hrepeats]
  · cases h

/-- A text is read as one candidate at most. -/
theorem ReadAs.unique {c' : CaseFactCandidate} (h : ReadAs content code active proof c)
    (h' : ReadAs content code active proof c') : c' = c := by
  have hcode : c'.factCode = c.factCode := h'.factCode.trans h.factCode.symm
  have hvalue : c'.value = c.value := Except.ok.inj (h'.value.symm.trans h.value)
  have hrelation : c'.relationHint = c.relationHint ∧ c'.targetAssertionId = c.targetAssertionId := by
    have hsame := h'.relation
    rw [hvalue, h.relation, Option.some.injEq, Prod.mk.injEq] at hsame
    exact ⟨hsame.1.symm, hsame.2.symm⟩
  have hstart : c'.sourceSpan.start = c.sourceSpan.start := h'.start.trans h.start.symm
  have hstop : c'.sourceSpan.stop = c.sourceSpan.stop := h'.stop.trans h.stop.symm
  obtain ⟨code₁, value₁, hint₁, target₁, ⟨start₁, stop₁, _⟩, _, _⟩ := c
  obtain ⟨code₂, value₂, hint₂, target₂, ⟨start₂, stop₂, _⟩, _, _⟩ := c'
  simp only at hcode hvalue hrelation hstart hstop
  obtain ⟨rfl, rfl⟩ := hrelation
  subst hcode hvalue hstart hstop
  rfl

/-- and the interpretation of a text that is read is what it is read as. -/
theorem ReadAs.interpretation (h : ReadAs content code active proof c) :
    authoritativeInterpretation content code active proof = .ok c := by
  cases hread : authoritativeInterpretation content code active proof with
  | ok c' => rw [h.unique (.of_interpretation hread)]
  | error e =>
    exfalso
    have hrelation := h.relation
    rw [authoritativeInterpretation] at hread
    simp only [h.readable, h.value, length_pos_of_not_blank h.readable, dif_pos,
      Bool.false_eq_true, if_false] at hread
    cases hlatest : (active.filter (·.factCode = code)).getLast? with
    | none => simp [hlatest] at hread
    | some latest =>
      simp only [hlatest, relationOf] at hread hrelation
      split at hread
      · cases hread
      · rename_i hwithdraws
        rw [if_neg hwithdraws] at hrelation
        split at hread
        · rename_i hcorrects
          rw [if_pos hcorrects] at hrelation
          split at hread
          · rename_i hmeant
            rw [if_pos hmeant] at hrelation
            cases hrelation
          · cases hread
        · split at hread <;> cases hread

/-! ### Two texts read alike -/

/-- The text is read as taking back, or as correcting, what was said. -/
def withdraws (content : String) : Bool := mentions (CaseFolding.casefold content) withdrawalCues
def corrects (content : String) : Bool := mentions (CaseFolding.casefold content) correctionCues

/-- What a text says about a fact: a value, or why it says none. -/
def valueOf (content : String) (code : FactCode) (hasProof : Bool) :
    Except CaseFactError FactValue :=
  supportedValue (CaseFolding.casefold content) code hasProof

/-- The stored text says of a fact what the submitted one does, at the same length: the same value,
    and beside an earlier assertion the same withdrawal or correction. -/
structure SaysAlike (stored submitted : String) (code : FactCode) (hasProof : Bool)
    (sameFact : List CaseFactAssertion) : Prop where
  readable : isBlank stored = false
  length : stored.length = submitted.length
  value : valueOf stored code hasProof = valueOf submitted code hasProof
  withdrawal : sameFact ≠ [] → valueOf submitted code hasProof = .ok .unknown →
    withdraws stored = withdraws submitted
  correction : sameFact ≠ [] →
    ¬ (valueOf submitted code hasProof = .ok .unknown ∧ withdraws submitted = true) →
    corrects stored = corrects submitted

/-- A text that is stored as it was submitted says the same. -/
theorem SaysAlike.refl {hasProof : Bool} {sameFact : List CaseFactAssertion}
    (h : isBlank content = false) : SaysAlike content content code hasProof sameFact :=
  ⟨h, rfl, rfl, fun _ _ => rfl, fun _ _ => rfl⟩

section Relation

variable {value : FactValue} {sameFact : List CaseFactAssertion} {w w' k k' : Bool}
  {hint : RelationHint} {target : Option String}

omit [CaseFolding] in
/-- Beside an earlier assertion the hint of a relation tells the cues that led to it. -/
theorem relationOf_hint (hsome : sameFact ≠ [])
    (h : relationOf value sameFact w k = some (hint, target)) :
    (hint = .withdrawal ↔ value = .unknown ∧ w = true) ∧
      (hint = .correction ↔ ¬ (value = .unknown ∧ w = true) ∧ k = true) := by
  obtain ⟨latest, hlatest⟩ := Option.isSome_iff_exists.mp (List.getLast?_isSome.mpr hsome)
  simp only [relationOf, hlatest] at h
  split at h
  · rename_i hw
    obtain ⟨rfl, -⟩ := Prod.mk.inj (Option.some.inj h)
    simp [hw]
  · rename_i hw
    split at h
    · rename_i hk
      split at h
      · cases h
      · obtain ⟨rfl, -⟩ := Prod.mk.inj (Option.some.inj h)
        simp [hw, hk]
    · rename_i hk
      split at h <;> obtain ⟨rfl, -⟩ := Prod.mk.inj (Option.some.inj h) <;> simp [hw, hk]

omit [CaseFolding] in
/-- The relation of a reply depends on its cues where an earlier assertion stands. -/
theorem relationOf_congr (h : relationOf value sameFact w k = some (hint, target)) :
    relationOf value sameFact w' k' = some (hint, target) ↔
      (sameFact ≠ [] → value = .unknown → w' = w) ∧
        (sameFact ≠ [] → ¬ (value = .unknown ∧ w = true) → k' = k) := by
  constructor
  · intro h'
    refine ⟨fun hsome hvalue => ?_, fun hsome hstays => ?_⟩
    · have hsame := (relationOf_hint hsome h').1.symm.trans (relationOf_hint hsome h).1
      exact Bool.eq_iff_iff.mpr (by simpa [hvalue] using hsame)
    · have hw := (relationOf_hint hsome h').1.symm.trans (relationOf_hint hsome h).1
      have hk := (relationOf_hint hsome h').2.symm.trans (relationOf_hint hsome h).2
      rw [hw] at hk
      exact Bool.eq_iff_iff.mpr (by simpa [hstays] using hk)
  · rintro ⟨hw, hk⟩
    rw [← h]
    by_cases hsome : sameFact = []
    · simp [relationOf, hsome]
    obtain ⟨latest, hlatest⟩ := Option.isSome_iff_exists.mp (List.getLast?_isSome.mpr hsome)
    have hcues : (value = .unknown ∧ w' = true) ↔ (value = .unknown ∧ w = true) :=
      and_congr_right fun hvalue => by rw [hw hsome hvalue]
    simp only [relationOf, hlatest, hcues]
    by_cases hstays : value = .unknown ∧ w = true
    · rw [if_pos hstays, if_pos hstays]
    · rw [if_neg hstays, if_neg hstays, hk hsome hstays]

omit [CaseFolding] in
/-- What a relation replaces is an earlier assertion of the fact. -/
theorem relationOf_target {id : String}
    (h : relationOf value sameFact w k = some (hint, some id)) :
    ∃ a ∈ sameFact, a.assertionId = id := by
  rw [relationOf] at h
  split at h
  · cases h
  · rename_i latest hlatest
    refine ⟨latest, List.mem_of_getLast? hlatest, ?_⟩
    split at h
    · exact Option.some.inj (Prod.mk.inj (Option.some.inj h)).2
    · split at h
      · split at h
        · cases h
        · exact Option.some.inj (Prod.mk.inj (Option.some.inj h)).2
      · split at h <;> cases h

end Relation

/-- A text is read as what another one is read as exactly when it says alike. -/
theorem readAs_congr {stored submitted : String} (h : ReadAs submitted code active proof c) :
    ReadAs stored code active proof c ↔
      SaysAlike stored submitted code proof.isSome (active.filter (·.factCode = code)) := by
  have hunknown : valueOf submitted code proof.isSome = .ok .unknown ↔ c.value = .unknown := by
    rw [valueOf, h.value, Except.ok.injEq]
  constructor
  · intro h'
    have hrelation := (relationOf_congr h.relation).mp h'.relation
    exact
      { readable := h'.readable
        length := h'.stop.symm.trans h.stop
        value := h'.value.trans h.value.symm
        withdrawal := fun hsome hvalue => hrelation.1 hsome (hunknown.mp hvalue)
        correction := fun hsome hstays => hrelation.2 hsome fun hw =>
          hstays ⟨hunknown.mpr hw.1, hw.2⟩ }
  · intro halike
    exact
      { readable := halike.readable
        factCode := h.factCode
        value := halike.value.trans h.value
        relation := (relationOf_congr h.relation).mpr
          ⟨fun hsome hvalue => halike.withdrawal hsome (hunknown.mpr hvalue),
            fun hsome hstays => halike.correction hsome fun hw =>
              hstays ⟨hunknown.mp hw.1, hw.2⟩⟩
        start := h.start
        stop := h.stop.trans halike.length.symm }

/-! ### The assertions that both readings see -/

variable [PolicyDigest] [FactDigest] {l : ConversationStore} {s : SharedState} {caseId : RowId}
  {f : CaseFolder}

/-- An assertion replaces one of its own fact. -/
theorem FactLedger.target_factCode (h : FactLedger l caseId f) {a b : CaseFactAssertion}
    (ha : a ∈ f.assertions) (hb : b ∈ f.assertions)
    (htarget : b.supersedesAssertionId = some a.assertionId) : a.factCode = b.factCode := by
  obtain ⟨i, hi⟩ := List.mem_iff_getElem?.mp hb
  obtain ⟨m, proof, candidate, -, hreads⟩ := h.readings i b hi
  have hrelation := (ReadAs.of_interpretation hreads.interpretation).relation
  rw [← hreads.target, htarget] at hrelation
  obtain ⟨latest, hlatest, hid⟩ := relationOf_target hrelation
  simp only [activeAssertions, List.mem_filter, decide_eq_true_eq] at hlatest
  have hmem : latest ∈ f.assertions := List.mem_of_mem_take hlatest.1.1
  obtain rfl := List.inj_on_of_nodup_map h.history.ids hmem ha hid
  exact hlatest.2

omit [CaseFolding] [PolicyDigest] [FactDigest] in
/-- The entry of a fact in a projection. -/
theorem rebuildProjection_facts {assertions : List CaseFactAssertion}
    {questions : List FactQuestion} {proof : Option DeliveryProofFactContext}
    {s : CaseFactProjection} (h : rebuildProjection caseId assertions questions proof = .ok s)
    (code : FactCode) : ∃ invalid, s.facts code
      = entryFor code ((recorded assertions).filter (·.factCode = code)) proof invalid := by
  simp only [rebuildProjection, recorded_def] at h
  by_cases hnumbers : (recorded assertions).map (·.assertionSequence)
      = List.range' 1 (recorded assertions).length
  · simp only [hnumbers, ne_eq, not_true_eq_false, if_false] at h
    obtain ⟨scan, -, h⟩ := of_bind_ok h
    obtain ⟨missing, -, h⟩ := of_bind_ok h
    obtain ⟨location, -, h⟩ := of_bind_ok h
    obtain rfl := Except.ok.inj h
    exact ⟨_, rfl⟩
  · simp only [ne_eq, hnumbers, not_false_eq_true, if_true] at h
    cases h

/-- The assertions that a snapshot calls active are those that the history leaves of a fact. -/
theorem FactLedger.active_eq {snapshot : CaseFactSnapshot} (h : FactLedger l caseId f)
    (hrebuilt : rebuildFolder l caseId f = .ok snapshot) (code : FactCode) :
    (f.assertions.filter fun a => a.assertionId ∈ (snapshot.facts code).activeAssertionIds).filter
        (·.factCode = code)
      = (activeAssertions f.assertions).filter (·.factCode = code) := by
  have hentry : (snapshot.facts code).activeAssertionIds
      = (activeAssertions (f.assertions.filter (·.factCode = code))).map (·.assertionId) := by
    rw [rebuildFolder_eq h.history] at hrebuilt
    obtain ⟨projection, hprojection, hsnapshot⟩ := of_bind_ok hrebuilt
    obtain rfl := Except.ok.inj hsnapshot
    obtain ⟨invalid, hfacts⟩ := rebuildProjection_facts hprojection code
    have hrecorded : recorded f.assertions = f.assertions := assertions_sorted h.history.sequence
    simp only [hfacts, hrecorded, entryFor]
  have hactive : activeAssertions f.assertions = f.assertions.filter fun a =>
      a.assertionId ∉ f.assertions.filterMap (·.supersedesAssertionId) := rfl
  rw [hentry, hactive, List.filter_filter, List.filter_filter]
  refine List.filter_congr fun a ha => ?_
  rw [Bool.eq_iff_iff]
  simp only [Bool.and_eq_true, decide_eq_true_eq]
  refine and_congr_right fun hcode => ?_
  have hself : a.assertionId ∈ (activeAssertions (f.assertions.filter (·.factCode = code))).map
      (·.assertionId) ↔ a ∈ activeAssertions (f.assertions.filter (·.factCode = code)) := by
    refine ⟨fun hmem => ?_, List.mem_map_of_mem⟩
    obtain ⟨b, hb, hid⟩ := List.mem_map.mp hmem
    have hb' : b ∈ f.assertions := (List.mem_filter.mp (List.mem_filter.mp hb).1).1
    rwa [← List.inj_on_of_nodup_map h.history.ids hb' ha hid]
  rw [hself]
  simp only [activeAssertions, List.mem_filter, List.mem_filterMap, decide_eq_true_eq, ha, hcode,
    and_self, true_and, not_exists, not_and, and_imp]
  constructor
  · intro hkept b hb htarget
    exact hkept b hb ((h.target_factCode ha hb htarget).symm.trans hcode) htarget
  · intro hkept b hb _ htarget
    exact hkept b hb htarget

/-! ### What becomes of a reply -/

variable {question : FactQuestion} {message : MessageRow} {snapshot : CaseFactSnapshot}
  {stored submitted : String}

omit [PolicyDigest] [FactDigest] in
/-- The candidate that a message bound to the case is accepted for is what its text is read as. -/
theorem validateCandidate_ok_iff (caseId : RowId) : (∃ bound, validateCandidate c caseId (some caseId) true stored
      code active proof = .ok bound) ↔ c.factCode = code ∧ ReadAs stored code active proof c := by
  constructor
  · rintro ⟨bound, hvalid⟩
    have hread := ReadAs.of_interpretation (validateCandidate_ok hvalid).1
    exact ⟨hread.factCode, hread⟩
  · rintro ⟨hcode, hread⟩
    rw [validateCandidate, if_neg (by simp), if_neg (not_not.mpr hcode), hread.interpretation]
    simp only [ne_eq, not_true_eq_false, if_false]
    split
    · exact ⟨_, rfl⟩
    · exact ⟨_, rfl⟩

/-- Nothing is read in the submitted text, or the question is about the fact it is read for, and
    the stored text says the same of this fact. -/
def ReadsAlike (f : CaseFolder) (snapshot : CaseFactSnapshot) (question : FactQuestion)
    (code : FactCode) (stored submitted : String) : Prop :=
  extractCandidates f snapshot code submitted = [] ∨ code = question.factCode ∧
    SaysAlike stored submitted code (proofContext f.toolCalls).isSome
      ((activeAssertions f.assertions).filter (·.factCode = code))

omit [PolicyDigest] [FactDigest] in
/-- A reading rests on the assertions of its fact. -/
theorem ReadAs.of_sameFact {active' : List CaseFactAssertion}
    (h : active.filter (·.factCode = code) = active'.filter (·.factCode = code)) :
    ReadAs content code active proof c ↔ ReadAs content code active' proof c := by
  constructor
  · rintro ⟨hreadable, hcode, hvalue, hrelation, hstart, hstop⟩
    exact ⟨hreadable, hcode, hvalue, h ▸ hrelation, hstart, hstop⟩
  · rintro ⟨hreadable, hcode, hvalue, hrelation, hstart, hstop⟩
    exact ⟨hreadable, hcode, hvalue, h ▸ hrelation, hstart, hstop⟩

omit [FactDigest] in
/-- What is extracted from a text is nothing, or what the text is read as. -/
theorem extractCandidates_cases : extractCandidates f snapshot code submitted = [] ∨
    ∃ c, extractCandidates f snapshot code submitted = [c] ∧ ReadAs submitted code
      (f.assertions.filter fun a => a.assertionId ∈ (snapshot.facts code).activeAssertionIds)
      (proofContext f.toolCalls) c := by
  rw [extractCandidates, interpretCustomerReply]
  cases hread : authoritativeInterpretation submitted code
      (f.assertions.filter fun a => a.assertionId ∈ (snapshot.facts code).activeAssertionIds)
      (proofContext f.toolCalls) with
  | error e => exact .inl rfl
  | ok c => exact .inr ⟨c, rfl, .of_interpretation hread⟩

omit [FactDigest] in
/-- A reply that is stored as it was submitted reads alike, where its fact was asked last. -/
theorem ReadsAlike.of_unredacted (h : code = question.factCode) :
    ReadsAlike f snapshot question code submitted submitted := by
  rcases extractCandidates_cases with hempty | ⟨c, -, hread⟩
  · exact .inl hempty
  · exact .inr ⟨h, .refl hread.readable⟩

/-- The decision about an extracted batch accepts it, or finds it empty, exactly when the two
    texts read alike. -/
theorem mergeBatch_recorded_iff {assertion : Option CaseFactAssertion}
    {decision : FactMergeDecision} (h : FactLedger l caseId f)
    (hrebuilt : rebuildFolder l caseId f = .ok snapshot) (hbound : message.caseId = some caseId)
    (hmerge : mergeBatch caseId f question message
      (.ofCandidates (extractCandidates f snapshot code submitted)) = .ok (assertion, decision)) :
    (decision.accepted = true ∨ decision.reasonCode = "NO_CANDIDATES") ↔
      ReadsAlike f snapshot question code message.content submitted := by
  rcases extractCandidates_cases with hempty | ⟨c, hone, hread⟩
  · rw [hempty] at hmerge
    obtain ⟨-, rfl⟩ := Prod.mk.inj (Except.ok.inj hmerge)
    exact iff_of_true (.inr rfl) (.inl hempty)
  · have hsubmitted : ReadAs submitted code (activeAssertions f.assertions)
        (proofContext f.toolCalls) c :=
      (ReadAs.of_sameFact (h.active_eq hrebuilt code)).mp hread
    have halike : ReadsAlike f snapshot question code message.content submitted ↔
        c.factCode = question.factCode ∧ ReadAs message.content question.factCode
          (activeAssertions f.assertions) (proofContext f.toolCalls) c := by
      rw [ReadsAlike, hone, or_iff_right (List.cons_ne_nil _ _), hsubmitted.factCode]
      refine and_congr_right fun hsame => ?_
      subst hsame
      exact (readAs_congr hsubmitted).symm
    rw [halike, ← validateCandidate_ok_iff caseId]
    rw [hone, mergeBatch] at hmerge
    have hparsed : validateCandidateBatch (UntrustedBatch.ofCandidates [c]).items = .ok [c] := rfl
    simp only [hparsed, hbound] at hmerge
    cases hvalid : validateCandidate c caseId (some caseId) true message.content
        question.factCode (activeAssertions f.assertions) (proofContext f.toolCalls) with
    | error e =>
      simp only [hvalid] at hmerge
      obtain ⟨-, rfl⟩ := Prod.mk.inj (Except.ok.inj hmerge)
      simp
    | ok bound =>
      simp only [hvalid] at hmerge
      obtain ⟨a, -, hdecided⟩ := of_bind_ok hmerge
      obtain ⟨-, rfl⟩ := Prod.mk.inj (Except.ok.inj hdecided)
      simp

/-- The case has a history, and waits for the reply to its last question. -/
structure AwaitsReply (x : ServiceState) (caseId : RowId) (f : CaseFolder)
    (question : FactQuestion) : Prop where
  run : FactRun x caseId f
  state : f.row.caseState = .awaitingCustomerInput
  asked : f.questions.getLast? = some question
  unconsumed : consumptionForQuestion f question.questionId = none

/-- The reply is accepted, or nothing was read in it. -/
def Recorded (x : ServiceState) (caseId messageId : RowId) (candidates : List CaseFactCandidate) :
    Prop :=
  ∃ answer x', acceptMessage caseId messageId (.ofCandidates candidates) x = .ok (answer, x') ∧
    (answer.2.accepted = true ∨ answer.2.reasonCode = "NO_CANDIDATES")

/-- The state in which a reply has just been stored. -/
def replied (x : ServiceState) (caseId : RowId) (reply : MessageRow) : ServiceState :=
  (HistoryEvent.fact (.message reply)).apply caseId x

/-- A stored reply is the current one of its case, and nothing has read it. -/
theorem AwaitsReply.accepts {x : ServiceState} (h : AwaitsReply x caseId f question)
    (reply : MessageRow) (batch : UntrustedBatch) (hnew : x.1.getMessage reply.messageId = none)
    (hbound : reply.caseId = some caseId) (hlater : question.askedAt < reply.createdAt) :
    FactRun (replied x caseId reply) caseId f ∧
      (replied x caseId reply).1.getMessage reply.messageId = some reply ∧
      consumptionForMessage f reply.messageId = none ∧
      acceptMessage caseId reply.messageId batch (replied x caseId reply)
        = consume caseId f question reply batch (replied x caseId reply) := by
  have hreplied : replied x caseId reply = ({ x.1 with messages := x.1.messages ++ [reply] }, x.2) := by
    rw [replied, HistoryEvent.apply, FactEvent.apply, if_neg (by simp [hnew])]
  have hrun : FactRun (replied x caseId reply) caseId f := by
    rw [hreplied]
    exact ⟨h.run.folder, h.run.ledger.elsewhere rfl rfl rfl rfl fun id m hm _ =>
      getMessage_append rfl hm⟩
  have hfound : (replied x caseId reply).1.getMessage reply.messageId = some reply := by
    rw [ConversationStore.getMessage] at hnew
    rw [hreplied]
    simp [ConversationStore.getMessage, List.find?_append, hnew]
  have hcurrent : ((replied x caseId reply).1.customerMessages caseId).getLast?.map (·.messageId)
      = some reply.messageId := by
    rw [hreplied]
    simp [ConversationStore.customerMessages, List.filter_append, hbound]
  have hunread : consumptionForMessage f reply.messageId = none := by
    refine List.find?_eq_none.mpr fun c hc hsource => ?_
    have hverified := h.run.ledger.history.consumed c hc
    rw [consumptionVerified, of_decide_eq_true hsource, hnew] at hverified
    cases hverified
  refine ⟨hrun, hfound, hunread, ?_⟩
  rw [acceptMessage, Transaction.bind_ok (requireCase_ok hrun.folder),
    Transaction.bind_ok (rejectIf_ok (not_not.mpr h.state)), Transaction.bind_ok rfl, hfound,
    h.asked]
  simp only [requireFact, pure_bind, hunread]
  rw [acceptFresh, Transaction.bind_ok (rejectIf_ok (by simp [h.unconsumed])),
    Transaction.bind_ok (rejectIf_ok (not_not.mpr hbound)),
    Transaction.bind_ok (rejectIf_ok (not_le.mpr hlater)), Transaction.bind_ok rfl,
    Transaction.bind_ok (rejectIf_ok (not_not.mpr hcurrent))]

/-- A stored reply is recorded, or found empty, exactly when the two texts read alike. -/
theorem AwaitsReply.recorded_iff {x : ServiceState} {reply : MessageRow}
    (h : AwaitsReply x caseId f question) (hnew : x.1.getMessage reply.messageId = none)
    (hbound : reply.caseId = some caseId) (hlater : question.askedAt < reply.createdAt)
    (hr : Rebuilt (replied x caseId reply).1 caseId f snapshot)
    (houtstanding : outstandingCode snapshot = some code) :
    Recorded (replied x caseId reply) caseId reply.messageId
        (extractCandidates f snapshot code submitted) ↔
      ReadsAlike f snapshot question code reply.content submitted := by
  obtain ⟨hrun, hfound, hunread, haccept⟩ := h.accepts reply
    (.ofCandidates (extractCandidates f snapshot code submitted)) hnew hbound hlater
  have hproof : ∀ c, some c ∈ (UntrustedBatch.ofCandidates
      (extractCandidates f snapshot code submitted)).items →
      c.factCode = .reportedDeliveryLocationChecked → (proofContext f.toolCalls).isSome := by
    intro c hc
    obtain ⟨c', hc', hsame⟩ := List.mem_map.mp hc
    obtain rfl := Option.some.inj hsame
    exact extractCandidates_proof hr houtstanding c' hc'
  obtain ⟨assertion, decision, hmerge⟩ : ∃ assertion decision, mergeBatch caseId f question reply
      (.ofCandidates (extractCandidates f snapshot code submitted)) = .ok (assertion, decision) :=
    mergeBatch_total hproof
  obtain ⟨snapshot', hconsume, -⟩ := consume_ok (s := (replied x caseId reply).2) hrun.folder
    hrun.ledger.history hfound hbound (List.mem_of_getLast? h.asked) h.unconsumed hunread hmerge
  rw [← mergeBatch_recorded_iff hrun.ledger hr.rebuilt hbound hmerge, Recorded, haccept]
  constructor
  · rintro ⟨answer, x', hanswer, hdecided⟩
    obtain ⟨rfl, -⟩ := Prod.mk.inj (Except.ok.inj (hanswer.symm.trans hconsume))
    exact hdecided
  · intro hdecided
    exact ⟨_, _, hconsume, hdecided⟩

/-- In whatever a case has come to, the candidates extracted from a valid reply to its unconsumed
    question are accepted, or there are none, exactly when the stored text reads like the submitted
    one. -/
theorem reply_recorded_iff [MessageRedaction] {s : SharedState} {row : CaseRow}
    {events : List HistoryEvent}
    (hf : (historyRun caseId (factsCreated l s caseId row) events).1.folders caseId = some f)
    (hstate : f.row.caseState = .awaitingCustomerInput)
    (hasked : f.questions.getLast? = some question)
    (hunconsumed : consumptionForQuestion f question.questionId = none) {messageId : RowId}
    (hnew : (historyRun caseId (factsCreated l s caseId row) events).1.getMessage messageId = none)
    {now : Instant} (hlater : question.askedAt < now) (content : String) :
    ∀ validated ∈ validateCustomerMessage content,
      let x := replied (historyRun caseId (factsCreated l s caseId row) events) caseId
        ⟨messageId, some caseId, validated.traceContent, now⟩
      ∃ snapshot, rebuildFolder x.1 caseId f = .ok snapshot ∧
        ∀ code, outstandingCode snapshot = some code →
          (Recorded x caseId messageId (extractCandidates f snapshot code validated.content) ↔
            ReadsAlike f snapshot question code validated.traceContent validated.content) := by
  intro validated _ x
  have hstart : FactRun (factsCreated l s caseId row) caseId ⟨row, [], [], [], [], none, [], []⟩ :=
    ⟨ConversationStore.setFolder_self .., .created row⟩
  obtain ⟨f', hrun⟩ := hstart.historyRun events
  obtain rfl := Option.some.inj (hf.symm.trans hrun.folder)
  have hawaits : AwaitsReply (historyRun caseId (factsCreated l s caseId row) events) caseId f
      question := ⟨hrun, hstate, hasked, hunconsumed⟩
  obtain ⟨snapshot, hr⟩ := rebuildFolder_ok
    (hawaits.accepts ⟨messageId, some caseId, validated.traceContent, now⟩ (.ofCandidates [])
      hnew rfl hlater).1.ledger.history
  exact ⟨snapshot, hr.rebuilt, fun code houtstanding =>
    hawaits.recorded_iff hnew rfl hlater hr houtstanding⟩

end AfterSales

/-! ### A reply with a phone number -/

namespace AfterSales
open Repository CaseFactService

/-- A phone number among the runs of digits and other characters of a text. -/
def isPhoneNumber (run : List Char) : Bool :=
  run.length = 11 && run.all Char.isDigit &&
    match run with
    | '1' :: second :: _ => decide ('3' ≤ second)
    | _ => false

/-- Redaction of a text without mail addresses. -/
abbrev MessageRedaction.phoneNumbers : MessageRedaction where
  redact text :=
    let runs := text.toList.splitBy fun a b => a.isDigit == b.isDigit
    (String.ofList (runs.flatMap fun run =>
      if isPhoneNumber run then "[已隐藏的个人信息]".toList else run), runs.any isPhoneNumber)

section PhoneNumber

attribute [local instance] PolicyDigest.bySource FactDigest.byMessage CaseFolding.lower
  MessageRedaction.phoneNumbers

/-- A case that was asked whether its package is still missing. -/
def askedCase : ServiceState :=
  historyRun ⟨"CONV-1", 1⟩ (factsCreated (.created "CUS-1") (Session.demoShared fun _ => [])
      ⟨"CONV-1", 1⟩ { Service.newCaseRow "CUS-1" "ORD-1" .signedNotReceived none with
        caseState := .awaitingCustomerInput })
    [.fact (.call (.recordQuestion .customerStillReportsMissing))]

/-- The reply that is stored for a text, an hour after the question. -/
def replyTo (content : String) : Option MessageRow :=
  (validateCustomerMessage content).map fun validated =>
    ⟨⟨"CONV-1", 2⟩, some ⟨"CONV-1", 1⟩, validated.traceContent, 219600000000⟩

example : (replyTo "没收到，电话13800138000").map (·.content) = some "没收到，电话[已隐藏的个人信息]" := by
  decide +kernel

/-- The case waits for the reply to its question. -/
theorem askedCase_awaits : ∃ f ∈ askedCase.1.folders ⟨"CONV-1", 1⟩,
    f.row.caseState = .awaitingCustomerInput ∧ ∃ question ∈ f.questions.getLast?,
      consumptionForQuestion f question.questionId = none ∧
        question.askedAt < (219600000000 : Instant) := by
  decide +kernel

theorem askedCase_recorded_iff : ∃ f question, askedCase.1.folders ⟨"CONV-1", 1⟩ = some f ∧
    f.questions.getLast? = some question ∧ ∀ validated ∈ validateCustomerMessage "没收到",
      let x := replied askedCase ⟨"CONV-1", 1⟩
        ⟨⟨"CONV-1", 2⟩, some ⟨"CONV-1", 1⟩, validated.traceContent, 219600000000⟩
      ∃ snapshot, rebuildFolder x.1 ⟨"CONV-1", 1⟩ f = .ok snapshot ∧
        ∀ code, outstandingCode snapshot = some code →
          (Recorded x ⟨"CONV-1", 1⟩ ⟨"CONV-1", 2⟩
              (extractCandidates f snapshot code validated.content) ↔
            ReadsAlike f snapshot question code validated.traceContent validated.content) := by
  obtain ⟨f, hf, hstate, question, hasked, hunconsumed, hlater⟩ := askedCase_awaits
  exact ⟨f, question, hf, hasked,
    reply_recorded_iff hf hstate hasked hunconsumed (by decide +kernel) hlater "没收到"⟩

/-- What the extractor hands over for a text, and what the acceptor decides about it. -/
def handOver (content : String) : Option (List CaseFactCandidate × String) := do
  let validated ← validateCustomerMessage content
  let x := replied askedCase ⟨"CONV-1", 1⟩
    ⟨⟨"CONV-1", 2⟩, some ⟨"CONV-1", 1⟩, validated.traceContent, 219600000000⟩
  let f ← x.1.folders ⟨"CONV-1", 1⟩
  let snapshot ← (rebuildFolder x.1 ⟨"CONV-1", 1⟩ f).toOption
  let code ← outstandingCode snapshot
  let candidates := extractCandidates f snapshot code validated.content
  let accepted ← (acceptMessage ⟨"CONV-1", 1⟩ ⟨"CONV-1", 2⟩ (.ofCandidates candidates) x).toOption
  return (candidates, accepted.1.2.reasonCode)

/-- A reply that is understood is not recorded when a phone number in it is hidden. -/
theorem hiddenPhoneNumber_disagrees : ∃ handed ∈ handOver "没收到，电话13800138000",
    handed.1 ≠ [] ∧ handed.2 = "CANDIDATE_DISAGREES_WITH_PERSISTED_CONTEXT" := by
  decide +kernel

end PhoneNumber

end AfterSales
