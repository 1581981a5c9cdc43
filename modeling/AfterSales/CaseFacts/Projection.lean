import AfterSales.CaseFacts.Protocol

/-! What the projection of a history says, whatever order its rows are listed in.

    A fact is known only under assertions that agree, and for a delivery location only under the
    current proof. Assertions that contradict each other, a replacement of nothing, and two
    replacements of one assertion leave the fact in conflict: no winner is picked. -/

namespace AfterSales
open Interleave Repository CaseFactService

/-! ### The order of the rows -/

section Order

variable {caseId : RowId} {assertions assertions' : List CaseFactAssertion}
  {questions questions' : List FactQuestion} {proof : Option DeliveryProofFactContext}

/-- The rows in the order they were recorded in. -/
def recorded (assertions : List CaseFactAssertion) : List CaseFactAssertion :=
  assertions.insertionSort fun a b => a.assertionSequence ≤ b.assertionSequence

theorem recorded_def : (assertions.insertionSort fun a b =>
    a.assertionSequence ≤ b.assertionSequence) = recorded assertions := rfl

theorem recorded_perm : (recorded assertions).Perm assertions := List.perm_insertionSort _ _

theorem recorded_sorted :
    (recorded assertions).Pairwise fun a b => a.assertionSequence ≤ b.assertionSequence :=
  List.pairwise_insertionSort _ _

/-- The numbers in order depend on the numbers alone. -/
theorem recorded_numbers (h : assertions.Perm assertions') :
    (recorded assertions).map (·.assertionSequence)
      = (recorded assertions').map (·.assertionSequence) := by
  have hperm : (recorded assertions).Perm (recorded assertions') :=
    recorded_perm.trans (h.trans recorded_perm.symm)
  have hsorted : ∀ {rows : List CaseFactAssertion},
      ((recorded rows).map (·.assertionSequence)).Pairwise (· ≤ ·) :=
    List.pairwise_map.mpr recorded_sorted
  exact (hperm.map _).eq_of_pairwise (fun _ _ _ _ => le_antisymm) hsorted hsorted

/-- Numbered from one on, the rows have one order. -/
theorem recorded_eq (h : assertions.Perm assertions')
    (hnumbers : (recorded assertions).map (·.assertionSequence)
      = List.range' 1 (recorded assertions).length) : recorded assertions = recorded assertions' := by
  have hperm : (recorded assertions).Perm (recorded assertions') :=
    recorded_perm.trans (h.trans recorded_perm.symm)
  have hnodup : ((recorded assertions).map (·.assertionSequence)).Nodup := by
    rw [hnumbers]
    exact List.nodup_range'
  refine hperm.eq_of_pairwise (fun a b ha hb hab hba => ?_) recorded_sorted recorded_sorted
  exact List.inj_on_of_nodup_map hnodup ha (hperm.mem_iff.mpr hb) (le_antisymm hab hba)

/-- Of the questions of a case only the numbers count. -/
theorem rebuildQuestionState_perm {code : FactCode} {status : FactStatus} {hasProof : Bool}
    (h : questions.Perm questions') : rebuildQuestionState caseId code status questions hasProof
      = rebuildQuestionState caseId code status questions' hasProof := by
  have hasked : (questionsAbout caseId code questions).Perm (questionsAbout caseId code questions') :=
    h.filter _
  have htargeted := (hasked.filter (·.targetedConflict)).length_eq
  simp only [rebuildQuestionState, hasked.length_eq, htargeted]

/-- The projection does not depend on the order of its rows. -/
theorem rebuildProjection_perm (hassertions : assertions.Perm assertions')
    (hquestions : questions.Perm questions') :
    rebuildProjection caseId assertions questions proof
      = rebuildProjection caseId assertions' questions' proof := by
  have hlength : (recorded assertions).length = (recorded assertions').length := by
    rw [recorded_perm.length_eq, recorded_perm.length_eq, hassertions.length_eq]
  have hnumbers := recorded_numbers hassertions
  have hasked := (hquestions.filter (·.caseId = caseId)).length_eq
  simp only [rebuildProjection, rebuildQuestionState_perm hquestions, hasked, recorded_def]
  by_cases hcontiguous : (recorded assertions).map (·.assertionSequence)
      = List.range' 1 (recorded assertions).length
  · have hcontiguous' : (recorded assertions').map (·.assertionSequence)
        = List.range' 1 (recorded assertions').length := by
      rwa [← hnumbers, ← hlength]
    simp only [recorded_eq hassertions hcontiguous, hcontiguous', ne_eq, not_true_eq_false, if_false]
  · have hcontiguous' : (recorded assertions').map (·.assertionSequence)
        ≠ List.range' 1 (recorded assertions').length := by
      rwa [← hnumbers, ← hlength]
    simp only [ne_eq, hcontiguous, hcontiguous', not_false_eq_true, if_true]
    rfl

end Order

/-! ### What contradicts -/

/-- An assertion of a fact that no other assertion of it replaces. -/
structure ActiveAssertion (assertions : List CaseFactAssertion) (code : FactCode)
    (a : CaseFactAssertion) : Prop where
  member : a ∈ assertions
  factCode : a.factCode = code
  kept : ∀ b ∈ assertions, b.factCode = code → b.supersedesAssertionId ≠ some a.assertionId

/-- Two active assertions say the opposite of each other. -/
def Contradicted (assertions : List CaseFactAssertion) (code : FactCode) : Prop :=
  ∃ a b, ActiveAssertion assertions code a ∧ ActiveAssertion assertions code b ∧
    a.value = .true ∧ b.value = .false

/-- An assertion replaces none that was recorded before it about the same fact. -/
def InvalidSupersession (assertions : List CaseFactAssertion) (code : FactCode) : Prop :=
  ∃ item ∈ assertions, item.factCode = code ∧ ∃ targetId ∈ item.supersedesAssertionId,
    ∀ e ∈ assertions, e.assertionId = targetId → e.factCode = code →
      item.assertionSequence ≤ e.assertionSequence

/-- Two assertions of a fact replace the same one. -/
def CompetingSupersession (assertions : List CaseFactAssertion) (code : FactCode) : Prop :=
  ∃ a ∈ assertions, ∃ b ∈ assertions, a ≠ b ∧ a.factCode = code ∧ b.factCode = code ∧
    a.supersedesAssertionId.isSome ∧ a.supersedesAssertionId = b.supersedesAssertionId

/-- What the scan has found after some rows. -/
structure SupersessionScan.Found (scan : SupersessionScan) (items : List CaseFactAssertion) :
    Prop where
  seen : scan.seen = items
  invalid : ∀ before item after targetId, items = before ++ item :: after →
    item.supersedesAssertionId = some targetId →
    (∀ e ∈ before, e.assertionId = targetId → e.factCode ≠ item.factCode) →
    item.factCode ∈ scan.invalid
  replaced : ∀ code targetId, code ∉ scan.invalid →
    items.countP (fun item => item.factCode = code ∧ item.supersedesAssertionId = some targetId) ≤
      scan.replaced.countP fun target => target.factCode = code ∧ target.assertionId = targetId

/-- What one row adds to what the scan has found. -/
theorem SupersessionScan.add_cases {caseId : RowId} {scan scan' : SupersessionScan}
    {item : CaseFactAssertion} (h : scan.add caseId item = .ok scan') :
    scan'.seen = scan.seen ++ [item] ∧
      ((item.supersedesAssertionId = none ∧ scan'.invalid = scan.invalid ∧
          scan'.replaced = scan.replaced) ∨
        (∃ target ∈ scan.seen, item.supersedesAssertionId = some target.assertionId ∧
          target.factCode = item.factCode ∧ scan'.invalid = scan.invalid ∧
          scan'.replaced = scan.replaced ++ [target]) ∨
        (scan'.invalid = scan.invalid ++ [item.factCode] ∧ scan'.replaced = scan.replaced)) := by
  rw [SupersessionScan.add] at h
  split at h
  · cases h
  · cases htarget : item.supersedesAssertionId with
    | none =>
      simp only [htarget] at h
      obtain rfl := Except.ok.inj h
      exact ⟨rfl, .inl ⟨rfl, rfl, rfl⟩⟩
    | some targetId =>
      simp only [htarget] at h
      cases hfind : scan.seen.find? (·.assertionId = targetId) with
      | none =>
        simp only [hfind] at h
        obtain rfl := Except.ok.inj h
        exact ⟨rfl, .inr (.inr ⟨rfl, rfl⟩)⟩
      | some target =>
        simp only [hfind] at h
        split at h
        · rename_i hsame
          obtain rfl := Except.ok.inj h
          have hid : target.assertionId = targetId := by simpa using List.find?_some hfind
          exact ⟨rfl, .inr (.inl ⟨target, List.mem_of_find?_eq_some hfind, by rw [hid], hsame, rfl,
            rfl⟩)⟩
        · obtain rfl := Except.ok.inj h
          exact ⟨rfl, .inr (.inr ⟨rfl, rfl⟩)⟩

/-- One more row is scanned. -/
theorem SupersessionScan.Found.add {caseId : RowId} {scan scan' : SupersessionScan}
    {items : List CaseFactAssertion} {item : CaseFactAssertion} (h : scan.Found items)
    (hadd : scan.add caseId item = .ok scan') : scan'.Found (items ++ [item]) := by
  obtain ⟨hseen, hcases⟩ := SupersessionScan.add_cases hadd
  have hmono : ∀ code ∈ scan.invalid, code ∈ scan'.invalid := by
    intro code hcode
    rcases hcases with ⟨-, hinvalid, -⟩ | ⟨_, -, -, -, hinvalid, -⟩ | ⟨hinvalid, -⟩ <;>
      simp [hinvalid, hcode]
  refine ⟨by rw [hseen, h.seen], ?_, ?_⟩
  · intro before item' after targetId hsplit htarget hnone
    rcases List.eq_nil_or_concat after with rfl | ⟨after, last, rfl⟩
    · obtain ⟨rfl, hitem⟩ := List.append_inj' hsplit rfl
      obtain rfl := List.head_eq_of_cons_eq hitem
      rcases hcases with ⟨hself, -⟩ | ⟨target, hmem, hid, hcode, -⟩ | ⟨hinvalid, -⟩
      · rw [hself] at htarget
        cases htarget
      · rw [htarget, Option.some.injEq] at hid
        exact absurd hcode (hnone target (h.seen ▸ hmem) hid.symm)
      · simp [hinvalid]
    · rw [List.concat_eq_append, ← List.cons_append, ← List.append_assoc] at hsplit
      obtain ⟨rfl, -⟩ := List.append_inj' hsplit rfl
      exact hmono _ (h.invalid before item' after targetId rfl htarget hnone)
  · intro code targetId hvalid
    have hold := h.replaced code targetId fun hcode => hvalid (hmono code hcode)
    rw [List.countP_append, List.countP_singleton]
    rcases hcases with ⟨hself, -, hreplaced⟩ | ⟨target, -, hid, hcode, -, hreplaced⟩ |
      ⟨hinvalid, hreplaced⟩
    · rw [hreplaced]
      simpa [hself] using hold
    · rw [hreplaced, List.countP_append, List.countP_singleton, hid, ← hcode]
      simpa using hold
    · have hother : item.factCode ≠ code := by
        rintro rfl
        simp [hinvalid] at hvalid
      rw [hreplaced]
      simpa [hother] using hold

/-- All rows are scanned. -/
theorem SupersessionScan.found_of_foldlM {caseId : RowId} {items : List CaseFactAssertion}
    {scan : SupersessionScan}
    (h : items.foldlM (SupersessionScan.add caseId) ⟨[], [], []⟩ = .ok scan) : scan.Found items := by
  induction items using List.reverseRecOn generalizing scan with
  | nil =>
    obtain rfl := Except.ok.inj h
    exact ⟨rfl, by simp, by simp⟩
  | append_singleton items item ih =>
    rw [List.foldlM_append] at h
    cases hfold : items.foldlM (SupersessionScan.add caseId) ⟨[], [], []⟩ with
    | error e =>
      rw [hfold] at h
      cases h
    | ok scan₁ =>
      rw [hfold] at h
      change scan₁.add caseId item >>= pure = .ok scan at h
      rw [bind_pure] at h
      exact (ih hfold).add h

section Conflicts

variable {assertions : List CaseFactAssertion} {code : FactCode} {scan : SupersessionScan}

/-- Rows with numbers of their own are recorded in the order of the numbers. -/
theorem recorded_before (hnumbers : (recorded assertions).map (·.assertionSequence)
      = List.range' 1 (recorded assertions).length) {before after : List CaseFactAssertion}
    {item e : CaseFactAssertion} (hsplit : recorded assertions = before ++ item :: after)
    (he : e ∈ before) : e.assertionSequence < item.assertionSequence := by
  have hsorted : ((recorded assertions).map (·.assertionSequence)).Pairwise (· < ·) := by
    rw [hnumbers]
    exact List.pairwise_lt_range'
  rw [List.pairwise_map, hsplit, List.pairwise_append] at hsorted
  exact hsorted.2.2 e he item (List.mem_cons_self ..)

/-- An invalid replacement is found. -/
theorem SupersessionScan.Found.of_invalid (h : scan.Found (recorded assertions))
    (hnumbers : (recorded assertions).map (·.assertionSequence)
      = List.range' 1 (recorded assertions).length)
    (hinvalid : InvalidSupersession assertions code) : scan.conflicts code = true := by
  obtain ⟨item, hitem, rfl, targetId, htarget, hnone⟩ := hinvalid
  obtain ⟨before, after, hsplit⟩ := List.append_of_mem (recorded_perm.mem_iff.mpr hitem)
  have hmem : item.factCode ∈ scan.invalid := by
    refine h.invalid before item after targetId hsplit htarget fun e he hid hcode => ?_
    have hbefore := recorded_before hnumbers hsplit he
    have hmember : e ∈ assertions := recorded_perm.mem_iff.mp (by simp [hsplit, he])
    exact absurd (hnone e hmember hid hcode) (by omega)
  simp [SupersessionScan.conflicts, hmem]

/-- Two replacements of one assertion are found. -/
theorem SupersessionScan.Found.of_competing (h : scan.Found (recorded assertions))
    (hcompeting : CompetingSupersession assertions code) : scan.conflicts code = true := by
  obtain ⟨a, ha, b, hb, hne, hacode, hbcode, hsome, hsame⟩ := hcompeting
  obtain ⟨targetId, htarget⟩ := Option.isSome_iff_exists.mp hsome
  by_cases hvalid : code ∈ scan.invalid
  · simp [SupersessionScan.conflicts, hvalid]
  have htwo : 2 ≤ (recorded assertions).countP fun item =>
      item.factCode = code ∧ item.supersedesAssertionId = some targetId := by
    rw [List.countP_eq_length_filter]
    have hmem : ∀ c ∈ assertions, c.factCode = code → c.supersedesAssertionId = some targetId →
        c ∈ (recorded assertions).filter fun item =>
          item.factCode = code ∧ item.supersedesAssertionId = some targetId := by
      intro c hc hcode hid
      simp [recorded_perm.mem_iff, hc, hcode, hid]
    have hsubset : [a, b] ⊆ (recorded assertions).filter fun item =>
        item.factCode = code ∧ item.supersedesAssertionId = some targetId := by
      intro c hc
      rcases List.mem_pair.mp hc with rfl | rfl
      · exact hmem c ha hacode htarget
      · exact hmem c hb hbcode (hsame.symm.trans htarget)
    have hnodup : [a, b].Nodup := by simp [hne]
    exact (hnodup.subperm hsubset).length_le
  have hcount := htwo.trans (h.replaced code targetId hvalid)
  have hpos : 0 < scan.replaced.countP fun target =>
      target.factCode = code ∧ target.assertionId = targetId := by omega
  obtain ⟨target, hmem, htargetIs⟩ := List.countP_pos_iff.mp hpos
  rw [decide_eq_true_eq] at htargetIs
  have hids : scan.replaced.countP (fun target =>
      target.factCode = code ∧ target.assertionId = targetId) ≤
      (scan.replaced.map (·.assertionId)).count targetId := by
    rw [List.count, List.countP_map]
    refine List.countP_mono_left fun t _ ht => ?_
    rw [decide_eq_true_eq] at ht
    simp [ht.2]
  have hreplaced : scan.replaced.any (fun target => target.factCode = code ∧
      1 < (scan.replaced.map (·.assertionId)).count target.assertionId) = true := by
    refine List.any_eq_true.mpr ⟨target, hmem, ?_⟩
    rw [decide_eq_true_eq, htargetIs.2]
    exact ⟨htargetIs.1, by omega⟩
  rw [SupersessionScan.conflicts, hreplaced, Bool.or_true]

end Conflicts

/-! ### What a status says -/

/-- The value that a status knows. -/
def FactStatus.value : FactStatus → Option FactValue
  | .knownTrue => some .true
  | .knownFalse => some .false
  | .unknown | .conflict => none

section Statuses

variable {active : List CaseFactAssertion} {invalid : Bool} {code : FactCode} {value : FactValue}
  {merged : FactStatus} {proof : Option DeliveryProofFactContext}

/-- What is known is what the assertions that know anything say. -/
theorem mergedStatus_value (h : (mergedStatus active invalid).value = some value) :
    ∀ a ∈ active, a.value ≠ .unknown → a.value = value := by
  intro a ha hknows
  rw [mergedStatus] at h
  simp only at h
  split at h
  · cases h
  rename_i hfine
  simp only [Bool.or_eq_true, Bool.and_eq_true, not_or, not_and, List.any_eq_true,
    decide_eq_true_eq] at hfine
  split at h
  · cases h
  split at h
  · rename_i htrue
    obtain rfl := Option.some.inj h
    cases hvalue : a.value with
    | true => rfl
    | false => exact absurd ⟨a, ha, hvalue⟩ (hfine.2 (by simpa using htrue))
    | unknown => exact absurd hvalue hknows
  rename_i htrue
  split at h
  · obtain rfl := Option.some.inj h
    cases hvalue : a.value with
    | true => exact absurd (List.any_eq_true.mpr ⟨a, ha, by simp [hvalue]⟩) htrue
    | false => rfl
    | unknown => exact absurd hvalue hknows
  · cases h

/-- Assertions that contradict each other, or a replacement that counts as none, are a conflict. -/
theorem mergedStatus_conflict (h : invalid = true ∨
    (∃ a ∈ active, a.value = .true) ∧ ∃ b ∈ active, b.value = .false) :
    mergedStatus active invalid = .conflict := by
  rw [mergedStatus]
  refine if_pos ?_
  rcases h with rfl | ⟨⟨a, ha, htrue⟩, b, hb, hfalse⟩
  · rfl
  · have hreports : active.any (·.value = .true) = true :=
      List.any_eq_true.mpr ⟨a, ha, by simp [htrue]⟩
    have hdenies : active.any (·.value = .false) = true :=
      List.any_eq_true.mpr ⟨b, hb, by simp [hfalse]⟩
    simp [hreports, hdenies]

/-- A fact that is known was known before it was bound, and a delivery location is known under the
    current proof. -/
theorem boundStatus_value (h : (boundStatus code merged active proof).1.value = some value) :
    merged.value = some value ∧ (code = .reportedDeliveryLocationChecked →
      ∀ a ∈ active, a.context = proof.map (·.reference)) := by
  cases code with
  | customerStillReportsMissing => exact ⟨h, nofun⟩
  | reportedDeliveryLocationChecked =>
    simp only [boundStatus] at h
    split at h
    · rename_i hnone
      refine ⟨h, fun _ a ha => ?_⟩
      have hmem : a.context ∈ (active.map (·.context)).eraseDups :=
        List.mem_eraseDups.mpr (List.mem_map_of_mem ha)
      rw [hnone] at hmem
      cases hmem
    · rename_i context hone
      split at h
      · rename_i hcurrent
        refine ⟨h, fun _ a ha => ?_⟩
        have hmem : a.context ∈ (active.map (·.context)).eraseDups :=
          List.mem_eraseDups.mpr (List.mem_map_of_mem ha)
        rw [hone, List.mem_singleton] at hmem
        rw [hmem, hcurrent.2]
      · cases h
    · cases h

/-- A conflict stays one, unless a delivery location is bound to another proof. -/
theorem boundStatus_conflict (proof : Option DeliveryProofFactContext)
    (hcode : ∀ a ∈ active, a.factCode = code) :
    (boundStatus code .conflict active proof).1 = .conflict ∨
      (code = .reportedDeliveryLocationChecked ∧
        (boundStatus code .conflict active proof).1 = .unknown ∧ active ≠ [] ∧
        ∀ a ∈ active, a.context ≠ proof.map (·.reference)) := by
  cases code with
  | customerStillReportsMissing => exact .inl rfl
  | reportedDeliveryLocationChecked =>
    simp only [boundStatus]
    split
    · exact .inl rfl
    · rename_i context hone
      split
      · exact .inl rfl
      · rename_i hother
        refine .inr ⟨trivial, rfl, ?_, fun a ha hcurrent => hother ?_⟩
        · rintro rfl
          cases hone
        have hmem : a.context ∈ (active.map (·.context)).eraseDups :=
          List.mem_eraseDups.mpr (List.mem_map_of_mem ha)
        rw [hone, List.mem_singleton] at hmem
        have hbound := a.contextIff.mp (hcode a ha)
        rw [hcurrent, Option.isSome_map] at hbound
        exact ⟨hbound, hcurrent.symm.trans hmem⟩
    · exact .inl rfl

end Statuses

/-! ### What a projection says of a fact -/

/-- The status of a fact agrees with the history of it. -/
structure FactAgrees (assertions : List CaseFactAssertion) (proof : Option DeliveryProofFactContext)
    (code : FactCode) (status : FactStatus) : Prop where
  known : ∀ value ∈ status.value, ∀ a, ActiveAssertion assertions code a → a.value ≠ .unknown →
    a.value = value ∧ (code = .reportedDeliveryLocationChecked →
      ∃ current ∈ proof, a.context = some current.reference)
  conflict : Contradicted assertions code ∨ InvalidSupersession assertions code ∨
      CompetingSupersession assertions code →
    status = .conflict ∨ (code = .reportedDeliveryLocationChecked ∧ status = .unknown ∧
      (∃ a, ActiveAssertion assertions code a) ∧
      ∀ a, ActiveAssertion assertions code a → a.context ≠ proof.map (·.reference))

section Projected

variable {caseId : RowId} {assertions : List CaseFactAssertion} {questions : List FactQuestion}
  {proof : Option DeliveryProofFactContext} {code : FactCode} {a : CaseFactAssertion}

/-- The active assertions of a fact, as the projection finds them. -/
theorem mem_activeAssertions :
    a ∈ activeAssertions ((recorded assertions).filter (·.factCode = code)) ↔
      ActiveAssertion assertions code a := by
  simp only [activeAssertions, List.mem_filter, List.mem_filterMap, decide_eq_true_eq,
    recorded_perm.mem_iff, not_exists, not_and, and_imp]
  exact ⟨fun h => ⟨h.1.1, h.1.2, h.2⟩, fun h => ⟨⟨h.member, h.factCode⟩, h.kept⟩⟩

/-- The entry of a fact agrees with its history. -/
theorem entryFor_agrees {scan : SupersessionScan} (hscan : scan.Found (recorded assertions))
    (hnumbers : (recorded assertions).map (·.assertionSequence)
      = List.range' 1 (recorded assertions).length) :
    FactAgrees assertions proof code (entryFor code ((recorded assertions).filter (·.factCode = code))
      proof (scan.conflicts code)).status := by
  constructor
  · intro value hvalue a ha hknows
    obtain ⟨hmerged, hbound⟩ := boundStatus_value hvalue
    have hmem := mem_activeAssertions.mpr ha
    refine ⟨mergedStatus_value hmerged a hmem hknows, fun hcode => ?_⟩
    have hcontext := hbound hcode a hmem
    have hsome := a.contextIff.mp (ha.factCode.trans hcode)
    rw [hcontext, Option.isSome_map] at hsome
    obtain ⟨current, hcurrent⟩ := Option.isSome_iff_exists.mp hsome
    exact ⟨current, hcurrent, by rw [hcontext, hcurrent]; rfl⟩
  · intro hcause
    have hmerged : mergedStatus
        (activeAssertions ((recorded assertions).filter (·.factCode = code)))
        (scan.conflicts code) = .conflict := by
      refine mergedStatus_conflict ?_
      rcases hcause with ⟨a, b, ha, hb, htrue, hfalse⟩ | hinvalid | hcompeting
      · exact .inr ⟨⟨a, mem_activeAssertions.mpr ha, htrue⟩, b, mem_activeAssertions.mpr hb, hfalse⟩
      · exact .inl (hscan.of_invalid hnumbers hinvalid)
      · exact .inl (hscan.of_competing hcompeting)
    simp only [entryFor, hmerged]
    rcases boundStatus_conflict proof
      (fun a ha => (mem_activeAssertions.mp ha).factCode) with h | ⟨hcode, hstatus, hsome, hother⟩
    · exact .inl h
    · obtain ⟨a, ha⟩ := List.exists_mem_of_ne_nil _ hsome
      exact .inr ⟨hcode, hstatus, ⟨a, mem_activeAssertions.mp ha⟩,
        fun a ha => hother a (mem_activeAssertions.mpr ha)⟩

theorem of_bind_ok {ε α β : Type} {x : Except ε α} {f : α → Except ε β} {b : β}
    (h : x >>= f = .ok b) : ∃ a, x = .ok a ∧ f a = .ok b := by
  cases x with
  | error e => cases h
  | ok a => exact ⟨a, rfl, h⟩

/-- Whatever the rows are, a projection of them agrees with them. -/
theorem rebuildProjection_agrees {s : CaseFactProjection}
    (h : rebuildProjection caseId assertions questions proof = .ok s) :
    ∀ code, FactAgrees assertions proof code (s.facts code).status := by
  intro code
  simp only [rebuildProjection, recorded_def] at h
  by_cases hnumbers : (recorded assertions).map (·.assertionSequence)
      = List.range' 1 (recorded assertions).length
  · simp only [hnumbers, ne_eq, not_true_eq_false, if_false] at h
    obtain ⟨scan, hscan, h⟩ := of_bind_ok h
    obtain ⟨missing, -, h⟩ := of_bind_ok h
    obtain ⟨location, -, h⟩ := of_bind_ok h
    obtain rfl := Except.ok.inj h
    exact entryFor_agrees (SupersessionScan.found_of_foldlM hscan) hnumbers
  · simp only [ne_eq, hnumbers, not_false_eq_true, if_true] at h
    cases h

end Projected

/-! ### Every reachable history -/

variable [PolicyDigest] [FactDigest]

section Rows

variable {l : ConversationStore} {caseId : RowId} {f f' : CaseFolder}

/-- A consumption is checked against the rows, not against their order. -/
theorem consumptionVerified_perm {c : ConsumptionRow} (hquestions : f'.questions.Perm f.questions)
    (hassertions : f'.assertions.Perm f.assertions) :
    consumptionVerified l caseId f'.questions f'.assertions c
      = consumptionVerified l caseId f.questions f.assertions c := by
  simp only [consumptionVerified, (hquestions.map _).mem_iff, (hassertions.map _).mem_iff]

/-- What a case's rows rebuild to does not depend on their order. -/
theorem rebuildFolder_perm (htoolCalls : f'.toolCalls = f.toolCalls)
    (hassertions : f'.assertions.Perm f.assertions) (hquestions : f'.questions.Perm f.questions)
    (hconsumptions : f'.consumptions.Perm f.consumptions) :
    rebuildFolder l caseId f' = rebuildFolder l caseId f := by
  have hsources : (f'.assertions.any fun a => !messageVerified l a)
      = f.assertions.any fun a => !messageVerified l a := hassertions.any_eq
  have hconsumed : (f'.consumptions.any fun c =>
      !consumptionVerified l caseId f'.questions f'.assertions c)
      = f.consumptions.any fun c => !consumptionVerified l caseId f.questions f.assertions c := by
    simp only [consumptionVerified_perm hquestions hassertions]
    exact hconsumptions.any_eq
  simp only [rebuildFolder, hsources, hconsumed, htoolCalls, rebuildCaseFactSnapshot,
    rebuildProjection_perm hassertions hquestions]

/-- What a folder rebuilds to agrees with its rows. -/
theorem rebuildFolder_agrees {snapshot : CaseFactSnapshot}
    (h : rebuildFolder l caseId f = .ok snapshot) (code : FactCode) :
    FactAgrees f.assertions (proofContext f.toolCalls) code (snapshot.facts code).status := by
  rw [rebuildFolder] at h
  split at h
  · cases h
  split at h
  · cases h
  obtain ⟨projection, hprojection, h⟩ := of_bind_ok h
  obtain rfl := Except.ok.inj h
  exact rebuildProjection_agrees hprojection code

end Rows

variable [CaseFolding]

/-- What happens to a case, with the refreshes of its snapshot. -/
inductive HistoryEvent where
  | fact (e : FactEvent)
  | refresh

def HistoryEvent.apply (caseId : RowId) (x : ServiceState) : HistoryEvent → ServiceState
  | .fact e => e.apply caseId x
  | .refresh => (Transaction.commit (refreshSnapshot caseId) x).2

/-- The state after a sequence of events. -/
def historyRun (caseId : RowId) (x : ServiceState) (events : List HistoryEvent) : ServiceState :=
  events.foldl (HistoryEvent.apply caseId) x

/-- What is stored of a history can be projected, in a state and over what happens next. -/
structure WellProjected (x : ServiceState) (caseId : RowId) (f : CaseFolder) : Prop where
  order : ∀ f' : CaseFolder, f'.toolCalls = f.toolCalls → f'.assertions.Perm f.assertions →
    f'.questions.Perm f.questions → f'.consumptions.Perm f.consumptions →
    rebuildFolder x.1 caseId f' = rebuildFolder x.1 caseId f
  rebuilds : ∃ snapshot, rebuildFolder x.1 caseId f = .ok snapshot ∧
    snapshot.revision = f.assertions.length + f.questions.length ∧
    ∀ code, FactAgrees f.assertions (proofContext f.toolCalls) code (snapshot.facts code).status
  refreshes : ∃ snapshot, refreshSnapshot caseId x =
    .ok (snapshot, (x.1.setFolder caseId { f with snapshot := some snapshot }, x.2))
  stores : ∀ c : FactCall, c.run caseId x ≠ .error (.storage .concurrentMutation)
  grows : ∀ (e : HistoryEvent) f', (e.apply caseId x).1.folders caseId = some f' →
    f.assertions <+: f'.assertions ∧ f.questions <+: f'.questions ∧
      ∀ snapshot snapshot', rebuildFolder x.1 caseId f = .ok snapshot →
        rebuildFolder (e.apply caseId x).1 caseId f' = .ok snapshot' →
        f'.assertions ≠ f.assertions ∨ f'.questions ≠ f.questions →
        snapshot.revision < snapshot'.revision

section Runs

variable {x : ServiceState} {caseId : RowId} {f f' : CaseFolder}

/-- A refresh stores a snapshot, and nothing else. -/
theorem FactRun.refresh (h : FactRun x caseId f) : ∃ snapshot,
    refreshSnapshot caseId x =
      .ok (snapshot, (x.1.setFolder caseId { f with snapshot := some snapshot }, x.2)) ∧
    FactRun (x.1.setFolder caseId { f with snapshot := some snapshot }, x.2) caseId
      { f with snapshot := some snapshot } := by
  obtain ⟨snapshot, hr, hrefresh⟩ := refreshSnapshot_ok (s := x.2) h.folder h.ledger.history
  refine ⟨snapshot, hrefresh, ConversationStore.setFolder_self .., ?_⟩
  exact
    { h.ledger with
      history := (FactStep.refreshed h.ledger.history hr).history.of_messages fun _ _ hm _ => hm
      readings := h.ledger.readings }

/-- Every event keeps the ledger. -/
theorem FactRun.historyStep (h : FactRun x caseId f) (e : HistoryEvent) :
    ∃ f', FactRun (e.apply caseId x) caseId f' := by
  cases e with
  | fact e =>
    obtain ⟨f', hstep⟩ := h.step e
    exact ⟨f', hstep.next⟩
  | refresh =>
    obtain ⟨snapshot, hrefresh, hrun⟩ := h.refresh
    refine ⟨{ f with snapshot := some snapshot }, ?_⟩
    rw [HistoryEvent.apply, Transaction.commit_ok hrefresh]
    exact hrun

/-- A sequence of events keeps the ledger. -/
theorem FactRun.historyRun (h : FactRun x caseId f) (events : List HistoryEvent) :
    ∃ f', FactRun (historyRun caseId x events) caseId f' := by
  induction events generalizing x f with
  | nil => exact ⟨f, h⟩
  | cons e rest ih =>
    obtain ⟨f₁, hstep⟩ := h.historyStep e
    exact ih hstep

/-- A call appends to the questions and the assertions. -/
theorem FactCall.appends {c : FactCall} {answer : FactAnswer} {x' : ServiceState}
    (h : FactRun x caseId f) (hrun : c.run caseId x = .ok (answer, x'))
    (hf' : x'.1.folders caseId = some f') :
    f.assertions <+: f'.assertions ∧ f.questions <+: f'.questions := by
  obtain ⟨l, s⟩ := x
  obtain ⟨hf, hledger⟩ := h
  simp only at hf hledger
  have hstored : ∀ g : CaseFolder, x' = (l.setFolder caseId g, s) → f' = g := by
    rintro g rfl
    exact Option.some.inj (hf'.symm.trans (ConversationStore.setFolder_self ..))
  cases c with
  | recordQuestion code =>
    obtain ⟨asked, x₁, hasked, hanswer⟩ := Transaction.of_bind_ok hrun
    obtain ⟨-, rfl⟩ := Prod.mk.inj (Except.ok.inj hanswer)
    rcases recordQuestion_cases hf hledger.history hasked with rfl | ⟨snapshot, hx, -⟩
    · obtain rfl := Option.some.inj (hf.symm.trans hf')
      exact ⟨List.prefix_rfl, List.prefix_rfl⟩
    · rw [hstored _ hx]
      exact ⟨List.prefix_rfl, List.prefix_append _ _⟩
  | acceptMessage messageId batch =>
    obtain ⟨accepted, x₁, haccepted, hanswer⟩ := Transaction.of_bind_ok hrun
    obtain ⟨-, rfl⟩ := Prod.mk.inj (Except.ok.inj hanswer)
    obtain ⟨-, hcases⟩ := acceptMessage_cases hf hledger.history haccepted
    cases hcases with
    | replay existing known message decision hx step =>
      rw [hstored _ hx]
      exact ⟨List.prefix_rfl, List.prefix_rfl⟩
    | fresh question message assertion asked found free unread merged hx step =>
      rw [hstored _ hx]
      have hid : message.messageId = messageId := by
        simpa using List.find?_some found
      have hgrown := hledger.grown_eq unread merged
      refine ⟨?_, List.prefix_rfl⟩
      simp only [consumedFolder, hgrown]
      exact List.prefix_append _ _

/-- An event appends to the questions and the assertions. -/
theorem FactRun.appends (h : FactRun x caseId f) (e : HistoryEvent)
    (hf' : (e.apply caseId x).1.folders caseId = some f') :
    f.assertions <+: f'.assertions ∧ f.questions <+: f'.questions := by
  have hkept : ∀ l : ConversationStore, l.folders = x.1.folders → l.folders caseId = some f' →
      f.assertions <+: f'.assertions ∧ f.questions <+: f'.questions := by
    intro l hfolders hfound
    rw [hfolders, h.folder] at hfound
    obtain rfl := Option.some.inj hfound
    exact ⟨List.prefix_rfl, List.prefix_rfl⟩
  cases e with
  | refresh =>
    obtain ⟨snapshot, hrefresh, -⟩ := h.refresh
    rw [HistoryEvent.apply, Transaction.commit_ok hrefresh] at hf'
    obtain rfl := Option.some.inj ((ConversationStore.setFolder_self ..).symm.trans hf')
    exact ⟨List.prefix_rfl, List.prefix_rfl⟩
  | fact e =>
    cases e with
    | call c =>
      cases hrun : c.run caseId x with
      | error e =>
        rw [HistoryEvent.apply, FactEvent.apply, Transaction.commit_error hrun] at hf'
        exact hkept x.1 rfl hf'
      | ok result =>
        rw [HistoryEvent.apply, FactEvent.apply, Transaction.commit_ok hrun] at hf'
        exact FactCall.appends h hrun hf'
    | message m =>
      rw [HistoryEvent.apply, FactEvent.apply] at hf'
      split at hf'
      · exact hkept x.1 rfl hf'
      · exact hkept _ rfl hf'
    | bind messageId other => exact hkept _ rfl hf'
    | pass elapsed => exact hkept x.1 rfl hf'
    | change row reads =>
      simp only [HistoryEvent.apply, FactEvent.apply, h.folder] at hf'
      obtain rfl := Option.some.inj ((ConversationStore.setFolder_self ..).symm.trans hf')
      exact ⟨List.prefix_rfl, List.prefix_rfl⟩

end Runs

/-! ### Refusals -/

section Refusals

variable {l : ConversationStore} {s : SharedState} {caseId : RowId} {f : CaseFolder}
  {e : ServiceError}

omit [FactDigest] [CaseFolding] in
/-- The error of what begins with a check. -/
theorem error_of_rejectIf {α : Type} {p : Prop} [Decidable p] {message : String}
    {next : Unit → Tx α} {x : ServiceState} (h : (rejectIf p message >>= next) x = .error e) :
    (∃ c, e = .caseFact c) ∨ (¬ p ∧ next () x = .error e) := by
  by_cases hp : p
  · left
    rw [rejectIf, if_pos hp] at h
    exact ⟨_, (Except.error.inj h).symm⟩
  · rw [Transaction.bind_ok (rejectIf_ok hp)] at h
    exact .inr ⟨hp, h⟩

/-- A fresh reply is refused with an error of the facts. -/
theorem acceptFresh_refused {question : FactQuestion} {message : MessageRow}
    {batch : UntrustedBatch} (hf : l.folders caseId = some f) (h : FactHistory l caseId f)
    (hmessage : l.getMessage message.messageId = some message)
    (hquestion : f.questions.getLast? = some question)
    (hunread : consumptionForMessage f message.messageId = none)
    (hrun : acceptFresh caseId f question message batch (l, s) = .error e) :
    ∃ c, e = .caseFact c := by
  rcases error_of_rejectIf hrun with hfact | ⟨hfree, hrun⟩
  · exact hfact
  rcases error_of_rejectIf hrun with hfact | ⟨hbound, hrun⟩
  · exact hfact
  rcases error_of_rejectIf hrun with hfact | ⟨-, hrun⟩
  · exact hfact
  rw [Transaction.bind_ok rfl] at hrun
  rcases error_of_rejectIf hrun with hfact | ⟨-, hrun⟩
  · exact hfact
  cases hmerge : mergeBatch caseId f question message batch with
  | error c =>
    simp only [consume, hmerge] at hrun
    exact ⟨c, (Except.error.inj hrun).symm⟩
  | ok merged =>
    obtain ⟨snapshot, hconsume, -⟩ := consume_ok (s := s) hf h hmessage (not_not.mp hbound)
      (List.mem_of_getLast? hquestion) (by simpa using hfree) hunread hmerge
    rw [hconsume] at hrun
    cases hrun

/-- A reply is refused with an error of the facts. -/
theorem acceptMessage_refused {messageId : RowId} {batch : UntrustedBatch}
    (hf : l.folders caseId = some f) (h : FactHistory l caseId f)
    (hrun : acceptMessage caseId messageId batch (l, s) = .error e) : ∃ c, e = .caseFact c := by
  rw [acceptMessage, Transaction.bind_ok (requireCase_ok (x := (l, s)) hf)] at hrun
  rcases error_of_rejectIf hrun with hfact | ⟨-, hrun⟩
  · exact hfact
  rw [Transaction.bind_ok rfl] at hrun
  cases hmessage : l.getMessage messageId with
  | none =>
    rw [hmessage] at hrun
    exact ⟨_, (Except.error.inj hrun).symm⟩
  | some message =>
    cases hquestion : f.questions.getLast? with
    | none =>
      rw [hmessage, hquestion] at hrun
      exact ⟨_, (Except.error.inj hrun).symm⟩
    | some question =>
      rw [hmessage, hquestion] at hrun
      have hid : message.messageId = messageId := by simpa using List.find?_some hmessage
      subst hid
      cases hexisting : consumptionForMessage f message.messageId with
      | some existing =>
        simp only [requireFact, pure_bind, hexisting] at hrun
        rcases error_of_rejectIf hrun with hfact | ⟨-, hrun⟩
        · exact hfact
        · obtain ⟨snapshot, -, hrefresh⟩ := refreshSnapshot_ok (s := s) hf h
          rw [Transaction.bind_ok hrefresh] at hrun
          cases hrun
      | none =>
        simp only [requireFact, pure_bind, hexisting] at hrun
        exact acceptFresh_refused hf h hmessage hquestion hexisting hrun

/-- No call of the fact service finds a newer snapshot stored. -/
theorem FactRun.stores {x : ServiceState} (h : FactRun x caseId f) (c : FactCall) :
    c.run caseId x ≠ .error (.storage .concurrentMutation) := by
  obtain ⟨l, s⟩ := x
  obtain ⟨hf, hledger⟩ := h
  intro hrun
  cases c with
  | recordQuestion code =>
    have houtcome : CaseFactService.Outcome l s caseId f (recordQuestion caseId code) :=
      recordQuestion_outcome hf hledger.history
    cases houtcome with
    | refused e result =>
      rw [FactCall.run, Transaction.bind_error result] at hrun
      cases hrun
    | unchanged a result | stepped a f' result =>
      rw [FactCall.run, Transaction.bind_ok result] at hrun
      cases hrun
  | acceptMessage messageId batch =>
    cases haccept : acceptMessage caseId messageId batch (l, s) with
    | error e =>
      obtain ⟨c, rfl⟩ := acceptMessage_refused hf hledger.history haccept
      rw [FactCall.run, Transaction.bind_error haccept] at hrun
      cases hrun
    | ok result =>
      rw [FactCall.run, Transaction.bind_ok haccept] at hrun
      cases hrun

end Refusals

/-- What holds of every history. -/
theorem FactRun.projected {x : ServiceState} {caseId : RowId} {f : CaseFolder}
    (h : FactRun x caseId f) : WellProjected x caseId f where
  order f' htoolCalls hassertions hquestions hconsumptions :=
    rebuildFolder_perm htoolCalls hassertions hquestions hconsumptions
  rebuilds := by
    obtain ⟨snapshot, hr⟩ := rebuildFolder_ok h.ledger.history
    exact ⟨snapshot, hr.rebuilt, hr.revision, rebuildFolder_agrees hr.rebuilt⟩
  refreshes := by
    obtain ⟨snapshot, hrefresh, -⟩ := h.refresh
    exact ⟨snapshot, hrefresh⟩
  stores := h.stores
  grows e f' hf' := by
    obtain ⟨hassertions, hquestions⟩ := h.appends e hf'
    refine ⟨hassertions, hquestions, fun snapshot snapshot' hs hs' hnew => ?_⟩
    obtain ⟨before, hbefore⟩ := rebuildFolder_ok h.ledger.history
    obtain ⟨g, hg⟩ := h.historyStep e
    obtain rfl := Option.some.inj (hg.folder.symm.trans hf')
    obtain ⟨after, hafter⟩ := rebuildFolder_ok hg.ledger.history
    obtain rfl := Except.ok.inj (hbefore.rebuilt.symm.trans hs)
    obtain rfl := Except.ok.inj (hafter.rebuilt.symm.trans hs')
    rw [hbefore.revision, hafter.revision]
    have hassertionsLength := hassertions.length_le
    have hquestionsLength := hquestions.length_le
    rcases hnew with hnew | hnew
    · have hlt : f.assertions.length ≠ g.assertions.length := fun hlength =>
        hnew (hassertions.eq_of_length hlength).symm
      omega
    · have hlt : f.questions.length ≠ g.questions.length := fun hlength =>
        hnew (hquestions.eq_of_length hlength).symm
      omega

/-- After every sequence of events about a case its history is well projected. -/
theorem caseFacts_projected (l : ConversationStore) (s : SharedState) (caseId : RowId)
    (row : CaseRow) (events : List HistoryEvent) :
    ∃ f, (historyRun caseId (factsCreated l s caseId row) events).1.folders caseId = some f ∧
      WellProjected (historyRun caseId (factsCreated l s caseId row) events) caseId f := by
  have hstart : FactRun (factsCreated l s caseId row) caseId ⟨row, [], [], [], [], none, [], []⟩ :=
    ⟨ConversationStore.setFolder_self .., .created row⟩
  obtain ⟨f, hrun⟩ := hstart.historyRun events
  exact ⟨f, hrun.folder, hrun.projected⟩

end AfterSales
