import AfterSales.CaseFacts.Service

/-! The history of a case that the operations build, and what the fact service does with it.

    Assertions, questions and consumptions are only ever appended, each of them checked against the
    messages and the questions it refers to. Such a history rebuilds without an error. So the only
    integrity error that is left is a stored snapshot that differs from the rebuilt one, and the only
    other error is the refusal of a reply or a question. -/

namespace AfterSales
open Interleave Repository

section Rebuild

/-- The scan of a history of one case meets no error when its ids differ. -/
theorem SupersessionScan.add_ok {caseId : RowId} : ∀ {items : List CaseFactAssertion}
    {scan : SupersessionScan}, (∀ a ∈ items, a.caseId = caseId) →
    (items.map (·.assertionId)).Nodup →
    (∀ a ∈ items, a.assertionId ∉ scan.seen.map (·.assertionId)) →
    ∃ scan', items.foldlM (SupersessionScan.add caseId) scan = .ok scan'
  | [], scan, _, _, _ => ⟨scan, rfl⟩
  | a :: items, scan, howner, hids, hnew => by
    rw [List.map_cons, List.nodup_cons] at hids
    have hadd : ∃ scan₁, SupersessionScan.add caseId scan a = .ok scan₁ ∧
        scan₁.seen = scan.seen ++ [a] := by
      have hfine : ¬ (a.caseId ≠ caseId ∨ a.assertionId ∈ scan.seen.map (·.assertionId)) := by
        rintro (h | h)
        · exact h (howner a List.mem_cons_self)
        · exact hnew a List.mem_cons_self h
      unfold SupersessionScan.add
      rw [if_neg hfine]
      cases a.supersedesAssertionId with
      | none => exact ⟨_, rfl, rfl⟩
      | some target =>
        simp only
        cases scan.seen.find? (·.assertionId = target) with
        | none => exact ⟨_, rfl, rfl⟩
        | some found =>
          simp only
          split
          · exact ⟨_, rfl, rfl⟩
          · exact ⟨_, rfl, rfl⟩
    obtain ⟨scan₁, hstep, hseen⟩ := hadd
    rw [List.foldlM_cons, hstep]
    refine add_ok (fun b hb => howner b (List.mem_cons_of_mem _ hb)) hids.2 fun b hb hmem => ?_
    rw [hseen, List.map_append, List.mem_append] at hmem
    rcases hmem with hmem | hmem
    · exact hnew b (List.mem_cons_of_mem _ hb) hmem
    · have hsame : b.assertionId = a.assertionId := by simpa using hmem
      exact hids.1 (hsame ▸ List.mem_map_of_mem hb)

/-- A history numbered in order is sorted already. -/
theorem assertions_sorted {assertions : List CaseFactAssertion}
    (h : assertions.map (·.assertionSequence) = List.range' 1 assertions.length) :
    assertions.insertionSort (fun a b => a.assertionSequence ≤ b.assertionSequence)
      = assertions := by
  refine List.Pairwise.insertionSort_eq ?_
  have hsorted : (assertions.map (·.assertionSequence)).Pairwise (· ≤ ·) := by
    rw [h]
    exact (List.pairwise_lt_range' (s := 1)).imp Nat.le_of_lt
  exact List.pairwise_map.mp hsorted

/-- A history in order, with few enough questions, rebuilds. -/
theorem rebuildProjection_ok {caseId : RowId} {assertions : List CaseFactAssertion}
    {questions : List FactQuestion} {proof : Option DeliveryProofFactContext}
    (hsequence : assertions.map (·.assertionSequence) = List.range' 1 assertions.length)
    (hids : (assertions.map (·.assertionId)).Nodup) (howner : ∀ a ∈ assertions, a.caseId = caseId)
    (hquestions : ∀ q ∈ questions, q.caseId = caseId)
    (hasks : ∀ code, (questionsAbout caseId code questions).length ≤ 2) :
    ∃ s, rebuildProjection caseId assertions questions proof = .ok s ∧ s.caseId = caseId ∧
      s.revision = assertions.length + questions.length ∧
      (∀ code, (s.questionState code).asks = (questionsAbout caseId code questions).length) ∧
      (proof = none →
        (s.questionState .reportedDeliveryLocationChecked).status = .inapplicable) := by
  obtain ⟨scan, hscan⟩ : ∃ scan, assertions.foldlM (SupersessionScan.add caseId) ⟨[], [], []⟩
      = .ok scan := SupersessionScan.add_ok howner hids (by simp)
  have hstate : ∀ code status, rebuildQuestionState caseId code status questions proof.isSome =
      .ok ⟨(questionsAbout caseId code questions).length,
        questionStatus code status (questionsAbout caseId code questions).length
          ((questionsAbout caseId code questions).filter (·.targetedConflict)).length proof.isSome,
        hasks code⟩ := by
    intro code status
    rw [rebuildQuestionState, dif_pos (hasks code)]
  have hcount : (questions.filter (·.caseId = caseId)).length = questions.length := by
    rw [List.filter_eq_self.mpr (by simpa using hquestions)]
  unfold rebuildProjection
  simp only [assertions_sorted hsequence, hsequence, ne_eq, not_true_eq_false, if_false, hstate]
  rw [hscan]
  refine ⟨_, rfl, rfl, ?_, ?_, ?_⟩
  · simp only [hcount]
  · intro code
    cases code <;> rfl
  · rintro rfl
    simp [questionStatus]

end Rebuild

variable [PolicyDigest] [FactDigest]

omit [FactDigest] in
/-- A message that was found is still found when one is appended. -/
theorem getMessage_append {l l' : ConversationStore} {messages : List MessageRow} {id : RowId}
    {m : MessageRow} (hmessages : l'.messages = l.messages ++ messages)
    (h : l.getMessage id = some m) : l'.getMessage id = some m := by
  rw [ConversationStore.getMessage] at h ⊢
  rw [hmessages, List.find?_append, h]
  rfl

/-! ### Histories -/

/-- A history that the operations build. -/
structure FactHistory (l : ConversationStore) (caseId : RowId) (f : CaseFolder) : Prop where
  sequence : f.assertions.map (·.assertionSequence) = List.range' 1 f.assertions.length
  ids : (f.assertions.map (·.assertionId)).Nodup
  owner : ∀ a ∈ f.assertions, a.caseId = caseId
  sources : ∀ a ∈ f.assertions, messageVerified l a
  consumed : ∀ c ∈ f.consumptions, consumptionVerified l caseId f.questions f.assertions c
  unaccepted : ∀ c ∈ f.consumptions, c.decision.accepted = false → c.assertionId = none
  asked : ∀ q ∈ f.questions, q.caseId = caseId
  asks : ∀ code, (questionsAbout caseId code f.questions).length ≤ 2
  stored : ∀ s ∈ f.snapshot, s.revision ≤ f.assertions.length + f.questions.length

variable {l l' : ConversationStore} {caseId : RowId} {f f' : CaseFolder}

/-- A case starts without a history. -/
theorem FactHistory.created (row : CaseRow) :
    FactHistory l caseId ⟨row, [], [], [], [], none, [], []⟩ := by
  constructor <;> simp [questionsAbout]

/-- Of the messages only those that a case is bound to count. -/
theorem FactHistory.of_messages (h : FactHistory l caseId f)
    (hsame : ∀ id m, l.getMessage id = some m → m.caseId = some caseId →
      l'.getMessage id = some m) : FactHistory l' caseId f where
  sequence := h.sequence
  ids := h.ids
  owner := h.owner
  sources a ha := by
    have hv := h.sources a ha
    unfold messageVerified at hv ⊢
    cases hm : l.getMessage a.sourceMessageId with
    | none => simp [hm] at hv
    | some m =>
      simp only [hm, Bool.and_eq_true, decide_eq_true_eq] at hv
      have hcase : m.caseId = some caseId := by rw [hv.1.1, h.owner a ha]
      simpa only [hsame _ _ hm hcase, Bool.and_eq_true, decide_eq_true_eq] using hv
  consumed c hc := by
    have hv := h.consumed c hc
    unfold consumptionVerified at hv ⊢
    cases hm : l.getMessage c.sourceMessageId with
    | none => simp [hm] at hv
    | some m =>
      have hcase : m.caseId = some caseId := by
        simp only [hm, Bool.and_eq_true, decide_eq_true_eq] at hv
        exact hv.1.1.1.1.1.1.2
      simpa only [hsame _ _ hm hcase, hm] using hv
  unaccepted := h.unaccepted
  asked := h.asked
  asks := h.asks
  stored := h.stored

/-- What is not part of the history does not matter. -/
theorem FactHistory.of_rows (h : FactHistory l caseId f) (hassertions : f'.assertions = f.assertions)
    (hquestions : f'.questions = f.questions) (hconsumptions : f'.consumptions = f.consumptions)
    (hsnapshot : f'.snapshot = f.snapshot) : FactHistory l caseId f' := by
  constructor <;> simp only [hassertions, hquestions, hconsumptions, hsnapshot]
  · exact h.sequence
  · exact h.ids
  · exact h.owner
  · exact h.sources
  · exact h.consumed
  · exact h.unaccepted
  · exact h.asked
  · exact h.asks
  · exact h.stored

/-- A consumption stays verified when questions are added. -/
theorem consumptionVerified.of_questions {questions questions' : List FactQuestion}
    {assertions : List CaseFactAssertion} {c : ConsumptionRow}
    (h : consumptionVerified l caseId questions assertions c = true)
    (hmore : ∀ q ∈ questions, q ∈ questions') :
    consumptionVerified l caseId questions' assertions c = true := by
  unfold consumptionVerified at h ⊢
  cases hm : l.getMessage c.sourceMessageId with
  | none => simp [hm] at h
  | some m =>
    simp only [hm, Bool.and_eq_true, decide_eq_true_eq] at h ⊢
    obtain ⟨⟨⟨⟨⟨⟨⟨hquestion, h₁⟩, h₂⟩, h₃⟩, h₄⟩, h₅⟩, h₆⟩, h₇⟩ := h
    obtain ⟨q, hq, hid⟩ := List.mem_map.mp hquestion
    exact ⟨⟨⟨⟨⟨⟨⟨List.mem_map.mpr ⟨q, hmore q hq, hid⟩, h₁⟩, h₂⟩, h₃⟩, h₄⟩, h₅⟩, h₆⟩, h₇⟩

/-- A consumption stays verified when assertions are added. -/
theorem consumptionVerified.of_assertions {questions : List FactQuestion}
    {assertions assertions' : List CaseFactAssertion} {c : ConsumptionRow}
    (h : consumptionVerified l caseId questions assertions c = true)
    (hnone : c.decision.accepted = false → c.assertionId = none)
    (hmore : ∀ id ∈ assertions.map (·.assertionId), id ∈ assertions'.map (·.assertionId)) :
    consumptionVerified l caseId questions assertions' c = true := by
  unfold consumptionVerified at h ⊢
  cases hm : l.getMessage c.sourceMessageId with
  | none => simp [hm] at h
  | some m =>
    simp only [hm, Bool.and_eq_true] at h ⊢
    refine ⟨h.1, ?_⟩
    cases haccepted : c.decision.accepted with
    | false => simp [hnone haccepted]
    | true =>
      have hid := h.2
      simp only [haccepted, beq_iff_eq, true_eq_decide_iff] at hid
      obtain ⟨id, hmem, hold⟩ := hid
      simp only [beq_iff_eq, true_eq_decide_iff]
      exact ⟨id, hmem, hmore id hold⟩

namespace CaseFactService

/-- What a rebuilt snapshot says about its history. -/
structure Rebuilt (l : ConversationStore) (caseId : RowId) (f : CaseFolder)
    (snapshot : CaseFactSnapshot) : Prop where
  rebuilt : rebuildFolder l caseId f = .ok snapshot
  owner : snapshot.caseId = caseId
  revision : snapshot.revision = f.assertions.length + f.questions.length
  asks : ∀ code, (snapshot.questionState code).asks = (questionsAbout caseId code f.questions).length
  inapplicable : proofContext f.toolCalls = none →
    (snapshot.questionState .reportedDeliveryLocationChecked).status = .inapplicable

/-- The checks of a history that the operations build succeed. -/
theorem rebuildFolder_eq (h : FactHistory l caseId f) : rebuildFolder l caseId f =
    rebuildCaseFactSnapshot caseId f.assertions f.questions (proofContext f.toolCalls) := by
  have hsources : (f.assertions.any fun a => !messageVerified l a) = false := by
    simpa using h.sources
  have hconsumed : (f.consumptions.any fun c =>
      !consumptionVerified l caseId f.questions f.assertions c) = false := by
    simpa using h.consumed
  unfold rebuildFolder
  rw [if_neg (by simp [hsources]), if_neg (by simp [hconsumed])]

/-- A history that the operations build rebuilds. -/
theorem rebuildFolder_ok (h : FactHistory l caseId f) : ∃ snapshot, Rebuilt l caseId f snapshot := by
  obtain ⟨s, hs, howner, hrevision, hasks, hproof⟩ : ∃ s, rebuildProjection caseId f.assertions
      f.questions (proofContext f.toolCalls) = .ok s ∧ _ :=
    rebuildProjection_ok h.sequence h.ids h.owner h.asked h.asks
  refine ⟨⟨s, FactDigest.snapshotHash s⟩, ?_, howner, hrevision, hasks, hproof⟩
  rw [rebuildFolder_eq h, rebuildCaseFactSnapshot, hs]
  rfl

end CaseFactService

/-- A step of the fact service: the history grows, and the snapshot that is stored is its own. -/
structure FactStep (l : ConversationStore) (caseId : RowId) (f f' : CaseFolder) : Prop where
  history : FactHistory l caseId f'
  current : ∀ snapshot, CaseFactService.rebuildFolder l caseId f' = .ok snapshot →
    f'.snapshot = some snapshot
  row : f'.row = f.row
  toolCalls : f'.toolCalls = f.toolCalls
  proposals : f'.proposals = f.proposals
  actions : f'.actions = f.actions

/-! ### The operations of the service -/

namespace CaseFactService

variable {s : SharedState}

theorem rebuildCase_eq (hf : l.folders caseId = some f) :
    rebuildCase caseId (l, s) = liftFact (rebuildFolder l caseId f) (l, s) := by
  rw [rebuildCase, Transaction.bind_ok (requireCase_ok hf), Transaction.bind_ok rfl]

theorem rebuildCase_ok {snapshot : CaseFactSnapshot} (hf : l.folders caseId = some f)
    (h : rebuildFolder l caseId f = .ok snapshot) :
    rebuildCase caseId (l, s) = .ok (snapshot, (l, s)) := by
  rw [rebuildCase_eq hf, h]
  rfl

/-- A refresh stores the rebuilt snapshot. -/
theorem refreshSnapshot_ok (hf : l.folders caseId = some f) (h : FactHistory l caseId f) :
    ∃ snapshot, Rebuilt l caseId f snapshot ∧ refreshSnapshot caseId (l, s) =
      .ok (snapshot, (l.setFolder caseId { f with snapshot := some snapshot }, s)) := by
  obtain ⟨snapshot, hr⟩ := rebuildFolder_ok h
  refine ⟨snapshot, hr, ?_⟩
  have hrevision : ∀ stored ∈ f.snapshot, stored.revision ≤ snapshot.revision := by
    rw [hr.revision]
    exact h.stored
  have howner := hr.owner
  subst howner
  rw [refreshSnapshot, Transaction.bind_ok (rebuildCase_ok hf hr.rebuilt),
    Transaction.bind_ok (storeCaseFactSnapshot_ok (x := (l, s)) hf hrevision)]
  rfl

/-- The history under a refreshed snapshot. -/
theorem FactStep.refreshed {snapshot : CaseFactSnapshot} (h : FactHistory l caseId f)
    (hr : Rebuilt l caseId f snapshot) :
    FactStep l caseId f { f with snapshot := some snapshot } where
  history := { h with
    stored := by
      rintro s' ⟨rfl⟩
      exact hr.revision.le }
  current s' hs' := by
    have hsame : rebuildFolder l caseId f = .ok s' := hs'
    rw [hr.rebuilt] at hsame
    rw [Except.ok.inj hsame]
  row := rfl
  toolCalls := rfl
  proposals := rfl
  actions := rfl

/-- A load finds the rebuilt snapshot, or a stored one that differs. -/
theorem loadSnapshot_cases (hf : l.folders caseId = some f) (h : FactHistory l caseId f) :
    ∃ snapshot, Rebuilt l caseId f snapshot ∧
      (((∀ stored ∈ f.snapshot, stored = snapshot) ∧
          loadSnapshot caseId (l, s) = .ok (snapshot, (l, s))) ∨
        ((∃ stored ∈ f.snapshot, stored ≠ snapshot) ∧ loadSnapshot caseId (l, s) = .error
          (.caseFact (.integrity "stored/rebuilt CaseFactSnapshot disagreement")))) := by
  obtain ⟨snapshot, hr⟩ := rebuildFolder_ok h
  refine ⟨snapshot, hr, ?_⟩
  rw [loadSnapshot, Transaction.bind_ok (requireCase_ok hf),
    Transaction.bind_ok (rebuildCase_ok hf hr.rebuilt)]
  by_cases hd : ∃ stored ∈ f.snapshot, stored ≠ snapshot
  · rw [if_pos hd]
    exact Or.inr ⟨hd, rfl⟩
  · rw [if_neg hd]
    push Not at hd
    exact Or.inl ⟨hd, rfl⟩

/-- What a transaction of the fact service comes to: it is refused, or it takes a step or none. -/
inductive Outcome {α : Type} (l : ConversationStore) (s : SharedState) (caseId : RowId)
    (f : CaseFolder) (t : Tx α) : Prop
  | refused (e : CaseFactError) (result : t (l, s) = .error (.caseFact e)) (cause : e ≠ .validation)
  | unchanged (a : α) (result : t (l, s) = .ok (a, (l, s)))
  | stepped (a : α) (f' : CaseFolder) (result : t (l, s) = .ok (a, (l.setFolder caseId f', s)))
      (step : FactStep l caseId f f')

theorem Outcome.congr {α : Type} {t t' : Tx α} (h : Outcome l s caseId f t)
    (hsame : t' (l, s) = t (l, s)) : Outcome l s caseId f t' := by
  cases h with
  | refused e result cause => exact .refused e (hsame.trans result) cause
  | unchanged a result => exact .unchanged a (hsame.trans result)
  | stepped a f' result step => exact .stepped a f' (hsame.trans result) step

omit [FactDigest] in
theorem rejectIf_ok {p : Prop} [Decidable p] {message : String} {x : ServiceState} (h : ¬ p) :
    rejectIf p message x = .ok ((), x) := by
  rw [rejectIf, if_neg h]
  rfl

namespace Outcome

variable {α β : Type}

/-- A look at the state comes first. -/
theorem bind {t : Tx β} {next : β → Tx α} {b : β} (ht : t (l, s) = .ok (b, (l, s)))
    (h : Outcome l s caseId f (next b)) : Outcome l s caseId f (t >>= next) :=
  h.congr (Transaction.bind_ok ht)

/-- A check comes first. -/
theorem rejectIf {p : Prop} [Decidable p] {message : String} {next : Unit → Tx α}
    (h : ¬ p → Outcome l s caseId f (next ())) :
    Outcome l s caseId f (CaseFactService.rejectIf p message >>= next) := by
  by_cases hp : p
  · refine .refused (.rejected message) (Transaction.bind_error ?_) (by simp)
    rw [CaseFactService.rejectIf, if_pos hp]
    rfl
  · exact (h hp).bind (rejectIf_ok hp)

/-- A lookup comes first. -/
theorem requireFact {message : String} {r : Option β} {next : β → Tx α}
    (h : ∀ b, r = some b → Outcome l s caseId f (next b)) :
    Outcome l s caseId f (CaseFactService.requireFact message r >>= next) := by
  cases r with
  | none => exact .refused (.rejected message) (Transaction.bind_error rfl) (by simp)
  | some b => exact (h b rfl).bind rfl

/-- A load comes first; it is refused when the stored snapshot differs. -/
theorem load {next : CaseFactSnapshot → Tx α} (hf : l.folders caseId = some f)
    (hhistory : FactHistory l caseId f)
    (h : ∀ snapshot, Rebuilt l caseId f snapshot → Outcome l s caseId f (next snapshot)) :
    Outcome l s caseId f (loadSnapshot caseId >>= next) := by
  obtain ⟨snapshot, hr, ⟨-, hload⟩ | ⟨-, hload⟩⟩ := loadSnapshot_cases (s := s) hf hhistory
  · exact (h snapshot hr).bind hload
  · exact .refused _ (Transaction.bind_error hload) (by simp)

/-- What is returned may be computed from the answer. -/
theorem map {t : Tx β} (h : Outcome l s caseId f t) (g : β → α) :
    Outcome l s caseId f (t >>= fun b => pure (g b)) := by
  cases h with
  | refused e result cause => exact .refused e (Transaction.bind_error result) cause
  | unchanged b result => exact .unchanged (g b) (Transaction.bind_ok result)
  | stepped b f' result step => exact .stepped (g b) f' (Transaction.bind_ok result) step

end Outcome

omit [PolicyDigest] [FactDigest] in
/-- The questions about a fact, when one more question was asked. -/
theorem questionsAbout_append {code : FactCode} {questions : List FactQuestion} {q : FactQuestion} :
    (questionsAbout caseId code (questions ++ [q])).length ≤
      (questionsAbout caseId code questions).length + 1 ∧
      (q.factCode ≠ code → (questionsAbout caseId code (questions ++ [q])).length =
        (questionsAbout caseId code questions).length) := by
  unfold questionsAbout
  rw [List.filter_append, List.length_append]
  refine ⟨?_, fun h => by simp [h]⟩
  have hone := List.length_filter_le
    (fun q : FactQuestion => decide (q.caseId = caseId ∧ q.factCode = code)) [q]
  simp only [List.length_singleton] at hone
  omega

omit [PolicyDigest] [FactDigest] in
/-- A question that may be asked has been asked less than twice. -/
theorem asks_of_allowed {snapshot : CaseFactProjection} {code : FactCode} {n : Nat}
    (h : questionAllowed snapshot code n = true) : (snapshot.questionState code).asks < 2 := by
  unfold questionAllowed at h
  simp only at h
  split at h
  · cases h
  · split at h
    · cases h
    · cases h
    · cases h
    · cases h
    · exact of_decide_eq_true h
    · have hzero := of_decide_eq_true h
      omega

/-- The folder that a new question leaves. -/
def askedFolder (f : CaseFolder) (question : FactQuestion) (snapshot : CaseFactSnapshot) :
    CaseFolder :=
  { f with
    questions := f.questions ++ [question]
    snapshot := some snapshot }

/-- A new question that is allowed extends the history. -/
theorem askQuestion_ok {snapshot : CaseFactSnapshot} {question : FactQuestion}
    (hf : l.folders caseId = some f) (h : FactHistory l caseId f)
    (hr : Rebuilt l caseId f snapshot) (howner : question.caseId = caseId)
    (hfind : f.questions.find? (fun q => q.questionId = question.questionId) = none)
    (hallowed : ¬ questionAllowed snapshot.toCaseFactProjection question.factCode
      f.row.businessClarificationCount = false) :
    ∃ snapshot', askQuestion caseId f snapshot question (l, s) =
        .ok ((question, true), (l.setFolder caseId (askedFolder f question snapshot'), s)) ∧
      FactStep l caseId f (askedFolder f question snapshot') := by
  have hnew : question.questionId ∉ f.questions.map (·.questionId) := by
    simpa using hfind
  have hasks := asks_of_allowed (by simpa using hallowed)
  have hgrown : FactHistory l caseId { f with questions := f.questions ++ [question] } :=
    { h with
      consumed := fun c hc => consumptionVerified.of_questions (h.consumed c hc)
        fun _ hq => List.mem_append_left _ hq
      asked := by
        intro q hq
        rcases List.mem_append.mp hq with hq | hq
        · exact h.asked q hq
        · rw [List.mem_singleton.mp hq, howner]
      asks := by
        intro code
        by_cases e : question.factCode = code
        · subst e
          rw [hr.asks] at hasks
          exact questionsAbout_append.1.trans hasks
        · rw [questionsAbout_append.2 e]
          exact h.asks code
      stored := by
        intro stored hstored
        have hle := h.stored stored hstored
        simp only [List.length_append, List.length_singleton]
        omega }
  subst howner
  obtain ⟨snapshot', hr', hrefresh⟩ := refreshSnapshot_ok (s := s)
    (ConversationStore.setFolder_self l question.caseId _)
    (hgrown.of_messages fun _ _ hm _ => hm)
  have hr₀ : Rebuilt l question.caseId { f with questions := f.questions ++ [question] }
      snapshot' := ⟨hr'.rebuilt, hr'.owner, hr'.revision, hr'.asks, hr'.inapplicable⟩
  refine ⟨snapshot', ?_,
    { FactStep.refreshed hgrown hr₀ with
      row := rfl
      toolCalls := rfl
      proposals := rfl
      actions := rfl }⟩
  unfold askQuestion
  rw [hfind]
  simp only
  rw [Transaction.bind_ok (rejectIf_ok hallowed),
    Transaction.bind_ok (appendCaseFactQuestion_ok (x := (l, s)) hf hnew),
    Transaction.bind_ok hrefresh, ConversationStore.setFolder_setFolder]
  rfl

/-- A question that is not refused is known already, or extends the history. -/
theorem askQuestion_outcome {snapshot : CaseFactSnapshot} {question : FactQuestion}
    (hf : l.folders caseId = some f) (h : FactHistory l caseId f)
    (hr : Rebuilt l caseId f snapshot) (howner : question.caseId = caseId) :
    Outcome l s caseId f (askQuestion caseId f snapshot question) := by
  cases hfind : f.questions.find? fun q => q.questionId = question.questionId with
  | some existing =>
    refine .unchanged (existing, false) ?_
    unfold askQuestion
    rw [hfind]
    rfl
  | none =>
    by_cases hallowed : questionAllowed snapshot.toCaseFactProjection question.factCode
        f.row.businessClarificationCount = false
    · refine .refused (.rejected "Case Fact question is not allowed by repeat/budget policy") ?_
        (by simp)
      unfold askQuestion
      rw [hfind]
      simp only
      refine Transaction.bind_error ?_
      rw [rejectIf, if_pos hallowed]
      rfl
    · obtain ⟨snapshot', hasked, hstep⟩ := askQuestion_ok (s := s) hf h hr howner hfind hallowed
      exact .stepped _ _ hasked hstep

/-- A question about a case is refused, is known already, or extends the history. -/
theorem recordQuestion_outcome {code : FactCode} (hf : l.folders caseId = some f)
    (h : FactHistory l caseId f) : Outcome l s caseId f (recordQuestion caseId code) := by
  obtain ⟨snapshot, hr⟩ := rebuildFolder_ok h
  exact .bind (requireCase_ok (x := (l, s)) hf) (.bind (rebuildCase_ok hf hr.rebuilt)
    (.bind rfl (askQuestion_outcome hf h hr rfl)))

/-! ### Accepting a reply -/

section Accept

variable [CaseFolding]

omit [PolicyDigest] [FactDigest] in
/-- The interpretation of a reply spans it, and is about the fact that was asked. -/
theorem authoritative_shape {content : String} {code : FactCode}
    {active : List CaseFactAssertion} {proof : Option DeliveryProofFactContext}
    {candidate : CaseFactCandidate}
    (h : authoritativeInterpretation content code active proof = .ok candidate) :
    candidate.factCode = code ∧ candidate.sourceSpan.stop = content.length := by
  unfold authoritativeInterpretation at h
  simp only at h
  split at h
  · cases h
  · split at h
    · cases h
    · split at h
      · split at h
        · rw [← Except.ok.inj h]
          exact ⟨rfl, rfl⟩
        · split at h
          · rw [← Except.ok.inj h]
            exact ⟨rfl, rfl⟩
          · split at h
            · split at h
              · cases h
              · rw [← Except.ok.inj h]
                exact ⟨rfl, rfl⟩
            · split at h
              · rw [← Except.ok.inj h]
                exact ⟨rfl, rfl⟩
              · rw [← Except.ok.inj h]
                exact ⟨rfl, rfl⟩
      · cases h

omit [PolicyDigest] [FactDigest] in
/-- A validated candidate is the interpretation, and is bound to the proof its fact needs. -/
theorem validateCandidate_ok {candidate : CaseFactCandidate} {content : String}
    {messageCaseId : Option RowId} {code : FactCode} {active : List CaseFactAssertion}
    {proof bound : Option DeliveryProofFactContext}
    (h : validateCandidate candidate caseId messageCaseId true content code active proof
      = .ok bound) : authoritativeInterpretation content code active proof = .ok candidate ∧
      bound = if candidate.factCode = .reportedDeliveryLocationChecked then proof else none := by
  unfold validateCandidate at h
  split at h
  · cases h
  · split at h
    · cases h
    · split at h
      · cases h
      · rename_i authoritative hauth
        split at h
        · cases h
        · rename_i hsame
          rw [not_not] at hsame
          subst hsame
          refine ⟨hauth, ?_⟩
          split at h <;> rename_i hcode
          · rw [if_pos hcode, Except.ok.inj h]
          · rw [if_neg hcode, Except.ok.inj h]

/-- The assertion says what a text is read as. -/
structure Reads (content : String) (code : FactCode) (active : List CaseFactAssertion)
    (proof : Option DeliveryProofFactContext) (a : CaseFactAssertion)
    (candidate : CaseFactCandidate) : Prop where
  interpretation : authoritativeInterpretation content code active proof = .ok candidate
  factCode : a.factCode = candidate.factCode
  value : a.value = candidate.value
  relation : a.relation = candidate.relationHint
  target : a.supersedesAssertionId = candidate.targetAssertionId
  span : a.sourceSpan = candidate.sourceSpan

/-- An assertion that a message supports. -/
structure Supported (caseId : RowId) (f : CaseFolder) (question : FactQuestion)
    (message : MessageRow) (a : CaseFactAssertion) : Prop where
  owner : a.caseId = caseId
  source : a.sourceMessageId = message.messageId
  hash : a.sourceMessageHash = FactDigest.messageHash message.content
  sequence : a.assertionSequence = f.assertions.length + 1
  fingerprint : ∃ fp : AssertionFingerprint, fp.sourceMessageId = message.messageId ∧
    a.assertionId = FactDigest.assertionId fp
  reads : ∃ candidate, Reads message.content question.factCode (activeAssertions f.assertions)
    (proofContext f.toolCalls) a candidate

theorem Supported.span {question : FactQuestion} {message : MessageRow} {a : CaseFactAssertion}
    (h : Supported caseId f question message a) : a.sourceSpan.stop = message.content.length := by
  obtain ⟨candidate, hreads⟩ := h.reads
  rw [hreads.span]
  exact (authoritative_shape hreads.interpretation).2

omit [PolicyDigest] [FactDigest] [CaseFolding] in
/-- A validated batch has the candidates that its items parse as. -/
theorem mem_of_validated {items : List (Option CaseFactCandidate)}
    {candidates : List CaseFactCandidate} (h : validateCandidateBatch items = .ok candidates) :
    ∀ c ∈ candidates, some c ∈ items := by
  unfold validateCandidateBatch at h
  split at h
  · cases h
  · split at h
    · rw [← Except.ok.inj h]
      exact fun c hc => List.reduceOption_mem_iff.mp hc
    · cases h

/-- What a merged batch comes to: an assertion that the message supports, or a refusal. -/
structure Merged (caseId : RowId) (f : CaseFolder) (question : FactQuestion)
    (message : MessageRow) (batch : UntrustedBatch) (assertion : Option CaseFactAssertion)
    (decision : FactMergeDecision) : Prop where
  assertionId : decision.assertionId = assertion.map (·.assertionId)
  accepted : decision.accepted = assertion.isSome
  batchHash : decision.candidateBatchHash = batch.hash
  supported : ∀ a ∈ assertion, Supported caseId f question message a

theorem mergeBatch_ok {question : FactQuestion} {message : MessageRow} {batch : UntrustedBatch}
    {assertion : Option CaseFactAssertion} {decision : FactMergeDecision}
    (h : mergeBatch caseId f question message batch = .ok (assertion, decision)) :
    Merged caseId f question message batch assertion decision := by
  have hrefused : ∀ {reasonCode : String},
      (Except.ok (none, ⟨false, reasonCode, none, batch.hash⟩) :
        Except CaseFactError (Option CaseFactAssertion × FactMergeDecision))
        = .ok (assertion, decision) →
      Merged caseId f question message batch assertion decision := by
    intro reasonCode h
    obtain ⟨rfl, rfl⟩ := Prod.mk.inj (Except.ok.inj h)
    exact ⟨rfl, rfl, rfl, by simp⟩
  unfold mergeBatch at h
  simp only at h
  split at h
  · exact hrefused h
  · exact hrefused h
  · rename_i candidate hparsed
    split at h
    · exact hrefused h
    · rename_i proof hvalid
      obtain ⟨hauth, hbound⟩ := validateCandidate_ok hvalid
      unfold acceptedAssertion at h
      split at h
      · obtain ⟨rfl, rfl⟩ := Prod.mk.inj (Except.ok.inj h)
        refine ⟨rfl, rfl, rfl, ?_⟩
        rintro a ⟨rfl⟩
        exact ⟨rfl, rfl, rfl, rfl, ⟨_, rfl, rfl⟩, candidate, hauth, rfl, rfl, rfl, rfl, rfl⟩
      · cases h
  · exact hrefused h

/-- Only a location fact without a proof does not fit the record of an assertion. -/
theorem mergeBatch_total {question : FactQuestion} {message : MessageRow} {batch : UntrustedBatch}
    (hproof : ∀ c, some c ∈ batch.items → c.factCode = .reportedDeliveryLocationChecked →
      (proofContext f.toolCalls).isSome) :
    ∃ assertion decision,
      mergeBatch caseId f question message batch = .ok (assertion, decision) := by
  unfold mergeBatch
  match hparsed : validateCandidateBatch batch.items with
  | .error _ => exact ⟨none, _, rfl⟩
  | .ok [] => exact ⟨none, _, rfl⟩
  | .ok (_ :: _ :: _) => exact ⟨none, _, rfl⟩
  | .ok [candidate] =>
    simp only
    cases hvalid : validateCandidate candidate caseId message.caseId true message.content
        question.factCode (activeAssertions f.assertions) (proofContext f.toolCalls) with
    | error e => exact ⟨none, _, rfl⟩
    | ok proof =>
      have hbound := (validateCandidate_ok hvalid).2
      have hiff : candidate.factCode = .reportedDeliveryLocationChecked ↔ proof.isSome := by
        have hitem := hproof candidate (mem_of_validated hparsed candidate List.mem_cons_self)
        rw [hbound]
        split
        · rename_i hcode
          simp [hitem hcode, hcode]
        · rename_i hcode
          simp [hcode]
      simp only [acceptedAssertion, dif_pos hiff]
      exact ⟨some _, _, rfl⟩

/-- The decision about a reply refers to the assertions it is stored with. -/
structure Decided (assertions : List CaseFactAssertion) (decision : FactMergeDecision) : Prop where
  accepted : decision.accepted = true →
    ∃ id ∈ decision.assertionId, id ∈ assertions.map (·.assertionId)
  refused : decision.accepted = false → decision.assertionId = none

/-- The assertions after an accepted one, which may be in the history already. -/
def grown (assertions : List CaseFactAssertion) : Option CaseFactAssertion → List CaseFactAssertion
  | none => assertions
  | some a =>
    if a.assertionId ∈ assertions.map (·.assertionId) then assertions else assertions ++ [a]

/-- An accepted assertion extends the history, unless it is in it already. -/
theorem appendAccepted_ok {assertion : Option CaseFactAssertion} {question : FactQuestion}
    {message : MessageRow} {batch : UntrustedBatch} {decision : FactMergeDecision}
    (hf : l.folders caseId = some f) (h : FactHistory l caseId f)
    (hmessage : l.getMessage message.messageId = some message)
    (hbound : message.caseId = some caseId)
    (hmerged : Merged caseId f question message batch assertion decision) :
    appendAccepted assertion (l, s) =
        .ok ((), (l.setFolder caseId { f with assertions := grown f.assertions assertion }, s)) ∧
      FactHistory l caseId { f with assertions := grown f.assertions assertion } ∧
      Decided (grown f.assertions assertion) decision := by
  obtain ⟨hid, haccepted, -, hsupported⟩ := hmerged
  cases assertion with
  | none =>
    refine ⟨?_, h, ?_, ?_⟩
    · rw [grown, ConversationStore.setFolder_same hf]
      rfl
    · simp [haccepted]
    · simp [hid]
  | some a =>
    have hspan := (hsupported a rfl).span
    obtain ⟨howner, hsource, hhash, hsequence, -, -⟩ := hsupported a rfl
    simp only [Option.map_some] at hid
    simp only [Option.isSome_some] at haccepted
    subst howner
    by_cases hknown : a.assertionId ∈ f.assertions.map (·.assertionId)
    · rw [grown, if_pos hknown]
      refine ⟨?_, h, fun _ => ⟨_, hid, hknown⟩, by simp [haccepted]⟩
      rw [ConversationStore.setFolder_same hf, appendAccepted, appendCaseFactAssertion,
        Transaction.bind_ok (requireCase_ok (x := (l, s)) hf), if_pos hknown]
      rfl
    · rw [grown, if_neg hknown]
      refine ⟨appendCaseFactAssertion_ok (x := (l, s)) hf hknown hsequence, ?_,
        fun _ => ⟨_, hid, by simp⟩, by simp [haccepted]⟩
      exact
        { h with
          sequence := by
            simp only [List.map_append, h.sequence, List.map_singleton, hsequence,
              List.length_append, List.length_singleton, List.range'_concat, Nat.one_mul,
              Nat.add_comm]
          ids := by
            simp only [List.map_append, List.map_singleton]
            exact List.nodup_append.mpr ⟨h.ids, List.nodup_singleton _, by
              intro x hx y hy
              rw [List.mem_singleton.mp hy]
              rintro rfl
              exact hknown hx⟩
          owner := by
            intro b hb
            rcases List.mem_append.mp hb with hb | hb
            · exact h.owner b hb
            · rw [List.mem_singleton.mp hb]
          sources := by
            intro b hb
            rcases List.mem_append.mp hb with hb | hb
            · exact h.sources b hb
            · rw [List.mem_singleton.mp hb]
              simp [messageVerified, hsource, hmessage, hbound, hhash, hspan]
          consumed := by
            intro c hc
            exact consumptionVerified.of_assertions (h.consumed c hc) (h.unaccepted c hc)
              fun id hid => by
                rw [List.map_append]
                exact List.mem_append_left _ hid
          stored := by
            intro stored hstored
            have hle := h.stored stored hstored
            simp only [List.length_append, List.length_singleton]
            omega }

omit [CaseFolding] in
/-- A decided message extends the history by its consumption. -/
theorem FactHistory.consume {question : FactQuestion} {message : MessageRow}
    {decision : FactMergeDecision} (h : FactHistory l caseId f)
    (hmessage : l.getMessage message.messageId = some message)
    (hbound : message.caseId = some caseId) (hquestion : question ∈ f.questions)
    (hdecided : Decided f.assertions decision) :
    FactHistory l caseId
      { f with consumptions := f.consumptions ++ [consumptionOf question message decision] } :=
  { h with
    consumed := by
      intro c hc
      rcases List.mem_append.mp hc with hc | hc
      · exact h.consumed c hc
      · rw [List.mem_singleton.mp hc]
        have hasked : question.questionId ∈ f.questions.map (·.questionId) :=
          List.mem_map_of_mem hquestion
        have hparity : decision.accepted = decide
            (∃ id ∈ decision.assertionId, id ∈ f.assertions.map (·.assertionId)) := by
          cases haccepted : decision.accepted with
          | true => simpa using hdecided.accepted haccepted
          | false => simp [hdecided.refused haccepted]
        simp only [consumptionVerified, consumptionOf, hmessage, hbound, hasked, decide_true,
          Bool.and_self, Bool.true_and, beq_iff_eq]
        exact hparity
    unaccepted := by
      intro c hc
      rcases List.mem_append.mp hc with hc | hc
      · exact h.unaccepted c hc
      · rw [List.mem_singleton.mp hc]
        exact hdecided.refused }

/-- The folder that a consumed message leaves. -/
def consumedFolder (f : CaseFolder) (question : FactQuestion) (message : MessageRow)
    (assertion : Option CaseFactAssertion) (decision : FactMergeDecision)
    (snapshot : CaseFactSnapshot) : CaseFolder :=
  { f with
    assertions := grown f.assertions assertion
    consumptions := f.consumptions ++ [consumptionOf question message decision]
    snapshot := some snapshot }

/-- A merged batch extends the history. -/
theorem consume_ok {question : FactQuestion} {message : MessageRow} {batch : UntrustedBatch}
    {assertion : Option CaseFactAssertion} {decision : FactMergeDecision}
    (hf : l.folders caseId = some f) (h : FactHistory l caseId f)
    (hmessage : l.getMessage message.messageId = some message)
    (hbound : message.caseId = some caseId) (hquestion : question ∈ f.questions)
    (hfree : consumptionForQuestion f question.questionId = none)
    (hunread : consumptionForMessage f message.messageId = none)
    (hmerge : mergeBatch caseId f question message batch = .ok (assertion, decision)) :
    ∃ snapshot, consume caseId f question message batch (l, s) = .ok ((snapshot, decision),
        (l.setFolder caseId (consumedFolder f question message assertion decision snapshot), s)) ∧
      FactStep l caseId f (consumedFolder f question message assertion decision snapshot) := by
  obtain ⟨happend, hgrown, hdecided⟩ :=
    appendAccepted_ok (s := s) hf h hmessage hbound (mergeBatch_ok hmerge)
  obtain ⟨snapshot, hr, hrefresh⟩ := refreshSnapshot_ok (s := s)
    (ConversationStore.setFolder_self l caseId { f with assertions := grown f.assertions assertion })
    (hgrown.of_messages fun _ _ hm _ => hm)
  have hr₀ : Rebuilt l caseId { f with assertions := grown f.assertions assertion } snapshot :=
    ⟨hr.rebuilt, hr.owner, hr.revision, hr.asks, hr.inapplicable⟩
  have hstep := FactStep.refreshed hgrown hr₀
  have hdone : FactHistory l caseId
      (consumedFolder f question message assertion decision snapshot) :=
    FactHistory.consume hstep.history hmessage hbound hquestion hdecided
  refine ⟨snapshot, ?_,
    { hstep with
      history := hdone
      current := by
        intro s' hs'
        rw [rebuildFolder_eq hdone] at hs'
        refine hstep.current s' ?_
        rw [rebuildFolder_eq hstep.history]
        exact hs' }⟩
  rw [consume, hmerge, Transaction.bind_ok rfl]
  simp only
  rw [Transaction.bind_ok happend, Transaction.bind_ok hrefresh,
    Transaction.bind_ok (appendCaseFactMessageConsumption_ok
      (ConversationStore.setFolder_self ..) hfree hunread)]
  simp only [ConversationStore.setFolder_setFolder]
  rfl

omit [CaseFolding] in
/-- A message that was consumed before changes nothing but the stored snapshot. -/
theorem replayConsumption_ok {question : FactQuestion} {message : MessageRow} {batchHash : String}
    {existing : ConsumptionRow} (hf : l.folders caseId = some f) (h : FactHistory l caseId f)
    (hsame : ¬ (existing.questionId ≠ question.questionId ∨
      existing.sourceMessageHash ≠ FactDigest.messageHash message.content ∨
      existing.candidateBatchHash ≠ batchHash)) :
    ∃ snapshot, Rebuilt l caseId f snapshot ∧
      replayConsumption caseId question message batchHash existing (l, s) =
        .ok ((snapshot, existing.decision),
          (l.setFolder caseId { f with snapshot := some snapshot }, s)) := by
  obtain ⟨snapshot, hr, hrefresh⟩ := refreshSnapshot_ok (s := s) hf h
  refine ⟨snapshot, hr, ?_⟩
  rw [replayConsumption, Transaction.bind_ok (rejectIf_ok hsame), Transaction.bind_ok hrefresh]
  rfl

omit [CaseFolding] in
theorem replayConsumption_outcome {question : FactQuestion} {message : MessageRow}
    {batchHash : String} {existing : ConsumptionRow} (hf : l.folders caseId = some f)
    (h : FactHistory l caseId f) :
    Outcome l s caseId f (replayConsumption caseId question message batchHash existing) := by
  refine .rejectIf fun hsame => ?_
  obtain ⟨snapshot, hr, hreplay⟩ := replayConsumption_ok (s := s) hf h hsame
  rw [replayConsumption, Transaction.bind_ok (rejectIf_ok hsame)] at hreplay
  exact .stepped (snapshot, existing.decision) _ hreplay (FactStep.refreshed h hr)

/-- A message that was not consumed before is refused, or extends the history. -/
theorem acceptFresh_outcome {question : FactQuestion} {message : MessageRow}
    {batch : UntrustedBatch} (hf : l.folders caseId = some f)
    (h : FactHistory l caseId f) (hmessage : l.getMessage message.messageId = some message)
    (hquestion : question ∈ f.questions)
    (hproof : ∀ c, some c ∈ batch.items → c.factCode = .reportedDeliveryLocationChecked →
      (proofContext f.toolCalls).isSome)
    (hunread : consumptionForMessage f message.messageId = none) :
    Outcome l s caseId f (acceptFresh caseId f question message batch) := by
  refine .rejectIf fun hfree => .rejectIf fun hbound => .rejectIf fun _ => .bind rfl ?_
  refine .rejectIf fun _ => ?_
  obtain ⟨assertion, decision, hmerge⟩ := mergeBatch_total hproof
  obtain ⟨snapshot, hconsume, hstep⟩ := consume_ok (s := s) hf h hmessage (not_not.mp hbound)
    hquestion (by simpa using hfree) hunread hmerge
  exact .stepped _ _ hconsume hstep

/-- A reply is refused, was consumed before, or extends the history. -/
theorem acceptMessage_outcome {messageId : RowId} {batch : UntrustedBatch}
    (hf : l.folders caseId = some f) (h : FactHistory l caseId f)
    (hproof : ∀ c, some c ∈ batch.items → c.factCode = .reportedDeliveryLocationChecked →
      (proofContext f.toolCalls).isSome) :
    Outcome l s caseId f (acceptMessage caseId messageId batch) := by
  refine .bind (requireCase_ok (x := (l, s)) hf) (.rejectIf fun _ => .bind rfl ?_)
  refine .requireFact fun message hmessage => .requireFact fun question hquestion => ?_
  have hid : message.messageId = messageId := by
    simpa using List.find?_some hmessage
  subst hid
  split
  · exact replayConsumption_outcome hf h
  · rename_i hunread
    exact acceptFresh_outcome hf h hmessage (List.mem_of_getLast? hquestion) hproof hunread

/-- The candidates for an outstanding question have the proof they need. -/
theorem extractCandidates_proof {snapshot : CaseFactSnapshot} {code : FactCode}
    {customerMessage : String} (hr : Rebuilt l caseId f snapshot)
    (houtstanding : outstandingCode snapshot = some code) :
    ∀ c ∈ extractCandidates f snapshot code customerMessage,
      c.factCode = .reportedDeliveryLocationChecked → (proofContext f.toolCalls).isSome := by
  intro c hc hcode
  obtain ⟨active, hauth⟩ : ∃ active, authoritativeInterpretation customerMessage code active
      (proofContext f.toolCalls) = .ok c := by
    simp only [extractCandidates, interpretCustomerReply, Option.mem_toList] at hc
    cases hread : authoritativeInterpretation customerMessage code
        (f.assertions.filter fun a => a.assertionId ∈ (snapshot.facts code).activeAssertionIds)
        (proofContext f.toolCalls) with
    | error e => simp [hread, Except.toOption] at hc
    | ok read =>
      have hsame : read = c := by simpa [hread, Except.toOption] using hc
      exact ⟨_, hsame ▸ hread⟩
  have hasked := List.find?_some houtstanding
  have hsame := (authoritative_shape hauth).1
  rw [hcode] at hsame
  subst hsame
  by_contra hnone
  rw [Option.not_isSome_iff_eq_none] at hnone
  simp [hr.inapplicable hnone] at hasked

end Accept

end CaseFactService

end AfterSales
