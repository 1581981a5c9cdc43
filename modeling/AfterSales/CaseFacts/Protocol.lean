import AfterSales.CaseFacts.History

/-! How replies are consumed, over every sequence of calls about a case.

    A question and a customer message meet in one consumption, which has at most one assertion:

        question ──┐
                   ├──▶ consumption ──▶ assertion (at most one)
        message ───┘

    Between two calls the rest of the application goes on: messages arrive and are bound to cases,
    reads are filed, the case moves on, time passes. No other code writes the tables of the facts. -/

namespace AfterSales
open Interleave Repository CaseFactService

variable [PolicyDigest] [FactDigest] [CaseFolding]

/-- A call of the fact service. -/
inductive FactCall where
  | recordQuestion (code : FactCode)
  | acceptMessage (messageId : RowId) (batch : UntrustedBatch)

/-- What a call returns. -/
inductive FactAnswer where
  | question (question : FactQuestion) (created : Bool)
  | acceptance (snapshot : CaseFactSnapshot) (decision : FactMergeDecision)

/-- A call about a case, as one transaction. -/
def FactCall.run (caseId : RowId) : FactCall → Tx FactAnswer
  | .recordQuestion code => do
    let (question, created) ← CaseFactService.recordQuestion caseId code
    return .question question created
  | .acceptMessage messageId batch => do
    let (snapshot, decision) ← CaseFactService.acceptMessage caseId messageId batch
    return .acceptance snapshot decision

/-- What happens to a case: a call, or something elsewhere in the application. -/
inductive FactEvent where
  | call (c : FactCall)
  | message (m : MessageRow)
  | bind (messageId caseId : RowId)
  | change (row : CaseRow) (reads : List ToolCallRow)
  | pass (elapsed : Nat)

/-- The state after an event; a call that raises is rolled back. -/
def FactEvent.apply (caseId : RowId) (x : ServiceState) : FactEvent → ServiceState
  | .call c => (Transaction.commit (c.run caseId) x).2
  | .message m =>
    if (x.1.getMessage m.messageId).isSome then x
    else ({ x.1 with messages := x.1.messages ++ [m] }, x.2)
  | .bind messageId other =>
    ({ x.1 with messages := x.1.messages.map fun m =>
        if m.messageId = messageId ∧ m.caseId = none then { m with caseId := some other } else m },
      x.2)
  | .change row reads =>
    match x.1.folders caseId with
    | none => x
    | some f => (x.1.setFolder caseId { f with row := row, toolCalls := f.toolCalls ++ reads }, x.2)
  | .pass elapsed => (x.1, { x.2 with now := x.2.now + elapsed })

/-- The state after a sequence of events. -/
def factRun (caseId : RowId) (x : ServiceState) (events : List FactEvent) : ServiceState :=
  events.foldl (FactEvent.apply caseId) x

/-- A case is created, without facts, in any conversation. -/
def factsCreated (l : ConversationStore) (s : SharedState) (caseId : RowId) (row : CaseRow) :
    ServiceState :=
  (l.setFolder caseId ⟨row, [], [], [], [], none, [], []⟩, s)

/-! ### What holds between calls -/

variable {l l' : ConversationStore} {s : SharedState} {caseId : RowId} {f f' : CaseFolder}

/-- The consumptions that led to an assertion, with the message they consumed. -/
def assertionSources (consumptions : List ConsumptionRow) : List (String × RowId) :=
  consumptions.filterMap fun c => c.assertionId.map (·, c.sourceMessageId)

/-- The tables of the facts of a case, coupled. -/
structure FactLedger (l : ConversationStore) (caseId : RowId) (f : CaseFolder) : Prop where
  history : FactHistory l caseId f
  questionsOnce : (f.consumptions.map (·.questionId)).Nodup
  messagesOnce : (f.consumptions.map (·.sourceMessageId)).Nodup
  paired : assertionSources f.consumptions =
    f.assertions.map fun a => (a.assertionId, a.sourceMessageId)
  fingerprints : ∀ a ∈ f.assertions, ∃ fp : AssertionFingerprint,
    fp.sourceMessageId = a.sourceMessageId ∧ a.assertionId = FactDigest.assertionId fp
  readings : ∀ i a, f.assertions[i]? = some a → ∃ m proof candidate,
    l.getMessage a.sourceMessageId = some m ∧
      Reads m.content a.factCode (activeAssertions (f.assertions.take i)) proof a candidate

namespace FactLedger

/-- A case starts with an empty ledger. -/
theorem created (row : CaseRow) : FactLedger l caseId ⟨row, [], [], [], [], none, [], []⟩ where
  history := .created row
  questionsOnce := List.nodup_nil
  messagesOnce := List.nodup_nil
  paired := rfl
  fingerprints := by simp
  readings := by simp

/-- The ledger rests on its own tables, and on the messages bound to the case. -/
theorem elsewhere (h : FactLedger l caseId f) (hassertions : f'.assertions = f.assertions)
    (hquestions : f'.questions = f.questions) (hconsumptions : f'.consumptions = f.consumptions)
    (hsnapshot : f'.snapshot = f.snapshot)
    (hmessages : ∀ id m, l.getMessage id = some m → m.caseId = some caseId →
      l'.getMessage id = some m) : FactLedger l' caseId f' where
  history := (h.history.of_rows hassertions hquestions hconsumptions hsnapshot).of_messages hmessages
  questionsOnce := by rw [hconsumptions]; exact h.questionsOnce
  messagesOnce := by rw [hconsumptions]; exact h.messagesOnce
  paired := by rw [hconsumptions, hassertions]; exact h.paired
  fingerprints := by rw [hassertions]; exact h.fingerprints
  readings := by
    rw [hassertions]
    intro i a ha
    obtain ⟨m, proof, candidate, hm, hreads⟩ := h.readings i a ha
    have hverified := h.history.sources a (List.mem_of_getElem? ha)
    have howner := h.history.owner a (List.mem_of_getElem? ha)
    simp only [messageVerified, hm, Bool.and_eq_true, decide_eq_true_eq] at hverified
    exact ⟨m, proof, candidate, hmessages _ m hm (howner ▸ hverified.1.1), hreads⟩

/-- An assertion comes from a message that was consumed. -/
theorem source_consumed (h : FactLedger l caseId f) {a : CaseFactAssertion} (ha : a ∈ f.assertions) :
    a.sourceMessageId ∈ f.consumptions.map (·.sourceMessageId) := by
  have hmem : (a.assertionId, a.sourceMessageId) ∈ assertionSources f.consumptions := by
    rw [h.paired]
    exact List.mem_map_of_mem ha
  obtain ⟨c, hc, hid⟩ := List.mem_filterMap.mp hmem
  obtain ⟨id, -, hpair⟩ := Option.map_eq_some_iff.mp hid
  exact List.mem_map.mpr ⟨c, hc, (Prod.mk.inj hpair).2⟩

section Consumed

variable {question : FactQuestion} {message : MessageRow} {batch : UntrustedBatch}
  {assertion : Option CaseFactAssertion} {decision : FactMergeDecision}
  {snapshot : CaseFactSnapshot}

/-- The assertion of a message that was not consumed before is new. -/
theorem grown_eq (h : FactLedger l caseId f)
    (hunread : consumptionForMessage f message.messageId = none)
    (hmerged : Merged caseId f question message batch assertion decision) :
    grown f.assertions assertion = f.assertions ++ assertion.toList := by
  cases assertion with
  | none => simp [grown]
  | some a =>
    obtain ⟨fp, hsource, hid⟩ := (hmerged.supported a rfl).fingerprint
    have hnew : a.assertionId ∉ f.assertions.map (·.assertionId) := by
      intro hmem
      obtain ⟨b, hb, hsame⟩ := List.mem_map.mp hmem
      obtain ⟨fpb, hsourceb, hidb⟩ := h.fingerprints b hb
      have hmessages : fpb.sourceMessageId = fp.sourceMessageId :=
        FactDigest.assertionId_message _ _ (by rw [← hid, ← hidb, hsame])
      obtain ⟨c, hc, hread⟩ := List.mem_map.mp (h.source_consumed hb)
      have hunseen := List.find?_eq_none.mp hunread c hc
      refine hunseen ?_
      rw [decide_eq_true_eq, hread, ← hsourceb, hmessages, hsource]
    rw [grown, if_neg hnew]
    rfl

/-- A consumed message extends the ledger by its consumption, and by one assertion at most. -/
theorem consumed (h : FactLedger l caseId f)
    (hmessage : l.getMessage message.messageId = some message)
    (hfree : consumptionForQuestion f question.questionId = none)
    (hunread : consumptionForMessage f message.messageId = none)
    (hmerged : Merged caseId f question message batch assertion decision)
    (hstep : FactStep l caseId f (consumedFolder f question message assertion decision snapshot)) :
    FactLedger l caseId (consumedFolder f question message assertion decision snapshot) := by
  have hgrown := h.grown_eq hunread hmerged
  have hnodup : ∀ {α : Type} (xs : List α) (x : α), xs.Nodup → x ∉ xs → (xs ++ [x]).Nodup := by
    intro α xs x hxs hx
    refine List.nodup_append.mpr ⟨hxs, List.nodup_singleton x, ?_⟩
    rintro a ha b hb rfl
    exact hx (List.mem_singleton.mp hb ▸ ha)
  refine ⟨hstep.history, ?_, ?_, ?_, ?_, ?_⟩
  · simp only [consumedFolder, List.map_append, List.map_singleton]
    refine hnodup _ _ h.questionsOnce fun hmem => ?_
    obtain ⟨c, hc, hid⟩ := List.mem_map.mp hmem
    exact List.find?_eq_none.mp hfree c hc (decide_eq_true hid)
  · simp only [consumedFolder, List.map_append, List.map_singleton]
    refine hnodup _ _ h.messagesOnce fun hmem => ?_
    obtain ⟨c, hc, hid⟩ := List.mem_map.mp hmem
    exact List.find?_eq_none.mp hunread c hc (decide_eq_true hid)
  · simp only [consumedFolder, hgrown, List.map_append]
    rw [assertionSources, List.filterMap_append, ← assertionSources, h.paired]
    congr 1
    cases assertion with
    | none => simp [consumptionOf, hmerged.assertionId]
    | some a => simp [consumptionOf, hmerged.assertionId, (hmerged.supported a rfl).source]
  · simp only [consumedFolder, hgrown]
    intro a ha
    rcases List.mem_append.mp ha with ha | ha
    · exact h.fingerprints a ha
    · have hsupported := hmerged.supported a (Option.mem_toList.mp ha)
      rw [hsupported.source]
      exact hsupported.fingerprint
  · simp only [consumedFolder, hgrown]
    intro i a ha
    rcases Nat.lt_or_ge i f.assertions.length with hi | hi
    · rw [List.getElem?_append_left hi] at ha
      rw [List.take_append_of_le_length hi.le]
      exact h.readings i a ha
    · rw [List.getElem?_append_right hi] at ha
      obtain ⟨rfl, hassertion⟩ : i = f.assertions.length ∧ assertion = some a := by
        cases assertion with
        | none => simp at ha
        | some b =>
          simp only [Option.toList_some, List.getElem?_singleton] at ha
          split at ha
          · rename_i hzero
            exact ⟨by omega, ha⟩
          · cases ha
      have hsupported := hmerged.supported a hassertion
      obtain ⟨candidate, hreads⟩ := hsupported.reads
      have hcode : a.factCode = question.factCode := by
        rw [hreads.factCode]
        exact (authoritative_shape hreads.interpretation).1
      rw [List.take_left' rfl, hsupported.source, hcode]
      exact ⟨message, _, candidate, hmessage, hreads⟩

end Consumed

end FactLedger

/-! ### What a call does -/

section Calls

variable {x' : ServiceState}

omit [FactDigest] [CaseFolding] in
/-- What returns has passed its first check. -/
theorem of_rejectIf {α : Type} {p : Prop} [Decidable p] {message : String} {next : Unit → Tx α}
    {x : ServiceState} {r : α × ServiceState} (h : (rejectIf p message >>= next) x = .ok r) :
    ¬ p ∧ next () x = .ok r := by
  by_cases hp : p
  · rw [Transaction.bind_error (e := .caseFact (.rejected message)) (by
      rw [rejectIf, if_pos hp]
      rfl)] at h
    cases h
  · rw [Transaction.bind_ok (rejectIf_ok hp)] at h
    exact ⟨hp, h⟩

omit [FactDigest] [CaseFolding] in
/-- What returns has found what it looked up first. -/
theorem of_requireFact {α β : Type} {message : String} {found : Option α} {next : α → Tx β}
    {x : ServiceState} {r : β × ServiceState}
    (h : (requireFact message found >>= next) x = .ok r) :
    ∃ a, found = some a ∧ next a x = .ok r := by
  cases found with
  | none => cases h
  | some a => exact ⟨a, rfl, h⟩

omit [CaseFolding] in
/-- A question that is returned was known, or is asked now. -/
theorem recordQuestion_cases {code : FactCode} {answer : FactQuestion × Bool}
    (hf : l.folders caseId = some f) (h : FactHistory l caseId f)
    (hrun : recordQuestion caseId code (l, s) = .ok (answer, x')) :
    x' = (l, s) ∨ ∃ snapshot, x' = (l.setFolder caseId (askedFolder f answer.1 snapshot), s) ∧
      FactStep l caseId f (askedFolder f answer.1 snapshot) := by
  obtain ⟨snapshot, hr⟩ := rebuildFolder_ok h
  rw [recordQuestion, Transaction.bind_ok (requireCase_ok (x := (l, s)) hf),
    Transaction.bind_ok (rebuildCase_ok hf hr.rebuilt), Transaction.bind_ok rfl] at hrun
  set question := nextQuestion caseId f snapshot code s.now with hquestion
  have howner : question.caseId = caseId := rfl
  cases hfind : f.questions.find? fun q => q.questionId = question.questionId with
  | some existing =>
    simp only [askQuestion, hfind] at hrun
    exact Or.inl (Prod.mk.inj (Except.ok.inj hrun)).2.symm
  | none =>
    have hallowed : ¬ questionAllowed snapshot.toCaseFactProjection question.factCode
        f.row.businessClarificationCount = false := by
      simp only [askQuestion, hfind] at hrun
      exact (of_rejectIf hrun).1
    obtain ⟨snapshot', hasked, hstep⟩ := askQuestion_ok (s := s) hf h hr howner hfind hallowed
    rw [hasked] at hrun
    obtain ⟨rfl, rfl⟩ := Prod.mk.inj (Except.ok.inj hrun)
    exact Or.inr ⟨snapshot', rfl, hstep⟩

/-- What an accepted message comes to: its stored decision, or a consumption of its own. -/
inductive Accepted (l : ConversationStore) (s : SharedState) (caseId : RowId) (f : CaseFolder)
    (messageId : RowId) (batch : UntrustedBatch) (answer : CaseFactSnapshot × FactMergeDecision)
    (x' : ServiceState) : Prop
  | replay (existing : ConsumptionRow) (known : existing ∈ f.consumptions)
      (message : existing.sourceMessageId = messageId)
      (decision : answer.2 = existing.decision)
      (state : x' = (l.setFolder caseId { f with snapshot := some answer.1 }, s))
      (step : FactStep l caseId f { f with snapshot := some answer.1 })
  | fresh (question : FactQuestion) (message : MessageRow) (assertion : Option CaseFactAssertion)
      (asked : f.questions.getLast? = some question)
      (found : l.getMessage messageId = some message)
      (free : consumptionForQuestion f question.questionId = none)
      (unread : consumptionForMessage f message.messageId = none)
      (merged : Merged caseId f question message batch assertion answer.2)
      (state : x' = (l.setFolder caseId
        (consumedFolder f question message assertion answer.2 answer.1), s))
      (step : FactStep l caseId f (consumedFolder f question message assertion answer.2 answer.1))

theorem acceptFresh_cases {question : FactQuestion} {message : MessageRow}
    {batch : UntrustedBatch} {answer : CaseFactSnapshot × FactMergeDecision}
    (hf : l.folders caseId = some f) (h : FactHistory l caseId f)
    (hmessage : l.getMessage message.messageId = some message)
    (hquestion : f.questions.getLast? = some question)
    (hunread : consumptionForMessage f message.messageId = none)
    (hrun : acceptFresh caseId f question message batch (l, s) = .ok (answer, x')) :
    Accepted l s caseId f message.messageId batch answer x' := by
  obtain ⟨hfree, hrun₁⟩ := of_rejectIf hrun
  obtain ⟨hbound, hrun₂⟩ := of_rejectIf hrun₁
  obtain ⟨-, hrun₃⟩ := of_rejectIf hrun₂
  rw [Transaction.bind_ok rfl] at hrun₃
  obtain ⟨-, hconsumed⟩ := of_rejectIf hrun₃
  have hfree' : consumptionForQuestion f question.questionId = none := by simpa using hfree
  cases hmerge : mergeBatch caseId f question message batch with
  | error e =>
    simp only [consume, hmerge] at hconsumed
    cases hconsumed
  | ok merged =>
    obtain ⟨assertion, decision⟩ := merged
    obtain ⟨snapshot, hconsume, hstep⟩ := consume_ok (s := s) hf h hmessage (not_not.mp hbound)
      (List.mem_of_getLast? hquestion) hfree' hunread hmerge
    rw [hconsume] at hconsumed
    obtain ⟨rfl, rfl⟩ := Prod.mk.inj (Except.ok.inj hconsumed)
    exact .fresh question message assertion hquestion hmessage hfree' hunread
      (mergeBatch_ok hmerge) rfl hstep

/-- A message is accepted in a case that waits for a reply. -/
theorem acceptMessage_cases {messageId : RowId} {batch : UntrustedBatch}
    {answer : CaseFactSnapshot × FactMergeDecision} (hf : l.folders caseId = some f)
    (h : FactHistory l caseId f)
    (hrun : acceptMessage caseId messageId batch (l, s) = .ok (answer, x')) :
    f.row.caseState = .awaitingCustomerInput ∧
      Accepted l s caseId f messageId batch answer x' := by
  rw [acceptMessage, Transaction.bind_ok (requireCase_ok (x := (l, s)) hf)] at hrun
  obtain ⟨hstate, hrun₁⟩ := of_rejectIf hrun
  rw [Transaction.bind_ok rfl] at hrun₁
  obtain ⟨message, hmessage, hrun₂⟩ := of_requireFact hrun₁
  obtain ⟨question, hquestion, hrun₃⟩ := of_requireFact hrun₂
  refine ⟨not_not.mp hstate, ?_⟩
  have hid : message.messageId = messageId := by
    simpa using List.find?_some hmessage
  subst hid
  cases hexisting : consumptionForMessage f message.messageId with
  | none =>
    rw [hexisting] at hrun₃
    exact acceptFresh_cases hf h hmessage hquestion hexisting hrun₃
  | some existing =>
    rw [hexisting] at hrun₃
    obtain ⟨-, hrun₄⟩ := of_rejectIf hrun₃
    obtain ⟨snapshot, hr, hrefresh⟩ := refreshSnapshot_ok (s := s) hf h
    rw [Transaction.bind_ok hrefresh] at hrun₄
    obtain ⟨rfl, rfl⟩ := Prod.mk.inj (Except.ok.inj hrun₄)
    exact .replay existing (List.mem_of_find?_eq_some hexisting)
      (by simpa using List.find?_some hexisting) rfl rfl (FactStep.refreshed h hr)

/-- The message of the latest question, sent again with the same batch, gets its decision again. -/
theorem acceptMessage_replay {batch : UntrustedBatch} {existing : ConsumptionRow}
    (hf : l.folders caseId = some f) (h : FactLedger l caseId f)
    (hstate : f.row.caseState = .awaitingCustomerInput) (hknown : existing ∈ f.consumptions)
    (hquestion : f.questions.getLast?.map (·.questionId) = some existing.questionId)
    (hbatch : batch.hash = existing.candidateBatchHash) :
    ∃ snapshot, acceptMessage caseId existing.sourceMessageId batch (l, s) =
      .ok ((snapshot, existing.decision),
        (l.setFolder caseId { f with snapshot := some snapshot }, s)) := by
  obtain ⟨question, hlast, hid⟩ := Option.map_eq_some_iff.mp hquestion
  have hverified := h.history.consumed existing hknown
  unfold consumptionVerified at hverified
  cases hmessage : l.getMessage existing.sourceMessageId with
  | none =>
    rw [hmessage] at hverified
    cases hverified
  | some message =>
    simp only [hmessage, Bool.and_eq_true, decide_eq_true_eq] at hverified
    have hhash := hverified.1.1.1.1.1.2
    have hexisting : consumptionForMessage f existing.sourceMessageId = some existing :=
      Keyed.find_of_mem _ h.messagesOnce hknown
    have hsame : ¬ (existing.questionId ≠ question.questionId ∨
        existing.sourceMessageHash ≠ FactDigest.messageHash message.content ∨
        existing.candidateBatchHash ≠ batch.hash) := by
      simp [hid, hhash, hbatch]
    obtain ⟨snapshot, -, hreplay⟩ := replayConsumption_ok (s := s) hf h.history hsame
    refine ⟨snapshot, ?_⟩
    rw [acceptMessage, Transaction.bind_ok (requireCase_ok (x := (l, s)) hf),
      Transaction.bind_ok (rejectIf_ok (not_not_intro hstate)), Transaction.bind_ok rfl]
    simp only [hmessage, hlast, hexisting]
    rw [Transaction.bind_ok rfl, Transaction.bind_ok rfl]
    exact hreplay

/-- What a call that returns has appended. -/
structure Appends (l : ConversationStore) (f f' : CaseFolder) : Prop where
  atMostOne : ∃ assertions consumptions, f'.assertions = f.assertions ++ assertions ∧
    f'.consumptions = f.consumptions ++ consumptions ∧
    assertions.length ≤ consumptions.length ∧ consumptions.length ≤ 1
  readings : ∀ a ∈ f'.assertions, a ∉ f.assertions → ∃ question m candidate,
    f.questions.getLast? = some question ∧ l.getMessage a.sourceMessageId = some m ∧
      Reads m.content question.factCode (activeAssertions f.assertions) (proofContext f.toolCalls) a
        candidate
  row : f'.row = f.row
  consumes : f'.consumptions ≠ f.consumptions → f.row.caseState = .awaitingCustomerInput

omit [FactDigest] in
/-- A call that touches neither table. -/
theorem Appends.nothing (hassertions : f'.assertions = f.assertions)
    (hconsumptions : f'.consumptions = f.consumptions) (hrow : f'.row = f.row) :
    Appends l f f' where
  atMostOne := ⟨[], [], by simp [hassertions], by simp [hconsumptions], le_rfl, by simp⟩
  readings a ha hnew := absurd (hassertions ▸ ha) hnew
  row := hrow
  consumes h := absurd hconsumptions h

/-- A call that returns keeps the ledger, and appends one consumption and one assertion at most. -/
theorem FactCall.run_ok {c : FactCall} {answer : FactAnswer} (hf : l.folders caseId = some f)
    (h : FactLedger l caseId f) (hrun : c.run caseId (l, s) = .ok (answer, x')) :
    ∃ f', x'.1.folders caseId = some f' ∧ FactLedger x'.1 caseId f' ∧ Appends l f f' := by
  cases c with
  | recordQuestion code =>
    obtain ⟨asked, x₁, hasked, hanswer⟩ := Transaction.of_bind_ok hrun
    obtain ⟨-, rfl⟩ := Prod.mk.inj (Except.ok.inj hanswer)
    rcases recordQuestion_cases hf h.history hasked with rfl | ⟨snapshot, rfl, hstep⟩
    · exact ⟨f, hf, h, .nothing rfl rfl rfl⟩
    · refine ⟨_, ConversationStore.setFolder_self .., ?_, .nothing rfl rfl rfl⟩
      exact
        { h with
          history := hstep.history.of_messages fun _ _ hm _ => hm
          readings := h.readings }
  | acceptMessage messageId batch =>
    obtain ⟨accepted, x₁, haccepted, hanswer⟩ := Transaction.of_bind_ok hrun
    obtain ⟨-, rfl⟩ := Prod.mk.inj (Except.ok.inj hanswer)
    obtain ⟨hstate, hcases⟩ := acceptMessage_cases hf h.history haccepted
    cases hcases with
    | replay existing hknown hmessage hdecision hx hstep =>
      subst hx
      refine ⟨_, ConversationStore.setFolder_self .., ?_, .nothing rfl rfl rfl⟩
      exact
        { h with
          history := hstep.history.of_messages fun _ _ hm _ => hm
          readings := h.readings }
    | fresh question message assertion hasked hfound hfree hunread hmerged hx hstep =>
      subst hx
      have hid : message.messageId = messageId := by
        simpa using List.find?_some hfound
      rw [← hid] at hfound
      have hgrown := h.grown_eq hunread hmerged
      have hledger := h.consumed hfound hfree hunread hmerged hstep
      refine ⟨_, ConversationStore.setFolder_self .., ?_, ?_⟩
      · exact hledger.elsewhere rfl rfl rfl rfl fun _ _ hm _ => hm
      · refine ⟨⟨assertion.toList, _, hgrown, rfl, ?_, by simp⟩, fun a ha hnew => ?_, rfl,
          fun _ => hstate⟩
        · cases assertion <;> simp
        · simp only [consumedFolder, hgrown, List.mem_append, Option.mem_toList] at ha
          have hsupported := hmerged.supported a (ha.resolve_left hnew)
          obtain ⟨candidate, hreads⟩ := hsupported.reads
          exact ⟨question, message, candidate, hasked, by rw [hsupported.source]; exact hfound,
            hreads⟩

end Calls

/-! ### Whole sequences -/

/-- The event leaves the state of the case as it is. -/
def FactEvent.keepsState (state : CaseState) : FactEvent → Prop
  | .change row _ => row.caseState = state
  | _ => True

/-- What holds of a case after a sequence of events that starts with it in a state. -/
structure FactRun (x : ServiceState) (caseId : RowId) (f : CaseFolder) : Prop where
  folder : x.1.folders caseId = some f
  ledger : FactLedger x.1 caseId f

omit [FactDigest] [CaseFolding] in
/-- Binding a message leaves those that are bound. -/
theorem getMessage_bind {messageId id other : RowId} {m : MessageRow}
    (hmessages : l'.messages = l.messages.map fun m =>
      if m.messageId = messageId ∧ m.caseId = none then { m with caseId := some other } else m)
    (h : l.getMessage id = some m) (hbound : m.caseId = some caseId) :
    l'.getMessage id = some m := by
  have hkeys : (fun m : MessageRow => decide (m.messageId = id)) ∘ (fun m =>
      if m.messageId = messageId ∧ m.caseId = none then { m with caseId := some other } else m)
        = fun m => decide (m.messageId = id) := by
    funext m'
    by_cases e : m'.messageId = messageId ∧ m'.caseId = none <;> simp [e]
  rw [ConversationStore.getMessage] at h ⊢
  rw [hmessages, List.find?_map, hkeys, h]
  simp [hbound]

/-- What an event leaves of a case: its ledger, and a consumption only while it waits for a reply. -/
structure FactRun.Step (caseId : RowId) (f : CaseFolder) (e : FactEvent) (x' : ServiceState)
    (f' : CaseFolder) : Prop where
  next : FactRun x' caseId f'
  state : ∀ state, e.keepsState state → f.row.caseState = state → f'.row.caseState = state
  consumes : f'.consumptions ≠ f.consumptions → f.row.caseState = .awaitingCustomerInput

/-- Every event keeps the ledger. -/
theorem FactRun.step {x : ServiceState} (h : FactRun x caseId f) (e : FactEvent) :
    ∃ f', FactRun.Step caseId f e (e.apply caseId x) f' := by
  obtain ⟨l, s⟩ := x
  obtain ⟨hf, hledger⟩ := h
  simp only at hf hledger
  have helsewhere : ∀ l' s', l'.folders = l.folders →
      (∀ id m, l.getMessage id = some m → m.caseId = some caseId → l'.getMessage id = some m) →
      FactRun.Step caseId f e (l', s') f := fun l' s' hfolders hmessages =>
    { next := ⟨hfolders ▸ hf, hledger.elsewhere rfl rfl rfl rfl hmessages⟩
      state := fun _ _ => id
      consumes := fun hnew => absurd rfl hnew }
  cases e with
  | call c =>
    cases hrun : c.run caseId (l, s) with
    | error e =>
      have hsame : (FactEvent.call c).apply caseId (l, s) = (l, s) := by
        simp only [FactEvent.apply, Transaction.commit, hrun]
      rw [hsame]
      exact ⟨f, helsewhere l s rfl fun _ _ hm _ => hm⟩
    | ok result =>
      have hnext : (FactEvent.call c).apply caseId (l, s) = result.2 := by
        simp only [FactEvent.apply, Transaction.commit, hrun]
      rw [hnext]
      obtain ⟨f', hf', hledger', happends⟩ := FactCall.run_ok hf hledger hrun
      exact ⟨f', ⟨hf', hledger'⟩, fun _ _ h => happends.row ▸ h, happends.consumes⟩
  | message m =>
    refine ⟨f, ?_⟩
    simp only [FactEvent.apply]
    split
    · exact helsewhere l s rfl fun _ _ hm _ => hm
    · exact helsewhere _ s rfl fun _ _ hm _ => getMessage_append rfl hm
  | bind messageId other =>
    exact ⟨f, helsewhere _ s rfl fun _ _ hm hbound => getMessage_bind rfl hm hbound⟩
  | change row reads =>
    have hnext : (FactEvent.change row reads).apply caseId (l, s) =
        (l.setFolder caseId { f with row := row, toolCalls := f.toolCalls ++ reads }, s) := by
      simp only [FactEvent.apply, hf]
    rw [hnext]
    refine ⟨_, ⟨ConversationStore.setFolder_self .., ?_⟩, fun _ h _ => h, fun h => absurd rfl h⟩
    exact hledger.elsewhere rfl rfl rfl rfl fun _ _ hm _ => hm
  | pass elapsed => exact ⟨f, helsewhere l _ rfl fun _ _ hm _ => hm⟩

/-- A sequence of events keeps the ledger. -/
theorem FactRun.run {x : ServiceState} (h : FactRun x caseId f) (events : List FactEvent) :
    ∃ f', FactRun (factRun caseId x events) caseId f' ∧
      ((∀ e ∈ events, e.keepsState f.row.caseState) →
        (f.consumptions ≠ [] → f.row.caseState = .awaitingCustomerInput) →
        f'.consumptions ≠ [] → f'.row.caseState = .awaitingCustomerInput) := by
  induction events generalizing x f with
  | nil => exact ⟨f, h, fun _ => id⟩
  | cons e rest ih =>
    obtain ⟨f₁, hstep⟩ := h.step e
    obtain ⟨f', hrun, hwaits⟩ := ih hstep.next
    refine ⟨f', hrun, fun hkeeps hold => ?_⟩
    have hstate := hstep.state _ (hkeeps e List.mem_cons_self) rfl
    rw [hstate] at hwaits
    refine hwaits (fun e' he' => hkeeps e' (List.mem_cons_of_mem _ he')) fun hnew => ?_
    by_cases hsame : f₁.consumptions = f.consumptions
    · exact hold (hsame ▸ hnew)
    · exact hstep.consumes hsame

/-! ### The protocol -/

/-- The consumption protocol of a case, in a state and over every call made in it. -/
structure FactProtocol (x : ServiceState) (caseId : RowId) (f : CaseFolder) : Prop where
  questionsOnce : (f.consumptions.map (·.questionId)).Nodup
  messagesOnce : (f.consumptions.map (·.sourceMessageId)).Nodup
  paired : assertionSources f.consumptions =
    f.assertions.map fun a => (a.assertionId, a.sourceMessageId)
  readings : ∀ i a, f.assertions[i]? = some a → ∃ m proof candidate,
    x.1.getMessage a.sourceMessageId = some m ∧
      Reads m.content a.factCode (activeAssertions (f.assertions.take i)) proof a candidate
  messagesVerified : ∀ a ∈ f.assertions, messageVerified x.1 a
  consumptionsVerified : ∀ c ∈ f.consumptions,
    consumptionVerified x.1 caseId f.questions f.assertions c
  rebuilds : ∃ snapshot, rebuildFolder x.1 caseId f = .ok snapshot
  raises : ∀ (c : FactCall) e, c.run caseId x = .error e → (FactEvent.call c).apply caseId x = x
  returns : ∀ (c : FactCall) answer x', c.run caseId x = .ok (answer, x') →
    ∃ f', x'.1.folders caseId = some f' ∧ Appends x.1 f f'
  replays : ∀ (existing : ConsumptionRow) (batch : UntrustedBatch), existing ∈ f.consumptions →
    f.questions.getLast?.map (·.questionId) = some existing.questionId →
    batch.hash = existing.candidateBatchHash → f.row.caseState = .awaitingCustomerInput →
    ∃ snapshot, (FactCall.acceptMessage existing.sourceMessageId batch).run caseId x =
      .ok (.acceptance snapshot existing.decision,
        (x.1.setFolder caseId { f with snapshot := some snapshot }, x.2))

theorem FactRun.protocol {x : ServiceState} (h : FactRun x caseId f) :
    FactProtocol x caseId f where
  questionsOnce := h.ledger.questionsOnce
  messagesOnce := h.ledger.messagesOnce
  paired := h.ledger.paired
  readings := h.ledger.readings
  messagesVerified := h.ledger.history.sources
  consumptionsVerified := h.ledger.history.consumed
  rebuilds := by
    obtain ⟨snapshot, hr⟩ := rebuildFolder_ok h.ledger.history
    exact ⟨snapshot, hr.rebuilt⟩
  raises c e hrun := by
    simp only [FactEvent.apply, Transaction.commit, hrun]
  returns c answer x' hrun := by
    obtain ⟨f', hf', -, happends⟩ := FactCall.run_ok h.folder h.ledger hrun
    exact ⟨f', hf', happends⟩
  replays existing batch hknown hquestion hbatch hstate := by
    obtain ⟨snapshot, hreplay⟩ :=
      acceptMessage_replay (s := x.2) h.folder h.ledger hstate hknown hquestion hbatch
    refine ⟨snapshot, ?_⟩
    rw [FactCall.run]
    exact (Transaction.bind_ok hreplay).trans rfl

/-- The consumption protocol holds after every sequence of events about a case. As long as nothing
    moves the case on, one with a consumption still waits for replies. -/
theorem caseFacts_protocol (l : ConversationStore) (s : SharedState) (caseId : RowId)
    (row : CaseRow) (events : List FactEvent) :
    ∃ f, (factRun caseId (factsCreated l s caseId row) events).1.folders caseId = some f ∧
      FactProtocol (factRun caseId (factsCreated l s caseId row) events) caseId f ∧
      ((∀ e ∈ events, e.keepsState row.caseState) → f.consumptions ≠ [] →
        f.row.caseState = .awaitingCustomerInput) := by
  have hstart : FactRun (factsCreated l s caseId row) caseId ⟨row, [], [], [], [], none, [], []⟩ :=
    ⟨ConversationStore.setFolder_self .., .created row⟩
  obtain ⟨f, hrun, hwaits⟩ := hstart.run events
  exact ⟨f, hrun.folder, hrun.protocol, fun hkeeps => hwaits hkeeps fun hnew => absurd rfl hnew⟩

end AfterSales
