import AfterSales.Storage.Repository

/-! The case fact service: rebuilding, asking and accepting over the stored rows.

    Every operation rebuilds the snapshot from the history, after it has checked that the history
    still agrees with the messages it came from. The stored snapshot is a copy that `load_snapshot`
    compares; only `initialize_case`, `refresh_snapshot`, `accept_message` and `record_question`
    store a new one. Raw rows cannot be malformed here, so the checks of their shape are left out. -/

namespace AfterSales
open Interleave Repository

variable [PolicyDigest] [FactDigest] [CaseFolding]

/-- A proof result that names where the package was left. -/
def usableProof : (tool : ReadTool) → ToolResult (PayloadOf tool) → Option (String × String)
  | .getDeliveryProof, result => do
    let payload ← result.payload
    let recipient ← payload.recipientType
    if result.executionStatus = .success ∧ result.evidenceAvailability = .present ∧
        payload.podStatus = .found ∧ recipient ≠ "" then
      some (result.resultHash, recipient)
    else none
  | _, _ => none

/-- The proof that a call of a run found. -/
def ToolCallRow.proof (row : ToolCallRow) : Option DeliveryProofFactContext :=
  if row.call.actualExecution then
    (usableProof row.call.toolName row.call.result).map fun found =>
      ⟨⟨row.call.toolCallId, found.1⟩, found.2⟩
  else none

/-- `_proof_context`: the latest proof a case has read. -/
def proofContext (toolCalls : List ToolCallRow) : Option DeliveryProofFactContext :=
  toolCalls.reverse.findSome? ToolCallRow.proof

/-- `_verify_message_hashes`, for one assertion. -/
def messageVerified (l : ConversationStore) (a : CaseFactAssertion) : Bool :=
  match l.getMessage a.sourceMessageId with
  | none => false
  | some message => decide (message.caseId = some a.caseId) &&
      decide (FactDigest.messageHash message.content = a.sourceMessageHash) &&
      decide (a.sourceSpan.stop ≤ message.content.length)

/-- `_verify_consumptions`, for one consumption. -/
def consumptionVerified (l : ConversationStore) (caseId : RowId) (questions : List FactQuestion)
    (assertions : List CaseFactAssertion) (c : ConsumptionRow) : Bool :=
  match l.getMessage c.sourceMessageId with
  | none => false
  | some message => decide (c.questionId ∈ questions.map (·.questionId)) &&
      decide (message.caseId = some caseId) &&
      decide (FactDigest.messageHash message.content = c.sourceMessageHash) &&
      decide (c.decision.candidateBatchHash = c.candidateBatchHash) &&
      decide (c.decision.reasonCode = c.reasonCode) &&
      decide (c.decision.assertionId = c.assertionId) &&
      decide (c.outcome = c.decision.outcome) &&
      (c.decision.accepted == decide (∃ id ∈ c.assertionId, id ∈ assertions.map (·.assertionId)))

namespace CaseFactService

/-- `_rebuild`, over the rows of a case. -/
def rebuildFolder (l : ConversationStore) (caseId : RowId) (f : CaseFolder) :
    Except CaseFactError CaseFactSnapshot :=
  if f.assertions.any fun a => !messageVerified l a then
    .error (.integrity "assertion source message lost same-Case customer binding")
  else if f.consumptions.any fun c => !consumptionVerified l caseId f.questions f.assertions c then
    .error (.integrity "Case Fact consumption provenance parity failed")
  else rebuildCaseFactSnapshot caseId f.assertions f.questions (proofContext f.toolCalls)

def liftFact {α : Type} : Except CaseFactError α → Tx α
  | .ok a => pure a
  | .error e => throw (.caseFact e)

def rejectIf (p : Prop) [Decidable p] (message : String) : Tx Unit :=
  if p then throw (.caseFact (.rejected message)) else pure ()

/-- `_rebuild`. -/
def rebuildCase (caseId : RowId) : Tx CaseFactSnapshot := do
  let f ← requireCase caseId
  let l ← conversation
  liftFact (rebuildFolder l caseId f)

/-- `refresh_snapshot`, and `initialize_case`. -/
def refreshSnapshot (caseId : RowId) : Tx CaseFactSnapshot := do
  let snapshot ← rebuildCase caseId
  storeCaseFactSnapshot snapshot
  return snapshot

/-- `load_snapshot`. -/
def loadSnapshot (caseId : RowId) : Tx CaseFactSnapshot := do
  let f ← requireCase caseId
  let rebuilt ← rebuildCase caseId
  if ∃ stored ∈ f.snapshot, stored ≠ rebuilt then
    throw (.caseFact (.integrity "stored/rebuilt CaseFactSnapshot disagreement"))
  else return rebuilt

/-- The assertion that an accepted candidate becomes; its record may refuse it. -/
def acceptedAssertion (caseId : RowId) (question : FactQuestion) (message : MessageRow)
    (candidate : CaseFactCandidate) (proof : Option DeliveryProofFactContext) (sequence : Nat) :
    Except CaseFactError CaseFactAssertion :=
  if h : candidate.factCode = .reportedDeliveryLocationChecked ↔ proof.isSome then
    .ok
      { assertionId := FactDigest.assertionId
          ⟨caseId, question.questionId, message.messageId, candidate,
            proof.map (·.reference.resultHash)⟩
        caseId := caseId
        factCode := candidate.factCode
        value := candidate.value
        sourceMessageId := message.messageId
        sourceMessageHash := FactDigest.messageHash message.content
        sourceSpan := candidate.sourceSpan
        relation := candidate.relationHint
        supersedesAssertionId := candidate.targetAssertionId
        context := proof.map (·.reference)
        assertionSequence := sequence
        supersedesIff := candidate.targetIff
        contextIff := by rw [h, Option.isSome_map]
        withdrawalUnknown := candidate.withdrawalUnknown }
  else .error .validation

/-- What becomes of a batch of candidates: the accepted assertion, if any, and the decision. -/
def mergeBatch (caseId : RowId) (f : CaseFolder) (question : FactQuestion) (message : MessageRow)
    (batch : UntrustedBatch) :
    Except CaseFactError (Option CaseFactAssertion × FactMergeDecision) :=
  let refused (reasonCode : String) := Except.ok (none, ⟨false, reasonCode, none, batch.hash⟩)
  match validateCandidateBatch batch.items with
  | .error _ => refused "CANDIDATE_SCHEMA_INVALID"
  | .ok [] => refused "NO_CANDIDATES"
  | .ok [candidate] =>
    match validateCandidate candidate caseId message.caseId true message.content question.factCode
        (activeAssertions f.assertions) (proofContext f.toolCalls) with
    | .error _ => refused "CANDIDATE_DISAGREES_WITH_PERSISTED_CONTEXT"
    | .ok proof => do
      let assertion ← acceptedAssertion caseId question message candidate proof
        (f.assertions.length + 1)
      return (some assertion, ⟨true, "ACCEPTED_DETERMINISTIC_INTERPRETATION",
        some assertion.assertionId, batch.hash⟩)
  | .ok _ => refused "CANDIDATE_COUNT_REJECTED"

/-- The assertion of a batch, if one was accepted, is appended. -/
def appendAccepted : Option CaseFactAssertion → Tx Unit
  | some assertion => appendCaseFactAssertion assertion
  | none => pure ()

/-- The consumption of a message. -/
def consumptionOf (question : FactQuestion) (message : MessageRow) (decision : FactMergeDecision) :
    ConsumptionRow where
  questionId := question.questionId
  sourceMessageId := message.messageId
  sourceMessageHash := FactDigest.messageHash message.content
  candidateBatchHash := decision.candidateBatchHash
  outcome := decision.outcome
  reasonCode := decision.reasonCode
  assertionId := decision.assertionId
  decision := decision

/-- The last part of `accept_message`: merge the batch, store the snapshot, consume the message. -/
def consume (caseId : RowId) (f : CaseFolder) (question : FactQuestion) (message : MessageRow)
    (batch : UntrustedBatch) : Tx (CaseFactSnapshot × FactMergeDecision) := do
  let (assertion, decision) ← liftFact (mergeBatch caseId f question message batch)
  appendAccepted assertion
  let snapshot ← refreshSnapshot caseId
  appendCaseFactMessageConsumption caseId (consumptionOf question message decision)
  return (snapshot, decision)

/-- A message that was consumed before is answered again from its consumption. -/
def replayConsumption (caseId : RowId) (question : FactQuestion) (message : MessageRow)
    (batchHash : String) (existing : ConsumptionRow) :
    Tx (CaseFactSnapshot × FactMergeDecision) := do
  rejectIf (existing.questionId ≠ question.questionId ∨
      existing.sourceMessageHash ≠ FactDigest.messageHash message.content ∨
      existing.candidateBatchHash ≠ batchHash)
    "a consumed Case Fact message cannot be replayed with different authority inputs"
  let snapshot ← refreshSnapshot caseId
  return (snapshot, existing.decision)

def requireFact {α : Type} (message : String) : Option α → Tx α
  | some a => pure a
  | none => throw (.caseFact (.rejected message))

/-- The checks of `accept_message` for a message that was not consumed before. -/
def acceptFresh (caseId : RowId) (f : CaseFolder) (question : FactQuestion) (message : MessageRow)
    (batch : UntrustedBatch) : Tx (CaseFactSnapshot × FactMergeDecision) := do
  rejectIf (consumptionForQuestion f question.questionId).isSome
    "outstanding Case Fact question was already consumed"
  rejectIf (message.caseId ≠ some caseId)
    "source_message_id must be customer-authored and bound to this Case"
  rejectIf (message.createdAt ≤ question.askedAt)
    "source message predates the outstanding Case Fact question"
  let l ← conversation
  rejectIf ((l.customerMessages caseId).getLast?.map (·.messageId) ≠ some message.messageId)
    "source message is not the current customer reply"
  consume caseId f question message batch

/-- `accept_message`. -/
def acceptMessage (caseId messageId : RowId) (batch : UntrustedBatch) :
    Tx (CaseFactSnapshot × FactMergeDecision) := do
  let f ← requireCase caseId
  rejectIf (f.row.caseState ≠ .awaitingCustomerInput)
    "Case must be awaiting a business clarification reply"
  let l ← conversation
  let message ← requireFact "source_message_id was not found" (l.getMessage messageId)
  let question ← requireFact "Case has no outstanding Case Fact question" f.questions.getLast?
  match consumptionForMessage f messageId with
  | some existing => replayConsumption caseId question message batch.hash existing
  | none => acceptFresh caseId f question message batch

/-- The question that `record_question` would ask now. -/
def nextQuestion (caseId : RowId) (f : CaseFolder) (snapshot : CaseFactSnapshot)
    (factCode : FactCode) (now : Instant) : FactQuestion :=
  let targeted := decide ((snapshot.facts factCode).status = .conflict)
  let contextHash := if factCode = .reportedDeliveryLocationChecked then
      (proofContext f.toolCalls).map (·.reference.resultHash)
    else none
  ⟨⟨caseId, factCode, contextHash, targeted⟩, caseId, factCode, contextHash, targeted, now⟩

/-- The last part of `record_question`: a question that is known is returned, a new one is asked. -/
def askQuestion (caseId : RowId) (f : CaseFolder) (snapshot : CaseFactSnapshot)
    (question : FactQuestion) : Tx (FactQuestion × Bool) := do
  match f.questions.find? fun q => q.questionId = question.questionId with
  | some existing => return (existing, false)
  | none =>
    rejectIf (questionAllowed snapshot.toCaseFactProjection question.factCode
        f.row.businessClarificationCount = false)
      "Case Fact question is not allowed by repeat/budget policy"
    appendCaseFactQuestion question
    let _ ← refreshSnapshot caseId
    return (question, true)

/-- `record_question`: the question, and whether it was asked just now. -/
def recordQuestion (caseId : RowId) (factCode : FactCode) : Tx (FactQuestion × Bool) := do
  let f ← requireCase caseId
  let snapshot ← rebuildCase caseId
  let s ← shared
  askQuestion caseId f snapshot (nextQuestion caseId f snapshot factCode s.now)

/-- The first fact whose question still waits for an answer. -/
def outstandingCode (snapshot : CaseFactSnapshot) : Option FactCode :=
  FactCode.all.find? fun code =>
    let state := snapshot.questionState code
    decide (state.status ∈ [.unanswered, .conflictRequiresClarification, .unknownExhausted]) &&
      decide (0 < state.asks)

/-- `extract_candidates`, for the outstanding fact of a snapshot. -/
def extractCandidates (f : CaseFolder) (snapshot : CaseFactSnapshot) (code : FactCode)
    (customerMessage : String) : List CaseFactCandidate :=
  let active := f.assertions.filter fun a => a.assertionId ∈ (snapshot.facts code).activeAssertionIds
  (interpretCustomerReply customerMessage code active (proofContext f.toolCalls)).toList

end CaseFactService

end AfterSales
