import AfterSales.Domain.Ids
import AfterSales.Domain.Text
import AfterSales.Investigation.Progress
import Mathlib.Data.List.ReduceOption
import Mathlib.Data.List.Sort

/-! Case facts: what a customer's clarifications say, rebuilt from an append-only history.

    Two facts of a case may come from the customer alone. Every accepted reply appends an assertion,
    every question asked appends a question, and nothing is ever updated: the snapshot of a case is
    rebuilt from both lists and from the current delivery proof. A candidate is an untrusted
    proposal; the deterministic reading of the stored message decides what it may say. Recorded
    times and version tags decide nothing and are left out; a stored hash is a parameter. -/

namespace AfterSales

inductive FactCode where | customerStillReportsMissing | reportedDeliveryLocationChecked
  deriving DecidableEq, Repr

instance : Fintype FactCode where
  elems := {.customerStillReportsMissing, .reportedDeliveryLocationChecked}
  complete c := by cases c <;> decide

/-- The fact codes in the order of the source's enumeration. -/
def FactCode.all : List FactCode := [.customerStillReportsMissing, .reportedDeliveryLocationChecked]

inductive FactValue where | true | false | unknown
  deriving DecidableEq, Repr

inductive RelationHint where | new | repeated | correction | withdrawal
  deriving DecidableEq, Repr

/-- Corrections and withdrawals name the assertion they replace. -/
def RelationHint.targeted : RelationHint → Bool
  | .correction | .withdrawal => Bool.true
  | .new | .repeated => Bool.false

inductive FactStatus where | knownTrue | knownFalse | unknown | conflict
  deriving DecidableEq, Repr

/-- A status that answers its question. -/
def FactStatus.known : FactStatus → Bool
  | .knownTrue | .knownFalse => Bool.true
  | .unknown | .conflict => Bool.false

inductive QuestionStatus where
  | inapplicable | unanswered | answered | unknownExhausted | conflictRequiresClarification
  | conflictExhausted
  deriving DecidableEq, Repr

/-- `CaseFactError`, its integrity subclass, and the `ValidationError` of a malformed record. -/
inductive CaseFactError where
  | rejected (message : String)
  | integrity (message : String)
  | validation
  deriving DecidableEq, Repr

structure SourceSpan where
  start : Nat
  stop : Nat
  ordered : start < stop
  deriving DecidableEq

/-- The untrusted extraction boundary. -/
structure CaseFactCandidate where
  factCode : FactCode
  value : FactValue
  relationHint : RelationHint
  targetAssertionId : Option String
  sourceSpan : SourceSpan
  targetIff : relationHint.targeted ↔ targetAssertionId.isSome
  withdrawalUnknown : relationHint = .withdrawal → value = .unknown
  deriving DecidableEq

/-- The proof read that a delivery-location fact is bound to. -/
structure ProofReference where
  toolCallId : ToolCallId
  resultHash : String
  deriving DecidableEq, Repr

structure DeliveryProofFactContext where
  reference : ProofReference
  recipientCategory : String
  deriving DecidableEq, Repr

/-- An accepted reply. Only a delivery-location fact is bound to a proof. -/
structure CaseFactAssertion where
  assertionId : String
  caseId : RowId
  factCode : FactCode
  value : FactValue
  sourceMessageId : RowId
  sourceMessageHash : String
  sourceSpan : SourceSpan
  relation : RelationHint
  supersedesAssertionId : Option String
  context : Option ProofReference
  assertionSequence : Nat
  supersedesIff : relation.targeted ↔ supersedesAssertionId.isSome
  contextIff : factCode = .reportedDeliveryLocationChecked ↔ context.isSome
  withdrawalUnknown : relation = .withdrawal → value = .unknown
  deriving DecidableEq

/-- `stable_question_id`: a digest, modelled by what it digests. -/
structure QuestionId where
  caseId : RowId
  factCode : FactCode
  contextResultHash : Option String
  targetedConflict : Bool
  deriving DecidableEq, Repr

structure FactQuestion where
  questionId : QuestionId
  caseId : RowId
  factCode : FactCode
  contextResultHash : Option String
  targetedConflict : Bool
  askedAt : Instant
  deriving DecidableEq, Repr

structure FactSnapshotEntry where
  status : FactStatus
  activeAssertionIds : List String
  supersededAssertionIds : List String
  sourceMessageIds : List RowId
  context : Option ProofReference
  deriving DecidableEq, Repr

structure QuestionState where
  asks : Nat
  status : QuestionStatus
  asksBound : asks ≤ 2
  deriving DecidableEq

/-- The projection of a case's history, up to the time it was rebuilt at. -/
structure CaseFactProjection where
  caseId : RowId
  revision : Nat
  facts : FactCode → FactSnapshotEntry
  questionState : FactCode → QuestionState
  deriving DecidableEq

/-- What is digested into the id of an assertion. -/
structure AssertionFingerprint where
  caseId : RowId
  questionId : QuestionId
  sourceMessageId : RowId
  candidate : CaseFactCandidate
  contextResultHash : Option String

/-- The digests of messages, candidates, assertions and projections. -/
class FactDigest where
  messageHash : String → String
  batchHash : List CaseFactCandidate → String
  assertionId : AssertionFingerprint → String
  snapshotHash : CaseFactProjection → String
  assertionId_message : ∀ f g, assertionId f = assertionId g → f.sourceMessageId = g.sourceMessageId

/-- Case folding of text, as the text comparisons of the source use it. -/
class CaseFolding where
  casefold : String → String

/-- Case folding, of letters in ASCII. -/
abbrev CaseFolding.lower : CaseFolding := ⟨fun text => text.map Char.toLower⟩

/-- A snapshot carries the hash of its projection. -/
structure CaseFactSnapshot extends CaseFactProjection where
  snapshotHash : String
  deriving DecidableEq

/-! ### What the snapshot tells the gate and a proposal -/

/-- The customer's report stands until it is known to be settled. -/
def CaseFactProjection.customerStillReportsMissing (s : CaseFactProjection) : Bool :=
  (s.facts .customerStillReportsMissing).status ≠ .knownFalse

/-- The customer is known to have asked where the package was left. -/
def CaseFactProjection.receptionLocationsChecked (s : CaseFactProjection) : Bool :=
  (s.facts .reportedDeliveryLocationChecked).status = .knownTrue

structure MaterialFact where
  status : FactStatus
  activeAssertionIds : List String
  deliveryProofResultHash : Option String
  deriving DecidableEq, Repr

/-- The facts a proposal is bound to. -/
structure CaseFactIdentity where
  caseFactSnapshotHash : String
  activeAssertionIds : List String
  materialFacts : List (FactCode × MaterialFact)
  deriving DecidableEq, Repr

/-- The known fact of a code, if it is known. -/
def CaseFactProjection.materialFact (s : CaseFactProjection) (code : FactCode) :
    Option (FactCode × MaterialFact) :=
  let entry := s.facts code
  if entry.status.known then
    some (code, ⟨entry.status, entry.activeAssertionIds,
      if code = .reportedDeliveryLocationChecked then entry.context.map (·.resultHash) else none⟩)
  else none

/-- `material_identity`. -/
def CaseFactSnapshot.materialIdentity (s : CaseFactSnapshot) : CaseFactIdentity :=
  let material := FactCode.all.filterMap s.materialFact
  ⟨s.snapshotHash,
    (material.flatMap fun m => m.2.activeAssertionIds).insertionSort fun a b => ¬ b < a, material⟩

/-! ### Reading a reply -/

def unknownCues : List String := ["不知道", "不清楚", "不确定", "没法确认"]
def correctionCues : List String := ["更正", "改一下", "说错", "其实", "不是"]
def withdrawalCues : List String := ["撤回", "不确定"]
def receivedCues : List String := ["已收到", "已经收到", "收到了", "找到了"]
def missingCues : List String :=
  ["仍然没有收到", "仍未收到", "还没收到", "没有收到", "没收到", "未收到", "没拿到"]
def uncheckedCues : List String := ["还没查", "还没有", "没有查", "没问", "未确认", "没去问"]
def checkedCues : List String :=
  ["问过", "查过", "确认过", "前台没有", "门卫没有", "邻居没有", "家人没有", "代收点没有",
    "快递柜没有", "柜里没有", "没有我的包裹", "没找到我的包裹"]

/-- The value that a reply supports, or why it supports none. -/
def supportedValue (normalized : String) (factCode : FactCode) (hasProof : Bool) :
    Except CaseFactError FactValue :=
  if mentions normalized unknownCues then .ok .unknown
  else
    match factCode with
    | .customerStillReportsMissing =>
      if mentions normalized receivedCues then .ok .false
      else if mentions normalized missingCues then .ok .true
      else .error (.rejected "persisted reply does not support this Case Fact")
    | .reportedDeliveryLocationChecked =>
      if !hasProof then
        .error (.rejected "delivery-location fact is inapplicable without current proof")
      else if mentions normalized uncheckedCues then .ok .false
      else if mentions normalized checkedCues then .ok .true
      else .error (.rejected "persisted reply does not support this Case Fact")

/-- `_authoritative_interpretation`: the only candidate that the stored text can support. -/
def authoritativeInterpretation [CaseFolding] (messageContent : String) (factCode : FactCode)
    (activeAssertions : List CaseFactAssertion) (proofContext : Option DeliveryProofFactContext) :
    Except CaseFactError CaseFactCandidate :=
  let normalized := CaseFolding.casefold messageContent
  if isBlank messageContent then .error (.rejected "persisted customer reply is empty")
  else
    match supportedValue normalized factCode proofContext.isSome with
    | .error e => .error e
    | .ok value =>
      let sameFact := activeAssertions.filter (·.factCode = factCode)
      if h : 0 < messageContent.length then
        let span : SourceSpan := ⟨0, messageContent.length, h⟩
        let untargeted (hint : RelationHint) (hh : hint.targeted = Bool.false)
            (hw : hint ≠ .withdrawal) : CaseFactCandidate :=
          ⟨factCode, value, hint, none, span, by simp [hh], fun e => absurd e hw⟩
        match sameFact.getLast? with
        | none => .ok (untargeted .new rfl (by decide))
        | some latest =>
          if hw : value = .unknown ∧ mentions normalized withdrawalCues then
            .ok ⟨factCode, value, .withdrawal, some latest.assertionId, span,
              by simp [RelationHint.targeted], fun _ => hw.1⟩
          else if mentions normalized correctionCues then
            if value = .unknown ∨ latest.value = .unknown ∨ latest.value = value then
              .error (.rejected "persisted reply does not support this correction")
            else
              .ok ⟨factCode, value, .correction, some latest.assertionId, span,
                by simp [RelationHint.targeted], by simp⟩
          else if sameFact.any (·.value = value) then .ok (untargeted .repeated rfl (by decide))
          else .ok (untargeted .new rfl (by decide))
      else .error .validation

/-- `validate_candidate`: the proof an accepted candidate is bound to, or why it is refused. -/
def validateCandidate [CaseFolding] (candidate : CaseFactCandidate) (caseId : RowId)
    (messageCaseId : Option RowId) (fromCustomer : Bool) (messageContent : String)
    (outstandingFactCode : FactCode) (activeAssertions : List CaseFactAssertion)
    (proofContext : Option DeliveryProofFactContext) :
    Except CaseFactError (Option DeliveryProofFactContext) :=
  if messageCaseId ≠ some caseId ∨ !fromCustomer then
    .error (.rejected "source_message_id must be customer-authored and bound to this Case")
  else if candidate.factCode ≠ outstandingFactCode then
    .error (.rejected "candidate does not answer the outstanding Case Fact question")
  else
    match authoritativeInterpretation messageContent outstandingFactCode activeAssertions
        proofContext with
    | .error e => .error e
    | .ok authoritative =>
      if candidate ≠ authoritative then
        .error (.rejected
          "candidate value, relation, target, or span disagrees with deterministic interpretation")
      else if candidate.factCode = .reportedDeliveryLocationChecked then .ok proofContext
      else .ok none

/-- `interpret_customer_reply`. -/
def interpretCustomerReply [CaseFolding] (messageContent : String) (factCode : FactCode)
    (activeAssertions : List CaseFactAssertion) (proofContext : Option DeliveryProofFactContext) :
    Option CaseFactCandidate :=
  (authoritativeInterpretation messageContent factCode activeAssertions proofContext).toOption

/-- A batch as it is handed over: its hash, and what each item parses as, if it fits the schema. -/
structure UntrustedBatch where
  hash : String
  items : List (Option CaseFactCandidate)
  deriving DecidableEq

/-- The batch of candidates that have been parsed already. -/
def UntrustedBatch.ofCandidates [FactDigest] (candidates : List CaseFactCandidate) :
    UntrustedBatch :=
  ⟨FactDigest.batchHash candidates, candidates.map some⟩

/-- `validate_candidate_batch`. -/
def validateCandidateBatch (items : List (Option CaseFactCandidate)) :
    Except CaseFactError (List CaseFactCandidate) :=
  if items.length > 2 then
    .error (.rejected "one customer message may produce at most two Case Fact candidates")
  else if items.all (·.isSome) then .ok items.reduceOption
  else .error .validation

/-! ### Rebuilding a snapshot -/

/-- The assertions that no other one replaces. -/
def activeAssertions (assertions : List CaseFactAssertion) : List CaseFactAssertion :=
  let superseded := assertions.filterMap (·.supersedesAssertionId)
  assertions.filter fun a => a.assertionId ∉ superseded

/-- The status that the active assertions of a fact add up to. -/
def mergedStatus (active : List CaseFactAssertion) (invalidSupersession : Bool) : FactStatus :=
  let reports (v : FactValue) := active.any (·.value = v)
  if invalidSupersession || (reports .true && reports .false) then .conflict
  -- A withdrawal retracts the current value; repeats of older provenance cannot revive it.
  else if active.any (·.relation = .withdrawal) then .unknown
  else if reports .true then .knownTrue
  else if reports .false then .knownFalse
  else .unknown

/-- The status and the proof of a fact. A delivery-location fact counts under the current proof
    alone, and assertions bound to different proofs contradict each other. -/
def boundStatus (code : FactCode) (merged : FactStatus) (active : List CaseFactAssertion)
    (currentProof : Option DeliveryProofFactContext) : FactStatus × Option ProofReference :=
  match code with
  | .customerStillReportsMissing => (merged, none)
  | .reportedDeliveryLocationChecked =>
    match (active.map (·.context)).eraseDups with
    | [] => (merged, none)
    | [context] =>
      if currentProof.isSome ∧ currentProof.map (·.reference) = context then (merged, context)
      else (.unknown, context)
    | _ => (.conflict, none)

/-- `_entry_for`. -/
def entryFor (code : FactCode) (assertions : List CaseFactAssertion)
    (currentProof : Option DeliveryProofFactContext) (invalidSupersession : Bool) :
    FactSnapshotEntry :=
  let active := activeAssertions assertions
  let superseded := assertions.filterMap (·.supersedesAssertionId)
  let bound := boundStatus code (mergedStatus active invalidSupersession) active currentProof
  { status := bound.1
    activeAssertionIds := active.map (·.assertionId)
    supersededAssertionIds :=
      (assertions.map (·.assertionId)).filter fun id => id ∈ superseded
    sourceMessageIds := (active.map (·.sourceMessageId)).eraseDups
    context := bound.2 }

/-- What the scan over a history has found: the assertions seen, the facts with an assertion that
    replaces none of them, and each replaced assertion once for every replacement. -/
structure SupersessionScan where
  seen : List CaseFactAssertion
  invalid : List FactCode
  replaced : List CaseFactAssertion

/-- One assertion of the scan. -/
def SupersessionScan.add (caseId : RowId) (scan : SupersessionScan) (item : CaseFactAssertion) :
    Except CaseFactError SupersessionScan :=
  if item.caseId ≠ caseId ∨ item.assertionId ∈ scan.seen.map (·.assertionId) then
    .error (.integrity "assertion Case/id integrity failed")
  else
    let scanned := { scan with seen := scan.seen ++ [item] }
    match item.supersedesAssertionId with
    | none => .ok scanned
    | some targetId =>
      match scan.seen.find? (·.assertionId = targetId) with
      | some target =>
        if target.factCode = item.factCode then
          .ok { scanned with replaced := scan.replaced ++ [target] }
        -- Historical corruption must not select a winner.
        else .ok { scanned with invalid := scan.invalid ++ [item.factCode] }
      | none => .ok { scanned with invalid := scan.invalid ++ [item.factCode] }

/-- The fact has an invalid replacement, or one assertion replaced twice. -/
def SupersessionScan.conflicts (scan : SupersessionScan) (code : FactCode) : Bool :=
  decide (code ∈ scan.invalid) || scan.replaced.any fun target =>
    target.factCode = code ∧ 1 < (scan.replaced.map (·.assertionId)).count target.assertionId

/-- The question status of a fact. -/
def questionStatus (code : FactCode) (status : FactStatus) (asks targeted : Nat) (hasProof : Bool) :
    QuestionStatus :=
  if code = .reportedDeliveryLocationChecked ∧ !hasProof then .inapplicable
  else if status.known then .answered
  else if status = .conflict then
    if targeted ≥ 1 then .conflictExhausted else .conflictRequiresClarification
  else if asks > 0 then .unknownExhausted
  else .unanswered

/-- The questions of a case about a fact. -/
def questionsAbout (caseId : RowId) (code : FactCode) (questions : List FactQuestion) :
    List FactQuestion :=
  questions.filter fun q => q.caseId = caseId ∧ q.factCode = code

/-- The question state of a fact; more than two questions do not fit its record. -/
def rebuildQuestionState (caseId : RowId) (code : FactCode) (status : FactStatus)
    (questions : List FactQuestion) (hasProof : Bool) : Except CaseFactError QuestionState :=
  let asked := questionsAbout caseId code questions
  let targeted := asked.filter (·.targetedConflict)
  if h : asked.length ≤ 2 then
    .ok ⟨asked.length, questionStatus code status asked.length targeted.length hasProof, h⟩
  else .error .validation

/-- `rebuild_case_fact_snapshot`, up to the hash. -/
def rebuildProjection (caseId : RowId) (assertions : List CaseFactAssertion)
    (questions : List FactQuestion) (currentProof : Option DeliveryProofFactContext) :
    Except CaseFactError CaseFactProjection := do
  let ordered := assertions.insertionSort fun a b => a.assertionSequence ≤ b.assertionSequence
  if ordered.map (·.assertionSequence) ≠ List.range' 1 ordered.length then
    throw (.integrity "assertion_sequence must be contiguous and monotonic")
  let scan ← ordered.foldlM (SupersessionScan.add caseId) ⟨[], [], []⟩
  let facts (code : FactCode) : FactSnapshotEntry :=
    entryFor code (ordered.filter (·.factCode = code)) currentProof (scan.conflicts code)
  let state (code : FactCode) :=
    rebuildQuestionState caseId code (facts code).status questions currentProof.isSome
  let missing ← state .customerStillReportsMissing
  let location ← state .reportedDeliveryLocationChecked
  return {
    caseId := caseId
    revision := ordered.length + (questions.filter (·.caseId = caseId)).length
    facts := facts
    questionState := fun
      | .customerStillReportsMissing => missing
      | .reportedDeliveryLocationChecked => location }

/-- `rebuild_case_fact_snapshot`. -/
def rebuildCaseFactSnapshot [FactDigest] (caseId : RowId) (assertions : List CaseFactAssertion)
    (questions : List FactQuestion) (currentProof : Option DeliveryProofFactContext) :
    Except CaseFactError CaseFactSnapshot := do
  let projection ← rebuildProjection caseId assertions questions currentProof
  return ⟨projection, FactDigest.snapshotHash projection⟩

/-- `question_allowed`. -/
def questionAllowed (snapshot : CaseFactProjection) (factCode : FactCode) (globalAsks : Nat) :
    Bool :=
  let state := snapshot.questionState factCode
  if globalAsks ≥ 2 then Bool.false
  else
    match state.status with
    | .inapplicable | .answered | .unknownExhausted | .conflictExhausted => Bool.false
    | .conflictRequiresClarification => decide (state.asks < 2)
    | .unanswered => decide (state.asks = 0)

end AfterSales
