import AfterSales.Investigation.Service
import AfterSales.Policy.GateSoundness

/-! The reasons that the gate names.

    Every row of the truth tables names a reason, and a proposal names one of two: the last row of
    either table. What `_evaluate_gate` answers around the tables names its own. -/

namespace AfterSales
open Cascade

variable [PolicyDigest]

/-- A gate result as the pure gate makes them: it names a reason, and proposes for two of them. -/
structure EvidenceGateResult.Reasoned (g : EvidenceGateResult) : Prop where
  reason : g.reasonCode ≠ ""
  proposes : g.outcome = .decision .proposeTicket → g.reasonCode
    ∈ ["SIGNED_NOT_RECEIVED_EVIDENCE_COMPLETE", "STALLED_TRACKING_EVIDENCE_COMPLETE"]

omit [PolicyDigest] in
theorem reasoned_gateResult {d : EvidenceGateDecision} {reason : String} {named : NamedResults}
    (hreason : reason ≠ "") (hd : d ≠ .proposeTicket) : (gateResult d reason named).Reasoned :=
  ⟨hreason, fun h => absurd (GateOutcome.decision.inj h) hd⟩

omit [PolicyDigest] in
theorem reasoned_revision {t : TriageIntent} {reason : String} {hashes : List (String × String)}
    (hreason : reason ≠ "") : (⟨.revision t, reason, hashes⟩ : EvidenceGateResult).Reasoned :=
  ⟨hreason, fun h => by cases h⟩

/-- A cascade whose rows name a reason, and do not propose. -/
abbrev Reasons (o : Option EvidenceGateResult) : Prop :=
  Row EvidenceGateResult.Reasoned o True

omit [PolicyDigest] in
theorem commonGuard_reasons (facts : CommonGateFacts) : Reasons (commonGuard facts) := by
  refine .test (fun _ => reasoned_gateResult (by decide) (by decide)) fun _ => ?_
  refine .test (fun _ => reasoned_gateResult (by decide) (by decide)) fun _ => ?_
  refine .test (fun _ => reasoned_gateResult (by decide) (by decide)) fun _ => ?_
  refine .test (fun _ => reasoned_gateResult (by decide) (by decide)) fun _ => ?_
  refine .test (fun _ => reasoned_gateResult (by decide) (by decide)) fun _ => ?_
  exact .test (fun _ => reasoned_gateResult (by decide) (by decide)) fun _ => trivial

omit [PolicyDigest] in
theorem unavailableResult_reasons (named : NamedResults) (exhausted : Bool) :
    Reasons (unavailableResult named exhausted) := by
  refine .of_cases (fun r h => ?_) fun _ => trivial
  unfold unavailableResult at h
  simp only [Option.ite_none_left_eq_some, Option.some.injEq] at h
  obtain ⟨-, rfl⟩ := h
  split <;> exact reasoned_gateResult (by decide) (by decide)

theorem policyGuard_reasons (policy : ToolResult PolicySearchPayload)
    (order : OrderContextPayload) (issueType : IssueType) (named : NamedResults) :
    Reasons (policyGuard policy order issueType named) := by
  refine .need (fun _ => reasoned_gateResult (by decide) (by decide)) fun payload _ => ?_
  refine .test (fun _ => reasoned_gateResult (by decide) (by decide)) fun _ => ?_
  refine .test (fun _ => reasoned_gateResult (by decide) (by decide)) fun _ => ?_
  refine .test (fun _ => reasoned_gateResult (by decide) (by decide)) fun _ => ?_
  refine .test (fun _ => reasoned_gateResult (by decide) (by decide)) fun _ => ?_
  refine .test (fun _ => reasoned_gateResult (by decide) (by decide)) fun _ => ?_
  refine .need (fun _ => reasoned_gateResult (by decide) (by decide)) fun facts _ => ?_
  refine .test (fun _ => reasoned_gateResult (by decide) (by decide)) fun _ => ?_
  refine .test (fun _ => reasoned_gateResult (by decide) (by decide)) fun _ => ?_
  exact .test (fun _ => reasoned_gateResult (by decide) (by decide)) fun _ => trivial

/-- The rows of the signed table that stand before its proposal. -/
theorem signedRows_reason (facts : SignedNotReceivedEvidence) :
    Reasons (guard (signedEvidenceRows facts) (signedCustomerRows facts)) := by
  refine .guard (P := True) ?_ fun _ => ?_
  · refine .guard (commonGuard_reasons _) fun _ => ?_
    refine .guard (unavailableResult_reasons _ _) fun _ => ?_
    refine .need (fun _ => reasoned_gateResult (by decide) (by decide)) fun order _ => ?_
    refine .test (fun _ => reasoned_gateResult (by decide) (by decide)) fun _ => ?_
    refine .test (fun _ => reasoned_revision (by decide)) fun _ => ?_
    refine .guard (unavailableResult_reasons _ _) fun _ => ?_
    refine .test (fun _ => reasoned_gateResult (by decide) (by decide)) fun _ => ?_
    refine .guard (unavailableResult_reasons _ _) fun _ => ?_
    refine .need (fun _ => reasoned_gateResult (by decide) (refreshDecision_ne _))
      fun timeline _ => ?_
    refine .test (fun _ => reasoned_gateResult (by decide) (refreshDecision_ne _)) fun _ => ?_
    refine .need (fun _ => reasoned_gateResult (by decide) (refreshDecision_ne _))
      fun scopedTimeline _ => ?_
    refine .test (fun _ => reasoned_gateResult (by decide) (refreshDecision_ne _)) fun _ => ?_
    refine .guard (policyGuard_reasons _ _ _ _) fun _ => ?_
    refine .need (fun _ => reasoned_gateResult (by decide) (by decide)) fun policy _ => ?_
    exact .test (fun _ => reasoned_gateResult (by decide) (by decide)) fun _ => trivial
  · refine .test (fun _ => reasoned_gateResult (by decide) (by decide)) fun _ => ?_
    refine .guard (unavailableResult_reasons _ _) fun _ => ?_
    refine .test (fun _ => reasoned_gateResult (by decide) (by decide)) fun _ => ?_
    exact .test (fun _ => reasoned_gateResult (by decide) (by decide)) fun _ => trivial

/-- The rows of the stalled table that stand before its proposal. -/
theorem stalledRows_reason (facts : StalledTrackingEvidence) :
    Reasons (guard (stalledEvidenceRows facts) (stalledTicketRows facts)) := by
  refine .guard (P := True) ?_ fun _ => ?_
  · refine .guard (commonGuard_reasons _) fun _ => ?_
    refine .guard (unavailableResult_reasons _ _) fun _ => ?_
    refine .need (fun _ => reasoned_gateResult (by decide) (by decide)) fun order _ => ?_
    refine .test (fun _ => reasoned_gateResult (by decide) (by decide)) fun _ => ?_
    refine .test (fun _ => reasoned_revision (by decide)) fun _ => ?_
    refine .test (fun _ => reasoned_gateResult (by decide) (by decide)) fun _ => ?_
    refine .test (fun _ => reasoned_gateResult (by decide) (by decide)) fun _ => ?_
    refine .need (fun _ => reasoned_gateResult (by decide) (refreshDecision_ne _))
      fun timeline _ => ?_
    refine .test (fun _ => reasoned_gateResult (by decide) (refreshDecision_ne _)) fun _ => ?_
    refine .guard (policyGuard_reasons _ _ _ _) fun _ => ?_
    refine .need (fun _ => reasoned_gateResult (by decide) (by decide)) fun policy _ => ?_
    refine .test (fun _ => reasoned_gateResult (by decide) (by decide)) fun _ => ?_
    refine .need (fun _ => reasoned_gateResult (by decide) (by decide)) fun threshold _ => ?_
    refine .need (fun _ => reasoned_gateResult (by decide) (refreshDecision_ne _))
      fun scopedTimeline _ => ?_
    refine .need (fun _ => reasoned_gateResult (by decide) (refreshDecision_ne _))
      fun hours _ => ?_
    refine .test (fun _ => reasoned_gateResult (by decide) (by decide)) fun _ => ?_
    exact .test (fun _ => reasoned_gateResult (by decide) (by decide)) fun _ => trivial
  · refine .guard (unavailableResult_reasons _ _) fun _ => ?_
    refine .guard (unavailableResult_reasons _ _) fun _ => ?_
    refine .test (fun _ => reasoned_gateResult (by decide) (by decide)) fun _ => ?_
    exact .test (fun _ => reasoned_gateResult (by decide) (by decide)) fun _ => trivial

omit [PolicyDigest] in
/-- A table whose rows name reasons ends with one, when its last result does. -/
theorem Reasons.getD {o : Option EvidenceGateResult} {last : EvidenceGateResult}
    (h : Reasons o) (hlast : last.Reasoned) : (o.getD last).Reasoned := by
  cases o with
  | none => exact hlast
  | some r => exact h.returns rfl

/-- Both tables name a reason, and propose for theirs only. -/
theorem evaluateEvidenceGate_reasoned {issueType : IssueType} {facts : GateEvidence}
    {g : EvidenceGateResult} (h : evaluateEvidenceGate issueType facts = some g) : g.Reasoned := by
  unfold evaluateEvidenceGate at h
  split at h
  · obtain rfl := Option.some.inj h
    exact (signedRows_reason _).getD
      ⟨by simp [signedProposal, gateResult], fun _ => by simp [signedProposal, gateResult]⟩
  · obtain rfl := Option.some.inj h
    exact (stalledRows_reason _).getD
      ⟨by simp [stalledProposal, gateResult], fun _ => by simp [stalledProposal, gateResult]⟩
  · cases h

variable [ResultDigest] in
/-- So does all that an investigation answers. -/
theorem evaluateGate_reasoned (issueType : IssueType) (results : ToolResults)
    (args : GateArguments) : (evaluateGate issueType results args).Reasoned := by
  have hrequired : requiredQueryNotCompleted.Reasoned :=
    reasoned_gateResult (by decide) (by decide)
  unfold evaluateGate
  split
  · exact reasoned_gateResult (by decide) (by decide)
  split
  · exact hrequired
  split
  · exact reasoned_revision (by decide)
  split
  · exact ⟨by simp, by simp⟩
  split
  · exact hrequired
  · rw [evaluateComplete]
    cases hgate : evaluateEvidenceGate issueType _ with
    | none => exact hrequired
    | some g => exact evaluateEvidenceGate_reasoned hgate

end AfterSales
