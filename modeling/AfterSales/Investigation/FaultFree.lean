import AfterSales.Investigation.ProgressFacts
import AfterSales.Investigation.Service

/-! A fresh investigation in a world without faults, seen as a reading machine.

    When no source fails and the selector only asks for reads that the validator accepts, all that
    the loop does is read one tool after another until it halts. The machine keeps the list of tools
    read so far and nothing else: the answers are fixed by the world, and whether it halts depends
    on that list. The loop refines the machine in both directions: each run of an accepted selector
    is a run of the machine, and each run of the machine is one of some accepted selector. -/

namespace AfterSales

theorem not_transient {P : Type} {r : ToolResult P} (h : r.executionStatus = .success) :
    transientFailure r = false := by
  simp [transientFailure, h]

variable [PolicyDigest]

/-- A fixed world without faults, and a scope authorized in it. -/
structure FaultFreeWorld where
  catalog : SyntheticReadToolCatalog
  trusted : TrustedToolContext
  order : OrderFixture
  policy : PolicySearchPayload
  authorized : authorizeOrder trusted.customerId trusted.authorizedOrderId catalog.store = some order
  noGuard : fixtureGuardReasons.lookup trusted.faultSeed = none
  noFault : ∀ tool, catalog.store.faults trusted.faultSeed tool 1 = none
  searched : catalog.policyRag.search order.orderId
    ⟨trusted.canonicalIssueType, order.serviceLevel, order.region, trusted.evaluatedAt⟩ = .ok policy

namespace FaultFreeWorld

variable (w : FaultFreeWorld)

/-- The issue of the case. -/
def issue : IssueType := w.trusted.canonicalIssueType

/-- The arguments every accepted call of a tool has. -/
def arguments (tool : ReadTool) : ToolArguments :=
  ⟨w.trusted.authorizedOrderId, if tool.takesIssue then some w.issue else none⟩

/-- The tool answers a requirement of the issue, required or optional. -/
def Relevant (tool : ReadTool) : Prop :=
  requirementRegistry w.issue tool.requirement ≠ .notRequired

instance (tool : ReadTool) : Decidable (w.Relevant tool) := inferInstanceAs (Decidable (¬ _))

/-- The relevant tools of an issue. -/
def relevantTools : IssueType → List ReadTool
  | .signedNotReceived => [.getOrderContext, .getLogisticsTimeline, .getDeliveryProof,
      .searchAfterSalesPolicy, .getExistingLogisticsTickets]
  | .stalledTracking => [.getOrderContext, .getLogisticsTimeline, .getCarrierServiceAlerts,
      .searchAfterSalesPolicy, .getExistingLogisticsTickets]

theorem relevant_iff (tool : ReadTool) : w.Relevant tool ↔ tool ∈ relevantTools w.issue := by
  unfold Relevant
  cases w.issue <;> cases tool <;> decide

/-- A tool is relevant exactly when no restriction excludes the issue. -/
theorem relevant_iff_allowed (tool : ReadTool) :
    w.Relevant tool ↔ ∀ issue ∈ tool.restrictedTo, w.issue = issue := by
  unfold Relevant
  cases w.issue <;> cases tool <;> decide

/-- Every required tool has been read. -/
def evaluable (read : List ReadTool) : Bool :=
  (requiredObservationTools w.issue).all fun tool => decide (tool ∈ read)

variable [ResultDigest]

/-- No source of the world raises. -/
theorem answers (tool : ReadTool) :
    (w.catalog.readSource w.trusted w.order w.issue (w.arguments tool) 1 tool).toOption.isSome := by
  cases tool with
  | searchAfterSalesPolicy =>
    simp only [SyntheticReadToolCatalog.readSource]
    split
    · rfl
    · rename_i h
      rw [issue, w.searched] at h
      cases h
    · rfl
  | _ => rfl

/-- What the world answers a tool. -/
def answer (tool : ReadTool) : ToolResult (PayloadOf tool) :=
  (w.catalog.readSource w.trusted w.order w.issue (w.arguments tool) 1 tool).toOption.get
    (w.answers tool)

theorem readSource_eq (tool : ReadTool) :
    w.catalog.readSource w.trusted w.order w.issue (w.arguments tool) 1 tool =
      .ok (w.answer tool) := by
  have hget : (w.catalog.readSource w.trusted w.order w.issue (w.arguments tool) 1 tool).toOption =
      some (w.answer tool) := (Option.some_get _).symm
  cases hread : w.catalog.readSource w.trusted w.order w.issue (w.arguments tool) 1 tool with
  | error e =>
    rw [hread] at hget
    cases hget
  | ok result =>
    rw [hread] at hget
    exact congrArg Except.ok (Option.some.inj hget)

/-- The results after some tools have been read. -/
def resultsOf (read : List ReadTool) : ToolResults := fun tool =>
  if tool ∈ read then some (w.answer tool) else none

/-- An overdue stalled case of the business demo has not read the carrier alerts yet. -/
def carrierPending (read : List ReadTool) : Bool :=
  w.trusted.fixtureVersion = "business-demo-v1" && w.issue = .stalledTracking &&
    decide (ReadTool.getCarrierServiceAlerts ∉ read) &&
    match Coordinator.scopedHours (w.resultsOf read) w.trusted.targetShipmentId,
        Coordinator.stalledThreshold (w.resultsOf read) with
    | some hours, some threshold => decide ((threshold : ℚ) < hours)
    | _, _ => false

/-- The early stop that the last read triggers. -/
def earlyStop (read : List ReadTool) : Option String :=
  read.getLast?.bind fun tool =>
    Coordinator.earlyStopOf w.trusted (w.resultsOf read) tool (w.answer tool)

/-- The machine halts: on an early stop, or with all evidence there. -/
def halted (read : List ReadTool) : Bool :=
  (w.earlyStop read).isSome || (w.evaluable read && !w.carrierPending read)

/-- The lists of tools the machine can have read. -/
inductive Reads : List ReadTool → Prop
  | start : Reads []
  | read {done : List ReadTool} {tool : ReadTool} (h : Reads done) (go : w.halted done = false)
      (new : tool ∉ done) (relevant : w.Relevant tool) : Reads (done ++ [tool])

theorem Reads.nodup {w : FaultFreeWorld} {done : List ReadTool} (h : w.Reads done) :
    done.Nodup := by
  induction h with
  | start => exact List.nodup_nil
  | read _ _ new _ ih =>
    rw [List.nodup_append]
    exact ⟨ih, List.nodup_singleton _, by rintro a ha b hb rfl; simp_all⟩

theorem Reads.relevant {w : FaultFreeWorld} {done : List ReadTool} (h : w.Reads done) :
    ∀ t ∈ done, w.Relevant t := by
  induction h with
  | start => simp
  | read _ _ _ relevant ih =>
    intro t ht
    rcases List.mem_append.mp ht with ht | ht
    · exact ih t ht
    · rw [List.mem_singleton.mp ht]; exact relevant

/-- An issue has five relevant tools, so the machine reads at most five. -/
theorem Reads.length_le {w : FaultFreeWorld} {done : List ReadTool} (h : w.Reads done) :
    done.length ≤ 5 := by
  have hsub : done ⊆ relevantTools w.issue := fun t ht => (w.relevant_iff t).mp (h.relevant t ht)
  have hle := (List.subperm_of_subset h.nodup hsub).length_le
  have hfive : (relevantTools w.issue).length = 5 := by cases w.issue <;> rfl
  omega

/-- A machine that has read everything relevant has halted. -/
theorem halted_of_all {done : List ReadTool} (h : ∀ t ∈ relevantTools w.issue, t ∈ done) :
    w.halted done = true := by
  have hevaluable : w.evaluable done = true := by
    unfold evaluable
    rw [List.all_eq_true]
    intro t ht
    refine decide_eq_true (h t ?_)
    revert ht
    cases w.issue <;> cases t <;> decide
  have hcarrier : w.carrierPending done = false := by
    unfold carrierPending
    cases hissue : w.issue with
    | signedNotReceived => simp
    | stalledTracking =>
      have hread : ReadTool.getCarrierServiceAlerts ∈ done := h _ (by rw [hissue]; decide)
      simp [hread]
  unfold halted
  rw [hevaluable, hcarrier]
  simp

/-- While the machine has not halted, fewer than five tools have been read. -/
theorem Reads.length_lt {w : FaultFreeWorld} {done : List ReadTool} (h : w.Reads done)
    (hgo : w.halted done = false) : done.length < 5 := by
  by_contra hge
  have hsub : done ⊆ relevantTools w.issue := fun t ht => (w.relevant_iff t).mp (h.relevant t ht)
  have hfive : (relevantTools w.issue).length = 5 := by cases w.issue <;> rfl
  have hperm : done.Perm (relevantTools w.issue) :=
    (List.subperm_of_subset h.nodup hsub).perm_of_length_le (by omega)
  rw [w.halted_of_all fun t ht => hperm.mem_iff.mpr ht] at hgo
  cases hgo

/-- The policy is answered with what the search returned. -/
theorem answer_search : ∃ queryId hash ran, w.answer .searchAfterSalesPolicy =
    .completedSearch queryId w.trusted.evaluatedAt w.policy ran hash := by
  have hread := w.readSource_eq .searchAfterSalesPolicy
  simp only [SyntheticReadToolCatalog.readSource] at hread
  split at hread
  · rename_i e h
    rw [issue, w.searched] at h
    cases h
  · cases hread
  · rename_i payload h
    rw [issue, w.searched] at h
    obtain rfl := Except.ok.inj h
    exact ⟨_, _, _, (Except.ok.inj hread).symm⟩

/-- Every answer of the world is a success. -/
theorem answer_success (tool : ReadTool) : (w.answer tool).executionStatus = .success := by
  cases tool with
  | searchAfterSalesPolicy =>
    obtain ⟨queryId, hash, ran, hanswer⟩ := w.answer_search
    rw [hanswer]
    rfl
  | _ => rfl

/-- The payload of the policy answer is what the search returned. -/
theorem answer_policy : (w.answer .searchAfterSalesPolicy).payload = some w.policy := by
  obtain ⟨queryId, hash, ran, hanswer⟩ := w.answer_search
  rw [hanswer]
  rfl

end FaultFreeWorld

end AfterSales
