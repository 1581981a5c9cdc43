import AfterSales.Application.Operations

/-! A conversation served alone: its requests come one after another, and nothing else happens but
    that time passes.

    What such a session leaves is computed, and the system reaches it. -/

namespace AfterSales
open Interleave

/-! ### Digests of closed examples -/

/-- Assertions are told apart by their message, messages by their text. -/
abbrev FactDigest.byMessage : FactDigest where
  messageHash := id
  batchHash _ := "batch"
  assertionId fp := IdText.spelled.row fp.sourceMessageId
  snapshotHash s := s.caseId.conversationId
  assertionId_message _ _ h := IdText.spelled.row_injective h

/-- Evidence is told apart by the results it refers to. -/
abbrev EvidenceDigest.byResults : EvidenceDigest :=
  ⟨fun results _ _ => String.join (results.map (·.2))⟩

abbrev MessageRedaction.none : MessageRedaction := ⟨fun text => (text, false)⟩

/-- Every superstep appends one trace. -/
abbrev TraceVolume.one [PolicyDigest] : TraceVolume := ⟨fun _ _ _ => 1⟩

/-! ### Sessions -/

variable [PolicyDigest] [ProofDigest] [ResultDigest] [IdText] [TraceVolume] [FactDigest]
  [CaseFolding] [EvidenceDigest] [MessageRedaction]

/-- A request, and how long after the last one it comes. -/
structure Visit where
  after : Nat
  request : Request

namespace Visit

variable (settings : Settings) (k : String)

/-- What the request finds. -/
def found (v : Visit) (x : ServiceState) : ServiceState :=
  (x.1, { x.2 with now := x.2.now + v.after })

/-- What it leaves. -/
def serve (x : ServiceState) (v : Visit) : ServiceState :=
  ((v.request.program settings k).exec (v.found x)).2

/-- The steps of a session, each with the state it finds. -/
def steps : List Visit → ServiceState → List (Label × ServiceState)
  | [], _ => []
  | v :: visits, x =>
    (v.request.program settings k).steps (v.found x) ++ steps visits (v.serve settings k x)

end Visit

/-- The service after a session of one conversation; the others are new. -/
def session (settings : Settings) (k customerId : String) (s : SharedState)
    (visits : List Visit) : ServiceConfig where
  stores := Function.update (fun _ => .created customerId) k
    (visits.foldl (Visit.serve settings k) (.created customerId, s)).1
  shared := (visits.foldl (Visit.serve settings k) (.created customerId, s)).2
  calls _ := none

/-- What is shared before the first request. -/
structure SharedState.Fresh (s : SharedState) : Prop where
  tickets : s.tickets = []
  dynamicTickets : s.fixtures.dynamicTickets = []
  ticketIds : ∀ t ∈ s.fixtures.baseTickets, ∀ id, t.ticketId ≠ IdText.ticket id

variable {settings : Settings} {k customerId : String} {s : SharedState}
  {assumes : String → Label → ServiceState → Prop}

/-- From a conversation that is served alone, its requests lead on as they are computed. -/
theorem Visit.reaches (visits : List Visit) {l : ConversationStore}
    {stores : String → ConversationStore}
    (hstore : stores k = l)
    (allowed : ∀ step ∈ Visit.steps settings k visits (l, s), assumes k step.1 step.2) :
    Interleave.Reaches (Request.program settings) SharedState.Drifts assumes
      ⟨stores, s, fun _ => none⟩
      ⟨Function.update stores k (visits.foldl (Visit.serve settings k) (l, s)).1,
        (visits.foldl (Visit.serve settings k) (l, s)).2, fun _ => none⟩ := by
  induction visits generalizing s l stores with
  | nil =>
    rw [List.foldl_nil, ← hstore, Function.update_eq_self]
    exact .refl
  | cons v visits ih =>
    have hdrift : SharedState.Drifts s { s with now := s.now + v.after } :=
      ⟨rfl, rfl, rfl, rfl, by simp⟩
    have hserve : Interleave.Reaches (Request.program settings) SharedState.Drifts assumes
        ⟨stores, { s with now := s.now + v.after }, fun _ => none⟩
        ⟨Function.update stores k (v.serve settings k (l, s)).1, (v.serve settings k (l, s)).2,
          fun _ => none⟩ := by
      subst hstore
      exact Reaches.serves v.request rfl fun step hstep =>
        allowed step (List.mem_append_left _ hstep)
    have hrest := ih (Function.update_self k (v.serve settings k (l, s)).1 stores)
      fun step hstep => allowed step (List.mem_append_right _ hstep)
    rw [Function.update_idem] at hrest
    exact .head (.environment hdrift) (hserve.trans hrest)

/-- The system reaches what a session leaves. -/
theorem session_reaches (hfresh : s.Fresh) (visits : List Visit)
    (allowed : ∀ step ∈ Visit.steps settings k visits (.created customerId, s),
      assumes k step.1 step.2) :
    ServiceReaches settings assumes (session settings k customerId s visits) :=
  ⟨⟨fun _ => .created customerId, s, fun _ => none⟩,
    ⟨fun _ => ⟨customerId, rfl⟩, fun _ => rfl, hfresh.tickets, hfresh.dynamicTickets,
      hfresh.ticketIds⟩, Visit.reaches visits rfl allowed⟩

/-- After a session every conversation is at rest. -/
theorem session_atRest (visits : List Visit) (j : String) :
    (session settings k customerId s visits).AtRest j := by
  intro call hcall
  cases hcall

/-- The rows that the session leaves. -/
theorem session_store (visits : List Visit) : (session settings k customerId s visits).stores k
    = (visits.foldl (Visit.serve settings k) (.created customerId, s)).1 := by
  simp [session]

/-- The steps of a request that comes after others, each with the state it finds. -/
def Visit.stepsAfter (settings : Settings) (k : String) (visits : List Visit) (last : Visit)
    (x : ServiceState) : List (Label × ServiceState) :=
  (last.request.program settings k).steps
    (last.found (visits.foldl (Visit.serve settings k) x))

section Last

variable {visits : List Visit} {last : Visit} (hfresh : s.Fresh)
  (hearlier : ∀ step ∈ Visit.steps settings k visits (.created customerId, s),
    assumes k step.1 step.2)
  (hlast : ∀ step ∈ Visit.stepsAfter settings k visits last (.created customerId, s),
    assumes k step.1 step.2)
include hfresh hearlier hlast

/-- The service comes to every step of the last request. -/
theorem session_comes {step : Label × ServiceState} {earlier rest : List (Label × ServiceState)}
    (hsteps : Visit.stepsAfter settings k visits last (.created customerId, s)
      = earlier ++ step :: rest) :
    ∃ g, ServiceReaches settings assumes g ∧ g.Due k step rest := by
  obtain ⟨g₀, h₀, hreach⟩ := session_reaches hfresh visits hearlier
  let found := last.found (visits.foldl (Visit.serve settings k) (.created customerId, s))
  let waits : ServiceConfig := { session settings k customerId s visits with shared := found.2 }
  have hdrift : SharedState.Drifts (session settings k customerId s visits).shared waits.shared :=
    ⟨rfl, rfl, rfl, rfl, by simp [waits, found, Visit.found, session]⟩
  have hfound : (waits.stores k, waits.shared) = found := by
    simp [waits, session, found, Visit.found]
  have hsame : (last.request.program settings k).steps (waits.stores k, waits.shared)
      = Visit.stepsAfter settings k visits last (.created customerId, s) := by
    rw [hfound, Visit.stepsAfter]
  obtain ⟨g, hcomes, hdue⟩ : ∃ g, Interleave.Reaches (Request.program settings)
      SharedState.Drifts assumes waits g ∧ g.Due k step rest :=
    Interleave.Reaches.comes last.request rfl (hsame ▸ hlast) (hsame.trans hsteps)
  exact ⟨g, ⟨g₀, h₀, (hreach.tail (.environment hdrift)).trans hcomes⟩, hdue⟩

/-- The service passes through two steps that follow each other in the last request. -/
theorem session_passes {a b : Label × ServiceState}
    (hnext : (a, b) ∈ (Visit.stepsAfter settings k visits last (.created customerId, s)).zip
      (Visit.stepsAfter settings k visits last (.created customerId, s)).tail) :
    ∃ g g', ServiceReaches settings assumes g ∧
      Step (Request.program settings) SharedState.Drifts assumes g g' ∧
      (g.stores k, g.shared) = a.2 ∧ (g'.stores k, g'.shared) = b.2 := by
  obtain ⟨earlier, rest, hsteps⟩ := exists_of_mem_zip_tail hnext
  obtain ⟨g, hreach, hdue⟩ := session_comes hfresh hearlier hlast hsteps
  have hallowed : assumes k a.1 a.2 := hlast a (by rw [hsteps]; simp)
  obtain ⟨g', hstep, hfound'⟩ : ∃ g', Step (Request.program settings) SharedState.Drifts assumes
      g g' ∧ (g'.stores k, g'.shared) = b.2 := hdue.passes hallowed
  obtain ⟨call, update, next, -, -, hfound, -⟩ := hdue
  exact ⟨g, g', hreach, hstep, hfound, hfound'⟩

end Last

/-! ### Several conversations -/

/-- A request to one of the conversations is served while the others are at rest. -/
def ServiceConfig.serve (settings : Settings) (g : ServiceConfig) (turn : String × Visit) :
    ServiceConfig where
  stores := Function.update g.stores turn.1
    (turn.2.serve settings turn.1 (g.stores turn.1, g.shared)).1
  shared := (turn.2.serve settings turn.1 (g.stores turn.1, g.shared)).2
  calls _ := none

/-- The service after requests to several conversations, served in turn. -/
def sessions (settings : Settings) (customerId : String) (s : SharedState)
    (turns : List (String × Visit)) : ServiceConfig :=
  turns.foldl (ServiceConfig.serve settings) ⟨fun _ => .created customerId, s, fun _ => none⟩

theorem ServiceConfig.serve_reaches (turns : List (String × Visit)) {g : ServiceConfig}
    (hcalls : g.calls = fun _ => none) :
    Interleave.Reaches (Request.program settings) SharedState.Drifts (fun _ _ _ => True) g
      (turns.foldl (ServiceConfig.serve settings) g) := by
  induction turns generalizing g with
  | nil => exact .refl
  | cons turn turns ih =>
    obtain ⟨stores, shared, calls⟩ := g
    subst hcalls
    have hserve : Interleave.Reaches (Request.program settings) SharedState.Drifts
        (fun _ _ _ => True) ⟨stores, shared, fun _ => none⟩
        (ServiceConfig.serve settings ⟨stores, shared, fun _ => none⟩ turn) :=
      Visit.reaches [turn.2] rfl fun _ _ => trivial
    exact hserve.trans (ih rfl)

/-- The system reaches what such requests leave, and is at rest. -/
theorem sessions_reaches (hfresh : s.Fresh) (turns : List (String × Visit)) :
    ServiceReaches settings (fun _ _ _ => True) (sessions settings customerId s turns) :=
  ⟨⟨fun _ => .created customerId, s, fun _ => none⟩,
    ⟨fun _ => ⟨customerId, rfl⟩, fun _ => rfl, hfresh.tickets, hfresh.dynamicTickets,
      hfresh.ticketIds⟩, ServiceConfig.serve_reaches turns rfl⟩

/-- Between requests nothing runs. -/
theorem sessions_calls (turns : List (String × Visit)) :
    (sessions settings customerId s turns).calls = fun _ => none := by
  have hcalls : ∀ g : ServiceConfig, g.calls = (fun _ => none) →
      (turns.foldl (ServiceConfig.serve settings) g).calls = fun _ => none := by
    induction turns with
    | nil => exact fun g hg => hg
    | cons turn turns ih => exact fun g hg => ih _ rfl
  exact hcalls _ rfl

theorem sessions_atRest (turns : List (String × Visit)) (j : String) :
    (sessions settings customerId s turns).AtRest j := by
  intro call hcall
  rw [sessions_calls] at hcall
  cases hcall

end AfterSales

/-! ### Inputs of closed sessions -/

namespace AfterSales.Session
open RevisedRun

def demoSettings : Settings := ⟨"default", 216000000000⟩

/-- One shipped order, and sixty hours since its last scan. -/
def demoShared (actionFaultPlan : String → List ActionFixtureFault) : SharedState where
  fixtures := { (shippedCatalog []).store with actionFaultPlan := actionFaultPlan }
  policyRag := (shippedCatalog []).policyRag
  tickets := []
  now := 216000000000

/-- A customer finds a parcel late. -/
def reportLate : TriageResult := ⟨.stalledTracking, [], ["ORD-1"]⟩

/-- A classifier, and a selector that reads in a given order. -/
def providersOf [PolicyDigest] (triage : Option TriageResult) (order : List ReadTool) :
    Providers where
  triage := triage
  selector _ _ := followOrder order

/-- The reads that a late parcel needs. -/
def everyRead : List ReadTool :=
  [.getOrderContext, .getLogisticsTimeline, .searchAfterSalesPolicy, .getExistingLogisticsTickets]

theorem demoShared_fresh [IdText] (plan : String → List ActionFixtureFault) :
    (demoShared plan).Fresh :=
  ⟨rfl, rfl, fun _ h => by cases h⟩

/-- A step that fails no run and submits no write. -/
def untroubled : Label → Bool
  | .fail _ | .submit _ => false
  | _ => true

theorem retryable_scripted : ActionState.failedRetryable ∈
    [ActionState.failedRetryable, .failedTerminal, .uncertain] := by
  decide

/-- The first write of the service fails, and may be repeated. -/
def failOnce : String → List ActionFixtureFault :=
  fun _ => [⟨.failedRetryable, "WRITE_TIMEOUT", retryable_scripted⟩]

/-- The first proposal of a conversation is confirmed. -/
def confirmFirst (k : String) : Visit := ⟨0, .confirmProposal ⟨⟨k, 2⟩, 3⟩ 1⟩

/-- Its case is tried again. -/
def retryFirst [PolicyDigest] (k : String) : Visit :=
  ⟨0, .retryCase ⟨k, 2⟩ (providersOf none everyRead)⟩

/-- A step that submits no write unless it is the first one of the service. -/
def writesFirst [PolicyDigest] (step : Label × ServiceState) : Bool :=
  match step.1 with
  | .submit _ => step.2.2.tickets.isEmpty
  | _ => true

theorem tickets_of_writesFirst [PolicyDigest] {actionId : ActionId} {x : ServiceState}
    (h : writesFirst (.submit actionId, x) = true) : x.2.tickets = [] :=
  List.isEmpty_iff.mp h

/-- An order that was left at the front desk, and the clause for it. -/
def frontDesk : SharedState :=
  { demoShared fun _ => [] with
    fixtures :=
      { (demoShared fun _ => []).fixtures with
        orders := fun id =>
          if id = "ORD-1" then some { RevisedRun.shippedOrder with orderStatus := .delivered }
          else none
        ordersKey := by
          intro id o h
          rw [Option.ite_none_right_eq_some] at h
          obtain ⟨rfl, ⟨⟩⟩ := h
          rfl
        timelines := fun _ => [⟨"EV-1", none, "delivered", 0⟩]
        deliveryProofs := fun _ => some ⟨"POD-1", "ORD-1", none, some "front_desk", some 0⟩ }
    policyRag :=
      { (demoShared fun _ => []).policyRag with
        corpus :=
          { clauses := [⟨"DOC", "CL-STD-SNR-V2", signedClauseFacts, "clause", false, rfl, rfl⟩]
            uniquelyResolves := List.nodup_singleton _ }
        rank := fun _ _ _ => .ok [⟨"DOC", "v2", "CL-STD-SNR-V2", "clause", "clause", 1⟩] } }

theorem frontDesk_fresh [IdText] : frontDesk.Fresh := ⟨rfl, rfl, fun _ h => by cases h⟩

/-- The reads that a delivered parcel needs. -/
def deliveredReads : List ReadTool :=
  [.getOrderContext, .getLogisticsTimeline, .getDeliveryProof, .searchAfterSalesPolicy,
    .getExistingLogisticsTickets]

/-- A customer misses a parcel, and is asked whether it is at the front desk. -/
def missingParcel [PolicyDigest] : Visit :=
  ⟨0, .submitMessage "my parcel is missing"
    (providersOf (some ⟨.signedNotReceived, [], ["ORD-1"]⟩) deliveredReads)⟩

/-- It is not there. -/
def notAtDesk [PolicyDigest] : Visit :=
  ⟨60000000, .submitMessage "前台没有" (providersOf none deliveredReads)⟩

end AfterSales.Session
