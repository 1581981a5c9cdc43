import AfterSales.Application.Session
import AfterSales.Application.Watch
import AfterSales.Lib.Ahead

/-! The questions of a case, and the answers that are read.

        asked once ── reply ──▶ read ──▶ asked twice ── reply ──▶ closed, unread

    The limit on the questions is tested where one is asked, and again where an answer comes in. So
    the answer to the last question that may be asked is never read. -/

set_option linter.unusedSectionVars false

namespace AfterSales
open Interleave Repository

variable [PolicyDigest] [ProofDigest] [ResultDigest] [IdText] [TraceVolume] [FactDigest]
  [CaseFolding] [EvidenceDigest] [MessageRedaction]

variable {settings : Settings} {k : String} {l : ConversationStore} {s : SharedState}
  {caseId runId messageId : RowId} {f : CaseFolder} {label : Label} {γ γ' : Phase}
  {assumes : String → Label → ServiceState → Prop} {g : ServiceConfig}

/-! ### What no step changes -/

theorem FixtureStore.addTicket_shipments {store store' : FixtureStore} {ticket : LogisticsTicket}
    (h : store.addTicket ticket = some store') : store'.shipments = store.shipments := by
  rw [FixtureStore.addTicket] at h
  split at h
  · split at h
    · rw [← Option.some.inj h]
    · cases h
  · rw [← Option.some.inj h]

theorem FixtureStore.consumeActionFault_shipments (store : FixtureStore) (faultSeed : String) :
    (store.consumeActionFault faultSeed).1.shipments = store.shipments := by
  rw [FixtureStore.consumeActionFault]
  split <;> rfl

/-- An order keeps its shipments. -/
theorem Move.shipments {x y : ServiceState} (h : Move settings k label γ x γ' y) :
    y.2.fixtures.shipments = x.2.fixtures.shipments := by
  cases h with
  | change folder run move =>
    cases move with
    | submitFaulted => exact FixtureStore.consumeActionFault_shipments ..
    | verify open_ owner submitted added => exact FixtureStore.addTicket_shipments added
    | _ => rfl
  | _ => rfl

/-- Whatever the service comes to, its orders have the shipments they have now. -/
theorem ServiceReaches.shipments (hreach : ServiceReaches settings assumes g) {g' : ServiceConfig}
    (hlater : Interleave.Reaches (Request.program settings) SharedState.Drifts assumes g g') :
    g'.shared.fixtures.shipments = g.shared.fixtures.shipments := by
  have keeps : Preserved (machine settings) SharedState.Drifts assumes
      fun _ _ _ s => s.fixtures.shipments = g.shared.fixtures.shipments :=
    { own := fun _ h _ hmove => hmove.shipments.trans h
      other := fun _ _ _ _ h _ hmove => hmove.shipments.trans h
      moves := fun hdrift _ h => (congrArg FixtureStore.shipments hdrift.fixtures).trans h
      ended := fun _ _ h => h }
  have hnow : Simulated (machine settings)
      (fun _ _ _ s => s.fixtures.shipments = g.shared.fixtures.shipments) g := by
    intro k
    obtain ⟨γ, hinv, -, hphase⟩ := hreach.simulated (machine_preserved settings assumes)
      (fun _ h₀ k => h₀.inv k) k
    exact ⟨γ, hinv, rfl, hphase⟩
  obtain ⟨γ, -, h, -⟩ := hlater.simulated (fun k r l s _ => Request.follows settings k r l)
    (machine_preserved settings assumes) keeps hnow ""
  exact h

/-- What is stored of a conversation at rest. -/
theorem ServiceReaches.storeInv (hreach : ServiceReaches settings assumes g) (hrest : g.AtRest k) :
    StoreInv k (g.stores k) :=
  ((hreach.simulated (machine_preserved settings assumes) fun _ h₀ k => h₀.inv k).atRest
    (machine_preserved settings assumes) hrest).1

/-! ### Reading an answer -/

namespace Service

/-- The step that reads an answer finds what it can be read as: the packages of the order, or the
    outstanding question of facts that rebuild as they are stored. -/
def Interprets (caseId : RowId) (x : ServiceState) : Prop :=
  ∃ f, x.1.folders caseId = some f ∧
    (isTargetClarificationCase x.2 f.row = true ∨
      ∃ snapshot x', CaseFactService.loadSnapshot caseId x = .ok (snapshot, x') ∧
        (CaseFactService.outstandingCode snapshot).isSome = true)

/-- The limit on the questions has not closed the case. -/
def WithinLimit (caseId : RowId) (l : ConversationStore) : Prop :=
  ∀ f, l.folders caseId = some f →
    ¬ (f.row.caseState = .closed ∧ f.row.reasonCode = some "BUSINESS_CLARIFICATION_LIMIT_REACHED")

/-- A fact was asked for, and the facts rebuild as they are stored. -/
def FactOutstanding (l : ConversationStore) (caseId : RowId) (f : CaseFolder) : Prop :=
  ∃ snapshot, CaseFactService.rebuildFolder l caseId f = .ok snapshot ∧
    (∀ stored ∈ f.snapshot, stored = snapshot) ∧
    (CaseFactService.outstandingCode snapshot).isSome = true

/-- What the question of a case asks for can be read in an answer. -/
def Answerable (l : ConversationStore) (s : SharedState) (caseId : RowId) (f : CaseFolder) : Prop :=
  isTargetClarificationCase s f.row = true ∨ FactOutstanding l caseId f

end Service

/-- The snapshot of a case is loaded with an outstanding question when a fact is outstanding. -/
theorem Service.factOutstanding_iff (hf : l.folders caseId = some f)
    (h : FactHistory l caseId f) :
    (∃ snapshot x', CaseFactService.loadSnapshot caseId (l, s) = .ok (snapshot, x') ∧
        (CaseFactService.outstandingCode snapshot).isSome = true) ↔
      FactOutstanding l caseId f := by
  obtain ⟨rebuilt, hr, hload | hload⟩ := CaseFactService.loadSnapshot_cases (s := s) hf h
  · obtain ⟨hsame, hload⟩ := hload
    constructor
    · rintro ⟨snapshot, x', hloaded, hopen⟩
      obtain ⟨rfl, -⟩ := Prod.mk.inj (Except.ok.inj (hload.symm.trans hloaded))
      exact ⟨rebuilt, hr.rebuilt, hsame, hopen⟩
    · rintro ⟨snapshot, hrebuilt, -, hopen⟩
      obtain rfl := Except.ok.inj (hr.rebuilt.symm.trans hrebuilt)
      exact ⟨rebuilt, _, hload, hopen⟩
  · obtain ⟨⟨stored, hstored, hdiffers⟩, hload⟩ := hload
    constructor
    · rintro ⟨snapshot, x', hloaded, -⟩
      cases hload.symm.trans hloaded
    · rintro ⟨snapshot, hrebuilt, hsame, -⟩
      obtain rfl := Except.ok.inj (hr.rebuilt.symm.trans hrebuilt)
      exact absurd (hsame stored hstored) hdiffers

/-- What can be answered is a matter of the rows of the case. -/
theorem Service.answerable_congr {l' : ConversationStore} (h : FactHistory l caseId f)
    (h' : FactHistory l' caseId f) : Answerable l s caseId f ↔ Answerable l' s caseId f := by
  rw [Answerable, FactOutstanding, CaseFactService.rebuildFolder_eq h, Answerable, FactOutstanding,
    CaseFactService.rebuildFolder_eq h']

/-- A case waits for its customer, and a run is to go on with it. -/
structure Service.Replying (l : ConversationStore) (caseId runId : RowId) (f : CaseFolder)
    (runState : RunState) : Prop where
  stored : l.folders caseId = some f
  state : f.row.caseState = .awaitingCustomerInput
  history : FactHistory l caseId f
  budget : f.row.WithinBudget
  run : ∃ row, RunOpen l runId (some caseId) runState row

namespace Service.Replying

theorem withinLimit {runState : RunState} (h : Replying l caseId runId f runState) :
    WithinLimit caseId l := by
  rintro f' hf' ⟨hclosed, -⟩
  obtain rfl := Option.some.inj (h.stored.symm.trans hf')
  rw [h.state] at hclosed
  cases hclosed

/-- An event changes nothing of it. -/
theorem logged {runState : RunState} (h : Replying l caseId runId f runState)
    (e : ServiceEvent) : Replying (l.logged [e]) caseId runId f runState :=
  { stored := h.stored
    state := h.state
    history := h.history.of_messages fun _ _ hm _ => hm
    budget := h.budget
    run := h.run.imp fun _ hopen => { hopen with } }

variable {I : SharedState → Prop} {f' : CaseFolder} {runState : RunState}

/-- Closing the case at the limit breaks the limit. -/
theorem closed (h : Replying l caseId runId f .running) :
    ∃ l', (∀ s, closeAtLimit caseId runId (l, s) = .ok ((), (l', s))) ∧ ¬ WithinLimit caseId l' := by
  obtain ⟨row, hopen⟩ := h.run
  let u : CaseUpdate := closing .humanSupportRequired "BUSINESS_CLARIFICATION_LIMIT_REACHED"
  have hchange : ∀ s, changeCase caseId u (l, s)
      = .ok ((), (l.putCase caseId (f.updated u), s)) := fun s =>
    changeCase_ok (x := (l, s)) h.stored (by simp [h.state])
      (by simp [u, CaseRow.Closing, CaseRow.updated, closing]) h.budget
  have hrun : RunOpen (l.putCase caseId (f.updated u)) runId (some caseId) .running row :=
    { hopen with }
  refine ⟨(l.putCase caseId (f.updated u)).setRun runId (row.ended .succeeded 0 0 none), fun s =>
    (Transaction.bind_ok (hchange s)).trans (succeedRun_ok (x := (_, s)) hrun), fun hlimit => ?_⟩
  exact hlimit (f.updated u) (Function.update_self ..) ⟨rfl, rfl⟩

/-- Without a question left a package is not asked for: the case is closed. -/
theorem askForPackage_closes (h : Replying l caseId runId f .running)
    (hcount : f.row.businessClarificationCount ≥ 2) :
    ∃ l', (∀ s, askForPackage caseId runId (l, s) = .ok (.escalate, (l', s))) ∧
      ¬ WithinLimit caseId l' := by
  obtain ⟨l', hclose, hbroken⟩ := h.closed
  refine ⟨l', fun s => ?_, hbroken⟩
  have hsplit : askForPackage caseId runId (l, s)
      = (closeAtLimit caseId runId >>= fun _ => pure CustomerDisposition.escalate) (l, s) := by
    rw [askForPackage, Transaction.bind_ok (requireCase_ok (x := (l, s)) h.stored), if_pos hcount,
      closeAtLimit, bind_assoc]
  exact hsplit.trans (Transaction.bind_ok (hclose s))

variable {customerMessage : String} {providers : Providers} {β : Type} {C : Prop}

/-- An event is no reading of a reply. -/
theorem told_iff {e : ServiceEvent} {next : Unit → Service β}
    (h : Replying l caseId runId f runState) (hsome : ∃ s, I s)
    (hrest : Prog.ComesTo I (· = .read caseId) (Interprets caseId) (WithinLimit caseId)
      (next ()) (l.logged [e]) ↔ C) :
    Prog.ComesTo I (· = .read caseId) (Interprets caseId) (WithinLimit caseId)
      (emit e >>= next : Service β) l ↔ C :=
  Prog.ComesTo.next_iff (by simp) hsome fun s _ =>
    ⟨(), _, s, rfl, (h.logged e).withinLimit, hrest⟩

/-- A reply about the package is read when a question is left. -/
theorem target_iff (h : Replying l caseId runId f .running) (hsome : ∃ s, I s)
    (htarget : ∀ s, I s → isTargetClarificationCase s f.row = true) :
    Prog.ComesTo I (· = .read caseId) (Interprets caseId) (WithinLimit caseId)
        (continueTargetClarification settings caseId runId customerMessage providers) l ↔
      f.row.businessClarificationCount < 2 := by
  refine Prog.ComesTo.next_iff (by simp) hsome fun s _ =>
    ⟨f, l, s, requireCase_ok (x := (l, s)) h.stored, h.withinLimit, ?_⟩
  by_cases hcount : f.row.businessClarificationCount ≥ 2
  · obtain ⟨s₀, hs₀⟩ := hsome
    obtain ⟨l', hcloses, hbroken⟩ := h.askForPackage_closes hcount
    rw [if_pos hcount]
    exact iff_of_false (Prog.ComesTo.not_of_broken (by simp) hs₀ (hcloses s₀) hbroken)
      (not_lt.mpr hcount)
  · rw [if_neg hcount]
    refine Prog.ComesTo.found_iff rfl rfl hsome fun s hs => ?_
    exact iff_of_true ⟨f, h.stored, Or.inl (htarget s hs)⟩ (not_le.mp hcount)

/-- A reply is read when a question is left and the reply can answer the last one. -/
theorem reads_iff (h : Replying l caseId runId f .running) (hnow : I s)
    (hshipments : ∀ s', I s' → s'.fixtures.shipments = s.fixtures.shipments) :
    Prog.ComesTo I (· = .read caseId) (Interprets caseId) (WithinLimit caseId)
        (continueBusinessClarification settings caseId runId messageId customerMessage providers) l ↔
      f.row.businessClarificationCount < 2 ∧ Answerable l s caseId f := by
  have hsame : ∀ s', I s' →
      isTargetClarificationCase s' f.row = isTargetClarificationCase s f.row := by
    intro s' hs'
    simp only [isTargetClarificationCase, hshipments s' hs']
  refine Prog.ComesTo.next_iff (by simp) ⟨s, hnow⟩ fun s' hs' =>
    ⟨(f.row, isTargetClarificationCase s' f.row), l, s',
      Transaction.bind_ok (requireCase_ok (x := (l, s')) h.stored), h.withinLimit, ?_⟩
  rw [hsame s' hs', Answerable]
  cases htarget : isTargetClarificationCase s f.row with
  | true =>
    rw [if_pos rfl, h.target_iff ⟨s, hnow⟩ fun s' hs' => (hsame s' hs').trans htarget]
    exact ⟨fun hcount => ⟨hcount, Or.inl rfl⟩, fun hboth => hboth.1⟩
  | false =>
    rw [if_neg (by simp)]
    by_cases hcount : f.row.businessClarificationCount ≥ 2
    · obtain ⟨l', hcloses, hbroken⟩ := h.closed
      rw [if_pos hcount]
      exact iff_of_false (Prog.ComesTo.not_of_broken (by simp) hnow (hcloses s) hbroken)
        fun hboth => not_lt.mpr hcount hboth.1
    · rw [if_neg hcount]
      refine Prog.ComesTo.found_iff rfl rfl ⟨s, hnow⟩ fun s' hs' => ?_
      have hfact := factOutstanding_iff (s := s') h.stored h.history
      constructor
      · rintro ⟨f', hf', htarget' | hfact'⟩
        · obtain rfl := Option.some.inj (h.stored.symm.trans hf')
          rw [hsame s' hs', htarget] at htarget'
          cases htarget'
        · exact ⟨not_le.mp hcount, Or.inr (hfact.mp hfact')⟩
      · rintro ⟨-, htarget' | hfact'⟩
        · cases htarget'
        · exact ⟨f, h.stored, Or.inr (hfact.mpr hfact')⟩

/-- The run of a reply starts. -/
theorem started {row : RunRow} (h : Replying l caseId runId f .queued)
    (hopen : RunOpen l runId (some caseId) .queued row) :
    Replying (l.setRun runId row.started) caseId runId f .running :=
  { stored := h.stored
    state := h.state
    history := h.history.of_messages fun _ _ hm _ => hm
    budget := h.budget
    run := ⟨row.started, Function.update_self .., hopen.caseId, rfl, Or.inr rfl, hopen.turns,
      hopen.reads⟩ }

end Service.Replying

/-- A reply to the open case is stored, and a run is queued for it. -/
theorem receiveMessage_reply {message : ValidatedCustomerMessage} {customerId : String}
    (hcustomer : l.customerId = some customerId) (hactive : l.activeCase = some (caseId, f))
    (hstate : f.row.caseState = .awaitingCustomerInput) :
    Service.receiveMessage k message (l, s) =
      .ok (⟨⟨k, l.nextSerial⟩, ⟨k, l.nextSerial + 1⟩, customerId, some caseId⟩,
        (l.received k (some caseId) message.traceContent s.now, s)) := by
  rw [Service.receiveMessage, Transaction.bind_ok rfl]
  simp only [hcustomer]
  rw [Transaction.bind_ok rfl, hactive, if_neg (by simpa using hstate)]
  rfl

/-- The case of a conversation at rest that waits for its customer, once the reply is stored. -/
theorem StoreInv.replying (h : StoreInv k l) (hf : l.folders caseId = some f)
    (hstate : f.row.caseState = .awaitingCustomerInput) (content : String) (now : Instant) :
    Service.Replying (l.received k (some caseId) content now) caseId ⟨k, l.nextSerial⟩ f
      .queued := by
  have hreceived := h.received (some caseId) content now
  obtain ⟨-, -, hfolder⟩ := hreceived.folders caseId f hf
  exact
    { stored := hf
      state := hstate
      history := hfolder.history
      budget := hfolder.budget
      run := ⟨_, Function.update_self .., rfl, rfl, Or.inl rfl, rfl, rfl⟩ }

/-- A reply to a stored case, whatever shared states its steps find. -/
theorem StoreInv.reply_reads_iff {I : SharedState → Prop} (hstore : StoreInv k l) {customerId : String}
    (hcustomer : l.customerId = some customerId) (hactive : l.activeCase = some (caseId, f))
    (hstate : f.row.caseState = .awaitingCustomerInput) {content : String}
    {validated : ValidatedCustomerMessage} (hvalid : validateCustomerMessage content = some validated)
    (providers : Providers) (hnow : I s)
    (hshipments : ∀ s', I s' → s'.fixtures.shipments = s.fixtures.shipments) :
    Prog.ComesTo I (· = .read caseId) (Service.Interprets caseId) (Service.WithinLimit caseId)
        (Service.submitMessage settings k content providers) l ↔
      f.row.businessClarificationCount < 2 ∧ Service.Answerable l s caseId f := by
  have hf := ConversationStore.activeCase_some hactive
  obtain ⟨-, -, hfolder⟩ := hstore.folders caseId f hf
  rw [Service.submitMessage, hvalid]
  refine Prog.ComesTo.next_iff (by simp) ⟨s, hnow⟩ fun s₁ _ =>
    ⟨_, _, s₁, receiveMessage_reply hcustomer hactive hstate, ?_⟩
  have hqueued := hstore.replying hf hstate validated.traceContent s₁.now
  refine ⟨hqueued.withinLimit, hqueued.told_iff ⟨s, hnow⟩ ?_⟩
  obtain ⟨row, hopen⟩ := hqueued.run
  have hstarted := (hqueued.logged ⟨"message_received", .both, some caseId,
    some ⟨k, l.nextSerial⟩, none, none, false⟩).started { hopen with }
  rw [Service.startRun, Op.bind_assoc]
  refine Prog.ComesTo.next_iff (by simp) ⟨s, hnow⟩ fun s₂ _ =>
    ⟨(), _, s₂, updateRun_ok (x := (_, s₂)) hopen.stored hopen.starts, hstarted.withinLimit,
      hstarted.told_iff ⟨s, hnow⟩ ?_⟩
  have hrunning := hstarted.logged ⟨"run_started", .developer, some caseId,
    some ⟨k, l.nextSerial⟩, none, none, false⟩
  rw [Service.answerable_congr hfolder.history hrunning.history]
  exact hrunning.reads_iff hnow hshipments

/-- The shared states that others may bring about from here. -/
def ServiceConfig.Later (settings : Settings) (assumes : String → Label → ServiceState → Prop)
    (g : ServiceConfig) (s : SharedState) : Prop :=
  ∃ g', Interleave.Reaches (Request.program settings) SharedState.Drifts assumes g g' ∧ g'.shared = s

end AfterSales

/-! ### An order of two packages -/

namespace AfterSales.Session
open Interleave

/-- An order that was shipped in two packages. -/
def twoPackages : SharedState :=
  { demoShared fun _ => [] with
    fixtures :=
      { (demoShared fun _ => []).fixtures with
        shipments := fun _ =>
          [⟨"SHP-1", 1, 2, "TRK-1", "in_transit"⟩, ⟨"SHP-2", 2, 2, "TRK-2", "in_transit"⟩] } }

section TwoPackages

attribute [local instance] PolicyDigest.bySource ProofDigest.byId ResultDigest.byName IdText.spelled
  FactDigest.byMessage CaseFolding.lower EvidenceDigest.byResults MessageRedaction.none
  TraceVolume.one

theorem twoPackages_fresh : twoPackages.Fresh := ⟨rfl, rfl, fun _ h => by cases h⟩

/-- The customer reports a missing package, and is asked which one it is. -/
def askedWhich : List Visit :=
  [⟨0, .submitMessage "订单少了一个包裹" (providersOf (some reportLate) everyRead)⟩]

/-- The answer says nothing of the package, and the customer is asked again. -/
def askedAgain : List Visit :=
  askedWhich ++ [⟨60000000, .submitMessage "我不清楚" (providersOf none everyRead)⟩]

/-- The conversation after some requests. -/
def twoPackagesAfter (visits : List Visit) : ServiceConfig :=
  session demoSettings "CONV-1" "CUS-1" twoPackages visits

theorem askedWhich_waits :
    ∃ waiting ∈ ((twoPackagesAfter askedWhich).stores "CONV-1").activeCase,
      waiting.2.row.caseState = .awaitingCustomerInput ∧
        waiting.2.row.businessClarificationCount = 1 := by
  rw [twoPackagesAfter, session_store]
  decide +kernel

theorem askedWhich_customer :
    ((twoPackagesAfter askedWhich).stores "CONV-1").customerId = some "CUS-1" := by
  rw [twoPackagesAfter, session_store]
  decide +kernel

theorem askedAgain_waits :
    ∃ waiting ∈ ((twoPackagesAfter askedAgain).stores "CONV-1").activeCase,
      waiting.2.row.caseState = .awaitingCustomerInput ∧
        waiting.2.row.businessClarificationCount = 2 ∧
        selectTargetShipment twoPackages.fixtures waiting.2.row.authorizedOrderId
          waiting.2.row.canonicalIssueType "第二个包裹" = some "SHP-2" := by
  rw [twoPackagesAfter, session_store]
  decide +kernel

theorem askedAgain_customer :
    ((twoPackagesAfter askedAgain).stores "CONV-1").customerId = some "CUS-1" := by
  rw [twoPackagesAfter, session_store]
  decide +kernel

end TwoPackages

end AfterSales.Session
