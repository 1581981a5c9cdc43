import AfterSales.Application.Consent

/-! One active ticket for a package.

    Three things keep two active tickets apart: a confirmation looks for an active ticket of its
    packages, and two unique indexes refuse a second one for the whole order, or for one package.
    They leave a gap. The indexes tell a ticket for the whole order and one for a package apart, and
    the look does not last:

        confirm_proposal   look ─▶ ··· ─▶ write           other conversations write meanwhile
        retry_case                        write           nobody looks

    So a ticket for a whole order and one for its package may both come to be active, and this is the
    only way in which two active tickets overlap. -/

set_option linter.unusedSectionVars false

namespace AfterSales
open Interleave Repository

variable [PolicyDigest] [ProofDigest] [ResultDigest] [IdText] [TraceVolume] [FactDigest]
  [CaseFolding] [EvidenceDigest] [MessageRedaction]

variable {settings : Settings} {k : String} {l : ConversationStore} {label : Label}
  {γ γ' : Phase} {x y : ServiceState} {s : SharedState} {c : RowId} {f f' : CaseFolder}
  {tickets : List TicketRow} {t : TicketRow} {g g' : ServiceConfig}

/-- Two tickets cover a common package: a ticket without a package covers the whole order. -/
structure TicketRow.Overlaps (t t' : TicketRow) : Prop where
  orderId : t.authorizedOrderId = t'.authorizedOrderId
  issueType : t.issueType = t'.issueType
  targets : t.targetShipmentId = t'.targetShipmentId ∨ t.targetShipmentId = none ∨
    t'.targetShipmentId = none

/-- No two active tickets overlap. -/
def Exclusive (tickets : List TicketRow) : Prop :=
  tickets.Pairwise fun t t' => t.active = true → t'.active = true → ¬ t.Overlaps t'

/-- A ticket crosses a case of the same order and issue when one of them is about a package, and the
    other one about the whole order. -/
def TicketRow.Crosses (t : TicketRow) (r : CaseRow) : Prop :=
  t.authorizedOrderId = r.authorizedOrderId ∧ t.issueType = r.canonicalIssueType ∧
    t.targetShipmentId.isNone ≠ r.targetShipmentId.isNone

instance (t : TicketRow) (r : CaseRow) : Decidable (t.Crosses r) :=
  inferInstanceAs (Decidable (_ ∧ _))

/-- A ticket is written for a case. -/
structure TicketRow.IsFor (t : TicketRow) (r : CaseRow) : Prop where
  active : t.active = true
  orderId : t.authorizedOrderId = r.authorizedOrderId
  issueType : t.issueType = r.canonicalIssueType
  targetShipmentId : t.targetShipmentId = r.targetShipmentId

/-- The lookup finds no ticket: then none crosses the case. -/
theorem not_crosses_of_none {r : CaseRow}
    (h : getActiveTicket tickets r.authorizedOrderId r.canonicalIssueType r.targetShipmentId = none)
    (ht : t ∈ tickets) (hactive : t.active = true) : ¬ t.Crosses r := by
  rintro ⟨horder, hissue, hkinds⟩
  rw [getActiveTicket, List.find?_eq_none] at h
  have hnone := h t ht
  rw [decide_eq_true_eq] at hnone
  refine hnone ⟨horder, hissue, hactive, ?_⟩
  cases hr : r.targetShipmentId with
  | none => exact .inl rfl
  | some target =>
    cases hticket : t.targetShipmentId with
    | none => exact .inr (.inr rfl)
    | some other =>
      rw [hr, hticket] at hkinds
      exact absurd rfl hkinds

/-- A row that the indexes accept, and that no active ticket crosses, overlaps no active ticket. -/
theorem Exclusive.append {r : CaseRow} (h : Exclusive tickets) (hfor : t.IsFor r)
    (haccepted : ticketRefused tickets t = false)
    (hcross : ∀ t' ∈ tickets, t'.active = true → ¬ t'.Crosses r) : Exclusive (tickets ++ [t]) := by
  rw [Exclusive, List.pairwise_append]
  refine ⟨h, List.pairwise_singleton .., ?_⟩
  intro t' ht' u hu hactive' _ hoverlaps
  rw [List.mem_singleton.mp hu] at hoverlaps
  by_cases htarget : t'.targetShipmentId = t.targetShipmentId
  · -- one of the two indexes covers both rows
    have hclash : TicketRow.clashes t' t = true := by
      simp [TicketRow.clashes, hactive', hfor.active, hoverlaps.orderId, hoverlaps.issueType, htarget]
    have hrefused : ticketRefused tickets t = true := by
      rw [ticketRefused, List.any_eq_true]
      exact ⟨t', ht', by simp [hclash]⟩
    rw [haccepted] at hrefused
    cases hrefused
  · refine hcross t' ht' hactive' ⟨hoverlaps.orderId.trans hfor.orderId,
      hoverlaps.issueType.trans hfor.issueType, ?_⟩
    rw [← hfor.targetShipmentId]
    intro hkinds
    rcases hoverlaps.targets with hsame | hnone | hnone
    · exact htarget hsame
    · rw [hnone, Option.isNone_none, eq_comm, Option.isNone_iff_eq_none] at hkinds
      exact htarget (hnone.trans hkinds.symm)
    · rw [hnone, Option.isNone_none, Option.isNone_iff_eq_none] at hkinds
      exact htarget (hkinds.trans hnone.symm)

/-! ### Actions that are still to be written -/

/-- The case of a conversation whose action is to be executed, and is in the given state. -/
def ConversationStore.executing (l : ConversationStore) (q : ActionState) : Option CaseRow := do
  let (_, f) ← l.activeCase
  if f.row.caseState = .executingAction ∧ f.actions.any (·.actionState = q) then some f.row else none

theorem executing_eq_some {q : ActionState} {r : CaseRow} (h : l.executing q = some r) :
    ∃ c f act, l.folders c = some f ∧ f.row = r ∧ r.caseState = .executingAction ∧
      act ∈ f.actions ∧ act.actionState = q := by
  simp only [ConversationStore.executing, ConversationStore.activeCase, Option.bind_eq_bind,
    Option.bind_eq_some_iff] at h
  obtain ⟨⟨c', f'⟩, ⟨c, -, f, hf, hopen⟩, h⟩ := h
  split_ifs at hopen h with hclosed hstate
  obtain ⟨rfl, rfl⟩ := Prod.mk.inj (Option.some.inj hopen)
  obtain rfl := Option.some.inj h
  obtain ⟨hexecuting, hany⟩ := hstate
  obtain ⟨act, hact, hq⟩ := List.any_eq_true.mp hany
  exact ⟨c, f, act, hf, rfl, hexecuting, hact, of_decide_eq_true hq⟩

theorem executing_of_folder {q : ActionState} {act : ActionRow} (hinv : StoreInv k l)
    (hf : l.folders c = some f) (hstate : f.row.caseState = .executingAction)
    (hact : act ∈ f.actions) (hq : act.actionState = q) : l.executing q = some f.row := by
  have hopen : f.row.caseState ≠ .closed := by simp [hstate]
  have hactive := (hinv.active c).mpr ⟨f, hf, hopen⟩
  simp only [ConversationStore.executing, ConversationStore.activeCase, hactive, hf, hstate,
    Option.bind_eq_bind, Option.bind_some]
  simp only [reduceCtorEq, if_false, Option.bind_some, List.any_eq_true, decide_eq_true_eq]
  exact if_pos ⟨hstate, act, hact, hq⟩

/-- A retry that is written crosses no active ticket. -/
def RetriesClear (settings : Settings) (_ : String) (label : Label) (x : ServiceState) : Prop :=
  ∀ actionId, label = .submit actionId →
    (x.2.fixtures.consumeActionFault settings.faultSeed).2 = none →
    ∀ r ∈ x.1.executing .failedRetryable, ∀ t ∈ x.2.tickets, t.active = true → ¬ t.Crosses r

/-- A ticket that a step writes crosses no action that is confirmed and still to be submitted. -/
def KeepsClear (g g' : ServiceConfig) : Prop :=
  ∀ t ∈ g'.shared.tickets, t ∉ g.shared.tickets → t.active = true →
    ∀ k, ∀ r ∈ (g'.stores k).executing .ready, ¬ t.Crosses r

/-! ### One step -/

/-- Two rows of a case that are about the same order, issue and package. -/
structure CaseRow.SameScope (r r' : CaseRow) : Prop where
  orderId : r'.authorizedOrderId = r.authorizedOrderId
  issueType : r'.canonicalIssueType = r.canonicalIssueType
  targetShipmentId : r'.targetShipmentId = r.targetShipmentId

theorem CaseRow.SameScope.crosses_iff {r r' : CaseRow} (h : r.SameScope r') :
    t.Crosses r' ↔ t.Crosses r := by
  rw [TicketRow.Crosses, TicketRow.Crosses, h.orderId, h.issueType, h.targetShipmentId]

/-- An action that is ready was ready before the step, or the step has confirmed it. -/
theorem FolderMove.ready {o : Option CaseFolder} (ho : l.folders c = o)
    (h : FolderMove settings k l s c label γ γ' o (some f')) (hγ : γ.Inv l) {act : ActionRow}
    (hstate : f'.row.caseState = .executingAction) (hact : act ∈ f'.actions)
    (hready : act.actionState = .ready) :
    (∃ f, o = some f ∧ f.row = f'.row ∧ act ∈ f.actions) ∨
      ∃ f earlier p version runId, o = some f ∧ label = .review p.proposalId version ∧
        γ = .reviewing runId p.proposalId .running ∧ f.proposals = earlier ++ [p] ∧
        p.proposalId.caseId = c ∧ validatePendingProposal p f.row version s.now = none ∧
        p.moved .confirmed ∈ f'.proposals ∧ f.row.SameScope f'.row := by
  cases h with
  | same => exact .inl ⟨f', rfl, rfl, hact⟩
  | opened => cases hact
  | facts facts step => exact .inl ⟨_, rfl, step.row.symm, step.actions ▸ hact⟩
  | explored => exact .inl ⟨_, rfl, rfl, hact⟩
  | retry state actions => exact absurd (actions ▸ hact) List.not_mem_nil
  | @retryAction f act' state actions failed =>
    have hone : act ∈ f.actions := hact
    rw [actions, List.mem_singleton] at hone
    rw [hone, failed] at hready
    cases hready
  | @change label γ γ' runId f f' row row' drawn s' run move =>
    cases move with
    | confirm last pending owner valid =>
      exact .inr ⟨f, _, _, _, _, rfl, rfl, rfl, last, owner, valid,
        List.mem_append_right _ (List.mem_singleton_self _), rfl, rfl, rfl⟩
    | revise issueType intent revision =>
      obtain ⟨-, ⟨f₀, hf₀, hpass, -⟩, -⟩ := hγ
      obtain rfl := Option.some.inj (ho.symm.trans hf₀)
      rw [show f.row.caseState = .executingAction from hstate] at hpass
      exact absurd hpass (by decide)
    | submit | submitFaulted =>
      rw [List.mem_singleton.mp hact] at hready
      cases hready
    | @fault a act' fault t open_ owner submitted =>
      rw [List.mem_singleton.mp hact] at hready
      have hfailed := fault.failure
      rw [show fault.actionState = .ready from hready] at hfailed
      exact absurd hfailed (by decide)
    | verify =>
      rw [List.mem_singleton.mp hact] at hready
      cases hready
    | _ => cases hstate

/-- What is ready after a step is crossed by no active ticket it has found: it was ready before, or
    the review of the step has looked for such a ticket. -/
theorem ready_clear (hinv : (reviewer settings k).inv γ x.1 x.2)
    (hclear : ∀ r ∈ x.1.executing .ready, ∀ t ∈ x.2.tickets, t.active = true → ¬ t.Crosses r)
    (hmove : (reviewer settings k).move label γ x γ' y) :
    ∀ r ∈ y.1.executing .ready, ∀ t ∈ x.2.tickets, t.active = true → ¬ t.Crosses r := by
  obtain ⟨hmove, update, ⟨request, hreviews⟩, hupdate⟩ := hmove
  intro r hr t ht hactive
  obtain ⟨c, f', act, hf', rfl, hstate, hact, hready⟩ := executing_eq_some hr
  have hfolder := Move.folderMove hmove hinv.1 c
  rw [hf'] at hfolder
  rcases hfolder.ready rfl hinv.2.1 hstate hact hready with ⟨f, hf, hrow, hact⟩ | h
  · rw [← hrow] at hstate ⊢
    exact hclear _ (executing_of_folder hinv.1 hf hstate hact hready) t ht hactive
  · obtain ⟨f, earlier, p, version, runId, hf, rfl, rfl, hlast, rfl, hvalid, hp, hscope⟩ := h
    obtain ⟨-, rfl⟩ := hreviews p.proposalId version rfl
    rw [hupdate] at hf'
    have haccepts := reviewConfirmation_accepts hinv hf hlast hvalid hf' hp rfl
    rw [hscope.crosses_iff]
    exact not_crosses_of_none haccepts.alone ht hactive

/-- A step keeps the active tickets apart: a ready action is clear, and so is a retry. -/
theorem Move.exclusive (hmove : Move settings k label γ x γ' y) (hstore : StoreInv k x.1)
    (hγ : γ.Inv x.1) (hex : Exclusive x.2.tickets)
    (hclear : ∀ r ∈ x.1.executing .ready, ∀ t ∈ x.2.tickets, t.active = true → ¬ t.Crosses r)
    (hretries : RetriesClear settings k label x) : Exclusive y.2.tickets := by
  rcases hmove.tickets with hsame | ⟨runId, a, rfl, rfl, hwritten⟩
  · rw [hsame]
    exact hex
  · obtain ⟨-, f, act, hf, hopen, hdue⟩ := hγ
    have hact : act ∈ f.actions := by simp [hopen.actions]
    rw [hwritten.written]
    refine hex.append (r := f.row) ⟨rfl, hopen.authorizedOrderId, hopen.issueType,
      hopen.targetShipmentId⟩ hwritten.accepted ?_
    rcases hdue with hready | hfailed
    · exact hclear _ (executing_of_folder hstore hf hopen.state hact hready)
    · exact hretries _ rfl hwritten.clear _ (executing_of_folder hstore hf hopen.state hact hfailed)

/-! ### Every run -/

/-- No two active tickets overlap, and none crosses an action that is ready. -/
structure ServiceConfig.KeptApart (g : ServiceConfig) : Prop where
  exclusive : Exclusive g.shared.tickets
  clear : ∀ k, ∀ r ∈ (g.stores k).executing .ready, ∀ t ∈ g.shared.tickets, t.active = true →
    ¬ t.Crosses r

theorem ServiceConfig.KeptApart.step (h : g.KeptApart)
    (hsim : Simulated (reviewer settings) (fun k => (reviewer settings k).inv) g)
    (hstep : Step (Request.program settings) SharedState.Drifts (RetriesClear settings) g g')
    (hkeeps : KeepsClear g g') : g'.KeptApart := by
  cases hstep with
  | start | finish => exact ⟨h.exclusive, h.clear⟩
  | @run j call label update next busy due allowed =>
    obtain ⟨γ, γ', hinv, -, hmove⟩ := hsim.due busy due
    refine ⟨hmove.1.exclusive hinv.1 hinv.2.1 h.exclusive (h.clear j) allowed, ?_⟩
    intro k r hr t ht hactive
    by_cases hold : t ∈ g.shared.tickets
    · by_cases e : k = j
      · subst e
        simp only [Function.update_self] at hr
        exact ready_clear hinv (h.clear k) hmove r hr t hold hactive
      · simp only [Function.update_of_ne e] at hr
        exact h.clear k r hr t hold hactive
    · exact hkeeps t ht hold hactive k r hr
  | environment hdrift =>
    refine ⟨hdrift.tickets ▸ h.exclusive, fun k r hr t ht => ?_⟩
    exact h.clear k r hr t (hdrift.tickets ▸ ht)

/-- The states that runs of a fresh service reach in which retries are clear, and no ticket is
    written that crosses an action between its check and its submission. -/
def ReachesClear (settings : Settings) (g : ServiceConfig) : Prop :=
  ∃ g₀ : ServiceConfig, ServiceConfig.Fresh g₀ ∧
    ReachesUnder (Request.program settings) SharedState.Drifts (RetriesClear settings) KeepsClear
      g₀ g

/-- Active-ticket exclusivity. Unless a ticket for a whole order and one for a package of it are
    written past the checks of each other, by a retry or between a check and its write, no two
    active tickets ever overlap. -/
theorem tickets_exclusive (hreach : ReachesClear settings g) : Exclusive g.shared.tickets := by
  obtain ⟨g₀, h₀, hreach⟩ := hreach
  have hsim : Simulated (reviewer settings) (fun k => (reviewer settings k).inv) g₀ := by
    intro k
    have hidle : (machine settings k).inv .idle (g₀.stores k) g₀.shared := h₀.inv k
    refine ⟨.idle, hidle, hidle, ?_⟩
    simp only [InPhase, h₀.calls k]
    rfl
  have hkept : g₀.KeptApart := by
    refine ⟨?_, fun k r _ t ht => ?_⟩
    · rw [h₀.tickets]
      exact List.Pairwise.nil
    · rw [h₀.tickets] at ht
      cases ht
  exact (hreach.keeps (fun k r l _ _ => Request.reviewed settings k r l)
    (reviewer_preserved settings _) (fun hsim h hstep hkeeps => h.step hsim hstep hkeeps)
    hsim hkept).2.exclusive

/-! ### Requests served in turn -/

/-- A step that adds a ticket has submitted its action. -/
theorem Move.adds (h : Move settings k label γ x γ' y) (hadds : y.2.tickets ≠ x.2.tickets) :
    ∃ runId a submittedAt, γ' = .submitted runId a none submittedAt := by
  cases h with
  | change folder run move =>
    cases move with
    | submit => exact ⟨_, _, _, rfl⟩
    | _ => exact absurd rfl hadds
  | _ => exact absurd rfl hadds

/-- Once its action is submitted a conversation has none that is ready. -/
theorem executing_none_of_submitted {runId : RowId} {a : Service.TicketAction}
    {fault : Option ActionFixtureFault} {submittedAt : Instant} (hstore : StoreInv k l)
    (hγ : (Phase.submitted runId a fault submittedAt).Inv l) : l.executing .ready = none := by
  obtain ⟨-, f, act, hf, hopen, hsubmitted⟩ := hγ
  rw [Option.eq_none_iff_forall_ne_some]
  intro r hr
  obtain ⟨c, f', act', hf', rfl, hstate', hact', hready⟩ := executing_eq_some hr
  have hactive := (hstore.active _).mpr ⟨f, hf, by simp [hopen.state]⟩
  have hactive' := (hstore.active _).mpr ⟨f', hf', by simp [hstate']⟩
  obtain rfl := Option.some.inj (hactive.symm.trans hactive')
  obtain rfl := Option.some.inj (hf.symm.trans hf')
  rw [hopen.actions, List.mem_singleton] at hact'
  rw [hact', hsubmitted] at hready
  cases hready

/-- A request that is served while nothing is ready in the other conversations crosses no action
    that is ready. -/
theorem ReachesClear.serve (h : ReachesClear settings g) (hcalls : g.calls = fun _ => none)
    {turn : String × Visit} (hothers : ∀ j ≠ turn.1, (g.stores j).executing .ready = none)
    (hretries : ∀ step ∈ Visit.steps settings turn.1 [turn.2] (g.stores turn.1, g.shared),
      RetriesClear settings turn.1 step.1 step.2) : ReachesClear settings (g.serve settings turn) := by
  obtain ⟨g₀, h₀, hreach⟩ := h
  refine ⟨g₀, h₀, hreach.trans ?_⟩
  obtain ⟨stores, shared, calls⟩ := g
  subst hcalls
  have hserve : Interleave.Reaches (Request.program settings) SharedState.Drifts
      (fun j label x => j = turn.1 ∧ RetriesClear settings j label x) ⟨stores, shared, fun _ => none⟩
      (ServiceConfig.serve settings ⟨stores, shared, fun _ => none⟩ turn) :=
    Visit.reaches [turn.2] rfl fun step hstep => ⟨rfl, hretries step hstep⟩
  refine hserve.under (fun _ _ _ hallowed => hallowed.2) ?_
  intro a b ha hstep t ht hnew hactive j r hr
  by_cases hj : j = turn.1
  · subst hj
    have ha' : ServiceReaches settings (RetriesClear settings) a :=
      ⟨g₀, h₀, hreach.reaches.trans (ha.mono fun _ _ _ hallowed => hallowed.2)⟩
    have hsim := ha'.simulated (machine_preserved settings _) fun _ h₀ k => h₀.inv k
    cases hstep with
    | start | finish => exact absurd ht hnew
    | environment hdrift => exact absurd (hdrift.tickets ▸ ht) hnew
    | @run i call label update next busy due allowed =>
      obtain ⟨rfl, hclear⟩ := allowed
      obtain ⟨γ, γ', hinv, -, hmove⟩ := hsim.due busy due
      obtain ⟨runId, action, submittedAt, rfl⟩ := Move.adds hmove fun hsame => hnew (hsame ▸ ht)
      have hinv' := (machine_preserved settings (RetriesClear settings)).own hinv hinv hclear hmove
      simp only [Function.update_self] at hr
      rw [executing_none_of_submitted hinv'.1 hinv'.2.1] at hr
      cases hr
  · have hstays : b.stores j = stores j := Interleave.Reaches.others_stay (ha.tail hstep) hj
    rw [hstays, hothers j hj] at hr
    cases hr

end AfterSales

/-! ### A ticket for an order, and one for its package -/

namespace AfterSales.Session

section Overlap

attribute [local instance] PolicyDigest.bySource ProofDigest.byId ResultDigest.byName
  IdText.spelled FactDigest.byMessage CaseFolding.lower EvidenceDigest.byResults
  MessageRedaction.none TraceVolume.one

/-- Two packages that were last scanned sixty hours ago; the first write of the service fails, and
    may be repeated. -/
def scannedPackages : SharedState :=
  { demoShared failOnce with
    fixtures :=
      { (demoShared failOnce).fixtures with
        timelines := fun _ =>
          [⟨"EV-1", some "SHP-1", "in_transit", 0⟩, ⟨"EV-2", some "SHP-2", "in_transit", 0⟩]
        shipments := fun _ =>
          [⟨"SHP-1", 1, 2, "TRK-1", "in_transit"⟩, ⟨"SHP-2", 2, 2, "TRK-2", "in_transit"⟩] } }

theorem scannedPackages_fresh : scannedPackages.Fresh := ⟨rfl, rfl, fun _ h => by cases h⟩

/-- A step that submits no retry across an active ticket. -/
def retriesClear (step : Label × ServiceState) : Bool :=
  match step.1 with
  | .submit _ => decide (∀ r ∈ step.2.1.executing .failedRetryable, ∀ t ∈ step.2.2.tickets,
      t.active = true → ¬ t.Crosses r)
  | _ => true

theorem retriesClear_of {k : String} {label : Label} {x : ServiceState}
    (h : retriesClear (label, x) = true) : RetriesClear demoSettings k label x := by
  rintro actionId rfl -
  exact of_decide_eq_true h

/-- Requests to two conversations, none of which has a ready action while the other one is served,
    and none of which retries across an active ticket. -/
def clearTurns : List (String × Visit) → ServiceConfig → Bool
  | [], _ => true
  | turn :: turns, g =>
    (turn.1 = "CONV-1" && ((g.stores "CONV-2").executing .ready).isNone ||
        turn.1 = "CONV-2" && ((g.stores "CONV-1").executing .ready).isNone) &&
      (Visit.steps demoSettings turn.1 [turn.2] (g.stores turn.1, g.shared)).all retriesClear &&
      clearTurns turns (g.serve demoSettings turn)

theorem clearTurns_reach {turns : List (String × Visit)} {g : ServiceConfig}
    (h : ReachesClear demoSettings g) (hcalls : g.calls = fun _ => none)
    (hrest : ∀ j, j ≠ "CONV-1" → j ≠ "CONV-2" → g.stores j = .created (some "CUS-1"))
    (hclear : clearTurns turns g = true) :
    ReachesClear demoSettings (turns.foldl (ServiceConfig.serve demoSettings) g) := by
  induction turns generalizing g with
  | nil => exact h
  | cons turn turns ih =>
    simp only [clearTurns, Bool.and_eq_true, Bool.or_eq_true, decide_eq_true_eq,
      Option.isNone_iff_eq_none, List.all_eq_true] at hclear
    obtain ⟨⟨hquiet, hsteps⟩, hlater⟩ := hclear
    have hkey : turn.1 = "CONV-1" ∨ turn.1 = "CONV-2" := hquiet.imp And.left And.left
    refine ih (h.serve hcalls ?_ fun step hstep => retriesClear_of (hsteps step hstep)) rfl ?_ hlater
    · intro j hj
      by_cases h₁ : j = "CONV-1"
      · subst h₁
        rcases hquiet with ⟨hsame, -⟩ | ⟨-, hnone⟩
        · exact absurd hsame.symm hj
        · exact hnone
      by_cases h₂ : j = "CONV-2"
      · subst h₂
        rcases hquiet with ⟨-, hnone⟩ | ⟨hsame, -⟩
        · exact hnone
        · exact absurd hsame.symm hj
      rw [hrest j h₁ h₂]
      rfl
    · intro j h₁ h₂
      have hne : j ≠ turn.1 := by
        rintro rfl
        exact hkey.elim h₁ h₂
      exact (Function.update_of_ne hne ..).trans (hrest j h₁ h₂)

/-- The first package is reported as late, or the second one. -/
def packageLate (message : String) : Visit :=
  ⟨0, .submitMessage message (providersOf (some reportLate) everyRead)⟩

/-- The write for the first package fails, another conversation writes one for the second package,
    and the first one tries again. -/
def packagesApart : List (String × Visit) :=
  [("CONV-1", packageLate "第一个包裹 is late"), ("CONV-1", confirmFirst "CONV-1"),
    ("CONV-2", packageLate "第二个包裹 is late"), ("CONV-2", confirmFirst "CONV-2"),
    ("CONV-1", retryFirst "CONV-1")]

/-- Both packages have an active ticket, one of them written by a retry. -/
theorem packagesApart_exclusive :
    let g := sessions demoSettings "CUS-1" scannedPackages packagesApart
    g.shared.tickets.map (fun t => (t.targetShipmentId, t.active)) =
        [(some "SHP-2", true), (some "SHP-1", true)] ∧
      Exclusive g.shared.tickets := by
  have hstart : ReachesClear demoSettings
      ⟨fun _ => .created (some "CUS-1"), scannedPackages, fun _ => none⟩ :=
    ⟨_, ⟨fun _ => ⟨_, rfl⟩, fun _ => rfl, scannedPackages_fresh.tickets,
      scannedPackages_fresh.dynamicTickets, scannedPackages_fresh.ticketIds⟩, .refl⟩
  have hclear : clearTurns packagesApart
      ⟨fun _ => .created (some "CUS-1"), scannedPackages, fun _ => none⟩ = true := by
    decide +kernel
  exact ⟨by decide +kernel,
    tickets_exclusive (clearTurns_reach hstart rfl (fun _ _ _ => rfl) hclear)⟩

/-- The write for an order fails, another conversation writes one for a package of it, and the
    first one tries again. -/
def overlapping : List (String × Visit) :=
  [("CONV-1", lateReport), ("CONV-1", confirmFirst "CONV-1"), ("CONV-2", packageLate "第二个包裹 is late"),
    ("CONV-2", confirmFirst "CONV-2"), ("CONV-1", retryFirst "CONV-1")]

/-- The order and its package both have an active ticket. -/
theorem overlapping_tickets :
    let g := sessions demoSettings "CUS-1" scannedPackages overlapping
    ServiceReaches demoSettings (fun _ _ _ => True) g ∧
      g.shared.tickets.map (fun t => (t.targetShipmentId, t.active)) =
        [(some "SHP-2", true), (none, true)] ∧
      ¬ Exclusive g.shared.tickets := by
  have htickets : (sessions demoSettings "CUS-1" scannedPackages overlapping).shared.tickets.map
      (fun t => (t.targetShipmentId, t.active)) = [(some "SHP-2", true), (none, true)] := by
    decide +kernel
  have hsame : ((sessions demoSettings "CUS-1" scannedPackages overlapping).shared.tickets.all
      fun t => t.authorizedOrderId = "ORD-1" ∧ t.issueType = .stalledTracking) = true := by
    decide +kernel
  refine ⟨sessions_reaches scannedPackages_fresh _, htickets, fun hex => ?_⟩
  revert htickets hsame hex
  generalize (sessions demoSettings "CUS-1" scannedPackages overlapping).shared.tickets = tickets
  intro htickets hsame hex
  obtain ⟨t, _, rfl, ht, hrest⟩ := List.map_eq_cons_iff.mp htickets
  obtain ⟨t', _, rfl, ht', -⟩ := List.map_eq_cons_iff.mp hrest
  simp only [Prod.mk.injEq] at ht ht'
  simp only [List.all_cons, Bool.and_eq_true, decide_eq_true_eq] at hsame
  obtain ⟨⟨horder, hissue⟩, ⟨horder', hissue'⟩, -⟩ := hsame
  have hpair := List.rel_of_pairwise_cons hex List.mem_cons_self
  exact hpair ht.2 ht'.2 ⟨horder.trans horder'.symm, hissue.trans hissue'.symm, .inr (.inr ht'.1)⟩

end Overlap

end AfterSales.Session
