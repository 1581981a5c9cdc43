import AfterSales.Application.ExactlyOnce
import AfterSales.Application.ReviewSteps
import AfterSales.Application.TurnBound

/-! No ticket without the consent of the customer.

    A ticket is the write of an action, and an action is made by the review of a confirmation, in
    the one step that finds the proposal in order. So every ticket goes back to a call that asked
    for its proposal to be confirmed, and to the rows as the review found them. -/

set_option linter.unusedSectionVars false

namespace AfterSales
open Interleave Repository

variable [PolicyDigest] [ProofDigest] [ResultDigest] [IdText] [TraceVolume] [FactDigest]
  [CaseFolding] [EvidenceDigest] [MessageRedaction]

variable {settings : Settings} {k : String} {l l₀ l' : ConversationStore} {s : SharedState}
  {label : Label} {γ γ' : Phase} {x y : ServiceState} {c runId : RowId} {f f' : CaseFolder}
  {p : ProposalRow} {version : Nat} {steps : List (Label × ServiceState)}
  {assumes : String → Label → ServiceState → Prop}

/-- What a confirmation finds when it is accepted: the pending proposal of the case in the version
    that was asked for and in time, an order of the customer, no ticket that would be a duplicate,
    evidence that proposes the same again, and nothing written for the case. -/
structure Accepts (settings : Settings) (x : ServiceState) (version : Nat) (f : CaseFolder)
    (p : ProposalRow) : Prop where
  folder : x.1.folders p.proposalId.caseId = some f
  stored : p ∈ f.proposals
  pending : p.proposalState = .pendingConfirmation
  version : p.version = version
  inTime : x.2.now < p.expiresAt
  named : f.row.activeProposalId = some p.proposalId
  authorized : (authorizeOrder f.row.customerId f.row.authorizedOrderId x.2.fixtures).isSome
  alone : getActiveTicket x.2.tickets f.row.authorizedOrderId f.row.canonicalIssueType
    f.row.targetShipmentId = none
  unchanged : ∃ identity, Service.currentIdentity p.proposalId.caseId x = .ok (identity, x) ∧
    evidenceUnchanged p (revalidateGate settings x.2 f p) identity = true
  unwritten : ∀ t ∈ x.2.tickets, t.caseId ≠ p.proposalId.caseId

/-! ### The step that confirms -/

/-- A proposal that may be acted on is in order. -/
theorem validatePendingProposal_none {r : CaseRow} {now : Instant}
    (h : validatePendingProposal p r version now = none) :
    p.version = version ∧ p.proposalState = .pendingConfirmation ∧ now < p.expiresAt ∧
      r.activeProposalId = some p.proposalId := by
  unfold validatePendingProposal at h
  split_ifs at h with hversion hstate hexpired hactive
  rw [not_or, not_not, not_not] at hactive
  exact ⟨not_not.mp hversion, not_not.mp hstate, lt_of_not_ge hexpired, hactive.2⟩

/-- A proposal becomes confirmed by the move that confirms it, and by no other. -/
theorem FolderMove.confirmed {o : Option CaseFolder}
    (h : FolderMove settings k l s c label γ γ' o (some f')) (hp : p ∈ f'.proposals)
    (hconfirmed : p.proposalState = .confirmed) :
    (∃ f, o = some f ∧ p ∈ f.proposals) ∨
      ∃ f earlier p₀ version runId a, o = some f ∧ label = .review p₀.proposalId version ∧
        γ = .reviewing runId p₀.proposalId .running ∧ γ' = .executing runId a .running ∧
        f.proposals = earlier ++ [p₀] ∧ p₀.proposalId.caseId = c ∧
        validatePendingProposal p₀ f.row version s.now = none ∧ p = p₀.moved .confirmed := by
  have hmoved : ∀ {f : CaseFolder} {earlier : List ProposalRow} {p₀ : ProposalRow}
      {q : ProposalState}, f.proposals = earlier ++ [p₀] → p ∈ earlier ++ [p₀.moved q] →
      p ∈ f.proposals ∨ p = p₀.moved q := by
    intro f earlier p₀ q hlast hmem
    rcases List.mem_append.mp hmem with hmem | hmem
    · exact .inl (hlast ▸ List.mem_append_left _ hmem)
    · exact .inr (List.mem_singleton.mp hmem)
  cases h with
  | same => exact .inl ⟨f', rfl, hp⟩
  | opened => cases hp
  | facts facts step => exact .inl ⟨_, rfl, step.proposals ▸ hp⟩
  | explored | retry | retryAction => exact .inl ⟨_, rfl, hp⟩
  | change run move =>
    cases move with
    | propose binding snapshot decision bound stored =>
      rcases List.mem_append.mp hp with hp | hp
      · exact .inl ⟨_, rfl, hp⟩
      · rw [List.mem_singleton.mp hp] at hconfirmed
        cases hconfirmed
    | drop last pending owner why =>
      rcases hmoved last hp with hp | rfl
      · exact .inl ⟨_, rfl, hp⟩
      · cases why <;> cases hconfirmed
    | decline last pending owner valid =>
      rcases hmoved last hp with hp | rfl
      · exact .inl ⟨_, rfl, hp⟩
      · cases hconfirmed
    | confirm last pending owner valid =>
      rcases hmoved last hp with hp | rfl
      · exact .inl ⟨_, rfl, hp⟩
      · exact .inr ⟨_, _, _, _, _, _, rfl, rfl, rfl, rfl, last, owner, valid, rfl⟩
    | _ => exact .inl ⟨_, rfl, hp⟩

/-- Nothing is confirmed in a case that has a pending proposal. -/
theorem FolderInv.none_confirmed {earlier : List ProposalRow} (h : FolderInv l c f)
    (hlast : f.proposals = earlier ++ [p]) (hpending : p.proposalState = .pendingConfirmation) :
    ∀ q ∈ f.proposals, q.proposalState ≠ .confirmed := by
  have hp : p ∈ f.proposals := hlast ▸ List.mem_append_right _ (List.mem_singleton_self p)
  cases h.stage with
  | plain state pointer dropped => exact fun q hq => (dropped q hq).2
  | offered earlier' p' state pointer proposals dropped pending =>
    intro q hq
    rw [proposals, List.mem_append, List.mem_singleton] at hq
    rcases hq with hq | rfl
    · exact (dropped q hq).2
    · simp [pending]
  | acting earlier' p' a states pointer proposals dropped confirmed =>
    rw [hlast] at proposals
    obtain rfl : p = p' := List.singleton_inj.mp (List.append_inj_right' proposals rfl)
    rw [hpending] at confirmed
    cases confirmed

/-- A review after which a proposal is confirmed has found everything in order. -/
theorem reviewConfirmation_accepts {earlier : List ProposalRow} {q : ProposalRow}
    (hinv : (machine settings k).inv (.reviewing runId p.proposalId .running) l s)
    (hf : l.folders p.proposalId.caseId = some f) (hlast : f.proposals = earlier ++ [p])
    (hvalid : validatePendingProposal p f.row version s.now = none)
    (hf' : (Transaction.commit (Service.reviewConfirmation settings p.proposalId version)
      (l, s)).2.1.folders p.proposalId.caseId = some f')
    (hq : q ∈ f'.proposals) (hconfirmed : q.proposalState = .confirmed) :
    Accepts settings (l, s) version f p := by
  obtain ⟨hstore, hγ, -, htickets⟩ := id hinv
  obtain ⟨hkey, -, hfolder⟩ := hstore.folders _ f hf
  obtain ⟨hversion, hpending, hintime, hnamed⟩ := validatePendingProposal_none hvalid
  have hp : p ∈ f.proposals := hlast ▸ List.mem_append_right _ (List.mem_singleton_self p)
  have hfind := Keyed.find_of_mem ProposalRow.proposalId hfolder.proposalIds hp
  have hnone := hfolder.none_confirmed hlast hpending
  have hheld : ∀ {verdict : Service.Verdict},
      Service.reviewConfirmation settings p.proposalId version (l, s) ≠ .ok (verdict, (l, s)) := by
    intro verdict hreview
    rw [Transaction.commit_ok hreview] at hf'
    obtain rfl := Option.some.inj (hf.symm.trans hf')
    exact hnone q hq hconfirmed
  obtain ⟨identity, hidentity⟩ := currentIdentity_ok (s := s) hfolder hf
  have hreview : Service.reviewConfirmation settings p.proposalId version (l, s) =
      if (authorizeOrder f.row.customerId f.row.authorizedOrderId s.fixtures).isNone then
        .ok (.rejected "PROPOSAL_REVALIDATION_FAILED", (l, s))
      else Service.reviewEvidence settings p.proposalId p f (l, s) := by
    rw [Service.reviewConfirmation, Transaction.bind_ok (requireProposal_ok hf hfind)]
    simp only
    rw [Transaction.bind_ok rfl]
    simp only [hvalid]
    split <;> rfl
  by_cases horder : (authorizeOrder f.row.customerId f.row.authorizedOrderId s.fixtures).isNone
  · rw [if_pos horder] at hreview
    exact absurd hreview hheld
  rw [if_neg horder, Service.reviewEvidence, Transaction.bind_ok rfl] at hreview
  by_cases hduplicate : (getActiveTicket s.tickets f.row.authorizedOrderId
      f.row.canonicalIssueType f.row.targetShipmentId).isSome
  · simp only [if_pos hduplicate] at hreview
    exact absurd hreview hheld
  simp only [if_neg hduplicate] at hreview
  rw [Transaction.bind_ok hidentity] at hreview
  by_cases hunchanged : evidenceUnchanged p (revalidateGate settings s f p) identity = true
  · exact
      { folder := hf
        stored := hp
        pending := hpending
        version := hversion
        inTime := hintime
        named := hnamed
        authorized := by
          rw [Option.isNone_iff_eq_none] at horder
          exact Option.isSome_iff_ne_none.mpr horder
        alone := by
          rw [Bool.not_eq_true, Option.isSome_eq_false_iff] at hduplicate
          exact Option.isNone_iff_eq_none.mp hduplicate
        unchanged := ⟨identity, hidentity, hunchanged⟩
        unwritten := by
          intro t ht hcase
          obtain ⟨g, act, hg, hof⟩ := htickets.own t ht (hcase ▸ hkey)
          obtain rfl := Option.some.inj (hf.symm.trans (hcase ▸ hg))
          exact absurd (hof.actions.symm.trans (hfolder.no_action hlast hpending))
            (List.cons_ne_nil _ _) }
  · simp only [if_neg hunchanged] at hreview
    obtain ⟨l', ht, hmove, -⟩ := dropProposal_ok hinv hf hlast hpending
      (.invalidated identity hvalid ⟨_, hidentity⟩ (by simpa using hunchanged))
    rw [Transaction.bind_ok ht] at hreview
    rw [Transaction.commit_ok hreview] at hf'
    have hfolder' := Move.folderMove hmove hstore p.proposalId.caseId
    rw [hf'] at hfolder'
    rcases hfolder'.confirmed hq hconfirmed with ⟨g, hg, hmem⟩ | h
    · obtain rfl := Option.some.inj (hf.symm.trans hg)
      exact absurd hconfirmed (hnone q hmem)
    · obtain ⟨_, _, _, _, _, _, -, -, -, hphase, -⟩ := h
      cases hphase

/-! ### One call -/

/-- A proposal of a case is confirmed. -/
def ConfirmedIn (l : ConversationStore) (p : ProposalRow) : Prop :=
  p.proposalState = .confirmed ∧
    ∃ f, l.folders p.proposalId.caseId = some f ∧ p ∈ f.proposals

/-- One of the steps has accepted a proposal. -/
def AcceptedIn (settings : Settings) (steps : List (Label × ServiceState)) (p : ProposalRow) :
    Prop :=
  ∃ x version f p₀, (Label.review p₀.proposalId version, x) ∈ steps ∧
    Accepts settings x version f p₀ ∧ p = p₀.moved .confirmed

/-- What was confirmed during a call was accepted in one of its steps. -/
def Consented (settings : Settings) (l₀ : ConversationStore) (steps : List (Label × ServiceState))
    (l : ConversationStore) : Prop :=
  ∀ p, ConfirmedIn l p → ConfirmedIn l₀ p ∨ AcceptedIn settings steps p

theorem AcceptedIn.append (h : AcceptedIn settings steps p) (step : Label × ServiceState) :
    AcceptedIn settings (steps ++ [step]) p := by
  obtain ⟨x, version, f, p₀, hmem, hrest⟩ := h
  exact ⟨x, version, f, p₀, List.mem_append_left _ hmem, hrest⟩

/-- The machine of a conversation that looks at its reviews. -/
def reviewer (settings : Settings) (k : String) :
    Machine Phase ConversationStore SharedState Label Response :=
  (machine settings k).along fun label update => ∃ r, Reviews settings r label update

/-- Every request follows it. -/
theorem Request.reviewed (settings : Settings) (k : String) (r : Request) (l : ConversationStore) :
    Follows (reviewer settings k) (fun a γ _ => (reviewer settings k).ended a γ)
      (Request.program settings k r) .idle l :=
  (Request.follows settings k r l).along ((Request.reviews settings k r).mono fun _ _ h => ⟨r, h⟩)

theorem reviewer_preserved (settings : Settings) (assumes : String → Label → ServiceState → Prop) :
    Preserved (reviewer settings) SharedState.Drifts assumes fun k => (reviewer settings k).inv :=
  (machine_preserved settings assumes).along

/-- Every step of a call goes on with what was consented to. -/
theorem Consented.step (hinv : (reviewer settings k).inv γ x.1 x.2)
    (h : Consented settings l₀ steps x.1) (hmove : (reviewer settings k).move label γ x γ' y) :
    Consented settings l₀ (steps ++ [(label, x)]) y.1 := by
  obtain ⟨hmove, update, ⟨r, hreviews⟩, hupdate⟩ := hmove
  rintro p ⟨hconfirmed, f', hf', hp⟩
  have hfolder := Move.folderMove hmove hinv.1 p.proposalId.caseId
  rw [hf'] at hfolder
  rcases hfolder.confirmed hp hconfirmed with ⟨f, hf, hmem⟩ | h'
  · exact (h p ⟨hconfirmed, f, hf, hmem⟩).imp_right fun hstep => hstep.append _
  · obtain ⟨f, earlier, p₀, version, runId, a, hf, rfl, rfl, -, hlast, howner, hvalid, rfl⟩ := h'
    obtain ⟨-, rfl⟩ := hreviews p₀.proposalId version rfl
    refine .inr ⟨x, version, f, p₀, by simp, ?_, rfl⟩
    refine reviewConfirmation_accepts hinv hf hlast hvalid ?_ hp hconfirmed
    rw [hupdate] at hf'
    exact hf'

/-! ### Whole runs -/

/-- The ticket is what its proposal offered. -/
structure WritesOut (t : TicketRow) (p : ProposalRow) : Prop where
  action : t.actionId = (stableActionIdentity p).1
  caseId : t.caseId = p.proposalId.caseId
  orderId : t.authorizedOrderId = p.executionParameters.orderId
  issueType : t.issueType = p.executionParameters.issueType
  targetShipmentId : t.targetShipmentId = p.executionParameters.targetShipmentId

/-- A call asked for a proposal to be confirmed, one of its steps accepted that, and the ticket is
    what was proposed. -/
def ConsentsTo (settings : Settings) (t : TicketRow) (r : Request)
    (steps : List (Label × ServiceState)) : Prop :=
  ∃ x version f p, r = .confirmProposal p.proposalId version ∧
    (Label.review p.proposalId version, x) ∈ steps ∧ Accepts settings x version f p ∧
    WritesOut t p

/-- Every ticket is the write of a proposal that is confirmed. -/
theorem ServiceReaches.confirmed_of_ticket {g : ServiceConfig}
    (hreach : ServiceReaches settings assumes g) {t : TicketRow} (ht : t ∈ g.shared.tickets) :
    ∃ p, ConfirmedIn (g.stores t.caseId.conversationId) p ∧ WritesOut t p := by
  obtain ⟨f, p, a, hwrite, hactions⟩ := hreach.writeOf ht
  have hfolder := ((hreach.inv t.caseId.conversationId).1.folders _ f hwrite.folder).2.2
  obtain ⟨earlier, p', -, -, hproposals, -, -, hexecutes⟩ := hfolder.stage.of_action hactions
  have hp' : p' ∈ f.proposals := hproposals ▸ List.mem_append_right _ (List.mem_singleton_self p')
  have hsame : p' = p := List.inj_on_of_nodup_map hfolder.proposalIds hp' hwrite.proposal
    (hexecutes.proposalId.symm.trans hwrite.actionOf)
  subst hsame
  have hcase := (hfolder.proposalCase p' hp').1
  exact ⟨p', ⟨hwrite.confirmed, f, hcase ▸ hwrite.folder, hp'⟩,
    ⟨hwrite.actionId.trans hexecutes.actionId, hcase.symm, hwrite.orderId, hwrite.issueType,
      hwrite.targetShipmentId⟩⟩

section Log

variable {g₀ g : ServiceConfig} {doing : String → List (Label × ServiceState)}
  {log : List PastCall}

/-- What a call accepted was asked for. -/
theorem AcceptedIn.consentsTo {r : Request} {t : TicketRow} (h : AcceptedIn settings steps p)
    (hasked : Asked (fun _ => Reviews settings) k r steps) (hwrites : WritesOut t p) :
    ConsentsTo settings t r steps := by
  obtain ⟨x, version, f, p₀, hmem, haccepts, rfl⟩ := h
  obtain ⟨update, hreviews⟩ := hasked _ hmem
  exact ⟨x, version, f, p₀, (hreviews p₀.proposalId version rfl).1, hmem, haccepts,
    hwrites.action, hwrites.caseId, hwrites.orderId, hwrites.issueType, hwrites.targetShipmentId⟩

/-- No ticket without consent. In every run of a fresh service every ticket goes back to a call of
    its own conversation, ended or in progress, that asked for its proposal to be confirmed; a step
    of that call found the proposal pending, in the version that was asked for and in time, its
    evidence unchanged and nothing written yet, and the ticket is what was proposed. -/
theorem tickets_are_consented (hfresh : ServiceConfig.Fresh g₀)
    (h : Chronicles (Request.program settings) SharedState.Drifts assumes g₀ g doing log) :
    ∀ t ∈ g.shared.tickets,
      (∃ past ∈ log, past.key = t.caseId.conversationId ∧
        ConsentsTo settings t past.request past.steps) ∨
      ∃ call, g.calls t.caseId.conversationId = some call ∧
        ConsentsTo settings t call.request (doing t.caseId.conversationId) := by
  intro t ht
  obtain ⟨p, hconfirmed, hwrites⟩ :=
    ServiceReaches.confirmed_of_ticket ⟨g₀, hfresh, h.reaches⟩ ht
  generalize t.caseId.conversationId = k at *
  have hinit : ∀ k, (machine settings k).inv .idle (g₀.stores k) g₀.shared := fun k => hfresh.inv k
  obtain ⟨hduring, hcalls⟩ := h.calls (T := fun _ l₀ steps _ l => Consented settings l₀ steps l)
    (fun k r l _ _ => Request.reviewed settings k r l) (reviewer_preserved settings assumes)
    (fun _ _ _ _ _ hp => .inl hp) (fun hinv hconsented _ hmove => hconsented.step hinv hmove)
    hfresh.calls hinit
  obtain ⟨hdoing, hlog⟩ := h.asked (fun k r => Request.reviews settings k r) hfresh.calls
  have hpast : ConfirmedIn (g.rested k) p → ∃ past ∈ log, past.key = k ∧
      ConsentsTo settings t past.request past.steps := by
    intro hrested
    have horigin := (h.chain hfresh.calls k).origin (Q := fun l => ConfirmedIn l p)
      (P := fun past => AcceptedIn settings past.steps p) (fun past hpast => by
        obtain ⟨γ, -, -, hconsented⟩ := hcalls past (List.mem_of_mem_filter hpast)
        exact hconsented p) hrested
    rcases horigin with ⟨-, f, hf, -⟩ | ⟨past, hpast, haccepted⟩
    · rw [hfresh.folders_eq_none] at hf
      cases hf
    · obtain ⟨hpast, hkey⟩ := List.mem_filter.mp hpast
      exact ⟨past, hpast, of_decide_eq_true hkey, haccepted.consentsTo (hlog past hpast) hwrites⟩
  obtain ⟨γ, -, hphase⟩ := hduring k
  cases hcall : g.calls k with
  | none =>
    rw [Config.rested, hcall] at hpast
    exact .inl (hpast hconfirmed)
  | some call =>
    rw [Config.rested, hcall] at hpast
    simp only [hcall] at hphase
    rcases hphase.2 p hconfirmed with hbegun | haccepted
    · exact .inl (hpast hbegun)
    · exact .inr ⟨call, rfl, haccepted.consentsTo (hdoing k call hcall).2 hwrites⟩

end Log

/-! ### The chronicle of a session -/

/-- A session has the chronicle of its calls, and leads where it is computed to lead. -/
theorem Visit.chronicles_to (visits : List Visit) {g₀ : ServiceConfig}
    {stores : String → ConversationStore} {doing : String → List (Label × ServiceState)}
    {log : List PastCall} (hstore : stores k = l)
    (h : Chronicles (Request.program settings) SharedState.Drifts assumes g₀
      ⟨stores, s, fun _ => none⟩ doing log)
    (allowed : ∀ step ∈ Visit.steps settings k visits (l, s), assumes k step.1 step.2) :
    ∃ doing', Chronicles (Request.program settings) SharedState.Drifts assumes g₀
      ⟨Function.update stores k (visits.foldl (Visit.serve settings k) (l, s)).1,
        (visits.foldl (Visit.serve settings k) (l, s)).2, fun _ => none⟩ doing'
      (log ++ Visit.log settings k visits (l, s)) := by
  induction visits generalizing s l stores doing log with
  | nil =>
    rw [List.foldl_nil, ← hstore, Function.update_eq_self, Visit.log, List.append_nil]
    exact ⟨doing, h⟩
  | cons v visits ih =>
    subst hstore
    have hdrift : SharedState.Drifts s { s with now := s.now + v.after } :=
      ⟨rfl, rfl, rfl, rfl, by simp⟩
    obtain ⟨doing', hserved⟩ := (h.environment hdrift).serves v.request rfl fun step hstep =>
      allowed step (List.mem_append_left _ hstep)
    obtain ⟨doing'', hrest⟩ := ih (Function.update_self ..) hserved fun step hstep =>
      allowed step (List.mem_append_right _ hstep)
    rw [Function.update_idem, List.append_assoc] at hrest
    exact ⟨doing'', hrest⟩

/-- The chronicle of a session of a fresh service. -/
theorem session_chronicles (customerId : String) (visits : List Visit)
    (allowed : ∀ step ∈ Visit.steps settings k visits (.created customerId, s),
      assumes k step.1 step.2) :
    ∃ doing, Chronicles (Request.program settings) SharedState.Drifts assumes
      ⟨fun _ => .created customerId, s, fun _ => none⟩ (session settings k customerId s visits) doing
      (Visit.log settings k visits (.created customerId, s)) := by
  have hbegin : Chronicles (Request.program settings) SharedState.Drifts assumes
    ⟨fun _ => .created customerId, s, fun _ => none⟩ _ _ [] := .begin
  exact Visit.chronicles_to (k := k) visits rfl hbegin allowed

end AfterSales

/-! ### A confirmed write that is repeated -/

namespace AfterSales.Session
open Interleave

section Consent

attribute [local instance] PolicyDigest.bySource ProofDigest.byId ResultDigest.byName
  IdText.spelled FactDigest.byMessage CaseFolding.lower EvidenceDigest.byResults
  MessageRedaction.none TraceVolume.one

/-- The write of the retry goes back to the confirmation before it. -/
theorem confirmedTwice_consented :
    let g := session demoSettings "CONV-1" "CUS-1" (demoShared failOnce) confirmedTwice
    g.shared.tickets.length = 1 ∧ ∀ t ∈ g.shared.tickets,
      ∃ past ∈ Visit.log demoSettings "CONV-1" confirmedTwice (.created "CUS-1", demoShared failOnce),
        past.key = t.caseId.conversationId ∧
          ConsentsTo demoSettings t past.request past.steps := by
  intro g
  refine ⟨by decide +kernel, fun t ht => ?_⟩
  obtain ⟨doing, h⟩ : ∃ doing, Chronicles (Request.program demoSettings) SharedState.Drifts
      (fun _ _ _ => True) ⟨fun _ => .created "CUS-1", demoShared failOnce, fun _ => none⟩ g doing
      (Visit.log demoSettings "CONV-1" confirmedTwice (.created "CUS-1", demoShared failOnce)) :=
    session_chronicles "CUS-1" confirmedTwice fun _ _ => trivial
  have hconsented := tickets_are_consented ⟨fun _ => ⟨"CUS-1", rfl⟩, fun _ => rfl, rfl, rfl,
    (demoShared_fresh _).ticketIds⟩ h t ht
  exact hconsented.resolve_right fun ⟨call, hcall, _⟩ => by cases hcall

end Consent

end AfterSales.Session
