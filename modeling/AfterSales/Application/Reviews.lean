import AfterSales.Application.Passes

/-! The operations follow the machine, second part: reviews of proposals, and the write.

    A proposal that may be acted on is the last one of its case, and pending; so what becomes of it
    is a change of the last row. A submission finds no ticket of its key, and a ticket it wrote is
    found again when it is verified. -/

set_option linter.unusedSectionVars false

namespace AfterSales
open Interleave Repository

variable [PolicyDigest] [ProofDigest] [ResultDigest] [IdText] [TraceVolume] [FactDigest]
  [CaseFolding] [EvidenceDigest] [MessageRedaction]

variable {settings : Settings} {k : String} {l : ConversationStore} {s : SharedState}
  {caseId runId : RowId} {proposalId : ProposalId} {f : CaseFolder} {row : RunRow} {γ γ' : Phase}
  {α : Type} {P : α → Phase → ConversationStore → Prop}
  {E : ServiceError → Phase → ConversationStore → Prop}

/-! ### Proposals -/

/-- A pending proposal is the last one of its case. -/
theorem FolderInv.last_pending {p : ProposalRow} (h : FolderInv l caseId f) (hp : p ∈ f.proposals)
    (hpending : p.proposalState = .pendingConfirmation) :
    ∃ earlier, f.proposals = earlier ++ [p] := by
  have hstage := h.stage
  cases hstage with
  | plain _ _ dropped => exact absurd hpending (dropped p hp).1
  | offered earlier p' _ _ proposals dropped =>
    rw [proposals, List.mem_append, List.mem_singleton] at hp
    rcases hp with hp | rfl
    · exact absurd hpending (dropped p hp).1
    · exact ⟨earlier, proposals⟩
  | acting earlier p' _ _ _ proposals dropped confirmed =>
    rw [proposals, List.mem_append, List.mem_singleton] at hp
    rcases hp with hp | rfl
    · exact absurd hpending (dropped p hp).1
    · rw [confirmed] at hpending
      cases hpending

/-- What a review that is not rejected at once knows of its proposal. -/
theorem validatePendingProposal_pending {p : ProposalRow} {r : CaseRow} {version : Nat}
    {now : Instant} (h : validatePendingProposal p r version now = none ∨
      validatePendingProposal p r version now = some "PROPOSAL_EXPIRED") :
    p.proposalState = .pendingConfirmation := by
  unfold validatePendingProposal at h
  by_contra hne
  split at h
  · simp at h
  · simp at h

/-- The last proposal of a case changes its state, and the case lets go of it. -/
theorem resolve_ok {earlier : List ProposalRow} {p : ProposalRow} (proposalState : ProposalState)
    (h : FolderInv l caseId f) (hf : l.folders caseId = some f)
    (hlast : f.proposals = earlier ++ [p]) (hpending : p.proposalState = .pendingConfirmation)
    (owner : p.proposalId.caseId = caseId)
    (hallowed : proposalState ∈ proposalTransitions .pendingConfirmation)
    (hkept : proposalState ≠ .superseded) :
    updateProposalState p.proposalId proposalState none (l, s) =
      .ok ((), (l.setFolder caseId (f.resolved earlier p proposalState), s)) := by
  subst owner
  have hids : ((earlier ++ [p]).map ProposalRow.proposalId).Nodup := hlast ▸ h.proposalIds
  have hfind : Keyed.find ProposalRow.proposalId p.proposalId f.proposals = some p :=
    Keyed.find_of_mem _ h.proposalIds (by simp [hlast])
  have hmodify : Keyed.modify ProposalRow.proposalId p.proposalId
      (fun q => { q with proposalState := proposalState, supersededBy := none }) f.proposals
        = earlier ++ [p.moved proposalState] := by
    rw [hlast]
    exact Keyed.modify_last _ hids
  have hne : proposalState ≠ .pendingConfirmation := by
    rintro rfl
    simp [proposalTransitions] at hallowed
  have hrelease : CaseRow.release f.row p.proposalId proposalState =
      { f.row with activeProposalId := none, revision := f.row.revision + 1 } :=
    if_pos ⟨hne, (h.stage.of_pending hlast hpending).2.1⟩
  rw [updateProposalState_ok (x := (l, s)) hf hfind (by rw [hpending]; exact hallowed)
    fun e => absurd e hkept, hmodify, hrelease]
  rfl

/-- A proposal is taken out of the way, and its case waits for a retry. -/
theorem dropProposal_ok {earlier : List ProposalRow} {p : ProposalRow} {label : Label}
    {version : Nat} {proposalState : ProposalState}
    (hinv : (machine settings k).inv (.reviewing runId p.proposalId .running) l s)
    (hf : l.folders p.proposalId.caseId = some f) (hlast : f.proposals = earlier ++ [p])
    (hpending : p.proposalState = .pendingConfirmation)
    (why : Drops settings l s f p version label proposalState) :
    ∃ l', Service.dropProposal p.proposalId proposalState (l, s) = .ok ((), (l', s)) ∧
      (machine settings k).move label (.reviewing runId p.proposalId .running) (l, s)
        (.reviewing runId p.proposalId .running) (l', s) ∧ runId.serial < l'.nextSerial := by
  obtain ⟨hstore, hγ, -⟩ := hinv
  obtain ⟨⟨row, hopen⟩, -⟩ := id hγ
  obtain ⟨-, -, hfolder⟩ := hstore.folders _ f hf
  have hmove : CaseMove settings p.proposalId.caseId runId l s f row label
      (.reviewing runId p.proposalId .running) false _ s _ row := .drop hlast hpending rfl why
  have hnew := hmove.folderInv hfolder hf hγ
  have hresolve := resolve_ok (s := s) proposalState hfolder hf hlast hpending
    rfl (by cases why <;> decide) (by cases why <;> decide)
  have hchange := changeCase_ok
    (x := (l.setFolder p.proposalId.caseId (f.resolved earlier p proposalState), s))
    (ConversationStore.setFolder_self ..)
    (by simp [CaseFolder.resolved, (hfolder.stage.of_pending hlast hpending).1]) hnew.closing
    hnew.budget
  refine ⟨_, ?_, .change hf hopen.stored hmove, hopen.known hstore⟩
  refine (Transaction.bind_ok hresolve).trans (hchange.trans ?_)
  rw [ConversationStore.setFolder_putCase, ConversationStore.setRun_same]
  · rfl
  · exact hopen.stored

/-- A proposal is confirmed: it has its action now, and its case executes it. -/
theorem confirmAction_ok {earlier : List ProposalRow} {p : ProposalRow} {version : Nat}
    (hinv : (machine settings k).inv (.reviewing runId p.proposalId .running) l s)
    (hf : l.folders p.proposalId.caseId = some f) (hlast : f.proposals = earlier ++ [p])
    (hvalid : validatePendingProposal p f.row version s.now = none) :
    ∃ l', Service.confirmAction p.proposalId p (l, s) = .ok ((), (l', s)) ∧
      (machine settings k).move (.review p.proposalId version)
        (.reviewing runId p.proposalId .running) (l, s)
        (.executing runId (.ofCase (buildReadyAction p) p.proposalId.caseId f.row) .running)
        (l', s) ∧ runId.serial < l'.nextSerial := by
  obtain ⟨hstore, hγ, -⟩ := hinv
  obtain ⟨⟨row, hopen⟩, -⟩ := id hγ
  obtain ⟨-, -, hfolder⟩ := hstore.folders _ f hf
  have hpending := validatePendingProposal_pending (Or.inl hvalid)
  obtain ⟨hstate, -, -, hactions⟩ := hfolder.stage.of_pending hlast hpending
  have hmove : CaseMove settings p.proposalId.caseId runId l s f row (.review p.proposalId version)
      (.reviewing runId p.proposalId .running) false _ s _ row :=
    .confirm hlast hpending rfl hvalid
  have hnew := hmove.folderInv hfolder hf hγ
  have hresolve := resolve_ok (s := s) .confirmed hfolder hf hlast hpending
    rfl (by decide) (by decide)
  have hcreate := createAction_ok (buildReadyAction p)
    (x := (l.setFolder p.proposalId.caseId (f.resolved earlier p .confirmed), s))
    (ConversationStore.setFolder_self ..)
    (Keyed.find_last ProposalRow.proposalId (hlast ▸ hfolder.proposalIds) rfl) hactions
  have hchange := changeCase_ok
    (x := ((l.setFolder p.proposalId.caseId (f.resolved earlier p .confirmed)).setFolder
      p.proposalId.caseId { f.resolved earlier p .confirmed with
        actions := (f.resolved earlier p .confirmed).actions ++ [buildReadyAction p] }, s))
    (u := { caseState := some .executingAction })
    (ConversationStore.setFolder_self ..) (by simp [CaseFolder.resolved, hstate]) hnew.closing
    hnew.budget
  refine ⟨_, ?_, .change hf hopen.stored hmove, hopen.known hstore⟩
  refine (Transaction.bind_ok hresolve).trans ((Transaction.bind_ok hcreate).trans
    (hchange.trans ?_))
  have hnone : (f.resolved earlier p .confirmed).actions = [] := hactions
  rw [hnone, ConversationStore.setFolder_putCase, ConversationStore.setFolder_putCase,
    ConversationStore.setRun_same]
  · rfl
  · exact hopen.stored

/-! ### Reviews -/

/-- The facts that a proposal is compared with are found, or found broken; nothing changes. -/
theorem currentIdentity_ok (h : FolderInv l caseId f) (hf : l.folders caseId = some f) :
    ∃ identity, Service.currentIdentity caseId (l, s) = .ok (identity, (l, s)) := by
  unfold Service.currentIdentity
  obtain ⟨snapshot, -, ⟨-, hload⟩ | ⟨-, hload⟩⟩ :=
    CaseFactService.loadSnapshot_cases (s := s) hf h.history
  · rw [hload]
    exact ⟨_, rfl⟩
  · rw [hload]
    exact ⟨_, rfl⟩

/-- A phase after the review of a confirmation. -/
def Reviewed (runId : RowId) (proposalId : ProposalId) (verdict : Service.Verdict) (γ : Phase)
    (l : ConversationStore) : Prop :=
  runId.serial < l.nextSerial ∧ match verdict with
    | .confirmed a => γ = .executing runId a .running ∧ a.caseId = proposalId.caseId
    | _ => γ = .reviewing runId proposalId .running

/-- The review of a confirmation once the proposal itself is in order. -/
theorem reviewEvidence_ok {p : ProposalRow} {version : Nat}
    (hinv : (machine settings k).inv (.reviewing runId p.proposalId .running) l s)
    (hf : l.folders p.proposalId.caseId = some f) (hp : p ∈ f.proposals)
    (hvalid : validatePendingProposal p f.row version s.now = none) :
    ∃ verdict γ' l', Service.reviewEvidence settings p.proposalId p f (l, s)
        = .ok (verdict, (l', s)) ∧
      (machine settings k).move (.review p.proposalId version)
        (.reviewing runId p.proposalId .running) (l, s) γ' (l', s) ∧
      Reviewed runId p.proposalId verdict γ' l' := by
  obtain ⟨-, -, hfolder⟩ := hinv.1.folders _ f hf
  obtain ⟨⟨row, hopen⟩, -⟩ := hinv.2.1
  have hpending := validatePendingProposal_pending (Or.inl hvalid)
  obtain ⟨earlier, hlast⟩ := hfolder.last_pending hp hpending
  by_cases hduplicate : (getActiveTicket s.tickets f.row.authorizedOrderId f.row.canonicalIssueType
      f.row.targetShipmentId).isSome
  · refine ⟨.duplicate, _, l, ?_, .hold (Or.inl rfl), hopen.known hinv.1, rfl⟩
    rw [Service.reviewEvidence, Transaction.bind_ok rfl]
    simp only [if_pos hduplicate]
    rfl
  obtain ⟨identity, hidentity⟩ := currentIdentity_ok (s := s) hfolder hf
  by_cases hunchanged : evidenceUnchanged p (revalidateGate settings s f p) identity = true
  · obtain ⟨l', ht, hmove, hknown⟩ := confirmAction_ok hinv hf hlast hvalid
    refine ⟨.confirmed (.ofCase (buildReadyAction p) p.proposalId.caseId f.row), _, l', ?_, hmove,
      hknown, rfl, rfl⟩
    rw [Service.reviewEvidence, Transaction.bind_ok rfl]
    simp only [if_neg hduplicate]
    rw [Transaction.bind_ok hidentity]
    simp only [if_pos hunchanged]
    exact (Transaction.bind_ok ht).trans rfl
  · obtain ⟨l', ht, hmove, hknown⟩ := dropProposal_ok hinv hf
      hlast hpending (.invalidated identity hvalid ⟨_, hidentity⟩ (by simpa using hunchanged))
    refine ⟨.invalidated, _, l', ?_, hmove, hknown, rfl⟩
    rw [Service.reviewEvidence, Transaction.bind_ok rfl]
    simp only [if_neg hduplicate]
    rw [Transaction.bind_ok hidentity]
    simp only [if_neg hunchanged]
    exact (Transaction.bind_ok ht).trans rfl

/-- A proposal of a phase is found, with its case. -/
theorem requireProposal_ok {p : ProposalRow} (hf : l.folders proposalId.caseId = some f)
    (hp : Keyed.find ProposalRow.proposalId proposalId f.proposals = some p) :
    Service.requireProposal proposalId (l, s) = .ok ((p, f), (l, s)) := by
  rw [Service.requireProposal, Transaction.bind_ok (requireCase_ok (x := (l, s)) hf),
    Transaction.bind_ok (require_ok hp)]
  rfl

/-- The review of a confirmation. -/
theorem reviewConfirmation_runs {version : Nat} :
    Runs (machine settings k) (Reviewed runId proposalId) E
      (Service.transaction (.review proposalId version)
        (Service.reviewConfirmation settings proposalId version))
      (.reviewing runId proposalId .running) l := by
  refine Runs.transaction_ok fun s hinv => ?_
  obtain ⟨⟨row, hopen⟩, f, hf, p, hp⟩ := hinv.2.1
  obtain ⟨hmem, rfl⟩ := Keyed.find_some _ hp
  have hheld : Reviewed runId p.proposalId (.rejected "") (.reviewing runId p.proposalId .running) l :=
    ⟨hopen.known hinv.1, rfl⟩
  rw [Service.reviewConfirmation, Transaction.bind_ok (requireProposal_ok hf hp)]
  simp only
  rw [Transaction.bind_ok rfl]
  cases hvalid : validatePendingProposal p f.row version s.now with
  | none =>
    by_cases horder : (authorizeOrder f.row.customerId f.row.authorizedOrderId s.fixtures).isNone
    · simp only [if_pos horder]
      exact ⟨_, _, l, s, rfl, .hold (Or.inl rfl), hheld⟩
    · simp only [if_neg horder]
      obtain ⟨verdict, γ', l', ht, hmove, hreviewed⟩ := reviewEvidence_ok hinv hf hmem hvalid
      exact ⟨verdict, γ', l', s, ht, hmove, hreviewed⟩
  | some code =>
    by_cases hexpired : code = "PROPOSAL_EXPIRED"
    · subst hexpired
      have hpending := validatePendingProposal_pending (Or.inr hvalid)
      obtain ⟨earlier, hlast⟩ := (hinv.1.folders _ f hf).2.2.last_pending hmem hpending
      obtain ⟨l', ht, hmove, hknown⟩ := dropProposal_ok hinv hf hlast hpending (.expired hvalid)
      simp only [if_true]
      exact ⟨_, _, l', s, (Transaction.bind_ok ht).trans rfl, hmove, hknown, rfl⟩
    · simp only [if_neg hexpired]
      exact ⟨_, _, l, s, rfl, .hold (Or.inl rfl), hheld⟩

/-- The review of a decline. -/
theorem reviewDecline_runs {version : Nat} :
    Runs (machine settings k)
      (fun refused γ' l' => runId.serial < l'.nextSerial ∧
        γ' = if refused = none then .settled proposalId.caseId .answer
          else .reviewing runId proposalId .running) E
      (Service.transaction (.reviewDecline proposalId version)
        (Service.reviewDecline runId proposalId version))
      (.reviewing runId proposalId .running) l := by
  refine Runs.transaction_ok fun s hinv => ?_
  obtain ⟨⟨row, hopen⟩, f, hf, p, hp⟩ := hinv.2.1
  obtain ⟨hmem, rfl⟩ := Keyed.find_some _ hp
  obtain ⟨-, -, hfolder⟩ := hinv.1.folders _ f hf
  rw [Service.reviewDecline, Transaction.bind_ok (requireProposal_ok hf hp)]
  simp only
  rw [Transaction.bind_ok rfl]
  cases hvalid : validatePendingProposal p f.row version s.now with
  | none =>
    have hpending := validatePendingProposal_pending (Or.inl hvalid)
    obtain ⟨earlier, hlast⟩ := hfolder.last_pending hmem hpending
    have hmove : CaseMove settings p.proposalId.caseId runId l s f row
        (.reviewDecline p.proposalId version) (.reviewing runId p.proposalId .running) false _ s _
        (row.ended .succeeded 0 0 none) := .decline hlast hpending rfl hvalid
    have hnew := hmove.folderInv hfolder hf hinv.2.1
    have hresolve := resolve_ok (s := s) .declined hfolder hf hlast hpending
      rfl (by decide) (by decide)
    have hchange := changeCase_ok
      (x := (l.setFolder p.proposalId.caseId (f.resolved earlier p .declined), s))
      (u := Service.closing .resolvedNoAction "CUSTOMER_DECLINED_PROPOSAL")
      (ConversationStore.setFolder_self ..)
      (by simp [CaseFolder.resolved, (hfolder.stage.of_pending hlast hpending).1]) hnew.closing
      hnew.budget
    refine ⟨none, _, _, s, ?_, .change hf hopen.stored hmove, hopen.known hinv.1, rfl⟩
    refine (Transaction.bind_ok hresolve).trans ((Transaction.bind_ok hchange).trans
      ((Transaction.bind_ok (succeedRun_ok { hopen with })).trans ?_))
    rw [ConversationStore.setFolder_putCase]
    rfl
  | some code =>
    by_cases hexpired : code = "PROPOSAL_EXPIRED"
    · subst hexpired
      have hpending := validatePendingProposal_pending (Or.inr hvalid)
      obtain ⟨earlier, hlast⟩ := hfolder.last_pending hmem hpending
      obtain ⟨l', ht, hmove, hknown⟩ :=
        dropProposal_ok hinv hf hlast hpending (.expiredDecline hvalid)
      simp only [if_true]
      exact ⟨_, _, l', s, (Transaction.bind_ok ht).trans rfl, hmove, hknown, rfl⟩
    · simp only [if_neg hexpired]
      exact ⟨_, _, l, s, rfl, .hold (Or.inr rfl), hopen.known hinv.1, rfl⟩

/-- `_create_action_run`. -/
theorem createActionRun_runs :
    Runs (machine settings k)
      (fun runId γ' l' => γ' = .reviewing runId proposalId .running ∧ runId.serial < l'.nextSerial)
      Failed (Service.createActionRun k proposalId) .idle l := by
  refine Runs.bind (Runs.segment fun s hinv => ?_)
  cases hp : getProposal l proposalId with
  | none =>
    refine ⟨.error (.application "PROPOSAL_NOT_FOUND" 404), .idle, l, s,
      Transaction.commit_error ?_, .look rfl, Or.inl ⟨rfl, rfl⟩⟩
    rw [Transaction.bind_ok rfl]
    simp only [hp]
    rfl
  | some p =>
    obtain ⟨f, hf, hfound⟩ := Option.bind_eq_some_iff.mp hp
    refine ⟨.ok ⟨k, l.nextSerial⟩, _, _, s, Transaction.commit_ok ?_, .review hf hfound, ?_⟩
    · rw [Transaction.bind_ok rfl]
      simp only [hp]
      rfl
    · refine Leads.next (startRun_runs (.reviewing proposalId)) fun _ l' hl' => ?_
      exact Runs.pure ⟨rfl, hl'⟩

/-! ### The write -/

theorem FixtureStore.consumeActionFault_none {store : FixtureStore} {seed : String}
    (h : (store.consumeActionFault seed).2 = none) : (store.consumeActionFault seed).1 = store := by
  unfold FixtureStore.consumeActionFault at h ⊢
  simp only at h ⊢
  split at h <;> simp_all

/-- The one action of a case changes its state. -/
theorem updateActionState_open {a : Service.TicketAction} {act act' : ActionRow}
    {actionState : ActionState} {now : Instant} {errorCode : Option String}
    {submittedAt verifiedAt : Option Instant} (hopen : ActionOpen f a act)
    (hfolder : FolderInv l a.caseId f) (hf : l.folders a.caseId = some f)
    (hupdate : act.update actionState now errorCode submittedAt verifiedAt = .ok act') :
    updateActionState a.actionId actionState now errorCode submittedAt verifiedAt (l, s) =
      .ok ((), (l.setFolder a.caseId { f with actions := [act'] }, s)) := by
  have hcase : a.actionId.identity.proposalId.caseId = a.caseId := (hopen.ids hfolder).2
  have hfind : Keyed.find ActionRow.actionId a.actionId f.actions = some act := by
    simp [hopen.actions, hopen.actionId, Keyed.find_cons]
  rw [updateActionState_ok (x := (l, s)) (hcase ▸ hf) hfind hupdate, hcase, hopen.actions]
  simp [Keyed.modify, hopen.actionId]

/-- An action that is due is submitted. -/
theorem ActionRow.update_submitted {act : ActionRow} {now : Instant}
    (hdue : act.actionState = .ready ∨ act.actionState = .failedRetryable) :
    act.update .submitted now none (some now) none = .ok (act.submittedAgain now) := by
  unfold ActionRow.update ActionRow.submittedAgain
  rcases hdue with h | h <;> simp [h, actionTransitions]

/-- An action that is due has no ticket yet. -/
theorem ActionOpen.no_ticket {a : Service.TicketAction} {act : ActionRow}
    (h : ActionOpen f a act) (hdue : act.actionState = .ready ∨ act.actionState = .failedRetryable)
    (hstore : StoreInv k l) (ht : TicketInv k l s) (hf : l.folders a.caseId = some f) :
    getTicketByIdempotencyKey s.tickets a.idempotencyKey = none := by
  obtain ⟨hk, -, hfolder⟩ := hstore.folders a.caseId f hf
  refine (Keyed.find_eq_none _).mpr fun t hmem hkey => ?_
  have hcase : t.caseId = a.caseId := by
    rw [← (ht.ids t hmem).2.2, ← (ht.ids t hmem).2.1, hkey, (h.ids hfolder).1, (h.ids hfolder).2]
  obtain ⟨g, act', hg, hof⟩ := ht.own t hmem (by rw [hcase, hk])
  rw [hcase, hf] at hg
  obtain rfl := Option.some.inj hg
  exact h.unwritten hdue hof

/-- The submission of an action: it is written, scripted to fail, or refused for good. -/
theorem submitStep_runs {a : Service.TicketAction} :
    Runs (machine settings k)
      (fun submitted γ' l' => γ' = .submitted runId a submitted.1 submitted.2 ∧
        runId.serial < l'.nextSerial)
      (fun _ γ' _ => γ' = .stranded)
      (Op.segment (.submit a.actionId) (Service.submitStep settings a))
      (.executing runId a .running) l := by
  refine Runs.segment fun s hinv => ?_
  obtain ⟨hstore, ⟨⟨row, hopen⟩, f, act, hf, hact, hdue⟩, -, ht⟩ := hinv
  obtain ⟨-, -, hfolder⟩ := hstore.folders _ f hf
  have hknown := hopen.known hstore
  have hsubmit : ∀ s', updateActionState a.actionId .submitted s.now none (some s.now) none (l, s') =
      .ok ((), (l.setFolder a.caseId { f with actions := [act.submittedAgain s.now] }, s')) :=
    fun s' => updateActionState_open hact hfolder hf (ActionRow.update_submitted hdue)
  have hput : (l.putCase a.caseId { f with actions := [act.submittedAgain s.now] }).setRun runId row
      = l.setFolder a.caseId { f with actions := [act.submittedAgain s.now] } := by
    rw [ConversationStore.putCase_of_open (by simp [hact.state])]
    exact ConversationStore.setRun_same hopen.stored
  cases hfault : (s.fixtures.consumeActionFault settings.faultSeed).2 with
  | some fault =>
    refine ⟨.ok (some fault, s.now), _, _, _, ?_,
      .change hf hopen.stored (.submitFaulted hact rfl hdue hfault), rfl, hknown⟩
    unfold Service.submitStep Service.submitAction
    simp only [hfault]
    refine Transaction.commit_ok ((Transaction.bind_ok
      ((Transaction.bind_ok (hsubmit _)).trans rfl)).trans ?_)
    simp only [Bool.false_eq_true, if_false, hput]
    rfl
  | none =>
    have hsame := FixtureStore.consumeActionFault_none hfault
    have hkey := hact.no_ticket hdue hstore ht hf
    have hstored : (l.setFolder a.caseId { f with actions := [act.submittedAgain s.now] }).folders
        (a.ticketRow s.now).caseId = some { f with actions := [act.submittedAgain s.now] } :=
      ConversationStore.setFolder_self ..
    cases hrefused : ticketRefused s.tickets (a.ticketRow s.now) with
    | false =>
      refine ⟨.ok (none, s.now), _, _, _, ?_,
        .change hf hopen.stored (.submit hact rfl hdue hfault hrefused), rfl, hknown⟩
      unfold Service.submitStep Service.submitAction
      simp only [hfault, hsame]
      refine Transaction.commit_ok ((Transaction.bind_ok ((Transaction.bind_ok (hsubmit s)).trans
        (createTicket_ok hstored hkey hrefused))).trans ?_)
      simp only [Bool.false_eq_true, if_false, hput]
      rfl
    | true =>
      refine ⟨.error (.storage .integrity), .stranded, l, s, ?_, .strand hfault hrefused, rfl⟩
      unfold Service.submitStep Service.submitAction
      simp only [hfault, hsame]
      exact Transaction.commit_error (Transaction.bind_error
        ((Transaction.bind_ok (hsubmit s)).trans (createTicket_refused hstored hkey hrefused)))

/-- A scripted fault is recorded on a submitted action. -/
theorem ActionRow.update_faulted {act : ActionRow} (fault : ActionFixtureFault) (now : Instant)
    (hsubmitted : act.actionState = .submitted) :
    act.update fault.actionState now (some fault.errorCode) none none =
      .ok (act.faulted fault now) := by
  have hfailure := fault.failure
  simp only [List.mem_cons, List.not_mem_nil, or_false] at hfailure
  unfold ActionRow.update ActionRow.faulted
  rcases hfailure with h | h | h <;> simp [h, hsubmitted, actionTransitions]

/-- The success of a submitted action is recorded. -/
theorem ActionRow.update_verified {act : ActionRow} (now : Instant)
    (hsubmitted : act.actionState = .submitted) :
    act.update .succeeded now none none (some now) = .ok (act.verified now) := by
  unfold ActionRow.update ActionRow.verified
  simp [hsubmitted, actionTransitions]

/-- A call on a case that was told of it may end. -/
theorem Phase.Ended.reported {d : CustomerDisposition} :
    Phase.Ended (.ok ⟨runId, some caseId, some d⟩) (.reported caseId d) :=
  Or.inr ⟨caseId, d, rfl, rfl, by simp⟩

theorem Phase.Ended.told {d : CustomerDisposition} :
    Phase.Ended (.ok ⟨runId, some caseId, none⟩) (.reported caseId d) :=
  Or.inr ⟨caseId, d, rfl, rfl, by simp⟩

/-- The step that records a scripted fault. -/
theorem recordFault_ok {a : Service.TicketAction} {fault : ActionFixtureFault}
    {submittedAt : Instant}
    (hinv : (machine settings k).inv (.submitted runId a (some fault) submittedAt) l s) :
    ∃ l', Service.recordFault a runId fault (l, s) = .ok ((), (l', s)) ∧
      (machine settings k).move (.outcome a.actionId)
        (.submitted runId a (some fault) submittedAt) (l, s)
        (.settled a.caseId (Service.faultDisposition fault)) (l', s) ∧
      runId.serial < l'.nextSerial := by
  obtain ⟨hstore, hγ, -, -⟩ := hinv
  obtain ⟨⟨row, hopen⟩, f, act, hf, hact, hsubmitted⟩ := id hγ
  obtain ⟨-, -, hfolder⟩ := hstore.folders _ f hf
  have hmove : CaseMove settings a.caseId runId l s f row (.outcome a.actionId)
      (.submitted runId a (some fault) submittedAt) false _ s _ (row.ended .succeeded 0 0 none) :=
    .fault hact rfl hsubmitted
  have hnew := hmove.folderInv hfolder hf hγ
  have haction := updateActionState_open (s := s) hact hfolder hf
    (ActionRow.update_faulted fault s.now hsubmitted)
  have hchange := changeCase_ok
    (x := (l.setFolder a.caseId { f with actions := [act.faulted fault s.now] }, s))
    (u := Service.faultedCase fault.actionState) (ConversationStore.setFolder_self ..)
    (by simp [hact.state]) hnew.closing hnew.budget
  refine ⟨_, ?_, .change hf hopen.stored hmove, hopen.known hstore⟩
  rw [Service.recordFault, Transaction.bind_ok rfl]
  refine (Transaction.bind_ok haction).trans ((Transaction.bind_ok hchange).trans
    ((succeedRun_ok { hopen with }).trans ?_))
  rw [ConversationStore.setFolder_putCase]
  rfl

/-- A ticket whose id the sources do not know is added. -/
theorem FixtureStore.addTicket_new {store : FixtureStore} {ticket : LogisticsTicket}
    (hbase : ∀ t ∈ store.baseTickets, t.ticketId ≠ ticket.ticketId)
    (hdynamic : ∀ t ∈ store.dynamicTickets, t.ticketId ≠ ticket.ticketId) :
    ∃ store', store.addTicket ticket = some store' := by
  have hnone : (store.baseTickets ++ store.dynamicTickets).find?
      (fun t => decide (t.ticketId = ticket.ticketId)) = none := by
    rw [List.find?_eq_none]
    intro t ht
    rcases List.mem_append.mp ht with ht | ht
    · simpa using hbase t ht
    · simpa using hdynamic t ht
  unfold FixtureStore.addTicket
  rw [hnone]
  exact ⟨_, rfl⟩

/-- What a submitted action has written is new to the sources, and found under its key. -/
theorem ActionOpen.written {a : Service.TicketAction} {act : ActionRow} (h : ActionOpen f a act)
    (hsubmitted : act.actionState = .submitted) (hstore : StoreInv k l) (ht : TicketInv k l s)
    (hf : l.folders a.caseId = some f) (hw : ∃ t ∈ s.tickets, t.idempotencyKey = a.idempotencyKey)
    (submittedAt : Instant) :
    (∃ fixtures, s.fixtures.addTicket (a.sourceTicket submittedAt) = some fixtures) ∧
      ∃ t, getTicketByIdempotencyKey s.tickets a.idempotencyKey = some t := by
  obtain ⟨hk, -, hfolder⟩ := hstore.folders a.caseId f hf
  obtain ⟨t, hmem, hkey⟩ := hw
  obtain ⟨hid, hidentity, hcase⟩ := ht.ids t hmem
  have howner : t.caseId = a.caseId := by
    rw [← hcase, ← hidentity, hkey, (h.ids hfolder).1, (h.ids hfolder).2]
  obtain ⟨g, act', hg, hof⟩ := ht.own t hmem (by rw [howner, hk])
  rw [howner, hf] at hg
  obtain rfl := Option.some.inj hg
  obtain rfl := List.head_eq_of_cons_eq (h.actions.symm.trans hof.actions)
  have hsource : (a.sourceTicket submittedAt).ticketId = IdText.ticket t.ticketId := by
    rw [hid, hkey]
    rfl
  refine ⟨FixtureStore.addTicket_new ?_ ?_, ?_⟩
  · rw [hsource]
    exact fun d hd => ht.base d hd t.ticketId
  · rw [hsource]
    rcases hof.written with hs | ⟨-, hfree⟩
    · rw [hsubmitted] at hs
      cases hs
    · exact hfree
  · rw [← Option.ne_none_iff_exists']
    exact fun hnone => (Keyed.find_eq_none _).mp hnone t hmem hkey

/-- The step that verifies a write. -/
theorem verifyTicket_ok {a : Service.TicketAction} {submittedAt : Instant}
    (hinv : (machine settings k).inv (.submitted runId a none submittedAt) l s) :
    ∃ l' s', Service.verifyTicket a runId submittedAt (l, s) = .ok (true, (l', s')) ∧
      (machine settings k).move (.outcome a.actionId) (.submitted runId a none submittedAt) (l, s)
        (.settled a.caseId .investigate) (l', s') ∧ runId.serial < l'.nextSerial := by
  obtain ⟨hstore, hγ, hw, ht⟩ := hinv
  obtain ⟨⟨row, hopen⟩, f, act, hf, hact, hsubmitted⟩ := id hγ
  obtain ⟨-, -, hfolder⟩ := hstore.folders _ f hf
  obtain ⟨⟨fixtures, hadded⟩, t, hfound⟩ :=
    hact.written hsubmitted hstore ht hf hw submittedAt
  have hmove : CaseMove settings a.caseId runId l s f row (.outcome a.actionId)
      (.submitted runId a none submittedAt) false _ { s with fixtures := fixtures } _
      (row.ended .succeeded 0 0 none) := .verify hact rfl hsubmitted hadded
  have hnew := hmove.folderInv hfolder hf hγ
  have haction := updateActionState_open (s := { s with fixtures := fixtures }) hact hfolder hf
    (ActionRow.update_verified s.now hsubmitted)
  have hchange := changeCase_ok
    (x := (l.setFolder a.caseId { f with actions := [act.verified s.now] },
      { s with fixtures := fixtures }))
    (u := Service.closing .ticketCreated "LOGISTICS_TICKET_CREATED_AND_VERIFIED")
    (ConversationStore.setFolder_self ..) (by simp [hact.state]) hnew.closing hnew.budget
  refine ⟨_, _, ?_, .change hf hopen.stored hmove, hopen.known hstore⟩
  rw [Service.verifyTicket, Transaction.bind_ok rfl]
  simp only [hadded]
  rw [Transaction.bind_ok rfl, hfound]
  refine (Transaction.bind_ok haction).trans ((Transaction.bind_ok
    ((Transaction.bind_ok hchange).trans (succeedRun_ok { hopen with }))).trans ?_)
  rw [ConversationStore.setFolder_putCase]
  rfl

/-- `_record_scripted_action_fault`. -/
theorem recordScriptedActionFault_runs {a : Service.TicketAction} {fault : ActionFixtureFault}
    {submittedAt : Instant} :
    Runs (machine settings k) (fun r γ' _ => Phase.Ended (.ok r) γ') E
      (Service.recordScriptedActionFault a runId fault)
      (.submitted runId a (some fault) submittedAt) l := by
  refine Leads.next (Runs.transaction_ok (P := Leads runId _) fun s hinv => ?_) fun _ l₁ h₁ =>
    Leads.next (emit_tell .settled rfl rfl (by simp) (by simp) (by simp) h₁) fun _ l₂ h₂ =>
    Leads.next (emit_tell .reported rfl rfl (by simp) ?_ (by simp) h₂) fun _ l₃ h₃ =>
    Leads.next (emitRunSucceeded_runs h₃) fun _ l₄ h₄ => ?_
  · obtain ⟨l', ht, hmove, hknown⟩ := recordFault_ok hinv
    exact ⟨(), _, l', s, ht, hmove, rfl, hknown⟩
  · dsimp only
    split <;> simp
  · split
    · exact Leads.next (emitCase_tells .reported (by simp) h₄) fun _ l₅ _ => Runs.pure .reported
    · exact Runs.pure .reported

/-- `_submit_and_verify_ticket_action`. -/
theorem submitAndVerify_runs {a : Service.TicketAction} :
    Runs (machine settings k) (fun r γ' _ => Phase.Ended (.ok r) γ') Failed
      (Service.submitAndVerify settings a runId) (.executing runId a .running) l := by
  refine Runs.bind (submitStep_runs.mono ?_ fun _ _ _ he => Or.inr he)
  rintro ⟨fault, submittedAt⟩ γ₁ l₁ ⟨rfl, h₁⟩
  refine Leads.next (emit_note (Or.inr rfl) (by simp) (by simp) h₁) fun _ l₂ _ => ?_
  cases fault with
  | some fault => exact recordScriptedActionFault_runs
  | none =>
    refine Runs.bind (Runs.transaction_ok fun s hinv => ?_)
    obtain ⟨l₃, s', ht, hmove, h₃⟩ := verifyTicket_ok hinv
    refine ⟨true, _, l₃, s', ht, hmove, ?_⟩
    exact Leads.next (emit_tell .settled rfl rfl (by simp) (by simp) (by simp) h₃) fun _ l₄ h₄ =>
      Leads.next (emitCase_tells .reported (by simp) h₄) fun _ l₅ h₅ =>
      Leads.next (emitRunSucceeded_runs h₅) fun _ l₆ h₆ =>
      Leads.next (emitCase_tells .reported (by simp) h₆) fun _ _ _ => Runs.pure .reported

/-! ### Confirming and declining -/

/-- The run of a confirmation or a decline that was refused fails. -/
theorem refuseRun_runs {failureCode code : String} (hcode : failureCode ≠ "") :
    Runs (machine settings k) P Failed
      (Service.refuseRun (α := α) runId caseId failureCode code)
      (.reviewing runId proposalId .running) l :=
  Leads.next (failRun_refuses (.reviewing proposalId) hcode (by simp)) fun _ _ _ =>
    Runs.throw (Or.inl ⟨rfl, rfl⟩)

/-- `confirm_proposal`. -/
theorem confirmProposal_runs {version : Nat} :
    Runs (machine settings k) (fun r γ' _ => Phase.Ended (.ok r) γ') Failed
      (Service.confirmProposal settings k proposalId version) .idle l := by
  refine Runs.bind (createActionRun_runs.mono ?_ fun _ _ _ he => he)
  rintro runId γ₁ l₁ ⟨rfl, -⟩
  refine Runs.bind (reviewConfirmation_runs.mono ?_ fun _ _ _ he => he)
  rintro verdict γ₂ l₂ ⟨h₂, hverdict⟩
  cases verdict with
  | rejected code =>
    obtain rfl := hverdict
    simp only
    split
    · exact Leads.next (emitCase_notes (by simp) h₂) fun _ _ _ => refuseRun_runs (by decide)
    · exact refuseRun_runs (by decide)
  | duplicate =>
    obtain rfl := hverdict
    exact refuseRun_runs (by decide)
  | invalidated =>
    obtain rfl := hverdict
    exact Leads.next (emitCase_notes (by simp) h₂) fun _ _ _ => refuseRun_runs (by decide)
  | confirmed a =>
    obtain ⟨rfl, howner⟩ := hverdict
    exact Leads.next (emitCase_tells (.executing runId a howner) (by simp) h₂) fun _ _ _ =>
      submitAndVerify_runs

/-- `decline_proposal`. -/
theorem declineProposal_runs {version : Nat} :
    Runs (machine settings k) (fun r γ' _ => Phase.Ended (.ok r) γ') Failed
      (Service.declineProposal k proposalId version) .idle l := by
  refine Runs.bind (createActionRun_runs.mono ?_ fun _ _ _ he => he)
  rintro runId γ₁ l₁ ⟨rfl, -⟩
  refine Runs.bind (reviewDecline_runs.mono ?_ fun _ _ _ he => he)
  rintro refused γ₂ l₂ ⟨h₂, rfl⟩
  cases refused with
  | some code =>
    simp only [reduceCtorEq, if_false]
    split
    · exact Leads.next (emitCase_notes (by simp) h₂) fun _ _ _ => refuseRun_runs (by decide)
    · exact refuseRun_runs (by decide)
  | none =>
    exact Leads.next (emitCase_tells .settled (by simp) h₂) fun _ l₃ h₃ =>
      Leads.next (Leads.next (emit_tell .reported rfl rfl (by simp) (by simp) (by simp) h₃)
        fun _ _ h => emitRunSucceeded_runs h) fun _ l₄ h₄ =>
      Leads.next (emitCase_tells .reported (by simp) h₄) fun _ _ _ => Runs.pure .reported

end AfterSales
