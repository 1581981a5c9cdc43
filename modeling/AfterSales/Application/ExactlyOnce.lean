import AfterSales.Application.RunLifecycle
import AfterSales.Application.StepEffects

/-! One action and one ticket for a proposal, whatever is retried.

    The action of a case keeps its identity from its confirmation on, a ticket is the write of the
    action of its case, and the table refuses a second ticket of an action. What a proposal offers
    is what its case is about for as long as it may be confirmed, and after that. -/

set_option linter.unusedSectionVars false

namespace AfterSales
open Interleave Repository

variable [PolicyDigest] [ProofDigest] [ResultDigest] [IdText] [TraceVolume] [FactDigest]
  [CaseFolding] [EvidenceDigest] [MessageRedaction]

variable {settings : Settings} {k : String} {l : ConversationStore} {s : SharedState}
  {label : Label} {γ γ' : Phase} {x y : ServiceState} {c : RowId} {f f' : CaseFolder}
  {assumes : String → Label → ServiceState → Prop} {g g' : ServiceConfig}

/-! ### What a proposal offers -/

/-- The write that a proposal offers is the one its case is about. -/
structure Offers (p : ProposalRow) (row : CaseRow) : Prop where
  orderId : p.executionParameters.orderId = row.authorizedOrderId
  issueType : p.executionParameters.issueType = row.canonicalIssueType
  targetShipmentId : p.executionParameters.targetShipmentId = row.targetShipmentId

/-- The proposals of a folder that may be confirmed, or were, offer what the case is about. -/
def AllOffer (f : CaseFolder) : Prop := ∀ p ∈ f.proposals, ¬ p.Dropped → Offers p f.row

theorem Offers.of_row {p : ProposalRow} {row row' : CaseRow} (h : Offers p row)
    (horder : row'.authorizedOrderId = row.authorizedOrderId)
    (hissue : row'.canonicalIssueType = row.canonicalIssueType)
    (htarget : row'.targetShipmentId = row.targetShipmentId) : Offers p row' :=
  ⟨h.orderId.trans horder.symm, h.issueType.trans hissue.symm,
    h.targetShipmentId.trans htarget.symm⟩

/-- An update that names no package leaves what a case is about. -/
theorem AllOffer.updated {u : CaseUpdate} (h : AllOffer f) (hu : u.targetShipmentId = none) :
    AllOffer (f.updated u) := fun p hp hnot =>
  (h p hp hnot).of_row rfl rfl (by simp [CaseFolder.updated, CaseRow.updated, hu])

/-- Where every proposal was dropped nothing is offered. -/
theorem AllOffer.of_dropped (h : ∀ p ∈ f.proposals, p.Dropped) : AllOffer f :=
  fun p hp hnot => absurd (h p hp) hnot

/-- A case over which a pass is made offers nothing. -/
theorem FolderInv.dropped_of_pass (h : FolderInv l c f) (hstate : f.row.caseState ∈ passStates) :
    ∀ p ∈ f.proposals, p.Dropped := by
  cases h.stage with
  | plain state pointer dropped actions => exact dropped
  | offered earlier p state =>
    rw [state] at hstate
    simp [passStates] at hstate
  | acting earlier p a states =>
    simp only [actionStages, List.mem_cons, Prod.mk.injEq, List.not_mem_nil, or_false] at states
    simp only [passStates, List.mem_cons, List.not_mem_nil, or_false] at hstate
    rcases hstate with e | e <;> simp [e] at states

/-- The last proposal of a folder, after its state changed. -/
theorem AllOffer.resolved {earlier : List ProposalRow} {p : ProposalRow} {q : ProposalState}
    (h : AllOffer f) (hlast : f.proposals = earlier ++ [p])
    (hpending : p.proposalState = .pendingConfirmation) : AllOffer (f.resolved earlier p q) := by
  have hp : Offers p f.row :=
    h p (hlast ▸ List.mem_append_right _ (List.mem_singleton_self p)) fun hd => hd.1 hpending
  intro p' hp' hnot
  rcases List.mem_append.mp hp' with hmem | hmem
  · exact (h p' (hlast ▸ List.mem_append_left _ hmem) hnot).of_row rfl rfl rfl
  · rw [List.mem_singleton.mp hmem]
    exact ⟨hp.orderId, hp.issueType, hp.targetShipmentId⟩

theorem CaseMove.allOffer {runId : RowId} {row row' : RunRow} {drawn : Bool} {s' : SharedState}
    (h : CaseMove settings c runId l s f row label γ drawn γ' s' f' row') (hinv : FolderInv l c f)
    (hf : l.folders c = some f) (hγ : γ.Inv l) (hoffer : AllOffer f) : AllOffer f' := by
  have hpass : ∀ {g : CaseFolder}, l.folders c = some g → g.row.caseState ∈ passStates →
      ∀ p ∈ f.proposals, p.Dropped := by
    intro g hg hstate
    rw [hf] at hg
    obtain rfl := Option.some.inj hg
    exact hinv.dropped_of_pass hstate
  cases h with
  | park | close | wait | ask | askPackage | closeAtLimit => exact hoffer.updated rfl
  | @propose pass output binding snapshot decision bound stored =>
    obtain ⟨-, ⟨g, hg, hstate, -⟩, -⟩ := hγ
    intro p hp hnot
    rcases List.mem_append.mp hp with hmem | hmem
    · exact absurd (hpass hg hstate p hmem) hnot
    · rw [List.mem_singleton.mp hmem]
      exact ⟨rfl, rfl, rfl⟩
  | revise =>
    obtain ⟨-, ⟨g, hg, hstate, -⟩, -⟩ := hγ
    exact .of_dropped (hpass hg hstate)
  | resume =>
    obtain ⟨-, ⟨g, hg, hstate, -⟩, -⟩ := hγ
    exact .of_dropped (hpass hg (by simp [passStates, hstate]))
  | drop last pending => exact (hoffer.resolved last pending).updated rfl
  | confirm last pending => exact (hoffer.resolved last pending).updated rfl
  | decline last pending => exact (hoffer.resolved last pending).updated rfl
  | submit | submitFaulted => exact hoffer
  | fault => exact hoffer.updated (by unfold Service.faultedCase; split <;> rfl)
  | verify => exact hoffer.updated rfl

theorem FolderMove.allOffer {o : Option CaseFolder}
    (h : FolderMove settings k l s c label γ γ' o (some f')) (hinv : StoreInv k l)
    (ho : l.folders c = o) (hγ : γ.Inv l) (hoffer : ∀ f, o = some f → AllOffer f) :
    AllOffer f' := by
  cases h with
  | same => exact hoffer f' rfl
  | opened => exact .of_dropped (by simp)
  | facts facts step =>
    intro p hp hnot
    rw [step.proposals] at hp
    exact step.row ▸ hoffer _ rfl p hp hnot
  | explored =>
    have hoffer := hoffer _ rfl
    exact fun p hp => hoffer p hp
  | retry | retryAction => exact (hoffer _ rfl).updated rfl
  | change run move =>
    exact move.allOffer (hinv.folders _ _ ho).2.2 ho hγ (hoffer _ rfl)

/-- All that may be confirmed, or was, is what its case is about. -/
theorem allOffer_preserved (settings : Settings) (assumes : String → Label → ServiceState → Prop) :
    Preserved (machine settings) SharedState.Drifts assumes
      fun _ _ l _ => ∀ c f, l.folders c = some f → AllOffer f := by
  refine Preserved.of_own ?_ fun _ _ h => h
  intro k label γ γ' x y hinv hJ _ hmove c f' hf'
  have hfolder := Move.folderMove hmove hinv.1 c
  rw [hf'] at hfolder
  exact hfolder.allOffer hinv.1 rfl hinv.2.1 fun f hf => hJ c f hf

/-! ### Identities -/

/-- An action with the identity of another one. -/
structure SameAction (a a' : ActionRow) : Prop where
  actionId : a'.actionId = a.actionId
  proposalId : a'.proposalId = a.proposalId
  idempotencyKey : a'.idempotencyKey = a.idempotencyKey

theorem SameAction.rfl' (a : ActionRow) : SameAction a a := ⟨rfl, rfl, rfl⟩

theorem SameAction.trans {a b d : ActionRow} (h : SameAction a b) (h' : SameAction b d) :
    SameAction a d :=
  ⟨h'.actionId.trans h.actionId, h'.proposalId.trans h.proposalId,
    h'.idempotencyKey.trans h.idempotencyKey⟩

/-- A folder with a pending proposal has no action yet. -/
theorem FolderInv.no_action {earlier : List ProposalRow} {p : ProposalRow} (h : FolderInv l c f)
    (hlast : f.proposals = earlier ++ [p]) (hpending : p.proposalState = .pendingConfirmation) :
    f.actions = [] := by
  cases h.stage with
  | plain state pointer dropped actions => exact actions
  | offered _ _ _ _ _ _ _ actions => exact actions
  | acting earlier' p' a states pointer proposals dropped confirmed =>
    rw [hlast] at proposals
    obtain rfl : p = p' := List.singleton_inj.mp (List.append_inj_right' proposals rfl)
    rw [hpending] at confirmed
    cases confirmed

/-- A step keeps the identity of the actions of a folder. -/
theorem FolderMove.keeps_action {o o' : Option CaseFolder} {a : ActionRow}
    (h : FolderMove settings k l s c label γ γ' o o') (hinv : StoreInv k l)
    (ho : l.folders c = o) (hf : o = some f) (ha : a ∈ f.actions) :
    ∃ f' a', o' = some f' ∧ a' ∈ f'.actions ∧ SameAction a a' := by
  subst hf
  have hkeep : ∀ {act act' : ActionRow} {f' : CaseFolder}, f.actions = [act] →
      f'.actions = [act'] → SameAction act act' →
      ∃ f'' a', some f' = some f'' ∧ a' ∈ f''.actions ∧ SameAction a a' := by
    intro act act' f' hold hnew hsame
    rw [hold, List.mem_singleton] at ha
    exact ⟨f', act', rfl, by simp [hnew], ha ▸ hsame⟩
  cases h with
  | same => exact ⟨f, a, rfl, ha, .rfl' a⟩
  | facts facts step => exact ⟨_, a, rfl, step.actions ▸ ha, .rfl' a⟩
  | explored | retry | retryAction => exact ⟨_, a, rfl, ha, .rfl' a⟩
  | change run move =>
    cases move with
    | confirm last pending =>
      rw [(hinv.folders _ _ ho).2.2.no_action last pending] at ha
      cases ha
    | submit open_ | submitFaulted open_ | fault open_ | verify open_ =>
      exact hkeep open_.actions rfl ⟨rfl, rfl, rfl⟩
    | _ => exact ⟨_, a, rfl, ha, .rfl' a⟩

/-- An action keeps its identity for as long as the service runs. -/
theorem action_kept (hreach : ServiceReaches settings assumes g)
    (hlater : Interleave.Reaches (Request.program settings) SharedState.Drifts assumes g g')
    {a : ActionRow} (hf : (g.stores k).folders c = some f) (ha : a ∈ f.actions) :
    ∃ f' a', (g'.stores k).folders c = some f' ∧ a' ∈ f'.actions ∧ SameAction a a' := by
  have keeps : Preserved (machine settings) SharedState.Drifts assumes fun j _ l _ =>
      j = k → ∃ f' a', l.folders c = some f' ∧ a' ∈ f'.actions ∧ SameAction a a' := by
    refine Preserved.of_own ?_ fun _ _ h => h
    intro j label γ γ' x y hinv hJ _ hmove hj
    subst hj
    obtain ⟨f', a', hf', ha', hsame⟩ := hJ rfl
    obtain ⟨f'', a'', hf'', ha'', hsame'⟩ :=
      (Move.folderMove hmove hinv.1 c).keeps_action hinv.1 rfl hf' ha'
    exact ⟨f'', a'', hf'', ha'', hsame.trans hsame'⟩
  have hnow : Simulated (machine settings) (fun j _ l _ =>
      j = k → ∃ f' a', l.folders c = some f' ∧ a' ∈ f'.actions ∧ SameAction a a') g := by
    intro j
    obtain ⟨γ, hinv, -, hphase⟩ := hreach.simulated (machine_preserved settings assumes)
      (fun _ h₀ k => h₀.inv k) j
    exact ⟨γ, hinv, fun hj => ⟨f, a, hj ▸ hf, ha, .rfl' a⟩, hphase⟩
  obtain ⟨γ, -, h, -⟩ := hlater.simulated (fun k r l s _ => Request.follows settings k r l)
    (machine_preserved settings assumes) keeps hnow k
  exact h rfl

/-! ### Tickets -/

/-- Elements that are told apart by a key on which those counted agree. -/
theorem countP_le_one {α β : Type} {key : α → β} {p : α → Bool} {rows : List α}
    (hnodup : (rows.map key).Nodup)
    (hsame : ∀ a ∈ rows, ∀ b ∈ rows, p a = true → p b = true → key a = key b) :
    rows.countP p ≤ 1 := by
  induction rows with
  | nil => simp
  | cons a rows ih =>
    rw [List.map_cons, List.nodup_cons] at hnodup
    have hrest := ih hnodup.2 fun b hb d hd =>
      hsame b (List.mem_cons_of_mem a hb) d (List.mem_cons_of_mem a hd)
    by_cases ha : p a = true
    · have hnone : rows.countP p = 0 := by
        rw [List.countP_eq_zero]
        intro b hb hpb
        have hkey := hsame b (List.mem_cons_of_mem a hb) a List.mem_cons_self hpb ha
        exact hnodup.1 (hkey ▸ List.mem_map_of_mem hb)
      rw [List.countP_cons_of_pos ha, hnone]
    · rw [List.countP_cons_of_neg ha]
      exact hrest

/-- No two tickets of one action. -/
def TicketsApart (s : SharedState) : Prop := (s.tickets.map (·.actionId)).Nodup

theorem Move.ticketsApart (h : Move settings k label γ x γ' y) (hapart : TicketsApart x.2) :
    TicketsApart y.2 := by
  rcases h.tickets with hsame | ⟨runId, a, -, -, hwritten⟩
  · rw [TicketsApart, hsame]
    exact hapart
  · rw [TicketsApart, hwritten.written, List.map_append, List.nodup_append]
    refine ⟨hapart, List.nodup_singleton _, ?_⟩
    intro id hid id' hid' heq
    obtain ⟨t, ht, rfl⟩ := List.mem_map.mp hid
    have haccepted := hwritten.accepted
    rw [ticketRefused, List.any_eq_false] at haccepted
    refine haccepted t ht ?_
    rw [List.mem_singleton.mp hid'] at heq
    simp [heq]

theorem ticketsApart_preserved (settings : Settings)
    (assumes : String → Label → ServiceState → Prop) :
    Preserved (machine settings) SharedState.Drifts assumes fun _ _ _ s => TicketsApart s where
  own _ h _ hmove := Move.ticketsApart hmove h
  other _ _ _ _ h _ hmove := Move.ticketsApart hmove h
  moves hdrift _ h := by
    rw [TicketsApart, hdrift.tickets]
    exact h
  ended _ _ h := h

/-! ### Submissions -/

/-- What is submitted: the action of a case that is ready, or failed and may be tried again. A
    ticket that is written carries its identity. -/
structure Submits (x y : ServiceState) (actionId : ActionId) (c : RowId) (f : CaseFolder)
    (a : ActionRow) : Prop where
  folder : x.1.folders c = some f
  action : f.actions = [a]
  actionId : a.actionId = actionId
  due : a.actionState = .ready ∨ a.actionState = .failedRetryable
  tickets : y.2.tickets = x.2.tickets ∨ ∃ t, y.2.tickets = x.2.tickets ++ [t] ∧
    t.actionId = a.actionId ∧ t.idempotencyKey = a.idempotencyKey

theorem Move.submits {actionId : ActionId} (h : Move settings k (.submit actionId) γ x γ' y)
    (hγ : γ.Inv x.1) : ∃ c f a, Submits x y actionId c f a := by
  cases h with
  | look kind => cases kind
  | hold kind => rcases kind with kind | kind <;> cases kind
  | load kind => rcases kind with kind | kind <;> cases kind
  | facts kind => rcases kind with kind | kind | kind <;> cases kind
  | strand clear refused =>
    obtain ⟨-, f, a, hf, hopen, hdue⟩ := hγ
    exact ⟨_, f, a, hf, hopen.actions, hopen.actionId.symm, hdue, .inl rfl⟩
  | change folder run move =>
    cases move with
    | drop last pending owner why => cases why
    | submit open_ owner due clear accepted =>
      exact ⟨_, _, _, folder, open_.actions, open_.actionId.symm, due,
        .inr ⟨_, rfl, open_.actionId, open_.idempotencyKey⟩⟩
    | submitFaulted open_ owner due scripted =>
      exact ⟨_, _, _, folder, open_.actions, open_.actionId.symm, due, .inl rfl⟩

/-! ### Exactly once -/

/-- The ticket is the one write of a confirmed proposal and its action. -/
structure WriteOf (g : ServiceConfig) (t : TicketRow) (f : CaseFolder) (p : ProposalRow)
    (a : ActionRow) : Prop where
  folder : (g.stores t.caseId.conversationId).folders t.caseId = some f
  proposal : p ∈ f.proposals
  proposalId : p.proposalId = t.actionId.identity.proposalId
  confirmed : p.proposalState = .confirmed
  action : a ∈ f.actions
  actionOf : a.proposalId = p.proposalId
  actionState : a.actionState = .submitted ∨ a.actionState = .succeeded
  actionId : t.actionId = a.actionId
  idempotencyKey : t.idempotencyKey = a.idempotencyKey
  orderId : t.authorizedOrderId = p.executionParameters.orderId
  issueType : t.issueType = p.executionParameters.issueType
  targetShipmentId : t.targetShipmentId = p.executionParameters.targetShipmentId

/-- Each proposal has one action and one ticket at most, and every ticket is a write that was
    confirmed. -/
structure ExactlyOnce (settings : Settings) (g : ServiceConfig) : Prop where
  actions : ∀ k c f, (g.stores k).folders c = some f → ∀ p ∈ f.proposals,
    f.actions.countP (·.proposalId = p.proposalId) ≤ 1
  tickets : ∀ proposalId : ProposalId,
    g.shared.tickets.countP (·.actionId.identity.proposalId = proposalId) ≤ 1
  written : ∀ t ∈ g.shared.tickets, ∃ f p a, WriteOf g t f p a
  unconfirmed : ∀ k c f, (g.stores k).folders c = some f → ∀ p ∈ f.proposals,
    p.proposalState ≠ .confirmed →
    ∀ t ∈ g.shared.tickets, t.actionId.identity.proposalId ≠ p.proposalId
  unwritten : ∀ k c f, (g.stores k).folders c = some f → ∀ a ∈ f.actions,
    a.actionState ≠ .submitted → a.actionState ≠ .succeeded →
    ∀ t ∈ g.shared.tickets, t.actionId ≠ a.actionId
  submits : ∀ k call actionId update next, g.calls k = some call →
    call.program = .atom (.submit actionId) update next →
    ∃ c f a, Submits (g.stores k, g.shared) (update (g.stores k, g.shared)) actionId c f a
  kept : ∀ g', Interleave.Reaches (Request.program settings) SharedState.Drifts
      (fun _ _ _ => True) g g' →
    ∀ k c f a, (g.stores k).folders c = some f → a ∈ f.actions →
    ∃ f' a', (g'.stores k).folders c = some f' ∧ a' ∈ f'.actions ∧ SameAction a a'

section Reached

variable (hreach : ServiceReaches settings assumes g)

/-- Every conversation of a service that was reached is in order. -/
theorem ServiceReaches.inv (hreach : ServiceReaches settings assumes g) (k : String) :
    StoreInv k (g.stores k) ∧ TicketInv k (g.stores k) g.shared := by
  obtain ⟨γ, hinv, -, -⟩ := hreach.simulated (machine_preserved settings assumes)
    (fun _ h₀ k => h₀.inv k) k
  exact ⟨hinv.1, hinv.2.2.2⟩

theorem ServiceReaches.allOffer (hreach : ServiceReaches settings assumes g) {k : String}
    (hf : (g.stores k).folders c = some f) : AllOffer f := by
  have hfresh : ∀ g₀ : ServiceConfig, ServiceConfig.Fresh g₀ → ∀ k c f,
      (g₀.stores k).folders c = some f → AllOffer f := by
    intro g₀ h₀ k c f hf
    rw [h₀.folders_eq_none] at hf
    cases hf
  obtain ⟨γ, -, hJ, -⟩ := hreach.simulated (allOffer_preserved settings assumes) hfresh k
  exact hJ c f hf

theorem ServiceReaches.ticketsApart (hreach : ServiceReaches settings assumes g) :
    TicketsApart g.shared := by
  have hfresh : ∀ g₀ : ServiceConfig, ServiceConfig.Fresh g₀ → String →
      TicketsApart g₀.shared := by
    intro g₀ h₀ _
    rw [TicketsApart, h₀.tickets]
    exact List.nodup_nil
  obtain ⟨γ, -, hJ, -⟩ := hreach.simulated (ticketsApart_preserved settings assumes) hfresh ""
  exact hJ

/-- Every ticket is a write. -/
theorem ServiceReaches.writeOf (hreach : ServiceReaches settings assumes g) {t : TicketRow}
    (ht : t ∈ g.shared.tickets) : ∃ f p a, WriteOf g t f p a ∧ f.actions = [a] := by
  obtain ⟨hstore, htickets⟩ := hreach.inv t.caseId.conversationId
  obtain ⟨f, a, hf, hof⟩ := htickets.own t ht rfl
  have hfolder := (hstore.folders _ f hf).2.2
  obtain ⟨earlier, p, -, -, hproposals, -, hconfirmed, hexecutes⟩ :=
    hfolder.stage.of_action hof.actions
  have hp : p ∈ f.proposals := hproposals ▸ List.mem_append_right _ (List.mem_singleton_self p)
  have hoffers := hreach.allOffer hf p hp fun hdropped => hdropped.2 hconfirmed
  refine ⟨f, p, a, ?_, hof.actions⟩
  exact
    { folder := hf
      proposal := hp
      proposalId := by
        rw [hof.actionId, hexecutes.actionId]
        rfl
      confirmed := hconfirmed
      action := by simp [hof.actions]
      actionOf := hexecutes.proposalId
      actionState := hof.written.elim .inr fun h => .inl h.1
      actionId := hof.actionId
      idempotencyKey := hof.idempotencyKey
      orderId := hof.authorizedOrderId.trans hoffers.orderId.symm
      issueType := hof.issueType.trans hoffers.issueType.symm
      targetShipmentId := hof.targetShipmentId.trans hoffers.targetShipmentId.symm }

/-- The folder of a proposal that a ticket was written for. -/
theorem ServiceReaches.folder_of_ticket (hreach : ServiceReaches settings assumes g) {k : String}
    {t : TicketRow} (ht : t ∈ g.shared.tickets) (hf : (g.stores k).folders c = some f)
    (hcase : t.actionId.identity.proposalId.caseId = c) :
    (g.stores t.caseId.conversationId).folders t.caseId = some f := by
  obtain ⟨hstore, htickets⟩ := hreach.inv k
  have hc : t.caseId = c := ((htickets.ids t ht).2.2.symm).trans hcase
  rw [hc, (hstore.folders c f hf).1]
  exact hf

end Reached

/-- Exactly once, in every state of the service. -/
theorem exactly_once (hreach : ServiceReaches settings (fun _ _ _ => True) g) :
    ExactlyOnce settings g where
  actions := by
    intro k c f hf p hp
    refine List.countP_le_length.trans ?_
    cases ((hreach.inv k).1.folders c f hf).2.2.stage with
    | plain _ _ _ actions | offered _ _ _ _ _ _ _ actions => simp [actions]
    | acting _ _ _ _ _ _ _ _ actions => simp [actions]
  tickets := by
    intro proposalId
    have hsame : ∀ t ∈ g.shared.tickets, ∀ t' ∈ g.shared.tickets,
        t.actionId.identity.proposalId = proposalId →
        t'.actionId.identity.proposalId = proposalId → t.actionId = t'.actionId := by
      intro t ht t' ht' h h'
      obtain ⟨f, p, a, hwrite, hactions⟩ := hreach.writeOf ht
      obtain ⟨f', p', a', hwrite', hactions'⟩ := hreach.writeOf ht'
      have hids := ((hreach.inv "").2.ids t ht).2.2
      have hids' := ((hreach.inv "").2.ids t' ht').2.2
      have hcase : t.caseId = t'.caseId := by rw [← hids, ← hids', h, h']
      have hfolder := hwrite.folder
      rw [hcase, hwrite'.folder] at hfolder
      obtain rfl := Option.some.inj hfolder
      rw [hactions] at hactions'
      obtain rfl := List.singleton_inj.mp hactions'
      rw [hwrite.actionId, hwrite'.actionId]
    refine countP_le_one hreach.ticketsApart fun t ht t' ht' h h' => ?_
    exact hsame t ht t' ht' (of_decide_eq_true h) (of_decide_eq_true h')
  written t ht := by
    obtain ⟨f, p, a, hwrite, -⟩ := hreach.writeOf ht
    exact ⟨f, p, a, hwrite⟩
  unconfirmed := by
    intro k c f hf p hp hstate t ht hid
    have hfolder := ((hreach.inv k).1.folders c f hf).2.2
    have hcase : t.actionId.identity.proposalId.caseId = c :=
      hid ▸ (hfolder.proposalCase p hp).1
    obtain ⟨f', p', a', hwrite, -⟩ := hreach.writeOf ht
    have hsame := hreach.folder_of_ticket ht hf hcase
    rw [hwrite.folder] at hsame
    obtain rfl := Option.some.inj hsame
    have heq : p' = p := List.inj_on_of_nodup_map hfolder.proposalIds hwrite.proposal hp
      (hwrite.proposalId.trans hid)
    exact hstate (heq ▸ hwrite.confirmed)
  unwritten := by
    intro k c f hf a ha hsubmitted hsucceeded t ht hid
    have hfolder := ((hreach.inv k).1.folders c f hf).2.2
    have hactions : f.actions = [a] := by
      cases hfolder.stage with
      | plain _ _ _ actions | offered _ _ _ _ _ _ _ actions =>
        rw [actions] at ha
        cases ha
      | acting _ _ a' _ _ _ _ _ actions =>
        rw [actions, List.mem_singleton] at ha
        rw [actions, ha]
    obtain ⟨earlier, p, -, -, hproposals, -, -, hexecutes⟩ := hfolder.stage.of_action hactions
    have hcase : t.actionId.identity.proposalId.caseId = c := by
      rw [hid, hexecutes.actionId]
      exact (hfolder.proposalCase p (by simp [hproposals])).1
    obtain ⟨f', p', a', hwrite, hactions'⟩ := hreach.writeOf ht
    have hsame := hreach.folder_of_ticket ht hf hcase
    rw [hwrite.folder] at hsame
    obtain rfl := Option.some.inj hsame
    rw [hactions] at hactions'
    obtain rfl := List.singleton_inj.mp hactions'
    exact hwrite.actionState.elim hsubmitted hsucceeded
  submits := by
    intro k call actionId update next hcall hprogram
    obtain ⟨γ, γ', hinv, -, hmove⟩ := (hreach.simulated (machine_preserved settings _)
      fun _ h₀ k => h₀.inv k).due hcall hprogram
    exact Move.submits hmove hinv.2.1
  kept g' hlater k c f a hf ha := action_kept hreach hlater hf ha

end AfterSales

/-! ### A write that fails once and is repeated -/

namespace AfterSales.Session

section Repeated

attribute [local instance] PolicyDigest.bySource ProofDigest.byId ResultDigest.byName
  IdText.spelled FactDigest.byMessage CaseFolding.lower EvidenceDigest.byResults
  MessageRedaction.none TraceVolume.one

/-- A late parcel is reported, the proposal is confirmed, and its write is repeated. -/
def confirmedTwice : List Visit := [lateReport, confirmFirst "CONV-1", retryFirst "CONV-1"]

theorem confirmedTwice_once :
    let g := session demoSettings "CONV-1" "CUS-1" (demoShared failOnce) confirmedTwice
    g.shared.tickets.length = 1 ∧ ExactlyOnce demoSettings g := by
  refine ⟨?_, exactly_once
    (session_reaches (demoShared_fresh _) confirmedTwice fun _ _ => trivial)⟩
  decide +kernel

end Repeated

end AfterSales.Session
