import AfterSales.Application.ExactlyOnce
import AfterSales.Application.Lifecycles
import AfterSales.Lib.Growth

/-! What is recorded stays.

    Messages, events, tool calls and tickets are only appended. A proposal keeps what it offers, and
    once it is not pending nothing of it changes any more; so it is with an action that has come to
    an outcome, with a run that has ended, and with everything about a case that is closed. -/

set_option linter.unusedSectionVars false

namespace AfterSales
open Interleave Repository

variable [PolicyDigest] [ProofDigest] [ResultDigest] [IdText] [TraceVolume] [FactDigest]
  [CaseFolding] [EvidenceDigest] [MessageRedaction]

variable {settings : Settings} {k : String} {l l' : ConversationStore} {s s' : SharedState}
  {label : Label} {γ γ' : Phase} {x y : ServiceState} {c runId : RowId} {f f' : CaseFolder}
  {run run' : RunRow} {g g' : ServiceConfig} {assumes : String → Label → ServiceState → Prop}

/-! ### Records that are kept -/

/-- A message keeps its text and time; it may be bound to a case. -/
structure MessageStays (m m' : MessageRow) : Prop where
  messageId : m'.messageId = m.messageId
  content : m'.content = m.content
  createdAt : m'.createdAt = m.createdAt

/-- A proposal keeps all but its state, and that as soon as it is not pending. -/
structure ProposalStays (p p' : ProposalRow) : Prop where
  offer : p' = { p with
    proposalState := p'.proposalState
    supersededBy := p'.supersededBy }
  resolved : p.proposalState ≠ .pendingConfirmation → p' = p

/-- The states in which an action has come to its outcome. -/
def ActionState.outcomes : List ActionState := [.succeeded, .failedTerminal, .uncertain]

/-- An action keeps its identity, and everything once it has come to its outcome. -/
structure ActionStays (a a' : ActionRow) : Prop where
  identity : SameAction a a'
  outcome : a.actionState ∈ ActionState.outcomes → a' = a

/-- A run stays with its case, and is left alone once it has ended. -/
structure RunStays (run run' : RunRow) : Prop where
  caseId : ∀ c, run.caseId = some c → run'.caseId = some c
  ended : run.runState = .succeeded ∨ run.runState = .failed → run' = run

/-- What stays of the folder of a case. -/
structure FolderStays (f f' : CaseFolder) : Prop where
  customerId : f'.row.customerId = f.row.customerId
  authorizedOrderId : f'.row.authorizedOrderId = f.row.authorizedOrderId
  toolCalls : f.toolCalls <+: f'.toolCalls
  proposals : Grown ProposalStays f.proposals f'.proposals
  actions : Grown ActionStays f.actions f'.actions
  closed : f.row.caseState = .closed → f' = f

/-- What stays of the rows of a conversation. -/
structure RecordsStay (l l' : ConversationStore) : Prop where
  customerId : l'.customerId = l.customerId
  events : l.events <+: l'.events
  messages : Grown MessageStays l.messages l'.messages
  runs : ∀ r run, l.runs r = some run → ∃ run', l'.runs r = some run' ∧ RunStays run run'
  folders : ∀ c f, l.folders c = some f → ∃ f', l'.folders c = some f' ∧ FolderStays f f'

namespace MessageStays

theorem refl (m : MessageRow) : MessageStays m m := ⟨rfl, rfl, rfl⟩

theorem trans (m m' m'' : MessageRow) (h : MessageStays m m') (h' : MessageStays m' m'') :
    MessageStays m m'' :=
  ⟨h'.messageId.trans h.messageId, h'.content.trans h.content, h'.createdAt.trans h.createdAt⟩

end MessageStays

namespace ProposalStays

theorem refl (p : ProposalRow) : ProposalStays p p := ⟨rfl, fun _ => rfl⟩

theorem trans (p p' p'' : ProposalRow) (h : ProposalStays p p') (h' : ProposalStays p' p'') :
    ProposalStays p p'' := by
  refine ⟨?_, fun hresolved => ?_⟩
  · rw [h'.offer, h.offer]
  · obtain rfl := h.resolved hresolved
    exact h'.resolved hresolved

theorem moved {p : ProposalRow} {q : ProposalState}
    (hpending : p.proposalState = .pendingConfirmation) : ProposalStays p (p.moved q) :=
  ⟨rfl, fun hresolved => absurd hpending hresolved⟩

end ProposalStays

namespace ActionStays

theorem refl (a : ActionRow) : ActionStays a a := ⟨.rfl' a, fun _ => rfl⟩

theorem trans (a a' a'' : ActionRow) (h : ActionStays a a') (h' : ActionStays a' a'') :
    ActionStays a a'' := by
  refine ⟨h.identity.trans h'.identity, fun houtcome => ?_⟩
  obtain rfl := h.outcome houtcome
  exact h'.outcome houtcome

/-- The one action of a case that has not come to an outcome changes. -/
theorem one {act act' : ActionRow} (hactions : f.actions = [act]) (hsame : SameAction act act')
    (hstate : act.actionState ∉ ActionState.outcomes) : Grown ActionStays f.actions [act'] := by
  rw [hactions]
  exact .cons ⟨hsame, fun houtcome => absurd houtcome hstate⟩ (.nil _)

end ActionStays

namespace RunStays

theorem refl (run : RunRow) : RunStays run run := ⟨fun _ h => h, fun _ => rfl⟩

theorem trans {run'' : RunRow} (h : RunStays run run') (h' : RunStays run' run'') :
    RunStays run run'' := by
  refine ⟨fun c hc => h'.caseId c (h.caseId c hc), fun hended => ?_⟩
  obtain rfl := h.ended hended
  exact h'.ended hended

/-- A run that goes on may change. -/
theorem of_unfinished (hcase : run'.caseId = run.caseId ∨ run.caseId = none)
    (hstate : run.runState = .queued ∨ run.runState = .running) : RunStays run run' := by
  refine ⟨fun c hc => ?_, fun hended => ?_⟩
  · rcases hcase with h | h
    · exact h.trans hc
    · rw [h] at hc
      cases hc
  · rcases hstate with h | h <;> rcases hended with h' | h' <;> rw [h] at h' <;> cases h'

end RunStays

namespace FolderStays

theorem refl (f : CaseFolder) : FolderStays f f :=
  ⟨rfl, rfl, List.prefix_rfl, .refl .refl _, .refl .refl _, fun _ => rfl⟩

theorem trans {f'' : CaseFolder} (h : FolderStays f f') (h' : FolderStays f' f'') :
    FolderStays f f'' where
  customerId := h'.customerId.trans h.customerId
  authorizedOrderId := h'.authorizedOrderId.trans h.authorizedOrderId
  toolCalls := h.toolCalls.trans h'.toolCalls
  proposals := h.proposals.trans .trans h'.proposals
  actions := h.actions.trans .trans h'.actions
  closed hclosed := by
    obtain rfl := h.closed hclosed
    exact h'.closed hclosed

/-- A change of an open case that leaves its calls, proposals and actions alone. -/
theorem of_open (hopen : f.row.caseState ≠ .closed) (hcustomer : f'.row.customerId = f.row.customerId)
    (horder : f'.row.authorizedOrderId = f.row.authorizedOrderId)
    (hcalls : f'.toolCalls = f.toolCalls) (hproposals : Grown ProposalStays f.proposals f'.proposals)
    (hactions : Grown ActionStays f.actions f'.actions) : FolderStays f f' :=
  ⟨hcustomer, horder, hcalls ▸ List.prefix_rfl, hproposals, hactions,
    fun hclosed => absurd hclosed hopen⟩

end FolderStays

namespace RecordsStay

theorem refl (l : ConversationStore) : RecordsStay l l :=
  ⟨rfl, List.prefix_rfl, .refl .refl _, fun _ run hrun => ⟨run, hrun, .refl run⟩,
    fun _ f hf => ⟨f, hf, .refl f⟩⟩

theorem trans {l'' : ConversationStore} (h : RecordsStay l l') (h' : RecordsStay l' l'') :
    RecordsStay l l'' where
  customerId := h'.customerId.trans h.customerId
  events := h.events.trans h'.events
  messages := h.messages.trans .trans h'.messages
  runs r run hrun := by
    obtain ⟨run', hrun', hstays⟩ := h.runs r run hrun
    obtain ⟨run'', hrun'', hstays'⟩ := h'.runs r run' hrun'
    exact ⟨run'', hrun'', hstays.trans hstays'⟩
  folders c f hf := by
    obtain ⟨f', hf', hstays⟩ := h.folders c f hf
    obtain ⟨f'', hf'', hstays'⟩ := h'.folders c f' hf'
    exact ⟨f'', hf'', hstays.trans hstays'⟩

instance : IsPreorder ConversationStore RecordsStay where
  refl := refl
  trans _ _ _ h h' := h.trans h'

end RecordsStay

/-! ### One step -/

/-- A case that is executing has an action without an outcome, where it is to be submitted. -/
theorem ActionOpen.no_outcome {a : Service.TicketAction} {act : ActionRow} (_h : ActionOpen f a act)
    (hdue : act.actionState = .ready ∨ act.actionState = .failedRetryable ∨
      act.actionState = .submitted) : act.actionState ∉ ActionState.outcomes := by
  rcases hdue with h | h | h <;> simp [h, ActionState.outcomes]

theorem CaseMove.stays {drawn : Bool}
    (h : CaseMove settings c runId l s f run label γ drawn γ' s' f' run') (hinv : FolderInv l c f)
    (hf : l.folders c = some f) (hγ : γ.Inv l) : FolderStays f f' := by
  have hopen := h.isOpen hinv hf hγ
  have hproposals := Grown.refl ProposalStays.refl f.proposals
  have hactions := Grown.refl ActionStays.refl f.actions
  have hresolved : ∀ {earlier : List ProposalRow} {p : ProposalRow} {q : ProposalState},
      f.proposals = earlier ++ [p] → p.proposalState = .pendingConfirmation →
      Grown ProposalStays f.proposals (earlier ++ [p.moved q]) := by
    intro earlier p q hlast hpending
    rw [hlast]
    exact .last ProposalStays.refl earlier (.moved hpending)
  cases h with
  | park | close | wait | ask | revise | askPackage | closeAtLimit | resume =>
    exact .of_open hopen rfl rfl rfl hproposals hactions
  | propose => exact .of_open hopen rfl rfl rfl (.append ProposalStays.refl _ _) hactions
  | drop last pending | decline last pending =>
    exact .of_open hopen rfl rfl rfl (hresolved last pending) hactions
  | confirm last pending =>
    refine .of_open hopen rfl rfl rfl (hresolved last pending) ?_
    rw [hinv.no_action last pending]
    exact .nil _
  | submit open_ owner due | submitFaulted open_ owner due =>
    refine .of_open hopen rfl rfl rfl hproposals (ActionStays.one open_.actions ⟨rfl, rfl, rfl⟩ ?_)
    exact open_.no_outcome (due.imp_right .inl)
  | fault open_ owner submitted | verify open_ owner submitted =>
    refine .of_open hopen rfl rfl rfl hproposals (ActionStays.one open_.actions ⟨rfl, rfl, rfl⟩ ?_)
    exact open_.no_outcome (.inr (.inr submitted))

/-- Facts are changed, and reads are made, while a case is open. -/
theorem Phase.Facts.isOpen (h : γ.Facts c γ') (hf : l.folders c = some f) (hγ : γ.Inv l) :
    f.row.caseState ≠ .closed := by
  have hstored : ∀ {g : CaseFolder}, l.folders c = some g → f = g := fun hg =>
    Option.some.inj (hf.symm.trans hg)
  cases h with
  | replying =>
    obtain ⟨-, ⟨g, hg, hstate, -⟩, -⟩ := hγ
    rw [hstored hg, hstate]
    rintro ⟨⟩
  | working =>
    obtain ⟨-, ⟨g, hg, hstate⟩, -⟩ := hγ
    exact hstored hg ▸ (passStates_edges hstate).1
  | answered =>
    obtain ⟨-, ⟨g, hg, hstate, -⟩, -⟩ := hγ
    exact hstored hg ▸ (passStates_edges hstate).1

theorem FolderMove.stays {o : Option CaseFolder}
    (h : FolderMove settings k l s c label γ γ' (some f) o) (hinv : StoreInv k l)
    (hf : l.folders c = some f) (hγ : γ.Inv l) : ∃ f', o = some f' ∧ FolderStays f f' := by
  have hproposals := Grown.refl ProposalStays.refl f.proposals
  have hactions := Grown.refl ActionStays.refl f.actions
  cases h with
  | same => exact ⟨f, rfl, .refl f⟩
  | @facts _ _ _ _ f' facts step =>
    exact ⟨f', rfl, .of_open (facts.isOpen hf hγ) (by rw [step.row]) (by rw [step.row])
      step.toolCalls (step.proposals ▸ hproposals) (step.actions ▸ hactions)⟩
  | explored selector step =>
    obtain ⟨-, ⟨g, hg, hstate, -⟩, -⟩ := hγ
    obtain rfl := Option.some.inj (hf.symm.trans hg)
    exact ⟨_, rfl, rfl, rfl, List.prefix_append .., hproposals, hactions, fun hclosed =>
      absurd hclosed (passStates_edges hstate).1⟩
  | retry state | retryAction state =>
    refine ⟨_, rfl, .of_open ?_ rfl rfl rfl hproposals hactions⟩
    rw [state]
    rintro ⟨⟩
  | change run move => exact ⟨_, rfl, move.stays (hinv.folders c f hf).2.2 hf hγ⟩

section Runs

/-- Runs of which one that goes on is changed. -/
theorem runs_stay_set (hruns : l'.runs = Function.update l.runs runId (some run'))
    (hrun : l.runs runId = some run) (hstays : RunStays run run') :
    ∀ r run, l.runs r = some run → ∃ run', l'.runs r = some run' ∧ RunStays run run' := by
  intro r row hrow
  by_cases e : r = runId
  · subst e
    obtain rfl := Option.some.inj (hrun.symm.trans hrow)
    exact ⟨run', by rw [hruns, Function.update_self], hstays⟩
  · exact ⟨row, by rw [hruns, Function.update_of_ne e, hrow], .refl row⟩

/-- Runs of which one is new. -/
theorem runs_stay_queued (hinv : StoreInv k l)
    (hruns : l'.runs = Function.update l.runs ⟨k, l.nextSerial⟩ (some run')) :
    ∀ r run, l.runs r = some run → ∃ run', l'.runs r = some run' ∧ RunStays run run' := by
  intro r row hrow
  have hne : r ≠ ⟨k, l.nextSerial⟩ := by
    rintro rfl
    exact absurd (hinv.runs _ _ hrow).1 (lt_irrefl _)
  exact ⟨row, by rw [hruns, Function.update_of_ne hne, hrow], .refl row⟩

/-- The run of a phase goes on. -/
theorem RunOpen.unfinished_of {co : Option RowId} {q : RunState}
    (h : ∃ row, RunOpen l runId co q row) (hrun : l.runs runId = some run) :
    run.caseId = co ∧ (run.runState = .queued ∨ run.runState = .running) := by
  obtain ⟨row, hopen⟩ := h
  obtain rfl := Option.some.inj (hopen.stored.symm.trans hrun)
  exact ⟨hopen.caseId, hopen.runState ▸ hopen.unfinished⟩

theorem CaseMove.runStays {drawn : Bool}
    (h : CaseMove settings c runId l s f run label γ drawn γ' s' f' run')
    (hrun : l.runs runId = some run) (hγ : γ.Inv l) : RunStays run run' := by
  cases h with
  | park | revise | resume | drop | confirm | submit | submitFaulted => exact .refl run
  | close | wait | ask | propose =>
    exact .of_unfinished (.inl rfl) (RunOpen.unfinished_of hγ.1 hrun).2
  | askPackage asking | closeAtLimit asking =>
    exact .of_unfinished (.inl rfl) (RunOpen.unfinished_of (asking.passing.run hγ).1 hrun).2
  | decline | fault | verify =>
    exact .of_unfinished (.inl rfl) (RunOpen.unfinished_of hγ.1 hrun).2

theorem Move.runsStay (h : Move settings k label γ x γ' y) (hinv : StoreInv k x.1)
    (hγ : γ.Inv x.1) :
    ∀ r run, x.1.runs r = some run → ∃ run', y.1.runs r = some run' ∧ RunStays run run' := by
  cases h with
  | receive | reply | review | retry | retryAction => exact runs_stay_queued hinv rfl
  | begin starts stored =>
    obtain ⟨co, hopen⟩ := starts.run hγ
    exact runs_stay_set rfl stored (.of_unfinished (.inl rfl) (RunOpen.unfinished_of hopen stored).2)
  | refuse refusable stored reason =>
    obtain ⟨co, hopen⟩ := refusable.run hγ
    exact runs_stay_set rfl stored (.of_unfinished (.inl rfl) (RunOpen.unfinished_of hopen stored).2)
  | fail stored reason | answer stored | evaluate stored =>
    exact runs_stay_set rfl stored
      (.of_unfinished (.inl rfl) (RunOpen.unfinished_of hγ.1 stored).2)
  | openCase customerId orderId issueType target stored =>
    obtain ⟨hcase, hstate⟩ := RunOpen.unfinished_of hγ.1 stored
    exact runs_stay_set rfl stored (.of_unfinished (.inr hcase) hstate)
  | @change label γ γ' l s s' caseId runId f f' run run' drawn folder stored move =>
    refine runs_stay_set ?_ stored (move.runStays stored hγ)
    cases drawn <;> rfl
  | _ => exact fun r run hrun => ⟨run, hrun, .refl run⟩

end Runs

/-- Every step leaves the records of its conversation where they are. -/
theorem Move.recordsStay (h : Move settings k label γ x γ' y) (hinv : StoreInv k x.1)
    (hγ : γ.Inv x.1) : RecordsStay x.1 y.1 where
  customerId := by
    cases h with
    | @change label γ γ' l s s' caseId runId f f' run run' drawn folder stored move =>
      cases drawn <;> rfl
    | _ => rfl
  events := by
    cases h with
    | note | tell | superstep | stumble | evaluate => exact List.prefix_append ..
    | @change label γ γ' l s s' caseId runId f f' run run' drawn folder stored move =>
      cases drawn <;> exact List.prefix_rfl
    | _ => exact List.prefix_rfl
  messages := by
    have hsame := Grown.refl MessageStays.refl x.1.messages
    cases h with
    | receive | reply => exact .append MessageStays.refl _ _
    | openCase =>
      refine .map _ fun m _ => ?_
      split
      · exact ⟨rfl, rfl, rfl⟩
      · exact .refl m
    | @change label γ γ' l s s' caseId runId f f' run run' drawn folder stored move =>
      cases drawn <;> exact hsame
    | _ => exact hsame
  runs := h.runsStay hinv hγ
  folders c f hf := by
    have hfolder := h.folderMove hinv c
    rw [hf] at hfolder
    exact hfolder.stays hinv hf hγ

/-- The tickets before are the first of the tickets after. -/
def TicketsStay (s s' : SharedState) : Prop := s.tickets <+: s'.tickets

instance : IsPreorder SharedState TicketsStay where
  refl _ := List.prefix_rfl
  trans _ _ _ h h' := List.IsPrefix.trans h h'

theorem Move.ticketsStay (h : Move settings k label γ x γ' y) : TicketsStay x.2 y.2 := by
  rcases h.tickets with hsame | ⟨_, _, -, -, hwritten⟩
  · rw [TicketsStay, hsame]
  · rw [TicketsStay, hwritten.written]
    exact List.prefix_append ..

/-! ### Whole runs -/

/-- What is recorded stays. From every state of the service on, whatever the calls of all
    conversations do: tickets, events, messages and tool calls are only appended; a proposal keeps
    what it offers, and everything once it is not pending; an action keeps its identity, and
    everything once it has come to its outcome; a run that has ended, and a case that is closed,
    never change again. -/
theorem records_stay (hreach : ServiceReaches settings assumes g)
    (hlater : Interleave.Reaches (Request.program settings) SharedState.Drifts assumes g g') :
    TicketsStay g.shared g'.shared ∧ ∀ k, RecordsStay (g.stores k) (g'.stores k) := by
  have hnow := hreach.simulated (machine_preserved settings assumes) fun _ h₀ k => h₀.inv k
  have hfollows : ∀ k r l s, (machine settings k).inv (machine settings k).idle l s →
      Follows (machine settings k) (fun a γ _ => (machine settings k).ended a γ)
        (Request.program settings k r) (machine settings k).idle l :=
    fun k r l _ _ => Request.follows settings k r l
  have hbase := machine_preserved settings assumes
  refine ⟨?_, fun k => ?_⟩
  · refine hlater.relates_shared (R := TicketsStay) hfollows hbase hbase hnow
      (fun _ _ hmove => Move.ticketsStay hmove) fun hdrift => ?_
    rw [TicketsStay, hdrift.tickets]
  · exact hlater.relates (R := RecordsStay) hfollows hbase hbase hnow
      fun hinv _ hmove => Move.recordsStay hmove hinv.1 hinv.2.1

/-- A session is gone on with. -/
theorem session_continues {customerId : String} {s : SharedState} (visits later : List Visit) :
    Interleave.Reaches (Request.program settings) SharedState.Drifts (fun _ _ _ => True)
      (session settings k customerId s visits)
      (session settings k customerId s (visits ++ later)) := by
  have hreach : Interleave.Reaches (Request.program settings) SharedState.Drifts
      (fun _ _ _ => True) (session settings k customerId s visits) _ :=
    Visit.reaches later (session_store visits) fun _ _ => trivial
  rw [session, session, List.foldl_append]
  simpa only [session, Function.update_idem] using hreach

end AfterSales

/-! ### A case that was closed, and the next one -/

namespace AfterSales.Session
open Interleave

section AuditTrail

attribute [local instance] PolicyDigest.bySource ProofDigest.byId ResultDigest.byName
  IdText.spelled FactDigest.byMessage CaseFolding.lower EvidenceDigest.byResults
  MessageRedaction.none TraceVolume.one

/-- The ticket of a case stays, and so does the case, when the next message opens another one. -/
theorem reportedAgain_stays :
    let visits := [lateReport, confirmFirst "CONV-1"]
    let g := session demoSettings "CONV-1" "CUS-1" (demoShared fun _ => []) visits
    let g' := session demoSettings "CONV-1" "CUS-1" (demoShared fun _ => []) (visits ++ [lateReport])
    g.shared.tickets.length = 1 ∧ (g'.stores "CONV-1").nextSerial > (g.stores "CONV-1").nextSerial ∧
      TicketsStay g.shared g'.shared ∧ ∀ k, RecordsStay (g.stores k) (g'.stores k) := by
  intro visits g g'
  refine ⟨by decide +kernel, by decide +kernel, ?_⟩
  exact records_stay (session_reaches (demoShared_fresh _) visits fun _ _ => trivial)
    (session_continues visits [lateReport])

end AuditTrail

end AfterSales.Session
