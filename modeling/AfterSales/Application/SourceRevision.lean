import AfterSales.Storage.Repository

/-! Source revisions across process restarts.

    The revision of the ticket tool counts the changes one process made to its ticket list. The
    count starts again with each process, the ticket rows do not: a started process loads them
    back, one change each. A stored result therefore still names its source only while a new
    process cannot count back up to a revision its predecessor gave to another list.

    Inside one process the count never repeats over two lists. Across a restart the invariant is
    that the revision of the earlier moment is behind the number of rows the next process loads, or
    equal to it over the same list. -/

namespace AfterSales

variable [IdText]

/-- The order of `list_tickets`. -/
def TicketRow.listedBefore (a b : TicketRow) : Prop :=
  a.createdAt < b.createdAt ∨
    a.createdAt = b.createdAt ∧ IdText.ticket a.ticketId ≤ IdText.ticket b.ticketId

instance : DecidableRel TicketRow.listedBefore := fun _ _ => inferInstanceAs (Decidable (_ ∨ _))

/-- The ticket `load_persisted_tickets` builds from a row. -/
def TicketRow.sourceTicket (row : TicketRow) : LogisticsTicket where
  ticketId := IdText.ticket row.ticketId
  orderId := row.authorizedOrderId
  issueType := row.issueType
  ticketStatus := "open"
  targetShipmentId := row.targetShipmentId
  createdAt := row.createdAt
  updatedAt := row.updatedAt

/-- The tickets of a process that serves the demo, and the rows that outlive it. -/
structure Deployment where
  store : FixtureStore
  tickets : List TicketRow
  serving : Bool
  ticketsKey : (tickets.map TicketRow.ticketId).Nodup

/-- What happens to the tickets of a deployment. -/
inductive TicketEvent where
  | addTicket (ticket : LogisticsTicket)
  | resetDynamicTickets
  | persist (ticket : TicketRow)
  | restart
  | loadPersistedTickets
  | resetDemo

/-- Adds tickets in turn; the `ValueError` of a refused one ends the loop. -/
def FixtureStore.addTickets (store : FixtureStore) : List LogisticsTicket → FixtureStore
  | [] => store
  | ticket :: rest =>
    match store.addTicket ticket with
    | none => store
    | some added => added.addTickets rest

omit [IdText] in
theorem ticketRefused_eq_false {tickets : List TicketRow} {ticket : TicketRow}
    (h : ¬ ticketRefused tickets ticket = true) : ticket.ticketId ∉ tickets.map TicketRow.ticketId := by
  intro hmem
  obtain ⟨other, hother, heq⟩ := List.mem_map.mp hmem
  refine h (List.any_eq_true.mpr ⟨other, hother, ?_⟩)
  simp [heq]

/-- The fixtures hold no ticket of this id. -/
def FixtureStore.lacks (store : FixtureStore) (ticket : LogisticsTicket) : Bool :=
  decide (∀ b ∈ store.baseTickets, b.ticketId ≠ ticket.ticketId)

/-- The store after an unknown ticket joined its list. -/
def FixtureStore.joined (store : FixtureStore) (ticket : LogisticsTicket) : FixtureStore :=
  { store with
    dynamicTickets := store.dynamicTickets ++ [ticket]
    ticketRevision := store.ticketRevision + 1 }

/-! ### One process -/

namespace FixtureStore

/-- A later store of the same process: the same list under the same revision, or a new revision. -/
def Follows (later earlier : FixtureStore) : Prop :=
  later.ticketRevision = earlier.ticketRevision ∧ later.dynamicTickets = earlier.dynamicTickets ∨
    earlier.ticketRevision < later.ticketRevision

omit [IdText]

theorem joined_lacks (store : FixtureStore) (ticket : LogisticsTicket) :
    (store.joined ticket).lacks = store.lacks := rfl

/-- What the methods of one process do to a store. -/
inductive Changes (store : FixtureStore) : FixtureStore → Prop where
  | same : Changes store store
  | join {later : FixtureStore} (ticket : LogisticsTicket) (h : Changes store later) :
    Changes store (later.joined ticket)
  | reset {later : FixtureStore} (h : Changes store later) :
    Changes store later.resetDynamicTickets

/-- An accepted ticket is known already, or joins the list under the next revision. -/
theorem addTicket_cases {store added : FixtureStore} {ticket : LogisticsTicket}
    (h : store.addTicket ticket = some added) : added = store ∨ added = store.joined ticket := by
  unfold addTicket at h
  split at h
  · split at h
    · exact Or.inl (Option.some.inj h).symm
    · cases h
  · exact Or.inr (Option.some.inj h).symm

theorem Changes.addTicket {store later : FixtureStore} (h : Changes store later)
    (ticket : LogisticsTicket) : Changes store ((later.addTicket ticket).getD later) := by
  cases hadd : later.addTicket ticket with
  | none => exact h
  | some added =>
    rcases addTicket_cases hadd with rfl | rfl
    · exact h
    · exact h.join ticket

theorem Changes.addTickets {store later : FixtureStore} (h : Changes store later)
    (tickets : List LogisticsTicket) : Changes store (later.addTickets tickets) := by
  induction tickets generalizing later with
  | nil => exact h
  | cons ticket rest ih =>
    rw [FixtureStore.addTickets]
    have hstep := h.addTicket ticket
    cases hadd : later.addTicket ticket with
    | none => exact h
    | some added =>
      rw [hadd] at hstep
      exact ih hstep

theorem Changes.fresh_eq {store later : FixtureStore} (h : Changes store later) :
    later.fresh = store.fresh := by
  induction h with
  | same => rfl
  | join ticket _ ih => exact ih
  | reset _ ih => exact ih

/-- Within one process the ticket list never returns to a revision it has left. -/
theorem Changes.follows {store later : FixtureStore} (h : Changes store later) :
    later.Follows store := by
  unfold Follows
  induction h with
  | same => exact Or.inl ⟨rfl, rfl⟩
  | @join later ticket _ ih =>
    have hle : store.ticketRevision ≤ later.ticketRevision := by omega
    exact Or.inr (Nat.lt_succ_of_le hle)
  | @reset later _ ih =>
    cases hlist : later.dynamicTickets with
    | nil => simpa [resetDynamicTickets, hlist] using ih
    | cons =>
      refine Or.inr ?_
      simp only [resetDynamicTickets, hlist, List.isEmpty_cons]
      simp only [Bool.false_eq_true, if_false]
      omega

/-- The revision counts every ticket of the list. -/
theorem Changes.counted {store later : FixtureStore} (h : Changes store later)
    (hcount : store.dynamicTickets.length ≤ store.ticketRevision) :
    later.dynamicTickets.length ≤ later.ticketRevision := by
  induction h with
  | same => exact hcount
  | join ticket _ ih => simpa [joined] using ih
  | reset _ _ => exact Nat.zero_le _

theorem Follows.trans {a b c : FixtureStore} (hab : a.Follows b) (hbc : b.Follows c) :
    a.Follows c := by
  rcases hab with ⟨hrev, hlist⟩ | hlt
  · rcases hbc with ⟨hrev', hlist'⟩ | hlt'
    · exact Or.inl ⟨hrev.trans hrev', hlist.trans hlist'⟩
    · exact Or.inr (by omega)
  · rcases hbc with ⟨hrev', -⟩ | hlt' <;> exact Or.inr (by omega)

/-! ### Loading tickets -/

/-- A ticket whose id the store does not know joins its list. -/
theorem addTicket_unknown {store : FixtureStore} {ticket : LogisticsTicket}
    (hbase : store.lacks ticket) (hnew : ∀ k ∈ store.dynamicTickets, k.ticketId ≠ ticket.ticketId) :
    store.addTicket ticket = some (store.joined ticket) := by
  have hnone : (store.baseTickets ++ store.dynamicTickets).find?
      (fun t => t.ticketId = ticket.ticketId) = none := by
    rw [List.find?_eq_none]
    intro k hk
    rcases List.mem_append.mp hk with hk | hk
    · simpa using of_decide_eq_true hbase k hk
    · simpa using hnew k hk
  rw [addTicket, hnone]
  rfl

/-- A ticket that the fixtures hold changes nothing. -/
theorem addTicket_held {store : FixtureStore} {ticket : LogisticsTicket}
    (hheld : ¬ store.lacks ticket) (hnew : ∀ k ∈ store.dynamicTickets, k.ticketId ≠ ticket.ticketId)
    (hsame : ∀ b ∈ store.baseTickets, b.ticketId = ticket.ticketId → b = ticket) :
    store.addTicket ticket = some store := by
  obtain ⟨b, hb, hid⟩ : ∃ b ∈ store.baseTickets, b.ticketId = ticket.ticketId := by
    simpa [lacks] using hheld
  cases hfind : (store.baseTickets ++ store.dynamicTickets).find?
      (fun t => t.ticketId = ticket.ticketId) with
  | none =>
    have hdiffers := List.find?_eq_none.mp hfind b (List.mem_append_left _ hb)
    simp [hid] at hdiffers
  | some k =>
    have hkid : k.ticketId = ticket.ticketId := by simpa using List.find?_some hfind
    have hk : k = ticket := by
      rcases List.mem_append.mp (List.mem_of_find?_eq_some hfind) with hk | hk
      · exact hsame k hk hkid
      · exact absurd hkid (hnew k hk)
    rw [addTicket, hfind]
    simp [hk]

/-- Unknown tickets of distinct ids join the list, each under a revision of its own, but for those
    the fixtures hold. -/
theorem addTickets_new (store : FixtureStore) {tickets : List LogisticsTicket}
    (hkey : (tickets.map LogisticsTicket.ticketId).Nodup)
    (hnew : ∀ t ∈ tickets, ∀ k ∈ store.dynamicTickets, k.ticketId ≠ t.ticketId)
    (hsame : ∀ t ∈ tickets, ∀ b ∈ store.baseTickets, b.ticketId = t.ticketId → b = t) :
    (store.addTickets tickets).dynamicTickets =
        store.dynamicTickets ++ tickets.filter store.lacks ∧
      (store.addTickets tickets).ticketRevision =
        store.ticketRevision + (tickets.filter store.lacks).length := by
  induction tickets generalizing store with
  | nil => simp [addTickets]
  | cons ticket rest ih =>
    obtain ⟨hfirst, hrest⟩ := List.nodup_cons.mp hkey
    have hunknown := hnew ticket (List.mem_cons_self ..)
    have hsame' := fun t ht => hsame t (List.mem_cons_of_mem _ ht)
    rw [addTickets]
    by_cases hlacks : store.lacks ticket
    · rw [addTicket_unknown hlacks hunknown, List.filter_cons_of_pos hlacks]
      -- The ticket that joined has another id than those still to come.
      obtain ⟨hlist, hrev⟩ := ih (store.joined ticket) hrest
        (by
          intro t ht k hk
          rcases List.mem_append.mp hk with hk | hk
          · exact hnew t (List.mem_cons_of_mem _ ht) k hk
          · obtain rfl := List.mem_singleton.mp hk
            exact fun heq => hfirst (heq ▸ List.mem_map_of_mem ht))
        hsame'
      constructor
      · rw [hlist, joined_lacks]
        simp [joined]
      · rw [hrev, joined_lacks]
        simp only [joined, List.length_cons]
        omega
    · rw [addTicket_held hlacks hunknown (hsame ticket (List.mem_cons_self ..)),
        List.filter_cons_of_neg hlacks]
      exact ih store hrest (fun t ht => hnew t (List.mem_cons_of_mem _ ht)) hsame'

end FixtureStore

namespace Deployment

/-- `list_tickets`, the active ones, as the source shows them. -/
def loadedTickets (d : Deployment) : List LogisticsTicket :=
  ((d.tickets.insertionSort TicketRow.listedBefore).filter (·.active)).map TicketRow.sourceTicket

/-- The persisted tickets a process adds when it loads them: those its fixtures do not hold. -/
def newTickets (d : Deployment) : List LogisticsTicket :=
  d.loadedTickets.filter d.store.lacks

/-- The row of a created ticket, unless the constraints of the table refuse it. -/
def persist (d : Deployment) (ticket : TicketRow) : Deployment :=
  if h : ticketRefused d.tickets ticket then d
  else { d with
    tickets := ticket :: d.tickets
    ticketsKey := List.nodup_cons.mpr ⟨ticketRefused_eq_false h, d.ticketsKey⟩ }

/-- One event. A process serves once it has loaded its tickets; `reset_demo` removes every row. -/
def step (d : Deployment) : TicketEvent → Deployment
  | .addTicket ticket => { d with store := (d.store.addTicket ticket).getD d.store }
  | .resetDynamicTickets => { d with store := d.store.resetDynamicTickets }
  | .persist ticket => d.persist ticket
  | .restart => { d with store := d.store.fresh, serving := false }
  | .loadPersistedTickets => { d with store := d.store.addTickets d.loadedTickets, serving := true }
  | .resetDemo => { d with
      store := d.store.resetDynamicTickets
      tickets := []
      ticketsKey := List.nodup_nil }

def run (d : Deployment) (events : List TicketEvent) : Deployment := events.foldl step d

/-- The first start of a deployment. -/
def install (fixtures : FixtureStore) : Deployment := ⟨fixtures.fresh, [], false, List.nodup_nil⟩

/-- What keeps revisions apart. Tickets are added by a process that has loaded the persisted ones,
    and no persisted ticket takes the id of another fixture ticket. At a restart the revision is
    behind the number of tickets the next process loads, or equal to it over the same tickets. -/
def InSync (d : Deployment) : TicketEvent → Prop
  | .addTicket _ => d.serving
  | .loadPersistedTickets =>
    ∀ t ∈ d.loadedTickets, ∀ b ∈ d.store.baseTickets, b.ticketId = t.ticketId → b = t
  | .restart =>
    d.store.ticketRevision < d.newTickets.length ∨
      d.store.ticketRevision = d.newTickets.length ∧ d.store.dynamicTickets = d.newTickets
  | _ => True

/-- Every event of a run meets the condition where it happens. -/
def StaysInSync (d : Deployment) : List TicketEvent → Prop
  | [] => True
  | event :: rest => d.InSync event ∧ (d.step event).StaysInSync rest

/-! ### Across restarts -/

variable {d : Deployment}

theorem run_cons (event : TicketEvent) (rest : List TicketEvent) :
    d.run (event :: rest) = (d.step event).run rest := rfl

omit [IdText] in
theorem persist_cases (d : Deployment) (ticket : TicketRow) :
    d.persist ticket = d ∨ ∃ h, d.persist ticket = { d with
      tickets := ticket :: d.tickets
      ticketsKey := h } := by
  unfold persist
  split
  · exact Or.inl rfl
  · exact Or.inr ⟨List.nodup_cons.mpr ⟨ticketRefused_eq_false ‹_›, d.ticketsKey⟩, rfl⟩

theorem step_changes {event : TicketEvent} (h : event ≠ .restart) :
    d.store.Changes (d.step event).store := by
  cases event with
  | addTicket ticket => exact FixtureStore.Changes.same.addTicket ticket
  | resetDynamicTickets => exact .reset .same
  | persist ticket =>
    show d.store.Changes (d.persist ticket).store
    rcases d.persist_cases ticket with hsame | ⟨_, hrow⟩
    · rw [hsame]
      exact .same
    · rw [hrow]
      exact .same
  | restart => exact absurd rfl h
  | loadPersistedTickets => exact FixtureStore.Changes.same.addTickets _
  | resetDemo => exact .reset .same

theorem run_fresh (events : List TicketEvent) : (d.run events).store.fresh = d.store.fresh := by
  induction events generalizing d with
  | nil => rfl
  | cons event rest ih =>
    rw [run_cons, ih]
    by_cases hrestart : event = .restart
    · rw [hrestart]
      rfl
    · exact (step_changes hrestart).fresh_eq

theorem run_counted (events : List TicketEvent)
    (h : d.store.dynamicTickets.length ≤ d.store.ticketRevision) :
    (d.run events).store.dynamicTickets.length ≤ (d.run events).store.ticketRevision := by
  induction events generalizing d with
  | nil => exact h
  | cons event rest ih =>
    rw [run_cons]
    refine ih ?_
    by_cases hrestart : event = .restart
    · rw [hrestart]
      exact Nat.zero_le _
    · exact (step_changes hrestart).counted h

/-- A process that has not loaded its tickets yet. -/
structure Blank (d : Deployment) : Prop where
  starting : d.serving = false
  revision : d.store.ticketRevision = 0
  list : d.store.dynamicTickets = []

/-- What the next process loads is ahead of an earlier store, or level with it over one list. -/
structure Ahead (d : Deployment) (earlier : FixtureStore) : Prop where
  behind : earlier.ticketRevision ≤ d.newTickets.length
  level : earlier.ticketRevision = d.newTickets.length → d.newTickets = earlier.dynamicTickets

/-- The state of a deployment against an earlier store: no revision is given to two lists. -/
def Traces (d : Deployment) (earlier : FixtureStore) : Prop :=
  d.store.Follows earlier ∨ d.Blank ∧ d.Ahead earlier

omit [IdText] in
theorem filter_orderedInsert_of_neg {α : Type} (r : α → α → Prop) [DecidableRel r] {p : α → Bool}
    {a : α} (h : ¬ p a) (l : List α) : (l.orderedInsert r a).filter p = l.filter p := by
  induction l with
  | nil => simp [h]
  | cons b rest ih =>
    rw [List.orderedInsert_cons]
    split
    · rw [List.filter_cons_of_neg h]
    · simp only [List.filter_cons, ih]

/-- The rows that a starting process adds to its list. -/
def isNew (d : Deployment) (row : TicketRow) : Bool := row.active && d.store.lacks row.sourceTicket

theorem newTickets_eq (d : Deployment) : d.newTickets =
    ((d.tickets.insertionSort TicketRow.listedBefore).filter d.isNew).map TicketRow.sourceTicket := by
  unfold newTickets loadedTickets
  rw [List.filter_map, List.filter_filter]
  congr 1
  exact List.filter_congr fun row _ => Bool.and_comm ..

/-- A persisted row adds nothing to what the next process loads, or one ticket. -/
theorem newTickets_persist (d : Deployment) (ticket : TicketRow) :
    (d.persist ticket).newTickets = d.newTickets ∨
      (d.persist ticket).newTickets.length = d.newTickets.length + 1 := by
  rcases d.persist_cases ticket with hsame | ⟨hkey, hrow⟩
  · exact Or.inl (by rw [hsame])
  · rw [hrow, newTickets_eq, newTickets_eq]
    have hnew : ({ d with tickets := ticket :: d.tickets, ticketsKey := hkey } : Deployment).isNew
        = d.isNew := rfl
    simp only [hnew, List.insertionSort_cons]
    by_cases h : d.isNew ticket
    · refine Or.inr ?_
      have hperm := ((d.tickets.insertionSort TicketRow.listedBefore).perm_orderedInsert
        TicketRow.listedBefore ticket).filter d.isNew
      rw [List.length_map, hperm.length_eq, List.filter_cons_of_pos h]
      simp
    · exact Or.inl (by rw [filter_orderedInsert_of_neg _ h])

theorem loadedTickets_nodup (d : Deployment) :
    (d.loadedTickets.map LogisticsTicket.ticketId).Nodup := by
  have hsorted : ((d.tickets.insertionSort TicketRow.listedBefore).map TicketRow.ticketId).Nodup :=
    ((List.perm_insertionSort ..).map _).nodup_iff.mpr d.ticketsKey
  have htexts := (hsorted.map IdText.ticket_injective)
  unfold loadedTickets
  rw [List.map_map]
  rw [List.map_map] at htexts
  exact htexts.sublist (List.filter_sublist.map _)

/-- A starting process ends with the new tickets as its list. -/
theorem Blank.load (h : d.Blank) (hsync : d.InSync .loadPersistedTickets) :
    (d.step .loadPersistedTickets).store.dynamicTickets = d.newTickets ∧
      (d.step .loadPersistedTickets).store.ticketRevision = d.newTickets.length := by
  obtain ⟨hlist, hrev⟩ := FixtureStore.addTickets_new d.store d.loadedTickets_nodup
    (by simp [h.list]) hsync
  constructor
  · simpa [step, newTickets, h.list] using hlist
  · simpa [step, newTickets, h.revision] using hrev

omit [IdText] in
theorem Blank.persist (h : d.Blank) (ticket : TicketRow) : (d.persist ticket).Blank := by
  rcases d.persist_cases ticket with hsame | ⟨_, hrow⟩
  · rwa [hsame]
  · rw [hrow]
    exact ⟨h.starting, h.revision, h.list⟩

theorem Traces.step {earlier : FixtureStore} (h : d.Traces earlier) {event : TicketEvent}
    (hsync : d.InSync event) (hcase : event ≠ .resetDemo) : (d.step event).Traces earlier := by
  rcases h with hfollows | ⟨hblank, hahead⟩
  · by_cases hrestart : event = .restart
    · -- The process that ends was behind what the next one loads, or level with it.
      subst hrestart
      refine Or.inr ⟨⟨rfl, rfl, rfl⟩, ?_⟩
      have hnew : (d.step .restart).newTickets = d.newTickets := rfl
      constructor
      · rw [hnew]
        rcases hsync with hlt | ⟨heq, -⟩ <;> rcases hfollows with ⟨hrev, -⟩ | hlt' <;> omega
      · rw [hnew]
        intro hlevel
        rcases hfollows with ⟨hrev, hlist⟩ | hlt'
        · rcases hsync with hlt | ⟨-, hloaded⟩
          · omega
          · exact hloaded.symm.trans hlist
        · rcases hsync with hlt | ⟨heq, -⟩ <;> omega
    · exact Or.inl ((step_changes hrestart).follows.trans hfollows)
  · cases event with
    | addTicket ticket =>
      have hserving : d.serving = true := hsync
      rw [hblank.starting] at hserving
      cases hserving
    | resetDynamicTickets =>
      refine Or.inr ⟨⟨hblank.starting, ?_, rfl⟩, hahead.behind, hahead.level⟩
      simp [Deployment.step, FixtureStore.resetDynamicTickets, hblank.list, hblank.revision]
    | persist ticket =>
      refine Or.inr ⟨hblank.persist ticket, ?_⟩
      have hstep : d.step (.persist ticket) = d.persist ticket := rfl
      rw [hstep]
      rcases d.newTickets_persist ticket with hsame | hmore
      · exact ⟨by rw [hsame]; exact hahead.behind, by rw [hsame]; exact hahead.level⟩
      · have hbehind := hahead.behind
        exact ⟨by omega, fun hlevel => by omega⟩
    | restart => exact Or.inr ⟨⟨rfl, rfl, rfl⟩, hahead.behind, hahead.level⟩
    | loadPersistedTickets =>
      obtain ⟨hlist, hrev⟩ := hblank.load hsync
      refine Or.inl ?_
      rcases hahead.behind.lt_or_eq with hlt | heq
      · exact Or.inr (by omega)
      · exact Or.inl ⟨by omega, hlist.trans (hahead.level heq)⟩
    | resetDemo => exact absurd rfl hcase

theorem Traces.run {earlier : FixtureStore} (h : d.Traces earlier) {events : List TicketEvent}
    (hsync : d.StaysInSync events) (hcase : .resetDemo ∉ events) : (d.run events).Traces earlier := by
  induction events generalizing d with
  | nil => exact h
  | cons event rest ih =>
    rw [List.mem_cons, not_or] at hcase
    rw [run_cons]
    exact ih (h.step hsync.1 (Ne.symm hcase.1)) hsync.2 hcase.2

/-- A process that is not restarted only adds to its count. -/
theorem run_follows {events : List TicketEvent} (h : .restart ∉ events) :
    (d.run events).store.Follows d.store := by
  induction events generalizing d with
  | nil => exact FixtureStore.Changes.follows .same
  | cons event rest ih =>
    rw [List.mem_cons, not_or] at h
    rw [run_cons]
    have hfirst := (d.step_changes (Ne.symm h.1)).follows
    exact (ih h.2).trans hfirst

/-- An earlier list is found again under its revision. -/
theorem Traces.list_eq {earlier : FixtureStore} (h : d.Traces earlier)
    (hcount : earlier.dynamicTickets.length ≤ earlier.ticketRevision)
    (hrev : d.store.ticketRevision = earlier.ticketRevision) :
    d.store.dynamicTickets = earlier.dynamicTickets := by
  rcases h with (⟨-, hlist⟩ | hlt) | ⟨hblank, -⟩
  · exact hlist
  · omega
  · have hzero : earlier.dynamicTickets.length = 0 := by
      have := hblank.revision
      omega
    rw [hblank.list, List.length_eq_zero_iff.mp hzero]

end Deployment

/-! ### What a revision names -/

namespace FixtureStore

variable [PolicyDigest] [ProofDigest] [ResultDigest]

omit [IdText]

/-- A tool reads the same of an order from two stores, whoever reads it and when. -/
def ReadsAlike (s t : FixtureStore) (orderId : String) (tool : ReadTool) : Prop :=
  ∀ (policyRag : PolicyRagService) (context : TrustedToolContext) (argument : Option IssueType)
    (issueType : IssueType) (attempt : Nat),
    SyntheticReadToolCatalog.read ⟨s, policyRag⟩ context tool ⟨orderId, argument⟩ issueType attempt =
      SyntheticReadToolCatalog.read ⟨t, policyRag⟩ context tool ⟨orderId, argument⟩ issueType attempt

omit [PolicyDigest] [ProofDigest] [ResultDigest] in
/-- Stores over the same fixtures differ in their tickets and in the plan of action faults alone. -/
theorem eq_of_fresh_eq {s t : FixtureStore} (h : t.fresh = s.fresh) : t = { s with
    dynamicTickets := t.dynamicTickets
    ticketRevision := t.ticketRevision
    actionFaultPositions := t.actionFaultPositions } := by
  cases s
  cases t
  simp only [fresh, mk.injEq] at h
  obtain ⟨rfl, rfl, rfl, rfl, rfl, rfl, rfl, rfl, rfl, rfl, -⟩ := h
  rfl

omit [ProofDigest] in
/-- Only the ticket tool reads what changes. -/
theorem readsAlike_of_list_eq {s t : FixtureStore} (hfixtures : t.fresh = s.fresh)
    {tool : ReadTool}
    (hlist : tool = .getExistingLogisticsTickets → t.dynamicTickets = s.dynamicTickets)
    (orderId : String) : t.ReadsAlike s orderId tool := by
  intro policyRag context argument issueType attempt
  rw [eq_of_fresh_eq hfixtures]
  cases tool with
  | getExistingLogisticsTickets =>
    rw [hlist rfl]
    rfl
  | _ => rfl

omit [PolicyDigest] [ResultDigest] in
/-- The revision of the ticket tool names the count of changes. -/
theorem ticketRevision_eq {s t : FixtureStore} (hfixtures : t.fresh = s.fresh) {orderId : String}
    {revision : String}
    (hs : s.sourceRevision orderId .getExistingLogisticsTickets = some revision)
    (ht : t.sourceRevision orderId .getExistingLogisticsTickets = some revision) :
    t.ticketRevision = s.ticketRevision := by
  rw [eq_of_fresh_eq hfixtures] at ht
  obtain ⟨order, horder, hs⟩ := Option.map_eq_some_iff.mp hs
  obtain ⟨order', horder', ht⟩ := Option.map_eq_some_iff.mp ht
  obtain rfl : order = order' := Option.some.inj (horder.symm.trans horder')
  have htext := ht.trans hs.symm
  simp only [if_true, String.append_right_inj] at htext
  -- A number is what its decimal digits spell.
  have hdigits : Nat.toDigits 10 t.ticketRevision = Nat.toDigits 10 s.ticketRevision := by
    rw [← Nat.toList_repr, ← Nat.toList_repr]
    exact congrArg String.toList htext
  have hnumber := congrArg (Nat.ofDigitChars 10 · 0) hdigits
  simpa [Nat.ofDigitChars_toDigits] using hnumber

end FixtureStore

/-! ### Soundness of revisions -/

namespace Deployment

variable [PolicyDigest] [ProofDigest] [ResultDigest]

/-- What a later moment traces back to an earlier one is read alike under the same revision. -/
theorem readsAlike_of_traces {fixtures : FixtureStore} (before : List TicketEvent)
    {life : List TicketEvent}
    (htraces : (((install fixtures).run before).run life).Traces
      ((install fixtures).run before).store)
    (orderId : String) (tool : ReadTool) (revision : String)
    (hearlier : ((install fixtures).run before).store.sourceRevision orderId tool = some revision)
    (hlater : (((install fixtures).run before).run life).store.sourceRevision orderId tool
      = some revision) :
    (((install fixtures).run before).run life).store.ReadsAlike
      ((install fixtures).run before).store orderId tool := by
  have hfixtures : (((install fixtures).run before).run life).store.fresh
      = ((install fixtures).run before).store.fresh := run_fresh life
  refine FixtureStore.readsAlike_of_list_eq hfixtures (fun htool => ?_) orderId
  subst htool
  refine htraces.list_eq (run_counted before (Nat.zero_le _)) ?_
  exact FixtureStore.ticketRevision_eq hfixtures hearlier hlater

/-- The events before a moment may be any. From it to a later one the rows of the case survive; if
    the events between stay in sync, a tool whose revision is the same at both moments reads the
    same at both. -/
theorem sourceRevision_sound (fixtures : FixtureStore) (before life : List TicketEvent)
    (hcase : .resetDemo ∉ life) (hsync : ((install fixtures).run before).StaysInSync life)
    (orderId : String) (tool : ReadTool) (revision : String)
    (hearlier : ((install fixtures).run before).store.sourceRevision orderId tool = some revision)
    (hlater : (((install fixtures).run before).run life).store.sourceRevision orderId tool
      = some revision) :
    (((install fixtures).run before).run life).store.ReadsAlike
      ((install fixtures).run before).store orderId tool := by
  refine readsAlike_of_traces before ?_ orderId tool revision hearlier hlater
  exact Traces.run (Or.inl (FixtureStore.Changes.follows .same)) hsync hcase

/-- Between two moments of one process a revision never repeats over two contents. -/
theorem sourceRevision_sound_unrestarted (fixtures : FixtureStore)
    (before life : List TicketEvent) (hprocess : .restart ∉ life) (orderId : String)
    (tool : ReadTool) (revision : String)
    (hearlier : ((install fixtures).run before).store.sourceRevision orderId tool = some revision)
    (hlater : (((install fixtures).run before).run life).store.sourceRevision orderId tool
      = some revision) :
    (((install fixtures).run before).run life).store.ReadsAlike
      ((install fixtures).run before).store orderId tool :=
  readsAlike_of_traces before (Or.inl (run_follows hprocess)) orderId tool revision hearlier hlater

end Deployment

end AfterSales

/-! ### Restarts of one deployment -/

namespace AfterSales.Deployment

section Restarts

attribute [local instance] IdText.spelled PolicyDigest.bySource ProofDigest.byId
  ResultDigest.byName

/-- One order without any other source record. -/
def oneOrder : FixtureStore where
  fixtureVersion := "fixture-v1"
  orders := fun id =>
    if id = "ORD-1" then some ⟨"ORD-1", "CUS-1", .shipped, "standard", "cn-east", "order-v1"⟩
    else none
  timelines := fun _ => []
  deliveryProofs := fun _ => none
  carrierAlerts := fun _ => []
  shipments := fun _ => []
  investigationCases := []
  faults := fun _ _ _ => none
  actionFaultPlan := fun _ => []
  baseTickets := []
  dynamicTickets := []
  ticketRevision := 0
  actionFaultPositions := fun _ => 0
  ordersKey := by
    intro id o h
    rw [Option.ite_none_right_eq_some] at h
    obtain ⟨rfl, ⟨⟩⟩ := h
    rfl

/-- The ticket row of the nth confirmed case, for the order and one issue. -/
def orderTicket (serial : Nat) (issueType : IssueType) : TicketRow where
  ticketId := ⟨⟨⟨⟨⟨"CONV-1", serial⟩, 0⟩, 1⟩⟩⟩
  caseId := ⟨"CONV-1", serial⟩
  actionId := ⟨⟨⟨⟨"CONV-1", serial⟩, 0⟩, 1⟩⟩
  customerId := "CUS-1"
  authorizedOrderId := "ORD-1"
  targetShipmentId := none
  issueType := issueType
  active := true
  idempotencyKey := ⟨⟨⟨⟨"CONV-1", serial⟩, 0⟩, 1⟩⟩
  createdAt := serial
  updatedAt := serial

/-- A confirmed case writes its row and shows it to the source. -/
def confirmed (ticket : TicketRow) : List TicketEvent :=
  [.persist ticket, .addTicket ticket.sourceTicket]

/-- A ticket survives a restart under its revision. -/
theorem restart_keeps_ticket :
    (((install oneOrder).run (.loadPersistedTickets :: confirmed (orderTicket 1 .stalledTracking))).run
        [.restart, .loadPersistedTickets]).store.ReadsAlike
      ((install oneOrder).run
        (.loadPersistedTickets :: confirmed (orderTicket 1 .stalledTracking))).store
      "ORD-1" .getExistingLogisticsTickets := by
  have hsync : ((install oneOrder).run
      (.loadPersistedTickets :: confirmed (orderTicket 1 .stalledTracking))).StaysInSync
        [.restart, .loadPersistedTickets] := by
    refine ⟨Or.inr ⟨by decide +kernel, by decide +kernel⟩, ?_, trivial⟩
    show ∀ t ∈ loadedTickets _, ∀ b ∈ FixtureStore.baseTickets _, b.ticketId = t.ticketId → b = t
    decide +kernel
  exact sourceRevision_sound oneOrder _ _ (by simp) hsync _ _
    "fixture-v1:order-v1:get_existing_logistics_tickets:tickets-r1"
    (by decide +kernel) (by decide +kernel)

/-- A demo is reset after one ticket, and a case reads the empty list under the second revision. The
    process restarts, and two confirmed cases bring the new count to that revision. -/
theorem revision_repeats_over_two_tickets :
    let before := .loadPersistedTickets :: confirmed (orderTicket 1 .stalledTracking) ++ [.resetDemo]
    let life := [.restart, .loadPersistedTickets] ++ confirmed (orderTicket 2 .stalledTracking) ++
      confirmed (orderTicket 3 .signedNotReceived)
    let earlier := (install oneOrder).run before
    let later := earlier.run life
    TicketEvent.resetDemo ∉ life ∧
      earlier.store.sourceRevision "ORD-1" .getExistingLogisticsTickets
        = some "fixture-v1:order-v1:get_existing_logistics_tickets:tickets-r2" ∧
      later.store.sourceRevision "ORD-1" .getExistingLogisticsTickets
        = some "fixture-v1:order-v1:get_existing_logistics_tickets:tickets-r2" ∧
      ¬ later.store.ReadsAlike earlier.store "ORD-1" .getExistingLogisticsTickets := by
  refine ⟨by simp [confirmed], by decide +kernel, by decide +kernel, fun h => ?_⟩
  have hread := h
    { corpus := .empty
      prose := plainProse
      sourceRevision := "corpus-v1"
      passageHash := fun c => c.contentHash
      rank := fun _ _ _ => .ok []
      minimumSimilarity := 0 }
    { customerId := "CUS-1"
      conversationId := "CONV-1"
      caseId := "CASE-9"
      runId := "RUN-9"
      authorizedOrderId := "ORD-1"
      canonicalIssueType := .stalledTracking
      fixtureVersion := "fixture-v1"
      faultSeed := "default"
      evaluatedAt := 0
      targetShipmentId := none }
    (some .stalledTracking) .stalledTracking 1
  revert hread
  decide +kernel

end Restarts

end AfterSales.Deployment
