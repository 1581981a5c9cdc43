import AfterSales.Evals.DevelopmentSafety

/-! What the ledger of states has noted of a development execution.

    A record is saved before it is noted, and a process that goes on looks at records only. So the
    ledger notes no run twice and none without a record; a run whose process ends between the two
    writes is never noted. -/

namespace AfterSales.V3

namespace DevelopmentWorld

variable {d : DevelopmentRunner} {w w' : DevelopmentWorld}

/-! ### The ledger of states -/

/-- The id that a line of the ledger notes. -/
def notedId : Option ExecutionStateLine → Option String
  | some ⟨_, .runRecorded evalRunId⟩ => some evalRunId
  | _ => none

/-- The ids that the ledger has noted, in order. -/
def noted (w : DevelopmentWorld) : List String := w.files.states.filterMap notedId

theorem mem_loadStates {package : ExecutionPackage} {lines : List (Option ExecutionStateLine)}
    {events : List ExecutionStateEvent}
    (h : DevelopmentRunner.loadStates package lines = .ok events) (evalRunId : String) :
    .runRecorded evalRunId ∈ events ↔ evalRunId ∈ lines.filterMap notedId := by
  induction lines generalizing events with
  | nil =>
    obtain rfl := Except.ok.inj h
    simp
  | cons line lines ih =>
    cases line with
    | none => cases h
    | some line =>
      rw [DevelopmentRunner.loadStates] at h
      split_ifs at h
      cases hlater : DevelopmentRunner.loadStates package lines with
      | error e =>
        rw [hlater] at h
        cases h
      | ok later =>
        rw [hlater] at h
        obtain rfl := Except.ok.inj h
        obtain ⟨digest, event⟩ := line
        rw [List.mem_cons, ih hlater]
        cases event with
        | runRecorded other => simp [notedId]
        | _ => simp [notedId]

/-- A ledger that is opened notes nothing. -/
theorem openStates_noted {files files' : DevelopmentFiles} (h : d.openStates files = .ok files') :
    files'.states.filterMap notedId = files.states.filterMap notedId := by
  unfold DevelopmentRunner.openStates at h
  split at h
  · obtain rfl := Except.ok.inj h
    rfl
  · simp only [bind, Except.bind] at h
    split at h
    · cases h
    · split at h
      · obtain rfl := Except.ok.inj h
        simp [DevelopmentRunner.appendState, DevelopmentRunner.ExecutionPackage.initialized,
          notedId]
      · split_ifs at h
        obtain rfl := Except.ok.inj h
        rfl
      · cases h

/-- An id that is not noted is added. -/
theorem recordRun_noted {package : ExecutionPackage} (hpackage : d.executionPackage = some package)
    {evalRunId : String} {files files' : DevelopmentFiles}
    (h : d.recordRun evalRunId files = .ok files')
    (hnew : evalRunId ∉ files.states.filterMap notedId) :
    files'.states.filterMap notedId = files.states.filterMap notedId ++ [evalRunId] := by
  unfold DevelopmentRunner.recordRun at h
  rw [hpackage] at h
  simp only [bind, Except.bind] at h
  split at h
  · cases h
  · rename_i events hload
    rw [if_neg (fun hmem => hnew ((mem_loadStates hload evalRunId).mp hmem))] at h
    obtain rfl := Except.ok.inj h
    simp [DevelopmentRunner.appendState, notedId]

/-- What the ledger has noted of the saved runs. -/
structure Noted (d : DevelopmentRunner) (w : DevelopmentWorld) : Prop where
  nodup : w.noted.Nodup
  saved : ∀ p ∈ d.plan, w.Saved p ↔
    p.evalRunId ∈ w.noted ∨ p.key ∈ w.lost ∨ p.key ∈ w.position.unnoted
  planned : ∀ id ∈ w.noted, ∃ p ∈ d.plan, p.evalRunId = id
  lost : ∀ p ∈ d.plan, p.key ∈ w.lost ∨ p.key ∈ w.position.unnoted → p.evalRunId ∉ w.noted
  fresh : ∀ k ∈ w.position.unnoted, k ∉ w.lost

namespace Noted

theorem empty : Noted d DevelopmentWorld.empty := by
  have hnothing : DevelopmentWorld.empty.noted = [] := rfl
  have hnowhere : DevelopmentWorld.empty.position.unnoted = [] := rfl
  have hkept : DevelopmentWorld.empty.lost = [] := rfl
  have hruns : DevelopmentWorld.empty.files.runs = [] := rfl
  constructor
  · rw [hnothing]
    exact List.nodup_nil
  · intro p _
    rw [hnothing, hkept, hnowhere, Saved, hruns]
    simp
  · rw [hnothing]
    exact fun _ h => absurd h List.not_mem_nil
  · rw [hkept, hnowhere, hnothing]
    exact fun p _ _ => List.not_mem_nil
  · rw [hnowhere]
    exact fun _ h => absurd h List.not_mem_nil

/-- Nothing is saved or noted, and a saved run on its way is lost. -/
theorem of_same (h : Noted d w) (hruns : w'.files.runs = w.files.runs) (hnoted : w'.noted = w.noted)
    (hunnoted : w'.position.unnoted = [])
    (hlost : ∀ k, k ∈ w'.lost ↔ k ∈ w.lost ∨ k ∈ w.position.unnoted) : Noted d w' := by
  refine ⟨hnoted ▸ h.nodup, fun p hp => ?_, hnoted ▸ h.planned, fun p hp hgone => ?_, ?_⟩
  · have hsaved := h.saved p hp
    rw [Saved] at hsaved
    rw [Saved, hruns, hnoted, hunnoted, hlost, hsaved]
    simp only [List.not_mem_nil, or_false]
  · rw [hunnoted, hlost] at hgone
    rw [hnoted]
    exact h.lost p hp (by simpa using hgone)
  · rw [hunnoted]
    exact nofun

theorem ended (h : Noted d w) (hruns : w'.files.runs = w.files.runs)
    (hnoted : w'.noted = w.noted) (hlost : w'.lost = w.ended.lost)
    (hposition : w'.position = .absent) : Noted d w' := by
  refine h.of_same hruns hnoted (by rw [hposition]; rfl) fun k => ?_
  rw [hlost, DevelopmentWorld.ended, List.mem_append]

variable [EvalText] [RunDigest] [LedgerDigest]

theorem step (h : Noted d w) (hvalid : Valid d w) {package : ExecutionPackage}
    (hpackage : d.executionPackage = some package) (hstep : Step d w w') : Noted d w' := by
  have hat := hvalid.position
  have hstill : w.position.unnoted = [] →
      ∀ k, k ∈ w.lost ↔ k ∈ w.lost ∨ k ∈ w.position.unnoted := by
    intro hnone k
    rw [hnone]
    simp
  cases hstep with
  | launch hposition hopen =>
    have hnone : w.position.unnoted = [] := by rw [hposition]; rfl
    exact h.of_same (openStates_runs hopen) (openStates_noted hopen) rfl (hstill hnone)
  | start hposition =>
    have hnone : w.position.unnoted = [] := by rw [hposition]; rfl
    exact h.of_same rfl rfl rfl (hstill hnone)
  | skip hposition =>
    have hnone : w.position.unnoted = [] := by rw [hposition]; rfl
    exact h.of_same rfl rfl rfl (hstill hnone)
  | reject hposition =>
    have hnone : w.position.unnoted = [] := by rw [hposition]; rfl
    exact h.of_same rfl rfl rfl (hstill hnone)
  | execute hposition =>
    have hnone : w.position.unnoted = [] := by rw [hposition]; rfl
    exact h.of_same rfl rfl rfl (hstill hnone)
  | abandon => exact h.ended rfl rfl rfl rfl
  | @save known run record rest files hposition hsave =>
    rw [hposition] at hat
    obtain ⟨hsynced, hpassed, hnew, hbears⟩ := hat
    have hrun := (hpassed.first hnew).mem
    have hwrite := saveRun_ok hsave
    rw [hbears.evalRunId] at hwrite
    obtain rfl := DevelopmentFiles.writeOnce_new (hsynced.new_name hrun hnew) hwrite
    have hunnoted : w.position.unnoted = [] := by rw [hposition]; rfl
    have hsaved := h.saved
    rw [hunnoted] at hsaved
    have hunsaved : ¬ w.Saved run := fun hsaved => hnew ((hsynced.known run hrun).mpr hsaved)
    have hsynced' : Synced d
        { w with
          files := { w.files with runs := w.files.runs ++
            [(runFile run.evalRunId, some (V3RunRecord.schema.dump record))] }
          position := .saved known run rest } (known ++ [run.key]) :=
      hsynced.save hrun rfl
    refine ⟨h.nodup, fun p hp => ?_, h.planned, fun p hp hgone => ?_, fun k hk hlost => ?_⟩
    · rw [← hsynced'.known p hp, List.mem_append, hsynced.known p hp, hsaved p hp]
      simp only [RunnerPosition.unnoted, List.not_mem_nil, or_false]
      exact or_assoc
    · rcases hgone with hgone | hkey
      · exact h.lost p hp (Or.inl hgone)
      · intro hnoted
        have hid := DevelopmentRunner.evalRunId_of_key (List.mem_singleton.mp hkey)
        exact hunsaved ((hsaved run hrun).mpr (Or.inl (hid ▸ hnoted)))
    · rw [List.mem_singleton.mp hk] at hlost
      exact hunsaved ((hsaved run hrun).mpr (Or.inr (Or.inl hlost)))
  | @note known run rest files hposition hnote =>
    rw [hposition] at hat
    obtain ⟨hsynced, before, hplan, -⟩ := hat
    have hrun : run ∈ d.plan := by
      rw [hplan]
      exact List.mem_append_right _ List.mem_cons_self
    have hunnoted : w.position.unnoted = [run.key] := by rw [hposition]; rfl
    have hway : run.key ∈ w.position.unnoted := hunnoted ▸ List.mem_singleton.mpr rfl
    have hnew := h.lost run hrun (Or.inr hway)
    have hadded := recordRun_noted hpackage hnote hnew
    have hsame : ∀ p ∈ d.plan, p.evalRunId = run.evalRunId ↔ p.key = run.key := fun p hp =>
      ⟨DevelopmentRunner.key_of_evalRunId hp hrun, DevelopmentRunner.evalRunId_of_key⟩
    refine ⟨?_, fun p hp => ?_, fun id hid => ?_, fun p hp hgone => ?_,
      fun _ h => absurd h List.not_mem_nil⟩
    · rw [noted, hadded]
      exact List.Nodup.append h.nodup (List.nodup_singleton _) (List.disjoint_singleton.mpr hnew)
    · have hsaved := h.saved p hp
      rw [Saved, noted, hunnoted, List.mem_singleton] at hsaved
      rw [Saved, recordRun_runs hnote, noted, hadded, List.mem_append, List.mem_singleton,
        hsame p hp, hsaved, or_assoc, or_comm (a := p.key = run.key)]
      simp only [RunnerPosition.unnoted, List.not_mem_nil, or_false]
    · rw [noted, hadded, List.mem_append] at hid
      rcases hid with hid | hid
      · exact h.planned id hid
      · exact ⟨run, hrun, (List.mem_singleton.mp hid).symm⟩
    · rw [noted, hadded, List.mem_append, List.mem_singleton, hsame p hp]
      rcases hgone with hgone | hgone
      · rintro (hnoted | hkey)
        · exact h.lost p hp (Or.inl hgone) hnoted
        · exact h.fresh _ hway (hkey ▸ hgone)
      · cases hgone
  | finish hposition =>
    have hnone : w.position.unnoted = [] := by rw [hposition]; rfl
    exact h.of_same rfl rfl rfl (hstill hnone)
  | crash => exact h.ended rfl rfl rfl rfl
  | @cutRun known run record rest files hposition hsave hchanged =>
    have hnone : w.position.unnoted = [] := by rw [hposition]; rfl
    rw [hposition] at hat
    obtain ⟨hsynced, hpassed, hnew, hbears⟩ := hat
    refine ⟨h.nodup, fun p hp => ?_, h.planned, fun p hp hgone => ?_,
      fun _ h => absurd h List.not_mem_nil⟩
    · have hsaved := h.saved p hp
      rw [hnone] at hsaved
      rw [Saved, DevelopmentWorld.ended, hnone, List.append_nil]
      simp only [List.mem_append, List.mem_singleton, Prod.mk.injEq, reduceCtorEq, and_false,
        or_false]
      exact hsaved
    · rw [DevelopmentWorld.ended, hnone, List.append_nil] at hgone
      refine h.lost p hp (Or.inl ?_)
      rcases hgone with hgone | hgone
      · exact hgone
      · cases hgone
  | cutState =>
    refine h.ended rfl ?_ rfl rfl
    rw [noted, noted, List.filterMap_append]
    exact List.append_nil _

end Noted

variable [EvalText] [RunDigest] [LedgerDigest]

/-- With a package, the ledger of states has noted every saved run once, but for those whose
    process ended between the two writes: these are never noted. -/
theorem ledger_misses_exactly (h : Reachable d w) {package : ExecutionPackage}
    (hpackage : d.executionPackage = some package) :
    w.noted.Nodup ∧ (∀ id ∈ w.noted, ∃ p ∈ d.plan, p.evalRunId = id) ∧
    ∀ p ∈ d.plan, p.evalRunId ∈ w.noted ↔
      w.Saved p ∧ p.key ∉ w.lost ∧ p.key ∉ w.position.unnoted := by
  have hnoted : Noted d w := by
    induction h with
    | empty => exact .empty
    | step hreachable hstep ih => exact ih.step hreachable.valid hpackage hstep
  refine ⟨hnoted.nodup, hnoted.planned, fun p hp => ?_⟩
  rw [hnoted.saved p hp]
  constructor
  · intro hid
    refine ⟨Or.inl hid, fun hlost => ?_, fun hway => ?_⟩
    · exact hnoted.lost p hp (Or.inl hlost) hid
    · exact hnoted.lost p hp (Or.inr hway) hid
  · rintro ⟨hid | hlost | hway, hkept, hnoway⟩
    · exact hid
    · exact absurd hlost hkept
    · exact absurd hway hnoway

end DevelopmentWorld

end AfterSales.V3

namespace AfterSales.V3.DevelopmentWorld

section EndsEarly

attribute [local instance] EvalText.plain sampleRunDigest spelledLedger

/-- The run of the agent has a record, and the ledger does not have it. -/
theorem endedEarly_not_noted :
    endedEarly.Saved agentRun ∧ agentRun.evalRunId ∉ endedEarly.noted := by
  refine ⟨⟨_, rejection_saved⟩, fun hnoted => ?_⟩
  obtain ⟨-, -, hexactly⟩ := ledger_misses_exactly endedEarly_reachable rfl
  exact ((hexactly agentRun List.mem_cons_self).mp hnoted).2.1 (List.mem_singleton.mpr rfl)

end EndsEarly

end AfterSales.V3.DevelopmentWorld
