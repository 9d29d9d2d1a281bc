import Zentra.HarvestSystem
import Zentra.HarvestSteps

/-!
# The end of a harvest

One execution of a run and any number of calls of `cancel_harvest` for it, each a load and
a save of a copy of the whole row.

* `HarvestSystem.RowChange` — what a statement does to the row of the run;
* `ended_stays_iff` — a run that has ended stays as it ended exactly if no cancellation
  that was loaded before the end is saved after it, and a request to cancel is never
  erased.
-/

open Raising Raising.Method StepTrace TableRows

namespace Zentra

namespace Connector

namespace HarvestSystem

variable {source : DataSource} {s t : HarvestSystem} {action : HarvestAction}
  {harvestRunId : UUID}

theorem rowOf_savedInto (harvestRunId : UUID) (run : HarvestRun) (rows : List HarvestRun) :
    rowOf harvestRunId (savedInto run rows) =
      (rowOf harvestRunId rows).map fun row =>
        if run.SavedTo row then run.savedOver row else row := by
  unfold rowOf savedInto update
  rw [List.find?_map]
  congr 2
  funext row
  by_cases hsaved : run.SavedTo row
  · have hid : (run.savedOver row).harvestRunId = row.harvestRunId := hsaved.1.symm
    simp [hsaved, hid]
  · simp [hsaved]

theorem begin_active {dataSourceId organizationId : UUID} {scope : HarvestScope}
    {budget : HarvestBudget} :
    ¬ (HarvestRun.begin harvestRunId dataSourceId organizationId scope budget).IsTerminal := by
  show HarvestPhase.pending ∉ terminalPhases
  decide

/-- What a statement does to the row of the run. -/
inductive RowChange (s : HarvestSystem) (harvestRunId : UUID) :
    HarvestAction → Option HarvestRun → Option HarvestRun → Prop
  | kept {action : HarvestAction} {row : Option HarvestRun} :
      RowChange s harvestRunId action row row
  | started {action : HarvestAction} {run : HarvestRun} (active : ¬ run.IsTerminal) :
      RowChange s harvestRunId action none (some run)
  | saved {worker : Nat} {run row : HarvestRun} (held : s.workers worker = some run)
      (same : run.harvestRunId = harvestRunId) :
      RowChange s harvestRunId (.save worker) (some row) (some (run.savedOver row))
  | cancelled {canceller : Nat} {run row : HarvestRun}
      (held : s.cancelling canceller = some run) (same : run.harvestRunId = harvestRunId) :
      RowChange s harvestRunId (.cancelSave canceller) (some row) (some (run.savedOver row))

theorem rowChange_of_step (harvestRunId : UUID) (hstep : s.step source action = some t) :
    RowChange s harvestRunId action (rowOf harvestRunId s.rows)
      (rowOf harvestRunId t.rows) := by
  cases change_of_step hstep with
  | check _ => exact .kept
  | @insert starter inserted scope budget _ _ =>
      show RowChange _ _ _ _ (rowOf harvestRunId (s.rows ++ [_]))
      unfold rowOf
      rw [List.find?_append]
      cases hrow : s.rows.find? fun row => row.harvestRunId = harvestRunId with
      | some row => exact .kept
      | none =>
          rw [Option.none_or, List.find?_singleton]
          split
          · exact .started begin_active
          · exact .kept
  | load _ _ => exact .kept
  | work _ => exact .kept
  | @save worker run hheld =>
      show RowChange _ _ _ _ (rowOf harvestRunId (savedInto run s.rows))
      rw [rowOf_savedInto]
      cases hrow : rowOf harvestRunId s.rows with
      | none => exact .kept
      | some row =>
          rw [Option.map_some]
          split
          next hsaved => exact .saved hheld (hsaved.1.symm.trans (rowOf_mem hrow).2)
          next => exact .kept
  | cancelLoad _ _ => exact .kept
  | @cancelSave canceller run hheld =>
      show RowChange _ _ _ _ (rowOf harvestRunId (savedInto run s.rows))
      rw [rowOf_savedInto]
      cases hrow : rowOf harvestRunId s.rows with
      | none => exact .kept
      | some row =>
          rw [Option.map_some]
          split
          next hsaved => exact .cancelled hheld (hsaved.1.symm.trans (rowOf_mem hrow).2)
          next => exact .kept

def OnlyExecution (harvestRunId : UUID) : HarvestAction → Prop
  | .load worker loaded => loaded = harvestRunId → worker = 0
  | _ => True

instance (harvestRunId : UUID) : DecidablePred (OnlyExecution harvestRunId)
  | .load _ _ => inferInstanceAs (Decidable (_ → _))
  | .check _ => .isTrue trivial
  | .insert _ _ _ _ => .isTrue trivial
  | .work _ _ => .isTrue trivial
  | .save _ => .isTrue trivial
  | .cancelLoad _ _ => .isTrue trivial
  | .cancelSave _ => .isTrue trivial

/-- A statement while only one party executes the run. -/
def raceStep (source : DataSource) (harvestRunId : UUID) (s : HarvestSystem)
    (action : HarvestAction) : Option HarvestSystem :=
  if OnlyExecution harvestRunId action then s.step source action else none

/-- A run that has ended has the same end later. -/
def KeepsEnd (harvestRunId : UUID) (s t : HarvestSystem) : Prop :=
  ∀ row ∈ rowOf harvestRunId s.rows, row.IsTerminal →
    ∃ after ∈ rowOf harvestRunId t.rows,
      after.phase = row.phase ∧ after.catalogVersionId = row.catalogVersionId

/-- A request to cancel the run is on record later. -/
def KeepsRequest (harvestRunId : UUID) (s t : HarvestSystem) : Prop :=
  ∀ row ∈ rowOf harvestRunId s.rows, row.cancellationRequested = true →
    ∃ after ∈ rowOf harvestRunId t.rows, after.cancellationRequested = true

/-- The action saves no request to cancel the run once the run has ended. -/
def NoLateCancel (harvestRunId : UUID) (s : HarvestSystem) (action : HarvestAction) : Prop :=
  ∀ canceller, action = .cancelSave canceller → ∀ run ∈ s.cancelling canceller,
    run.harvestRunId = harvestRunId → ∀ row ∈ rowOf harvestRunId s.rows, ¬ row.IsTerminal

theorem KeepsEnd.refl (s : HarvestSystem) : KeepsEnd harvestRunId s s :=
  fun row hrow _ => ⟨row, hrow, rfl, rfl⟩

theorem KeepsEnd.trans {u : HarvestSystem} (hst : KeepsEnd harvestRunId s t)
    (htu : KeepsEnd harvestRunId t u) : KeepsEnd harvestRunId s u := by
  intro row hrow hended
  obtain ⟨after, hafter, hphase, hversion⟩ := hst row hrow hended
  have hended' : after.IsTerminal := by
    unfold HarvestRun.IsTerminal at hended ⊢
    rwa [hphase]
  obtain ⟨last, hlast, hphase', hversion'⟩ := htu after hafter hended'
  exact ⟨last, hlast, hphase'.trans hphase, hversion'.trans hversion⟩

theorem KeepsRequest.refl (s : HarvestSystem) : KeepsRequest harvestRunId s s :=
  fun row hrow hrequested => ⟨row, hrow, hrequested⟩

theorem KeepsRequest.trans {u : HarvestSystem} (hst : KeepsRequest harvestRunId s t)
    (htu : KeepsRequest harvestRunId t u) : KeepsRequest harvestRunId s u := by
  intro row hrow hrequested
  obtain ⟨after, hafter, hrequested'⟩ := hst row hrow hrequested
  exact htu after hafter hrequested'

/-- **No save erases a request.** -/
theorem keepsRequest_of_step (hstep : s.step source action = some t) :
    KeepsRequest harvestRunId s t := by
  intro row hrow hrequested
  have hchange := rowChange_of_step harvestRunId hstep
  have hover : ∀ run : HarvestRun, (run.savedOver row).cancellationRequested = true := by
    intro run
    show (run.cancellationRequested || row.cancellationRequested) = true
    rw [hrequested, Bool.or_true]
  rw [Option.mem_def.1 hrow] at hchange
  generalize hafter : rowOf harvestRunId t.rows = after at hchange ⊢
  cases hchange with
  | kept => exact ⟨row, rfl, hrequested⟩
  | saved _ _ => exact ⟨_, rfl, hover _⟩
  | cancelled _ _ => exact ⟨_, rfl, hover _⟩

/-- One party executes the run, and its copy agrees with a row that has ended. -/
structure Executed (source : DataSource) (harvestRunId : UUID) (s : HarvestSystem) : Prop where
  filed : s.Filed source
  alone : ∀ worker run, s.workers worker = some run → run.harvestRunId = harvestRunId →
    worker = 0
  agrees : ∀ worker run, s.workers worker = some run → run.harvestRunId = harvestRunId →
    ∀ row ∈ rowOf harvestRunId s.rows, row.IsTerminal →
      run.phase = row.phase ∧ run.catalogVersionId = row.catalogVersionId

/-- The copies of the executions after a statement: those from before, one loaded, or one
that a method has changed. -/
theorem workers_of_step (hstep : s.step source action = some t) {worker : Nat}
    {run : HarvestRun} (hheld : t.workers worker = some run) :
    s.workers worker = some run ∨
      (t.rows = s.rows ∧ action = .load worker run.harvestRunId ∧
        rowOf run.harvestRunId s.rows = some run) ∨
      ∃ (call : HarvestRunCall) (before : HarvestRun), t.rows = s.rows ∧
        s.workers worker = some before ∧ run = call.method.after before := by
  cases change_of_step hstep with
  | check _ => exact .inl hheld
  | insert _ _ => exact .inl hheld
  | load _ hfound =>
      rcases held_update hheld with ⟨rfl, htaken⟩ | hbefore
      · cases htaken
        have hid := (rowOf_mem hfound).2
        subst hid
        exact .inr (.inl ⟨rfl, rfl, hfound⟩)
      · exact .inl hbefore
  | work hworking =>
      rcases held_update hheld with ⟨rfl, htaken⟩ | hbefore
      · exact .inr (.inr ⟨_, _, rfl, hworking, (Option.some.inj htaken).symm⟩)
      · exact .inl hbefore
  | save _ => exact .inl hheld
  | cancelLoad _ _ => exact .inl hheld
  | cancelSave _ => exact .inl hheld

theorem Executed.alone_step (h : Executed source harvestRunId s)
    (honly : OnlyExecution harvestRunId action) (hstep : s.step source action = some t)
    (worker : Nat) (run : HarvestRun) (hheld : t.workers worker = some run)
    (hid : run.harvestRunId = harvestRunId) : worker = 0 := by
  rcases workers_of_step hstep hheld with
    hbefore | ⟨-, rfl, -⟩ | ⟨call, before, -, hbefore, rfl⟩
  · exact h.alone worker run hbefore hid
  · exact honly hid
  · exact h.alone worker before hbefore ((call.kept before).harvestRunId.symm.trans hid)

/-- **The execution agrees with an ended row** after every statement but a late
cancellation. -/
theorem Executed.agrees_step (h : Executed source harvestRunId s)
    (hcancel : NoLateCancel harvestRunId s action) (hstep : s.step source action = some t)
    (worker : Nat) (run : HarvestRun) (hheld : t.workers worker = some run)
    (hid : run.harvestRunId = harvestRunId) :
    ∀ row ∈ rowOf harvestRunId t.rows, row.IsTerminal →
      run.phase = row.phase ∧ run.catalogVersionId = row.catalogVersionId := by
  intro row hrow hended
  rcases workers_of_step hstep hheld with
    hbefore | ⟨hrows, -, hfound⟩ | ⟨call, before, hrows, hbefore, rfl⟩
  · have hchange := rowChange_of_step harvestRunId hstep
    rw [Option.mem_def.1 hrow] at hchange
    generalize hrowOf : rowOf harvestRunId s.rows = old at hchange
    cases hchange with
    | kept => exact h.agrees worker run hbefore hid row hrowOf hended
    | started hactive => exact absurd hended hactive
    | @saved saver saved old hsaver hsame =>
        have hworker : worker = saver :=
          (h.alone worker run hbefore hid).trans (h.alone saver saved hsaver hsame).symm
        subst hworker
        rw [hbefore] at hsaver
        cases hsaver
        exact ⟨rfl, rfl⟩
    | @cancelled canceller copy old hcanceller hsame =>
        have hactive := (h.filed.cancelling canceller copy hcanceller).1
        exact absurd hended hactive
  · rw [hrows, ← hid, Option.mem_def, hfound] at hrow
    cases hrow
    exact ⟨rfl, rfl⟩
  · rw [hrows] at hrow
    have hbeforeId : before.harvestRunId = harvestRunId :=
      (call.kept before).harvestRunId.symm.trans hid
    obtain ⟨hphase, hversion⟩ := h.agrees worker before hbefore hbeforeId row hrow hended
    have hterminal : before.IsTerminal := by
      unfold HarvestRun.IsTerminal at hended ⊢
      rwa [hphase]
    obtain ⟨hphase', hversion'⟩ := call.terminal_kept hterminal
    exact ⟨hphase'.trans hphase, hversion'.trans hversion⟩

/-- **The end of the run stays** at every statement but a late cancellation. -/
theorem Executed.keepsEnd (h : Executed source harvestRunId s)
    (hcancel : NoLateCancel harvestRunId s action) (hstep : s.step source action = some t) :
    KeepsEnd harvestRunId s t := by
  intro row hrow hended
  have hchange := rowChange_of_step harvestRunId hstep
  generalize hafter : rowOf harvestRunId t.rows = after at hchange ⊢
  generalize hrowOf : rowOf harvestRunId s.rows = old at hchange hrow
  rw [Option.mem_def] at hrow
  subst hrow
  cases hchange with
  | kept => exact ⟨row, rfl, rfl, rfl⟩
  | saved hheld hsame =>
      obtain ⟨hphase, hversion⟩ := h.agrees _ _ hheld hsame row hrowOf hended
      exact ⟨_, rfl, hphase, hversion⟩
  | cancelled hheld hsame =>
      exact absurd hended (hcancel _ rfl _ hheld hsame row hrowOf)

theorem noLateCancel_of_keepsEnd (h : Executed source harvestRunId s)
    (hstep : s.step source action = some t) (hkeeps : KeepsEnd harvestRunId s t) :
    NoLateCancel harvestRunId s action := by
  rintro canceller rfl run hheld hsame row hrow hended
  obtain ⟨after, hafter, hphase, -⟩ := hkeeps row hrow hended
  obtain ⟨hactive, filed, hfiled, hsaved⟩ := h.filed.cancelling canceller run hheld
  have hrowFiled : row = filed := by
    refine h.filed.eq_of_id (rowOf_mem hrow).1 hfiled ?_
    exact ((rowOf_mem hrow).2.trans hsame.symm).trans hsaved.1.symm
  subst hrowFiled
  have hrows : t.rows = savedInto run s.rows := by
    cases change_of_step hstep with
    | cancelSave hheld' =>
        rw [hheld] at hheld'
        cases hheld'
        rfl
  rw [hrows, rowOf_savedInto, Option.mem_def.1 hrow, Option.map_some, if_pos hsaved] at hafter
  cases hafter
  refine hactive ?_
  unfold HarvestRun.IsTerminal at hended ⊢
  rwa [show run.phase = row.phase from hphase]

theorem step_of_raceStep (h : raceStep source harvestRunId s action = some t) :
    OnlyExecution harvestRunId action ∧ s.step source action = some t := by
  unfold raceStep at h
  split at h
  next honly => exact ⟨honly, h⟩
  next => cases h

/-- **The end of a harvest.**  Over every interleaving of one execution of a run with any
number of cancellations of it, the run stays ended as it ended exactly if no cancellation
is saved after the end; and no save erases a request to cancel. -/
theorem ended_stays_iff (source : DataSource) (harvestRunId : UUID) (start : HarvestSystem)
    (hfiled : start.Filed source) (hidle : ∀ worker, start.workers worker = none)
    (actions : List HarvestAction) (final : HarvestSystem)
    (hrun : StepTrace.run (raceStep source harvestRunId) start actions = some final) :
    (Stays (raceStep source harvestRunId) (KeepsEnd harvestRunId) start actions ↔
      Allowed (raceStep source harvestRunId) (NoLateCancel harvestRunId) start actions) ∧
    Stays (raceStep source harvestRunId) (KeepsRequest harvestRunId) start actions := by
  have hexecuted : Executed source harvestRunId start := by
    refine ⟨hfiled, ?_, ?_⟩
    · intro worker run hheld
      rw [hidle] at hheld
      cases hheld
    · intro worker run hheld
      rw [hidle] at hheld
      cases hheld
  constructor
  · refine stays_iff_allowed (Executed source harvestRunId) KeepsEnd.refl
      (fun _ _ _ => KeepsEnd.trans) ?_ ?_ actions start final hexecuted hrun
    · intro s action t h hcancel hstep
      obtain ⟨honly, hstep⟩ := step_of_raceStep hstep
      exact ⟨⟨h.filed.step hstep, h.alone_step honly hstep, h.agrees_step hcancel hstep⟩,
        h.keepsEnd hcancel hstep⟩
    · intro s action t h hstep hkeeps
      exact noLateCancel_of_keepsEnd h (step_of_raceStep hstep).2 hkeeps
  · have hallowed : Allowed (raceStep source harvestRunId) (fun _ _ => True) start actions :=
      allowed_of_forall (fun _ _ _ => trivial) start
    refine (stays_iff_allowed (fun _ => True) KeepsRequest.refl
      (fun _ _ _ => KeepsRequest.trans) ?_ ?_ actions start final trivial hrun).2 hallowed
    · intro s action t _ _ hstep
      exact ⟨trivial, keepsRequest_of_step (step_of_raceStep hstep).2⟩
    · exact fun _ _ _ _ _ _ => trivial

/-! A harvest of an empty source, and one call of `cancel_harvest`. -/

def phaseActions (phase : HarvestPhase) (now : Int) : List HarvestAction :=
  [.work 0 (.advance phase now), .save 0]

/-- The harvest is started, and its execution is under way. -/
def startedActions : List HarvestAction :=
  [.check 0, .insert 0 20 {} {}, .load 0 20] ++ phaseActions .connecting 5

def completedActions : List HarvestAction :=
  phaseActions .listingTables 6 ++ phaseActions .describingFields 7 ++
    phaseActions .profiling 8 ++ phaseActions .inferringRelations 9 ++
    [.work 0 (.complete 10 10), .save 0]

/-- The request is made while the execution is under way. -/
def cancelledInTime : List HarvestAction :=
  startedActions ++ [.cancelLoad 0 20, .cancelSave 0] ++ phaseActions .listingTables 6 ++
    [.work 0 (.cancel 7), .save 0]

theorem ended_stays_cancelled :
    ∃ final, StepTrace.run (raceStep warehouse 20) idle cancelledInTime = some final ∧
      (Stays (raceStep warehouse 20) (KeepsEnd 20) idle cancelledInTime ↔
        Allowed (raceStep warehouse 20) (NoLateCancel 20) idle cancelledInTime) ∧
      Stays (raceStep warehouse 20) (KeepsRequest 20) idle cancelledInTime :=
  ⟨_, rfl, ended_stays_iff warehouse 20 idle idle_filed (fun _ => rfl) cancelledInTime _ rfl⟩

/-- The request is made from a copy that was loaded before the execution was
completed. -/
def cancelledLate : List HarvestAction :=
  startedActions ++ [.cancelLoad 0 20] ++ completedActions ++ [.cancelSave 0]

/-- **A completed harvest is active again**, and its version is lost. -/
theorem ended_reopened :
    ∃ done final,
      StepTrace.run (raceStep warehouse 20) idle
        (startedActions ++ [.cancelLoad 0 20] ++ completedActions) = some done ∧
      raceStep warehouse 20 done (.cancelSave 0) = some final ∧
      (∃ row ∈ rowOf 20 done.rows, row.phase = .completed ∧
        row.catalogVersionId = some 10) ∧
      (∃ row ∈ rowOf 20 final.rows, row.phase = .connecting ∧
        row.catalogVersionId = none) ∧
      ¬ Stays (raceStep warehouse 20) (KeepsEnd 20) idle cancelledLate := by
  refine ⟨_, _, rfl, rfl, ⟨_, rfl, rfl, rfl⟩, ⟨_, rfl, rfl, rfl⟩, ?_⟩
  intro hstays
  have hkeeps := hstays (startedActions ++ [.cancelLoad 0 20] ++ completedActions)
    [.cancelSave 0] [] _ _ rfl (exec_of_run rfl) (exec_of_run rfl)
  obtain ⟨after, hafter, hphase, -⟩ := hkeeps _ rfl (by decide)
  cases hafter
  cases hphase

end HarvestSystem

end Connector

end Zentra
