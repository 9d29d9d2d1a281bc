import Zentra.HarvestExecution

/-!
# Starting, executing and cancelling the harvests of one source

Every call of the repository is a transaction of its own.  `start_harvest` looks for a run
that is active and adds its own in another one; an execution and `cancel_harvest` load a
run, change their copy and write all of it back.  Any number of calls are under way at the
same time, and the table has no constraint but its primary key.

An execution may do more here than `execute_harvest` does: it calls the methods of its
copy in any order, and saves it when it likes.

* `HarvestSystem.Filed` — every copy is a copy of a row;
* `one_active_iff` — at most one run is active throughout exactly if no run is written as
  active while another one is.
-/

open Raising Raising.Method StepTrace TableRows

namespace Zentra

namespace Connector

/-- The runs of one source, and what the parties hold. -/
structure HarvestSystem where
  rows : List HarvestRun
  /-- the calls of `start_harvest` that have found no active run -/
  starting : Nat → Bool := fun _ => false
  /-- the copy of each execution -/
  workers : Nat → Option HarvestRun := fun _ => none
  /-- the copy of each call of `cancel_harvest` -/
  cancelling : Nat → Option HarvestRun := fun _ => none

/-- A statement of one of the parties. -/
inductive HarvestAction
  | check (starter : Nat)
  | insert (starter : Nat) (harvestRunId : UUID) (scope : HarvestScope)
      (budget : HarvestBudget)
  | load (worker : Nat) (harvestRunId : UUID)
  | work (worker : Nat) (call : HarvestRunCall)
  | save (worker : Nat)
  | cancelLoad (canceller : Nat) (harvestRunId : UUID)
  | cancelSave (canceller : Nat)
  deriving DecidableEq

def activeForSource (rows : List HarvestRun) : Option HarvestRun :=
  rows.find? fun row => ¬ row.IsTerminal

/-- `get`. -/
def rowOf (harvestRunId : UUID) (rows : List HarvestRun) : Option HarvestRun :=
  rows.find? fun row => row.harvestRunId = harvestRunId

/-- `save`. -/
def savedInto (run : HarvestRun) (rows : List HarvestRun) : List HarvestRun :=
  update run.SavedTo run.savedOver rows

namespace HarvestSystem

variable (source : DataSource)

/-- What the statement of a party does; a call that raises is not a step. -/
def step (s : HarvestSystem) : HarvestAction → Option HarvestSystem
  | .check starter =>
      match activeForSource s.rows with
      | some _ => none
      | none => some { s with starting := Function.update s.starting starter true }
  | .insert starter harvestRunId scope budget =>
      if s.starting starter ∧ harvestRunId ∉ s.rows.map (·.harvestRunId) then
        some { s with
          rows := s.rows ++
            [.begin harvestRunId source.dataSourceId source.organizationId scope budget]
          starting := Function.update s.starting starter false }
      else none
  | .load worker harvestRunId =>
      match s.workers worker, rowOf harvestRunId s.rows with
      | none, some row =>
          some { s with workers := Function.update s.workers worker (some row) }
      | _, _ => none
  | .work worker call =>
      match s.workers worker with
      | some run =>
          some { s with
            workers := Function.update s.workers worker (some (call.method.after run)) }
      | none => none
  | .save worker =>
      match s.workers worker with
      | some run => some { s with rows := savedInto run s.rows }
      | none => none
  | .cancelLoad canceller harvestRunId =>
      match rowOf harvestRunId s.rows with
      | some row =>
          if row.IsTerminal then none
          else
            some { s with
              cancelling := Function.update s.cancelling canceller
                (some (HarvestRun.requestCancellation.after row)) }
      | none => none
  | .cancelSave canceller =>
      match s.cancelling canceller with
      | some run =>
          some { s with
            rows := savedInto run s.rows
            cancelling := Function.update s.cancelling canceller none }
      | none => none

def written (s : HarvestSystem) : HarvestAction → Option HarvestRun
  | .insert _ harvestRunId scope budget =>
      some (.begin harvestRunId source.dataSourceId source.organizationId scope budget)
  | .save worker => s.workers worker
  | .cancelSave canceller => s.cancelling canceller
  | _ => none

def OneActive (s : HarvestSystem) : Prop :=
  ∀ row ∈ s.rows, ∀ other ∈ s.rows, ¬ row.IsTerminal → ¬ other.IsTerminal → row = other

/-- The action writes no run as active while another one is: the check of a start still
holds when its run is inserted, and no save brings a run back, or keeps it, next to an
active one. -/
def WritesAlone (s : HarvestSystem) (action : HarvestAction) : Prop :=
  ∀ run ∈ s.written source action, ¬ run.IsTerminal →
    ∀ row ∈ s.rows, ¬ run.SavedTo row → row.IsTerminal

instance (s : HarvestSystem) : DecidablePred (s.WritesAlone source) := fun _ =>
  inferInstanceAs (Decidable (∀ _ ∈ _, _))

variable {source} {s t : HarvestSystem} {run row : HarvestRun} {action : HarvestAction}

/-- The runs have distinct ids, all are runs of the organization, and every copy is a copy
of one of them. -/
structure Filed (source : DataSource) (s : HarvestSystem) : Prop where
  ids : (s.rows.map (·.harvestRunId)).Nodup
  organization : ∀ row ∈ s.rows, row.organizationId = source.organizationId
  workers : ∀ worker run, s.workers worker = some run → ∃ row ∈ s.rows, run.SavedTo row
  cancelling : ∀ canceller run, s.cancelling canceller = some run →
    ¬ run.IsTerminal ∧ ∃ row ∈ s.rows, run.SavedTo row

theorem rowOf_mem {harvestRunId : UUID} {rows : List HarvestRun}
    (h : rowOf harvestRunId rows = some row) :
    row ∈ rows ∧ row.harvestRunId = harvestRunId := by
  have hid := List.find?_some h
  exact ⟨List.mem_of_find?_eq_some h, by simpa using hid⟩

theorem savedInto_keys (run : HarvestRun) (rows : List HarvestRun) :
    (savedInto run rows).map (fun row => (row.harvestRunId, row.organizationId)) =
      rows.map fun row => (row.harvestRunId, row.organizationId) := by
  unfold savedInto update
  rw [List.map_map]
  refine List.map_congr_left fun row _ => ?_
  show (fun row : HarvestRun => (row.harvestRunId, row.organizationId))
    (if run.SavedTo row then run.savedOver row else row) = _
  split
  next hsaved => exact Prod.ext hsaved.1.symm hsaved.2.symm
  next => rfl

theorem savedInto_ids (run : HarvestRun) (rows : List HarvestRun) :
    (savedInto run rows).map (·.harvestRunId) = rows.map (·.harvestRunId) := by
  have hkeys := congrArg (List.map Prod.fst) (savedInto_keys run rows)
  rw [List.map_map, List.map_map] at hkeys
  exact hkeys

/-- A row that was there is there after a save, under its key. -/
theorem exists_savedInto {rows : List HarvestRun} {saved : HarvestRun}
    (h : ∃ row ∈ rows, run.SavedTo row) : ∃ row ∈ savedInto saved rows, run.SavedTo row := by
  obtain ⟨row, hrow, hsaved⟩ := h
  have hkey : (row.harvestRunId, row.organizationId) ∈
      (savedInto saved rows).map fun row => (row.harvestRunId, row.organizationId) := by
    rw [savedInto_keys]
    exact List.mem_map_of_mem hrow
  obtain ⟨after, hafter, hsame⟩ := List.mem_map.1 hkey
  obtain ⟨hid, horganization⟩ := Prod.mk.inj hsame
  exact ⟨after, hafter, hid.trans hsaved.1, horganization.trans hsaved.2⟩

theorem mem_savedInto {rows : List HarvestRun} {after : HarvestRun}
    (h : after ∈ savedInto run rows) :
    (∃ row ∈ rows, run.SavedTo row ∧ after = run.savedOver row) ∨
      (after ∈ rows ∧ ¬ run.SavedTo after) := by
  obtain ⟨row, hrow, hafter⟩ := List.mem_map.1 h
  split at hafter
  next hsaved => exact .inl ⟨row, hrow, hsaved, hafter.symm⟩
  next hsaved =>
      subst hafter
      exact .inr ⟨hrow, hsaved⟩

theorem savedTo_call (call : HarvestRunCall) (h : run.SavedTo row) :
    (call.method.after run).SavedTo row := by
  have hkept := call.kept run
  exact ⟨h.1.trans hkept.harvestRunId.symm, h.2.trans hkept.organizationId.symm⟩

/-- What the statement of a party changes, and when it is made. -/
inductive Change (source : DataSource) (s : HarvestSystem) :
    HarvestAction → HarvestSystem → Prop
  | check {starter : Nat} (idle : ∀ row ∈ s.rows, row.IsTerminal) :
      Change source s (.check starter)
        { s with starting := Function.update s.starting starter true }
  | insert {starter : Nat} {harvestRunId : UUID} {scope : HarvestScope}
      {budget : HarvestBudget} (checked : s.starting starter = true)
      (fresh : harvestRunId ∉ s.rows.map (·.harvestRunId)) :
      Change source s (.insert starter harvestRunId scope budget)
        { s with
          rows := s.rows ++
            [.begin harvestRunId source.dataSourceId source.organizationId scope budget]
          starting := Function.update s.starting starter false }
  | load {worker : Nat} {harvestRunId : UUID} {row : HarvestRun}
      (free : s.workers worker = none) (found : rowOf harvestRunId s.rows = some row) :
      Change source s (.load worker harvestRunId)
        { s with workers := Function.update s.workers worker (some row) }
  | work {worker : Nat} {call : HarvestRunCall} {run : HarvestRun}
      (held : s.workers worker = some run) :
      Change source s (.work worker call)
        { s with workers := Function.update s.workers worker (some (call.method.after run)) }
  | save {worker : Nat} {run : HarvestRun} (held : s.workers worker = some run) :
      Change source s (.save worker) { s with rows := savedInto run s.rows }
  | cancelLoad {canceller : Nat} {harvestRunId : UUID} {row : HarvestRun}
      (found : rowOf harvestRunId s.rows = some row) (active : ¬ row.IsTerminal) :
      Change source s (.cancelLoad canceller harvestRunId)
        { s with
          cancelling := Function.update s.cancelling canceller
            (some { row with cancellationRequested := true }) }
  | cancelSave {canceller : Nat} {run : HarvestRun}
      (held : s.cancelling canceller = some run) :
      Change source s (.cancelSave canceller)
        { s with
          rows := savedInto run s.rows
          cancelling := Function.update s.cancelling canceller none }

theorem activeForSource_eq_none {rows : List HarvestRun} :
    activeForSource rows = none ↔ ∀ row ∈ rows, row.IsTerminal := by
  unfold activeForSource
  rw [List.find?_eq_none]
  simp

theorem change_of_step (h : s.step source action = some t) : Change source s action t := by
  cases action with
  | check starter =>
      simp only [step] at h
      split at h
      next => cases h
      next hnone =>
          cases h
          exact .check (activeForSource_eq_none.1 hnone)
  | insert starter harvestRunId scope budget =>
      simp only [step] at h
      split at h
      next hinsert =>
          cases h
          exact .insert hinsert.1 hinsert.2
      next => cases h
  | load worker harvestRunId =>
      simp only [step] at h
      split at h
      next row hfree hfound =>
          cases h
          exact .load hfree hfound
      next => cases h
  | work worker call =>
      simp only [step] at h
      split at h
      next run hheld =>
          cases h
          exact .work hheld
      next => cases h
  | save worker =>
      simp only [step] at h
      split at h
      next run hheld =>
          cases h
          exact .save hheld
      next => cases h
  | cancelLoad canceller harvestRunId =>
      simp only [step] at h
      split at h
      next row hfound =>
          split at h
          next => cases h
          next hactive =>
              have hafter : HarvestRun.requestCancellation.after row =
                  { row with cancellationRequested := true } :=
                (HarvestRunCall.after_guard _ _ row).trans (if_neg hactive)
              rw [hafter] at h
              cases h
              exact .cancelLoad hfound hactive
      next => cases h
  | cancelSave canceller =>
      simp only [step] at h
      split at h
      next run hheld =>
          cases h
          exact .cancelSave hheld
      next => cases h

theorem Filed.saved (h : s.Filed source) (run : HarvestRun) :
    Filed source { s with rows := savedInto run s.rows } where
  ids := by
    show ((savedInto run s.rows).map _).Nodup
    rw [savedInto_ids]
    exact h.ids
  organization := by
    intro after hafter
    rcases mem_savedInto hafter with ⟨row, hrow, hsaved, rfl⟩ | ⟨hrow, -⟩
    · exact hsaved.2.symm.trans (h.organization row hrow)
    · exact h.organization after hrow
  workers := fun worker run hworker => exists_savedInto (h.workers worker run hworker)
  cancelling := by
    intro canceller run hcanceller
    obtain ⟨hactive, hfiled⟩ := h.cancelling canceller run hcanceller
    exact ⟨hactive, exists_savedInto hfiled⟩

theorem held_update {holders : Nat → Option HarvestRun} {holder other : Nat}
    {taken : Option HarvestRun}
    (h : Function.update holders holder taken other = some run) :
    (other = holder ∧ taken = some run) ∨ holders other = some run := by
  by_cases hsame : other = holder
  · subst hsame
    rw [Function.update_self] at h
    exact .inl ⟨rfl, h⟩
  · rw [Function.update_of_ne hsame] at h
    exact .inr h

/-- A property of every copy, when one party takes or drops a copy. -/
theorem forall_update {holders : Nat → Option HarvestRun} {property : HarvestRun → Prop}
    {holder : Nat} {taken : Option HarvestRun}
    (h : ∀ other run, holders other = some run → property run)
    (htaken : ∀ run, taken = some run → property run) :
    ∀ other run, Function.update holders holder taken other = some run → property run := by
  intro other run hother
  rcases held_update hother with ⟨-, htakes⟩ | hheld
  · exact htaken run htakes
  · exact h other run hheld

/-- **Every step keeps the copies filed.** -/
theorem Filed.step (h : s.Filed source) (hstep : s.step source action = some t) :
    t.Filed source := by
  cases change_of_step hstep with
  | check _ => exact ⟨h.ids, h.organization, h.workers, h.cancelling⟩
  | insert _ hfresh =>
      refine ⟨?_, ?_, ?_, ?_⟩
      · rw [List.map_append]
        exact List.nodup_append_comm.1 (List.nodup_cons.2 ⟨hfresh, h.ids⟩)
      · intro row hrow
        rcases List.mem_append.1 hrow with hold | hnew
        · exact h.organization row hold
        · rw [List.mem_singleton.1 hnew]
          rfl
      · intro worker run hworker
        obtain ⟨row, hrow, hsaved⟩ := h.workers worker run hworker
        exact ⟨row, List.mem_append_left _ hrow, hsaved⟩
      · intro canceller run hcanceller
        obtain ⟨hactive, row, hrow, hsaved⟩ := h.cancelling canceller run hcanceller
        exact ⟨hactive, row, List.mem_append_left _ hrow, hsaved⟩
  | load _ hfound =>
      refine ⟨h.ids, h.organization, forall_update h.workers ?_, h.cancelling⟩
      intro run hrun
      cases hrun
      exact ⟨_, (rowOf_mem hfound).1, rfl, rfl⟩
  | work hheld =>
      refine ⟨h.ids, h.organization, forall_update h.workers ?_, h.cancelling⟩
      intro after hafter
      cases hafter
      obtain ⟨row, hrow, hsaved⟩ := h.workers _ _ hheld
      exact ⟨row, hrow, savedTo_call _ hsaved⟩
  | save _ => exact h.saved _
  | cancelLoad hfound hactive =>
      refine ⟨h.ids, h.organization, h.workers, forall_update h.cancelling ?_⟩
      intro run hrun
      cases hrun
      exact ⟨hactive, _, (rowOf_mem hfound).1, rfl, rfl⟩
  | @cancelSave canceller run _ =>
      have hsaved := h.saved run
      refine ⟨hsaved.ids, hsaved.organization, hsaved.workers,
        forall_update hsaved.cancelling ?_⟩
      intro after hafter
      cases hafter

theorem rows_of_step (h : s.Filed source) (hstep : s.step source action = some t) :
    (t.rows = s.rows ∧ s.written source action = none) ∨
      (∃ run, s.written source action = some run ∧ t.rows = s.rows ++ [run] ∧
        run.harvestRunId ∉ s.rows.map (·.harvestRunId)) ∨
      ∃ run, s.written source action = some run ∧ t.rows = savedInto run s.rows ∧
        ∃ row ∈ s.rows, run.SavedTo row := by
  cases change_of_step hstep with
  | check _ => exact .inl ⟨rfl, rfl⟩
  | insert _ hfresh => exact .inr (.inl ⟨_, rfl, rfl, hfresh⟩)
  | load _ _ => exact .inl ⟨rfl, rfl⟩
  | work _ => exact .inl ⟨rfl, rfl⟩
  | save hheld => exact .inr (.inr ⟨_, hheld, rfl, h.workers _ _ hheld⟩)
  | cancelLoad _ _ => exact .inl ⟨rfl, rfl⟩
  | cancelSave hheld => exact .inr (.inr ⟨_, hheld, rfl, (h.cancelling _ _ hheld).2⟩)

theorem Filed.eq_of_id (h : s.Filed source) {other : HarvestRun} (hrow : row ∈ s.rows)
    (hother : other ∈ s.rows) (hid : row.harvestRunId = other.harvestRunId) : row = other :=
  List.inj_on_of_nodup_map h.ids hrow hother hid

theorem Filed.eq_of_savedTo (h : s.Filed source) {other : HarvestRun} (hrow : row ∈ s.rows)
    (hother : other ∈ s.rows) (hsaved : run.SavedTo row) (hsaved' : run.SavedTo other) :
    row = other :=
  h.eq_of_id hrow hother (hsaved.1.trans hsaved'.1.symm)

/-- **A run that is written alone** is the only active one. -/
theorem OneActive.step (h : s.Filed source) (hone : s.OneActive)
    (halone : s.WritesAlone source action) (hstep : s.step source action = some t) :
    t.OneActive := by
  rcases rows_of_step h hstep with
    ⟨hrows, -⟩ | ⟨run, hwritten, hrows, hfresh⟩ | ⟨run, hwritten, hrows, row, hrow, hsaved⟩
  · unfold OneActive
    rw [hrows]
    exact hone
  · have hothers : ¬ run.IsTerminal → ∀ row ∈ s.rows, row.IsTerminal := by
      intro hactive row hrow
      refine halone run hwritten hactive row hrow fun hsaved => ?_
      exact hfresh (hsaved.1 ▸ List.mem_map_of_mem hrow)
    intro first hfirst second hsecond hactive hactive'
    rw [hrows] at hfirst hsecond
    rcases List.mem_append.1 hfirst with hold | hnew
    · rcases List.mem_append.1 hsecond with hold' | hnew'
      · exact hone first hold second hold' hactive hactive'
      · obtain rfl := List.mem_singleton.1 hnew'
        exact absurd (hothers hactive' first hold) hactive
    · obtain rfl := List.mem_singleton.1 hnew
      rcases List.mem_append.1 hsecond with hold' | hnew'
      · exact absurd (hothers hactive second hold') hactive'
      · exact (List.mem_singleton.1 hnew').symm
  · intro first hfirst second hsecond hactive hactive'
    rw [hrows] at hfirst hsecond
    rcases mem_savedInto hfirst with ⟨old, hold, hto, rfl⟩ | ⟨hold, hnot⟩
    · obtain rfl := h.eq_of_savedTo hold hrow hto hsaved
      rcases mem_savedInto hsecond with ⟨old', hold', hto', rfl⟩ | ⟨hold', hnot'⟩
      · rw [h.eq_of_savedTo hold hold' hto hto']
      · exact absurd (halone run hwritten hactive second hold' hnot') hactive'
    · rcases mem_savedInto hsecond with ⟨old', hold', hto', rfl⟩ | ⟨hold', -⟩
      · exact absurd (halone run hwritten hactive' first hold hnot) hactive
      · exact hone first hold second hold' hactive hactive'

/-- **Only a run that is written alone** leaves at most one active run. -/
theorem writesAlone_of_oneActive (h : s.Filed source) (hstep : s.step source action = some t)
    (hone : t.OneActive) : s.WritesAlone source action := by
  intro run hrun hactive row hrow hnot
  by_contra hother
  rcases rows_of_step h hstep with
    ⟨-, hnone⟩ | ⟨added, hwritten, hrows, hfresh⟩ | ⟨saved, hwritten, hrows, old, hold, hto⟩
  · rw [hnone] at hrun
    cases hrun
  · rw [hwritten] at hrun
    cases hrun
    have hfirst : run ∈ t.rows := by
      rw [hrows]
      exact List.mem_append_right _ (List.mem_singleton.2 rfl)
    have hsecond : row ∈ t.rows := by
      rw [hrows]
      exact List.mem_append_left _ hrow
    obtain rfl := hone run hfirst row hsecond hactive hother
    exact hfresh (List.mem_map_of_mem hrow)
  · rw [hwritten] at hrun
    cases hrun
    have hfirst : run.savedOver old ∈ t.rows := by
      rw [hrows]
      exact List.mem_map.2 ⟨old, hold, if_pos hto⟩
    have hsecond : row ∈ t.rows := by
      rw [hrows]
      exact List.mem_map.2 ⟨row, hrow, if_neg hnot⟩
    obtain rfl := hone _ hfirst row hsecond hactive hother
    exact hnot ⟨rfl, rfl⟩

def warehouse : DataSource where
  dataSourceId := 1
  organizationId := 1

def idle : HarvestSystem where
  rows := []

theorem idle_filed : idle.Filed warehouse where
  ids := List.nodup_nil
  organization := by simp [idle]
  workers := by simp [idle]
  cancelling := by simp [idle]

/-- The second harvest is started after the first one has completed. -/
def startedInTurn : List HarvestAction :=
  [.check 0, .insert 0 20 {} {}, .load 0 20, .work 0 (.advance .connecting 5), .save 0,
    .cancelLoad 0 20, .cancelSave 0, .work 0 (.complete 10 6), .save 0, .check 1,
    .insert 1 21 {} {}]

/-- The second harvest is checked for before the first one is in the table. -/
def startedTogether : List HarvestAction :=
  [.check 0, .check 1, .insert 0 20 {} {}, .insert 1 21 {} {}]

end HarvestSystem

end Connector

end Zentra
