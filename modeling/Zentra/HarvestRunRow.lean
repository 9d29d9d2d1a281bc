import Zentra.HarvestExecution
import Zentra.RunRow

/-!
# The table of harvest runs

A run of a harvest has a row.  Most fields have a column; the scope and the budget are
documents; the number of fields that were not examined, and the reasons, are in neither
list of columns.

* `runFromRow_saved` — what is read back from a saved row;
* `harvest_round_trip_iff` — a run is read back in every field exactly if inference
  skipped no field of its source.
-/

open JsonDocument Raising Raising.Method StepTrace TableRows

namespace Zentra

namespace Connector

def scopeToJson (scope : HarvestScope) : Json := .object [
  ("databases", .array (scope.databases.map .string)),
  ("tables", .array (scope.tables.map .string))]

def budgetToJson (budget : HarvestBudget) : Json := .object [
  ("max_queries", .number budget.maxQueries),
  ("max_seconds", .number budget.maxSeconds),
  ("sample_rows", .number budget.sampleRows),
  ("queries_used", .number budget.queriesUsed),
  ("seconds_used", .number budget.secondsUsed)]

/-- `tuple(value or ())`. -/
def textsOrNone (value : Option Json) : Except RowError (List String) :=
  match value.filter Json.truthy with
  | some value => do
      let values ← items value
      values.mapM text
  | none => .ok []

/-- The scope of `row.scope or {}`. -/
def scopeFromJson (value : Json) : Except RowError HarvestScope :=
  if value.truthy then do
    let databases ← itemOrNone "databases" value >>= textsOrNone
    let tables ← itemOrNone "tables" value >>= textsOrNone
    return { databases, tables }
  else .ok {}

def number : Json → Except RowError ℚ
  | .number value => .ok value
  | _ => .error .typeError

def whole : Json → Except RowError Int
  | .number value => if value.den = 1 then .ok value.num else .error .typeError
  | _ => .error .typeError

/-- A keyword argument, or its default. -/
def argument {α : Type} (key : String) (default : α) (read : Json → Except RowError α)
    (members : Object) : Except RowError α :=
  match Object.get key members with
  | some value => read value
  | none => .ok default

/-- `HarvestBudget(**members)`. -/
def budgetOfMembers (members : Object) : Except RowError HarvestBudget :=
  if onlyKeys ["max_queries", "max_seconds", "sample_rows", "queries_used",
      "seconds_used"] members then do
    let maxQueries ← argument "max_queries" 500 whole members
    let maxSeconds ← argument "max_seconds" 900 number members
    let sampleRows ← argument "sample_rows" 10000 whole members
    let queriesUsed ← argument "queries_used" 0 whole members
    let secondsUsed ← argument "seconds_used" 0 number members
    return { maxQueries, maxSeconds, sampleRows, queriesUsed, secondsUsed }
  else .error .typeError

/-- The budget of `row.budget or {}`. -/
def budgetFromJson (value : Json) : Except RowError HarvestBudget :=
  if value.truthy then
    match value with
    | .object members => budgetOfMembers members
    | _ => .error .typeError
  else .ok {}

theorem textsOrNone_array (values : List String) :
    textsOrNone (some (.array (values.map .string))) = .ok values := by
  cases values with
  | nil => rfl
  | cons value rest =>
      have htext : ∀ value, text (.string value) = .ok value := fun _ => rfl
      exact mapM_map_eq_ok htext (value :: rest)

theorem scopeFromJson_scopeToJson (scope : HarvestScope) :
    scopeFromJson (scopeToJson scope) = .ok scope := by
  have htruthy : (scopeToJson scope).truthy = true := rfl
  unfold scopeFromJson
  rw [if_pos htruthy]
  refine bind_eq_ok.2 ⟨scope.databases, textsOrNone_array scope.databases, ?_⟩
  exact bind_eq_ok.2 ⟨scope.tables, textsOrNone_array scope.tables, rfl⟩

theorem whole_number (value : Int) : whole (.number value) = .ok value := by
  have hwhole : whole (.number value) =
      if (value : ℚ).den = 1 then .ok (value : ℚ).num else .error .typeError := rfl
  rw [hwhole, if_pos (Rat.den_intCast value), Rat.num_intCast]

theorem budgetFromJson_budgetToJson (budget : HarvestBudget) :
    budgetFromJson (budgetToJson budget) = .ok budget := by
  have htruthy : (budgetToJson budget).truthy = true := rfl
  unfold budgetFromJson
  rw [if_pos htruthy]
  refine bind_eq_ok.2 ⟨budget.maxQueries, whole_number budget.maxQueries, ?_⟩
  refine bind_eq_ok.2 ⟨budget.maxSeconds, rfl, ?_⟩
  refine bind_eq_ok.2 ⟨budget.sampleRows, whole_number budget.sampleRows, ?_⟩
  refine bind_eq_ok.2 ⟨budget.queriesUsed, whole_number budget.queriesUsed, ?_⟩
  exact bind_eq_ok.2 ⟨budget.secondsUsed, rfl, rfl⟩

/-- The phases, in the order of their definition. -/
def allPhases : List HarvestPhase :=
  [.pending, .connecting, .listingTables, .describingFields, .profiling,
    .inferringRelations, .completed, .failed, .cancelled]

/-- `HarvestPhase(value)`. -/
def phaseOfValue (value : String) : Except RowError HarvestPhase :=
  match allPhases.find? fun phase => decide (phase.value = value) with
  | some phase => .ok phase
  | none => .error (.valueError (value ++ " is not a valid HarvestPhase"))

theorem phaseOfValue_value (phase : HarvestPhase) : phaseOfValue phase.value = .ok phase := by
  cases phase <;> decide

/-- A row of `harvest_runs`. -/
structure HarvestRunRow where
  harvestRunId : UUID
  organizationId : UUID
  dataSourceId : UUID
  phase : String
  scope : Json
  budget : Json
  startedAt : Option Int
  finishedAt : Option Int
  tablesFound : Nat
  fieldsDescribed : Nat
  fieldsProfiled : Nat
  relationsProposed : Nat
  unreadableCount : Nat
  catalogVersionId : Option UUID
  failureCode : Option String
  failureMessage : Option String
  cancellationRequested : Bool

/-- The row that `add` inserts. -/
def HarvestRunRow.ofRun (run : HarvestRun) : HarvestRunRow where
  harvestRunId := run.harvestRunId
  organizationId := run.organizationId
  dataSourceId := run.dataSourceId
  phase := run.phase.value
  scope := scopeToJson run.scope
  budget := budgetToJson run.budget
  startedAt := run.startedAt
  finishedAt := run.finishedAt
  tablesFound := run.tablesFound
  fieldsDescribed := run.fieldsDescribed
  fieldsProfiled := run.fieldsProfiled
  relationsProposed := run.relationsProposed
  unreadableCount := run.unreadableCount
  catalogVersionId := run.catalogVersionId
  failureCode := run.failureCode
  failureMessage := run.failureMessage
  cancellationRequested := run.cancellationRequested

/-- What `save` writes into a row: without the request to cancel, if the run has none. -/
def HarvestRunRow.saved (row : HarvestRunRow) (run : HarvestRun) : HarvestRunRow :=
  { row with
    phase := run.phase.value
    scope := scopeToJson run.scope
    budget := budgetToJson run.budget
    startedAt := run.startedAt
    finishedAt := run.finishedAt
    tablesFound := run.tablesFound
    fieldsDescribed := run.fieldsDescribed
    fieldsProfiled := run.fieldsProfiled
    relationsProposed := run.relationsProposed
    unreadableCount := run.unreadableCount
    catalogVersionId := run.catalogVersionId
    failureCode := run.failureCode
    failureMessage := run.failureMessage
    cancellationRequested :=
      if run.cancellationRequested then true else row.cancellationRequested }

def runFromRow (row : HarvestRunRow) : Except RowError HarvestRun := do
  let scope ← scopeFromJson row.scope
  let budget ← budgetFromJson row.budget
  let phase ← phaseOfValue row.phase
  return {
    harvestRunId := row.harvestRunId
    dataSourceId := row.dataSourceId
    organizationId := row.organizationId
    phase
    scope
    budget
    startedAt := row.startedAt
    finishedAt := row.finishedAt
    tablesFound := row.tablesFound
    fieldsDescribed := row.fieldsDescribed
    fieldsProfiled := row.fieldsProfiled
    relationsProposed := row.relationsProposed
    unreadableCount := row.unreadableCount
    catalogVersionId := row.catalogVersionId
    failureCode := row.failureCode
    failureMessage := row.failureMessage
    cancellationRequested := row.cancellationRequested }

def HarvestRunRow.HasKey (harvestRunId organizationId : UUID) (row : HarvestRunRow) : Prop :=
  row.harvestRunId = harvestRunId ∧ row.organizationId = organizationId

instance (harvestRunId organizationId : UUID) :
    DecidablePred (HarvestRunRow.HasKey harvestRunId organizationId) := fun _ =>
  inferInstanceAs (Decidable (_ ∧ _))

/-- `get`. -/
def getRun (rows : List HarvestRunRow) (harvestRunId organizationId : UUID) :
    Except RowError (Option HarvestRun) :=
  match select (HarvestRunRow.HasKey harvestRunId organizationId) rows with
  | row :: _ => (runFromRow row).map some
  | [] => .ok none

/-- `save`. -/
def saveRow (rows : List HarvestRunRow) (run : HarvestRun) : List HarvestRunRow :=
  update (HarvestRunRow.HasKey run.harvestRunId run.organizationId) (·.saved run) rows

variable {run : HarvestRun} {row : HarvestRunRow}

/-- **What is read back from a saved row**: the run, less what it has no column for, and
with a request to cancel that was on record. -/
theorem runFromRow_saved (hrow : row.HasKey run.harvestRunId run.organizationId)
    (hsource : row.dataSourceId = run.dataSourceId) :
    runFromRow (row.saved run) =
      .ok { run with
        fieldsUnexamined := 0
        unexaminedReasons := []
        cancellationRequested := run.cancellationRequested || row.cancellationRequested } := by
  unfold runFromRow HarvestRunRow.saved
  simp only [scopeFromJson_scopeToJson, budgetFromJson_budgetToJson, phaseOfValue_value,
    hrow.1, hrow.2, hsource]
  cases run.cancellationRequested <;> rfl

/-- A run in the hands of one party, and the table. -/
structure HeldRun where
  run : HarvestRun
  rows : List HarvestRunRow

/-- What the party does: it calls a method of the run, or it saves the run. -/
inductive HeldRunCall
  | call (call : HarvestRunCall)
  | save
  deriving DecidableEq

def HeldRun.start (run : HarvestRun) (others : List HarvestRunRow) : HeldRun where
  run := run
  rows := others ++ [.ofRun run]

def HeldRun.step (held : HeldRun) : HeldRunCall → Option HeldRun
  | .call call => some { held with run := call.method.after held.run }
  | .save => some { held with rows := saveRow held.rows held.run }

/-- The run is read back from its row after a `save`. -/
def HeldRun.readBack (held : HeldRun) : Except RowError (Option HarvestRun) :=
  getRun (saveRow held.rows held.run) held.run.harvestRunId held.run.organizationId

def HeldRun.selected (held : HeldRun) : List HarvestRunRow :=
  select (HarvestRunRow.HasKey held.run.harvestRunId held.run.organizationId) held.rows

/-- The row that is selected for the run is its own, and a request to cancel the run is in
the row only if it is in the run. -/
def HeldRun.Filed (held : HeldRun) : Prop :=
  ∃ row rest, held.selected = row :: rest ∧
    row.HasKey held.run.harvestRunId held.run.organizationId ∧
    row.dataSourceId = held.run.dataSourceId ∧
    (row.cancellationRequested = true → held.run.cancellationRequested = true)

theorem HeldRun.filed_start {others : List HarvestRunRow}
    (hfresh : run.harvestRunId ∉ others.map (·.harvestRunId)) :
    (HeldRun.start run others).Filed := by
  refine ⟨.ofRun run, [], ?_, ⟨rfl, rfl⟩, rfl, id⟩
  have hothers : ∀ row ∈ others, row.harvestRunId ≠ run.harvestRunId := by
    intro row hrow hsame
    exact hfresh (hsame ▸ List.mem_map_of_mem hrow)
  have hown : (HarvestRunRow.ofRun run).HasKey run.harvestRunId run.organizationId :=
    ⟨rfl, rfl⟩
  have hnone : select (HarvestRunRow.HasKey run.harvestRunId run.organizationId) others = [] := by
    unfold select
    rw [List.filter_eq_nil_iff]
    intro row hrow hselected
    exact hothers row hrow (of_decide_eq_true hselected).1
  unfold HeldRun.selected HeldRun.start
  unfold select at hnone ⊢
  rw [List.filter_append, hnone]
  simp [hown]

theorem HeldRun.select_saveRow (held : HeldRun) :
    select (HarvestRunRow.HasKey held.run.harvestRunId held.run.organizationId)
        (saveRow held.rows held.run) =
      held.selected.map (·.saved held.run) :=
  select_update (fun _ h => h) fun _ => Iff.rfl

theorem HeldRun.Filed.step {held after : HeldRun} {call : HeldRunCall} (h : held.Filed)
    (hstep : held.step call = some after) : after.Filed := by
  obtain ⟨row, rest, hselect, hrow, hsource, hflag⟩ := h
  cases call with
  | call call =>
      cases hstep
      have hkept := call.kept held.run
      refine ⟨row, rest, ?_, ?_, hsource.trans hkept.dataSourceId.symm, fun hrequested => ?_⟩
      · unfold HeldRun.selected at hselect ⊢
        rw [hkept.harvestRunId, hkept.organizationId]
        exact hselect
      · exact ⟨hrow.1.trans hkept.harvestRunId.symm, hrow.2.trans hkept.organizationId.symm⟩
      · exact hkept.cancellationRequested (hflag hrequested)
  | save =>
      cases hstep
      refine ⟨row.saved held.run, rest.map (·.saved held.run), ?_, hrow, hsource, ?_⟩
      · exact held.select_saveRow.trans (congrArg _ hselect)
      · intro hrequested
        unfold HarvestRunRow.saved at hrequested
        split at hrequested
        · assumption
        · exact hflag hrequested

/-- A run that is filed is read back, less what it has no column for. -/
theorem HeldRun.Filed.readBack {held : HeldRun} (h : held.Filed) :
    held.readBack =
      .ok (some { held.run with fieldsUnexamined := 0, unexaminedReasons := [] }) := by
  obtain ⟨row, rest, hselect, hrow, hsource, hflag⟩ := h
  have hsaved := held.select_saveRow.trans (congrArg _ hselect)
  have hrequest : (held.run.cancellationRequested || row.cancellationRequested) =
      held.run.cancellationRequested := by
    cases hrun : held.run.cancellationRequested with
    | true => rfl
    | false =>
        cases hstored : row.cancellationRequested with
        | true => exact absurd (hflag hstored) (by simp [hrun])
        | false => rfl
  unfold HeldRun.readBack getRun
  rw [hsaved, List.map_cons]
  simp only [runFromRow_saved hrow hsource, hrequest]
  rfl

/-- **What is read back** of a run, whatever was done with it and however often it was
saved. -/
theorem HeldRun.readBack_of_exec {others : List HarvestRunRow} {calls : List HeldRunCall}
    {held : HeldRun} (hfresh : run.harvestRunId ∉ others.map (·.harvestRunId))
    (h : Exec HeldRun.step (.start run others) calls held) :
    held.readBack =
      .ok (some { held.run with fieldsUnexamined := 0, unexaminedReasons := [] }) := by
  have hfiled : held.Filed :=
    h.invariant HeldRun.Filed (HeldRun.filed_start hfresh) fun _ _ _ hfiled hstep =>
      hfiled.step hstep
  exact hfiled.readBack

/-- **Persistence round trip.**  Whatever is done with a run after it was started, and
however often it was saved on the way, saving it and reading it back gives a run that is
equal in every field exactly if inference skipped no field and gave no reasons. -/
theorem harvest_round_trip_iff (harvestRunId dataSourceId organizationId : UUID)
    (scope : HarvestScope) (budget : HarvestBudget) (others : List HarvestRunRow)
    (hfresh : harvestRunId ∉ others.map (·.harvestRunId)) (calls : List HeldRunCall)
    (held : HeldRun)
    (h : Exec HeldRun.step
      (.start (.begin harvestRunId dataSourceId organizationId scope budget) others)
      calls held) :
    held.readBack = .ok (some held.run) ↔
      held.run.fieldsUnexamined = 0 ∧ held.run.unexaminedReasons = [] := by
  rw [HeldRun.readBack_of_exec hfresh h]
  constructor
  · intro hsame
    have hrun := Option.some.inj (Except.ok.inj hsame)
    exact ⟨(congrArg HarvestRun.fieldsUnexamined hrun).symm,
      (congrArg HarvestRun.unexaminedReasons hrun).symm⟩
  · intro hnone
    obtain ⟨hfields, hreasons⟩ := hnone
    rw [← hfields, ← hreasons]

/-- A harvest that examined every field, and was asked to stop too late. -/
def examinedCalls : List HeldRunCall :=
  [.call (.advance .connecting 5), .save, .call .requestCancellation,
    .call (.complete 10 6)]

theorem harvest_round_trip_examined :
    ∃ held, Exec HeldRun.step (.start (.begin 20 1 1 {} {}) []) examinedCalls held ∧
      (held.readBack = .ok (some held.run) ↔
        held.run.fieldsUnexamined = 0 ∧ held.run.unexaminedReasons = []) := by
  have h : Exec HeldRun.step (.start (.begin 20 1 1 {} {}) []) examinedCalls _ :=
    exec_of_run rfl
  exact ⟨_, h, harvest_round_trip_iff 20 1 1 {} {} [] (by simp) _ _ h⟩

/-- A harvest that had nothing to compare its two fields with. -/
def skippedCalls : List HeldRunCall :=
  [.call (.advance .connecting 5),
    .call (.count
      { budget := {}, tablesFound := 1, fieldsDescribed := 2, fieldsProfiled := 2
        relationsProposed := 0, unreadableCount := 0, fieldsUnexamined := 2
        unexaminedReasons :=
          [("no type-compatible, name-similar counterpart found", 2)] }),
    .call (.complete 10 6), .save]

/-- **The reasons are lost.** -/
theorem harvest_reasons_lost :
    ∃ held, Exec HeldRun.step (.start (.begin 20 1 1 {} {}) []) skippedCalls held ∧
      held.readBack ≠ .ok (some held.run) := by
  have h : Exec HeldRun.step (.start (.begin 20 1 1 {} {}) []) skippedCalls _ :=
    exec_of_run rfl
  refine ⟨_, h, ?_⟩
  rw [HeldRun.readBack_of_exec (by simp) h]
  intro hsame
  have hrun := Option.some.inj (Except.ok.inj hsame)
  have hfields : (0 : Nat) = 2 := congrArg HarvestRun.fieldsUnexamined hrun
  cases hfields

end Connector

end Zentra
