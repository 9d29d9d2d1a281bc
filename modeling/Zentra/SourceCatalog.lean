import Mathlib
import Zentra.ExecutionJob
import Zentra.RaisingTriple
import Zentra.TableRows

/-!
# Data sources and the versions of their catalogs

A harvest reads the tables and fields of a data source and freezes what it read in a
Catalog Version.  A field keeps its identity across versions: its name, its type and
the name of its table.

* `HarvestRun` — the run of a harvest, its scope and its budget, and the methods that
  move it through its phases;
* `HarvestRunCall.after_eq` — what a call of one of them leaves, and
  `HarvestRunCall.terminal_kept`: what it leaves of a run that has ended.

Seconds and shares of a whole are rationals.
-/

open Raising Raising.Method TableRows

namespace Zentra

namespace Connector

/-- What makes a field the same field across Catalog Versions. -/
structure FieldIdentity where
  tableName : String
  fieldName : String
  normalisedType : String
  deriving DecidableEq, Repr

inductive TypeFamily
  | integer | string | uuid | decimal | float | boolean | temporal | other
  deriving DecidableEq, Repr

/-- Observed statistics for a field. -/
structure FieldProfile where
  sampledRows : Nat
  nullFraction : Option ℚ := none
  distinctCount : Option Nat := none
  minValue : Option String := none
  maxValue : Option String := none
  sampleValues : List String := []
  fraction : ∀ share ∈ nullFraction, 0 ≤ share ∧ share ≤ 1 := by decide
  deriving DecidableEq

structure SourceField where
  fieldId : UUID
  tableId : UUID
  name : String
  declaredType : String
  family : TypeFamily
  normalisedType : String
  nullable : Bool
  position : Int
  profile : Option FieldProfile := none
  deriving DecidableEq

/-- One harvested table and its fields. -/
structure SourceTable where
  tableId : UUID
  name : String
  database : String
  engine : Option String := none
  estimatedRows : Option Int := none
  sizeBytes : Option Int := none
  fields : List SourceField := []
  deriving DecidableEq

/-- A table a harvest could see but not read. -/
structure UnreadableTable where
  qualifiedName : String
  reason : String
  deriving DecidableEq, Repr

structure CatalogVersion where
  catalogVersionId : UUID
  dataSourceId : UUID
  organizationId : UUID
  harvestRunId : UUID
  createdAt : Int
  tables : List SourceTable := []
  unreadable : List UnreadableTable := []
  deriving DecidableEq

def SourceField.identity (field : SourceField) (tableName : String) : FieldIdentity where
  tableName := tableName
  fieldName := field.name
  normalisedType := field.normalisedType

def SourceTable.identified (table : SourceTable) : List (FieldIdentity × SourceField) :=
  table.fields.map fun field => (field.identity table.name, field)

namespace CatalogVersion

/-- Every field of the version, by its identity: a later one in the place of an
earlier one. -/
def fieldIndex (version : CatalogVersion) : List (FieldIdentity × SourceField) :=
  (version.tables.flatMap SourceTable.identified).foldl (setItem Prod.fst) []

def tableNames (version : CatalogVersion) : List String := version.tables.map (·.name)

def findField (version : CatalogVersion) (fieldId : UUID) :
    Option (SourceTable × SourceField) :=
  (version.tables.flatMap fun table => table.fields.map fun field => (table, field)).find?
    fun found => found.2.fieldId = fieldId

/-- The identity belongs to a field of the version. -/
def Has (version : CatalogVersion) (identity : FieldIdentity) : Prop :=
  ∃ table ∈ version.tables, ∃ field ∈ table.fields, field.identity table.name = identity

instance (version : CatalogVersion) : DecidablePred version.Has := fun _ =>
  inferInstanceAs (Decidable (∃ _ ∈ _, _))

/-- **The keys of the index** are the identities of the fields. -/
theorem mem_fieldIndex {version : CatalogVersion} {identity : FieldIdentity} :
    identity ∈ version.fieldIndex.map Prod.fst ↔ version.Has identity := by
  unfold fieldIndex
  rw [addsTo_setItem.mem_keys_foldl]
  constructor
  · intro h
    rcases h with h | h
    · cases h
    · obtain ⟨found, hfound, rfl⟩ := List.mem_map.1 h
      obtain ⟨table, htable, hentry⟩ := List.mem_flatMap.1 hfound
      obtain ⟨field, hfield, rfl⟩ := List.mem_map.1 hentry
      exact ⟨table, htable, field, hfield, rfl⟩
  · intro h
    obtain ⟨table, htable, field, hfield, rfl⟩ := h
    have hentry : (field.identity table.name, field) ∈ table.identified :=
      List.mem_map.2 ⟨field, hfield, rfl⟩
    exact .inr (List.mem_map.2 ⟨_, List.mem_flatMap.2 ⟨table, htable, hentry⟩, rfl⟩)

end CatalogVersion

/-- An origin of queryable data, less its credentials and its description. -/
structure DataSource where
  dataSourceId : UUID
  organizationId : UUID
  storeSampleValues : Bool := false
  deriving DecidableEq, Repr

inductive HarvestPhase
  | pending | connecting | listingTables | describingFields | profiling
  | inferringRelations | completed | failed | cancelled
  deriving DecidableEq, Repr

def HarvestPhase.value : HarvestPhase → String
  | pending => "pending"
  | connecting => "connecting"
  | listingTables => "listing_tables"
  | describingFields => "describing_fields"
  | profiling => "profiling"
  | inferringRelations => "inferring_relations"
  | completed => "completed"
  | failed => "failed"
  | cancelled => "cancelled"

/-- `TERMINAL_PHASES`. -/
def terminalPhases : List HarvestPhase := [.completed, .failed, .cancelled]

/-- Which part of a source a run looks at.  Empty means everything. -/
structure HarvestScope where
  databases : List String := []
  tables : List String := []
  deriving DecidableEq, Repr

/-- `includes_table`. -/
def HarvestScope.IncludesTable (scope : HarvestScope) (database table : String) : Prop :=
  (scope.databases = [] ∨ database ∈ scope.databases) ∧
    (scope.tables = [] ∨ table ∈ scope.tables)

instance (scope : HarvestScope) (database table : String) :
    Decidable (scope.IncludesTable database table) :=
  inferInstanceAs (Decidable (_ ∧ _))

/-- What a run may spend before it stops. -/
structure HarvestBudget where
  maxQueries : Int := 500
  maxSeconds : ℚ := 900
  sampleRows : Int := 10000
  queriesUsed : Int := 0
  secondsUsed : ℚ := 0
  deriving DecidableEq

namespace HarvestBudget

def Exhausted (budget : HarvestBudget) : Prop :=
  budget.maxQueries ≤ budget.queriesUsed ∨ budget.maxSeconds ≤ budget.secondsUsed

instance : DecidablePred Exhausted := fun _ => inferInstanceAs (Decidable (_ ∨ _))

/-- `spend(queries=1)`. -/
def spend (budget : HarvestBudget) : HarvestBudget :=
  { budget with queriesUsed := budget.queriesUsed + 1 }

end HarvestBudget

/-- What the methods of a run raise. -/
structure HarvestTransitionError where
  message : String
  deriving DecidableEq, Repr

/-- One execution of discovery against a data source. -/
structure HarvestRun where
  harvestRunId : UUID
  dataSourceId : UUID
  organizationId : UUID
  phase : HarvestPhase := .pending
  scope : HarvestScope := {}
  budget : HarvestBudget := {}
  startedAt : Option Int := none
  finishedAt : Option Int := none
  tablesFound : Nat := 0
  fieldsDescribed : Nat := 0
  fieldsProfiled : Nat := 0
  relationsProposed : Nat := 0
  unreadableCount : Nat := 0
  fieldsUnexamined : Nat := 0
  unexaminedReasons : List (String × Nat) := []
  catalogVersionId : Option UUID := none
  failureCode : Option String := none
  failureMessage : Option String := none
  cancellationRequested : Bool := false
  deriving DecidableEq

namespace HarvestRun

def IsTerminal (run : HarvestRun) : Prop := run.phase ∈ terminalPhases

instance : DecidablePred IsTerminal := fun _ => inferInstanceAs (Decidable (_ ∈ _))

/-- What `advance` assigns. -/
def advanced (phase : HarvestPhase) (now : Int) (run : HarvestRun) : HarvestRun :=
  { run with
    startedAt := if run.phase = .pending then some now else run.startedAt
    phase := phase }

def advance (phase : HarvestPhase) (now : Int) :
    Method HarvestRun HarvestTransitionError Unit := do
  raiseIf IsTerminal fun run =>
    ⟨"Harvest run already finished in phase " ++ run.phase.value⟩
  assign (advanced phase now)

def requestCancellation : Method HarvestRun HarvestTransitionError Unit := do
  raiseIf IsTerminal fun _ => ⟨"Cannot cancel a finished harvest run"⟩
  assign fun run => { run with cancellationRequested := true }

def complete (catalogVersionId : UUID) (now : Int) :
    Method HarvestRun HarvestTransitionError Unit := do
  raiseIf IsTerminal fun _ => ⟨"Harvest run already finished"⟩
  assign fun run =>
    { run with
      phase := .completed
      catalogVersionId := some catalogVersionId
      finishedAt := some now }

def cancel (now : Int) : Method HarvestRun HarvestTransitionError Unit := do
  raiseIf IsTerminal fun _ => ⟨"Harvest run already finished"⟩
  assign fun run => { run with phase := .cancelled, finishedAt := some now }

def fail (code message : String) (now : Int) :
    Method HarvestRun HarvestTransitionError Unit := do
  raiseIf IsTerminal fun _ => ⟨"Harvest run already finished"⟩
  assign fun run =>
    { run with
      phase := .failed
      failureCode := some code
      failureMessage := some message
      finishedAt := some now }

end HarvestRun

/-- `start_harvest`: a run, before anything is done with it. -/
def HarvestRun.begin (harvestRunId dataSourceId organizationId : UUID) (scope : HarvestScope)
    (budget : HarvestBudget) : HarvestRun where
  harvestRunId := harvestRunId
  dataSourceId := dataSourceId
  organizationId := organizationId
  scope := scope
  budget := budget

/-- What an execution counts on its run. -/
structure HarvestProgress where
  budget : HarvestBudget
  tablesFound : Nat
  fieldsDescribed : Nat
  fieldsProfiled : Nat
  relationsProposed : Nat
  unreadableCount : Nat
  fieldsUnexamined : Nat
  unexaminedReasons : List (String × Nat)
  deriving DecidableEq

def HarvestRun.counting (progress : HarvestProgress) (run : HarvestRun) : HarvestRun :=
  { run with
    budget := progress.budget
    tablesFound := progress.tablesFound
    fieldsDescribed := progress.fieldsDescribed
    fieldsProfiled := progress.fieldsProfiled
    relationsProposed := progress.relationsProposed
    unreadableCount := progress.unreadableCount
    fieldsUnexamined := progress.fieldsUnexamined
    unexaminedReasons := progress.unexaminedReasons }

/-- What is done with a run between `begin` and its end. -/
inductive HarvestRunCall
  | advance (phase : HarvestPhase) (now : Int)
  | count (progress : HarvestProgress)
  | requestCancellation
  | complete (catalogVersionId : UUID) (now : Int)
  | cancel (now : Int)
  | fail (code message : String) (now : Int)
  deriving DecidableEq

namespace HarvestRunCall

def method : HarvestRunCall → Method HarvestRun HarvestTransitionError Unit
  | advance phase now => HarvestRun.advance phase now
  | count progress => assign (HarvestRun.counting progress)
  | requestCancellation => HarvestRun.requestCancellation
  | complete catalogVersionId now => HarvestRun.complete catalogVersionId now
  | cancel now => HarvestRun.cancel now
  | fail code message now => HarvestRun.fail code message now

def result : HarvestRunCall → HarvestRun → HarvestRun
  | advance phase now, run => run.advanced phase now
  | count progress, run => run.counting progress
  | requestCancellation, run => { run with cancellationRequested := true }
  | complete catalogVersionId now, run =>
      { run with
        phase := .completed
        catalogVersionId := some catalogVersionId
        finishedAt := some now }
  | cancel now, run => { run with phase := .cancelled, finishedAt := some now }
  | fail code message now, run =>
      { run with
        phase := .failed
        failureCode := some code
        failureMessage := some message
        finishedAt := some now }

/-- The method refuses a run that is terminal. -/
def Guarded : HarvestRunCall → Prop
  | count _ => False
  | _ => True

instance : DecidablePred Guarded
  | count _ => .isFalse id
  | advance _ _ => .isTrue trivial
  | requestCancellation => .isTrue trivial
  | complete _ _ => .isTrue trivial
  | cancel _ => .isTrue trivial
  | fail _ _ _ => .isTrue trivial

theorem after_guard (e : HarvestRun → HarvestTransitionError) (f : HarvestRun → HarvestRun)
    (run : HarvestRun) :
    (raiseIf HarvestRun.IsTerminal e >>= fun _ => assign f).after run =
      if run.IsTerminal then run else f run := by
  unfold Method.after
  rw [call_raiseIf_bind]
  split <;> rfl

/-- **What a call leaves.** -/
theorem after_eq (call : HarvestRunCall) (run : HarvestRun) :
    call.method.after run =
      if call.Guarded ∧ run.IsTerminal then run else call.result run := by
  cases call with
  | count progress => rw [if_neg fun h => h.1]; rfl
  | advance phase now => exact (after_guard _ _ run).trans (by simp [Guarded, result])
  | requestCancellation => exact (after_guard _ _ run).trans (by simp [Guarded, result])
  | complete catalogVersionId now =>
      exact (after_guard _ _ run).trans (by simp [Guarded, result])
  | cancel now => exact (after_guard _ _ run).trans (by simp [Guarded, result])
  | fail code message now => exact (after_guard _ _ run).trans (by simp [Guarded, result])

/-- What no call changes: the ids of a run, and the request to cancel it once it is
made. -/
structure Kept (run after : HarvestRun) : Prop where
  harvestRunId : after.harvestRunId = run.harvestRunId
  dataSourceId : after.dataSourceId = run.dataSourceId
  organizationId : after.organizationId = run.organizationId
  cancellationRequested : run.cancellationRequested = true →
    after.cancellationRequested = true

theorem kept (call : HarvestRunCall) (run : HarvestRun) :
    Kept run (call.method.after run) := by
  rw [after_eq]
  split
  · exact ⟨rfl, rfl, rfl, id⟩
  · cases call with
    | requestCancellation => exact ⟨rfl, rfl, rfl, fun _ => rfl⟩
    | _ => exact ⟨rfl, rfl, rfl, id⟩

/-- **A run that is terminal** only counts: its phase and its version stay. -/
theorem terminal_kept (call : HarvestRunCall) {run : HarvestRun} (h : run.IsTerminal) :
    (call.method.after run).phase = run.phase ∧
      (call.method.after run).catalogVersionId = run.catalogVersionId := by
  rw [after_eq]
  split
  · exact ⟨rfl, rfl⟩
  next hcall =>
      cases call with
      | count progress => exact ⟨rfl, rfl⟩
      | _ => exact absurd ⟨trivial, h⟩ hcall

end HarvestRunCall

end Connector

end Zentra
