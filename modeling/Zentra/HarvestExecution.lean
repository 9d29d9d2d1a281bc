import Zentra.CatalogStore
import Zentra.RelationInference

/-!
# Executing one Harvest Run

`execute_harvest` describes the tables of a source, profiles their fields, adds a
Catalog Version, reconciles the Relations of the source with it and proposes new ones.
Every write is a transaction of its own.  A cancellation is noticed at a checkpoint
between two steps; any other exception fails the run.

What surrounds the execution is a parameter: what the source answers, what the clock and
`uuid4` return, when somebody cancels the run, and when the database fails.
-/

open Raising Raising.Method TableRows

namespace Zentra

namespace Connector

/-- What a connector reports about a table before its fields are read. -/
structure SourceTableDescriptor where
  name : String
  database : String
  engine : Option String := none
  estimatedRows : Option Int := none
  sizeBytes : Option Int := none
  deriving DecidableEq

/-- What a connector reports about a column. -/
structure SourceFieldDescriptor where
  name : String
  declaredType : String
  nullable : Bool
  position : Int
  deriving DecidableEq

/-- A field of a source: database, table and name. -/
structure FieldPath where
  database : String
  table : String
  field : String
  deriving DecidableEq, Repr

/-- What a source answers, or raises. -/
structure SourceConnector where
  listTables : List String → Except String (List SourceTableDescriptor)
  describeFields : String → String → Except String (List SourceFieldDescriptor)
  profileField : FieldPath → Int → Bool → Except String FieldProfile
  measureOverlap : UUID × FieldPath → UUID × FieldPath → Int →
    Except String OverlapMeasurement

structure HarvestEnvironment where
  connector : SourceConnector
  rules : TextRules
  /-- the clock, and `uuid4`, when they are asked for the nth time -/
  now : Nat → Int
  uuid4 : Nat → UUID
  /-- whether the run has been cancelled by the time of a checkpoint -/
  cancels : Nat → Bool
  /-- whether the database fails, and with what text -/
  faults : Nat → Option String
  /-- whether the run is saved all the same -/
  savesRuns : Bool := false

/-- A call that the execution makes to a source. -/
inductive ConnectorCall
  | listTables
  | describeFields (database table : String)
  | profileField (path : FieldPath)
  | measureOverlap (left right : UUID × FieldPath)
  deriving DecidableEq, Repr

structure Harvesting where
  store : CatalogStore
  harvestRuns : List HarvestRun
  run : HarvestRun
  ticks : Nat := 0
  calls : List ConnectorCall := []

/-- What ends an execution before its end. -/
inductive HarvestException
  | cancelled
  | exception (message : String)
  deriving DecidableEq, Repr

abbrev HarvestMethod (α : Type) : Type := Method Harvesting HarvestException α

/-- What a run writes into its row: what it has no column for is dropped, and a
cancellation on record stays. -/
def HarvestRun.savedOver (run row : HarvestRun) : HarvestRun :=
  { run with
    fieldsUnexamined := 0
    unexaminedReasons := []
    cancellationRequested := run.cancellationRequested || row.cancellationRequested }

def HarvestRun.SavedTo (run row : HarvestRun) : Prop :=
  row.harvestRunId = run.harvestRunId ∧ row.organizationId = run.organizationId

instance (run : HarvestRun) : DecidablePred run.SavedTo := fun _ =>
  inferInstanceAs (Decidable (_ ∧ _))

namespace Harvesting

variable (harvesting : Harvesting)

def withRun (run : HarvestRun) : Harvesting := { harvesting with run := run }

def withStore (store : CatalogStore) : Harvesting := { harvesting with store := store }

def ticked : Harvesting := { harvesting with ticks := harvesting.ticks + 1 }

def called (call : ConnectorCall) : Harvesting :=
  { harvesting with calls := harvesting.calls ++ [call] }

/-- `run.budget.spend(queries=1)`. -/
def spent : Harvesting :=
  harvesting.withRun { harvesting.run with budget := harvesting.run.budget.spend }

def savingRun : Harvesting :=
  { harvesting with
    harvestRuns :=
      update harvesting.run.SavedTo harvesting.run.savedOver harvesting.harvestRuns }

/-- The row of the run after somebody asked for it to be cancelled. -/
def cancellation (lands : Bool) : Harvesting :=
  { harvesting with
    harvestRuns :=
      update (fun row => harvesting.run.SavedTo row ∧ lands ∧ ¬ row.IsTerminal)
        (fun row => { row with cancellationRequested := true }) harvesting.harvestRuns }

def CancellationRequested : Prop :=
  ∃ row ∈ harvesting.harvestRuns,
    harvesting.run.SavedTo row ∧ row.cancellationRequested = true

instance : DecidablePred CancellationRequested := fun _ =>
  inferInstanceAs (Decidable (∃ _ ∈ _, _ ∧ _))

end Harvesting

section Execution

variable (env : HarvestEnvironment)

def tick : HarvestMethod Nat := do
  let harvesting ← self
  assign Harvesting.ticked
  return harvesting.ticks

def clockNow : HarvestMethod Int := do
  return env.now (← tick)

def newId : HarvestMethod UUID := do
  return env.uuid4 (← tick)

def onRun (method : Method HarvestRun HarvestTransitionError Unit) : HarvestMethod Unit :=
  zoom Harvesting.run (fun run harvesting => harvesting.withRun run)
    (fun e => .exception e.message) method

def connect : HarvestMethod Unit := do
  match env.faults (← tick) with
  | some message => raise (.exception message)
  | none => return

/-- A connection to the database, to save the run. -/
def connectRuns : HarvestMethod Unit := do
  match env.faults (← tick) with
  | some message => if env.savesRuns then return else raise (.exception message)
  | none => return

/-- `runs.save(run)`. -/
def saveRun : HarvestMethod Unit := do
  connectRuns env
  assign Harvesting.savingRun

/-- `run.advance(phase)` and `runs.save(run)`. -/
def advance (phase : HarvestPhase) : HarvestMethod Unit := do
  let now ← clockNow env
  onRun (HarvestRun.advance phase now)
  saveRun env

/-- Stop here if cancellation was requested. -/
def checkpoint : HarvestMethod Unit := do
  let moment ← tick
  assign fun harvesting => harvesting.cancellation (env.cancels moment)
  connect env
  raiseIf Harvesting.CancellationRequested fun _ => .cancelled

/-- A write to the catalog and its Relations. -/
def write (change : CatalogStore → Except String CatalogStore) : HarvestMethod Unit := do
  connect env
  let harvesting ← self
  match change harvesting.store with
  | .ok store => assign fun harvesting => harvesting.withStore store
  | .error message => raise (.exception message)

/-- `SourceField(…)` of a column. -/
def SourceFieldDescriptor.described (column : SourceFieldDescriptor) (rules : TextRules)
    (tableId fieldId : UUID) : SourceField where
  fieldId := fieldId
  tableId := tableId
  name := column.name
  declaredType := column.declaredType
  family := rules.classify column.declaredType
  normalisedType := rules.normaliseType column.declaredType
  nullable := column.nullable
  position := column.position

/-- The columns of a table, each under a new id. -/
def describedFields (tableId : UUID) :
    List SourceFieldDescriptor → HarvestMethod (List SourceField)
  | [] => return []
  | column :: rest => do
      let fieldId ← newId env
      let fields ← describedFields tableId rest
      return column.described env.rules tableId fieldId :: fields

/-- `SourceTable(…)` of a descriptor. -/
def SourceTableDescriptor.described (descriptor : SourceTableDescriptor) (tableId : UUID)
    (fields : List SourceField) : SourceTable where
  tableId := tableId
  name := descriptor.name
  database := descriptor.database
  engine := descriptor.engine
  estimatedRows := descriptor.estimatedRows
  sizeBytes := descriptor.sizeBytes
  fields := fields

/-- The loop of `_describe_tables`. -/
def describeEach : List SourceTableDescriptor → List SourceTable → List UnreadableTable →
    HarvestMethod (List SourceTable × List UnreadableTable)
  | [], tables, unreadable => return (tables, unreadable)
  | descriptor :: rest, tables, unreadable => do
      checkpoint env
      let harvesting ← self
      if harvesting.run.budget.Exhausted then
        return (tables, unreadable)
      else
        assign (·.called (.describeFields descriptor.database descriptor.name))
        match env.connector.describeFields descriptor.database descriptor.name with
        | .error message =>
            let failed : UnreadableTable :=
              { qualifiedName := descriptor.database ++ "." ++ descriptor.name
                reason := (message.take 200).toString }
            assign fun harvesting => harvesting.withRun
              { harvesting.run with unreadableCount := unreadable.length + 1 }
            saveRun env
            describeEach rest tables (unreadable ++ [failed])
        | .ok columns =>
            assign Harvesting.spent
            let tableId ← newId env
            let fields ← describedFields env tableId columns
            assign fun harvesting => harvesting.withRun
              { harvesting.run with
                fieldsDescribed := harvesting.run.fieldsDescribed + fields.length }
            saveRun env
            describeEach rest (tables ++ [descriptor.described tableId fields]) unreadable

def describeTables : HarvestMethod (List SourceTable × List UnreadableTable) := do
  advance env .listingTables
  let harvesting ← self
  let scope := harvesting.run.scope
  assign (·.called .listTables)
  let descriptors ← eval ((env.connector.listTables scope.databases).mapError .exception)
  assign Harvesting.spent
  let inScope := descriptors.filter fun descriptor =>
    scope.IncludesTable descriptor.database descriptor.name
  assign fun harvesting => harvesting.withRun
    { harvesting.run with tablesFound := inScope.length }
  saveRun env
  advance env .describingFields
  describeEach env inScope [] []

def profileField (table : SourceTable) (storeSampleValues : Bool) (field : SourceField) :
    HarvestMethod SourceField := do
  let harvesting ← self
  if harvesting.run.budget.Exhausted then
    return field
  else
    let path : FieldPath := ⟨table.database, table.name, field.name⟩
    assign (·.called (.profileField path))
    match env.connector.profileField path harvesting.run.budget.sampleRows
        storeSampleValues with
    | .error _ => return field
    | .ok profile =>
        assign Harvesting.spent
        assign fun harvesting => harvesting.withRun
          { harvesting.run with fieldsProfiled := harvesting.run.fieldsProfiled + 1 }
        saveRun env
        return { field with profile := some profile }

def profileEach (table : SourceTable) (storeSampleValues : Bool) :
    List SourceField → HarvestMethod (List SourceField)
  | [] => return []
  | field :: rest => do
      let profiled ← profileField env table storeSampleValues field
      let fields ← profileEach table storeSampleValues rest
      return profiled :: fields

def profileTables (storeSampleValues : Bool) :
    List SourceTable → HarvestMethod (List SourceTable)
  | [] => return []
  | table :: rest => do
      checkpoint env
      let fields ← profileEach env table storeSampleValues table.fields
      let tables ← profileTables storeSampleValues rest
      return { table with fields := fields } :: tables

def profileFields (tables : List SourceTable) (storeSampleValues : Bool) :
    HarvestMethod (List SourceTable) := do
  advance env .profiling
  profileTables env storeSampleValues tables

/-- `for relation in relations: relations.save(relation)`. -/
def saveEach : List Relation → HarvestMethod Unit
  | [] => return
  | relation :: rest => do
      write env fun store => .ok (store.save relation)
      saveEach rest

def reconcilePrevious (source : DataSource) (version : CatalogVersion) (now : Int) :
    HarvestMethod (Finset (Sym2 FieldIdentity)) := do
  connect env
  let harvesting ← self
  let previous := harvesting.store.listForSource source.dataSourceId source.organizationId
  if previous = [] then
    return ∅
  else
    let newIds := version.fieldIndex.map fun entry => (entry.1, entry.2.fieldId)
    let outcome ← eval ((reconcile version version.catalogVersionId now newIds
      previous).mapError fun e => .exception e.message)
    saveEach env (outcome.carriedForward ++ outcome.staled)
    return outcome.suppressedPairs

/-- The pairs that no Relation is proposed for: `carried`. -/
def carriedPairs (relations : List Relation) : Finset (Sym2 FieldIdentity) :=
  ((relations.filter fun relation =>
    relation.state ∈ [RelationState.confirmed, .stale]).map
      Relation.pinnedIdentities).toFinset

/-- `Relation(…)` of a candidate. -/
def ScoredCandidate.proposal (scored : ScoredCandidate) (candidate : CandidatePair)
    (relationId : UUID) (version : CatalogVersion) (now : Int) : Relation where
  relationId := relationId
  organizationId := version.organizationId
  catalogVersionId := version.catalogVersionId
  leftFieldId := candidate.leftField.fieldId
  rightFieldId := candidate.rightField.fieldId
  leftIdentity := candidate.leftIdentity
  rightIdentity := candidate.rightIdentity
  leftDataSourceId := candidate.leftDataSourceId
  rightDataSourceId := candidate.rightDataSourceId
  state := .proposed
  origin := .inferred
  confidence := scored.confidence
  bindingCeiling := scored.bindingCeiling
  cardinality := scored.cardinality
  evidence := some scored.evidence
  createdAt := some now

/-- The loop of `_infer_relations`. -/
def inferEach (version : CatalogVersion) (passedOver : Finset (Sym2 FieldIdentity)) :
    List CandidatePair → List Relation → HarvestMethod (List Relation)
  | [], proposals => return proposals
  | candidate :: rest, proposals => do
      checkpoint env
      let harvesting ← self
      if harvesting.run.budget.Exhausted then
        return proposals
      else if candidate.pair ∈ passedOver then
        inferEach version passedOver rest proposals
      else
        let left := (candidate.leftDataSourceId,
          ⟨candidate.leftTable.database, candidate.leftTable.name, candidate.leftField.name⟩)
        let right := (candidate.rightDataSourceId,
          ⟨candidate.rightTable.database, candidate.rightTable.name,
            candidate.rightField.name⟩)
        assign (·.called (.measureOverlap left right))
        match env.connector.measureOverlap left right
            harvesting.run.budget.sampleRows with
        | .error _ => inferEach version passedOver rest proposals
        | .ok overlap =>
            assign Harvesting.spent
            match scoreCandidate candidate overlap with
            | none => inferEach version passedOver rest proposals
            | some scored =>
                let relationId ← newId env
                let now ← clockNow env
                inferEach version passedOver rest
                  (proposals ++ [scored.proposal candidate relationId version now])

/-- `if proposals: relations.add_many(proposals)`. -/
def addProposals (proposals : List Relation) : HarvestMethod Unit :=
  if proposals = [] then
    return
  else
    write env fun store => store.addMany proposals

def inferRelations (source : DataSource) (version : CatalogVersion)
    (peerCatalogs : List (UUID × CatalogVersion))
    (suppressed : Finset (Sym2 FieldIdentity)) : HarvestMethod Unit := do
  advance env .inferringRelations
  let catalogs := (source.dataSourceId, version) :: peerCatalogs
  let generated := generateCandidates env.rules catalogs
  assign fun harvesting => harvesting.withRun
    { harvesting.run with
      fieldsUnexamined := generated.2.length
      unexaminedReasons := coverageSummary generated.2 }
  connect env
  let harvesting ← self
  let carried := carriedPairs
    (harvesting.store.listForSource source.dataSourceId source.organizationId)
  let found ← inferEach env version (suppressed ∪ carried) generated.1 []
  let proposals := orderedBy (fun relation => -relation.confidence) found
  addProposals env proposals
  assign fun harvesting => harvesting.withRun
    { harvesting.run with relationsProposed := proposals.length }
  saveRun env

/-- The body of the `try` of `execute_harvest` from the new version on. -/
def record (source : DataSource) (peerCatalogs : List (UUID × CatalogVersion))
    (version : CatalogVersion) : HarvestMethod CatalogVersion := do
  write env fun store => store.addVersion version
  let reconciledAt ← clockNow env
  let suppressed ← reconcilePrevious env source version reconciledAt
  inferRelations env source version peerCatalogs suppressed
  checkpoint env
  let completedAt ← clockNow env
  onRun (HarvestRun.complete version.catalogVersionId completedAt)
  saveRun env
  return version

/-- The body of the `try` of `execute_harvest`. -/
def discover (source : DataSource) (peerCatalogs : List (UUID × CatalogVersion)) :
    HarvestMethod CatalogVersion := do
  advance env .connecting
  checkpoint env
  let described ← describeTables env
  checkpoint env
  let tables ← profileFields env described.1 source.storeSampleValues
  checkpoint env
  let catalogVersionId ← newId env
  let createdAt ← clockNow env
  let harvesting ← self
  let version : CatalogVersion :=
    { catalogVersionId := catalogVersionId
      dataSourceId := source.dataSourceId
      organizationId := source.organizationId
      harvestRunId := harvesting.run.harvestRunId
      createdAt := createdAt
      tables := tables
      unreadable := described.2 }
  record env source peerCatalogs version

/-- The `except` branches of `execute_harvest`. -/
def giveUp : HarvestException → HarvestMethod (Option CatalogVersion)
  | .cancelled => do
      let now ← clockNow env
      onRun (HarvestRun.cancel now)
      saveRun env
      return none
  | .exception message => do
      let now ← clockNow env
      onRun (HarvestRun.fail "harvest_failed" (message.take 500).toString now)
      saveRun env
      return none

/-- Run discovery to completion, or to the first thing that stops it. -/
def executeHarvest (source : DataSource) (peerCatalogs : List (UUID × CatalogVersion)) :
    HarvestMethod (Option CatalogVersion) :=
  catching (do
    let version ← discover env source peerCatalogs
    return some version) (giveUp env)

def returnedVersion : Except HarvestException (Option CatalogVersion) →
    Option CatalogVersion
  | .ok result => result
  | .error _ => none

variable {env} {source : DataSource} {peerCatalogs : List (UUID × CatalogVersion)}

/-- An execution that returns a version with a given property. -/
theorem completes_with {harvesting : Harvesting} {p : CatalogVersion → Prop}
    (h : ∃ version ∈ returnedVersion
      ((executeHarvest env source peerCatalogs).call harvesting).1, p version) :
    ∃ version done, (executeHarvest env source peerCatalogs).call harvesting =
      (.ok (some version), done) ∧ p version := by
  obtain ⟨version, hversion, hp⟩ := h
  rcases hcall : (executeHarvest env source peerCatalogs).call harvesting with ⟨e | result, done⟩
  · rw [hcall] at hversion
    cases hversion
  · rw [hcall] at hversion
    cases hversion
    exact ⟨version, done, rfl, hp⟩

end Execution

end Connector

end Zentra
