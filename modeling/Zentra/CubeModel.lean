import Zentra.AgentAccess
import Zentra.CatalogStore
import Zentra.PythonText

/-!
# The model that is compiled for agents

The semantic layer of a data connection is generated from its latest Catalog Version
behind the access gate, and from the confirmed Relations of that version.  A table, a field
or a join that is not in the `ConnectorCubeModel` cannot be queried.

* `mem_cubeTables`, `cubeJoin_shows` — what is compiled is in the catalog that agents see;
* `compileModel_respects` — and is not hidden.
-/

open PythonText Raising TableRows

namespace Zentra

namespace Connector

inductive SourceKind
  | connected | uploaded
  deriving DecidableEq, Repr

/-- Connection details for a source. -/
structure SourceCredentials where
  host : String
  port : Nat
  database : String
  username : String
  password : String
  secure : Bool := true
  deriving DecidableEq, Repr

/-- Where an uploaded file ended up. -/
structure LandedTable where
  database : String
  table : String
  rowCount : Nat
  deriving DecidableEq, Repr

/-- A row of `data_sources`, with what its credentials are opened from. -/
structure StoredSource extends DataSource where
  kind : SourceKind
  sealedCredentials : Option String := none
  landedTable : Option String := none

/-- The cipher and the landing that the service is built with. -/
structure CredentialPorts where
  /-- `CredentialCipher.open` -/
  openSealed : String → Except String SourceCredentials
  /-- `FileLandingZone.credentials_for` -/
  credentialsFor : LandedTable → SourceCredentials

/-- What the readings of the service raise. -/
inductive ReadError
  | connectorNotConfigured (message : String)
  | dataSourceNotFound (message : String)
  | catalogVersionNotFound (message : String)
  /-- what the cipher raises -/
  | failed (message : String)
  deriving DecidableEq, Repr

/-- The tables that the readings of the service are about. -/
structure ConnectorState where
  sources : List StoredSource
  store : CatalogStore
  access : List CatalogAccessOverride := []

namespace ConnectorState

variable (state : ConnectorState) (organizationId dataSourceId : UUID)

def loadSource : Except ReadError StoredSource :=
  match (select (fun source : StoredSource => source.dataSourceId = dataSourceId ∧
      source.organizationId = organizationId) state.sources).head? with
  | some source => .ok source
  | none => .error (.dataSourceNotFound (toString dataSourceId))

/-- `AgentAccessRepository.list_for_source`. -/
def accessOf : List CatalogAccessOverride :=
  select (fun override : CatalogAccessOverride => override.dataSourceId = dataSourceId ∧
    override.organizationId = organizationId) state.access

def latestCatalog : Except ReadError CatalogVersion := do
  let _ ← state.loadSource organizationId dataSourceId
  match state.store.latestVersion dataSourceId organizationId with
  | some version => .ok version
  | none => .error (.catalogVersionNotFound (toString dataSourceId))

def agentVisibleCatalog : Except ReadError CatalogVersion := do
  let version ← state.latestCatalog organizationId dataSourceId
  return (AccessOverrides.build dataSourceId
    (state.accessOf organizationId dataSourceId)).apply version

def listAgentAccess : Except ReadError (List CatalogAccessOverride) := do
  let _ ← state.loadSource organizationId dataSourceId
  return state.accessOf organizationId dataSourceId

/-- `join_graph`, less what it says about fields that nothing joins. -/
def joinGraph (catalogVersionId : UUID) : Except ReadError JoinGraph :=
  match state.store.getVersion catalogVersionId organizationId with
  | some _ => .ok (state.store.joinGraph catalogVersionId organizationId)
  | none => .error (.catalogVersionNotFound (toString catalogVersionId))

/-- `resolve_driver_credentials`, with `_open`. -/
def resolveDriverCredentials (ports : CredentialPorts) : Except ReadError SourceCredentials :=
  do
  let source ← state.loadSource organizationId dataSourceId
  match source.kind, source.sealedCredentials with
  | .uploaded, _ =>
      let landed := partition (source.landedTable.getD ".") '.'
      return ports.credentialsFor ⟨landed.1, landed.2, 0⟩
  | .connected, none =>
      .error (.dataSourceNotFound "Data source has no stored credentials")
  | .connected, some sealed => (ports.openSealed sealed).mapError .failed

end ConnectorState

inductive CubeType
  | number | time | boolean | string
  deriving DecidableEq, Repr

inductive CubeRelationship
  | hasMany | belongsTo
  deriving DecidableEq, Repr

/-- A field of a `ConnectorTableModel`. -/
structure ConnectorFieldModel where
  name : String
  cubeType : CubeType
  description : String
  deriving DecidableEq, Repr

structure ConnectorTableModel where
  name : String
  sqlTable : String
  fields : List ConnectorFieldModel
  description : Option String := none
  deriving DecidableEq, Repr

structure ConnectorJoinModel where
  fromTable : String
  toTable : String
  fromField : String
  toField : String
  relationship : CubeRelationship
  deriving DecidableEq, Repr

structure ConnectorCubeModel where
  relationFingerprint : String
  clickhouse : SourceCredentials
  tables : List ConnectorTableModel
  joins : List ConnectorJoinModel
  deriving DecidableEq, Repr

/-- `_cube_type`: a type that is not recognised becomes a string dimension. -/
def cubeType (dataType : String) : CubeType :=
  let normalized := lower dataType
  if ∃ token ∈ ["int", "float", "double", "decimal", "numeric"], Occurs token normalized then
    .number
  else if ∃ token ∈ ["date", "time"], Occurs token normalized then .time
  else if Occurs "bool" normalized then .boolean
  else .string

def cubeRelationship : Cardinality → CubeRelationship
  | .oneToMany => .hasMany
  | .manyToOne | .oneToOne | .manyToMany | .unknown => .belongsTo

def tableDescription (table : SourceTable) : Option String :=
  table.estimatedRows.map fun rows =>
    "Harvested table, approximately " ++ thousands rows ++ " rows."

/-- What the profile of a field adds to its description. -/
def profileParts (profile : FieldProfile) : List String :=
  (match profile.distinctCount with
    | some count => [thousands count ++ " distinct"]
    | none => []) ++
  (match profile.nullFraction with
    | some share => if share = 0 then [] else [percent share ++ " null"]
    | none => [])

def fieldDescription (field : SourceField) : String :=
  join ", " (field.declaredType :: (if field.nullable then ["nullable"] else []) ++
    field.profile.toList.flatMap profileParts)

def SourceField.projected (field : SourceField) : ConnectorFieldModel where
  name := field.name
  cubeType := cubeType field.normalisedType
  description := fieldDescription field

def SourceTable.projectedFields (table : SourceTable) : List (UUID × ConnectorFieldModel) :=
  (table.fields.map fun field => (field.fieldId, field.projected)).foldl
    (setItem Prod.fst) []

namespace CatalogVersion

variable (catalog : CatalogVersion)

def fieldsByTable : List (String × List (UUID × ConnectorFieldModel)) :=
  (catalog.tables.map fun table => (table.name, table.projectedFields)).foldl
    (setItem Prod.fst) []

def fieldLookup : List (UUID × (String × String)) :=
  (catalog.fieldsByTable.flatMap fun entry =>
    entry.2.map fun field => (field.1, (entry.1, field.2.name))).foldl (setItem Prod.fst) []

def cubeTables : List ConnectorTableModel :=
  catalog.tables.map fun table =>
    { name := table.name
      sqlTable := table.database ++ "." ++ table.name
      fields := ((getItem catalog.fieldsByTable table.name).getD []).map Prod.snd
      description := tableDescription table }

/-- The join that a Relation becomes: none where one of its fields is not in the catalog,
or where its cardinality needs a human call. -/
def cubeJoin (relation : Relation) : Option ConnectorJoinModel :=
  match getItem catalog.fieldLookup relation.leftFieldId,
      getItem catalog.fieldLookup relation.rightFieldId with
  | some left, some right =>
      if relation.cardinality = .manyToMany ∨ relation.cardinality = .unknown then none
      else some
        { fromTable := left.1
          toTable := right.1
          fromField := left.2
          toField := right.2
          relationship := cubeRelationship relation.cardinality }
  | _, _ => none

end CatalogVersion

/-- What `_fingerprint_of` writes about a Relation. -/
def Relation.fingerprintPart (relation : Relation) : String :=
  toString relation.relationId ++ ":" ++ relation.state.value

/-- What `_fingerprint_of` writes about an override. -/
def CatalogAccessOverride.fingerprintPart (override : CatalogAccessOverride) : String :=
  override.tableName ++ "." ++ ((override.fieldName.filter (· ≠ "")).getD "*") ++ ":" ++
    (if override.agentVisible then "True" else "False")

/-- The text that `_fingerprint_of` hashes. -/
def fingerprintText (relations : List Relation) (overrides : List CatalogAccessOverride) :
    String :=
  join "|" (orderedBy id (relations.map (·.fingerprintPart)) ++
    orderedBy id (overrides.map (·.fingerprintPart)))

section Readings

variable (digest : String → String) (ports : CredentialPorts)

/-- `_fingerprint_of`; the digest is the hexadecimal one of SHA-256. -/
def fingerprintOf (relations : List Relation) (overrides : List CatalogAccessOverride) :
    String :=
  digest (fingerprintText relations overrides)

/-- What both readings raise where no service is wired. -/
def configured (connector : Option ConnectorState) : Except ReadError ConnectorState :=
  match connector with
  | some state => .ok state
  | none => .error (.connectorNotConfigured
      "No ConnectorService is configured; cannot read a Join Graph")

def relationFingerprint (connector : Option ConnectorState)
    (organizationId dataConnectionId : UUID) : Except ReadError String := do
  let state ← configured connector
  let catalog ← state.latestCatalog organizationId dataConnectionId
  let graph ← state.joinGraph organizationId catalog.catalogVersionId
  let overrides ← state.listAgentAccess organizationId dataConnectionId
  return fingerprintOf digest graph.relations overrides

/-- What `connector_cube_model` makes of what it has read. -/
def compileModel (catalog : CatalogVersion) (graph : JoinGraph)
    (credentials : SourceCredentials) : ConnectorCubeModel where
  relationFingerprint := fingerprintOf digest graph.relations []
  clickhouse := credentials
  tables := catalog.cubeTables
  joins := graph.relations.filterMap catalog.cubeJoin

def connectorCubeModel (connector : Option ConnectorState)
    (organizationId dataConnectionId : UUID) : Except ReadError ConnectorCubeModel := do
  let state ← configured connector
  let catalog ← state.agentVisibleCatalog organizationId dataConnectionId
  let graph ← state.joinGraph organizationId catalog.catalogVersionId
  let credentials ← state.resolveDriverCredentials organizationId dataConnectionId ports
  return compileModel digest catalog graph credentials

end Readings

/-- No table of the catalog and no field of one is hidden. -/
def CatalogVersion.Respects (overrides : List CatalogAccessOverride)
    (catalog : CatalogVersion) : Prop :=
  ∀ table ∈ catalog.tables, ¬ Hides overrides table.name none ∧
    ∀ field ∈ table.fields, ¬ HidesField overrides table.name field.name

/-- No table of the model, no field of one and no end of a join is hidden. -/
def ConnectorCubeModel.Respects (overrides : List CatalogAccessOverride)
    (model : ConnectorCubeModel) : Prop :=
  (∀ table ∈ model.tables, ¬ Hides overrides table.name none ∧
    ∀ field ∈ table.fields, ¬ HidesField overrides table.name field.name) ∧
  ∀ join ∈ model.joins, ¬ HidesField overrides join.fromTable join.fromField ∧
    ¬ HidesField overrides join.toTable join.toField

/-- The catalog has a field of the name, in a table of the name. -/
def CatalogVersion.Shows (catalog : CatalogVersion) (tableName fieldName : String) : Prop :=
  ∃ table ∈ catalog.tables, table.name = tableName ∧
    ∃ field ∈ table.fields, field.name = fieldName

section Visible

variable {catalog : CatalogVersion} {overrides : List CatalogAccessOverride}

theorem CatalogVersion.Respects.not_hidesField (h : catalog.Respects overrides)
    {tableName fieldName : String} (hshows : catalog.Shows tableName fieldName) :
    ¬ HidesField overrides tableName fieldName := by
  obtain ⟨table, htable, rfl, field, hfield, rfl⟩ := hshows
  exact (h table htable).2 field hfield

/-- What is compiled under the name of a table is a field of a table of the name. -/
theorem shows_of_fieldsByTable {entry : String × List (UUID × ConnectorFieldModel)}
    {field : UUID × ConnectorFieldModel} (hentry : entry ∈ catalog.fieldsByTable)
    (hfield : field ∈ entry.2) : catalog.Shows entry.1 field.2.name := by
  have hmem := (addsTo_setItem.mem_foldl hentry).resolve_left List.not_mem_nil
  obtain ⟨table, htable, rfl⟩ := List.mem_map.1 hmem
  have hprojected := (addsTo_setItem.mem_foldl hfield).resolve_left List.not_mem_nil
  obtain ⟨harvested, hharvested, rfl⟩ := List.mem_map.1 hprojected
  exact ⟨table, htable, rfl, harvested, hharvested, rfl⟩

theorem shows_of_fieldLookup {fieldId : UUID} {names : String × String}
    (h : getItem catalog.fieldLookup fieldId = some names) :
    catalog.Shows names.1 names.2 := by
  have hmem := (addsTo_setItem.mem_foldl (mem_of_getItem h)).resolve_left List.not_mem_nil
  obtain ⟨entry, hentry, hnames⟩ := List.mem_flatMap.1 hmem
  obtain ⟨field, hfield, hfound⟩ := List.mem_map.1 hnames
  cases hfound
  exact shows_of_fieldsByTable hentry hfield

/-- **A table of the model** is one of the catalog, and so are its fields. -/
theorem mem_cubeTables {table : ConnectorTableModel} (h : table ∈ catalog.cubeTables) :
    (∃ harvested ∈ catalog.tables, harvested.name = table.name) ∧
      ∀ field ∈ table.fields, catalog.Shows table.name field.name := by
  obtain ⟨harvested, hharvested, rfl⟩ := List.mem_map.1 h
  refine ⟨⟨harvested, hharvested, rfl⟩, ?_⟩
  intro field hfield
  obtain ⟨found, hfound, rfl⟩ := List.mem_map.1 hfield
  cases hfields : getItem catalog.fieldsByTable harvested.name with
  | none =>
      rw [hfields] at hfound
      cases hfound
  | some fields =>
      rw [hfields] at hfound
      exact shows_of_fieldsByTable (mem_of_getItem hfields) hfound

/-- **A join of the model** joins fields of the catalog. -/
theorem cubeJoin_shows {relation : Relation} {join : ConnectorJoinModel}
    (h : catalog.cubeJoin relation = some join) :
    catalog.Shows join.fromTable join.fromField ∧
      catalog.Shows join.toTable join.toField := by
  unfold CatalogVersion.cubeJoin at h
  split at h
  next left right hleft hright =>
      split at h
      next => cases h
      next =>
          cases h
          exact ⟨shows_of_fieldLookup hleft, shows_of_fieldLookup hright⟩
  next => cases h

theorem compileModel_respects (h : catalog.Respects overrides) (digest : String → String)
    (graph : JoinGraph) (credentials : SourceCredentials) :
    (compileModel digest catalog graph credentials).Respects overrides := by
  constructor
  · intro table htable
    obtain ⟨⟨harvested, hharvested, hname⟩, hfields⟩ := mem_cubeTables htable
    refine ⟨?_, fun field hfield => h.not_hidesField (hfields field hfield)⟩
    rw [← hname]
    exact (h harvested hharvested).1
  · intro join hjoin
    obtain ⟨relation, -, hrelation⟩ := List.mem_filterMap.1 hjoin
    obtain ⟨hfrom, hto⟩ := cubeJoin_shows hrelation
    exact ⟨h.not_hidesField hfrom, h.not_hidesField hto⟩

end Visible

section Readings

variable {digest : String → String} {ports : CredentialPorts} {state : ConnectorState}
  {organizationId dataSourceId : UUID}

/-- **The catalog that agents see** is the latest version behind the gate. -/
theorem agentVisibleCatalog_eq_ok {catalog : CatalogVersion} :
    state.agentVisibleCatalog organizationId dataSourceId = .ok catalog ↔
      ∃ version, state.latestCatalog organizationId dataSourceId = .ok version ∧
        (AccessOverrides.build dataSourceId
          (state.accessOf organizationId dataSourceId)).apply version = catalog := by
  constructor
  · intro h
    obtain ⟨version, hversion, hcatalog⟩ := bind_eq_ok.1 h
    exact ⟨version, hversion, Except.ok.inj hcatalog⟩
  · intro h
    obtain ⟨version, hversion, rfl⟩ := h
    unfold ConnectorState.agentVisibleCatalog
    rw [hversion]
    rfl

/-- **What a model is compiled of.** -/
theorem connectorCubeModel_eq_ok {model : ConnectorCubeModel} :
    connectorCubeModel digest ports (some state) organizationId dataSourceId = .ok model ↔
      ∃ catalog graph credentials,
        state.agentVisibleCatalog organizationId dataSourceId = .ok catalog ∧
        state.joinGraph organizationId catalog.catalogVersionId = .ok graph ∧
        state.resolveDriverCredentials organizationId dataSourceId ports = .ok credentials ∧
        compileModel digest catalog graph credentials = model := by
  constructor
  · intro h
    obtain ⟨_, hstate, h⟩ := bind_eq_ok.1 h
    cases hstate
    obtain ⟨catalog, hcatalog, h⟩ := bind_eq_ok.1 h
    obtain ⟨graph, hgraph, h⟩ := bind_eq_ok.1 h
    obtain ⟨credentials, hcredentials, h⟩ := bind_eq_ok.1 h
    exact ⟨catalog, graph, credentials, hcatalog, hgraph, hcredentials, Except.ok.inj h⟩
  · intro h
    obtain ⟨catalog, graph, credentials, hcatalog, hgraph, hcredentials, rfl⟩ := h
    unfold connectorCubeModel configured
    simp only [bind, Except.bind, hcatalog, hgraph, hcredentials]
    rfl

theorem agentVisibleCatalog_respects {catalog : CatalogVersion}
    (h : state.agentVisibleCatalog organizationId dataSourceId = .ok catalog) :
    catalog.Respects (state.accessOf organizationId dataSourceId) := by
  obtain ⟨version, -, rfl⟩ := agentVisibleCatalog_eq_ok.1 h
  exact fun table htable => AccessOverrides.not_hides_of_mem_apply htable

end Readings

end Connector

end Zentra
