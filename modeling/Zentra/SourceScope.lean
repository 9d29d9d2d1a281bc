import Zentra.CubeModel
import Zentra.DataQuery

/-!
# From `schema_inspect` to the layer of a source

`schema_inspect` advertises the members of a connection under its id, `data_query` checks the
id, and the composed layer takes it off again.  A plain layer takes nothing off, and its
catalog names no id.

* `sourceScope_iff` — exactly which queries reach the layer of their source, and which
  queries for another source are refused;
* `not_delivers_of_one` — a scope of a single id delivers no query that names a member.
-/

open JsonDocument PythonText Raising TableRows

namespace Zentra

namespace AgentData

open Connector

/-- What a run keeps of each connection with a harvested catalog. -/
abbrev Discovered : Type := List (UUID × CatalogVersion × JoinGraph)

/-- What `_load_inventory` reads of one source. -/
def discover (state : ConnectorState) (organizationId : UUID) (known : Discovered)
    (source : StoredSource) : Except ReadError Discovered :=
  let read : Except ReadError (CatalogVersion × JoinGraph) := do
    let catalog ← state.agentVisibleCatalog organizationId source.dataSourceId
    let graph ← state.joinGraph organizationId catalog.catalogVersionId
    return (catalog, graph)
  match read with
  | .ok found => .ok (setItem Prod.fst known (source.dataSourceId, found))
  | .error (.catalogVersionNotFound _) => .ok known
  | .error error => .error error

/-- The connections that `_load_inventory` keeps: the reachable ones with a catalog. -/
def loadInventory (state : ConnectorState) (reachable : StoredSource → Prop)
    [DecidablePred reachable] (organizationId : UUID) : Except ReadError Discovered :=
  (select (fun source : StoredSource => source.organizationId = organizationId)
    state.sources).foldlM (fun known source =>
      if reachable source then discover state organizationId known source
      else .ok known) []

/-- A table in the overview of a connection. -/
structure TableSummary where
  name : String
  queryDataset : String
  database : String
  fieldCount : Nat
  estimatedRows : Option Int
  countMeasure : String
  deriving DecidableEq, Repr

structure MeasureView where
  name : String
  queryMember : String
  type : String
  description : String
  deriving DecidableEq, Repr

/-- A field of a table, less its profile. -/
structure FieldView where
  name : String
  queryMember : String
  declaredType : String
  family : TypeFamily
  nullable : Bool
  position : Int
  deriving DecidableEq, Repr

/-- What `schema_inspect` says, less the joins. -/
inductive SchemaView
  | overview (connectionId : String) (tables : List TableSummary)
  | table (connectionId name database : String) (measures : List MeasureView)
      (fields : List FieldView)
  deriving DecidableEq, Repr

/-- The name of a member of a table, under the id of its connection. -/
def memberOf (connectionId : UUID) (tableName member : String) : String :=
  qualified connectionId (tableName ++ "." ++ member)

/-- The measures of a table: one that counts its rows, one for each numeric field. -/
def measureViews (connectionId : UUID) (table : SourceTable) : List MeasureView :=
  { name := "count"
    queryMember := memberOf connectionId table.name "count"
    type := "count"
    description := "Row count." } ::
  ((ordered SourceField.position table.fields).filter fun field =>
    cubeType field.normalisedType = .number).map fun field =>
      { name := "total_" ++ field.name
        queryMember := memberOf connectionId table.name ("total_" ++ field.name)
        type := "sum"
        description := "Sum of " ++ field.name ++ "." }

/-- The fields of a table, by position. -/
def fieldViews (connectionId : UUID) (table : SourceTable) : List FieldView :=
  (ordered SourceField.position table.fields).map fun field =>
    { name := field.name
      queryMember := memberOf connectionId table.name field.name
      declaredType := field.declaredType
      family := field.family
      nullable := field.nullable
      position := field.position }

/-- `schema_inspect`; an error is the text of the `LookupError`. -/
def schemaInspect (known : Discovered) (connectionId : UUID) (tableName : Option String) :
    Except String SchemaView :=
  match getItem known connectionId with
  | none => .error "Connection is not ready or has no harvested catalog"
  | some (catalog, _) =>
      match tableName with
      | none => .ok (.overview (uuidText connectionId) (catalog.tables.map fun table =>
          { name := table.name
            queryDataset := qualified connectionId table.name
            database := table.database
            fieldCount := table.fields.length
            estimatedRows := table.estimatedRows
            countMeasure := memberOf connectionId table.name "count" }))
      | some name =>
          match catalog.tables.find? (·.name = name) with
          | none => .error ("No agent-visible table named '" ++ name ++
              "' in this connection")
          | some table => .ok (.table (uuidText connectionId) table.name table.database
              (measureViews connectionId table) (fieldViews connectionId table))

/-- The `query_member` names of an answer. -/
def SchemaView.queryMembers : SchemaView → List String
  | overview _ _ => []
  | table _ _ _ measures fields =>
      measures.map (·.queryMember) ++ fields.map (·.queryMember)

/-- `schema_inspect` advertises the name for a table of the connection. -/
def Advertised (known : Discovered) (connectionId : UUID) (name : String) : Prop :=
  ∃ tableName view, schemaInspect known connectionId (some tableName) = .ok view ∧
    name ∈ view.queryMembers

/-- **Advertised members.** Each of them carries the id of its connection. -/
theorem Advertised.startsWith {known : Discovered} {connectionId : UUID} {name : String}
    (h : Advertised known connectionId name) : StartsWith (sourceFront connectionId) name := by
  obtain ⟨tableName, view, hview, hname⟩ := h
  unfold schemaInspect at hview
  split at hview
  · cases hview
  · simp only at hview
    split at hview
    · cases hview
    · cases hview
      rcases List.mem_append.1 hname with hmeasure | hfield
      · obtain ⟨measure, hmem, rfl⟩ := List.mem_map.1 hmeasure
        rcases List.mem_cons.1 hmem with rfl | hsum
        · exact startsWith_qualified _ _
        · obtain ⟨field, -, rfl⟩ := List.mem_map.1 hsum
          exact startsWith_qualified _ _
      · obtain ⟨shown, hmem, rfl⟩ := List.mem_map.1 hfield
        obtain ⟨field, -, rfl⟩ := List.mem_map.1 hmem
        exact startsWith_qualified _ _

/-- A call of `resolve` for an organization, after any other calls. -/
structure Resolution where
  layers : ScopedCubeSemanticLayers
  readings : UUID → Reading
  organizationId : UUID
  entries : Entries
  reachable : layers.Reachable entries

def Scope.IsTuple : Scope → Prop
  | .one _ => False
  | .tuple _ _ => True

namespace Resolution

variable (call : Resolution)

def layer (scope : Scope) : SemanticLayer :=
  (call.layers.resolve call.readings call.organizationId scope call.entries).1

def layerOf (sourceId : UUID) : CubeSemanticLayer :=
  (call.layers.resolveOne (call.readings sourceId) (call.organizationId, some sourceId)
    call.entries).1

/-- The Cube catalog of every connection in the scope can be read. -/
def Readable (scope : Scope) : Prop :=
  ∀ sourceId, scope.Has sourceId → (call.layerOf sourceId).catalog.isSome

/-- The sources that the catalog of a scope names: those of a tuple that list a member, and
for a single id whatever its own catalog names. -/
def Names : Scope → UUID → Prop
  | .one connectionId, sourceId =>
      ∃ catalog, (call.layerOf connectionId).catalog = some catalog ∧ catalog.Knows sourceId
  | .tuple connectionIds _, sourceId => sourceId ∈ connectionIds ∧
      ∃ catalog, (call.layerOf sourceId).catalog = some catalog ∧ catalog.names ≠ []

variable {call}

theorem layer_tuple {connectionIds : List UUID} (distinct : connectionIds.Nodup) :
    call.layer (.tuple connectionIds distinct) = .sourceScoped
      (connectionIds.map fun sourceId => (sourceId, call.layerOf sourceId)) :=
  congrArg SemanticLayer.sourceScoped (call.layers.resolveAll_eq distinct)

theorem lookup_layers {connectionIds : List UUID} {sourceId : UUID}
    (h : sourceId ∈ connectionIds) :
    (connectionIds.map fun id => (id, call.layerOf id)).lookup sourceId =
      some (call.layerOf sourceId) := by
  induction connectionIds with
  | nil => cases h
  | cons first rest ih =>
      show getItem ((first, call.layerOf first) :: _) sourceId = _
      rw [getItem_cons]
      by_cases hfirst : sourceId = first
      · rw [if_pos hfirst, hfirst]
      · rw [if_neg hfirst]
        exact ih ((List.mem_cons.1 h).resolve_left hfirst)

/-- The catalogs that the layers of a readable scope serve. -/
theorem catalog_tuple {connectionIds : List UUID} {distinct : connectionIds.Nodup}
    (h : call.Readable (.tuple connectionIds distinct)) :
    (call.layer (.tuple connectionIds distinct)).catalog = some (SemanticCatalog.concat
      (connectionIds.map fun sourceId =>
        ((call.layerOf sourceId).catalog.getD ⟨[], []⟩).ofSource sourceId)) := by
  let served : CubeSemanticLayer → SemanticCatalog := fun layer => layer.catalog.getD ⟨[], []⟩
  have hserved : ∀ entry ∈ connectionIds.map fun id => (id, call.layerOf id),
      entry.2.catalog = some (served entry.2) := by
    intro entry hentry
    obtain ⟨sourceId, hmem, rfl⟩ := List.mem_map.1 hentry
    obtain ⟨catalog, hcatalog⟩ := Option.isSome_iff_exists.1 (h sourceId hmem)
    show (call.layerOf sourceId).catalog = some ((call.layerOf sourceId).catalog.getD _)
    rw [hcatalog]
    rfl
  rw [layer_tuple, SemanticLayer.catalog_eq_some hserved, List.map_map]
  rfl

/-- **A readable scope** is one whose layer has a catalog. -/
theorem readable_iff {scope : Scope} :
    (call.layer scope).catalog.isSome ↔ call.Readable scope := by
  cases scope with
  | one connectionId =>
      constructor
      · intro h sourceId hsource
        cases hsource
        exact h
      · intro h
        exact h connectionId rfl
  | tuple connectionIds distinct =>
      constructor
      · intro h sourceId hmem
        by_contra hnot
        have hnone : (call.layerOf sourceId).catalog = none := by simpa using hnot
        rw [layer_tuple, SemanticLayer.catalog_eq_none
          (List.mem_map_of_mem (f := fun id => (id, call.layerOf id)) hmem) hnone] at h
        cases h
      · intro h
        rw [catalog_tuple h]
        rfl

/-- **The sources of a catalog**, by the shape of the scope. -/
theorem knows_iff {scope : Scope} {catalog : SemanticCatalog} {sourceId : UUID}
    (h : (call.layer scope).catalog = some catalog) :
    catalog.Knows sourceId ↔ call.Names scope sourceId := by
  cases scope with
  | one connectionId =>
      constructor
      · intro hknows
        exact ⟨catalog, h, hknows⟩
      · intro hnames
        obtain ⟨served, hserved, hknows⟩ := hnames
        have heq : some served = some catalog := hserved.symm.trans h
        cases heq
        exact hknows
  | tuple connectionIds distinct =>
      have hreadable := readable_iff.1 (Option.isSome_iff_exists.2 ⟨catalog, h⟩)
      rw [catalog_tuple hreadable] at h
      cases h
      constructor
      · intro hknows
        obtain ⟨name, hname, -, hsplit⟩ := hknows
        obtain ⟨part, hpart, hmem⟩ := SemanticCatalog.mem_names_concat.1 hname
        obtain ⟨connectionId, hconnection, rfl⟩ := List.mem_map.1 hpart
        rw [SemanticCatalog.names_ofSource] at hmem
        obtain ⟨listed, hlisted, rfl⟩ := List.mem_map.1 hmem
        rw [splitFirst_qualified] at hsplit
        cases uuidText_injective hsplit
        obtain ⟨served, hserved⟩ :=
          Option.isSome_iff_exists.1 (hreadable _ hconnection)
        rw [hserved] at hlisted
        exact ⟨hconnection, served, hserved, List.ne_nil_of_mem hlisted⟩
      · intro hnames
        obtain ⟨hconnection, served, hserved, hlists⟩ := hnames
        obtain ⟨listed, hlisted⟩ := List.exists_mem_of_ne_nil _ hlists
        refine ⟨qualified sourceId listed, ?_, occurs_qualified _ _, splitFirst_qualified _ _⟩
        apply SemanticCatalog.mem_names_concat.2
        refine ⟨served.ofSource sourceId, ?_, ?_⟩
        · refine List.mem_map.2 ⟨sourceId, hconnection, ?_⟩
          rw [hserved]
          rfl
        · rw [SemanticCatalog.names_ofSource]
          exact List.mem_map_of_mem hlisted

theorem client_layerOf (sourceId : UUID) :
    ∃ fingerprint, (call.layerOf sourceId).client =
      call.layers.newClient call.organizationId (some sourceId) fingerprint :=
  call.layers.client_resolveOne call.reachable.minted

end Resolution

/-- A query for a connection, with members that are advertised for it. -/
structure Asks (known : Discovered) (sourceId : UUID) (query : SemanticQuery) : Prop where
  source : query.sourceId = some sourceId
  advertised : ∀ member ∈ query.members, Advertised known sourceId member

/-- A query for a connection outside the scope, or with a member of another connection. -/
structure Foreign (scope : Scope) (sourceId : UUID) (query : SemanticQuery) : Prop where
  source : query.sourceId = some sourceId
  foreign : ¬ scope.Has sourceId ∨ ∃ member ∈ query.members,
    ∃ other, other ≠ sourceId ∧ StartsWith (sourceFront other) member

variable {Row : Type}

/-- A call that is refused before any layer is queried. -/
def Invocation.Refuses (invocation : Invocation Row) : Prop :=
  (∃ message, invocation.outcome = .returned (refusal message)) ∧ invocation.received = []

/-- A call in which the layer with the client receives exactly the query, and its answer is
what the agent is told. -/
structure Invocation.Delivers (invocation : Invocation Row) (rowText : Row → String)
    (cube : Cube Row) (client : CubeClient) (query : SemanticQuery) : Prop where
  received : invocation.received = [⟨client, query⟩]
  outcome : invocation.outcome = .ofAnswer rowText (cube.load client (toCubeQuery query))

variable {call : Resolution} {scope : Scope} {known : Discovered}
  {validation : ModelValidation} {cube : Cube Row} {rowText : Row → String}
  {tool : DataQueryTool Row} {arguments : Object} {query : SemanticQuery} {sourceId : UUID}

/-- Whether the source of a query is accepted, by the scope. -/
theorem validateSourceScope_layer :
    validateSourceScope (call.layer scope) query sourceId = .ok () ↔
      (∀ member ∈ query.members, StartsWith (sourceFront sourceId) member) ∧
        call.Readable scope ∧ call.Names scope sourceId := by
  rw [validateSourceScope_eq_ok, ← Resolution.readable_iff]
  refine and_congr_right fun _ => ⟨?_, ?_⟩
  · intro h
    obtain ⟨catalog, hcatalog, hknows⟩ := h
    exact ⟨Option.isSome_iff_exists.2 ⟨catalog, hcatalog⟩,
      (Resolution.knows_iff hcatalog).1 hknows⟩
  · intro h
    obtain ⟨catalog, hcatalog⟩ := Option.isSome_iff_exists.1 h.1
    exact ⟨catalog, hcatalog, (Resolution.knows_iff hcatalog).2 h.2⟩

theorem validateSourceScope_layer_refuses :
    (∃ message, validateSourceScope (call.layer scope) query sourceId =
        .error (.invalidSemanticQuery message)) ↔
      (∃ member ∈ query.members, ¬ StartsWith (sourceFront sourceId) member) ∨
        call.Readable scope ∧ ¬ call.Names scope sourceId := by
  rw [validateSourceScope_refuses, ← Resolution.readable_iff]
  refine or_congr_right ⟨?_, ?_⟩
  · intro h
    obtain ⟨catalog, hcatalog, hknows⟩ := h
    exact ⟨Option.isSome_iff_exists.2 ⟨catalog, hcatalog⟩,
      fun hnames => hknows ((Resolution.knows_iff hcatalog).2 hnames)⟩
  · intro h
    obtain ⟨catalog, hcatalog⟩ := Option.isSome_iff_exists.1 h.1
    exact ⟨catalog, hcatalog, fun hknows => h.2 ((Resolution.knows_iff hcatalog).1 hknows)⟩

theorem delivers_send (htool : tool.semanticLayer = call.layer scope)
    (hhas : scope.Has sourceId) (hsource : query.sourceId = some sourceId)
    (hmembers : ∀ member ∈ query.members, StartsWith (sourceFront sourceId) member)
    (hshape : scope.IsTuple ∨ query.members = []) :
    (tool.send rowText cube query).Delivers rowText cube (call.layerOf sourceId).client
      (query.within sourceId) := by
  have hraw : tool.semanticLayer.queryRaw cube query =
      (call.layerOf sourceId).queryRaw cube (query.within sourceId) := by
    rw [htool]
    cases scope with
    | one connectionId =>
        cases hhas
        have hempty : query.members = [] := hshape.resolve_left id
        rw [(SemanticQuery.within_eq_self_iff hmembers).2 hempty]
        exact SemanticLayer.queryRaw_cube cube query _
    | tuple connectionIds distinct =>
        rw [Resolution.layer_tuple]
        exact SemanticLayer.queryRaw_sourceScoped cube hsource
          (Resolution.lookup_layers hhas) hmembers
  constructor
  · show (tool.semanticLayer.queryRaw cube query).received = _
    rw [hraw]
    rfl
  · show Outcome.ofAnswer rowText (tool.semanticLayer.queryRaw cube query).answer = _
    rw [hraw]
    rfl

/-- **Queries for a connection of the scope.** They reach its layer if the scope is a tuple
whose catalogs can be read and the one of the connection lists a member. -/
theorem delivers_iff (htool : tool.semanticLayer = call.layer scope)
    (hparse : dataQueryFromJson validation arguments = .ok query)
    (hhas : scope.Has sourceId) (hasks : Asks known sourceId query) :
    (∃ fingerprint, (tool.invoke rowText validation cube arguments).Delivers rowText cube
        (call.layers.newClient call.organizationId (some sourceId) fingerprint)
        (query.within sourceId)) ↔
      call.Readable scope ∧ call.Names scope sourceId ∧
        (scope.IsTuple ∨ query.members = []) := by
  have hmembers : ∀ member ∈ query.members, StartsWith (sourceFront sourceId) member :=
    fun member hmem => (hasks.advertised member hmem).startsWith
  constructor
  · intro h
    obtain ⟨fingerprint, hreceived, -⟩ := h
    cases hvalid : validateSourceScope tool.semanticLayer query sourceId with
    | error failure =>
        rw [DataQueryTool.invoke_of_error hparse hasks.source hvalid] at hreceived
        cases hreceived
    | ok _ =>
        rw [DataQueryTool.invoke_of_ok hparse hasks.source hvalid] at hreceived
        rw [htool] at hvalid
        obtain ⟨-, hreadable, hnames⟩ := validateSourceScope_layer.1 hvalid
        refine ⟨hreadable, hnames, ?_⟩
        cases scope with
        | tuple connectionIds distinct => exact .inl trivial
        | one connectionId =>
            right
            have hsent : (tool.send rowText cube query).received =
                [⟨(call.layerOf connectionId).client, query⟩] := by
              show (tool.semanticLayer.queryRaw cube query).received = _
              rw [htool]
              rfl
            rw [hsent] at hreceived
            have hsame := congrArg Received.query (List.cons.inj hreceived).1
            exact (SemanticQuery.within_eq_self_iff hmembers).1 hsame.symm
  · intro h
    obtain ⟨hreadable, hnames, hshape⟩ := h
    have hvalid : validateSourceScope tool.semanticLayer query sourceId = .ok () := by
      rw [htool]
      exact validateSourceScope_layer.2 ⟨hmembers, hreadable, hnames⟩
    obtain ⟨fingerprint, hclient⟩ := call.client_layerOf sourceId
    refine ⟨fingerprint, ?_⟩
    rw [DataQueryTool.invoke_of_ok hparse hasks.source hvalid, ← hclient]
    exact delivers_send htool hhas hasks.source hmembers hshape

/-- **Foreign queries.** They are refused without any layer being queried if a member lacks
the id of their source, or the catalogs can be read and do not name it. -/
theorem refuses_iff (htool : tool.semanticLayer = call.layer scope)
    (hparse : dataQueryFromJson validation arguments = .ok query)
    (hforeign : Foreign scope sourceId query) :
    (tool.invoke rowText validation cube arguments).Refuses ↔
      (∃ member ∈ query.members, ¬ StartsWith (sourceFront sourceId) member) ∨
        call.Readable scope ∧ ¬ call.Names scope sourceId := by
  rw [← validateSourceScope_layer_refuses, ← htool]
  cases hvalid : validateSourceScope tool.semanticLayer query sourceId with
  | error failure =>
      rw [DataQueryTool.invoke_of_error hparse hforeign.source hvalid]
      constructor
      · intro h
        obtain ⟨⟨message, hmessage⟩, -⟩ := h
        cases failure with
        | malformedAgentResponse text =>
            exfalso
            unfold validateSourceScope at hvalid
            split at hvalid
            · cases hvalid
            · split at hvalid
              · cases hvalid
              · split at hvalid <;> cases hvalid
        | invalidSemanticQuery text => exact ⟨text, rfl⟩
        | uncaught => cases hmessage
      · intro h
        obtain ⟨message, hmessage⟩ := h
        cases hmessage
        exact ⟨⟨message, rfl⟩, rfl⟩
  | ok _ =>
      rw [DataQueryTool.invoke_of_ok hparse hforeign.source hvalid]
      constructor
      · intro h
        exfalso
        have hreceived : (tool.semanticLayer.queryRaw cube query).received = [] := h.2
        rw [htool] at hvalid hreceived
        obtain ⟨hmembers, -, hnames⟩ := validateSourceScope_layer.1 hvalid
        cases scope with
        | one connectionId => cases hreceived
        | tuple connectionIds distinct =>
            rcases hforeign.foreign with hout | ⟨member, hmem, other, hne, hother⟩
            · exact hout hnames.1
            · exact hne (sourceFront_unique hother (hmembers member hmem))
      · intro h
        obtain ⟨message, hmessage⟩ := h
        cases hmessage

/-- `_source_scope`: what a Thread that is continued asks for. -/
def sourceScope (sourceIds : List UUID) (distinct : sourceIds.Nodup) : Option Scope :=
  match sourceIds with
  | [] => none
  | [sourceId] => some (.one sourceId)
  | first :: second :: rest => some (.tuple (first :: second :: rest) distinct)

/-- Cube answers `/meta` with the row count of the table `orders`. -/
def ordersCall : Resolution where
  layers := { cubeUrl := "http://cube", cubeApiSecret := none }
  readings := fun _ =>
    { checkedAt := 0
      storedAt := 0
      fingerprint := "f"
      describe := fun _ => some [⟨[{ name := "orders.count", type := "count" }], []⟩] }
  organizationId := 9
  entries := []
  reachable := ⟨[], .nil⟩

/-- The harvested catalog of connection 1. -/
def ordersKnown : Discovered :=
  [(1, { catalogVersionId := 5
         dataSourceId := 1
         organizationId := 9
         harvestRunId := 3
         createdAt := 0
         tables := [{ tableId := 4, name := "orders", database := "shop" }] },
    JoinGraph.build 5 [])]

def ordersQuery : SemanticQuery where
  measures := [memberOf 1 "orders" "count"]
  sourceId := some 1

def ordersArguments : Object :=
  [("source_id", .string (uuidText 1)),
    ("measures", .array [.string (memberOf 1 "orders" "count")]),
    ("dimensions", .array []), ("time_dimensions", .array []), ("filters", .array [])]

def ordersValidation : ModelValidation where
  readUuid := fun text => if text = uuidText 1 then some 1 else none
  complaint := fun _ => ""

/-- The rows that Cube answers with. -/
def ordersCube : Cube Nat := ⟨fun _ _ => .ok [5]⟩

/-- The tool of an agent whose run has the scope. -/
def ordersTool (scope : Scope) : DataQueryTool Nat where
  semanticLayer := ordersCall.layer scope

/-- A call of the tool in a run with the scope. -/
def ordersInvocation (scope : Scope) : Invocation Nat :=
  (ordersTool scope).invoke (fun _ => "5") ordersValidation ordersCube ordersArguments

def ordersScope : Scope := .tuple [1] (by decide)

theorem ordersArguments_parse :
    dataQueryFromJson ordersValidation ordersArguments = .ok ordersQuery := by
  rfl

theorem ordersQuery_asks : Asks ordersKnown 1 ordersQuery := by
  refine ⟨rfl, ?_⟩
  intro member hmem
  have hcount : member = memberOf 1 "orders" "count" := List.mem_singleton.1 hmem
  refine ⟨"orders", _, rfl, ?_⟩
  rw [hcount]
  exact List.mem_cons_self

/-- **Source-scoped queries.** A query for a connection of the scope, with members advertised
for it, is delivered to the layer of the connection without the ids exactly if the catalogs of
the scope can be read, name the connection, and the scope is a tuple or the query names no
member; a query for something else is refused exactly if a member lacks the id of its source,
or the catalogs can be read and do not name the source. -/
theorem sourceScope_iff (call : Resolution) (scope : Scope) (known : Discovered)
    (cube : Cube Row) (rowText : Row → String) (validation : ModelValidation)
    {tool : DataQueryTool Row} (htool : tool.semanticLayer = call.layer scope)
    {arguments : Object} {query : SemanticQuery}
    (hparse : dataQueryFromJson validation arguments = .ok query) :
    (∀ sourceId, scope.Has sourceId → Asks known sourceId query →
      ((∃ fingerprint, (tool.invoke rowText validation cube arguments).Delivers rowText cube
          (call.layers.newClient call.organizationId (some sourceId) fingerprint)
          (query.within sourceId)) ↔
        call.Readable scope ∧ call.Names scope sourceId ∧
          (scope.IsTuple ∨ query.members = []))) ∧
    ∀ sourceId, Foreign scope sourceId query →
      ((tool.invoke rowText validation cube arguments).Refuses ↔
        (∃ member ∈ query.members, ¬ StartsWith (sourceFront sourceId) member) ∨
          call.Readable scope ∧ ¬ call.Names scope sourceId) :=
  ⟨fun _ hhas hasks => delivers_iff htool hparse hhas hasks,
    fun _ hforeign => refuses_iff htool hparse hforeign⟩

theorem ordersScope_delivers : ∃ fingerprint, (ordersInvocation ordersScope).Delivers
    (fun _ => "5") ordersCube (ordersCall.layers.newClient 9 (some 1) fingerprint)
    { measures := ["orders.count"], sourceId := some 1 } := by
  have hiff := (@sourceScope_iff Nat ordersCall ordersScope ordersKnown ordersCube
    (fun _ => "5") ordersValidation (ordersTool ordersScope) rfl ordersArguments ordersQuery
    ordersArguments_parse).1 1 (List.mem_singleton.2 rfl) ordersQuery_asks
  refine hiff.2 ⟨?_, ⟨List.mem_singleton.2 rfl, _, rfl, List.cons_ne_nil _ _⟩, .inl trivial⟩
  intro sourceId hmem
  exact rfl

/-- The same connection, as the single id of a continued Thread. -/
theorem ordersOne_not_delivers :
    (Scope.one 1).Has 1 ∧ Asks ordersKnown 1 ordersQuery ∧
      dataQueryFromJson ordersValidation ordersArguments = .ok ordersQuery ∧
      (∃ catalog, (ordersCall.layerOf 1).catalog = some catalog ∧
        catalog.names = ["orders.count"]) ∧
      (ordersInvocation (.one 1)).outcome =
        .returned (refusal "The requested source is not available to this agent.") ∧
      (ordersInvocation (.one 1)).received = [] ∧
      ¬ ∃ client, (ordersInvocation (.one 1)).Delivers (fun _ => "5") ordersCube client
        (ordersQuery.within 1) := by
  have hreceived : (ordersInvocation (.one 1)).received = [] := by decide +kernel
  refine ⟨rfl, ordersQuery_asks, ordersArguments_parse, ⟨_, rfl, rfl⟩, ?_, hreceived, ?_⟩
  · decide +kernel
  · intro h
    obtain ⟨client, hdelivers⟩ := h
    have hnone := hreceived.symm.trans hdelivers.received
    cases hnone

end AgentData

end Zentra
