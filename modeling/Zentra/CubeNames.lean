import Zentra.CubeNoninterference

/-!
# Models that are named after tables

The semantic layer is keyed by the names of the tables alone, and a source has a table of a name
in each of its databases.

* `CatalogVersion.CompiledAs` — what a model should be: the fields of a table in the model of the
  table, and joins between the tables of the fields;
* `compiled_as_iff` — a model is that exactly if the names that it uses are not shared.
-/

open TableRows

namespace Zentra

namespace Connector

/-- The table has a field of the identifier. -/
def SourceTable.Has (table : SourceTable) (fieldId : UUID) : Prop :=
  ∃ field ∈ table.fields, field.fieldId = fieldId

instance (table : SourceTable) : DecidablePred table.Has := fun _ =>
  inferInstanceAs (Decidable (∃ _ ∈ _, _))

namespace CatalogVersion

variable (catalog : CatalogVersion)

/-- The identifiers of the fields are all different. -/
def FieldIdsDistinct : Prop :=
  (catalog.tables.flatMap fun table => table.fields.map (·.fieldId)).Nodup

instance : Decidable catalog.FieldIdsDistinct := inferInstanceAs (Decidable (List.Nodup _))

def lastNamed (tableName : String) : Option SourceTable :=
  catalog.tables.reverse.find? fun table => table.name = tableName

/-- No other table has the name of the table. -/
def NamedAlone (table : SourceTable) : Prop :=
  ∀ other ∈ catalog.tables, other.name = table.name → other = table

instance : DecidablePred catalog.NamedAlone := fun _ =>
  inferInstanceAs (Decidable (∀ _ ∈ _, _))

variable {catalog} {table : SourceTable} {fieldId : UUID}

theorem of_lastNamed {tableName : String} (h : catalog.lastNamed tableName = some table) :
    table ∈ catalog.tables ∧ table.name = tableName := by
  refine ⟨List.mem_reverse.1 (List.mem_of_find?_eq_some h), ?_⟩
  simpa using List.find?_some h

theorem exists_lastNamed (h : table ∈ catalog.tables) :
    ∃ last, catalog.lastNamed table.name = some last := by
  apply Option.isSome_iff_exists.1
  unfold lastNamed
  rw [List.find?_isSome]
  exact ⟨table, List.mem_reverse.2 h, by simp⟩

theorem FieldIdsDistinct.eq_of_fieldId (h : catalog.FieldIdsDistinct) {other : SourceTable}
    {field otherField : SourceField} (htable : table ∈ catalog.tables)
    (hother : other ∈ catalog.tables) (hfield : field ∈ table.fields)
    (hotherField : otherField ∈ other.fields) (hid : field.fieldId = otherField.fieldId) :
    table = other ∧ field = otherField := by
  let places := catalog.tables.flatMap fun table => table.fields.map fun field => (table, field)
  have hplaces : (places.map fun place => place.2.fieldId).Nodup := by
    unfold FieldIdsDistinct at h
    rw [List.map_flatMap]
    simp only [List.map_map]
    exact h
  have hmem : ∀ {table : SourceTable} {field : SourceField}, table ∈ catalog.tables →
      field ∈ table.fields → (table, field) ∈ places := by
    intro table field htable hfield
    exact List.mem_flatMap.2 ⟨table, htable, List.mem_map.2 ⟨field, hfield, rfl⟩⟩
  have hplace : (table, field) = (other, otherField) :=
    List.inj_on_of_nodup_map hplaces (hmem htable hfield) (hmem hother hotherField) hid
  exact ⟨congrArg Prod.fst hplace, congrArg Prod.snd hplace⟩

theorem FieldIdsDistinct.projectedFields (h : catalog.FieldIdsDistinct)
    (htable : table ∈ catalog.tables) :
    table.projectedFields = table.fields.map fun field => (field.fieldId, field.projected) := by
  have hnodup : (table.fields.map (·.fieldId)).Nodup := (List.nodup_flatMap.1 h).1 table htable
  unfold SourceTable.projectedFields
  rw [foldl_setItem_of_nodup]
  · rfl
  · rw [List.nil_append, List.map_map]
    exact hnodup

/-- **What is compiled under a name**: the fields of the last table of the name. -/
theorem getItem_fieldsByTable (tableName : String) :
    getItem catalog.fieldsByTable tableName =
      (catalog.lastNamed tableName).map (·.projectedFields) :=
  getItem_comprehension _ _ catalog.tables tableName

theorem mem_fieldsByTable {tableName : String} {fields : List (UUID × ConnectorFieldModel)} :
    (tableName, fields) ∈ catalog.fieldsByTable ↔
      ∃ table, catalog.lastNamed tableName = some table ∧ table.projectedFields = fields := by
  have hnodup : (catalog.fieldsByTable.map Prod.fst).Nodup :=
    addsTo_setItem.nodup_foldl List.nodup_nil
  rw [← Option.map_eq_some_iff, ← getItem_fieldsByTable]
  exact ⟨getItem_of_mem hnodup, mem_of_getItem⟩

/-- **What is found under the identifier of a field**: its names, if its table is the last one
of its name. -/
theorem getItem_fieldLookup (h : catalog.FieldIdsDistinct) {names : String × String} :
    getItem catalog.fieldLookup fieldId = some names ↔
      ∃ table, catalog.lastNamed names.1 = some table ∧
        ∃ field ∈ table.fields, field.fieldId = fieldId ∧ field.name = names.2 := by
  let added := catalog.fieldsByTable.flatMap fun entry =>
    entry.2.map fun field => (field.1, (entry.1, field.2.name))
  have hadded : ∀ {fieldId : UUID} {names : String × String}, (fieldId, names) ∈ added ↔
      ∃ table, catalog.lastNamed names.1 = some table ∧
        ∃ field ∈ table.fields, field.fieldId = fieldId ∧ field.name = names.2 := by
    intro fieldId names
    constructor
    · intro hmem
      obtain ⟨⟨tableName, fields⟩, hentry, hmem⟩ := List.mem_flatMap.1 hmem
      obtain ⟨compiled, hcompiled, hnames⟩ := List.mem_map.1 hmem
      cases hnames
      obtain ⟨table, hlast, rfl⟩ := mem_fieldsByTable.1 hentry
      rw [h.projectedFields (of_lastNamed hlast).1] at hcompiled
      obtain ⟨field, hfield, rfl⟩ := List.mem_map.1 hcompiled
      exact ⟨table, hlast, field, hfield, rfl, rfl⟩
    · intro ⟨table, hlast, field, hfield, hid, hname⟩
      refine List.mem_flatMap.2 ⟨_, mem_fieldsByTable.2 ⟨table, hlast, rfl⟩, ?_⟩
      refine List.mem_map.2 ⟨(field.fieldId, field.projected), ?_, ?_⟩
      · rw [h.projectedFields (of_lastNamed hlast).1]
        exact List.mem_map.2 ⟨field, hfield, rfl⟩
      · exact Prod.ext hid (Prod.ext rfl hname)
  constructor
  · intro hfound
    exact hadded.1 ((addsTo_setItem.mem_foldl (mem_of_getItem hfound)).resolve_left
      List.not_mem_nil)
  · intro hnames
    have hkey : fieldId ∈ catalog.fieldLookup.map Prod.fst :=
      addsTo_setItem.mem_keys_foldl.2
        (.inr (List.mem_map.2 ⟨(fieldId, names), hadded.2 hnames, rfl⟩))
    obtain ⟨⟨foundId, found⟩, hmem, rfl⟩ := List.mem_map.1 hkey
    have hfound : getItem catalog.fieldLookup foundId = some found :=
      getItem_of_mem (addsTo_setItem.nodup_foldl List.nodup_nil) hmem
    -- Both are the names of the one field of the identifier.
    obtain ⟨other, hother, otherField, hotherField, hotherId, hotherName⟩ :=
      hadded.1 ((addsTo_setItem.mem_foldl hmem).resolve_left List.not_mem_nil)
    obtain ⟨table, hlast, field, hfield, hid, hname⟩ := hnames
    obtain ⟨rfl, rfl⟩ := h.eq_of_fieldId (of_lastNamed hother).1 (of_lastNamed hlast).1
      hotherField hfield (hotherId.trans hid.symm)
    have hsame : found = names :=
      Prod.ext ((of_lastNamed hother).2.symm.trans (of_lastNamed hlast).2)
        (hotherName.symm.trans hname)
    rw [hfound, hsame]

end CatalogVersion

/-- The model of a table alone. -/
structure SourceTable.CompiledAs (table : SourceTable) (compiled : ConnectorTableModel) :
    Prop where
  name : compiled.name = table.name
  sqlTable : compiled.sqlTable = table.database ++ "." ++ table.name
  fields : compiled.fields.Perm (table.fields.map (·.projected))

namespace CatalogVersion

variable (catalog : CatalogVersion)

/-- The names are those of the field: of its table, which no other table is called, and its
own. -/
def Designates (tableName fieldName : String) (fieldId : UUID) : Prop :=
  ∃ table ∈ catalog.tables, table.name = tableName ∧ catalog.NamedAlone table ∧
    ∃ field ∈ table.fields, field.fieldId = fieldId ∧ field.name = fieldName

/-- The join connects the tables of the two fields, on these fields. -/
structure Connects (relation : Relation) (join : ConnectorJoinModel) : Prop where
  left : catalog.Designates join.fromTable join.fromField relation.leftFieldId
  right : catalog.Designates join.toTable join.toField relation.rightFieldId

/-- Every table has a model with its own fields, and every join that is compiled connects the
tables of its fields. -/
structure CompiledAs (graph : JoinGraph) (model : ConnectorCubeModel) : Prop where
  tables : List.Forall₂ SourceTable.CompiledAs catalog.tables model.tables
  joins : ∀ relation ∈ graph.relations, ∀ join, catalog.cubeJoin relation = some join →
    catalog.Connects relation join

/-- The table is the last one of its name, and has the field. -/
def LastWith (table : SourceTable) (fieldId : UUID) : Prop :=
  catalog.lastNamed table.name = some table ∧ table.Has fieldId

/-- Tables of one name have the same fields, and a table that is joined has its name alone. -/
structure NamesApart (graph : JoinGraph) : Prop where
  fields : ∀ table ∈ catalog.tables, ∀ other ∈ catalog.tables, other.name = table.name →
    (other.fields.map (·.projected)).Perm (table.fields.map (·.projected))
  joined : ∀ relation ∈ graph.relations,
    ¬ (relation.cardinality = .manyToMany ∨ relation.cardinality = .unknown) →
    ∀ left right, catalog.LastWith left relation.leftFieldId →
      catalog.LastWith right relation.rightFieldId →
        catalog.NamedAlone left ∧ catalog.NamedAlone right

variable {catalog}

/-- The model of a table has the fields of the last table of the name. -/
theorem compiledAs_iff (h : catalog.FieldIdsDistinct) {table last : SourceTable}
    (hlast : catalog.lastNamed table.name = some last) :
    table.CompiledAs
        { name := table.name
          sqlTable := table.database ++ "." ++ table.name
          fields := ((getItem catalog.fieldsByTable table.name).getD []).map Prod.snd
          description := tableDescription table } ↔
      (last.fields.map (·.projected)).Perm (table.fields.map (·.projected)) := by
  have hfields : ((getItem catalog.fieldsByTable table.name).getD []).map Prod.snd =
      last.fields.map (·.projected) := by
    rw [getItem_fieldsByTable, hlast, Option.map_some, Option.getD_some,
      h.projectedFields (of_lastNamed hlast).1, List.map_map]
    rfl
  rw [hfields]
  exact ⟨fun hcompiled => hcompiled.fields, fun hperm => ⟨rfl, rfl, hperm⟩⟩

/-- **The models of the tables** have the right fields if tables of one name have the same. -/
theorem forall₂_cubeTables_iff (h : catalog.FieldIdsDistinct) :
    List.Forall₂ SourceTable.CompiledAs catalog.tables catalog.cubeTables ↔
      ∀ table ∈ catalog.tables, ∀ other ∈ catalog.tables, other.name = table.name →
        (other.fields.map (·.projected)).Perm (table.fields.map (·.projected)) := by
  unfold cubeTables
  rw [List.forall₂_map_right_iff, List.forall₂_same]
  constructor
  · intro hcompiled table htable other hother hname
    obtain ⟨last, hlast⟩ := exists_lastNamed htable
    have hotherLast : catalog.lastNamed other.name = some last := hname ▸ hlast
    have hfirst := (compiledAs_iff h hlast).1 (hcompiled table htable)
    have hsecond := (compiledAs_iff h hotherLast).1 (hcompiled other hother)
    exact hsecond.symm.trans hfirst
  · intro hsame table htable
    obtain ⟨last, hlast⟩ := exists_lastNamed htable
    obtain ⟨hmem, hname⟩ := of_lastNamed hlast
    exact (compiledAs_iff h hlast).2 (hsame table htable last hmem hname)

/-- A field whose table is the last one of its name is designated if the table has its name
alone. -/
theorem designates_iff (h : catalog.FieldIdsDistinct) {names : String × String} {fieldId : UUID}
    (hfound : getItem catalog.fieldLookup fieldId = some names) :
    catalog.Designates names.1 names.2 fieldId ↔
      ∀ table, catalog.LastWith table fieldId → catalog.NamedAlone table := by
  obtain ⟨last, hlast, field, hfield, hid, hname⟩ := (getItem_fieldLookup h).1 hfound
  obtain ⟨hmem, htable⟩ := of_lastNamed hlast
  constructor
  · intro hdesignates other hwith
    obtain ⟨table, htable, -, halone, tableField, htableField, htableId, -⟩ := hdesignates
    obtain ⟨hother, otherField, hotherField, hotherId⟩ := hwith
    obtain ⟨rfl, -⟩ := h.eq_of_fieldId htable (of_lastNamed hother).1 htableField hotherField
      (htableId.trans hotherId.symm)
    exact halone
  · intro halone
    have hwith : catalog.LastWith last fieldId := ⟨by rw [htable]; exact hlast, field, hfield, hid⟩
    exact ⟨last, hmem, htable, halone last hwith, field, hfield, hid, hname⟩

theorem exists_fieldLookup (h : catalog.FieldIdsDistinct) {table : SourceTable} {fieldId : UUID}
    (hwith : catalog.LastWith table fieldId) :
    ∃ names, getItem catalog.fieldLookup fieldId = some names := by
  obtain ⟨hlast, field, hfield, hid⟩ := hwith
  exact ⟨(table.name, field.name),
    (getItem_fieldLookup h).2 ⟨table, hlast, field, hfield, hid, rfl⟩⟩

/-- **The join of a Relation** connects the tables of its fields if they have their names
alone. -/
theorem connects_iff (h : catalog.FieldIdsDistinct) (relation : Relation) :
    (∀ join, catalog.cubeJoin relation = some join → catalog.Connects relation join) ↔
      (¬ (relation.cardinality = .manyToMany ∨ relation.cardinality = .unknown) →
        ∀ left right, catalog.LastWith left relation.leftFieldId →
          catalog.LastWith right relation.rightFieldId →
            catalog.NamedAlone left ∧ catalog.NamedAlone right) := by
  constructor
  · intro hconnects hpermitted left right hleft hright
    obtain ⟨leftNames, hleftNames⟩ := exists_fieldLookup h hleft
    obtain ⟨rightNames, hrightNames⟩ := exists_fieldLookup h hright
    have hjoin := hconnects _ (by
      unfold cubeJoin
      rw [hleftNames, hrightNames]
      exact if_neg hpermitted)
    exact ⟨(designates_iff h hleftNames).1 hjoin.left left hleft,
      (designates_iff h hrightNames).1 hjoin.right right hright⟩
  · intro halone join hjoin
    unfold cubeJoin at hjoin
    split at hjoin
    next leftNames rightNames hleftNames hrightNames =>
        split at hjoin
        next => cases hjoin
        next hpermitted =>
            cases hjoin
            obtain ⟨left, hleft, leftField, hleftField, hleftId, -⟩ :=
              (getItem_fieldLookup h).1 hleftNames
            obtain ⟨right, hright, rightField, hrightField, hrightId, -⟩ :=
              (getItem_fieldLookup h).1 hrightNames
            have hleftWith : catalog.LastWith left relation.leftFieldId :=
              ⟨(of_lastNamed hleft).2 ▸ hleft, leftField, hleftField, hleftId⟩
            have hrightWith : catalog.LastWith right relation.rightFieldId :=
              ⟨(of_lastNamed hright).2 ▸ hright, rightField, hrightField, hrightId⟩
            constructor
            · refine (designates_iff h hleftNames).2 ?_
              intro table htable
              exact (halone hpermitted table right htable hrightWith).1
            · refine (designates_iff h hrightNames).2 ?_
              intro table htable
              exact (halone hpermitted left table hleftWith htable).2
    next => cases hjoin

end CatalogVersion

section Readings

variable {digest : String → String} {ports : CredentialPorts} {state : ConnectorState}
  {organizationId dataSourceId : UUID} {catalog : CatalogVersion} {graph : JoinGraph}
  {model : ConnectorCubeModel}

/-- **A model is that of its catalog** exactly if the tables of one name have the same fields
and no table that is joined shares its name. -/
theorem compiled_as_iff
    (hmodel : connectorCubeModel digest ports (some state) organizationId dataSourceId =
      .ok model)
    (hcatalog : state.agentVisibleCatalog organizationId dataSourceId = .ok catalog)
    (hgraph : state.joinGraph organizationId catalog.catalogVersionId = .ok graph)
    (hdistinct : catalog.FieldIdsDistinct) :
    catalog.CompiledAs graph model ↔ catalog.NamesApart graph := by
  obtain ⟨compiled, joined, credentials, hcompiled, hjoined, -, rfl⟩ :=
    connectorCubeModel_eq_ok.1 hmodel
  rw [hcatalog] at hcompiled
  cases hcompiled
  rw [hgraph] at hjoined
  cases hjoined
  constructor
  · intro h
    exact ⟨(CatalogVersion.forall₂_cubeTables_iff hdistinct).1 h.tables,
      fun relation hrelation =>
        (CatalogVersion.connects_iff hdistinct relation).1 (h.joins relation hrelation)⟩
  · intro h
    exact ⟨(CatalogVersion.forall₂_cubeTables_iff hdistinct).2 h.fields,
      fun relation hrelation =>
        (CatalogVersion.connects_iff hdistinct relation).2 (h.joined relation hrelation)⟩

end Readings

theorem compiled_as_iff_sales :
    ∃ (model : ConnectorCubeModel) (catalog : CatalogVersion) (graph : JoinGraph),
      connectorCubeModel salesDigest salesPorts (some salesBefore) 100 10 = .ok model ∧
      (catalog.CompiledAs graph model ↔ catalog.NamesApart graph) := by
  obtain ⟨model, hmodel⟩ : ∃ model,
      connectorCubeModel salesDigest salesPorts (some salesBefore) 100 10 = .ok model :=
    ⟨_, rfl⟩
  exact ⟨model, _, _, hmodel, compiled_as_iff hmodel rfl rfl (by decide)⟩

/-- The customers of another database of the source. -/
def archivedCustomers : SourceTable where
  tableId := 3
  name := "customers"
  database := "archive"
  fields :=
    [{ fieldId := 31, tableId := 3, name := "email", declaredType := "String"
       family := .string, normalisedType := "string", nullable := true, position := 0 }]

/-- Two databases with a table of one name. -/
def salesArchived : ConnectorState :=
  salesState [ordersTable [], customersTable 300, archivedCustomers] []

/-- **Two databases with customers**: the customers of the shop are given the fields of the
archived ones, and their join is gone. -/
theorem fields_of_archived :
    ∃ (model : ConnectorCubeModel) (catalog : CatalogVersion) (graph : JoinGraph),
      connectorCubeModel salesDigest salesPorts (some salesArchived) 100 10 = .ok model ∧
      salesArchived.agentVisibleCatalog 100 10 = .ok catalog ∧
      salesArchived.joinGraph 100 catalog.catalogVersionId = .ok graph ∧
      catalog.FieldIdsDistinct ∧
      model.tables.map (fun table => (table.sqlTable, table.fields.map (·.name))) =
        [("shop.orders", ["order_id", "customer_id"]), ("shop.customers", ["email"]),
          ("archive.customers", ["email"])] ∧
      graph.relations = [customerRelation] ∧ model.joins = [] ∧
      ¬ catalog.CompiledAs graph model := by
  refine ⟨_, _, _, rfl, rfl, rfl, by decide, by decide, by decide, by decide, ?_⟩
  intro h
  have hfields := (CatalogVersion.forall₂_cubeTables_iff (by decide)).1 h.tables
    (customersTable 300) (by decide) archivedCustomers (by decide) rfl
  exact absurd (hfields.map (·.name)) (by decide)

end Connector

end Zentra
