import Zentra.CubeModel

/-!
# What is hidden makes no difference to the compiled model

Two states of the service are compared that were harvested and decided about in the same
way, but for what the versions of the catalogs hold and for the order in which the
overrides are listed.

* `ConnectorState.SameButHidden` — only hidden tables and fields differ;
* `agentModel_noninterference` — what is compiled for agents is visible, and does not
  depend on what is not.
-/

open TableRows

namespace Zentra

namespace Connector

namespace ConnectorState

/-- The states are the same up to the versions of the catalogs, which are related one by
one, and up to the order of the overrides. -/
structure SameUpTo (related : CatalogVersion → CatalogVersion → Prop)
    (state other : ConnectorState) : Prop where
  sources : other.sources = state.sources
  access : other.access.Perm state.access
  relations : other.store.relations = state.store.relations
  versions : List.Forall₂ related state.store.versions other.store.versions

/-- The states are the same up to hidden tables and fields, and up to the order of the
overrides. -/
def SameButHidden (state other : ConnectorState) : Prop :=
  SameUpTo (fun version harvested =>
    version.SameButHidden (state.accessOf version.organizationId version.dataSourceId)
      harvested) state other

theorem tablesOnly_sameButHidden (state : ConnectorState) :
    CatalogStore.TablesOnly fun version harvested =>
      version.SameButHidden (state.accessOf version.organizationId version.dataSourceId)
        harvested :=
  fun _ _ hversion => hversion.1

namespace SameUpTo

variable {related : CatalogVersion → CatalogVersion → Prop} {state other : ConnectorState}

theorem loadSource (h : SameUpTo related state other) (organizationId dataSourceId : UUID) :
    other.loadSource organizationId dataSourceId =
      state.loadSource organizationId dataSourceId := by
  unfold ConnectorState.loadSource
  rw [h.sources]

theorem resolveDriverCredentials (h : SameUpTo related state other)
    (organizationId dataSourceId : UUID) (ports : CredentialPorts) :
    other.resolveDriverCredentials organizationId dataSourceId ports =
      state.resolveDriverCredentials organizationId dataSourceId ports := by
  unfold ConnectorState.resolveDriverCredentials
  rw [h.loadSource]

theorem accessOf (h : SameUpTo related state other) (organizationId dataSourceId : UUID) :
    (other.accessOf organizationId dataSourceId).Perm
      (state.accessOf organizationId dataSourceId) :=
  h.access.filter _

theorem joinGraph (h : SameUpTo related state other)
    (hsame : CatalogStore.TablesOnly related)
    (organizationId catalogVersionId : UUID) :
    other.joinGraph organizationId catalogVersionId =
      state.joinGraph organizationId catalogVersionId := by
  have hgraph : other.store.joinGraph catalogVersionId organizationId =
      state.store.joinGraph catalogVersionId organizationId := by
    unfold CatalogStore.joinGraph CatalogStore.listForVersion
    rw [h.relations]
  unfold ConnectorState.joinGraph
  rw [hgraph]
  have hversion :=
    CatalogStore.rel_getVersion hsame h.versions catalogVersionId organizationId
  generalize state.store.getVersion catalogVersionId organizationId = found at hversion ⊢
  generalize other.store.getVersion catalogVersionId organizationId = harvested
    at hversion ⊢
  cases hversion with
  | none => rfl
  | some _ => rfl

/-- **The latest versions** of the two states are related, if there are any. -/
theorem latestCatalog (h : SameUpTo related state other)
    (hsame : CatalogStore.TablesOnly related)
    (organizationId dataSourceId : UUID) :
    (∃ e, state.latestCatalog organizationId dataSourceId = .error e ∧
        other.latestCatalog organizationId dataSourceId = .error e) ∨
      ∃ version harvested,
        state.latestCatalog organizationId dataSourceId = .ok version ∧
        other.latestCatalog organizationId dataSourceId = .ok harvested ∧
        related version harvested ∧ version.dataSourceId = dataSourceId ∧
        version.organizationId = organizationId := by
  unfold ConnectorState.latestCatalog
  rw [h.loadSource]
  cases state.loadSource organizationId dataSourceId with
  | error e => exact .inl ⟨e, rfl, rfl⟩
  | ok source =>
      have hlatest :=
        CatalogStore.rel_latestVersion hsame h.versions dataSourceId organizationId
      generalize hfound : state.store.latestVersion dataSourceId organizationId = found
        at hlatest ⊢
      generalize other.store.latestVersion dataSourceId organizationId = harvested
        at hlatest ⊢
      cases hlatest with
      | none => exact .inl ⟨_, rfl, rfl⟩
      | some hrelated =>
          obtain ⟨-, hmem⟩ := CatalogStore.latestVersion_mem hfound
          exact .inr ⟨_, _, rfl, rfl, hrelated, hmem⟩

end SameUpTo

variable {state other : ConnectorState}

/-- **The catalog that agents see** does not depend on what is hidden. -/
theorem SameButHidden.agentVisibleCatalog (h : state.SameButHidden other)
    {organizationId dataSourceId : UUID}
    (htimes : ((state.accessOf organizationId dataSourceId).map (·.decidedAt)).Nodup) :
    other.agentVisibleCatalog organizationId dataSourceId =
      state.agentVisibleCatalog organizationId dataSourceId := by
  have hbuild : AccessOverrides.build dataSourceId
      (other.accessOf organizationId dataSourceId) =
        AccessOverrides.build dataSourceId (state.accessOf organizationId dataSourceId) :=
    AccessOverrides.build_perm dataSourceId (h.accessOf organizationId dataSourceId) htimes
  unfold ConnectorState.agentVisibleCatalog
  rw [hbuild]
  rcases h.latestCatalog state.tablesOnly_sameButHidden organizationId dataSourceId with
    ⟨e, hstate, hother⟩ | ⟨version, harvested, hstate, hother, hhidden, hsource, horg⟩
  · rw [hstate, hother]
  · rw [horg, hsource] at hhidden
    rw [hstate, hother]
    show Except.ok _ = Except.ok _
    rw [AccessOverrides.apply_sameBut hhidden]

end ConnectorState

/-- **Agents see nothing that is hidden, and nothing of it.**  Neither the catalog that
agents see nor the model that is compiled of it holds a table, a field or an end of a join
whose latest override hides it; both are the same in every state that differs in hidden
tables and fields, and in the order of the overrides. -/
theorem agentModel_noninterference (digest : String → String) (ports : CredentialPorts)
    (state : ConnectorState) (organizationId dataSourceId : UUID) :
    (∀ catalog, state.agentVisibleCatalog organizationId dataSourceId = .ok catalog →
      catalog.Respects (state.accessOf organizationId dataSourceId)) ∧
    (∀ model,
      connectorCubeModel digest ports (some state) organizationId dataSourceId = .ok model →
      model.Respects (state.accessOf organizationId dataSourceId)) ∧
    ∀ other, state.SameButHidden other →
      ((state.accessOf organizationId dataSourceId).map (·.decidedAt)).Nodup →
      other.agentVisibleCatalog organizationId dataSourceId =
          state.agentVisibleCatalog organizationId dataSourceId ∧
        connectorCubeModel digest ports (some other) organizationId dataSourceId =
          connectorCubeModel digest ports (some state) organizationId dataSourceId := by
  refine ⟨fun catalog hcatalog => agentVisibleCatalog_respects hcatalog, ?_, ?_⟩
  · intro model hmodel
    obtain ⟨catalog, graph, credentials, hcatalog, -, -, rfl⟩ :=
      connectorCubeModel_eq_ok.1 hmodel
    exact compileModel_respects (agentVisibleCatalog_respects hcatalog) digest graph credentials
  · intro other hother htimes
    have hcatalog := hother.agentVisibleCatalog htimes
    refine ⟨hcatalog, ?_⟩
    unfold connectorCubeModel configured
    simp only [bind, Except.bind, hcatalog, hother.resolveDriverCredentials,
      hother.joinGraph state.tablesOnly_sameButHidden]

/-- The orders of a shop, with any further fields. -/
def ordersTable (further : List SourceField) : SourceTable where
  tableId := 1
  name := "orders"
  database := "shop"
  estimatedRows := some 1200
  fields :=
    [{ fieldId := 11, tableId := 1, name := "order_id", declaredType := "Int64"
       family := .integer, normalisedType := "int", nullable := false, position := 0 },
     { fieldId := 12, tableId := 1, name := "customer_id", declaredType := "Int64"
       family := .integer, normalisedType := "int", nullable := true, position := 1 }] ++
    further

def commentField : SourceField where
  fieldId := 13
  tableId := 1
  name := "comment"
  declaredType := "String"
  family := .string
  normalisedType := "string"
  nullable := true
  position := 2

/-- The customers, with an estimate of their number. -/
def customersTable (rows : Int) : SourceTable where
  tableId := 2
  name := "customers"
  database := "shop"
  estimatedRows := some rows
  fields :=
    [{ fieldId := 21, tableId := 2, name := "customer_id", declaredType := "Int64"
       family := .integer, normalisedType := "int", nullable := false, position := 0 }]

/-- The customer of an order, confirmed. -/
def customerRelation : Relation where
  relationId := 7
  organizationId := 100
  catalogVersionId := 1
  leftFieldId := 12
  rightFieldId := 21
  leftIdentity := ⟨"orders", "customer_id", "int"⟩
  rightIdentity := ⟨"customers", "customer_id", "int"⟩
  leftDataSourceId := 10
  rightDataSourceId := 10
  state := .confirmed
  origin := .inferred
  confidence := 1
  bindingCeiling := .none
  cardinality := .manyToOne

def salesVersion (catalogVersionId : UUID) (tables : List SourceTable) : CatalogVersion where
  catalogVersionId := catalogVersionId
  dataSourceId := 10
  organizationId := 100
  harvestRunId := 50
  createdAt := catalogVersionId
  tables := tables

def salesState (tables : List SourceTable) (access : List CatalogAccessOverride) :
    ConnectorState where
  sources :=
    [{ dataSourceId := 10, organizationId := 100, kind := .connected
       sealedCredentials := some "sealed" }]
  store :=
    { versions := [salesVersion 1 tables]
      relations := [customerRelation]
      versionKeys := List.nodup_singleton _
      relationKeys := List.nodup_singleton _
      pinned := by simp [customerRelation, salesVersion] }
  access := access

def salesPorts : CredentialPorts where
  openSealed _ :=
    .ok { host := "clickhouse", port := 8443, database := "shop", username := "reader"
          password := "secret" }
  credentialsFor landed :=
    { host := "clickhouse", port := 8443, database := landed.database, username := "landing"
      password := "secret" }

/-- A decision that a table, or a field of it, is not for agents. -/
def hiddenFromAgents (tableName : String) (fieldName : Option String) (decidedAt : Int) :
    CatalogAccessOverride where
  overrideId := 0
  organizationId := 100
  dataSourceId := 10
  tableName := tableName
  fieldName := fieldName
  agentVisible := false
  decidedBy := 0
  decidedAt := decidedAt

/-- An injective digest with the values of SHA-256 at the texts of the shop. -/
def salesDigest : String ≃ String :=
  ((Equiv.swap "" "e3b0c44298fc1c149afbf4c8996fb92427ae41e4649b934ca495991b7852b855").trans
    (Equiv.swap "7:confirmed"
      "9a897af725d4731584ee3e69e5cd726bf5aec52ef7fc142622af3271883ec687")).trans
    (Equiv.swap "7:confirmed|customers.*:False"
      "8e5d51454b1647ee712ed86728663faac4e13b3e04b73b1de5ad6be7629c36c2")

/-- The shop with 300 customers and comments on its orders. -/
def salesBefore : ConnectorState :=
  salesState [ordersTable [commentField], customersTable 300]
    [hiddenFromAgents "customers" none 2, hiddenFromAgents "orders" (some "comment") 1]

/-- Twice as many customers, no comments, and the decisions in another order. -/
def salesAfter : ConnectorState :=
  salesState [ordersTable [], customersTable 600]
    [hiddenFromAgents "orders" (some "comment") 1, hiddenFromAgents "customers" none 2]

theorem salesBefore_sameButHidden : salesBefore.SameButHidden salesAfter := by
  refine ⟨rfl, List.Perm.swap _ _ [], rfl, .cons ⟨rfl, ?_⟩ .nil⟩
  refine .both ⟨rfl, .both rfl (.both rfl (.left ?_ .nil))⟩ (.left ?_ (.right ?_ .nil))
  · decide
  · decide
  · decide

theorem agentModel_noninterference_sales :
    (∃ model, connectorCubeModel salesDigest salesPorts (some salesBefore) 100 10 =
        .ok model ∧ model.tables.map (·.name) = ["orders"] ∧ model.joins = []) ∧
      connectorCubeModel salesDigest salesPorts (some salesAfter) 100 10 =
        connectorCubeModel salesDigest salesPorts (some salesBefore) 100 10 := by
  constructor
  · exact ⟨_, rfl, by decide, by decide⟩
  · obtain ⟨-, -, htwo⟩ :=
      agentModel_noninterference salesDigest salesPorts salesBefore 100 10
    exact (htwo salesAfter salesBefore_sameButHidden (by decide)).2

end Connector

end Zentra
