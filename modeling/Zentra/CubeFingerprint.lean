import Zentra.CubeNoninterference

/-!
# What the fingerprints of a compiled model stand for

A compiled model is cached under a fingerprint: a digest of the confirmed Relations and,
where the fingerprint is read on its own, of the access overrides.  The catalog that the
model is compiled of is not in either.

* `fingerprints_agree_iff` — the fingerprint of a model is the one that is read on its own
  exactly if there are no overrides;
* `fingerprint_not_sound` — no model is told from all others by its fingerprints.
-/

open PythonText Raising TableRows

namespace Zentra

namespace Connector

theorem CatalogAccessOverride.fingerprintPart_ne (override : CatalogAccessOverride) :
    override.fingerprintPart ≠ "" := by
  intro hempty
  have hlength := congrArg String.length hempty
  unfold fingerprintPart at hlength
  simp only [String.length_append] at hlength
  have hdot : ".".length = 1 := rfl
  have hnone : "".length = 0 := rfl
  omega

theorem fingerprintText_eq_iff (relations : List Relation)
    (overrides : List CatalogAccessOverride) :
    fingerprintText relations overrides = fingerprintText relations [] ↔ overrides = [] := by
  constructor
  · intro heq
    have hperm : (orderedBy id (overrides.map (·.fingerprintPart))).Perm
        (overrides.map (·.fingerprintPart)) := orderedBy_perm
    cases hparts : orderedBy id (overrides.map (·.fingerprintPart)) with
    | nil =>
        rw [hparts] at hperm
        exact List.map_eq_nil_iff.1 hperm.nil_eq.symm
    | cons next rest =>
        rw [hparts] at hperm
        have hmem : next ∈ overrides.map (·.fingerprintPart) :=
          hperm.subset List.mem_cons_self
        obtain ⟨override, -, rfl⟩ := List.mem_map.1 hmem
        have hlonger := length_join_append "|" override.fingerprintPart_ne
          (orderedBy id (relations.map (·.fingerprintPart))) rest
        unfold fingerprintText at heq
        rw [hparts, List.map_nil] at heq
        rw [heq, show orderedBy id ([] : List String) = [] from rfl, List.append_nil]
          at hlonger
        exact absurd hlonger (lt_irrefl _)
  · intro hnone
    rw [hnone]

theorem fingerprintText_perm {relations : List Relation}
    {overrides listed : List CatalogAccessOverride} (hperm : listed.Perm overrides) :
    fingerprintText relations listed = fingerprintText relations overrides := by
  unfold fingerprintText
  rw [orderedBy_id_congr (hperm.map (·.fingerprintPart))]

/-- **The catalog is not in the fingerprint.**  States that differ in the tables of their
versions have the same one. -/
theorem ConnectorState.SameUpTo.relationFingerprint
    {related : CatalogVersion → CatalogVersion → Prop} {state other : ConnectorState}
    (h : SameUpTo related state other)
    (hsame : CatalogStore.TablesOnly related)
    (digest : String → String) (organizationId dataSourceId : UUID) :
    Connector.relationFingerprint digest (some other) organizationId dataSourceId =
      Connector.relationFingerprint digest (some state) organizationId dataSourceId := by
  have htext : ∀ relations : List Relation,
      fingerprintOf digest relations (other.accessOf organizationId dataSourceId) =
        fingerprintOf digest relations (state.accessOf organizationId dataSourceId) := by
    intro relations
    unfold fingerprintOf
    rw [fingerprintText_perm (h.accessOf organizationId dataSourceId)]
  unfold Connector.relationFingerprint configured ConnectorState.listAgentAccess
  rcases h.latestCatalog hsame organizationId dataSourceId with
    ⟨e, hstate, hother⟩ | ⟨version, harvested, hstate, hother, hrelated, -⟩
  · simp only [bind, Except.bind, hstate, hother]
  · have hid : harvested.catalogVersionId = version.catalogVersionId := by
      rw [hsame version harvested hrelated]
    simp only [bind, Except.bind, hstate, hother, hid, h.joinGraph hsame, h.loadSource]
    cases state.joinGraph organizationId version.catalogVersionId with
    | error e => rfl
    | ok graph =>
        cases state.loadSource organizationId dataSourceId with
        | error e => rfl
        | ok source => exact congrArg Except.ok (htext graph.relations)

section Fingerprints

variable {digest : String → String} {ports : CredentialPorts} {state : ConnectorState}
  {organizationId dataSourceId : UUID} {model : ConnectorCubeModel}

/-- **What is read for the fingerprint** of a state that compiles is what is read for its
model, and the overrides. -/
theorem relationFingerprint_of_model
    (h : connectorCubeModel digest ports (some state) organizationId dataSourceId =
      .ok model) :
    ∃ graph : JoinGraph,
      model.relationFingerprint = fingerprintOf digest graph.relations [] ∧
      relationFingerprint digest (some state) organizationId dataSourceId =
        .ok (fingerprintOf digest graph.relations
          (state.accessOf organizationId dataSourceId)) := by
  obtain ⟨catalog, graph, credentials, hcatalog, hgraph, -, rfl⟩ :=
    connectorCubeModel_eq_ok.1 h
  refine ⟨graph, rfl, ?_⟩
  obtain ⟨version, hversion, rfl⟩ := agentVisibleCatalog_eq_ok.1 hcatalog
  have hgraph' : state.joinGraph organizationId version.catalogVersionId = .ok graph := hgraph
  obtain ⟨source, hsource, -⟩ := bind_eq_ok.1 hversion
  unfold relationFingerprint configured ConnectorState.listAgentAccess
  simp only [bind, Except.bind, hversion, hgraph', hsource]
  rfl

/-- **The two fingerprints agree** exactly if no override is recorded: the model carries a
fingerprint of its Relations alone. -/
theorem fingerprints_agree_iff (hdigest : Function.Injective digest)
    (h : connectorCubeModel digest ports (some state) organizationId dataSourceId =
      .ok model) :
    relationFingerprint digest (some state) organizationId dataSourceId =
        .ok model.relationFingerprint ↔
      state.accessOf organizationId dataSourceId = [] := by
  obtain ⟨graph, hmodel, hread⟩ := relationFingerprint_of_model h
  rw [hmodel, hread, Except.ok.injEq]
  unfold fingerprintOf
  rw [hdigest.eq_iff]
  exact fingerprintText_eq_iff graph.relations _

end Fingerprints

/-- The shop with its customers hidden. -/
def salesHidden : ConnectorState :=
  salesState [ordersTable [], customersTable 300] [hiddenFromAgents "customers" none 1]

theorem fingerprints_agree_iff_sales :
    ∃ model, connectorCubeModel salesDigest salesPorts (some salesHidden) 100 10 = .ok model ∧
      (relationFingerprint salesDigest (some salesHidden) 100 10 =
          .ok model.relationFingerprint ↔
        salesHidden.accessOf 100 10 = []) := by
  obtain ⟨model, hmodel⟩ : ∃ model,
      connectorCubeModel salesDigest salesPorts (some salesHidden) 100 10 = .ok model :=
    ⟨_, rfl⟩
  exact ⟨model, hmodel, fingerprints_agree_iff salesDigest.injective hmodel⟩

/-- **One hidden table**: the model carries another fingerprint than the one that is read. -/
theorem fingerprints_differ_sales :
    ∃ model, connectorCubeModel salesDigest salesPorts (some salesHidden) 100 10 = .ok model ∧
      model.relationFingerprint =
        "9a897af725d4731584ee3e69e5cd726bf5aec52ef7fc142622af3271883ec687" ∧
      relationFingerprint salesDigest (some salesHidden) 100 10 =
        .ok "8e5d51454b1647ee712ed86728663faac4e13b3e04b73b1de5ad6be7629c36c2" ∧
      relationFingerprint salesDigest (some salesHidden) 100 10 ≠
        .ok model.relationFingerprint := by
  exact ⟨_, rfl, by decide, by decide, by decide⟩

/-- The version, had the harvest read one more table. -/
def CatalogVersion.adding (table : SourceTable) (version : CatalogVersion) :
    CatalogVersion :=
  { version with tables := version.tables ++ [table] }

/-- The store, had every harvest read one more table. -/
def CatalogStore.adding (table : SourceTable) (store : CatalogStore) : CatalogStore where
  versions := store.versions.map (·.adding table)
  relations := store.relations
  versionKeys := by
    rw [List.map_map]
    exact store.versionKeys
  relationKeys := store.relationKeys
  pinned := by
    rw [List.map_map]
    exact store.pinned

def ConnectorState.adding (table : SourceTable) (state : ConnectorState) : ConnectorState :=
  { state with store := state.store.adding table }

theorem tablesOnly_adding (table : SourceTable) :
    CatalogStore.TablesOnly fun version other => other = version.adding table := by
  intro version other hother
  rw [hother]
  rfl

theorem ConnectorState.sameUpTo_adding (table : SourceTable) (state : ConnectorState) :
    ConnectorState.SameUpTo (fun version other => other = version.adding table) state
      (state.adding table) where
  sources := rfl
  access := .refl _
  relations := rfl
  versions := List.forall₂_map_right_iff.2 (List.forall₂_same.2 fun _ _ => rfl)

theorem AccessOverrides.isTableVisible_of_unmentioned {dataSourceId : UUID}
    {overrides : List CatalogAccessOverride} {tableName : String}
    (h : tableName ∉ overrides.map (·.tableName)) :
    (AccessOverrides.build dataSourceId overrides).IsTableVisible tableName := by
  intro override hlast
  rw [byTable_build] at hlast
  have hmem := List.mem_of_mem_getLast? hlast
  obtain ⟨hoverride, habout⟩ := mem_select.1 hmem
  exact absurd (List.mem_map.2 ⟨override, mem_orderedBy.1 hoverride, habout.1⟩) h

theorem AccessOverrides.length_apply_adding {gate : AccessOverrides} {table : SourceTable}
    {version : CatalogVersion} (hvisible : gate.IsTableVisible table.name) :
    (gate.apply (version.adding table)).tables.length =
      (gate.apply version).tables.length + 1 := by
  unfold AccessOverrides.apply AccessOverrides.visibleTables CatalogVersion.adding select
  simp [hvisible]

theorem exists_notMem_names (names : List String) : ∃ name, name ∉ names := by
  obtain ⟨name, hname⟩ := Infinite.exists_notMem_finset names.toFinset
  exact ⟨name, fun h => hname (List.mem_toFinset.2 h)⟩

section OneMore

variable {digest : String → String} {ports : CredentialPorts} {state : ConnectorState}
  {organizationId dataSourceId : UUID} {model : ConnectorCubeModel}

/-- **One more table that no override is about** is compiled under the same fingerprints. -/
theorem connectorCubeModel_adding {table : SourceTable}
    (hvisible : table.name ∉
      (state.accessOf organizationId dataSourceId).map (·.tableName))
    (h : connectorCubeModel digest ports (some state) organizationId dataSourceId =
      .ok model) :
    ∃ other,
      connectorCubeModel digest ports (some (state.adding table)) organizationId dataSourceId =
        .ok other ∧
      other.tables.length = model.tables.length + 1 ∧
      other.relationFingerprint = model.relationFingerprint := by
  obtain ⟨catalog, graph, credentials, hcatalog, hgraph, hcredentials, rfl⟩ :=
    connectorCubeModel_eq_ok.1 h
  obtain ⟨version, hversion, rfl⟩ := agentVisibleCatalog_eq_ok.1 hcatalog
  have hsame := state.sameUpTo_adding table
  have hlatest : (state.adding table).latestCatalog organizationId dataSourceId =
      .ok (version.adding table) := by
    rcases hsame.latestCatalog (tablesOnly_adding table) organizationId dataSourceId with
      ⟨e, herror, -⟩ | ⟨_, _, hfound, hadding, rfl, -⟩
    · rw [hversion] at herror
      cases herror
    · rw [hversion] at hfound
      cases hfound
      exact hadding
  have hgraph' := (hsame.joinGraph (tablesOnly_adding table) organizationId
    version.catalogVersionId).trans hgraph
  have hcredentials' :=
    (hsame.resolveDriverCredentials organizationId dataSourceId ports).trans hcredentials
  refine ⟨_, connectorCubeModel_eq_ok.2 ⟨_, graph, credentials,
    agentVisibleCatalog_eq_ok.2 ⟨_, hlatest, rfl⟩, hgraph', hcredentials', rfl⟩, ?_, rfl⟩
  show (List.map _ _).length = (List.map _ _).length + 1
  rw [List.length_map, List.length_map]
  exact AccessOverrides.length_apply_adding
    (AccessOverrides.isTableVisible_of_unmentioned hvisible)

end OneMore

/-- The fingerprints of the model of a state, the one that it carries and the one that is
read on its own, stand for the model: every state that compiles under both has the same
tables, fields and joins. -/
def FingerprintSound (digest : String → String) (ports : CredentialPorts)
    (state : ConnectorState) (organizationId dataSourceId : UUID) : Prop :=
  ∀ other model otherModel,
    connectorCubeModel digest ports (some state) organizationId dataSourceId = .ok model →
    connectorCubeModel digest ports (some other) organizationId dataSourceId =
      .ok otherModel →
    otherModel.relationFingerprint = model.relationFingerprint →
    relationFingerprint digest (some other) organizationId dataSourceId =
      relationFingerprint digest (some state) organizationId dataSourceId →
    otherModel.tables = model.tables ∧ otherModel.joins = model.joins

/-- **No fingerprint stands for its model.**  Whatever the digest, a state that compiles has
the fingerprints of another one with one more table. -/
theorem fingerprint_not_sound {digest : String → String} {ports : CredentialPorts}
    {state : ConnectorState} {organizationId dataSourceId : UUID} {model : ConnectorCubeModel}
    (h : connectorCubeModel digest ports (some state) organizationId dataSourceId =
      .ok model) :
    ¬ FingerprintSound digest ports state organizationId dataSourceId := by
  intro hsound
  obtain ⟨name, hname⟩ := exists_notMem_names
    ((state.accessOf organizationId dataSourceId).map (·.tableName))
  let table : SourceTable := { tableId := 0, name := name, database := "" }
  have hvisible : table.name ∉
      (state.accessOf organizationId dataSourceId).map (·.tableName) := hname
  obtain ⟨other, hother, hlength, hmodel⟩ := connectorCubeModel_adding hvisible h
  have hread := (state.sameUpTo_adding table).relationFingerprint
    (tablesOnly_adding table) digest organizationId dataSourceId
  obtain ⟨htables, -⟩ := hsound _ _ _ h hother hmodel hread
  rw [htables] at hlength
  omega

/-- The shop before a Relation is proposed, after some harvests. -/
def salesHarvested (versions : List CatalogVersion)
    (hkeys : (versions.map (·.catalogVersionId)).Nodup) : ConnectorState :=
  { salesState [] [] with
    store :=
      { versions := versions
        relations := []
        versionKeys := hkeys
        relationKeys := List.nodup_nil
        pinned := by simp } }

/-- One harvest has read the orders. -/
def salesOnce : ConnectorState :=
  salesHarvested [salesVersion 1 [ordersTable []]] (by decide)

/-- Another one has read the customers as well. -/
def salesTwice : ConnectorState :=
  salesHarvested
    [salesVersion 1 [ordersTable []], salesVersion 2 [ordersTable [], customersTable 300]]
    (by decide)

theorem fingerprint_not_sound_sales :
    ¬ FingerprintSound salesDigest salesPorts salesOnce 100 10 := by
  obtain ⟨model, hmodel⟩ : ∃ model,
      connectorCubeModel salesDigest salesPorts (some salesOnce) 100 10 = .ok model :=
    ⟨_, rfl⟩
  exact fingerprint_not_sound hmodel

/-- **A harvest that finds a table** leaves both fingerprints as they were; the model has
one more table. -/
theorem fingerprints_kept_sales :
    ∃ model otherModel,
      connectorCubeModel salesDigest salesPorts (some salesOnce) 100 10 = .ok model ∧
      connectorCubeModel salesDigest salesPorts (some salesTwice) 100 10 = .ok otherModel ∧
      otherModel.relationFingerprint = model.relationFingerprint ∧
      relationFingerprint salesDigest (some salesTwice) 100 10 =
        relationFingerprint salesDigest (some salesOnce) 100 10 ∧
      model.tables.map (·.name) = ["orders"] ∧
      otherModel.tables.map (·.name) = ["orders", "customers"] ∧
      Function.Injective salesDigest := by
  exact ⟨_, _, rfl, rfl, rfl, rfl, by decide, by decide, salesDigest.injective⟩

end Connector

end Zentra
