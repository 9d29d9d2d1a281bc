import Zentra.HarvestEffect

/-!
# Confirmed Relations on a new version

A harvest that completes is to carry the confirmed Relations of its source onto the new
version.  `reconcile` points a Relation at the version and at its fields; `save` writes
neither.  The rows stay on the version that they were proposed for.

* `joinGraph_harvested` — the Join Graph of the new version is empty;
* `carry_forward_iff` — a harvest carries what it should exactly if there is nothing to
  carry.
-/

open Raising Raising.Method

namespace Zentra

namespace Connector

def JoinGraph.Holds (graph : JoinGraph) (relation : Relation) : Prop :=
  ∃ row ∈ graph.relations, row.relationId = relation.relationId

def CatalogVersion.HasBoth (version : CatalogVersion) (relation : Relation) : Prop :=
  version.Has relation.leftIdentity ∧ version.Has relation.rightIdentity

instance (version : CatalogVersion) : DecidablePred version.HasBoth := fun _ =>
  inferInstanceAs (Decidable (_ ∧ _))

/-- The Join Graph of the new version holds, of the Relations that were confirmed before,
those of the source whose fields both exist in it, and permits their joins. -/
structure CarriesForward (source : DataSource) (before : CatalogStore)
    (version : CatalogVersion) (graph : JoinGraph) : Prop where
  carried : ∀ relation ∈ before.listForSource source.dataSourceId source.organizationId,
    relation.state = .confirmed → version.HasBoth relation → graph.Holds relation
  permitted : ∀ relation ∈ before.listForSource source.dataSourceId source.organizationId,
    relation.state = .confirmed → ∀ left right,
      (relation.leftIdentity, left) ∈ version.fieldIndex →
      (relation.rightIdentity, right) ∈ version.fieldIndex →
      graph.Permits left.fieldId right.fieldId
  others : ∀ relation ∈ before.relations, relation.state = .confirmed →
    graph.Holds relation →
      relation ∈ before.listForSource source.dataSourceId source.organizationId ∧
        version.HasBoth relation

variable {env : HarvestEnvironment} {source : DataSource}
  {peerCatalogs : List (UUID × CatalogVersion)} {before after : CatalogStore}
  {version : CatalogVersion} {now : Int} {harvesting done : Harvesting}

/-- **No row is confirmed on the new version**: the old rows are pinned to old versions,
and the new ones are proposals. -/
theorem joinGraph_harvested
    (h : Harvested env source peerCatalogs before version now after) (organizationId : UUID) :
    (after.joinGraph version.catalogVersionId organizationId).relations = [] := by
  apply List.eq_nil_iff_forall_not_mem.2
  intro row hrow
  obtain ⟨hmem, hpinned, -, hconfirmed⟩ := CatalogStore.mem_joinGraph.1 hrow
  obtain ⟨proposals, hrelations, hproposals⟩ := h.relations
  rw [hrelations] at hmem
  rcases List.mem_append.1 hmem with hold | hnew
  · obtain ⟨old, hmemOld, rfl⟩ := List.mem_map.1 hold
    have hversion : (old.settled source version now).catalogVersionId =
        old.catalogVersionId :=
      (congrArg Relation.catalogVersionId (settled_withValues old)).symm
    have hkey := before.pinned old hmemOld
    rw [← hversion, hpinned] at hkey
    exact h.adds.fresh hkey
  · obtain ⟨candidate, -, -, scored, relationId, createdAt, rfl⟩ := hproposals row hnew
    cases hconfirmed

theorem not_holds_of_empty {graph : JoinGraph} (h : graph.relations = [])
    (relation : Relation) : ¬ graph.Holds relation := by
  rintro ⟨row, hrow, -⟩
  rw [h] at hrow
  cases hrow

theorem joinGraph_of_completed
    (h : (executeHarvest env source peerCatalogs).call harvesting =
      (.ok (some version), done)) :
    (done.store.joinGraph version.catalogVersionId source.organizationId).relations =
      [] := by
  obtain ⟨now, hharvested⟩ := executeHarvest_completes h
  exact joinGraph_harvested hharvested _

/-- **What was confirmed is carried forward** by a harvest exactly if no Relation that is
confirmed on the source has both of its fields in the new version. -/
theorem carry_forward_iff
    (h : (executeHarvest env source peerCatalogs).call harvesting =
      (.ok (some version), done)) :
    CarriesForward source harvesting.store version
        (done.store.joinGraph version.catalogVersionId source.organizationId) ↔
      ∀ relation ∈ harvesting.store.listForSource source.dataSourceId source.organizationId,
        relation.state = .confirmed → ¬ version.HasBoth relation := by
  have hempty := joinGraph_of_completed h
  constructor
  · intro hcarries relation hrelation hconfirmed hboth
    exact not_holds_of_empty hempty relation
      (hcarries.carried relation hrelation hconfirmed hboth)
  · intro hnone
    constructor
    · intro relation hrelation hconfirmed hboth
      exact absurd hboth (hnone relation hrelation hconfirmed)
    · intro relation hrelation hconfirmed left right hleft hright
      have hboth : version.HasBoth relation :=
        ⟨CatalogVersion.mem_fieldIndex.1 (List.mem_map_of_mem hleft),
          CatalogVersion.mem_fieldIndex.1 (List.mem_map_of_mem hright)⟩
      exact absurd hboth (hnone relation hrelation hconfirmed)
    · intro relation _ _ hholds
      exact absurd hholds (not_holds_of_empty hempty relation)

/-- A warehouse with orders and customers. -/
def shopConnector : SourceConnector where
  listTables _ :=
    .ok [{ name := "orders", database := "shop" }, { name := "customers", database := "shop" }]
  describeFields _ table :=
    .ok [{ name := if table = "orders" then "customer" else "id"
           declaredType := "int", nullable := false, position := 0 }]
  profileField _ _ _ := .error "not sampled"
  measureOverlap _ _ _ := .error "not measured"

def shopEnvironment : HarvestEnvironment where
  connector := shopConnector
  rules :=
    { classify := fun _ => .integer
      normaliseType := id
      nameAffinity := fun _ _ _ _ => 1 }
  now moment := moment
  uuid4 moment := 1000 + moment
  cancels _ := false
  faults _ := none

def shop : DataSource where
  dataSourceId := 1
  organizationId := 1

def customerOfOrder : Relation where
  relationId := 30
  organizationId := 1
  catalogVersionId := 10
  leftFieldId := 40
  rightFieldId := 41
  leftIdentity := ⟨"orders", "customer", "int"⟩
  rightIdentity := ⟨"customers", "id", "int"⟩
  leftDataSourceId := 1
  rightDataSourceId := 1
  state := .confirmed
  origin := .inferred
  confidence := 1
  bindingCeiling := .none
  cardinality := .manyToOne

def shopStore : CatalogStore where
  versions := [{ catalogVersionId := 10, dataSourceId := 1, organizationId := 1,
                 harvestRunId := 20, createdAt := 0 }]
  relations := [customerOfOrder]
  versionKeys := by decide
  relationKeys := by decide
  pinned := by decide

def shopHarvesting : Harvesting where
  store := shopStore
  harvestRuns := []
  run := { harvestRunId := 21, dataSourceId := 1, organizationId := 1 }

/-- The harvest completes, and finds both fields as they were. -/
theorem shop_completes :
    ∃ version done, (executeHarvest shopEnvironment shop []).call shopHarvesting =
      (.ok (some version), done) ∧ version.HasBoth customerOfOrder :=
  completes_with (by decide +kernel)

theorem carry_forward_iff_shop :
    ∃ version done, (executeHarvest shopEnvironment shop []).call shopHarvesting =
        (.ok (some version), done) ∧
      (CarriesForward shop shopHarvesting.store version
          (done.store.joinGraph version.catalogVersionId shop.organizationId) ↔
        ∀ relation ∈ shopHarvesting.store.listForSource shop.dataSourceId
          shop.organizationId,
            relation.state = .confirmed → ¬ version.HasBoth relation) := by
  obtain ⟨version, done, hcall, -⟩ := shop_completes
  exact ⟨version, done, hcall, carry_forward_iff hcall⟩

/-- The confirmed Relation of the shop is not in the Join Graph of the new version. -/
theorem confirmation_left_behind :
    ∃ version done, (executeHarvest shopEnvironment shop []).call shopHarvesting =
        (.ok (some version), done) ∧
      version.HasBoth customerOfOrder ∧
      ¬ CarriesForward shop shopHarvesting.store version
        (done.store.joinGraph version.catalogVersionId shop.organizationId) := by
  obtain ⟨version, done, hcall, hboth⟩ := shop_completes
  refine ⟨version, done, hcall, hboth, ?_⟩
  intro hcarries
  have hlisted : customerOfOrder ∈
      shopHarvesting.store.listForSource shop.dataSourceId shop.organizationId := by
    decide
  exact not_holds_of_empty (joinGraph_of_completed hcall) customerOfOrder
    (hcarries.carried customerOfOrder hlisted rfl hboth)

end Connector

end Zentra
