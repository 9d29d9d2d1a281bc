import Zentra.Reconciliation

/-!
# Catalog Versions and Relations in the database

Versions are added and never changed.  A Relation is one row; `save` writes what a
decision may change, and neither the version the row is pinned to nor the fields it
points at.  The keys of both tables, and the reference from a Relation to a version, are
constraints of the schema: a `CatalogStore` that breaks one cannot be built.

* `saveAll_relations` — a row after a series of saves;
* `CatalogStore.joinGraph` — the Join Graph of a version, as the service reads it.
-/

open Raising TableRows

namespace Zentra

namespace Connector

/-- The tables `catalog_versions` and `relations`. -/
@[ext] structure CatalogStore where
  versions : List CatalogVersion
  relations : List Relation
  versionKeys : (versions.map (·.catalogVersionId)).Nodup
  relationKeys : (relations.map (·.relationId)).Nodup
  pinned : ∀ relation ∈ relations,
    relation.catalogVersionId ∈ versions.map (·.catalogVersionId)

/-- The source is one of the two that the Relation joins. -/
def Relation.Touches (relation : Relation) (dataSourceId : UUID) : Prop :=
  relation.leftDataSourceId = dataSourceId ∨ relation.rightDataSourceId = dataSourceId

instance (dataSourceId : UUID) : DecidablePred (Relation.Touches · dataSourceId) :=
  fun _ => inferInstanceAs (Decidable (_ ∨ _))

/-- The row is the one that `save` of the relation writes. -/
def Relation.SavedTo (relation row : Relation) : Prop :=
  row.relationId = relation.relationId ∧ row.organizationId = relation.organizationId

instance (relation : Relation) : DecidablePred relation.SavedTo := fun _ =>
  inferInstanceAs (Decidable (_ ∧ _))

theorem Relation.savedTo_of_sides {relation row : Relation}
    (h : row.withValues relation = relation) : relation.SavedTo row := by
  constructor
  · show (row.withValues relation).relationId = relation.relationId
    rw [h]
  · show (row.withValues relation).organizationId = relation.organizationId
    rw [h]

namespace CatalogStore

variable (store : CatalogStore)

def addVersion (version : CatalogVersion) : Except String CatalogStore :=
  if hnew : version.catalogVersionId ∈ store.versions.map (·.catalogVersionId) then
    .error "duplicate key value violates unique constraint \"catalog_versions_pkey\""
  else
    .ok
      { versions := store.versions ++ [version]
        relations := store.relations
        versionKeys := by
          rw [List.map_append]
          apply List.Nodup.append store.versionKeys (List.nodup_singleton _)
          intro key hkey hadded
          rw [List.mem_singleton.1 hadded] at hkey
          exact hnew hkey
        relationKeys := store.relationKeys
        pinned := by
          intro relation hrelation
          rw [List.map_append]
          exact List.mem_append_left _ (store.pinned relation hrelation) }

def getVersion (catalogVersionId organizationId : UUID) : Option CatalogVersion :=
  (select (fun version => version.catalogVersionId = catalogVersionId ∧
    version.organizationId = organizationId) store.versions).head?

def latestVersion (dataSourceId organizationId : UUID) : Option CatalogVersion :=
  (orderedBy (fun version => -version.createdAt)
    (select (fun version => version.dataSourceId = dataSourceId ∧
      version.organizationId = organizationId) store.versions)).head?

def save (relation : Relation) : CatalogStore where
  versions := store.versions
  relations := update relation.SavedTo (·.withValues relation) store.relations
  versionKeys := store.versionKeys
  relationKeys := by
    have hkeys : (update relation.SavedTo (·.withValues relation) store.relations).map
        (·.relationId) = store.relations.map (·.relationId) :=
      map_update fun _ => rfl
    rw [hkeys]
    exact store.relationKeys
  pinned := forall_update (fun _ _ h => h) store.pinned

def addMany (proposals : List Relation) : Except String CatalogStore :=
  if hkeys : ((store.relations ++ proposals).map (·.relationId)).Nodup then
    if hpinned : ∀ relation ∈ proposals,
        relation.catalogVersionId ∈ store.versions.map (·.catalogVersionId) then
      .ok
        { versions := store.versions
          relations := store.relations ++ proposals
          versionKeys := store.versionKeys
          relationKeys := hkeys
          pinned := by
            intro relation hrelation
            rcases List.mem_append.1 hrelation with hold | hadded
            · exact store.pinned relation hold
            · exact hpinned relation hadded }
    else
      .error "insert or update on table \"relations\" violates foreign key constraint"
  else
    .error "duplicate key value violates unique constraint \"relations_pkey\""

/-- `RelationRepository.get`. -/
def getRelation (relationId organizationId : UUID) : Option Relation :=
  (select (fun row => row.relationId = relationId ∧ row.organizationId = organizationId)
    store.relations).head?

def listForVersion (catalogVersionId organizationId : UUID) : List Relation :=
  select (fun row => row.catalogVersionId = catalogVersionId ∧
    row.organizationId = organizationId) store.relations

/-- `RelationRepository.list_for_source`: Relations touching this source from either
side. -/
def listForSource (dataSourceId organizationId : UUID) : List Relation :=
  select (fun row => row.organizationId = organizationId ∧ row.Touches dataSourceId)
    store.relations

/-- The Join Graph of a version, as `join_graph` and `permits_join` read it. -/
def joinGraph (catalogVersionId organizationId : UUID) : JoinGraph :=
  JoinGraph.build catalogVersionId (store.listForVersion catalogVersionId organizationId)

/-- `for relation in relations: save(relation)`. -/
def saveAll (relations : List Relation) : CatalogStore := relations.foldl save store

variable {store} {after : CatalogStore} {version : CatalogVersion}
  {relation row : Relation} {saved proposals : List Relation}

theorem addVersion_returns (h : store.addVersion version = .ok after) :
    version.catalogVersionId ∉ store.versions.map (·.catalogVersionId) ∧
      after.versions = store.versions ++ [version] ∧
      after.relations = store.relations := by
  unfold addVersion at h
  split at h
  · cases h
  next hnew =>
      cases h
      exact ⟨hnew, rfl, rfl⟩

theorem addVersion_raises {message : String} (h : store.addVersion version = .error message) :
    version.catalogVersionId ∈ store.versions.map (·.catalogVersionId) := by
  unfold addVersion at h
  split at h
  next htaken => exact htaken
  next => cases h

theorem addMany_returns (h : store.addMany proposals = .ok after) :
    after.versions = store.versions ∧
      after.relations = store.relations ++ proposals := by
  unfold addMany at h
  split at h
  · split at h
    · cases h
      exact ⟨rfl, rfl⟩
    · cases h
  · cases h

theorem eq_of_relationId (hrelation : relation ∈ store.relations)
    (hrow : row ∈ store.relations) (h : relation.relationId = row.relationId) :
    relation = row :=
  List.inj_on_of_nodup_map store.relationKeys hrelation hrow h

theorem getRelation_mem {relationId organizationId : UUID}
    (h : store.getRelation relationId organizationId = some row) :
    row ∈ store.relations ∧ row.relationId = relationId ∧
      row.organizationId = organizationId :=
  mem_select.1 (List.mem_of_head? h)

@[simp] theorem mem_listForSource {dataSourceId organizationId : UUID} :
    row ∈ store.listForSource dataSourceId organizationId ↔
      row ∈ store.relations ∧ row.organizationId = organizationId ∧
        row.Touches dataSourceId :=
  mem_select

@[simp] theorem mem_listForVersion {catalogVersionId organizationId : UUID} :
    row ∈ store.listForVersion catalogVersionId organizationId ↔
      row ∈ store.relations ∧ row.catalogVersionId = catalogVersionId ∧
        row.organizationId = organizationId :=
  mem_select

theorem mem_joinGraph {catalogVersionId organizationId : UUID} :
    row ∈ (store.joinGraph catalogVersionId organizationId).relations ↔
      row ∈ store.relations ∧ row.catalogVersionId = catalogVersionId ∧
        row.organizationId = organizationId ∧ row.state = .confirmed := by
  unfold joinGraph
  rw [JoinGraph.mem_build, mem_listForVersion]
  tauto

theorem latestVersion_mem {dataSourceId organizationId : UUID}
    (h : store.latestVersion dataSourceId organizationId = some version) :
    version ∈ store.versions ∧ version.dataSourceId = dataSourceId ∧
      version.organizationId = organizationId :=
  mem_select.1 (mem_orderedBy.1 (List.mem_of_head? h))

section Related

variable {other : CatalogStore} {related : CatalogVersion → CatalogVersion → Prop}

/-- Related versions differ in their tables only. -/
def TablesOnly (related : CatalogVersion → CatalogVersion → Prop) : Prop :=
  ∀ version other, related version other → other = { version with tables := other.tables }

/-- Where the versions differ in their tables only, the same ones are found. -/
theorem rel_getVersion (hsame : TablesOnly related)
    (h : List.Forall₂ related store.versions other.versions)
    (catalogVersionId organizationId : UUID) :
    Option.Rel related (store.getVersion catalogVersionId organizationId)
      (other.getVersion catalogVersionId organizationId) := by
  refine forall₂_head? (forall₂_select ?_ h)
  intro version other hversion
  rw [hsame version other hversion]

theorem rel_latestVersion (hsame : TablesOnly related)
    (h : List.Forall₂ related store.versions other.versions)
    (dataSourceId organizationId : UUID) :
    Option.Rel related (store.latestVersion dataSourceId organizationId)
      (other.latestVersion dataSourceId organizationId) := by
  refine forall₂_head? (forall₂_orderedBy ?_ (forall₂_select ?_ h))
  · intro version other hversion
    rw [hsame version other hversion]
  · intro version other hversion
    rw [hsame version other hversion]

end Related

def savedRow (saved : List Relation) (row : Relation) : Relation :=
  saved.foldl (fun row relation => if relation.SavedTo row then row.withValues relation
    else row) row

@[simp] theorem saveAll_versions : (store.saveAll saved).versions = store.versions := by
  unfold saveAll
  induction saved generalizing store with
  | nil => rfl
  | cons relation saved ih => exact ih

/-- **Saves change their rows one by one.** -/
theorem saveAll_relations :
    (store.saveAll saved).relations = store.relations.map (savedRow saved) := by
  unfold saveAll savedRow
  induction saved generalizing store with
  | nil => simp
  | cons relation saved ih =>
      rw [List.foldl_cons, ih]
      show ((store.relations.map fun row => if relation.SavedTo row then
        row.withValues relation else row).map _) = _
      rw [List.map_map]
      rfl

/-- **A row after a series of saves** is what the last save of its Relation wrote. -/
theorem savedRow_cases (saved : List Relation) (row : Relation) :
    ((∀ relation ∈ saved, ¬ relation.SavedTo row) ∧ savedRow saved row = row) ∨
      ∃ relation ∈ saved, relation.SavedTo row ∧
        savedRow saved row = row.withValues relation := by
  induction saved generalizing row with
  | nil => exact .inl ⟨by simp, rfl⟩
  | cons first saved ih =>
      have hcons : savedRow (first :: saved) row =
          savedRow saved (if first.SavedTo row then row.withValues first else row) := rfl
      rw [hcons]
      by_cases hfirst : first.SavedTo row
      · rw [if_pos hfirst]
        rcases ih (row.withValues first) with ⟨-, hrow⟩ | ⟨relation, hmem, hsaved, hrow⟩
        · exact .inr ⟨first, List.mem_cons_self, hfirst, hrow⟩
        · exact .inr ⟨relation, List.mem_cons_of_mem _ hmem, hsaved, hrow⟩
      · rw [if_neg hfirst]
        rcases ih row with ⟨hnone, hrow⟩ | ⟨relation, hmem, hsaved, hrow⟩
        · refine .inl ⟨?_, hrow⟩
          intro relation hrelation
          rcases List.mem_cons.1 hrelation with rfl | hrest
          · exact hfirst
          · exact hnone relation hrest
        · exact .inr ⟨relation, List.mem_cons_of_mem _ hmem, hsaved, hrow⟩

end CatalogStore

end Connector

end Zentra
