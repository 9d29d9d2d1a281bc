import Zentra.CarryForward

/-!
# What a harvest may conclude from a field it does not find

A harvest reads some of the tables of one source; the Relations it reconciles may join
the fields of others.  `reconcile` asks of both ends of a Relation whether the version
that was just read has them, and takes any other answer for a field that is gone.

* `inState_settled` — what becomes of a confirmed Relation of the source;
* `staleness_evidence` — the Relations about which the conclusion is right.
-/

open Raising Raising.Method

namespace Zentra

namespace Connector

/-- What the source answers to `list_tables`. -/
def HarvestEnvironment.listing (env : HarvestEnvironment) (scope : HarvestScope) :
    List SourceTableDescriptor :=
  match env.connector.listTables scope.databases with
  | .ok descriptors => descriptors
  | .error _ => []

def SourceTableDescriptor.DescribedIn (descriptor : SourceTableDescriptor)
    (tables : List SourceTable) : Prop :=
  ∃ table ∈ tables, table.database = descriptor.database ∧ table.name = descriptor.name

instance (descriptor : SourceTableDescriptor) : DecidablePred descriptor.DescribedIn :=
  fun _ => inferInstanceAs (Decidable (∃ _ ∈ _, _))

/-- A field at one end of a Relation: its source and its identity. -/
abbrev Endpoint : Type := UUID × FieldIdentity

def Relation.endpoints (relation : Relation) : List Endpoint :=
  [(relation.leftDataSourceId, relation.leftIdentity),
    (relation.rightDataSourceId, relation.rightIdentity)]

/-- The row of the Relation is in the state. -/
def CatalogStore.InState (store : CatalogStore) (relation : Relation)
    (state : RelationState) : Prop :=
  ∃ row ∈ store.relations, row.relationId = relation.relationId ∧ row.state = state

/-- One harvest, with the database in which the table of a field lies. -/
structure Look where
  env : HarvestEnvironment
  source : DataSource
  scope : HarvestScope
  home : Endpoint → String
  before : CatalogStore
  version : CatalogVersion

namespace Look

variable (look : Look)

/-- The harvest looked at the field: it is of the harvested source, its table is in the
scope, and if the source lists the table then the harvest has described it. -/
def At (endpoint : Endpoint) : Prop :=
  endpoint.1 = look.source.dataSourceId ∧
    look.scope.IncludesTable (look.home endpoint) endpoint.2.tableName ∧
    ∀ descriptor ∈ look.env.listing look.scope,
      descriptor.database = look.home endpoint → descriptor.name = endpoint.2.tableName →
        descriptor.DescribedIn look.version.tables

/-- The last version of the source before the harvest has the field. -/
def KnownBefore (endpoint : Endpoint) : Prop :=
  ∃ known ∈ look.before.latestVersion endpoint.1 look.source.organizationId,
    known.Has endpoint.2

/-- The field is in the latest schema of its source: what the harvest has read, and for
all that it did not look at, what was known before. -/
def InLatestSchema (endpoint : Endpoint) : Prop :=
  (endpoint.1 = look.source.dataSourceId ∧ look.version.Has endpoint.2) ∨
    (¬ look.At endpoint ∧ look.KnownBefore endpoint)

/-- The Relation is confirmed afterwards exactly if both of its fields are in the latest
schemas of their sources; and it is not stale if there is one the harvest did not look
at. -/
def EvidenceBased (after : CatalogStore) (relation : Relation) : Prop :=
  (after.InState relation .confirmed ↔
      ∀ endpoint ∈ relation.endpoints, look.InLatestSchema endpoint) ∧
    ((∃ endpoint ∈ relation.endpoints, ¬ look.At endpoint) →
      ¬ after.InState relation .stale)

/-- What the harvest has read decides about the Relation: it has both fields, each of
which is in the last version of its source if that is another one; or it does not have
both, and has looked at both. -/
def Decides (relation : Relation) : Prop :=
  (look.version.HasBoth relation ∧ ∀ endpoint ∈ relation.endpoints,
      endpoint.1 ≠ look.source.dataSourceId → look.KnownBefore endpoint) ∨
    (¬ look.version.HasBoth relation ∧ ∀ endpoint ∈ relation.endpoints, look.At endpoint)

end Look

section Settling

variable {look : Look} {relation : Relation} {env : HarvestEnvironment}
  {source : DataSource} {peerCatalogs : List (UUID × CatalogVersion)}
  {before after : CatalogStore} {version : CatalogVersion} {now : Int}
  {harvesting done : Harvesting} {state : RelationState}

theorem inState_of_row {row : Relation} (hrow : row ∈ after.relations)
    (hid : row.relationId = relation.relationId) :
    after.InState relation state ↔ row.state = state := by
  constructor
  · intro h
    obtain ⟨other, hother, hotherId, hstate⟩ := h
    have hsame : other = row :=
      CatalogStore.eq_of_relationId hother hrow (hotherId.trans hid.symm)
    rw [← hsame]
    exact hstate
  · intro h
    exact ⟨row, hrow, hid, h⟩

/-- **What becomes of a confirmed Relation of the source.**  It stays confirmed if the
version has both of its fields, and goes stale if not. -/
theorem state_settled
    (hlisted : relation ∈ before.listForSource source.dataSourceId source.organizationId)
    (hconfirmed : relation.state = .confirmed) :
    (relation.settled source version now).state =
      if version.HasBoth relation then .confirmed else .stale := by
  by_cases hboth : version.HasBoth relation
  · rw [settled_of_no_reason (reasonIn_eq_none.2 hboth), if_pos hboth, hconfirmed]
  · cases hreason : relation.reasonIn version with
    | none => exact absurd (reasonIn_eq_none.1 hreason) hboth
    | some reason =>
        rw [settled_of_reason hlisted hconfirmed hreason, if_neg hboth]
        rfl

theorem inState_harvested
    (h : Harvested env source peerCatalogs before version now after)
    (hlisted : relation ∈ before.listForSource source.dataSourceId source.organizationId)
    (hconfirmed : relation.state = .confirmed) :
    after.InState relation state ↔
      (if version.HasBoth relation then .confirmed else .stale) = state := by
  obtain ⟨proposals, hrelations, -⟩ := h.relations
  have hrow : relation.settled source version now ∈ after.relations := by
    rw [hrelations]
    apply List.mem_append_left
    exact List.mem_map_of_mem (CatalogStore.mem_listForSource.1 hlisted).1
  rw [inState_of_row hrow (settled_relationId relation), state_settled hlisted hconfirmed]

theorem not_stale_of_effect (h : HarvestEffect env source peerCatalogs before after)
    (hlisted : relation ∈ before.listForSource source.dataSourceId source.organizationId)
    (hconfirmed : relation.state = .confirmed)
    (hboth : ∀ version ∈ after.versions, version ∉ before.versions →
      version.HasBoth relation) : ¬ after.InState relation .stale := by
  have hrow : relation ∈ after.relations := by
    apply h.row_kept (CatalogStore.mem_listForSource.1 hlisted).1
    intro version now hadds hversions
    have hnew : version.HasBoth relation := by
      apply hboth
      · rw [hversions]
        exact List.mem_append_right _ (List.mem_singleton_self _)
      · intro hold
        exact hadds.fresh (List.mem_map_of_mem hold)
    exact settled_of_no_reason (reasonIn_eq_none.2 hnew)
  rw [inState_of_row hrow rfl, hconfirmed]
  decide

/-- A field of the harvested source that was looked at is in the latest schema exactly if
the version has it. -/
theorem inLatestSchema_of_at {endpoint : Endpoint} (h : look.At endpoint) :
    look.InLatestSchema endpoint ↔ look.version.Has endpoint.2 := by
  constructor
  · intro hlatest
    rcases hlatest with ⟨-, hhas⟩ | ⟨hnot, -⟩
    · exact hhas
    · exact absurd h hnot
  · intro hhas
    exact .inl ⟨h.1, hhas⟩

theorem inLatestSchema_of_other {endpoint : Endpoint}
    (h : endpoint.1 ≠ look.source.dataSourceId) :
    look.InLatestSchema endpoint ↔ look.KnownBefore endpoint := by
  constructor
  · intro hlatest
    rcases hlatest with ⟨hsame, -⟩ | ⟨-, hknown⟩
    · exact absurd hsame h
    · exact hknown
  · intro hknown
    exact .inr ⟨fun hat => h hat.1, hknown⟩

theorem forall_endpoints {p : Endpoint → Prop} :
    (∀ endpoint ∈ relation.endpoints, p endpoint) ↔
      p (relation.leftDataSourceId, relation.leftIdentity) ∧
        p (relation.rightDataSourceId, relation.rightIdentity) := by
  simp [Relation.endpoints]

theorem hasBoth_iff_endpoints :
    version.HasBoth relation ↔ ∀ endpoint ∈ relation.endpoints, version.Has endpoint.2 := by
  rw [forall_endpoints]
  exact Iff.rfl

theorem decides_iff :
    look.Decides relation ↔
      (look.version.HasBoth relation ↔
          ∀ endpoint ∈ relation.endpoints, look.InLatestSchema endpoint) ∧
        ((∃ endpoint ∈ relation.endpoints, ¬ look.At endpoint) →
          look.version.HasBoth relation) := by
  by_cases hboth : look.version.HasBoth relation
  · have hhas := hasBoth_iff_endpoints.1 hboth
    constructor
    · intro h
      rcases h with ⟨-, hothers⟩ | ⟨hnot, -⟩
      · refine ⟨⟨fun _ endpoint hmem => ?_, fun _ => hboth⟩, fun _ => hboth⟩
        by_cases hsource : endpoint.1 = look.source.dataSourceId
        · exact .inl ⟨hsource, hhas endpoint hmem⟩
        · exact (inLatestSchema_of_other hsource).2 (hothers endpoint hmem hsource)
      · exact absurd hboth hnot
    · intro h
      refine .inl ⟨hboth, ?_⟩
      intro endpoint hmem hsource
      exact (inLatestSchema_of_other hsource).1 (h.1.1 hboth endpoint hmem)
  · constructor
    · intro h
      rcases h with ⟨hhas, -⟩ | ⟨-, hlooked⟩
      · exact absurd hhas hboth
      · refine ⟨⟨fun hhas => absurd hhas hboth, fun hlatest => ?_⟩, ?_⟩
        · apply hasBoth_iff_endpoints.2
          intro endpoint hmem
          exact (inLatestSchema_of_at (hlooked endpoint hmem)).1 (hlatest endpoint hmem)
        · intro hunlooked
          obtain ⟨endpoint, hmem, hnot⟩ := hunlooked
          exact absurd (hlooked endpoint hmem) hnot
    · intro h
      refine .inr ⟨hboth, ?_⟩
      intro endpoint hmem
      by_contra hnot
      exact hboth (h.2 ⟨endpoint, hmem, hnot⟩)

theorem mem_of_not_listed (h : HarvestEffect env source peerCatalogs before after)
    (hrelation : relation ∈ before.relations)
    (hlisted : relation ∉ before.listForSource source.dataSourceId source.organizationId) :
    relation ∈ after.relations := by
  apply h.row_kept hrelation
  intro version now _ _
  rcases settled_cases source version now relation with hsame | ⟨hmine, -⟩
  · exact hsame
  · exact absurd (CatalogStore.mem_listForSource.2 ⟨hrelation, hmine.1, hmine.2.1⟩) hlisted

/-- The look that an execution takes, if it adds the version. -/
def lookOf (env : HarvestEnvironment) (source : DataSource) (home : Endpoint → String)
    (harvesting : Harvesting) (version : CatalogVersion) : Look where
  env := env
  source := source
  scope := harvesting.run.scope
  home := home
  before := harvesting.store
  version := version

/-- **Staleness by evidence.**  Of a confirmed Relation: if it touches the harvested
source, a harvest that completes concludes what it may exactly if what it has read decides
about the Relation; a harvest that ends otherwise, too, stales it for nothing it did not
look at, if what it has read decides; and if it does not touch the source, its row stays as
it is. -/
theorem staleness_evidence (env : HarvestEnvironment) (source : DataSource)
    (peerCatalogs : List (UUID × CatalogVersion)) (home : Endpoint → String)
    (harvesting : Harvesting) (relation : Relation)
    (hrelation : relation ∈ harvesting.store.relations)
    (hconfirmed : relation.state = .confirmed) :
    (relation ∈ harvesting.store.listForSource source.dataSourceId source.organizationId →
        (∀ version done, (executeHarvest env source peerCatalogs).call harvesting =
            (.ok (some version), done) →
          ((lookOf env source home harvesting version).EvidenceBased done.store relation ↔
            (lookOf env source home harvesting version).Decides relation)) ∧
        ∀ after, after = (executeHarvest env source peerCatalogs).after harvesting →
          (∀ version ∈ after.store.versions, version ∉ harvesting.store.versions →
            (lookOf env source home harvesting version).Decides relation ∧
              ∃ endpoint ∈ relation.endpoints,
                ¬ (lookOf env source home harvesting version).At endpoint) →
          ¬ after.store.InState relation .stale) ∧
      (relation ∉
          harvesting.store.listForSource source.dataSourceId source.organizationId →
        relation ∈
          ((executeHarvest env source peerCatalogs).after harvesting).store.relations) := by
  have heffect := executeHarvest_effect env source peerCatalogs harvesting
  refine ⟨fun hlisted => ⟨?_, ?_⟩, mem_of_not_listed heffect hrelation⟩
  · intro version done hcall
    obtain ⟨now, hharvested⟩ := executeHarvest_completes hcall
    have hstate : ∀ state, done.store.InState relation state ↔
        (if version.HasBoth relation then .confirmed else .stale) = state :=
      fun state => inState_harvested hharvested hlisted hconfirmed
    rw [decides_iff]
    unfold Look.EvidenceBased
    rw [hstate, hstate]
    show _ ↔ (version.HasBoth relation ↔ _) ∧ (_ → version.HasBoth relation)
    by_cases hboth : version.HasBoth relation
    · simp [hboth]
    · simp [hboth]
  · intro after hafter hnew
    rw [hafter] at hnew ⊢
    apply not_stale_of_effect heffect hlisted hconfirmed
    intro version hversion hfresh
    obtain ⟨hdecides, hunlooked⟩ := hnew version hversion hfresh
    exact (decides_iff.1 hdecides).2 hunlooked

end Settling

/-- In the shop, only the orders are left; the customers are in a source of their own,
whose last version has them. -/
def marketEnvironment : HarvestEnvironment :=
  { shopEnvironment with
    connector :=
      { shopConnector with
        listTables := fun _ => .ok [{ name := "orders", database := "shop" }] } }

def customerVersion : CatalogVersion where
  catalogVersionId := 11
  dataSourceId := 2
  organizationId := 1
  harvestRunId := 22
  createdAt := 0
  tables :=
    [{ tableId := 50, name := "customers", database := "crm"
       fields := [{ fieldId := 51, tableId := 50, name := "id", declaredType := "int"
                    family := .integer, normalisedType := "int", nullable := false
                    position := 0 }] }]

/-- The customer of an order, confirmed across the two sources. -/
def customerElsewhere : Relation := { customerOfOrder with rightDataSourceId := 2 }

def marketStore : CatalogStore where
  versions := shopStore.versions ++ [customerVersion]
  relations := [customerElsewhere]
  versionKeys := by decide
  relationKeys := by decide
  pinned := by decide

def marketHarvesting : Harvesting := { shopHarvesting with store := marketStore }

theorem market_completes :
    ∃ version done, (executeHarvest marketEnvironment shop [(2, customerVersion)]).call
        marketHarvesting = (.ok (some version), done) ∧
      ¬ version.HasBoth customerElsewhere ∧ version.Has customerElsewhere.leftIdentity :=
  completes_with (by decide +kernel)

theorem staleness_evidence_market :
    ∃ version done, (executeHarvest marketEnvironment shop [(2, customerVersion)]).call
        marketHarvesting = (.ok (some version), done) ∧
      ((lookOf marketEnvironment shop (fun _ => "shop") marketHarvesting
          version).EvidenceBased done.store customerElsewhere ↔
        (lookOf marketEnvironment shop (fun _ => "shop") marketHarvesting
          version).Decides customerElsewhere) := by
  obtain ⟨version, done, hcall, -⟩ := market_completes
  have hlisted : customerElsewhere ∈
      marketHarvesting.store.listForSource shop.dataSourceId shop.organizationId := by
    decide
  refine ⟨version, done, hcall, ?_⟩
  exact ((staleness_evidence marketEnvironment shop [(2, customerVersion)]
    (fun _ => "shop") marketHarvesting customerElsewhere (List.mem_singleton_self _)
    rfl).1 hlisted).1 version done hcall

/-- A harvest of the shop stales the Relation, both of whose fields are where they were. -/
theorem staled_without_a_look :
    ∃ version done, (executeHarvest marketEnvironment shop [(2, customerVersion)]).call
        marketHarvesting = (.ok (some version), done) ∧
      (∀ endpoint ∈ customerElsewhere.endpoints,
        (lookOf marketEnvironment shop (fun _ => "shop") marketHarvesting
          version).InLatestSchema endpoint) ∧
      ¬ (lookOf marketEnvironment shop (fun _ => "shop") marketHarvesting
        version).EvidenceBased done.store customerElsewhere := by
  obtain ⟨version, done, hcall, hmissing, hhas⟩ := market_completes
  refine ⟨version, done, hcall, ?_, ?_⟩
  · rw [forall_endpoints]
    refine ⟨.inl ⟨rfl, hhas⟩, ?_⟩
    have hother : customerElsewhere.rightDataSourceId ≠ shop.dataSourceId := by decide
    apply (inLatestSchema_of_other hother).2
    have hlatest : marketStore.latestVersion 2 1 = some customerVersion := by
      decide +kernel
    have hknown : customerVersion.Has customerElsewhere.rightIdentity := by decide
    exact ⟨customerVersion, hlatest, hknown⟩
  · intro hevidence
    have hlisted : customerElsewhere ∈
        marketHarvesting.store.listForSource shop.dataSourceId shop.organizationId := by
      decide
    have hstale : done.store.InState customerElsewhere .stale := by
      obtain ⟨now, hharvested⟩ := executeHarvest_completes hcall
      rw [inState_harvested hharvested hlisted rfl, if_neg hmissing]
    apply hevidence.2 _ hstale
    refine ⟨(2, customerElsewhere.rightIdentity), by decide, ?_⟩
    intro hat
    have hother : customerElsewhere.rightDataSourceId ≠ shop.dataSourceId := by decide
    exact hother hat.1

end Connector

end Zentra
