import Zentra.HarvestEffect
import Zentra.StepTrace

/-!
# The service: harvests and decisions

The catalog of the organizations changes by harvests of their data sources, by decisions
of reviewers about Relations, and by Relations that reviewers declare.  Each is one call
of the service here, run to its end.

* `CatalogChange`, `catalogChange_of_step` — what a call can do;
* `rejected_kept` — no call touches a row that is rejected;
* `always_continues` — what every history of calls keeps.
-/

open Raising Raising.Method StepTrace TableRows

namespace Zentra

namespace Connector

/-- What the calls of the service raise. -/
inductive ConnectorError
  | catalogVersionNotFound (message : String)
  | relationNotFound (message : String)
  | conflict (message : String)
  /-- what the connector or the database raises -/
  | failed (message : String)
  deriving DecidableEq, Repr

/-- `_peer_catalogs`: the other sources' latest catalogs. -/
def CatalogStore.peerCatalogs (store : CatalogStore) (sources : List DataSource)
    (source : DataSource) : List (UUID × CatalogVersion) :=
  (sources.filter fun other => other.organizationId = source.organizationId ∧
    other.dataSourceId ≠ source.dataSourceId).filterMap fun other =>
      (store.latestVersion other.dataSourceId source.organizationId).map fun version =>
        (other.dataSourceId, version)

/-- A run of a harvest, with the rows of the runs that it finds. -/
structure Harvest where
  env : HarvestEnvironment
  source : DataSource
  run : HarvestRun
  harvestRuns : List HarvestRun

/-- What the execution of the harvest works on. -/
def Harvest.start (harvest : Harvest) (store : CatalogStore) : Harvesting where
  store := store
  harvestRuns := harvest.harvestRuns
  run := harvest.run

def runHarvest (sources : List DataSource) (store : CatalogStore) (harvest : Harvest) :
    CatalogStore :=
  ((executeHarvest harvest.env harvest.source
    (store.peerCatalogs sources harvest.source)).after (harvest.start store)).store

/-- A reviewer's decision about a Relation. -/
structure Review where
  relationId : UUID
  organizationId : UUID
  actorId : UUID
  now : Int
  decision : Decision

/-- `confirm_relation`, `reject_relation` and `revoke_relation`. -/
def reviewRelation (store : CatalogStore) (review : Review) :
    Except ConnectorError CatalogStore :=
  match store.getRelation review.relationId review.organizationId with
  | none => .error (.relationNotFound (toString review.relationId))
  | some relation =>
      match (review.decision.method review.actorId review.now).call relation with
      | (.ok (), relation) => .ok (store.save relation)
      | (.error e, _) => .error (.conflict e.message)

/-- A Relation that a reviewer knows of. -/
structure Declaration where
  connector : SourceConnector
  rules : TextRules
  organizationId : UUID
  actorId : UUID
  catalogVersionId : UUID
  leftFieldId : UUID
  rightFieldId : UUID
  relationId : UUID
  now : Int

def Declaration.candidate (declaration : Declaration) (dataSourceId : UUID)
    (left right : SourceTable × SourceField) : CandidatePair where
  leftDataSourceId := dataSourceId
  leftTable := left.1
  leftField := left.2
  rightDataSourceId := dataSourceId
  rightTable := right.1
  rightField := right.2
  nameAffinity :=
    declaration.rules.nameAffinity left.1.name left.2.name right.1.name right.2.name

/-- `Relation(…)` of a declaration, confirmed. -/
def Declaration.relation (declaration : Declaration) (version : CatalogVersion)
    (candidate : CandidatePair) (scored : ScoredCandidate) : Relation :=
  (Relation.confirm declaration.actorId declaration.now).after
    { scored.proposal candidate declaration.relationId version declaration.now with
      organizationId := declaration.organizationId
      catalogVersionId := declaration.catalogVersionId
      origin := .declared }

def declareRelation (store : CatalogStore) (declaration : Declaration) :
    Except ConnectorError CatalogStore :=
  match store.getVersion declaration.catalogVersionId declaration.organizationId with
  | none => .error (.catalogVersionNotFound (toString declaration.catalogVersionId))
  | some version =>
      match version.findField declaration.leftFieldId,
          version.findField declaration.rightFieldId with
      | some left, some right =>
          let path (field : SourceTable × SourceField) : UUID × FieldPath :=
            (version.dataSourceId, ⟨field.1.database, field.1.name, field.2.name⟩)
          match declaration.connector.measureOverlap (path left) (path right) 10000 with
          | .error message => .error (.failed message)
          | .ok overlap =>
              let candidate := declaration.candidate version.dataSourceId left right
              match scoreCandidate candidate overlap with
              | none =>
                  .error (.conflict
                    "The declared fields do not share enough values to be a join")
              | some scored =>
                  (store.addMany [declaration.relation version candidate scored]).mapError
                    .failed
      | _, _ => .error (.relationNotFound "Both fields must exist in this catalog version")

inductive CatalogCall
  | harvest (harvest : Harvest)
  | review (review : Review)
  | declare (declaration : Declaration)

/-- A call of the service; one that raises changes nothing and is not a step. -/
def catalogStep (sources : List DataSource) (store : CatalogStore) :
    CatalogCall → Option CatalogStore
  | .harvest harvest => some (runHarvest sources store harvest)
  | .review review => (reviewRelation store review).toOption
  | .declare declaration => (declareRelation store declaration).toOption

/-- What a call can do to the catalog. -/
inductive CatalogChange (sources : List DataSource) (store : CatalogStore) :
    CatalogCall → CatalogStore → Prop
  | harvested {harvest : Harvest} {after : CatalogStore}
      (effect : HarvestEffect harvest.env harvest.source
        (store.peerCatalogs sources harvest.source) store after) :
      CatalogChange sources store (.harvest harvest) after
  | reviewed {review : Review} {relation after : Relation}
      (mem : relation ∈ store.relations) (id : relation.relationId = review.relationId)
      (organization : relation.organizationId = review.organizationId)
      (returns : (review.decision.method review.actorId review.now).call relation =
        (.ok (), after)) :
      CatalogChange sources store (.review review) (store.save after)
  | declared {declaration : Declaration} {relation : Relation} {after : CatalogStore}
      (versions : after.versions = store.versions)
      (relations : after.relations = store.relations ++ [relation])
      (confirmed : relation.state = .confirmed) :
      CatalogChange sources store (.declare declaration) after

section Changes

variable {sources : List DataSource} {store after : CatalogStore} {call : CatalogCall}
  {review : Review} {declaration : Declaration} {row : Relation}

theorem reviewRelation_returns (h : reviewRelation store review = .ok after) :
    ∃ relation decided, relation ∈ store.relations ∧
      relation.relationId = review.relationId ∧
      relation.organizationId = review.organizationId ∧
      (review.decision.method review.actorId review.now).call relation =
        (.ok (), decided) ∧ after = store.save decided := by
  unfold reviewRelation at h
  split at h
  · cases h
  next relation hget =>
      obtain ⟨hmem, hid, horganization⟩ := CatalogStore.getRelation_mem hget
      split at h
      next decided hcall =>
          cases h
          exact ⟨relation, decided, hmem, hid, horganization, hcall, rfl⟩
      next => cases h

theorem declareRelation_returns (h : declareRelation store declaration = .ok after) :
    after.versions = store.versions ∧
      ∃ relation, after.relations = store.relations ++ [relation] ∧
        relation.state = .confirmed := by
  unfold declareRelation at h
  split at h
  · cases h
  · split at h
    · simp only at h
      split at h
      · cases h
      · split at h
        · cases h
        next scored _ =>
            cases hadd : store.addMany [declaration.relation _ _ scored] with
            | error message =>
                rw [hadd] at h
                cases h
            | ok added =>
                rw [hadd] at h
                cases h
                obtain ⟨hversions, hrelations⟩ := CatalogStore.addMany_returns hadd
                exact ⟨hversions, _, hrelations, rfl⟩
    · cases h

/-- **What a call does.** -/
theorem catalogChange_of_step (h : catalogStep sources store call = some after) :
    CatalogChange sources store call after := by
  cases call with
  | harvest harvest =>
      cases h
      exact .harvested (executeHarvest_effect _ _ _ (harvest.start store))
  | review review =>
      have hreview : reviewRelation store review = .ok after := eq_ok_of_toOption h
      obtain ⟨relation, decided, hmem, hid, horganization, hcall, rfl⟩ :=
        reviewRelation_returns hreview
      exact .reviewed hmem hid horganization hcall
  | declare declaration =>
      have hdeclare : declareRelation store declaration = .ok after := eq_ok_of_toOption h
      obtain ⟨hversions, relation, hrelations, hconfirmed⟩ :=
        declareRelation_returns hdeclare
      exact .declared hversions hrelations hconfirmed

theorem mem_save {relation : Relation} (hrow : row ∈ store.relations)
    (h : relation.SavedTo row → row.withValues relation = row) :
    row ∈ (store.save relation).relations := by
  refine List.mem_map.2 ⟨row, hrow, ?_⟩
  by_cases hsaved : relation.SavedTo row
  · rw [if_pos hsaved]
    exact h hsaved
  · rw [if_neg hsaved]

/-- **No call touches a row that is rejected.** -/
theorem rejected_kept (h : CatalogChange sources store call after)
    (hrow : row ∈ store.relations) (hrejected : row.state = .rejected) :
    row ∈ after.relations := by
  cases h with
  | harvested heffect =>
      apply heffect.row_kept hrow
      intro version now _ _
      rcases settled_cases _ version now row with hsame | ⟨hlisted, -⟩
      · exact hsame
      · rw [hrejected] at hlisted
        cases hlisted.2.2
  | reviewed hmem hid horganization hreturns =>
      apply mem_save hrow
      intro hsaved
      have hsides := Decision.sides_of_returns hreturns
      have hsame : row.relationId = _ :=
        hsaved.1.trans (congrArg Relation.relationId hsides).symm
      obtain rfl := CatalogStore.eq_of_relationId hrow hmem hsame
      rw [Decision.rejected_of_returns hreturns hrejected]
      rfl
  | declared _ hrelations _ =>
      rw [hrelations]
      exact List.mem_append_left _ hrow

/-- What later calls may make of a Relation: what it joins stays, and a rejection stands. -/
def Revises (row later : Relation) : Prop :=
  row.withValues later = later ∧ (row.state = .rejected → later = row)

theorem Revises.refl (row : Relation) : Revises row row := ⟨rfl, fun _ => rfl⟩

theorem Revises.trans {later last : Relation} (h : Revises row later)
    (hlast : Revises later last) : Revises row last := by
  constructor
  · calc row.withValues last = (row.withValues later).withValues last := rfl
      _ = last := by rw [h.1, hlast.1]
  · intro hstate
    obtain rfl := h.2 hstate
    exact hlast.2 hstate

theorem revises_settled (source : DataSource) (version : CatalogVersion) (now : Int)
    (row : Relation) : Revises row (row.settled source version now) := by
  refine ⟨settled_withValues row, fun hrejected => ?_⟩
  rcases settled_cases source version now row with hsame | ⟨hlisted, -⟩
  · exact hsame
  · rw [hrejected] at hlisted
    cases hlisted.2.2

/-- No version is changed or lost, and every Relation is still there. -/
structure CatalogStore.Continues (store after : CatalogStore) : Prop where
  versions : store.versions <+: after.versions
  relations : ∀ row ∈ store.relations, ∃ later ∈ after.relations, Revises row later

/-- **Step lemma.** -/
theorem CatalogChange.continues (h : CatalogChange sources store call after) :
    store.Continues after := by
  have hkept (row : Relation) (hrow : row ∈ store.relations) :
      ∃ later ∈ store.relations, Revises row later := ⟨row, hrow, .refl row⟩
  cases h with
  | harvested heffect =>
      cases heffect with
      | unchanged => exact ⟨List.prefix_rfl, hkept⟩
      | interrupted _ hversions hrelations =>
          obtain ⟨settle, hsettle, hrows⟩ := hrelations
          refine ⟨hversions ▸ List.prefix_append .., fun row hrow => ⟨settle row, ?_, ?_⟩⟩
          · rw [hsettle]
            exact List.mem_map_of_mem hrow
          · rcases hrows row hrow with hsame | hsame
            · exact hsame.symm ▸ .refl row
            · exact hsame.symm ▸ revises_settled ..
      | harvested hharvested =>
          obtain ⟨proposals, hrelations, -⟩ := hharvested.relations
          refine ⟨hharvested.versions ▸ List.prefix_append .., fun row hrow => ?_⟩
          rw [hrelations]
          exact ⟨_, List.mem_append_left _ (List.mem_map_of_mem hrow), revises_settled ..⟩
  | @reviewed review relation decided hmem hid horganization hreturns =>
      refine ⟨List.prefix_rfl, fun row hrow => ⟨_, List.mem_map_of_mem hrow, ?_⟩⟩
      split
      next hsaved =>
          have hsides := Decision.sides_of_returns hreturns
          have hsame : row.relationId = relation.relationId :=
            hsaved.1.trans (congrArg Relation.relationId hsides).symm
          obtain rfl := CatalogStore.eq_of_relationId hrow hmem hsame
          show Revises row (row.withValues decided)
          rw [hsides]
          exact ⟨hsides, Decision.rejected_of_returns hreturns⟩
      next => exact .refl row
  | declared hversions hrelations _ =>
      refine ⟨hversions ▸ List.prefix_rfl, fun row hrow => ⟨row, ?_, .refl row⟩⟩
      rw [hrelations]
      exact List.mem_append_left _ hrow

/-- **The catalog is a history.**  Along any calls, versions are only added, and no Relation
disappears, changes what it joins, or comes back from a rejection. -/
theorem always_continues (sources : List DataSource) (store : CatalogStore)
    (history : List CatalogCall) :
    Always (catalogStep sources) store.Continues store history := by
  refine always_of_allowed store.Continues (fun _ h => h) (fun s call t h _ hstep => ?_) history
    store ⟨List.prefix_rfl, fun row hrow => ⟨row, hrow, .refl row⟩⟩
    (allowed_of_forall (fun _ _ _ => trivial) _)
  have hnext := (catalogChange_of_step hstep).continues
  refine ⟨h.versions.trans hnext.versions, fun row hrow => ?_⟩
  obtain ⟨mid, hmid, hfirst⟩ := h.relations row hrow
  obtain ⟨last, hlast, hsecond⟩ := hnext.relations mid hmid
  exact ⟨last, hlast, hfirst.trans hsecond⟩

end Changes

end Connector

end Zentra
