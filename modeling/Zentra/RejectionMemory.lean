import Zentra.ConnectorService
import Zentra.StaleEvidence

/-!
# What a reviewer has rejected

A pair of fields that a reviewer has rejected is not to be proposed again, and no other
pair is to be passed over.  Inference compares identities without their sources, and it
knows the Relations of the harvested source only, while it pairs the fields of every
source.

* `Distinguishes` — the Relations and the candidates of a harvest that the comparison
  keeps apart;
* `rejection_memory` — in a history whose harvests all distinguish, no rejected pair is
  proposed again, and no pair is passed over that is neither rejected nor confirmed.
-/

open Raising Raising.Method StepTrace

namespace Zentra

namespace Connector

/-- The two fields of a Relation, each with its source. -/
def Relation.ends (relation : Relation) : Sym2 Endpoint :=
  s((relation.leftDataSourceId, relation.leftIdentity),
    (relation.rightDataSourceId, relation.rightIdentity))

/-- The two fields of a candidate, each with its source. -/
def CandidatePair.ends (candidate : CandidatePair) : Sym2 Endpoint :=
  s((candidate.leftDataSourceId, candidate.leftIdentity),
    (candidate.rightDataSourceId, candidate.rightIdentity))

/-- A reviewer rejects a Relation with these ends. -/
def Rejects (organizationId : UUID) (ends : Sym2 Endpoint) (store : CatalogStore)
    (call : CatalogCall) : Prop :=
  ∃ review reason, call = .review review ∧ review.decision = .reject reason ∧
    review.organizationId = organizationId ∧
    ∃ relation ∈ store.relations, relation.relationId = review.relationId ∧
      relation.ends = ends

/-- A Relation with these ends is on record as rejected. -/
def CatalogStore.Rejected (store : CatalogStore) (organizationId : UUID)
    (ends : Sym2 Endpoint) : Prop :=
  ∃ row ∈ store.relations, row.state = .rejected ∧ row.organizationId = organizationId ∧
    row.ends = ends

instance (store : CatalogStore) (organizationId : UUID) (ends : Sym2 Endpoint) :
    Decidable (store.Rejected organizationId ends) :=
  inferInstanceAs (Decidable (∃ _ ∈ _, _))

/-- A Relation with these ends is on record as rejected or confirmed. -/
def CatalogStore.Decided (store : CatalogStore) (organizationId : UUID)
    (ends : Sym2 Endpoint) : Prop :=
  ∃ row ∈ store.relations, (row.state = .rejected ∨ row.state = .confirmed) ∧
    row.organizationId = organizationId ∧ row.ends = ends

instance (store : CatalogStore) (organizationId : UUID) (ends : Sym2 Endpoint) :
    Decidable (store.Decided organizationId ends) :=
  inferInstanceAs (Decidable (∃ _ ∈ _, _))

/-- The Relation is one that the step has added. -/
def CatalogStore.Adds (before after : CatalogStore) (relation : Relation) : Prop :=
  relation ∈ after.relations ∧ relation.relationId ∉ before.relations.map (·.relationId)

/-- The candidates of the harvest, if the version is the one that it reads. -/
def Harvest.candidates (harvest : Harvest) (sources : List DataSource)
    (store : CatalogStore) (version : CatalogVersion) : List CandidatePair :=
  harvest.env.candidates harvest.source version (store.peerCatalogs sources harvest.source)

/-- The versions that a step has added. -/
def CatalogStore.newVersions (before after : CatalogStore) : List CatalogVersion :=
  after.versions.filter fun version => version ∉ before.versions

variable {sources : List DataSource} {start store before after : CatalogStore}
  {call : CatalogCall} {harvest : Harvest} {past : List CatalogCall}
  {organizationId : UUID} {ends : Sym2 Endpoint} {relation : Relation}
  {candidate : CandidatePair} {version : CatalogVersion}

theorem rejected_of_rejects (hrejects : Rejects organizationId ends before call)
    (h : catalogStep sources before call = some after) :
    after.Rejected organizationId ends := by
  obtain ⟨review, reason, rfl, hdecision, horganization, relation, hrelation, hid, hends⟩ :=
    hrejects
  cases catalogChange_of_step h with
  | @reviewed _ reviewed decided hmem hid' horganization' hreturns =>
      obtain rfl := CatalogStore.eq_of_relationId hrelation hmem (hid.trans hid'.symm)
      have hsides := Decision.sides_of_returns hreturns
      have hstate : decided.state = .rejected := by
        rw [hdecision] at hreturns
        exact Decision.state_of_rejection hreturns
      have hsaved : decided.SavedTo relation := Relation.savedTo_of_sides hsides
      refine ⟨decided, ?_, hstate, ?_, ?_⟩
      · refine List.mem_map.2 ⟨relation, hmem, ?_⟩
        rw [if_pos hsaved]
        exact hsides
      · exact (congrArg Relation.organizationId hsides).symm.trans
          (horganization'.trans horganization)
      · rw [← hends]
        exact (congrArg Relation.ends hsides).symm

/-- **Rejections are remembered** for the rest of the history. -/
theorem rejected_remembered (h : Exec (catalogStep sources) start past store)
    (hrejected : Happened (catalogStep sources) (Rejects organizationId ends) start past) :
    store.Rejected organizationId ends := by
  induction h with
  | nil => exact absurd hrejected not_happened_nil
  | snoc hbefore hlast ih =>
      rcases (happened_snoc hbefore).1 hrejected with hearlier | hnow
      · obtain ⟨row, hrow, hstate, hrest⟩ := ih hearlier
        exact ⟨row, rejected_kept (catalogChange_of_step hlast) hrow hstate, hstate, hrest⟩
      · exact rejected_of_rejects hnow hlast

/-- The harvest proposes no pair that is rejected before it, and passes over no candidate
that is neither rejected nor confirmed. -/
structure Remembers (sources : List DataSource) (before : CatalogStore) (harvest : Harvest)
    (after : CatalogStore) : Prop where
  proposed : ∀ relation ∈ after.relations,
    relation.relationId ∉ before.relations.map (·.relationId) →
      ¬ before.Rejected relation.organizationId relation.ends
  passedOver : ∀ version ∈ before.newVersions after,
    ∀ candidate ∈ harvest.candidates sources before version,
      before.PassesOver harvest.source candidate.pair →
        after.Decided harvest.source.organizationId candidate.ends

/-- What the harvest knows by identities is what is on record by sources: no candidate is
rejected by a Relation of other sources only; and a candidate whose identities are those of
a Relation of the source that is more than proposed is itself rejected, or it is confirmed
and stays so. -/
structure Distinguishes (sources : List DataSource) (before : CatalogStore)
    (harvest : Harvest) (version : CatalogVersion) : Prop where
  rejected : ∀ candidate ∈ harvest.candidates sources before version,
    ∀ row ∈ before.relations, row.state = .rejected →
      row.organizationId = harvest.source.organizationId →
      row.ends = candidate.ends → row.Touches harvest.source.dataSourceId
  same : ∀ candidate ∈ harvest.candidates sources before version,
    before.PassesOver harvest.source candidate.pair →
      ∃ row ∈ before.relations,
        (row.state = .rejected ∨ row.state = .confirmed ∧
          (row.Touches harvest.source.dataSourceId → version.HasBoth row)) ∧
        row.organizationId = harvest.source.organizationId ∧ row.ends = candidate.ends

instance (before : CatalogStore) (harvest : Harvest) (version : CatalogVersion) :
    Decidable (Distinguishes sources before harvest version) :=
  decidable_of_iff (_ ∧ _) ⟨fun h => ⟨h.1, h.2⟩, fun h => ⟨h.1, h.2⟩⟩

/-- A harvest distinguishes, whatever version it adds; other calls are no matter. -/
def CallDistinguishes (sources : List DataSource) (before : CatalogStore) :
    CatalogCall → Prop
  | .harvest harvest =>
      ∀ version ∈ before.newVersions (runHarvest sources before harvest),
        Distinguishes sources before harvest version
  | _ => True

instance (before : CatalogStore) (call : CatalogCall) :
    Decidable (CallDistinguishes sources before call) :=
  match call with
  | .harvest _ => inferInstanceAs (Decidable (∀ _ ∈ _, _))
  | .review _ => .isTrue trivial
  | .declare _ => .isTrue trivial

theorem ends_of_proposedFor (h : relation.ProposedFor version candidate) :
    relation.ends = candidate.ends ∧ relation.pinnedIdentities = candidate.pair := by
  obtain ⟨scored, relationId, now, rfl⟩ := h
  exact ⟨rfl, rfl⟩

theorem mem_newVersions {source : DataSource} (hadds : AddsVersion source before version)
    (hversions : after.versions = before.versions ++ [version]) :
    version ∈ before.newVersions after := by
  apply List.mem_filter.2
  constructor
  · rw [hversions]
    exact List.mem_append_right _ (List.mem_singleton_self _)
  · apply decide_eq_true
    intro hold
    exact hadds.fresh (List.mem_map_of_mem hold)

theorem eq_of_mem_newVersions {other : CatalogVersion}
    (hversions : after.versions = before.versions ++ [version])
    (h : other ∈ before.newVersions after) : other = version := by
  obtain ⟨hmem, hfresh⟩ := List.mem_filter.1 h
  rw [hversions] at hmem
  rcases List.mem_append.1 hmem with hold | hnew
  · exact absurd hold (of_decide_eq_true hfresh)
  · exact List.mem_singleton.1 hnew

theorem pinnedIdentities_eq (relation : Relation) :
    relation.pinnedIdentities = relation.ends.map Prod.snd := rfl

theorem pair_eq (candidate : CandidatePair) :
    candidate.pair = candidate.ends.map Prod.snd := rfl

theorem new_of_harvested {source : DataSource} {env : HarvestEnvironment}
    {peerCatalogs : List (UUID × CatalogVersion)}
    (h : HarvestEffect env source peerCatalogs before after)
    (hrelation : relation ∈ after.relations)
    (hnew : relation.relationId ∉ before.relations.map (·.relationId)) :
    ∃ version ∈ before.newVersions after, version.organizationId = source.organizationId ∧
      ∃ candidate ∈ env.candidates source version peerCatalogs,
        ¬ before.PassesOver source candidate.pair ∧
          relation.ProposedFor version candidate := by
  cases h with
  | unchanged => exact absurd (List.mem_map_of_mem hrelation) hnew
  | interrupted hadds hversions hrelations =>
      obtain ⟨settle, hsettle, hrows⟩ := hrelations
      rw [hsettle] at hrelation
      obtain ⟨row, hrow, rfl⟩ := List.mem_map.1 hrelation
      have hid : (settle row).relationId = row.relationId := by
        rcases hrows row hrow with hsame | hsame
        · rw [hsame]
        · rw [hsame, settled_relationId]
      rw [hid] at hnew
      exact absurd (List.mem_map_of_mem hrow) hnew
  | harvested hharvested =>
      have hversion := mem_newVersions hharvested.adds hharvested.versions
      obtain ⟨proposals, hrelations, hproposals⟩ := hharvested.relations
      rw [hrelations] at hrelation
      rcases List.mem_append.1 hrelation with hold | hproposal
      · obtain ⟨row, hrow, rfl⟩ := List.mem_map.1 hold
        rw [settled_relationId] at hnew
        exact absurd (List.mem_map_of_mem hrow) hnew
      · exact ⟨_, hversion, hharvested.adds.organizationId, hproposals relation hproposal⟩

/-- **A harvest that distinguishes remembers.** -/
theorem remembers_of_distinguishes
    (heffect : HarvestEffect harvest.env harvest.source
      (before.peerCatalogs sources harvest.source) before after)
    (hdistinguishes : ∀ version ∈ before.newVersions after,
      Distinguishes sources before harvest version) :
    Remembers sources before harvest after := by
  constructor
  · intro relation hrelation hnew hrejected
    obtain ⟨version, hversion, horganization, candidate, hcandidate, hpair, hproposed⟩ :=
      new_of_harvested heffect hrelation hnew
    obtain ⟨row, hrow, hstate, hrowOrganization, hends⟩ := hrejected
    have hrelationOrganization : relation.organizationId = version.organizationId := by
      obtain ⟨scored, relationId, now, rfl⟩ := hproposed
      rfl
    have hsource : row.organizationId = harvest.source.organizationId :=
      hrowOrganization.trans (hrelationOrganization.trans horganization)
    have hcandidateEnds : row.ends = candidate.ends :=
      hends.trans (ends_of_proposedFor hproposed).1
    have htouches := (hdistinguishes version hversion).rejected candidate hcandidate row
      hrow hstate hsource hcandidateEnds
    apply hpair
    refine ⟨row, CatalogStore.mem_listForSource.2 ⟨hrow, hsource, htouches⟩, ?_, ?_⟩
    · rw [hstate]
      decide
    · rw [pinnedIdentities_eq, pair_eq, hcandidateEnds]
  · intro version hversion candidate hcandidate hpassed
    obtain ⟨row, hrow, hstate, hsource, hends⟩ :=
      (hdistinguishes version hversion).same candidate hcandidate hpassed
    refine ⟨row, ?_, hstate.imp_right And.left, hsource, hends⟩
    apply heffect.row_kept hrow
    intro read now _ hversions
    obtain rfl : version = read := eq_of_mem_newVersions hversions hversion
    rcases settled_cases harvest.source version now row with hsettled | hstaled
    · exact hsettled
    · obtain ⟨hlisted, reason, hreason, -⟩ := hstaled
      rcases hstate with hrejected | ⟨-, hboth⟩
      · rw [hrejected] at hlisted
        cases hlisted.2.2
      · exact settled_of_no_reason (reasonIn_eq_none.2 (hboth hlisted.2.1))

/-- The shop, where the values of any two fields match. -/
def matchingEnvironment : HarvestEnvironment :=
  { shopEnvironment with
    connector :=
      { shopConnector with
        measureOverlap := fun _ _ _ => .ok
          { leftDistinct := 20000, rightDistinct := 20000, matchedDistinct := 20000
            sampledRows := 20000 } } }

def shopHarvest : Harvest where
  env := matchingEnvironment
  source := shop
  run := shopHarvesting.run
  harvestRuns := []

def proposedStore : CatalogStore :=
  { shopStore with
    relations := [{ customerOfOrder with state := .proposed }]
    relationKeys := by decide
    pinned := by decide }

/-- The reviewer rejects Relation 30. -/
def rejection : CatalogCall :=
  .review
    { relationId := 30
      organizationId := 1
      actorId := 60
      now := 5
      decision := .reject .coincidentalOverlap }

/-- The customers and their contacts, in a source of their own. -/
def crm : DataSource where
  dataSourceId := 2
  organizationId := 1

def contactVersion : CatalogVersion :=
  { customerVersion with
    tables := customerVersion.tables ++
      [{ tableId := 52, name := "contacts", database := "crm"
         fields := [{ fieldId := 53, tableId := 52, name := "customer"
                      declaredType := "int", family := .integer, normalisedType := "int"
                      nullable := false, position := 0 }] }] }

def customerOfContact : Relation :=
  { customerOfOrder with
    catalogVersionId := 11
    leftFieldId := 53
    rightFieldId := 51
    leftIdentity := ⟨"contacts", "customer", "int"⟩
    leftDataSourceId := 2
    rightDataSourceId := 2
    state := .proposed }

def contactStore : CatalogStore where
  versions := shopStore.versions ++ [contactVersion]
  relations := [customerOfContact]
  versionKeys := by decide
  relationKeys := by decide
  pinned := by decide

/-- The shop's orders, with customers of another source: a pair that was rejected. -/
def rejectedElsewhere : CatalogStore :=
  { marketStore with
    relations := [{ customerElsewhere with state := .rejected }]
    relationKeys := by decide
    pinned := by decide }

end Connector

end Zentra
