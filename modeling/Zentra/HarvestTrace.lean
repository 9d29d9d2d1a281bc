import Zentra.CarryForward

/-!
# What a harvest that returns nothing leaves behind

`execute_harvest` is to return `None` if the run failed or was cancelled before a version
existed.  The version is written, and the Relations are reconciled with it, before
inference; a cancellation that is noticed after that returns `None` all the same.

* `executeHarvest_none` — an execution that returns nothing ended before its version was
  written or after it;
* `no_trace_iff` — it leaves no trace exactly if it ended before, or if neither the
  version nor the reconciliation shows.
-/

open Raising Raising.Method TableRows

namespace Zentra

namespace Connector

variable {env : HarvestEnvironment} {source : DataSource}
  {peerCatalogs : List (UUID × CatalogVersion)}

/-- The body of the `try` of `execute_harvest` up to the new version. -/
def prepare (env : HarvestEnvironment) (source : DataSource) :
    HarvestMethod CatalogVersion := do
  advance env .connecting
  checkpoint env
  let described ← describeTables env
  checkpoint env
  let tables ← profileFields env described.1 source.storeSampleValues
  checkpoint env
  let catalogVersionId ← newId env
  let createdAt ← clockNow env
  let harvesting ← self
  return {
    catalogVersionId := catalogVersionId
    dataSourceId := source.dataSourceId
    organizationId := source.organizationId
    harvestRunId := harvesting.run.harvestRunId
    createdAt := createdAt
    tables := tables
    unreadable := described.2 }

theorem discover_eq (env : HarvestEnvironment) (source : DataSource)
    (peerCatalogs : List (UUID × CatalogVersion)) :
    discover env source peerCatalogs =
      prepare env source >>= record env source peerCatalogs := by
  unfold prepare
  simp only [bind_bind]
  rfl

variable {before after : CatalogStore} {version : CatalogVersion} {now : Int}
  {harvesting done : Harvesting} {row : Relation}

theorem prepare_triple :
    Triple (fun h => h.store = before) (prepare env source)
      (fun version h => h.store = before ∧ version.dataSourceId = source.dataSourceId ∧
        version.organizationId = source.organizationId)
      fun _ h => h.store = before := by
  refine (keeps_advance _).bind_triple (fun _ _ h => h) fun _ => ?_
  refine keeps_checkpoint.bind_triple (fun _ _ h => h) fun _ => ?_
  refine keeps_describeTables.bind_triple (fun _ _ h => h) fun described => ?_
  refine keeps_checkpoint.bind_triple (fun _ _ h => h) fun _ => ?_
  refine (keeps_profileFields _ _).bind_triple (fun _ _ h => h) fun tables => ?_
  refine keeps_checkpoint.bind_triple (fun _ _ h => h) fun _ => ?_
  refine keeps_newId.bind_triple (fun _ _ h => h) fun catalogVersionId => ?_
  refine keeps_clockNow.bind_triple (fun _ _ h => h) fun createdAt => ?_
  refine keeps_self.bind_triple (fun _ _ h => h) fun harvesting => ?_
  exact triple_pure fun _ hs => ⟨hs, rfl, rfl⟩

/-- An execution returns the version that its body returned, or gives up. -/
theorem call_executeHarvest (env : HarvestEnvironment) (source : DataSource)
    (peerCatalogs : List (UUID × CatalogVersion)) (harvesting : Harvesting) :
    (executeHarvest env source peerCatalogs).call harvesting =
      match (discover env source peerCatalogs).call harvesting with
      | (.ok version, done) => (.ok (some version), done)
      | (.error e, raised) => (giveUp env e).call raised := by
  unfold executeHarvest
  rw [call_catching, call_bind]
  rcases (discover env source peerCatalogs).call harvesting with ⟨e | version, s⟩
  · rfl
  · rfl

/-- **An execution that returns nothing** raised before its version was there, or after. -/
theorem executeHarvest_none
    (h : (executeHarvest env source peerCatalogs).call harvesting = (.ok none, done)) :
    (done.store = harvesting.store ∧
        ∃ e raised, (prepare env source).call harvesting = (.error e, raised)) ∨
      ∃ version prepared, (prepare env source).call harvesting = (.ok version, prepared) ∧
        version.dataSourceId = source.dataSourceId ∧
        version.organizationId = source.organizationId ∧
        RecordEffect env source peerCatalogs harvesting.store version done.store := by
  have hbody : ∃ e raised,
      (discover env source peerCatalogs).call harvesting = (.error e, raised) ∧
        (giveUp env e).call raised = (.ok none, done) := by
    rw [call_executeHarvest] at h
    rcases hcall : (discover env source peerCatalogs).call harvesting with ⟨e | version, s⟩
    · rw [hcall] at h
      exact ⟨e, s, rfl, h⟩
    · rw [hcall] at h
      cases h
  obtain ⟨e, raised, hraises, hgiveUp⟩ := hbody
  have hstore : done.store = raised.store :=
    ((giveUp_triple (· = raised.store) e).returns rfl hgiveUp).2
  rw [discover_eq, call_bind] at hraises
  rcases hprepare : (prepare env source).call harvesting with ⟨e' | version, prepared⟩
  · left
    rw [hprepare] at hraises
    cases hraises
    exact ⟨hstore.trans (prepare_triple.raises rfl hprepare), e, raised, rfl⟩
  · right
    rw [hprepare] at hraises
    obtain ⟨hkept, hsource, horganization⟩ := prepare_triple.returns rfl hprepare
    have heffect : RecordEffect env source peerCatalogs harvesting.store version
        raised.store :=
      (record_triple hsource horganization).raises hkept hraises
    rw [hstore]
    exact ⟨version, prepared, rfl, hsource, horganization, heffect⟩

/-- The Relation has the status and the endpoints that it had. -/
structure Relation.StandsAs (row after : Relation) : Prop where
  relationId : after.relationId = row.relationId
  state : after.state = row.state
  leftFieldId : after.leftFieldId = row.leftFieldId
  rightFieldId : after.rightFieldId = row.rightFieldId
  leftIdentity : after.leftIdentity = row.leftIdentity
  rightIdentity : after.rightIdentity = row.rightIdentity

/-- The latest version of the source is the one from before, and so are the status and the
endpoints of every Relation. -/
structure LeavesNoTrace (source : DataSource) (before after : CatalogStore) : Prop where
  latest : after.latestVersion source.dataSourceId source.organizationId =
    before.latestVersion source.dataSourceId source.organizationId
  relations : ∀ row ∈ before.relations, ∃ same ∈ after.relations, row.StandsAs same

def CatalogVersion.NewestOf (version : CatalogVersion) (source : DataSource)
    (store : CatalogStore) : Prop :=
  ∀ latest ∈ store.latestVersion source.dataSourceId source.organizationId,
    latest.createdAt < version.createdAt

/-- Nothing that the execution writes shows: it ends before its version, the version is
refused, or the version is not the newest and has both fields of every confirmed
Relation. -/
def Untraced (env : HarvestEnvironment) (source : DataSource) (harvesting : Harvesting) :
    Prop :=
  ∀ version prepared, (prepare env source).call harvesting = (.ok version, prepared) →
    version.catalogVersionId ∈ harvesting.store.versions.map (·.catalogVersionId) ∨
      (¬ version.NewestOf source harvesting.store ∧
        ∀ row ∈ harvesting.store.listForSource source.dataSourceId source.organizationId,
          row.state = .confirmed → version.HasBoth row)

/-- **The latest version after an insertion.** -/
theorem latestVersion_append (hversions : after.versions = before.versions ++ [version])
    (hadds : AddsVersion source before version) :
    after.latestVersion source.dataSourceId source.organizationId =
      match before.latestVersion source.dataSourceId source.organizationId with
      | some latest =>
          if version.createdAt ≤ latest.createdAt then some latest else some version
      | none => some version := by
  have hselect : ∀ rows : List CatalogVersion, select
      (fun version => version.dataSourceId = source.dataSourceId ∧
        version.organizationId = source.organizationId) (rows ++ [version]) =
      select (fun version => version.dataSourceId = source.dataSourceId ∧
        version.organizationId = source.organizationId) rows ++ [version] := by
    intro rows
    unfold select
    rw [List.filter_append, List.filter_cons_of_pos]
    · rfl
    · simp [hadds.dataSourceId, hadds.organizationId]
  unfold CatalogStore.latestVersion
  rw [hversions, hselect, head?_orderedBy_append]
  simp only [neg_le_neg_iff]
  split
  next latest hlatest => rw [hlatest]
  next hnone => rw [hnone]

/-- **The new version is the latest one exactly if it is the newest.** -/
theorem latestVersion_kept_iff (hversions : after.versions = before.versions ++ [version])
    (hadds : AddsVersion source before version) :
    after.latestVersion source.dataSourceId source.organizationId =
        before.latestVersion source.dataSourceId source.organizationId ↔
      ¬ version.NewestOf source before := by
  rw [latestVersion_append hversions hadds]
  unfold CatalogVersion.NewestOf
  cases hlatest : before.latestVersion source.dataSourceId source.organizationId with
  | none => simp
  | some latest =>
      have hdistinct : version ≠ latest := by
        intro hsame
        subst hsame
        exact hadds.fresh (List.mem_map_of_mem (CatalogStore.latestVersion_mem hlatest).1)
      by_cases hle : version.createdAt ≤ latest.createdAt
      · simp [hle]
      · simp [hle, hdistinct, lt_of_not_ge hle]

theorem standsAs_refl (row : Relation) : row.StandsAs row := ⟨rfl, rfl, rfl, rfl, rfl, rfl⟩

theorem noTrace_refl : LeavesNoTrace source before before :=
  ⟨rfl, fun row hrow => ⟨row, hrow, standsAs_refl row⟩⟩

theorem settled_of_hasBoth
    (h : ∀ row ∈ before.listForSource source.dataSourceId source.organizationId,
      row.state = .confirmed → version.HasBoth row) (hrow : row ∈ before.relations) :
    row.settled source version now = row := by
  rcases settled_cases source version now row with hsame | ⟨hlisted, reason, hreason, -⟩
  · exact hsame
  · have hmem : row ∈ before.listForSource source.dataSourceId source.organizationId :=
      CatalogStore.mem_listForSource.2 ⟨hrow, hlisted.1, hlisted.2.1⟩
    rw [reasonIn_eq_none.2 (h row hmem hlisted.2.2)] at hreason
    cases hreason

/-- **Nothing shows of what does not show**, also when the database fails. -/
theorem noTrace_of_untraced
    (h : (executeHarvest env source peerCatalogs).call harvesting = (.ok none, done))
    (huntraced : Untraced env source harvesting) :
    LeavesNoTrace source harvesting.store done.store := by
  rcases executeHarvest_none h with
    ⟨hstore, -⟩ | ⟨version, prepared, hprepare, -, -, heffect⟩
  · rw [hstore]
    exact noTrace_refl
  · have hcases := huntraced version prepared hprepare
    generalize hafter : done.store = after at heffect ⊢
    cases heffect with
    | refused _ => exact noTrace_refl
    | faulted _ => exact noTrace_refl
    | interrupted _ hadds hversions hrelations =>
        obtain ⟨hold, hboth⟩ := hcases.resolve_left hadds.fresh
        obtain ⟨settle, hsettle, hrows⟩ := hrelations
        refine ⟨(latestVersion_kept_iff hversions hadds).2 hold, fun row hrow => ?_⟩
        have hkept : settle row = row := by
          rcases hrows row hrow with hsame | hsame
          · exact hsame
          · exact hsame.trans (settled_of_hasBoth hboth hrow)
        refine ⟨row, ?_, standsAs_refl row⟩
        rw [hsettle]
        exact List.mem_map.2 ⟨row, hrow, hkept⟩
    | harvested hharvested =>
        obtain ⟨hold, hboth⟩ := hcases.resolve_left hharvested.adds.fresh
        obtain ⟨proposals, hrelations, -⟩ := hharvested.relations
        refine ⟨(latestVersion_kept_iff hharvested.versions hharvested.adds).2 hold,
          fun row hrow => ⟨row, ?_, standsAs_refl row⟩⟩
        rw [hrelations]
        exact List.mem_append_left _
          (List.mem_map.2 ⟨row, hrow, settled_of_hasBoth hboth hrow⟩)

/-- A confirmed Relation of the source that stands has both of its fields in the
version. -/
theorem hasBoth_of_standsAs
    (hharvested : Harvested env source peerCatalogs before version now after)
    (hrow : row ∈ before.listForSource source.dataSourceId source.organizationId)
    (hconfirmed : row.state = .confirmed)
    (hstands : ∃ same ∈ after.relations, row.StandsAs same) : version.HasBoth row := by
  obtain ⟨same, hsame, hstandsAs⟩ := hstands
  obtain ⟨proposals, hrelations, -⟩ := hharvested.relations
  have hmem := (CatalogStore.mem_listForSource.1 hrow).1
  have hsettled : row.settled source version now ∈ after.relations := by
    rw [hrelations]
    exact List.mem_append_left _ (List.mem_map_of_mem hmem)
  have hequal : row.settled source version now = same := by
    refine CatalogStore.eq_of_relationId hsettled hsame ?_
    exact (settled_relationId row).trans hstandsAs.relationId.symm
  by_contra hboth
  cases hreason : row.reasonIn version with
  | none => exact hboth (reasonIn_eq_none.1 hreason)
  | some reason =>
      have hstate := hstandsAs.state
      rw [← hequal, settled_of_reason hrow hconfirmed hreason, hconfirmed] at hstate
      cases hstate

/-- **Failed harvests.**  An execution that returns nothing leaves no trace exactly if
nothing that it writes shows. -/
theorem no_trace_iff (env : HarvestEnvironment) (source : DataSource)
    (peerCatalogs : List (UUID × CatalogVersion)) (harvesting done : Harvesting)
    (hfaults : ∀ moment, env.faults moment = none)
    (h : (executeHarvest env source peerCatalogs).call harvesting = (.ok none, done)) :
    LeavesNoTrace source harvesting.store done.store ↔ Untraced env source harvesting := by
  refine ⟨?_, noTrace_of_untraced h⟩
  intro hnoTrace version prepared hprepare
  have hconnected : ¬ env.Faulty := fun ⟨moment, hfault⟩ => hfault (hfaults moment)
  rcases executeHarvest_none h with
    ⟨-, e, raised, hraised⟩ | ⟨other, prepared', hprepare', -, -, heffect⟩
  · rw [hprepare] at hraised
    cases hraised
  · rw [hprepare] at hprepare'
    cases hprepare'
    generalize done.store = after at heffect hnoTrace
    cases heffect with
    | refused htaken => exact .inl htaken
    | faulted hfaulty => exact absurd hfaulty hconnected
    | interrupted hfaulty => exact absurd hfaulty hconnected
    | harvested hharvested =>
        refine .inr ⟨?_, fun row hrow hconfirmed => ?_⟩
        · exact (latestVersion_kept_iff hharvested.versions hharvested.adds).1 hnoTrace.latest
        · refine hasBoth_of_standsAs hharvested hrow hconfirmed ?_
          exact hnoTrace.relations row (CatalogStore.mem_listForSource.1 hrow).1

/-- The shop without its customers; the harvest is cancelled at a moment. -/
def shrunkEnvironment (cancelledAt : Nat) : HarvestEnvironment where
  connector := { shopConnector with
    listTables := fun _ => .ok [{ name := "orders", database := "shop" }] }
  rules := shopEnvironment.rules
  now := shopEnvironment.now
  uuid4 := shopEnvironment.uuid4
  cancels moment := cancelledAt ≤ moment
  faults _ := none

/-- A new run over the shop, and its row. -/
def shrunkHarvesting : Harvesting where
  store := shopStore
  harvestRuns := [shopHarvesting.run]
  run := shopHarvesting.run

theorem shrunk_cancelled (cancelledAt : Nat)
    (h : ((executeHarvest (shrunkEnvironment cancelledAt) shop []).call
      shrunkHarvesting).1 = .ok none) :
    ∃ done, (executeHarvest (shrunkEnvironment cancelledAt) shop []).call shrunkHarvesting =
      (.ok none, done) :=
  ⟨_, Prod.ext h rfl⟩

/-- The harvest is cancelled while it describes the tables. -/
theorem no_trace_iff_shrunk :
    ∃ done, (executeHarvest (shrunkEnvironment 9) shop []).call shrunkHarvesting =
        (.ok none, done) ∧
      (LeavesNoTrace shop shrunkHarvesting.store done.store ↔
        Untraced (shrunkEnvironment 9) shop shrunkHarvesting) := by
  obtain ⟨done, hcall⟩ := shrunk_cancelled 9 (by decide +kernel)
  exact ⟨done, hcall, no_trace_iff _ shop [] shrunkHarvesting done (fun _ => rfl) hcall⟩

/-- **A harvest that is cancelled after its version is written** returns nothing; its version
is the latest, and the confirmed Relation is stale. -/
theorem cancelled_leaves_version :
    ∃ done, (executeHarvest (shrunkEnvironment 24) shop []).call shrunkHarvesting =
        (.ok none, done) ∧
      (∃ latest ∈ done.store.latestVersion 1 1, latest.catalogVersionId ≠ 10) ∧
      (∃ row ∈ done.store.relations, row.relationId = 30 ∧ row.state = .stale) ∧
      ¬ LeavesNoTrace shop shrunkHarvesting.store done.store := by
  obtain ⟨done, hcall⟩ := shrunk_cancelled 24 (by decide +kernel)
  have hdone : done = ((executeHarvest (shrunkEnvironment 24) shop []).call
    shrunkHarvesting).2 := by rw [hcall]
  have hlatest : ∃ latest ∈ done.store.latestVersion 1 1, latest.catalogVersionId ≠ 10 := by
    rw [hdone]
    decide +kernel
  have hstale : ∃ row ∈ done.store.relations, row.relationId = 30 ∧ row.state = .stale := by
    rw [hdone]
    decide +kernel
  refine ⟨done, hcall, hlatest, hstale, fun hnoTrace => ?_⟩
  obtain ⟨latest, hmem, hnew⟩ := hlatest
  have hkept : done.store.latestVersion 1 1 = shopStore.latestVersion 1 1 := hnoTrace.latest
  rw [hkept] at hmem
  revert hnew
  revert latest
  decide

end Connector

end Zentra
