import Zentra.HarvestFrame

/-!
# What a harvest does to the catalog

However an execution ends, it has left the catalog alone, or added a version and settled
some of the Relations of the source, or settled all of them and added proposals.

* `executeHarvest_effect` — every execution, however it ends;
* `executeHarvest_completes` — an execution that returns a version.
-/

open Raising Raising.Method TableRows

namespace Zentra

namespace Connector

variable {env : HarvestEnvironment}

/-- The database fails at some moment. -/
def HarvestEnvironment.Faulty (env : HarvestEnvironment) : Prop :=
  ∃ moment, env.faults moment ≠ none

/-- What reconciling the Relations of the source with the version does to a row: a
confirmed Relation of the source that has a reason to go stale does. -/
def Relation.settled (source : DataSource) (version : CatalogVersion) (now : Int)
    (row : Relation) : Relation :=
  if row.organizationId = source.organizationId ∧ row.Touches source.dataSourceId ∧
      row.state = .confirmed then
    match row.reasonIn version with
    | some reason => row.staleFor reason now
    | none => row
  else
    row

section Settling

variable {source : DataSource} {version : CatalogVersion} {now : Int}
  {store : CatalogStore} {row : Relation} {outcome : ReconciliationOutcome}
  {newFieldIds : List (FieldIdentity × UUID)}

theorem settled_of_reason {reason : StaleReason}
    (hrow : row ∈ store.listForSource source.dataSourceId source.organizationId)
    (hconfirmed : row.state = .confirmed) (hreason : row.reasonIn version = some reason) :
    row.settled source version now = row.staleFor reason now := by
  obtain ⟨-, horganization, htouches⟩ := CatalogStore.mem_listForSource.1 hrow
  unfold Relation.settled
  rw [if_pos ⟨horganization, htouches, hconfirmed⟩, hreason]

theorem settled_of_no_reason (hreason : row.reasonIn version = none) :
    row.settled source version now = row := by
  unfold Relation.settled
  rw [hreason]
  exact ite_self _

/-- A row that is settled differently was reconciled and has a reason to go stale. -/
theorem settled_cases (source : DataSource) (version : CatalogVersion) (now : Int)
    (row : Relation) :
    row.settled source version now = row ∨
      ((row.organizationId = source.organizationId ∧ row.Touches source.dataSourceId ∧
          row.state = .confirmed) ∧
        ∃ reason, row.reasonIn version = some reason ∧
          row.settled source version now = row.staleFor reason now) := by
  unfold Relation.settled
  split
  next hlisted =>
      cases hreason : row.reasonIn version with
      | none => exact .inl rfl
      | some reason => exact .inr ⟨hlisted, reason, rfl, rfl⟩
  next => exact .inl rfl

/-- **A row after the saves of a reconciliation** is as it was or settled. -/
theorem savedRow_of_reconciles {saved : List Relation}
    (h : Reconciles version version.catalogVersionId now newFieldIds
      (store.listForSource source.dataSourceId source.organizationId) outcome)
    (hsaved : saved ⊆ outcome.carriedForward ++ outcome.staled)
    (hrow : row ∈ store.relations) :
    CatalogStore.savedRow saved row = row.settled source version now ∨
      (CatalogStore.savedRow saved row = row ∧
        ¬ outcome.carriedForward ++ outcome.staled ⊆ saved) := by
  -- a Relation of the outcome that is saved to the row was made of the row itself
  have hsame : ∀ relation ∈ store.listForSource source.dataSourceId source.organizationId,
      relation.relationId = row.relationId → relation = row := by
    intro relation hrelation hid
    exact CatalogStore.eq_of_relationId (CatalogStore.mem_listForSource.1 hrelation).1
      hrow hid
  rcases CatalogStore.savedRow_cases saved row with ⟨hnone, hsavedRow⟩ | hsome
  · rw [hsavedRow]
    rcases settled_cases source version now row with
      hsettled | ⟨hlisted, reason, hreason, -⟩
    · exact .inl hsettled.symm
    · refine .inr ⟨rfl, ?_⟩
      intro hall
      have hmem : row ∈ store.listForSource source.dataSourceId source.organizationId :=
        CatalogStore.mem_listForSource.2 ⟨hrow, hlisted.1, hlisted.2.1⟩
      have hstaled := (h.staled _).2 ⟨row, hmem, hlisted.2.2, reason, hreason, rfl⟩
      exact hnone _ (hall (List.mem_append_right _ hstaled)) ⟨rfl, rfl⟩
  · obtain ⟨relation, hrelation, hto, hsavedRow⟩ := hsome
    rw [hsavedRow]
    left
    rcases List.mem_append.1 (hsaved hrelation) with hcarried | hstaled
    · obtain ⟨previous, hprevious, -, hreason, rfl⟩ := (h.carried _).1 hcarried
      obtain rfl := hsame previous hprevious hto.1.symm
      rw [settled_of_no_reason hreason]
      rfl
    · obtain ⟨previous, hprevious, hconfirmed, reason, hreason, rfl⟩ :=
        (h.staled _).1 hstaled
      obtain rfl := hsame previous hprevious hto.1.symm
      rw [settled_of_reason hprevious hconfirmed hreason]
      rfl

/-- The rows after some of the saves. -/
structure PartlySettled (source : DataSource) (version : CatalogVersion) (now : Int)
    (store after : CatalogStore) : Prop where
  versions : after.versions = store.versions
  relations : ∃ settle : Relation → Relation, after.relations = store.relations.map settle ∧
    ∀ row ∈ store.relations,
      settle row = row ∨ settle row = row.settled source version now

/-- A connection that fails is a failure of the database. -/
theorem connect_triple :
    Triple (fun h => h.store = store) (connect env) (fun _ h => h.store = store)
      fun _ h => h.store = store ∧ env.Faulty := by
  have htick : Triple (fun h => h.store = store) tick (fun _ h => h.store = store)
      fun _ h => h.store = store ∧ env.Faulty := fun _ hs => hs
  apply htick.bind
  intro moment
  cases hfault : env.faults moment with
  | some message => exact triple_raise fun _ hstore => ⟨hstore, moment, by simp [hfault]⟩
  | none => exact triple_pure fun _ hstore => hstore

theorem write_triple (change : CatalogStore → Except String CatalogStore) :
    Triple (fun h => h.store = store) (write env change)
      (fun _ h => change store = .ok h.store)
      fun _ h => h.store = store ∧ (env.Faulty ∨ ∃ message, change store = .error message) := by
  have hconnect : Triple (fun h => h.store = store) (connect env) (fun _ h => h.store = store)
      (fun _ h => h.store = store ∧
        (env.Faulty ∨ ∃ message, change store = .error message)) :=
    connect_triple.conseq (fun _ h => h) (fun _ _ h => h) fun _ _ h => ⟨h.1, .inl h.2⟩
  apply hconnect.bind
  intro _
  apply triple_self_bind
  intro harvesting hstore
  rw [hstore]
  cases hchange : change store with
  | ok after =>
      apply triple_assign
      intro s _
      rfl
  | error message =>
      apply triple_raise
      intro s hs
      rw [hs, hstore]
      exact ⟨rfl, .inr ⟨message, rfl⟩⟩

theorem saveEach_triple (store : CatalogStore) (relations : List Relation) :
    Triple (fun h => h.store = store) (saveEach env relations)
      (fun _ h => h.store = store.saveAll relations)
      fun _ h => (∃ saved, saved ⊆ relations ∧ h.store = store.saveAll saved) ∧
        env.Faulty := by
  induction relations generalizing store with
  | nil =>
      apply triple_pure
      intro s hs
      exact hs
  | cons relation rest ih =>
      have hfirst : Triple (fun h => h.store = store)
          (write env fun store => .ok (store.save relation))
          (fun _ h => h.store = store.save relation)
          (fun _ h => (∃ saved, saved ⊆ relation :: rest ∧
            h.store = store.saveAll saved) ∧ env.Faulty) := by
        apply (write_triple _).conseq (fun _ hs => hs)
        · intro _ s hs
          exact (Except.ok.inj hs).symm
        · intro _ s hs
          obtain ⟨hstore, hfaulty | ⟨message, hmessage⟩⟩ := hs
          · exact ⟨⟨[], List.nil_subset _, hstore⟩, hfaulty⟩
          · cases hmessage
      apply hfirst.bind
      intro _
      apply (ih _).conseq (fun _ hs => hs) (fun _ _ hs => hs)
      intro _ s hs
      obtain ⟨⟨saved, hsaved, hs⟩, hfaulty⟩ := hs
      exact ⟨⟨relation :: saved, List.cons_subset_cons relation hsaved, hs⟩, hfaulty⟩

theorem partlySettled_of_saved {saved : List Relation} {after : CatalogStore}
    (h : Reconciles version version.catalogVersionId now newFieldIds
      (store.listForSource source.dataSourceId source.organizationId) outcome)
    (hsaved : saved ⊆ outcome.carriedForward ++ outcome.staled)
    (hafter : after = store.saveAll saved) :
    PartlySettled source version now store after := by
  subst hafter
  refine ⟨CatalogStore.saveAll_versions, CatalogStore.savedRow saved,
    CatalogStore.saveAll_relations, ?_⟩
  intro row hrow
  rcases savedRow_of_reconciles h hsaved hrow with hsettled | ⟨hsame, -⟩
  · exact .inr hsettled
  · exact .inl hsame

theorem partlySettled_refl : PartlySettled source version now store store :=
  ⟨rfl, id, (List.map_id _).symm, fun _ _ => .inl rfl⟩

theorem settled_of_not_listed
    (h : store.listForSource source.dataSourceId source.organizationId = [])
    (hrow : row ∈ store.relations) : row.settled source version now = row := by
  rcases settled_cases source version now row with hsettled | ⟨hlisted, -⟩
  · exact hsettled
  · have hmem : row ∈ store.listForSource source.dataSourceId source.organizationId :=
      CatalogStore.mem_listForSource.2 ⟨hrow, hlisted.1, hlisted.2.1⟩
    rw [h] at hmem
    cases hmem

/-- **Reconciling**, if it gets to its end, settles every row; it returns the pairs of the
rejected Relations of the source. -/
theorem reconcilePrevious_triple :
    Triple (fun h => h.store = store) (reconcilePrevious env source version now)
      (fun suppressed h => h.store.versions = store.versions ∧
        h.store.relations = store.relations.map (·.settled source version now) ∧
        ∀ pair, pair ∈ suppressed ↔
          ∃ row ∈ store.listForSource source.dataSourceId source.organizationId,
            row.state = .rejected ∧ row.pinnedIdentities = pair)
      fun _ h => PartlySettled source version now store h.store ∧ env.Faulty := by
  have hconnect : Triple (fun h => h.store = store) (connect env) (fun _ h => h.store = store)
      (fun _ h => PartlySettled source version now store h.store ∧ env.Faulty) :=
    connect_triple.conseq (fun _ h => h) (fun _ _ h => h) fun _ _ h =>
      ⟨h.1 ▸ partlySettled_refl, h.2⟩
  apply hconnect.bind
  intro _
  apply triple_self_bind
  intro harvesting hstore
  simp only [hstore]
  split
  next hnone =>
      apply triple_pure
      intro s hs
      rw [hs, hstore]
      have hsettled : store.relations.map (·.settled source version now) =
          store.relations :=
        (List.map_congr_left fun row hrow => settled_of_not_listed hnone hrow).trans
          (List.map_id _)
      exact ⟨rfl, hsettled.symm, by simp [hnone]⟩
  next =>
      obtain ⟨outcome, hreconcile, houtcome⟩ := reconcile_returns version
        version.catalogVersionId now
        (version.fieldIndex.map fun entry => (entry.1, entry.2.fieldId))
        (store.listForSource source.dataSourceId source.organizationId)
      rw [hreconcile]
      have hsaves : Triple (fun h => h = harvesting)
          (saveEach env (outcome.carriedForward ++ outcome.staled))
          (fun _ h => h.store =
            store.saveAll (outcome.carriedForward ++ outcome.staled))
          (fun _ h => PartlySettled source version now store h.store ∧ env.Faulty) := by
        apply (saveEach_triple store _).conseq
        · intro s hs
          rw [hs]
          exact hstore
        · exact fun _ _ hs => hs
        · intro _ s hs
          obtain ⟨⟨saved, hsaved, hs⟩, hfaulty⟩ := hs
          exact ⟨partlySettled_of_saved houtcome hsaved hs, hfaulty⟩
      apply hsaves.bind
      intro _
      apply triple_pure
      intro s hs
      rw [hs]
      refine ⟨CatalogStore.saveAll_versions, ?_, houtcome.suppressed⟩
      rw [CatalogStore.saveAll_relations]
      apply List.map_congr_left
      intro row hrow
      rcases savedRow_of_reconciles houtcome (List.Subset.refl _) hrow with
        hsettled | ⟨-, hmissing⟩
      · exact hsettled
      · exact absurd (List.Subset.refl _) hmissing

end Settling

def Relation.ProposedFor (relation : Relation) (version : CatalogVersion)
    (candidate : CandidatePair) : Prop :=
  ∃ scored : ScoredCandidate, ∃ relationId now,
    relation = scored.proposal candidate relationId version now

/-- What a loop over candidates has found. -/
def Inferred (version : CatalogVersion) (passedOver : Finset (Sym2 FieldIdentity))
    (candidates : List CandidatePair) (found : List Relation) : Prop :=
  ∀ relation ∈ found, ∃ candidate ∈ candidates, candidate.pair ∉ passedOver ∧
    relation.ProposedFor version candidate

section Proposing

variable {version : CatalogVersion} {passedOver : Finset (Sym2 FieldIdentity)}
  {store : CatalogStore}

/-- **Where a proposal comes from**: a candidate whose pair is not passed over. -/
theorem inferEach_proposes (store : CatalogStore) {all : List CandidatePair}
    (candidates : List CandidatePair) (proposals : List Relation) (hall : candidates ⊆ all)
    (hproposals : Inferred version passedOver all proposals) :
    Triple (fun h => h.store = store)
      (inferEach env version passedOver candidates proposals)
      (fun found h => h.store = store ∧ Inferred version passedOver all found)
      fun _ h => h.store = store := by
  induction candidates generalizing proposals with
  | nil =>
      apply triple_pure
      intro s hs
      exact ⟨hs, hproposals⟩
  | cons candidate rest ih =>
      have hrest : rest ⊆ all := fun c hc => hall (List.mem_cons_of_mem _ hc)
      refine keeps_checkpoint.bind_triple (fun _ _ hs => hs) fun _ => ?_
      refine keeps_self.bind_triple (fun _ _ hs => hs) fun harvesting => ?_
      split
      · apply triple_pure
        intro s hs
        exact ⟨hs, hproposals⟩
      · split
        · exact ih proposals hrest hproposals
        next hpair =>
            refine Keeps.bind_triple (keeps_assign fun _ => rfl) (fun _ _ hs => hs) fun _ => ?_
            split
            · exact ih proposals hrest hproposals
            next overlap _ =>
                refine Keeps.bind_triple (keeps_assign fun _ => rfl) (fun _ _ hs => hs)
                  fun _ => ?_
                split
                · exact ih proposals hrest hproposals
                next scored _ =>
                    refine keeps_newId.bind_triple (fun _ _ hs => hs) fun relationId => ?_
                    refine keeps_clockNow.bind_triple (fun _ _ hs => hs) fun now => ?_
                    apply ih _ hrest
                    intro relation hrelation
                    rcases List.mem_append.1 hrelation with hold | hnew
                    · exact hproposals relation hold
                    · rw [List.mem_singleton.1 hnew]
                      exact ⟨candidate, hall List.mem_cons_self, hpair, scored, relationId,
                        now, rfl⟩

/-- Nothing but proposals is added, each for a candidate that is not passed over. -/
structure Proposes (candidates : List CandidatePair) (version : CatalogVersion)
    (passedOver : Finset (Sym2 FieldIdentity)) (before after : CatalogStore) : Prop where
  versions : after.versions = before.versions
  relations : ∃ proposals, after.relations = before.relations ++ proposals ∧
    Inferred version passedOver candidates proposals

theorem proposes_nothing {candidates : List CandidatePair} :
    Proposes candidates version passedOver store store := by
  refine ⟨rfl, [], (List.append_nil _).symm, ?_⟩
  intro relation hrelation
  cases hrelation

theorem addProposals_triple {candidates : List CandidatePair} {proposals : List Relation}
    (h : Inferred version passedOver candidates proposals) :
    Triple (fun h => h.store = store) (addProposals env proposals)
      (fun _ h => Proposes candidates version passedOver store h.store)
      fun _ h => Proposes candidates version passedOver store h.store := by
  unfold addProposals
  split
  · apply triple_pure
    intro s hs
    rw [hs]
    exact proposes_nothing
  · apply (write_triple _).conseq (fun _ hs => hs)
    · intro _ s hs
      obtain ⟨hversions, hrelations⟩ := CatalogStore.addMany_returns hs
      exact ⟨hversions, proposals, hrelations, h⟩
    · intro _ s hs
      rw [hs.1]
      exact proposes_nothing

/-- **Inference**, however it ends. -/
theorem inferRelations_triple {source : DataSource}
    {peerCatalogs : List (UUID × CatalogVersion)}
    {suppressed : Finset (Sym2 FieldIdentity)} {candidates : List CandidatePair}
    (hcandidates : candidates = (generateCandidates env.rules
      ((source.dataSourceId, version) :: peerCatalogs)).1)
    (hpassedOver : passedOver = suppressed ∪ carriedPairs
      (store.listForSource source.dataSourceId source.organizationId)) :
    Triple (fun h => h.store = store)
      (inferRelations env source version peerCatalogs suppressed)
      (fun _ h => Proposes candidates version passedOver store h.store)
      fun _ h => Proposes candidates version passedOver store h.store := by
  have hunchanged : ∀ h : Harvesting, h.store = store →
      Proposes candidates version passedOver store h.store :=
    fun h hs => hs ▸ proposes_nothing
  refine (keeps_advance _).bind_triple (fun _ => hunchanged) fun _ => ?_
  refine Keeps.bind_triple (keeps_assign fun _ => rfl) (fun _ => hunchanged) fun _ => ?_
  refine keeps_connect.bind_triple (fun _ => hunchanged) fun _ => ?_
  apply triple_self_bind
  intro harvesting hstore
  simp only [hstore]
  rw [← hcandidates, ← hpassedOver]
  have hloop : Triple (fun h => h = harvesting)
      (inferEach env version passedOver candidates [])
      (fun found h => h.store = store ∧ Inferred version passedOver candidates found)
      (fun _ h => Proposes candidates version passedOver store h.store) := by
    apply (inferEach_proposes store candidates [] (List.Subset.refl _) _).conseq
    · intro s hs
      rw [hs]
      exact hstore
    · exact fun _ _ hs => hs
    · exact fun _ => hunchanged
    · intro relation hrelation
      cases hrelation
  apply hloop.bind
  intro found
  apply Triple.of_each
  intro s hfound
  have hordered : Inferred version passedOver candidates
      (orderedBy (fun relation : Relation => -relation.confidence) found) :=
    fun relation hrelation => hfound.2 relation (mem_orderedBy.1 hrelation)
  have hadded : Triple (fun t => t = s)
      (addProposals env (orderedBy (fun relation => -relation.confidence) found))
      (fun _ h => Proposes candidates version passedOver store h.store)
      (fun _ h => Proposes candidates version passedOver store h.store) :=
    (addProposals_triple hordered).conseq (fun _ ht => ht ▸ hfound.1) (fun _ _ h => h)
      fun _ _ h => h
  apply hadded.bind
  intro _
  have hrest : Keeps Harvesting.store (do
      assign fun harvesting : Harvesting => harvesting.withRun
        { harvesting.run with
          relationsProposed :=
            (orderedBy (fun relation : Relation => -relation.confidence) found).length }
      saveRun env) :=
    keeps_assign_bind (fun _ => rfl) keeps_saveRun
  exact hrest.preserves (Proposes candidates version passedOver store)

end Proposing

/-- The candidates of a harvest of the source that has read the version. -/
def HarvestEnvironment.candidates (env : HarvestEnvironment) (source : DataSource)
    (version : CatalogVersion) (peerCatalogs : List (UUID × CatalogVersion)) :
    List CandidatePair :=
  (generateCandidates env.rules ((source.dataSourceId, version) :: peerCatalogs)).1

/-- A harvest of the source passes the pair over: a Relation that touches the source has
it and is more than proposed. -/
def CatalogStore.PassesOver (store : CatalogStore) (source : DataSource)
    (pair : Sym2 FieldIdentity) : Prop :=
  ∃ row ∈ store.listForSource source.dataSourceId source.organizationId,
    row.state ≠ .proposed ∧ row.pinnedIdentities = pair

instance (store : CatalogStore) (source : DataSource) :
    DecidablePred (store.PassesOver source) := fun _ =>
  inferInstanceAs (Decidable (∃ _ ∈ _, _ ∧ _))

/-- The version is new, and of the source. -/
structure AddsVersion (source : DataSource) (before : CatalogStore)
    (version : CatalogVersion) : Prop where
  fresh : version.catalogVersionId ∉ before.versions.map (·.catalogVersionId)
  dataSourceId : version.dataSourceId = source.dataSourceId
  organizationId : version.organizationId = source.organizationId

/-- The catalog after a harvest that got as far as its proposals. -/
structure Harvested (env : HarvestEnvironment) (source : DataSource)
    (peerCatalogs : List (UUID × CatalogVersion)) (before : CatalogStore)
    (version : CatalogVersion) (now : Int) (after : CatalogStore) : Prop where
  adds : AddsVersion source before version
  versions : after.versions = before.versions ++ [version]
  relations : ∃ proposals,
    after.relations = before.relations.map (·.settled source version now) ++ proposals ∧
      ∀ relation ∈ proposals, ∃ candidate ∈ env.candidates source version peerCatalogs,
        ¬ before.PassesOver source candidate.pair ∧
          relation.ProposedFor version candidate

/-- The catalog after a harvest, however it ended. -/
inductive HarvestEffect (env : HarvestEnvironment) (source : DataSource)
    (peerCatalogs : List (UUID × CatalogVersion)) (before : CatalogStore) :
    CatalogStore → Prop
  | unchanged : HarvestEffect env source peerCatalogs before before
  | interrupted {version : CatalogVersion} {now : Int} {after : CatalogStore}
      (adds : AddsVersion source before version)
      (versions : after.versions = before.versions ++ [version])
      (relations : ∃ settle : Relation → Relation,
        after.relations = before.relations.map settle ∧ ∀ row ∈ before.relations,
          settle row = row ∨ settle row = row.settled source version now) :
      HarvestEffect env source peerCatalogs before after
  | harvested {version : CatalogVersion} {now : Int} {after : CatalogStore}
      (h : Harvested env source peerCatalogs before version now after) :
      HarvestEffect env source peerCatalogs before after

/-- The catalog after a version was to be written, however the execution went on. -/
inductive RecordEffect (env : HarvestEnvironment) (source : DataSource)
    (peerCatalogs : List (UUID × CatalogVersion)) (before : CatalogStore)
    (version : CatalogVersion) : CatalogStore → Prop
  | refused (taken : version.catalogVersionId ∈ before.versions.map (·.catalogVersionId)) :
      RecordEffect env source peerCatalogs before version before
  | faulted (faulty : env.Faulty) :
      RecordEffect env source peerCatalogs before version before
  | interrupted {now : Int} {after : CatalogStore} (faulty : env.Faulty)
      (adds : AddsVersion source before version)
      (versions : after.versions = before.versions ++ [version])
      (relations : ∃ settle : Relation → Relation,
        after.relations = before.relations.map settle ∧ ∀ row ∈ before.relations,
          settle row = row ∨ settle row = row.settled source version now) :
      RecordEffect env source peerCatalogs before version after
  | harvested {now : Int} {after : CatalogStore}
      (h : Harvested env source peerCatalogs before version now after) :
      RecordEffect env source peerCatalogs before version after

section Whole

variable {source : DataSource} {peerCatalogs : List (UUID × CatalogVersion)}
  {before added settled after : CatalogStore} {version : CatalogVersion} {now : Int}
  {suppressed passedOver : Finset (Sym2 FieldIdentity)} {pair : Sym2 FieldIdentity}

/-- Settling changes neither what a row joins nor whether it is more than proposed. -/
theorem settled_state (source : DataSource) (version : CatalogVersion) (now : Int)
    (row : Relation) :
    (row.settled source version now).state = row.state ∨
      row.state = .confirmed ∧ (row.settled source version now).state = .stale := by
  rcases settled_cases source version now row with hsame | ⟨hlisted, reason, -, hstale⟩
  · rw [hsame]
    exact .inl rfl
  · rw [hstale]
    exact .inr ⟨hlisted.2.2, rfl⟩

theorem settled_withValues (row : Relation) :
    row.withValues (row.settled source version now) = row.settled source version now := by
  rcases settled_cases source version now row with hsame | ⟨-, reason, -, hstale⟩
  · rw [hsame]
    rfl
  · rw [hstale]
    rfl

theorem settled_relationId (row : Relation) :
    (row.settled source version now).relationId = row.relationId :=
  (congrArg Relation.relationId (settled_withValues row)).symm

theorem settled_pinnedIdentities (row : Relation) :
    (row.settled source version now).pinnedIdentities = row.pinnedIdentities :=
  (congrArg Relation.pinnedIdentities (settled_withValues row)).symm

theorem settled_listed {dataSourceId organizationId : UUID} (row : Relation) :
    ((row.settled source version now).organizationId = organizationId ∧
        (row.settled source version now).Touches dataSourceId) ↔
      row.organizationId = organizationId ∧ row.Touches dataSourceId := by
  rw [← settled_withValues row]
  exact Iff.rfl

theorem mem_carriedPairs {relations : List Relation} :
    pair ∈ carriedPairs relations ↔
      ∃ row ∈ relations, (row.state = .confirmed ∨ row.state = .stale) ∧
        row.pinnedIdentities = pair := by
  unfold carriedPairs
  simp [and_assoc]

/-- **The pairs that inference passes over**, by the rows before the harvest. -/
theorem mem_passedOver
    (hsuppressed : ∀ pair, pair ∈ suppressed ↔
      ∃ row ∈ before.listForSource source.dataSourceId source.organizationId,
        row.state = .rejected ∧ row.pinnedIdentities = pair)
    (hsettled : settled.relations = before.relations.map (·.settled source version now)) :
    pair ∈ suppressed ∪ carriedPairs
        (settled.listForSource source.dataSourceId source.organizationId) ↔
      before.PassesOver source pair := by
  constructor
  · intro h
    rcases Finset.mem_union.1 h with h | h
    · obtain ⟨row, hrow, hrejected, hpair⟩ := (hsuppressed pair).1 h
      refine ⟨row, hrow, ?_, hpair⟩
      rw [hrejected]
      decide
    · obtain ⟨after, hafter, hstate, hpair⟩ := mem_carriedPairs.1 h
      obtain ⟨hmem, hlisted⟩ := CatalogStore.mem_listForSource.1 hafter
      rw [hsettled] at hmem
      obtain ⟨row, hrow, rfl⟩ := List.mem_map.1 hmem
      refine ⟨row, CatalogStore.mem_listForSource.2 ⟨hrow, (settled_listed row).1 hlisted⟩,
        ?_, ?_⟩
      · intro hproposed
        rcases settled_state source version now row with hsame | ⟨hconfirmed, -⟩
        · rw [hsame, hproposed] at hstate
          simp at hstate
        · rw [hproposed] at hconfirmed
          cases hconfirmed
      · rw [← settled_pinnedIdentities row]
        exact hpair
  · intro h
    obtain ⟨row, hrow, hstate, hpair⟩ := h
    obtain ⟨hmem, hlisted⟩ := CatalogStore.mem_listForSource.1 hrow
    apply Finset.mem_union.2
    by_cases hrejected : row.state = .rejected
    · exact .inl ((hsuppressed pair).2 ⟨row, hrow, hrejected, hpair⟩)
    · right
      apply mem_carriedPairs.2
      refine ⟨row.settled source version now, CatalogStore.mem_listForSource.2
        ⟨?_, (settled_listed row).2 hlisted⟩, ?_, ?_⟩
      · rw [hsettled]
        exact List.mem_map_of_mem hmem
      · rcases settled_state source version now row with hsame | ⟨-, hstale⟩
        · rw [hsame]
          cases hcase : row.state with
          | proposed => exact absurd hcase hstate
          | confirmed => exact .inl rfl
          | rejected => exact absurd hcase hrejected
          | stale => exact .inr rfl
        · exact .inr hstale
      · rw [settled_pinnedIdentities row]
        exact hpair

theorem harvested_of_proposes (hadds : AddsVersion source before version)
    (hversions : settled.versions = before.versions ++ [version])
    (hsettled : settled.relations = before.relations.map (·.settled source version now))
    (hpassedOver : ∀ pair, pair ∈ passedOver ↔ before.PassesOver source pair)
    (h : Proposes (env.candidates source version peerCatalogs) version passedOver settled
      after) : Harvested env source peerCatalogs before version now after := by
  obtain ⟨proposals, hrelations, hinferred⟩ := h.relations
  refine ⟨hadds, h.versions.trans hversions, proposals, hrelations.trans (by rw [hsettled]),
    ?_⟩
  intro relation hrelation
  obtain ⟨candidate, hcandidate, hpair, hproposed⟩ := hinferred relation hrelation
  exact ⟨candidate, hcandidate, mt (hpassedOver _).2 hpair, hproposed⟩

theorem listForSource_of_relations {store other : CatalogStore}
    (h : other.relations = store.relations) (dataSourceId organizationId : UUID) :
    other.listForSource dataSourceId organizationId =
      store.listForSource dataSourceId organizationId := by
  unfold CatalogStore.listForSource
  rw [h]

theorem RecordEffect.effect
    (h : RecordEffect env source peerCatalogs before version after) :
    HarvestEffect env source peerCatalogs before after := by
  cases h with
  | refused _ => exact .unchanged
  | faulted _ => exact .unchanged
  | interrupted _ hadds hversions hrelations =>
      exact .interrupted hadds hversions hrelations
  | harvested hharvested => exact .harvested hharvested

theorem record_triple (hsource : version.dataSourceId = source.dataSourceId)
    (horganization : version.organizationId = source.organizationId) :
    Triple (fun h => h.store = before) (record env source peerCatalogs version)
      (fun result h => result = version ∧
        ∃ now, Harvested env source peerCatalogs before version now h.store)
      fun _ h => RecordEffect env source peerCatalogs before version h.store := by
  have hwrite : Triple (fun h => h.store = before)
      (write env fun store => store.addVersion version)
      (fun _ h => before.addVersion version = .ok h.store)
      (fun _ h => RecordEffect env source peerCatalogs before version h.store) := by
    apply (write_triple _).conseq (fun _ hs => hs) (fun _ _ hs => hs)
    intro _ s hs
    obtain ⟨hstore, hfaulty | ⟨message, hrefused⟩⟩ := hs
    · rw [hstore]
      exact .faulted hfaulty
    · rw [hstore]
      exact .refused (CatalogStore.addVersion_raises hrefused)
  apply hwrite.bind
  intro _
  apply Triple.of_each
  intro added hadded
  obtain ⟨hfresh, hversions, hrelations⟩ := CatalogStore.addVersion_returns hadded
  have hadds : AddsVersion source before version := ⟨hfresh, hsource, horganization⟩
  have hlist := listForSource_of_relations hrelations source.dataSourceId
    source.organizationId
  have hstart : Triple (fun t => t = added) (clockNow env)
      (fun _ t => t.store = added.store)
      (fun _ h => RecordEffect env source peerCatalogs before version h.store) :=
    fun t ht => ht ▸ rfl
  apply hstart.bind
  intro now
  have hinterrupted : ∀ h : Harvesting,
      PartlySettled source version now added.store h.store ∧ env.Faulty →
      RecordEffect env source peerCatalogs before version h.store := by
    intro h hs
    obtain ⟨hpartly, hfaulty⟩ := hs
    obtain ⟨settle, hsettle, hrows⟩ := hpartly.relations
    rw [hrelations] at hsettle hrows
    exact .interrupted hfaulty hadds (hpartly.versions.trans hversions)
      ⟨settle, hsettle, hrows⟩
  have hreconcile : Triple (fun t => t.store = added.store)
      (reconcilePrevious env source version now) _
      (fun _ h => RecordEffect env source peerCatalogs before version h.store) :=
    reconcilePrevious_triple.conseq (fun _ ht => ht) (fun _ _ ht => ht)
      fun _ => hinterrupted
  apply hreconcile.bind
  intro suppressed
  apply Triple.of_each
  intro reconciled hreconciled
  obtain ⟨hkept, hsettled, hsuppressed⟩ := hreconciled
  rw [hrelations] at hsettled
  rw [hlist] at hsuppressed
  have hpassedOver : ∀ pair, _ ↔ before.PassesOver source pair :=
    fun pair => mem_passedOver hsuppressed hsettled
  have hharvested : ∀ after, Proposes (env.candidates source version peerCatalogs) version
      _ reconciled.store after →
      Harvested env source peerCatalogs before version now after :=
    fun after h => harvested_of_proposes hadds (hkept.trans hversions) hsettled
      hpassedOver h
  have hinfer : Triple (fun t => t = reconciled)
      (inferRelations env source version peerCatalogs suppressed)
      (fun _ h => Harvested env source peerCatalogs before version now h.store)
      (fun _ h => RecordEffect env source peerCatalogs before version h.store) :=
    (inferRelations_triple rfl rfl).conseq (fun _ ht => ht ▸ rfl)
      (fun _ h => hharvested h.store) fun _ h hs => .harvested (hharvested h.store hs)
  apply hinfer.bind
  intro _
  -- nothing after inference touches the catalog
  have hend : ∀ h : Harvesting,
      Harvested env source peerCatalogs before version now h.store →
      RecordEffect env source peerCatalogs before version h.store :=
    fun _ hs => .harvested hs
  let good := Harvested env source peerCatalogs before version now
  refine keeps_checkpoint.bind_preserves good (fun _ => hend) fun _ => ?_
  refine keeps_clockNow.bind_preserves good (fun _ => hend) fun completedAt => ?_
  refine (keeps_onRun _).bind_preserves good (fun _ => hend) fun _ => ?_
  refine keeps_saveRun.bind_preserves good (fun _ => hend) fun _ => ?_
  apply triple_pure
  intro s hs
  exact ⟨rfl, now, hs⟩

theorem discover_triple :
    Triple (fun h => h.store = before) (discover env source peerCatalogs)
      (fun version h => ∃ now, Harvested env source peerCatalogs before version now h.store)
      fun _ h => HarvestEffect env source peerCatalogs before h.store := by
  have hunchanged : ∀ h : Harvesting, h.store = before →
      HarvestEffect env source peerCatalogs before h.store :=
    fun h hs => hs ▸ HarvestEffect.unchanged
  refine (keeps_advance _).bind_triple (fun _ => hunchanged) fun _ => ?_
  refine keeps_checkpoint.bind_triple (fun _ => hunchanged) fun _ => ?_
  refine keeps_describeTables.bind_triple (fun _ => hunchanged) fun described => ?_
  refine keeps_checkpoint.bind_triple (fun _ => hunchanged) fun _ => ?_
  refine (keeps_profileFields _ _).bind_triple (fun _ => hunchanged) fun tables => ?_
  refine keeps_checkpoint.bind_triple (fun _ => hunchanged) fun _ => ?_
  refine keeps_newId.bind_triple (fun _ => hunchanged) fun catalogVersionId => ?_
  refine keeps_clockNow.bind_triple (fun _ => hunchanged) fun createdAt => ?_
  refine keeps_self.bind_triple (fun _ => hunchanged) fun harvesting => ?_
  apply (record_triple rfl rfl).conseq (fun _ hs => hs)
  · intro version h hs
    obtain ⟨rfl, now, hharvested⟩ := hs
    exact ⟨now, hharvested⟩
  · exact fun _ _ hs => hs.effect

/-- The catalog after an execution that returned `result`. -/
def HarvestResult (env : HarvestEnvironment) (source : DataSource)
    (peerCatalogs : List (UUID × CatalogVersion)) (before : CatalogStore)
    (result : Option CatalogVersion) (after : CatalogStore) : Prop :=
  HarvestEffect env source peerCatalogs before after ∧
    ∀ version, result = some version →
      ∃ now, Harvested env source peerCatalogs before version now after

theorem executeHarvest_triple :
    Triple (fun h => h.store = before) (executeHarvest env source peerCatalogs)
      (fun result h => HarvestResult env source peerCatalogs before result h.store)
      fun _ h => HarvestEffect env source peerCatalogs before h.store := by
  have hbody : Triple (fun h => h.store = before) (do
        let version ← discover env source peerCatalogs
        return some version)
      (fun result h => HarvestResult env source peerCatalogs before result h.store)
      (fun _ h => HarvestEffect env source peerCatalogs before h.store) := by
    apply discover_triple.bind
    intro version
    apply triple_pure
    intro s hs
    obtain ⟨now, hharvested⟩ := hs
    refine ⟨.harvested hharvested, ?_⟩
    intro returned hreturned
    cases hreturned
    exact ⟨now, hharvested⟩
  apply hbody.catching
  intro e
  apply (giveUp_triple (HarvestEffect env source peerCatalogs before) e).conseq
    (fun _ hs => hs)
  · intro result s hs
    refine ⟨hs.2, ?_⟩
    intro version hversion
    rw [hs.1] at hversion
    cases hversion
  · exact fun _ _ hs => hs

/-- **A row that settling leaves as it is** is there after the harvest, however that
ended. -/
theorem HarvestEffect.row_kept {row : Relation}
    (h : HarvestEffect env source peerCatalogs before after) (hrow : row ∈ before.relations)
    (hsettled : ∀ version now, AddsVersion source before version →
      after.versions = before.versions ++ [version] →
      row.settled source version now = row) : row ∈ after.relations := by
  cases h with
  | unchanged => exact hrow
  | interrupted hadds hversions hrelations =>
      obtain ⟨settle, hsettle, hrows⟩ := hrelations
      rw [hsettle]
      refine List.mem_map.2 ⟨row, hrow, ?_⟩
      rcases hrows row hrow with hsame | hsame
      · exact hsame
      · exact hsame.trans (hsettled _ _ hadds hversions)
  | harvested hharvested =>
      obtain ⟨proposals, hrelations, -⟩ := hharvested.relations
      rw [hrelations]
      apply List.mem_append_left
      exact List.mem_map.2 ⟨row, hrow, hsettled _ _ hharvested.adds hharvested.versions⟩

/-- **A harvest, however it ends.** -/
theorem executeHarvest_effect (env : HarvestEnvironment) (source : DataSource)
    (peerCatalogs : List (UUID × CatalogVersion)) (harvesting : Harvesting) :
    HarvestEffect env source peerCatalogs harvesting.store
      ((executeHarvest env source peerCatalogs).after harvesting).store :=
  (executeHarvest_triple.conseq (fun _ hs => hs) (fun _ _ hs => hs.1)
    fun _ _ hs => hs).holds_after rfl

/-- **A harvest that completes.** -/
theorem executeHarvest_completes {harvesting after : Harvesting}
    (h : (executeHarvest env source peerCatalogs).call harvesting =
      (.ok (some version), after)) :
    ∃ now, Harvested env source peerCatalogs harvesting.store version now after.store :=
  (executeHarvest_triple.returns rfl h).2 version rfl

end Whole

end Connector

end Zentra
