import Zentra.JoinRelation

/-!
# What a re-harvest does to confirmed Relations

`reconcile` goes through the Relations of a source after a harvest.  A confirmed
Relation whose two fields are in the new version is carried forward and pointed at the
new fields; a confirmed Relation that misses one of them goes stale; a rejected one is
left alone, and its pair of identities is handed on as suppressed.

* `reasonIn_eq_none` — a Relation has no reason to go stale exactly if the new version
  has both of its identities;
* `reconcile_returns` — `reconcile` returns, and what is in each part of its outcome.
-/

open Raising Raising.Method

namespace Zentra

namespace Connector

/-- What happened to the previous version's Relations. -/
structure ReconciliationOutcome where
  carriedForward : List Relation := []
  staled : List Relation := []
  suppressedPairs : Finset (Sym2 FieldIdentity) := ∅

/-- `_stale_reason`. -/
def staleReasonOf (identity : FieldIdentity) (current : CatalogVersion)
    (index : List (FieldIdentity × SourceField)) : Option StaleReason :=
  if identity ∈ index.map Prod.fst then
    none
  else if identity.tableName ∉ current.tableNames then
    some .tableDropped
  else if ∃ existing ∈ index.map Prod.fst,
      existing.tableName = identity.tableName ∧ existing.fieldName = identity.fieldName then
    some .fieldTypeChanged
  else
    some .fieldDropped

namespace Relation

/-- `left_reason or right_reason`. -/
def reasonIn (current : CatalogVersion) (relation : Relation) : Option StaleReason :=
  staleReasonOf relation.leftIdentity current current.fieldIndex <|>
    staleReasonOf relation.rightIdentity current current.fieldIndex

/-- The Relation on the new version. -/
def onVersion (catalogVersionId : UUID) (relation : Relation) : Relation :=
  { relation with catalogVersionId := catalogVersionId }

/-- The Relation pointed at the new version's fields. -/
def repointed (newFieldIds : List (FieldIdentity × UUID)) (relation : Relation) :
    Relation :=
  { relation with
    leftFieldId := (newFieldIds.lookup relation.leftIdentity).getD relation.leftFieldId
    rightFieldId := (newFieldIds.lookup relation.rightIdentity).getD relation.rightFieldId }

end Relation

section Reconcile

variable (current : CatalogVersion) (newCatalogVersionId : UUID) (now : Int)
  (newFieldIds : List (FieldIdentity × UUID))

/-- The body of the loop of `reconcile`. -/
def reconcileOne (outcome : ReconciliationOutcome) (relation : Relation) :
    Except RelationTransitionError ReconciliationOutcome :=
  if relation.state = .rejected then
    .ok { outcome with
      suppressedPairs := insert relation.pinnedIdentities outcome.suppressedPairs }
  else if relation.state ≠ .confirmed then
    .ok outcome
  else
    match relation.reasonIn current with
    | some reason =>
        match (Relation.markStale reason now).call
            (relation.onVersion newCatalogVersionId) with
        | (.ok (), relation) => .ok { outcome with staled := outcome.staled ++ [relation] }
        | (.error e, _) => .error e
    | none =>
        .ok { outcome with
          carriedForward := outcome.carriedForward ++
            [(relation.onVersion newCatalogVersionId).repointed newFieldIds] }

/-- Carry confirmations forward onto a new Catalog Version, or stale them. -/
def reconcile (previousRelations : List Relation) :
    Except RelationTransitionError ReconciliationOutcome :=
  previousRelations.foldlM (reconcileOne current newCatalogVersionId now newFieldIds) {}

end Reconcile

section Reasons

variable {current : CatalogVersion} {identity : FieldIdentity} {relation : Relation}

theorem staleReasonOf_eq_none (current : CatalogVersion) (identity : FieldIdentity) :
    staleReasonOf identity current current.fieldIndex = none ↔ current.Has identity := by
  have hindex : identity ∈ current.fieldIndex.map Prod.fst ↔ current.Has identity :=
    CatalogVersion.mem_fieldIndex
  unfold staleReasonOf
  by_cases h : current.Has identity
  · rw [if_pos (hindex.2 h)]
    simp [h]
  · rw [if_neg (mt hindex.1 h)]
    split
    · simp [h]
    · split <;> simp [h]

/-- **No reason to go stale.** -/
theorem reasonIn_eq_none :
    relation.reasonIn current = none ↔
      current.Has relation.leftIdentity ∧ current.Has relation.rightIdentity := by
  unfold Relation.reasonIn
  rw [← staleReasonOf_eq_none, ← staleReasonOf_eq_none]
  cases staleReasonOf relation.leftIdentity current current.fieldIndex <;> simp

end Reasons

section Outcome

variable {current : CatalogVersion} {newCatalogVersionId : UUID} {now : Int}
  {newFieldIds : List (FieldIdentity × UUID)} {outcome : ReconciliationOutcome}
  {previous : List Relation}

/-- The Relations of an outcome, by what became of them. -/
structure Reconciles (current : CatalogVersion) (newCatalogVersionId : UUID) (now : Int)
    (newFieldIds : List (FieldIdentity × UUID)) (previous : List Relation)
    (outcome : ReconciliationOutcome) : Prop where
  carried : ∀ carried, carried ∈ outcome.carriedForward ↔
    ∃ relation ∈ previous, relation.state = .confirmed ∧
      relation.reasonIn current = none ∧
      carried = (relation.onVersion newCatalogVersionId).repointed newFieldIds
  staled : ∀ staled, staled ∈ outcome.staled ↔
    ∃ relation ∈ previous, relation.state = .confirmed ∧
      ∃ reason, relation.reasonIn current = some reason ∧
        staled = (relation.onVersion newCatalogVersionId).staleFor reason now
  suppressed : ∀ pair, pair ∈ outcome.suppressedPairs ↔
    ∃ relation ∈ previous, relation.state = .rejected ∧ relation.pinnedIdentities = pair

theorem reconciles_nil :
    Reconciles current newCatalogVersionId now newFieldIds [] {} := by
  constructor <;> simp

/-- One Relation more: a rejected one is suppressed, a confirmed one is carried or
staled, and no other leaves a trace. -/
theorem reconcileOne_returns (relation : Relation)
    (h : Reconciles current newCatalogVersionId now newFieldIds previous outcome) :
    ∃ next, reconcileOne current newCatalogVersionId now newFieldIds outcome relation =
        .ok next ∧
      Reconciles current newCatalogVersionId now newFieldIds (previous ++ [relation])
        next := by
  unfold reconcileOne
  by_cases hrejected : relation.state = .rejected
  · rw [if_pos hrejected]
    refine ⟨_, rfl, ?_⟩
    constructor
    · intro carried
      rw [h.carried]
      simp [or_and_right, exists_or, hrejected]
    · intro staled
      rw [h.staled]
      simp [or_and_right, exists_or, hrejected]
    · intro pair
      rw [Finset.mem_insert, h.suppressed]
      simp only [List.mem_append, List.mem_singleton, or_and_right, exists_or,
        exists_eq_left]
      rw [or_comm, and_iff_right hrejected, eq_comm]
  · rw [if_neg hrejected]
    by_cases hconfirmed : relation.state = .confirmed
    · rw [if_neg (not_not.2 hconfirmed)]
      cases hreason : relation.reasonIn current with
      | none =>
          refine ⟨_, rfl, ?_⟩
          constructor
          · intro carried
            rw [List.mem_append, h.carried]
            simp [or_and_right, exists_or, hconfirmed, hreason]
          · intro staled
            rw [h.staled]
            simp [or_and_right, exists_or, hreason]
          · intro pair
            rw [h.suppressed]
            simp [or_and_right, exists_or, hrejected]
      | some reason =>
          have hstale : (Relation.markStale reason now).call
              (relation.onVersion newCatalogVersionId) =
              (.ok (), (relation.onVersion newCatalogVersionId).staleFor reason now) :=
            Relation.markStale_returns.2 ⟨hconfirmed, rfl⟩
          simp only [hstale]
          refine ⟨_, rfl, ?_⟩
          constructor
          · intro carried
            rw [h.carried]
            simp [or_and_right, exists_or, hreason]
          · intro staled
            rw [List.mem_append, h.staled]
            simp [or_and_right, exists_or, hconfirmed, hreason]
          · intro pair
            rw [h.suppressed]
            simp [or_and_right, exists_or, hrejected]
    · rw [if_pos hconfirmed]
      refine ⟨_, rfl, ?_⟩
      constructor
      · intro carried
        rw [h.carried]
        simp [or_and_right, exists_or, hconfirmed]
      · intro staled
        rw [h.staled]
        simp [or_and_right, exists_or, hconfirmed]
      · intro pair
        rw [h.suppressed]
        simp [or_and_right, exists_or, hrejected]

theorem foldlM_reconcileOne (rest : List Relation)
    (h : Reconciles current newCatalogVersionId now newFieldIds previous outcome) :
    ∃ final, rest.foldlM (reconcileOne current newCatalogVersionId now newFieldIds)
        outcome = .ok final ∧
      Reconciles current newCatalogVersionId now newFieldIds (previous ++ rest) final := by
  induction rest generalizing previous outcome with
  | nil =>
      refine ⟨outcome, rfl, ?_⟩
      rw [List.append_nil]
      exact h
  | cons relation rest ih =>
      obtain ⟨next, hnext, hreconciles⟩ := reconcileOne_returns relation h
      obtain ⟨final, hfinal, hall⟩ := ih hreconciles
      refine ⟨final, ?_, ?_⟩
      · rw [List.foldlM_cons, hnext]
        exact hfinal
      · rw [List.append_assoc] at hall
        exact hall

/-- **Every Relation is accounted for.**  `reconcile` never raises. -/
theorem reconcile_returns (current : CatalogVersion) (newCatalogVersionId : UUID)
    (now : Int) (newFieldIds : List (FieldIdentity × UUID)) (previous : List Relation) :
    ∃ outcome, reconcile current newCatalogVersionId now newFieldIds previous =
        .ok outcome ∧
      Reconciles current newCatalogVersionId now newFieldIds previous outcome :=
  foldlM_reconcileOne previous reconciles_nil

end Outcome

end Connector

end Zentra
