import Zentra.SourceCatalog

/-!
# Relations between fields, and the Join Graph

A Relation is a join between two fields that inference proposes and a reviewer
confirms or rejects.  It is pinned to the identities of its two fields.  The Join Graph
of a Catalog Version holds its confirmed Relations.

* `Decision.sides_of_returns`, `Decision.rejected_of_returns` — no decision changes
  what a Relation joins, and none leads out of `rejected`;
* `JoinGraph` — a Join Graph cannot hold a Relation that is not confirmed.
-/

open Raising Raising.Method

namespace Zentra

namespace Connector

inductive RelationState
  | proposed | confirmed | rejected | stale
  deriving DecidableEq, Repr

def RelationState.value : RelationState → String
  | proposed => "proposed"
  | confirmed => "confirmed"
  | rejected => "rejected"
  | stale => "stale"

inductive RelationOrigin
  | inferred | declared
  deriving DecidableEq, Repr

inductive RejectionReason
  | notARealRelation | coincidentalOverlap | wrongDirection | duplicateOfAnother
  deriving DecidableEq, Repr

inductive StaleReason
  | fieldDropped | fieldTypeChanged | tableDropped
  deriving DecidableEq, Repr

inductive BindingCeiling
  | none | sampleSize | cardinality
  deriving DecidableEq, Repr

inductive Cardinality
  | oneToOne | manyToOne | oneToMany | manyToMany | unknown
  deriving DecidableEq, Repr

structure RelationEvidence where
  nameAffinity : ℚ
  overlapFraction : ℚ
  sampledRows : Nat
  leftDistinct : Nat
  rightDistinct : Nat
  matchedDistinct : Nat
  rawScore : ℚ
  sampleCeiling : ℚ
  cardinalityCeiling : ℚ
  deriving DecidableEq

/-- A Relation was asked to move somewhere its lifecycle does not allow. -/
structure RelationTransitionError where
  message : String
  deriving DecidableEq, Repr

/-- A proposed or confirmed join between two fields. -/
structure Relation where
  relationId : UUID
  organizationId : UUID
  catalogVersionId : UUID
  leftFieldId : UUID
  rightFieldId : UUID
  leftIdentity : FieldIdentity
  rightIdentity : FieldIdentity
  leftDataSourceId : UUID
  rightDataSourceId : UUID
  state : RelationState
  origin : RelationOrigin
  confidence : ℚ
  bindingCeiling : BindingCeiling
  cardinality : Cardinality
  evidence : Option RelationEvidence := none
  decidedAt : Option Int := none
  decidedBy : Option UUID := none
  rejectionReason : Option RejectionReason := none
  staleReason : Option StaleReason := none
  createdAt : Option Int := none
  metadata : List (String × String) := []
  deriving DecidableEq

namespace Relation

def pinnedIdentities (relation : Relation) : Sym2 FieldIdentity :=
  s(relation.leftIdentity, relation.rightIdentity)

def InJoinGraph (relation : Relation) : Prop := relation.state = .confirmed

instance : DecidablePred InJoinGraph := fun _ => inferInstanceAs (Decidable (_ = _))

/-- What `confirm` assigns. -/
def confirmedBy (actorId : UUID) (now : Int) (relation : Relation) : Relation :=
  { relation with
    state := .confirmed
    decidedAt := some now
    decidedBy := some actorId
    rejectionReason := none
    staleReason := none }

/-- Admit this Relation to the Join Graph. -/
def confirm (actorId : UUID) (now : Int) :
    Method Relation RelationTransitionError Unit := do
  let relation ← self
  if relation.state = .confirmed then
    return
  raiseIf (fun self => self.state ∉ [RelationState.proposed, .stale])
    fun self => ⟨"Cannot confirm a relation in state " ++ self.state.value⟩
  assign (confirmedBy actorId now)

/-- What `reject` assigns. -/
def rejectedBy (actorId : UUID) (reason : RejectionReason) (now : Int)
    (relation : Relation) : Relation :=
  { relation with
    state := .rejected
    decidedAt := some now
    decidedBy := some actorId
    rejectionReason := some reason }

/-- Record that this Relation is wrong. -/
def reject (actorId : UUID) (reason : RejectionReason) (now : Int) :
    Method Relation RelationTransitionError Unit := do
  let relation ← self
  if relation.state = .rejected then
    if relation.rejectionReason = some reason then
      return
    raise ⟨"Relation was already rejected for a different reason"⟩
  raiseIf (fun self => self.state ∉ [RelationState.proposed, .stale])
    fun self => ⟨"Cannot reject a relation in state " ++ self.state.value⟩
  assign (rejectedBy actorId reason now)

/-- What `revoke` assigns. -/
def revokedBy (actorId : UUID) (now : Int) (relation : Relation) : Relation :=
  { relation with
    state := .proposed
    decidedAt := some now
    decidedBy := some actorId }

/-- Withdraw a confirmation, returning the Relation to the queue. -/
def revoke (actorId : UUID) (now : Int) :
    Method Relation RelationTransitionError Unit := do
  raiseIf (fun self => self.state ≠ .confirmed)
    fun self => ⟨"Cannot revoke a relation in state " ++ self.state.value⟩
  assign (revokedBy actorId now)

/-- What `mark_stale` assigns. -/
def staleFor (reason : StaleReason) (now : Int) (relation : Relation) : Relation :=
  { relation with
    state := .stale
    staleReason := some reason
    decidedAt := some now }

/-- Withdraw a Relation whose endpoints no longer hold. -/
def markStale (reason : StaleReason) (now : Int) :
    Method Relation RelationTransitionError Unit := do
  raiseIf (fun self => self.state ≠ .confirmed)
    fun self => ⟨"Cannot stale a relation in state " ++ self.state.value⟩
  assign (staleFor reason now)

/-- `row` with everything of `relation` that a decision may change. -/
def withValues (row relation : Relation) : Relation :=
  { row with
    state := relation.state
    origin := relation.origin
    confidence := relation.confidence
    bindingCeiling := relation.bindingCeiling
    cardinality := relation.cardinality
    evidence := relation.evidence
    decidedAt := relation.decidedAt
    decidedBy := relation.decidedBy
    rejectionReason := relation.rejectionReason
    staleReason := relation.staleReason
    metadata := relation.metadata }

variable {relation after : Relation} {actorId : UUID} {now : Int}
  {reason : RejectionReason} {stale : StaleReason}

theorem confirm_returns (h : (confirm actorId now).call relation = (.ok (), after)) :
    (relation.state = .confirmed ∧ after = relation) ∨
      (relation.state ∈ [RelationState.proposed, .stale] ∧
        after = relation.confirmedBy actorId now) := by
  unfold confirm at h
  rw [call_self_bind] at h
  split at h
  next hconfirmed =>
      cases h
      exact .inl ⟨hconfirmed, rfl⟩
  next =>
      replace h : (raiseIf _ _ >>= _).call relation = _ := h
      rw [raiseIf_bind_returns, assign_returns] at h
      exact .inr ⟨not_not.1 h.1, h.2⟩

theorem reject_returns (h : (reject actorId reason now).call relation = (.ok (), after)) :
    (relation.state = .rejected ∧ relation.rejectionReason = some reason ∧
        after = relation) ∨
      (relation.state ∈ [RelationState.proposed, .stale] ∧
        after = relation.rejectedBy actorId reason now) := by
  unfold reject at h
  rw [call_self_bind] at h
  split at h
  next hrejected =>
      split at h
      next hreason =>
          cases h
          exact .inl ⟨hrejected, hreason, rfl⟩
      next => cases h
  next =>
      replace h : (raiseIf _ _ >>= _).call relation = _ := h
      rw [raiseIf_bind_returns, assign_returns] at h
      exact .inr ⟨not_not.1 h.1, h.2⟩

theorem revoke_returns :
    (revoke actorId now).call relation = (.ok (), after) ↔
      relation.state = .confirmed ∧ after = relation.revokedBy actorId now := by
  unfold revoke
  rw [raiseIf_bind_returns, assign_returns, not_not]

theorem markStale_returns :
    (markStale stale now).call relation = (.ok (), after) ↔
      relation.state = .confirmed ∧ after = relation.staleFor stale now := by
  unfold markStale
  rw [raiseIf_bind_returns, assign_returns, not_not]

end Relation

inductive Decision
  | confirm
  | reject (reason : RejectionReason)
  | revoke
  deriving DecidableEq, Repr

namespace Decision

/-- The method that a decision calls. -/
def method (decision : Decision) (actorId : UUID) (now : Int) :
    Method Relation RelationTransitionError Unit :=
  match decision with
  | confirm => Relation.confirm actorId now
  | reject reason => Relation.reject actorId reason now
  | revoke => Relation.revoke actorId now

def result (decision : Decision) (actorId : UUID) (now : Int) (relation : Relation) :
    Relation :=
  match decision with
  | confirm => relation.confirmedBy actorId now
  | reject reason => relation.rejectedBy actorId reason now
  | revoke => relation.revokedBy actorId now

variable {decision : Decision} {relation after : Relation} {actorId : UUID} {now : Int}

/-- **A decision that is accepted** repeats the one on record, or is taken from a state
other than `rejected`. -/
theorem returns_cases
    (h : (decision.method actorId now).call relation = (.ok (), after)) :
    after = relation ∨
      (relation.state ≠ .rejected ∧ after = decision.result actorId now relation) := by
  cases decision with
  | confirm =>
      rcases Relation.confirm_returns h with ⟨-, hafter⟩ | ⟨hstate, hafter⟩
      · exact .inl hafter
      · refine .inr ⟨?_, hafter⟩
        intro hrejected
        rw [hrejected] at hstate
        simp at hstate
  | reject reason =>
      rcases Relation.reject_returns h with ⟨-, -, hafter⟩ | ⟨hstate, hafter⟩
      · exact .inl hafter
      · refine .inr ⟨?_, hafter⟩
        intro hrejected
        rw [hrejected] at hstate
        simp at hstate
  | revoke =>
      obtain ⟨hstate, hafter⟩ := Relation.revoke_returns.1 h
      refine .inr ⟨?_, hafter⟩
      intro hrejected
      rw [hrejected] at hstate
      cases hstate

theorem sides_of_returns
    (h : (decision.method actorId now).call relation = (.ok (), after)) :
    relation.withValues after = after := by
  rcases returns_cases h with rfl | ⟨-, rfl⟩
  · rfl
  · cases decision <;> rfl

/-- **`rejected` is absorbing.** -/
theorem rejected_of_returns
    (h : (decision.method actorId now).call relation = (.ok (), after))
    (hrejected : relation.state = .rejected) : after = relation := by
  rcases returns_cases h with hafter | ⟨hstate, -⟩
  · exact hafter
  · exact absurd hrejected hstate

theorem state_of_rejection {reason : RejectionReason}
    (h : ((reject reason).method actorId now).call relation = (.ok (), after)) :
    after.state = .rejected := by
  rcases Relation.reject_returns h with ⟨hstate, -, rfl⟩ | ⟨-, rfl⟩
  · exact hstate
  · rfl

end Decision

/-- The confirmed Relations of one Catalog Version. -/
structure JoinGraph where
  catalogVersionId : UUID
  relations : List Relation
  confirmed : ∀ relation ∈ relations, relation.InJoinGraph

namespace JoinGraph

/-- Construction filters rather than trusting its caller. -/
def build (catalogVersionId : UUID) (relations : List Relation) : JoinGraph where
  catalogVersionId := catalogVersionId
  relations := relations.filter fun relation => relation.InJoinGraph
  confirmed := by simp

/-- Whether a join between these two fields is allowed. -/
def Permits (graph : JoinGraph) (leftFieldId rightFieldId : UUID) : Prop :=
  ∃ relation ∈ graph.relations,
    s(relation.leftFieldId, relation.rightFieldId) = s(leftFieldId, rightFieldId)

instance (graph : JoinGraph) (leftFieldId rightFieldId : UUID) :
    Decidable (graph.Permits leftFieldId rightFieldId) :=
  inferInstanceAs (Decidable (∃ _ ∈ _, _))

@[simp] theorem mem_build {catalogVersionId : UUID} {relations : List Relation}
    {relation : Relation} :
    relation ∈ (build catalogVersionId relations).relations ↔
      relation ∈ relations ∧ relation.state = .confirmed := by
  unfold build
  rw [List.mem_filter]
  exact and_congr_right fun _ => decide_eq_true_iff

/-- An agent writing the join the other way round is writing the same join. -/
theorem permits_comm {graph : JoinGraph} {a b : UUID} :
    graph.Permits a b ↔ graph.Permits b a := by
  unfold Permits
  rw [Sym2.eq_swap]

end JoinGraph

end Connector

end Zentra
