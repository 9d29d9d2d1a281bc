import Zentra.Reconciliation

/-!
# Which Relations are in the Join Graph

A set of Relations is proposed, declared, decided, staled and carried forward, in any
order and any number of times, and calls that are refused may come in between.

* `state_of_latest` — its state is the one of the latest of them;
* `joinGraph_exact` — the Join Graph is the Relations whose latest transition admitted
  them; rejections stay, refused calls change nothing, and joins have no direction.
-/

open Raising Raising.Method StepTrace

namespace Zentra

namespace Connector

namespace Relation

/-- The body of the loop of `reconcile`, as far as it is about the Relation. -/
def carryForward (current : CatalogVersion) (newCatalogVersionId : UUID) (now : Int)
    (newFieldIds : List (FieldIdentity × UUID)) :
    Method Relation RelationTransitionError Unit := do
  let relation ← self
  if relation.state ≠ .confirmed then
    return
  assign (onVersion newCatalogVersionId)
  match relation.reasonIn current with
  | some reason => markStale reason now
  | none => assign (repointed newFieldIds)

variable {current : CatalogVersion} {newCatalogVersionId : UUID} {now : Int}
  {newFieldIds : List (FieldIdentity × UUID)} {relation : Relation}

/-- **What a re-harvest does to a Relation**: it stales or repoints a confirmed one, and
leaves any other alone. -/
theorem carryForward_call :
    (carryForward current newCatalogVersionId now newFieldIds).call relation =
      (.ok (),
        if relation.state = .confirmed then
          match relation.reasonIn current with
          | some reason => (relation.onVersion newCatalogVersionId).staleFor reason now
          | none => (relation.onVersion newCatalogVersionId).repointed newFieldIds
        else relation) := by
  unfold carryForward
  rw [call_self_bind]
  by_cases hconfirmed : relation.state = .confirmed
  · rw [if_neg (not_not.2 hconfirmed), if_pos hconfirmed]
    cases relation.reasonIn current with
    | none => rfl
    | some reason =>
        exact markStale_returns.2 ⟨hconfirmed, rfl⟩
  · rw [if_pos hconfirmed, if_neg hconfirmed]
    rfl

theorem total_carryForward :
    Total (carryForward current newCatalogVersionId now newFieldIds) :=
  fun _ => ⟨(), _, carryForward_call⟩

theorem carryForward_after :
    (carryForward current newCatalogVersionId now newFieldIds).after relation =
      if relation.state = .confirmed then
        match relation.reasonIn current with
        | some reason => (relation.onVersion newCatalogVersionId).staleFor reason now
        | none => (relation.onVersion newCatalogVersionId).repointed newFieldIds
      else relation :=
  congrArg Prod.snd carryForward_call

end Relation

/-- The operations on a list of Relations, each of them named by its position. -/
inductive RelationCall
  | propose (relation : Relation)
  | declare (relation : Relation) (actorId : UUID) (now : Int)
  | decide (index : Nat) (decision : Decision) (actorId : UUID) (now : Int)
  | markStale (index : Nat) (reason : StaleReason) (now : Int)
  | reconcile (previous : List Nat) (current : CatalogVersion) (newCatalogVersionId : UUID)
      (now : Int) (newFieldIds : List (FieldIdentity × UUID))

/-- `Relation(state=RelationState.PROPOSED, …)`. -/
def Relation.asProposed (origin : RelationOrigin) (relation : Relation) : Relation :=
  { relation with
    state := .proposed
    origin := origin
    decidedAt := none
    decidedBy := none
    rejectionReason := none
    staleReason := none }

/-- The Relation of a reviewer: proposed and confirmed at once. -/
def Relation.asDeclared (actorId : UUID) (now : Int) (relation : Relation) : Relation :=
  (Relation.confirm actorId now).after (relation.asProposed .declared)

/-- The loop of `reconcile`. -/
def carryForwardEach (current : CatalogVersion) (newCatalogVersionId : UUID) (now : Int)
    (newFieldIds : List (FieldIdentity × UUID)) :
    List Nat → Method (List Relation) RelationTransitionError Unit
  | [] => pure ()
  | index :: rest => do
      onElement (Relation.carryForward current newCatalogVersionId now newFieldIds) index
      carryForwardEach current newCatalogVersionId now newFieldIds rest

namespace RelationCall

def method : RelationCall → Method (List Relation) RelationTransitionError Unit
  | propose relation => assign (· ++ [relation.asProposed .inferred])
  | declare relation actorId now => assign (· ++ [relation.asDeclared actorId now])
  | decide index decision actorId now => onElement (decision.method actorId now) index
  | markStale index reason now => onElement (Relation.markStale reason now) index
  | reconcile previous current newCatalogVersionId now newFieldIds =>
      carryForwardEach current newCatalogVersionId now newFieldIds previous

end RelationCall

theorem Decision.atomic (decision : Decision) (actorId : UUID) (now : Int) :
    Atomic (decision.method actorId now) := by
  cases decision with
  | confirm =>
      refine Atomic.self_bind fun relation => ?_
      split
      · exact (total_pure _).atomic
      · exact (total_assign _).atomic.raiseIf_bind
  | reject reason =>
      refine Atomic.self_bind fun relation => ?_
      split
      · split
        · exact (total_pure _).atomic
        · intro relation e after h
          cases h
          rfl
      · exact (total_assign _).atomic.raiseIf_bind
  | revoke => exact (total_assign _).atomic.raiseIf_bind

theorem total_carryForwardEach {current : CatalogVersion} {newCatalogVersionId : UUID}
    {now : Int} {newFieldIds : List (FieldIdentity × UUID)} (previous : List Nat) :
    Total (carryForwardEach current newCatalogVersionId now newFieldIds previous) := by
  induction previous with
  | nil => exact total_pure ()
  | cons index rest ih => exact (Relation.total_carryForward.onElement index).bind fun _ => ih

/-- **A transition that fails** changes no field of any Relation. -/
theorem RelationCall.atomic (call : RelationCall) : Atomic call.method := by
  cases call with
  | propose relation => exact (total_assign _).atomic
  | declare relation actorId now => exact (total_assign _).atomic
  | decide index decision actorId now =>
      exact (decision.atomic actorId now).onElement index
  | markStale index reason now =>
      have hmark : Atomic (Relation.markStale reason now) :=
        (total_assign _).atomic.raiseIf_bind
      exact hmark.onElement index
  | reconcile previous current newCatalogVersionId now newFieldIds =>
      exact (total_carryForwardEach previous).atomic

inductive RelationTransition
  | proposed | declared | confirmed | rejected | revoked | staled | carriedForward
  deriving DecidableEq, Repr

/-- The state after a transition.  Carrying forward is not a new judgement. -/
def RelationTransition.leads (before : Option RelationState) :
    RelationTransition → Option RelationState
  | proposed => some .proposed
  | declared => some .confirmed
  | confirmed => some .confirmed
  | rejected => some .rejected
  | revoked => some .proposed
  | staled => some .stale
  | carriedForward => before

def Decision.transition : Decision → RelationTransition
  | confirm => .confirmed
  | reject _ => .rejected
  | revoke => .revoked

/-- The transition that a call makes with the Relation at a position, when the call does
not fail. -/
def transitionOf (relations : List Relation) (index : Nat) :
    RelationCall → Option RelationTransition
  | .propose _ => if index = relations.length then some .proposed else none
  | .declare _ _ _ => if index = relations.length then some .declared else none
  | .decide decided decision actorId now =>
      relations[index]?.bind fun relation =>
        if decided = index ∧ ((decision.method actorId now).call relation).1.isOk then
          some decision.transition
        else none
  | .markStale staled reason now =>
      relations[index]?.bind fun relation =>
        if staled = index ∧ ((Relation.markStale reason now).call relation).1.isOk then
          some .staled
        else none
  | .reconcile previous current _ _ _ =>
      relations[index]?.bind fun relation =>
        if index ∈ previous ∧ relation.state = .confirmed then
          some (if relation.reasonIn current = none then .carriedForward else .staled)
        else none

/-- The transitions that a Relation goes through, in order. -/
def transitions (index : Nat) : List Relation → List RelationCall → List RelationTransition
  | _, [] => []
  | relations, call :: rest =>
      (transitionOf relations index call).toList ++
        transitions index (call.method.after relations) rest

/-- The latest transition of a Relation, apart from being carried forward. -/
def latest (past : List RelationTransition) : Option RelationTransition :=
  (past.filter (· ≠ .carriedForward)).getLast?

variable {relations after : List Relation} {index : Nat} {relation : Relation}
  {call : RelationCall}

section CarryForwardEach

variable {current : CatalogVersion} {newCatalogVersionId : UUID} {now : Int}
  {newFieldIds : List (FieldIdentity × UUID)}

theorem carryForwardEach_cons (first : Nat) (rest : List Nat) :
    (carryForwardEach current newCatalogVersionId now newFieldIds (first :: rest)).after
        relations =
      (carryForwardEach current newCatalogVersionId now newFieldIds rest).after
        ((onElement (Relation.carryForward current newCatalogVersionId now newFieldIds)
          first).after relations) :=
  (Relation.total_carryForward.onElement first).after_bind relations

theorem length_carryForwardEach (previous : List Nat) :
    ((carryForwardEach current newCatalogVersionId now newFieldIds previous).after
      relations).length = relations.length := by
  induction previous generalizing relations with
  | nil => rfl
  | cons first rest ih => rw [carryForwardEach_cons, ih, length_onElement]

theorem carryForwardEach_of_ne (previous : List Nat) (h : relations[index]? = some relation)
    (hstate : relation.state ≠ .confirmed) :
    ((carryForwardEach current newCatalogVersionId now newFieldIds previous).after
      relations)[index]? = some relation := by
  induction previous generalizing relations with
  | nil => exact h
  | cons first rest ih =>
      rw [carryForwardEach_cons]
      apply ih
      rw [getElem?_onElement, h, Option.map_some, Relation.carryForward_after,
        if_neg hstate, ite_self]

/-- A confirmed Relation goes stale if it is reached and misses a field, and stays
confirmed otherwise. -/
theorem carryForwardEach_of_confirmed (previous : List Nat)
    (h : relations[index]? = some relation) (hstate : relation.state = .confirmed) :
    ((carryForwardEach current newCatalogVersionId now newFieldIds previous).after
      relations)[index]?.map (·.state) =
      some (if index ∈ previous ∧ relation.reasonIn current ≠ none then .stale
        else .confirmed) := by
  induction previous generalizing relations relation with
  | nil =>
      rw [if_neg (by simp)]
      exact (congrArg (Option.map _) h).trans (congrArg some hstate)
  | cons first rest ih =>
      rw [carryForwardEach_cons]
      have hfirst : ((onElement (Relation.carryForward current newCatalogVersionId now
          newFieldIds) first).after relations)[index]? =
          if first = index then
            some ((Relation.carryForward current newCatalogVersionId now newFieldIds).after
              relation)
          else some relation := by
        rw [getElem?_onElement, h, Option.map_some]
      by_cases hindex : first = index
      · rw [if_pos hindex, Relation.carryForward_after, if_pos hstate] at hfirst
        cases hreason : relation.reasonIn current with
        | none =>
            rw [hreason] at hfirst
            rw [ih hfirst hstate, if_neg, if_neg]
            · simp
            · intro hagain
              exact hagain.2 hreason
        | some reason =>
            rw [hreason] at hfirst
            rw [carryForwardEach_of_ne rest hfirst (by simp [Relation.staleFor]),
              if_pos ⟨by simp [hindex], by simp⟩]
            rfl
      · rw [if_neg hindex] at hfirst
        rw [ih hfirst hstate]
        simp [Ne.symm hindex]

end CarryForwardEach

theorem Decision.state_of_returns {decision : Decision} {actorId : UUID} {now : Int}
    {decided : Relation}
    (h : (decision.method actorId now).call relation = (.ok (), decided)) :
    some decided.state = decision.transition.leads (some relation.state) := by
  cases decision with
  | confirm =>
      rcases Relation.confirm_returns h with ⟨hstate, rfl⟩ | ⟨-, rfl⟩
      · exact congrArg some hstate
      · rfl
  | reject reason => exact congrArg some (Decision.state_of_rejection h)
  | revoke =>
      obtain ⟨-, rfl⟩ := Relation.revoke_returns.1 h
      rfl

theorem state_onElement {m : Method Relation RelationTransitionError Unit}
    {transition : RelationTransition} (hatomic : Atomic m)
    (hreturns : ∀ before after, m.call before = (.ok (), after) →
      some after.state = transition.leads (some before.state)) (reached : Nat) :
    ((onElement m reached).after relations)[index]?.map (·.state) =
      (relations[index]?.bind fun relation =>
        if reached = index ∧ (m.call relation).1.isOk then some transition else none).elim
        (relations[index]?.map (·.state))
        (·.leads (relations[index]?.map (·.state))) := by
  rw [getElem?_onElement]
  cases relations[index]? with
  | none => simp
  | some relation =>
      by_cases hindex : reached = index
      · rcases hcall : m.call relation with ⟨e | ⟨⟩, decided⟩
        · have hunchanged : m.after relation = relation := by
            simpa [Method.after, hcall] using hatomic _ _ _ hcall
          simp [hindex, hunchanged, hcall, Except.isOk, Except.toBool]
        · have hafter : m.after relation = decided := congrArg Prod.snd hcall
          have hstate := hreturns relation decided hcall
          simp [hindex, hafter, hcall, Except.isOk, Except.toBool, hstate]
      · simp [hindex]

theorem state_append_new (added : Relation) {transition : RelationTransition}
    (hadded : some added.state = transition.leads none) :
    (relations ++ [added])[index]?.map (·.state) =
      (if index = relations.length then some transition else none).elim
        (relations[index]?.map (·.state))
        (·.leads (relations[index]?.map (·.state))) := by
  rcases Nat.lt_trichotomy index relations.length with hlt | heq | hgt
  · rw [List.getElem?_append_left hlt, if_neg (Nat.ne_of_lt hlt)]
    rfl
  · subst heq
    simpa using hadded
  · have hnone : relations[index]? = none := List.getElem?_eq_none (Nat.le_of_lt hgt)
    have hnone' : (relations ++ [added])[index]? = none := by
      apply List.getElem?_eq_none
      rw [List.length_append, List.length_singleton]
      omega
    rw [hnone, hnone', if_neg (Nat.ne_of_gt hgt)]
    rfl

/-- **One call**: the state of a Relation is the one its transition leads to. -/
theorem state_after_call (relations : List Relation) (call : RelationCall) (index : Nat) :
    (call.method.after relations)[index]?.map (·.state) =
      (transitionOf relations index call).elim (relations[index]?.map (·.state))
        (·.leads (relations[index]?.map (·.state))) := by
  cases call with
  | propose relation => exact state_append_new _ rfl
  | declare relation actorId now => exact state_append_new _ rfl
  | decide decided decision actorId now =>
      exact state_onElement (decision.atomic actorId now)
        (fun _ _ => Decision.state_of_returns) decided
  | markStale staled reason now =>
      refine state_onElement ((total_assign _).atomic.raiseIf_bind) (fun _ _ h => ?_) staled
      obtain ⟨-, rfl⟩ := Relation.markStale_returns.1 h
      rfl
  | reconcile previous current newCatalogVersionId now newFieldIds =>
      show ((carryForwardEach current newCatalogVersionId now newFieldIds previous).after
        relations)[index]?.map _ = _
      simp only [transitionOf]
      cases hrelation : relations[index]? with
      | none =>
          have hlength := List.getElem?_eq_none_iff.1 hrelation
          have hnone : ((carryForwardEach current newCatalogVersionId now newFieldIds
              previous).after relations)[index]? = none := by
            apply List.getElem?_eq_none
            rwa [length_carryForwardEach]
          simp [hnone]
      | some relation =>
          by_cases hstate : relation.state = .confirmed
          · rw [carryForwardEach_of_confirmed previous hrelation hstate]
            by_cases hreached : index ∈ previous
            · by_cases hreason : relation.reasonIn current = none
              · simp [hreached, hreason, hstate, RelationTransition.leads]
              · simp [hreached, hreason, hstate, RelationTransition.leads]
            · simp [hreached, hstate]
          · rw [carryForwardEach_of_ne previous hrelation hstate]
            simp [hstate]

/-- What the calls leave, whether they return or fail. -/
abbrev relationStep : List Relation → RelationCall → Option (List Relation) :=
  calling RelationCall.method

theorem transitions_snoc {past : List RelationCall}
    (h : Exec relationStep relations past after) (call : RelationCall) :
    transitions index relations (past ++ [call]) =
      transitions index relations past ++ (transitionOf after index call).toList := by
  have hrun := h.run_eq
  clear h
  induction past generalizing relations with
  | nil =>
      cases hrun
      simp [transitions]
  | cons first rest ih =>
      have hrest : StepTrace.run relationStep (first.method.after relations) rest =
        some after := hrun
      simp only [List.cons_append, transitions, ih hrest, List.append_assoc]

theorem latest_snoc (past : List RelationTransition) (transition : RelationTransition) :
    latest (past ++ [transition]) =
      if transition = .carriedForward then latest past else some transition := by
  unfold latest
  rw [List.filter_append]
  by_cases h : transition = .carriedForward
  · simp [h]
  · simp [h]

/-- **The state of a Relation** is the one its latest transition leads to. -/
theorem state_of_latest {calls : List RelationCall}
    (h : Exec relationStep [] calls relations) (index : Nat) :
    relations[index]?.map (·.state) =
      (latest (transitions index [] calls)).bind (·.leads none) := by
  refine h.history (fun past relations => relations[index]?.map (·.state) =
    (latest (transitions index [] past)).bind (·.leads none)) ?_ ?_
  · rfl
  · intro past relations call after hbefore hstate hstep
    obtain rfl : call.method.after relations = after := Option.some.inj hstep
    rw [transitions_snoc hbefore, state_after_call, hstate]
    cases transitionOf relations index call with
    | none => simp
    | some transition =>
        rw [Option.elim_some, Option.toList_some, latest_snoc]
        cases transition <;> simp [RelationTransition.leads]

theorem leads_confirmed {past : List RelationTransition} :
    (latest past).bind (·.leads none) = some .confirmed ↔
      latest past = some .confirmed ∨ latest past = some .declared := by
  cases latest past with
  | none => simp
  | some transition => cases transition <;> simp [RelationTransition.leads]

theorem rejected_after_call (h : relations[index]? = some relation)
    (hrejected : relation.state = .rejected) (call : RelationCall) :
    (call.method.after relations)[index]? = some relation := by
  have hlength : index < relations.length := (List.getElem?_eq_some_iff.1 h).1
  cases call with
  | propose added => exact (List.getElem?_append_left hlength).trans h
  | declare added actorId now => exact (List.getElem?_append_left hlength).trans h
  | decide decided decision actorId now =>
      refine (getElem?_onElement _ _ _ _).trans ?_
      rw [h]
      rcases hcall : (decision.method actorId now).call relation with ⟨e | ⟨⟩, other⟩
      · have hsame := decision.atomic actorId now _ _ _ hcall
        simp [Method.after, hcall, hsame]
      · have hsame := Decision.rejected_of_returns hcall hrejected
        simp [Method.after, hcall, hsame]
  | markStale staled reason now =>
      refine (getElem?_onElement _ _ _ _).trans ?_
      rw [h]
      rcases hcall : (Relation.markStale reason now).call relation with ⟨e | ⟨⟩, other⟩
      · have hmark : Atomic (Relation.markStale reason now) :=
          (total_assign _).atomic.raiseIf_bind
        have hsame := hmark _ _ _ hcall
        simp [Method.after, hcall, hsame]
      · have hconfirmed := (Relation.markStale_returns.1 hcall).1
        rw [hrejected] at hconfirmed
        cases hconfirmed
  | reconcile previous current newCatalogVersionId now newFieldIds =>
      refine carryForwardEach_of_ne previous h ?_
      rw [hrejected]
      simp

/-- **`rejected` is absorbing** along every history. -/
theorem rejected_absorbing {calls : List RelationCall}
    (hexec : Exec relationStep relations calls after) (h : relations[index]? = some relation)
    (hrejected : relation.state = .rejected) : after[index]? = some relation := by
  refine hexec.invariant (fun relations => relations[index]? = some relation) h ?_
  intro relations call after hbefore hstep
  obtain rfl : call.method.after relations = after := Option.some.inj hstep
  exact rejected_after_call hbefore hrejected call

/-- **Human-gated joins.**  Whatever is called on any set of Relations, the Join Graph
holds exactly those whose latest transition that went through is a confirmation or a
declaration, carried forward or not; a rejected Relation stays as it is; a call that fails
changes no field; and a join is permitted in both directions or in neither. -/
theorem joinGraph_exact (calls : List RelationCall) (relations : List Relation)
    (h : Exec relationStep [] calls relations) :
    (∀ (catalogVersionId : UUID) (relation : Relation),
        relation ∈ (JoinGraph.build catalogVersionId relations).relations ↔
          ∃ index, relations[index]? = some relation ∧
            (latest (transitions index [] calls) = some .confirmed ∨
              latest (transitions index [] calls) = some .declared)) ∧
      (∀ (index : Nat) (relation : Relation), relations[index]? = some relation →
        relation.state = .rejected → ∀ more after, Exec relationStep relations more after →
            after[index]? = some relation) ∧
      (∀ (call : RelationCall) e after,
        call.method.call relations = (.error e, after) → after = relations) ∧
      ∀ catalogVersionId a b,
        (JoinGraph.build catalogVersionId relations).Permits a b ↔
          (JoinGraph.build catalogVersionId relations).Permits b a := by
  refine ⟨fun catalogVersionId relation => ?_, ?_, ?_, ?_⟩
  · rw [JoinGraph.mem_build]
    constructor
    · intro hmem
      obtain ⟨hrelation, hstate⟩ := hmem
      obtain ⟨index, hindex⟩ := List.mem_iff_getElem?.1 hrelation
      refine ⟨index, hindex, leads_confirmed.1 ?_⟩
      rw [← state_of_latest h, hindex, Option.map_some, hstate]
    · intro hlatest
      obtain ⟨index, hindex, hlatest⟩ := hlatest
      refine ⟨List.mem_of_getElem? hindex, ?_⟩
      have hstate := state_of_latest h index
      rw [leads_confirmed.2 hlatest, hindex] at hstate
      exact Option.some.inj hstate
  · intro index relation hindex hrejected more after hmore
    exact rejected_absorbing hmore hindex hrejected
  · intro call e after hraise
    exact call.atomic relations e after hraise
  · intro catalogVersionId a b
    exact JoinGraph.permits_comm

def invoiceOfLine : Relation where
  relationId := 1
  organizationId := 1
  catalogVersionId := 10
  leftFieldId := 40
  rightFieldId := 41
  leftIdentity := ⟨"lines", "invoice", "int"⟩
  rightIdentity := ⟨"invoices", "id", "int"⟩
  leftDataSourceId := 1
  rightDataSourceId := 1
  state := .proposed
  origin := .inferred
  confidence := 1
  bindingCeiling := .none
  cardinality := .manyToOne

/-- One Relation is confirmed, goes stale and is rejected, and is not confirmed again;
another one is declared. -/
def invoiceCalls : List RelationCall :=
  [.propose invoiceOfLine, .decide 0 .confirm 7 1, .declare invoiceOfLine 7 2,
    .markStale 0 .fieldDropped 3, .decide 0 (.reject .notARealRelation) 7 4,
    .decide 0 .confirm 7 5]

theorem joinGraph_exact_invoices :
    ∃ relations, Exec relationStep [] invoiceCalls relations ∧
      (∀ (catalogVersionId : UUID) (relation : Relation),
        relation ∈ (JoinGraph.build catalogVersionId relations).relations ↔
          ∃ index : Nat, relations[index]? = some relation ∧
            (latest (transitions index [] invoiceCalls) = some .confirmed ∨
              latest (transitions index [] invoiceCalls) = some .declared)) ∧
      (JoinGraph.build 10 relations).relations = [invoiceOfLine.asDeclared 7 2] := by
  have hexec : Exec relationStep [] invoiceCalls _ := exec_of_run rfl
  obtain ⟨hgraph, -, -, -⟩ := joinGraph_exact invoiceCalls _ hexec
  exact ⟨_, hexec, hgraph, by decide⟩

end Connector

end Zentra
