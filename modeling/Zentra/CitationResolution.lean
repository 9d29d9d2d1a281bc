import Zentra.Erasure
import Zentra.PythonCall

/-!
# Following a citation

A citation is listed with the citations of its run, and it is followed on its own.  Both read
the state that is decided against the execution; an erased citation, which should resolve to
a Tombstone, is never reached, since the record of its erasure is asked for with an argument
by position that has to be named.

* `resolve_stored` — what a stored citation resolves to;
* `resolvesAsListed_iff` — when the two ways to read a citation agree.
-/

open PythonCall TableRows

namespace Zentra

/-- What a citation resolves to once its evidence is deliberately erased. -/
structure Tombstone where
  citationId : UUID
  category : String
  erasedAt : Int
  deriving DecidableEq, Repr

/-- What following a citation returns. -/
inductive Resolved
  | citation (found : EvidenceCitation)
  | tombstone (stone : Tombstone)
  deriving DecidableEq

def Resolved.state : Resolved → CitationState
  | .citation found => found.state
  | .tombstone _ => .tombstoned

def Resolved.IsTombstone : Resolved → Prop
  | .citation _ => False
  | .tombstone _ => True

inductive ResolveError
  | multipleResultsFound
  | call (error : CallError)
  deriving DecidableEq, Repr

/-- `_erasure_record(self, analysis_run_id, *, organization_id)`. -/
def erasureRecordSignature : Signature := ⟨["analysis_run_id"], ["organization_id"]⟩

namespace Database

variable (db : Database)

/-- The body of `_erasure_record`: the category and the time of the completed erasure. -/
def erasureRecord (analysisRunId organizationId : UUID) : Option (String × Int) :=
  (db.erasureOperations ⟨analysisRunId, organizationId⟩).bind fun operation =>
    operation.completedAt.map fun completedAt => (operation.category.value, completedAt)

/-- A call of `_erasure_record`. -/
def callErasureRecord (positional : List UUID) (keywords : List (String × UUID)) :
    Except CallError (Option (String × Int)) := do
  let arguments ← erasureRecordSignature.bind positional keywords
  let analysisRunId ← read arguments "analysis_run_id"
  let organizationId ← read arguments "organization_id"
  return db.erasureRecord analysisRunId organizationId

def resolve (key : RunKey) (citationId : UUID) : Except ResolveError (Option Resolved) :=
  match select (fun row => row.citationId = citationId ∧ row.key = key)
      db.evidenceCitations with
  | [] => .ok none
  | [row] =>
      if db.resolvedState row = .tombstoned then
        match db.callErasureRecord [key.analysisRunId, key.organizationId] [] with
        | .error error => .error (.call error)
        | .ok erasure => .ok (some (.tombstone {
            citationId := row.citationId
            category := (erasure.map Prod.fst).getD DeletionCategory.organizationRequest.value
            erasedAt := (erasure.map Prod.snd).getD row.createdAt }))
      else .ok (some (.citation (db.citationFromRow row)))
  | _ => .error .multipleResultsFound

/-- The citations have their primary key. -/
def CitationsKeyed : Prop := (db.evidenceCitations.map CitationRow.citationId).Nodup

instance : Decidable db.CitationsKeyed := inferInstanceAs (Decidable (List.Nodup _))

/-- **Agreement** on a stored citation: following it does not raise, and sees the state that the
list of its run shows; it is a Tombstone exactly if the citation has been tombstoned, or its
content is what an erasure leaves. -/
def ResolvesAsListed (row : CitationRow) : Prop :=
  ∃ resolved listed, db.resolve row.key row.citationId = .ok (some resolved) ∧
    (db.citations row.key).filter (fun cited => cited.citationId = row.citationId) = [listed] ∧
      resolved.state = listed.state ∧
        (resolved.IsTombstone ↔
          row.state = .tombstoned ∨ ∃ original : CitationRow, row = original.erased)

variable {db : Database} {key : RunKey} {row : CitationRow}

/-- A citation is seen as tombstoned exactly if it is stored so. -/
theorem resolvedState_eq_tombstoned_iff :
    db.resolvedState row = .tombstoned ↔ row.state = .tombstoned := by
  unfold resolvedState
  split
  next hlost =>
    rw [hlost.1]
    exact iff_of_false (fun h => by cases h) (fun h => by cases h)
  · rfl

theorem select_stored (hkeyed : db.CitationsKeyed) (hrow : row ∈ db.evidenceCitations) :
    select (fun other => other.citationId = row.citationId ∧ other.key = row.key)
      db.evidenceCitations = [row] := by
  obtain ⟨found, hfound, hid, hfilter⟩ :=
    filter_key_eq_singleton hkeyed (List.mem_map_of_mem hrow)
  obtain rfl := List.inj_on_of_nodup_map hkeyed hfound hrow hid
  have hsplit : select (fun other => other.citationId = found.citationId ∧ other.key = found.key)
      db.evidenceCitations = (db.evidenceCitations.filter fun other =>
        other.citationId = found.citationId).filter fun other => other.key = found.key := by
    unfold select
    rw [List.filter_filter]
    refine List.filter_congr fun other _ => ?_
    rw [← Bool.decide_and, decide_eq_decide, and_comm]
  rw [hsplit, hfilter, List.filter_cons_of_pos (by simp), List.filter_nil]

theorem citations_stored (hkeyed : db.CitationsKeyed) (hrow : row ∈ db.evidenceCitations) :
    (db.citations row.key).filter (fun cited => cited.citationId = row.citationId) =
      [db.citationFromRow row] := by
  have hselect := select_stored hkeyed hrow
  unfold select at hselect
  unfold citations select
  rw [List.filter_map, List.filter_filter]
  have hcongr : (db.evidenceCitations.filter fun other =>
      ((fun cited : EvidenceCitation => decide (cited.citationId = row.citationId)) ∘
        db.citationFromRow) other && decide (other.key = row.key)) = [row] := by
    rw [← hselect]
    refine List.filter_congr fun other _ => ?_
    rw [Bool.decide_and]
    rfl
  rw [hcongr, List.map_singleton]

theorem callErasureRecord_raises :
    ∃ error, db.callErasureRecord [key.analysisRunId, key.organizationId] [] = .error error := by
  obtain ⟨error, herror⟩ : ∃ error,
      erasureRecordSignature.bind [key.analysisRunId, key.organizationId] [] = .error error :=
    bind_raises Nat.one_lt_two
  unfold callErasureRecord
  rw [herror]
  exact ⟨error, rfl⟩

/-- **A stored citation** is followed to what is listed, and raises if it is tombstoned. -/
theorem resolve_stored (hkeyed : db.CitationsKeyed) (hrow : row ∈ db.evidenceCitations) :
    (row.state ≠ .tombstoned ∧
        db.resolve row.key row.citationId = .ok (some (.citation (db.citationFromRow row)))) ∨
      (row.state = .tombstoned ∧
        ∃ error, db.resolve row.key row.citationId = .error (.call error)) := by
  unfold resolve
  rw [select_stored hkeyed hrow]
  dsimp only
  by_cases hstate : row.state = .tombstoned
  · obtain ⟨error, herror⟩ := @callErasureRecord_raises db row.key
    refine .inr ⟨hstate, error, ?_⟩
    rw [if_pos (resolvedState_eq_tombstoned_iff.2 hstate), herror]
  · refine .inl ⟨hstate, ?_⟩
    rw [if_neg (mt resolvedState_eq_tombstoned_iff.1 hstate)]

theorem not_resolvesAsListed (hkeyed : db.CitationsKeyed) (hrow : row ∈ db.evidenceCitations)
    (hstate : row.state = .tombstoned) : ¬ db.ResolvesAsListed row := by
  intro ⟨resolved, listed, hresolve, _⟩
  obtain ⟨hother, -⟩ | ⟨-, error, herror⟩ := resolve_stored hkeyed hrow
  · exact hother hstate
  · rw [herror] at hresolve
    cases hresolve

/-- **When following agrees with listing**: unless the citation is tombstoned. -/
theorem resolvesAsListed_iff (hkeyed : db.CitationsKeyed) (hrow : row ∈ db.evidenceCitations) :
    db.ResolvesAsListed row ↔ row.state ≠ .tombstoned := by
  constructor
  · intro hagree hstate
    exact not_resolvesAsListed hkeyed hrow hstate hagree
  · intro hstate
    obtain ⟨-, hresolve⟩ | ⟨hother, -⟩ := resolve_stored hkeyed hrow
    · refine ⟨_, _, hresolve, citations_stored hkeyed hrow, rfl, iff_of_false id ?_⟩
      intro h
      obtain hother | ⟨original, rfl⟩ := h
      · exact hstate hother
      · exact hstate rfl
    · exact absurd hother hstate

end Database

def revenueCitation (state : CitationState) : CitationRow where
  citationId := 5
  key := ⟨1, 2⟩
  metric := "revenue"
  filters := []
  period := some "2024-06"
  grain := none
  producingExecutionId := none
  aggregateValue := "90"
  evaluatorOutcome := none
  state

/-- A citation whose execution is lost is unavailable, both ways. -/
theorem lost_citation_resolves : Database.ResolvesAsListed
    { Database.empty with evidenceCitations := [revenueCitation .active] }
    (revenueCitation .active) :=
  (Database.resolvesAsListed_iff (by decide) (List.mem_singleton_self _)).2 (by decide)

/-- **An erased citation** cannot be followed. -/
theorem erased_citation_unresolved : ¬ Database.ResolvesAsListed
    { Database.empty with evidenceCitations := [(revenueCitation .active).erased] }
    (revenueCitation .active).erased :=
  Database.not_resolvesAsListed (by decide) (List.mem_singleton_self _) rfl

end Zentra
