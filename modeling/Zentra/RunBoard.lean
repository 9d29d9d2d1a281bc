import Zentra.AnalysisRun
import Zentra.DraftFinding

/-!
# The Analysis Run Board

What the measurements of one run established, and where they disagree.  Every
validated figure becomes a fact; a fact that disagrees with one already on the
board opens a conflict, and before the Insight Agent drafts, every open conflict
is documented.

Fresh identifiers come from a counter that the operations pass on.

* `mergeFigure`, `mergeAll` — figures become facts, and contradictions become conflicts;
* `documentConflicts` — the open conflicts are documented.
-/

namespace Zentra

/-- One measurement the Analyst made and the Evaluator rechecked. -/
structure ValidatedEvidence where
  metric : String
  previousValue : String
  currentValue : String
  previousPeriod : Option String
  currentPeriod : Option String
  filters : List CitationFilter
  grain : Option String
  producingExecutionId : UUID
  deriving DecidableEq, Repr

inductive ConflictStatus
  | open
  | resolved
  | documented
  deriving DecidableEq, Repr

/-- One measurement a Work Item established. -/
structure Fact where
  factId : UUID
  metric : String
  value : String
  period : Option String
  producingWorkItemId : UUID
  evidenceRefs : List EvidenceReference := []
  deriving DecidableEq

/-- A contradiction between two facts. -/
structure Conflict where
  conflictId : UUID
  description : String
  status : ConflictStatus := .open
  resolution : Option String := none
  deriving DecidableEq, Repr

structure AnalysisRunBoard where
  boardId : UUID
  analysisRunId : UUID
  organizationId : UUID
  createdAt : Int
  updatedAt : Int
  facts : List Fact := []
  conflicts : List Conflict := []
  deriving DecidableEq

inductive BoardError
  | valueError (message : String)
  | boardTransitionError (message : String)
  deriving DecidableEq, Repr

/-- Two facts contradict each other: one metric and period, two values. -/
def Fact.Contradicts (existing fact : Fact) : Prop :=
  existing.metric = fact.metric ∧ existing.period = fact.period ∧
    existing.value ≠ fact.value

instance (existing fact : Fact) : Decidable (existing.Contradicts fact) :=
  inferInstanceAs (Decidable (_ ∧ _))

namespace AnalysisRunBoard

def create (boardId analysisRunId organizationId : UUID) (now : Int) :
    AnalysisRunBoard where
  boardId
  analysisRunId
  organizationId
  createdAt := now
  updatedAt := now

/-- `contradicted_by`: the first fact on the board that disagrees. -/
def contradictedBy (board : AnalysisRunBoard) (fact : Fact) : Option Fact :=
  board.facts.find? fun existing => decide (existing.Contradicts fact)

def recordFact (board : AnalysisRunBoard) (fact : Fact) (now : Int) :
    AnalysisRunBoard :=
  { board with facts := board.facts ++ [fact], updatedAt := now }

def openConflict (board : AnalysisRunBoard) (conflict : Conflict) (now : Int) :
    AnalysisRunBoard :=
  { board with conflicts := board.conflicts ++ [conflict], updatedAt := now }

def unresolvedConflicts (board : AnalysisRunBoard) : List Conflict :=
  board.conflicts.filter fun conflict => conflict.status = .open

/-- Change the first conflict with the identifier, if there is one. -/
def changeConflict (conflictId : UUID) (change : Conflict → Conflict) :
    List Conflict → Option (List Conflict)
  | [] => none
  | conflict :: conflicts =>
      if conflict.conflictId = conflictId then some (change conflict :: conflicts)
      else (changeConflict conflictId change conflicts).map (conflict :: ·)

def resolveConflict (board : AnalysisRunBoard) (conflictId : UUID)
    (resolution : String) (now : Int) (documentedOnly : Bool := false) :
    Except BoardError AnalysisRunBoard :=
  if PythonText.Blank resolution then
    .error (.valueError "A Conflict resolution requires an explanation")
  else
    let settle (conflict : Conflict) : Conflict := { conflict with
      status := if documentedOnly then .documented else .resolved
      resolution := some (PythonText.strip resolution) }
    match changeConflict conflictId settle board.conflicts with
    | none => .error (.boardTransitionError
        ("Conflict " ++ toString conflictId ++ " is not on this Board"))
    | some conflicts => .ok { board with conflicts, updatedAt := now }

end AnalysisRunBoard

/-- `artifact://execution/…`. -/
def executionReference (executionId : UUID) : EvidenceReference where
  value := "artifact://execution/" ++ toString executionId
  scheme := by
    rw [String.toList_append]
    exact List.IsPrefix.trans (by decide) (List.prefix_append _ _)

open AnalysisRunBoard

/-- One round of the loop of `merge`: record a figure, and open a conflict if it
disagrees with the board. -/
def mergeFigure (now : Int) (workItemId : UUID) (state : AnalysisRunBoard × UUID)
    (measured : ValidatedEvidence) : AnalysisRunBoard × UUID :=
  let (board, newId) := state
  let fact : Fact := {
    factId := newId
    metric := measured.metric
    value := measured.currentValue
    period := measured.currentPeriod
    producingWorkItemId := workItemId
    evidenceRefs := [executionReference measured.producingExecutionId] }
  match board.contradictedBy fact with
  | none => (board.recordFact fact now, newId + 1)
  | some incumbent =>
      let conflict : Conflict := {
        conflictId := newId + 1
        description := fact.metric ++ " over " ++
          (match fact.period with
            | some period => if period = "" then "the whole period" else period
            | none => "the whole period") ++
          " was measured as " ++ incumbent.value ++ " and as " ++ fact.value }
      ((board.recordFact fact now).openConflict conflict now, newId + 2)

/-- A measurement as far as the board is concerned: the Work Item that made it,
and its figures. -/
structure Measurement where
  analystItemId : UUID
  evidence : List ValidatedEvidence
  deriving DecidableEq, Repr

def merge (now : Int) (state : AnalysisRunBoard × UUID) (measurement : Measurement) :
    AnalysisRunBoard × UUID :=
  measurement.evidence.foldl (mergeFigure now measurement.analystItemId) state

/-- The primary measurement and its follow-ups, merged one after the other. -/
def mergeAll (now : Int) (state : AnalysisRunBoard × UUID)
    (measurements : List Measurement) : AnalysisRunBoard × UUID :=
  measurements.foldl (merge now) state

/-- The explanation that `document_conflicts` gives. -/
def documentedResolution : String :=
  "Recorded as an unreconciled disagreement between two independent " ++
    "measurements; neither was discarded."

def documentConflicts (now : Int) (board : AnalysisRunBoard) :
    Except BoardError AnalysisRunBoard :=
  board.unresolvedConflicts.foldlM (fun board conflict =>
    board.resolveConflict conflict.conflictId documentedResolution now true) board

def documentedConflicts (board : AnalysisRunBoard) : List String :=
  (board.conflicts.filter fun conflict => conflict.status ≠ .open).map
    Conflict.description

/-- `require_settled_conflicts` finds no conflict open. -/
def SettledConflicts (board : AnalysisRunBoard) : Prop :=
  board.unresolvedConflicts = []

instance : DecidablePred SettledConflicts :=
  fun board => decEq board.unresolvedConflicts []

/-- The figures of a measurement, as its facts will carry them. -/
def Measurement.figures (measurement : Measurement) :
    List (String × Option String × String) :=
  measurement.evidence.map fun measured =>
    (measured.metric, measured.currentPeriod, measured.currentValue)

/-- Two figures share a metric and a period but differ in value. -/
def FiguresContradict (figures : List (String × Option String × String)) : Prop :=
  ∃ a ∈ figures, ∃ b ∈ figures, a.1 = b.1 ∧ a.2.1 = b.2.1 ∧ a.2.2 ≠ b.2.2

instance : DecidablePred FiguresContradict := fun figures =>
  inferInstanceAs (Decidable (∃ a ∈ figures, ∃ b ∈ figures, _))

variable (now : Int) (workItemId : UUID) {state : AnalysisRunBoard × UUID}

theorem Fact.Contradicts.symm {a b : Fact} (h : a.Contradicts b) : b.Contradicts a :=
  ⟨h.1.symm, h.2.1.symm, fun hvalue => h.2.2 hvalue.symm⟩

theorem contradictedBy_eq_none {board : AnalysisRunBoard} {fact : Fact} :
    board.contradictedBy fact = none ↔
      ¬ ∃ existing ∈ board.facts, existing.Contradicts fact := by
  unfold AnalysisRunBoard.contradictedBy
  simp [List.find?_eq_none]

end Zentra
