import Zentra.WorkerSystem

/-!
# Visualizations

The artifact that is rendered from the brief of a published finding.

* `statusContentIsConsistent` — what its validator accepts;
* `VisualizationActionMapping` — what a user may do from the rendered artifact.
-/

open Raising

namespace Zentra

/-- What the operations on visualizations raise. -/
inductive VisualizationError
  /-- the `ValidationError` of a model -/
  | validation (text : String)
  /-- `IntegrityError` with the constraint -/
  | integrity (constraint : String)
  /-- `DataError`: a value does not fit its column -/
  | data (column : String)
  /-- `_RendererUnavailable` -/
  | rendererUnavailable
  /-- `_BriefUnavailable` -/
  | briefUnavailable
  /-- `AnalysisRunNotFoundError` -/
  | notFound (text : String)
  /-- `ConflictError` -/
  | conflict (text : String)
  /-- a new Execution Job that is refused -/
  | job (error : JobError)
  deriving DecidableEq, Repr

inductive VisualizationArtifactStatus
  | pending
  | generating
  | ready
  | failed
  | tombstoned
  deriving DecidableEq, Repr

inductive RendererKind
  | thesysC1
  deriving DecidableEq, Repr

structure VisualizationUsage where
  inputTokens : Int := 0
  outputTokens : Int := 0
  costUsd : Rat := 0
  latencyMs : Int := 0
  deriving DecidableEq

structure VisualizationArtifact where
  visualizationId : UUID
  organizationId : UUID
  analysisRunId : UUID
  briefId : UUID
  status : VisualizationArtifactStatus
  rendererKind : RendererKind := .thesysC1
  model : Option String := none
  apiVersion : Option String := none
  c1Response : Option String := none
  usage : VisualizationUsage := {}
  failureCategory : Option String := none
  retryOfVisualizationId : Option UUID := none
  createdAt : Int
  updatedAt : Int
  erasedAt : Option Int := none
  erasureCategory : Option String := none
  deriving DecidableEq

/-- The text is there and not empty: it counts as true. -/
def Truthy (text : Option String) : Prop := ∃ value ∈ text, value ≠ ""

instance (text : Option String) : Decidable (Truthy text) :=
  decidable_of_iff (text.any (· ≠ "")) (by simp [Truthy, Option.any_eq_true])

namespace VisualizationArtifact

variable (artifact : VisualizationArtifact)

def statusContentIsConsistent : Except VisualizationError Unit :=
  if artifact.status = .ready ∧ (¬ Truthy artifact.c1Response ∨ ¬ Truthy artifact.model ∨
      ¬ Truthy artifact.apiVersion) then
    .error (.validation "A ready Visualization requires rendered content metadata")
  else if artifact.status = .failed ∧
      (¬ Truthy artifact.failureCategory ∨ artifact.c1Response ≠ none) then
    .error (.validation "A failed Visualization requires only a safe failure")
  else if artifact.status = .tombstoned ∧ (artifact.c1Response ≠ none ∨
      artifact.erasedAt = none ∨ artifact.erasureCategory = none) then
    .error (.validation "A tombstoned Visualization retains only erasure metadata")
  else .ok ()

end VisualizationArtifact

inductive VisualizationActionKind
  | continueConversation
  | openCitation
  deriving DecidableEq, Repr

structure VisualizationActionMapping where
  actionId : UUID
  organizationId : UUID
  visualizationId : UUID
  threadId : UUID
  analysisRunId : UUID
  kind : VisualizationActionKind
  label : String
  citationId : Option UUID := none
  followUpMessage : Option String := none
  expiresAt : Int
  singleUse : Bool := false
  consumedAt : Option Int := none
  deriving DecidableEq, Repr

end Zentra
