import Zentra.RunBoard
import Zentra.RunRow
import Zentra.TableRows

/-!
# Where the evidence of a run is stored

The tables that hold what a run measured and concluded, and what the readers of
a run, its board, its citations and its current draft get to see of them.

Every query names the run and the Organization; a table that has only one of
them reaches the run through another table, and row-level security adds the
Organization.
-/

open JsonDocument TableRows

namespace Zentra

/-- The run and the Organization that a query names. -/
structure RunKey where
  analysisRunId : UUID
  organizationId : UUID
  deriving DecidableEq, Repr

/-- A row of `agent_executions`. -/
structure ExecutionRow where
  executionId : UUID
  key : RunKey
  agentId : String
  step : Int
  input : Object
  output : Option Json
  outcomeKind : Option String
  confidence : Option ℚ
  outcome : Option Json

/-- A row of `draft_findings`. -/
structure DraftRow where
  draftFindingId : UUID
  key : RunKey
  version : Int
  producedByExecutionId : Option UUID
  headline : String
  summary : String
  contradictions : List Contradiction
  rootCause : RootCauseState
  confidence : Option ConfidenceOutcome
  createdAt : Int

/-- A row of `draft_finding_claims`. -/
structure ClaimRow where
  claimId : UUID
  draftFindingId : UUID
  organizationId : UUID
  kind : ClaimKind
  claimText : String
  metric : Option String
  claimValue : Option String
  period : Option String
  position : Int

/-- A row of `draft_finding_claim_citations`. -/
structure ClaimCitationRow where
  claimId : UUID
  citationId : UUID
  organizationId : UUID
  position : Int

/-- A row of `evidence_citations`. -/
structure CitationRow where
  citationId : UUID
  key : RunKey
  metric : String
  filters : List CitationFilter
  period : Option String
  grain : Option String
  producingExecutionId : Option UUID
  aggregateValue : String
  evaluatorOutcome : Option OutcomeSignal
  state : CitationState
  createdAt : Int := 0

/-- A row of `analysis_workspaces`. -/
structure WorkspaceRow where
  workspaceId : UUID
  key : RunKey

/-- A row of `board_facts`. -/
structure FactRow where
  workspaceId : UUID
  organizationId : UUID
  fact : Fact

/-- A row of `board_conflicts`. -/
structure ConflictRow where
  workspaceId : UUID
  organizationId : UUID
  conflict : Conflict

inductive DeletionCategory
  | organizationRequest
  deriving DecidableEq, Repr

def DeletionCategory.value : DeletionCategory → String
  | organizationRequest => "organization_request"

inductive ErasureProgress
  | requested
  | erasing
  | completed
  | failed
  deriving DecidableEq, Repr

/-- One request to erase one Analysis Run's evidence.  The constructor and the
table refuse a completion time without a completion, a completion without its
time and an unexplained failure. -/
structure ErasureOperation where
  erasureId : UUID
  key : RunKey
  category : DeletionCategory
  progress : ErasureProgress
  requestedAt : Int
  completedAt : Option Int := none
  attempts : Int := 0
  failureCode : Option String := none
  completion_recorded : progress = .completed ↔ completedAt.isSome := by simp
  failure_explained : progress = .failed → failureCode.isSome := by simp
  deriving DecidableEq

structure Database where
  analysisRuns : RunKey → Option RunRow
  agentExecutions : List ExecutionRow
  draftFindings : List DraftRow
  draftFindingClaims : List ClaimRow
  claimCitations : List ClaimCitationRow
  evidenceCitations : List CitationRow
  workspaces : List WorkspaceRow
  boardFacts : List FactRow
  boardConflicts : List ConflictRow
  erasureOperations : RunKey → Option ErasureOperation
  outbox : List DomainEvent

def AnalysisRun.key (run : AnalysisRun) : RunKey :=
  ⟨run.analysisRunId, run.organizationId⟩

namespace Database

variable (db : Database) (key : RunKey)

def empty : Database where
  analysisRuns := fun _ => none
  agentExecutions := []
  draftFindings := []
  draftFindingClaims := []
  claimCitations := []
  evidenceCitations := []
  workspaces := []
  boardFacts := []
  boardConflicts := []
  erasureOperations := fun _ => none
  outbox := []

def add (run : AnalysisRun) : Database :=
  { db with
    analysisRuns := Function.update db.analysisRuns run.key (some (.ofRun run)) }

def drafts : List DraftRow := select (fun row => row.key = key) db.draftFindings

def draftIds : List UUID := (db.drafts key).map DraftRow.draftFindingId

def save (run : AnalysisRun) (expectedVersion : Int) : Except SaveError Database :=
  match db.analysisRuns run.key with
  | none => .error .concurrentAnalysisRunUpdateError
  | some row => do
      let written ← saveRow run expectedVersion row
      return { db with
        analysisRuns := Function.update db.analysisRuns run.key (some written) }

theorem save_returns {db : Database} {run : AnalysisRun} {expectedVersion : Int}
    {row written : RunRow} (hrow : db.analysisRuns run.key = some row)
    (hwritten : saveRow run expectedVersion row = .ok written) :
    ∃ saved, db.save run expectedVersion = .ok saved := by
  unfold save
  rw [hrow]
  simp only [hwritten]
  exact ⟨_, rfl⟩

end Database

/-- `latest_for_analysis_run`: a draft, its claims and what they cite. -/
structure DraftReading where
  draft : DraftRow
  claims : List ClaimRow
  links : List ClaimCitationRow

/-- What the readers of a run, its board, its citations and its current draft
see. -/
structure Readings where
  run : Option RunRow
  facts : List Fact
  conflicts : List Conflict
  citations : List EvidenceCitation
  draft : Option DraftReading

namespace Database

variable (db : Database) (key : RunKey)

/-- The state of a citation, decided against the execution that produced it. -/
def resolvedState (row : CitationRow) : CitationState :=
  if row.state = .active ∧ ∀ executionId ∈ row.producingExecutionId,
      executionId ∉ db.agentExecutions.map ExecutionRow.executionId then .unavailable
  else row.state

def citationFromRow (row : CitationRow) : EvidenceCitation where
  citationId := row.citationId
  organizationId := row.key.organizationId
  analysisRunId := row.key.analysisRunId
  metric := row.metric
  filters := row.filters
  period := row.period
  grain := row.grain
  producingExecutionId := row.producingExecutionId
  aggregateValue := row.aggregateValue
  evaluatorOutcome := row.evaluatorOutcome
  state := db.resolvedState row

/-- `for_analysis_run`. -/
def citations : List EvidenceCitation :=
  (select (fun row => row.key = key) db.evidenceCitations).map db.citationFromRow

/-- The claims of a draft, in their order. -/
def claimsOf (draft : DraftRow) : List ClaimRow :=
  ordered ClaimRow.position
    (select (fun row => row.draftFindingId = draft.draftFindingId ∧
      row.organizationId = key.organizationId) db.draftFindingClaims)

/-- What the claims cite, in the order of each. -/
def linksOf (claims : List ClaimRow) : List ClaimCitationRow :=
  ordered ClaimCitationRow.position
    (select (fun row => row.claimId ∈ claims.map ClaimRow.claimId ∧
      row.organizationId = key.organizationId) db.claimCitations)

/-- The draft of the highest version. -/
def latestDraft : Option DraftRow :=
  (ordered (fun row => -row.version) (db.drafts key)).head?

/-- `latest_for_analysis_run`. -/
def draftReading : Option DraftReading :=
  (db.latestDraft key).map fun draft => {
    draft
    claims := db.claimsOf key draft
    links := db.linksOf key (db.claimsOf key draft) }

def workspaceIds : List UUID :=
  (select (fun row => row.key = key) db.workspaces).map WorkspaceRow.workspaceId

def facts : List Fact :=
  (select (fun row => row.workspaceId ∈ db.workspaceIds key ∧
    row.organizationId = key.organizationId) db.boardFacts).map FactRow.fact

def conflicts : List Conflict :=
  (select (fun row => row.workspaceId ∈ db.workspaceIds key ∧
    row.organizationId = key.organizationId) db.boardConflicts).map ConflictRow.conflict

def readings : Readings where
  run := db.analysisRuns key
  facts := db.facts key
  conflicts := db.conflicts key
  citations := db.citations key
  draft := db.draftReading key

end Database

end Zentra
