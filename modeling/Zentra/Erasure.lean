import Zentra.EvidenceStore

/-!
# Erasing the evidence of a run

`delete_evidence` erases the evidence of a terminal run in one transaction: it
requests the erasure, erases one surface after the other, looks for content that
is left on the surfaces, and only then completes the operation and enqueues the
event.

* `remainingContent_eraseSurfaces` — nothing is ever found to be left;
* `deleteEvidence_cases` — the transaction commits a completed operation, after
  erasing every surface or because that was done before.
-/

open JsonDocument Raising TableRows

namespace Zentra

/-- Where the evidence of an Organization can be. -/
inductive EvidenceSurface
  | agentExecutionInput
  | agentExecutionOutput
  | analysisRunFinding
  | draftFindingNarrative
  | draftFindingClaims
  | citationAggregate
  | draftFindingContradictions
  | agentExecutionOutcome
  | analysisRunFailureMessage
  deriving DecidableEq, Repr

/-- The surfaces, in the order of their definition. -/
def evidenceSurfaces : List EvidenceSurface :=
  [.agentExecutionInput, .agentExecutionOutput, .analysisRunFinding,
    .draftFindingNarrative, .draftFindingClaims, .citationAggregate,
    .draftFindingContradictions, .agentExecutionOutcome, .analysisRunFailureMessage]

theorem mem_evidenceSurfaces (surface : EvidenceSurface) :
    surface ∈ evidenceSurfaces := by
  cases surface <;> decide

/-- `ERASED`: what a value becomes. -/
def erasedText : String := ""

/-- `state - 'finding'`. -/
def RunRow.withoutFinding (row : RunRow) : RunRow :=
  { row with state := row.state.delete "finding" }

/-- `state #- '{failure,message}'`. -/
def RunRow.withoutMessage (row : RunRow) : RunRow :=
  { row with state := row.state.deletePath ["failure", "message"] }

def ExecutionRow.withoutInput (row : ExecutionRow) : ExecutionRow :=
  { row with input := [] }

def ExecutionRow.withoutOutput (row : ExecutionRow) : ExecutionRow :=
  { row with output := none }

/-- The kind of the outcome and the confidence stay. -/
def ExecutionRow.withoutOutcome (row : ExecutionRow) : ExecutionRow :=
  { row with outcome := none }

def DraftRow.withoutNarrative (row : DraftRow) : DraftRow :=
  { row with headline := erasedText, summary := erasedText }

def DraftRow.withoutContradictions (row : DraftRow) : DraftRow :=
  { row with contradictions := [] }

/-- The kind and the position stay, and so does the metric. -/
def ClaimRow.erased (row : ClaimRow) : ClaimRow :=
  { row with claimText := erasedText, claimValue := some erasedText, period := none }

def CitationRow.erased (row : CitationRow) : CitationRow :=
  { row with
    aggregateValue := erasedText
    state := .tombstoned
    filters := []
    metric := erasedText
    period := none
    grain := none }

namespace Database

variable (db : Database) (key : RunKey)

def updateRun (change : RunRow → RunRow) : Database :=
  { db with
    analysisRuns := Function.update db.analysisRuns key
      ((db.analysisRuns key).map change) }

def updateExecutions (change : ExecutionRow → ExecutionRow) : Database :=
  { db with
    agentExecutions := update (fun row => row.key = key) change db.agentExecutions }

def updateDrafts (change : DraftRow → DraftRow) : Database :=
  { db with draftFindings := update (fun row => row.key = key) change db.draftFindings }

def updateClaims (change : ClaimRow → ClaimRow) : Database :=
  { db with
    draftFindingClaims := update (fun row => row.draftFindingId ∈ db.draftIds key ∧
      row.organizationId = key.organizationId) change db.draftFindingClaims }

def updateCitations (change : CitationRow → CitationRow) : Database :=
  { db with
    evidenceCitations :=
      update (fun row => row.key = key) change db.evidenceCitations }

def eraseSurface : EvidenceSurface → Database
  | .agentExecutionInput => db.updateExecutions key ExecutionRow.withoutInput
  | .agentExecutionOutput => db.updateExecutions key ExecutionRow.withoutOutput
  | .analysisRunFinding => db.updateRun key RunRow.withoutFinding
  | .draftFindingNarrative => db.updateDrafts key DraftRow.withoutNarrative
  | .draftFindingClaims => db.updateClaims key ClaimRow.erased
  | .citationAggregate => db.updateCitations key CitationRow.erased
  | .draftFindingContradictions => db.updateDrafts key DraftRow.withoutContradictions
  | .agentExecutionOutcome => db.updateExecutions key ExecutionRow.withoutOutcome
  | .analysisRunFailureMessage => db.updateRun key RunRow.withoutMessage

def eraseSurfaces (surfaces : List EvidenceSurface) : Database :=
  surfaces.foldl (fun db surface => db.eraseSurface key surface) db

/-- The claims of the drafts of the run. -/
def claims : List ClaimRow :=
  select (fun row => row.draftFindingId ∈ db.draftIds key ∧
    row.organizationId = key.organizationId) db.draftFindingClaims

def executions : List ExecutionRow :=
  select (fun row => row.key = key) db.agentExecutions

def citationRows : List CitationRow :=
  select (fun row => row.key = key) db.evidenceCitations

/-- The checks of `_remaining_content`: a surface, and whether any row of the run
still holds something there.  Two surfaces are not checked. -/
def contentChecks : List (EvidenceSurface × Bool) := [
  (.agentExecutionInput, (db.executions key).any fun row => !row.input.isEmpty),
  (.agentExecutionOutput, (db.executions key).any fun row => row.output.isSome),
  (.agentExecutionOutcome, (db.executions key).any fun row => row.outcome.isSome),
  (.analysisRunFinding,
    (db.analysisRuns key).any fun row => (row.state.get "finding").isSome),
  (.draftFindingNarrative, (db.drafts key).any fun row =>
    decide (row.headline ≠ erasedText) || decide (row.summary ≠ erasedText)),
  (.draftFindingClaims, (db.claims key).any fun row =>
    decide (row.claimText ≠ erasedText) ||
      row.claimValue.any fun value => decide (value ≠ erasedText)),
  (.citationAggregate, (db.citationRows key).any fun row =>
    decide (row.aggregateValue ≠ erasedText))]

def remainingContent : List EvidenceSurface :=
  ((db.contentChecks key).filter Prod.snd).map Prod.fst

end Database

/-- `UPDATE … SET progress = 'erasing'`, which leaves the completion time as it
is: on a completed row the check constraint refuses it. -/
def ErasureOperation.startErasing (operation : ErasureOperation) :
    Option ErasureOperation :=
  if h : operation.completedAt = none then
    some { operation with
      progress := .erasing
      attempts := operation.attempts + 1
      failureCode := none
      completion_recorded := by simp [h]
      failure_explained := by simp }
  else none

/-- `UPDATE … SET progress = 'completed'`. -/
def ErasureOperation.complete (operation : ErasureOperation) (now : Int) :
    ErasureOperation :=
  { operation with
    progress := .completed
    completedAt := some now
    failureCode := none
    completion_recorded := by simp
    failure_explained := by simp }

/-- The row that `request` inserts. -/
def ErasureOperation.fresh (erasureId : UUID) (key : RunKey)
    (category : DeletionCategory) (now : Int) : ErasureOperation :=
  { erasureId, key, category, progress := .requested, requestedAt := now }

/-- What `delete_evidence` raises. -/
inductive DeletionError
  | permissionDenied (message : String)
  | analysisRunNotFound (message : String)
  | lookupError (message : String)
  | conflict (message : String)
  | erasureIncomplete (surfaces : List EvidenceSurface)
  | scenarioUnavailable (message : String)
  | integrityError
  | row (error : RowError)

namespace Database

variable (db : Database)

def setOperation (key : RunKey) (operation : ErasureOperation) : Database :=
  { db with
    erasureOperations := Function.update db.erasureOperations key (some operation) }

/-- `TERMINAL`. -/
def terminalValues : List String := terminalStatuses.map AnalysisRunStatus.value

/-- The message of `require_erasable`, which the service reports. -/
def notTerminalMessage (status : String) : String :=
  "Evidence can only be erased from a terminal Analysis Run; this one is " ++ status

def request (key : RunKey) (erasureId : UUID) (category : DeletionCategory) (now : Int) :
    Except DeletionError (ErasureOperation × Database) :=
  match db.analysisRuns key with
  | none => .error (.lookupError "AnalysisRun was not found")
  | some row =>
      if row.status ∉ terminalValues then .error (.conflict (notTerminalMessage row.status))
      else
        match db.erasureOperations key with
        | some existing => .ok (existing, db)
        | none =>
            let operation := ErasureOperation.fresh erasureId key category now
            .ok (operation, db.setOperation key operation)

def erase (key : RunKey) (now : Int) :
    Except DeletionError (ErasureOperation × Database) :=
  match db.erasureOperations key with
  | none => .error (.lookupError "No erasure was requested for this AnalysisRun")
  | some operation =>
      if operation.progress = .completed then .ok (operation, db)
      else
        match operation.startErasing with
        | none => .error .integrityError
        | some erasing =>
            let swept := (db.setOperation key erasing).eraseSurfaces key evidenceSurfaces
            if swept.remainingContent key ≠ [] then
              .error (.erasureIncomplete (swept.remainingContent key))
            else
              .ok (erasing.complete now, swept.setOperation key (erasing.complete now))

def enqueueErased (run : AnalysisRun) (category : DeletionCategory) (now : Int) :
    Database :=
  let recorded := (AnalysisRun.recordEvidenceErased now category.value).after run
  { db with outbox := db.outbox ++ recorded.events.drop run.events.length }

/-- The transaction of `delete_evidence`: the operation that it reports, and the
database that it commits. -/
def deleteEvidence (role : Role) (key : RunKey) (erasureId : UUID)
    (category : DeletionCategory) (now : Int) :
    Except DeletionError (ErasureOperation × Database) :=
  if role ∉ [Role.owner, .admin] then
    .error (.permissionDenied "This membership cannot delete evidence")
  else
    match db.analysisRuns key with
    | none => .error (.analysisRunNotFound "AnalysisRun was not found")
    | some row =>
        match analysisRunFromRow row with
        | .error error => .error (.row error)
        | .ok run =>
            match db.request key erasureId category now with
            | .error error => .error error
            | .ok (requested, db) =>
                if requested.progress = .completed then .ok (requested, db)
                else
                  match db.erase key now with
                  | .error error => .error error
                  | .ok (operation, db) =>
                      if operation.progress ≠ .completed then
                        .error (.scenarioUnavailable "Evidence deletion did not complete")
                      else .ok (operation, db.enqueueErased run category now)

end Database

def EvidenceCitation.erased (citation : EvidenceCitation) : EvidenceCitation :=
  { citation with
    aggregateValue := erasedText
    state := .tombstoned
    filters := []
    metric := erasedText
    period := none
    grain := none }

namespace Readings

variable (readings : Readings)

def mapDraft (change : DraftRow → DraftRow) : Readings :=
  { readings with
    draft := readings.draft.map fun reading =>
      { reading with draft := change reading.draft } }

def mapClaims (change : ClaimRow → ClaimRow) : Readings :=
  { readings with
    draft := readings.draft.map fun reading =>
      { reading with claims := reading.claims.map change } }

def mapRun (change : RunRow → RunRow) : Readings :=
  { readings with run := readings.run.map change }

def eraseSurface : EvidenceSurface → Readings
  | .agentExecutionInput | .agentExecutionOutput | .agentExecutionOutcome => readings
  | .analysisRunFinding => readings.mapRun RunRow.withoutFinding
  | .draftFindingNarrative => readings.mapDraft DraftRow.withoutNarrative
  | .draftFindingClaims => readings.mapClaims ClaimRow.erased
  | .citationAggregate =>
      { readings with citations := readings.citations.map EvidenceCitation.erased }
  | .draftFindingContradictions => readings.mapDraft DraftRow.withoutContradictions
  | .analysisRunFailureMessage => readings.mapRun RunRow.withoutMessage

def eraseSurfaces (surfaces : List EvidenceSurface) : Readings :=
  surfaces.foldl eraseSurface readings

end Readings

namespace Database

variable {db : Database} {key : RunKey}

theorem readings_updateRun (change : RunRow → RunRow) :
    (db.updateRun key change).readings key = (db.readings key).mapRun change := by
  have hrun : (db.updateRun key change).analysisRuns key =
      (db.analysisRuns key).map change := Function.update_self _ _ _
  show Readings.mk ((db.updateRun key change).analysisRuns key) _ _ _ _ = _
  rw [hrun]
  rfl

/-- The executions are read only to see whether they are there. -/
theorem readings_updateExecutions {change : ExecutionRow → ExecutionRow}
    (hid : ∀ row, (change row).executionId = row.executionId) :
    (db.updateExecutions key change).readings key = db.readings key := by
  have hids : (db.updateExecutions key change).agentExecutions.map
      ExecutionRow.executionId = db.agentExecutions.map ExecutionRow.executionId :=
    map_update hid
  have hcitation : (db.updateExecutions key change).citationFromRow =
      db.citationFromRow := by
    funext row
    unfold citationFromRow resolvedState
    rw [hids]
  show { db.readings key with
    citations := (db.citationRows key).map
      (db.updateExecutions key change).citationFromRow } = _
  rw [hcitation]
  rfl

def KeepsDraft (change : DraftRow → DraftRow) : Prop :=
  ∀ row, (change row).draftFindingId = row.draftFindingId ∧
    (change row).key = row.key ∧ (change row).version = row.version

theorem drafts_updateDrafts {change : DraftRow → DraftRow} (hkeep : KeepsDraft change) :
    (db.updateDrafts key change).drafts key = (db.drafts key).map change :=
  select_update (fun _ h => h) fun row => by rw [(hkeep row).2.1]

theorem readings_updateDrafts {change : DraftRow → DraftRow}
    (hkeep : KeepsDraft change) :
    (db.updateDrafts key change).readings key = (db.readings key).mapDraft change := by
  have hlatest : (db.updateDrafts key change).latestDraft key =
      (db.latestDraft key).map change := by
    unfold latestDraft
    rw [drafts_updateDrafts hkeep, ordered_map fun row => by rw [(hkeep row).2.2],
      List.head?_map]
  have hclaims : ∀ draft, (db.updateDrafts key change).claimsOf key (change draft) =
      db.claimsOf key draft := by
    intro draft
    unfold claimsOf
    rw [(hkeep draft).1]
    rfl
  have hreading : (db.updateDrafts key change).draftReading key =
      (db.draftReading key).map fun reading =>
        { reading with draft := change reading.draft } := by
    unfold draftReading
    rw [hlatest, Option.map_map, Option.map_map]
    congr 1
    funext draft
    show DraftReading.mk _ _ _ = _
    rw [hclaims]
    rfl
  show { db.readings key with draft := (db.updateDrafts key change).draftReading key } = _
  rw [hreading]
  rfl

theorem latestDraft_mem {draft : DraftRow} (h : db.latestDraft key = some draft) :
    draft.draftFindingId ∈ db.draftIds key := by
  have hmem : draft ∈ ordered (fun row => -row.version) (db.drafts key) :=
    List.mem_of_mem_head? h
  exact List.mem_map_of_mem (mem_ordered.1 hmem)

/-- The identity of a claim and its place in its draft. -/
def KeepsClaim (change : ClaimRow → ClaimRow) : Prop :=
  ∀ row, (change row).claimId = row.claimId ∧
    (change row).draftFindingId = row.draftFindingId ∧
    (change row).organizationId = row.organizationId ∧
    (change row).position = row.position

theorem readings_updateClaims {change : ClaimRow → ClaimRow}
    (hkeep : KeepsClaim change) :
    (db.updateClaims key change).readings key = (db.readings key).mapClaims change := by
  have hclaims : ∀ draft, db.latestDraft key = some draft →
      (db.updateClaims key change).claimsOf key draft =
        (db.claimsOf key draft).map change := by
    intro draft hdraft
    unfold claimsOf
    rw [← ordered_map fun row => (hkeep row).2.2.2]
    congr 1
    refine select_update ?_ ?_
    · rintro row ⟨hrow, horganization⟩
      exact ⟨hrow ▸ latestDraft_mem hdraft, horganization⟩
    · intro row
      rw [(hkeep row).2.1, (hkeep row).2.2.1]
  have hlinks : ∀ claims : List ClaimRow,
      (db.updateClaims key change).linksOf key (claims.map change) =
        db.linksOf key claims := by
    intro claims
    have hids : (claims.map change).map ClaimRow.claimId =
        claims.map ClaimRow.claimId := by
      rw [List.map_map]
      exact List.map_congr_left fun row _ => (hkeep row).1
    unfold linksOf
    rw [hids]
    rfl
  have hreading : (db.updateClaims key change).draftReading key =
      (db.draftReading key).map fun reading =>
        { reading with claims := reading.claims.map change } := by
    show (db.latestDraft key).map _ = _
    unfold draftReading
    cases hdraft : db.latestDraft key with
    | none => rfl
    | some draft =>
        show some (DraftReading.mk _ _ _) = some (DraftReading.mk _ _ _)
        rw [hclaims draft hdraft, hlinks]
  show { db.readings key with draft := (db.updateClaims key change).draftReading key } = _
  rw [hreading]
  rfl

theorem readings_updateCitations {change : CitationRow → CitationRow}
    {changed : EvidenceCitation → EvidenceCitation}
    (hkey : ∀ row, (change row).key = row.key)
    (hchanged : ∀ row, db.citationFromRow (change row) =
      changed (db.citationFromRow row)) :
    (db.updateCitations key change).readings key =
      { db.readings key with citations := (db.citations key).map changed } := by
  have hcitations : (db.updateCitations key change).citations key =
      (db.citations key).map changed := by
    have hrows : select (fun row => row.key = key)
        (update (fun row => row.key = key) change db.evidenceCitations) =
          (select (fun row => row.key = key) db.evidenceCitations).map change :=
      select_update (fun _ h => h) fun row => by rw [hkey row]
    show (select _ (update _ change db.evidenceCitations)).map db.citationFromRow = _
    unfold citations
    rw [hrows, List.map_map, List.map_map]
    exact List.map_congr_left fun row _ => hchanged row
  show { db.readings key with
    citations := (db.updateCitations key change).citations key } = _
  rw [hcitations]

theorem keepsDraft_withoutNarrative : KeepsDraft DraftRow.withoutNarrative :=
  fun _ => ⟨rfl, rfl, rfl⟩

theorem keepsDraft_withoutContradictions : KeepsDraft DraftRow.withoutContradictions :=
  fun _ => ⟨rfl, rfl, rfl⟩

theorem keepsClaim_erased : KeepsClaim ClaimRow.erased :=
  fun _ => ⟨rfl, rfl, rfl, rfl⟩

/-- **What is read after a surface was erased** is what was read before, with
the surface erased from it. -/
theorem readings_eraseSurface (surface : EvidenceSurface) :
    (db.eraseSurface key surface).readings key =
      (db.readings key).eraseSurface surface := by
  cases surface with
  | agentExecutionInput => exact readings_updateExecutions fun _ => rfl
  | agentExecutionOutput => exact readings_updateExecutions fun _ => rfl
  | analysisRunFinding => exact readings_updateRun RunRow.withoutFinding
  | draftFindingNarrative => exact readings_updateDrafts keepsDraft_withoutNarrative
  | draftFindingClaims => exact readings_updateClaims keepsClaim_erased
  | citationAggregate => exact readings_updateCitations (fun _ => rfl) fun _ => rfl
  | draftFindingContradictions =>
      exact readings_updateDrafts keepsDraft_withoutContradictions
  | agentExecutionOutcome => exact readings_updateExecutions fun _ => rfl
  | analysisRunFailureMessage => exact readings_updateRun RunRow.withoutMessage

theorem readings_eraseSurfaces (surfaces : List EvidenceSurface) :
    (db.eraseSurfaces key surfaces).readings key =
      (db.readings key).eraseSurfaces surfaces := by
  unfold eraseSurfaces Readings.eraseSurfaces
  induction surfaces generalizing db with
  | nil => rfl
  | cons surface surfaces ih =>
      rw [List.foldl_cons, List.foldl_cons, ih, readings_eraseSurface]

theorem executions_updateExecutions {change : ExecutionRow → ExecutionRow}
    (hkey : ∀ row, (change row).key = row.key) :
    (db.updateExecutions key change).executions key = (db.executions key).map change :=
  select_update (fun _ h => h) fun row => by rw [hkey row]

theorem claims_updateClaims {change : ClaimRow → ClaimRow} (hkeep : KeepsClaim change) :
    (db.updateClaims key change).claims key = (db.claims key).map change :=
  select_update (fun _ h => h) fun row => by rw [(hkeep row).2.1, (hkeep row).2.2.1]

theorem draftIds_updateDrafts {change : DraftRow → DraftRow}
    (hkeep : KeepsDraft change) :
    (db.updateDrafts key change).draftIds key = db.draftIds key := by
  unfold draftIds
  rw [drafts_updateDrafts hkeep, List.map_map]
  exact List.map_congr_left fun row _ => (hkeep row).1

theorem claims_updateDrafts {change : DraftRow → DraftRow} (hkeep : KeepsDraft change) :
    (db.updateDrafts key change).claims key = db.claims key := by
  unfold claims
  rw [draftIds_updateDrafts hkeep]
  rfl

variable (db key)

/-- The database after all surfaces were erased. -/
def swept : Database := db.eraseSurfaces key evidenceSurfaces

theorem executions_swept :
    (db.swept key).executions key =
      (db.executions key).map (ExecutionRow.withoutOutcome ∘
        ExecutionRow.withoutOutput ∘ ExecutionRow.withoutInput) := by
  have hinput : ∀ row, (ExecutionRow.withoutInput row).key = row.key := fun _ => rfl
  have houtput : ∀ row, (ExecutionRow.withoutOutput row).key = row.key := fun _ => rfl
  have houtcome : ∀ row, (ExecutionRow.withoutOutcome row).key = row.key := fun _ => rfl
  show (((db.updateExecutions key ExecutionRow.withoutInput).updateExecutions key
    ExecutionRow.withoutOutput).updateExecutions key
      ExecutionRow.withoutOutcome).executions key = _
  rw [executions_updateExecutions houtcome, executions_updateExecutions houtput,
    executions_updateExecutions hinput, List.map_map, List.map_map]
  rfl

theorem drafts_swept :
    (db.swept key).drafts key =
      (db.drafts key).map (DraftRow.withoutContradictions ∘ DraftRow.withoutNarrative) := by
  show ((db.updateDrafts key DraftRow.withoutNarrative).updateDrafts key
    DraftRow.withoutContradictions).drafts key = _
  rw [drafts_updateDrafts keepsDraft_withoutContradictions,
    drafts_updateDrafts keepsDraft_withoutNarrative, List.map_map]

theorem claims_swept :
    (db.swept key).claims key = (db.claims key).map ClaimRow.erased := by
  show (((db.updateDrafts key DraftRow.withoutNarrative).updateClaims key
    ClaimRow.erased).updateDrafts key DraftRow.withoutContradictions).claims key = _
  rw [claims_updateDrafts keepsDraft_withoutContradictions,
    claims_updateClaims keepsClaim_erased, claims_updateDrafts keepsDraft_withoutNarrative]

theorem citationRows_swept :
    (db.swept key).citationRows key =
      (db.citationRows key).map CitationRow.erased := by
  show (db.updateCitations key CitationRow.erased).citationRows key = _
  exact select_update (fun _ h => h) fun _ => Iff.rfl

theorem analysisRuns_updateRun (change : RunRow → RunRow) :
    (db.updateRun key change).analysisRuns key = (db.analysisRuns key).map change :=
  Function.update_self _ _ _

theorem analysisRuns_swept :
    (db.swept key).analysisRuns key =
      (db.analysisRuns key).map (RunRow.withoutMessage ∘ RunRow.withoutFinding) := by
  show ((db.updateRun key RunRow.withoutFinding).updateRun key
    RunRow.withoutMessage).analysisRuns key = _
  rw [analysisRuns_updateRun, analysisRuns_updateRun, Option.map_map]

/-- **Nothing is found to be left** once all surfaces were erased. -/
theorem remainingContent_swept : (db.swept key).remainingContent key = [] := by
  have hfinding : ∀ row : RunRow,
      (row.withoutFinding.withoutMessage.state.get "finding").isSome = false := by
    intro row
    have hget : row.withoutFinding.withoutMessage.state.get "finding" = none := by
      show Object.get "finding" (Object.deletePath ["failure", "message"]
        (Object.delete "finding" row.state)) = none
      rw [Object.get_deletePath, if_neg (by decide), Object.get_delete, if_pos rfl]
    rw [hget]
    rfl
  unfold remainingContent contentChecks
  rw [executions_swept, analysisRuns_swept, drafts_swept, claims_swept,
    citationRows_swept]
  cases db.analysisRuns key with
  | none =>
      simp [ExecutionRow.withoutInput, ExecutionRow.withoutOutput,
        ExecutionRow.withoutOutcome, DraftRow.withoutContradictions,
        DraftRow.withoutNarrative, ClaimRow.erased, CitationRow.erased]
  | some row =>
      simp [hfinding row, ExecutionRow.withoutInput, ExecutionRow.withoutOutput,
        ExecutionRow.withoutOutcome, DraftRow.withoutContradictions,
        DraftRow.withoutNarrative, ClaimRow.erased, CitationRow.erased]

variable {db key}

theorem startErasing_isSome {operation : ErasureOperation}
    (h : operation.progress ≠ .completed) : operation.startErasing.isSome := by
  have hnone : operation.completedAt = none := by
    have hrecorded := mt operation.completion_recorded.2 h
    simpa using hrecorded
  unfold ErasureOperation.startErasing
  rw [dif_pos hnone]
  rfl

/-- The erasure of the run was completed before. -/
def Completed (db : Database) (key : RunKey) : Prop :=
  ∃ operation, db.erasureOperations key = some operation ∧
    operation.progress = .completed

/-- An operation that was not completed before is completed now. -/
theorem erase_ok {now : Int} {existing : ErasureOperation}
    (hexisting : db.erasureOperations key = some existing)
    (hopen : existing.progress ≠ .completed) :
    ∃ started, db.erase key now = .ok (started.complete now,
      ((db.swept key).setOperation key started).setOperation key
        (started.complete now)) := by
  obtain ⟨started, hstarted⟩ := Option.isSome_iff_exists.1 (startErasing_isSome hopen)
  have hclear : ((db.setOperation key started).eraseSurfaces key
      evidenceSurfaces).remainingContent key = [] :=
    remainingContent_swept (db.setOperation key started) key
  refine ⟨started, ?_⟩
  unfold erase
  simp only [hexisting, if_neg hopen, hstarted, hclear, ne_eq, not_true_eq_false, if_false]
  rfl

variable {role : Role} {erasureId : UUID} {category : DeletionCategory} {now : Int}
  {row : RunRow} {run : AnalysisRun}

/-- The deletion goes through: for a membership that may delete, on a terminal
run that can be read. -/
structure Deletable (db : Database) (key : RunKey) (role : Role) (row : RunRow)
    (run : AnalysisRun) : Prop where
  permitted : role ∈ [Role.owner, .admin]
  found : db.analysisRuns key = some row
  readable : analysisRunFromRow row = .ok run
  terminal : row.status ∈ terminalValues

theorem deleteEvidence_of_completed (h : db.Deletable key role row run)
    (hcompleted : db.Completed key) :
    ∃ operation, db.deleteEvidence role key erasureId category now =
      .ok (operation, db) ∧ operation.progress = .completed := by
  obtain ⟨operation, hoperation, hprogress⟩ := hcompleted
  refine ⟨operation, ?_, hprogress⟩
  have hrequest : db.request key erasureId category now = .ok (operation, db) := by
    unfold request
    simp only [h.found, h.terminal, not_true_eq_false, if_false, hoperation]
  unfold deleteEvidence
  simp only [h.permitted, not_true_eq_false, if_false, h.found, h.readable, hrequest,
    hprogress, if_true]

/-- Otherwise every surface is erased and the operation is completed. -/
theorem deleteEvidence_of_open (h : db.Deletable key role row run)
    (hopen : ¬ db.Completed key) :
    ∃ operation after, db.deleteEvidence role key erasureId category now =
        .ok (operation, after) ∧ operation.progress = .completed ∧
      after.erasureOperations key = some operation ∧
      after.readings key = (db.swept key).readings key := by
  have hrequest : ∃ requested requestedDb,
      db.request key erasureId category now = .ok (requested, requestedDb) ∧
        requested.progress ≠ .completed ∧
        requestedDb.erasureOperations key = some requested ∧
        (requestedDb.swept key).readings key = (db.swept key).readings key := by
    unfold request
    simp only [h.found, h.terminal, not_true_eq_false, if_false]
    cases hexisting : db.erasureOperations key with
    | none =>
        refine ⟨_, _, rfl, ?_, Function.update_self _ _ _, rfl⟩
        intro hcompleted
        cases hcompleted
    | some existing =>
        refine ⟨existing, db, rfl, ?_, hexisting, rfl⟩
        intro hcompleted
        exact hopen ⟨existing, hexisting, hcompleted⟩
  obtain ⟨requested, requestedDb, hrequest, hprogress, hoperation, hreadings⟩ := hrequest
  obtain ⟨started, herase⟩ := @erase_ok requestedDb key now requested hoperation hprogress
  refine ⟨started.complete now,
    (((requestedDb.swept key).setOperation key started).setOperation key
      (started.complete now)).enqueueErased run category now,
    ?_, rfl, Function.update_self _ _ _, hreadings⟩
  unfold deleteEvidence
  simp only [h.permitted, not_true_eq_false, if_false, h.found, h.readable, hrequest,
    hprogress, herase]
  rfl

theorem deletable_of_returns {operation : ErasureOperation} {after : Database}
    (hret : db.deleteEvidence role key erasureId category now = .ok (operation, after)) :
    ∃ row run, db.Deletable key role row run := by
  unfold deleteEvidence at hret
  by_cases hrole : role ∈ [Role.owner, .admin]
  · rw [if_neg (not_not.2 hrole)] at hret
    cases hrow : db.analysisRuns key with
    | none =>
        rw [hrow] at hret
        cases hret
    | some row =>
        cases hrun : analysisRunFromRow row with
        | error e =>
            simp only [hrow, hrun] at hret
            cases hret
        | ok run =>
            refine ⟨row, run, hrole, hrow, hrun, ?_⟩
            by_contra hlive
            have hrequest : db.request key erasureId category now =
                .error (.conflict (notTerminalMessage row.status)) := by
              unfold request
              simp only [hrow, hlive, not_false_eq_true, if_true]
            simp only [hrow, hrun, hrequest] at hret
            cases hret
  · rw [if_pos hrole] at hret
    cases hret

end Database

end Zentra
