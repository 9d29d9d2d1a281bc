import Zentra.StepTrace
import Zentra.TableSync

/-!
# One run of the background file sync

`triggerSync` of `use-background-file-sync.ts` with `FileDownloadService.downloadAndSaveFiles`
(`libs/foundation/data-layer/src/analytics-sync`): the tables of the response that need an
update are gone through one after the other; the files of a plan are downloaded by concurrent
tasks, and when all have returned the metadata of the table is stored.

* `SyncRun` — the local variables of the run, the metadata in the database, and the files that
  were written;
* `step` — one event: what an await gives, one step of a task, or the abort, at any moment.

A task that fails lets `Promise.all` reject, and the others go on.  Progress reports and the
states that the hook renders are left out.
-/

namespace Zentra.FileSync

structure DownloadConfig where
  concurrency : Nat
  maxRetries : Nat
  deriving DecidableEq, Repr

/-- `skipped`: the task found the signal aborted and returned; `saved`: it returned after its
write; `failed`: it threw. -/
inductive TaskStage
  | waiting
  | downloading (attempt : Nat)
  | sleeping (attempt : Nat)
  | waitingWrite
  | writing
  | skipped
  | saved
  | failed
  deriving DecidableEq, Repr

/-- The task has acquired the semaphore and not released it. -/
def TaskStage.holdsPermit : TaskStage → Bool
  | .downloading _ | .sleeping _ | .waitingWrite | .writing => true
  | _ => false

def TaskStage.resolved : TaskStage → Bool
  | .skipped | .saved => true
  | _ => false

structure Task where
  tableName : String
  file : DataSourceFileInfo
  stage : TaskStage
  deriving DecidableEq, Repr

/-- `downloadAndSaveFiles` starts all tasks at once, and each looks at the signal first. -/
def startTasks (aborted : Bool) (plan : TableUpdatePlan) : List Task :=
  plan.filesToDownload.map fun file =>
    ⟨plan.tableName, file, if aborted then .skipped else .waiting⟩

/-- An HTTP status that is not tried again. -/
def isFinal (status : Option Nat) : Bool :=
  status.any fun status => 400 ≤ status && status < 500 && status ≠ 429

/-- What a failed attempt of `downloadFileWithRetry` leads to. -/
def afterFailedAttempt (config : DownloadConfig) (aborted : Bool) (status : Option Nat)
    (attempt : Nat) : TaskStage :=
  if aborted then .failed
  else if isFinal status then .failed
  else if attempt < config.maxRetries then .sleeping attempt
  else .failed

/-- `nothing`: no updates needed; `aborted`: found aborted after the last plan; `failed`: an
error, or one that was caught after an abort. -/
inductive Outcome
  | nothing
  | completed
  | aborted
  | failed
  deriving DecidableEq, Repr

/-- Which await the run is at, with the plans that are left. -/
inductive Phase
  | fetching
  | readingLocal
  | openingService
  | downloading (plan : TableUpdatePlan) (rest : List TableUpdatePlan)
  | recording (plan : TableUpdatePlan) (rest : List TableUpdatePlan)
  | ended (outcome : Outcome)
  deriving DecidableEq, Repr

/-- `localMetadata` is what was read of the database for the analysis, once it was.  `written`
holds the completed writes with their tables, and `recorded` the plans whose metadata was
stored. -/
structure SyncRun where
  tables : List String
  aborted : Bool
  phase : Phase
  tasks : List Task
  response : DataSourceResponse
  localMetadata : Option (String → Option LocalTableMetadata)
  updatePlans : List TableUpdatePlan
  database : JsMap String LocalTableMetadata
  written : List (String × DataSourceFileInfo)
  recorded : List TableUpdatePlan

def SyncRun.start (tables : List String) (database : JsMap String LocalTableMetadata) :
    SyncRun where
  tables := tables
  aborted := false
  phase := .fetching
  tasks := []
  response := ⟨[]⟩
  localMetadata := none
  updatePlans := []
  database := database
  written := []
  recorded := []

/-- `getLocalMetadataForTables`: only the tables that the hook was given. -/
def SyncRun.readLocal (s : SyncRun) (name : String) : Option LocalTableMetadata :=
  if name ∈ s.tables then s.database.get name else none

def SyncRun.nextPlan (s : SyncRun) : List TableUpdatePlan → SyncRun
  | [] => { s with phase := .ended (if s.aborted then .aborted else .completed) }
  | plan :: rest =>
      { s with phase := .downloading plan rest, tasks := startTasks s.aborted plan }

def SyncRun.finish (s : SyncRun) (outcome : Outcome) : SyncRun :=
  { s with phase := .ended outcome }

def SyncRun.setStage (s : SyncRun) (i : Nat) (stage : TaskStage) : SyncRun :=
  { s with tasks := s.tasks.modify i fun task => { task with stage } }

def SyncRun.stageOf (s : SyncRun) (i : Nat) : Option TaskStage := s.tasks[i]?.map Task.stage

/-- What an await gives, or a task of the current plan does. -/
inductive SyncEvent
  | abort
  | fetched (response : DataSourceResponse)
  | fetchFailed
  | localRead
  | localFailed
  | serviceReady
  | serviceUnavailable
  | acquire (i : Nat)
  | downloaded (i : Nat)
  | downloadFailed (i : Nat) (status : Option Nat)
  | wake (i : Nat)
  | acquireWrite (i : Nat)
  | writeDone (i : Nat)
  | writeFailed (i : Nat)
  | allResolved
  | oneRejected
  | recordDone (now : Int)
  | recordFailed
  deriving Repr

def taskStep (config : DownloadConfig) (s : SyncRun) : SyncEvent → Option SyncRun
  | .acquire i =>
      if s.stageOf i = some .waiting ∧
          s.tasks.countP (fun task => task.stage.holdsPermit) < config.concurrency then
        some (s.setStage i (.downloading 0))
      else none
  | .downloaded i =>
      match s.stageOf i with
      | some (.downloading _) => some (s.setStage i .waitingWrite)
      | _ => none
  | .downloadFailed i status =>
      match s.stageOf i with
      | some (.downloading attempt) =>
          some (s.setStage i (afterFailedAttempt config s.aborted status attempt))
      | _ => none
  | .wake i =>
      match s.stageOf i with
      | some (.sleeping attempt) => some (s.setStage i (.downloading (attempt + 1)))
      | _ => none
  | .acquireWrite i =>
      if s.stageOf i = some .waitingWrite ∧ s.tasks.all (fun task => task.stage ≠ .writing) then
        some (s.setStage i .writing)
      else none
  | .writeDone i =>
      match s.tasks[i]? with
      | some ⟨tableName, file, .writing⟩ =>
          some { s.setStage i .saved with written := (tableName, file) :: s.written }
      | _ => none
  | .writeFailed i =>
      if s.stageOf i = some .writing then some (s.setStage i .failed) else none
  | _ => none

/-- One event, `none` when it cannot come. -/
def step (config : DownloadConfig) (s : SyncRun) : SyncEvent → Option SyncRun
  | .abort => some { s with aborted := true }
  | .fetched response =>
      if s.phase = .fetching then some { s with phase := .readingLocal, response } else none
  | .fetchFailed => if s.phase = .fetching then some (s.finish .failed) else none
  | .localRead =>
      if s.phase = .readingLocal then
        let updatePlans := analyzeUpdates s.response s.readLocal
        some
          { s with
            phase := if updatePlans = [] then .ended .nothing else .openingService
            localMetadata := some s.readLocal
            updatePlans }
      else none
  | .localFailed => if s.phase = .readingLocal then some (s.finish .failed) else none
  | .serviceReady =>
      if s.phase = .openingService then some (s.nextPlan s.updatePlans) else none
  | .serviceUnavailable =>
      if s.phase = .openingService then some (s.finish .failed) else none
  | .allResolved =>
      match s.phase with
      | .downloading plan rest =>
          if s.tasks.all (fun task => task.stage.resolved) then
            some { s with phase := .recording plan rest }
          else none
      | _ => none
  | .oneRejected =>
      match s.phase with
      | .downloading _ _ =>
          if s.tasks.any (fun task => task.stage = .failed) then some (s.finish .failed) else none
      | _ => none
  | .recordDone now =>
      match s.phase with
      | .recording plan rest =>
          some (SyncRun.nextPlan
            { s with
              database := s.database.set plan.tableName
                (createLocalMetadata now plan.tableName plan.remoteInfo)
              recorded := plan :: s.recorded } rest)
      | _ => none
  | .recordFailed =>
      match s.phase with
      | .recording _ _ => some (s.finish .failed)
      | _ => none
  | event => taskStep config s event

section

variable {config : DownloadConfig} {s t : SyncRun} {event : SyncEvent}

theorem afterFailedAttempt_ne {aborted : Bool} {status : Option Nat} {attempt : Nat} :
    afterFailedAttempt config aborted status attempt ≠ .skipped ∧
      afterFailedAttempt config aborted status attempt ≠ .saved := by
  unfold afterFailedAttempt
  split
  · simp
  · split
    · simp
    · split
      · simp
      · simp

/-- A step of a task changes its stage; no task is skipped later, and one is saved with its
write. -/
theorem taskStep_cases (h : taskStep config s event = some t) :
    ∃ i stage written, t = { s.setStage i stage with written } ∧ stage ≠ .skipped ∧
      (∀ entry ∈ s.written, entry ∈ written) ∧
      (stage = .saved → ∀ task ∈ s.tasks[i]?, (task.tableName, task.file) ∈ written) := by
  have hquiet (i : Nat) (stage : TaskStage) (hskipped : stage ≠ .skipped)
      (hsaved : stage ≠ .saved) (hset : some (s.setStage i stage) = some t) :
      ∃ i stage written, t = { s.setStage i stage with written } ∧ stage ≠ .skipped ∧
        (∀ entry ∈ s.written, entry ∈ written) ∧
        (stage = .saved → ∀ task ∈ s.tasks[i]?, (task.tableName, task.file) ∈ written) := by
    obtain rfl := Option.some.inj hset
    exact ⟨i, stage, s.written, rfl, hskipped, fun _ h => h, fun h => absurd h hsaved⟩
  unfold taskStep at h
  split at h
  · split at h
    · exact hquiet _ _ (by simp) (by simp) h
    · cases h
  · split at h
    · exact hquiet _ _ (by simp) (by simp) h
    · cases h
  · split at h
    next attempt hstage =>
      exact hquiet _ _ afterFailedAttempt_ne.1 afterFailedAttempt_ne.2 h
    · cases h
  · split at h
    · exact hquiet _ _ (by simp) (by simp) h
    · cases h
  · split at h
    · exact hquiet _ _ (by simp) (by simp) h
    · cases h
  · split at h
    next found tableName file htask =>
      obtain rfl := Option.some.inj h
      refine ⟨_, .saved, (tableName, file) :: s.written, rfl, by simp,
        fun _ h => List.mem_cons_of_mem _ h, fun _ task htask' => ?_⟩
      rw [htask] at htask'
      obtain rfl := Option.some.inj htask'
      exact List.mem_cons_self
    · cases h
  · split at h
    · exact hquiet _ _ (by simp) (by simp) h
    · cases h
  · cases h

end

end Zentra.FileSync
