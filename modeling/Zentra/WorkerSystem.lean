import Mathlib.Logic.Function.Basic
import Zentra.ExecutionJobLease
import Zentra.PublicationGate

/-!
# Workers, jobs and runs

The tables of jobs and runs, and any number of worker processes that advance
them.  A step is one committed transaction, or one decision of a worker between
two transactions; other parties may take steps at every such point, and a
worker may die there.

* `Action` — the steps of the workers and of the application's requests;
* `step` — what a step does, transaction by transaction as in the source.

A query that skips locked rows may return any row that meets its condition, so
the row that a claim takes is part of the action.  Rows are read and written by
organization and identifier, as the repositories do.
-/

open Raising Raising.Method

namespace Zentra

/-- What the worker looks at when it classifies an exception. -/
structure PythonError where
  name : String
  /-- the `category` attribute, if it is a string -/
  category : Option String := none
  /-- the `transient` attribute, if it is a boolean -/
  transient : Option Bool := none
  /-- an instance of `TimeoutError` or `ConnectionError` -/
  isNetwork : Bool := false
  /-- an instance of `ValueError`, `TypeError`, `AssertionError` or `LookupError` -/
  isDomain : Bool := false
  deriving DecidableEq, Repr

structure ExecutionFailure where
  category : String
  transient : Bool
  deriving DecidableEq, Repr

def classifyExecutionFailure (error : PythonError) : ExecutionFailure :=
  match error.category, error.transient with
  | some safeCategory, some transient => ⟨safeCategory, transient⟩
  | _, _ =>
      let name := PythonText.lower error.name
      if error.isNetwork then ⟨"network_error", true⟩
      else if PythonText.Occurs "ratelimit" name ∨
          PythonText.Occurs "rate_limit" name then
        ⟨"provider_rate_limited", true⟩
      else if PythonText.Occurs "unavailable" name ∨
          PythonText.Occurs "connection" name ∨ PythonText.Occurs "timeout" name then
        ⟨"dependency_unavailable", true⟩
      else if error.isDomain then ⟨"domain_failure", false⟩
      else ⟨"unexpected", false⟩

namespace PythonError

/-- `AnalysisRunTransitionError`, a `ValueError`. -/
def transition : PythonError :=
  { name := "AnalysisRunTransitionError", isDomain := true }

/-- `AnalysisRunNotFoundError`, a `LookupError`. -/
def notFound : PythonError :=
  { name := "AnalysisRunNotFoundError", isDomain := true }

/-- `ConcurrentAnalysisRunUpdateError`, a `RuntimeError`. -/
def concurrentUpdate : PythonError :=
  { name := "ConcurrentAnalysisRunUpdateError" }

/-- The `RuntimeError` of a worker that cannot render visualizations. -/
def executorUnavailable : PythonError := { name := "RuntimeError" }

end PythonError

/-- What `run_once` raises. -/
inductive WorkerError
  | job (error : JobError)
  | transition (error : AnalysisRunTransitionError)
  | concurrentUpdate
  deriving DecidableEq, Repr

/-- Where a worker stands in `_execute`, between two transactions. -/
inductive Stage
  /-- the job is claimed; the first check for a cancellation is next -/
  | checking
  /-- the executor is next -/
  | executing
  /-- the executor has loaded the run, and runs the pipeline -/
  | evaluating (run : AnalysisRun)
  /-- the executor has returned; the second check is next -/
  | returned
  /-- the executor has raised; the check in the handler is next -/
  | raisedBy (error : PythonError)
  /-- a check has seen a cancellation; `_cancel` is next -/
  | cancelling
  /-- the job is cancelled; the executor's `cancel_job` is next -/
  | cancellingRun
  /-- `_complete` is next -/
  | completing
  /-- `_record_failure` is next -/
  | recording (failure : ExecutionFailure)
  /-- the job has failed; the executor's `fail_job` is next -/
  | failing (category : String)
  /-- `fail_job` has failed the run in memory; saving it over the version that it
  loaded is next -/
  | failingRun (expectedVersion : Int) (run : AnalysisRun)
  deriving DecidableEq

/-- The task that renews the lease beside the executor. -/
inductive Renewal
  | notStarted
  | running
  | returned
  | raised (error : JobError)
  deriving DecidableEq

inductive Worker
  | idle
  | busy (job : ExecutionJob) (stage : Stage) (renewal : Renewal)
  | stopped (error : WorkerError)
  deriving DecidableEq

/-- The committed rows, and the worker processes by number. -/
structure JobSystem where
  jobs : UUID → Option ExecutionJob
  runs : UUID → Option AnalysisRun
  workers : Nat → Worker

/-- How each worker process was started.  Names may collide. -/
structure Deployment where
  workerId : Nat → String
  leaseFor : Nat → Int
  visualizationExecutor : Nat → Bool

namespace JobSystem

def initial : JobSystem := ⟨fun _ => none, fun _ => none, fun _ => .idle⟩

/-- `save_job`, and the insertion of a job. -/
def setJob (s : JobSystem) (job : ExecutionJob) : JobSystem :=
  { s with jobs := Function.update s.jobs job.jobId (some job) }

/-- The row of a run.  Its events go to the outbox and are not read back. -/
def stored (run : AnalysisRun) : AnalysisRun := { run with events := [] }

def setRun (s : JobSystem) (run : AnalysisRun) : JobSystem :=
  { s with runs := Function.update s.runs run.analysisRunId (some (stored run)) }

def setWorker (s : JobSystem) (w : Nat) (worker : Worker) : JobSystem :=
  { s with workers := Function.update s.workers w worker }

def getJob (s : JobSystem) (organizationId jobId : UUID) : Option ExecutionJob :=
  (s.jobs jobId).filter fun job => job.organizationId = organizationId

/-- `analysis_runs.get`. -/
def getRun (s : JobSystem) (organizationId analysisRunId : UUID) :
    Option AnalysisRun :=
  (s.runs analysisRunId).filter fun run => run.organizationId = organizationId

/-- `add_job`, under an identifier that is not taken. -/
def addJob (s : JobSystem) (job : ExecutionJob) : Option JobSystem :=
  if (s.jobs job.jobId).isSome then none else some (s.setJob job)

end JobSystem

/-- The run and the job that a request for an analysis registers. -/
structure NewRun where
  analysisRunId : UUID
  organizationId : UUID
  question : String
  jobId : UUID
  dataConnectionId : Option DataConnectionId := none
  threadId : Option UUID := none
  threadSequence : Option Int := none
  initiatingMessageId : Option UUID := none
  parentAnalysisRunId : Option UUID := none
  retryOfAnalysisRunId : Option UUID := none

/-- What the pipeline and the rest of the transaction do in `_execute`. -/
structure Evaluation where
  /-- what the pipeline returns; `none` if it raises -/
  pipeline : Option PipelineResult
  threshold : ℚ
  now : Int
  approvalId : UUID
  /-- whether the rest of the transaction goes through -/
  persisted : Bool
  /-- what the pipeline or the transaction raises, if it does -/
  error : PythonError
  /-- the job and the artifact of a new visualization, if one is prepared -/
  visualization : Option (UUID × UUID)
  /-- what flushing the audit log raises after the commit, if it does -/
  flushError : Option PythonError

inductive Action
  /-- register a started run with its job (`start`, `retry`, a Thread message) -/
  | register (new : NewRun) (now : Int)
  | requestCancel (actorId organizationId analysisRunId jobId : UUID) (now : Int)
  | decide (organizationId analysisRunId : UUID) (decision : ApprovalDecision)
      (rejectionReason : Option RejectionReason) (now : Int)
      (visualization : Option (UUID × UUID))
  /-- retry a failed visualization, which was prepared with the `original` job -/
  | retryVisualization (organizationId original jobId visualizationId : UUID)
      (now : Int)
  | claim (w : Nat) (organizationId jobId : UUID) (now : Int)
  | check (w : Nat)
  | load (w : Nat) (error : Option PythonError)
  | evaluate (w : Nat) (evaluation : Evaluation)
  | render (w : Nat) (error : Option PythonError)
  | cancelJob (w : Nat) (now : Int)
  | cancelRun (w : Nat) (now : Int)
  | complete (w : Nat) (now : Int)
  | recordFailure (w : Nat) (now : Int)
  | loadFailing (w : Nat) (now : Int)
  | saveFailing (w : Nat)
  | renew (w : Nat) (now : Int)
  /-- the process dies, or is started anew -/
  | die (w : Nat)

namespace NewRun

/-- The run and the job of a request, as they are inserted. -/
def rows (new : NewRun) (now : Int) : Option (AnalysisRun × ExecutionJob) :=
  match AnalysisRun.create new.analysisRunId new.organizationId new.question now
      new.dataConnectionId none new.threadId new.threadSequence
      new.initiatingMessageId new.parentAnalysisRunId new.retryOfAnalysisRunId,
    ExecutionJob.create new.jobId new.organizationId new.analysisRunId now with
  | .ok run, .ok job =>
      match (AnalysisRun.start now).call run with
      | (.ok (), started) => some (started, job)
      | (.error _, _) => none
  | _, _ => none

end NewRun

namespace JobSystem

/-- `start`, `retry` and the Thread messages: the run and its job are inserted
in one transaction, under identifiers that are not taken. -/
def register (s : JobSystem) (new : NewRun) (now : Int) : Option JobSystem :=
  match new.rows now with
  | some (run, job) =>
      if (s.runs run.analysisRunId).isSome then none
      else (s.setRun run).addJob job
  | none => none

def addVisualizationJob (s : JobSystem) (organizationId analysisRunId : UUID)
    (now : Int) (ids : UUID × UUID) : Option JobSystem :=
  match ExecutionJob.create ids.1 organizationId analysisRunId now 2 .visualization
      (some ids.2) with
  | .ok job => s.addJob job
  | .error _ => none

/-- `prepare_published_visualization`: a run without a visualization gets one. -/
def prepareVisualization (s : JobSystem) (run : AnalysisRun) (now : Int) :
    Option (UUID × UUID) → Option JobSystem
  | none => some s
  | some ids => s.addVisualizationJob run.organizationId run.analysisRunId now ids

/-- `AnalysisRunService.cancel`.  A request that is refused commits nothing. -/
def requestCancel (s : JobSystem) (actorId organizationId analysisRunId jobId : UUID)
    (now : Int) : Option JobSystem :=
  match s.getRun organizationId analysisRunId, s.getJob organizationId jobId with
  | some run, some row =>
      if run.Terminal ∨ row.analysisRunId ≠ analysisRunId ∨
          row.jobKind ≠ .analysisRun then none
      else
        let job := ExecutionJob.cancelRequested actorId now row
        if job.status = .cancelled then
          match (AnalysisRun.cancel now).call run with
          | (.ok (), cancelled) => some ((s.setJob job).setRun cancelled)
          | (.error _, _) => none
        else some (s.setJob job)
  | _, _ => none

/-- `AnalysisRunService.decide`, on a run whose approval is still pending. -/
def decide (s : JobSystem) (organizationId analysisRunId : UUID)
    (decision : ApprovalDecision) (rejectionReason : Option RejectionReason)
    (now : Int) (visualization : Option (UUID × UUID)) : Option JobSystem :=
  match s.getRun organizationId analysisRunId with
  | some run =>
      match (AnalysisRun.decide decision rejectionReason now).call run with
      | (.ok (), decided) =>
          (s.setRun decided).prepareVisualization decided now
            (if decision = .approve then visualization else none)
      | (.error _, _) => none
  | none => none

/-- `VisualizationService.retry`. -/
def retryVisualization (s : JobSystem)
    (organizationId original jobId visualizationId : UUID) (now : Int) :
    Option JobSystem :=
  match s.getJob organizationId original with
  | some job =>
      if job.jobKind = .visualization then
        s.addVisualizationJob organizationId job.analysisRunId now
          (jobId, visualizationId)
      else none
  | none => none

end JobSystem

/-- The end of `run_once`: the renewal is awaited, and what it has raised replaces
what the worker raises itself. -/
def Renewal.finish (renewal : Renewal) (error : Option WorkerError) : Worker :=
  match renewal, error with
  | .raised e, _ => .stopped (.job e)
  | _, some e => .stopped e
  | _, none => .idle

namespace JobSystem

/-- A transaction of a worker on its job: read the row for update, call the
operation, save it. -/
def onJob (s : JobSystem) (w : Nat) (job : ExecutionJob) (renewal : Renewal)
    (op : ExecutionJob → JobOp) (next : ExecutionJob → Worker) : JobSystem :=
  match s.getJob job.organizationId job.jobId with
  | none => s.setWorker w (renewal.finish none)
  | some row =>
      match (op row).method.call row with
      | (.ok (), saved) => (s.setJob saved).setWorker w (next saved)
      | (.error e, _) => s.setWorker w (renewal.finish (some (.job e)))

def claim (s : JobSystem) (d : Deployment) (w : Nat) (organizationId jobId : UUID)
    (now : Int) : Option JobSystem :=
  match s.workers w, s.jobs jobId with
  | .idle, some row =>
      if row.ClaimNextSelects organizationId now then
        match (ExecutionJob.claim (d.workerId w) now (d.leaseFor w)).call row with
        | (.ok (), job) =>
            let worker : Worker :=
              if job.organizationId = organizationId
                then .busy job .checking .notStarted else .idle
            some ((s.setJob job).setWorker w worker)
        | (.error e, _) => some (s.setWorker w (.stopped (.job e)))
      else none
  | _, _ => none

/-- `_cancellation_requested`. -/
def CancellationRequested (s : JobSystem) (job : ExecutionJob) : Prop :=
  ∃ row ∈ s.getJob job.organizationId job.jobId, row.cancelRequestedAt.isSome

instance (s : JobSystem) (job : ExecutionJob) :
    Decidable (s.CancellationRequested job) := by
  unfold CancellationRequested
  infer_instance

/-- The three checks of `_execute`.  The renewal starts after the first one. -/
def check (s : JobSystem) (w : Nat) : Option JobSystem :=
  match s.workers w with
  | .busy job stage renewal =>
      let cancelling : Worker := .busy job .cancelling renewal
      match stage with
      | .checking =>
          some (s.setWorker w (if s.CancellationRequested job then cancelling
            else .busy job .executing .running))
      | .returned =>
          some (s.setWorker w (if s.CancellationRequested job then cancelling
            else .busy job .completing renewal))
      | .raisedBy error =>
          some (s.setWorker w (if s.CancellationRequested job then cancelling
            else .busy job (.recording (classifyExecutionFailure error)) renewal))
      | _ => none
  | _ => none

/-- The executor loads the run, or the read raises. -/
def load (s : JobSystem) (w : Nat) (error : Option PythonError) : Option JobSystem :=
  match s.workers w with
  | .busy job .executing renewal =>
      if job.jobKind = .analysisRun then
        let stage : Stage :=
          match error, s.getRun job.organizationId job.analysisRunId with
          | some e, _ => .raisedBy e
          | none, none => .raisedBy .notFound
          | none, some run => .evaluating run
        some (s.setWorker w (.busy job stage renewal))
      else none
  | _ => none

/-- What the worker catches when an evaluation does not commit. -/
def raisedIn (evaluation : Evaluation) : ExecuteError → PythonError
  | .pipeline => evaluation.error
  | .transition _ => .transition
  | .concurrentUpdate => .concurrentUpdate
  | .persistence => evaluation.error

/-- `AnalysisRunService._execute` after it has loaded the run. -/
def evaluate (s : JobSystem) (w : Nat) (evaluation : Evaluation) : Option JobSystem :=
  match s.workers w with
  | .busy job (.evaluating loaded) renewal =>
      let pipeline : Except ExecuteError PipelineResult :=
        match evaluation.pipeline with
        | some result => .ok result
        | none => .error .pipeline
      let storedVersion :=
        match s.getRun job.organizationId job.analysisRunId with
        | some current => current.version
        | none => loaded.version + 1  -- without a row the update matches nothing
      match executeEvaluation loaded storedVersion evaluation.threshold pipeline
          evaluation.now evaluation.approvalId evaluation.persisted with
      | .error e =>
          some (s.setWorker w (.busy job (.raisedBy (raisedIn evaluation e)) renewal))
      | .ok (run, approval) =>
          let stage : Stage :=
            match evaluation.flushError with
            | none => .returned
            | some error => .raisedBy error
          let visualization :=
            if approval.isNone then evaluation.visualization else none
          ((s.setRun run).prepareVisualization run evaluation.now visualization).map
            fun prepared => prepared.setWorker w (.busy job stage renewal)
  | _ => none

/-- The executor of visualizations runs, and returns or raises. -/
def render (s : JobSystem) (d : Deployment) (w : Nat) (error : Option PythonError) :
    Option JobSystem :=
  match s.workers w with
  | .busy job .executing renewal =>
      if job.jobKind = .visualization then
        let stage : Stage :=
          if d.visualizationExecutor w = false ∨ job.visualizationId = none then
            .raisedBy .executorUnavailable
          else
            match error with
            | none => .returned
            | some e => .raisedBy e
        some (s.setWorker w (.busy job stage renewal))
      else none
  | _ => none

/-- `_cancel`, up to its commit.  A job that is no longer leased is left alone. -/
def cancelJob (s : JobSystem) (d : Deployment) (w : Nat) (now : Int) : Option JobSystem :=
  match s.workers w with
  | .busy job .cancelling renewal =>
      if (s.getJob job.organizationId job.jobId).any fun row => row.status ≠ .leased then
        some (s.setWorker w (renewal.finish none))
      else
        some (s.onJob w job renewal (fun _ => .cancel (d.workerId w) now)
          fun saved => .busy saved .cancellingRun renewal)
  | _ => none

/-- `AnalysisRunService.cancel_job`. -/
def cancelRun (s : JobSystem) (w : Nat) (now : Int) : Option JobSystem :=
  match s.workers w with
  | .busy job .cancellingRun renewal =>
      match s.getRun job.organizationId job.analysisRunId with
      | none => some (s.setWorker w (renewal.finish none))
      | some run =>
          if run.Terminal then some (s.setWorker w (renewal.finish none))
          else
            match (AnalysisRun.cancel now).call run with
            | (.ok (), cancelled) =>
                some ((s.setRun cancelled).setWorker w (renewal.finish none))
            | (.error e, _) =>
                some (s.setWorker w (renewal.finish (some (.transition e))))
  | _ => none

def complete (s : JobSystem) (d : Deployment) (w : Nat) (now : Int) : Option JobSystem :=
  match s.workers w with
  | .busy job .completing renewal =>
      some (s.onJob w job renewal (fun _ => .complete (d.workerId w) now)
        fun _ => renewal.finish none)
  | _ => none

/-- `_record_failure` retries the job. -/
def Retries (failure : ExecutionFailure) (row : ExecutionJob) : Prop :=
  failure.transient = true ∧ row.attempts < row.maxAttempts

instance (failure : ExecutionFailure) (row : ExecutionJob) :
    Decidable (Retries failure row) :=
  inferInstanceAs (Decidable (_ ∧ _))

/-- The operation that `_record_failure` calls: a retry after `2 ** attempts`
seconds, or the failure of the job. -/
def failureOp (workerId : String) (now : Int) (failure : ExecutionFailure)
    (row : ExecutionJob) : JobOp :=
  if Retries failure row then
    .retry workerId now (now + 1000000 * 2 ^ row.attempts.toNat) failure.category
  else .fail workerId now failure.category

/-- The executor of visualizations is told of the failure, not the one of
Analysis Runs. -/
def FailsVisualization (d : Deployment) (w : Nat) (job : ExecutionJob) : Prop :=
  job.jobKind = .visualization ∧ job.visualizationId.isSome ∧
    d.visualizationExecutor w = true

instance (d : Deployment) (w : Nat) (job : ExecutionJob) :
    Decidable (FailsVisualization d w job) :=
  inferInstanceAs (Decidable (_ ∧ _))

/-- `_record_failure`, up to its commit.  What `fail_visualization_job` does does
not concern jobs and runs. -/
def recordFailure (s : JobSystem) (d : Deployment) (w : Nat) (now : Int) :
    Option JobSystem :=
  match s.workers w with
  | .busy job (.recording failure) renewal =>
      some (s.onJob w job renewal (failureOp (d.workerId w) now failure) fun saved =>
        if saved.status = .failed ∧ ¬ FailsVisualization d w saved
          then .busy saved (.failing failure.category) renewal
          else renewal.finish none)
  | _ => none

/-- `AnalysisRunService.fail_job`, up to the call of `fail`. -/
def loadFailing (s : JobSystem) (w : Nat) (now : Int) : Option JobSystem :=
  match s.workers w with
  | .busy job (.failing category) renewal =>
      match s.getRun job.organizationId job.analysisRunId with
      | none => some (s.setWorker w (renewal.finish none))
      | some run =>
          match (AnalysisRun.fail ⟨"pipeline_failed",
              "Pipeline failed: " ++ category, some category⟩ now).call run with
          | (.ok (), failed) =>
              some (s.setWorker w (.busy job (.failingRun run.version failed) renewal))
          | (.error e, _) =>
              some (s.setWorker w (renewal.finish (some (.transition e))))
  | _ => none

/-- The transaction of `_fail`. -/
def saveFailing (s : JobSystem) (w : Nat) : Option JobSystem :=
  match s.workers w with
  | .busy _ (.failingRun expectedVersion run) renewal =>
      if (s.getRun run.organizationId run.analysisRunId).any
          fun current => current.version = expectedVersion then
        some ((s.setRun run).setWorker w (renewal.finish none))
      else some (s.setWorker w (renewal.finish (some .concurrentUpdate)))
  | _ => none

/-- One turn of `_renew`. -/
def renew (s : JobSystem) (d : Deployment) (w : Nat) (now : Int) : Option JobSystem :=
  match s.workers w with
  | .busy job stage .running =>
      match s.getJob job.organizationId job.jobId with
      | none => some (s.setWorker w (.busy job stage .returned))
      | some row =>
          if row.status ≠ .leased then
            some (s.setWorker w (.busy job stage .returned))
          else
            match (ExecutionJob.renew (d.workerId w) now (d.leaseFor w)).call row with
            | (.ok (), saved) => some (s.setJob saved)
            | (.error e, _) => some (s.setWorker w (.busy job stage (.raised e)))
  | _ => none

def step (d : Deployment) (s : JobSystem) : Action → Option JobSystem
  | .register new now => s.register new now
  | .requestCancel actorId organizationId analysisRunId jobId now =>
      s.requestCancel actorId organizationId analysisRunId jobId now
  | .decide organizationId analysisRunId decision rejectionReason now visualization =>
      s.decide organizationId analysisRunId decision rejectionReason now visualization
  | .retryVisualization organizationId original jobId visualizationId now =>
      s.retryVisualization organizationId original jobId visualizationId now
  | .claim w organizationId jobId now => s.claim d w organizationId jobId now
  | .check w => s.check w
  | .load w error => s.load w error
  | .evaluate w evaluation => s.evaluate w evaluation
  | .render w error => s.render d w error
  | .cancelJob w now => s.cancelJob d w now
  | .cancelRun w now => s.cancelRun w now
  | .complete w now => s.complete d w now
  | .recordFailure w now => s.recordFailure d w now
  | .loadFailing w now => s.loadFailing w now
  | .saveFailing w => s.saveFailing w
  | .renew w now => s.renew d w now
  | .die w => some (s.setWorker w .idle)

end JobSystem

end Zentra
