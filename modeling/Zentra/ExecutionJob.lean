import Zentra.PythonText
import Zentra.RaisingMethod

/-!
# The Execution Job

A durable request to execute one Analysis Run pipeline or to render one
visualization.  Workers lease it; a lease that runs out lets another worker
resume the same attempt, and only a queued retry consumes another one.

Every operation below is the method of the same name, guard by guard and
assignment by assignment.  `JobOp.method` collects them, and each has one
equation that says exactly when it returns and what it leaves behind.  Times
and durations are whole numbers of microseconds.
-/

open Raising Raising.Method

namespace Zentra

/-- Identifiers are only ever compared and stored. -/
abbrev UUID := Nat

inductive ExecutionJobStatus
  | queued
  | leased
  | completed
  | failed
  | cancelled
  deriving DecidableEq, Repr

inductive ExecutionJobKind
  | analysisRun
  | visualization
  deriving DecidableEq, Repr

/-- `TERMINAL_JOB_STATUSES`. -/
def terminalJobStatuses : List ExecutionJobStatus :=
  [.completed, .failed, .cancelled]

/-- What the operations of a job raise. -/
inductive JobError
  | valueError (message : String)
  | executionJobTransitionError (message : String)
  deriving DecidableEq, Repr

/-- A durable request to execute one Analysis Run pipeline. -/
structure ExecutionJob where
  jobId : UUID
  organizationId : UUID
  analysisRunId : UUID
  status : ExecutionJobStatus
  attempts : Int
  maxAttempts : Int
  availableAt : Int
  leaseOwner : Option String
  leaseExpiresAt : Option Int
  failureCategory : Option String
  createdAt : Int
  updatedAt : Int
  completedAt : Option Int := none
  jobKind : ExecutionJobKind := .analysisRun
  visualizationId : Option UUID := none
  cancelRequestedAt : Option Int := none
  cancelRequestedBy : Option UUID := none
  deriving DecidableEq, Repr

namespace ExecutionJob

/-- The status is one of the terminal ones. -/
def Terminal (job : ExecutionJob) : Prop := job.status ∈ terminalJobStatuses

instance : DecidablePred Terminal :=
  fun job => inferInstanceAs (Decidable (job.status ∈ terminalJobStatuses))

def create (jobId organizationId analysisRunId : UUID) (now : Int)
    (maxAttempts : Int := 3) (jobKind : ExecutionJobKind := .analysisRun)
    (visualizationId : Option UUID := none) : Except JobError ExecutionJob := do
  if maxAttempts < 1 then
    throw (.valueError "Execution Job max attempts must be positive")
  if (jobKind == .visualization) != visualizationId.isSome then
    throw (.valueError "Execution Job target does not match its kind")
  return {
    jobId, organizationId, analysisRunId
    status := .queued
    attempts := 0
    maxAttempts
    availableAt := now
    leaseOwner := none
    leaseExpiresAt := none
    failureCategory := none
    createdAt := now
    updatedAt := now
    jobKind, visualizationId }

/-- `_failure_category`. -/
def failureCategoryOf (value : String) : Except JobError String :=
  let category := PythonText.strip value
  if category = "" ∨ category.length > 64 then
    .error (.valueError "Execution Job failure category is invalid")
  else .ok category

def requireLeaseOwner (workerId : String) : Method ExecutionJob JobError Unit :=
  raiseIf (fun self => self.status ≠ .leased ∨ self.leaseOwner ≠ some workerId)
    fun _ => .executionJobTransitionError
      "Only the current lease owner can change a leased job"

/-- What `request_cancel` assigns to a job that is not terminal.  The flag keeps
its first value (`x or now`: a time or an identifier is never falsy). -/
def flagCancel (actorId : UUID) (now : Int) (job : ExecutionJob) :
    ExecutionJob :=
  { job with
    cancelRequestedAt := job.cancelRequestedAt.or (some now)
    cancelRequestedBy := job.cancelRequestedBy.or (some actorId)
    updatedAt := now }

/-- `request_cancel`: a leased job is only flagged, a queued one is cancelled at
once, a terminal one stays as it is. -/
def requestCancel (actorId : UUID) (now : Int) :
    Method ExecutionJob JobError Unit := do
  let job ← self
  if job.Terminal then
    return
  assign (flagCancel actorId now)
  if job.status = .queued then
    assign fun self => { self with status := .cancelled, completedAt := some now }

def cancel (workerId : String) (now : Int) :
    Method ExecutionJob JobError Unit := do
  requireLeaseOwner workerId
  raiseIf (fun self => self.cancelRequestedAt = none)
    fun _ => .executionJobTransitionError "Cancellation was not requested"
  assign fun self => { self with
    status := .cancelled
    leaseOwner := none
    leaseExpiresAt := none
    completedAt := some now
    updatedAt := now }

/-- What `claim` assigns.  An expired lease resumes the same persisted attempt;
only a queued job consumes another one. -/
def leaseTo (workerId : String) (now : Int) (leaseFor : Int)
    (job : ExecutionJob) : ExecutionJob :=
  { job with
    status := .leased
    attempts := if job.status = .queued then job.attempts + 1 else job.attempts
    leaseOwner := some workerId
    leaseExpiresAt := some (now + leaseFor)
    updatedAt := now }

def claim (workerId : String) (now : Int) (leaseFor : Int) :
    Method ExecutionJob JobError Unit := do
  raiseIf (fun _ => PythonText.Blank workerId)
    fun _ => .valueError "Execution Job worker ID is required"
  raiseIf (fun _ => leaseFor ≤ 0)
    fun _ => .valueError "Execution Job lease must be positive"
  raiseIf Terminal
    fun _ => .executionJobTransitionError "A terminal job cannot be claimed"
  raiseIf (fun self => self.status = .queued ∧ self.availableAt > now)
    fun _ => .executionJobTransitionError "Execution Job is not available yet"
  raiseIf (fun self => self.status = .leased ∧
      self.leaseExpiresAt.any (fun expires => now < expires))
    fun _ => .executionJobTransitionError "Execution Job has an active lease"
  raiseIf (fun self => self.status = .queued ∧ self.attempts ≥ self.maxAttempts)
    fun _ => .executionJobTransitionError "Execution Job attempts are exhausted"
  assign (leaseTo workerId now leaseFor)

def renew (workerId : String) (now : Int) (leaseFor : Int) :
    Method ExecutionJob JobError Unit := do
  requireLeaseOwner workerId
  raiseIf (fun _ => leaseFor ≤ 0)
    fun _ => .valueError "Execution Job lease must be positive"
  raiseIf (fun self => self.leaseExpiresAt.any (fun expires => expires ≤ now))
    fun _ => .executionJobTransitionError "Execution Job lease has expired"
  assign fun self => { self with
    leaseExpiresAt := some (now + leaseFor)
    updatedAt := now }

/-- `retry`.  The status and the time are written before the category is
checked, so a category that is refused leaves a job half written. -/
def retry (workerId : String) (now availableAt : Int)
    (failureCategory : String) : Method ExecutionJob JobError Unit := do
  requireLeaseOwner workerId
  raiseIf (fun self => self.attempts ≥ self.maxAttempts)
    fun _ => .executionJobTransitionError "Execution Job attempts are exhausted"
  raiseIf (fun _ => availableAt < now)
    fun _ => .valueError "Execution Job retry cannot be scheduled in the past"
  assign fun self => { self with status := .queued, availableAt }
  let category ← eval (failureCategoryOf failureCategory)
  assign fun self => { self with
    failureCategory := some category
    leaseOwner := none
    leaseExpiresAt := none
    updatedAt := now }

def complete (workerId : String) (now : Int) :
    Method ExecutionJob JobError Unit := do
  requireLeaseOwner workerId
  assign fun self => { self with
    status := .completed
    failureCategory := none
    leaseOwner := none
    leaseExpiresAt := none
    completedAt := some now
    updatedAt := now }

/-- `fail`.  As in `retry`, the status is written before the category is
checked. -/
def fail (workerId : String) (now : Int) (failureCategory : String) :
    Method ExecutionJob JobError Unit := do
  requireLeaseOwner workerId
  assign fun self => { self with status := .failed }
  let category ← eval (failureCategoryOf failureCategory)
  assign fun self => { self with
    failureCategory := some category
    leaseOwner := none
    leaseExpiresAt := none
    completedAt := some now
    updatedAt := now }

def OwnedBy (job : ExecutionJob) (workerId : String) : Prop :=
  job.status = .leased ∧ job.leaseOwner = some workerId

instance (job : ExecutionJob) (workerId : String) :
    Decidable (job.OwnedBy workerId) :=
  inferInstanceAs (Decidable (_ ∧ _))

/-- The guards of `claim` on the job itself: not terminal, its time has come,
its lease has run out, an attempt is left. -/
def ClaimableAt (job : ExecutionJob) (now : Int) : Prop :=
  (job.status = .queued ∧ job.availableAt ≤ now ∧ job.attempts < job.maxAttempts) ∨
    (job.status = .leased ∧ ∀ expires, job.leaseExpiresAt = some expires →
      expires ≤ now)

/-- The job after `request_cancel`. -/
def cancelRequested (actorId : UUID) (now : Int) (job : ExecutionJob) :
    ExecutionJob :=
  if job.Terminal then job
  else if job.status = .queued then
    { flagCancel actorId now job with status := .cancelled, completedAt := some now }
  else flagCancel actorId now job

/-- The job after its lease is given back with the given status. -/
def settled (status : ExecutionJobStatus) (failureCategory : Option String)
    (now : Int) (job : ExecutionJob) : ExecutionJob :=
  { job with
    status, failureCategory
    leaseOwner := none
    leaseExpiresAt := none
    completedAt := some now
    updatedAt := now }

/-- The job after `retry`. -/
def requeued (now availableAt : Int) (failureCategory : String)
    (job : ExecutionJob) : ExecutionJob :=
  { job with
    status := .queued
    availableAt
    failureCategory := some failureCategory
    leaseOwner := none
    leaseExpiresAt := none
    updatedAt := now }

variable {job job' : ExecutionJob} {workerId : String} {now : Int}

@[simp] theorem terminal_iff :
    job.Terminal ↔ job.status ≠ .queued ∧ job.status ≠ .leased := by
  unfold Terminal terminalJobStatuses
  cases job.status <;> simp

theorem requestCancel_call (actorId : UUID) :
    (requestCancel actorId now).call job =
      (.ok (), cancelRequested actorId now job) := by
  unfold requestCancel cancelRequested
  rw [call_self_bind]
  by_cases hterminal : job.Terminal
  · simp only [hterminal, if_true]
    rfl
  · by_cases hqueued : job.status = .queued
    · simp only [hterminal, hqueued, if_true, if_false]
      rfl
    · simp only [hterminal, hqueued, if_false]
      rfl

/-- A method that starts with `_require_lease_owner` returns only for the owner
of the lease, and then does the rest. -/
@[simp] theorem requireLeaseOwner_bind_returns {α : Type}
    {rest : Unit → Method ExecutionJob JobError α} {a : α} :
    (requireLeaseOwner workerId >>= rest).call job = (.ok a, job') ↔
      job.OwnedBy workerId ∧ (rest ()).call job = (.ok a, job') := by
  unfold requireLeaseOwner OwnedBy
  rw [raiseIf_bind_returns]
  simp

theorem cancel_returns :
    (cancel workerId now).call job = (.ok (), job') ↔
      job.OwnedBy workerId ∧ job.cancelRequestedAt ≠ none ∧
        job' = settled .cancelled job.failureCategory now job := by
  unfold cancel settled
  simp

/-- The guards of `claim` on the job, as the method tests them. -/
theorem claimableAt_iff :
    job.ClaimableAt now ↔
      ¬ job.Terminal ∧ ¬ (job.status = .queued ∧ job.availableAt > now) ∧
      ¬ (job.status = .leased ∧
        job.leaseExpiresAt.any (fun expires => now < expires)) ∧
      ¬ (job.status = .queued ∧ job.attempts ≥ job.maxAttempts) := by
  unfold ClaimableAt
  rw [terminal_iff]
  cases job.status <;> cases job.leaseExpiresAt <;> simp

/-- **When a claim succeeds**, and what it does. -/
theorem claim_returns {leaseFor : Int} :
    (claim workerId now leaseFor).call job = (.ok (), job') ↔
      ¬ PythonText.Blank workerId ∧ 0 < leaseFor ∧ job.ClaimableAt now ∧
        job' = leaseTo workerId now leaseFor job := by
  unfold claim
  rw [claimableAt_iff]
  simp only [raiseIf_bind_returns, assign_returns, Int.not_le, and_assoc]

theorem renew_returns {leaseFor : Int} :
    (renew workerId now leaseFor).call job = (.ok (), job') ↔
      job.OwnedBy workerId ∧ 0 < leaseFor ∧
        (∀ expires, job.leaseExpiresAt = some expires → now < expires) ∧
        job' = { job with
          leaseExpiresAt := some (now + leaseFor), updatedAt := now } := by
  unfold renew
  cases hexpires : job.leaseExpiresAt with
  | none => simp [hexpires]
  | some expires => simp [hexpires]

theorem retry_returns {availableAt : Int} {failureCategory : String} :
    (retry workerId now availableAt failureCategory).call job = (.ok (), job') ↔
      job.OwnedBy workerId ∧ job.attempts < job.maxAttempts ∧ now ≤ availableAt ∧
        ∃ category, failureCategoryOf failureCategory = .ok category ∧
          job' = requeued now availableAt category job := by
  unfold retry requeued
  simp

theorem complete_returns :
    (complete workerId now).call job = (.ok (), job') ↔
      job.OwnedBy workerId ∧ job' = settled .completed none now job := by
  unfold complete settled
  simp

theorem fail_returns {failureCategory : String} :
    (fail workerId now failureCategory).call job = (.ok (), job') ↔
      job.OwnedBy workerId ∧
        ∃ category, failureCategoryOf failureCategory = .ok category ∧
          job' = settled .failed (some category) now job := by
  unfold fail settled
  simp

end ExecutionJob

end Zentra
