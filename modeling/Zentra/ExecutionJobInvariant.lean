import Zentra.ExecutionJob
import Zentra.StepTrace

/-!
# What holds of every job that was built by `create`

The operations of a job are the steps of a system, `JobOp`; a sequence of
successful operations is an execution of it.

* `Representation.step` — every successful operation keeps them;
* `execution_job_representation` — they hold of every job ever reached, a
  terminal job no longer changes, and neither does a cancellation request.
-/

open Raising Raising.Method StepTrace

namespace Zentra

/-- An operation on a job, with its arguments. -/
inductive JobOp
  | requestCancel (actorId : UUID) (now : Int)
  | cancel (workerId : String) (now : Int)
  | claim (workerId : String) (now leaseFor : Int)
  | renew (workerId : String) (now leaseFor : Int)
  | retry (workerId : String) (now availableAt : Int) (failureCategory : String)
  | complete (workerId : String) (now : Int)
  | fail (workerId : String) (now : Int) (failureCategory : String)
  deriving DecidableEq, Repr

def JobOp.method : JobOp → Method ExecutionJob JobError Unit
  | .requestCancel actorId now => ExecutionJob.requestCancel actorId now
  | .cancel workerId now => ExecutionJob.cancel workerId now
  | .claim workerId now leaseFor => ExecutionJob.claim workerId now leaseFor
  | .renew workerId now leaseFor => ExecutionJob.renew workerId now leaseFor
  | .retry workerId now availableAt failureCategory =>
      ExecutionJob.retry workerId now availableAt failureCategory
  | .complete workerId now => ExecutionJob.complete workerId now
  | .fail workerId now failureCategory =>
      ExecutionJob.fail workerId now failureCategory

namespace ExecutionJob

/-- How the fields of a job depend on each other. -/
structure Representation (job : ExecutionJob) : Prop where
  owner_iff : job.leaseOwner.isSome ↔ job.status = .leased
  expires_iff : job.leaseExpiresAt.isSome ↔ job.status = .leased
  completed_iff : job.completedAt.isSome ↔ job.Terminal
  attempts_nonneg : 0 ≤ job.attempts
  attempts_le : job.attempts ≤ job.maxAttempts
  attempts_pos : job.status = .leased → 1 ≤ job.attempts
  cancel_together : job.cancelRequestedAt.isSome ↔ job.cancelRequestedBy.isSome
  kind_iff : job.jobKind = .visualization ↔ job.visualizationId.isSome

variable {job job' : ExecutionJob} {workerId : String} {now : Int}

theorem create_returns {jobId organizationId analysisRunId : UUID}
    {maxAttempts : Int} {jobKind : ExecutionJobKind}
    {visualizationId : Option UUID}
    (h : create jobId organizationId analysisRunId now maxAttempts jobKind
      visualizationId = .ok job) :
    1 ≤ maxAttempts ∧ (jobKind = .visualization ↔ visualizationId.isSome) ∧
      job = ⟨jobId, organizationId, analysisRunId, .queued, 0, maxAttempts, now,
        none, none, none, now, now, none, jobKind, visualizationId, none, none⟩ := by
  unfold create at h
  by_cases hattempts : maxAttempts < 1
  · rw [if_pos hattempts] at h
    cases h
  rw [if_neg hattempts] at h
  by_cases htarget : (jobKind == .visualization) != visualizationId.isSome
  · rw [if_pos htarget] at h
    cases h
  rw [if_neg htarget] at h
  cases h
  refine ⟨by omega, ?_, rfl⟩
  cases jobKind <;> cases visualizationId <;> simp_all

theorem representation_create {jobId organizationId analysisRunId : UUID}
    {maxAttempts : Int} {jobKind : ExecutionJobKind}
    {visualizationId : Option UUID}
    (h : create jobId organizationId analysisRunId now maxAttempts jobKind
      visualizationId = .ok job) : job.Representation := by
  obtain ⟨hattempts, hkind, rfl⟩ := create_returns h
  exact {
    owner_iff := by simp
    expires_iff := by simp
    completed_iff := by simp
    attempts_nonneg := by simp
    attempts_le := by
      show (0 : Int) ≤ maxAttempts
      omega
    attempts_pos := by simp
    cancel_together := by simp
    kind_iff := hkind }

theorem Representation.cancelRequested (h : job.Representation)
    (actorId : UUID) : (cancelRequested actorId now job).Representation := by
  unfold ExecutionJob.cancelRequested
  by_cases hterminal : job.Terminal
  · rw [if_pos hterminal]
    exact h
  rw [if_neg hterminal]
  by_cases hqueued : job.status = .queued
  · rw [if_pos hqueued]
    exact { h with
      owner_iff := by simpa [flagCancel, hqueued] using h.owner_iff
      expires_iff := by simpa [flagCancel, hqueued] using h.expires_iff
      completed_iff := by simp
      attempts_pos := by simp
      cancel_together := by simp [flagCancel] }
  · rw [if_neg hqueued]
    exact { h with cancel_together := by simp [flagCancel] }

theorem Representation.settled (h : job.Representation)
    {status : ExecutionJobStatus} (hstatus : status ∈ terminalJobStatuses)
    (failureCategory : Option String) :
    (settled status failureCategory now job).Representation := by
  have hleased : status ≠ .leased := by
    rintro rfl
    simp [terminalJobStatuses] at hstatus
  exact { h with
    owner_iff := by simp [ExecutionJob.settled, hleased]
    expires_iff := by simp [ExecutionJob.settled, hleased]
    completed_iff := by
      constructor
      · exact fun _ => hstatus
      · exact fun _ => rfl
    attempts_pos := fun hst => absurd hst hleased }

theorem Representation.completedAt_eq_none (h : job.Representation)
    (hterminal : ¬ job.Terminal) : job.completedAt = none := by
  rw [← h.completed_iff] at hterminal
  simpa using hterminal

/-- Taking the lease: a queued job still had an attempt left, and a leased one
keeps the attempt it is on. -/
theorem Representation.leaseTo (h : job.Representation)
    (hclaim : job.ClaimableAt now) (leaseFor : Int) :
    (leaseTo workerId now leaseFor job).Representation := by
  have hnonneg := h.attempts_nonneg
  have hle := h.attempts_le
  have hcompleted := h.completedAt_eq_none (claimableAt_iff.1 hclaim).1
  unfold ExecutionJob.leaseTo
  rcases hclaim with ⟨hqueued, -, hleft⟩ | ⟨hleased, -⟩
  · exact { h with
      owner_iff := by simp
      expires_iff := by simp
      completed_iff := by simp [hcompleted]
      attempts_nonneg := by
        simp only [hqueued, if_true]
        omega
      attempts_le := by
        simp only [hqueued, if_true]
        omega
      attempts_pos := by
        intro _
        simp only [hqueued, if_true]
        omega }
  · have hpos := h.attempts_pos hleased
    exact { h with
      owner_iff := by simp
      expires_iff := by simp
      completed_iff := by simp [hcompleted]
      attempts_nonneg := by simpa [hleased] using hnonneg
      attempts_le := by simpa [hleased] using hle
      attempts_pos := by simpa [hleased] using hpos }

theorem Representation.requeued (h : job.Representation)
    (howned : job.OwnedBy workerId) (availableAt : Int) (category : String) :
    (requeued now availableAt category job).Representation := by
  have hcompleted := h.completedAt_eq_none (by simp [howned.1])
  exact { h with
    owner_iff := by simp [ExecutionJob.requeued]
    expires_iff := by simp [ExecutionJob.requeued]
    completed_iff := by simp [ExecutionJob.requeued, hcompleted]
    attempts_pos := by simp [ExecutionJob.requeued] }

theorem Representation.renewed (h : job.Representation)
    (howned : job.OwnedBy workerId) (expires : Int) :
    { job with leaseExpiresAt := some expires, updatedAt := now }.Representation :=
  { h with expires_iff := by simp [howned.1] }

/-- **Every successful operation keeps the representation invariant.** -/
theorem Representation.step (h : job.Representation) {op : JobOp}
    (hret : op.method.call job = (.ok (), job')) : job'.Representation := by
  cases op with
  | requestCancel actorId now =>
      rw [JobOp.method, requestCancel_call] at hret
      cases hret
      exact h.cancelRequested actorId
  | cancel workerId now =>
      obtain ⟨-, -, rfl⟩ := cancel_returns.1 hret
      exact h.settled (by decide) _
  | claim workerId now leaseFor =>
      obtain ⟨-, -, hclaim, rfl⟩ := claim_returns.1 hret
      exact h.leaseTo hclaim leaseFor
  | renew workerId now leaseFor =>
      obtain ⟨howned, -, -, rfl⟩ := renew_returns.1 hret
      exact h.renewed howned _
  | retry workerId now availableAt failureCategory =>
      obtain ⟨howned, -, -, category, -, rfl⟩ := retry_returns.1 hret
      exact h.requeued howned availableAt category
  | complete workerId now =>
      obtain ⟨-, rfl⟩ := complete_returns.1 hret
      exact h.settled (by decide) _
  | fail workerId now failureCategory =>
      obtain ⟨-, category, -, rfl⟩ := fail_returns.1 hret
      exact h.settled (by decide) _

/-- A terminal job refuses every operation except `request_cancel`, which
leaves it alone. -/
theorem terminal_absorbing (hterminal : job.Terminal) {op : JobOp}
    (hret : op.method.call job = (.ok (), job')) : job' = job := by
  have hqueued := (terminal_iff.1 hterminal).1
  have hleased := (terminal_iff.1 hterminal).2
  cases op with
  | requestCancel actorId now =>
      rw [JobOp.method, requestCancel_call] at hret
      cases hret
      exact if_pos hterminal
  | cancel workerId now => exact absurd (cancel_returns.1 hret).1.1 hleased
  | claim workerId now leaseFor =>
      obtain ⟨-, -, hclaim, -⟩ := claim_returns.1 hret
      exact absurd hterminal (claimableAt_iff.1 hclaim).1
  | renew workerId now leaseFor =>
      exact absurd (renew_returns.1 hret).1.1 hleased
  | retry workerId now availableAt failureCategory =>
      exact absurd (retry_returns.1 hret).1.1 hleased
  | complete workerId now => exact absurd (complete_returns.1 hret).1.1 hleased
  | fail workerId now failureCategory =>
      exact absurd (fail_returns.1 hret).1.1 hleased

theorem cancelRequest_kept (h : job.Representation)
    (hflag : job.cancelRequestedAt.isSome) {op : JobOp}
    (hret : op.method.call job = (.ok (), job')) :
    job'.cancelRequestedAt = job.cancelRequestedAt ∧
      job'.cancelRequestedBy = job.cancelRequestedBy := by
  cases op with
  | requestCancel actorId now =>
      rw [JobOp.method, requestCancel_call] at hret
      cases hret
      obtain ⟨at', hat⟩ := Option.isSome_iff_exists.1 hflag
      obtain ⟨actor, hby⟩ := Option.isSome_iff_exists.1 (h.cancel_together.1 hflag)
      unfold cancelRequested flagCancel
      split
      · exact ⟨rfl, rfl⟩
      · split <;> simp [hat, hby]
  | cancel workerId now =>
      obtain ⟨-, -, rfl⟩ := cancel_returns.1 hret
      exact ⟨rfl, rfl⟩
  | claim workerId now leaseFor =>
      obtain ⟨-, -, -, rfl⟩ := claim_returns.1 hret
      exact ⟨rfl, rfl⟩
  | renew workerId now leaseFor =>
      obtain ⟨-, -, -, rfl⟩ := renew_returns.1 hret
      exact ⟨rfl, rfl⟩
  | retry workerId now availableAt failureCategory =>
      obtain ⟨-, -, -, category, -, rfl⟩ := retry_returns.1 hret
      exact ⟨rfl, rfl⟩
  | complete workerId now =>
      obtain ⟨-, rfl⟩ := complete_returns.1 hret
      exact ⟨rfl, rfl⟩
  | fail workerId now failureCategory =>
      obtain ⟨-, category, -, rfl⟩ := fail_returns.1 hret
      exact ⟨rfl, rfl⟩

theorem Representation.exec {ops : List JobOp} (h : job.Representation)
    (hexec : Exec (returning JobOp.method) job ops job') : job'.Representation :=
  hexec.invariant Representation h fun _ _ _ hinv hstep =>
    hinv.step (returning_eq_some.1 hstep)

end ExecutionJob

open ExecutionJob

/-- **Representation invariant of a job.**  After any sequence of successful
operations on a job that `create` returned, its fields are correlated as
`Representation` says; from a terminal job no further operation changes
anything, and a cancellation request keeps its time and its actor. -/
theorem execution_job_representation
    {jobId organizationId analysisRunId : UUID} {now maxAttempts : Int}
    {jobKind : ExecutionJobKind} {visualizationId : Option UUID}
    {created job : ExecutionJob} {ops : List JobOp}
    (hcreate : create jobId organizationId analysisRunId now maxAttempts jobKind
      visualizationId = .ok created)
    (hops : Exec (returning JobOp.method) created ops job) :
    job.Representation ∧
      (job.Terminal → ∀ more later,
        Exec (returning JobOp.method) job more later → later = job) ∧
      (job.cancelRequestedAt.isSome → ∀ more later,
        Exec (returning JobOp.method) job more later →
          later.cancelRequestedAt = job.cancelRequestedAt ∧
            later.cancelRequestedBy = job.cancelRequestedBy) := by
  have hrep : job.Representation := (representation_create hcreate).exec hops
  refine ⟨hrep, ?_, ?_⟩
  · intro hterminal more later hmore
    refine hmore.invariant (fun t => t = job) rfl ?_
    rintro t op u rfl hstep
    exact terminal_absorbing hterminal (returning_eq_some.1 hstep)
  · intro hflag more later hmore
    refine (hmore.invariant (fun t => t.Representation ∧
      t.cancelRequestedAt = job.cancelRequestedAt ∧
        t.cancelRequestedBy = job.cancelRequestedBy) ⟨hrep, rfl, rfl⟩ ?_).2
    rintro t op u ⟨hinv, hat, hby⟩ hstep
    have hret := returning_eq_some.1 hstep
    obtain ⟨hat', hby'⟩ := cancelRequest_kept hinv (by rw [hat]; exact hflag) hret
    exact ⟨hinv.step hret, hat'.trans hat, hby'.trans hby⟩

/-- A job that is claimed, fails, is claimed again and cancelled on request. -/
theorem execution_job_representation_cancelled_run :
    ∃ created job,
      create 1 2 3 0 = .ok created ∧
      run (returning JobOp.method) created
        [.claim "worker" 0 60, .retry "worker" 1 3 "timeout",
          .claim "worker" 3 60, .requestCancel 7 5, .cancel "worker" 6] =
        some job ∧
      job.Representation ∧ job.Terminal ∧ job.cancelRequestedAt = some 5 := by
  refine ⟨_, _, rfl, rfl, ?_, by decide, by decide⟩
  exact (execution_job_representation (show create 1 2 3 0 = .ok _ from rfl)
    (exec_of_run (show run (returning JobOp.method) _
      [.claim "worker" 0 60, .retry "worker" 1 3 "timeout",
        .claim "worker" 3 60, .requestCancel 7 5, .cancel "worker" 6] =
      some _ from rfl))).1

end Zentra
