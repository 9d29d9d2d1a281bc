import Zentra.WorkerSteps

/-!
# A requested cancellation

A worker checks for a cancellation in one transaction and records the failure of
the job in another.  A request that commits in between finds the job leased and
only flags it; the retry that follows puts the flagged job back into the queue,
where `claim_next` does not select it.

* `RequeuesCancelled` — the step that retries a flagged job;
* `cancellations_heeded_iff` — along every run from the empty tables, no queued
  job has a requested cancellation exactly if there is no such step.
-/

open Raising Raising.Method StepTrace

namespace Zentra

namespace ExecutionJob

/-- A requested cancellation is still pending on a leased job, or the job has
reached a terminal state. -/
def CancellationHeeded (job : ExecutionJob) : Prop :=
  job.cancelRequestedAt.isSome → job.status = .leased ∨ job.Terminal

variable {job job' : ExecutionJob} {now : Int}

theorem cancellationHeeded_iff :
    job.CancellationHeeded ↔ (job.cancelRequestedAt.isSome → job.status ≠ .queued) := by
  unfold CancellationHeeded
  rw [terminal_iff]
  cases job.status <;> simp

theorem cancellationHeeded_create {jobId organizationId analysisRunId : UUID}
    {maxAttempts : Int} {jobKind : ExecutionJobKind} {visualizationId : Option UUID}
    (h : create jobId organizationId analysisRunId now maxAttempts jobKind
      visualizationId = .ok job) : job.CancellationHeeded := by
  obtain ⟨-, -, rfl⟩ := create_returns h
  intro hflag
  simp at hflag

theorem cancellationHeeded_cancelRequested (actorId : UUID) :
    (cancelRequested actorId now job).CancellationHeeded := by
  rw [cancellationHeeded_iff]
  intro _
  unfold cancelRequested
  by_cases hterminal : job.Terminal
  · rw [if_pos hterminal]
    exact (terminal_iff.1 hterminal).1
  rw [if_neg hterminal]
  by_cases hqueued : job.status = .queued
  · rw [if_pos hqueued]
    simp
  · rw [if_neg hqueued]
    exact hqueued

theorem cancellationHeeded_of_call (op : JobOp)
    (hret : op.method.call job = (.ok (), job'))
    (hretry : ∀ workerId now availableAt category,
      op = .retry workerId now availableAt category → job.cancelRequestedAt = none) :
    job'.CancellationHeeded := by
  cases op with
  | requestCancel actorId now =>
      rw [JobOp.method, requestCancel_call] at hret
      cases hret
      exact cancellationHeeded_cancelRequested actorId
  | cancel workerId now =>
      obtain ⟨-, -, rfl⟩ := cancel_returns.1 hret
      exact cancellationHeeded_iff.2 fun _ => by simp [settled]
  | claim workerId now leaseFor =>
      obtain ⟨-, -, -, rfl⟩ := claim_returns.1 hret
      exact fun _ => .inl rfl
  | renew workerId now leaseFor =>
      obtain ⟨howned, -, -, rfl⟩ := renew_returns.1 hret
      exact fun _ => .inl howned.1
  | retry workerId now availableAt failureCategory =>
      obtain ⟨-, -, -, category, -, rfl⟩ := retry_returns.1 hret
      have hnone := hretry workerId now availableAt failureCategory rfl
      intro hflag
      simp [requeued, hnone] at hflag
  | complete workerId now =>
      obtain ⟨-, rfl⟩ := complete_returns.1 hret
      exact cancellationHeeded_iff.2 fun _ => by simp [settled]
  | fail workerId now failureCategory =>
      obtain ⟨-, category, -, rfl⟩ := fail_returns.1 hret
      exact cancellationHeeded_iff.2 fun _ => by simp [settled]

end ExecutionJob

namespace JobSystem

/-- Every committed job heeds its cancellation request. -/
def CancellationsHeeded (s : JobSystem) : Prop :=
  ∀ id job, s.jobs id = some job → job.CancellationHeeded

/-- `_record_failure` retries a job whose cancellation is requested: the failure
is transient and an attempt is left, the worker still holds the lease, and the
category is one that the job accepts. -/
def RequeuesCancelled (d : Deployment) (s : JobSystem) (a : Action) : Prop :=
  ∃ w now job failure renewal row category,
    a = .recordFailure w now ∧
    s.workers w = .busy job (.recording failure) renewal ∧
    s.getJob job.organizationId job.jobId = some row ∧
    row.cancelRequestedAt.isSome ∧ Retries failure row ∧
    row.OwnedBy (d.workerId w) ∧
    ExecutionJob.failureCategoryOf failure.category = .ok category

variable {d : Deployment} {s t : JobSystem} {a : Action} {w : Nat}
  {job row : ExecutionJob}

theorem CancellationsHeeded.setJob (h : s.CancellationsHeeded)
    (hjob : job.CancellationHeeded) : (s.setJob job).CancellationsHeeded := by
  intro id found hfound
  rw [jobs_setJob] at hfound
  by_cases hid : id = job.jobId
  · rw [if_pos hid] at hfound
    cases hfound
    exact hjob
  · rw [if_neg hid] at hfound
    exact h id found hfound

theorem CancellationsHeeded.setRun (h : s.CancellationsHeeded) {run : AnalysisRun} :
    (s.setRun run).CancellationsHeeded := h

theorem CancellationsHeeded.setWorker (h : s.CancellationsHeeded) {worker : Worker} :
    (s.setWorker w worker).CancellationsHeeded := h

theorem CancellationsHeeded.addsVisualization (h : s.CancellationsHeeded)
    {organizationId analysisRunId : UUID} {now : Int}
    (hadds : s.AddsVisualization organizationId analysisRunId now t) :
    t.CancellationsHeeded := by
  obtain ⟨jobId, visualizationId, job, hcreate, -, rfl⟩ := hadds
  exact h.setJob (ExecutionJob.cancellationHeeded_create hcreate)

theorem cancellationHeeded_rows {new : NewRun} {now : Int} {run : AnalysisRun}
    (h : new.rows now = some (run, job)) : job.CancellationHeeded := by
  unfold NewRun.rows at h
  split at h
  · rename_i created hrun hjob
    split at h
    · cases h
      exact ExecutionJob.cancellationHeeded_create hjob
    · cases h
  · cases h

/-- Unless it retries a flagged job, `_record_failure` leaves a job that heeds its
cancellation request. -/
theorem cancellationHeeded_recordFailure {now : Int} {failure : ExecutionFailure}
    {renewal : Renewal} {saved : ExecutionJob}
    (hbusy : s.workers w = .busy job (.recording failure) renewal)
    (hrow : s.getJob job.organizationId job.jobId = some row)
    (hcall : (failureOp (d.workerId w) now failure row).method.call row =
      (.ok (), saved))
    (hallowed : ¬ RequeuesCancelled d s (.recordFailure w now)) :
    saved.CancellationHeeded := by
  refine ExecutionJob.cancellationHeeded_of_call _ hcall ?_
  intro workerId now' availableAt category hop
  by_cases hretries : Retries failure row
  · unfold failureOp at hcall
    rw [if_pos hretries] at hcall
    obtain ⟨howned, -, -, category, hcategory, -⟩ :=
      ExecutionJob.retry_returns.1 hcall
    by_contra hflag
    exact hallowed ⟨w, now, job, failure, renewal, row, category, rfl, hbusy, hrow,
      Option.isSome_iff_ne_none.2 hflag, hretries, howned, hcategory⟩
  · unfold failureOp at hop
    rw [if_neg hretries] at hop
    cases hop

/-- **Step lemma.**  A step that does not retry a flagged job puts no flagged job
into the queue. -/
theorem CancellationsHeeded.step (h : s.CancellationsHeeded)
    (hallowed : ¬ RequeuesCancelled d s a) (hstep : step d s a = some t) :
    t.CancellationsHeeded := by
  cases effect_of_step hstep with
  | registered hrows => exact h.setRun.setJob (cancellationHeeded_rows hrows)
  | cancelFlagged =>
      exact h.setJob (ExecutionJob.cancellationHeeded_cancelRequested _)
  | cancelledAtOnce =>
      exact (h.setJob (ExecutionJob.cancellationHeeded_cancelRequested _)).setRun
  | decided _ _ hadds =>
      rcases hadds with rfl | ⟨-, hadds⟩
      · exact h.setRun
      · exact h.setRun.addsVisualization hadds
  | visualizationRetried _ _ hadds => exact h.addsVisualization hadds
  | @claimed w _ _ now _ _ _ _ _ hcall =>
      exact (h.setJob (ExecutionJob.cancellationHeeded_of_call
        (.claim (d.workerId w) now (d.leaseFor w)) hcall (by simp))).setWorker
  | evaluated _ _ _ _ _ hadds =>
      rcases hadds with rfl | ⟨-, hadds⟩
      · exact h.setRun.setWorker
      · exact (h.setRun.addsVisualization hadds).setWorker
  | @jobCancelled w now _ _ _ _ _ _ hcall =>
      exact (h.setJob (ExecutionJob.cancellationHeeded_of_call
        (.cancel (d.workerId w) now) hcall (by simp))).setWorker
  | @completed w now _ _ _ _ _ _ _ hcall =>
      exact (h.setJob (ExecutionJob.cancellationHeeded_of_call
        (.complete (d.workerId w) now) hcall (by simp))).setWorker
  | failureRecorded hbusy hrow hcall =>
      have hsaved := cancellationHeeded_recordFailure hbusy hrow hcall hallowed
      exact (h.setJob hsaved).setWorker
  | @renewed w now _ _ _ _ _ _ hcall =>
      exact h.setJob (ExecutionJob.cancellationHeeded_of_call
        (.renew (d.workerId w) now (d.leaseFor w)) hcall (by simp))
  | _ => exact h  -- no job is written

theorem not_requeuesCancelled (hstep : step d s a = some t)
    (ht : t.CancellationsHeeded) : ¬ RequeuesCancelled d s a := by
  rintro ⟨w, now, job, failure, renewal, row, category, rfl, hbusy, hrow, hflag,
    hretries, howned, hcategory⟩
  have hpow : (0 : Int) ≤ 2 ^ row.attempts.toNat := pow_nonneg (by omega) _
  have hcall : (ExecutionJob.retry (d.workerId w) now
      (now + 1000000 * 2 ^ row.attempts.toNat) failure.category).call row =
      (.ok (), ExecutionJob.requeued now
        (now + 1000000 * 2 ^ row.attempts.toNat) category row) :=
    ExecutionJob.retry_returns.2
      ⟨howned, hretries.2, by omega, category, hcategory, rfl⟩
  have hjobs : t.jobs row.jobId = some (ExecutionJob.requeued now
      (now + 1000000 * 2 ^ row.attempts.toNat) category row) := by
    simp only [JobSystem.step, recordFailure, hbusy, onJob, hrow, failureOp,
      if_pos hretries, JobOp.method, hcall, Option.some.injEq] at hstep
    rw [← hstep]
    exact Function.update_self _ _ _
  have hheeded := ht row.jobId _ hjobs
  rw [ExecutionJob.cancellationHeeded_iff] at hheeded
  exact hheeded hflag rfl

end JobSystem

open JobSystem

/-- **When requested cancellations are heeded.**  For every interleaving of the
transactions of any number of workers and of the requests, from the empty
tables: no committed job is queued with a requested cancellation, in any state of
the run, exactly if no `_record_failure` of the run retries a job whose
cancellation is requested. -/
theorem cancellations_heeded_iff (d : Deployment) {actions : List Action}
    {s : JobSystem} (h : run (JobSystem.step d) .initial actions = some s) :
    Always (JobSystem.step d) CancellationsHeeded .initial actions ↔
      Allowed (JobSystem.step d) (fun s a => ¬ RequeuesCancelled d s a) .initial
        actions := by
  refine always_iff_allowed CancellationsHeeded (fun _ hinv => hinv) ?_ ?_ actions
    .initial s ?_ h
  · intro s a t hinv hallowed hstep
    exact hinv.step hallowed hstep
  · intro s a t _ hstep ht
    exact not_requeuesCancelled hstep ht
  · intro id job hnone
    cases hnone

/-- A worker sees the request in its check, and cancels the job and the run. -/
theorem cancellations_heeded_iff_checked :
    Always (JobSystem.step ⟨fun _ => "worker", fun _ => 60, fun _ => true⟩)
      CancellationsHeeded .initial
      [.register ⟨1, 2, "Why did revenue fall?", 3, none, none, none, none, none,
          none⟩ 0,
        .claim 0 2 3 1, .requestCancel 5 2 1 3 2, .check 0, .cancelJob 0 3,
        .cancelRun 0 3] := by
  refine (cancellations_heeded_iff _ rfl).2 (allowed_of_forall ?_ _)
  rintro a ha s ⟨w, now, job, failure, renewal, row, category, rfl, -⟩
  simp at ha

/-- The executor times out.  The handler's check sees no cancellation; the request
commits and flags the leased job; the retry puts it back into the queue, from
where no worker claims it. -/
theorem cancelled_job_requeued :
    ∃ s job, run (JobSystem.step ⟨fun _ => "worker", fun _ => 60, fun _ => true⟩)
        .initial
        [.register ⟨1, 2, "Why did revenue fall?", 3, none, none, none, none, none,
            none⟩ 0,
          .claim 0 2 3 1, .check 0, .load 0 none,
          .evaluate 0 ⟨none, 0, 2, 4, false, ⟨"TimeoutError", none, none, true, false⟩,
            none, none⟩,
          .check 0, .requestCancel 5 2 1 3 3, .recordFailure 0 4] = some s ∧
      s.jobs 3 = some job ∧ job.status = .queued ∧ job.cancelRequestedAt = some 3 ∧
      ∀ organizationId now, ¬ job.ClaimNextSelects organizationId now := by
  refine ⟨_, _, rfl, rfl, rfl, rfl, ?_⟩
  rintro organizationId now ⟨-, ⟨-, -, -, hnone⟩ | ⟨hleased, -⟩⟩
  · cases hnone
  · cases hleased

end Zentra
