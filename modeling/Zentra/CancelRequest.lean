import Zentra.WorkerConsistency

/-!
# What a cancel request answers

`cancel` flags the job of a run and, if that made the job terminal, cancels the
run with it; the work feed is told either way.  A job that is completed or failed
stays as it is: then nothing is pending, and the feed announces a cancellation
that no worker will carry out.

* `JobSystem.workersCanCancel` — a pending request is carried out by workers
  alone, once the lease runs out;
* `cancel_kept_iff` — when a request that returned is kept.
-/

open Raising Raising.Method StepTrace

namespace Zentra

/-- The kind of the event that `cancel` appends to the work feed. -/
inductive CancelNotice
  | analysisRunCancelled
  | analysisRunCancelRequested
  deriving DecidableEq, Repr

/-- The event of `cancel`, by the job as it has been saved. -/
def cancelNotice (job : ExecutionJob) : CancelNotice :=
  if job.status = .cancelled then .analysisRunCancelled
  else .analysisRunCancelRequested

def Action.OfWorker : Action → Prop
  | .register _ _ => False
  | .requestCancel _ _ _ _ _ => False
  | .decide _ _ _ _ _ _ => False
  | .retryVisualization _ _ _ _ _ => False
  | _ => True

/-- Some worker process was started so that it can claim a job at all. -/
def Deployment.Capable (d : Deployment) : Prop :=
  ∃ w, ¬ PythonText.Blank (d.workerId w) ∧ 0 < d.leaseFor w

namespace ExecutionJob

/-- What holds of a job whatever the workers do: its fields agree, and it is leased
only where a worker can claim. -/
structure Sound (d : Deployment) (job : ExecutionJob) : Prop where
  representation : job.Representation
  capable : job.status = .leased → d.Capable

variable {d : Deployment} {job job' : ExecutionJob} {now : Int}

theorem sound_create {jobId organizationId analysisRunId : UUID} {maxAttempts : Int}
    {jobKind : ExecutionJobKind} {visualizationId : Option UUID}
    (h : create jobId organizationId analysisRunId now maxAttempts jobKind
      visualizationId = .ok job) : job.Sound d := by
  refine ⟨representation_create h, ?_⟩
  obtain ⟨-, -, rfl⟩ := create_returns h
  intro hleased
  cases hleased

theorem Sound.call (h : job.Sound d) (op : JobOp)
    (hret : op.method.call job = (.ok (), job'))
    (hclaim : ∀ workerId now leaseFor, op = .claim workerId now leaseFor →
      ∃ w, workerId = d.workerId w ∧ leaseFor = d.leaseFor w) : job'.Sound d := by
  refine ⟨h.representation.step hret, ?_⟩
  cases op with
  | requestCancel actorId now =>
      rw [JobOp.method, requestCancel_call] at hret
      cases hret
      intro hleased
      refine h.capable ?_
      unfold cancelRequested flagCancel at hleased
      split at hleased
      · exact hleased
      · split at hleased
        · cases hleased
        · exact hleased
  | cancel workerId now =>
      obtain ⟨-, -, rfl⟩ := cancel_returns.1 hret
      intro hleased
      cases hleased
  | claim workerId now leaseFor =>
      obtain ⟨hname, hpositive, -, -⟩ := claim_returns.1 hret
      obtain ⟨w, rfl, rfl⟩ := hclaim workerId now leaseFor rfl
      exact fun _ => ⟨w, hname, hpositive⟩
  | renew workerId now leaseFor =>
      obtain ⟨howned, -, -, -⟩ := renew_returns.1 hret
      exact fun _ => h.capable howned.1
  | retry workerId now availableAt failureCategory =>
      obtain ⟨-, -, -, category, -, rfl⟩ := retry_returns.1 hret
      intro hleased
      cases hleased
  | complete workerId now =>
      obtain ⟨-, rfl⟩ := complete_returns.1 hret
      intro hleased
      cases hleased
  | fail workerId now failureCategory =>
      obtain ⟨-, category, -, rfl⟩ := fail_returns.1 hret
      intro hleased
      cases hleased

/-- The states of a job in which a request to cancel it comes too late. -/
def TooLate (job : ExecutionJob) : Prop :=
  job.status = .completed ∨ job.status = .failed

instance : DecidablePred TooLate := fun job =>
  inferInstanceAs (Decidable (job.status = .completed ∨ job.status = .failed))

/-- What a request makes of a job: cancelled, flagged and still leased, or, when it
comes too late, the job as it was. -/
theorem cancelRequested_cases (actorId : UUID) :
    ((cancelRequested actorId now job).status = .cancelled ∧ ¬ job.TooLate) ∨
      ((cancelRequested actorId now job).status = .leased ∧
        (cancelRequested actorId now job).cancelRequestedAt.isSome ∧ ¬ job.TooLate) ∨
      (cancelRequested actorId now job = job ∧ job.TooLate) := by
  unfold cancelRequested TooLate
  cases hstatus : job.status with
  | queued => simp [hstatus]
  | leased => simp [hstatus, flagCancel]
  | completed => simp [hstatus]
  | failed => simp [hstatus]
  | cancelled => simp [hstatus]

end ExecutionJob

namespace JobSystem

/-- **What holds of the rows along every run.** -/
structure Sound (d : Deployment) (s : JobSystem) : Prop where
  job_key : ∀ id job, s.jobs id = some job → job.jobId = id
  run_key : ∀ id run, s.runs id = some run → run.analysisRunId = id
  jobs_sound : ∀ id job, s.jobs id = some job → job.Sound d

variable {d : Deployment} {s t : JobSystem} {a : Action} {w : Nat}
  {job row saved : ExecutionJob} {run : AnalysisRun}

theorem sound_initial : initial.Sound d where
  job_key := by intro id job h; cases h
  run_key := by intro id run h; cases h
  jobs_sound := by intro id job h; cases h

theorem Sound.setJob (h : s.Sound d) (hjob : job.Sound d) : (s.setJob job).Sound d where
  job_key := by
    intro id found hfound
    rw [jobs_setJob] at hfound
    split at hfound
    · rename_i hid
      cases hfound
      exact hid.symm
    · exact h.job_key id found hfound
  run_key := h.run_key
  jobs_sound := by
    intro id found hfound
    rw [jobs_setJob] at hfound
    split at hfound
    · cases hfound
      exact hjob
    · exact h.jobs_sound id found hfound

theorem Sound.setRun (h : s.Sound d) : (s.setRun run).Sound d where
  job_key := h.job_key
  run_key := by
    intro id found hfound
    rw [runs_setRun] at hfound
    split at hfound
    · rename_i hid
      cases hfound
      exact hid.symm
    · exact h.run_key id found hfound
  jobs_sound := h.jobs_sound

theorem Sound.setWorker (h : s.Sound d) {worker : Worker} :
    (s.setWorker w worker).Sound d :=
  ⟨h.job_key, h.run_key, h.jobs_sound⟩

theorem Sound.addsVisualization (h : s.Sound d) {organizationId analysisRunId : UUID}
    {now : Int} (hadds : s.AddsVisualization organizationId analysisRunId now t) :
    t.Sound d := by
  obtain ⟨jobId, visualizationId, job, hcreate, -, rfl⟩ := hadds
  exact h.setJob (ExecutionJob.sound_create hcreate)

theorem Sound.call (h : s.Sound d) {organizationId jobId : UUID}
    (hrow : s.getJob organizationId jobId = some row) (op : JobOp)
    (hret : op.method.call row = (.ok (), saved))
    (hclaim : ∀ workerId now leaseFor, op = .claim workerId now leaseFor →
      ∃ w, workerId = d.workerId w ∧ leaseFor = d.leaseFor w) :
    (s.setJob saved).Sound d :=
  h.setJob ((h.jobs_sound _ _ (getJob_eq_some.1 hrow).1).call op hret hclaim)

theorem sound_rows {new : NewRun} {now : Int} (h : new.rows now = some (run, job)) :
    job.Sound d := by
  unfold NewRun.rows at h
  split at h
  · rename_i created hrun hjob
    split at h
    · cases h
      exact ExecutionJob.sound_create hjob
    · cases h
  · cases h

/-- **Step lemma.** -/
theorem Sound.step (h : s.Sound d) (hstep : step d s a = some t) : t.Sound d := by
  cases effect_of_step hstep with
  | registered hrows => exact h.setRun.setJob (sound_rows hrows)
  | @cancelFlagged actorId _ _ _ now _ row _ hrow =>
      exact h.call hrow (.requestCancel actorId now)
        (ExecutionJob.requestCancel_call actorId) (by simp)
  | @cancelledAtOnce actorId _ _ _ now _ _ row _ hrow =>
      exact (h.call hrow (.requestCancel actorId now)
        (ExecutionJob.requestCancel_call actorId) (by simp)).setRun
  | decided _ _ hadds =>
      rcases hadds with rfl | ⟨-, hadds⟩
      · exact h.setRun
      · exact h.setRun.addsVisualization hadds
  | visualizationRetried _ _ hadds => exact h.addsVisualization hadds
  | @claimed w _ _ now row job _ hrow _ hcall =>
      refine (h.setJob ((h.jobs_sound _ _ hrow).call
        (.claim (d.workerId w) now (d.leaseFor w)) hcall ?_)).setWorker
      rintro workerId now leaseFor ⟨⟩
      exact ⟨w, rfl, rfl⟩
  | evaluated _ _ _ _ _ hadds =>
      rcases hadds with rfl | ⟨-, hadds⟩
      · exact h.setRun.setWorker
      · exact (h.setRun.addsVisualization hadds).setWorker
  | @jobCancelled w now _ _ _ _ _ hrow hcall =>
      exact (h.call hrow (.cancel (d.workerId w) now) hcall (by simp)).setWorker
  | @completed w now _ _ _ _ _ _ hrow hcall =>
      exact (h.call hrow (.complete (d.workerId w) now) hcall (by simp)).setWorker
  | @failureRecorded w now _ row _ failure _ _ _ hrow hcall =>
      refine (h.call hrow (failureOp (d.workerId w) now failure row) hcall ?_).setWorker
      unfold failureOp
      split <;> simp
  | @renewed w now _ _ _ _ _ hrow hcall =>
      exact h.call hrow (.renew (d.workerId w) now (d.leaseFor w)) hcall (by simp)
  | runCancelled => exact h.setRun.setWorker
  | runFailed => exact h.setRun.setWorker
  | _ => exact h.setWorker  -- no row is written

theorem sound_exec {actions : List Action}
    (h : Exec (JobSystem.step d) .initial actions s) : s.Sound d :=
  h.invariant (Sound d) sound_initial fun _ _ _ hinv hstep => hinv.step hstep

/-- Workers alone, by steps that they can take from here, cancel the run. -/
def WorkersCanCancel (d : Deployment) (s : JobSystem) (analysisRunId : UUID) : Prop :=
  ∃ actions u run, Exec (JobSystem.step d) s actions u ∧
    (∀ a ∈ actions, a.OfWorker) ∧
    u.runs analysisRunId = some run ∧ run.status = .cancelled

/-- **A pending request can be carried out.**  Whoever holds the lease may die; when
it runs out, a worker claims the job, sees the request and cancels the job and the
run. -/
theorem workersCanCancel (h : s.Sound d) (hrow : s.jobs row.jobId = some row)
    (hleased : row.status = .leased) (hflag : row.cancelRequestedAt.isSome)
    (hrun : s.getRun row.organizationId row.analysisRunId = some run)
    (hlive : ¬ run.Terminal) : WorkersCanCancel d s row.analysisRunId := by
  obtain ⟨w, hname, hpositive⟩ := (h.jobs_sound _ _ hrow).capable hleased
  obtain ⟨expires, hexpires⟩ := Option.isSome_iff_exists.1
    ((h.jobs_sound _ _ hrow).representation.expires_iff.2 hleased)
  let job := ExecutionJob.leaseTo (d.workerId w) expires (d.leaseFor w) row
  let cancelled := ExecutionJob.settled .cancelled job.failureCategory expires job
  -- the worker starts anew, and claims the job at the end of the lease
  have hdie : JobSystem.step d s (.die w) = some (s.setWorker w .idle) := rfl
  have hidle : (s.setWorker w .idle).workers w = .idle :=
    workers_setWorker.trans (if_pos rfl)
  have hselects : row.ClaimNextSelects row.organizationId expires :=
    ⟨rfl, .inr ⟨hleased, by simp [hexpires]⟩⟩
  have hcall : (ExecutionJob.claim (d.workerId w) expires (d.leaseFor w)).call row =
      (.ok (), job) :=
    ExecutionJob.claim_returns.2
      ⟨hname, hpositive, ExecutionJob.claimableAt_of_selects hselects, rfl⟩
  have hclaim : JobSystem.step d (s.setWorker w .idle)
      (.claim w row.organizationId row.jobId expires) =
      some (((s.setWorker w .idle).setJob job).setWorker w
        (.busy job .checking .notStarted)) := by
    have hjob : job.organizationId = row.organizationId := rfl
    simp only [JobSystem.step, claim, hidle, setWorker_jobs, hrow, if_pos hselects, hcall,
      if_pos hjob]
  generalize hclaimed : ((s.setWorker w .idle).setJob job).setWorker w
    (.busy job .checking .notStarted) = claimed at hclaim
  have hfound : claimed.getJob job.organizationId job.jobId = some job := by
    rw [← hclaimed, getJob_eq_some, setWorker_jobs, jobs_setJob, if_pos rfl]
    exact ⟨rfl, rfl⟩
  -- its first check sees the request
  have hbusy : claimed.workers w = .busy job .checking .notStarted := by
    rw [← hclaimed, workers_setWorker, if_pos rfl]
  have hrequested : claimed.CancellationRequested job := ⟨job, hfound, hflag⟩
  have hcheck : JobSystem.step d claimed (.check w) =
      some (claimed.setWorker w (.busy job .cancelling .notStarted)) := by
    simp only [JobSystem.step, check, hbusy, if_pos hrequested]
  -- it cancels the job
  generalize hchecked : claimed.setWorker w (.busy job .cancelling .notStarted) =
    checked at hcheck
  have hcancelling : checked.workers w = .busy job .cancelling .notStarted := by
    rw [← hchecked, workers_setWorker, if_pos rfl]
  have hfound' : checked.getJob job.organizationId job.jobId = some job := by
    rw [← hchecked]
    exact hfound
  have hcancel : (ExecutionJob.cancel (d.workerId w) expires).call job =
      (.ok (), cancelled) :=
    ExecutionJob.cancel_returns.2
      ⟨⟨rfl, rfl⟩, Option.isSome_iff_ne_none.1 hflag, rfl⟩
  have hcancelJob : JobSystem.step d checked (.cancelJob w expires) =
      some ((checked.setJob cancelled).setWorker w
        (.busy cancelled .cancellingRun .notStarted)) := by
    have hstill : ¬ (job.status ≠ .leased) := by simp [job, ExecutionJob.leaseTo]
    simp only [JobSystem.step, cancelJob, hcancelling, hfound', Option.any_some,
      decide_eq_true_eq, if_neg hstill, onJob, JobOp.method, hcancel]
  -- and the run
  generalize hdone : (checked.setJob cancelled).setWorker w
    (.busy cancelled .cancellingRun .notStarted) = done at hcancelJob
  have hcancellingRun : done.workers w = .busy cancelled .cancellingRun .notStarted := by
    rw [← hdone, workers_setWorker, if_pos rfl]
  have hsame : done.getRun cancelled.organizationId cancelled.analysisRunId =
      some run := by
    rw [← hdone, ← hchecked, ← hclaimed]
    exact hrun
  have hstatus := AnalysisRun.not_terminal_iff.1 hlive
  let ended := AnalysisRun.stepped .cancelled "analysis_run.cancelled" expires .empty true
    run
  have hcancelRun : JobSystem.step d done (.cancelRun w expires) =
      some ((done.setRun ended).setWorker w .idle) := by
    simp only [JobSystem.step, cancelRun, hcancellingRun, hsame, if_neg hlive,
      AnalysisRun.cancel_call, if_pos hstatus, Renewal.finish]
    rfl
  refine ⟨[.die w, .claim w row.organizationId row.jobId expires, .check w,
    .cancelJob w expires, .cancelRun w expires], _, stored ended,
    Exec.cons hdie (Exec.cons hclaim (Exec.cons hcheck (Exec.cons hcancelJob
      (Exec.cons hcancelRun .nil)))), ?_, ?_, rfl⟩
  · intro a ha
    simp only [List.mem_cons, List.not_mem_nil, or_false] at ha
    rcases ha with rfl | rfl | rfl | rfl | rfl <;> trivial
  · have hid : run.analysisRunId = row.analysisRunId :=
      h.run_key _ _ (getRun_eq_some.1 hrun).1
    rw [setWorker_runs, runs_setRun]
    exact if_pos hid.symm

/-- What a request that returned owes: the run is cancelled, or the request is
pending on its job; and a request that is announced can be carried out. -/
structure CancelKept (d : Deployment) (s : JobSystem) (analysisRunId jobId : UUID) :
    Prop where
  answered : (∃ run, s.runs analysisRunId = some run ∧ run.status = .cancelled) ∨
    ∃ job, s.jobs jobId = some job ∧ job.analysisRunId = analysisRunId ∧
      ¬ job.Terminal ∧ job.cancelRequestedAt.isSome
  announced : ∀ job, s.jobs jobId = some job →
    cancelNotice job = .analysisRunCancelRequested → WorkersCanCancel d s analysisRunId

/-- What a request does when it returns: it reads the run and its job, saves the job,
and cancels the run if the job is cancelled now. -/
theorem requestCancel_returns {actorId organizationId analysisRunId jobId : UUID}
    {now : Int}
    (h : s.requestCancel actorId organizationId analysisRunId jobId now = some t) :
    ∃ run row, s.getRun organizationId analysisRunId = some run ∧
      s.getJob organizationId jobId = some row ∧ ¬ run.Terminal ∧
      row.analysisRunId = analysisRunId ∧ row.jobKind = .analysisRun ∧
      t = if (ExecutionJob.cancelRequested actorId now row).status = .cancelled then
          (s.setJob (ExecutionJob.cancelRequested actorId now row)).setRun
            (AnalysisRun.stepped .cancelled "analysis_run.cancelled" now .empty true run)
        else s.setJob (ExecutionJob.cancelRequested actorId now row) := by
  unfold requestCancel at h
  split at h
  · rename_i run row hrun hrow
    split at h
    · cases h
    · rename_i hguard
      rw [not_or, not_or, not_not, not_not] at hguard
      obtain ⟨hlive, hof, hkind⟩ := hguard
      refine ⟨run, row, hrun, hrow, hlive, hof, hkind, ?_⟩
      simp only [AnalysisRun.cancel_call,
        if_pos (AnalysisRun.not_terminal_iff.1 hlive)] at h
      split at h
      · rename_i hcancelled
        cases h
        exact (if_pos hcancelled).symm
      · rename_i hflagged
        cases h
        exact (if_neg hflagged).symm
  · cases h

/-- **When a request is kept**: when it finds the job neither completed nor
failed. -/
theorem Sound.cancelKept_iff (h : s.Sound d)
    {actorId organizationId analysisRunId jobId : UUID} {now : Int}
    (hstep : JobSystem.step d s
      (.requestCancel actorId organizationId analysisRunId jobId now) = some t) :
    CancelKept d t analysisRunId jobId ↔
      ∀ row, s.jobs jobId = some row → ¬ row.TooLate := by
  have hsound := h.step hstep
  obtain ⟨run, row, hrun, hrow, hlive, hof, -, ht⟩ := requestCancel_returns hstep
  obtain ⟨hfoundrow, horganization⟩ := getJob_eq_some.1 hrow
  obtain ⟨hfoundrun, -⟩ := getRun_eq_some.1 hrun
  have hkey : row.jobId = jobId := h.job_key _ _ hfoundrow
  have hrunkey : run.analysisRunId = analysisRunId := h.run_key _ _ hfoundrun
  have hcall : (ExecutionJob.requestCancel actorId now).call row =
      (.ok (), ExecutionJob.cancelRequested actorId now row) :=
    ExecutionJob.requestCancel_call actorId
  obtain ⟨hid, horg, hanalysis, -⟩ :=
    ExecutionJob.sameIdentity_of_call (.requestCancel actorId now) hcall
  have hself : t.jobs jobId = some (ExecutionJob.cancelRequested actorId now row) := by
    rw [ht]
    split
    · rw [setRun_jobs, jobs_setJob, if_pos (by rw [hid, hkey])]
    · rw [jobs_setJob, if_pos (by rw [hid, hkey])]
  have hcondition : (∀ found, s.jobs jobId = some found → ¬ found.TooLate) ↔
      ¬ row.TooLate := by
    rw [hfoundrow]
    simp
  rw [hcondition]
  have hcases :
      ((ExecutionJob.cancelRequested actorId now row).status = .cancelled ∧
          ¬ row.TooLate) ∨
        ((ExecutionJob.cancelRequested actorId now row).status = .leased ∧
          (ExecutionJob.cancelRequested actorId now row).cancelRequestedAt.isSome ∧
          ¬ row.TooLate) ∨
        (ExecutionJob.cancelRequested actorId now row = row ∧ row.TooLate) :=
    ExecutionJob.cancelRequested_cases actorId
  rcases hcases with ⟨hcancelled, hnot⟩ | ⟨hleased, hflag, hnot⟩ | ⟨hsame, hlate⟩
  · refine ⟨fun _ => hnot, fun _ => ⟨.inl ?_, ?_⟩⟩
    · rw [ht, if_pos hcancelled]
      exact ⟨_, runs_setRun.trans (if_pos hrunkey.symm), rfl⟩
    · intro job hjob hnotice
      rw [hself] at hjob
      cases hjob
      simp [cancelNotice, hcancelled] at hnotice
  · refine ⟨fun _ => hnot, fun _ => ⟨.inr ?_, ?_⟩⟩
    · exact ⟨_, hself, hanalysis.trans hof, by simp [hleased], hflag⟩
    · intro job hjob _
      have hrowt : t.jobs (ExecutionJob.cancelRequested actorId now row).jobId =
          some (ExecutionJob.cancelRequested actorId now row) := by
        rw [hid, hkey, hself]
      have hrunt : t.getRun (ExecutionJob.cancelRequested actorId now row).organizationId
          (ExecutionJob.cancelRequested actorId now row).analysisRunId = some run := by
        rw [horg, hanalysis, horganization, hof, ht, if_neg (by simp [hleased])]
        exact hrun
      have hcan := workersCanCancel hsound hrowt hleased hflag hrunt hlive
      rw [hanalysis, hof] at hcan
      exact hcan
  · refine ⟨fun hkept => ?_, fun hnot => absurd hlate hnot⟩
    -- the job stays as it was, and so does the run
    have hterminal : row.Terminal := by
      rcases hlate with hlate | hlate <;> simp [hlate]
    have hflagged : (ExecutionJob.cancelRequested actorId now row).status ≠ .cancelled := by
      rw [hsame]
      rcases hlate with hlate | hlate <;> simp [hlate]
    rw [if_neg hflagged] at ht
    rcases hkept.answered with ⟨found, hfound, hcancelled⟩ | ⟨found, hfound, -, hopen, -⟩
    · rw [ht, setJob_runs, hfoundrun] at hfound
      cases hfound
      exact absurd (by simp [hcancelled]) hlive
    · rw [hself, hsame] at hfound
      cases hfound
      exact absurd hterminal hopen

end JobSystem

open JobSystem

/-- **When cancellations are kept.**  In every state that any interleaving of workers
and requests reaches from the empty tables, with runs and jobs in whatever states,
a cancel request that returns has cancelled the run or is pending on its job, and
what it announces can be carried out, exactly if it did not find the job completed
or failed. -/
theorem cancel_kept_iff {d : Deployment} {actions : List Action} {s t : JobSystem}
    {actorId organizationId analysisRunId jobId : UUID} {now : Int}
    (hrun : Exec (JobSystem.step d) .initial actions s)
    (hcancel : JobSystem.step d s
      (.requestCancel actorId organizationId analysisRunId jobId now) = some t) :
    CancelKept d t analysisRunId jobId ↔
      ∀ row, s.jobs jobId = some row → ¬ row.TooLate :=
  (sound_exec hrun).cancelKept_iff hcancel

/-- A request that finds its job leased is kept. -/
theorem cancel_kept_iff_leased :
    ∃ s t, StepTrace.run (JobSystem.step ⟨fun _ => "worker", fun _ => 60, fun _ => true⟩)
        .initial
        [.register ⟨1, 2, "Why did revenue fall?", 3, none, none, none, none, none,
            none⟩ 0,
          .claim 0 2 3 1] = some s ∧
      JobSystem.step ⟨fun _ => "worker", fun _ => 60, fun _ => true⟩ s
        (.requestCancel 5 2 1 3 2) = some t ∧
      CancelKept ⟨fun _ => "worker", fun _ => 60, fun _ => true⟩ t 1 3 := by
  refine ⟨_, _, rfl, rfl, (cancel_kept_iff (exec_of_run (show StepTrace.run
    (JobSystem.step ⟨fun _ => "worker", fun _ => 60, fun _ => true⟩) .initial
    [.register ⟨1, 2, "Why did revenue fall?", 3, none, none, none, none, none, none⟩ 0,
      .claim 0 2 3 1] = some _ from rfl)) (show JobSystem.step
        ⟨fun _ => "worker", fun _ => 60, fun _ => true⟩ _ (.requestCancel 5 2 1 3 2) =
        some _ from rfl)).2 ?_⟩
  rintro row ⟨⟩ (hlate | hlate) <;> cases hlate

/-- The run awaits its approval and its job is completed.  The request returns and
announces the cancellation; the run still awaits its approval, and nothing is
pending. -/
theorem cancel_after_completion :
    ∃ s t run job, StepTrace.run
        (JobSystem.step ⟨fun _ => "worker", fun _ => 60, fun _ => true⟩) .initial
        [.register ⟨1, 2, "Why did revenue fall?", 3, none, none, none, none, none,
            none⟩ 0,
          .claim 0 2 3 1, .check 0, .load 0 none,
          .evaluate 0 ⟨some ⟨⟨"headline", "summary", [], []⟩,
              .validation { passed := false }, false, [], none, none, none, none, none,
              []⟩, 0, 2, 4, true, .executorUnavailable, none, none⟩,
          .check 0, .complete 0 3] = some s ∧
      JobSystem.step ⟨fun _ => "worker", fun _ => 60, fun _ => true⟩ s
        (.requestCancel 5 2 1 3 4) = some t ∧
      t.runs 1 = some run ∧ run.status = .awaitingApproval ∧
      t.jobs 3 = some job ∧ job.status = .completed ∧ job.cancelRequestedAt = none ∧
      cancelNotice job = .analysisRunCancelRequested :=
  ⟨_, _, _, _, rfl, rfl, rfl, rfl, rfl, rfl, rfl, rfl⟩

end Zentra
