import Zentra.WorkerConsistency

/-!
# Settling a job together with its run

The job and its run are committed in separate transactions.  When a lease runs
out in between, another worker resumes the job at a run that has already been
evaluated: evaluating it again is refused, the refusal is recorded as a failure
of the job, and reporting that failure to the run is refused as well.

* `Unsettles` — the three steps that break it;
* `settled_iff` — along every run from the empty tables, the property holds
  exactly if none of these steps is taken.
-/

open Raising Raising.Method StepTrace

namespace Zentra

namespace JobSystem

/-- No failed job of an Analysis Run has a run that is completed, rejected or
awaits approval, and `run_once` has not raised `AnalysisRunTransitionError`. -/
def Settled (s : JobSystem) : Prop :=
  (∀ id job run, s.jobs id = some job → job.jobKind = .analysisRun →
    job.status = .failed → s.runs job.analysisRunId = some run →
    run.status ∉ [.completed, .awaitingApproval, .rejected]) ∧
  ∀ w e, s.workers w ≠ .stopped (.transition e)

/-- `_record_failure` fails the job of a run that has been evaluated: the failure
is not retried, the worker still holds the lease, and the category is one that
the job accepts. -/
def FailsEvaluatedRun (d : Deployment) (s : JobSystem) (a : Action) : Prop :=
  ∃ w now job failure renewal row category run,
    a = .recordFailure w now ∧
    s.workers w = .busy job (.recording failure) renewal ∧
    s.getJob job.organizationId job.jobId = some row ∧
    row.jobKind = .analysisRun ∧ ¬ Retries failure row ∧ row.OwnedBy (d.workerId w) ∧
    ExecutionJob.failureCategoryOf failure.category = .ok category ∧
    s.runs row.analysisRunId = some run ∧
    run.status ∈ [.completed, .awaitingApproval, .rejected]

/-- `_execute` saves the evaluation of a run whose job has failed: the pipeline has
returned, the run was loaded running with an attempt left, nobody saved it since,
and the transaction goes through. -/
def EvaluatesFailedJob (s : JobSystem) (a : Action) : Prop :=
  ∃ w evaluation job loaded renewal current row,
    a = .evaluate w evaluation ∧
    s.workers w = .busy job (.evaluating loaded) renewal ∧
    s.getRun job.organizationId job.analysisRunId = some current ∧
    loaded.status = .running ∧ loaded.evaluationAttempts < 3 ∧
    current.version = loaded.version ∧ evaluation.pipeline.isSome ∧
    evaluation.persisted = true ∧
    s.getJob job.organizationId job.jobId = some row ∧ row.status = .failed

/-- The failure of a visualization is reported to the run, by a worker that has no
executor of visualizations (and whose renewal has not raised). -/
def ReportsVisualization (s : JobSystem) (a : Action) : Prop :=
  ∃ w now job category renewal,
    a = .loadFailing w now ∧ s.workers w = .busy job (.failing category) renewal ∧
    job.jobKind = .visualization ∧ ∀ e, renewal ≠ .raised e

/-- The steps that unsettle a job and its run. -/
def Unsettles (d : Deployment) (s : JobSystem) (a : Action) : Prop :=
  FailsEvaluatedRun d s a ∨ EvaluatesFailedJob s a ∨ ReportsVisualization s a

variable {d : Deployment} {s t : JobSystem} {a : Action} {w : Nat}
  {job row saved : ExecutionJob} {run run' : AnalysisRun} {renewal : Renewal}

theorem Consistent.settled (h : s.Consistent) : s.Settled := by
  refine ⟨?_, ?_⟩
  · intro id job run hjob hkind hst hrun
    obtain ⟨found, hfound, hagrees⟩ := h.job_run id job hjob
    rw [hrun] at hfound
    cases hfound
    exact hagrees.unsettled hkind hst
  · intro w e hstopped
    have hok := h.workers_ok w
    rw [hstopped] at hok
    exact hok e rfl

/-- The job of a run that a worker holds is the only one of that run. -/
theorem Consistent.the_job (h : s.Consistent) {own id : UUID}
    (hrow : s.jobs own = some row) (hkind : row.jobKind = .analysisRun)
    {other : ExecutionJob} (hother : s.jobs id = some other)
    (hotherkind : other.jobKind = .analysisRun) (hrun : other.analysisRunId = row.analysisRunId) : other = row := by
  have hid := h.one_job id own other row hother hrow hotherkind hkind hrun
  rw [hid, hrow] at hother
  exact (Option.some.inj hother).symm

theorem Consistent.kind_of_open (h : s.Consistent) {id : UUID}
    (hrow : s.jobs id = some row) (hrun : s.runs row.analysisRunId = some run)
    (hopen : run.status ≠ .completed) : row.jobKind = .analysisRun := by
  obtain ⟨found, hfound, hagrees⟩ := h.job_run id row hrow
  rw [hrun] at hfound
  cases hfound
  cases hkind : row.jobKind with
  | analysisRun => rfl
  | visualization => exact absurd (hagrees.published hkind) hopen

theorem Consistent.run_of_job (h : s.Consistent) {id : UUID} (hrow : s.jobs id = some row)
    (hsame : row.SameIdentity job)
    (hrun : s.getRun job.organizationId job.analysisRunId = some run) :
    s.runs row.analysisRunId = some run ∧ Agrees row run ∧
      run.analysisRunId = row.analysisRunId := by
  obtain ⟨hfound, -⟩ := getRun_eq_some.1 hrun
  rw [← hsame.2.2.1] at hfound
  obtain ⟨found, hfound', hagrees⟩ := h.job_run id row hrow
  rw [hfound] at hfound'
  cases hfound'
  exact ⟨hfound, hagrees, h.run_key _ _ hfound⟩

theorem Consistent.registered (h : s.Consistent) {new : NewRun} {now : Int}
    (hrows : new.rows now = some (run, job)) (hrun : s.runs run.analysisRunId = none)
    (hjob : s.jobs job.jobId = none) : ((s.setRun run).setJob job).Consistent := by
  obtain ⟨hrunning, horganization, hid, hqueued, hkind⟩ := rows_eq_some hrows
  refine (h.addRun hrun).addJob hjob ⟨stored run, ?_, ?_⟩ ?_
  · rw [runs_setRun, if_pos hid.symm]
  · exact {
      organization := horganization
      published := by simp [hkind]
      failed := by
        intro _ hst
        have hfailed : run.status = .failed := hst
        rw [hrunning] at hfailed
        cases hfailed
      cancelled := by
        intro _ hst
        have hcancelled : run.status = .cancelled := hst
        rw [hrunning] at hcancelled
        cases hcancelled
      unsettled := by simp [hqueued] }
  · intro _ id other hother _ hsame
    obtain ⟨found, hfound, -⟩ := h.job_run id other hother
    rw [hsame, ← hid, hrun] at hfound
    cases hfound

theorem Consistent.cancelledAtOnce (h : s.Consistent)
    {actorId organizationId analysisRunId jobId : UUID} {now : Int}
    (hrun : s.getRun organizationId analysisRunId = some run)
    (hrow : s.getJob organizationId jobId = some row) (hlive : ¬ run.Terminal)
    (hof : row.analysisRunId = analysisRunId) (hkind : row.jobKind = .analysisRun)
    (hst : (ExecutionJob.cancelRequested actorId now row).status = .cancelled)
    (hcall : (AnalysisRun.cancel now).call run = (.ok (), run')) :
    ((s.setJob (ExecutionJob.cancelRequested actorId now row)).setRun run').Consistent := by
  have hflag : (JobOp.requestCancel actorId now).method.call row =
      (.ok (), ExecutionJob.cancelRequested actorId now row) :=
    ExecutionJob.requestCancel_call actorId
  have hsame := ExecutionJob.sameIdentity_of_call _ hflag
  obtain ⟨hfound, -⟩ := getJob_eq_some.1 hrow
  obtain ⟨hfoundrun, -⟩ := getRun_eq_some.1 hrun
  have hafter := h.call hfound _ hflag (by simp)
  obtain ⟨hcancelled, hadvances⟩ := AnalysisRun.cancel_returns hcall
  have hid := h.run_key _ _ hfoundrun
  refine hafter.setRun (hid.symm ▸ hfoundrun) hadvances ?_ ?_ ?_
  · intro hcompleted
    exact hlive (AnalysisRun.terminal_iff.2 (.inl hcompleted))
  · intro id other hother hotherkind hotherrun
    have hown : (s.setJob (ExecutionJob.cancelRequested actorId now row)).jobs
        (ExecutionJob.cancelRequested actorId now row).jobId =
        some (ExecutionJob.cancelRequested actorId now row) := by
      rw [jobs_setJob, if_pos rfl]
    have hthe := hafter.the_job hown (hsame.2.2.2.trans hkind) hother hotherkind
      (by rw [hotherrun, hsame.2.2.1, hid, hof])
    subst hthe
    simp [hcancelled, hst]
  · intro v held category renewal _ _
    simp [hcancelled]

theorem Consistent.decided (h : s.Consistent) {organizationId analysisRunId : UUID}
    {decision : ApprovalDecision} {rejectionReason : Option RejectionReason} {now : Int}
    (hrun : s.getRun organizationId analysisRunId = some run)
    (hcall : (AnalysisRun.decide decision rejectionReason now).call run = (.ok (), run'))
    (hadds : t = s.setRun run' ∨ (decision = .approve ∧
      (s.setRun run').AddsVisualization run'.organizationId run'.analysisRunId now t)) :
    t.Consistent := by
  obtain ⟨hawaiting, hadvances, hdecided⟩ := AnalysisRun.decide_returns hcall
  obtain ⟨hfound, -⟩ := getRun_eq_some.1 hrun
  have hid := h.run_key _ _ hfound
  have hevaluated : run'.status ≠ .failed ∧ run'.status ≠ .cancelled := by
    rcases hdecided with hst | ⟨hst, -⟩ <;> simp [hst]
  have hset : (s.setRun run').Consistent := by
    refine h.setRun (hid.symm ▸ hfound) hadvances (by simp [hawaiting]) ?_ ?_
    · intro id job hjob hkind hof
      refine ⟨fun hst => absurd hst hevaluated.1, fun hst => absurd hst hevaluated.2, ?_⟩
      intro hfailed
      obtain ⟨found, hfoundrun, hagrees⟩ := h.job_run id job hjob
      rw [hof, hid, hfound] at hfoundrun
      cases hfoundrun
      exact absurd (by simp [evaluatedStatuses, hawaiting])
        (hagrees.unsettled hkind hfailed)
    · intro v held category renewal _ _
      exact hevaluated.1
  rcases hadds with rfl | ⟨happrove, hadds⟩
  · exact hset
  · have hstored : (s.setRun run').runs run'.analysisRunId = some (stored run') := by
      rw [runs_setRun, if_pos rfl]
    refine hset.addsVisualization hstored rfl ?_ hadds
    · rcases hdecided with hst | ⟨-, hreject⟩
      · exact hst
      · exact absurd happrove hreject

theorem Consistent.evaluated (h : s.Consistent) {evaluation : Evaluation}
    {loaded current : AnalysisRun} {stage : Stage} {result : PipelineResult}
    {approval : Option HumanApproval}
    (hallowed : ¬ EvaluatesFailedJob s (.evaluate w evaluation))
    (hbusy : s.workers w = .busy job (.evaluating loaded) renewal)
    (hunbound : stage.Unbound)
    (hcurrent : s.getRun job.organizationId job.analysisRunId = some current)
    (hresult : evaluation.pipeline = some result)
    (hexecute : executeEvaluation loaded current.version evaluation.threshold
      (.ok result) evaluation.now evaluation.approvalId evaluation.persisted =
      .ok (run', approval))
    (hadds : t = s.setRun run' ∨ (approval = none ∧
      (s.setRun run').AddsVisualization run'.organizationId run'.analysisRunId
        evaluation.now t)) :
    (t.setWorker w (.busy job stage renewal)).Consistent := by
  obtain ⟨row, hrow, hsame, hkind, hloadedid, hloadedorg, hread⟩ := h.busy hbusy
  obtain ⟨hversion, hpersisted, reason, hcall, -⟩ := executeEvaluation_ok hexecute
  obtain ⟨hrunning, hattempts, -⟩ := evaluate_returns (directiveFor_ne_retry _) hcall
  have hadvances := AnalysisRun.evaluate_advances hcall
  obtain ⟨hfound, hagrees, hid⟩ := h.run_of_job hrow hsame hcurrent
  -- nobody has saved the run since it was loaded, so it is still running
  have hstatus : current.status = .running := by
    obtain ⟨again, hagain, -, hp⟩ := hread
    rw [hfound] at hagain
    cases hagain
    exact (hp hversion).trans hrunning
  have hcases : (run'.status = .completed ∧ approval = none) ∨
      (run'.status = .awaitingApproval ∧ approval ≠ none) := by
    rcases executeEvaluation_cases hexecute with
      ⟨-, hst, -, hnone⟩ | ⟨-, hst, opened, hsome, -⟩
    · exact .inl ⟨hst, hnone⟩
    · exact .inr ⟨hst, by simp [hsome]⟩
  have hevaluated : run'.status ≠ .failed ∧ run'.status ≠ .cancelled := by
    rcases hcases with ⟨hst, -⟩ | ⟨hst, -⟩ <;> simp [hst]
  have hnotfailed : row.status ≠ .failed := by
    intro hst
    have horganization : row.organizationId = job.organizationId := hsame.2.1
    exact hallowed ⟨w, evaluation, job, loaded, renewal, current, row, rfl, hbusy,
      hcurrent, hrunning, hattempts, hversion, by simp [hresult], hpersisted,
      getJob_eq_some.2 ⟨hrow, horganization⟩, hst⟩
  have hset : (s.setRun run').Consistent := by
    refine h.setRun (hid.symm ▸ hfound) ?_ (by simp [hstatus]) ?_ ?_
    · refine ⟨?_, ?_, ?_⟩
      · rw [hadvances.1, hloadedid, hid]
      · rw [hadvances.2.1, hloadedorg, hagrees.organization]
      · rw [hversion]
        exact hadvances.2.2
    · intro id other hother hotherkind hof
      have hthe := h.the_job hrow hkind hother hotherkind (hof.trans hid)
      subst hthe
      exact ⟨fun hst => absurd hst hevaluated.1, fun hst => absurd hst hevaluated.2,
        fun hst => absurd hst hnotfailed⟩
    · intro v held category renewal' _ _
      exact hevaluated.1
  have hjobs : t.Consistent ∧ t.jobs job.jobId = some row := by
    rcases hadds with rfl | ⟨hnone, hadds⟩
    · exact ⟨hset, hrow⟩
    · have hstored : (s.setRun run').runs run'.analysisRunId = some (stored run') := by
        rw [runs_setRun, if_pos rfl]
      have hcompleted : run'.status = .completed := by
        rcases hcases with ⟨hst, -⟩ | ⟨-, hsome⟩
        · exact hst
        · exact absurd hnone hsome
      refine ⟨hset.addsVisualization hstored rfl hcompleted hadds, ?_⟩
      obtain ⟨jobId, visualizationId, added, -, hfree, rfl⟩ := hadds
      have hother : job.jobId ≠ added.jobId := by
        intro heq
        rw [← heq, setRun_jobs, hrow] at hfree
        cases hfree
      rw [jobs_setJob, if_neg hother]
      exact hrow
  exact hjobs.1.move hjobs.2 hsame hunbound

theorem Consistent.runCancelled (h : s.Consistent) {now : Int} {worker : Worker}
    (hbusy : s.workers w = .busy job .cancellingRun renewal)
    (hrun : s.getRun job.organizationId job.analysisRunId = some run)
    (hlive : ¬ run.Terminal)
    (hcall : (AnalysisRun.cancel now).call run = (.ok (), run'))
    (hrest : worker.Resting) : ((s.setRun run').setWorker w worker).Consistent := by
  obtain ⟨row, hrow, hsame, hcancelled⟩ := h.busy hbusy
  obtain ⟨hst, hadvances⟩ := AnalysisRun.cancel_returns hcall
  obtain ⟨hfound, -, hid⟩ := h.run_of_job hrow hsame hrun
  have hopen : run.status ≠ .completed := fun hcompleted =>
    hlive (AnalysisRun.terminal_iff.2 (.inl hcompleted))
  have hkind := h.kind_of_open hrow hfound hopen
  refine Consistent.rest ?_ hrest
  refine h.setRun (hid.symm ▸ hfound) hadvances hopen ?_ ?_
  · intro id other hother hotherkind hof
    have hthe := h.the_job hrow hkind hother hotherkind (hof.trans hid)
    subst hthe
    have hcancelled' : other.status = .cancelled := hcancelled
    simp [hst, hcancelled']
  · intro v held category renewal' _ _
    simp [hst]

theorem Consistent.reports_failed (h : s.Consistent) {v : Nat} {stage : Stage}
    (hbusy : s.workers v = .busy job stage renewal) (hreports : Reports stage)
    (hrow : s.jobs job.jobId = some row) : row.status = .failed := by
  obtain ⟨found, hfound, -, hstage⟩ := h.busy hbusy
  rw [hrow] at hfound
  cases hfound
  cases stage with
  | failing category => exact hstage.1
  | failingRun expectedVersion failed => exact hstage.1
  | _ => exact absurd hreports id

theorem Consistent.failureRecorded (h : s.Consistent) {now : Int}
    {failure : ExecutionFailure} {worker : Worker}
    (hallowed : ¬ FailsEvaluatedRun d s (.recordFailure w now))
    (hbusy : s.workers w = .busy job (.recording failure) renewal)
    (hrow : s.getJob job.organizationId job.jobId = some row)
    (hcall : (failureOp (d.workerId w) now failure row).method.call row =
      (.ok (), saved))
    (hworker : worker.Resting ∨ (saved.status = .failed ∧ ¬ FailsVisualization d w saved ∧
      worker = .busy saved (.failing failure.category) renewal)) :
    ((s.setJob saved).setWorker w worker).Consistent := by
  obtain ⟨hfound, -⟩ := getJob_eq_some.1 hrow
  have hsame := ExecutionJob.sameIdentity_of_call _ hcall
  have hset : (s.setJob saved).Consistent := by
    refine h.call hfound _ hcall ?_
    rintro ⟨workerId, now', category, hop⟩ hkind run hrun hst
    have hnot : ¬ Retries failure row := by
      intro hretries
      unfold failureOp at hop
      rw [if_pos hretries] at hop
      cases hop
    unfold failureOp at hcall
    rw [if_neg hnot] at hcall
    obtain ⟨howned, category, hcategory, -⟩ := ExecutionJob.fail_returns.1 hcall
    exact hallowed ⟨w, now, job, failure, renewal, row, category, run, rfl, hbusy, hrow,
      hkind, hnot, howned, hcategory, hrun, hst⟩
  rcases hworker with hrest | ⟨hfailed, -, rfl⟩
  · exact hset.rest hrest
  -- the job was leased, so its run has not failed and nobody else reports it
  have hleased : row.status = .leased := by
    unfold failureOp at hcall
    split at hcall
    · exact (ExecutionJob.retry_returns.1 hcall).1.1
    · exact (ExecutionJob.fail_returns.1 hcall).1.1
  have hown : (s.setJob saved).jobs saved.jobId = some saved := by
    rw [jobs_setJob, if_pos rfl]
  refine hset.setWorker ⟨saved, hown, ⟨rfl, rfl, rfl, rfl⟩, hfailed, ?_⟩ ?_
  · intro run hrun hst
    rw [hsame.2.2.1] at hrun
    obtain ⟨found, hfoundrun, hagrees⟩ := h.job_run _ row hfound
    have hrun' : s.runs row.analysisRunId = some run := hrun
    rw [hrun'] at hfoundrun
    cases hfoundrun
    cases hkind : row.jobKind with
    | analysisRun =>
        have hrowfailed := hagrees.failed hkind hst
        rw [hleased] at hrowfailed
        cases hrowfailed
    | visualization =>
        have hcompleted := hagrees.published hkind
        rw [hst] at hcompleted
        cases hcompleted
  · rintro job' stage' renewal' heq - v held stage'' renewal'' - hv hreports hid
    cases heq
    have hkey : row.jobId = job.jobId := h.job_key _ _ hfound
    have hheld : s.jobs held.jobId = some row := by
      rw [hid, hsame.1, hkey]
      exact hfound
    have hrowfailed := h.reports_failed hv hreports hheld
    rw [hleased] at hrowfailed
    cases hrowfailed

/-- A worker that is about to report the failure of an Analysis Run's job finds the
run in a state that can fail. -/
theorem Consistent.open_of_failing (h : s.Consistent) {category : String}
    (hbusy : s.workers w = .busy job (.failing category) renewal)
    (hkind : job.jobKind = .analysisRun)
    (hrun : s.getRun job.organizationId job.analysisRunId = some run) :
    run.status ∈ openStatuses := by
  obtain ⟨row, hrow, hsame, hfailed, hnotfailed⟩ := h.busy hbusy
  obtain ⟨hfound, hagrees, -⟩ := h.run_of_job hrow hsame hrun
  have hrowkind : row.jobKind = .analysisRun := hsame.2.2.2.trans hkind
  have hst := hnotfailed run hfound
  have hnotcancelled : run.status ≠ .cancelled := by
    intro hcancelled
    have hrowcancelled := hagrees.cancelled hrowkind hcancelled
    rw [hfailed] at hrowcancelled
    cases hrowcancelled
  have hnotevaluated := hagrees.unsettled hrowkind hfailed
  unfold openStatuses evaluatedStatuses at *
  cases hstatus : run.status <;> simp_all

theorem Consistent.failingLoaded (h : s.Consistent) {now : Int} {category : String}
    {failure : FailureOutcome}
    (hbusy : s.workers w = .busy job (.failing category) renewal)
    (hrun : s.getRun job.organizationId job.analysisRunId = some run)
    (hcall : (AnalysisRun.fail failure now).call run = (.ok (), run')) :
    (s.setWorker w (.busy job (.failingRun run.version run') renewal)).Consistent := by
  obtain ⟨row, hrow, hsame, hfailed, -⟩ := h.busy hbusy
  obtain ⟨hfound, hagrees, hid⟩ := h.run_of_job hrow hsame hrun
  obtain ⟨hopen, hst, hadvances⟩ := AnalysisRun.fail_returns hcall
  have hkind := h.kind_of_open hrow hfound (by
    intro hcompleted
    rw [hcompleted] at hopen
    simp at hopen)
  refine h.setWorker ⟨row, hrow, hsame, hfailed, hkind, hst, ?_, ?_, hadvances.2.2, ?_⟩ ?_
  · exact hadvances.1.trans hid
  · exact hadvances.2.1.trans hagrees.organization
  · exact ⟨run, hfound, le_refl _, fun _ => hopen⟩
  · rintro job' stage' renewal' heq - v held stage'' renewal'' hvw hv hreports hsamejob
    cases heq
    exact hvw (h.one_report v w held job stage'' (.failing category) renewal'' renewal hv
      hbusy hreports trivial hsamejob)

theorem Consistent.failingRaised (h : s.Consistent) {now : Int} {category : String}
    {e : AnalysisRunTransitionError}
    (hallowed : ¬ ReportsVisualization s (.loadFailing w now))
    (hbusy : s.workers w = .busy job (.failing category) renewal)
    (hrun : s.getRun job.organizationId job.analysisRunId = some run)
    (hrefused : run.status ∉ [.pending, .running, .evaluating]) :
    (s.setWorker w (renewal.finish (some (.transition e)))).Consistent := by
  refine h.rest ?_
  cases renewal with
  | raised error => exact .inr ⟨_, rfl, by simp⟩
  | _ =>
      exfalso
      cases hkind : job.jobKind with
      | analysisRun => exact hrefused (h.open_of_failing hbusy hkind hrun)
      | visualization =>
          exact hallowed ⟨w, now, job, category, _, rfl, hbusy, hkind, by simp⟩

theorem Consistent.runFailed (h : s.Consistent) {expectedVersion : Int}
    {current : AnalysisRun} {worker : Worker}
    (hbusy : s.workers w = .busy job (.failingRun expectedVersion run') renewal)
    (hcurrent : s.getRun run'.organizationId run'.analysisRunId = some current)
    (hversion : current.version = expectedVersion) (hrest : worker.Resting) :
    ((s.setRun run').setWorker w worker).Consistent := by
  obtain ⟨row, hrow, hsame, hfailed, hkind, hst, hid, horganization, hlater, hread⟩ :=
    h.busy hbusy
  obtain ⟨hfound, -⟩ := getRun_eq_some.1 hcurrent
  have hopen : current.status ∈ openStatuses := by
    obtain ⟨again, hagain, -, hp⟩ := hread
    rw [← hid, hfound] at hagain
    cases hagain
    exact hp hversion
  have hkey := h.run_key _ _ hfound
  refine Consistent.rest ?_ hrest
  refine h.setRun (hkey.symm ▸ hfound) ?_ ?_ ?_ ?_
  · refine ⟨hkey.symm, ?_, by rw [hversion]; exact hlater⟩
    exact (getRun_eq_some.1 hcurrent).2.symm
  · intro hcompleted
    rw [hcompleted] at hopen
    simp [openStatuses] at hopen
  · intro id other hother hotherkind hof
    have hthe := h.the_job hrow hkind hother hotherkind (hof.trans (hkey.trans hid))
    subst hthe
    simp [hst, hfailed, evaluatedStatuses]
  · intro v held category renewal' hv hof _
    -- the other worker reports the failure of the same job, so it is this worker
    obtain ⟨found, hheld, hidentity, hfoundfailed, -⟩ := h.busy hv
    obtain ⟨foundrun, hfoundrun, -⟩ := h.job_run _ found hheld
    have hfoundid : found.analysisRunId = current.analysisRunId :=
      hidentity.2.2.1.trans hof
    have hfoundkind := h.kind_of_open hheld
      (by rw [hfoundid, hkey]; exact hfound) (by
        intro hcompleted
        rw [hcompleted] at hopen
        simp [openStatuses] at hopen)
    have hsamejob := h.one_job _ _ found row hheld hrow hfoundkind hkind
      (hfoundid.trans (hkey.trans hid))
    have hvw := h.one_report v w held job _ _ renewal' renewal hv hbusy trivial trivial
      hsamejob
    rw [hvw, hbusy] at hv
    cases hv

/-- **Step lemma.**  A step that is none of the three keeps the invariant. -/
theorem Consistent.step (h : s.Consistent) (hallowed : ¬ Unsettles d s a)
    (hstep : step d s a = some t) : t.Consistent := by
  unfold Unsettles at hallowed
  rw [not_or, not_or] at hallowed
  obtain ⟨hnofail, hnoevaluate, hnoreport⟩ := hallowed
  cases effect_of_step hstep with
  | registered hrows hrun hjob => exact h.registered hrows hrun hjob
  | @cancelFlagged actorId _ _ _ now _ _ _ hrow =>
      exact h.call (getJob_eq_some.1 hrow).1 (.requestCancel actorId now)
        (ExecutionJob.requestCancel_call actorId) (by simp)
  | cancelledAtOnce hrun hrow hlive hof hkind hst hcall =>
      exact h.cancelledAtOnce hrun hrow hlive hof hkind hst hcall
  | decided hrun hcall hadds => exact h.decided hrun hcall hadds
  | visualizationRetried hrow hkind hadds =>
      obtain ⟨hfound, horganization⟩ := getJob_eq_some.1 hrow
      obtain ⟨run, hrun, hagrees⟩ := h.job_run _ _ hfound
      exact h.addsVisualization hrun (hagrees.organization.trans horganization)
        (hagrees.published hkind) hadds
  | @claimed w _ _ now row job _ hrow _ hcall =>
      have hset := h.call hrow (.claim (d.workerId w) now (d.leaseFor w)) hcall (by simp)
      have hown : (s.setJob job).jobs job.jobId = some job := by
        rw [jobs_setJob, if_pos rfl]
      exact hset.move hown ⟨rfl, rfl, rfl, rfl⟩ trivial
  | rested hrest => exact h.rest hrest
  | moved hbusy hunbound =>
      obtain ⟨row, hrow, hsame, -⟩ := h.busy hbusy
      exact h.move hrow hsame hunbound
  | @renewalEnded w _ job stage _ hbusy =>
      refine h.setWorker (h.busy hbusy) ?_
      rintro job' stage' renewal' heq hreports v held stage'' renewal'' hvw hv hreports' hid
      cases heq
      exact hvw (h.one_report v w held job stage'' stage renewal'' .running hv hbusy
        hreports' hreports hid)
  | loaded hbusy hkind hrun =>
      obtain ⟨row, hrow, hsame, -⟩ := h.busy hbusy
      obtain ⟨hfound, hagrees, hid⟩ := h.run_of_job hrow hsame hrun
      refine h.setWorker ⟨row, hrow, hsame, hsame.2.2.2.trans hkind, hid,
        hagrees.organization, ⟨_, hfound, le_refl _, fun _ => rfl⟩⟩ ?_
      rintro job' stage' renewal' heq hreports
      cases heq
      exact absurd hreports id
  | evaluated hbusy hunbound hcurrent hresult hexecute hadds =>
      exact h.evaluated hnoevaluate hbusy hunbound hcurrent hresult hexecute hadds
  | @jobCancelled w now job row saved renewal hbusy hrow hcall =>
      obtain ⟨hfound, -⟩ := getJob_eq_some.1 hrow
      have hset := h.call hfound (.cancel (d.workerId w) now) hcall (by simp)
      have hown : (s.setJob saved).jobs saved.jobId = some saved := by
        rw [jobs_setJob, if_pos rfl]
      have hcancelled : saved.status = .cancelled := by
        obtain ⟨-, -, rfl⟩ := ExecutionJob.cancel_returns.1 hcall
        rfl
      refine hset.setWorker ⟨saved, hown, ⟨rfl, rfl, rfl, rfl⟩, hcancelled⟩ ?_
      rintro job' stage' renewal' heq hreports
      cases heq
      exact absurd hreports id
  | runCancelled hbusy hrun hlive hcall hrest =>
      exact h.runCancelled hbusy hrun hlive hcall hrest
  | @completed w now _ _ _ _ _ _ hrow hcall hrest =>
      exact (h.call (getJob_eq_some.1 hrow).1 (.complete (d.workerId w) now) hcall
        (by simp)).rest hrest
  | failureRecorded hbusy hrow hcall hworker =>
      exact h.failureRecorded hnofail hbusy hrow hcall hworker
  | failingLoaded hbusy hrun hcall => exact h.failingLoaded hbusy hrun hcall
  | failingRaised hbusy hrun hrefused =>
      exact h.failingRaised hnoreport hbusy hrun hrefused
  | runFailed hbusy hcurrent hversion hrest =>
      exact h.runFailed hbusy hcurrent hversion hrest
  | @renewed w now _ _ _ _ _ hrow hcall =>
      exact h.call (getJob_eq_some.1 hrow).1
        (.renew (d.workerId w) now (d.leaseFor w)) hcall (by simp)

theorem not_failsEvaluatedRun (hstep : step d s a = some t) (ht : t.Settled) :
    ¬ FailsEvaluatedRun d s a := by
  rintro ⟨w, now, job, failure, renewal, row, category, run, rfl, hbusy, hrow, hkind,
    hnot, howned, hcategory, hrun, hst⟩
  have hcall : (ExecutionJob.fail (d.workerId w) now failure.category).call row =
      (.ok (), ExecutionJob.settled .failed (some category) now row) :=
    ExecutionJob.fail_returns.2 ⟨howned, category, hcategory, rfl⟩
  have heq : ∃ worker, t =
      (s.setJob (ExecutionJob.settled .failed (some category) now row)).setWorker w
        worker := by
    simp only [JobSystem.step, recordFailure, hbusy, onJob, hrow, failureOp,
      if_neg hnot, JobOp.method, hcall, Option.some.injEq] at hstep
    exact ⟨_, hstep.symm⟩
  obtain ⟨worker, rfl⟩ := heq
  have hsaved : ((s.setJob (ExecutionJob.settled .failed (some category) now
      row)).setWorker w worker).jobs row.jobId =
      some (ExecutionJob.settled .failed (some category) now row) :=
    jobs_setJob.trans (if_pos rfl)
  exact ht.1 row.jobId _ run hsaved hkind rfl hrun hst

theorem Consistent.not_evaluatesFailedJob (h : s.Consistent)
    (hstep : JobSystem.step d s a = some t) (ht : t.Settled) :
    ¬ EvaluatesFailedJob s a := by
  rintro ⟨w, evaluation, job, loaded, renewal, current, row, rfl, hbusy, hcurrent,
    hrunning, hattempts, hversion, hpipeline, hpersisted, hrow, hfailed⟩
  obtain ⟨result, hresult⟩ := Option.isSome_iff_exists.1 hpipeline
  obtain ⟨hfoundrow, -⟩ := getJob_eq_some.1 hrow
  have hcommits : ∃ outcome, executeEvaluation loaded current.version
      evaluation.threshold (.ok result) evaluation.now evaluation.approvalId
      evaluation.persisted = .ok outcome :=
    executeEvaluation_commits_iff.2 ⟨hrunning, hattempts, hversion, hpersisted⟩
  obtain ⟨⟨run, approval⟩, hexecute⟩ := hcommits
  obtain ⟨found, hfound, -, hkind, hloadedid, -⟩ := h.busy hbusy
  rw [hfoundrow] at hfound
  cases hfound
  obtain ⟨-, -, reason, hcall, -⟩ := executeEvaluation_ok hexecute
  have hid : run.analysisRunId = row.analysisRunId :=
    (AnalysisRun.evaluate_advances hcall).1.trans hloadedid
  have hevaluated : run.status ∈ [.completed, .awaitingApproval, .rejected] := by
    rcases executeEvaluation_cases hexecute with ⟨-, hst, -⟩ | ⟨-, hst, -⟩
    · simp [hst]
    · simp [hst]
  have hafter : t.jobs job.jobId = some row ∧
      t.runs row.analysisRunId = some (stored run) := by
    simp only [JobSystem.step, evaluate, hbusy, hresult, hcurrent, hexecute] at hstep
    obtain ⟨prepared, hprepared, rfl⟩ := Option.map_eq_some_iff.1 hstep
    have hstored : (s.setRun run).runs row.analysisRunId = some (stored run) := by
      rw [runs_setRun, if_pos hid.symm]
    rcases prepareVisualization_cases hprepared with rfl | ⟨-, hadds⟩
    · exact ⟨hfoundrow, hstored⟩
    · obtain ⟨jobId, visualizationId, added, -, hfree, rfl⟩ := hadds
      refine ⟨?_, hstored⟩
      have hother : job.jobId ≠ added.jobId := by
        intro heq
        rw [← heq, setRun_jobs, hfoundrow] at hfree
        cases hfree
      rw [setWorker_jobs, jobs_setJob, if_neg hother]
      exact hfoundrow
  exact ht.1 job.jobId row (stored run) hafter.1 hkind hfailed hafter.2 hevaluated

theorem Consistent.not_reportsVisualization (h : s.Consistent)
    (hstep : JobSystem.step d s a = some t) (ht : t.Settled) :
    ¬ ReportsVisualization s a := by
  rintro ⟨w, now, job, category, renewal, rfl, hbusy, hkind, hrenewal⟩
  obtain ⟨row, hrow, hsame, -⟩ := h.busy hbusy
  obtain ⟨run, hrun, hagrees⟩ := h.job_run _ row hrow
  have hcompleted := hagrees.published (hsame.2.2.2.trans hkind)
  have hfound : s.getRun job.organizationId job.analysisRunId = some run := by
    rw [getRun_eq_some, ← hsame.2.1, ← hsame.2.2.1]
    exact ⟨hrun, hagrees.organization⟩
  have hrefused : run.status ∉ [.pending, .running, .evaluating] := by
    simp [hcompleted]
  have hfinish : ∀ e, renewal.finish (some (.transition e)) =
      .stopped (.transition e) := by
    intro e
    cases renewal with
    | raised error => exact absurd rfl (hrenewal error)
    | _ => rfl
  have hstopped : ∃ e, t = s.setWorker w (.stopped (.transition e)) := by
    simp only [JobSystem.step, loadFailing, hbusy, hfound, AnalysisRun.fail_call,
      if_neg hrefused, hfinish, Option.some.injEq] at hstep
    exact ⟨_, hstep.symm⟩
  obtain ⟨e, rfl⟩ := hstopped
  exact ht.2 w e (workers_setWorker.trans (if_pos rfl))

end JobSystem

open JobSystem

/-- **When jobs and runs are settled together.**  For every interleaving of the
transactions of any number of workers and of the requests, with leases that run
out and workers that die at any point: no failed job has an evaluated run and no
`run_once` raises `AnalysisRunTransitionError`, in any state of the run, exactly if
the run contains none of these steps: `_record_failure` fails the job of an
evaluated run; `_execute` saves the evaluation of a run whose job has failed; a
worker reports the failure of a visualization to its run. -/
theorem settled_iff (d : Deployment) {actions : List Action} {s : JobSystem}
    (h : run (JobSystem.step d) .initial actions = some s) :
    Always (JobSystem.step d) Settled .initial actions ↔
      Allowed (JobSystem.step d) (fun s a => ¬ Unsettles d s a) .initial actions := by
  refine always_iff_allowed Consistent (fun _ hinv => hinv.settled) ?_ ?_ actions
    .initial s consistent_initial h
  · intro s a t hinv hallowed hstep
    exact hinv.step hallowed hstep
  · intro s a t hinv hstep ht hunsettles
    rcases hunsettles with hfails | hevaluates | hreports
    · exact not_failsEvaluatedRun hstep ht hfails
    · exact hinv.not_evaluatesFailedJob hstep ht hevaluates
    · exact hinv.not_reportsVisualization hstep ht hreports

/-- A second worker resumes a job whose first worker has died; its executor raises,
and it settles the job and the run by the cancellation that was requested. -/
theorem settled_iff_resumed :
    Always (JobSystem.step ⟨fun w => if w = 0 then "first" else "second",
        fun _ => 60, fun _ => true⟩) Settled .initial
      [.register ⟨1, 2, "Why did revenue fall?", 3, none, none, none, none, none,
          none⟩ 0,
        .claim 0 2 3 1, .die 0, .claim 1 2 3 61, .check 1, .load 1 none,
        .evaluate 1 ⟨none, 0, 62, 4, false, .executorUnavailable, none, none⟩,
        .requestCancel 5 2 1 3 63, .check 1, .cancelJob 1 64, .cancelRun 1 64] := by
  refine (settled_iff _ rfl).2 (allowed_of_forall ?_ _)
  rintro a ha s (⟨w, now, job, failure, renewal, row, category, run, rfl, -⟩ |
    ⟨w, evaluation, job, loaded, renewal, current, row, rfl, -, -, -, -, -, hpipeline, -⟩ |
    ⟨w, now, job, category, renewal, rfl, -⟩)
  · simp at ha
  · simp only [List.mem_cons, Action.evaluate.injEq, List.not_mem_nil, or_false,
      reduceCtorEq, false_or] at ha
    rw [ha.2] at hpipeline
    cases hpipeline
  · simp at ha

/-- A worker evaluates the run and dies before it completes the job.  The lease runs
out; a second worker resumes the job, is refused, records the refusal as a failure
of the job, and is stopped by the refusal of the run to fail. -/
theorem resumed_job_unsettled :
    ∃ s job run e, StepTrace.run
        (JobSystem.step ⟨fun w => if w = 0 then "first" else "second", fun _ => 60,
          fun _ => true⟩) .initial
        [.register ⟨1, 2, "Why did revenue fall?", 3, none, none, none, none, none,
            none⟩ 0,
          .claim 0 2 3 1, .check 0, .load 0 none,
          .evaluate 0 ⟨some ⟨⟨"headline", "summary", [], []⟩,
              .validation { passed := false }, false, [], none, none, none, none, none,
              []⟩, 0, 2, 4, true, .executorUnavailable, none, none⟩,
          .die 0, .claim 1 2 3 61, .check 1, .load 1 none,
          .evaluate 1 ⟨some ⟨⟨"headline", "summary", [], []⟩,
              .validation { passed := false }, false, [], none, none, none, none, none,
              []⟩, 0, 62, 5, true, .executorUnavailable, none, none⟩,
          .check 1, .recordFailure 1 63, .loadFailing 1 63] = some s ∧
      s.jobs 3 = some job ∧ job.jobKind = .analysisRun ∧ job.status = .failed ∧
      s.runs job.analysisRunId = some run ∧ run.status = .awaitingApproval ∧
      s.workers 1 = .stopped (.transition e) :=
  ⟨_, _, _, _, rfl, rfl, rfl, rfl, rfl, rfl, rfl⟩

end Zentra
