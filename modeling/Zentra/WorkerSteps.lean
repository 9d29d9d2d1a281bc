import Zentra.WorkerSystem

/-!
# What a step of the workers can do

`step` is read once, here.  `Effect` has one constructor for each thing that a
step can do to the rows and to a worker, with the guards that led there;
`effect_of_step` says that there is nothing else.
-/

open Raising Raising.Method

namespace Zentra

/-- A stage that holds no copy of a run, in which the job may be in any state. -/
def Stage.Unbound : Stage → Prop
  | .checking | .executing | .returned | .raisedBy _ | .cancelling | .completing
  | .recording _ => True
  | _ => False

/-- A worker between two jobs, or stopped by another error than a refused
transition of a run. -/
def Worker.Resting (worker : Worker) : Prop :=
  worker = .idle ∨ ∃ error, worker = .stopped error ∧ ∀ e, error ≠ .transition e

theorem Renewal.finish_resting (renewal : Renewal) {error : Option WorkerError}
    (h : ∀ e, error ≠ some (.transition e)) : (renewal.finish error).Resting := by
  unfold Renewal.finish
  split
  · exact .inr ⟨_, rfl, by simp⟩
  · refine .inr ⟨_, rfl, ?_⟩
    rintro e rfl
    exact h e rfl
  · exact .inl rfl

namespace JobSystem

variable {d : Deployment} {s t : JobSystem} {w : Nat} {job : ExecutionJob}
  {run : AnalysisRun} {worker : Worker}

theorem jobs_setJob {id : UUID} :
    (s.setJob job).jobs id = if id = job.jobId then some job else s.jobs id :=
  Function.update_apply ..

theorem runs_setRun {id : UUID} :
    (s.setRun run).runs id =
      if id = run.analysisRunId then some (stored run) else s.runs id :=
  Function.update_apply ..

theorem workers_setWorker {v : Nat} :
    (s.setWorker w worker).workers v = if v = w then worker else s.workers v :=
  Function.update_apply ..

@[simp] theorem setJob_runs : (s.setJob job).runs = s.runs := rfl
@[simp] theorem setJob_workers : (s.setJob job).workers = s.workers := rfl
@[simp] theorem setRun_jobs : (s.setRun run).jobs = s.jobs := rfl
@[simp] theorem setRun_workers : (s.setRun run).workers = s.workers := rfl
@[simp] theorem setWorker_jobs : (s.setWorker w worker).jobs = s.jobs := rfl
@[simp] theorem setWorker_runs : (s.setWorker w worker).runs = s.runs := rfl

theorem getJob_eq_some {organizationId jobId : UUID} :
    s.getJob organizationId jobId = some job ↔
      s.jobs jobId = some job ∧ job.organizationId = organizationId := by
  unfold getJob
  rw [Option.filter_eq_some_iff]
  simp

theorem getRun_eq_some {organizationId analysisRunId : UUID} :
    s.getRun organizationId analysisRunId = some run ↔
      s.runs analysisRunId = some run ∧ run.organizationId = organizationId := by
  unfold getRun
  rw [Option.filter_eq_some_iff]
  simp

theorem addJob_eq_some :
    s.addJob job = some t ↔ s.jobs job.jobId = none ∧ t = s.setJob job := by
  unfold addJob
  cases s.jobs job.jobId with
  | none => simp [eq_comm]
  | some row => simp

/-- A job that renders a visualization of the run is inserted. -/
def AddsVisualization (s : JobSystem) (organizationId analysisRunId : UUID)
    (now : Int) (t : JobSystem) : Prop :=
  ∃ jobId visualizationId job, ExecutionJob.create jobId organizationId analysisRunId
      now 2 .visualization (some visualizationId) = .ok job ∧
    s.jobs job.jobId = none ∧ t = s.setJob job

theorem addsVisualization_of_add {organizationId analysisRunId : UUID} {now : Int}
    {ids : UUID × UUID}
    (h : s.addVisualizationJob organizationId analysisRunId now ids = some t) :
    s.AddsVisualization organizationId analysisRunId now t := by
  unfold addVisualizationJob at h
  split at h
  · rename_i job hcreate
    obtain ⟨hfree, rfl⟩ := addJob_eq_some.1 h
    exact ⟨ids.1, ids.2, job, hcreate, hfree, rfl⟩
  · cases h

theorem prepareVisualization_cases {now : Int} {visualization : Option (UUID × UUID)}
    (h : s.prepareVisualization run now visualization = some t) :
    t = s ∨ (visualization ≠ none ∧
      s.AddsVisualization run.organizationId run.analysisRunId now t) := by
  cases visualization with
  | none =>
      cases h
      exact .inl rfl
  | some ids => exact .inr ⟨by simp, addsVisualization_of_add h⟩

inductive Effect (d : Deployment) (s : JobSystem) : Action → JobSystem → Prop
  | registered {new : NewRun} {now : Int} {run : AnalysisRun} {job : ExecutionJob} :
      new.rows now = some (run, job) → s.runs run.analysisRunId = none →
      s.jobs job.jobId = none →
      Effect d s (.register new now) ((s.setRun run).setJob job)
  | cancelFlagged {actorId organizationId analysisRunId jobId : UUID} {now : Int}
      {run : AnalysisRun} {row : ExecutionJob} :
      s.getRun organizationId analysisRunId = some run →
      s.getJob organizationId jobId = some row → ¬ run.Terminal →
      row.analysisRunId = analysisRunId → row.jobKind = .analysisRun →
      (ExecutionJob.cancelRequested actorId now row).status ≠ .cancelled →
      Effect d s (.requestCancel actorId organizationId analysisRunId jobId now)
        (s.setJob (ExecutionJob.cancelRequested actorId now row))
  | cancelledAtOnce {actorId organizationId analysisRunId jobId : UUID} {now : Int}
      {run cancelled : AnalysisRun} {row : ExecutionJob} :
      s.getRun organizationId analysisRunId = some run →
      s.getJob organizationId jobId = some row → ¬ run.Terminal →
      row.analysisRunId = analysisRunId → row.jobKind = .analysisRun →
      (ExecutionJob.cancelRequested actorId now row).status = .cancelled →
      (AnalysisRun.cancel now).call run = (.ok (), cancelled) →
      Effect d s (.requestCancel actorId organizationId analysisRunId jobId now)
        ((s.setJob (ExecutionJob.cancelRequested actorId now row)).setRun cancelled)
  | decided {organizationId analysisRunId : UUID} {decision : ApprovalDecision}
      {rejectionReason : Option RejectionReason} {now : Int}
      {visualization : Option (UUID × UUID)} {run decided : AnalysisRun} {t : JobSystem} :
      s.getRun organizationId analysisRunId = some run →
      (AnalysisRun.decide decision rejectionReason now).call run = (.ok (), decided) →
      (t = s.setRun decided ∨ (decision = .approve ∧
        (s.setRun decided).AddsVisualization decided.organizationId
          decided.analysisRunId now t)) →
      Effect d s (.decide organizationId analysisRunId decision rejectionReason now
        visualization) t
  | visualizationRetried {organizationId original jobId visualizationId : UUID}
      {now : Int} {row : ExecutionJob} {t : JobSystem} :
      s.getJob organizationId original = some row → row.jobKind = .visualization →
      s.AddsVisualization organizationId row.analysisRunId now t →
      Effect d s (.retryVisualization organizationId original jobId visualizationId now) t
  | claimed {w : Nat} {organizationId jobId : UUID} {now : Int}
      {row job : ExecutionJob} :
      s.workers w = .idle → s.jobs jobId = some row →
      row.ClaimNextSelects organizationId now →
      (ExecutionJob.claim (d.workerId w) now (d.leaseFor w)).call row = (.ok (), job) →
      Effect d s (.claim w organizationId jobId now)
        ((s.setJob job).setWorker w (.busy job .checking .notStarted))
  | rested {a : Action} {w : Nat} {worker : Worker} :
      worker.Resting → Effect d s a (s.setWorker w worker)
  | moved {a : Action} {w : Nat} {job : ExecutionJob} {stage stage' : Stage}
      {renewal renewal' : Renewal} :
      s.workers w = .busy job stage renewal → stage'.Unbound →
      Effect d s a (s.setWorker w (.busy job stage' renewal'))
  | renewalEnded {w : Nat} {now : Int} {job : ExecutionJob} {stage : Stage}
      {renewal' : Renewal} :
      s.workers w = .busy job stage .running →
      Effect d s (.renew w now) (s.setWorker w (.busy job stage renewal'))
  | loaded {w : Nat} {error : Option PythonError} {job : ExecutionJob}
      {renewal : Renewal} {run : AnalysisRun} :
      s.workers w = .busy job .executing renewal → job.jobKind = .analysisRun →
      s.getRun job.organizationId job.analysisRunId = some run →
      Effect d s (.load w error) (s.setWorker w (.busy job (.evaluating run) renewal))
  | evaluated {w : Nat} {evaluation : Evaluation} {job : ExecutionJob}
      {renewal : Renewal} {stage : Stage} {loaded current run : AnalysisRun}
      {result : PipelineResult} {approval : Option HumanApproval} {t : JobSystem} :
      s.workers w = .busy job (.evaluating loaded) renewal → stage.Unbound →
      s.getRun job.organizationId job.analysisRunId = some current →
      evaluation.pipeline = some result →
      executeEvaluation loaded current.version evaluation.threshold (.ok result)
        evaluation.now evaluation.approvalId evaluation.persisted =
        .ok (run, approval) →
      (t = s.setRun run ∨ (approval = none ∧
        (s.setRun run).AddsVisualization run.organizationId run.analysisRunId
          evaluation.now t)) →
      Effect d s (.evaluate w evaluation) (t.setWorker w (.busy job stage renewal))
  | jobCancelled {w : Nat} {now : Int} {job row saved : ExecutionJob}
      {renewal : Renewal} :
      s.workers w = .busy job .cancelling renewal →
      s.getJob job.organizationId job.jobId = some row →
      (ExecutionJob.cancel (d.workerId w) now).call row = (.ok (), saved) →
      Effect d s (.cancelJob w now)
        ((s.setJob saved).setWorker w (.busy saved .cancellingRun renewal))
  | runCancelled {w : Nat} {now : Int} {job : ExecutionJob} {renewal : Renewal}
      {run cancelled : AnalysisRun} {worker : Worker} :
      s.workers w = .busy job .cancellingRun renewal →
      s.getRun job.organizationId job.analysisRunId = some run → ¬ run.Terminal →
      (AnalysisRun.cancel now).call run = (.ok (), cancelled) → worker.Resting →
      Effect d s (.cancelRun w now) ((s.setRun cancelled).setWorker w worker)
  | completed {w : Nat} {now : Int} {job row saved : ExecutionJob} {renewal : Renewal}
      {worker : Worker} :
      s.workers w = .busy job .completing renewal →
      s.getJob job.organizationId job.jobId = some row →
      (ExecutionJob.complete (d.workerId w) now).call row = (.ok (), saved) →
      worker.Resting →
      Effect d s (.complete w now) ((s.setJob saved).setWorker w worker)
  | failureRecorded {w : Nat} {now : Int} {job row saved : ExecutionJob}
      {failure : ExecutionFailure} {renewal : Renewal} {worker : Worker} :
      s.workers w = .busy job (.recording failure) renewal →
      s.getJob job.organizationId job.jobId = some row →
      (failureOp (d.workerId w) now failure row).method.call row = (.ok (), saved) →
      (worker.Resting ∨ (saved.status = .failed ∧ ¬ FailsVisualization d w saved ∧
        worker = .busy saved (.failing failure.category) renewal)) →
      Effect d s (.recordFailure w now) ((s.setJob saved).setWorker w worker)
  | failingLoaded {w : Nat} {now : Int} {job : ExecutionJob} {category : String}
      {failure : FailureOutcome} {renewal : Renewal} {run failed : AnalysisRun} :
      s.workers w = .busy job (.failing category) renewal →
      s.getRun job.organizationId job.analysisRunId = some run →
      (AnalysisRun.fail failure now).call run = (.ok (), failed) →
      Effect d s (.loadFailing w now)
        (s.setWorker w (.busy job (.failingRun run.version failed) renewal))
  | failingRaised {w : Nat} {now : Int} {job : ExecutionJob} {category : String}
      {renewal : Renewal} {run : AnalysisRun} {e : AnalysisRunTransitionError} :
      s.workers w = .busy job (.failing category) renewal →
      s.getRun job.organizationId job.analysisRunId = some run →
      run.status ∉ [.pending, .running, .evaluating] →
      Effect d s (.loadFailing w now)
        (s.setWorker w (renewal.finish (some (.transition e))))
  | runFailed {w : Nat} {job : ExecutionJob} {expectedVersion : Int}
      {renewal : Renewal} {run current : AnalysisRun} {worker : Worker} :
      s.workers w = .busy job (.failingRun expectedVersion run) renewal →
      s.getRun run.organizationId run.analysisRunId = some current →
      current.version = expectedVersion → worker.Resting →
      Effect d s (.saveFailing w) ((s.setRun run).setWorker w worker)
  | renewed {w : Nat} {now : Int} {job row saved : ExecutionJob} {stage : Stage} :
      s.workers w = .busy job stage .running →
      s.getJob job.organizationId job.jobId = some row →
      (ExecutionJob.renew (d.workerId w) now (d.leaseFor w)).call row =
        (.ok (), saved) →
      Effect d s (.renew w now) (s.setJob saved)

/-- A transaction on the job does its operation, or leaves the rows alone. -/
theorem onJob_cases {renewal : Renewal} {op : ExecutionJob → JobOp}
    {next : ExecutionJob → Worker} :
    (∃ worker, worker.Resting ∧ s.onJob w job renewal op next = s.setWorker w worker) ∨
      ∃ row saved, s.getJob job.organizationId job.jobId = some row ∧
        (op row).method.call row = (.ok (), saved) ∧
        s.onJob w job renewal op next = (s.setJob saved).setWorker w (next saved) := by
  unfold onJob
  cases hrow : s.getJob job.organizationId job.jobId with
  | none => exact .inl ⟨_, renewal.finish_resting (by simp), rfl⟩
  | some row =>
      rcases hcall : (op row).method.call row with ⟨_ | ⟨⟩, saved⟩
      · rename_i e
        refine .inl ⟨renewal.finish (some (.job e)),
          renewal.finish_resting (by simp), ?_⟩
        simp [hcall]
      · exact .inr ⟨row, saved, rfl, hcall, by simp [hcall]⟩

theorem effect_register {new : NewRun} {now : Int} (h : s.register new now = some t) :
    Effect d s (.register new now) t := by
  unfold register at h
  split at h
  · rename_i run job hrows
    split at h
    · cases h
    · rename_i hfree
      obtain ⟨hjob, rfl⟩ := addJob_eq_some.1 h
      exact .registered hrows (by simpa using hfree) hjob
  · cases h

theorem effect_requestCancel {actorId organizationId analysisRunId jobId : UUID}
    {now : Int}
    (h : s.requestCancel actorId organizationId analysisRunId jobId now = some t) :
    Effect d s (.requestCancel actorId organizationId analysisRunId jobId now) t := by
  unfold requestCancel at h
  split at h
  · rename_i run row hrun hrow
    split at h
    · cases h
    · rename_i hguard
      rw [not_or, not_or, not_not, not_not] at hguard
      obtain ⟨hlive, hof, hkind⟩ := hguard
      simp only at h
      split at h
      · rename_i hcancelled
        split at h
        · rename_i cancelled hcall
          cases h
          exact .cancelledAtOnce hrun hrow hlive hof hkind hcancelled hcall
        · cases h
      · rename_i hflagged
        cases h
        exact .cancelFlagged hrun hrow hlive hof hkind hflagged
  · cases h

theorem effect_decide {organizationId analysisRunId : UUID}
    {decision : ApprovalDecision} {rejectionReason : Option RejectionReason}
    {now : Int} {visualization : Option (UUID × UUID)}
    (h : s.decide organizationId analysisRunId decision rejectionReason now
      visualization = some t) :
    Effect d s (.decide organizationId analysisRunId decision rejectionReason now
      visualization) t := by
  unfold decide at h
  split at h
  · rename_i run hrun
    split at h
    · rename_i decided hcall
      refine .decided hrun hcall ?_
      rcases prepareVisualization_cases h with hsame | ⟨hsome, hadds⟩
      · exact .inl hsame
      · right
        refine ⟨?_, hadds⟩
        by_contra hreject
        exact hsome (if_neg hreject)
    · cases h
  · cases h

theorem effect_retryVisualization
    {organizationId original jobId visualizationId : UUID} {now : Int}
    (h : s.retryVisualization organizationId original jobId visualizationId now =
      some t) :
    Effect d s (.retryVisualization organizationId original jobId visualizationId now)
      t := by
  unfold retryVisualization at h
  split at h
  · rename_i row hrow
    split at h
    · rename_i hkind
      exact .visualizationRetried hrow hkind (addsVisualization_of_add h)
    · cases h
  · cases h

theorem effect_claim {organizationId jobId : UUID} {now : Int}
    (h : s.claim d w organizationId jobId now = some t) :
    Effect d s (.claim w organizationId jobId now) t := by
  unfold claim at h
  split at h
  · rename_i row hidle hrow
    split at h
    · rename_i hselects
      split at h
      · rename_i job hcall
        obtain ⟨-, -, -, hjob⟩ := ExecutionJob.claim_returns.1 hcall
        have horganization : job.organizationId = organizationId := by
          rw [hjob]
          exact hselects.1
        simp only [horganization, if_true] at h
        cases h
        exact .claimed hidle hrow hselects hcall
      · cases h
        exact .rested (.inr ⟨_, rfl, by simp⟩)
    · cases h
  · cases h

theorem effect_check (h : s.check w = some t) : Effect d s (.check w) t := by
  unfold check at h
  split at h
  · rename_i job stage renewal hbusy
    simp only at h
    split at h
    all_goals first
      | cases h
        split
        · exact .moved hbusy trivial
        · exact .moved hbusy trivial
      | cases h
  · cases h

theorem effect_load {error : Option PythonError} (h : s.load w error = some t) :
    Effect d s (.load w error) t := by
  unfold load at h
  split at h
  · rename_i job renewal hbusy
    split at h
    · rename_i hkind
      cases h
      split
      · exact .moved hbusy trivial
      · exact .moved hbusy trivial
      · rename_i run hrun
        exact .loaded hbusy hkind hrun
    · cases h
  · cases h

theorem effect_evaluate {evaluation : Evaluation}
    (h : s.evaluate w evaluation = some t) :
    Effect d s (.evaluate w evaluation) t := by
  unfold evaluate at h
  split at h
  · rename_i job loaded renewal hbusy
    simp only at h
    split at h
    · cases h
      exact .moved hbusy trivial
    · rename_i run approval hexecute
      cases hresult : evaluation.pipeline with
      | none =>
          rw [hresult] at hexecute
          cases hexecute
      | some result =>
          rw [hresult] at hexecute
          have hversion := (executeEvaluation_ok hexecute).1
          cases hrow : s.getRun job.organizationId job.analysisRunId with
          | none =>
              rw [hrow] at hversion
              have himpossible : loaded.version + 1 = loaded.version := hversion
              omega
          | some current =>
              rw [hrow] at hexecute
              obtain ⟨prepared, hprepared, rfl⟩ := Option.map_eq_some_iff.1 h
              refine .evaluated hbusy ?_ hrow hresult hexecute ?_
              · split
                · trivial
                · trivial
              · rcases prepareVisualization_cases hprepared with hsame | ⟨hsome, hadds⟩
                · exact .inl hsame
                · right
                  refine ⟨?_, hadds⟩
                  by_contra happroval
                  refine hsome (if_neg ?_)
                  simpa using happroval
  · cases h

theorem effect_render {error : Option PythonError} (h : s.render d w error = some t) :
    Effect d s (.render w error) t := by
  unfold render at h
  split at h
  · rename_i job renewal hbusy
    split at h
    · cases h
      refine .moved hbusy ?_
      split
      · trivial
      · split
        · trivial
        · trivial
    · cases h
  · cases h

theorem effect_cancelJob {now : Int} (h : s.cancelJob d w now = some t) :
    Effect d s (.cancelJob w now) t := by
  unfold cancelJob at h
  split at h
  · rename_i job renewal hbusy
    split at h
    · cases h
      exact .rested (renewal.finish_resting (by simp))
    · cases h
      rcases onJob_cases with ⟨worker, hresting, hsame⟩ | ⟨row, saved, hrow, hcall, hsame⟩
      · rw [hsame]
        exact .rested hresting
      · rw [hsame]
        exact .jobCancelled hbusy hrow hcall
  · cases h

theorem effect_cancelRun {now : Int} (h : s.cancelRun w now = some t) :
    Effect d s (.cancelRun w now) t := by
  unfold cancelRun at h
  split at h
  · rename_i job renewal hbusy
    split at h
    · cases h
      exact .rested (renewal.finish_resting (by simp))
    · rename_i run hrun
      split at h
      · cases h
        exact .rested (renewal.finish_resting (by simp))
      · rename_i hlive
        rw [AnalysisRun.cancel_call, if_pos (AnalysisRun.not_terminal_iff.1 hlive)] at h
        cases h
        refine .runCancelled hbusy hrun hlive ?_ (renewal.finish_resting (by simp))
        rw [AnalysisRun.cancel_call, if_pos (AnalysisRun.not_terminal_iff.1 hlive)]
  · cases h

theorem effect_complete {now : Int} (h : s.complete d w now = some t) :
    Effect d s (.complete w now) t := by
  unfold complete at h
  split at h
  · rename_i job renewal hbusy
    cases h
    rcases onJob_cases with ⟨worker, hresting, hsame⟩ | ⟨row, saved, hrow, hcall, hsame⟩
    · rw [hsame]
      exact .rested hresting
    · rw [hsame]
      exact .completed hbusy hrow hcall (renewal.finish_resting (by simp))
  · cases h

theorem effect_recordFailure {now : Int} (h : s.recordFailure d w now = some t) :
    Effect d s (.recordFailure w now) t := by
  unfold recordFailure at h
  split at h
  · rename_i job failure renewal hbusy
    cases h
    rcases onJob_cases with ⟨worker, hresting, hsame⟩ | ⟨row, saved, hrow, hcall, hsame⟩
    · rw [hsame]
      exact .rested hresting
    · rw [hsame]
      refine .failureRecorded hbusy hrow hcall ?_
      split
      · rename_i hfailed
        exact .inr ⟨hfailed.1, hfailed.2, rfl⟩
      · exact .inl (renewal.finish_resting (by simp))
  · cases h

theorem effect_loadFailing {now : Int} (h : s.loadFailing w now = some t) :
    Effect d s (.loadFailing w now) t := by
  unfold loadFailing at h
  split at h
  · rename_i job category renewal hbusy
    split at h
    · cases h
      exact .rested (renewal.finish_resting (by simp))
    · rename_i run hrun
      split at h
      · rename_i failed hcall
        cases h
        exact .failingLoaded hbusy hrun hcall
      · rename_i e after hcall
        cases h
        refine .failingRaised hbusy hrun ?_
        intro hstatus
        rw [AnalysisRun.fail_call, if_pos hstatus] at hcall
        cases hcall
  · cases h

theorem effect_saveFailing (h : s.saveFailing w = some t) :
    Effect d s (.saveFailing w) t := by
  unfold saveFailing at h
  split at h
  · rename_i job expectedVersion run renewal hbusy
    split at h
    · rename_i hcurrent
      cases h
      obtain ⟨current, hrow, hversion⟩ := (Option.any_eq_true _ _).1 hcurrent
      exact .runFailed hbusy hrow (by simpa using hversion)
        (renewal.finish_resting (by simp))
    · cases h
      exact .rested (renewal.finish_resting (by simp))
  · cases h

theorem effect_renew {now : Int} (h : s.renew d w now = some t) :
    Effect d s (.renew w now) t := by
  unfold renew at h
  split at h
  · rename_i job stage hbusy
    split at h
    · cases h
      exact .renewalEnded hbusy
    · rename_i row hrow
      split at h
      · cases h
        exact .renewalEnded hbusy
      · split at h
        · rename_i saved hcall
          cases h
          exact .renewed hbusy hrow hcall
        · cases h
          exact .renewalEnded hbusy
  · cases h

/-- **There is nothing else that a step can do.** -/
theorem effect_of_step {a : Action} (h : step d s a = some t) : Effect d s a t := by
  cases a with
  | register new now => exact effect_register h
  | requestCancel actorId organizationId analysisRunId jobId now =>
      exact effect_requestCancel h
  | decide organizationId analysisRunId decision rejectionReason now visualization =>
      exact effect_decide h
  | retryVisualization organizationId original jobId visualizationId now =>
      exact effect_retryVisualization h
  | claim w organizationId jobId now => exact effect_claim h
  | check w => exact effect_check h
  | load w error => exact effect_load h
  | evaluate w evaluation => exact effect_evaluate h
  | render w error => exact effect_render h
  | cancelJob w now => exact effect_cancelJob h
  | cancelRun w now => exact effect_cancelRun h
  | complete w now => exact effect_complete h
  | recordFailure w now => exact effect_recordFailure h
  | loadFailing w now => exact effect_loadFailing h
  | saveFailing w => exact effect_saveFailing h
  | renew w now => exact effect_renew h
  | die w =>
      cases h
      exact .rested (.inl rfl)

end JobSystem

end Zentra
