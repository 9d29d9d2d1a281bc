import Zentra.WorkerSteps

/-!
# What the rows and the workers say about each other

`Consistent` relates the two tables and the workers' stages: the job of a run
and the run itself agree on failure and cancellation, a worker's copy of a run
is either the current one or outdated, and only one worker reports the failure
of a job.

* `Consistent.setJob`, `Consistent.addJob`, `Consistent.setRun`,
  `Consistent.addRun`, `Consistent.setWorker` — each single write keeps it, under
  conditions on what is written;
* `Consistent.call`, `Consistent.rest`, `Consistent.move` — the same for the
  writes that the steps are made of.
-/

open Raising Raising.Method

namespace Zentra

namespace ExecutionJob

/-- The fields by which a job is found, and those that say what it works on. -/
def SameIdentity (a b : ExecutionJob) : Prop :=
  a.jobId = b.jobId ∧ a.organizationId = b.organizationId ∧
    a.analysisRunId = b.analysisRunId ∧ a.jobKind = b.jobKind

variable {job job' : ExecutionJob}

theorem sameIdentity_of_call (op : JobOp)
    (hret : op.method.call job = (.ok (), job')) : job'.SameIdentity job := by
  cases op with
  | requestCancel actorId now =>
      rw [JobOp.method, requestCancel_call] at hret
      cases hret
      unfold cancelRequested flagCancel
      split
      · exact ⟨rfl, rfl, rfl, rfl⟩
      · split
        · exact ⟨rfl, rfl, rfl, rfl⟩
        · exact ⟨rfl, rfl, rfl, rfl⟩
  | cancel workerId now =>
      obtain ⟨-, -, rfl⟩ := cancel_returns.1 hret
      exact ⟨rfl, rfl, rfl, rfl⟩
  | claim workerId now leaseFor =>
      obtain ⟨-, -, -, rfl⟩ := claim_returns.1 hret
      exact ⟨rfl, rfl, rfl, rfl⟩
  | renew workerId now leaseFor =>
      obtain ⟨-, -, -, rfl⟩ := renew_returns.1 hret
      exact ⟨rfl, rfl, rfl, rfl⟩
  | retry workerId now availableAt failureCategory =>
      obtain ⟨-, -, -, category, -, rfl⟩ := retry_returns.1 hret
      exact ⟨rfl, rfl, rfl, rfl⟩
  | complete workerId now =>
      obtain ⟨-, rfl⟩ := complete_returns.1 hret
      exact ⟨rfl, rfl, rfl, rfl⟩
  | fail workerId now failureCategory =>
      obtain ⟨-, category, -, rfl⟩ := fail_returns.1 hret
      exact ⟨rfl, rfl, rfl, rfl⟩

theorem failed_of_call (op : JobOp) (hret : op.method.call job = (.ok (), job'))
    (hop : ∀ workerId now category, op ≠ .fail workerId now category)
    (hfailed : job'.status = .failed) : job.status = .failed := by
  cases op with
  | requestCancel actorId now =>
      rw [JobOp.method, requestCancel_call] at hret
      cases hret
      unfold cancelRequested flagCancel at hfailed
      split at hfailed
      · exact hfailed
      · split at hfailed
        · cases hfailed
        · exact hfailed
  | cancel workerId now =>
      obtain ⟨-, -, rfl⟩ := cancel_returns.1 hret
      cases hfailed
  | claim workerId now leaseFor =>
      obtain ⟨-, -, -, rfl⟩ := claim_returns.1 hret
      cases hfailed
  | renew workerId now leaseFor =>
      obtain ⟨-, -, -, rfl⟩ := renew_returns.1 hret
      exact hfailed
  | retry workerId now availableAt failureCategory =>
      obtain ⟨-, -, -, category, -, rfl⟩ := retry_returns.1 hret
      cases hfailed
  | complete workerId now =>
      obtain ⟨-, rfl⟩ := complete_returns.1 hret
      cases hfailed
  | fail workerId now failureCategory => exact absurd rfl (hop _ _ _)

end ExecutionJob

namespace JobSystem

def evaluatedStatuses : List AnalysisRunStatus := [.completed, .awaitingApproval, .rejected]

/-- The states in which a run can fail. -/
def openStatuses : List AnalysisRunStatus := [.pending, .running, .evaluating]

/-- What a job and its run say about each other. -/
structure Agrees (job : ExecutionJob) (run : AnalysisRun) : Prop where
  organization : run.organizationId = job.organizationId
  published : job.jobKind = .visualization → run.status = .completed
  failed : job.jobKind = .analysisRun → run.status = .failed → job.status = .failed
  cancelled : job.jobKind = .analysisRun → run.status = .cancelled →
    job.status = .cancelled
  unsettled : job.jobKind = .analysisRun → job.status = .failed →
    run.status ∉ evaluatedStatuses

/-- The stored run has moved on since its version was read, or its status is
still one that satisfies `p`. -/
def ReadAt (s : JobSystem) (analysisRunId : UUID) (version : Int)
    (p : AnalysisRunStatus → Prop) : Prop :=
  ∃ current, s.runs analysisRunId = some current ∧ version ≤ current.version ∧
    (current.version = version → p current.status)

/-- The stage reports the failure of the job to the run. -/
def Reports : Stage → Prop
  | .failing _ => True
  | .failingRun _ _ => True
  | _ => False

/-- What a stage knows of the row of its job, and of the run. -/
def StageOk (s : JobSystem) (row : ExecutionJob) : Stage → Prop
  | .evaluating loaded =>
      row.jobKind = .analysisRun ∧ loaded.analysisRunId = row.analysisRunId ∧
        loaded.organizationId = row.organizationId ∧
        s.ReadAt row.analysisRunId loaded.version fun status => status = loaded.status
  | .cancellingRun => row.status = .cancelled
  | .failing _ => row.status = .failed ∧
      ∀ run, s.runs row.analysisRunId = some run → run.status ≠ .failed
  | .failingRun expectedVersion failed =>
      row.status = .failed ∧ row.jobKind = .analysisRun ∧
        failed.status = .failed ∧ failed.analysisRunId = row.analysisRunId ∧
        failed.organizationId = row.organizationId ∧ expectedVersion < failed.version ∧
        s.ReadAt row.analysisRunId expectedVersion fun status => status ∈ openStatuses
  | _ => True

/-- What a worker knows of the rows. -/
def WorkerOk (s : JobSystem) : Worker → Prop
  | .idle => True
  | .busy job stage _ => ∃ row, s.jobs job.jobId = some row ∧ row.SameIdentity job ∧
      s.StageOk row stage
  | .stopped error => ∀ e, error ≠ .transition e

/-- **The invariant of the system.** -/
structure Consistent (s : JobSystem) : Prop where
  job_key : ∀ id job, s.jobs id = some job → job.jobId = id
  job_run : ∀ id job, s.jobs id = some job →
    ∃ run, s.runs job.analysisRunId = some run ∧ Agrees job run
  run_key : ∀ id run, s.runs id = some run → run.analysisRunId = id
  one_job : ∀ i j a b, s.jobs i = some a → s.jobs j = some b →
    a.jobKind = .analysisRun → b.jobKind = .analysisRun →
    a.analysisRunId = b.analysisRunId → i = j
  workers_ok : ∀ w, s.WorkerOk (s.workers w)
  one_report : ∀ v w job job' stage stage' renewal renewal',
    s.workers v = .busy job stage renewal → s.workers w = .busy job' stage' renewal' →
    Reports stage → Reports stage' → job.jobId = job'.jobId → v = w

variable {d : Deployment} {s t : JobSystem} {a : Action} {w : Nat}
  {job row saved : ExecutionJob} {run run' : AnalysisRun} {stage : Stage}

theorem consistent_initial : initial.Consistent where
  job_key := by intro id job h; cases h
  job_run := by intro id job h; cases h
  run_key := by intro id run h; cases h
  one_job := by intro i j a b h; cases h
  workers_ok := fun _ => trivial
  one_report := by intro v w job job' stage stage' renewal renewal' h; cases h

theorem stageOk_of_unbound (h : stage.Unbound) : s.StageOk row stage := by
  cases stage <;> trivial

theorem not_reports_of_unbound (h : stage.Unbound) : ¬ Reports stage := by
  cases stage <;> first | exact id | trivial

/-- A stage goes on knowing what it knows when its job is saved: a terminal job
stays as it is. -/
theorem stageOk_setJob (h : s.StageOk row stage) (hsame : saved.SameIdentity row)
    (hterminal : row.Terminal → saved = row) : (s.setJob saved).StageOk saved stage := by
  obtain ⟨-, horganization, hrun, hkind⟩ := hsame
  cases stage with
  | evaluating loaded =>
      obtain ⟨hanalysis, hid, horg, hread⟩ := h
      refine ⟨hkind.trans hanalysis, hid.trans hrun.symm,
        horg.trans horganization.symm, ?_⟩
      rw [hrun]
      exact hread
  | cancellingRun =>
      have hcancelled : row.status = .cancelled := h
      rw [hterminal (by simp [hcancelled])]
      exact h
  | failing category =>
      rw [hterminal (by simp [h.1])]
      exact h
  | failingRun expectedVersion failed =>
      rw [hterminal (by simp [h.1])]
      exact h
  | _ => trivial

theorem Consistent.setJob (h : s.Consistent) (hrow : s.jobs saved.jobId = some row)
    (hsame : saved.SameIdentity row) (hterminal : row.Terminal → saved = row)
    (hfailed : saved.status = .failed → saved.jobKind = .analysisRun →
      ∀ run, s.runs saved.analysisRunId = some run → run.status ∉ evaluatedStatuses) :
    (s.setJob saved).Consistent where
  job_key := by
    intro id job hjob
    rw [jobs_setJob] at hjob
    split at hjob
    · rename_i hid
      cases hjob
      exact hid.symm
    · exact h.job_key id job hjob
  job_run := by
    intro id job hjob
    rw [jobs_setJob] at hjob
    split at hjob
    · cases hjob
      obtain ⟨run, hrun, hagrees⟩ := h.job_run _ row hrow
      rw [← hsame.2.2.1] at hrun
      refine ⟨run, hrun, ?_⟩
      exact {
        organization := hagrees.organization.trans hsame.2.1.symm
        published := fun hkind => hagrees.published (hsame.2.2.2.symm.trans hkind)
        failed := by
          intro hkind hst
          have hrowfailed := hagrees.failed (hsame.2.2.2.symm.trans hkind) hst
          rw [hterminal (by simp [hrowfailed])]
          exact hrowfailed
        cancelled := by
          intro hkind hst
          have hrowcancelled := hagrees.cancelled (hsame.2.2.2.symm.trans hkind) hst
          rw [hterminal (by simp [hrowcancelled])]
          exact hrowcancelled
        unsettled := fun hkind hst => hfailed hst hkind run hrun }
    · exact h.job_run id job hjob
  run_key := h.run_key
  one_job := by
    intro i j a b ha hb hka hkb hrun
    -- the saved job stands for the row that it replaces
    have hold : ∀ i a, (s.setJob saved).jobs i = some a →
        ∃ a', s.jobs i = some a' ∧ a.SameIdentity a' := by
      intro i a ha
      rw [jobs_setJob] at ha
      split at ha
      · rename_i hi
        cases ha
        exact ⟨row, hi ▸ hrow, hsame⟩
      · exact ⟨a, ha, rfl, rfl, rfl, rfl⟩
    obtain ⟨a', ha', hsa⟩ := hold i a ha
    obtain ⟨b', hb', hsb⟩ := hold j b hb
    exact h.one_job i j a' b' ha' hb' (hsa.2.2.2.symm.trans hka)
      (hsb.2.2.2.symm.trans hkb) (hsa.2.2.1.symm.trans (hrun.trans hsb.2.2.1))
  workers_ok := by
    intro w
    have hok := h.workers_ok w
    rw [setJob_workers]
    cases hworker : s.workers w with
    | idle => trivial
    | stopped error =>
        rw [hworker] at hok
        exact hok
    | busy job stage renewal =>
        rw [hworker] at hok
        obtain ⟨found, hfound, hidentity, hstage⟩ := hok
        by_cases hid : job.jobId = saved.jobId
        · have hfr : found = row := by
            rw [hid, hrow] at hfound
            exact (Option.some.inj hfound).symm
          subst hfr
          refine ⟨saved, ?_, ?_, stageOk_setJob hstage hsame hterminal⟩
          · rw [jobs_setJob, if_pos hid]
          · exact ⟨hsame.1.trans hidentity.1, hsame.2.1.trans hidentity.2.1,
              hsame.2.2.1.trans hidentity.2.2.1, hsame.2.2.2.trans hidentity.2.2.2⟩
        · refine ⟨found, ?_, hidentity, ?_⟩
          · rw [jobs_setJob, if_neg hid]
            exact hfound
          · cases stage <;> exact hstage
  one_report := h.one_report

theorem Consistent.addJob (h : s.Consistent) (hfree : s.jobs job.jobId = none)
    (hrun : ∃ run, s.runs job.analysisRunId = some run ∧ Agrees job run)
    (hfirst : job.jobKind = .analysisRun → ∀ id other, s.jobs id = some other →
      other.jobKind = .analysisRun → other.analysisRunId ≠ job.analysisRunId) :
    (s.setJob job).Consistent where
  job_key := by
    intro id found hfound
    rw [jobs_setJob] at hfound
    split at hfound
    · rename_i hid
      cases hfound
      exact hid.symm
    · exact h.job_key id found hfound
  job_run := by
    intro id found hfound
    rw [jobs_setJob] at hfound
    split at hfound
    · cases hfound
      exact hrun
    · exact h.job_run id found hfound
  run_key := h.run_key
  one_job := by
    intro i j a b ha hb hka hkb hsame
    rw [jobs_setJob] at ha hb
    split at ha
    · rename_i hi
      cases ha
      split at hb
      · rename_i hj
        exact hi.trans hj.symm
      · exact absurd hsame.symm (hfirst hka j b hb hkb)
    · split at hb
      · cases hb
        exact absurd hsame (hfirst hkb i a ha hka)
      · exact h.one_job i j a b ha hb hka hkb hsame
  workers_ok := by
    intro w
    have hok := h.workers_ok w
    rw [setJob_workers]
    cases hworker : s.workers w with
    | idle => trivial
    | stopped error =>
        rw [hworker] at hok
        exact hok
    | busy held stage renewal =>
        rw [hworker] at hok
        obtain ⟨found, hfound, hidentity, hstage⟩ := hok
        have hother : held.jobId ≠ job.jobId := by
          intro hid
          rw [hid, hfree] at hfound
          cases hfound
        refine ⟨found, ?_, hidentity, ?_⟩
        · rw [jobs_setJob, if_neg hother]
          exact hfound
        · cases stage <;> exact hstage
  one_report := h.one_report

theorem ReadAt.setRun {id : UUID} {version : Int} {p : AnalysisRunStatus → Prop}
    (h : s.ReadAt id version p) (hrun : s.runs run'.analysisRunId = some run)
    (hlater : run.version < run'.version) : (s.setRun run').ReadAt id version p := by
  obtain ⟨current, hcurrent, hle, hp⟩ := h
  by_cases hid : id = run'.analysisRunId
  · have hsame : current = run := by
      rw [hid, hrun] at hcurrent
      exact (Option.some.inj hcurrent).symm
    subst hsame
    refine ⟨stored run', ?_, ?_, ?_⟩
    · rw [runs_setRun, if_pos hid]
    · show version ≤ run'.version
      omega
    · intro hversion
      have hequal : run'.version = version := hversion
      omega
  · refine ⟨current, ?_, hle, hp⟩
    rw [runs_setRun, if_neg hid]
    exact hcurrent

theorem Consistent.setRun (h : s.Consistent) (hrun : s.runs run.analysisRunId = some run)
    (hlater : run.Advances run') (hopen : run.status ≠ .completed)
    (hjob : ∀ id job, s.jobs id = some job → job.jobKind = .analysisRun →
      job.analysisRunId = run.analysisRunId →
      (run'.status = .failed → job.status = .failed) ∧
      (run'.status = .cancelled → job.status = .cancelled) ∧
      (job.status = .failed → run'.status ∉ evaluatedStatuses))
    (hreport : ∀ w job category renewal, s.workers w = .busy job (.failing category) renewal →
      job.analysisRunId = run.analysisRunId → run'.status ≠ .failed) :
    (s.setRun run').Consistent where
  job_key := h.job_key
  job_run := by
    intro id job hfound
    obtain ⟨old, hold, hagrees⟩ := h.job_run id job hfound
    by_cases hid : job.analysisRunId = run'.analysisRunId
    · have hof : job.analysisRunId = run.analysisRunId := hid.trans hlater.1
      have hsame : old = run := by
        rw [hof, hrun] at hold
        exact (Option.some.inj hold).symm
      subst hsame
      refine ⟨stored run', ?_, ?_⟩
      · rw [runs_setRun, if_pos hid]
      · exact {
          organization := hlater.2.1.trans hagrees.organization
          published := fun hkind => absurd (hagrees.published hkind) hopen
          failed := fun hkind => (hjob id job hfound hkind hof).1
          cancelled := fun hkind => (hjob id job hfound hkind hof).2.1
          unsettled := fun hkind => (hjob id job hfound hkind hof).2.2 }
    · refine ⟨old, ?_, hagrees⟩
      rw [runs_setRun, if_neg hid]
      exact hold
  run_key := by
    intro id found hfound
    rw [runs_setRun] at hfound
    split at hfound
    · rename_i hid
      cases hfound
      exact hid.symm
    · exact h.run_key id found hfound
  one_job := h.one_job
  workers_ok := by
    intro w
    have hok := h.workers_ok w
    have hrun' : s.runs run'.analysisRunId = some run := by
      rw [hlater.1]
      exact hrun
    rw [setRun_workers]
    cases hworker : s.workers w with
    | idle => trivial
    | stopped error =>
        rw [hworker] at hok
        exact hok
    | busy held stage renewal =>
        rw [hworker] at hok
        obtain ⟨found, hfound, hidentity, hstage⟩ := hok
        refine ⟨found, hfound, hidentity, ?_⟩
        cases stage with
        | evaluating loaded =>
            obtain ⟨hanalysis, hid, horg, hread⟩ := hstage
            exact ⟨hanalysis, hid, horg, hread.setRun hrun' hlater.2.2⟩
        | failing category =>
            refine ⟨hstage.1, ?_⟩
            intro current hcurrent
            rw [runs_setRun] at hcurrent
            split at hcurrent
            · rename_i hid
              cases hcurrent
              refine hreport w held category renewal hworker ?_
              exact hidentity.2.2.1.symm.trans (hid.trans hlater.1)
            · exact hstage.2 current hcurrent
        | failingRun expectedVersion failed =>
            obtain ⟨hfailed, hanalysis, hst, hid, horg, hversion, hread⟩ := hstage
            exact ⟨hfailed, hanalysis, hst, hid, horg, hversion,
              hread.setRun hrun' hlater.2.2⟩
        | _ => exact hstage
  one_report := h.one_report

theorem Consistent.addRun (h : s.Consistent) (hfree : s.runs run.analysisRunId = none) :
    (s.setRun run).Consistent := by
  have hother : ∀ id found, s.runs id = some found →
      (s.setRun run).runs id = some found := by
    intro id found hfound
    have hid : id ≠ run.analysisRunId := by
      rintro rfl
      rw [hfree] at hfound
      cases hfound
    rw [runs_setRun, if_neg hid]
    exact hfound
  have hread : ∀ {id version} {p : AnalysisRunStatus → Prop}, s.ReadAt id version p →
      (s.setRun run).ReadAt id version p := by
    rintro id version p ⟨current, hcurrent, hp⟩
    exact ⟨current, hother id current hcurrent, hp⟩
  exact {
    job_key := h.job_key
    job_run := by
      intro id job hfound
      obtain ⟨old, hold, hagrees⟩ := h.job_run id job hfound
      exact ⟨old, hother _ old hold, hagrees⟩
    run_key := by
      intro id found hfound
      rw [runs_setRun] at hfound
      split at hfound
      · rename_i hid
        cases hfound
        exact hid.symm
      · exact h.run_key id found hfound
    one_job := h.one_job
    workers_ok := by
      intro w
      have hok := h.workers_ok w
      rw [setRun_workers]
      cases hworker : s.workers w with
      | idle => trivial
      | stopped error =>
          rw [hworker] at hok
          exact hok
      | busy held stage renewal =>
          rw [hworker] at hok
          obtain ⟨found, hfound, hidentity, hstage⟩ := hok
          refine ⟨found, hfound, hidentity, ?_⟩
          cases stage with
          | evaluating loaded =>
              obtain ⟨hanalysis, hid, horg, hloaded⟩ := hstage
              exact ⟨hanalysis, hid, horg, hread hloaded⟩
          | failing category =>
              refine ⟨hstage.1, ?_⟩
              intro current hcurrent
              rw [runs_setRun] at hcurrent
              split at hcurrent
              · rename_i hid
                obtain ⟨old, hold, -⟩ := h.job_run _ found hfound
                rw [hid, hfree] at hold
                cases hold
              · exact hstage.2 current hcurrent
          | failingRun expectedVersion failed =>
              obtain ⟨hfailed, hanalysis, hst, hid, horg, hversion, hloaded⟩ := hstage
              exact ⟨hfailed, hanalysis, hst, hid, horg, hversion, hread hloaded⟩
          | _ => exact hstage
    one_report := h.one_report }

/-- A worker that knows what its stage says, and is the only one to report the
failure of its job. -/
theorem Consistent.setWorker (h : s.Consistent) {worker : Worker}
    (hok : s.WorkerOk worker)
    (hreport : ∀ job stage renewal, worker = .busy job stage renewal → Reports stage →
      ∀ v job' stage' renewal', v ≠ w → s.workers v = .busy job' stage' renewal' →
        Reports stage' → job'.jobId ≠ job.jobId) :
    (s.setWorker w worker).Consistent where
  job_key := h.job_key
  job_run := h.job_run
  run_key := h.run_key
  one_job := h.one_job
  workers_ok := by
    intro v
    have hv : s.WorkerOk ((s.setWorker w worker).workers v) := by
      rw [workers_setWorker]
      split
      · exact hok
      · exact h.workers_ok v
    generalize (s.setWorker w worker).workers v = x at hv ⊢
    cases x with
    | idle => trivial
    | stopped error => exact hv
    | busy job stage renewal =>
        obtain ⟨found, hfound, hidentity, hstage⟩ := hv
        refine ⟨found, hfound, hidentity, ?_⟩
        cases stage <;> exact hstage
  one_report := by
    intro u v job job' stage stage' renewal renewal' hu hv hreports hreports' hsame
    rw [workers_setWorker] at hu hv
    split at hu
    · rename_i huw
      split at hv
      · rename_i hvw
        exact huw.trans hvw.symm
      · rename_i hvw
        exact absurd hsame.symm
          (hreport job stage renewal hu hreports v job' stage' renewal' hvw hv hreports')
    · rename_i huw
      split at hv
      · exact absurd hsame
          (hreport job' stage' renewal' hv hreports' u job stage renewal huw hu hreports)
      · exact h.one_report u v job job' stage stage' renewal renewal' hu hv hreports
          hreports' hsame

theorem Consistent.call (h : s.Consistent) {id : UUID} (hrow : s.jobs id = some row)
    (op : JobOp) (hcall : op.method.call row = (.ok (), saved))
    (hfail : (∃ workerId now category, op = .fail workerId now category) →
      row.jobKind = .analysisRun → ∀ run, s.runs row.analysisRunId = some run →
        run.status ∉ evaluatedStatuses) : (s.setJob saved).Consistent := by
  have hsame := ExecutionJob.sameIdentity_of_call op hcall
  have hkey : saved.jobId = id := hsame.1.trans (h.job_key id row hrow)
  refine h.setJob (hkey ▸ hrow) hsame
    (fun hterminal => ExecutionJob.terminal_absorbing hterminal hcall) ?_
  intro hst hkind run hrun
  rw [hsame.2.2.1] at hrun
  rw [hsame.2.2.2] at hkind
  by_cases hop : ∃ workerId now category, op = .fail workerId now category
  · exact hfail hop hkind run hrun
  · have hrowfailed : row.status = .failed := by
      refine ExecutionJob.failed_of_call op hcall ?_ hst
      intro workerId now category heq
      exact hop ⟨workerId, now, category, heq⟩
    obtain ⟨found, hfound, hagrees⟩ := h.job_run id row hrow
    rw [hrun] at hfound
    cases hfound
    exact hagrees.unsettled hkind hrowfailed

theorem Consistent.rest (h : s.Consistent) {worker : Worker} (hrest : worker.Resting) :
    (s.setWorker w worker).Consistent := by
  refine h.setWorker ?_ ?_
  · rcases hrest with rfl | ⟨error, rfl, herror⟩
    · trivial
    · exact herror
  · rintro job stage renewal rfl
    rcases hrest with hidle | ⟨error, hstopped, -⟩
    · cases hidle
    · cases hstopped

theorem Consistent.move (h : s.Consistent) {renewal : Renewal}
    (hrow : s.jobs job.jobId = some row) (hsame : row.SameIdentity job)
    (hunbound : stage.Unbound) :
    (s.setWorker w (.busy job stage renewal)).Consistent := by
  refine h.setWorker ⟨row, hrow, hsame, stageOk_of_unbound hunbound⟩ ?_
  rintro job' stage' renewal' heq hreports
  cases heq
  exact absurd hreports (not_reports_of_unbound hunbound)

theorem Consistent.busy (h : s.Consistent) {renewal : Renewal}
    (hbusy : s.workers w = .busy job stage renewal) :
    ∃ row, s.jobs job.jobId = some row ∧ row.SameIdentity job ∧ s.StageOk row stage := by
  have hok := h.workers_ok w
  rw [hbusy] at hok
  exact hok

theorem Consistent.addsVisualization (h : s.Consistent) {organizationId id : UUID}
    {now : Int} (hrun : s.runs id = some run) (horganization : run.organizationId = organizationId)
    (hcompleted : run.status = .completed)
    (hadds : s.AddsVisualization organizationId id now t) : t.Consistent := by
  obtain ⟨jobId, visualizationId, job, hcreate, hfree, rfl⟩ := hadds
  obtain ⟨-, -, rfl⟩ := ExecutionJob.create_returns hcreate
  refine h.addJob hfree ⟨run, hrun, ?_⟩ (by simp)
  exact {
    organization := horganization
    published := fun _ => hcompleted
    failed := by simp
    cancelled := by simp
    unsettled := by simp }

theorem rows_eq_some {new : NewRun} {now : Int} (h : new.rows now = some (run, job)) :
    run.status = .running ∧ run.organizationId = job.organizationId ∧
      run.analysisRunId = job.analysisRunId ∧ job.status = .queued ∧
      job.jobKind = .analysisRun := by
  unfold NewRun.rows at h
  split at h
  · rename_i created newJob hrun hjob
    obtain ⟨-, -, rfl⟩ := ExecutionJob.create_returns hjob
    split at h
    · rename_i started hstart
      cases h
      unfold AnalysisRun.create at hrun
      split at hrun
      · cases hrun
      · cases hrun
        rw [AnalysisRun.start, AnalysisRun.transition_call] at hstart
        cases hstart
        exact ⟨rfl, rfl, rfl, rfl, rfl⟩
    · cases h
  · cases h

end JobSystem

end Zentra
