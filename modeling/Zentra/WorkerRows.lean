import Zentra.CancelRequest

/-!
# The rows of jobs and runs

Workers hold copies of runs between their transactions, and nobody locks the rows for them.

* `Onward` — what any number of steps may do to the rows;
* `Knows` — what the copy that a worker holds says of the row;
* `rows_onward` — jobs and runs that are over stay as they are, and the version of a run
  says which row it is.
-/

open Raising Raising.Method StepTrace

namespace Zentra

namespace JobSystem

variable {d : Deployment} {s t u : JobSystem} {a : Action} {w : Nat}
  {job row saved : ExecutionJob} {run run' : AnalysisRun} {worker : Worker} {stage : Stage}

/-- The rows are still there.  Those that are over have not changed, and a run that has
changed has a later version. -/
structure Onward (s t : JobSystem) : Prop where
  jobs : ∀ id job, s.jobs id = some job → ∃ job', t.jobs id = some job' ∧
    job'.SameIdentity job ∧ (job.Terminal → job' = job)
  runs : ∀ id run, s.runs id = some run → ∃ run', t.runs id = some run' ∧
    (run' = run ∨ (run.Advances run' ∧ ¬ run.Terminal))

theorem Onward.refl (s : JobSystem) : Onward s s where
  jobs := fun _ job hjob => ⟨job, hjob, ⟨rfl, rfl, rfl, rfl⟩, fun _ => rfl⟩
  runs := fun _ run hrun => ⟨run, hrun, .inl rfl⟩

theorem Onward.trans (h : Onward s t) (hlater : Onward t u) : Onward s u where
  jobs := by
    intro id job hjob
    obtain ⟨mid, hmid, hsame, hover⟩ := h.jobs id job hjob
    obtain ⟨last, hlast, hsame', hover'⟩ := hlater.jobs id mid hmid
    refine ⟨last, hlast, ⟨hsame'.1.trans hsame.1, hsame'.2.1.trans hsame.2.1,
      hsame'.2.2.1.trans hsame.2.2.1, hsame'.2.2.2.trans hsame.2.2.2⟩, fun hterminal => ?_⟩
    obtain rfl := hover hterminal
    exact hover' hterminal
  runs := by
    intro id run hrun
    obtain ⟨mid, hmid, hmoved⟩ := h.runs id run hrun
    obtain ⟨last, hlast, hmoved'⟩ := hlater.runs id mid hmid
    refine ⟨last, hlast, ?_⟩
    rcases hmoved with rfl | ⟨hfirst, hlive⟩
    · exact hmoved'
    · rcases hmoved' with rfl | ⟨hsecond, -⟩
      · exact .inr ⟨hfirst, hlive⟩
      · exact .inr ⟨⟨hsecond.1.trans hfirst.1, hsecond.2.1.trans hfirst.2.1,
          hfirst.2.2.trans hsecond.2.2⟩, hlive⟩

theorem onward_setJob (h : ∀ old, s.jobs saved.jobId = some old →
    saved.SameIdentity old ∧ (old.Terminal → saved = old)) : Onward s (s.setJob saved) where
  jobs := by
    intro id job hjob
    by_cases hid : id = saved.jobId
    · exact ⟨saved, by rw [jobs_setJob, if_pos hid], h job (hid ▸ hjob)⟩
    · refine ⟨job, ?_, ⟨rfl, rfl, rfl, rfl⟩, fun _ => rfl⟩
      rw [jobs_setJob, if_neg hid]
      exact hjob
  runs := (Onward.refl s).runs

theorem onward_setRun (h : ∀ old, s.runs run.analysisRunId = some old →
    old.Advances run ∧ ¬ old.Terminal) : Onward s (s.setRun run) where
  jobs := (Onward.refl s).jobs
  runs := by
    intro id old hold
    by_cases hid : id = run.analysisRunId
    · exact ⟨stored run, by rw [runs_setRun, if_pos hid], .inr (h old (hid ▸ hold))⟩
    · refine ⟨old, ?_, .inl rfl⟩
      rw [runs_setRun, if_neg hid]
      exact hold

/-- An operation on the row of a job. -/
theorem Sound.onward_call (h : s.Sound d) {id : UUID} (hrow : s.jobs id = some row)
    (op : JobOp) (hret : op.method.call row = (.ok (), saved)) :
    Onward s (s.setJob saved) := by
  have hsame := ExecutionJob.sameIdentity_of_call op hret
  refine onward_setJob fun old hold => ?_
  rw [hsame.1, h.job_key _ _ hrow, hrow] at hold
  cases hold
  exact ⟨hsame, fun hterminal => ExecutionJob.terminal_absorbing hterminal hret⟩

theorem onward_addsVisualization {organizationId analysisRunId : UUID} {now : Int}
    (h : s.AddsVisualization organizationId analysisRunId now t) :
    Onward s t ∧ t.workers = s.workers := by
  obtain ⟨jobId, visualizationId, job, -, hfree, rfl⟩ := h
  exact ⟨onward_setJob (by simp [hfree]), rfl⟩

theorem Sound.onward_save (h : s.Sound d) {id : UUID} (hrun : s.runs id = some run)
    (hlater : run.Advances run') (hlive : ¬ run.Terminal) : Onward s (s.setRun run') := by
  refine onward_setRun fun old hold => ?_
  rw [hlater.1, h.run_key _ _ hrun, hrun] at hold
  cases hold
  exact ⟨hlater, hlive⟩

/-- The row has a later version, or what is known of it still holds. -/
def CopyAt (s : JobSystem) (id : UUID) (version : Int) (p : AnalysisRun → Prop) : Prop :=
  ∃ row, s.runs id = some row ∧ version ≤ row.version ∧ (row.version = version → p row)

/-- What the copy of a run says of the row. -/
def Knows (s : JobSystem) (job : ExecutionJob) : Stage → Prop
  | .evaluating loaded => loaded.analysisRunId = job.analysisRunId ∧
      s.CopyAt loaded.analysisRunId loaded.version fun row => row = loaded
  | .failingRun version failed => s.CopyAt failed.analysisRunId version fun row =>
      row.Advances failed ∧ ¬ row.Terminal
  | _ => True

def Copies (s : JobSystem) : Prop :=
  ∀ w job stage renewal, s.workers w = .busy job stage renewal → s.Knows job stage

theorem CopyAt.onward {id : UUID} {version : Int} {p : AnalysisRun → Prop}
    (h : s.CopyAt id version p) (hon : Onward s t) : t.CopyAt id version p := by
  obtain ⟨row, hrow, hle, hp⟩ := h
  obtain ⟨row', hrow', rfl | ⟨hlater, -⟩⟩ := hon.runs id row hrow
  · exact ⟨row', hrow', hle, hp⟩
  · have hlt := hlater.2.2
    exact ⟨row', hrow', by omega, fun heq => by omega⟩

theorem Knows.onward (h : s.Knows job stage) (hon : Onward s t) : t.Knows job stage := by
  cases stage with
  | evaluating loaded => exact ⟨h.1, h.2.onward hon⟩
  | failingRun version failed => exact CopyAt.onward h hon
  | _ => trivial

theorem knows_of_unbound (h : stage.Unbound) : s.Knows job stage := by
  cases stage <;> trivial

/-- Only rows are written. -/
theorem Copies.rows (h : Copies s) (hon : Onward s t) (hworkers : t.workers = s.workers) :
    Onward s t ∧ Copies t := by
  refine ⟨hon, fun v job stage renewal hbusy => ?_⟩
  rw [hworkers] at hbusy
  exact (h v job stage renewal hbusy).onward hon

theorem Copies.goes (h : Copies s) (hon : Onward s t) (hworkers : t.workers = s.workers)
    (hknows : ∀ job stage renewal, worker = .busy job stage renewal → t.Knows job stage) :
    Onward s (t.setWorker w worker) ∧ Copies (t.setWorker w worker) := by
  refine ⟨⟨hon.jobs, hon.runs⟩, fun v job stage renewal hbusy => ?_⟩
  have hsame : Onward t (t.setWorker w worker) := ⟨(Onward.refl t).jobs, (Onward.refl t).runs⟩
  rw [workers_setWorker] at hbusy
  split at hbusy
  · exact (hknows job stage renewal hbusy).onward hsame
  · exact ((h.rows hon hworkers).2 v job stage renewal hbusy).onward hsame

theorem knows_of_resting (h : worker.Resting) :
    ∀ job stage renewal, worker = .busy job stage renewal → t.Knows job stage := by
  rintro job stage renewal rfl
  obtain hidle | ⟨error, hstopped, -⟩ := h
  · cases hidle
  · cases hstopped

theorem knows_busy {renewal : Renewal} (h : t.Knows job stage) : ∀ job' stage' renewal',
    Worker.busy job stage renewal = .busy job' stage' renewal' → t.Knows job' stage' := by
  rintro _ _ _ ⟨⟩
  exact h

/-- **Step lemma.** -/
theorem Copies.step (h : Copies s) (hsound : s.Sound d) (hstep : step d s a = some t) :
    Onward s t ∧ Copies t := by
  cases effect_of_step hstep with
  | @registered _ _ run _ _ hrun hjob =>
      have hfirst : Onward s (s.setRun run) := onward_setRun (by simp [hrun])
      exact h.rows (hfirst.trans (onward_setJob (by simp [hjob]))) rfl
  | @cancelFlagged actorId _ _ _ now _ _ _ hrow =>
      exact h.rows (hsound.onward_call (getJob_eq_some.1 hrow).1 (.requestCancel actorId now)
        (ExecutionJob.requestCancel_call actorId)) rfl
  | @cancelledAtOnce actorId _ _ _ now _ _ _ hrun hrow hlive _ _ _ hcall =>
      have hflagged := hsound.onward_call (getJob_eq_some.1 hrow).1
        (.requestCancel actorId now) (ExecutionJob.requestCancel_call actorId)
      have hsaved := hsound.onward_save (getRun_eq_some.1 hrun).1
        (AnalysisRun.cancel_returns hcall).2 hlive
      exact h.rows ⟨hflagged.jobs, hsaved.runs⟩ rfl
  | decided hrun hcall hadds =>
      obtain ⟨hstatus, hlater, -⟩ := AnalysisRun.decide_returns hcall
      have hsaved := hsound.onward_save (getRun_eq_some.1 hrun).1 hlater
        (by simp [AnalysisRun.terminal_iff, hstatus])
      rcases hadds with rfl | ⟨-, hadds⟩
      · exact h.rows hsaved rfl
      · obtain ⟨hon, hworkers⟩ := onward_addsVisualization hadds
        exact h.rows (hsaved.trans hon) hworkers
  | visualizationRetried _ _ hadds =>
      obtain ⟨hon, hworkers⟩ := onward_addsVisualization hadds
      exact h.rows hon hworkers
  | @claimed w _ _ now _ _ _ hrow _ hcall =>
      exact h.goes (hsound.onward_call hrow (.claim (d.workerId w) now (d.leaseFor w)) hcall)
        rfl (knows_busy trivial)
  | rested hrest => exact h.goes (.refl s) rfl (knows_of_resting hrest)
  | moved _ hunbound => exact h.goes (.refl s) rfl (knows_busy (knows_of_unbound hunbound))
  | renewalEnded hbusy => exact h.goes (.refl s) rfl (knows_busy (h _ _ _ _ hbusy))
  | loaded _ _ hrun =>
      have hfound := (getRun_eq_some.1 hrun).1
      have hkey := hsound.run_key _ _ hfound
      exact h.goes (.refl s) rfl (knows_busy
        ⟨hkey, _, hkey.symm ▸ hfound, le_rfl, fun _ => rfl⟩)
  | evaluated hbusy hunbound hcurrent _ hexecute hadds =>
      obtain ⟨hversion, -, reason, hcall, -⟩ := executeEvaluation_ok hexecute
      have hrunning := (evaluate_returns (directiveFor_ne_retry _) hcall).1
      obtain ⟨hid, row, hrow, -, hcopy⟩ := h _ _ _ _ hbusy
      have hfound := (getRun_eq_some.1 hcurrent).1
      rw [hid, hfound] at hrow
      cases hrow
      -- the row is the copy, since nobody has saved the run in between
      obtain rfl := hcopy hversion
      have hsaved := hsound.onward_save hfound (AnalysisRun.evaluate_advances hcall)
        (by simp [AnalysisRun.terminal_iff, hrunning])
      rcases hadds with rfl | ⟨-, hadds⟩
      · exact h.goes hsaved rfl (knows_busy (knows_of_unbound hunbound))
      · obtain ⟨hon, hworkers⟩ := onward_addsVisualization hadds
        exact h.goes (hsaved.trans hon) hworkers (knows_busy (knows_of_unbound hunbound))
  | @jobCancelled w now _ _ _ _ _ hrow hcall =>
      exact h.goes (hsound.onward_call (getJob_eq_some.1 hrow).1 (.cancel (d.workerId w) now)
        hcall) rfl (knows_busy trivial)
  | runCancelled _ hrun hlive hcall hrest =>
      exact h.goes (hsound.onward_save (getRun_eq_some.1 hrun).1
        (AnalysisRun.cancel_returns hcall).2 hlive) rfl (knows_of_resting hrest)
  | @completed w now _ _ _ _ _ _ hrow hcall hrest =>
      exact h.goes (hsound.onward_call (getJob_eq_some.1 hrow).1
        (.complete (d.workerId w) now) hcall) rfl (knows_of_resting hrest)
  | failureRecorded _ hrow hcall hnext =>
      refine h.goes (hsound.onward_call (getJob_eq_some.1 hrow).1 _ hcall) rfl ?_
      rcases hnext with hrest | ⟨-, -, rfl⟩
      · exact knows_of_resting hrest
      · exact knows_busy trivial
  | failingLoaded _ hrun hcall =>
      obtain ⟨hstatus, -, hlater⟩ := AnalysisRun.fail_returns hcall
      have hfound := (getRun_eq_some.1 hrun).1
      refine h.goes (.refl s) rfl (knows_busy ⟨_, ?_, le_rfl,
        fun _ => ⟨hlater, AnalysisRun.not_terminal_iff.2
          (List.mem_append_left [AnalysisRunStatus.awaitingApproval] hstatus)⟩⟩)
      rw [hlater.1, hsound.run_key _ _ hfound]
      exact hfound
  | failingRaised =>
      refine h.goes (.refl s) rfl fun job stage renewal hbusy => ?_
      unfold Renewal.finish at hbusy
      split at hbusy <;> cases hbusy
  | runFailed hbusy hcurrent hversion hrest =>
      obtain ⟨row, hrow, -, hcopy⟩ := h _ _ _ _ hbusy
      have hfound := (getRun_eq_some.1 hcurrent).1
      rw [hfound] at hrow
      cases hrow
      obtain ⟨hlater, hlive⟩ := hcopy hversion
      exact h.goes (hsound.onward_save hfound hlater hlive) rfl (knows_of_resting hrest)
  | @renewed w now _ _ _ _ _ hrow hcall =>
      exact h.rows (hsound.onward_call (getJob_eq_some.1 hrow).1
        (.renew (d.workerId w) now (d.leaseFor w)) hcall) rfl

end JobSystem

open JobSystem

/-- **What the rows keep.**  Whatever has happened since the tables were empty, and whatever
happens next: the fields of every job agree; jobs and runs stay what they are about; those
that are over stay as they are; and a run only changes to a later version of itself. -/
theorem rows_onward {d : Deployment} {before after : List Action} {s t : JobSystem}
    (h : run (JobSystem.step d) .initial before = some s)
    (hafter : run (JobSystem.step d) s after = some t) :
    (∀ id job, s.jobs id = some job → job.Representation) ∧ Onward s t := by
  have hcopies : s.Sound d ∧ Copies s := by
    refine (exec_of_run h).invariant (fun s => s.Sound d ∧ Copies s) ⟨sound_initial, ?_⟩ ?_
    · intro w job stage renewal hbusy
      cases hbusy
    · intro s a t hinv hstep
      exact ⟨hinv.1.step hstep, (hinv.2.step hinv.1 hstep).2⟩
  have hrun := (exec_of_run hafter).invariant (fun t => t.Sound d ∧ Copies t ∧ Onward s t)
    ⟨hcopies.1, hcopies.2, .refl s⟩ fun t a u hinv hstep => by
      obtain ⟨hon, hnext⟩ := hinv.2.1.step hinv.1 hstep
      exact ⟨hinv.1.step hstep, hnext, hinv.2.2.trans hon⟩
  exact ⟨fun id job hjob => (hcopies.1.jobs_sound id job hjob).representation, hrun.2.2⟩

def oneWorker : Deployment := ⟨fun _ => "worker", fun _ => 60, fun _ => true⟩

def startAndCancel : List Action :=
  [.register ⟨1, 2, "Why did revenue fall?", 3, none, none, none, none, none, none⟩ 0,
    .requestCancel 5 2 1 3 1]

def startAnother : List Action :=
  [.register ⟨6, 2, "Why did revenue rise?", 7, none, none, none, none, none, none⟩ 2]

theorem rows_onward_cancelled : ∃ s t cancelled,
    run (JobSystem.step oneWorker) .initial startAndCancel = some s ∧
      run (JobSystem.step oneWorker) s startAnother = some t ∧
      s.runs 1 = some cancelled ∧ cancelled.status = .cancelled ∧ t.runs 1 = some cancelled := by
  refine ⟨_, _, _, rfl, rfl, rfl, rfl, ?_⟩
  obtain ⟨later, hlater, rfl | ⟨-, hlive⟩⟩ :=
    (@rows_onward oneWorker startAndCancel startAnother _ _ rfl rfl).2.runs 1 _ rfl
  · exact hlater
  · exact absurd (by decide) hlive

end Zentra
