import Zentra.BackgroundFileSync
import Zentra.ModifiedList

/-!
# The metadata of a sync is truthful

The metadata of a table should be advanced to a version of the server only when all files that
were planned for it are written; otherwise the next analysis should plan the missing ones
again, and after a sync that went through it should plan nothing.

* `Sound` — the condition on one event: no plan is begun once the run is aborted, and the
  response is for the tables that were asked for, with one entry for each;
* `truthful_of_sound` — every run whose events are sound is truthful in every state.
-/

namespace Zentra.FileSync

open StepTrace

/-- What the next analysis of the same response would plan. -/
def SyncRun.nextAnalysis (s : SyncRun) : List TableUpdatePlan :=
  analyzeUpdates s.response s.readLocal

/-- All files of the plan are written. -/
def SyncRun.Complete (s : SyncRun) (plan : TableUpdatePlan) : Prop :=
  ∀ file ∈ plan.filesToDownload, (plan.tableName, file) ∈ s.written

structure Truthful (s : SyncRun) : Prop where
  advanced : ∀ plan ∈ s.recorded, s.Complete plan
  plannedAgain : ∀ plan ∈ s.updatePlans, ∀ file ∈ plan.filesToDownload,
    (plan.tableName, file) ∉ s.written →
      ∃ again ∈ s.nextAnalysis, again.tableName = plan.tableName ∧ file ∈ again.filesToDownload
  nothingLeft : s.phase = .ended .completed → s.nextAnalysis = []

/-- The response has one entry for a table, and files only for the tables that were asked
for. -/
def Answers (tables : List String) (response : DataSourceResponse) : Prop :=
  (∀ one ∈ response.tables, ∀ other ∈ response.tables, one.name = other.name → one = other) ∧
    ∀ table ∈ response.tables, table.name ∈ tables ∨ table.files = []

instance (tables : List String) (response : DataSourceResponse) :
    Decidable (Answers tables response) := inferInstanceAs (Decidable (_ ∧ _))

/-- Plans are left when the metadata of this one is stored. -/
def SyncRun.hasNext (s : SyncRun) : Bool :=
  match s.phase with
  | .recording _ (_ :: _) => true
  | _ => false

/-- **The condition** on one event: no plan is begun after the abort. -/
def Sound (s : SyncRun) : SyncEvent → Prop
  | .fetched response => Answers s.tables response
  | .serviceReady => s.aborted = false
  | .recordDone _ => s.hasNext = true → s.aborted = false
  | _ => True

instance (s : SyncRun) : (event : SyncEvent) → Decidable (Sound s event)
  | .fetched response => inferInstanceAs (Decidable (Answers s.tables response))
  | .serviceReady => inferInstanceAs (Decidable (s.aborted = false))
  | .recordDone _ => inferInstanceAs (Decidable (_ → _))
  | .abort | .fetchFailed | .localRead | .localFailed | .serviceUnavailable | .acquire _
  | .downloaded _ | .downloadFailed .. | .wake _ | .acquireWrite _ | .writeDone _
  | .writeFailed _ | .allResolved | .oneRejected | .recordFailed => .isTrue trivial

/-- The tasks are those of a plan, none was skipped, and what is saved is written. -/
structure Works (s : SyncRun) (plan : TableUpdatePlan) : Prop where
  tasks : s.tasks.map (fun task => (task.tableName, task.file)) =
    plan.filesToDownload.map fun file => (plan.tableName, file)
  started : ∀ task ∈ s.tasks, task.stage ≠ .skipped
  saved : ∀ task ∈ s.tasks, task.stage = .saved → (task.tableName, task.file) ∈ s.written

/-- The plans that are not recorded yet, with what holds of the one in progress. -/
def Pending (s : SyncRun) (plans : List TableUpdatePlan) : Prop :=
  match s.phase with
  | .fetching | .readingLocal => s.localMetadata = none
  | .openingService => plans = s.updatePlans
  | .downloading plan rest => plans = plan :: rest ∧ Works s plan
  | .recording plan rest => plans = plan :: rest ∧ s.Complete plan
  | .ended outcome => outcome = .completed → plans = []

structure Inv (s : SyncRun) : Prop where
  answers : Answers s.tables s.response
  unread : s.localMetadata = none → s.updatePlans = [] ∧ s.recorded = [] ∧
    (s.phase = .fetching ∨ s.phase = .readingLocal ∨ s.phase = .ended .failed)
  analysed : ∀ read ∈ s.localMetadata, s.updatePlans = analyzeUpdates s.response read
  split : ∃ plans, Pending s plans ∧ ∀ plan, plan ∈ s.updatePlans ↔
    plan ∈ s.recorded ∨ plan ∈ plans
  complete : ∀ plan ∈ s.recorded, s.Complete plan
  stored : ∀ read ∈ s.localMetadata, ∀ name,
    (∃ plan ∈ s.recorded, plan.tableName = name ∧ ∃ now,
      s.database.get name = some (createLocalMetadata now name plan.remoteInfo)) ∨
    (∀ plan ∈ s.recorded, plan.tableName ≠ name) ∧ s.readLocal name = read name

section Steps

variable {config : DownloadConfig} {s t : SyncRun} {event : SyncEvent} {plan : TableUpdatePlan}

theorem inv_start (tables : List String) (database : JsMap String LocalTableMetadata) :
    Inv (.start tables database) := by
  refine ⟨?_, ?_, ?_, ?_, ?_, ?_⟩
  · constructor
    · intro _ hone
      cases hone
    · intro _ htable
      cases htable
  · exact fun _ => ⟨rfl, rfl, .inl rfl⟩
  · intro read hread
    cases hread
  · exact ⟨[], rfl, fun plan => by simp [SyncRun.start]⟩
  · intro plan hplan
    cases hplan
  · intro read hread
    cases hread

theorem Inv.plan_unique (hinv : Inv s) {one other : TableUpdatePlan}
    (hone : one ∈ s.updatePlans) (hother : other ∈ s.updatePlans)
    (hname : one.tableName = other.tableName) : one = other := by
  cases hread : s.localMetadata with
  | none =>
      rw [(hinv.unread hread).1] at hone
      cases hone
  | some read =>
      rw [hinv.analysed read hread] at hone hother
      obtain ⟨remote, hremote, rfl, -⟩ := mem_analyzeUpdates.1 hone
      obtain ⟨remote', hremote', rfl, -⟩ := mem_analyzeUpdates.1 hother
      rw [hinv.answers.1 remote hremote remote' hremote' hname]

theorem Inv.mem_of_recorded (hinv : Inv s) (h : plan ∈ s.recorded) : plan ∈ s.updatePlans := by
  obtain ⟨plans, -, hsplit⟩ := hinv.split
  exact (hsplit plan).2 (.inl h)

theorem Inv.planned_again (hinv : Inv s) (hplan : plan ∈ s.updatePlans)
    (hnot : plan ∉ s.recorded) : plan ∈ s.nextAnalysis := by
  cases hread : s.localMetadata with
  | none =>
      rw [(hinv.unread hread).1] at hplan
      cases hplan
  | some read =>
      have hthis := hplan
      rw [hinv.analysed read hread] at hthis
      obtain ⟨remote, hremote, rfl, hahead, hfiles⟩ := mem_analyzeUpdates.1 hthis
      have hsame : s.readLocal remote.name = read remote.name := by
        obtain ⟨other, hother, hname, -⟩ | ⟨-, hsame⟩ := hinv.stored read hread remote.name
        · have heq := hinv.plan_unique (hinv.mem_of_recorded hother) hplan hname
          rw [heq] at hother
          exact absurd hother hnot
        · exact hsame
      refine mem_analyzeUpdates.2 ⟨remote, hremote, ?_⟩
      rw [hsame]
      exact ⟨rfl, hahead, hfiles⟩

theorem Inv.nothing_planned (hinv : Inv s) (hphase : s.phase = .ended .completed) :
    s.nextAnalysis = [] := by
  cases hread : s.localMetadata with
  | none =>
      obtain ⟨-, -, hfetching | hreading | hfailed⟩ := hinv.unread hread
      · rw [hphase] at hfetching
        cases hfetching
      · rw [hphase] at hreading
        cases hreading
      · rw [hphase] at hfailed
        cases hfailed
  | some read =>
      obtain ⟨plans, hpending, hsplit⟩ := hinv.split
      simp only [Pending, hphase, forall_const] at hpending
      subst hpending
      refine analyzeUpdates_eq_nil fun remote hremote => ?_
      obtain ⟨other, hother, hname, now, hget⟩ | ⟨hnone, hsame⟩ :=
        hinv.stored read hread remote.name
      · -- the table was recorded: it has one entry, and what is stored is not behind it
        have hplanned := hinv.mem_of_recorded hother
        rw [hinv.analysed read hread] at hplanned
        obtain ⟨entry, hentry, rfl, -, hfiles⟩ := mem_analyzeUpdates.1 hplanned
        have heq := hinv.answers.1 entry hentry remote hremote hname
        subst heq
        obtain hasked | hempty := hinv.answers.2 entry hentry
        · left
          rw [SyncRun.readLocal, if_pos hasked, hget]
          exact needsUpdate_createLocalMetadata now entry.name entry
        · refine absurd ?_ hfiles
          cases read entry.name with
          | none => exact hempty
          | some metadata => simp [getFilesToDownload, hempty]
      · rw [hsame]
        by_contra hmust
        have hplan : planTable remote (read remote.name) ∈ s.updatePlans := by
          rw [hinv.analysed read hread]
          refine mem_analyzeUpdates.2 ⟨remote, hremote, rfl, ?_, ?_⟩
          · exact Bool.eq_false_imp_eq_true.1 fun h => absurd (.inl h) hmust
          · exact fun h => hmust (.inr h)
        obtain hrecorded | hleft := (hsplit _).1 hplan
        · exact hnone _ hrecorded rfl
        · cases hleft

theorem Inv.truthful (hinv : Inv s) : Truthful s := by
  refine ⟨hinv.complete, ?_, hinv.nothing_planned⟩
  intro plan hplan file hfile hmissing
  refine ⟨plan, hinv.planned_again hplan fun hrecorded => ?_, rfl, hfile⟩
  exact hmissing (hinv.complete plan hrecorded file hfile)

theorem complete_mono (h : s.Complete plan) (hmore : ∀ entry ∈ s.written, entry ∈ t.written) :
    t.Complete plan :=
  fun file hfile => hmore _ (h file hfile)

theorem works_startTasks (hlive : s.aborted = false) :
    Works { s with tasks := startTasks s.aborted plan } plan := by
  have hstage : ∀ task ∈ startTasks s.aborted plan, task.stage = .waiting := by
    intro task htask
    obtain ⟨file, -, rfl⟩ := List.mem_map.1 htask
    simp [hlive]
  refine ⟨?_, ?_, ?_⟩
  · simp [startTasks]
  · intro task htask
    simp [hstage task htask]
  · intro task htask hsaved
    rw [hstage task htask] at hsaved
    cases hsaved

theorem Works.setStage (hworks : Works s plan) {i : Nat} {stage : TaskStage}
    {written : List (String × DataSourceFileInfo)} (hskipped : stage ≠ .skipped)
    (hmore : ∀ entry ∈ s.written, entry ∈ written)
    (hsaved : stage = .saved → ∀ task ∈ s.tasks[i]?, (task.tableName, task.file) ∈ written) :
    Works { s.setStage i stage with written } plan := by
  refine ⟨?_, ?_, ?_⟩
  · rw [← hworks.tasks, SyncRun.setStage]
    refine List.ext_getElem? fun j => ?_
    simp only [List.getElem?_map, List.getElem?_modify]
    cases s.tasks[j]? with
    | none => simp
    | some task =>
        by_cases hij : i = j
        · simp [hij]
        · simp [hij]
  · intro task htask
    obtain hold | ⟨before, -, rfl⟩ := ModifiedList.mem_modify htask
    · exact hworks.started task hold
    · exact hskipped
  · intro task htask hstage
    obtain hold | ⟨before, hbefore, rfl⟩ := ModifiedList.mem_modify htask
    · exact hmore _ (hworks.saved task hold hstage)
    · exact hsaved hstage before hbefore

/-- When all tasks have returned, the files of the plan are written. -/
theorem Works.complete (hworks : Works s plan)
    (hresolved : s.tasks.all (fun task => task.stage.resolved) = true) : s.Complete plan := by
  intro file hfile
  have hmem : (plan.tableName, file) ∈ s.tasks.map (fun task => (task.tableName, task.file)) := by
    rw [hworks.tasks]
    exact List.mem_map_of_mem hfile
  obtain ⟨task, htask, heq⟩ := List.mem_map.1 hmem
  have hstage : task.stage = .saved := by
    have hdone := List.all_eq_true.1 hresolved task htask
    have hstarted := hworks.started task htask
    cases hstage : task.stage with
    | saved => rfl
    | skipped => exact absurd hstage hstarted
    | _ => simp [hstage, TaskStage.resolved] at hdone
  rw [← heq]
  exact hworks.saved task htask hstage

/-- An event that only moves the run on: the plans, what is stored and what was recorded
stay, and what is pending is. -/
theorem Inv.moved (hinv : Inv s) (htables : t.tables = s.tables)
    (hresponse : t.response = s.response) (hread : t.localMetadata = s.localMetadata)
    (hplans : t.updatePlans = s.updatePlans) (hdatabase : t.database = s.database)
    (hrecorded : t.recorded = s.recorded) (hwritten : ∀ entry ∈ s.written, entry ∈ t.written)
    (hunread : s.localMetadata = none →
      t.phase = .fetching ∨ t.phase = .readingLocal ∨ t.phase = .ended .failed)
    (hpending : ∀ plans, Pending s plans → Pending t plans) : Inv t := by
  obtain ⟨hanswers, hnone, hanalysed, ⟨plans, hthese, hsplit⟩, hcomplete, hstored⟩ := hinv
  refine ⟨?_, ?_, ?_, ⟨plans, hpending plans hthese, ?_⟩, ?_, ?_⟩
  · rwa [htables, hresponse]
  · intro hempty
    rw [hread] at hempty
    obtain ⟨hplansNone, hrecordedNone, -⟩ := hnone hempty
    rw [hplans, hrecorded]
    exact ⟨hplansNone, hrecordedNone, hunread hempty⟩
  · rwa [hread, hplans, hresponse]
  · rwa [hplans, hrecorded]
  · intro plan hplan file hfile
    rw [hrecorded] at hplan
    exact hwritten _ (hcomplete plan hplan file hfile)
  · unfold SyncRun.readLocal
    rw [hread, hrecorded, hdatabase, htables]
    exact hstored

theorem Inv.ended (hinv : Inv s) {outcome : Outcome} (hne : outcome ≠ .completed)
    (hunread : s.localMetadata = none → outcome = .failed) : Inv (s.finish outcome) := by
  refine hinv.moved rfl rfl rfl rfl rfl rfl (fun _ h => h) (fun hnone => ?_) fun plans _ => ?_
  · rw [hunread hnone]
    exact .inr (.inr rfl)
  · exact fun heq => absurd heq hne

/-- **A step of a task.** -/
theorem Inv.task (hinv : Inv s) (config : DownloadConfig) (event : SyncEvent)
    (hstep : taskStep config s event = some t) : Inv t := by
  obtain ⟨i, stage, written, rfl, hskipped, hmore, hsaved⟩ := taskStep_cases hstep
  refine hinv.moved rfl rfl rfl rfl rfl rfl hmore (fun hnone => (hinv.unread hnone).2.2) ?_
  intro plans hpending
  unfold Pending at hpending ⊢
  cases hphase : s.phase with
  | downloading plan rest =>
      simp only [hphase, SyncRun.setStage] at hpending ⊢
      have hworks := hpending.2.setStage hskipped hmore hsaved
      exact ⟨hpending.1, hworks.tasks, hworks.started, hworks.saved⟩
  | recording plan rest =>
      simp only [hphase, SyncRun.setStage] at hpending ⊢
      exact ⟨hpending.1, complete_mono hpending.2 hmore⟩
  | _ =>
      simp only [hphase, SyncRun.setStage] at hpending ⊢
      exact hpending

/-- **A plan is begun** before the abort, or none is left. -/
theorem Inv.next (hinv : Inv s) {plans : List TableUpdatePlan}
    (hsplit : ∀ plan, plan ∈ s.updatePlans ↔ plan ∈ s.recorded ∨ plan ∈ plans)
    (hread : s.localMetadata ≠ none) (hlive : plans ≠ [] → s.aborted = false) :
    Inv (s.nextPlan plans) := by
  obtain ⟨hanswers, hnone, hanalysed, -, hcomplete, hstored⟩ := hinv
  cases plans with
  | nil =>
      refine ⟨hanswers, fun h => absurd h hread, hanalysed, ⟨[], ?_, hsplit⟩, hcomplete, hstored⟩
      exact fun _ => rfl
  | cons plan rest =>
      refine ⟨hanswers, fun h => absurd h hread, hanalysed, ⟨plan :: rest, ⟨rfl, ?_⟩, hsplit⟩,
        hcomplete, hstored⟩
      have hworks : Works { s with tasks := startTasks s.aborted plan } plan :=
        works_startTasks (hlive (by simp))
      exact ⟨hworks.tasks, hworks.started, hworks.saved⟩

/-- **The metadata of a table is stored.** -/
theorem Inv.recordDone (hinv : Inv s) {plan : TableUpdatePlan} {rest : List TableUpdatePlan}
    {now : Int} (hphase : s.phase = .recording plan rest)
    (hlive : rest ≠ [] → s.aborted = false) :
    Inv (SyncRun.nextPlan
      { s with
        database := s.database.set plan.tableName
          (createLocalMetadata now plan.tableName plan.remoteInfo)
        recorded := plan :: s.recorded } rest) := by
  have hread : s.localMetadata ≠ none := by
    intro hnone
    obtain ⟨-, -, hother | hother | hother⟩ := hinv.unread hnone
    all_goals rw [hphase] at hother
    all_goals cases hother
  obtain ⟨plans, hpending, hsplit⟩ := hinv.split
  simp only [Pending, hphase] at hpending
  obtain ⟨rfl, hcomplete⟩ := hpending
  have hafter : ∀ other, other ∈ s.updatePlans ↔ other ∈ plan :: s.recorded ∨ other ∈ rest := by
    intro other
    rw [hsplit other, List.mem_cons, List.mem_cons]
    tauto
  have hkept : ∀ other, other ∈ s.updatePlans ↔
      other ∈ plan :: s.recorded ∨ other ∈ plan :: rest := by
    intro other
    rw [hsplit other, List.mem_cons, List.mem_cons]
    tauto
  have hstored : Inv { s with
      database := s.database.set plan.tableName
        (createLocalMetadata now plan.tableName plan.remoteInfo)
      recorded := plan :: s.recorded } := by
    refine ⟨hinv.answers, fun h => absurd h hread, hinv.analysed, ⟨plan :: rest, ?_, hkept⟩,
      ?_, ?_⟩
    · simp only [Pending, hphase]
      exact ⟨trivial, hcomplete⟩
    · intro other hother
      obtain rfl | hbefore := List.mem_cons.1 hother
      · exact hcomplete
      · exact hinv.complete other hbefore
    · intro read hthis name
      by_cases hname : name = plan.tableName
      · subst hname
        exact .inl ⟨plan, List.mem_cons_self, rfl, now, JsMap.get_set_self⟩
      · have hget : (s.database.set plan.tableName
            (createLocalMetadata now plan.tableName plan.remoteInfo)).get name =
            s.database.get name := JsMap.get_set_of_ne hname
        unfold SyncRun.readLocal
        dsimp only
        rw [hget]
        obtain ⟨other, hother, hstored⟩ | ⟨hnone, hsame⟩ := hinv.stored read hthis name
        · exact .inl ⟨other, List.mem_cons_of_mem _ hother, hstored⟩
        · refine .inr ⟨fun other hother => ?_, hsame⟩
          obtain rfl | hbefore := List.mem_cons.1 hother
          · exact Ne.symm hname
          · exact hnone other hbefore
  exact hstored.next hafter hread hlive

/-- **One event** that is sound keeps the invariant. -/
theorem inv_step (hinv : Inv s) (hsound : Sound s event)
    (hstep : step config s event = some t) : Inv t := by
  have hunread := fun hnone => (hinv.unread hnone).2.2
  obtain ⟨plans, hpending, hsplit⟩ := hinv.split
  cases event with
  | abort =>
      obtain rfl := Option.some.inj hstep
      refine hinv.moved rfl rfl rfl rfl rfl rfl (fun _ h => h) hunread fun plans hpending => ?_
      unfold Pending at hpending ⊢
      cases hphase : s.phase with
      | downloading plan rest =>
          simp only [hphase] at hpending ⊢
          exact ⟨hpending.1, hpending.2.tasks, hpending.2.started, hpending.2.saved⟩
      | _ =>
          simp only [hphase] at hpending ⊢
          exact hpending
  | fetched response =>
      obtain ⟨hphase, rfl⟩ := by simpa [step] using hstep
      simp only [Pending, hphase] at hpending
      obtain ⟨hplans, hrecorded, -⟩ := hinv.unread hpending
      refine ⟨hsound, fun _ => ⟨hplans, hrecorded, .inr (.inl rfl)⟩, ?_, ⟨plans, hpending, hsplit⟩,
        hinv.complete, ?_⟩
      · intro read hread
        dsimp only at hread
        rw [hpending] at hread
        cases hread
      · intro read hread
        dsimp only at hread
        rw [hpending] at hread
        cases hread
  | fetchFailed | localFailed | serviceUnavailable =>
      obtain ⟨-, rfl⟩ := by simpa [step] using hstep
      exact hinv.ended (by simp) fun _ => rfl
  | localRead =>
      unfold step at hstep
      dsimp only at hstep
      split at hstep
      next hphase =>
        obtain rfl := Option.some.inj hstep
        simp only [Pending, hphase] at hpending
        obtain ⟨-, hrecorded, -⟩ := hinv.unread hpending
        refine ⟨hinv.answers, fun hnone => absurd hnone (by simp), fun read hread => ?_,
          ⟨analyzeUpdates s.response s.readLocal, ?_, fun plan => by simp [hrecorded]⟩,
          hinv.complete, fun read hread name => ?_⟩
        · rw [← Option.some.inj hread]
        · unfold Pending
          by_cases hnothing : analyzeUpdates s.response s.readLocal = []
          · simp [hnothing]
          · simp [hnothing]
        · rw [← Option.some.inj hread]
          exact .inr ⟨fun plan hplan => by simp [hrecorded] at hplan, rfl⟩
      · cases hstep
  | serviceReady =>
      obtain ⟨hphase, rfl⟩ := by simpa [step] using hstep
      simp only [Pending, hphase] at hpending
      subst hpending
      refine hinv.next hsplit (fun hnone => ?_) fun _ => hsound
      obtain hother | hother | hother := hunread hnone
      all_goals rw [hphase] at hother
      all_goals cases hother
  | allResolved =>
      unfold step at hstep
      dsimp only at hstep
      split at hstep
      next plan rest hphase =>
        split at hstep
        next hresolved =>
          obtain rfl := Option.some.inj hstep
          simp only [Pending, hphase] at hpending
          refine hinv.moved rfl rfl rfl rfl rfl rfl (fun _ h => h) (fun hnone => ?_) ?_
          · obtain hother | hother | hother := hunread hnone
            all_goals rw [hphase] at hother
            all_goals cases hother
          · intro others hothers
            simp only [Pending, hphase] at hothers
            exact ⟨hothers.1, hothers.2.complete hresolved⟩
        · cases hstep
      · cases hstep
  | oneRejected =>
      unfold step at hstep
      dsimp only at hstep
      split at hstep
      · split at hstep
        · obtain rfl := Option.some.inj hstep
          exact hinv.ended (by simp) fun _ => rfl
        · cases hstep
      · cases hstep
  | recordDone now =>
      unfold step at hstep
      dsimp only at hstep
      split at hstep
      next plan rest hphase =>
        obtain rfl := Option.some.inj hstep
        refine hinv.recordDone hphase fun hne => hsound ?_
        cases rest with
        | nil => exact absurd rfl hne
        | cons next rest => simp [SyncRun.hasNext, hphase]
      · cases hstep
  | recordFailed =>
      unfold step at hstep
      dsimp only at hstep
      split at hstep
      · obtain rfl := Option.some.inj hstep
        exact hinv.ended (by simp) fun _ => rfl
      · cases hstep
  | acquire i => exact hinv.task config (.acquire i) hstep
  | downloaded i => exact hinv.task config (.downloaded i) hstep
  | downloadFailed i status => exact hinv.task config (.downloadFailed i status) hstep
  | wake i => exact hinv.task config (.wake i) hstep
  | acquireWrite i => exact hinv.task config (.acquireWrite i) hstep
  | writeDone i => exact hinv.task config (.writeDone i) hstep
  | writeFailed i => exact hinv.task config (.writeFailed i) hstep

end Steps

/-- **Truth.**  Every run whose events are sound is truthful in every state, whatever fails and
whenever it is aborted. -/
theorem truthful_of_sound (config : DownloadConfig) (tables : List String)
    (database : JsMap String LocalTableMetadata) (events : List SyncEvent)
    (hsound : Allowed (step config) Sound (.start tables database) events) :
    Always (step config) Truthful (.start tables database) events :=
  always_of_allowed Inv (fun _ hinv => hinv.truthful)
    (fun _ _ _ hinv hcond hstep => inv_step hinv hcond hstep) events _
    (inv_start tables database) hsound

/-- One table with one file. -/
def salesResponse : DataSourceResponse :=
  ⟨[⟨"sales", 7, [⟨"part-0.parquet", "https://files/0", 10, some "h0", none⟩], 10, 1⟩]⟩

/-- The file is downloaded at the second attempt, and the metadata is stored. -/
def savedRun : List SyncEvent :=
  [.fetched salesResponse, .localRead, .serviceReady, .acquire 0, .downloadFailed 0 (some 503),
    .wake 0, .downloaded 0, .acquireWrite 0, .writeDone 0, .allResolved, .recordDone 0]

theorem savedRun_truthful :
    Always (step ⟨3, 3⟩) Truthful (.start ["sales"] .empty) savedRun :=
  truthful_of_sound ⟨3, 3⟩ ["sales"] .empty savedRun (by decide +kernel)

def abortedRun : List SyncEvent :=
  [.abort, .fetched salesResponse, .localRead, .serviceReady, .allResolved, .recordDone 0]

/-- The metadata of the table is stored, and none of its files is there. -/
theorem abortedRun_advances :
    ¬ Always (step ⟨3, 3⟩) Truthful (.start ["sales"] .empty) abortedRun := by
  intro halways
  obtain ⟨t, hexec, hrecorded, hwritten⟩ : ∃ t, Exec (step ⟨3, 3⟩) (.start ["sales"] .empty)
      abortedRun t ∧ (∃ plan ∈ t.recorded, plan.filesToDownload ≠ []) ∧ t.written = [] :=
    exists_exec (by decide +kernel)
  obtain ⟨plan, hplan, hfiles⟩ := hrecorded
  obtain ⟨file, hfile⟩ := List.exists_mem_of_ne_nil _ hfiles
  have hmem := (halways.last hexec).advanced plan hplan file hfile
  rw [hwritten] at hmem
  cases hmem

end Zentra.FileSync
