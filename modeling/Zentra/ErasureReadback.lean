import Zentra.Erasure

/-!
# Reading a run back after its evidence was erased

Erasing changes the state of a run's row behind the back of its reader, which
looks values up by key.  A missing finding is read as none.  A failure without
its message is not read at all: the reader takes the message for granted.

* `analysisRunFromRow_erased` — what the row is read as;
* `erased_run_readable_iff` — an erased run stays readable exactly if no message
  of a failure was erased, so after a deletion exactly if the run did not fail.
-/

open JsonDocument Raising StepTrace

namespace Zentra

/-- A surface erased from a row of `analysis_runs`. -/
def RunRow.eraseSurface (row : RunRow) : EvidenceSurface → RunRow
  | .analysisRunFinding => row.withoutFinding
  | .analysisRunFailureMessage => row.withoutMessage
  | _ => row

theorem run_eraseSurfaces (readings : Readings) (surfaces : List EvidenceSurface) :
    (readings.eraseSurfaces surfaces).run =
      readings.run.map fun row => surfaces.foldl RunRow.eraseSurface row := by
  unfold Readings.eraseSurfaces
  induction surfaces generalizing readings with
  | nil => simp
  | cons surface surfaces ih =>
      have hfirst : (readings.eraseSurface surface).run =
          readings.run.map fun row => row.eraseSurface surface := by
        cases surface <;> simp [Readings.eraseSurface, Readings.mapRun,
          Readings.mapDraft, Readings.mapClaims, RunRow.eraseSurface]
      rw [List.foldl_cons, ih, hfirst, Option.map_map]
      rfl

/-- The failure in the state, with its message or without. -/
def failureValue (erased : Prop) [Decidable erased] (failure : Option FailureOutcome) :
    Json :=
  if erased then (failureToJson failure).mapObject (Object.deletePath ["message"])
  else failureToJson failure

/-- The row is the one of the run, but for what was erased on some surfaces. -/
structure ErasedFrom (run : AnalysisRun) (surfaces : List EvidenceSurface)
    (row : RunRow) : Prop where
  columns : row = { RunRow.ofRun run with state := row.state }
  finding : row.state.get "finding" =
    if .analysisRunFinding ∈ surfaces then none else some (findingToJson run.finding)
  failure : row.state.get "failure" =
    some (failureValue (.analysisRunFailureMessage ∈ surfaces) run.failure)
  others : ∀ key, key ≠ "finding" → key ≠ "failure" →
    row.state.get key = (stateToJson run).get key

variable {run : AnalysisRun} {row : RunRow} {surfaces : List EvidenceSurface}

theorem erasedFrom_ofRun : ErasedFrom run [] (.ofRun run) where
  columns := rfl
  finding := rfl
  failure := rfl
  others := fun _ _ _ => rfl

theorem ErasedFrom.withoutFinding (h : ErasedFrom run surfaces row) :
    ErasedFrom run (surfaces ++ [.analysisRunFinding]) row.withoutFinding where
  columns := by
    rw [h.columns]
    rfl
  finding := by
    show Object.get "finding" (Object.delete "finding" row.state) = _
    rw [Object.get_delete, if_pos rfl, if_pos (by simp)]
  failure := by
    show Object.get "failure" (Object.delete "finding" row.state) = _
    rw [Object.get_delete, if_neg (by decide), h.failure]
    simp [failureValue]
  others := by
    intro key hfinding hfailure
    show Object.get key (Object.delete "finding" row.state) = _
    rw [Object.get_delete, if_neg hfinding, h.others key hfinding hfailure]

/-- The message is gone after the first deletion, and a second one changes
nothing. -/
theorem ErasedFrom.withoutMessage (h : ErasedFrom run surfaces row) :
    ErasedFrom run (surfaces ++ [.analysisRunFailureMessage]) row.withoutMessage where
  columns := by
    rw [h.columns]
    rfl
  finding := by
    show Object.get "finding" (Object.deletePath ["failure", "message"] row.state) = _
    rw [Object.get_deletePath, if_neg (by decide), h.finding]
    simp
  failure := by
    show Object.get "failure" (Object.deletePath ["failure", "message"] row.state) = _
    rw [Object.get_deletePath, if_pos rfl, h.failure]
    have hlast : EvidenceSurface.analysisRunFailureMessage ∈
        surfaces ++ [.analysisRunFailureMessage] := by simp
    unfold failureValue
    rw [if_pos hlast, Option.map_some]
    by_cases hbefore : EvidenceSurface.analysisRunFailureMessage ∈ surfaces
    · rw [if_pos hbefore]
      cases failureToJson run.failure with
      | object members =>
          show some (Json.object _) = some (Json.object _)
          rw [Object.deletePath_deletePath]
      | _ => rfl
    · rw [if_neg hbefore]
  others := by
    intro key hfinding hfailure
    show Object.get key (Object.deletePath ["failure", "message"] row.state) = _
    rw [Object.get_deletePath, if_neg hfailure, h.others key hfinding hfailure]

theorem ErasedFrom.elsewhere {surface : EvidenceSurface}
    (h : ErasedFrom run surfaces row) (hfinding : .analysisRunFinding ≠ surface)
    (hmessage : .analysisRunFailureMessage ≠ surface) :
    ErasedFrom run (surfaces ++ [surface]) row where
  columns := h.columns
  finding := by simp [h.finding, hfinding]
  failure := by simp [h.failure, failureValue, hmessage]
  others := h.others

/-- **The lookups in the state of a row**, after any of its surfaces were
erased, in any order. -/
theorem erasedFrom_eraseSurfaces (run : AnalysisRun) (surfaces : List EvidenceSurface) :
    ErasedFrom run surfaces (surfaces.foldl RunRow.eraseSurface (.ofRun run)) := by
  induction surfaces using List.reverseRecOn with
  | nil => exact erasedFrom_ofRun
  | append_singleton surfaces surface ih =>
      rw [List.foldl_append]
      show ErasedFrom run _ (RunRow.eraseSurface _ surface)
      cases surface with
      | analysisRunFinding => exact ih.withoutFinding
      | analysisRunFailureMessage => exact ih.withoutMessage
      | _ => exact ih.elsewhere (by decide) (by decide)

theorem failureFromJson_failureValue (erased : Prop) [Decidable erased]
    (failure : Option FailureOutcome) :
    failureFromJson (some (failureValue erased failure)) =
      if erased ∧ failure.isSome then .error (.keyError "message") else .ok failure := by
  unfold failureValue
  by_cases herased : erased
  · rw [if_pos herased]
    cases failure with
    | none =>
        rw [if_neg (by simp)]
        rfl
    | some failure =>
        rw [if_pos ⟨herased, rfl⟩]
        rfl
  · rw [if_neg herased, if_neg fun h => herased h.1, failureFromJson_toJson]

/-- The run as it is read back from a row without some surfaces. -/
def AnalysisRun.reloadedWithout (run : AnalysisRun) (surfaces : List EvidenceSurface) :
    AnalysisRun :=
  { run.reloaded with
    finding := if .analysisRunFinding ∈ surfaces then none else run.finding
    completion := if .analysisRunFinding ∈ surfaces then none else run.completion }

/-- **What an erased row is read as**: the run without its finding, unless the
message of its failure is gone. -/
theorem analysisRunFromRow_erased (hrun : run.Lifecycle) (h : ErasedFrom run surfaces row) :
    analysisRunFromRow row =
      if .analysisRunFailureMessage ∈ surfaces ∧ run.failure.isSome then
        .error (.keyError "message")
      else .ok (run.reloadedWithout surfaces) := by
  have houtcome : outcomeFromJson (row.state.get "outcome") = .ok run.outcome := by
    rw [h.others "outcome" (by decide) (by decide)]
    exact outcomeFromJson_toJson run.outcome
  have hfinding : findingFromJson (row.state.get "finding") =
      .ok (if .analysisRunFinding ∈ surfaces then none else run.finding) := by
    rw [h.finding]
    by_cases herased : EvidenceSurface.analysisRunFinding ∈ surfaces
    · rw [if_pos herased, if_pos herased]
      rfl
    · rw [if_neg herased, if_neg herased, findingFromJson_toJson]
  have hcompletion : completionFromJson
      (if .analysisRunFinding ∈ surfaces then none else run.finding)
      (row.state.get "completion") =
        .ok (if .analysisRunFinding ∈ surfaces then none else run.completion) := by
    rw [h.others "completion" (by decide) (by decide)]
    by_cases herased : EvidenceSurface.analysisRunFinding ∈ surfaces
    · rw [if_pos herased, if_pos herased]
      rfl
    · rw [if_neg herased, if_neg herased]
      exact completionFromJson_lifecycle hrun
  have hfailure := failureFromJson_failureValue
    (EvidenceSurface.analysisRunFailureMessage ∈ surfaces) run.failure
  rw [← h.failure] at hfailure
  by_cases hlost : EvidenceSurface.analysisRunFailureMessage ∈ surfaces ∧
      run.failure.isSome
  · rw [if_pos hlost] at hfailure ⊢
    exact analysisRunFromRow_failure hfinding houtcome hcompletion hfailure
  · rw [if_neg hlost] at hfailure ⊢
    have hstatus : statusOfValue row.status = .ok run.status := by
      rw [h.columns]
      exact statusOfValue_value run.status
    have hconnection : dataConnectionFromJson (row.state.get "data_connection_ids")
        (row.state.get "data_connection_id") =
          .ok (reloadedConnection run.dataConnectionId) := by
      rw [h.others "data_connection_ids" (by decide) (by decide),
        h.others "data_connection_id" (by decide) (by decide)]
      exact dataConnectionFromJson_toJson run.dataConnectionId
    have hscope : sourceScopeFromJson (row.state.get "source_scope_id") =
        .ok run.sourceScopeId := by
      rw [h.others "source_scope_id" (by decide) (by decide)]
      exact sourceScopeFromJson_toJson run.sourceScopeId
    rw [analysisRunFromRow_ok hfinding houtcome hcompletion hfailure hstatus hconnection
      hscope, h.columns]
    rfl

/-- The row of the run is read as a run of the same identity, status, version
and times, on which another erasure event can be saved. -/
def Readable (db : Database) (run : AnalysisRun) : Prop :=
  ∃ row loaded, db.analysisRuns run.key = some row ∧
    analysisRunFromRow row = .ok loaded ∧
    loaded.analysisRunId = run.analysisRunId ∧
    loaded.organizationId = run.organizationId ∧
    loaded.status = run.status ∧ loaded.version = run.version ∧
    loaded.createdAt = run.createdAt ∧ loaded.updatedAt = run.updatedAt ∧
    loaded.finishedAt = run.finishedAt ∧
    ∀ now category, ∃ saved,
      db.save ((AnalysisRun.recordEvidenceErased now category).after loaded)
        loaded.version = .ok saved

/-- A row of a run, some surfaces of which were erased, can be read exactly if
no message of a failure was erased. -/
theorem readable_iff {db : Database} (hrun : run.Storable)
    (hrow : db.analysisRuns run.key = some row) (h : ErasedFrom run surfaces row) :
    Readable db run ↔
      ¬ (run.status = .failed ∧ .analysisRunFailureMessage ∈ surfaces) := by
  have hread := analysisRunFromRow_erased hrun.lifecycle h
  rw [← hrun.lifecycle.failure_iff]
  constructor
  · rintro ⟨row', loaded, hrow', hloaded, -⟩ ⟨hfailed, hmessage⟩
    obtain rfl : row = row' := Option.some.inj (hrow.symm.trans hrow')
    rw [hread, if_pos ⟨hmessage, hfailed⟩] at hloaded
    cases hloaded
  · intro hkept
    rw [if_neg fun hlost => hkept ⟨hlost.2, hlost.1⟩] at hread
    refine ⟨row, run.reloadedWithout surfaces, hrow, hread, rfl, rfl, rfl, rfl, rfl, rfl,
      rfl, ?_⟩
    intro now category
    have horganization : row.organizationId = run.organizationId :=
      congrArg RunRow.organizationId h.columns
    have hversion : row.version = run.version := congrArg RunRow.version h.columns
    let erased := (AnalysisRun.recordEvidenceErased now category).after
      (run.reloadedWithout surfaces)
    have hvalid : (row.written erased).Valid := by
      have hstored := valid_ofRun hrun
      rw [h.columns]
      exact hstored
    have hsaved : saveRow erased row.version row = .ok (row.written erased) :=
      saveRow_returns horganization hvalid
    rw [hversion] at hsaved
    have herased : db.analysisRuns erased.key = some row := hrow
    exact Database.save_returns herased hsaved

/-- The run as its lifecycle left it: stored, and its evidence not erased yet. -/
structure StoredRun (db : Database) (run : AnalysisRun) : Prop where
  stored : db.analysisRuns run.key = some (.ofRun run)
  unerased : ¬ db.Completed run.key

theorem value_mem_terminalValues (h : run.Terminal) :
    (RunRow.ofRun run).status ∈ Database.terminalValues :=
  List.mem_map_of_mem h

/-- The row of a stored run after some of its surfaces were erased. -/
theorem StoredRun.erasedRow {db : Database} (h : StoredRun db run)
    (surfaces : List EvidenceSurface) :
    (db.eraseSurfaces run.key surfaces).analysisRuns run.key =
      some (surfaces.foldl RunRow.eraseSurface (.ofRun run)) := by
  have hreadings := congrArg Readings.run
    (@Database.readings_eraseSurfaces db run.key surfaces)
  rw [run_eraseSurfaces] at hreadings
  refine hreadings.trans ?_
  show (db.analysisRuns run.key).map _ = _
  rw [h.stored]
  rfl

/-- **Reading a run after an erasure.**  For every terminal run that the
lifecycle operations reach:

1. erasing some of the surfaces keeps the run readable exactly if it did not
   fail or the message of the failure is not among the surfaces;
2. the deletion of its evidence by an owner or an admin completes;
3. a completed deletion keeps the run readable exactly if it did not fail. -/
theorem erased_run_readable_iff {analysisRunId organizationId : UUID}
    {question : String} {createdAt : Int}
    {dataConnectionId : Option DataConnectionId} {sourceScopeId threadId : Option UUID}
    {threadSequence : Option Int}
    {initiatingMessageId parentAnalysisRunId retryOfAnalysisRunId : Option UUID}
    {created run : AnalysisRun} {ops : List RunOp} {db : Database}
    (hcreate : AnalysisRun.create analysisRunId organizationId question createdAt
      dataConnectionId sourceScopeId threadId threadSequence initiatingMessageId
      parentAnalysisRunId retryOfAnalysisRunId = .ok created)
    (hops : Exec (calling RunOp.method) created ops run)
    (hterminal : run.Terminal) (hstored : StoredRun db run) :
    (∀ surfaces, Readable (db.eraseSurfaces run.key surfaces) run ↔
      ¬ (run.status = .failed ∧ .analysisRunFailureMessage ∈ surfaces)) ∧
    ∀ role erasureId category now,
      (role ∈ [Role.owner, .admin] → ∃ operation after,
        db.deleteEvidence role run.key erasureId category now = .ok (operation, after)) ∧
      ∀ operation after,
        db.deleteEvidence role run.key erasureId category now = .ok (operation, after) →
        operation.progress = .completed ∧
          (Readable after run ↔ run.status ≠ .failed) := by
  have hrun := AnalysisRun.storable_exec (AnalysisRun.storable_create hcreate) hops
  have hdeletable : ∀ role, role ∈ [Role.owner, .admin] →
      db.Deletable run.key role (.ofRun run) run.reloaded := by
    intro role hrole
    exact ⟨hrole, hstored.stored, analysisRunFromRow_ofRun hrun.lifecycle,
      value_mem_terminalValues hterminal⟩
  refine ⟨fun surfaces => readable_iff hrun (hstored.erasedRow surfaces)
    (erasedFrom_eraseSurfaces run surfaces), ?_⟩
  intro role erasureId category now
  constructor
  · intro hrole
    obtain ⟨operation, after, hret, -⟩ := @Database.deleteEvidence_of_open db run.key role
      erasureId category now _ _ (hdeletable role hrole) hstored.unerased
    exact ⟨operation, after, hret⟩
  · intro operation after hret
    obtain ⟨_, _, hpermitted⟩ := Database.deletable_of_returns hret
    obtain ⟨operation', after', hret', hprogress, -, hreadings⟩ :=
      @Database.deleteEvidence_of_open db run.key role erasureId category now _ _
        (hdeletable role hpermitted.permitted) hstored.unerased
    rw [hret] at hret'
    cases hret'
    have hrow : after.analysisRuns run.key =
        some (evidenceSurfaces.foldl RunRow.eraseSurface (.ofRun run)) :=
      (congrArg Readings.run hreadings).trans (hstored.erasedRow evidenceSurfaces)
    rw [readable_iff hrun hrow (erasedFrom_eraseSurfaces run evidenceSurfaces)]
    refine ⟨hprogress, ?_⟩
    simp [mem_evidenceSurfaces]

/-- A cancelled run can be read after all of its surfaces were erased. -/
theorem erased_run_readable_iff_cancelled :
    ∃ created run,
      AnalysisRun.create 1 2 "Why did revenue fall?" 0 = .ok created ∧
      StepTrace.run (calling RunOp.method) created [.start 1, .cancel 2] = some run ∧
      Readable ((Database.empty.add run).eraseSurfaces run.key evidenceSurfaces) run := by
  refine ⟨_, _, rfl, rfl, ?_⟩
  refine ((erased_run_readable_iff
    (show AnalysisRun.create 1 2 "Why did revenue fall?" 0 = .ok _ from rfl)
    (exec_of_run (show StepTrace.run (calling RunOp.method) _
      [.start 1, .cancel 2] = some _ from rfl))
    (by decide) ⟨rfl, ?_⟩).1 evidenceSurfaces).2 ?_
  · rintro ⟨operation, hoperation, -⟩
    cases hoperation
  · rintro ⟨hfailed, -⟩
    cases hfailed

/-- A run fails; its owner deletes its evidence, which completes, and the run
cannot be read any more. -/
theorem failed_run_unreadable :
    ∃ created run operation after,
      AnalysisRun.create 1 2 "Why did revenue fall?" 0 = .ok created ∧
      StepTrace.run (calling RunOp.method) created
        [.start 1, .fail ⟨"pipeline_failed", "no rows for 2024-06", none⟩ 2] =
          some run ∧
      run.Terminal ∧ StoredRun (Database.empty.add run) run ∧
      (Database.empty.add run).deleteEvidence .owner run.key 7 .organizationRequest 3 =
        .ok (operation, after) ∧
      operation.progress = .completed ∧
      (after.analysisRuns run.key).map analysisRunFromRow =
        some (.error (.keyError "message")) ∧
      ¬ Readable after run := by
  refine ⟨_, _, _, _, rfl, rfl, by decide, ⟨rfl, ?_⟩, rfl, rfl, rfl, ?_⟩
  · rintro ⟨operation, hoperation, -⟩
    cases hoperation
  · rintro ⟨row, loaded, hrow, hread, -⟩
    cases hrow
    cases hread

end Zentra
