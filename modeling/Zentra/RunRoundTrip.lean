import Zentra.RunRow

/-!
# A run in and out of its row

`add` writes every column of a run, `save` only those that the operations change;
`_analysis_run_from_row` reads both kinds of row.  Any number of sessions hold copies
of one run here, call its operations, and add, save and get it.

* `reloaded_eq_iff` — reading back loses nothing but an empty tuple of Data Connections;
* `run_round_trip_iff` — for a copy that any session has, at any time, both rows are
  read back as that copy exactly if it has no such tuple.
-/

open Raising StepTrace

namespace Zentra

/-- The columns that an operation and a `save` leave alone. -/
structure Origin (run other : AnalysisRun) : Prop where
  analysisRunId : run.analysisRunId = other.analysisRunId
  organizationId : run.organizationId = other.organizationId
  question : run.question = other.question
  scenarioKey : run.scenarioKey = other.scenarioKey
  sourceScopeId : run.sourceScopeId = other.sourceScopeId
  threadId : run.threadId = other.threadId
  threadSequence : run.threadSequence = other.threadSequence
  initiatingMessageId : run.initiatingMessageId = other.initiatingMessageId
  parentAnalysisRunId : run.parentAnalysisRunId = other.parentAnalysisRunId
  retryOfAnalysisRunId : run.retryOfAnalysisRunId = other.retryOfAnalysisRunId
  createdAt : run.createdAt = other.createdAt

namespace Origin

variable {run other third : AnalysisRun}

theorem refl (run : AnalysisRun) : Origin run run := by
  constructor <;> rfl

theorem symm (h : Origin run other) : Origin other run where
  analysisRunId := h.analysisRunId.symm
  organizationId := h.organizationId.symm
  question := h.question.symm
  scenarioKey := h.scenarioKey.symm
  sourceScopeId := h.sourceScopeId.symm
  threadId := h.threadId.symm
  threadSequence := h.threadSequence.symm
  initiatingMessageId := h.initiatingMessageId.symm
  parentAnalysisRunId := h.parentAnalysisRunId.symm
  retryOfAnalysisRunId := h.retryOfAnalysisRunId.symm
  createdAt := h.createdAt.symm

theorem trans (h : Origin run other) (hother : Origin other third) : Origin run third where
  analysisRunId := h.analysisRunId.trans hother.analysisRunId
  organizationId := h.organizationId.trans hother.organizationId
  question := h.question.trans hother.question
  scenarioKey := h.scenarioKey.trans hother.scenarioKey
  sourceScopeId := h.sourceScopeId.trans hother.sourceScopeId
  threadId := h.threadId.trans hother.threadId
  threadSequence := h.threadSequence.trans hother.threadSequence
  initiatingMessageId := h.initiatingMessageId.trans hother.initiatingMessageId
  parentAnalysisRunId := h.parentAnalysisRunId.trans hother.parentAnalysisRunId
  retryOfAnalysisRunId := h.retryOfAnalysisRunId.trans hother.retryOfAnalysisRunId
  createdAt := h.createdAt.trans hother.createdAt

end Origin

theorem AnalysisRun.Change.origin {run run' : AnalysisRun} {op : RunOp}
    (hchange : Change run op run') : Origin run' run := by
  cases hchange <;> constructor <;> rfl

/-- A `save` into the row of another state of the run writes the row that `add` would
write. -/
theorem written_ofRun {run other : AnalysisRun} (h : Origin run other) :
    (RunRow.ofRun other).written run = .ofRun run := by
  unfold RunRow.written RunRow.ofRun
  rw [h.analysisRunId, h.organizationId, h.question, h.scenarioKey, h.sourceScopeId,
    h.threadId, h.threadSequence, h.initiatingMessageId, h.parentAnalysisRunId,
    h.retryOfAnalysisRunId, h.createdAt]

theorem saveRow_eq_ok {run : AnalysisRun} {expectedVersion : Int} {row written : RunRow}
    (h : saveRow run expectedVersion row = .ok written) : written = row.written run := by
  unfold saveRow at h
  split at h
  · split at h
    · exact (Except.ok.inj h).symm
    · cases h
  · cases h

theorem AnalysisRun.Storable.reloaded {run : AnalysisRun} (h : run.Storable) :
    run.reloaded.Storable where
  lifecycle := { h.lifecycle with events_increasing := List.Pairwise.nil }
  version_pos := h.version_pos
  thread_linked := h.thread_linked

theorem reloaded_eq_iff (run : AnalysisRun) :
    run.reloaded = { run with events := [] } ↔ run.dataConnectionId ≠ some (.many []) := by
  constructor
  · intro hsame hempty
    have hconnection := congrArg AnalysisRun.dataConnectionId hsame
    unfold AnalysisRun.reloaded at hconnection
    dsimp only at hconnection
    rw [hempty] at hconnection
    cases hconnection
  · intro hne
    have hconnection : reloadedConnection run.dataConnectionId = run.dataConnectionId := by
      unfold reloadedConnection
      split
      next hempty => exact absurd hempty hne
      next => rfl
    unfold AnalysisRun.reloaded
    rw [hconnection]

/-- The copies of one run that sessions hold, and its row. -/
structure RunStore where
  copies : Nat → Option AnalysisRun
  row : Option RunRow

inductive RunStoreAction
  | call (session : Nat) (op : RunOp)
  | add (session : Nat)
  | save (session : Nat) (expectedVersion : Int)
  | get (session : Nat)

namespace RunStore

def start (run : AnalysisRun) : RunStore where
  copies session := if session = 0 then some run else none
  row := none

def setCopy (s : RunStore) (session : Nat) (run : AnalysisRun) : RunStore :=
  { s with copies := Function.update s.copies session (some run) }

/-- One call of one session; a refused `add`, `save` or `get` leaves the row. -/
def step (s : RunStore) : RunStoreAction → Option RunStore
  | .call session op => do
      let run ← s.copies session
      let after ← calling RunOp.method run op
      return s.setCopy session after
  | .add session => do
      let run ← s.copies session
      if s.row = none ∧ (RunRow.ofRun run).Valid then
        return { s with row := some (.ofRun run) }
      else return s
  | .save session expectedVersion => do
      let run ← s.copies session
      match s.row with
      | none => return s
      | some row =>
          match saveRow run expectedVersion row with
          | .ok written => return { s with row := some written }
          | .error _ => return s
  | .get session =>
      match s.row with
      | none => some s
      | some row =>
          match analysisRunFromRow row with
          | .ok run => some (s.setCopy session run)
          | .error _ => some s

/-- The rows that `add` and `save` write for this copy are read back as the copy,
less its events. -/
structure RoundTrips (s : RunStore) (run : AnalysisRun) : Prop where
  added : analysisRunFromRow (.ofRun run) = .ok { run with events := [] }
  saved : ∀ row expectedVersion written, s.row = some row →
    saveRow run expectedVersion row = .ok written →
    analysisRunFromRow written = .ok { run with events := [] }

/-- Every copy, and the row, is a state of the run that was created. -/
structure Stored (created : AnalysisRun) (s : RunStore) : Prop where
  copies_ok : ∀ session run, s.copies session = some run →
    run.Storable ∧ Origin run created
  row_ok : ∀ row, s.row = some row →
    ∃ run : AnalysisRun, run.Storable ∧ Origin run created ∧ row = .ofRun run

namespace Stored

variable {created run : AnalysisRun} {s t : RunStore} {session : Nat}

theorem start (h : created.Storable) : Stored created (.start created) where
  copies_ok session run hcopy := by
    unfold RunStore.start at hcopy
    dsimp only at hcopy
    split at hcopy
    · cases hcopy
      exact ⟨h, Origin.refl _⟩
    · cases hcopy
  row_ok row hrow := by cases hrow

theorem setCopy (h : Stored created s) (hrun : run.Storable) (horigin : Origin run created) :
    Stored created (s.setCopy session run) where
  copies_ok other copy hcopy := by
    unfold RunStore.setCopy at hcopy
    dsimp only at hcopy
    by_cases hother : other = session
    · subst hother
      rw [Function.update_self] at hcopy
      cases hcopy
      exact ⟨hrun, horigin⟩
    · rw [Function.update_of_ne hother] at hcopy
      exact h.copies_ok other copy hcopy
  row_ok := h.row_ok

theorem setRow (h : Stored created s) (hrun : run.Storable) (horigin : Origin run created) :
    Stored created { s with row := some (.ofRun run) } where
  copies_ok := h.copies_ok
  row_ok row hrow := by
    cases hrow
    exact ⟨run, hrun, horigin, rfl⟩

theorem written_eq (h : Stored created s) (hcopy : s.copies session = some run)
    {row written : RunRow} {expectedVersion : Int} (hrow : s.row = some row)
    (hsave : saveRow run expectedVersion row = .ok written) : written = .ofRun run := by
  obtain ⟨other, -, horigin, rfl⟩ := h.row_ok row hrow
  have hrun := (h.copies_ok session run hcopy).2
  rw [saveRow_eq_ok hsave]
  exact written_ofRun (hrun.trans horigin.symm)

theorem step (h : Stored created s) {action : RunStoreAction}
    (hstep : s.step action = some t) : Stored created t := by
  cases action with
  | call session op =>
      obtain ⟨run, hcopy, hrest⟩ := Option.bind_eq_some_iff.1 hstep
      obtain ⟨after, hcall, hrest⟩ := Option.bind_eq_some_iff.1 hrest
      cases hrest
      obtain ⟨hrun, horigin⟩ := h.copies_ok session run hcopy
      rcases AnalysisRun.calling_cases hrun.lifecycle hcall with rfl | ⟨-, hchange⟩
      · exact h.setCopy hrun horigin
      · exact h.setCopy (hchange.storable hrun) (hchange.origin.trans horigin)
  | add session =>
      obtain ⟨run, hcopy, hrest⟩ := Option.bind_eq_some_iff.1 hstep
      obtain ⟨hrun, horigin⟩ := h.copies_ok session run hcopy
      split at hrest
      · cases hrest
        exact h.setRow hrun horigin
      · cases hrest
        exact h
  | save session expectedVersion =>
      obtain ⟨run, hcopy, hrest⟩ := Option.bind_eq_some_iff.1 hstep
      obtain ⟨hrun, horigin⟩ := h.copies_ok session run hcopy
      split at hrest
      next => exact Option.some.inj hrest ▸ h
      next row hrow =>
          split at hrest
          next written hsave =>
              cases hrest
              rw [h.written_eq hcopy hrow hsave]
              exact h.setRow hrun horigin
          next => exact Option.some.inj hrest ▸ h
  | get session =>
      simp only [RunStore.step] at hstep
      split at hstep
      next => exact Option.some.inj hstep ▸ h
      next row hrow =>
          obtain ⟨run, hrun, horigin, rfl⟩ := h.row_ok row hrow
          rw [analysisRunFromRow_ofRun hrun.lifecycle] at hstep
          cases hstep
          have hreloaded : Origin run.reloaded run := by constructor <;> rfl
          exact h.setCopy hrun.reloaded (hreloaded.trans horigin)

end Stored

/-- **The round trip.**  Whatever operations are called on a run and however it is
added, saved and read in between, the rows that `add` and `save` write for a session's
copy are read back as that copy if and only if its Data Connections are not the empty
tuple. -/
theorem run_round_trip_iff {analysisRunId organizationId : UUID} {question : String}
    {now : Int} {dataConnectionId : Option DataConnectionId}
    {sourceScopeId threadId : Option UUID} {threadSequence : Option Int}
    {initiatingMessageId parentAnalysisRunId retryOfAnalysisRunId : Option UUID}
    {created run : AnalysisRun} {actions : List RunStoreAction} {s : RunStore}
    {session : Nat}
    (hcreate : AnalysisRun.create analysisRunId organizationId question now
      dataConnectionId sourceScopeId threadId threadSequence initiatingMessageId
      parentAnalysisRunId retryOfAnalysisRunId = .ok created)
    (hexec : Exec step (.start created) actions s)
    (hcopy : s.copies session = some run) :
    s.RoundTrips run ↔ run.dataConnectionId ≠ some (.many []) := by
  have hstored : Stored created s := by
    apply hexec.invariant (Stored created)
    · exact Stored.start (AnalysisRun.storable_create hcreate)
    · exact fun _ _ _ hinv hstep => hinv.step hstep
  have hrun : run.Storable := (hstored.copies_ok session run hcopy).1
  have hread : analysisRunFromRow (.ofRun run) = .ok run.reloaded :=
    analysisRunFromRow_ofRun hrun.lifecycle
  rw [← reloaded_eq_iff]
  constructor
  · intro htrips
    exact Except.ok.inj (hread.symm.trans htrips.added)
  · intro hsame
    have hok : analysisRunFromRow (.ofRun run) = .ok { run with events := [] } := by
      rw [hread, hsame]
    refine ⟨hok, fun row expectedVersion written hrow hsave => ?_⟩
    rw [hstored.written_eq hcopy hrow hsave]
    exact hok

def overTwoConnections : AnalysisRun where
  analysisRunId := 1
  organizationId := 2
  question := "Why did revenue fall?"
  status := .pending
  version := 1
  evaluationAttempts := 0
  createdAt := 10
  updatedAt := 10
  dataConnectionId := some (.many [5, 6])
  events := [⟨"analysis_run.created", 1, 2, .pending, 10, [], .empty⟩]

/-- It is started and saved, and both rows are read back as it is then. -/
theorem run_round_trip_iff_started :
    ∃ s run, StepTrace.run step (.start overTwoConnections)
        [.add 0, .call 0 (.start 11), .save 0 1] = some s ∧
      s.copies 0 = some run ∧ run.version = 2 ∧ s.RoundTrips run := by
  refine ⟨_, _, rfl, rfl, rfl, ?_⟩
  have hcreate : AnalysisRun.create 1 2 "Why did revenue fall?" 10 (some (.many [5, 6])) =
      .ok overTwoConnections := rfl
  have hrun : StepTrace.run step (.start overTwoConnections)
      [.add 0, .call 0 (.start 11), .save 0 1] = some _ := rfl
  have hiff := @run_round_trip_iff _ _ _ _ _ _ _ _ _ _ _ _ _ _ _ 0 hcreate
    (exec_of_run hrun) rfl
  apply hiff.2
  intro hempty
  cases hempty

/-- A run created over no Data Connections is read back as one over the demo
warehouse. -/
theorem empty_connections_not_read_back :
    ∃ run, AnalysisRun.create 1 2 "Why?" 10 (some (.many [])) = .ok run ∧
      (analysisRunFromRow (.ofRun run)).map AnalysisRun.dataConnectionId = .ok none ∧
      ¬ (RunStore.start run).RoundTrips run := by
  refine ⟨_, rfl, rfl, fun htrips => ?_⟩
  have hconnection := congrArg (Except.map AnalysisRun.dataConnectionId) htrips.added
  cases hconnection

end RunStore

end Zentra
