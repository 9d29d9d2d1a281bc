import Zentra.StepTrace
import Zentra.ThreadEffect

/-!
# Archived threads

Calls on one thread, interleaved.  Each transaction is a step: its first statement locks the
row of the thread, or it fails when another transaction has written the row.  A call of
`append_streaming` is a step for each of its transactions, and between them it holds the
aggregate that the first of them has read.

* `OnCurrentRow` — the later transactions of `append_streaming` find the row as the first one
  left it: not archived, and with the title that a rename has given it;
* `staysArchived_iff` — the steps of exactly the runs on current rows keep threads archived.
-/

open Raising Raising.Method StepTrace

namespace Zentra.ThreadService

open ThreadTables

/-- Where a call of `append_streaming` is. -/
inductive StreamStage
  | idle
  /-- an active thread has been read, and the follow-up is to come -/
  | following (env : ThreadEnvironment) (actor : AuthenticatedActor)
      (thread : AnalysisRunThread) (content : String)
  /-- the turn is committed, and the model's reply is to come -/
  | conversing (env : ThreadEnvironment) (actor : AuthenticatedActor)
      (thread : AnalysisRunThread) (routing : RoutingResult)

structure ThreadCalls where
  tables : ThreadTables
  calls : Nat → StreamStage
  /-- the title of the last rename, until another operation sets the title -/
  renamedTo : Option String

inductive ThreadAction
  | append (env : ThreadEnvironment) (actor : AuthenticatedActor) (content : String)
      (routing : Option RoutingResult)
  | archive (env : ThreadEnvironment) (actor : AuthenticatedActor)
  | restore (env : ThreadEnvironment) (actor : AuthenticatedActor)
  | rename (env : ThreadEnvironment) (actor : AuthenticatedActor) (title : String)
  | delete (actor : AuthenticatedActor)
  /-- the first transaction of `append_streaming` -/
  | appendStreaming (call : Nat) (env : ThreadEnvironment) (actor : AuthenticatedActor)
      (content : String) (routing : Option RoutingResult)
  /-- the transaction of `_append_follow_up_streaming` -/
  | followUp (call : Nat)
  /-- the transaction of `_stream_conversational_turn` -/
  | persistReply (call : Nat) (chunks : List String)
  /-- a call of `append_streaming` ends -/
  | leave (call : Nat)

/-- What a transaction returns, and the tables that it commits. -/
def committed {α : Type} (m : TableMethod α) (tables : ThreadTables) : Option (α × ThreadTables) :=
  match m.call tables with
  | (.ok a, after) => some (a, after)
  | (.error _, _) => none

/-- What is to come after a turn has been committed. -/
def stageAfter (env : ThreadEnvironment) (actor : AuthenticatedActor) (turn : ThreadTurn) :
    StreamStage :=
  if turn.conversationalContent.isSome then .conversing env actor turn.thread turn.routing
  else .idle

namespace ThreadCalls

variable (threadId : UUID) (s : ThreadCalls)

def Archived : Prop :=
  ∃ row, threadOf threadId s.tables = some row ∧ row.status = .archived

instance : Decidable (s.Archived threadId) :=
  decidable_of_iff ((threadOf threadId s.tables).any fun row => row.status = .archived) (by
    simp [Archived, Option.any_eq_true])

/-- The thread has the title of the rename that is in force. -/
def Titled : Prop :=
  ∀ title, s.renamedTo = some title →
    ∃ row, threadOf threadId s.tables = some row ∧ row.title = title

/-- The rename that is in force after a turn: that of a draft sets the title. -/
def renamedAfter (routing : Option RoutingResult) : Option String :=
  if ((threadOf threadId s.tables).any fun row => decide (row.status ≠ .active)) ∧
      routing.any fun routing => decide (Retitles routing) then none
  else s.renamedTo

/-- A transaction of a call on the thread. -/
def step (threadId : UUID) (s : ThreadCalls) : ThreadAction → Option ThreadCalls
  | .append env actor content routing =>
      (committed (ThreadService.append env actor threadId content routing) s.tables).map
        fun (detail, tables) =>
          { s with tables, renamedTo := s.renamedAfter threadId detail.routing }
  | .archive env actor =>
      (committed (ThreadService.archive env actor threadId) s.tables).map fun (_, tables) =>
        { s with tables }
  | .restore env actor =>
      (committed (ThreadService.restore env actor threadId) s.tables).map fun (_, tables) =>
        { s with tables }
  | .rename env actor title =>
      (committed (renameThread env actor threadId title) s.tables).map fun (_, tables) =>
        { s with tables, renamedTo := (normalizedTitle title).toOption }
  | .delete actor =>
      (committed (ThreadService.delete actor threadId) s.tables).map fun (_, tables) =>
        { s with tables, renamedTo := none }
  | .appendStreaming call env actor content routing =>
      match s.calls call with
      | .idle =>
          (committed (appendStreamingOpen env actor threadId content routing) s.tables).map
            fun
            | (.inl thread, tables) =>
                { s with
                  tables
                  calls := Function.update s.calls call (.following env actor thread content) }
            | (.inr turn, tables) =>
                { tables
                  calls := Function.update s.calls call (stageAfter env actor turn)
                  renamedTo := s.renamedAfter threadId (some turn.routing) }
      | _ => none
  | .followUp call =>
      match s.calls call with
      | .following env actor thread content =>
          (committed (appendFollowUpStreaming env actor thread content) s.tables).map
            fun (turn, tables) =>
              { s with
                tables
                calls := Function.update s.calls call (stageAfter env actor turn) }
      | _ => none
  | .persistReply call chunks =>
      match s.calls call with
      | .conversing env actor thread routing =>
          (committed (ThreadService.persistReply env actor thread chunks routing) s.tables).map
            fun (_, tables) =>
              { s with tables, calls := Function.update s.calls call .idle }
      | _ => none
  | .leave call => some { s with calls := Function.update s.calls call .idle }

/-- An archived thread stays archived unless it is restored, nothing is written into it, and
a rename is in force until another operation sets the title. -/
structure StaysArchived (s : ThreadCalls) (action : ThreadAction) (t : ThreadCalls) : Prop where
  status : s.Archived threadId → (∀ env actor, action ≠ .restore env actor) → t.Archived threadId
  contents : s.Archived threadId → contentsOf threadId t.tables = contentsOf threadId s.tables
  title : t.Titled threadId

/-- A later transaction of `append_streaming` finds a thread that is not archived, and holds
the title of a rename that is in force. -/
def OnCurrentRow : ThreadAction → Prop
  | .followUp call =>
      match s.calls call with
      | .following _ _ thread _ =>
          ¬ s.Archived threadId ∧ ∀ title ∈ s.renamedTo, thread.title = title
      | _ => True
  | .persistReply _ _ => ¬ s.Archived threadId
  | _ => True

instance (action : ThreadAction) : Decidable (s.OnCurrentRow threadId action) := by
  unfold OnCurrentRow
  split
  · split <;> infer_instance
  · infer_instance
  · infer_instance

variable {threadId} {s t : ThreadCalls} {action : ThreadAction} {row row' : AnalysisRunThread}

theorem not_archived (hrow : threadOf threadId s.tables = some row)
    (hstatus : row.status ≠ .archived) : ¬ s.Archived threadId := by
  intro ⟨found, hfound, harchived⟩
  obtain rfl : row = found := Option.some.inj (hrow.symm.trans hfound)
  exact hstatus harchived

/-- Nothing is asked for an archived thread that there is not. -/
theorem staysArchived_of_not_archived (h : ¬ s.Archived threadId) (htitled : t.Titled threadId) :
    s.StaysArchived threadId action t :=
  ⟨fun harchived => (h harchived).elim, fun harchived => (h harchived).elim, htitled⟩

theorem Titled.keeps (h : s.Titled threadId) (hrow : threadOf threadId s.tables = some row)
    (hrow' : threadOf threadId t.tables = some row') (htitle : row'.title = row.title)
    (hrenamed : t.renamedTo = s.renamedTo) : t.Titled threadId := by
  intro title htitled
  obtain ⟨found, hfound, rfl⟩ := h title (hrenamed ▸ htitled)
  obtain rfl : row = found := Option.some.inj (hrow.symm.trans hfound)
  exact ⟨row', hrow', htitle⟩

theorem Titled.turn {routing : RoutingResult} (h : s.Titled threadId)
    (hrow : threadOf threadId s.tables = some row)
    (hrow' : threadOf threadId t.tables = some row') (hturned : TurnedRow row row' routing)
    (hrenamed : t.renamedTo = s.renamedAfter threadId (some routing)) : t.Titled threadId := by
  by_cases htitle : row'.title = row.title
  · intro title htitled
    rw [hrenamed, renamedAfter] at htitled
    split at htitled
    · cases htitled
    · obtain ⟨found, hfound, rfl⟩ := h title htitled
      obtain rfl : row = found := Option.some.inj (hrow.symm.trans hfound)
      exact ⟨row', hrow', htitle⟩
  · obtain ⟨hactive, hretitles⟩ := hturned.title htitle
    intro title htitled
    rw [hrenamed, renamedAfter, if_pos (by simp [hrow, hactive, hretitles])] at htitled
    cases htitled

/-- The aggregate that a call under way holds is one of the thread. -/
def SoundStage (threadId : UUID) : StreamStage → Prop
  | .idle => True
  | .following _ actor thread _ =>
      thread.threadId = threadId ∧ thread.organizationId = actor.organizationId
  | .conversing _ _ thread _ => thread.threadId = threadId

/-- Calls under way are calls on the thread, and it has the title of the rename in force. -/
structure Sound (threadId : UUID) (s : ThreadCalls) : Prop where
  titled : s.Titled threadId
  stages : ∀ call, SoundStage threadId (s.calls call)

theorem soundStage_update {stage : StreamStage} {call : Nat}
    (h : ∀ call, SoundStage threadId (s.calls call)) (hstage : SoundStage threadId stage)
    (other : Nat) : SoundStage threadId (Function.update s.calls call stage other) := by
  rw [Function.update_apply]
  split
  · exact hstage
  · exact h other

theorem soundStage_stageAfter {env : ThreadEnvironment} {actor : AuthenticatedActor}
    {turn : ThreadTurn} (h : turn.thread.threadId = threadId) :
    SoundStage threadId (stageAfter env actor turn) := by
  unfold stageAfter
  split
  · exact h
  · trivial

theorem committed_eq_some {α : Type} {m : TableMethod α} {tables after : ThreadTables} {a : α} :
    committed m tables = some (a, after) ↔ m.call tables = (.ok a, after) := by
  unfold committed
  rcases m.call tables with ⟨error | b, t⟩
  · simp
  · simp

/-- The follow-up saves the aggregate that it holds, and posts its message. -/
theorem followUp_writes {env : ThreadEnvironment} {actor : AuthenticatedActor}
    {thread : AnalysisRunThread} {content : String} {turn : ThreadTurn}
    {tables after : ThreadTables}
    (hsound : SoundStage threadId (.following env actor thread content))
    (h : (appendFollowUpStreaming env actor thread content).call tables = (.ok turn, after)) :
    ∃ row, threadOf threadId tables = some row ∧
      threadOf threadId after = some (row.savedAs
        { thread with updatedAt := env.now, latestActivityAt := env.now }) ∧
      messageCount threadId tables < messageCount threadId after ∧
      turn.thread.threadId = threadId := by
  obtain ⟨rfl, horganization⟩ := hsound
  obtain ⟨-, ⟨row, hrow, hafter⟩, hcount⟩ :=
    followUpWith_returns converses_streaming horganization h
  exact ⟨row, hrow, hafter, hcount, followUpWith_threadId.returns trivial h⟩

theorem persistReply_writes {env : ThreadEnvironment} {actor : AuthenticatedActor}
    {thread : AnalysisRunThread} {routing : RoutingResult} {chunks : List String}
    {message : ThreadMessage} {tables after : ThreadTables}
    (hsound : SoundStage threadId (.conversing env actor thread routing))
    (h : (ThreadService.persistReply env actor thread chunks routing).call tables =
      (.ok message, after)) :
    threadOf threadId after = threadOf threadId tables ∧
      messageCount threadId tables < messageCount threadId after := by
  obtain rfl : thread.threadId = threadId := hsound
  exact postReply_returns h

theorem step_keeps (hsound : s.Sound threadId) (hcurrent : s.OnCurrentRow threadId action)
    (h : s.step threadId action = some t) :
    t.Sound threadId ∧ s.StaysArchived threadId action t := by
  cases action with
  | append env actor content routing =>
      simp only [step, Option.map_eq_some_iff, Prod.exists, committed_eq_some] at h
      obtain ⟨detail, tables, hcommitted, rfl⟩ := h
      obtain ⟨row, row', routed, hrow, hwritable, hrow', hrouting, hturned⟩ :=
        append_returns hcommitted
      have htitled : Titled threadId
          { s with tables, renamedTo := s.renamedAfter threadId detail.routing } :=
        hsound.titled.turn hrow hrow' hturned (by rw [hrouting])
      exact ⟨⟨htitled, hsound.stages⟩,
        staysArchived_of_not_archived (not_archived hrow hwritable) htitled⟩
  | archive env actor =>
      simp only [step, Option.map_eq_some_iff, Prod.exists, committed_eq_some] at h
      obtain ⟨detail, tables, hcommitted, rfl⟩ := h
      obtain ⟨row, row', hrow, hrow', harchived, htitle, hcontents⟩ := archive_returns hcommitted
      have htitled : Titled threadId { s with tables } :=
        hsound.titled.keeps hrow hrow' htitle rfl
      exact ⟨⟨htitled, hsound.stages⟩,
        fun _ _ => ⟨row', hrow', harchived⟩, fun _ => hcontents, htitled⟩
  | restore env actor =>
      simp only [step, Option.map_eq_some_iff, Prod.exists, committed_eq_some] at h
      obtain ⟨detail, tables, hcommitted, rfl⟩ := h
      obtain ⟨row, row', hrow, hrow', htitle, hcontents⟩ := restore_returns hcommitted
      have htitled : Titled threadId { s with tables } :=
        hsound.titled.keeps hrow hrow' htitle rfl
      exact ⟨⟨htitled, hsound.stages⟩,
        fun _ hrestore => (hrestore env actor rfl).elim, fun _ => hcontents, htitled⟩
  | rename env actor title =>
      simp only [step, Option.map_eq_some_iff, Prod.exists, committed_eq_some] at h
      obtain ⟨⟨⟩, tables, hcommitted, rfl⟩ := h
      obtain ⟨row, row', hrow, hrow', htitle, hstatus, hcontents⟩ :=
        renameThread_returns hcommitted
      have htitled : Titled threadId
          { s with tables, renamedTo := (normalizedTitle title).toOption } := by
        intro stored hstored
        rw [htitle] at hstored
        exact ⟨row', hrow', Option.some.inj hstored⟩
      refine ⟨⟨htitled, hsound.stages⟩, fun harchived _ => ⟨row', hrow', ?_⟩,
        fun _ => hcontents, htitled⟩
      by_contra hne
      exact not_archived hrow (hstatus ▸ hne) harchived
  | delete actor =>
      simp only [step, Option.map_eq_some_iff, Prod.exists, committed_eq_some] at h
      obtain ⟨⟨⟩, tables, hcommitted, rfl⟩ := h
      obtain ⟨row, hrow, hdraft⟩ := delete_returns hcommitted
      have htitled : Titled threadId { s with tables, renamedTo := none } := fun _ h => by cases h
      exact ⟨⟨htitled, hsound.stages⟩,
        staysArchived_of_not_archived (not_archived hrow (by simp [hdraft])) htitled⟩
  | appendStreaming call env actor content routing =>
      simp only [step] at h
      split at h
      · simp only [Option.map_eq_some_iff, Prod.exists, committed_eq_some] at h
        obtain ⟨opened, tables, hcommitted, h⟩ := h
        obtain ⟨row, hrow, hwritable, hopened⟩ := appendStreamingOpen_returns hcommitted
        cases opened with
        | inl thread =>
            obtain ⟨rfl, horganization, rfl⟩ := hopened
            cases h
            exact ⟨⟨hsound.titled, soundStage_update hsound.stages ⟨rfl, horganization⟩⟩,
              staysArchived_of_not_archived (not_archived hrow hwritable) hsound.titled⟩
        | inr turn =>
            obtain ⟨row', hrow', hid, hturned⟩ := hopened
            cases h
            have htitled : Titled threadId
                { tables
                  calls := Function.update s.calls call (stageAfter env actor turn)
                  renamedTo := s.renamedAfter threadId (some turn.routing) } :=
              hsound.titled.turn hrow hrow' hturned rfl
            exact ⟨⟨htitled, soundStage_update hsound.stages (soundStage_stageAfter hid)⟩,
              staysArchived_of_not_archived (not_archived hrow hwritable) htitled⟩
      · cases h
  | followUp call =>
      simp only [step] at h
      split at h
      next env actor thread content hstage =>
        simp only [Option.map_eq_some_iff, Prod.exists, committed_eq_some] at h
        obtain ⟨turn, tables, hcommitted, rfl⟩ := h
        obtain ⟨row, hrow, hafter, -, hid⟩ := followUp_writes (hstage ▸ hsound.stages call) hcommitted
        simp only [OnCurrentRow, hstage] at hcurrent
        obtain ⟨harchived, htitle⟩ := hcurrent
        have htitled : Titled threadId
            { s with
              tables
              calls := Function.update s.calls call (stageAfter env actor turn) } :=
          fun title hrenamed => ⟨_, hafter, htitle title hrenamed⟩
        exact ⟨⟨htitled, soundStage_update hsound.stages (soundStage_stageAfter hid)⟩,
          staysArchived_of_not_archived harchived htitled⟩
      · cases h
  | persistReply call chunks =>
      simp only [step] at h
      split at h
      next env actor thread routing hstage =>
        simp only [Option.map_eq_some_iff, Prod.exists, committed_eq_some] at h
        obtain ⟨message, tables, hcommitted, rfl⟩ := h
        obtain ⟨hkept, -⟩ := persistReply_writes (hstage ▸ hsound.stages call) hcommitted
        have htitled : Titled threadId
            { s with tables, calls := Function.update s.calls call .idle } := by
          intro title hrenamed
          rw [hkept]
          exact hsound.titled title hrenamed
        exact ⟨⟨htitled, soundStage_update hsound.stages trivial⟩,
          staysArchived_of_not_archived hcurrent htitled⟩
      · cases h
  | leave call =>
      cases h
      exact ⟨⟨hsound.titled, soundStage_update hsound.stages trivial⟩,
        fun harchived _ => harchived, fun _ => rfl, hsound.titled⟩

theorem StaysArchived.not_archived (h : s.StaysArchived threadId action t)
    (hcount : messageCount threadId s.tables < messageCount threadId t.tables) :
    ¬ s.Archived threadId := fun harchived =>
  hcount.ne (messageCount_eq_of_contentsOf (h.contents harchived)).symm

theorem onCurrentRow_of_staysArchived (hsound : s.Sound threadId)
    (h : s.step threadId action = some t) (hstays : s.StaysArchived threadId action t) :
    s.OnCurrentRow threadId action := by
  cases action with
  | followUp call =>
      simp only [step] at h
      split at h
      next env actor thread content hstage =>
        simp only [Option.map_eq_some_iff, Prod.exists, committed_eq_some] at h
        obtain ⟨turn, tables, hcommitted, rfl⟩ := h
        obtain ⟨row, hrow, hafter, hcount, -⟩ :=
          followUp_writes (hstage ▸ hsound.stages call) hcommitted
        simp only [OnCurrentRow, hstage]
        refine ⟨hstays.not_archived hcount, fun title hrenamed => ?_⟩
        obtain ⟨row', hrow', htitle⟩ := hstays.title title hrenamed
        obtain rfl := Option.some.inj (hafter.symm.trans hrow')
        exact htitle
      · cases h
  | persistReply call chunks =>
      simp only [step] at h
      split at h
      next env actor thread routing hstage =>
        simp only [Option.map_eq_some_iff, Prod.exists, committed_eq_some] at h
        obtain ⟨message, tables, hcommitted, rfl⟩ := h
        obtain ⟨-, hcount⟩ := persistReply_writes (hstage ▸ hsound.stages call) hcommitted
        exact hstays.not_archived hcount
      · cases h
  | _ => trivial

/-- **Archived threads stay archived** in exactly the runs whose later transactions of
`append_streaming` find the row as their first one left it. -/
theorem staysArchived_iff (threadId : UUID) (s t : ThreadCalls) (actions : List ThreadAction)
    (hidle : ∀ call, s.calls call = .idle) (hrenamed : s.renamedTo = none)
    (hrun : run (step threadId) s actions = some t) :
    Respects (step threadId) (StaysArchived threadId) s actions ↔
      Allowed (step threadId) (OnCurrentRow threadId) s actions := by
  have hsound : s.Sound threadId := by
    refine ⟨fun title h => ?_, fun call => ?_⟩
    · rw [hrenamed] at h
      cases h
    · rw [hidle call]
      trivial
  exact respects_iff_allowed (Sound threadId) (fun _ _ _ => step_keeps)
    (fun _ _ _ => onCurrentRow_of_staysArchived) actions s t hsound hrun

/-- A message comes in at a time, and what is asked of the model is small talk. -/
def smallTalk (now : Int) : ThreadEnvironment where
  unicode := ⟨id, fun _ => "Lu"⟩
  casefold := id
  now := now
  replyNow := now + 1
  newId := fun n => 100 + n
  resolve := fun _ _ => .ok { disposition := .notAnalytical }
  reply := fun _ => .ok "Hello"
  replyStream := fun _ => .ok ["Hel", "lo"]

def member : AuthenticatedActor := { userId := 2, organizationId := 1, role := .member }

def activeThread : ThreadCalls where
  tables := {
    groups := fun groupId => if groupId = 3 then some { organizationId := 1 } else none
    sessions := fun threadId =>
      if threadId = 7 then
        some { thread := {
          threadId := 7, organizationId := 1, projectId := 3, initiatingMessageId := 4
          title := "Churn", status := .active, createdAt := 0, updatedAt := 0
          latestActivityAt := 0 } }
      else none
    threadIds := [7] }
  calls := fun _ => .idle
  renamedTo := none

/-- The reply is posted before the thread is archived. -/
theorem archivedAfterReply_staysArchived :
    Respects (step 7) (StaysArchived 7) activeThread
      [.appendStreaming 0 (smallTalk 10) member "Hi" none, .followUp 0,
        .persistReply 0 ["Hel", "lo"], .archive (smallTalk 12) member,
        .rename (smallTalk 13) member "Greetings"] := by
  have hrun : (run (step 7) activeThread
      [.appendStreaming 0 (smallTalk 10) member "Hi" none, .followUp 0,
        .persistReply 0 ["Hel", "lo"], .archive (smallTalk 12) member,
        .rename (smallTalk 13) member "Greetings"]).isSome := by
    decide +kernel
  exact (staysArchived_iff 7 _ _ _ (fun _ => rfl) rfl (Option.some_get hrun).symm).2
    (by decide +kernel)

/-- **An archived thread is active again**, a reply is posted in an archived thread, and a
rename is undone: a call of `append_streaming` goes on with what it has read. -/
theorem archivedThread_reactivated :
    (∃ t, Exec (step 7) activeThread
        [.appendStreaming 0 (smallTalk 10) member "Hi" none, .archive (smallTalk 12) member] t ∧
      t.Archived 7 ∧ ∃ u ∈ step 7 t (.followUp 0), ¬ u.Archived 7) ∧
    (∃ t, Exec (step 7) activeThread
        [.appendStreaming 0 (smallTalk 10) member "Hi" none, .followUp 0,
          .archive (smallTalk 12) member] t ∧
      t.Archived 7 ∧ ∃ u ∈ step 7 t (.persistReply 0 ["Hello"]),
        u.Archived 7 ∧ messageCount 7 t.tables < messageCount 7 u.tables) ∧
    ∃ t, Exec (step 7) activeThread
        [.appendStreaming 0 (smallTalk 10) member "Hi" none,
          .rename (smallTalk 12) member "Greetings"] t ∧
      t.renamedTo = some "Greetings" ∧ ∃ u ∈ step 7 t (.followUp 0),
        u.renamedTo = some "Greetings" ∧
          (threadOf 7 u.tables).map AnalysisRunThread.title = some "Churn" :=
  ⟨exists_exec (by decide +kernel), exists_exec (by decide +kernel),
    exists_exec (by decide +kernel)⟩

end ThreadCalls

end Zentra.ThreadService
