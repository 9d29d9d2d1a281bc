import Zentra.ThreadPrivacy

/-!
# What the detail of a thread says one may do

The detail of a thread tells a client which operations to offer.  The flags look at the thread and
at its latest Analysis Run; the operations look at the group and at the job of the run as well.

* `unrefused_append` — an append that has got past its checks is not refused;
* `Agrees` — how flags and operations agree.
-/

open JsonDocument Raising Raising.Method

namespace Zentra

open ThreadRepository ThreadService

/-- The exceptions that tell of a permission, a conflict or a transition. -/
def ThreadError.Refusal : ThreadError → Prop
  | .permissionDenied _ | .conflict _ | .transition _ | .run _ => True
  | .job (.executionJobTransitionError _) => True
  | _ => False

def Refused {α : Type} (m : TableMethod α) (tables : ThreadTables) : Prop :=
  ∃ error after, m.call tables = (.error error, after) ∧ error.Refusal

/-- Whatever the call finds, it is not refused. -/
abbrev Unrefused {α : Type} (m : TableMethod α) : Prop :=
  RaisesOnly (fun error : ThreadError => ¬ error.Refusal) m

namespace AnalysisRunService

section Operations

variable (env : ThreadEnvironment) (actor : AuthenticatedActor) (analysisRunId : UUID)

def requireCreateRole : TableMethod Unit :=
  raiseIf (fun _ => actor.role ∉ threadMutatorRoles)
    fun _ => .permissionDenied "This membership cannot start analysis_runs"

/-- `analysis_runs.get`: the run of a thread, with the thread. -/
def findRun (organizationId : UUID) (tables : ThreadTables) : Option (UUID × AnalysisRun) :=
  tables.threadIds.findSome? fun threadId =>
    (tables.session threadId organizationId).bind fun s =>
      (s.runs.find? fun run => run.analysisRunId = analysisRunId).map fun run => (threadId, run)

/-- `jobs.get_for_analysis_run`. -/
def jobOf (organizationId : UUID) (tables : ThreadTables) : Option ExecutionJob :=
  tables.jobs.find? fun job =>
    job.analysisRunId = analysisRunId ∧ job.organizationId = organizationId ∧
      job.jobKind = .analysisRun

def saveJob (job : ExecutionJob) : TableMethod Unit :=
  assign fun tables =>
    { tables with
      jobs := tables.jobs.map fun other => if other.jobId = job.jobId then job else other }

/-- `analysis_runs.save`. -/
def saveRun (threadId : UUID) (run : AnalysisRun) : TableMethod Unit :=
  assign fun tables => tables.updateSession threadId run.organizationId fun s =>
    { s with runs := s.runs.map fun other =>
        if other.analysisRunId = run.analysisRunId then { run with events := [] } else other }

def cancelRun (threadId : UUID) (run : AnalysisRun) : TableMethod Unit :=
  match (AnalysisRun.cancel env.now).call run with
  | (.error error, _) => raise (.run error)
  | (.ok (), cancelled) => do
      saveRun threadId cancelled
      enqueueEvents cancelled.events

def cancel : TableMethod Unit := do
  requireCreateRole actor
  let tables ← self
  match findRun analysisRunId actor.organizationId tables with
  | none => raise (.notFound "AnalysisRun was not found")
  | some (threadId, run) =>
      if run.status ∈ terminalStatuses then
        raise (.conflict "A terminal AnalysisRun cannot be cancelled")
      else
        match jobOf analysisRunId actor.organizationId tables with
        | none => raise (.conflict "AnalysisRun execution is unavailable")
        | some job =>
            let job := job.cancelRequested actor.userId env.now
            saveJob job
            if job.status = .cancelled then do
              cancelRun env threadId run
              feed actor threadId .analysisRunCancelled
                (analysisRunEventPayload analysisRunId "cancelled") env.now (env.newId 0)
            else
              feed actor threadId .analysisRunCancelRequested
                (analysisRunEventPayload analysisRunId run.status.value) env.now (env.newId 0)

def retry : TableMethod Unit := do
  requireCreateRole actor
  let tables ← self
  match findRun analysisRunId actor.organizationId tables with
  | none => raise (.notFound "AnalysisRun was not found")
  | some (threadId, original) =>
      if original.status ∉ [.failed, .cancelled] then
        raise (.conflict "Only a failed or cancelled AnalysisRun can be retried")
      else
        match tables.latestForThread threadId actor.organizationId with
        | none => raise (.conflict "Only the latest Thread AnalysisRun can be retried")
        | some latest =>
            if latest.analysisRunId ≠ analysisRunId then
              raise (.conflict "Only the latest Thread AnalysisRun can be retried")
            else do
              let retried ← queueRun env actor threadId (AnalysisRun.create (env.newId 2)
                actor.organizationId original.question env.now original.dataConnectionId none
                original.threadId (some (latest.threadSequence.getD 0 + 1))
                original.initiatingMessageId original.parentAnalysisRunId
                (some original.analysisRunId))
              feed actor threadId .analysisRunRetryCreated
                (analysisRunEventPayload retried.analysisRunId retried.status.value
                  retried.parentAnalysisRunId) env.now (env.newId 3)

end Operations

end AnalysisRunService

section Unrefused

variable {env : ThreadEnvironment} {actor : AuthenticatedActor} {thread : AnalysisRunThread}

theorem unrefused_feed (threadId : UUID) (kind : WorkFeedEventKind) (payload : Object)
    (occurredAt : Int) (eventId : UUID) :
    Unrefused (feed actor threadId kind payload occurredAt eventId) := by
  refine raisesOnly_self_bind fun tables => ?_
  split
  · exact raisesOnly_pure
  · exact (raisesOnly_raiseIf fun _ => id).bind fun _ => raisesOnly_assign

theorem unrefused_addMessage (message : ThreadMessage) : Unrefused (addMessage message) :=
  (raisesOnly_raiseIf fun _ => id).bind fun _ => raisesOnly_assign

theorem unrefused_saveThread : Unrefused (saveThread thread) :=
  (raisesOnly_raiseIf fun _ => id).bind fun _ => raisesOnly_assign

theorem create_unrefused {unicode : UnicodeData} {messageId threadId organizationId : UUID}
    {authorId : Option UUID} {kind : ThreadMessageKind} {content : String} {now : Int}
    {error : ThreadError} (h : ThreadMessage.create unicode messageId threadId organizationId
      authorId kind content now = .error error) : ¬ error.Refusal := by
  unfold ThreadMessage.create normalizeMessageContent at h
  dsimp only at h
  split at h
  · cases h; exact id
  split at h
  · cases h; exact id
  split at h
  · cases h; exact id
  · cases h

theorem unrefused_payload {α : Type} {disposition : RoutingDisposition} {count : Nat}
    {f : Object → TableMethod α} (h : ∀ payload, Unrefused (f payload)) :
    Unrefused (eval (routingEventPayload disposition count) >>= f) := by
  refine (raisesOnly_eval fun error herror => ?_).bind h
  unfold routingEventPayload at herror
  split at herror
  · cases herror; exact id
  · cases herror

theorem unrefused_postMessage (message : ThreadMessage) (eventId : UUID) :
    Unrefused (postMessage env actor message eventId) :=
  (unrefused_addMessage message).bind fun _ => unrefused_feed _ _ _ _ _

theorem unrefused_clarify (routing : RoutingResult) :
    Unrefused (clarify env actor thread routing) := by
  refine raisesOnly_eval_bind (fun error herror => ?_) fun messages _ => ?_
  · unfold routerMessages at herror
    split at herror
    next => cases herror
    next clarification _ =>
      dsimp only at herror
      cases hmessage : ThreadMessage.create env.unicode (env.newId 2) thread.threadId
          thread.organizationId none .routerClarification (clarification ++ "\n" ++
            PythonText.join "\n" (routing.suggestions.map ("- " ++ ·))) env.now with
      | error cause =>
          rw [hmessage] at herror
          cases herror
          exact create_unrefused hmessage
      | ok message =>
          rw [hmessage] at herror
          cases herror
  · cases messages with
    | nil => exact raisesOnly_raise id
    | cons message rest =>
        refine (unrefused_addMessage message).bind fun _ => unrefused_payload fun _ => ?_
        exact (unrefused_feed _ _ _ _ _).bind fun _ => raisesOnly_pure

structure Willing (env : ThreadEnvironment) : Prop where
  resolve : ∀ text scope error, env.resolve text scope = .error error → ¬ error.Refusal
  reply : ∀ text error, env.reply text = .error error → ¬ error.Refusal

theorem unrefused_replying (henv : Willing env) (content : String) (routing : RoutingResult) :
    Unrefused (replying env actor thread content routing) := by
  refine RaisesOnly.bind ?_ fun _ => raisesOnly_pure
  refine (raisesOnly_eval fun error herror => henv.reply _ _ herror).bind fun text => ?_
  refine (raisesOnly_eval fun _ => create_unrefused).bind fun message => ?_
  refine (unrefused_addMessage message).bind fun _ => unrefused_payload fun _ => ?_
  exact (unrefused_feed _ _ _ _ _).bind fun _ => raisesOnly_pure

theorem unrefused_addRun (threadId : UUID) (run : AnalysisRun) :
    Unrefused (addRun threadId run) :=
  (raisesOnly_raiseIf fun _ => id).bind fun _ =>
    (raisesOnly_raiseIf fun _ => id).bind fun _ => raisesOnly_assign

theorem start_of_pending {run : AnalysisRun} {now : Int} (h : run.status = .pending) :
    ∃ started, (AnalysisRun.start now).call run = (.ok (), started) := by
  rw [AnalysisRun.start, AnalysisRun.transition_call, h, if_pos (List.mem_singleton.2 rfl)]
  exact ⟨_, rfl⟩

/-- A run of a thread can be queued when its sequence is positive. -/
theorem unrefused_queueRun {threadId linkedId analysisRunId messageId : UUID} {question : String}
    {scope : Option DataConnectionId} {parent retryOf : Option UUID} {sequence : Int}
    (hsequence : 1 ≤ sequence) :
    Unrefused (queueRun env actor threadId (AnalysisRun.create analysisRunId actor.organizationId
      question env.now scope none (some linkedId) (some sequence) (some messageId) parent
      retryOf)) := by
  have hpositive : ¬ sequence < 1 := not_lt.2 hsequence
  unfold queueRun AnalysisRun.create
  simp only [Option.isSome_some, Option.isNone_some, Option.any_some, hpositive, Bool.or_self,
    decide_false, Bool.and_false, Bool.false_eq_true, if_false, Except.mapError]
  refine raisesOnly_eval_bind (fun _ h => by cases h) fun run hrun => ?_
  obtain ⟨started, hstarted⟩ := @start_of_pending run env.now (by cases hrun; rfl)
  rw [hstarted]
  refine raisesOnly_eval_bind (fun _ h => by cases h) fun job _ => ?_
  exact (unrefused_addRun _ _).bind fun _ => raisesOnly_assign.bind fun _ =>
    raisesOnly_assign.bind fun _ => raisesOnly_pure

theorem recordMessage_of_writable (h : thread.status ≠ .archived) :
    thread.recordMessage env.now =
      .ok { thread with updatedAt := env.now, latestActivityAt := env.now } := by
  rw [AnalysisRunThread.recordMessage, AnalysisRunThread.ensureWritable, if_neg h]
  rfl

theorem activate_of_writable (h : thread.status ≠ .archived) :
    thread.activate env.now =
      .ok { thread with status := .active, updatedAt := env.now, latestActivityAt := env.now } := by
  rw [AnalysisRunThread.activate, AnalysisRunThread.ensureWritable, if_neg h]
  rfl

theorem unrefused_applyRouting (henv : Willing env) (hstatus : thread.status ≠ .archived)
    (message : ThreadMessage) (routing : RoutingResult) (scope : Option DataConnectionId) :
    Unrefused (applyRoutingWith env actor (replying env actor) thread message routing scope) := by
  unfold applyRoutingWith
  split
  · rw [activate_of_writable (by exact hstatus)]
    refine raisesOnly_eval_bind (fun _ h => by cases h) fun activated _ => ?_
    exact unrefused_saveThread.bind fun _ =>
      (unrefused_replying henv _ _).bind fun _ => raisesOnly_pure
  · split
    · exact raisesOnly_raise id
    · refine (unrefused_queueRun le_rfl).bind fun run => ?_
      rw [activate_of_writable (by exact hstatus)]
      refine raisesOnly_eval_bind (fun _ h => by cases h) fun activated _ => ?_
      refine unrefused_saveThread.bind fun _ => unrefused_payload fun _ => ?_
      exact (unrefused_feed _ _ _ _ _).bind fun _ =>
        (unrefused_feed _ _ _ _ _).bind fun _ => raisesOnly_pure
  · exact (unrefused_clarify _).bind fun _ => raisesOnly_pure
  · exact (unrefused_clarify _).bind fun _ => raisesOnly_pure

theorem unrefused_appendDraft (henv : Willing env) (hstatus : thread.status ≠ .archived)
    (content : String) (routing : Option RoutingResult) :
    Unrefused (appendDraftWith env actor (replying env actor) thread content routing) := by
  have hrest (message : ThreadMessage) (routing : RoutingResult) : Unrefused (do
      let recorded ← eval (thread.recordMessage env.now)
      postMessage env actor message (env.newId 1)
      let turn ← applyRoutingWith env actor (replying env actor) recorded message routing
        (sourceScope thread.sourceIds)
      saveThread turn.thread
      pure turn) := by
    rw [recordMessage_of_writable hstatus]
    refine raisesOnly_eval_bind (fun _ h => by cases h) fun recorded hrecorded => ?_
    cases hrecorded
    refine (unrefused_postMessage _ _).bind fun _ => ?_
    refine (unrefused_applyRouting henv (by exact hstatus) _ _ _).bind fun _ => ?_
    exact unrefused_saveThread.bind fun _ => raisesOnly_pure
  refine (raisesOnly_eval fun _ => create_unrefused).bind fun message => ?_
  refine raisesOnly_self_bind fun tables => ?_
  cases routing with
  | some routing => exact hrest message routing
  | none =>
      refine (raisesOnly_eval fun _ => henv.resolve _ _ _).bind fun routing => ?_
      exact hrest message routing

theorem unrefused_followUp (henv : Willing env) (hstatus : thread.status ≠ .archived)
    (content : String) {tables : ThreadTables}
    (hlatest : ∀ run ∈ tables.latestForThread thread.threadId actor.organizationId,
      0 ≤ run.threadSequence.getD 0) :
    ¬ Refused (followUpWith env actor (replying env actor) thread content) tables := by
  rintro ⟨error, after, hcall, hrefusal⟩
  rw [followUpWith, call_self_bind] at hcall
  refine (?_ : Unrefused _) tables error after hcall hrefusal
  clear hcall
  generalize tables.latestForThread thread.threadId actor.organizationId = latest at hlatest
  refine (raisesOnly_eval fun _ => create_unrefused).bind fun message => ?_
  refine (raisesOnly_eval fun _ => henv.resolve _ _ _).bind fun routing => ?_
  rw [recordMessage_of_writable hstatus]
  refine raisesOnly_eval_bind (fun _ h => by cases h) fun recorded _ => ?_
  refine (unrefused_postMessage _ _).bind fun _ => ?_
  dsimp only
  split
  · refine (unrefused_replying henv _ _).bind fun _ => raisesOnly_pure.bind fun _ => ?_
    exact unrefused_saveThread.bind fun _ => raisesOnly_pure
  · split
    · exact (raisesOnly_raise id).bind fun _ => unrefused_saveThread.bind fun _ => raisesOnly_pure
    · refine (unrefused_queueRun ?sequence).bind fun run => ?queued
      case sequence =>
        cases latest with
        | none => exact le_rfl
        | some run => exact Int.add_le_add_right (hlatest run rfl) 1
      refine (unrefused_feed _ _ _ _ _).bind fun _ => raisesOnly_pure.bind fun _ => ?_
      exact unrefused_saveThread.bind fun _ => raisesOnly_pure
  · refine (unrefused_clarify _).bind fun _ => raisesOnly_pure.bind fun _ => ?_
    exact unrefused_saveThread.bind fun _ => raisesOnly_pure
  · refine (unrefused_clarify _).bind fun _ => raisesOnly_pure.bind fun _ => ?_
    exact unrefused_saveThread.bind fun _ => raisesOnly_pure

end Unrefused

section Refusals

variable {α β : Type} {m : TableMethod α} {tables : ThreadTables}

theorem Refused.of_unrefused (h : Unrefused m) : ¬ Refused m tables :=
  fun ⟨error, after, hcall, hrefusal⟩ => h tables error after hcall hrefusal

theorem Refused.of_bind {f : α → TableMethod β} (h : Refused (m >>= f) tables)
    (hm : ¬ Refused m tables) (hf : ∀ a, Unrefused (f a)) : False := by
  obtain ⟨error, after, hcall, hrefusal⟩ := h
  rw [call_bind] at hcall
  rcases hm' : m.call tables with ⟨cause | a, between⟩
  · rw [hm'] at hcall
    cases hcall
    exact hm ⟨_, _, hm', hrefusal⟩
  · rw [hm'] at hcall
    exact hf a between error after hcall hrefusal

theorem refused_roleCheck {actor : AuthenticatedActor} {text : String}
    {f : Unit → TableMethod α} :
    Refused ((raiseIf (fun _ => actor.role ∉ threadMutatorRoles)
      fun _ => .permissionDenied text) >>= f) tables ↔
        actor.role ∉ threadMutatorRoles ∨ Refused (f ()) tables := by
  simp only [Refused, call_raiseIf_bind]
  by_cases hrole : actor.role ∉ threadMutatorRoles
  · simp [hrole, ThreadError.Refusal]
  · simp [hrole]

theorem refused_self_bind {f : ThreadTables → TableMethod α} :
    Refused (self >>= f) tables ↔ Refused (f tables) tables := Iff.rfl

theorem refused_bind {f : α → TableMethod β} {a : α} {after : ThreadTables}
    (h : m.call tables = (.ok a, after)) : Refused (m >>= f) tables ↔ Refused (f a) after := by
  simp only [Refused, call_bind, h]

variable {env : ThreadEnvironment} {actor : AuthenticatedActor} {threadId : UUID}
  {thread : AnalysisRunThread}

theorem refused_delete (hopen : (openThread actor threadId).call tables = (.ok thread, tables)) :
    Refused (delete actor threadId) tables ↔ actor.role ∉ threadMutatorRoles ∨
      ¬ (thread.status = .draft ∧
        (tables.analysisRunIdForThread threadId actor.organizationId).isSome = false) := by
  rw [delete, requireMutator, refused_roleCheck, refused_bind hopen]
  refine or_congr_right ?_
  rw [refused_self_bind]
  dsimp only
  by_cases hdeletable : thread.status = .draft ∧
      (tables.analysisRunIdForThread threadId actor.organizationId).isSome = false
  · refine iff_of_false ?_ (not_not_intro hdeletable)
    rw [AnalysisRunThread.ensureDeletable_eq_ok.2 hdeletable]
    exact Refused.of_unrefused ((raisesOnly_raiseIf fun _ => id).bind fun _ => raisesOnly_assign)
  · refine iff_of_true ?_ hdeletable
    rw [not_and_or, Bool.not_eq_false] at hdeletable
    rw [AnalysisRunThread.ensureDeletable, if_pos hdeletable]
    exact ⟨_, _, rfl, trivial⟩

theorem unrefused_savedDetail (changed : AnalysisRunThread) : Unrefused (do
    saveThread changed
    let messages ← storedMessages actor threadId
    let tables ← self
    pure (buildThreadDetail changed messages
      (tables.analysisRunIdForThread threadId actor.organizationId) none actor)) :=
  unrefused_saveThread.bind fun _ =>
    (raisesOnly_self_bind fun _ => raisesOnly_pure).bind fun _ =>
      raisesOnly_self_bind fun _ => raisesOnly_pure

theorem refused_archive (hopen : (openThread actor threadId).call tables = (.ok thread, tables)) :
    Refused (archive env actor threadId) tables ↔ actor.role ∉ threadMutatorRoles := by
  rw [archive, requireMutator, refused_roleCheck, changeStatus, refused_bind hopen]
  exact or_iff_left (Refused.of_unrefused (unrefused_savedDetail _))

/-- The group of the thread takes messages. -/
def Writable (tables : ThreadTables) (projectId organizationId : UUID) : Prop :=
  (requireWritableProject projectId organizationId).call tables = (.ok (), tables)

theorem refused_restore (hopen : (openThread actor threadId).call tables = (.ok thread, tables))
    (hwritable : Writable tables thread.projectId actor.organizationId) :
    Refused (restore env actor threadId) tables ↔ actor.role ∉ threadMutatorRoles := by
  rw [restore, requireMutator, refused_roleCheck, changeStatus, refused_bind hopen]
  exact or_iff_left ((refused_bind hwritable).not.2
    (Refused.of_unrefused (unrefused_savedDetail _)))

theorem refused_append (henv : Willing env)
    (hopen : (openThread actor threadId).call tables = (.ok thread, tables))
    (hwritable : Writable tables thread.projectId actor.organizationId)
    (hlatest : ∀ run ∈ tables.latestForThread thread.threadId actor.organizationId,
      0 ≤ run.threadSequence.getD 0) (content : String) (routing : Option RoutingResult) :
    Refused (append env actor threadId content routing) tables ↔
      actor.role ∉ threadMutatorRoles ∨ thread.status = .archived := by
  rw [append, requireMutator, refused_roleCheck]
  refine or_congr_right ?_
  by_cases hstatus : thread.status = .archived
  · have hraises : (openWritable actor threadId).call tables =
        (.error (.conflict "Archived Threads cannot accept messages"), tables) := by
      rw [openWritable, call_bind, hopen]
      dsimp only
      rw [call_bind, hwritable, if_pos hstatus]
      rfl
    exact iff_of_true ⟨_, _, bind_raises hraises _, trivial⟩ hstatus
  · have hreturns : (openWritable actor threadId).call tables = (.ok thread, tables) := by
      rw [openWritable, call_bind, hopen]
      dsimp only
      rw [call_bind, hwritable, if_neg hstatus]
      rfl
    refine iff_of_false ((refused_bind hreturns).not.2 ?_) hstatus
    have hend (turn : ThreadTurn) : Unrefused (do
        let messages ← storedMessages actor threadId
        pure (turn.detail messages actor)) :=
      (raisesOnly_self_bind fun _ => raisesOnly_pure).bind fun _ => raisesOnly_pure
    split
    · exact fun h => h.of_bind (unrefused_followUp henv hstatus content hlatest) hend
    · exact Refused.of_unrefused ((unrefused_appendDraft henv hstatus content routing).bind hend)

theorem refused_cancel {run : AnalysisRun}
    (hfound : AnalysisRunService.findRun run.analysisRunId actor.organizationId tables =
      some (threadId, run))
    (hqueued : (AnalysisRunService.jobOf run.analysisRunId actor.organizationId tables).isSome) :
    Refused (AnalysisRunService.cancel env actor run.analysisRunId) tables ↔
      actor.role ∉ threadMutatorRoles ∨ run.status ∈ terminalStatuses := by
  obtain ⟨job, hjob⟩ := Option.isSome_iff_exists.1 hqueued
  rw [AnalysisRunService.cancel, AnalysisRunService.requireCreateRole, refused_roleCheck]
  refine or_congr_right ?_
  rw [refused_self_bind, hfound]
  dsimp only
  split
  next hterminal => exact iff_of_true ⟨_, _, rfl, trivial⟩ hterminal
  next hterminal =>
    refine iff_of_false (Refused.of_unrefused ?_) hterminal
    rw [hjob]
    refine raisesOnly_assign.bind fun _ => ?_
    split
    · refine RaisesOnly.bind ?_ fun _ => unrefused_feed _ _ _ _ _
      rw [AnalysisRunService.cancelRun, AnalysisRun.cancel_call,
        if_pos (AnalysisRun.not_terminal_iff.1 hterminal)]
      exact raisesOnly_assign.bind fun _ => raisesOnly_assign
    · exact unrefused_feed _ _ _ _ _

theorem refused_retry {run : AnalysisRun}
    (hfound : AnalysisRunService.findRun run.analysisRunId actor.organizationId tables =
      some (threadId, run))
    (hlatest : tables.latestForThread threadId actor.organizationId = some run)
    (hthread : run.threadId.isSome) (hmessage : run.initiatingMessageId.isSome)
    (hsequence : 0 ≤ run.threadSequence.getD 0) :
    Refused (AnalysisRunService.retry env actor run.analysisRunId) tables ↔
      actor.role ∉ threadMutatorRoles ∨ run.status ∉ [.failed, .cancelled] := by
  rw [AnalysisRunService.retry, AnalysisRunService.requireCreateRole, refused_roleCheck]
  refine or_congr_right ?_
  rw [refused_self_bind, hfound]
  dsimp only
  split
  next hstatus => exact iff_of_true ⟨_, _, rfl, trivial⟩ hstatus
  next hstatus =>
    refine iff_of_false (Refused.of_unrefused ?_) hstatus
    obtain ⟨original, horiginal⟩ := Option.isSome_iff_exists.1 hthread
    obtain ⟨message, hmessage⟩ := Option.isSome_iff_exists.1 hmessage
    simp only [hlatest, ne_eq, not_true_eq_false, if_false, horiginal, hmessage]
    exact (unrefused_queueRun (Int.add_le_add_right hsequence 1)).bind fun _ =>
      unrefused_feed _ _ _ _ _

end Refusals

/-- What the database promises of a thread: its group is there, and each of its runs is the
row of its identifier, is linked to a thread by a message and a positive sequence, and has its
job. -/
structure Committed (threadId organizationId : UUID) (tables : ThreadTables) : Prop where
  group : ∀ thread ∈ tables.getThread threadId organizationId,
    (tables.getGroup thread.projectId organizationId).isSome
  found : ∀ run ∈ tables.allForThread threadId organizationId,
    AnalysisRunService.findRun run.analysisRunId organizationId tables = some (threadId, run)
  linked : ∀ run ∈ tables.allForThread threadId organizationId,
    run.threadId.isSome ∧ run.initiatingMessageId.isSome ∧ 1 ≤ run.threadSequence.getD 0
  queued : ∀ run ∈ tables.allForThread threadId organizationId,
    (AnalysisRunService.jobOf run.analysisRunId organizationId tables).isSome

/-- How the flags of a detail agree with the operations.  Archiving an archived thread and
restoring one that is not do nothing and are not refused; the flags do not offer them. -/
structure Agrees (env : ThreadEnvironment) (actor : AuthenticatedActor) (threadId : UUID)
    (tables : ThreadTables) (detail : ThreadDetail) : Prop where
  delete : detail.canDelete = true ↔ ¬ Refused (delete actor threadId) tables
  cancel : detail.canCancel = true ↔
    ∃ run ∈ tables.latestForThread threadId actor.organizationId,
      ¬ Refused (AnalysisRunService.cancel env actor run.analysisRunId) tables
  retry : detail.canRetry = true ↔
    ∃ run ∈ tables.latestForThread threadId actor.organizationId,
      ¬ Refused (AnalysisRunService.retry env actor run.analysisRunId) tables
  archive : detail.canArchive = true ↔
    ¬ Refused (archive env actor threadId) tables ∧ detail.thread.status ≠ .archived
  append : (∀ group ∈ tables.getGroup detail.thread.projectId actor.organizationId,
      group.archivedAt = none) → ∀ content routing,
    (detail.canAppendMessage = true ↔ ¬ Refused (append env actor threadId content routing) tables)
  restore : (∀ group ∈ tables.getGroup detail.thread.projectId actor.organizationId,
      group.archivedAt = none) →
    (detail.canRestore = true ↔
      ¬ Refused (restore env actor threadId) tables ∧ detail.thread.status = .archived)

section Agreement

variable {env : ThreadEnvironment} {actor : AuthenticatedActor} {threadId : UUID}
  {tables after : ThreadTables} {detail : ThreadDetail}

theorem get_reads (h : (get actor threadId).call tables = (.ok detail, after)) :
    ∃ thread messages summaries cursor usage,
      (openThread actor threadId).call tables = (.ok thread, tables) ∧
      summaries.getLast?.map ThreadAnalysisRunSummary.run =
        tables.latestForThread threadId actor.organizationId ∧
      detail = buildThreadDetail thread messages
        (tables.analysisRunIdForThread threadId actor.organizationId) none actor summaries
        cursor usage := by
  rw [ThreadService.get, bind_returns] at h
  obtain ⟨thread, between, hopen, h⟩ := h
  obtain ⟨rfl, -⟩ := openThread_returns hopen
  cases h
  refine ⟨_, _, _, _, _, hopen, ?_, rfl⟩
  rw [List.getLast?_map, Option.map_map]
  exact Option.map_id' ..

theorem writable_of_open {projectId organizationId : UUID}
    (hgroup : (tables.getGroup projectId organizationId).isSome)
    (hopen : ∀ group ∈ tables.getGroup projectId organizationId, group.archivedAt = none) :
    Writable tables projectId organizationId := by
  obtain ⟨group, hgroup⟩ := Option.isSome_iff_exists.1 hgroup
  rw [Writable, requireWritableProject, call_self_bind, hgroup]
  dsimp only
  rw [hopen group hgroup]
  rfl

/-- **The flags of a detail** agree with the operations of the actor who has read it. -/
theorem affordances_agree (henv : Willing env)
    (hcommitted : Committed threadId actor.organizationId tables)
    (hget : (get actor threadId).call tables = (.ok detail, after)) :
    Agrees env actor threadId tables detail := by
  obtain ⟨thread, messages, summaries, cursor, usage, hopen, hlatest, rfl⟩ := get_reads hget
  obtain ⟨row, hrow, -, hthread⟩ := ThreadTables.getThread_eq_some.1 (openThread_returns hopen).2
  have hid : thread.threadId = threadId := by rw [hthread]
  have hgroup := hcommitted.group _ (openThread_returns hopen).2
  have hsequence : ∀ run ∈ tables.latestForThread thread.threadId actor.organizationId,
      0 ≤ run.threadSequence.getD 0 := by
    intro run hrun
    rw [hid] at hrun
    have hlinked := (hcommitted.linked run (List.mem_of_getLast? hrun)).2.2
    omega
  refine ⟨?delete, ?cancel, ?retry, ?archive, ?append, ?restore⟩
  case delete =>
    rw [refused_delete hopen]
    simp [buildThreadDetail, and_assoc]
  case cancel =>
    simp only [buildThreadDetail, hlatest]
    cases hrun : tables.latestForThread threadId actor.organizationId with
    | none => simp
    | some run =>
        have hmem := List.mem_of_getLast? hrun
        have hcancel := @refused_cancel tables env actor threadId run
          (hcommitted.found run hmem) (hcommitted.queued run hmem)
        simp [hcancel]
  case retry =>
    simp only [buildThreadDetail, hlatest]
    cases hrun : tables.latestForThread threadId actor.organizationId with
    | none => simp
    | some run =>
        have hmem := List.mem_of_getLast? hrun
        obtain ⟨hlinked, hmessage, -⟩ := hcommitted.linked run hmem
        have hretry := @refused_retry tables env actor threadId run (hcommitted.found run hmem)
          hrun hlinked hmessage (hsequence run (hid ▸ hrun))
        simp [hretry, or_iff_not_imp_left]
  case archive =>
    rw [refused_archive hopen]
    simp [buildThreadDetail]
  case append =>
    intro hwritable content routing
    rw [refused_append henv hopen (writable_of_open hgroup hwritable) hsequence]
    simp [buildThreadDetail]
  case restore =>
    intro hwritable
    rw [refused_restore hopen (writable_of_open hgroup hwritable)]
    simp [buildThreadDetail]

end Agreement

/-- A thread of the status in an open group, with a run that has failed. -/
def failedThread (status : ThreadStatus) : ThreadTables where
  groups := fun _ => some { organizationId := 1 }
  sessions := Function.update (fun _ => none) 7 (some {
    thread := {
      threadId := 7, organizationId := 1, projectId := 3, initiatingMessageId := 4
      title := "Layoffs", status, createdAt := 0, updatedAt := 0, latestActivityAt := 0 }
    runs := [{
      analysisRunId := 8, organizationId := 1, question := "Layoffs?", status := .failed
      version := 1, evaluationAttempts := 0, createdAt := 0, updatedAt := 0
      threadId := some 7, threadSequence := some 1, initiatingMessageId := some 4 }] })
  threadIds := [7]
  jobs := [{
    jobId := 9, organizationId := 1, analysisRunId := 8, status := .failed, attempts := 1
    maxAttempts := 3, availableAt := 0, leaseOwner := none, leaseExpiresAt := none
    failureCategory := none, createdAt := 0, updatedAt := 0 }]

theorem quiet_willing : Willing quiet := by
  refine ⟨fun _ _ error h => ?_, fun _ error h => ?_⟩
  · cases h
    exact id
  · cases h
    exact id

theorem failedThread_committed (status : ThreadStatus) :
    Committed 7 colleague.organizationId (failedThread status) := by
  refine ⟨fun thread _ => rfl, fun run hrun => ?_, fun run hrun => ?_, fun run hrun => ?_⟩
  · rw [List.mem_singleton.1 hrun]
    rfl
  · rw [List.mem_singleton.1 hrun]
    exact ⟨rfl, rfl, le_rfl⟩
  · rw [List.mem_singleton.1 hrun]
    rfl

/-- The failed run of an active thread can be retried, as its detail says. -/
theorem failedThread_agrees : ∃ detail,
    (get colleague 7).call (failedThread .active) = (.ok detail, failedThread .active) ∧
      Agrees quiet colleague 7 (failedThread .active) detail ∧ detail.canRetry = true :=
  ⟨_, rfl, affordances_agree quiet_willing (failedThread_committed .active) rfl, rfl⟩

/-- **An archived thread** can be archived, and the flag says that it cannot. -/
theorem archivedThread_archives : Committed 7 colleague.organizationId (failedThread .archived) ∧
    ∃ detail, (get colleague 7).call (failedThread .archived) =
        (.ok detail, failedThread .archived) ∧ detail.canArchive = false ∧
      ¬ Refused (archive quiet colleague 7) (failedThread .archived) :=
  ⟨failedThread_committed .archived, _, rfl, rfl, fun ⟨_, _, hcall, _⟩ => by cases hcall⟩

end Zentra
