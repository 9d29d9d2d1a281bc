import Zentra.ThreadStore

/-!
# The thread service

The operations of `ThreadService` on a thread.  Each opens a transaction or a few of them,
and what one of them raises is rolled back.

* `appendStreamingOpen`, `appendFollowUpStreaming`, `persistReply` — the transactions of
  `append_streaming`: nothing is locked between them;
* `get`, `events`, `eventCursor`, `list` — what is read.
-/

open JsonDocument Raising Raising.Method

namespace Zentra

open ThreadRepository

structure AuthenticatedActor where
  userId : UUID
  organizationId : UUID
  role : Role
  deriving DecidableEq, Repr

/-- `THREAD_MUTATOR_ROLES`. -/
def threadMutatorRoles : List Role := [.owner, .admin, .member]

inductive RoutingDisposition
  | resolved
  | ambiguous
  | unsupported
  | notAnalytical
  deriving DecidableEq, Repr

def RoutingDisposition.value : RoutingDisposition → String
  | resolved => "resolved"
  | ambiguous => "ambiguous"
  | unsupported => "unsupported"
  | notAnalytical => "not_analytical"

structure RoutingResult where
  disposition : RoutingDisposition
  scenarioKey : Option String := none
  canonicalQuestion : Option String := none
  clarification : Option String := none
  suggestions : List String := []
  deriving DecidableEq, Repr

/-- What a call finds around it: the clock at its start and after a model has answered, the
identifiers it is given, and the two ports. -/
structure ThreadEnvironment where
  unicode : UnicodeData
  /-- `str.casefold()` -/
  casefold : String → String
  now : Int
  replyNow : Int
  newId : Nat → UUID
  /-- the intake: a text and the sources it is asked against -/
  resolve : String → Option DataConnectionId → Except ThreadError RoutingResult
  /-- the conversational port -/
  reply : String → Except ThreadError String
  /-- the chunks that the port streams, or the text of what it raises -/
  replyStream : String → Except String (List String)

def sourceScope : List UUID → Option DataConnectionId
  | [] => none
  | [id] => some (.one id)
  | ids => some (.many ids)

def combinedQuestionText (messages : List ThreadMessage) : String :=
  PythonText.join "\n" ((messages.filter fun message =>
    message.kind = .userQuestion ∨ message.kind = .userClarification).map ThreadMessage.content)

/-- `MessageEventPayload`. -/
def messageEventPayload (message : ThreadMessage) : Object :=
  [("type", .string "message"), ("message_id", uuidJson message.messageId),
    ("message_kind", .string message.kind.value)]

/-- `RoutingEventPayload`. -/
def routingEventPayload (disposition : RoutingDisposition) (suggestionCount : Nat := 0) :
    Except ThreadError Object :=
  if 20 < suggestionCount then .error (.value "suggestion_count")
  else .ok [("type", .string "routing"), ("disposition", .string disposition.value),
    ("scenario_key", .null), ("suggestion_count", .number suggestionCount)]

/-- `AnalysisRunEventPayload`. -/
def analysisRunEventPayload (analysisRunId : UUID) (status : String)
    (parentAnalysisRunId : Option UUID := none) : Object :=
  [("type", .string "analysis_run"), ("analysis_run_id", uuidJson analysisRunId),
    ("status", .string status),
    ("parent_analysis_run_id", (parentAnalysisRunId.map uuidJson).getD .null),
    ("retry_of_analysis_run_id", .null), ("failure_category", .null)]

namespace ThreadService

def requireMutator (actor : AuthenticatedActor) : TableMethod Unit :=
  raiseIf (fun _ => actor.role ∉ threadMutatorRoles)
    fun _ => .permissionDenied "This membership cannot change Threads"

/-- `_require_thread` of `get_thread`. -/
def requireThread (actor : AuthenticatedActor) (threadId : UUID) :
    TableMethod AnalysisRunThread := do
  let tables ← self
  match tables.getThread threadId actor.organizationId with
  | some thread => pure thread
  | none => raise (.notFound "Thread was not found")

def requireVisible (actor : AuthenticatedActor) (threadId : UUID) : TableMethod Unit :=
  raiseIf (fun tables =>
      (tables.visibilityAndCreator threadId actor.organizationId).any fun visibility =>
        visibility.1 && decide (visibility.2 ≠ some actor.userId))
    fun _ => .notFound "Thread was not found"

def requireWritableProject (projectId organizationId : UUID) : TableMethod Unit := do
  let tables ← self
  match tables.getGroup projectId organizationId with
  | none => raise (.notFound "Group was not found")
  | some group =>
      if group.archivedAt.isSome then
        raise (.conflict "Archived Groups cannot accept Thread messages")
      else pure ()

/-- The thread, if the actor may see it. -/
def openThread (actor : AuthenticatedActor) (threadId : UUID) :
    TableMethod AnalysisRunThread := do
  let thread ← requireThread actor threadId
  requireVisible actor threadId
  pure thread

/-- The thread, if the actor may write in it. -/
def openWritable (actor : AuthenticatedActor) (threadId : UUID) :
    TableMethod AnalysisRunThread := do
  let thread ← openThread actor threadId
  requireWritableProject thread.projectId actor.organizationId
  if thread.status = .archived then
    raise (.conflict "Archived Threads cannot accept messages")
  else pure thread

section Turns

variable (env : ThreadEnvironment) (actor : AuthenticatedActor)

def feed (threadId : UUID) (kind : WorkFeedEventKind) (payload : Object) (occurredAt : Int)
    (eventId : UUID) : TableMethod Unit :=
  appendEvent {
    organizationId := actor.organizationId, threadId, kind, payload, occurredAt
    eventId := some eventId }

def postMessage (message : ThreadMessage) (eventId : UUID) : TableMethod Unit := do
  addMessage message
  feed actor message.threadId .messageAdded (messageEventPayload message) env.now eventId

def userMessage (threadId : UUID) (kind : ThreadMessageKind) (content : String) :
    Except ThreadError ThreadMessage :=
  ThreadMessage.create env.unicode (env.newId 0) threadId actor.organizationId
    (some actor.userId) kind content env.now

def routerMessages (thread : AnalysisRunThread) (routing : RoutingResult) :
    Except ThreadError (List ThreadMessage) :=
  match routing.clarification with
  | none => .ok []
  | some clarification => do
      let suggestions := PythonText.join "\n" (routing.suggestions.map ("- " ++ ·))
      let message ← ThreadMessage.create env.unicode (env.newId 2) thread.threadId
        thread.organizationId none .routerClarification
        (clarification ++ "\n" ++ suggestions) env.now
      pure [message]

/-- The router's clarification, posted: the first of its messages, with its feed event. -/
def clarify (thread : AnalysisRunThread) (routing : RoutingResult) :
    TableMethod (List ThreadMessage) := do
  let messages ← eval (routerMessages env thread routing)
  match messages with
  | [] => raise .index
  | message :: _ =>
      addMessage message
      let payload ← eval (routingEventPayload routing.disposition routing.suggestions.length)
      feed actor thread.threadId .routingClarification payload env.now (env.newId 3)
      pure messages

/-- An assistant's reply with its feed event, at the time of the reply. -/
def postReply (thread : AnalysisRunThread) (messageId eventId : UUID) (text : String)
    (routing : RoutingResult) : TableMethod ThreadMessage := do
  let message ← eval (ThreadMessage.create env.unicode messageId thread.threadId
    thread.organizationId none .assistantReply text env.replyNow)
  addMessage message
  let payload ← eval (routingEventPayload routing.disposition)
  feed actor thread.threadId .routingClarification payload env.replyNow eventId
  pure message

def conversationalReply (thread : AnalysisRunThread) (content : String)
    (routing : RoutingResult) : TableMethod ThreadMessage := do
  let text ← eval (env.reply content)
  postReply env actor thread (env.newId 2) (env.newId 3) text routing

/-- What a conversational turn does in its transaction: the messages it posts, and the
content whose reply is left to be streamed. -/
abbrev Conversing : Type :=
  AnalysisRunThread → String → RoutingResult → TableMethod (List ThreadMessage × Option String)

def replying : Conversing := fun thread content routing => do
  let message ← conversationalReply env actor thread content routing
  pure ([message], none)

/-- The reply is left to `_stream_conversational_turn`. -/
def streaming : Conversing := fun _ content _ => pure ([], some content)

/-- A new run of the thread, started, with its job and its events. -/
def queueRun (threadId : UUID) (created : Except AnalysisRunTransitionError AnalysisRun) :
    TableMethod AnalysisRun := do
  let run ← eval (created.mapError .run)
  match (AnalysisRun.start env.now).call run with
  | (.error error, _) => raise (.run error)
  | (.ok (), started) =>
      let job ← eval ((ExecutionJob.create (env.newId 4) actor.organizationId
        started.analysisRunId env.now).mapError .job)
      addRun threadId started
      addJob job
      enqueueEvents started.events
      pure started

/-- A turn as its transaction leaves it: the thread in memory, the message of the user, the
messages of the router or the assistant, the run, and what is to be streamed. -/
structure ThreadTurn where
  thread : AnalysisRunThread
  message : ThreadMessage
  replies : List ThreadMessage
  analysisRunId : Option UUID
  routing : RoutingResult
  conversationalContent : Option String

/-- `_apply_routing`, and `_apply_routing_streaming`: they differ in how they converse. -/
def applyRoutingWith (conversing : Conversing) (thread : AnalysisRunThread)
    (message : ThreadMessage) (routing : RoutingResult)
    (dataConnectionId : Option DataConnectionId) : TableMethod ThreadTurn := do
  match routing.disposition with
  | .notAnalytical =>
      let thread ← eval ({ thread with
        title := deterministicThreadTitle message.content }.activate env.now)
      saveThread thread
      let (replies, content) ← conversing thread message.content routing
      pure ⟨thread, message, replies, none, routing, content⟩
  | .resolved =>
      match routing.canonicalQuestion with
      | none => raise .assertion
      | some question =>
          let created := AnalysisRun.create (env.newId 2) actor.organizationId question env.now
            dataConnectionId none (some thread.threadId) (some 1) (some message.messageId)
          let run ← queueRun env actor thread.threadId created
          let thread ← eval ({ thread with
            title := deterministicThreadTitle question }.activate env.now)
          saveThread thread
          let payload ← eval (routingEventPayload routing.disposition)
          feed actor thread.threadId .routingResolved payload env.now (env.newId 3)
          feed actor thread.threadId .analysisRunQueued
            (analysisRunEventPayload run.analysisRunId "queued") env.now (env.newId 5)
          pure ⟨thread, message, [], some run.analysisRunId, routing, none⟩
  | .ambiguous | .unsupported =>
      let replies ← clarify env actor thread routing
      pure ⟨thread, message, replies, none, routing, none⟩

/-- A turn of a draft: a clarification of the question it was begun with. -/
def appendDraftWith (conversing : Conversing) (thread : AnalysisRunThread) (content : String)
    (routing : Option RoutingResult) : TableMethod ThreadTurn := do
  let message ← eval (userMessage env actor thread.threadId .userClarification content)
  let tables ← self
  let existing := tables.messagesForThread thread.threadId actor.organizationId
  let scope := sourceScope thread.sourceIds
  let routing ← match routing with
    | some routing => pure routing
    | none => eval (env.resolve (combinedQuestionText (existing ++ [message])) scope)
  let thread ← eval (thread.recordMessage env.now)
  postMessage env actor message (env.newId 1)
  let turn ← applyRoutingWith env actor conversing thread message routing scope
  saveThread turn.thread
  pure turn

/-- The words that refer to the question before. -/
def publishedReferences : List String := ["again", "latest", "re-run", "rerun", "same"]

/-- The routing of a follow-up: one that refers to a completed run asks its question
again. -/
def followUpRouting (latest : Option AnalysisRun) (message : ThreadMessage)
    (routing : RoutingResult) : RoutingResult :=
  match latest with
  | some run =>
      let normalized := env.casefold message.content
      if routing.disposition ≠ .resolved ∧
          (publishedReferences.any fun token => decide (PythonText.Occurs token normalized)) ∧
          run.status = .completed then
        { disposition := .resolved, scenarioKey := run.scenarioKey
          canonicalQuestion := some run.question }
      else routing
  | none => routing

/-- `_append_follow_up`, and the transaction of `_append_follow_up_streaming`: they differ in
how they converse.  The thread is the aggregate in memory. -/
def followUpWith (conversing : Conversing) (thread : AnalysisRunThread) (content : String) :
    TableMethod ThreadTurn := do
  let tables ← self
  let latest := tables.latestForThread thread.threadId actor.organizationId
  let message ← eval (userMessage env actor thread.threadId .userQuestion content)
  let resolved ← eval (env.resolve message.content (latest.bind AnalysisRun.dataConnectionId))
  let routing := followUpRouting env latest message resolved
  let thread ← eval (thread.recordMessage env.now)
  postMessage env actor message (env.newId 1)
  let (replies, runId, streamed) ← match routing.disposition with
    | .notAnalytical => do
        let (replies, streamed) ← conversing thread message.content routing
        pure (replies, latest.map AnalysisRun.analysisRunId, streamed)
    | .resolved =>
        match routing.canonicalQuestion with
        | none => raise .assertion
        | some question => do
            let created := AnalysisRun.create (env.newId 2) actor.organizationId question env.now
              (latest.bind AnalysisRun.dataConnectionId) none (some thread.threadId)
              (some (match latest with
                | some run => run.threadSequence.getD 0 + 1
                | none => 1))
              (some message.messageId) (latest.map AnalysisRun.analysisRunId)
            let run ← queueRun env actor thread.threadId created
            feed actor thread.threadId .analysisRunQueued
              (analysisRunEventPayload run.analysisRunId run.status.value
                (latest.map AnalysisRun.analysisRunId)) env.now (env.newId 5)
            pure ([], some run.analysisRunId, none)
    | .ambiguous | .unsupported => do
        let replies ← clarify env actor thread routing
        pure (replies, latest.map AnalysisRun.analysisRunId, none)
  saveThread thread
  pure ⟨thread, message, replies, runId, routing, streamed⟩

end Turns

/-- `ThreadAnalysisRunSummary`: the run, and what other tables hold of it. -/
structure ThreadAnalysisRunSummary where
  run : AnalysisRun
  readings : RunReadings
  canDecideApproval : Bool

/-- `ThreadDetail`; its messages are written by a user when they have an author. -/
structure ThreadDetail where
  thread : AnalysisRunThread
  messages : List ThreadMessage
  analysisRunId : Option UUID
  routing : Option RoutingResult
  canAppendMessage : Bool
  canArchive : Bool
  canRestore : Bool
  canDelete : Bool
  analysisRuns : List ThreadAnalysisRunSummary
  eventCursor : Nat
  canCancel : Bool
  canRetry : Bool
  usage : UsageSummary

def buildThreadDetail (thread : AnalysisRunThread) (messages : List ThreadMessage)
    (analysisRunId : Option UUID) (routing : Option RoutingResult) (actor : AuthenticatedActor)
    (analysisRuns : List ThreadAnalysisRunSummary := []) (eventCursor : Nat := 0)
    (usage : UsageSummary := {}) : ThreadDetail :=
  let canMutate : Bool := actor.role ∈ threadMutatorRoles
  let isArchived : Bool := thread.status = .archived
  let latest := analysisRuns.getLast?.map ThreadAnalysisRunSummary.run
  { thread, messages, analysisRunId, routing, analysisRuns, eventCursor, usage
    canAppendMessage := canMutate && !isArchived
    canArchive := canMutate && !isArchived
    canRestore := canMutate && isArchived
    canDelete := canMutate && decide (thread.status = .draft) && analysisRunId.isNone
    canCancel := canMutate && latest.any fun run => run.status ∉ terminalStatuses
    canRetry := canMutate && latest.any fun run => run.status ∈ [.failed, .cancelled] }

def ThreadTurn.detail (turn : ThreadTurn) (messages : List ThreadMessage)
    (actor : AuthenticatedActor) : ThreadDetail :=
  buildThreadDetail turn.thread messages turn.analysisRunId (some turn.routing) actor

/-- What is raised in a transaction is rolled back. -/
def transaction {α : Type} (m : TableMethod α) : TableMethod α := fun tables =>
  match m.call tables with
  | (.ok a, after) => (.ok a, after)
  | (.error error, _) => (.error error, tables)

theorem call_transaction {α : Type} (m : TableMethod α) (tables : ThreadTables) :
    (transaction m).call tables =
      match m.call tables with
      | (.ok a, after) => (.ok a, after)
      | (.error error, _) => (.error error, tables) := rfl

theorem transaction_ok {α : Type} {m : TableMethod α} {tables after : ThreadTables} {a : α} :
    (transaction m).call tables = (.ok a, after) ↔ m.call tables = (.ok a, after) := by
  rw [call_transaction]
  rcases m.call tables with ⟨_ | _, _⟩
  · simp
  · simp

theorem transaction_error {α : Type} {m : TableMethod α} {tables after : ThreadTables}
    {error : ThreadError} (h : m.call tables = (.error error, after)) :
    (transaction m).call tables = (.error error, tables) := by
  rw [call_transaction, h]

section Operations

variable (env : ThreadEnvironment) (actor : AuthenticatedActor)

def storedMessages (threadId : UUID) : TableMethod (List ThreadMessage) := do
  let tables ← self
  pure (tables.messagesForThread threadId actor.organizationId)

def append (threadId : UUID) (content : String) (routing : Option RoutingResult := none) :
    TableMethod ThreadDetail := do
  requireMutator actor
  let thread ← openWritable actor threadId
  let turn ←
    if thread.status = .active then followUpWith env actor (replying env actor) thread content
    else appendDraftWith env actor (replying env actor) thread content routing
  let messages ← storedMessages actor threadId
  pure (turn.detail messages actor)

def appendWorkflowReply (threadId : UUID) (content reply : String) :
    TableMethod ThreadDetail := do
  requireMutator actor
  let thread ← openWritable actor threadId
  let question ← eval (userMessage env actor threadId .userQuestion content)
  let answer ← eval (ThreadMessage.create env.unicode (env.newId 2) threadId
    actor.organizationId none .assistantReply reply env.now)
  let thread ← eval (thread.recordMessage env.now)
  postMessage env actor question (env.newId 1)
  postMessage env actor answer (env.newId 3)
  saveThread thread
  let messages ← storedMessages actor threadId
  pure (buildThreadDetail thread messages none none actor)

def changeStatus (threadId : UUID) (restore : Bool) : TableMethod ThreadDetail := do
  let thread ← openThread actor threadId
  if restore then requireWritableProject thread.projectId actor.organizationId else pure ()
  let thread := if restore then thread.restore env.now else thread.archive env.now
  saveThread thread
  let messages ← storedMessages actor threadId
  let tables ← self
  pure (buildThreadDetail thread messages
    (tables.analysisRunIdForThread threadId actor.organizationId) none actor)

def archive (threadId : UUID) : TableMethod ThreadDetail := do
  requireMutator actor
  changeStatus env actor threadId false

def restore (threadId : UUID) : TableMethod ThreadDetail := do
  requireMutator actor
  changeStatus env actor threadId true

/-- The transaction of `rename`. -/
def renameThread (threadId : UUID) (title : String) : TableMethod Unit := do
  requireMutator actor
  let thread ← openThread actor threadId
  let thread ← eval (thread.rename title env.now)
  saveThread thread

def delete (threadId : UUID) : TableMethod Unit := do
  requireMutator actor
  let thread ← openThread actor threadId
  let tables ← self
  let analysisRunId := tables.analysisRunIdForThread threadId actor.organizationId
  match thread.ensureDeletable analysisRunId.isSome with
  | .error (.transition text) => raise (.conflict text)
  | .error error => raise error
  | .ok () => deleteThread threadId actor.organizationId

/-- The first transaction: an active thread is handed on, and a turn of a draft is made. -/
def appendStreamingOpen (threadId : UUID) (content : String)
    (routing : Option RoutingResult := none) :
    TableMethod (AnalysisRunThread ⊕ ThreadTurn) := do
  requireMutator actor
  let thread ← openWritable actor threadId
  if thread.status = .active then pure (.inl thread)
  else do
    let turn ← appendDraftWith env actor (streaming) thread content routing
    pure (.inr turn)

/-- The transaction of `_append_follow_up_streaming`, on the thread that the first
transaction has read. -/
def appendFollowUpStreaming (thread : AnalysisRunThread) (content : String) :
    TableMethod ThreadTurn :=
  followUpWith env actor streaming thread content

/-- The transaction of `_stream_conversational_turn`, once the model has answered. -/
def persistReply (thread : AnalysisRunThread) (chunks : List String) (routing : RoutingResult) :
    TableMethod ThreadMessage :=
  postReply env actor thread (env.newId 6) (env.newId 7) (String.join chunks) routing

/-- `append_streaming`, when nothing comes between its transactions: the turn, and the reply
that has been streamed. -/
def appendStreaming (threadId : UUID) (content : String)
    (routing : Option RoutingResult := none) :
    TableMethod (ThreadTurn × Option (Except String ThreadMessage)) := do
  let opened ← transaction (appendStreamingOpen env actor threadId content routing)
  let turn ← match opened with
    | .inl thread => transaction (appendFollowUpStreaming env actor thread content)
    | .inr turn => pure turn
  match turn.conversationalContent.map env.replyStream with
  | none => pure (turn, none)
  | some (.error text) => pure (turn, some (.error text))
  | some (.ok chunks) => do
      let message ← transaction (persistReply env actor turn.thread chunks turn.routing)
      pure (turn, some (.ok message))

def get (threadId : UUID) : TableMethod ThreadDetail := do
  let thread ← openThread actor threadId
  let tables ← self
  let runs := tables.allForThread threadId actor.organizationId
  let summaries := runs.map fun run =>
    let readings := tables.readings run.analysisRunId
    { run, readings
      canDecideApproval := decide (actor.role = .owner ∨ actor.role = .admin) &&
        readings.approval.any fun approval => decide (approval.status = .pending) }
  let usages := summaries.map fun summary => summary.readings.usage
  pure (buildThreadDetail thread (tables.messagesForThread threadId actor.organizationId)
    (tables.analysisRunIdForThread threadId actor.organizationId) none actor summaries
    (tables.latestSequence threadId actor.organizationId)
    { inputTokens := (usages.map UsageSummary.inputTokens).sum
      outputTokens := (usages.map UsageSummary.outputTokens).sum
      costUsd := (usages.map UsageSummary.costUsd).sum
      latencyMs := (usages.map UsageSummary.latencyMs).sum })

/-- `rename`: the detail is read after the commit. -/
def rename (threadId : UUID) (title : String) : TableMethod ThreadDetail := do
  transaction (renameThread env actor threadId title)
  transaction (get actor threadId)

def events (threadId : UUID) (after limit : Int) : TableMethod (List ThreadEvent) := do
  raiseIf (fun _ => after < 0 ∨ limit < 1 ∨ 500 < limit)
    fun _ => .value "Work Feed cursor or limit is invalid"
  let _ ← requireThread actor threadId
  let tables ← self
  pure (tables.eventsAfter threadId actor.organizationId after.toNat limit.toNat)

def eventCursor (threadId : UUID) : TableMethod Nat := do
  let _ ← requireThread actor threadId
  let tables ← self
  pure (tables.latestSequence threadId actor.organizationId)

/-- `list`, given the cursor that it has decoded. -/
def list (projectId : UUID) (includeArchived : Bool := false) (limit : Int := 50)
    (after : Option ThreadCursor := none) : TableMethod ThreadPage := do
  raiseIf (fun _ => limit < 1 ∨ 100 < limit)
    fun _ => .value "Page size must be between 1 and 100"
  let tables ← self
  match tables.getGroup projectId actor.organizationId with
  | none => raise (.notFound "Group was not found")
  | some _ =>
      pure (listThreads tables {
        organizationId := actor.organizationId, projectId, viewerId := actor.userId
        includeArchived, limit := limit.toNat, after })

end Operations

end ThreadService

end Zentra
