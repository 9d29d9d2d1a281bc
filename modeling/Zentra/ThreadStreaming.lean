import Zentra.ThreadService

/-!
# Creating threads, and turns that are streamed

`create` and its streaming counterpart, and what `create_streaming` and `append_streaming`
yield.  A turn whose reply is conversational is committed without it; the reply has a
transaction of its own, once the model has finished.

* `streamTurn` — from the commit of a turn on, the same for both;
* `createStreaming`, `appendStreamingEvents` — the calls, when nothing comes between their
  transactions.
-/

open JsonDocument Raising Raising.Method

namespace Zentra.ThreadService

open ThreadRepository

variable (env : ThreadEnvironment) (actor : AuthenticatedActor)

def sourceIds : Option DataConnectionId → List UUID
  | none => []
  | some (.one id) => [id]
  | some (.many ids) => ids

/-- What the title of a new thread is made from: an empty question counts as none. -/
def titleSource (routing : RoutingResult) (message : ThreadMessage) : String :=
  match routing.canonicalQuestion with
  | some question => if question = "" then message.content else question
  | none => message.content

/-- The transaction of `create`. -/
def commitNew (conversing : Conversing) (thread : AnalysisRunThread) (message : ThreadMessage)
    (routing : RoutingResult) (dataConnectionId : Option DataConnectionId) :
    TableMethod ThreadTurn := do
  requireWritableProject thread.projectId actor.organizationId
  addThread thread
  postMessage env actor message (env.newId 1)
  applyRoutingWith env actor conversing thread message routing dataConnectionId

/-- `create` and `create_streaming` up to the end of that transaction: they differ in how they
converse. -/
def createWith (conversing : Conversing) (projectId : UUID) (content : String)
    (dataConnectionId : Option DataConnectionId) (routing : Option RoutingResult) :
    TableMethod ThreadTurn := do
  requireMutator actor
  let message ← eval (userMessage env actor (env.newId 8) .userQuestion content)
  let routing ← match routing with
    | some routing => pure routing
    | none => eval (env.resolve message.content dataConnectionId)
  let thread ← eval (AnalysisRunThread.create (env.newId 8) actor.organizationId projectId
    message.messageId (deterministicThreadTitle (titleSource routing message)) env.now
    (some actor.userId) (sourceIds dataConnectionId))
  commitNew env actor conversing thread message routing dataConnectionId

def create (projectId : UUID) (content : String) (dataConnectionId : Option DataConnectionId)
    (routing : Option RoutingResult := none) : TableMethod ThreadDetail := do
  let turn ← createWith env actor (replying env actor) projectId content dataConnectionId routing
  pure (turn.detail (turn.message :: turn.replies) actor)

inductive ThreadStreamEvent
  | routing (threadId messageId : UUID) (analysisRunId : Option UUID) (routing : RoutingResult)
  | delta (messageId : UUID) (text : String)
  | message (message : ThreadMessage)
  | error (text : String)
  | snapshot (detail : ThreadDetail)

/-- What is yielded once a turn is committed: its routing, the reply as it comes and as it is
stored, and the detail; `messages` are those that the turn has left. -/
def streamTurn (turn : ThreadTurn) (messages : List ThreadMessage) :
    TableMethod (List ThreadStreamEvent) :=
  let first := .routing turn.thread.threadId turn.message.messageId turn.analysisRunId
    turn.routing
  match turn.conversationalContent.map env.replyStream with
  | none => pure [first, .snapshot (turn.detail messages actor)]
  | some (.error text) => pure [first, .error text]
  | some (.ok chunks) => do
      let deltas := (chunks.filter (· ≠ "")).map (ThreadStreamEvent.delta (env.newId 6))
      let reply ← transaction (persistReply env actor turn.thread chunks turn.routing)
      pure (first :: deltas ++
        [.message reply, .snapshot (turn.detail (messages ++ [reply]) actor)])

def createStreaming (projectId : UUID) (content : String)
    (dataConnectionId : Option DataConnectionId) (routing : Option RoutingResult := none) :
    TableMethod (List ThreadStreamEvent) := do
  let turn ← transaction
    (createWith env actor streaming projectId content dataConnectionId routing)
  streamTurn env actor turn (turn.message :: turn.replies)

/-- `append_streaming`; the messages are read in the transaction of the turn. -/
def appendStreamingEvents (threadId : UUID) (content : String)
    (routing : Option RoutingResult := none) : TableMethod (List ThreadStreamEvent) := do
  let opened ← transaction (appendStreamingOpen env actor threadId content routing)
  let turn ← match opened with
    | .inl thread => transaction (appendFollowUpStreaming env actor thread content)
    | .inr turn => pure turn
  let messages ← storedMessages actor threadId
  streamTurn env actor turn messages

end Zentra.ThreadService
