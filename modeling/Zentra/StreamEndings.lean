import Zentra.PythonGenerator
import Zentra.StreamingAgreement

/-!
# How a streamed turn ends

`create_streaming` and `append_streaming` are generators: the routing comes first, once the
turn is committed, and then the reply as the model produces it.  Whatever happens from there on,
the caller should see one terminal event and no exception.

* `EndsInOrder` — the same of a call that has yielded its routing;
* `endsInOrder_iff` — it holds when the reply is accepted.
-/

open JsonDocument Raising Raising.Method TableRows PythonGenerator

namespace Zentra.ThreadService

open ThreadRepository ThreadTables

inductive StreamEnding
  | finished
  /-- an `Exception`, with its text -/
  | failed (text : String)
  /-- an exception that is none, as a cancellation is -/
  | cancelled
  deriving DecidableEq, Repr

/-- What the conversational port streams. -/
structure ReplyStream where
  chunks : List String
  ending : StreamEnding
  deriving DecidableEq, Repr

def ReplyStream.texts (stream : ReplyStream) : List String := stream.chunks.filter (· ≠ "")

inductive StreamFailure
  | thread (error : ThreadError)
  | database
  | cancelled

/-- What a streamed call finds around it: the port that streams replies, what other operations
leave between the transactions, and the commits that the database fails. -/
structure Surroundings extends ThreadEnvironment where
  stream : String → ReplyStream
  others : Nat → ThreadTables → ThreadTables
  commitFails : Nat → Bool

/-- A generator of the thread service. -/
abbrev Streaming : Type → Type := Generator ThreadTables ThreadStreamEvent StreamFailure

section Generators

variable (env : Surroundings) (actor : AuthenticatedActor)

/-- A unit of work with its commit; one that raises is rolled back. -/
def unitOfWork {α : Type} (number : Nat) (m : TableMethod α) :
    Method ThreadTables StreamFailure α := fun tables =>
  match m.call tables with
  | (.error error, _) => (.error (.thread error), tables)
  | (.ok a, after) => if env.commitFails number then (.error .database, tables) else (.ok a, after)

def streamConversationalTurn (turn : ThreadTurn) (content : String) : Streaming Unit := do
  let stream := env.stream content
  Generator.yieldAll (stream.texts.map (ThreadStreamEvent.delta (env.newId 6)))
  match stream.ending with
  | .failed text => Generator.yieldAll [.error text]
  | .cancelled => Generator.raise .cancelled
  | .finished => do
      let reply ← Generator.perform (unitOfWork env 2
        (persistReply env.toThreadEnvironment actor turn.thread stream.texts turn.routing))
      Generator.yieldAll [.message reply]

def ThreadStreamEvent.reply? : ThreadStreamEvent → Option ThreadMessage
  | .message stored => some stored
  | _ => none

def ThreadStreamEvent.deltaText? : ThreadStreamEvent → Option String
  | .delta _ text => some text
  | _ => none

def ThreadStreamEvent.isRouting : ThreadStreamEvent → Bool
  | .routing .. => true
  | _ => false

def ThreadStreamEvent.isError : ThreadStreamEvent → Bool
  | .error _ => true
  | _ => false

def ThreadStreamEvent.isSnapshot : ThreadStreamEvent → Bool
  | .snapshot _ => true
  | _ => false

/-- Both calls from the commit of the turn on. -/
def streamRest (turn : ThreadTurn) (messages : List ThreadMessage) : Streaming Unit := do
  Generator.yieldAll [.routing turn.thread.threadId turn.message.messageId turn.analysisRunId
    turn.routing]
  Generator.suspended (env.others 2)
  match turn.conversationalContent with
  | none => Generator.yieldAll [.snapshot (turn.detail messages actor)]
  | some content => do
      -- An error is the last event of the turn, and the stream ends with it.
      let events ← Generator.relay (streamConversationalTurn env actor turn content)
      if events.any ThreadStreamEvent.isError then pure ()
      else Generator.yieldAll [.snapshot
        (turn.detail (messages ++ events.filterMap ThreadStreamEvent.reply?) actor)]

/-- A turn of an append, with the messages that are read once it is made. -/
def withMessages {α : Type} (threadId : UUID) (m : TableMethod α) :
    TableMethod (α × List ThreadMessage) := do
  let a ← m
  let messages ← storedMessages actor threadId
  pure (a, messages)

/-- A call up to the commit of its turn; the turn comes with the messages that it shows. -/
def openTurn : ThreadPosting → Streaming (ThreadTurn × List ThreadMessage)
  | .create projectId content dataConnectionId routing => do
      let turn ← Generator.perform (unitOfWork env 0 (createWith env.toThreadEnvironment actor
        streaming projectId content dataConnectionId routing))
      pure (turn, turn.message :: turn.replies)
  | .append threadId content routing => do
      let opened ← Generator.perform (unitOfWork env 0 (withMessages actor threadId
        (appendStreamingOpen env.toThreadEnvironment actor threadId content routing)))
      match opened with
      | (.inr turn, messages) => pure (turn, messages)
      | (.inl thread, _) => do
          Generator.suspended (env.others 1)
          Generator.perform (unitOfWork env 1 (withMessages actor thread.threadId
            (appendFollowUpStreaming env.toThreadEnvironment actor thread content)))

/-- `create_streaming` and `append_streaming`. -/
def stream (posting : ThreadPosting) : Streaming Unit := do
  let (turn, messages) ← openTurn env actor posting
  streamRest env actor turn messages

end Generators

def ThreadStreamEvent.Terminal (event : ThreadStreamEvent) : Prop :=
  event.isError = true ∨ event.isSnapshot = true

/-- A reply is committed: its thread has it as one message more. -/
def Committed (found after : ThreadTables) (reply : ThreadMessage) : Prop :=
  ∃ rows, rowsOf reply.threadId found = some rows ∧
    rowsOf reply.threadId after = some (withRow reply rows)

/-- **A proper end** of a stream whose last transaction has found some tables. -/
structure Ends (unicode : UnicodeData) (found : ThreadTables)
    (run : Run ThreadTables ThreadStreamEvent StreamFailure Unit) : Prop where
  returns : run.outcome = .ok ()
  terminal : ∃ before last, run.yielded = before ++ [last] ∧ last.Terminal ∧
    ∀ event ∈ before, ¬ event.Terminal
  committed : ∀ reply, .message reply ∈ run.yielded ↔ Committed found run.state reply
  text : ∀ reply, .message reply ∈ run.yielded →
    normalizeMessageContent unicode
      (String.join (run.yielded.filterMap ThreadStreamEvent.deltaText?)) = .ok reply.content

/-- A reply is accepted: its stream fails with an `Exception`, or it is a message, its thread is
there, and the database commits it. -/
def AcceptsReply (env : Surroundings) (organizationId threadId : UUID) (found : ThreadTables)
    (reply : ReplyStream) : Prop :=
  match reply.ending with
  | .failed _ => True
  | .cancelled => False
  | .finished =>
      (∃ text, normalizeMessageContent env.unicode (String.join reply.texts) = .ok text) ∧
        (found.session threadId organizationId).isSome = true ∧ env.commitFails 2 = false

section Ending

variable {env : Surroundings} {actor : AuthenticatedActor} {turn : ThreadTurn}
  {messages : List ThreadMessage} {content : String} {found : ThreadTables}

theorem rowsOf_withReply {message : ThreadMessage} {call : AppendCall} {s : ChatSession}
    (hsession : found.session call.threadId call.organizationId = some s) (threadId : UUID) :
    rowsOf threadId (withReply message call found) =
      if threadId = call.threadId then (rowsOf threadId found).map (withRow message)
      else rowsOf threadId found := by
  by_cases hthread : threadId = call.threadId
  · subst hthread
    rw [if_pos rfl, rowsOf, withReply, part_updateSession_self hsession, part,
      (session_eq_some.1 hsession).1]
    split
    · rfl
    · rfl
  · rw [if_neg hthread, rowsOf, withReply, updateSession, hsession]
    exact congrArg (Option.map _) (Function.update_of_ne hthread _ _)

theorem withRow_ne (message : ThreadMessage) (rows : List MessageRow × Nat) :
    rows ≠ withRow message rows := by
  intro h
  have hlength := congrArg (fun rows => rows.1.length) h
  simp [withRow] at hlength

theorem committed_withReply_iff {message reply : ThreadMessage} {call : AppendCall}
    {s : ChatSession} (hsession : found.session call.threadId call.organizationId = some s)
    (hthread : message.threadId = call.threadId) :
    Committed found (withReply message call found) reply ↔ reply = message := by
  have hrows : ∀ threadId, rowsOf threadId (withReply message call found) = _ :=
    rowsOf_withReply hsession
  constructor
  · intro ⟨rows, hbefore, hafter⟩
    rw [hrows, hbefore] at hafter
    by_cases hsame : reply.threadId = call.threadId
    · rw [if_pos hsame, Option.map_some] at hafter
      have hrow := congrArg (fun rows => rows.1.getLast?) (Option.some.inj hafter)
      simp only [withRow, List.getLast?_concat, Option.some.injEq, MessageRow.mk.injEq] at hrow
      exact hrow.1.symm
    · rw [if_neg hsame] at hafter
      exact absurd (Option.some.inj hafter) (withRow_ne reply rows)
  · intro hreply
    subst hreply
    refine ⟨(s.messages, s.nextMessageSequence), ?_, ?_⟩
    · rw [hthread, rowsOf, part, (session_eq_some.1 hsession).1]
      rfl
    · rw [hrows, if_pos hthread, hthread, rowsOf, part, (session_eq_some.1 hsession).1]
      rfl

theorem not_committed (reply : ThreadMessage) : ¬ Committed found found reply := by
  intro ⟨rows, hbefore, hafter⟩
  exact withRow_ne reply rows (Option.some.inj (hbefore.symm.trans hafter))

theorem unitOfWork_raises {α : Type} {m : TableMethod α} {number : Nat} {error : ThreadError}
    {after : ThreadTables} (h : m.call found = (.error error, after)) :
    (unitOfWork env number m).call found = (.error (.thread error), found) := by
  show (match m.call found with
    | (.error error, _) => _
    | (.ok a, after) => _) = _
  rw [h]

theorem unitOfWork_returns {α : Type} {m : TableMethod α} {number : Nat} {a : α}
    {after : ThreadTables} (h : m.call found = (.ok a, after)) :
    (unitOfWork env number m).call found =
      if env.commitFails number then (.error .database, found) else (.ok a, after) := by
  show (match m.call found with
    | (.error error, _) => _
    | (.ok a, after) => _) = _
  rw [h]

def replyMessage (env : Surroundings) (thread : AnalysisRunThread) (content : String) :
    ThreadMessage where
  messageId := env.newId 6
  threadId := thread.threadId
  organizationId := thread.organizationId
  authorId := none
  kind := .assistantReply
  content := content
  createdAt := env.replyNow

theorem create_reply {text content : String} (thread : AnalysisRunThread)
    (h : normalizeMessageContent env.unicode text = .ok content) :
    ThreadMessage.create env.unicode (env.newId 6) thread.threadId thread.organizationId none
      .assistantReply text env.replyNow = .ok (replyMessage env thread content) := by
  rw [ThreadMessage.create, h]
  rfl

/-- **A reply that is accepted** is committed. -/
theorem persist_accepted {reply : ReplyStream}
    (horganization : turn.thread.organizationId = actor.organizationId)
    (hfinished : reply.ending = .finished)
    (h : AcceptsReply env actor.organizationId turn.thread.threadId found reply) :
    ∃ stored s, found.session turn.thread.threadId actor.organizationId = some s ∧
      stored.threadId = turn.thread.threadId ∧
      normalizeMessageContent env.unicode (String.join reply.texts) = .ok stored.content ∧
      (unitOfWork env 2 (persistReply env.toThreadEnvironment actor turn.thread reply.texts
        turn.routing)).call found =
        (.ok stored, withReply stored (replyCall env.toThreadEnvironment actor turn.thread
          turn.routing (env.newId 7)) found) := by
  rw [AcceptsReply, hfinished] at h
  obtain ⟨⟨text, htext⟩, hthere, hcommits⟩ := h
  obtain ⟨s, hs⟩ := Option.isSome_iff_exists.1 hthere
  have hcreate := create_reply turn.thread htext
  have hposted : (persistReply env.toThreadEnvironment actor turn.thread reply.texts
      turn.routing).call found = _ := call_postReply horganization hcreate (horganization ▸ hs)
  refine ⟨replyMessage env turn.thread text, s, hs, rfl, htext, ?_⟩
  rw [unitOfWork_returns hposted, hcommits]
  rfl

theorem persist_refused {reply : ReplyStream}
    (horganization : turn.thread.organizationId = actor.organizationId)
    (hfinished : reply.ending = .finished)
    (h : ¬ AcceptsReply env actor.organizationId turn.thread.threadId found reply) :
    ∃ failure, (unitOfWork env 2 (persistReply env.toThreadEnvironment actor turn.thread
      reply.texts turn.routing)).call found = (.error failure, found) := by
  rw [AcceptsReply, hfinished] at h
  rcases htext : normalizeMessageContent env.unicode (String.join reply.texts) with error | text
  · have hraises : (persistReply env.toThreadEnvironment actor turn.thread reply.texts
        turn.routing).call found = (.error error, found) := by
      rw [persistReply, postReply, ThreadMessage.create, htext]
      rfl
    exact ⟨_, unitOfWork_raises hraises⟩
  have hcreate := create_reply turn.thread htext
  cases hsession : found.session turn.thread.threadId turn.thread.organizationId with
  | none => exact ⟨_, unitOfWork_raises (call_postReply_absent hcreate hsession)⟩
  | some s =>
      have hposted : (persistReply env.toThreadEnvironment actor turn.thread reply.texts
          turn.routing).call found = _ := call_postReply horganization hcreate hsession
      have hfails : env.commitFails 2 = true := by
        by_contra hcommits
        refine h ⟨⟨text, htext⟩, ?_, Bool.eq_false_iff.2 hcommits⟩
        rw [← horganization, hsession]
        rfl
      refine ⟨.database, ?_⟩
      rw [unitOfWork_returns hposted, hfails]
      rfl

def deltas (env : Surroundings) (content : String) : List ThreadStreamEvent :=
  (env.stream content).texts.map (ThreadStreamEvent.delta (env.newId 6))

/-- The routing of a turn, as it is yielded. -/
def routingEvent (turn : ThreadTurn) : ThreadStreamEvent :=
  .routing turn.thread.threadId turn.message.messageId turn.analysisRunId turn.routing

theorem run_turn_failed {text : String} (hending : (env.stream content).ending = .failed text) :
    (streamConversationalTurn env actor turn content).run found =
      ⟨deltas env content ++ [.error text], .ok (), found⟩ := by
  unfold streamConversationalTurn
  dsimp only
  rw [hending]
  rfl

theorem run_turn_cancelled (hending : (env.stream content).ending = .cancelled) :
    (streamConversationalTurn env actor turn content).run found =
      ⟨deltas env content ++ [], .error .cancelled, found⟩ := by
  unfold streamConversationalTurn
  dsimp only
  rw [hending]
  rfl

theorem run_turn_finished {stored : ThreadMessage} {after : ThreadTables}
    (hending : (env.stream content).ending = .finished)
    (hcall : (unitOfWork env 2 (persistReply env.toThreadEnvironment actor turn.thread
      (env.stream content).texts turn.routing)).call found = (.ok stored, after)) :
    (streamConversationalTurn env actor turn content).run found =
      ⟨deltas env content ++ [.message stored], .ok (), after⟩ := by
  have hperformed := @Generator.run_perform _ ThreadStreamEvent _ _ _ _ _ _ hcall
  unfold streamConversationalTurn
  dsimp only
  rw [hending]
  dsimp only
  rw [Generator.run_yieldAll_bind, Generator.run_bind_returns hperformed]
  rfl

theorem run_turn_refused {failure : StreamFailure}
    (hending : (env.stream content).ending = .finished)
    (hcall : (unitOfWork env 2 (persistReply env.toThreadEnvironment actor turn.thread
      (env.stream content).texts turn.routing)).call found = (.error failure, found)) :
    (streamConversationalTurn env actor turn content).run found =
      ⟨deltas env content ++ [], .error failure, found⟩ := by
  have hperformed := @Generator.run_perform _ ThreadStreamEvent _ _ _ _ _ _ hcall
  unfold streamConversationalTurn
  dsimp only
  rw [hending]
  dsimp only
  rw [Generator.run_yieldAll_bind, Generator.run_bind_raises hperformed]
  rfl

variable {tables after : ThreadTables} {events : List ThreadStreamEvent}

theorem run_rest_whole (hcontent : turn.conversationalContent = none) :
    (streamRest env actor turn messages).run tables =
      ⟨[routingEvent turn, .snapshot (turn.detail messages actor)], .ok (),
        env.others 2 tables⟩ := by
  unfold streamRest
  rw [hcontent]
  rfl

theorem run_rest_raises {failure : StreamFailure} (hcontent : turn.conversationalContent = some content)
    (hrun : (streamConversationalTurn env actor turn content).run (env.others 2 tables) =
      ⟨events, .error failure, after⟩) :
    (streamRest env actor turn messages).run tables =
      ⟨[routingEvent turn] ++ events, .error failure, after⟩ := by
  unfold streamRest
  rw [hcontent]
  dsimp only
  rw [Generator.run_yieldAll_bind, Generator.run_suspended_bind,
    Generator.run_bind_raises (Generator.run_relay_raises hrun)]
  rfl

theorem run_rest_failed (hcontent : turn.conversationalContent = some content)
    (hrun : (streamConversationalTurn env actor turn content).run (env.others 2 tables) =
      ⟨events, .ok (), after⟩) (herror : events.any ThreadStreamEvent.isError = true) :
    (streamRest env actor turn messages).run tables =
      ⟨[routingEvent turn] ++ (events ++ []), .ok (), after⟩ := by
  unfold streamRest
  rw [hcontent]
  dsimp only
  rw [Generator.run_yieldAll_bind, Generator.run_suspended_bind,
    Generator.run_bind_returns (Generator.run_relay_returns hrun), if_pos herror]
  rfl

theorem run_rest_finished (hcontent : turn.conversationalContent = some content)
    (hrun : (streamConversationalTurn env actor turn content).run (env.others 2 tables) =
      ⟨events, .ok (), after⟩) (herror : ¬ events.any ThreadStreamEvent.isError = true) :
    (streamRest env actor turn messages).run tables =
      ⟨[routingEvent turn] ++ (events ++ [.snapshot
        (turn.detail (messages ++ events.filterMap ThreadStreamEvent.reply?) actor)]), .ok (),
        after⟩ := by
  unfold streamRest
  rw [hcontent]
  dsimp only
  rw [Generator.run_yieldAll_bind, Generator.run_suspended_bind,
    Generator.run_bind_returns (Generator.run_relay_returns hrun), if_neg herror]
  rfl

theorem not_terminal_of_mem {event : ThreadStreamEvent}
    (h : event ∈ routingEvent turn :: deltas env content) : ¬ event.Terminal := by
  unfold ThreadStreamEvent.Terminal
  obtain hrouting | hdelta := List.mem_cons.1 h
  · subst hrouting
    simp [routingEvent, ThreadStreamEvent.isError, ThreadStreamEvent.isSnapshot]
  · obtain ⟨text, -, hevent⟩ := List.mem_map.1 hdelta
    subst hevent
    simp [ThreadStreamEvent.isError, ThreadStreamEvent.isSnapshot]

theorem message_mem_iff {reply : ThreadMessage} {rest : List ThreadStreamEvent} :
    .message reply ∈ (routingEvent turn :: deltas env content) ++ rest ↔
      .message reply ∈ rest := by
  rw [List.mem_append]
  constructor
  · intro h
    obtain hfront | hrest := h
    · obtain hrouting | hdelta := List.mem_cons.1 hfront
      · cases hrouting
      · obtain ⟨text, -, hevent⟩ := List.mem_map.1 hdelta
        cases hevent
    · exact hrest
  · exact .inr

theorem deltaTexts_append (rest : List ThreadStreamEvent) :
    ((routingEvent turn :: deltas env content) ++ rest).filterMap ThreadStreamEvent.deltaText? =
      (env.stream content).texts ++ rest.filterMap ThreadStreamEvent.deltaText? := by
  have hdeltas : (deltas env content).filterMap ThreadStreamEvent.deltaText? =
      (env.stream content).texts := by
    rw [deltas, List.filterMap_map]
    exact List.filterMap_some
  rw [List.filterMap_append]
  show (deltas env content).filterMap _ ++ _ = _
  rw [hdeltas]

theorem any_isError_deltas (rest : List ThreadStreamEvent) :
    (deltas env content ++ rest).any ThreadStreamEvent.isError =
      rest.any ThreadStreamEvent.isError := by
  rw [List.any_append, deltas, List.any_map]
  simp [Function.comp_def, ThreadStreamEvent.isError]

/-- A stream without a reply that returns with a terminal event. -/
theorem ends_without_reply {front : List ThreadStreamEvent} {last : ThreadStreamEvent}
    (unicode : UnicodeData) (found : ThreadTables) (hfront : ∀ event ∈ front, ¬ event.Terminal)
    (hlast : last.Terminal) (hnone : ∀ reply, .message reply ∉ front ++ [last]) :
    Ends unicode found ⟨front ++ [last], .ok (), found⟩ := by
  refine ⟨rfl, ⟨front, last, rfl, hlast, hfront⟩, ?_, ?_⟩
  · intro reply
    exact iff_of_false (hnone reply) (not_committed reply)
  · intro reply hreply
    exact absurd hreply (hnone reply)

/-- **A turn that leaves nothing to stream** ends properly. -/
theorem ends_whole (hcontent : turn.conversationalContent = none) :
    Ends env.unicode (env.others 2 tables) ((streamRest env actor turn messages).run tables) := by
  rw [run_rest_whole hcontent]
  refine @ends_without_reply [routingEvent turn] _ _ _ ?_ (.inr rfl) ?_
  · intro event hevent
    exact @not_terminal_of_mem env turn "" event (List.mem_cons.2 (.inl (List.mem_singleton.1 hevent)))
  · intro reply hreply
    simp [routingEvent] at hreply

theorem ends_with_reply {stored : ThreadMessage} {call : AppendCall} {s : ChatSession}
    (hsession : found.session call.threadId call.organizationId = some s)
    (hthread : stored.threadId = call.threadId)
    (htext : normalizeMessageContent env.unicode (String.join (env.stream content).texts) =
      .ok stored.content) (detail : ThreadDetail) :
    Ends env.unicode found ⟨[routingEvent turn] ++ (deltas env content ++
      [ThreadStreamEvent.message stored] ++ [.snapshot detail]), .ok (),
        withReply stored call found⟩ := by
  have hevents : [routingEvent turn] ++ (deltas env content ++
      [ThreadStreamEvent.message stored] ++ [.snapshot detail]) =
      (routingEvent turn :: deltas env content) ++ [.message stored, .snapshot detail] := by
    rw [List.append_assoc]
    rfl
  have hreplies : ∀ reply, ThreadStreamEvent.message reply ∈
      (routingEvent turn :: deltas env content) ++ [.message stored, .snapshot detail] ↔
        reply = stored := by
    intro reply
    rw [message_mem_iff]
    simp
  rw [hevents]
  refine ⟨rfl, ⟨(routingEvent turn :: deltas env content) ++ [.message stored],
    .snapshot detail, ?_, .inr rfl, ?_⟩, ?_, ?_⟩
  · exact (List.append_assoc _ [_] [_]).symm
  · intro event hevent
    obtain hfront | hreply := List.mem_append.1 hevent
    · exact not_terminal_of_mem hfront
    · obtain rfl := List.mem_singleton.1 hreply
      simp [ThreadStreamEvent.Terminal, ThreadStreamEvent.isError, ThreadStreamEvent.isSnapshot]
  · intro reply
    exact (hreplies reply).trans (committed_withReply_iff hsession hthread).symm
  · intro reply hreply
    rw [(hreplies reply).1 hreply, deltaTexts_append]
    have hnone : [ThreadStreamEvent.message stored, .snapshot detail].filterMap
        ThreadStreamEvent.deltaText? = [] := rfl
    rw [hnone, List.append_nil]
    exact htext

/-- **A reply that is streamed** ends properly when it is accepted. -/
theorem ends_of_accepted (horganization : turn.thread.organizationId = actor.organizationId)
    (hcontent : turn.conversationalContent = some content)
    (h : AcceptsReply env actor.organizationId turn.thread.threadId (env.others 2 tables)
      (env.stream content)) :
    Ends env.unicode (env.others 2 tables) ((streamRest env actor turn messages).run tables) := by
  cases hending : (env.stream content).ending with
  | cancelled =>
      rw [AcceptsReply, hending] at h
      exact h.elim
  | failed text =>
      have herror : (deltas env content ++ [ThreadStreamEvent.error text]).any
          ThreadStreamEvent.isError = true := by
        rw [any_isError_deltas]
        rfl
      rw [run_rest_failed hcontent (run_turn_failed hending) herror, List.append_nil]
      refine @ends_without_reply (routingEvent turn :: deltas env content) _ _ _
        (fun event => not_terminal_of_mem) (.inl rfl) ?_
      intro reply hreply
      have hlast := message_mem_iff.1 hreply
      cases List.mem_singleton.1 hlast
  | finished =>
      obtain ⟨stored, s, hsession, hthread, htext, hcall⟩ :=
        persist_accepted horganization hending h
      have herror : ¬ (deltas env content ++ [ThreadStreamEvent.message stored]).any
          ThreadStreamEvent.isError = true := by
        rw [any_isError_deltas]
        exact Bool.false_ne_true
      rw [run_rest_finished hcontent (run_turn_finished hending hcall) herror]
      exact ends_with_reply hsession hthread htext _

theorem raises_of_not_accepted
    (horganization : turn.thread.organizationId = actor.organizationId)
    (hcontent : turn.conversationalContent = some content)
    (h : ¬ AcceptsReply env actor.organizationId turn.thread.threadId (env.others 2 tables)
      (env.stream content)) :
    ∃ failure, ((streamRest env actor turn messages).run tables).outcome = .error failure := by
  cases hending : (env.stream content).ending with
  | failed text =>
      rw [AcceptsReply, hending] at h
      exact absurd trivial h
  | cancelled =>
      rw [run_rest_raises hcontent (run_turn_cancelled hending)]
      exact ⟨_, rfl⟩
  | finished =>
      obtain ⟨failure, hcall⟩ := persist_refused horganization hending h
      rw [run_rest_raises hcontent (run_turn_refused hending hcall)]
      exact ⟨_, rfl⟩

end Ending

section Opening

variable {env : ThreadEnvironment} {actor : AuthenticatedActor} {thread : AnalysisRunThread}
  {turn : ThreadTurn} {tables after : ThreadTables}

/-- What a turn leaves to be streamed: the reply to a message that is not analytical. -/
def LeavesReply (turn : ThreadTurn) : Prop :=
  turn.conversationalContent =
    if turn.routing.disposition = .notAnalytical then some turn.message.content else none

theorem leavesReply_of_ne {turn : ThreadTurn} (hnone : turn.conversationalContent = none)
    (h : turn.routing.disposition ≠ .notAnalytical) : LeavesReply turn := by
  rw [LeavesReply, if_neg h, hnone]

theorem applyRouting_leavesReply (message : ThreadMessage) (routing : RoutingResult)
    (scope : Option DataConnectionId) :
    Triple (fun _ => True) (applyRoutingWith env actor streaming thread message routing scope)
      (fun turn _ => LeavesReply turn) fun _ _ => True := by
  unfold applyRoutingWith
  split
  next hdisposition =>
    refine triple_trivial.bind fun active => triple_trivial.bind fun _ => ?_
    exact triple_pure fun _ _ => (if_pos hdisposition).symm
  next hdisposition =>
    split
    · exact triple_raise fun _ _ => trivial
    · refine triple_trivial.bind fun run => triple_trivial.bind fun active =>
        triple_trivial.bind fun _ => triple_trivial.bind fun payload =>
          triple_trivial.bind fun _ => triple_trivial.bind fun _ => ?_
      exact triple_pure fun _ _ => leavesReply_of_ne rfl (by simp [hdisposition])
  next hdisposition =>
    refine triple_trivial.bind fun replies => ?_
    exact triple_pure fun _ _ => leavesReply_of_ne rfl (by simp [hdisposition])
  next hdisposition =>
    refine triple_trivial.bind fun replies => ?_
    exact triple_pure fun _ _ => leavesReply_of_ne rfl (by simp [hdisposition])

theorem leavesReply_saved {m : TableMethod Unit} :
    Triple (fun _ => LeavesReply turn) (m >>= fun _ => (pure turn : TableMethod ThreadTurn))
      (fun turn _ => LeavesReply turn) fun _ _ => True := by
  intro s hleaves
  have hpure : Triple (fun _ => True) (m >>= fun _ => (pure turn : TableMethod ThreadTurn))
      (fun turn _ => LeavesReply turn) fun _ _ => True :=
    triple_trivial.bind fun _ => triple_pure fun _ _ => hleaves
  exact hpure s trivial

theorem appendDraft_leavesReply (content : String) (given : Option RoutingResult) :
    Triple (fun _ => True) (appendDraftWith env actor streaming thread content given)
      (fun turn _ => LeavesReply turn) fun _ _ => True := by
  unfold appendDraftWith
  refine triple_trivial.bind fun message => triple_trivial.bind fun stored => ?_
  have hrouted : ∀ routing, Triple (fun _ => True) (do
      let thread' ← eval (thread.recordMessage env.now)
      postMessage env actor message (env.newId 1)
      let turn ← applyRoutingWith env actor streaming thread' message routing
        (sourceScope thread.sourceIds)
      saveThread turn.thread
      pure turn : TableMethod ThreadTurn) (fun turn _ => LeavesReply turn) fun _ _ => True := by
    intro routing
    refine triple_trivial.bind fun recorded => triple_trivial.bind fun _ => ?_
    exact (applyRouting_leavesReply message routing _).bind fun turn => leavesReply_saved
  cases given with
  | some routing => exact hrouted routing
  | none => exact triple_trivial.bind hrouted

theorem followUp_leavesReply (content : String) :
    Triple (fun _ => True) (followUpWith env actor streaming thread content)
      (fun turn _ => LeavesReply turn) fun _ _ => True := by
  unfold followUpWith
  refine triple_trivial.bind fun stored => triple_trivial.bind fun message =>
    triple_trivial.bind fun resolved => triple_trivial.bind fun recorded =>
      triple_trivial.bind fun _ => ?_
  dsimp only
  split
  next hdisposition =>
    show Triple (fun _ => True) (saveThread recorded >>= fun _ =>
      (pure ⟨recorded, message, [], _, _, some message.content⟩ : TableMethod ThreadTurn)) _ _
    exact triple_trivial.bind fun _ => triple_pure fun _ _ => (if_pos hdisposition).symm
  next hdisposition =>
    have hanalytical : ∀ run, LeavesReply ⟨recorded, message, [], run, followUpRouting env
        (stored.latestForThread thread.threadId actor.organizationId) message resolved, none⟩ :=
      fun run => leavesReply_of_ne rfl (by simp [hdisposition])
    split
    · exact triple_raise fun _ _ => trivial
    · refine triple_trivial.bind fun run => triple_trivial.bind fun _ => ?_
      show Triple (fun _ => True) (saveThread recorded >>= fun _ =>
        (pure ⟨recorded, message, [], _, _, none⟩ : TableMethod ThreadTurn)) _ _
      exact triple_trivial.bind fun _ => triple_pure fun _ _ => hanalytical _
  next hdisposition =>
    refine triple_trivial.bind fun replies => ?_
    show Triple (fun _ => True) (saveThread recorded >>= fun _ =>
      (pure ⟨recorded, message, replies, _, _, none⟩ : TableMethod ThreadTurn)) _ _
    refine triple_trivial.bind fun _ => ?_
    exact triple_pure fun _ _ => leavesReply_of_ne rfl (by simp [hdisposition])
  next hdisposition =>
    refine triple_trivial.bind fun replies => ?_
    show Triple (fun _ => True) (saveThread recorded >>= fun _ =>
      (pure ⟨recorded, message, replies, _, _, none⟩ : TableMethod ThreadTurn)) _ _
    refine triple_trivial.bind fun _ => ?_
    exact triple_pure fun _ _ => leavesReply_of_ne rfl (by simp [hdisposition])

theorem createWith_leavesReply (projectId : UUID) (content : String)
    (scope : Option DataConnectionId) (given : Option RoutingResult) :
    Triple (fun _ => True) (createWith env actor streaming projectId content scope given)
      (fun turn _ => LeavesReply turn) fun _ _ => True := by
  rw [createWith_eq]
  refine triple_trivial.bind fun _ => triple_trivial.bind fun message =>
    triple_trivial.bind fun routing => ?_
  unfold startThread
  generalize AnalysisRunThread.create (env.newId 8) actor.organizationId projectId
    message.messageId (deterministicThreadTitle (titleSource routing message)) env.now
    (some actor.userId) (sourceIds scope) = created
  refine triple_trivial.bind fun thread => ?_
  unfold commitNew
  refine triple_trivial.bind fun _ => triple_trivial.bind fun _ => triple_trivial.bind fun _ => ?_
  exact applyRouting_leavesReply message routing scope

end Opening

section Calls

variable (env : Surroundings) (actor : AuthenticatedActor) (posting : ThreadPosting)
  (tables : ThreadTables)

def foundByReply : ThreadTables := env.others 2 ((openTurn env actor posting).run tables).state

/-- Once a call has yielded its routing, its stream ends properly. -/
def EndsInOrder : Prop :=
  (∃ event ∈ ((stream env actor posting).run tables).yielded, event.isRouting = true) →
    Ends env.unicode (foundByReply env actor posting tables)
      ((stream env actor posting).run tables)

/-- **The condition.**  When the routing that is yielded is not analytical, the reply to the
message is accepted. -/
def RepliesAccepted : Prop :=
  ∀ turn messages, ((openTurn env actor posting).run tables).outcome = .ok (turn, messages) →
    turn.routing.disposition = .notAnalytical →
      AcceptsReply env actor.organizationId turn.thread.threadId
        (foundByReply env actor posting tables) (env.stream turn.message.content)

variable {env actor posting tables}

theorem unitOfWork_eq_ok {α : Type} {m : TableMethod α} {number : Nat} {a : α}
    {after : ThreadTables} (h : (unitOfWork env number m).call tables = (.ok a, after)) :
    m.call tables = (.ok a, after) := by
  rcases hm : m.call tables with ⟨error | b, between⟩
  · rw [unitOfWork_raises hm] at h
    cases h
  · rw [unitOfWork_returns hm] at h
    split at h
    · cases h
    · cases h
      rfl

theorem silent_openTurn : Generator.Silent (openTurn env actor posting) := by
  cases posting with
  | create => exact (Generator.silent_perform _).bind fun _ => Generator.silent_pure _
  | append =>
      refine (Generator.silent_perform _).bind fun opened => ?_
      obtain ⟨thread | turn, messages⟩ := opened
      · exact (Generator.silent_suspended _).bind fun _ => Generator.silent_perform _
      · exact Generator.silent_pure _

/-- **The turn that a call commits**: what it leaves to be streamed, and whose it is. -/
theorem openTurn_returns {turn : ThreadTurn} {messages : List ThreadMessage}
    (h : ((openTurn env actor posting).run tables).outcome = .ok (turn, messages)) :
    LeavesReply turn ∧ turn.thread.organizationId = actor.organizationId := by
  cases posting with
  | create projectId content scope given =>
      obtain ⟨items, created, after, hrun, hpure⟩ := Generator.outcome_bind_eq_ok.1 h
      have hcreated := unitOfWork_eq_ok (Generator.call_of_run_perform hrun)
      obtain ⟨rfl, -⟩ := Prod.mk.inj (Except.ok.inj hpure)
      exact ⟨(createWith_leavesReply projectId content scope given).returns trivial hcreated,
        (createWith_streamed hcreated).1⟩
  | append threadId content given =>
      obtain ⟨items, opened, after, hrun, hrest⟩ := Generator.outcome_bind_eq_ok.1 h
      have hopened := unitOfWork_eq_ok (Generator.call_of_run_perform hrun)
      obtain ⟨begun, between, hopen, hread⟩ := bind_returns.1 hopened
      obtain ⟨shown, read, -, hpair⟩ := bind_returns.1 hread
      cases hpair
      rw [appendStreamingOpen_eq] at hopen
      obtain ⟨thread, found, hfound, hturn⟩ := bind_returns.1 hopen
      obtain ⟨row, -, horganization, hthread⟩ := getThread_eq_some.1 (opening_returns hfound).2
      have hsame : thread.organizationId = actor.organizationId := by
        rw [hthread]
        exact horganization
      split at hturn
      next hactive =>
        cases hturn
        obtain ⟨_, _, resumed, _, hfollowed⟩ := Generator.outcome_bind_eq_ok.1 hrest
        have hcall := unitOfWork_eq_ok (Prod.ext hfollowed rfl)
        obtain ⟨made, _, hmade, hshown⟩ := bind_returns.1 hcall
        obtain ⟨_, _, -, hpair⟩ := bind_returns.1 hshown
        cases hpair
        have hstreamed : Streamed env.toThreadEnvironment actor thread content none _ turn _ :=
          followUp_streamed hactive hmade
        exact ⟨(followUp_leavesReply content).returns trivial hmade,
          hstreamed.organizationId.trans hsame⟩
      next hdraft =>
        obtain ⟨made, _, hmade, hpure⟩ := bind_returns.1 hturn
        cases hpure
        cases hrest
        exact ⟨(appendDraft_leavesReply content given).returns trivial hmade,
          (appendDraft_streamed hdraft hmade).organizationId.trans hsame⟩

theorem routing_mem_streamRest (turn : ThreadTurn) (messages : List ThreadMessage) :
    routingEvent turn ∈ ((streamRest env actor turn messages).run tables).yielded := by
  unfold streamRest
  rw [Generator.run_yieldAll_bind]
  exact List.mem_append_left _ (List.mem_singleton.2 rfl)

/-- **A streamed turn ends properly** exactly when its reply is accepted. -/
theorem endsInOrder_iff : EndsInOrder env actor posting tables ↔
    RepliesAccepted env actor posting tables := by
  rcases hopened : ((openTurn env actor posting).run tables).outcome with error | ⟨turn, messages⟩
  · have hnone : ((stream env actor posting).run tables).yielded = [] :=
      silent_openTurn.run_bind_raises hopened
    constructor
    · intro _ turn messages hturn
      rw [hopened] at hturn
      cases hturn
    · intro _ ⟨event, hevent, _⟩
      rw [hnone] at hevent
      cases hevent
  · obtain ⟨hleaves, horganization⟩ := openTurn_returns hopened
    have hrun : (stream env actor posting).run tables =
        (streamRest env actor turn messages).run ((openTurn env actor posting).run tables).state :=
      silent_openTurn.run_bind hopened
    have hrouted : ∃ event ∈ ((stream env actor posting).run tables).yielded,
        event.isRouting = true := by
      rw [hrun]
      exact ⟨_, routing_mem_streamRest turn messages, rfl⟩
    have hends : EndsInOrder env actor posting tables ↔
        Ends env.unicode (foundByReply env actor posting tables)
          ((streamRest env actor turn messages).run
            ((openTurn env actor posting).run tables).state) := by
      rw [← hrun]
      exact ⟨fun h => h hrouted, fun h _ => h⟩
    rw [hends]
    by_cases hdisposition : turn.routing.disposition = .notAnalytical
    · have hcontent := hleaves.trans (if_pos hdisposition)
      constructor
      · intro hproper turn' messages' hturn _
        obtain ⟨rfl, rfl⟩ := Prod.mk.inj (Except.ok.inj (hopened.symm.trans hturn))
        by_contra hrefused
        obtain ⟨failure, hraises⟩ := raises_of_not_accepted horganization hcontent hrefused
        exact absurd (hraises.symm.trans hproper.returns) (by simp)
      · intro haccepted
        exact ends_of_accepted horganization hcontent
          (haccepted turn messages hopened hdisposition)
    · have hcontent := hleaves.trans (if_neg hdisposition)
      refine iff_of_true (ends_whole hcontent) ?_
      intro turn' messages' hturn hnot
      obtain ⟨rfl, rfl⟩ := Prod.mk.inj (Except.ok.inj (hopened.symm.trans hturn))
      exact absurd hnot hdisposition

end Calls

/-- A port that streams nothing, and nobody else. -/
def silentPort : Surroundings where
  toThreadEnvironment := greetingPort
  stream := fun _ => ⟨[], .finished⟩
  others := fun _ tables => tables
  commitFails := fun _ => false

/-- **A reply without text** is refused after the routing has been yielded, and the refusal is
raised to the caller. -/
theorem silent_reply_raises :
    ((stream silentPort greeter (.append 7 "Good morning" none)).run
        (greeted 5)).yielded.map ThreadStreamEvent.isRouting = [true] ∧
      ((stream silentPort greeter (.append 7 "Good morning" none)).run
        (greeted 5)).outcome.isOk = false ∧
      ¬ EndsInOrder silentPort greeter (.append 7 "Good morning" none) (greeted 5) := by
  have hrouted : ((stream silentPort greeter (.append 7 "Good morning" none)).run
      (greeted 5)).yielded.map ThreadStreamEvent.isRouting = [true] := by decide +kernel
  have hraises : ((stream silentPort greeter (.append 7 "Good morning" none)).run
      (greeted 5)).outcome.isOk = false := by decide +kernel
  refine ⟨hrouted, hraises, ?_⟩
  intro hends
  have hmem : true ∈ ((stream silentPort greeter (.append 7 "Good morning" none)).run
      (greeted 5)).yielded.map ThreadStreamEvent.isRouting := by
    rw [hrouted]
    exact List.mem_singleton.2 rfl
  obtain ⟨event, hevent, hrouting⟩ := List.mem_map.1 hmem
  rw [(hends ⟨event, hevent, hrouting⟩).returns] at hraises
  cases hraises

end Zentra.ThreadService
