import Zentra.StreamedTurns

/-!
# Streamed calls and plain calls agree

`create_streaming` and `append_streaming` repeat `create` and `append`.  Without concurrent
operations both should leave the same tables, and the last event of the stream should be the
detail that the plain call returns.  The stream puts the reply behind the messages that were
read before it, and the plain call reads them in their order.

* `RepliesLast` — the condition: the clock at the reply is not behind any message of the thread;
* `streamed_agrees_iff` — exactly then, for every thread, actor, content and routing.
-/

open JsonDocument Raising Raising.Method TableRows

namespace Zentra.ThreadService

open ThreadRepository ThreadTables

/-- A call of `create` or `append`. -/
inductive ThreadPosting
  | create (projectId : UUID) (content : String) (dataConnectionId : Option DataConnectionId)
      (routing : Option RoutingResult)
  | append (threadId : UUID) (content : String) (routing : Option RoutingResult)
  deriving DecidableEq, Repr

/-- The identifiers of a streamed reply and its event are those that are given to a reply that
is posted at once. -/
def withStreamedIds (env : ThreadEnvironment) : ThreadEnvironment :=
  { env with
    newId := fun i => if i = 6 then env.newId 2 else if i = 7 then env.newId 3 else env.newId i }

theorem createWith_withStreamedIds (env : ThreadEnvironment) (actor : AuthenticatedActor)
    (conversing : Conversing) (projectId : UUID) (content : String)
    (dataConnectionId : Option DataConnectionId) (given : Option RoutingResult) :
    createWith (withStreamedIds env) actor conversing projectId content dataConnectionId given =
      createWith env actor conversing projectId content dataConnectionId given := by
  have hmessage : userMessage (withStreamedIds env) actor = userMessage env actor := rfl
  have hcommit : ∀ thread message routing,
      commitNew (withStreamedIds env) actor conversing thread message routing dataConnectionId =
        commitNew env actor conversing thread message routing dataConnectionId :=
    fun _ _ _ => rfl
  have hid : (withStreamedIds env).newId 8 = env.newId 8 := rfl
  have hnow : (withStreamedIds env).now = env.now := rfl
  have hresolve : (withStreamedIds env).resolve = env.resolve := rfl
  unfold createWith
  simp only [hmessage, hcommit, hid, hnow, hresolve]

variable (env : ThreadEnvironment) (actor : AuthenticatedActor)

def plain : ThreadPosting → TableMethod ThreadDetail
  | .create projectId content dataConnectionId routing =>
      transaction (create env actor projectId content dataConnectionId routing)
  | .append threadId content routing => transaction (append env actor threadId content routing)

def streamed : ThreadPosting → TableMethod (List ThreadStreamEvent)
  | .create projectId content dataConnectionId routing =>
      createStreaming env actor projectId content dataConnectionId routing
  | .append threadId content routing =>
      appendStreamingEvents env actor threadId content routing

/-- What the streamed call should do: where the plain call returns, it leaves the same tables and
ends with the same detail, and where that raises, so does it. -/
def Agrees (op : ThreadPosting) (tables : ThreadTables) : Prop :=
  match (plain env actor op).call tables with
  | (.ok detail, after) =>
      ∃ events, (streamed (withStreamedIds env) actor op).call tables = (.ok events, after) ∧
        events.getLast? = some (.snapshot detail)
  | (.error error, after) =>
      (streamed (withStreamedIds env) actor op).call tables = (.error error, after)

/-- **The condition.**  When an append that is not refused is conversational, the clock at the
reply is not behind a message of the thread, the one that is answered included. -/
def RepliesLast (tables : ThreadTables) (op : ThreadPosting) : Prop :=
  match op with
  | .create .. => True
  | .append threadId content given =>
      ((plain env actor op).call tables).1.isOk = true →
        ∀ thread ∈ tables.getThread threadId actor.organizationId, ∀ routing,
          turnRouting env actor tables thread content given = .ok routing →
            routing.disposition = .notAnalytical →
              env.now ≤ env.replyNow ∧
                ∀ message ∈ tables.messagesForThread threadId actor.organizationId,
                  message.createdAt ≤ env.replyNow

/-- The messages of the threads are numbered below the next number. -/
def Numbered (tables : ThreadTables) : Prop :=
  ∀ threadId s, tables.sessions threadId = some s →
    ∀ row ∈ s.messages, row.sequence < s.nextMessageSequence

section Calls

variable {env actor} {tables between after : ThreadTables} {left turn : ThreadTurn}
  {detail : ThreadDetail}

/-- How a streamed turn is completed: nothing was left of it, or the reply is posted. -/
inductive Completion (env : ThreadEnvironment) (actor : AuthenticatedActor) (left : ThreadTurn)
    (between : ThreadTables) : ThreadTurn → ThreadTables → Prop
  | whole (h : left.conversationalContent = none) : Completion env actor left between left between
  | reply {content : String} {chunks : List String} {message : ThreadMessage}
      (hcontent : left.conversationalContent = some content)
      (hchunks : env.replyStream content = .ok chunks)
      (hcreate : ThreadMessage.create env.unicode (env.newId 2) left.thread.threadId
        left.thread.organizationId none .assistantReply (String.join chunks) env.replyNow =
          .ok message)
      (hsession : (between.session left.thread.threadId left.thread.organizationId).isSome = true) :
      Completion env actor left between
        { left with replies := [message], conversationalContent := none }
        (withReply message (replyCall env actor left.thread left.routing (env.newId 3)) between)

/-- **A streamed turn is completed** when its thread is there. -/
theorem exists_completion (hport : StreamsReply env)
    (horganization : left.thread.organizationId = actor.organizationId)
    (hsession : (between.session left.thread.threadId actor.organizationId).isSome = true) :
    ∃ turn after, (completeTurn env actor left).call between = (.ok turn, after) ∧
      Completion env actor left between turn after := by
  cases hcontent : left.conversationalContent with
  | none => exact ⟨left, between, by rw [completeTurn_of_none hcontent]; rfl, .whole hcontent⟩
  | some content =>
      obtain ⟨chunks, message, hchunks, hreply, hcreate⟩ := exists_reply hport content left.thread
      rw [← horganization] at hsession
      obtain ⟨s, hs⟩ := Option.isSome_iff_exists.1 hsession
      exact ⟨_, _, call_completeTurn horganization hcontent hreply hcreate hs,
        .reply hcontent hchunks hcreate hsession⟩

/-- **The stream of a turn** ends with its detail: the messages that were read, and the reply
if one was left. -/
theorem call_streamTurn (horganization : left.thread.organizationId = actor.organizationId)
    (h : Completion env actor left between turn after) (messages : List ThreadMessage) :
    ∃ events, (streamTurn (withStreamedIds env) actor left messages).call between =
        (.ok events, after) ∧
      events.getLast? = some (.snapshot (turn.detail
        (messages ++ if left.conversationalContent.isSome then turn.replies else []) actor)) := by
  cases h with
  | whole hnone =>
      have hcall : (streamTurn (withStreamedIds env) actor left messages).call between =
          (.ok [.routing left.thread.threadId left.message.messageId left.analysisRunId left.routing,
            .snapshot (left.detail messages actor)], between) := by
        unfold streamTurn
        rw [hnone]
        rfl
      exact ⟨_, hcall, by simp [hnone]⟩
  | @reply content chunks message hcontent hchunks hcreate hsession =>
      obtain ⟨s, hs⟩ := Option.isSome_iff_exists.1 hsession
      have hposted : (transaction (persistReply (withStreamedIds env) actor left.thread chunks
          left.routing)).call between = (.ok message,
            withReply message (replyCall env actor left.thread left.routing (env.newId 3))
              between) :=
        transaction_ok.2 (call_postReply horganization hcreate hs)
      have hstream : left.conversationalContent.map (withStreamedIds env).replyStream =
          some (.ok chunks) := by
        rw [hcontent]
        exact congrArg some hchunks
      have hcall : (streamTurn (withStreamedIds env) actor left messages).call between =
          (.ok (.routing left.thread.threadId left.message.messageId left.analysisRunId
              left.routing ::
            (chunks.filter (· ≠ "")).map (ThreadStreamEvent.delta (env.newId 2)) ++
              [.message message, .snapshot (left.detail (messages ++ [message]) actor)]),
            withReply message (replyCall env actor left.thread left.routing (env.newId 3))
              between) := by
        unfold streamTurn
        dsimp only
        rw [hstream]
        dsimp only
        rw [call_bind, hposted]
        rfl
      refine ⟨_, hcall, ?_⟩
      rw [hcontent, List.getLast?_append]
      rfl

theorem agrees_iff_of_refused {op : ThreadPosting} {error : ThreadError}
    (hplain : (plain env actor op).call tables = (.error error, tables))
    (hstreamed : (streamed (withStreamedIds env) actor op).call tables = (.error error, tables)) :
    Agrees env actor op tables ↔ RepliesLast env actor tables op := by
  constructor
  · intro _
    cases op with
    | create => trivial
    | append =>
        intro hreturns
        rw [hplain] at hreturns
        cases hreturns
  · intro _
    rw [Agrees, hplain]
    exact hstreamed

theorem agrees_iff_of_returns {op : ThreadPosting} {messages shown : List ThreadMessage}
    {events : List ThreadStreamEvent}
    (hplain : (plain env actor op).call tables = (.ok (turn.detail messages actor), after))
    (hstreamed : (streamed (withStreamedIds env) actor op).call tables = (.ok events, after))
    (hlast : events.getLast? = some (.snapshot (turn.detail shown actor))) :
    Agrees env actor op tables ↔ shown = messages := by
  rw [Agrees, hplain]
  constructor
  · intro ⟨others, hothers, hsnapshot⟩
    have hsame : others = events := Except.ok.inj (Prod.mk.inj (hothers.symm.trans hstreamed)).1
    rw [hsame, hlast] at hsnapshot
    exact congrArg ThreadDetail.messages (ThreadStreamEvent.snapshot.inj
      (Option.some.inj hsnapshot))
  · intro hmessages
    exact ⟨events, hstreamed, by rw [hlast, hmessages]⟩

section Append

variable {threadId : UUID} {thread : AnalysisRunThread} {content : String}
  {given : Option RoutingResult}

variable (actor threadId) in
/-- The thread that is appended to. -/
def opening : TableMethod AnalysisRunThread := do
  requireMutator actor
  openWritable actor threadId

theorem opening_returns (h : (opening actor threadId).call tables = (.ok thread, after)) :
    after = tables ∧ tables.getThread threadId actor.organizationId = some thread := by
  rw [opening, requireMutator_bind_returns] at h
  obtain ⟨rfl, hthread, -⟩ := openWritable_returns h.2
  exact ⟨rfl, hthread⟩

/-- A plain append opens the thread, makes the turn, and reads the messages. -/
theorem append_eq : append env actor threadId content given = (do
    let thread ← opening actor threadId
    let turn ← turnOf env actor (replying env actor) thread content given
    let messages ← storedMessages actor threadId
    pure (turn.detail messages actor)) := by
  rw [opening, bind_bind]
  refine bind_congr fun _ => bind_congr fun thread => ?_
  unfold turnOf
  split
  · rfl
  · rfl

theorem appendStreamingOpen_eq : appendStreamingOpen env actor threadId content given = (do
    let thread ← opening actor threadId
    if thread.status = .active then pure (.inl thread)
    else do
      let turn ← appendDraftWith env actor streaming thread content given
      pure (.inr turn)) := by
  rw [opening, bind_bind]
  rfl

theorem call_appendStreamingEvents
    (hopen : (opening actor threadId).call tables = (.ok thread, tables))
    (hturn : (turnOf env actor streaming thread content given).call tables =
      (.ok left, between)) :
    (appendStreamingEvents (withStreamedIds env) actor threadId content given).call tables =
      (streamTurn (withStreamedIds env) actor left
        (between.messagesForThread threadId actor.organizationId)).call between := by
  unfold turnOf at hturn
  split at hturn
  next hactive =>
    have hopened : (appendStreamingOpen (withStreamedIds env) actor threadId content given).call
        tables = (.ok (.inl thread), tables) := by
      rw [appendStreamingOpen_eq, call_bind, hopen]
      dsimp only
      rw [if_pos hactive]
      rfl
    have hfollowed : (transaction (appendFollowUpStreaming (withStreamedIds env) actor thread
        content)).call tables = (.ok left, between) := transaction_ok.2 hturn
    unfold appendStreamingEvents
    rw [call_bind, transaction_ok.2 hopened]
    dsimp only
    rw [call_bind, hfollowed]
    rfl
  next hdraft =>
    have hopened : (appendStreamingOpen (withStreamedIds env) actor threadId content given).call
        tables = (.ok (.inr left), between) := by
      rw [appendStreamingOpen_eq, call_bind, hopen]
      dsimp only
      rw [if_neg hdraft, bind_returns]
      exact ⟨left, between, hturn, rfl⟩
    unfold appendStreamingEvents
    rw [call_bind, transaction_ok.2 hopened]
    rfl

theorem call_appendStreamingEvents_refused {error : ThreadError}
    (hopen : (opening actor threadId).call tables = (.ok thread, tables))
    (hturn : (turnOf env actor streaming thread content given).call tables =
      (.error error, between)) :
    (appendStreamingEvents (withStreamedIds env) actor threadId content given).call tables =
      (.error error, tables) := by
  unfold turnOf at hturn
  split at hturn
  next hactive =>
    have hopened : (appendStreamingOpen (withStreamedIds env) actor threadId content given).call
        tables = (.ok (.inl thread), tables) := by
      rw [appendStreamingOpen_eq, call_bind, hopen]
      dsimp only
      rw [if_pos hactive]
      rfl
    have hfollowed : (transaction (appendFollowUpStreaming (withStreamedIds env) actor thread
        content)).call tables = (.error error, tables) := transaction_error hturn
    unfold appendStreamingEvents
    rw [call_bind, transaction_ok.2 hopened]
    dsimp only
    rw [call_bind, hfollowed]
  next hdraft =>
    have hopened : (appendStreamingOpen (withStreamedIds env) actor threadId content given).call
        tables = (.error error, between) := by
      rw [appendStreamingOpen_eq, call_bind, hopen]
      dsimp only
      rw [if_neg hdraft]
      exact bind_raises hturn _
    unfold appendStreamingEvents
    rw [call_bind, transaction_error hopened]

theorem messages_withReply {rows : List MessageRow × Nat} (message : ThreadMessage)
    (routing : RoutingResult) (horganization : thread.organizationId = actor.organizationId)
    (hsession : (between.session thread.threadId thread.organizationId).isSome = true)
    (hrows : rowsOf thread.threadId between = some rows) :
    (withReply message (replyCall env actor thread routing (env.newId 3)) between).messagesForThread
      thread.threadId actor.organizationId = listed (rows.1 ++ [⟨message, rows.2⟩]) := by
  obtain ⟨s, hs⟩ := Option.isSome_iff_exists.1 hsession
  have hbefore : rowsOf thread.threadId between = some (s.messages, s.nextMessageSequence) := by
    rw [rowsOf, part, (session_eq_some.1 hs).1]
    rfl
  obtain rfl := Option.some.inj (hbefore.symm.trans hrows)
  rw [← horganization]
  refine messagesForThread_eq (s.messages ++ [⟨message, s.nextMessageSequence⟩],
    s.nextMessageSequence + 1) ?_ ?_
  · have hstays := session_withReply message
      (replyCall env actor thread routing (env.newId 3)) between
    dsimp only [replyCall] at hstays ⊢
    rw [← horganization] at hstays ⊢
    rw [hstays, hs]
    rfl
  · rw [horganization] at hs
    rw [rowsOf, withReply]
    refine (part_updateSession_self hs).trans ?_
    split
    · rfl
    · rfl

theorem listed_reply_iff (rows : List MessageRow × Nat) {question reply : ThreadMessage}
    (hnumbers : ∀ row ∈ rows.1, row.sequence < rows.2) :
    listed ((withRow question rows).1 ++ [⟨reply, (withRow question rows).2⟩]) =
        listed (withRow question rows).1 ++ [reply] ↔
      question.createdAt ≤ reply.createdAt ∧
        ∀ message ∈ listed rows.1, message.createdAt ≤ reply.createdAt := by
  have hbelow : ∀ row ∈ (withRow question rows).1, row.sequence ≤ rows.2 + 1 := by
    intro row hrow
    obtain hold | hnew := List.mem_append.1 hrow
    · have hless := hnumbers row hold
      omega
    · obtain rfl := List.mem_singleton.1 hnew
      exact Nat.le_succ _
  have hmem : ∀ message, message ∈ listed rows.1 ↔ ∃ row ∈ rows.1, row.message = message := by
    intro message
    simp only [listed, List.mem_map, mem_orderedBy]
  have hlisted := listed_concat_iff ⟨reply, (withRow question rows).2⟩ hbelow
  refine hlisted.trans ?_
  constructor
  · intro h
    refine ⟨h ⟨question, rows.2⟩ (by simp [withRow]), fun message hmessage => ?_⟩
    obtain ⟨row, hrow, rfl⟩ := (hmem message).1 hmessage
    exact h row (List.mem_append_left _ hrow)
  · intro hearlier row hrow
    obtain ⟨hquestion, hothers⟩ := hearlier
    obtain hold | hnew := List.mem_append.1 hrow
    · exact hothers row.message ((hmem _).2 ⟨row, hold, rfl⟩)
    · obtain rfl := List.mem_singleton.1 hnew
      exact hquestion

theorem createdAt_of_create {unicode : UnicodeData} {messageId threadId organizationId : UUID}
    {authorId : Option UUID} {kind : ThreadMessageKind} {content : String} {now : Int}
    {message : ThreadMessage}
    (h : ThreadMessage.create unicode messageId threadId organizationId authorId kind content now =
      .ok message) : message.createdAt = now := by
  obtain ⟨text, -, hmessage⟩ := bind_eq_ok.1 h
  cases hmessage
  rfl

theorem session_of_getThread {organizationId : UUID}
    (h : tables.getThread threadId organizationId = some thread) :
    ∃ s, tables.session threadId organizationId = some s := by
  obtain ⟨s, hs, -⟩ := Option.map_eq_some_iff.1 h
  exact ⟨s, hs⟩

/-- The messages of a turn that returns: those that were read and the reply are all of them exactly
when the reply comes last. -/
theorem append_messages_iff (hnumbered : Numbered tables)
    (hthread : tables.getThread threadId actor.organizationId = some thread)
    (hleft : (turnOf env actor streaming thread content given).call tables = (.ok left, between))
    (hcompletion : Completion env actor left between turn after) :
    between.messagesForThread threadId actor.organizationId ++
        (if left.conversationalContent.isSome then turn.replies else []) =
          after.messagesForThread threadId actor.organizationId ↔
      (left.routing.disposition = .notAnalytical → env.now ≤ env.replyNow ∧
        ∀ message ∈ tables.messagesForThread threadId actor.organizationId,
          message.createdAt ≤ env.replyNow) := by
  obtain ⟨row, hrow, hrowOrganization, hsame⟩ := getThread_eq_some.1 hthread
  have hid : thread.threadId = threadId := by rw [hsame]
  have horganization : thread.organizationId = actor.organizationId := by
    rw [hsame]
    exact hrowOrganization
  have hstreamed := turnOf_streamed hleft
  have hleftOrganization : left.thread.organizationId = actor.organizationId :=
    hstreamed.organizationId.trans horganization
  cases hcompletion with
  | whole hnone =>
      -- nothing is left, so the messages that were read are all of them
      simp only [hnone, Option.isSome_none, Bool.false_eq_true, if_false, List.append_nil, true_iff]
      intro hdisposition
      have hleftover := hstreamed.left.2 hdisposition
      rw [hnone] at hleftover
      cases hleftover
  | @reply content' chunks message hcontent hchunks hcreate hsession =>
      have hleftover : left.conversationalContent.isSome = true := by rw [hcontent]; rfl
      have hdisposition := hstreamed.left.1 hleftover
      have hcreated : message.createdAt = env.replyNow := createdAt_of_create hcreate
      obtain ⟨s, hs⟩ := session_of_getThread hthread
      have hfound : rowsOf thread.threadId tables = some (s.messages, s.nextMessageSequence) := by
        rw [rowsOf, part, hid, (session_eq_some.1 hs).1]
        rfl
      have hrows := hstreamed.rows hdisposition
      rw [hfound, Option.map_some, ← hstreamed.threadId] at hrows
      have hleftId : left.thread.threadId = threadId := hstreamed.threadId.trans hid
      have hread : between.messagesForThread threadId actor.organizationId =
          listed (withRow left.message (s.messages, s.nextMessageSequence)).1 := by
        rw [hleftOrganization, hleftId] at hsession
        rw [hleftId] at hrows
        exact messagesForThread_eq _ hsession hrows
      have hposted : (withReply message (replyCall env actor left.thread left.routing
          (env.newId 3)) between).messagesForThread left.thread.threadId actor.organizationId = _ :=
        messages_withReply message left.routing hleftOrganization hsession hrows
      rw [hleftId] at hposted
      have hbefore : tables.messagesForThread threadId actor.organizationId =
          listed s.messages := by
        unfold messagesForThread
        rw [hs]
        rfl
      have hnumbers := hnumbered threadId s (session_eq_some.1 hs).1
      rw [if_pos hleftover, hposted, hread, eq_comm]
      refine (listed_reply_iff (s.messages, s.nextMessageSequence) hnumbers).trans ?_
      rw [hcreated, hstreamed.message, ← hbefore]
      constructor
      · intro hearlier _
        exact hearlier
      · intro hearlier
        exact hearlier hdisposition

/-- **An append** agrees exactly when its reply comes last. -/
theorem append_agrees_iff (hport : StreamsReply env) (hnumbered : Numbered tables) :
    Agrees env actor (.append threadId content given) tables ↔
      RepliesLast env actor tables (.append threadId content given) := by
  rcases hopened : (opening actor threadId).call tables with ⟨error | thread, opened⟩
  · have hplain : (append env actor threadId content given).call tables =
        (.error error, opened) := by
      rw [append_eq]
      exact bind_raises hopened _
    have hrefused : (appendStreamingOpen (withStreamedIds env) actor threadId content given).call
        tables = (.error error, opened) := by
      rw [appendStreamingOpen_eq]
      exact bind_raises hopened _
    exact agrees_iff_of_refused (transaction_error hplain)
      (bind_raises (transaction_error hrefused) _)
  obtain ⟨rfl, hthread⟩ := opening_returns hopened
  have hrest : (append env actor threadId content given).call opened =
      (turnOf env actor (replying env actor) thread content given >>= fun turn => do
        let messages ← storedMessages actor threadId
        pure (turn.detail messages actor)).call opened := by
    rw [append_eq, call_bind, hopened]
  obtain ⟨row, hrow, hrowOrganization, hsame⟩ := getThread_eq_some.1 hthread
  have horganization : thread.organizationId = actor.organizationId := by
    rw [hsame]
    exact hrowOrganization
  have hcompletes := turnOf_completes hport horganization content given opened
  rcases hleft : (turnOf env actor streaming thread content given).call opened with
    ⟨error | left, between⟩
  · rw [transaction_error (bind_raises hleft _)] at hcompletes
    obtain ⟨refused, hrefused, -⟩ := transaction_eq_error.1 hcompletes.symm
    exact agrees_iff_of_refused (transaction_error (hrest.trans (bind_raises hrefused _)))
      (call_appendStreamingEvents_refused hopened hleft)
  have hstreamed := turnOf_streamed hleft
  have hleftOrganization : left.thread.organizationId = actor.organizationId :=
    hstreamed.organizationId.trans horganization
  have hthere : (between.session left.thread.threadId actor.organizationId).isSome = true := by
    rw [hstreamed.threadId]
    exact Option.isSome_iff_exists.2 (turnOf_there converses_streaming hthread hleft)
  obtain ⟨turn, after, hcomplete, hcompletion⟩ := exists_completion hport hleftOrganization hthere
  have hturn : (turnOf env actor (replying env actor) thread content given).call opened =
      (.ok turn, after) := by
    rw [transaction_ok.2 (bind_returns.2 ⟨left, between, hleft, hcomplete⟩)] at hcompletes
    exact transaction_ok.1 hcompletes.symm
  have hplain : (plain env actor (.append threadId content given)).call opened =
      (.ok (turn.detail (after.messagesForThread threadId actor.organizationId) actor), after) :=
    transaction_ok.2 (hrest.trans (bind_returns.2 ⟨turn, after, hturn, rfl⟩))
  obtain ⟨events, hevents, hlast⟩ := call_streamTurn hleftOrganization hcompletion
    (between.messagesForThread threadId actor.organizationId)
  rw [← call_appendStreamingEvents hopened hleft] at hevents
  refine (agrees_iff_of_returns hplain hevents hlast).trans
    ((append_messages_iff hnumbered hthread hleft hcompletion).trans ?_)
  constructor
  · intro hearlier _ other hother routing hrouting hdisposition
    obtain rfl := Option.some.inj (hthread.symm.trans hother)
    obtain rfl := Except.ok.inj (hstreamed.routing.symm.trans hrouting)
    exact hearlier hdisposition
  · intro hlasts hdisposition
    have hreturns : ((plain env actor (.append threadId content given)).call opened).1.isOk =
        true := by
      rw [hplain]
      rfl
    exact hlasts hreturns thread hthread left.routing hstreamed.routing hdisposition

end Append

section Create

variable {projectId : UUID} {content : String} {dataConnectionId : Option DataConnectionId}
  {given : Option RoutingResult}

theorem session_isSome_of_savedOver {threadId organizationId : UUID} {saved : AnalysisRunThread}
    (h : savedOver threadId saved after = savedOver threadId saved tables) :
    (after.session threadId organizationId).isSome =
      (tables.session threadId organizationId).isSome := by
  have horganizations := congrArg (Option.map AnalysisRunThread.organizationId) h
  simp only [savedOver_eq, Option.map_map, Function.comp_def, AnalysisRunThread.savedAs]
    at horganizations
  rw [Bool.eq_iff_iff, session_isSome_iff, session_isSome_iff]
  simp only [← Option.map_eq_some_iff, horganizations]

theorem newThread_eq_ok {threadId organizationId projectId initiatingMessageId : UUID}
    {title : String} {now : Int} {createdBy : Option UUID} {sourceIds : List UUID}
    {thread : AnalysisRunThread}
    (h : AnalysisRunThread.create threadId organizationId projectId initiatingMessageId title now
      createdBy sourceIds = .ok thread) :
    thread.threadId = threadId ∧ thread.organizationId = organizationId ∧
      thread.status ≠ .archived := by
  obtain ⟨normalized, -, hthread⟩ := bind_eq_ok.1 h
  obtain rfl := Except.ok.inj hthread
  exact ⟨rfl, rfl, by simp⟩

theorem commitNew_streamed {thread : AnalysisRunThread} {message : ThreadMessage}
    {routing : RoutingResult} (hwritable : thread.status ≠ .archived)
    (hid : message.threadId = thread.threadId)
    (horganization : message.organizationId = thread.organizationId)
    (h : (commitNew env actor streaming thread message routing dataConnectionId).call tables =
      (.ok left, between)) :
    left.thread.organizationId = thread.organizationId ∧
      (between.session left.thread.threadId thread.organizationId).isSome = true ∧
        (left.conversationalContent.isSome = true → left.replies = []) := by
  obtain ⟨⟨⟩, opened, -, h⟩ := bind_returns.1 h
  obtain ⟨⟨⟩, added, -, h⟩ := bind_returns.1 h
  obtain ⟨⟨⟩, posted, hposted, hrouted⟩ := bind_returns.1 h
  have hturned : Turned thread left :=
    (applyRoutingWith_turned hwritable).returns trivial hrouted
  obtain ⟨-, -, hleft, hreplies⟩ :=
    applyRouting_streamed thread.threadId hrouted
  have hkept : savedOver thread.threadId left.thread between =
      savedOver thread.threadId left.thread added :=
    ((keeps_applyRoutingWith converses_streaming _).returns hrouted).trans
      (((onlyAdds_postMessage _ _).savedOver _).returns hposted)
  have hsession := (postMessage_returns hposted).1
  rw [hid, horganization, ← session_isSome_of_savedOver hkept] at hsession
  refine ⟨hturned.organizationId, ?_, fun hleftover => (hreplies (hleft.1 hleftover)).1⟩
  rw [hturned.threadId]
  exact hsession

/-- The thread of a message whose routing is known, with its first turn. -/
def startThread (env : ThreadEnvironment) (actor : AuthenticatedActor) (projectId : UUID)
    (dataConnectionId : Option DataConnectionId) (message : ThreadMessage)
    (routing : RoutingResult) : TableMethod ThreadTurn :=
  eval (AnalysisRunThread.create (env.newId 8) actor.organizationId projectId message.messageId
    (deterministicThreadTitle (titleSource routing message)) env.now (some actor.userId)
    (sourceIds dataConnectionId)) >>= fun thread =>
      commitNew env actor streaming thread message routing dataConnectionId

theorem createWith_eq : createWith env actor streaming projectId content dataConnectionId given =
    (do
      requireMutator actor
      let message ← eval (userMessage env actor (env.newId 8) .userQuestion content)
      let routing ← eval (match given with
        | some routing => .ok routing
        | none => env.resolve message.content dataConnectionId)
      startThread env actor projectId dataConnectionId message routing) := by
  unfold createWith
  have hgiven : ∀ routing : RoutingResult,
      (pure routing : TableMethod RoutingResult) = eval (.ok routing) := fun _ => rfl
  cases given with
  | some routing => simp only [hgiven, startThread]
  | none => simp only [startThread]

theorem createWith_streamed
    (h : (createWith env actor streaming projectId content dataConnectionId given).call tables =
      (.ok left, between)) :
    left.thread.organizationId = actor.organizationId ∧
      (between.session left.thread.threadId actor.organizationId).isSome = true ∧
        (left.conversationalContent.isSome = true → left.replies = []) := by
  rw [createWith_eq, requireMutator_bind_returns, eval_bind_returns] at h
  obtain ⟨-, message, hmessage, h⟩ := h
  obtain ⟨hid, hmessageOrganization, -⟩ := userMessage_eq_ok hmessage
  rw [eval_bind_returns] at h
  obtain ⟨routing, -, h⟩ := h
  unfold startThread at h
  generalize hcreated : AnalysisRunThread.create (env.newId 8) actor.organizationId projectId
    message.messageId (deterministicThreadTitle (titleSource routing message)) env.now
    (some actor.userId) (sourceIds dataConnectionId) = created at h
  obtain ⟨thread, hthread, hcommit⟩ := eval_bind_returns.1 h
  obtain ⟨hthreadId, horganization, hwritable⟩ := newThread_eq_ok (hcreated.trans hthread)
  rw [← horganization]
  exact commitNew_streamed hwritable (hid.trans hthreadId.symm)
    (hmessageOrganization.trans horganization.symm) hcommit

/-- **A creation** agrees. -/
theorem create_agrees_iff (hport : StreamsReply env) :
    Agrees env actor (.create projectId content dataConnectionId given) tables ↔
      RepliesLast env actor tables (.create projectId content dataConnectionId given) := by
  have hcompletes : (createWith env actor streaming projectId content dataConnectionId given >>=
      completeTurn env actor).call tables =
      (createWith env actor (replying env actor) projectId content dataConnectionId given).call
        tables :=
    congrArg (fun m => m.call tables) (createWith_completes projectId content dataConnectionId given)
  rcases hleft : (createWith env actor streaming projectId content dataConnectionId
    given).call tables with ⟨error | left, between⟩
  · have hrefused : (createWith env actor (replying env actor) projectId content dataConnectionId
        given).call tables = (.error error, between) :=
      hcompletes.symm.trans (bind_raises hleft _)
    rw [← createWith_withStreamedIds] at hleft
    exact agrees_iff_of_refused (transaction_error (bind_raises hrefused _))
      (bind_raises (transaction_error hleft) _)
  obtain ⟨horganization, hthere, hreplies⟩ := createWith_streamed hleft
  obtain ⟨turn, after, hcomplete, hcompletion⟩ := exists_completion hport horganization hthere
  have hturn : (createWith env actor (replying env actor) projectId content dataConnectionId
      given).call tables = (.ok turn, after) :=
    hcompletes.symm.trans (bind_returns.2 ⟨left, between, hleft, hcomplete⟩)
  have hplain : (plain env actor (.create projectId content dataConnectionId given)).call tables =
      (.ok (turn.detail (turn.message :: turn.replies) actor), after) :=
    transaction_ok.2 (bind_returns.2 ⟨turn, after, hturn, rfl⟩)
  obtain ⟨events, hevents, hlast⟩ := call_streamTurn horganization hcompletion
    (left.message :: left.replies)
  have hstreamed : (streamed (withStreamedIds env) actor
      (.create projectId content dataConnectionId given)).call tables = (.ok events, after) := by
    rw [← createWith_withStreamedIds] at hleft
    exact bind_returns.2 ⟨left, between, transaction_ok.2 hleft, hevents⟩
  refine (agrees_iff_of_returns hplain hstreamed hlast).trans (iff_of_true ?_ trivial)
  cases hcompletion with
  | whole hnone => simp [hnone]
  | reply hcontent =>
      rw [hreplies (by rw [hcontent]; rfl), hcontent]
      rfl

end Create

/-- **Streamed and plain calls agree** exactly when no message of the thread is later than the
reply. -/
theorem streamed_agrees_iff (hport : StreamsReply env) (hnumbered : Numbered tables) (op : ThreadPosting) :
    Agrees env actor op tables ↔ RepliesLast env actor tables op := by
  cases op with
  | create => exact create_agrees_iff hport
  | append => exact append_agrees_iff hport hnumbered

end Calls

def greetingPort : ThreadEnvironment where
  unicode := ⟨id, fun _ => "Lu"⟩
  casefold := id
  now := 10
  replyNow := 11
  newId := fun n => 100 + n
  resolve := fun _ _ => .ok { disposition := .notAnalytical }
  reply := fun _ => .ok "Hello"
  replyStream := fun _ => .ok ["Hel", "lo"]

/-- Whoever writes to it. -/
def greeter : AuthenticatedActor := { userId := 2, organizationId := 1, role := .member }

/-- An active thread with one message. -/
def greeted (createdAt : Int) : ThreadTables where
  groups := fun groupId => if groupId = 3 then some { organizationId := 1 } else none
  sessions := fun threadId =>
    if threadId = 7 then
      some {
        thread := {
          threadId := 7, organizationId := 1, projectId := 3, initiatingMessageId := 4
          title := "Churn", status := .active, createdAt := 0, updatedAt := 0
          latestActivityAt := 0 }
        nextMessageSequence := 2
        messages := [⟨{
          messageId := 4, threadId := 7, organizationId := 1, authorId := some 2
          kind := .userQuestion, content := "Hi", createdAt }, 1⟩] }
    else none
  threadIds := [7]

theorem streamsReply_greetingPort : StreamsReply greetingPort where
  streams := fun _ => ⟨["Hel", "lo"], rfl, congrArg Except.ok (by decide)⟩
  accepted := by
    intro content reply hreply
    obtain rfl := Except.ok.inj hreply
    exact ⟨"Hello", by decide +kernel⟩

theorem numbered_greeted (createdAt : Int) : Numbered (greeted createdAt) := by
  intro threadId s hs row hrow
  unfold greeted at hs
  dsimp only at hs
  split at hs
  · obtain rfl := Option.some.inj hs
    obtain rfl := List.mem_singleton.1 hrow
    exact Nat.lt_succ_self 1
  · cases hs

/-- The reply comes last, and the calls agree. -/
theorem greeted_agrees : Agrees greetingPort greeter (.append 7 "Good morning" none) (greeted 5) :=
  (streamed_agrees_iff streamsReply_greetingPort (numbered_greeted 5) _).2 fun _ _ _ _ _ _ =>
    ⟨by decide, by decide +kernel⟩

/-- **A message that is later than the clock** is read behind the reply, and shown before it. -/
theorem greeted_disagrees :
    StreamsReply greetingPort ∧ Numbered (greeted 20) ∧
      ¬ Agrees greetingPort greeter (.append 7 "Good morning" none) (greeted 20) := by
  refine ⟨streamsReply_greetingPort, numbered_greeted 20, fun hagrees => ?_⟩
  have hlast := (append_agrees_iff streamsReply_greetingPort (numbered_greeted 20)).1 hagrees
    (by decide +kernel)
  have hrouted : ∃ thread ∈ (greeted 20).getThread 7 1, ∃ routing,
      turnRouting greetingPort greeter (greeted 20) thread "Good morning" none = .ok routing ∧
        routing.disposition = .notAnalytical :=
    ⟨_, rfl, { disposition := .notAnalytical }, by decide +kernel, rfl⟩
  obtain ⟨thread, hthread, routing, hrouting, hdisposition⟩ := hrouted
  have hlate : ¬ ∀ message ∈ (greeted 20).messagesForThread 7 1, message.createdAt ≤ 11 := by
    decide +kernel
  exact hlate (hlast thread hthread routing hrouting hdisposition).2

end Zentra.ThreadService
