import Zentra.ThreadEffect
import Zentra.ThreadStreaming

/-!
# Turns that are streamed

A streamed turn is a plain turn whose reply has a transaction of its own.

* `Streamed` — the routing of a streamed turn, and the messages that it leaves;
* `listed_concat_iff` — when a message is listed last.
-/

open JsonDocument Raising Raising.Method TableRows

namespace Zentra.ThreadService

open ThreadRepository ThreadTables

section Transactions

variable {α β : Type} {m n : TableMethod α} {f g : α → TableMethod β} {tables after : ThreadTables}

theorem transaction_eq_error {error : ThreadError} :
    (transaction m).call tables = (.error error, after) ↔
      ∃ between, m.call tables = (.error error, between) ∧ after = tables := by
  rw [call_transaction]
  rcases m.call tables with ⟨_ | _, _⟩
  · simp [eq_comm]
  · simp

theorem transaction_bind_congr
    (h : ∀ a between, m.call tables = (.ok a, between) →
      (transaction (f a)).call between = (transaction (g a)).call between) :
    (transaction (m >>= f)).call tables = (transaction (m >>= g)).call tables := by
  simp only [call_transaction, call_bind] at h ⊢
  rcases hm : m.call tables with ⟨error | a, between⟩
  · rfl
  · have hrest := h a between hm
    dsimp only
    rcases hf : (f a).call between with ⟨_ | _, _⟩ <;>
      rcases hg : (g a).call between with ⟨_ | _, _⟩ <;> simp_all

end Transactions

section Rows

variable {threadId organizationId : UUID} {f g : ChatSession → ChatSession}
  {tables : ThreadTables}

variable (threadId organizationId tables) in
theorem session_updateSession
    (hg : ∀ s, (g s).thread.organizationId = s.thread.organizationId) :
    (tables.updateSession threadId organizationId g).session threadId organizationId =
      (tables.session threadId organizationId).map g := by
  unfold updateSession
  cases hs : tables.session threadId organizationId with
  | none => simpa using hs
  | some s =>
      have horganization := (session_eq_some.1 hs).2
      simp [session, hg, horganization]

theorem updateSession_updateSession
    (hg : ∀ s, (g s).thread.organizationId = s.thread.organizationId) :
    (tables.updateSession threadId organizationId g).updateSession threadId organizationId f =
      tables.updateSession threadId organizationId fun s => f (g s) := by
  have hsession := session_updateSession threadId organizationId tables hg
  cases hs : tables.session threadId organizationId with
  | none =>
      rw [hs] at hsession
      simp [updateSession, hs]
  | some s =>
      rw [hs] at hsession
      rw [updateSession, hsession]
      simp [updateSession, hs]

variable (threadId organizationId tables) in
theorem hasEvent_updateSession (hf : ∀ s, (f s).events = s.events) (eventId : UUID) :
    (tables.updateSession threadId organizationId f).HasEvent eventId ↔
      tables.HasEvent eventId := by
  unfold updateSession
  cases hs : tables.session threadId organizationId with
  | none => exact Iff.rfl
  | some s =>
      have hsession := (session_eq_some.1 hs).1
      refine exists_congr fun other => and_congr_right fun _ => ?_
      by_cases hother : other = threadId
      · subst hother
        simp [hsession, hf]
      · simp [Function.update_of_ne hother]

end Rows

section Replies

variable {env : ThreadEnvironment} {actor : AuthenticatedActor} {thread : AnalysisRunThread}
  {routing : RoutingResult} {messageId eventId : UUID} {text : String} {message : ThreadMessage}
  {tables after : ThreadTables}

def replyCall (env : ThreadEnvironment) (actor : AuthenticatedActor) (thread : AnalysisRunThread)
    (routing : RoutingResult) (eventId : UUID) : AppendCall where
  organizationId := actor.organizationId
  threadId := thread.threadId
  kind := .routingClarification
  payload := [("type", .string "routing"), ("disposition", .string routing.disposition.value),
    ("scenario_key", .null), ("suggestion_count", .number (0 : Nat))]
  occurredAt := env.replyNow
  eventId := some eventId

/-- The tables with a reply and its event. -/
def withReply (message : ThreadMessage) (call : AppendCall) (tables : ThreadTables) :
    ThreadTables :=
  tables.updateSession call.threadId call.organizationId fun s =>
    if call.eventId.any fun eventId => tables.HasEvent eventId then s.addMessage message
    else (s.addMessage message).addEvent call

theorem call_addMessage (message : ThreadMessage) (tables : ThreadTables) :
    (addMessage message).call tables =
      if (tables.session message.threadId message.organizationId).isNone then
        (.error .noResultFound, tables)
      else (.ok (), tables.updateSession message.threadId message.organizationId
        fun s => s.addMessage message) := by
  rw [addMessage, call_raiseIf_bind]
  rfl

theorem call_appendEvent (call : AppendCall) {s : ChatSession}
    (hsession : tables.session call.threadId call.organizationId = some s) :
    (appendEvent call).call tables =
      (.ok (), if call.eventId.any fun eventId => tables.HasEvent eventId then tables
        else tables.updateSession call.threadId call.organizationId fun s => s.addEvent call) := by
  rw [appendEvent, call_self_bind]
  split
  · rfl
  · rw [call_raiseIf_bind, if_neg (by simp [hsession])]
    rfl

/-- **A reply that is accepted** is posted in a thread that is there. -/
theorem call_postReply (horganization : thread.organizationId = actor.organizationId)
    (hcreate : ThreadMessage.create env.unicode messageId thread.threadId thread.organizationId
      none .assistantReply text env.replyNow = .ok message)
    {s : ChatSession} (hsession : tables.session thread.threadId thread.organizationId = some s) :
    (postReply env actor thread messageId eventId text routing).call tables =
      (.ok message, withReply message (replyCall env actor thread routing eventId) tables) := by
  obtain ⟨hid, hmessageOrganization⟩ := create_eq_ok hcreate
  have hadded : (addMessage message).call tables = (.ok (), tables.updateSession thread.threadId
      thread.organizationId fun s => s.addMessage message) := by
    rw [call_addMessage, hid, hmessageOrganization, if_neg (by simp [hsession])]
  have hstays : (tables.updateSession thread.threadId thread.organizationId
      fun s => s.addMessage message).session thread.threadId actor.organizationId =
        some (s.addMessage message) := by
    rw [← horganization, session_updateSession _ _ _ (g := fun s => s.addMessage message)
      fun _ => rfl,
      hsession]
    rfl
  have hfed := call_appendEvent (replyCall env actor thread routing eventId) hstays
  have hcall : (postReply env actor thread messageId eventId text routing).call tables =
      (addMessage message >>= fun _ => appendEvent (replyCall env actor thread routing eventId) >>=
        fun _ => pure message).call tables := by
    rw [postReply, hcreate]
    rfl
  rw [hcall, call_bind, hadded]
  dsimp only
  rw [call_bind, hfed]
  dsimp only
  rw [call_pure]
  refine Prod.ext rfl ?_
  have hevents := hasEvent_updateSession thread.threadId thread.organizationId tables
    (f := fun s => s.addMessage message) (fun _ => rfl) eventId
  dsimp only [withReply, replyCall, Option.any_some]
  rw [← horganization]
  by_cases hevent : tables.HasEvent eventId
  · simp only [hevents, hevent, decide_true, if_true]
  · simp only [hevents, hevent, decide_false, Bool.false_eq_true, if_false]
    exact updateSession_updateSession fun _ => rfl

theorem call_postReply_absent
    (hcreate : ThreadMessage.create env.unicode messageId thread.threadId thread.organizationId
      none .assistantReply text env.replyNow = .ok message)
    (hsession : tables.session thread.threadId thread.organizationId = none) :
    (postReply env actor thread messageId eventId text routing).call tables =
      (.error .noResultFound, tables) := by
  obtain ⟨hid, hmessageOrganization⟩ := create_eq_ok hcreate
  rw [postReply, hcreate]
  refine bind_raises (m := addMessage message) ?_ _
  rw [call_addMessage, hid, hmessageOrganization, hsession]
  rfl

/-- **The order does not matter**: a reply leaves what is saved, and saving the reply. -/
theorem withReply_save (message : ThreadMessage) (call : AppendCall) (saved : AnalysisRunThread)
    (tables : ThreadTables) :
    withReply message call (tables.updateSession call.threadId call.organizationId
      fun s => s.save saved) =
      (withReply message call tables).updateSession call.threadId call.organizationId
        fun s => s.save saved := by
  have hevents := hasEvent_updateSession call.threadId call.organizationId tables
    (f := fun s => s.save saved) fun _ => rfl
  simp only [withReply, hevents]
  rw [updateSession_updateSession (g := fun s => s.save saved) fun _ => rfl,
    updateSession_updateSession]
  · congr 1
    funext s
    split
    · rfl
    · rfl
  · intro s
    split
    · rfl
    · rfl

end Replies

/-- **The port**: the chunks that it streams are its plain reply, which a message accepts. -/
structure StreamsReply (env : ThreadEnvironment) : Prop where
  streams : ∀ content, ∃ chunks, env.replyStream content = .ok chunks ∧
    env.reply content = .ok (String.join chunks)
  accepted : ∀ content reply, env.reply content = .ok reply →
    ∃ text, normalizeMessageContent env.unicode reply = .ok text

section Turns

variable (env : ThreadEnvironment) (actor : AuthenticatedActor)

/-- The reply that a streamed turn has left, posted. -/
def completeTurn (turn : ThreadTurn) : TableMethod ThreadTurn :=
  match turn.conversationalContent with
  | none => pure turn
  | some content => do
      let reply ← conversationalReply env actor turn.thread content turn.routing
      pure { turn with replies := [reply], conversationalContent := none }

variable {env actor} {turn : ThreadTurn} {thread : AnalysisRunThread} {tables after : ThreadTables}

theorem completeTurn_of_none (h : turn.conversationalContent = none) :
    completeTurn env actor turn = pure turn := by
  rw [completeTurn, h]

theorem exists_reply (hport : StreamsReply env) (content : String) (thread : AnalysisRunThread) :
    ∃ chunks message, env.replyStream content = .ok chunks ∧
      env.reply content = .ok (String.join chunks) ∧
      ThreadMessage.create env.unicode (env.newId 2) thread.threadId thread.organizationId none
        .assistantReply (String.join chunks) env.replyNow = .ok message := by
  obtain ⟨chunks, hstream, hreply⟩ := hport.streams content
  obtain ⟨text, htext⟩ := hport.accepted content _ hreply
  have hcreate : ∃ message, ThreadMessage.create env.unicode (env.newId 2) thread.threadId
      thread.organizationId none .assistantReply (String.join chunks) env.replyNow =
        .ok message := by
    rw [ThreadMessage.create, htext]
    exact ⟨_, rfl⟩
  obtain ⟨message, hcreate⟩ := hcreate
  exact ⟨chunks, message, hstream, hreply, hcreate⟩

/-- **Completing a turn** of a thread that is there posts the reply that is left. -/
theorem call_completeTurn (horganization : turn.thread.organizationId = actor.organizationId)
    {content text : String} {reply : ThreadMessage} {s : ChatSession}
    (hcontent : turn.conversationalContent = some content) (hreply : env.reply content = .ok text)
    (hcreate : ThreadMessage.create env.unicode (env.newId 2) turn.thread.threadId
      turn.thread.organizationId none .assistantReply text env.replyNow = .ok reply)
    (hsession : tables.session turn.thread.threadId turn.thread.organizationId = some s) :
    (completeTurn env actor turn).call tables =
      (.ok { turn with replies := [reply], conversationalContent := none },
        withReply reply (replyCall env actor turn.thread turn.routing (env.newId 3)) tables) := by
  have hcall : (conversationalReply env actor turn.thread content turn.routing).call tables =
      (postReply env actor turn.thread (env.newId 2) (env.newId 3) text
        turn.routing).call tables := by
    rw [conversationalReply, hreply]
    rfl
  rw [completeTurn, hcontent]
  dsimp only
  rw [call_bind, hcall, call_postReply horganization hcreate hsession]
  rfl

theorem call_completeTurn_absent {content text : String} {reply : ThreadMessage}
    (hcontent : turn.conversationalContent = some content) (hreply : env.reply content = .ok text)
    (hcreate : ThreadMessage.create env.unicode (env.newId 2) turn.thread.threadId
      turn.thread.organizationId none .assistantReply text env.replyNow = .ok reply)
    (hsession : tables.session turn.thread.threadId turn.thread.organizationId = none) :
    (completeTurn env actor turn).call tables = (.error .noResultFound, tables) := by
  rw [completeTurn, hcontent]
  dsimp only
  refine bind_raises ?_ _
  rw [conversationalReply, hreply]
  exact call_postReply_absent hcreate hsession

/-- A title that the column admits. -/
def TitleFits (thread : AnalysisRunThread) : Prop :=
  1 ≤ thread.title.length ∧ thread.title.length ≤ 80

instance (thread : AnalysisRunThread) : Decidable (TitleFits thread) :=
  inferInstanceAs (Decidable (_ ∧ _))

theorem call_saveThread (thread : AnalysisRunThread) (tables : ThreadTables) :
    (saveThread thread).call tables =
      if (tables.session thread.threadId thread.organizationId).isSome ∧ ¬ TitleFits thread then
        (.error (.integrity "ck_chat_sessions_title_length"), tables)
      else (.ok (), tables.updateSession thread.threadId thread.organizationId
        fun s => s.save thread) := by
  rw [saveThread, call_raiseIf_bind]
  rfl

theorem session_withReply (message : ThreadMessage) (call : AppendCall) (tables : ThreadTables) :
    ((withReply message call tables).session call.threadId call.organizationId).isSome =
      (tables.session call.threadId call.organizationId).isSome := by
  rw [withReply, session_updateSession, Option.isSome_map]
  intro s
  split
  · rfl
  · rfl

/-- **Saving the thread and posting the reply** may be exchanged. -/
theorem save_then_complete (hport : StreamsReply env)
    (horganization : turn.thread.organizationId = actor.organizationId) (tables : ThreadTables) :
    (transaction (saveThread turn.thread >>= fun _ => completeTurn env actor turn)).call tables =
      (transaction (completeTurn env actor turn >>= fun done =>
        saveThread turn.thread >>= fun _ => pure done)).call tables := by
  cases hcontent : turn.conversationalContent with
  | none =>
      rw [completeTurn_of_none hcontent]
      rfl
  | some content =>
      obtain ⟨chunks, reply, -, hreply, hcreate⟩ := exists_reply hport content turn.thread
      cases hsession : tables.session turn.thread.threadId turn.thread.organizationId with
      | none =>
          have habsent : (completeTurn env actor turn).call tables =
              (.error .noResultFound, tables) :=
            call_completeTurn_absent hcontent hreply hcreate hsession
          have hsaved : (saveThread turn.thread).call tables = (.ok (), tables) := by
            rw [call_saveThread, if_neg (by simp [hsession]), updateSession, hsession]
          rw [call_transaction, call_transaction, bind_raises habsent, call_bind, hsaved]
          dsimp only
          rw [habsent]
      | some s =>
          have hcomplete := call_completeTurn horganization hcontent hreply hcreate hsession
          have hstays : ((withReply reply (replyCall env actor turn.thread turn.routing
              (env.newId 3)) tables).session turn.thread.threadId
                turn.thread.organizationId).isSome = true := by
            have hsame := session_withReply reply
              (replyCall env actor turn.thread turn.routing (env.newId 3)) tables
            dsimp only [replyCall] at hsame
            rw [← horganization, hsession] at hsame
            rw [replyCall, ← horganization]
            exact hsame
          by_cases hfits : TitleFits turn.thread
          · have hsave : ∀ tables, (saveThread turn.thread).call tables =
                (.ok (), tables.updateSession turn.thread.threadId turn.thread.organizationId
                  fun s => s.save turn.thread) := by
              intro tables
              rw [call_saveThread, if_neg fun h => h.2 hfits]
            have hsaved := session_updateSession turn.thread.threadId turn.thread.organizationId
              tables (g := fun s => s.save turn.thread) fun _ => rfl
            rw [hsession] at hsaved
            have hafter := call_completeTurn horganization hcontent hreply hcreate hsaved
            rw [call_transaction, call_transaction, call_bind, hsave, call_bind, hcomplete]
            dsimp only
            rw [hafter, call_bind, hsave]
            dsimp only
            have hexchange := withReply_save reply
              (replyCall env actor turn.thread turn.routing (env.newId 3)) turn.thread tables
            dsimp only [replyCall] at hexchange
            rw [← horganization] at hexchange
            rw [replyCall, ← horganization, hexchange]
            rfl
          · have hrefused : ∀ tables : ThreadTables, (tables.session turn.thread.threadId
                turn.thread.organizationId).isSome = true →
                  (saveThread turn.thread).call tables =
                    (.error (.integrity "ck_chat_sessions_title_length"), tables) := by
              intro tables hthere
              rw [call_saveThread, if_pos ⟨hthere, hfits⟩]
            rw [call_transaction, call_transaction,
              bind_raises (hrefused tables (by rw [hsession]; rfl)), call_bind, hcomplete]
            dsimp only
            rw [bind_raises (hrefused _ hstays)]

theorem applyRouting_completes (message : ThreadMessage) (routing : RoutingResult)
    (scope : Option DataConnectionId) :
    (applyRoutingWith env actor streaming thread message routing scope >>=
      completeTurn env actor) =
      applyRoutingWith env actor (replying env actor) thread message routing scope := by
  unfold applyRoutingWith
  split
  · rw [bind_bind]
    refine bind_congr fun active => ?_
    rw [bind_bind]
    refine bind_congr fun _ => ?_
    -- the reply is what is left, and all that is left
    rw [replying, bind_bind, bind_bind]
    rfl
  · split
    · rfl
    · simp only [bind_bind]
      rfl
  · rw [bind_bind]
    rfl
  · rw [bind_bind]
    rfl

theorem saved_completes (turn : ThreadTurn) (hport : StreamsReply env)
    (horganization : turn.thread.organizationId = actor.organizationId) (tables : ThreadTables) :
    (transaction ((saveThread turn.thread >>= fun _ => pure turn) >>=
      completeTurn env actor)).call tables =
      (transaction (completeTurn env actor turn >>= fun done =>
        saveThread turn.thread >>= fun _ => pure done)).call tables := by
  rw [bind_bind]
  exact save_then_complete hport horganization tables

theorem completeTurn_thread :
    (completeTurn env actor turn >>= fun done => saveThread done.thread >>= fun _ => pure done) =
      completeTurn env actor turn >>= fun done =>
        saveThread turn.thread >>= fun _ => pure done := by
  cases hcontent : turn.conversationalContent with
  | none =>
      rw [completeTurn_of_none hcontent]
      rfl
  | some content =>
      unfold completeTurn
      rw [hcontent]
      dsimp only
      rw [bind_bind, bind_bind]
      rfl

theorem appendDraft_completes (hport : StreamsReply env)
    (horganization : thread.organizationId = actor.organizationId) (content : String)
    (given : Option RoutingResult) (tables : ThreadTables) :
    (transaction (appendDraftWith env actor streaming thread content given >>=
      completeTurn env actor)).call tables =
      (transaction (appendDraftWith env actor (replying env actor) thread content
        given)).call tables := by
  have htail : ∀ (message : ThreadMessage) (routing : RoutingResult)
      (scope : Option DataConnectionId) (tables : ThreadTables),
      (transaction ((do
        let thread ← eval (thread.recordMessage env.now)
        postMessage env actor message (env.newId 1)
        let turn ← applyRoutingWith env actor streaming thread message routing scope
        saveThread turn.thread
        pure turn : TableMethod ThreadTurn) >>= completeTurn env actor)).call tables =
      (transaction (do
        let thread ← eval (thread.recordMessage env.now)
        postMessage env actor message (env.newId 1)
        let turn ← applyRoutingWith env actor (replying env actor) thread message routing scope
        saveThread turn.thread
        pure turn : TableMethod ThreadTurn)).call tables := by
    intro message routing scope tables
    rw [bind_bind]
    refine transaction_bind_congr fun recorded posting hrecorded => ?_
    rw [bind_bind]
    refine transaction_bind_congr fun _ between hposted => ?_
    rw [← applyRouting_completes, bind_bind, bind_bind]
    refine transaction_bind_congr fun turn routed hrouted => ?_
    have hrecord : thread.recordMessage env.now = .ok recorded := (Prod.mk.inj hrecorded).1
    obtain ⟨hwritable, hrecord⟩ := AnalysisRunThread.recordMessage_eq_ok hrecord
    have hturned : Turned recorded turn :=
      (applyRoutingWith_turned (by rw [hrecord]; exact hwritable)).returns trivial hrouted
    have hsame : turn.thread.organizationId = actor.organizationId := by
      rw [hturned.organizationId, hrecord]
      exact horganization
    rw [completeTurn_thread]
    exact saved_completes turn hport hsame routed
  unfold appendDraftWith
  rw [bind_bind]
  refine transaction_bind_congr fun message _ _ => ?_
  rw [bind_bind]
  refine transaction_bind_congr fun stored between _ => ?_
  cases given with
  | some routing => exact htail message routing _ between
  | none =>
      dsimp only
      rw [bind_bind]
      exact transaction_bind_congr fun routing between _ => htail message routing _ between

theorem followUp_completes (hport : StreamsReply env)
    (horganization : thread.organizationId = actor.organizationId) (content : String)
    (tables : ThreadTables) :
    (transaction (followUpWith env actor streaming thread content >>=
      completeTurn env actor)).call tables =
      (transaction (followUpWith env actor (replying env actor) thread content)).call tables := by
  unfold followUpWith
  rw [bind_bind]
  refine transaction_bind_congr fun stored between _ => ?_
  rw [bind_bind]
  refine transaction_bind_congr fun message between _ => ?_
  rw [bind_bind]
  refine transaction_bind_congr fun resolved between _ => ?_
  dsimp only
  rw [bind_bind]
  refine transaction_bind_congr fun recorded between hrecorded => ?_
  rw [bind_bind]
  refine transaction_bind_congr fun _ between _ => ?_
  have hrecord : thread.recordMessage env.now = .ok recorded := (Prod.mk.inj hrecorded).1
  obtain ⟨hwritable, hrecord⟩ := AnalysisRunThread.recordMessage_eq_ok hrecord
  have hsame : recorded.organizationId = actor.organizationId := by
    rw [hrecord]
    exact horganization
  split
  · -- the turn that is streamed, saved and completed, is completed and saved
    have hsaved := saved_completes (⟨recorded, message, [],
      (stored.latestForThread thread.threadId actor.organizationId).map
        AnalysisRun.analysisRunId,
      followUpRouting env (stored.latestForThread thread.threadId actor.organizationId) message
        resolved, some message.content⟩ : ThreadTurn) hport hsame between
    refine Eq.trans rfl (hsaved.trans ?_)
    simp only [completeTurn, replying, bind_bind]
    rfl
  · split
    · rfl
    · simp only [bind_bind]
      rfl
  · simp only [bind_bind]
    rfl
  · simp only [bind_bind]
    rfl

theorem createWith_completes (projectId : UUID) (content : String)
    (dataConnectionId : Option DataConnectionId) (given : Option RoutingResult) :
    (createWith env actor streaming projectId content dataConnectionId given >>=
      completeTurn env actor) =
      createWith env actor (replying env actor) projectId content dataConnectionId given := by
  have hnew : ∀ thread message routing,
      commitNew env actor streaming thread message routing dataConnectionId >>=
        completeTurn env actor =
        commitNew env actor (replying env actor) thread message routing dataConnectionId := by
    intro thread message routing
    simp only [commitNew, bind_bind, applyRouting_completes]
  unfold createWith
  rw [bind_bind]
  refine bind_congr fun _ => ?_
  rw [bind_bind]
  refine bind_congr fun message => ?_
  cases given
  all_goals
    dsimp only
    rw [bind_bind]
    refine bind_congr fun routing => ?_
    rw [bind_bind]
    exact bind_congr fun thread => hnew thread message routing

variable (env actor)

/-- A turn of a thread that has been opened. -/
def turnOf (conversing : Conversing) (thread : AnalysisRunThread) (content : String)
    (given : Option RoutingResult) : TableMethod ThreadTurn :=
  if thread.status = .active then followUpWith env actor conversing thread content
  else appendDraftWith env actor conversing thread content given

def turnRouting (tables : ThreadTables) (thread : AnalysisRunThread) (content : String)
    (given : Option RoutingResult) : Except ThreadError RoutingResult :=
  if thread.status = .active then do
    let latest := tables.latestForThread thread.threadId actor.organizationId
    let message ← userMessage env actor thread.threadId .userQuestion content
    let resolved ← env.resolve message.content (latest.bind AnalysisRun.dataConnectionId)
    pure (followUpRouting env latest message resolved)
  else do
    let message ← userMessage env actor thread.threadId .userClarification content
    let existing := tables.messagesForThread thread.threadId actor.organizationId
    match given with
    | some routing => pure routing
    | none => env.resolve (combinedQuestionText (existing ++ [message])) (sourceScope thread.sourceIds)

variable {env actor}

/-- **A turn, streamed and completed**, commits what the plain turn does. -/
theorem turnOf_completes (hport : StreamsReply env)
    (horganization : thread.organizationId = actor.organizationId) (content : String)
    (given : Option RoutingResult) (tables : ThreadTables) :
    (transaction (turnOf env actor streaming thread content given >>=
      completeTurn env actor)).call tables =
      (transaction (turnOf env actor (replying env actor) thread content given)).call tables := by
  unfold turnOf
  split
  · exact followUp_completes hport horganization content tables
  · exact appendDraft_completes hport horganization content given tables

/-- The messages of a thread, and the number of the next one. -/
def rowsOf (threadId : UUID) : ThreadTables → Option (List MessageRow × Nat) :=
  part threadId fun s => (s.messages, s.nextMessageSequence)

def withRow (message : ThreadMessage) (rows : List MessageRow × Nat) : List MessageRow × Nat :=
  (rows.1 ++ [⟨message, rows.2⟩], rows.2 + 1)

theorem keeps_rowsOf_saveThread {threadId : UUID} :
    Keeps (rowsOf threadId) (saveThread thread) :=
  keeps_raiseIf.bind fun _ => keeps_assign fun _ => part_updateSession fun _ => rfl

theorem keeps_rowsOf_feed {threadId other eventId : UUID} {kind : WorkFeedEventKind}
    {payload : Object} {occurredAt : Int} :
    Keeps (rowsOf threadId) (feed actor other kind payload occurredAt eventId) := by
  refine keeps_self.bind fun tables => ?_
  split
  · exact keeps_pure
  · exact keeps_raiseIf.bind fun _ => keeps_assign fun _ => part_updateSession fun _ => rfl

theorem rowsOf_postMessage {message : ThreadMessage} {eventId : UUID}
    (h : (postMessage env actor message eventId).call tables = (.ok (), after)) :
    rowsOf message.threadId after = (rowsOf message.threadId tables).map (withRow message) := by
  rw [postMessage, bind_returns] at h
  obtain ⟨⟨⟩, between, hadded, hfed⟩ := h
  have hkept : rowsOf message.threadId after = rowsOf message.threadId between :=
    keeps_rowsOf_feed.returns hfed
  rw [call_addMessage] at hadded
  split at hadded
  · cases hadded
  · next hsession =>
      obtain ⟨s, hs⟩ := Option.ne_none_iff_exists'.1 (by simpa using hsession)
      obtain rfl := (Prod.mk.inj hadded).2
      rw [hkept, rowsOf, part_updateSession_self hs, part, (session_eq_some.1 hs).1]
      rfl

structure Streamed (env : ThreadEnvironment) (actor : AuthenticatedActor)
    (thread : AnalysisRunThread) (content : String) (given : Option RoutingResult)
    (tables : ThreadTables) (turn : ThreadTurn) (after : ThreadTables) : Prop where
  threadId : turn.thread.threadId = thread.threadId
  organizationId : turn.thread.organizationId = thread.organizationId
  routing : turnRouting env actor tables thread content given = .ok turn.routing
  left : turn.conversationalContent.isSome = true ↔ turn.routing.disposition = .notAnalytical
  message : turn.message.createdAt = env.now
  rows : turn.routing.disposition = .notAnalytical →
    rowsOf thread.threadId after = (rowsOf thread.threadId tables).map (withRow turn.message)

theorem userMessage_eq_ok {threadId : UUID} {kind : ThreadMessageKind} {content : String}
    {message : ThreadMessage} (h : userMessage env actor threadId kind content = .ok message) :
    message.threadId = threadId ∧ message.organizationId = actor.organizationId ∧
      message.createdAt = env.now := by
  obtain ⟨text, -, hmessage⟩ := bind_eq_ok.1 h
  cases hmessage
  exact ⟨rfl, rfl, rfl⟩

theorem followUp_streamed (hactive : thread.status = .active) {content : String}
    {given : Option RoutingResult}
    (h : (followUpWith env actor streaming thread content).call tables = (.ok turn, after)) :
    Streamed env actor thread content given tables turn after := by
  rw [followUpWith, call_self_bind, eval_bind_returns] at h
  obtain ⟨message, hmessage, h⟩ := h
  rw [eval_bind_returns] at h
  obtain ⟨resolved, hresolved, h⟩ := h
  rw [eval_bind_returns] at h
  obtain ⟨recorded, hrecorded, h⟩ := h
  rw [bind_returns] at h
  obtain ⟨⟨⟩, posted, hposted, h⟩ := h
  obtain ⟨-, rfl⟩ := AnalysisRunThread.recordMessage_eq_ok hrecorded
  obtain ⟨hid, -, hcreated⟩ := userMessage_eq_ok hmessage
  have hrouting : turnRouting env actor tables thread content given =
      .ok (followUpRouting env
        (tables.latestForThread thread.threadId actor.organizationId) message resolved) := by
    rw [turnRouting, if_pos hactive]
    exact bind_eq_ok.2 ⟨message, hmessage, bind_eq_ok.2 ⟨resolved, hresolved, rfl⟩⟩
  -- what is added besides the message matters in the conversational turn only
  have hother : ∀ {replies runId streamed} {t : ThreadTables}, streamed = none →
      (saveThread { thread with updatedAt := env.now, latestActivityAt := env.now } >>= fun _ =>
        (pure ⟨{ thread with updatedAt := env.now, latestActivityAt := env.now }, message, replies,
          runId, followUpRouting env (tables.latestForThread thread.threadId actor.organizationId)
            message resolved, streamed⟩ : TableMethod ThreadTurn)).call t = (.ok turn, after) →
      (followUpRouting env (tables.latestForThread thread.threadId actor.organizationId)
        message resolved).disposition ≠ .notAnalytical →
      Streamed env actor thread content given tables turn after := by
    intro replies runId streamed t hnone h hdisposition
    obtain ⟨⟨⟩, saved, -, h⟩ := bind_returns.1 h
    cases h
    subst hnone
    exact ⟨rfl, rfl, hrouting, by simp [hdisposition], hcreated, fun h => absurd h hdisposition⟩
  split at h
  next hdisposition =>
    obtain ⟨conversed, between, hconversed, h⟩ := bind_returns.1 h
    cases hconversed
    obtain ⟨routed, between, hrouted, h⟩ := bind_returns.1 h
    cases hrouted
    obtain ⟨⟨⟩, saved, hsaved, h⟩ := bind_returns.1 h
    cases h
    refine ⟨rfl, rfl, hrouting, by simp [hdisposition], hcreated, fun _ => ?_⟩
    have hkept : rowsOf thread.threadId after = rowsOf thread.threadId posted :=
      keeps_rowsOf_saveThread.returns hsaved
    rw [hkept, ← hid]
    exact rowsOf_postMessage hposted
  next hdisposition =>
    split at h
    · cases h
    · obtain ⟨run, between, -, h⟩ := bind_returns.1 h
      obtain ⟨⟨⟩, between, -, h⟩ := bind_returns.1 h
      exact hother rfl h (by simp [hdisposition])
  next hdisposition =>
    obtain ⟨replies, between, -, h⟩ := bind_returns.1 h
    exact hother rfl h (by simp [hdisposition])
  next hdisposition =>
    obtain ⟨replies, between, -, h⟩ := bind_returns.1 h
    exact hother rfl h (by simp [hdisposition])

theorem applyRouting_streamed {message : ThreadMessage} {routing : RoutingResult}
    {scope : Option DataConnectionId} (threadId : UUID)
    (h : (applyRoutingWith env actor streaming thread message routing scope).call tables =
      (.ok turn, after)) :
    turn.message = message ∧ turn.routing = routing ∧
      (turn.conversationalContent.isSome = true ↔ routing.disposition = .notAnalytical) ∧
      (routing.disposition = .notAnalytical →
        turn.replies = [] ∧ rowsOf threadId after = rowsOf threadId tables) := by
  unfold applyRoutingWith at h
  split at h
  next hdisposition =>
    obtain ⟨active, between, hactive, h⟩ := bind_returns.1 h
    obtain rfl := (Prod.mk.inj hactive).2
    obtain ⟨⟨⟩, saved, hsaved, h⟩ := bind_returns.1 h
    cases h
    exact ⟨rfl, rfl, by simp [hdisposition],
      fun _ => ⟨rfl, keeps_rowsOf_saveThread.returns hsaved⟩⟩
  next hdisposition =>
    split at h
    · cases h
    · obtain ⟨run, between, -, h⟩ := bind_returns.1 h
      obtain ⟨active, between, -, h⟩ := bind_returns.1 h
      obtain ⟨⟨⟩, between, -, h⟩ := bind_returns.1 h
      obtain ⟨payload, between, -, h⟩ := bind_returns.1 h
      obtain ⟨⟨⟩, between, -, h⟩ := bind_returns.1 h
      obtain ⟨⟨⟩, between, -, h⟩ := bind_returns.1 h
      cases h
      exact ⟨rfl, rfl, by simp [hdisposition], by simp [hdisposition]⟩
  next hdisposition =>
    obtain ⟨replies, between, -, h⟩ := bind_returns.1 h
    cases h
    exact ⟨rfl, rfl, by simp [hdisposition], by simp [hdisposition]⟩
  next hdisposition =>
    obtain ⟨replies, between, -, h⟩ := bind_returns.1 h
    cases h
    exact ⟨rfl, rfl, by simp [hdisposition], by simp [hdisposition]⟩

theorem appendDraft_streamed (hdraft : thread.status ≠ .active) {content : String}
    {given : Option RoutingResult}
    (h : (appendDraftWith env actor streaming thread content given).call tables =
      (.ok turn, after)) :
    Streamed env actor thread content given tables turn after := by
  rw [appendDraftWith, eval_bind_returns] at h
  obtain ⟨message, hmessage, h⟩ := h
  rw [call_self_bind] at h
  obtain ⟨hid, -, hcreated⟩ := userMessage_eq_ok hmessage
  have htail : ∀ routing,
      turnRouting env actor tables thread content given = .ok routing →
      (do
        let thread' ← eval (thread.recordMessage env.now)
        postMessage env actor message (env.newId 1)
        let turn ← applyRoutingWith env actor streaming thread' message routing
          (sourceScope thread.sourceIds)
        saveThread turn.thread
        pure turn : TableMethod ThreadTurn).call tables = (.ok turn, after) →
      Streamed env actor thread content given tables turn after := by
    intro routing hrouting h
    rw [eval_bind_returns] at h
    obtain ⟨recorded, hrecorded, h⟩ := h
    obtain ⟨hwritable, rfl⟩ := AnalysisRunThread.recordMessage_eq_ok hrecorded
    obtain ⟨⟨⟩, posted, hposted, h⟩ := bind_returns.1 h
    obtain ⟨applied, routed, hrouted, h⟩ := bind_returns.1 h
    obtain ⟨⟨⟩, saved, hsaved, h⟩ := bind_returns.1 h
    cases h
    have hturned := (applyRoutingWith_turned (by exact hwritable)).returns trivial hrouted
    obtain ⟨rfl, rfl, hleft, hrows⟩ := applyRouting_streamed thread.threadId hrouted
    refine ⟨hturned.threadId, hturned.organizationId, hrouting, hleft, hcreated, fun h => ?_⟩
    have hkept : rowsOf thread.threadId after = rowsOf thread.threadId routed :=
      keeps_rowsOf_saveThread.returns hsaved
    rw [hkept, (hrows h).2, ← hid]
    exact rowsOf_postMessage hposted
  cases given with
  | some routing =>
      refine htail routing ?_ h
      rw [turnRouting, if_neg hdraft]
      exact bind_eq_ok.2 ⟨message, hmessage, rfl⟩
  | none =>
      obtain ⟨routing, hresolved, h⟩ := eval_bind_returns.1 h
      refine htail routing ?_ h
      rw [turnRouting, if_neg hdraft]
      exact bind_eq_ok.2 ⟨message, hmessage, hresolved⟩

/-- **A streamed turn**: what it returns, and what it leaves. -/
theorem turnOf_streamed {content : String} {given : Option RoutingResult}
    (h : (turnOf env actor streaming thread content given).call tables = (.ok turn, after)) :
    Streamed env actor thread content given tables turn after := by
  unfold turnOf at h
  split at h
  next hactive => exact followUp_streamed hactive h
  next hdraft => exact appendDraft_streamed hdraft h

theorem turnOf_there {threadId : UUID} {content : String} {given : Option RoutingResult}
    {conversing : Conversing} (hconverses : Converses conversing)
    (hopened : tables.getThread threadId actor.organizationId = some thread)
    (h : (turnOf env actor conversing thread content given).call tables = (.ok turn, after)) :
    ∃ s, after.session thread.threadId actor.organizationId = some s := by
  obtain ⟨row, hrow, horganization, hthread⟩ := getThread_eq_some.1 hopened
  have hfound : threadOf thread.threadId tables = some row := by
    rw [hthread]
    exact hrow
  have hsame : row.organizationId = thread.organizationId := by rw [hthread]
  refine Option.isSome_iff_exists.1 (session_isSome_iff.2 ?_)
  unfold turnOf at h
  split at h
  · obtain ⟨-, ⟨stored, hstored, hafter⟩, -⟩ :=
      followUpWith_returns hconverses (hsame.symm.trans horganization) h
    obtain rfl : row = stored := Option.some.inj (hfound.symm.trans hstored)
    exact ⟨_, hafter, horganization⟩
  · obtain ⟨-, hafter⟩ := appendDraftWith_returns hconverses hfound hsame h
    exact ⟨_, hafter, horganization⟩

/-- The messages in their order. -/
def listed (rows : List MessageRow) : List ThreadMessage :=
  (orderedBy (fun row : MessageRow => toLex (row.message.createdAt, row.sequence)) rows).map
    MessageRow.message

theorem messagesForThread_eq {threadId organizationId : UUID} (rows : List MessageRow × Nat)
    (hsession : (tables.session threadId organizationId).isSome = true)
    (hrows : rowsOf threadId tables = some rows) :
    tables.messagesForThread threadId organizationId = listed rows.1 := by
  obtain ⟨s, hs⟩ := Option.isSome_iff_exists.1 hsession
  rw [rowsOf, part, (session_eq_some.1 hs).1] at hrows
  obtain rfl := Option.some.inj hrows
  unfold messagesForThread
  rw [hs]
  rfl

/-- **A message is listed last** exactly when none of the others is later. -/
theorem listed_concat_iff {rows : List MessageRow} (last : MessageRow)
    (hnumbers : ∀ row ∈ rows, row.sequence ≤ last.sequence) :
    listed (rows ++ [last]) = listed rows ++ [last.message] ↔
      ∀ row ∈ rows, row.message.createdAt ≤ last.message.createdAt := by
  constructor
  · intro heq row hrow
    have hlast := congrArg List.getLast? heq
    rw [List.getLast?_concat, listed, List.getLast?_map] at hlast
    obtain ⟨final, hfinal, hmessage⟩ := Option.map_eq_some_iff.1 hlast
    have hle := le_of_getLast? hfinal (List.mem_append_left _ hrow)
    rw [← hmessage]
    exact (Prod.Lex.toLex_le_toLex.1 hle).elim le_of_lt fun h => h.1.le
  · intro hearlier
    let key := fun row : MessageRow => toLex (row.message.createdAt, row.sequence)
    have hconcat : orderedBy key (rows ++ [last]) = orderedBy key rows ++ [last] :=
      orderedBy_concat fun row hrow => by
        obtain hless | hsame := (hearlier row hrow).lt_or_eq
        · exact Prod.Lex.toLex_le_toLex.2 (.inl hless)
        · exact Prod.Lex.toLex_le_toLex.2 (.inr ⟨hsame, hnumbers row hrow⟩)
    rw [listed, hconcat, List.map_append]
    rfl

end Turns

end Zentra.ThreadService
