import Zentra.ThreadService

/-!
# What the transactions on threads write

The service reads the aggregate of a thread, changes it in memory, and saves it at the end.
Everything before that only adds rows: messages, feed events, runs and jobs.

* `followUpWith_returns`, `appendDraftWith_returns` — a turn saves the aggregate that it was
  given, with what it set in it, over the row that it finds;
* `archive_returns`, `restore_returns`, `renameThread_returns`, `delete_returns` — the same
  for the other operations.
-/

open JsonDocument Raising Raising.Method

namespace Zentra

open ThreadRepository

namespace ThreadTables

variable {γ : Type} (threadId : UUID)

def part (g : ChatSession → γ) (tables : ThreadTables) : Option γ :=
  (tables.sessions threadId).map g

def threadOf : ThreadTables → Option AnalysisRunThread := part threadId ChatSession.thread

/-- The messages and the Analysis Runs. -/
def contentsOf : ThreadTables → Option (List MessageRow × List AnalysisRun) :=
  part threadId fun s => (s.messages, s.runs)

/-- How many messages the thread has. -/
def messageCount (tables : ThreadTables) : Nat :=
  (part threadId (fun s => s.messages.length) tables).getD 0

/-- The columns as they are once an aggregate is saved over them. -/
def savedOver (thread : AnalysisRunThread) : ThreadTables → Option AnalysisRunThread :=
  part threadId fun s => s.thread.savedAs thread

variable {threadId} {tables other : ThreadTables} {otherId organizationId : UUID}
  {g : ChatSession → γ} {f : ChatSession → ChatSession}

theorem session_eq_some {s : ChatSession} :
    tables.session threadId organizationId = some s ↔
      tables.sessions threadId = some s ∧ s.thread.organizationId = organizationId := by
  simp [session, Option.filter_eq_some_iff]

theorem part_updateSession (h : ∀ s, g (f s) = g s) :
    part threadId g (tables.updateSession otherId organizationId f) = part threadId g tables := by
  unfold updateSession
  split
  · rename_i s hs
    by_cases hid : threadId = otherId
    · subst hid
      simp [part, (session_eq_some.1 hs).1, h]
    · simp [part, Function.update_of_ne hid]
  · rfl

theorem part_updateSession_self {s : ChatSession}
    (h : tables.session threadId organizationId = some s) :
    part threadId g (tables.updateSession threadId organizationId f) = some (g (f s)) := by
  simp [part, updateSession, h]

theorem session_isSome_iff :
    (tables.session threadId organizationId).isSome = true ↔
      ∃ row, threadOf threadId tables = some row ∧ row.organizationId = organizationId := by
  simp only [Option.isSome_iff_exists, session_eq_some, threadOf, part, Option.map_eq_some_iff]
  constructor
  · intro ⟨s, hs, horganization⟩
    exact ⟨s.thread, ⟨s, hs, rfl⟩, horganization⟩
  · intro ⟨_, ⟨s, hs, hrow⟩, horganization⟩
    subst hrow
    exact ⟨s, hs, horganization⟩

/-- The aggregate is the row, under the identifier that was asked for. -/
theorem getThread_eq_some {thread : AnalysisRunThread} :
    tables.getThread threadId organizationId = some thread ↔
      ∃ row, threadOf threadId tables = some row ∧ row.organizationId = organizationId ∧
        thread = { row with threadId := threadId } := by
  simp only [getThread, Option.map_eq_some_iff, session_eq_some, threadOf, part]
  constructor
  · intro ⟨s, ⟨hs, horganization⟩, hthread⟩
    exact ⟨s.thread, ⟨s, hs, rfl⟩, horganization, hthread.symm⟩
  · intro ⟨_, ⟨s, hs, hrow⟩, horganization, hthread⟩
    subst hrow
    exact ⟨s, ⟨hs, horganization⟩, hthread.symm⟩

theorem savedOver_eq (thread : AnalysisRunThread) :
    savedOver threadId thread tables =
      (threadOf threadId tables).map fun row => row.savedAs thread := by
  simp [savedOver, threadOf, part, Function.comp_def]

theorem messageCount_eq_of_contentsOf (h : contentsOf threadId other = contentsOf threadId tables) :
    messageCount threadId other = messageCount threadId tables := by
  have hlengths := congrArg (Option.map fun contents => contents.1.length) h
  simp only [contentsOf, part, Option.map_map, Function.comp_def] at hlengths
  rw [messageCount, messageCount, part, part, hlengths]

end ThreadTables

open ThreadTables

@[simp] theorem savedAs_savedAs (row first second : AnalysisRunThread) :
    (row.savedAs first).savedAs second = row.savedAs second := rfl

/-- The statement leaves the columns of the thread alone and takes no message away. -/
structure OnlyAdds {α : Type} (threadId : UUID) (m : TableMethod α) : Prop where
  thread : Keeps (threadOf threadId) m
  messages : Grows (messageCount threadId) m

section Statements

variable {α β : Type} {threadId : UUID}

theorem onlyAdds_of_keeps {m : TableMethod α} (h : Keeps id m) : OnlyAdds threadId m :=
  ⟨h.map _, (h.map _).grows⟩

theorem OnlyAdds.bind {m : TableMethod α} {f : α → TableMethod β} (hm : OnlyAdds threadId m)
    (hf : ∀ a, OnlyAdds threadId (f a)) : OnlyAdds threadId (m >>= f) :=
  ⟨hm.thread.bind fun a => (hf a).thread, hm.messages.bind fun a => (hf a).messages⟩

theorem onlyAdds_updateSession {other organizationId : UUID} {f : ChatSession → ChatSession}
    (hthread : ∀ s, (f s).thread = s.thread)
    (hmessages : ∀ s, s.messages.length ≤ (f s).messages.length) :
    OnlyAdds threadId (assign fun tables => tables.updateSession other organizationId f) := by
  refine ⟨keeps_assign fun _ => part_updateSession hthread, grows_assign fun tables => ?_⟩
  unfold messageCount updateSession
  split
  · rename_i s hs
    by_cases hid : threadId = other
    · subst hid
      simp [part, (session_eq_some.1 hs).1, hmessages]
    · simp [part, Function.update_of_ne hid]
  · exact le_rfl

theorem onlyAdds_addMessage (message : ThreadMessage) : OnlyAdds threadId (addMessage message) :=
  (onlyAdds_of_keeps keeps_raiseIf).bind fun _ =>
    onlyAdds_updateSession (fun _ => rfl) fun _ => by simp [ChatSession.addMessage]

theorem onlyAdds_appendEvent (call : AppendCall) : OnlyAdds threadId (appendEvent call) := by
  refine (onlyAdds_of_keeps keeps_self).bind fun tables => ?_
  split
  · exact onlyAdds_of_keeps keeps_pure
  · exact (onlyAdds_of_keeps keeps_raiseIf).bind fun _ =>
      onlyAdds_updateSession (fun _ => rfl) fun _ => le_rfl

theorem onlyAdds_addRun (other : UUID) (run : AnalysisRun) :
    OnlyAdds threadId (addRun other run) :=
  (onlyAdds_of_keeps keeps_raiseIf).bind fun _ => (onlyAdds_of_keeps keeps_raiseIf).bind fun _ =>
    onlyAdds_updateSession (fun _ => rfl) fun _ => le_rfl

theorem onlyAdds_addJob (job : ExecutionJob) : OnlyAdds threadId (addJob job) :=
  ⟨keeps_assign fun _ => rfl, grows_assign fun _ => le_rfl⟩

theorem onlyAdds_enqueueEvents (events : List DomainEvent) :
    OnlyAdds threadId (enqueueEvents events) :=
  ⟨keeps_assign fun _ => rfl, grows_assign fun _ => le_rfl⟩

theorem addMessage_returns {message : ThreadMessage} {tables after : ThreadTables}
    (h : (addMessage message).call tables = (.ok (), after)) :
    (tables.session message.threadId message.organizationId).isSome = true ∧
      messageCount message.threadId after = messageCount message.threadId tables + 1 := by
  rw [addMessage, raiseIf_bind_returns, assign_returns] at h
  obtain ⟨hsession, rfl⟩ := h
  obtain ⟨s, hs⟩ := Option.ne_none_iff_exists'.1 (by simpa using hsession)
  refine ⟨by simp [hs], ?_⟩
  rw [messageCount, messageCount, part_updateSession_self hs, part, (session_eq_some.1 hs).1]
  simp [ChatSession.addMessage]

/-- Statements that add rows, and the one that saves an aggregate, leave the same row behind
once an aggregate is saved over it. -/
theorem OnlyAdds.savedOver {m : TableMethod α} (h : OnlyAdds threadId m)
    (thread : AnalysisRunThread) : Keeps (savedOver threadId thread) m := by
  have hkept := h.thread.map fun row => row.map fun row => row.savedAs thread
  simpa only [← savedOver_eq] using hkept

theorem keeps_saveThread (thread saved : AnalysisRunThread) :
    Keeps (savedOver threadId thread) (saveThread saved) :=
  keeps_raiseIf.bind fun _ => keeps_assign fun _ =>
    part_updateSession fun s => savedAs_savedAs s.thread saved thread

theorem saveThread_returns {thread : AnalysisRunThread} {tables after : ThreadTables}
    (h : (saveThread thread).call tables = (.ok (), after))
    (hsession : (tables.session thread.threadId thread.organizationId).isSome = true) :
    threadOf thread.threadId after = savedOver thread.threadId thread tables ∧
      contentsOf thread.threadId after = contentsOf thread.threadId tables := by
  rw [saveThread, raiseIf_bind_returns, assign_returns] at h
  obtain ⟨-, rfl⟩ := h
  refine ⟨?_, part_updateSession fun _ => rfl⟩
  obtain ⟨s, hs⟩ := Option.isSome_iff_exists.1 hsession
  rw [threadOf, part_updateSession_self hs, savedOver, part, (session_eq_some.1 hs).1]
  rfl

end Statements

namespace ThreadService

section Opening

variable {actor : AuthenticatedActor} {threadId : UUID} {thread : AnalysisRunThread}
  {tables after : ThreadTables}

theorem requireMutator_bind_returns {α : Type} {f : Unit → TableMethod α} {a : α} :
    (requireMutator actor >>= f).call tables = (.ok a, after) ↔
      actor.role ∈ threadMutatorRoles ∧ (f ()).call tables = (.ok a, after) := by
  rw [requireMutator, raiseIf_bind_returns, not_not]

theorem openThread_returns (h : (openThread actor threadId).call tables = (.ok thread, after)) :
    after = tables ∧ tables.getThread threadId actor.organizationId = some thread := by
  rw [openThread, bind_returns] at h
  obtain ⟨found, between, hfound, hvisible⟩ := h
  rw [requireThread, call_self_bind] at hfound
  split at hfound
  · cases hfound
    rw [requireVisible, raiseIf_bind_returns] at hvisible
    obtain ⟨-, hvisible⟩ := hvisible
    cases hvisible
    exact ⟨rfl, by assumption⟩
  · cases hfound

theorem requireWritableProject_returns {projectId organizationId : UUID}
    (h : (requireWritableProject projectId organizationId).call tables = (.ok (), after)) :
    after = tables := by
  rw [requireWritableProject, call_self_bind] at h
  split at h
  · cases h
  · split at h
    · cases h
    · cases h
      rfl

theorem openWritable_returns
    (h : (openWritable actor threadId).call tables = (.ok thread, after)) :
    after = tables ∧ tables.getThread threadId actor.organizationId = some thread ∧
      thread.status ≠ .archived := by
  rw [openWritable, bind_returns] at h
  obtain ⟨found, between, hfound, h⟩ := h
  obtain ⟨rfl, hfound⟩ := openThread_returns hfound
  rw [bind_returns] at h
  obtain ⟨⟨⟩, between, hproject, h⟩ := h
  obtain rfl := requireWritableProject_returns hproject
  split at h
  · cases h
  · rename_i hstatus
    cases h
    exact ⟨rfl, hfound, hstatus⟩

end Opening

section Turns

variable {threadId : UUID} {env : ThreadEnvironment} {actor : AuthenticatedActor}

theorem onlyAdds_feed (other : UUID) (kind : WorkFeedEventKind) (payload : Object)
    (occurredAt : Int) (eventId : UUID) :
    OnlyAdds threadId (feed actor other kind payload occurredAt eventId) :=
  onlyAdds_appendEvent _

theorem onlyAdds_postMessage (message : ThreadMessage) (eventId : UUID) :
    OnlyAdds threadId (postMessage env actor message eventId) :=
  (onlyAdds_addMessage message).bind fun _ => onlyAdds_feed _ _ _ _ _

theorem onlyAdds_clarify (thread : AnalysisRunThread) (routing : RoutingResult) :
    OnlyAdds threadId (clarify env actor thread routing) := by
  refine (onlyAdds_of_keeps keeps_eval).bind fun messages => ?_
  cases messages with
  | nil => exact onlyAdds_of_keeps keeps_raise
  | cons message rest =>
      exact (onlyAdds_addMessage message).bind fun _ => (onlyAdds_of_keeps keeps_eval).bind
        fun _ => (onlyAdds_feed _ _ _ _ _).bind fun _ => onlyAdds_of_keeps keeps_pure

theorem onlyAdds_postReply (thread : AnalysisRunThread) (messageId eventId : UUID)
    (text : String) (routing : RoutingResult) :
    OnlyAdds threadId (postReply env actor thread messageId eventId text routing) :=
  (onlyAdds_of_keeps keeps_eval).bind fun message => (onlyAdds_addMessage message).bind fun _ =>
    (onlyAdds_of_keeps keeps_eval).bind fun _ => (onlyAdds_feed _ _ _ _ _).bind fun _ =>
      onlyAdds_of_keeps keeps_pure

theorem onlyAdds_queueRun (other : UUID)
    (created : Except AnalysisRunTransitionError AnalysisRun) :
    OnlyAdds threadId (queueRun env actor other created) := by
  refine (onlyAdds_of_keeps keeps_eval).bind fun run => ?_
  split
  · exact onlyAdds_of_keeps keeps_raise
  · exact (onlyAdds_of_keeps keeps_eval).bind fun job => (onlyAdds_addRun _ _).bind fun _ =>
      (onlyAdds_addJob job).bind fun _ => (onlyAdds_enqueueEvents _).bind fun _ =>
        onlyAdds_of_keeps keeps_pure

/-- A way of conversing that only adds rows. -/
def Converses (conversing : Conversing) : Prop :=
  ∀ threadId thread content routing, OnlyAdds threadId (conversing thread content routing)

theorem converses_replying : Converses (replying env actor) := fun _ _ _ _ =>
  ((onlyAdds_of_keeps keeps_eval).bind fun _ => onlyAdds_postReply _ _ _ _ _).bind fun _ =>
    onlyAdds_of_keeps keeps_pure

theorem converses_streaming : Converses streaming := fun _ _ _ _ => onlyAdds_of_keeps keeps_pure

theorem create_eq_ok {unicode : UnicodeData} {messageId organizationId : UUID}
    {authorId : Option UUID} {kind : ThreadMessageKind} {content : String} {now : Int}
    {message : ThreadMessage}
    (h : ThreadMessage.create unicode messageId threadId organizationId authorId kind content now =
      .ok message) :
    message.threadId = threadId ∧ message.organizationId = organizationId := by
  obtain ⟨text, -, hmessage⟩ := bind_eq_ok.1 h
  cases hmessage
  exact ⟨rfl, rfl⟩

variable {thread : AnalysisRunThread} {tables after : ThreadTables}

theorem postMessage_returns {message : ThreadMessage} {eventId : UUID}
    (h : (postMessage env actor message eventId).call tables = (.ok (), after)) :
    (tables.session message.threadId message.organizationId).isSome = true ∧
      messageCount message.threadId tables < messageCount message.threadId after := by
  rw [postMessage, bind_returns] at h
  obtain ⟨⟨⟩, between, hadded, hfed⟩ := h
  obtain ⟨hsession, hcount⟩ := addMessage_returns hadded
  have hgrows : messageCount message.threadId between ≤ messageCount message.threadId after :=
    (onlyAdds_feed _ _ _ _ _).messages.returns hfed
  exact ⟨hsession, by omega⟩

theorem postReply_returns {messageId eventId : UUID} {text : String} {routing : RoutingResult}
    {message : ThreadMessage}
    (h : (postReply env actor thread messageId eventId text routing).call tables =
      (.ok message, after)) :
    threadOf thread.threadId after = threadOf thread.threadId tables ∧
      messageCount thread.threadId tables < messageCount thread.threadId after := by
  refine ⟨(onlyAdds_postReply _ _ _ _ _).thread.returns h, ?_⟩
  rw [postReply, eval_bind_returns] at h
  obtain ⟨created, hcreated, h⟩ := h
  rw [bind_returns] at h
  obtain ⟨⟨⟩, between, hadded, h⟩ := h
  have hcount := (addMessage_returns hadded).2
  rw [(create_eq_ok hcreated).1] at hcount
  have hrest : messageCount thread.threadId between ≤ messageCount thread.threadId after := by
    refine Grows.returns ?_ h
    exact ((onlyAdds_of_keeps keeps_eval).bind fun _ => (onlyAdds_feed _ _ _ _ _).bind fun _ =>
      onlyAdds_of_keeps keeps_pure).messages
  omega

/-- Whoever returns from the statements has saved the aggregate over the row, and has taken no
message away. -/
def Saves {α : Type} (thread : AnalysisRunThread) (m : TableMethod α) : Prop :=
  ∀ tables a after, (tables.session thread.threadId thread.organizationId).isSome = true →
    m.call tables = (.ok a, after) →
      threadOf thread.threadId after = savedOver thread.threadId thread tables ∧
        messageCount thread.threadId tables ≤ messageCount thread.threadId after

theorem Saves.returns {α : Type} {m : TableMethod α} {a : α} (h : Saves thread m)
    (hsession : (tables.session thread.threadId thread.organizationId).isSome = true)
    (hcall : m.call tables = (.ok a, after)) :
    threadOf thread.threadId after = savedOver thread.threadId thread tables ∧
      messageCount thread.threadId tables ≤ messageCount thread.threadId after :=
  h tables a after hsession hcall

theorem saves_raise {α : Type} {error : ThreadError} :
    Saves thread (raise error : TableMethod α) := by
  intro tables a after _ h
  cases h

theorem saves_saveThread {α : Type} {a : α} :
    Saves thread (saveThread thread >>= fun _ => pure a) := by
  intro tables b after hsession h
  rw [bind_returns] at h
  obtain ⟨⟨⟩, saved, hsaved, h⟩ := h
  cases h
  obtain ⟨hthread, hcontents⟩ := saveThread_returns hsaved hsession
  exact ⟨hthread, (messageCount_eq_of_contentsOf hcontents).ge⟩

theorem saves_bind {α β : Type} {m : TableMethod α} {f : α → TableMethod β}
    (hf : ∀ a, Saves thread (f a)) (hm : OnlyAdds thread.threadId m) : Saves thread (m >>= f) := by
  intro tables b after hsession h
  rw [bind_returns] at h
  obtain ⟨a, between, hadded, h⟩ := h
  have hkept := hm.thread.returns hadded
  obtain ⟨hthread, hcount⟩ := hf a between b after (by
    rw [session_isSome_iff, hkept]
    exact session_isSome_iff.1 hsession) h
  refine ⟨?_, (hm.messages.returns hadded).trans hcount⟩
  rw [hthread, savedOver_eq, savedOver_eq, hkept]

/-- **A follow-up** saves the aggregate that it was given over the row that it finds. -/
theorem followUpWith_returns {conversing : Conversing} (hconverses : Converses conversing)
    {content : String} {turn : ThreadTurn}
    (horganization : thread.organizationId = actor.organizationId)
    (h : (followUpWith env actor conversing thread content).call tables = (.ok turn, after)) :
    thread.status ≠ .archived ∧
      (∃ row, threadOf thread.threadId tables = some row ∧
        threadOf thread.threadId after = some (row.savedAs
          { thread with updatedAt := env.now, latestActivityAt := env.now })) ∧
      messageCount thread.threadId tables < messageCount thread.threadId after := by
  rw [followUpWith, call_self_bind] at h
  rw [eval_bind_returns] at h
  obtain ⟨message, hmessage, h⟩ := h
  rw [eval_bind_returns] at h
  obtain ⟨resolved, hresolved, h⟩ := h
  rw [eval_bind_returns] at h
  obtain ⟨recorded, hrecorded, h⟩ := h
  rw [bind_returns] at h
  obtain ⟨⟨⟩, posted, hposted, h⟩ := h
  obtain ⟨hwritable, hrecorded⟩ := AnalysisRunThread.recordMessage_eq_ok hrecorded
  obtain ⟨hid, hmessageOrganization⟩ := create_eq_ok hmessage
  obtain ⟨hsession, hcount⟩ := postMessage_returns hposted
  rw [hid, hmessageOrganization] at hsession
  rw [hid] at hcount
  obtain ⟨row, hrow, hrowOrganization⟩ := session_isSome_iff.1 hsession
  have hkept : threadOf thread.threadId posted = some row :=
    ((onlyAdds_postMessage _ _).thread.returns hposted).trans hrow
  have hends : threadOf recorded.threadId after = savedOver recorded.threadId recorded posted ∧
      messageCount recorded.threadId posted ≤ messageCount recorded.threadId after := by
    -- each branch of the routing adds its rows before the aggregate is saved
    refine Saves.returns ?_ (session_isSome_iff.2 ⟨row, by rwa [hrecorded], ?_⟩) h
    · split
      · exact saves_bind (fun _ => saves_saveThread) (hconverses _ _ _ _)
      · split
        · exact saves_raise
        · exact saves_bind (fun _ => saves_bind (fun _ => saves_saveThread)
            (onlyAdds_feed _ _ _ _ _)) (onlyAdds_queueRun _ _)
      · exact saves_bind (fun _ => saves_saveThread) (onlyAdds_clarify _ _)
      · exact saves_bind (fun _ => saves_saveThread) (onlyAdds_clarify _ _)
    · rw [hrecorded]
      exact hrowOrganization.trans horganization.symm
  rw [hrecorded, savedOver_eq, hkept] at hends
  exact ⟨hwritable, ⟨row, hrow, hends.1⟩, lt_of_lt_of_le hcount hends.2⟩

theorem followUpWith_threadId {conversing : Conversing} {content : String} :
    Triple (fun _ => True) (followUpWith env actor conversing thread content)
      (fun turn _ => turn.thread.threadId = thread.threadId) fun _ _ => True := by
  unfold followUpWith
  refine triple_trivial.bind fun tables => triple_trivial.bind fun message =>
    triple_trivial.bind fun resolved =>
      (triple_eval (fun recorded h _ _ => h) fun _ _ _ _ => trivial).bind fun recorded => ?_
  refine Triple.of_each fun _ hrecorded => triple_trivial.bind fun _ => ?_
  have hid : recorded.threadId = thread.threadId := by
    rw [(AnalysisRunThread.recordMessage_eq_ok hrecorded).2]
  have hends (turn : ThreadTurn) (hturn : turn.thread = recorded) :
      Triple (fun _ => True) (saveThread recorded >>= fun _ => pure turn)
        (fun turn _ => turn.thread.threadId = thread.threadId) fun _ _ => True :=
    triple_trivial.bind fun _ => triple_pure fun _ _ => (congrArg _ hturn).trans hid
  split
  · exact triple_trivial.bind fun _ => hends _ rfl
  · split
    · exact triple_raise fun _ _ => trivial
    · exact triple_trivial.bind fun _ => triple_trivial.bind fun _ => hends _ rfl
  · exact triple_trivial.bind fun _ => hends _ rfl
  · exact triple_trivial.bind fun _ => hends _ rfl

/-- The disposition gives a draft its title. -/
def Retitles (routing : RoutingResult) : Prop :=
  routing.disposition = .notAnalytical ∨ routing.disposition = .resolved

instance (routing : RoutingResult) : Decidable (Retitles routing) :=
  inferInstanceAs (Decidable (_ ∨ _))

/-- What a turn does to the aggregate in memory. -/
structure Turned (thread : AnalysisRunThread) (turn : ThreadTurn) : Prop where
  threadId : turn.thread.threadId = thread.threadId
  organizationId : turn.thread.organizationId = thread.organizationId
  writable : turn.thread.status ≠ .archived
  title : ¬ Retitles turn.routing → turn.thread.title = thread.title

section Draft

variable {conversing : Conversing} {message : ThreadMessage} {routing : RoutingResult}
  {scope : Option DataConnectionId}

theorem keeps_applyRoutingWith (hconverses : Converses conversing) (saved : AnalysisRunThread) :
    Keeps (savedOver threadId saved)
      (applyRoutingWith env actor conversing thread message routing scope) := by
  unfold applyRoutingWith
  split
  · exact keeps_eval.bind fun _ => (keeps_saveThread _ _).bind fun _ =>
      ((hconverses _ _ _ _).savedOver saved).bind fun _ => keeps_pure
  · split
    · exact keeps_raise
    · exact ((onlyAdds_queueRun _ _).savedOver saved).bind fun _ => keeps_eval.bind fun _ =>
        (keeps_saveThread _ _).bind fun _ => keeps_eval.bind fun _ =>
          ((onlyAdds_feed _ _ _ _ _).savedOver saved).bind fun _ =>
            ((onlyAdds_feed _ _ _ _ _).savedOver saved).bind fun _ => keeps_pure
  · exact ((onlyAdds_clarify _ _).savedOver saved).bind fun _ => keeps_pure
  · exact ((onlyAdds_clarify _ _).savedOver saved).bind fun _ => keeps_pure

theorem turned_of_activate {title : String} {active : AnalysisRunThread} {turn : ThreadTurn}
    (hactive : AnalysisRunThread.activate { thread with title := title } env.now = .ok active)
    (hthread : turn.thread = active) (hretitles : Retitles turn.routing) :
    Turned thread turn := by
  obtain ⟨hwritable, rfl⟩ := AnalysisRunThread.activate_eq_ok hactive
  exact ⟨by rw [hthread], by rw [hthread], by rw [hthread]; simp, fun h => (h hretitles).elim⟩

theorem applyRoutingWith_turned (hwritable : thread.status ≠ .archived) :
    Triple (fun _ => True)
      (applyRoutingWith env actor conversing thread message routing scope)
      (fun turn _ => Turned thread turn) fun _ _ => True := by
  unfold applyRoutingWith
  split
  next hdisposition =>
    refine (triple_eval (fun active h _ _ => h) fun _ _ _ _ => trivial).bind fun active => ?_
    refine Triple.of_each fun _ hactive => triple_trivial.bind fun _ => triple_trivial.bind
      fun conversed => triple_pure fun _ _ => ?_
    exact turned_of_activate hactive rfl (.inl hdisposition)
  next hdisposition =>
    split
    · exact triple_raise fun _ _ => trivial
    · refine triple_trivial.bind fun run =>
        (triple_eval (fun active h _ _ => h) fun _ _ _ _ => trivial).bind fun active => ?_
      refine Triple.of_each fun _ hactive => triple_trivial.bind fun _ => triple_trivial.bind
        fun _ => triple_trivial.bind fun _ => triple_trivial.bind fun _ => triple_pure fun _ _ => ?_
      exact turned_of_activate hactive rfl (.inr hdisposition)
  · exact triple_trivial.bind fun _ => triple_pure fun _ _ => ⟨rfl, rfl, hwritable, fun _ => rfl⟩
  · exact triple_trivial.bind fun _ => triple_pure fun _ _ => ⟨rfl, rfl, hwritable, fun _ => rfl⟩

theorem routedDraft_returns (hconverses : Converses conversing) {turn : ThreadTurn}
    {row : AnalysisRunThread} (hrow : threadOf thread.threadId tables = some row)
    (horganization : row.organizationId = thread.organizationId)
    (h : (do
      let thread ← eval (thread.recordMessage env.now)
      postMessage env actor message (env.newId 1)
      let turn ← applyRoutingWith env actor conversing thread message routing scope
      saveThread turn.thread
      pure turn : TableMethod ThreadTurn).call tables = (.ok turn, after)) :
    Turned thread turn ∧
      threadOf thread.threadId after = some (row.savedAs turn.thread) := by
  rw [eval_bind_returns] at h
  obtain ⟨recorded, hrecorded, h⟩ := h
  obtain ⟨hwritable, rfl⟩ := AnalysisRunThread.recordMessage_eq_ok hrecorded
  rw [bind_returns] at h
  obtain ⟨⟨⟩, posted, hposted, h⟩ := h
  rw [bind_returns] at h
  obtain ⟨applied, routed, hrouted, h⟩ := h
  rw [bind_returns] at h
  obtain ⟨⟨⟩, saved, hsaved, h⟩ := h
  cases h
  have hturned := (applyRoutingWith_turned (by exact hwritable)).returns trivial hrouted
  have hkept : savedOver thread.threadId turn.thread routed =
      savedOver thread.threadId turn.thread tables :=
    ((keeps_applyRoutingWith hconverses _).returns hrouted).trans
      (((onlyAdds_postMessage _ _).savedOver _).returns hposted)
  rw [savedOver_eq, savedOver_eq, hrow] at hkept
  obtain ⟨rowRouted, hrowRouted, hsame⟩ := Option.map_eq_some_iff.1 hkept
  have hsession : (routed.session turn.thread.threadId turn.thread.organizationId).isSome := by
    refine session_isSome_iff.2 ⟨rowRouted, by rw [hturned.threadId]; exact hrowRouted, ?_⟩
    rw [hturned.organizationId]
    exact (congrArg AnalysisRunThread.organizationId hsame).trans horganization
  have hthread := (saveThread_returns hsaved hsession).1
  rw [hturned.threadId, savedOver_eq, hrowRouted] at hthread
  exact ⟨⟨hturned.threadId, hturned.organizationId, hturned.writable, hturned.title⟩,
    hthread.trans (congrArg some hsame)⟩

/-- **A turn of a draft** saves the aggregate as it has left it over the row that it finds. -/
theorem appendDraftWith_returns (hconverses : Converses conversing) {content : String}
    {given : Option RoutingResult} {turn : ThreadTurn} {row : AnalysisRunThread}
    (hrow : threadOf thread.threadId tables = some row)
    (horganization : row.organizationId = thread.organizationId)
    (h : (appendDraftWith env actor conversing thread content given).call tables =
      (.ok turn, after)) :
    Turned thread turn ∧
      threadOf thread.threadId after = some (row.savedAs turn.thread) := by
  rw [appendDraftWith, eval_bind_returns] at h
  obtain ⟨message, -, h⟩ := h
  rw [call_self_bind] at h
  cases given with
  | some routing => exact routedDraft_returns hconverses hrow horganization h
  | none =>
      obtain ⟨routing, -, h⟩ := eval_bind_returns.1 h
      exact routedDraft_returns hconverses hrow horganization h

end Draft

end Turns

section Operations

variable {threadId : UUID} {env : ThreadEnvironment} {actor : AuthenticatedActor}
  {thread saved : AnalysisRunThread} {tables after : ThreadTables}

theorem saveOpened_returns
    (hopened : tables.getThread threadId actor.organizationId = some thread)
    (hid : saved.threadId = thread.threadId)
    (horganization : saved.organizationId = thread.organizationId)
    (h : (saveThread saved).call tables = (.ok (), after)) :
    ∃ row, threadOf threadId tables = some row ∧ thread = { row with threadId := threadId } ∧
      threadOf threadId after = some (row.savedAs saved) ∧
      contentsOf threadId after = contentsOf threadId tables := by
  obtain ⟨row, hrow, hrowOrganization, rfl⟩ := getThread_eq_some.1 hopened
  obtain rfl : saved.threadId = threadId := hid
  obtain ⟨hthread, hcontents⟩ := saveThread_returns h
    (session_isSome_iff.2 ⟨row, hrow, horganization.symm⟩)
  rw [savedOver_eq, hrow] at hthread
  exact ⟨row, hrow, rfl, hthread, hcontents⟩

theorem saveChanged_returns {α : Type} {a : α} {rest : Unit → TableMethod α}
    (hopened : tables.getThread threadId actor.organizationId = some thread)
    (hid : saved.threadId = thread.threadId)
    (horganization : saved.organizationId = thread.organizationId)
    (hrest : ∀ u, Keeps id (rest u))
    (h : (saveThread saved >>= rest).call tables = (.ok a, after)) :
    ∃ row, threadOf threadId tables = some row ∧ thread = { row with threadId := threadId } ∧
      threadOf threadId after = some (row.savedAs saved) ∧
      contentsOf threadId after = contentsOf threadId tables := by
  rw [bind_returns] at h
  obtain ⟨⟨⟩, between, hsaved, h⟩ := h
  obtain rfl : after = between := (hrest ()).returns h
  exact saveOpened_returns hopened hid horganization hsaved

theorem changeStatus_returns {back : Bool} {detail : ThreadDetail}
    (h : (changeStatus env actor threadId back).call tables = (.ok detail, after)) :
    ∃ row thread, threadOf threadId tables = some row ∧ thread = { row with threadId := threadId } ∧
      threadOf threadId after =
        some (row.savedAs (if back then thread.restore env.now else thread.archive env.now)) ∧
      contentsOf threadId after = contentsOf threadId tables := by
  rw [changeStatus, bind_returns] at h
  obtain ⟨thread, between, hopened, h⟩ := h
  obtain ⟨rfl, hopened⟩ := openThread_returns hopened
  have hkept : (if back then thread.restore env.now else thread.archive env.now).threadId =
        thread.threadId ∧
      (if back then thread.restore env.now else thread.archive env.now).organizationId =
        thread.organizationId := by
    unfold AnalysisRunThread.archive AnalysisRunThread.restore
    split <;> split <;> exact ⟨rfl, rfl⟩
  obtain ⟨row, hrow, hthread, hafter⟩ : ∃ row, threadOf threadId between = some row ∧
      thread = { row with threadId := threadId } ∧
      threadOf threadId after =
        some (row.savedAs (if back then thread.restore env.now else thread.archive env.now)) ∧
      contentsOf threadId after = contentsOf threadId between := by
    cases back with
    | false =>
        exact saveChanged_returns hopened hkept.1 hkept.2
          (fun _ => keeps_self.bind fun _ => keeps_self.bind fun _ => keeps_pure) h
    | true =>
        rw [if_pos rfl, bind_returns] at h
        obtain ⟨⟨⟩, between, hproject, h⟩ := h
        obtain rfl := requireWritableProject_returns hproject
        exact saveChanged_returns hopened hkept.1 hkept.2
          (fun _ => keeps_self.bind fun _ => keeps_self.bind fun _ => keeps_pure) h
  exact ⟨row, thread, hrow, hthread, hafter⟩

/-- `archive` saves the thread archived, under its title. -/
theorem archive_returns {detail : ThreadDetail}
    (h : (archive env actor threadId).call tables = (.ok detail, after)) :
    ∃ row row', threadOf threadId tables = some row ∧ threadOf threadId after = some row' ∧
      row'.status = .archived ∧ row'.title = row.title ∧
      contentsOf threadId after = contentsOf threadId tables := by
  rw [archive, requireMutator_bind_returns] at h
  obtain ⟨row, thread, hrow, rfl, hafter, hcontents⟩ := changeStatus_returns h.2
  refine ⟨row, _, hrow, hafter, ?_, ?_, hcontents⟩
  all_goals
    simp only [AnalysisRunThread.savedAs, AnalysisRunThread.archive, Bool.false_eq_true, if_false]
    split
    · first | assumption | rfl
    · rfl

theorem restore_returns {detail : ThreadDetail}
    (h : (restore env actor threadId).call tables = (.ok detail, after)) :
    ∃ row row', threadOf threadId tables = some row ∧ threadOf threadId after = some row' ∧
      row'.title = row.title ∧ contentsOf threadId after = contentsOf threadId tables := by
  rw [restore, requireMutator_bind_returns] at h
  obtain ⟨row, thread, hrow, rfl, hafter, hcontents⟩ := changeStatus_returns h.2
  refine ⟨row, _, hrow, hafter, ?_, hcontents⟩
  simp only [AnalysisRunThread.savedAs, AnalysisRunThread.restore, if_true]
  split <;> rfl

theorem renameThread_returns {title : String}
    (h : (renameThread env actor threadId title).call tables = (.ok (), after)) :
    ∃ row row', threadOf threadId tables = some row ∧ threadOf threadId after = some row' ∧
      normalizedTitle title = .ok row'.title ∧ row'.status = row.status ∧
      contentsOf threadId after = contentsOf threadId tables := by
  rw [renameThread, requireMutator_bind_returns, bind_returns] at h
  obtain ⟨-, thread, between, hopened, h⟩ := h
  obtain ⟨rfl, hopened⟩ := openThread_returns hopened
  rw [eval_bind_returns] at h
  obtain ⟨renamed, hrenamed, h⟩ := h
  obtain ⟨stored, hstored, hrenamed⟩ := bind_eq_ok.1 hrenamed
  cases hrenamed
  obtain ⟨row, hrow, rfl, hafter, hcontents⟩ := saveOpened_returns hopened (by exact rfl) (by exact rfl) h
  exact ⟨row, _, hrow, hafter, hstored, rfl, hcontents⟩

theorem delete_returns (h : (delete actor threadId).call tables = (.ok (), after)) :
    ∃ row, threadOf threadId tables = some row ∧ row.status = .draft := by
  rw [delete, requireMutator_bind_returns, bind_returns] at h
  obtain ⟨-, thread, between, hopened, h⟩ := h
  obtain ⟨rfl, hopened⟩ := openThread_returns hopened
  obtain ⟨row, hrow, -, rfl⟩ := getThread_eq_some.1 hopened
  rw [call_self_bind] at h
  refine ⟨row, hrow, ?_⟩
  dsimp only at h
  split at h
  · cases h
  · cases h
  next hdeletable => exact (AnalysisRunThread.ensureDeletable_eq_ok.1 hdeletable).1

/-- What a turn leaves of the row: it is not archived, and it has the title that it had unless
the turn is that of a draft and its disposition sets it. -/
structure TurnedRow (row row' : AnalysisRunThread) (routing : RoutingResult) : Prop where
  writable : row'.status ≠ .archived
  title : row'.title ≠ row.title → row.status ≠ .active ∧ Retitles routing

theorem turnedRow_of_draft {turn : ThreadTurn} {row : AnalysisRunThread}
    (h : Turned { row with threadId := threadId } turn) (hstatus : row.status ≠ .active) :
    TurnedRow row (row.savedAs turn.thread) turn.routing := by
  refine ⟨h.writable, fun htitle => ⟨hstatus, ?_⟩⟩
  by_contra hretitles
  exact htitle (h.title hretitles)

/-- `append` returns a turn of a row that was not archived. -/
theorem append_returns {content : String} {routing : Option RoutingResult}
    {detail : ThreadDetail}
    (h : (append env actor threadId content routing).call tables = (.ok detail, after)) :
    ∃ row row' routing, threadOf threadId tables = some row ∧ row.status ≠ .archived ∧
      threadOf threadId after = some row' ∧ detail.routing = some routing ∧
      TurnedRow row row' routing := by
  rw [append, requireMutator_bind_returns, bind_returns] at h
  obtain ⟨-, thread, between, hopened, h⟩ := h
  obtain ⟨rfl, hopened, hwritable⟩ := openWritable_returns hopened
  obtain ⟨row, hrow, hrowOrganization, rfl⟩ := getThread_eq_some.1 hopened
  dsimp only at h
  split at h
  next hactive =>
    rw [bind_returns] at h
    obtain ⟨turn, turned, hturned, h⟩ := h
    cases h
    obtain ⟨-, ⟨found, hfound, hafter⟩, -⟩ :=
      followUpWith_returns converses_replying (by exact hrowOrganization) hturned
    obtain rfl : row = found := Option.some.inj (hrow.symm.trans hfound)
    exact ⟨row, _, turn.routing, hrow, hwritable, hafter, rfl, hwritable,
      fun htitle => (htitle rfl).elim⟩
  next hactive =>
    rw [bind_returns] at h
    obtain ⟨turn, turned, hturned, h⟩ := h
    cases h
    obtain ⟨hturn, hafter⟩ := appendDraftWith_returns converses_replying (by exact hrow) (by exact rfl) hturned
    exact ⟨row, _, turn.routing, hrow, hwritable, hafter, rfl, turnedRow_of_draft hturn hactive⟩

/-- The first transaction of `append_streaming` hands an active thread on as it is, or it is
a turn of a draft. -/
theorem appendStreamingOpen_returns {content : String} {routing : Option RoutingResult}
    {opened : AnalysisRunThread ⊕ ThreadTurn}
    (h : (appendStreamingOpen env actor threadId content routing).call tables =
      (.ok opened, after)) :
    ∃ row, threadOf threadId tables = some row ∧ row.status ≠ .archived ∧
      match opened with
      | .inl thread => after = tables ∧ row.organizationId = actor.organizationId ∧
          thread = { row with threadId := threadId }
      | .inr turn => ∃ row', threadOf threadId after = some row' ∧
          turn.thread.threadId = threadId ∧ TurnedRow row row' turn.routing := by
  rw [appendStreamingOpen, requireMutator_bind_returns, bind_returns] at h
  obtain ⟨-, thread, between, hopened, h⟩ := h
  obtain ⟨rfl, hopened, hwritable⟩ := openWritable_returns hopened
  obtain ⟨row, hrow, hrowOrganization, rfl⟩ := getThread_eq_some.1 hopened
  refine ⟨row, hrow, hwritable, ?_⟩
  split at h
  next hactive =>
    cases h
    exact ⟨rfl, hrowOrganization, rfl⟩
  next hactive =>
    rw [bind_returns] at h
    obtain ⟨turn, turned, hturned, h⟩ := h
    cases h
    obtain ⟨hturn, hafter⟩ := appendDraftWith_returns converses_streaming (by exact hrow) (by exact rfl) hturned
    exact ⟨_, hafter, hturn.threadId, turnedRow_of_draft hturn hactive⟩

end Operations

end ThreadService

end Zentra
