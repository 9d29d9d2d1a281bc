import Mathlib.Data.Prod.Lex
import Mathlib.Logic.Function.Basic
import Zentra.ApprovalDecision
import Zentra.RaisingTriple
import Zentra.RunRow
import Zentra.Thread
import Zentra.WorkFeed

/-!
# The tables of threads

A row of `chat_sessions` with the rows that point to it: messages, feed events and Analysis
Runs.  The counters of the row number its messages and its events.

* `addMessage`, `appendEvent`, `addRun`, `saveThread`, `deleteThread` — the writes;
* `listThreads` — one page of the threads of a group that a viewer may see.
-/

open JsonDocument Raising Raising.Method TableRows

namespace Zentra

/-- A row of `messages`. -/
structure MessageRow where
  message : ThreadMessage
  sequence : Nat
  deriving DecidableEq, Repr

/-- A row of `chat_sessions`; the thread's identifier is its key. -/
structure ChatSession where
  thread : AnalysisRunThread
  /-- `visibility = 'private'` -/
  isPrivate : Bool := false
  nextMessageSequence : Nat := 1
  nextEventSequence : Nat := 1
  messages : List MessageRow := []
  events : List ThreadEvent := []
  runs : List AnalysisRun := []

/-- A row of `workspace_groups`. -/
structure Group where
  organizationId : UUID
  archivedAt : Option Int := none
  deriving DecidableEq, Repr

structure UsageSummary where
  inputTokens : Int := 0
  outputTokens : Int := 0
  costUsd : Rat := 0
  latencyMs : Int := 0
  deriving DecidableEq

/-- What other tables hold of an Analysis Run. -/
structure RunReadings where
  approval : Option HumanApproval := none
  draftFinding : Option DraftFinding := none
  citations : List EvidenceCitation := []
  usage : UsageSummary := {}
  /-- an audit record has not been dispatched -/
  undispatched : Bool := false

structure ThreadTables where
  groups : UUID → Option Group
  sessions : UUID → Option ChatSession
  /-- the keys of `chat_sessions`, as the table is scanned -/
  threadIds : List UUID
  jobs : List ExecutionJob := []
  outbox : List DomainEvent := []
  readings : UUID → RunReadings := fun _ => {}

abbrev TableMethod (α : Type) : Type := Method ThreadTables ThreadError α

namespace ThreadTables

variable (tables : ThreadTables)

/-- The row of a thread of an organization. -/
def session (threadId organizationId : UUID) : Option ChatSession :=
  (tables.sessions threadId).filter fun s => s.thread.organizationId = organizationId

def getThread (threadId organizationId : UUID) : Option AnalysisRunThread :=
  (tables.session threadId organizationId).map fun s => { s.thread with threadId := threadId }

/-- `visibility_and_creator`: whether the thread is private, and who created it. -/
def visibilityAndCreator (threadId organizationId : UUID) : Option (Bool × Option UUID) :=
  (tables.session threadId organizationId).map fun s => (s.isPrivate, s.thread.createdBy)

def getGroup (groupId organizationId : UUID) : Option Group :=
  (tables.groups groupId).filter fun group => group.organizationId = organizationId

def messagesForThread (threadId organizationId : UUID) : List ThreadMessage :=
  match tables.session threadId organizationId with
  | some s =>
      (orderedBy (fun row : MessageRow => toLex (row.message.createdAt, row.sequence))
        s.messages).map MessageRow.message
  | none => []

def allForThread (threadId organizationId : UUID) : List AnalysisRun :=
  match tables.session threadId organizationId with
  | some s => orderedBy (fun run : AnalysisRun => run.threadSequence.getD 0) s.runs
  | none => []

def latestForThread (threadId organizationId : UUID) : Option AnalysisRun :=
  (tables.allForThread threadId organizationId).getLast?

def analysisRunIdForThread (threadId organizationId : UUID) : Option UUID :=
  (tables.latestForThread threadId organizationId).map AnalysisRun.analysisRunId

def latestSequence (threadId organizationId : UUID) : Nat :=
  match tables.session threadId organizationId with
  | some s => s.nextEventSequence - 1
  | none => 0

def eventsAfter (threadId organizationId : UUID) (after limit : Nat) : List ThreadEvent :=
  match tables.session threadId organizationId with
  | some s => Zentra.eventsAfter s.events threadId organizationId after limit
  | none => []

def HasEvent (eventId : UUID) : Prop :=
  ∃ threadId ∈ tables.threadIds, ∃ s, tables.sessions threadId = some s ∧
    ∃ event ∈ s.events, event.eventId = eventId

instance (eventId : UUID) : Decidable (tables.HasEvent eventId) :=
  decidable_of_iff (tables.threadIds.any fun threadId => (tables.sessions threadId).any fun s =>
    s.events.any fun event => event.eventId = eventId) (by
      simp [HasEvent, Option.any_eq_true])

/-- `UPDATE chat_sessions` at a row of an organization. -/
def updateSession (threadId organizationId : UUID) (f : ChatSession → ChatSession) :
    ThreadTables :=
  match tables.session threadId organizationId with
  | some s => { tables with sessions := Function.update tables.sessions threadId (some (f s)) }
  | none => tables

end ThreadTables

/-- What `save_thread` writes of an aggregate over the columns of its row. -/
def AnalysisRunThread.savedAs (row thread : AnalysisRunThread) : AnalysisRunThread :=
  { row with
    title := thread.title
    status := thread.status
    archivedFromStatus := thread.archivedFromStatus
    updatedAt := thread.updatedAt
    latestActivityAt := thread.latestActivityAt
    archivedAt := thread.archivedAt }

/-- The row with the aggregate saved. -/
def ChatSession.save (s : ChatSession) (thread : AnalysisRunThread) : ChatSession :=
  { s with thread := s.thread.savedAs thread }

def ChatSession.addMessage (s : ChatSession) (message : ThreadMessage) : ChatSession :=
  { s with
    nextMessageSequence := s.nextMessageSequence + 1
    messages := s.messages ++ [⟨message, s.nextMessageSequence⟩] }

def ChatSession.addEvent (s : ChatSession) (call : AppendCall) : ChatSession :=
  { s with
    nextEventSequence := s.nextEventSequence + 1
    events := s.events ++ [call.event s.nextEventSequence 0] }

/-- A run of the thread; its events go to the outbox. -/
def ChatSession.addRun (s : ChatSession) (run : AnalysisRun) : ChatSession :=
  { s with runs := s.runs ++ [{ run with events := [] }] }

namespace ThreadRepository

def addThread (thread : AnalysisRunThread) : TableMethod Unit := do
  raiseIf (fun tables => (tables.sessions thread.threadId).isSome)
    fun _ => .integrity "chat_sessions_pkey"
  raiseIf (fun tables => (tables.getGroup thread.projectId thread.organizationId).isNone)
    fun _ => .integrity "fk_chat_sessions_group_organization"
  assign fun tables =>
    { tables with
      sessions := Function.update tables.sessions thread.threadId (some { thread := thread })
      threadIds := tables.threadIds ++ [thread.threadId] }

def saveThread (thread : AnalysisRunThread) : TableMethod Unit := do
  raiseIf (fun tables =>
      (tables.session thread.threadId thread.organizationId).isSome ∧
        ¬ (1 ≤ thread.title.length ∧ thread.title.length ≤ 80))
    fun _ => .integrity "ck_chat_sessions_title_length"
  assign fun tables =>
    tables.updateSession thread.threadId thread.organizationId fun s => s.save thread

/-- `delete_thread`; the messages and the events go with the row, an Analysis Run keeps it. -/
def deleteThread (threadId organizationId : UUID) : TableMethod Unit := do
  raiseIf (fun tables =>
      (tables.session threadId organizationId).any fun s => decide (s.runs ≠ []))
    fun _ => .integrity "fk_analysis_runs_chat_session_organization"
  assign fun tables =>
    match tables.session threadId organizationId with
    | some _ => { tables with sessions := Function.update tables.sessions threadId none }
    | none => tables

def addMessage (message : ThreadMessage) : TableMethod Unit := do
  raiseIf (fun tables => (tables.session message.threadId message.organizationId).isNone)
    fun _ => .noResultFound
  assign fun tables =>
    tables.updateSession message.threadId message.organizationId fun s => s.addMessage message

/-- `work_feed.append`; an event that is there already is not written again. -/
def appendEvent (call : AppendCall) : TableMethod Unit := do
  let tables ← self
  if call.eventId.any fun eventId => tables.HasEvent eventId then pure ()
  else do
    raiseIf (fun tables => (tables.session call.threadId call.organizationId).isNone)
      fun _ => .noResultFound
    assign fun tables =>
      tables.updateSession call.threadId call.organizationId fun s => s.addEvent call

/-- `analysis_runs.add`. -/
def addRun (threadId : UUID) (run : AnalysisRun) : TableMethod Unit := do
  raiseIf (fun tables => (tables.session threadId run.organizationId).isNone)
    fun _ => .integrity "fk_analysis_runs_chat_session_organization"
  raiseIf (fun tables => (tables.session threadId run.organizationId).any fun s =>
      s.runs.any fun other => other.threadSequence = run.threadSequence)
    fun _ => .integrity "uq_analysis_runs_chat_sequence"
  assign fun tables => tables.updateSession threadId run.organizationId fun s => s.addRun run

def addJob (job : ExecutionJob) : TableMethod Unit :=
  assign fun tables => { tables with jobs := tables.jobs ++ [job] }

/-- `outbox.enqueue`. -/
def enqueueEvents (events : List DomainEvent) : TableMethod Unit :=
  assign fun tables => { tables with outbox := tables.outbox ++ events }

end ThreadRepository

structure ThreadCursor where
  activityAt : Int
  threadId : UUID
  deriving DecidableEq, Repr

structure ThreadSummary where
  threadId : UUID
  projectId : UUID
  title : String
  status : ThreadStatus
  latestActivityAt : Int
  analysisRunId : Option UUID
  deriving DecidableEq, Repr

/-- `ThreadPage`, and `ThreadSlice`. -/
structure ThreadPage where
  items : List ThreadSummary
  nextCursor : Option ThreadCursor
  deriving DecidableEq, Repr

/-- What `list_threads` asks for. -/
structure ThreadListing where
  organizationId : UUID
  projectId : UUID
  viewerId : UUID
  includeArchived : Bool := false
  limit : Nat
  after : Option ThreadCursor := none
  deriving DecidableEq, Repr

namespace ThreadListing

variable (listing : ThreadListing)

def Shows (s : ChatSession) : Prop :=
  s.isPrivate = false ∨ s.thread.createdBy = some listing.viewerId

instance (s : ChatSession) : Decidable (listing.Shows s) :=
  inferInstanceAs (Decidable (_ ∨ _))

/-- The `WHERE` of the query. -/
def Admits (threadId : UUID) (s : ChatSession) : Prop :=
  s.thread.organizationId = listing.organizationId ∧ s.thread.projectId = listing.projectId ∧
    listing.Shows s ∧ (listing.includeArchived = true ∨ s.thread.status ≠ .archived) ∧
    ∀ cursor ∈ listing.after,
      toLex (s.thread.latestActivityAt, threadId) < toLex (cursor.activityAt, cursor.threadId)

instance (threadId : UUID) (s : ChatSession) : Decidable (listing.Admits threadId s) :=
  inferInstanceAs (Decidable (_ ∧ _ ∧ _ ∧ _ ∧ _))

/-- The summary of a row; its Analysis Run is that of the highest sequence. -/
def summary (threadId : UUID) (s : ChatSession) : ThreadSummary where
  threadId := threadId
  projectId := s.thread.projectId
  title := s.thread.title
  status := s.thread.status
  latestActivityAt := s.thread.latestActivityAt
  analysisRunId := (orderedBy (fun run : AnalysisRun => run.threadSequence.getD 0)
    s.runs).getLast?.map AnalysisRun.analysisRunId

/-- The summary of the row with a key, if the query reads it. -/
def read (tables : ThreadTables) (threadId : UUID) : Option ThreadSummary :=
  ((tables.sessions threadId).filter fun s => listing.Admits threadId s).map (summary threadId)

end ThreadListing

def listThreads (tables : ThreadTables) (listing : ThreadListing) : ThreadPage :=
  let summaries := ((orderedBy
    (fun summary : ThreadSummary => toLex (summary.latestActivityAt, summary.threadId))
    (tables.threadIds.filterMap (listing.read tables))).reverse).take (listing.limit + 1)
  if summaries.length ≤ listing.limit then ⟨summaries, none⟩
  else
    let visible := summaries.take listing.limit
    ⟨visible, visible.getLast?.map fun last => ⟨last.latestActivityAt, last.threadId⟩⟩

end Zentra
