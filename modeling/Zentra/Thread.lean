import Zentra.AnalysisRun
import Zentra.PythonText

/-!
# Threads

A conversation of an organization: its messages, and the aggregate that says whether it is
still a draft, active, or archived.

* `normalizeMessageContent`, `deterministicThreadTitle` — the texts of messages and titles;
* `AnalysisRunThread` — the aggregate and its methods; an archived thread accepts no
  message and goes back where it came from when it is restored.
-/

namespace Zentra

/-- What the operations on threads raise. -/
inductive ThreadError
  /-- `ThreadMessageError` -/
  | message (text : String)
  /-- `ThreadTransitionError` -/
  | transition (text : String)
  /-- `ThreadNotFoundError` -/
  | notFound (text : String)
  /-- `ThreadConflictError` -/
  | conflict (text : String)
  /-- `PermissionDeniedError` -/
  | permissionDenied (text : String)
  /-- `ValueError` and the `ValidationError` of a model -/
  | value (text : String)
  /-- `IndexError` -/
  | index
  /-- `AssertionError` -/
  | assertion
  /-- `NoResultFound` of a query for one row -/
  | noResultFound
  /-- `IntegrityError` with the constraint -/
  | integrity (constraint : String)
  /-- an Analysis Run that refuses -/
  | run (error : AnalysisRunTransitionError)
  /-- an Execution Job that refuses -/
  | job (error : JobError)
  /-- what a port raises -/
  | port (text : String)
  deriving DecidableEq, Repr

/-- What `unicodedata` knows of texts and characters. -/
structure UnicodeData where
  nfkc : String → String
  category : Char → String

def maxThreadMessageLength : Nat := 4000

def maxThreadTitleLength : Nat := 80

inductive ThreadMessageKind
  | userQuestion
  | userClarification
  | routerClarification
  | safeSystem
  | assistantReply
  deriving DecidableEq, Repr

def ThreadMessageKind.value : ThreadMessageKind → String
  | userQuestion => "user_question"
  | userClarification => "user_clarification"
  | routerClarification => "router_clarification"
  | safeSystem => "safe_system"
  | assistantReply => "assistant_reply"

def normalizeMessageContent (unicode : UnicodeData) (value : String) :
    Except ThreadError String :=
  let normalized := PythonText.strip (unicode.nfkc value)
  if normalized = "" then .error (.message "A Thread message cannot be empty")
  else if maxThreadMessageLength < normalized.length then
    .error (.message "A Thread message cannot exceed 4000 characters")
  else if normalized.toList.any fun c =>
      (unicode.category c).toList.head? = some 'C' && c ≠ '\n' && c ≠ '\t' then
    .error (.message "A Thread message contains unsupported characters")
  else .ok normalized

structure ThreadMessage where
  messageId : UUID
  threadId : UUID
  organizationId : UUID
  authorId : Option UUID
  kind : ThreadMessageKind
  content : String
  createdAt : Int
  deriving DecidableEq, Repr

def ThreadMessage.create (unicode : UnicodeData) (messageId threadId organizationId : UUID)
    (authorId : Option UUID) (kind : ThreadMessageKind) (content : String) (now : Int) :
    Except ThreadError ThreadMessage := do
  let content ← normalizeMessageContent unicode content
  pure { messageId, threadId, organizationId, authorId, kind, content, createdAt := now }

/-- `text.split()`. -/
def splitWords (text : String) : List String :=
  ((text.toList.splitOnP PythonText.isSpace).filter (· ≠ [])).map String.ofList

/-- `text.rstrip()`. -/
def rstrip (text : String) : String :=
  String.ofList (text.toList.reverse.dropWhile PythonText.isSpace).reverse

def deterministicThreadTitle (value : String) : String :=
  let title := PythonText.join " " (splitWords value)
  if title.length ≤ 80 then title
  else rstrip (String.ofList (title.toList.take 79)) ++ "…"

/-- The title as it is stored, if it is valid. -/
def normalizedTitle (title : String) : Except ThreadError String :=
  let normalized := PythonText.strip (PythonText.join " " (splitWords title))
  if normalized = "" ∨ maxThreadTitleLength < normalized.length then
    .error (.message "A Thread title is invalid")
  else .ok normalized

inductive ThreadStatus
  | draft
  | active
  | archived
  deriving DecidableEq, Repr

structure AnalysisRunThread where
  threadId : UUID
  organizationId : UUID
  projectId : UUID
  initiatingMessageId : UUID
  title : String
  status : ThreadStatus
  createdAt : Int
  updatedAt : Int
  latestActivityAt : Int
  archivedAt : Option Int := none
  archivedFromStatus : Option ThreadStatus := none
  createdBy : Option UUID := none
  sourceScopeId : Option UUID := none
  sourceIds : List UUID := []
  deriving DecidableEq, Repr

namespace AnalysisRunThread

def create (threadId organizationId projectId initiatingMessageId : UUID) (title : String)
    (now : Int) (createdBy : Option UUID := none) (sourceIds : List UUID := []) :
    Except ThreadError AnalysisRunThread := do
  let title ← normalizedTitle title
  pure {
    threadId, organizationId, projectId, initiatingMessageId, title
    status := .draft
    createdAt := now
    updatedAt := now
    latestActivityAt := now
    createdBy, sourceIds }

variable (thread : AnalysisRunThread)

def ensureWritable : Except ThreadError Unit :=
  if thread.status = .archived then
    .error (.transition "Archived Threads cannot accept messages")
  else .ok ()

def recordMessage (now : Int) : Except ThreadError AnalysisRunThread := do
  thread.ensureWritable
  pure { thread with updatedAt := now, latestActivityAt := now }

def activate (now : Int) : Except ThreadError AnalysisRunThread := do
  thread.ensureWritable
  pure { thread with status := .active, updatedAt := now, latestActivityAt := now }

variable {thread} {now : Int} {changed : AnalysisRunThread}

theorem ensureWritable_eq_ok : thread.ensureWritable = .ok () ↔ thread.status ≠ .archived := by
  unfold ensureWritable
  split <;> simp_all

theorem recordMessage_eq_ok (h : thread.recordMessage now = .ok changed) :
    thread.status ≠ .archived ∧
      changed = { thread with updatedAt := now, latestActivityAt := now } := by
  obtain ⟨⟨⟩, hwritable, hchanged⟩ := Raising.bind_eq_ok.1 h
  exact ⟨ensureWritable_eq_ok.1 hwritable, (Raising.pure_eq_ok.1 hchanged).symm⟩

theorem activate_eq_ok (h : thread.activate now = .ok changed) :
    thread.status ≠ .archived ∧
      changed = { thread with status := .active, updatedAt := now, latestActivityAt := now } := by
  obtain ⟨⟨⟩, hwritable, hchanged⟩ := Raising.bind_eq_ok.1 h
  exact ⟨ensureWritable_eq_ok.1 hwritable, (Raising.pure_eq_ok.1 hchanged).symm⟩

variable (thread)

def rename (title : String) (now : Int) : Except ThreadError AnalysisRunThread := do
  let title ← normalizedTitle title
  pure { thread with title := title, updatedAt := now }

def archive (now : Int) : AnalysisRunThread :=
  if thread.status = .archived then thread
  else
    { thread with
      archivedFromStatus := some thread.status
      status := .archived
      archivedAt := some now
      updatedAt := now }

def restore (now : Int) : AnalysisRunThread :=
  if thread.status ≠ .archived then thread
  else
    { thread with
      status := thread.archivedFromStatus.getD .draft
      archivedFromStatus := none
      archivedAt := none
      updatedAt := now }

def ensureDeletable (hasAnalyticalWork : Bool) : Except ThreadError Unit :=
  if thread.status ≠ .draft ∨ hasAnalyticalWork = true then
    .error (.transition "Threads with analytical work must be archived rather than deleted")
  else .ok ()

variable {thread}

theorem ensureDeletable_eq_ok {hasAnalyticalWork : Bool} :
    thread.ensureDeletable hasAnalyticalWork = .ok () ↔
      thread.status = .draft ∧ hasAnalyticalWork = false := by
  unfold ensureDeletable
  split
  next h => simpa using h.resolve_left ∘ not_not_intro
  next h => simpa using h

end AnalysisRunThread

end Zentra
