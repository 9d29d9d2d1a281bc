import Zentra.ThreadEffect

/-!
# Private threads

A private thread is to look, to everyone but its creator, like a thread that does not exist.
Nothing in the database says so: each operation has to ask.

* `listThreads_without` — a listing is that of the tables without the thread;
* `invisible_iff` — an operation shows nothing of the thread unless it reads the feed.
-/

open Raising Raising.Method TableRows

namespace Zentra.ThreadService

open ThreadTables ThreadRepository

inductive ThreadOperation
  | get
  | events (after limit : Int)
  | eventCursor
  | append (content : String) (routing : Option RoutingResult)
  | appendStreaming (content : String) (routing : Option RoutingResult)
  | appendWorkflowReply (content reply : String)
  | archive
  | restore
  | rename (title : String)
  | delete

inductive ThreadResult
  | detail (detail : ThreadDetail)
  | events (events : List ThreadEvent)
  | cursor (cursor : Nat)
  | streamed (turn : ThreadTurn) (reply : Option (Except String ThreadMessage))
  | deleted

/-- The operation, in its transactions. -/
def perform (env : ThreadEnvironment) (actor : AuthenticatedActor) (threadId : UUID) :
    ThreadOperation → TableMethod ThreadResult
  | .get => do
      let detail ← transaction (get actor threadId)
      pure (.detail detail)
  | .events after limit => do
      let events ← transaction (events actor threadId after limit)
      pure (.events events)
  | .eventCursor => do
      let cursor ← transaction (eventCursor actor threadId)
      pure (.cursor cursor)
  | .append content routing => do
      let detail ← transaction (append env actor threadId content routing)
      pure (.detail detail)
  | .appendStreaming content routing => do
      let (turn, reply) ← appendStreaming env actor threadId content routing
      pure (.streamed turn reply)
  | .appendWorkflowReply content reply => do
      let detail ← transaction (appendWorkflowReply env actor threadId content reply)
      pure (.detail detail)
  | .archive => do
      let detail ← transaction (archive env actor threadId)
      pure (.detail detail)
  | .restore => do
      let detail ← transaction (restore env actor threadId)
      pure (.detail detail)
  | .rename title => do
      let detail ← rename env actor threadId title
      pure (.detail detail)
  | .delete => do
      transaction (delete actor threadId)
      pure .deleted

/-- What the operation raises when there is no such thread. -/
def ThreadOperation.refusal (actor : AuthenticatedActor) : ThreadOperation → ThreadError
  | .events after limit =>
      if after < 0 ∨ limit < 1 ∨ 500 < limit then .value "Work Feed cursor or limit is invalid"
      else .notFound "Thread was not found"
  | .get | .eventCursor => .notFound "Thread was not found"
  | _ =>
      if actor.role ∈ threadMutatorRoles then .notFound "Thread was not found"
      else .permissionDenied "This membership cannot change Threads"

/-- The thread is private, and the actor is of its organization but has not created it. -/
def HiddenFrom (actor : AuthenticatedActor) (threadId : UUID) (tables : ThreadTables) : Prop :=
  ∃ s, tables.session threadId actor.organizationId = some s ∧ s.isPrivate = true ∧
    s.thread.createdBy ≠ some actor.userId

def without (threadId : UUID) (tables : ThreadTables) : ThreadTables :=
  { tables with sessions := Function.update tables.sessions threadId none }

section Refusals

variable {env : ThreadEnvironment} {actor : AuthenticatedActor} {threadId : UUID}
  {tables : ThreadTables}

def NotFound (actor : AuthenticatedActor) (threadId : UUID) (tables : ThreadTables) : Prop :=
  (openThread actor threadId).call tables = (.error (.notFound "Thread was not found"), tables)

theorem requireThread_found {thread : AnalysisRunThread}
    (h : tables.getThread threadId actor.organizationId = some thread) :
    (requireThread actor threadId).call tables = (.ok thread, tables) := by
  rw [requireThread, call_self_bind, h]
  rfl

theorem requireThread_absent (h : tables.getThread threadId actor.organizationId = none) :
    (requireThread actor threadId).call tables =
      (.error (.notFound "Thread was not found"), tables) := by
  rw [requireThread, call_self_bind, h]
  rfl

theorem HiddenFrom.getThread (h : HiddenFrom actor threadId tables) :
    ∃ thread, tables.getThread threadId actor.organizationId = some thread := by
  obtain ⟨s, hs, -, -⟩ := h
  exact ⟨_, congrArg (Option.map _) hs⟩

theorem HiddenFrom.notFound (h : HiddenFrom actor threadId tables) :
    NotFound actor threadId tables := by
  obtain ⟨thread, hthread⟩ := h.getThread
  obtain ⟨s, hs, hprivate, hcreator⟩ := h
  have hvisibility : tables.visibilityAndCreator threadId actor.organizationId =
      some (true, s.thread.createdBy) := by
    rw [visibilityAndCreator, hs, Option.map_some, hprivate]
  rw [NotFound, openThread, call_bind, requireThread_found hthread]
  dsimp only
  rw [requireVisible, call_raiseIf_bind, if_pos (by simp [hvisibility, hcreator])]

theorem getThread_without (organizationId : UUID) :
    (without threadId tables).getThread threadId organizationId = none := by
  simp [without, ThreadTables.getThread, ThreadTables.session]

theorem notFound_without : NotFound actor threadId (without threadId tables) :=
  bind_raises (requireThread_absent (getThread_without _)) _

/-- What a member may not do is refused, and there is no thread for the others. -/
theorem requireMutator_refused {α : Type} {f : Unit → TableMethod α}
    (h : (f ()).call tables = (.error (.notFound "Thread was not found"), tables)) :
    (requireMutator actor >>= f).call tables =
      (.error (if actor.role ∈ threadMutatorRoles then .notFound "Thread was not found"
        else .permissionDenied "This membership cannot change Threads"), tables) := by
  rw [requireMutator, call_raiseIf_bind]
  by_cases hrole : actor.role ∈ threadMutatorRoles
  · rw [if_neg (not_not_intro hrole), if_pos hrole, h]
  · rw [if_pos hrole, if_neg hrole]

/-- The operations that look for the feed of a thread without asking who may see it. -/
def ThreadOperation.ReadsFeed : ThreadOperation → Prop
  | .events after limit => 0 ≤ after ∧ 1 ≤ limit ∧ limit ≤ 500
  | .eventCursor => True
  | _ => False

instance (op : ThreadOperation) : Decidable op.ReadsFeed := by
  unfold ThreadOperation.ReadsFeed
  split <;> infer_instance

/-- **An operation that asks** raises what it raises when there is no thread, and changes
nothing. -/
theorem perform_refused {op : ThreadOperation} (h : NotFound actor threadId tables)
    (hfeed : ¬ op.ReadsFeed) :
    (perform env actor threadId op).call tables = (.error (op.refusal actor), tables) := by
  have hwritable : (openWritable actor threadId).call tables =
      (.error (.notFound "Thread was not found"), tables) := bind_raises h _
  cases op with
  | get => exact bind_raises (transaction_error (bind_raises h _)) _
  | events after limit =>
      have hinvalid : after < 0 ∨ limit < 1 ∨ 500 < limit := by
        simp only [ThreadOperation.ReadsFeed] at hfeed
        omega
      have hraises : (events actor threadId after limit).call tables =
          (.error (ThreadOperation.refusal actor (.events after limit)), tables) := by
        rw [events, call_raiseIf_bind, if_pos hinvalid, ThreadOperation.refusal, if_pos hinvalid]
      exact bind_raises (transaction_error hraises) _
  | eventCursor => exact (hfeed trivial).elim
  | append content routing =>
      exact bind_raises (transaction_error (requireMutator_refused (bind_raises hwritable _))) _
  | appendStreaming content routing =>
      exact bind_raises (bind_raises (transaction_error
        (requireMutator_refused (bind_raises hwritable _))) _) _
  | appendWorkflowReply content reply =>
      exact bind_raises (transaction_error (requireMutator_refused (bind_raises hwritable _))) _
  | archive =>
      exact bind_raises (transaction_error (requireMutator_refused (bind_raises h _))) _
  | restore =>
      exact bind_raises (transaction_error (requireMutator_refused (bind_raises h _))) _
  | rename title =>
      exact bind_raises (bind_raises (transaction_error
        (requireMutator_refused (bind_raises h _))) _) _
  | delete =>
      exact bind_raises (transaction_error (requireMutator_refused (bind_raises h _))) _

/-- **The feed** is read without asking. -/
theorem perform_readsFeed {op : ThreadOperation} (h : HiddenFrom actor threadId tables)
    (hfeed : op.ReadsFeed) :
    ∃ result, (perform env actor threadId op).call tables = (.ok result, tables) := by
  obtain ⟨thread, hthread⟩ := h.getThread
  cases op with
  | events after limit =>
      have hvalid : ¬ (after < 0 ∨ limit < 1 ∨ 500 < limit) := by
        simp only [ThreadOperation.ReadsFeed] at hfeed
        omega
      have hread : (events actor threadId after limit).call tables =
          (.ok (tables.eventsAfter threadId actor.organizationId after.toNat limit.toNat),
            tables) := by
        rw [events, call_raiseIf_bind, if_neg hvalid, call_bind, requireThread_found hthread]
        rfl
      refine ⟨.events (tables.eventsAfter threadId actor.organizationId after.toNat limit.toNat), ?_⟩
      rw [perform, call_bind, transaction_ok.2 hread]
      rfl
  | eventCursor =>
      have hread : (eventCursor actor threadId).call tables =
          (.ok (tables.latestSequence threadId actor.organizationId), tables) := by
        rw [eventCursor, call_bind, requireThread_found hthread]
        rfl
      refine ⟨.cursor (tables.latestSequence threadId actor.organizationId), ?_⟩
      rw [perform, call_bind, transaction_ok.2 hread]
      rfl
  | _ => exact hfeed.elim

end Refusals

section Listings

variable {actor : AuthenticatedActor} {threadId : UUID} {tables : ThreadTables}

theorem read_hidden (h : HiddenFrom actor threadId tables) {listing : ThreadListing}
    (hviewer : listing.viewerId = actor.userId) : listing.read tables threadId = none := by
  obtain ⟨s, hs, hprivate, hcreator⟩ := h
  have hshows : ¬ listing.Shows s := by
    simp [ThreadListing.Shows, hprivate, hviewer, hcreator]
  have hadmits : ¬ listing.Admits threadId s := fun hadmits => hshows hadmits.2.2.1
  simp [ThreadListing.read, (session_eq_some.1 hs).1, Option.filter, hadmits]

theorem read_without (listing : ThreadListing) (other : UUID) :
    listing.read (without threadId tables) other =
      if other = threadId then none else listing.read tables other := by
  unfold ThreadListing.read without
  by_cases hid : other = threadId
  · simp [hid]
  · simp [hid]

/-- **A listing** is that of the tables without the hidden thread. -/
theorem listThreads_without (h : HiddenFrom actor threadId tables) {listing : ThreadListing}
    (hviewer : listing.viewerId = actor.userId) :
    listThreads (without threadId tables) listing = listThreads tables listing := by
  have hread : listing.read (without threadId tables) = listing.read tables := by
    funext other
    rw [read_without]
    split
    next hid => rw [hid, read_hidden h hviewer]
    · rfl
  unfold listThreads
  rw [hread]
  rfl

theorem read_of_mem_listThreads {listing : ThreadListing} {summary : ThreadSummary}
    (h : summary ∈ (listThreads tables listing).items) :
    listing.read tables summary.threadId = some summary := by
  have hmem : summary ∈ tables.threadIds.filterMap (listing.read tables) := by
    unfold listThreads at h
    dsimp only at h
    split at h
    · exact mem_orderedBy.1 (List.mem_reverse.1 (List.mem_of_mem_take h))
    · exact mem_orderedBy.1 (List.mem_reverse.1 (List.mem_of_mem_take (List.mem_of_mem_take h)))
  obtain ⟨other, -, hread⟩ := List.mem_filterMap.1 hmem
  obtain ⟨s, hs, rfl⟩ := Option.map_eq_some_iff.1 hread
  exact hread

/-- A listing as the actor asks for it. -/
def listingOf (actor : AuthenticatedActor) (projectId : UUID) (includeArchived : Bool)
    (limit : Int) (after : Option ThreadCursor) : ThreadListing where
  organizationId := actor.organizationId
  projectId := projectId
  viewerId := actor.userId
  includeArchived := includeArchived
  limit := limit.toNat
  after := after

variable (projectId : UUID) (includeArchived : Bool) (limit : Int) (after : Option ThreadCursor)

theorem call_list :
    (list actor projectId includeArchived limit after).call tables =
      (if limit < 1 ∨ 100 < limit then .error (.value "Page size must be between 1 and 100")
        else if (tables.getGroup projectId actor.organizationId).isNone then
          .error (.notFound "Group was not found")
        else .ok (listThreads tables (listingOf actor projectId includeArchived limit after)),
        tables) := by
  rw [list, call_raiseIf_bind]
  split
  · rfl
  · rw [call_self_bind]
    cases tables.getGroup projectId actor.organizationId with
    | none => rfl
    | some group => rfl

theorem list_without (h : HiddenFrom actor threadId tables) :
    ((list actor projectId includeArchived limit after).call (without threadId tables)).1 =
      ((list actor projectId includeArchived limit after).call tables).1 := by
  rw [call_list, call_list, listThreads_without h rfl]
  rfl

theorem not_listed (h : HiddenFrom actor threadId tables) {page : ThreadPage}
    (hpage : ((list actor projectId includeArchived limit after).call tables).1 = .ok page) :
    ∀ summary ∈ page.items, summary.threadId ≠ threadId := by
  intro summary hsummary hid
  rw [call_list] at hpage
  dsimp only at hpage
  split at hpage
  · cases hpage
  · split at hpage
    · cases hpage
    · cases hpage
      have hread := read_of_mem_listThreads hsummary
      rw [hid, read_hidden h rfl] at hread
      cases hread

end Listings

section Visibility

variable (env : ThreadEnvironment) (actor : AuthenticatedActor) (threadId : UUID)
  (op : ThreadOperation)

/-- The thread shows itself neither in the operation nor in a listing: both answer as if it
did not exist, the operation is refused and changes nothing, and states that differ in the
thread alone give the same answers. -/
structure Invisible (tables : ThreadTables) : Prop where
  absent : (perform env actor threadId op).call tables =
    (((perform env actor threadId op).call (without threadId tables)).1, tables)
  refused : ((perform env actor threadId op).call tables).1 = .error (op.refusal actor)
  listed : ∀ projectId includeArchived limit after,
    ((list actor projectId includeArchived limit after).call tables).1 =
        ((list actor projectId includeArchived limit after).call (without threadId tables)).1 ∧
      ∀ page, ((list actor projectId includeArchived limit after).call tables).1 = .ok page →
        ∀ summary ∈ page.items, summary.threadId ≠ threadId
  alike : ∀ other, HiddenFrom actor threadId other →
    without threadId other = without threadId tables →
      ((perform env actor threadId op).call other).1 =
          ((perform env actor threadId op).call tables).1 ∧
        ∀ projectId includeArchived limit after,
          ((list actor projectId includeArchived limit after).call other).1 =
            ((list actor projectId includeArchived limit after).call tables).1

/-- **A private thread is invisible** in exactly the operations that do not read its feed. -/
theorem invisible_iff (tables : ThreadTables) (h : HiddenFrom actor threadId tables) :
    Invisible env actor threadId op tables ↔ ¬ op.ReadsFeed := by
  constructor
  · intro hinvisible hfeed
    obtain ⟨result, hresult⟩ := perform_readsFeed h hfeed
    have hrefused := hinvisible.refused
    rw [hresult] at hrefused
    cases hrefused
  · intro hfeed
    have hcall : (perform env actor threadId op).call tables =
        (.error (op.refusal actor), tables) := perform_refused h.notFound hfeed
    refine ⟨?_, by rw [hcall], fun projectId includeArchived limit after =>
      ⟨(list_without _ _ _ _ h).symm, fun page => not_listed _ _ _ _ h⟩, fun other hother hsame =>
      ⟨?_, fun projectId includeArchived limit after => ?_⟩⟩
    · rw [hcall, perform_refused notFound_without hfeed]
    · rw [hcall, perform_refused hother.notFound hfeed]
    · rw [← list_without _ _ _ _ hother, hsame, list_without _ _ _ _ h]

end Visibility

def privateThread (feed : List ThreadEvent) : ThreadTables where
  groups := fun _ => none
  sessions := Function.update (fun _ => none) 7 (some {
    thread := {
      threadId := 7, organizationId := 1, projectId := 3, initiatingMessageId := 4
      title := "Layoffs", status := .active, createdAt := 0, updatedAt := 0
      latestActivityAt := 0, createdBy := some 2 }
    isPrivate := true
    nextEventSequence := feed.length + 1
    events := feed })
  threadIds := [7]

/-- Another user of the organization. -/
def colleague : AuthenticatedActor := { userId := 5, organizationId := 1, role := .member }

theorem privateThread_hidden (feed : List ThreadEvent) :
    HiddenFrom colleague 7 (privateThread feed) :=
  ⟨_, rfl, rfl, fun h => by cases h⟩

/-- A call in which no model is asked. -/
def quiet : ThreadEnvironment where
  unicode := ⟨id, fun _ => "Ll"⟩
  casefold := id
  now := 10
  replyNow := 11
  newId := fun n => 100 + n
  resolve := fun _ _ => .error (.port "")
  reply := fun _ => .error (.port "")
  replyStream := fun _ => .error ""

def failedRun : ThreadEvent where
  eventId := 9
  organizationId := 1
  threadId := 7
  sequence := 1
  kind := .analysisRunFailed
  occurredAt := 0
  payload := analysisRunEventPayload 8 "failed"

/-- A colleague who opens the thread learns nothing. -/
theorem privateThread_invisible : Invisible quiet colleague 7 .get (privateThread [failedRun]) :=
  (invisible_iff quiet colleague 7 .get (privateThread [failedRun])
    (privateThread_hidden [failedRun])).2 id

/-- **The feed of a private thread** is read by a colleague: its events, and its cursor, which
tells it from a thread without events. -/
theorem privateThread_readsFeed :
    HiddenFrom colleague 7 (privateThread [failedRun]) ∧
      ((perform quiet colleague 7 (.events 0 500)).call (privateThread [failedRun])).1 =
        .ok (.events [failedRun]) ∧
      ((perform quiet colleague 7 .eventCursor).call (privateThread [failedRun])).1 =
        .ok (.cursor 1) ∧
      ((perform quiet colleague 7 .eventCursor).call (privateThread [])).1 = .ok (.cursor 0) ∧
      without 7 (privateThread [failedRun]) = without 7 (privateThread []) :=
  ⟨privateThread_hidden _, rfl, rfl, rfl, by simp [without, privateThread]⟩

end Zentra.ThreadService
