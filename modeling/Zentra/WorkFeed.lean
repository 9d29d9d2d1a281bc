import Zentra.ExecutionJob
import Zentra.JsonDocument
import Zentra.RowLock
import Zentra.StepTrace
import Zentra.TableRows

/-!
# The work feed of a thread

`PostgresWorkFeedRepository.append` numbers the events of a thread from a counter in
the thread's row: an `UPDATE` takes the next number and with it the lock of the row,
and an `INSERT` writes the event.  An append that names its event first looks whether
the event is there.  Each is a statement of its own, and any number of transactions
take their statements in any order; consumers page through the feed in between, each
from the last event it saw.

* `received_of_pages` — enough pages receive whatever was committed before them;
* `work_feed_delivery` — the three together.
-/

open JsonDocument RowLock StepTrace

namespace Zentra

inductive WorkFeedEventKind
  | messageAdded | routingClarification | routingResolved
  | analysisRunQueued | analysisRunStarted | analysisRunStatusChanged
  | analysisRunCancelRequested | analysisRunCancelled | analysisRunCompleted
  | analysisRunFailed | analysisRunRetryCreated
  | agentStarted | agentPublicUpdate | agentCapabilityUsed | agentHandoff
  | agentCompleted
  | approvalRequested | approvalDecided | findingPublished
  | visualizationRequested | visualizationStarted | visualizationCompleted
  | visualizationFailed | visualizationRetryRequested | visualizationTombstoned
  deriving DecidableEq, Repr

/-- A `ThreadEvent`, and a row of `activity_events`: the columns are its fields. -/
structure ThreadEvent where
  eventId : UUID
  organizationId : UUID
  threadId : UUID
  sequence : Nat
  kind : WorkFeedEventKind
  occurredAt : Int
  payload : Object

/-- The arguments of `append`. -/
structure AppendCall where
  organizationId : UUID
  threadId : UUID
  kind : WorkFeedEventKind
  payload : Object
  occurredAt : Int
  eventId : Option UUID := none

/-- The event that is inserted; one without a name is given a `uuid4()`. -/
def AppendCall.event (call : AppendCall) (sequence : Nat) (uuid4 : UUID) : ThreadEvent where
  eventId := call.eventId.getD uuid4
  organizationId := call.organizationId
  threadId := call.threadId
  sequence := sequence
  kind := call.kind
  occurredAt := call.occurredAt
  payload := call.payload

/-- What the appends look up: the organization of a `chat_sessions` row, and the
`chat_session_id` of an Analysis Run of an organization. -/
structure FeedTables where
  organizationOf : UUID → Option UUID
  threadOf : UUID → UUID → Option UUID

def eventsAfter (table : List ThreadEvent) (threadId organizationId : UUID) (after limit : Nat) :
    List ThreadEvent :=
  (TableRows.orderedBy ThreadEvent.sequence (TableRows.select
    (fun event => event.threadId = threadId ∧ event.organizationId = organizationId ∧
      after < event.sequence) table)).take limit

/-- A consumer of a thread's feed: where it began, and what it received. -/
structure Consumer where
  threadId : UUID
  organizationId : UUID
  start : Nat
  received : List ThreadEvent := []

def Consumer.cursor (consumer : Consumer) : Nat :=
  match consumer.received.getLast? with
  | some event => event.sequence
  | none => consumer.start

def Consumer.page (consumer : Consumer) (table : List ThreadEvent) (limit : Nat) :
    Consumer :=
  let events := eventsAfter table consumer.threadId consumer.organizationId
    consumer.cursor limit
  { consumer with received := consumer.received ++ events }

/-- Where a session is in its call of `append`. -/
inductive AppendStage
  | idle
  | looked (call : AppendCall)
  | numbered (call : AppendCall) (sequence : Nat)

/-- The rows of `chat_sessions` with their `next_event_sequence`, the events, and the
consumers. -/
structure FeedSystem where
  store : Store UUID Nat ThreadEvent
  stage : Nat → AppendStage
  consumers : Nat → Consumer

inductive FeedAction
  | append (session : Nat) (call : AppendCall)
  | appendForAnalysisRun (session : Nat) (analysisRunId : UUID) (call : AppendCall)
  | takeNumber (session : Nat)
  | insertEvent (session : Nat) (uuid4 : UUID)
  | commit (session : Nat)
  | rollback (session : Nat)
  | page (consumer : Nat) (limit : Nat)

def FeedAction.IsStatement : FeedAction → Prop
  | .page _ _ => False
  | _ => True

namespace FeedSystem

/-- Threads without events, read by these consumers. -/
def start (consumers : Nat → Consumer) : FeedSystem where
  store := { value := fun _ => 1, held := fun _ => none, log := [] }
  stage _ := .idle
  consumers := consumers

/-- The committed events of a thread, in the order of their inserts. -/
def committedOf (s : FeedSystem) (threadId : UUID) : List ThreadEvent :=
  s.store.committedOf ThreadEvent.threadId threadId

def setStage (s : FeedSystem) (session : Nat) (stage : AppendStage) : FeedSystem :=
  { s with stage := Function.update s.stage session stage }

/-- `append`, up to the look for an event of that name. -/
def look (s : FeedSystem) (session : Nat) (call : AppendCall) : FeedSystem :=
  let existing := call.eventId.bind fun eventId =>
    (s.store.visible session).find? fun event => event.eventId = eventId
  match existing with
  | some _ => s
  | none => s.setStage session (.looked call)

/-- The transaction ends without a commit. -/
def abort (s : FeedSystem) (session : Nat) : FeedSystem :=
  { s with
    store := s.store.rollback session
    stage := Function.update s.stage session .idle }

/-- `UPDATE … SET next_event_sequence = next_event_sequence + 1 RETURNING
next_event_sequence - 1`, on a row whose lock was granted. -/
def number (s : FeedSystem) (session : Nat) (call : AppendCall)
    (store : Store UUID Nat ThreadEvent) : FeedSystem :=
  { s with
    store := store.assign session call.threadId (store.current call.threadId + 1)
    stage := Function.update s.stage session
      (.numbered call (store.current call.threadId)) }

def insertEvent (s : FeedSystem) (session : Nat) (event : ThreadEvent) : FeedSystem :=
  { s with
    store := s.store.insert session [event]
    stage := Function.update s.stage session .idle }

/-- A consumer reads the next page and moves its cursor to the end of it. -/
def page (s : FeedSystem) (consumer limit : Nat) : FeedSystem :=
  let reader := (s.consumers consumer).page s.store.committedRows limit
  { s with consumers := Function.update s.consumers consumer reader }

variable (tables : FeedTables)

/-- One statement of a session, or one page of a consumer. -/
def step (s : FeedSystem) : FeedAction → Option FeedSystem
  | .append session call =>
      match s.stage session with
      | .idle => some (s.look session call)
      | _ => none
  | .appendForAnalysisRun session analysisRunId call =>
      match s.stage session with
      | .idle =>
          match tables.threadOf analysisRunId call.organizationId with
          | none => some s
          | some threadId => some (s.look session { call with threadId })
      | _ => none
  | .takeNumber session =>
      match s.stage session with
      | .looked call =>
          if tables.organizationOf call.threadId = some call.organizationId then
            (s.store.lock session call.threadId).map (s.number session call)
          else
            -- `NoResultFound`: no row was updated.
            some (s.setStage session .idle)
      | _ => none
  | .insertEvent session uuid4 =>
      match s.stage session with
      | .numbered call sequence =>
          let event := call.event sequence uuid4
          if s.store.Waits ThreadEvent.eventId session [event] then none
          else if s.store.Collides ThreadEvent.eventId session [event] then
            -- `IntegrityError`: the transaction is lost.
            some (s.abort session)
          else some (s.insertEvent session event)
      | _ => none
  | .commit session =>
      match s.stage session with
      | .idle => some { s with store := s.store.commit session }
      | _ => none
  | .rollback session => some (s.abort session)
  | .page consumer limit => some (s.page consumer limit)

inductive Effect (s : FeedSystem) : FeedAction → FeedSystem → Prop
  | nothing {action : FeedAction} (haction : action.IsStatement) : Effect s action s
  | staged {action : FeedAction} {session : Nat} {stage : AppendStage}
      (haction : action.IsStatement)
      (hunnumbered : ∀ call sequence, s.stage session ≠ .numbered call sequence)
      (hstage : ∀ call sequence, stage ≠ .numbered call sequence) :
      Effect s action (s.setStage session stage)
  | numbered {session : Nat} {call : AppendCall} {store : Store UUID Nat ThreadEvent}
      (hstage : s.stage session = .looked call)
      (horganization : tables.organizationOf call.threadId = some call.organizationId)
      (hlock : s.store.lock session call.threadId = some store) :
      Effect s (.takeNumber session) (s.number session call store)
  | inserted {session : Nat} {call : AppendCall} {sequence : Nat} {uuid4 : UUID}
      (hstage : s.stage session = .numbered call sequence)
      (hwaits : ¬ s.store.Waits ThreadEvent.eventId session [call.event sequence uuid4])
      (hcollides : ¬ s.store.Collides ThreadEvent.eventId session
        [call.event sequence uuid4]) :
      Effect s (.insertEvent session uuid4)
        (s.insertEvent session (call.event sequence uuid4))
  | committed {session : Nat} (hidle : s.stage session = .idle) :
      Effect s (.commit session) { s with store := s.store.commit session }
  | aborted {action : FeedAction} {session : Nat} (haction : action.IsStatement) :
      Effect s action (s.abort session)
  | paged {consumer limit : Nat} : Effect s (.page consumer limit) (s.page consumer limit)

variable {tables}

theorem look_effect {s : FeedSystem} {session : Nat} {call : AppendCall}
    {action : FeedAction} (haction : action.IsStatement)
    (hidle : s.stage session = .idle) : Effect tables s action (s.look session call) := by
  unfold look
  dsimp only
  split
  next => exact .nothing haction
  next =>
      apply Effect.staged haction
      · intro call sequence hnumbered
        rw [hidle] at hnumbered
        cases hnumbered
      · intro call sequence hnumbered
        cases hnumbered

theorem effect_of_step {s t : FeedSystem} {action : FeedAction}
    (h : s.step tables action = some t) : Effect tables s action t := by
  cases action with
  | append session call =>
      simp only [step] at h
      split at h
      next hidle => exact Option.some.inj h ▸ look_effect trivial hidle
      next => cases h
  | appendForAnalysisRun session analysisRunId call =>
      simp only [step] at h
      split at h
      next hidle =>
          split at h
          next => exact Option.some.inj h ▸ .nothing trivial
          next => exact Option.some.inj h ▸ look_effect trivial hidle
      next => cases h
  | takeNumber session =>
      simp only [step] at h
      split at h
      next call hlooked =>
          split at h
          next horganization =>
              obtain ⟨store, hlock, rfl⟩ := Option.map_eq_some_iff.1 h
              exact .numbered hlooked horganization hlock
          next =>
              have heffect : Effect tables s (.takeNumber session)
                  (s.setStage session .idle) := by
                have haction : (FeedAction.takeNumber session).IsStatement := trivial
                apply Effect.staged haction
                · intro call sequence hnumbered
                  rw [hlooked] at hnumbered
                  cases hnumbered
                · intro call sequence hnumbered
                  cases hnumbered
              exact Option.some.inj h ▸ heffect
      next => cases h
  | insertEvent session uuid4 =>
      simp only [step] at h
      split at h
      next call sequence hstage =>
          split at h
          next => cases h
          next hwaits =>
              split at h
              next => exact Option.some.inj h ▸ .aborted trivial
              next hcollides => exact Option.some.inj h ▸ .inserted hstage hwaits hcollides
      next => cases h
  | commit session =>
      simp only [step] at h
      split at h
      next hidle => exact Option.some.inj h ▸ .committed hidle
      next => cases h
  | rollback session => exact Option.some.inj h ▸ .aborted trivial
  | page consumer limit => exact Option.some.inj h ▸ .paged

end FeedSystem

section Numbers

variable (tables : FeedTables)

/-- The events have the numbers from one on, the counter is the next of them, and
the organization is that of the thread. -/
structure Numbered (threadId : UUID) (next : Nat) (events : List ThreadEvent) : Prop where
  sequences : events.map ThreadEvent.sequence = List.range' 1 events.length
  counter : next = events.length + 1
  organization : ∀ event ∈ events,
    tables.organizationOf threadId = some event.organizationId

/-- What a session keeps in a thread whose row it has locked: between the update and
the insert, the counter is one ahead of the number that was taken. -/
structure KeepsNumbers (stage : Nat → AppendStage) (session : Nat) (threadId : UUID)
    (next : Nat) (events : List ThreadEvent) : Prop where
  taken : ∀ call sequence, stage session = .numbered call sequence →
    call.threadId = threadId → Numbered tables threadId sequence events ∧
      next = sequence + 1
  settled : (∀ call sequence, stage session = .numbered call sequence →
    call.threadId ≠ threadId) → Numbered tables threadId next events

structure Fed (s : FeedSystem) : Prop where
  consistent : Consistent ThreadEvent.threadId (Numbered tables)
    (KeepsNumbers tables s.stage) s.store
  distinct : s.store.Distinct ThreadEvent.eventId
  /-- Between the update and the insert, the session has the lock of the thread. -/
  locked : ∀ session call sequence, s.stage session = .numbered call sequence →
    (∃ next, s.store.held call.threadId = some (session, next)) ∧
      tables.organizationOf call.threadId = some call.organizationId

variable {tables}

theorem Numbered.nil {threadId : UUID} : Numbered tables threadId 1 [] :=
  ⟨rfl, rfl, by simp⟩

/-- **The next event.**  The event with the number that was taken comes next. -/
theorem Numbered.append {threadId : UUID} {sequence : Nat} {events : List ThreadEvent}
    {event : ThreadEvent} (h : Numbered tables threadId sequence events)
    (hsequence : event.sequence = sequence)
    (horganization : tables.organizationOf threadId = some event.organizationId) :
    Numbered tables threadId (sequence + 1) (events ++ [event]) := by
  have hnext : event.sequence = 1 + 1 * events.length := by
    rw [hsequence, h.counter]
    omega
  refine ⟨?_, ?_, ?_⟩
  · rw [List.map_append, h.sequences, List.length_append, List.length_singleton,
      List.range'_concat, ← hnext]
    rfl
  · simp [h.counter]
  · intro e he
    rcases List.mem_append.1 he with he | he
    · exact h.organization e he
    · rw [List.mem_singleton.1 he]
      exact horganization

theorem Numbered.increasing {threadId : UUID} {next : Nat} {events : List ThreadEvent}
    (h : Numbered tables threadId next events) :
    events.Pairwise fun a b => a.sequence < b.sequence := by
  have hrange : (events.map ThreadEvent.sequence).Pairwise (· < ·) := by
    rw [h.sequences]
    exact List.pairwise_lt_range'
  exact List.pairwise_map.1 hrange

namespace KeepsNumbers

variable {stage stage' : Nat → AppendStage} {session : Nat} {threadId : UUID}
  {next : Nat} {events : List ThreadEvent}

theorem of_settled (h : Numbered tables threadId next events)
    (hstage : ∀ call sequence, stage session = .numbered call sequence →
      call.threadId ≠ threadId) :
    KeepsNumbers tables stage session threadId next events where
  taken call sequence htaken hthread := absurd hthread (hstage call sequence htaken)
  settled _ := h

theorem congr (h : KeepsNumbers tables stage session threadId next events)
    (hstage : stage' session = stage session) :
    KeepsNumbers tables stage' session threadId next events := by
  constructor
  · rw [hstage]
    exact h.taken
  · rw [hstage]
    exact h.settled

theorem of_other {holder : Nat} {new : AppendStage}
    (h : KeepsNumbers tables stage holder threadId next events) (hne : holder ≠ session) :
    KeepsNumbers tables (Function.update stage session new) holder threadId next events :=
  h.congr (Function.update_of_ne hne ..)

theorem of_unnumbered {holder : Nat} {new : AppendStage}
    (h : KeepsNumbers tables stage holder threadId next events)
    (hold : ∀ call sequence, stage session = .numbered call sequence →
      call.threadId ≠ threadId)
    (hnew : ∀ call sequence, new = .numbered call sequence → call.threadId ≠ threadId) :
    KeepsNumbers tables (Function.update stage session new) holder threadId next
      events := by
  by_cases hne : holder = session
  · subst hne
    apply of_settled (h.settled hold)
    rw [Function.update_self]
    exact hnew
  · exact h.of_other hne

end KeepsNumbers

end Numbers

namespace Fed

variable {tables : FeedTables} {s t : FeedSystem} {session : Nat}

theorem start (consumers : Nat → Consumer) : Fed tables (.start consumers) where
  consistent := Consistent.empty _ fun _ => Numbered.nil
  distinct := List.nodup_nil
  locked session call sequence h := by cases h

theorem locked_of_other (h : Fed tables s) {store : Store UUID Nat ThreadEvent}
    {stage : AppendStage}
    (hheld : ∀ other threadId next, other ≠ session →
      s.store.held threadId = some (other, next) →
      ∃ next, store.held threadId = some (other, next))
    (hown : ∀ call sequence, stage = .numbered call sequence →
      (∃ next, store.held call.threadId = some (session, next)) ∧
        tables.organizationOf call.threadId = some call.organizationId)
    (other : Nat) (call : AppendCall) (sequence : Nat)
    (hstage : Function.update s.stage session stage other = .numbered call sequence) :
    (∃ next, store.held call.threadId = some (other, next)) ∧
      tables.organizationOf call.threadId = some call.organizationId := by
  by_cases hne : other = session
  · subst hne
    rw [Function.update_self] at hstage
    exact hown call sequence hstage
  · rw [Function.update_of_ne hne] at hstage
    obtain ⟨⟨next, hold⟩, horganization⟩ := h.locked other call sequence hstage
    exact ⟨hheld other call.threadId next hne hold, horganization⟩

theorem staged (h : Fed tables s) {stage : AppendStage}
    (hunnumbered : ∀ call sequence, s.stage session ≠ .numbered call sequence)
    (hstage : ∀ call sequence, stage ≠ .numbered call sequence) :
    Fed tables (s.setStage session stage) := by
  constructor
  · apply h.consistent.imp
    intro holder threadId next _ hkept
    apply hkept.of_unnumbered
    · intro call sequence hnumbered
      exact absurd hnumbered (hunnumbered call sequence)
    · intro call sequence hnumbered
      exact absurd hnumbered (hstage call sequence)
  · exact h.distinct
  · apply h.locked_of_other
    · intro other threadId next _ hold
      exact ⟨next, hold⟩
    · intro call sequence hnumbered
      exact absurd hnumbered (hstage call sequence)

theorem number (h : Fed tables s) {call : AppendCall} {store : Store UUID Nat ThreadEvent}
    (hstage : s.stage session = .looked call)
    (horganization : tables.organizationOf call.threadId = some call.organizationId)
    (hlock : s.store.lock session call.threadId = some store) :
    Fed tables (s.number session call store) := by
  have hunnumbered : ∀ call sequence, s.stage session ≠ .numbered call sequence := by
    intro call sequence hnumbered
    rw [hstage] at hnumbered
    cases hnumbered
  constructor
  · have hlocked := h.consistent.lock hlock fun next events hnumbered =>
      KeepsNumbers.of_settled hnumbered fun call sequence htaken =>
        absurd htaken (hunnumbered call sequence)
    apply hlocked.assign (held_lock hlock)
    · intro events hkept
      have hbefore := hkept.settled fun call sequence htaken =>
        absurd htaken (hunnumbered call sequence)
      constructor
      · intro call' sequence htaken _
        have hnew := (Function.update_self ..).symm.trans htaken
        cases hnew
        exact ⟨hbefore, rfl⟩
      · intro hother
        exact absurd rfl (hother call _ (Function.update_self ..))
    · intro holder threadId next events hne hkept
      apply hkept.of_unnumbered
      · intro call' sequence htaken
        exact absurd htaken (hunnumbered call' sequence)
      · intro call' sequence htaken
        cases htaken
        exact hne.symm
  · have hlocked : store.Distinct ThreadEvent.eventId := h.distinct.lock hlock
    exact hlocked
  · apply h.locked_of_other
    · intro other threadId next hne hold
      have hkept := held_lock_of_held hlock hold
      have hj : threadId ≠ call.threadId := by
        rintro rfl
        rw [held_lock hlock] at hkept
        exact hne (congrArg Prod.fst (Option.some.inj hkept)).symm
      exact ⟨next, (held_assign_of_ne hj).trans hkept⟩
    · intro call' sequence htaken
      cases htaken
      exact ⟨⟨_, held_assign_self⟩, horganization⟩

theorem insertEvent (h : Fed tables s) {call : AppendCall} {sequence : Nat} {uuid4 : UUID}
    (hstage : s.stage session = .numbered call sequence)
    (hwaits : ¬ s.store.Waits ThreadEvent.eventId session [call.event sequence uuid4])
    (hcollides : ¬ s.store.Collides ThreadEvent.eventId session
      [call.event sequence uuid4]) :
    Fed tables (s.insertEvent session (call.event sequence uuid4)) := by
  obtain ⟨⟨next, hheld⟩, horganization⟩ := h.locked session call sequence hstage
  have hidle : ∀ (call : AppendCall) sequence,
      AppendStage.idle ≠ .numbered call sequence := by
    intro call sequence hnumbered
    cases hnumbered
  constructor
  · apply h.consistent.insert hheld
    · intro event hevent
      rw [List.mem_singleton.1 hevent]
      rfl
    · intro events hkept
      obtain ⟨hbefore, rfl⟩ := hkept.taken call sequence hstage rfl
      apply KeepsNumbers.of_settled (hbefore.append rfl horganization)
      intro call' sequence' hnumbered
      exact absurd ((Function.update_self ..).symm.trans hnumbered) (hidle call' sequence')
    · intro holder threadId next events hne hkept
      apply hkept.of_unnumbered
      · intro call' sequence' hnumbered
        rw [hstage] at hnumbered
        cases hnumbered
        exact hne.symm
      · intro call' sequence' hnumbered
        exact absurd hnumbered (hidle call' sequence')
  · exact h.distinct.insert hwaits hcollides
  · apply h.locked_of_other
    · intro other threadId next _ hold
      exact ⟨next, hold⟩
    · intro call' sequence' hnumbered
      exact absurd hnumbered (hidle call' sequence')

theorem commit (h : Fed tables s) (hidle : s.stage session = .idle) :
    Fed tables { s with store := s.store.commit session } := by
  have hunnumbered : ∀ call sequence, s.stage session ≠ .numbered call sequence := by
    intro call sequence hnumbered
    rw [hidle] at hnumbered
    cases hnumbered
  constructor
  · apply h.consistent.commit
    · intro threadId next events hkept
      exact hkept.settled fun call sequence htaken =>
        absurd htaken (hunnumbered call sequence)
    · exact fun _ _ _ _ _ hkept => hkept
  · exact h.distinct.commit
  · intro other call sequence hnumbered
    obtain ⟨⟨next, hheld⟩, horganization⟩ := h.locked other call sequence hnumbered
    have hne : other ≠ session := by
      rintro rfl
      exact hunnumbered call sequence hnumbered
    exact ⟨⟨next, release_eq_some.2 ⟨hheld, hne⟩⟩, horganization⟩

theorem abort (h : Fed tables s) : Fed tables (s.abort session) := by
  constructor
  · exact h.consistent.rollback fun holder threadId next events hne hkept =>
      hkept.of_other hne
  · exact h.distinct.rollback
  · apply h.locked_of_other
    · intro other threadId next hne hold
      exact ⟨next, release_eq_some.2 ⟨hold, hne⟩⟩
    · intro call sequence hnumbered
      cases hnumbered

theorem effect (h : Fed tables s) {action : FeedAction}
    (heffect : FeedSystem.Effect tables s action t) : Fed tables t := by
  cases heffect with
  | nothing => exact h
  | staged _ hunnumbered hstage => exact h.staged hunnumbered hstage
  | numbered hstage horganization hlock => exact h.number hstage horganization hlock
  | inserted hstage hwaits hcollides => exact h.insertEvent hstage hwaits hcollides
  | committed hidle => exact h.commit hidle
  | aborted => exact h.abort
  | paged => exact ⟨h.consistent, h.distinct, h.locked⟩

theorem exec {consumers : Nat → Consumer} {actions : List FeedAction}
    (h : Exec (FeedSystem.step tables) (.start consumers) actions s) : Fed tables s :=
  h.invariant (Fed tables) (Fed.start consumers) fun _ _ _ hinv hstep =>
    hinv.effect (FeedSystem.effect_of_step hstep)

end Fed

namespace FeedSystem

/-- What a consumer is to receive: the committed events of its thread after the one
it began with. -/
def due (s : FeedSystem) (consumer : Consumer) : List ThreadEvent :=
  (s.committedOf consumer.threadId).filter fun event =>
    event.organizationId = consumer.organizationId ∧ consumer.start < event.sequence

/-- What the consumers received is the first part of what they are to receive. -/
def Followed (s : FeedSystem) : Prop :=
  ∀ c, (s.consumers c).received <+: s.due (s.consumers c)

variable {tables : FeedTables} {s t : FeedSystem} {action : FeedAction}

/-- The committed events of a thread only grow at their end. -/
theorem Effect.committedOf_prefix (h : Fed tables s) (heffect : Effect tables s action t)
    (threadId : UUID) : s.committedOf threadId <+: t.committedOf threadId := by
  have hsame : t.store.committedRows = s.store.committedRows →
      s.committedOf threadId <+: t.committedOf threadId := by
    intro hrows
    unfold committedOf Store.committedOf
    rw [hrows]
  cases heffect with
  | nothing => exact List.prefix_rfl
  | staged hunnumbered hstage => exact List.prefix_rfl
  | @numbered session call store hstage horganization hlock =>
      have hlocked : store.committedRows = s.store.committedRows :=
        committedRows_lock hlock
      exact hsame hlocked
  | inserted hstage hwaits hcollides => exact hsame committedRows_insert
  | committed hidle => exact h.consistent.toGuarded.committedOf_commit_prefix
  | aborted => exact hsame committedRows_rollback
  | paged => exact List.prefix_rfl

theorem Effect.consumer (heffect : Effect tables s action t) (c : Nat) :
    (t.consumers c = s.consumers c ∧ ∀ limit, action ≠ .page c limit) ∨
      ∃ limit, action = .page c limit ∧ t.store = s.store ∧
      t.consumers c = (s.consumers c).page s.store.committedRows limit := by
  cases heffect with
  | @paged other limit =>
      by_cases hc : c = other
      · subst hc
        exact .inr ⟨limit, rfl, rfl, Function.update_self ..⟩
      · refine .inl ⟨Function.update_of_ne hc .., fun limit' hpage => ?_⟩
        cases hpage
        exact hc rfl
  | nothing haction => exact .inl ⟨rfl, fun _ hpage => by cases hpage; exact haction⟩
  | staged haction => exact .inl ⟨rfl, fun _ hpage => by cases hpage; exact haction⟩
  | aborted haction => exact .inl ⟨rfl, fun _ hpage => by cases hpage; exact haction⟩
  | numbered => exact .inl ⟨rfl, fun _ hpage => by cases hpage⟩
  | inserted => exact .inl ⟨rfl, fun _ hpage => by cases hpage⟩
  | committed => exact .inl ⟨rfl, fun _ hpage => by cases hpage⟩

theorem due_page (consumer : Consumer) (table : List ThreadEvent) (limit : Nat) :
    s.due (consumer.page table limit) = s.due consumer := rfl

theorem eventsAfter_eq (h : Fed tables s) (threadId organizationId : UUID)
    (after limit : Nat) :
    eventsAfter s.store.committedRows threadId organizationId after limit =
      ((s.committedOf threadId).filter fun event =>
        event.organizationId = organizationId ∧ after < event.sequence).take limit := by
  unfold eventsAfter
  congr 1
  apply TableRows.orderedBy_eq_of_perm
  · apply List.Perm.of_eq
    unfold committedOf Store.committedOf Store.ofKey TableRows.select
    rw [List.filter_filter]
    apply List.filter_congr
    intro event _
    rw [Bool.and_comm]
    exact Bool.decide_and ..
  · exact (h.consistent.free_ok threadId).increasing.filter _

theorem after_cursor (h : Fed tables s) {consumer : Consumer} {rest : List ThreadEvent}
    (hdue : s.due consumer = consumer.received ++ rest) :
    ((s.committedOf consumer.threadId).filter fun event =>
      event.organizationId = consumer.organizationId ∧
        consumer.cursor < event.sequence) = rest := by
  have hincreasing : (s.due consumer).Pairwise fun a b => a.sequence < b.sequence :=
    (h.consistent.free_ok consumer.threadId).increasing.filter _
  have hstart : ∀ event ∈ s.due consumer, consumer.start < event.sequence := by
    intro event hevent
    exact (of_decide_eq_true (List.mem_filter.1 hevent).2).2
  rw [hdue] at hincreasing hstart
  obtain ⟨hreceived, -, hacross⟩ := List.pairwise_append.1 hincreasing
  have hcursor : consumer.start ≤ consumer.cursor ∧
      (∀ event ∈ consumer.received, event.sequence ≤ consumer.cursor) ∧
      ∀ event ∈ rest, consumer.cursor < event.sequence := by
    unfold Consumer.cursor
    cases hlast : consumer.received.getLast? with
    | none =>
        rw [List.getLast?_eq_none_iff.1 hlast] at hstart ⊢
        exact ⟨le_refl _, by simp, hstart⟩
    | some last =>
        obtain ⟨front, hfront⟩ := List.getLast?_eq_some_iff.1 hlast
        have hmem : last ∈ consumer.received := by simp [hfront]
        refine ⟨le_of_lt (hstart last (List.mem_append_left _ hmem)), ?_, ?_⟩
        · rw [hfront] at hreceived ⊢
          intro event hevent
          rcases List.mem_append.1 hevent with hevent | hevent
          · exact le_of_lt ((List.pairwise_append.1 hreceived).2.2 event hevent last
              (List.mem_singleton_self last))
          · rw [List.mem_singleton.1 hevent]
        · exact hacross last hmem
  obtain ⟨hle, hbefore, hafter⟩ := hcursor
  have hsplit : ((s.committedOf consumer.threadId).filter fun event =>
      event.organizationId = consumer.organizationId ∧ consumer.cursor < event.sequence) =
        (s.due consumer).filter fun event => consumer.cursor < event.sequence := by
    unfold due
    rw [List.filter_filter]
    apply List.filter_congr
    intro event _
    apply Bool.eq_iff_iff.2
    simp only [Bool.and_eq_true, decide_eq_true_iff]
    constructor
    · rintro ⟨horganization, hlt⟩
      exact ⟨hlt, horganization, lt_of_le_of_lt hle hlt⟩
    · rintro ⟨hlt, horganization, -⟩
      exact ⟨horganization, hlt⟩
  have hnone : consumer.received.filter (fun event => consumer.cursor < event.sequence) =
      [] := by
    apply List.filter_eq_nil_iff.2
    intro event hevent hlt
    exact absurd (of_decide_eq_true hlt) (Nat.not_lt.2 (hbefore event hevent))
  have hall : rest.filter (fun event => consumer.cursor < event.sequence) = rest := by
    apply List.filter_eq_self.2
    intro event hevent
    exact decide_eq_true (hafter event hevent)
  rw [hsplit, hdue, List.filter_append, hnone, hall, List.nil_append]

/-- **A page.**  A consumer receives the next events that are due, as many as the
limit allows. -/
theorem page_received (h : Fed tables s) {consumer : Consumer}
    {rest : List ThreadEvent} (hdue : s.due consumer = consumer.received ++ rest)
    (limit : Nat) :
    (consumer.page s.store.committedRows limit).received =
      consumer.received ++ rest.take limit := by
  unfold Consumer.page
  rw [eventsAfter_eq h, after_cursor h hdue]

theorem Followed.start {consumers : Nat → Consumer}
    (hnew : ∀ c, (consumers c).received = []) : (FeedSystem.start consumers).Followed := by
  intro c
  have hreceived : ((FeedSystem.start consumers).consumers c).received = [] := hnew c
  rw [hreceived]
  exact List.nil_prefix

theorem Effect.due_prefix (h : Fed tables s) (heffect : Effect tables s action t) (c : Nat) :
    s.due (s.consumers c) <+: t.due (t.consumers c) := by
  have hgrows : s.due (s.consumers c) <+: t.due (s.consumers c) :=
    (heffect.committedOf_prefix h _).filter _
  rcases heffect.consumer c with ⟨hsame, -⟩ | ⟨limit, -, -, hpaged⟩
  · exact hsame ▸ hgrows
  · exact hpaged ▸ hgrows

theorem Followed.effect (h : Fed tables s) (hfollowed : s.Followed)
    (heffect : Effect tables s action t) : t.Followed := by
  intro c
  rcases heffect.consumer c with ⟨hsame, -⟩ | ⟨limit, -, hstore, hpaged⟩
  · have hbefore : (t.consumers c).received <+: s.due (s.consumers c) :=
      hsame ▸ hfollowed c
    exact hbefore.trans (heffect.due_prefix h c)
  · obtain ⟨rest, hrest⟩ := hfollowed c
    have hdue : t.due (t.consumers c) = (s.consumers c).received ++ rest := by
      rw [hpaged, due_page, hrest]
      unfold due committedOf
      rw [hstore]
    rw [hdue, hpaged, page_received h hrest.symm]
    exact (List.prefix_append_right_inj _).2 (List.take_prefix _ _)

/-- A page of this consumer, with a positive limit. -/
def IsPage (c : Nat) : FeedAction → Bool
  | .page other limit => other == c && decide (0 < limit)
  | _ => false

/-- **Progress.**  Each page with a positive limit receives one more of the events
that were due, until there are none left. -/
theorem Effect.received_length (h : Fed tables s) (hfollowed : s.Followed)
    (heffect : Effect tables s action t) {c n : Nat}
    (hn : n ≤ (s.due (s.consumers c)).length) :
    min n ((s.consumers c).received.length + if IsPage c action then 1 else 0) ≤
      (t.consumers c).received.length := by
  rcases heffect.consumer c with ⟨hsame, hother⟩ | ⟨limit, rfl, -, hpaged⟩
  · have hpage : ¬ IsPage c action := by
      intro hpage
      cases action with
      | page other limit =>
          have hc : other = c := by simpa using (Bool.and_eq_true_iff.1 hpage).1
          exact hother limit (hc ▸ rfl)
      | _ => cases hpage
    rw [if_neg hpage, hsame]
    omega
  · obtain ⟨rest, hrest⟩ := hfollowed c
    rw [hpaged, page_received h hrest.symm]
    have hlength : (s.due (s.consumers c)).length =
        (s.consumers c).received.length + rest.length := by
      rw [← hrest, List.length_append]
    rw [List.length_append, List.length_take]
    by_cases hpage : IsPage c (.page c limit)
    · have hlimit : 0 < limit := by simpa [IsPage] using hpage
      rw [if_pos hpage]
      omega
    · rw [if_neg hpage]
      omega

/-- **Catching up.**  Whatever other sessions and consumers do meanwhile, a consumer
that takes as many pages as there are events due has received them all. -/
theorem received_of_pages (h : Fed tables s) (hfollowed : s.Followed)
    {later : List FeedAction} (hexec : Exec (step tables) s later t) {c : Nat}
    (hpages : (s.due (s.consumers c)).length ≤ later.countP (IsPage c)) :
    s.due (s.consumers c) <+: (t.consumers c).received := by
  have hinv : Fed tables t ∧ t.Followed ∧
      s.due (s.consumers c) <+: t.due (t.consumers c) ∧
      min (s.due (s.consumers c)).length (later.countP (IsPage c)) ≤
        (t.consumers c).received.length := by
    apply hexec.history fun past u => Fed tables u ∧ u.Followed ∧
      s.due (s.consumers c) <+: u.due (u.consumers c) ∧
      min (s.due (s.consumers c)).length (past.countP (IsPage c)) ≤
        (u.consumers c).received.length
    · exact ⟨h, hfollowed, List.prefix_rfl, by simp⟩
    · intro past u action v _ hu hstep
      obtain ⟨hfed, hfollows, hdue, hcount⟩ := hu
      have heffect := effect_of_step hstep
      refine ⟨hfed.effect heffect, hfollows.effect hfed heffect,
        hdue.trans (heffect.due_prefix hfed c), ?_⟩
      have hreceived := heffect.received_length hfed hfollows hdue.length_le
      rw [List.countP_append, List.countP_singleton]
      omega
  obtain ⟨-, hfollows, hdue, hcount⟩ := hinv
  apply List.prefix_of_prefix_length_le hdue (hfollows c)
  omega

/-- The events numbered after `first` are those after the first ones. -/
private theorem filter_eq_drop {first : Nat} {events : List ThreadEvent} (before : Nat)
    (h : events.map ThreadEvent.sequence = List.range' (before + 1) events.length) :
    (events.filter fun event => first < event.sequence) = events.drop (first - before) := by
  induction events generalizing before with
  | nil => simp
  | cons event events ih =>
      rw [List.map_cons, List.length_cons, List.range'_succ] at h
      obtain ⟨hsequence, hrest⟩ := List.cons.inj h
      have hih := ih (before + 1) hrest
      by_cases hfirst : first ≤ before
      · have hlt : first < event.sequence := by omega
        have hnone : first - before = 0 := by omega
        have hnone' : first - (before + 1) = 0 := by omega
        rw [List.filter_cons_of_pos (by simpa using hlt), hih, hnone, hnone',
          List.drop_zero, List.drop_zero]
      · have hge : ¬ first < event.sequence := by omega
        have hsucc : first - before = first - (before + 1) + 1 := by omega
        rw [List.filter_cons_of_neg (by simpa using hge), hih, hsucc, List.drop_succ_cons]

/-- A consumer of a thread of its organization is due every committed event after
the sequence it began with. -/
theorem due_eq_drop (h : Fed tables s) {consumer : Consumer}
    (horganization : tables.organizationOf consumer.threadId =
      some consumer.organizationId) :
    s.due consumer = (s.committedOf consumer.threadId).drop consumer.start := by
  have hnumbered : Numbered tables consumer.threadId _ (s.committedOf consumer.threadId) :=
    h.consistent.free_ok consumer.threadId
  have hfilter : s.due consumer = (s.committedOf consumer.threadId).filter fun event =>
      consumer.start < event.sequence := by
    unfold due
    apply List.filter_congr
    intro event hevent
    have hsame := hnumbered.organization event hevent
    rw [horganization] at hsame
    simp [Option.some.inj hsame]
  rw [hfilter]
  exact filter_eq_drop 0 hnumbered.sequences

end FeedSystem

/-- **Delivery.**  After any interleaving of appends, commits, rollbacks and pages,

1. the committed events of each thread are numbered from one on without a gap, in the
   order of their inserts;
2. no two events, committed or not, have one identity, and an append that names an
   event that is there adds nothing;
3. what each consumer received is the first part of what it is due, which for a thread
   of its organization is every committed event after the sequence it began with;
4. whatever happens later, a consumer has received everything that was due before as
   soon as it took that many pages, with any positive limits. -/
theorem work_feed_delivery {tables : FeedTables} {consumers : Nat → Consumer}
    {actions : List FeedAction} {s : FeedSystem}
    (hnew : ∀ c, (consumers c).received = [])
    (h : Exec (FeedSystem.step tables) (.start consumers) actions s) :
    (∀ threadId, (s.committedOf threadId).map ThreadEvent.sequence =
      List.range' 1 (s.committedOf threadId).length) ∧
    ((s.store.rows.map ThreadEvent.eventId).Nodup ∧
      ∀ session call, s.stage session = .idle →
        (∃ event ∈ s.store.visible session, call.eventId = some event.eventId) →
        s.step tables (.append session call) = some s) ∧
    (∀ c, (s.consumers c).received <+: s.due (s.consumers c) ∧
      (tables.organizationOf (s.consumers c).threadId =
          some (s.consumers c).organizationId →
        s.due (s.consumers c) =
          (s.committedOf (s.consumers c).threadId).drop (s.consumers c).start)) ∧
    ∀ c later t, Exec (FeedSystem.step tables) s later t →
      (s.due (s.consumers c)).length ≤ later.countP (FeedSystem.IsPage c) →
      s.due (s.consumers c) <+: (t.consumers c).received := by
  have hfed : Fed tables s := Fed.exec h
  have hfollowed : s.Followed := by
    have hboth : Fed tables s ∧ s.Followed := by
      apply h.invariant fun s => Fed tables s ∧ s.Followed
      · exact ⟨Fed.start consumers, FeedSystem.Followed.start hnew⟩
      · intro u action v hu hstep
        have heffect := FeedSystem.effect_of_step hstep
        exact ⟨hu.1.effect heffect, hu.2.effect hu.1 heffect⟩
    exact hboth.2
  refine ⟨fun threadId => ?_, ⟨hfed.distinct, ?_⟩, fun c => ⟨hfollowed c, ?_⟩, ?_⟩
  · exact (hfed.consistent.free_ok threadId).sequences
  · intro session call hidle hexisting
    obtain ⟨event, hevent, hname⟩ := hexisting
    have hfound : ((s.store.visible session).find? fun other =>
        other.eventId = event.eventId).isSome :=
      List.find?_isSome.2 ⟨event, hevent, decide_eq_true rfl⟩
    obtain ⟨found, hfound⟩ := Option.isSome_iff_exists.1 hfound
    simp [FeedSystem.step, FeedSystem.look, hidle, hname, hfound]
  · exact FeedSystem.due_eq_drop hfed
  · intro c later t hexec hpages
    exact FeedSystem.received_of_pages hfed hfollowed hexec hpages

/-- One consumer, of a thread of organization 2. -/
def reader : Consumer := { threadId := 5, organizationId := 2, start := 0 }

/-- Two sessions append to the consumer's thread; the consumer pages too early. -/
def twoAppends : List FeedAction :=
  let call (eventId : Option UUID) : AppendCall := ⟨2, 5, .agentStarted, [], 100, eventId⟩
  [.append 0 (call (some 10)), .append 1 (call none), .takeNumber 0, .insertEvent 0 77,
    .page 0 1, .commit 0, .takeNumber 1, .insertEvent 1 11, .commit 1]

theorem work_feed_delivery_twoAppends :
    ∃ s t, StepTrace.run (FeedSystem.step ⟨fun _ => some 2, fun _ _ => none⟩)
        (.start fun _ => reader) twoAppends = some s ∧
      StepTrace.run (FeedSystem.step ⟨fun _ => some 2, fun _ _ => none⟩) s
        [.page 0 1, .page 0 1] = some t ∧
      (t.consumers 0).received.map ThreadEvent.eventId = [10, 11] ∧
      s.due (s.consumers 0) <+: (t.consumers 0).received := by
  refine ⟨_, _, rfl, rfl, rfl, ?_⟩
  have hstart : StepTrace.run (FeedSystem.step ⟨fun _ => some 2, fun _ _ => none⟩)
      (.start fun _ => reader) twoAppends = some _ := rfl
  have hdelivery := work_feed_delivery (fun _ => rfl) (exec_of_run hstart)
  exact hdelivery.2.2.2 0 [.page 0 1, .page 0 1] _ (exec_of_run rfl) (le_refl 2)

end Zentra
