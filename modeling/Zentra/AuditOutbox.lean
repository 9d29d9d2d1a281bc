import Mathlib.Data.Prod.Lex
import Zentra.AnalysisRun
import Zentra.JsonDocument
import Zentra.RowLock
import Zentra.StepTrace
import Zentra.TableRows

/-!
# The audit outbox and its ordering floor

`PostgresAuditOutbox.enqueue` stamps the events of one Analysis Run with
strictly increasing times.  It locks the row of the run, reads the latest
stamp, and inserts the events, each a microsecond after the one before it
where its own time does not come later.  Any number of transactions do this
for any runs, one statement at a time; the lock is held until the transaction
ends.  Times are whole microseconds.

* `Enqueued` — the rows of a run are in order, and a session that has read the
  latest stamp has read the latest there is;
* `outbox_order` — in every interleaving the stamps of a run's rows strictly
  increase in the order of the inserts, and reading by stamp gives that order.
-/

open JsonDocument RowLock StepTrace

namespace Zentra

/-- A `DomainEvent` as the outbox takes it: with its identity, and with the
metadata as the mapping it is. -/
structure RecordedEvent where
  eventId : UUID
  eventType : String
  analysisRunId : UUID
  organizationId : UUID
  status : AnalysisRunStatus
  occurredAt : Int
  artifactRefs : List EvidenceReference := []
  metadata : Object := []

/-- The `payload` column, less the hash of the event's type and identity. -/
structure OutboxPayload where
  traceId : UUID
  spanId : UUID
  eventType : String
  status : String
  occurredAt : Int
  artifactRefs : List String
  metadata : Object

/-- A row of `audit_outbox`, as it is inserted. -/
structure OutboxRow where
  eventId : UUID
  organizationId : UUID
  analysisRunId : UUID
  payload : OutboxPayload
  createdAt : Int

/-- `enqueue(events)` of an outbox with these trace and span. -/
structure EnqueueCall where
  traceId : UUID
  spanId : UUID
  events : List RecordedEvent

/-- One turn of the loop: the stamp of an event after `latest`. -/
def createdAt (latest : Option Int) (occurredAt : Int) : Int :=
  match latest with
  | some latest => if occurredAt ≤ latest then latest + 1 else occurredAt
  | none => occurredAt

def EnqueueCall.row (call : EnqueueCall) (event : RecordedEvent) (createdAt : Int) :
    OutboxRow where
  eventId := event.eventId
  organizationId := event.organizationId
  analysisRunId := event.analysisRunId
  payload := {
    traceId := call.traceId
    spanId := call.spanId
    eventType := event.eventType
    status := event.status.value
    occurredAt := event.occurredAt
    artifactRefs := event.artifactRefs.map EvidenceReference.value
    metadata := event.metadata }
  createdAt := createdAt

/-- The loop over the events: either way `latest` becomes the stamp. -/
def EnqueueCall.stamped (call : EnqueueCall) :
    Option Int → List RecordedEvent → List OutboxRow
  | _, [] => []
  | latest, event :: events =>
      let stamp := createdAt latest event.occurredAt
      call.row event stamp :: call.stamped (some stamp) events

section Floor

variable {call : EnqueueCall} {latest : Option Int} {events : List RecordedEvent}

theorem createdAt_after (latest occurredAt : Int) :
    latest < createdAt (some latest) occurredAt := by
  unfold createdAt
  dsimp only
  split <;> omega

theorem createdAt_ge (latest : Option Int) (occurredAt : Int) :
    occurredAt ≤ createdAt latest occurredAt := by
  cases latest with
  | none => exact le_refl occurredAt
  | some latest =>
      unfold createdAt
      dsimp only
      split <;> omega

theorem stamped_after {floor : Int} :
    ∀ row ∈ call.stamped (some floor) events, floor < row.createdAt := by
  induction events generalizing floor with
  | nil => simp [EnqueueCall.stamped]
  | cons event events ih =>
      have hfirst := createdAt_after floor event.occurredAt
      intro row hrow
      rcases List.mem_cons.1 hrow with rfl | hrow
      · exact hfirst
      · exact lt_trans hfirst (ih row hrow)

/-- **The loop.**  The stamps strictly increase, whatever the times of the
events are. -/
theorem stamped_increasing :
    (call.stamped latest events).Pairwise fun a b => a.createdAt < b.createdAt := by
  induction events generalizing latest with
  | nil => exact List.Pairwise.nil
  | cons event events ih =>
      apply List.pairwise_cons.2
      exact ⟨fun row hrow => stamped_after row hrow, ih⟩

theorem stamped_floor :
    ∀ row ∈ call.stamped latest events, row.payload.occurredAt ≤ row.createdAt := by
  induction events generalizing latest with
  | nil => simp [EnqueueCall.stamped]
  | cons event events ih =>
      intro row hrow
      rcases List.mem_cons.1 hrow with rfl | hrow
      · exact createdAt_ge latest event.occurredAt
      · exact ih row hrow

theorem stamped_of_run {run : UUID} (h : ∀ event ∈ events, event.analysisRunId = run) :
    ∀ row ∈ call.stamped latest events, row.analysisRunId = run := by
  induction events generalizing latest with
  | nil => simp [EnqueueCall.stamped]
  | cons event events ih =>
      intro row hrow
      rcases List.mem_cons.1 hrow with rfl | hrow
      · exact h event List.mem_cons_self
      · exact ih (fun e he => h e (List.mem_cons_of_mem _ he)) row hrow

end Floor

/-- Where a session is in its call of `enqueue`. -/
inductive EnqueueStage
  | idle
  | locked (analysisRunId : UUID) (call : EnqueueCall)
  | measured (analysisRunId : UUID) (call : EnqueueCall) (latest : Option Int)

structure OutboxSystem where
  store : Store UUID Unit OutboxRow
  stage : Nat → EnqueueStage

inductive OutboxAction
  | enqueue (session : Nat) (call : EnqueueCall)
  | readLatest (session : Nat)
  | insertRows (session : Nat)
  | commit (session : Nat)
  | rollback (session : Nat)

namespace OutboxSystem

def empty : OutboxSystem where
  store := { value := fun _ => (), held := fun _ => none, log := [] }
  stage _ := .idle

/-- The committed rows of a run, in the order of their inserts. -/
def committedOf (s : OutboxSystem) (analysisRunId : UUID) : List OutboxRow :=
  s.store.committedOf OutboxRow.analysisRunId analysisRunId

/-- `select max(created_at) where analysis_run_id = …`. -/
def latest (s : OutboxSystem) (session : Nat) (analysisRunId : UUID) : Option Int :=
  ((s.store.visibleOf OutboxRow.analysisRunId session analysisRunId).map
    OutboxRow.createdAt).max?

def setStage (s : OutboxSystem) (session : Nat) (stage : EnqueueStage) : OutboxSystem :=
  { s with stage := Function.update s.stage session stage }

/-- The transaction ends without a commit. -/
def abort (s : OutboxSystem) (session : Nat) : OutboxSystem where
  store := s.store.rollback session
  stage := Function.update s.stage session .idle

def insertRows (s : OutboxSystem) (session : Nat) (rows : List OutboxRow) :
    OutboxSystem where
  store := s.store.insert session rows
  stage := Function.update s.stage session .idle

def step (s : OutboxSystem) : OutboxAction → Option OutboxSystem
  | .enqueue session call =>
      match s.stage session, call.events with
      | .idle, [] => some s
      | .idle, event :: events =>
          if ∃ e ∈ event :: events, e.analysisRunId ≠ event.analysisRunId then
            -- `ValueError`, before any statement.
            some s
          else do
            let store ← s.store.lock session event.analysisRunId
            some ({ s with store }.setStage session (.locked event.analysisRunId call))
      | _, _ => none
  | .readLatest session =>
      match s.stage session with
      | .locked run call =>
          some (s.setStage session (.measured run call (s.latest session run)))
      | _ => none
  | .insertRows session =>
      match s.stage session with
      | .measured _ call latest =>
          let rows := call.stamped latest call.events
          if s.store.Waits OutboxRow.eventId session rows then none
          else if s.store.Collides OutboxRow.eventId session rows then
            -- `IntegrityError`: the transaction is lost.
            some (s.abort session)
          else some (s.insertRows session rows)
      | _ => none
  | .commit session =>
      match s.stage session with
      | .idle => some { s with store := s.store.commit session }
      | _ => none
  | .rollback session => some (s.abort session)

inductive Statement (s : OutboxSystem) : OutboxAction → OutboxSystem → Prop
  | nothing {session : Nat} {call : EnqueueCall} : Statement s (.enqueue session call) s
  | locked {session : Nat} {call : EnqueueCall} {run : UUID}
      {store : Store UUID Unit OutboxRow} (hidle : s.stage session = .idle)
      (hlock : s.store.lock session run = some store)
      (hevents : ∀ event ∈ call.events, event.analysisRunId = run) :
      Statement s (.enqueue session call)
        ({ s with store := store }.setStage session (.locked run call))
  | measured {session : Nat} {run : UUID} {call : EnqueueCall}
      (hstage : s.stage session = .locked run call) :
      Statement s (.readLatest session)
        (s.setStage session (.measured run call (s.latest session run)))
  | inserted {session : Nat} {run : UUID} {call : EnqueueCall} {latest : Option Int}
      (hstage : s.stage session = .measured run call latest)
      (hwaits : ¬ s.store.Waits OutboxRow.eventId session
        (call.stamped latest call.events))
      (hcollides : ¬ s.store.Collides OutboxRow.eventId session
        (call.stamped latest call.events)) :
      Statement s (.insertRows session)
        (s.insertRows session (call.stamped latest call.events))
  | lost {session : Nat} : Statement s (.insertRows session) (s.abort session)
  | committed {session : Nat} (hidle : s.stage session = .idle) :
      Statement s (.commit session) { s with store := s.store.commit session }
  | aborted {session : Nat} : Statement s (.rollback session) (s.abort session)

theorem statement_of_step {s t : OutboxSystem} {action : OutboxAction}
    (h : s.step action = some t) : Statement s action t := by
  cases action with
  | enqueue session call =>
      simp only [step] at h
      split at h
      next => exact Option.some.inj h ▸ .nothing
      next event events hidle hcall =>
          split at h
          next => exact Option.some.inj h ▸ .nothing
          next hsame =>
              obtain ⟨store, hlock, hrest⟩ := Option.bind_eq_some_iff.1 h
              have hevents : ∀ e ∈ call.events,
                  e.analysisRunId = event.analysisRunId := by
                rw [hcall]
                intro e he
                by_contra hne
                exact hsame ⟨e, he, hne⟩
              exact Option.some.inj hrest ▸ .locked hidle hlock hevents
      next => cases h
  | readLatest session =>
      simp only [step] at h
      split at h
      next run call hstage => exact Option.some.inj h ▸ .measured hstage
      next => cases h
  | insertRows session =>
      simp only [step] at h
      split at h
      next run call latest hstage =>
          split at h
          next => cases h
          next hwaits =>
              split at h
              next => exact Option.some.inj h ▸ .lost
              next hcollides => exact Option.some.inj h ▸ .inserted hstage hwaits hcollides
      next => cases h
  | commit session =>
      simp only [step] at h
      split at h
      next hidle => exact Option.some.inj h ▸ .committed hidle
      next => cases h
  | rollback session => exact Option.some.inj h ▸ .aborted

@[simp] theorem stage_setStage_self {s : OutboxSystem} {session : Nat}
    {stage : EnqueueStage} : (s.setStage session stage).stage session = stage :=
  Function.update_self ..

end OutboxSystem

/-- `all_for_analysis_run`, over a table scanned in any order. -/
def allForAnalysisRun (table : List OutboxRow) (analysisRunId organizationId : UUID) :
    List OutboxRow :=
  TableRows.orderedBy (fun row => toLex (row.createdAt, row.eventId))
    (TableRows.select
      (fun row => row.analysisRunId = analysisRunId ∧ row.organizationId = organizationId)
      table)

namespace OutboxSystem

/-- The rows that a statement inserts. -/
def enqueued (s : OutboxSystem) : OutboxAction → List OutboxRow
  | .insertRows session =>
      match s.stage session with
      | .measured _ call latest => call.stamped latest call.events
      | _ => []
  | _ => []

/-- The rows that the statements insert, one after the other, whether or not
their transactions are committed. -/
def enqueueOrder : OutboxSystem → List OutboxAction → List OutboxRow
  | _, [] => []
  | s, action :: actions =>
      match s.step action with
      | some t => s.enqueued action ++ enqueueOrder t actions
      | none => []

theorem enqueueOrder_snoc {s t u : OutboxSystem} {actions : List OutboxAction}
    {action : OutboxAction} (h : StepTrace.run step s actions = some t)
    (hstep : t.step action = some u) :
    enqueueOrder s (actions ++ [action]) = enqueueOrder s actions ++ t.enqueued action := by
  induction actions generalizing s with
  | nil =>
      cases h
      simp [enqueueOrder, hstep]
  | cons first actions ih =>
      cases hfirst : s.step first with
      | none => simp [StepTrace.run, hfirst] at h
      | some next =>
          have hrest : StepTrace.run step next actions = some t := by
            simpa [StepTrace.run, hfirst] using h
          simp [enqueueOrder, hfirst, ih hrest]

/-- A statement keeps the rows, adds to them at the end, or takes some away. -/
theorem Statement.rows_sublist {s t : OutboxSystem} {action : OutboxAction}
    (h : s.Statement action t) :
    t.store.rows.Sublist (s.store.rows ++ s.enqueued action) := by
  cases h with
  | nothing => exact List.sublist_append_left ..
  | locked hidle hlock hevents =>
      have hrows := rows_lock hlock
      exact hrows ▸ List.sublist_append_left ..
  | measured hstage => exact List.sublist_append_left ..
  | @inserted session run call latest hstage hwaits hcollides =>
      have hnew : s.enqueued (.insertRows session) = call.stamped latest call.events := by
        simp only [enqueued, hstage]
      rw [hnew]
      exact (rows_insert ..).symm ▸ List.Sublist.refl _
  | lost => exact rows_rollback_sublist.trans (List.sublist_append_left ..)
  | committed hidle => exact (rows_commit ..).symm ▸ List.sublist_append_left ..
  | aborted => exact rows_rollback_sublist.trans (List.sublist_append_left ..)

theorem rows_sublist_enqueueOrder {s : OutboxSystem} {actions : List OutboxAction}
    (h : Exec step .empty actions s) :
    s.store.rows.Sublist (enqueueOrder .empty actions) := by
  induction h with
  | nil => exact List.Sublist.refl _
  | snoc hbefore hlast ih =>
      rw [enqueueOrder_snoc hbefore.run_eq hlast]
      have hstatement := (statement_of_step hlast).rows_sublist
      exact hstatement.trans (ih.append_right _)

end OutboxSystem

theorem mem_allForAnalysisRun {table : List OutboxRow} {analysisRunId organizationId : UUID}
    {row : OutboxRow} :
    row ∈ allForAnalysisRun table analysisRunId organizationId ↔
      row ∈ table ∧ row.analysisRunId = analysisRunId ∧
        row.organizationId = organizationId := by
  unfold allForAnalysisRun
  rw [TableRows.mem_orderedBy, TableRows.mem_select]

/-- The stamps strictly increase, and none comes before its event. -/
structure InOrder (rows : List OutboxRow) : Prop where
  increasing : rows.Pairwise fun a b => a.createdAt < b.createdAt
  floor : ∀ row ∈ rows, row.payload.occurredAt ≤ row.createdAt

theorem InOrder.nil : InOrder [] := ⟨List.Pairwise.nil, by simp⟩

/-- **Stamping after the maximum.**  Rows in order stay in order when more are
stamped after the latest of them. -/
theorem InOrder.append {rows : List OutboxRow} (h : InOrder rows) (call : EnqueueCall)
    (events : List RecordedEvent) :
    InOrder (rows ++ call.stamped (rows.map OutboxRow.createdAt).max? events) := by
  constructor
  · apply List.pairwise_append.2
    refine ⟨h.increasing, stamped_increasing, ?_⟩
    intro row hrow new hnew
    have hmem : row.createdAt ∈ rows.map OutboxRow.createdAt := List.mem_map_of_mem hrow
    cases hmax : (rows.map OutboxRow.createdAt).max? with
    | none =>
        rw [List.max?_eq_none_iff.1 hmax] at hmem
        cases hmem
    | some floor =>
        have hle : row.createdAt ≤ floor := (List.max?_eq_some_iff.1 hmax).2 _ hmem
        rw [hmax] at hnew
        exact lt_of_le_of_lt hle (stamped_after new hnew)
  · intro row hrow
    rcases List.mem_append.1 hrow with hrow | hrow
    · exact h.floor row hrow
    · exact stamped_floor row hrow

/-- What a session keeps in a run whose row it has locked: the rows are in
order, and what it has measured is the latest of them. -/
def KeptBy (stage : Nat → EnqueueStage) (session : Nat) (run : UUID) (_ : Unit)
    (rows : List OutboxRow) : Prop :=
  InOrder rows ∧ ∀ call latest, stage session = .measured run call latest →
    latest = (rows.map OutboxRow.createdAt).max?

structure Enqueued (s : OutboxSystem) : Prop where
  consistent : Consistent OutboxRow.analysisRunId (fun _ _ rows => InOrder rows)
    (KeptBy s.stage) s.store
  distinct : s.store.Distinct OutboxRow.eventId
  /-- Between its statements, `enqueue` has the lock and events of one run. -/
  locked : ∀ session run call,
    (s.stage session = .locked run call ∨
      ∃ latest, s.stage session = .measured run call latest) →
    s.store.held run = some (session, ()) ∧
      ∀ event ∈ call.events, event.analysisRunId = run

theorem KeptBy.of_idle {stage : Nat → EnqueueStage} {session : Nat} {run : UUID}
    {rows : List OutboxRow} (h : InOrder rows)
    (hstage : ∀ call latest, stage session ≠ .measured run call latest) :
    KeptBy stage session run () rows :=
  ⟨h, fun call latest hmeasured => absurd hmeasured (hstage call latest)⟩

/-- What other sessions keep does not depend on this session's stage. -/
theorem KeptBy.of_other {s : OutboxSystem} {session holder : Nat} {run : UUID}
    {stage : EnqueueStage} {v : Unit} {rows : List OutboxRow} (hne : holder ≠ session)
    (h : KeptBy s.stage holder run v rows) :
    KeptBy (Function.update s.stage session stage) holder run v rows := by
  refine ⟨h.1, fun call latest hmeasured => h.2 call latest ?_⟩
  rwa [Function.update_of_ne hne] at hmeasured

theorem KeptBy.of_stage {s : OutboxSystem} {session holder : Nat} {run : UUID}
    {stage : EnqueueStage} {v : Unit} {rows : List OutboxRow}
    (hstage : ∀ call latest, stage ≠ .measured run call latest)
    (h : KeptBy s.stage holder run v rows) :
    KeptBy (Function.update s.stage session stage) holder run v rows := by
  by_cases hne : holder = session
  · subst hne
    apply KeptBy.of_idle h.1
    rw [Function.update_self]
    exact hstage
  · exact KeptBy.of_other hne h

namespace Enqueued

variable {s t : OutboxSystem} {session : Nat}

theorem empty : Enqueued .empty where
  consistent := Consistent.empty _ fun _ => InOrder.nil
  distinct := List.nodup_nil
  locked session run call h := by
    rcases h with h | ⟨latest, h⟩ <;> cases h

theorem locked_of_other (h : Enqueued s) {store : Store UUID Unit OutboxRow}
    {stage : EnqueueStage}
    (hheld : ∀ other run, other ≠ session → s.store.held run = some (other, ()) →
      store.held run = some (other, ()))
    (hown : ∀ run call, (stage = .locked run call ∨
        ∃ latest, stage = .measured run call latest) →
      store.held run = some (session, ()) ∧
        ∀ event ∈ call.events, event.analysisRunId = run)
    (other : Nat) (run : UUID) (call : EnqueueCall)
    (hstage : Function.update s.stage session stage other = .locked run call ∨
      ∃ latest, Function.update s.stage session stage other = .measured run call latest) :
    store.held run = some (other, ()) ∧
      ∀ event ∈ call.events, event.analysisRunId = run := by
  by_cases hne : other = session
  · subst hne
    rw [Function.update_self] at hstage
    exact hown run call hstage
  · rw [Function.update_of_ne hne] at hstage
    obtain ⟨hold, hevents⟩ := h.locked other run call hstage
    exact ⟨hheld other run hne hold, hevents⟩

theorem enqueue (h : Enqueued s) {store : Store UUID Unit OutboxRow} {run : UUID}
    {call : EnqueueCall} (hidle : s.stage session = .idle)
    (hlock : s.store.lock session run = some store)
    (hevents : ∀ event ∈ call.events, event.analysisRunId = run) :
    Enqueued ({ s with store := store }.setStage session (.locked run call)) := by
  have hstart : ∀ (_ : Unit) rows, InOrder rows → KeptBy s.stage session run () rows := by
    intro _ rows hrows
    apply KeptBy.of_idle hrows
    intro call latest hmeasured
    rw [hidle] at hmeasured
    cases hmeasured
  constructor
  · have hlocked := h.consistent.lock hlock fun v rows hrows => hstart v rows hrows
    apply hlocked.imp
    intro holder j v _ hkept
    exact KeptBy.of_stage (fun _ _ hmeasured => by cases hmeasured) hkept
  · exact h.distinct.lock hlock
  · apply h.locked_of_other
    · intro other j _ hold
      exact held_lock_of_held hlock hold
    · intro j call' hstage
      rcases hstage with hstage | ⟨latest, hstage⟩
      · cases hstage
        exact ⟨held_lock hlock, hevents⟩
      · cases hstage

theorem readLatest (h : Enqueued s) {run : UUID} {call : EnqueueCall}
    (hstage : s.stage session = .locked run call) :
    Enqueued (s.setStage session (.measured run call (s.latest session run))) := by
  obtain ⟨hheld, hevents⟩ := h.locked session run call (.inl hstage)
  constructor
  · apply h.consistent.imp
    intro holder j v hj hkept
    by_cases hne : holder = session
    · subst hne
      refine ⟨hkept.1, fun call' latest hmeasured => ?_⟩
      have hset := OutboxSystem.stage_setStage_self.symm.trans hmeasured
      cases hset
      have hsees := h.consistent.toGuarded.visibleOf_eq hj
      unfold OutboxSystem.latest
      rw [hsees]
    · exact KeptBy.of_other hne hkept
  · exact h.distinct
  · apply h.locked_of_other fun _ _ _ hold => hold
    intro j call' hmeasured
    rcases hmeasured with hmeasured | ⟨latest, hmeasured⟩
    · cases hmeasured
    · cases hmeasured
      exact ⟨hheld, hevents⟩

theorem insertRows (h : Enqueued s) {run : UUID} {call : EnqueueCall}
    {latest : Option Int} (hstage : s.stage session = .measured run call latest)
    (hwaits : ¬ s.store.Waits OutboxRow.eventId session (call.stamped latest call.events))
    (hcollides : ¬ s.store.Collides OutboxRow.eventId session
      (call.stamped latest call.events)) :
    Enqueued (s.insertRows session (call.stamped latest call.events)) := by
  obtain ⟨hheld, hevents⟩ := h.locked session run call (.inr ⟨latest, hstage⟩)
  constructor
  · apply h.consistent.insert hheld (stamped_of_run hevents)
    · intro rows hkept
      have hlatest := hkept.2 call latest hstage
      apply KeptBy.of_idle
      · rw [hlatest]
        exact hkept.1.append call call.events
      · intro call latest hmeasured
        cases OutboxSystem.stage_setStage_self.symm.trans hmeasured
    · intro holder j v rows _ hkept
      exact KeptBy.of_stage (fun _ _ hmeasured => by cases hmeasured) hkept
  · exact h.distinct.insert hwaits hcollides
  · apply h.locked_of_other fun _ _ _ hold => hold
    rintro j call' (hmeasured | ⟨latest, hmeasured⟩) <;> cases hmeasured

theorem commit (h : Enqueued s) (hidle : s.stage session = .idle) :
    Enqueued { s with store := s.store.commit session } := by
  constructor
  · exact h.consistent.commit (fun _ _ _ hkept => hkept.1) fun _ _ _ _ _ hkept => hkept
  · exact h.distinct.commit
  · intro other run call hstage
    obtain ⟨hheld, hevents⟩ := h.locked other run call hstage
    have hne : other ≠ session := by
      rintro rfl
      rw [hidle] at hstage
      rcases hstage with hstage | ⟨latest, hstage⟩ <;> cases hstage
    exact ⟨release_eq_some.2 ⟨hheld, hne⟩, hevents⟩

theorem abort (h : Enqueued s) : Enqueued (s.abort session) := by
  constructor
  · exact h.consistent.rollback fun holder j v rows hne hkept => KeptBy.of_other hne hkept
  · exact h.distinct.rollback
  · apply h.locked_of_other
    · intro other run hne hold
      exact release_eq_some.2 ⟨hold, hne⟩
    · rintro j call' (hmeasured | ⟨latest, hmeasured⟩) <;> cases hmeasured

theorem statement (h : Enqueued s) {action : OutboxAction}
    (hstatement : s.Statement action t) : Enqueued t := by
  cases hstatement with
  | nothing => exact h
  | locked hidle hlock hevents => exact h.enqueue hidle hlock hevents
  | measured hstage => exact h.readLatest hstage
  | inserted hstage hwaits hcollides => exact h.insertRows hstage hwaits hcollides
  | lost => exact h.abort
  | committed hidle => exact h.commit hidle
  | aborted => exact h.abort

theorem exec {actions : List OutboxAction}
    (h : Exec OutboxSystem.step .empty actions s) : Enqueued s :=
  h.invariant Enqueued Enqueued.empty fun _ _ _ hinv hstep =>
    hinv.statement (OutboxSystem.statement_of_step hstep)

end Enqueued

theorem OutboxSystem.Statement.committed_kept {s t : OutboxSystem} {action : OutboxAction}
    (h : s.Statement action t) {row : OutboxRow} (hrow : row ∈ s.store.committedRows) :
    row ∈ t.store.committedRows := by
  cases h with
  | nothing => exact hrow
  | locked hidle hlock hevents => exact committedRows_lock hlock ▸ hrow
  | measured hstage => exact hrow
  | inserted hstage hwaits hcollides => exact committedRows_insert.symm ▸ hrow
  | lost => exact committedRows_rollback.symm ▸ hrow
  | committed hidle => exact committedRows_commit.symm ▸ mem_visible_of_committed hrow
  | aborted => exact committedRows_rollback.symm ▸ hrow

theorem Enqueued.row_unique {s : OutboxSystem} (h : Enqueued s) {row other : OutboxRow}
    (hrow : row ∈ s.store.committedRows) (hother : other ∈ s.store.committedRows)
    (hid : row.eventId = other.eventId) : row = other :=
  List.inj_on_of_nodup_map h.distinct (committedRows_sublist.subset hrow)
    (committedRows_sublist.subset hother) hid

/-- **The order of the outbox.**  After any interleaving of enqueue calls, commits
and rollbacks, the rows of a run stand in the order in which they were enqueued;
their stamps strictly increase, and none is earlier than the time of its event; the
committed ones come first.  So a scan of the committed rows in any order, ordered by
stamp, gives the order in which they were enqueued. -/
theorem outbox_order {actions : List OutboxAction} {s : OutboxSystem}
    (h : Exec OutboxSystem.step .empty actions s) (analysisRunId : UUID) :
    let stored := s.store.rowsOf OutboxRow.analysisRunId analysisRunId
    stored.Sublist (OutboxSystem.enqueueOrder .empty actions) ∧
      (stored.Pairwise fun a b => a.createdAt < b.createdAt) ∧
      (∀ row ∈ stored, row.payload.occurredAt ≤ row.createdAt) ∧
      s.committedOf analysisRunId <+: stored ∧
      ∀ table : List OutboxRow, table.Perm (s.committedOf analysisRunId) →
        TableRows.orderedBy OutboxRow.createdAt table = s.committedOf analysisRunId := by
  intro stored
  have hinv : Enqueued s := Enqueued.exec h
  have horder : InOrder stored := by
    cases hheld : s.store.held analysisRunId with
    | none =>
        have hall : s.store.committedOf OutboxRow.analysisRunId analysisRunId = stored :=
          hinv.consistent.toGuarded.committedOf_eq hheld
        exact hall ▸ hinv.consistent.free_ok analysisRunId
    | some holder => exact (hinv.consistent.held_ok holder.1 analysisRunId () hheld).1
  have hprefix : s.committedOf analysisRunId <+: stored :=
    hinv.consistent.toGuarded.committedOf_prefix
  refine ⟨?_, horder.increasing, horder.floor, hprefix, ?_⟩
  · exact List.filter_sublist.trans (OutboxSystem.rows_sublist_enqueueOrder h)
  · intro table htable
    exact TableRows.orderedBy_eq_of_perm htable
      (horder.increasing.sublist hprefix.sublist)

/-- Two sessions with clocks that disagree, and a third that loses its rows. -/
def lateClocks : List OutboxAction :=
  let event (eventId : UUID) (occurredAt : Int) : RecordedEvent :=
    { eventId, eventType := "analysis_run.started", analysisRunId := 1,
      organizationId := 2, status := .running, occurredAt }
  [.enqueue 0 ⟨7, 8, [event 10 500, event 11 500]⟩, .readLatest 0, .insertRows 0,
    .commit 0,
    .enqueue 1 ⟨7, 8, [event 12 900]⟩, .readLatest 1, .insertRows 1, .rollback 1,
    .enqueue 2 ⟨7, 8, [event 13 300, event 14 800]⟩, .readLatest 2, .insertRows 2,
    .commit 2]

theorem outbox_order_lateClocks :
    ∃ s, StepTrace.run OutboxSystem.step .empty lateClocks = some s ∧
      (s.committedOf 1).map OutboxRow.createdAt = [500, 501, 502, 800] ∧
      (s.committedOf 1).map OutboxRow.eventId = [10, 11, 13, 14] ∧
      TableRows.orderedBy OutboxRow.createdAt (s.committedOf 1).reverse =
        s.committedOf 1 := by
  refine ⟨_, rfl, rfl, rfl, ?_⟩
  have hrun : StepTrace.run OutboxSystem.step .empty lateClocks = some _ := rfl
  exact (outbox_order (exec_of_run hrun) 1).2.2.2.2 _ (List.reverse_perm _)

end Zentra
