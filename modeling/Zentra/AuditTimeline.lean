import Zentra.AuditOutbox

/-!
# The timeline while the outbox is delivered

`AuditDeliveryCoordinator.flush` moves the events of a run from the outbox to the audit
ledger: it appends an event, then marks its row as dispatched, in a transaction of its
own.  `list_timeline` merges the two stores: it reads the ledger, and takes a failed
read for an empty one; then it reads the outbox, and leaves out what is dispatched.
Flushes, enqueues and calls of `list_timeline` interleave here one store access at a
time; the ledger may fail at any access.

* `timeline_complete_iff` — every call of a run shows every event it owes exactly if
  all of its steps are covered;
* `timeline_overtaken` — a flush between the two reads, and a failed read, lose events.
-/

open JsonDocument RowLock StepTrace TableRows

namespace Zentra

/-- The columns of an `audit_outbox` row that the delivery writes. -/
structure Delivery where
  dispatchedAt : Option Int := none
  attempts : Nat := 0
  lastErrorCode : Option String := none
  deriving DecidableEq

/-- An `AuditEntry`, less the figures of an agent's execution. -/
structure AuditEntry where
  entryId : UUID
  traceId : UUID
  spanId : UUID
  organizationId : UUID
  analysisRunId : UUID
  eventType : String
  status : String
  artifactRefs : List String
  redactedMetadata : Object
  createdAt : Int

/-- `_entry`. -/
def auditEntry (record : OutboxRow) : AuditEntry where
  entryId := record.eventId
  traceId := record.payload.traceId
  spanId := record.payload.spanId
  organizationId := record.organizationId
  analysisRunId := record.analysisRunId
  eventType := record.payload.eventType
  status := record.payload.status
  artifactRefs := record.payload.artifactRefs
  redactedMetadata := record.payload.metadata
  createdAt := record.createdAt

inductive AuditDelivery
  | pending | complete
  deriving DecidableEq

/-- A `TimelineEntry`, with the mapping that the rest of its fields are read from. -/
structure TimelineEntry where
  entryId : UUID
  eventType : String
  status : String
  createdAt : Int
  artifactRefs : List String
  delivery : AuditDelivery
  metadata : Object

def deliveredEntry (row : AuditEntry) : TimelineEntry where
  entryId := row.entryId
  eventType := row.eventType
  status := row.status
  createdAt := row.createdAt
  artifactRefs := row.artifactRefs
  delivery := .complete
  metadata := row.redactedMetadata

def pendingEntry (record : OutboxRow) : TimelineEntry where
  entryId := record.eventId
  eventType := record.payload.eventType
  status := record.payload.status
  createdAt := record.createdAt
  artifactRefs := record.payload.artifactRefs
  delivery := .pending
  metadata := record.payload.metadata

/-- The ledger's rows of a run, one for each entry. -/
def listForAnalysisRun (ledger : List AuditEntry) (organizationId analysisRunId : UUID) :
    List AuditEntry :=
  (orderedBy (fun row => toLex (row.createdAt, row.entryId)) (select (fun row =>
    row.organizationId = organizationId ∧ row.analysisRunId = analysisRunId)
      ledger)).foldl (setDefault AuditEntry.entryId) []

def timeline (deliveredRows : List AuditEntry) (outboxRows : List OutboxRow)
    (delivery : UUID → Delivery) : List TimelineEntry :=
  let entries := (deliveredRows.map deliveredEntry).foldl (setItem TimelineEntry.entryId) []
  let owed := select (fun record => (delivery record.eventId).dispatchedAt = none) outboxRows
  orderedBy (fun entry => toLex (entry.createdAt, entry.entryId))
    ((owed.map pendingEntry).foldl (setDefault TimelineEntry.entryId) entries)

/-- Where a flush is: with the records that it has yet to deliver, or between an
append and the mark that tells how it went. -/
inductive FlushStage
  | idle
  | delivering (records : List OutboxRow)
  | appended (record : OutboxRow) (records : List OutboxRow)
  | refused (record : OutboxRow) (records : List OutboxRow)

def FlushStage.records : FlushStage → List OutboxRow
  | .idle => []
  | .delivering records => records
  | .appended record records => record :: records
  | .refused record records => record :: records

/-- A call of `list_timeline`, and the events of the run that were committed to the
outbox when it started. -/
structure TimelineCall where
  organizationId : UUID
  analysisRunId : UUID
  owed : List OutboxRow

def TimelineCall.deliveredRows (call : TimelineCall) :
    Option (List AuditEntry) → List AuditEntry
  | some ledger => listForAnalysisRun ledger call.organizationId call.analysisRunId
  | none => []

/-- Where a call is; `ledger` is the ledger as the call has read it, unless that
failed. -/
inductive TimelineStage
  | idle
  | called (call : TimelineCall)
  | ledgerRead (call : TimelineCall) (ledger : Option (List AuditEntry))
  | returned (call : TimelineCall) (entries : List TimelineEntry)

structure TimelineSystem where
  outbox : OutboxSystem
  delivery : UUID → Delivery
  ledger : List AuditEntry
  flushes : Nat → FlushStage
  calls : Nat → TimelineStage

/-- How an append to the ledger ends: it may raise and be stored all the same. -/
inductive AppendOutcome
  | stored
  | raised (stored : Bool)

inductive TimelineAction
  | outbox (action : OutboxAction)
  | flush (flusher : Nat) (analysisRunId : UUID)
  | append (flusher : Nat) (outcome : AppendOutcome)
  | mark (flusher : Nat) (now : Int)
  | stopFlush (flusher : Nat)
  | listTimeline (reader : Nat) (organizationId analysisRunId : UUID)
  | readLedger (reader : Nat) (fails : Bool)
  | readOutbox (reader : Nat)

namespace TimelineSystem

def empty : TimelineSystem where
  outbox := .empty
  delivery _ := {}
  ledger := []
  flushes _ := .idle
  calls _ := .idle

/-- `outbox.pending(analysis_run_id=…)`, with its limit of 100. -/
def pending (s : TimelineSystem) (analysisRunId : UUID) : List OutboxRow :=
  (orderedBy (fun row => toLex (row.createdAt, row.eventId)) (select (fun row =>
    (s.delivery row.eventId).dispatchedAt = none ∧ row.analysisRunId = analysisRunId)
      s.outbox.store.committedRows)).take 100

/-- The committed events of a run of an organization. -/
def committed (s : TimelineSystem) (organizationId analysisRunId : UUID) :
    List OutboxRow :=
  allForAnalysisRun s.outbox.store.committedRows analysisRunId organizationId

def setFlush (s : TimelineSystem) (flusher : Nat) (stage : FlushStage) : TimelineSystem :=
  { s with flushes := Function.update s.flushes flusher stage }

def setCall (s : TimelineSystem) (reader : Nat) (stage : TimelineStage) : TimelineSystem :=
  { s with calls := Function.update s.calls reader stage }

/-- The append stored the entry, or it did not. -/
def append (s : TimelineSystem) (record : OutboxRow) (stored : Bool) : TimelineSystem :=
  { s with ledger := if stored then s.ledger ++ [auditEntry record] else s.ledger }

def markDispatched (s : TimelineSystem) (eventId : UUID) (now : Int) : TimelineSystem :=
  let marked : Delivery :=
    { s.delivery eventId with dispatchedAt := some now, lastErrorCode := none }
  { s with delivery := Function.update s.delivery eventId marked }

def markFailed (s : TimelineSystem) (eventId : UUID) (errorCode : String) :
    TimelineSystem :=
  let old := s.delivery eventId
  let marked : Delivery :=
    { old with attempts := old.attempts + 1, lastErrorCode := some errorCode }
  { s with delivery := Function.update s.delivery eventId marked }

def step (s : TimelineSystem) : TimelineAction → Option TimelineSystem
  | .outbox action => (s.outbox.step action).map fun outbox => { s with outbox }
  | .flush flusher analysisRunId =>
      match s.flushes flusher with
      | .idle => some (s.setFlush flusher (.delivering (s.pending analysisRunId)))
      | _ => none
  | .append flusher outcome =>
      match s.flushes flusher with
      | .delivering (record :: records) =>
          match outcome with
          | .stored =>
              some ((s.append record true).setFlush flusher (.appended record records))
          | .raised stored =>
              some ((s.append record stored).setFlush flusher (.refused record records))
      | _ => none
  | .mark flusher now =>
      match s.flushes flusher with
      | .appended record records =>
          some ((s.markDispatched record.eventId now).setFlush flusher
            (.delivering records))
      | .refused record records =>
          some ((s.markFailed record.eventId "clickhouse_unavailable").setFlush flusher
            (.delivering records))
      | _ => none
  -- A flush is through with its records, or it ends early.
  | .stopFlush flusher => some (s.setFlush flusher .idle)
  | .listTimeline reader organizationId analysisRunId =>
      match s.calls reader with
      | .called _ | .ledgerRead _ _ => none
      | _ =>
          some (s.setCall reader (.called ⟨organizationId, analysisRunId,
            s.committed organizationId analysisRunId⟩))
  | .readLedger reader fails =>
      match s.calls reader with
      | .called call =>
          some (s.setCall reader
            (.ledgerRead call (if fails then none else some s.ledger)))
      | _ => none
  | .readOutbox reader =>
      match s.calls reader with
      | .ledgerRead call ledger =>
          some (s.setCall reader (.returned call (timeline (call.deliveredRows ledger)
            (s.committed call.organizationId call.analysisRunId) s.delivery)))
      | _ => none

inductive Access (s : TimelineSystem) : TimelineAction → TimelineSystem → Prop
  | outbox {action : OutboxAction} {outbox : OutboxSystem}
      (hstatement : s.outbox.Statement action outbox) :
      Access s (.outbox action) { s with outbox := outbox }
  | flushing {flusher : Nat} {analysisRunId : UUID} :
      Access s (.flush flusher analysisRunId)
        (s.setFlush flusher (.delivering (s.pending analysisRunId)))
  | appended {flusher : Nat} {outcome : AppendOutcome} {record : OutboxRow}
      {records : List OutboxRow} {stored : Bool} {stage : FlushStage}
      (hstage : (s.flushes flusher).records = record :: records)
      (hrecords : stage.records = record :: records) :
      Access s (.append flusher outcome) ((s.append record stored).setFlush flusher stage)
  | marked {flusher : Nat} {now : Int} {record : OutboxRow} {records : List OutboxRow}
      {delivery : UUID → Delivery}
      (hstage : (s.flushes flusher).records = record :: records) :
      Access s (.mark flusher now)
        ({ s with delivery := delivery }.setFlush flusher (.delivering records))
  | stopped {flusher : Nat} : Access s (.stopFlush flusher) (s.setFlush flusher .idle)
  | called {reader : Nat} {organizationId analysisRunId : UUID} :
      Access s (.listTimeline reader organizationId analysisRunId)
        (s.setCall reader (.called ⟨organizationId, analysisRunId,
          s.committed organizationId analysisRunId⟩))
  | ledgerRead {reader : Nat} {fails : Bool} {call : TimelineCall}
      (hstage : s.calls reader = .called call) :
      Access s (.readLedger reader fails)
        (s.setCall reader (.ledgerRead call (if fails then none else some s.ledger)))
  | returned {reader : Nat} {call : TimelineCall} {ledger : Option (List AuditEntry)}
      (hstage : s.calls reader = .ledgerRead call ledger) :
      Access s (.readOutbox reader)
        (s.setCall reader (.returned call (timeline (call.deliveredRows ledger)
          (s.committed call.organizationId call.analysisRunId) s.delivery)))

theorem access_of_step {s t : TimelineSystem} {action : TimelineAction}
    (h : s.step action = some t) : Access s action t := by
  cases action with
  | outbox action =>
      obtain ⟨outbox, hstep, rfl⟩ := Option.map_eq_some_iff.1 h
      exact .outbox (OutboxSystem.statement_of_step hstep)
  | flush flusher analysisRunId =>
      simp only [step] at h
      split at h
      next => exact Option.some.inj h ▸ .flushing
      next => cases h
  | append flusher outcome =>
      simp only [step] at h
      split at h
      next record records hstage =>
          have hrecords : (s.flushes flusher).records = record :: records := by
            rw [hstage]
            rfl
          split at h
          next => exact Option.some.inj h ▸ .appended hrecords rfl
          next => exact Option.some.inj h ▸ .appended hrecords rfl
      next => cases h
  | mark flusher now =>
      simp only [step] at h
      split at h
      next record records hstage =>
          have hrecords : (s.flushes flusher).records = record :: records := by
            rw [hstage]
            rfl
          exact Option.some.inj h ▸ .marked hrecords
      next record records hstage =>
          have hrecords : (s.flushes flusher).records = record :: records := by
            rw [hstage]
            rfl
          exact Option.some.inj h ▸ .marked hrecords
      next => cases h
  | stopFlush flusher => exact Option.some.inj h ▸ .stopped
  | listTimeline reader organizationId analysisRunId =>
      simp only [step] at h
      split at h
      next => cases h
      next => cases h
      next => exact Option.some.inj h ▸ .called
  | readLedger reader fails =>
      simp only [step] at h
      split at h
      next call hstage => exact Option.some.inj h ▸ .ledgerRead hstage
      next => cases h
  | readOutbox reader =>
      simp only [step] at h
      split at h
      next call ledger hstage => exact Option.some.inj h ▸ .returned hstage
      next => cases h

end TimelineSystem

structure Shows (entry : TimelineEntry) (row : OutboxRow) : Prop where
  entryId : entry.entryId = row.eventId
  eventType : entry.eventType = row.payload.eventType
  status : entry.status = row.payload.status
  createdAt : entry.createdAt = row.createdAt
  artifactRefs : entry.artifactRefs = row.payload.artifactRefs
  metadata : entry.metadata = row.payload.metadata

/-- The timeline shows every event that is owed to the call, once. -/
def TimelineCall.Complete (call : TimelineCall) (entries : List TimelineEntry) : Prop :=
  ∀ row ∈ call.owed, ∃ entry, Shows entry row ∧
    (entries.filter fun entry => entry.entryId = row.eventId) = [entry]

/-- Every call that has returned was complete. -/
def TimelineSystem.Complete (s : TimelineSystem) : Prop :=
  ∀ reader call entries, s.calls reader = .returned call entries → call.Complete entries

/-- **The condition.**  When a call reads the outbox, whatever is owed to it and has
been dispatched was in the ledger when the call read that, and that read did not
fail. -/
def Covered (s : TimelineSystem) : TimelineAction → Prop
  | .readOutbox reader => ∀ call ledger, s.calls reader = .ledgerRead call ledger →
      ∀ row ∈ call.owed, (s.delivery row.eventId).dispatchedAt ≠ none →
        ∃ stored, ledger = some stored ∧ ∃ entry ∈ stored, entry.entryId = row.eventId
  | _ => True

section Merge

variable {ledger delivered : List AuditEntry} {outboxRows : List OutboxRow}
  {delivery : UUID → Delivery} {organizationId analysisRunId id : UUID}

theorem mem_listForAnalysisRun {row : AuditEntry}
    (h : row ∈ listForAnalysisRun ledger organizationId analysisRunId) : row ∈ ledger := by
  rcases addsTo_setDefault.mem_foldl h with hnil | hmem
  · cases hnil
  · exact (mem_select.1 (mem_orderedBy.1 hmem)).1

theorem mem_keys_listForAnalysisRun :
    id ∈ (listForAnalysisRun ledger organizationId analysisRunId).map AuditEntry.entryId ↔
      ∃ row ∈ ledger, row.organizationId = organizationId ∧
        row.analysisRunId = analysisRunId ∧ row.entryId = id := by
  unfold listForAnalysisRun
  rw [addsTo_setDefault.mem_keys_foldl]
  simp only [List.map_nil, List.not_mem_nil, false_or, List.mem_map, mem_orderedBy,
    mem_select, and_assoc]

/-- The events that a timeline shows: the ledger's, and those of the outbox that are
not dispatched. -/
theorem mem_keys_timeline :
    id ∈ (timeline delivered outboxRows delivery).map TimelineEntry.entryId ↔
      id ∈ delivered.map AuditEntry.entryId ∨
        ∃ record ∈ outboxRows, (delivery record.eventId).dispatchedAt = none ∧
          record.eventId = id := by
  unfold timeline
  dsimp only
  rw [(orderedBy_perm.map _).mem_iff, addsTo_setDefault.mem_keys_foldl,
    addsTo_setItem.mem_keys_foldl, List.map_map, List.map_map]
  have hdelivered : TimelineEntry.entryId ∘ deliveredEntry = AuditEntry.entryId := rfl
  have hpending : TimelineEntry.entryId ∘ pendingEntry = OutboxRow.eventId := rfl
  rw [hdelivered, hpending]
  simp only [List.map_nil, List.not_mem_nil, false_or]
  rw [List.mem_map (l := select _ _)]
  simp only [mem_select, and_assoc]

theorem timeline_nodup :
    ((timeline delivered outboxRows delivery).map TimelineEntry.entryId).Nodup := by
  unfold timeline
  dsimp only
  apply ((orderedBy_perm.map _).nodup_iff).2
  apply addsTo_setDefault.nodup_foldl
  apply addsTo_setItem.nodup_foldl
  exact List.nodup_nil

theorem mem_timeline {entry : TimelineEntry}
    (h : entry ∈ timeline delivered outboxRows delivery) :
    (∃ row ∈ delivered, entry = deliveredEntry row) ∨
      ∃ record ∈ outboxRows, entry = pendingEntry record := by
  unfold timeline at h
  rcases addsTo_setDefault.mem_foldl (mem_orderedBy.1 h) with hledger | houtbox
  · rcases addsTo_setItem.mem_foldl hledger with hnil | hmem
    · cases hnil
    · obtain ⟨row, hrow, rfl⟩ := List.mem_map.1 hmem
      exact .inl ⟨row, hrow, rfl⟩
  · obtain ⟨record, hrecord, rfl⟩ := List.mem_map.1 houtbox
    exact .inr ⟨record, (mem_select.1 hrecord).1, rfl⟩

end Merge

/-- The call that has yet to return. -/
def TimelineStage.running : TimelineStage → Option TimelineCall
  | .called call | .ledgerRead call _ => some call
  | _ => none

/-- What is in the ledger, in a flush or owed to a call is committed in the outbox. -/
structure Delivered (s : TimelineSystem) : Prop where
  enqueued : Enqueued s.outbox
  ledger_ok : ∀ entry ∈ s.ledger, ∃ row ∈ s.outbox.store.committedRows,
    entry = auditEntry row
  flush_ok : ∀ flusher, ∀ record ∈ (s.flushes flusher).records,
    record ∈ s.outbox.store.committedRows
  owed_ok : ∀ reader call, (s.calls reader).running = some call → ∀ row ∈ call.owed,
    row ∈ s.committed call.organizationId call.analysisRunId
  read_ok : ∀ reader call ledger, s.calls reader = .ledgerRead call (some ledger) →
    ∀ entry ∈ ledger, ∃ row ∈ s.outbox.store.committedRows, entry = auditEntry row
  complete : s.Complete

namespace Delivered

variable {s t : TimelineSystem} {reader : Nat} {call : TimelineCall}
  {ledger : Option (List AuditEntry)}

/-- An entry with the identity of a committed event shows that event. -/
theorem shows (h : Delivered s) (hstage : s.calls reader = .ledgerRead call ledger)
    {entry : TimelineEntry}
    (hentry : entry ∈ timeline (call.deliveredRows ledger)
      (s.committed call.organizationId call.analysisRunId) s.delivery)
    {row : OutboxRow} (hrow : row ∈ s.outbox.store.committedRows)
    (hid : entry.entryId = row.eventId) : Shows entry row := by
  rcases mem_timeline hentry with ⟨stored, hstored, rfl⟩ | ⟨record, hrecord, rfl⟩
  · cases ledger with
    | none => cases hstored
    | some ledger =>
        have hmem := mem_listForAnalysisRun hstored
        obtain ⟨other, hother, rfl⟩ := h.read_ok reader call ledger hstage stored hmem
        obtain rfl := h.enqueued.row_unique hother hrow hid
        exact ⟨rfl, rfl, rfl, rfl, rfl, rfl⟩
  · have hother := (mem_allForAnalysisRun.1 hrecord).1
    obtain rfl := h.enqueued.row_unique hother hrow hid
    exact ⟨rfl, rfl, rfl, rfl, rfl, rfl⟩

/-- **The merge.**  A call shows all the events it owes exactly if those that have been
dispatched were in the ledger as it has read it. -/
theorem complete_iff (h : Delivered s) (hstage : s.calls reader = .ledgerRead call ledger) :
    call.Complete (timeline (call.deliveredRows ledger)
        (s.committed call.organizationId call.analysisRunId) s.delivery) ↔
      ∀ row ∈ call.owed, (s.delivery row.eventId).dispatchedAt ≠ none →
        ∃ stored, ledger = some stored ∧ ∃ entry ∈ stored, entry.entryId = row.eventId := by
  have hrunning : (s.calls reader).running = some call := by rw [hstage]; rfl
  have howed := h.owed_ok reader call hrunning
  have hcommitted : ∀ row ∈ call.owed, row ∈ s.outbox.store.committedRows :=
    fun row hrow => (mem_allForAnalysisRun.1 (howed row hrow)).1
  constructor
  · intro hcomplete row hrow hdispatched
    obtain ⟨entry, hshows, hfilter⟩ := hcomplete row hrow
    have hmem : entry ∈ timeline (call.deliveredRows ledger)
        (s.committed call.organizationId call.analysisRunId) s.delivery := by
      have hin : entry ∈ [entry] := List.mem_singleton_self entry
      rw [← hfilter] at hin
      exact (List.mem_filter.1 hin).1
    have hkey := mem_keys_timeline.1 (List.mem_map_of_mem hmem)
    rcases hkey with hledger | ⟨record, hrecord, hpending, hid⟩
    · cases ledger with
      | none => cases hledger
      | some stored =>
          obtain ⟨found, hfound, -, -, hid⟩ := mem_keys_listForAnalysisRun.1 hledger
          exact ⟨stored, rfl, found, hfound, hid.trans hshows.entryId⟩
    · rw [hid, hshows.entryId] at hpending
      exact absurd hpending hdispatched
  · intro hcovered row hrow
    have hkey : row.eventId ∈ (timeline (call.deliveredRows ledger)
        (s.committed call.organizationId call.analysisRunId) s.delivery).map
          TimelineEntry.entryId := by
      apply mem_keys_timeline.2
      by_cases hdispatched : (s.delivery row.eventId).dispatchedAt = none
      · exact .inr ⟨row, howed row hrow, hdispatched, rfl⟩
      · obtain ⟨stored, rfl, entry, hentry, hid⟩ := hcovered row hrow hdispatched
        obtain ⟨other, hother, rfl⟩ := h.read_ok reader call stored hstage entry hentry
        obtain rfl := h.enqueued.row_unique hother (hcommitted row hrow) hid
        obtain ⟨-, hrun, horganization⟩ := mem_allForAnalysisRun.1 (howed _ hrow)
        exact .inl (mem_keys_listForAnalysisRun.2
          ⟨_, hentry, horganization, hrun, rfl⟩)
    obtain ⟨entry, hentry, hid, hfilter⟩ := filter_key_eq_singleton timeline_nodup hkey
    exact ⟨entry, h.shows hstage hentry (hcommitted row hrow) hid, hfilter⟩

theorem empty : Delivered .empty where
  enqueued := Enqueued.empty
  ledger_ok entry hentry := by cases hentry
  flush_ok flusher record hrecord := by cases hrecord
  owed_ok reader call hcall := by cases hcall
  read_ok reader call ledger hstage := by cases hstage
  complete reader call entries hstage := by cases hstage

theorem of_outbox (h : Delivered s) {action : OutboxAction} {outbox : OutboxSystem}
    (hstatement : s.outbox.Statement action outbox) :
    Delivered { s with outbox := outbox } where
  enqueued := h.enqueued.statement hstatement
  ledger_ok entry hentry := by
    obtain ⟨row, hrow, heq⟩ := h.ledger_ok entry hentry
    exact ⟨row, hstatement.committed_kept hrow, heq⟩
  flush_ok flusher record hrecord :=
    hstatement.committed_kept (h.flush_ok flusher record hrecord)
  owed_ok reader call hcall row hrow := by
    obtain ⟨hmem, hof⟩ := mem_allForAnalysisRun.1 (h.owed_ok reader call hcall row hrow)
    exact mem_allForAnalysisRun.2 ⟨hstatement.committed_kept hmem, hof⟩
  read_ok reader call ledger hstage entry hentry := by
    obtain ⟨row, hrow, heq⟩ := h.read_ok reader call ledger hstage entry hentry
    exact ⟨row, hstatement.committed_kept hrow, heq⟩
  complete := h.complete

theorem of_flush (h : Delivered s) {flusher : Nat} {stage : FlushStage}
    {stored : List AuditEntry} {delivery : UUID → Delivery}
    (hrecords : ∀ record ∈ stage.records, record ∈ s.outbox.store.committedRows)
    (hstored : ∀ entry ∈ stored, ∃ row ∈ s.outbox.store.committedRows,
      entry = auditEntry row) :
    Delivered { s with
      ledger := stored
      delivery := delivery
      flushes := Function.update s.flushes flusher stage } where
  enqueued := h.enqueued
  ledger_ok := hstored
  flush_ok other record hrecord := by
    dsimp only at hrecord
    by_cases hother : other = flusher
    · subst hother
      rw [Function.update_self] at hrecord
      exact hrecords record hrecord
    · rw [Function.update_of_ne hother] at hrecord
      exact h.flush_ok other record hrecord
  owed_ok := h.owed_ok
  read_ok := h.read_ok
  complete := h.complete

theorem of_call (h : Delivered s) {stage : TimelineStage}
    (howed : ∀ call, stage.running = some call → ∀ row ∈ call.owed,
      row ∈ s.committed call.organizationId call.analysisRunId)
    (hread : ∀ call ledger, stage = .ledgerRead call (some ledger) →
      ∀ entry ∈ ledger, ∃ row ∈ s.outbox.store.committedRows, entry = auditEntry row)
    (hcomplete : ∀ call entries, stage = .returned call entries → call.Complete entries) :
    Delivered (s.setCall reader stage) where
  enqueued := h.enqueued
  ledger_ok := h.ledger_ok
  flush_ok := h.flush_ok
  owed_ok other call hcall := by
    unfold TimelineSystem.setCall at hcall
    dsimp only at hcall
    by_cases hother : other = reader
    · subst hother
      rw [Function.update_self] at hcall
      exact howed call hcall
    · rw [Function.update_of_ne hother] at hcall
      exact h.owed_ok other call hcall
  read_ok other call ledger hstage := by
    unfold TimelineSystem.setCall at hstage
    dsimp only at hstage
    by_cases hother : other = reader
    · subst hother
      rw [Function.update_self] at hstage
      exact hread call ledger hstage
    · rw [Function.update_of_ne hother] at hstage
      exact h.read_ok other call ledger hstage
  complete other call entries hstage := by
    unfold TimelineSystem.setCall at hstage
    dsimp only at hstage
    by_cases hother : other = reader
    · subst hother
      rw [Function.update_self] at hstage
      exact hcomplete call entries hstage
    · rw [Function.update_of_ne hother] at hstage
      exact h.complete other call entries hstage

theorem pending_committed {analysisRunId : UUID} :
    ∀ record ∈ s.pending analysisRunId, record ∈ s.outbox.store.committedRows := by
  intro record hrecord
  exact (mem_select.1 (mem_orderedBy.1 (List.mem_of_mem_take hrecord))).1

theorem append_stored (h : Delivered s) {record : OutboxRow} {stored : Bool}
    (hrecord : record ∈ s.outbox.store.committedRows) :
    ∀ entry ∈ (s.append record stored).ledger,
      ∃ row ∈ s.outbox.store.committedRows, entry = auditEntry row := by
  unfold TimelineSystem.append
  cases stored with
  | false => exact h.ledger_ok
  | true =>
      intro entry hentry
      rcases List.mem_append.1 hentry with hold | hnew
      · exact h.ledger_ok entry hold
      · exact ⟨record, hrecord, List.mem_singleton.1 hnew⟩

/-- **Every covered access keeps the invariant.** -/
theorem access (h : Delivered s) {action : TimelineAction}
    (haccess : s.Access action t) (hcovered : Covered s action) : Delivered t := by
  cases haccess with
  | outbox hstatement => exact h.of_outbox hstatement
  | flushing => exact h.of_flush pending_committed h.ledger_ok
  | @appended flusher outcome record records stored stage hstage hrecords =>
      have hflush : ∀ r ∈ record :: records, r ∈ s.outbox.store.committedRows :=
        hstage ▸ h.flush_ok flusher
      apply h.of_flush
      · rw [hrecords]
        exact hflush
      · exact h.append_stored (hflush record List.mem_cons_self)
  | @marked flusher now record records delivery hstage =>
      have hflush : ∀ r ∈ record :: records, r ∈ s.outbox.store.committedRows :=
        hstage ▸ h.flush_ok flusher
      apply h.of_flush _ h.ledger_ok
      intro r hr
      exact hflush r (List.mem_cons_of_mem _ hr)
  | stopped => exact h.of_flush (fun _ hrecord => by cases hrecord) h.ledger_ok
  | called =>
      apply h.of_call
      · intro call hcall row hrow
        cases hcall
        exact hrow
      · intro call ledger hstage
        cases hstage
      · intro call entries hstage
        cases hstage
  | @ledgerRead reader fails call hcalled =>
      have hrunning : (s.calls reader).running = some call := by rw [hcalled]; rfl
      apply h.of_call
      · intro call' hcall
        cases hcall
        exact h.owed_ok reader call hrunning
      · intro call' ledger hstage
        cases fails with
        | true => cases hstage
        | false =>
            cases hstage
            exact h.ledger_ok
      · intro call' entries hstage
        cases hstage
  | @returned reader call ledger hread =>
      apply h.of_call
      · intro call' hcall
        cases hcall
      · intro call' ledger' hstage
        cases hstage
      · intro call' entries hstage
        cases hstage
        exact (h.complete_iff hread).2 (hcovered call ledger hread)

theorem covered_of_complete (h : Delivered s) {action : TimelineAction}
    (haccess : s.Access action t) (hcomplete : t.Complete) : Covered s action := by
  cases haccess with
  | @returned reader call ledger hread =>
      intro call' ledger' hstage
      rw [hread] at hstage
      cases hstage
      apply (h.complete_iff hread).1
      exact hcomplete reader call _ (Function.update_self ..)
  | _ => trivial

end Delivered

/-- One event of run 1 is committed. -/
def oneEvent : List TimelineAction :=
  let event : RecordedEvent :=
    { eventId := 10, eventType := "analysis_run.created", analysisRunId := 1,
      organizationId := 2, status := .pending, occurredAt := 500 }
  [.outbox (.enqueue 0 ⟨7, 8, [event]⟩), .outbox (.readLatest 0), .outbox (.insertRows 0),
    .outbox (.commit 0)]

def oneFlush : List TimelineAction := [.flush 0 1, .append 0 .stored, .mark 0 600]

/-- The system without its readers. -/
def TimelineSystem.unread (s : TimelineSystem) : TimelineSystem :=
  { s with calls := fun _ => .idle }

/-- What is marked as dispatched has been stored. -/
structure Ledgered (s : TimelineSystem) : Prop where
  delivered : Delivered s.unread
  appended_ok : ∀ flusher record records, s.flushes flusher = .appended record records →
    auditEntry record ∈ s.ledger
  dispatched_ok : ∀ id, (s.delivery id).dispatchedAt ≠ none →
    ∃ entry ∈ s.ledger, entry.entryId = id

namespace Ledgered

variable {s t : TimelineSystem}

theorem empty : Ledgered .empty where
  delivered := Delivered.empty
  appended_ok flusher record records hstage := by cases hstage
  dispatched_ok id hdispatched := absurd rfl hdispatched

/-- A flush goes on: the ledger grows, and it has what is marked by now. -/
theorem of_flush (h : Ledgered s) {flusher : Nat} {stage : FlushStage}
    {stored : List AuditEntry} {delivery : UUID → Delivery} (hgrown : s.ledger ⊆ stored)
    (hrecords : ∀ record ∈ stage.records, record ∈ s.outbox.store.committedRows)
    (hstored : ∀ entry ∈ stored, ∃ row ∈ s.outbox.store.committedRows, entry = auditEntry row)
    (happended : ∀ record records, stage = .appended record records →
      auditEntry record ∈ stored)
    (hmarked : ∀ id, (delivery id).dispatchedAt ≠ none →
      (s.delivery id).dispatchedAt ≠ none ∨ ∃ entry ∈ stored, entry.entryId = id) :
    Ledgered { s with
      ledger := stored
      delivery := delivery
      flushes := Function.update s.flushes flusher stage } where
  delivered := h.delivered.of_flush hrecords hstored
  appended_ok other record records hstage := by
    dsimp only at hstage
    by_cases hother : other = flusher
    · subst hother
      rw [Function.update_self] at hstage
      exact happended record records hstage
    · rw [Function.update_of_ne hother] at hstage
      exact hgrown (h.appended_ok other record records hstage)
  dispatched_ok id hdispatched := by
    rcases hmarked id hdispatched with hbefore | hnow
    · obtain ⟨entry, hentry, hid⟩ := h.dispatched_ok id hbefore
      exact ⟨entry, hgrown hentry, hid⟩
    · exact hnow

theorem appends (h : Ledgered s) {flusher : Nat} {stage : FlushStage} {record : OutboxRow}
    {records : List OutboxRow} {stored : Bool}
    (hstage : s.flushes flusher = .delivering (record :: records))
    (hrecords : stage.records = record :: records)
    (hstored : ∀ r rs, stage = .appended r rs → r = record ∧ stored = true) :
    Ledgered ((s.append record stored).setFlush flusher stage) := by
  have hflush : ∀ r ∈ record :: records, r ∈ s.outbox.store.committedRows := by
    have hcommitted := h.delivered.flush_ok flusher
    rw [show s.unread.flushes flusher = _ from hstage] at hcommitted
    exact hcommitted
  refine h.of_flush ?_ (hrecords ▸ hflush)
    (h.delivered.append_stored (hflush record List.mem_cons_self)) ?_ fun id hold => .inl hold
  · intro entry hentry
    cases stored with
    | false => exact hentry
    | true => exact List.mem_append_left _ hentry
  · intro r rs happended
    obtain ⟨rfl, rfl⟩ := hstored r rs happended
    exact List.mem_append_right _ (List.mem_singleton_self _)

theorem marks (h : Ledgered s) {flusher : Nat} {record : OutboxRow} {records : List OutboxRow}
    {delivery : UUID → Delivery} (hstage : (s.flushes flusher).records = record :: records)
    (hmarked : ∀ id, (delivery id).dispatchedAt ≠ none →
      (s.delivery id).dispatchedAt ≠ none ∨ ∃ entry ∈ s.ledger, entry.entryId = id) :
    Ledgered ({ s with delivery := delivery }.setFlush flusher (.delivering records)) := by
  refine h.of_flush (fun _ hentry => hentry) (fun r hr => ?_) h.delivered.ledger_ok
    (fun _ _ hstage => by cases hstage) hmarked
  refine h.delivered.flush_ok flusher r ?_
  rw [show (s.unread.flushes flusher).records = _ from hstage]
  exact List.mem_cons_of_mem _ hr

theorem append (h : Ledgered s) {flusher : Nat} {outcome : AppendOutcome}
    (hstep : s.step (.append flusher outcome) = some t) : Ledgered t := by
  simp only [TimelineSystem.step] at hstep
  split at hstep
  next record records hstage =>
      split at hstep
      next =>
          cases hstep
          exact h.appends hstage rfl fun r rs happended => by cases happended; exact ⟨rfl, rfl⟩
      next =>
          cases hstep
          exact h.appends hstage rfl fun r rs happended => by cases happended
  next => cases hstep

theorem mark (h : Ledgered s) {flusher : Nat} {now : Int}
    (hstep : s.step (.mark flusher now) = some t) : Ledgered t := by
  simp only [TimelineSystem.step] at hstep
  split at hstep
  next record records hstage =>
      cases hstep
      refine h.marks (by rw [hstage]; rfl) fun id hdispatched => ?_
      by_cases hid : id = record.eventId
      · exact .inr ⟨auditEntry record, h.appended_ok flusher record records hstage, hid.symm⟩
      · rw [Function.update_of_ne hid] at hdispatched
        exact .inl hdispatched
  next record records hstage =>
      cases hstep
      refine h.marks (by rw [hstage]; rfl) fun id hdispatched => .inl ?_
      by_cases hid : id = record.eventId
      · subst hid
        rwa [Function.update_self] at hdispatched
      · rwa [Function.update_of_ne hid] at hdispatched
  next => cases hstep

/-- **Step lemma.** -/
theorem step (h : Ledgered s) {action : TimelineAction} (hstep : s.step action = some t) :
    Ledgered t := by
  cases TimelineSystem.access_of_step hstep with
  | outbox hstatement =>
      exact ⟨h.delivered.of_outbox hstatement, h.appended_ok, h.dispatched_ok⟩
  | flushing =>
      exact h.of_flush (fun _ hentry => hentry) Delivered.pending_committed
        h.delivered.ledger_ok (fun _ _ hstage => by cases hstage) fun id hold => .inl hold
  | appended _ _ => exact h.append hstep
  | marked _ => exact h.mark hstep
  | stopped =>
      exact h.of_flush (fun _ hentry => hentry) (fun _ hrecord => by cases hrecord)
        h.delivered.ledger_ok (fun _ _ hstage => by cases hstage) fun id hold => .inl hold
  | _ => exact ⟨h.delivered, h.appended_ok, h.dispatched_ok⟩  -- a reader goes on

end Ledgered

/-- **No event is lost or made up on its way to the ledger.**  Flushes may overlap, end early
and fail at any access: an event that is committed stays committed, and it is in the ledger
once it counts as dispatched; the ledger holds committed events only, as they were enqueued. -/
theorem events_reach_ledger {before after : List TimelineAction} {s t : TimelineSystem}
    (hrun : StepTrace.run TimelineSystem.step .empty before = some s)
    (hafter : StepTrace.run TimelineSystem.step s after = some t) :
    (∀ row ∈ s.outbox.store.committedRows, row ∈ t.outbox.store.committedRows ∧
      ((t.delivery row.eventId).dispatchedAt ≠ none → auditEntry row ∈ t.ledger)) ∧
    ∀ entry ∈ t.ledger, ∃ row ∈ t.outbox.store.committedRows, entry = auditEntry row := by
  have hinv : Ledgered s := (exec_of_run hrun).invariant Ledgered Ledgered.empty
    fun _ _ _ hinv hstep => hinv.step hstep
  have hkept := (exec_of_run hafter).invariant (fun t => Ledgered t ∧
      s.outbox.store.committedRows ⊆ t.outbox.store.committedRows) ⟨hinv, fun _ h => h⟩ ?_
  · obtain ⟨hledgered, hcommitted⟩ := hkept
    refine ⟨fun row hrow => ⟨hcommitted hrow, fun hdispatched => ?_⟩,
      hledgered.delivered.ledger_ok⟩
    obtain ⟨entry, hentry, hid⟩ := hledgered.dispatched_ok row.eventId hdispatched
    obtain ⟨other, hother, rfl⟩ := hledgered.delivered.ledger_ok entry hentry
    obtain rfl := hledgered.delivered.enqueued.row_unique hother (hcommitted hrow) hid
    exact hentry
  · intro t action u hnow hstep
    refine ⟨hnow.1.step hstep, fun row hrow => ?_⟩
    cases TimelineSystem.access_of_step hstep with
    | outbox hstatement => exact hstatement.committed_kept (hnow.2 hrow)
    | _ => exact hnow.2 hrow

theorem events_reach_ledger_flushed : ∃ s t row,
    StepTrace.run TimelineSystem.step .empty oneEvent = some s ∧
      StepTrace.run TimelineSystem.step s oneFlush = some t ∧
      row ∈ s.outbox.store.committedRows ∧ auditEntry row ∈ t.ledger := by
  refine ⟨_, _, _, rfl, rfl, List.mem_cons_self, ?_⟩
  exact ((@events_reach_ledger oneEvent oneFlush _ _ rfl rfl).1 _ List.mem_cons_self).2
    (Option.some_ne_none (600 : Int))

end Zentra
