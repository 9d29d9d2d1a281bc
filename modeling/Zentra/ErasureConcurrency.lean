import Zentra.ErasureCompleteness

/-!
# Concurrent deletions of the evidence of one run

Any number of sessions call `delete_evidence` for the same run.  A call is one
transaction under read committed: a statement sees what was committed before it,
and what its own transaction wrote.  A row that another transaction has written
and not committed cannot be written, and an insert that would conflict with it
waits; so does a lock on the row of the run that another transaction holds.

Every statement on the operation is a step of its own, in the order of the
source.  A statement that raises, or a connection that is lost, is an `abort`:
the transaction is rolled back, at any point.

* `Consistent` — the invariant: what is committed is completed, and its event
  was committed with it;
* `erasure_committed_once` — a completed operation never changes again, and one
  event was committed for it.
-/

open StepTrace Raising

namespace Zentra

/-- The arguments of a call: a fresh identifier, the category and the clock. -/
structure DeletionCall where
  erasureId : UUID
  category : DeletionCategory
  now : Int
  deriving DecidableEq

/-- How far a call of `delete_evidence` has got. -/
inductive DeletionStage
  /-- The run was read. -/
  | opened
  /-- `request` found the status to be terminal. -/
  | requesting
  /-- `request` found no operation. -/
  | absent
  /-- `request` has executed its insert. -/
  | inserted
  /-- `request` returned the operation. -/
  | requested (operation : ErasureOperation)
  /-- `erase` found the operation, not completed. -/
  | erasing (operation : ErasureOperation)
  /-- `erase` has locked the row of the run. -/
  | locked (operation : ErasureOperation)
  /-- `erase` has marked the operation as being erased. -/
  | marked (operation : ErasureOperation)
  /-- `erase` has erased the surfaces. -/
  | swept (operation : ErasureOperation)
  /-- `erase` has marked the operation as completed. -/
  | completed
  /-- `erase` returned the operation. -/
  | erased (operation : ErasureOperation)
  /-- All that is left is to commit, with an event or without. -/
  | settled (event : Option DomainEvent)

structure Deletion where
  call : DeletionCall
  run : AnalysisRun
  stage : DeletionStage

/-- What is committed about the run, and the open transactions.  `written` is
the version of the operation's row that a transaction has not committed yet. -/
structure ErasureSystem where
  key : RunKey
  runRow : RunRow
  operation : Option ErasureOperation
  outbox : List DomainEvent
  written : Option (UUID × ErasureOperation)
  runLock : Option UUID
  deletions : UUID → Option Deletion

inductive DeletionAction
  | begin (session : UUID) (role : Role) (call : DeletionCall)
  | advance (session : UUID)
  | abort (session : UUID)

namespace ErasureSystem

variable (s : ErasureSystem) (session : UUID)

/-- No operation has been requested for the run. -/
def start (key : RunKey) (runRow : RunRow) : ErasureSystem where
  key
  runRow
  operation := none
  outbox := []
  written := none
  runLock := none
  deletions := fun _ => none

/-- The version of the row that the session has written itself. -/
def own : Option ErasureOperation :=
  match s.written with
  | some (writer, operation) => if writer = session then some operation else none
  | none => none

/-- `_get`: what the session sees. -/
def visible : Option ErasureOperation := (s.own session).or s.operation

/-- Another transaction has written the row and is still open. -/
def Blocked : Prop := ∃ writer operation, s.written = some (writer, operation) ∧
  writer ≠ session

instance : Decidable (s.Blocked session) :=
  match h : s.written with
  | none => .isFalse (by
      rintro ⟨writer, operation, hwritten, -⟩
      rw [h] at hwritten
      cases hwritten)
  | some (writer, operation) =>
      if hw : writer = session then .isFalse (by
        rintro ⟨writer', operation', hwritten, hne⟩
        rw [h] at hwritten
        cases hwritten
        exact hne hw)
      else .isTrue ⟨writer, operation, h, hw⟩

def move (deletion : Deletion) (stage : DeletionStage) : ErasureSystem :=
  { s with
    deletions := Function.update s.deletions session (some { deletion with stage }) }

def write (operation : ErasureOperation) : ErasureSystem :=
  { s with written := some (session, operation) }

/-- The transaction ends; what it wrote and locked is released. -/
def close : ErasureSystem :=
  { s with
    written := if (s.own session).isSome then none else s.written
    runLock := if s.runLock = some session then none else s.runLock
    deletions := Function.update s.deletions session none }

/-- The event that is recorded on the run that was read. -/
def erasedEvent (deletion : Deletion) : Option DomainEvent :=
  ((AnalysisRun.recordEvidenceErased deletion.call.now
    deletion.call.category.value).after deletion.run).events.getLast?

/-- What a commit makes visible to everyone. -/
def commit (event : Option DomainEvent) : ErasureSystem :=
  ({ s with
    operation := (s.own session).or s.operation
    outbox := s.outbox ++ event.toList
    runRow :=
      if s.runLock = some session then evidenceSurfaces.foldl RunRow.eraseSurface s.runRow
      else s.runRow }).close session

/-- An update of the row of an operation, if it is still the row that was read.
A row that the check constraint refuses raises. -/
def updateRow (operation : ErasureOperation)
    (change : ErasureOperation → Option ErasureOperation) : Option ErasureSystem :=
  if s.Blocked session then none
  else
    match s.visible session with
    | none => some s
    | some row =>
        if row.erasureId = operation.erasureId then
          (change row).map fun changed => s.write session changed
        else some s

/-- **The next statement of a transaction.**  `none` if it waits, or raises. -/
def advance (deletion : Deletion) : Option ErasureSystem :=
  match deletion.stage with
  | .opened =>
      if s.runRow.status ∈ Database.terminalValues then
        some (s.move session deletion .requesting)
      else none
  | .requesting =>
      match s.visible session with
      | some existing => some (s.move session deletion (.requested existing))
      | none => some (s.move session deletion .absent)
  | .absent =>
      if s.Blocked session then none
      else
        match s.visible session with
        | some _ => some (s.move session deletion .inserted)
        | none =>
            let fresh := ErasureOperation.fresh deletion.call.erasureId s.key
              deletion.call.category deletion.call.now
            some ((s.write session fresh).move session deletion .inserted)
  | .inserted =>
      match s.visible session with
      | some existing => some (s.move session deletion (.requested existing))
      | none =>
          let fresh := ErasureOperation.fresh deletion.call.erasureId s.key
            deletion.call.category deletion.call.now
          some (s.move session deletion (.requested fresh))
  | .requested requested =>
      if requested.progress = .completed then
        some (s.move session deletion (.settled none))
      else
        match s.visible session with
        | none => none
        | some operation =>
            if operation.progress = .completed then
              some (s.move session deletion (.erased operation))
            else some (s.move session deletion (.erasing operation))
  | .erasing operation =>
      if s.runLock = none ∨ s.runLock = some session then
        some ({ s with runLock := some session }.move session deletion (.locked operation))
      else none
  | .locked operation =>
      (s.updateRow session operation ErasureOperation.startErasing).map fun s =>
        s.move session deletion (.marked operation)
  | .marked operation => some (s.move session deletion (.swept operation))
  | .swept operation =>
      (s.updateRow session operation fun row =>
        some (row.complete deletion.call.now)).map fun s =>
          s.move session deletion .completed
  | .completed =>
      match s.visible session with
      | none => none
      | some operation => some (s.move session deletion (.erased operation))
  | .erased operation =>
      if operation.progress ≠ .completed then none
      else some (s.move session deletion (.settled (erasedEvent deletion)))
  | .settled event => some (s.commit session event)

def step (s : ErasureSystem) : DeletionAction → Option ErasureSystem
  | .begin session role call =>
      match s.deletions session with
      | some _ => none
      | none =>
          if role ∉ [Role.owner, .admin] then none
          else
            match analysisRunFromRow s.runRow with
            | .error _ => none
            | .ok run =>
                some { s with
                  deletions :=
                    Function.update s.deletions session (some ⟨call, run, .opened⟩) }
  | .advance session =>
      match s.deletions session with
      | none => none
      | some deletion => s.advance session deletion
  | .abort session =>
      match s.deletions session with
      | none => none
      | some _ => some (s.close session)

end ErasureSystem

open ErasureSystem

/-- The row that a transaction has written is not completed. -/
def ErasureOperation.Open (operation : ErasureOperation) : Prop :=
  operation.progress ≠ .completed

/-- The type of the event of an erasure. -/
def evidenceErased : String := "analysis_run.evidence_erased"

/-- What a transaction has written when it is at a stage, next to what is
committed. -/
def ErasureSystem.StageOk (own committed : Option ErasureOperation) : DeletionStage → Prop
  | .opened | .requesting | .absent => own = none
  | .inserted =>
      (∃ row, own = some row ∧ row.Open) ∨ (own = none ∧ committed.isSome)
  | .requested operation =>
      (own = some operation ∧ operation.Open) ∨ (own = none ∧ ¬ operation.Open)
  | .erasing operation | .locked operation => own = some operation ∧ operation.Open
  | .marked operation | .swept operation =>
      ∃ row, own = some row ∧ row.erasureId = operation.erasureId
  | .completed => ∃ row, own = some row ∧ ¬ row.Open
  | .erased operation => own = some operation
  | .settled none => own = none
  | .settled (some event) =>
      (∃ row, own = some row ∧ ¬ row.Open) ∧ event.eventType = evidenceErased

/-- A stage does not depend on which operation is committed, once one is. -/
theorem ErasureSystem.StageOk.commit {own committed : Option ErasureOperation}
    {stage : DeletionStage} (h : StageOk own committed stage) (row : ErasureOperation) :
    StageOk own (some row) stage := by
  cases stage with
  | inserted =>
      rcases h with hown | ⟨hown, -⟩
      · exact .inl hown
      · exact .inr ⟨hown, rfl⟩
  | settled event =>
      cases event with
      | none => exact h
      | some event => exact h
  | _ => exact h

/-- What is committed: nothing, or a completed operation and its event. -/
structure ErasureSystem.Committed (operation : Option ErasureOperation)
    (outbox : List DomainEvent) : Prop where
  completed : ∀ row, operation = some row → ¬ row.Open
  unrecorded : operation = none → outbox = []
  recorded : operation.isSome → ∃ event, outbox = [event] ∧
    event.eventType = evidenceErased

structure ErasureSystem.Consistent (s : ErasureSystem) : Prop where
  committed : Committed s.operation s.outbox
  /-- A row is written only as long as none is committed. -/
  writer : ∀ session row, s.written = some (session, row) →
    s.operation = none ∧ (s.deletions session).isSome
  stage : ∀ session deletion, s.deletions session = some deletion →
    StageOk (s.own session) s.operation deletion.stage

theorem ErasureSystem.consistent_start (key : RunKey) (runRow : RunRow) :
    Consistent (ErasureSystem.start key runRow) where
  committed := {
    completed := by
      intro row hrow
      cases hrow
    unrecorded := fun _ => rfl
    recorded := by
      intro hsome
      cases hsome }
  writer := by
    intro session row hwritten
    cases hwritten
  stage := by
    intro session deletion hdeletion
    cases hdeletion

section Steps

variable {s : ErasureSystem} {session : UUID} {deletion : Deletion}
  {row operation : ErasureOperation} {stage : DeletionStage}

namespace ErasureSystem

theorem own_eq_some : s.own session = some row ↔ s.written = some (session, row) := by
  unfold own
  cases hwritten : s.written with
  | none => simp
  | some pair =>
      obtain ⟨writer, written⟩ := pair
      by_cases hw : writer = session
      · simp [hw]
      · simp [hw]

theorem not_blocked_of_own (hown : s.own session = some row) : ¬ s.Blocked session := by
  rintro ⟨writer, written, hwritten, hne⟩
  rw [own_eq_some.1 hown] at hwritten
  cases hwritten
  exact hne rfl

/-- If nobody else has written the row, the others have written nothing. -/
theorem own_of_not_blocked (hfree : ¬ s.Blocked session) {other : UUID}
    (hother : other ≠ session) : s.own other = none := by
  by_contra hsome
  obtain ⟨written, hwritten⟩ := Option.ne_none_iff_exists'.1 hsome
  exact hfree ⟨other, written, own_eq_some.1 hwritten, hother⟩

theorem visible_of_own (hown : s.own session = some row) :
    s.visible session = some row := by
  unfold visible
  rw [hown]
  rfl

theorem visible_of_own_none (hown : s.own session = none) :
    s.visible session = s.operation := by
  unfold visible
  rw [hown]
  rfl

@[simp] theorem own_move (other : UUID) :
    (s.move session deletion stage).own other = s.own other := rfl

theorem deletions_move_self :
    (s.move session deletion stage).deletions session = some { deletion with stage } :=
  Function.update_self _ _ _

theorem deletions_move {other : UUID} (hother : other ≠ session) :
    (s.move session deletion stage).deletions other = s.deletions other :=
  Function.update_of_ne hother _ _

theorem own_write_self : (s.write session row).own session = some row :=
  own_eq_some.2 rfl

theorem own_write (hfree : ¬ s.Blocked session) {other : UUID} (hother : other ≠ session) :
    (s.write session row).own other = s.own other := by
  rw [own_of_not_blocked hfree hother]
  exact if_neg hother.symm

theorem deletions_close {other : UUID} (hother : other ≠ session) :
    (s.close session).deletions other = s.deletions other :=
  Function.update_of_ne hother _ _

theorem deletions_close_self : (s.close session).deletions session = none :=
  Function.update_self _ _ _

theorem own_close {other : UUID} (hother : other ≠ session) :
    (s.close session).own other = s.own other := by
  cases hown : s.own session with
  | none =>
      have hwritten : (s.close session).written = s.written := by
        simp [close, hown]
      unfold own
      rw [hwritten]
  | some row =>
      have hwritten : (s.close session).written = none := by
        simp [close, hown]
      rw [own_of_not_blocked (not_blocked_of_own hown) hother]
      unfold own
      rw [hwritten]

theorem written_close {writer : UUID}
    (hwritten : (s.close session).written = some (writer, row)) :
    writer ≠ session ∧ s.written = some (writer, row) := by
  cases hown : s.own session with
  | none =>
      have hsame : (s.close session).written = s.written := by
        simp [close, hown]
      rw [hsame] at hwritten
      refine ⟨?_, hwritten⟩
      intro hself
      rw [hself] at hwritten
      rw [own_eq_some.2 hwritten] at hown
      cases hown
  | some row =>
      have hnone : (s.close session).written = none := by
        simp [close, hown]
      rw [hnone] at hwritten
      cases hwritten

end ErasureSystem

theorem ErasureSystem.Consistent.move (h : Consistent s)
    (hstage : StageOk (s.own session) s.operation stage) :
    Consistent (s.move session deletion stage) where
  committed := h.committed
  writer := by
    intro writer row hwritten
    obtain ⟨hnone, hopen⟩ := h.writer writer row hwritten
    refine ⟨hnone, ?_⟩
    by_cases hw : writer = session
    · rw [hw, deletions_move_self]
      rfl
    · rw [deletions_move hw]
      exact hopen
  stage := by
    intro other deletion' hdeletion
    by_cases hother : other = session
    · rw [hother, deletions_move_self] at hdeletion
      cases hdeletion
      rw [hother]
      exact hstage
    · rw [deletions_move hother] at hdeletion
      exact h.stage other deletion' hdeletion

theorem ErasureSystem.Consistent.write_move (h : Consistent s) (hfree : ¬ s.Blocked session)
    (hnone : s.operation = none) (hstage : StageOk (some row) s.operation stage) :
    Consistent ((s.write session row).move session deletion stage) where
  committed := h.committed
  writer := by
    intro writer row' hwritten
    cases hwritten
    refine ⟨hnone, ?_⟩
    rw [deletions_move_self]
    rfl
  stage := by
    intro other deletion' hdeletion
    by_cases hother : other = session
    · rw [hother, deletions_move_self] at hdeletion
      cases hdeletion
      rw [hother, own_move, own_write_self]
      exact hstage
    · rw [deletions_move hother] at hdeletion
      rw [own_move, own_write hfree hother]
      exact h.stage other deletion' hdeletion

theorem ErasureSystem.Consistent.close (h : Consistent s) :
    Consistent (s.close session) where
  committed := h.committed
  writer := by
    intro writer row hwritten
    obtain ⟨hw, hbefore⟩ := written_close hwritten
    obtain ⟨hnone, hopen⟩ := h.writer writer row hbefore
    refine ⟨hnone, ?_⟩
    rw [deletions_close hw]
    exact hopen
  stage := by
    intro other deletion hdeletion
    by_cases hother : other = session
    · rw [hother, deletions_close_self] at hdeletion
      cases hdeletion
    · rw [deletions_close hother] at hdeletion
      rw [own_close hother]
      exact h.stage other deletion hdeletion

theorem erasedEvent_eq (deletion : Deletion) : ∃ event,
    erasedEvent deletion = some event ∧ event.eventType = evidenceErased :=
  ⟨_, List.getLast?_concat, rfl⟩

theorem ErasureSystem.Consistent.lock (h : Consistent s) :
    Consistent { s with runLock := some session } where
  committed := h.committed
  writer := h.writer
  stage := h.stage

theorem ErasureSystem.Consistent.commit_nothing (h : Consistent s)
    (hown : s.own session = none) :
    Consistent (s.commit session none) := by
  have hoperation : (s.own session).or s.operation = s.operation := by
    rw [hown]
    rfl
  have houtbox : s.outbox ++ Option.toList none = s.outbox := List.append_nil _
  unfold ErasureSystem.commit
  rw [hoperation, houtbox]
  refine Consistent.close ?_
  exact { committed := h.committed, writer := h.writer, stage := h.stage }

/-- A transaction that has completed the operation commits it, with its
event. -/
theorem ErasureSystem.Consistent.commit_erasure (h : Consistent s)
    (hown : s.own session = some row)
    (hcompleted : ¬ row.Open) {event : DomainEvent}
    (hevent : event.eventType = evidenceErased) :
    Consistent (s.commit session (some event)) := by
  have hwritten := own_eq_some.1 hown
  have hnone : s.operation = none := (h.writer session row hwritten).1
  have houtbox : s.outbox = [] := h.committed.unrecorded hnone
  have hoperation : (s.commit session (some event)).operation = some row := by
    change (s.own session).or s.operation = some row
    rw [hown]
    rfl
  have hrecorded : (s.commit session (some event)).outbox = [event] := by
    change s.outbox ++ [event] = [event]
    rw [houtbox]
    rfl
  have hreleased : (s.commit session (some event)).written = none := by
    change (if (s.own session).isSome then none else s.written) = none
    rw [hown]
    rfl
  refine ⟨?_, ?_, ?_⟩
  · rw [hoperation, hrecorded]
    refine ⟨?_, ?_, fun _ => ⟨event, rfl, hevent⟩⟩
    · intro written hsome
      cases hsome
      exact hcompleted
    · intro hsome
      cases hsome
  · intro writer written hsome
    rw [hreleased] at hsome
    cases hsome
  · intro other deletion hdeletion
    by_cases hother : other = session
    · have hclosed : (s.commit session (some event)).deletions session = none :=
        deletions_close_self
      rw [hother, hclosed] at hdeletion
      cases hdeletion
    · have hkept : (s.commit session (some event)).deletions other = s.deletions other :=
        deletions_close hother
      have hnothing : (s.commit session (some event)).own other = none := by
        unfold own
        rw [hreleased]
      have hbefore := h.stage other deletion (hkept ▸ hdeletion)
      rw [own_of_not_blocked (not_blocked_of_own hown) hother] at hbefore
      rw [hnothing, hoperation]
      exact hbefore.commit row

/-- What the next statement of a transaction can do. -/
inductive ErasureSystem.Advanced (s : ErasureSystem) (session : UUID)
    (deletion : Deletion) : ErasureSystem → Prop
  | moved {stage : DeletionStage} : StageOk (s.own session) s.operation stage →
      Advanced s session deletion (s.move session deletion stage)
  | locked {stage : DeletionStage} : StageOk (s.own session) s.operation stage →
      Advanced s session deletion
        ({ s with runLock := some session }.move session deletion stage)
  | wrote {row : ErasureOperation} {stage : DeletionStage} : ¬ s.Blocked session →
      s.operation = none → StageOk (some row) s.operation stage →
      Advanced s session deletion ((s.write session row).move session deletion stage)
  | left : s.own session = none →
      Advanced s session deletion (s.commit session none)
  | recorded {row : ErasureOperation} {event : DomainEvent} :
      s.own session = some row → ¬ row.Open → event.eventType = evidenceErased →
      Advanced s session deletion (s.commit session (some event))

theorem ErasureSystem.Advanced.consistent {t : ErasureSystem} (h : Consistent s)
    (hadvanced : Advanced s session deletion t) : Consistent t := by
  cases hadvanced with
  | moved hstage => exact h.move hstage
  | locked hstage => exact h.lock.move hstage
  | wrote hfree hnone hstage => exact h.write_move hfree hnone hstage
  | left hown => exact h.commit_nothing hown
  | recorded hown hcompleted hevent => exact h.commit_erasure hown hcompleted hevent

theorem ErasureSystem.Advanced.keeps_operation {t : ErasureSystem} (h : Consistent s)
    (hadvanced : Advanced s session deletion t) (hsome : s.operation = some operation) :
    t.operation = some operation := by
  cases hadvanced with
  | moved _ => exact hsome
  | locked _ => exact hsome
  | wrote _ hnone _ =>
      rw [hnone] at hsome
      cases hsome
  | left hown =>
      change (s.own session).or s.operation = some operation
      rw [hown, hsome]
      rfl
  | recorded hown _ _ =>
      have hnone := (h.writer session _ (own_eq_some.1 hown)).1
      rw [hnone] at hsome
      cases hsome

theorem startErasing_erasureId {started : ErasureOperation}
    (hstarted : operation.startErasing = some started) :
    started.erasureId = operation.erasureId := by
  unfold ErasureOperation.startErasing at hstarted
  split at hstarted
  · cases hstarted
    rfl
  · cases hstarted

/-- An update of the row that the transaction has written itself. -/
theorem updateRow_own {change : ErasureOperation → Option ErasureOperation}
    (hown : s.own session = some row) (hid : row.erasureId = operation.erasureId) :
    s.updateRow session operation change = (change row).map (s.write session) := by
  unfold updateRow
  rw [if_neg (not_blocked_of_own hown), visible_of_own hown]
  exact if_pos hid

/-- **What an enabled statement does.**  The cases follow the order of the
statements; what the transaction has written at its stage decides what it
sees. -/
theorem advance_cases {t : ErasureSystem} (h : Consistent s)
    (hdeletion : s.deletions session = some deletion)
    (hadvance : s.advance session deletion = some t) :
    Advanced s session deletion t := by
  have hstage := h.stage session deletion hdeletion
  unfold ErasureSystem.advance at hadvance
  cases hat : deletion.stage with
  | opened =>
      rw [hat] at hstage hadvance
      dsimp only at hadvance
      split at hadvance
      · cases hadvance
        exact .moved hstage
      · cases hadvance
  | requesting =>
      rw [hat] at hstage hadvance
      dsimp only at hadvance
      rw [visible_of_own_none hstage] at hadvance
      cases hoperation : s.operation with
      | none =>
          rw [hoperation] at hadvance
          cases hadvance
          exact .moved hstage
      | some existing =>
          rw [hoperation] at hadvance
          cases hadvance
          exact .moved (.inr ⟨hstage, h.committed.completed existing hoperation⟩)
  | absent =>
      rw [hat] at hstage hadvance
      dsimp only at hadvance
      split at hadvance
      · cases hadvance
      · rename_i hfree
        rw [visible_of_own_none hstage] at hadvance
        cases hoperation : s.operation with
        | none =>
            rw [hoperation] at hadvance
            cases hadvance
            refine .wrote hfree hoperation (.inl ⟨_, rfl, ?_⟩)
            intro hcompleted
            cases hcompleted
        | some existing =>
            rw [hoperation] at hadvance
            cases hadvance
            refine .moved (.inr ⟨hstage, ?_⟩)
            rw [hoperation]
            rfl
  | inserted =>
      rw [hat] at hstage hadvance
      dsimp only at hadvance
      rcases hstage with ⟨row, hown, hopen⟩ | ⟨hown, hcommitted⟩
      · rw [visible_of_own hown] at hadvance
        cases hadvance
        exact .moved (.inl ⟨hown, hopen⟩)
      · obtain ⟨existing, hoperation⟩ := Option.isSome_iff_exists.1 hcommitted
        rw [visible_of_own_none hown, hoperation] at hadvance
        cases hadvance
        exact .moved (.inr ⟨hown, h.committed.completed existing hoperation⟩)
  | requested requested =>
      rw [hat] at hstage hadvance
      dsimp only at hadvance
      rcases hstage with ⟨hown, hopen⟩ | ⟨hown, hcompleted⟩
      · rw [if_neg hopen, visible_of_own hown] at hadvance
        dsimp only at hadvance
        rw [if_neg hopen] at hadvance
        cases hadvance
        exact .moved ⟨hown, hopen⟩
      · rw [if_pos (not_not.1 hcompleted)] at hadvance
        cases hadvance
        exact .moved hown
  | erasing operation =>
      rw [hat] at hstage hadvance
      dsimp only at hadvance
      split at hadvance
      · cases hadvance
        exact .locked hstage
      · cases hadvance
  | locked operation =>
      rw [hat] at hstage hadvance
      dsimp only at hadvance
      rw [updateRow_own hstage.1 rfl] at hadvance
      obtain ⟨started, hstarted, rfl⟩ : ∃ started,
          operation.startErasing = some started ∧
            (s.write session started).move session deletion (.marked operation) = t := by
        simpa using hadvance
      have hnone := (h.writer session operation (own_eq_some.1 hstage.1)).1
      exact .wrote (not_blocked_of_own hstage.1) hnone
        ⟨started, rfl, startErasing_erasureId hstarted⟩
  | marked operation =>
      rw [hat] at hstage hadvance
      cases hadvance
      exact .moved hstage
  | swept operation =>
      rw [hat] at hstage hadvance
      dsimp only at hadvance
      obtain ⟨row, hown, hid⟩ := hstage
      rw [updateRow_own hown hid] at hadvance
      cases hadvance
      have hnone := (h.writer session row (own_eq_some.1 hown)).1
      exact .wrote (not_blocked_of_own hown) hnone ⟨_, rfl, not_not.2 rfl⟩
  | completed =>
      rw [hat] at hstage hadvance
      dsimp only at hadvance
      obtain ⟨row, hown, -⟩ := hstage
      rw [visible_of_own hown] at hadvance
      cases hadvance
      exact .moved hown
  | erased operation =>
      rw [hat] at hstage hadvance
      dsimp only at hadvance
      split at hadvance
      · cases hadvance
      · rename_i hcompleted
        cases hadvance
        obtain ⟨event, hevent, htype⟩ := erasedEvent_eq deletion
        rw [hevent]
        exact .moved ⟨⟨operation, hstage, hcompleted⟩, htype⟩
  | settled event =>
      rw [hat] at hstage hadvance
      cases hadvance
      cases event with
      | none => exact .left hstage
      | some event =>
          obtain ⟨⟨row, hown, hcompleted⟩, htype⟩ := hstage
          exact .recorded hown hcompleted htype

theorem ErasureSystem.Consistent.opened (h : Consistent s)
    (hnone : s.deletions session = none)
    (call : DeletionCall) (run : AnalysisRun) :
    Consistent { s with
      deletions := Function.update s.deletions session (some ⟨call, run, .opened⟩) } where
  committed := h.committed
  writer := by
    intro writer row hwritten
    obtain ⟨hoperation, hopen⟩ := h.writer writer row hwritten
    refine ⟨hoperation, ?_⟩
    have hw : writer ≠ session := by
      intro hself
      rw [hself, hnone] at hopen
      cases hopen
    dsimp only
    rw [Function.update_of_ne hw]
    exact hopen
  stage := by
    intro other deletion hdeletion
    dsimp only at hdeletion
    by_cases hother : other = session
    · rw [hother, Function.update_self] at hdeletion
      cases hdeletion
      -- A transaction that has only begun has written nothing.
      by_contra hsome
      obtain ⟨row, hown⟩ := Option.ne_none_iff_exists'.1 hsome
      have hopen := (h.writer other row (own_eq_some.1 hown)).2
      rw [hother, hnone] at hopen
      cases hopen
    · rw [Function.update_of_ne hother] at hdeletion
      exact h.stage other deletion hdeletion

theorem ErasureSystem.consistent_step {t : ErasureSystem} {action : DeletionAction}
    (h : Consistent s) (hstep : ErasureSystem.step s action = some t) :
    Consistent t ∧ ∀ operation, s.operation = some operation →
      t.operation = some operation := by
  cases action with
  | begin session role call =>
      unfold ErasureSystem.step at hstep
      cases hnone : s.deletions session with
      | some deletion =>
          simp only [hnone] at hstep
          cases hstep
      | none =>
          simp only [hnone] at hstep
          split at hstep
          · cases hstep
          · split at hstep
            · cases hstep
            · cases hstep
              exact ⟨h.opened hnone call _, fun operation hsome => hsome⟩
  | advance session =>
      unfold ErasureSystem.step at hstep
      cases hdeletion : s.deletions session with
      | none =>
          simp only [hdeletion] at hstep
          cases hstep
      | some deletion =>
          simp only [hdeletion] at hstep
          have hadvanced := advance_cases h hdeletion hstep
          exact ⟨hadvanced.consistent h, fun operation => hadvanced.keeps_operation h⟩
  | abort session =>
      unfold ErasureSystem.step at hstep
      cases hdeletion : s.deletions session with
      | none =>
          simp only [hdeletion] at hstep
          cases hstep
      | some deletion =>
          simp only [hdeletion] at hstep
          cases hstep
          exact ⟨h.close, fun operation hsome => hsome⟩

theorem ErasureSystem.Consistent.exec {t : ErasureSystem} {actions : List DeletionAction}
    (h : Consistent s) (hexec : Exec ErasureSystem.step s actions t) :
    Consistent t ∧ ∀ operation, s.operation = some operation →
      t.operation = some operation := by
  induction hexec with
  | nil => exact ⟨h, fun operation hsome => hsome⟩
  | snoc hbefore hlast ih =>
      obtain ⟨hinv, hkept⟩ := ih
      obtain ⟨hinv', hkept'⟩ := consistent_step hinv hlast
      exact ⟨hinv', fun operation hsome => hkept' operation (hkept operation hsome)⟩

end Steps

def ErasureSystem.erasedEvents (s : ErasureSystem) : List DomainEvent :=
  s.outbox.filter fun event => event.eventType = evidenceErased

theorem ErasureSystem.Committed.erasedEvents_length {s : ErasureSystem}
    (h : Committed s.operation s.outbox) :
    s.erasedEvents.length = if s.operation.isSome then 1 else 0 := by
  unfold erasedEvents
  cases hoperation : s.operation with
  | none =>
      have hnone : s.outbox = [] := h.unrecorded hoperation
      rw [hnone]
      rfl
  | some operation =>
      have hsome : s.operation.isSome := by
        rw [hoperation]
        rfl
      obtain ⟨event, houtbox, htype⟩ := h.recorded hsome
      have hkept : [event].filter (fun event => event.eventType = evidenceErased) =
          [event] := by simp [htype]
      rw [houtbox, hkept]
      rfl

/-- **A completed erasure is committed once.**  However the statements of any
number of concurrent deletions of the evidence of a run are interleaved, and
wherever any of them is rolled back:

1. an operation that is committed is completed, with its time, and no later step
   changes it in any way;
2. one event of the erasure is committed with it, and none without it. -/
theorem erasure_committed_once {key : RunKey} {runRow : RunRow}
    {actions : List DeletionAction} {s : ErasureSystem}
    (h : Exec ErasureSystem.step (.start key runRow) actions s) :
    (∀ operation, s.operation = some operation →
      operation.progress = .completed ∧ operation.completedAt.isSome ∧
        ∀ later t, Exec ErasureSystem.step s later t → t.operation = some operation) ∧
    s.erasedEvents.length = if s.operation.isSome then 1 else 0 := by
  have hinv : Consistent s := ((consistent_start key runRow).exec h).1
  constructor
  · intro operation hoperation
    have hcompleted : operation.progress = .completed :=
      not_not.1 (hinv.committed.completed operation hoperation)
    refine ⟨hcompleted, operation.completion_recorded.1 hcompleted, ?_⟩
    intro later t hlater
    exact (hinv.exec hlater).2 operation hoperation
  · exact hinv.committed.erasedEvents_length

/-- Two deletions that both find no operation: the first inserts its own and
completes it, and the insert of the second waits for that. -/
def race : List DeletionAction :=
  [.begin 0 .owner ⟨20, .organizationRequest, 5⟩,
    .begin 1 .admin ⟨21, .organizationRequest, 6⟩,
    .advance 0, .advance 1, .advance 0, .advance 1] ++
  List.replicate 10 (.advance 0) ++ List.replicate 4 (.advance 1)

theorem erasure_committed_once_race :
    ∃ s, StepTrace.run ErasureSystem.step
        (.start cancelledRun.key (.ofRun cancelledRun)) race = some s ∧
      s.deletions 0 = none ∧ s.deletions 1 = none ∧
      s.operation.map ErasureOperation.completedAt = some (some 5) ∧
      s.erasedEvents.length = 1 := by
  have hrun : StepTrace.run ErasureSystem.step
      (.start cancelledRun.key (.ofRun cancelledRun)) race = some _ := rfl
  refine ⟨_, hrun, rfl, rfl, rfl, ?_⟩
  exact (erasure_committed_once (exec_of_run hrun)).2

end Zentra
