import Mathlib.Data.Finset.Erase
import Mathlib.Data.Finset.Insert
import Zentra.ExecutionJob
import Zentra.PointerWalk
import Zentra.StepTrace

/-!
# Sequences of transform steps

A Sequence is a graph of transform steps from one raw table to its final tables.  A step
and the prepared table it produced are appended together.

* `Sequence.Linked` — the references inside a Sequence, kept by every operation;
* `Sequence.consistent_iff_freshIds` — the ids stay distinct exactly along the runs
  that append under new ids.
-/

open Raising Raising.Method StepTrace

namespace Zentra

inductive SequenceTableKind
  | raw | prepared
  deriving DecidableEq, Repr

/-- A locator for a table that a step reads or produces. -/
structure SequenceTableReference where
  organizationId : UUID
  referenceId : UUID
  kind : SequenceTableKind
  deriving DecidableEq, Repr

/-- The type of an operation.  Its parameters are not read. -/
inductive SequenceOperation
  | dropNulls | castType | dedupe | filterRows | renameColumn | unlisted
  deriving DecidableEq, Repr

/-- `_CATALOG_OPERATION_TYPES`. -/
def catalogOperationTypes : List SequenceOperation :=
  [.dropNulls, .castType, .dedupe, .filterRows, .renameColumn]

inductive RawTableReference
  | connectorSourceTable (catalogVersionId sourceTableName : String)
  | datasetTableVersion (storageLocator fileFormat : String)
  deriving DecidableEq, Repr

structure PreparedTable where
  preparedTableId : UUID
  organizationId : UUID
  sequenceId : UUID
  stepId : UUID
  parentTableReference : Option SequenceTableReference
  rowCount : Int
  columns : List String
  createdAt : Int
  deriving DecidableEq, Repr

/-- One node of a Sequence.  Without an input reference it reads the raw table. -/
structure SequenceStep where
  stepId : UUID
  sequenceId : UUID
  organizationId : UUID
  operation : SequenceOperation
  inputReference : Option SequenceTableReference
  producedTableId : UUID
  createdAt : Int
  deriving DecidableEq, Repr

inductive SequenceExecutionFailureReason
  | catalogViolation | dataIncompatible | unknownTable | executionError
  deriving DecidableEq, Repr

inductive SequenceRunOutcome
  | succeeded (producedTableId : UUID)
  | failed (reason : SequenceExecutionFailureReason) (detail : String)
  deriving DecidableEq, Repr

/-- One attempted execution of a step. -/
structure SequenceRun where
  runId : UUID
  sequenceId : UUID
  organizationId : UUID
  stepId : UUID
  outcome : SequenceRunOutcome
  attemptedAt : Int
  deriving DecidableEq, Repr

structure SequenceTransitionError where
  message : String
  deriving DecidableEq, Repr

structure Sequence where
  sequenceId : UUID
  organizationId : UUID
  datasetWorkspaceId : UUID
  rawTableReference : RawTableReference
  createdAt : Int
  updatedAt : Int
  threadId : Option UUID := none
  steps : List SequenceStep := []
  preparedTables : List PreparedTable := []
  runs : List SequenceRun := []
  finalTableIds : Finset UUID := ∅
  deriving DecidableEq

namespace Sequence

def create (sequenceId organizationId datasetWorkspaceId : UUID)
    (rawTableReference : RawTableReference) (now : Int) (threadId : Option UUID := none) :
    Sequence where
  sequenceId := sequenceId
  organizationId := organizationId
  datasetWorkspaceId := datasetWorkspaceId
  rawTableReference := rawTableReference
  createdAt := now
  updatedAt := now
  threadId := threadId

def preparedTableIds (s : Sequence) : List UUID :=
  s.preparedTables.map (·.preparedTableId)

def stepIds (s : Sequence) : List UUID := s.steps.map (·.stepId)

def recordRun (run : SequenceRun) : Method Sequence SequenceTransitionError Unit := do
  raiseIf (fun self => run.sequenceId ≠ self.sequenceId ∨
      run.organizationId ≠ self.organizationId)
    fun _ => ⟨"Sequence Run does not belong to this Sequence"⟩
  assign fun self =>
    { self with runs := self.runs ++ [run], updatedAt := run.attemptedAt }

/-- What `append_step` assigns. -/
def appended (step : SequenceStep) (table : PreparedTable) (s : Sequence) : Sequence :=
  { s with
    steps := s.steps ++ [step]
    preparedTables := s.preparedTables ++ [table]
    updatedAt := table.createdAt }

def appendStep (step : SequenceStep) (table : PreparedTable) :
    Method Sequence SequenceTransitionError Unit := do
  raiseIf (fun self => step.sequenceId ≠ self.sequenceId ∨
      table.sequenceId ≠ self.sequenceId)
    fun _ => ⟨"Sequence Step or Prepared Table does not belong to this Sequence"⟩
  raiseIf (fun self => step.organizationId ≠ self.organizationId ∨
      table.organizationId ≠ self.organizationId)
    fun _ => ⟨"Sequence Step or Prepared Table does not belong to this Organization"⟩
  raiseIf (fun _ => step.producedTableId ≠ table.preparedTableId)
    fun _ => ⟨"Sequence Step's produced table does not match the given Prepared Table"⟩
  raiseIf (fun _ => step.operation ∉ catalogOperationTypes)
    fun _ => ⟨"Sequence Step operation is not a member of the typed operation catalog"⟩
  raiseIf (fun _ => ∃ reference ∈ step.inputReference, reference.kind ≠ .prepared)
    fun _ => ⟨"A Sequence Step's input reference must be either absent " ++
      "(reading the Raw Table) or a prior Prepared Table"⟩
  raiseIf (fun self => ∃ reference ∈ step.inputReference,
      reference.referenceId ∉ self.preparedTableIds)
    fun _ => ⟨"Sequence Step's input table is not part of this Sequence"⟩
  assign (appended step table)

def markFinal (preparedTableId : UUID) : Method Sequence SequenceTransitionError Unit := do
  raiseIf (fun self => preparedTableId ∉ self.preparedTableIds)
    fun _ => ⟨toString preparedTableId ++ " is not a Prepared Table in this Sequence"⟩
  assign fun self =>
    { self with finalTableIds := insert preparedTableId self.finalTableIds }

def unmarkFinal (preparedTableId : UUID) : Method Sequence SequenceTransitionError Unit := do
  raiseIf (fun self => preparedTableId ∉ self.finalTableIds)
    fun _ => ⟨toString preparedTableId ++ " is not marked as a Final Table"⟩
  assign fun self =>
    { self with finalTableIds := self.finalTableIds.erase preparedTableId }

/-- What `append_step` checks of a step and its table. -/
structure Admits (s : Sequence) (step : SequenceStep) (table : PreparedTable) : Prop where
  sequence : step.sequenceId = s.sequenceId ∧ table.sequenceId = s.sequenceId
  organization : step.organizationId = s.organizationId ∧
    table.organizationId = s.organizationId
  produced : step.producedTableId = table.preparedTableId
  operation : step.operation ∈ catalogOperationTypes
  kind : ∀ reference ∈ step.inputReference, reference.kind = .prepared
  input : ∀ reference ∈ step.inputReference, reference.referenceId ∈ s.preparedTableIds

theorem appendStep_returns {step : SequenceStep} {table : PreparedTable}
    {s after : Sequence} :
    (appendStep step table).call s = (.ok (), after) ↔
      s.Admits step table ∧ after = s.appended step table := by
  unfold appendStep
  rw [raiseIf_bind_returns, raiseIf_bind_returns, raiseIf_bind_returns,
    raiseIf_bind_returns, raiseIf_bind_returns, raiseIf_bind_returns, assign_returns]
  constructor
  · intro h
    obtain ⟨hsequence, horganization, hproduced, hoperation, hkind, hinput, hafter⟩ := h
    refine ⟨⟨?_, ?_, not_not.1 hproduced, not_not.1 hoperation, ?_, ?_⟩, hafter⟩
    · exact ⟨not_not.1 (not_or.1 hsequence).1, not_not.1 (not_or.1 hsequence).2⟩
    · exact ⟨not_not.1 (not_or.1 horganization).1, not_not.1 (not_or.1 horganization).2⟩
    · intro reference hreference
      by_contra hother
      exact hkind ⟨reference, hreference, hother⟩
    · intro reference hreference
      by_contra hother
      exact hinput ⟨reference, hreference, hother⟩
  · intro h
    obtain ⟨hadmits, hafter⟩ := h
    refine ⟨?_, ?_, not_not.2 hadmits.produced, not_not.2 hadmits.operation, ?_, ?_, hafter⟩
    · exact not_or.2 ⟨not_not.2 hadmits.sequence.1, not_not.2 hadmits.sequence.2⟩
    · exact not_or.2 ⟨not_not.2 hadmits.organization.1, not_not.2 hadmits.organization.2⟩
    · intro hother
      obtain ⟨reference, hreference, hkind⟩ := hother
      exact hkind (hadmits.kind reference hreference)
    · intro hother
      obtain ⟨reference, hreference, hinput⟩ := hother
      exact hinput (hadmits.input reference hreference)

end Sequence

inductive SequenceCall
  | recordRun (run : SequenceRun)
  | appendStep (step : SequenceStep) (table : PreparedTable)
  | markFinal (preparedTableId : UUID)
  | unmarkFinal (preparedTableId : UUID)
  deriving DecidableEq, Repr

namespace SequenceCall

def method : SequenceCall → Method Sequence SequenceTransitionError Unit
  | recordRun run => Sequence.recordRun run
  | appendStep step table => Sequence.appendStep step table
  | markFinal preparedTableId => Sequence.markFinal preparedTableId
  | unmarkFinal preparedTableId => Sequence.unmarkFinal preparedTableId

/-- **An operation that raises** leaves the Sequence as it was: every operation checks
first and assigns last. -/
theorem atomic (call : SequenceCall) : Atomic call.method := by
  cases call with
  | recordRun run => exact (total_assign _).atomic.raiseIf_bind
  | appendStep step table =>
      have hassign : Atomic (assign (ε := SequenceTransitionError)
          (Sequence.appended step table)) := (total_assign _).atomic
      exact hassign.raiseIf_bind.raiseIf_bind.raiseIf_bind.raiseIf_bind.raiseIf_bind
        |>.raiseIf_bind
  | markFinal preparedTableId => exact (total_assign _).atomic.raiseIf_bind
  | unmarkFinal preparedTableId => exact (total_assign _).atomic.raiseIf_bind

open Sequence in
/-- **What a call that returns does**: it appends a step and its table, or it leaves both
lists and adds to the final tables prepared ones only. -/
theorem returns_cases {call : SequenceCall} {s t : Sequence}
    (h : call.method.call s = (.ok (), t)) :
    (∃ step table, call = .appendStep step table ∧ s.Admits step table ∧
        t = s.appended step table) ∨
      ((∀ step table, call ≠ .appendStep step table) ∧ t.steps = s.steps ∧
        t.preparedTables = s.preparedTables ∧
        ∀ id ∈ t.finalTableIds, id ∈ s.finalTableIds ∨ id ∈ s.preparedTableIds) := by
  cases call with
  | recordRun run =>
      replace h : (raiseIf _ _ >>= _).call s = _ := h
      rw [raiseIf_bind_returns, assign_returns] at h
      obtain ⟨-, rfl⟩ := h
      exact .inr ⟨by simp, rfl, rfl, fun id hid => .inl hid⟩
  | appendStep step table =>
      obtain ⟨hadmits, hafter⟩ := appendStep_returns.1 h
      exact .inl ⟨step, table, rfl, hadmits, hafter⟩
  | markFinal preparedTableId =>
      replace h : (raiseIf _ _ >>= _).call s = _ := h
      rw [raiseIf_bind_returns, assign_returns, not_not] at h
      obtain ⟨hmem, rfl⟩ := h
      refine .inr ⟨by simp, rfl, rfl, fun id hid => ?_⟩
      rcases Finset.mem_insert.1 hid with rfl | hid
      · exact .inr hmem
      · exact .inl hid
  | unmarkFinal preparedTableId =>
      replace h : (raiseIf _ _ >>= _).call s = _ := h
      rw [raiseIf_bind_returns, assign_returns] at h
      obtain ⟨-, rfl⟩ := h
      exact .inr ⟨by simp, rfl, rfl, fun id hid => .inl (Finset.mem_of_mem_erase hid)⟩

end SequenceCall

namespace Sequence

/-- The final tables are prepared tables, every step goes with the table it produced,
and it reads the raw table or the output of an earlier step. -/
structure Linked (s : Sequence) : Prop where
  finals : ∀ id ∈ s.finalTableIds, id ∈ s.preparedTableIds
  outputs : s.steps.map (·.producedTableId) = s.preparedTableIds
  inputs : ∀ before step after, s.steps = before ++ step :: after →
    ∀ reference ∈ step.inputReference, reference.kind = .prepared ∧
      reference.referenceId ∈ before.map (·.producedTableId)

theorem linked_create (sequenceId organizationId datasetWorkspaceId : UUID)
    (raw : RawTableReference) (now : Int) (threadId : Option UUID) :
    (create sequenceId organizationId datasetWorkspaceId raw now threadId).Linked where
  finals := by simp [create]
  outputs := rfl
  inputs := by simp [create]

theorem Linked.appended {s : Sequence} {step : SequenceStep} {table : PreparedTable}
    (h : s.Linked) (hadmits : s.Admits step table) : (s.appended step table).Linked where
  finals := by
    intro id hid
    have hold := h.finals id hid
    simp only [preparedTableIds, Sequence.appended, List.map_append]
    exact List.mem_append_left _ hold
  outputs := by
    have hlast := hadmits.produced
    have hold := h.outputs
    simp only [preparedTableIds, Sequence.appended, List.map_append] at hold ⊢
    rw [hold, List.map_singleton, List.map_singleton, hlast]
  inputs := by
    intro before other after hsteps reference hreference
    replace hsteps : s.steps ++ [step] = before ++ other :: after := hsteps
    rcases List.eq_nil_or_concat after with rfl | ⟨after, last, rfl⟩
    · obtain ⟨rfl, hlast⟩ := List.append_inj' hsteps rfl
      obtain rfl := List.cons.inj hlast |>.1
      refine ⟨hadmits.kind reference hreference, ?_⟩
      rw [h.outputs]
      exact hadmits.input reference hreference
    · have hsplit : s.steps ++ [step] = (before ++ other :: after) ++ [last] := by
        simpa [List.append_assoc] using hsteps
      have hbefore := (List.append_inj' hsplit rfl).1
      exact h.inputs before other after hbefore reference hreference

/-- **Every operation keeps the references.** -/
theorem Linked.returns {s t : Sequence} {call : SequenceCall} (h : s.Linked)
    (hcall : call.method.call s = (.ok (), t)) : t.Linked := by
  rcases SequenceCall.returns_cases hcall with
    ⟨step, table, -, hadmits, rfl⟩ | ⟨-, hsteps, htables, hfinals⟩
  · exact h.appended hadmits
  · have hids : t.preparedTableIds = s.preparedTableIds := by
      unfold preparedTableIds
      rw [htables]
    refine ⟨fun id hid => ?_, ?_, ?_⟩
    · rw [hids]
      rcases hfinals id hid with hold | hnew
      · exact h.finals id hold
      · exact hnew
    · rw [hsteps, hids]
      exact h.outputs
    · rw [hsteps]
      exact h.inputs

/-- The references hold, and no two steps or tables have the same id. -/
structure Consistent (s : Sequence) : Prop where
  linked : s.Linked
  stepIds : s.stepIds.Nodup
  tableIds : s.preparedTableIds.Nodup

/-- The call does not append a step or a table under an id that is taken. -/
def FreshIds (s : Sequence) : SequenceCall → Prop
  | .appendStep step table => s.Admits step table →
      step.stepId ∉ s.stepIds ∧ table.preparedTableId ∉ s.preparedTableIds
  | _ => True

theorem consistent_create (sequenceId organizationId datasetWorkspaceId : UUID)
    (raw : RawTableReference) (now : Int) (threadId : Option UUID) :
    (create sequenceId organizationId datasetWorkspaceId raw now threadId).Consistent where
  linked := linked_create ..
  stepIds := List.nodup_nil
  tableIds := List.nodup_nil

/-- One more id is distinct from the others exactly if it is not among them. -/
theorem nodup_append_singleton {ids : List UUID} {id : UUID} (h : ids.Nodup) :
    (ids ++ [id]).Nodup ↔ id ∉ ids := by
  rw [← List.concat_eq_append, List.nodup_concat]
  exact and_iff_left h

theorem stepIds_appended (s : Sequence) (step : SequenceStep) (table : PreparedTable) :
    (s.appended step table).stepIds = s.stepIds ++ [step.stepId] := by
  simp [stepIds, appended]

theorem preparedTableIds_appended (s : Sequence) (step : SequenceStep)
    (table : PreparedTable) :
    (s.appended step table).preparedTableIds =
      s.preparedTableIds ++ [table.preparedTableId] := by
  simp [preparedTableIds, appended]

theorem Consistent.returns {s t : Sequence} {call : SequenceCall} (h : s.Consistent)
    (hfresh : s.FreshIds call) (hcall : call.method.call s = (.ok (), t)) :
    t.Consistent := by
  have hlinked := h.linked.returns hcall
  rcases SequenceCall.returns_cases hcall with
    ⟨step, table, rfl, hadmits, rfl⟩ | ⟨-, hsteps, htables, -⟩
  · obtain ⟨hstep, htable⟩ := hfresh hadmits
    refine ⟨hlinked, ?_, ?_⟩
    · rw [stepIds_appended]
      exact (nodup_append_singleton h.stepIds).2 hstep
    · rw [preparedTableIds_appended]
      exact (nodup_append_singleton h.tableIds).2 htable
  · refine ⟨hlinked, ?_, ?_⟩
    · have hids := h.stepIds
      unfold Sequence.stepIds at hids ⊢
      rwa [hsteps]
    · have hids := h.tableIds
      unfold preparedTableIds at hids ⊢
      rwa [htables]

theorem Consistent.freshIds {s t : Sequence} {call : SequenceCall} (h : s.Consistent)
    (hcall : calling SequenceCall.method s call = some t) (hafter : t.Consistent) :
    s.FreshIds call := by
  cases call with
  | appendStep step table =>
      intro hadmits
      have hreturns := appendStep_returns.2 ⟨hadmits, rfl⟩
      rcases calling_atomic SequenceCall.atomic hcall with hok | ⟨-, hraises⟩
      · obtain ⟨-, rfl⟩ := appendStep_returns.1 hok
        have hstep := hafter.stepIds
        have htable := hafter.tableIds
        rw [stepIds_appended] at hstep
        rw [preparedTableIds_appended] at htable
        exact ⟨(nodup_append_singleton h.stepIds).1 hstep,
          (nodup_append_singleton h.tableIds).1 htable⟩
      · exact absurd hreturns (hraises _)
  | recordRun run => trivial
  | markFinal preparedTableId => trivial
  | unmarkFinal preparedTableId => trivial

/-- **The invariant of the aggregate.**  Along every sequence of operations, raising or
not, the references hold; the ids are distinct throughout exactly if every step is
appended under a fresh step id and a fresh table id; and an operation that raises
changes nothing. -/
theorem consistent_iff_freshIds (sequenceId organizationId datasetWorkspaceId : UUID)
    (raw : RawTableReference) (now : Int) (threadId : Option UUID)
    (calls : List SequenceCall) :
    let created := create sequenceId organizationId datasetWorkspaceId raw now threadId
    Always (calling SequenceCall.method) Linked created calls ∧
      (Always (calling SequenceCall.method) Consistent created calls ↔
        Allowed (calling SequenceCall.method) FreshIds created calls) ∧
      ∀ call : SequenceCall, Atomic call.method := by
  intro created
  refine ⟨?_, ?_, SequenceCall.atomic⟩
  · have hallowed : Allowed (calling SequenceCall.method) (fun _ _ => True) created calls :=
      allowed_of_forall (fun _ _ _ => trivial) created
    refine always_of_allowed Linked (fun _ h => h) ?_ calls created (linked_create ..) hallowed
    intro s call t h _ hstep
    rcases calling_atomic SequenceCall.atomic hstep with hok | ⟨rfl, -⟩
    · exact h.returns hok
    · exact h
  · obtain ⟨final, hrun⟩ := run_calling SequenceCall.method created calls
    refine always_iff_allowed Consistent (fun _ h => h) ?_ ?_ calls created final
      (consistent_create ..) hrun
    · intro s call t h hfresh hstep
      rcases calling_atomic SequenceCall.atomic hstep with hok | ⟨rfl, -⟩
      · exact h.returns hfresh hok
      · exact h
    · intro s call t h hstep hafter
      exact h.freshIds hstep hafter

/-! A retry of the first step under the ids of the attempt before. -/

def orders : Sequence :=
  create 62 20 63 (.datasetTableVersion "s3://fixtures/messy_orders.csv" "csv") 0

def dropNullsStep (stepId producedTableId : UUID) (input : Option SequenceTableReference) :
    SequenceStep where
  stepId := stepId
  sequenceId := 62
  organizationId := 20
  operation := .dropNulls
  inputReference := input
  producedTableId := producedTableId
  createdAt := 0

def cleanedTable (preparedTableId stepId : UUID) (parent : Option SequenceTableReference) :
    PreparedTable where
  preparedTableId := preparedTableId
  organizationId := 20
  sequenceId := 62
  stepId := stepId
  parentTableReference := parent
  rowCount := 10
  columns := ["email", "amount"]
  createdAt := 0

/-- The table of a retry takes an id that is in use. -/
theorem consistent_retry :
    ¬ Always (calling SequenceCall.method) Consistent orders
      [.appendStep (dropNullsStep 1 2 none) (cleanedTable 2 1 none),
        .appendStep (dropNullsStep 1 2 none) (cleanedTable 2 1 none)] := by
  intro h
  have hlast : Consistent _ := (h.2 _ rfl).2 _ rfl
  exact absurd hlast.tableIds (by decide)

end Sequence

end Zentra
