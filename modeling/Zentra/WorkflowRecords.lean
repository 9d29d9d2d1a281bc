import Zentra.RaisingTriple
import Zentra.WorkflowEngine

/-!
# The records of workflow executions

An execution is recorded as running, and settled in another transaction after the engine has
run.  Only some exceptions lead there.

* `Settles` — the record says how the call has ended;
* `settles_iff` — for each of the four calls, the exceptions with which it does.
-/

open PythonJson Raising Raising.Method

namespace Zentra.Workflow

abbrev ExecutionId : Type := Nat

/-- An exception, by the classes that the handlers name. -/
inductive Fault
  /-- a `ValueError` -/
  | value (text : String)
  /-- a `RuntimeError` -/
  | runtime (text : String)
  /-- an `HTTPException` -/
  | http (statusCode : Nat) (detail : String)
  /-- another `Exception`, such as a `KeyError` -/
  | exception (name text : String)
  /-- what is no `Exception`: a `CancelledError` -/
  | cancelled
  deriving DecidableEq, Repr

/-- `str(error)`. -/
def Fault.text : Fault → String
  | value text | runtime text | exception _ text => text
  | http _ detail => detail
  | cancelled => ""

/-- `except (ValueError, RuntimeError)`. -/
def Fault.Foreseen : Fault → Prop
  | value _ | runtime _ => True
  | _ => False

/-- `except Exception`. -/
def Fault.IsException (fault : Fault) : Prop := fault ≠ cancelled

instance (fault : Fault) : Decidable fault.Foreseen := by
  unfold Fault.Foreseen
  split <;> infer_instance

instance (fault : Fault) : Decidable fault.IsException := inferInstanceAs (Decidable (_ ≠ _))

/-- `status`. -/
inductive ExecutionStatus
  | running
  | completed
  | failed
  deriving DecidableEq, Repr

/-- A row of `workflow_executions`. -/
structure WorkflowExecution where
  workflowId : Nat
  workflowVersion : Nat
  workflowName : String
  threadId : Option Nat := none
  status : ExecutionStatus := .running
  nodes : List String := []
  routes : List Json := []
  output : Option String := none
  error : Option String := none
  finishedAt : Option Int := none

def WorkflowExecution.fail (row : WorkflowExecution) (error : String) (now : Int) :
    WorkflowExecution :=
  { row with status := .failed, error := some error, finishedAt := some now }

/-- The row after the engine has run. -/
def WorkflowExecution.complete (row : WorkflowExecution) (result : WorkflowResult) (now : Int) :
    WorkflowExecution :=
  { row with
    status := .completed
    nodes := result.nodes
    routes := result.routes
    output := some result.output
    finishedAt := some now }

abbrev Executions : Type := ExecutionId → Option WorkflowExecution

abbrev RecordMethod (α : Type) : Type := Method Executions Fault α

/-- What a call finds around it: the identifier it makes, the clock, the published version, the
active connection, what the service's `run` does, and what the thread service does. -/
structure WorkflowCall where
  executionId : ExecutionId
  now : Int
  workflowId : Nat
  threadId : Option Nat := none
  published : Except Fault (String × Nat)
  connection : Except Fault (Option Nat)
  serviceRun : Option Nat → Except Fault WorkflowResult
  persistence : Except Fault Nat

section Calls

variable (given : WorkflowCall)

/-- `update(workflow_executions)` of the call's record. -/
def updateRecord (f : WorkflowExecution → WorkflowExecution) : RecordMethod Unit :=
  assign fun records => Function.update records given.executionId
    ((records given.executionId).map f)

/-- The connection is resolved, then the engine runs. -/
def outcome : Except Fault WorkflowResult := given.connection >>= given.serviceRun

/-- The record that is inserted for a published version. -/
def opened (version : String × Nat) : WorkflowExecution where
  workflowId := given.workflowId
  workflowVersion := version.2
  workflowName := version.1
  threadId := given.threadId

/-- The published version, recorded as running. -/
def begin : RecordMethod Unit := do
  let version ← eval given.published
  assign fun records => Function.update records given.executionId (some (opened given version))

def runCustomWorkflow : RecordMethod (String × ExecutionId) := do
  begin given
  let result ← (eval (outcome given)).catching fun fault =>
    if fault.Foreseen then do
      updateRecord given fun row => row.fail fault.text given.now
      raise (.http 422 fault.text)
    else raise fault
  updateRecord given fun row => row.complete result given.now
  pure (result.output, given.executionId)

/-- `execute_workflow`: a failure that it foresees is answered, with the status `failed`. -/
def executeWorkflow : RecordMethod ExecutionStatus := do
  begin given
  let result ← (do
      let result ← eval (outcome given)
      pure (some result)).catching fun fault =>
    if fault.Foreseen then do
      updateRecord given fun row => row.fail fault.text given.now
      pure none
    else raise fault
  match result with
  | none => pure .failed
  | some result => do
      updateRecord given fun row => row.complete result given.now
      pure .completed

/-- The thread service writes the reply; what it raises fails the record. -/
def persist : RecordMethod Nat :=
  (eval given.persistence).catching fun fault =>
    if fault.IsException then do
      updateRecord given fun row =>
        row.fail ("Chat persistence failed: " ++ fault.text) given.now
      raise fault
    else raise fault

/-- `_custom_workflow_thread`, of a request with a workflow. -/
def customWorkflowThread : RecordMethod Nat := do
  let _ ← runCustomWorkflow given
  let threadId ← persist given
  updateRecord given fun row => { row with threadId := some threadId }
  pure threadId

def appendCustomWorkflowReply : RecordMethod Nat := persist given

/-- The record says how the call has ended: it has the result of the engine if the call has
succeeded, and is failed and finished otherwise. -/
def Settles {α : Type} (m : RecordMethod α) (succeeded : α → Prop) (records : Executions) : Prop :=
  ∀ row ∈ m.after records given.executionId,
    (∀ a, (m.call records).1 = .ok a → succeeded a → ∃ result, outcome given = .ok result ∧
      row.status = .completed ∧ row.nodes = result.nodes ∧ row.routes = result.routes ∧
      row.output = some result.output) ∧
    ((∀ a, (m.call records).1 = .ok a → ¬ succeeded a) →
      row.status = .failed ∧ row.finishedAt.isSome)

/-- A published workflow fails with a `ValueError` or a `RuntimeError` if at all. -/
def RunsForeseen : Prop :=
  given.published.isOk → ∀ fault, outcome given = .error fault → fault.Foreseen

/-- The reply of a workflow that has run is not cancelled while it is written. -/
def PersistsForeseen : Prop :=
  ∀ fault, given.persistence = .error fault → fault.IsException

variable {given} {records : Executions}

theorem call_eval {α : Type} (r : Except Fault α) :
    (eval r : RecordMethod α).call records = (r, records) := rfl

theorem call_runCustomWorkflow : (runCustomWorkflow given).call records =
    match given.published, outcome given with
    | .error fault, _ => (.error fault, records)
    | .ok version, .ok result => (.ok (result.output, given.executionId),
        Function.update records given.executionId
          (some ((opened given version).complete result given.now)))
    | .ok version, .error fault =>
        if fault.Foreseen then (.error (.http 422 fault.text),
          Function.update records given.executionId
            (some ((opened given version).fail fault.text given.now)))
        else (.error fault, Function.update records given.executionId (some (opened given version)))
    := by
  rw [runCustomWorkflow, begin]
  cases hpublished : given.published with
  | error fault => simp only [call_bind, call_eval]
  | ok version =>
      cases houtcome : outcome given with
      | ok result =>
          simp [call_bind, call_eval, call_catching, updateRecord, call_assign]
      | error fault =>
          by_cases hforeseen : fault.Foreseen
          · simp [call_bind, call_eval, call_catching, updateRecord, call_assign, hforeseen]
          · simp [call_bind, call_eval, call_catching, updateRecord, call_assign, hforeseen]

theorem settles_runCustomWorkflow (hfresh : records given.executionId = none) :
    Settles given (runCustomWorkflow given) (fun _ => True) records ↔ RunsForeseen given := by
  unfold Settles RunsForeseen Method.after
  rw [call_runCustomWorkflow]
  cases hpublished : given.published with
  | error fault => simp [hfresh, Except.isOk, Except.toBool]
  | ok version =>
      cases houtcome : outcome given with
      | ok result => simp [WorkflowExecution.complete, Except.isOk, Except.toBool]
      | error fault =>
          by_cases hforeseen : fault.Foreseen
          · simp [hforeseen, WorkflowExecution.fail, Except.isOk, Except.toBool]
          · simp [hforeseen, opened, Except.isOk, Except.toBool]

theorem settles_executeWorkflow (hfresh : records given.executionId = none) :
    Settles given (executeWorkflow given) (· = .completed) records ↔ RunsForeseen given := by
  unfold Settles RunsForeseen Method.after executeWorkflow begin
  cases hpublished : given.published with
  | error fault => simp [call_bind, call_eval, hfresh, Except.isOk, Except.toBool]
  | ok version =>
      cases houtcome : outcome given with
      | ok result =>
          simp [call_bind, call_eval, call_catching, updateRecord, call_assign,
            WorkflowExecution.complete, Except.isOk, Except.toBool]
      | error fault =>
          by_cases hforeseen : fault.Foreseen
          · simp [call_bind, call_eval, call_catching, updateRecord, call_assign, hforeseen,
              WorkflowExecution.fail, Except.isOk, Except.toBool]
          · simp [call_bind, call_eval, call_catching, updateRecord, call_assign, hforeseen, opened,
              Except.isOk, Except.toBool]

theorem settles_customWorkflowThread (hfresh : records given.executionId = none) :
    Settles given (customWorkflowThread given) (fun _ => True) records ↔ RunsForeseen given ∧
      (given.published.isOk → (outcome given).isOk → PersistsForeseen given) := by
  unfold Settles RunsForeseen PersistsForeseen Method.after customWorkflowThread
  simp only [call_bind, call_runCustomWorkflow]
  cases hpublished : given.published with
  | error fault => simp [hfresh, Except.isOk, Except.toBool]
  | ok version =>
      cases houtcome : outcome given with
      | ok result =>
          cases hpersistence : given.persistence with
          | ok threadId =>
              simp [persist, call_eval, call_catching, hpersistence, updateRecord, call_assign,
                WorkflowExecution.complete, Except.isOk, Except.toBool]
          | error fault =>
              by_cases hexception : fault.IsException
              · simp [persist, call_bind, call_eval, call_catching, hpersistence, updateRecord,
                  call_assign, hexception, WorkflowExecution.fail, Except.isOk, Except.toBool]
              · simp [persist, call_eval, call_catching, hpersistence, hexception,
                  WorkflowExecution.complete, Except.isOk, Except.toBool]
      | error fault =>
          by_cases hforeseen : fault.Foreseen
          · simp [hforeseen, WorkflowExecution.fail, Except.isOk, Except.toBool]
          · simp [hforeseen, opened, Except.isOk, Except.toBool]

theorem settles_appendCustomWorkflowReply {version : String × Nat} {result : WorkflowResult}
    (houtcome : outcome given = .ok result)
    (hcompleted : records given.executionId = some ((opened given version).complete result given.now)) :
    Settles given (appendCustomWorkflowReply given) (fun _ => True) records ↔
      PersistsForeseen given := by
  unfold Settles PersistsForeseen Method.after appendCustomWorkflowReply persist
  cases hpersistence : given.persistence with
  | ok threadId =>
      simp [call_eval, call_catching, hcompleted, houtcome, WorkflowExecution.complete]
  | error fault =>
      by_cases hexception : fault.IsException
      · simp [call_bind, call_eval, call_catching, updateRecord, call_assign, hexception,
          hcompleted, WorkflowExecution.fail]
      · simp [call_eval, call_catching, hexception, hcompleted, WorkflowExecution.complete]

/-- **Records settle** exactly where the exceptions are those that the handlers name. -/
theorem settles_iff (hfresh : records given.executionId = none) :
    (Settles given (runCustomWorkflow given) (fun _ => True) records ↔ RunsForeseen given) ∧
    (Settles given (executeWorkflow given) (· = .completed) records ↔ RunsForeseen given) ∧
    (Settles given (customWorkflowThread given) (fun _ => True) records ↔ RunsForeseen given ∧
      (given.published.isOk → (outcome given).isOk → PersistsForeseen given)) ∧
    ∀ version result, outcome given = .ok result →
      (Settles given (appendCustomWorkflowReply given) (fun _ => True)
        (Function.update records given.executionId
          (some ((opened given version).complete result given.now))) ↔ PersistsForeseen given) :=
  ⟨settles_runCustomWorkflow hfresh, settles_executeWorkflow hfresh,
    settles_customWorkflowThread hfresh, fun _ _ houtcome =>
      settles_appendCustomWorkflowReply houtcome (Function.update_self ..)⟩

end Calls

/-- A call whose version is published; its engine ends with the outcome. -/
def publishedCall (result : Except Fault WorkflowResult) : WorkflowCall where
  executionId := 1
  now := 10
  workflowId := 2
  published := .ok ("Refunds", 3)
  connection := .ok none
  serviceRun := fun _ => result
  persistence := .ok 7

theorem finishedCall_settles :
    (Settles (publishedCall (.ok ⟨"done", [], []⟩)) (runCustomWorkflow
      (publishedCall (.ok ⟨"done", [], []⟩))) (fun _ => True) fun _ => none) :=
  (@settles_iff (publishedCall (.ok ⟨"done", [], []⟩)) (fun _ => none) rfl).1.2
    fun _ fault h => by cases h

/-- **A cancelled request** leaves its record running. -/
theorem cancelledCall_runs :
    ((runCustomWorkflow (publishedCall (.error .cancelled))).call fun _ => none).1 =
        .error .cancelled ∧
      (((runCustomWorkflow (publishedCall (.error .cancelled))).after
        fun _ => none) 1).map WorkflowExecution.status = some .running :=
  ⟨rfl, rfl⟩

end Zentra.Workflow
