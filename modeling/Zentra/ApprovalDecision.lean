import Mathlib.Logic.Function.Basic
import Zentra.AnalysisRunLifecycle
import Zentra.PublicationGate

/-!
# Deciding a Human Approval

A run that is gated opens an approval; an owner or an admin decides it, and the
decision is applied to the approval and to the run in one transaction.  The two
aggregates have a table of transitions each.

* `HumanApproval.decide`, `ApprovalStore.decide` — the method of the approval and
  the transaction of the service, branch by branch;
* `ApprovalStore.step` — the transactions on runs and approvals, by any number of
  executors and actors.
-/

open Raising Raising.Method

namespace Zentra

def HumanApprovalStatus.value : HumanApprovalStatus → String
  | pending => "pending"
  | granted => "granted"
  | rejected => "rejected"
  | timedOut => "timed_out"

/-- The status that a decision leads to. -/
def ApprovalDecision.target : ApprovalDecision → HumanApprovalStatus
  | approve => .granted
  | reject => .rejected

namespace HumanApproval

/-- The decision, with its reason, is the one that the approval records. -/
def Records (approval : HumanApproval) (decision : ApprovalDecision)
    (rejectionReason : Option RejectionReason) : Prop :=
  approval.status = decision.target ∧ approval.decisionReason = rejectionReason

instance (approval : HumanApproval) (decision : ApprovalDecision)
    (rejectionReason : Option RejectionReason) :
    Decidable (approval.Records decision rejectionReason) :=
  inferInstanceAs (Decidable (_ ∧ _))

/-- What `decide` assigns. -/
def decidedAs (decision : ApprovalDecision) (rejectionReason : Option RejectionReason)
    (userId : UUID) (now : Int) (approval : HumanApproval) : HumanApproval :=
  { approval with
    status := decision.target
    decidedAt := some now
    decidedBy := some userId
    decisionReason := rejectionReason }

/-- `HumanApproval.decide`: whether the decision changed anything. -/
def decide (decision : ApprovalDecision) (rejectionReason : Option RejectionReason)
    (userId : UUID) (now : Int) :
    Method HumanApproval AnalysisRunTransitionError Bool := do
  let approval ← self
  if approval.Records decision rejectionReason then
    return false
  raiseIf (fun self => self.status ≠ .pending)
    fun self => ⟨"Approval was already decided as " ++ self.status.value⟩
  raiseIf (fun _ => decision = .reject ∧ rejectionReason = none)
    fun _ => ⟨"A rejection reason is required"⟩
  raiseIf (fun _ => decision = .approve ∧ rejectionReason ≠ none)
    fun _ => ⟨"An approval cannot include a rejection reason"⟩
  assign (decidedAs decision rejectionReason userId now)
  return true

variable {approval after : HumanApproval} {decision : ApprovalDecision}
  {rejectionReason : Option RejectionReason} {userId : UUID} {now : Int}

/-- Repeating the recorded decision returns, and changes nothing. -/
theorem decide_repeated (h : approval.Records decision rejectionReason) :
    (decide decision rejectionReason userId now).call approval =
      (.ok false, approval) := by
  unfold decide
  rw [call_self_bind, if_pos h]
  rfl

theorem decide_conflicting (h : ¬ approval.Records decision rejectionReason)
    (hdecided : approval.status ≠ .pending) :
    (decide decision rejectionReason userId now).call approval =
      (.error ⟨"Approval was already decided as " ++ approval.status.value⟩,
        approval) := by
  unfold decide
  rw [call_self_bind, if_neg h]
  show (raiseIf _ _ >>= _).call approval = _
  rw [call_raiseIf_bind, if_pos hdecided]

theorem not_repeated_of_pending (hpending : approval.status = .pending) :
    (decide decision rejectionReason userId now).call approval ≠ (.ok false, after) := by
  intro h
  have hrecords : ¬ approval.Records decision rejectionReason := by
    rintro ⟨htarget, -⟩
    rw [hpending] at htarget
    cases decision <;> cases htarget
  unfold decide at h
  rw [call_self_bind, if_neg hrecords] at h
  replace h : (raiseIf _ _ >>= _).call approval = _ := h
  rw [raiseIf_bind_returns, raiseIf_bind_returns, raiseIf_bind_returns] at h
  obtain ⟨-, -, -, hrest⟩ := h
  cases hrest

theorem decide_changes
    (h : (decide decision rejectionReason userId now).call approval =
      (.ok true, after)) :
    approval.status = .pending ∧
      after = decidedAs decision rejectionReason userId now approval := by
  unfold decide at h
  rw [call_self_bind] at h
  split at h
  · cases h
  · replace h : (raiseIf _ _ >>= _).call approval = _ := h
    rw [raiseIf_bind_returns, raiseIf_bind_returns, raiseIf_bind_returns] at h
    obtain ⟨hpending, -, -, hrest⟩ := h
    refine ⟨not_not.1 hpending, ?_⟩
    cases hrest
    rfl

end HumanApproval

/-- What `decide` of the service raises. -/
inductive DecideError
  | permissionDenied (message : String)
  | analysisRunNotFound (message : String)
  | conflict (message : String)
  /-- the rest of the transaction does not go through -/
  | persistence
  deriving DecidableEq, Repr

structure DecideRequest where
  role : Role
  userId : UUID
  organizationId : UUID
  analysisRunId : UUID
  approvalId : UUID
  decision : ApprovalDecision
  rejectionReason : Option RejectionReason
  /-- the clock, read for the approval and again for the run -/
  decidedAt : Int
  now : Int
  /-- whether the rest of the transaction (outbox, feed, visualization) commits -/
  persisted : Bool

/-- The tables of runs and approvals, and the copies of runs that executors are
working on. -/
structure ApprovalStore where
  runs : UUID → Option AnalysisRun
  approvals : UUID → Option HumanApproval
  executing : Nat → Option AnalysisRun

namespace ApprovalStore

def empty : ApprovalStore := ⟨fun _ => none, fun _ => none, fun _ => none⟩

/-- Saving a run.  Its events go to the outbox and are not read back. -/
def setRun (s : ApprovalStore) (run : AnalysisRun) : ApprovalStore :=
  { s with runs :=
      Function.update s.runs run.analysisRunId (some { run with events := [] }) }

def setApproval (s : ApprovalStore) (approval : HumanApproval) : ApprovalStore :=
  { s with approvals := Function.update s.approvals approval.approvalId (some approval) }

def setExecuting (s : ApprovalStore) (e : Nat) (run : Option AnalysisRun) :
    ApprovalStore :=
  { s with executing := Function.update s.executing e run }

/-- `analysis_runs.get`. -/
def getRun (s : ApprovalStore) (organizationId analysisRunId : UUID) :
    Option AnalysisRun :=
  (s.runs analysisRunId).filter fun run => run.organizationId = organizationId

/-- `approvals.get_for_analysis_run`, by the identifier of the approval. -/
def getApproval (s : ApprovalStore) (organizationId analysisRunId approvalId : UUID) :
    Option HumanApproval :=
  (s.approvals approvalId).filter fun approval =>
    approval.analysisRunId = analysisRunId ∧ approval.organizationId = organizationId

/-- `AnalysisRunService.decide`.  A refusal by role is recorded in the outbox
only. -/
def decide (request : DecideRequest) : Method ApprovalStore DecideError Bool := do
  raiseIf (fun _ => request.role ∉ [Role.owner, .admin])
    fun _ => .permissionDenied "This membership cannot decide Human Approvals"
  let s ← self
  match s.getRun request.organizationId request.analysisRunId,
    s.getApproval request.organizationId request.analysisRunId request.approvalId with
  | some run, some approval =>
      match (HumanApproval.decide request.decision request.rejectionReason request.userId
          request.decidedAt).call approval with
      | (.error e, _) => raise (.conflict e.message)
      | (.ok false, _) => return false
      | (.ok true, decided) =>
          match (AnalysisRun.decide request.decision request.rejectionReason
              request.now).call run with
          | (.error e, _) => raise (.conflict e.message)
          | (.ok (), after) =>
              assign fun self => self.setRun after
              assign fun self => self.setApproval decided
              raiseIf (fun _ => request.persisted = false) fun _ => .persistence
              return true
  | _, _ => raise (.analysisRunNotFound "AnalysisRun was not found")

/-- What `_execute` writes when the run it has loaded is still the stored one: the
run, and the approval that its evaluation opened. -/
def evaluated (s : ApprovalStore) (approvalId : UUID) (now : Int)
    (failed : List PublicationCondition) (run : AnalysisRun) :
    Option ApprovalReason → ApprovalStore
  | none => s.setRun run
  | some reason =>
      (s.setRun run).setApproval {
        approvalId
        analysisRunId := run.analysisRunId
        organizationId := run.organizationId
        reason
        status := .pending
        requestedAt := now
        failedConditions := failed }

/-- A transaction on runs and approvals, or the load in front of one. -/
inductive Action
  /-- register a run, and start it -/
  | register (analysisRunId organizationId : UUID) (question : String) (now : Int)
  /-- an executor loads a run -/
  | load (e : Nat) (organizationId analysisRunId : UUID)
  /-- the executor evaluates its copy and saves it, as `_execute` does -/
  | evaluate (e : Nat) (directive : EvaluationDirective) (outcome : OutcomeSignal)
      (finding : Finding) (now : Int) (failed : List PublicationCondition)
      (approvalId : UUID) (persisted : Bool)
  /-- the executor fails its copy and saves it, as `_fail` does -/
  | fail (e : Nat) (failure : FailureOutcome) (now : Int)
  | cancel (organizationId analysisRunId : UUID) (now : Int)
  | decide (request : DecideRequest)

def newRun (analysisRunId organizationId : UUID) (question : String) (now : Int) :
    Option AnalysisRun :=
  match AnalysisRun.create analysisRunId organizationId question now with
  | .ok created =>
      match (AnalysisRun.start now).call created with
      | (.ok (), run) => some run
      | (.error _, _) => none
  | .error _ => none

/-- One step.  A transaction that raises is rolled back. -/
def step (s : ApprovalStore) : Action → Option ApprovalStore
  | .register analysisRunId organizationId question now =>
      match newRun analysisRunId organizationId question now with
      | some run => if (s.runs analysisRunId).isSome then none else some (s.setRun run)
      | none => none
  | .load e organizationId analysisRunId =>
      some (s.setExecuting e (s.getRun organizationId analysisRunId))
  | .evaluate e directive outcome finding now failed approvalId persisted =>
      match s.executing e with
      | none => none
      | some loaded =>
          let released := s.setExecuting e none
          match (Zentra.evaluate directive outcome finding now failed).call loaded with
          | (.error _, _) => some released
          | (.ok reason, run) =>
              if (s.getRun run.organizationId run.analysisRunId).any
                  (fun row => row.version = loaded.version) ∧
                persisted = true ∧ s.approvals approvalId = none then
                some (released.evaluated approvalId now failed run reason)
              else some released
  | .fail e failure now =>
      match s.executing e with
      | none => none
      | some loaded =>
          let released := s.setExecuting e none
          match (AnalysisRun.fail failure now).call loaded with
          | (.error _, _) => some released
          | (.ok (), run) =>
              if (s.getRun run.organizationId run.analysisRunId).any
                  (fun row => row.version = loaded.version) then
                some (released.setRun run)
              else some released
  | .cancel organizationId analysisRunId now =>
      match s.getRun organizationId analysisRunId with
      | none => none
      | some run =>
          match (AnalysisRun.cancel now).call run with
          | (.error _, _) => some s
          | (.ok (), cancelled) => some (s.setRun cancelled)
  | .decide request =>
      match (decide request).call s with
      | (.ok _, t) => some t
      | (.error _, _) => some s

end ApprovalStore

end Zentra
