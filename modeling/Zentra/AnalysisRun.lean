import Mathlib.Data.List.Sort
import Zentra.AgentOutcome
import Zentra.ExecutionJob
import Zentra.Publication

/-!
# The Analysis Run

The aggregate that answers one question.  Its lifecycle goes from pending over
running and evaluating to one of four terminal states, possibly by way of a
human approval, and every transition is recorded as a domain event.

Every operation is the method of the same name, with the writes in the order of
the source: a method may raise after it has written.
-/

open Raising Raising.Method

namespace Zentra

inductive AnalysisRunStatus
  | pending
  | running
  | evaluating
  | awaitingApproval
  | completed
  | rejected
  | failed
  | cancelled
  deriving DecidableEq, Repr

def AnalysisRunStatus.value : AnalysisRunStatus → String
  | pending => "pending"
  | running => "running"
  | evaluating => "evaluating"
  | awaitingApproval => "awaiting_approval"
  | completed => "completed"
  | rejected => "rejected"
  | failed => "failed"
  | cancelled => "cancelled"

/-- `TERMINAL_STATUSES`: the four states an Analysis Run cannot leave. -/
def terminalStatuses : List AnalysisRunStatus :=
  [.completed, .rejected, .failed, .cancelled]

inductive EvaluationDirective
  | pass
  | review
  | retry
  | escalate
  deriving DecidableEq, Repr

inductive ApprovalReason
  | lowConfidence
  | irreversibleAction
  | organizationPolicy
  | contradictionUnresolved
  | regulatoryExposure
  | evidenceIncomplete
  deriving DecidableEq, Repr

inductive ApprovalDecision
  | approve
  | reject
  deriving DecidableEq, Repr

inductive RejectionReason
  | insufficientEvidence
  | incorrectInterpretation
  | policyMismatch
  | needsMoreAnalysis
  deriving DecidableEq, Repr

/-- The role of a membership in its Organization. -/
inductive Role
  | owner
  | admin
  | member
  | viewer
  deriving DecidableEq, Repr

structure AnalysisRunTransitionError where
  message : String
  deriving DecidableEq, Repr

/-- A reference under the `artifact://` scheme. -/
structure EvidenceReference where
  value : String
  scheme : "artifact://".toList <+: value.toList := by decide
  deriving DecidableEq

structure MetricComparison where
  metric : String
  previousValue : String
  currentValue : String
  unit : String
  previousLabel : Option String := none
  currentLabel : Option String := none
  deriving DecidableEq, Repr

structure Finding where
  headline : String
  summary : String
  metrics : List MetricComparison
  evidenceRefs : List EvidenceReference
  deriving DecidableEq

structure CompletionOutcome where
  finding : Finding
  humanApproved : Bool
  deriving DecidableEq

structure FailureOutcome where
  code : String
  message : String
  category : Option String := none
  deriving DecidableEq, Repr

inductive EventMetadata
  | empty
  | validation (attempt : Int) (directive : EvaluationDirective)
      (outcomeKind : String) (confidence : Option ℚ)
      (failedPublicationConditions : List PublicationCondition)
  | approvalRequested (reason : ApprovalReason)
      (failedPublicationConditions : List PublicationCondition)
  | rejection (reason : RejectionReason)
  | failure (code : String) (category : Option String)
  | denied (role : String) (userId : UUID)
  | erasure (category : String)
  deriving DecidableEq

structure DomainEvent where
  eventType : String
  analysisRunId : UUID
  organizationId : UUID
  status : AnalysisRunStatus
  occurredAt : Int
  artifactRefs : List EvidenceReference := []
  metadata : EventMetadata := .empty
  deriving DecidableEq

inductive DataConnectionId
  | one (dataConnectionId : UUID)
  | many (dataConnectionIds : List UUID)
  deriving DecidableEq, Repr

structure AnalysisRun where
  analysisRunId : UUID
  organizationId : UUID
  question : String
  status : AnalysisRunStatus
  version : Int
  evaluationAttempts : Int
  createdAt : Int
  updatedAt : Int
  scenarioKey : Option String := none
  threadId : Option UUID := none
  threadSequence : Option Int := none
  initiatingMessageId : Option UUID := none
  parentAnalysisRunId : Option UUID := none
  retryOfAnalysisRunId : Option UUID := none
  finishedAt : Option Int := none
  finding : Option Finding := none
  outcome : Option OutcomeSignal := none
  completion : Option CompletionOutcome := none
  failure : Option FailureOutcome := none
  dataConnectionId : Option DataConnectionId := none
  sourceScopeId : Option UUID := none
  events : List DomainEvent := []
  deriving DecidableEq

abbrev RunMethod (α : Type) : Type := Method AnalysisRun AnalysisRunTransitionError α

namespace AnalysisRun

/-- The status is one of the terminal ones. -/
def Terminal (run : AnalysisRun) : Prop := run.status ∈ terminalStatuses

instance : DecidablePred Terminal :=
  fun run => inferInstanceAs (Decidable (run.status ∈ terminalStatuses))

/-- The time of a new event: now, or just after the last event. -/
def nextOccurrence (events : List DomainEvent) (now : Int) : Int :=
  match events.getLast? with
  | some last => if now ≤ last.occurredAt then last.occurredAt + 1 else now
  | none => now

/-- What `_record` does. -/
def recorded (eventType : String) (now : Int)
    (artifactRefs : List EvidenceReference) (metadata : EventMetadata)
    (run : AnalysisRun) : AnalysisRun :=
  { run with
    events := run.events ++ [{
      eventType
      analysisRunId := run.analysisRunId
      organizationId := run.organizationId
      status := run.status
      occurredAt := nextOccurrence run.events now
      artifactRefs, metadata }] }

def record (eventType : String) (now : Int)
    (artifactRefs : List EvidenceReference := [])
    (metadata : EventMetadata := .empty) : RunMethod Unit :=
  assign (recorded eventType now artifactRefs metadata)

/-- The message of `_require_status`. -/
def statusMessage (status : AnalysisRunStatus)
    (expected : List AnalysisRunStatus) : String :=
  let allowed := ", ".intercalate
    ((expected.map AnalysisRunStatus.value).insertionSort (· ≤ ·))
  "Cannot transition Analysis Run from " ++ status.value ++ "; expected " ++ allowed

def requireStatus (expected : List AnalysisRunStatus) : RunMethod Unit :=
  raiseIf (fun self => self.status ∉ expected)
    fun self => ⟨statusMessage self.status expected⟩

/-- What `_transition` assigns before it records the event. -/
def moved (target : AnalysisRunStatus) (now : Int) (finished : Bool)
    (run : AnalysisRun) : AnalysisRun :=
  { run with
    status := target
    updatedAt := now
    version := run.version + 1
    finishedAt := if finished then some now else run.finishedAt }

def transition (expected : List AnalysisRunStatus) (target : AnalysisRunStatus)
    (eventType : String) (now : Int) (metadata : EventMetadata := .empty)
    (finished : Bool := false) : RunMethod Unit := do
  requireStatus expected
  assign (moved target now finished)
  record eventType now [] metadata

def complete (now : Int) (humanApproved : Bool) : RunMethod Unit := do
  let run ← self
  match run.finding with
  | none => raise ⟨"An Analysis Run cannot complete without a finding"⟩
  | some finding =>
      assign fun self =>
        { self with completion := some { finding, humanApproved } }
      transition [.evaluating, .awaitingApproval] .completed
        "analysis_run.completed" now .empty true

/-- `_approval_reason`: the headline a reviewer sees first. -/
def approvalReason (directive : EvaluationDirective) (outcome : OutcomeSignal)
    (failedConditions : List PublicationCondition) : ApprovalReason :=
  if .evidenced ∈ failedConditions then .evidenceIncomplete
  else if .uncontradicted ∈ failedConditions then .contradictionUnresolved
  else if .converged ∈ failedConditions then .contradictionUnresolved
  else if .confident ∈ failedConditions then .lowConfidence
  else if directive = .retry ∨ directive = .escalate then .contradictionUnresolved
  else match outcome with
    | .confidence _ => .lowConfidence
    | .validation _ => .organizationPolicy

def create (analysisRunId organizationId : UUID) (question : String) (now : Int)
    (dataConnectionId : Option DataConnectionId := none)
    (sourceScopeId : Option UUID := none) (threadId : Option UUID := none)
    (threadSequence : Option Int := none)
    (initiatingMessageId : Option UUID := none)
    (parentAnalysisRunId : Option UUID := none)
    (retryOfAnalysisRunId : Option UUID := none) :
    Except AnalysisRunTransitionError AnalysisRun :=
  if (threadId.isSome || threadSequence.isSome || initiatingMessageId.isSome) &&
      (threadId.isNone || threadSequence.isNone || initiatingMessageId.isNone ||
        threadSequence.any fun sequence => decide (sequence < 1)) then
    .error ⟨"A Thread-linked Analysis Run requires a Thread, " ++
      "positive sequence, and initiating message"⟩
  else
    .ok (recorded "analysis_run.created" now [] .empty {
      analysisRunId, organizationId, question
      status := .pending
      version := 1
      evaluationAttempts := 0
      createdAt := now
      updatedAt := now
      dataConnectionId, sourceScopeId, threadId, threadSequence
      initiatingMessageId, parentAnalysisRunId, retryOfAnalysisRunId })

def start (now : Int) : RunMethod Unit :=
  transition [.pending] .running "analysis_run.started" now

def beginEvaluation (now : Int) : RunMethod Unit :=
  transition [.running] .evaluating "analysis_run.evaluation_started" now

/-- What `record_evaluation` assigns before it records the validation. -/
def evaluated (outcome : OutcomeSignal) (finding : Finding) (now : Int)
    (run : AnalysisRun) : AnalysisRun :=
  { run with
    evaluationAttempts := run.evaluationAttempts + 1
    outcome := some outcome
    finding := some finding
    updatedAt := now
    version := run.version + 1 }

def recordEvaluation (directive : EvaluationDirective) (outcome : OutcomeSignal)
    (finding : Finding) (now : Int)
    (failedConditions : List PublicationCondition := []) :
    RunMethod (Option ApprovalReason) := do
  requireStatus [.evaluating]
  raiseIf (fun self => self.evaluationAttempts ≥ 3)
    fun _ => ⟨"An Analysis Run cannot exceed three evaluation attempts"⟩
  assign (evaluated outcome finding now)
  let run ← self
  record "analysis_run.validation_completed" now finding.evidenceRefs
    (.validation run.evaluationAttempts directive outcome.kind outcome.score?
      failedConditions)
  if directive = .pass then
    complete now false
    return none
  if directive = .retry ∧ run.evaluationAttempts < 3 then
    transition [.evaluating] .running "analysis_run.retry_requested" now
    return none
  let reason := approvalReason directive outcome failedConditions
  transition [.evaluating] .awaitingApproval "human_approval.requested" now
    (.approvalRequested reason failedConditions)
  return some reason

def decide (decision : ApprovalDecision)
    (rejectionReason : Option RejectionReason) (now : Int) : RunMethod Unit := do
  requireStatus [.awaitingApproval]
  match decision, rejectionReason with
  | .reject, none => raise ⟨"A rejection reason is required"⟩
  | .approve, some _ => raise ⟨"An approval cannot include a rejection reason"⟩
  | .approve, none =>
      record "human_approval.granted" now
      complete now true
  | .reject, some reason =>
      record "human_approval.rejected" now [] (.rejection reason)
      transition [.awaitingApproval] .rejected "analysis_run.rejected" now .empty
        true

def recordDeniedDecision (now : Int) (role : String) (userId : UUID) :
    RunMethod Unit :=
  record "human_approval.denied" now [] (.denied role userId)

def recordEvidenceErased (now : Int) (category : String) : RunMethod Unit :=
  record "analysis_run.evidence_erased" now [] (.erasure category)

def fail (failure : FailureOutcome) (now : Int) : RunMethod Unit := do
  requireStatus [.pending, .running, .evaluating]
  assign fun self => { self with failure := some failure }
  let run ← self
  transition [run.status] .failed "analysis_run.failed" now
    (.failure failure.code failure.category) true

def cancel (now : Int) : RunMethod Unit := do
  requireStatus [.pending, .running, .evaluating, .awaitingApproval]
  let run ← self
  transition [run.status] .cancelled "analysis_run.cancelled" now .empty true

/-- The run after a transition: moved, and the event recorded. -/
def stepped (target : AnalysisRunStatus) (eventType : String) (now : Int)
    (metadata : EventMetadata) (finished : Bool) (run : AnalysisRun) :
    AnalysisRun :=
  recorded eventType now [] metadata (moved target now finished run)

/-- The run after `_complete`. -/
def completedWith (finding : Finding) (humanApproved : Bool) (now : Int)
    (run : AnalysisRun) : AnalysisRun :=
  stepped .completed "analysis_run.completed" now .empty true
    { run with completion := some { finding, humanApproved } }

/-- The run after the writes that every `record_evaluation` makes. -/
def validated (directive : EvaluationDirective) (outcome : OutcomeSignal)
    (finding : Finding) (now : Int)
    (failedConditions : List PublicationCondition) (run : AnalysisRun) :
    AnalysisRun :=
  recorded "analysis_run.validation_completed" now finding.evidenceRefs
    (.validation (run.evaluationAttempts + 1) directive outcome.kind
      outcome.score? failedConditions)
    (evaluated outcome finding now run)

variable {run : AnalysisRun} {now : Int}

@[simp] theorem terminal_iff :
    run.Terminal ↔ run.status = .completed ∨ run.status = .rejected ∨
      run.status = .failed ∨ run.status = .cancelled := by
  unfold Terminal terminalStatuses
  simp

theorem requireStatus_bind_call {α : Type} {expected : List AnalysisRunStatus}
    {rest : Unit → RunMethod α} :
    (requireStatus expected >>= rest).call run =
      if run.status ∈ expected then (rest ()).call run
      else (.error ⟨statusMessage run.status expected⟩, run) := by
  unfold requireStatus
  rw [call_raiseIf_bind]
  by_cases hstatus : run.status ∈ expected
  · rw [if_neg (not_not.2 hstatus), if_pos hstatus]
  · rw [if_pos hstatus, if_neg hstatus]

theorem record_bind_call {α : Type} {eventType : String}
    {artifactRefs : List EvidenceReference} {metadata : EventMetadata}
    {rest : Unit → RunMethod α} :
    (record eventType now artifactRefs metadata >>= rest).call run =
      (rest ()).call (recorded eventType now artifactRefs metadata run) := rfl

theorem transition_call {expected : List AnalysisRunStatus}
    {target : AnalysisRunStatus} {eventType : String} {metadata : EventMetadata}
    {finished : Bool} :
    (transition expected target eventType now metadata finished).call run =
      if run.status ∈ expected then
        (.ok (), stepped target eventType now metadata finished run)
      else (.error ⟨statusMessage run.status expected⟩, run) := by
  unfold transition
  rw [requireStatus_bind_call]
  rfl

theorem fail_call {failure : FailureOutcome} :
    (fail failure now).call run =
      if run.status ∈ [.pending, .running, .evaluating] then
        (.ok (), stepped .failed "analysis_run.failed" now
          (.failure failure.code failure.category) true
          { run with failure := some failure })
      else (.error ⟨statusMessage run.status [.pending, .running, .evaluating]⟩,
        run) := by
  unfold fail
  rw [requireStatus_bind_call]
  by_cases hstatus : run.status ∈ [.pending, .running, .evaluating]
  · rw [if_pos hstatus, if_pos hstatus, call_assign_bind, call_self_bind,
      transition_call, if_pos (by simp)]
  · rw [if_neg hstatus, if_neg hstatus]

theorem cancel_call :
    (cancel now).call run =
      if run.status ∈ [.pending, .running, .evaluating, .awaitingApproval] then
        (.ok (), stepped .cancelled "analysis_run.cancelled" now .empty true run)
      else (.error ⟨statusMessage run.status
        [.pending, .running, .evaluating, .awaitingApproval]⟩, run) := by
  unfold cancel
  rw [requireStatus_bind_call]
  by_cases hstatus : run.status ∈
      [.pending, .running, .evaluating, .awaitingApproval]
  · rw [if_pos hstatus, if_pos hstatus, call_self_bind, transition_call,
      if_pos (by simp)]
  · rw [if_neg hstatus, if_neg hstatus]

theorem not_terminal_iff : ¬ run.Terminal ↔
    run.status ∈ [.pending, .running, .evaluating, .awaitingApproval] := by
  unfold Terminal terminalStatuses
  cases run.status <;> simp

/-- Completing a run that is being evaluated or awaits approval, and has a
finding, succeeds. -/
theorem complete_call {finding : Finding} {humanApproved : Bool}
    (hfinding : run.finding = some finding)
    (hstatus : run.status ∈ [.evaluating, .awaitingApproval]) :
    (complete now humanApproved).call run =
      (.ok (), completedWith finding humanApproved now run) := by
  unfold complete
  rw [call_self_bind, hfinding]
  show (transition _ _ _ _ _ _).call _ = _
  rw [transition_call, if_pos hstatus]
  rfl

theorem recordEvaluation_returns {directive : EvaluationDirective}
    {outcome : OutcomeSignal} {finding : Finding}
    {failedConditions : List PublicationCondition} {after : AnalysisRun}
    {reason : Option ApprovalReason}
    (h : (recordEvaluation directive outcome finding now failedConditions).call run =
      (.ok reason, after)) :
    run.status = .evaluating ∧ run.evaluationAttempts < 3 := by
  unfold recordEvaluation requireStatus at h
  rw [raiseIf_bind_returns, raiseIf_bind_returns] at h
  obtain ⟨hstatus, hattempts, -⟩ := h
  exact ⟨by simpa using hstatus, by omega⟩

/-- **What `record_evaluation` does** to a run that is being evaluated and has
an attempt left: it completes the run, sends it back, or opens the gate. -/
theorem recordEvaluation_call {directive : EvaluationDirective}
    {outcome : OutcomeSignal} {finding : Finding}
    {failedConditions : List PublicationCondition}
    (hstatus : run.status = .evaluating) (hattempts : run.evaluationAttempts < 3) :
    (recordEvaluation directive outcome finding now failedConditions).call run =
      let after := validated directive outcome finding now failedConditions run
      if directive = .pass then (.ok none, completedWith finding false now after)
      else if directive = .retry ∧ run.evaluationAttempts + 1 < 3 then
        (.ok none, stepped .running "analysis_run.retry_requested" now .empty false
          after)
      else
        let reason := approvalReason directive outcome failedConditions
        (.ok (some reason), stepped .awaitingApproval "human_approval.requested" now
          (.approvalRequested reason failedConditions) false after) := by
  unfold recordEvaluation
  rw [requireStatus_bind_call, if_pos (by simp [hstatus]), call_raiseIf_bind,
    if_neg (by omega), call_assign_bind, call_self_bind, record_bind_call]
  by_cases hpass : directive = .pass
  · simp only [hpass, if_true]
    rw [call_bind, complete_call rfl
      (by simp [recorded, evaluated, hstatus])]
    rfl
  by_cases hretry : directive = .retry ∧ run.evaluationAttempts + 1 < 3
  · have hagain : directive = .retry ∧
        (evaluated outcome finding now run).evaluationAttempts < 3 := hretry
    simp only [hpass, if_false, if_pos hretry, if_pos hagain]
    rw [call_bind, transition_call, if_pos (by simp [recorded, evaluated, hstatus])]
    rfl
  · have hagain : ¬ (directive = .retry ∧
        (evaluated outcome finding now run).evaluationAttempts < 3) := hretry
    simp only [hpass, if_false, if_neg hretry, if_neg hagain]
    rw [call_bind, transition_call, if_pos (by simp [recorded, evaluated, hstatus])]
    rfl

end AnalysisRun

end Zentra
