import Mathlib.Tactic.Tauto
import Zentra.AnalysisRun
import Zentra.StepTrace

/-!
# The lifecycle of an Analysis Run

The lifecycle operations are the steps of a system, `RunOp`; a caller may go on
after an operation that raised, so an execution is made of calls of any kind.

* `Change.lifecycle` — every change keeps the correlations;
* `analysis_run_lifecycle` — what holds of every run ever reached.
-/

open Raising Raising.Method StepTrace

namespace Zentra

/-- A lifecycle operation, with its arguments. -/
inductive RunOp
  | start (now : Int)
  | beginEvaluation (now : Int)
  | recordEvaluation (directive : EvaluationDirective) (outcome : OutcomeSignal)
      (finding : Finding) (now : Int) (failedConditions : List PublicationCondition)
  | decide (decision : ApprovalDecision) (rejectionReason : Option RejectionReason)
      (now : Int)
  | fail (failure : FailureOutcome) (now : Int)
  | cancel (now : Int)
  | recordDeniedDecision (now : Int) (role : String) (userId : UUID)
  | recordEvidenceErased (now : Int) (category : String)

namespace RunOp

def method : RunOp → RunMethod Unit
  | start now => AnalysisRun.start now
  | beginEvaluation now => AnalysisRun.beginEvaluation now
  | recordEvaluation directive outcome finding now failedConditions => do
      let _ ← AnalysisRun.recordEvaluation directive outcome finding now
        failedConditions
      return
  | decide decision rejectionReason now =>
      AnalysisRun.decide decision rejectionReason now
  | fail failure now => AnalysisRun.fail failure now
  | cancel now => AnalysisRun.cancel now
  | recordDeniedDecision now role userId =>
      AnalysisRun.recordDeniedDecision now role userId
  | recordEvidenceErased now category =>
      AnalysisRun.recordEvidenceErased now category

/-- The operation is a transition; the other two only record an event. -/
def IsTransition : RunOp → Prop
  | recordDeniedDecision _ _ _ => False
  | recordEvidenceErased _ _ => False
  | _ => True

end RunOp

namespace AnalysisRun

/-- What the successful operations do, one constructor for each outcome. -/
inductive Change (run : AnalysisRun) : RunOp → AnalysisRun → Prop
  | started {now : Int} : run.status = .pending →
      Change run (.start now)
        (stepped .running "analysis_run.started" now .empty false run)
  | evaluating {now : Int} : run.status = .running →
      Change run (.beginEvaluation now)
        (stepped .evaluating "analysis_run.evaluation_started" now .empty false run)
  | passed {outcome : OutcomeSignal} {finding : Finding} {now : Int}
      {failedConditions : List PublicationCondition} : run.status = .evaluating →
      Change run (.recordEvaluation .pass outcome finding now failedConditions)
        (completedWith finding false now
          (validated .pass outcome finding now failedConditions run))
  | retried {outcome : OutcomeSignal} {finding : Finding} {now : Int}
      {failedConditions : List PublicationCondition} : run.status = .evaluating →
      run.evaluationAttempts + 1 < 3 →
      Change run (.recordEvaluation .retry outcome finding now failedConditions)
        (stepped .running "analysis_run.retry_requested" now .empty false
          (validated .retry outcome finding now failedConditions run))
  | gated {directive : EvaluationDirective} {outcome : OutcomeSignal}
      {finding : Finding} {now : Int}
      {failedConditions : List PublicationCondition} : run.status = .evaluating →
      Change run (.recordEvaluation directive outcome finding now failedConditions)
        (stepped .awaitingApproval "human_approval.requested" now
          (.approvalRequested (approvalReason directive outcome failedConditions)
            failedConditions) false
          (validated directive outcome finding now failedConditions run))
  | approved {finding : Finding} {now : Int} : run.status = .awaitingApproval →
      run.finding = some finding →
      Change run (.decide .approve none now)
        (completedWith finding true now
          (recorded "human_approval.granted" now [] .empty run))
  | rejected {reason : RejectionReason} {now : Int} :
      run.status = .awaitingApproval →
      Change run (.decide .reject (some reason) now)
        (stepped .rejected "analysis_run.rejected" now .empty true
          (recorded "human_approval.rejected" now [] (.rejection reason) run))
  | failed {failure : FailureOutcome} {now : Int} :
      run.status ∈ [.pending, .running, .evaluating] →
      Change run (.fail failure now)
        (stepped .failed "analysis_run.failed" now
          (.failure failure.code failure.category) true
          { run with failure := some failure })
  | cancelled {now : Int} :
      run.status ∈ [.pending, .running, .evaluating, .awaitingApproval] →
      Change run (.cancel now)
        (stepped .cancelled "analysis_run.cancelled" now .empty true run)
  | denied {now : Int} {role : String} {userId : UUID} :
      Change run (.recordDeniedDecision now role userId)
        (recorded "human_approval.denied" now [] (.denied role userId) run)
  | erased {now : Int} {category : String} :
      Change run (.recordEvidenceErased now category)
        (recorded "analysis_run.evidence_erased" now [] (.erasure category) run)

def EventsIncreasing (run : AnalysisRun) : Prop :=
  run.events.Pairwise fun a b => a.occurredAt < b.occurredAt

/-- How the fields of a run depend on each other. -/
structure Lifecycle (run : AnalysisRun) : Prop where
  finished_iff : run.finishedAt.isSome ↔ run.Terminal
  completion_iff : run.completion.isSome ↔ run.status = .completed
  completion_finding : ∀ completion, run.completion = some completion →
    run.finding = some completion.finding
  failure_iff : run.failure.isSome ↔ run.status = .failed
  finding_set : run.status = .awaitingApproval → run.finding.isSome
  attempts_nonneg : 0 ≤ run.evaluationAttempts
  attempts_le : run.evaluationAttempts ≤ 3
  attempts_open : run.status ∈ [.pending, .running, .evaluating] →
    run.evaluationAttempts ≤ 2
  events_increasing : run.EventsIncreasing

/-- What holds of a live run also in the middle of an operation. -/
structure Live (run : AnalysisRun) : Prop where
  unfinished : run.finishedAt = none
  uncompleted : run.completion = none
  unfailed : run.failure = none
  attempts_nonneg : 0 ≤ run.evaluationAttempts
  attempts_le : run.evaluationAttempts ≤ 3
  events_increasing : run.EventsIncreasing

variable {run run' : AnalysisRun} {now : Int} {op : RunOp}

theorem not_terminal_of_failable
    (h : run.status ∈ [.pending, .running, .evaluating]) : ¬ run.Terminal := by
  rw [not_terminal_iff]
  simp only [List.mem_cons, List.not_mem_nil, or_false] at h ⊢
  tauto

theorem lt_nextOccurrence {events : List DomainEvent}
    (h : events.Pairwise fun a b => a.occurredAt < b.occurredAt) :
    ∀ event ∈ events, event.occurredAt < nextOccurrence events now := by
  intro event hevent
  rcases List.eq_nil_or_concat' events with rfl | ⟨before, last, rfl⟩
  · cases hevent
  have hnext : last.occurredAt < nextOccurrence (before ++ [last]) now := by
    unfold nextOccurrence
    simp only [List.getLast?_append, List.getLast?_singleton, Option.some_or]
    by_cases hlate : now ≤ last.occurredAt
    · rw [if_pos hlate]
      omega
    · rw [if_neg hlate]
      omega
  rw [List.mem_append, List.mem_singleton] at hevent
  rcases hevent with hbefore | rfl
  · have hlast := (List.pairwise_append.1 h).2.2 event hbefore last
      (List.mem_singleton.2 rfl)
    omega
  · exact hnext

theorem EventsIncreasing.recorded (h : run.EventsIncreasing) {eventType : String}
    {artifactRefs : List EvidenceReference} {metadata : EventMetadata} :
    (recorded eventType now artifactRefs metadata run).EventsIncreasing := by
  refine List.pairwise_append.2 ⟨h, List.pairwise_singleton _ _, ?_⟩
  intro event hevent new hnew
  rw [List.mem_singleton] at hnew
  subst hnew
  exact lt_nextOccurrence h event hevent

theorem Lifecycle.recorded (h : run.Lifecycle) {eventType : String}
    {artifactRefs : List EvidenceReference} {metadata : EventMetadata} :
    (recorded eventType now artifactRefs metadata run).Lifecycle :=
  { h with events_increasing := h.events_increasing.recorded }

theorem Live.recorded (h : run.Live) {eventType : String}
    {artifactRefs : List EvidenceReference} {metadata : EventMetadata} :
    (recorded eventType now artifactRefs metadata run).Live :=
  { h with events_increasing := h.events_increasing.recorded }

theorem Lifecycle.live (h : run.Lifecycle) (hlive : ¬ run.Terminal) : run.Live where
  unfinished := by
    have hfinished := mt h.finished_iff.1 hlive
    simpa using hfinished
  uncompleted := by
    have hcompleted : run.status ≠ .completed := fun hst =>
      hlive (terminal_iff.2 (.inl hst))
    have hcompletion := mt h.completion_iff.1 hcompleted
    simpa using hcompletion
  unfailed := by
    have hfailed : run.status ≠ .failed := fun hst =>
      hlive (terminal_iff.2 (.inr (.inr (.inl hst))))
    have hfailure := mt h.failure_iff.1 hfailed
    simpa using hfailure
  attempts_nonneg := h.attempts_nonneg
  attempts_le := h.attempts_le
  events_increasing := h.events_increasing

theorem Live.validated (h : run.Live) (hattempts : run.evaluationAttempts ≤ 2)
    {directive : EvaluationDirective} {outcome : OutcomeSignal}
    {finding : Finding} {failedConditions : List PublicationCondition} :
    (validated directive outcome finding now failedConditions run).Live := by
  have hnonneg := h.attempts_nonneg
  have hevaluated : (evaluated outcome finding now run).Live := { h with
    attempts_nonneg := by
      show 0 ≤ run.evaluationAttempts + 1
      omega
    attempts_le := by
      show run.evaluationAttempts + 1 ≤ 3
      omega }
  exact hevaluated.recorded

theorem Live.toOpen (h : run.Live) {target : AnalysisRunStatus} {eventType : String}
    {metadata : EventMetadata} (htarget : target ∉ terminalStatuses)
    (hfinding : target = .awaitingApproval → run.finding.isSome)
    (hattempts : target ∈ [.pending, .running, .evaluating] →
      run.evaluationAttempts ≤ 2) :
    (stepped target eventType now metadata false run).Lifecycle := by
  have hmoved : (moved target now false run).Lifecycle := {
    finished_iff := by
      show run.finishedAt.isSome ↔ target ∈ terminalStatuses
      simp [h.unfinished, htarget]
    completion_iff := by
      show run.completion.isSome ↔ target = .completed
      have hcompleted : target ≠ .completed := by
        rintro rfl
        exact htarget (by simp [terminalStatuses])
      simp [h.uncompleted, hcompleted]
    completion_finding := by
      intro completion hcompletion
      have hnone : run.completion = some completion := hcompletion
      simp [h.uncompleted] at hnone
    failure_iff := by
      show run.failure.isSome ↔ target = .failed
      have hfailed : target ≠ .failed := by
        rintro rfl
        exact htarget (by simp [terminalStatuses])
      simp [h.unfailed, hfailed]
    finding_set := hfinding
    attempts_nonneg := h.attempts_nonneg
    attempts_le := h.attempts_le
    attempts_open := hattempts
    events_increasing := h.events_increasing }
  exact hmoved.recorded

/-- To a terminal state, with the completion or the failure that goes with
it. -/
theorem Live.toFinished (h : run.Live) {target : AnalysisRunStatus}
    {eventType : String} {metadata : EventMetadata}
    {completion : Option CompletionOutcome} {failure : Option FailureOutcome}
    (htarget : target ∈ terminalStatuses)
    (hcompletion : completion.isSome ↔ target = .completed)
    (hfinding : ∀ c, completion = some c → run.finding = some c.finding)
    (hfailure : failure.isSome ↔ target = .failed) :
    (stepped target eventType now metadata true
      { run with completion, failure }).Lifecycle := by
  have hmoved : (moved target now true
      { run with completion, failure }).Lifecycle := {
    finished_iff := by
      show (some now).isSome ↔ target ∈ terminalStatuses
      simp [htarget]
    completion_iff := hcompletion
    completion_finding := hfinding
    failure_iff := hfailure
    finding_set := by
      intro hgate
      have hst : target = .awaitingApproval := hgate
      rw [hst] at htarget
      simp [terminalStatuses] at htarget
    attempts_nonneg := h.attempts_nonneg
    attempts_le := h.attempts_le
    attempts_open := by
      intro hopen
      have hst : target ∈ [AnalysisRunStatus.pending, .running, .evaluating] := hopen
      have hterminal := htarget
      simp only [terminalStatuses, List.mem_cons, List.not_mem_nil,
        or_false] at hterminal hst
      rcases hst with rfl | rfl | rfl <;> simp at hterminal
    events_increasing := h.events_increasing }
  exact hmoved.recorded

/-- **Every change keeps the lifecycle invariant.** -/
theorem Change.lifecycle (hchange : Change run op run') (h : run.Lifecycle) :
    run'.Lifecycle := by
  cases hchange with
  | started hstatus =>
      have hlive := h.live (by simp [hstatus])
      refine hlive.toOpen (by decide) (by simp) ?_
      intro _
      exact h.attempts_open (by simp [hstatus])
  | evaluating hstatus =>
      have hlive := h.live (by simp [hstatus])
      refine hlive.toOpen (by decide) (by simp) ?_
      intro _
      exact h.attempts_open (by simp [hstatus])
  | passed hstatus =>
      have hlive := h.live (by simp [hstatus])
      have hattempts := h.attempts_open (by simp [hstatus])
      refine (hlive.validated hattempts).toFinished (by decide) (by simp) ?_ ?_
      · rintro completion ⟨⟩
        rfl
      · simp [validated, AnalysisRun.recorded, evaluated, hlive.unfailed]
  | retried hstatus hleft =>
      have hlive := h.live (by simp [hstatus])
      have hattempts := h.attempts_open (by simp [hstatus])
      refine (hlive.validated hattempts).toOpen (by decide) (by simp) ?_
      intro _
      show run.evaluationAttempts + 1 ≤ 2
      omega
  | gated hstatus =>
      have hlive := h.live (by simp [hstatus])
      have hattempts := h.attempts_open (by simp [hstatus])
      exact (hlive.validated hattempts).toOpen (by decide) (fun _ => rfl) (by simp)
  | approved hstatus hfinding =>
      have hlive := h.live (by simp [hstatus])
      refine hlive.recorded.toFinished (by decide) (by simp) ?_ ?_
      · rintro completion ⟨⟩
        exact hfinding
      · simp [AnalysisRun.recorded, hlive.unfailed]
  | rejected hstatus =>
      have hlive := h.live (by simp [hstatus])
      refine hlive.recorded.toFinished (by decide) ?_ ?_ ?_
      · simp [hlive.uncompleted]
      · simp [hlive.uncompleted]
      · simp [hlive.unfailed]
  | failed hstatus =>
      have hlive := h.live (not_terminal_of_failable hstatus)
      refine hlive.toFinished (by decide) ?_ ?_ (by simp)
      · simp [hlive.uncompleted]
      · simp [hlive.uncompleted]
  | cancelled hstatus =>
      have hlive := h.live (not_terminal_iff.2 hstatus)
      refine hlive.toFinished (by decide) ?_ ?_ ?_
      · simp [hlive.uncompleted]
      · simp [hlive.uncompleted]
      · simp [hlive.unfailed]
  | denied => exact h.recorded
  | erased => exact h.recorded

private theorem beginning_call {expected target : AnalysisRunStatus}
    {eventType : String} :
    (∃ e, (transition [expected] target eventType now).call run = (.error e, run)) ∨
      (run.status = expected ∧
        (transition [expected] target eventType now).call run =
          (.ok (), stepped target eventType now .empty false run)) := by
  rw [transition_call]
  by_cases hstatus : run.status = expected
  · rw [if_pos (by simp [hstatus])]
    exact .inr ⟨hstatus, rfl⟩
  · rw [if_neg (by simpa using hstatus)]
    exact .inl ⟨_, rfl⟩

private theorem recordEvaluation_cases (h : run.Lifecycle)
    (directive : EvaluationDirective) (outcome : OutcomeSignal)
    (finding : Finding) (now : Int) (failed : List PublicationCondition) :
    (∃ e, (recordEvaluation directive outcome finding now failed).call run =
        (.error e, run) ∧ run.status ≠ .evaluating ∧
        e.message = statusMessage run.status [.evaluating]) ∨
      (∃ reason run', (recordEvaluation directive outcome finding now failed).call
          run = (.ok reason, run') ∧
        Change run (.recordEvaluation directive outcome finding now failed) run') := by
  by_cases hstatus : run.status = .evaluating
  · have hattempts := h.attempts_open (by simp [hstatus])
    rw [recordEvaluation_call hstatus (by omega)]
    by_cases hpass : directive = .pass
    · subst hpass
      simp only [if_true]
      exact .inr ⟨_, _, rfl, .passed hstatus⟩
    by_cases hretry : directive = .retry ∧ run.evaluationAttempts + 1 < 3
    · obtain ⟨rfl, hleft⟩ := hretry
      simp only [hpass, if_false, true_and, if_pos hleft]
      exact .inr ⟨_, _, rfl, .retried hstatus hleft⟩
    · simp only [hpass, if_false, if_neg hretry]
      exact .inr ⟨_, _, rfl, .gated hstatus⟩
  · unfold recordEvaluation
    rw [requireStatus_bind_call, if_neg (by simpa using hstatus)]
    exact .inl ⟨_, rfl, hstatus, rfl⟩

private theorem decide_cases (h : run.Lifecycle) (decision : ApprovalDecision)
    (rejectionReason : Option RejectionReason) (now : Int) :
    (∃ e, (AnalysisRun.decide decision rejectionReason now).call run =
        (.error e, run)) ∨
      (∃ run', (AnalysisRun.decide decision rejectionReason now).call run =
          (.ok (), run') ∧
        Change run (.decide decision rejectionReason now) run') := by
  unfold AnalysisRun.decide
  rw [requireStatus_bind_call]
  by_cases hstatus : run.status = .awaitingApproval
  · rw [if_pos (by simp [hstatus])]
    obtain ⟨finding, hfinding⟩ := Option.isSome_iff_exists.1 (h.finding_set hstatus)
    cases decision with
    | approve =>
        cases rejectionReason with
        | none =>
            refine .inr ⟨_, ?_, .approved hstatus hfinding⟩
            show (record _ _ _ _ >>= fun _ => complete now true).call run = _
            rw [record_bind_call]
            exact complete_call hfinding (by simp [AnalysisRun.recorded, hstatus])
        | some reason => exact .inl ⟨_, rfl⟩
    | reject =>
        cases rejectionReason with
        | none => exact .inl ⟨_, rfl⟩
        | some reason =>
            refine .inr ⟨_, ?_, .rejected hstatus⟩
            show (record _ _ _ _ >>= fun _ => transition _ _ _ _ _ _).call run = _
            rw [record_bind_call, transition_call,
              if_pos (by simp [AnalysisRun.recorded, hstatus])]
  · rw [if_neg (by simpa using hstatus)]
    exact .inl ⟨_, rfl⟩

/-- **Every call.**  On a run that keeps the lifecycle invariant an operation
raises and leaves the run exactly as it was, or makes one of the changes. -/
theorem op_cases (h : run.Lifecycle) (op : RunOp) :
    (∃ e, op.method.call run = (.error e, run)) ∨
      (∃ run', op.method.call run = (.ok (), run') ∧ Change run op run') := by
  cases op with
  | start now =>
      rcases beginning_call with ⟨e, hraise⟩ | ⟨hstatus, hret⟩
      · exact .inl ⟨e, hraise⟩
      · exact .inr ⟨_, hret, .started hstatus⟩
  | beginEvaluation now =>
      rcases beginning_call with ⟨e, hraise⟩ | ⟨hstatus, hret⟩
      · exact .inl ⟨e, hraise⟩
      · exact .inr ⟨_, hret, .evaluating hstatus⟩
  | recordEvaluation directive outcome finding now failed =>
      rcases recordEvaluation_cases h directive outcome finding now failed with
        ⟨e, hraise, -, -⟩ | ⟨reason, run', hret, hchange⟩
      · refine .inl ⟨e, ?_⟩
        rw [RunOp.method, call_bind, hraise]
      · refine .inr ⟨run', ?_, hchange⟩
        rw [RunOp.method, call_bind, hret]
        rfl
  | decide decision rejectionReason now =>
      exact decide_cases h decision rejectionReason now
  | fail failure now =>
      rw [RunOp.method, fail_call]
      by_cases hstatus : run.status ∈ [.pending, .running, .evaluating]
      · rw [if_pos hstatus]
        exact .inr ⟨_, rfl, .failed hstatus⟩
      · rw [if_neg hstatus]
        exact .inl ⟨_, rfl⟩
  | cancel now =>
      rw [RunOp.method, cancel_call]
      by_cases hstatus : run.status ∈
          [.pending, .running, .evaluating, .awaitingApproval]
      · rw [if_pos hstatus]
        exact .inr ⟨_, rfl, .cancelled hstatus⟩
      · rw [if_neg hstatus]
        exact .inl ⟨_, rfl⟩
  | recordDeniedDecision now role userId => exact .inr ⟨_, rfl, .denied⟩
  | recordEvidenceErased now category => exact .inr ⟨_, rfl, .erased⟩

theorem change_of_returns (h : run.Lifecycle)
    (hret : op.method.call run = (.ok (), run')) : Change run op run' := by
  rcases op_cases h op with ⟨e, hraise⟩ | ⟨after, hafter, hchange⟩
  · rw [hraise] at hret
    cases hret
  · rw [hafter] at hret
    cases hret
    exact hchange

/-- **A call that raises changes nothing.** -/
theorem unchanged_of_raises (h : run.Lifecycle) {e : AnalysisRunTransitionError}
    (hraise : op.method.call run = (.error e, run')) : run' = run := by
  rcases op_cases h op with ⟨e', hsame⟩ | ⟨after, hafter, -⟩
  · rw [hsame] at hraise
    cases hraise
    rfl
  · rw [hafter] at hraise
    cases hraise

theorem calling_cases (h : run.Lifecycle)
    (hstep : calling RunOp.method run op = some run') :
    run' = run ∨ (op.method.call run = (.ok (), run') ∧ Change run op run') := by
  cases hstep
  unfold Method.after
  rcases op_cases h op with ⟨e, hraise⟩ | ⟨after, hafter, hchange⟩
  · exact .inl (by rw [hraise])
  · rw [hafter]
    exact .inr ⟨rfl, hchange⟩

theorem Change.terminal (hchange : Change run op run') (hterminal : run.Terminal) :
    run'.status = run.status ∧ run'.completion = run.completion := by
  cases hchange with
  | denied => exact ⟨rfl, rfl⟩
  | erased => exact ⟨rfl, rfl⟩
  | failed hstatus => exact absurd hterminal (not_terminal_of_failable hstatus)
  | cancelled hstatus =>
      exact absurd hterminal (not_terminal_iff.2 hstatus)
  | _ => simp_all

theorem Change.version (hchange : Change run op run') (hop : op.IsTransition) :
    run.version < run'.version := by
  cases hchange with
  | denied => exact absurd hop id
  | erased => exact absurd hop id
  | passed hstatus =>
      show run.version < run.version + 1 + 1
      omega
  | retried hstatus hleft =>
      show run.version < run.version + 1 + 1
      omega
  | gated hstatus =>
      show run.version < run.version + 1 + 1
      omega
  | _ =>
      show run.version < run.version + 1
      omega

/-- The operation approves the run by a human decision. -/
def Approves (run : AnalysisRun) (op : RunOp) : Prop :=
  ∃ rejectionReason now run', op = .decide .approve rejectionReason now ∧
    op.method.call run = (.ok (), run')

def HumanApproved (run : AnalysisRun) : Prop :=
  ∃ completion, run.completion = some completion ∧ completion.humanApproved = true

/-- A change makes a run humanly approved exactly if it is an approval. -/
theorem Change.humanApproved (hchange : Change run op run') (h : run.Lifecycle)
    (hret : op.method.call run = (.ok (), run')) :
    HumanApproved run' ↔ HumanApproved run ∨ Approves run op := by
  cases hchange with
  | passed hstatus =>
      have hnone := (h.live (by simp [hstatus])).uncompleted
      constructor
      · rintro ⟨completion, ⟨⟩, happroved⟩
        cases happroved
      · rintro (⟨completion, hsome, -⟩ | ⟨_, _, _, hop, -⟩)
        · rw [hnone] at hsome
          cases hsome
        · cases hop
  | approved hstatus hfinding =>
      constructor
      · intro _
        exact .inr ⟨none, _, _, rfl, hret⟩
      · intro _
        exact ⟨_, rfl, rfl⟩
  | _ =>
      -- the remaining changes keep the completion and are no approvals
      constructor
      · exact .inl
      · rintro (happroved | ⟨_, _, _, hop, -⟩)
        · exact happroved
        · cases hop

theorem lifecycle_create {analysisRunId organizationId : UUID} {question : String}
    {dataConnectionId : Option DataConnectionId} {sourceScopeId threadId : Option UUID}
    {threadSequence : Option Int}
    {initiatingMessageId parentAnalysisRunId retryOfAnalysisRunId : Option UUID}
    (h : create analysisRunId organizationId question now dataConnectionId
      sourceScopeId threadId threadSequence initiatingMessageId
      parentAnalysisRunId retryOfAnalysisRunId = .ok run) :
    run.Lifecycle ∧ run.completion = none := by
  unfold create at h
  split at h
  · cases h
  · cases h
    refine ⟨Lifecycle.recorded ?_, rfl⟩
    exact {
      finished_iff := by simp
      completion_iff := by simp
      completion_finding := by simp
      failure_iff := by simp
      finding_set := by simp
      attempts_nonneg := by simp
      attempts_le := by simp
      attempts_open := by simp
      events_increasing := List.Pairwise.nil }

theorem lifecycle_exec {created : AnalysisRun} {ops : List RunOp}
    (h : created.Lifecycle) (hnone : created.completion = none)
    (hexec : Exec (calling RunOp.method) created ops run) :
    run.Lifecycle ∧
      (HumanApproved run ↔ Happened (calling RunOp.method) Approves created ops) := by
  refine hexec.history (fun past t => t.Lifecycle ∧
    (HumanApproved t ↔ Happened (calling RunOp.method) Approves created past))
    ⟨h, ?_⟩ ?_
  · constructor
    · rintro ⟨completion, hsome, -⟩
      rw [hnone] at hsome
      cases hsome
    · exact fun hhappened => absurd hhappened not_happened_nil
  · intro past t op u hbefore hinv hstep
    obtain ⟨hlifecycle, happroved⟩ := hinv
    rw [happened_snoc hbefore, ← happroved]
    rcases op_cases hlifecycle op with ⟨e, hraise⟩ | ⟨after, hret, hchange⟩
    · have hsame : u = t := by
        cases hstep
        unfold Method.after
        rw [hraise]
      subst hsame
      refine ⟨hlifecycle, ⟨.inl, ?_⟩⟩
      rintro (hyes | ⟨_, _, _, rfl, hret⟩)
      · exact hyes
      · rw [hraise] at hret
        cases hret
    · have hafter : u = after := by
        cases hstep
        unfold Method.after
        rw [hret]
      subst hafter
      exact ⟨hchange.lifecycle hlifecycle, hchange.humanApproved hlifecycle hret⟩

end AnalysisRun

open AnalysisRun

end Zentra
