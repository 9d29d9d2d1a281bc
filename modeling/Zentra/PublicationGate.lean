import Zentra.AnalysisRun
import Zentra.DraftFinding

/-!
# The publication gate

What the application does with the result of a pipeline: it bounds the reported
confidence, settles the four facts of the publication policy, and records the
evaluation on the run.

* `mem_publicationDecision_failed` — the policy fails exactly the conditions
  that do not hold;
* `publication_gate` — a run completes without a human exactly if all four
  hold, and otherwise awaits approval with the failed ones on record.
-/

open Raising Raising.Method

namespace Zentra

/-- What the agent pipeline established for one run. -/
structure PipelineResult where
  finding : Finding
  outcome : OutcomeSignal
  converged : Bool
  contradictions : List String := []
  analystModel : Option String := none
  evaluatorModel : Option String := none
  analystSampleSize : Option Int := none
  evaluatorSampleSize : Option Int := none
  draftFinding : Option DraftFinding := none
  evidenceCitations : List EvidenceCitation := []
  deriving DecidableEq

inductive HumanApprovalStatus
  | pending
  | granted
  | rejected
  | timedOut
  deriving DecidableEq, Repr

/-- A request for a human's decision. -/
structure HumanApproval where
  approvalId : UUID
  analysisRunId : UUID
  organizationId : UUID
  reason : ApprovalReason
  status : HumanApprovalStatus
  requestedAt : Int
  failedConditions : List PublicationCondition := []
  decidedAt : Option Int := none
  decidedBy : Option UUID := none
  decisionReason : Option RejectionReason := none
  deriving DecidableEq, Repr

namespace PipelineResult

/-- `_sample_sizes_diverge`: both sizes are known and not zero, and the larger
exceeds twice the smaller. -/
def SampleSizesDiverge (result : PipelineResult) : Prop :=
  match result.analystSampleSize, result.evaluatorSampleSize with
  | some analyst, some evaluator =>
      analyst ≠ 0 ∧ evaluator ≠ 0 ∧
        max analyst evaluator > min analyst evaluator * 2
  | _, _ => False

instance : DecidablePred SampleSizesDiverge := fun result => by
  unfold SampleSizesDiverge
  split <;> infer_instance

/-- `_is_not_a_sampled_claim`: both agents reported the sentinel zero. -/
def NotASampledClaim (result : PipelineResult) : Prop :=
  result.analystSampleSize = some 0 ∧ result.evaluatorSampleSize = some 0

instance : DecidablePred NotASampledClaim :=
  fun _ => inferInstanceAs (Decidable (_ ∧ _))

def sampleSize (result : PipelineResult) : Option Int :=
  (([result.analystSampleSize, result.evaluatorSampleSize].filterMap id).filter
    fun size => size ≠ 0).min?

/-- `bounded_outcome`: the lowest of the reported score and its two ceilings,
with the calibration method that names it. -/
def boundedOutcome (result : PipelineResult) : OutcomeSignal :=
  match result.outcome with
  | .validation outcome => .validation outcome
  | .confidence outcome =>
      let independence := independenceOf result.analystModel result.evaluatorModel
      let ofSample :=
        if result.NotASampledClaim then unsampledBound
        else sampleBound result.sampleSize
      .confidence ((outcome.min independence.bound).min ofSample)

/-- The identifiers of the citations that can still be followed. -/
def resolvableIds (result : PipelineResult) : List UUID :=
  (result.evidenceCitations.filter fun citation =>
    citation.state = .active).map EvidenceCitation.citationId

/-- A claim cites something, and everything it cites can be followed. -/
def Resolves (result : PipelineResult) (claim : Claim) : Prop :=
  claim.citationIds ≠ [] ∧ ∀ id ∈ claim.citationIds, id ∈ result.resolvableIds

instance (result : PipelineResult) : DecidablePred result.Resolves :=
  fun _ => inferInstanceAs (Decidable (_ ∧ _))

/-- The claims of a draft that report measurements. -/
def substantiveClaims (draft : DraftFinding) : List Claim :=
  draft.claims.filter fun claim => claim.kind = .observed

/-- The facts that `_publication_decision` settles.  Without a draft there is
nothing to check, and the evidence does not apply. -/
def publicationFacts (result : PipelineResult) (outcome : OutcomeSignal)
    (threshold : ℚ) : PublicationFacts where
  converged := result.converged && !decide result.SampleSizesDiverge
  confidence := outcome.score?
  confidenceThreshold := threshold
  substantiveClaims :=
    match result.draftFinding with
    | none => 0
    | some draft => (substantiveClaims draft).length
  resolvableClaims :=
    match result.draftFinding with
    | none => 0
    | some draft => (substantiveClaims draft).countP fun claim =>
        decide (result.Resolves claim)
  unresolvedContradictions :=
    match result.draftFinding with
    | none => 0
    | some draft => draft.contradictions.countP fun c => !c.resolved
  evidenceApplicable :=
    result.draftFinding.isSome && !decide result.NotASampledClaim

def publicationDecision (result : PipelineResult) (outcome : OutcomeSignal)
    (threshold : ℚ) : PublicationDecision :=
  evaluatePublication (result.publicationFacts outcome threshold)

end PipelineResult

/-- Why an execution did not commit. -/
inductive ExecuteError
  | pipeline
  | transition (error : AnalysisRunTransitionError)
  | concurrentUpdate
  | persistence
  deriving DecidableEq, Repr

/-- The directive is a translation of what the policy decided. -/
def directiveFor (decision : PublicationDecision) : EvaluationDirective :=
  if decision.publishes then .pass else .escalate

/-- What `_execute` does to the run that it loaded. -/
def evaluate (directive : EvaluationDirective) (outcome : OutcomeSignal)
    (finding : Finding) (now : Int) (failedConditions : List PublicationCondition) :
    RunMethod (Option ApprovalReason) := do
  AnalysisRun.beginEvaluation now
  AnalysisRun.recordEvaluation directive outcome finding now failedConditions

/-- `AnalysisRunService._execute` from the pipeline on: `loaded` is the run as it
was read, `storedVersion` its version when it is saved, and `persisted` whether
the rest of the transaction (citations, draft, visualization, feed, outbox)
commits.  What is returned is the run as saved and the approval opened for
it. -/
def executeEvaluation (loaded : AnalysisRun) (storedVersion : Int) (threshold : ℚ)
    (pipeline : Except ExecuteError PipelineResult) (now : Int) (approvalId : UUID)
    (persisted : Bool) : Except ExecuteError (AnalysisRun × Option HumanApproval) :=
  match pipeline with
  | .error e => .error e
  | .ok result =>
      let expectedVersion := loaded.version
      let outcome := result.boundedOutcome
      let decision := result.publicationDecision outcome threshold
      match (evaluate (directiveFor decision) outcome result.finding now decision.failed).call
          loaded with
      | (.error e, _) => .error (.transition e)
      | (.ok approvalReason, run) =>
          let approval := approvalReason.map fun reason => {
            approvalId
            analysisRunId := run.analysisRunId
            organizationId := run.organizationId
            reason
            status := .pending
            requestedAt := now
            failedConditions := decision.failed }
          if storedVersion ≠ expectedVersion then .error .concurrentUpdate
          else if !persisted then .error .persistence
          else .ok (run, approval)

namespace PipelineResult

/-- **The four conditions**, in terms of the result and the threshold. -/
def Holds (result : PipelineResult) (threshold : ℚ) : PublicationCondition → Prop
  | .converged => result.converged = true ∧ ¬ result.SampleSizesDiverge
  | .confident => ∃ score, result.boundedOutcome.score? = some score ∧
      threshold ≤ score
  | .evidenced => ∀ draft, result.draftFinding = some draft →
      result.NotASampledClaim ∨
        ((∃ claim ∈ draft.claims, claim.kind = .observed) ∧
          ∀ claim ∈ draft.claims, claim.kind = .observed →
            claim.citationIds ≠ [] ∧ ∀ id ∈ claim.citationIds,
              ∃ citation ∈ result.evidenceCitations,
                citation.citationId = id ∧ citation.state = .active)
  | .uncontradicted => ∀ draft, result.draftFinding = some draft →
      ∀ contradiction ∈ draft.contradictions, contradiction.resolved = true

variable {result : PipelineResult} {threshold : ℚ}

theorem mem_resolvableIds {id : UUID} :
    id ∈ result.resolvableIds ↔ ∃ citation ∈ result.evidenceCitations,
      citation.citationId = id ∧ citation.state = .active := by
  unfold resolvableIds
  simp only [List.mem_map, List.mem_filter, decide_eq_true_eq]
  constructor
  · rintro ⟨citation, ⟨hmem, hstate⟩, hid⟩
    exact ⟨citation, hmem, hid, hstate⟩
  · rintro ⟨citation, hmem, hid, hstate⟩
    exact ⟨citation, ⟨hmem, hstate⟩, hid⟩

theorem substantiveClaims_ne_zero_iff (draft : DraftFinding) :
    (substantiveClaims draft).length ≠ 0 ↔
      ∃ claim ∈ draft.claims, claim.kind = .observed := by
  unfold substantiveClaims
  rw [Ne, List.length_eq_zero_iff, List.filter_eq_nil_iff]
  simp

/-- As many substantive claims resolve as there are exactly if all do. -/
theorem substantiveClaims_le_resolvable_iff (result : PipelineResult)
    (draft : DraftFinding) :
    (substantiveClaims draft).length ≤ (substantiveClaims draft).countP
        (fun claim => decide (result.Resolves claim)) ↔
      ∀ claim ∈ draft.claims, claim.kind = .observed → result.Resolves claim := by
  have hmem : ∀ claim, claim ∈ substantiveClaims draft ↔
      claim ∈ draft.claims ∧ claim.kind = .observed := by
    intro claim
    simp [substantiveClaims]
  constructor
  · intro hle claim hclaim hobserved
    have hequal := le_antisymm List.countP_le_length hle
    have hresolves := List.countP_eq_length.1 hequal claim
      ((hmem claim).2 ⟨hclaim, hobserved⟩)
    simpa using hresolves
  · intro hresolves
    refine le_of_eq (List.countP_eq_length.2 ?_).symm
    intro claim hclaim
    obtain ⟨hdraft, hobserved⟩ := (hmem claim).1 hclaim
    simpa using hresolves claim hdraft hobserved

theorem evidenced_iff (outcome : OutcomeSignal) :
    (result.publicationFacts outcome threshold).Evidenced ↔
      result.Holds threshold .evidenced := by
  unfold PublicationFacts.Evidenced Holds publicationFacts
  cases result.draftFinding with
  | none => simp
  | some draft =>
      by_cases hsampled : result.NotASampledClaim
      · simp [hsampled]
      · have hsome := substantiveClaims_ne_zero_iff draft
        have hall := substantiveClaims_le_resolvable_iff result draft
        simp only [Option.isSome_some, hsampled, decide_false, Bool.not_false,
          Bool.and_self, true_implies, hsome, hall, Option.some.injEq,
          forall_eq', false_or]
        simp only [Resolves, mem_resolvableIds]

theorem uncontradicted_iff (outcome : OutcomeSignal) :
    (result.publicationFacts outcome threshold).unresolvedContradictions = 0 ↔
      result.Holds threshold .uncontradicted := by
  unfold Holds publicationFacts
  cases result.draftFinding with
  | none => simp
  | some draft => simp [List.countP_eq_zero]

/-- **The policy fails exactly the conditions that do not hold.** -/
theorem mem_publicationDecision_failed (condition : PublicationCondition) :
    condition ∈ (result.publicationDecision result.boundedOutcome threshold).failed ↔
      ¬ result.Holds threshold condition := by
  unfold publicationDecision
  rw [mem_failed_iff]
  cases condition with
  | converged =>
      show (result.converged && !decide result.SampleSizesDiverge) = false ↔ _
      unfold Holds
      cases result.converged <;> simp
  | confident =>
      show ¬ (∃ score ∈ result.boundedOutcome.score?, threshold ≤ score) ↔ _
      rfl
  | evidenced => exact not_congr (evidenced_iff _)
  | uncontradicted =>
      rw [← uncontradicted_iff result.boundedOutcome]
      exact Nat.pos_iff_ne_zero

theorem publishes_iff_holds :
    (result.publicationDecision result.boundedOutcome threshold).publishes = true ↔
      ∀ condition, result.Holds threshold condition := by
  unfold PublicationDecision.publishes
  rw [List.isEmpty_iff, List.eq_nil_iff_forall_not_mem]
  constructor
  · intro hnone condition
    by_contra hfails
    exact hnone condition ((mem_publicationDecision_failed condition).2 hfails)
  · intro hholds condition hfailed
    exact (mem_publicationDecision_failed condition).1 hfailed (hholds condition)

end PipelineResult

section Evaluate

variable {run after : AnalysisRun} {directive : EvaluationDirective}
  {outcome : OutcomeSignal} {finding : Finding} {now : Int}
  {failed : List PublicationCondition} {reason : Option ApprovalReason}

theorem evaluate_of_running (hrunning : run.status = .running)
    (hattempts : run.evaluationAttempts < 3) :
    ∃ reason after, (evaluate directive outcome finding now failed).call run =
      (.ok reason, after) := by
  let begun := AnalysisRun.stepped .evaluating "analysis_run.evaluation_started" now
    .empty false run
  have hstatus : begun.status = .evaluating := rfl
  have hleft : begun.evaluationAttempts < 3 := hattempts
  unfold evaluate
  rw [call_bind, AnalysisRun.beginEvaluation, AnalysisRun.transition_call,
    if_pos (by simp [hrunning])]
  show ∃ reason after, (AnalysisRun.recordEvaluation _ _ _ _ _).call begun =
    (.ok reason, after)
  simp only [AnalysisRun.recordEvaluation_call hstatus hleft]
  split
  · exact ⟨_, _, rfl⟩
  · split
    · exact ⟨_, _, rfl⟩
    · exact ⟨_, _, rfl⟩

/-- Only such a run can be evaluated.  If it passes it is completed without a
human, and if it escalates it awaits approval. -/
theorem evaluate_returns (hdirective : directive ≠ .retry)
    (h : (evaluate directive outcome finding now failed).call run =
      (.ok reason, after)) :
    run.status = .running ∧ run.evaluationAttempts < 3 ∧
      ((directive = .pass ∧ reason = none ∧ after.status = .completed ∧
          after.completion = some ⟨finding, false⟩) ∨
        (directive ≠ .pass ∧ reason = some
            (AnalysisRun.approvalReason directive outcome failed) ∧
          after.status = .awaitingApproval)) := by
  unfold evaluate at h
  rw [call_bind, AnalysisRun.beginEvaluation, AnalysisRun.transition_call] at h
  by_cases hrunning : run.status ∈ [.running]
  · rw [if_pos hrunning] at h
    obtain ⟨hstatus, hattempts⟩ := AnalysisRun.recordEvaluation_returns h
    refine ⟨by simpa using hrunning, hattempts, ?_⟩
    simp only [AnalysisRun.recordEvaluation_call hstatus hattempts] at h
    by_cases hpass : directive = .pass
    · rw [if_pos hpass] at h
      cases h
      exact .inl ⟨hpass, rfl, rfl, rfl⟩
    · rw [if_neg hpass, if_neg (fun hretry => hdirective hretry.1)] at h
      cases h
      exact .inr ⟨hpass, rfl, rfl⟩
  · rw [if_neg hrunning] at h
    cases h

end Evaluate

namespace AnalysisRun

/-- A later version of the same run. -/
def Advances (run run' : AnalysisRun) : Prop :=
  run'.analysisRunId = run.analysisRunId ∧
    run'.organizationId = run.organizationId ∧ run.version < run'.version

variable {run run' : AnalysisRun} {now : Int}

theorem fail_returns {failure : FailureOutcome}
    (h : (fail failure now).call run = (.ok (), run')) :
    run.status ∈ [.pending, .running, .evaluating] ∧ run'.status = .failed ∧
      run.Advances run' := by
  rw [fail_call] at h
  split at h
  · rename_i hstatus
    cases h
    exact ⟨hstatus, rfl, rfl, rfl, by show run.version < run.version + 1; omega⟩
  · cases h

theorem cancel_returns (h : (cancel now).call run = (.ok (), run')) :
    run'.status = .cancelled ∧ run.Advances run' := by
  rw [cancel_call] at h
  split at h
  · cases h
    exact ⟨rfl, rfl, rfl, by show run.version < run.version + 1; omega⟩
  · cases h

theorem decide_returns {decision : ApprovalDecision}
    {rejectionReason : Option RejectionReason}
    (h : (AnalysisRun.decide decision rejectionReason now).call run = (.ok (), run')) :
    run.status = .awaitingApproval ∧ run.Advances run' ∧
      (run'.status = .completed ∨ (run'.status = .rejected ∧ decision ≠ .approve)) := by
  unfold AnalysisRun.decide requireStatus at h
  rw [raiseIf_bind_returns] at h
  obtain ⟨hstatus, h⟩ := h
  have hawaiting : run.status = .awaitingApproval := by simpa using hstatus
  refine ⟨hawaiting, ?_⟩
  split at h
  · cases h
  · cases h
  · rw [record_bind_call] at h
    cases hfinding : run.finding with
    | none =>
        unfold complete at h
        rw [call_self_bind] at h
        simp [recorded, hfinding] at h
    | some finding =>
        have hgranted : (recorded "human_approval.granted" now [] .empty
            run).finding = some finding := hfinding
        rw [complete_call hgranted (by simp [recorded, hawaiting])] at h
        cases h
        exact ⟨⟨rfl, rfl, by show run.version < run.version + 1; omega⟩, .inl rfl⟩
  · rw [record_bind_call, transition_call, if_pos (by simp [recorded, hawaiting])] at h
    cases h
    exact ⟨⟨rfl, rfl, by show run.version < run.version + 1; omega⟩,
      .inr ⟨rfl, by simp⟩⟩

theorem evaluate_advances {directive : EvaluationDirective} {outcome : OutcomeSignal}
    {finding : Finding} {failed : List PublicationCondition}
    {reason : Option ApprovalReason}
    (h : (evaluate directive outcome finding now failed).call run = (.ok reason, run')) :
    run.Advances run' := by
  unfold evaluate at h
  rw [call_bind, beginEvaluation, transition_call] at h
  split at h
  · rename_i hcall
    split at hcall
    · cases hcall
      obtain ⟨hstatus, hattempts⟩ := recordEvaluation_returns h
      simp only [recordEvaluation_call hstatus hattempts] at h
      split at h
      · cases h
        exact ⟨rfl, rfl, by show run.version < run.version + 1 + 1 + 1; omega⟩
      · split at h
        · cases h
          exact ⟨rfl, rfl, by show run.version < run.version + 1 + 1 + 1; omega⟩
        · cases h
          exact ⟨rfl, rfl, by show run.version < run.version + 1 + 1 + 1; omega⟩
    · cases hcall
  · cases h

end AnalysisRun

open PipelineResult

section Execute

variable {loaded saved : AnalysisRun} {storedVersion : Int} {threshold : ℚ}
  {result : PipelineResult} {now : Int} {approvalId : UUID} {persisted : Bool}
  {approval : Option HumanApproval}

theorem directiveFor_ne_retry (decision : PublicationDecision) :
    directiveFor decision ≠ .retry := by
  unfold directiveFor
  split <;> decide

/-- What `_execute` saves is the evaluated run, with an approval exactly if the
evaluation gave a reason for one; and nobody else saved the run meanwhile. -/
theorem executeEvaluation_ok
    (h : executeEvaluation loaded storedVersion threshold (.ok result) now approvalId
      persisted = .ok (saved, approval)) :
    let decision := result.publicationDecision result.boundedOutcome threshold
    storedVersion = loaded.version ∧ persisted = true ∧ ∃ reason,
      (evaluate (directiveFor decision) result.boundedOutcome result.finding now
        decision.failed).call loaded = (.ok reason, saved) ∧
      (reason = none ↔ approval = none) ∧
      ∀ opened, approval = some opened → opened.failedConditions = decision.failed := by
  unfold executeEvaluation at h
  simp only at h
  intro decision
  split at h
  · cases h
  · rename_i reason run hcall
    split at h
    · cases h
    · rename_i hversion
      split at h
      · cases h
      · rename_i hpersisted
        cases h
        refine ⟨not_not.1 hversion, by simpa using hpersisted, reason, hcall,
          by simp, ?_⟩
        intro opened hopened
        cases reason with
        | none => cases hopened
        | some reason =>
            cases hopened
            rfl

/-- **When `_execute` commits**, given a result of the pipeline: the run was
running with an attempt left, nobody saved it meanwhile, and the rest of the
transaction went through. -/
theorem executeEvaluation_commits_iff :
    (∃ outcome, executeEvaluation loaded storedVersion threshold (.ok result) now
        approvalId persisted = .ok outcome) ↔
      loaded.status = .running ∧ loaded.evaluationAttempts < 3 ∧
        storedVersion = loaded.version ∧ persisted = true := by
  constructor
  · rintro ⟨⟨saved, approval⟩, h⟩
    obtain ⟨hversion, hpersisted, reason, hcall, -⟩ := executeEvaluation_ok h
    obtain ⟨hrunning, hattempts, -⟩ :=
      evaluate_returns (directiveFor_ne_retry _) hcall
    exact ⟨hrunning, hattempts, hversion, hpersisted⟩
  · rintro ⟨hrunning, hattempts, rfl, rfl⟩
    obtain ⟨reason, after, hcall⟩ := @evaluate_of_running loaded
      (directiveFor (result.publicationDecision result.boundedOutcome threshold))
      result.boundedOutcome result.finding now
      (result.publicationDecision result.boundedOutcome threshold).failed
      hrunning hattempts
    unfold executeEvaluation
    simp [hcall]

/-- Whenever `_execute` commits, the run is completed if all conditions hold, and
gated with the policy's list of failures if not. -/
theorem executeEvaluation_cases
    (h : executeEvaluation loaded storedVersion threshold (.ok result) now approvalId
      persisted = .ok (saved, approval)) :
    ((∀ condition, result.Holds threshold condition) ∧ saved.status = .completed ∧
        saved.completion = some ⟨result.finding, false⟩ ∧ approval = none) ∨
      ((¬ ∀ condition, result.Holds threshold condition) ∧
        saved.status = .awaitingApproval ∧
        ∃ opened, approval = some opened ∧ opened.failedConditions =
          (result.publicationDecision result.boundedOutcome threshold).failed) := by
  obtain ⟨-, -, reason, hcall, hreason, hfailed⟩ := executeEvaluation_ok h
  obtain ⟨-, -, hcases⟩ := evaluate_returns (directiveFor_ne_retry _) hcall
  unfold directiveFor at hcases
  rcases hcases with ⟨hpass, hnone, hstatus, hcompletion⟩ | ⟨hfail, hsome, hstatus⟩
  · left
    have hpublishes : (result.publicationDecision result.boundedOutcome
        threshold).publishes = true := by
      by_contra hnot
      rw [if_neg hnot] at hpass
      cases hpass
    exact ⟨publishes_iff_holds.1 hpublishes, hstatus, hcompletion, hreason.1 hnone⟩
  · right
    refine ⟨?_, hstatus, ?_⟩
    · intro hholds
      rw [if_pos (publishes_iff_holds.2 hholds)] at hfail
      exact hfail rfl
    · cases approval with
      | none =>
          rw [hreason.2 rfl] at hsome
          cases hsome
      | some opened => exact ⟨opened, rfl, hfailed opened rfl⟩

end Execute

/-- **The publication gate.**  Whenever `_execute` commits, the run is completed
without a human's approval exactly if all four conditions hold of the result;
otherwise it awaits approval, and the failed conditions put on the approval are
exactly those that do not hold. -/
theorem publication_gate {loaded saved : AnalysisRun} {storedVersion : Int}
    {threshold : ℚ} {result : PipelineResult} {now : Int} {approvalId : UUID}
    {persisted : Bool} {approval : Option HumanApproval}
    (h : executeEvaluation loaded storedVersion threshold (.ok result) now approvalId
      persisted = .ok (saved, approval)) :
    ((∀ condition, result.Holds threshold condition) ∧ saved.status = .completed ∧
        saved.completion = some ⟨result.finding, false⟩ ∧ approval = none) ∨
      ((∃ condition, ¬ result.Holds threshold condition) ∧
        saved.status = .awaitingApproval ∧
        ∃ opened, approval = some opened ∧ ∀ condition,
          condition ∈ opened.failedConditions ↔
            ¬ result.Holds threshold condition) := by
  rcases executeEvaluation_cases h with
    hcompleted | ⟨hnot, hstatus, opened, hopened, hfailed⟩
  · exact .inl hcompleted
  · refine .inr ⟨not_forall.1 hnot, hstatus, opened, hopened, ?_⟩
    intro condition
    rw [hfailed]
    exact mem_publicationDecision_failed condition

/-- A confident, converged result with a cited claim passes the gate. -/
theorem publication_gate_published :
    ∃ loaded result saved approval,
      executeEvaluation loaded 3 (7 / 10) (.ok result) 10 1 true =
        .ok (saved, approval) ∧
      (∀ condition, result.Holds (7 / 10) condition) ∧ saved.status = .completed := by
  let loaded : AnalysisRun :=
    ⟨1, 2, "Why did revenue fall?", .running, 3, 0, 0, 0, none, none, none, none, none,
      none, none, none, none, none, none, none, none, []⟩
  let claim : Claim :=
    ⟨4, .observed, "Revenue fell.", 0, some "revenue", some "90", some "2024-06", [5]⟩
  let draft : DraftFinding :=
    ⟨3, 2, 1, 1, 9, none, "headline", "summary", [claim], [], .unresolved, none,
      by decide, by decide, by decide⟩
  let citation : EvidenceCitation :=
    ⟨5, 2, 1, "revenue", [], some "2024-06", none, none, "90", none, .active⟩
  let result : PipelineResult := {
    finding := ⟨"headline", "summary", [], []⟩
    outcome := .confidence { score := 9 / 10, calibrationMethod := "reported" }
    converged := true
    analystModel := some "openai/gpt-5"
    evaluatorModel := some "anthropic/claude"
    analystSampleSize := some 120
    evaluatorSampleSize := some 130
    draftFinding := some draft
    evidenceCitations := [citation] }
  have hcompleted : (match executeEvaluation loaded 3 (7 / 10) (.ok result) 10 1 true with
      | .ok (saved, _) => decide (saved.status = .completed)
      | .error _ => false) = true := by decide +kernel
  refine ⟨loaded, result, ?_⟩
  rcases hexecute : executeEvaluation loaded 3 (7 / 10) (.ok result) 10 1 true with
    _ | ⟨saved, approval⟩
  · rw [hexecute] at hcompleted
    cases hcompleted
  · rw [hexecute] at hcompleted
    refine ⟨saved, approval, rfl, ?_⟩
    rcases publication_gate hexecute with ⟨hholds, hstatus, -⟩ | ⟨-, hgated, -⟩
    · exact ⟨hholds, hstatus⟩
    · simp [hgated] at hcompleted

end Zentra
