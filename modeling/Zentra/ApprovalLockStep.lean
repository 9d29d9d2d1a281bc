import Zentra.ApprovalDecision

/-!
# Approvals and runs in lock step

A decision is made on the approval and applied to the run; an evaluation opens the
approval of the run that it gates.  `LockStep` relates the two tables and the copies
of runs that the executors hold, and every transaction keeps it.

* `LockStep.evaluated`, `LockStep.ended`, `LockStep.decided` — what each transaction
  keeps;
* `approval_lock_step` — the approval and its run move together, a repeated decision
  changes nothing, and a conflicting one is refused.
-/

open Raising Raising.Method StepTrace

namespace Zentra

namespace AnalysisRun

variable {run run' after : AnalysisRun} {now : Int} {op : RunOp}

theorem Change.same_run (hchange : Change run op run') :
    run'.analysisRunId = run.analysisRunId ∧
      run'.organizationId = run.organizationId := by
  cases hchange <;> exact ⟨rfl, rfl⟩

/-- An evaluation, with what it opens: a run that passes or is sent back has no
approval, and a run that is gated has one. -/
theorem evaluate_changes {directive : EvaluationDirective} {outcome : OutcomeSignal}
    {finding : Finding} {failed : List PublicationCondition}
    {reason : Option ApprovalReason} (h : run.Lifecycle)
    (hret : (evaluate directive outcome finding now failed).call run =
      (.ok reason, after)) :
    run.status = .running ∧ after.Lifecycle ∧
      after.analysisRunId = run.analysisRunId ∧
      after.organizationId = run.organizationId ∧ run.version < after.version ∧
      ¬ HumanApproved after ∧
      ((reason = none ∧ (after.status = .completed ∨ after.status = .running)) ∨
        (reason.isSome ∧ after.status = .awaitingApproval)) := by
  unfold evaluate at hret
  rw [call_bind, beginEvaluation, transition_call] at hret
  by_cases hrunning : run.status ∈ [.running]
  swap
  · rw [if_neg hrunning] at hret
    cases hret
  have hstatus : run.status = .running := by simpa using hrunning
  rw [if_pos hrunning] at hret
  have hbegun : Change run (.beginEvaluation now)
      (stepped .evaluating "analysis_run.evaluation_started" now .empty false run) :=
    .evaluating hstatus
  generalize hbegin : stepped .evaluating "analysis_run.evaluation_started" now .empty
    false run = begun at hret hbegun
  have hlifecycle := hbegun.lifecycle h
  have hevaluating : begun.status = .evaluating := by rw [← hbegin]; rfl
  have hversion : run.version < begun.version := hbegun.version trivial
  have hlive := hlifecycle.live (by simp [hevaluating])
  replace hret : (recordEvaluation directive outcome finding now failed).call begun =
    (.ok reason, after) := hret
  have hleft := (recordEvaluation_returns hret).2
  rw [recordEvaluation_call hevaluating hleft] at hret
  -- each outcome is one of the changes of the lifecycle
  have key : Change begun (.recordEvaluation directive outcome finding now failed) after ∧
      ¬ HumanApproved after ∧
      ((reason = none ∧ (after.status = .completed ∨ after.status = .running)) ∨
        (reason.isSome ∧ after.status = .awaitingApproval)) := by
    by_cases hpass : directive = .pass
    · simp only [if_pos hpass, Prod.mk.injEq, Except.ok.injEq] at hret
      obtain ⟨rfl, rfl⟩ := hret
      subst hpass
      refine ⟨.passed hevaluating, ?_, .inl ⟨rfl, .inl rfl⟩⟩
      rintro ⟨completion, ⟨⟩, happroved⟩
      cases happroved
    by_cases hretry : directive = .retry ∧ begun.evaluationAttempts + 1 < 3
    · simp only [if_neg hpass, if_pos hretry, Prod.mk.injEq, Except.ok.injEq] at hret
      obtain ⟨rfl, rfl⟩ := hret
      obtain ⟨rfl, hagain⟩ := hretry
      refine ⟨.retried hevaluating hagain, ?_, .inl ⟨rfl, .inr rfl⟩⟩
      rintro ⟨completion, hsome, -⟩
      have hnone : begun.completion = some completion := hsome
      rw [hlive.uncompleted] at hnone
      cases hnone
    · simp only [if_neg hpass, if_neg hretry, Prod.mk.injEq, Except.ok.injEq] at hret
      obtain ⟨rfl, rfl⟩ := hret
      refine ⟨.gated hevaluating, ?_, .inr ⟨rfl, rfl⟩⟩
      rintro ⟨completion, hsome, -⟩
      have hnone : begun.completion = some completion := hsome
      rw [hlive.uncompleted] at hnone
      cases hnone
  obtain ⟨hchange, hhuman, hreason⟩ := key
  have hlater : begun.version < after.version := hchange.version trivial
  exact ⟨hstatus, hchange.lifecycle hlifecycle,
    hchange.same_run.1.trans hbegun.same_run.1,
    hchange.same_run.2.trans hbegun.same_run.2, by omega, hhuman, hreason⟩

theorem Lifecycle.completed_of_humanApproved (h : run.Lifecycle)
    (happroved : HumanApproved run) : run.status = .completed := by
  obtain ⟨completion, hsome, -⟩ := happroved
  rw [← h.completion_iff, hsome]
  rfl

theorem Lifecycle.withoutEvents (h : run.Lifecycle) :
    { run with events := [] }.Lifecycle :=
  { h with events_increasing := List.Pairwise.nil }

end AnalysisRun

namespace ApprovalStore

open AnalysisRun

/-- What an approval and its run say about each other. -/
structure Agrees (approval : HumanApproval) (run : AnalysisRun) : Prop where
  organization : run.organizationId = approval.organizationId
  granted : approval.status = .granted ↔ HumanApproved run
  rejected : approval.status = .rejected ↔ run.status = .rejected
  pending : approval.status = .pending ↔
    run.status = .awaitingApproval ∨ run.status = .cancelled
  not_timedOut : approval.status ≠ .timedOut

/-- The run has been gated: it waits for a decision, or was decided. -/
def Gated (run : AnalysisRun) : Prop :=
  run.status = .awaitingApproval ∨ run.status = .rejected ∨ HumanApproved run

/-- **The two tables move together.** -/
structure LockStep (s : ApprovalStore) : Prop where
  run_key : ∀ id run, s.runs id = some run → run.analysisRunId = id
  approval_key : ∀ id approval, s.approvals id = some approval →
    approval.approvalId = id
  lifecycle : ∀ id run, s.runs id = some run → run.Lifecycle
  approval_run : ∀ id approval, s.approvals id = some approval →
    ∃ run, s.runs approval.analysisRunId = some run ∧ Agrees approval run
  one_approval : ∀ i j a b, s.approvals i = some a → s.approvals j = some b →
    a.analysisRunId = b.analysisRunId → i = j
  gated : ∀ id run, s.runs id = some run → Gated run →
    ∃ i approval, s.approvals i = some approval ∧ approval.analysisRunId = id
  executing_ok : ∀ e loaded, s.executing e = some loaded → ∃ current,
    s.runs loaded.analysisRunId = some current ∧ loaded.version ≤ current.version ∧
      (current.version = loaded.version → current = loaded)

variable {s t : ApprovalStore} {run current : AnalysisRun} {approval : HumanApproval}

theorem runs_setRun {id : UUID} :
    (s.setRun run).runs id =
      if id = run.analysisRunId then some { run with events := [] } else s.runs id :=
  Function.update_apply ..

theorem approvals_setApproval {id : UUID} :
    (s.setApproval approval).approvals id =
      if id = approval.approvalId then some approval else s.approvals id :=
  Function.update_apply ..

theorem executing_setExecuting {e e' : Nat} {loaded : Option AnalysisRun} :
    (s.setExecuting e loaded).executing e' = if e' = e then loaded else s.executing e' :=
  Function.update_apply ..

theorem getRun_eq_some {organizationId analysisRunId : UUID} :
    s.getRun organizationId analysisRunId = some run ↔
      s.runs analysisRunId = some run ∧ run.organizationId = organizationId := by
  unfold getRun
  rw [Option.filter_eq_some_iff]
  simp

theorem getApproval_eq_some {organizationId analysisRunId approvalId : UUID} :
    s.getApproval organizationId analysisRunId approvalId = some approval ↔
      s.approvals approvalId = some approval ∧
        approval.analysisRunId = analysisRunId ∧
        approval.organizationId = organizationId := by
  unfold getApproval
  rw [Option.filter_eq_some_iff]
  simp

theorem lockStep_empty : empty.LockStep where
  run_key := by intro id run h; cases h
  approval_key := by intro id approval h; cases h
  lifecycle := by intro id run h; cases h
  approval_run := by intro id approval h; cases h
  one_approval := by intro i j a b h; cases h
  gated := by intro id run h; cases h
  executing_ok := by intro e loaded h; cases h

theorem LockStep.no_approval (h : s.LockStep) {id : UUID} (hrun : s.runs id = some run)
    (hopen : run.status ∈ [.pending, .running, .evaluating]) :
    ∀ i approval, s.approvals i = some approval → approval.analysisRunId ≠ id := by
  rintro i approval happroval rfl
  obtain ⟨found, hfound, hagrees⟩ := h.approval_run i approval happroval
  rw [hrun] at hfound
  cases hfound
  have hnot : ¬ HumanApproved run := by
    intro happroved
    rw [(h.lifecycle _ _ hrun).completed_of_humanApproved happroved] at hopen
    simp at hopen
  cases hstatus : approval.status with
  | pending =>
      rcases hagrees.pending.1 hstatus with hst | hst <;> simp [hst] at hopen
  | granted => exact hnot (hagrees.granted.1 hstatus)
  | rejected =>
      have hst := hagrees.rejected.1 hstatus
      simp [hst] at hopen
  | timedOut => exact hagrees.not_timedOut hstatus

/-- An approval whose run moves on without a decision still agrees with it. -/
theorem Agrees.unchanged {run' : AnalysisRun} (h : Agrees approval run)
    (horganization : run'.organizationId = run.organizationId)
    (hhuman : HumanApproved run' ↔ HumanApproved run)
    (hrejected : run'.status = .rejected ↔ run.status = .rejected)
    (hpending : (run'.status = .awaitingApproval ∨ run'.status = .cancelled) ↔
      (run.status = .awaitingApproval ∨ run.status = .cancelled)) :
    Agrees approval run' where
  organization := horganization.trans h.organization
  granted := h.granted.trans hhuman.symm
  rejected := h.rejected.trans hrejected.symm
  pending := h.pending.trans hpending.symm
  not_timedOut := h.not_timedOut

/-- **Frame rule.**  A later version of a run is saved, and the approvals of other
runs stay as they are. -/
theorem LockStep.advance (h : s.LockStep)
    (hcurrent : s.runs run.analysisRunId = some current)
    (hversion : current.version < run.version) (hlifecycle : run.Lifecycle)
    (hruns : t.runs = (s.setRun run).runs) (hexecuting : t.executing = s.executing)
    (hkey : ∀ id a, t.approvals id = some a → a.approvalId = id)
    (hothers : ∀ id a, a.analysisRunId ≠ run.analysisRunId →
      (t.approvals id = some a ↔ s.approvals id = some a))
    (hagrees : ∀ id a, t.approvals id = some a →
      a.analysisRunId = run.analysisRunId → Agrees a run)
    (hone : ∀ i j a b, t.approvals i = some a → t.approvals j = some b →
      a.analysisRunId = run.analysisRunId → b.analysisRunId = run.analysisRunId → i = j)
    (hgated : Gated run → ∃ i a, t.approvals i = some a ∧
      a.analysisRunId = run.analysisRunId) : t.LockStep where
  run_key := by
    intro id found hfound
    rw [hruns, runs_setRun] at hfound
    split at hfound
    · rename_i hid
      cases hfound
      exact hid.symm
    · exact h.run_key id found hfound
  approval_key := hkey
  lifecycle := by
    intro id found hfound
    rw [hruns, runs_setRun] at hfound
    split at hfound
    · cases hfound
      exact hlifecycle.withoutEvents
    · exact h.lifecycle id found hfound
  approval_run := by
    intro id a ha
    by_cases hid : a.analysisRunId = run.analysisRunId
    · refine ⟨_, by rw [hruns, runs_setRun, if_pos hid], ?_⟩
      have hsame := hagrees id a ha hid
      exact hsame.unchanged rfl Iff.rfl Iff.rfl Iff.rfl
    · obtain ⟨found, hfound, hsame⟩ :=
        h.approval_run id a ((hothers id a hid).1 ha)
      exact ⟨found, by rw [hruns, runs_setRun, if_neg hid]; exact hfound, hsame⟩
  one_approval := by
    intro i j a b ha hb hab
    by_cases hid : a.analysisRunId = run.analysisRunId
    · exact hone i j a b ha hb hid (hab.symm.trans hid)
    · have hid' : b.analysisRunId ≠ run.analysisRunId := fun hb' => hid (hab.trans hb')
      exact h.one_approval i j a b ((hothers i a hid).1 ha) ((hothers j b hid').1 hb) hab
  gated := by
    intro id found hfound hfoundgated
    rw [hruns, runs_setRun] at hfound
    split at hfound
    · rename_i hid
      cases hfound
      obtain ⟨i, a, ha, hrun⟩ := hgated hfoundgated
      exact ⟨i, a, ha, hrun.trans hid.symm⟩
    · rename_i hid
      obtain ⟨i, a, ha, hrun⟩ := h.gated id found hfound hfoundgated
      exact ⟨i, a, (hothers i a (hrun.symm ▸ hid)).2 ha, hrun⟩
  executing_ok := by
    intro e loaded hloaded
    rw [hexecuting] at hloaded
    obtain ⟨found, hfound, hle, hsame⟩ := h.executing_ok e loaded hloaded
    by_cases hid : loaded.analysisRunId = run.analysisRunId
    · rw [hid, hcurrent] at hfound
      cases hfound
      refine ⟨_, by rw [hruns, runs_setRun, if_pos hid], ?_, ?_⟩
      · show loaded.version ≤ run.version
        omega
      · intro hequal
        have hequal' : run.version = loaded.version := hequal
        omega
    · exact ⟨found, by rw [hruns, runs_setRun, if_neg hid]; exact hfound, hle, hsame⟩

/-- A later version is saved without a decision: the approvals stay as they are, and
still agree with it. -/
theorem LockStep.setRun (h : s.LockStep)
    (hcurrent : s.runs run.analysisRunId = some current)
    (hversion : current.version < run.version) (hlifecycle : run.Lifecycle)
    (hagrees : ∀ id a, s.approvals id = some a →
      a.analysisRunId = run.analysisRunId → Agrees a run)
    (hgated : Gated run → Gated current) : (s.setRun run).LockStep := by
  refine h.advance hcurrent hversion hlifecycle rfl rfl h.approval_key
    (fun _ _ _ => Iff.rfl) hagrees ?_ ?_
  · exact fun i j a b ha hb hid hid' => h.one_approval i j a b ha hb (hid.trans hid'.symm)
  · exact fun hrun => h.gated _ _ hcurrent (hgated hrun)

theorem LockStep.setExecuting (h : s.LockStep) {e : Nat} {loaded : Option AnalysisRun}
    (hloaded : ∀ run, loaded = some run → s.runs run.analysisRunId = some run) :
    (s.setExecuting e loaded).LockStep where
  run_key := h.run_key
  approval_key := h.approval_key
  lifecycle := h.lifecycle
  approval_run := h.approval_run
  one_approval := h.one_approval
  gated := h.gated
  executing_ok := by
    intro e' found hfound
    rw [executing_setExecuting] at hfound
    split at hfound
    · exact ⟨found, hloaded found hfound, le_rfl, fun _ => rfl⟩
    · exact h.executing_ok e' found hfound

theorem LockStep.register (h : s.LockStep)
    (hfree : s.runs run.analysisRunId = none) (hlifecycle : run.Lifecycle)
    (hnew : ¬ Gated run) : (s.setRun run).LockStep where
  run_key := by
    intro id found hfound
    rw [runs_setRun] at hfound
    split at hfound
    · rename_i hid
      cases hfound
      exact hid.symm
    · exact h.run_key id found hfound
  approval_key := h.approval_key
  lifecycle := by
    intro id found hfound
    rw [runs_setRun] at hfound
    split at hfound
    · cases hfound
      exact hlifecycle.withoutEvents
    · exact h.lifecycle id found hfound
  approval_run := by
    intro id a ha
    obtain ⟨found, hfound, hsame⟩ := h.approval_run id a ha
    have hid : a.analysisRunId ≠ run.analysisRunId := by
      intro hid
      rw [hid, hfree] at hfound
      cases hfound
    exact ⟨found, by rw [runs_setRun, if_neg hid]; exact hfound, hsame⟩
  one_approval := h.one_approval
  gated := by
    intro id found hfound hgated
    rw [runs_setRun] at hfound
    split at hfound
    · cases hfound
      exact absurd hgated hnew
    · exact h.gated id found hfound hgated
  executing_ok := by
    intro e loaded hloaded
    obtain ⟨found, hfound, hle, hsame⟩ := h.executing_ok e loaded hloaded
    have hid : loaded.analysisRunId ≠ run.analysisRunId := by
      intro hid
      rw [hid, hfree] at hfound
      cases hfound
    exact ⟨found, by rw [runs_setRun, if_neg hid]; exact hfound, hle, hsame⟩

theorem decide_returns {request : DecideRequest} {changed : Bool}
    (h : (decide request).call s = (.ok changed, t)) :
    (changed = false ∧ t = s) ∨
      ∃ run approval after, s.getRun request.organizationId request.analysisRunId =
          some run ∧
        s.getApproval request.organizationId request.analysisRunId request.approvalId =
          some approval ∧ approval.status = .pending ∧
        (AnalysisRun.decide request.decision request.rejectionReason request.now).call
          run = (.ok (), after) ∧
        t = (s.setRun after).setApproval (approval.decidedAs request.decision
          request.rejectionReason request.userId request.decidedAt) := by
  unfold decide at h
  rw [raiseIf_bind_returns, call_self_bind] at h
  obtain ⟨-, h⟩ := h
  split at h
  · rename_i run approval hrun happroval
    rcases hcall : (HumanApproval.decide request.decision request.rejectionReason
        request.userId request.decidedAt).call approval with ⟨_ | _ | _, decided⟩
    · rw [hcall] at h
      cases h
    · rw [hcall] at h
      cases h
      exact .inl ⟨rfl, rfl⟩
    · rw [hcall] at h
      obtain ⟨hpending, rfl⟩ := HumanApproval.decide_changes hcall
      rcases hdecide : (AnalysisRun.decide request.decision request.rejectionReason
          request.now).call run with ⟨_ | ⟨⟩, after⟩
      · simp only [hdecide] at h
        cases h
      · simp only [hdecide] at h
        rw [call_assign_bind, call_assign_bind, raiseIf_bind_returns] at h
        obtain ⟨-, h⟩ := h
        cases h
        exact .inr ⟨run, approval, after, hrun, happroval, hpending, hdecide, rfl⟩
  · cases h

theorem agrees_decided {decision : ApprovalDecision}
    {rejectionReason : Option RejectionReason} {userId : UUID} {decidedAt now : Int}
    {after : AnalysisRun} (hlifecycle : run.Lifecycle)
    (horganization : run.organizationId = approval.organizationId)
    (hchange : Change run (.decide decision rejectionReason now) after) :
    Agrees (approval.decidedAs decision rejectionReason userId decidedAt) after := by
  have hlater := hchange.lifecycle hlifecycle
  cases hchange with
  | approved hstatus hfinding =>
      exact {
        organization := horganization
        granted := ⟨fun _ => ⟨_, rfl, rfl⟩, fun _ => rfl⟩
        rejected := by
          constructor
          · intro hrejected
            cases hrejected
          · intro hrejected
            cases hrejected
        pending := by
          constructor
          · intro hpending
            cases hpending
          · rintro (hst | hst) <;> cases hst
        not_timedOut := by
          intro htimed
          cases htimed }
  | rejected hstatus =>
      exact {
        organization := horganization
        granted := by
          constructor
          · intro hgranted
            cases hgranted
          · intro happroved
            cases hlater.completed_of_humanApproved happroved
        rejected := ⟨fun _ => rfl, fun _ => rfl⟩
        pending := by
          constructor
          · intro hpending
            cases hpending
          · rintro (hst | hst) <;> cases hst
        not_timedOut := by
          intro htimed
          cases htimed }

theorem LockStep.decided (h : s.LockStep) {request : DecideRequest} {changed : Bool}
    (hret : (decide request).call s = (.ok changed, t)) : t.LockStep := by
  rcases decide_returns hret with ⟨-, rfl⟩ | ⟨run, approval, after, hrun, happroval,
    hpending, hdecide, rfl⟩
  · exact h
  obtain ⟨hfound, horganization⟩ := getRun_eq_some.1 hrun
  obtain ⟨happroval, hof, -⟩ := getApproval_eq_some.1 happroval
  have hlifecycle := h.lifecycle _ _ hfound
  have hchange : Change run (.decide request.decision request.rejectionReason request.now)
      after := change_of_returns hlifecycle hdecide
  have hid : after.analysisRunId = request.analysisRunId :=
    hchange.same_run.1.trans (h.run_key _ _ hfound)
  have happrovalKey := h.approval_key _ _ happroval
  obtain ⟨found, hfound', hagrees⟩ := h.approval_run _ _ happroval
  rw [hof, hfound] at hfound'
  cases hfound'
  let decided := approval.decidedAs request.decision request.rejectionReason
    request.userId request.decidedAt
  have hdecidedKey : decided.approvalId = request.approvalId := happrovalKey
  have hdecidedRun : decided.analysisRunId = after.analysisRunId := hof.trans hid.symm
  have honly : ∀ i a, s.approvals i = some a → a.analysisRunId = after.analysisRunId →
      i = request.approvalId := fun i a ha hrun' =>
    h.one_approval i _ a approval ha happroval (hrun'.trans hdecidedRun.symm)
  have hcurrent : s.runs after.analysisRunId = some run := by
    rw [hid]
    exact hfound
  refine h.advance hcurrent (hchange.version trivial)
    (hchange.lifecycle hlifecycle) rfl rfl ?_ ?_ ?_ ?_ ?_
  · intro i a ha
    rw [approvals_setApproval] at ha
    split at ha
    · rename_i hi
      cases ha
      exact hi.symm
    · exact h.approval_key i a ha
  · intro i a hother
    rw [approvals_setApproval]
    split
    · rename_i hi
      constructor
      · rintro ⟨⟩
        exact absurd hdecidedRun hother
      · intro ha
        rw [hi, hdecidedKey, happroval] at ha
        cases ha
        exact absurd hdecidedRun hother
    · exact Iff.rfl
  · intro i a ha hrun'
    rw [approvals_setApproval] at ha
    split at ha
    · cases ha
      exact agrees_decided hlifecycle hagrees.organization hchange
    · rename_i hi
      exact absurd (honly i a ha hrun') (fun heq => hi (heq.trans hdecidedKey.symm))
  · have hunique : ∀ i a, ((s.setRun after).setApproval decided).approvals i = some a →
        a.analysisRunId = after.analysisRunId → i = request.approvalId := by
      intro i a ha hrun'
      rw [approvals_setApproval] at ha
      split at ha
      · rename_i hi
        exact hi.trans hdecidedKey
      · exact honly i a ha hrun'
    intro i j a b ha hb hrun' hrun''
    rw [hunique i a ha hrun', hunique j b hb hrun'']
  · intro _
    exact ⟨request.approvalId, decided,
      approvals_setApproval.trans (if_pos hdecidedKey.symm), hdecidedRun⟩

theorem LockStep.loaded_current (h : s.LockStep) {e : Nat} {loaded : AnalysisRun}
    (hloaded : s.executing e = some loaded) {organizationId : UUID}
    (hversion : (s.getRun organizationId loaded.analysisRunId).any
      fun row => row.version = loaded.version) :
    s.runs loaded.analysisRunId = some loaded := by
  obtain ⟨current, hcurrent, -, hsame⟩ := h.executing_ok e loaded hloaded
  rw [Option.any_eq_true] at hversion
  obtain ⟨row, hrow, hequal⟩ := hversion
  obtain ⟨hfound, -⟩ := getRun_eq_some.1 hrow
  rw [hcurrent] at hfound
  cases hfound
  rw [hcurrent, hsame (of_decide_eq_true hequal)]

theorem LockStep.evaluated (h : s.LockStep) {loaded : AnalysisRun}
    {directive : EvaluationDirective} {outcome : OutcomeSignal} {finding : Finding}
    {now : Int} {failed : List PublicationCondition} {approvalId : UUID}
    {reason : Option ApprovalReason}
    (hcurrent : s.runs loaded.analysisRunId = some loaded)
    (hcall : (evaluate directive outcome finding now failed).call loaded =
      (.ok reason, run)) (hfree : s.approvals approvalId = none) :
    (s.evaluated approvalId now failed run reason).LockStep := by
  obtain ⟨hrunning, hlifecycle, hid, -, hversion, hhuman, hreason⟩ :=
    evaluate_changes (h.lifecycle _ _ hcurrent) hcall
  have hnone : ∀ i a, s.approvals i = some a → a.analysisRunId ≠ run.analysisRunId := by
    rw [hid]
    exact h.no_approval hcurrent (by simp [hrunning])
  rw [← hid] at hcurrent
  rcases hreason with ⟨rfl, hstatus⟩ | ⟨hsome, hstatus⟩
  · refine h.setRun hcurrent hversion hlifecycle ?_ ?_
    · exact fun i a ha hrun => absurd hrun (hnone i a ha)
    · rintro (hst | hst | happroved)
      · rcases hstatus with hst' | hst' <;> simp [hst] at hst'
      · rcases hstatus with hst' | hst' <;> simp [hst] at hst'
      · exact absurd happroved hhuman
  · obtain ⟨reason, rfl⟩ := Option.isSome_iff_exists.1 hsome
    have hopened : ∀ i a, (s.evaluated approvalId now failed run
        (some reason)).approvals i = some a → a.analysisRunId = run.analysisRunId →
        i = approvalId ∧ a.status = .pending ∧ a.organizationId = run.organizationId := by
      intro i a ha hrun
      rw [ApprovalStore.evaluated, approvals_setApproval] at ha
      split at ha
      · rename_i hi
        cases ha
        exact ⟨hi, rfl, rfl⟩
      · exact absurd hrun (hnone i a ha)
    refine h.advance hcurrent hversion hlifecycle rfl rfl ?_ ?_ ?_ ?_ ?_
    · intro i a ha
      rw [ApprovalStore.evaluated, approvals_setApproval] at ha
      split at ha
      · rename_i hi
        cases ha
        exact hi.symm
      · exact h.approval_key i a ha
    · intro i a hother
      rw [ApprovalStore.evaluated, approvals_setApproval]
      split
      · rename_i hi
        constructor
        · rintro ⟨⟩
          exact absurd rfl hother
        · intro ha
          have hi' : i = approvalId := hi
          rw [hi', hfree] at ha
          cases ha
      · exact Iff.rfl
    · intro i a ha hrun
      obtain ⟨-, hpending, horganization⟩ := hopened i a ha hrun
      exact {
        organization := horganization.symm
        granted := by simp [hpending, hhuman]
        rejected := by simp [hpending, hstatus]
        pending := by simp [hpending, hstatus]
        not_timedOut := by simp [hpending] }
    · intro i j a b ha hb hrun hrun'
      rw [(hopened i a ha hrun).1, (hopened j b hb hrun').1]
    · exact fun _ => ⟨approvalId, _, approvals_setApproval.trans (if_pos rfl), rfl⟩

theorem LockStep.ended (h : s.LockStep) {op : RunOp}
    (hcurrent : s.runs current.analysisRunId = some current)
    (hchange : Change current op run)
    (hop : (∃ failure now, op = .fail failure now) ∨ ∃ now, op = .cancel now) :
    (s.setRun run).LockStep := by
  have hlifecycle := h.lifecycle _ _ hcurrent
  have hlater := hchange.lifecycle hlifecycle
  have hid := hchange.same_run.1
  have hversion : current.version < run.version := hchange.version (by
    rcases hop with ⟨failure, now, rfl⟩ | ⟨now, rfl⟩ <;> trivial)
  have hhuman : ¬ HumanApproved run := by
    intro happroved
    have hcompleted := hlater.completed_of_humanApproved happroved
    rcases hop with ⟨failure, now, rfl⟩ | ⟨now, rfl⟩ <;> cases hchange <;>
      cases hcompleted
  have hgated : ¬ Gated run := by
    rintro (hst | hst | happroved)
    · rcases hop with ⟨failure, now, rfl⟩ | ⟨now, rfl⟩ <;> cases hchange <;> cases hst
    · rcases hop with ⟨failure, now, rfl⟩ | ⟨now, rfl⟩ <;> cases hchange <;> cases hst
    · exact hhuman happroved
  refine h.setRun (by rw [hid]; exact hcurrent) hversion hlater ?_ (absurd · hgated)
  intro i a ha hrun
  obtain ⟨found, hfound, hagrees⟩ := h.approval_run i a ha
  rw [hrun, hid, hcurrent] at hfound
  cases hfound
  have hopen : current.status ∉ [.pending, .running, .evaluating] := fun hopen =>
    h.no_approval hcurrent hopen i a ha (hrun.trans hid)
  rcases hop with ⟨failure, now, rfl⟩ | ⟨now, rfl⟩
  · cases hchange with
    | failed hstatus => exact absurd hstatus hopen
  · cases hchange with
    | cancelled hstatus =>
        have hawaiting : current.status = .awaitingApproval := by
          simp only [List.mem_cons, List.not_mem_nil, or_false] at hstatus hopen
          tauto
        refine hagrees.unchanged rfl ?_ ?_ ?_
        · refine iff_of_false hhuman fun happroved => ?_
          rw [hlifecycle.completed_of_humanApproved happroved] at hawaiting
          cases hawaiting
        · refine iff_of_false (by rintro ⟨⟩) ?_
          simp [hawaiting]
        · exact iff_of_true (.inr rfl) (.inl hawaiting)

theorem newRun_eq_some {analysisRunId organizationId : UUID} {question : String}
    {now : Int} (h : newRun analysisRunId organizationId question now = some run) :
    run.analysisRunId = analysisRunId ∧ run.Lifecycle ∧ ¬ Gated run := by
  unfold newRun at h
  split at h
  · rename_i created hcreate
    split at h
    · rename_i started hstart
      cases h
      obtain ⟨hlifecycle, -⟩ := lifecycle_create hcreate
      have hchange : Change _ (.start now) run := change_of_returns hlifecycle hstart
      have hlater := hchange.lifecycle hlifecycle
      have hrunning : run.status = .running := by
        cases hchange
        rfl
      have hid : created.analysisRunId = analysisRunId := by
        unfold create at hcreate
        split at hcreate
        · cases hcreate
        · cases hcreate
          rfl
      refine ⟨hchange.same_run.1.trans hid, hlater, ?_⟩
      rintro (hst | hst | happroved)
      · simp [hrunning] at hst
      · simp [hrunning] at hst
      · have hcompleted := hlater.completed_of_humanApproved happroved
        simp [hrunning] at hcompleted
    · cases h
  · cases h

/-- **Step lemma.** -/
theorem LockStep.step (h : s.LockStep) {a : Action} (hstep : s.step a = some t) :
    t.LockStep := by
  cases a with
  | register analysisRunId organizationId question now =>
      simp only [ApprovalStore.step] at hstep
      split at hstep
      · rename_i run hnew
        obtain ⟨hid, hlifecycle, hgated⟩ := newRun_eq_some hnew
        split at hstep
        · cases hstep
        · rename_i hfree
          cases hstep
          exact h.register (by rw [hid]; simpa using hfree) hlifecycle hgated
      · cases hstep
  | load e organizationId analysisRunId =>
      cases hstep
      refine h.setExecuting fun run hrun => ?_
      obtain ⟨hfound, -⟩ := getRun_eq_some.1 hrun
      rw [h.run_key _ _ hfound]
      exact hfound
  | evaluate e directive outcome finding now failed approvalId persisted =>
      simp only [ApprovalStore.step] at hstep
      split at hstep
      · cases hstep
      · rename_i loaded hloaded
        have hreleased : (s.setExecuting e none).LockStep :=
          h.setExecuting (by simp)
        split at hstep
        · cases hstep
          exact hreleased
        · rename_i reason run hcall
          split at hstep
          · rename_i hcommits
            obtain ⟨hversion, -, hfree⟩ := hcommits
            have hid : run.analysisRunId = loaded.analysisRunId :=
              (evaluate_advances hcall).1
            rw [hid] at hversion
            have hcurrent := h.loaded_current hloaded hversion
            cases hstep
            exact hreleased.evaluated hcurrent hcall hfree
          · cases hstep
            exact hreleased
  | fail e failure now =>
      simp only [ApprovalStore.step] at hstep
      split at hstep
      · cases hstep
      · rename_i loaded hloaded
        have hreleased : (s.setExecuting e none).LockStep :=
          h.setExecuting (by simp)
        split at hstep
        · cases hstep
          exact hreleased
        · rename_i run hcall
          split at hstep
          · rename_i hversion
            have hid : run.analysisRunId = loaded.analysisRunId :=
              (fail_returns hcall).2.2.1
            rw [hid] at hversion
            have hcurrent := h.loaded_current hloaded hversion
            have hchange : Change _ (.fail failure now) _ :=
              change_of_returns (h.lifecycle _ _ hcurrent) hcall
            cases hstep
            exact hreleased.ended hcurrent hchange (.inl ⟨failure, now, rfl⟩)
          · cases hstep
            exact hreleased
  | cancel organizationId analysisRunId now =>
      simp only [ApprovalStore.step] at hstep
      split at hstep
      · cases hstep
      · rename_i run hrun
        split at hstep
        · cases hstep
          exact h
        · rename_i cancelled hcall
          obtain ⟨hfound, -⟩ := getRun_eq_some.1 hrun
          have hchange : Change _ (.cancel now) _ :=
            change_of_returns (h.lifecycle _ _ hfound) hcall
          rw [← h.run_key _ _ hfound] at hfound
          cases hstep
          exact h.ended hfound hchange (.inr ⟨now, rfl⟩)
  | decide request =>
      simp only [ApprovalStore.step] at hstep
      split at hstep
      · rename_i changed after hcall
        cases hstep
        exact h.decided hcall
      · cases hstep
        exact h

/-- What `_execute` commits is the step that evaluates with the directive of the
publication policy. -/
theorem execute_evaluates {e : Nat} {loaded row : AnalysisRun} {result : PipelineResult}
    {threshold : ℚ} {now : Int} {approvalId : UUID} {opened : Option HumanApproval}
    (hloaded : s.executing e = some loaded)
    (hrow : s.getRun run.organizationId run.analysisRunId = some row)
    (hfree : s.approvals approvalId = none)
    (hexecute : executeEvaluation loaded row.version threshold (.ok result) now approvalId
      true = .ok (run, opened)) :
    let decision := result.publicationDecision result.boundedOutcome threshold
    s.step (.evaluate e (directiveFor decision) result.boundedOutcome result.finding now
        decision.failed approvalId true) =
      some (opened.elim ((s.setExecuting e none).setRun run)
        ((s.setExecuting e none).setRun run).setApproval) := by
  intro decision
  simp only [executeEvaluation] at hexecute
  split at hexecute
  · cases hexecute
  · rename_i reason saved hcall
    split at hexecute
    · cases hexecute
    · rename_i hversion
      cases hexecute
      have hcurrent : (s.getRun run.organizationId run.analysisRunId).any
          (fun row => row.version = loaded.version) := by
        rw [hrow]
        simpa using hversion
      simp only [ApprovalStore.step, hloaded, decision, hcall]
      rw [if_pos ⟨hcurrent, trivial, hfree⟩]
      cases reason <;> rfl

theorem lockStep_exec {actions : List Action} (h : Exec step empty actions s) :
    s.LockStep :=
  h.invariant LockStep lockStep_empty fun _ _ _ hinv hstep => hinv.step hstep

/-- How `decide` answers an owner or an admin about an approval that exists. -/
theorem LockStep.decide_call (h : s.LockStep) {request : DecideRequest}
    (hrole : request.role ∈ [Role.owner, .admin])
    (happroval : s.getApproval request.organizationId request.analysisRunId
      request.approvalId = some approval) :
    ∃ run, s.getRun request.organizationId request.analysisRunId = some run ∧
      Agrees approval run ∧
      (approval.Records request.decision request.rejectionReason →
        (decide request).call s = (.ok false, s)) ∧
      (approval.status ≠ .pending →
        ¬ approval.Records request.decision request.rejectionReason →
        ∃ message, (decide request).call s = (.error (.conflict message), s)) ∧
      (run.status = .cancelled →
        ∃ message, (decide request).call s = (.error (.conflict message), s)) := by
  obtain ⟨hfound, hof, horganization⟩ := getApproval_eq_some.1 happroval
  obtain ⟨run, hrun, hagrees⟩ := h.approval_run _ _ hfound
  have hget : s.getRun request.organizationId request.analysisRunId = some run := by
    rw [getRun_eq_some, ← hof, ← horganization]
    exact ⟨hrun, hagrees.organization⟩
  have hpermitted : ¬ request.role ∉ [Role.owner, .admin] := not_not.2 hrole
  refine ⟨run, hget, hagrees, ?_, ?_, ?_⟩
  · intro hrecords
    unfold decide
    rw [call_raiseIf_bind, if_neg hpermitted, call_self_bind]
    simp only [hget, happroval, HumanApproval.decide_repeated hrecords]
    rfl
  · intro hdecided hrecords
    unfold decide
    rw [call_raiseIf_bind, if_neg hpermitted, call_self_bind]
    simp only [hget, happroval, HumanApproval.decide_conflicting hrecords hdecided]
    exact ⟨_, rfl⟩
  · intro hcancelled
    have hpending := hagrees.pending.2 (.inr hcancelled)
    unfold decide
    rw [call_raiseIf_bind, if_neg hpermitted, call_self_bind]
    simp only [hget, happroval]
    rcases hcall : (HumanApproval.decide request.decision request.rejectionReason
        request.userId request.decidedAt).call approval with ⟨e | _ | _, decided⟩
    · exact ⟨_, rfl⟩
    · exfalso
      exact HumanApproval.not_repeated_of_pending hpending hcall
    · have hrefused : run.status ∉ [.awaitingApproval] := by simp [hcancelled]
      have hraise : (AnalysisRun.decide request.decision request.rejectionReason
          request.now).call run =
          (.error ⟨statusMessage run.status [.awaitingApproval]⟩, run) := by
        unfold AnalysisRun.decide
        rw [requireStatus_bind_call, if_neg hrefused]
      simp only [hraise]
      exact ⟨_, rfl⟩

end ApprovalStore

open ApprovalStore AnalysisRun

/-- **Approvals and runs stay in lock step.**  In every committed state that any
sequence of evaluations, failures, cancellations and decisions leads to, by any
executors and actors:

1. an approval is granted exactly if its run is completed with a human's approval,
   and rejected exactly if its run is rejected;
2. every run that is completed with a human's approval has a granted approval, every
   rejected run a rejected one, and no run has two approvals;
3. to repeat the decision that is recorded changes nothing;
4. a decision that conflicts with the recorded one, or that comes after the run was
   cancelled, raises and changes nothing. -/
theorem approval_lock_step {actions : List ApprovalStore.Action} {s : ApprovalStore}
    (h : Exec step .empty actions s) :
    (∀ id approval, s.approvals id = some approval →
      ∃ run, s.runs approval.analysisRunId = some run ∧
        (approval.status = .granted ↔ run.status = .completed ∧ HumanApproved run) ∧
        (approval.status = .rejected ↔ run.status = .rejected)) ∧
    (∀ id run, s.runs id = some run →
      (run.status = .completed ∧ HumanApproved run → ∃ i approval,
        s.approvals i = some approval ∧ approval.analysisRunId = id ∧
          approval.status = .granted) ∧
      (run.status = .rejected → ∃ i approval, s.approvals i = some approval ∧
        approval.analysisRunId = id ∧ approval.status = .rejected) ∧
      ∀ i j a b, s.approvals i = some a → s.approvals j = some b →
        a.analysisRunId = id → b.analysisRunId = id → i = j) ∧
    (∀ (request : DecideRequest) approval, request.role ∈ [Role.owner, .admin] →
      s.getApproval request.organizationId request.analysisRunId request.approvalId =
        some approval →
      (approval.Records request.decision request.rejectionReason →
        (ApprovalStore.decide request).call s = (.ok false, s) ∧
          step s (.decide request) = some s) ∧
      ((approval.status ≠ .pending ∧
          ¬ approval.Records request.decision request.rejectionReason) ∨
        (∃ run, s.runs request.analysisRunId = some run ∧ run.status = .cancelled) →
        (∃ message, (ApprovalStore.decide request).call s =
          (.error (.conflict message), s)) ∧ step s (.decide request) = some s)) := by
  have hinv := lockStep_exec h
  refine ⟨?_, ?_, ?_⟩
  · intro id approval happroval
    obtain ⟨run, hrun, hagrees⟩ := hinv.approval_run id approval happroval
    have hcompleted := (hinv.lifecycle _ _ hrun).completed_of_humanApproved
    exact ⟨run, hrun, hagrees.granted.trans (by tauto), hagrees.rejected⟩
  · intro id run hrun
    refine ⟨?_, ?_, ?_⟩
    · rintro ⟨-, happroved⟩
      obtain ⟨i, approval, happroval, rfl⟩ := hinv.gated id run hrun (.inr (.inr happroved))
      obtain ⟨found, hfound, hagrees⟩ := hinv.approval_run i approval happroval
      rw [hrun] at hfound
      cases hfound
      exact ⟨i, approval, happroval, rfl, hagrees.granted.2 happroved⟩
    · intro hrejected
      obtain ⟨i, approval, happroval, rfl⟩ := hinv.gated id run hrun (.inr (.inl hrejected))
      obtain ⟨found, hfound, hagrees⟩ := hinv.approval_run i approval happroval
      rw [hrun] at hfound
      cases hfound
      exact ⟨i, approval, happroval, rfl, hagrees.rejected.2 hrejected⟩
    · exact fun i j a b ha hb hrun' hrun'' =>
        hinv.one_approval i j a b ha hb (hrun'.trans hrun''.symm)
  · intro request approval hrole happroval
    obtain ⟨run, hget, -, hrepeated, hconflict, hcancelled⟩ :=
      hinv.decide_call hrole happroval
    refine ⟨fun hrecords => ?_, fun hrefused => ?_⟩
    · have hcall := hrepeated hrecords
      exact ⟨hcall, by simp [ApprovalStore.step, hcall]⟩
    · have hcall : ∃ message, (ApprovalStore.decide request).call s =
          (.error (.conflict message), s) := by
        rcases hrefused with ⟨hdecided, hrecords⟩ | ⟨found, hfound, hst⟩
        · exact hconflict hdecided hrecords
        · rw [(getRun_eq_some.1 hget).1] at hfound
          cases hfound
          exact hcancelled hst
      obtain ⟨message, hcall⟩ := hcall
      exact ⟨⟨message, hcall⟩, by simp [ApprovalStore.step, hcall]⟩

/-- A gated run is rejected; the rejection is repeated, and an approval comes too
late. -/
theorem approval_lock_step_rejected :
    ∃ s approval, StepTrace.run step .empty
        [.register 1 2 "Why did revenue fall?" 0, .load 0 2 1,
          .evaluate 0 .escalate (.validation { passed := false })
            ⟨"headline", "summary", [], []⟩ 1 [.confident] 5 true,
          .decide ⟨.owner, 7, 2, 1, 5, .reject, some .needsMoreAnalysis, 2, 2, true⟩] =
        some s ∧
      s.getApproval 2 1 5 = some approval ∧ approval.status = .rejected ∧
      step s (.decide ⟨.admin, 8, 2, 1, 5, .reject, some .needsMoreAnalysis, 3, 3,
        true⟩) = some s ∧
      step s (.decide ⟨.admin, 8, 2, 1, 5, .approve, none, 4, 4, true⟩) = some s := by
  refine ⟨_, _, rfl, rfl, rfl, ?_, ?_⟩
  · exact (((approval_lock_step (exec_of_run (show StepTrace.run step .empty
      [.register 1 2 "Why did revenue fall?" 0, .load 0 2 1,
        .evaluate 0 .escalate (.validation { passed := false })
          ⟨"headline", "summary", [], []⟩ 1 [.confident] 5 true,
        .decide ⟨.owner, 7, 2, 1, 5, .reject, some .needsMoreAnalysis, 2, 2, true⟩] =
      some _ from rfl))).2.2 _ _ (by decide) rfl).1 (by decide)).2
  · exact (((approval_lock_step (exec_of_run (show StepTrace.run step .empty
      [.register 1 2 "Why did revenue fall?" 0, .load 0 2 1,
        .evaluate 0 .escalate (.validation { passed := false })
          ⟨"headline", "summary", [], []⟩ 1 [.confident] 5 true,
        .decide ⟨.owner, 7, 2, 1, 5, .reject, some .needsMoreAnalysis, 2, 2, true⟩] =
      some _ from rfl))).2.2 _ _ (by decide) rfl).2 (.inl (by decide))).2

end Zentra
