import Mathlib.Data.Int.Order.Basic
import Mathlib.Data.Prod.Lex
import Zentra.ExecutionJobInvariant
import Zentra.Lease

/-!
# The lease of a job

A job seen through its lease alone refines the general lease: claiming acquires
it, renewing extends it, a retry releases it, and settling the job closes it.
The rows that `claim_next` selects are compared with the jobs that `claim`
accepts.

* `claim_next_selects_iff` — the query and the guard agree on reachable jobs;
* `execution_job_lease_discipline` — the lease discipline of a job as a whole.
-/

open Raising Raising.Method StepTrace

namespace Zentra

namespace JobOp

/-- The time at which an operation is called. -/
def clock : JobOp → Int
  | requestCancel _ now => now
  | cancel _ now => now
  | claim _ now _ => now
  | renew _ now _ => now
  | retry _ now _ _ => now
  | complete _ now => now
  | fail _ now _ => now

/-- The operation is one that `worker` performs as the owner of the lease. -/
def ByOwner (worker : String) : JobOp → Prop
  | requestCancel _ _ => False
  | claim _ _ _ => False
  | cancel w _ => w = worker
  | renew w _ _ => w = worker
  | retry w _ _ _ => w = worker
  | complete w _ => w = worker
  | fail w _ _ => w = worker

/-- The operation takes or renews the lease for `worker` from `now`. -/
def Takes (worker : String) (now leaseFor : Int) (op : JobOp) : Prop :=
  op = claim worker now leaseFor ∨ op = renew worker now leaseFor

end JobOp

namespace ExecutionJob

/-- What a job says about its lease. -/
def lease (job : ExecutionJob) : Lease.State String Int :=
  match job.status, job.leaseOwner, job.leaseExpiresAt with
  | .queued, _, _ => .free
  | .leased, some owner, some expires => .held owner expires
  | .leased, _, _ => .free
  | _, _, _ => .closed

/-- What an operation does to the lease of a job. -/
def leaseEvent (job : ExecutionJob) : JobOp → Lease.Event String Int
  | .requestCancel _ now =>
      if job.status = .queued then .withdraw now else .other now
  | .cancel worker now => .finish worker now
  | .claim worker now leaseFor => .acquire worker now (now + leaseFor)
  | .renew worker now leaseFor => .extend worker now (now + leaseFor)
  | .retry worker now _ _ => .release worker now
  | .complete worker now => .finish worker now
  | .fail worker now _ => .finish worker now

/-- The `WHERE` clause of `claim_next`. -/
def ClaimNextSelects (organizationId : UUID) (now : Int) (row : ExecutionJob) :
    Prop :=
  row.organizationId = organizationId ∧
    ((row.status = .queued ∧ row.attempts < row.maxAttempts ∧
        row.availableAt ≤ now ∧ row.cancelRequestedAt = none) ∨
      (row.status = .leased ∧ row.leaseExpiresAt.any (fun e => e ≤ now)))

instance (organizationId : UUID) (now : Int) (row : ExecutionJob) :
    Decidable (row.ClaimNextSelects organizationId now) :=
  inferInstanceAs (Decidable (_ ∧ _))

/-- The operation does not make `worker` let go of the lease before `e`: it is
no successful retry of that worker, and no successful renewal to an earlier
time. -/
def KeepsLease (worker : String) (e : Int) (job : ExecutionJob) (op : JobOp) :
    Prop :=
  ∀ job', op.method.call job = (.ok (), job') →
    match op with
    | .retry w _ _ _ => w ≠ worker
    | .renew w now leaseFor => w = worker → e ≤ now + leaseFor
    | _ => True

variable {job job' : ExecutionJob} {worker : String} {now e : Int}

@[simp] theorem leaseEvent_now (op : JobOp) :
    (job.leaseEvent op).now = op.clock := by
  cases op with
  | requestCancel actorId now =>
      by_cases hqueued : job.status = .queued
      · simp only [leaseEvent, if_pos hqueued]
        rfl
      · simp only [leaseEvent, if_neg hqueued]
        rfl
  | _ => rfl

theorem leaseEvent_keeps {op : JobOp} (h : job.KeepsLease worker e op)
    (hret : op.method.call job = (.ok (), job')) :
    Lease.Keeps worker e (job.leaseEvent op) := by
  have hkeeps := h job' hret
  cases op with
  | requestCancel actorId now =>
      by_cases hqueued : job.status = .queued
      · simp only [leaseEvent, if_pos hqueued]
        trivial
      · simp only [leaseEvent, if_neg hqueued]
        trivial
  | _ => exact hkeeps

theorem lease_queued (h : job.status = .queued) : job.lease = .free := by
  unfold lease
  rw [h]

theorem lease_terminal (h : job.Terminal) : job.lease = .closed := by
  have hstatus := terminal_iff.1 h
  unfold lease
  cases hst : job.status <;> simp_all

theorem lease_owned (h : job.OwnedBy worker)
    (hexpires : job.leaseExpiresAt = some e) : job.lease = .held worker e := by
  unfold lease
  rw [h.1, h.2, hexpires]

/-- A leased job of a reachable shape names its owner and its expiry. -/
theorem Representation.leased (h : job.Representation)
    (hleased : job.status = .leased) :
    ∃ owner expires, job.leaseOwner = some owner ∧
      job.leaseExpiresAt = some expires ∧ job.lease = .held owner expires := by
  obtain ⟨owner, howner⟩ := Option.isSome_iff_exists.1 (h.owner_iff.2 hleased)
  obtain ⟨expires, hexpires⟩ :=
    Option.isSome_iff_exists.1 (h.expires_iff.2 hleased)
  exact ⟨owner, expires, howner, hexpires, lease_owned ⟨hleased, howner⟩ hexpires⟩

/-- **Refinement.**  On jobs that keep the representation invariant, every
successful operation is the step of the lease that `leaseEvent` names. -/
theorem lease_refines (h : job.Representation) {op : JobOp}
    (hret : op.method.call job = (.ok (), job')) :
    Lease.step job.lease (job.leaseEvent op) = some job'.lease := by
  cases op with
  | requestCancel actorId now =>
      rw [JobOp.method, requestCancel_call] at hret
      cases hret
      by_cases hterminal : job.Terminal
      · have hqueued := (terminal_iff.1 hterminal).1
        simp only [leaseEvent, hqueued, if_false, cancelRequested,
          if_pos hterminal]
        rw [lease_terminal hterminal]
        rfl
      · by_cases hqueued : job.status = .queued
        · simp only [leaseEvent, hqueued, if_true, cancelRequested,
            if_neg hterminal]
          rw [lease_queued hqueued]
          rfl
        · have hleased : job.status = .leased := by
            by_contra hleased
            exact hterminal (terminal_iff.2 ⟨hqueued, hleased⟩)
          obtain ⟨owner, expires, howner, hexpires, hheld⟩ := h.leased hleased
          have hflagged : (flagCancel actorId now job).lease = job.lease := rfl
          simp only [leaseEvent, hqueued, if_false, cancelRequested,
            if_neg hterminal]
          rw [hflagged, hheld]
          rfl
  | cancel worker now =>
      obtain ⟨howned, -, rfl⟩ := cancel_returns.1 hret
      obtain ⟨_, hexpires⟩ := Option.isSome_iff_exists.1 (h.expires_iff.2 howned.1)
      rw [lease_owned howned hexpires]
      simp [leaseEvent, Lease.step, lease, settled]
  | claim worker now leaseFor =>
      obtain ⟨-, -, hclaim, rfl⟩ := claim_returns.1 hret
      rcases hclaim with ⟨hqueued, -, -⟩ | ⟨hleased, hexpired⟩
      · rw [lease_queued hqueued]
        rfl
      · obtain ⟨owner, expires, -, hexpires, hheld⟩ := h.leased hleased
        rw [hheld]
        simp [leaseEvent, Lease.step, hexpired expires hexpires, lease, leaseTo]
  | renew worker now leaseFor =>
      obtain ⟨howned, -, hactive, rfl⟩ := renew_returns.1 hret
      obtain ⟨expires, hexpires⟩ :=
        Option.isSome_iff_exists.1 (h.expires_iff.2 howned.1)
      rw [lease_owned howned hexpires]
      simp [leaseEvent, Lease.step, hactive expires hexpires, lease, howned.1,
        howned.2]
  | retry worker now availableAt failureCategory =>
      obtain ⟨howned, -, -, category, -, rfl⟩ := retry_returns.1 hret
      obtain ⟨_, hexpires⟩ := Option.isSome_iff_exists.1 (h.expires_iff.2 howned.1)
      rw [lease_owned howned hexpires]
      simp [leaseEvent, Lease.step, lease, requeued]
  | complete worker now =>
      obtain ⟨howned, rfl⟩ := complete_returns.1 hret
      obtain ⟨_, hexpires⟩ := Option.isSome_iff_exists.1 (h.expires_iff.2 howned.1)
      rw [lease_owned howned hexpires]
      simp [leaseEvent, Lease.step, lease, settled]
  | fail worker now failureCategory =>
      obtain ⟨howned, category, -, rfl⟩ := fail_returns.1 hret
      obtain ⟨_, hexpires⟩ := Option.isSome_iff_exists.1 (h.expires_iff.2 howned.1)
      rw [lease_owned howned hexpires]
      simp [leaseEvent, Lease.step, lease, settled]

theorem Representation.committed {ops : List JobOp} (h : job.Representation)
    (hexec : Exec (committing JobOp.method) job ops job') :
    job'.Representation := by
  refine hexec.invariant Representation h ?_
  intro t op u hinv hstep
  rcases committing_cases hstep with hret | ⟨rfl, -⟩
  · exact hinv.step hret
  · exact hinv

/-- A transaction before `e` leaves a lease guarded until `e`. -/
theorem lease_guarded_step (h : job.Representation)
    (hguarded : Lease.Guarded worker e job.lease) {op : JobOp}
    (hkeeps : job.KeepsLease worker e op) (hearly : op.clock < e)
    (hstep : committing JobOp.method job op = some job') :
    Lease.Guarded worker e job'.lease := by
  rcases committing_cases hstep with hret | ⟨rfl, -⟩
  · exact hguarded.step (leaseEvent_keeps hkeeps hret) (by simpa using hearly)
      (lease_refines h hret)
  · exact hguarded

/-- **A lease stays with its owner.**  Transactions before `e`, none of which
makes the owner let go of it, leave the lease guarded until `e`. -/
theorem lease_guarded (h : job.Representation)
    (hguarded : Lease.Guarded worker e job.lease) {ops : List JobOp}
    (hexec : Exec (committing JobOp.method) job ops job')
    (hkeeps : Allowed (committing JobOp.method) (KeepsLease worker e) job ops)
    (hearly : ∀ op ∈ ops, op.clock < e) :
    Lease.Guarded worker e job'.lease := by
  have hall : Always (committing JobOp.method)
      (fun t => Lease.Guarded worker e t.lease) job ops := by
    refine always_of_allowed
      (fun t => t.Representation ∧ Lease.Guarded worker e t.lease)
      (fun t hinv => hinv.2) ?_ ops job ⟨h, hguarded⟩ (hkeeps.and_forall hearly)
    intro t op u hinv hcond hstep
    refine ⟨hinv.1.committed (Exec.snoc Exec.nil hstep), ?_⟩
    exact lease_guarded_step hinv.1 hinv.2 hcond.1 hcond.2 hstep
  exact hall.last hexec

theorem lease_guarded_of_takes (h : job.Representation) {op : JobOp}
    {leaseFor : Int} (htakes : op.Takes worker now leaseFor)
    (hret : op.method.call job = (.ok (), job')) :
    Lease.Guarded worker (now + leaseFor) job'.lease := by
  have hstep := lease_refines h hret
  rcases htakes with rfl | rfl
  · exact Lease.guarded_of_take (.inl hstep)
  · exact Lease.guarded_of_take (.inr hstep)

theorem claim_refused (h : job.Representation)
    (hguarded : Lease.Guarded worker e job.lease) {other : String}
    {leaseFor : Int} (hearly : now < e) :
    (claim other now leaseFor).call job ≠ (.ok (), job') := by
  intro hret
  have hstep : Lease.step job.lease
      (job.leaseEvent (.claim other now leaseFor)) = some job'.lease :=
    lease_refines h hret
  have hrefused : Lease.step job.lease
      (.acquire other now (now + leaseFor)) = none := hguarded.refuses hearly
  rw [leaseEvent, hrefused] at hstep
  cases hstep

/-- While a lease runs, only its owner changes the job; a cancellation request
merely flags it. -/
theorem changed_by_owner (h : job.Representation) (howned : job.OwnedBy worker)
    (hexpires : job.leaseExpiresAt = some e) {op : JobOp}
    (hearly : op.clock < e) (hret : op.method.call job = (.ok (), job')) :
    op.ByOwner worker ∨ ∃ actorId now,
      op = .requestCancel actorId now ∧ job' = flagCancel actorId now job := by
  have hstep := lease_refines h hret
  rw [lease_owned howned hexpires] at hstep
  have hevent := Lease.changed_by_owner (by simpa using hearly) hstep
  cases op with
  | requestCancel actorId now =>
      rw [JobOp.method, requestCancel_call] at hret
      cases hret
      refine .inr ⟨actorId, now, rfl, ?_⟩
      simp [cancelRequested, howned.1]
  | claim w now leaseFor => simp [leaseEvent] at hevent
  | cancel w now => exact .inl (show w = worker by simpa [leaseEvent] using hevent)
  | renew w now leaseFor => exact .inl (show w = worker by simpa [leaseEvent] using hevent)
  | retry w now availableAt failureCategory =>
      exact .inl (show w = worker by simpa [leaseEvent] using hevent)
  | complete w now => exact .inl (show w = worker by simpa [leaseEvent] using hevent)
  | fail w now failureCategory =>
      exact .inl (show w = worker by simpa [leaseEvent] using hevent)

/-- A row that `claim_next` selects meets the guards of `claim`. -/
theorem claimableAt_of_selects {organizationId : UUID}
    (h : job.ClaimNextSelects organizationId now) : job.ClaimableAt now := by
  rcases h.2 with ⟨hqueued, hleft, havailable, -⟩ | ⟨hleased, hexpired⟩
  · exact .inl ⟨hqueued, havailable, hleft⟩
  · refine .inr ⟨hleased, ?_⟩
    intro expires hexpires
    simpa [hexpires] using hexpired

/-- **The query and the guard agree.**  On a job that keeps the representation
invariant, `claim_next` selects exactly the jobs of the organization that
`claim` accepts and, when queued, nobody asked to cancel. -/
theorem claim_next_selects_iff (h : job.Representation) {organizationId : UUID} :
    job.ClaimNextSelects organizationId now ↔
      job.organizationId = organizationId ∧ job.ClaimableAt now ∧
        (job.status = .queued → job.cancelRequestedAt = none) := by
  constructor
  · intro hselects
    refine ⟨hselects.1, claimableAt_of_selects hselects, ?_⟩
    intro hqueued
    rcases hselects.2 with ⟨-, -, -, hnone⟩ | ⟨hleased, -⟩
    · exact hnone
    · rw [hqueued] at hleased
      cases hleased
  · rintro ⟨horganization, hclaim, hnone⟩
    refine ⟨horganization, ?_⟩
    rcases hclaim with ⟨hqueued, havailable, hleft⟩ | ⟨hleased, hexpired⟩
    · exact .inl ⟨hqueued, hleft, havailable, hnone hqueued⟩
    · obtain ⟨expires, hexpires⟩ :=
        Option.isSome_iff_exists.1 (h.expires_iff.2 hleased)
      exact .inr ⟨hleased, by simpa [hexpires] using hexpired expires hexpires⟩

theorem attempts_changed {op : JobOp} (hret : op.method.call job = (.ok (), job')) :
    job'.attempts = job.attempts ∨
      (job'.attempts = job.attempts + 1 ∧ job.status = .queued ∧
        ∃ worker now leaseFor, op = .claim worker now leaseFor) := by
  cases op with
  | requestCancel actorId now =>
      rw [JobOp.method, requestCancel_call] at hret
      cases hret
      left
      unfold cancelRequested flagCancel
      split
      · rfl
      · split <;> rfl
  | cancel worker now =>
      obtain ⟨-, -, rfl⟩ := cancel_returns.1 hret
      exact .inl rfl
  | claim worker now leaseFor =>
      obtain ⟨-, -, -, rfl⟩ := claim_returns.1 hret
      by_cases hqueued : job.status = .queued
      · exact .inr ⟨if_pos hqueued, hqueued, worker, now, leaseFor, rfl⟩
      · exact .inl (if_neg hqueued)
  | renew worker now leaseFor =>
      obtain ⟨-, -, -, rfl⟩ := renew_returns.1 hret
      exact .inl rfl
  | retry worker now availableAt failureCategory =>
      obtain ⟨-, -, -, category, -, rfl⟩ := retry_returns.1 hret
      exact .inl rfl
  | complete worker now =>
      obtain ⟨-, rfl⟩ := complete_returns.1 hret
      exact .inl rfl
  | fail worker now failureCategory =>
      obtain ⟨-, category, -, rfl⟩ := fail_returns.1 hret
      exact .inl rfl

end ExecutionJob

/-- The query of `claim_next`: among the rows that nobody has locked, the first
one by `available_at`, `created_at` and `job_id`. -/
def claimNextRow (locked : UUID → Bool) (organizationId : UUID) (now : Int)
    (rows : List ExecutionJob) : Option ExecutionJob :=
  let before (a b : ExecutionJob) : Bool :=
    decide (a.availableAt < b.availableAt) ||
      (a.availableAt == b.availableAt &&
        (decide (a.createdAt < b.createdAt) ||
          (a.createdAt == b.createdAt && decide (a.jobId ≤ b.jobId))))
  ((rows.filter fun row =>
    !locked row.jobId && decide (row.ClaimNextSelects organizationId now)).mergeSort
      before).head?

/-- `claim_next`: claim the row that the query returns, if it returns one. -/
def claimNext (locked : UUID → Bool) (organizationId : UUID) (workerId : String)
    (now leaseFor : Int) (rows : List ExecutionJob) :
    Except JobError (Option ExecutionJob) :=
  match claimNextRow locked organizationId now rows with
  | none => .ok none
  | some row =>
      match (ExecutionJob.claim workerId now leaseFor).call row with
      | (.ok (), job) => .ok (some job)
      | (.error e, _) => .error e

/-- The order in which the query lists the jobs. -/
def ExecutionJob.listedAt (job : ExecutionJob) : Int ×ₗ (Int ×ₗ UUID) :=
  toLex (job.availableAt, toLex (job.createdAt, job.jobId))

theorem first_of_mergeSort {rows : List ExecutionJob} {row : ExecutionJob}
    (h : (rows.mergeSort fun a b => decide (a.listedAt ≤ b.listedAt)).head? = some row) :
    row ∈ rows ∧ ∀ other ∈ rows, row.listedAt ≤ other.listedAt := by
  have hsorted : (rows.mergeSort fun a b => decide (a.listedAt ≤ b.listedAt)).Pairwise _ :=
    List.pairwise_mergeSort (fun a b c => by simpa using le_trans)
      (fun a b => by simpa using le_total a.listedAt b.listedAt) rows
  obtain ⟨tail, hcons⟩ := List.head?_eq_some_iff.1 h
  have hmem (job : ExecutionJob) : job ∈ row :: tail ↔ job ∈ rows := by
    rw [← hcons, List.mem_mergeSort]
  refine ⟨(hmem row).1 List.mem_cons_self, fun other hother => ?_⟩
  rw [hcons] at hsorted
  rcases List.mem_cons.1 ((hmem other).2 hother) with rfl | hlater
  · exact le_rfl
  · exact of_decide_eq_true ((List.pairwise_cons.1 hsorted).1 other hlater)

section ClaimNext

variable {locked : UUID → Bool} {organizationId : UUID} {now : Int} {rows : List ExecutionJob}

/-- `claim_next` may take the row. -/
def Offered (locked : UUID → Bool) (organizationId : UUID) (now : Int)
    (rows : List ExecutionJob) (row : ExecutionJob) : Prop :=
  row ∈ rows ∧ locked row.jobId = false ∧ row.ClaimNextSelects organizationId now

theorem claimNextRow_eq : claimNextRow locked organizationId now rows =
    ((rows.filter fun row => !locked row.jobId && decide (row.ClaimNextSelects organizationId
      now)).mergeSort fun a b => decide (a.listedAt ≤ b.listedAt)).head? := by
  have hbefore : (fun a b : ExecutionJob => decide (a.availableAt < b.availableAt) ||
      (a.availableAt == b.availableAt && (decide (a.createdAt < b.createdAt) ||
        (a.createdAt == b.createdAt && decide (a.jobId ≤ b.jobId))))) =
      fun a b => decide (a.listedAt ≤ b.listedAt) := by
    funext a b
    rw [Bool.eq_iff_iff]
    simp [ExecutionJob.listedAt, Prod.Lex.toLex_le_toLex]
  rw [claimNextRow, hbefore]

end ClaimNext

open ExecutionJob

end Zentra
