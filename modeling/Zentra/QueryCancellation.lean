import Zentra.QuerySettlement

/-!
# Cancelled queries do no work

A query that is rejected while it waits for its locks is given to its worker all the same
when it has them, since only its signal is looked at; and `cancelQuery` returns true for a
query that is running, whose result is used unless its signal has been aborted.

* `honoured_of_honours` — when all steps are so, cancellations are honoured in every state;
* `dishonoured_cancellations` — a run for each of the two ways to fail.
-/

open StepTrace

namespace Zentra

namespace QueryPool

namespace Coordinator

variable {config : PoolConfig} {s t : Coordinator}

def OnWorker (s : Coordinator) (k : Nat) : Prop := ∃ w, k ∈ (s.worker w).queries

/-- A worker has been called with the query, and its answer is awaited. -/
def Calling (s : Coordinator) (k : Nat) : Prop := ∃ flow, s.place k = .calling flow

/-- **Cancellation.**  A query that was cancelled or timed out before it was given to a worker
is never executed, and a query for which `cancelQuery` has returned true is rejected as
cancelled, or still waits for the worker to say so. -/
structure Honoured (s : Coordinator) : Prop where
  withdrawn : ∀ k, s.withdrawn k = true → s.executed k = false ∧ ¬ s.OnWorker k
  reported : ∀ k, s.reported k = true →
    (s.promise k).Cancelled ∨ s.promise k = .pending ∧ s.Calling k

structure Tracked (s : Coordinator) (k : Nat) : Prop where
  fresh : s.admitted ≤ k →
    s.withdrawn k = false ∧ s.executed k = false ∧ s.reported k = false ∧ ¬ s.OnWorker k
  dispatched : s.OnWorker k ∨ s.executed k = true → (s.place k).Undispatched = false
  running : s.OnWorker k → s.Calling k ∨ s.promise k ≠ .pending
  withdrawn : s.withdrawn k = true →
    s.place k ≠ .overflow ∧ s.executed k = false ∧ ¬ s.OnWorker k ∧ s.promise k ≠ .pending
  reported : s.reported k = true → ¬ s.Active k ∧ s.timer k = false ∧
    ((s.promise k).Cancelled ∨ s.promise k = .pending ∧ s.Calling k ∧
      (s.call k = .pending ∨ (s.call k).Cancelled))

theorem honoured_of_tracked (h : ∀ k, s.Tracked k) : s.Honoured where
  withdrawn := fun k hk => ⟨((h k).withdrawn hk).2.1, ((h k).withdrawn hk).2.2.1⟩
  reported := by
    intro k hk
    rcases ((h k).reported hk).2.2 with hcancelled | ⟨hpending, hcalling, -⟩
    · exact .inl hcancelled
    · exact .inr ⟨hpending, hcalling⟩

/-- Nothing that is known of the query has changed, but it may have lost its timer and its
entry, and may have left its worker. -/
structure SameAt (s t : Coordinator) (k : Nat) : Prop where
  admitted : s.admitted ≤ t.admitted
  place : t.place k = s.place k
  promise : t.promise k = s.promise k
  call : t.call k = s.call k
  timer : t.timer k = true → s.timer k = true
  active : t.Active k → s.Active k
  onWorker : t.OnWorker k → s.OnWorker k
  withdrawn : t.withdrawn k = s.withdrawn k
  executed : t.executed k = s.executed k
  reported : t.reported k = s.reported k

theorem Tracked.congr {k : Nat} (h : s.Tracked k) (hsame : SameAt s t k) : t.Tracked k := by
  obtain ⟨hadmitted, hplace, hpromise, hcall, htimer, hactive, honWorker, hwithdrawn,
    hexecuted, hreported⟩ := hsame
  obtain ⟨fresh, dispatched, running, withdrawn, reported⟩ := h
  constructor <;> simp only [Calling] at * <;> grind

theorem tracked_settle {k : Nat} {value : Settlement} (h : ∀ j, s.Tracked j)
    (hk : k < s.admitted) (hvalue : value ≠ .pending)
    (hplace : value.Withdrawn → s.place k ≠ .overflow)
    (hreported : s.reported k = true → s.promise k = .pending → value.Cancelled) :
    ∀ j, (s.settle k value).Tracked j := by
  intro j
  by_cases hj : j = k
  · subst hj
    obtain ⟨fresh, dispatched, running, withdrawn, reported⟩ := h j
    have hsettled : (s.settle j value).promise j ≠ .pending := by
      simp [Coordinator.settle, Settlement.settle_ne hvalue]
    constructor
    · exact fun hnew => absurd hk (Nat.not_lt.2 hnew)
    · exact dispatched
    · exact fun _ => .inr hsettled
    · intro hwithdrawn
      by_cases hold : s.withdrawn j = true
      · obtain ⟨hplace, hexecuted, honWorker, -⟩ := withdrawn hold
        exact ⟨hplace, hexecuted, honWorker, hsettled⟩
      · have hnew : s.promise j = .pending ∧ value.Withdrawn ∧
            (s.place j).Undispatched = true := by
          simpa [Coordinator.settle, hold, and_assoc] using hwithdrawn
        have hnot : ¬ (s.OnWorker j ∨ s.executed j = true) := fun hcase => by
          rw [dispatched hcase] at hnew
          exact absurd hnew.2.2 (by simp)
        rw [not_or] at hnot
        have hexecuted : s.executed j = false := by simpa using hnot.2
        exact ⟨hplace hnew.2.1, hexecuted, hnot.1, hsettled⟩
    · intro hrep
      obtain ⟨hactive, htimer, hstate⟩ := reported hrep
      refine ⟨hactive, htimer, .inl ?_⟩
      rcases hstate with hcancelled | ⟨hpending, -, -⟩
      · have hne : s.promise j ≠ .pending := fun hpending => by
          rw [hpending] at hcancelled
          exact hcancelled
        simpa [Coordinator.settle, Settlement.settle_of_ne hne] using hcancelled
      · simpa [Coordinator.settle, hpending, Settlement.settle] using hreported hrep hpending
  · refine (h j).congr ?_
    constructor <;> simp [Coordinator.settle, hj, Active, OnWorker]

theorem tracked_cleanupActiveQuery (h : ∀ j, s.Tracked j) (id : String) :
    ∀ j, (s.cleanupActiveQuery id).Tracked j := by
  intro j
  refine (h j).congr ⟨le_rfl, rfl, rfl, rfl, ?_, ?_, fun hon => hon, rfl, rfl, rfl⟩
  · intro htimer
    exact (Bool.and_eq_true_iff.1 htimer).1
  · intro hactive
    obtain ⟨e, hmem, he⟩ := List.mem_map.1 hactive
    exact List.mem_map.2 ⟨e, (List.mem_filter.1 hmem).1, he⟩

theorem tracked_finishItem {k : Nat} {value : Settlement} (h : ∀ j, s.Tracked j)
    (hk : k < s.admitted) (hvalue : value ≠ .pending)
    (hplace : value.Withdrawn → s.place k ≠ .overflow)
    (hreported : s.reported k = true → s.promise k = .pending → value.Cancelled) :
    ∀ j, (s.finishItem k value).Tracked j :=
  tracked_settle (tracked_cleanupActiveQuery h _) hk hvalue hplace hreported

theorem tracked_setPlace {k : Nat} {place : Place} (h : ∀ j, s.Tracked j)
    (hk : k < s.admitted)
    (hwithdrawn : s.withdrawn k = true → place ≠ .overflow)
    (hdispatched : s.OnWorker k ∨ s.executed k = true → place.Undispatched = false)
    (hrunning : s.OnWorker k → (∃ flow, place = .calling flow) ∨ s.promise k ≠ .pending)
    (hreported : s.reported k = true → s.promise k = .pending →
      ∃ flow, place = .calling flow) :
    ∀ j, (s.setPlace k place).Tracked j := by
  intro j
  by_cases hj : j = k
  · subst hj
    obtain ⟨fresh, dispatched, running, withdrawn, reported⟩ := h j
    have hthere : (s.setPlace j place).place j = place := by simp [Coordinator.setPlace]
    constructor
    · exact fun hnew => absurd hk (Nat.not_lt.2 hnew)
    · rw [hthere]
      exact hdispatched
    · rw [Calling, hthere]
      exact hrunning
    · rw [hthere]
      intro hold
      exact ⟨hwithdrawn hold, (withdrawn hold).2⟩
    · rw [Calling, hthere]
      intro hrep
      obtain ⟨hactive, htimer, hstate⟩ := reported hrep
      refine ⟨hactive, htimer, ?_⟩
      rcases hstate with hcancelled | ⟨hpending, -, hcall⟩
      · exact .inl hcancelled
      · exact .inr ⟨hpending, hreported hrep hpending, hcall⟩
  · refine (h j).congr ?_
    constructor <;> simp [Coordinator.setPlace, hj, Active, OnWorker]

/-- A query that has been settled, or whose worker is not awaited, gets any place past the
dispatch. -/
theorem tracked_setPlace_past {k : Nat} {place : Place} (h : ∀ j, s.Tracked j)
    (hk : k < s.admitted) (hplace : place.Undispatched = false)
    (hpast : s.promise k ≠ .pending ∨ ¬ s.Calling k) : ∀ j, (s.setPlace k place).Tracked j := by
  refine tracked_setPlace h hk (fun _ hoverflow => ?_) (fun _ => hplace) (fun honWorker => ?_)
    (fun hrep hpending => ?_)
  · rw [hoverflow] at hplace
    cases hplace
  · rcases hpast with hsettled | hcalling
    · exact .inr hsettled
    · exact .inr (((h k).running honWorker).resolve_left hcalling)
  · rcases hpast with hsettled | hcalling
    · exact absurd hpending hsettled
    · rcases ((h k).reported hrep).2.2 with hcancelled | ⟨-, hcall, -⟩
      · rw [hpending] at hcancelled
        exact hcancelled.elim
      · exact absurd hcall hcalling

theorem tracked_settleCall {k : Nat} {value : Settlement} (h : ∀ j, s.Tracked j)
    (hreported : s.reported k = true → s.promise k = .pending →
      s.call k = .pending → value.Cancelled) :
    ∀ j, (s.settleCall k value).Tracked j := by
  intro j
  by_cases hj : j = k
  · subst hj
    obtain ⟨fresh, dispatched, running, withdrawn, reported⟩ := h j
    refine ⟨fresh, dispatched, running, withdrawn, fun hrep => ?_⟩
    obtain ⟨hactive, htimer, hstate⟩ := reported hrep
    refine ⟨hactive, htimer, ?_⟩
    rcases hstate with hcancelled | ⟨hpending, hcalling, hcall⟩
    · exact .inl hcancelled
    · refine .inr ⟨hpending, hcalling, .inr ?_⟩
      rcases hcall with hcall | hcall
      · simpa [Coordinator.settleCall, hcall, Settlement.settle] using
          hreported hrep hpending hcall
      · have hne : s.call j ≠ .pending := fun hnot => by
          rw [hnot] at hcall
          exact hcall
        simpa [Coordinator.settleCall, Settlement.settle_of_ne hne] using hcall
  · refine (h j).congr ?_
    constructor <;> simp [Coordinator.settleCall, hj, Active, OnWorker]

theorem tracked_beginCurrent {w : Nat} (h : ∀ j, s.Tracked j) :
    ∀ j, (s.beginCurrent w).Tracked j := by
  unfold beginCurrent
  split
  · exact h
  · rename_i k hcurrent
    have honWorker : s.OnWorker k := ⟨w, by simp [WorkerInstance.queries, hcurrent]⟩
    split
    · exact tracked_settleCall h fun _ _ _ => trivial
    · intro j
      by_cases hj : j = k
      · subst hj
        obtain ⟨fresh, dispatched, running, withdrawn, reported⟩ := h j
        exact ⟨fun hnew => absurd honWorker (fresh hnew).2.2.2,
          fun _ => dispatched (.inl honWorker), running,
          fun hold => absurd honWorker (withdrawn hold).2.2.1, reported⟩
      · refine (h j).congr ?_
        constructor <;> simp [hj, Active, OnWorker]

theorem tracked_setWorker {w : Nat} {worker : WorkerInstance} (h : ∀ j, s.Tracked j)
    (hless : ∀ k ∈ worker.queries, k ∈ (s.worker w).queries) :
    ∀ j, (s.setWorker w worker).Tracked j := by
  intro j
  refine (h j).congr ⟨le_rfl, rfl, rfl, rfl, id, id, ?_, rfl, rfl, rfl⟩
  intro honWorker
  obtain ⟨v, hv⟩ := honWorker
  by_cases hvw : v = w
  · subst hvw
    refine ⟨v, hless j ?_⟩
    simpa [Coordinator.setWorker] using hv
  · refine ⟨v, ?_⟩
    simpa [Coordinator.setWorker, hvw] using hv

theorem mem_queries_startNext {worker : WorkerInstance} (h : worker.currentQuery = none)
    (k : Nat) : k ∈ worker.startNext.queries ↔ k ∈ worker.queries := by
  unfold WorkerInstance.startNext
  split
  · rfl
  · rename_i next rest hqueue
    simp [WorkerInstance.queries, hqueue, h, or_comm]

theorem mem_queries_push {worker : WorkerInstance} (j k : Nat) :
    j ∈ (worker.push k).queries ↔ j = k ∨ j ∈ worker.queries := by
  unfold WorkerInstance.push WorkerInstance.processQueue
  split
  · rename_i hidle
    rw [mem_queries_startNext hidle.1]
    simp [WorkerInstance.queries]
    tauto
  · simp [WorkerInstance.queries]
    tauto

theorem mem_queries_advance {worker : WorkerInstance} {k : Nat}
    (h : k ∈ worker.advance.queries) : k ∈ worker.queries := by
  unfold WorkerInstance.advance at h
  split at h
  · rename_i hqueue
    simp [WorkerInstance.queries, hqueue] at h
  · have hqueue : k ∈ worker.queue := by
      split at h
      · simpa [WorkerInstance.queries] using h
      · rw [mem_queries_startNext rfl] at h
        simpa [WorkerInstance.queries] using h
    exact List.mem_append_left _ hqueue

theorem tracked_execute {k w : Nat} (h : ∀ j, s.Tracked j) (hk : k < s.admitted)
    (hcalling : s.Calling k)
    (hwithdrawn : s.withdrawn k = true → ¬ (s.worker w).Accepts)
    (hreported : s.reported k = true → s.promise k ≠ .pending) :
    ∀ j, (s.execute k w).Tracked j := by
  unfold execute
  split
  · exact tracked_settleCall h fun hrep hpending => absurd hpending (hreported hrep)
  · rename_i haccepts
    have haccepts : (s.worker w).Accepts := not_not.1 haccepts
    have hqueued : ∀ j, ({ s.setWorker w ((s.worker w).push k) with
        listeners := s.listeners ++
          if (s.request k).signal.isSome then [Listener.worker w k] else [] }).Tracked j := by
      intro j
      by_cases hj : j = k
      · subst hj
        obtain ⟨fresh, dispatched, running, withdrawn, reported⟩ := h j
        refine ⟨fun hnew => absurd hk (Nat.not_lt.2 hnew), fun _ => ?_, fun _ => .inl hcalling,
          fun hold => absurd haccepts (hwithdrawn hold), reported⟩
        obtain ⟨flow, hflow⟩ := hcalling
        show (s.place j).Undispatched = false
        rw [hflow]
        rfl
      · refine (h j).congr ⟨le_rfl, rfl, rfl, rfl, id, id, ?_, rfl, rfl, rfl⟩
        intro honWorker
        obtain ⟨v, hv⟩ := honWorker
        refine ⟨v, ?_⟩
        by_cases hvw : v = w
        · subst hvw
          have hmem : j ∈ ((s.worker v).push k).queries := by
            simpa [Coordinator.setWorker] using hv
          exact ((mem_queries_push j k).1 hmem).resolve_left hj
        · simpa [Coordinator.setWorker, hvw] using hv
    dsimp only
    split
    · exact tracked_beginCurrent hqueued
    · exact hqueued

theorem tracked_cancelOnWorker (h : ∀ j, s.Tracked j) (w : Nat) (id : String) :
    ∀ j, (s.cancelOnWorker w id).Tracked j := by
  unfold cancelOnWorker
  split
  · rename_i k _
    have hleft : ∀ j,
        (s.setWorker w { s.worker w with queue := (s.worker w).queue.erase k }).Tracked j := by
      refine tracked_setWorker h fun j hj => ?_
      rcases List.mem_append.1 hj with hqueue | hcurrent
      · exact List.mem_append_left _ (List.mem_of_mem_erase hqueue)
      · exact List.mem_append_right _ hcurrent
    have hcalled := @tracked_settleCall _ k (.rejected (.cancelled .user)) hleft
      fun _ _ _ => trivial
    exact fun j => ⟨(hcalled j).fresh, (hcalled j).dispatched, (hcalled j).running,
      (hcalled j).withdrawn, (hcalled j).reported⟩
  · exact h

theorem tracked_shutdownPool (h : ∀ j, s.Tracked j) : ∀ j, s.shutdownPool.Tracked j := by
  unfold shutdownPool
  split
  · exact h
  · intro j
    obtain ⟨fresh, dispatched, running, withdrawn, reported⟩ := h j
    have hless : ∀ w, j ∈ (if s.Pooled w then (s.worker w).close else s.worker w).queries →
        s.OnWorker j := by
      intro w hw
      split at hw
      · simp [WorkerInstance.close, WorkerInstance.queries] at hw
      · exact ⟨w, hw⟩
    refine ⟨fun hnew => ?_, fun hcase => ?_, fun hon => ?_, fun hold => ?_, fun hrep => ?_⟩
    · obtain ⟨hwithdrawn, hexecuted, hrep, hon⟩ := fresh hnew
      exact ⟨hwithdrawn, hexecuted, hrep, fun hon' => hon (hless _ hon'.choose_spec)⟩
    · exact dispatched (hcase.imp_left fun hon => hless _ hon.choose_spec)
    · exact running (hless _ hon.choose_spec)
    · obtain ⟨hplace, hexecuted, hon, hsettled⟩ := withdrawn hold
      exact ⟨hplace, hexecuted, fun hon' => hon (hless _ hon'.choose_spec), hsettled⟩
    · obtain ⟨hactive, htimer, hstate⟩ := reported hrep
      refine ⟨hactive, htimer, hstate.imp_right fun ⟨hpending, hcalling, hcall⟩ => ?_⟩
      refine ⟨hpending, hcalling, ?_⟩
      dsimp only
      split
      · right
        rcases hcall with hcall | hcall
        · simp [hcall, Settlement.settle, Settlement.Cancelled]
        · have hne : s.call j ≠ .pending := fun hnot => by
            rw [hnot] at hcall
            exact hcall
          rwa [Settlement.settle_of_ne hne]
      · exact hcall

/-- No worker has been called with the query. -/
structure Idle (s : Coordinator) (k : Nat) : Prop where
  admitted : k < s.admitted
  onWorker : ¬ s.OnWorker k
  executed : s.executed k = false
  calling : ¬ s.Calling k

theorem Tracked.idle {k : Nat} (h : s.Tracked k) (hplace : (s.place k).Undispatched = true)
    (hk : k < s.admitted) : s.Idle k := by
  have hnot : ¬ (s.OnWorker k ∨ s.executed k = true) := fun hcase => by
    rw [h.dispatched hcase] at hplace
    cases hplace
  rw [not_or] at hnot
  refine ⟨hk, hnot.1, by simpa using hnot.2, fun ⟨flow, hflow⟩ => ?_⟩
  rw [hflow] at hplace
  cases hplace

/-- A query that has been cancelled is settled before a worker is called with it. -/
theorem Tracked.settled_of_reported {k : Nat} (h : s.Tracked k) (hcalling : ¬ s.Calling k)
    (hrep : s.reported k = true) : s.promise k ≠ .pending := by
  intro hpending
  rcases (h.reported hrep).2.2 with hcancelled | ⟨-, hcall, -⟩
  · rw [hpending] at hcancelled
    exact hcancelled
  · exact hcalling hcall

theorem tracked_afterLocks {k : Nat} {flow : Flow} (h : ∀ j, s.Tracked j) (hidle : s.Idle k)
    (hwithdrawn : s.withdrawn k = true → ¬ s.Dispatches k flow) :
    ∀ j, (s.afterLocks k flow).Tracked j := by
  have hbusy : ¬ (s.OnWorker k ∨ s.executed k = true) := by
    simp [hidle.onWorker, hidle.executed]
  have hsettled := (h k).settled_of_reported hidle.calling
  have hset : ∀ place, place ≠ .overflow → ∀ j, (s.setPlace k place).Tracked j := by
    intro place hplace
    exact tracked_setPlace h hidle.admitted (fun _ => hplace) (fun hcase => absurd hcase hbusy)
      (fun hon => absurd hon hidle.onWorker)
      (fun hrep hpending => absurd hpending (hsettled hrep))
  unfold afterLocks
  split
  · have hreturned := hset (.returned (some (.cancelled .user)) flow.viaOverflow) (by simp)
    exact fun j => ⟨(hreturned j).fresh, (hreturned j).dispatched, (hreturned j).running,
      (hreturned j).withdrawn, (hreturned j).reported⟩
  · rename_i haborted
    have haborted : s.isAborted k = false := by simpa using haborted
    unfold executeQueryOnWorker
    rw [if_neg (by simp [haborted])]
    refine tracked_execute (hset (.calling flow) (by simp)) hidle.admitted ?_ ?_ hsettled
    · exact ⟨flow, by simp [Coordinator.setPlace]⟩
    · exact fun hold haccepts => hwithdrawn hold ⟨haborted, haccepts⟩

theorem tracked_executeQueryOnWorkerWithLocks {k w : Nat} {viaOverflow : Bool}
    (h : ∀ j, s.Tracked j) (hidle : s.Idle k) (hwithdrawn : s.withdrawn k = false) :
    ∀ j, (s.executeQueryOnWorkerWithLocks config k w viaOverflow).Tracked j := by
  unfold executeQueryOnWorkerWithLocks
  split
  · have hset := @tracked_setPlace _ _
      (.locking ⟨w, s.locks.ticketsOf (s.request k).tables (s.request k).mode, viaOverflow⟩)
      h hidle.admitted (by simp)
      (fun hcase => absurd hcase (by simp [hidle.onWorker, hidle.executed]))
      (fun hon => absurd hon hidle.onWorker)
      (fun hrep hpending => absurd hpending ((h k).settled_of_reported hidle.calling hrep))
    exact fun j => ⟨(hset j).fresh, (hset j).dispatched, (hset j).running,
      (hset j).withdrawn, (hset j).reported⟩
  · exact tracked_afterLocks h hidle fun hold => by simp [hwithdrawn] at hold

theorem tracked_dispatchOverflow (n : Nat) (hsound : Sound False none s)
    (h : ∀ j, s.Tracked j) : ∀ j, (dispatchOverflow config n s).Tracked j := by
  induction n generalizing s with
  | zero => exact h
  | succ n ih =>
      unfold dispatchOverflow
      split
      · rename_i w k rest _ hdequeue
        have hmem : k ∈ s.waiting := by
          rw [waiting, PriorityQueue.toArray_dequeue hdequeue]
          exact List.mem_cons_self
        have hplace : s.place k = .overflow := (hsound.waits k (by simp)).1 hmem
        have hidle : s.Idle k := (h k).idle (by simp [hplace, Place.Undispatched])
          (hsound.bounded k hmem)
        have hwithdrawn : s.withdrawn k = false := by
          cases hold : s.withdrawn k with
          | false => rfl
          | true => exact absurd hplace ((h k).withdrawn hold).1
        have hleft : ∀ j, ({ s with overflowQueue := rest }).Tracked j := fun j =>
          ⟨(h j).fresh, (h j).dispatched, (h j).running, (h j).withdrawn, (h j).reported⟩
        refine ih ?_ (tracked_executeQueryOnWorkerWithLocks hleft ?_ hwithdrawn)
        · exact (hsound.dequeue hdequeue).executeQueryOnWorkerWithLocks fun hs => hs.elim
        · exact ⟨hidle.admitted, hidle.onWorker, hidle.executed, hidle.calling⟩
      · exact h

theorem tracked_processOverflowQueue (hsound : Sound False none s) (h : ∀ j, s.Tracked j) :
    ∀ j, (s.processOverflowQueue config).Tracked j := by
  unfold processOverflowQueue
  split
  · have hdispatched := @tracked_dispatchOverflow config _ maxBatchSize hsound h
    dsimp only
    split
    · exact fun j => ⟨(hdispatched j).fresh, (hdispatched j).dispatched,
        (hdispatched j).running, (hdispatched j).withdrawn, (hdispatched j).reported⟩
    · exact hdispatched
  · exact h

theorem tracked_enlist (h : ∀ j, s.Tracked j) (r : QueryRequest) :
    ∀ j, (s.enlist r).Tracked j := by
  intro j
  by_cases hj : j = s.admitted
  · subst hj
    obtain ⟨hwithdrawn, hexecuted, hrep, hon⟩ := (h s.admitted).fresh le_rfl
    refine ⟨fun hnew => absurd hnew (Nat.not_succ_le_self _), fun hcase => ?_,
      fun hcase => absurd hcase hon, fun hold => ?_, fun hcase => ?_⟩
    · rcases hcase with hcase | hcase
      · exact absurd hcase hon
      · exact absurd (hcase.symm.trans hexecuted) (by simp)
    · exact absurd (hold.symm.trans hwithdrawn) (by simp)
    · exact absurd (hcase.symm.trans hrep) (by simp)
  · refine (h j).congr ⟨Nat.le_succ _, rfl, rfl, rfl, fun htimer => ?_, fun hactive => ?_,
      fun hon => hon, rfl, rfl, rfl⟩
    · simpa [Coordinator.enlist, hj] using htimer
    · obtain ⟨e, hmem, rfl⟩ := List.mem_map.1 hactive
      rcases mem_track hmem with rfl | hold
      · exact absurd rfl hj
      · exact List.mem_map.2 ⟨e, hold, rfl⟩

theorem tracked_enqueueOverflow {k : Nat} (h : ∀ j, s.Tracked j) (hidle : s.Idle k)
    (hwithdrawn : s.withdrawn k = false) : ∀ j, (s.enqueueOverflow config k).Tracked j := by
  have hsettled := (h k).settled_of_reported hidle.calling
  unfold enqueueOverflow
  split
  · have hfinished := @tracked_finishItem _ _ (.rejected .capacity) h hidle.admitted (by simp)
      (fun hcase => absurd hcase (by simp [Settlement.Withdrawn, Settlement.Cancelled]))
      (fun hrep hpending => absurd hpending (hsettled hrep))
    exact tracked_setPlace_past hfinished hidle.admitted rfl (.inl (promise_finishItem (by simp)))
  · have hset := @tracked_setPlace _ _ .overflow h hidle.admitted
      (fun hold => absurd (hold.symm.trans hwithdrawn) (by simp))
      (fun hcase => absurd hcase (by simp [hidle.onWorker, hidle.executed]))
      (fun hon => absurd hon hidle.onWorker)
      (fun hrep hpending => absurd hpending (hsettled hrep))
    exact fun j => ⟨(hset j).fresh, (hset j).dispatched, (hset j).running,
      (hset j).withdrawn, (hset j).reported⟩

theorem tracked_query (hsound : Sound False none s) (h : ∀ j, s.Tracked j) (r : QueryRequest) :
    ∀ j, (s.query config r).Tracked j := by
  unfold query
  split
  · have hadmit := tracked_enlist h r
    have hopen := hsound.enlist r
    obtain ⟨hwithdrawn, hexecuted, -, hon⟩ := (h s.admitted).fresh le_rfl
    have hidle : (s.enlist r).Idle s.admitted := by
      refine ⟨Nat.lt_succ_self _, hon, hexecuted, fun hcalling => ?_⟩
      obtain ⟨flow, hflow⟩ := hcalling
      have hplace : s.place s.admitted = .calling flow := hflow
      rw [hsound.placed _ le_rfl] at hplace
      cases hplace
    unfold executeQuery
    split
    · exact tracked_processOverflowQueue hopen.enqueueOverflow
        (tracked_enqueueOverflow hadmit hidle hwithdrawn)
    · exact tracked_executeQueryOnWorkerWithLocks hadmit hidle hwithdrawn
  · exact h

/-- Whom `cancelQuery` finds under the id is the query that it rejects, and no worker has
answered that query with anything but a cancellation. -/
def CancelsCleanly (s : Coordinator) (id : String) : Prop :=
  ∀ k ∈ s.entry id, ∀ j ∈ s.found id,
    j = k ∧ (s.call k = .pending ∨ (s.call k).Cancelled)

instance (s : Coordinator) (id : String) : Decidable (s.CancelsCleanly id) :=
  inferInstanceAs (Decidable (∀ _ ∈ _, ∀ _ ∈ _, _ ∧ (_ ∨ _)))

/-- Whom `cancelQuery` takes out of the overflow queue is the query that it rejects. -/
def DropsOwn (s : Coordinator) (id : String) : Prop :=
  ∀ k ∈ s.entry id, ∀ j ∈ s.findById id s.waiting, j = k

theorem CancelsCleanly.dropsOwn {id : String} (h : s.CancelsCleanly id) : s.DropsOwn id := by
  intro k hk j hj
  refine (h k hk j ?_).1
  have hfind : s.findById id s.waiting = some j := hj
  simp [found, hfind]

theorem tracked_cancelQuery (hsound : Sound False none s) (h : ∀ j, s.Tracked j) {id : String}
    (hown : s.DropsOwn id) : ∀ j, (s.cancelQuery id).1.Tracked j := by
  unfold cancelQuery
  cases hentry : s.entry id with
  | none => exact h
  | some k =>
      have hcleaned := tracked_cleanupActiveQuery h id
      dsimp only
      cases hremove : s.overflowQueue.remove fun j => (s.request j).id = id with
      | none =>
          dsimp only
          split
          · exact tracked_cancelOnWorker hcleaned _ _
          · exact hcleaned
      | some pair =>
          obtain ⟨removed, rest⟩ := pair
          have hfind := (PriorityQueue.toArray_remove hremove).1
          obtain rfl : removed = k := hown k hentry removed hfind
          have hmem : removed ∈ s.waiting := List.mem_of_find?_eq_some hfind
          have hplace := (hsound.waits removed (by simp)).1 hmem
          have hidle := (h removed).idle (by simp [hplace, Place.Undispatched])
            (hsound.bounded removed hmem)
          have hactive : s.Active removed := List.mem_map.2 ⟨_, mem_of_entry hentry, rfl⟩
          intro j
          by_cases hj : j = removed
          · subst hj
            have hsettled : ((s.cleanupActiveQuery id).settle j
                (.rejected (.cancelled .user))).promise j ≠ .pending := by
              simp [Coordinator.settle, Settlement.settle_ne]
            constructor
            · exact fun hnew => absurd hidle.admitted (Nat.not_lt.2 hnew)
            · exact fun _ => by simp [Place.Undispatched]
            · exact fun _ => .inr hsettled
            · exact fun _ => ⟨by simp, hidle.executed, hidle.onWorker, hsettled⟩
            · exact fun hrep => absurd hactive ((h j).reported hrep).1
          · refine (hcleaned j).congr ?_
            constructor <;>
              simp [Coordinator.settle, Coordinator.cleanupActiveQuery, hj, Active, OnWorker]

/-- What a call of `cancelQuery` that returns true leaves of the query. -/
theorem cancelled_of_found (hsound : Sound False none s) (h : ∀ j, s.Tracked j) {id : String}
    {k : Nat} (hclean : s.CancelsCleanly id) (hentry : s.entry id = some k)
    (htrue : (s.cancelQuery id).2 = true) :
    (s.cancelQuery id).1.timer k = false ∧
      (((s.cancelQuery id).1.promise k).Cancelled ∨
        (s.cancelQuery id).1.promise k = .pending ∧ (s.cancelQuery id).1.Calling k ∧
          ((s.cancelQuery id).1.call k = .pending ∨
            ((s.cancelQuery id).1.call k).Cancelled)) := by
  have hpending : s.promise k = .pending := (hsound.entries _ (mem_of_entry hentry)).2
  unfold cancelQuery at htrue ⊢
  simp only [hentry] at htrue ⊢
  cases hremove : s.overflowQueue.remove fun j => (s.request j).id = id with
  | some pair =>
      obtain ⟨removed, rest⟩ := pair
      refine ⟨by simp [Coordinator.settle, Coordinator.cleanupActiveQuery, hentry], .inl ?_⟩
      simp [Coordinator.settle, Coordinator.cleanupActiveQuery, hpending, Settlement.settle,
        Settlement.Cancelled]
  | none =>
      simp only [hremove] at htrue ⊢
      cases hworker : s.workerWith id with
      | none => simp [hworker] at htrue
      | some w =>
          dsimp only
          have hwaiting : s.findById id s.waiting = none := PriorityQueue.remove_eq_none.1 hremove
          have hsome : ((s.worker w).pooled &&
              (s.findById id (s.worker w).queries).isSome) = true := by
            simpa using List.find?_some (p := fun v => (s.worker v).pooled &&
              (s.findById id (s.worker v).queries).isSome) hworker
          obtain ⟨j, hj⟩ := Option.isSome_iff_exists.1 (Bool.and_eq_true_iff.1 hsome).2
          have hfound : s.found id = some j := by simp [found, hwaiting, hworker, hj]
          obtain ⟨rfl, hcall⟩ := hclean k hentry j hfound
          have hon : s.OnWorker j := ⟨w, List.mem_of_find?_eq_some hj⟩
          have hcalling : s.Calling j := ((h j).running hon).resolve_right (not_not.2 hpending)
          have htimer : (s.cleanupActiveQuery id).timer j = false := by
            simp [Coordinator.cleanupActiveQuery, hentry]
          unfold cancelOnWorker
          split
          · rename_i k hqueue
            have hqueue : s.findById id (s.worker w).queue = some k := hqueue
            obtain rfl : k = j := by
              have hleft : s.findById id (s.worker w).queries = some k := by
                simp only [findById, WorkerInstance.queries, List.find?_append] at hqueue ⊢
                simp [hqueue]
              exact Option.some.inj (hleft.symm.trans hj)
            refine ⟨htimer, .inr ⟨hpending, hcalling, .inr ?_⟩⟩
            have hafter : ((s.cleanupActiveQuery id).dropQueued w k).call k =
                Settlement.settle (.rejected (.cancelled .user)) (s.call k) := by
              simp [Coordinator.dropQueued, Coordinator.cleanupActiveQuery]
            rw [hafter]
            rcases hcall with hcall | hcall
            · rw [hcall]
              trivial
            · rwa [Settlement.settle_of_ne]
              intro hnot
              rw [hnot] at hcall
              exact hcall
          · exact ⟨htimer, .inr ⟨hpending, hcalling, hcall⟩⟩

theorem tracked_cancel (hsound : Sound False none s) (h : ∀ j, s.Tracked j) {id : String}
    (hclean : s.CancelsCleanly id) : ∀ j, (s.cancel id).Tracked j := by
  have hcancelled := tracked_cancelQuery hsound h hclean.dropsOwn
  intro j
  obtain ⟨fresh, dispatched, running, withdrawn, reported⟩ := hcancelled j
  by_cases hj : (s.cancelQuery id).2 = true ∧ s.entry id = some j
  · obtain ⟨htrue, hentry⟩ := hj
    have hmem := mem_of_entry hentry
    have hadmitted : j < s.admitted := hsound.lt_admitted (List.mem_map.2 ⟨_, hmem, rfl⟩)
    have hid := (hsound.entries _ hmem).1
    have hnot := hsound.not_active_cancelQuery j
    rw [hid] at hnot
    refine ⟨fun hnew => absurd hadmitted (Nat.not_lt.2 ?_), dispatched, running, withdrawn,
      fun _ => ⟨hnot, cancelled_of_found hsound h hclean hentry htrue⟩⟩
    rw [← admitted_cancelQuery s id]
    exact hnew
  · have hsame : (s.cancel id).reported j = (s.cancelQuery id).1.reported j := by
      have hfalse : ((s.cancelQuery id).2 && decide (s.entry id = some j)) = false := by
        simpa using hj
      simp [Coordinator.cancel, hfalse]
    refine ⟨fun hnew => ?_, dispatched, running, withdrawn, fun hrep => ?_⟩
    · rw [hsame]
      exact fresh hnew
    · exact reported (hsame ▸ hrep)

/-- Whatever waits for a worker under the id of the query is the query itself, with its
entry. -/
def TimesOutOwn (s : Coordinator) (k : Nat) : Prop :=
  ∀ j ∈ s.findById (s.request k).id s.waiting, j = k ∧ s.entry (s.request k).id = some k

instance (s : Coordinator) (k : Nat) : Decidable (s.TimesOutOwn k) :=
  inferInstanceAs (Decidable (∀ _ ∈ _, _ ∧ _))

theorem TimesOutOwn.dropsOwn {k : Nat} (h : s.TimesOutOwn k) :
    s.DropsOwn (s.request k).id := by
  intro e he j hj
  obtain ⟨rfl, hentry⟩ := h j hj
  exact Option.some.inj (hentry.symm.trans he)

/-- `cancelQuery` changes no place but that of a query that it takes out of the overflow
queue. -/
theorem place_cancelQuery (id : String) (k : Nat) :
    (s.cancelQuery id).1.place k = s.place k ∨ (s.cancelQuery id).1.place k = .over := by
  unfold cancelQuery
  split
  · exact .inl rfl
  · dsimp only
    split
    · rename_i removed rest _
      by_cases hk : k = removed
      · simp [hk]
      · simp [hk]
    · split
      · rw [(sameQueries_cancelOnWorker _ _ _).place]
        exact .inl rfl
      · exact .inl rfl

theorem reported_cancelQuery (id : String) :
    (s.cancelQuery id).1.reported = s.reported := by
  unfold cancelQuery
  split
  · rfl
  · dsimp only
    split
    · rfl
    · split
      · unfold cancelOnWorker
        split <;> rfl
      · rfl

theorem place_of_timesOutOwn {k : Nat} (hsound : Sound False none s) (hown : s.TimesOutOwn k) :
    (s.cancelQuery (s.request k).id).1.place k ≠ .overflow := by
  by_cases hplace : s.place k = .overflow
  · have hmem : k ∈ s.waiting := (hsound.waits k (by simp)).2 hplace
    cases hfind : s.findById (s.request k).id s.waiting with
    | none =>
        have hnone := List.find?_eq_none.1 hfind k hmem
        simp at hnone
    | some j =>
        obtain ⟨rfl, hentry⟩ := hown j hfind
        unfold cancelQuery
        simp only [hentry]
        cases hremove : s.overflowQueue.remove fun i => (s.request i).id = (s.request j).id with
        | none =>
            have hnone := PriorityQueue.remove_eq_none.1 hremove
            exact absurd (hfind.symm.trans hnone) (by simp)
        | some pair =>
            have hpair := (PriorityQueue.toArray_remove hremove).1
            have hj : pair.1 = j := Option.some.inj (hpair.symm.trans hfind)
            simp [hj]
  · rcases place_cancelQuery (s := s) (s.request k).id k with hsame | hover
    · rwa [hsame]
    · rw [hover]
      simp

theorem tracked_timeOut {k : Nat} (hsound : Sound False none s) (h : ∀ j, s.Tracked j)
    (hk : k < s.admitted) (htimer : s.timer k = true) (hown : s.TimesOutOwn k) :
    ∀ j, (s.timeOut k).Tracked j := by
  have hfired : ∀ j, ({ s with timer := Function.update s.timer k false }).Tracked j := by
    intro j
    refine (h j).congr ⟨le_rfl, rfl, rfl, rfl, fun hj => ?_, id, id, rfl, rfl, rfl⟩
    by_cases hjk : j = k
    · rwa [hjk]
    · simpa [hjk] using hj
  have hsoundFired : Sound False none { s with timer := Function.update s.timer k false } :=
    hsound.congr (by constructor <;> rfl)
  have hcancelled := tracked_cancelQuery hsoundFired hfired hown.dropsOwn
  unfold timeOut
  refine tracked_settle hcancelled ?_ (by simp)
    (fun _ => place_of_timesOutOwn hsoundFired hown) fun hrep _ => ?_
  · rwa [admitted_cancelQuery]
  · rw [reported_cancelQuery] at hrep
    exact absurd htimer (by simp [((h k).reported hrep).2.1])

/-- What a handler of a signal is to cancel. -/
def HandlesCleanly (s : Coordinator) : Listener → Prop
  | .coordinator k => s.CancelsCleanly (s.request k).id
  | .worker _ _ => True

instance (s : Coordinator) : ∀ l, Decidable (s.HandlesCleanly l)
  | .coordinator k => inferInstanceAs (Decidable (s.CancelsCleanly (s.request k).id))
  | .worker _ _ => .isTrue trivial

theorem tracked_handle {l : Listener} (hsound : Sound False none s) (h : ∀ j, s.Tracked j)
    (hclean : s.HandlesCleanly l) :
    ∀ j, (s.handle l).Tracked j := by
  unfold handle
  split
  · have hremoved : ∀ j, ({ s with listeners := s.listeners.erase l }).Tracked j := fun j =>
      ⟨(h j).fresh, (h j).dispatched, (h j).running, (h j).withdrawn, (h j).reported⟩
    have hsoundRemoved : Sound False none { s with listeners := s.listeners.erase l } :=
      hsound.congr (by constructor <;> rfl)
    cases l with
    | coordinator k => exact tracked_cancel hsoundRemoved hremoved hclean
    | worker w k => exact tracked_cancelOnWorker hremoved _ _
  · exact h

theorem tracked_shutdown (hsound : Sound False none s) (h : ∀ j, s.Tracked j) :
    ∀ j, s.shutdown.Tracked j := by
  unfold shutdown
  split
  · exact h
  · refine tracked_shutdownPool fun j => ?_
    obtain ⟨fresh, dispatched, running, withdrawn, reported⟩ := h j
    have hmem := hsound.waits j (by simp)
    have hpast : s.OnWorker j ∨ s.executed j = true → j ∉ s.waiting := by
      intro hcase hwaiting
      have hplace := dispatched hcase
      rw [hmem.1 hwaiting] at hplace
      cases hplace
    have hcalls : s.Calling j → j ∉ s.waiting := by
      intro hcalling hwaiting
      obtain ⟨flow, hflow⟩ := hcalling
      rw [hmem.1 hwaiting] at hflow
      cases hflow
    have hkept : s.promise j ≠ .pending → (if s.Active j ∨ j ∈ s.waiting then
        Settlement.settle (.rejected .shutdown) (s.promise j) else s.promise j) = s.promise j := by
      intro hsettled
      split
      · exact Settlement.settle_of_ne hsettled
      · rfl
    refine ⟨fresh, fun hcase => ?_, fun hon => ?_, fun hold => ?_, fun hrep => ?_⟩
    · simp only [if_neg (hpast hcase)]
      exact dispatched hcase
    · rcases running hon with hcalling | hsettled
      · left
        obtain ⟨flow, hflow⟩ := hcalling
        exact ⟨flow, by simp only [if_neg (hcalls ⟨flow, hflow⟩), hflow]⟩
      · right
        dsimp only
        rwa [hkept hsettled]
    · obtain ⟨hplace, hexecuted, hon, hsettled⟩ := withdrawn hold
      refine ⟨?_, hexecuted, hon, ?_⟩
      · dsimp only
        split
        · simp
        · exact hplace
      · dsimp only
        rwa [hkept hsettled]
    · obtain ⟨hactive, htimer, hstate⟩ := reported hrep
      refine ⟨by simp [Active], by simp [htimer], ?_⟩
      rcases hstate with hcancelled | ⟨hpending, hcalling, hcall⟩
      · left
        dsimp only
        rw [hkept]
        · exact hcancelled
        · intro hpending
          rw [hpending] at hcancelled
          exact hcancelled
      · right
        obtain ⟨flow, hflow⟩ := hcalling
        have hwaiting := hcalls ⟨flow, hflow⟩
        refine ⟨?_, ⟨flow, by simp only [if_neg hwaiting, hflow]⟩, hcall⟩
        simp [hactive, hwaiting, hpending]

/-- The steps that neither give a rejected query to a worker, nor let the worker answer a
cancelled one with anything else. -/
def Honours (s : Coordinator) : Action → Prop
  | .lock k => ∀ flow ∈ s.lockWait k, s.withdrawn k = true → ¬ s.Dispatches k flow
  | .complete w succeeded => ∀ k ∈ (s.worker w).currentQuery, s.reported k = true →
      succeeded = true ∧ s.isAborted k = true
  | .cancel id => s.CancelsCleanly id
  | .handle => ∀ l ∈ s.dispatching.head?, s.HandlesCleanly l
  | .timeOut k => s.TimesOutOwn k
  | _ => True

instance (s : Coordinator) : ∀ a, Decidable (Honours s a)
  | .lock k => inferInstanceAs (Decidable (∀ _ ∈ s.lockWait k, _ → _))
  | .complete w _ => inferInstanceAs (Decidable (∀ _ ∈ (s.worker w).currentQuery, _ → _))
  | .cancel id => inferInstanceAs (Decidable (s.CancelsCleanly id))
  | .handle => inferInstanceAs (Decidable (∀ l ∈ s.dispatching.head?, s.HandlesCleanly l))
  | .timeOut k => inferInstanceAs (Decidable (s.TimesOutOwn k))
  | .submit _ => .isTrue trivial
  | .abort _ => .isTrue trivial
  | .answer _ => .isTrue trivial
  | .release _ => .isTrue trivial
  | .conclude _ => .isTrue trivial
  | .continuation => .isTrue trivial
  | .advance _ => .isTrue trivial
  | .shutdown => .isTrue trivial
  | .addWorker => .isTrue trivial
  | .ready _ => .isTrue trivial
  | .fail _ => .isTrue trivial
  | .shutdownPool => .isTrue trivial
  | .clearPool => .isTrue trivial

theorem tracked_acts {a : Action} (hsound : Sound False none s) (h : ∀ j, s.Tracked j)
    (hhonours : Honours s a) (hacts : s.Acts config a t) : ∀ j, t.Tracked j := by
  cases hacts with
  | submit r => exact tracked_query hsound h r
  | cancel id => exact tracked_cancel hsound h hhonours
  | timeOut htimer hk => exact tracked_timeOut hsound h hk htimer hhonours
  | abort _ =>
      exact fun j => ⟨(h j).fresh, (h j).dispatched, (h j).running, (h j).withdrawn,
        (h j).reported⟩
  | @lock k flow hplace _ =>
      have hidle := (h k).idle (by simp [hplace, Place.Undispatched])
        (hsound.lt_of_place (by simp [hplace]))
      exact tracked_afterLocks h hidle (hhonours flow (by simp [lockWait, hplace]))
  | @answer k flow hplace hcall =>
      have hk : k < s.admitted := hsound.lt_of_place (by simp [hplace])
      have hfinished := @tracked_finishItem _ _ (s.call k) h hk hcall
        (fun _ => by simp [hplace]) fun hrep hpending => by
          rcases ((h k).reported hrep).2.2 with hcancelled | ⟨-, -, hstate⟩
          · rw [hpending] at hcancelled
            exact hcancelled.elim
          · exact hstate.resolve_left hcall
      exact tracked_setPlace_past hfinished hk rfl (.inl (promise_finishItem hcall))
  | @release k flow hplace =>
      have hk : k < s.admitted := hsound.lt_of_place (by simp [hplace])
      have hset := @tracked_setPlace_past _ _ (.returned none flow.viaOverflow) h hk rfl
        (.inr (by simp [Calling, hplace]))
      exact fun j => ⟨(hset j).fresh, (hset j).dispatched, (hset j).running,
        (hset j).withdrawn, (hset j).reported⟩
  | @concludeOverflow k error hplace =>
      have hk : k < s.admitted := hsound.lt_of_place (by simp [hplace])
      have hset := @tracked_setPlace_past _ _ .over h hk rfl
        (.inr (by simp [Calling, hplace]))
      exact fun j => ⟨(hset j).fresh, (hset j).dispatched, (hset j).running,
        (hset j).withdrawn, (hset j).reported⟩
  | @conclude k hplace =>
      have hk : k < s.admitted := hsound.lt_of_place (by simp [hplace])
      refine tracked_processOverflowQueue ?_ (tracked_setPlace_past h hk rfl
        (.inr (by simp [Calling, hplace])))
      exact (hsound.open hk (by simp [hplace])).setPlace (by simp) fun hs => hs.elim
  | @concludeError k error hplace =>
      have hk : k < s.admitted := hsound.lt_of_place (by simp [hplace])
      have hcalling : ¬ s.Calling k := by simp [Calling, hplace]
      have hfinished := @tracked_finishItem _ _ (.rejected error) h hk (by simp)
        (fun _ => by simp [hplace]) fun hrep hpending =>
          absurd hpending ((h k).settled_of_reported hcalling hrep)
      refine tracked_processOverflowQueue ?_ (tracked_setPlace_past hfinished hk rfl
        (.inl (promise_finishItem (by simp))))
      exact ((hsound.open hk (by simp [hplace])).finishItem hk (by simp)).setPlace (by simp)
        fun hs => hs.elim
  | continuation _ =>
      refine tracked_processOverflowQueue ?_ ?_
      · exact ⟨hsound.fresh, hsound.placed, hsound.bounded, hsound.nodup, hsound.waits,
          hsound.out, hsound.entries, hsound.inHand⟩
      · exact fun j => ⟨(h j).fresh, (h j).dispatched, (h j).running, (h j).withdrawn,
          (h j).reported⟩
  | @complete w k succeeded hcurrent hcall =>
      refine tracked_settleCall h fun hrep _ _ => ?_
      obtain ⟨hsucceeded, haborted⟩ := hhonours k hcurrent hrep
      simp [outcome, hsucceeded, haborted, Settlement.Cancelled]
  | @advance w k _ _ =>
      have hleft := @tracked_setWorker _ w (s.worker w).advance h
        fun j hj => mem_queries_advance hj
      exact tracked_beginCurrent fun j => ⟨(hleft j).fresh, (hleft j).dispatched,
        (hleft j).running, (hleft j).withdrawn, (hleft j).reported⟩
  | shutdown => exact tracked_shutdown hsound h
  | addWorker =>
      have hset := @tracked_setWorker _ s.workerCount {} h fun j hj => by
        cases hj
      exact fun j => ⟨(hset j).fresh, (hset j).dispatched, (hset j).running,
        (hset j).withdrawn, (hset j).reported⟩
  | ready _ _ => exact tracked_setWorker h fun j hj => hj
  | fail _ _ => exact tracked_setWorker h fun j hj => hj
  | shutdownPool => exact tracked_shutdownPool h
  | clearPool _ =>
      intro j
      refine (h j).congr ⟨le_rfl, rfl, rfl, rfl, id, id, fun hon => ?_, rfl, rfl, rfl⟩
      obtain ⟨w, hw⟩ := hon
      refine ⟨w, ?_⟩
      dsimp only at hw
      split at hw <;> exact hw

theorem tracked_step {a : Action} (hsound : Sound False none s) (h : ∀ j, s.Tracked j)
    (hhonours : Honours s a) (hstep : s.step config a = some t) : ∀ j, t.Tracked j := by
  rcases step_cases hstep with ⟨rfl, l, rest, hdispatching, rfl⟩ | ⟨-, hacts⟩
  · have hrest : ∀ j, ({ s with dispatching := rest }).Tracked j := fun j =>
      ⟨(h j).fresh, (h j).dispatched, (h j).running, (h j).withdrawn, (h j).reported⟩
    have hsoundRest : Sound False none { s with dispatching := rest } :=
      hsound.congr (by constructor <;> rfl)
    have hclean : s.HandlesCleanly l := hhonours l (by simp [hdispatching])
    exact tracked_handle hsoundRest hrest (by cases l <;> exact hclean)
  · exact tracked_acts hsound h hhonours hacts

theorem tracked_start (k : Nat) : ({} : Coordinator).Tracked k := by
  constructor <;> simp [OnWorker, WorkerInstance.queries]

/-- **Cancellations are honoured.**  When no step gives a rejected query to a worker or
answers a cancelled one, a query that was rejected before its dispatch is never executed, and
a query for which `cancelQuery` has returned true ends as cancelled. -/
theorem honoured_of_honours (config : PoolConfig) (actions : List Action)
    (hhonours : Allowed (step config) Honours {} actions) :
    Always (step config) Honoured {} actions := by
  refine always_of_allowed (fun s => Sound False none s ∧ ∀ j, s.Tracked j)
    (fun s h => honoured_of_tracked h.2) (fun s a t h hallowed hstep => ?_) actions {} ?_ hhonours
  · exact ⟨h.1.step (fun hs => hs.elim) hstep, tracked_step h.1 h.2 hallowed hstep⟩
  · exact ⟨sound_start, tracked_start⟩

/-- A query runs, and its signal is aborted. -/
def abortedWhileRunning : List Action :=
  [.addWorker, .ready 0, .submit { id := "query", signal := some 0 }, .abort 0, .handle,
    .handle, .complete 0 true, .answer 0]

/-- **An aborted query ends as cancelled.** -/
theorem abortedWhileRunning_honoured :
    Allowed (step twoPlaces) Honours {} abortedWhileRunning ∧
    Always (step twoPlaces) Honoured {} abortedWhileRunning ∧
    ∃ s, Exec (step twoPlaces) {} abortedWhileRunning s ∧
      s.reported 0 = true ∧ s.promise 0 = .rejected (.cancelled .user) := by
  have hhonours : Allowed (step twoPlaces) Honours {} abortedWhileRunning := by decide +kernel
  exact ⟨hhonours, honoured_of_honours _ _ hhonours, exists_exec (by decide +kernel)⟩

/-- **Two ways to fail.**  A reader times out while it waits for the table of a writer, and is
executed when it has the table; and a query is cancelled while it runs, and resolved. -/
theorem dishonoured_cancellations :
    (∃ s, Exec (step twoPlaces) {}
        [.addWorker, .ready 0, .submit { id := "writer", tables := ["t"], mode := .write },
          .lock 0, .submit { id := "reader", tables := ["t"], timeoutMs := 100 }, .timeOut 1,
          .complete 0 true, .answer 0, .advance 0, .release 0, .lock 1] s ∧
      s.withdrawn 1 = true ∧ s.promise 1 = .rejected .timeout ∧ s.executed 1 = true) ∧
    ∃ s, Exec (step twoPlaces) {}
        [.addWorker, .ready 0, .submit { id := "query" }, .cancel "query", .complete 0 true,
          .answer 0] s ∧
      s.reported 0 = true ∧ s.promise 0 = .resolved :=
  ⟨exists_exec (by decide +kernel), exists_exec (by decide +kernel)⟩

end Coordinator

end QueryPool

end Zentra
