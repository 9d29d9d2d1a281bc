import Zentra.QueryCoordinator

/-!
# The capacity of the pool

The numbers of active queries and of those that wait for a place are checked where they
grow.  The place with a worker is not: a worker is chosen while it has one, but a query that
waits for locks takes it later.

* `capacity_iff` — the bounds hold along a run exactly when all of its lock waits end so;
* `twoLockWaits_overfull` — two queries that were both promised the last place.
-/

open StepTrace

namespace Zentra

namespace QueryPool

namespace WorkerInstance

variable {worker : WorkerInstance}

theorem queueLength_startNext (h : worker.currentQuery = none) :
    worker.startNext.queueLength = worker.queueLength := by
  unfold startNext
  split
  · rfl
  · rename_i next rest hqueue
    simp [queueLength, hqueue, h]

theorem queueLength_push (k : Nat) :
    (worker.push k).queueLength = worker.queueLength + 1 := by
  unfold push processQueue
  split
  · rename_i hidle
    rw [queueLength_startNext hidle.1]
    simp [queueLength]
    omega
  · simp [queueLength]
    omega

theorem queueLength_advance : worker.advance.queueLength ≤ worker.queueLength := by
  unfold advance
  split
  · rename_i hqueue
    simp [queueLength, hqueue]
  · split
    · simp [queueLength]
    · rw [queueLength_startNext rfl]
      simp [queueLength]

theorem queueLength_close : worker.close.queueLength = 0 := rfl

end WorkerInstance

namespace Coordinator

variable {config : PoolConfig} {s t : Coordinator}

theorem available_of_lessBusy {best : Option Nat} {w b : Nat}
    (hbest : ∀ b ∈ best, s.Available config b) (h : s.lessBusy config best w = some b) :
    s.Available config b := by
  unfold lessBusy at h
  split at h
  · rename_i hless
    cases h
    exact hless.1
  · exact hbest b h

theorem available_of_getLeastBusyWorker {w : Nat}
    (h : s.getLeastBusyWorker config = some w) : s.Available config w := by
  have hfold : ∀ (ws : List Nat) (best : Option Nat),
      (∀ b ∈ best, s.Available config b) →
        ∀ b ∈ ws.foldl (s.lessBusy config) best, s.Available config b := by
    intro ws
    induction ws with
    | nil => exact fun best hbest => hbest
    | cons v ws ih =>
        intro best hbest
        exact ih _ fun b hb => available_of_lessBusy hbest hb
  exact hfold _ none (by simp) w h

/-- No worker has more queries than it may have, and neither has the overflow queue or the
coordinator. -/
structure WithinCapacity (config : PoolConfig) (s : Coordinator) : Prop where
  workers : ∀ w, (s.worker w).queueLength ≤ config.maxQueuePerWorker
  overflow : s.overflowQueue.size ≤ config.maxOverflowQueueSize
  active : s.activeQueries.length ≤ config.maxActiveQueries

/-- When a lock wait ends and the query is given to its worker, the worker has a place. -/
def Roomy (config : PoolConfig) (s : Coordinator) : Action → Prop
  | .lock k => ∀ flow ∈ s.lockWait k, s.Granted flow → s.Dispatches k flow →
      (s.worker flow.worker).queueLength < config.maxQueuePerWorker
  | _ => True

instance (config : PoolConfig) (s : Coordinator) : ∀ a, Decidable (Roomy config s a)
  | .lock k => inferInstanceAs (Decidable (∀ flow ∈ s.lockWait k, _ → _ → _))
  | .handle => .isTrue trivial
  | .submit _ => .isTrue trivial
  | .cancel _ => .isTrue trivial
  | .timeOut _ => .isTrue trivial
  | .abort _ => .isTrue trivial
  | .answer _ => .isTrue trivial
  | .release _ => .isTrue trivial
  | .conclude _ => .isTrue trivial
  | .continuation => .isTrue trivial
  | .complete _ _ => .isTrue trivial
  | .advance _ => .isTrue trivial
  | .shutdown => .isTrue trivial
  | .addWorker => .isTrue trivial
  | .ready _ => .isTrue trivial
  | .fail _ => .isTrue trivial
  | .shutdownPool => .isTrue trivial
  | .clearPool => .isTrue trivial

/-- What gives no query to a worker, and makes no list longer. -/
structure Lighter (s t : Coordinator) : Prop where
  workers : ∀ w, (t.worker w).queueLength ≤ (s.worker w).queueLength
  overflow : t.overflowQueue.size ≤ s.overflowQueue.size
  active : t.activeQueries.length ≤ s.activeQueries.length

theorem Lighter.refl (s : Coordinator) : Lighter s s :=
  ⟨fun _ => le_rfl, le_rfl, le_rfl⟩

theorem Lighter.trans {u : Coordinator} (h : Lighter s t) (h' : Lighter t u) : Lighter s u :=
  ⟨fun w => (h'.workers w).trans (h.workers w), h'.overflow.trans h.overflow,
    h'.active.trans h.active⟩

theorem WithinCapacity.lighter (h : WithinCapacity config s) (hlighter : Lighter s t) :
    WithinCapacity config t :=
  ⟨fun w => (hlighter.workers w).trans (h.workers w), hlighter.overflow.trans h.overflow,
    hlighter.active.trans h.active⟩

theorem lighter_setWorker {w : Nat} {worker : WorkerInstance}
    (hless : worker.queueLength ≤ (s.worker w).queueLength) :
    Lighter s (s.setWorker w worker) := by
  refine ⟨fun v => ?_, le_rfl, le_rfl⟩
  by_cases hv : v = w
  · subst hv
    simpa [setWorker] using hless
  · simp [setWorker, hv]

theorem lighter_cleanupActiveQuery (s : Coordinator) (id : String) :
    Lighter s (s.cleanupActiveQuery id) :=
  ⟨fun _ => le_rfl, le_rfl, List.length_filter_le _ _⟩

theorem lighter_finishItem (s : Coordinator) (k : Nat) (value : Settlement) :
    Lighter s (s.finishItem k value) := by
  have h := lighter_cleanupActiveQuery s (s.request k).id
  exact ⟨h.workers, h.overflow, h.active⟩

theorem worker_beginCurrent (s : Coordinator) (w : Nat) :
    (s.beginCurrent w).worker = s.worker ∧ (s.beginCurrent w).overflowQueue = s.overflowQueue ∧
      (s.beginCurrent w).activeQueries = s.activeQueries := by
  unfold beginCurrent
  split
  · exact ⟨rfl, rfl, rfl⟩
  · split <;> exact ⟨rfl, rfl, rfl⟩

theorem lighter_beginCurrent (s : Coordinator) (w : Nat) : Lighter s (s.beginCurrent w) := by
  obtain ⟨hworker, hoverflow, hactive⟩ := worker_beginCurrent s w
  exact ⟨fun v => by rw [hworker], by rw [hoverflow], by rw [hactive]⟩

theorem lighter_cancelOnWorker (s : Coordinator) (w : Nat) (id : String) :
    Lighter s (s.cancelOnWorker w id) := by
  unfold cancelOnWorker
  split
  · rename_i k _
    have h : Lighter s
        (s.setWorker w { s.worker w with queue := (s.worker w).queue.erase k }) := by
      refine lighter_setWorker ?_
      have hlength := List.length_erase_le (a := k) (l := (s.worker w).queue)
      simp only [WorkerInstance.queueLength]
      omega
    exact ⟨h.workers, h.overflow, h.active⟩
  · exact .refl s

theorem lighter_shutdownPool (s : Coordinator) : Lighter s s.shutdownPool := by
  unfold shutdownPool
  split
  · exact .refl s
  · refine ⟨fun w => ?_, le_rfl, le_rfl⟩
    dsimp only
    split
    · rw [WorkerInstance.queueLength_close]
      exact Nat.zero_le _
    · exact le_rfl

theorem worker_execute (h : (s.worker w).Accepts) (k : Nat) :
    (s.execute k w).worker = Function.update s.worker w ((s.worker w).push k) := by
  unfold execute
  rw [if_neg (not_not.2 h)]
  dsimp only
  split
  · rw [(worker_beginCurrent _ _).1]
    rfl
  · rfl

theorem lists_execute (s : Coordinator) (k w : Nat) :
    (s.execute k w).overflowQueue = s.overflowQueue ∧
      (s.execute k w).activeQueries = s.activeQueries := by
  unfold execute
  split
  · exact ⟨rfl, rfl⟩
  · dsimp only
    split
    · exact (worker_beginCurrent _ _).2
    · exact ⟨rfl, rfl⟩

theorem WithinCapacity.execute {k w : Nat} (h : WithinCapacity config s)
    (hroom : (s.worker w).Accepts → (s.worker w).queueLength < config.maxQueuePerWorker) :
    WithinCapacity config (s.execute k w) := by
  obtain ⟨hoverflow, hactive⟩ := lists_execute s k w
  refine ⟨fun v => ?_, by rw [hoverflow]; exact h.overflow, by rw [hactive]; exact h.active⟩
  by_cases haccepts : (s.worker w).Accepts
  · rw [worker_execute haccepts]
    by_cases hv : v = w
    · subst hv
      rw [Function.update_self, WorkerInstance.queueLength_push]
      exact hroom haccepts
    · rw [Function.update_of_ne hv]
      exact h.workers v
  · unfold Coordinator.execute
    rw [if_pos haccepts]
    exact h.workers v

theorem WithinCapacity.afterLocks {k : Nat} {flow : Flow} (h : WithinCapacity config s)
    (hroom : s.isAborted k = false → (s.worker flow.worker).Accepts →
      (s.worker flow.worker).queueLength < config.maxQueuePerWorker) :
    WithinCapacity config (s.afterLocks k flow) := by
  unfold Coordinator.afterLocks
  split
  · exact ⟨h.workers, h.overflow, h.active⟩
  · rename_i haborted
    have haborted : s.isAborted k = false := by simpa using haborted
    unfold Coordinator.executeQueryOnWorker
    rw [if_neg (by simp [haborted])]
    have hset : WithinCapacity config (s.setPlace k (.calling flow)) :=
      ⟨h.workers, h.overflow, h.active⟩
    exact hset.execute (hroom haborted)

theorem WithinCapacity.executeQueryOnWorkerWithLocks {k w : Nat} {viaOverflow : Bool}
    (h : WithinCapacity config s)
    (hroom : (s.worker w).queueLength < config.maxQueuePerWorker) :
    WithinCapacity config (s.executeQueryOnWorkerWithLocks config k w viaOverflow) := by
  unfold Coordinator.executeQueryOnWorkerWithLocks
  split
  · exact ⟨h.workers, h.overflow, h.active⟩
  · exact h.afterLocks fun _ _ => hroom

theorem WithinCapacity.dispatchOverflow (n : Nat) (h : WithinCapacity config s) :
    WithinCapacity config (dispatchOverflow config n s) := by
  induction n generalizing s with
  | zero => exact h
  | succ n ih =>
      unfold Coordinator.dispatchOverflow
      split
      · rename_i w k rest hworker hdequeue
        have hroom := (available_of_getLeastBusyWorker hworker).2.2
        have hwaiting := PriorityQueue.toArray_dequeue hdequeue
        have hleft : WithinCapacity config { s with overflowQueue := rest } := by
          refine ⟨h.workers, ?_, h.active⟩
          have hsize := h.overflow
          rw [PriorityQueue.size, hwaiting, List.length_cons] at hsize
          exact (Nat.le_succ _).trans hsize
        exact ih (hleft.executeQueryOnWorkerWithLocks hroom)
      · exact h

theorem WithinCapacity.processOverflowQueue (h : WithinCapacity config s) :
    WithinCapacity config (s.processOverflowQueue config) := by
  unfold Coordinator.processOverflowQueue
  split
  · have hdispatched := h.dispatchOverflow maxBatchSize
    dsimp only
    split
    · exact ⟨hdispatched.workers, hdispatched.overflow, hdispatched.active⟩
    · exact hdispatched
  · exact h

theorem WithinCapacity.enqueueOverflow (h : WithinCapacity config s) (k : Nat) :
    WithinCapacity config (s.enqueueOverflow config k) := by
  unfold Coordinator.enqueueOverflow
  split
  · have hfinished := h.lighter (lighter_finishItem s k (.rejected .capacity))
    exact ⟨hfinished.workers, hfinished.overflow, hfinished.active⟩
  · rename_i hsize
    refine ⟨h.workers, ?_, h.active⟩
    have hperm := PriorityQueue.perm_enqueue (q := s.overflowQueue) k (s.request k).priority
    have hlength := hperm.length_eq
    rw [List.length_cons] at hlength
    simp only [PriorityQueue.size] at hsize ⊢
    omega

theorem length_track_le (s : Coordinator) (id : String) (k : Nat) :
    (s.track id k).length ≤ s.activeQueries.length + 1 := by
  unfold track
  split
  · simp
  · simp

theorem WithinCapacity.query (h : WithinCapacity config s) (r : QueryRequest) :
    WithinCapacity config (s.query config r) := by
  unfold Coordinator.query
  split
  · rename_i hadmits
    have hadmitted : WithinCapacity config (s.enlist r) :=
      ⟨h.workers, h.overflow,
        (length_track_le s r.id s.admitted).trans (Nat.succ_le_of_lt hadmits.2.1)⟩
    unfold Coordinator.executeQuery
    split
    · exact (hadmitted.enqueueOverflow _).processOverflowQueue
    · rename_i w hworker
      exact hadmitted.executeQueryOnWorkerWithLocks
        (available_of_getLeastBusyWorker hworker).2.2
  · exact h

theorem lighter_cancelQuery (s : Coordinator) (id : String) :
    Lighter s (s.cancelQuery id).1 := by
  unfold cancelQuery
  split
  · exact .refl s
  · have hcleaned := lighter_cleanupActiveQuery s id
    dsimp only
    split
    · rename_i removed rest hremove
      refine ⟨hcleaned.workers, ?_, hcleaned.active⟩
      have hrest := PriorityQueue.toArray_remove_erase hremove
      simp only [PriorityQueue.size, hrest]
      exact List.length_erase_le
    · split
      · exact hcleaned.trans (lighter_cancelOnWorker _ _ _)
      · exact hcleaned

theorem lighter_timeOut (s : Coordinator) (k : Nat) : Lighter s (s.timeOut k) := by
  have h := lighter_cancelQuery { s with timer := Function.update s.timer k false }
    (s.request k).id
  exact ⟨h.workers, h.overflow, h.active⟩

theorem lighter_handle (s : Coordinator) (l : Listener) : Lighter s (s.handle l) := by
  unfold handle
  split
  · cases l with
    | coordinator k =>
        have h := lighter_cancelQuery
          { s with listeners := s.listeners.erase (.coordinator k) } (s.request k).id
        exact ⟨h.workers, h.overflow, h.active⟩
    | worker w k =>
        have h := lighter_cancelOnWorker
          { s with listeners := s.listeners.erase (.worker w k) } w (s.request k).id
        exact ⟨h.workers, h.overflow, h.active⟩
  · exact .refl s

theorem lighter_shutdown (s : Coordinator) : Lighter s s.shutdown := by
  unfold shutdown
  split
  · exact .refl s
  · refine Lighter.trans ?_ (lighter_shutdownPool _)
    exact ⟨fun _ => le_rfl, by simp [PriorityQueue.size, PriorityQueue.toArray], by simp⟩

theorem lighter_advance (s : Coordinator) (w k : Nat) :
    Lighter s ({ s.setWorker w (s.worker w).advance with
      listeners := s.listeners.filter fun l => l ≠ Listener.worker w k }.beginCurrent w) := by
  refine Lighter.trans ?_ (lighter_beginCurrent _ w)
  have h := lighter_setWorker (s := s) (w := w) WorkerInstance.queueLength_advance
  exact ⟨h.workers, h.overflow, h.active⟩

theorem WithinCapacity.acts {a : Action} (h : WithinCapacity config s)
    (hroomy : Roomy config s a) (hacts : s.Acts config a t) : WithinCapacity config t := by
  cases hacts with
  | submit r => exact h.query r
  | cancel id =>
      have hcancel := h.lighter (lighter_cancelQuery s id)
      exact ⟨hcancel.workers, hcancel.overflow, hcancel.active⟩
  | timeOut _ _ => exact h.lighter (lighter_timeOut s _)
  | abort _ => exact ⟨h.workers, h.overflow, h.active⟩
  | @lock k flow hplace hgranted =>
      refine h.afterLocks fun haborted haccepts => ?_
      exact hroomy flow (by simp [lockWait, hplace]) hgranted ⟨haborted, haccepts⟩
  | @answer k _ _ _ =>
      have hfinished := h.lighter (lighter_finishItem s k (s.call k))
      exact ⟨hfinished.workers, hfinished.overflow, hfinished.active⟩
  | release _ => exact ⟨h.workers, h.overflow, h.active⟩
  | concludeOverflow _ => exact ⟨h.workers, h.overflow, h.active⟩
  | conclude _ =>
      exact WithinCapacity.processOverflowQueue ⟨h.workers, h.overflow, h.active⟩
  | @concludeError k error _ =>
      have hfinished := h.lighter (lighter_finishItem s k (.rejected error))
      exact WithinCapacity.processOverflowQueue
        ⟨hfinished.workers, hfinished.overflow, hfinished.active⟩
  | continuation _ =>
      exact WithinCapacity.processOverflowQueue ⟨h.workers, h.overflow, h.active⟩
  | complete _ _ => exact ⟨h.workers, h.overflow, h.active⟩
  | advance _ _ => exact h.lighter (lighter_advance s _ _)
  | shutdown => exact h.lighter (lighter_shutdown s)
  | addWorker =>
      refine ⟨fun w => ?_, h.overflow, h.active⟩
      by_cases hw : w = s.workerCount
      · simp [hw, WorkerInstance.queueLength]
      · simpa [hw] using h.workers w
  | ready _ _ => exact h.lighter (lighter_setWorker le_rfl)
  | fail _ _ => exact h.lighter (lighter_setWorker le_rfl)
  | shutdownPool => exact h.lighter (lighter_shutdownPool s)
  | clearPool _ =>
      refine ⟨fun w => ?_, h.overflow, h.active⟩
      dsimp only
      split <;> exact h.workers w

theorem WithinCapacity.step {a : Action} (h : WithinCapacity config s)
    (hroomy : Roomy config s a) (hstep : s.step config a = some t) :
    WithinCapacity config t := by
  rcases step_cases hstep with ⟨-, l, rest, -, rfl⟩ | ⟨-, hacts⟩
  · have hrest : WithinCapacity config { s with dispatching := rest } :=
      ⟨h.workers, h.overflow, h.active⟩
    exact hrest.lighter (lighter_handle _ l)
  · exact h.acts hroomy hacts

/-- A query that finds no place fills its worker beyond the bound. -/
theorem roomy_of_withinCapacity {a : Action} (hstep : s.step config a = some t)
    (h : WithinCapacity config t) : Roomy config s a := by
  rcases step_cases hstep with ⟨rfl, -⟩ | ⟨-, hacts⟩
  · trivial
  · cases hacts with
    | @lock k flow hplace _ =>
        intro other hother _ hdispatches
        obtain ⟨haborted, haccepts⟩ := hdispatches
        obtain rfl : flow = other := by simpa [lockWait, hplace] using hother
        have hafter : s.afterLocks k flow =
            (s.setPlace k (.calling flow)).execute k flow.worker := by
          simp [Coordinator.afterLocks, Coordinator.executeQueryOnWorker, haborted]
        have hlength := h.workers flow.worker
        rw [hafter, worker_execute (s := s.setPlace k (.calling flow)) haccepts,
          Function.update_self, WorkerInstance.queueLength_push] at hlength
        exact hlength
    | _ => trivial

theorem withinCapacity_start : WithinCapacity config {} :=
  ⟨fun _ => Nat.zero_le _, Nat.zero_le _, Nat.zero_le _⟩

/-- **Capacity.**  The bounds hold in every state of a run exactly when each lock wait ends
while the worker of the query has a place. -/
theorem capacity_iff (config : PoolConfig) (actions : List Action) (t : Coordinator)
    (hrun : run (step config) {} actions = some t) :
    Always (step config) (WithinCapacity config) {} actions ↔
      Allowed (step config) (Roomy config) {} actions :=
  always_iff_allowed (WithinCapacity config) (fun _ h => h)
    (fun _ _ _ h hroomy hstep => h.step hroomy hstep)
    (fun _ _ _ _ hstep hgood => roomy_of_withinCapacity hstep hgood)
    actions {} t withinCapacity_start hrun

/-- A pool whose workers take one query each. -/
def onePlace : PoolConfig :=
  { maxActiveQueries := 100, maxOverflowQueueSize := 10, maxQueuePerWorker := 1 }

/-- A query waits for its lock while the next one takes a place with another worker. -/
theorem lockWaits_withinCapacity :
    Always (step onePlace) (WithinCapacity onePlace) {}
      [.addWorker, .addWorker, .ready 0, .ready 1, .submit { id := "a", tables := ["t"] },
        .lock 0, .submit { id := "b", tables := ["t"] }, .lock 1] := by
  have hrun : (run (step onePlace) {}
      [.addWorker, .addWorker, .ready 0, .ready 1, .submit { id := "a", tables := ["t"] },
        .lock 0, .submit { id := "b", tables := ["t"] }, .lock 1]).isSome := by
    decide +kernel
  exact (capacity_iff onePlace _ _ (Option.some_get hrun).symm).2 (by decide +kernel)

/-- **The last place, twice.**  Two queries for different tables are both given the only
worker, and each takes its place when it has its lock. -/
theorem twoLockWaits_overfull :
    ∃ s, Exec (step onePlace) {}
        [.addWorker, .ready 0, .submit { id := "a", tables := ["t"] },
          .submit { id := "b", tables := ["u"] }, .lock 0, .lock 1] s ∧
      onePlace.maxQueuePerWorker < (s.worker 0).queueLength :=
  exists_exec (by decide +kernel)

end Coordinator

end QueryPool

end Zentra
