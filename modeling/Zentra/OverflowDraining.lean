import Mathlib.Algebra.BigOperators.Group.Finset.Basic
import Zentra.PoolCapacity
import Zentra.QuerySettlement

/-!
# Draining the overflow queue

A call of `processOverflowQueue` gives waiting queries to workers, ten at most, and schedules
another call when some are left, also when it found no worker with a place.  Then the calls
go on for ever, with nothing that could happen in between.

* `drains_iff` — the chain ends, after a call for each waiting query at most, exactly when
  nobody waits, the pool shuts down, or there are places enough;
* `fullWorker_spins` — a worker with one query and one query that waits.
-/

open StepTrace

namespace Zentra

namespace QueryPool

namespace Coordinator

variable {config : PoolConfig} {s : Coordinator}

/-- A call of `processOverflowQueue` schedules another one. -/
def Schedules (config : PoolConfig) (s : Coordinator) : Prop :=
  s.Overflowing ∧ (dispatchOverflow config maxBatchSize s).Overflowing

instance (config : PoolConfig) (s : Coordinator) : Decidable (s.Schedules config) :=
  inferInstanceAs (Decidable (_ ∧ _))

/-- So many calls, one after the other. -/
def calls (config : PoolConfig) : Nat → Coordinator → Coordinator
  | 0, s => s
  | n + 1, s => calls config n (s.processOverflowQueue config)

/-- The chain of calls that begins in the state ends, with a call for each waiting query at
most. -/
def Drains (config : PoolConfig) (s : Coordinator) : Prop :=
  ∃ n ≤ s.waiting.length, ¬ (calls config n s).Schedules config

/-- The places that a worker has left. -/
def placesOf (config : PoolConfig) (s : Coordinator) (w : Nat) : Nat :=
  if (s.worker w).pooled = true ∧ (s.worker w).Ready then
    config.maxQueuePerWorker - (s.worker w).queueLength
  else 0

def freePlaces (config : PoolConfig) (s : Coordinator) : Nat :=
  ∑ w ∈ Finset.range s.workerCount, s.placesOf config w

/-- The query takes a place as soon as it is given to a worker. -/
def Immediate (config : PoolConfig) (s : Coordinator) (k : Nat) : Bool :=
  decide (¬ s.NeedsLocks config k) && !s.isAborted k

/-- Each waiting query finds a place when those before it have taken theirs. -/
def Enough (config : PoolConfig) (s : Coordinator) : Prop :=
  s.waiting.dropLast.countP (s.Immediate config) < s.freePlaces config

instance (config : PoolConfig) (s : Coordinator) : Decidable (s.Enough config) :=
  inferInstanceAs (Decidable (_ < _))

theorem available_iff_placesOf (w : Nat) :
    s.Available config w ↔ 0 < s.placesOf config w := by
  unfold Available placesOf
  by_cases h : (s.worker w).pooled = true ∧ (s.worker w).Ready
  · rw [if_pos h, ← and_assoc, and_iff_right h]
    omega
  · rw [if_neg h, ← and_assoc]
    simp [h]

theorem getLeastBusyWorker_eq_none :
    s.getLeastBusyWorker config = none ↔ ∀ w < s.workerCount, ¬ s.Available config w := by
  have hsome : ∀ (ws : List Nat) (best : Option Nat), best ≠ none →
      ws.foldl (s.lessBusy config) best ≠ none := by
    intro ws
    induction ws with
    | nil => exact fun best hbest => hbest
    | cons v ws ih =>
        intro best hbest
        refine ih _ ?_
        unfold lessBusy
        split
        · exact Option.some_ne_none v
        · exact hbest
  have hfold : ∀ ws : List Nat, ws.foldl (s.lessBusy config) none = none ↔
      ∀ w ∈ ws, ¬ s.Available config w := by
    intro ws
    induction ws with
    | nil => simp
    | cons v ws ih =>
        rw [List.foldl_cons, List.forall_mem_cons]
        by_cases hv : s.Available config v
        · have hbest : s.lessBusy config none v = some v := by simp [lessBusy, hv]
          rw [hbest]
          exact iff_of_false (hsome ws _ (Option.some_ne_none v)) fun h => h.1 hv
        · have hbest : s.lessBusy config none v = none := by simp [lessBusy, hv]
          rw [hbest, ih]
          exact (and_iff_right hv).symm
  unfold getLeastBusyWorker
  rw [hfold]
  simp

theorem lt_of_getLeastBusyWorker {w : Nat} (h : s.getLeastBusyWorker config = some w) :
    w < s.workerCount := by
  have hfold : ∀ (ws : List Nat) (best : Option Nat),
      ∀ b ∈ ws.foldl (s.lessBusy config) best, b ∈ ws ∨ b ∈ best := by
    intro ws
    induction ws with
    | nil => exact fun best b hb => .inr hb
    | cons v ws ih =>
        intro best b hb
        rcases ih _ b hb with hmem | hbest
        · exact .inl (List.mem_cons_of_mem _ hmem)
        · unfold lessBusy at hbest
          split at hbest
          · cases hbest
            exact .inl List.mem_cons_self
          · exact .inr hbest
  rcases hfold _ none w h with hmem | hnone
  · exact List.mem_range.1 hmem
  · cases hnone

theorem getLeastBusyWorker_none_iff :
    s.getLeastBusyWorker config = none ↔ s.freePlaces config = 0 := by
  rw [getLeastBusyWorker_eq_none, freePlaces, Finset.sum_eq_zero_iff]
  simp [available_iff_placesOf]

theorem ready_push {worker : WorkerInstance} (h : worker.Ready) (k : Nat) :
    (worker.push k).Ready ∧ (worker.push k).pooled = worker.pooled := by
  unfold WorkerInstance.push WorkerInstance.processQueue WorkerInstance.startNext
  split
  · split
    · exact ⟨h, rfl⟩
    · exact ⟨.inr rfl, rfl⟩
  · exact ⟨h, rfl⟩

theorem accepts_of_ready {worker : WorkerInstance} (h : worker.Ready) : worker.Accepts := by
  rcases h with h | h <;> simp [WorkerInstance.Accepts, h]

theorem workerCount_execute (s : Coordinator) (k w : Nat) :
    (s.execute k w).workerCount = s.workerCount := by
  have hbegin : ∀ s : Coordinator, (s.beginCurrent w).workerCount = s.workerCount := by
    intro s
    unfold beginCurrent
    split
    · rfl
    · split <;> rfl
  unfold execute
  split
  · rfl
  · dsimp only
    split
    · exact hbegin _
    · rfl

theorem freePlaces_of_placesOf {t : Coordinator} {w : Nat} (hcount : t.workerCount = s.workerCount)
    (hw : w < s.workerCount) (hthere : t.placesOf config w + 1 = s.placesOf config w)
    (helse : ∀ v, v ≠ w → t.placesOf config v = s.placesOf config v) :
    t.freePlaces config + 1 = s.freePlaces config := by
  have hmem : w ∈ Finset.range s.workerCount := Finset.mem_range.2 hw
  have hsum : ∑ v ∈ (Finset.range s.workerCount).erase w, t.placesOf config v =
      ∑ v ∈ (Finset.range s.workerCount).erase w, s.placesOf config v :=
    Finset.sum_congr rfl fun v hv => helse v (Finset.ne_of_mem_erase hv)
  rw [freePlaces, freePlaces, hcount, ← Finset.add_sum_erase _ _ hmem,
    ← Finset.add_sum_erase _ (s.placesOf config) hmem, hsum]
  omega

theorem placesOf_execute {k w : Nat} (havailable : s.Available config w) :
    (s.execute k w).placesOf config w + 1 = s.placesOf config w ∧
      ∀ v, v ≠ w → (s.execute k w).placesOf config v = s.placesOf config v := by
  have hworker := worker_execute (accepts_of_ready havailable.2.1) k
  have hready := ready_push havailable.2.1 k
  have hlength : ((s.worker w).push k).queueLength = (s.worker w).queueLength + 1 :=
    WorkerInstance.queueLength_push k
  have hroom := havailable.2.2
  constructor
  · unfold placesOf
    rw [hworker, Function.update_self, if_pos ⟨hready.2.trans havailable.1, hready.1⟩,
      if_pos ⟨havailable.1, havailable.2.1⟩, hlength]
    omega
  · intro v hv
    unfold placesOf
    rw [hworker, Function.update_of_ne hv]

/-- A query that is given to a worker takes one place there, at once, unless it waits for
locks or has been aborted. -/
theorem freePlaces_dispatch {w k : Nat} (hw : w < s.workerCount)
    (havailable : s.Available config w) :
    (s.executeQueryOnWorkerWithLocks config k w true).freePlaces config +
      (if s.Immediate config k then 1 else 0) = s.freePlaces config := by
  unfold executeQueryOnWorkerWithLocks
  by_cases hlocks : s.NeedsLocks config k
  · have himmediate : ¬ s.Immediate config k = true := by simp [Immediate, hlocks]
    rw [if_pos hlocks, if_neg himmediate]
    rfl
  · rw [if_neg hlocks]
    unfold afterLocks
    by_cases haborted : s.isAborted k = true
    · have himmediate : ¬ s.Immediate config k = true := by simp [Immediate, haborted]
      rw [if_pos haborted, if_neg himmediate]
      rfl
    · have himmediate : s.Immediate config k = true := by simp [Immediate, hlocks, haborted]
      rw [if_neg haborted, if_pos himmediate]
      unfold executeQueryOnWorker
      rw [if_neg haborted]
      have hplaces := @placesOf_execute config (s.setPlace k (.calling ⟨w, [], true⟩)) k w
        havailable
      exact freePlaces_of_placesOf (workerCount_execute _ _ _) hw hplaces.1 hplaces.2

theorem immediate_onward {t : Coordinator} (h : Onward s t) (k : Nat) :
    t.Immediate config k = s.Immediate config k := by
  have hlocks : t.NeedsLocks config k ↔ s.NeedsLocks config k := by
    simp only [NeedsLocks, h.request]
  have haborted : t.isAborted k = s.isAborted k := by
    simp only [isAborted, h.request, h.aborted]
  simp [Immediate, hlocks, haborted]

theorem dispatch_cons {w k : Nat} {rest : PriorityQueue Nat}
    (hworker : s.getLeastBusyWorker config = some w)
    (hdequeue : s.overflowQueue.dequeue = some (k, rest)) :
    ∃ t, t = { s with overflowQueue := rest }.executeQueryOnWorkerWithLocks config k w true ∧
      s.waiting = k :: t.waiting ∧ t.shuttingDown = s.shuttingDown ∧
      (∀ j, t.Immediate config j = s.Immediate config j) ∧
      t.freePlaces config + (if s.Immediate config k then 1 else 0) = s.freePlaces config := by
  have honward := @onward_executeQueryOnWorkerWithLocks config
    { s with overflowQueue := rest } k w true
  refine ⟨_, rfl, ?_, honward.shuttingDown, fun j => immediate_onward honward j, ?_⟩
  · rw [waiting, waiting, honward.overflowQueue]
    exact PriorityQueue.toArray_dequeue hdequeue
  · exact freePlaces_dispatch (s := { s with overflowQueue := rest })
      (lt_of_getLeastBusyWorker hworker) (available_of_getLeastBusyWorker hworker)

/-- Queries wait that will not all find a place. -/
def Stuck (config : PoolConfig) (s : Coordinator) : Prop :=
  s.Overflowing ∧ ¬ s.Enough config

instance (config : PoolConfig) (s : Coordinator) : Decidable (s.Stuck config) :=
  inferInstanceAs (Decidable (_ ∧ _))

theorem Stuck.dispatchOverflow (n : Nat) (h : s.Stuck config) :
    (dispatchOverflow config n s).Stuck config := by
  induction n generalizing s with
  | zero => exact h
  | succ n ih =>
      unfold Coordinator.dispatchOverflow
      split
      · rename_i w k rest hworker hdequeue
        obtain ⟨t, ht, hwaiting, hdown, himmediate, hplaces⟩ := dispatch_cons hworker hdequeue
        rw [← ht]
        refine ih ?_
        have hnot := h.2
        unfold Enough at hnot
        have hfree : s.freePlaces config ≠ 0 := fun hzero => by
          rw [getLeastBusyWorker_none_iff.2 hzero] at hworker
          cases hworker
        have hrest : t.waiting ≠ [] := by
          intro hnil
          rw [hwaiting, hnil] at hnot
          simp at hnot
          exact hfree hnot
        have hcount : s.waiting.dropLast.countP (s.Immediate config) =
            t.waiting.dropLast.countP (t.Immediate config) +
              (if s.Immediate config k then 1 else 0) := by
          rw [hwaiting, List.dropLast_cons_of_ne_nil hrest, List.countP_cons,
            funext himmediate]
        refine ⟨⟨hrest, hdown.trans h.1.2⟩, ?_⟩
        unfold Enough
        omega
      · exact h

theorem dispatchOverflow_of_nil (n : Nat) (h : s.waiting = []) :
    Coordinator.dispatchOverflow config n s = s := by
  cases n with
  | zero => rfl
  | succ n =>
      unfold Coordinator.dispatchOverflow
      split
      · rename_i hdequeue
        rw [PriorityQueue.dequeue_eq_none.2 h] at hdequeue
        cases hdequeue
      · rfl

theorem Enough.dispatchOverflow (n : Nat) (h : s.Enough config) :
    (Coordinator.dispatchOverflow config n s).waiting = [] ∨
      (Coordinator.dispatchOverflow config n s).Enough config ∧
        (Coordinator.dispatchOverflow config n s).waiting.length + n = s.waiting.length := by
  induction n generalizing s with
  | zero => exact .inr ⟨h, rfl⟩
  | succ n ih =>
      unfold Coordinator.dispatchOverflow
      split
      · rename_i w k rest hworker hdequeue
        obtain ⟨t, ht, hwaiting, -, himmediate, hplaces⟩ := dispatch_cons hworker hdequeue
        rw [← ht]
        by_cases hrest : t.waiting = []
        · left
          rw [dispatchOverflow_of_nil n hrest, hrest]
        · have hcount : s.waiting.dropLast.countP (s.Immediate config) =
              t.waiting.dropLast.countP (t.Immediate config) +
                (if s.Immediate config k then 1 else 0) := by
            rw [hwaiting, List.dropLast_cons_of_ne_nil hrest, List.countP_cons,
              funext himmediate]
          have henough : t.Enough config := by
            unfold Enough at h ⊢
            omega
          rcases ih henough with hnil | ⟨hstill, hlength⟩
          · exact .inl hnil
          · refine .inr ⟨hstill, ?_⟩
            rw [hwaiting, List.length_cons, ← hlength]
            omega
      · rename_i hnone
        left
        have hfree : s.freePlaces config ≠ 0 := by
          unfold Enough at h
          omega
        cases hworker : s.getLeastBusyWorker config with
        | none => exact absurd (getLeastBusyWorker_none_iff.1 hworker) hfree
        | some w =>
            cases hdequeue : s.overflowQueue.dequeue with
            | none => exact PriorityQueue.dequeue_eq_none.1 hdequeue
            | some pair => exact absurd hdequeue (hnone w pair.1 pair.2 hworker)

theorem processOverflowQueue_of_schedules (h : s.Schedules config) :
    s.processOverflowQueue config =
      { dispatchOverflow config maxBatchSize s with
        continuations := (dispatchOverflow config maxBatchSize s).continuations + 1 } := by
  unfold processOverflowQueue
  rw [if_pos h.1]
  exact if_pos h.2

theorem Stuck.processOverflowQueue (h : s.Stuck config) :
    (s.processOverflowQueue config).Stuck config := by
  have hdispatched := h.dispatchOverflow maxBatchSize
  rw [processOverflowQueue_of_schedules ⟨h.1, hdispatched.1⟩]
  exact hdispatched

/-- **Spinning.**  When there are not places enough, every call schedules the next. -/
theorem Stuck.schedules_calls (h : s.Stuck config) (n : Nat) :
    (calls config n s).Schedules config := by
  induction n generalizing s with
  | zero => exact ⟨h.1, (h.dispatchOverflow maxBatchSize).1⟩
  | succ n ih => exact ih h.processOverflowQueue

/-- When there are places enough, a call schedules another one only while queries are left,
and they get fewer. -/
theorem Enough.processOverflowQueue (h : s.Enough config) (hschedules : s.Schedules config) :
    (s.processOverflowQueue config).Enough config ∧
      (s.processOverflowQueue config).waiting.length < s.waiting.length := by
  rw [processOverflowQueue_of_schedules hschedules]
  rcases h.dispatchOverflow maxBatchSize with hnil | ⟨hstill, hlength⟩
  · exact absurd hnil hschedules.2.1
  · refine ⟨hstill, ?_⟩
    rw [← hlength]
    exact Nat.lt_add_of_pos_right (by decide)

theorem Enough.drains (n : Nat) (h : s.Enough config) (hlength : s.waiting.length ≤ n) :
    ∃ m ≤ n, ¬ (calls config m s).Schedules config := by
  induction n generalizing s with
  | zero =>
      refine ⟨0, le_rfl, fun hschedules => hschedules.1.1 ?_⟩
      exact List.length_eq_zero_iff.1 (Nat.le_zero.1 hlength)
  | succ n ih =>
      by_cases hschedules : s.Schedules config
      · obtain ⟨henough, hless⟩ := h.processOverflowQueue hschedules
        obtain ⟨m, hm, hends⟩ := ih henough (by omega)
        exact ⟨m + 1, by omega, hends⟩
      · exact ⟨0, Nat.zero_le _, hschedules⟩

/-- **Draining.**  The chain of calls ends exactly when nobody waits, the pool shuts down, or
there is a place for every waiting query when its turn comes. -/
theorem drains_iff (config : PoolConfig) (s : Coordinator) :
    s.Drains config ↔ s.waiting = [] ∨ s.shuttingDown = true ∨ s.Enough config := by
  constructor
  · intro hdrains
    by_contra hnot
    simp only [not_or] at hnot
    obtain ⟨hwaiting, hdown, henough⟩ := hnot
    have hstuck : s.Stuck config := ⟨⟨hwaiting, by simpa using hdown⟩, henough⟩
    obtain ⟨n, -, hends⟩ := hdrains
    exact hends (hstuck.schedules_calls n)
  · rintro (hnil | hdown | henough)
    · exact ⟨0, Nat.zero_le _, fun hschedules => hschedules.1.1 hnil⟩
    · refine ⟨0, Nat.zero_le _, fun hschedules => ?_⟩
      have hopen : s.shuttingDown = false := hschedules.1.2
      rw [hdown] at hopen
      cases hopen
    · exact henough.drains _ le_rfl

/-- **A full worker.**  One query runs, the other one waits, and the calls never end. -/
theorem fullWorker_spins :
    ∃ s, Exec (step onePlace) {} [.addWorker, .ready 0, .submit { id := "a" },
        .submit { id := "b" }] s ∧
      ∀ n, (calls onePlace n s).Schedules onePlace := by
  obtain ⟨s, hexec, hstuck⟩ : ∃ s, Exec (step onePlace) {} [.addWorker, .ready 0,
      .submit { id := "a" }, .submit { id := "b" }] s ∧ s.Stuck onePlace :=
    exists_exec (by decide +kernel)
  exact ⟨s, hexec, hstuck.schedules_calls⟩

end Coordinator

end QueryPool

end Zentra
