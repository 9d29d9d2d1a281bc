import Zentra.QueryCoordinator

/-!
# Queries are settled

A query can be dropped in two ways: the coordinator takes it out of the overflow queue and
rejects another one that has been submitted under its id, or it comes from the overflow
queue, its signal is aborted while it waits for its locks, and nobody catches the error.

* `settled_of_keeps` — when all steps keep, all queries are settled once nothing is
  outstanding;
* `dropped_queries` — one run for each of the two ways.
-/

open StepTrace

namespace Zentra

namespace QueryPool

/-- A query at this place will be settled by the code that is to go on with it. -/
def Place.InHand : Place → Prop
  | .overflow => True
  | .locking _ => True
  | .calling _ => True
  | .returned error viaOverflow => error ≠ none ∧ viaOverflow = false
  | _ => False

theorem Settlement.settle_ne {value old : Settlement} (h : value ≠ .pending) :
    value.settle old ≠ .pending := by
  cases old <;> simp [settle, h]

theorem Settlement.settle_of_ne {value old : Settlement} (h : old ≠ .pending) :
    value.settle old = old := by
  cases old <;> simp_all [settle]

namespace Coordinator

variable {strict : Prop} {config : PoolConfig} {s t : Coordinator}

/-- The states agree on the queries of the coordinator. -/
structure SameQueries (s t : Coordinator) : Prop where
  admitted : t.admitted = s.admitted
  request : t.request = s.request
  place : t.place = s.place
  promise : t.promise = s.promise
  activeQueries : t.activeQueries = s.activeQueries
  overflowQueue : t.overflowQueue = s.overflowQueue
  continuations : t.continuations = s.continuations
  shuttingDown : t.shuttingDown = s.shuttingDown
  aborted : t.aborted = s.aborted

theorem sameQueries_beginCurrent (s : Coordinator) (w : Nat) :
    SameQueries s (s.beginCurrent w) := by
  unfold beginCurrent
  split
  · constructor <;> rfl
  · split <;> constructor <;> rfl

theorem sameQueries_execute (s : Coordinator) (k w : Nat) : SameQueries s (s.execute k w) := by
  unfold execute
  split
  · constructor <;> rfl
  · dsimp only
    split
    · have h := sameQueries_beginCurrent
        { s.setWorker w ((s.worker w).push k) with
          listeners := s.listeners ++
            if (s.request k).signal.isSome then [.worker w k] else [] } w
      exact ⟨h.admitted, h.request, h.place, h.promise, h.activeQueries, h.overflowQueue,
        h.continuations, h.shuttingDown, h.aborted⟩
    · constructor <;> rfl

theorem sameQueries_cancelOnWorker (s : Coordinator) (w : Nat) (id : String) :
    SameQueries s (s.cancelOnWorker w id) := by
  unfold cancelOnWorker
  split <;> constructor <;> rfl

theorem sameQueries_handleAbort (s : Coordinator) (w : Nat) (id : String) :
    SameQueries s (s.handleAbort w id) := sameQueries_cancelOnWorker s w id

theorem sameQueries_shutdownPool (s : Coordinator) : SameQueries s s.shutdownPool := by
  unfold shutdownPool
  split <;> constructor <;> rfl

theorem sameQueries_advance (s : Coordinator) (w k : Nat) :
    SameQueries s ({ s.setWorker w (s.worker w).advance with
      listeners := s.listeners.filter fun l => l ≠ Listener.worker w k }.beginCurrent w) := by
  have h := sameQueries_beginCurrent { s.setWorker w (s.worker w).advance with
    listeners := s.listeners.filter fun l => l ≠ Listener.worker w k } w
  exact ⟨h.admitted, h.request, h.place, h.promise, h.activeQueries, h.overflowQueue,
    h.continuations, h.shuttingDown, h.aborted⟩

/-- Every query that has not been settled is in the hands of some continuation, in a run that
is `strict`: the other facts hold in every run.  The code may be about to move one query, the
`hole`. -/
structure Sound (strict : Prop) (hole : Option Nat) (s : Coordinator) : Prop where
  fresh : ∀ k, s.admitted ≤ k → s.promise k = .pending ∧ ¬ s.Active k
  placed : ∀ k, s.admitted ≤ k → s.place k = .over
  bounded : ∀ k ∈ s.waiting, k < s.admitted
  nodup : s.waiting.Nodup
  waits : ∀ k, hole ≠ some k → (k ∈ s.waiting ↔ s.place k = .overflow)
  out : ∀ k, hole = some k → k < s.admitted ∧ k ∉ s.waiting
  entries : ∀ e ∈ s.activeQueries, (s.request e.2).id = e.1 ∧ s.promise e.2 = .pending
  inHand : strict → ∀ k < s.admitted, hole ≠ some k → s.promise k = .pending → (s.place k).InHand

theorem Sound.congr {hole : Option Nat} (h : Sound strict hole s) (hsame : SameQueries s t) :
    Sound strict hole t := by
  obtain ⟨h1, h2, h3, h4, h5, h6, -, -, -⟩ := hsame
  obtain ⟨fresh, placed, bounded, nodup, waits, out, entries, inHand⟩ := h
  constructor
  · simpa only [Active, h1, h4, h5] using fresh
  · simpa only [h1, h3] using placed
  · simpa only [waiting, h6, h1] using bounded
  · simpa only [waiting, h6] using nodup
  · simpa only [waiting, h6, h3] using waits
  · simpa only [waiting, h6, h1] using out
  · simpa only [h5, h2, h4] using entries
  · simpa only [h1, h4, h3] using inHand

/-- Any query that does not wait may be the one that is moved. -/
theorem Sound.open (h : Sound strict none s) {k : Nat} (hk : k < s.admitted)
    (hplace : s.place k ≠ .overflow) : Sound strict (some k) s where
  fresh := h.fresh
  placed := h.placed
  bounded := h.bounded
  nodup := h.nodup
  waits := fun j _ => h.waits j (by simp)
  out := by
    intro j hj
    cases hj
    exact ⟨hk, fun hmem => hplace ((h.waits k (by simp)).1 hmem)⟩
  entries := h.entries
  inHand := fun hs j hj _ => h.inHand hs j hj (by simp)

theorem Sound.setPlace {k : Nat} {place : Place} (h : Sound strict (some k) s)
    (hplace : place ≠ .overflow) (hhand : strict → s.promise k = .pending → place.InHand) :
    Sound strict none (s.setPlace k place) where
  fresh := h.fresh
  placed := by
    intro j hj
    have hjk : j ≠ k := fun hjk => absurd (h.out k rfl).1 (Nat.not_lt.2 (hjk ▸ hj))
    simpa [Coordinator.setPlace, hjk] using h.placed j hj
  bounded := h.bounded
  nodup := h.nodup
  waits := by
    intro j _
    by_cases hj : j = k
    · subst hj
      have hout := (h.out j rfl).2
      simpa [Coordinator.setPlace, waiting, hplace] using hout
    · have hwaits := h.waits j (by simpa using fun hkj => hj hkj.symm)
      simpa [Coordinator.setPlace, waiting, hj] using hwaits
  out := by simp
  entries := h.entries
  inHand := by
    intro hs j hj _ hpending
    by_cases hjk : j = k
    · subst hjk
      simpa [Coordinator.setPlace] using hhand hs hpending
    · have hhand := h.inHand hs j hj (by simpa using fun hkj => hjk hkj.symm) hpending
      simpa [Coordinator.setPlace, hjk] using hhand

theorem Sound.cleanupActiveQuery {hole : Option Nat} (h : Sound strict hole s) (id : String) :
    Sound strict hole (s.cleanupActiveQuery id) where
  fresh := by
    intro k hk
    refine ⟨(h.fresh k hk).1, fun hactive => (h.fresh k hk).2 ?_⟩
    obtain ⟨e, hmem, he⟩ := List.mem_map.1 hactive
    exact List.mem_map.2 ⟨e, (List.mem_filter.1 hmem).1, he⟩
  placed := h.placed
  bounded := h.bounded
  nodup := h.nodup
  waits := h.waits
  out := h.out
  entries := fun e hmem => h.entries e (List.mem_filter.1 hmem).1
  inHand := h.inHand

theorem Sound.settle {hole : Option Nat} {k : Nat} {value : Settlement} (h : Sound strict hole s)
    (hk : k < s.admitted) (hvalue : value ≠ .pending) (hactive : ¬ s.Active k) :
    Sound strict hole (s.settle k value) where
  fresh := by
    intro j hj
    have hjk : j ≠ k := fun hjk => absurd hk (Nat.not_lt.2 (hjk ▸ hj))
    simpa [Coordinator.settle, hjk, Active] using h.fresh j hj
  placed := h.placed
  bounded := h.bounded
  nodup := h.nodup
  waits := h.waits
  out := h.out
  entries := by
    intro e hmem
    have hek : e.2 ≠ k := by
      intro hek
      exact hactive (List.mem_map.2 ⟨e, hmem, hek⟩)
    simpa [Coordinator.settle, hek] using h.entries e hmem
  inHand := by
    intro hs j hj hhole hpending
    by_cases hjk : j = k
    · subst hjk
      simp [Coordinator.settle, Settlement.settle_ne hvalue] at hpending
    · exact h.inHand hs j hj hhole (by simpa [Coordinator.settle, hjk] using hpending)

theorem Sound.not_active {hole : Option Nat} (h : Sound strict hole s) (k : Nat) :
    ¬ (s.cleanupActiveQuery (s.request k).id).Active k := by
  intro hactive
  obtain ⟨e, hmem, rfl⟩ := List.mem_map.1 hactive
  obtain ⟨hmem, hid⟩ := List.mem_filter.1 hmem
  have hrequest := (h.entries e hmem).1
  simp [hrequest] at hid

theorem Sound.finishItem {hole : Option Nat} {k : Nat} {value : Settlement} (h : Sound strict hole s)
    (hk : k < s.admitted) (hvalue : value ≠ .pending) : Sound strict hole (s.finishItem k value) :=
  (h.cleanupActiveQuery _).settle hk hvalue (h.not_active k)

theorem promise_finishItem {k : Nat} {value : Settlement} (hvalue : value ≠ .pending) :
    (s.finishItem k value).promise k ≠ .pending := by
  simp [Coordinator.finishItem, Coordinator.settle, Settlement.settle_ne hvalue]

theorem Sound.afterLocks {k : Nat} {flow : Flow} (h : Sound strict (some k) s)
    (hcaught : strict → flow.viaOverflow = true → s.isAborted k = true →
      s.promise k ≠ .pending) :
    Sound strict none (s.afterLocks k flow) := by
  have hk := (h.out k rfl).1
  unfold Coordinator.afterLocks
  split
  · rename_i haborted
    have hset : Sound strict none
        (s.setPlace k (.returned (some (.cancelled .user)) flow.viaOverflow)) := by
      refine h.setPlace (by simp) ?_
      intro hs hpending
      refine ⟨by simp, ?_⟩
      cases hvia : flow.viaOverflow with
      | false => rfl
      | true => exact absurd hpending (hcaught hs hvia haborted)
    exact hset.congr (by constructor <;> rfl)
  · unfold Coordinator.executeQueryOnWorker
    split
    · refine (h.finishItem hk (by simp)).setPlace (by simp) fun _ hpending => ?_
      exact absurd hpending (promise_finishItem (by simp))
    · have hset : Sound strict none (s.setPlace k (.calling flow)) :=
        h.setPlace (by simp) fun _ _ => trivial
      exact hset.congr (sameQueries_execute _ _ _)

theorem Sound.executeQueryOnWorkerWithLocks {k w : Nat} {viaOverflow : Bool}
    (h : Sound strict (some k) s)
    (hcaught : strict → viaOverflow = true → s.isAborted k = true → s.promise k ≠ .pending) :
    Sound strict none (s.executeQueryOnWorkerWithLocks config k w viaOverflow) := by
  unfold Coordinator.executeQueryOnWorkerWithLocks
  split
  · have hset : Sound strict none (s.setPlace k (.locking
        ⟨w, s.locks.ticketsOf (s.request k).tables (s.request k).mode, viaOverflow⟩)) :=
      h.setPlace (by simp) fun _ _ => trivial
    exact hset.congr (by constructor <;> rfl)
  · exact h.afterLocks hcaught

/-- What does not admit a query or touch the overflow queue, and settles promises only. -/
structure Onward (s t : Coordinator) : Prop where
  admitted : t.admitted = s.admitted
  request : t.request = s.request
  overflowQueue : t.overflowQueue = s.overflowQueue
  continuations : t.continuations = s.continuations
  shuttingDown : t.shuttingDown = s.shuttingDown
  aborted : t.aborted = s.aborted
  promise : ∀ k, s.promise k ≠ .pending → t.promise k ≠ .pending

theorem SameQueries.onward (h : SameQueries s t) : Onward s t :=
  ⟨h.admitted, h.request, h.overflowQueue, h.continuations, h.shuttingDown, h.aborted,
    fun k => by rw [h.promise]; exact id⟩

theorem Onward.trans {u : Coordinator} (h : Onward s t) (h' : Onward t u) : Onward s u where
  admitted := h'.admitted.trans h.admitted
  request := h'.request.trans h.request
  overflowQueue := h'.overflowQueue.trans h.overflowQueue
  continuations := h'.continuations.trans h.continuations
  shuttingDown := h'.shuttingDown.trans h.shuttingDown
  aborted := h'.aborted.trans h.aborted
  promise := fun k hk => h'.promise k (h.promise k hk)

theorem onward_setPlace (s : Coordinator) (k : Nat) (place : Place) :
    Onward s (s.setPlace k place) := by
  constructor <;> first | rfl | exact fun _ => id

theorem onward_finishItem (s : Coordinator) (k : Nat) (value : Settlement) :
    Onward s (s.finishItem k value) := by
  constructor
  case promise =>
    intro j hj
    by_cases hjk : j = k
    · subst hjk
      simpa [finishItem, settle, cleanupActiveQuery, Settlement.settle_of_ne hj] using hj
    · simpa [finishItem, settle, cleanupActiveQuery, hjk] using hj
  all_goals rfl

theorem onward_afterLocks (s : Coordinator) (k : Nat) (flow : Flow) :
    Onward s (s.afterLocks k flow) := by
  unfold afterLocks
  split
  · constructor <;> first | rfl | exact fun _ => id
  · unfold executeQueryOnWorker
    split
    · exact (onward_finishItem _ _ _).trans (onward_setPlace _ _ _)
    · exact (onward_setPlace _ _ _).trans (sameQueries_execute _ _ _).onward

theorem onward_executeQueryOnWorkerWithLocks (s : Coordinator) (k w : Nat)
    (viaOverflow : Bool) :
    Onward s (s.executeQueryOnWorkerWithLocks config k w viaOverflow) := by
  unfold executeQueryOnWorkerWithLocks
  split
  · constructor <;> first | rfl | exact fun _ => id
  · exact onward_afterLocks _ _ _

/-- No query that waits for a worker has been aborted without being settled. -/
def Caught (s : Coordinator) : Prop :=
  ∀ k ∈ s.waiting, s.isAborted k = true → s.promise k ≠ .pending

instance (s : Coordinator) : Decidable s.Caught := inferInstanceAs (Decidable (∀ _ ∈ _, _))

theorem Caught.onward (h : Caught s) (honward : Onward s t) : Caught t := by
  intro k hk haborted
  have hmem : k ∈ s.waiting := by simpa only [waiting, honward.overflowQueue] using hk
  have habortedBefore : s.isAborted k = true := by
    simpa only [isAborted, honward.request, honward.aborted] using haborted
  exact honward.promise k (h k hmem habortedBefore)

theorem Sound.dequeue {k : Nat} {rest : PriorityQueue Nat} (h : Sound strict none s)
    (hdequeue : s.overflowQueue.dequeue = some (k, rest)) :
    Sound strict (some k) { s with overflowQueue := rest } := by
  have hwaiting : s.waiting = k :: rest.toArray := PriorityQueue.toArray_dequeue hdequeue
  have hnodup := h.nodup
  rw [hwaiting, List.nodup_cons] at hnodup
  constructor
  · exact h.fresh
  · exact h.placed
  · exact fun j hj => h.bounded j (by rw [hwaiting]; exact List.mem_cons_of_mem _ hj)
  · exact hnodup.2
  · intro j hj
    have hjk : j ≠ k := fun hjk => hj (by rw [hjk])
    rw [← h.waits j (by simp), hwaiting]
    simp [waiting, hjk]
  · intro j hj
    cases hj
    exact ⟨h.bounded k (by rw [hwaiting]; exact List.mem_cons_self), hnodup.1⟩
  · exact h.entries
  · exact fun hs j hj _ => h.inHand hs j hj (by simp)

theorem Sound.dispatchOverflow (n : Nat) (h : Sound strict none s) (hcaught : strict → Caught s) :
    Sound strict none (dispatchOverflow config n s) := by
  induction n generalizing s with
  | zero => exact h
  | succ n ih =>
      unfold Coordinator.dispatchOverflow
      split
      · rename_i w k rest _ hdequeue
        have hwaiting : s.waiting = k :: rest.toArray :=
          PriorityQueue.toArray_dequeue hdequeue
        refine ih ((h.dequeue hdequeue).executeQueryOnWorkerWithLocks fun hs _ => ?_) fun hs => ?_
        · exact hcaught hs k (by rw [hwaiting]; exact List.mem_cons_self)
        · have hleft : Caught { s with overflowQueue := rest } := fun j hj =>
            hcaught hs j (by rw [hwaiting]; exact List.mem_cons_of_mem _ hj)
          exact hleft.onward (onward_executeQueryOnWorkerWithLocks _ _ _ _)
      · exact h

theorem shuttingDown_dispatchOverflow (n : Nat) (s : Coordinator) :
    (dispatchOverflow config n s).shuttingDown = s.shuttingDown := by
  induction n generalizing s with
  | zero => rfl
  | succ n ih =>
      unfold dispatchOverflow
      split
      · rw [ih, (onward_executeQueryOnWorkerWithLocks _ _ _ _).shuttingDown]
      · rfl

theorem Sound.processOverflowQueue (h : Sound strict none s) (hcaught : strict → Caught s) :
    Sound strict none (s.processOverflowQueue config) := by
  unfold Coordinator.processOverflowQueue
  split
  · have hdispatched : Sound strict none (Coordinator.dispatchOverflow config maxBatchSize s) :=
      h.dispatchOverflow maxBatchSize hcaught
    dsimp only
    split
    · exact ⟨hdispatched.fresh, hdispatched.placed, hdispatched.bounded, hdispatched.nodup,
        hdispatched.waits, hdispatched.out, hdispatched.entries, hdispatched.inHand⟩
    · exact hdispatched
  · exact h

/-- Whoever waits for a worker is looked after: a call of `processOverflowQueue` is
scheduled. -/
def Draining (s : Coordinator) : Prop :=
  s.waiting ≠ [] → s.shuttingDown = false ∧ 0 < s.continuations

theorem draining_processOverflowQueue (h : s.waiting ≠ [] → s.shuttingDown = false) :
    Draining (s.processOverflowQueue config) := by
  unfold processOverflowQueue
  split
  · rename_i hoverflowing
    dsimp only
    split
    · rename_i hstill
      intro _
      exact ⟨hstill.2, Nat.succ_pos _⟩
    · rename_i hstill
      intro hwaiting
      have hdown := @shuttingDown_dispatchOverflow config maxBatchSize s
      exact absurd ⟨hwaiting, hdown.trans hoverflowing.2⟩ hstill
  · rename_i hnot
    intro hwaiting
    exact absurd ⟨hwaiting, h hwaiting⟩ hnot

theorem Sound.enqueueOverflow {k : Nat} (h : Sound strict (some k) s) :
    Sound strict none (s.enqueueOverflow config k) := by
  have hout := h.out k rfl
  unfold Coordinator.enqueueOverflow
  split
  · refine (h.finishItem hout.1 (by simp)).setPlace (by simp) fun _ hpending => ?_
    exact absurd hpending (promise_finishItem (by simp))
  · have hperm := PriorityQueue.perm_enqueue (q := s.overflowQueue) k (s.request k).priority
    have hmem : ∀ j, j ∈ (s.overflowQueue.enqueue k (s.request k).priority).toArray ↔
        j = k ∨ j ∈ s.waiting := by
      intro j
      rw [hperm.mem_iff, List.mem_cons]
      exact Iff.rfl
    constructor
    · exact h.fresh
    · intro j hj
      have hjk : j ≠ k := fun hjk => absurd hout.1 (Nat.not_lt.2 (hjk ▸ hj))
      simpa [Coordinator.setPlace, hjk] using h.placed j hj
    · intro j hj
      rcases (hmem j).1 hj with rfl | hold
      · exact hout.1
      · exact h.bounded j hold
    · exact hperm.nodup_iff.2 (List.nodup_cons.2 ⟨hout.2, h.nodup⟩)
    · intro j _
      by_cases hjk : j = k
      · subst hjk
        simp [waiting, Coordinator.setPlace, hmem]
      · have hwaits := h.waits j fun hkj => hjk (Option.some.inj hkj).symm
        have hplace : (s.setPlace k .overflow).place j = s.place j := by
          simp [Coordinator.setPlace, hjk]
        exact ((hmem j).trans (or_iff_right hjk)).trans (hwaits.trans (by rw [← hplace]))
    · simp
    · exact h.entries
    · intro hs j hj _ hpending
      by_cases hjk : j = k
      · subst hjk
        simp [Coordinator.setPlace, Place.InHand]
      · have hhand := h.inHand hs j hj (fun hkj => hjk (Option.some.inj hkj).symm) hpending
        simpa [Coordinator.setPlace, hjk] using hhand

theorem mem_track {id : String} {k : Nat} {e : String × Nat} (h : e ∈ s.track id k) :
    e = (id, k) ∨ e ∈ s.activeQueries := by
  unfold track at h
  split at h
  · obtain ⟨old, hold, he⟩ := List.mem_map.1 h
    split at he
    · exact .inl he.symm
    · exact .inr (he ▸ hold)
  · rcases List.mem_append.1 h with hold | hnew
    · exact .inr hold
    · exact .inl (List.mem_singleton.1 hnew)

theorem Sound.enlist (h : Sound strict none s) (r : QueryRequest) :
    Sound strict (some s.admitted) (s.enlist r) := by
  have hold : ∀ e ∈ s.activeQueries, e.2 ≠ s.admitted := fun e hmem he =>
    (h.fresh s.admitted le_rfl).2 (List.mem_map.2 ⟨e, hmem, he⟩)
  constructor
  · intro k hk
    have hk : s.admitted + 1 ≤ k := hk
    refine ⟨(h.fresh k (by omega)).1, fun hactive => ?_⟩
    obtain ⟨e, hmem, rfl⟩ := List.mem_map.1 hactive
    rcases mem_track hmem with rfl | hmem
    · exact absurd hk (by simp)
    · exact (h.fresh e.2 (by omega)).2 (List.mem_map.2 ⟨e, hmem, rfl⟩)
  · intro k hk
    have hk : s.admitted + 1 ≤ k := hk
    exact h.placed k (by omega)
  · exact fun j hj => Nat.lt_succ_of_lt (h.bounded j hj)
  · exact h.nodup
  · exact fun j _ => h.waits j (by simp)
  · intro j hj
    cases hj
    exact ⟨Nat.lt_succ_self _, fun hmem => absurd (h.bounded _ hmem) (lt_irrefl _)⟩
  · intro e hmem
    rcases mem_track hmem with rfl | hmem
    · exact ⟨by simp [Coordinator.enlist], (h.fresh _ le_rfl).1⟩
    · simpa [Coordinator.enlist, hold e hmem] using h.entries e hmem
  · intro hs j hj hhole hpending
    have hj : j < s.admitted + 1 := hj
    have hne : j ≠ s.admitted := fun hjk => hhole (by rw [hjk])
    exact h.inHand hs j (by omega) (by simp) hpending

/-- A query is admitted when its signal has not been aborted. -/
theorem Caught.enlist (hsound : Sound strict none s) (h : Caught s) {r : QueryRequest} :
    Caught (s.enlist r) := by
  intro k hk haborted
  have hne : k ≠ s.admitted := (hsound.bounded k hk).ne
  exact h k hk (by simpa [isAborted, Coordinator.enlist, hne] using haborted)

theorem Caught.enqueueOverflow (h : Caught s) {k : Nat} (haborted : s.isAborted k = false) :
    Caught (s.enqueueOverflow config k) := by
  unfold Coordinator.enqueueOverflow
  split
  · exact h.onward ((onward_finishItem _ _ _).trans (onward_setPlace _ _ _))
  · intro j hj habortedJ
    have hperm := PriorityQueue.perm_enqueue (q := s.overflowQueue) k (s.request k).priority
    rcases List.mem_cons.1 (hperm.mem_iff.1 hj) with rfl | hold
    · exact absurd habortedJ (by simpa [isAborted, Coordinator.setPlace] using haborted)
    · exact h j hold habortedJ

theorem shuttingDown_enqueueOverflow (s : Coordinator) (k : Nat) :
    (s.enqueueOverflow config k).shuttingDown = s.shuttingDown := by
  unfold enqueueOverflow
  split <;> rfl

/-- **Admission.** -/
theorem Sound.query (h : Sound strict none s) (hcaught : strict → Caught s) (r : QueryRequest) :
    Sound strict none (s.query config r) := by
  unfold Coordinator.query
  split
  · rename_i hadmits
    have hopen := h.enlist r
    have habortedNew : (s.enlist r).isAborted s.admitted = false := by
      simpa [isAborted, Coordinator.enlist] using hadmits.2.2
    unfold Coordinator.executeQuery
    split
    · exact hopen.enqueueOverflow.processOverflowQueue fun hs =>
        ((hcaught hs).enlist h).enqueueOverflow habortedNew
    · exact hopen.executeQueryOnWorkerWithLocks (by simp)
  · exact h

theorem Draining.query (h : Draining s) (r : QueryRequest) : Draining (s.query config r) := by
  unfold Coordinator.query
  split
  · rename_i hadmits
    unfold Coordinator.executeQuery
    split
    · refine draining_processOverflowQueue fun _ => ?_
      rw [shuttingDown_enqueueOverflow]
      exact hadmits.1
    · rename_i w _
      have honward := @onward_executeQueryOnWorkerWithLocks config (s.enlist r) s.admitted w false
      intro hwaiting
      rw [honward.shuttingDown, honward.continuations]
      rw [waiting, honward.overflowQueue] at hwaiting
      exact h hwaiting
  · exact h

/-- Whom `cancelQuery` takes out of the overflow queue is the query that it rejects, or one
that has been settled. -/
def CancelsOwn (s : Coordinator) (id : String) : Prop :=
  ∀ k ∈ s.entry id, ∀ j ∈ s.findById id s.waiting, j = k ∨ s.promise j ≠ .pending

instance (s : Coordinator) (id : String) : Decidable (s.CancelsOwn id) :=
  inferInstanceAs (Decidable (∀ _ ∈ _, ∀ _ ∈ _, _))

theorem mem_of_entry {id : String} {k : Nat} (h : s.entry id = some k) :
    (id, k) ∈ s.activeQueries := by
  unfold entry at h
  cases hfind : s.activeQueries.find? fun e => e.1 = id with
  | none => simp [hfind] at h
  | some e =>
      have hid : e.1 = id := by simpa using List.find?_some hfind
      have hk : e.2 = k := by simpa [hfind] using h
      have hmem := List.mem_of_find?_eq_some hfind
      rwa [← hid, ← hk]

theorem entry_eq_none {id : String} (h : s.entry id = none) :
    ∀ e ∈ s.activeQueries, e.1 ≠ id := by
  simpa [entry] using h

theorem Sound.lt_admitted {hole : Option Nat} (h : Sound strict hole s) {k : Nat} (hk : s.Active k) :
    k < s.admitted := by
  by_contra hnot
  exact (h.fresh k (Nat.le_of_not_lt hnot)).2 hk

theorem Sound.cancelQuery (h : Sound strict none s) {id : String} (hown : strict → s.CancelsOwn id) :
    Sound strict none (s.cancelQuery id).1 := by
  unfold Coordinator.cancelQuery
  cases hentry : s.entry id with
  | none => exact h
  | some k =>
      have hmem := mem_of_entry hentry
      have hid := (h.entries _ hmem).1
      have hk : k < s.admitted := h.lt_admitted (List.mem_map.2 ⟨_, hmem, rfl⟩)
      have hnot : ¬ (s.cleanupActiveQuery id).Active k := by
        have hnot := h.not_active k
        rwa [hid] at hnot
      have hcleaned := h.cleanupActiveQuery id
      have hset : Sound strict none
          ((s.cleanupActiveQuery id).settle k (.rejected (.cancelled .user))) :=
        hcleaned.settle hk (by simp) hnot
      dsimp only
      cases hremove : s.overflowQueue.remove fun j => (s.request j).id = id with
      | none =>
          dsimp only
          split
          · exact hcleaned.congr (sameQueries_cancelOnWorker _ _ _)
          · exact hcleaned
      | some pair =>
          obtain ⟨removed, rest⟩ := pair
          obtain ⟨hfind, hrest⟩ := PriorityQueue.toArray_remove hremove
          have hwaiting : removed ∈ s.waiting := List.mem_of_find?_eq_some hfind
          have hremoved : strict → removed = k ∨ s.promise removed ≠ .pending := fun hs =>
            hown hs k hentry removed hfind
          have herase : rest.toArray = s.waiting.erase removed :=
            PriorityQueue.toArray_remove_erase hremove
          have hmemRest : ∀ j, j ∈ rest.toArray ↔ j ≠ removed ∧ j ∈ s.waiting := fun j => by
            rw [herase, h.nodup.mem_erase_iff]
          constructor
          · exact hset.fresh
          · intro j hj
            by_cases hjr : j = removed
            · simp [hjr]
            · simpa [hjr] using h.placed j hj
          · exact fun j hj => h.bounded j ((hmemRest j).1 hj).2
          · simpa only [waiting, herase] using h.nodup.erase removed
          · intro j _
            by_cases hj : j = removed
            · subst hj
              simp [waiting, hmemRest]
            · have hwaits := h.waits j (by simp)
              simpa [waiting, hmemRest, hj] using hwaits
          · simp
          · exact hset.entries
          · intro hs j hj _ hpending
            by_cases hjr : j = removed
            · subst hjr
              rcases hremoved hs with rfl | hne
              · exact absurd hpending (by simp [Coordinator.settle, Settlement.settle_ne])
              · refine absurd hpending ?_
                exact (onward_finishItem s k (.rejected (.cancelled .user))).promise j hne
            · have hhand := hset.inHand hs j hj (by simp) hpending
              simpa [Coordinator.settle, Coordinator.cleanupActiveQuery, hjr] using hhand

theorem Sound.not_active_cancelQuery (h : Sound strict none s) (k : Nat) :
    ¬ (s.cancelQuery (s.request k).id).1.Active k := by
  unfold Coordinator.cancelQuery
  cases hentry : s.entry (s.request k).id with
  | none =>
      intro hactive
      obtain ⟨e, hmem, rfl⟩ := List.mem_map.1 hactive
      exact entry_eq_none hentry e hmem (h.entries e hmem).1.symm
  | some j =>
      have hnot := h.not_active k
      dsimp only
      split
      · exact hnot
      · split
        · rw [Active, (sameQueries_cancelOnWorker _ _ _).activeQueries]
          exact hnot
        · exact hnot

theorem admitted_cancelQuery (s : Coordinator) (id : String) :
    (s.cancelQuery id).1.admitted = s.admitted := by
  unfold cancelQuery
  split
  · rfl
  · dsimp only
    split
    · rfl
    · split
      · exact (sameQueries_cancelOnWorker _ _ _).admitted
      · rfl

theorem Sound.cancel (h : Sound strict none s) {id : String} (hown : strict → s.CancelsOwn id) :
    Sound strict none (s.cancel id) :=
  (h.cancelQuery hown).congr (by constructor <;> rfl)

theorem Sound.timeOut (h : Sound strict none s) {k : Nat} (hk : k < s.admitted)
    (hown : strict → s.CancelsOwn (s.request k).id) : Sound strict none (s.timeOut k) := by
  have hfired : Sound strict none { s with timer := Function.update s.timer k false } :=
    h.congr (by constructor <;> rfl)
  refine (hfired.cancelQuery hown).settle ?_ (by simp) (hfired.not_active_cancelQuery k)
  rwa [admitted_cancelQuery]

/-- What a handler of a signal is to cancel. -/
def HandlesOwn (s : Coordinator) : Listener → Prop
  | .coordinator k => s.CancelsOwn (s.request k).id
  | .worker _ _ => True

instance (s : Coordinator) : ∀ l, Decidable (s.HandlesOwn l)
  | .coordinator k => inferInstanceAs (Decidable (s.CancelsOwn (s.request k).id))
  | .worker _ _ => .isTrue trivial

theorem Sound.handle (h : Sound strict none s) {l : Listener} (hown : strict → s.HandlesOwn l) :
    Sound strict none (s.handle l) := by
  unfold Coordinator.handle
  split
  · have hremoved : Sound strict none { s with listeners := s.listeners.erase l } :=
      h.congr (by constructor <;> rfl)
    cases l with
    | coordinator k => exact hremoved.cancel hown
    | worker w k => exact hremoved.congr (sameQueries_handleAbort _ _ _)
  · exact h

theorem Sound.shutdown (h : Sound strict none s) : Sound strict none s.shutdown := by
  unfold Coordinator.shutdown
  split
  · exact h
  · refine Sound.congr ?_ (sameQueries_shutdownPool _)
    have hout : ∀ k, s.admitted ≤ k → ¬ (s.Active k ∨ k ∈ s.waiting) := by
      intro k hk hcase
      rcases hcase with hactive | hwaiting
      · exact (h.fresh k hk).2 hactive
      · exact absurd (h.bounded k hwaiting) (Nat.not_lt.2 hk)
    constructor
    · intro k hk
      refine ⟨?_, by simp [Active]⟩
      dsimp only
      rw [if_neg (hout k hk)]
      exact (h.fresh k hk).1
    · intro k hk
      dsimp only
      rw [h.placed k hk, ite_self]
    · simp [waiting, PriorityQueue.toArray]
    · simp [waiting, PriorityQueue.toArray]
    · intro k _
      have hwaits := h.waits k (by simp)
      refine iff_of_false (by simp [waiting, PriorityQueue.toArray]) ?_
      dsimp only
      by_cases hwaiting : k ∈ s.waiting
      · simp [if_pos hwaiting]
      · rw [if_neg hwaiting]
        exact fun hplace => hwaiting (hwaits.2 hplace)
    · simp
    · simp
    · intro hs k hk _ hpending
      dsimp only at hpending
      by_cases hcase : s.Active k ∨ k ∈ s.waiting
      · rw [if_pos hcase] at hpending
        exact absurd hpending (Settlement.settle_ne (by simp))
      · rw [if_neg hcase] at hpending
        rw [not_or] at hcase
        simpa [if_neg hcase.2] using h.inHand hs k hk (by simp) hpending

/-- The steps that do not drop a query. -/
def Keeps (s : Coordinator) : Action → Prop
  | .submit _ => s.Caught
  | .conclude _ => s.Caught
  | .continuation => s.Caught
  | .cancel id => s.CancelsOwn id
  | .timeOut k => s.CancelsOwn (s.request k).id
  | .handle => ∀ l ∈ s.dispatching.head?, s.HandlesOwn l
  | .lock k => ∀ flow ∈ s.lockWait k,
      flow.viaOverflow = true → s.isAborted k = true → s.promise k ≠ .pending
  | _ => True

instance (s : Coordinator) : ∀ a, Decidable (Keeps s a)
  | .submit _ => inferInstanceAs (Decidable s.Caught)
  | .conclude _ => inferInstanceAs (Decidable s.Caught)
  | .continuation => inferInstanceAs (Decidable s.Caught)
  | .cancel id => inferInstanceAs (Decidable (s.CancelsOwn id))
  | .timeOut k => inferInstanceAs (Decidable (s.CancelsOwn (s.request k).id))
  | .handle => inferInstanceAs (Decidable (∀ l ∈ s.dispatching.head?, s.HandlesOwn l))
  | .lock k => inferInstanceAs (Decidable (∀ flow ∈ s.lockWait k, _ → _ → _))
  | .abort _ => .isTrue trivial
  | .answer _ => .isTrue trivial
  | .release _ => .isTrue trivial
  | .complete _ _ => .isTrue trivial
  | .advance _ => .isTrue trivial
  | .shutdown => .isTrue trivial
  | .addWorker => .isTrue trivial
  | .ready _ => .isTrue trivial
  | .fail _ => .isTrue trivial
  | .shutdownPool => .isTrue trivial
  | .clearPool => .isTrue trivial

theorem Sound.lt_of_place {hole : Option Nat} (h : Sound strict hole s) {k : Nat}
    (hplace : s.place k ≠ .over) : k < s.admitted := by
  by_contra hnot
  exact hplace (h.placed k (Nat.le_of_not_lt hnot))

/-- A query whose promise has been settled, unless it is in hand, may be anywhere else. -/
theorem Sound.settled_of_place {k : Nat} (h : Sound strict none s) (hplace : s.place k ≠ .over)
    (hhand : ¬ (s.place k).InHand) (hs : strict) : s.promise k ≠ .pending :=
  fun hpending => hhand (h.inHand hs k (h.lt_of_place hplace) (by simp) hpending)

theorem Sound.acts {a : Action} (h : Sound strict none s) (hkeeps : strict → Keeps s a)
    (hacts : s.Acts config a t) : Sound strict none t := by
  cases hacts with
  | submit r => exact h.query hkeeps r
  | cancel id => exact h.cancel hkeeps
  | timeOut _ hk => exact h.timeOut hk hkeeps
  | abort _ => exact ⟨h.fresh, h.placed, h.bounded, h.nodup, h.waits, h.out, h.entries, h.inHand⟩
  | @lock k flow hplace _ =>
      refine (h.open (h.lt_of_place (by simp [hplace])) (by simp [hplace])).afterLocks ?_
      exact fun hs => hkeeps hs flow (by simp [lockWait, hplace])
  | @answer k flow hplace hcall =>
      have hk : k < s.admitted := h.lt_of_place (by simp [hplace])
      refine ((h.open hk (by simp [hplace])).finishItem hk hcall).setPlace (by simp) ?_
      exact fun _ hpending => absurd hpending (promise_finishItem hcall)
  | @release k flow hplace =>
      have hsettled := h.settled_of_place (k := k) (by simp [hplace])
        (by simp [hplace, Place.InHand])
      have hset : Sound strict none (s.setPlace k (.returned none flow.viaOverflow)) :=
        (h.open (h.lt_of_place (by simp [hplace])) (by simp [hplace])).setPlace (by simp)
          fun hs hpending => absurd hpending (hsettled hs)
      exact hset.congr (by constructor <;> rfl)
  | @concludeOverflow k error hplace =>
      have hsettled := h.settled_of_place (k := k) (by simp [hplace])
        (by simp [hplace, Place.InHand])
      have hset : Sound strict none (s.setPlace k .over) :=
        (h.open (h.lt_of_place (by simp [hplace])) (by simp [hplace])).setPlace (by simp)
          fun hs hpending => absurd hpending (hsettled hs)
      exact ⟨hset.fresh, hset.placed, hset.bounded, hset.nodup, hset.waits, hset.out,
        hset.entries, hset.inHand⟩
  | @conclude k hplace =>
      have hsettled := h.settled_of_place (k := k) (by simp [hplace]) (by simp [hplace, Place.InHand])
      refine Sound.processOverflowQueue ?_ fun hs => Caught.onward (hkeeps hs) (onward_setPlace _ _ _)
      exact (h.open (h.lt_of_place (by simp [hplace])) (by simp [hplace])).setPlace (by simp)
        fun hs hpending => absurd hpending (hsettled hs)
  | @concludeError k error hplace =>
      have hk : k < s.admitted := h.lt_of_place (by simp [hplace])
      refine Sound.processOverflowQueue ?_
        fun hs => Caught.onward (hkeeps hs)
          ((onward_finishItem _ _ _).trans (onward_setPlace _ _ _))
      refine ((h.open hk (by simp [hplace])).finishItem hk (by simp)).setPlace (by simp) ?_
      exact fun _ hpending => absurd hpending (promise_finishItem (by simp))
  | continuation _ =>
      refine Sound.processOverflowQueue ?_ hkeeps
      exact ⟨h.fresh, h.placed, h.bounded, h.nodup, h.waits, h.out, h.entries, h.inHand⟩
  | complete _ _ => exact h.congr (by constructor <;> rfl)
  | advance _ _ => exact h.congr (sameQueries_advance _ _ _)
  | shutdown => exact h.shutdown
  | addWorker => exact h.congr (by constructor <;> rfl)
  | ready _ _ => exact h.congr (by constructor <;> rfl)
  | fail _ _ => exact h.congr (by constructor <;> rfl)
  | shutdownPool => exact h.congr (sameQueries_shutdownPool _)
  | clearPool _ => exact h.congr (by constructor <;> rfl)

/-- **Every step that keeps preserves the invariant.** -/
theorem Sound.step {a : Action} (h : Sound strict none s) (hkeeps : strict → Keeps s a)
    (hstep : s.step config a = some t) : Sound strict none t := by
  rcases step_cases hstep with ⟨rfl, l, rest, hdispatching, rfl⟩ | ⟨-, hacts⟩
  · have hown : strict → s.HandlesOwn l := fun hs => hkeeps hs l (by simp [hdispatching])
    have hrest : Sound strict none { s with dispatching := rest } :=
      h.congr (by constructor <;> rfl)
    exact hrest.handle fun hs => by cases l <;> exact hown hs
  · exact h.acts hkeeps hacts

theorem Draining.shrink (h : Draining s) (hwaiting : t.waiting ≠ [] → s.waiting ≠ [])
    (hdown : t.shuttingDown = s.shuttingDown) (hcount : s.continuations ≤ t.continuations) :
    Draining t := by
  intro hne
  obtain ⟨hopen, hpos⟩ := h (hwaiting hne)
  exact ⟨hdown.trans hopen, lt_of_lt_of_le hpos hcount⟩

theorem Draining.onward (h : Draining s) (honward : Onward s t) : Draining t :=
  h.shrink (by rw [waiting, waiting, honward.overflowQueue]; exact id) honward.shuttingDown
    honward.continuations.ge

theorem Draining.cancelQuery (h : Draining s) (id : String) :
    Draining (s.cancelQuery id).1 := by
  unfold Coordinator.cancelQuery
  split
  · exact h
  · dsimp only
    split
    · rename_i removed rest hremove
      refine h.shrink (fun _ hnil => ?_) rfl le_rfl
      have hfind := (PriorityQueue.toArray_remove hremove).1
      rw [show s.overflowQueue.toArray = [] from hnil] at hfind
      cases hfind
    · split
      · have hcleaned : Draining (s.cleanupActiveQuery id) := h
        exact hcleaned.onward (sameQueries_cancelOnWorker _ _ _).onward
      · exact h

theorem Draining.shutdown (h : Draining s) : Draining s.shutdown := by
  unfold Coordinator.shutdown
  split
  · exact h
  · refine Draining.onward (fun hne => absurd ?_ hne) (sameQueries_shutdownPool _).onward
    simp [waiting, PriorityQueue.toArray]

theorem Draining.acts {a : Action} (h : Draining s) (hacts : s.Acts config a t) :
    Draining t := by
  have hopen : s.waiting ≠ [] → s.shuttingDown = false := fun hne => (h hne).1
  cases hacts with
  | submit r => exact h.query r
  | cancel id => exact h.cancelQuery id
  | @timeOut k _ _ =>
      have hfired : Draining { s with timer := Function.update s.timer k false } := h
      exact hfired.cancelQuery (s.request k).id
  | abort _ => exact h
  | lock _ _ => exact h.onward (onward_afterLocks _ _ _)
  | answer _ _ => exact h.onward ((onward_finishItem _ _ _).trans (onward_setPlace _ _ _))
  | release _ => exact h
  | concludeOverflow _ => exact h.shrink id rfl (Nat.le_succ _)
  | conclude _ => exact draining_processOverflowQueue hopen
  | concludeError _ => exact draining_processOverflowQueue hopen
  | continuation _ => exact draining_processOverflowQueue hopen
  | complete _ _ => exact h
  | advance _ _ => exact h.onward (sameQueries_advance _ _ _).onward
  | shutdown => exact h.shutdown
  | addWorker => exact h
  | ready _ _ => exact h
  | fail _ _ => exact h
  | shutdownPool => exact h.onward (sameQueries_shutdownPool _).onward
  | clearPool _ => exact h

theorem Draining.handle (h : Draining s) (l : Listener) : Draining (s.handle l) := by
  unfold Coordinator.handle
  split
  · have hremoved : Draining { s with listeners := s.listeners.erase l } := h
    cases l with
    | coordinator k => exact hremoved.cancelQuery (s.request k).id
    | worker w k => exact hremoved.onward (sameQueries_handleAbort _ _ _).onward
  · exact h

theorem Draining.step {a : Action} (h : Draining s) (hstep : s.step config a = some t) :
    Draining t := by
  rcases step_cases hstep with ⟨-, l, rest, -, rfl⟩ | ⟨-, hacts⟩
  · have hrest : Draining { s with dispatching := rest } := h
    exact hrest.handle l
  · exact h.acts hacts

/-- Nothing is outstanding: no call of a worker, no lock wait, no timer, no dispatch from
the overflow queue, no handler of a signal. -/
def Quiescent (s : Coordinator) : Prop :=
  s.dispatching = [] ∧ s.continuations = 0 ∧
    ∀ k < s.admitted, s.timer k = false ∧ (s.place k = .overflow ∨ s.place k = .over)

instance (s : Coordinator) : Decidable s.Quiescent := inferInstanceAs (Decidable (_ ∧ _ ∧ _))

/-- Once nothing is outstanding, the promise of every query has been settled and its entry is
gone. -/
def Settled (s : Coordinator) : Prop :=
  s.Quiescent → ∀ k < s.admitted, s.promise k ≠ .pending ∧ ¬ s.Active k

instance (s : Coordinator) : Decidable s.Settled := inferInstanceAs (Decidable (_ → _))

theorem settled_of_sound (h : Sound True none s) (hdraining : Draining s) : Settled s := by
  intro hquiet k hk
  have hwaiting : s.waiting = [] := by
    by_contra hne
    have hpos := (hdraining hne).2
    rw [hquiet.2.1] at hpos
    exact absurd hpos (lt_irrefl 0)
  have hsettled : s.promise k ≠ .pending := by
    intro hpending
    have hhand := h.inHand trivial k hk (by simp) hpending
    rcases (hquiet.2.2 k hk).2 with hplace | hplace
    · have hmem := (h.waits k (by simp)).2 hplace
      rw [hwaiting] at hmem
      cases hmem
    · rw [hplace] at hhand
      exact hhand
  refine ⟨hsettled, fun hactive => ?_⟩
  obtain ⟨e, hmem, rfl⟩ := List.mem_map.1 hactive
  exact hsettled (h.entries e hmem).2

theorem sound_start : Sound strict none {} where
  fresh := by simp [Active]
  placed := by simp
  bounded := by simp [waiting, PriorityQueue.toArray]
  nodup := by simp [waiting, PriorityQueue.toArray]
  waits := by simp [waiting, PriorityQueue.toArray]
  out := by simp
  entries := by simp
  inHand := by simp

/-- What the maps and the queue of the coordinator say is so: who waits for a place is in
the queue once, with a dispatch scheduled, and the entries are the queries that are open. -/
def Accounted (s : Coordinator) : Prop :=
  s.waiting.Nodup ∧ (∀ k, k ∈ s.waiting ↔ s.place k = .overflow) ∧
    (s.waiting ≠ [] → s.shuttingDown = false ∧ 0 < s.continuations) ∧
    ∀ e ∈ s.activeQueries, (s.request e.2).id = e.1 ∧ s.promise e.2 = .pending

/-- **The books are kept in every run.**  No dispatch is forgotten while a query waits. -/
theorem always_accounted (config : PoolConfig) (actions : List Action) :
    Always (step config) Accounted {} actions := by
  refine always_of_allowed (fun s => Sound False none s ∧ Draining s)
    (fun s h => ⟨h.1.nodup, fun k => h.1.waits k (by simp), h.2, h.1.entries⟩)
    (fun s a t h _ hstep => ⟨h.1.step False.elim hstep, h.2.step hstep⟩) actions {} ?_
    (allowed_of_forall (fun _ _ _ => trivial) _)
  exact ⟨sound_start, by simp [Draining, waiting, PriorityQueue.toArray]⟩

/-- **Queries are settled.**  When no step drops a query, then whenever nothing is
outstanding, all queries that have been admitted have been settled. -/
theorem settled_of_keeps (config : PoolConfig) (actions : List Action)
    (hkeeps : Allowed (step config) Keeps {} actions) :
    Always (step config) Settled {} actions := by
  refine always_of_allowed (fun s => Sound True none s ∧ Draining s)
    (fun s h => settled_of_sound h.1 h.2) (fun s a t h hallowed hstep => ?_) actions {} ?_ hkeeps
  · exact ⟨h.1.step (fun _ => hallowed) hstep, h.2.step hstep⟩
  · exact ⟨sound_start, by simp [Draining, waiting, PriorityQueue.toArray]⟩

/-- A pool whose workers take two queries each. -/
def twoPlaces : PoolConfig :=
  { maxActiveQueries := 100, maxOverflowQueueSize := 10, maxQueuePerWorker := 2 }

/-- A writer runs, another query is behind it, and a reader with a signal has to wait for a
place: it gets one when the other query is cancelled, and waits for the writer's table. -/
def readerBehindWriter : List Action :=
  [.addWorker, .ready 0, .submit { id := "writer", tables := ["t"], mode := .write }, .lock 0,
    .submit { id := "other" }, .submit { id := "reader", tables := ["t"], signal := some 0 },
    .cancel "other", .continuation, .answer 1, .release 1, .conclude 1]

/-- The writer is answered, and everything goes on to its end. -/
def writerDone : List Action :=
  [.complete 0 true, .answer 0, .advance 0, .release 0, .conclude 0, .lock 2]

/-- **A query settles although it had to wait twice.** -/
theorem readerBehindWriter_settled :
    Allowed (step twoPlaces) Keeps {} (readerBehindWriter ++ writerDone ++
      [.complete 0 true, .answer 2, .advance 0, .release 2, .conclude 2, .continuation]) ∧
    Always (step twoPlaces) Settled {} (readerBehindWriter ++ writerDone ++
      [.complete 0 true, .answer 2, .advance 0, .release 2, .conclude 2, .continuation]) ∧
    ∃ s, Exec (step twoPlaces) {} (readerBehindWriter ++ writerDone ++
        [.complete 0 true, .answer 2, .advance 0, .release 2, .conclude 2, .continuation]) s ∧
      s.Quiescent ∧ s.promise 2 = .resolved := by
  have hkeeps : Allowed (step twoPlaces) Keeps {} (readerBehindWriter ++ writerDone ++
      [.complete 0 true, .answer 2, .advance 0, .release 2, .conclude 2, .continuation]) := by
    decide +kernel
  exact ⟨hkeeps, settled_of_keeps _ _ hkeeps, exists_exec (by decide +kernel)⟩

/-- **Two ways to drop a query.**  The reader is aborted while it waits for the table of the
writer; or two queries with one id wait for a place, and a cancellation takes the first one
out of the queue but rejects the second. -/
theorem dropped_queries :
    (∃ s, Exec (step twoPlaces) {} (readerBehindWriter ++ [.abort 0, .handle] ++ writerDone ++
        [.conclude 2, .continuation]) s ∧
      s.Quiescent ∧ 2 < s.admitted ∧ s.promise 2 = .pending) ∧
    ∃ s, Exec (step twoPlaces) {}
        [.addWorker, .ready 0, .submit { id := "a" }, .submit { id := "b" },
          .submit { id := "c" }, .submit { id := "c" }, .cancel "c", .complete 0 true,
          .answer 0, .advance 0, .release 0, .conclude 0, .complete 0 true, .answer 1,
          .advance 0, .release 1, .conclude 1, .complete 0 true, .answer 3, .advance 0,
          .release 3, .conclude 3, .continuation, .continuation, .continuation] s ∧
      s.Quiescent ∧ 2 < s.admitted ∧ s.promise 2 = .pending :=
  ⟨exists_exec (by decide +kernel), exists_exec (by decide +kernel)⟩

end Coordinator

end QueryPool

end Zentra
