import Zentra.PriorityQueue
import Zentra.StepTrace
import Zentra.TableLocks

/-!
# The coordinator of a pool of query workers

A query is given to the least busy worker, or waits in an overflow queue until one has a
place.  Before it goes to its worker it waits for the locks of its tables.  It can be
cancelled, aborted through a signal, or time out at any time, and the pool can shut down.

* `submit`, `processOverflowQueue`, `cancelQuery`, `shutdown` and the continuations of
  `executeQuery` — the code between two of its awaits;
* `step` — the interleavings.
-/

open StepTrace

namespace Zentra

namespace QueryPool

open TableLocking (LockState Ticket QueryMode)

/-- `QueryRequest`; the timeout has its default, and zero stands for none. -/
structure QueryRequest where
  id : String
  tables : List String := []
  mode : QueryMode := .read
  priority : Priority := .normal
  timeoutMs : Nat := 0
  signal : Option Nat := none
  deriving DecidableEq, Repr

/-- What `resolvePoolConfig` returns, as far as it is used here. -/
structure PoolConfig where
  maxActiveQueries : Nat
  maxOverflowQueueSize : Nat
  maxQueuePerWorker : Nat
  enableTableLocking : Bool := true
  deriving DecidableEq, Repr

/-- The reason of a `QueryCancelledError`. -/
inductive CancelReason
  | user
  | shutdown
  deriving DecidableEq, Repr

inductive PoolError
  | capacity
  | shutdown
  | cancelled (reason : CancelReason)
  | timeout
  | worker
  | execution
  deriving DecidableEq, Repr

inductive Settlement
  | pending
  | resolved
  | rejected (error : PoolError)
  deriving DecidableEq, Repr

/-- A promise is settled once: what comes later has no effect. -/
def Settlement.settle (value : Settlement) : Settlement → Settlement
  | .pending => value
  | .resolved => .resolved
  | .rejected error => .rejected error

def Settlement.Cancelled : Settlement → Prop
  | .rejected (.cancelled _) => True
  | _ => False

instance : ∀ value : Settlement, Decidable value.Cancelled
  | .pending => .isFalse id
  | .resolved => .isFalse id
  | .rejected (.cancelled _) => .isTrue trivial
  | .rejected .capacity => .isFalse id
  | .rejected .shutdown => .isFalse id
  | .rejected .timeout => .isFalse id
  | .rejected .worker => .isFalse id
  | .rejected .execution => .isFalse id

/-- The error of a cancellation or of a timeout. -/
def Settlement.Withdrawn (value : Settlement) : Prop :=
  value.Cancelled ∨ value = .rejected .timeout

instance (value : Settlement) : Decidable value.Withdrawn :=
  inferInstanceAs (Decidable (_ ∨ _))

inductive WorkerStatus
  | initializing
  | idle
  | busy
  | error
  | shutdown
  deriving DecidableEq, Repr

/-- `WorkerInstance`.  Its loop is running exactly while it has a current query, unless it
has been shut down; `initializing` says that `initialize` has not returned, and `pooled`
that the worker is one of the pool's. -/
structure WorkerInstance where
  status : WorkerStatus := .initializing
  queue : List Nat := []
  currentQuery : Option Nat := none
  initializing : Bool := true
  pooled : Bool := true
  deriving DecidableEq, Repr

namespace WorkerInstance

variable (worker : WorkerInstance)

def queueLength : Nat := worker.queue.length + worker.currentQuery.toList.length

def queries : List Nat := worker.queue ++ worker.currentQuery.toList

/-- The worker is in a status in which it runs queries. -/
def Ready : Prop := worker.status = .idle ∨ worker.status = .busy

instance : Decidable worker.Ready := inferInstanceAs (Decidable (_ ∨ _))

/-- `execute` does not reject at once. -/
def Accepts : Prop := worker.status ≠ .shutdown ∧ worker.status ≠ .error

instance : Decidable worker.Accepts := inferInstanceAs (Decidable (_ ∧ _))

/-- The head of the queue becomes the current query. -/
def startNext : WorkerInstance :=
  match worker.queue with
  | [] => worker
  | next :: rest => { worker with queue := rest, currentQuery := some next, status := .busy }

/-- `processQueue`, up to the point where it waits for the query. -/
def processQueue : WorkerInstance :=
  if worker.currentQuery = none ∧ worker.Ready then worker.startNext else worker

/-- `execute`: the query joins the queue. -/
def push (query : Nat) : WorkerInstance :=
  { worker with queue := worker.queue ++ [query] }.processQueue

/-- The loop of `processQueue` goes on when the current query is over. -/
def advance : WorkerInstance :=
  match worker.queue with
  | [] =>
      { worker with
        currentQuery := none
        status := if worker.status = .shutdown then .shutdown else .idle }
  | _ :: _ =>
      if worker.status = .shutdown then { worker with currentQuery := none }
      else { worker with currentQuery := none }.startNext

/-- `shutdown`. -/
def close : WorkerInstance :=
  { worker with status := .shutdown, queue := [], currentQuery := none }

end WorkerInstance

/-- A call of `executeQueryOnWorkerWithLocks`: the worker that was chosen, the locks that it
acquires, and whether it comes from the overflow queue. -/
structure Flow where
  worker : Nat
  tickets : List Ticket := []
  viaOverflow : Bool := false
  deriving DecidableEq, Repr

/-- Where the execution of a query is: in the overflow queue, waiting for locks, waiting for
the worker, with its locks still to be released, with the call of
`executeQueryOnWorkerWithLocks` over, or over. -/
inductive Place
  | overflow
  | locking (flow : Flow)
  | calling (flow : Flow)
  | releasing (flow : Flow)
  | returned (error : Option PoolError) (viaOverflow : Bool)
  | over
  deriving DecidableEq, Repr

/-- The query has not been given to a worker. -/
def Place.Undispatched : Place → Bool
  | .overflow => true
  | .locking _ => true
  | .returned error _ => error.isSome
  | _ => false

/-- The handlers of an abort signal: `cancelQuery` of the coordinator and `handleAbort` of a
worker. -/
inductive Listener
  | coordinator (query : Nat)
  | worker (index query : Nat)
  deriving DecidableEq, Repr

def Listener.query : Listener → Nat
  | .coordinator query => query
  | .worker _ query => query

/-- `QueryCoordinator` with its pool.  The queries are numbered in the order of their
admission: `request`, `place`, `promise`, `call` (the promise of the worker) and `timer`
belong to one query each.  `listeners` are the handlers that are registered, `dispatching`
those that the abort of a signal has still to call, and `continuations` counts the calls of
`processOverflowQueue` that are scheduled.

The code does not have the last three: the queries that were rejected by a cancellation or
a timeout before they were given to a worker, the queries that a worker has executed, and
those for which a call of `cancelQuery` has returned true. -/
structure Coordinator where
  admitted : Nat := 0
  request : Nat → QueryRequest := fun _ => { id := "" }
  place : Nat → Place := fun _ => .over
  promise : Nat → Settlement := fun _ => .pending
  call : Nat → Settlement := fun _ => .pending
  timer : Nat → Bool := fun _ => false
  activeQueries : List (String × Nat) := []
  overflowQueue : PriorityQueue Nat := {}
  workerCount : Nat := 0
  worker : Nat → WorkerInstance := fun _ => {}
  locks : LockState := {}
  listeners : List Listener := []
  dispatching : List Listener := []
  aborted : Nat → Bool := fun _ => false
  shuttingDown : Bool := false
  poolShuttingDown : Bool := false
  continuations : Nat := 0
  withdrawn : Nat → Bool := fun _ => false
  executed : Nat → Bool := fun _ => false
  reported : Nat → Bool := fun _ => false

namespace Coordinator

variable (config : PoolConfig) (s : Coordinator)

/-- `request.signal?.aborted`. -/
def isAborted (k : Nat) : Bool := (s.request k).signal.any s.aborted

/-- `activeQueries.get`. -/
def entry (id : String) : Option Nat := (s.activeQueries.find? fun e => e.1 = id).map (·.2)

/-- The queries that wait for a place with a worker, in their order. -/
def waiting : List Nat := s.overflowQueue.toArray

def setPlace (k : Nat) (place : Place) : Coordinator :=
  { s with place := Function.update s.place k place }

/-- The deferred promise of a query is settled. -/
def settle (k : Nat) (value : Settlement) : Coordinator :=
  { s with
    promise := Function.update s.promise k (value.settle (s.promise k))
    withdrawn := Function.update s.withdrawn k
      (s.withdrawn k || (decide (s.promise k = .pending) && decide value.Withdrawn &&
        (s.place k).Undispatched)) }

def cleanupActiveQuery (id : String) : Coordinator :=
  { s with
    timer := fun k => s.timer k && decide (s.entry id ≠ some k)
    listeners := s.listeners.filter fun l => s.entry id ≠ some l.query ∨ l ≠ .coordinator l.query
    activeQueries := s.activeQueries.filter fun e => e.1 ≠ id }

/-- `resolve` and `reject` of a query item. -/
def finishItem (k : Nat) (value : Settlement) : Coordinator :=
  (s.cleanupActiveQuery (s.request k).id).settle k value

/-- `getLeastBusyWorker` may choose the worker. -/
def Available (w : Nat) : Prop :=
  (s.worker w).pooled = true ∧ (s.worker w).Ready ∧
    (s.worker w).queueLength < config.maxQueuePerWorker

instance (w : Nat) : Decidable (s.Available config w) := inferInstanceAs (Decidable (_ ∧ _ ∧ _))

/-- The loop body of `getLeastBusyWorker`. -/
def lessBusy (best : Option Nat) (w : Nat) : Option Nat :=
  if s.Available config w ∧
      ∀ b ∈ best, (s.worker w).queueLength < (s.worker b).queueLength then some w
  else best

def getLeastBusyWorker : Option Nat :=
  (List.range s.workerCount).foldl (s.lessBusy config) none

def setWorker (w : Nat) (worker : WorkerInstance) : Coordinator :=
  { s with worker := Function.update s.worker w worker }

/-- The promise of the worker for a query is settled. -/
def settleCall (k : Nat) (value : Settlement) : Coordinator :=
  { s with call := Function.update s.call k (value.settle (s.call k)) }

/-- The worker's `executeQuery`, up to the point where it waits for the connection, for the
query that has become the current one. -/
def beginCurrent (w : Nat) : Coordinator :=
  match (s.worker w).currentQuery with
  | none => s
  | some k =>
      if s.isAborted k then s.settleCall k (.rejected (.cancelled .user))
      else { s with executed := Function.update s.executed k true }

/-- The worker's `execute`. -/
def execute (k w : Nat) : Coordinator :=
  if ¬ (s.worker w).Accepts then s.settleCall k (.rejected .worker)
  else
    let queued := { s.setWorker w ((s.worker w).push k) with
      listeners := s.listeners ++ if (s.request k).signal.isSome then [.worker w k] else [] }
    if (s.worker w).currentQuery = none then queued.beginCurrent w else queued

/-- The query leaves the queue of the worker. -/
def dropQueued (w k : Nat) : Coordinator :=
  { s.setWorker w { s.worker w with queue := (s.worker w).queue.erase k } with
    listeners := s.listeners.filter fun l => l ≠ Listener.worker w k
    call := Function.update s.call k (Settlement.settle (.rejected (.cancelled .user)) (s.call k)) }

/-- The first query of a list with the id. -/
def findById (id : String) (queries : List Nat) : Option Nat :=
  queries.find? fun k => (s.request k).id = id

/-- The first worker of the pool that has a query with the id. -/
def workerWith (id : String) : Option Nat :=
  (List.range s.workerCount).find? fun w =>
    (s.worker w).pooled && (s.findById id (s.worker w).queries).isSome

/-- The worker's `cancel`, where the worker has the query. -/
def cancelOnWorker (w : Nat) (id : String) : Coordinator :=
  match s.findById id (s.worker w).queue with
  | some k => s.dropQueued w k
  | none => s

/-- The worker's `handleAbort`. -/
def handleAbort (w : Nat) (id : String) : Coordinator :=
  match s.findById id (s.worker w).queue with
  | some k => s.dropQueued w k
  | none => s

/-- `executeQueryOnWorker`, up to the point where it waits for the worker. -/
def executeQueryOnWorker (k : Nat) (flow : Flow) : Coordinator :=
  if s.isAborted k then
    (s.finishItem k (.rejected (.cancelled .user))).setPlace k (.releasing flow)
  else (s.setPlace k (.calling flow)).execute k flow.worker

/-- `executeQueryOnWorkerWithLocks`, once the locks have been acquired. -/
def afterLocks (k : Nat) (flow : Flow) : Coordinator :=
  if s.isAborted k then
    { s.setPlace k (.returned (some (.cancelled .user)) flow.viaOverflow) with
      locks := s.locks.releaseLocks flow.tickets }
  else s.executeQueryOnWorker k flow

def NeedsLocks (k : Nat) : Prop :=
  config.enableTableLocking = true ∧ (s.request k).tables ≠ []

instance (k : Nat) : Decidable (s.NeedsLocks config k) := inferInstanceAs (Decidable (_ ∧ _))

/-- `executeQueryOnWorkerWithLocks`, up to its first await. -/
def executeQueryOnWorkerWithLocks (k w : Nat) (viaOverflow : Bool) : Coordinator :=
  if s.NeedsLocks config k then
    let tickets := s.locks.ticketsOf (s.request k).tables (s.request k).mode
    { s.setPlace k (.locking ⟨w, tickets, viaOverflow⟩) with
      locks := s.locks.acquireLocks (s.request k).tables (s.request k).mode }
  else s.afterLocks k ⟨w, [], viaOverflow⟩

/-- The loop of `processOverflowQueue`, for so many queries at most. -/
def dispatchOverflow : Nat → Coordinator → Coordinator
  | 0, s => s
  | n + 1, s =>
      match s.getLeastBusyWorker config, s.overflowQueue.dequeue with
      | some w, some (k, rest) =>
          dispatchOverflow n
            ({ s with overflowQueue := rest }.executeQueryOnWorkerWithLocks config k w true)
      | _, _ => s

def maxBatchSize : Nat := 10

/-- `processOverflowQueue` goes on after its first checks. -/
def Overflowing : Prop := s.waiting ≠ [] ∧ s.shuttingDown = false

instance : Decidable s.Overflowing := inferInstanceAs (Decidable (_ ∧ _))

/-- `processOverflowQueue`; it is never called while it runs. -/
def processOverflowQueue : Coordinator :=
  if s.Overflowing then
    let dispatched := dispatchOverflow config maxBatchSize s
    if dispatched.Overflowing then
      { dispatched with continuations := dispatched.continuations + 1 }
    else dispatched
  else s

/-- The query has to wait for a worker. -/
def enqueueOverflow (k : Nat) : Coordinator :=
  if config.maxOverflowQueueSize ≤ s.overflowQueue.size then
    (s.finishItem k (.rejected .capacity)).setPlace k .over
  else
    { s.setPlace k .overflow with
      overflowQueue := s.overflowQueue.enqueue k (s.request k).priority }

/-- `executeQuery`, up to its first await. -/
def executeQuery (k : Nat) : Coordinator :=
  match s.getLeastBusyWorker config with
  | none => (s.enqueueOverflow config k).processOverflowQueue config
  | some w => s.executeQueryOnWorkerWithLocks config k w false

/-- `activeQueries.set`. -/
def track (id : String) (k : Nat) : List (String × Nat) :=
  if s.activeQueries.any fun e => e.1 = id then
    s.activeQueries.map fun e => if e.1 = id then (id, k) else e
  else s.activeQueries ++ [(id, k)]

/-- `query` admits the request. -/
def Admits (r : QueryRequest) : Prop :=
  s.shuttingDown = false ∧ s.activeQueries.length < config.maxActiveQueries ∧
    r.signal.any s.aborted = false

instance (r : QueryRequest) : Decidable (s.Admits config r) :=
  inferInstanceAs (Decidable (_ ∧ _ ∧ _))

/-- The request has been given a promise, a timer and an entry. -/
def enlist (r : QueryRequest) : Coordinator :=
  { s with
    admitted := s.admitted + 1
    request := Function.update s.request s.admitted r
    timer := Function.update s.timer s.admitted (decide (0 < r.timeoutMs))
    activeQueries := s.track r.id s.admitted
    listeners := s.listeners ++ if r.signal.isSome then [.coordinator s.admitted] else [] }

/-- `query`, once the pool has been initialized. -/
def query (r : QueryRequest) : Coordinator :=
  if s.Admits config r then (s.enlist r).executeQuery config s.admitted else s

/-- The query that `cancelQuery` finds in the overflow queue or with a worker. -/
def found (id : String) : Option Nat :=
  match s.findById id s.waiting with
  | some k => some k
  | none => (s.workerWith id).bind fun w => s.findById id (s.worker w).queries

/-- `cancelQuery`, with what it returns. -/
def cancelQuery (id : String) : Coordinator × Bool :=
  match s.entry id with
  | none => (s, false)
  | some k =>
      let cleaned := s.cleanupActiveQuery id
      match s.overflowQueue.remove fun j => (s.request j).id = id with
      | some (removed, rest) =>
          ({ cleaned.settle k (.rejected (.cancelled .user)) with
              overflowQueue := rest
              place := Function.update s.place removed .over }, true)
      | none =>
          match s.workerWith id with
          | some w => (cleaned.cancelOnWorker w id, true)
          | none => (cleaned, false)

/-- A call of `cancelQuery`, by a caller or by the handler of a signal, and a record of
what it has returned. -/
def cancel (id : String) : Coordinator :=
  let result := s.cancelQuery id
  { result.1 with
    reported := fun k => result.1.reported k || (result.2 && decide (s.entry id = some k)) }

def timeOut (k : Nat) : Coordinator :=
  ({ s with timer := Function.update s.timer k false }.cancelQuery (s.request k).id).1.settle k
    (.rejected .timeout)

/-- A handler of a signal is called, unless it has been removed. -/
def handle (l : Listener) : Coordinator :=
  if l ∈ s.listeners then
    let removed := { s with listeners := s.listeners.erase l }
    match l with
    | .coordinator k => removed.cancel (s.request k).id
    | .worker w k => removed.handleAbort w (s.request k).id
  else s

def Pooled (w : Nat) : Prop := w < s.workerCount ∧ (s.worker w).pooled = true

instance (w : Nat) : Decidable (s.Pooled w) := inferInstanceAs (Decidable (_ ∧ _))

/-- The query is with a worker of the pool. -/
def OnPool (k : Nat) : Prop := ∃ w, s.Pooled w ∧ k ∈ (s.worker w).queries

instance (k : Nat) : Decidable (s.OnPool k) :=
  decidable_of_iff (∃ w ∈ List.range s.workerCount,
    (s.worker w).pooled = true ∧ k ∈ (s.worker w).queries) (by simp [OnPool, Pooled, and_assoc])

/-- `shutdown` of the pool, up to its first await. -/
def shutdownPool : Coordinator :=
  if s.poolShuttingDown then s
  else
    { s with
      poolShuttingDown := true
      call := fun k =>
        if s.OnPool k then Settlement.settle (.rejected (.cancelled .shutdown)) (s.call k)
        else s.call k
      listeners := s.listeners.filter fun l => ¬ s.OnPool l.query ∨ l = .coordinator l.query
      worker := fun w => if s.Pooled w then (s.worker w).close else s.worker w }

/-- `clearAll` of the locks: nobody waits any longer. -/
def clearLocks : LockState := { s.locks with tableLockRegistry := fun _ => none }

def Active (k : Nat) : Prop := k ∈ s.activeQueries.map (·.2)

instance (k : Nat) : Decidable (s.Active k) := inferInstanceAs (Decidable (_ ∈ _))

/-- `shutdown`, up to the point where it waits for the pool. -/
def shutdown : Coordinator :=
  if s.shuttingDown then s
  else
    shutdownPool { s with
      shuttingDown := true
      promise := fun k =>
        if s.Active k ∨ k ∈ s.waiting then
          Settlement.settle (.rejected .shutdown) (s.promise k)
        else s.promise k
      timer := fun k => s.timer k && decide (¬ s.Active k)
      listeners := s.listeners.filter fun l => ¬ s.Active l.query ∨ l ≠ .coordinator l.query
      activeQueries := []
      place := fun k => if k ∈ s.waiting then .over else s.place k
      overflowQueue := {}
      locks := s.clearLocks }

end Coordinator

/-- What happens: a caller submits or cancels a query, a timer fires, a signal is aborted
and calls its next handler, the pool shuts down; the code goes on after a lock wait
(`lock`), an answer of the worker (`answer`), with the release of the locks and with the
end of the execution of a query; a continuation of `processOverflowQueue` is run; the
connection of a worker answers its current query, and the worker goes on to the next one;
workers are added to the pool, get ready or fail, and leave the pool. -/
inductive Action
  | submit (request : QueryRequest)
  | cancel (id : String)
  | timeOut (query : Nat)
  | abort (signal : Nat)
  | handle
  | lock (query : Nat)
  | answer (query : Nat)
  | release (query : Nat)
  | conclude (query : Nat)
  | continuation
  | complete (worker : Nat) (succeeded : Bool)
  | advance (worker : Nat)
  | shutdown
  | addWorker
  | ready (worker : Nat)
  | fail (worker : Nat)
  | shutdownPool
  | clearPool
  deriving DecidableEq, Repr

namespace Coordinator

variable (config : PoolConfig) (s : Coordinator)

/-- The lock wait of a query is over. -/
def Granted (flow : Flow) : Prop := ∀ ticket ∈ flow.tickets, ¬ s.locks.Waits ticket

instance (flow : Flow) : Decidable (s.Granted flow) := inferInstanceAs (Decidable (∀ _ ∈ _, _))

def lockWait (k : Nat) : Option Flow :=
  match s.place k with
  | .locking flow => some flow
  | _ => none

/-- The query is given to its worker when it has its locks. -/
def Dispatches (k : Nat) (flow : Flow) : Prop :=
  s.isAborted k = false ∧ (s.worker flow.worker).Accepts

instance (k : Nat) (flow : Flow) : Decidable (s.Dispatches k flow) :=
  inferInstanceAs (Decidable (_ ∧ _))

/-- The code goes on after a lock wait. -/
def lock (k : Nat) : Option Coordinator :=
  match s.place k with
  | .locking flow => if s.Granted flow then some (s.afterLocks k flow) else none
  | _ => none

/-- `executeQueryOnWorker` goes on with the answer of the worker. -/
def answer (k : Nat) : Option Coordinator :=
  match s.place k with
  | .calling flow =>
      if s.call k = .pending then none
      else some ((s.finishItem k (s.call k)).setPlace k (.releasing flow))
  | _ => none

/-- `executeQueryOnWorkerWithLocks` releases what it has acquired, and returns. -/
def release (k : Nat) : Option Coordinator :=
  match s.place k with
  | .releasing flow => some
      { s.setPlace k (.returned none flow.viaOverflow) with
        locks := s.locks.releaseLocks flow.tickets }
  | _ => none

/-- The end of `executeQuery`, or what `processOverflowQueue` has attached to its call: there,
nobody catches an error. -/
def conclude (k : Nat) : Option Coordinator :=
  match s.place k with
  | .returned _ true => some { s.setPlace k .over with continuations := s.continuations + 1 }
  | .returned none false => some ((s.setPlace k .over).processOverflowQueue config)
  | .returned (some error) false => some
      (((s.finishItem k (.rejected error)).setPlace k .over).processOverflowQueue config)
  | _ => none

/-- The connection of a worker answers: the worker's `executeQuery` goes on. -/
def complete (w : Nat) (succeeded : Bool) : Option Coordinator :=
  match (s.worker w).currentQuery with
  | none => none
  | some k =>
      if s.call k ≠ .pending then none
      else if ¬ succeeded then some (s.settleCall k (.rejected .execution))
      else if s.isAborted k then some (s.settleCall k (.rejected (.cancelled .user)))
      else some (s.settleCall k .resolved)

/-- The loop of `processQueue` goes on. -/
def advance (w : Nat) : Option Coordinator :=
  match (s.worker w).currentQuery with
  | none => none
  | some k =>
      if s.call k = .pending then none
      else some
        ({ s.setWorker w (s.worker w).advance with
            listeners := s.listeners.filter fun l => l ≠ Listener.worker w k }.beginCurrent w)

/-- What happens while no signal is calling its handlers. -/
def act : Action → Option Coordinator
  | .handle => none
  | .submit request => some (s.query config request)
  | .cancel id => some (s.cancel id)
  | .timeOut k => if s.timer k = true ∧ k < s.admitted then some (s.timeOut k) else none
  | .abort signal =>
      if s.aborted signal then none
      else some
        { s with
          aborted := Function.update s.aborted signal true
          dispatching := s.listeners.filter fun l =>
            (s.request l.query).signal = some signal }
  | .lock k => s.lock k
  | .answer k => s.answer k
  | .release k => s.release k
  | .conclude k => s.conclude config k
  | .continuation =>
      if s.continuations = 0 then none
      else some ({ s with continuations := s.continuations - 1 }.processOverflowQueue config)
  | .complete w succeeded => s.complete w succeeded
  | .advance w => s.advance w
  | .shutdown => some s.shutdown
  | .addWorker => some
      { s with
        workerCount := s.workerCount + 1
        worker := Function.update s.worker s.workerCount {} }
  | .ready w =>
      if (s.worker w).initializing = true ∧ w < s.workerCount then some
        (s.setWorker w { s.worker w with status := .idle, initializing := false })
      else none
  | .fail w =>
      if (s.worker w).initializing = true ∧ w < s.workerCount then some
        (s.setWorker w
          { s.worker w with status := .error, initializing := false, pooled := false })
      else none
  | .shutdownPool => some s.shutdownPool
  | .clearPool =>
      if s.poolShuttingDown then some
        { s with worker := fun w =>
            if w < s.workerCount then { s.worker w with pooled := false } else s.worker w }
      else none

/-- One step.  The handlers of a signal are called one after the other, with nothing in
between. -/
def step (action : Action) : Option Coordinator :=
  match s.dispatching with
  | [] => s.act config action
  | l :: rest =>
      if action = .handle then some ({ s with dispatching := rest }.handle l) else none

/-- The outcome of a query on the connection of its worker. -/
def outcome (k : Nat) (succeeded : Bool) : Settlement :=
  if ¬ succeeded then .rejected .execution
  else if s.isAborted k then .rejected (.cancelled .user)
  else .resolved

/-- What can happen while no signal is calling its handlers, and when. -/
inductive Acts : Action → Coordinator → Prop
  | submit (r : QueryRequest) : Acts (.submit r) (s.query config r)
  | cancel (id : String) : Acts (.cancel id) (s.cancel id)
  | timeOut {k : Nat} (htimer : s.timer k = true) (hk : k < s.admitted) :
      Acts (.timeOut k) (s.timeOut k)
  | abort {signal : Nat} (hsignal : s.aborted signal = false) :
      Acts (.abort signal)
        { s with
          aborted := Function.update s.aborted signal true
          dispatching := s.listeners.filter fun l =>
            (s.request l.query).signal = some signal }
  | lock {k : Nat} {flow : Flow} (hplace : s.place k = .locking flow)
      (hgranted : s.Granted flow) : Acts (.lock k) (s.afterLocks k flow)
  | answer {k : Nat} {flow : Flow} (hplace : s.place k = .calling flow)
      (hcall : s.call k ≠ .pending) :
      Acts (.answer k) ((s.finishItem k (s.call k)).setPlace k (.releasing flow))
  | release {k : Nat} {flow : Flow} (hplace : s.place k = .releasing flow) :
      Acts (.release k)
        { s.setPlace k (.returned none flow.viaOverflow) with
          locks := s.locks.releaseLocks flow.tickets }
  | concludeOverflow {k : Nat} {error : Option PoolError}
      (hplace : s.place k = .returned error true) :
      Acts (.conclude k)
        { s.setPlace k .over with continuations := s.continuations + 1 }
  | conclude {k : Nat} (hplace : s.place k = .returned none false) :
      Acts (.conclude k) ((s.setPlace k .over).processOverflowQueue config)
  | concludeError {k : Nat} {error : PoolError}
      (hplace : s.place k = .returned (some error) false) :
      Acts (.conclude k)
        (((s.finishItem k (.rejected error)).setPlace k .over).processOverflowQueue config)
  | continuation (hcount : s.continuations ≠ 0) :
      Acts .continuation
        ({ s with continuations := s.continuations - 1 }.processOverflowQueue config)
  | complete {w k : Nat} {succeeded : Bool} (hcurrent : (s.worker w).currentQuery = some k)
      (hcall : s.call k = .pending) :
      Acts (.complete w succeeded) (s.settleCall k (s.outcome k succeeded))
  | advance {w k : Nat} (hcurrent : (s.worker w).currentQuery = some k)
      (hcall : s.call k ≠ .pending) :
      Acts (.advance w)
        ({ s.setWorker w (s.worker w).advance with
            listeners := s.listeners.filter fun l => l ≠ Listener.worker w k }.beginCurrent w)
  | shutdown : Acts .shutdown s.shutdown
  | addWorker :
      Acts .addWorker
        { s with
          workerCount := s.workerCount + 1
          worker := Function.update s.worker s.workerCount {} }
  | ready {w : Nat} (hinitializing : (s.worker w).initializing = true)
      (hw : w < s.workerCount) :
      Acts (.ready w) (s.setWorker w { s.worker w with status := .idle, initializing := false })
  | fail {w : Nat} (hinitializing : (s.worker w).initializing = true)
      (hw : w < s.workerCount) :
      Acts (.fail w)
        (s.setWorker w
          { s.worker w with status := .error, initializing := false, pooled := false })
  | shutdownPool : Acts .shutdownPool s.shutdownPool
  | clearPool (hdown : s.poolShuttingDown = true) :
      Acts .clearPool
        { s with worker := fun w =>
            if w < s.workerCount then { s.worker w with pooled := false } else s.worker w }

variable {config s}

theorem acts_of_act {t : Coordinator} {action : Action} (h : s.act config action = some t) :
    s.Acts config action t := by
  cases action with
  | handle => cases h
  | submit r =>
      cases h
      exact .submit r
  | cancel id =>
      cases h
      exact .cancel id
  | timeOut k =>
      simp only [act] at h
      split at h <;> cases h
      rename_i htimer
      exact .timeOut htimer.1 htimer.2
  | abort signal =>
      simp only [act] at h
      split at h <;> cases h
      rename_i hsignal
      exact .abort (by simpa using hsignal)
  | lock k =>
      simp only [act, lock] at h
      split at h
      · split at h <;> cases h
        exact .lock (by assumption) (by assumption)
      · cases h
  | answer k =>
      simp only [act, answer] at h
      split at h
      · split at h <;> cases h
        exact .answer (by assumption) (by assumption)
      · cases h
  | release k =>
      simp only [act, release] at h
      split at h <;> cases h
      exact .release (by assumption)
  | conclude k =>
      simp only [act, conclude] at h
      split at h <;> cases h
      · exact .concludeOverflow (by assumption)
      · exact .conclude (by assumption)
      · exact .concludeError (by assumption)
  | continuation =>
      simp only [act] at h
      split at h <;> cases h
      exact .continuation (by assumption)
  | complete w succeeded =>
      simp only [act, complete] at h
      split at h
      · cases h
      · rename_i k hcurrent
        split at h
        · cases h
        · rename_i hcall
          have hcall : s.call k = .pending := by simpa using hcall
          have hacts := @Acts.complete config s w k succeeded hcurrent hcall
          unfold outcome at hacts
          split at h
          · cases h
            rename_i hfailed
            rwa [if_pos hfailed] at hacts
          · rename_i hsucceeded
            rw [if_neg hsucceeded] at hacts
            split at h <;> cases h
            · rename_i haborted
              rwa [if_pos haborted] at hacts
            · rename_i haborted
              rwa [if_neg haborted] at hacts
  | advance w =>
      simp only [act, advance] at h
      split at h
      · cases h
      · split at h <;> cases h
        exact .advance (by assumption) (by assumption)
  | shutdown =>
      cases h
      exact .shutdown
  | addWorker =>
      cases h
      exact .addWorker
  | ready w =>
      simp only [act] at h
      split at h <;> cases h
      rename_i hw
      exact .ready hw.1 hw.2
  | fail w =>
      simp only [act] at h
      split at h <;> cases h
      rename_i hw
      exact .fail hw.1 hw.2
  | shutdownPool =>
      cases h
      exact .shutdownPool
  | clearPool =>
      simp only [act] at h
      split at h <;> cases h
      exact .clearPool (by assumption)

/-- A step is the call of a handler, or happens while none is to be called. -/
theorem step_cases {t : Coordinator} {action : Action} (h : s.step config action = some t) :
    (action = .handle ∧ ∃ l rest, s.dispatching = l :: rest ∧
      t = { s with dispatching := rest }.handle l) ∨
    (s.dispatching = [] ∧ s.Acts config action t) := by
  unfold step at h
  split at h
  · rename_i hdispatching
    exact .inr ⟨hdispatching, acts_of_act h⟩
  · rename_i l rest hdispatching
    split at h
    · rename_i haction
      cases h
      exact .inl ⟨haction, l, rest, hdispatching, rfl⟩
    · cases h

end Coordinator

end QueryPool

end Zentra
