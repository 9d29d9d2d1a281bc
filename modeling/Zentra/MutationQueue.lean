import Zentra.TableRows

/-!
# The offline mutation queue

Mutations that are made while the server cannot be reached wait in a table of the
browser's database, which all tabs of the application share.  The processor of a tab
reads the pending ones, orders them by their dependencies, and works through them one at
a time.

* `listed`, `choose`, `attempt`, `executed` — what it does next;
* `NotWaiting` — the mutations that no list of pending ones has.
-/

open TableRows

namespace Zentra

namespace SyncEngine

inductive MutationStatus
  | pending
  | inProgress
  | completed
  | failed
  | offlineQueued
  deriving DecidableEq, Repr

/-- The statuses that `getPendingMutations` asks for. -/
def MutationStatus.waiting : MutationStatus → Bool
  | pending => true
  | offlineQueued => true
  | _ => false

/-- `MutationQueueEntry`: what the processing reads and writes of it. -/
structure MutationEntry where
  id : String
  timestamp : Nat
  status : MutationStatus
  retryCount : Nat
  dependsOn : List String
  deriving DecidableEq, Repr

abbrev MutationStore := List MutationEntry

def getPendingMutations (store : MutationStore) : List MutationEntry :=
  orderedBy MutationEntry.timestamp (select (fun entry => entry.status.waiting = true) store)

/-- `updateStatus`, with the new retry count if there is one. -/
def updateStatus (id : String) (status : MutationStatus) (retryCount : Option Nat)
    (store : MutationStore) : MutationStore :=
  update (fun entry => entry.id = id)
    (fun entry =>
      { entry with status := status, retryCount := retryCount.getD entry.retryCount })
    store

def markInProgress (id : String) (store : MutationStore) : MutationStore :=
  updateStatus id .inProgress none store

def markCompleted (id : String) (store : MutationStore) : MutationStore :=
  updateStatus id .completed none store

def markAllPending (store : MutationStore) : MutationStore :=
  update (fun entry => entry.status = .offlineQueued)
    (fun entry => { entry with status := .pending }) store

def markAllOfflineQueued (store : MutationStore) : MutationStore :=
  update (fun entry => entry.status = .pending)
    (fun entry => { entry with status := .offlineQueued }) store

def deleteCompleted (store : MutationStore) : MutationStore :=
  select (fun entry => entry.status ≠ .completed) store

/-- `get`. -/
def getMutation (id : String) (store : MutationStore) : Option MutationEntry :=
  store.find? fun entry => entry.id = id

/-- The `visited` keys and the `result` of `topologicalSort`. -/
structure SortState where
  visited : List String
  result : List MutationEntry

/-- `visit` of `topologicalSort`; its depth is at most the number of the items. -/
def visit (items : List MutationEntry) : Nat → String → SortState → SortState
  | 0, _, state => state
  | depth + 1, key, state =>
      if key ∈ state.visited then state
      else
        let visited := { state with visited := key :: state.visited }
        match items.reverse.find? fun item => item.id = key with
        | none => visited
        | some item =>
            let after := item.dependsOn.foldl (fun state dep => visit items depth dep state) visited
            { after with result := after.result ++ [item] }

/-- `topologicalSort` of the mutations by what they depend on. -/
def topologicalSort (items : List MutationEntry) : List MutationEntry :=
  (items.foldl (fun state item => visit items (items.length + 1) item.id state) ⟨[], []⟩).result

def canProcessMutation (mutation : MutationEntry) (completedIds : List String) : Bool :=
  mutation.dependsOn.all (· ∈ completedIds)

example : (topologicalSort
    [⟨"b", 1, .pending, 0, ["a"]⟩, ⟨"a", 2, .pending, 0, []⟩]).map MutationEntry.id =
      ["a", "b"] := by decide

/-- The configuration of the manager and the processor. -/
structure QueueConfig where
  batchSize : Nat := 10
  maxAttempts : Nat := 3
  maxRetries : Nat := 3
  autoCleanup : Bool := true

/-- What `process` keeps over its batches: `completedIds`, how many mutations have
succeeded, and how many of the last batch could be processed. -/
structure Pass where
  completedIds : List String := []
  succeeded : Nat := 0
  processable : Option Nat := none
  deriving DecidableEq, Repr

/-- Where the synchronization of a tab stands: before which of its operations on the
table, or of its calls.  `attempt` counts the attempts at a mutation before this one, and
`rest` is what remains of the batch. -/
inductive Phase
  | idle
  | syncing
  | listing (pass : Pass)
  | choosing (pass : Pass) (rest : List MutationEntry)
  | attempting (pass : Pass) (mutation : MutationEntry) (attempt : Nat)
      (rest : List MutationEntry)
  | marked (pass : Pass) (mutation : MutationEntry) (attempt : Nat) (rest : List MutationEntry)
  | called (pass : Pass) (mutation : MutationEntry) (attempt : Nat) (rest : List MutationEntry)
  | backingOff (pass : Pass) (mutation : MutationEntry) (attempt : Nat)
      (rest : List MutationEntry)
  | succeeded (pass : Pass) (mutation : MutationEntry) (rest : List MutationEntry)
  | requeueing (pass : Pass) (mutation : MutationEntry) (rest : List MutationEntry)
  | failing (pass : Pass) (mutation : MutationEntry) (rest : List MutationEntry)
  | failed (pass : Pass) (mutation : MutationEntry) (retryCount : Nat)
      (rest : List MutationEntry)
  | abandoning (pass : Pass) (pending : List MutationEntry)
  | cleaning
  | releasing
  deriving DecidableEq, Repr

/-- What the executor and the resolver of conflicts answer: the mutation has succeeded, it
has failed, its conflict was resolved, or the executor threw an error. -/
inductive Outcome
  | success
  | failure
  | conflict
  | threw (retryable : Bool)
  deriving DecidableEq, Repr

/-- After the batches: completed mutations are cleaned up if there may be some. -/
def windUp (config : QueueConfig) (pass : Pass) : Phase :=
  if config.autoCleanup ∧ 0 < pass.succeeded then .cleaning else .releasing

/-- The pending mutations have been read: at first, or after a batch.  If none of the
batch could be processed, they are given up. -/
def listed (config : QueueConfig) (shouldStop : Bool) (pass : Pass)
    (pending : List MutationEntry) : Phase :=
  if ¬ shouldStop ∧ pending ≠ [] ∧ pass.processable = some 0 then .abandoning pass pending
  else if pending = [] ∨ shouldStop then windUp config pass
  else
    .choosing { pass with processable := some 0 }
      ((topologicalSort pending).take config.batchSize)

/-- The head of the loop of `processMutationWithRetry`. -/
def attempt (config : QueueConfig) (shouldStop : Bool) (pass : Pass) (mutation : MutationEntry)
    (attempt : Nat) (rest : List MutationEntry) : Phase :=
  if config.maxAttempts ≤ attempt ∨ shouldStop then .choosing pass rest
  else .attempting pass mutation attempt rest

def choose (config : QueueConfig) (shouldStop : Bool) (pass : Pass) :
    List MutationEntry → Phase
  | [] => .listing pass
  | mutation :: rest =>
      if shouldStop then .listing pass
      else if ¬ canProcessMutation mutation pass.completedIds then .choosing pass rest
      else
        attempt config shouldStop { pass with processable := pass.processable.map (· + 1) }
          mutation 0 rest

def executed (config : QueueConfig) (pass : Pass) (mutation : MutationEntry) (attempt : Nat)
    (rest : List MutationEntry) : Outcome → Phase
  | .success => .succeeded pass mutation rest
  | .failure => .failing pass mutation rest
  | .conflict => .requeueing pass mutation rest
  | .threw retryable =>
      if ¬ retryable ∨ config.maxAttempts ≤ attempt + 1 then .failing pass mutation rest
      else .backingOff pass mutation attempt rest

/-- `markFailed` has read the mutation. -/
def readFailed (pass : Pass) (mutation : MutationEntry) (rest : List MutationEntry) :
    Option MutationEntry → Phase
  | none => .choosing pass rest
  | some entry => .failed pass mutation (entry.retryCount + 1) rest

/-- The status that `markFailed` writes. -/
def failedStatus (config : QueueConfig) (retryCount : Nat) : MutationStatus :=
  if config.maxRetries ≤ retryCount then .failed else .pending

def Pass.complete (pass : Pass) (mutation : MutationEntry) : Pass :=
  { pass with completedIds := mutation.id :: pass.completedIds, succeeded := pass.succeeded + 1 }

/-- No entry of the mutation is pending. -/
def NotWaiting (id : String) (store : MutationStore) : Prop :=
  ∀ entry ∈ store, entry.id = id → entry.status.waiting = false

section NotWaiting

variable {id other : String} {store : MutationStore} {status : MutationStatus}
  {retryCount : Option Nat}

theorem mem_updateStatus {entry : MutationEntry}
    (h : entry ∈ updateStatus other status retryCount store) :
    (entry ∈ store ∧ entry.id ≠ other) ∨ (entry.status = status ∧ entry.id = other) := by
  obtain ⟨old, hold, rfl⟩ := List.mem_map.1 h
  by_cases hid : old.id = other
  · simp only [if_pos hid]
    exact .inr ⟨trivial, hid⟩
  · simp only [if_neg hid]
    exact .inl ⟨hold, hid⟩

theorem NotWaiting.updateStatus_ne (h : NotWaiting id store) (hne : id ≠ other) :
    NotWaiting id (updateStatus other status retryCount store) := by
  intro entry hentry hid
  obtain ⟨hold, -⟩ | ⟨-, hother⟩ := mem_updateStatus hentry
  · exact h entry hold hid
  · exact absurd (hid.symm.trans hother) hne

theorem NotWaiting.updateStatus (h : NotWaiting id store) (hstatus : status.waiting = false) :
    NotWaiting id (updateStatus other status retryCount store) := by
  intro entry hentry hid
  obtain ⟨hold, -⟩ | ⟨heq, -⟩ := mem_updateStatus hentry
  · exact h entry hold hid
  · rw [heq, hstatus]

theorem notWaiting_updateStatus (hstatus : status.waiting = false) :
    NotWaiting id (updateStatus id status retryCount store) := by
  intro entry hentry hid
  obtain ⟨-, hne⟩ | ⟨heq, -⟩ := mem_updateStatus hentry
  · exact absurd hid hne
  · rw [heq, hstatus]

section Updates

variable {p : MutationEntry → Prop} [DecidablePred p] {f : MutationEntry → MutationEntry}

theorem NotWaiting.update (h : NotWaiting id store)
    (hf : ∀ entry, p entry →
      (f entry).id = entry.id ∧ (f entry).status.waiting = entry.status.waiting) :
    NotWaiting id (update p f store) := by
  intro entry hentry hid
  obtain ⟨old, hold, rfl⟩ := List.mem_map.1 hentry
  by_cases hp : p old
  · simp only [if_pos hp] at hid ⊢
    rw [(hf old hp).2]
    exact h old hold ((hf old hp).1.symm.trans hid)
  · simp only [if_neg hp] at hid ⊢
    exact h old hold hid

def ids (store : MutationStore) : List String := store.map MutationEntry.id

theorem ids_update (hf : ∀ entry, p entry → (f entry).id = entry.id) :
    ids (TableRows.update p f store) = ids store := by
  unfold ids TableRows.update
  rw [List.map_map]
  refine List.map_congr_left fun entry _ => ?_
  by_cases hp : p entry
  · simp [hp, hf entry hp]
  · simp [hp]

end Updates

theorem NotWaiting.markAllPending (h : NotWaiting id store) :
    NotWaiting id (markAllPending store) :=
  h.update fun entry hstatus => ⟨rfl, by rw [hstatus]; rfl⟩

theorem NotWaiting.markAllOfflineQueued (h : NotWaiting id store) :
    NotWaiting id (markAllOfflineQueued store) :=
  h.update fun entry hstatus => ⟨rfl, by rw [hstatus]; rfl⟩

theorem NotWaiting.deleteCompleted (h : NotWaiting id store) :
    NotWaiting id (deleteCompleted store) :=
  fun entry hentry hid => h entry (mem_select.1 hentry).1 hid

theorem ids_updateStatus : ids (updateStatus other status retryCount store) = ids store :=
  ids_update fun _ _ => rfl

theorem ids_markAllPending : ids (markAllPending store) = ids store := ids_update fun _ _ => rfl

theorem ids_markAllOfflineQueued : ids (markAllOfflineQueued store) = ids store :=
  ids_update fun _ _ => rfl

theorem ids_deleteCompleted (h : id ∈ ids (deleteCompleted store)) : id ∈ ids store := by
  obtain ⟨entry, hentry, rfl⟩ := List.mem_map.1 h
  exact List.mem_map_of_mem (mem_select.1 hentry).1

end NotWaiting

end SyncEngine

end Zentra
