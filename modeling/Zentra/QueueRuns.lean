import Zentra.MutationQueue
import Zentra.StepTrace

/-!
# The runs of a queue processor

A processor works through the queue whenever it is asked to.  Mutations may be queued while
it does, it may be told to stop at any time, and the callbacks that it is given may throw.

* `Batched` — what is known of the batch that is worked through;
* `Batched.step` — every step keeps it.
-/

open StepTrace TableRows

namespace Zentra

namespace SyncEngine

section TopologicalSort

variable {items : List MutationEntry}

/-- What a visit adds to the result had not been visited, and is visited then. -/
def Grows (items : List MutationEntry) (before after : SortState) : Prop :=
  (∀ key ∈ before.visited, key ∈ after.visited) ∧
    ∃ added, after.result = before.result ++ added ∧ (added.map MutationEntry.id).Nodup ∧
      ∀ item ∈ added, item ∈ items ∧ item.id ∉ before.visited ∧ item.id ∈ after.visited

theorem Grows.refl (state : SortState) : Grows items state state :=
  ⟨fun _ h => h, [], by simp, by simp, by simp⟩

theorem Grows.trans {first second third : SortState} (h : Grows items first second)
    (h' : Grows items second third) : Grows items first third := by
  obtain ⟨hvisited, added, hresult, hnodup, hadded⟩ := h
  obtain ⟨hvisited', added', hresult', hnodup', hadded'⟩ := h'
  refine ⟨fun key hkey => hvisited' key (hvisited key hkey), added ++ added', ?_, ?_, ?_⟩
  · rw [hresult', hresult, List.append_assoc]
  · rw [List.map_append]
    refine List.nodup_append.2 ⟨hnodup, hnodup', ?_⟩
    intro a ha b hb hab
    obtain ⟨item, hitem, rfl⟩ := List.mem_map.1 ha
    obtain ⟨other, hother, rfl⟩ := List.mem_map.1 hb
    exact (hadded' other hother).2.1 (hab ▸ (hadded item hitem).2.2)
  · intro item hitem
    rcases List.mem_append.1 hitem with hfirst | hlast
    · obtain ⟨hmem, hnew, hthen⟩ := hadded item hfirst
      exact ⟨hmem, hnew, hvisited' _ hthen⟩
    · obtain ⟨hmem, hnew, hthen⟩ := hadded' item hlast
      exact ⟨hmem, fun hold => hnew (hvisited _ hold), hthen⟩

theorem grows_foldl {β : Type} {f : SortState → β → SortState}
    (h : ∀ state b, Grows items state (f state b)) (bs : List β) (state : SortState) :
    Grows items state (bs.foldl f state) := by
  induction bs generalizing state with
  | nil => exact Grows.refl state
  | cons b bs ih => exact (h state b).trans (ih (f state b))

theorem grows_visit (depth : Nat) (key : String) (state : SortState) :
    Grows items state (visit items depth key state) := by
  induction depth generalizing key state with
  | zero => exact Grows.refl state
  | succ depth ih =>
      unfold visit
      by_cases hkey : key ∈ state.visited
      · rw [if_pos hkey]
        exact Grows.refl state
      · rw [if_neg hkey]
        cases hitem : items.reverse.find? fun item => item.id = key with
        | none =>
            exact ⟨fun other hother => List.mem_cons_of_mem key hother, [], by simp, by simp,
              by simp⟩
        | some item =>
            have hid : item.id = key := by simpa using List.find?_some hitem
            have hmem : item ∈ items := List.mem_reverse.1 (List.mem_of_find?_eq_some hitem)
            obtain ⟨hvisited, added, hresult, hnodup, hadded⟩ := grows_foldl
              (fun state dep => ih dep state) item.dependsOn
              { state with visited := key :: state.visited }
            have hold : ∀ other ∈ added, other.id ≠ key ∧ other.id ∉ state.visited := by
              intro other hother
              simpa using (hadded other hother).2.1
            refine ⟨fun other hother => hvisited other (List.mem_cons_of_mem key hother),
              added ++ [item], ?_, ?_, ?_⟩
            · dsimp only
              rw [hresult, List.append_assoc]
            · rw [List.map_append]
              refine List.nodup_append.2 ⟨hnodup, List.nodup_singleton _, ?_⟩
              intro a ha b hb hab
              obtain ⟨other, hother, rfl⟩ := List.mem_map.1 ha
              rw [List.mem_singleton.1 hb] at hab
              exact (hold other hother).1 (hab.trans hid)
            · intro other hother
              rcases List.mem_append.1 hother with hdep | hlast
              · exact ⟨(hadded other hdep).1, (hold other hdep).2, (hadded other hdep).2.2⟩
              · rw [List.mem_singleton.1 hlast, hid]
                exact ⟨hmem, hkey, hvisited key List.mem_cons_self⟩

/-- Every mutation comes once in a batch, and is one of those that were sorted. -/
theorem topologicalSort_spec (items : List MutationEntry) :
    ((topologicalSort items).map MutationEntry.id).Nodup ∧
      ∀ item ∈ topologicalSort items, item ∈ items := by
  obtain ⟨-, added, hresult, hnodup, hadded⟩ :=
    grows_foldl (fun state item => @grows_visit items (items.length + 1) item.id state) items
      ⟨[], []⟩
  have hsort : topologicalSort items = added := by
    unfold topologicalSort
    rw [hresult]
    rfl
  rw [hsort]
  exact ⟨hnodup, fun item hitem => (hadded item hitem).1⟩

end TopologicalSort

/-- What remains of the batch. -/
def Phase.rest : Phase → List MutationEntry
  | .choosing _ rest => rest
  | .attempting _ _ _ rest => rest
  | .marked _ _ _ rest => rest
  | .called _ _ _ rest => rest
  | .backingOff _ _ _ rest => rest
  | .succeeded _ _ rest => rest
  | .requeueing _ _ rest => rest
  | .failing _ _ rest => rest
  | .failed _ _ _ rest => rest
  | _ => []

def Phase.current : Phase → Option MutationEntry
  | .attempting _ mutation _ _ => some mutation
  | .marked _ mutation _ _ => some mutation
  | .called _ mutation _ _ => some mutation
  | .backingOff _ mutation _ _ => some mutation
  | .succeeded _ mutation _ => some mutation
  | .requeueing _ mutation _ => some mutation
  | .failing _ mutation _ => some mutation
  | .failed _ mutation _ _ => some mutation
  | _ => none

namespace QueueRuns

/-- `QueueProcessor` with the table of its manager.  `trying` is the attempt whose `try` it
is in.  The code does not have the rest: the ids of all mutations so far, those that the
executor has succeeded with, what has been marked and handed to the executor in this run,
the table as it was at the beginning of the run and when it was last read, with the ids known
then, and the last batch. -/
structure Processor where
  store : MutationStore
  phase : Phase := .idle
  shouldStop : Bool := false
  disposed : Bool := false
  trying : Option Nat := none
  issued : List String
  done : List String
  touched : List String := []
  calls : List String := []
  opening : MutationStore := []
  seen : MutationStore := []
  known : List String := []
  batch : List MutationEntry := []
  deriving DecidableEq

/-- A processor that has not run yet. -/
def Processor.new (store : MutationStore) : Processor :=
  { store := store
    issued := ids store
    done := ids (select (fun entry => entry.status = .completed) store) }

/-- What happens: `process` is called, it goes on, the executor answers, a callback throws
(`isRetryable` says whether to retry, or throws as well), an exception of a callback ends
the run, the processor is told to stop or disposed of, or a mutation is queued. -/
inductive Event
  | process
  | advance
  | answer (outcome : Outcome)
  | throws (retryable : Option Bool)
  | escape
  | stop
  | dispose
  | enqueue (entry : MutationEntry)
  deriving DecidableEq, Repr

section Decisions

variable (config : QueueConfig) (shouldStop : Bool) (pass : Pass) (mutation : MutationEntry)
  (n : Nat) (rest pending : List MutationEntry)

theorem windUp_cases : windUp config pass = .cleaning ∨ windUp config pass = .releasing := by
  unfold windUp
  split
  · exact .inl rfl
  · exact .inr rfl

theorem listed_cases :
    (shouldStop = false ∧ pending ≠ [] ∧ pass.processable = some 0 ∧
        listed config shouldStop pass pending = .abandoning pass pending) ∨
      ((pending = [] ∨ shouldStop = true) ∧
        listed config shouldStop pass pending = windUp config pass) ∨
      (shouldStop = false ∧ pending ≠ [] ∧ pass.processable ≠ some 0 ∧
        listed config shouldStop pass pending = .choosing { pass with processable := some 0 }
          ((topologicalSort pending).take config.batchSize)) := by
  unfold listed
  by_cases hstuck : ¬ shouldStop = true ∧ pending ≠ [] ∧ pass.processable = some 0
  · rw [if_pos hstuck]
    exact .inl ⟨by simpa using hstuck.1, hstuck.2.1, hstuck.2.2, rfl⟩
  · rw [if_neg hstuck]
    by_cases hend : pending = [] ∨ shouldStop = true
    · rw [if_pos hend]
      exact .inr (.inl ⟨hend, rfl⟩)
    · rw [if_neg hend]
      obtain ⟨hsome, hgo⟩ := not_or.1 hend
      exact .inr (.inr ⟨by simpa using hgo, hsome, fun hzero => hstuck ⟨hgo, hsome, hzero⟩, rfl⟩)

theorem attempt_cases :
    ((config.maxAttempts ≤ n ∨ shouldStop = true) ∧
        attempt config shouldStop pass mutation n rest = .choosing pass rest) ∨
      (n < config.maxAttempts ∧ shouldStop = false ∧
        attempt config shouldStop pass mutation n rest = .attempting pass mutation n rest) := by
  unfold attempt
  by_cases hend : config.maxAttempts ≤ n ∨ shouldStop = true
  · rw [if_pos hend]
    exact .inl ⟨hend, rfl⟩
  · rw [if_neg hend]
    obtain ⟨hmore, hgo⟩ := not_or.1 hend
    exact .inr ⟨Nat.not_le.1 hmore, by simpa using hgo, rfl⟩

theorem choose_cases :
    (shouldStop = true ∧ choose config shouldStop pass (mutation :: rest) = .listing pass) ∨
      (shouldStop = false ∧ canProcessMutation mutation pass.completedIds = false ∧
        choose config shouldStop pass (mutation :: rest) = .choosing pass rest) ∨
      (shouldStop = false ∧ canProcessMutation mutation pass.completedIds = true ∧
        choose config shouldStop pass (mutation :: rest) = attempt config shouldStop
          { pass with processable := pass.processable.map (· + 1) } mutation 0 rest) := by
  cases shouldStop with
  | true => exact .inl ⟨rfl, rfl⟩
  | false =>
      cases hready : canProcessMutation mutation pass.completedIds with
      | false => exact .inr (.inl ⟨rfl, rfl, by simp [choose, hready]⟩)
      | true => exact .inr (.inr ⟨rfl, rfl, by simp [choose, hready]⟩)

theorem threw_cases (retryable : Bool) :
    executed config pass mutation n rest (.threw retryable) = .failing pass mutation rest ∨
      (n + 1 < config.maxAttempts ∧ executed config pass mutation n rest (.threw retryable) =
        .backingOff pass mutation n rest) := by
  unfold executed
  by_cases hend : ¬ retryable = true ∨ config.maxAttempts ≤ n + 1
  · exact .inl (if_pos hend)
  · exact .inr ⟨Nat.not_le.1 (not_or.1 hend).2, if_neg hend⟩

end Decisions

section Steps

variable (config : QueueConfig) (p : Processor)

/-- The beginning of `process`, which does nothing if it is running. -/
def process : Processor :=
  if p.phase ≠ .idle ∨ p.disposed then p
  else
    { p with
      phase := .listing {}, shouldStop := false, touched := [], calls := [],
      opening := p.store, seen := p.store, known := p.issued }

/-- The batch that has been chosen, or else the last one. -/
def Processor.nextBatch (p : Processor) : Phase → List MutationEntry
  | .choosing _ rest => rest
  | _ => p.batch

/-- The next operation of `process` on the table, or its call. -/
def advance : Option Processor :=
  match p.phase with
  | .idle => none
  | .syncing => none
  | .listing pass =>
      let next := listed config p.shouldStop pass (getPendingMutations p.store)
      some { p with phase := next, seen := p.store, known := p.issued, batch := p.nextBatch next }
  | .choosing pass rest => some { p with phase := choose config p.shouldStop pass rest }
  | .attempting pass mutation n rest => some
      { p with
        store := markInProgress mutation.id p.store
        phase := .marked pass mutation n rest
        trying := some n
        touched := mutation.id :: p.touched }
  | .marked pass mutation n rest => some
      { p with phase := .called pass mutation n rest, calls := mutation.id :: p.calls }
  | .called _ _ _ _ => none
  | .backingOff pass mutation n rest => some
      { p with phase := attempt config p.shouldStop pass mutation (n + 1) rest }
  | .succeeded pass mutation rest => some
      { p with
        store := markCompleted mutation.id p.store
        phase := .choosing (pass.complete mutation) rest }
  | .requeueing pass mutation rest => some
      { p with
        store := updateStatus mutation.id .pending (some (mutation.retryCount + 1)) p.store
        phase := .choosing pass rest }
  | .failing pass mutation rest => some
      { p with phase := readFailed pass mutation rest (getMutation mutation.id p.store) }
  | .failed pass mutation retryCount rest => some
      { p with
        store := updateStatus mutation.id (failedStatus config retryCount) (some retryCount)
          p.store
        phase := .choosing pass rest }
  | .abandoning pass [] => some { p with phase := windUp config pass }
  | .abandoning pass (mutation :: pending) => some
      { p with
        store := updateStatus mutation.id .failed none p.store
        phase := .abandoning pass pending }
  | .cleaning => some { p with store := deleteCompleted p.store, phase := .releasing }
  | .releasing => some { p with phase := .idle }

def answer (outcome : Outcome) : Option Processor :=
  match p.phase with
  | .called pass mutation n rest => some
      { p with
        phase := executed config pass mutation n rest outcome
        trying := if outcome matches .threw _ then none else p.trying
        done := if outcome = .success then mutation.id :: p.done else p.done }
  | _ => none

/-- The `catch` of `processMutationWithRetry`; an exception of `isRetryable` ends the run. -/
def caught (pass : Pass) (mutation : MutationEntry) (n : Nat) (rest : List MutationEntry) :
    Option Bool → Phase
  | some retryable => executed config pass mutation n rest (.threw retryable)
  | none => .idle

/-- The callback after an operation throws.  What `processMutation` throws is caught; what
is thrown in the `catch` or while mutations are given up ends the run. -/
def throws (retryable : Option Bool) : Option Processor :=
  match p.phase, p.trying with
  | .succeeded pass mutation rest, some n => some
      { p with
        store := markCompleted mutation.id p.store
        phase := caught config { pass with succeeded := pass.succeeded + 1 } mutation n rest
          retryable
        trying := none }
  | .failed pass mutation retryCount rest, some n => some
      { p with
        store := updateStatus mutation.id (failedStatus config retryCount) (some retryCount)
          p.store
        phase := caught config pass mutation n rest retryable
        trying := none }
  | .failed _ mutation retryCount _, none => some
      { p with
        store := updateStatus mutation.id (failedStatus config retryCount) (some retryCount)
          p.store
        phase := .idle }
  | .abandoning _ (mutation :: _), _ => some
      { p with store := updateStatus mutation.id .failed none p.store, phase := .idle }
  | _, _ => none

/-- `isRetryable` or `onRetry` throws after the executor has. -/
def escape : Option Processor :=
  match p.phase with
  | .called _ _ _ _ => some { p with phase := .idle }
  | .backingOff _ _ _ _ => some { p with phase := .idle }
  | _ => none

def step : Event → Option Processor
  | .process => some (process p)
  | .advance => advance config p
  | .answer outcome => answer config p outcome
  | .throws retryable => throws config p retryable
  | .escape => escape p
  | .stop => some { p with shouldStop := true }
  | .dispose => some { p with shouldStop := true, disposed := true }
  | .enqueue entry =>
      if entry.id ∈ p.issued ∨ entry.status ≠ .pending ∨ entry.retryCount ≠ 0 then none
      else some { p with store := p.store ++ [entry], issued := entry.id :: p.issued }

variable {config p} {q : Processor}

/-- What an answer does. -/
theorem answer_cases {outcome : Outcome} : answer config p outcome = some q →
    ∃ pass mutation n rest, p.phase = .called pass mutation n rest ∧ q =
      { p with
        phase := executed config pass mutation n rest outcome
        trying := if outcome matches .threw _ then none else p.trying
        done := if outcome = .success then mutation.id :: p.done else p.done } := by
  intro h
  unfold answer at h
  split at h
  next hphase => exact ⟨_, _, _, _, hphase, (Option.some.inj h).symm⟩
  · cases h

theorem throws_cases {retryable : Option Bool} (h : throws config p retryable = some q) :
    (∃ pass mutation rest n, p.phase = .succeeded pass mutation rest ∧ p.trying = some n ∧ q =
      { p with
        store := markCompleted mutation.id p.store
        phase := caught config { pass with succeeded := pass.succeeded + 1 } mutation n rest
          retryable
        trying := none }) ∨
    (∃ pass mutation retryCount rest, p.phase = .failed pass mutation retryCount rest ∧
      ((∃ n, p.trying = some n ∧ q =
        { p with
          store := updateStatus mutation.id (failedStatus config retryCount) (some retryCount)
            p.store
          phase := caught config pass mutation n rest retryable
          trying := none }) ∨
      (p.trying = none ∧ q =
        { p with
          store := updateStatus mutation.id (failedStatus config retryCount) (some retryCount)
            p.store
          phase := .idle }))) ∨
    ∃ pass mutation pending, p.phase = .abandoning pass (mutation :: pending) ∧ q =
      { p with store := updateStatus mutation.id .failed none p.store, phase := .idle } := by
  unfold throws at h
  split at h
  next hphase htrying => exact .inl ⟨_, _, _, _, hphase, htrying, (Option.some.inj h).symm⟩
  next hphase htrying =>
    exact .inr (.inl ⟨_, _, _, _, hphase, .inl ⟨_, htrying, (Option.some.inj h).symm⟩⟩)
  next hphase htrying =>
    exact .inr (.inl ⟨_, _, _, _, hphase, .inr ⟨htrying, (Option.some.inj h).symm⟩⟩)
  next hphase => exact .inr (.inr ⟨_, _, _, hphase, (Option.some.inj h).symm⟩)
  · cases h

theorem escape_cases (h : escape p = some q) : ∃ pass mutation n rest,
    (p.phase = .called pass mutation n rest ∨ p.phase = .backingOff pass mutation n rest) ∧
      q = { p with phase := .idle } := by
  unfold escape at h
  split at h
  next hphase => exact ⟨_, _, _, _, .inl hphase, (Option.some.inj h).symm⟩
  next hphase => exact ⟨_, _, _, _, .inr hphase, (Option.some.inj h).symm⟩
  · cases h

end Steps

def batchIds (rest : List MutationEntry) : List String := rest.map MutationEntry.id

/-- Every id is that of one mutation; what remains of the batch is in the table as it was
read, each once, and without the mutation at hand. -/
structure Batched (p : Processor) : Prop where
  nodup : (ids p.store).Nodup
  issued : ∀ id ∈ ids p.store, id ∈ p.issued
  rest : ∀ mutation ∈ p.phase.rest, mutation ∈ p.store ∧ mutation.status.waiting = true
  restNodup : (batchIds p.phase.rest).Nodup
  current : ∀ mutation ∈ p.phase.current, mutation.id ∉ batchIds p.phase.rest

section Batched

variable {config : QueueConfig} {p q : Processor} {pass : Pass} {mutation : MutationEntry}
  {n : Nat} {rest : List MutationEntry} {shouldStop : Bool}

theorem mem_batchIds (h : mutation ∈ rest) : mutation.id ∈ batchIds rest :=
  List.mem_map_of_mem h

theorem mem_updateStatus_of_ne {id : String} {status : MutationStatus} {retryCount : Option Nat}
    {store : MutationStore} (h : mutation ∈ store) (hne : mutation.id ≠ id) :
    mutation ∈ updateStatus id status retryCount store := by
  refine List.mem_map.2 ⟨mutation, h, ?_⟩
  rw [if_neg hne]

theorem eq_of_id {store : MutationStore} {entry : MutationEntry} (hnodup : (ids store).Nodup)
    (hentry : entry ∈ store) (hmutation : mutation ∈ store) (hid : entry.id = mutation.id) :
    entry = mutation :=
  List.inj_on_of_nodup_map hnodup hentry hmutation hid

theorem mem_updateStatus_cases {entry : MutationEntry} {id : String} {status : MutationStatus}
    {retryCount : Option Nat} {store : MutationStore}
    (h : entry ∈ updateStatus id status retryCount store) :
    (entry ∈ store ∧ entry.id ≠ id) ∨ (entry.id = id ∧ entry.status = status ∧
      ∃ old ∈ store, old.id = id ∧ entry.retryCount = retryCount.getD old.retryCount) := by
  obtain ⟨old, hold, rfl⟩ := List.mem_map.1 h
  by_cases hid : old.id = id
  · simp only [if_pos hid]
    exact .inr ⟨hid, trivial, old, hold, hid, rfl⟩
  · simp only [if_neg hid]
    exact .inl ⟨hold, hid⟩

theorem mem_of_mem_updateStatus_ne {entry : MutationEntry} {id : String} {status : MutationStatus}
    {retryCount : Option Nat} {store : MutationStore}
    (h : entry ∈ updateStatus id status retryCount store) (hne : entry.id ≠ id) :
    entry ∈ store :=
  ((mem_updateStatus_cases h).resolve_right fun hsame => hne hsame.1).1

/-- A phase that goes on with the same batch, or with a part of it. -/
structure Continues (old new : Phase) : Prop where
  rest : ∀ mutation ∈ new.rest, mutation ∈ old.rest
  restNodup : (batchIds old.rest).Nodup → (batchIds new.rest).Nodup
  current : (batchIds old.rest).Nodup →
    (∀ mutation ∈ old.current, mutation.id ∉ batchIds old.rest) →
      ∀ mutation ∈ new.current, mutation.id ∉ batchIds new.rest

theorem Continues.same {old new : Phase} (hrest : new.rest = old.rest)
    (hcurrent : ∀ mutation ∈ new.current, mutation ∈ old.current) : Continues old new := by
  refine ⟨fun mutation hmem => hrest ▸ hmem, fun h => hrest ▸ h, ?_⟩
  intro _ hold mutation hmem
  rw [hrest]
  exact hold mutation (hcurrent mutation hmem)

theorem Continues.over {old new : Phase} (hrest : new.rest = [])
    (hcurrent : new.current = none) : Continues old new := by
  refine ⟨fun mutation hmem => ?_, fun _ => ?_, fun _ _ mutation hmem => ?_⟩
  · rw [hrest] at hmem
    cases hmem
  · rw [hrest]
    exact List.nodup_nil
  · rw [hcurrent] at hmem
    cases hmem

theorem continues_choose :
    Continues (.choosing pass rest) (choose config shouldStop pass rest) := by
  cases rest with
  | nil => exact Continues.over rfl rfl
  | cons mutation rest =>
      have hnodup : (batchIds (mutation :: rest)).Nodup →
          mutation.id ∉ batchIds rest ∧ (batchIds rest).Nodup := List.nodup_cons.1
      rcases choose_cases config shouldStop pass mutation rest with
        ⟨-, heq⟩ | ⟨-, -, heq⟩ | ⟨-, -, heq⟩
      · exact heq ▸ Continues.over rfl rfl
      · rw [heq]
        exact ⟨fun other hmem => List.mem_cons_of_mem mutation hmem, fun h => (hnodup h).2,
          fun _ _ other hmem => absurd hmem (by simp [Phase.current])⟩
      · rw [heq]
        rcases attempt_cases config shouldStop { pass with
          processable := pass.processable.map (· + 1) } mutation 0 rest with
          ⟨-, hnext⟩ | ⟨-, -, hnext⟩
        · rw [hnext]
          exact ⟨fun other hmem => List.mem_cons_of_mem mutation hmem, fun h => (hnodup h).2,
            fun _ _ other hmem => absurd hmem (by simp [Phase.current])⟩
        · rw [hnext]
          refine ⟨fun other hmem => List.mem_cons_of_mem mutation hmem, fun h => (hnodup h).2,
            ?_⟩
          intro h _ other hmem
          obtain rfl : mutation = other := Option.some.inj hmem
          exact (hnodup h).1

theorem continues_attempt : Continues (.backingOff pass mutation n rest)
    (attempt config shouldStop pass mutation (n + 1) rest) := by
  rcases attempt_cases config shouldStop pass mutation (n + 1) rest with ⟨-, heq⟩ | ⟨-, -, heq⟩
  · exact heq ▸ Continues.same rfl (by simp [Phase.current])
  · exact heq ▸ Continues.same rfl (fun _ h => h)

theorem continues_executed {old : Phase} {outcome : Outcome} (hrest : old.rest = rest)
    (hcurrent : old.current = some mutation) :
    Continues old (executed config pass mutation n rest outcome) := by
  have hsame : ∀ other, some mutation = some other → other ∈ old.current :=
    fun other heq => hcurrent.trans heq
  cases outcome with
  | success => exact Continues.same hrest.symm hsame
  | failure => exact Continues.same hrest.symm hsame
  | conflict => exact Continues.same hrest.symm hsame
  | threw retryable =>
      rcases threw_cases config pass mutation n rest retryable with heq | ⟨-, heq⟩
      · exact heq ▸ Continues.same hrest.symm hsame
      · exact heq ▸ Continues.same hrest.symm hsame

theorem continues_caught {old : Phase} {retryable : Option Bool} (hrest : old.rest = rest)
    (hcurrent : old.current = some mutation) :
    Continues old (caught config pass mutation n rest retryable) := by
  cases retryable with
  | none => exact Continues.over rfl rfl
  | some retryable =>
      exact @continues_executed config pass mutation n rest old (.threw retryable) hrest hcurrent

/-- A step that keeps the mutations of the batch and all ids. -/
theorem Batched.move (h : Batched p) (hphase : Continues p.phase q.phase)
    (hids : ids q.store = ids p.store) (hissued : q.issued = p.issued)
    (hkeep : ∀ mutation ∈ q.phase.rest, mutation ∈ p.store → mutation ∈ q.store) :
    Batched q := by
  refine ⟨?_, ?_, ?_, hphase.restNodup h.restNodup, hphase.current h.restNodup h.current⟩
  · rw [hids]
    exact h.nodup
  · rw [hids, hissued]
    exact h.issued
  · intro mutation hmem
    obtain ⟨hstore, hwaiting⟩ := h.rest mutation (hphase.rest mutation hmem)
    exact ⟨hkeep mutation hmem hstore, hwaiting⟩

theorem Batched.update (h : Batched p) (hphase : Continues p.phase q.phase)
    (hcurrent : p.phase.current = some mutation) {status : MutationStatus}
    {retryCount : Option Nat} (hstore : q.store = updateStatus mutation.id status retryCount p.store)
    (hissued : q.issued = p.issued) : Batched q := by
  refine h.move hphase (by rw [hstore]; exact ids_updateStatus) hissued ?_
  intro other hmem hold
  rw [hstore]
  apply mem_updateStatus_of_ne hold
  intro heq
  apply h.current mutation hcurrent
  rw [← heq]
  exact mem_batchIds (hphase.rest other hmem)

theorem batched_listed (h : Batched p) (hstore : q.store = p.store)
    (hissued : q.issued = p.issued)
    (hphase : q.phase = listed config p.shouldStop pass (getPendingMutations p.store)) :
    Batched q := by
  have hover : ∀ phase : Phase, q.phase = phase → phase.rest = [] → phase.current = none →
      Batched q := by
    intro phase heq hrest hcurrent
    apply h.move (heq ▸ Continues.over hrest hcurrent) (by rw [hstore]) hissued
    intro mutation hmem
    rw [heq, hrest] at hmem
    cases hmem
  rcases listed_cases config p.shouldStop pass (getPendingMutations p.store) with
    ⟨-, -, -, heq⟩ | ⟨-, heq⟩ | ⟨-, -, -, heq⟩
  · exact hover _ (hphase.trans heq) rfl rfl
  · rcases windUp_cases config pass with hend | hend
    · exact hover _ (hphase.trans (heq.trans hend)) rfl rfl
    · exact hover _ (hphase.trans (heq.trans hend)) rfl rfl
  · obtain ⟨hnodup, hmem⟩ := topologicalSort_spec (getPendingMutations p.store)
    refine ⟨by rw [hstore]; exact h.nodup, by rw [hstore, hissued]; exact h.issued, ?_, ?_, ?_⟩
    · rw [hphase, heq, hstore]
      intro mutation hrest
      have hpending := hmem mutation (List.mem_of_mem_take hrest)
      exact mem_select.1 (mem_orderedBy.1 hpending)
    · rw [hphase, heq]
      unfold batchIds
      exact (List.Sublist.map _ (List.take_sublist _ _)).nodup hnodup
    · rw [hphase, heq]
      intro mutation hcurrent
      cases hcurrent

theorem Batched.advance (h : Batched p) (hstep : advance config p = some q) : Batched q := by
  have hmove := @Batched.move p q h
  unfold QueueRuns.advance at hstep
  generalize hphase : p.phase = phase at hstep
  cases phase with
  | idle => cases hstep
  | syncing => cases hstep
  | called pass mutation n rest => cases hstep
  | listing pass =>
      cases hstep
      exact batched_listed h rfl rfl rfl
  | choosing pass rest =>
      cases hstep
      exact h.move (hphase ▸ continues_choose) rfl rfl fun _ _ h => h
  | attempting pass mutation n rest =>
      cases hstep
      exact h.update (hphase ▸ Continues.same rfl fun _ h => h) (by rw [hphase]; rfl) rfl rfl
  | marked pass mutation n rest =>
      cases hstep
      exact h.move (hphase ▸ Continues.same rfl fun _ h => h) rfl rfl fun _ _ h => h
  | backingOff pass mutation n rest =>
      cases hstep
      exact h.move (hphase ▸ continues_attempt) rfl rfl fun _ _ h => h
  | succeeded pass mutation rest =>
      cases hstep
      exact h.update (hphase ▸ Continues.same rfl (by simp [Phase.current]))
        (by rw [hphase]; rfl) rfl rfl
  | requeueing pass mutation rest =>
      cases hstep
      exact h.update (hphase ▸ Continues.same rfl (by simp [Phase.current]))
        (by rw [hphase]; rfl) rfl rfl
  | failing pass mutation rest =>
      cases hstep
      cases hfound : getMutation mutation.id p.store with
      | none =>
          exact h.move (hphase ▸ Continues.same rfl (by simp [Phase.current, readFailed])) rfl rfl
            fun _ _ h => h
      | some entry =>
          exact h.move (hphase ▸ Continues.same rfl fun _ h => h) rfl rfl fun _ _ h => h
  | failed pass mutation retryCount rest =>
      cases hstep
      exact h.update (hphase ▸ Continues.same rfl (by simp [Phase.current]))
        (by rw [hphase]; rfl) rfl rfl
  | abandoning pass pending =>
      cases pending with
      | nil =>
          cases hstep
          rcases windUp_cases config pass with hend | hend
          · exact h.move (by rw [hend]; exact Continues.over rfl rfl) rfl rfl fun _ _ h => h
          · exact h.move (by rw [hend]; exact Continues.over rfl rfl) rfl rfl fun _ _ h => h
      | cons mutation pending =>
          cases hstep
          exact h.move (Continues.over rfl rfl) ids_updateStatus rfl fun _ hmem => by cases hmem
  | cleaning =>
      cases hstep
      refine ⟨?_, fun id hid => h.issued id (ids_deleteCompleted hid), ?_, List.nodup_nil, ?_⟩
      · exact (List.Sublist.map _ List.filter_sublist).nodup h.nodup
      · exact fun _ hmem => absurd hmem List.not_mem_nil
      · exact fun _ hmem => absurd hmem (by simp [Phase.current])
  | releasing =>
      cases hstep
      exact h.move (Continues.over rfl rfl) rfl rfl fun _ _ h => h

theorem Batched.throws (h : Batched p) {retryable : Option Bool}
    (hstep : throws config p retryable = some q) : Batched q := by
  rcases throws_cases hstep with ⟨pass, mutation, rest, n, hphase, -, rfl⟩ |
    ⟨pass, mutation, retryCount, rest, hphase, ⟨n, -, rfl⟩ | ⟨-, rfl⟩⟩ |
    ⟨pass, mutation, pending, hphase, rfl⟩
  · exact h.update (hphase ▸ continues_caught rfl rfl) (by rw [hphase]; rfl) rfl rfl
  · exact h.update (hphase ▸ continues_caught rfl rfl) (by rw [hphase]; rfl) rfl rfl
  · exact h.update (Continues.over rfl rfl) (by rw [hphase]; rfl) rfl rfl
  · exact h.move (Continues.over rfl rfl) ids_updateStatus rfl fun _ hmem => by cases hmem

/-- **One step** keeps what is known of the batch. -/
theorem Batched.step (h : Batched p) {event : Event} (hstep : step config p event = some q) :
    Batched q := by
  cases event with
  | advance => exact h.advance hstep
  | throws retryable => exact h.throws hstep
  | process =>
      obtain rfl := Option.some.inj hstep
      unfold process
      by_cases hbusy : p.phase ≠ .idle ∨ p.disposed = true
      · rw [if_pos hbusy]
        exact h
      · rw [if_neg hbusy]
        exact h.move (Continues.over rfl rfl) rfl rfl fun _ _ h => h
  | answer outcome =>
      obtain ⟨pass, mutation, n, rest, hphase, rfl⟩ := answer_cases hstep
      exact h.move (hphase ▸ continues_executed rfl rfl) rfl rfl fun _ _ h => h
  | escape =>
      obtain ⟨-, -, -, -, -, rfl⟩ := escape_cases hstep
      exact h.move (Continues.over rfl rfl) rfl rfl fun _ _ h => h
  | stop =>
      obtain rfl := Option.some.inj hstep
      exact ⟨h.nodup, h.issued, h.rest, h.restNodup, h.current⟩
  | dispose =>
      obtain rfl := Option.some.inj hstep
      exact ⟨h.nodup, h.issued, h.rest, h.restNodup, h.current⟩
  | enqueue entry =>
      unfold QueueRuns.step at hstep
      by_cases hbad : entry.id ∈ p.issued ∨ entry.status ≠ .pending ∨ entry.retryCount ≠ 0
      · simp [hbad] at hstep
      · simp only [if_neg hbad, Option.some.injEq] at hstep
        subst hstep
        have hfresh : entry.id ∉ ids p.store := fun hold => hbad (.inl (h.issued _ hold))
        refine ⟨?_, ?_, ?_, h.restNodup, h.current⟩
        · show (List.map _ (p.store ++ [entry])).Nodup
          rw [List.map_append]
          refine List.nodup_append.2 ⟨h.nodup, List.nodup_singleton _, ?_⟩
          intro a ha b hb hab
          rw [List.mem_singleton.1 hb] at hab
          exact hfresh (hab ▸ ha)
        · intro id hid
          rcases List.mem_map.1 hid with ⟨found, hfound, rfl⟩
          rcases List.mem_append.1 hfound with hold | hnew
          · exact List.mem_cons_of_mem _ (h.issued _ (List.mem_map_of_mem hold))
          · rw [List.mem_singleton.1 hnew]
            exact List.mem_cons_self
        · intro mutation hmem
          obtain ⟨hold, hwaiting⟩ := h.rest mutation hmem
          exact ⟨List.mem_append_left _ hold, hwaiting⟩

theorem batched_new {store : MutationStore} (h : (ids store).Nodup) :
    Batched (Processor.new store) :=
  ⟨h, fun _ hid => hid, fun _ hmem => absurd hmem List.not_mem_nil, List.nodup_nil,
    fun _ hmem => absurd hmem (by simp [Processor.new, Phase.current])⟩

/-- **What is left of a batch is never stale**, whatever is queued, answered, thrown, stopped
or started anew meanwhile. -/
theorem always_batched (config : QueueConfig) {store : MutationStore} (h : (ids store).Nodup)
    (events : List Event) : Always (step config) Batched (Processor.new store) events :=
  always_of_allowed Batched (fun _ hinv => hinv) (fun _ _ _ hinv _ hstep => hinv.step hstep)
    events _ (batched_new h) (allowed_of_forall (fun _ _ _ => trivial) _)

theorem always_batched_two : Always (step {}) Batched
    (Processor.new [⟨"a", 1, .pending, 0, []⟩, ⟨"b", 2, .pending, 0, ["a"]⟩])
      [.process, .advance, .advance, .advance, .stop] :=
  always_batched {} (by decide) _

end Batched

end QueueRuns

end SyncEngine

end Zentra
