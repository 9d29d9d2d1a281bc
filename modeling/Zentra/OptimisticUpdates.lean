import Mathlib.Data.List.Basic
import Zentra.StepTrace

/-!
# Optimistic updates of cached queries

A mutation changes the cached lists and items before the server has answered.  It remembers what
it found in a context, which its hook holds in a ref; when it fails, the hook puts back what the
contexts in its refs remember.

* `mutationFn`, `handleError` — what a hook does at the start of a mutation and when it fails;
* `step` — the mutations of any number of hooks, with their failures and successes.

A query that is removed is removed with every query whose key begins with its key.  What is
fetched again after a success is not part of it.
-/

namespace Zentra

namespace DataLayer

abbrev QueryKey := List String

/-- What a query holds: a list of items, or one of them. -/
inductive QueryKind
  | list
  | item
  deriving DecidableEq, Repr

abbrev QueryKind.Data (T : Type) : QueryKind → Type
  | .list => List T
  | .item => T

/-- The cached lists and the cached items, each under its key. -/
abbrev QueryClient (T : Type) := (kind : QueryKind) → QueryKey → Option (kind.Data T)

/-- How the id of an item is read and set. -/
structure ItemIds (T : Type) where
  id : T → String
  withId : T → String → T

section Client

variable {T : Type}

def setQueryData (kind : QueryKind) (queryKey : QueryKey) (data : kind.Data T)
    (client : QueryClient T) : QueryClient T :=
  Function.update client kind (Function.update (client kind) queryKey (some data))

/-- `setQueryData(queryKey, updater)`; nothing is set where the updater returns `undefined`. -/
def updateQueryData (kind : QueryKind) (queryKey : QueryKey)
    (updater : Option (kind.Data T) → Option (kind.Data T)) (client : QueryClient T) :
    QueryClient T :=
  match updater (client kind queryKey) with
  | none => client
  | some data => setQueryData kind queryKey data client

/-- `removeQueries({ queryKey })`: every query whose key begins with it. -/
def removeQueries (queryKey : QueryKey) (client : QueryClient T) : QueryClient T :=
  fun kind other => if queryKey <+: other then none else client kind other

@[simp] theorem setQueryData_self {kind : QueryKind} {queryKey : QueryKey} {data : kind.Data T}
    {client : QueryClient T} : setQueryData kind queryKey data client kind queryKey = some data := by
  unfold setQueryData
  rw [Function.update_self, Function.update_self]

theorem setQueryData_of_ne {kind other : QueryKind} {queryKey otherKey : QueryKey}
    {data : kind.Data T} {client : QueryClient T} (h : ¬ (other = kind ∧ otherKey = queryKey)) :
    setQueryData kind queryKey data client other otherKey = client other otherKey := by
  unfold setQueryData
  by_cases hkind : other = kind
  · subst hkind
    rw [Function.update_self, Function.update_of_ne fun hkey => h ⟨rfl, hkey⟩]
  · rw [Function.update_of_ne hkind]

theorem updateQueryData_self {kind : QueryKind} {queryKey : QueryKey}
    {updater : Option (kind.Data T) → Option (kind.Data T)} {client : QueryClient T} :
    updateQueryData kind queryKey updater client kind queryKey =
      (updater (client kind queryKey)).or (client kind queryKey) := by
  unfold updateQueryData
  cases updater (client kind queryKey) with
  | none => rfl
  | some data => exact setQueryData_self

theorem updateQueryData_of_ne {kind other : QueryKind} {queryKey otherKey : QueryKey}
    {updater : Option (kind.Data T) → Option (kind.Data T)} {client : QueryClient T}
    (h : ¬ (other = kind ∧ otherKey = queryKey)) :
    updateQueryData kind queryKey updater client other otherKey = client other otherKey := by
  unfold updateQueryData
  cases updater (client kind queryKey) with
  | none => rfl
  | some data => exact setQueryData_of_ne h

end Client

/-- The query that was changed, and what it held before. -/
structure OptimisticContext (T : Type) (kind : QueryKind) where
  queryKey : QueryKey
  previousData : Option (kind.Data T)

section Contexts

variable {T : Type}

def createOptimisticContext (kind : QueryKind) (queryKey : QueryKey) (client : QueryClient T) :
    OptimisticContext T kind where
  queryKey := queryKey
  previousData := client kind queryKey

/-- Set what was found, or remove the query where nothing was. -/
def rollbackOptimisticUpdate {kind : QueryKind} (context : OptimisticContext T kind)
    (client : QueryClient T) : QueryClient T :=
  match context.previousData with
  | some data => setQueryData kind context.queryKey data client
  | none => removeQueries context.queryKey client

/-- A change of one query, with its context. -/
def optimistically (kind : QueryKind) (queryKey : QueryKey)
    (updater : Option (kind.Data T) → Option (kind.Data T)) (client : QueryClient T) :
    QueryClient T × OptimisticContext T kind :=
  (updateQueryData kind queryKey updater client, createOptimisticContext kind queryKey client)

inductive ListUpdate (T : Type)
  | add (item : T)
  | remove (entityId : String)
  | update (entityId : String) (updater : T → T)

/-- How an item is changed: set, or removed by a deletion. -/
inductive ItemUpdate (T : Type)
  | update (updater : Option T → T)
  | remove

variable (ids : ItemIds T)

def ListUpdate.updater : ListUpdate T → Option (List T) → Option (List T)
  | .add item, none => some [item]
  | .add item, some old => some (old ++ [item])
  | .remove _, none => none
  | .remove entityId, some old => some (old.filter fun item => ids.id item ≠ entityId)
  | .update _ _, none => none
  | .update entityId updater, some old =>
      some (old.map fun item => if ids.id item = entityId then updater item else item)

def optimisticAddToList (queryKey : QueryKey) (item : T) (client : QueryClient T) :
    QueryClient T × OptimisticContext T .list :=
  optimistically .list queryKey (ListUpdate.updater ids (.add item)) client

def optimisticRemoveFromList (queryKey : QueryKey) (entityId : String) (client : QueryClient T) :
    QueryClient T × OptimisticContext T .list :=
  optimistically .list queryKey (ListUpdate.updater ids (.remove entityId)) client

def optimisticUpdateInList (queryKey : QueryKey) (entityId : String) (updater : T → T)
    (client : QueryClient T) : QueryClient T × OptimisticContext T .list :=
  optimistically .list queryKey (ListUpdate.updater ids (.update entityId updater)) client

def optimisticUpdateItem (queryKey : QueryKey) (updater : Option T → T)
    (client : QueryClient T) : QueryClient T × OptimisticContext T .item :=
  optimistically .item queryKey (fun old => some (updater old)) client

/-- The updater of `replaceProvisionalId`. -/
def replaceId (provisionalId serverId : String) : ListUpdate T :=
  .update provisionalId fun item => ids.withId item serverId

end Contexts

/-- What a mutation changes at its start, and whether its hook rolls back: `useDLCreate` passes a
`rollbackFn` that does nothing. -/
structure Mutation (T : Type) where
  list : Option (QueryKey × ListUpdate T) := none
  item : Option (QueryKey × ItemUpdate T) := none
  rollsBack : Bool := true

structure HookRefs (T : Type) where
  listContextRef : Option (OptimisticContext T .list) := none
  itemContextRef : Option (OptimisticContext T .item) := none

section Hooks

variable {T : Type} (ids : ItemIds T)

/-- The change of the list, whichever of the three it is. -/
def ListUpdate.run (queryKey : QueryKey) :
    ListUpdate T → QueryClient T → QueryClient T × OptimisticContext T .list
  | .add item => optimisticAddToList ids queryKey item
  | .remove entityId => optimisticRemoveFromList ids queryKey entityId
  | .update entityId updater => optimisticUpdateInList ids queryKey entityId updater

/-- The change of the item: that of `useDLUpdate`, or the removal of `useDLDelete`. -/
def ItemUpdate.run (queryKey : QueryKey) (client : QueryClient T) :
    ItemUpdate T → QueryClient T × OptimisticContext T .item
  | .update updater => optimisticUpdateItem queryKey updater client
  | .remove => (removeQueries queryKey client, createOptimisticContext .item queryKey client)

/-- The start of `mutationFn`: first the list, then the item; a ref is set where there is
something to remember. -/
def mutationFn (mutation : Mutation T) (client : QueryClient T) (refs : HookRefs T) :
    QueryClient T × HookRefs T :=
  let (client, listContextRef) := match mutation.list with
    | none => (client, refs.listContextRef)
    | some (queryKey, change) =>
        let (client, context) := change.run ids queryKey client
        (client, some context)
  match mutation.item with
  | none => (client, { refs with listContextRef })
  | some (queryKey, change) =>
      let (client, context) := change.run queryKey client
      (client, { listContextRef, itemContextRef := some context })

/-- The rollback of `createOnErrorCallback`: first the list, then the item. -/
def handleError (rollsBack : Bool) (refs : HookRefs T) (client : QueryClient T) :
    QueryClient T :=
  if rollsBack then
    let client := match refs.listContextRef with
      | none => client
      | some context => rollbackOptimisticUpdate context client
    match refs.itemContextRef with
    | none => client
    | some context => rollbackOptimisticUpdate context client
  else
    client

end Hooks

/-- A mutation that was started: by which hook, what it changes, what the cache was when it
started, and how it went. -/
structure Started (T : Type) where
  hook : Nat
  mutation : Mutation T
  before : QueryClient T
  /-- whether it succeeded, once it has ended -/
  outcome : Option Bool := none
  settled : Bool := false

/-- The cache, the refs of the hooks and the mutations in the order of their changes. -/
structure Mutations (T : Type) where
  client : QueryClient T
  refs : Nat → HookRefs T := fun _ => {}
  started : List (Started T) := []

/-- What happens to the mutations; they are numbered. -/
inductive MutationAction (T : Type)
  | mutate (hook : Nat) (mutation : Mutation T)
  | error (number : Nat)
  | success (number : Nat)
  /-- the server gave the item of a creation its id -/
  | replaced (number : Nat) (provisionalId serverId : String)
  | settled (number : Nat)

section Steps

variable {T : Type} (ids : ItemIds T)

def step (s : Mutations T) : MutationAction T → Option (Mutations T)
  | .mutate hook mutation =>
      let (client, refs) := mutationFn ids mutation s.client (s.refs hook)
      some
        { client := client
          refs := Function.update s.refs hook refs
          started := s.started ++ [{ hook, mutation, before := s.client }] }
  | .error number =>
      match s.started[number]? with
      | none => none
      | some m =>
          if m.outcome = none then
            some
              { client := handleError m.mutation.rollsBack (s.refs m.hook) s.client
                refs := Function.update s.refs m.hook {}
                started := s.started.set number { m with outcome := some false } }
          else
            none
  | .success number =>
      match s.started[number]? with
      | none => none
      | some m =>
          if m.outcome = none then
            some { s with started := s.started.set number { m with outcome := some true } }
          else
            none
  | .replaced number provisionalId serverId =>
      match s.started[number]? with
      | none => none
      | some m =>
          match m.mutation.list with
          | none => none
          | some (queryKey, _) =>
              if m.outcome = none ∧ m.mutation.rollsBack = false then
                -- A change of its own, which no context remembers.
                let change := replaceId ids provisionalId serverId
                some
                  { s with
                    client := (change.run ids queryKey s.client).1
                    started := s.started ++
                      [{ hook := m.hook, mutation := { list := some (queryKey, change) }
                         before := s.client, outcome := some true, settled := true }] }
              else
                none
  | .settled number =>
      match s.started[number]? with
      | none => none
      | some m =>
          if m.outcome ≠ none ∧ m.settled = false then
            some
              { s with
                refs := Function.update s.refs m.hook {}
                started := s.started.set number { m with settled := true } }
          else
            none

end Steps

end DataLayer

end Zentra
